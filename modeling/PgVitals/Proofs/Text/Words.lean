import PgVitals.Text.Layout
import PgVitals.Text.Split
/-!
# Words of a line

The words of a text are its longest parts without blanks. How many blanks stand before a word,
between two words or at the end of a line makes no difference to them.

* `wordsIn` are the words among some characters, and `words` those of a text.
* `wordsIn_append_cons` says that a blank separates the words in front of it from those behind it,
  and `wordsIn_blanks_append` and `wordsIn_append_blanks` that blanks at either end do not matter.
* `wordsIn_word` says that a text without blanks is one word.
* `exists_trimEnd` says that what is trimmed off the end of a text is blank, so trimming leaves the
  words as they are.

Words are not part of any utility. They are how a reader takes a line apart, and are what is said
about lines whose columns have moved.
-/

namespace PgVitals.Text

variable {c : Char} {cs rest blanks : List Char}

/-- The words among some characters. -/
def wordsIn (cs : List Char) : List (List Char) :=
  (cs.splitOnP isBlank).filter fun part => !part.isEmpty

/-- The words of a text. -/
def words (s : String) : List String := (wordsIn s.toList).map String.ofList

@[simp]
theorem wordsIn_nil : wordsIn [] = [] := rfl

/-- A blank separates the words in front of it from those behind it. -/
theorem wordsIn_append_cons (cs rest : List Char) (blank : isBlank c = true) :
    wordsIn (cs ++ c :: rest) = wordsIn cs ++ wordsIn rest := by
  rw [wordsIn, List.splitOnP_append_cons cs rest blank, List.filter_append, wordsIn, wordsIn]

theorem wordsIn_cons (rest : List Char) (blank : isBlank c = true) :
    wordsIn (c :: rest) = wordsIn rest :=
  wordsIn_append_cons [] rest blank

theorem wordsIn_blanks_append (blank : ∀ c ∈ blanks, isBlank c = true) (rest : List Char) :
    wordsIn (blanks ++ rest) = wordsIn rest := by
  induction blanks with
  | nil => rfl
  | cons c blanks ih =>
    obtain ⟨first, others⟩ := List.forall_mem_cons.mp blank
    rw [List.cons_append, wordsIn_cons _ first, ih others]

theorem wordsIn_append_blanks (cs : List Char) (blank : ∀ c ∈ blanks, isBlank c = true) :
    wordsIn (cs ++ blanks) = wordsIn cs := by
  cases blanks with
  | nil => rw [List.append_nil]
  | cons c blanks =>
    obtain ⟨first, others⟩ := List.forall_mem_cons.mp blank
    have none := wordsIn_blanks_append others []
    rw [List.append_nil] at none
    rw [wordsIn_append_cons cs blanks first, none, wordsIn_nil, List.append_nil]

/-- A text without blanks is one word. -/
theorem wordsIn_word (some : cs ≠ []) (visible : ∀ c ∈ cs, isBlank c = false) :
    wordsIn cs = [cs] := by
  rw [wordsIn, List.splitOnP_eq_singleton visible]
  simp [some]

/-! ## The end of a line -/

/-- What is trimmed off the end of a text is blank. -/
theorem exists_trimEnd (s : String) :
    ∃ tail, (∀ c ∈ tail, isBlank c = true) ∧ (trimEnd s).toList ++ tail = s.toList := by
  refine ⟨(s.toList.reverse.takeWhile isBlank).reverse, fun c member => ?_, ?_⟩
  · exact (List.all_eq_true.mp List.all_takeWhile) c (List.mem_reverse.mp member)
  · rw [trimEnd, String.toList_ofList, trimEndBy, ← List.reverse_append,
      List.takeWhile_append_dropWhile, List.reverse_reverse]

end PgVitals.Text
