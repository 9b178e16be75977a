import PgVitals.Text.Split
/-!
# Parts between cuts

Cutting a text is undone by putting it together again: a cut between two texts separates the parts
of one from those of the other, and a text without cuts is one part.

* `splitBy_cons` says what one more character in front does: it is a part of its own where it is
  cut, and belongs to the first part where it is not.
* `splitBy_append_cons` is the cut between two texts, and `splitBy_of_uncut` the text without one.
  Both are inductions over the text in front.

Where to cut is any test of characters, so the same lemmas serve for the blanks between words and
for the slashes of a path. There is always a part, `splitBy_ne_nil`: a text without characters has
one, which is empty.
-/

namespace PgVitals.Text

variable {cut : Char → Bool} {c : Char} {cs rest : List Char}

theorem splitBy_ne_nil (cut : Char → Bool) (cs : List Char) : splitBy cut cs ≠ [] := by
  cases cs with
  | nil => simp [splitBy]
  | cons c cs =>
    rw [splitBy]
    split
    · split <;> simp
    · simp

/-- A character in front is a part of its own where it is cut, and belongs to the first part where
it is not. -/
theorem splitBy_cons {part : List Char} {parts : List (List Char)}
    (h : splitBy cut cs = part :: parts) :
    splitBy cut (c :: cs) = if cut c then [] :: part :: parts else (c :: part) :: parts := by
  rw [splitBy, h]

/-- A cut separates the parts in front of it from those behind it. -/
theorem splitBy_append_cons (cut : Char → Bool) (cs rest : List Char) (h : cut c = true) :
    splitBy cut (cs ++ c :: rest) = splitBy cut cs ++ splitBy cut rest := by
  induction cs with
  | nil =>
    obtain ⟨part, parts, found⟩ := List.exists_cons_of_ne_nil (splitBy_ne_nil cut rest)
    rw [List.nil_append, splitBy_cons found, if_pos h, found]
    rfl
  | cons d cs ih =>
    obtain ⟨part, parts, found⟩ := List.exists_cons_of_ne_nil (splitBy_ne_nil cut cs)
    rw [found, List.cons_append] at ih
    rw [List.cons_append, splitBy_cons ih, splitBy_cons found]
    split <;> rfl

/-- Where nothing is cut there is one part. -/
theorem splitBy_of_uncut (cut : Char → Bool) (h : ∀ c ∈ cs, cut c = false) :
    splitBy cut cs = [cs] := by
  induction cs with
  | nil => rfl
  | cons c cs ih =>
    have whole := ih fun d member => h d (List.mem_cons_of_mem _ member)
    have kept : cut c = false := h c List.mem_cons_self
    rw [splitBy, whole]
    simp [kept]

end PgVitals.Text
