import PgVitals.Proofs.Release.Numerals
import PgVitals.Proofs.Release.Order
/-!
# What a server calls itself

An identification is a sentence: a product, a gap, and then a word that begins with the numerals of
a release. The release is read as it is written where the numerals end the word, or the mark of a
development, beta or candidate release does. Where anything else is attached to a minor number, that
number is lost: the major number alone ends at the point behind it, and the server is taken for the
first release of its major version.

* `Closes` says where the word of a release ends, with the marks listed in `IsMark`;
  `endsRelease_iff` says that the program finds out just that.
* `Sentence` is a text of this form, with the parts it is made of, and `Sentence.release` what it
  names.
* `Sentence.Cut` says that something which ends no release is attached to a minor number other than
  zero. `Sentence.identified?_text` is what is found in each case.
* `Sentence.exists_of_identified` is the other direction: where a release is found, there is such a
  sentence.

Digits and blanks are those of any script, as the program takes them; the tables of
`Proofs/Text/Classes` tell that no digit is a blank. A number with too many digits is found and not
read, and that is a failure of its own. The last theorem has a test version whose minor number is
lost.
-/

namespace PgVitals.Release

open PgVitals.Text PgVitals.Number

/-! ## The end of a release -/

/-- What may be attached to the numerals: nothing, or the mark of a release that is not out yet. -/
inductive IsMark : List Char → Prop
  | none : IsMark []
  | development : IsMark "devel".toList
  | beta {ds : List Char} (digits : ∀ c ∈ ds, isDigit c = true) : IsMark ("beta".toList ++ ds)
  | candidate {ds : List Char} (digits : ∀ c ∈ ds, isDigit c = true) : IsMark ("rc".toList ++ ds)

/-- The word of a release ends here, or behind a mark. -/
def Closes (cs : List Char) : Prop :=
  ∃ mark rest, cs = mark ++ rest ∧ IsMark mark ∧ Leaves isWordCharacter rest

variable {cs rest : List Char}

theorem afterWord?_eq_some_iff {word : String} :
    afterWord? word cs = some rest ↔ cs = word.toList ++ rest := by
  unfold afterWord?
  constructor
  · intro found
    split at found
    · rename_i leads
      obtain ⟨behind, rfl⟩ := List.isPrefixOf_iff_prefix.mp leads
      rw [List.drop_left] at found
      rw [Option.some.inj found]
    · cases found
  · rintro rfl
    rw [if_pos (List.isPrefixOf_iff_prefix.mpr (List.prefix_append _ _)), List.drop_left]

theorem endsWord_iff : endsWord cs = true ↔ Leaves isWordCharacter cs := by
  cases cs with
  | nil => simp [endsWord, Leaves]
  | cons c cs => simp [endsWord, Leaves]

/-- A number of its own may stand behind a mark. -/
theorem endsWord_behind_digits_iff :
    endsWord (cs.dropWhile isDigit) = true ↔
      ∃ ds rest, cs = ds ++ rest ∧ (∀ c ∈ ds, isDigit c = true) ∧ Leaves isWordCharacter rest := by
  constructor
  · intro ends
    obtain ⟨ds, rest, rfl, digits, leaves⟩ := exists_run isDigit cs
    rw [dropWhile_run digits leaves, endsWord_iff] at ends
    exact ⟨ds, rest, rfl, digits, ends⟩
  · rintro ⟨ds, rest, rfl, digits, leaves⟩
    rw [dropWhile_run digits (leaves.mono fun _ => isDigit_of_not_isWordCharacter), endsWord_iff]
    exact leaves

theorem endsRelease_eq (cs : List Char) :
    endsRelease cs = (endsWord cs || (afterWord? "devel" cs).any endsWord ||
      (afterWord? "beta" cs).any (fun rest => endsWord (rest.dropWhile isDigit)) ||
      (afterWord? "rc" cs).any (fun rest => endsWord (rest.dropWhile isDigit))) := by
  unfold endsRelease
  cases afterWord? "devel" cs <;> cases afterWord? "beta" cs <;> cases afterWord? "rc" cs <;> rfl

theorem endsRelease_iff : endsRelease cs = true ↔ Closes cs := by
  simp only [endsRelease_eq, Bool.or_eq_true, Option.any_eq_true, afterWord?_eq_some_iff,
    endsWord_behind_digits_iff]
  simp only [endsWord_iff]
  constructor
  · rintro (((leaves | ⟨rest, rfl, leaves⟩) | ⟨_, rfl, ds, rest, rfl, digits, leaves⟩) |
      ⟨_, rfl, ds, rest, rfl, digits, leaves⟩)
    · exact ⟨[], cs, rfl, .none, leaves⟩
    · exact ⟨_, rest, rfl, .development, leaves⟩
    · exact ⟨_, rest, (List.append_assoc _ _ _).symm, .beta digits, leaves⟩
    · exact ⟨_, rest, (List.append_assoc _ _ _).symm, .candidate digits, leaves⟩
  · rintro ⟨mark, rest, rfl, isMark, leaves⟩
    cases isMark with
    | none => exact .inl (.inl (.inl leaves))
    | development => exact .inl (.inl (.inr ⟨rest, rfl, leaves⟩))
    | @beta ds digits =>
      exact .inl (.inr ⟨ds ++ rest, List.append_assoc _ _ _, ds, rest, rfl, digits, leaves⟩)
    | @candidate ds digits =>
      exact .inr ⟨ds ++ rest, List.append_assoc _ _ _, ds, rest, rfl, digits, leaves⟩

instance (cs : List Char) : Decidable (Closes cs) := decidable_of_iff _ endsRelease_iff

/-! ## Sentences -/

/-- What stands in front of a release: a product between blanks. -/
structure Front where
  lead : List Char
  product : List Char
  gap : List Char
  lead_blank : ∀ c ∈ lead, isBlank c = true
  product_nonempty : product ≠ []
  product_solid : ∀ c ∈ product, isBlank c = false
  gap_nonempty : gap ≠ []
  gap_blank : ∀ c ∈ gap, isBlank c = true

/-- The product as it is written. -/
def Front.text (f : Front) : List Char := f.lead ++ f.product ++ f.gap

/-- A sentence whose second word begins with the numerals of a release. -/
structure Sentence where
  front : Front
  numerals : Numerals
  tail : List Char
  ends : numerals.EndAt tail

namespace Sentence

/-- The sentence as it is written. -/
def text (x : Sentence) : List Char := x.front.text ++ (x.numerals.text ++ x.tail)

/-- The release that the sentence names. -/
def release (x : Sentence) : Release := x.numerals.release

/-- Something that ends no release is attached to a minor number other than zero. -/
def Cut (x : Sentence) : Prop := x.release.minor ≠ 0 ∧ ¬ Closes x.tail

instance (x : Sentence) : Decidable x.Cut :=
  inferInstanceAs (Decidable (x.release.minor ≠ 0 ∧ ¬ Closes x.tail))

end Sentence

/-- What is found in a sentence: both numbers where the release ends behind them, and else the major
number alone, if there is a minor number to leave out. -/
theorem Sentence.identified?_text (x : Sentence) :
    identified? x.text =
      if Closes x.tail then some (x.numerals.major, x.numerals.minor.getD [])
      else x.numerals.minor.map fun _ => (x.numerals.major, []) := by
  obtain ⟨front, n, tail, ends⟩ := x
  have word : Leaves isBlank (n.text ++ tail) := by
    rw [Numerals.text, List.append_assoc]
    exact n.major_numeral.leaves_isBlank _
  have gap : Leaves (fun c => !isBlank c) (front.gap ++ (n.text ++ tail)) := by
    cases blanks : front.gap with
    | nil => exact absurd blanks front.gap_nonempty
    | cons c cs => exact leaves_cons (by simp [front.gap_blank c (by simp [blanks])])
  have product : Leaves isBlank (front.product ++ (front.gap ++ (n.text ++ tail))) := by
    cases solid : front.product with
    | nil => exact absurd solid front.product_nonempty
    | cons c cs => exact leaves_cons (front.product_solid c (by simp [solid]))
  have solid : ∀ c ∈ front.product, (!isBlank c) = true := by
    intro c member
    rw [front.product_solid c member]
    rfl
  have nonempty : front.product.isEmpty = false :=
    List.isEmpty_eq_false_iff.mpr front.product_nonempty
  simp only [text, Front.text, List.append_assoc, identified?,
    dropWhile_run front.lead_blank product, takeWhile_run solid gap, dropWhile_run solid gap,
    dropWhile_run front.gap_blank word, Numerals.takeWhile_text ends, Numerals.dropWhile_text ends,
    Numerals.minorDigits?_text ends, n.major_numeral.isEmpty, nonempty, Bool.or_false,
    Bool.false_eq_true, if_false]
  cases written : n.minor with
  | none => simp [Numerals.minorText, written, endsRelease_iff]
  | some ds =>
    -- A point is no character of a word, so the major number alone ends in front of it.
    have short : endsRelease (n.minorText ++ tail) = true := by
      rw [Numerals.minorText, written]
      exact endsRelease_iff.mpr ⟨[], _, rfl, .none, leaves_cons (by decide)⟩
    simp [short, endsRelease_iff]

/-- Where a release is found, there is a sentence that names one. -/
theorem Sentence.exists_of_identified {found : List Char × List Char}
    (read : identified? cs = some found) : ∃ x : Sentence, cs = x.text := by
  obtain ⟨lead, line, rfl, lead_blank, product_begins⟩ := exists_run isBlank cs
  obtain ⟨product, behind, rfl, solid, gap_begins⟩ := exists_run (fun c => !isBlank c) line
  obtain ⟨gap, word, rfl, gap_blank, begins⟩ := exists_run isBlank behind
  simp only [identified?, dropWhile_run lead_blank product_begins, takeWhile_run solid gap_begins,
    dropWhile_run solid gap_begins, dropWhile_run gap_blank begins] at read
  split at read
  · cases read
  · rename_i parts
    simp only [Bool.or_eq_true, List.isEmpty_iff, not_or] at parts
    obtain ⟨product_nonempty, digits⟩ := parts
    have numbered : ¬ Leaves isDigit word := by
      intro leaves
      exact digits leaves.takeWhile
    obtain ⟨n, tail, rfl, ends⟩ := Numerals.exists_of_begins numbered
    have gap_nonempty : gap ≠ [] := by
      rintro rfl
      -- Without a gap the product would go on up to a blank, but a digit is none.
      refine numbered fun c first => ?_
      have blank : isBlank c = true := by simpa using gap_begins c first
      rw [begins c first] at blank
      cases blank
    have product_solid : ∀ c ∈ product, isBlank c = false := by
      intro c member
      simpa using solid c member
    refine ⟨⟨⟨lead, product, gap, lead_blank, product_nonempty, product_solid, gap_nonempty,
      gap_blank⟩, n, tail, ends⟩, ?_⟩
    simp only [text, Front.text, List.append_assoc]

/-! ## Identifications -/

variable {s : String} {release : Release}

theorem ofIdentification_of_found {major minor : List Char}
    (found : identified? s.toList = some (major, minor)) :
    ofIdentification s = ofDigits major minor := by
  have nonempty : s.toList.isEmpty = false := by
    cases written : s.toList with
    | nil =>
      rw [written] at found
      cases found
    | cons c cs => rfl
  rw [ofIdentification, nonempty, found]
  rfl

/-- What is read has been found. -/
theorem identified_of_ok (read : ofIdentification s = .ok release) :
    ∃ found, identified? s.toList = some found := by
  cases found : identified? s.toList with
  | some numbers => exact ⟨numbers, rfl⟩
  | none =>
    rw [ofIdentification, found] at read
    split at read
    · cases read
    · cases read

/-- What a sentence is read as, if it is read. -/
theorem Sentence.numbers_of_ok {x : Sentence} (written : s.toList = x.text)
    (read : ofIdentification s = .ok release) :
    release = if Closes x.tail then x.release else ⟨x.release.major, 0⟩ := by
  have found := x.identified?_text
  rw [← written] at found
  split at found
  · rename_i closes
    rw [ofIdentification_of_found found] at read
    rw [if_pos closes, ofDigits_of_ok read]
    rfl
  · rename_i goesOn
    rw [if_neg goesOn]
    cases minor : x.numerals.minor with
    | none =>
      obtain ⟨numbers, hit⟩ := identified_of_ok read
      rw [minor, Option.map_none, hit] at found
      cases found
    | some ds =>
      rw [minor, Option.map_some] at found
      rw [ofIdentification_of_found found] at read
      rw [ofDigits_of_ok read]
      rfl

/-- A sentence that is read is read as the release it names, unless it is cut. -/
theorem Sentence.release_of_ok {x : Sentence} (written : s.toList = x.text)
    (read : ofIdentification s = .ok release) :
    release = if x.Cut then ⟨x.release.major, 0⟩ else x.release := by
  rw [x.numbers_of_ok written read]
  by_cases closes : Closes x.tail
  · rw [if_pos closes, if_neg fun cut => cut.2 closes]
  · by_cases zero : x.release.minor = 0
    · rw [if_neg closes, if_neg fun cut => cut.1 zero, ← zero]
    · rw [if_neg closes, if_pos ⟨zero, closes⟩]

/-- Without its minor number, unless that is zero, a release is an older one. -/
theorem Sentence.Cut.older {x : Sentence} (cut : x.Cut) : ⟨x.release.major, 0⟩ < x.release := by
  have natural : 0 ≤ x.release.minor := Int.natCast_nonneg _
  have nonzero := cut.1
  exact lt_iff.mpr (.inr ⟨rfl, by show 0 < x.release.minor; omega⟩)

/-- **A minor number is lost exactly where something that ends no release is attached to it.** An
identification that is read names a release. It is read as that release, unless it is cut: then the
minor number, which is not zero, is taken for zero, and the server for an older one than it says. -/
theorem identification_read_iff (s : String) (release : Release)
    (read : ofIdentification s = .ok release) :
    (∃ x : Sentence, s.toList = x.text) ∧
    ∀ x : Sentence, s.toList = x.text →
      (release = x.release ↔ ¬ x.Cut) ∧
      (x.Cut ↔ release < x.release) ∧
      (x.Cut → release = ⟨x.release.major, 0⟩) := by
  refine ⟨?_, fun x written => ?_⟩
  · obtain ⟨numbers, found⟩ := identified_of_ok read
    exact Sentence.exists_of_identified found
  · have value := x.release_of_ok written read
    by_cases cut : x.Cut
    · rw [if_pos cut] at value
      subst value
      have differs : (⟨x.release.major, 0⟩ : Release) ≠ x.release := fun same =>
        lt_irrefl _ (same ▸ cut.older)
      exact ⟨iff_of_false differs (not_not.mpr cut), iff_of_true cut cut.older, fun _ => rfl⟩
    · rw [if_neg cut] at value
      subst value
      exact ⟨iff_of_true rfl cut, iff_of_false cut (lt_irrefl _), fun h => absurd h cut⟩

/-- In front of every release of the server. -/
def serverFront : Front where
  lead := []
  product := "PostgreSQL".toList
  gap := [' ']
  lead_blank := nofun
  product_nonempty := by decide
  product_solid c member :=
    Bool.eq_false_of_not_eq_true (List.any_eq_false.mp (by decide) c member)
  gap_nonempty := by decide
  gap_blank := List.all_eq_true.mp (by decide)

/-- A candidate for release 9.5. -/
def candidate : Sentence where
  front := serverFront
  numerals := .ofPair 9 5
  tail := "rc1 on x86_64".toList
  ends := ⟨leaves_cons (by decide), nofun⟩

/-- An earlier test of release 9.5. -/
def earlyTest : Sentence where
  front := serverFront
  numerals := .ofPair 9 5
  tail := "alpha1 on x86_64-pc-linux-gnu".toList
  ends := ⟨leaves_cons (by decide), nofun⟩

theorem identification_read_iff_candidate :
    "PostgreSQL 9.5rc1 on x86_64".toList = candidate.text ∧
      ofIdentification "PostgreSQL 9.5rc1 on x86_64" = .ok ⟨9, 5⟩ ∧ ¬ candidate.Cut ∧
      ∃ x : Sentence, "PostgreSQL 9.5rc1 on x86_64".toList = x.text := by
  have written : "PostgreSQL 9.5rc1 on x86_64".toList = candidate.text := by decide +kernel
  have read : ofIdentification "PostgreSQL 9.5rc1 on x86_64" = .ok ⟨9, 5⟩ := rfl
  have named : candidate.release = ⟨9, 5⟩ := by decide +kernel
  obtain ⟨exist, reads⟩ := identification_read_iff _ _ read
  exact ⟨written, read, (reads _ written).1.mp named.symm, exist⟩

/-- A test version that names release 9.5 is read as release 9.0. -/
theorem earlyTest_misread :
    "PostgreSQL 9.5alpha1 on x86_64-pc-linux-gnu".toList = earlyTest.text ∧
      earlyTest.release = ⟨9, 5⟩ ∧
      ofIdentification "PostgreSQL 9.5alpha1 on x86_64-pc-linux-gnu" = .ok ⟨9, 0⟩ := by
  refine ⟨by decide +kernel, by decide +kernel, rfl⟩

end PgVitals.Release
