import PgVitals.Proofs.Text.Classes
import PgVitals.Release.Reading
import Mathlib.Data.List.Basic
/-!
# Numerals of releases

A release is written as the digits of its major number and perhaps a point and the digits of its
minor number. Read from left to right, the digits that are found are the ones that were written, if
what follows them does not go on with a numeral.

* `Numerals` is what is written, `Numerals.text` its text and `Numerals.release` what it says.
  Without a minor number that is zero.
* `Numerals.EndAt` says that the numerals end where some text begins. `Numerals.takeWhile_text`,
  `Numerals.dropWhile_text` and `Numerals.minorDigits?_text` say that reading stops there.
* `exists_of_begins` is the other direction: a text that begins with a digit begins with numerals
  that end somewhere.
* `ofDigits_ok` and `ofDigits_of_ok` are about the numbers: what is written without leading zeros is
  read as it was, if it is `Readable`.

Leading zeros and digits of other scripts are read, too, so different numerals may say the same
release. Only the direction from a release to its text is unique.
-/

namespace PgVitals.Release

open PgVitals.Text PgVitals.Number

/-! ## Digits -/

/-- One digit or more. -/
structure IsNumeral (ds : List Char) : Prop where
  nonempty : ds ≠ []
  digits : ∀ c ∈ ds, isDigit c = true

theorem IsNumeral.isEmpty {ds : List Char} (numeral : IsNumeral ds) : ds.isEmpty = false :=
  List.isEmpty_eq_false_iff.mpr numeral.nonempty

/-- A digit is no blank, so what begins with a numeral is behind the blanks before it. -/
theorem IsNumeral.leaves_isBlank {ds : List Char} (numeral : IsNumeral ds) (rest : List Char) :
    Leaves isBlank (ds ++ rest) := by
  cases ds with
  | nil => exact absurd rfl numeral.nonempty
  | cons d ds => exact leaves_cons (isBlank_of_isDigit (numeral.digits d List.mem_cons_self))

theorem digit?_of_isPlain {c : Char} (plain : c.isDigit = true) :
    digit? c = some (c.toNat - '0'.toNat) := by
  have bounds : 48 ≤ c.toNat ∧ c.toNat ≤ 57 := Char.isDigit_iff_toNat.mp plain
  have ascii : c.toNat < 128 := by omega
  rw [digit?, if_pos ascii, if_pos bounds]
  rfl

/-- Digits that are written without leading zeros write the number they are the digits of. -/
theorem numberOf_digits (n : Nat) : numberOf (digits n) = n := by
  have same : numberOf (digits n) = Nat.ofDigitChars 10 (digits n) 0 := by
    rw [numberOf, Nat.ofDigitChars_eq_foldl]
    refine List.foldl_ext _ _ _ fun sum c member => ?_
    have plain : c.isDigit = true := Nat.isDigit_of_mem_toDigits (by decide) (by decide) member
    rw [digit?_of_isPlain plain, Option.getD_some]
  rw [same]
  exact Nat.ofDigitChars_toDigits (by decide) (by decide)

theorem isNumeral_digits (n : Nat) : IsNumeral (digits n) where
  nonempty := Nat.toDigits_ne_nil
  digits := by
    intro c member
    have plain : c.isDigit = true := Nat.isDigit_of_mem_toDigits (by decide) (by decide) member
    rw [isDigit, digit?_of_isPlain plain]
    rfl

/-! ## Numerals -/

/-- What is written of a release: its major number, and perhaps its minor number. -/
structure Numerals where
  major : List Char
  minor : Option (List Char)
  major_numeral : IsNumeral major
  minor_numeral : ∀ ds ∈ minor, IsNumeral ds

/-- A point and a digit: so a minor number begins. -/
def BeginsMinor (cs : List Char) : Prop := ∃ d rest, cs = '.' :: d :: rest ∧ isDigit d = true

namespace Numerals

/-- The minor number behind its point. -/
def minorText (n : Numerals) : List Char :=
  match n.minor with
  | some ds => '.' :: ds
  | none => []

/-- The text of the numerals. -/
def text (n : Numerals) : List Char := n.major ++ n.minorText

/-- The release that is written; without a minor number it is zero. -/
def release (n : Numerals) : Release := ⟨numberOf n.major, numberOf (n.minor.getD [])⟩

/-- There are not too many digits to read them. -/
def Readable (n : Numerals) : Prop :=
  n.major.length ≤ digitLimit ∧ (n.minor.getD []).length ≤ digitLimit

/-- The numerals end where `rest` begins. -/
structure EndAt (n : Numerals) (rest : List Char) : Prop where
  digits : Leaves isDigit rest
  minor : n.minor = none → ¬ BeginsMinor rest

/-- A major number alone. -/
def ofMajor (major : Nat) : Numerals where
  major := digits major
  minor := none
  major_numeral := isNumeral_digits major
  minor_numeral := nofun

/-- A major and a minor number. -/
def ofPair (major minor : Nat) : Numerals where
  major := digits major
  minor := some (digits minor)
  major_numeral := isNumeral_digits major
  minor_numeral := by
    rintro _ ⟨⟩
    exact isNumeral_digits minor

theorem release_ofMajor (major : Nat) : (ofMajor major).release = ⟨major, 0⟩ := by
  simp only [release, ofMajor, numberOf_digits]
  rfl

theorem release_ofPair (major minor : Nat) : (ofPair major minor).release = ⟨major, minor⟩ := by
  simp only [release, ofPair, Option.getD_some, numberOf_digits]

theorem text_ofMajor (major : Nat) : (ofMajor major).text = digits major := List.append_nil _

theorem text_ofPair (major minor : Nat) :
    (⟨major, minor⟩ : Release).text = String.ofList (ofPair major minor).text := by
  have natural (n : Nat) : intText n = natText n := by
    rw [intText, if_neg (by omega), Int.natAbs_natCast]
  rw [← String.toList_inj, Release.text, natural, natural, natText, natText]
  simp [text, minorText, ofPair]

end Numerals

/-! ## Reading numerals -/

variable {cs rest : List Char}

theorem minorDigits?_none_iff : minorDigits? cs = none ↔ ¬ BeginsMinor cs := by
  unfold minorDigits?
  split
  · rename_i rest
    cases rest with
    | nil => simp [BeginsMinor]
    | cons d rest => cases digit : isDigit d <;> simp [BeginsMinor, digit]
  · rename_i other
    simp only [true_iff]
    rintro ⟨d, rest, rfl, -⟩
    exact other _ rfl

theorem minorDigits?_run {ds : List Char} (numeral : IsNumeral ds) (leaves : Leaves isDigit rest) :
    minorDigits? ('.' :: (ds ++ rest)) = some (ds, rest) := by
  rw [minorDigits?]
  simp only [takeWhile_run numeral.digits leaves, dropWhile_run numeral.digits leaves,
    numeral.isEmpty, Bool.false_eq_true, if_false]

namespace Numerals

variable {n : Numerals}

/-- Behind the digits of the major number no digit follows. -/
theorem leaves_minorText (ends : n.EndAt rest) : Leaves isDigit (n.minorText ++ rest) := by
  unfold minorText
  cases n.minor with
  | none => exact ends.digits
  | some ds => exact leaves_cons (by decide)

theorem takeWhile_text (ends : n.EndAt rest) :
    (n.text ++ rest).takeWhile isDigit = n.major := by
  rw [text, List.append_assoc]
  exact takeWhile_run n.major_numeral.digits (leaves_minorText ends)

theorem dropWhile_text (ends : n.EndAt rest) :
    (n.text ++ rest).dropWhile isDigit = n.minorText ++ rest := by
  rw [text, List.append_assoc]
  exact dropWhile_run n.major_numeral.digits (leaves_minorText ends)

theorem minorDigits?_text (ends : n.EndAt rest) :
    minorDigits? (n.minorText ++ rest) = n.minor.map fun ds => (ds, rest) := by
  unfold minorText
  cases written : n.minor with
  | none => exact minorDigits?_none_iff.mpr (ends.minor written)
  | some ds => exact minorDigits?_run (n.minor_numeral ds written) ends.digits

/-- A text that begins with a digit begins with numerals. -/
theorem exists_of_begins (begins : ¬ Leaves isDigit cs) :
    ∃ (n : Numerals) (rest : List Char), cs = n.text ++ rest ∧ n.EndAt rest := by
  obtain ⟨major, tail, rfl, digits, leaves⟩ := exists_run isDigit cs
  have numeral : IsNumeral major := by
    refine ⟨?_, digits⟩
    rintro rfl
    exact begins leaves
  by_cases minor : BeginsMinor tail
  · obtain ⟨d, after, rfl, digit⟩ := minor
    obtain ⟨ds, rest, cut, minorDigits, minorLeaves⟩ := exists_run isDigit (d :: after)
    have minorNumeral : IsNumeral ds := by
      refine ⟨?_, minorDigits⟩
      rintro rfl
      have out : isDigit d = false := minorLeaves d (by rw [← List.nil_append rest, ← cut]; rfl)
      rw [digit] at out
      cases out
    refine ⟨⟨major, some ds, numeral, ?_⟩, rest, ?_, minorLeaves, nofun⟩
    · rintro _ ⟨⟩
      exact minorNumeral
    · rw [cut, text, List.append_assoc]
      rfl
  · refine ⟨⟨major, none, numeral, nofun⟩, tail, ?_, leaves, fun _ => minor⟩
    rw [text, List.append_assoc]
    rfl

end Numerals

/-! ## Numbers -/

theorem ofDigits_ok {major minor : List Char} (majorFits : major.length ≤ digitLimit)
    (minorFits : minor.length ≤ digitLimit) :
    ofDigits major minor = .ok ⟨numberOf major, numberOf minor⟩ := by
  rw [ofDigits, readNumber, if_neg (by omega), readNumber, if_neg (by omega)]
  rfl

/-- Digits that can be read write the numbers that are read. -/
theorem ofDigits_of_ok {major minor : List Char} {release : Release}
    (read : ofDigits major minor = .ok release) :
    release = ⟨numberOf major, numberOf minor⟩ := by
  unfold ofDigits readNumber at read
  split at read
  · cases read
  · split at read
    · cases read
    · exact (Except.ok.inj read).symm

end PgVitals.Release
