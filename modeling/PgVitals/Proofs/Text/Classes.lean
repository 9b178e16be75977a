import PgVitals.Text.Blank
import PgVitals.Text.Digit
import PgVitals.Text.Word
/-!
# Classes of characters and runs

A digit of any script is a character of words and no blank; the tables of the classes say so range
by range. A run is a longest stretch of characters of one class: it ends where the text ends, or at
a character outside the class.

* `Within` and `Apart` compare two tables range by range, and are decided; `foreignDigits_within`
  and `foreignDigits_apart` are the two comparisons that are needed.
* `isWordCharacter_of_isDigit` and `isBlank_of_isDigit` follow for single characters, and
  `isWordCharacter_of_ascii` says what the class of words is within ASCII.
* `Leaves` says that a text ends or goes on outside a class. `takeWhile_run`, `dropWhile_run` and
  `exists_run` cut a text at the end of a run.

The tables are those of one version of the standard. Characters that come to be digits later are not
in them, and nothing depends on there being none.
-/

namespace PgVitals.Text

/-! ## Classes -/

namespace Ranges

variable {a b : Ranges} {code : Nat}

theorem holds_iff : a.holds code = true ↔ ∃ range ∈ a, range.1 ≤ code ∧ code ≤ range.2 := by
  simp only [holds, List.any_eq_true, Bool.and_eq_true, decide_eq_true_eq]

/-- Every range of `a` lies in a range of `b`. -/
def Within (a b : Ranges) : Prop :=
  ∀ range ∈ a, ∃ wider ∈ b, wider.1 ≤ range.1 ∧ range.2 ≤ wider.2

instance (a b : Ranges) : Decidable (a.Within b) :=
  decidable_of_iff
    (a.all fun range => b.any fun wider => wider.1.ble range.1 && range.2.ble wider.2)
    (by simp [Within])

/-- No range of `a` meets a range of `b`. -/
def Apart (a b : Ranges) : Prop :=
  ∀ range ∈ a, ∀ other ∈ b, range.2 < other.1 ∨ other.2 < range.1

instance (a b : Ranges) : Decidable (a.Apart b) :=
  decidable_of_iff
    (a.all fun range => b.all fun other => range.2.blt other.1 || other.2.blt range.1)
    (by simp only [Apart, List.all_eq_true, Bool.or_eq_true, Nat.blt_eq])

theorem Within.holds (within : a.Within b) (held : a.holds code = true) : b.holds code = true := by
  obtain ⟨range, member, first, last⟩ := holds_iff.mp held
  obtain ⟨wider, widerMember, before, behind⟩ := within range member
  exact holds_iff.mpr ⟨wider, widerMember, by omega, by omega⟩

theorem Apart.not_holds (apart : a.Apart b) (held : a.holds code = true) :
    b.holds code = false := by
  rw [Bool.eq_false_iff]
  intro both
  obtain ⟨range, member, first, last⟩ := holds_iff.mp held
  obtain ⟨other, otherMember, before, behind⟩ := holds_iff.mp both
  have := apart range member other otherMember
  omega

theorem isSome_start? : (a.start? code).isSome = a.holds code := by
  rw [start?, Option.isSome_map, Bool.eq_iff_iff, List.find?_isSome, holds, List.any_eq_true]

end Ranges

theorem foreignDigits_within : foreignDigits.Within foreignWordCharacters := by decide +kernel

theorem foreignDigits_apart : foreignDigits.Apart foreignBlanks := by decide +kernel

variable {c : Char}

/-- A digit is one of ten characters of ASCII, or in the table. -/
theorem isDigit_eq (c : Char) :
    isDigit c = if c.toNat < 128 then decide (48 ≤ c.toNat ∧ c.toNat ≤ 57)
      else foreignDigits.holds c.toNat := by
  unfold isDigit digit?
  split
  · split <;> simp_all
  · rw [Option.isSome_map, Ranges.isSome_start?]

theorem isWordCharacter_of_isDigit (digit : isDigit c = true) : isWordCharacter c = true := by
  rw [isDigit_eq] at digit
  unfold isWordCharacter
  split
  · rename_i ascii
    rw [if_pos ascii, decide_eq_true_eq] at digit
    simp [digit]
  · rename_i foreign
    rw [if_neg foreign] at digit
    exact foreignDigits_within.holds digit

theorem isBlank_of_isDigit (digit : isDigit c = true) : isBlank c = false := by
  rw [isDigit_eq] at digit
  unfold isBlank
  split
  · rename_i ascii
    rw [if_pos ascii, decide_eq_true_eq] at digit
    simp only [Bool.or_eq_false_iff, Bool.and_eq_false_iff, decide_eq_false_iff_not]
    omega
  · rename_i foreign
    rw [if_neg foreign] at digit
    exact foreignDigits_apart.not_holds digit

theorem isDigit_of_not_isWordCharacter (other : isWordCharacter c = false) :
    isDigit c = false := by
  cases digit : isDigit c with
  | false => rfl
  | true => rw [isWordCharacter_of_isDigit digit] at other; cases other

/-- Within ASCII the characters of words are the letters, the digits and the underscore. -/
theorem isWordCharacter_of_ascii (ascii : c.toNat < 128) (other : c.isAlphanum = false)
    (bar : c ≠ '_') : isWordCharacter c = false := by
  have each : ∀ n < 128, (Char.ofNat n).isAlphanum = false → Char.ofNat n ≠ '_' →
      isWordCharacter (Char.ofNat n) = false := by decide +kernel
  have own := each c.toNat ascii
  rw [Char.ofNat_toNat] at own
  exact own other bar

/-! ## Runs -/

/-- The text ends, or goes on with a character outside a class. -/
def Leaves (p : Char → Bool) (cs : List Char) : Prop := ∀ c ∈ cs.head?, p c = false

section

variable {p : Char → Bool} {run rest : List Char}

theorem leaves_nil : Leaves p [] := nofun

theorem leaves_cons {c : Char} (out : p c = false) : Leaves p (c :: rest) := by
  rintro _ ⟨⟩
  exact out

theorem Leaves.takeWhile (leaves : Leaves p rest) : rest.takeWhile p = [] := by
  cases rest with
  | nil => rfl
  | cons c rest => rw [List.takeWhile_cons, leaves c rfl]; simp

theorem Leaves.dropWhile (leaves : Leaves p rest) : rest.dropWhile p = rest := by
  cases rest with
  | nil => rfl
  | cons c rest => rw [List.dropWhile_cons, leaves c rfl]; simp

theorem takeWhile_run (inside : ∀ c ∈ run, p c = true) (leaves : Leaves p rest) :
    (run ++ rest).takeWhile p = run := by
  rw [List.takeWhile_append_of_pos inside, leaves.takeWhile, List.append_nil]

theorem dropWhile_run (inside : ∀ c ∈ run, p c = true) (leaves : Leaves p rest) :
    (run ++ rest).dropWhile p = rest := by
  rw [List.dropWhile_append_of_pos inside, leaves.dropWhile]

/-- What leaves a class leaves every smaller one. -/
theorem Leaves.mono {q : Char → Bool} {cs : List Char} (leaves : Leaves p cs)
    (smaller : ∀ c, p c = false → q c = false) : Leaves q cs :=
  fun c first => smaller c (leaves c first)

/-- Every text is a run and what leaves it. -/
theorem exists_run (p : Char → Bool) (cs : List Char) :
    ∃ run rest, cs = run ++ rest ∧ (∀ c ∈ run, p c = true) ∧ Leaves p rest := by
  induction cs with
  | nil => exact ⟨[], [], rfl, nofun, leaves_nil⟩
  | cons c cs ih =>
    cases inside : p c with
    | false => exact ⟨[], c :: cs, rfl, nofun, leaves_cons inside⟩
    | true =>
      obtain ⟨run, rest, rfl, held, leaves⟩ := ih
      refine ⟨c :: run, rest, rfl, ?_, leaves⟩
      intro d member
      rcases List.mem_cons.mp member with rfl | member
      · exact inside
      · exact held d member

end

end PgVitals.Text
