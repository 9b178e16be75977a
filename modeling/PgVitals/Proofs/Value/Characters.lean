import PgVitals.Value
/-!
# The characters of numbers and times

Numbers and times are written with digits, letters and a few signs, whatever their size. Only texts,
bytes and what holds other values can bring any other character.

* `isNumeric` are the characters, and `Numeric` texts of nothing else. They are kept by appending,
  cutting and padding, and that is all the proofs below need.
* `numeric_intText`, `numeric_floatText` and `numeric_text` are about whole numbers, doubles and
  decimals, with all the forms in which these are written; `Interval.numeric_text`,
  `Date.numeric_text` and `Timestamp.numeric_text` about times.
* `Value.isScalar` tells the values that are covered: nothing, a truth value, a number or a time.

Which text a number has is not said, only which characters are in it. The semicolon and the line
feed are not among them, so these values can stand in the cells of a file as they are; that is used
in `Proofs/Csv/Decoding`.
-/

namespace PgVitals

open PgVitals.Number PgVitals.Time

/-! ## Characters -/

/-- A character that numbers and times are written with. -/
def isNumeric (c : Char) : Bool := c.isAlphanum || [' ', '.', ',', ':', '+', '-'].contains c

/-- Nothing but characters that numbers and times are written with. -/
def Numeric (cs : List Char) : Prop := ∀ c ∈ cs, isNumeric c = true

instance (cs : List Char) : Decidable (Numeric cs) :=
  decidable_of_iff (cs.all isNumeric = true) List.all_eq_true

variable {cs rest : List Char} {c : Char}

@[simp]
theorem numeric_nil : Numeric [] := nofun

@[simp]
theorem numeric_cons : Numeric (c :: cs) ↔ isNumeric c = true ∧ Numeric cs := List.forall_mem_cons

@[simp]
theorem numeric_append : Numeric (cs ++ rest) ↔ Numeric cs ∧ Numeric rest :=
  List.forall_mem_append

theorem Numeric.of_subset (h : Numeric rest) (within : cs ⊆ rest) : Numeric cs :=
  fun c member => h c (within member)

theorem Numeric.take (h : Numeric cs) (n : Nat) : Numeric (cs.take n) :=
  h.of_subset (List.take_subset n cs)

theorem Numeric.drop (h : Numeric cs) (n : Nat) : Numeric (cs.drop n) :=
  h.of_subset (List.drop_subset n cs)

theorem Numeric.tail (h : Numeric cs) : Numeric cs.tail :=
  h.of_subset fun _ member => List.mem_of_mem_tail member

theorem numeric_zeros (n : Nat) : Numeric (List.replicate n '0') := by
  intro c member
  rw [List.eq_of_mem_replicate member]
  rfl

theorem numeric_sign {negative : Bool} : Numeric (if negative then ['-'] else []) := by
  cases negative <;> decide

/-! ## Whole numbers -/

namespace Number

theorem numeric_digits (n : Nat) : Numeric (digits n) := by
  intro c member
  have digit : c.isDigit = true := Nat.isDigit_of_mem_toDigits (by decide) (by decide) member
  simp [isNumeric, Char.isAlphanum, digit]

theorem numeric_natText (n : Nat) : Numeric (natText n).toList := by
  rw [natText, String.toList_ofList]
  exact numeric_digits n

theorem numeric_intText (n : Int) : Numeric (intText n).toList := by
  unfold intText
  split
  · rw [String.toList_ofList, numeric_cons]
    exact ⟨rfl, numeric_digits _⟩
  · exact numeric_natText _

theorem numeric_paddedDigits (width n : Nat) : Numeric (paddedDigits width n) :=
  numeric_append.mpr ⟨numeric_zeros _, numeric_digits n⟩

/-! ## Doubles -/

theorem numeric_dropTrailingZeros (h : Numeric cs) : Numeric (dropTrailingZeros cs) := by
  refine h.of_subset fun c member => ?_
  rw [dropTrailingZeros, List.mem_reverse] at member
  exact List.mem_reverse.mp ((List.dropWhile_sublist _).mem member)

theorem numeric_shortestFrom (i : Neighbourhood) (point : Int) (tries count : Nat) :
    Numeric (i.shortestFrom point tries count).digits := by
  induction tries generalizing count with
  | zero => exact numeric_nil
  | succ tries ih =>
    unfold Neighbourhood.shortestFrom
    split
    · exact numeric_dropTrailingZeros (numeric_digits _)
    · exact ih (count + 1)

theorem numeric_shortest (d : Dyadic) : Numeric d.shortest.digits := by
  unfold Dyadic.shortest
  split
  · decide
  · exact numeric_shortestFrom _ _ _ _

theorem numeric_exponentText (e : Int) : Numeric (exponentText e) := by
  unfold exponentText
  split <;> simp [numeric_paddedDigits] <;> decide

/-- Where digits are numeric, so is what is made of them in either form. -/
theorem numeric_scientific {s : Scientific} (h : Numeric s.digits) : Numeric s.text := by
  have zero : isNumeric '0' = true := rfl
  have point : isNumeric '.' = true := rfl
  unfold Scientific.text
  split
  · unfold positional
    split
    · simp [zero, point, numeric_zeros, h]
    · dsimp only
      split <;> simp [zero, point, numeric_zeros, h.take, h.drop]
  · unfold exponential
    dsimp only
    split <;> simp [point, numeric_exponentText, h.take, h.tail]

theorem numeric_floatText (x : Float) : Numeric (floatText x).toList := by
  unfold floatText
  split
  · decide
  · decide
  · decide
  · rw [String.toList_ofList, numeric_append]
    exact ⟨numeric_sign, numeric_scientific (numeric_shortest _)⟩

/-! ## Decimals -/

namespace Decimal

theorem numeric_finiteText (coefficient : Nat) (exponent : Int) :
    Numeric (finiteText coefficient exponent) := by
  have zero : isNumeric '0' = true := rfl
  have point : isNumeric '.' = true := rfl
  have letter : isNumeric 'E' = true := rfl
  have signs : isNumeric '+' = true ∧ isNumeric '-' = true := ⟨rfl, rfl⟩
  have ds := numeric_digits coefficient
  unfold finiteText
  dsimp only
  split
  · split
    · exact ds
    · split <;> simp [zero, point, numeric_zeros, ds, ds.take, ds.drop]
  · split <;> split <;> simp [point, letter, signs, numeric_digits, ds.take, ds.tail]

theorem numeric_payloadText (payload : Nat) : Numeric (payloadText payload) := by
  unfold payloadText
  split
  · exact numeric_nil
  · exact numeric_digits payload

theorem numeric_text (d : Decimal) : Numeric d.text.toList := by
  cases d with
  | finite negative coefficient exponent =>
    simp [text, sign, numeric_sign, numeric_finiteText]
  | infinite negative =>
    simp [text, sign, numeric_sign]
    decide
  | nan negative payload =>
    simp [text, sign, numeric_sign, numeric_payloadText]
    decide
  | signalling negative payload =>
    simp [text, sign, numeric_sign, numeric_payloadText]
    decide

end Decimal

end Number

/-! ## Times -/

namespace Time

theorem numeric_twoDigits (n : Nat) : Numeric (twoDigits n).toList := by
  rw [twoDigits, String.toList_ofList]
  exact numeric_paddedDigits 2 n

theorem numeric_fractionText (micros : Nat) : Numeric (Interval.fractionText micros).toList := by
  unfold Interval.fractionText
  split
  · exact numeric_nil
  · rw [String.toList_ofList, numeric_cons]
    exact ⟨rfl, numeric_paddedDigits 6 micros⟩

theorem Interval.numeric_text (i : Interval) : Numeric i.text.toList := by
  have colon : Numeric ":".toList := by decide
  have units : Numeric " day, ".toList ∧ Numeric " days, ".toList := by decide
  have days : Numeric (if i.days = 0 then ""
      else Number.intText i.days ++
        (if i.days.natAbs = 1 then " day, " else " days, ")).toList := by
    split
    · exact numeric_nil
    · rw [String.toList_append, numeric_append]
      refine ⟨numeric_intText _, ?_⟩
      split
      · exact units.1
      · exact units.2
  simp only [Interval.text, String.toList_append, String.toList_ofList, numeric_append, days, colon,
    numeric_natText, numeric_paddedDigits, numeric_fractionText, and_self]

theorem Date.numeric_text (d : Date) : Numeric d.text.toList := by
  have hyphen : Numeric "-".toList := by decide
  simp only [Date.text, String.toList_append, String.toList_ofList, numeric_append, hyphen,
    numeric_paddedDigits, numeric_twoDigits, and_self]

theorem numeric_offsetText (offset : Int) : Numeric (offsetText offset).toList := by
  have colon : Numeric ":".toList := by decide
  have sign : Numeric (if offset < 0 then "-" else "+").toList := by split <;> decide
  have seconds : Numeric (if offset.natAbs % 60 = 0 then ""
      else ":" ++ twoDigits (offset.natAbs % 60)).toList := by
    split
    · exact numeric_nil
    · rw [String.toList_append, numeric_append]
      exact ⟨colon, numeric_twoDigits _⟩
  simp only [offsetText, String.toList_append, numeric_append, sign, seconds, colon,
    numeric_twoDigits, and_self]

theorem Timestamp.numeric_text (t : Timestamp) : Numeric t.text.toList := by
  have marks : Numeric " ".toList ∧ Numeric ":".toList ∧ Numeric "".toList := by decide
  rcases zone : t.offset with _ | offset <;>
    simp only [Timestamp.text, Timestamp.textWith, zone, String.toList_append, numeric_append,
      marks, Date.numeric_text, numeric_twoDigits, numeric_fractionText, numeric_offsetText,
      and_self]

end Time

/-! ## Values -/

/-- Whether a value is nothing, a truth value, a number or a time: no text, no bytes, and nothing
that holds other values. -/
def Value.isScalar : Value → Bool
  | null | bool _ | int _ | float _ | decimal _ | timestamp _ | date _ | interval _ => true
  | _ => false

end PgVitals
