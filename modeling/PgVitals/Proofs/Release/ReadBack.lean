import PgVitals.Proofs.Release.Identification
/-!
# Releases read back

A release that is written is read as the release it is: in what a server calls itself, with a mark
and any further text behind it, and bare, with blanks around it. Only numerals between blanks are a
bare release; every other text is refused.

* `Sentence.ofIdentification_ok` is the first half: a sentence whose release ends behind the
  numerals is read as the release it names.
* `IsAside` is the further text, which ends the word it stands behind. `IsMark.leaves_isDigit` and
  `IsMark.not_beginsMinor` say that no mark is taken for a numeral.
* `IsBare` are numerals between blanks, and `bare?_eq_none_iff` says that nothing else is found as a
  bare release. `ofText_refused_iff` says that everything else is refused.

Digits may be too many to be read. A bare release of this kind is not refused as a text that is no
release; it fails over its number, as `ofDigits_known` says, and the bound on the digits is the one
that the program has for all whole numbers.
-/

namespace PgVitals.Release

open PgVitals.Text PgVitals.Number

variable {s : String} {lead rest trail : List Char}

/-! ## In an identification -/

/-- A sentence whose release ends behind the numerals is read as the release it names. -/
theorem Sentence.ofIdentification_ok {x : Sentence} (written : s.toList = x.text)
    (readable : x.numerals.Readable) (closes : Closes x.tail) :
    ofIdentification s = .ok x.release := by
  have found := x.identified?_text
  rw [if_pos closes, ← written] at found
  rw [ofIdentification_of_found found]
  exact ofDigits_ok readable.1 readable.2

/-- The text ends, or goes on with a character of ASCII that is no letter, digit or underscore. -/
def IsAside (cs : List Char) : Prop :=
  ∀ c ∈ cs.head?, c.toNat < 128 ∧ c.isAlphanum = false ∧ c ≠ '_'

theorem IsAside.leaves (aside : IsAside rest) : Leaves isWordCharacter rest := by
  intro c first
  obtain ⟨ascii, other, bar⟩ := aside c first
  exact isWordCharacter_of_ascii ascii other bar

variable {mark : List Char}

theorem IsMark.leaves_isDigit (isMark : IsMark mark) (leaves : Leaves isWordCharacter rest) :
    Leaves isDigit (mark ++ rest) := by
  cases isMark with
  | none => exact leaves.mono fun _ => isDigit_of_not_isWordCharacter
  | development => exact leaves_cons (by decide)
  | beta => exact leaves_cons (by decide)
  | candidate => exact leaves_cons (by decide)

/-- No mark begins with a point. -/
theorem IsMark.not_beginsMinor (isMark : IsMark mark) (free : ¬ (mark = [] ∧ BeginsMinor rest)) :
    ¬ BeginsMinor (mark ++ rest) := by
  cases isMark with
  | none => exact fun begins => free ⟨rfl, begins⟩
  | _ =>
    rintro ⟨d, after, point, -⟩
    cases point

/-! ## Bare releases -/

/-- The text is numerals between blanks. -/
def IsBare (cs : List Char) : Prop :=
  ∃ (lead : List Char) (n : Numerals) (trail : List Char), cs = lead ++ (n.text ++ trail) ∧
    (∀ c ∈ lead, isBlank c = true) ∧ ∀ c ∈ trail, isBlank c = true

/-- Blanks end numerals. -/
theorem Numerals.endAt_blanks {n : Numerals} (blank : ∀ c ∈ trail, isBlank c = true) :
    n.EndAt trail := by
  refine ⟨fun c first => ?_, ?_⟩
  · have own := blank c (List.mem_of_mem_head? first)
    cases digit : isDigit c with
    | false => rfl
    | true =>
      rw [isBlank_of_isDigit digit] at own
      cases own
  · rintro - ⟨d, after, rfl, -⟩
    have point := blank '.' List.mem_cons_self
    exact absurd point (by decide)

/-- Numerals that are found behind blanks are taken if blanks are all that follows. -/
theorem bare?_numerals {n : Numerals} (blank : ∀ c ∈ lead, isBlank c = true)
    (ends : n.EndAt rest) :
    bare? (lead ++ (n.text ++ rest)) =
      if rest.all isBlank then some (n.major, n.minor.getD []) else none := by
  have begins : Leaves isBlank (n.text ++ rest) := by
    rw [Numerals.text, List.append_assoc]
    exact n.major_numeral.leaves_isBlank _
  simp only [bare?, dropWhile_run blank begins, Numerals.takeWhile_text ends,
    Numerals.dropWhile_text ends, Numerals.minorDigits?_text ends, n.major_numeral.isEmpty,
    Bool.false_eq_true, if_false]
  cases written : n.minor with
  | none => simp [Numerals.minorText, written]
  | some ds => rfl

theorem bare?_eq_none_iff {cs : List Char} : bare? cs = none ↔ ¬ IsBare cs := by
  constructor
  · rintro missed ⟨lead, n, trail, rfl, lead_blank, trail_blank⟩
    rw [bare?_numerals lead_blank (Numerals.endAt_blanks trail_blank),
      if_pos (List.all_eq_true.mpr trail_blank)] at missed
    cases missed
  · intro other
    obtain ⟨lead, behind, rfl, blank, begins⟩ := exists_run isBlank cs
    by_cases numbered : Leaves isDigit behind
    · simp only [bare?, dropWhile_run blank begins, numbered.takeWhile, List.isEmpty_nil, if_true]
    · obtain ⟨n, rest, rfl, ends⟩ := Numerals.exists_of_begins numbered
      rw [bare?_numerals blank ends, if_neg]
      intro all
      exact other ⟨lead, n, rest, rfl, blank, List.all_eq_true.mp all⟩

theorem ofText_ok {n : Numerals} (written : s.toList = lead ++ (n.text ++ trail))
    (readable : n.Readable) (lead_blank : ∀ c ∈ lead, isBlank c = true)
    (trail_blank : ∀ c ∈ trail, isBlank c = true) : ofText s = .ok n.release := by
  rw [ofText, written, bare?_numerals lead_blank (Numerals.endAt_blanks trail_blank),
    if_pos (List.all_eq_true.mpr trail_blank)]
  exact ofDigits_ok readable.1 readable.2

/-- Digits may be too many to be read, but they are a release. -/
theorem ofDigits_known (major minor : List Char) (cause : ReleaseCause) :
    ofDigits major minor ≠ .error (.releaseUnknown cause) := by
  unfold ofDigits readNumber
  split
  · nofun
  · split
    · nofun
    · nofun

theorem ofText_refused_iff :
    ofText s = .error (.releaseUnknown (.notMajorMinor (quote s))) ↔ ¬ IsBare s.toList := by
  rw [← bare?_eq_none_iff, ofText]
  cases found : bare? s.toList with
  | none => simp
  | some numbers => simp [ofDigits_known]

/-! ## Both ways -/

/-- **What is written of a release is read as that release.** Of numbers that are not too long to
write, both are read from an identification, whatever mark and other text follow them; a major
number alone is read with the minor number zero, unless what follows it would be one. The bare text
of the release is read as the same release. A bare release is nothing but numerals between
blanks. -/
theorem release_read_back :
    (∀ major minor : Nat, (digits major).length ≤ digitLimit → (digits minor).length ≤ digitLimit →
      (∀ (front : Front) (mark rest : List Char), IsMark mark → IsAside rest →
        ofIdentification (String.ofList front.text ++ (⟨major, minor⟩ : Release).text ++
          String.ofList (mark ++ rest)) = .ok ⟨major, minor⟩ ∧
        (¬ (mark = [] ∧ BeginsMinor rest) →
          ofIdentification (String.ofList front.text ++ natText major ++
            String.ofList (mark ++ rest)) = .ok ⟨major, 0⟩)) ∧
      ∀ lead trail : List Char, (∀ c ∈ lead, isBlank c = true) → (∀ c ∈ trail, isBlank c = true) →
        ofText (String.ofList lead ++ (⟨major, minor⟩ : Release).text ++ String.ofList trail) =
          .ok ⟨major, minor⟩) ∧
    ∀ s, ofText s = .error (.releaseUnknown (.notMajorMinor (quote s))) ↔ ¬ IsBare s.toList := by
  refine ⟨fun major minor majorFits minorFits => ⟨?_, ?_⟩, fun s => ofText_refused_iff⟩
  · intro front mark rest isMark aside
    have closes : Closes (mark ++ rest) := ⟨mark, rest, rfl, isMark, aside.leaves⟩
    have digits := isMark.leaves_isDigit aside.leaves
    refine ⟨?_, fun free => ?_⟩
    · let x : Sentence := ⟨front, .ofPair major minor, mark ++ rest, digits, nofun⟩
      have written : (String.ofList front.text ++ (⟨major, minor⟩ : Release).text ++
          String.ofList (mark ++ rest)).toList = x.text := by
        simp [x, Sentence.text, Numerals.text_ofPair]
      rw [x.ofIdentification_ok written ⟨majorFits, minorFits⟩ closes]
      exact congrArg _ (Numerals.release_ofPair major minor)
    · let x : Sentence :=
        ⟨front, .ofMajor major, mark ++ rest, digits, fun _ => isMark.not_beginsMinor free⟩
      have written : (String.ofList front.text ++ natText major ++
          String.ofList (mark ++ rest)).toList = x.text := by
        simp [x, Sentence.text, Numerals.text_ofMajor, natText]
      rw [x.ofIdentification_ok written ⟨majorFits, Nat.zero_le _⟩ closes]
      exact congrArg _ (Numerals.release_ofMajor major)
  · intro lead trail lead_blank trail_blank
    have written : (String.ofList lead ++ (⟨major, minor⟩ : Release).text ++
        String.ofList trail).toList = lead ++ ((Numerals.ofPair major minor).text ++ trail) := by
      simp [Numerals.text_ofPair]
    rw [ofText_ok written ⟨majorFits, minorFits⟩ lead_blank trail_blank, Numerals.release_ofPair]

theorem release_read_back_beta :
    (digits 16).length ≤ digitLimit ∧ (digits 2).length ≤ digitLimit ∧
      ofIdentification "PostgreSQL 16.2beta3, compiled" = .ok ⟨16, 2⟩ ∧
      ofIdentification "PostgreSQL 16beta3, compiled" = .ok ⟨16, 0⟩ ∧
      ofText "\t16.2 " = .ok ⟨16, 2⟩ := by
  have major : (digits 16).length ≤ digitLimit := by decide
  have minor : (digits 2).length ≤ digitLimit := by decide
  have beta : IsMark "beta3".toList := .beta (List.all_eq_true.mp (by decide))
  have aside : IsAside ", compiled".toList := by
    rintro c ⟨⟩
    decide
  obtain ⟨numbered, bare⟩ := release_read_back.1 16 2 major minor
  obtain ⟨both, alone⟩ := numbered serverFront _ _ beta aside
  have marked : ¬ ("beta3".toList = [] ∧ BeginsMinor ", compiled".toList) := fun h =>
    absurd h.1 (by decide)
  have lead : ∀ c ∈ ['\t'], isBlank c = true := List.all_eq_true.mp (by decide)
  have trail : ∀ c ∈ [' '], isBlank c = true := List.all_eq_true.mp (by decide)
  exact ⟨major, minor, both, alone marked, bare ['\t'] [' '] lead trail⟩

end PgVitals.Release
