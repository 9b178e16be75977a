import PgVitals.Settings.Load
/-!
# What loading the settings can end in

A document that is well written can still hold settings that are of no use. Most of them are taken
as they stand, and what is wrong with them shows later. Two are converted while they are loaded, the
interval of traces and the titles that the report leaves out, and a value that does not convert ends
the loading with a fault, which nobody reports. Which documents do that is said here exactly.

* `Value.isNumeric` and `Value.isCollection` tell the values that convert: `Value.toFloat_ok_iff`
  and `Value.items_ok_iff`.
* `isSpoilt` says of the entries of a document that one of these two values does not convert, before
  anything else is found to be wrong with them.
* `Confined` says of a result that it is there, or that an error of configuration stands in its way.
  `Verdict` puts the two together, and `ofEntries_verdict` and `ofText_verdict` say which of them a
  document ends in.
* `Chosen` lists which file is read: the one that is named, or else the one that is found.

The sections are read in a fixed order, and the first that is wrong ends the reading; so a value
that does not convert does no harm behind a section that is no mapping. How a document is parsed is
no matter of this file: it begins with the value that a text holds, if it is well written.
-/

namespace PgVitals

open Number

/-! ## Values that convert -/

/-- Whether a value is a number, or writes one, that a double can stand for. -/
def Value.isNumeric : Value → Bool
  | bool _ | float _ => true
  | int n => (floatOfInt n).isSome
  | decimal (.signalling _ _) => false
  | decimal _ => true
  | text s => (readFloat s).isSome
  | bytes bs => (readFloat (bytesText bs)).isSome
  | _ => false

/-- Whether there are items in a value that one can go through. -/
def Value.isCollection : Value → Bool
  | text _ | bytes _ | list _ | pair _ _ | set _ | map _ => true
  | _ => false

theorem Value.floatOfText_ok_iff (quoted s : String) :
    (∃ x, floatOfText quoted s = .ok x) ↔ (readFloat s).isSome := by
  unfold floatOfText
  cases readFloat s <;> simp

theorem Value.toFloat_ok_iff (v : Value) : (∃ x, v.toFloat = .ok x) ↔ v.isNumeric := by
  cases v with
  | int n => simp only [toFloat, isNumeric]; cases floatOfInt n <;> simp
  | decimal d => cases d <;> simp [toFloat, isNumeric]
  | text s => exact floatOfText_ok_iff _ _
  | bytes bs => exact floatOfText_ok_iff _ _
  | _ => simp [toFloat, isNumeric]

theorem Value.items_ok_iff (v : Value) : (∃ items, v.items = .ok items) ↔ v.isCollection := by
  cases v <;> simp [items, isCollection]

namespace Settings

variable {α β : Type} {all : List (Value × Value)} {name : String} {spoilt : Bool}

/-! ## Sections -/

/-- Whether a section is a mapping; one that is missing or empty is as good. -/
def isSection (all : List (Value × Value)) (name : String) : Bool :=
  match (Value.lookup? name all).filter Value.truthy with
  | none | some (.map _) => true
  | some _ => false

/-- The entries of a section; none where the section is no mapping. -/
def entriesIn (all : List (Value × Value)) (name : String) : List (Value × Value) :=
  match (Value.lookup? name all).filter Value.truthy with
  | some (.map entries) => entries
  | _ => []

theorem section?_eq (name : String) (all : List (Value × Value)) :
    Settings.section? name all =
      if isSection all name then .ok (entriesIn all name)
      else .error (.config (.sectionNotMapping name)) := by
  unfold section? isSection entriesIn
  match (Value.lookup? name all).filter Value.truthy with
  | none => rfl
  | some v => cases v <;> rfl

/-- The interval of traces that the settings ask for. -/
def intervalIn (all : List (Value × Value)) : Value :=
  valueOr (.float 1.0) "interval" (entriesIn all "waitevent")

/-- What the settings say the report is to leave out. -/
def excludedIn (all : List (Value × Value)) : Value :=
  valueOr .null "exclude" (entriesIn all "report")

/-! ## Documents that load -/

/-- The result is there, or it is an error of configuration that stands in its way. -/
def Confined (r : Except Failure α) : Prop :=
  ∀ failure, r = .error failure → ∃ cause, failure = .config cause

/-- Whether the settings in a mapping hold a value that does not convert, before anything else is
found to be wrong with them: an interval of traces that is no number, or titles that are neither
empty nor a collection. The sections are read in a fixed order, and one that is no mapping ends the
reading. -/
def isSpoilt (all : List (Value × Value)) : Bool :=
  ["connection", "csvstat", "stat", "waitevent"].all (isSection all) &&
    (!(intervalIn all).isNumeric ||
      ["fsm", "report"].all (isSection all) &&
        ((excludedIn all).truthy && !(excludedIn all).isCollection))

/-- What a result is, where it is known whether a value spoils it. -/
def Verdict (spoilt : Bool) (r : Except Failure α) : Prop :=
  if spoilt then ∃ fault, r = .error (.fault fault) else Confined r

namespace Verdict

theorem ok (a : α) : Verdict false (.ok a : Except Failure α) :=
  fun _ h => nomatch h

theorem config (cause : ConfigCause) : Verdict false (.error (.config cause) : Except Failure α) :=
  fun _ h => ⟨cause, (Except.error.inj h).symm⟩

theorem ofSection {f : List (Value × Value) → Except Failure α}
    (rest : Verdict spoilt (f (entriesIn all name))) :
    Verdict (isSection all name && spoilt) (section? name all >>= f) := by
  rw [section?_eq]
  cases isSection all name with
  | true => exact rest
  | false => exact config _

theorem converted {r : Except Fault β} {f : β → Except Failure α} {converts : Bool}
    (known : (∃ b, r = .ok b) ↔ converts) (rest : ∀ b, Verdict spoilt (f b)) :
    Verdict (!converts || spoilt) (orFault r >>= f) := by
  cases r with
  | ok b =>
    obtain rfl : converts = true := known.mp ⟨b, rfl⟩
    exact rest b
  | error fault =>
    have fails : converts = false := by
      simpa using mt known.mpr (fun ⟨b, h⟩ => nomatch h)
    subst fails
    exact ⟨fault, rfl⟩

end Verdict

theorem excludedOf_ok_iff (entries : List (Value × Value)) :
    (∃ titles, excludedOf entries = .ok titles) ↔
      !((valueOr .null "exclude" entries).truthy &&
        !(valueOr .null "exclude" entries).isCollection) := by
  unfold excludedOf
  split
  next s text => simp [text, Value.isCollection]
  next v _ =>
    split
    next h => simp [h, Value.items_ok_iff]
    next h => simp [h]

theorem ofEntries_verdict (all : List (Value × Value)) :
    Verdict (isSpoilt all) (ofEntries all) := by
  have reading : Verdict _ (ofEntries all) :=
    .ofSection <| .ofSection <| .ofSection <| .ofSection <|
      .converted (Value.toFloat_ok_iff _) fun _ => .ofSection <| .ofSection <|
        .converted (excludedOf_ok_iff _) fun _ => .ok _
  simpa only [isSpoilt, intervalIn, excludedIn, List.all_cons, List.all_nil, Bool.and_true,
    Bool.and_assoc, Bool.not_not, Bool.or_false] using reading

/-- The entries of a document that is a mapping, and none where it is nothing at all. -/
def entriesOf : Option Value → List (Value × Value)
  | some (.map entries) => entries
  | _ => []

theorem ofText_verdict {text : String} {document : Option Value} (path : String)
    (parsed : Yaml.read text = .ok document) :
    Verdict (isSpoilt (entriesOf document)) (ofText path text) := by
  simp only [ofText, parsed]
  rcases document with _ | v
  · exact ofEntries_verdict []
  · cases filled : v.truthy with
    | false =>
      have nothing : entriesOf (some v) = [] := by
        cases v with
        | map entries => simpa [Value.truthy, entriesOf] using filled
        | _ => rfl
      rw [nothing, Option.filter_some, filled]
      exact ofEntries_verdict []
    | true =>
      rw [Option.filter_some, filled]
      cases v with
      | map entries => exact ofEntries_verdict entries
      | _ => exact .config _

/-! ## Files -/

/-- Which file the settings are read from: the one that is named, or else the one that is found. -/
inductive Chosen (files : Files.Tree) (environment : String → Option String) :
    Value → Bool → String → Prop
  | named {search : Bool} (path : String) : Chosen files environment (.text path) search path
  | found {path : String} (there : find? files environment = .ok (some path)) :
      Chosen files environment .null true path

variable {files : Files.Tree} {environment : String → Option String} {named : Value}
  {search : Bool} {path text : String} {document : Option Value}

theorem Chosen.load_eq (chosen : Chosen files environment named search path) :
    load files environment named search = ofFile files path := by
  cases chosen with
  | named => rfl
  | found there => simp only [load, if_true, there]; rfl

/-- Loading a document that is well written fails as an error of configuration only, unless a value
in it does not convert; then it ends with a fault. -/
theorem load_confined_iff (chosen : Chosen files environment named search path)
    (content : textAt files path = .ok text) (parsed : Yaml.read text = .ok document) :
    (Confined (load files environment named search) ↔ isSpoilt (entriesOf document) = false) ∧
      (isSpoilt (entriesOf document) = true →
        ∃ fault, load files environment named search = .error (.fault fault)) := by
  have verdict : Verdict (isSpoilt (entriesOf document)) (load files environment named search) := by
    rw [chosen.load_eq, ofFile, content]
    exact ofText_verdict path parsed
  cases spoilt : isSpoilt (entriesOf document) with
  | false =>
    rw [spoilt] at verdict
    exact ⟨⟨fun _ => rfl, fun _ => verdict⟩, nofun⟩
  | true =>
    rw [spoilt] at verdict
    obtain ⟨fault, fails⟩ := verdict
    refine ⟨⟨fun confined => ?_, nofun⟩, fun _ => ⟨fault, fails⟩⟩
    obtain ⟨cause, h⟩ := confined _ fails
    cases h

theorem ok_of_toOption {ε : Type} {r : Except ε α} {a : α} (h : r.toOption = some a) :
    r = .ok a := by
  cases r with
  | ok b => exact congrArg Except.ok (Option.some.inj h)
  | error e => cases h

/-- A settings file in the working directory, and nothing else. -/
def lone (text : String) : Files.Tree :=
  { directories := [[], ["work"]]
    files := [(["work", fileName], .text text)]
    working := ["work"] }

/-- Settings of several sections that load, and among them a report that leaves nothing out. -/
def sound : String :=
  "stat:\n  interval: ten\nwaitevent:\n  interval: '0.5'\nreport:\n  exclude: []\n"

theorem load_confined_iff_sound :
    Chosen (lone sound) (fun _ => none) .null true "/work/pgstats.yaml" ∧
      ∃ document, Yaml.read sound = .ok document ∧ isSpoilt (entriesOf document) = false ∧
        Confined (load (lone sound) (fun _ => none) .null true) := by
  have there : find? (lone sound) (fun _ => none) = .ok (some "/work/pgstats.yaml") :=
    ok_of_toOption (by decide +kernel)
  have content : textAt (lone sound) "/work/pgstats.yaml" = .ok sound :=
    ok_of_toOption (by decide +kernel)
  have known : (Yaml.read sound).toOption.map (fun d => isSpoilt (entriesOf d)) = some false := by
    decide +kernel
  obtain ⟨document, parsed, converts⟩ := Option.map_eq_some_iff.mp known
  exact ⟨.found there, document, ok_of_toOption parsed, converts,
    (load_confined_iff (.found there) content (ok_of_toOption parsed)).1.mpr converts⟩

/-- An interval of traces that is no number is well written, and loading it is no error of
configuration. -/
theorem load_unconverted :
    (Yaml.read "waitevent:\n  interval: abc\n").isOk = true ∧
      ¬ Confined (load (lone "waitevent:\n  interval: abc\n") (fun _ => none) .null true) := by
  refine ⟨by decide +kernel, fun confined => ?_⟩
  have fails : (match load (lone "waitevent:\n  interval: abc\n") (fun _ => none) .null true with
      | .error failure => some failure
      | .ok _ => none) = some (.fault (.notANumber "'abc'")) := by decide +kernel
  cases h : load (lone "waitevent:\n  interval: abc\n") (fun _ => none) .null true with
  | ok settings => rw [h] at fails; cases fails
  | error failure =>
    rw [h] at fails
    obtain ⟨cause, rfl⟩ := confined failure h
    cases fails

end Settings

end PgVitals
