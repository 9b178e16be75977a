import PgVitals.Monitor.Collector
import PgVitals.Proofs.Monitor.Columns
/-!
# Sizes in the place of byte counts

All byte counts of a line are sent to the server in one statement, and its texts come back in one
row. What goes where is decided three times by the fields that count bytes: which values are bound,
which names the texts are kept under, and which cells show them. The three agree, and no other cell
changes.

* `sizeStatement_eq` says that no value is part of the text of the statement, and
  `placeholders_sizes` that there is one placeholder for each value.
* `amounts` are the byte counts of a record in the order of the fields, and `getElem?_byteCounts`
  says that the value bound for a field is the one it would show.
* `withSizes` are the texts of a line with those of the server among them.
  `getElem?_withSizes_bytes` and `getElem?_withSizes_other` are the two kinds of cells.
* `shownTexts_sizes` says that the cells of the program are these.

Fields are found by name when the texts are shown and by place when they are bound, so the names
have to differ within a record. `CountsWritten` is the condition under which the line without sizes
can be written at all; with sizes it is not needed.
-/

namespace PgVitals.Monitor

open PgVitals.Text PgVitals.Number

/-! ## The statement -/

/-- The text of the statement for so many byte counts. -/
def sizeQuery (count : Nat) : String :=
  "SELECT " ++ String.intercalate ", " (List.replicate count "pg_size_pretty(%s::numeric)")

/-- The number of placeholders in the text of a statement. -/
def placeholders : List Char → Nat
  | '%' :: 's' :: rest => placeholders rest + 1
  | _ :: rest => placeholders rest
  | [] => 0

/-- No value is part of the text, and the values are bound in their order. -/
theorem sizeStatement_eq (amounts : List Value) :
    sizeStatement amounts = ⟨sizeQuery amounts.length, .positional amounts⟩ := by
  rw [sizeStatement, sizeQuery, List.map_const']

theorem placeholders_sizes (rest : List Char) :
    placeholders ("pg_size_pretty(%s::numeric)".toList ++ rest) = placeholders rest + 1 := rfl

/-- There is one placeholder for each value. -/
theorem placeholders_sizeQuery (count : Nat) : placeholders (sizeQuery count).toList = count := by
  have parts : placeholders (String.intercalate ", "
      (List.replicate count "pg_size_pretty(%s::numeric)")).toList = count := by
    induction count with
    | zero => rfl
    | succ count ih =>
      cases count with
      | zero => rfl
      | succ count =>
        rw [List.replicate_succ, List.replicate_succ, String.intercalate_cons_cons,
          ← List.replicate_succ, String.toList_append, String.toList_append, List.append_assoc,
          placeholders_sizes]
        exact congrArg (· + 1) ih
  rw [sizeQuery, String.toList_append]
  exact parts

/-! ## Byte counts -/

/-- The byte counts that a record shows, in the order of the fields. -/
def amounts (fields : List Field) (shown : Record) : List Value :=
  (byteCounts fields (shown.map Reading.value)).map Prod.snd

/-- The number of byte counts in a line. -/
def sizeCount (fields : List Field) : Nat := fields.countP Field.isBytes

/-- The number of byte counts in front of a field. -/
def sizesBefore (fields : List Field) (i : Nat) : Nat := sizeCount (fields.take i)

variable {f : Field} {fields : List Field} {v : Value} {values : List Value}

theorem byteCounts_cons (f : Field) (fields : List Field) (v : Value) (values : List Value) :
    byteCounts (f :: fields) (v :: values) =
      if f.isBytes then (f.name, v) :: byteCounts fields values else byteCounts fields values := by
  simp only [byteCounts, List.zip_cons_cons, List.filter_cons]
  split <;> rfl

theorem length_byteCounts (same : values.length = fields.length) :
    (byteCounts fields values).length = sizeCount fields := by
  induction fields generalizing values with
  | nil =>
    rw [List.length_eq_zero_iff.mp same]
    rfl
  | cons f fields ih =>
    cases values with
    | nil => cases same
    | cons v values =>
      have rest := ih (Nat.succ.inj same)
      rw [byteCounts_cons, sizeCount, List.countP_cons, ← sizeCount, ← rest]
      cases f.isBytes <;> rfl

theorem byteCounts_none (none : sizeCount fields = 0) : byteCounts fields values = [] := by
  rw [sizeCount, List.countP_eq_zero] at none
  rw [byteCounts, List.filter_eq_nil_iff.mpr, List.map_nil]
  rintro ⟨f, v⟩ member
  exact none f (List.of_mem_zip member).1

theorem name_mem_of_byteCounts {name : String}
    (member : name ∈ (byteCounts fields values).map Prod.fst) :
    name ∈ fields.map Field.name := by
  rw [byteCounts, List.map_map] at member
  obtain ⟨⟨f, v⟩, found, rfl⟩ := List.mem_map.mp member
  exact List.mem_map_of_mem (List.of_mem_zip (List.mem_filter.mp found).1).1

/-! ## Texts with sizes among them -/

/-- The texts of a line, with the server's in the place of the byte counts. -/
def withSizes : List Field → List String → List String → List String
  | f :: fields, text :: texts, sizes =>
    if f.isBytes then sizes.headD text :: withSizes fields texts sizes.tail
    else text :: withSizes fields texts sizes
  | _, _, _ => []

theorem length_withSizes {texts : List String} (sizes : List String)
    (same : texts.length = fields.length) :
    (withSizes fields texts sizes).length = fields.length := by
  induction fields generalizing texts sizes with
  | nil => rfl
  | cons f fields ih =>
    cases texts with
    | nil => cases same
    | cons text texts =>
      rw [withSizes]
      split <;> rw [List.length_cons, ih _ (Nat.succ.inj same), List.length_cons]

/-- Without byte counts there are no sizes. -/
theorem withSizes_none {texts : List String} (sizes : List String)
    (same : texts.length = fields.length) (none : sizeCount fields = 0) :
    withSizes fields texts sizes = texts := by
  induction fields generalizing texts sizes with
  | nil => rw [List.length_eq_zero_iff.mp same]; rfl
  | cons f fields ih =>
    cases texts with
    | nil => cases same
    | cons text texts =>
      rw [sizeCount, List.countP_cons, ← sizeCount] at none
      have other : f.isBytes = false := by
        cases bytes : f.isBytes with
        | false => rfl
        | true =>
          rw [bytes, if_pos rfl] at none
          cases none
      rw [withSizes, other, if_neg Bool.false_ne_true, ih sizes (Nat.succ.inj same) (by omega)]

/-- Any other field shows what it would show without the sizes. -/
theorem getElem?_withSizes_other {texts sizes : List String} {i : Nat}
    (same : texts.length = fields.length) (field : fields[i]? = some f)
    (other : f.isBytes = false) : (withSizes fields texts sizes)[i]? = texts[i]? := by
  induction fields generalizing texts sizes i with
  | nil => cases field
  | cons g fields ih =>
    cases texts with
    | nil => cases same
    | cons text texts =>
      cases i with
      | zero =>
        cases field
        rw [withSizes, other, if_neg Bool.false_ne_true]
        rfl
      | succ i =>
        rw [withSizes]
        split <;> exact ih (Nat.succ.inj same) field

/-- A byte field shows the server's text for the value that was bound for it. -/
theorem getElem?_withSizes_bytes {texts sizes : List String} {i : Nat}
    (same : texts.length = fields.length) (enough : sizes.length = sizeCount fields)
    (field : fields[i]? = some f) (bytes : f.isBytes = true) :
    (withSizes fields texts sizes)[i]? = sizes[sizesBefore fields i]? := by
  induction fields generalizing texts sizes i with
  | nil => cases field
  | cons g fields ih =>
    cases texts with
    | nil => cases same
    | cons text texts =>
      rw [sizeCount, List.countP_cons, ← sizeCount] at enough
      cases i with
      | zero =>
        cases field
        rw [bytes, if_pos rfl] at enough
        cases sizes with
        | nil => cases enough
        | cons size sizes =>
          rw [withSizes, bytes, if_pos rfl]
          rfl
      | succ i =>
        rw [withSizes, sizesBefore, List.take_succ_cons, sizeCount, List.countP_cons, ← sizeCount,
          ← sizesBefore]
        cases here : g.isBytes with
        | false =>
          rw [here] at enough
          exact ih (Nat.succ.inj same) enough field
        | true =>
          rw [here, if_pos rfl] at enough
          cases sizes with
          | nil => cases enough
          | cons size sizes => exact ih (Nat.succ.inj same) (Nat.succ.inj enough) field

/-- The value that is bound for a byte field is the one it would show. -/
theorem getElem?_byteCounts {i : Nat} (same : values.length = fields.length)
    (field : fields[i]? = some f) (bytes : f.isBytes = true) :
    ((byteCounts fields values).map Prod.snd)[sizesBefore fields i]? = values[i]? := by
  induction fields generalizing values i with
  | nil => cases field
  | cons g fields ih =>
    cases values with
    | nil => cases same
    | cons v values =>
      rw [byteCounts_cons]
      cases i with
      | zero =>
        cases field
        rw [bytes, if_pos rfl]
        rfl
      | succ i =>
        have rest := ih (Nat.succ.inj same) field
        rw [sizesBefore, List.take_succ_cons, sizeCount, List.countP_cons, ← sizeCount,
          ← sizesBefore]
        cases here : g.isBytes with
        | false => exact rest
        | true => exact rest

/-! ## The cells of a line -/

/-- Every byte count can be written without the server, too. -/
def CountsWritten (fields : List Field) (values : List Value) : Prop :=
  ∀ (i : Nat) (f : Field) (v : Value), fields[i]? = some f → values[i]? = some v →
    f.isBytes = true → ∃ text, cellText f v = .ok text

theorem shownTexts_congr {sizes sizes' : Sizes}
    (same : ∀ f ∈ fields, sizes.lookup f.name = sizes'.lookup f.name) (values : List Value) :
    shownTexts sizes fields values = shownTexts sizes' fields values := by
  induction fields generalizing values with
  | nil => rfl
  | cons f fields ih =>
    cases values with
    | nil => rfl
    | cons v values =>
      obtain ⟨here, others⟩ := List.forall_mem_cons.mp same
      rw [shownTexts, shownTexts, ih others, shownText, shownText, here]

theorem lookup_zip_of_not_mem {name : String} {names : List String} {row : List Value}
    (absent : name ∉ names) : (names.zip row).lookup name = none := by
  rw [List.lookup_eq_none_iff]
  intro entry member
  rw [bne_iff_ne]
  rintro rfl
  exact absent (List.of_mem_zip member).1

/-- With sizes a line shows what it shows without them, but for the byte counts. -/
theorem shownTexts_sizes (distinct : (fields.map Field.name).Nodup)
    (same : values.length = fields.length) (written : CountsWritten fields values)
    {texts : List String} (enough : texts.length = sizeCount fields) :
    shownTexts (((byteCounts fields values).map Prod.fst).zip (texts.map Value.text)) fields
        values =
      (withSizes fields · texts) <$> shownTexts [] fields values := by
  induction fields generalizing values texts with
  | nil => rfl
  | cons f fields ih =>
    cases values with
    | nil => cases same
    | cons v values =>
      obtain ⟨new, distinct⟩ := List.nodup_cons.mp distinct
      have rest : CountsWritten fields values := fun i => written (i + 1)
      rw [sizeCount, List.countP_cons, ← sizeCount] at enough
      rw [byteCounts_cons]
      cases bytes : f.isBytes with
      | false =>
        rw [bytes, if_neg Bool.false_ne_true, Nat.add_zero] at enough
        have absent : (((byteCounts fields values).map Prod.fst).zip
            (texts.map Value.text)).lookup f.name = none :=
          lookup_zip_of_not_mem fun member => new (name_mem_of_byteCounts member)
        rw [if_neg Bool.false_ne_true, shownTexts, shownTexts,
          ih distinct (Nat.succ.inj same) rest enough, shownText, shownText, absent,
          List.lookup_nil]
        cases cellText f v with
        | error fault => rfl
        | ok text =>
          cases shownTexts [] fields values with
          | error fault => rfl
          | ok others =>
            show Except.ok (text :: withSizes fields others texts) =
              .ok (withSizes (f :: fields) (text :: others) texts)
            rw [withSizes, bytes, if_neg Bool.false_ne_true]
      | true =>
        rw [bytes, if_pos rfl] at enough
        obtain ⟨plain, cell⟩ := written 0 f v rfl rfl bytes
        cases texts with
        | nil => cases enough
        | cons text texts =>
          -- The names are distinct, so the first size is looked up by no later field.
          have later : ∀ g ∈ fields,
              (((f.name :: (byteCounts fields values).map Prod.fst).zip
                ((text :: texts).map Value.text)).lookup g.name) =
              (((byteCounts fields values).map Prod.fst).zip (texts.map Value.text)).lookup
                g.name := by
            intro g member
            have other : (g.name == f.name) = false := by
              rw [beq_eq_false_iff_ne]
              intro equal
              exact new (equal ▸ List.mem_map_of_mem member)
            rw [List.map_cons, List.zip_cons_cons, List.lookup_cons, other]
          have here : (((f.name :: (byteCounts fields values).map Prod.fst).zip
              ((text :: texts).map Value.text)).lookup f.name) = some (.text text) := by
            rw [List.map_cons, List.zip_cons_cons, List.lookup_cons, beq_self_eq_true]
          rw [if_pos rfl, List.map_cons, shownTexts, shownTexts, shownTexts_congr later,
            ih distinct (Nat.succ.inj same) rest (Nat.succ.inj enough), shownText, here, shownText,
            List.lookup_nil, cell]
          cases shownTexts [] fields values with
          | error fault => rfl
          | ok others =>
            show Except.ok (text :: withSizes fields others texts) =
              .ok (withSizes (f :: fields) (plain :: others) (text :: texts))
            rw [withSizes, bytes, if_pos rfl]
            rfl

end PgVitals.Monitor
