import PgVitals.Monitor.Delta
/-!
# What records show

A record that was read has one value of the right kind for each field. So the difference of two such
records is a difference of numbers in every counter and the later value in every other field, and no
field is lost on the way.

* `Fits` says of a record that it has one value for each field, of the kind of the field.
  `readCells_fits` and `ofNamedRows_fits` say that whatever is read fits, from cells in their order
  or by name.
* `Shows` relates a record, the one it is compared with and what the fields show: one value for each
  field, by `Shown`.
* `shows_differences` says that the differences of two records that fit are shown so.
  `Shows.counter` and `Shows.fits` are what later proofs need: a counter shows a difference, and
  what is shown is a record again.
* `mapM_eq_ok` and `map_of_mapM_ok` are about lists of which every item is converted, or none.

Counters of whole numbers and of fractional ones are told apart, and differ in this: a difference of
whole numbers is exact, that of doubles is what the arithmetic of doubles makes it.
-/

namespace PgVitals.Monitor

/-- A conversion gives a value only where there was one to convert. -/
theorem exists_of_map_ok {ε α β : Type} {f : α → β} {e : Except ε α} {b : β}
    (h : e.map f = .ok b) : ∃ a, e = .ok a ∧ f a = b := by
  cases e with
  | error => cases h
  | ok a => exact ⟨a, rfl, Except.ok.inj h⟩

/-- Steps give a value only where each step did. -/
theorem exists_of_bind_ok {ε α β : Type} {f : α → Except ε β} {e : Except ε α} {b : β}
    (h : e >>= f = .ok b) : ∃ a, e = .ok a ∧ f a = .ok b := by
  cases e with
  | error => cases h
  | ok a => exact ⟨a, rfl, h⟩

/-- A list is converted only where each of its items is. -/
theorem map_of_mapM_ok {ε α β : Type} {f : α → Except ε β} {as : List α} {bs : List β}
    (h : as.mapM f = .ok bs) : as.map f = bs.map .ok := by
  induction as generalizing bs with
  | nil =>
    cases h
    rfl
  | cons a as ih =>
    rw [List.mapM_cons] at h
    obtain ⟨b, first, h⟩ := exists_of_bind_ok h
    obtain ⟨rest, others, h⟩ := exists_of_bind_ok h
    cases h
    rw [List.map_cons, first, ih others, List.map_cons]

/-- A list whose items are converted is converted. -/
theorem mapM_eq_ok {ε α β : Type} {f : α → Except ε β} {g : α → β} {as : List α}
    (h : ∀ a ∈ as, f a = .ok (g a)) : as.mapM f = .ok (as.map g) := by
  induction as with
  | nil => rfl
  | cons a as ih =>
    obtain ⟨first, others⟩ := List.forall_mem_cons.mp h
    rw [List.mapM_cons, first, ih others]
    rfl

/-! ## Records of a kind -/

/-- Whether a value is one that a field of some kind can have. -/
def Reading.fits : FieldKind → Reading → Bool
  | .timer, .fractional _ => true
  | .text, .text _ => true
  | .counter, .whole _ => true
  | .gauge, .whole _ => true
  | _, _ => false

/-- A record has one value for each field, each of the kind of its field. -/
inductive Fits : List Field → Record → Prop
  | nil : Fits [] []
  | cons {f : Field} {fields : List Field} {x : Reading} {record : Record}
      (value : x.fits f.kind = true) (rest : Fits fields record) : Fits (f :: fields) (x :: record)

theorem zero_fits (kind : FieldKind) : kind.zero.fits kind = true := by
  cases kind <;> rfl

theorem fits_zeros (fields : List Field) : Fits fields (fields.map fun f => f.kind.zero) := by
  induction fields with
  | nil => exact .nil
  | cons f fields ih => exact .cons (zero_fits f.kind) ih

namespace Fits

variable {fields : List Field} {record : Record}

theorem length_eq (h : Fits fields record) : record.length = fields.length := by
  induction h with
  | nil => rfl
  | cons _ _ ih => rw [List.length_cons, List.length_cons, ih]

theorem getElem? {i : Nat} {f : Field} {x : Reading} (h : Fits fields record)
    (field : fields[i]? = some f) (value : record[i]? = some x) : x.fits f.kind = true := by
  induction h generalizing i with
  | nil => cases field
  | cons first _ ih =>
    cases i with
    | zero =>
      cases field
      cases value
      exact first
    | succ i => exact ih field value

end Fits

theorem number_fits {kind : FieldKind} {cell : Value} {x : Reading} (numeric : kind ≠ .text)
    (h : number kind cell = .ok x) : x.fits kind = true := by
  unfold number at h
  split at h
  · cases h
    rfl
  · obtain ⟨n, -, rfl⟩ := exists_of_map_ok h
    rfl
  · cases h
    cases kind <;> simp_all [Reading.fits]
  · obtain ⟨n, -, rfl⟩ := exists_of_map_ok h
    cases kind <;> simp_all [Reading.fits]

theorem reading_fits {kind : FieldKind} {cell : Value} {x : Reading}
    (h : reading kind cell = .ok x) : x.fits kind = true := by
  unfold reading at h
  split at h
  · cases h
    rfl
  · obtain ⟨text, -, rfl⟩ := exists_of_map_ok h
    rfl
  · exact number_fits (by assumption) h

namespace RecordKind

theorem readCells_fits {fields : List Field} {cells : List Value} {record : Record}
    (h : readCells fields cells = .ok record) : Fits fields record := by
  induction fields generalizing cells record with
  | nil =>
    cases h
    exact .nil
  | cons f fields ih =>
    cases cells with
    | nil =>
      cases h
      exact .cons (zero_fits f.kind) (fits_zeros fields)
    | cons cell cells =>
      obtain ⟨x, read, h⟩ := exists_of_bind_ok h
      obtain ⟨rest, readRest, h⟩ := exists_of_bind_ok h
      cases h
      exact .cons (reading_fits read) (ih readRest)

theorem add_fits {kind : FieldKind} {x y : Reading} (hx : x.fits kind = true) :
    (add x y).fits kind = true := by
  cases kind <;> cases x <;> cases y <;> simp_all [add, Reading.fits]

/-- Adding up keeps the kind of the sum. -/
theorem total_fits {kind : FieldKind} {position : Nat} {sum x : Reading} {rows : List (List Value)}
    (hs : sum.fits kind = true) (h : total kind position sum rows = .ok x) :
    x.fits kind = true := by
  induction rows generalizing sum with
  | nil =>
    cases h
    exact hs
  | cons row rows ih =>
    unfold total at h
    split at h
    · cases h
    · obtain ⟨y, -, h⟩ := exists_of_bind_ok h
      exact ih (add_fits hs) h

theorem ofNamedRows_fits {k : RecordKind} {set : ResultSet} {record : Record}
    (numeric : ∀ f ∈ k.fields, f.kind ≠ .text) (h : k.ofNamedRows set = .ok record) :
    Fits k.fields record := by
  unfold ofNamedRows at h
  generalize k.fields = fields at numeric h ⊢
  induction fields generalizing record with
  | nil =>
    cases h
    exact .nil
  | cons f fields ih =>
    rw [List.mapM_cons] at h
    obtain ⟨x, totalled, h⟩ := exists_of_bind_ok h
    obtain ⟨rest, totalledRest, h⟩ := exists_of_bind_ok h
    cases h
    have start : (totalZero f.kind).fits f.kind = true := by
      have := numeric f List.mem_cons_self
      cases hk : f.kind <;> simp_all [totalZero, Reading.fits]
    refine .cons ?_ (ih (fun g hg => numeric g (List.mem_cons_of_mem _ hg)) totalledRest)
    split at totalled
    · cases totalled
      exact start
    · exact total_fits start totalled

end RecordKind

/-! ## Differences of records -/

/-- What a field shows of a value that was read after another one. -/
inductive Shown : FieldKind → Reading → Reading → Reading → Prop
  | counter (raw previous : Int) :
      Shown .counter (.whole raw) (.whole previous) (.whole (raw - previous))
  | timer (raw previous : Float) :
      Shown .timer (.fractional raw) (.fractional previous) (.fractional (raw - previous))
  | gauge (raw : Int) (previous : Reading) : Shown .gauge (.whole raw) previous (.whole raw)
  | text (raw : String) (previous : Reading) : Shown .text (.text raw) previous (.text raw)

/-- What fields show of a record that was read after another one: every field shows its own value,
and there are no more and no fewer values than fields. -/
inductive Shows : List Field → (raw previous shown : Record) → Prop
  | nil : Shows [] [] [] []
  | cons {f : Field} {fields : List Field} {x p y : Reading} {raw previous shown : Record}
      (value : Shown f.kind x p y) (rest : Shows fields raw previous shown) :
      Shows (f :: fields) (x :: raw) (p :: previous) (y :: shown)

theorem shown_difference {f : Field} {raw previous : Reading} (hr : raw.fits f.kind = true)
    (hp : previous.fits f.kind = true) :
    Shown f.kind raw previous (Engine.difference f raw previous) := by
  unfold Engine.difference
  generalize f.kind = kind at hr hp ⊢
  cases kind <;> cases raw <;> first | contradiction | cases previous
  all_goals first | contradiction | constructor

theorem shows_differences {fields : List Field} {raw previous : Record} (hr : Fits fields raw)
    (hp : Fits fields previous) :
    Shows fields raw previous (Engine.differences fields raw previous) := by
  induction hr generalizing previous with
  | nil =>
    cases hp
    exact .nil
  | cons value _ ih =>
    cases hp with
    | cons before rest => exact .cons (shown_difference value before) (ih rest)

namespace Shows

variable {fields : List Field} {raw previous shown : Record} {f : Field} {i : Nat}

/-- A counter of whole numbers shows the difference of two whole numbers. -/
theorem counter (h : Shows fields raw previous shown) (field : fields[i]? = some f)
    (counts : f.kind = .counter) :
    ∃ a b, raw[i]? = some (.whole a) ∧ previous[i]? = some (.whole b) ∧
      shown[i]? = some (.whole (a - b)) := by
  induction h generalizing i with
  | nil => cases field
  | cons value _ ih =>
    cases i with
    | zero =>
      cases field
      rw [counts] at value
      cases value with
      | counter a b => exact ⟨a, b, rfl, rfl, rfl⟩
    | succ i => exact ih field

/-- What is shown is a record again. -/
theorem fits (h : Shows fields raw previous shown) : Fits fields shown := by
  induction h with
  | nil => exact .nil
  | @cons f _ _ _ _ _ _ _ value _ ih =>
    refine .cons ?_ ih
    generalize f.kind = kind at value ⊢
    cases value <;> rfl

/-- Without counters a record shows as it was read. -/
theorem unchanged (h : Shows fields raw previous shown)
    (none : ∀ f ∈ fields, f.kind.isCounter = false) : shown = raw := by
  induction h with
  | nil => rfl
  | @cons f _ x p y _ _ _ value _ ih =>
    have same : y = x := by
      have := none f List.mem_cons_self
      generalize f.kind = kind at value this
      cases value with
      | counter | timer => cases this
      | gauge | text => rfl
    rw [same, ih fun g hg => none g (List.mem_cons_of_mem _ hg)]

end Shows

end PgVitals.Monitor
