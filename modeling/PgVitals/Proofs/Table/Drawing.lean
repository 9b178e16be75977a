import PgVitals.Table.Ruled
/-!
# Tables that can be drawn

Only a whole number can keep a table from being drawn: one that has too many digits to be written,
on its own or within a list, or that is larger than every double.

* `Value.Sized` is a value that can be written and has a nearest double, where it is a whole number.
* `Kind.rank_le_ofColumn` says that a column is of no kind more special than one of its cells. So a
  cell never has to be written in a form it has not got.
* `cellText_ok` writes one cell, and `textsOf_ok` and `sized_columnsOf` all of them.
* `render_ok` says that a table of such values can be drawn.

A double is asked for because a column with one fractional number is written with fractional numbers
throughout, whole numbers among them. Nothing is said of what the table looks like; where that
matters, it is compared with what the same function makes of the same cells.
-/

namespace PgVitals

open PgVitals.Number PgVitals.Table

/-- A value that can be written and, if it is a whole number, has a nearest double. -/
def Value.Sized (v : Value) : Prop :=
  v.isWritable = true ∧ ∀ n, v = .int n → (floatOfInt n).isSome = true

namespace Table

variable {v : Value}

theorem written_ok (sized : v.Sized) : ∃ text, v.written = .ok text :=
  ⟨v.shown, if_pos sized.1⟩

/-! ## Kinds -/

theorem Kind.rank_join (a b : Kind) : (a.join b).rank = max a.rank b.rank := by
  cases a <;> cases b <;> decide

theorem Kind.rank_foldl_join (kinds : List Kind) (start : Kind) :
    start.rank ≤ (kinds.foldl join start).rank ∧
      ∀ kind ∈ kinds, kind.rank ≤ (kinds.foldl join start).rank := by
  induction kinds generalizing start with
  | nil => exact ⟨Nat.le_refl _, nofun⟩
  | cons first kinds ih =>
    obtain ⟨joined, others⟩ := ih (start.join first)
    rw [rank_join] at joined
    refine ⟨by rw [List.foldl_cons]; omega, ?_⟩
    intro kind member
    rcases List.mem_cons.mp member with rfl | member
    · rw [List.foldl_cons]
      omega
    · exact others kind member

/-- A column is of no kind more special than one of its cells. -/
theorem Kind.rank_le_ofColumn {cells : List Value} (h : v ∈ cells) :
    (ofCell v).rank ≤ (ofColumn cells).rank :=
  (rank_foldl_join _ _).2 _ (List.mem_map_of_mem h)

/-! ## Cells -/

/-- What can stand in a column of fractional numbers has a nearest double, but for nulls and
texts. -/
theorem toFloat_ok (sized : v.Sized) (number : (Kind.ofCell v).rank ≤ Kind.fractional.rank)
    (some : v ≠ .null) (other : ∀ s, v ≠ .text s) : ∃ x, v.toFloat = .ok x := by
  have general : ¬ Kind.text.rank ≤ Kind.fractional.rank := by decide
  cases v with
  | null => exact absurd rfl some
  | text s => exact absurd rfl (other s)
  | bool b => exact ⟨_, rfl⟩
  | float x => exact ⟨x, rfl⟩
  | int n =>
    obtain ⟨x, nearest⟩ := Option.isSome_iff_exists.mp (sized.2 n rfl)
    refine ⟨x, ?_⟩
    rw [Value.toFloat, nearest]
  | decimal d =>
    cases d with
    | signalling negative payload => exact absurd number general
    | _ => exact ⟨_, rfl⟩
  | _ => exact absurd number general

/-- A cell can be written in a column that is of no kind more special than its own. -/
theorem cellText_ok (write : Float → String) (escapes : Bool) {kind : Kind} (sized : v.Sized)
    (general : (Kind.ofCell v).rank ≤ kind.rank) :
    ∃ text, cellText write escapes kind v = .ok text := by
  unfold cellText
  split
  · exact ⟨_, rfl⟩
  · exact ⟨_, rfl⟩
  · exact ⟨_, rfl⟩
  · exact ⟨_, rfl⟩
  -- The one case that needs more than a text: a number in a column of fractional numbers.
  · rename_i some _ other
    obtain ⟨x, nearest⟩ := toFloat_ok sized general some other
    refine ⟨write x, ?_⟩
    rw [nearest]
    rfl
  · exact written_ok sized

/-! ## Tables -/

/-- Where every step goes well, all of them together do. -/
theorem mapM_ok {α β ε : Type} {f : α → Except ε β} {items : List α}
    (h : ∀ a ∈ items, ∃ b, f a = .ok b) : ∃ bs, items.mapM f = .ok bs := by
  induction items with
  | nil => exact ⟨[], rfl⟩
  | cons a items ih =>
    obtain ⟨b, first⟩ := h a List.mem_cons_self
    obtain ⟨bs, others⟩ := ih fun a member => h a (List.mem_cons_of_mem _ member)
    refine ⟨b :: bs, ?_⟩
    rw [List.mapM_cons, first, others]
    rfl

theorem textsOf_ok (style : Style) (escapes : Bool) {cells : List Value}
    (sized : ∀ v ∈ cells, v.Sized) : ∃ texts, textsOf style escapes cells = .ok texts := by
  have each : ∀ v ∈ cells,
      ∃ text, cellText style.numberText escapes (Kind.ofColumn cells) v = .ok text :=
    fun v member => cellText_ok _ _ (sized v member) (Kind.rank_le_ofColumn member)
  obtain ⟨texts, written⟩ := mapM_ok each
  refine ⟨(Kind.ofColumn cells, texts), ?_⟩
  unfold textsOf
  dsimp only
  rw [written]
  rfl

/-- The columns of rows hold the cells of the rows, and nulls. -/
theorem sized_columnsOf {rows : List (List Value)} (sized : ∀ row ∈ rows, ∀ v ∈ row, v.Sized) :
    ∀ cells ∈ columnsOf rows, ∀ v ∈ cells, v.Sized := by
  intro cells column v member
  obtain ⟨i, -, rfl⟩ := List.mem_map.mp column
  obtain ⟨row, among, rfl⟩ := List.mem_map.mp member
  cases here : row[i]? with
  | none => exact ⟨rfl, fun n same => nomatch same⟩
  | some v => exact sized row among v (List.mem_of_getElem? here)

/-- **A table of values that are not too large can be drawn.** -/
theorem render_ok (style : Style) (titles : List String) {rows : List (List Value)}
    (sized : ∀ row ∈ rows, ∀ v ∈ row, v.Sized) :
    ∃ body, render style titles rows = .ok body := by
  -- Two things can fail: writing every cell on its own, and making the columns.
  let shown := rows.filter fun row => !isRule row
  have kept : ∀ row ∈ shown, ∀ v ∈ row, v.Sized :=
    fun row member => sized row (List.mem_filter.mp member).1
  have cells : ∀ v ∈ shown.flatten, ∃ text, v.written = .ok text := by
    intro v member
    obtain ⟨row, among, inside⟩ := List.mem_flatten.mp member
    exact written_ok (kept row among v inside)
  obtain ⟨texts, written⟩ := mapM_ok cells
  have columns : ∀ escapes, ∀ cells ∈ columnsOf shown, ∃ texts,
      textsOf style escapes cells = .ok texts :=
    fun escapes cells member => textsOf_ok style escapes (sized_columnsOf kept cells member)
  unfold render
  dsimp only
  rw [written]
  dsimp only [bind, Except.bind]
  obtain ⟨drawn, made⟩ := mapM_ok (columns _)
  rw [made]
  dsimp only
  split
  · exact ⟨_, rfl⟩
  · split
    · exact ⟨_, rfl⟩
    · exact ⟨_, rfl⟩

end Table

end PgVitals
