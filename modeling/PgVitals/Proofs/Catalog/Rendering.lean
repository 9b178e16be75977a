import PgVitals.Catalog.Template
import PgVitals.Proofs.Release.Order
import Mathlib.Data.List.Forall2
/-!
# Rendering a template

A template that can be rendered on the first release it supports can be rendered on every later one:
releases are ordered, and a source without an end goes on applying. On a release before the first,
rendering fails with what the template needs. What is rendered is put together from four parts, and
a filter adds a condition to them and doubles the percent signs that were there before.

* `Template.render_ok` is the first half, for any filter, and `Template.render_of_not_le` the
  second. Between them there is no release.
* `Template.assembled` is the text of a query: what it selects from where, the conditions, and the
  order. `Template.render_null` and `Template.render_filter` say which of these texts is rendered.
* `ShowsAs` says of an item of a select list that it shows under a name, and `selectList_showsAs`
  that the items show under the names of the columns, one by one.
* `columnNames_of_missing` says that no column is left out where a literal stands in for it.

Rendering looks at the release only, and never at the server. A filter is passed over where a
template has no column to compare with it, which `Template.render_of_no_column` says.
-/

namespace PgVitals

namespace Catalog

/-! ## Fragments -/

/-- A fragment without an end applies from its first release on. -/
theorem Fragment.applies_of_le {f : Fragment} {release : Release} (endless : f.before = none)
    (h : f.since ≤ release) : f.applies release = true := by
  rw [applies, endless]
  simp [Release.atLeast_iff.mpr h]

/-- Where some fragment applies, one is picked. -/
theorem exists_applicable {fragments : List Fragment} {f : Fragment} {release : Release}
    (h : f ∈ fragments) (applies : f.applies release = true) :
    ∃ g, applicable? fragments release = some g := by
  have found : (applicable? fragments release).isSome = true :=
    List.find?_isSome.mpr ⟨f, h, applies⟩
  exact Option.isSome_iff_exists.mp found

/-! ## Columns -/

/-- What is picked of some items belongs, one by one, to those that something was picked of. -/
theorem forall₂_picked {α β : Type} (pick : α → Option β) (items : List α) :
    List.Forall₂ (fun item picked => pick item = some picked)
      (items.filter fun item => (pick item).isSome) (items.filterMap pick) := by
  induction items with
  | nil => exact .nil
  | cons item items ih =>
    cases h : pick item with
    | none =>
      rw [List.filterMap_cons_none h, List.filter_cons_of_neg (by simp [h])]
      exact ih
    | some picked =>
      rw [List.filterMap_cons_some h, List.filter_cons_of_pos (by simp [h])]
      exact .cons h ih

/-- An item of a select list that shows under a name: it is the name, or it says so in the end. -/
def ShowsAs (item name : String) : Prop := item = name ∨ ∃ sql, item = sql ++ " AS " ++ name

theorem Column.showsAs_named (sql name : String) : ShowsAs (Column.named sql name) name := by
  unfold Column.named
  split
  · exact .inl rfl
  · exact .inr ⟨sql, rfl⟩

theorem Column.showsAs_of_item {c : Column} {missing : Option String} {release : Release}
    {item : String} (h : c.item? missing release = some item) : ShowsAs item c.name := by
  unfold Column.item? at h
  split at h
  · obtain rfl := Option.some.inj h
    exact showsAs_named _ _
  · obtain ⟨literal, -, rfl⟩ := Option.map_eq_some_iff.mp h
    exact .inr ⟨literal, rfl⟩

namespace Template

variable {t : Template} {release : Release} {source : String}

/-- Without the time of capture, the items of the select list show under the names of the columns,
one by one. -/
theorem selectList_showsAs (untimed : t.timestamp = false) :
    List.Forall₂ ShowsAs (t.selectList release) (t.columnNames release) := by
  have picked := forall₂_picked (fun c : Column => c.item? t.missing release) t.columns
  have shown := picked.flip.imp fun _ _ h => Column.showsAs_of_item h
  simpa [selectList, columnNames, untimed, List.forall₂_map_right_iff] using shown

/-- Where a literal stands in for what a release does not have, no column is left out. -/
theorem columnNames_of_missing (untimed : t.timestamp = false) (literal : t.missing.isSome = true) :
    t.columnNames release = t.columns.map Column.name := by
  have shown : ∀ c ∈ t.columns, (c.item? t.missing release).isSome = true := by
    intro c _
    obtain ⟨zero, missing⟩ := Option.isSome_iff_exists.mp literal
    rw [missing, Column.item?]
    split <;> rfl
  simp only [columnNames, untimed, Bool.false_eq_true, if_false]
  rw [List.filter_eq_self.mpr shown]

/-! ## Gates -/

/-- Whether a source without an end is there from the first release that the template supports. -/
def isSourced (t : Template) : Bool :=
  t.sources.any fun f => f.before.isNone && t.since.atLeast f.since

theorem exists_source (sourced : t.isSourced = true) (h : t.since ≤ release) :
    ∃ source, t.source release = .ok source := by
  obtain ⟨f, member, endless⟩ := List.any_eq_true.mp sourced
  obtain ⟨endless, early⟩ := Bool.and_eq_true_iff.mp endless
  have applies : f.applies release = true :=
    Fragment.applies_of_le (Option.isNone_iff_eq_none.mp endless)
      (Release.le_trans (Release.atLeast_iff.mp early) h)
  obtain ⟨g, found⟩ := exists_applicable member applies
  exact ⟨g.sql, by rw [Template.source, found]⟩

theorem require_of_le (h : t.since ≤ release) : t.require release = .ok () := by
  rw [require, supports, if_pos (Release.atLeast_iff.mpr h)]

theorem require_of_not_le (h : ¬ t.since ≤ release) :
    t.require release = .error (.releaseTooLow t.feature t.since) := by
  rw [require, supports, if_neg (mt Release.atLeast_iff.mp h)]

/-- A release that is too low is noticed before anything else. -/
theorem render_of_not_le (h : ¬ t.since ≤ release) (filter : Value) :
    t.render release filter = .error (.releaseTooLow t.feature t.since) := by
  rw [render, require_of_not_le h]
  rfl

/-! ## Parts -/

/-- The text of a query: what it selects from where, the conditions, and the order. -/
def assembled (t : Template) (head : String) (conditions : List String) : String :=
  head ++ whereClause conditions ++ t.orderClause

/-- Without a filter nothing is bound, and the parts are as they are written. -/
theorem render_null (h : t.since ≤ release) (read : t.source release = .ok source) :
    t.render release .null =
      .ok ⟨t.assembled (t.head release source) (t.conditionsFor release), .none⟩ := by
  rw [render, require_of_le h, read]
  rfl

/-- What renders is supported, and has a source. -/
theorem exists_source_of_render {filter : Value} {statement : Statement}
    (rendered : t.render release filter = .ok statement) :
    t.since ≤ release ∧ ∃ source, t.source release = .ok source := by
  by_cases since : t.since ≤ release
  · refine ⟨since, ?_⟩
    rw [render, require_of_le since] at rendered
    cases read : t.source release with
    | error failure =>
      rw [read] at rendered
      cases rendered
    | ok source => exact ⟨source, rfl⟩
  · rw [render_of_not_le since] at rendered
    cases rendered

/-- Where there is no column to compare with it, a filter is passed over. -/
theorem render_of_no_column (none : t.filterColumn? = .none) (filter : Value) :
    t.render release filter = t.render release .null := by
  rw [render, render, none]
  cases filter <;> rfl

/-- A filter is one more condition, and bound. -/
theorem render_filter (h : t.since ≤ release) (read : t.source release = .ok source)
    {column : String} (some : t.filterColumn? = .some column) (f : String) :
    t.render release (.text f) =
      .ok ⟨t.assembled (doublePercent (t.head release source))
        ((t.conditionsFor release).map doublePercent ++ [column ++ " = " ++ filterPlaceholder]),
        .named [("filter", .text f)]⟩ := by
  rw [render, require_of_le h, read, some]
  rfl

/-- A template with a source renders on every release that it supports, with any filter. -/
theorem render_ok (sourced : t.isSourced = true) (h : t.since ≤ release) (filter : Value) :
    ∃ statement, t.render release filter = .ok statement := by
  obtain ⟨source, read⟩ := exists_source sourced h
  cases column : t.filterColumn? with
  | none =>
    rw [render_of_no_column column, render_null h read]
    exact ⟨_, rfl⟩
  | some name =>
    rw [render, require_of_le h, read, column]
    cases filter <;> exact ⟨_, rfl⟩

end Template

end Catalog

end PgVitals
