import PgVitals.Catalog.Monitor
import PgVitals.Catalog.Report
import PgVitals.Catalog.Snapshot
import PgVitals.Proofs.Catalog.Rendering
/-!
# The choice of fragments

Of several fragments the first one that covers the release is chosen, for columns, for sources and
for sections of the report alike. In a list that names the newest fragment first this is the newest
one of those that cover the release; every list of the program is in that order. A column without a
fragment for a release is left out of the select list and of the names of the columns alike, unless
a literal stands in for it, so the two go on side by side.

* `Chosen` is the first fragment of a list that covers a release, and `IsNewest` the one that begins
  last. `chosen_iff_isNewest` says that they are the same in a list that is `NewestFirst`.
* `templates_newestFirst` and `sections_newestFirst` say that all lists of the program are.
* `Column.ShownAs` and `Column.Absent` are what becomes of a column on a release.
  `Template.exists_items` pairs the items of the select list with the columns that are kept, one by
  one.
* `Report.plan_sublist` says that a section which is in the report of a release is in the reports of
  all later ones.

Releases are compared by both of their numbers, and the order is strict: two fragments that begin
with the same release are never in one list. Whether the server of a release really has what its
fragment reads from is nothing that can be told from the text.
-/

namespace PgVitals.Catalog

variable {f : Fragment} {fragments : List Fragment} {release : Release}

/-! ## The chosen fragment -/

/-- The release is one of those that a fragment is for. -/
def Fragment.Covers (f : Fragment) (release : Release) : Prop :=
  f.since ≤ release ∧ ∀ before ∈ f.before, release < before

theorem Fragment.applies_iff : f.applies release = true ↔ f.Covers release := by
  unfold applies Covers
  cases f.before with
  | none => simp [Release.atLeast_iff]
  | some before =>
    rw [Bool.and_eq_true, Bool.not_eq_true', ← Bool.not_eq_true, Release.atLeast_iff,
      Release.atLeast_iff, Release.not_le]
    simp

instance (f : Fragment) (release : Release) : Decidable (f.Covers release) :=
  decidable_of_iff _ f.applies_iff

/-- The first fragment of a list that covers a release. -/
def Chosen (fragments : List Fragment) (release : Release) (f : Fragment) : Prop :=
  ∃ before behind, fragments = before ++ f :: behind ∧ f.Covers release ∧
    ∀ g ∈ before, ¬ g.Covers release

/-- No fragment of a list covers a release. -/
def Uncovered (fragments : List Fragment) (release : Release) : Prop :=
  ∀ f ∈ fragments, ¬ f.Covers release

instance (fragments : List Fragment) (release : Release) :
    Decidable (Uncovered fragments release) :=
  inferInstanceAs (Decidable (∀ f ∈ fragments, ¬ f.Covers release))

theorem applicable?_eq_some_iff :
    applicable? fragments release = some f ↔ Chosen fragments release f := by
  rw [applicable?, List.find?_eq_some_iff_append]
  constructor
  · rintro ⟨applies, before, behind, rfl, others⟩
    refine ⟨before, behind, rfl, Fragment.applies_iff.mp applies, fun g member covers => ?_⟩
    have refused := others g member
    rw [Fragment.applies_iff.mpr covers] at refused
    cases refused
  · rintro ⟨before, behind, rfl, covers, others⟩
    refine ⟨Fragment.applies_iff.mpr covers, before, behind, rfl, fun g member => ?_⟩
    rw [Bool.not_eq_true', ← Bool.not_eq_true, Fragment.applies_iff]
    exact others g member

theorem applicable?_eq_none_iff :
    applicable? fragments release = none ↔ Uncovered fragments release := by
  simp only [applicable?, List.find?_eq_none, Fragment.applies_iff, Uncovered]

/-! ## Lists with the newest fragment first -/

/-- Every fragment of a list begins before those in front of it. -/
def NewestFirst (fragments : List Fragment) : Prop :=
  fragments.Pairwise fun newer older => older.since < newer.since

instance (fragments : List Fragment) : Decidable (NewestFirst fragments) :=
  inferInstanceAs (Decidable (fragments.Pairwise fun newer older => older.since < newer.since))

/-- The fragment that begins last of those that cover a release. -/
structure IsNewest (fragments : List Fragment) (release : Release) (f : Fragment) : Prop where
  member : f ∈ fragments
  covers : f.Covers release
  last : ∀ g ∈ fragments, g.Covers release → g.since ≤ f.since

theorem chosen_iff_isNewest (ordered : NewestFirst fragments) :
    Chosen fragments release f ↔ IsNewest fragments release f := by
  constructor
  · rintro ⟨before, behind, rfl, covers, others⟩
    refine ⟨List.mem_append_right _ List.mem_cons_self, covers, fun g member covered => ?_⟩
    have older := (List.pairwise_cons.mp (List.pairwise_append.mp ordered).2.1).1
    rcases List.mem_append.mp member with member | member
    · exact absurd covered (others g member)
    · rcases List.mem_cons.mp member with rfl | member
      · exact Release.le_refl _
      · exact Release.le_of_lt (older g member)
  · intro newest
    obtain ⟨before, behind, rfl⟩ := List.append_of_mem newest.member
    refine ⟨before, behind, rfl, newest.covers, fun g member covered => ?_⟩
    have newer := (List.pairwise_append.mp ordered).2.2 g member f List.mem_cons_self
    have last := newest.last g (List.mem_append_left _ member) covered
    exact Release.not_le.mpr newer last

theorem templates_newestFirst : ∀ t ∈ Monitor.templates ++ Snapshot.templates,
    NewestFirst t.sources ∧ ∀ c ∈ t.columns, NewestFirst c.fragments := by
  decide +kernel

theorem sections_newestFirst : ∀ s ∈ Report.sections, NewestFirst s.fragments := by
  decide +kernel

/-! ## Columns -/

/-- The item of the select list for a column: the expression of the chosen fragment, under the name
of the column unless that is what it is, or else the literal that stands in for it. -/
inductive Column.ShownAs (c : Column) (missing : Option String) (release : Release) :
    String → Prop
  | bare {f : Fragment} (chosen : Chosen c.fragments release f) (same : f.sql = c.name) :
    ShownAs c missing release c.name
  | renamed {f : Fragment} (chosen : Chosen c.fragments release f) (other : f.sql ≠ c.name) :
    ShownAs c missing release (f.sql ++ " AS " ++ c.name)
  | literal {text : String} (uncovered : Uncovered c.fragments release)
    (given : missing = some text) : ShownAs c missing release (text ++ " AS " ++ c.name)

/-- A column is left out: it has no fragment for the release, and nothing stands in for it. -/
def Column.Absent (c : Column) (missing : Option String) (release : Release) : Prop :=
  Uncovered c.fragments release ∧ missing = none

instance (c : Column) (missing : Option String) (release : Release) :
    Decidable (c.Absent missing release) :=
  inferInstanceAs (Decidable (Uncovered c.fragments release ∧ missing = none))

variable {c : Column} {missing : Option String}

theorem Column.item?_eq_none_iff : c.item? missing release = none ↔ c.Absent missing release := by
  unfold item? Absent
  rw [← applicable?_eq_none_iff]
  split <;> simp_all

theorem Column.shownAs_of_item {item : String} (shown : c.item? missing release = some item) :
    c.ShownAs missing release item := by
  unfold item? at shown
  split at shown
  · rename_i f found
    obtain rfl := Option.some.inj shown
    have chosen := applicable?_eq_some_iff.mp found
    unfold named
    split
    · rename_i same
      exact .bare chosen (beq_iff_eq.mp same)
    · rename_i other
      exact .renamed chosen (mt beq_iff_eq.mpr other)
  · rename_i found
    obtain ⟨text, given, rfl⟩ := Option.map_eq_some_iff.mp shown
    exact .literal (applicable?_eq_none_iff.mp found) given

/-! ## Templates -/

namespace Template

/-- The columns that a release has, in their order. -/
def kept (t : Template) (release : Release) : List Column :=
  t.columns.filter fun c => !decide (c.Absent t.missing release)

/-- A list with its first entry, which belongs to the time of capture, where there is one. -/
def stamped (t : Template) (first : String) (rest : List String) : List String :=
  if t.timestamp then first :: rest else rest

theorem filter_items (t : Template) (release : Release) :
    (t.columns.filter fun c => (c.item? t.missing release).isSome) = t.kept release := by
  refine List.filter_congr fun c _ => ?_
  rw [Bool.eq_iff_iff, Option.isSome_iff_ne_none, ne_eq, Column.item?_eq_none_iff]
  simp

theorem columnNames_eq (t : Template) (release : Release) :
    t.columnNames release = t.stamped captureName ((t.kept release).map Column.name) := by
  rw [columnNames, filter_items, stamped]

/-- The items of the select list belong, one by one, to the columns that are kept. -/
theorem exists_items (t : Template) (release : Release) : ∃ items : List String,
    List.Forall₂ (fun c item => c.ShownAs t.missing release item) (t.kept release) items ∧
      t.selectList release = t.stamped captureTime items := by
  have picked := forall₂_picked (fun c : Column => c.item? t.missing release) t.columns
  rw [filter_items] at picked
  exact ⟨_, picked.imp fun _ _ shown => Column.shownAs_of_item shown, rfl⟩

theorem length_stamped {first second : String} {a b : List String} (t : Template)
    (same : a.length = b.length) :
    (t.stamped first a).length = (t.stamped second b).length := by
  unfold stamped
  split
  · rw [List.length_cons, List.length_cons, same]
  · exact same

theorem source_eq_ok_iff {t : Template} {sql : String} :
    t.source release = .ok sql ↔ ∃ f, Chosen t.sources release f ∧ f.sql = sql := by
  simp only [← applicable?_eq_some_iff]
  unfold source
  cases applicable? t.sources release with
  | some f => simp
  | none => cases t.sources.getLast? <;> simp

end Template

theorem Report.Section.sql?_eq_some_iff {s : Report.Section} {sql : String} :
    s.sql? release = some sql ↔ ∃ f, Chosen s.fragments release f ∧ f.sql = sql := by
  simp only [Report.Section.sql?, Option.map_eq_some_iff, applicable?_eq_some_iff]

/-! ## Later releases -/

/-- No section of the report has an end. -/
theorem sections_endless : ∀ s ∈ Report.sections, ∀ f ∈ s.fragments, f.before = none := by
  decide +kernel

variable {later : Release}

theorem Report.Section.applies_later {s : Report.Section}
    (endless : ∀ f ∈ s.fragments, f.before = none) (after : release ≤ later)
    (applies : s.applies release = true) : s.applies later = true := by
  unfold Report.Section.applies at applies ⊢
  rw [Bool.or_eq_true] at applies ⊢
  refine applies.imp_right fun shown => ?_
  unfold Report.Section.sql? at shown ⊢
  rw [Option.isSome_map] at shown ⊢
  obtain ⟨f, member, applied⟩ := List.find?_isSome.mp shown
  have since : f.since ≤ release := (Fragment.applies_iff.mp applied).1
  refine List.find?_isSome.mpr ⟨f, member, ?_⟩
  exact Fragment.applies_of_le (endless f member) (Release.le_trans since after)

/-- What a condition keeps of a list is among what a wider condition keeps. -/
theorem filter_sublist_filter {α : Type} {p q : α → Bool} {items : List α}
    (wider : ∀ item ∈ items, p item = true → q item = true) :
    (items.filter p).Sublist (items.filter q) := by
  have both : (items.filter q).filter p = items.filter p := by
    rw [List.filter_filter]
    refine List.filter_congr fun item member => ?_
    rw [Bool.eq_iff_iff, Bool.and_eq_true]
    exact ⟨And.left, fun held => ⟨held, wider item member held⟩⟩
  rw [← both]
  exact List.filter_sublist

/-- A section that is in the report of a release is in the reports of all later ones. -/
theorem Report.plan_sublist (after : release ≤ later) (excluded : List Value) :
    (Report.plan release excluded Report.sections).Sublist
      (Report.plan later excluded Report.sections) := by
  refine filter_sublist_filter fun s member planned => ?_
  rw [Bool.and_eq_true] at planned ⊢
  exact planned.imp_left (Report.Section.applies_later (sections_endless s member) after)

/-! ## Rendering -/

/-- **What is rendered is the newest that the release understands.** The select list and the names
of the columns are equally long: the time of capture comes first in both where there is one, and
then, in their order, the columns that are not left out, each with its item. Items, sources and
sections of the report use the first fragment that covers the release; in a list with the newest
fragment first that is the newest one that does, and every list of the program is such a list. -/
theorem newest_rendered :
    (∀ (t : Template) release,
      (∃ items : List String,
        List.Forall₂ (fun c item => c.ShownAs t.missing release item) (t.kept release) items ∧
          t.selectList release = t.stamped captureTime items) ∧
      t.columnNames release = t.stamped captureName ((t.kept release).map Column.name) ∧
      (t.selectList release).length = (t.columnNames release).length ∧
      ∀ sql, t.source release = .ok sql ↔ ∃ f, Chosen t.sources release f ∧ f.sql = sql) ∧
    (∀ (s : Report.Section) release sql,
      s.sql? release = some sql ↔ ∃ f, Chosen s.fragments release f ∧ f.sql = sql) ∧
    (∀ (f : Fragment) release, f.applies release = true ↔ f.Covers release) ∧
    (∀ fragments release f, NewestFirst fragments →
      (Chosen fragments release f ↔ IsNewest fragments release f)) ∧
    (∀ t ∈ Monitor.templates ++ Snapshot.templates,
      NewestFirst t.sources ∧ ∀ c ∈ t.columns, NewestFirst c.fragments) ∧
    ∀ s ∈ Report.sections, NewestFirst s.fragments := by
  refine ⟨fun t release => ?_, fun s release sql => Report.Section.sql?_eq_some_iff,
    fun f release => f.applies_iff, fun fragments release f => chosen_iff_isNewest,
    templates_newestFirst, sections_newestFirst⟩
  have names := t.columnNames_eq release
  obtain ⟨items, shown, list⟩ := t.exists_items release
  refine ⟨⟨items, shown, list⟩, names, ?_, fun sql => Template.source_eq_ok_iff⟩
  rw [list, names]
  exact t.length_stamped (by rw [List.length_map, shown.length_eq])

/-- Where the counters of checkpoints are since release 17. -/
def checkpointerSource : Fragment := ⟨"pg_stat_bgwriter b, pg_stat_checkpointer c", ⟨17, 0⟩, none⟩

theorem newest_rendered_checkpointer :
    Monitor.bgwriter ∈ Monitor.templates ++ Snapshot.templates ∧
      NewestFirst Monitor.bgwriter.sources ∧
      IsNewest Monitor.bgwriter.sources ⟨17, 2⟩ checkpointerSource ∧
      Monitor.bgwriter.source ⟨17, 2⟩ = .ok checkpointerSource.sql ∧
      (Snapshot.bgwriter.selectList ⟨17, 2⟩).length =
        (Snapshot.bgwriter.columnNames ⟨17, 2⟩).length := by
  obtain ⟨rendered, -, -, choice, ordered, -⟩ := newest_rendered
  have member : Monitor.bgwriter ∈ Monitor.templates ++ Snapshot.templates :=
    List.mem_append_left _ (List.mem_cons_of_mem _ List.mem_cons_self)
  have sources := (ordered _ member).1
  have first : Chosen Monitor.bgwriter.sources ⟨17, 2⟩ checkpointerSource :=
    ⟨[], _, rfl, by decide, nofun⟩
  have read := (rendered Monitor.bgwriter ⟨17, 2⟩).2.2.2
  exact ⟨member, sources, (choice _ _ _ sources).mp first, (read _).mpr ⟨_, first, rfl⟩,
    (rendered Snapshot.bgwriter ⟨17, 2⟩).2.2.1⟩

end PgVitals.Catalog
