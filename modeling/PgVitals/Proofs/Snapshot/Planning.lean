import PgVitals.Proofs.Catalog.Choice
import PgVitals.Proofs.Session.Working
import PgVitals.Snapshot.Dump
/-!
# What is planned

A snapshot plans the views that a server has and the user may read, in their order, and logs for
each of the others the first thing that it lacks. A later release, and more rights, take nothing out
of a plan; nor does a later release take a section out of the report.

* `Meets` says that a server of a release which grants something has everything a view needs, and
  `plan_eq_filter` that the plan are the views for which it does.
* `FirstUnmet` is the first need that is not met, in a fixed order, and `IsNote` the three texts
  there are for it. `FirstUnmet.isNote` says that the text of the program is the right one of these.
* `skipNotes_belong` pairs the notes with the views that are left out, one by one, and
  `perform_logs` says that all of them are logged.
* `Capabilities.Kept` and `Meets.later` are about later releases and more rights, and `plan_sublist`
  is what follows for plans.

A view that lacks several things has one note. What a server grants is found out before, by asking
it; the plan is a function of the release and of what was found.
-/

namespace PgVitals.Snapshot

open PgVitals.Catalog

variable {release release' : Release} {granted granted' : Capabilities} {t : Template}

/-! ## Needs -/

/-- A server of this release that grants this has everything a view needs. -/
structure Meets (release : Release) (granted : Capabilities) (t : Template) : Prop where
  since : t.since ≤ release
  superuser : t.domain = .xlog → granted.superuser = true
  statements : t.domain = .statements → granted.statements = true

instance (release : Release) (granted : Capabilities) (t : Template) :
    Decidable (Meets release granted t) :=
  decidable_of_iff (t.since ≤ release ∧ (t.domain = .xlog → granted.superuser = true) ∧
      (t.domain = .statements → granted.statements = true))
    ⟨fun h => ⟨h.1, h.2.1, h.2.2⟩, fun h => ⟨h.since, h.superuser, h.statements⟩⟩

/-- The first need that is not met: the release comes before the rights of the user, and these
before the extension. -/
inductive FirstUnmet (release : Release) (granted : Capabilities) (t : Template) :
    SkipReason → Prop
  | release (low : ¬ t.since ≤ release) : FirstUnmet release granted t (.needsRelease t.since)
  | superuser (since : t.since ≤ release) (xlog : t.domain = .xlog)
    (ordinary : granted.superuser = false) : FirstUnmet release granted t .needsSuperuser
  | statements (since : t.since ≤ release)
    (superuser : t.domain = .xlog → granted.superuser = true) (own : t.domain = .statements)
    (missing : granted.statements = false) : FirstUnmet release granted t .needsStatements

theorem skipReason?_eq (release : Release) (granted : Capabilities) (t : Template) :
    skipReason? release granted t =
      if ¬ t.since ≤ release then some (.needsRelease t.since)
      else if t.domain = .xlog ∧ granted.superuser = false then some .needsSuperuser
      else if t.domain = .statements ∧ granted.statements = false then some .needsStatements
      else none := by
  simp [skipReason?, Template.supports, Catalog.Snapshot.needsSuperuser,
    Catalog.Snapshot.needsStatementsExtension, ← Release.atLeast_iff]

/-- Either everything is met, or there is a first need that is not. -/
theorem skipReason?_elim (release : Release) (granted : Capabilities) (t : Template) :
    (skipReason? release granted t).elim (Meets release granted t)
      (FirstUnmet release granted t) := by
  rw [skipReason?_eq]
  split
  case isTrue low => exact .release low
  case isFalse high =>
    have since := not_not.mp high
    split
    case isTrue lacking => exact .superuser since lacking.1 lacking.2
    case isFalse allowed =>
      have superuser : t.domain = .xlog → granted.superuser = true := fun xlog =>
        Bool.eq_true_of_not_eq_false fun ordinary => allowed ⟨xlog, ordinary⟩
      split
      case isTrue lacking => exact .statements since superuser lacking.1 lacking.2
      case isFalse installed =>
        exact ⟨since, superuser, fun own =>
          Bool.eq_true_of_not_eq_false fun missing => installed ⟨own, missing⟩⟩

theorem firstUnmet_of_skipReason {reason : SkipReason}
    (skipped : skipReason? release granted t = some reason) :
    FirstUnmet release granted t reason := by
  have judged := skipReason?_elim release granted t
  rwa [skipped] at judged

theorem FirstUnmet.not_meets {reason : SkipReason} (unmet : FirstUnmet release granted t reason) :
    ¬ Meets release granted t := by
  intro meets
  cases unmet with
  | release low => exact low meets.since
  | superuser _ xlog ordinary =>
    rw [meets.superuser xlog] at ordinary
    cases ordinary
  | statements _ _ own missing =>
    rw [meets.statements own] at missing
    cases missing

theorem skipReason?_eq_none_iff :
    skipReason? release granted t = none ↔ Meets release granted t := by
  constructor
  · intro kept
    have judged := skipReason?_elim release granted t
    rwa [kept] at judged
  · intro meets
    cases skipped : skipReason? release granted t with
    | none => rfl
    | some reason => exact absurd meets (firstUnmet_of_skipReason skipped).not_meets

/-! ## Plans and notes -/

theorem plan_eq_filter (release : Release) (granted : Capabilities) (templates : List Template) :
    plan release granted templates =
      templates.filter fun t => decide (Meets release granted t) := by
  refine List.filter_congr fun t _ => ?_
  rw [Bool.eq_iff_iff, Option.isNone_iff_eq_none, skipReason?_eq_none_iff, decide_eq_true_iff]

/-- The note on a view that is skipped: it names the view and the first need that is not met. -/
inductive IsNote (release : Release) (granted : Capabilities) (t : Template) : String → Prop
  | release (low : ¬ t.since ≤ release) :
      IsNote release granted t ("Skipping " ++ t.name ++ ": needs at least " ++ t.since.text)
  | superuser (since : t.since ≤ release) (xlog : t.domain = .xlog)
      (ordinary : granted.superuser = false) :
      IsNote release granted t ("Skipping " ++ t.name ++ ": needs a superuser")
  | statements (since : t.since ≤ release)
      (superuser : t.domain = .xlog → granted.superuser = true) (own : t.domain = .statements)
      (missing : granted.statements = false) :
      IsNote release granted t ("Skipping " ++ t.name ++ ": pg_stat_statements is not installed")

theorem FirstUnmet.isNote {reason : SkipReason} (unmet : FirstUnmet release granted t reason) :
    IsNote release granted t ("Skipping " ++ t.name ++ ": " ++ reason.message) := by
  rw [String.append_assoc]
  cases unmet with
  | release low =>
    have wording : ": " ++ (SkipReason.needsRelease t.since).message =
        ": needs at least " ++ t.since.text := by
      rw [SkipReason.message, ← String.append_assoc]
      rfl
    rw [wording, ← String.append_assoc]
    exact .release low
  | superuser since xlog ordinary =>
    have wording : ": " ++ SkipReason.needsSuperuser.message = ": needs a superuser" := by decide
    rw [wording]
    exact .superuser since xlog ordinary
  | statements since superuser own missing =>
    have wording : ": " ++ SkipReason.needsStatements.message =
        ": pg_stat_statements is not installed" := by decide
    rw [wording]
    exact .statements since superuser own missing

theorem skipNotes_belong (release : Release) (granted : Capabilities) (templates : List Template) :
    List.Forall₂ (IsNote release granted)
      (templates.filter fun t => !decide (Meets release granted t))
      (skipNotes release granted templates) := by
  have picked := forall₂_picked (fun t => (skipReason? release granted t).map fun reason =>
    "Skipping " ++ t.name ++ ": " ++ reason.message) templates
  have same : (templates.filter fun t => ((skipReason? release granted t).map fun reason =>
      "Skipping " ++ t.name ++ ": " ++ reason.message).isSome) =
      templates.filter fun t => !decide (Meets release granted t) := by
    refine List.filter_congr fun t _ => ?_
    rw [Option.isSome_map, Bool.eq_iff_iff, Option.isSome_iff_ne_none, ne_eq,
      skipReason?_eq_none_iff]
    simp
  rw [same] at picked
  refine picked.imp fun t note h => ?_
  obtain ⟨reason, skipped, rfl⟩ := Option.map_eq_some_iff.mp h
  exact (firstUnmet_of_skipReason skipped).isNote

/-! ## The log -/

/-- An event adds its record to the log, and the signals that arrive after it add none. -/
theorem log_after (w : Surroundings) (event : Event) (s : Session) :
    (s.after w event).log = s.log ++ event.record?.toList := by
  obtain ⟨signals, adds⟩ := Adds.after (w := w) (s := s) event
  have silent : (signals.map Event.arrived).reverse.filterMap Event.record? = [] := by
    rw [List.filterMap_eq_nil_iff]
    intro event member
    obtain ⟨signal, -, rfl⟩ := List.mem_map.mp (List.mem_reverse.mp member)
    rfl
  rw [Session.log, adds.past, List.append_assoc, List.filterMap_append, silent, List.nil_append,
    List.singleton_append, Session.log]
  cases recorded : event.record? with
  | none => rw [List.filterMap_cons_none recorded, Option.toList_none, List.append_nil]
  | some record => rw [List.filterMap_cons_some recorded, List.reverse_cons, Option.toList_some]

theorem perform_logs (w : Surroundings) (s : Session) (texts : List String) :
    ∃ s', (texts.forM fun text => Run.log .info text).perform w s = (.ok (), s') ∧
      s'.log = s.log ++ texts.map fun text => (LogLevel.info, text) := by
  induction texts generalizing s with
  | nil => exact ⟨s, rfl, (List.append_nil _).symm⟩
  | cons text texts ih =>
    obtain ⟨s', performed, log⟩ := ih (s.after w (.logged .info text))
    refine ⟨s', ?_, ?_⟩
    · show (Run.log .info text >>= fun _ =>
        texts.forM fun text => Run.log .info text).perform w s = _
      rw [Run.perform_bind_ok (Run.perform_log _ _), performed]
    · rw [log, log_after, List.append_assoc]
      rfl

/-! ## Later plans -/

/-- What was granted is still granted. -/
structure Capabilities.Kept (granted granted' : Capabilities) : Prop where
  superuser : granted.superuser = true → granted'.superuser = true
  statements : granted.statements = true → granted'.statements = true

theorem Meets.later (meets : Meets release granted t) (later : release ≤ release')
    (kept : granted.Kept granted') : Meets release' granted' t where
  since := Release.le_trans meets.since later
  superuser xlog := kept.superuser (meets.superuser xlog)
  statements own := kept.statements (meets.statements own)

theorem plan_sublist (later : release ≤ release') (kept : granted.Kept granted')
    (templates : List Template) :
    (plan release granted templates).Sublist (plan release' granted' templates) := by
  rw [plan_eq_filter, plan_eq_filter]
  refine List.monotone_filter_right templates fun t meets => ?_
  exact decide_eq_true ((of_decide_eq_true meets).later later kept)

/-! ## Planning -/

/-- **A plan is what a server has and grants, in order, and the rest is accounted for.** The views
that are planned are those whose needs are met; each of the others has one note in the log, in the
same order, on the first need that is not. Releases are ordered like pairs of numbers, and being at
least of a release is not to be behind it. A later release with rights that are kept plans whatever
was planned, and a later release reports whatever was reported. -/
theorem plan_selects :
    (∀ release granted templates,
      plan release granted templates =
        templates.filter (fun t => decide (Meets release granted t)) ∧
      ∃ notes, List.Forall₂ (IsNote release granted)
          (templates.filter fun t => !decide (Meets release granted t)) notes ∧
        ∀ w s, ∃ s', (logSkips release granted templates).perform w s = (.ok (), s') ∧
          s'.log = s.log ++ notes.map fun text => (LogLevel.info, text)) ∧
    (∀ a b : Release, (a ≤ b ↔ b.atLeast a = true) ∧
      (a ≤ b ↔ toLex (a.major, a.minor) ≤ toLex (b.major, b.minor))) ∧
    ∀ release release' : Release, release ≤ release' →
      (∀ granted granted' templates, granted.Kept granted' →
        (plan release granted templates).Sublist (plan release' granted' templates)) ∧
      ∀ excluded, (Catalog.Report.plan release excluded Catalog.Report.sections).Sublist
        (Catalog.Report.plan release' excluded Catalog.Report.sections) := by
  refine ⟨fun release granted templates => ?_, fun a b => ?_, fun release release' later => ?_⟩
  · refine ⟨plan_eq_filter release granted templates, _, skipNotes_belong release granted templates,
      fun w s => perform_logs w s _⟩
  · exact ⟨Release.atLeast_iff.symm, Release.le_iff_toLex⟩
  · exact ⟨fun _ _ templates kept => plan_sublist later kept templates,
      Catalog.Report.plan_sublist later⟩

/-- A user without rights on a server without extensions. -/
def ordinary : Capabilities := ⟨false, false⟩

/-- A superuser on such a server. -/
def privileged : Capabilities := ⟨true, false⟩

theorem plan_selects_upgraded :
    (⟨9, 4⟩ : Release) ≤ ⟨16, 0⟩ ∧ ordinary.Kept privileged ∧
      (plan ⟨9, 4⟩ ordinary Catalog.Snapshot.templates).Sublist
        (plan ⟨16, 0⟩ privileged Catalog.Snapshot.templates) ∧
      (Catalog.Report.plan ⟨9, 4⟩ [] Catalog.Report.sections).Sublist
        (Catalog.Report.plan ⟨16, 0⟩ [] Catalog.Report.sections) := by
  have later : (⟨9, 4⟩ : Release) ≤ ⟨16, 0⟩ := by decide
  have kept : ordinary.Kept privileged := ⟨nofun, nofun⟩
  obtain ⟨snapshot, report⟩ := plan_selects.2.2 _ _ later
  exact ⟨later, kept, snapshot _ _ _ kept, report []⟩

end PgVitals.Snapshot
