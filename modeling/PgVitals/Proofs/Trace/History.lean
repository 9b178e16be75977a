import PgVitals.Proofs.Session.Asks
import PgVitals.Trace.Tracer
/-!
# Histories of a trace

A trace polls its target and, where the target is active, starts the helper. What is known of the
order of these statements and of the flag at their starts is an invariant of the events, kept by
every step of a trace. What follows from it is read off here, without looking at the trace again.

* `Watched` is the invariant: no poll starts with the flag set, and between a helper and the poll
  before it there is neither poll nor helper.
* `Watched.unaware` says that no poll starts late, `Watched.own_poll` that every helper has the poll
  of its turn in front of it, and `Watched.late_last` that after a helper that started with the flag
  set there is neither poll nor helper.
* `texts_nodup` is what makes the statements of a trace recognisable in its past: they differ in
  their texts, whatever values are bound to them.

Other statements of a turn, those that count processes or ask for durations, are put aside by
`Target.Aside`: they come and go without changing what is known. That every step of a trace keeps
the invariant is proved in `Proofs/Trace/Watching`.
-/

namespace PgVitals.Trace

variable {s : Session} {t : Target} {new later earlier : List Event}

/-! ## Histories -/

/-- The statements of a turn besides its poll and the helper. -/
def Target.Aside (t : Target) (statement : Statement) : Prop :=
  statement = t.workersQuery ∨ ∃ query, statement = durationQuery query

/-- Neither a poll nor a helper is among some events. -/
def Target.Calm (t : Target) (events : List Event) : Prop :=
  ∀ statement reply, Event.asked statement reply ∈ events → t.Aside statement

/-- A history of polls and helpers, newest first: no poll starts with the flag set, and between a
helper and the poll before it there is neither poll nor helper. -/
inductive Watched (t : Target) (s : Session) : List Event → Prop
  | start : Watched t s []
  | aside {event : Event} {events : List Event} (calm : t.Calm [event])
      (before : Watched t s events) : Watched t s (event :: events)
  | polled {events : List Event} (reply : Reply) (unaware : s.flagged events = false)
      (before : Watched t s events) : Watched t s (.asked t.activityQuery reply :: events)
  | traced {since events : List Event} {answer : Reply} (reply : Reply) (calm : t.Calm since)
      (before : Watched t s (since ++ .asked t.activityQuery answer :: events)) :
      Watched t s
        (.asked t.helperQuery reply :: (since ++ .asked t.activityQuery answer :: events))

/-- The statements of a trace and of its helper differ in their texts, whatever their values are. -/
theorem texts_nodup (t : Target) (query : Query) :
    [t.activityQuery.sql, t.workersQuery.sql, t.helperQuery.sql, (durationQuery query).sql,
      createSchema, dropSchema].Nodup := by
  -- The texts do not depend on the values, so those of one target do for all.
  have one : [(Target.mk 0 .null false).activityQuery.sql,
      (Target.mk 0 .null false).workersQuery.sql, (Target.mk 0 .null false).helperQuery.sql,
      (durationQuery ⟨.null, .null, .null⟩).sql, createSchema, dropSchema].Nodup := by
    decide
  exact one

theorem Target.not_aside_poll (t : Target) : ¬ t.Aside t.activityQuery := by
  rintro (same | ⟨query, same⟩)
  · simpa [same] using texts_nodup t ⟨.null, .null, .null⟩
  · simpa [same] using texts_nodup t query

theorem Target.not_aside_helper (t : Target) : ¬ t.Aside t.helperQuery := by
  rintro (same | ⟨query, same⟩)
  · simpa [same] using texts_nodup t ⟨.null, .null, .null⟩
  · simpa [same] using texts_nodup t query

theorem Target.poll_ne_helper (t : Target) : t.activityQuery ≠ t.helperQuery := by
  intro same
  simpa [same] using texts_nodup t ⟨.null, .null, .null⟩

/-! ## Reading a history -/

theorem Target.Calm.append (hl : t.Calm later) (he : t.Calm earlier) :
    t.Calm (later ++ earlier) := by
  intro statement reply hm
  rcases List.mem_append.mp hm with hm | hm
  · exact hl statement reply hm
  · exact he statement reply hm

theorem Target.Calm.of_silent (h : Silent new) : t.Calm new :=
  fun statement reply hm => absurd hm (h.not_asked statement reply)

theorem Target.Calm.poll_not_mem {reply : Reply} (h : t.Calm new) :
    Event.asked t.activityQuery reply ∉ new :=
  fun hm => t.not_aside_poll (h _ _ hm)

theorem Target.Calm.helper_not_mem {reply : Reply} (h : t.Calm new) :
    Event.asked t.helperQuery reply ∉ new :=
  fun hm => t.not_aside_helper (h _ _ hm)

namespace Watched

theorem append_calm (h : Watched t s earlier) (calm : t.Calm later) :
    Watched t s (later ++ earlier) := by
  induction later with
  | nil => exact h
  | cons event later ih =>
    refine .aside ?_ (ih fun statement reply hm => calm statement reply (List.mem_cons_of_mem _ hm))
    intro statement reply hm
    exact calm statement reply (List.mem_cons.mpr (.inl (List.mem_singleton.mp hm)))

/-- No poll starts with the flag set. -/
theorem unaware {reply : Reply}
    (h : Watched t s (later ++ .asked t.activityQuery reply :: earlier)) :
    s.flagged earlier = false := by
  generalize hx : later ++ .asked t.activityQuery reply :: earlier = events at h
  induction h generalizing later with
  | start => simp at hx
  | aside calm before ih =>
    cases later with
    | nil =>
      cases hx
      exact absurd List.mem_cons_self calm.poll_not_mem
    | cons event later => exact ih (List.cons.inj hx).2
  | polled _ unaware before ih =>
    cases later with
    | nil =>
      cases hx
      exact unaware
    | cons event later => exact ih (List.cons.inj hx).2
  | traced _ calm before ih =>
    cases later with
    | nil => exact absurd (Event.asked.inj (List.cons.inj hx).1).1 t.poll_ne_helper
    | cons event later => exact ih (List.cons.inj hx).2

/-- Before every helper there is the poll of its turn. -/
theorem own_poll {reply : Reply}
    (h : Watched t s (later ++ .asked t.helperQuery reply :: earlier)) :
    ∃ since answer before, earlier = since ++ .asked t.activityQuery answer :: before ∧
      t.Calm since ∧ s.flagged before = false := by
  generalize hx : later ++ .asked t.helperQuery reply :: earlier = events at h
  induction h generalizing later with
  | start => simp at hx
  | aside calm before ih =>
    cases later with
    | nil =>
      cases hx
      exact absurd List.mem_cons_self calm.helper_not_mem
    | cons event later => exact ih (List.cons.inj hx).2
  | polled _ unaware before ih =>
    cases later with
    | nil => exact absurd (Event.asked.inj (List.cons.inj hx).1).1.symm t.poll_ne_helper
    | cons event later => exact ih (List.cons.inj hx).2
  | traced _ calm before ih =>
    cases later with
    | nil =>
      cases hx
      exact ⟨_, _, _, rfl, calm, before.unaware⟩
    | cons event later => exact ih (List.cons.inj hx).2

/-- After a helper that started with the flag set there is neither poll nor helper. -/
theorem late_last (handled : s.handlers.interrupt = true) {reply : Reply}
    (h : Watched t s (later ++ .asked t.helperQuery reply :: earlier))
    (late : s.flagged earlier = true) : t.Calm later := by
  induction later with
  | nil => exact fun _ _ => nofun
  | cons event later ih =>
    -- The flag stays set, so the newest event is no poll.
    have aware : s.flagged (later ++ .asked t.helperQuery reply :: earlier) = true := by
      rw [← List.singleton_append, ← List.append_assoc]
      exact (s.flagged_append handled _ earlier).mpr (.inl late)
    generalize hx : later ++ .asked t.helperQuery reply :: earlier = rest at ih aware
    have h' : Watched t s (event :: rest) := hx ▸ h
    cases h' with
    | aside calm before =>
      show t.Calm ([event] ++ later)
      exact calm.append (ih before)
    | polled _ unaware before => rw [unaware] at aware; cases aware
    | @traced since events answer _ calm before =>
      -- Its own poll would come after the late helper, where there is none.
      have quiet := ih before
      rcases List.append_eq_append_iff.mp hx with ⟨between, hs, he⟩ | ⟨between, hl, he⟩
      · cases between with
        | nil => exact absurd (Event.asked.inj (List.cons.inj he).1).1.symm t.poll_ne_helper
        | cons event between =>
          obtain rfl := (List.cons.inj he).1
          rw [hs] at calm
          exact absurd (List.mem_append_right _ List.mem_cons_self) calm.helper_not_mem
      · cases between with
        | nil => exact absurd (Event.asked.inj (List.cons.inj he).1).1 t.poll_ne_helper
        | cons event between =>
          obtain rfl := (List.cons.inj he).1
          rw [hl] at quiet
          exact absurd (List.mem_append_right _ List.mem_cons_self) quiet.poll_not_mem

end Watched

end PgVitals.Trace
