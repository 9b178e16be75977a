import PgVitals.Proofs.Trace.History
/-!
# When a trace starts

A trace looks whether it should end once a turn, and a turn asks several statements. So the flag is
not set when a turn polls its target; but SIGINT can come after that and before the helper starts,
and then the helper starts all the same. These are the only traces that start late. No turn follows
them.

* `OneTrace` and `TracesOnce` say of a part of a turn that it polls not at all and starts one helper
  at most.
* `PollsFirst` is a whole turn behind its look at the flag, and `pollsFirst_step` that a turn is
  one.
* `WatchEnds` lists how the turns can end, and `watch_watched` is the induction over the turns: from
  a history that is in order, they make a history that is in order.
* `run_watched` adds what a trace announces before its first turn, and `Heeds` is what follows for a
  whole trace.

The flag is the only thing looked at: whether the helper that started late is cancelled is up to the
driver, and is the matter of `Proofs/Session/Waiting`. At the end a signal arrives during a poll,
and the helper starts with the flag set.
-/

namespace PgVitals.Trace

variable {w : Surroundings} {s s' : Session} {t : Target} {new later earlier : List Event}

/-! ## Behind a poll -/

/-- The statements of a trace. -/
def Target.Sends (t : Target) (statement : Statement) : Prop :=
  statement = t.activityQuery ∨ statement = t.helperQuery ∨ t.Aside statement

theorem Target.sends_aside {statement : Statement} (h : t.Aside statement) : t.Sends statement :=
  .inr (.inr h)

/-- Among some events there is no poll, and one helper at most. -/
inductive OneTrace (t : Target) : List Event → Prop
  | none {events : List Event} (calm : t.Calm events) : OneTrace t events
  | one {later since : List Event} (reply : Reply) (quiet : t.Calm later) (calm : t.Calm since) :
      OneTrace t (later ++ .asked t.helperQuery reply :: since)

theorem OneTrace.after (h : OneTrace t later) (calm : t.Calm earlier) :
    OneTrace t (later ++ earlier) := by
  cases h with
  | none quiet => exact .none (quiet.append calm)
  | one reply quiet between =>
    rw [List.append_assoc, List.cons_append]
    exact .one reply quiet (between.append calm)

theorem OneTrace.before (h : OneTrace t earlier) (calm : t.Calm later) :
    OneTrace t (later ++ earlier) := by
  cases h with
  | none quiet => exact .none (calm.append quiet)
  | one reply quiet between =>
    rw [← List.append_assoc]
    exact .one reply (calm.append quiet) between

/-- A poll that starts with the flag unset, and a trace of what it found, keep a history in
order. -/
theorem Watched.turn (reply : Reply) (h : Watched t s earlier) (unaware : s.flagged earlier = false)
    (found : OneTrace t later) :
    Watched t s (later ++ .asked t.activityQuery reply :: earlier) := by
  have polled := h.polled reply unaware
  cases found with
  | none calm => exact polled.append_calm calm
  | one answer quiet calm =>
    rw [List.append_assoc, List.cons_append]
    exact (polled.append_calm calm |>.traced answer calm).append_calm quiet

/-- Every path of `r` traces once at most, and does not poll. -/
def TracesOnce {α : Type} (t : Target) (r : Run α) : Prop :=
  ∀ w s, ∃ new, Stretch w t.Sends s new (r.perform w s).2 ∧ OneTrace t new

namespace TracesOnce

variable {α β : Type} {r : Run α}

theorem of_asks (h : Run.Asks t.Aside r) : TracesOnce t r := by
  intro w s
  obtain ⟨new, hn⟩ := h.stretch w s
  exact ⟨new, hn.mono fun _ => t.sends_aside, .none fun st r hm => (hn.asked st r hm).1⟩

/-- What comes before a trace, besides it. -/
theorem bind_left {f : α → Run β} (hr : Run.Asks t.Aside r) (hf : ∀ a, TracesOnce t (f a)) :
    TracesOnce t (r >>= f) := by
  intro w s
  obtain ⟨new, hn⟩ := hr.stretch w s
  have calm : t.Calm new := fun st r hm => (hn.asked st r hm).1
  have sends := hn.mono fun _ => t.sends_aside
  rw [Run.perform_bind]
  rcases h : r.perform w s with ⟨stop | a, s'⟩ <;> rw [h] at sends
  · exact ⟨new, sends, .none calm⟩
  · obtain ⟨later, hl, once⟩ := hf a w s'
    exact ⟨later ++ new, sends.trans hl, once.after calm⟩

/-- What comes after a trace, besides it. -/
theorem bind_right {f : α → Run β} (hr : TracesOnce t r) (hf : ∀ a, Run.Asks t.Aside (f a)) :
    TracesOnce t (r >>= f) := by
  intro w s
  obtain ⟨new, hn, once⟩ := hr w s
  rw [Run.perform_bind]
  rcases h : r.perform w s with ⟨stop | a, s'⟩ <;> rw [h] at hn
  · exact ⟨new, hn, once⟩
  · obtain ⟨later, hl⟩ := (hf a).stretch w s'
    exact ⟨later ++ new, hn.trans (hl.mono fun _ => t.sends_aside),
      once.before fun st r hm => (hl.asked st r hm).1⟩

theorem rescue {handle : Failure → Run α} (hr : TracesOnce t r)
    (hh : ∀ failure, Run.Asks t.Aside (handle failure)) : TracesOnce t (Run.rescue r handle) := by
  intro w s
  obtain ⟨new, hn, once⟩ := hr w s
  rw [Run.perform_rescue]
  rcases h : r.perform w s with ⟨(failure | -) | a, s'⟩ <;> rw [h] at hn
  · obtain ⟨later, hl⟩ := (hh failure).stretch w s'
    exact ⟨later ++ new, hn.trans (hl.mono fun _ => t.sends_aside),
      once.before fun st r hm => (hl.asked st r hm).1⟩
  · exact ⟨new, hn, once⟩
  · exact ⟨new, hn, once⟩

theorem helper : TracesOnce t (Run.fetch t.helperQuery) := by
  intro w s
  have ends := Run.fetched w s t.helperQuery
  by_cases up : s.link = .up
  · obtain ⟨quiet, hq, silent⟩ := ends.sent up
    exact ⟨_, hq.mono fun _ same => .inr (.inl same), .one _ (.of_silent silent) fun _ _ => nofun⟩
  · refine ⟨[], ?_, .none fun _ _ => nofun⟩
    rw [(ends.down up).1]
    exact .rest

end TracesOnce

/-- Counting the processes first is nothing but an aside. -/
theorem tracesOnce_counted {α : Type} {f : Value → Run α} (hf : ∀ v, TracesOnce t (f v)) :
    TracesOnce t (if t.workers then do
        let rows ← Run.rows t.workersQuery
        let processes ← Run.firstCell rows
        f processes
      else do
        let processes ← pure .null
        f processes) := by
  split
  · exact .bind_left (.rows (.inl rfl)) fun rows => .bind_left (.firstCell rows) hf
  · exact .bind_left (.pure _) hf

theorem tracesOnce_gather (t : Target) : TracesOnce t (gather t) := by
  unfold gather
  refine tracesOnce_counted fun processes => .rescue ?_ fun failure => ?_
  · rw [← bind_pure_comp]
    exact (TracesOnce.helper.bind_right fun _ => .pure _).bind_right fun _ => .pure _
  · split
    · split
      · exact (Run.Asks.log _ _).bind fun _ => .pure _
      · exact .fail _
    · exact .fail _

theorem asks_report (t : Target) (q : Query) (f : Findings) : Run.Asks t.Aside (report q f) := by
  unfold report
  refine (Run.Asks.rows (.inr ⟨q, rfl⟩)).bind fun rows => (Run.Asks.ofFault _).bind fun _ => ?_
  refine (Run.Asks.printValue _ _).bind fun _ => (Run.Asks.printValue _ _).bind fun _ => ?_
  have rest : Run.Asks t.Aside (do
      let histogram ← Run.ofFault (Histogram.ofRows f.rows)
      Run.printLine (← Run.ofFault histogram.render)
      return histogram) :=
    (Run.Asks.ofFault _).bind fun histogram => (Run.Asks.ofFault _).bind fun _ =>
      (Run.Asks.printLine _).bind fun _ => .pure _
  split
  · exact (Run.Asks.printValue _ _).bind fun _ => rest
  · exact rest

theorem tracesOnce_trace (t : Target) (q : Query) : TracesOnce t (trace t q) := by
  unfold trace
  refine (tracesOnce_gather t).bind_right fun findings => ?_
  split
  · exact .pure _
  · exact (asks_report t q _).bind fun _ => .pure _

/-! ## Turns -/

/-- A turn behind its look at the flag: polls the target, traces what it finds, and pauses. -/
def step (t : Target) : Run Unit := do
  if let some q ← poll t then
    let _ ← trace t q
  Run.sleep (.float pollInterval)

/-- Every path of `r` polls first, and then traces once at most; it fails at once where the
connection is gone. -/
def PollsFirst {α : Type} (t : Target) (r : Run α) : Prop :=
  ∀ w s,
    (∃ stop, r.perform w s = (.error stop, s)) ∨
      ∃ reply later, OneTrace t later ∧
        Stretch w t.Sends s (later ++ [.asked t.activityQuery reply]) (r.perform w s).2

theorem pollsFirst_rows {α : Type} {f : List (List Value) → Run α}
    (hf : ∀ rows, TracesOnce t (f rows)) : PollsFirst t (Run.rows t.activityQuery >>= f) := by
  intro w s
  have ends := Run.fetched w s t.activityQuery
  rw [Run.rows, bind_assoc, Run.perform_bind]
  by_cases up : s.link = .up
  · obtain ⟨quiet, hq, silent⟩ := ends.sent up
    have sends := hq.mono fun _ same => (.inl same : t.Sends _)
    have calm : t.Calm quiet := .of_silent silent
    refine .inr ?_
    rcases h : (Run.fetch t.activityQuery).perform w s with ⟨stop | set, s'⟩ <;> rw [h] at sends
    · exact ⟨w.reply s.past t.activityQuery, quiet, .none calm, sends⟩
    · obtain ⟨later, hl, once⟩ := hf set.rows w s'
      refine ⟨w.reply s.past t.activityQuery, later ++ quiet, once.after calm, ?_⟩
      rw [List.append_assoc]
      exact sends.trans hl
  · obtain ⟨same, stop, failed⟩ := ends.down up
    refine .inl ⟨stop, ?_⟩
    rcases h : (Run.fetch t.activityQuery).perform w s with ⟨result, s'⟩
    rw [h] at same failed
    obtain rfl : s' = s := same
    obtain rfl : result = .error stop := failed
    rfl

theorem pollsFirst_step (t : Target) : PollsFirst t (step t) := by
  unfold step poll
  rw [bind_assoc]
  refine pollsFirst_rows fun rows => .bind_left ?_ fun query => ?_
  · -- No session, one session, or more rows than a process can have.
    split
    · exact (Run.Asks.printLine _).bind fun _ => .fail _
    · refine (Run.Asks.ofFault _).bind fun query => ?_
      split
      · exact (Run.Asks.printValue _ _).bind fun _ => .pure _
      · exact .pure _
    · exact .pure _
  · split
    · exact (tracesOnce_trace t _).bind_right fun _ => .sleep _
    · exact .of_asks (.sleep _)

/-- A turn looks first, and ends the trace where the flag is set. -/
theorem perform_watch (t : Target) (fuel : Nat) :
    (watch t (fuel + 1)).perform w s =
      if (s.after w .looked).flags.shutdown = true then
        (.error (.failed (.interrupted .signal)), s.after w .looked)
      else
        (step t >>= fun _ => watch t fuel).perform w (s.after w .looked) := by
  rw [watch, step, Run.perform_bind, Run.perform_shutdownWanted]
  simp only [bind_assoc]
  split
  · rfl
  · refine congrArg (Run.perform · w _) (bind_congr fun query => ?_)
    cases query with
    | none => rfl
    | some q => simp only [bind_assoc]

/-! ## Whole traces -/

/-- How a trace that began in the session `s` ends: its turns are used up, it finds the flag set, or
a turn fails that began with the flag unset. -/
inductive WatchEnds (w : Surroundings) (s : Session) (t : Target) :
    Except Stop Unit → Session → Prop
  | unfinished {s' : Session} : WatchEnds w s t (.error .unfinished) s'
  | interrupted {s' : Session} (aware : s'.flags.shutdown = true) :
      WatchEnds w s t (.error (.failed (.interrupted .signal))) s'
  | failed {turn s' : Session} {before : List Event} {failure : Failure}
      (past : turn.past = before ++ s.past) (unaware : turn.flags.shutdown = false)
      (fails : (step t).perform w turn = (.error (.failed failure), s')) :
      WatchEnds w s t (.error (.failed failure)) s'

/-- From a history that is in order, turns make a history that is in order. -/
theorem watch_watched {A : Statement → Prop} (t : Target) (fuel : Nat)
    (soFar : Passage w A s earlier s') (h : Watched t s earlier) :
    WatchEnds w s t ((watch t fuel).perform w s').1 ((watch t fuel).perform w s').2 ∧
      ∃ new, Stretch w t.Sends s' new ((watch t fuel).perform w s').2 ∧
        Watched t s (new ++ earlier) := by
  -- Each turn starts in a session and with a history of its own; the flag is always that of the
  -- session the trace began in, after all the events since.
  induction fuel generalizing s' earlier A with
  | zero => exact ⟨.unfinished, [], .rest, h⟩
  | succ fuel ih =>
    obtain ⟨signals, look⟩ := Stretch.note (w := w) (s := s') .looked rfl
    have looked : Watched t s (((signals.map Event.arrived).reverse ++ [.looked]) ++ earlier) :=
      h.append_calm (.of_silent look.silent)
    have passage := (soFar.mono (B := fun _ => True) fun _ _ => trivial).trans
      look.widen.toPassage
    rw [perform_watch]
    split
    · rename_i aware
      exact ⟨.interrupted aware, _, look.widen, looked⟩
    · rename_i unset
      have unaware : (s'.after w .looked).flags.shutdown = false := by simpa using unset
      -- What the look found unset is still unset when the poll starts: no event is in between.
      have flag := passage.flag.symm.trans unaware
      have sends := look.widen (A := t.Sends)
      rw [Run.perform_bind]
      rcases pollsFirst_step t w (s'.after w .looked) with
        ⟨stop, failed⟩ | ⟨reply, later, once, stretch⟩
      · rw [failed]
        refine ⟨?_, _, sends, looked⟩
        cases stop with
        | failed failure => exact .failed passage.past unaware failed
        | unfinished => exact .unfinished
      · have turned := looked.turn reply flag once
        rw [← List.singleton_append, ← List.append_assoc, ← List.append_assoc] at turned
        have turn := sends.trans stretch
        rcases hs : (step t).perform w (s'.after w .looked) with ⟨(failure | _) | _, s₂⟩ <;>
          rw [hs] at turn
        · exact ⟨.failed passage.past unaware hs, _, turn, turned⟩
        · exact ⟨.unfinished, _, turn, turned⟩
        · obtain ⟨left, new, rest, watched⟩ :=
            ih ((soFar.mono (B := fun _ => True) fun _ _ => trivial).trans
              (turn.toPassage.mono fun _ _ => trivial)) turned
          refine ⟨left, _, turn.trans rest, ?_⟩
          rw [List.append_assoc]
          exact watched

/-- What a trace announces comes before its first turn; an interval without a text ends it there. -/
theorem run_watched (w : Surroundings) (s : Session) (t : Target) :
    (∃ fault, t.interval.fixedText 3 = .error fault ∧
      (run t).perform w s = (.error (.failed (.fault fault)), s)) ∨
    WatchEnds w s t ((run t).perform w s).1 ((run t).perform w s).2 ∧
      ∃ new, Stretch w t.Sends s new ((run t).perform w s).2 ∧ Watched t s new := by
  rcases ht : t.interval.fixedText 3 with fault | text
  · refine .inl ⟨fault, rfl, ?_⟩
    rw [run, ht]
    rfl
  · let header := "Tracing wait events for PID " ++ Number.intText t.pid ++ ", sampling at " ++
      text ++ "s, " ++ (if t.workers then "including leader and workers" else "PID only")
    have announced : (run t).perform w s =
        (watch t w.patience).perform w (s.after w (.printed (header ++ "\n"))) := by
      rw [run, ht]
      rfl
    obtain ⟨signals, print⟩ := Stretch.note (w := w) (s := s) (.printed (header ++ "\n")) rfl
    have history : Watched t s
        ((signals.map Event.arrived).reverse ++ [.printed (header ++ "\n")]) :=
      .append_calm (.aside (fun _ _ => nofun) .start) (.of_silent (.arrived _))
    obtain ⟨left, new, rest, watched⟩ := watch_watched t w.patience print.toPassage history
    rw [announced]
    exact .inr ⟨left, _, print.widen.trans rest, watched⟩

/-! ## Late traces -/

/-- How a trace that made the events `new` keeps to the wish to end. -/
structure Heeds (w : Surroundings) (s : Session) (t : Target) (new : List Event)
    (result : Except Stop Unit) (s' : Session) : Prop where
  past : s'.past = new ++ s.past
  /-- No poll starts with the flag set. -/
  polls : ∀ later reply before, new = later ++ .asked t.activityQuery reply :: before →
    s.flagged before = false
  /-- A helper starts with the flag set exactly when SIGINT arrived since the poll of its turn
  started. -/
  helpers : ∀ later reply before, new = later ++ .asked t.helperQuery reply :: before →
    ∃ since answer start, before = since ++ .asked t.activityQuery answer :: start ∧
      t.Calm since ∧ (s.flagged before = true ↔ Event.arrived .interrupt ∈ since)
  /-- A helper that starts with the flag set is the last statement of the trace but for those that
  report on it. -/
  last : ∀ later reply before, new = later ++ .asked t.helperQuery reply :: before →
    s.flagged before = true → t.Calm later
  /-- A trace comes to no normal end. -/
  endless : result ≠ .ok ()
  /-- Unless the interval has no text, a trace that fails does so because it found the flag set, or
  by the failure of a turn that began with the flag unset. -/
  failure : ∀ failure, result = .error (.failed failure) →
    failure = .interrupted .signal ∧ s'.flags.shutdown = true ∨
      (∃ (turn : Session) (before : List Event), turn.past = before ++ s.past ∧
        turn.flags.shutdown = false ∧ (step t).perform w turn = (result, s')) ∨
      ∃ fault, t.interval.fixedText 3 = .error fault ∧ failure = .fault fault ∧ new = []

/-- Whatever the server answers and whenever SIGINT arrives, a trace polls only with the flag unset,
and its helper starts with the flag set exactly when SIGINT arrived between the start of the poll of
its turn and the start of the helper. -/
theorem run_heeds (w : Surroundings) (s : Session) (t : Target)
    (handled : s.handlers.interrupt = true) :
    ∃ new, Heeds w s t new ((run t).perform w s).1 ((run t).perform w s).2 := by
  rcases run_watched w s t with ⟨fault, refused, failed⟩ | ⟨left, new, stretch, watched⟩
  · rw [failed]
    refine ⟨[], rfl, ?_, ?_, ?_, nofun, ?_⟩
    · simp
    · simp
    · simp
    · intro failure same
      cases same
      exact .inr (.inr ⟨fault, refused, rfl, rfl⟩)
  · refine ⟨new, stretch.past, ?_, ?_, ?_, ?_, ?_⟩
    · rintro later reply before rfl
      exact watched.unaware
    · rintro later reply before rfl
      obtain ⟨since, answer, start, rfl, calm, unaware⟩ := watched.own_poll
      refine ⟨since, answer, start, rfl, calm, ?_⟩
      -- The poll itself started with the flag unset, so only what came since can have set it.
      rw [← List.singleton_append, ← List.append_assoc, s.flagged_append handled, unaware]
      simp
    · rintro later reply before rfl late
      exact watched.late_last handled late
    · intro ended
      rw [ended] at left
      cases left
    · intro failure failed
      generalize ((run t).perform w s).2 = s' at left
      rw [failed] at left ⊢
      cases left with
      | interrupted aware => exact .inl ⟨rfl, aware⟩
      | failed past unaware fails => exact .inr (.inl ⟨_, _, past, unaware, fails⟩)

/-- A server on which the target is active, and where SIGINT arrives during the poll. -/
def activeTarget : Surroundings where
  reply _ statement :=
    if statement.sql = (Target.mk 42 .null false).activityQuery.sql then
      { signals := [.interrupt]
        outcome := .result ⟨[], [[.text "active", .text "SELECT 1", .null, .null]]⟩ }
    else { outcome := .refused ⟨.other, "not active", some "not active", some refusal⟩ }
  patience := 3

theorem run_heeds_activeTarget :
    ({} : Session).handlers.interrupt = true ∧
      ∃ new, Heeds activeTarget {} ⟨42, .float 1.0, false⟩ new
        ((run ⟨42, .float 1.0, false⟩).perform activeTarget {}).1
        ((run ⟨42, .float 1.0, false⟩).perform activeTarget {}).2 :=
  ⟨rfl, run_heeds activeTarget {} ⟨42, .float 1.0, false⟩ rfl⟩

set_option maxRecDepth 20000 in
/-- A signal during the poll does not keep the helper from starting. -/
theorem helper_starts_late :
    let s : Session := {}
    let ended := ((run ⟨42, .float 1.0, false⟩).perform activeTarget s).2
    ∃ later reply before,
      ended.past = later ++ .asked (Target.mk 42 (.float 1.0) false).helperQuery reply :: before ∧
        s.flagged before = true := by
  let past := ((run ⟨42, .float 1.0, false⟩).perform activeTarget {}).2.past
  let reply : Reply :=
    { outcome := .refused ⟨.other, "not active", some "not active", some refusal⟩ }
  refine ⟨past.take 4, reply, past.drop 5, ?_, ?_⟩
  · rfl
  · decide +kernel

end PgVitals.Trace
