import PgVitals.Proofs.Monitor.Steps
/-!
# The turns of a sampler

What a sampler holds follows from what was seen: the page is that of the last measurement, the
countdown is what is left of the page of the last header, and the phase says what may come next.
Each step keeps this up, and so does a whole run until it ends.

* `InPhase` says for each phase what was seen when a sampler is in it, and `Counts` what its
  countdown counts. `Stands` is the invariant made of them; `Stands.start` is where it begins.
* `Stands.begun`, `Stands.headed`, `Stands.sampled` and `Stands.rested` are the four transitions,
  and `Live.step` is the step lemma: each step of the sampler is `Steady` until the sampler is done.
* `Cause` lists why a run stops without being done: the source has stopped it, the terminal could
  not be measured, the interval is no number of seconds, or it was cut short.
* `Live.drive` is the induction over the turns, and `course_ended` what it says of a run from its
  start: how it ended, and with which page.
* `perform_run` passes from the course of a run to what the run returns.

The source, the height of the terminal and the pace are any. The turns are bounded by the patience
of the surroundings; a run that uses it up is cut short, and has kept to the law until then.
-/

namespace PgVitals.Monitor

open Sampler

variable {σ : Type} {source : Source σ} {height : Run Int} {pace : Pace} {w : Surroundings}
  {s t : Session} {new : List Event}

/-! ## The state of a sampler -/

/-- A countdown that counts what is left of a page after some samples; there is none where headers
are not repeated. -/
inductive Counts (pace : Pace) (page : Option Int) (samples : Int) : Option Int → Prop
  | never (once : pace.repeatHeader = false) : Counts pace page samples none
  | down (repeats : pace.repeatHeader = true) (left : Int) (more : 1 ≤ left)
      (all : page = some (left + samples)) : Counts pace page samples (some left)

/-- A sampler whose phase and countdown are those that follow from what was seen. -/
inductive InPhase (pace : Pace) (v : Seen) : Phase → Option Int → Prop
  | begin (first : v.lastCall = none) (unsettled : v.consumed = []) (unmeasured : v.measured = [])
      (room : v.Room pace) (countdown : Option Int) : InPhase pace v .begin countdown
  | header (may : May pace v (.called false)) (room : v.Room pace) (countdown : Option Int) :
      InPhase pace v .header countdown
  | sample {countdown : Option Int} (may : May pace v (.called true))
      (counts : Counts pace v.headerPage v.sinceHeader countdown) : InPhase pace v .sample countdown
  | sleep {countdown : Option Int} (after : v.lastCall = some true) (unsettled : v.consumed = [])
      (unmeasured : v.measured = []) (room : v.Room pace)
      (counts : Counts pace v.headerPage (v.sinceHeader - 1) countdown) :
      InPhase pace v .sleep countdown
  | done {n : Int} (after : v.lastCall = some true) (count : pace.count = some n)
      (reached : n ≤ v.samples) (countdown : Option Int) : InPhase pace v .done countdown

/-- A sampler in the state that follows from what was seen. -/
structure Stands (pace : Pace) (v : Seen) (x : Sampler) : Prop where
  page : x.page = v.page
  remaining : x.remaining = pace.count.map fun n : Int => n - v.samples
  inPhase : InPhase pace v x.phase x.countdown

theorem leastPage_le_page (events : List Event) : leastPage ≤ (seen events).page := by
  induction events with
  | nil => exact Int.le_refl _
  | cons event earlier ih =>
    cases event with
    | measured rows => exact Int.le_max_right _ _
    | called sample => cases sample <;> exact ih
    | _ => exact ih

theorem May.settled {v : Seen} {sample : Bool} (h : May pace v (.called sample)) : v.Settled := by
  cases h with
  | opening _ settled | repeated _ settled | headed _ settled | unheaded _ settled => exact settled
  | other _ free => cases free

theorem May.room {v : Seen} (h : May pace v (.called true)) : v.Room pace := by
  cases h with
  | headed _ _ room | unheaded _ _ room => exact room
  | other _ free => cases free

theorem Stands.start : Stands pace {} (Sampler.start pace) where
  page := rfl
  remaining := by
    show pace.count = pace.count.map fun n => n - 0
    simp
  inPhase := .begin rfl rfl rfl (fun _ _ => .inl rfl) _

/-- Before the first header the flags are read. -/
theorem Stands.begun {v : Seen} {x : Sampler} (h : Stands pace v x) (phase : x.phase = .begin)
    (resumed : Bool) (rows : Option Int) :
    Stands pace (v.settle resumed rows) { settle x resumed rows with phase := .header } := by
  have inPhase := h.inPhase
  rw [phase] at inPhase
  cases inPhase with
  | begin first _ _ room =>
    have may : May pace (v.settle resumed rows) (.called false) :=
      .opening first (v.settled_settle resumed rows)
    refine ⟨?_, h.remaining, .header may room _⟩
    simp [settle, Seen.settle, h.page]

/-- After a header the countdown starts anew. -/
theorem Stands.headed {x : Sampler} (h : Stands pace (seen new) x)
    (phase : x.phase = .header) :
    Stands pace ((seen new).next (.called false))
      { x with
        phase := .sample
        countdown := if pace.repeatHeader then some x.page else none } := by
  have inPhase := h.inPhase
  rw [phase] at inPhase
  cases inPhase with
  | header may room =>
    refine ⟨h.page, h.remaining, .sample (.headed rfl may.settled room) ?_⟩
    cases repeats : pace.repeatHeader with
    | false => exact .never repeats
    | true =>
      -- The countdown starts from a page of at least twenty, so it does count something.
      have least : 20 ≤ x.page := h.page ▸ leastPage_le_page new
      have whole : ((seen new).next (.called false)).headerPage = some (x.page + 0) := by
        simp [Seen.next, h.page]
      exact .down repeats x.page (by omega) whole

/-- After a sample there is one less to print. -/
theorem Stands.sampled {v : Seen} {x : Sampler} (h : Stands pace v x) (phase : x.phase = .sample) :
    Stands pace (v.next (.called true)) x.afterSample := by
  have inPhase := h.inPhase
  have remaining := h.remaining
  rw [phase] at inPhase
  cases inPhase with
  | sample may counts =>
    -- The sample is counted at once, but the countdown goes down only after the pause.
    have counts' : Counts pace v.headerPage ((v.sinceHeader + 1 : Nat) - 1 : Int) x.countdown := by
      simpa using counts
    unfold afterSample
    cases count : pace.count with
    | none =>
      simp only [count, Option.map_none] at remaining
      rw [remaining]
      refine ⟨h.page, ?_, .sleep rfl rfl rfl (fun n limit => ?_) counts'⟩
      · simp [count]
      · exact nomatch count.symm.trans limit
    | some n =>
      simp only [count, Option.map_some] at remaining
      rw [remaining]
      have left : (pace.count.map fun n : Int => n - (v.next (.called true)).samples) =
          some (n - v.samples - 1) := by
        simp only [count, Option.map_some, Seen.next, Option.some.injEq]
        omega
      refine ⟨h.page, left.symm, ?_⟩
      dsimp only
      split
      · rename_i finished
        refine .done rfl count ?_ _
        show n ≤ ((v.samples + 1 : Nat) : Int)
        omega
      · rename_i more
        refine .sleep rfl rfl rfl (fun m limit => .inr ?_) counts'
        obtain rfl : n = m := by simpa [count] using limit
        show ((v.samples + 1 : Nat) : Int) < n
        omega

/-- A signal that was noted makes a header due. -/
theorem Seen.prompted_settle (v : Seen) (resumed : Bool) (rows : Option Int) :
    (∃ signal, (signal, true) ∈ (v.settle resumed rows).consumed) ↔
      (resumed || rows.isSome) = true := by
  cases resumed <;> cases rows <;> simp [Seen.settle]

/-- After a pause a header comes when it is due. -/
theorem Stands.rested {v : Seen} {x : Sampler} (h : Stands pace v x) (phase : x.phase = .sleep)
    (resumed : Bool) (rows : Option Int) :
    Stands pace (v.settle resumed rows) (settle x resumed rows).afterPause := by
  have inPhase := h.inPhase
  rw [phase] at inPhase
  have page : (settle x resumed rows).page = (v.settle resumed rows).page := by
    simp [settle, Seen.settle, h.page]
  have settled := v.settled_settle resumed rows
  have prompted := v.prompted_settle resumed rows
  have countdown : (settle x resumed rows).countdown =
      if resumed || rows.isSome then x.countdown.map fun _ => 1 else x.countdown := rfl
  cases inPhase with
  | sleep after _ _ room counts =>
    unfold afterPause
    generalize x.countdown = before at counts countdown
    cases counts with
    | never once =>
      have none : (settle x resumed rows).countdown = none := by
        rw [countdown, Option.map_none, ite_self]
      have undue : ¬ (pace.repeatHeader = true ∧ (v.settle resumed rows).HeaderDue) :=
        fun due => Bool.false_ne_true (once.symm.trans due.1)
      simp only [none]
      exact ⟨page, h.remaining, .sample (.unheaded after settled room undue) (.never once)⟩
    | down repeats left more all =>
      by_cases asked : (resumed || rows.isSome) = true
      · -- A signal sets the countdown to one, whatever is left of the page.
        have one : (settle x resumed rows).countdown = some 1 := by
          rw [countdown, if_pos asked, Option.map_some]
        have may : May pace (v.settle resumed rows) (.called false) :=
          .repeated after settled repeats (.inr (prompted.mpr asked))
        simp only [one]
        exact ⟨page, h.remaining, .header may room _⟩
      · have kept : (settle x resumed rows).countdown = some left := by
          rw [countdown, if_neg asked]
        simp only [kept]
        by_cases finished : left - 1 ≤ 0
        · have full : (v.settle resumed rows).headerPage =
              some ((v.settle resumed rows).sinceHeader : Int) := by
            show v.headerPage = some (v.sinceHeader : Int)
            rw [all]
            congr 1
            omega
          have may : May pace (v.settle resumed rows) (.called false) :=
            .repeated after settled repeats (.inl full)
          rw [if_pos finished]
          exact ⟨page, h.remaining, .header may room _⟩
        · have undue : ¬ (pace.repeatHeader = true ∧ (v.settle resumed rows).HeaderDue) := by
            rintro ⟨-, full | signalled⟩
            · have same : some (left + ((v.sinceHeader : Int) - 1)) = some (v.sinceHeader : Int) :=
                all.symm.trans full
              have := Option.some.inj same
              omega
            · exact asked (prompted.mp signalled)
          have rest : v.headerPage = some (left - 1 + (v.sinceHeader : Int)) := by
            rw [all]
            congr 1
            omega
          rw [if_neg finished]
          exact ⟨page, h.remaining, .sample (.unheaded after settled room undue)
            (.down repeats (left - 1) (by omega) rest)⟩

/-! ## One step -/

theorem step_begin {x : Sampler} (phase : x.phase = .begin) (state : σ) :
    step source height pace state x = (do
      let y ← x.consume height
      return (state, { y with phase := .header })) := by
  unfold step
  rw [phase]

theorem step_header {x : Sampler} (phase : x.phase = .header) (state : σ) :
    step source height pace state x = (do
      let state ← calling source false state
      return (state, { x with
        phase := .sample
        countdown := if pace.repeatHeader then some x.page else none })) := by
  unfold step
  rw [phase]
  simp [calling, Source.ask]

theorem step_sample {x : Sampler} (phase : x.phase = .sample) (state : σ) :
    step source height pace state x = (do
      let state ← calling source true state
      return (state, x.afterSample)) := by
  unfold step
  rw [phase]
  simp [calling, Source.ask]

theorem step_sleep {x : Sampler} (phase : x.phase = .sleep) (state : σ) :
    step source height pace state x = (do
      pause pace.interval
      let y ← x.consume height
      return (state, y.afterPause)) := by
  unfold step
  rw [phase]

/-- A run of the sampler that has come to the session `t` and the state `x`. -/
structure Live (source : Source σ) (height : Run Int) (pace : Pace) (w : Surroundings)
    (s : Session) (new : List Event) (t : Session) (x : Sampler) : Prop
    extends Going source height pace w s new t where
  stands : Stands pace (seen new) x
  told : Told source w s new

/-- Why a run of the sampler stops without being done. -/
inductive Cause (source : Source σ) (height : Run Int) (pace : Pace) (w : Surroundings)
    (s : Session) (new : List Event) (t' : Session) : Stop → Prop
  /-- The source has stopped it. -/
  | broken {stop : Stop} (h : Broken source w s stop new t') :
      Cause source height pace w s new t' stop
  /-- The height of the terminal could not be read. -/
  | unmeasured {stop : Stop} (t : Session) (h : height.perform w t = (.error stop, t')) :
      Cause source height pace w s new t' stop
  /-- The interval is no number of seconds. -/
  | unwaitable (failure : Failure) (h : ¬ Waitable pace.interval) :
      Cause source height pace w s new t' (.failed failure)
  /-- It was cut short, after many looks at the flag. -/
  | cut (h : w.patience ≤ looks s new) : Cause source height pace w s new t' .unfinished

/-- A part of a run that ends in the state that follows from what was seen then, or has a cause not
to. -/
def Steady (source : Source σ) (height : Run Int) (pace : Pace) (w : Surroundings) (s : Session)
    (new : List Event) (t : Session) (part : Run (σ × Sampler)) : Prop :=
  ∃ later t', new <:+ later ∧ Going source height pace w s later t' ∧
    ((∃ state x, part.perform w t = (.ok (state, x), t') ∧
        Live source height pace w s later t' x) ∨
      ∃ stop, part.perform w t = (.error stop, t') ∧ Cause source height pace w s later t' stop)

/-- Reading the flags is steady where the state they lead to follows from what was seen. -/
theorem Live.consumed {x : Sampler} (live : Live source height pace w s new t x)
    (outside : Outside height) (ready : (seen new).lastCall ≠ some false)
    (unsettled : (seen new).consumed = []) (unmeasured : (seen new).measured = []) (state : σ)
    (next : Sampler → Sampler)
    (stands : ∀ resumed rows,
      Stands pace ((seen new).settle resumed rows) (next (settle x resumed rows))) :
    Steady source height pace w s new t (do
      let y ← x.consume height
      return (state, next y)) := by
  obtain ⟨later, t', went, same, ⟨resumed, rows, seen', consumed⟩ | ⟨stop, u, failed, stopped⟩⟩ :=
    live.consume outside live.told ready unsettled unmeasured x
  · refine ⟨later, t', same.grown, went, .inl ⟨state, next (settle x resumed rows), ?_, went,
      seen' ▸ stands resumed rows, same.told live.told⟩⟩
    rw [Run.perform_bind_ok consumed]
    rfl
  · refine ⟨later, t', same.grown, went, .inr ⟨stop, ?_, .unmeasured u failed⟩⟩
    rw [Run.perform_bind_error stopped]

/-- A call is steady where it may come and the next state follows from it. -/
theorem Live.asked {x : Sampler} (live : Live source height pace w s new t x)
    (proper : source.Proper) (unaware : s.flagged new = false) {sample : Bool}
    (may : May pace (seen new) (.called sample)) (state : σ) (x' : Sampler)
    (stands : Stands pace ((seen new).next (.called sample)) x') :
    Steady source height pace w s new t (do
      let state ← calling source sample state
      return (state, x')) := by
  obtain ⟨later, t', went, grown, seen', ⟨state', called, told⟩ | ⟨stop, stopped, broken⟩⟩ :=
    live.call proper live.told unaware may state
  all_goals have grown' := (List.suffix_cons _ _).trans grown
  · refine ⟨later, t', grown', went, .inl ⟨state', x', ?_, went, seen' ▸ stands, told⟩⟩
    rw [Run.perform_bind_ok called]
    rfl
  · refine ⟨later, t', grown', went, .inr ⟨stop, ?_, .broken broken⟩⟩
    rw [Run.perform_bind_error stopped]

theorem Same.live {later : List Event} {t' : Session} {x : Sampler} (same : Same new later)
    (live : Live source height pace w s new t x) (went : Going source height pace w s later t') :
    Live source height pace w s later t' x :=
  ⟨went, by rw [same.seen]; exact live.stands, same.told live.told⟩

/-- A pause is steady where what follows it is. -/
theorem Live.paused {x : Sampler} (live : Live source height pace w s new t x)
    (after : (seen new).lastCall = some true) (unsettled : (seen new).consumed = [])
    (rest : Run (σ × Sampler))
    (steady : ∀ later t', Same new later → Live source height pace w s later t' x →
      Steady source height pace w s later t' rest) :
    Steady source height pace w s new t (do
      pause pace.interval
      rest) := by
  obtain ⟨new₁, t₁, went₁, same₁, paused | ⟨cut, count⟩ | ⟨failure, failed, unwaitable⟩⟩ :=
    live.pause ⟨after, unsettled, live.told⟩ pace.interval
  · obtain ⟨later, t', grown, went, ends⟩ := steady new₁ t₁ same₁ (same₁.live live went₁)
    refine ⟨later, t', same₁.grown.trans grown, went, ?_⟩
    rw [Run.perform_bind_ok paused]
    exact ends
  · refine ⟨new₁, t₁, same₁.grown, went₁, .inr ⟨.unfinished, ?_, .cut (by omega)⟩⟩
    rw [Run.perform_bind_error cut]
  · refine ⟨new₁, t₁, same₁.grown, went₁, .inr ⟨.failed failure, ?_, .unwaitable _ unwaitable⟩⟩
    rw [Run.perform_bind_error failed]

/-- Each step of the sampler is steady until it is done. -/
theorem Live.step {x : Sampler} (live : Live source height pace w s new t x)
    (proper : source.Proper) (outside : Outside height) (undone : x.phase ≠ .done)
    (unaware : s.flagged new = false) (state : σ) :
    Steady source height pace w s new t (step source height pace state x) := by
  have inPhase := live.stands.inPhase
  generalize phase : x.phase = now at inPhase
  cases inPhase with
  | begin first unsettled unmeasured =>
    have ready : (seen new).lastCall ≠ some false := by simp [first]
    rw [step_begin phase]
    exact live.consumed outside ready unsettled unmeasured state
      (fun y => { y with phase := .header })
      fun resumed rows => live.stands.begun phase resumed rows
  | header may =>
    rw [step_header phase]
    exact live.asked proper unaware may state _ (live.stands.headed phase)
  | sample may =>
    rw [step_sample phase]
    exact live.asked proper unaware may state _ (live.stands.sampled phase)
  | sleep after unsettled unmeasured =>
    rw [step_sleep phase]
    refine live.paused after unsettled _ fun later t' same live' => ?_
    -- A pause calls nothing and reads no flag of SIGCONT or SIGWINCH.
    have ready : (seen later).lastCall ≠ some false := by simp [same.seen, after]
    have unsettled' : (seen later).consumed = [] := by rw [same.seen, unsettled]
    have unmeasured' : (seen later).measured = [] := by rw [same.seen, unmeasured]
    exact live'.consumed outside ready unsettled' unmeasured' state afterPause
      fun resumed rows => live'.stands.rested phase resumed rows
  | done => exact absurd phase undone

/-! ## A whole run -/

/-- How a run of the sampler ends: it is done; the user wants the end while there is more to print;
what it calls has failed; or it was cut short. -/
inductive Ended (source : Source σ) (height : Run Int) (pace : Pace) (w : Surroundings)
    (s : Session) (new : List Event) (t' : Session) : Except Stop Course → Prop
  | done {visited : List Sampler} {last : Sampler} (phase : last.phase = .done)
      (stands : Stands pace (seen new) last) (told : Told source w s new) :
      Ended source height pace w s new t' (.ok ⟨visited, last, none⟩)
  | interrupted {visited : List Sampler} {last : Sampler} (phase : last.phase = .done)
      (wanted : s.flagged new = true) (room : (seen new).Room pace)
      (told : Told source w s new) :
      Ended source height pace w s new t' (.ok ⟨visited, last, some (.interrupted .signal)⟩)
  | failed {visited : List Sampler} {last : Sampler} {failure : Failure}
      (cause : Cause source height pace w s new t' (.failed failure)) :
      Ended source height pace w s new t' (.ok ⟨visited, last, some failure⟩)
  | cut (cause : Cause source height pace w s new t' .unfinished) :
      Ended source height pace w s new t' (.error .unfinished)

/-- Every state of a course has the page that was seen at some time of the run. -/
def Paged (new : List Event) (visited : List Sampler) : Prop :=
  ∀ y ∈ visited, ∃ earlier, earlier <:+ new ∧ y.page = (seen earlier).page

theorem Paged.mono {later : List Event} {visited : List Sampler} (grown : new <:+ later)
    (h : Paged new visited) : Paged later visited := by
  intro y member
  obtain ⟨earlier, part, page⟩ := h y member
  exact ⟨earlier, part.trans grown, page⟩

theorem Paged.cons {x : Sampler} {visited : List Sampler} (page : x.page = (seen new).page)
    (h : Paged new visited) : Paged new (x :: visited) := by
  intro y member
  rcases List.mem_cons.mp member with rfl | member
  · exact ⟨new, List.suffix_refl new, page⟩
  · exact h y member

theorem Stands.room {v : Seen} {x : Sampler} (h : Stands pace v x) (undone : x.phase ≠ .done) :
    v.Room pace := by
  have inPhase := h.inPhase
  generalize x.phase = now at inPhase undone
  cases inPhase with
  | begin _ _ _ room | header _ room | sleep _ _ _ room => exact room
  | sample may => exact may.room
  | done => exact absurd rfl undone

/-- The turns of a sampler keep to its law until they end, for one of the reasons there are. -/
theorem Live.drive {x : Sampler} (live : Live source height pace w s new t x)
    (proper : source.Proper) (outside : Outside height) (fuel : Nat)
    (budget : w.patience ≤ looks s new + fuel) (state : σ) (before : List Sampler)
    (paged : Paged new before) :
    ∃ later ended t', new <:+ later ∧ Going source height pace w s later t' ∧
      (Sampler.drive source height pace fuel state x before).perform w t = (ended, t') ∧
      Ended source height pace w s later t' ended ∧
      ∀ course, ended = .ok course → Paged later (course.last :: course.visited) := by
  -- Each turn looks at the flag while it is not set, so the fuel runs out only after many looks.
  induction fuel generalizing new t x state before with
  | zero =>
    have cut : Ended source height pace w s new t (.error .unfinished) := .cut (.cut (by omega))
    refine ⟨new, .error .unfinished, t, List.suffix_refl new, live.toGoing, rfl, cut, ?_⟩
    rintro course ⟨⟩
  | succ fuel ih =>
    rw [Sampler.drive]
    have visited := Paged.cons live.stands.page paged
    by_cases finished : x.phase = .done
    · rw [if_pos finished]
      refine ⟨new, _, t, List.suffix_refl new, live.toGoing, rfl,
        .done finished live.stands live.told, ?_⟩
      rintro course ⟨⟩
      exact Paged.cons live.stands.page visited
    rw [if_neg finished]
    obtain ⟨new₁, t₁, went₁, same₁, looked, counted⟩ := live.look
    have live₁ := same₁.live live went₁
    have visited₁ := visited.mono same₁.grown
    rw [Run.perform_bind_ok looked]
    cases set : s.flagged new₁ with
    | true =>
      rw [if_pos rfl]
      refine ⟨new₁, _, t₁, same₁.grown, went₁, rfl,
        .interrupted rfl set (live₁.stands.room finished) live₁.told, ?_⟩
      rintro course ⟨⟩
      exact Paged.cons live₁.stands.page visited₁
    | false =>
      rw [if_neg Bool.false_ne_true]
      obtain ⟨new₂, t₂, grown₂, went₂, ⟨state', x', stepped, live₂⟩ | ⟨stop, stopped, cause⟩⟩ :=
        live₁.step proper outside finished set state
      all_goals
        have grown := same₁.grown.trans grown₂
        have visited₂ := visited₁.mono grown₂
      · have attempted : (Run.attempt (Sampler.step source height pace state x)).perform w t₁ =
            (.ok (.ok (state', x')), t₂) := by rw [Run.perform_attempt, stepped]
        have budget' : w.patience ≤ looks s new₂ + fuel := by
          have first := counted set
          have second := looks_mono (s := s) grown₂
          omega
        obtain ⟨later, ended, t', grown', went', performs, ends, pages⟩ :=
          ih live₂ budget' state' (x :: before) visited₂
        refine ⟨later, ended, t', grown.trans grown', went', ?_, ends, pages⟩
        rw [Run.perform_bind_ok attempted]
        exact performs
      · cases stop with
        | failed failure =>
          have attempted : (Run.attempt (Sampler.step source height pace state x)).perform w t₁ =
              (.ok (.error failure), t₂) := by rw [Run.perform_attempt, stopped]
          rw [Run.perform_bind_ok attempted]
          refine ⟨new₂, _, t₂, grown, went₂, rfl, .failed cause, ?_⟩
          rintro course ⟨⟩
          -- The state is the one before the step that failed.
          have last : Paged new₁ [x] := Paged.cons live₁.stands.page (by simp [Paged])
          intro y member
          rcases List.mem_cons.mp member with rfl | member
          · exact last.mono grown₂ y List.mem_cons_self
          · exact visited₂ y member
        | unfinished =>
          have attempted : (Run.attempt (Sampler.step source height pace state x)).perform w t₁ =
              (.error .unfinished, t₂) := by rw [Run.perform_attempt, stopped]
          rw [Run.perform_bind_error attempted]
          refine ⟨new₂, _, t₂, grown, went₂, rfl, .cut cause, ?_⟩
          rintro course ⟨⟩

/-- A run of the sampler from its start. -/
theorem course_ended (source : Source σ) (height : Run Int) (pace : Pace) (proper : source.Proper)
    (outside : Outside height) (w : Surroundings) (s : Session) (state : σ) :
    ∃ new ended t', Going source height pace w s new t' ∧
      (course source height pace state).perform w s = (ended, t') ∧
      Ended source height pace w s new t' ended ∧
      ∀ course, ended = .ok course → Paged new (course.last :: course.visited) := by
  have untold : Told source w s [] := by
    rintro sample earlier ⟨⟩
  have live : Live source height pace w s [] s (Sampler.start pace) :=
    ⟨⟨.rest, trivial⟩, .start, untold⟩
  have budget : w.patience ≤ looks s [] + w.patience := by
    simp [looks]
  obtain ⟨new, ended, t', -, went, performs, ends, pages⟩ :=
    live.drive proper outside w.patience budget state [] (by simp [Paged])
  refine ⟨new, ended, t', went, ?_, ends, pages⟩
  rw [course, Run.perform_bind_ok Run.perform_read]
  exact performs

/-- What a run of this course returns. -/
def Sampler.Course.outcome (course : Course) : Except Stop Unit :=
  match course.ending with
  | none => .ok ()
  | some failure => .error (.failed failure)

/-- What a run returns follows from its course. -/
theorem perform_run {ended : Except Stop Course} {t' : Session} {state : σ}
    (performs : (course source height pace state).perform w s = (ended, t')) :
    (Sampler.run source height pace state).perform w s = (ended.bind Course.outcome, t') := by
  rw [Sampler.run, Run.perform_bind, performs]
  rcases ended with stop | ⟨visited, last, ending⟩
  · rfl
  · cases ending <;> rfl

end PgVitals.Monitor
