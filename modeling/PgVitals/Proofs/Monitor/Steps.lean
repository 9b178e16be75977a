import PgVitals.Proofs.Monitor.Observed
/-!
# The steps of a sampler

Each part of a step keeps to the law of the sampler, however it ends. Where it does not end with a
value, something that the sampler calls has failed or was cut short.

* `Going.consume` is the part that acts on the flags: that of the terminal is read first, the
  terminal is measured if its size has changed, and then that of a resumed program is read.
  `Seen.settle` is what is seen afterwards.
* `Going.pause` is the pause, cut into slices, with a look at the flag before each. `Pauses` says
  how it can end, and `Going.pauseSlices` is the induction over the slices.
* `Going.call` asks the source, and prints what it returns.

A pause ends at the latest when the patience of the surroundings is used up, which stands for a user
who does not wait for ever; the run is cut short then, and is no failure. An interval that is no
number of seconds fails at its first comparison, and `Waitable` tells those that are one.
-/

namespace PgVitals.Monitor

open Sampler

variable {σ : Type} {source : Source σ} {height : Run Int} {pace : Pace} {w : Surroundings}
  {s t : Session} {new : List Event}

/-- Whether what a sampler calls has stopped it, and the run `r` with it. -/
def Stopped {α β : Type} (callee : Run α) (w : Surroundings) (r : Run β) (t t' : Session) : Prop :=
  ∃ stop u, callee.perform w u = (.error stop, t') ∧ r.perform w t = (.error stop, t')

/-! ## Signals -/

/-- The flag of a signal is read. -/
theorem Going.take (g : Going source height pace w s new t) (signal : Signal)
    (told : Told source w s new)
    (may : ∀ pending, May pace (seen new) (.consumed signal pending)) :
    ∃ pending later t', Going source height pace w s later t' ∧
      Same (.consumed signal pending :: new) later ∧
      (Sampler.take signal).perform w t = (.ok pending, t') := by
  -- The flag is read and cleared in one go; only then can signals arrive again.
  let pending := t.flags.has signal
  have heeds : pending = (s.handlers.flagsAfter s.flags new).has signal := by
    rw [← g.follows.flags]
  have right : Rightly source height pace w s (.consumed signal pending) new := by
    refine ⟨nofun, ?_, nofun, fun _ => told, may _⟩
    rintro signal' pending' ⟨⟩
    exact heeds
  have first : Follows t [.consumed signal pending]
      { t with flags := t.flags.without signal, past := .consumed signal pending :: t.past } :=
    ⟨rfl, rfl, rfl⟩
  obtain ⟨later, went, same⟩ := g.happen first right
    (w.arrivals (.consumed signal pending :: t.past))
  exact ⟨pending, later, _, went, same, rfl⟩

/-- The terminal is measured, and a header asked for. -/
theorem Going.remeasure (g : Going source height pace w s new t) (outside : Outside height)
    (told : Told source w s new) (asked : (seen new).consumed = [(.resize, true)])
    (unmeasured : (seen new).measured = []) (x : Sampler) :
    ∃ later t', Going source height pace w s later t' ∧ SameCall new later ∧
      ((∃ rows, seen later = { seen new with page := pageOf rows, measured := [rows] } ∧
          (x.remeasure height).perform w t = (.ok { x with page := pageOf rows }.hurry, t')) ∨
        Stopped height w (x.remeasure height) t t') := by
  obtain ⟨during, follows, calm⟩ := outside.follows w t
  have went := g.outside follows calm
  have same : Same new (during ++ new) := .outside calm
  rcases measured : height.perform w t with ⟨stop | rows, t₁⟩ <;> rw [measured] at went
  · exact ⟨_, t₁, went, same.toSameCall, .inr ⟨stop, t, measured,
      Run.perform_bind_error measured⟩⟩
  · have right : Rightly source height pace w s (.measured rows) (during ++ new) := by
      refine ⟨nofun, nofun, ?_, fun _ => same.told told, ?_⟩
      · rintro rows' ⟨⟩
        exact ⟨t, t₁, measured⟩
      · rw [same.seen]
        exact .measured asked unmeasured rows
    obtain ⟨noted, went₁, same₁⟩ := went.note (.measured rows) (fun _ => rfl) right
    obtain ⟨logged, went₂, same₂⟩ := went₁.note
      (.logged .debug
        ("terminal resized, " ++ Number.intText (pageOf rows) ++ " lines between headers"))
      (fun _ => rfl) (.of_outside rfl _)
    have quiet : Same (.measured rows :: (during ++ new)) logged :=
      same₁.trans ((Same.logged _ _).trans same₂)
    refine ⟨logged, _, went₂, (same.toSameCall.trans (.measured rows)).trans quiet.toSameCall,
      .inl ⟨rows, ?_, ?_⟩⟩
    · rw [quiet.seen, seen, same.seen]
      simp [Seen.next, unmeasured]
    · rw [Sampler.remeasure, Run.perform_bind_ok measured,
        Run.perform_bind_ok (Run.perform_note _), Run.perform_bind_ok (Run.perform_log _ _)]
      rfl

/-- What is seen once both flags were read, and the terminal measured if it had changed. -/
def Seen.settle (v : Seen) (resumed : Bool) (rows : Option Int) : Seen :=
  { v with
    consumed := [(.resume, resumed), (.resize, rows.isSome)]
    measured := rows.toList
    page := (rows.map pageOf).getD v.page }

/-- The sampler once it has acted on the flags. -/
def settle (x : Sampler) (resumed : Bool) (rows : Option Int) : Sampler :=
  { x with
    page := (rows.map pageOf).getD x.page
    countdown := if resumed || rows.isSome then x.countdown.map fun _ => 1 else x.countdown }

theorem Seen.settled_settle (v : Seen) (resumed : Bool) (rows : Option Int) :
    (v.settle resumed rows).Settled := by
  refine ⟨resumed, rows.isSome, rfl, ?_⟩
  cases rows <;> rfl

theorem consume_eq (x : Sampler) :
    x.consume height = (do
      let resized ← Sampler.take .resize
      let y ← if resized then x.remeasure height else pure x
      let resumed ← Sampler.take .resume
      return if resumed then y.hurry else y) := by
  unfold consume
  refine congrArg _ (funext fun resized => ?_)
  cases resized <;> simp

/-- The sampler acts on the flags. -/
theorem Going.consume (g : Going source height pace w s new t) (outside : Outside height)
    (told : Told source w s new) (ready : (seen new).lastCall ≠ some false)
    (unsettled : (seen new).consumed = []) (unmeasured : (seen new).measured = [])
    (x : Sampler) :
    ∃ later t', Going source height pace w s later t' ∧ SameCall new later ∧
      ((∃ resumed rows, seen later = (seen new).settle resumed rows ∧
          (x.consume height).perform w t = (.ok (settle x resumed rows), t')) ∨
        Stopped height w (x.consume height) t t') := by
  obtain ⟨resized, new₁, t₁, went₁, same₁, took₁⟩ :=
    g.take .resize told fun pending => .resized ready unsettled unmeasured pending
  have call₁ : SameCall new new₁ := (SameCall.consumed _ _).trans same₁.toSameCall
  have seen₁ : seen new₁ = { seen new with consumed := [(.resize, resized)] } := by
    rw [same₁.seen, seen]
    simp [Seen.next, unsettled]
  rw [consume_eq, Run.perform_bind_ok took₁]
  cases resized with
  | false =>
    -- Nothing is measured between the two flags.
    have may : ∀ pending, May pace (seen new₁) (.consumed .resume pending) := by
      intro pending
      rw [seen₁]
      exact .resumed false rfl (by simp [unmeasured]) pending
    obtain ⟨resumed, new₂, t₂, went₂, same₂, took₂⟩ := went₁.take .resume (call₁.told told) may
    refine ⟨new₂, t₂, went₂, (call₁.trans (.consumed _ _)).trans same₂.toSameCall,
      .inl ⟨resumed, none, ?_, ?_⟩⟩
    · rw [same₂.seen, seen, seen₁]
      simp [Seen.next, Seen.settle, unmeasured]
    · rw [if_neg Bool.false_ne_true, pure_bind, Run.perform_bind_ok took₂]
      cases resumed <;> rfl
  | true =>
    obtain ⟨new₂, t₂, went₂, same₂, ⟨rows, seen₂, measured⟩ | ⟨stop, u, failed, stopped⟩⟩ :=
      went₁.remeasure outside (call₁.told told) (by rw [seen₁]) (by rw [seen₁]; exact unmeasured) x
    · -- What was measured is among the events when the flag of SIGCONT is read.
      have call₂ : SameCall new new₂ := call₁.trans same₂
      have may : ∀ pending, May pace (seen new₂) (.consumed .resume pending) := by
        intro pending
        rw [seen₂, seen₁]
        exact .resumed true rfl rfl pending
      obtain ⟨resumed, new₃, t₃, went₃, same₃, took₃⟩ := went₂.take .resume (call₂.told told) may
      refine ⟨new₃, t₃, went₃, (call₂.trans (.consumed _ _)).trans same₃.toSameCall,
        .inl ⟨resumed, some rows, ?_, ?_⟩⟩
      · rw [same₃.seen, seen, seen₂, seen₁]
        rfl
      · rw [if_pos rfl, Run.perform_bind_ok measured, Run.perform_bind_ok took₃]
        cases resumed <;> simp [settle, hurry, Function.comp_def]
    · refine ⟨new₂, t₂, went₂, call₁.trans same₂, .inr ⟨stop, u, failed, ?_⟩⟩
      rw [Run.perform_bind_ok took₁, if_pos rfl, Run.perform_bind_error stopped]

/-! ## Pauses -/

/-- A sampler that may pause: the last sample is printed, and the flags are not read yet. -/
structure Resting (source : Source σ) (w : Surroundings) (s : Session) (new : List Event) :
    Prop where
  after : (seen new).lastCall = some true
  unsettled : (seen new).consumed = []
  told : Told source w s new

theorem Same.resting {later : List Event} (h : Same new later) (resting : Resting source w s new) :
    Resting source w s later :=
  ⟨by rw [h.seen]; exact resting.after, by rw [h.seen]; exact resting.unsettled,
    h.told resting.told⟩

/-- The sampler looks at the flag. -/
theorem Going.look (g : Going source height pace w s new t) :
    ∃ later t', Going source height pace w s later t' ∧ Same new later ∧
      Run.shutdownWanted.perform w t = (.ok (s.flagged later), t') ∧
      (s.flagged later = false → looks s new + 1 ≤ looks s later) := by
  have right : Rightly source height pace w s .looked new :=
    ⟨nofun, nofun, nofun, nofun, .other _ rfl⟩
  obtain ⟨later, went, same⟩ := g.note .looked (fun _ => rfl) right
  refine ⟨later, _, went, Same.looked.trans same, ?_, fun unset => ?_⟩
  · rw [Run.perform_shutdownWanted, went.follows.flag]
  · -- Signals that arrive with the look come after it, so the flag was not set before either.
    have before : s.flagged new = false := by
      rw [Bool.eq_false_iff] at unset ⊢
      exact fun set => unset (flagged_mono ((List.suffix_cons _ _).trans same.grown) set)
    have more := looks_mono (s := s) same.grown
    simpa [looks, before] using more

/-- The sampler sleeps, unless the user is known to want the end. -/
theorem Going.sleep (g : Going source height pace w s new t) (resting : Resting source w s new)
    (unaware : s.flagged new = false) (seconds : Value) :
    ∃ later t', Going source height pace w s later t' ∧ Same new later ∧
      (Run.sleep seconds).perform w t = (.ok (), t') := by
  have right : Rightly source height pace w s (.slept seconds) new :=
    ⟨fun _ => unaware, nofun, nofun, fun _ => resting.told,
      .paused resting.after resting.unsettled seconds⟩
  obtain ⟨later, went, same⟩ := g.note (.slept seconds) (fun _ => rfl) right
  exact ⟨later, _, went, (Same.slept seconds).trans same, rfl⟩

/-- A number of seconds that can be compared and subtracted from. -/
def Waitable (seconds : Value) : Prop :=
  (∃ x, seconds = .float x) ∨
    (∃ positive, (Value.int 0).before seconds = .ok positive) ∧
      (∃ short, seconds.before (.float slice) = .ok short) ∧ ∃ x, afterSlice seconds = .ok x

/-- A part of a pause of some seconds that keeps to the law of the sampler: it ends, it is cut short
only after so many looks at the flag, or the seconds are no number. -/
def Pauses (source : Source σ) (height : Run Int) (pace : Pace) (w : Surroundings) (s : Session)
    (new : List Event) (t : Session) (fuel : Nat) (seconds : Value) (part : Run Unit) : Prop :=
  ∃ later t', Going source height pace w s later t' ∧ Same new later ∧
    (part.perform w t = (.ok (), t') ∨
      (part.perform w t = (.error .unfinished, t') ∧ looks s new + fuel ≤ looks s later) ∨
      ∃ failure, part.perform w t = (.error (.failed failure), t') ∧ ¬ Waitable seconds)

section

variable {fuel : Nat} {seconds : Value}

/-- Nothing is left of the pause. -/
theorem Going.over (g : Going source height pace w s new t) :
    Pauses source height pace w s new t fuel seconds (pure ()) :=
  ⟨new, t, g, .rest, .inl rfl⟩

theorem Pauses.of_perform_eq {part part' : Run Unit} (same : part.perform w t = part'.perform w t)
    (h : Pauses source height pace w s new t fuel seconds part') :
    Pauses source height pace w s new t fuel seconds part := by
  unfold Pauses
  rw [same]
  exact h

theorem Pauses.of_succ {part : Run Unit}
    (h : Pauses source height pace w s new t (fuel + 1) seconds part) :
    Pauses source height pace w s new t fuel seconds part := by
  obtain ⟨later, t', went, same, ends⟩ := h
  refine ⟨later, t', went, same, ends.imp id (.imp (fun ⟨cut, count⟩ => ⟨cut, ?_⟩) id)⟩
  omega

/-- Something is computed from the seconds, which only a number of seconds allows. -/
theorem Going.compute {α : Type} {e : Except Fault α} {rest : α → Run Unit}
    (g : Going source height pace w s new t) (ok : Waitable seconds → ∃ a, e = .ok a)
    (goes : ∀ a, Pauses source height pace w s new t fuel seconds (rest a)) :
    Pauses source height pace w s new t fuel seconds (Run.ofFault e >>= rest) := by
  cases e with
  | ok a => exact goes a
  | error fault =>
    refine ⟨new, t, g, .rest, .inr (.inr ⟨_, rfl, fun waitable => ?_⟩)⟩
    obtain ⟨a, is⟩ := ok waitable
    cases is

/-- The pause goes on only if the user is not known to want the end. -/
theorem Going.lookThen {rest : Run Unit} (g : Going source height pace w s new t)
    (goes : ∀ later t', Going source height pace w s later t' → Same new later →
      s.flagged later = false → Pauses source height pace w s later t' fuel seconds rest) :
    Pauses source height pace w s new t (fuel + 1) seconds (do
      let wanted ← Run.shutdownWanted
      if wanted then pure () else rest) := by
  obtain ⟨new₁, t₁, went₁, same₁, looked, counted⟩ := g.look
  cases set : s.flagged new₁ with
  | true =>
    refine ⟨new₁, t₁, went₁, same₁, .inl ?_⟩
    rw [Run.perform_bind_ok looked, set]
    rfl
  | false =>
    obtain ⟨later, t', went, same, ends⟩ := goes new₁ t₁ went₁ same₁ set
    refine ⟨later, t', went, same₁.trans same, ?_⟩
    rw [Run.perform_bind_ok looked, set, if_neg Bool.false_ne_true]
    refine ends.imp id (.imp (fun ⟨cut, count⟩ => ⟨cut, ?_⟩) id)
    have first := counted set
    omega

/-- The pause goes on after a slice of it. -/
theorem Going.sleepThen {rest : Run Unit} (g : Going source height pace w s new t)
    (resting : Resting source w s new) (unaware : s.flagged new = false) (slice : Value)
    (goes : ∀ later t', Going source height pace w s later t' → Same new later →
      Pauses source height pace w s later t' fuel seconds rest) :
    Pauses source height pace w s new t fuel seconds (do
      Run.sleep slice
      rest) := by
  obtain ⟨new₁, t₁, went₁, same₁, slept⟩ := g.sleep resting unaware slice
  obtain ⟨later, t', went, same, ends⟩ := goes new₁ t₁ went₁ same₁
  refine ⟨later, t', went, same₁.trans same, ?_⟩
  rw [Run.perform_bind_ok slept]
  refine ends.imp id (.imp (fun ⟨cut, count⟩ => ⟨cut, ?_⟩) id)
  have first := looks_mono (s := s) same₁.grown
  omega

theorem pauseSlices_eq (fuel : Nat) (x : Float) :
    pauseSlices (fuel + 1) x =
      if x > 0.0 then (do
        let wanted ← Run.shutdownWanted
        if wanted then pure ()
        else do
          Run.sleep (.float (if x < slice then x else slice))
          pauseSlices fuel (Number.roundPlaces 6 (x - if x < slice then x else slice)))
      else pure () := by
  rw [pauseSlices]
  split
  · refine congrArg _ (funext fun wanted => ?_)
    cases wanted <;> rfl
  · rfl

/-- Slices of a pause end when it is over or the user wants the end, and are cut short only after
as many looks at the flag. -/
theorem Going.pauseSlices (g : Going source height pace w s new t)
    (resting : Resting source w s new) (x : Float) :
    Pauses source height pace w s new t fuel seconds (Sampler.pauseSlices fuel x) := by
  -- Each slice looks at the flag once, which pays for the fuel that it takes.
  induction fuel generalizing new t x with
  | zero => exact ⟨new, t, g, .rest, .inr (.inl ⟨rfl, Nat.le_refl _⟩)⟩
  | succ fuel ih =>
    rw [pauseSlices_eq]
    split
    · refine g.lookThen fun new₁ t₁ went₁ same₁ unset => ?_
      have resting₁ := same₁.resting resting
      exact went₁.sleepThen resting₁ unset _ fun _ _ went₂ same₂ =>
        ih went₂ (same₂.resting resting₁) _
    · exact g.over

theorem perform_pause (whole : ∀ x, seconds ≠ .float x) :
    (pause seconds).perform w t = (do
      let positive ← Run.ofFault ((Value.int 0).before seconds)
      if positive then do
        let wanted ← Run.shutdownWanted
        if wanted then pure ()
        else do
          let short ← Run.ofFault (seconds.before (.float slice))
          if short then Run.sleep seconds
          else do
            Run.sleep (.float slice)
            let x ← Run.ofFault (afterSlice seconds)
            Sampler.pauseSlices w.patience x
      else pure () : Run Unit).perform w t := by
  rw [pause, Run.perform_bind_ok Run.perform_read]
  split
  · exact absurd rfl (whole _)
  · dsimp only
    congr 1
    refine congrArg _ (funext fun positive => ?_)
    cases positive
    · rfl
    · rw [if_pos rfl, if_pos rfl]
      refine congrArg _ (funext fun wanted => ?_)
      cases wanted <;> rfl

/-- A pause ends, is cut short after many looks at the flag, or was no number of seconds. -/
theorem Going.pause (g : Going source height pace w s new t) (resting : Resting source w s new)
    (seconds : Value) :
    Pauses source height pace w s new t w.patience seconds (Sampler.pause seconds) := by
  by_cases double : ∃ x, seconds = .float x
  · obtain ⟨x, rfl⟩ := double
    exact g.pauseSlices resting x
  have whole : ∀ x, seconds ≠ .float x := fun x is => double ⟨x, is⟩
  have compared : Waitable seconds → _ := (·.resolve_left double)
  refine .of_perform_eq (perform_pause whole) ?_
  refine g.compute (fun waitable => (compared waitable).1) fun positive => ?_
  split
  · refine .of_succ (g.lookThen fun new₁ t₁ went₁ same₁ unset => ?_)
    have resting₁ := same₁.resting resting
    refine went₁.compute (fun waitable => (compared waitable).2.1) fun short => ?_
    split
    · exact went₁.sleepThen resting₁ unset seconds fun _ _ went₂ _ => went₂.over
    · refine went₁.sleepThen resting₁ unset (.float slice) fun _ _ went₂ same₂ => ?_
      exact went₂.compute (fun waitable => (compared waitable).2.2) fun x =>
        went₂.pauseSlices (same₂.resting resting₁) x
  · exact g.over

end

/-! ## Calls -/

/-- Asks the source, and prints what it returns. -/
def calling (source : Source σ) (sample : Bool) (state : σ) : Run σ := do
  Run.note (.called sample)
  let (state, lines) ← source.ask sample state
  printLines lines
  return state

/-- The last call stopped the run: the source returned nothing, and nothing was done after it has
come to the session `t'`. -/
def Broken (source : Source σ) (w : Surroundings) (s : Session) (stop : Stop) (new : List Event)
    (t' : Session) : Prop :=
  ∃ (during earlier : List Event) (sample : Bool) (signals : List Signal) (state : σ)
    (t : Session),
    new = during ++ .called sample :: earlier ∧ (∀ event ∈ during, event.ofSampler = false) ∧
    t.past = (signals.map Event.arrived).reverse ++ .called sample :: (earlier ++ s.past) ∧
    (source.ask sample state).perform w t = (.error stop, t')

theorem Going.printLines (g : Going source height pace w s new t) (lines : List String) :
    ∃ later t', Going source height pace w s later t' ∧ new <:+ later ∧ seen later = seen new ∧
      fromCall later = fromCall new ∧
      printedSince later = (lines.map (· ++ "\n")).reverse ++ printedSince new ∧
      (Sampler.printLines lines).perform w t = (.ok (), t') := by
  induction lines generalizing new t with
  | nil => exact ⟨new, t, g, List.suffix_refl new, rfl, rfl, rfl, rfl⟩
  | cons line lines ih =>
    have right : Rightly source height pace w s (.printed (line ++ "\n")) new :=
      ⟨nofun, nofun, nofun, nofun, .other _ rfl⟩
    obtain ⟨new₁, went₁, same₁⟩ := g.note (.printed (line ++ "\n")) (fun _ => rfl) right
    obtain ⟨new₂, t₂, went₂, grown, seen₂, from₂, printed₂, done⟩ := ih went₁
    refine ⟨new₂, t₂, went₂, ((List.suffix_cons _ _).trans same₁.grown).trans grown, ?_, ?_, ?_,
      ?_⟩
    · rw [seen₂, same₁.seen]
      rfl
    · rw [from₂, same₁.fromCall]
      rfl
    · rw [printed₂, same₁.printed]
      simp [printedSince]
    · exact (Run.perform_bind_ok (f := fun _ => lines.forM Run.printLine)
        (Run.perform_note (w := w) (s := t) (.printed (line ++ "\n")))).trans done

/-- The source is asked, and what it returns is printed. -/
theorem Going.call (g : Going source height pace w s new t) (proper : source.Proper)
    (told : Told source w s new) (unaware : s.flagged new = false) {sample : Bool}
    (may : May pace (seen new) (.called sample)) (state : σ) :
    ∃ later t', Going source height pace w s later t' ∧ .called sample :: new <:+ later ∧
      seen later = (seen new).next (.called sample) ∧
      ((∃ state', (calling source sample state).perform w t = (.ok state', t') ∧
          Told source w s later) ∨
        ∃ stop, (calling source sample state).perform w t = (.error stop, t') ∧
          Broken source w s stop later t') := by
  have right : Rightly source height pace w s (.called sample) new :=
    ⟨fun _ => unaware, nofun, nofun, fun _ => told, may⟩
  have first : Follows t [.called sample] { t with past := .called sample :: t.past } :=
    ⟨rfl, rfl, rfl⟩
  have began : Going source height pace w s (.called sample :: new)
      { t with past := .called sample :: t.past } := ⟨g.follows.trans first, right, g.lawful⟩
  -- Signals that arrive with the call are there before the source is asked.
  let signals := w.arrivals (.called sample :: t.past)
  let t₁ := t.after w (.called sample)
  have went₁ : Going source height pace w s
      ((signals.map Event.arrived).reverse ++ .called sample :: new) t₁ :=
    began.outside (Follows.receiveAll signals) (outside_arrived signals)
  have past₁ : t₁.past =
      (signals.map Event.arrived).reverse ++ .called sample :: (new ++ s.past) := by
    simpa using went₁.follows.past
  obtain ⟨during, follows, calm⟩ := (proper.ask sample state).follows w t₁
  have went₂ := went₁.outside follows calm
  have same : Same (.called sample :: new)
      (during ++ ((signals.map Event.arrived).reverse ++ .called sample :: new)) :=
    (Same.outside (outside_arrived signals)).trans (Same.outside calm)
  rcases asked : (source.ask sample state).perform w t₁ with ⟨stop | ⟨state', lines⟩, t₂⟩ <;>
    rw [asked] at went₂
  · refine ⟨_, t₂, went₂, same.grown, same.seen, .inr ⟨stop, ?_, ?_⟩⟩
    · rw [calling, Run.perform_bind_ok (Run.perform_note _), Run.perform_bind_error asked]
    · refine ⟨during ++ (signals.map Event.arrived).reverse, new, sample, signals, state, t₁,
        by simp, fun event member => ?_, past₁, asked⟩
      exact (List.mem_append.mp member).elim (calm event) (outside_arrived signals event)
  · obtain ⟨new₃, t₃, went₃, grown, seen₃, from₃, printed₃, done⟩ := went₂.printLines lines
    refine ⟨new₃, t₃, went₃, same.grown.trans grown, by rw [seen₃, same.seen]; rfl,
      .inl ⟨state', ?_, ?_⟩⟩
    · rw [calling, Run.perform_bind_ok (Run.perform_note _), Run.perform_bind_ok asked,
        Run.perform_bind_ok done]
      rfl
    · intro sample' earlier called
      rw [from₃, same.fromCall, fromCall] at called
      obtain ⟨⟨⟩, rfl⟩ := List.cons.inj called
      refine ⟨signals, t₁, t₂, state, state', lines, past₁, asked, ?_, ?_⟩
      · obtain ⟨lines', rfl⟩ := grown
        rw [went₂.follows.past, List.append_assoc lines']
        exact List.suffix_append lines' _
      · rw [printed₃, same.printed, printedSince, List.append_nil]

end PgVitals.Monitor
