import PgVitals.Proofs.Monitor.Sources
import PgVitals.Proofs.Monitor.Turns
/-!
# The headers between the samples

The first sample has one header above it. Between two samples stands a header exactly when a page of
samples was printed below the last one, or a signal asked for one when the flags were read at the
end of the pause between them; and never more than one.

* `callsOf`, `flagsOf` and `heightsOf` read the headers and samples, the flags and the heights off
  some events.
* `Since` is what is seen after the last sample, or after the start, and `Orderly.since` says that
  the law of the sampler leaves no other possibilities: at most one header is asked for, and only
  when it is due.
* `Orderly.above_first` and `Orderly.between_samples` are the two places where a header can stand.
* `Counted` bounds the numbers of headers and samples, and `Scheduled` is the whole schedule.
  `Going.scheduled` gets it from the law alone.

The schedule is proved of the events, and the sampler does not occur in the proof; what the sampler
holds is only needed for its page, which is that of the last height that was read. A height below
the least page counts as the least page.
-/

namespace PgVitals.Monitor

open Sampler

/-- The headers (`false`) and samples (`true`) that were asked for in some events, newest first. -/
def callsOf (events : List Event) : List Bool := events.filterMap Event.call?

/-- The flags that were read in some events, newest first. -/
def flagsOf (events : List Event) : List (Signal × Bool) := events.filterMap Event.flag?

/-- The heights of the terminal that were read in some events, newest first. -/
def heightsOf (events : List Event) : List Int := events.filterMap Event.rows?

/-- Each of some events was in its turn. -/
abbrev Orderly (pace : Pace) (events : List Event) : Prop :=
  Lawful (fun event earlier => May pace (seen earlier) event) events

/-! ## Between two samples -/

/-- Only a sample makes the sampler forget what it has read. -/
theorem readings_since (base : List Event) {between : List Event}
    (none : .called true ∉ between) :
    (seen (between ++ base)).consumed = flagsOf between ++ (seen base).consumed ∧
      (seen (between ++ base)).measured = heightsOf between ++ (seen base).measured := by
  induction between with
  | nil => exact ⟨rfl, rfl⟩
  | cons event between ih =>
    obtain ⟨consumed, measured⟩ := ih fun member => none (List.mem_cons_of_mem _ member)
    cases event with
    | called sample =>
      cases sample with
      | false => exact ⟨consumed, measured⟩
      | true => exact absurd List.mem_cons_self none
    | consumed signal pending => exact ⟨congrArg _ consumed, measured⟩
    | measured rows => exact ⟨consumed, congrArg _ measured⟩
    | _ => exact ⟨consumed, measured⟩

theorem consumed_since {base between : List Event} (none : .called true ∉ between)
    (unsettled : (seen base).consumed = []) :
    (seen (between ++ base)).consumed = flagsOf between := by
  rw [(readings_since base none).1, unsettled, List.append_nil]

/-- Before a sample the flags were read once, and the terminal was measured if its size had
changed. -/
theorem Seen.Settled.since {base between : List Event} (none : .called true ∉ between)
    (unsettled : (seen base).consumed = []) (unmeasured : (seen base).measured = [])
    (settled : (seen (between ++ base)).Settled) :
    ∃ resumed resized, flagsOf between = [(.resume, resumed), (.resize, resized)] ∧
      (heightsOf between).length = if resized then 1 else 0 := by
  obtain ⟨resumed, resized, flags, heights⟩ := settled
  rw [(readings_since base none).1, unsettled, List.append_nil] at flags
  rw [(readings_since base none).2, unmeasured, List.append_nil] at heights
  exact ⟨resumed, resized, flags, heights⟩

/-- What is seen after the last sample, or after the start, and some events without a sample. -/
inductive Since (pace : Pace) (v : Seen) (between : List Event) (u : Seen) : Prop
  | plain (calls : callsOf between = []) (last : u.lastCall = v.lastCall)
      (samples : u.sinceHeader = v.sinceHeader) (page : u.headerPage = v.headerPage)
  | headed (calls : callsOf between = [false]) (last : u.lastCall = some false)
      (due : v.lastCall = none ∨ pace.repeatHeader = true ∧
        (v.headerPage = some (v.sinceHeader : Int) ∨
          ∃ signal, (signal, true) ∈ flagsOf between))

/-- An event that is no call. -/
theorem Since.cons {pace : Pace} {v u u' : Seen} {between : List Event} {event : Event}
    (h : Since pace v between u) (quiet : event.call? = none) (last : u'.lastCall = u.lastCall)
    (samples : u'.sinceHeader = u.sinceHeader) (page : u'.headerPage = u.headerPage) :
    Since pace v (event :: between) u' := by
  have calls : callsOf (event :: between) = callsOf between := List.filterMap_cons_none quiet
  cases h with
  | plain none last' samples' page' =>
    exact .plain (calls.trans none) (last.trans last') (samples.trans samples') (page.trans page')
  | headed one last' due =>
    refine .headed (calls.trans one) (last.trans last') (due.imp id fun ⟨repeats, asked⟩ =>
      ⟨repeats, asked.imp id fun ⟨signal, member⟩ => ⟨signal, ?_⟩⟩)
    rw [flagsOf, List.filterMap_cons]
    split
    · exact member
    · exact List.mem_cons_of_mem _ member

/-- At most one header is asked for, and only when it is due. -/
theorem Orderly.since {pace : Pace} (base : List Event) {between : List Event}
    (orderly : Orderly pace (between ++ base)) (unsettled : (seen base).consumed = [])
    (none : .called true ∉ between) :
    Since pace (seen base) between (seen (between ++ base)) := by
  -- Of the events between, only a header changes what is known, and there is no second one.
  induction between with
  | nil => exact .plain rfl rfl rfl rfl
  | cons event between ih =>
    have noneBefore : .called true ∉ between := fun member => none (List.mem_cons_of_mem _ member)
    have before := ih orderly.2 noneBefore
    cases event with
    | called sample =>
      cases sample with
      | true => exact absurd List.mem_cons_self none
      | false =>
        have consumed := consumed_since noneBefore unsettled
        have may : May pace (seen (between ++ base)) (.called false) := orderly.1
        have flags : flagsOf (.called false :: between) = flagsOf between := rfl
        cases before with
        | headed _ last =>
          -- A header never follows a header.
          cases may with
          | opening first => exact nomatch last.symm.trans first
          | repeated after => exact nomatch last.symm.trans after
          | other _ free => cases free
        | plain calls last samples page =>
          have one : callsOf (.called false :: between) = [false] := congrArg (false :: ·) calls
          cases may with
          | opening first => exact .headed one rfl (.inl (last.symm.trans first))
          | repeated _ _ repeats due =>
            refine .headed one rfl (.inr ⟨repeats, due.imp (fun full => ?_) fun asked => ?_⟩)
            · rw [← page, ← samples]
              exact full
            · rw [flags, ← consumed]
              exact asked
          | other _ free => cases free
    | _ => exact before.cons rfl rfl rfl rfl

/-! ## Numbers of headers and samples -/

/-- How many headers and samples there can be. -/
structure Counted (pace : Pace) (v : Seen) : Prop where
  fresh : v.lastCall = none → v.headers = 0 ∧ v.samples = 0
  headed : v.lastCall = some false → 1 ≤ v.headers ∧ v.headers ≤ v.samples + 1
  sampled : v.lastCall = some true → 1 ≤ v.headers ∧ v.headers ≤ v.samples
  once : pace.repeatHeader = false → v.headers ≤ 1
  limit : ∀ n, pace.count = some n → v.samples ≤ 1 ∨ (v.samples : Int) ≤ n

/-- One more event in its turn. -/
theorem Counted.next {pace : Pace} {v : Seen} {event : Event} (h : Counted pace v)
    (may : May pace v event) : Counted pace (v.next event) := by
  cases may with
  | opening first =>
    obtain ⟨headers, samples⟩ := h.fresh first
    refine ⟨by simp [Seen.next], fun _ => ?_, by simp [Seen.next], fun _ => ?_, h.limit⟩ <;>
      simp [Seen.next, headers, samples]
  | repeated after _ repeats =>
    have bounds := h.sampled after
    refine ⟨by simp [Seen.next], fun _ => ?_, by simp [Seen.next], fun once => ?_, h.limit⟩
    · simp only [Seen.next]
      omega
    · exact absurd (once.symm.trans repeats) Bool.false_ne_true
  | headed after _ room =>
    have bounds := h.headed after
    refine ⟨by simp [Seen.next], by simp [Seen.next], fun _ => ?_, h.once, fun n limit => ?_⟩
    · simp only [Seen.next]
      omega
    · have left := room n limit
      simp only [Seen.next]
      omega
  | unheaded after _ room =>
    have bounds := h.sampled after
    refine ⟨by simp [Seen.next], by simp [Seen.next], fun _ => ?_, h.once, fun n limit => ?_⟩
    · simp only [Seen.next]
      omega
    · have left := room n limit
      simp only [Seen.next]
      omega
  | paused | resized | measured | resumed => exact ⟨h.fresh, h.headed, h.sampled, h.once, h.limit⟩
  | other event free =>
    have same : v.next event = v := by
      cases event <;> first | rfl | cases free
    rw [same]
    exact h

theorem Orderly.counted {pace : Pace} {events : List Event} (orderly : Orderly pace events) :
    Counted pace (seen events) := by
  induction events with
  | nil => exact ⟨fun _ => ⟨rfl, rfl⟩, nofun, nofun, fun _ => Nat.zero_le 1,
      fun _ _ => .inl (Nat.zero_le 1)⟩
  | cons event earlier ih => exact (ih orderly.2).next orderly.1

/-- Once a header was asked for, it is the last call until a sample is asked for. -/
theorem lastCall_headed (earlier : List Event) {between : List Event}
    (none : .called true ∉ between) :
    (seen (between ++ .called false :: earlier)).lastCall = some false := by
  induction between with
  | nil => rfl
  | cons event between ih =>
    have before := ih fun member => none (List.mem_cons_of_mem _ member)
    cases event with
    | called sample =>
      cases sample with
      | false => rfl
      | true => exact absurd List.mem_cons_self none
    | _ => exact before

/-! ## The schedule -/

/-- The order of headers and samples in a run of the sampler that starts from the session `s`. -/
structure Scheduled {σ : Type} (source : Source σ) (height : Run Int) (pace : Pace)
    (w : Surroundings) (s : Session) (new : List Event) : Prop where
  /-- The first sample has exactly one header above it, and the flags were read before. -/
  first : ∀ later earlier, new = later ++ .called true :: earlier → .called true ∉ earlier →
    callsOf earlier = [false] ∧
      ∃ resumed resized, flagsOf earlier = [(.resume, resumed), (.resize, resized)] ∧
        (heightsOf earlier).length = if resized then 1 else 0
  /-- Between two samples the flags are read once, and there is one header exactly if a page of
  samples was printed below the last header, or a flag was set. -/
  between : ∀ later between earlier,
    new = later ++ .called true :: (between ++ .called true :: earlier) →
    .called true ∉ between →
    ∃ resumed resized, flagsOf between = [(.resume, resumed), (.resize, resized)] ∧
      ((heightsOf between).length = if resized then 1 else 0) ∧
      callsOf between =
        if pace.repeatHeader ∧
          ((seen (.called true :: earlier)).headerPage =
              some ((seen (.called true :: earlier)).sinceHeader : Int) ∨
            resumed = true ∨ resized = true)
        then [false] else []
  /-- No two headers are adjacent. -/
  apart : ∀ later between earlier,
    new = later ++ .called false :: (between ++ .called false :: earlier) → .called true ∈ between
  /-- Where headers are not repeated there is one in all, above the samples. -/
  once : pace.repeatHeader = false →
    (seen new).headers ≤ 1 ∧ (0 < (seen new).samples → (seen new).headers = 1)
  /-- A pause is over before the flags are read. -/
  pauses : ∀ later seconds earlier, new = later ++ .slept seconds :: earlier →
    (seen earlier).lastCall = some true ∧ (seen earlier).consumed = []
  /-- The flags are read as the signals have set them. -/
  heeds : ∀ later signal pending earlier, new = later ++ .consumed signal pending :: earlier →
    pending = (s.handlers.flagsAfter s.flags earlier).has signal
  /-- The terminal is measured when it was noted that its size has changed, and only then. -/
  measures : ∀ later rows earlier, new = later ++ .measured rows :: earlier →
    (seen earlier).consumed = [(.resize, true)] ∧ ∃ t t', height.perform w t = (.ok rows, t')
  /-- What the source returns is printed before anything else is done. -/
  prints : ∀ later event earlier, new = later ++ event :: earlier → event.isMove = true →
    Told source w s earlier

section

variable {σ : Type} {source : Source σ} {height : Run Int} {pace : Pace} {w : Surroundings}
  {s t : Session} {new later between earlier : List Event}

theorem Going.orderly (g : Going source height pace w s new t) : Orderly pace new := by
  have lawful := g.lawful
  clear g
  induction new with
  | nil => trivial
  | cons event earlier ih => exact ⟨lawful.1.inTurn, ih lawful.2⟩

/-- Whether a signal was noted when both flags were read. -/
theorem exists_noted {resumed resized : Bool} :
    (∃ signal, (signal, true) ∈ [(Signal.resume, resumed), (Signal.resize, resized)]) ↔
      resumed = true ∨ resized = true := by
  cases resumed <;> cases resized <;> simp

/-- What is above the first sample. -/
theorem Orderly.above_first (orderly : Orderly pace (.called true :: earlier))
    (none : .called true ∉ earlier) :
    callsOf earlier = [false] ∧
      ∃ resumed resized, flagsOf earlier = [(.resume, resumed), (.resize, resized)] ∧
        (heightsOf earlier).length = if resized then 1 else 0 := by
  have may : May pace (seen earlier) (.called true) := orderly.1
  have settled : (seen (earlier ++ [])).Settled := by
    simpa using may.settled
  have since : Since pace (seen []) earlier (seen earlier) := by
    simpa using Orderly.since [] (by simpa using orderly.2) rfl none
  constructor
  · cases since with
    | headed calls => exact calls
    | plain _ last =>
      cases may with
      | headed after | unheaded after => exact nomatch after.symm.trans last
      | other _ free => cases free
  · exact settled.since none rfl rfl

/-- What is between two samples. -/
theorem Orderly.between_samples
    (orderly : Orderly pace (.called true :: (between ++ .called true :: earlier)))
    (none : .called true ∉ between) :
    ∃ resumed resized, flagsOf between = [(.resume, resumed), (.resize, resized)] ∧
      ((heightsOf between).length = if resized then 1 else 0) ∧
      callsOf between =
        if pace.repeatHeader ∧
          ((seen (.called true :: earlier)).headerPage =
              some ((seen (.called true :: earlier)).sinceHeader : Int) ∨
            resumed = true ∨ resized = true)
        then [false] else [] := by
  have may : May pace (seen (between ++ .called true :: earlier)) (.called true) := orderly.1
  have since := Orderly.since (.called true :: earlier) orderly.2 rfl none
  have consumed := @consumed_since (.called true :: earlier) between none rfl
  obtain ⟨resumed, resized, flags, heights⟩ := may.settled.since none rfl rfl
  refine ⟨resumed, resized, flags, heights, ?_⟩
  cases since with
  | plain calls last samples page =>
    cases may with
    | headed after => exact nomatch after.symm.trans last
    | other _ free => cases free
    | unheaded _ _ _ undue =>
      rw [calls, if_neg]
      rintro ⟨repeats, full | noted⟩
      · exact undue ⟨repeats, .inl (by rw [page, samples]; exact full)⟩
      · exact undue ⟨repeats, .inr (by rw [consumed, flags]; exact exists_noted.mpr noted)⟩
  | headed calls _ due =>
    rcases due with first | ⟨repeats, due⟩
    · cases first
    · rw [flags] at due
      rw [calls, if_pos ⟨repeats, due.imp id exists_noted.mp⟩]

/-- The law of the sampler is its schedule. -/
theorem Going.scheduled (g : Going source height pace w s new t) :
    Scheduled source height pace w s new where
  first := by
    rintro later earlier rfl none
    exact Orderly.above_first g.orderly.of_append none
  between := by
    rintro later between earlier rfl none
    exact Orderly.between_samples g.orderly.of_append none
  apart := by
    rintro later between earlier rfl
    apply Classical.byContradiction
    intro none
    have may : May pace (seen (between ++ .called false :: earlier)) (.called false) :=
      g.orderly.holds
    have last := lastCall_headed earlier none
    cases may with
    | opening after | repeated after => exact nomatch last.symm.trans after
    | other _ free => cases free
  once := by
    intro once
    have counted := g.orderly.counted
    have most := counted.once once
    refine ⟨most, fun some => ?_⟩
    have least : 1 ≤ (seen new).headers := by
      rcases last : (seen new).lastCall with _ | sample
      · have none := (counted.fresh last).2
        omega
      · cases sample with
        | false => exact (counted.headed last).1
        | true => exact (counted.sampled last).1
    omega
  pauses := by
    rintro later seconds earlier rfl
    have may : May pace (seen earlier) (.slept seconds) := g.orderly.holds
    cases may with
    | paused after unsettled => exact ⟨after, unsettled⟩
    | other _ free => cases free
  heeds := by
    rintro later signal pending earlier rfl
    exact g.lawful.holds.heeds signal pending rfl
  measures := by
    rintro later rows earlier rfl
    have may : May pace (seen earlier) (.measured rows) := g.orderly.holds
    refine ⟨?_, g.lawful.holds.measures rows rfl⟩
    cases may with
    | measured asked => exact asked
    | other _ free => cases free
  prints := by
    rintro later event earlier rfl move
    exact g.lawful.holds.told move

/-- A run of the sampler keeps to the schedule, on every source and every terminal, whatever signals
arrive and however the run ends. The page that the sampler holds is always that of the last height
that was read. A run that returns has printed all that it was given to print, and not nothing. -/
theorem sampling_scheduled (source : Source σ) (height : Run Int) (pace : Pace) (w : Surroundings)
    (s : Session) (state : σ) (proper : source.Proper) (outside : Outside height) :
    ∃ new, ((Sampler.run source height pace state).perform w s).2.past = new ++ s.past ∧
      Scheduled source height pace w s new ∧
      (∀ course, ((Sampler.course source height pace state).perform w s).1 = .ok course →
        Paged new (course.last :: course.visited)) ∧
      (((Sampler.run source height pace state).perform w s).1 = .ok () →
        0 < (seen new).samples ∧ Told source w s new) := by
  obtain ⟨new, ended, t, going, performs, ends, pages⟩ :=
    course_ended source height pace proper outside w s state
  rw [perform_run performs]
  refine ⟨new, going.follows.past, going.scheduled, fun course is => pages course ?_, ?_⟩
  · rw [← is, performs]
  · intro returned
    cases ends with
    | done phase stands told =>
      have inPhase := stands.inPhase
      rw [phase] at inPhase
      cases inPhase with
      | done after =>
        have bounds := going.orderly.counted.sampled after
        exact ⟨by omega, told⟩
    | interrupted | failed | cut => cases returned

end

/-- A server that counts seven transactions, and the program is resumed while the second sample is
under way. -/
def resumedMeanwhile : Surroundings where
  reply past _ :=
    { signals := if (callsOf past).length = 3 then [.resume] else []
      outcome := .result ⟨["total_xact_count"], [[.int 7]]⟩ }

/-- Three samples, one right after the other, with headers that repeat. -/
def threeSamples : Pace := ⟨.int 0, some 3, true⟩

/-- The events of three samples of the connection pooler, where the program is resumed meanwhile. -/
def resumedPast : List Event :=
  ((Sampler.run Collector.source terminalHeight threeSamples
    { Collector.poolerTraffic with humanReadable := false }).perform resumedMeanwhile {}).2.past

theorem sampling_scheduled_resumedMeanwhile :
    Collector.source.Proper ∧ Outside terminalHeight ∧
      Scheduled Collector.source terminalHeight threeSamples resumedMeanwhile {} resumedPast ∧
      callsOf resumedPast = [true, false, true, true, false] := by
  refine ⟨Collector.source_proper, outside_terminalHeight, ?_, by decide +kernel⟩
  obtain ⟨new, past, scheduled, -⟩ := sampling_scheduled Collector.source terminalHeight
    threeSamples resumedMeanwhile {} { Collector.poolerTraffic with humanReadable := false }
    Collector.source_proper outside_terminalHeight
  have whole : resumedPast = new := by
    unfold resumedPast
    rw [past]
    exact List.append_nil new
  rw [whole]
  exact scheduled

end PgVitals.Monitor
