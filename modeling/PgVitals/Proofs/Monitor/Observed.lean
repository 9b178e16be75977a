import PgVitals.Monitor.Sampler
import PgVitals.Proofs.Session.Following
/-!
# A sampler as it is seen from outside

What a sampler does can be told from the events alone: when it asks for a header or a sample, when
it pauses, and when it acts on signals. From the events before follows which of these may come next,
and so the order of headers and samples is a law of the past, of which the sampler and its countdown
are no part.

* `Seen` is what is to be seen of a sampler after some events, and `seen` computes it, one event
  after the other.
* `May` lists what may come next: the first header, a header that is due, a sample below a header, a
  sample below another one, a pause, and the steps in which the flags are read. `Seen.HeaderDue`
  says when a header is due.
* `Told` says that what the source returned at the last call was printed, line by line, and nothing
  else.
* `Rightly` is the law, and `Going` a run that has kept to it so far.
* `Same` are events that change nothing of what is seen, and `Going.outside` lets the source do
  something in between.

The source is any part of the program that makes no events of a sampler, `Source.Proper`: what it
asks, and whether it fails, is left open. Texts are attributed to a call by what the source returned
there, so a source that prints on its own is excluded.
-/

namespace PgVitals

/-! ## Events of a sampler -/

namespace Event

/-- Whether an event is one that a sampler makes itself, and not what it calls. -/
def ofSampler : Event → Bool
  | looked | consumed _ _ | measured _ | called _ | printed _ | slept _ => true
  | _ => false

/-- Whether a sampler begins something that takes time. -/
def begins : Event → Bool
  | called _ | slept _ => true
  | _ => false

/-- What was asked for at an event: a header (`false`) or a sample (`true`). -/
def call? : Event → Option Bool
  | called sample => some sample
  | _ => none

/-- The flag that was read at an event. -/
def flag? : Event → Option (Signal × Bool)
  | consumed signal pending => some (signal, pending)
  | _ => none

/-- The height of the terminal at an event that measures it. -/
def rows? : Event → Option Int
  | measured rows => some rows
  | _ => none

/-- Whether the order of headers and samples depends on an event. -/
def isMove : Event → Bool
  | called _ | slept _ | consumed _ _ | measured _ => true
  | _ => false

end Event

namespace Monitor

open Sampler

/-- A part of the program that a sampler calls: it makes no events of a sampler. -/
def Outside {α : Type} (r : Run α) : Prop := r.Makes fun event => event.ofSampler = false

/-- The header or a sample of a source, and the source after it. -/
def Source.ask {σ : Type} (source : Source σ) : Bool → σ → Run (σ × List String)
  | false, state => (state, ·) <$> source.header state
  | true, state => source.sample state

/-- A source that makes no events of a sampler. -/
structure Source.Proper {σ : Type} (source : Source σ) : Prop where
  header : ∀ state, Outside (source.header state)
  sample : ∀ state, Outside (source.sample state)

theorem Source.Proper.ask {σ : Type} {source : Source σ} (proper : source.Proper) (sample : Bool)
    (state : σ) : Outside (source.ask sample state) := by
  cases sample with
  | false => exact (proper.header state).map
  | true => exact proper.sample state

/-! ## What is seen -/

/-- What is to be seen of a sampler. -/
structure Seen where
  headers : Nat := 0
  samples : Nat := 0
  /-- What was asked for last: a header (`false`), a sample (`true`), or nothing yet. -/
  lastCall : Option Bool := none
  /-- The samples since the last header. -/
  sinceHeader : Nat := 0
  /-- The number of samples that fit on the terminal, as it was measured last. -/
  page : Int := leastPage
  /-- The same at the last header. -/
  headerPage : Option Int := none
  /-- The flags that were read since the last sample, newest first. -/
  consumed : List (Signal × Bool) := []
  /-- The heights of the terminal since the last sample, newest first. -/
  measured : List Int := []

/-- What is seen after one more event. -/
def Seen.next (v : Seen) : Event → Seen
  | .called false => { v with
      headers := v.headers + 1, lastCall := some false
      sinceHeader := 0, headerPage := some v.page }
  | .called true => { v with
      samples := v.samples + 1, lastCall := some true, sinceHeader := v.sinceHeader + 1
      consumed := [], measured := [] }
  | .consumed signal pending => { v with consumed := (signal, pending) :: v.consumed }
  | .measured rows => { v with page := pageOf rows, measured := rows :: v.measured }
  | _ => v

/-- What is seen after some events, newest first. -/
def seen : List Event → Seen
  | [] => {}
  | event :: earlier => (seen earlier).next event

/-- The events up to the last call, newest first. -/
def fromCall : List Event → List Event
  | [] => []
  | .called sample :: earlier => .called sample :: earlier
  | _ :: earlier => fromCall earlier

/-- The texts printed since the last call, newest first. -/
def printedSince : List Event → List String
  | [] => []
  | .called _ :: _ => []
  | .printed text :: earlier => text :: printedSince earlier
  | _ :: earlier => printedSince earlier

/-- How many times a sampler looked at the flag before the flag was set. -/
def looks (s : Session) : List Event → Nat
  | [] => 0
  | .looked :: earlier => looks s earlier + if s.flagged earlier then 0 else 1
  | _ :: earlier => looks s earlier

/-! ## The law of a sampler -/

/-- Both flags were read since the last sample, first that of the terminal, whose height was read
exactly if it had changed. -/
def Seen.Settled (v : Seen) : Prop :=
  ∃ resumed resized, v.consumed = [(.resume, resumed), (.resize, resized)] ∧
    v.measured.length = if resized then 1 else 0

/-- A header is due: a page of samples was printed below the last one, or a signal asks for it. -/
def Seen.HeaderDue (v : Seen) : Prop :=
  v.headerPage = some (v.sinceHeader : Int) ∨ ∃ signal, (signal, true) ∈ v.consumed

/-- There are samples left to print. -/
def Seen.Room (pace : Pace) (v : Seen) : Prop :=
  ∀ n, pace.count = some n → v.samples = 0 ∨ (v.samples : Int) < n

/-- What a sampler may do after what was seen. -/
inductive May (pace : Pace) (v : Seen) : Event → Prop
  /-- The first header comes before everything else. -/
  | opening (first : v.lastCall = none) (settled : v.Settled) : May pace v (.called false)
  /-- Later headers come after a sample, when they are due. -/
  | repeated (after : v.lastCall = some true) (settled : v.Settled)
      (repeats : pace.repeatHeader = true) (due : v.HeaderDue) : May pace v (.called false)
  /-- A sample below a header. -/
  | headed (after : v.lastCall = some false) (settled : v.Settled) (room : v.Room pace) :
      May pace v (.called true)
  /-- A sample below another, while no header is due. -/
  | unheaded (after : v.lastCall = some true) (settled : v.Settled) (room : v.Room pace)
      (undue : ¬ (pace.repeatHeader = true ∧ v.HeaderDue)) : May pace v (.called true)
  /-- Pauses come after a sample, and before the flags are read. -/
  | paused (after : v.lastCall = some true) (unsettled : v.consumed = []) (seconds : Value) :
      May pace v (.slept seconds)
  | resized (after : v.lastCall ≠ some false) (unsettled : v.consumed = [])
      (unmeasured : v.measured = []) (pending : Bool) : May pace v (.consumed .resize pending)
  | measured (asked : v.consumed = [(.resize, true)]) (unmeasured : v.measured = [])
      (rows : Int) : May pace v (.measured rows)
  | resumed (resized : Bool) (after : v.consumed = [(.resize, resized)])
      (measured : v.measured.length = if resized then 1 else 0) (pending : Bool) :
      May pace v (.consumed .resume pending)
  | other (event : Event) (free : event.isMove = false) : May pace v event

section

variable {σ : Type} (source : Source σ) (height : Run Int) (pace : Pace) (w : Surroundings)
  (s : Session)

/-- What the source returned at the last call was printed, line by line, and nothing else was. The
source was asked right then, and what happened meanwhile is among the events. -/
def Told (new : List Event) : Prop :=
  ∀ sample earlier, fromCall new = .called sample :: earlier →
    ∃ (signals : List Signal) (t t' : Session) (state state' : σ) (lines : List String),
      t.past = (signals.map Event.arrived).reverse ++ .called sample :: (earlier ++ s.past) ∧
      (source.ask sample state).perform w t = (.ok (state', lines), t') ∧
      t'.past <:+ new ++ s.past ∧
      printedSince new = (lines.map (· ++ "\n")).reverse

/-- What holds of each event of a run of the sampler that starts from the session `s`, and of the
events before it. -/
structure Rightly (event : Event) (earlier : List Event) : Prop where
  /-- Nothing is begun with the flag set that the user wants the end. -/
  unaware : event.begins = true → s.flagged earlier = false
  /-- The flags are read as they are. -/
  heeds : ∀ signal pending, event = .consumed signal pending →
    pending = (s.handlers.flagsAfter s.flags earlier).has signal
  /-- The heights are those of the terminal. -/
  measures : ∀ rows, event = .measured rows → ∃ t t', height.perform w t = (.ok rows, t')
  /-- Before anything else is done, the lines of the last call are printed. -/
  told : event.isMove = true → Told source w s earlier
  /-- Everything is done in its turn. -/
  inTurn : May pace (seen earlier) event

/-- A run of the sampler that has come to the session `t` by the events `new`. -/
structure Going (new : List Event) (t : Session) : Prop where
  follows : Follows s new t
  lawful : Lawful (Rightly source height pace w s) new

end

/-! ## Events that change nothing -/

/-- Some events after `new` nothing more was asked for and printed. -/
structure SameCall (new later : List Event) : Prop where
  grown : new <:+ later
  fromCall : fromCall later = fromCall new
  printed : printedSince later = printedSince new

/-- Some events after `new` the same is to be seen. -/
structure Same (new later : List Event) : Prop extends SameCall new later where
  seen : seen later = seen new

section

variable {σ : Type} {source : Source σ} {height : Run Int} {pace : Pace} {w : Surroundings}
  {s t t' : Session} {new later latest : List Event} {event : Event}

theorem SameCall.trans (h₁ : SameCall new later) (h₂ : SameCall later latest) :
    SameCall new latest :=
  ⟨h₁.grown.trans h₂.grown, h₂.fromCall.trans h₁.fromCall, h₂.printed.trans h₁.printed⟩

theorem SameCall.told (h : SameCall new later) (told : Told source w s new) :
    Told source w s later := by
  intro sample earlier called
  rw [h.fromCall] at called
  obtain ⟨signals, t, t', state, state', lines, past, asked, part, printed⟩ :=
    told sample earlier called
  obtain ⟨between, rfl⟩ := h.grown
  refine ⟨signals, t, t', state, state', lines, past, asked, ?_, h.printed.trans printed⟩
  rw [List.append_assoc]
  exact part.trans (List.suffix_append between _)

theorem Same.rest : Same new new := ⟨⟨List.suffix_refl new, rfl, rfl⟩, rfl⟩

theorem Same.trans (h₁ : Same new later) (h₂ : Same later latest) : Same new latest :=
  ⟨h₁.toSameCall.trans h₂.toSameCall, h₂.seen.trans h₁.seen⟩

theorem SameCall.consumed (signal : Signal) (pending : Bool) :
    SameCall new (.consumed signal pending :: new) :=
  ⟨List.suffix_cons _ _, rfl, rfl⟩

theorem SameCall.measured (rows : Int) : SameCall new (.measured rows :: new) :=
  ⟨List.suffix_cons _ _, rfl, rfl⟩

theorem Same.logged (level : LogLevel) (text : String) : Same new (.logged level text :: new) :=
  ⟨⟨List.suffix_cons _ _, rfl, rfl⟩, rfl⟩

theorem Same.looked : Same new (.looked :: new) := ⟨⟨List.suffix_cons _ _, rfl, rfl⟩, rfl⟩

theorem Same.slept (seconds : Value) : Same new (.slept seconds :: new) :=
  ⟨⟨List.suffix_cons _ _, rfl, rfl⟩, rfl⟩

/-- Events of what a sampler calls. -/
theorem Same.outside (h : ∀ event ∈ later, event.ofSampler = false) : Same new (later ++ new) := by
  induction later with
  | nil => exact .rest
  | cons event later ih =>
    refine (ih fun event member => h event (List.mem_cons_of_mem _ member)).trans ?_
    have outside := h event List.mem_cons_self
    cases event <;> first | contradiction | exact ⟨⟨List.suffix_cons _ _, rfl, rfl⟩, rfl⟩

theorem outside_arrived (signals : List Signal) :
    ∀ event ∈ (signals.map Event.arrived).reverse, event.ofSampler = false := by
  intro event member
  obtain ⟨signal, -, rfl⟩ := List.mem_map.mp (List.mem_reverse.mp member)
  rfl

theorem looks_mono (h : new <:+ later) : looks s new ≤ looks s later := by
  obtain ⟨between, rfl⟩ := h
  induction between with
  | nil => exact Nat.le_refl _
  | cons event between ih =>
    refine Nat.le_trans ih ?_
    cases event <;> simp [looks]

theorem flagged_mono (h : new <:+ later) (set : s.flagged new = true) :
    s.flagged later = true := by
  obtain ⟨between, rfl⟩ := h
  exact Session.flagged_of_append set

/-- The law says nothing of events of what a sampler calls. -/
theorem Rightly.of_outside (h : event.ofSampler = false) (earlier : List Event) :
    Rightly source height pace w s event earlier := by
  constructor
  case inTurn =>
    refine .other event ?_
    cases event <;> first | contradiction | rfl
  all_goals cases event <;> first | contradiction | nofun

/-- What the sampler calls does something. -/
theorem Going.outside (g : Going source height pace w s new t) (h : Follows t later t')
    (outside : ∀ event ∈ later, event.ofSampler = false) :
    Going source height pace w s (later ++ new) t' :=
  ⟨g.follows.trans h, g.lawful.append fun event member => Rightly.of_outside (outside event member)⟩

/-- The sampler does something, and signals arrive right after it. -/
theorem Going.happen (g : Going source height pace w s new t) (h : Follows t [event] t')
    (right : Rightly source height pace w s event new) (signals : List Signal) :
    ∃ later, Going source height pace w s later (t'.receiveAll signals) ∧
      Same (event :: new) later := by
  have went : Going source height pace w s (event :: new) t' :=
    ⟨g.follows.trans h, right, g.lawful⟩
  exact ⟨_, went.outside (Follows.receiveAll signals) (outside_arrived signals),
    .outside (outside_arrived signals)⟩

/-- The sampler does something that does not change the flags. -/
theorem Going.note (g : Going source height pace w s new t) (event : Event)
    (same : ∀ flags, t.handlers.flagsAfter flags [event] = flags)
    (right : Rightly source height pace w s event new) :
    ∃ later, Going source height pace w s later (t.after w event) ∧ Same (event :: new) later := by
  have first : Follows t [event] { t with past := event :: t.past } := ⟨rfl, (same _).symm, rfl⟩
  exact g.happen first right _

end

end Monitor

end PgVitals
