import PgVitals.Proofs.Session.Returning
/-!
# Runs that return

Where the server accepts every statement and keeps the connection, and where the user does not want
the end, nothing from outside stops a run. Such a run *returns*; whether it does is put together
from its parts, one rule for each way of building a run.

* `Surroundings.Obliging` are the surroundings in which nothing is in the way, and `Session.Calm`
  the sessions a run starts and ends in.
* `Run.Returns` says that from every calm session the run returns to a calm one, with a value of
  which something holds. `Returns.bind` passes that value on to what follows.
* `Returns.fetch` and `Returns.rows` are the rules for statements. What they bring back is any
  result set of which the caller knows something, which is then what the next steps can rely on.

A computation of the program itself may still fail, over a value that the server returns. So the
rules `Returns.ofFault` and `Returns.ofExcept` ask for a proof that it does not, and that is where
assumptions about values come in.
-/

namespace PgVitals

/-- The server accepts all statements and keeps the connection, and SIGINT never arrives. -/
structure Surroundings.Obliging (w : Surroundings) : Prop where
  accepts : ∀ past statement, (w.reply past statement).accepts = true
  keeps : ∀ past statement, (w.reply past statement).closes = false
  undisturbed : ∀ past statement, Signal.interrupt ∉ (w.reply past statement).signals
  patient : ∀ past, Signal.interrupt ∉ w.arrivals past

/-- A session over an open connection, which the user does not want to end. -/
structure Session.Calm (s : Session) : Prop where
  up : s.link = .up
  unwanted : s.flags.shutdown = false

namespace Session.Calm

variable {w : Surroundings} {s : Session}

/-- Only SIGINT makes the wish to end known. -/
theorem receiveAll {signals : List Signal} (calm : s.Calm) (undisturbed : .interrupt ∉ signals) :
    (s.receiveAll signals).Calm := by
  induction signals generalizing s with
  | nil => exact calm
  | cons signal signals ih =>
    have other : signal ≠ .interrupt := fun same => undisturbed (same ▸ List.mem_cons_self)
    -- Any other signal sets a flag of its own, if any.
    have next : (s.receive signal).Calm := by
      refine ⟨calm.up, ?_⟩
      show (s.handlers.deliver s.flags signal).shutdown = false
      unfold Handlers.deliver
      split
      · cases signal with
        | interrupt => exact absurd rfl other
        | resume | resize => exact calm.unwanted
      · exact calm.unwanted
    exact ih next fun member => undisturbed (List.mem_cons_of_mem _ member)

theorem after (calm : s.Calm) (obliging : w.Obliging) (event : Event) : (s.after w event).Calm := by
  have noted : Session.Calm { s with past := event :: s.past } := ⟨calm.up, calm.unwanted⟩
  exact noted.receiveAll (obliging.patient _)

theorem answered (calm : s.Calm) (obliging : w.Obliging) (statement : Statement) :
    (s.answered w statement).Calm := by
  have sent : Session.Calm
      { s with past := .asked statement (w.reply s.past statement) :: s.past } :=
    ⟨calm.up, calm.unwanted⟩
  have during := sent.receiveAll (obliging.undisturbed s.past statement)
  unfold Session.answered
  dsimp only
  rw [if_neg (by simp [obliging.keeps])]
  exact during.receiveAll (obliging.patient _)

theorem held (calm : s.Calm) (change : Holdings → Holdings) :
    Session.Calm { s with holdings := change s.holdings } :=
  ⟨calm.up, calm.unwanted⟩

end Session.Calm

namespace Run

variable {α β : Type} {w : Surroundings}

/-- From every calm session the run returns to a calm session, with a value of which `Q` holds. -/
def Returns (w : Surroundings) (r : Run α) (Q : α → Prop) : Prop :=
  ∀ s : Session, s.Calm → ∃ a s', r.perform w s = (.ok a, s') ∧ s'.Calm ∧ Q a

namespace Returns

variable {Q : α → Prop} {P : β → Prop}

theorem pure {a : α} (h : Q a) : Returns w (Pure.pure a : Run α) Q :=
  fun s calm => ⟨a, s, rfl, calm, h⟩

theorem bind {r : Run α} {f : α → Run β} (hr : Returns w r Q) (hf : ∀ a, Q a → Returns w (f a) P) :
    Returns w (r >>= f) P := by
  intro s calm
  obtain ⟨a, s₁, first, calm₁, found⟩ := hr s calm
  obtain ⟨b, s₂, next, calm₂, done⟩ := hf a found s₁ calm₁
  refine ⟨b, s₂, ?_, calm₂, done⟩
  rw [perform_bind_ok first, next]

/-- What returns is not rescued. -/
theorem rescue {r : Run α} {handle : Failure → Run α} (hr : Returns w r Q) :
    Returns w (Run.rescue r handle) Q := by
  intro s calm
  obtain ⟨a, s₁, first, calm₁, found⟩ := hr s calm
  exact ⟨a, s₁, perform_rescue_ok first, calm₁, found⟩

theorem get : Returns w (MonadState.get : Run Session) fun _ => True :=
  fun s calm => ⟨s, s, rfl, calm, trivial⟩

theorem hold (change : Holdings → Holdings) : Returns w (Run.hold change) fun _ => True :=
  fun _ calm => ⟨(), _, rfl, calm.held change, trivial⟩

theorem ofFault {r : Except Fault α} {a : α} (same : r = .ok a) (h : Q a) :
    Returns w (Run.ofFault r) Q := by
  rw [same]
  exact pure h

theorem ofExcept {r : Except Failure α} {a : α} (same : r = .ok a) (h : Q a) :
    Returns w (Run.ofExcept r) Q := by
  rw [same]
  exact pure h

theorem firstCell {rows rest : List (List Value)} {cell : Value} {cells : List Value}
    (same : rows = (cell :: cells) :: rest) : Returns w (Run.firstCell rows) (· = cell) := by
  rw [same]
  exact pure rfl

theorem forM {items : List α} {f : α → Run PUnit} (h : ∀ a, Returns w (f a) fun _ => True) :
    Returns w (items.forM f) fun _ => True := by
  induction items with
  | nil => exact pure trivial
  | cons a items ih =>
    show Returns w (f a >>= fun _ => items.forM f) _
    exact (h a).bind fun _ _ => ih

section

variable (obliging : w.Obliging)

include obliging

theorem note (event : Event) : Returns w (Run.note event) fun _ => True :=
  fun _ calm => ⟨(), _, rfl, calm.after obliging event, trivial⟩

theorem printLine (text : String) : Returns w (Run.printLine text) fun _ => True :=
  note obliging _

theorem log (level : LogLevel) (text : String) : Returns w (Run.log level text) fun _ => True :=
  note obliging _

/-- Where the user does not want the end, the run does not find that they do. -/
theorem shutdownWanted : Returns w Run.shutdownWanted (· = false) := by
  intro s calm
  have looked := calm.after obliging .looked
  exact ⟨_, _, perform_shutdownWanted, looked, looked.unwanted⟩

theorem fetch (statement : Statement) :
    Returns w (Run.fetch statement) fun set =>
      ∃ past, (w.reply past statement).set? = some set := by
  intro s calm
  have accepts := obliging.accepts s.past statement
  -- An accepted statement brings a result back, be it an empty one.
  have found : ∃ set, (w.reply s.past statement).set? = some set := by
    unfold Reply.set?
    unfold Reply.accepts at accepts
    split
    · exact ⟨_, rfl⟩
    · exact ⟨_, rfl⟩
    · rename_i error refuses
      rw [refuses] at accepts
      exact absurd accepts Bool.false_ne_true
  obtain ⟨set, answer⟩ := found
  have answered : answer? w s statement = some set := by
    rw [answer?, if_pos calm.up, answer]
  exact ⟨set, _, perform_fetch_answered answered, calm.answered obliging statement, _, answer⟩

theorem rows (statement : Statement) :
    Returns w (Run.rows statement) fun rows =>
      ∃ past set, (w.reply past statement).set? = some set ∧ rows = set.rows :=
  (fetch obliging statement).bind fun set ⟨past, answer⟩ => pure ⟨past, set, answer, rfl⟩

theorem execute (sql : String) : Returns w (Run.execute sql) fun _ => True :=
  (fetch obliging (.plain sql)).bind fun _ _ => pure trivial

/-- A server that tells its release is asked for it. -/
theorem fetchRelease {release : Release}
    (told : ∀ past set, (w.reply past (.plain "SELECT version()")).set? = some set →
      ∃ cell cells rest, set.rows = (cell :: cells) :: rest ∧ Release.ofCell cell = .ok release) :
    Returns w Run.fetchRelease (· = release) := by
  refine (rows obliging _).rescue.bind ?_
  rintro found ⟨past, set, answer, rfl⟩
  obtain ⟨cell, cells, rest, shape, read⟩ := told past set answer
  rw [if_neg (by simp [shape])]
  refine (firstCell shape).bind ?_
  rintro _ rfl
  refine (ofExcept (Q := (· = release)) read rfl).bind ?_
  rintro _ rfl
  exact (log obliging _ _).bind fun _ _ => pure rfl

end

end Returns

end Run

end PgVitals
