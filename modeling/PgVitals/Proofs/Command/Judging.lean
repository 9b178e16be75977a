import PgVitals.Command.Tasks
import PgVitals.Proofs.Monitor.Ending
import PgVitals.Proofs.Settings.Loading
/-!
# Judging options

The monitor, the tracer and the display of free space take numbers, from the command line or from
the settings, and judge them before there is a connection. Most values that are of no use are
refused then. What is let through, and what ends the command with a fault that nobody reports, is
said here exactly.

* `Admits` says of a judgement that what it lets through has a property, and that the rest is
  refused as an error of configuration. `admits_positiveOf`, `admits_positiveOrNull` and
  `admits_domainOf` are the three judgements there are, with what they let through.
* `Measured` are the options of the three utilities, and `Start` what they start with once they are
  judged. `Start.InRange` is the range that the documentation gives.
* `Measured.Slips` lists the options that are neither refused nor in range, and
  `Measured.judge_sound_iff` says that there are no others.
* `Measured.Misjudged` adds the settings that do not convert, and `Measured.judgeWith_sound_iff` is
  the same for these.
* `Start.InRange.computes` says that what is in range can be computed with: the pauses between
  samples, and the number of blocks in a group.

A value of the settings is any value that a document can hold, a mapping among them, so being a
number is part of what has to be judged. The interval of the monitor has to be a whole number above
zero that a double comes near to; that of a trace may be any number that is not below zero. No
comparison finds `NaN` below zero, so it slips through there. At the end an interval is left open,
and the command fails after its first sample.
-/

namespace PgVitals

open Catalog Number Run Monitor.Sampler

/-! ## Kinds of values -/

/-- Whether a value is a number that is not below zero. `NaN` is none. -/
def Value.isAtLeastZero (v : Value) : Bool :=
  match v.magnitude? with
  | some (.ratio num _) => decide (0 ≤ num)
  | some (.infinite negative) => !negative
  | _ => false

/-- Whether a value is a number; `NaN` is none. -/
def Value.isOrdered (v : Value) : Bool :=
  match v.magnitude? with
  | some (.ratio _ _) | some (.infinite _) => true
  | _ => false

/-- Whether a value is looked up as a name. -/
def Value.isName : Value → Bool
  | text _ | bytes _ => true
  | _ => false

/-- Whether a value is a whole number above zero; the truth value counts as one. -/
def Value.IsPositive (v : Value) : Prop := ∃ n, v.whole? = some n ∧ 0 < n

theorem Value.before_int_zero (v : Value) :
    v.before (.int 0) =
      match v.magnitude? with
      | some m =>
        match m.compare (.ratio 0 1) with
        | some order => .ok (order == .lt)
        | none => if v.isDecimal then .error .unordered else .ok false
      | none => .error .wrongKind := by
  cases v with
  | decimal d => cases d <;> rfl
  | float x =>
    simp only [before, magnitude?]
    cases Binary.ofFloat x <;> rfl
  | _ => rfl

theorem Value.before_zero_ordered {v : Value} (ordered : v.isOrdered = true) :
    v.before (.int 0) = .ok (!v.isAtLeastZero) := by
  rw [before_int_zero]
  unfold isOrdered at ordered
  unfold isAtLeastZero
  match h : v.magnitude? with
  | none => simp [h] at ordered
  | some .nan => simp [h] at ordered
  | some (.infinite negative) => cases negative <;> rfl
  | some (.ratio num den) =>
    rcases Int.lt_trichotomy num 0 with below | zero | above
    · simp [Magnitude.compare, below]
    · simp [Magnitude.compare, zero]
    · have notBelow : ¬ num < 0 := by omega
      have notZero : num ≠ 0 := by omega
      simp [Magnitude.compare, notBelow, notZero, Int.le_of_lt above]

theorem Value.before_zero_unordered {v : Value} (unordered : v.isOrdered = false) :
    v.before (.int 0) ≠ .ok true := by
  rw [before_int_zero]
  unfold isOrdered at unordered
  match h : v.magnitude? with
  | none => simp
  | some .nan => cases v.isDecimal <;> simp [Magnitude.compare]
  | some (.infinite _) => simp [h] at unordered
  | some (.ratio _ _) => simp [h] at unordered

theorem Value.isOrdered_of_isAtLeastZero {v : Value} (h : v.isAtLeastZero = true) :
    v.isOrdered = true := by
  unfold isAtLeastZero at h
  unfold isOrdered
  split at h <;> simp_all

/-! ## Judgements -/

/-- What is let through has a property, and the rest is refused as an error of configuration. -/
def Admits {α : Type} (P : α → Prop) : Except Failure α → Prop
  | .ok a => P a
  | .error failure => ∃ cause, failure = .config cause

namespace Admits

variable {α β : Type} {P : α → Prop} {Q : β → Prop} {r : Except Failure α}

theorem bind {f : α → Except Failure β} (first : Admits P r) (rest : ∀ a, P a → Admits Q (f a)) :
    Admits Q (r >>= f) := by
  cases r with
  | ok a => exact rest a first
  | error failure => exact first

theorem map {f : α → β} (first : Admits P r) (rest : ∀ a, P a → Q (f a)) : Admits Q (f <$> r) := by
  cases r with
  | ok a => exact rest a first
  | error failure => exact first

end Admits

theorem admits_positiveOf (option : String) (v : Value) :
    Admits (fun n => v.whole? = some n ∧ 0 < n) (positiveOf option v) := by
  unfold positiveOf
  cases v.whole? with
  | none => exact ⟨_, rfl⟩
  | some n =>
    dsimp only
    split
    · exact ⟨_, rfl⟩
    next above => exact ⟨rfl, Int.not_le.mp above⟩

/-- Null is let through, whether or not anyone can make use of it. -/
theorem admits_positiveOrNull (option : String) (v : Value) :
    Admits (fun n => (v = .null ∨ v.IsPositive) ∧ ∀ m, n = some m → 0 < m)
      (positiveOrNull option v) := by
  by_cases null : v = .null
  · subst null
    exact ⟨.inl rfl, nofun⟩
  · have judged : positiveOrNull option v = some <$> positiveOf option v := by
      cases v <;> first | rfl | exact absurd rfl null
    rw [judged]
    refine (admits_positiveOf option v).map fun n positive => ⟨.inr ⟨n, positive⟩, fun m same => ?_⟩
    cases same
    exact positive.2

theorem admits_domainOf {v : Value} (named : v.isName = true) :
    Admits (fun d => Monitor.isMonitored d = true) (domainOf v) := by
  have known : (∃ d, Domain.ofValue v = .ok d) ∨
      ∃ quoted, Domain.ofValue v = .error (.unknownDomain quoted) := by
    cases v with
    | text s =>
      simp only [Domain.ofValue, Domain.ofName]
      split
      · exact .inl ⟨_, rfl⟩
      · exact .inr ⟨_, rfl⟩
    | bytes bs => exact .inr ⟨_, rfl⟩
    | _ => cases named
  unfold domainOf
  rcases known with ⟨d, ok⟩ | ⟨quoted, refused⟩
  · rw [ok]
    dsimp only
    split
    next monitored => exact monitored
    · exact ⟨_, rfl⟩
  · rw [refused]
    exact ⟨_, rfl⟩

theorem domainOf_unnamed {v : Value} (unnamed : v.isName = false) :
    domainOf v = .error (.fault .missingPart) := by
  cases v with
  | text s => cases unnamed
  | bytes bs => cases unnamed
  | _ => rfl

/-! ## Plans of the monitor -/

theorem before_float_whole {v : Value} {n : Int} (whole : v.whole? = some n) (x : Float) :
    ∃ before, v.before (.float x) = .ok before := by
  cases v with
  | int n => exact Monitor.before_int_float n x
  | bool b =>
    simp only [Value.before, Value.magnitude?]
    cases Binary.ofFloat x <;> simp [Value.Magnitude.compare, Value.isDecimal]
  | _ => cases whole

theorem int_before_whole {v : Value} {n : Int} (whole : v.whole? = some n) (m : Int) :
    ∃ before, (Value.int m).before v = .ok before := by
  cases v with
  | int n => exact Monitor.before_int_int m n
  | bool b => simp [Value.before, Value.magnitude?, Value.Magnitude.compare]
  | _ => cases whole

theorem afterSlice_whole {v : Value} {n : Int} (whole : v.whole? = some n) :
    (∃ x, afterSlice v = .ok x) ↔ v.isNumeric = true := by
  have converts : afterSlice v = (fun x => roundPlaces 6 (x - slice)) <$> v.toFloat := by
    cases v with
    | int n => simp only [afterSlice, bind_pure_comp]
    | bool b => simp only [afterSlice, bind_pure_comp]
    | _ => cases whole
  rw [← v.toFloat_ok_iff, converts]
  cases v.toFloat <;> simp [Functor.map, Except.map]

/-- A pause of a whole number of seconds is possible where a double comes near to the number. -/
theorem waitable_iff {v : Value} (positive : v.IsPositive) :
    Monitor.Waitable v ↔ v.isNumeric = true := by
  obtain ⟨n, whole, -⟩ := positive
  rw [← afterSlice_whole whole]
  constructor
  · rintro (⟨x, rfl⟩ | ⟨-, -, rest⟩)
    · cases whole
    · exact rest
  · exact fun rest => .inr ⟨int_before_whole whole 0, before_float_whole whole slice, rest⟩

/-- A plan that the judging lets through. The interval may still be null. -/
structure MonitorPlan.Passed (plan : MonitorPlan) : Prop where
  domain : Monitor.isMonitored plan.subject.domain = true
  filter : plan.subject.filter = .null ∨ acceptsFilter plan.subject.domain = true
  interval : plan.pace.interval = .null ∨ plan.pace.interval.IsPositive
  count : ∀ n, plan.pace.count = some n → 0 < n

/-- A plan for something that can be monitored, in intervals that one can wait for. -/
structure MonitorPlan.InRange (plan : MonitorPlan) : Prop where
  domain : Monitor.isMonitored plan.subject.domain = true
  filter : plan.subject.filter = .null ∨ acceptsFilter plan.subject.domain = true
  interval : plan.pace.interval.IsPositive
  waitable : Monitor.Waitable plan.pace.interval
  count : ∀ n, plan.pace.count = some n → 0 < n

section

variable {o : MonitorOptions} {settings : MonitorSettings}

/-- Judges how often to sample what is known to be monitored. -/
def MonitorOptions.paced (o : MonitorOptions) (settings : MonitorSettings) (domain : Domain) :
    Except Failure MonitorPlan := do
  let interval := Settings.pick (numberOrNull o.delay) settings.interval
  let _ ← positiveOrNull "delay" interval
  let count ← positiveOrNull "count" (Settings.pick (numberOrNull o.count) settings.count)
  return {
    subject := ⟨domain, o.filter, o.humanReadable || settings.humanReadable⟩
    pace := ⟨interval, count, !(o.singleHeader || settings.singleHeader)⟩ }

theorem MonitorOptions.admits_paced {d : Domain} (monitored : Monitor.isMonitored d = true)
    (filter : o.filter = .null ∨ acceptsFilter d = true) :
    Admits MonitorPlan.Passed (o.paced settings d) := by
  refine (admits_positiveOrNull _ _).bind fun _ interval => ?_
  refine (admits_positiveOrNull _ _).bind fun count positive => ?_
  exact ⟨monitored, filter, interval.1, positive.2⟩

theorem MonitorOptions.admits_plan
    (named : (Settings.pick o.subject settings.subject).isName = true) :
    Admits MonitorPlan.Passed (o.plan settings) := by
  refine (admits_domainOf named).bind fun d monitored => ?_
  dsimp only
  split
  next null => exact admits_paced monitored (.inl null)
  next =>
    split
    · exact ⟨_, rfl⟩
    next accepts => exact admits_paced monitored (.inr (by simpa using accepts))

theorem MonitorOptions.plan_unnamed
    (unnamed : (Settings.pick o.subject settings.subject).isName = false) :
    o.plan settings = .error (.fault .missingPart) := by
  unfold plan
  rw [domainOf_unnamed unnamed]
  rfl

theorem MonitorPlan.Passed.inRange_iff {plan : MonitorPlan} (passed : plan.Passed) :
    plan.InRange ↔ plan.pace.interval.isNumeric = true := by
  constructor
  · intro inRange
    exact (waitable_iff inRange.interval).mp inRange.waitable
  · intro numeric
    have positive : plan.pace.interval.IsPositive := passed.interval.resolve_left fun null => by
      rw [null] at numeric
      cases numeric
    exact ⟨passed.domain, passed.filter, positive, (waitable_iff positive).mpr numeric,
      passed.count⟩

end

/-! ## Options and what they start -/

/-- The options of a utility that takes numbers. -/
inductive Measured where
  | monitor (options : MonitorOptions)
  | trace (options : TraceOptions)
  | freeSpace (options : FreeSpaceOptions)

/-- The task that has the options. -/
def Measured.task : Measured → Task
  | monitor options => .monitor options
  | trace options => .trace options
  | freeSpace options => .freeSpace options

/-- What a utility starts with, once its options are judged. -/
inductive Start where
  | monitor (plan : MonitorPlan)
  | trace (target : Trace.Target)
  | freeSpace (relation : Value) (groups : Int)

/-- What is done over the connection. -/
def Start.work : Start → Run Unit
  | monitor plan => Monitor.run plan.subject plan.pace
  | trace target => Trace.start target
  | freeSpace relation groups => do let _ ← FreeSpace.display relation groups

/-- The numbers are in the range that the documentation gives, and can be computed with. -/
def Start.InRange : Start → Prop
  | monitor plan => plan.InRange
  | trace target => target.interval.isAtLeastZero = true
  | freeSpace _ groups => 0 < groups

/-- Judges options with the settings at hand. -/
def Measured.judge (settings : Settings) : Measured → Except Failure Start
  | monitor o => .monitor <$> o.plan settings.monitor
  | trace o => .trace <$> o.target settings.trace
  | freeSpace o =>
    .freeSpace o.relation <$> positiveOf "groups" (Settings.pick o.groups settings.groups)

/-- Judges options with the mapping of a settings file. -/
def Measured.judgeWith (entries : List (Value × Value)) (m : Measured) : Except Failure Start := do
  m.judge (← Settings.ofEntries entries)

/-- What a command with some options does with the mapping of a settings file. -/
def Measured.command (general : GeneralOptions) (entries : List (Value × Value)) (m : Measured) :
    Run Unit := do
  let settings ← Run.ofExcept (Settings.ofEntries entries)
  m.task.perform ⟨general, settings⟩

/-- Options that are neither refused nor in range: what is to be monitored is no name; the interval
of the monitor is null, or so large that no double comes near to it; the interval of a trace is no
number. -/
inductive Measured.Slips (settings : Settings) : Measured → Prop
  | unnamed {o : MonitorOptions}
      (subject : (Settings.pick o.subject settings.monitor.subject).isName = false) :
      Slips settings (.monitor o)
  | unwaitable {o : MonitorOptions} {plan : MonitorPlan}
      (passes : o.plan settings.monitor = .ok plan)
      (interval : plan.pace.interval.isNumeric = false) : Slips settings (.monitor o)
  | unordered {o : TraceOptions}
      (interval : (Settings.pick o.interval (.float settings.trace.interval)).isOrdered = false) :
      Slips settings (.trace o)

theorem TraceOptions.target_eq (o : TraceOptions) (settings : TraceSettings) :
    o.target settings =
      let interval := Settings.pick o.interval (.float settings.interval)
      match interval.before (.int 0) with
      | .error fault => .error (.fault fault)
      | .ok true => .error (.config .negativeInterval)
      | .ok false => .ok ⟨o.pid, interval, o.workers || settings.workers⟩ := rfl

theorem TraceOptions.admits_target_iff (o : TraceOptions) (settings : TraceSettings) :
    Admits (fun t => t.interval.isAtLeastZero = true) (o.target settings) ↔
      (Settings.pick o.interval (.float settings.interval)).isOrdered = true := by
  rw [target_eq]
  dsimp only
  generalize Settings.pick o.interval (.float settings.interval) = v
  cases ordered : v.isOrdered with
  | true =>
    rw [Value.before_zero_ordered ordered]
    cases sign : v.isAtLeastZero <;> simp [Admits, sign]
  | false =>
    have small : v.isAtLeastZero = false :=
      Bool.eq_false_iff.mpr fun h => by simp [Value.isOrdered_of_isAtLeastZero h] at ordered
    have notBelow := Value.before_zero_unordered ordered
    match h : v.before (.int 0) with
    | .error fault => simp [Admits]
    | .ok true => exact absurd h notBelow
    | .ok false => simp [Admits, small]

theorem MonitorOptions.admits_plan_iff (o : MonitorOptions) (settings : MonitorSettings) :
    Admits MonitorPlan.InRange (o.plan settings) ↔
      (Settings.pick o.subject settings.subject).isName = true ∧
        ∀ plan, o.plan settings = .ok plan → plan.pace.interval.isNumeric = true := by
  cases named : (Settings.pick o.subject settings.subject).isName with
  | false =>
    rw [plan_unnamed named]
    simp [Admits]
  | true =>
    have judged := admits_plan named
    match h : o.plan settings with
    | .error failure =>
      rw [h] at judged
      exact ⟨fun _ => ⟨rfl, nofun⟩, fun _ => judged⟩
    | .ok plan =>
      rw [h] at judged
      have inRange := MonitorPlan.Passed.inRange_iff judged
      exact ⟨fun good => ⟨rfl, fun _ same => Except.ok.inj same ▸ inRange.mp good⟩,
        fun ⟨_, numeric⟩ => inRange.mpr (numeric plan rfl)⟩

theorem Admits.map_iff {α β : Type} {P : α → Prop} {Q : β → Prop} {f : α → β}
    {r : Except Failure α} (same : ∀ a, Q (f a) ↔ P a) : Admits Q (f <$> r) ↔ Admits P r := by
  cases r with
  | ok a => exact same a
  | error failure => exact Iff.rfl

theorem Measured.judge_sound_iff (settings : Settings) (m : Measured) :
    Admits Start.InRange (m.judge settings) ↔ ¬ m.Slips settings := by
  cases m with
  | monitor o =>
    rw [judge, Admits.map_iff (P := MonitorPlan.InRange) (f := Start.monitor) fun _ => Iff.rfl,
      o.admits_plan_iff]
    constructor
    · rintro ⟨named, numeric⟩ slips
      cases slips with
      | unnamed subject => simp [subject] at named
      | unwaitable passes interval => simp [numeric _ passes] at interval
    · intro fits
      refine ⟨?_, fun plan passes => ?_⟩
      · exact (Bool.not_eq_false _).mp fun subject => fits (.unnamed subject)
      · exact (Bool.not_eq_false _).mp fun interval => fits (.unwaitable passes interval)
  | trace o =>
    rw [judge, Admits.map_iff (P := fun t : Trace.Target => t.interval.isAtLeastZero = true)
      (f := Start.trace) fun _ => Iff.rfl, o.admits_target_iff]
    constructor
    · rintro ordered slips
      cases slips with
      | unordered interval => simp [interval] at ordered
    · exact fun fits => (Bool.not_eq_false _).mp fun interval => fits (.unordered interval)
  | freeSpace o =>
    refine ⟨fun _ slips => (by cases slips), fun _ => ?_⟩
    exact (admits_positiveOf _ _).map fun n positive => positive.2

/-- How a utility that takes numbers is to use the connection, once its options are judged. -/
def Start.access (c : Context) (w : Surroundings) : Start → Access
  | monitor plan =>
    ⟨.monitor, c.settings.connectionFor w.environment c.general.connection,
      (Monitor.consoleCommand? plan.subject.domain).isNone, w.terminal⟩
  | trace _ => ⟨.trace, c.settings.connectionFor w.environment c.general.connection, false, false⟩
  | freeSpace _ _ =>
    ⟨.freeSpace, c.settings.connectionFor w.environment c.general.connection, true, false⟩

theorem Measured.perform_task (m : Measured) (c : Context) (w : Surroundings) (s : Session) :
    (m.task.perform c).perform w s =
      match m.judge c.settings with
      | .ok start => ((start.access c w).use start.work).perform w s
      | .error failure => (.error (.failed failure), s) := by
  cases m with
  | monitor o =>
    simp only [judge, task, Task.perform, MonitorOptions.perform]
    cases o.plan c.settings.monitor <;> rfl
  | trace o =>
    simp only [judge, task, Task.perform, TraceOptions.perform]
    cases o.target c.settings.trace <;> rfl
  | freeSpace o =>
    simp only [judge, task, Task.perform, FreeSpaceOptions.perform]
    cases positiveOf "groups" (Settings.pick o.groups c.settings.groups) <;> rfl

theorem Measured.access_utility {m : Measured} {start : Start}
    (judged : m.judge settings = .ok start) (c : Context) (w : Surroundings) :
    (start.access c w).utility = m.task.utility := by
  cases m with
  | monitor o =>
    simp only [judge] at judged
    cases plan : o.plan settings.monitor <;> rw [plan] at judged <;> cases judged
    rfl
  | trace o =>
    simp only [judge] at judged
    cases target : o.target settings.trace <;> rw [target] at judged <;> cases judged
    rfl
  | freeSpace o =>
    simp only [judge] at judged
    cases groups : positiveOf "groups" (Settings.pick o.groups settings.groups) <;>
      rw [groups] at judged <;> cases judged
    rfl

theorem Measured.perform_command (m : Measured) (general : GeneralOptions)
    (entries : List (Value × Value)) (w : Surroundings) (s : Session) :
    (m.command general entries).perform w s =
      match Settings.ofEntries entries with
      | .ok settings => (m.task.perform ⟨general, settings⟩).perform w s
      | .error failure => (.error (.failed failure), s) := by
  unfold command
  cases Settings.ofEntries entries <;> rfl

/-- Options that the command of a utility lets through although they are not in range, or that end
it with a fault: it is the mapping of the settings that does not convert, or the options slip. -/
def Measured.Misjudged (entries : List (Value × Value)) (m : Measured) : Prop :=
  Settings.isSpoilt entries = true ∨
    ∃ settings, Settings.ofEntries entries = .ok settings ∧ m.Slips settings

theorem Measured.judgeWith_sound_iff (entries : List (Value × Value)) (m : Measured) :
    Admits Start.InRange (m.judgeWith entries) ↔ ¬ m.Misjudged entries := by
  have verdict := Settings.ofEntries_verdict entries
  unfold judgeWith Misjudged
  match h : Settings.ofEntries entries with
  | .ok settings =>
    have converts : Settings.isSpoilt entries = false := by
      refine Bool.eq_false_iff.mpr fun spoilt => ?_
      rw [spoilt, h] at verdict
      obtain ⟨fault, fails⟩ := verdict
      cases fails
    rw [converts]
    refine Iff.trans (m.judge_sound_iff settings) (not_congr ⟨fun slips => ?_, fun wrong => ?_⟩)
    · exact .inr ⟨settings, rfl, slips⟩
    · obtain spoilt | ⟨_, same, slips⟩ := wrong
      · cases spoilt
      · cases same
        exact slips
  | .error failure =>
    cases spoilt : Settings.isSpoilt entries with
    | true =>
      rw [spoilt, h] at verdict
      obtain ⟨fault, fails⟩ := verdict
      cases fails
      exact ⟨fun ⟨cause, same⟩ => (by cases same), fun fits => absurd (.inl rfl) fits⟩
    | false =>
      rw [spoilt, h] at verdict
      exact ⟨fun _ => by simp, fun _ => verdict failure rfl⟩

/-! ## Options in range -/

/-- A run that does not fail, though it may be cut short. -/
def Unfailing {α : Type} (r : Run α) : Prop :=
  ∀ w s failure, (r.perform w s).1 ≠ .error (.failed failure)

namespace Unfailing

variable {α β : Type}

theorem of_ok {r : Run α} (ok : ∀ w s, ∃ a t, r.perform w s = (.ok a, t)) : Unfailing r := by
  intro w s failure fails
  obtain ⟨a, t, done⟩ := ok w s
  rw [done] at fails
  cases fails

theorem pure (a : α) : Unfailing (Pure.pure a) := .of_ok fun _ s => ⟨a, s, perform_pure a⟩

theorem note (event : Event) : Unfailing (Run.note event) :=
  .of_ok fun _ _ => ⟨_, _, perform_note event⟩

theorem bind {r : Run α} {f : α → Run β} (first : Unfailing r) (rest : ∀ a, Unfailing (f a)) :
    Unfailing (r >>= f) := by
  intro w s failure fails
  cases h : r.perform w s with
  | mk ended t =>
    cases ended with
    | ok a =>
      rw [perform_bind_ok h] at fails
      exact rest a w t failure fails
    | error stop =>
      rw [perform_bind_error h] at fails
      cases fails
      exact first w s failure (congrArg Prod.fst h)

theorem ofFault {r : Except Fault α} (ok : ∃ a, r = .ok a) : Unfailing (Run.ofFault r) := by
  obtain ⟨a, rfl⟩ := ok
  exact .pure a

theorem unlessWanted {r : Run Unit} (rest : Unfailing r) :
    Unfailing (do
      let wanted ← shutdownWanted
      if wanted then Pure.pure () else r) := by
  have looks : Unfailing shutdownWanted := .of_ok fun _ _ => ⟨_, _, perform_shutdownWanted⟩
  refine looks.bind fun wanted => ?_
  cases wanted with
  | true => exact .pure ()
  | false => exact rest

theorem pauseSlices (fuel : Nat) (x : Float) : Unfailing (Monitor.Sampler.pauseSlices fuel x) := by
  induction fuel generalizing x with
  | zero =>
    intro w s failure fails
    have cut : ((Monitor.Sampler.pauseSlices 0 x).perform w s).1 = .error .unfinished := rfl
    rw [cut] at fails
    cases fails
  | succ fuel ih =>
    rw [Monitor.pauseSlices_eq]
    split
    · exact .unlessWanted ((note _).bind fun _ => ih _)
    · exact .pure ()

end Unfailing

theorem unfailing_pause {seconds : Value} (waitable : Monitor.Waitable seconds) :
    Unfailing (pause seconds) := by
  by_cases double : ∃ x, seconds = .float x
  · obtain ⟨x, rfl⟩ := double
    exact fun w => Unfailing.pauseSlices w.patience x w
  · obtain ⟨compared, short, rest⟩ := waitable.resolve_left double
    intro w s failure
    rw [Monitor.perform_pause fun x is => double ⟨x, is⟩]
    refine Unfailing.bind (.ofFault compared) (fun positive => ?_) w s failure
    split
    · refine .unlessWanted ((Unfailing.ofFault short).bind fun short => ?_)
      split
      · exact .note _
      · exact (Unfailing.note _).bind fun _ =>
          (Unfailing.ofFault rest).bind fun x => .pauseSlices _ x
    · exact .pure ()

theorem groupSize_above {groups : Int} (above : 0 < groups) (blocks : Nat) :
    ∃ size, FreeSpace.groupSize blocks groups = .ok size ∧ 0 < size := by
  unfold FreeSpace.groupSize FreeSpace.quotient
  split
  · exact ⟨1, rfl, by decide⟩
  next more =>
    rw [if_neg (Int.ne_of_gt above)]
    refine ⟨_, rfl, ?_⟩
    rw [Int.fdiv_eq_ediv_of_nonneg _ (Int.le_of_lt above)]
    exact Int.le_ediv_of_mul_le above (by omega)

/-- Whatever is computed with the options alone can be computed: the pauses between samples, and the
number of blocks in a group. The interval of a trace is only passed on. -/
def Start.Computes : Start → Prop
  | monitor plan => Unfailing (pause plan.pace.interval)
  | trace _ => True
  | freeSpace _ groups =>
    ∀ blocks : Nat, ∃ size, FreeSpace.groupSize blocks groups = .ok size ∧ 0 < size

theorem Start.InRange.computes {start : Start} (inRange : start.InRange) : start.Computes := by
  cases start with
  | monitor plan => exact unfailing_pause (MonitorPlan.InRange.waitable inRange)
  | trace target => trivial
  | freeSpace relation groups => exact groupSize_above inRange

/-- Options are judged before there is a connection. The command fails with nothing done, or it does
its work over one. It fails as an error of configuration or works with options that are in range,
unless its options are misjudged. -/
theorem options_judged (general : GeneralOptions) (entries : List (Value × Value)) (m : Measured) :
    (∀ failure, m.judgeWith entries = .error failure → ∀ w s,
      (m.command general entries).perform w s = (.error (.failed failure), s)) ∧
    (∀ start, m.judgeWith entries = .ok start → ∀ w, ∃ access : Access,
      access.utility = m.task.utility ∧ ∀ s,
        (m.command general entries).perform w s = (access.use start.work).perform w s) ∧
    (Admits (fun start => start.InRange ∧ start.Computes) (m.judgeWith entries) ↔
      ¬ m.Misjudged entries) := by
  refine ⟨fun failure refused w s => ?_, fun start passes w => ?_, ?_⟩
  · rw [m.perform_command]
    unfold Measured.judgeWith at refused
    cases loaded : Settings.ofEntries entries with
    | error cause =>
      rw [loaded] at refused
      cases refused
      rfl
    | ok settings =>
      rw [loaded] at refused
      have judged : m.judge settings = .error failure := refused
      simp only [m.perform_task, judged]
  · unfold Measured.judgeWith at passes
    cases loaded : Settings.ofEntries entries with
    | error cause =>
      rw [loaded] at passes
      cases passes
    | ok settings =>
      rw [loaded] at passes
      have judged : m.judge settings = .ok start := passes
      refine ⟨start.access ⟨general, settings⟩ w, m.access_utility judged _ _, fun s => ?_⟩
      simp only [m.perform_command, loaded, m.perform_task, judged]
  · rw [← m.judgeWith_sound_iff entries]
    cases m.judgeWith entries with
    | ok start => exact ⟨And.left, fun inRange => ⟨inRange, inRange.computes⟩⟩
    | error failure => exact Iff.rfl

/-- Settings with a key for the interval of the monitor, and nothing behind it. -/
def intervalLeftOpen : List (Value × Value) :=
  [(.text "stat", .map [(.text "stat", .text "pbstats"), (.text "interval", .null)])]

/-- A server that answers everything with one number. -/
def sevenServer : Surroundings where
  reply _ _ := { outcome := .result ⟨["total_xact_count"], [[.int 7]]⟩ }
  patience := 20

/-- An interval left open is let through: the server is asked for a sample, and the pause after it
is a fault. -/
theorem null_interval_fails_late :
    let ended := ((Measured.monitor {}).command {} intervalLeftOpen).perform sevenServer {}
    ended.1 = .error (.failed (.fault .wrongKind)) ∧
      ended.2.executed.map Statement.sql = ["SHOW stats"] := by
  decide +kernel

end PgVitals
