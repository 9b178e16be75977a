import PgVitals.Proofs.Trace.Turns
/-!
# The places of statements in a trace

Every statement in what a trace says has its place: it is known what was said right before it, and
what its answer leads to. The places are found turn by turn, each turn with what comes after it.

* `Throughout` says something of every statement in some words, together with its answer and the
  words before and after it. `Throughout.append` is how turns are put one behind the other.
* `Place` lists the places: around the turns, a poll, a count of processes, the helper, and the
  durations. `Final` and `Onward` are what an answer can lead to, the end of the trace or its next
  poll, and `Called` is that of the helper, with the one refusal that is not the end.
* `Turned.places` gives every statement of a turn its place, where the rest of the trace is as the
  turn left it, and `Watching.places` does so for all turns.

A place says what comes next as far as the trace goes on. Where its turns are used up, or the flag
is found set, nothing comes next, and `Onward` allows for both. Dropping the helper in the end
changes no place, `Place.closed`.
-/

namespace PgVitals

/-! ## Statements in what was said -/

/-- Every statement in some words is as `P` says of it, of its answer and of the words before and
after it. -/
def Throughout (P : List Event → Statement → Reply → List Event → Prop) (words : List Event) :
    Prop :=
  ∀ before statement reply after, words = before ++ .asked statement reply :: after →
    P before statement reply after

namespace Throughout

variable {P Q : List Event → Statement → Reply → List Event → Prop} {words more rest : List Event}

theorem mono (h : Throughout P words)
    (le : ∀ before statement reply after, P before statement reply after →
      Q before statement reply after) : Throughout Q words :=
  fun before statement reply after split => le _ _ _ _ (h before statement reply after split)

theorem nil : Throughout P [] := by
  intro before statement reply after split
  simp at split

theorem asked {statement : Statement} {reply : Reply} (here : P [] statement reply rest)
    (further : Throughout (fun before => P (.asked statement reply :: before)) rest) :
    Throughout P (.asked statement reply :: rest) := by
  intro before other answer after split
  cases before with
  | nil =>
    cases split
    exact here
  | cons event before =>
    cases split
    exact further _ _ _ _ rfl

theorem printed {text : String}
    (further : Throughout (fun before => P (.printed text :: before)) rest) :
    Throughout P (.printed text :: rest) := by
  intro before statement reply after split
  cases before with
  | nil => cases split
  | cons event before =>
    cases split
    exact further _ _ _ _ rfl

theorem append (first : Throughout (fun before statement reply after =>
      P before statement reply (after ++ more)) words)
    (second : Throughout (fun before => P (words ++ before)) more) :
    Throughout P (words ++ more) := by
  intro before statement reply after split
  rcases List.append_eq_append_iff.mp split with ⟨between, rfl, later⟩ | ⟨between, earlier, later⟩
  · exact second _ _ _ _ later
  · cases between with
    | nil =>
      rw [List.append_nil] at earlier
      subst earlier
      have behind : P (words ++ []) statement reply after :=
        second [] statement reply after later.symm
      rwa [List.append_nil] at behind
    | cons event between =>
      cases later
      exact first _ _ _ _ earlier

end Throughout

namespace Trace

/-- Output has no statement in it. -/
theorem Printed.throughout {P : List Event → Statement → Reply → List Event → Prop}
    {words : List Event} (h : Printed words) : Throughout P words := by
  rintro before statement reply after rfl
  obtain ⟨text, same⟩ := h (.asked statement reply) (by simp)
  cases same

/-! ## Places -/

/-- The statement that asks for the release. -/
def releaseQuery : Statement := .plain "SELECT version()"

/-- What installs the helper. -/
def installing (workers : Bool) : List String := [createTable, createSchema, createFunction workers]

/-- What drops the helper. -/
def dropping : List String := [dropSchema, dropTable]

/-- Nothing but statements that drop the helper. -/
def Teardown (words : List Event) : Prop :=
  ∀ event ∈ words, ∃ statement reply, event = .asked statement reply ∧ statement.sql ∈ dropping

theorem Teardown.nil : Teardown [] := by simp [Teardown]

theorem Teardown.append {words more : List Event} (h : Teardown words) (h' : Teardown more) :
    Teardown (words ++ more) := by
  intro event member
  rcases List.mem_append.mp member with member | member
  · exact h event member
  · exact h' event member

/-- Where a statement is refused, the trace is over, and fails with the refusal. -/
def Final (statement : Statement) (reply : Reply) (after : List Event) (result : Except Stop Unit) :
    Prop :=
  ∀ error, reply.outcome = .refused error →
    Teardown after ∧ result = .error (.failed (reply.meaning statement error))

theorem Final.of_accepts {statement : Statement} {reply : Reply} {after : List Event}
    {result : Except Stop Unit} (accepts : reply.accepts = true) :
    Final statement reply after result :=
  fun _ refuses => absurd (accepts.symm.trans (Reply.accepts_refused refuses)) (by simp)

/-- After some words the trace goes on with its next poll, unless the flag is found set, or its
turns are used up. -/
def Onward (t : Target) (after : List Event) (result : Except Stop Unit) : Prop :=
  (∃ answer rest, after = .asked t.activityQuery answer :: rest) ∨
    Teardown after ∧ (Run.Flagged result ∨ result = .error .unfinished)

/-- The statements that count the processes: one for a group of them, none for a single one. -/
inductive Counts (t : Target) : List Event → Prop
  | alone (single : t.workers = false) : Counts t []
  | counted (group : t.workers = true) (reply : Reply) : Counts t [.asked t.workersQuery reply]

/-- What an answer of the helper leads to: the durations are asked for where it has returned over a
connection that is still open, a refusal that means no more than that the target is not active leads
to the next poll, and everything else is the end. -/
inductive Called (t : Target) (q : Query) (reply : Reply) :
    List Event → Except Stop Unit → Prop
  | measured (accepts : reply.accepts = true) (opens : reply.closes = false) {answer : Reply}
      {rest : List Event} {result : Except Stop Unit} :
      Called t q reply (.asked (durationQuery q) answer :: rest) result
  | lost (accepts : reply.accepts = true) (closes : reply.closes = true) {after : List Event}
      (finished : Teardown after) {failure : Failure} :
      Called t q reply after (.error (.failed failure))
  | unfit (unfit : Unfit reply) {after : List Event} {result : Except Stop Unit}
      (next : Onward t after result) : Called t q reply after result
  | refused (fit : ¬ Unfit reply) {error : DriverError} (refuses : reply.outcome = .refused error)
      {after : List Event} (finished : Teardown after) :
      Called t q reply after (.error (.failed (reply.meaning t.helperQuery error)))

/-- The places of statements in a trace that ends with `result`. -/
inductive Place (t : Target) (result : Except Stop Unit) :
    List Event → Statement → Reply → List Event → Prop
  | around {before after : List Event} {statement : Statement} {reply : Reply}
      (outer : statement.sql ∈ releaseQuery.sql :: (installing t.workers ++ dropping))
      (final : statement.sql ∉ releaseQuery.sql :: dropping → Final statement reply after result) :
      Place t result before statement reply after
  | poll {before after : List Event} {reply : Reply}
      (final : Final t.activityQuery reply after result)
      (gone : Misses reply → result = .error (.failed (.targetGone (some t.pid)))) :
      Place t result before t.activityQuery reply after
  | count {before after : List Event} {reply : Reply}
      (final : Final t.workersQuery reply after result) :
      Place t result before t.workersQuery reply after
  | helper (earlier : List Event) {counts after : List Event} {found reply : Reply} {q : Query}
      (finds : Finds found q) (counted : Counts t counts) (called : Called t q reply after result) :
      Place t result
        (earlier ++ .asked t.activityQuery found :: .printed q.newText :: counts)
        t.helperQuery reply after
  | duration (earlier : List Event) {counts after : List Event} {found helped reply : Reply}
      {q : Query} (finds : Finds found q) (counted : Counts t counts)
      (accepts : helped.accepts = true) (opens : helped.closes = false)
      (final : Final (durationQuery q) reply after result) :
      Place t result
        (earlier ++ .asked t.activityQuery found :: .printed q.newText ::
          (counts ++ [.asked t.helperQuery helped]))
        (durationQuery q) reply after

namespace Place

variable {t : Target} {result : Except Stop Unit} {before after : List Event}
  {statement : Statement} {reply : Reply}

/-- A place says nothing of what came long before. -/
theorem behind (h : Place t result before statement reply after) (earlier : List Event) :
    Place t result (earlier ++ before) statement reply after := by
  cases h with
  | around outer final => exact .around outer final
  | poll final gone => exact .poll final gone
  | count final => exact .count final
  | helper between finds counted called =>
    rw [← List.append_assoc]
    exact .helper _ finds counted called
  | duration between finds counted accepts opens final =>
    rw [← List.append_assoc]
    exact .duration _ finds counted accepts opens final

/-- Dropping the helper in the end changes no place. -/
theorem closed (h : Place t result before statement reply after) {closing : List Event}
    (drops : Teardown closing) : Place t result before statement reply (after ++ closing) := by
  have still : ∀ {statement : Statement}, Final statement reply after result →
      Final statement reply (after ++ closing) result := fun final error refuses =>
    ⟨(final error refuses).1.append drops, (final error refuses).2⟩
  cases h with
  | around outer final => exact .around outer fun inner => still (final inner)
  | poll final gone => exact .poll (still final) gone
  | count final => exact .count (still final)
  | helper earlier finds counted called =>
    refine .helper earlier finds counted ?_
    cases called with
    | measured accepts opens => exact .measured accepts opens
    | lost accepts closes finished => exact .lost accepts closes (finished.append drops)
    | unfit unfit next =>
      refine .unfit unfit (next.imp ?_ fun ⟨finished, ended⟩ => ⟨finished.append drops, ended⟩)
      rintro ⟨answer, rest, rfl⟩
      exact ⟨answer, rest ++ closing, rfl⟩
    | refused fit refuses finished => exact .refused fit refuses (finished.append drops)
  | duration earlier finds counted accepts opens final =>
    exact .duration earlier finds counted accepts opens (still final)

end Place

/-! ## Places in a turn -/

section Turns

variable {t : Target} {q : Query} {up left : Bool} {words more tally : List Event}
  {result : Except Stop Unit} {found : Reply}

/-- A refusal with which the run has ended is final. -/
theorem Final.of_over {statement : Statement} {reply : Reply} {error : DriverError}
    (refuses : reply.outcome = .refused error)
    (finished : more = [] ∧ result = .error (.failed (reply.meaning statement error))) :
    Final statement reply ([] ++ more) result := by
  obtain ⟨rfl, rfl⟩ := finished
  intro other refused
  cases refuses.symm.trans refused
  exact ⟨.nil, rfl⟩

theorem Counted.openAfter_eq (h : Counted t up tally left) : openAfter up tally = left := by
  cases h with
  | alone => simp [openAfter]
  | counted => simp [openAfter, Event.closes]

theorem Counted.counts (h : Counted t up tally left) : Counts t tally := by
  cases h with
  | alone single => exact .alone single
  | counted group => exact .counted group _

theorem Counted.places (h : Counted t up tally left) (earlier : List Event → List Event)
    (later : List Event → List Event) :
    Throughout (fun before statement reply after =>
      Place t result (earlier before) statement reply (later after)) tally := by
  cases h with
  | alone => exact .nil
  | counted _ accepts => exact .asked (.count (.of_accepts accepts)) .nil

/-- The helper stands behind the poll that found the query and behind the count. -/
theorem places_helper {reply : Reply} {rest : List Event} (finds : Finds found q)
    (counted : Counted t up tally left) (called : Called t q reply (rest ++ more) result)
    (further : Throughout (fun before statement answer after =>
      Place t result (.asked t.activityQuery found :: .printed q.newText ::
        (tally ++ .asked t.helperQuery reply :: before)) statement answer (after ++ more)) rest) :
    Throughout (fun before statement answer after =>
      Place t result (.asked t.activityQuery found :: .printed q.newText :: before) statement answer
        (after ++ more)) (tally ++ .asked t.helperQuery reply :: rest) := by
  refine .append (counted.places _ _) (.asked ?_ further)
  rw [List.append_nil]
  exact .helper [] finds counted.counts called

/-- Over an open connection the durations are asked for at once; over any other the trace fails. -/
theorem Reported.start {r : Except Stop Histogram} (h : Reported q up words r) :
    (up = true ∧ ∃ answer rest, words = .asked (durationQuery q) answer :: rest) ∨
      up = false ∧ words = [] ∧ ∃ failure, r = .error (.failed failure) := by
  cases h with
  | unsent => exact .inr ⟨rfl, rfl, _, rfl⟩
  | refused => exact .inl ⟨rfl, _, _, rfl⟩
  | told => exact .inl ⟨rfl, _, _, rfl⟩

theorem Reported.places {helped : Reply} {r : Except Stop Histogram} (h : Reported q up words r)
    (finds : Finds found q) (counted : Counts t tally) (accepts : helped.accepts = true)
    (opens : up = true → helped.closes = false)
    (finished : ∀ stop, r = .error stop → more = [] ∧ result = .error stop) :
    Throughout (fun before statement reply after =>
      Place t result
        (.asked t.activityQuery found :: .printed q.newText ::
          (tally ++ .asked t.helperQuery helped :: before))
        statement reply (after ++ more)) words := by
  cases h with
  | unsent => exact .nil
  | refused refuses =>
    exact .asked (.duration [] finds counted accepts (opens rfl)
      (.of_over refuses (finished _ rfl))) .nil
  | told answered printed =>
    exact .asked (.duration [] finds counted accepts (opens rfl)
      (.of_accepts answered)) printed.throughout

theorem Traced.places {r : Except Stop (Option Histogram)} (h : Traced t q up words r)
    (finds : Finds found q) (finished : ∀ stop, r = .error stop → more = [] ∧ result = .error stop)
    (next : ∀ a, r = .ok a → openAfter up words = true → Onward t more result) :
    Throughout (fun before statement reply after =>
      Place t result (.asked t.activityQuery found :: .printed q.newText :: before) statement reply
        (after ++ more)) words := by
  cases h with
  | failed gathered =>
    have finished := finished _ rfl
    cases gathered with
    | uncounted => exact .nil
    | countRefused _ refuses => exact .asked (.count (.of_over refuses finished)) .nil
    | uncountable _ accepts => exact .asked (.count (.of_accepts accepts)) .nil
    | unsent _ counted => exact counted.places _ _
    | refused counted refuses fit =>
      obtain ⟨rfl, rfl⟩ := finished
      exact places_helper finds counted (.refused fit refuses .nil) .nil
  | unfit gathered =>
    cases gathered with
    | unfit counted unfit =>
      refine places_helper finds counted (.unfit unfit (next none rfl ?_)) .nil
      rw [openAfter_append, counted.openAfter_eq]
      simp [openAfter, Event.closes, unfit.1]
  | reported gathered report =>
    cases gathered with
    | @helped _ counts helped counted accepts =>
      have left : openAfter up (counts ++ [.asked t.helperQuery helped]) = !helped.closes := by
        rw [openAfter_append, counted.openAfter_eq]
        simp [openAfter, Event.closes]
      rw [left] at report
      rw [List.append_assoc]
      refine places_helper finds counted ?_
        (report.places finds counted.counts accepts (by simp) ?_)
      · obtain ⟨opens, answer, rest, rfl⟩ | ⟨closes, rfl, failure, rfl⟩ := report.start
        · exact .measured accepts (by simpa using opens)
        · obtain ⟨rfl, rfl⟩ := finished _ rfl
          exact .lost accepts (by simpa using closes) .nil
      · rintro stop rfl
        exact finished stop rfl

/-- Every statement of a turn has its place, where the rest of the trace is as the turn left it. -/
theorem Turned.places {r : Except Stop Unit} (h : Turned t up words r)
    (finished : ∀ stop, r = .error stop → more = [] ∧ result = .error stop)
    (next : r = .ok () → openAfter up words = true → Onward t more result) :
    Throughout (fun before statement reply after => Place t result before statement reply
      (after ++ more)) words := by
  cases h with
  | failed polled =>
    have finished := finished _ rfl
    cases polled with
    | unsent => exact .nil
    | refused refuses =>
      refine .asked (.poll (.of_over refuses finished) ?_) .nil
      rintro ⟨set, brings, -⟩
      cases brings.symm.trans (Reply.set?_of_refused refuses)
    | unreadable accepts there =>
      exact .asked (.poll (.of_accepts accepts) fun misses => absurd misses there) .nil
    | gone misses =>
      obtain ⟨set, brings, -⟩ := misses
      exact .asked (.poll (.of_accepts (Reply.accepts_of_set? brings)) fun _ => finished.2)
        (.printed .nil)
  | idle polled =>
    cases polled with
    | idle accepts there =>
      exact .asked (.poll (.of_accepts accepts) fun misses => absurd misses there) .nil
  | @traced _ _ _ r polled traced =>
    cases polled with
    | active finds =>
      obtain ⟨set, row, brings, one, -⟩ := id finds
      refine .asked (.poll (.of_accepts (Reply.accepts_of_set? brings)) ?_) (.printed ?_)
      · rintro ⟨other, brought, none⟩
        cases brings.symm.trans brought
        exact absurd (one.symm.trans none) (by simp)
      · refine traced.places finds ?_ ?_
        · rintro stop rfl
          exact finished stop rfl
        · rintro a rfl opened
          rw [← openAfter_append] at opened
          exact next rfl opened

/-! ## Places in a trace -/

/-- Over an open connection a turn starts with a poll. -/
theorem Turned.start {r : Except Stop Unit} (h : Turned t true words r) :
    ∃ answer rest, words = .asked t.activityQuery answer :: rest := by
  generalize opened : true = up at h
  cases h with
  | failed polled =>
    cases polled with
    | unsent => cases opened
    | refused | unreadable | gone => exact ⟨_, _, rfl⟩
  | idle polled =>
    cases polled with
    | idle => exact ⟨_, _, rfl⟩
  | traced polled =>
    cases polled with
    | active => exact ⟨_, _, rfl⟩

/-- Over an open connection the turns go on with a poll, if they go on. -/
theorem Watching.onward (h : Watching t true words result) : Onward t words result := by
  generalize opened : true = up at h
  cases h with
  | unfinished => exact .inr ⟨.nil, .inr rfl⟩
  | interrupted => exact .inr ⟨.nil, .inl rfl⟩
  | failed turned =>
    subst opened
    exact .inl turned.start
  | turn turned =>
    subst opened
    obtain ⟨answer, rest, rfl⟩ := turned.start
    exact .inl ⟨answer, _, rfl⟩

/-- Every statement of the turns has its place. -/
theorem Watching.places (h : Watching t up words result) : Throughout (Place t result) words := by
  induction h with
  | unfinished | interrupted => exact .nil
  | failed turned =>
    have places : Throughout (fun before statement reply after =>
        Place t (.error _) before statement reply (after ++ [])) _ :=
      turned.places (fun _ same => ⟨rfl, by rw [← same]⟩) (fun same => by cases same)
    simpa only [List.append_nil] using places
  | turn turned rest ih =>
    refine .append (turned.places (fun _ same => by cases same) fun _ opened => ?_)
      (ih.mono fun before statement reply after place => place.behind _)
    rw [opened] at rest
    exact rest.onward

/-- Turns come to no normal end. -/
theorem Watching.endless (h : Watching t up words result) : result ≠ .ok () := by
  induction h with
  | unfinished | interrupted | failed => simp
  | turn _ _ ih => exact ih

/-- The target is gone only where a poll has missed it. -/
theorem Watching.gone {pid : Option Int}
    (h : Watching t up words (.error (.failed (.targetGone pid)))) :
    pid = some t.pid ∧ ∃ before reply after,
      words = before ++ .asked t.activityQuery reply :: after ∧ Misses reply := by
  generalize ended : (.error (.failed (.targetGone pid)) : Except Stop Unit) = result at h
  induction h with
  | unfinished => cases ended
  | interrupted => cases ended
  | failed turned =>
    cases ended
    obtain ⟨same, reply, after, rfl, misses⟩ := turned.missed
    exact ⟨same, [], reply, after, rfl, misses⟩
  | @turn _ words more _ _ _ ih =>
    obtain ⟨same, before, reply, after, rfl, misses⟩ := ih ended
    exact ⟨same, words ++ before, reply, after, (List.append_assoc _ _ _).symm, misses⟩

end Turns

end Trace

end PgVitals
