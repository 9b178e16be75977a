import PgVitals.Proofs.Interruption
import PgVitals.Proofs.Session.Returning
import PgVitals.Proofs.Session.Together
/-!
# Traces that share a server

Traces on one database share the schema of their helper, and every one of them drops it in the end.
So a trace that has built its helper finds it there until another trace is done, and no longer; and
a trace that could not even create the schema drops one that was there before. How far the helper of
a trace can be relied on is said here exactly.

* `Installed` is what there is of the helper on the server, and `installed` reads it off some turns:
  creating the schema keeps one that is there, creating the function replaces one that is there, and
  with the schema its function goes.
* `installed_kept_iff` says that over some turns a helper that is there stays there exactly when its
  schema is not dropped.
* `Sharing.built` finds the turn in which a trace has finished building, and `drops_iff_of_failed`
  says that a trace that could not build its helper drops the schema exactly where its connection is
  still open.
* `Shares` is both for any number of traces, after any turns.

Of the server it is known only that it creates no function where there is no schema, `NeedsSchema`;
it may refuse any statement for reasons of its own. What a trace does while its helper is there is
any `Lasting` run, so nothing here depends on what is traced. At the end two traces take the helper
away from one another.
-/

namespace PgVitals.Trace

variable {ι α : Type} {w : Surroundings} {s s' : Session}

/-! ## The helper of all traces -/

/-- What there is of the helper on a server. -/
structure Installed where
  schema : Bool
  function : Bool
deriving DecidableEq

/-- Nothing is missing of the helper. -/
def Installed.whole : Installed := ⟨true, true⟩

/-- Nothing is there of the helper. -/
def Installed.nothing : Installed := ⟨false, false⟩

/-- Whether a statement creates the function, in one form or the other. -/
def createsFunction (statement : Statement) : Bool :=
  statement.sql == createFunction false || statement.sql == createFunction true

/-- What a statement does to the helper. Creating the schema keeps one that is there, creating the
function replaces one that is there, and with the schema its function goes. -/
def Installed.after (on : Installed) (statement : Statement) (reply : Reply) : Installed :=
  if reply.accepts then
    if statement.sql == createSchema then { on with schema := true }
    else if createsFunction statement then { on with function := true }
    else if statement.sql == dropSchema then .nothing
    else on
  else on

/-- The helper after some turns, newest first. -/
def installed (before : Installed) : List (Turn ι) → Installed
  | [] => before
  | turn :: earlier => (installed before earlier).after turn.statement turn.reply

/-- What the server keeps to: it creates the function only where the schema is. It may refuse every
statement for other reasons. -/
def NeedsSchema (before : Installed) (log : List (Turn ι)) (statement : Statement) (reply : Reply) :
    Prop :=
  reply.accepts = true → createsFunction statement = true → (installed before log).schema = true

/-- Creating the function is told from the other statements of a trace by how it begins. -/
theorem createFunction_lead (workers : Bool) :
    (createFunction workers).toList.take 9 = "CREATE OR".toList := by
  rw [createFunction, String.toList_intercalate, List.map_cons]
  cases workers <;> rfl

theorem createsFunction_other {statement : Statement}
    (h : statement.sql.toList.take 9 ≠ "CREATE OR".toList) : createsFunction statement = false := by
  have other : ∀ workers, statement.sql ≠ createFunction workers := by
    intro workers same
    rw [same] at h
    exact h (createFunction_lead workers)
  simp [createsFunction, other]

/-- The law is about the function only. -/
theorem NeedsSchema.other {before : Installed} {log : List (Turn ι)} {statement : Statement}
    {reply : Reply} (h : createsFunction statement = false) :
    NeedsSchema before log statement reply :=
  fun _ creates => absurd (h.symm.trans creates) Bool.false_ne_true

section

variable {on : Installed} {statement : Statement} {reply : Reply}

theorem Installed.after_refused (refused : reply.accepts = false) :
    on.after statement reply = on := by
  simp [after, refused]

theorem Installed.after_dropped (accepts : reply.accepts = true)
    (drops : statement.sql = dropSchema) : on.after statement reply = .nothing := by
  have schema : dropSchema ≠ createSchema := by decide
  have function : createsFunction statement = false := by
    exact createsFunction_other (by rw [drops]; decide)
  simp [after, accepts, drops, schema, function]

theorem Installed.after_function (accepts : reply.accepts = true)
    (creates : createsFunction statement = true) (there : on.schema = true) :
    on.after statement reply = .whole := by
  have schema : statement.sql ≠ createSchema := by
    intro same
    have other : createsFunction statement = false :=
      createsFunction_other (by rw [same]; decide)
    exact absurd (other.symm.trans creates) Bool.false_ne_true
  simp [after, accepts, creates, schema, there, whole]

/-- Only dropping the schema takes anything away. -/
theorem Installed.whole_after (kept : statement.sql = dropSchema → reply.accepts = false) :
    whole.after statement reply = whole := by
  cases accepts : reply.accepts with
  | false => exact after_refused accepts
  | true =>
    have other : statement.sql ≠ dropSchema :=
      fun same => absurd ((kept same).symm.trans accepts) Bool.false_ne_true
    simp [after, accepts, other, whole]

end

/-- A helper that is there stays until its schema is dropped. -/
theorem installed_kept {before : Installed} {since log : List (Turn ι)}
    (there : installed before log = .whole)
    (kept : ∀ turn ∈ since, turn.statement.sql = dropSchema → turn.reply.accepts = false) :
    installed before (since ++ log) = .whole := by
  induction since with
  | nil => exact there
  | cons turn since ih =>
    have rest := ih fun t ht => kept t (List.mem_cons_of_mem _ ht)
    rw [List.cons_append, installed, rest]
    exact Installed.whole_after (kept turn List.mem_cons_self)

/-- Over some turns a helper that is there stays there exactly when its schema is not dropped. -/
theorem installed_kept_iff {before : Installed} {later log : List (Turn ι)}
    (there : installed before log = .whole) :
    (∀ since, since <:+ later → installed before (since ++ log) = .whole) ↔
      ∀ turn ∈ later, turn.statement.sql = dropSchema → turn.reply.accepts = false := by
  constructor
  · intro stays turn member drops
    obtain ⟨front, since, rfl⟩ := List.append_of_mem member
    have still := stays (turn :: since) (List.suffix_append _ _)
    -- Right after a turn that drops the schema nothing is there.
    cases accepts : turn.reply.accepts with
    | false => rfl
    | true =>
      rw [List.cons_append, installed, Installed.after_dropped accepts drops] at still
      exact absurd still nofun
  · intro kept since suffix
    exact installed_kept there fun turn member => kept turn (suffix.subset member)

/-! ## The exchanges of a trace -/

theorem execute_accepted {sql : String} (h : (Run.execute sql).perform w s = (.ok (), s')) :
    ∃ reply : Reply, reply.accepts = true ∧
      s'.exchanges = s.exchanges ++ [(.plain sql, reply)] := by
  have ends := Run.fetched w s (.plain sql)
  rw [Run.perform_execute] at h
  generalize (Run.fetch (.plain sql)).perform w s = p at ends h
  obtain ⟨result, s₁⟩ := p
  simp only at ends h
  cases ends with
  | unsent | refused => cases h
  | accepted up set accepts =>
    cases h
    exact ⟨_, accepts, Session.exchanges_answered _⟩

/-- A helper that is built took three statements, which were all accepted. -/
theorem install_returns {workers : Bool} (h : (install workers).perform w s = (.ok (), s')) :
    ∃ table schema function : Reply, function.accepts = true ∧
      s'.exchanges = s.exchanges ++ [(.plain createTable, table), (.plain createSchema, schema),
        (.plain (createFunction workers), function)] := by
  obtain ⟨⟨⟩, s₁, held, creating⟩ := Run.of_bind_returns h
  cases held
  obtain ⟨⟨⟩, s₂, first, creating⟩ := Run.of_bind_returns creating
  obtain ⟨⟨⟩, s₃, logged, creating⟩ := Run.of_bind_returns creating
  obtain ⟨⟨⟩, s₄, second, creating⟩ := Run.of_bind_returns creating
  obtain ⟨⟨⟩, s₅, third, logging⟩ := Run.of_bind_returns creating
  obtain ⟨table, -, madeTable⟩ := execute_accepted first
  obtain ⟨schema, -, madeSchema⟩ := execute_accepted second
  obtain ⟨function, accepts, madeFunction⟩ := execute_accepted third
  cases logged
  cases logging
  refine ⟨table, schema, function, accepts, ?_⟩
  rw [Session.exchanges_after rfl, madeFunction, madeSchema, Session.exchanges_after rfl, madeTable]
  simp [Session.exchanges]

/-- A helper that could not be built took statements, of which none dropped the schema; but from
then on there may be something to drop. -/
theorem install_fails {workers : Bool} {stop : Stop}
    (h : (install workers).perform w s = (.error stop, s')) :
    ∃ sent, s'.exchanges = s.exchanges ++ sent ∧ (∀ e ∈ sent, e.1.sql ≠ dropSchema) ∧
      s'.holdings.helper = true := by
  let held : Session := { s with holdings := { s.holdings with helper := true } }
  obtain ⟨new, stretch⟩ := (asks_create workers).stretch w held
  have begins : (install workers).perform w s = (create workers).perform w held := by
    rw [install_eq, Run.perform_bind, Run.perform_hold]
  rw [← begins, h] at stretch
  refine ⟨exchangesOf new, ?_, ?_, stretch.helper⟩
  · rw [Session.exchanges, stretch.past, exchangesOf_append]
    rfl
  · rintro ⟨statement, reply⟩ member
    exact (stretch.asked statement reply (mem_exchangesOf.mp member)).1

/-- What a run has exchanged before stays exchanged. -/
def Lasting (r : Run α) : Prop :=
  ∀ w s, ∃ sent, (r.perform w s).2.exchanges = s.exchanges ++ sent

theorem lasting_run (t : Target) : Lasting (run t) := by
  intro w s
  obtain ⟨new, stretch⟩ := run_stretch w s t
  refine ⟨exchangesOf new, ?_⟩
  rw [Session.exchanges, stretch.past, exchangesOf_append]
  rfl

/-- What is exchanged when a block is left comes behind what was exchanged in it. Where there is
something to drop, the schema is dropped over an open connection. -/
theorem exchanges_withHelper (w : Surroundings) (s : Session) (workers : Bool) (body : Run α) :
    let left := (block workers body).perform w s
    ∃ dropping, ((withHelper workers body).perform w s).2.exchanges =
        left.2.exchanges ++ dropping ∧
      (DropDue left → ((∃ reply, (.plain dropSchema, reply) ∈ dropping) ↔ left.2.link = .up)) := by
  intro left
  have torn := withHelper_tornDown w s workers body
  by_cases due : DropDue left ∧ left.2.link = .up
  · refine ⟨_, torn.dropped due.1 due.2, fun _ => iff_of_true ⟨_, List.mem_cons_self⟩ due.2⟩
  · refine ⟨[], ?_, fun held => iff_of_false (by simp) fun up => due ⟨held, up⟩⟩
    rw [List.append_nil]
    by_cases held : DropDue left
    · exact torn.silent fun up => due ⟨held, up⟩
    · exact torn.kept held

/-- What a trace exchanges begins with what it exchanged in its block, and so with what it exchanged
while it built its helper. -/
theorem exchanged_withHelper {workers : Bool} {body : Run α} (lasting : Lasting body)
    {result : Except Stop Unit} (h : (install workers).perform w s = (result, s'))
    {sent : List (Statement × Reply)} (made : s'.exchanges = s.exchanges ++ sent) :
    ∃ rest, (withHelper workers body).exchanged w s = sent ++ rest := by
  obtain ⟨dropping, dropped, -⟩ := exchanges_withHelper w s workers body
  rw [block, Run.perform_bind, h] at dropped
  cases result with
  | error stop => exact ⟨dropping, Run.exchanged_eq (by rw [dropped, made, List.append_assoc])⟩
  | ok _ =>
    obtain ⟨more, later⟩ := lasting w s'
    refine ⟨more ++ dropping, Run.exchanged_eq ?_⟩
    rw [dropped, later, made]
    simp

/-- A trace that could not build its helper drops the schema exactly where its connection is still
open. -/
theorem drops_iff_of_failed {workers : Bool} {body : Run α} {failure : Failure}
    (h : (install workers).perform w s = (.error (.failed failure), s')) :
    (∃ reply, (.plain dropSchema, reply) ∈ (withHelper workers body).exchanged w s) ↔
      s'.link = .up := by
  obtain ⟨dropping, dropped, drops⟩ := exchanges_withHelper w s workers body
  obtain ⟨sent, made, others, held⟩ := install_fails h
  have left : (block workers body).perform w s = (.error (.failed failure), s') :=
    Run.perform_bind_error h
  rw [left] at dropped drops
  have exchanged : (withHelper workers body).exchanged w s = sent ++ dropping :=
    Run.exchanged_eq (by rw [dropped, made, List.append_assoc])
  rw [exchanged, ← drops held]
  constructor
  · rintro ⟨reply, member⟩
    rcases List.mem_append.mp member with member | member
    · exact absurd rfl (others _ member)
    · exact ⟨reply, member⟩
  · rintro ⟨reply, member⟩
    exact ⟨reply, List.mem_append_right _ member⟩

/-! ## All turns -/

section

variable [DecidableEq ι]

/-- Where several traces can come to that share a server. -/
abbrev Sharing (workers : ι → Bool) (body : ι → Run α) (w : ι → Surroundings) (s : ι → Session)
    (before : Installed) : List (Turn ι) → (ι → List (Statement × Reply)) → Prop :=
  Reached (NeedsSchema before) (fun _ => id) fun i =>
    (withHelper (workers i) (body i)).exchanged (w i) (s i)

variable {workers : ι → Bool} {body : ι → Run α} {w : ι → Surroundings} {s : ι → Session}
  {before : Installed} {log : List (Turn ι)} {left : ι → List (Statement × Reply)}

/-- Once a trace has built its helper, the turn in which it did so is known, and then the helper was
there. -/
theorem Sharing.built (h : Sharing workers body w s before log left) {i : ι}
    (lasting : Lasting (body i))
    (returns : ((install (workers i)).perform (w i) (s i)).1 = .ok ())
    (done : 3 ≤ (exchangesBy i log).length) :
    ∃ later function earlier,
      log = later ++ ⟨i, .plain (createFunction (workers i)), function⟩ :: earlier ∧
      (exchangesBy i earlier).length = 2 ∧
      installed before (⟨i, .plain (createFunction (workers i)), function⟩ :: earlier) =
        .whole := by
  rcases hi : (install (workers i)).perform (w i) (s i) with ⟨result, s₁⟩
  rw [hi] at returns
  obtain rfl : result = .ok () := returns
  obtain ⟨table, schema, function, accepts, made⟩ := install_returns hi
  obtain ⟨rest, course⟩ := exchanged_withHelper lasting hi made
  have whole := h.whole i
  rw [List.map_id, List.map_id, course] at whole
  -- The turns taken begin with the three that built the helper.
  obtain ⟨more, taken⟩ := List.prefix_of_prefix_length_le (List.prefix_append _ rest)
    (Exists.intro _ whole) done
  have begins : exchangesBy i log = [(.plain createTable, table), (.plain createSchema, schema)] ++
      (.plain (createFunction (workers i)), function) :: more := taken.symm
  obtain ⟨later, earlier, split, begun, -⟩ := of_exchangesBy_eq begins
  obtain ⟨_, _, _, -, -, -, lawful⟩ := h.before split
  have creates : createsFunction (.plain (createFunction (workers i))) = true := by
    cases workers i <;> simp [createsFunction, Statement.plain]
  exact ⟨later, function, earlier, split, by rw [begun]; rfl,
    Installed.after_function accepts creates (lawful accepts creates)⟩

/-- How the helper fares that several traces share, after the turns in `log`. -/
structure Shares (workers : ι → Bool) (body : ι → Run α) (w : ι → Surroundings) (s : ι → Session)
    (before : Installed) (log : List (Turn ι)) (left : ι → List (Statement × Reply)) : Prop where
  /-- What the traces have exchanged and what they have before them is what they exchange by
  themselves. -/
  whole : ∀ i, exchangesBy i log ++ left i =
    (withHelper (workers i) (body i)).exchanged (w i) (s i)
  /-- From the moment a trace has built its helper until it drops it, the helper is there exactly as
  long as no other trace has dropped the schema. -/
  stands : ∀ i, ((install (workers i)).perform (w i) (s i)).1 = .ok () →
    3 ≤ (exchangesBy i log).length → (∀ e ∈ exchangesBy i log, e.1.sql ≠ dropSchema) →
    ∃ later function earlier,
      log = later ++ ⟨i, .plain (createFunction (workers i)), function⟩ :: earlier ∧
      (exchangesBy i earlier).length = 2 ∧
      ((∀ since, since <:+ later →
          installed before
            (since ++ ⟨i, .plain (createFunction (workers i)), function⟩ :: earlier) = .whole) ↔
        ∀ turn ∈ later, turn.run ≠ i → turn.statement.sql = dropSchema →
          turn.reply.accepts = false)
  /-- A trace that could not build its helper, and so perhaps not even create the schema, drops the
  schema all the same where its connection is still open. -/
  failed : ∀ i failure s',
    (install (workers i)).perform (w i) (s i) = (.error (.failed failure), s') →
    ((∃ reply, (.plain dropSchema, reply) ∈
        (withHelper (workers i) (body i)).exchanged (w i) (s i)) ↔ s'.link = .up)
  /-- Whose the schema is does not matter: it is gone where the server drops it. -/
  removed : ∀ later i reply earlier, log = later ++ ⟨i, .plain dropSchema, reply⟩ :: earlier →
    (installed before earlier).schema = true →
    ((installed before (⟨i, .plain dropSchema, reply⟩ :: earlier)).schema = false ↔
      reply.accepts = true)

/-- However the statements of several traces interleave and whatever the server answers, the helper
of a trace is there until another trace drops the schema, and a trace that could not build its
helper drops the schema, too. -/
theorem helper_shared (workers : ι → Bool) (body : ι → Run α) (w : ι → Surroundings)
    (s : ι → Session) (before : Installed) (log : List (Turn ι))
    (left : ι → List (Statement × Reply)) (lasting : ∀ i, Lasting (body i))
    (h : Sharing workers body w s before log left) :
    Shares workers body w s before log left where
  whole i := by
    have whole := h.whole i
    rwa [List.map_id, List.map_id] at whole
  stands i returns done undropped := by
    obtain ⟨later, function, earlier, rfl, begun, there⟩ := h.built (lasting i) returns done
    refine ⟨later, function, earlier, rfl, begun, (installed_kept_iff there).trans ?_⟩
    refine ⟨fun kept turn member _ => kept turn member, fun kept turn member drops => ?_⟩
    -- The trace itself has not dropped the schema yet.
    refine kept turn member (fun mine => ?_) drops
    refine undropped (turn.statement, turn.reply) ?_ drops
    have taken : turn ∈ (later ++ ⟨i, .plain (createFunction (workers i)), function⟩ ::
        earlier).filter fun turn => turn.run = i :=
      List.mem_filter.mpr ⟨List.mem_append_left _ member, decide_eq_true mine⟩
    exact List.mem_reverse.mpr (List.mem_map.mpr ⟨turn, taken, rfl⟩)
  failed i failure s' fails := drops_iff_of_failed fails
  removed later i reply earlier split there := by
    rw [installed]
    cases accepts : reply.accepts with
    | false => rw [Installed.after_refused accepts, there]; decide
    | true => rw [Installed.after_dropped accepts rfl]; decide

end

/-- A process that is not there. -/
def goneTarget : Target := ⟨42, .float 1.0, false⟩

/-- A server that does what it is told, and on which nothing goes on. -/
def willing : Surroundings where
  reply _ _ := {}

/-- A server that refuses the first statement, with which a trace creates its table. -/
def untabled : Surroundings where
  reply past _ :=
    if past.isEmpty then
      { outcome := .refused ⟨.other, "permission denied", some "permission denied", some "42501"⟩ }
    else {}

/-- Two traces that both build their helpers, one after the other. -/
theorem bothBuilt :
    ∃ log left,
      Sharing (fun _ : Bool => false) (fun _ => run goneTarget) (fun _ => willing) (fun _ => {})
        .nothing log left ∧
      exchangesBy true log = [(.plain createTable, {}), (.plain createSchema, {}),
        (.plain (createFunction false), {})] ∧
      left false = [(goneTarget.activityQuery, {}), (.plain dropSchema, {}),
        (.plain dropTable, {})] := by
  have none : Sharing (fun _ : Bool => false) (fun _ => run goneTarget) (fun _ => willing)
      (fun _ => {}) .nothing [] _ := .start
  have table : createsFunction (.plain createTable) = false := createsFunction_other (by decide)
  have schema : createsFunction (.plain createSchema) = false := createsFunction_other (by decide)
  have one := Reached.turn (i := false) none rfl (.other table)
  have two := Reached.turn (i := false) one rfl (.other schema)
  have three := Reached.turn (i := false) two rfl fun _ _ => rfl
  have four := Reached.turn (i := true) three rfl (.other table)
  have five := Reached.turn (i := true) four rfl (.other schema)
  have six := Reached.turn (i := true) five rfl fun _ _ => rfl
  exact ⟨_, _, six, rfl, rfl⟩

theorem helper_shared_twoAtOnce :
    (∀ _ : Bool, Lasting (run goneTarget)) ∧
      ∃ log left,
        Sharing (fun _ : Bool => false) (fun _ => run goneTarget) (fun _ => willing)
          (fun _ => {}) .nothing log left ∧
        Shares (fun _ : Bool => false) (fun _ => run goneTarget) (fun _ => willing)
          (fun _ => {}) .nothing log left := by
  have lasting : ∀ _ : Bool, Lasting (run goneTarget) := fun _ => lasting_run _
  obtain ⟨log, left, sharing, -⟩ := bothBuilt
  exact ⟨lasting, log, left, sharing, helper_shared _ _ _ _ _ _ _ lasting sharing⟩

/-- A trace that is done takes the helper away from one that is not, and a trace that cannot even
create a table takes away a schema that was there before. -/
theorem helper_taken_away :
    (∃ log left,
      Sharing (fun _ : Bool => false) (fun _ => run goneTarget) (fun _ => willing)
        (fun _ => {}) .nothing log left ∧
      ((install false).perform willing {}).1 = .ok () ∧
      exchangesBy true log = [(.plain createTable, {}), (.plain createSchema, {}),
        (.plain (createFunction false), {})] ∧
      installed .nothing log = .nothing) ∧
    ∃ log left,
      Sharing (fun _ : Unit => false) (fun _ => run goneTarget) (fun _ => untabled)
        (fun _ => {}) .whole log left ∧
      (∃ failure s', (install false).perform untabled {} = (.error (.failed failure), s')) ∧
      (exchangesBy () log).map (·.1.sql) = [createTable, dropSchema] ∧
      installed .whole log = .nothing := by
  refine ⟨?_, ?_⟩
  · obtain ⟨log, left, built, three, next⟩ := bothBuilt
    have polled := Reached.turn built next (.other (createsFunction_other (by decide +kernel)))
    have dropped := Reached.turn (i := false) polled (Function.update_self ..)
      (.other (createsFunction_other (by decide)))
    refine ⟨_, _, dropped, rfl, three, ?_⟩
    rw [installed]
    exact Installed.after_dropped rfl rfl
  · have none : Sharing (fun _ : Unit => false) (fun _ => run goneTarget) (fun _ => untabled)
      (fun _ => {}) .whole [] _ := .start
    have table : createsFunction (.plain createTable) = false := createsFunction_other (by decide)
    have schema : createsFunction (.plain dropSchema) = false := createsFunction_other (by decide)
    have one := Reached.turn (i := ()) none rfl (.other table)
    have two := Reached.turn (i := ()) one rfl (.other schema)
    refine ⟨_, _, two, ⟨_, _, rfl⟩, rfl, ?_⟩
    rw [installed]
    exact Installed.after_dropped rfl rfl

end PgVitals.Trace
