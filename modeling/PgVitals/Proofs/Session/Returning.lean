import PgVitals.Proofs.Session.Answers
import PgVitals.Proofs.Session.Objects
/-!
# What a run has done when it returns

A run that returns has sent statements, all of which were answered, and printed a text. What it did
is put together from what its parts did, which all returned as well.

* `Went` relates the sessions before and after by the statements, with their answers, and the text.
  `Did` is the same where nothing changed about what the run has on the server.
* `Run.of_bind_returns` and `Run.of_rescue_returns` take a run that returned apart, so a proof goes
  through the text of a function from top to bottom. Where a handler always fails, what returns has
  not come to it.
* `Run.fetch_returns`, `Run.execute_returns` and `Run.forM_execute_returns` are the rules for
  statements, and `Run.printLine_returns` that for output.

This is about runs that return and about no others: nothing is said of what a run has done that
failed half way. For those there are grammars, in `Proofs/Session/Saying`.
-/

namespace PgVitals

/-! ## Output -/

/-- The text that some events printed, newest first. -/
def outputOf (events : List Event) : String := String.join (events.filterMap Event.output?).reverse

theorem outputOf_append (later earlier : List Event) :
    outputOf (later ++ earlier) = outputOf earlier ++ outputOf later := by
  simp only [outputOf, List.filterMap_append, List.reverse_append, String.join_append]

/-- Signals print nothing. -/
theorem outputOf_arrived (signals : List Signal) :
    outputOf (signals.map Event.arrived).reverse = "" := by
  have nothing : (signals.map Event.arrived).reverse.filterMap Event.output? = [] := by
    rw [List.filterMap_eq_nil_iff]
    intro event member
    obtain ⟨signal, -, rfl⟩ := List.mem_map.mp (List.mem_reverse.mp member)
    rfl
  rw [outputOf, nothing]
  rfl

/-! ## Doing -/

/-- From one session to another some statements were answered and a text was printed. -/
structure Went (w : Surroundings) (s : Session) (sent : List (Statement × Reply))
    (printed : String) (s' : Session) : Prop where
  exchanges : s'.exchanges = s.exchanges ++ sent
  replied : ∀ statement reply, (statement, reply) ∈ sent →
    ∃ earlier, reply = w.reply earlier statement
  output : s'.output = s.output ++ printed

/-- Meanwhile nothing changed about what the run has on the server. -/
structure Did (w : Surroundings) (s : Session) (sent : List (Statement × Reply))
    (printed : String) (s' : Session) : Prop extends Went w s sent printed s' where
  holdings : s'.holdings = s.holdings

variable {w : Surroundings} {s s' s'' : Session} {sent more : List (Statement × Reply)}
  {printed further : String}

theorem Went.trans (h₁ : Went w s sent printed s') (h₂ : Went w s' more further s'') :
    Went w s (sent ++ more) (printed ++ further) s'' where
  exchanges := by rw [h₂.exchanges, h₁.exchanges, List.append_assoc]
  replied := by
    intro statement reply member
    rcases List.mem_append.mp member with member | member
    · exact h₁.replied statement reply member
    · exact h₂.replied statement reply member
  output := by rw [h₂.output, h₁.output, String.append_assoc]

namespace Did

theorem rest : Did w s [] "" s where
  exchanges := (List.append_nil _).symm
  replied := nofun
  output := String.append_empty.symm
  holdings := rfl

theorem trans (h₁ : Did w s sent printed s') (h₂ : Did w s' more further s'') :
    Did w s (sent ++ more) (printed ++ further) s'' :=
  ⟨h₁.toWent.trans h₂.toWent, h₂.holdings.trans h₁.holdings⟩

/-- The events of a stretch tell what was sent and printed. -/
theorem of_stretch {A : Statement → Prop} {new : List Event} (stretch : Stretch w A s new s')
    (holdings : s'.holdings = s.holdings) : Did w s (exchangesOf new) (outputOf new) s' where
  exchanges := by
    rw [Session.exchanges, stretch.past, exchangesOf_append]
    rfl
  replied := fun statement reply member =>
    (stretch.asked statement reply (mem_exchangesOf.mp member)).2
  output := by
    show outputOf s'.past = outputOf s.past ++ outputOf new
    rw [stretch.past, outputOf_append]
  holdings := holdings

end Did

theorem Session.holdings_receiveAll (signals : List Signal) :
    (s.receiveAll signals).holdings = s.holdings := by
  induction signals generalizing s with
  | nil => rfl
  | cons signal signals ih => exact ih (s := s.receive signal)

theorem Session.holdings_after (event : Event) : (s.after w event).holdings = s.holdings :=
  Session.holdings_receiveAll (s := { s with past := event :: s.past }) _

theorem Session.holdings_answered (statement : Statement) :
    (s.answered w statement).holdings = s.holdings := by
  unfold Session.answered
  dsimp only
  split
  · rw [Session.holdings_receiveAll, Session.holdings_receiveAll]
  · rw [Session.holdings_receiveAll, Session.holdings_receiveAll]

/-- A statement that is answered is all that happens, but for signals. -/
theorem Did.answered (statement : Statement) :
    Did w s [(statement, w.reply s.past statement)] "" (s.answered w statement) := by
  obtain ⟨due, stretch⟩ := Stretch.answered (w := w) (s := s) statement
  -- The events are the statement and the signals that came with it.
  have did := Did.of_stretch stretch (Session.holdings_answered statement)
  rw [exchangesOf_append, outputOf_append, outputOf_arrived, exchangesOf_silent (.arrived _)] at did
  exact did

/-- A note adds nothing but what it prints. -/
theorem Did.after (event : Event) (note : event.isNote = true) :
    Did w s [] (event.output?.getD "") (s.after w event) := by
  obtain ⟨signals, stretch⟩ := Stretch.note (w := w) (s := s) event note
  have did := Did.of_stretch stretch (Session.holdings_after event)
  rw [exchangesOf_silent stretch.silent, outputOf_append, outputOf_arrived,
    String.append_empty] at did
  have printed : outputOf [event] = event.output?.getD "" := by
    cases event with
    | printed text =>
      show "" ++ text = text
      exact String.empty_append
    | _ => rfl
  rwa [printed] at did

namespace Run

variable {α β : Type}

/-! ## Returning -/

/-- A run that returns has gone through both of its parts. -/
theorem of_bind_returns {r : Run α} {f : α → Run β} {b : β}
    (h : (r >>= f).perform w s = (.ok b, s'')) :
    ∃ a s', r.perform w s = (.ok a, s') ∧ (f a).perform w s' = (.ok b, s'') := by
  rcases first : r.perform w s with ⟨stop | a, s'⟩
  · rw [perform_bind_error first] at h
    cases h
  · rw [perform_bind_ok first] at h
    exact ⟨a, s', rfl, h⟩

/-- Where a handler fails itself, what returns has not come to it. -/
theorem of_rescue_returns {r : Run α} {handle : Failure → Run α} {a : α}
    (fails : ∀ failure s₁ s₂ a, (handle failure).perform w s₁ ≠ (.ok a, s₂))
    (h : (rescue r handle).perform w s = (.ok a, s')) : r.perform w s = (.ok a, s') := by
  rw [perform_rescue] at h
  rcases first : r.perform w s with ⟨(failure | -) | b, s₁⟩
  -- A failure goes to the handler, and the handler does not return.
  · rw [first] at h
    exact absurd h (fails _ _ _ _)
  · rw [first] at h
    cases h
  · rw [first] at h
    exact h

theorem of_ofFault_returns {r : Except Fault α} {a : α}
    (h : (ofFault r).perform w s = (.ok a, s')) : r = .ok a ∧ s' = s := by
  cases r with
  | error fault => cases h
  | ok b =>
    cases h
    exact ⟨rfl, rfl⟩

theorem of_ofExcept_returns {r : Except Failure α} {a : α}
    (h : (ofExcept r).perform w s = (.ok a, s')) : r = .ok a ∧ s' = s := by
  cases r with
  | error failure => cases h
  | ok b =>
    cases h
    exact ⟨rfl, rfl⟩

theorem of_firstCell_returns {rows : List (List Value)} {cell : Value}
    (h : (firstCell rows).perform w s = (.ok cell, s')) :
    (∃ cells rest, rows = (cell :: cells) :: rest) ∧ s' = s := by
  unfold firstCell at h
  split at h
  · cases h
    exact ⟨⟨_, _, rfl⟩, rfl⟩
  · cases h

/-- A statement that brought something back was sent and answered. -/
theorem fetch_returns {statement : Statement} {set : ResultSet}
    (h : (fetch statement).perform w s = (.ok set, s')) :
    ∃ reply, reply.set? = some set ∧ Did w s [(statement, reply)] "" s' := by
  rcases answer : answer? w s statement with _ | found
  · obtain ⟨failure, s₁, failed⟩ := perform_fetch_unanswered answer
    rw [failed] at h
    cases h
  · rw [perform_fetch_answered answer] at h
    cases h
    refine ⟨w.reply s.past statement, ?_, Did.answered statement⟩
    unfold answer? at answer
    split at answer
    · exact answer
    · cases answer

theorem rows_returns {statement : Statement} {rows : List (List Value)}
    (h : (Run.rows statement).perform w s = (.ok rows, s')) :
    ∃ reply set, reply.set? = some set ∧ set.rows = rows ∧ Did w s [(statement, reply)] "" s' := by
  obtain ⟨set, s₁, fetched, rest⟩ := of_bind_returns h
  cases rest
  obtain ⟨reply, answered, did⟩ := fetch_returns fetched
  exact ⟨reply, set, answered, rfl, did⟩

theorem execute_returns {sql : String} (h : (execute sql).perform w s = (.ok (), s')) :
    ∃ reply, Did w s [(.plain sql, reply)] "" s' := by
  obtain ⟨set, s₁, fetched, rest⟩ := of_bind_returns h
  cases rest
  obtain ⟨reply, -, did⟩ := fetch_returns fetched
  exact ⟨reply, did⟩

theorem printLine_returns {text : String} (h : (printLine text).perform w s = (.ok (), s')) :
    Did w s [] (text ++ "\n") s' := by
  cases h
  exact Did.after (.printed (text ++ "\n")) rfl

theorem log_returns {level : LogLevel} {text : String}
    (h : (log level text).perform w s = (.ok (), s')) : Did w s [] "" s' := by
  cases h
  exact Did.after (.logged level text) rfl

/-- Changing what the run has on the server sends and prints nothing. -/
theorem hold_returns {change : Holdings → Holdings}
    (h : (hold change).perform w s = (.ok (), s')) :
    Went w s [] "" s' ∧ s'.holdings = change s.holdings := by
  cases h
  exact ⟨⟨(List.append_nil _).symm, nofun, String.append_empty.symm⟩, rfl⟩

/-- Statements that are executed one after the other. -/
theorem forM_execute_returns {sqls : List String}
    (h : (sqls.forM execute).perform w s = (.ok (), s')) :
    ∃ sent, sent.map Prod.fst = sqls.map Statement.plain ∧ Did w s sent "" s' := by
  induction sqls generalizing s with
  | nil =>
    cases h
    exact ⟨[], rfl, .rest⟩
  | cons sql sqls ih =>
    obtain ⟨⟨⟩, s₁, first, rest⟩ := of_bind_returns h
    obtain ⟨reply, did⟩ := execute_returns first
    obtain ⟨sent, statements, others⟩ := ih rest
    refine ⟨(.plain sql, reply) :: sent, ?_, ?_⟩
    · rw [List.map_cons, List.map_cons, statements]
    · exact did.trans others

/-- Asking for the release takes one statement. -/
theorem fetchRelease_returns {release : Release}
    (h : fetchRelease.perform w s = (.ok release, s')) :
    ∃ reply, Did w s [(.plain "SELECT version()", reply)] "" s' := by
  obtain ⟨rows, s₁, asked, rest⟩ := of_bind_returns h
  -- The handler only gives a failure another name.
  have found : (Run.rows (.plain "SELECT version()")).perform w s = (.ok rows, s₁) := by
    refine of_rescue_returns ?_ asked
    intro failure s₁ s₂ rows
    split <;> nofun
  obtain ⟨reply, set, -, -, did⟩ := rows_returns found
  split at rest
  · cases rest
  · obtain ⟨cell, s₂, first, reading⟩ := of_bind_returns rest
    obtain ⟨-, rfl⟩ := of_firstCell_returns first
    obtain ⟨found, s₃, read, logging⟩ := of_bind_returns reading
    obtain ⟨-, rfl⟩ := of_ofExcept_returns read
    obtain ⟨⟨⟩, s₄, logged, returned⟩ := of_bind_returns logging
    cases returned
    exact ⟨reply, did.trans (log_returns logged)⟩

end Run

end PgVitals
