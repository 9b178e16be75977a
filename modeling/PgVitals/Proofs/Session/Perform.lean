import PgVitals.Session.Query
/-!
# Performing runs

A run is a function of its surroundings and the session it starts from. The equations below say what
each way of building a run does to the outcome and to the session, so that no later proof opens the
transformers a run is made of.

* `Run.perform_bind` and `Run.perform_rescue` are the two that carry the rest. What follows a run
  starts where that run ended, unless it stopped; and a handler sees failures only, so that a run
  that was cut short stays cut short.
* `Run.perform_bind_ok`, `Run.perform_bind_error` and `Run.perform_rescue_ok` are the same where it
  is known already how the first part ended. Proofs about a long run go through it with these, one
  statement at a time.
* `Run.perform_note`, `Run.perform_log`, `Run.perform_printLine` and `Run.perform_hold` are the
  single steps. All of them but the last add an event, after which the signals arrive that are due
  then.

The equations hold by unfolding, and they are the only place where that is done. Sending a statement
is no part of them: how a statement ends depends on the connection and on the answer, and is the
matter of `Proofs/Session/Asks`.
-/

namespace PgVitals

/-- Outcomes of runs can be compared. -/
instance decidableEqOutcome {ε α : Type} [DecidableEq ε] [DecidableEq α] :
    DecidableEq (Except ε α)
  | .error e, .error e' => decidable_of_iff (e = e') ⟨congrArg _, Except.error.inj⟩
  | .ok a, .ok b => decidable_of_iff (a = b) ⟨congrArg _, Except.ok.inj⟩
  | .error _, .ok _ => isFalse nofun
  | .ok _, .error _ => isFalse nofun

namespace Run

variable {α β : Type} {w : Surroundings} {s : Session}

@[simp]
theorem perform_pure (a : α) : (pure a : Run α).perform w s = (.ok a, s) := rfl

/-- What follows starts where the first run ended, unless that run stopped. -/
theorem perform_bind (r : Run α) (f : α → Run β) :
    (r >>= f).perform w s =
      match r.perform w s with
      | (.ok a, s') => (f a).perform w s'
      | (.error stop, s') => (.error stop, s') := by
  show (ExceptT.bindCont (fun a => f a w) (r w s).1) (r w s).2 = _
  rcases h : r w s with ⟨stop | a, s'⟩
  · simp only [perform, ReaderT.run, ExceptT.run, StateT.run, h]
    rfl
  · simp only [perform, ReaderT.run, ExceptT.run, StateT.run, h]
    rfl

/-- A handler sees failures only: a run that was cut short stays cut short. -/
theorem perform_rescue (r : Run α) (handle : Failure → Run α) :
    (rescue r handle).perform w s =
      match r.perform w s with
      | (.error (.failed failure), s') => (handle failure).perform w s'
      | ended => ended := by
  rcases h : r.perform w s with ⟨stop | a, s'⟩
  · simp only [perform, ReaderT.run, ExceptT.run, StateT.run] at h
    cases stop with
    | failed failure =>
      simp only [rescue, perform, tryCatch, tryCatchThe, MonadExceptOf.tryCatch, ReaderT.run,
        ExceptT.run, StateT.run, ExceptT.tryCatch, ExceptT.mk, bind, StateT.bind, h]
    | unfinished =>
      simp only [rescue, perform, tryCatch, tryCatchThe, MonadExceptOf.tryCatch, ReaderT.run,
        ExceptT.run, StateT.run, ExceptT.tryCatch, ExceptT.mk, bind, StateT.bind, h]
      rfl
  · simp only [perform, ReaderT.run, ExceptT.run, StateT.run] at h
    simp only [rescue, perform, tryCatch, tryCatchThe, MonadExceptOf.tryCatch, ReaderT.run,
      ExceptT.run, StateT.run, ExceptT.tryCatch, ExceptT.mk, bind, StateT.bind, h]
    rfl

theorem perform_bind_ok {r : Run α} {f : α → Run β} {a : α} {s' : Session}
    (h : r.perform w s = (.ok a, s')) : (r >>= f).perform w s = (f a).perform w s' := by
  rw [perform_bind, h]

theorem perform_bind_error {r : Run α} {f : α → Run β} {stop : Stop} {s' : Session}
    (h : r.perform w s = (.error stop, s')) : (r >>= f).perform w s = (.error stop, s') := by
  rw [perform_bind, h]

theorem perform_rescue_ok {r : Run α} {handle : Failure → Run α} {a : α} {s' : Session}
    (h : r.perform w s = (.ok a, s')) : (rescue r handle).perform w s = (.ok a, s') := by
  rw [perform_rescue, h]

theorem perform_map (f : α → β) (r : Run α) :
    (f <$> r).perform w s =
      match r.perform w s with
      | (.ok a, s') => (.ok (f a), s')
      | (.error stop, s') => (.error stop, s') := by
  rw [← bind_pure_comp, perform_bind]
  rcases r.perform w s with ⟨stop | a, s'⟩ <;> rfl

/-- How a run went is told, unless it was cut short. -/
theorem perform_attempt (r : Run α) :
    (attempt r).perform w s =
      match r.perform w s with
      | (.ok a, s') => (.ok (.ok a), s')
      | (.error (.failed failure), s') => (.ok (.error failure), s')
      | (.error .unfinished, s') => (.error .unfinished, s') := by
  rw [attempt, perform_rescue, ← bind_pure_comp, perform_bind]
  rcases r.perform w s with ⟨(failure | -) | a, s'⟩ <;> rfl

@[simp]
theorem perform_fail (failure : Failure) :
    (fail failure : Run α).perform w s = (.error (.failed failure), s) := rfl

@[simp]
theorem perform_get : (get : Run Session).perform w s = (.ok s, s) := rfl

@[simp]
theorem perform_read : (read : Run Surroundings).perform w s = (.ok w, s) := rfl

@[simp]
theorem perform_set (s' : Session) : (set s' : Run PUnit).perform w s = (.ok ⟨⟩, s') := rfl

@[simp]
theorem perform_modify (f : Session → Session) :
    (modify f : Run PUnit).perform w s = (.ok ⟨⟩, f s) := rfl

@[simp]
theorem perform_note (event : Event) : (note event).perform w s = (.ok (), s.after w event) := rfl

@[simp]
theorem perform_log (level : LogLevel) (text : String) :
    (log level text).perform w s = (.ok (), s.after w (.logged level text)) := rfl

theorem perform_printLine (text : String) :
    (printLine text).perform w s = (.ok (), s.after w (.printed (text ++ "\n"))) := rfl

theorem perform_ofFault_ok (a : α) : (ofFault (.ok a)).perform w s = (.ok a, s) := rfl

@[simp]
theorem perform_hold (change : Holdings → Holdings) :
    (hold change).perform w s = (.ok (), { s with holdings := change s.holdings }) := rfl

@[simp]
theorem perform_shutdownWanted :
    shutdownWanted.perform w s =
      (.ok (s.after w .looked).flags.shutdown, s.after w .looked) := rfl

end Run

end PgVitals
