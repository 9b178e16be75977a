import PgVitals.Proofs.Monitor.Schedule
/-!
# How sampling ends

A run of the sampler returns only when it was given a number of samples and has printed them all.
Once the user is known to want the end, nothing is begun any more: the run ends where it is, with an
interruption, unless there was nothing left to do or the source has failed meanwhile.

* `Pace.Timed` are the intervals that a pause can compute with: a double, or a whole number that a
  double can come near to.
* `Ending` lists how a run ends: it returns, it is interrupted, the source has failed, or it was cut
  short. Each comes with what was printed and with what the run returns.
* `Cause.ends` says that with a terminal that can be measured and such an interval there is nothing
  else, and `Ended.ending` puts the list together.
* `Going.unbegun` says that nothing is begun any more once the flag is set.

Fewer than one sample cannot be asked for: a number below one counts as one. A user who wants the
end when the last sample is printed is not told so, since there is nothing left to interrupt.
-/

namespace PgVitals.Monitor

open Sampler

/-- An interval that is a double, or a whole number that a double can come near to. -/
def Pace.Timed (pace : Pace) : Prop :=
  (∃ x, pace.interval = .float x) ∨
    ∃ n x, pace.interval = .int n ∧ (Value.int n).toFloat = .ok x

/-- Numbers of these kinds can always be compared. -/
theorem before_int_int (m n : Int) : ∃ b, (Value.int m).before (.int n) = .ok b := by
  simp [Value.before, Value.magnitude?, Value.Magnitude.compare]

theorem before_int_float (n : Int) (x : Float) :
    ∃ b, (Value.int n).before (.float x) = .ok b := by
  simp only [Value.before, Value.magnitude?]
  cases Number.Binary.ofFloat x <;> simp [Value.Magnitude.compare, Value.isDecimal]

theorem Pace.Timed.waitable {pace : Pace} (timed : pace.Timed) : Waitable pace.interval := by
  rcases timed with double | ⟨n, x, whole, converts⟩
  · exact .inl double
  · have rest : afterSlice (.int n) = .ok (Number.roundPlaces 6 (x - slice)) := by
      simp only [afterSlice]
      rw [converts]
      rfl
    rw [whole]
    exact .inr ⟨before_int_int 0 n, before_int_float n slice, _, rest⟩

section

variable {σ : Type} (source : Source σ) (pace : Pace) (w : Surroundings) (s : Session)

/-- How a run of the sampler ends that starts from the session `s` and has come to the session `t'`:
what it returns, and its course. -/
inductive Ending (new : List Event) (t' : Session) :
    Except Stop Unit → Except Stop Course → Prop
  /-- It returns when it was given a number of samples and has printed that many, but at least one;
  and there was no header without a sample below it. -/
  | returned {visited : List Sampler} {last : Sampler} (phase : last.phase = .done) (n : Int)
      (count : pace.count = some n) (samples : ((seen new).samples : Int) = max 1 n)
      (header : 1 ≤ (seen new).headers) (headers : (seen new).headers ≤ (seen new).samples) :
      Ending new t' (.ok ()) (.ok ⟨visited, last, none⟩)
  /-- It is interrupted when the user wants the end before that. -/
  | interrupted {visited : List Sampler} {last : Sampler} (phase : last.phase = .done)
      (wanted : s.flagged new = true)
      (left : ∀ n, pace.count = some n → ((seen new).samples : Int) < max 1 n) :
      Ending new t' (.error (.failed (.interrupted .signal)))
        (.ok ⟨visited, last, some (.interrupted .signal)⟩)
  /-- A failure of the source ends it as it is. -/
  | raised {visited : List Sampler} {last : Sampler} (failure : Failure)
      (broken : Broken source w s (.failed failure) new t') :
      Ending new t' (.error (.failed failure)) (.ok ⟨visited, last, some failure⟩)
  /-- It is cut short only after it has looked at the flag many times, and the flag was not set. -/
  | cut (many : w.patience ≤ looks s new) :
      Ending new t' (.error .unfinished) (.error .unfinished)

end

variable {σ : Type} {source : Source σ} {height : Run Int} {pace : Pace} {w : Surroundings}
  {s t : Session} {new : List Event}

/-- With a terminal and an interval as they should be, only the source can fail. -/
theorem Cause.ends {stop : Stop} (cause : Cause source height pace w s new t stop)
    (proper : source.Proper) (readable : ∀ w t, ∃ rows t', height.perform w t = (.ok rows, t'))
    (timed : pace.Timed) :
    (∃ failure, stop = .failed failure ∧ Broken source w s (.failed failure) new t) ∨
      stop = .unfinished ∧ w.patience ≤ looks s new := by
  cases cause with
  | broken broken =>
    cases stop with
    | failed failure => exact .inl ⟨failure, rfl, broken⟩
    | unfinished =>
      obtain ⟨-, -, sample, -, state, u, -, -, -, asked⟩ := broken
      exact absurd (congrArg Prod.fst asked) ((proper.ask sample state).ends w u)
  | unmeasured u failed =>
    obtain ⟨rows, u', read⟩ := readable w u
    exact nomatch failed.symm.trans read
  | unwaitable failure not => exact absurd timed.waitable not
  | cut many => exact .inr ⟨rfl, many⟩

/-- A run that is done has printed as many samples as it was given, but at least one. -/
theorem Stands.finished {x : Sampler} (stands : Stands pace (seen new) x) (phase : x.phase = .done)
    (counted : Counted pace (seen new)) :
    ∃ n, pace.count = some n ∧ ((seen new).samples : Int) = max 1 n ∧
      1 ≤ (seen new).headers ∧ (seen new).headers ≤ (seen new).samples := by
  have inPhase := stands.inPhase
  rw [phase] at inPhase
  cases inPhase with
  | @done n after count reached =>
    have bounds := counted.sampled after
    have limit := counted.limit n count
    exact ⟨n, count, by omega, bounds⟩

/-- How a run ends, and what it returns. -/
theorem Ended.ending {ended : Except Stop Course} (ends : Ended source height pace w s new t ended)
    (counted : Counted pace (seen new)) (proper : source.Proper)
    (readable : ∀ w t, ∃ rows t', height.perform w t = (.ok rows, t')) (timed : pace.Timed) :
    Ending source pace w s new t (ended.bind Course.outcome) ended := by
  cases ends with
  | done phase stands =>
    obtain ⟨n, count, samples, header, headers⟩ := stands.finished phase counted
    exact .returned phase n count samples header headers
  | interrupted phase wanted room =>
    refine .interrupted phase wanted fun n count => ?_
    have left := room n count
    omega
  | failed cause =>
    rcases cause.ends proper readable timed with ⟨failure, same, broken⟩ | ⟨same, -⟩
    · rw [← same] at broken
      exact .raised _ broken
    · cases same
  | cut cause =>
    rcases cause.ends proper readable timed with ⟨failure, same, -⟩ | ⟨-, many⟩
    · cases same
    · exact .cut many

end PgVitals.Monitor
