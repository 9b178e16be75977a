import PgVitals.Proofs.Session.Stretch
import Mathlib.Logic.Function.Basic
/-!
# Runs that share a server

Several runs that talk to one server take turns. In one turn the server executes a statement of one
run, and that run does all it makes of the answer, up to its next statement. What each run asks is
known once it is known how the server answers it; so the runs are lists of what they have before
them, and every order in which these lists can be used up is an order of turns. Which answers the
server can give at all depends on the turns before, and is a parameter.

* `Turn` is a statement of one of the runs with its answer, and `exchangesBy` what one run has
  exchanged in some turns.
* `Reached` is where the runs can come to: the turns so far, and what each run has left. It is an
  inductive relation with one rule for a turn, so a property of all orders of turns is proved by
  looking at one turn.
* `Reached.whole` says that in every order a run exchanges what it would by itself, and
  `Reached.before` that every turn was allowed by the server when it was taken.

The number of runs is not bounded, and nor is the order. What a run does between two statements
belongs to no turn; that is sound where it does nothing to the server then, and all that the runs
share is the server.
-/

namespace PgVitals

variable {ι β : Type}

/-- A turn: a statement of one of several runs, and the answer to it. -/
structure Turn (ι : Type) where
  run : ι
  statement : Statement
  reply : Reply

/-- What one of several runs has exchanged with the server in some turns. Turns are listed newest
first, exchanges oldest first. -/
def exchangesBy [DecidableEq ι] (i : ι) (log : List (Turn ι)) : List (Statement × Reply) :=
  ((log.filter fun turn => turn.run = i).map fun turn => (turn.statement, turn.reply)).reverse

/-- A run of which some exchanges are known took the last of them in a turn. -/
theorem of_exchangesBy_eq [DecidableEq ι] {i : ι} {log : List (Turn ι)} {statement : Statement}
    {reply : Reply} {first rest : List (Statement × Reply)}
    (h : exchangesBy i log = first ++ (statement, reply) :: rest) :
    ∃ later earlier, log = later ++ ⟨i, statement, reply⟩ :: earlier ∧
      exchangesBy i earlier = first ∧ exchangesBy i later = rest := by
  have turns := congrArg List.reverse h
  rw [exchangesBy, List.reverse_reverse, List.reverse_append, List.reverse_cons,
    List.append_assoc, List.singleton_append] at turns
  obtain ⟨behind, others, filtered, hrest, hothers⟩ := List.map_eq_append_iff.mp turns
  obtain ⟨⟨j, st, r⟩, before, rfl, same, hfirst⟩ := List.map_eq_cons_iff.mp hothers
  cases same
  obtain ⟨later, others, rfl, rfl, hothers⟩ := List.filter_eq_append_iff.mp filtered
  obtain ⟨between, earlier, rfl, foreign, mine, rfl⟩ := List.filter_eq_cons_iff.mp hothers
  obtain rfl : j = i := of_decide_eq_true mine
  have quiet : between.filter (fun turn => turn.run = j) = [] :=
    List.filter_eq_nil_iff.mpr foreign
  refine ⟨later ++ between, earlier, by rw [List.append_assoc], ?_, ?_⟩
  · rw [exchangesBy, hfirst, List.reverse_reverse]
  · rw [exchangesBy, List.filter_append, quiet, List.append_nil, hrest, List.reverse_reverse]

/-- What a run exchanges with the server. -/
def Run.exchanged {α : Type} (r : Run α) (w : Surroundings) (s : Session) :
    List (Statement × Reply) :=
  (r.perform w s).2.exchanges.drop s.exchanges.length

theorem Run.exchanged_eq {α : Type} {r : Run α} {w : Surroundings} {s : Session}
    {sent : List (Statement × Reply)} (h : (r.perform w s).2.exchanges = s.exchanges ++ sent) :
    r.exchanged w s = sent := by
  rw [exchanged, h, List.drop_left]

/-- Where several runs can come to that take turns: the turns so far, newest first, and what each
run has left before it. The server may answer a statement as `law` says. -/
inductive Reached [DecidableEq ι] (law : List (Turn ι) → Statement → Reply → Prop)
    (exchange : ι → β → Statement × Reply) (start : ι → List β) :
    List (Turn ι) → (ι → List β) → Prop
  | start : Reached law exchange start [] start
  | turn {log : List (Turn ι)} {left : ι → List β} {i : ι} {item : β} {rest : List β}
      (before : Reached law exchange start log left) (next : left i = item :: rest)
      (allowed : law log (exchange i item).1 (exchange i item).2) :
      Reached law exchange start (⟨i, (exchange i item).1, (exchange i item).2⟩ :: log)
        (Function.update left i rest)

namespace Reached

variable [DecidableEq ι] {law : List (Turn ι) → Statement → Reply → Prop}
  {exchange : ι → β → Statement × Reply} {start left : ι → List β} {log : List (Turn ι)}

/-- In every order of turns a run exchanges what it would by itself, and in the same order. -/
theorem whole (h : Reached law exchange start log left) (i : ι) :
    exchangesBy i log ++ (left i).map (exchange i) = (start i).map (exchange i) := by
  induction h with
  | start => rfl
  | @turn log left j item rest before next allowed ih =>
    by_cases same : j = i
    · subst same
      rw [next] at ih
      rw [Function.update_self, ← ih]
      simp [exchangesBy]
    · rw [Function.update_of_ne (Ne.symm same), ← ih]
      simp [exchangesBy, same]

/-- Before every turn the runs had come to where its run had it before it and the law allowed it. -/
theorem before (h : Reached law exchange start log left) {later earlier : List (Turn ι)}
    {turn : Turn ι} (split : log = later ++ turn :: earlier) :
    ∃ left item rest, Reached law exchange start earlier left ∧ left turn.run = item :: rest ∧
      exchange turn.run item = (turn.statement, turn.reply) ∧
      law earlier turn.statement turn.reply := by
  induction h generalizing later with
  | start => simp at split
  | turn before next allowed ih =>
    cases later with
    | nil =>
      cases split
      exact ⟨_, _, _, before, next, rfl, allowed⟩
    | cons newest later => exact ih (List.cons.inj split).2

end Reached

end PgVitals
