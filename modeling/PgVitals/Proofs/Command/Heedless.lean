import PgVitals.Proofs.Command.Leaving
import PgVitals.Proofs.Refusals
import PgVitals.Proofs.Session.Heedless
import PgVitals.Proofs.Snapshot.Dumps
/-!
# Snapshots and signals

A snapshot never looks whether the user wants it to end. The handler of SIGINT is in place, so that
the signal does not end the program by itself, and nobody acts on the flag: the snapshot goes on to
its last view. Only a statement that the server refuses because it was cancelled ends it.

* `heedless_program` says of the whole program, with its options, its settings and its files, that
  signals make no difference to it. It is put together from `Snapshot.heedless_run` and what
  surrounds the snapshot, one lemma for each function.
* `halts_program` says that nothing is sent after a statement that was cancelled, and that the exit
  status is 1 then.
* `Unwritten` are parts of a run that write nothing, and `Snapshot.dump_eq` cuts a dump into such a
  part and the write behind it. So a dump that fails has written nothing, with one exception:
  `Quits` leaves room for the rows in front of one that cannot be written.

Signals are compared with their absence on servers that answer the same in both cases. Where SIGINT
leads the server to refuse a statement, the two servers differ, and the second half applies. At the
end SIGINT arrives before any view is queried, and all of them are dumped.
-/

namespace PgVitals

open Run

/-! ## No heed of signals -/

namespace Snapshot

open PgVitals.Catalog

theorem heedless_requireDirectory (directory : Value) : Heedless (requireDirectory directory) := by
  refine Agree.get fun s s' alike => ?_
  rw [alike.files]
  refine (Heedless.ofFault _).bind fun found => ?_
  split
  · exact .fail _
  · exact .pure _

theorem heedless_open (sink : Sink) (name : String) : Heedless (sink.open name) := by
  refine Agree.get fun s s' alike => ?_
  rw [alike.files]
  refine Agree.bind (Heedless.ofFault _) fun found => ?_
  exact Agree.bind (.set ⟨alike.handlers, alike.link, alike.holdings, rfl, alike.past⟩)
    fun _ => Heedless.pure _

theorem heedless_write (handle : Handle) (set : ResultSet) :
    Heedless (handle.writeOrFail set) := by
  refine Agree.read fun w w' worlds => ?_
  rw [worlds.writeRefusal]
  show Heedless _
  split
  · exact .fail _
  · refine Heedless.bind (.modify fun s s' alike => ?_) fun _ =>
      (Heedless.ofFault _).bind fun _ => .pure _
    rw [alike.files]
    exact ⟨alike.handlers, alike.link, alike.holdings, rfl, alike.past⟩

theorem heedless_dumpAll (sink : Sink) (release : Release) (views : List Template) :
    Heedless (dumpAll sink release views) := by
  have one : ∀ t, Heedless (dump sink t release) := fun t =>
    ((heedless_open sink t.name).rescue fun _ => .fail _).bind fun handle =>
      (Heedless.ofExcept _).bind fun statement => (Heedless.fetch statement).bind fun set =>
        (heedless_write handle set).bind fun _ => (Heedless.log _ _).bind fun _ => .pure _
  induction views with
  | nil => exact .pure _
  | cons t rest ih => exact (one t).bind fun _ => ih.bind fun _ => .pure _

theorem heedless_run (directory : Value) (quiet : Bool) : Heedless (run directory quiet) := by
  have superuser : Heedless isSuperuser := by
    refine (Heedless.rows _).bind fun rows => ?_
    split
    · exact .pure _
    · exact (Heedless.firstCell rows).bind fun _ => .pure _
  have capable : Heedless capabilities :=
    superuser.bind fun _ => (Heedless.rows _).bind fun _ => .pure _
  unfold run
  refine (heedless_requireDirectory directory).bind fun _ =>
    Heedless.fetchRelease.bind fun release => ?_
  split
  -- Where the release is printed, that comes first; the rest is the same.
  refine (Heedless.note _).bind fun _ => ?_
  all_goals
    refine capable.bind fun granted => Heedless.bind (.forM fun _ => .log _ _) fun _ => ?_
    split
    · exact .pure _
    · exact heedless_dumpAll _ _ _
    · exact .fail _

end Snapshot

theorem heedless_report (failure : Failure) : Heedless (Run.report failure) := by
  refine (Heedless.note _).bind fun _ => ?_
  split
  · exact .note _
  · exact .pure _

theorem heedless_endWith (failure : Failure) : Heedless (endWith failure) := by
  unfold endWith
  split
  · exact .fail _
  · exact .fail _
  · split
    · exact (heedless_report _).bind fun _ => .fail _
    · exact .fail _

/-- Goes on where a connection is not refused. -/
def orRefused (w : Surroundings) : Run Unit :=
  match w.refusal with
  | some text => Run.fail (.connection (.refused (Text.trim text)))
  | none => pure ()

/-- Goes on where a session can be configured; only one that just reads can fail to be. -/
def orUnconfigured (d : Dial) (w : Surroundings) : Run Unit :=
  match if d.readOnly then w.configurationError else none with
  | some text => do
    modify fun s => { s with link := .closed }
    Run.note .hungUp
    Run.fail (.connection (.notConfigured (Text.trim text)))
  | none => pure ()

theorem connect_eq (d : Dial) :
    Run.connect d = (do
      let w ← read
      Run.note (.dialled (d.parameters w.environment))
      orRefused w
      orUnconfigured d w
      Run.note (.configured d.readOnly)) := by
  refine congrArg (MonadReader.read >>= ·) (funext fun w => ?_)
  refine congrArg (Run.note _ >>= ·) (funext fun _ => ?_)
  unfold orRefused orUnconfigured
  cases w.refusal with
  | some text => rfl
  | none =>
    cases d.readOnly with
    | false => rfl
    | true => cases w.configurationError <;> rfl

theorem heedless_connect (d : Dial) : Heedless (Run.connect d) := by
  rw [connect_eq]
  refine Agree.read fun w w' worlds => ?_
  unfold orRefused orUnconfigured
  rw [worlds.environment, worlds.refusal, worlds.configurationError]
  refine (Heedless.note _).bind fun _ => Heedless.bind ?_ fun _ => Heedless.bind ?_ fun _ => .note _
  · split
    · exact .fail _
    · exact .pure _
  · split
    · exact (Heedless.modify fun _ _ alike => alike.linked _).bind fun _ =>
        (Heedless.note _).bind fun _ => .fail _
    · exact .pure _

theorem heedless_reportConnection (cause : ConnectionCause) (target : ConnectionSettings) :
    Heedless (Run.reportConnection cause target) := by
  refine (Heedless.note _).bind fun _ => (Heedless.note _).bind fun _ => ?_
  split
  · exact .note _
  · exact .pure _

theorem Access.heedless_connect (a : Access) : Heedless a.connect := by
  refine (PgVitals.heedless_connect a.dial).rescue fun failure => ?_
  split
  · exact (heedless_reportConnection _ _).bind fun _ => .fail _
  · exact .fail _

theorem Access.heedless_use (a : Access) {work : Run Unit} (hw : Heedless work) :
    Heedless (a.use work) :=
  .withHandlers _ (a.heedless_connect.bind fun _ => hw.thenAlways .hangUp)

theorem heedless_takeSnapshot (directory : Value) (quiet : Bool) :
    Heedless (takeSnapshot directory quiet) := by
  refine ((Snapshot.heedless_run directory quiet).bind fun _ => .pure _).rescue fun failure => ?_
  split
  · exact (heedless_report _).bind fun _ => .fail _
  · exact (heedless_report _).bind fun _ => .fail _
  · exact .fail _

theorem heedless_program (general : GeneralOptions) (o : SnapshotOptions) :
    Heedless (Invocation.perform ⟨general, .snapshot o⟩) := by
  refine (Heedless.note _).bind fun _ => Heedless.rescue ?_ heedless_endWith
  refine Agree.get fun s s' alike => Agree.read fun w w' worlds => ?_
  rw [alike.files, worlds.environment]
  refine (Heedless.ofExcept _).bind fun settings => ?_
  refine (Snapshot.heedless_requireDirectory _).bind fun _ => ?_
  refine Agree.read fun w w' worlds => ?_
  rw [worlds.environment]
  exact Access.heedless_use _ (heedless_takeSnapshot _ _)

/-! ## Cancelled statements -/

theorem halts_rows (statement : Statement) :
    Halts (.interrupted .cancelledQuery) (Run.rows statement) :=
  (Halts.fetch statement).bind fun _ => .of_mute (.pure _)

theorem halts_fetchRelease : Halts (.interrupted .cancelledQuery) Run.fetchRelease := by
  refine Halts.bind ((halts_rows _).rescue (fun cause => ?_) fun _ _ => rfl) fun rows => ?_
  · split <;> exact .fail _
  · split
    · exact .of_mute (.fail _)
    · exact .of_hushed ((Hushed.firstCell rows).bind fun cell =>
        (Hushed.ofExcept fun failure => ofCell_own).bind fun release => (Hushed.log _ _).map)

namespace Snapshot

open PgVitals.Catalog

theorem halts_dumpAll (sink : Sink) (release : Release) (views : List Template) :
    Halts (.interrupted .cancelledQuery) (dumpAll sink release views) := by
  have one : ∀ t, Halts (.interrupted .cancelledQuery) (dump sink t release) := fun t =>
    Halts.bind (.of_hushed ((hushed_open sink t.name).rescue
      fun _ own => .fail (openFailure_own own))) fun handle =>
      Halts.bind (.of_hushed (Hushed.ofExcept fun _ => render_own)) fun statement =>
      (Halts.fetch statement).bind fun set => .of_hushed ((hushed_write handle set).bind fun _ =>
        (Hushed.log _ _).bind fun _ => .pure _)
  induction views with
  | nil => exact .of_mute (.pure _)
  | cons t rest ih => exact (one t).bind fun _ => ih.bind fun _ => .of_mute (.pure _)

theorem halts_run (directory : Value) (quiet : Bool) :
    Halts (.interrupted .cancelledQuery) (run directory quiet) := by
  have superuser : Halts (.interrupted .cancelledQuery) isSuperuser := by
    refine (halts_rows _).bind fun rows => ?_
    split
    · exact .of_mute (.pure _)
    · exact .of_hushed ((Hushed.firstCell rows).bind fun _ => .pure _)
  have capable : Halts (.interrupted .cancelledQuery) capabilities :=
    superuser.bind fun _ => (halts_rows _).bind fun _ => .of_mute (.pure _)
  unfold run
  refine Halts.bind (.of_hushed (hushed_requireDirectory directory)) fun _ =>
    halts_fetchRelease.bind fun release => ?_
  split
  -- Where the release is printed, that comes first; the rest is the same.
  refine Halts.bind (.of_hushed (Hushed.printLine _)) fun _ => ?_
  all_goals
    refine capable.bind fun granted =>
      Halts.bind (.of_hushed (Hushed.forM fun _ => .log _ _)) fun _ => ?_
    split
    · exact .of_mute (.pure _)
    · exact halts_dumpAll _ _ _
    · exact .of_mute (.fail _)

end Snapshot

/-! ## What is written -/

namespace Snapshot

open PgVitals.Catalog PgVitals.Files

variable {w : Surroundings} {s s' : Session} {sink : Sink} {release : Release} {stop : Stop}

/-- Every file holds what it held, or nothing where there was none. -/
def Unwritten {α : Type} (r : Run α) : Prop :=
  ∀ w s l, (r.perform w s).2.files.held l = s.files.held l

namespace Unwritten

variable {α β : Type} {r : Run α} {f : α → Run β}

theorem pure (a : α) : Unwritten (Pure.pure a : Run α) := fun _ _ _ => rfl

theorem fail (failure : Failure) : Unwritten (Run.fail failure : Run α) := fun _ _ _ => rfl

theorem bind (hr : Unwritten r) (hf : ∀ a, Unwritten (f a)) : Unwritten (r >>= f) := by
  intro w s l
  have before := hr w s l
  rw [perform_bind]
  rcases ended : r.perform w s with ⟨stop | a, s'⟩ <;> rw [ended] at before
  · exact before
  · exact (hf a w s' l).trans before

theorem rescue {handle : Failure → Run α} (hr : Unwritten r)
    (hh : ∀ failure, Unwritten (handle failure)) : Unwritten (Run.rescue r handle) := by
  intro w s l
  have before := hr w s l
  rw [perform_rescue]
  rcases ended : r.perform w s with ⟨(failure | -) | a, s'⟩ <;> rw [ended] at before
  · exact (hh failure w s' l).trans before
  · exact before
  · exact before

theorem ofExcept (e : Except Failure α) : Unwritten (Run.ofExcept e) := by
  cases e with
  | error failure => exact fail failure
  | ok a => exact pure a

theorem fetch (statement : Statement) : Unwritten (Run.fetch statement) := by
  intro w s l
  have asks : Asks (fun _ => True) (Run.fetch statement) := .fetch trivial
  obtain ⟨new, stretch⟩ := asks.stretch w s
  rw [stretch.files]

/-- Opening a file makes it, and writes nothing. -/
theorem opens (sink : Sink) (name : String) : Unwritten (sink.open name) := by
  intro w s l
  rw [Sink.open, perform_bind_ok perform_get]
  unfold Tree.openAppend
  cases found : s.files.find (sink.path name) with
  | error fault => rfl
  | ok place =>
    cases place with
    | directory => rfl
    | file => rfl
    | vacant l' =>
      show (s.files.write l' (.text "")).held l = s.files.held l
      by_cases here : l = l'
      · subst here
        rw [Tree.held, Tree.held, Tree.content?_write_self, Tree.content?_of_find_vacant found]
        rfl
      · rw [Tree.held, Tree.held, Tree.content?_write_of_ne here]

end Unwritten

/-- What a dump does before it writes. -/
def query (sink : Sink) (t : Template) (release : Release) : Run (Handle × ResultSet) := do
  let handle ← Run.rescue (sink.open t.name) fun failure =>
    Run.fail (sink.openFailure t.name failure)
  let statement ← Run.ofExcept (t.render release .null)
  return (handle, ← Run.fetch statement)

theorem unwritten_query (sink : Sink) (t : Template) (release : Release) :
    Unwritten (query sink t release) :=
  ((Unwritten.opens sink t.name).rescue fun _ => .fail _).bind fun _ =>
    (Unwritten.ofExcept _).bind fun _ => (Unwritten.fetch _).bind fun _ => .pure _

theorem dump_eq (sink : Sink) (t : Template) (release : Release) :
    dump sink t release = (do
      let found ← query sink t release
      let count ← found.1.writeOrFail found.2
      Run.log .debug (t.name ++ ": " ++ Number.natText count ++ " row(s)")
      return count) := by
  simp only [dump, query, bind_assoc, pure_bind]

/-- A dump writes last of all, so one that fails has written nothing, unless it fails over a row
that cannot be written. -/
theorem held_dump {t : Template} (fails : (dump sink t release).perform w s = (.error stop, s'))
    (short : stop ≠ .failed (.fault .tooLongToWrite)) (l : Location) :
    s'.files.held l = s.files.held l := by
  have queried := unwritten_query sink t release w s l
  rw [dump_eq, perform_bind] at fails
  rcases asked : (query sink t release).perform w s with ⟨failure | ⟨handle, set⟩, s₁⟩ <;>
    rw [asked] at fails queried
  · cases fails
    exact queried
  · -- Only a refusal to write is left, and then nothing is written.
    simp only at fails
    cases refused : w.writeRefusal with
    | some reason =>
      have ended : (handle.writeOrFail set).perform w s₁ =
          (.error (.failed (.sink (.notWritten handle.path reason))), s₁) := by
        rw [Handle.writeOrFail, perform_bind_ok perform_read, refused]
        rfl
      rw [perform_bind_error ended] at fails
      cases fails
      exact queried
    | none =>
      have ended : (handle.writeOrFail set).perform w s₁ = (handle.write set).perform w s₁ := by
        rw [Handle.writeOrFail, perform_bind_ok perform_read, refused]
      rw [perform_bind, ended, handle.perform_write, writeOutcome] at fails
      by_cases whole : set.rows.all Csv.isWritable = true
      · rw [if_pos whole] at fails
        cases fails
      · rw [if_neg whole] at fails
        cases fails
        exact absurd rfl short

/-- Some views were dumped, and one more was tried, without anything written, but for the rows in
front of one that cannot be. -/
def Quits (sink : Sink) (release : Release) (views : List Template) (w : Surroundings)
    (s : Session) (stop : Stop) (s' : Session) : Prop :=
  ∃ before t after names mid, views = before ++ t :: after ∧
    (dumpAll sink release before).perform w s = (.ok names, mid) ∧
    (stop ≠ .failed (.fault .tooLongToWrite) → ∀ l, s'.files.held l = mid.files.held l)

theorem dumpAll_quits {views : List Template}
    (fails : (dumpAll sink release views).perform w s = (.error stop, s')) :
    Quits sink release views w s stop s' := by
  obtain ⟨before, t, after, names, mid, split, done, last⟩ := dumpAll_failed fails
  exact ⟨before, t, after, names, mid, split, done, held_dump last⟩

end Snapshot

theorem mute_report (failure : Failure) : Mute (Run.report failure) := by
  refine (Mute.note rfl).bind fun _ => ?_
  split
  · exact .note rfl
  · exact .pure _

theorem mute_endWith (failure : Failure) : Mute (endWith failure) := by
  unfold endWith
  split
  · exact .fail _
  · exact .fail _
  · split
    · exact (mute_report _).bind fun _ => .fail _
    · exact .fail _

theorem halts_takeSnapshot (directory : Value) (quiet : Bool) :
    Halts (.interrupted .cancelledQuery) (takeSnapshot directory quiet) := by
  refine Halts.rescue ((Snapshot.halts_run directory quiet).bind fun _ => .of_mute (.pure _))
    (fun cause => ?_) fun _ _ => rfl
  split
  · exact (mute_report _).bind fun _ => .fail _
  · exact (mute_report _).bind fun _ => .fail _
  · exact .fail _

/-- What is done in the end does not hide what a run failed with. -/
theorem halts_thenAlways {failure : Failure} {r : Run Unit} {last : Run Unit}
    (hr : Halts failure r) (mute : Mute last) (total : ∀ w s, (last.perform w s).1 = .ok ()) :
    Halts failure (Run.thenAlways r last) := by
  refine Halts.bind (hr.rescue (fun cause => mute.bind fun _ => .fail _) fun w s => ?_) fun _ =>
    .of_mute (mute.bind fun _ => .pure _)
  rw [perform_bind]
  have returned := total w s
  rcases ended : last.perform w s with ⟨stop | _, s'⟩ <;> rw [ended] at returned
  · cases returned
  · rfl

theorem mute_setHandlers (handlers : Handlers) : Mute (Run.setHandlers handlers) := by
  refine Mute.bind (.modify fun s => ?_) fun _ => .note ?_
  · rfl
  · rfl

theorem mute_hangUp : Mute Run.hangUp := by
  refine (Mute.of_hushed .get).bind fun s => ?_
  split
  · exact Mute.bind (.modify (by simp)) fun _ => .note rfl
  · exact .pure _

theorem mute_connect (d : Dial) : Mute (Run.connect d) := by
  rw [connect_eq]
  refine (Mute.of_hushed .read).bind fun w => (Mute.note rfl).bind fun _ =>
    Mute.bind ?_ fun _ => Mute.bind ?_ fun _ => .note rfl
  · unfold orRefused
    split
    · exact .fail _
    · exact .pure _
  · unfold orUnconfigured
    split
    · exact Mute.bind (.modify (by simp)) fun _ => (Mute.note rfl).bind fun _ => .fail _
    · exact .pure _

theorem Access.mute_connect (a : Access) : Mute a.connect := by
  refine (PgVitals.mute_connect a.dial).rescue fun cause => ?_
  split
  · refine Mute.bind ((Mute.note rfl).bind fun _ => (Mute.note rfl).bind fun _ => ?_)
      fun _ => .fail _
    split
    · exact .note rfl
    · exact .pure _
  · exact .fail _

theorem Access.halts_use (a : Access) {failure : Failure} {work : Run Unit}
    (hw : Halts failure work) : Halts failure (a.use work) := by
  refine Halts.bind (.of_hushed .get) fun s =>
    Halts.bind (.of_mute (mute_setHandlers _)) fun _ => ?_
  have connected : Halts failure (do
      a.connect
      Run.thenAlways work Run.hangUp) :=
    Halts.bind (.of_mute a.mute_connect) fun _ =>
      halts_thenAlways hw mute_hangUp fun w s => by rw [perform_hangUp]
  exact halts_thenAlways connected (mute_setHandlers _) fun _ _ => rfl

theorem halts_program (general : GeneralOptions) (o : SnapshotOptions) :
    Halts (.exit 1) (Invocation.perform ⟨general, .snapshot o⟩) := by
  refine Halts.bind (.of_mute (.note rfl)) fun _ =>
    Halts.rescue (?_ : Halts (.interrupted .cancelledQuery) _) mute_endWith fun _ _ => rfl
  refine Halts.bind (.of_hushed .get) fun s => Halts.bind (.of_hushed .read) fun w => ?_
  refine Halts.bind (.of_mute ?_) fun settings => ?_
  · cases Settings.load s.files w.environment general.settingsFile true with
    | error failure => exact .fail _
    | ok settings => exact .pure _
  · refine Halts.bind (.of_hushed (Snapshot.hushed_requireDirectory _)) fun _ =>
      Halts.bind (.of_hushed (Hushed.read.bind fun _ => .pure _)) fun target => ?_
    exact Access.halts_use _ (halts_takeSnapshot _ _)

/-! ## All runs -/

/-- **SIGINT does not stop a snapshot, unless a statement is cancelled over it.** For all options,
all settings and all files: whenever signals arrive, and however many, the program sends the same
statements, writes the same files and ends in the same way, as long as the server answers the same.
A statement that is refused because it was cancelled is the last one, and the exit status is 1. Then
the views before it are dumped, and no file has got anything since. That holds of every failure but
one: where a row cannot be written, the rows in front of it are in their file. -/
theorem snapshot_heedless (general : GeneralOptions) (o : SnapshotOptions) :
    Heedless (Invocation.perform ⟨general, .snapshot o⟩) ∧
      Halts (.exit 1) (Invocation.perform ⟨general, .snapshot o⟩) ∧
      ∀ sink release views w s stop s',
        (Snapshot.dumpAll sink release views).perform w s = (.error stop, s') →
          Snapshot.Quits sink release views w s stop s' :=
  ⟨heedless_program general o, halts_program general o, fun _ _ _ _ _ _ _ => Snapshot.dumpAll_quits⟩

/-- The answers, by how many came before, of a server with PostgreSQL 16.2 on which all views are
empty. Signals arrive with the third, the last one before the views. -/
def thirdReplies (signals : List Signal) : Nat → Reply
  | 0 => { outcome := .result ⟨["version"], [[.text "PostgreSQL 16.2"]]⟩ }
  | 2 => { signals := signals }
  | _ => {}

def thirdServer (signals : List Signal) : Surroundings where
  reply past _ := thirdReplies signals (exchangesOf past).length

/-- A snapshot on that server. -/
def thirdSnapshot (signals : List Signal) : Except Stop Unit × Session :=
  (Invocation.perform ⟨{}, .snapshot {}⟩).perform (thirdServer signals) { handlers := .none }

theorem length_exchangesOf_silenced (past : List Event) :
    (exchangesOf (silenced past)).length = (exchangesOf past).length := by
  induction past with
  | nil => rfl
  | cons event past ih =>
    have here : (exchangesOf event.silenced.toList).length = (exchangesOf [event]).length := by
      cases event <;> rfl
    rw [silenced_cons, exchangesOf_append, List.length_append, ih, here, ← List.length_append,
      ← exchangesOf_append]
    rfl

/-- The signals make no difference to what the server answers. -/
theorem thirdServer_alike (signals signals' : List Signal) :
    (thirdServer signals).Alike (thirdServer signals') := by
  have count : ∀ past past', silenced past = silenced past' →
      (exchangesOf past).length = (exchangesOf past').length := by
    intro past past' same
    rw [← length_exchangesOf_silenced past, same, length_exchangesOf_silenced]
  refine ⟨fun past past' statement same => ?_, fun past past' statement same => ?_, rfl, rfl, rfl,
    rfl, rfl, rfl⟩
  · show (thirdReplies signals (exchangesOf past).length).outcome =
      (thirdReplies signals' (exchangesOf past').length).outcome
    rw [count past past' same]
    unfold thirdReplies
    split <;> rfl
  · show (thirdReplies signals (exchangesOf past).length).closes =
      (thirdReplies signals' (exchangesOf past').length).closes
    rw [count past past' same]
    unfold thirdReplies
    split <;> rfl

/-- A server on which every statement is cancelled. -/
def cancellingServer : Surroundings where
  reply _ _ :=
    { outcome := .refused ⟨.cancelled, "canceling statement due to user request", none, none⟩ }

theorem snapshot_heedless_third :
    let cancelled := (Snapshot.dumpAll ⟨".", false⟩ ⟨16, 2⟩ [Catalog.Snapshot.activity]).perform
      cancellingServer {}
    (thirdSnapshot [.interrupt]).1 = (thirdSnapshot []).1 ∧
      (thirdSnapshot [.interrupt]).2.Alike (thirdSnapshot []).2 ∧
      Snapshot.Quits ⟨".", false⟩ ⟨16, 2⟩ [Catalog.Snapshot.activity] cancellingServer {}
        (.failed (.interrupted .cancelledQuery)) cancelled.2 := by
  intro cancelled
  obtain ⟨heedless, -, quits⟩ := snapshot_heedless {} {}
  obtain ⟨same, alike⟩ := heedless _ _ { handlers := .none } { handlers := .none }
    (thirdServer_alike [.interrupt] []) ⟨rfl, rfl, rfl, rfl, rfl⟩
  have fails : cancelled.1 = .error (.failed (.interrupted .cancelledQuery)) := by decide +kernel
  refine ⟨same, alike, quits _ _ _ _ _ (.failed (.interrupted .cancelledQuery)) _ ?_⟩
  rw [← fails]

/-- Whether an event is the arrival of SIGINT. -/
def Event.isInterrupt : Event → Bool
  | arrived .interrupt => true
  | _ => false

/-- Where SIGINT arrives before any view is queried, all of them are queried nevertheless and all of
their files are made, and the program ends as if nothing had happened. -/
theorem snapshot_goes_on :
    let ended := thirdSnapshot [.interrupt]
    let after := ended.2.past.takeWhile fun event => !event.isInterrupt
    let before := ended.2.past.dropWhile fun event => !event.isInterrupt
    let views := Snapshot.plan ⟨16, 2⟩ ⟨false, false⟩ Catalog.Snapshot.templates
    ended.1 = .ok () ∧ ended.2.flags.shutdown = true ∧ (exchangesOf before).length = 3 ∧
      (exchangesOf after).length = views.length ∧ ended.2.files.files.length = views.length := by
  decide +kernel

end PgVitals
