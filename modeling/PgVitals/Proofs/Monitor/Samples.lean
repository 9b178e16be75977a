import PgVitals.Monitor.Collector
import PgVitals.Proofs.Monitor.Difference
import PgVitals.Proofs.Session.Answers
import PgVitals.Proofs.Session.Following
/-!
# Samples of a collector

A call of a collector can fail at every statement and at every value. It remembers the record only
when the line is complete, so what calls show is always compared with the last call that showed
anything, and the differences of a counter add up to the counter. Where a sample has one line for
each row nothing is compared.

* `Fails` and `Emits` are the two ways a call can go in a domain with one record for each sample:
  nothing has changed, or a record was read and shown against the one that was remembered, and is
  now remembered itself. `Collector.Single.call` says that there is no third.
* `Collector.Sampled` is what comes of some calls, and `Collector.Single.sampled` the induction over
  them. `Sampled.previous` and `Sampled.adds_up` are read off it.
* `Collector.Plain` are fields of which nothing is compared, and `call_plain` says that there each
  line is that of its row, whatever was read before.
* `single_of_started` and `Reached.plain` say which domains are of which kind.

Nothing is assumed of the server, and a call that fails may be followed by others. A counter may
fall, where a server was started anew; the difference is negative then, and the sum is still right.
Whether the run goes on after a failed call is up to the sampler.
-/

namespace PgVitals.Monitor

open PgVitals.Catalog

/-- What one call of a collector meets. -/
structure Meeting where
  surroundings : Surroundings
  session : Session

/-- What a call shows: the record it read, what it shows of it, and the line. -/
structure Emission where
  raw : Record
  shown : Record
  line : String

/-- The line of a row that is compared with nothing. -/
def RecordKind.lineOf (k : RecordKind) (row : List Value) : Except Fault String := do
  rowLine k.fields ((← k.ofRow row).map Reading.value) []

namespace Collector

variable {c c' : Collector} {w : Surroundings} {s s₁ : Session} {m : Meeting}

/-! ## One call -/

/-- The collector that remembers a record. -/
def remember (c : Collector) (record : Record) : Collector :=
  { c with engine := { c.engine with previous := record } }

/-- The sizes that a line needs from the server. -/
def sizesOf (c : Collector) (shown : Record) : Run Sizes :=
  if c.humanReadable then sizes c.kind.fields (shown.map Reading.value) else pure []

/-- A call that fails leaves the collector as it was. -/
def Fails (c : Collector) (m : Meeting) : Prop :=
  ∃ failure s', c.sample.perform m.surroundings m.session = (.ok (c, .error failure), s')

/-- A call that shows a record: the server answered with that record, every field of the line shows
it against the record that was remembered, and now the new record is the one that is remembered. -/
structure Emits (c : Collector) (m : Meeting) (e : Emission) : Prop where
  read : ∃ set, Run.answer? m.surroundings m.session c.statement = some set ∧
    c.records set = .ok [e.raw]
  shows : Shows c.kind.fields e.raw c.engine.previous e.shown
  line : ∃ sizes s', (c.sizesOf e.shown).perform m.surroundings
      (m.session.answered m.surroundings c.statement) = (.ok sizes, s') ∧
    rowLine c.kind.fields (e.shown.map Reading.value) sizes = .ok e.line
  ends : ∃ s',
    c.sample.perform m.surroundings m.session = (.ok (c.remember e.raw, .ok [e.line]), s')

theorem converses_sizesOf (c : Collector) (shown : Record) : (c.sizesOf shown).Converses := by
  unfold sizesOf sizes
  split
  · dsimp only
    split
    · exact .pure _
    · refine (Run.Converses.rows _).bind fun rows => ?_
      split
      · exact .ofFault _
      · exact .pure _
  · exact .pure _

theorem line_eq (c : Collector) (shown : Record) :
    c.line shown = (do
      let sizes ← c.sizesOf shown
      Run.ofFault (rowLine c.kind.fields (shown.map Reading.value) sizes)) := by
  unfold line sizesOf
  cases c.humanReadable <;> rfl

theorem perform_emit_of_sizes {raw : Record} {sizes : Sizes} {line : String}
    (sized : (c.sizesOf (c.engine.diff raw)).perform w s = (.ok sizes, s₁))
    (written : rowLine c.kind.fields ((c.engine.diff raw).map Reading.value) sizes = .ok line) :
    (Run.attempt (c.engine.advance raw c.line)).perform w s =
      (.ok (.ok ({ c.engine with previous := raw }, line)), s₁) := by
  rw [Run.perform_attempt, Engine.advance, line_eq, bind_assoc, Run.perform_bind_ok sized, written]
  rfl

theorem perform_emit_of_fault {raw : Record} {sizes : Sizes} {fault : Fault}
    (sized : (c.sizesOf (c.engine.diff raw)).perform w s = (.ok sizes, s₁))
    (failed : rowLine c.kind.fields ((c.engine.diff raw).map Reading.value) sizes = .error fault) :
    (Run.attempt (c.engine.advance raw c.line)).perform w s =
      (.ok (.error (.fault fault)), s₁) := by
  rw [Run.perform_attempt, Engine.advance, line_eq, bind_assoc, Run.perform_bind_ok sized, failed]
  rfl

/-- Emitting a record fails, or makes its line and remembers it. -/
theorem perform_emit (c : Collector) (raw : Record) (w : Surroundings) (s : Session) :
    (∃ failure s',
        (Run.attempt (c.engine.advance raw c.line)).perform w s = (.ok (.error failure), s')) ∨
      ∃ sizes line s', (c.sizesOf (c.engine.diff raw)).perform w s = (.ok sizes, s') ∧
        rowLine c.kind.fields ((c.engine.diff raw).map Reading.value) sizes = .ok line ∧
        (Run.attempt (c.engine.advance raw c.line)).perform w s =
          (.ok (.ok ({ c.engine with previous := raw }, line)), s') := by
  -- The line may need an answer of the server, so it can fail after the record was read.
  have ends := (c.converses_sizesOf (c.engine.diff raw)).ends w s
  rcases sized : (c.sizesOf (c.engine.diff raw)).perform w s with ⟨(failure | -) | sizes, s'⟩
  · rw [Run.perform_attempt, Engine.advance, line_eq, bind_assoc, Run.perform_bind_error sized]
    exact .inl ⟨failure, s', rfl⟩
  · exact absurd (congrArg Prod.fst sized) ends
  · rcases written : rowLine c.kind.fields ((c.engine.diff raw).map Reading.value) sizes with
      fault | line
    · exact .inl ⟨_, s', perform_emit_of_fault sized written⟩
    · exact .inr ⟨sizes, line, s', rfl, written, perform_emit_of_sizes sized written⟩

theorem perform_read_of_records {set : ResultSet} {records : List Record}
    (answer : Run.answer? w s c.statement = some set) (read : c.records set = .ok records) :
    (Run.attempt c.read).perform w s = (.ok (.ok records), s.answered w c.statement) := by
  rw [Run.perform_attempt, Collector.read,
    Run.perform_bind_ok (Run.perform_fetch_answered answer), read]
  rfl

/-- Reading fails, or brings the records of the answer. -/
theorem perform_read (c : Collector) (w : Surroundings) (s : Session) :
    (∃ failure s', (Run.attempt c.read).perform w s = (.ok (.error failure), s')) ∨
      ∃ set records, Run.answer? w s c.statement = some set ∧ c.records set = .ok records ∧
        (Run.attempt c.read).perform w s = (.ok (.ok records), s.answered w c.statement) := by
  rcases answer : Run.answer? w s c.statement with _ | set
  · obtain ⟨failure, s', failed⟩ := Run.perform_fetch_unanswered answer
    rw [Run.perform_attempt, read, Run.perform_bind_error failed]
    exact .inl ⟨failure, s', rfl⟩
  · rcases read : c.records set with fault | records
    · rw [Run.perform_attempt, Collector.read,
        Run.perform_bind_ok (Run.perform_fetch_answered answer), read]
      exact .inl ⟨_, _, rfl⟩
    · exact .inr ⟨set, records, rfl, read, perform_read_of_records answer read⟩

/-- A call fails over reading, or goes on with the records of the answer. -/
theorem perform_sample (c : Collector) (m : Meeting) :
    c.Fails m ∨
      ∃ set records, Run.answer? m.surroundings m.session c.statement = some set ∧
        c.records set = .ok records ∧
        c.sample.perform m.surroundings m.session =
          (c.advance records).perform m.surroundings
            (m.session.answered m.surroundings c.statement) := by
  unfold Fails sample
  rcases c.perform_read m.surroundings m.session with
    ⟨failure, s', failed⟩ | ⟨set, records, answer, read, done⟩
  · rw [Run.perform_bind_ok failed]
    exact .inl ⟨failure, s', rfl⟩
  · rw [Run.perform_bind_ok done]
    exact .inr ⟨set, records, answer, read, rfl⟩

theorem perform_advance_failed {record : Record} {rest : List Record} {failure : Failure}
    {s' : Session}
    (h : (Run.attempt (c.engine.advance record c.line)).perform w s = (.ok (.error failure), s')) :
    (c.advance (record :: rest)).perform w s = (.ok (c, .error failure), s') := by
  rw [advance, Run.perform_bind_ok h]
  rfl

theorem perform_advance_cons {record : Record} {rest : List Record} {line : String} {s' : Session}
    (h : (Run.attempt (c.engine.advance record c.line)).perform w s =
      (.ok (.ok ({ c.engine with previous := record }, line)), s')) :
    (c.advance (record :: rest)).perform w s =
      ((c.remember record).advance rest >>= fun ended =>
        pure (ended.1, (line :: ·) <$> ended.2)).perform w s' := by
  rw [advance, Run.perform_bind_ok h]
  rfl

/-! ## Domains of one record -/

/-- The records of a domain with one record for each sample. -/
def Single (c : Collector) : Prop :=
  ∀ set records, c.records set = .ok records → ∃ raw, records = [raw] ∧ Fits c.kind.fields raw

/-- A call fails and changes nothing, or shows one record. -/
theorem Single.call (single : c.Single) (fits : Fits c.kind.fields c.engine.previous)
    (m : Meeting) : c.Fails m ∨ ∃ e, c.Emits m e ∧ Fits c.kind.fields e.raw := by
  rcases c.perform_sample m with fails | ⟨set, records, answer, read, performs⟩
  · exact .inl fails
  obtain ⟨raw, rfl, rawFits⟩ := single set records read
  rcases c.perform_emit raw m.surroundings (m.session.answered m.surroundings c.statement) with
    ⟨failure, s', failed⟩ | ⟨sizes, line, s', sized, written, done⟩
  · exact .inl ⟨failure, s', by rw [performs, perform_advance_failed failed]⟩
  · refine .inr ⟨⟨raw, c.engine.diff raw, line⟩, ⟨⟨set, answer, read⟩, ?_, ?_, ?_⟩, rawFits⟩
    · exact shows_differences rawFits fits
    · exact ⟨sizes, _, sized, written⟩
    · exact ⟨s', by rw [performs, perform_advance_cons done]; rfl⟩

/-- What comes of some calls, oldest first: what was shown, and the collector in the end. -/
inductive Sampled : Collector → List Meeting → List Emission → Collector → Prop
  | rest {c : Collector} : Sampled c [] [] c
  | failed {c c' : Collector} {m : Meeting} {later : List Meeting} {shown : List Emission}
      (fails : c.Fails m) (calls : Sampled c later shown c') : Sampled c (m :: later) shown c'
  | emitted {c c' : Collector} {m : Meeting} {e : Emission} {later : List Meeting}
      {shown : List Emission} (emits : c.Emits m e)
      (calls : Sampled (c.remember e.raw) later shown c') : Sampled c (m :: later) (e :: shown) c'

/-- Whatever calls meet, each fails or shows a record. -/
theorem Single.sampled (single : c.Single) (fits : Fits c.kind.fields c.engine.previous)
    (calls : List Meeting) : ∃ shown c', Sampled c calls shown c' := by
  induction calls generalizing c with
  | nil => exact ⟨[], c, .rest⟩
  | cons m calls ih =>
    rcases single.call fits m with fails | ⟨e, emits, rawFits⟩
    · obtain ⟨shown, c', rest⟩ := ih single fits
      exact ⟨shown, c', .failed fails rest⟩
    · obtain ⟨shown, c', rest⟩ := ih (c := c.remember e.raw) single rawFits
      exact ⟨e :: shown, c', .emitted emits rest⟩

namespace Sampled

variable {calls : List Meeting} {shown : List Emission}

/-- The record that is remembered is the one shown last. -/
theorem previous (h : Sampled c calls shown c') :
    c'.engine.previous = ((shown.getLast?).map Emission.raw).getD c.engine.previous := by
  induction h with
  | rest => rfl
  | failed _ _ ih => exact ih
  | emitted _ _ ih => rw [ih, List.getLast?_cons]; cases _ : List.getLast? _ <;> simp_all [remember]

/-- The differences that calls show of a counter add up to what it has grown by. -/
theorem adds_up (h : Sampled c calls shown c') {f : Field} {i : Nat} {before : Int}
    (field : c.kind.fields[i]? = some f) (counts : f.kind = .counter)
    (start : c.engine.previous[i]? = some (.whole before)) :
    ∃ parts : List Int, (shown.map fun e => e.shown[i]?) = parts.map (fun n => some (.whole n)) ∧
      c'.engine.previous[i]? = some (.whole (before + parts.foldr (· + ·) 0)) := by
  -- What is remembered before a call is what the last one has read, so the sum telescopes.
  induction h generalizing before with
  | rest => exact ⟨[], rfl, by simpa using start⟩
  | failed _ _ ih => exact ih field start
  | @emitted c _ m e _ _ emits _ ih =>
    obtain ⟨now, was, read, remembered, difference⟩ := emits.shows.counter field counts
    obtain rfl : before = was := by simpa [start] using remembered
    obtain ⟨parts, shows, sum⟩ := ih field read
    refine ⟨(now - before) :: parts, by simp [difference, shows], ?_⟩
    rw [sum, List.foldr_cons]
    congr 2
    omega

end Sampled

/-! ## Domains of many records -/

/-- The collectors that calls lead to. -/
inductive Reached (c₀ : Collector) : Collector → Prop
  | start : Reached c₀ c₀
  | called {c c' : Collector} {m : Meeting} {outcome : Except Failure (List String)} {s' : Session}
      (before : Reached c₀ c)
      (call : c.sample.perform m.surroundings m.session = (.ok (c', outcome), s')) : Reached c₀ c'

/-- Fields of which nothing is compared, and for which the server is not asked for sizes. -/
def Plain (fields : List Field) : Prop :=
  ∀ f ∈ fields, f.kind.isCounter = false ∧ f.isBytes = false

theorem sizesOf_plain (plain : Plain c.kind.fields) (shown : Record) :
    c.sizesOf shown = pure [] := by
  have none : byteCounts c.kind.fields (shown.map Reading.value) = [] := by
    rw [byteCounts, List.filter_eq_nil_iff.mpr, List.map_nil]
    rintro ⟨f, v⟩ member
    simp [(plain f (List.of_mem_zip member).1).2]
  unfold sizesOf sizes
  rw [none]
  cases c.humanReadable <;> rfl

/-- Where nothing is compared, records have their lines one by one, and only the record that is
remembered changes. -/
theorem perform_advance_plain (plain : Plain c.kind.fields)
    (fits : Fits c.kind.fields c.engine.previous) {records : List Record}
    (recordsFit : ∀ record ∈ records, Fits c.kind.fields record) (w : Surroundings) (s : Session) :
    ∃ last outcome s', (c.advance records).perform w s = (.ok (c.remember last, outcome), s') ∧
      Fits c.kind.fields last ∧
      ∀ lines, outcome = .ok lines →
        (records.map fun record => rowLine c.kind.fields (record.map Reading.value) []) =
          lines.map .ok := by
  induction records generalizing c s with
  | nil =>
    refine ⟨c.engine.previous, .ok [], s, rfl, fits, ?_⟩
    rintro lines ⟨⟩
    rfl
  | cons record records ih =>
    have recordFits := recordsFit record List.mem_cons_self
    have same : c.engine.diff record = record :=
      (shows_differences recordFits fits).unchanged fun f hf => (plain f hf).1
    rcases c.perform_emit record w s with
      ⟨failure, s', failed⟩ | ⟨sizes, line, s', sized, written, done⟩
    · exact ⟨c.engine.previous, .error failure, s', perform_advance_failed failed, fits, nofun⟩
    · rw [sizesOf_plain plain] at sized
      obtain ⟨rfl, rfl⟩ : [] = sizes ∧ s = s' := by simpa using sized
      rw [same] at written
      obtain ⟨last, outcome, s'', advanced, lastFits, lines⟩ := ih (c := c.remember record) plain
        recordFits (fun r hr => recordsFit r (List.mem_cons_of_mem _ hr)) s
      refine ⟨last, (line :: ·) <$> outcome, s'', ?_, lastFits, ?_⟩
      · rw [perform_advance_cons done, Run.perform_bind_ok advanced]
        rfl
      · rintro all made
        obtain ⟨rest, rfl, rfl⟩ := exists_of_map_ok made
        rw [List.map_cons, List.map_cons, written]
        exact congrArg _ (lines rest rfl)

/-- Calls that compare nothing show each row by itself, whatever was read before. -/
theorem call_plain (plain : Plain c.kind.fields) (fits : Fits c.kind.fields c.engine.previous)
    (rows : ∀ set, c.records set = set.rows.mapM c.kind.ofRow) (m : Meeting) :
    ∃ last outcome s',
      c.sample.perform m.surroundings m.session = (.ok (c.remember last, outcome), s') ∧
      Fits c.kind.fields last ∧
      ∀ lines, outcome = .ok lines →
        ∃ set, Run.answer? m.surroundings m.session c.statement = some set ∧
          set.rows.map c.kind.lineOf = lines.map .ok := by
  rcases c.perform_sample m with ⟨failure, s', failed⟩ | ⟨set, records, answer, read, performs⟩
  · exact ⟨c.engine.previous, .error failure, s', failed, fits, nofun⟩
  rw [rows] at read
  have each := map_of_mapM_ok read
  have recordsFit : ∀ record ∈ records, Fits c.kind.fields record := by
    intro record member
    obtain ⟨row, -, made⟩ := List.mem_map.mp (each ▸ List.mem_map_of_mem member)
    exact RecordKind.readCells_fits made
  obtain ⟨last, outcome, s', advanced, lastFits, lines⟩ := perform_advance_plain plain fits
    recordsFit m.surroundings (m.session.answered m.surroundings c.statement)
  refine ⟨last, outcome, s', performs.trans advanced, lastFits, fun all made => ⟨set, answer, ?_⟩⟩
  calc set.rows.map c.kind.lineOf
      = (set.rows.map c.kind.ofRow).map (· >>= fun record =>
          rowLine c.kind.fields (record.map Reading.value) []) := by rw [List.map_map]; rfl
    _ = records.map fun record => rowLine c.kind.fields (record.map Reading.value) [] := by
      rw [each, List.map_map]
      rfl
    _ = all.map .ok := lines all made

/-! ## The domains -/

theorem started {subject : Subject} {release : Option Release}
    (h : start subject release = .ok c) :
    ∃ kind, recordKind? subject.domain = some kind ∧ c.engine = .start kind ∧
      c.named = (Monitor.consoleCommand? subject.domain).isSome ∧
      c.humanReadable = subject.humanReadable := by
  unfold start at h
  split at h
  · cases h
  · rename_i kind known
    refine ⟨kind, known, ?_⟩
    split at h
    · rename_i command named
      cases h
      exact ⟨rfl, by rw [named]; rfl, rfl⟩
    · cases h
    · rename_i named
      split at h
      · cases h
      · obtain ⟨statement, -, h⟩ := exists_of_bind_ok h
        cases h
        exact ⟨rfl, by rw [named]; rfl, rfl⟩

end Collector

theorem recordKind_multirow {d : Domain} {kind : RecordKind} (h : recordKind? d = some kind) :
    kind.multirow = true ↔ d = .progressAnalyze := by
  cases d <;> simp [recordKind?] at h <;> subst h <;> simp

/-- The connection pooler has no texts. -/
theorem recordKind_numeric {d : Domain} {kind : RecordKind} (h : recordKind? d = some kind)
    (named : (Monitor.consoleCommand? d).isSome = true) : ∀ f ∈ kind.fields, f.kind ≠ .text := by
  cases d <;> cases named
  all_goals
    cases h
    decide

namespace Collector

variable {c₀ c : Collector} {subject : Subject} {release : Option Release} {kind : RecordKind}

/-- Every domain but one has one record for each sample. -/
theorem single_of_started (h : start subject release = .ok c₀)
    (known : recordKind? subject.domain = some kind) (one : kind.multirow = false) :
    c₀.Single := by
  obtain ⟨kind', known', engine, named, -⟩ := started h
  obtain rfl : kind = kind' := by simpa [known] using known'
  have fields : c₀.kind = kind := by rw [Collector.kind, engine]; rfl
  intro set records read
  rw [Collector.records, fields, one] at read
  rw [fields]
  split at read
  · rename_i pooler
    obtain ⟨raw, totalled, read⟩ := exists_of_bind_ok read
    cases read
    exact ⟨raw, rfl, RecordKind.ofNamedRows_fits
      (recordKind_numeric known (named ▸ pooler)) totalled⟩
  · obtain ⟨raw, made, read⟩ := exists_of_bind_ok read
    cases read
    exact ⟨raw, rfl, RecordKind.readCells_fits made⟩

/-- Calls on a domain of many records lead to collectors that differ in the record they remember. -/
theorem Reached.plain (h : Reached c₀ c) (plain : Plain c₀.kind.fields)
    (fits : Fits c₀.kind.fields c₀.engine.previous)
    (rows : ∀ set, c₀.records set = set.rows.mapM c₀.kind.ofRow) :
    ∃ last, c = c₀.remember last ∧ Fits c₀.kind.fields last := by
  induction h with
  | start => exact ⟨c₀.engine.previous, rfl, fits⟩
  | @called c c' m outcome s' _ call ih =>
    obtain ⟨last, rfl, lastFits⟩ := ih
    obtain ⟨next, outcome', s'', performs, nextFits, -⟩ :=
      call_plain (c := c₀.remember last) plain lastFits rows m
    have same := call.symm.trans performs
    simp only [Prod.mk.injEq, Except.ok.injEq] at same
    exact ⟨next, same.1.1, nextFits⟩

/-- What calls of a collector show, whatever they meet. In a domain of one record for each sample
every call fails and changes nothing, or shows one record against the last one shown; the record
that is remembered in the end is the last one shown, and what was shown of a counter adds up to it.
In the domain of many records a call that succeeds has one line for each row, in order, and each
line is that of its row, whatever was read before. -/
theorem calls_conserve (subject : Subject) (release : Option Release) (c₀ : Collector)
    (h : start subject release = .ok c₀) :
    ∃ kind : RecordKind, recordKind? subject.domain = some kind ∧ c₀.engine = .start kind ∧
      c₀.humanReadable = subject.humanReadable ∧
      (kind.multirow = true ↔ subject.domain = .progressAnalyze) ∧
      (kind.multirow = false → ∀ calls, ∃ shown c, Sampled c₀ calls shown c ∧
        c.engine.previous = ((shown.getLast?).map Emission.raw).getD kind.zero ∧
        ∀ (i : Nat) (f : Field), kind.fields[i]? = some f → f.kind = .counter →
          ∃ parts : List Int,
            (shown.map fun e => e.shown[i]?) = parts.map (fun n => some (.whole n)) ∧
            c.engine.previous[i]? = some (.whole (parts.foldr (· + ·) 0))) ∧
      (kind.multirow = true → ∀ c, Reached c₀ c → ∀ m : Meeting, ∃ c' outcome s',
        c.sample.perform m.surroundings m.session = (.ok (c', outcome), s') ∧
        ∀ lines, outcome = .ok lines →
          ∃ set, Run.answer? m.surroundings m.session c₀.statement = some set ∧
            set.rows.map kind.lineOf = lines.map .ok) := by
  obtain ⟨kind, known, engine, named, readable⟩ := started h
  have fields : c₀.kind = kind := by rw [Collector.kind, engine]; rfl
  have zeros : c₀.engine.previous = kind.zero := by rw [engine]; rfl
  have fits : Fits c₀.kind.fields c₀.engine.previous := by
    rw [zeros, fields]
    exact fits_zeros kind.fields
  refine ⟨kind, known, engine, readable, recordKind_multirow known, ?_, ?_⟩
  · intro one calls
    obtain ⟨shown, c, sampled⟩ := (single_of_started h known one).sampled fits calls
    refine ⟨shown, c, sampled, zeros ▸ sampled.previous, fun i f field counts => ?_⟩
    have start : c₀.engine.previous[i]? = some (.whole 0) := by
      rw [zeros, RecordKind.zero, List.getElem?_map, field, Option.map_some, counts]
      rfl
    simpa using sampled.adds_up (fields ▸ field) counts start
  · intro many c reached m
    obtain domain := (recordKind_multirow known).mp many
    rw [domain] at known named
    cases known
    have rows : ∀ set, c₀.records set = set.rows.mapM c₀.kind.ofRow := by
      intro set
      rw [Collector.records, fields, named]
      rfl
    have plain : Plain c₀.kind.fields := by
      rw [fields, Plain]
      decide
    obtain ⟨last, rfl, lastFits⟩ := reached.plain plain fits rows
    obtain ⟨next, outcome, s', performs, -, lines⟩ :=
      call_plain (c := c₀.remember last) plain lastFits rows m
    exact ⟨_, outcome, s', performs, fun all made => fields ▸ lines all made⟩

/-- The collector of the traffic of the connection pooler. -/
def poolerTraffic : Collector :=
  ⟨.start { fields := pbStatsFields }, .plain "SHOW stats", true, true⟩

theorem calls_conserve_poolerTraffic :
    start ⟨.pbStats, .null, true⟩ none = .ok poolerTraffic ∧
      ∀ calls, ∃ shown c, Sampled poolerTraffic calls shown c ∧
        ∃ parts : List Int,
          (shown.map fun e => e.shown[0]?) = parts.map (fun n => some (.whole n)) ∧
          c.engine.previous[0]? = some (.whole (parts.foldr (· + ·) 0)) := by
  have h : start ⟨.pbStats, .null, true⟩ none = .ok poolerTraffic := rfl
  obtain ⟨kind, known, -, -, -, single, -⟩ := calls_conserve _ _ _ h
  cases known
  refine ⟨h, fun calls => ?_⟩
  obtain ⟨shown, c, sampled, -, sums⟩ := single rfl calls
  exact ⟨shown, c, sampled, sums 0 _ rfl rfl⟩

end Collector

end PgVitals.Monitor
