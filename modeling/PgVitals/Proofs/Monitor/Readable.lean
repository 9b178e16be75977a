import PgVitals.Proofs.Monitor.Samples
import PgVitals.Proofs.Monitor.Sizes
import PgVitals.Proofs.Session.Objects
/-!
# Monitoring with sizes that are easy to read

A collector may let the server write the byte counts of each line. Two collectors of one domain, one
that does and one that does not, are called side by side, and the server gives both the same
statistics. They fail together, remember the same records and print as many lines, and their lines
differ in the byte counts only. A byte count with too many digits is the exception: the server can
write it, but the collector cannot.

* `Sizing` is what the server was asked for the sizes of one record, and `Row` a record in the lines
  of both collectors. `Row.Agrees` compares the two cell by cell.
* `Call` is a call of a collector with what it meets, and `Alongside` relates two calls: what they
  remember, how they end, and what their lines have in common.
* `sample_alongside` is one call, `calls_alongside_of_sound` the induction over all of them. The
  collectors in between are `Sound`, which is kept by `Sound.remember`.
* `sound_of_started` says that every domain starts with such a collector, and
  `perform_sample_readable` that in a domain without byte counts a call does the same either way.

Two things are taken of the server: that it writes one text for each byte count it is asked for,
`Call.Sized`, and that both collectors get the same answer. What the texts are is its own affair.
That no byte count has too many digits is `Call.Writable`; the last theorem of this file shows what
happens without it.
-/

namespace PgVitals.Monitor

open PgVitals.Catalog PgVitals.Number

/-! ## What the records of a sample show -/

/-- What records show one after the other. -/
def Engine.shows (e : Engine) : List Record → List Record
  | [] => []
  | raw :: rest => e.diff raw :: shows { e with previous := raw } rest

/-- No byte count has too many digits to be written. -/
def Writable (fields : List Field) (shown : Record) : Prop :=
  ∀ (i : Nat) (f : Field) (n : Int), fields[i]? = some f → f.isBytes = true →
    shown[i]? = some (.whole n) → isWritable n = true

theorem countsWritten {fields : List Field} {shown : Record} (fits : Fits fields shown)
    (writable : Writable fields shown) : CountsWritten fields (shown.map Reading.value) := by
  intro i f v field value bytes
  rw [List.getElem?_map, Option.map_eq_some_iff] at value
  obtain ⟨x, known, rfl⟩ := value
  have kind := fits.getElem? field known
  cases x with
  | whole n =>
    have whole : f.isFractional = false := by
      rw [Field.isFractional]
      generalize f.kind = k at kind ⊢
      cases k <;> first | rfl | cases kind
    refine ⟨intText n, ?_⟩
    show (if f.isFractional then _ else Value.intWritten n) = _
    rw [whole, if_neg Bool.false_ne_true, Value.intWritten,
      if_pos (writable i f n field bytes known)]
  | fractional x =>
    have fractional : f.isFractional = true := by
      rw [Field.isFractional]
      generalize f.kind = k at kind ⊢
      cases k <;> first | rfl | cases kind
    refine ⟨Number.fixedText 2 x, ?_⟩
    show (if f.isFractional then Value.fixedText 2 (.float x) else _) = _
    rw [fractional]
    rfl
  | text s => exact ⟨s, rfl⟩

/-- The server writes the byte counts of all records, one text for each value. -/
def Sized (fields : List Field) (w : Surroundings) : Session → List Record → Prop
  | _, [] => True
  | s, shown :: rest =>
    if sizeCount fields = 0 then Sized fields w s rest
    else
      (∃ (set : ResultSet) (texts : List String) (others : List (List Value)),
        Run.answer? w s (sizeStatement (amounts fields shown)) = some set ∧
        set.rows = texts.map Value.text :: others ∧ texts.length = sizeCount fields) ∧
      Sized fields w (s.answered w (sizeStatement (amounts fields shown))) rest

/-! ## One record in two lines -/

/-- What the server was asked for the sizes of a record. Without byte fields nothing is asked, and
otherwise one statement: its text has a placeholder for each byte field, the byte counts are bound
in the order of the fields, and the answer is one text for each. -/
structure Sizing (fields : List Field) (shown : Record) (sizes : List String)
    (asked : List (Statement × Reply)) : Prop where
  enough : sizes.length = sizeCount fields
  unasked : sizeCount fields = 0 → asked = []
  asked : sizeCount fields ≠ 0 →
    ∃ (reply : Reply) (set : ResultSet) (others : List (List Value)),
      asked = [(⟨sizeQuery (sizeCount fields), .positional (amounts fields shown)⟩, reply)] ∧
      placeholders (sizeQuery (sizeCount fields)).toList = sizeCount fields ∧
      (amounts fields shown).length = sizeCount fields ∧
      reply.set? = some set ∧ set.rows = sizes.map Value.text :: others

/-- A record in the lines of two collectors: `readable` is the line that shows the sizes that the
server wrote when it was `asked` for them. -/
structure Row where
  shown : Record
  plain : String
  readable : String
  sizes : List String
  asked : List (Statement × Reply)

/-- Whether the two lines of a record agree. A byte field shows the server's text for the value that
was bound for this field, and any other field is shown the same in both lines. -/
structure Row.Agrees (fields : List Field) (row : Row) : Prop where
  sizing : Sizing fields row.shown row.sizes row.asked
  cells : ∃ plain readable : List String,
    plain.length = fields.length ∧ readable.length = fields.length ∧
    shownTexts [] fields (row.shown.map Reading.value) = .ok plain ∧
    row.plain = joinCells (List.zipWith align fields plain) ∧
    row.readable = joinCells (List.zipWith align fields readable) ∧
    ∀ (i : Nat) (f : Field), fields[i]? = some f →
      if f.isBytes then
        readable[i]? = row.sizes[sizesBefore fields i]? ∧
          (amounts fields row.shown)[sizesBefore fields i]? = (row.shown.map Reading.value)[i]?
      else readable[i]? = plain[i]?
  same : sizeCount fields = 0 → row.readable = row.plain

namespace Collector

variable {c p : Collector} {w w' : Surroundings} {s s' s₁ : Session} {m m' : Meeting}

/-- The collector that lets the server write byte counts. -/
def readable (c : Collector) : Collector := { c with humanReadable := true }

/-! ## Sizes -/

theorem sizesOf_unreadable (plain : p.humanReadable = false) (shown : Record) :
    p.sizesOf shown = pure [] := by
  rw [sizesOf, plain, if_neg Bool.false_ne_true]

/-- Where there are byte counts the server is asked once, and its texts go by the names of their
fields. -/
theorem perform_sizes {fields : List Field} {shown : Record} {set : ResultSet} {texts : List String}
    {others : List (List Value)} (counted : byteCounts fields (shown.map Reading.value) ≠ [])
    (answer : Run.answer? w s (sizeStatement (amounts fields shown)) = some set)
    (first : set.rows = texts.map Value.text :: others) :
    (sizes fields (shown.map Reading.value)).perform w s =
      (.ok (((byteCounts fields (shown.map Reading.value)).map Prod.fst).zip
        (texts.map Value.text)), s.answered w (sizeStatement (amounts fields shown))) := by
  have asked : (Run.rows (sizeStatement (amounts fields shown))).perform w s =
      (.ok (texts.map Value.text :: others),
        s.answered w (sizeStatement (amounts fields shown))) := by
    rw [Run.rows, Run.perform_bind_ok (Run.perform_fetch_answered answer), first]
    rfl
  rw [sizes, List.isEmpty_eq_false_iff.mpr counted, if_neg Bool.false_ne_true]
  exact (Run.perform_bind_ok asked).trans rfl

/-- What the server is asked for a record, and what becomes of its texts. -/
theorem perform_sizesOf_readable {shown : Record} {rest : List Record}
    (fits : Fits p.kind.fields shown) (sized : Sized p.kind.fields w s (shown :: rest)) :
    ∃ (texts : List String) (asked : List (Statement × Reply)) (s₁ : Session),
      Sizing p.kind.fields shown texts asked ∧
      (p.readable.sizesOf shown).perform w s =
        (.ok (((byteCounts p.kind.fields (shown.map Reading.value)).map Prod.fst).zip
          (texts.map Value.text)), s₁) ∧
      s₁.exchanges = s.exchanges ++ asked ∧ Sized p.kind.fields w s₁ rest := by
  have count : (byteCounts p.kind.fields (shown.map Reading.value)).length =
      sizeCount p.kind.fields :=
    length_byteCounts (by rw [List.length_map, fits.length_eq])
  have amount : (amounts p.kind.fields shown).length = sizeCount p.kind.fields := by
    rw [amounts, List.length_map, count]
  have asks : p.readable.sizesOf shown = sizes p.kind.fields (shown.map Reading.value) := rfl
  rw [asks]
  unfold Sized at sized
  by_cases none : sizeCount p.kind.fields = 0
  · rw [if_pos none] at sized
    have empty : byteCounts p.kind.fields (shown.map Reading.value) = [] :=
      List.length_eq_zero_iff.mp (count.trans none)
    refine ⟨[], [], s, ⟨none.symm, fun _ => rfl, fun some => absurd none some⟩, ?_,
      (List.append_nil _).symm, sized⟩
    rw [sizes, empty]
    rfl
  · rw [if_neg none] at sized
    obtain ⟨⟨set, texts, others, answer, first, enough⟩, later⟩ := sized
    have some : byteCounts p.kind.fields (shown.map Reading.value) ≠ [] := by
      intro empty
      rw [empty] at count
      exact none count.symm
    refine ⟨texts, _, _, ⟨enough, fun empty => absurd empty none, fun _ =>
        ⟨w.reply s.past (sizeStatement (amounts p.kind.fields shown)), set, others, ?_,
          placeholders_sizeQuery _, amount, ?_, first⟩⟩,
      perform_sizes some answer first, Session.exchanges_answered _, later⟩
    · rw [sizeStatement_eq, amount]
    · rw [Run.answer?] at answer
      split at answer
      · exact answer
      · cases answer

/-! ## One record -/

/-- The two lines of a record that can be shown agree. -/
theorem agrees_of_shownTexts {fields : List Field} {shown : Record} {texts sizes : List String}
    {asked : List (Statement × Reply)} (fits : Fits fields shown)
    (written : shownTexts [] fields (shown.map Reading.value) = .ok texts)
    (sizing : Sizing fields shown sizes asked) :
    Row.Agrees fields
      ⟨shown, joinCells (List.zipWith align fields texts),
        joinCells (List.zipWith align fields (withSizes fields texts sizes)), sizes, asked⟩ := by
  have values : (shown.map Reading.value).length = fields.length := by
    rw [List.length_map, fits.length_eq]
  have same := length_shownTexts values written
  refine ⟨sizing, ⟨texts, withSizes fields texts sizes, same, length_withSizes sizes same, written,
    rfl, rfl, fun i f field => ?_⟩, fun none => ?_⟩
  · split
    next bytes => exact ⟨getElem?_withSizes_bytes same sizing.enough field bytes,
      getElem?_byteCounts values field bytes⟩
    next other => exact getElem?_withSizes_other same field (Bool.eq_false_iff.mpr other)
  · exact congrArg (fun texts => joinCells (List.zipWith align fields texts))
      (withSizes_none sizes same none)

/-! ## The records of a sample -/

/-- Two collectors that show the same records fail together, or have lines that agree. -/
theorem advance_alongside (plain : p.humanReadable = false)
    (distinct : (p.kind.fields.map Field.name).Nodup)
    (fits : Fits p.kind.fields p.engine.previous) {records : List Record}
    (recordsFit : ∀ record ∈ records, Fits p.kind.fields record)
    (writable : ∀ shown ∈ p.engine.shows records, Writable p.kind.fields shown)
    (sized : Sized p.kind.fields w' s' (p.engine.shows records)) :
    ∃ last, Fits p.kind.fields last ∧
      ((∃ failure failure' s₁ s₂,
          (p.advance records).perform w s = (.ok (p.remember last, .error failure), s₁) ∧
          (p.readable.advance records).perform w' s' =
            (.ok ((p.remember last).readable, .error failure'), s₂)) ∨
        ∃ (rows : List Row) (s₂ : Session), (∀ row ∈ rows, row.Agrees p.kind.fields) ∧
          rows.map Row.shown = p.engine.shows records ∧
          (p.advance records).perform w s =
            (.ok (p.remember last, .ok (rows.map Row.plain)), s) ∧
          (p.readable.advance records).perform w' s' =
            (.ok ((p.remember last).readable, .ok (rows.map Row.readable)), s₂) ∧
          s₂.exchanges = s'.exchanges ++ rows.flatMap Row.asked) := by
  -- The session of the collector without sizes stays as it is, and the other one grows by what it
  -- asks for. Both go on with the same record remembered.
  induction records generalizing p s s' with
  | nil =>
    exact ⟨p.engine.previous, fits, .inr ⟨[], s', List.forall_mem_nil _, rfl, rfl, rfl,
      (List.append_nil _).symm⟩⟩
  | cons raw records ih =>
    obtain ⟨rawFits, recordsFit⟩ := List.forall_mem_cons.mp recordsFit
    obtain ⟨writableHere, writable⟩ := List.forall_mem_cons.mp writable
    have shownFits : Fits p.kind.fields (p.engine.diff raw) := (shows_differences rawFits fits).fits
    have values : ((p.engine.diff raw).map Reading.value).length = p.kind.fields.length := by
      rw [List.length_map, shownFits.length_eq]
    obtain ⟨texts, asked, s₁, sizing, sizes, exchanged, later⟩ :=
      perform_sizesOf_readable shownFits sized
    have plainSizes : (p.sizesOf (p.engine.diff raw)).perform w s = (.ok [], s) := by
      rw [sizesOf_unreadable plain]
      rfl
    have cells := shownTexts_sizes distinct values (countsWritten shownFits writableHere)
      sizing.enough
    rcases written : shownTexts [] p.kind.fields ((p.engine.diff raw).map Reading.value) with
      fault | shown
    · rw [written] at cells
      exact ⟨p.engine.previous, fits, .inl ⟨_, _, _, _,
        perform_advance_failed (perform_emit_of_fault plainSizes (rowLine_of_fault written)),
        perform_advance_failed (c := p.readable)
          (perform_emit_of_fault (c := p.readable) sizes (rowLine_of_fault cells))⟩⟩
    · rw [written] at cells
      have first := perform_emit_of_sizes plainSizes (rowLine_of_shownTexts written)
      have firstReadable :=
        perform_emit_of_sizes (c := p.readable) sizes (rowLine_of_shownTexts cells)
      obtain ⟨last, lastFits, outcome⟩ := ih (p := p.remember raw) (s := s) plain distinct rawFits
        recordsFit writable later
      refine ⟨last, lastFits, ?_⟩
      rcases outcome with ⟨failure, failure', s₂, s₃, fails, failsReadable⟩ |
        ⟨rows, s₂, agree, shows, lines, linesReadable, exchangedLater⟩
      · refine .inl ⟨failure, failure', s₂, s₃, ?_, ?_⟩
        · rw [perform_advance_cons first, Run.perform_bind_ok fails]
          rfl
        · rw [perform_advance_cons (c := p.readable) firstReadable]
          exact (Run.perform_bind_ok failsReadable).trans rfl
      · refine .inr ⟨⟨p.engine.diff raw, _, _, texts, asked⟩ :: rows, s₂,
          List.forall_mem_cons.mpr
            ⟨agrees_of_shownTexts shownFits written sizing, agree⟩, ?_, ?_, ?_, ?_⟩
        · rw [List.map_cons, shows]
          rfl
        · rw [perform_advance_cons first, Run.perform_bind_ok lines]
          rfl
        · rw [perform_advance_cons (c := p.readable) firstReadable]
          exact (Run.perform_bind_ok linesReadable).trans rfl
        · rw [exchangedLater, exchanged, List.append_assoc, List.flatMap_cons]

/-! ## One call -/

/-- A call whose answer can be read goes on with the records of the answer. -/
theorem perform_sample_of_records {set : ResultSet} {records : List Record}
    (answer : Run.answer? m.surroundings m.session c.statement = some set)
    (read : c.records set = .ok records) :
    c.sample.perform m.surroundings m.session =
      (c.advance records).perform m.surroundings
        (m.session.answered m.surroundings c.statement) := by
  rw [sample, Run.perform_bind_ok (perform_read_of_records answer read)]

/-- A call without records fails. -/
theorem fails_of_no_records
    (unread : ∀ set records, Run.answer? m.surroundings m.session c.statement = some set →
      c.records set ≠ .ok records) : c.Fails m := by
  rcases c.perform_sample m with fails | ⟨set, records, answer, read, -⟩
  · exact fails
  · exact absurd read (unread set records answer)

/-! ## Domains without byte counts -/

/-- Without byte fields the server is not asked for anything. -/
theorem line_readable (plain : c.humanReadable = false) (none : sizeCount c.kind.fields = 0) :
    c.readable.line = c.line := by
  funext shown
  have sizes : c.readable.sizesOf shown = pure [] := by
    show Monitor.sizes c.kind.fields (shown.map Reading.value) = _
    rw [Monitor.sizes, byteCounts_none none]
    rfl
  rw [line_eq, line_eq, sizes, sizesOf_unreadable plain]
  rfl

theorem perform_advance_readable (plain : c.humanReadable = false)
    (none : sizeCount c.kind.fields = 0) (records : List Record) :
    (c.readable.advance records).perform w s =
      ((fun ended => (ended.1.readable, ended.2)) <$> c.advance records).perform w s := by
  induction records generalizing c s with
  | nil => rfl
  | cons record records ih =>
    have same := line_readable plain none
    rcases c.perform_emit record w s with
      ⟨failure, s₁, failed⟩ | ⟨sizes, line, s₁, sized, written, done⟩
    · have failed' : (Run.attempt (c.readable.engine.advance record c.readable.line)).perform w s =
          (.ok (.error failure), s₁) := same ▸ failed
      rw [Run.perform_map, perform_advance_failed failed, perform_advance_failed failed']
    · have done' : (Run.attempt (c.readable.engine.advance record c.readable.line)).perform w s =
          (.ok (.ok ({ c.readable.engine with previous := record }, line)), s₁) := same ▸ done
      have rest : ((c.readable.remember record).advance records).perform w s₁ = _ :=
        ih (c := c.remember record) (s := s₁) plain none
      rw [Run.perform_map, perform_advance_cons done, perform_advance_cons done', Run.perform_bind,
        Run.perform_bind, rest, Run.perform_map]
      rcases ((c.remember record).advance records).perform w s₁ with ⟨stop | ended, s₂⟩ <;> rfl

/-- Without byte fields a call does the same either way. -/
theorem perform_sample_readable (plain : c.humanReadable = false)
    (none : sizeCount c.kind.fields = 0) (m : Meeting) :
    c.readable.sample.perform m.surroundings m.session =
      ((fun ended => (ended.1.readable, ended.2)) <$> c.sample).perform m.surroundings
        m.session := by
  have read : c.readable.read = c.read := rfl
  rw [Run.perform_map, sample, sample, read, Run.perform_bind, Run.perform_bind]
  rcases (Run.attempt c.read).perform m.surroundings m.session with
    ⟨stop | failure | records, s₁⟩
  · rfl
  · rfl
  · exact (perform_advance_readable plain none records).trans (Run.perform_map _ _)

end Collector

/-! ## Calls side by side -/

/-- A call of a collector. -/
structure Call where
  collector : Collector
  meeting : Meeting

namespace Call

/-- How a call ends. -/
def ending (call : Call) : Except Stop (Collector × Except Failure (List String)) × Session :=
  call.collector.sample.perform call.meeting.surroundings call.meeting.session

/-- The collector that is called next. -/
def next (call : Call) : Collector :=
  match call.ending.1 with
  | .ok (c, _) => c
  | .error _ => call.collector

/-- The lines of a call, unless it fails. -/
def printed (call : Call) : Option (List String) :=
  match call.ending.1 with
  | .ok (_, .ok lines) => some lines
  | _ => none

section

variable {call : Call} {c : Collector} {s' : Session}

theorem next_of_ending {outcome : Except Failure (List String)}
    (h : call.ending = (.ok (c, outcome), s')) : call.next = c := by
  rw [next, h]

theorem printed_of_failed {failure : Failure} (h : call.ending = (.ok (c, .error failure), s')) :
    call.printed = none := by
  rw [printed, h]

theorem printed_of_lines {lines : List String} (h : call.ending = (.ok (c, .ok lines), s')) :
    call.printed = some lines := by
  rw [printed, h]

end

/-- The statistics that the server returns. -/
def answer? (call : Call) : Option ResultSet :=
  Run.answer? call.meeting.surroundings call.meeting.session call.collector.statement

/-- What the records of a call show, where the answer can be read. -/
def Showing (call : Call) (shown : List Record) : Prop :=
  ∃ set records, call.answer? = some set ∧ call.collector.records set = .ok records ∧
    shown = call.collector.engine.shows records

/-- No byte count of a call has too many digits to be written. -/
def Writable (call : Call) : Prop :=
  ∀ shown, call.Showing shown → ∀ record ∈ shown, Monitor.Writable call.collector.kind.fields record

/-- The server writes the byte counts of a call, one text for each. -/
def Sized (call : Call) : Prop :=
  ∀ shown, call.Showing shown →
    Monitor.Sized call.collector.kind.fields call.meeting.surroundings
      (call.meeting.session.answered call.meeting.surroundings call.collector.statement) shown

end Call

/-- The calls of a collector, each of the collector that the last one led to. -/
def calls (c : Collector) : List Meeting → List Call
  | [] => []
  | m :: later => ⟨c, m⟩ :: calls (Call.mk c m).next later

/-- A call of a collector, and one of the same collector that lets the server write byte counts.
Before and after they remember the same record. They fail together, or have a line for every record,
and the lines agree. The server is asked for the statistics, and for what the rows say; without byte
fields the calls do the same, whatever they meet. -/
structure Alongside (plain readable : Call) : Prop where
  before : readable.collector = plain.collector.readable
  after : readable.next = plain.next.readable
  unasked : sizeCount plain.collector.kind.fields = 0 → ∀ m : Meeting,
    readable.collector.sample.perform m.surroundings m.session =
      ((fun ended => (ended.1.readable, ended.2)) <$> plain.collector.sample).perform
        m.surroundings m.session
  ending : (plain.printed = none ∧ readable.printed = none) ∨
    ∃ (rows : List Row) (reply reply' : Reply),
      (∀ row ∈ rows, row.Agrees plain.collector.kind.fields) ∧
      plain.Showing (rows.map Row.shown) ∧
      plain.printed = some (rows.map Row.plain) ∧
      readable.printed = some (rows.map Row.readable) ∧
      plain.ending.2.exchanges =
        plain.meeting.session.exchanges ++ [(plain.collector.statement, reply)] ∧
      readable.ending.2.exchanges =
        readable.meeting.session.exchanges ++
          (plain.collector.statement, reply') :: rows.flatMap Row.asked

namespace Collector

variable {p : Collector} {m m' : Meeting}

/-- Collectors that read records of their kind. -/
structure Sound (c : Collector) : Prop where
  distinct : (c.kind.fields.map Field.name).Nodup
  fits : Fits c.kind.fields c.engine.previous
  records : ∀ set records, c.records set = .ok records →
    ∀ record ∈ records, Fits c.kind.fields record

theorem Sound.remember (sound : p.Sound) {last : Record} (fits : Fits p.kind.fields last) :
    (p.remember last).Sound :=
  ⟨sound.distinct, fits, sound.records⟩

/-- Two calls with the same statistics go side by side, and lead to collectors of which the same is
true. -/
theorem sample_alongside (plain : p.humanReadable = false) (sound : p.Sound)
    (same : (Call.mk p m).answer? = (Call.mk p.readable m').answer?)
    (writable : (Call.mk p m).Writable) (sized : (Call.mk p.readable m').Sized) :
    Alongside ⟨p, m⟩ ⟨p.readable, m'⟩ ∧
      ∃ last, Fits p.kind.fields last ∧ (Call.mk p m).next = p.remember last := by
  have unasked := perform_sample_readable plain
  -- Either both calls have the same records to show, or neither has any and both fail.
  by_cases known : ∃ set records, (Call.mk p m).answer? = some set ∧ p.records set = .ok records
  · obtain ⟨set, records, answer, read⟩ := known
    have answer' : (Call.mk p.readable m').answer? = some set := same.symm.trans answer
    have shown : (Call.mk p m).Showing (p.engine.shows records) := ⟨set, records, answer, read, rfl⟩
    have shown' : (Call.mk p.readable m').Showing (p.engine.shows records) :=
      ⟨set, records, answer', read, rfl⟩
    have writable : ∀ record ∈ p.engine.shows records, Monitor.Writable p.kind.fields record :=
      writable _ shown
    have sized : Monitor.Sized p.kind.fields m'.surroundings
        (m'.session.answered m'.surroundings p.statement) (p.engine.shows records) :=
      sized _ shown'
    obtain ⟨last, lastFits, outcome⟩ := advance_alongside (w := m.surroundings)
      (s := m.session.answered m.surroundings p.statement) plain sound.distinct sound.fits
      (sound.records set records read) writable sized
    have performs := perform_sample_of_records answer read
    have performs' := perform_sample_of_records (c := p.readable) (m := m') answer' read
    rcases outcome with ⟨failure, failure', s₁, s₂, fails, fails'⟩ |
      ⟨rows, s₂, agree, shows, lines, lines', exchanged⟩
    · have ending : (Call.mk p m).ending = (.ok (p.remember last, .error failure), s₁) :=
        performs.trans fails
      have ending' : (Call.mk p.readable m').ending =
          (.ok ((p.remember last).readable, .error failure'), s₂) := performs'.trans fails'
      have next := Call.next_of_ending ending
      exact ⟨⟨rfl, next ▸ Call.next_of_ending ending', unasked,
        .inl ⟨Call.printed_of_failed ending, Call.printed_of_failed ending'⟩⟩, last, lastFits, next⟩
    · have ending : (Call.mk p m).ending = (.ok (p.remember last, .ok (rows.map Row.plain)),
          m.session.answered m.surroundings p.statement) := performs.trans lines
      have ending' : (Call.mk p.readable m').ending =
          (.ok ((p.remember last).readable, .ok (rows.map Row.readable)), s₂) :=
        performs'.trans lines'
      have next := Call.next_of_ending ending
      rw [← shows] at shown
      refine ⟨⟨rfl, next ▸ Call.next_of_ending ending', unasked, .inr ⟨rows,
        m.surroundings.reply m.session.past p.statement,
        m'.surroundings.reply m'.session.past p.statement, agree, shown,
        Call.printed_of_lines ending, Call.printed_of_lines ending', ?_, ?_⟩⟩, last, lastFits, next⟩
      · rw [ending]
        exact Session.exchanges_answered p.statement
      · rw [ending']
        refine exchanged.trans ?_
        rw [Session.exchanges_answered, List.append_assoc, List.singleton_append]
  · have unread : ∀ set records, (Call.mk p m).answer? = some set → p.records set ≠ .ok records :=
      fun set records answer read => known ⟨set, records, answer, read⟩
    obtain ⟨failure, s₁, ending⟩ := fails_of_no_records unread
    obtain ⟨failure', s₂, ending'⟩ := fails_of_no_records (c := p.readable) (m := m')
      fun set records answer => unread set records (same.trans answer)
    have next : (Call.mk p m).next = p := Call.next_of_ending ending
    have next' : (Call.mk p.readable m').next = p.readable := Call.next_of_ending ending'
    exact ⟨⟨rfl, next'.trans (congrArg readable next.symm), unasked,
      .inl ⟨Call.printed_of_failed ending, Call.printed_of_failed ending'⟩⟩,
      p.engine.previous, sound.fits, next⟩

theorem calls_alongside_of_sound (plain : p.humanReadable = false) (sound : p.Sound)
    {meetings : List (Meeting × Meeting)}
    (same : ∀ m ∈ meetings, (Call.mk p m.1).answer? = (Call.mk p.readable m.2).answer?)
    (writable : ∀ call ∈ calls p (meetings.map Prod.fst), call.Writable)
    (sized : ∀ call ∈ calls p.readable (meetings.map Prod.snd), call.Sized) :
    List.Forall₂ Alongside (calls p (meetings.map Prod.fst))
      (calls p.readable (meetings.map Prod.snd)) := by
  induction meetings generalizing p with
  | nil => exact .nil
  | cons m meetings ih =>
    obtain ⟨first, same⟩ := List.forall_mem_cons.mp same
    obtain ⟨writableFirst, writable⟩ := List.forall_mem_cons.mp writable
    obtain ⟨sizedFirst, sized⟩ := List.forall_mem_cons.mp sized
    obtain ⟨alongside, last, lastFits, next⟩ :=
      sample_alongside plain sound first writableFirst sizedFirst
    have next' : (Call.mk p.readable m.2).next = (p.remember last).readable :=
      alongside.after.trans (congrArg readable next)
    rw [next] at writable
    rw [next'] at sized
    rw [List.map_cons, List.map_cons, calls, calls, next, next']
    exact .cons alongside
      (ih (p := p.remember last) plain (sound.remember lastFits) same writable sized)

/-! ## The domains -/

theorem start_readable (domain : Domain) (filter : Value) (release : Option Release) :
    start ⟨domain, filter, true⟩ release = readable <$> start ⟨domain, filter, false⟩ release := by
  unfold start
  cases recordKind? domain with
  | none => rfl
  | some kind =>
    cases Monitor.consoleCommand? domain with
    | some command => rfl
    | none =>
      cases release with
      | none => rfl
      | some release =>
        cases Monitor.template? domain with
        | none => rfl
        | some template =>
          dsimp only
          cases template.render release filter <;> rfl

/-- The fields of a record go by different names. -/
theorem recordKind_distinct (d : Domain) :
    ∀ kind ∈ recordKind? d, (kind.fields.map Field.name).Nodup := by
  cases d <;> (intro kind known; cases known; try decide)

/-- Every domain reads records of its kind. -/
theorem sound_of_started {subject : Subject} {release : Option Release} {c : Collector}
    (h : start subject release = .ok c) : c.Sound := by
  obtain ⟨kind, known, engine, named, -⟩ := started h
  have fields : c.kind = kind := by rw [Collector.kind, engine]; rfl
  refine ⟨fields ▸ recordKind_distinct _ kind known, ?_, fun set records read record member => ?_⟩
  · rw [fields, engine]
    exact fits_zeros kind.fields
  · cases one : kind.multirow with
    | false =>
      obtain ⟨raw, rfl, rawFits⟩ := single_of_started h known one set records read
      rw [List.mem_singleton.mp member]
      exact rawFits
    | true =>
      have domain := (recordKind_multirow known).mp one
      rw [domain] at named
      have rows : c.records set = set.rows.mapM c.kind.ofRow := by
        rw [Collector.records, fields, named, one]
        rfl
      obtain ⟨row, -, made⟩ := List.mem_map.mp
        (map_of_mapM_ok (rows.symm.trans read) ▸ List.mem_map_of_mem member)
      exact RecordKind.readCells_fits made

/-- Letting the server write byte counts changes their cells and nothing else. Two collectors of a
domain, one of which does so, are called side by side; the server gives both the same statistics and
writes the byte counts it is asked for, and no byte count has too many digits to be written without
the server. Then the calls fail together or print as many lines, the same records are remembered
after each call, and the lines agree in every cell but those of byte counts. -/
theorem calls_alongside {domain : Domain} {filter : Value} {release : Option Release}
    {plain readable : Collector} (hp : start ⟨domain, filter, false⟩ release = .ok plain)
    (hr : start ⟨domain, filter, true⟩ release = .ok readable)
    (meetings : List (Meeting × Meeting))
    (same : ∀ m ∈ meetings, (Call.mk plain m.1).answer? = (Call.mk readable m.2).answer?)
    (sized : ∀ call ∈ calls readable (meetings.map Prod.snd), call.Sized)
    (writable : ∀ call ∈ calls plain (meetings.map Prod.fst), call.Writable) :
    List.Forall₂ Alongside (calls plain (meetings.map Prod.fst))
      (calls readable (meetings.map Prod.snd)) := by
  obtain rfl : plain.readable = readable := by
    rw [start_readable, hp] at hr
    exact Except.ok.inj hr
  obtain ⟨kind, -, -, -, unreadable⟩ := started hp
  exact calls_alongside_of_sound unreadable (sound_of_started hp) same writable sized

/-- A pooler that always returns the same traffic, and the same texts for all sizes. -/
def steadyPooler (traffic : ResultSet) (sizes : List String) : Meeting where
  surroundings :=
    { reply := fun _ statement =>
        { outcome := .result
            (if statement.sql = "SHOW stats" then traffic else ⟨[], [sizes.map Value.text]⟩) } }
  session := {}

theorem answer?_steadyPooler {s : Session} (up : s.link = .up) (traffic : ResultSet)
    (sizes : List String) (amounts : List Value) :
    Run.answer? (steadyPooler traffic sizes).surroundings s (sizeStatement amounts) =
      some ⟨[], [sizes.map Value.text]⟩ := by
  have other : (sizeStatement amounts).sql ≠ "SHOW stats" := by
    intro equal
    have letters := congrArg (fun sql => sql.toList.take 2) equal
    rw [sizeStatement] at letters
    simp at letters
  rw [Run.answer?, if_pos up]
  show some (if (sizeStatement amounts).sql = "SHOW stats" then traffic else _) = _
  rw [if_neg other]

/-- The two sizes of a line of traffic are always there. -/
theorem sized_steadyPooler (traffic : ResultSet) (received sent : String) :
    (Call.mk poolerTraffic (steadyPooler traffic [received, sent])).Sized := by
  rintro shown ⟨set, records, -, read, rfl⟩
  have started : start ⟨.pbStats, .null, true⟩ none = .ok poolerTraffic := rfl
  obtain ⟨raw, rfl, -⟩ := single_of_started started rfl rfl set records read
  have count : sizeCount pbStatsFields = 2 := by decide
  show if sizeCount pbStatsFields = 0 then _ else _
  rw [if_neg (by rw [count]; decide)]
  exact ⟨⟨_, [received, sent], [], answer?_steadyPooler rfl _ _ _, rfl, count.symm⟩, trivial⟩

/-- The collector of the traffic that writes byte counts itself. -/
def plainTraffic : Collector := { poolerTraffic with humanReadable := false }

/-- A little traffic. -/
def littleTraffic : ResultSet := ⟨["total_received", "total_sent"], [[.int 5, .int 9]]⟩

theorem writable_littleTraffic (sizes : List String) :
    (Call.mk plainTraffic (steadyPooler littleTraffic sizes)).Writable := by
  rintro shown ⟨set, records, answer, read, rfl⟩
  have known : plainTraffic.records littleTraffic = .ok [[.whole 0, .whole 0, .whole 5, .whole 9,
    .whole 0, .whole 0, .whole 0]] := rfl
  have same : littleTraffic = set := Option.some.inj answer
  subst same
  obtain rfl := Except.ok.inj (known.symm.trans read)
  refine List.forall_mem_singleton.mpr fun i f n _ _ value => ?_
  have member : Reading.whole n ∈ [.whole 0, .whole 0, .whole 5, .whole 9, .whole 0, .whole 0,
    .whole 0] := List.mem_of_getElem? value
  have small : n = 0 ∨ n = 5 ∨ n = 9 := by
    simp only [List.mem_cons, Reading.whole.injEq, List.not_mem_nil, or_false] at member
    omega
  rcases small with rfl | rfl | rfl <;> decide +kernel

/-- A little traffic, shown with and without the sizes of the server. -/
theorem calls_alongside_littleTraffic :
    start ⟨.pbStats, .null, false⟩ none = .ok plainTraffic ∧
      start ⟨.pbStats, .null, true⟩ none = .ok poolerTraffic ∧
      List.Forall₂ Alongside
        (calls plainTraffic [steadyPooler littleTraffic ["5 bytes", "9 bytes"]])
        (calls poolerTraffic [steadyPooler littleTraffic ["5 bytes", "9 bytes"]]) := by
  have hp : start ⟨.pbStats, .null, false⟩ none = .ok plainTraffic := rfl
  have hr : start ⟨.pbStats, .null, true⟩ none = .ok poolerTraffic := rfl
  let m := steadyPooler littleTraffic ["5 bytes", "9 bytes"]
  exact ⟨hp, hr, calls_alongside hp hr [(m, m)] (List.forall_mem_singleton.mpr rfl)
    (List.forall_mem_singleton.mpr (sized_steadyPooler _ _ _))
    (List.forall_mem_singleton.mpr (writable_littleTraffic _))⟩

/-- So much traffic that the collector cannot write it. -/
def hugeTraffic : ResultSet :=
  ⟨["total_received", "total_sent"], [[.decimal (.finite false 1 4300), .int 7]]⟩

/-- A byte count with too many digits makes the difference between a line and none. -/
theorem huge_count_unwritten :
    start ⟨.pbStats, .null, false⟩ none = .ok plainTraffic ∧
      start ⟨.pbStats, .null, true⟩ none = .ok poolerTraffic ∧
      let m := steadyPooler hugeTraffic ["huge", "7 bytes"]
      (Call.mk plainTraffic m).answer? = (Call.mk poolerTraffic m).answer? ∧
        (Call.mk poolerTraffic m).Sized ∧ (Call.mk plainTraffic m).printed = none ∧
        (Call.mk poolerTraffic m).printed =
          some ["        0        0      huge   7 bytes          0          0          0"] := by
  refine ⟨rfl, rfl, rfl, sized_steadyPooler _ _ _, ?_, ?_⟩ <;> decide +kernel

end Collector

end PgVitals.Monitor
