import Mathlib.Algebra.GroupWithZero.Nat
import Mathlib.Data.List.SplitBy
import PgVitals.Monitor.Layout
import PgVitals.Monitor.Registry
import PgVitals.Proofs.Monitor.Difference
import PgVitals.Proofs.Text.Words
/-!
# Columns under their headings

The titles over runs of fields, the labels over single fields and the cells of a sample are lines
that are made separately. They line up because every part of them is as wide as what stands below or
above it, with one blank in front. A cell that is too wide moves what follows in its line, but the
words of the line still are the cells.

* `spaced` are parts one behind the other with a blank in front of each, and `segment` what stands
  in a line from a column on. `segment_spaced` says that a part stands behind the parts before it.
* `Fills` says of a place that it shows a text in the column of a field, and `InColumns` of a line
  that it shows some texts so.
* `runs` are the longest runs of neighbouring fields with the same title. `groups_eq_runs` says that
  the groups of the program are these, by induction over the run in front.
* `Spacious` says that there is room for every title, and `spacious_recordKind?` that all records of
  the monitor have it. Then titles stand above their runs: `Headed`.
* `words_joinCells` is about cells of any width: where no text has a blank, the words of the line
  are the texts.

Columns are counted in characters; a character that a terminal shows in two places counts as one.
Where a title is too long for its run, the line of titles is longer than the one below, and nothing
is said of what stands where.
-/

namespace PgVitals.Monitor

open PgVitals.Text

/-! ## Parts of a line -/

/-- What stands in a line from a column on, over so many columns. -/
def segment (line : List Char) (start count : Nat) : List Char := (line.drop start).take count

/-- Parts one behind the other, with a blank in front of each. -/
def spaced (parts : List (List Char)) : List Char := parts.flatMap fun part => ' ' :: part

theorem spaced_cons (part : List Char) (parts : List (List Char)) :
    spaced (part :: parts) = ' ' :: (part ++ spaced parts) := rfl

theorem length_spaced (parts : List (List Char)) :
    (spaced parts).length = (parts.map fun part => part.length + 1).sum := by
  rw [spaced, List.length_flatMap]
  rfl

/-- A part stands behind the parts before it and the blanks in front of them and of itself. -/
theorem segment_spaced (before : List (List Char)) (part : List Char) (behind : List (List Char)) :
    segment (spaced (before ++ part :: behind))
      (1 + (before.map fun part => part.length + 1).sum) part.length = part := by
  have shape : spaced (before ++ part :: behind) =
      (spaced before ++ [' ']) ++ (part ++ spaced behind) := by
    simp [spaced]
  have place : 1 + (before.map fun part => part.length + 1).sum =
      (spaced before ++ [' ']).length := by
    rw [List.length_append, length_spaced, List.length_singleton, Nat.add_comm]
  rw [segment, shape, place, List.drop_left, List.take_left]

theorem wordsIn_spaced (parts : List (List Char)) :
    wordsIn (spaced parts) = parts.flatMap wordsIn := by
  have blank : isBlank ' ' = true := by decide
  induction parts with
  | nil => rfl
  | cons part parts ih =>
    rw [spaced_cons, wordsIn_cons _ blank, List.flatMap_cons, ← ih]
    cases parts with
    | nil => rw [spaced, List.flatMap_nil, List.append_nil, wordsIn_nil, List.append_nil]
    | cons next parts =>
      rw [spaced_cons, wordsIn_append_cons part _ blank, wordsIn_cons _ blank]

/-- Texts with a blank between any two and one in front are texts with a blank in front of each. -/
theorem toList_blank_intercalate {parts : List String} (some : parts ≠ []) :
    (" " ++ String.intercalate " " parts).toList = spaced (parts.map String.toList) := by
  have blank : " ".toList = [' '] := by decide
  rw [String.toList_append, String.toList_intercalate, blank, List.singleton_append]
  induction parts with
  | nil => contradiction
  | cons part parts ih =>
    cases parts with
    | nil => simp [spaced]
    | cons next parts =>
      rw [List.map_cons, spaced_cons, ← ih (List.cons_ne_nil _ _), List.map_cons,
        List.intercalate_cons_cons]
      simp

/-! ## Cells -/

/-- Whether a place on a line shows a text in the column of a field: it is as wide as the column, a
text begins at its left edge, anything else ends at the right one, and the rest is blank. -/
def Fills (f : Field) (s : String) (place : List Char) : Prop :=
  place.length = f.width ∧ ∃ blanks : List Char, (∀ c ∈ blanks, c = ' ') ∧
    place = if f.kind = .text then s.toList ++ blanks else blanks ++ s.toList

/-- The blanks that a text leaves of its column are on one side of it. -/
theorem exists_toList_align (f : Field) (s : String) :
    ∃ blanks : List Char, (∀ c ∈ blanks, c = ' ') ∧ blanks.length = f.width - Text.width s ∧
      (align f s).toList = if f.kind = .text then s.toList ++ blanks else blanks ++ s.toList := by
  refine ⟨List.replicate (f.width - Text.width s) ' ', fun c => List.eq_of_mem_replicate,
    List.length_replicate, ?_⟩
  rw [align]
  split
  · rw [padRight, padRightWith, String.toList_ofList, Text.width]
  · rw [padLeft, String.toList_ofList, Text.width]

theorem fills_align {f : Field} {s : String} (fits : Text.width s ≤ f.width) :
    Fills f s (align f s).toList := by
  obtain ⟨blanks, blank, size, shape⟩ := exists_toList_align f s
  refine ⟨?_, blanks, blank, shape⟩
  rw [Text.width] at fits size
  rw [shape]
  split <;> rw [List.length_append] <;> omega

theorem width_label_le (f : Field) : Text.width f.label ≤ f.width := Nat.le_max_right _ _

theorem wordsIn_align {f : Field} {s : String} (some : s ≠ "")
    (visible : ∀ c ∈ s.toList, isBlank c = false) : wordsIn (align f s).toList = [s.toList] := by
  obtain ⟨blanks, blank, -, shape⟩ := exists_toList_align f s
  have blank : ∀ c ∈ blanks, isBlank c = true := fun c member => by
    rw [blank c member]
    decide
  have word : wordsIn s.toList = [s.toList] :=
    wordsIn_word (fun none => some (String.toList_inj.mp none)) visible
  rw [shape]
  split
  · rw [wordsIn_append_blanks _ blank, word]
  · rw [wordsIn_blanks_append blank, word]

/-! ## Columns -/

/-- The column in which a field begins, counted from zero: a blank stands there in front of it, and
before that every field takes its width and a blank. -/
def column (fields : List Field) (i : Nat) : Nat :=
  1 + ((fields.take i).map fun f => f.width + 1).sum

/-- Whether a line shows some texts in the columns of their fields. -/
def InColumns (fields : List Field) (texts : List String) (line : List Char) : Prop :=
  ∀ (i : Nat) (f : Field) (s : String), fields[i]? = some f → texts[i]? = some s →
    Fills f s (segment line (column fields i) f.width)

/-- The cells of some texts, each as wide as the column of its field or wider. -/
def aligned (fields : List Field) (texts : List String) : List (List Char) :=
  (List.zipWith align fields texts).map String.toList

theorem length_aligned {fields : List Field} {texts : List String}
    (same : texts.length = fields.length) : (aligned fields texts).length = fields.length := by
  rw [aligned, List.length_map, List.length_zipWith, same, Nat.min_self]

theorem getElem?_aligned {fields : List Field} {texts : List String} {i : Nat} {f : Field}
    {s : String} (field : fields[i]? = some f) (text : texts[i]? = some s) :
    (aligned fields texts)[i]? = some (align f s).toList := by
  rw [aligned, List.getElem?_map, List.getElem?_zipWith, field, text]
  rfl

/-- Texts that are no wider than their columns take exactly their columns. -/
theorem map_length_aligned {fields : List Field} {texts : List String}
    (same : texts.length = fields.length)
    (fits : ∀ (i : Nat) (f : Field) (s : String), fields[i]? = some f → texts[i]? = some s →
      Text.width s ≤ f.width) :
    (aligned fields texts).map List.length = fields.map Field.width := by
  refine List.ext_getElem? fun i => ?_
  by_cases inside : i < fields.length
  · have field := List.getElem?_eq_getElem inside
    have text := List.getElem?_eq_getElem (same ▸ inside : i < texts.length)
    rw [List.getElem?_map, List.getElem?_map, getElem?_aligned field text, field, Option.map_some,
      Option.map_some, (fills_align (fits i _ _ field text)).1]
  · rw [List.getElem?_eq_none, List.getElem?_eq_none]
    · rw [List.length_map]
      omega
    · rw [List.length_map, length_aligned same]
      omega

theorem inColumns_spaced {fields : List Field} {texts : List String}
    (same : texts.length = fields.length)
    (fits : ∀ (i : Nat) (f : Field) (s : String), fields[i]? = some f → texts[i]? = some s →
      Text.width s ≤ f.width) : InColumns fields texts (spaced (aligned fields texts)) := by
  intro i f s field text
  have filled := fills_align (fits i f s field text)
  obtain ⟨inside, cell⟩ := List.getElem?_eq_some_iff.mp (getElem?_aligned field text)
  have place : column fields i =
      1 + (((aligned fields texts).take i).map fun part => part.length + 1).sum := by
    have widths := congrArg (fun sizes : List Nat => ((sizes.take i).map (· + 1)).sum)
      (map_length_aligned same fits)
    simp only [← List.map_take, List.map_map] at widths
    exact congrArg (1 + ·) widths.symm
  have found := segment_spaced ((aligned fields texts).take i) (align f s).toList
    ((aligned fields texts).drop (i + 1))
  rw [← cell, List.getElem_cons_drop, List.take_append_drop, ← place, cell, filled.1] at found
  rw [found]
  exact filled

/-! ## Runs of fields -/

/-- The longest runs of neighbouring fields with the same title. -/
def runs (fields : List Field) : List (List Field) :=
  fields.splitBy fun f g => f.group == g.group

/-- The columns from the start of the first field of a run to the end of the last one: the widths,
and the blanks between. -/
def span (run : List Field) : Nat := (run.map Field.width).sum + (run.length - 1)

/-- Whether every title has room above its run, with a blank at either side. -/
def Spacious (fields : List Field) : Prop :=
  ∀ run ∈ runs fields, ∀ f ∈ run, f.group ≠ "" → Text.width f.group + 2 ≤ span run

instance (fields : List Field) : Decidable (Spacious fields) :=
  inferInstanceAs (Decidable (∀ run ∈ runs fields, ∀ f ∈ run, _))

/-- With the blank in front of it a run takes what its fields take with theirs. -/
theorem span_add_one {run : List Field} (some : run ≠ []) :
    span run + 1 = (run.map fun f => f.width + 1).sum := by
  have positive := List.length_pos_iff.mpr some
  have split : (run.map fun f => f.width + 1).sum = (run.map Field.width).sum + run.length := by
    clear positive some
    induction run with
    | nil => rfl
    | cons f run ih =>
      rw [List.map_cons, List.map_cons, List.sum_cons, List.sum_cons, List.length_cons, ih]
      omega
  rw [span, split]
  omega

/-- The fields of a run have one title. -/
theorem group_eq_head {run : List Field} {f g : Field}
    (chain : (f :: run).IsChain fun a b => (a.group == b.group) = true) (member : g ∈ f :: run) :
    g.group = f.group := by
  induction run generalizing f with
  | nil => rw [List.mem_singleton.mp member]
  | cons h run ih =>
    obtain ⟨first, rest⟩ := List.isChain_cons_cons.mp chain
    rcases List.mem_cons.mp member with rfl | member
    · rfl
    · rw [ih rest member, beq_iff_eq.mp first]

/-- The first group has the title of the first field. -/
theorem head?_groups (fields : List Field) :
    (groups fields).head?.map Group.title = fields.head?.map Field.group := by
  cases fields with
  | nil => rfl
  | cons f fields =>
    rw [groups, List.foldr_cons]
    generalize List.foldr extendGroups [] fields = rest
    rw [List.head?_cons, Option.map_some]
    unfold extendGroups
    split
    · split
      next same => rw [List.head?_cons, Option.map_some, beq_iff_eq.mp same]
      next => rw [List.head?_cons, Option.map_some]
    · rw [List.head?_cons, Option.map_some]

/-- A run that ends where the title changes is one group, with the span of the run. -/
theorem groups_run_append {f : Field} {run rest : List Field}
    (chain : (f :: run).IsChain fun a b => (a.group == b.group) = true)
    (ends : ∀ g ∈ rest.head?, g.group ≠ f.group) :
    groups (f :: run ++ rest) = ⟨f.group, span (f :: run)⟩ :: groups rest := by
  induction run generalizing f with
  | nil =>
    -- The groups behind the last field of the run begin with another title: it opens a group.
    rw [List.singleton_append, groups, List.foldr_cons, ← groups]
    have head := head?_groups rest
    have size : span [f] = f.width := by simp [span]
    rw [size]
    cases known : groups rest with
    | nil => rfl
    | cons g gs =>
      rw [known] at head
      cases rest with
      | nil => cases head
      | cons h rest =>
        have title : g.title = h.group := Option.some.inj head
        have other : (g.title == f.group) = false := by
          rw [title]
          exact beq_eq_false_iff_ne.mpr (ends h rfl)
        rw [extendGroups, other]
        rfl
  | cons g run ih =>
    -- The group that the others of the run make has the title of the first one, which joins it.
    obtain ⟨first, others⟩ := List.isChain_cons_cons.mp chain
    have title : g.group = f.group := (beq_iff_eq.mp first).symm
    rw [List.cons_append, groups, List.foldr_cons, ← groups,
      ih others (fun h head => title ▸ ends h head), extendGroups, if_pos (beq_iff_eq.mpr title),
      title]
    congr 2
    simp [span]
    omega

/-- The title and the span of a run. -/
def groupOf (run : List Field) : Group := ⟨(run.head?.map Field.group).getD "", span run⟩

theorem groups_flatten {parts : List (List Field)} (some : [] ∉ parts)
    (chains : ∀ run ∈ parts, run.IsChain fun a b => (a.group == b.group) = true)
    (changes : parts.IsChain fun a b => ∃ ha hb,
      ((a.getLast ha).group == (b.head hb).group) = false) :
    groups parts.flatten = parts.map groupOf := by
  induction parts with
  | nil => rfl
  | cons run parts ih =>
    rw [List.mem_cons, not_or] at some
    obtain ⟨chain, others⟩ := List.forall_mem_cons.mp chains
    cases run with
    | nil => exact absurd rfl some.1
    | cons f run =>
      have ends : ∀ g ∈ parts.flatten.head?, g.group ≠ f.group := by
        intro g head
        cases parts with
        | nil => cases head
        | cons next parts =>
          obtain ⟨ha, hb, other⟩ := (List.isChain_cons_cons.mp changes).1
          have first : g = next.head hb := by
            rw [List.flatten_cons, List.head?_append_of_ne_nil _ hb,
              List.head?_eq_some_head hb] at head
            exact (Option.some.inj head).symm
          rw [first, ← group_eq_head chain (List.getLast_mem ha)]
          exact (beq_eq_false_iff_ne.mp other).symm
      rw [List.flatten_cons, groups_run_append chain ends, ih some.2 others changes.tail]
      rfl

/-- The groups of neighbouring fields are their runs. -/
theorem groups_eq_runs (fields : List Field) : groups fields = (runs fields).map groupOf := by
  have whole : groups (runs fields).flatten = (runs fields).map groupOf :=
    groups_flatten (List.nil_notMem_splitBy _ _) (fun _ => List.isChain_of_mem_splitBy)
      (List.isChain_getLast_head_splitBy (fun f g : Field => f.group == g.group) fields)
  rwa [runs, List.flatten_splitBy] at whole

/-! ## Titles -/

/-- Whether a place on a line shows a title over so many columns: in the middle, with a blank at
either side, and dashes for the rest. -/
def Titled (title : String) (columns : Nat) (place : List Char) : Prop :=
  place.length = columns ∧ ∃ left right : List Char, (∀ c ∈ left ++ right, c = '-') ∧
    left.length ≤ right.length + 1 ∧ right.length ≤ left.length + 1 ∧
    place = left ++ ' ' :: title.toList ++ ' ' :: right

theorem titled_text {g : Group} (some : g.title ≠ "") (room : Text.width g.title + 2 ≤ g.span) :
    Titled g.title g.span g.text.toList := by
  have middle : (" " ++ g.title ++ " ").toList = ' ' :: g.title.toList ++ [' '] := by
    have blank : " ".toList = [' '] := by decide
    rw [String.toList_append, String.toList_append, blank]
    rfl
  have size : (' ' :: g.title.toList ++ [' ']).length = Text.width g.title + 2 := by
    rw [List.length_append, List.length_cons, List.length_singleton, Text.width]
  have shape : g.text.toList =
      List.replicate (centerMargin (Text.width g.title + 2) g.span) '-' ++
        (' ' :: g.title.toList ++ [' ']) ++
        List.replicate (g.span - (Text.width g.title + 2) -
          centerMargin (Text.width g.title + 2) g.span) '-' := by
    rw [Group.text, if_neg (by rwa [String.isEmpty_iff]), center, String.toList_ofList, middle,
      size]
  generalize hm : centerMargin (Text.width g.title + 2) g.span = margin at shape
  have half : margin ≤ g.span - (Text.width g.title + 2) ∧
      margin ≤ g.span - (Text.width g.title + 2) - margin + 1 ∧
      g.span - (Text.width g.title + 2) - margin ≤ margin + 1 := by
    subst hm
    unfold centerMargin
    dsimp only
    split <;> omega
  refine ⟨?_, List.replicate margin '-',
    List.replicate (g.span - (Text.width g.title + 2) - margin) '-', ?_, ?_, ?_, ?_⟩
  · rw [shape, List.length_append, List.length_append, size, List.length_replicate,
      List.length_replicate]
    omega
  · intro c member
    rcases List.mem_append.mp member with member | member <;> exact List.eq_of_mem_replicate member
  · rw [List.length_replicate, List.length_replicate]
    exact half.2.1
  · rw [List.length_replicate, List.length_replicate]
    exact half.2.2
  · rw [shape]
    simp

/-- Where there is room for the title, a group takes exactly its span. -/
theorem length_text {g : Group} (room : g.title ≠ "" → Text.width g.title + 2 ≤ g.span) :
    g.text.toList.length = g.span := by
  by_cases none : g.title = ""
  · rw [Group.text, if_pos (String.isEmpty_iff.mpr none), repeated, String.toList_ofList,
      List.length_replicate]
  · exact (titled_text none (room none)).1

/-- Whether titles stand above their runs, and labels above their fields. -/
structure Headed (fields : List Field) (titles labels : List Char) : Prop where
  titles : ∀ (before : List (List Field)) (run : List Field) (behind : List (List Field)),
    runs fields = before ++ run :: behind → ∀ f ∈ run, f.group ≠ "" →
      Titled f.group (span run) (segment titles (column fields before.flatten.length) (span run))
  labels : InColumns fields (fields.map Field.label) labels

theorem groupOf_title {fields run : List Field} {f : Field} (found : run ∈ runs fields)
    (member : f ∈ run) : groupOf run = ⟨f.group, span run⟩ := by
  cases run with
  | nil => cases member
  | cons g run =>
    rw [group_eq_head (List.isChain_of_mem_splitBy found) member]
    rfl

/-- The runs before a run take the columns in front of it. -/
theorem column_run {fields : List Field} {before : List (List Field)} {run : List Field}
    {behind : List (List Field)} (split : runs fields = before ++ run :: behind) :
    column fields before.flatten.length = 1 + (before.map fun run => span run + 1).sum := by
  have whole : fields = before.flatten ++ (run :: behind).flatten := by
    rw [← List.flatten_append, ← split, runs, List.flatten_splitBy]
  have some : ∀ part ∈ before, part ≠ [] := fun part member =>
    List.ne_nil_of_mem_splitBy (split ▸ List.mem_append_left _ member : part ∈ runs fields)
  have first : fields.take before.flatten.length = before.flatten := by
    conv_lhs => rw [whole]
    rw [List.take_left]
  rw [column, first]
  congr 1
  clear split whole first
  induction before with
  | nil => rfl
  | cons part before ih =>
    obtain ⟨here, others⟩ := List.forall_mem_cons.mp some
    rw [List.flatten_cons, List.map_append, List.sum_append, ih others, List.map_cons,
      List.sum_cons, span_add_one here]

theorem titled_spaced {fields : List Field} (spacious : Spacious fields)
    {before : List (List Field)} {run : List Field} {behind : List (List Field)}
    (split : runs fields = before ++ run :: behind) {f : Field} (member : f ∈ run)
    (some : f.group ≠ "") :
    Titled f.group (span run)
      (segment (spaced ((groups fields).map fun g => g.text.toList))
        (column fields before.flatten.length) (span run)) := by
  have size : ∀ part ∈ runs fields, (groupOf part).text.toList.length = span part := by
    intro part found
    obtain ⟨g, inside⟩ := List.exists_mem_of_ne_nil part (List.ne_nil_of_mem_splitBy found)
    have group := groupOf_title found inside
    rw [group]
    exact length_text (g := ⟨g.group, span part⟩) fun some => spacious part found g inside some
  have found : run ∈ runs fields := split ▸ List.mem_append_right _ List.mem_cons_self
  have widths : (before.map fun part => span part + 1) =
      (before.map fun part => (groupOf part).text.toList).map fun text => text.length + 1 := by
    rw [List.map_map]
    refine List.map_congr_left fun part member => ?_
    rw [Function.comp_apply, size part (split ▸ List.mem_append_left _ member)]
  have titled : Titled f.group (span run) (groupOf run).text.toList := by
    rw [groupOf_title found member]
    exact titled_text (g := ⟨f.group, span run⟩) some (spacious run found f member some)
  rw [groups_eq_runs, List.map_map, split, List.map_append, List.map_cons, column_run split, widths]
  have place := segment_spaced (before.map fun part => (groupOf part).text.toList)
    (groupOf run).text.toList (behind.map fun part => (groupOf part).text.toList)
  rw [size run found] at place
  exact place.symm ▸ titled

/-! ## The texts of a line -/

/-- What a field shows: the size that the server wrote for it, where there is one. -/
def shownText (sizes : Sizes) (f : Field) (v : Value) : Except Fault String :=
  match sizes.lookup f.name with
  | some size => sizeText size
  | none => cellText f v

/-- What the fields of a line show. -/
def shownTexts (sizes : Sizes) : List Field → List Value → Except Fault (List String)
  | f :: fields, v :: values => do
    let text ← shownText sizes f v
    let rest ← shownTexts sizes fields values
    return text :: rest
  | _, _ => .ok []

theorem cellFor_eq (sizes : Sizes) (f : Field) (v : Value) :
    cellFor sizes f v = align f <$> shownText sizes f v := by
  rw [cellFor, shownText]
  cases sizes.lookup f.name with
  | some size => cases sizeText size <;> rfl
  | none => cases cellText f v <;> rfl

/-- The cells of a line are the texts that its fields show, each brought to its width. -/
theorem cells_eq (sizes : Sizes) (fields : List Field) (values : List Value) :
    cells sizes fields values = List.zipWith align fields <$> shownTexts sizes fields values := by
  induction fields generalizing values with
  | nil => rfl
  | cons f fields ih =>
    cases values with
    | nil => rfl
    | cons v values =>
      rw [cells, shownTexts, cellFor_eq, ih]
      cases shownText sizes f v with
      | error fault => rfl
      | ok text => cases shownTexts sizes fields values <;> rfl

theorem rowLine_of_shownTexts {sizes : Sizes} {fields : List Field} {values : List Value}
    {texts : List String} (shown : shownTexts sizes fields values = .ok texts) :
    rowLine fields values sizes = .ok (joinCells (List.zipWith align fields texts)) := by
  rw [rowLine, cells_eq, shown]
  rfl

theorem rowLine_of_fault {sizes : Sizes} {fields : List Field} {values : List Value} {fault : Fault}
    (failed : shownTexts sizes fields values = .error fault) :
    rowLine fields values sizes = .error fault := by
  rw [rowLine, cells_eq, failed]
  rfl

theorem length_shownTexts {sizes : Sizes} {fields : List Field} {values : List Value}
    {texts : List String} (same : values.length = fields.length)
    (shown : shownTexts sizes fields values = .ok texts) : texts.length = fields.length := by
  induction fields generalizing values texts with
  | nil =>
    cases shown
    rfl
  | cons f fields ih =>
    cases values with
    | nil => cases same
    | cons v values =>
      obtain ⟨text, -, shown⟩ := exists_of_bind_ok shown
      obtain ⟨rest, others, shown⟩ := exists_of_bind_ok shown
      cases shown
      rw [List.length_cons, List.length_cons, ih (Nat.succ.inj same) others]

/-- Trimming the end of a line leaves every part where it was. -/
theorem exists_joinCells (cells : List String) :
    ∃ tail, (∀ c ∈ tail, isBlank c = true) ∧
      (joinCells cells).toList ++ tail = spaced (cells.map String.toList) := by
  by_cases some : cells = []
  · subst some
    exact ⟨[], List.forall_mem_nil _, by decide⟩
  · obtain ⟨tail, blank, whole⟩ := exists_trimEnd (" " ++ String.intercalate " " cells)
    exact ⟨tail, blank, whole.trans (toList_blank_intercalate some)⟩

theorem flatMap_wordsIn_aligned {fields : List Field} {texts : List String}
    (same : texts.length = fields.length)
    (visible : ∀ s ∈ texts, s ≠ "" ∧ ∀ c ∈ s.toList, isBlank c = false) :
    (aligned fields texts).flatMap wordsIn = texts.map String.toList := by
  induction fields generalizing texts with
  | nil =>
    rw [List.length_eq_zero_iff.mp same]
    rfl
  | cons f fields ih =>
    cases texts with
    | nil => cases same
    | cons s texts =>
      obtain ⟨first, others⟩ := List.forall_mem_cons.mp visible
      have rest := ih (Nat.succ.inj same) others
      rw [aligned] at rest ⊢
      rw [List.zipWith_cons_cons, List.map_cons, List.flatMap_cons, wordsIn_align first.1 first.2,
        rest]
      rfl

/-- However wide they are, texts without blanks are the words of their line. -/
theorem words_joinCells {fields : List Field} {texts : List String}
    (same : texts.length = fields.length)
    (visible : ∀ s ∈ texts, s ≠ "" ∧ ∀ c ∈ s.toList, isBlank c = false) :
    words (joinCells (List.zipWith align fields texts)) = texts := by
  obtain ⟨tail, blank, whole⟩ := exists_joinCells (List.zipWith align fields texts)
  rw [words, ← wordsIn_append_blanks _ blank, whole, wordsIn_spaced, ← aligned,
    flatMap_wordsIn_aligned same visible, List.map_map]
  exact (List.map_congr_left fun s _ => String.ofList_toList).trans (List.map_id _)

theorem inColumns_labels (fields : List Field) :
    InColumns fields (fields.map Field.label)
      (" " ++ String.intercalate " " (fields.map fun f => align f f.label)).toList := by
  by_cases some : fields = []
  · subst some
    intro i f s field
    cases field
  · have cells : (fields.map fun f => align f f.label).map String.toList =
        aligned fields (fields.map Field.label) := by
      rw [aligned, List.zipWith_map_right, List.zipWith_self]
    rw [toList_blank_intercalate (by simpa using some), cells]
    refine inColumns_spaced (List.length_map _) fun i f s field text => ?_
    rw [List.getElem?_map, field] at text
    cases text
    exact width_label_le f

/-! ## Registered records -/

/-- There is room for every title of the records that are registered. -/
theorem spacious_recordKind? (d : Domain) : ∀ kind ∈ recordKind? d, Spacious kind.fields := by
  cases d <;> (intro kind known; cases known; try decide +kernel)

/-- Headings and cells line up. Where titles have room, they stand exactly over the fields of their
runs, and labels over their fields. Texts that are no wider than their columns are shown in the same
columns. And no matter how wide texts are, those without blanks are the words of their line. -/
theorem lines_in_columns :
    (∀ (d : Domain) (kind : RecordKind), recordKind? d = some kind → Spacious kind.fields) ∧
    ∀ fields : List Field,
      (Spacious fields → ∃ (titles labels : String) (tail : List Char),
        headerLines fields = [titles, labels] ∧ (∀ c ∈ tail, isBlank c = true) ∧
        Headed fields (titles.toList ++ tail) labels.toList) ∧
      ∀ (sizes : Sizes) (values : List Value) (texts : List String),
        values.length = fields.length → shownTexts sizes fields values = .ok texts →
        ∃ (line : String) (tail : List Char), rowLine fields values sizes = .ok line ∧
          texts.length = fields.length ∧ (∀ c ∈ tail, isBlank c = true) ∧
          ((∀ (i : Nat) (f : Field) (s : String), fields[i]? = some f → texts[i]? = some s →
              Text.width s ≤ f.width) → InColumns fields texts (line.toList ++ tail)) ∧
          ((∀ s ∈ texts, s ≠ "" ∧ ∀ c ∈ s.toList, isBlank c = false) → words line = texts) := by
  refine ⟨fun d kind known => spacious_recordKind? d kind known, fun fields => ⟨fun spacious => ?_,
    fun sizes values texts same shown => ?_⟩⟩
  · obtain ⟨tail, blank, whole⟩ := exists_joinCells ((groups fields).map Group.text)
    refine ⟨_, _, tail, rfl, blank, fun before run behind split f member some => ?_,
      inColumns_labels fields⟩
    rw [whole, List.map_map]
    exact titled_spaced spacious split member some
  · have length := length_shownTexts same shown
    obtain ⟨tail, blank, whole⟩ := exists_joinCells (List.zipWith align fields texts)
    refine ⟨_, tail, rowLine_of_shownTexts shown, length, blank, fun fits => ?_,
      words_joinCells length⟩
    rw [whole, ← aligned]
    exact inColumns_spaced length fits

/-- The headings of temporary files, a sample that fits and one whose size is too wide. -/
theorem lines_in_columns_tempFiles :
    (∃ (titles labels : String) (tail : List Char),
      headerLines tempFileFields = [titles, labels] ∧ (∀ c ∈ tail, isBlank c = true) ∧
        Headed tempFileFields (titles.toList ++ tail) labels.toList) ∧
    (∃ (line : String) (tail : List Char),
      rowLine tempFileFields [.int 3, .int 4096] [("size", .text "4 MB")] = .ok line ∧
        InColumns tempFileFields ["3", "4 MB"] (line.toList ++ tail)) ∧
    ∃ line : String, rowLine tempFileFields [.int 3, .int 123456789012] [] = .ok line ∧
      words line = ["3", "123456789012"] := by
  obtain ⟨registered, lines⟩ := lines_in_columns
  obtain ⟨headed, rows⟩ := lines tempFileFields
  refine ⟨headed (registered .tempFile { fields := tempFileFields } rfl), ?_, ?_⟩
  · obtain ⟨line, tail, written, -, -, fits, -⟩ :=
      rows [("size", .text "4 MB")] [.int 3, .int 4096] ["3", "4 MB"] rfl (by decide +kernel)
    refine ⟨line, tail, written, fits fun i f s field text => ?_⟩
    match i with
    | 0 | 1 =>
      cases field
      cases text
      decide
    | i + 2 => cases field
  · obtain ⟨line, tail, written, -, -, -, visible⟩ :=
      rows [] [.int 3, .int 123456789012] ["3", "123456789012"] rfl (by decide +kernel)
    have blankFree : ∀ s ∈ ["3", "123456789012"],
        s ≠ "" ∧ (s.toList.all fun c => !isBlank c) = true := by decide
    refine ⟨line, written, visible fun s member => ⟨(blankFree s member).1, fun c among => ?_⟩⟩
    simpa using List.all_eq_true.mp (blankFree s member).2 c among

end PgVitals.Monitor
