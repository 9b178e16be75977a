import PgVitals.Proofs.Files.Append
import PgVitals.Proofs.Text.Parts
/-!
# Files in a directory

The path of a file in a directory leads to the file of that name right below the directory, unless
the path as a whole is too long. So opening the file can fail for two reasons only, both of which
the system has words for, and a write to another file changes nothing about it.

* `FileName` are names that stand for a file, and not for a path or a way through one.
* `join_eq` says how the path of a directory and a name are put together, and `Tree.follow_join`
  that its components are those of the directory and the name. `Tree.find_join` is what follows for
  where the path leads.
* `Tree.openAppend_join` has the two reasons: the path is too long, or there is a directory of that
  name.
* `Tree.Grown` relates two trees by the texts that were appended to some files between them. It
  composes with `Grown.append`, so the files of many views are looked at one at a time.

Permissions are not part of the tree, and a disk is never full; that an open file cannot be written
to is a parameter of the surroundings. The greatest lengths of names and paths are counted in bytes.
-/

namespace PgVitals.Files

open PgVitals.Text

/-- A name that stands for a file, and not for a path or a way through one. -/
structure FileName (name : String) : Prop where
  whole : '/' ∉ name.toList
  plain : Char.ofNat 0 ∉ name.toList
  proper : name ∉ ["", ".", ".."]
  short : name.utf8ByteSize ≤ Tree.nameLimit

instance (name : String) : Decidable (FileName name) :=
  decidable_of_iff
    ('/' ∉ name.toList ∧ Char.ofNat 0 ∉ name.toList ∧ name ∉ ["", ".", ".."] ∧
      name.utf8ByteSize ≤ Tree.nameLimit)
    ⟨fun ⟨a, b, c, d⟩ => ⟨a, b, c, d⟩, fun ⟨a, b, c, d⟩ => ⟨a, b, c, d⟩⟩

namespace Tree

variable {t : Tree} {d l : Location} {c : Content} {directory name path : String} {place : Place}

/-! ## Components -/

theorem components_append_slash (path rest : String) :
    components (path ++ "/" ++ rest) = components path ++ components rest := by
  have cut := splitBy_append_cons (fun c => c == '/') path.toList rest.toList (c := '/') rfl
  simp only [components, String.toList_append, List.append_assoc]
  rw [← List.map_append, ← cut]
  rfl

theorem components_fileName (h : FileName name) : components name = [name] := by
  have uncut : ∀ c ∈ name.toList, (c == '/') = false := by
    intro c member
    rw [beq_eq_false_iff_ne]
    rintro rfl
    exact h.whole member
  rw [components, splitBy_of_uncut _ uncut]
  simp

theorem follow_append (place : Place) (names more : List String) :
    t.follow place (names ++ more) = (t.follow place names).bind fun p => t.follow p more := by
  induction names generalizing place with
  | nil =>
    rw [List.nil_append]
    cases place <;> rfl
  | cons name names ih =>
    cases place with
    | directory d =>
      rw [List.cons_append, follow, follow]
      split
      · exact ih _
      · split
        · exact ih _
        · split
          · rfl
          · exact ih _
    | file l => rfl
    | vacant l => rfl

/-- A path that ends in a slash leads to a directory only where the path without the slash does. -/
theorem follow_of_follow_slash {names : List String}
    (h : t.follow place (names ++ [""]) = .ok (.directory d)) :
    t.follow place names = .ok (.directory d) := by
  rw [follow_append] at h
  cases before : t.follow place names with
  | error fault =>
    rw [before] at h
    cases h
  | ok reached =>
    rw [before] at h
    cases reached with
    | directory d' => exact h
    | file l => cases h
    | vacant l => cases h

theorem follow_fileName (h : FileName name) :
    t.follow (.directory d) [name] = .ok (t.placeAt (d ++ [name])) := by
  have proper := h.proper
  simp only [List.mem_cons, List.not_mem_nil, or_false, not_or] at proper
  have short : ¬ nameLimit < name.utf8ByteSize := Nat.not_lt.mpr h.short
  simp only [follow, proper, beq_iff_eq, or_self, Bool.or_eq_true, if_false, if_neg short]

/-! ## Paths -/

theorem isAbsolute_fileName (h : FileName name) : isAbsolute name = false := by
  unfold isAbsolute
  cases first : name.toList with
  | nil => rfl
  | cons c cs =>
    have other : c ≠ '/' := by
      rintro rfl
      exact h.whole (first ▸ List.mem_cons_self)
    simpa using other

theorem isAbsolute_append (some : path ≠ "") (rest : String) :
    isAbsolute (path ++ rest) = isAbsolute path := by
  cases first : path.toList with
  | nil => exact absurd (String.toList_eq_nil_iff.mp first) some
  | cons c cs => simp [isAbsolute, String.toList_append, first]

/-- Between the path of a directory and a name there is one slash, which may be the last character
of the path. -/
theorem join_eq (h : FileName name) (some : directory ≠ "") :
    ∃ front, join directory name = front ++ "/" ++ name ∧
      (front = directory ∨ front ++ "/" = directory) := by
  have filled : directory.isEmpty = false := String.isEmpty_eq_false_iff.mpr some
  rw [join, isAbsolute_fileName h, if_neg Bool.false_ne_true, filled, Bool.false_or]
  by_cases slashed : directory.toList.getLast? = Option.some '/'
  · obtain ⟨cs, ends⟩ := List.getLast?_eq_some_iff.mp slashed
    have front : String.ofList cs ++ "/" = directory := by
      rw [← String.toList_inj, ends, String.toList_append, String.toList_ofList]
      rfl
    rw [if_pos (beq_iff_eq.mpr slashed)]
    exact ⟨String.ofList cs, by rw [front], .inr front⟩
  · rw [if_neg (by simpa using slashed)]
    exact ⟨directory, rfl, .inl rfl⟩

/-- The components of a path below a directory: those that lead to the directory, and the name. -/
theorem follow_join {start : Place} {front : String} (named : FileName name)
    (h : t.follow start (components directory) = .ok (.directory d))
    (split : front = directory ∨ front ++ "/" = directory) :
    t.follow start (components (front ++ "/" ++ name)) = .ok (t.placeAt (d ++ [name])) := by
  have reached : t.follow start (components front) = .ok (.directory d) := by
    rcases split with rfl | rfl
    · exact h
    · -- Behind the slash stands an empty component.
      rw [← String.append_empty (s := front ++ "/"), components_append_slash] at h
      exact follow_of_follow_slash h
  rw [components_append_slash, components_fileName named, follow_append, reached]
  exact follow_fileName named

/-- The place that relative and absolute paths start from. -/
def origin (t : Tree) (path : String) : Place :=
  .directory (if isAbsolute path then [] else t.working)

/-- A path that leads anywhere does so by its components. -/
theorem of_find (h : t.find path = .ok place) :
    Char.ofNat 0 ∉ path.toList ∧ path ≠ "" ∧
      t.follow (t.origin path) (components path) = .ok place := by
  unfold find at h
  split at h
  · cases h
  · rename_i plain
    split at h
    · cases h
    · rename_i filled
      split at h
      · cases h
      · exact ⟨by simpa using plain, by simpa using filled, h⟩

/-- What the path of a file below a directory leads to. -/
theorem find_join (named : FileName name) (h : t.find directory = .ok (.directory d)) :
    t.find (join directory name) =
      if pathLimit < (join directory name).utf8ByteSize then .error .nameTooLong
      else .ok (t.placeAt (d ++ [name])) := by
  obtain ⟨plain, some, followed⟩ := of_find h
  obtain ⟨front, joined, split⟩ := join_eq named some
  obtain ⟨rest, longer, clean⟩ : ∃ rest, join directory name = directory ++ rest ∧
      Char.ofNat 0 ∉ rest.toList := by
    rcases split with rfl | rfl
    · refine ⟨"/" ++ name, by rw [joined, String.append_assoc], ?_⟩
      simpa [String.toList_append] using named.plain
    · exact ⟨name, joined, named.plain⟩
  have start : t.origin (join directory name) = t.origin directory := by
    rw [origin, longer, isAbsolute_append some, origin]
  have reached : t.follow (t.origin (join directory name)) (components (join directory name)) =
      .ok (t.placeAt (d ++ [name])) := by
    rw [start, joined]
    exact follow_join named followed split
  have whole : (join directory name).toList.contains (Char.ofNat 0) = false := by
    rw [longer, String.toList_append]
    simpa using ⟨plain, clean⟩
  have filled : (join directory name).isEmpty = false := by
    rw [String.isEmpty_eq_false_iff, longer]
    simp [some]
  rw [find, whole, filled]
  simp only [Bool.false_eq_true, if_false]
  exact ite_congr rfl (fun _ => rfl) fun _ => reached

/-! ## Opening -/

/-- The file of a name below a directory can be opened for appending, or the system says why not. -/
theorem openAppend_join (named : FileName name) (h : t.find directory = .ok (.directory d)) :
    t.Leads (join directory name) (d ++ [name]) ∨
      ∃ fault reason, t.openAppend (join directory name) = .error fault ∧
        fault.systemReason = some reason := by
  have found := find_join named h
  by_cases long : pathLimit < (join directory name).utf8ByteSize
  · rw [if_pos long] at found
    exact .inr ⟨.nameTooLong, _, by rw [openAppend, found], rfl⟩
  · rw [if_neg long, placeAt] at found
    split at found
    · exact .inr ⟨.isDirectory, _, by rw [openAppend, found], rfl⟩
    · split at found
      · exact .inl (.inl found)
      · exact .inl (.inr found)

/-- What is done to files leaves directories where they are. -/
theorem find_directory_opened (h : t.find directory = .ok (.directory d)) :
    (t.opened l).find directory = .ok (.directory d) := by
  unfold opened
  split
  · exact h
  · exact find_write h

theorem find_directory_append {text : String} (h : t.find directory = .ok (.directory d)) :
    (t.append l text).find directory = .ok (.directory d) := by
  unfold append
  split <;> exact find_write h

/-! ## Growth -/

theorem directories_write : (t.write l c).directories = t.directories := by
  unfold write
  split <;> rfl

/-- From one tree to another, texts were appended to some files, which are made where there are
none. No other file changed, and there are no other directories. -/
structure Grown (before after : Tree) (additions : List (Location × String)) : Prop where
  grown : ∀ a ∈ additions, after.content? a.1 = some (extended (before.held a.1) a.2)
  kept : ∀ l, (∀ a ∈ additions, a.1 ≠ l) → after.content? l = before.content? l
  directories : after.directories = before.directories

theorem Grown.none : Grown t t [] := by
  refine ⟨?_, fun _ _ => rfl, rfl⟩
  intro a member
  cases member

/-- What a file held is what it holds still, where nothing was appended to it. -/
theorem Grown.held {after : Tree} {additions : List (Location × String)}
    (h : Grown t after additions) (other : ∀ a ∈ additions, a.1 ≠ l) : after.held l = t.held l := by
  rw [Tree.held, Tree.held, h.kept l other]

/-- Growth of some files and then of others. -/
theorem Grown.append {mid after : Tree} {first second : List (Location × String)}
    (h₁ : Grown t mid first) (h₂ : Grown mid after second)
    (apart : ∀ a ∈ first, ∀ b ∈ second, a.1 ≠ b.1) : Grown t after (first ++ second) := by
  refine ⟨?_, ?_, h₂.directories.trans h₁.directories⟩
  · intro a member
    rcases List.mem_append.mp member with member | member
    · rw [h₂.kept a.1 fun b later => (apart a member b later).symm]
      exact h₁.grown a member
    · rw [h₂.grown a member, h₁.held fun b earlier => apart b earlier a member]
  · intro l other
    rw [h₂.kept l fun b later => other b (List.mem_append_right _ later)]
    exact h₁.kept l fun a earlier => other a (List.mem_append_left _ earlier)

/-- A file that was opened holds what it held. -/
theorem grown_opened : Grown t (t.opened l) [(l, "")] := by
  refine ⟨?_, ?_, ?_⟩
  · intro a member
    obtain rfl := List.mem_singleton.mp member
    rw [content?_opened, extended_empty]
  · intro l' other
    have differs : l' ≠ l := (other _ (List.mem_singleton_self _)).symm
    unfold opened
    split
    · rfl
    · exact content?_write_of_ne differs
  · unfold opened
    split
    · rfl
    · exact directories_write

theorem grown_append {text : String} : Grown t ((t.opened l).append l text) [(l, text)] := by
  have write : (t.opened l).append l text =
      (t.opened l).write l (extended (t.held l) text) := by
    rw [Tree.append, content?_opened]
  refine ⟨?_, ?_, ?_⟩
  · intro a member
    obtain rfl := List.mem_singleton.mp member
    rw [write, content?_write_self]
  · intro l' other
    have differs : l' ≠ l := (other _ (List.mem_singleton_self _)).symm
    rw [write, content?_write_of_ne differs]
    refine grown_opened.kept l' ?_
    intro a member
    obtain rfl := List.mem_singleton.mp member
    exact differs.symm
  · rw [write, directories_write]
    exact grown_opened.directories

end Tree

end PgVitals.Files
