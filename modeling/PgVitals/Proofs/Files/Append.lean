import PgVitals.Files.Tree
/-!
# Appending to files

A write changes the file it is made to, and no other. Paths go on leading where they led, but for
those to a place where the write has made a file: these lead to that file from then on. So a file
that was opened for appending once can be opened again, and holds what was appended so far.

* `Tree.held` is what there is in a file, and nothing where there is no file. `Tree.held_append` and
  `Tree.content?_write_of_ne` say what a write changes and what it leaves.
* `Tree.Leads` says that a path leads to a file, or to a place for one. `Leads.opened` and
  `Leads.append` keep it up, and `Leads.openAppend` says that such a path can be opened.
* `Tree.find_write` is the lemma below these: after a write every path leads where it led, but for
  paths to where the file was made. It is an induction over the components of the path.

Directories are neither made nor removed by anything here, and no file is ever taken away. Two paths
may lead to one file, by `.` and `..`, which is why the lemmas are about locations and not about
paths. There are no links.
-/

namespace PgVitals.Files

/-- What a place is once there is a file at `l`. -/
def Place.filled (l : Location) : Place → Place
  | .vacant l' => if l' = l then .file l else .vacant l'
  | place => place

namespace Tree

variable {t : Tree} {l l' : Location} {c : Content} {path text : String} {place : Place}

/-- What there is in a file; where there is no file, there is nothing in it. -/
def held (t : Tree) (l : Location) : Content := (t.content? l).getD (.text "")

/-- A path leads to a file, or to a place for one. -/
def Leads (t : Tree) (path : String) (l : Location) : Prop :=
  t.find path = .ok (.file l) ∨ t.find path = .ok (.vacant l)

/-- The files after one was opened for appending: it is there, with what it held. -/
def opened (t : Tree) (l : Location) : Tree :=
  if (t.content? l).isSome then t else t.write l (.text "")

/-! ## Writing -/

@[simp]
theorem hasDirectory_write : (t.write l c).hasDirectory l' = t.hasDirectory l' := by
  unfold write
  split <;> rfl

@[simp]
theorem working_write : (t.write l c).working = t.working := by
  unfold write
  split <;> rfl

/-- Replacing the content of a file keeps the locations, so what is looked for is found where it
was. -/
theorem find?_replaced (files : List (Location × Content)) :
    (files.map fun entry => if entry.1 == l then (l, c) else entry).find? (fun e => e.1 == l') =
      (files.find? fun e => e.1 == l').map fun entry => if entry.1 == l then (l, c) else entry := by
  rw [List.find?_map]
  refine congrArg (fun p => Option.map _ (files.find? p)) (funext fun entry => ?_)
  by_cases h : entry.1 = l <;> simp [h]

theorem content?_write_self : (t.write l c).content? l = some c := by
  unfold write
  split
  · rename_i there
    obtain ⟨old, held⟩ := Option.isSome_iff_exists.mp there
    obtain ⟨entry, found, rfl⟩ := Option.map_eq_some_iff.mp held
    have here : (entry.1 == l) = true := by simpa using List.find?_some found
    simp only [content?, find?_replaced, found, Option.map_some, here, if_true]
  · rename_i missing
    have none : t.files.find? (fun e => e.1 == l) = none := by
      rw [content?, Option.isSome_map, Bool.not_eq_true, Option.isSome_eq_false_iff] at missing
      exact Option.isNone_iff_eq_none.mp missing
    simp [content?, List.find?_append, none]

/-- A write to a file leaves all others as they are. -/
theorem content?_write_of_ne (h : l' ≠ l) : (t.write l c).content? l' = t.content? l' := by
  unfold write
  split
  · simp only [content?, find?_replaced, Option.map_map]
    rcases hf : t.files.find? (fun e => e.1 == l') with _ | entry
    · simp [hf]
    · have here : entry.1 = l' := by simpa using List.find?_some hf
      simp [hf, here, h]
  · simp [content?, List.find?_append, h.symm]

theorem placeAt_write : (t.write l c).placeAt l' = (t.placeAt l').filled l := by
  unfold placeAt
  rw [hasDirectory_write]
  by_cases hd : t.hasDirectory l' = true
  · simp [hd, Place.filled]
  · by_cases h : l' = l
    · subst h
      rw [content?_write_self]
      by_cases hf : (t.content? l').isSome = true <;> simp [hd, hf, Place.filled]
    · rw [content?_write_of_ne h]
      by_cases hf : (t.content? l').isSome = true <;> simp [hd, hf, h, Place.filled]

/-! ## Following paths -/

theorem follow_write (names : List String) {start : Place}
    (h : t.follow start names = .ok place) :
    (t.write l c).follow (start.filled l) names = .ok (place.filled l) := by
  induction names generalizing start with
  | nil =>
    cases h
    cases place <;> rfl
  | cons name names ih =>
    cases start with
    | directory d =>
      simp only [Place.filled, follow] at h ⊢
      split at h
      · rename_i stay
        rw [if_pos stay]
        exact ih h
      · rename_i move
        rw [if_neg move]
        split at h
        · rename_i up
          rw [if_pos up]
          exact ih h
        · rename_i down
          rw [if_neg down]
          split at h
          · cases h
          · rename_i short
            rw [if_neg short, placeAt_write]
            exact ih h
    | file d => cases h
    | vacant d => cases h

/-- After a write every path leads where it led, but for paths to where the file was made. -/
theorem find_write (h : t.find path = .ok place) :
    (t.write l c).find path = .ok (place.filled l) := by
  unfold find at h ⊢
  split at h
  · cases h
  · rename_i plain
    rw [if_neg plain]
    split at h
    · cases h
    · rename_i named
      rw [if_neg named]
      split at h
      · cases h
      · rename_i short
        rw [if_neg short, working_write]
        exact follow_write _ h

/-- Following a path ends where it started, in a directory, or at what there is at a location. -/
theorem follow_ends (names : List String) {start : Place} (h : t.follow start names = .ok place) :
    place = start ∨ (∃ d, place = .directory d) ∨ ∃ l, place = t.placeAt l := by
  induction names generalizing start with
  | nil =>
    cases h
    exact .inl rfl
  | cons name names ih =>
    cases start with
    | directory d =>
      simp only [follow] at h
      split at h
      · exact ih h
      · split at h
        · rcases ih h with same | ends
          · exact .inr (.inl ⟨_, same⟩)
          · exact .inr ends
        · split at h
          · cases h
          · rcases ih h with same | ends
            · exact .inr (.inr ⟨_, same⟩)
            · exact .inr ends
    | file d => cases h
    | vacant d => cases h

theorem find_ends (h : t.find path = .ok place) :
    (∃ d, place = .directory d) ∨ ∃ l, place = t.placeAt l := by
  unfold find at h
  split at h
  · cases h
  · split at h
    · cases h
    · split at h
      · cases h
      · rcases follow_ends _ h with same | ends
        · exact .inl ⟨_, same⟩
        · exact ends

theorem isSome_of_find_file (h : t.find path = .ok (.file l)) : (t.content? l).isSome = true := by
  rcases find_ends h with ⟨d, same⟩ | ⟨l', same⟩
  · cases same
  · unfold placeAt at same
    split at same
    · cases same
    · split at same
      · rename_i there
        cases same
        exact there
      · cases same

theorem content?_of_find_vacant (h : t.find path = .ok (.vacant l)) : t.content? l = none := by
  rcases find_ends h with ⟨d, same⟩ | ⟨l', same⟩
  · cases same
  · unfold placeAt at same
    split at same
    · cases same
    · split at same
      · cases same
      · rename_i missing
        cases same
        simpa using missing

/-! ## Opening and appending -/

theorem Leads.write (h : t.Leads path l) : (t.write l c).Leads path l := by
  rcases h with h | h
  · exact .inl (find_write h)
  · left
    rw [find_write (l := l) (c := c) h, Place.filled, if_pos rfl]

theorem Leads.opened (h : t.Leads path l) : (t.opened l).Leads path l := by
  unfold Tree.opened
  split
  · exact h
  · exact h.write

theorem Leads.append (h : t.Leads path l) : (t.append l text).Leads path l := by
  unfold Tree.append
  split <;> exact h.write

/-- A path that leads to a file, or to a place for one, can be opened for appending. -/
theorem Leads.openAppend (h : t.Leads path l) : t.openAppend path = .ok (l, t.opened l) := by
  unfold Tree.openAppend Tree.opened
  rcases h with h | h
  · rw [h, if_pos (isSome_of_find_file h)]
  · rw [h, if_neg (by simp [content?_of_find_vacant h])]

theorem content?_opened : (t.opened l).content? l = some (t.held l) := by
  unfold opened held
  split
  · rename_i there
    obtain ⟨old, held⟩ := Option.isSome_iff_exists.mp there
    rw [held, Option.getD_some]
  · rename_i missing
    have none : t.content? l = none := by simpa using missing
    rw [content?_write_self, none, Option.getD_none]

theorem held_opened : (t.opened l).held l = t.held l := by
  rw [held, content?_opened, Option.getD_some]

theorem held_append : (t.append l text).held l = extended (t.held l) text := by
  rw [append, held, held]
  rcases h : t.content? l with _ | old
  · simp [content?_write_self, extended]
  · simp [content?_write_self]

theorem isSome_append : ((t.append l text).content? l).isSome = true := by
  rw [append]
  split <;> simp [content?_write_self]

/-! ## Contents -/

theorem extended_empty : extended c "" = c := by
  cases c with
  | text s => simp [extended]
  | raw bytes => simp [extended]

theorem extended_extended (first second : String) :
    extended (extended c first) second = extended c (first ++ second) := by
  cases c with
  | text s => simp [extended, String.append_assoc]
  | raw bytes => simp [extended, String.toUTF8]

/-- A text without bytes is empty. -/
theorem isEmpty_toUTF8 : text.toUTF8.data.toList.isEmpty = text.isEmpty := by
  rw [Bool.eq_iff_iff, List.isEmpty_iff_length_eq_zero, Array.length_toList, String.isEmpty,
    beq_iff_eq]
  exact Iff.rfl

theorem isEmptyContent_extended :
    isEmptyContent (extended c text) = (isEmptyContent c && text.isEmpty) := by
  cases c with
  | text s =>
    rw [Bool.eq_iff_iff]
    simp [extended, isEmptyContent]
  | raw bytes =>
    cases bytes with
    | nil => exact isEmpty_toUTF8
    | cons byte bytes => rfl

end Tree

end PgVitals.Files
