import Mathlib.Data.List.Infix
import TableModel.Files

/-!
# Writing a file

A file is opened for writing at a place that is no directory but lies in one
(`isDirectory_or_append_of_locate?`). So writing makes no directory and takes none away
(`isDirectory_put`), every path leads to the same place as before (`locate?_put`), and what a path
has changes for the paths to the written file and for no other (`content?_put`, `SameBut.read`). This
holds of whatever the storage takes of the content, all or part of it.
-/

namespace TableModel.Files

/-- The content of the file under a path, whether it may be read or not. -/
def content? (files : Files) (path : Text) : Option ByteArray :=
  (files.locate? path).bind fun location => files.contents.lookup location

/-! ### Directories -/

/-- A directory is on the way to one that is there in any case, or to a file below it. -/
theorem isDirectory_iff {files : Files} {location : Location} :
    files.isDirectory location = true ↔
      (∃ directory ∈ files.current :: files.directories, location <+: directory) ∨
        ∃ entry ∈ files.contents, location <+: entry.1 ∧ location ≠ entry.1 := by
  simp [isDirectory]

theorem isDirectory_of_above {files : Files} {location above : Location}
    (h : files.isDirectory location = true) (habove : above <+: location) :
    files.isDirectory above = true := by
  rw [isDirectory_iff] at h ⊢
  rcases h with ⟨directory, hmem, hbelow⟩ | ⟨entry, hmem, hbelow, hne⟩
  · exact .inl ⟨directory, hmem, habove.trans hbelow⟩
  · refine .inr ⟨entry, hmem, habove.trans hbelow, fun heq => hne ?_⟩
    -- Otherwise the three locations are one.
    exact hbelow.eq_of_length_le (heq ▸ habove).length_le

theorem isDirectory_of_prefix_current {files : Files} {location : Location}
    (h : location <+: files.current) : files.isDirectory location = true :=
  isDirectory_iff.mpr (.inl ⟨files.current, List.mem_cons_self, h⟩)

/-- A name leads from a directory to a directory, or to something that lies in it. -/
theorem isDirectory_step {files : Files} {location : Location} {name : Text}
    (h : files.isDirectory location = true) :
    files.isDirectory (step location name) = true ∨ step location name = location ++ [name] := by
  rw [step]
  split_ifs
  · exact .inl h
  · exact .inl (isDirectory_of_above h (List.dropLast_prefix location))
  · exact .inr rfl

theorem isDirectory_or_append_of_follow {files : Files} {start location : Location}
    {names : List Text} (hstart : files.isDirectory start = true)
    (h : files.follow start names = some location) :
    files.isDirectory location = true ∨
      ∃ above name, files.isDirectory above = true ∧ location = above ++ [name] := by
  induction names generalizing start with
  | nil =>
    obtain rfl := Option.some.inj h
    exact .inl hstart
  | cons name rest ih =>
    obtain ⟨-, hrest⟩ := Option.ite_none_right_eq_some.mp h
    -- Only the last name may lead to something that is no directory.
    by_cases hnext : files.isDirectory (step start name) = true
    · exact ih hnext hrest
    · have hbelow := (isDirectory_step hstart).resolve_left hnext
      cases rest with
      | nil =>
        obtain rfl := Option.some.inj hrest
        exact .inr ⟨start, name, hstart, hbelow⟩
      | cons _ _ =>
        obtain ⟨hsearched, -⟩ := Option.ite_none_right_eq_some.mp hrest
        exact absurd (Bool.and_eq_true_iff.mp hsearched).1 hnext

/-- A place that a path leads to is a directory, or lies in one. -/
theorem isDirectory_or_append_of_locate? {files : Files} {path : Text} {location : Location}
    (h : files.locate? path = some location) :
    files.isDirectory location = true ∨
      ∃ above name, files.isDirectory above = true ∧ location = above ++ [name] := by
  rw [locate?] at h
  split_ifs at h
  · exact isDirectory_or_append_of_follow (isDirectory_of_prefix_current List.nil_prefix) h
  · exact isDirectory_or_append_of_follow (isDirectory_of_prefix_current List.prefix_rfl) h

/-! ### New content -/

theorem exists_mem_setContent {location : Location} {bytes : ByteArray}
    {contents : List (Location × ByteArray)} (p : Location → Prop) :
    (∃ entry ∈ setContent location bytes contents, p entry.1) ↔
      p location ∨ ∃ entry ∈ contents, p entry.1 := by
  induction contents with
  | nil => simp [setContent]
  | cons entry rest ih =>
    by_cases h : entry.1 = location
    · rw [setContent, if_pos h, List.exists_mem_cons_iff, List.exists_mem_cons_iff, h, or_self_left]
    · rw [setContent, if_neg h, List.exists_mem_cons_iff, List.exists_mem_cons_iff, ih, or_left_comm]

section Put

variable {files after : Files} {path : Text} {location : Location}

theorem locate?_of_create? (h : files.create? path = some location) :
    files.locate? path = some location ∧ files.isDirectory location = false := by
  obtain ⟨hlocate, hfree⟩ := Option.filter_eq_some_iff.mp h
  obtain ⟨hfile, -⟩ := Bool.and_eq_true_iff.mp hfree
  exact ⟨hlocate, by simpa using hfile⟩

variable (hplace : files.create? path = some location) (bytes : ByteArray)

include hplace

theorem isDirectory_put (place : Location) :
    (files.put location bytes).isDirectory place = files.isDirectory place := by
  obtain ⟨hlocate, hfile⟩ := locate?_of_create? hplace
  have hnot : ¬ files.isDirectory location = true := Bool.not_eq_true _ ▸ hfile
  obtain ⟨above, name, habove, hlocation⟩ :=
    (isDirectory_or_append_of_locate? hlocate).resolve_left hnot
  -- The written file makes directories of what it lies in, which are directories already.
  have hold : place <+: location ∧ place ≠ location → files.isDirectory place = true := by
    rintro ⟨hbelow, hne⟩
    rw [hlocation] at hbelow hne
    exact isDirectory_of_above habove ((List.prefix_concat_iff.mp hbelow).resolve_left hne)
  rw [Bool.eq_iff_iff, isDirectory_iff, put,
    exists_mem_setContent fun entry => place <+: entry ∧ place ≠ entry]
  constructor
  · rintro (hdirectory | hwritten | hentry)
    · exact isDirectory_iff.mpr (.inl hdirectory)
    · exact hold hwritten
    · exact isDirectory_iff.mpr (.inr hentry)
  · intro hdirectory
    exact (isDirectory_iff.mp hdirectory).imp_right .inr

/-- Names lead to the same place after a file is written. -/
theorem follow_put (start : Location) (names : List Text) :
    (files.put location bytes).follow start names = files.follow start names := by
  induction names generalizing start with
  | nil => rfl
  | cons name rest ih =>
    rw [follow, follow, isDirectory_put hplace, ih]
    rfl

/-- Every path leads to the same place after a file is written. So what stands under a path can
differ only where the path leads to the file that was written, and then it is the new content. -/
theorem locate?_put (other : Text) :
    (files.put location bytes).locate? other = files.locate? other := by
  rw [locate?, locate?, follow_put hplace]
  rfl

/-- After a file is written, the paths that lead to it have the content, and every other path has
what it had. -/
theorem content?_put (other : Text) :
    (files.put location bytes).content? other =
      if files.locate? other = files.locate? path then some bytes else files.content? other := by
  rw [content?, content?, locate?_put hplace, (locate?_of_create? hplace).1]
  cases files.locate? other with
  | none => rfl
  | some place =>
    rw [Option.bind_some, Option.bind_some, put, lookup_setContent]
    simp only [Option.some.injEq]

omit hplace

/-! ### What stays -/

/-- What a tree that is left has in common with the one before where only the file under one path was
written: it has the same directories and permissions, and every path leads to the same place. Only at
the place of the target there may be another content. -/
structure SameBut (target : Text) (files after : Files) : Prop where
  isDirectory (place : Location) : after.isDirectory place = files.isDirectory place
  permits : after.permits = files.permits
  locate? (path : Text) : after.locate? path = files.locate? path
  lookup {place : Location} (hplace : files.locate? target ≠ some place) :
    after.contents.lookup place = files.contents.lookup place

theorem SameBut.put (hplace : files.create? path = some location) (bytes : ByteArray) :
    SameBut path files (files.put location bytes) where
  isDirectory := isDirectory_put hplace bytes
  permits := rfl
  locate? := locate?_put hplace bytes
  lookup {place} hother := by
    rw [(locate?_of_create? hplace).1, Ne, Option.some.injEq] at hother
    rw [Files.put, lookup_setContent, if_neg (Ne.symm hother)]

/-- Reading gives what it gave, except under the paths to the target. There may be several such
paths, since the names `.` and `..` lead around. -/
theorem SameBut.read {target other : Text} (h : SameBut target files after)
    (hother : files.locate? other ≠ files.locate? target) : after.read other = files.read other := by
  rw [Files.read, Files.read, h.locate?]
  cases hlocate : files.locate? other with
  | none => rfl
  | some place =>
    rw [hlocate] at hother
    simp only [h.lookup hother.symm, h.isDirectory, h.permits]

end Put

end TableModel.Files
