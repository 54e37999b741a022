import HsmSimulator.Core.Files

/-!
# Files and paths

What the file operations leave: lookups after writing and removing, the outcomes of
a publication through a temporary file, and how paths inside one directory are told
apart.
-/

namespace HsmSimulator

namespace Path

@[simp]
theorem extend_child (directory : Path) (name suffix : Bytes) :
    Path.extend (Path.child directory name) suffix = Path.child directory (name ++ suffix) := by
  induction directory with
  | nil => rfl
  | cons component rest ih =>
      cases rest with
      | nil => rfl
      | cons next rest =>
          change component :: Path.extend (Path.child (next :: rest) name) suffix = _
          rw [ih]
          rfl

/-- Extending a name makes the path longer by the suffix. -/
theorem length_extend (path : Path) (suffix : Bytes) :
    (path.extend suffix).flatten.length = path.flatten.length + suffix.length := by
  induction path with
  | nil => simp [extend]
  | cons component rest ih =>
      cases rest with
      | nil => simp [extend]
      | cons next rest => simp_all [extend, Nat.add_assoc]

theorem filename_extend (path : Path) (suffix : Bytes) :
    Path.filename (path.extend suffix) = Path.filename path ++ suffix := by
  rcases List.eq_nil_or_concat path with rfl | ⟨directory, name, rfl⟩
  · rfl
  · have extended := extend_child directory name suffix
    rw [Path.child] at extended
    rw [List.concat_eq_append, extended]
    simp [Path.filename, Path.child]

/-- Extending a name leaves the depth of the path. -/
theorem depth_extend {path : Path} (nonempty : path ≠ []) (suffix : Bytes) :
    (path.extend suffix).length = path.length := by
  rcases List.eq_nil_or_concat path with rfl | ⟨directory, name, rfl⟩
  · contradiction
  · have extended := extend_child directory name suffix
    rw [Path.child] at extended
    rw [List.concat_eq_append, extended]
    simp [Path.child]

@[simp]
theorem child_inj {directory other : Path} {name stored : Bytes} :
    Path.child directory name = Path.child other stored ↔ directory = other ∧ name = stored := by
  constructor
  · intro same
    have directories := congrArg List.dropLast same
    have names := congrArg List.getLast? same
    simp [Path.child] at directories names
    exact ⟨directories, names⟩
  · rintro ⟨rfl, rfl⟩
    rfl

/-- A path with a file name is told by what extends its name. -/
theorem extend_inj {path other : Path} {suffix : Bytes} (nonempty : path ≠ [])
    (otherNonempty : other ≠ []) (same : path.extend suffix = other.extend suffix) :
    path = other := by
  rcases List.eq_nil_or_concat path with rfl | ⟨directory, name, rfl⟩
  · contradiction
  · rcases List.eq_nil_or_concat other with rfl | ⟨otherDirectory, otherName, rfl⟩
    · contradiction
    · rw [List.concat_eq_append, List.concat_eq_append] at same ⊢
      change Path.extend (Path.child directory name) suffix =
        Path.extend (Path.child otherDirectory otherName) suffix at same
      rw [extend_child, extend_child, child_inj] at same
      rw [same.1, List.append_cancel_right same.2]

@[simp]
theorem filename_child (directory : Path) (name : Bytes) :
    Path.filename (Path.child directory name) = name := by
  simp [Path.filename, Path.child]

@[simp]
theorem child_ne_nil (directory : Path) (name : Bytes) : Path.child directory name ≠ [] := by
  simp [Path.child]

theorem ne_child (directory : Path) (name : Bytes) : directory ≠ Path.child directory name := by
  intro same
  have lengths := congrArg List.length same
  simp [Path.child] at lengths

theorem isEntryOf_iff {directory path : Path} :
    Path.isEntryOf directory path = true ↔ ∃ name, path = Path.child directory name := by
  constructor
  · intro isEntry
    simp only [isEntryOf, Bool.and_eq_true, decide_eq_true_eq] at isEntry
    rcases isEntry with ⟨nonempty, rfl⟩
    exact ⟨path.getLast nonempty, (List.dropLast_append_getLast nonempty).symm⟩
  · rintro ⟨name, rfl⟩
    simp [isEntryOf, Path.child]

/-- The extension of a name is what follows its last dot, if something precedes it. -/
theorem extension_append {stem suffix : Bytes} (nonempty : stem ≠ [])
    (noDot : ∀ c ∈ suffix, c ≠ 46) : extension (stem ++ 46 :: suffix) = 46 :: suffix := by
  have taken : ((stem ++ 46 :: suffix).reverse.takeWhile (· ≠ 46)).length = suffix.length := by
    have reversed : (stem ++ 46 :: suffix).reverse = suffix.reverse ++ 46 :: stem.reverse := by
      simp
    rw [reversed, List.takeWhile_append_of_pos (by simpa using noDot)]
    simp
  have start : extensionStart (stem ++ 46 :: suffix) = stem.length := by
    have positive := List.length_pos_of_ne_nil nonempty
    simp only [extensionStart, taken, List.length_append, List.length_cons]
    rw [if_pos (by omega)]
    omega
  rw [extension, start, List.drop_left]

end Path

namespace FileSystem

variable {disk : FileSystem} {oracle : Oracle}

theorem ext {first second : FileSystem} (files : ∀ path, first.content path = second.content path)
    (directories : first.directories = second.directories) : first = second := by
  have same : first.files = second.files := OrderedMap.ext_get? files
  cases first
  cases second
  simp_all

@[simp]
theorem content_writeFile (path other : Path) (bytes : Bytes) :
    (disk.writeFile path bytes).content other =
      if other = path then some bytes else disk.content other :=
  OrderedMap.get?_insert _ _ _ _

@[simp]
theorem content_removeFile (path other : Path) :
    (disk.removeFile path).content other = if other = path then none else disk.content other :=
  OrderedMap.get?_erase _ _ _

@[simp]
theorem directories_writeFile (path : Path) (bytes : Bytes) :
    (disk.writeFile path bytes).directories = disk.directories :=
  rfl

@[simp]
theorem directories_removeFile (path : Path) :
    (disk.removeFile path).directories = disk.directories :=
  rfl

/-- Content and directory of a path tell whether it is there. -/
theorem hasPath_congr {before after : FileSystem} {path : Path}
    (sameContent : after.content path = before.content path)
    (sameDirectory : after.directories.get? path = before.directories.get? path) :
    after.hasPath path = before.hasPath path := by
  rw [content, content] at sameContent
  rw [hasPath, hasPath, sameContent, sameDirectory]

theorem content_of_absent {path : Path} (absent : disk.hasPath path = false) :
    disk.content path = none := by
  simp only [hasPath, Bool.or_eq_false_iff, Option.isSome_eq_false_iff, Option.isNone_iff_eq_none]
    at absent
  exact absent.1

/-- Writing a new file and removing it again changes nothing. -/
theorem removeFile_writeFile {path : Path} (absent : disk.content path = none) (bytes : Bytes) :
    (disk.writeFile path bytes).removeFile path = disk := by
  apply ext
  · intro other
    by_cases same : other = path
    · simp [same, absent]
    · simp [same]
  · rfl

theorem mem_regularFiles {directory path : Path} :
    path ∈ disk.regularFiles directory ↔
      (∃ name, path = Path.child directory name) ∧ ∃ bytes, disk.content path = some bytes := by
  rw [regularFiles, List.mem_filter, Path.isEntryOf_iff, OrderedMap.mem_keys_iff]
  exact and_comm

theorem createDirectories_eq_some {path : Path} {created : FileSystem}
    (succeeds : disk.createDirectories oracle path = some created) :
    created.files = disk.files ∧
      ∀ other, created.directories.get? other =
        if other = path then some () else disk.directories.get? other := by
  unfold createDirectories at succeeds
  split at succeeds
  · contradiction
  · cases succeeds
    constructor
    · rfl
    · intro other
      rw [OrderedMap.get?_emplace]

/-- A publication either writes the file, or changes nothing, or leaves the temporary
file where it could not be removed. -/
theorem publish_cases (oracle : Oracle) {temporary : Path} (file : Path)
    (absent : disk.hasPath temporary = false) (data : Bytes) (complete : Bool) :
    (disk.publish oracle temporary file data complete = (disk.writeFile file data, true) ∧
        complete = true ∧ oracle.writeResult temporary = .complete ∧
        oracle.renameFails temporary = false) ∨
      disk.publish oracle temporary file data complete = (disk, false) ∨
      ∃ left, disk.publish oracle temporary file data complete =
        (disk.writeFile temporary left, false) ∧ oracle.removeFails temporary = true := by
  have fresh := content_of_absent absent
  have withdrawn (stream : StreamResult) :
      ((disk.afterStream temporary stream).remove oracle temporary).1 = disk ∨
        ∃ left, ((disk.afterStream temporary stream).remove oracle temporary).1 =
          disk.writeFile temporary left ∧ oracle.removeFails temporary = true := by
    unfold FileSystem.remove FileSystem.afterStream
    cases stream.content with
    | none =>
        left
        split
        · rfl
        · apply ext
          · intro other
            by_cases same : other = temporary
            · simp [same, fresh]
            · simp [same]
          · rfl
    | some left =>
        split
        · rename_i stuck
          exact Or.inr ⟨left, rfl, stuck⟩
        · exact Or.inl (removeFile_writeFile fresh left)
  by_cases good : (complete && (streamResult (oracle.writeResult temporary) data).goodAfterClose &&
      !oracle.renameFails temporary) = true
  · have published : disk.publish oracle temporary file data complete =
        (((disk.afterStream temporary (streamResult (oracle.writeResult temporary) data)).removeFile
          temporary).writeFile file data, true) := if_pos good
    left
    simp only [Bool.and_eq_true, Bool.not_eq_true'] at good
    rcases good with ⟨⟨finished, closed⟩, renames⟩
    cases result : oracle.writeResult temporary with
    | complete =>
        rw [result] at published
        simp only [streamResult, afterStream] at published
        rw [removeFile_writeFile fresh] at published
        exact ⟨published, finished, rfl, renames⟩
    | openFails => simp [streamResult, result] at closed
    | failsAtWrite kept => simp [streamResult, result] at closed
    | failsAtClose kept => simp [streamResult, result] at closed
  · have failed : disk.publish oracle temporary file data complete =
        (((disk.afterStream temporary (streamResult (oracle.writeResult temporary) data)).remove
          oracle temporary).1, false) := if_neg good
    right
    rcases withdrawn (streamResult (oracle.writeResult temporary) data) with
      same | ⟨left, same, stuck⟩
    · left
      rw [failed, same]
    · right
      refine ⟨left, ?_, stuck⟩
      rw [failed, same]

/-- Only the listed files may differ. -/
structure AgreesOutside (touched : List Path) (before after : FileSystem) : Prop where
  directories : after.directories = before.directories
  content : ∀ path, path ∉ touched → after.content path = before.content path

namespace AgreesOutside

variable {touched : List Path} {before middle after : FileSystem}

theorem refl (touched : List Path) (disk : FileSystem) : AgreesOutside touched disk disk :=
  ⟨rfl, fun _ _ => rfl⟩

theorem trans (first : AgreesOutside touched before middle)
    (second : AgreesOutside touched middle after) : AgreesOutside touched before after := by
  constructor
  · exact second.directories.trans first.directories
  · intro path outside
    exact (second.content path outside).trans (first.content path outside)

theorem writeFile {path : Path} (listed : path ∈ touched)
    (agrees : AgreesOutside touched before after) (bytes : Bytes) :
    AgreesOutside touched before (after.writeFile path bytes) := by
  constructor
  · exact agrees.directories
  · intro other outside
    have different : other ≠ path := by
      rintro rfl
      exact outside listed
    rw [content_writeFile, if_neg different]
    exact agrees.content other outside

theorem removeFile {path : Path} (listed : path ∈ touched)
    (agrees : AgreesOutside touched before after) :
    AgreesOutside touched before (after.removeFile path) := by
  constructor
  · exact agrees.directories
  · intro other outside
    have different : other ≠ path := by
      rintro rfl
      exact outside listed
    rw [content_removeFile, if_neg different]
    exact agrees.content other outside

theorem mono {larger : List Path} (subset : touched ⊆ larger)
    (agrees : AgreesOutside touched before after) : AgreesOutside larger before after :=
  ⟨agrees.directories, fun path outside => agrees.content path fun member =>
    outside (subset member)⟩

end AgreesOutside

/-- Removing a file, where this succeeds, and otherwise leaving it. -/
theorem remove_agrees (disk : FileSystem) (oracle : Oracle) (path : Path) :
    AgreesOutside [path] disk (disk.remove oracle path).1 := by
  unfold FileSystem.remove
  split
  · exact AgreesOutside.refl _ _
  · exact (AgreesOutside.refl _ _).removeFile (List.mem_singleton.mpr rfl)

end FileSystem

end HsmSimulator
