import UtteranceTemplate.Entries
import UtteranceTemplate.Files.Path
import UtteranceTemplate.Text.Utf8

/-!
File trees: the directories and files that a project can see. A path is followed
name by name, and every name but the last must be that of a directory. Names are
rows of bytes, since different texts can write the same one.

The tree has two tops, the project's directory and the root of all
directories. What lies above the project's directory is not known: there are
directories, and nothing else.
-/

namespace UtteranceTemplate

/-- Why a file operation fails. -/
inductive FileFault
  | missing
  | exists
  | notDirectory
  | isDirectory
  | nameTooLong
  /-- There is something on the path for which the user has no permission. -/
  | denied
  /-- The path holds a character that no name can have. -/
  | nullCharacter
  /-- The path holds half of a pair that no name can have. -/
  | unencodable
  deriving DecidableEq, Repr

/-- Whether the fault is one of the system's, and not one of the path as a text. -/
def FileFault.isOfSystem : FileFault → Bool
  | .nullCharacter | .unencodable => false
  | _ => true

/-- Why no file can have a path, whatever files there are. -/
def FilePath.fault? (path : FilePath) : Option FileFault :=
  if path.names.any (·.any Utf8.isRefused) then some .unencodable
  else if path.names.any (·.contains '\x00') then some .nullCharacter
  else none

theorem FilePath.fault?_eq_unencodable_iff {path : FilePath} :
    path.fault? = some .unencodable ↔
      ∃ name ∈ path.names, ∃ c ∈ name, Utf8.isRefused c = true := by
  unfold fault?
  split
  case isTrue hrefused => exact iff_of_true rfl (by simpa using hrefused)
  case isFalse hrefused =>
    refine iff_of_false ?_ (by simpa using hrefused)
    split <;> simp

theorem FilePath.isSome_fault?_iff {path : FilePath} :
    path.fault?.isSome = true ↔
      ∃ name ∈ path.names, ∃ c ∈ name, c = .char '\x00' ∨
        Utf8.isRefused c = true := by
  unfold fault?
  split
  case isTrue hrefused =>
    simp only [List.any_eq_true] at hrefused
    obtain ⟨name, hname, c, hc, href⟩ := hrefused
    exact iff_of_true rfl ⟨name, hname, c, hc, .inr href⟩
  case isFalse hrefused =>
    have hall : ∀ name ∈ path.names, ∀ c ∈ name, ¬ Utf8.isRefused c = true := by
      simpa using hrefused
    split
    case isTrue hnull =>
      simp only [List.any_eq_true, List.contains_iff_mem] at hnull
      obtain ⟨name, hname, hmem⟩ := hnull
      exact iff_of_true rfl ⟨name, hname, _, hmem, .inl rfl⟩
    case isFalse hnull =>
      refine iff_of_false (by simp) ?_
      rintro ⟨name, hname, c, hc, rfl | href⟩
      · exact hnull (List.any_eq_true.mpr ⟨name, hname, by simpa using hc⟩)
      · exact hall name hname c hc href

theorem FilePath.isOfSystem_of_fault? {path : FilePath} {fault : FileFault}
    (h : path.fault? = some fault) : fault.isOfSystem = false := by
  unfold fault? at h
  split at h
  · cases h
    rfl
  · split at h
    · cases h
      rfl
    · cases h

/-- A place in a file tree: the names from a top down. That is the directory `above`
levels over the project's, or else the root. -/
structure Location where
  inProject : Bool
  above : Nat
  names : List (List UInt8)
  deriving DecidableEq, Repr

/-- What there is at a place. -/
inductive FileEntry
  | directory
  | file (bytes : List UInt8)
  /-- A directory for which the user has no permission. -/
  | sealedDirectory
  /-- A file for which the user has no permission. -/
  | sealedFile
  deriving DecidableEq, Repr

/-- The directories and files that a project can see, below the two tops. -/
structure FileTree where
  entries : Entries Location FileEntry
  deriving DecidableEq, Repr

namespace Location

def top : Anchor → Location
  | .current | .project => ⟨true, 0, []⟩
  | .root | .doubleRoot => ⟨false, 0, []⟩

def child (location : Location) (name : List UInt8) : Location :=
  { location with names := location.names ++ [name] }

/-- The directory that holds a place; the root holds itself. -/
def parent (location : Location) : Location :=
  if !location.names.isEmpty then { location with names := location.names.dropLast }
  else if location.inProject then { location with above := location.above + 1 }
  else location

theorem parent_child (location : Location) (name : List UInt8) :
    (location.child name).parent = location := by
  simp [parent, child]

/-- What holds a top is a top. -/
theorem names_parent_of_eq_nil {location : Location} (h : location.names = []) :
    location.parent.names = [] := by
  unfold parent
  split
  · simp [h]
  · split <;> exact h

end Location

namespace FileTree

def empty : FileTree := ⟨[]⟩

/-- What there is at a place. -/
def entry? (tree : FileTree) (location : Location) : Option FileEntry :=
  if location.names.isEmpty then some .directory else tree.entries.get? location

theorem entry?_of_names_eq_nil (tree : FileTree) {location : Location}
    (h : location.names = []) :
    tree.entry? location = some .directory := by
  unfold entry?
  simp [h]

def nameLimit : Nat := 255

def pathLimit : Nat := 4095

def enter (tree : FileTree) (location : Location) (name : List UInt8) :
    Except FileFault Location :=
  match tree.entry? location with
  | none => .error .missing
  | some (.file _) | some .sealedFile => .error .notDirectory
  | some .sealedDirectory => .error .denied
  | some .directory =>
      if nameLimit < name.length then .error .nameTooLong
      else if name = [0x2e, 0x2e] then .ok location.parent
      else .ok (location.child name)

theorem isOfSystem_of_enter_eq_error {tree : FileTree} {location : Location}
    {name : List UInt8} {fault : FileFault}
    (h : tree.enter location name = .error fault) :
    fault.isOfSystem = true := by
  unfold enter at h
  split at h
  case h_1 | h_2 | h_3 | h_4 =>
    cases h
    rfl
  case h_5 =>
    split at h
    · cases h
      rfl
    · split at h <;> cases h

def follow (tree : FileTree) (location : Location) :
    List (List UInt8) → Except FileFault Location
  | [] => .ok location
  | name :: rest =>
      match tree.enter location name with
      | .ok location => tree.follow location rest
      | .error fault => .error fault

theorem isOfSystem_of_follow_eq_error {tree : FileTree} {location : Location}
    {names : List (List UInt8)} {fault : FileFault}
    (h : tree.follow location names = .error fault) : fault.isOfSystem = true := by
  induction names generalizing location with
  | nil => cases h
  | cons name names ih =>
      rw [follow] at h
      split at h
      · exact ih h
      · rename_i henter
        cases h
        exact isOfSystem_of_enter_eq_error henter

def locate (tree : FileTree) (path : FilePath) : Except FileFault Location :=
  match path.fault? with
  | some fault => .error fault
  | none =>
      let names := path.names.map Utf8.encodeName
      if pathLimit < path.size names then .error .nameTooLong
      else tree.follow (.top path.anchor) names

/-- A fault that is not the system's does not depend on the files. -/
theorem locate_eq_error_iff {fault : FileFault} (h : fault.isOfSystem = false)
    (tree : FileTree) (path : FilePath) :
    tree.locate path = .error fault ↔ path.fault? = some fault := by
  rw [locate]
  split
  · rename_i found hfound
    simp [hfound]
  · rename_i hnone
    have hnot : ¬ path.fault? = some fault := by simp [hnone]
    refine iff_of_false ?_ hnot
    intro hlocate
    -- a path that is none of the system's faults is followed, and that fails
    -- by the system
    have hsystem : fault.isOfSystem = true := by
      dsimp only at hlocate
      split at hlocate
      · cases hlocate
        rfl
      · exact isOfSystem_of_follow_eq_error hlocate
    rw [h] at hsystem
    cases hsystem

def look (tree : FileTree) (path : FilePath) : Except FileFault FileEntry :=
  match tree.locate path with
  | .error fault => .error fault
  | .ok location =>
      match tree.entry? location with
      | some entry => .ok entry
      | none => .error .missing

theorem look_eq_error_iff {fault : FileFault} (h : fault.isOfSystem = false)
    (tree : FileTree) (path : FilePath) :
    tree.look path = .error fault ↔ path.fault? = some fault := by
  rw [← locate_eq_error_iff h tree path, look]
  have hmissing : FileFault.missing ≠ fault := by
    rintro rfl
    cases h
  cases tree.locate path with
  | error => simp
  | ok location =>
      simp only [reduceCtorEq, iff_false]
      split <;> simp [hmissing]

/-- Whether there is something at the end of a path, if that can be known. -/
def hasEntry (tree : FileTree) (path : FilePath) : Except FileFault Bool :=
  match tree.look path with
  | .ok _ => .ok true
  | .error .nameTooLong => .error .nameTooLong
  | .error .denied => .error .denied
  | .error _ => .ok false

theorem hasEntry_eq_true_iff (tree : FileTree) (path : FilePath) :
    tree.hasEntry path = .ok true ↔ ∃ entry, tree.look path = .ok entry := by
  rw [hasEntry]
  cases tree.look path with
  | ok entry => simp
  | error fault => cases fault <;> simp

def read (tree : FileTree) (path : FilePath) : Except FileFault (List UInt8) :=
  match tree.look path with
  | .error fault => .error fault
  | .ok .directory => .error .isDirectory
  | .ok .sealedDirectory | .ok .sealedFile => .error .denied
  | .ok (.file bytes) => .ok bytes

theorem read_eq_ok_iff {tree : FileTree} {path : FilePath} {bytes : List UInt8} :
    tree.read path = .ok bytes ↔ tree.look path = .ok (.file bytes) := by
  rw [read]
  split <;> simp_all

theorem read_eq_error_iff {fault : FileFault} (h : fault.isOfSystem = false)
    (tree : FileTree) (path : FilePath) :
    tree.read path = .error fault ↔ path.fault? = some fault := by
  rw [← look_eq_error_iff h tree path, read]
  have hdirectory : FileFault.isDirectory ≠ fault := by
    rintro rfl
    cases h
  have hdenied : FileFault.denied ≠ fault := by
    rintro rfl
    cases h
  split <;> simp_all

def putAt (tree : FileTree) (location : Location) (entry : FileEntry) : FileTree :=
  ⟨tree.entries.put location entry⟩

theorem entry?_putAt_self {tree : FileTree} {location : Location} {entry : FileEntry}
    (hnames : location.names ≠ []) :
    FileTree.entry? (tree.putAt location entry) location = some entry := by
  have hnonempty : location.names.isEmpty = false := by simpa using hnames
  unfold entry?
  rw [hnonempty]
  exact Entries.get?_put_self _ _ _

/-- What is put somewhere changes nothing elsewhere. -/
theorem entry?_putAt_of_ne {tree : FileTree} {location other : Location}
    {entry : FileEntry} (h : other ≠ location) :
    FileTree.entry? (tree.putAt location entry) other = tree.entry? other := by
  unfold entry? putAt
  split
  · rfl
  · exact Entries.get?_put_of_ne _ _ h.symm

/-- Makes the directory at the end of a path; one that is there already stays. -/
def makeDirectory (tree : FileTree) (path : FilePath) : Except FileFault FileTree :=
  match tree.locate path with
  | .error fault => .error fault
  | .ok location =>
      match tree.entry? location with
      | none => .ok (tree.putAt location .directory)
      | some .directory | some .sealedDirectory => .ok tree
      | some (.file _) | some .sealedFile => .error .exists

def write (tree : FileTree) (path : FilePath) (bytes : List UInt8) :
    Except FileFault FileTree :=
  match tree.locate path with
  | .error fault => .error fault
  | .ok location =>
      match tree.entry? location with
      | some .directory | some .sealedDirectory => .error .isDirectory
      | some .sealedFile => .error .denied
      | _ => .ok (tree.putAt location (.file bytes))

/-- The paths of the directories on the way to the end of a path, from the
top down. -/
def parentsOf (path : FilePath) : List FilePath :=
  (List.range path.names.length).tail.map fun k =>
    { path with names := path.names.take k }

end FileTree

namespace FileFault

/-- A fault of the system in words, with its number and the written form of
the path. -/
def systemMessage (number : Nat) (name : String) (path : Text) : Text :=
  "[Errno ".text ++ Text.ofNat number ++ "] ".text ++ name.text ++
    ": ".text ++ path.quoted

/-- The fault in words, with the written form of the path. -/
def message (path : Text) : FileFault → Text
  | .missing => systemMessage 2 "No such file or directory" path
  | .denied => systemMessage 13 "Permission denied" path
  | .exists => systemMessage 17 "File exists" path
  | .notDirectory => systemMessage 20 "Not a directory" path
  | .isDirectory => systemMessage 21 "Is a directory" path
  | .nameTooLong => systemMessage 36 "File name too long" path
  | .nullCharacter => "embedded null byte".text
  | .unencodable => Utf8.unwritableMessage Utf8.isRefused path

end FileFault

/-- Why a file cannot be read as text. -/
inductive ReadFault
  | file (fault : FileFault)
  | encoding (fault : Utf8.Fault)
  deriving DecidableEq, Repr

/-- The fault in words, with the written form of the path. -/
def ReadFault.message (path : Text) : ReadFault → Text
  | .file fault => fault.message path
  | .encoding fault => fault.message

/-- The text of the file at the end of a path, with line feeds at the ends of
its lines. -/
def FileTree.readText (tree : FileTree) (path : FilePath) : Except ReadFault Text :=
  match tree.read path with
  | .error fault => .error (.file fault)
  | .ok bytes =>
      match Utf8.decode bytes with
      | .error fault => .error (.encoding fault)
      | .ok text => .ok text.unifyLineBreaks

theorem FileTree.readText_of_fault? {path : FilePath} {fault : FileFault}
    (h : path.fault? = some fault) (tree : FileTree) :
    tree.readText path = .error (.file fault) := by
  have hlook : tree.look path = .error fault := by rw [look, locate, h]
  rw [readText, read, hlook]

theorem FileTree.readText_eq_error_iff {fault : FileFault}
    (h : fault.isOfSystem = false) (tree : FileTree) (path : FilePath) :
    tree.readText path = .error (.file fault) ↔ path.fault? = some fault := by
  rw [← read_eq_error_iff h tree path, readText]
  cases tree.read path with
  | error => simp
  | ok bytes =>
      simp only [reduceCtorEq, iff_false]
      split <;> simp

/-- A text is read exactly if there is a file at the end of the path and its bytes
are those of a text. -/
theorem FileTree.readText_eq_ok_iff {tree : FileTree} {path : FilePath}
    {text : Text} :
    tree.readText path = .ok text ↔
      ∃ bytes written, tree.look path = .ok (.file bytes) ∧
        Utf8.decode bytes = .ok written ∧ text = written.unifyLineBreaks := by
  simp only [← read_eq_ok_iff]
  cases hread : tree.read path with
  | error fault => simp [readText, hread]
  | ok bytes =>
      cases hdecode : Utf8.decode bytes with
      | error fault => simp [readText, hread, hdecode]
      | ok written => simp [readText, hread, hdecode, eq_comm]

end UtteranceTemplate
