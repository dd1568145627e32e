import UtteranceTemplate.Files.Tree

/-!
What file operations leave of a tree.

In a well-formed tree everything lies in a directory (`FileTree.IsWellFormed`).
Putting an entry into a directory leaves the tree well-formed unless a directory is
replaced by something else (`FileTree.IsWellFormed.putAt`).
-/

namespace UtteranceTemplate

namespace FileEntry

/-- Whether the entry is a directory, whoever may enter it. -/
def isDirectory : FileEntry → Bool
  | .directory | .sealedDirectory => true
  | .file _ | .sealedFile => false

end FileEntry

namespace FileTree

variable {tree : FileTree} {location : Location} {entry : FileEntry}

/-- Whether there is a directory at a place, whoever may enter it. -/
def HasDirectory (tree : FileTree) (location : Location) : Prop :=
  ∃ entry, tree.entry? location = some entry ∧ entry.isDirectory = true

/-- Whether everything in a tree lies in a directory. -/
def IsWellFormed (tree : FileTree) : Prop :=
  ∀ location entry, tree.entry? location = some entry →
    tree.HasDirectory location.parent

theorem isWellFormed_empty : IsWellFormed empty := by
  intro location entry h
  by_cases hnames : location.names = []
  · have hparent := Location.names_parent_of_eq_nil hnames
    exact ⟨.directory, entry?_of_names_eq_nil empty hparent, rfl⟩
  · have hnonempty : location.names.isEmpty = false := by simpa using hnames
    unfold entry? at h
    rw [hnonempty] at h
    cases h

/-- A tree stays well-formed if something is put into a directory and replaces no
directory by something else. -/
theorem IsWellFormed.putAt (h : tree.IsWellFormed) (hnames : location.names ≠ [])
    (hparent : tree.HasDirectory location.parent)
    (hkeep : tree.HasDirectory location → entry.isDirectory = true) :
    (tree.putAt location entry).IsWellFormed := by
  have hstays : ∀ place, tree.HasDirectory place →
      (tree.putAt location entry).HasDirectory place := by
    intro place hplace
    by_cases heq : place = location
    · rw [heq] at hplace ⊢
      exact ⟨entry, entry?_putAt_self hnames, hkeep hplace⟩
    · obtain ⟨holder, hholder, hdirectory⟩ := hplace
      exact ⟨holder, (entry?_putAt_of_ne heq).trans hholder, hdirectory⟩
  intro place found hfound
  apply hstays
  by_cases heq : place = location
  · rwa [heq]
  · rw [entry?_putAt_of_ne heq] at hfound
    exact h place found hfound

/-- A name leads from a place in a directory to a place in a directory. -/
theorem hasDirectory_parent_of_enter (h : tree.IsWellFormed) {start : Location}
    {name : List UInt8} (hstart : tree.HasDirectory start.parent)
    (henter : tree.enter start name = .ok location) :
    tree.HasDirectory location.parent := by
  unfold enter at henter
  split at henter
  case h_1 | h_2 | h_3 | h_4 => cases henter
  case h_5 hentry =>
    split at henter
    · cases henter
    · split at henter
      · obtain rfl := Except.ok.inj henter
        obtain ⟨holder, hholder, _⟩ := hstart
        exact h _ holder hholder
      · obtain rfl := Except.ok.inj henter
        rw [Location.parent_child]
        exact ⟨.directory, hentry, rfl⟩

/-- Names lead from a place in a directory to a place in a directory. -/
theorem hasDirectory_parent_of_follow (h : tree.IsWellFormed) {start : Location}
    {names : List (List UInt8)} (hstart : tree.HasDirectory start.parent)
    (hfollow : tree.follow start names = .ok location) :
    tree.HasDirectory location.parent := by
  induction names generalizing start with
  | nil =>
      obtain rfl := Except.ok.inj hfollow
      exact hstart
  | cons name names ih =>
      rw [follow] at hfollow
      split at hfollow
      · rename_i next henter
        exact ih (hasDirectory_parent_of_enter h hstart henter) hfollow
      · cases hfollow

/-- A path leads to a place in a directory. -/
theorem hasDirectory_parent_of_locate (h : tree.IsWellFormed) {path : FilePath}
    (hlocate : tree.locate path = .ok location) :
    tree.HasDirectory location.parent := by
  have htop : (Location.top path.anchor).names = [] := by
    cases path.anchor <;> rfl
  have hstart : tree.HasDirectory (Location.top path.anchor).parent :=
    ⟨.directory,
      entry?_of_names_eq_nil tree (Location.names_parent_of_eq_nil htop), rfl⟩
  unfold locate at hlocate
  split at hlocate
  · cases hlocate
  · dsimp only at hlocate
    split at hlocate
    · cases hlocate
    · exact hasDirectory_parent_of_follow h hstart hlocate

theorem names_ne_nil_of_not_directory (h : tree.entry? location ≠ some .directory) :
    location.names ≠ [] :=
  fun hnames => h (entry?_of_names_eq_nil tree hnames)

/-- Making a directory leaves a tree well-formed. -/
theorem IsWellFormed.makeDirectory (h : tree.IsWellFormed) {path : FilePath}
    {made : FileTree} (hmake : tree.makeDirectory path = .ok made) :
    made.IsWellFormed := by
  unfold FileTree.makeDirectory at hmake
  split at hmake
  · cases hmake
  · rename_i location hlocate
    split at hmake
    · rename_i hnone
      obtain rfl := Except.ok.inj hmake
      have hnames := names_ne_nil_of_not_directory (by rw [hnone]; exact nofun)
      exact h.putAt hnames (hasDirectory_parent_of_locate h hlocate) fun _ => rfl
    · obtain rfl := Except.ok.inj hmake
      exact h
    · obtain rfl := Except.ok.inj hmake
      exact h
    · cases hmake
    · cases hmake

/-- Writing a file leaves a tree well-formed. -/
theorem IsWellFormed.write (h : tree.IsWellFormed) {path : FilePath}
    {bytes : List UInt8} {written : FileTree}
    (hwrite : tree.write path bytes = .ok written) : written.IsWellFormed := by
  unfold FileTree.write at hwrite
  split at hwrite
  · cases hwrite
  · rename_i location hlocate
    split at hwrite
    · cases hwrite
    · cases hwrite
    · cases hwrite
    · rename_i hplain hsealed _
      obtain rfl := Except.ok.inj hwrite
      refine h.putAt (names_ne_nil_of_not_directory hplain)
        (hasDirectory_parent_of_locate h hlocate) ?_
      rintro ⟨old, hold, hdirectory⟩
      cases old with
      | directory => exact absurd hold hplain
      | sealedDirectory => exact absurd hold hsealed
      | file | sealedFile => cases hdirectory

end FileTree

end UtteranceTemplate
