import Mathlib.Tactic.Common
import ReceiptRules.Files
import ReceiptRules.Proofs.Except

/-!
# Reading what was written

A file that was written can be read where it was written. Putting it there takes no directory away, so that
a path leads to the same place before and after (`KeepsDirectories.locate`).
-/

namespace ReceiptRules.FileTree

variable {tree written : FileTree} {place target : List String} {entry : FileEntry}

@[simp] theorem workingDirectory_insert (tree : FileTree) (place : List String) (entry : FileEntry) :
    (tree.insert place entry).workingDirectory = tree.workingDirectory := rfl

theorem entryAt?_insert_self (h : tree.entryAt? target ≠ some .directory) :
    (tree.insert target entry).entryAt? target = some entry := by
  rw [entryAt?, workingDirectory_insert, if_neg, lookup_insert_self]
  intro hprefix
  exact h (if_pos hprefix)

theorem entryAt?_insert_of_ne (h : place ≠ target) :
    (tree.insert target entry).entryAt? place = tree.entryAt? place := by
  rw [entryAt?, entryAt?, workingDirectory_insert, lookup_insert_of_ne tree entry h]

/-- The place that a name leads to from a directory. -/
def next (place : List String) (name : String) : List String :=
  if name = "." then place else if name = ".." then place.dropLast else place ++ [name]

theorem walk_cons_eq_ok {name : String} {names found : List String} :
    tree.walk place (name :: names) = .ok found ↔
      tree.entryAt? place = some .directory ∧ tree.walk (next place name) names = .ok found := by
  rw [walk, next]
  split
  · next hentry => simp [hentry]
  · next hentry =>
    rw [hentry]
    split_ifs <;> simp
  · next hdirectory hentry =>
    rw [hentry]
    exact iff_of_false nofun fun h => hdirectory (Option.some.inj h.1)

/-- The directory that a path starts from. -/
def start (tree : FileTree) (p : FilePath) : List String :=
  if p.absolute then [] else tree.workingDirectory

@[simp] theorem entryAt?_start (tree : FileTree) (p : FilePath) :
    tree.entryAt? (tree.start p) = some .directory := by
  rw [start]
  split_ifs <;> simp [entryAt?]

theorem locate_eq_ok {p : FilePath} :
    tree.locate p = .ok place ↔ p.isEmpty = false ∧ tree.walk (tree.start p) p.names = .ok place := by
  rw [locate, start]
  cases p.isEmpty <;> simp

/-- The directories of a tree are there in a later one as well. -/
structure KeepsDirectories (tree later : FileTree) : Prop where
  workingDirectory : later.workingDirectory = tree.workingDirectory
  entryAt? {place : List String} (h : tree.entryAt? place = some .directory) :
    later.entryAt? place = some .directory

theorem KeepsDirectories.trans {later last : FileTree} (h : tree.KeepsDirectories later)
    (h' : later.KeepsDirectories last) : tree.KeepsDirectories last :=
  ⟨h'.workingDirectory.trans h.workingDirectory, fun hplace => h'.entryAt? (h.entryAt? hplace)⟩

/-- A walk goes through directories only, so that it can be taken again where these are kept. -/
theorem KeepsDirectories.walk {later : FileTree} (h : tree.KeepsDirectories later)
    {names found : List String} (hwalk : tree.walk place names = .ok found) :
    later.walk place names = .ok found := by
  induction names generalizing place with
  | nil => exact hwalk
  | cons name names ih =>
    obtain ⟨hentry, hrest⟩ := walk_cons_eq_ok.mp hwalk
    exact walk_cons_eq_ok.mpr ⟨h.entryAt? hentry, ih hrest⟩

theorem KeepsDirectories.locate {later : FileTree} (h : tree.KeepsDirectories later) {p : FilePath}
    (hlocate : tree.locate p = .ok place) : later.locate p = .ok place := by
  rw [locate_eq_ok, start] at hlocate ⊢
  rw [h.workingDirectory]
  exact ⟨hlocate.1, h.walk hlocate.2⟩

/-- An entry that is put where there is no directory takes none away. -/
theorem keepsDirectories_insert (h : tree.entryAt? target ≠ some .directory) :
    tree.KeepsDirectories (tree.insert target entry) where
  workingDirectory := rfl
  entryAt? {place} hentry := by
    have hne : place ≠ target := by
      rintro rfl
      exact h hentry
    rw [entryAt?_insert_of_ne hne, hentry]

/-- Writing puts a file at the place that the path leads to, where there is no directory. -/
theorem exists_of_write {path text : String} (h : tree.write path text = .ok written) :
    ∃ place, tree.locate (.ofText path) = .ok place ∧ tree.entryAt? place ≠ some .directory ∧
      (FilePath.ofText path).directory = false ∧ written = tree.insert place (.file text) := by
  simp only [write, bind_eq_ok] at h
  obtain ⟨place, hlocate, h⟩ := h
  refine ⟨place, hlocate, ?_⟩
  split at h
  · cases h
  · cases h
  · next entry hdirectory _ hentry =>
    split_ifs at h with hp
    obtain rfl := pure_eq_ok.mp h
    rw [hentry]
    exact ⟨fun heq => hdirectory (Option.some.inj heq), Bool.eq_false_iff.mpr hp, rfl⟩
  · next hentry =>
    split_ifs at h with hp
    obtain rfl := pure_eq_ok.mp h
    rw [hentry]
    exact ⟨by simp, Bool.eq_false_iff.mpr hp, rfl⟩

theorem keepsDirectories_write {path text : String} (h : tree.write path text = .ok written) :
    tree.KeepsDirectories written := by
  obtain ⟨place, -, hentry, -, rfl⟩ := exists_of_write h
  exact keepsDirectories_insert hentry

theorem lookup_write {path text : String} (h : tree.write path text = .ok written) :
    written.lookup (.ofText path) = .ok (.file text) := by
  obtain ⟨place, hlocate, hentry, hdirectory, rfl⟩ := exists_of_write h
  simp [lookup, (keepsDirectories_insert hentry).locate hlocate, entryAt?_insert_self hentry, hdirectory]

/-- A path that leads to a file can be read. -/
theorem read_of_lookup {path text : String} (h : tree.lookup (.ofText path) = .ok (.file text)) :
    tree.contains path = true ∧ tree.read path = .ok text := by
  constructor
  · rw [contains, h]
    rfl
  · rw [read, h]
    rfl

/-! ## Writing once more -/

/-- Putting an entry where it is changes nothing. -/
@[simp] theorem insert_insert (tree : FileTree) (place : List String) (entry : FileEntry) :
    (tree.insert place entry).insert place entry = tree.insert place entry := by
  simp [insert]

theorem write_write {path text : String} (h : tree.write path text = .ok written) :
    written.write path text = .ok written := by
  obtain ⟨place, hlocate, hentry, hdirectory, rfl⟩ := exists_of_write h
  simp [write, (keepsDirectories_insert hentry).locate hlocate, entryAt?_insert_self hentry, hdirectory]

/-- On the way to a place one passes through the directory that it is in. -/
theorem exists_of_walk_append {name : String} {names found : List String}
    (h : tree.walk place (names ++ [name]) = .ok found) :
    ∃ parent, tree.walk place names = .ok parent ∧ tree.entryAt? parent = some .directory := by
  induction names generalizing place with
  | nil => exact ⟨place, rfl, (walk_cons_eq_ok.mp h).1⟩
  | cons first names ih =>
    obtain ⟨hentry, hrest⟩ := walk_cons_eq_ok.mp h
    obtain ⟨parent, hparent, hdirectory⟩ := ih hrest
    exact ⟨parent, walk_cons_eq_ok.mpr ⟨hentry, hparent⟩, hdirectory⟩

theorem ensureDirectory_of_entryAt? {p : FilePath} (hlocate : tree.locate p = .ok place)
    (hentry : tree.entryAt? place = some .directory) : tree.ensureDirectory p = (tree, .ok ()) := by
  have hmake : tree.makeDirectory p = .error .alreadyExists := by
    simp [makeDirectory, hlocate, bind, Except.bind, hentry]
  have hdirectory : tree.isDirectory p = true := by
    simp [isDirectory, lookup, hlocate, bind, Except.bind, hentry, pure, Except.pure]
  rw [ensureDirectory, hmake, hdirectory]
  rfl

theorem locate_parent? {p parent : FilePath} (hlocate : tree.locate p = .ok place)
    (hparent : p.parent? = some parent) (hempty : parent.isEmpty = false) :
    ∃ found, tree.locate parent = .ok found ∧ tree.entryAt? found = some .directory := by
  obtain ⟨absolute, names, directory⟩ := p
  rcases List.eq_nil_or_concat names with rfl | ⟨names, name, rfl⟩
  · cases hparent
  · rw [List.concat_eq_append] at hlocate hparent
    obtain rfl : ⟨absolute, names, false⟩ = parent := by simpa [FilePath.parent?] using hparent
    rw [locate] at hlocate ⊢
    rw [if_neg (by simp [FilePath.isEmpty])] at hlocate
    rw [if_neg (by simp [hempty])]
    exact exists_of_walk_append hlocate

/-- The directory of a place that can be found is there, so that none needs to be made. -/
theorem makeParent_of_locate {path : String} (h : tree.locate (.ofText path) = .ok place) :
    tree.makeParent path = (tree, .ok ()) := by
  rw [makeParent]
  cases hparent : (FilePath.ofText path).parent? with
  | none => rfl
  | some parent =>
    simp only [makeDirectories]
    cases hempty : parent.isEmpty with
    | true => rw [if_pos rfl]
    | false =>
      obtain ⟨found, hlocate, hentry⟩ := locate_parent? h hparent hempty
      rw [if_neg nofun, ensureDirectory_of_entryAt? hlocate hentry]

end ReceiptRules.FileTree
