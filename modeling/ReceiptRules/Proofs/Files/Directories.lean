import Mathlib.Data.List.Induction
import Mathlib.Logic.Relation
import ReceiptRules.Proofs.Files

/-!
# Made directories

Directories are made for a file that is to be written. No file changes (`GrowsTo.fileAt?_eq`), but a path
can then lead to a file that it did not lead to before: it passes through a directory that was missing,
and leaves it again by two points (`GrowsTo.locate_of_write`).
-/

namespace ReceiptRules.FileTree

variable {tree later written : FileTree} {place target names : List String} {entry : FileEntry}
  {p : FilePath}

/-! ## Files at places -/

/-- The file at a place; a directory is none. -/
def fileAt? (tree : FileTree) (place : List String) : Option FileEntry :=
  (tree.entryAt? place).filter (· ≠ .directory)

theorem fileAt?_eq_some_iff :
    tree.fileAt? place = some entry ↔ tree.entryAt? place = some entry ∧ entry ≠ .directory := by
  simp [fileAt?]

/-- A path leads to a file where the file is. -/
theorem lookup_eq_file_iff {text : String} :
    tree.lookup p = .ok (.file text) ↔
      ∃ place, tree.locate p = .ok place ∧ tree.fileAt? place = some (.file text) ∧
        p.directory = false := by
  simp only [lookup, bind_eq_ok, fileAt?_eq_some_iff]
  refine exists_congr fun place => and_congr_right fun _ => ?_
  rcases tree.entryAt? place with _ | (text' | _ | e)
  · simp
  · cases p.directory <;> simp
  · simp
  · cases p.directory <;> simp

/-- Writing changes the file that the path leads to, and no other. -/
theorem fileAt?_write {path text : String} (h : tree.write path text = .ok written)
    (hlocate : tree.locate (.ofText path) = .ok target) (place : List String) :
    written.fileAt? place = if place = target then some (.file text) else tree.fileAt? place := by
  obtain ⟨found, hfound, htarget, -, rfl⟩ := exists_of_write h
  obtain rfl : target = found := Except.ok.inj (hlocate.symm.trans hfound)
  split_ifs with hplace
  · subst hplace
    rw [fileAt?_eq_some_iff, entryAt?_insert_self htarget]
    exact ⟨rfl, nofun⟩
  · rw [fileAt?, fileAt?, entryAt?_insert_of_ne hplace]

/-! ## Making directories -/

/-- A tree turns into another one as directories are made. -/
def GrowsTo : FileTree → FileTree → Prop :=
  Relation.ReflTransGen fun tree made => ∃ p, tree.makeDirectory p = .ok made

theorem makeDirectory_eq_ok :
    tree.makeDirectory p = .ok later ↔
      ∃ place, tree.locate p = .ok place ∧ tree.entryAt? place = none ∧
        later = tree.insert place .directory := by
  rw [makeDirectory, bind_eq_ok]
  refine exists_congr fun place => and_congr_right fun _ => ?_
  cases tree.entryAt? place with
  | none => rw [pure_eq_ok, eq_comm, and_iff_right rfl]
  | some entry => simp

namespace GrowsTo

theorem refl (tree : FileTree) : tree.GrowsTo tree := Relation.ReflTransGen.refl

theorem keepsDirectories (h : tree.GrowsTo later) : tree.KeepsDirectories later := by
  induction h with
  | refl => exact ⟨rfl, id⟩
  | tail _ hmake ih =>
    obtain ⟨p, hmake⟩ := hmake
    obtain ⟨target, -, hmissing, rfl⟩ := makeDirectory_eq_ok.mp hmake
    exact ih.trans (keepsDirectories_insert (hmissing.trans_ne nofun))

/-- A place is as it was, unless nothing was there and it is a directory now. -/
theorem entryAt? (h : tree.GrowsTo later) (place : List String) :
    later.entryAt? place = tree.entryAt? place ∨
      tree.entryAt? place = none ∧ later.entryAt? place = some .directory := by
  induction h with
  | refl => exact .inl rfl
  | tail _ hmake ih =>
    obtain ⟨p, hmake⟩ := hmake
    obtain ⟨target, -, hmissing, rfl⟩ := makeDirectory_eq_ok.mp hmake
    by_cases hplace : place = target
    · subst hplace
      right
      rw [hmissing] at ih
      refine ⟨?_, entryAt?_insert_self (hmissing.trans_ne nofun)⟩
      rcases ih with ih | ih
      · exact ih.symm
      · cases ih.2
    · rwa [entryAt?_insert_of_ne hplace]

/-- No file changes. -/
theorem fileAt?_eq (h : tree.GrowsTo later) (place : List String) :
    later.fileAt? place = tree.fileAt? place := by
  rcases h.entryAt? place with hsame | ⟨hmissing, hmade⟩
  · rw [fileAt?, fileAt?, hsame]
  · simp [fileAt?, hmissing, hmade]

end GrowsTo

theorem ensureDirectory_grows (tree : FileTree) (p : FilePath) :
    tree.GrowsTo (tree.ensureDirectory p).1 := by
  rw [ensureDirectory]
  split
  · next made hmake => exact .single ⟨p, hmake⟩
  · exact .refl tree

/-- Directories are all that is made, also by an attempt that fails. -/
theorem makeDirectories_grows (tree : FileTree) (p : FilePath) (fuel : ℕ) :
    tree.GrowsTo (tree.makeDirectories p fuel).1 := by
  induction fuel generalizing p with
  | zero => exact .refl tree
  | succ fuel ih =>
    rw [makeDirectories]
    split_ifs
    · exact .refl tree
    · split
      · next parent _ _ =>
        have hparent := ih parent
        split
        · next made hmade =>
          rw [hmade] at hparent
          exact hparent.trans (made.ensureDirectory_grows p)
        · exact hparent
      · exact tree.ensureDirectory_grows p

theorem makeParent_grows (tree : FileTree) (path : String) : tree.GrowsTo (tree.makeParent path).1 := by
  rw [makeParent]
  split
  · exact .refl tree
  · exact makeDirectories_grows tree _ _

/-! ## Places in directories -/

/-- Whatever is there is in a directory. -/
def Rooted (tree : FileTree) : Prop :=
  ∀ place, tree.entryAt? place ≠ none → tree.entryAt? place.dropLast = some .directory

namespace Rooted

/-- A walk leads to a place in a directory. -/
theorem walk (hrooted : tree.Rooted) {found : List String} (hwalk : tree.walk place names = .ok found)
    (hplace : tree.entryAt? place.dropLast = some .directory) :
    tree.entryAt? found.dropLast = some .directory := by
  induction names generalizing place with
  | nil =>
    cases hwalk
    exact hplace
  | cons name names ih =>
    obtain ⟨hentry, hrest⟩ := walk_cons_eq_ok.mp hwalk
    refine ih hrest ?_
    rw [next]
    split_ifs
    · exact hplace
    -- Two points lead to the directory above, which is in a directory as well.
    · exact hrooted _ (hplace.trans_ne (Option.some_ne_none _))
    · rwa [List.dropLast_concat]

theorem locate (hrooted : tree.Rooted) (hlocate : tree.locate p = .ok place) :
    tree.entryAt? place.dropLast = some .directory := by
  have hstart := tree.entryAt?_start p
  exact hrooted.walk (locate_eq_ok.mp hlocate).2 (hrooted _ (hstart.trans_ne nofun))

theorem insert (hrooted : tree.Rooted) (hparent : tree.entryAt? target.dropLast = some .directory)
    (htarget : tree.entryAt? target ≠ some .directory) : (tree.insert target entry).Rooted := by
  have hkeeps : tree.KeepsDirectories (tree.insert target entry) := keepsDirectories_insert htarget
  intro place hplace
  by_cases heq : place = target
  · subst heq
    exact hkeeps.entryAt? hparent
  · rw [entryAt?_insert_of_ne heq] at hplace
    exact hkeeps.entryAt? (hrooted place hplace)

/-- Above what is there are directories. -/
theorem directory_above (hrooted : tree.Rooted) (htarget : tree.entryAt? target ≠ none)
    (habove : place <+: target) (hne : place ≠ target) : tree.entryAt? place = some .directory := by
  obtain ⟨names, rfl⟩ := habove
  induction names using List.reverseRecOn with
  | nil => simp at hne
  | append_singleton names name ih =>
    have hparent : tree.entryAt? (place ++ names) = some .directory := by
      simpa [← List.append_assoc] using hrooted _ htarget
    by_cases hnames : names = []
    · simpa [hnames] using hparent
    · exact ih (hparent.trans_ne nofun) (by simpa using hnames)

end Rooted

theorem GrowsTo.rooted (h : tree.GrowsTo later) (hrooted : tree.Rooted) : later.Rooted := by
  induction h with
  | refl => exact hrooted
  | tail _ hmake ih =>
    obtain ⟨p, hmake⟩ := hmake
    obtain ⟨target, hlocate, hmissing, rfl⟩ := makeDirectory_eq_ok.mp hmake
    exact ih.insert (ih.locate hlocate) (hmissing.trans_ne nofun)

theorem Rooted.write {path text : String} (hrooted : tree.Rooted)
    (h : tree.write path text = .ok written) : written.Rooted := by
  obtain ⟨place, hlocate, hplace, -, rfl⟩ := exists_of_write h
  exact hrooted.insert (hrooted.locate hlocate) hplace

/-! ## Paths that come to lead somewhere -/

/-- Without two points a walk goes down only. -/
theorem prefix_of_walk {found : List String} (hdots : ".." ∉ names)
    (hwalk : tree.walk place names = .ok found) : place <+: found := by
  induction names generalizing place with
  | nil =>
    cases hwalk
    exact List.prefix_rfl
  | cons name names ih =>
    rw [List.mem_cons, not_or] at hdots
    have habove := ih hdots.2 (walk_cons_eq_ok.mp hwalk).2
    rw [next, if_neg (Ne.symm hdots.1)] at habove
    split_ifs at habove
    · exact habove
    · exact (List.prefix_append place [name]).trans habove

/-- Without two points, a walk that leads to a file where other directories are there leads to it in any
tree that has the file. -/
theorem Rooted.walk_of_walk (hrooted : tree.Rooted) (hdots : ".." ∉ names)
    (hthere : tree.entryAt? target ≠ none) (htarget : later.entryAt? target ≠ some .directory)
    (hlater : later.walk place names = .ok target) : tree.walk place names = .ok target := by
  induction names generalizing place with
  | nil => exact hlater
  | cons name names ih =>
    -- A place on the way lies above the target, and is not the target itself, which is no directory.
    have habove := prefix_of_walk hdots hlater
    obtain ⟨hdirectory, hrest⟩ := walk_cons_eq_ok.mp hlater
    have hne : place ≠ target := by
      rintro rfl
      exact htarget hdirectory
    have hentry := hrooted.directory_above hthere habove hne
    exact walk_cons_eq_ok.mpr ⟨hentry, ih (fun hmem => hdots (.tail _ hmem)) hrest⟩

namespace GrowsTo

/-- If a walk comes to lead somewhere, a directory on it was missing. -/
theorem walk_eq_ok_or (h : tree.GrowsTo later) {found : List String}
    (hlater : later.walk place names = .ok found) :
    tree.walk place names = .ok found ∨ tree.walk place names = .error .notFound := by
  induction names generalizing place with
  | nil => exact .inl hlater
  | cons name names ih =>
    obtain ⟨hdirectory, hrest⟩ := walk_cons_eq_ok.mp hlater
    rcases h.entryAt? place with hsame | ⟨hmissing, -⟩
    · have hwalk : tree.walk place (name :: names) = tree.walk (next place name) names := by
        rw [FileTree.walk, ← hsame, hdirectory, next]
        split_ifs <;> rfl
      rw [hwalk]
      exact ih hrest
    · right
      rw [FileTree.walk, hmissing]

/-- A file can only be written over by a path that did not lead to it if a directory on the path was
missing, and the path has two points in it. -/
theorem locate_of_write (h : tree.GrowsTo later) {path text : String}
    (hcontains : tree.contains path = false) (hwrite : later.write path text = .ok written)
    (hlater : later.locate (.ofText path) = .ok place) (hthere : tree.fileAt? place ≠ none) :
    tree.locate (.ofText path) = .error .notFound ∧
      (tree.Rooted → ".." ∈ (FilePath.ofText path).names) := by
  obtain ⟨entry, hfile⟩ := Option.ne_none_iff_exists'.mp hthere
  obtain ⟨hentry, hne⟩ := fileAt?_eq_some_iff.mp hfile
  have hplace : later.entryAt? place ≠ some .directory := by
    obtain ⟨hsame, -⟩ := fileAt?_eq_some_iff.mp ((h.fileAt?_eq place).trans hfile)
    simpa [hsame] using hne
  have hnot : tree.locate (.ofText path) ≠ .ok place := by
    intro hlocate
    obtain ⟨-, -, -, hdirectory, -⟩ := exists_of_write hwrite
    have hlookup : tree.lookup (.ofText path) = .ok entry := by
      cases entry <;> simp [lookup, hlocate, hentry, hdirectory]
    rw [contains, hlookup] at hcontains
    cases hcontains
  obtain ⟨hempty, hwalk⟩ := locate_eq_ok.mp hlater
  have hstart : later.start (.ofText path) = tree.start (.ofText path) := by
    rw [start, start, h.keepsDirectories.workingDirectory]
  rw [hstart] at hwalk
  constructor
  · rcases h.walk_eq_ok_or hwalk with hok | herror
    · exact absurd (locate_eq_ok.mpr ⟨hempty, hok⟩) hnot
    · rw [locate, hempty]
      exact herror
  · intro hrooted
    by_contra hdots
    have hexists := hentry.trans_ne (Option.some_ne_none entry)
    exact hnot (locate_eq_ok.mpr ⟨hempty, hrooted.walk_of_walk hdots hexists hplace hwalk⟩)

end GrowsTo

end ReceiptRules.FileTree
