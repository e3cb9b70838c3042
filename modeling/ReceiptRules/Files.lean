import ReceiptRules.Text.Pieces

/-!
# Files

The files that a command can reach, as a value: a tree of directories with a working directory. Reading
and writing give the errors of the system, with its numbers, when a path leads nowhere or somewhere
else. A program takes such a tree from the disk before a command runs, and puts the changes back. Symbolic
links, and permissions of directories, are no part of it.
-/

namespace ReceiptRules

/-- Why a path cannot be used. -/
inductive FileError where
  | notFound
  | permissionDenied
  | alreadyExists
  | notDirectory
  | isDirectory
  /-- The file is no text. -/
  | notText
  deriving Repr, DecidableEq

def FileError.message : FileError → String
  | notFound => "No such file or directory (os error 2)"
  | permissionDenied => "Permission denied (os error 13)"
  | alreadyExists => "File exists (os error 17)"
  | notDirectory => "Not a directory (os error 20)"
  | isDirectory => "Is a directory (os error 21)"
  | notText => "stream did not contain valid UTF-8"

/-! ## Paths -/

/-- A path: the names on it, without empty names and without points other than at its start. -/
structure FilePath where
  absolute : Bool
  names : List String
  /-- Whether the path ends in a way that only suits directories. -/
  directory : Bool
  deriving Repr, DecidableEq

namespace FilePath

def ofText (text : String) : FilePath :=
  let absolute := text.toList.head? == some '/'
  let parts := Text.pieces '/' text.toList
  let kept := (parts.filter fun p => p != [] && p != ['.']).map String.ofList
  let pointFirst := parts.head? == some ['.']
  { absolute
    names := if pointFirst then "." :: kept else kept
    directory := 2 ≤ parts.length && (parts.getLast? == some [] || parts.getLast? == some ['.']) }

/-- Whether the path has no names and does not start at the root. -/
def isEmpty (p : FilePath) : Bool := !p.absolute && p.names.isEmpty

/-- The path without its last name, if it has one. -/
def parent? (p : FilePath) : Option FilePath :=
  if p.names.isEmpty then none else some { p with names := p.names.dropLast, directory := false }

end FilePath

/-- Puts a name behind a path. -/
def joinPath (path name : String) : String :=
  if path = "" || path.toList.getLast? == some '/' then path ++ name else path ++ "/" ++ name

/-! ## Trees -/

/-- What is at a place. -/
inductive FileEntry where
  | file (text : String)
  | directory
  /-- A file that cannot be read. -/
  | unreadable (e : FileError)
  deriving Repr, DecidableEq

/-- A tree of files and directories, by the names on the way from the root. -/
structure FileTree where
  workingDirectory : List String := []
  entries : List (List String × FileEntry) := []
  deriving Repr, DecidableEq

namespace FileTree

/-- What is at a place, if anything is. The working directory is there, and all above it. -/
def entryAt? (tree : FileTree) (place : List String) : Option FileEntry :=
  if place.isPrefixOf tree.workingDirectory then some .directory else tree.entries.lookup place

/-- Follows names from a place. Every place on the way must be a directory; the last need not be
there. -/
def walk (tree : FileTree) (place : List String) : List String → Except FileError (List String)
  | [] => .ok place
  | name :: names =>
    match tree.entryAt? place with
    | none => .error .notFound
    | some .directory =>
      if name = "." then tree.walk place names
      else if name = ".." then tree.walk place.dropLast names
      else tree.walk (place ++ [name]) names
    | some _ => .error .notDirectory

/-- The place that a path leads to, where there may be nothing. -/
def locate (tree : FileTree) (p : FilePath) : Except FileError (List String) :=
  if p.isEmpty then .error .notFound
  else tree.walk (if p.absolute then [] else tree.workingDirectory) p.names

/-- What a path leads to. -/
def lookup (tree : FileTree) (p : FilePath) : Except FileError FileEntry := do
  match tree.entryAt? (← tree.locate p) with
  | none => .error .notFound
  | some .directory => return .directory
  | some entry => if p.directory then .error .notDirectory else return entry

/-- Whether a path leads to something. -/
def contains (tree : FileTree) (path : String) : Bool := (tree.lookup (.ofText path)).toOption.isSome

def isDirectory (tree : FileTree) (p : FilePath) : Bool :=
  match tree.lookup p with
  | .ok .directory => true
  | _ => false

/-- The text of a file. -/
def read (tree : FileTree) (path : String) : Except FileError String := do
  match ← tree.lookup (.ofText path) with
  | .file text => return text
  | .directory => .error .isDirectory
  | .unreadable e => .error e

/-- Puts an entry at a place. -/
def insert (tree : FileTree) (place : List String) (entry : FileEntry) : FileTree :=
  { tree with entries := (place, entry) :: tree.entries.filter fun e => e.1 != place }

@[simp] theorem lookup_insert_self (tree : FileTree) (place : List String) (entry : FileEntry) :
    (tree.insert place entry).entries.lookup place = some entry := by
  simp [insert]

theorem lookup_filter_ne {entries : List (List String × FileEntry)} {place other : List String}
    (h : other ≠ place) :
    (entries.filter fun e => e.1 != place).lookup other = entries.lookup other := by
  induction entries with
  | nil => rfl
  | cons e entries ih =>
    obtain ⟨key, value⟩ := e
    by_cases hk : key = place
    · subst hk
      have hne : (other == key) = false := by simpa using h
      simpa [List.lookup_cons, hne] using ih
    · simp [hk, List.lookup_cons, ih]

/-- Putting an entry at a place changes nothing elsewhere. -/
theorem lookup_insert_of_ne (tree : FileTree) {place other : List String} (entry : FileEntry)
    (h : other ≠ place) :
    (tree.insert place entry).entries.lookup other = tree.entries.lookup other := by
  simp [insert, List.lookup_cons, lookup_filter_ne h, show (other == place) = false by simpa using h]

/-- Writes a file, whose directory must be there. -/
def write (tree : FileTree) (path text : String) : Except FileError FileTree := do
  let p := FilePath.ofText path
  let place ← tree.locate p
  match tree.entryAt? place with
  | some .directory => .error .isDirectory
  | some (.unreadable .permissionDenied) => .error .permissionDenied
  | some _ => if p.directory then .error .notDirectory else return tree.insert place (.file text)
  | none => if p.directory then .error .isDirectory else return tree.insert place (.file text)

/-- Makes one directory. -/
def makeDirectory (tree : FileTree) (p : FilePath) : Except FileError FileTree := do
  let place ← tree.locate p
  match tree.entryAt? place with
  | some _ => .error .alreadyExists
  | none => return tree.insert place .directory

/-- Makes a directory unless it is there. -/
def ensureDirectory (tree : FileTree) (p : FilePath) : FileTree × Except FileError Unit :=
  match tree.makeDirectory p with
  | .ok made => (made, .ok ())
  | .error e => (tree, if tree.isDirectory p then .ok () else .error e)

/-- Makes a directory and those above it that are missing; `fuel` bounds their number. Directories that
were made before a failure stay. -/
def makeDirectories (tree : FileTree) (p : FilePath) :
    (fuel : Nat) → FileTree × Except FileError Unit
  | 0 => (tree, .error .notFound)
  | fuel + 1 =>
    if p.isEmpty then (tree, .ok ())
    else
      match tree.ensureDirectory p, p.parent? with
      | (_, .error .notFound), some parent =>
        match tree.makeDirectories parent fuel with
        | (tree, .ok ()) => tree.ensureDirectory p
        | failed => failed
      | result, _ => result

/-- Makes the directory that a file is to be in. -/
def makeParent (tree : FileTree) (path : String) : FileTree × Except FileError Unit :=
  match (FilePath.ofText path).parent? with
  | none => (tree, .ok ())
  | some parent => tree.makeDirectories parent (parent.names.length + 1)

end FileTree

end ReceiptRules
