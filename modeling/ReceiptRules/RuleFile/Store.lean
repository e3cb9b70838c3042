import ReceiptRules.Files
import ReceiptRules.RuleFile.Examples
import ReceiptRules.RuleFile.Verification

/-!
# Stored rule files

Finding the path of the rule file, and loading, saving and verifying the file there. A rule file that is
not there counts as one without rules when it is loaded, but cannot be verified.
-/

namespace ReceiptRules.RuleFile

/-- Why a rule file cannot be found, loaded, saved or verified. -/
inductive StoreError where
  /-- No path is given, and there is no home directory to look in. -/
  | noHome
  | cannotRead (path : String) (e : FileError)
  | cannotParse (path : String) (e : ReadError)
  | cannotMakeDirectory (e : FileError)
  | cannotWrite (path : String) (e : FileError)
  | nothingToVerify (path : String)
  | cannotReadToVerify (path : String) (e : FileError)
  | cannotParseToVerify (e : Json5.Error)

def StoreError.message : StoreError → String
  | noHome => "Could not find home directory"
  | cannotRead path e => "Failed to read config file: " ++ path ++ ": " ++ e.message
  | cannotParse path e => "Failed to parse config file: " ++ path ++ ": " ++ e.message
  | cannotMakeDirectory e => e.message
  | cannotWrite path e => "Failed to write config file: " ++ path ++ ": " ++ e.message
  | nothingToVerify path => "config file not found: " ++ path
  | cannotReadToVerify path e => "failed to read config file: " ++ path ++ ": " ++ e.message
  | cannotParseToVerify e => "invalid JSON: " ++ e.message

/-- The variable of the environment that can hold the path of the rule file. -/
def pathVariable : String := "RCOND_CONFIG"

/-- The path of the rule file: the one that is given, else the one in a variable of the environment, else
a fixed one in the home directory. The home directory is the one that the variable `HOME` names; the list
of users, which may have one for a user without that variable, is not looked at. -/
def path (given : Option String) (lookup : String → Option String) : Except StoreError String :=
  match given, lookup pathVariable, lookup "HOME" with
  | some path, _, _ => .ok path
  | none, some path, _ => .ok path
  | none, none, some home =>
    if home = "" then .error .noHome else .ok (joinPath (joinPath home ".rcond") "config.json")
  | none, none, none => .error .noHome

/-- Loads the rule file at a path. -/
def load (tree : FileTree) (path : String) : Except StoreError RuleSet :=
  if tree.contains path then do
    let text ← (tree.read path).mapError (.cannotRead path)
    (RuleSet.ofText text).mapError (.cannotParse path)
  else .ok {}

/-- Saves a rule file at a path, for which directories are made; these stay also when the file cannot be
written. -/
def save (tree : FileTree) (path : String) (s : RuleSet) : FileTree × Except StoreError Unit :=
  match tree.makeParent path with
  | (tree, .error e) => (tree, .error (.cannotMakeDirectory e))
  | (tree, .ok ()) =>
    match tree.write path (text s) with
    | .ok written => (written, .ok ())
    | .error e => (tree, .error (.cannotWrite path e))

/-- Verifies the rule file at a path. -/
def verifyAt (tree : FileTree) (path : String) : Except StoreError (List Complaint) :=
  if tree.contains path then do
    let text ← (tree.read path).mapError (.cannotReadToVerify path)
    (verify text).mapError .cannotParseToVerify
  else .error (.nothingToVerify path)

end ReceiptRules.RuleFile
