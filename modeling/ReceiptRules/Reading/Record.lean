import ReceiptRules.Reading.Document

/-!
# Reading records

A record is given as an object, whose entries may be in any order, or as a list of the values of its
fields. Fields are read in the order of the document, so that of several faults the first one is
reported. Entries under unknown keys are left out, but must have a value.
-/

namespace ReceiptRules

/-- A field of a record that is read from documents of type `ν`; `σ` holds the fields read up to now. -/
structure Field (ν σ : Type) where
  name : String
  required : Bool
  read : ν → σ → Except ReadError σ

/-- A type of records: its name in errors and its fields. -/
structure Record (ν σ : Type) where
  name : String
  fields : List (Field ν σ)

namespace Record
variable {ν σ : Type} [Document ν]

def field? (r : Record ν σ) (key : String) : Option (Field ν σ) := r.fields.find? (·.name == key)

/-- Reads entries after the fields `seen`; gives back all fields seen. -/
def readEntries (r : Record ν σ) (seen : List String) (s : σ) :
    List (Except Json5.Error String × ν) → Except ReadError (List String × σ)
  | [] => .ok (seen, s)
  | (key, v) :: rest => do
    let key ← key.mapError ReadError.unreadable
    match r.field? key with
    | some f =>
      if seen.contains key then .error (.duplicateField key)
      else
        let s ← f.read v s
        readEntries r (key :: seen) s rest
    | none =>
      let _ ← Document.readJson v
      readEntries r seen s rest

/-- Reads the values of fields in their order, of which the first has the given index. -/
def readItems (r : Record ν σ) (index : Nat) (s : σ) :
    List (Field ν σ) → List ν → Except ReadError (List ν × σ)
  | f :: fields, v :: rest => do
    let s ← f.read v s
    readItems r (index + 1) s fields rest
  | f :: fields, [] =>
    if f.required then .error (.tooFewElements index r.name r.fields.length)
    else readItems r (index + 1) s fields []
  | [], rest => .ok (rest, s)

/-- Reads a record, starting from fields that all have their default. -/
def read (r : Record ν σ) (initial : σ) (v : ν) : Except ReadError σ := do
  match ← Document.look v with
  | .object entries =>
    let (seen, s) ← r.readEntries [] initial entries
    match r.fields.find? fun f => f.required && !seen.contains f.name with
    | some f => .error (.missingField f.name)
    | none => return s
  | .array items =>
    let (surplus, s) ← r.readItems 0 initial r.fields items
    if surplus.isEmpty || Document.surplusAllowed ν then return s
    else .error (.tooManyElements items.length)
  | w => Document.mismatch r.name w

/-- The value of a field that is come to when a record is read: all that stands before it in the document
can be read. -/
def reached? (r : Record ν σ) (initial : σ) (key : String) (v : ν) : Option ν :=
  match Document.view v with
  | .ok (.object entries) =>
    let before := entries.takeWhile fun (k, _) => !k.toOption.any (· == key)
    match r.readEntries [] initial before with
    | .ok _ => (entries.drop before.length).head?.map Prod.snd
    | .error _ => none
  | .ok (.array items) =>
    let before := r.fields.takeWhile fun f => f.name != key
    match r.readItems 0 initial before (items.take before.length) with
    | .ok _ => (items.drop before.length).head?
    | .error _ => none
  | _ => none

end Record

end ReceiptRules
