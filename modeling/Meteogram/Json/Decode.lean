import Meteogram.Json.Tree
import Meteogram.Json.Error

/-!
# Reading typed data from a tree

A decoder turns a tree into data of the domain or says what is wrong first, in the order of the
text. Values that are used may nest to a limited depth; what is skipped may hold anything that is
JSON.
-/

namespace Meteogram.Json

abbrev Result (α : Type) := Except Error α

/-- A decoder gets the number of levels that may still be opened. -/
abbrev Decoder (α : Type) := Nat → Tree → Result α

/-- Used arrays and objects nest one level less deep than this. -/
def depthLimit : Nat := 128

namespace Error

def malformed : Error := .fault .malformed

def invalidType (found : Found) (expected : String) : Error := .data (.invalidType found expected)

def refused (reason : String) : Error := .data (.refused reason)

end Error

/-- How an error names a number. -/
def Number.found : Number → Found
  | .natural n => .integer n
  | .negative n => .integer n
  | .float x => .float x

namespace Tree

mutual

/-- The fault of the text that a reader which skips the value meets. -/
def skippedFault? : Tree → Option Fault
  | .broken b => some b.skipped
  | .array items ending => (skippedFaultIn? items).or (ending.map (·.skipped))
  | .object members ending => (skippedFaultAmong? members).or (ending.map (·.skipped))
  | _ => none

def skippedFaultIn? : List Tree → Option Fault
  | [] => none
  | v :: vs => v.skippedFault?.or (skippedFaultIn? vs)

def skippedFaultAmong? : List (Quoted × Tree) → Option Fault
  | [] => none
  | (_, v) :: ms => v.skippedFault?.or (skippedFaultAmong? ms)

end

/-- Passes over a value that nobody asks for. -/
def skip (v : Tree) : Result Unit :=
  match v.skippedFault? with
  | some f => .error (.fault f)
  | none => .ok ()

/-- The number that a literal denotes; one too large for a double is malformed. -/
def numberOf (l : Literal) : Result Number :=
  match l.number? with
  | some n => .ok n
  | none => .error .malformed

/-- A string with an unpaired surrogate is malformed. -/
def textOf (s : Quoted) : Result String :=
  match s with
  | some s => .ok s
  | none => .error .malformed

/-- How an error names a value. A number or string is read for that, an array or object is not. -/
def found : Tree → Result Found
  | .null => .ok .null
  | .bool b => .ok (.bool b)
  | .number l => (numberOf l).map (·.found)
  | .text s => (textOf s).map .text
  | .array .. => .ok .sequence
  | .object .. => .ok .map
  | .broken b => .error (.fault b.used)

/-- Refuses a value of the wrong type. -/
def mismatch {α : Type} (expected : String) (v : Tree) : Result α := do
  .error (.invalidType (← v.found) expected)

/-- Goes on inside an array or object, if it is not too deep. -/
def enter (depth : Nat) : Result Nat :=
  if depth ≤ 1 then .error .malformed else .ok (depth - 1)

/-- The end of an array or object of which nothing more is wanted. -/
def finish (ending : Option Break) : Result Unit :=
  match ending with
  | some b => .error (.fault b.used)
  | none => .ok ()

mutual

/-- Reads a value of any type and keeps it: all of it is used. -/
def keep (depth : Nat) : Tree → Result Unit
  | .null => .ok ()
  | .bool _ => .ok ()
  | .number l => do let _ ← numberOf l
  | .text s => do let _ ← textOf s
  | .array items ending => do
    keepItems (← enter depth) items
    finish ending
  | .object members ending => do
    keepMembers (← enter depth) members
    finish ending
  | .broken b => .error (.fault b.used)

def keepItems (depth : Nat) : List Tree → Result Unit
  | [] => .ok ()
  | v :: vs => do
    keep depth v
    keepItems depth vs

def keepMembers (depth : Nat) : List (Quoted × Tree) → Result Unit
  | [] => .ok ()
  | (k, v) :: ms => do
    let _ ← textOf k
    keep depth v
    keepMembers depth ms

end

end Tree

namespace Decoder

def string : Decoder String
  | _, .text s => Tree.textOf s
  | _, v => v.mismatch "a string"

def bool : Decoder Bool
  | _, .bool b => .ok b
  | _, v => v.mismatch "a boolean"

/-- An integer from `low` to `high`; the expected type is named in errors. -/
def integer (low high : Int) (expected : String) : Decoder Int
  | _, .number l => do
    match ← Tree.numberOf l with
    | .natural n =>
      if (n : Int) ≤ high then .ok n
      else .error (.data (.invalidValue (.integer n) expected))
    | .negative n =>
      if low ≤ n then .ok n else .error (.data (.invalidValue (.integer n) expected))
    | .float x => .error (.invalidType (.float x) expected)
  | _, v => v.mismatch expected

/-- Nothing, or a value. -/
def optional {α : Type} (decode : Decoder α) : Decoder (Option α)
  | _, .null => .ok none
  | depth, v => (decode depth v).map some

/-- Decodes every item of an array. -/
def list {α : Type} (decode : Decoder α) : Decoder (List α)
  | depth, .array items ending => do
    let depth ← Tree.enter depth
    let decoded ← items.mapM (decode depth)
    Tree.finish ending
    return decoded
  | _, v => v.mismatch "a sequence"

/-- The variant with this name. -/
def variant {α : Type} (variants : List (String × α)) (name : String) : Result α :=
  match variants.find? (·.1 == name) with
  | some (_, a) => .ok a
  | none => .error (.data (.unknownVariant name (variants.map (·.1))))

/-- One of several names, as a string, or as an object with that key and no content. -/
def enumeration {α : Type} (variants : List (String × α)) : Decoder α
  | _, .text s => do variant variants (← Tree.textOf s)
  | depth, .object members ending => do
    let _ ← Tree.enter depth
    match members with
    | [] =>
      Tree.finish ending
      .error .malformed
    | (key, content) :: more =>
      let chosen ← variant variants (← Tree.textOf key)
      match content with
      | .null => .ok ()
      | v => v.mismatch "unit"
      if more.isEmpty then Tree.finish ending else .error .malformed
      return chosen
  | _, .broken b => .error (.fault b.used)
  | _, _ => .error .malformed

/-- A decoder of the fields of an object. `σ` holds what has been read so far; `member` reads one
member into it, or answers `none` for a key it does not know. -/
structure Fields (σ : Type) where
  member : σ → String → Nat → Tree → Result (Option σ)

/-- Reads the members of an object in order; unknown ones are skipped. -/
def members {σ : Type} (fields : Fields σ) (depth : Nat) :
    σ → List (Quoted × Tree) → Result σ
  | s, [] => .ok s
  | s, (key, v) :: rest => do
    match ← fields.member s (← Tree.textOf key) depth v with
    | some s => members fields depth s rest
    | none =>
      v.skip
      members fields depth s rest

/-- The content of a field that must not have been given before. -/
def once {α : Type} (name : String) (before : Option α) (decode : Decoder α) (depth : Nat)
    (v : Tree) : Result (Option α) :=
  match before with
  | some _ => .error (.data (.duplicateField name))
  | none => (decode depth v).map some

/-- The content of a field that has to be there. -/
def required {α : Type} (name : String) (given : Option α) : Result α :=
  match given with
  | some a => .ok a
  | none => .error (.data (.missingField name))

/-- The items of a record that is written as an array, taken one by one. -/
structure Items where
  depth : Nat
  /-- The fields that have had their turn, with an item or without one. -/
  passed : Nat
  rest : List Tree
  ending : Option Break

/-- The next item, if there is one. -/
def Items.next? {α : Type} (items : Items) (decode : Decoder α) : Result (Option α × Items) :=
  match items.rest with
  | [] => do
    Tree.finish items.ending
    return (none, { items with passed := items.passed + 1 })
  | v :: rest => do
    let a ← decode items.depth v
    return (some a, { items with passed := items.passed + 1, rest := rest })

/-- The next item, which has to be there. One that is not is named by its position. -/
def Items.next {α : Type} (items : Items) (expected : String) (decode : Decoder α) :
    Result (α × Items) := do
  match ← items.next? decode with
  | (some a, items) => return (a, items)
  | (none, _) => .error (.data (.invalidLength items.passed expected))

/-- The end of a record that is written as an array. -/
def Items.finish (items : Items) : Result Unit :=
  if items.rest.isEmpty then Tree.finish items.ending else .error .malformed

/-- A record, written as an object or as the array of its fields. -/
def struct {σ α : Type} (expected : String) (fields : Fields σ) (empty : σ) (done : σ → Result α)
    (ofItems : Items → Result (α × Items)) : Decoder α
  | depth, .object ms ending => do
    let depth ← Tree.enter depth
    let s ← members fields depth empty ms
    Tree.finish ending
    done s
  | depth, .array items ending => do
    let depth ← Tree.enter depth
    let (a, items) ← ofItems ⟨depth, 0, items, ending⟩
    items.finish
    return a
  | _, v => v.mismatch expected

/-- Reads a whole text. -/
def run {α : Type} (decode : Decoder α) (s : String) : Result α := do
  let d := Document.ofString s
  let a ← decode depthLimit d.root
  if d.trailing then .error .malformed
  return a

end Decoder

end Meteogram.Json
