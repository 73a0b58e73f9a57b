import PairCache.Json.Reader

/-!
Reading JSON text into the types of a program. A `Decoder` knows how many arrays and objects may still
be opened and reads on the spot, so that of two faults the first in the text is reported. A record is
read from an object, its fields in any order and unknown ones ignored, or from an array with its fields
in their order.
-/
namespace PairCache.Json

abbrev Decoder (α : Type) := Nat → List Char → Except ReadError (α × List Char)

namespace Decoder

def mismatch {α : Type} (m : Mismatch) : Except ReadError α := .error (.mismatch m)

def run {α : Type} (d : Decoder α) (text : List Char) : Except ReadError α :=
  complete (d nesting) text

def scalarFound : Json → Found
  | .null => .null
  | .bool b => .bool b
  | .number (.whole i _) => .whole i
  | .number (.float x) => .float x
  | .string s => .text s
  | .array _ => .array
  | .object _ => .object

/-- Says what stands where `expected` should; a scalar is read first, and may turn out malformed. -/
def wrongType {α : Type} (expected : String) (cs : List Char) : Except ReadError α :=
  match skipBlanks cs with
  | [] => .error .truncated
  | c :: rest =>
    if c = '[' then mismatch (.wrongType .array expected)
    else if c = '\x7b' then mismatch (.wrongType .object expected)
    else
      match scalar (c :: rest) with
      | .ok (v, _) => mismatch (.wrongType (scalarFound v) expected)
      | .error e => .error e

def bool : Decoder Bool := fun _ cs =>
  match skipBlanks cs with
  | 't' :: rest => (word ['r', 'u', 'e'] rest).map fun cs => (true, cs)
  | 'f' :: rest => (word ['a', 'l', 's', 'e'] rest).map fun cs => (false, cs)
  | cs => wrongType "a boolean" cs

def text : Decoder String := fun _ cs =>
  match skipBlanks cs with
  | '"' :: rest => (textBody rest).map fun (s, cs) => (String.ofList s, cs)
  | cs => wrongType "a string" cs

def whole (low high : Int) (expected : String) : Decoder Int := fun _ cs =>
  match skipBlanks cs with
  | [] => .error .truncated
  | c :: rest =>
    if startsNumber c then
      match signed c rest with
      | .ok (.whole i _, cs) =>
        if low ≤ i ∧ i ≤ high then .ok (i, cs) else mismatch (.outOfRange i expected)
      | .ok (.float x, _) => mismatch (.wrongType (.float x) expected)
      | .error e => .error e
    else wrongType expected (c :: rest)

def int64 : Decoder Int64 := fun depth cs =>
  (whole (-9223372036854775808) 9223372036854775807 "i64" depth cs).map fun (i, cs) => (Int64.ofInt i, cs)

def uint64 (expected : String) : Decoder UInt64 := fun depth cs =>
  (whole 0 18446744073709551615 expected depth cs).map fun (i, cs) => (UInt64.ofNat i.toNat, cs)

def option {α : Type} (d : Decoder α) : Decoder (Option α) := fun depth cs =>
  match skipBlanks cs with
  | 'n' :: rest => (word ['u', 'l', 'l'] rest).map fun cs => (none, cs)
  | cs => (d depth cs).map fun (a, cs) => (some a, cs)

def parsed {α : Type} (expected : String) (parse : List Char → Option α) : Decoder α := fun _ cs =>
  match skipBlanks cs with
  | '"' :: rest =>
    match textBody rest with
    | .ok (s, cs) =>
      match parse s with
      | some a => .ok (a, cs)
      | none => mismatch (.unreadable expected)
    | .error e => .error e
  | cs => wrongType expected cs

def nested {α : Type} (body : Nat → List Char → Except ReadError (α × List Char)) : Decoder α
  | 0, _ => .error .malformed
  | depth + 1, cs => body depth cs

def list {α : Type} (d : Decoder α) : Decoder (List α) := fun depth cs =>
  match skipBlanks cs with
  | '[' :: rest =>
    nested (fun depth cs => do
      let (xs, cs) ← items (fun acc cs => (d depth cs).map fun (x, cs) => (x :: acc, cs))
        (cs.length + 1) true [] cs
      return (xs.reverse, cs)) depth rest
  | cs => wrongType "a sequence" cs

def itemAt {α : Type} (d : Decoder α) (index : Nat) (expected : String) : Decoder α :=
  fun depth cs => do
    match ← item? (index == 0) cs with
    | none => mismatch (.tooShort index expected)
    | some cs => d depth cs

def pair {α β : Type} (a : Decoder α) (b : Decoder β) : Decoder (α × β) := fun depth cs =>
  match skipBlanks cs with
  | '[' :: rest =>
    nested (fun depth cs => do
      let (x, cs) ← itemAt a 0 "a tuple of size 2" depth cs
      let (y, cs) ← itemAt b 1 "a tuple of size 2" depth cs
      return ((x, y), ← expect ']' cs)) depth rest
  | cs => wrongType "a tuple of size 2" cs

def members {σ α : Type} (insert : String → α → σ → σ) (start : σ) (d : Decoder α) : Decoder σ :=
  fun depth cs =>
    match skipBlanks cs with
    | '\x7b' :: rest =>
      nested (fun depth cs => Json.members (fun acc key cs =>
        ((expect ':' cs).bind (d depth)).map fun (x, cs) => (insert (String.ofList key) x acc, cs))
        (cs.length + 1) true start cs) depth rest
    | cs => wrongType "a map" cs

def any : Decoder Json := value

/-- One of some names, as a text or as the only key of an object that maps it to null. -/
def variant {α : Type} (names : List (String × α)) : Decoder α := fun depth cs =>
  let find (name : List Char) : Except ReadError α :=
    match names.find? fun n => n.1.toList == name with
    | some n => .ok n.2
    | none => mismatch (.unknownVariant (String.ofList name) (names.map (·.1)))
  match skipBlanks cs with
  | [] => .error .truncated
  | '"' :: rest => do
    let (name, cs) ← textBody rest
    return (← find name, cs)
  | '\x7b' :: rest =>
    nested (fun _ cs => do
      let (name, cs) ← textBody (← expect '"' cs)
      let a ← find name
      let cs ← expect ':' cs
      let cs ←
        match skipBlanks cs with
        | 'n' :: rest => word ['u', 'l', 'l'] rest
        | cs => wrongType "unit" cs
      return (a, ← expect '\x7d' cs)) depth rest
  | _ => .error .malformed

/-- One field of a record that is put together in a `σ`. A field that is `defaulted` may be missing
at the end of an array. -/
structure Field (σ : Type) where
  name : String
  isSet : σ → Bool
  read : σ → Decoder σ
  defaulted : Bool

def field {σ α : Type} (name : String) (get : σ → Option α) (set : σ → α → σ) (d : Decoder α)
    (defaulted : Bool) : Field σ where
  name
  isSet s := (get s).isSome
  read s depth cs := (d depth cs).map fun (a, cs) => (set s a, cs)
  defaulted

def fieldsByPosition {σ : Type} (expected : String) :
    List (Field σ) → Nat → σ → Nat → List Char → Except ReadError (σ × List Char)
  | [], _, s, _, cs => do return (s, ← expect ']' cs)
  | f :: fs, index, s, depth, cs => do
    match ← item? (index == 0) cs with
    | none =>
      if f.defaulted then fieldsByPosition expected fs (index + 1) s depth cs
      else mismatch (.tooShort index expected)
    | some cs =>
      let (s, cs) ← f.read s depth cs
      fieldsByPosition expected fs (index + 1) s depth cs

def fieldByName {σ : Type} (fields : List (Field σ)) (depth : Nat) (s : σ) (key : List Char)
    (cs : List Char) : Except ReadError (σ × List Char) := do
  match fields.find? fun f => f.name.toList == key with
  | none => return (s, ← ignore (← expect ':' cs))
  | some f =>
    if f.isSet s then mismatch (.duplicateField f.name)
    else f.read s depth (← expect ':' cs)

def required {α : Type} (name : String) : Option α → Except ReadError α
  | some a => .ok a
  | none => mismatch (.missingField name)

def record {σ α : Type} (name : String) (fields : List (Field σ)) (start : σ)
    (finish : σ → Except ReadError α) : Decoder α := fun depth cs =>
  let title := "struct " ++ name
  let ended (r : Except ReadError (σ × List Char)) : Except ReadError (α × List Char) := do
    let (s, cs) ← r
    return (← finish s, cs)
  match skipBlanks cs with
  | '[' :: rest =>
    nested (fun depth cs => ended (fieldsByPosition
      (title ++ " with " ++ Decimal.text fields.length ++ " elements")
      fields 0 start depth cs)) depth rest
  | '\x7b' :: rest =>
    nested (fun depth cs => ended (Json.members (fieldByName fields depth) (cs.length + 1) true start cs))
      depth rest
  | cs => wrongType title cs

end Decoder

end PairCache.Json
