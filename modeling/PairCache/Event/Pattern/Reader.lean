import PairCache.Event.Pattern.Expression
import PairCache.Json.Reader
import PairCache.Text.Alphanumeric
import PairCache.Text.Blank

/-!
Reading regular expressions (`Expression.read?`). A text has no closing brace here, so that neither a
count of repetitions nor a name in braces is ever complete. In a verbose part, blanks and comments from
a number sign to the end of the line are skipped between the signs, in sets too.
-/
namespace PairCache.Event.Pattern

def dropSpace : Bool → List Char → List Char
  | _, [] => []
  | true, c :: cs => dropSpace (c ≠ '\n') cs
  | false, c :: cs =>
    if Blank.isBlank c then dropSpace false cs
    else if c = '#' then dropSpace true cs
    else c :: cs

def space (verbose : Bool) (cs : List Char) : List Char :=
  if verbose then dropSpace false cs else cs

/-- The next sign for a look ahead, which goes past blanks and past one number sign. -/
def ahead? (verbose : Bool) (cs : List Char) : Option Char :=
  if verbose then
    match cs.dropWhile Blank.isBlank with
    | '#' :: rest => (rest.dropWhile Blank.isBlank).head?
    | rest => rest.head?
  else cs.head?

def hexDigits? (verbose : Bool) : Nat → List Char → Option (List Char × List Char)
  | 0, cs => some ([], cs)
  | count + 1, cs =>
    match space verbose cs with
    | c :: rest =>
      if (Json.hexValue? c).isSome then
        (hexDigits? verbose count rest).map fun (digits, rest) => (c :: digits, rest)
      else none
    | [] => none

def coded? (verbose : Bool) (count : Nat) (cs : List Char) : Option (Char × List Char) := do
  let (digits, rest) ← hexDigits? verbose count cs
  let n ← Json.hexNumber? digits
  if n.isValidChar then return (Char.ofNat n, rest) else none

def meaning? (c : Char) : Option Expression :=
  match c with
  | 'd' | 's' | 'w' => some (.shorthand false)
  | 'D' | 'S' | 'W' => some (.shorthand true)
  | 'A' | 'z' => some .anchor
  | 'b' | 'B' | '<' | '>' => some .boundary
  | 'a' => some (.literal ⟨'\x07', false⟩)
  | 'f' => some (.literal ⟨'\x0c', false⟩)
  | 't' => some (.literal ⟨'\t', false⟩)
  | 'n' => some (.literal ⟨'\n', false⟩)
  | 'r' => some (.literal ⟨'\r', false⟩)
  | 'v' => some (.literal ⟨'\x0b', false⟩)
  | c => if c.toNat < 128 ∧ !c.isAlphanum then some (.literal ⟨c, false⟩) else none

def escaped? (verbose : Bool) : List Char → Option (Expression × List Char)
  | [] => none
  | c :: cs =>
    let numbered (count : Nat) (byte : Bool) :=
      (coded? verbose count cs).map fun (c, rest) => (Expression.literal ⟨c, byte⟩, rest)
    if c = 'x' then numbered 2 true
    else if c = 'u' then numbered 4 false
    else if c = 'U' then numbered 8 false
    else (meaning? c).map (·, cs)

def setNames : List String :=
  ["alnum", "alpha", "ascii", "blank", "cntrl", "digit", "graph", "lower", "print", "punct", "space",
    "upper", "word", "xdigit"]

def named? (cs : List Char) : Option (CharSet × List Char) := do
  let ':' :: cs := cs | none
  let (negated, cs) := match cs with
    | '^' :: cs => (true, cs)
    | cs => (false, cs)
  let name := cs.takeWhile (· ≠ ':')
  match cs.drop name.length with
  | ':' :: ']' :: rest =>
    if setNames.contains (String.ofList name) then some (.named negated, rest) else none
  | _ => none

def member? (verbose : Bool) : List Char → Option (Expression × List Char)
  | [] => none
  | '\\' :: cs => escaped? verbose cs
  | c :: cs => some (.literal ⟨c, false⟩, cs)

def CharSet.ofMember? : Expression → Option CharSet
  | .literal l => some (.literal l)
  | .shorthand negated => some (.shorthand negated)
  | _ => none

def CharSet.ofRange? : Expression → Expression → Option CharSet
  | .literal low, .literal high => if low.char ≤ high.char then some (.range low high) else none
  | _, _ => none

def range? (verbose : Bool) (cs : List Char) : Option (CharSet × List Char) := do
  let (low, cs) ← member? verbose cs
  let alone := (CharSet.ofMember? low).map (·, space verbose cs)
  match space verbose cs with
  | '-' :: rest =>
    if ahead? verbose rest = some ']' ∨ ahead? verbose rest = some '-' then alone
    else
      let (high, rest) ← member? verbose (space verbose rest)
      return (← CharSet.ofRange? low high, rest)
  | _ => alone

/-- The set of what has been read: `items` in reverse, and what stands before an operator. -/
def CharSet.close (left : Option CharSet) (items : List CharSet) : CharSet :=
  match left with
  | none => .ofItems items.reverse
  | some left => .operation left (.ofItems items.reverse)

/-- The inside of a set up to its closing bracket. At its `start`, hyphens stand for themselves, and so
does a closing bracket that comes first. -/
def inside? (verbose : Bool) :
    Nat → Bool → Option CharSet → List CharSet → List Char → Option (CharSet × List Char)
  | 0, _, _, _, _ => none
  | fuel + 1, start, left, items, cs =>
    match space verbose cs with
    | [] => none
    | c :: rest =>
      if start ∧ c = '-' then
        inside? verbose fuel true left (.literal ⟨c, false⟩ :: items) rest
      else if start ∧ c = ']' ∧ items.isEmpty then
        inside? verbose fuel false left [.literal ⟨c, false⟩] rest
      else
        match c, rest with
        | ']', rest => some (.close left items, rest)
        | '[', rest =>
          match named? rest with
          | some (s, rest) => inside? verbose fuel false left (s :: items) rest
          | none => do
            let rest := space verbose rest
            let (negated, rest) := match rest with
              | '^' :: rest => (true, rest)
              | rest => (false, rest)
            let (s, rest) ← inside? verbose fuel true none [] rest
            inside? verbose fuel false left (.bracketed negated s :: items) rest
        | '&', '&' :: rest | '-', '-' :: rest | '~', '~' :: rest =>
          inside? verbose fuel false (some (.close left items)) [] rest
        | c, rest => do
          let (s, rest) ← range? verbose (c :: rest)
          inside? verbose fuel false left (s :: items) rest

def set? (verbose : Bool) (cs : List Char) : Option (CharSet × List Char) :=
  let cs := space verbose cs
  let (negated, cs) := match cs with
    | '^' :: cs => (true, cs)
    | cs => (false, cs)
  (inside? verbose (cs.length + 1) true none [] cs).map fun (s, rest) => (.bracketed negated s, rest)

structure Reading where
  rest : List Char
  verbose : Bool := false
  names : List (List Char) := []

inductive Opening where
  | group (changes : Changes)
  | flags (changes : Changes)

def groupName? (r : Reading) : Option Reading :=
  let name := r.rest.takeWhile (· ≠ '>')
  let starts := name.head?.any fun c => c == '_' || Alphanumeric.isAlphabetic c
  let goes := name.all fun c =>
    c == '_' || c == '.' || c == '[' || c == ']' || Alphanumeric.isAlphanumeric c
  match r.rest.drop name.length with
  | _ :: rest =>
    if starts ∧ goes ∧ !r.names.contains name then some { r with rest, names := name :: r.names }
    else none
  | [] => none

/-- Flags up to a colon or closing bracket, none of them twice; those behind a hyphen are put out. -/
def changes? (flags : List Char) : Option Changes :=
  let on := flags.takeWhile (· ≠ '-')
  let off := flags.drop (on.length + 1)
  let state (flag : Char) : Option Bool :=
    if on.contains flag then some true else if off.contains flag then some false else none
  if (on ++ off).all ("imsUuRx".toList.contains ·) ∧ (on ++ off).Nodup ∧
      (on.length = flags.length ∨ !off.isEmpty) then
    some ⟨state 'u', state 'i', state 'x'⟩
  else none

def opening? (r : Reading) : Option (Opening × Reading) :=
  match space r.verbose r.rest with
  | '?' :: 'P' :: '<' :: rest | '?' :: '<' :: rest =>
    (groupName? { r with rest }).map (.group {}, ·)
  | '?' :: cs =>
    let flags := cs.takeWhile fun c => c ≠ ':' ∧ c ≠ ')'
    match cs.drop flags.length with
    | ':' :: rest =>
      (changes? flags).map fun c =>
        (.group c, { r with rest, verbose := c.verbose.getD r.verbose })
    | _ :: rest =>
      if flags.isEmpty then none
      else
        (changes? flags).map fun c =>
          (.flags c, { r with rest, verbose := c.verbose.getD r.verbose })
    | [] => none
  | rest => some (.group {}, { r with rest })

def primitive? (verbose : Bool) (c : Char) (rest : List Char) : Option (Expression × List Char) :=
  match c with
  | '\\' => escaped? verbose rest
  | '.' => some (.dot, rest)
  | '^' | '$' => some (.anchor, rest)
  | c => some (.literal ⟨c, false⟩, rest)

def Expression.close (branches items : List Expression) : Expression :=
  .ofBranches (Expression.ofItems items.reverse :: branches).reverse

/-- Up to the end of the group or text: `branches` have been read, and of the last one `items`, both in
reverse. -/
def body? : Nat → List Expression → List Expression → Reading → Option (Expression × Reading)
  | 0, _, _, _ => none
  | fuel + 1, branches, items, r =>
    match space r.verbose r.rest with
    | [] => some (.close branches items, { r with rest := [] })
    | c :: rest =>
      match c with
      | ')' => some (.close branches items, { r with rest := c :: rest })
      | '|' => body? fuel (Expression.ofItems items.reverse :: branches) [] { r with rest }
      | '(' => do
        match ← opening? { r with rest } with
        | (.flags c, inner) => body? fuel branches (.flags c :: items) inner
        | (.group c, inner) =>
          let (e, behind) ← body? fuel [] [] inner
          match behind.rest with
          | ')' :: rest =>
            body? fuel branches (.group c e :: items) { behind with rest, verbose := r.verbose }
          | _ => none
      | '[' => do
        let (s, rest) ← set? r.verbose rest
        body? fuel branches (.set s :: items) { r with rest }
      | '*' | '+' | '?' =>
        match items with
        | e :: es =>
          if e.isRepeatable then
            body? fuel branches (.repetition e :: es)
              { r with rest := if rest.head? = some '?' then rest.drop 1 else rest }
          else none
        | [] => none
      | '\x7b' => none
      | c => do
        let (e, rest) ← primitive? r.verbose c rest
        body? fuel branches (e :: items) { r with rest }

def Expression.read? (cs : List Char) : Option Expression := do
  let (e, behind) ← body? (cs.length + 1) [] [] { rest := cs }
  if behind.rest.isEmpty then return e else none

end PairCache.Event.Pattern
