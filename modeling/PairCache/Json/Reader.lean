import PairCache.Json.Printer
import PairCache.Sorted
import PairCache.Text.Quoted

/-!
Reading JSON text. Every reader takes what is left of the text and gives back a value and what is left
after it. A reader of values is told how many arrays and objects may still be opened; `Json.read`
allows `nesting` of them. Ignored values are only checked for their form: their texts and numbers
need not stand for anything, and they may nest to any depth.
-/
namespace PairCache.Json

inductive Found where
  | null
  | bool (b : Bool)
  | whole (i : Int)
  | float (x : Double)
  | text (s : String)
  | array
  | object
deriving Repr

inductive Mismatch where
  | missingField (name : String)
  | duplicateField (name : String)
  | wrongType (found : Found) (expected : String)
  | outOfRange (i : Int) (expected : String)
  | tooShort (length : Nat) (expected : String)
  | unknownVariant (name : String) (variants : List String)
  | unreadable (what : String)
deriving Repr

inductive ReadError where
  | malformed
  | truncated
  | mismatch (m : Mismatch)
deriving Repr

def Found.message : Found → List Char
  | .null => "null".toList
  | .bool b => "boolean `".toList ++ (if b then "true".toList else "false".toList) ++ "`".toList
  | .whole i => "integer `".toList ++ Decimal.ofInt i ++ "`".toList
  | .float x => "floating point `".toList ++ writeDouble x ++ "`".toList
  | .text s => "string ".toList ++ Quoted.encode s.toList
  | .array => "sequence".toList
  | .object => "map".toList

def oneOf : List String → String
  | [a, b] => "`" ++ a ++ "` or `" ++ b ++ "`"
  | names => "one of " ++ String.intercalate ", " (names.map fun n => "`" ++ n ++ "`")

def Mismatch.message? : Mismatch → Option String
  | .missingField name => some ("missing field `" ++ name ++ "`")
  | .duplicateField name => some ("duplicate field `" ++ name ++ "`")
  | .wrongType found expected =>
    some ("invalid type: " ++ String.ofList found.message ++ ", expected " ++ expected)
  | .outOfRange i expected =>
    some ("invalid value: integer `" ++ Decimal.intText i ++ "`, expected " ++ expected)
  | .tooShort length expected =>
    some ("invalid length " ++ Decimal.text length ++ ", expected " ++ expected)
  | .unknownVariant name variants =>
    some ("unknown variant `" ++ name ++ "`, expected " ++ oneOf variants)
  | .unreadable _ => none

def ReadError.message? : ReadError → Option String
  | .mismatch m => m.message?
  | _ => none

abbrev Result (α : Type) := Except ReadError (α × List Char)

abbrev Reader (α : Type) := List Char → Result α

def isBlank (c : Char) : Bool := c == ' ' || c == '\n' || c == '\t' || c == '\r'

def skipBlanks (cs : List Char) : List Char := cs.dropWhile isBlank

def word : List Char → List Char → Except ReadError (List Char)
  | [], cs => .ok cs
  | _ :: _, [] => .error .truncated
  | e :: es, c :: cs => if e = c then word es cs else .error .malformed

def hexValue? (c : Char) : Option Nat :=
  if c.isDigit then some (c.toNat - '0'.toNat)
  else if 'a' ≤ c ∧ c ≤ 'f' then some (c.toNat - 'a'.toNat + 10)
  else if 'A' ≤ c ∧ c ≤ 'F' then some (c.toNat - 'A'.toNat + 10)
  else none

def hexNumber? (cs : List Char) : Option Nat :=
  cs.foldl (fun acc c => acc.bind fun n => (hexValue? c).map (16 * n + ·)) (some 0)

def byteLength (cs : List Char) : Nat := cs.foldl (fun n c => n + c.utf8Size) 0

/-- Four hexadecimal digits. The text has ended when fewer than four bytes are left. -/
def fourHex : Reader Nat
  | a :: b :: c :: d :: rest =>
    match hexNumber? [a, b, c, d] with
    | some n => .ok (n, rest)
    | none => .error .malformed
  | short => if byteLength short < 4 then .error .truncated else .error .malformed

theorem length_fourHex {cs rest : List Char} {n : Nat} (h : fourHex cs = .ok (n, rest)) :
    rest.length < cs.length := by
  unfold fourHex at h
  split at h
  · split at h
    · cases h; simp; omega
    · cases h
  · split at h <;> cases h

def isHighSurrogate (n : Nat) : Bool := 0xd800 ≤ n && n ≤ 0xdbff

def isLowSurrogate (n : Nat) : Bool := 0xdc00 ≤ n && n ≤ 0xdfff

def joinSurrogates (high low : Nat) : Char :=
  Char.ofNat ((high - 0xd800) * 1024 + (low - 0xdc00) + 0x10000)

def surrogates (high : Nat) (cs : List Char) : Result Char :=
  match fourHex cs with
  | .ok (low, rest) =>
    if isLowSurrogate low then .ok (joinSurrogates high low, rest) else .error .malformed
  | .error e => .error e

theorem length_surrogates {high : Nat} {cs rest : List Char} {c : Char}
    (h : surrogates high cs = .ok (c, rest)) : rest.length < cs.length := by
  unfold surrogates at h
  split at h
  · rename_i hf
    split at h
    · simp only [Except.ok.injEq, Prod.mk.injEq] at h
      exact h.2 ▸ length_fourHex hf
    · cases h
  · cases h

def lowSurrogate (high : Nat) : Reader Char
  | [] => .error .truncated
  | [c] => if c = '\\' then .error .truncated else .error .malformed
  | c :: d :: rest => if c = '\\' ∧ d = 'u' then surrogates high rest else .error .malformed

theorem length_lowSurrogate {high : Nat} {cs rest : List Char} {c : Char}
    (h : lowSurrogate high cs = .ok (c, rest)) : rest.length < cs.length := by
  unfold lowSurrogate at h
  split at h
  · cases h
  · split at h <;> cases h
  · split at h
    · have := length_surrogates h
      simp
      omega
    · cases h

def shortEscape? (c : Char) : Option Char :=
  if c = '"' then some '"'
  else if c = '\\' then some '\\'
  else if c = '/' then some '/'
  else if c = 'b' then some (Char.ofNat 8)
  else if c = 'f' then some (Char.ofNat 12)
  else if c = 'n' then some '\n'
  else if c = 'r' then some '\r'
  else if c = 't' then some '\t'
  else none

def numberEscape (cs : List Char) : Result Char :=
  match fourHex cs with
  | .ok (n, rest) =>
    if isLowSurrogate n then .error .malformed
    else if isHighSurrogate n then lowSurrogate n rest
    else .ok (Char.ofNat n, rest)
  | .error e => .error e

theorem length_numberEscape {cs rest : List Char} {c : Char}
    (h : numberEscape cs = .ok (c, rest)) : rest.length < cs.length := by
  unfold numberEscape at h
  split at h
  · rename_i hf
    have := length_fourHex hf
    split at h
    · cases h
    · split at h
      · have := length_lowSurrogate h
        omega
      · simp only [Except.ok.injEq, Prod.mk.injEq] at h
        exact h.2 ▸ this
  · cases h

def unescape : Reader Char
  | [] => .error .truncated
  | c :: rest =>
    match shortEscape? c with
    | some d => .ok (d, rest)
    | none => if c = 'u' then numberEscape rest else .error .malformed

theorem length_unescape {cs rest : List Char} {c : Char} (h : unescape cs = .ok (c, rest)) :
    rest.length < cs.length := by
  unfold unescape at h
  split at h
  · cases h
  · split at h
    · cases h
      simp
    · split at h
      · have := length_numberEscape h
        simp
        omega
      · cases h

/-- A text up to its closing quote; the opening quote is read. -/
def textBody (cs : List Char) : Result (List Char) :=
  match cs with
  | [] => .error .truncated
  | c :: rest =>
    if c = '"' then .ok ([], rest)
    else if c = '\\' then
      match _h : unescape rest with
      | .ok (d, rest) =>
        match textBody rest with
        | .ok (ds, rest) => .ok (d :: ds, rest)
        | .error e => .error e
      | .error e => .error e
    else if c.toNat < 32 then .error .malformed
    else
      match textBody rest with
      | .ok (ds, rest) => .ok (c :: ds, rest)
      | .error e => .error e
termination_by cs.length
decreasing_by
  · have := length_unescape _h
    simp; omega
  · simp

/-- An escape inside an ignored text; the number behind `u` need be no character's. -/
def ignoreEscape : List Char → Except ReadError (List Char)
  | [] => .error .truncated
  | c :: rest =>
    if c ∈ ['"', '\\', '/', 'b', 'f', 'n', 'r', 't'] then .ok rest
    else if c = 'u' then (fourHex rest).map (·.2)
    else .error .malformed

theorem length_ignoreEscape {cs rest : List Char} (h : ignoreEscape cs = .ok rest) :
    rest.length < cs.length := by
  unfold ignoreEscape at h
  split at h
  · cases h
  · split at h
    · cases h; simp
    · split at h
      · rename_i tail _ _
        cases hf : fourHex tail with
        | error e => rw [hf] at h; cases h
        | ok p =>
          rw [hf] at h
          cases h
          have : p.2.length < _ := length_fourHex hf
          simp; omega
      · cases h

def ignoreTextBody (cs : List Char) : Except ReadError (List Char) :=
  match cs with
  | [] => .error .truncated
  | c :: rest =>
    if c = '"' then .ok rest
    else if c = '\\' then
      match _h : ignoreEscape rest with
      | .ok rest => ignoreTextBody rest
      | .error e => .error e
    else if c.toNat < 32 then .error .malformed
    else ignoreTextBody rest
termination_by cs.length
decreasing_by
  · have := length_ignoreEscape _h
    simp; omega
  · simp

def wordLimit : Nat := 18446744073709551616

def gather (value : Nat) : List Char → Nat × List Char
  | [] => (value, [])
  | c :: cs =>
    if 10 * value + Decimal.digitValue c < wordLimit then gather (10 * value + Decimal.digitValue c) cs
    else (value, c :: cs)

structure Numeral where
  negative : Bool
  whole : List Char
  fraction : Option (List Char)
  exponent : Option Int

/-- Digits that no longer fit into 64 bits count as zeros before the point and not at all behind. -/
def Numeral.value? (n : Numeral) : Option Number :=
  let (lead, dropped) := gather 0 n.whole
  if n.fraction.isNone && n.exponent.isNone && dropped.isEmpty then
    if n.negative then
      if lead = 0 ∨ wordLimit < 2 * lead then (Double.ofDecimal? true lead 0).map .float
      else Number.ofInt? (-(lead : Int))
    else Number.ofInt? lead
  else
    let fraction := n.fraction.getD []
    let (digits, lost) := gather lead fraction
    let places : Int := (dropped.length : Int) - (fraction.length - lost.length : Nat)
    (Double.ofDecimal? n.negative digits (places + n.exponent.getD 0)).map .float

def startsWithDigit : List Char → Bool
  | c :: _ => c.isDigit
  | [] => false

def exponent : Reader Int
  | cs =>
    let (negative, digits) := match cs with
      | '+' :: rest => (false, rest)
      | '-' :: rest => (true, rest)
      | rest => (false, rest)
    match digits with
    | [] => .error .truncated
    | c :: _ =>
      if c.isDigit then
        let n : Int := Nat.ofDigitChars 10 (digits.takeWhile Char.isDigit) 0
        .ok (if negative then -n else n, digits.dropWhile Char.isDigit)
      else .error .malformed

def isExponentMark (c : Char) : Bool := c == 'e' || c == 'E'

def exponent? : Reader (Option Int)
  | c :: rest =>
    if isExponentMark c then (exponent rest).map fun (n, rest) => (some n, rest)
    else .ok (none, c :: rest)
  | [] => .ok (none, [])

def wholeDigits : Reader (List Char)
  | [] => .error .truncated
  | c :: rest =>
    if c = '0' then
      if startsWithDigit rest then .error .malformed else .ok (['0'], rest)
    else if c.isDigit then .ok (c :: rest.takeWhile Char.isDigit, rest.dropWhile Char.isDigit)
    else .error .malformed

def fraction? : Reader (Option (List Char))
  | '.' :: rest =>
    match rest with
    | [] => .error .truncated
    | c :: _ =>
      if c.isDigit then .ok (some (rest.takeWhile Char.isDigit), rest.dropWhile Char.isDigit)
      else .error .malformed
  | cs => .ok (none, cs)

def unsigned (negative : Bool) (cs : List Char) : Except ReadError (Number × List Char) := do
  let (whole, cs) ← wholeDigits cs
  let (fraction, cs) ← fraction? cs
  let (exponent, cs) ← exponent? cs
  match Numeral.value? { negative, whole, fraction, exponent } with
  | some n => return (n, cs)
  | none => .error .malformed

def signed (first : Char) (rest : List Char) : Result Number :=
  if first = '-' then unsigned true rest else unsigned false (first :: rest)

def startsNumber (c : Char) : Bool := c == '-' || c.isDigit

/-- The end of an ignored number; it is malformed even where the text only ends too early. -/
def ignoreDigits (cs : List Char) : Except ReadError (List Char) :=
  if startsWithDigit cs then .ok (cs.dropWhile Char.isDigit) else .error .malformed

def ignoreExponent : List Char → Except ReadError (List Char)
  | c :: rest =>
    if isExponentMark c then
      match rest with
      | '+' :: rest => ignoreDigits rest
      | '-' :: rest => ignoreDigits rest
      | rest => ignoreDigits rest
    else .ok (c :: rest)
  | [] => .ok []

def ignoreUnsigned : List Char → Except ReadError (List Char)
  | [] => .error .malformed
  | c :: rest => do
    let cs ←
      if c = '0' then
        if startsWithDigit rest then .error .malformed else .ok rest
      else ignoreDigits (c :: rest)
    let cs ← match cs with
      | '.' :: rest => ignoreDigits rest
      | cs => .ok cs
    ignoreExponent cs

/-- Finds the next item of an array, of which `first` says whether any was read before. -/
def item? (first : Bool) (cs : List Char) : Except ReadError (Option (List Char)) :=
  match skipBlanks cs with
  | [] => .error .truncated
  | c :: rest =>
    if c = ']' then .ok none
    else if first then .ok (some (c :: rest))
    else if c = ',' then
      match skipBlanks rest with
      | [] => .error .truncated
      | d :: rest => if d = ']' then .error .malformed else .ok (some (d :: rest))
    else .error .malformed

def key? (first : Bool) (cs : List Char) : Except ReadError (Option (List Char)) :=
  match skipBlanks cs with
  | [] => .error .truncated
  | c :: rest =>
    if c = '\x7d' then .ok none
    else if first then
      if c = '"' then .ok (some rest) else .error .malformed
    else if c = ',' then
      match skipBlanks rest with
      | [] => .error .truncated
      | d :: rest => if d = '"' then .ok (some rest) else .error .malformed
    else .error .malformed

def expect (e : Char) (cs : List Char) : Except ReadError (List Char) :=
  match skipBlanks cs with
  | [] => .error .truncated
  | c :: rest => if c = e then .ok rest else .error .malformed

/-- The items of an array, taken one by one into `acc`; the opening bracket is read. -/
def items {σ : Type} (step : σ → Reader σ) :
    Nat → Bool → σ → List Char → Except ReadError (σ × List Char)
  | 0, _, _, _ => .error .truncated
  | fuel + 1, first, acc, cs => do
    match ← item? first cs with
    | none => return (acc, ← expect ']' cs)
    | some cs =>
      let (acc, cs) ← step acc cs
      items step fuel false acc cs

/-- The members of an object, taken one by one into `acc`: `step` gets the key and what follows it. -/
def members {σ : Type} (step : σ → List Char → Reader σ) :
    Nat → Bool → σ → List Char → Except ReadError (σ × List Char)
  | 0, _, _, _ => .error .truncated
  | fuel + 1, first, acc, cs => do
    match ← key? first cs with
    | none => return (acc, ← expect '\x7d' cs)
    | some cs =>
      let (key, cs) ← textBody cs
      let (acc, cs) ← step acc key cs
      members step fuel false acc cs

def scalar : Reader Json
  | [] => .error .truncated
  | c :: rest =>
    if c = 'n' then (word ['u', 'l', 'l'] rest).map fun cs => (.null, cs)
    else if c = 't' then (word ['r', 'u', 'e'] rest).map fun cs => (.bool true, cs)
    else if c = 'f' then (word ['a', 'l', 's', 'e'] rest).map fun cs => (.bool false, cs)
    else if c = '"' then (textBody rest).map fun (s, cs) => (.string (String.ofList s), cs)
    else if startsNumber c then (signed c rest).map fun (n, cs) => (.number n, cs)
    else .error .malformed

def value : Nat → List Char → Except ReadError (Json × List Char)
  | 0, cs => scalar (skipBlanks cs)
  | depth + 1, cs =>
    match skipBlanks cs with
    | '[' :: rest => do
      let (xs, rest) ← items (fun acc cs => (value depth cs).map fun (x, cs) => (x :: acc, cs))
        (rest.length + 1) true [] rest
      return (.array xs.reverse, rest)
    | '\x7b' :: rest => do
      let (xs, rest) ← members (fun acc key cs =>
        ((expect ':' cs).bind (value depth)).map fun (x, cs) =>
          (Sorted.insert (String.ofList key) x acc, cs)) (rest.length + 1) true [] rest
      return (.object xs, rest)
    | cs => scalar cs

def ignoreScalar : List Char → Except ReadError (List Char)
  | [] => .error .truncated
  | c :: rest =>
    if c = 'n' then word ['u', 'l', 'l'] rest
    else if c = 't' then word ['r', 'u', 'e'] rest
    else if c = 'f' then word ['a', 'l', 's', 'e'] rest
    else if c = '"' then ignoreTextBody rest
    else if c = '-' then ignoreUnsigned rest
    else if c.isDigit then ignoreUnsigned (c :: rest)
    else .error .malformed

def ignoreMembers (step : List Char → Except ReadError (List Char)) :
    Nat → Bool → List Char → Except ReadError (List Char)
  | 0, _, _ => .error .truncated
  | fuel + 1, first, cs => do
    match ← key? first cs with
    | none => expect '\x7d' cs
    | some cs =>
      let cs ← expect ':' (← ignoreTextBody cs)
      ignoreMembers step fuel false (← step cs)

def ignoreAt : Nat → List Char → Except ReadError (List Char)
  | 0, cs => ignoreScalar (skipBlanks cs)
  | depth + 1, cs =>
    match skipBlanks cs with
    | '[' :: rest => do
      let (_, rest) ← items (fun (_ : Unit) cs => (ignoreAt depth cs).map fun cs => ((), cs))
        (rest.length + 1) true () rest
      return rest
    | '\x7b' :: rest => ignoreMembers (ignoreAt depth) (rest.length + 1) true rest
    | cs => ignoreScalar cs

def ignore (cs : List Char) : Except ReadError (List Char) := ignoreAt cs.length cs

def complete {α : Type} (read : Reader α) (cs : List Char) : Except ReadError α := do
  let (a, rest) ← read cs
  match skipBlanks rest with
  | [] => return a
  | _ => .error .malformed

def nesting : Nat := 127

def read (cs : List Char) : Except ReadError Json := complete (value nesting) cs

def read? (s : String) : Option Json := (read s.toList).toOption

end PairCache.Json
