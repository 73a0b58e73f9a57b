import PairCache.Time.Clock

/-!
Notes in brackets behind a point in time, such as `[Europe/Berlin][u-ca=gregory]`: at most one time
zone, which comes first, and any number of keys with values. They are checked for form and leave the
point in time alone; the named zone is not looked up. A note with an exclamation mark asks to be
understood, and no key is.
-/
namespace PairCache.Annotation

def one? (p : Char → Bool) : List Char → Option (List Char)
  | c :: cs => if p c then some cs else none
  | [] => none

def symbol? (c : Char) : List Char → Option (List Char) := one? (· == c)

def word? (lead rest : Char → Bool) (cs : List Char) : Option (List Char) :=
  (one? lead cs).map (·.dropWhile rest)

def words? (separator : Char) (lead rest : Char → Bool) (cs : List Char) : Option (List Char) :=
  go cs.length cs
where
  go (fuel : Nat) (cs : List Char) : Option (List Char) := do
    let cs ← word? lead rest cs
    match fuel, symbol? separator cs with
    | fuel + 1, some cs => go fuel cs
    | _, _ => return cs

def opening? (cs : List Char) : Option (Bool × List Char) := do
  let cs ← symbol? '[' cs
  match symbol? '!' cs with
  | some cs => return (true, cs)
  | none => return (false, cs)

def offset? (cs : List Char) : Option (List Char) := do
  let (_, cs) ← Clock.two? 25 cs
  match Clock.more? (cs.head? == some ':') cs with
  | some cs => (Clock.two? 59 cs).map (·.2)
  | none => return cs

def leadsZone (c : Char) : Bool := c == '_' || c == '.' || c.isAlpha

def inZone (c : Char) : Bool := leadsZone c || c == '+' || c == '-' || c.isDigit

def leadsKey (c : Char) : Bool := c == '_' || c.isLower

def inKey (c : Char) : Bool := leadsKey c || c == '-' || c.isDigit

/-- The time zone, an offset or a name; nothing is read of what turns out to be a key. -/
def zone? (cs : List Char) : Option (List Char) :=
  match opening? cs with
  | none => some cs
  | some (_, inner) =>
    match one? (fun c => c == '+' || c == '-') inner with
    | some inner => offset? inner >>= symbol? ']'
    | none => do
      let part ← word? leadsZone inZone inner
      if part.head? = some '=' then return cs
      else words? '/' leadsZone inZone inner >>= symbol? ']'

def keyed? (cs : List Char) : Option (List Char) := do
  let (critical, cs) ← opening? cs
  let cs ← word? leadsKey inKey cs >>= symbol? '=' >>= words? '-' Char.isAlphanum Char.isAlphanum
  if critical then none else symbol? ']' cs

def all (cs : List Char) : Bool :=
  match zone? cs with
  | some rest => keys rest.length rest
  | none => false
where
  keys (fuel : Nat) (cs : List Char) : Bool :=
    if cs.isEmpty then true
    else
      match fuel, keyed? cs with
      | fuel + 1, some rest => keys fuel rest
      | _, _ => false

end PairCache.Annotation
