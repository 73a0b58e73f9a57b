import PairCache.Text.Decimal

/-!
Times of day and lengths of time as they are written in hours, minutes and seconds, with colons or
without. The parts from the right may be missing.
-/
namespace PairCache.Clock

def digits? (width : Nat) (cs : List Char) : Option (Nat × List Char) :=
  let head := cs.take width
  if head.length = width ∧ head.all Char.isDigit then
    some (Nat.ofDigitChars 10 head 0, cs.drop width)
  else none

def two? (limit : Nat) (cs : List Char) : Option (Nat × List Char) :=
  (digits? 2 cs).filter fun (n, _) => n ≤ limit

/-- Whether another part of a clock time follows: behind a colon, or as two more digits. -/
def more? (separated : Bool) (cs : List Char) : Option (List Char) :=
  if separated then
    match cs with
    | ':' :: rest => some rest
    | _ => none
  else if (digits? 2 cs).isSome then some cs else none

def fraction? : List Char → Option (Nat × List Char)
  | c :: cs =>
    if c = '.' ∨ c = ',' then
      let head := (cs.take 9).takeWhile Char.isDigit
      if head.isEmpty then none
      else some (Nat.ofDigitChars 10 head 0 * Nat.pow 10 (9 - head.length), cs.drop head.length)
    else some (0, c :: cs)
  | [] => some (0, [])

/-- Hours and, where they are written, minutes, seconds and decimals, in nanoseconds. A leap second
counts as the one before it. -/
def read? (hours seconds : Nat) (cs : List Char) : Option (Nat × List Char) := do
  let (hour, cs) ← two? hours cs
  let separated := cs.head? == some ':'
  match more? separated cs with
  | none => return (hour * 3600 * 1000000000, cs)
  | some cs =>
    let (minute, cs) ← two? 59 cs
    match more? separated cs with
    | none => return ((hour * 60 + minute) * 60 * 1000000000, cs)
    | some cs =>
      let (second, cs) ← two? seconds cs
      let (nanos, cs) ← fraction? cs
      return (((hour * 60 + minute) * 60 + min second 59) * 1000000000 + nanos, cs)

end PairCache.Clock
