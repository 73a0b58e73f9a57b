import PairCache.Text.Decimal
import PairCache.Time.Annotation
import PairCache.Time.Clock
import PairCache.Time.Date

/-!
Points in time to the nanosecond, and their text: date, `T`, time of day with as many decimals as it
needs, `Z`. A text that is read may use another offset from UTC, a blank for the `T`, and no
separators, and may end in bracketed notes; the point in time has to be one that can be written.
-/
namespace PairCache

structure Timestamp where
  /-- Nanoseconds since 1970-01-01T00:00:00Z. -/
  nanos : Int
  inRange : -377705023201000000000 ≤ nanos ∧ nanos ≤ 253402207200999999999
deriving DecidableEq, Repr

namespace Timestamp

def perSecond : Int := 1000000000

def perDay : Int := 86400

def ofNanos? (nanos : Int) : Option Timestamp :=
  if h : -377705023201000000000 ≤ nanos ∧ nanos ≤ 253402207200999999999 then some ⟨nanos, h⟩ else none

/-- The point `nanos` nanoseconds from second number `seconds`, which must itself be in range. -/
def ofParts? (seconds nanos : Int) : Option Timestamp :=
  if -377705023201 ≤ seconds ∧ seconds ≤ 253402207200 ∧ -999999999 ≤ nanos ∧ nanos ≤ 999999999 then
    ofNanos? (seconds * perSecond + nanos)
  else none

def padded (width : Nat) (n : Nat) : List Char :=
  let digits := Decimal.ofNat n
  List.replicate (width - digits.length) '0' ++ digits

def writeYear (year : Int) : List Char :=
  if 0 ≤ year then padded 4 year.toNat else '-' :: padded 6 year.natAbs

def writeFraction (nanos : Nat) : List Char :=
  if nanos = 0 then []
  else '.' :: ((padded 9 nanos).reverse.dropWhile (· == '0')).reverse

def writeDate (d : Date) : List Char :=
  writeYear d.year ++ '-' :: padded 2 d.month.toNat ++ '-' :: padded 2 d.day.toNat

def writeClock (second : Nat) : List Char :=
  padded 2 (second / 3600) ++ ':' :: padded 2 (second / 60 % 60) ++ ':' :: padded 2 (second % 60)

def write (t : Timestamp) : List Char :=
  let second := t.nanos / perSecond
  writeDate (Date.ofDays (second / perDay)) ++ 'T' :: writeClock (second % perDay).toNat ++
    writeFraction (t.nanos % perSecond).toNat ++ ['Z']

/-- Four digits, or a sign and six; minus zero is no year. -/
def year? : List Char → Option (Int × List Char)
  | '-' :: cs => do
    let (n, cs) ← Clock.digits? 6 cs
    if n = 0 ∨ 9999 < n then none else return (-(n : Int), cs)
  | '+' :: cs => do
    let (n, cs) ← Clock.digits? 6 cs
    if 9999 < n then none else return ((n : Int), cs)
  | cs => do
    let (n, cs) ← Clock.digits? 4 cs
    return ((n : Int), cs)

/-- The hyphens of a date are written both or not at all. -/
def hyphen? (separated : Bool) : List Char → Option (List Char)
  | '-' :: cs => if separated then some cs else none
  | cs => if separated then none else some cs

def date? (cs : List Char) : Option (Date × List Char) := do
  let (year, cs) ← year? cs
  let separated := cs.head? == some '-'
  let cs ← hyphen? separated cs
  let (month, cs) ← Clock.two? 12 cs
  let cs ← hyphen? separated cs
  let (day, cs) ← Clock.two? 31 cs
  let date : Date := ⟨year, month, day⟩
  if date.Exists then return (date, cs) else none

/-- The offset from UTC in whole seconds, half a second counting as one. -/
def offset? : List Char → Option (Int × List Char)
  | [] => none
  | c :: cs =>
    if c = 'Z' ∨ c = 'z' then some (0, cs)
    else if c = '+' ∨ c = '-' then do
      let (nanos, cs) ← Clock.read? 25 59 cs
      let seconds : Int := (nanos + 500000000) / 1000000000
      if 93599 < seconds then none
      else return (if c = '-' then -seconds else seconds, cs)
    else none

def read? (cs : List Char) : Option Timestamp := do
  let (date, cs) ← date? cs
  match cs with
  | [] => none
  | c :: cs =>
    if c = 'T' ∨ c = 't' ∨ c = ' ' then
      let (clock, cs) ← Clock.read? 23 60 cs
      let (offset, cs) ← offset? cs
      if Annotation.all cs then
        ofNanos? ((date.toDays * perDay - offset) * perSecond + clock)
      else none
    else none

end Timestamp

end PairCache
