import PairCache.Event
import PairCache.Event.Pattern
import PairCache.Text.Blank

/-!
Directives of a log filter: a level, a target, or a target with a level, such as `cache=debug`; between
the two, in brackets, the name of a span and in braces a field, perhaps with a value. A directive is
looked through without the blanks at its ends, but its parts are cut out of the whole text at the places
that were found: blanks in front of it shift the parts, and a shifted cut can fall inside a character.
-/
namespace PairCache.Event

structure Directive where
  /-- How the names of the targets begin; none for all targets. -/
  target : Option (List Char)
  field : Option String
  /-- The least grave level that is logged; none when nothing is. -/
  level : Option Level
deriving DecidableEq, Repr

namespace Directive

inductive Flaw where
  | unreadable
  /-- A cut falls inside a character. -/
  | torn
deriving DecidableEq, Repr

def lower (cs : List Char) : List Char := cs.map Char.toLower

def readLevel? (cs : List Char) : Option (Option Level) :=
  match Decimal.natural 5 cs with
  | .ok 0 => some none
  | .ok n => (Level.all.find? fun l => l.rank == n).map some
  | .error _ =>
    if lower cs = "off".toList then some none
    else (Level.all.find? fun l => lower l.name.toList == lower cs).map some

/-- The level behind an equals sign; all is logged when there is none. -/
def levelAfter (cs : List Char) : Except Flaw (Option Level) :=
  if cs.isEmpty then .ok (some .trace)
  else
    match readLevel? cs with
    | some level => .ok level
    | none => .error .unreadable

/-- The text before and behind a place, counted in bytes, which must be between two characters. -/
def split (place : Nat) : List Char → Except Flaw (List Char × List Char)
  | [] => .ok ([], [])
  | c :: cs =>
    if place = 0 then .ok ([], c :: cs)
    else if place < c.utf8Size then .error .torn
    else (split (place - c.utf8Size) cs).map fun (front, rest) => (c :: front, rest)

def cutFrom (start : Nat) (whole : List Char) : Except Flaw (List Char) :=
  (split start whole).map (·.2)

def cut (start stop : Nat) (whole : List Char) : Except Flaw (List Char) := do
  cutFrom start (← split stop whole).1

def startsTarget (c : Char) : Bool :=
  c == '-' || c == ':' || c == '_' || Alphanumeric.isAlphanumeric c

def readField (cs : List Char) : Except Flaw (String × Bool) :=
  let name := cs.takeWhile (· ≠ '=')
  if cs.isEmpty then .error .unreadable
  else
    match cs.drop name.length with
    | [] => .ok (String.ofList name, false)
    | _ :: value =>
      if Pattern.isUsable (value.takeWhile (· ≠ '=')) then .ok (String.ofList name, true)
      else .error .unreadable

def readEnd (whole : List Char) (place : Nat) : List Char → Except Flaw (Option Level)
  | [] => .ok (some .trace)
  | '=' :: _ => cutFrom (place + 1) whole >>= levelAfter
  | _ => .error .unreadable

/-- What stands in brackets, from `start` on, and the level. A directive with a span or a value comes
to nothing, because no event is in a span. -/
def readBrackets (whole : List Char) (target : Option (List Char)) (start : Nat) (cs : List Char) :
    Except Flaw (Option Directive) := do
  let name := cs.takeWhile fun c => c ≠ ']' ∧ c ≠ '\x7b'
  let stop := start + Json.byteLength name
  match cs.drop name.length with
  | ']' :: rest =>
    discard (cut start stop whole)
    discard (readEnd whole (stop + 1) rest)
    return none
  | '\x7b' :: rest =>
    let span ← cut start stop whole
    let field := rest.takeWhile (· ≠ '\x7d')
    let last := stop + 1 + Json.byteLength field
    match rest.drop field.length with
    | _ :: behind =>
      let (name, valued) ← cut (stop + 1) last whole >>= readField
      match behind with
      | ']' :: rest =>
        let level ← readEnd whole (last + 2) rest
        return if span.isEmpty ∧ !valued then some ⟨target, some name, level⟩ else none
      | _ => .error .unreadable
    | [] => .error .unreadable
  | _ => .error .unreadable

def read (whole : List Char) : Except Flaw (Option Directive) :=
  match Blank.trim whole with
  | [] => .error .unreadable
  | '[' :: cs => readBrackets whole none 1 cs
  | c :: cs =>
    if startsTarget c then do
      let name := (c :: cs).takeWhile fun c => c ≠ '=' ∧ c ≠ '['
      match (c :: cs).drop name.length with
      | [] =>
        match readLevel? whole with
        | some level => return some ⟨none, none, level⟩
        | none => return some ⟨some whole, none, some .trace⟩
      | mark :: rest =>
        let target ← cut 0 (Json.byteLength name) whole
        if mark = '[' then readBrackets whole (some target) (Json.byteLength name + 1) rest
        else
          let level ← cutFrom (Json.byteLength name + 1) whole >>= levelAfter
          return some ⟨some target, none, level⟩
    else .error .unreadable

def isAbout (target : String) (d : Directive) : Bool :=
  d.target.all fun start => start.isPrefixOf target.toList

def concerns (target : String) (fields : List String) (d : Directive) : Bool :=
  d.isAbout target && d.field.all fields.contains

def reach (d : Directive) : Nat := d.target.elim 0 fun start => start.length + 1

def outranks (a b : Directive) : Bool :=
  if a.reach = b.reach then
    match a.field, b.field with
    | some x, some y => decide (y < x)
    | some _, none => true
    | none, _ => false
  else decide (b.reach < a.reach)

/-- Of directives about the same events, the one that counts; of equal ones it is the last. -/
def first? (directives : List Directive) : Option Directive :=
  directives.foldl (fun found d =>
    match found with
    | some a => some (if a.outranks d then a else d)
    | none => some d) none

end Directive

end PairCache.Event
