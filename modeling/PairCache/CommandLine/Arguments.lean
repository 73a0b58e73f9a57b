import PairCache.CommandLine.Stop

/-!
Reading the arguments from left to right. An option that takes a value waits for it until the next option
or the end: only then is it seen whether it has one, whether it was given before, and what the value says.
-/
namespace PairCache.CommandLine

structure Progress where
  items : List Item := []
  pending : Option (Key × Option String) := none
  /-- No more options are expected. -/
  ended : Bool := false

def has (key : Key) (items : List Item) : Bool := items.any fun i => i.key = key

def readValue (key : Key) (value : String) : Except Stop Item :=
  (key.read value).mapError fun
    | .noChoice => .invalidValue key value
    | .unreadable m => .unreadableValue key value m

namespace Progress

def add (item : Item) (p : Progress) : Progress := { p with items := p.items ++ [item] }

def checkNew (key : Key) (p : Progress) : Except Stop Unit :=
  if !key.isRepeatable && has key p.items then .error (.repeated key) else .ok ()

def give (key : Key) (value : String) (p : Progress) : Except Stop Progress := do
  p.checkNew key
  return p.add (← readValue key value)

def resolve (p : Progress) : Except Stop Progress :=
  match p.pending with
  | none => .ok p
  | some (key, none) => .error (.invalidValue key "")
  | some (key, some value) => { p with pending := none }.give key value

def word (argument : String) (p : Progress) : Except Stop Progress :=
  match p.pending with
  | some (key, none) => .ok { p with pending := some (key, some argument) }
  | _ => .error (.unknownArgument argument)

def switch (key : Key) (p : Progress) : Except Stop Progress := do
  let p ← p.resolve
  p.checkNew key
  return p.add (if key = .json then .json true else .logJson true)

def option (key : Key) (value? : Option String) (p : Progress) : Except Stop Progress := do
  match key.isSwitch, value? with
  | true, none => p.switch key
  | true, some value => throw (.unneededValue key.title value)
  | false, none => return { (← p.resolve) with pending := some (key, none) }
  | false, some value => (← p.resolve).give key value

def stop (title : String) (s : Stop) (value? : Option String) (p : Progress) :
    Except Stop Progress := do
  match value? with
  | some value => throw (.unneededValue title value)
  | none =>
    let _ ← p.resolve
    throw s

def long (argument : List Char) (p : Progress) : Except Stop Progress :=
  let (name, value?) :=
    match splitAtEquals? argument with
    | some (name, value) => (name, some (String.ofList value))
    | none => (argument, none)
  if name = "help".toList then p.stop "--help" .help value?
  else if name = "version".toList then p.stop "--version" .version value?
  else
    match Key.ofName? name with
    | some key => p.option key value?
    | none => .error (.unknownArgument ("--" ++ String.ofList name))

def short (letter : Char) (p : Progress) : Except Stop Progress :=
  match letter with
  | 'h' => p.stop "--help" .help none
  | 'V' => p.stop "--version" .version none
  | c => .error (.unknownArgument ("-" ++ String.singleton c))

/-- Digits with at most one point among them and an exponent mark before the last of them. -/
def isNumber (cs : List Char) : Bool :=
  let isMark (c : Char) := c == 'e' || c == 'E'
  let whole := cs.takeWhile (!isMark ·)
  let exponent := cs.dropWhile (!isMark ·)
  let digits (cs : List Char) := cs.all Char.isDigit
  let mantissa (cs : List Char) :=
    digits (cs.filter (· ≠ '.')) && decide (cs.count '.' ≤ 1) && cs.head? != some '.'
  !whole.isEmpty && mantissa whole &&
    match exponent with
    | [] => true
    | _ :: rest => !rest.isEmpty && digits rest

def takesNegative (cs : List Char) (p : Progress) : Bool :=
  match p.pending with
  | some (.count, none) => isNumber cs
  | _ => false

def argument (a : String) (p : Progress) : Except Stop Progress :=
  if p.ended then .error (.unknownArgument a)
  else
    match a.toList with
    | ['-', '-'] => .ok { p with ended := true }
    | '-' :: '-' :: rest => p.long rest
    | '-' :: c :: rest => if p.takesNegative (c :: rest) then p.word a else p.short c
    | _ => p.word a

end Progress

def readArguments (arguments : List String) : Except Stop (List Item) := do
  let p ← arguments.foldlM (fun p a => p.argument a) ({} : Progress)
  return (← p.resolve).items

end PairCache.CommandLine
