/-!
Reports without the times that were measured, so that two reports of the same work are the same text.
A time stands in a line of its own, `elapsed: 0.000012 s`; in a report the line may be indented, and may
be a quoted item of a list.
-/
namespace PairCache.Masked

def splitLines : List Char → List (List Char)
  | [] => [[]]
  | c :: cs =>
    if c = '\n' then [] :: splitLines cs
    else
      match splitLines cs with
      | [] => [[c]]
      | l :: ls => (c :: l) :: ls

def joinLines (lines : List (List Char)) : List Char := ['\n'].intercalate lines

def heading : List Char := "elapsed: ".toList

def unit : List Char := " s".toList

def masked : List Char := heading ++ "<t>".toList ++ unit

def isTime (cs : List Char) : Bool :=
  let whole := cs.takeWhile Char.isDigit
  match cs.drop whole.length with
  | '.' :: places => !whole.isEmpty && places.length == 6 && places.all Char.isDigit
  | _ => false

def isElapsed (cs : List Char) : Bool :=
  heading.isPrefixOf cs && unit.isSuffixOf cs &&
    isTime ((cs.drop heading.length).take (cs.length - heading.length - unit.length))

def line (s : String) : String := if isElapsed s.toList then String.ofList masked else s

def quotedItem? (cs : List Char) : Option (List Char × List Char) :=
  match cs, cs.reverse with
  | '"' :: _, '"' :: _ => some ((cs.drop 1).dropLast, ['"'])
  | '"' :: _, ',' :: '"' :: _ => some (((cs.drop 1).dropLast).dropLast, ['"', ','])
  | _, _ => none

def reportLine (cs : List Char) : List Char :=
  let indent := cs.takeWhile (· == ' ')
  let body := cs.dropWhile (· == ' ')
  if isElapsed body then indent ++ masked
  else
    match quotedItem? body with
    | some (inside, closing) =>
      if isElapsed inside then indent ++ '"' :: masked ++ closing else cs
    | none => cs

def report (s : String) : String :=
  String.ofList (joinLines ((splitLines s.toList).map reportLine))

end PairCache.Masked
