import PairCache.Event.Pattern.Reader

/-!
Texts that describe the values of a field: numbers, truth values, or regular expressions. A value is
never compared with one here; what matters is which texts can be used (`Pattern.isUsable`).
-/
namespace PairCache.Event.Pattern

def readsAsNumber (cs : List Char) : Bool :=
  let whole := cs.takeWhile Char.isDigit
  let rest := cs.drop whole.length
  let decimals := if rest.head? = some '.' then (rest.drop 1).takeWhile Char.isDigit else []
  let rest := if rest.head? = some '.' then rest.drop (decimals.length + 1) else rest
  let exponent :=
    match rest with
    | [] => true
    | e :: digits =>
      let digits := if digits.head? = some '+' ∨ digits.head? = some '-' then digits.drop 1 else digits
      (e == 'e' || e == 'E') && !digits.isEmpty && digits.all Char.isDigit
  (!(whole ++ decimals).isEmpty && exponent) ||
    ["inf".toList, "infinity".toList, "nan".toList].contains (cs.map Char.toLower)

/-- Whether a text describes values. All numbers but those with a plus sign are expressions, too. -/
def isUsable (cs : List Char) : Bool :=
  (cs.head? == some '+' && readsAsNumber (cs.drop 1)) || (Expression.read? cs).any (·.isUsable)

end PairCache.Event.Pattern
