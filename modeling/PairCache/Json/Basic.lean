import PairCache.Number.Double

/-!
JSON values. A number is whole, and then within 64 bits, or a finite number of 64 bits; the two
kinds are never the same. Objects hold their members in the order of their keys. `Json.same` compares
values, `Json.depth` counts how far arrays and objects are nested.
-/
namespace PairCache

namespace Json

inductive Number where
  | whole (i : Int) (inRange : -9223372036854775808 ≤ i ∧ i < 18446744073709551616)
  | float (x : Double)
deriving DecidableEq, Repr

def Number.same : Number → Number → Bool
  | .whole i _, .whole j _ => i == j
  | .float x, .float y => x.same y
  | _, _ => false

def Number.ofInt? (i : Int) : Option Number :=
  if h : -9223372036854775808 ≤ i ∧ i < 18446744073709551616 then some (.whole i h) else none

theorem Number.same_refl (n : Number) : n.same n = true := by
  cases n <;> simp [same, Double.same_refl]

theorem Number.same_symm {m n : Number} (h : m.same n = true) : n.same m = true := by
  cases m <;> cases n <;> simp_all [same, Double.same_symm]

theorem Number.same_trans {l m n : Number} (h : l.same m = true) (k : m.same n = true) :
    l.same n = true := by
  cases l <;> cases m <;> cases n <;> simp_all [same]
  exact Double.same_trans h k

end Json

inductive Json where
  | null
  | bool (b : Bool)
  | number (n : Json.Number)
  | string (s : String)
  | array (items : List Json)
  | object (members : List (String × Json))
deriving Repr, Inhabited

namespace Json

def ofInt (i : Int) : Json :=
  match Number.ofInt? i with
  | some n => .number n
  | none => .null

def ofUInt64 (n : UInt64) : Json :=
  .number (.whole n.toNat (by have := n.toNat_lt; omega))

def ofInt64 (n : Int64) : Json :=
  .number (.whole n.toInt (by have := n.le_toInt; have := n.toInt_lt; omega))

def ofOption {α : Type} (toJson : α → Json) (o : Option α) : Json := (o.map toJson).getD .null

mutual

def same : Json → Json → Bool
  | .null, .null => true
  | .bool a, .bool b => a == b
  | .number m, .number n => m.same n
  | .string s, .string t => s == t
  | .array xs, .array ys => sameItems xs ys
  | .object xs, .object ys => sameMembers xs ys
  | _, _ => false

def sameItems : List Json → List Json → Bool
  | [], [] => true
  | x :: xs, y :: ys => same x y && sameItems xs ys
  | _, _ => false

def sameMembers : List (String × Json) → List (String × Json) → Bool
  | [], [] => true
  | (j, x) :: xs, (k, y) :: ys => j == k && same x y && sameMembers xs ys
  | _, _ => false

end

mutual

theorem same_refl : (v : Json) → same v v = true
  | .null => rfl
  | .bool b => by simp [same]
  | .number n => by simp [same, Number.same_refl]
  | .string s => by simp [same]
  | .array xs => by simpa [same] using sameItems_refl xs
  | .object xs => by simpa [same] using sameMembers_refl xs

theorem sameItems_refl : (xs : List Json) → sameItems xs xs = true
  | [] => rfl
  | x :: xs => by simp [sameItems, same_refl x, sameItems_refl xs]

theorem sameMembers_refl : (xs : List (String × Json)) → sameMembers xs xs = true
  | [] => rfl
  | (k, x) :: xs => by simp [sameMembers, same_refl x, sameMembers_refl xs]

end

mutual

def depth : Json → Nat
  | .array xs => depthItems xs + 1
  | .object xs => depthMembers xs + 1
  | _ => 0

def depthItems : List Json → Nat
  | [] => 0
  | x :: xs => max (depth x) (depthItems xs)

def depthMembers : List (String × Json) → Nat
  | [] => 0
  | (_, x) :: xs => max (depth x) (depthMembers xs)

end

def isNull : Json → Bool
  | .null => true
  | _ => false

def member? (key : String) : Json → Option Json
  | .object members => (members.find? fun m => m.1 == key).map (·.2)
  | _ => none

end Json

end PairCache
