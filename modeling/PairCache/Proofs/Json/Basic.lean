import PairCache.Json.Printer
import PairCache.Sorted

/-!
JSON values by their kinds. `Json.induct` is induction over a value with its items and members. A value
is well-formed when the members of each object in it come in the order of their keys, and free of
floats when each number in it is whole.
-/
namespace PairCache.Json

theorem induct {P : Json → Prop} (null : P .null) (bool : ∀ b, P (.bool b))
    (number : ∀ n, P (.number n)) (string : ∀ s, P (.string s))
    (array : ∀ xs, (∀ x ∈ xs, P x) → P (.array xs))
    (object : ∀ ms : List (String × Json), (∀ m ∈ ms, P m.2) → P (.object ms)) (v : Json) : P v := by
  apply @Json.rec P (fun xs => ∀ x ∈ xs, P x) (fun ms => ∀ m ∈ ms, P m.2) (fun m => P m.2) null bool
    number string array object
  · intro x hx
    cases hx
  · intro x xs hx hxs
    exact List.forall_mem_cons.mpr ⟨hx, hxs⟩
  · intro m hm
    cases hm
  · intro m ms hm hms
    exact List.forall_mem_cons.mpr ⟨hm, hms⟩
  · intro _ x hx
    exact hx

inductive WellFormed : Json → Prop
  | null : WellFormed .null
  | bool (b : Bool) : WellFormed (.bool b)
  | number (n : Number) : WellFormed (.number n)
  | string (s : String) : WellFormed (.string s)
  | array {xs : List Json} (hitems : ∀ x ∈ xs, WellFormed x) : WellFormed (.array xs)
  | object {ms : List (String × Json)} (hordered : Sorted.Ordered ms)
      (hmembers : ∀ m ∈ ms, WellFormed m.2) : WellFormed (.object ms)

inductive FloatFree : Json → Prop
  | null : FloatFree .null
  | bool (b : Bool) : FloatFree (.bool b)
  | whole (i : Int) (h : -9223372036854775808 ≤ i ∧ i < 18446744073709551616) :
      FloatFree (.number (.whole i h))
  | string (s : String) : FloatFree (.string s)
  | array {xs : List Json} (hitems : ∀ x ∈ xs, FloatFree x) : FloatFree (.array xs)
  | object {ms : List (String × Json)} (hmembers : ∀ m ∈ ms, FloatFree m.2) :
      FloatFree (.object ms)

theorem depth_le_depthItems {x : Json} {xs : List Json} (h : x ∈ xs) : x.depth ≤ depthItems xs := by
  induction xs with
  | nil => cases h
  | cons y xs ih =>
    rw [depthItems]
    rcases List.mem_cons.mp h with rfl | h
    · exact Nat.le_max_left _ _
    · exact Nat.le_trans (ih h) (Nat.le_max_right _ _)

theorem depth_le_depthMembers {m : String × Json} {ms : List (String × Json)} (h : m ∈ ms) :
    m.2.depth ≤ depthMembers ms := by
  induction ms with
  | nil => cases h
  | cons e ms ih =>
    obtain ⟨k, x⟩ := e
    rw [depthMembers]
    rcases List.mem_cons.mp h with rfl | h
    · exact Nat.le_max_left _ _
    · exact Nat.le_trans (ih h) (Nat.le_max_right _ _)

/-- What stands behind the first of some items, up to the closing character. -/
def continued {α : Type} (close : Char) (write : α → List Char) : List α → List Char
  | [] => [close]
  | x :: xs => ',' :: write x ++ continued close write xs

def listed {α : Type} (close : Char) (write : α → List Char) : List α → List Char
  | [] => [close]
  | x :: xs => write x ++ continued close write xs

def writeMember (m : String × Json) : List Char := quote m.1 ++ ':' :: m.2.compact

theorem compactItems_eq (xs : List Json) : compactItems xs = continued ']' compact xs := by
  induction xs with
  | nil => rfl
  | cons x xs ih => rw [compactItems, ih, continued]

theorem compactMembers_eq (ms : List (String × Json)) :
    compactMembers ms = continued '\x7d' writeMember ms := by
  induction ms with
  | nil => rfl
  | cons m ms ih =>
    obtain ⟨k, x⟩ := m
    rw [compactMembers, ih, continued, writeMember]
    simp

theorem compact_array (xs : List Json) : compact (.array xs) = '[' :: listed ']' compact xs := by
  cases xs with
  | nil => rfl
  | cons x xs =>
    rw [compact, compactItems_eq, listed]
    rfl

theorem compact_object (ms : List (String × Json)) :
    compact (.object ms) = '\x7b' :: listed '\x7d' writeMember ms := by
  cases ms with
  | nil => rfl
  | cons m ms =>
    obtain ⟨k, x⟩ := m
    rw [compact, compactMembers_eq, listed, writeMember]
    simp

theorem length_lt_continued {α : Type} (close : Char) (write : α → List Char) (xs : List α) :
    xs.length < (continued close write xs).length := by
  induction xs with
  | nil => exact Nat.one_pos
  | cons x xs ih =>
    rw [continued]
    simp only [List.cons_append, List.length_cons, List.length_append]
    omega

theorem length_le_listed {α : Type} (close : Char) (write : α → List Char) (xs : List α)
    (h : ∀ x ∈ xs, write x ≠ []) : xs.length ≤ (listed close write xs).length := by
  cases xs with
  | nil => exact Nat.zero_le _
  | cons x xs =>
    have hx : 0 < (write x).length := List.length_pos_iff.mpr (h x List.mem_cons_self)
    have hxs := length_lt_continued close write xs
    rw [listed]
    simp only [List.length_cons, List.length_append]
    omega

end PairCache.Json
