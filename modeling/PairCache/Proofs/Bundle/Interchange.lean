import PairCache.Connection
import PairCache.Proofs.Bundle.Structure
import PairCache.Proofs.Json.Distinct

/-!
What equal bundles have in common. A text belongs to one bundle only, and it shows the sign of a zero,
which equality does not look at: bundles are equal when their texts are, once each zero in their base
parameters is written without its sign (`same_iff_text`).
-/
namespace PairCache

namespace Double

def plainZero (x : Double) : Double := if x.magnitude = 0 then .zero else x

theorem same_iff_plainZero {x y : Double} : x.same y = true ↔ x.plainZero = y.plainZero := by
  obtain ⟨sx, m, hx⟩ := x
  obtain ⟨sy, n, hy⟩ := y
  simp only [same, plainZero, Bool.and_eq_true, Bool.or_eq_true, beq_iff_eq]
  by_cases hm : m = 0
  · by_cases hn : n = 0
    · simp [hm, hn]
    · simp [zero, hm, hn, Ne.symm hn]
  · by_cases hn : n = 0
    · simp [zero, hm, hn]
    · simp [hm, hn, and_comm]

end Double

namespace Json

def Number.plainZero : Number → Number
  | .whole i h => .whole i h
  | .float x => .float x.plainZero

mutual

def plainZeros : Json → Json
  | .number n => .number n.plainZero
  | .array xs => .array (plainZerosItems xs)
  | .object ms => .object (plainZerosMembers ms)
  | v => v

def plainZerosItems : List Json → List Json
  | [] => []
  | x :: xs => plainZeros x :: plainZerosItems xs

def plainZerosMembers : List (String × Json) → List (String × Json)
  | [] => []
  | (k, x) :: ms => (k, plainZeros x) :: plainZerosMembers ms

end

theorem plainZerosItems_eq (xs : List Json) : plainZerosItems xs = xs.map plainZeros := by
  induction xs with
  | nil => rfl
  | cons x xs ih => rw [plainZerosItems, ih, List.map_cons]

theorem plainZerosMembers_eq (ms : List (String × Json)) :
    plainZerosMembers ms = ms.map fun m => (m.1, m.2.plainZeros) := by
  induction ms with
  | nil => rfl
  | cons m ms ih => rw [plainZerosMembers, ih, List.map_cons]

theorem ordered_plainZerosMembers {ms : List (String × Json)} (h : Sorted.Ordered ms) :
    Sorted.Ordered (plainZerosMembers ms) := by
  rw [plainZerosMembers_eq]
  exact List.pairwise_map.mpr h

theorem map_eq_map_iff_forall₂ {α β : Type} {f : α → β} {xs ys : List α} :
    xs.map f = ys.map f ↔ List.Forall₂ (fun x y => f x = f y) xs ys := by
  rw [← List.forall₂_eq_eq_eq, List.forall₂_map_left_iff, List.forall₂_map_right_iff]

theorem Number.same_iff_plainZero {m n : Number} :
    m.same n = true ↔ m.plainZero = n.plainZero := by
  cases m with
  | whole i =>
    cases n with
    | whole j => simp [Number.same, plainZero]
    | float y => simp [Number.same, plainZero]
  | float x =>
    cases n with
    | whole j => simp [Number.same, plainZero]
    | float y => simp [Number.same, plainZero, Double.same_iff_plainZero]

theorem sameMembers_iff_plainZeros {ms ns : List (String × Json)}
    (h : ∀ m ∈ ms, ∀ n ∈ ns, same m.2 n.2 = true ↔ m.2.plainZeros = n.2.plainZeros) :
    sameMembers ms ns = true ↔ plainZerosMembers ms = plainZerosMembers ns := by
  rw [sameMembers_iff (R := fun v w => v.plainZeros = w.plainZeros) h, plainZerosMembers_eq,
    plainZerosMembers_eq, map_eq_map_iff_forall₂]
  simp only [Prod.mk.injEq]

theorem same_iff_plainZeros {v w : Json} : v.same w = true ↔ v.plainZeros = w.plainZeros := by
  induction v using Json.induct generalizing w with
  | null => cases w <;> simp [same, plainZeros]
  | bool => cases w <;> simp [same, plainZeros]
  | string => cases w <;> simp [same, plainZeros]
  | number m => cases w <;> simp [same, plainZeros, Number.same_iff_plainZero]
  | array xs ih =>
    cases w with
    | array ys =>
      rw [same, sameItems_iff (R := fun v w => v.plainZeros = w.plainZeros) fun x hx _ _ => ih x hx,
        plainZeros, plainZeros, array.injEq, plainZerosItems_eq, plainZerosItems_eq,
        map_eq_map_iff_forall₂]
    | _ => simp [same, plainZeros]
  | object ms ih =>
    cases w with
    | object ns =>
      rw [same, sameMembers_iff_plainZeros fun m hm _ _ => ih m hm, plainZeros, plainZeros,
        object.injEq]
    | _ => simp [same, plainZeros]

theorem ofInt64_injective {m n : Int64} (h : ofInt64 m = ofInt64 n) : m = n := by
  rw [ofInt64, ofInt64, number.injEq, Number.whole.injEq] at h
  exact Int64.toInt_inj.mp h

end Json

namespace Base

def plainZeros (b : Base) : Base :=
  ⟨Json.plainZerosMembers b.entries, Json.ordered_plainZerosMembers b.ordered⟩

theorem same_iff_plainZeros {a b : Base} : a.same b = true ↔ a.plainZeros = b.plainZeros := by
  rw [plainZeros, plainZeros, mk.injEq]
  exact Json.sameMembers_iff_plainZeros fun _ _ _ _ => Json.same_iff_plainZeros

end Base

namespace Bundle

variable {p q : Bundle}

def plainZeros (b : Bundle) : Bundle := b.withBase b.base.plainZeros

theorem same_iff_plainZeros : p.same q = true ↔ p.plainZeros = q.plainZeros := by
  obtain ⟨_, _, _, _⟩ := p
  obtain ⟨_, _, _, _⟩ := q
  simp only [same_iff, Base.same_iff_plainZeros, plainZeros, withBase, mk.injEq]

theorem plainMembers_injective (h : p.plainMembers = q.plainMembers) :
    p.flag = q.flag ∧ p.count = q.count ∧ p.label = q.label := by
  simp only [plainMembers, List.cons.injEq, Prod.mk.injEq, true_and, and_true, Json.bool.injEq,
    Json.string.injEq] at h
  exact ⟨h.1, Json.ofInt64_injective h.2.1, h.2.2⟩

theorem toJson_injective (h : p.toJson = q.toJson) : p = q := by
  -- the number of members tells whether there are base parameters
  have hparts : p.base = q.base ∧ p.plainMembers = q.plainMembers := by
    cases hp : p.base.isEmpty with
    | true =>
      rw [toJson_of_empty hp] at h
      cases hq : q.base.isEmpty with
      | true =>
        rw [toJson_of_empty hq] at h
        exact ⟨(Base.isEmpty_iff.mp hp).trans (Base.isEmpty_iff.mp hq).symm, Json.object.inj h⟩
      | false =>
        rw [toJson_of_base hq] at h
        exact absurd (congrArg List.length (Json.object.inj h)) (by simp [plainMembers])
    | false =>
      rw [toJson_of_base hp] at h
      cases hq : q.base.isEmpty with
      | true =>
        rw [toJson_of_empty hq] at h
        exact absurd (congrArg List.length (Json.object.inj h)) (by simp [plainMembers])
      | false =>
        rw [toJson_of_base hq] at h
        obtain ⟨hbase, hrest⟩ := List.cons.inj (Json.object.inj h)
        exact ⟨Base.ext_entries (Json.object.inj (Prod.mk.inj hbase).2), hrest⟩
  obtain ⟨hflag, hcount, hlabel⟩ := plainMembers_injective hparts.2
  obtain ⟨_, _, _, _⟩ := p
  obtain ⟨_, _, _, _⟩ := q
  simp_all

theorem text_eq_iff : p.toJson.text = q.toJson.text ↔ p = q := by
  constructor
  · intro h
    exact toJson_injective (Json.text_injective h)
  · rintro rfl
    rfl

theorem same_iff_text :
    (p.toJson.text = q.toJson.text ↔ p = q) ∧
    (p.same q = true ↔ p.plainZeros.toJson.text = q.plainZeros.toJson.text) ∧
    ∀ c : Connection, c.accepts q = true ↔
      c.parameters.plainZeros.toJson.text = q.plainZeros.toJson.text := by
  have hsame : ∀ r : Bundle, r.same q = true ↔ r.plainZeros.toJson.text = q.plainZeros.toJson.text :=
    fun r => same_iff_plainZeros.trans text_eq_iff.symm
  exact ⟨text_eq_iff, hsame p, fun c => hsame c.parameters⟩

theorem same_texts_differ :
    (holding (floatZero false)).Built ∧ (holding (floatZero true)).Built ∧
    (holding (floatZero false)).same (holding (floatZero true)) = true ∧
    (holding (floatZero false)).toJson.text ≠ (holding (floatZero true)).toJson.text :=
  ⟨built_holding _, built_holding _, by decide, by decide⟩

end Bundle

end PairCache
