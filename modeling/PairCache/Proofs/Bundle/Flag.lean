import PairCache.Proofs.Bundle.Derivation
import PairCache.Proofs.Json.Numbers

/-!
The flag of a derived bundle. It compares the inputs themselves and not their forms; for two texts, truth
values, characters or integers of one type this comes to the same (`derive_flag_iff`), since no two of
them have one form. Binary numbers are left out: both zeros are equal and have different forms, and what
is no number has one form but does not equal itself.
-/
namespace PairCache

namespace Input

variable {first second : Input} {a b : String}

/-- Two inputs of one type, whose forms are exact. -/
inductive OfOneType : Input → Input → Prop
  | text (kind : TextKind) (s t : String) : OfOneType (.text kind s) (.text kind t)
  | bool (b c : Bool) : OfOneType (.bool b) (.bool c)
  | char (c d : Char) : OfOneType (.char c) (.char d)
  | integer (kind : IntegerKind) (i j : Int) : OfOneType (.integer kind i) (.integer kind j)

theorem boolForm_injective {b c : Bool} (h : boolForm b = boolForm c) : b = c := by
  cases b <;> cases c <;> first | rfl | exact absurd h (by decide)

theorem OfOneType.exists_forms (h : OfOneType first second) :
    ∃ a b, first.form = .ok a ∧ second.form = .ok b := by
  cases h with
  | text kind s t => exact ⟨s, t, rfl, rfl⟩
  | bool b c => exact ⟨boolForm b, boolForm c, rfl, rfl⟩
  | char c d => exact ⟨String.singleton c, String.singleton d, rfl, rfl⟩
  | integer kind i j => exact ⟨Decimal.intText i, Decimal.intText j, rfl, rfl⟩

theorem OfOneType.eq_of_form (h : OfOneType first second) (hform : first.form = second.form) :
    first = second := by
  cases h with
  | text kind s t => rw [Except.ok.inj hform]
  | bool b c => rw [boolForm_injective (Except.ok.inj hform)]
  | char c d => rw [String.singleton_inj.mp (Except.ok.inj hform)]
  | integer kind i j => rw [Json.intText_injective (Except.ok.inj hform)]

theorem OfOneType.same_iff (h : OfOneType first second) : first.same second = true ↔ first = second := by
  cases h <;> simp [same]

theorem OfOneType.eq_iff_forms (h : OfOneType first second) (ha : first.form = .ok a)
    (hb : second.form = .ok b) : first = second ↔ a = b := by
  constructor
  · rintro rfl
    exact Except.ok.inj (ha.symm.trans hb)
  · rintro rfl
    exact h.eq_of_form (ha.trans hb.symm)

end Input

namespace Bundle

variable {first second : Input}

theorem derive_flag_iff (h : first.OfOneType second) :
    ∃ a b p, first.form = .ok a ∧ second.form = .ok b ∧ derive first second = .ok p ∧
      (p.flag = true ↔ a = b) ∧ (p.flag = true → p.count = 0 ∧ p.label = a ++ a) ∧
      (first ≠ second → a ≠ b) := by
  obtain ⟨a, b, ha, hb⟩ := h.exists_forms
  have hflag : first.same second = true ↔ a = b := h.same_iff.trans (h.eq_iff_forms ha hb)
  refine ⟨a, b, _, ha, hb, derive_of_forms ha hb, hflag, fun hset => ?_, fun hne heq => ?_⟩
  · obtain rfl := hflag.mp hset
    exact ⟨Int64.sub_self _, rfl⟩
  · exact hne ((h.eq_iff_forms ha hb).mpr heq)

theorem derive_flag_iff_least :
    Input.OfOneType (.integer .int128 (-170141183460469231731687303715884105728))
      (.integer .int128 (-170141183460469231731687303715884105727)) ∧
    ∃ p, derive (.integer .int128 (-170141183460469231731687303715884105728))
      (.integer .int128 (-170141183460469231731687303715884105727)) = .ok p ∧ p.flag = false := by
  have htype := Input.OfOneType.integer .int128 (-170141183460469231731687303715884105728)
    (-170141183460469231731687303715884105727)
  obtain ⟨a, b, p, -, -, hp, hflag, -, hne⟩ := derive_flag_iff htype
  exact ⟨htype, p, hp, Bool.eq_false_iff.mpr fun hset => hne (by decide) (hflag.mp hset)⟩

end Bundle

end PairCache
