import PairCache.Number.Double
import Mathlib.Order.Monotone.Basic
import Mathlib.Tactic.Ring

/-!
Magnitudes in order. The number that a magnitude stands for grows with it, by a `gap` that never gets
smaller, so two magnitudes never stand for the same number.
-/
namespace PairCache

namespace BinaryFormat

variable (f : BinaryFormat)

def gap (magnitude : Nat) : Nat := 2 ^ (magnitude / f.leading - 1)

theorem gap_pos (m : Nat) : 0 < f.gap m := Nat.two_pow_pos _

theorem gap_le_gap_succ (m : Nat) : f.gap m ≤ f.gap (m + 1) := by
  apply Nat.pow_le_pow_right (by decide)
  have hdiv : m / f.leading ≤ (m + 1) / f.leading := Nat.div_le_div_right (Nat.le_succ m)
  omega

theorem units_eq (m : Nat) : f.units m =
    (m % f.leading + if m / f.leading = 0 then 0 else f.leading) * f.gap m := by
  unfold units gap
  split
  · rename_i hzero
    have hlt : m < f.leading := Nat.lt_of_div_eq_zero f.leading_pos hzero
    rw [Nat.mod_eq_of_lt hlt, hzero]
    simp
  · rfl

theorem succ_div_mod {m l : Nat} (hl : 0 < l) :
    ((m + 1) / l = m / l ∧ (m + 1) % l = m % l + 1) ∨
    ((m + 1) / l = m / l + 1 ∧ (m + 1) % l = 0 ∧ m % l + 1 = l) := by
  have hmod : m % l < l := Nat.mod_lt m hl
  have hm : l * (m / l) + m % l = m := Nat.div_add_mod m l
  rcases Nat.lt_or_ge (m % l + 1) l with hlt | hge
  · have hsum : m + 1 = (m % l + 1) + l * (m / l) := by omega
    refine .inl ⟨?_, ?_⟩
    · rw [hsum, Nat.add_mul_div_left _ _ hl, Nat.div_eq_of_lt hlt, Nat.zero_add]
    · rw [hsum, Nat.add_mul_mod_self_left, Nat.mod_eq_of_lt hlt]
  · have hlast : m % l + 1 = l := by omega
    have hsum : m + 1 = l * (m / l + 1) := by
      rw [Nat.mul_add]
      omega
    refine .inr ⟨?_, ?_, hlast⟩
    · rw [hsum, Nat.mul_div_cancel_left _ hl]
    · rw [hsum, Nat.mul_mod_right]

theorem units_succ (m : Nat) : f.units (m + 1) = f.units m + f.gap m := by
  rw [units_eq, units_eq]
  -- the bits behind the leading one go up by one, or are all set and begin anew
  rcases succ_div_mod (m := m) f.leading_pos with ⟨hdiv, hmod⟩ | ⟨hdiv, hmod, hlast⟩
  · rw [gap, gap, hdiv, hmod]
    ring
  · rw [gap, gap, hdiv, hmod, if_neg (Nat.succ_ne_zero _)]
    split
    · rename_i hzero
      rw [hzero]
      simp
      omega
    · rename_i hpos
      obtain ⟨e, he⟩ := Nat.exists_eq_add_one_of_ne_zero hpos
      have hleading : m % f.leading + f.leading + 1 = 2 * f.leading := by omega
      rw [he, Nat.add_sub_cancel, Nat.add_sub_cancel, ← Nat.succ_mul, Nat.succ_eq_add_one,
        hleading, pow_succ]
      ring

theorem units_succ_le (m : Nat) : f.units (m + 1) ≤ 2 * f.leading * f.gap m := by
  have hmod : m % f.leading < f.leading := Nat.mod_lt m f.leading_pos
  rw [units_succ, units_eq, ← Nat.succ_mul]
  apply Nat.mul_le_mul_right
  split <;> omega

theorem units_strictMono : StrictMono f.units :=
  strictMono_nat_of_lt_succ fun m => by
    rw [units_succ]
    exact Nat.lt_add_of_pos_right (f.gap_pos m)

end BinaryFormat

namespace Double

/-- The number as a count of smallest steps, with its sign; both zeros are none. -/
def steps (x : Double) : Int := if x.negative then -(x.units : Int) else x.units

theorem units_eq_zero {x : Double} : x.units = 0 ↔ x.magnitude = 0 := by
  have hzero := BinaryFormat.double.units_strictMono.injective.eq_iff (a := x.magnitude) (b := 0)
  rwa [BinaryFormat.units_zero] at hzero

theorem same_iff_steps {x y : Double} : x.same y = true ↔ x.steps = y.steps := by
  have hunits : x.units = y.units ↔ x.magnitude = y.magnitude :=
    BinaryFormat.double.units_strictMono.injective.eq_iff
  have hzero := units_eq_zero (x := x)
  simp only [same, steps, Bool.and_eq_true, Bool.or_eq_true, beq_iff_eq]
  cases x.negative <;> cases y.negative <;> simp <;> omega

end Double

end PairCache
