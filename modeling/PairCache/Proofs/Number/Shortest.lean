import PairCache.Number.Shortest
import PairCache.Proofs.Number.Binary
import Mathlib.Data.Rat.Cast.Order
import Mathlib.Tactic.Linarith
import Mathlib.Tactic.Positivity

/-!
The shortest decimal names its magnitude (`decimal_names`), and no decimal names two magnitudes
(`Names.unique`). On the last of the grids that are searched, a step is less than the way from one
midpoint to the other, so there is always a hit.
-/
namespace PairCache

namespace BinaryFormat

variable (f : BinaryFormat)

def lower (m : Nat) : Nat := f.units (m - 1) + f.units m

/-- The midpoint to the neighbour above, in half steps. -/
def upper (m : Nat) : Nat := f.units m + f.units (m + 1)

def halfSteps (x : ℚ) : ℚ := x * 2 ^ (f.scale + 1)

def Names (m : Nat) (x : ℚ) : Prop :=
  if m % 2 = 0 then (f.lower m : ℚ) ≤ f.halfSteps x ∧ f.halfSteps x ≤ f.upper m
  else (f.lower m : ℚ) < f.halfSteps x ∧ f.halfSteps x < f.upper m

variable {f} {m n : Nat} {x : ℚ}

theorem Names.bounds (h : f.Names m x) :
    (f.lower m : ℚ) ≤ f.halfSteps x ∧ f.halfSteps x ≤ f.upper m := by
  unfold Names at h
  split at h
  · exact h
  · exact ⟨h.1.le, h.2.le⟩

theorem Names.inside (h : f.Names m x) (hodd : m % 2 ≠ 0) :
    (f.lower m : ℚ) < f.halfSteps x ∧ f.halfSteps x < f.upper m := by
  rwa [Names, if_neg hodd] at h

theorem Names.pos (h : f.Names m x) (hm : 0 < m) : 0 < x := by
  have hlower : (0 : ℚ) < f.lower m := by
    exact_mod_cast Nat.add_pos_right _ (f.units_pos hm)
  have hsteps : 0 < x * 2 ^ (f.scale + 1) := lt_of_lt_of_le hlower h.bounds.1
  exact pos_of_mul_pos_left hsteps (by positivity)

theorem upper_lt_lower (h : m + 1 < n) : f.upper m < f.lower n := by
  have hlast : f.units m < f.units (n - 1) := f.units_strictMono (by omega)
  have hnext : f.units (m + 1) < f.units n := f.units_strictMono h
  exact Nat.add_lt_add hlast hnext

/-- Neighbours share a midpoint, which names the even one of them. -/
theorem Names.not_of_lt (h : f.Names m x) (hlt : m < n) : ¬f.Names n x := by
  intro k
  have hupper := h.bounds.2
  have hlower := k.bounds.1
  rcases Nat.lt_or_eq_of_le hlt with hfar | rfl
  · have hapart : (f.upper m : ℚ) < f.lower n := by exact_mod_cast upper_lt_lower hfar
    linarith
  · have hshared : f.lower (m + 1) = f.upper m := rfl
    rw [hshared] at hlower
    rcases Nat.mod_two_eq_zero_or_one m with heven | hodd
    · have hstrict := (k.inside (by omega)).1
      rw [hshared] at hstrict
      linarith
    · have hstrict := (h.inside (by omega)).2
      linarith

theorem Names.unique (h : f.Names m x) (k : f.Names n x) : m = n := by
  rcases Nat.lt_trichotomy m n with hlt | heq | hgt
  · exact absurd k (h.not_of_lt hlt)
  · exact heq
  · exact absurd h (k.not_of_lt hgt)

end BinaryFormat

theorem ten_zpow_mul (e : Int) : (10 : ℚ) ^ e * 10 ^ (-e).toNat = 10 ^ e.toNat := by
  obtain ⟨n, rfl | rfl⟩ := e.eq_nat_or_neg
  · simp
  · simp

/-- A point of the grid with step `10 ^ e`, in parts of which a half step has `10 ^ (-e).toNat`. -/
theorem grid_point (k s : Nat) (e : Int) : (k * (10 ^ e.toNat * 2 ^ s) : ℚ) =
    k * 10 ^ e * 2 ^ s * 10 ^ (-e).toNat := by
  rw [← ten_zpow_mul e]
  ring

theorem parts_le_iff (a k s : Nat) (e : Int) :
    a * 10 ^ (-e).toNat ≤ k * (10 ^ e.toNat * 2 ^ s) ↔ (a : ℚ) ≤ k * 10 ^ e * 2 ^ s := by
  have hpos : (0 : ℚ) < 10 ^ (-e).toNat := by positivity
  rw [← mul_le_mul_iff_of_pos_right hpos, ← grid_point]
  exact_mod_cast Iff.rfl

theorem le_parts_iff (a k s : Nat) (e : Int) :
    k * (10 ^ e.toNat * 2 ^ s) ≤ a * 10 ^ (-e).toNat ↔ k * 10 ^ e * 2 ^ s ≤ (a : ℚ) := by
  have hpos : (0 : ℚ) < 10 ^ (-e).toNat := by positivity
  rw [← mul_le_mul_iff_of_pos_right hpos, ← grid_point]
  exact_mod_cast Iff.rfl

namespace Scientific

def value (s : Scientific) : ℚ := s.digits * 10 ^ s.exponent

end Scientific

namespace Shortest

variable {f : BinaryFormat} {tie : Tie} {g : Grid} {m k : Nat} {e : Int}

theorem covers_iff : (Grid.of f m e).covers k = true ↔ f.Names m (k * 10 ^ e) := by
  have hlower := parts_le_iff (f.lower m) k (f.scale + 1) e
  have hupper := le_parts_iff (f.upper m) k (f.scale + 1) e
  have hlower' := le_parts_iff (f.lower m) k (f.scale + 1) e
  have hupper' := parts_le_iff (f.upper m) k (f.scale + 1) e
  simp only [BinaryFormat.lower, BinaryFormat.upper] at hlower hupper hlower' hupper'
  simp only [Grid.covers, Grid.of, BinaryFormat.Names, BinaryFormat.halfSteps, BinaryFormat.lower,
    BinaryFormat.upper, Nat.pow_eq, beq_iff_eq]
  split
  · simp only [Bool.and_eq_true, decide_eq_true_eq, hlower, hupper]
  · simp only [Bool.and_eq_true, decide_eq_true_eq, ← not_le, hlower', hupper']

theorem pick_cases (g : Grid) (tie : Tie) :
    (g.pick tie = none ∧ g.covers (g.value / g.step) = false ∧
      g.covers (g.value / g.step + 1) = false) ∨
    ∃ k, g.pick tie = some k ∧ g.covers k = true := by
  unfold Grid.pick
  cases hbelow : g.covers (g.value / g.step) with
  | false =>
    cases hnext : g.covers (g.value / g.step + 1) with
    | false => simp [hbelow, hnext]
    | true => simp [hbelow, hnext]
  | true =>
    cases hnext : g.covers (g.value / g.step + 1) with
    | false => simp [hbelow, hnext]
    | true =>
      simp only [hbelow, hnext]
      -- the even one of the two points is one of the two
      have heven : g.value / g.step + g.value / g.step % 2 = g.value / g.step ∨
          g.value / g.step + g.value / g.step % 2 = g.value / g.step + 1 := by omega
      refine .inr ?_
      split
      · exact ⟨_, rfl, hbelow⟩
      split
      · exact ⟨_, rfl, hnext⟩
      cases tie with
      | even =>
        refine ⟨_, rfl, ?_⟩
        rcases heven with heven | heven <;> rw [heven] <;> assumption
      | up => exact ⟨_, rfl, hnext⟩

theorem covers_of_pick (h : g.pick tie = some k) : g.covers k = true := by
  rcases pick_cases g tie with ⟨hnone, _, _⟩ | ⟨j, hj, hcovers⟩
  · rw [hnone] at h
    cases h
  · rw [hj] at h
    cases h
    exact hcovers

theorem exists_pick (h : g.covers (g.value / g.step) = true ∨ g.covers (g.value / g.step + 1) = true) :
    ∃ k, g.pick tie = some k := by
  rcases pick_cases g tie with ⟨_, hbelow, hnext⟩ | ⟨k, hk, _⟩
  · rw [hbelow, hnext] at h
    simp at h
  · exact ⟨k, hk⟩

theorem covers_of_between (hlow : g.low < k * g.step) (hhigh : k * g.step < g.high) :
    g.covers k = true := by
  rw [Grid.covers]
  split
  · simp [hlow.le, hhigh.le]
  · simp [hlow, hhigh]

theorem exists_pick_of_step {w : Nat} (hpos : 0 < g.step) (hstep : g.step < 2 * w)
    (hlow : g.low + w ≤ g.value) (hhigh : g.value + w ≤ g.high) : ∃ k, g.pick tie = some k := by
  have hvalue : g.value / g.step * g.step + g.value % g.step = g.value := Nat.div_add_mod' _ _
  have hrest : g.value % g.step < g.step := Nat.mod_lt _ hpos
  have hnext : (g.value / g.step + 1) * g.step = g.value / g.step * g.step + g.step := by ring
  apply exists_pick
  -- of the two points around the value, one is less than `w` away
  rcases Nat.lt_or_ge (g.value % g.step) w with hnear | hfar
  · exact .inl (covers_of_between (by omega) (by omega))
  · exact .inr (covers_of_between (by omega) (by omega))

theorem step_lt_of_le (hf : 2 * f.leading < 10 ^ 16)
    (he : (10 : ℚ) ^ (e + 16) * 2 ^ f.scale ≤ f.units (m + 1)) :
    (Grid.of f (m + 1) e).step < 2 * (f.gap m * 10 ^ (-e).toNat) := by
  have hunits : (f.units (m + 1) : ℚ) ≤ 2 * f.leading * f.gap m := by
    exact_mod_cast f.units_succ_le m
  have hgap : (0 : ℚ) < f.gap m := by exact_mod_cast f.gap_pos m
  have hleading : (2 * f.leading : ℚ) < 10 ^ 16 := by exact_mod_cast hf
  -- a magnitude has less than `2 * leading` gaps, and the step is a part of it in `10 ^ 16`
  have hpoint : (1 : ℕ) * (10 : ℚ) ^ e * 2 ^ f.scale < f.gap m := by
    rw [zpow_add₀ (by norm_num)] at he
    have hscaled : (10 : ℚ) ^ e * 2 ^ f.scale * 10 ^ 16 < f.gap m * 10 ^ 16 := by
      calc (10 : ℚ) ^ e * 2 ^ f.scale * 10 ^ 16
        _ = 10 ^ e * 10 ^ (16 : ℤ) * 2 ^ f.scale := by norm_cast; ring
        _ ≤ f.units (m + 1) := he
        _ ≤ 2 * f.leading * f.gap m := hunits
        _ < 10 ^ 16 * f.gap m := by gcongr
        _ = f.gap m * 10 ^ 16 := by ring
    have hlt := lt_of_mul_lt_mul_right hscaled (by positivity)
    simpa using hlt
  have hparts := (parts_le_iff (f.gap m) 1 f.scale e).not.mpr (not_le.mpr hpoint)
  have hstep : (Grid.of f (m + 1) e).step = 2 * (10 ^ e.toNat * 2 ^ f.scale) := by
    simp only [Grid.of, Nat.pow_eq, pow_succ]
    ring
  omega

theorem pick_last (hf : 2 * f.leading < 10 ^ 16)
    (he : (10 : ℚ) ^ (e + 16) * 2 ^ f.scale ≤ f.units (m + 1)) :
    ∃ k, (Grid.of f (m + 1) e).pick tie = some k := by
  have hgap := f.gap_le_gap_succ m
  have hunits := f.units_succ m
  have hnext := f.units_succ (m + 1)
  refine exists_pick_of_step (w := f.gap m * 10 ^ (-e).toNat) ?_ (step_lt_of_le hf he) ?_ ?_
  · simp only [Grid.of, Nat.pow_eq]
    positivity
  · simp only [Grid.of, Nat.pow_eq, Nat.add_sub_cancel, ← Nat.add_mul]
    apply Nat.mul_le_mul_right
    omega
  · simp only [Grid.of, Nat.pow_eq, ← Nat.add_mul]
    apply Nat.mul_le_mul_right
    omega

theorem search_names {fuel n : Nat} (hn : n < fuel)
    (h : ∃ k, (Grid.of f m (e - n)).pick tie = some k) :
    f.Names m (search f tie m fuel e).value := by
  induction fuel generalizing n e with
  | zero => omega
  | succ fuel ih =>
    rw [search]
    split
    -- a hit before the grid that is known to have one is as good
    · rename_i k hpick
      exact covers_iff.mp (covers_of_pick hpick)
    · rename_i hnone
      cases n with
      | zero =>
        obtain ⟨k, hk⟩ := h
        rw [Nat.cast_zero, sub_zero, hnone] at hk
        cases hk
      | succ n =>
        apply ih (n := n) (Nat.lt_of_succ_lt_succ hn)
        have hexponent : e - 1 - (n : Int) = e - ((n + 1 : Nat) : Int) := by omega
        rwa [hexponent]

theorem le_of_length_toDigits {n : Nat} (hn : 0 < n) :
    10 ^ ((Nat.toDigits 10 n).length - 1) ≤ n := by
  rcases Nat.eq_zero_or_pos ((Nat.toDigits 10 n).length - 1) with hzero | hpos
  · rw [hzero]
    exact hn
  · by_contra hlt
    have hlength := (Nat.length_toDigits_le_iff (b := 10) (by decide) hpos).mpr (not_le.mp hlt)
    omega

theorem lt_of_length_toDigits (n : Nat) : n < 10 ^ (Nat.toDigits 10 n).length :=
  (Nat.length_toDigits_le_iff (by decide) Nat.length_toDigits_pos).mp (Nat.le_refl _)

theorem leadingExponent_le {n d : Nat} (hn : 0 < n) (hd : 0 < d) :
    (10 : ℚ) ^ leadingExponent n d * d ≤ n := by
  rw [leadingExponent]
  split
  · rename_i hle
    have hquotient := le_of_length_toDigits (Nat.div_pos hle hd)
    have hlength : 0 < (Nat.toDigits 10 (n / d)).length := Nat.length_toDigits_pos
    have hexponent : ((Nat.toDigits 10 (n / d)).length : Int) - 1 =
        ((Nat.toDigits 10 (n / d)).length - 1 : Nat) := by omega
    rw [hexponent, zpow_natCast]
    exact_mod_cast (Nat.le_div_iff_mul_le hd).mp hquotient
  · simp only
    have hlength : 0 < (Nat.toDigits 10 (d / n)).length := Nat.length_toDigits_pos
    split
    · rename_i heq
      have hexponent : (1 : Int) - (Nat.toDigits 10 (d / n)).length =
          -((Nat.toDigits 10 (d / n)).length - 1 : Nat) := by omega
      have hpos : (0 : ℚ) < 10 ^ ((Nat.toDigits 10 (d / n)).length - 1) := by positivity
      rw [hexponent, zpow_neg, zpow_natCast, inv_mul_le_iff₀ hpos, mul_comm]
      exact_mod_cast heq.ge
    · have hquotient := lt_of_length_toDigits (d / n)
      have hpos : (0 : ℚ) < 10 ^ (Nat.toDigits 10 (d / n)).length := by positivity
      rw [zpow_neg, zpow_natCast, inv_mul_le_iff₀ hpos]
      exact_mod_cast ((Nat.div_lt_iff_lt_mul hn).mp hquotient).le

theorem leading_value (s : Scientific) : (leading s).value = s.value := by
  rw [leading]
  split
  · rename_i hten
    rw [Scientific.value, Scientific.value, hten, zpow_add₀ (by norm_num)]
    push_cast
    ring
  · rfl

theorem decimal_names (hf : 2 * f.leading < 10 ^ 16) (tie : Tie) (hm : 0 < m) :
    f.Names m (decimal f tie m).value := by
  rw [decimal, if_neg (Nat.ne_of_gt hm), leading_value]
  obtain ⟨m, rfl⟩ := Nat.exists_eq_add_one.mpr hm
  -- the seventeenth grid, with a step of sixteen places below the first digit
  refine search_names (n := 16) (by decide) (pick_last hf ?_)
  have hleading := leadingExponent_le (f.units_pos hm) (Nat.two_pow_pos f.scale)
  simpa using hleading

theorem decimal_zero (f : BinaryFormat) (tie : Tie) : (decimal f tie 0).value = 0 := by
  simp [decimal, Scientific.value]

theorem decimal_injective (hf : 2 * f.leading < 10 ^ 16) {n : Nat}
    (h : (decimal f tie m).value = (decimal f tie n).value) : m = n := by
  rcases Nat.eq_zero_or_pos m with rfl | hm
  · rcases Nat.eq_zero_or_pos n with rfl | hn
    · rfl
    · rw [decimal_zero] at h
      exact absurd h ((decimal_names hf tie hn).pos hn).ne
  · rcases Nat.eq_zero_or_pos n with rfl | hn
    · rw [decimal_zero] at h
      exact absurd h ((decimal_names hf tie hm).pos hm).ne'
    · exact (decimal_names hf tie hm).unique (h ▸ decimal_names hf tie hn)

end Shortest

end PairCache
