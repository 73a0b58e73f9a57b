import PairCache.Number.Double
import PairCache.Time.Timestamp

/-!
Lengths of time, in seconds and the nanoseconds left over, both with the sign of the whole. Seconds are
counted in words of 64 bits and nanoseconds in words of 32, and what a word does not hold is no length of
time; the time from one point to another always is one, and exact (`sub?_sinceEpoch`).
-/
namespace PairCache

structure Duration where
  seconds : Int
  nanos : Int
deriving DecidableEq, Repr

namespace Duration

def ofNanos (n : Int) : Duration := ⟨n.tdiv Timestamp.perSecond, n.tmod Timestamp.perSecond⟩

def zero : Duration := ⟨0, 0⟩

def toNanos (d : Duration) : Int := d.seconds * Timestamp.perSecond + d.nanos

def isNegative (d : Duration) : Bool := decide (d.seconds < 0) || decide (d.nanos < 0)

def reversed (d : Duration) : Duration := ⟨-d.seconds, -d.nanos⟩

/-- The duration as one number, the seconds and the nanoseconds rounded apart before they are added. -/
def inSeconds (d : Duration) : Double :=
  (Double.ofInt d.seconds).add ((Double.ofInt d.nanos).div (Double.ofInt Timestamp.perSecond))

def word? (limit n : Int) : Option Int := if -limit ≤ n ∧ n < limit then some n else none

def ofParts? (seconds nanos : Int) : Option Duration := do
  return ⟨← word? 9223372036854775808 seconds, ← word? 2147483648 nanos⟩

def negate? (d : Duration) : Option Duration := ofParts? (-d.seconds) (-d.nanos)

def shift? (n : Int) (d : Duration) : Option Duration :=
  ofParts? (d.seconds + n) (d.nanos - n * Timestamp.perSecond)

def settle? (excess lack : Prop) [Decidable excess] [Decidable lack] (d : Duration) : Option Duration :=
  if excess then d.shift? 1 else if lack then d.shift? (-1) else some d

def carry? (d : Duration) : Option Duration :=
  d.settle? (Timestamp.perSecond ≤ d.nanos) (d.nanos ≤ -Timestamp.perSecond)

def align? (d : Duration) : Option Duration :=
  d.settle? (d.seconds < 0 ∧ 0 < d.nanos) (0 < d.seconds ∧ d.nanos < 0)

def add? (d e : Duration) : Option Duration := do
  let sum ← ofParts? (d.seconds + e.seconds) (d.nanos + e.nanos)
  (← sum.carry?).align?

def sub? (d e : Duration) : Option Duration := do d.add? (← e.negate?)

structure Aligned (d : Duration) : Prop where
  lower : -Timestamp.perSecond < d.nanos
  upper : d.nanos < Timestamp.perSecond
  sign : 0 ≤ d.seconds ∧ 0 ≤ d.nanos ∨ d.seconds ≤ 0 ∧ d.nanos ≤ 0

theorem Aligned.eq_of_toNanos {d e : Duration} (hd : d.Aligned) (he : e.Aligned)
    (h : d.toNanos = e.toNanos) : d = e := by
  obtain ⟨hdlower, hdupper, hdsign⟩ := hd
  obtain ⟨helower, heupper, hesign⟩ := he
  obtain ⟨ds, dn⟩ := d
  obtain ⟨es, en⟩ := e
  simp only [toNanos, Timestamp.perSecond] at *
  obtain rfl : ds = es := by omega
  obtain rfl : dn = en := by omega
  rfl

theorem toNanos_ofNanos (n : Int) : (ofNanos n).toNanos = n := by
  rw [toNanos, ofNanos, Int.mul_comm]
  exact Int.mul_tdiv_add_tmod n _

theorem ofNanos_neg (n : Int) : ofNanos (-n) = (ofNanos n).reversed := by
  rw [ofNanos, Int.neg_tdiv, Int.neg_tmod]
  rfl

theorem aligned_ofNanos (n : Int) : (ofNanos n).Aligned := by
  have hpos : 0 < Timestamp.perSecond := by decide
  have hsign : ∀ m : Int, 0 ≤ m → 0 ≤ (ofNanos m).seconds ∧ 0 ≤ (ofNanos m).nanos := fun m hm =>
    ⟨Int.tdiv_nonneg hm (Int.le_of_lt hpos), Int.tmod_nonneg _ hm⟩
  refine ⟨Int.lt_tmod_of_pos n hpos, Int.tmod_lt_of_pos n hpos, ?_⟩
  rcases Int.le_total 0 n with h | h
  · exact .inl (hsign n h)
  · have hneg := hsign (-n) (Int.neg_nonneg_of_nonpos h)
    rw [ofNanos_neg] at hneg
    exact .inr ⟨Int.neg_nonneg.mp hneg.1, Int.neg_nonneg.mp hneg.2⟩

theorem ofParts?_eq {seconds nanos : Int}
    (hs : -9000000000000000000 ≤ seconds ∧ seconds ≤ 9000000000000000000)
    (hn : -2000000000 ≤ nanos ∧ nanos ≤ 2000000000) : ofParts? seconds nanos = some ⟨seconds, nanos⟩ := by
  have hseconds : word? 9223372036854775808 seconds = some seconds := if_pos (by omega)
  have hnanos : word? 2147483648 nanos = some nanos := if_pos (by omega)
  simp only [ofParts?, hseconds, hnanos]
  rfl

variable {d e : Duration}

/-- Far from where the words for seconds end. -/
def Small (d : Duration) : Prop := -1000000000000 ≤ d.seconds ∧ d.seconds ≤ 1000000000000

theorem settle?_eq (excess lack : Prop) [Decidable excess] [Decidable lack]
    (hs : -8000000000000000000 ≤ d.seconds ∧ d.seconds ≤ 8000000000000000000)
    (hn : -2000000000 ≤ d.nanos ∧ d.nanos ≤ 2000000000) (hexcess : excess → 0 ≤ d.nanos)
    (hlack : lack → d.nanos ≤ 0) :
    ∃ n, d.settle? excess lack = some ⟨d.seconds + n, d.nanos - n * Timestamp.perSecond⟩ ∧
      (excess ∧ n = 1 ∨ ¬excess ∧ lack ∧ n = -1 ∨ ¬excess ∧ ¬lack ∧ n = 0) := by
  have hper : Timestamp.perSecond = 1000000000 := rfl
  unfold settle?
  by_cases he : excess
  · have hpos := hexcess he
    refine ⟨1, ?_, .inl ⟨he, rfl⟩⟩
    rw [if_pos he]
    exact ofParts?_eq (by omega) (by omega)
  by_cases hl : lack
  · have hneg := hlack hl
    refine ⟨-1, ?_, .inr (.inl ⟨he, hl, rfl⟩)⟩
    rw [if_neg he, if_pos hl]
    exact ofParts?_eq (by omega) (by omega)
  · refine ⟨0, ?_, .inr (.inr ⟨he, hl, rfl⟩)⟩
    rw [if_neg he, if_neg hl, Int.add_zero, Int.zero_mul, Int.sub_zero]

theorem exists_carry? (hs : -7000000000000000000 ≤ d.seconds ∧ d.seconds ≤ 7000000000000000000)
    (hn : -2000000000 < d.nanos ∧ d.nanos < 2000000000) :
    ∃ c, d.carry? = some c ∧ c.toNanos = d.toNanos ∧
      (d.seconds - 1 ≤ c.seconds ∧ c.seconds ≤ d.seconds + 1) ∧
      -Timestamp.perSecond < c.nanos ∧ c.nanos < Timestamp.perSecond := by
  have hper : Timestamp.perSecond = 1000000000 := rfl
  obtain ⟨n, hcarry, hn⟩ := settle?_eq (Timestamp.perSecond ≤ d.nanos)
    (d.nanos ≤ -Timestamp.perSecond) (d := d) (by omega) (by omega) (by omega) (by omega)
  refine ⟨_, hcarry, ?_, ?_, ?_⟩
  · simp only [toNanos, Int.add_mul]
    omega
  · simp only
    omega
  · rcases hn with ⟨hexcess, rfl⟩ | ⟨hexcess, hlack, rfl⟩ | ⟨hexcess, hlack, rfl⟩ <;> simp only <;> omega

theorem exists_align? (hs : -8000000000000000000 ≤ d.seconds ∧ d.seconds ≤ 8000000000000000000)
    (hn : -Timestamp.perSecond < d.nanos ∧ d.nanos < Timestamp.perSecond) :
    ∃ a, d.align? = some a ∧ a.toNanos = d.toNanos ∧ a.Aligned := by
  have hper : Timestamp.perSecond = 1000000000 := rfl
  obtain ⟨n, halign, hn⟩ := settle?_eq (d.seconds < 0 ∧ 0 < d.nanos)
    (0 < d.seconds ∧ d.nanos < 0) (d := d) (by omega) (by omega) (by omega) (by omega)
  refine ⟨_, halign, ?_, ?_⟩
  · simp only [toNanos, Int.add_mul]
    omega
  · rcases hn with ⟨hexcess, rfl⟩ | ⟨hexcess, hlack, rfl⟩ | ⟨hexcess, hlack, rfl⟩ <;>
      constructor <;> simp only <;> omega

theorem sub?_eq (hd : d.Aligned) (he : e.Aligned) (hds : d.Small) (hes : e.Small) :
    d.sub? e = some (ofNanos (d.toNanos - e.toNanos)) := by
  have hper : Timestamp.perSecond = 1000000000 := rfl
  obtain ⟨hdlower, hdupper, -⟩ := hd
  obtain ⟨helower, heupper, -⟩ := he
  obtain ⟨hds, hds'⟩ := hds
  obtain ⟨hes, hes'⟩ := hes
  have hneg : e.negate? = some e.reversed := ofParts?_eq (by omega) (by omega)
  let sum : Duration := ⟨d.seconds + -e.seconds, d.nanos + -e.nanos⟩
  have hsum : ofParts? (d.seconds + e.reversed.seconds) (d.nanos + e.reversed.nanos) = some sum :=
    ofParts?_eq (by simp only [reversed]; omega) (by simp only [reversed]; omega)
  obtain ⟨c, hcarry, hctotal, hcseconds, hcnanos⟩ := exists_carry? (d := sum)
    (by simp only [sum]; omega) (by simp only [sum]; omega)
  obtain ⟨a, halign, hatotal, haligned⟩ := exists_align? (d := c)
    (by simp only [sum] at hcseconds; omega) hcnanos
  have htotal : a.toNanos = (ofNanos (d.toNanos - e.toNanos)).toNanos := by
    rw [hatotal, hctotal, toNanos_ofNanos]
    simp only [toNanos, sum, Int.add_mul, Int.neg_mul]
    omega
  simp only [sub?, add?, hneg, hsum, hcarry, halign, bind, Option.bind]
  rw [haligned.eq_of_toNanos (aligned_ofNanos _) htotal]

end Duration

namespace Timestamp

def sinceEpoch (t : Timestamp) : Duration := .ofNanos t.nanos

theorem small_sinceEpoch (t : Timestamp) : t.sinceEpoch.Small := by
  have hrange := t.inRange
  have htotal := Duration.toNanos_ofNanos t.nanos
  obtain ⟨hlower, hupper, -⟩ := Duration.aligned_ofNanos t.nanos
  simp only [sinceEpoch, Duration.Small, Duration.toNanos, perSecond] at *
  omega

theorem sub?_sinceEpoch (s t : Timestamp) :
    t.sinceEpoch.sub? s.sinceEpoch = some (.ofNanos (t.nanos - s.nanos)) := by
  have hsub := Duration.sub?_eq (Duration.aligned_ofNanos t.nanos) (Duration.aligned_ofNanos s.nanos)
    t.small_sinceEpoch s.small_sinceEpoch
  rwa [Duration.toNanos_ofNanos, Duration.toNanos_ofNanos] at hsub

def since (t start : Timestamp) : Duration :=
  (t.sinceEpoch.sub? start.sinceEpoch).get (by rw [sub?_sinceEpoch]; rfl)

theorem since_eq (s t : Timestamp) : t.since s = .ofNanos (t.nanos - s.nanos) :=
  Option.get_of_eq_some _ (sub?_sinceEpoch s t)

end Timestamp

end PairCache
