/-!
Days of the proleptic Gregorian calendar, counted from 1970-01-01. Years begin in March while counting,
so that a leap day is the last day of its year; 400 such years are 146097 days. Counting the days of
the date of a day leads back to it (`toDays_ofDays`).
-/
namespace PairCache

structure Date where
  year : Int
  month : Int
  day : Int
deriving DecidableEq, Repr

namespace Date

/-- Days from the first of March of year zero to 1970-01-01. -/
def epoch : Int := 719468

def yearDays (year : Int) : Int := 365 * year + year / 4 - year / 100

/-- The days before month `month` of a year that begins in March, as month 0. -/
def monthDays (month : Int) : Int := (153 * month + 2) / 5

/-- The year, of 400, that a day of the cycle is in: the last century and the last year of four have
one day more than the others. -/
def yearOfCycle (day : Int) : Int :=
  let century := min 3 (day / 36524)
  let dayOfCentury := day - 36524 * century
  100 * century + 4 * (dayOfCentury / 1461) + min 3 (dayOfCentury % 1461 / 365)

def monthOfYear (day : Int) : Int := (5 * day + 2) / 153

def ofMarch (year month day : Int) : Date where
  year := if month < 10 then year else year + 1
  month := if month < 10 then month + 3 else month - 9
  day := day + 1

def toDays (d : Date) : Int :=
  let year := if d.month ≤ 2 then d.year - 1 else d.year
  let month := if d.month ≤ 2 then d.month + 9 else d.month - 3
  year / 400 * 146097 + yearDays (year % 400) + monthDays month + d.day - 1 - epoch

def ofDays (n : Int) : Date :=
  let day := (n + epoch) % 146097
  let year := yearOfCycle day
  let dayOfYear := day - yearDays year
  let month := monthOfYear dayOfYear
  ofMarch (year + 400 * ((n + epoch) / 146097)) month (dayOfYear - monthDays month)

def Exists (d : Date) : Prop := ofDays d.toDays = d

instance (d : Date) : Decidable d.Exists := inferInstanceAs (Decidable (_ = _))

theorem yearOfCycle_bounds {day : Int} (h : 0 ≤ day ∧ day < 146097) :
    0 ≤ yearOfCycle day ∧ yearOfCycle day < 400 := by
  simp only [yearOfCycle]
  omega

theorem dayOfYear_bounds {day : Int} (h : 0 ≤ day ∧ day < 146097) :
    0 ≤ day - yearDays (yearOfCycle day) ∧ day - yearDays (yearOfCycle day) ≤ 365 := by
  simp only [yearDays, yearOfCycle]
  have hc : 0 ≤ min 3 (day / 36524) ∧ min 3 (day / 36524) ≤ 3 := by omega
  have hr : 0 ≤ day - 36524 * min 3 (day / 36524) ∧ day - 36524 * min 3 (day / 36524) ≤ 36524 := by
    omega
  generalize min 3 (day / 36524) = century at *
  generalize hq : (day - 36524 * century) / 1461 = quad
  generalize hy : min 3 ((day - 36524 * century) % 1461 / 365) = year
  have h4 : (100 * century + 4 * quad + year) / 4 = 25 * century + quad := by omega
  have h100 : (100 * century + 4 * quad + year) / 100 = century := by omega
  rw [h4, h100]
  omega

theorem monthOfYear_bounds {day : Int} (h : 0 ≤ day ∧ day ≤ 365) :
    0 ≤ monthOfYear day ∧ monthOfYear day ≤ 11 := by
  unfold monthOfYear
  omega

theorem toDays_ofMarch {year month day : Int} (h : 0 ≤ month ∧ month ≤ 11) :
    (ofMarch year month day).toDays =
      year / 400 * 146097 + yearDays (year % 400) + monthDays month + day - epoch := by
  unfold toDays ofMarch
  by_cases hm : month < 10
  · rw [if_pos hm, if_pos hm, if_neg (by simp only; omega), if_neg (by simp only; omega)]
    simp only [Int.add_sub_cancel]
    omega
  · rw [if_neg hm, if_neg hm, if_pos (by simp only; omega), if_pos (by simp only; omega)]
    simp only [Int.add_sub_cancel, Int.sub_add_cancel]
    omega

theorem toDays_ofDays (n : Int) : (ofDays n).toDays = n := by
  have hd : 0 ≤ (n + epoch) % 146097 ∧ (n + epoch) % 146097 < 146097 := by omega
  have hy := yearOfCycle_bounds hd
  rw [ofDays, toDays_ofMarch (monthOfYear_bounds (dayOfYear_bounds hd))]
  generalize yearOfCycle ((n + epoch) % 146097) = year at hy
  rw [show (year + 400 * ((n + epoch) / 146097)) / 400 = (n + epoch) / 146097 by omega,
    show (year + 400 * ((n + epoch) / 146097)) % 400 = year by omega]
  omega

theorem exists_ofDays (n : Int) : (ofDays n).Exists := by
  rw [Exists, toDays_ofDays]

end Date

end PairCache
