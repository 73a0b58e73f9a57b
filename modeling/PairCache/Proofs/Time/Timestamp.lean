import PairCache.Proofs.Json.Scalars
import PairCache.Proofs.Number.Layout
import PairCache.Time.Timestamp

/-!
The text of a point in time is read back as that point (`read?_write`), for every point that there is. The
date is one of the years from -9999 to 9999, each number has as many digits as its place asks for, and the
decimals that are cut off are zeros.
-/
namespace PairCache

namespace Date

variable {n : Int}

theorem ofMarch_bounds {year month day : Int} (hm : 0 ≤ month ∧ month ≤ 11)
    (hd : 0 ≤ day ∧ day ≤ 30) :
    (1 ≤ (ofMarch year month day).month ∧ (ofMarch year month day).month ≤ 12) ∧
      1 ≤ (ofMarch year month day).day ∧ (ofMarch year month day).day ≤ 31 := by
  unfold ofMarch
  split
  · simp only
    omega
  · simp only
    omega

theorem dayOfMonth_bounds (day : Int) :
    0 ≤ day - monthDays (monthOfYear day) ∧ day - monthDays (monthOfYear day) ≤ 30 := by
  unfold monthDays monthOfYear
  omega

theorem ofDays_bounds (n : Int) :
    (1 ≤ (ofDays n).month ∧ (ofDays n).month ≤ 12) ∧ 1 ≤ (ofDays n).day ∧ (ofDays n).day ≤ 31 := by
  have hcycle : 0 ≤ (n + epoch) % 146097 ∧ (n + epoch) % 146097 < 146097 := by omega
  exact ofMarch_bounds (monthOfYear_bounds (dayOfYear_bounds hcycle)) (dayOfMonth_bounds _)

/-- The years of the days from -9999-01-01 to 9999-12-31. -/
theorem year_ofDays_bounds (h : -4371587 ≤ n ∧ n ≤ 2932896) :
    -9999 ≤ (ofDays n).year ∧ (ofDays n).year ≤ 9999 := by
  obtain ⟨hmonth, hday⟩ := ofDays_bounds n
  have hdays := toDays_ofDays n
  generalize ofDays n = d at *
  by_cases hspring : d.month ≤ 2
  · simp only [toDays, yearDays, monthDays, epoch, hspring, if_true] at hdays
    omega
  · simp only [toDays, yearDays, monthDays, epoch, hspring, if_false] at hdays
    omega

end Date

namespace Timestamp

variable {width n : Nat}

theorem length_padded (hw : 0 < width) (h : n < 10 ^ width) : (padded width n).length = width := by
  have hlength : (Decimal.ofNat n).length ≤ width :=
    (Nat.length_toDigits_le_iff (b := 10) (by decide) hw).mpr h
  rw [padded, List.length_append, List.length_replicate]
  omega

theorem digits_padded (width n : Nat) : Digits (padded width n) :=
  (digits_zeros _).append (digits_toDigits n)

theorem numeral_padded (width n : Nat) : numeral (padded width n) = n := by
  rw [padded, numeral_zeros_append]
  exact numeral_toDigits n

theorem digits?_padded (hw : 0 < width) (h : n < 10 ^ width) (rest : List Char) :
    Clock.digits? width (padded width n ++ rest) = some (n, rest) := by
  have hlength := length_padded hw h
  have hdigits : (padded width n).all Char.isDigit = true := List.all_eq_true.mpr (digits_padded width n)
  rw [Clock.digits?, List.take_left' hlength, List.drop_left' hlength, if_pos ⟨hlength, hdigits⟩]
  exact congrArg (fun m => some (m, rest)) (numeral_padded width n)

theorem two?_padded {limit : Nat} (hlimit : limit < 100) (hn : n ≤ limit) (rest : List Char) :
    Clock.two? limit (padded 2 n ++ rest) = some (n, rest) := by
  rw [Clock.two?, digits?_padded (by decide) (Nat.lt_of_le_of_lt hn hlimit)]
  simp [hn]

theorem padded_eq_cons (width n : Nat) :
    ∃ c cs, padded width n = c :: cs ∧ c.isDigit = true := by
  have hne : padded width n ≠ [] := List.append_ne_nil_of_right_ne_nil _ (Decimal.ofNat_ne_nil n)
  obtain ⟨c, cs, hcs⟩ := List.exists_cons_of_ne_nil hne
  exact ⟨c, cs, hcs, digits_padded width n c (hcs ▸ List.mem_cons_self)⟩

theorem year?_writeYear {year : Int} (h : -9999 ≤ year ∧ year ≤ 9999) (rest : List Char) :
    year? (writeYear year ++ rest) = some (year, rest) := by
  unfold writeYear
  split
  · rename_i hsign
    have hread := digits?_padded (n := year.toNat) (by decide : 0 < 4) (by omega) rest
    obtain ⟨c, cs, hcs, hc⟩ := padded_eq_cons 4 year.toNat
    rw [hcs, List.cons_append] at hread ⊢
    have hne : c ≠ '-' ∧ c ≠ '+' := by
      constructor
      · rintro rfl
        cases hc
      · rintro rfl
        cases hc
    unfold year?
    split
    · rename_i heq
      exact absurd (List.cons.inj heq).1 hne.1
    · rename_i heq
      exact absurd (List.cons.inj heq).1 hne.2
    · rw [hread]
      simp [hsign]
  · rename_i hsign
    have hread := digits?_padded (n := year.natAbs) (by decide : 0 < 6) (by omega) rest
    have hyear : ¬(year.natAbs = 0 ∨ 9999 < year.natAbs) := by omega
    have hneg : -(year.natAbs : Int) = year := by omega
    rw [List.cons_append, year?, hread]
    simp only [bind, Option.bind, hyear, if_false, hneg]
    rfl

theorem date?_writeDate {d : Date} (hyear : -9999 ≤ d.year ∧ d.year ≤ 9999)
    (hmonth : 1 ≤ d.month ∧ d.month ≤ 12) (hday : 1 ≤ d.day ∧ d.day ≤ 31) (hd : d.Exists)
    (rest : List Char) : date? (writeDate d ++ rest) = some (d, rest) := by
  have hm : ((d.month.toNat : Nat) : Int) = d.month := Int.toNat_of_nonneg (by omega)
  have hn : ((d.day.toNat : Nat) : Int) = d.day := Int.toNat_of_nonneg (by omega)
  simp only [date?, writeDate, List.append_assoc, List.cons_append, year?_writeYear hyear, hyphen?,
    List.head?_cons, two?_padded (n := d.month.toNat) (by decide : 12 < 100) (by omega),
    two?_padded (n := d.day.toNat) (by decide : 31 < 100) (by omega), hm, hn, hd, bind,
    Option.bind, beq_self_eq_true, if_true]
  rfl

theorem exists_zeros (cs : List Char) :
    ∃ zeros, cs = (cs.reverse.dropWhile (· == '0')).reverse ++ List.replicate zeros '0' := by
  have hzeros : ∀ c ∈ cs.reverse.takeWhile (· == '0'), c = '0' :=
    fun c hc => by simpa using List.mem_takeWhile_imp hc
  refine ⟨(cs.reverse.takeWhile (· == '0')).length, ?_⟩
  calc cs = (cs.reverse.takeWhile (· == '0') ++ cs.reverse.dropWhile (· == '0')).reverse := by
        rw [List.takeWhile_append_dropWhile, List.reverse_reverse]
    _ = _ := by
      rw [List.reverse_append, ← List.reverse_replicate, ← List.eq_replicate_of_mem hzeros]

structure Decimals (n : Nat) (ds : List Char) (zeros : Nat) : Prop where
  digits : Digits ds
  length : ds.length + zeros = 9
  value : numeral ds * 10 ^ zeros = n

theorem decimals_of_lt (h : n < 1000000000) :
    ∃ zeros, Decimals n ((padded 9 n).reverse.dropWhile (· == '0')).reverse zeros := by
  obtain ⟨zeros, hzeros⟩ := exists_zeros (padded 9 n)
  have hlength := length_padded (by decide : 0 < 9) h
  have hnumeral := numeral_padded 9 n
  refine ⟨zeros, fun c hc => ?_, ?_, ?_⟩
  · refine digits_padded 9 n c ?_
    rw [hzeros]
    exact List.mem_append_left _ hc
  · rwa [hzeros, List.length_append, List.length_replicate] at hlength
  · rw [hzeros, numeral_append_zeros] at hnumeral
    rw [Nat.mul_comm]
    exact hnumeral

theorem Decimals.fraction? {ds : List Char} {zeros : Nat} (h : Decimals n ds zeros) (hn : n ≠ 0)
    (rest : List Char) :
    Clock.fraction? ('.' :: (ds ++ 'Z' :: rest)) = some (n, 'Z' :: rest) := by
  have hne : ds ≠ [] := by
    rintro rfl
    exact hn (by rw [← h.value, numeral, Nat.ofDigitChars_nil, Nat.zero_mul])
  have hstop : ∀ c ∈ (('Z' :: rest).take zeros).head?, c.isDigit = false := by
    intro c hc
    cases zeros with
    | zero => cases hc
    | succ zeros =>
      obtain rfl := Option.some.inj hc
      rfl
  have htake : (ds ++ 'Z' :: rest).take 9 = ds ++ ('Z' :: rest).take zeros := by
    rw [← h.length, List.take_length_add_append]
  have hhead : ((ds ++ 'Z' :: rest).take 9).takeWhile Char.isDigit = ds := by
    rw [htake]
    exact (Json.span_append h.digits hstop).1
  have hzeros : 9 - ds.length = zeros := by
    rw [← h.length, Nat.add_sub_cancel_left]
  have hvalue : Nat.ofDigitChars 10 ds 0 * Nat.pow 10 zeros = n := h.value
  rw [Clock.fraction?, if_pos (.inl rfl)]
  simp only [hhead, hzeros, hvalue, List.isEmpty_eq_false_iff.mpr hne, Bool.false_eq_true, if_false,
    List.drop_left]

theorem fraction?_writeFraction (h : n < 1000000000) (rest : List Char) :
    Clock.fraction? (writeFraction n ++ 'Z' :: rest) = some (n, 'Z' :: rest) := by
  unfold writeFraction
  split
  · rename_i hn
    rw [hn]
    rfl
  · rename_i hn
    obtain ⟨zeros, hdecimals⟩ := decimals_of_lt h
    exact hdecimals.fraction? hn rest

theorem read?_writeClock {second : Nat} (hsecond : second < 86400) (hn : n < 1000000000)
    (rest : List Char) :
    Clock.read? 23 60 (writeClock second ++ (writeFraction n ++ 'Z' :: rest)) =
      some (second * 1000000000 + n, 'Z' :: rest) := by
  have hsum : (second / 3600 * 60 + second / 60 % 60) * 60 + min (second % 60) 59 = second := by
    omega
  simp only [Clock.read?, writeClock, List.append_assoc, List.cons_append, Clock.more?,
    List.head?_cons, two?_padded (n := second / 3600) (by decide : 23 < 100) (by omega),
    two?_padded (n := second / 60 % 60) (by decide : 59 < 100) (by omega),
    two?_padded (n := second % 60) (by decide : 60 < 100) (by omega),
    fraction?_writeFraction hn, bind, Option.bind, beq_self_eq_true, if_true, hsum]
  rfl

theorem days_bounds (t : Timestamp) :
    -4371587 ≤ t.nanos / perSecond / perDay ∧ t.nanos / perSecond / perDay ≤ 2932896 := by
  have hrange := t.inRange
  unfold perSecond perDay
  omega

theorem read?_write (t : Timestamp) : read? t.write = some t := by
  obtain ⟨hmonth, hday⟩ := Date.ofDays_bounds (t.nanos / perSecond / perDay)
  have hyear := Date.year_ofDays_bounds t.days_bounds
  have hexists := Date.exists_ofDays (t.nanos / perSecond / perDay)
  have hsecond : (t.nanos / perSecond % perDay).toNat < 86400 := by
    unfold perDay
    omega
  have hnano : (t.nanos % perSecond).toNat < 1000000000 := by
    unfold perSecond
    omega
  have hsum : (t.nanos / perSecond / perDay * perDay - 0) * perSecond +
      (((t.nanos / perSecond % perDay).toNat * 1000000000 + (t.nanos % perSecond).toNat : Nat) : Int) =
        t.nanos := by
    unfold perDay perSecond
    omega
  have hnotes : Annotation.all [] = true := rfl
  have hrange : ofNanos? t.nanos = some t := dif_pos t.inRange
  simp only [read?, write, List.append_assoc, List.cons_append,
    date?_writeDate hyear hmonth hday hexists, read?_writeClock hsecond hnano, offset?,
    Date.toDays_ofDays, bind, Option.bind, true_or, if_true]
  rw [if_pos hnotes, hsum, hrange]

end Timestamp

end PairCache
