import PairCache.Proofs.Json.Scalars
import PairCache.Proofs.Number.Layout

/-!
The texts of numbers. Two numbers never have the same text: a number that is not whole shows a point or
an exponent, its digits name its magnitude, and its sign is written, that of a zero too.
-/
namespace PairCache.Json

theorem ofNat_injective {m n : Nat} (h : Decimal.ofNat m = Decimal.ofNat n) : m = n := by
  calc m = numeral (Decimal.ofNat m) := (numeral_toDigits m).symm
    _ = numeral (Decimal.ofNat n) := by rw [h]
    _ = n := numeral_toDigits n

theorem isNumeric_of_isDigit {c : Char} (h : c.isDigit = true) : isNumeric c = true := by
  simp [isNumeric, h]

theorem ofInt_injective {i j : Int} (h : Decimal.ofInt i = Decimal.ofInt j) : i = j := by
  have hne : ∀ (m n : Nat), Decimal.ofNat m ≠ '-' :: Decimal.ofNat n := by
    intro m n heq
    obtain ⟨c, cs, hcs, hc⟩ := ofNat_eq_cons m
    rw [hcs] at heq
    exact not_minus_of_isDigit hc (List.cons.inj heq).1
  cases i with
  | ofNat m =>
    cases j with
    | ofNat n => exact congrArg Int.ofNat (ofNat_injective h)
    | negSucc n => exact absurd h (hne m _)
  | negSucc m =>
    cases j with
    | ofNat n => exact absurd h.symm (hne n _)
    | negSucc n =>
      have hsucc := ofNat_injective (List.cons.inj h).2
      exact congrArg Int.negSucc (Nat.succ.inj hsucc)

theorem intText_injective {i j : Int} (h : Decimal.intText i = Decimal.intText j) : i = j :=
  ofInt_injective (String.ofList_injective h)

theorem mem_ofInt {i : Int} {c : Char} (h : c ∈ Decimal.ofInt i) : c.isDigit = true ∨ c = '-' := by
  cases i with
  | ofNat n => exact .inl (Decimal.ofNat_isDigit h)
  | negSucc n =>
    rcases List.mem_cons.mp h with rfl | h
    · exact .inr rfl
    · exact .inl (Decimal.ofNat_isDigit h)

def writeMagnitude (m : Nat) : List Char :=
  if m = 0 then ['0', '.', '0'] else numbers.write .double m

theorem writeDouble_eq (x : Double) :
    writeDouble x = (if x.negative then ['-'] else []) ++ writeMagnitude x.magnitude := rfl

theorem spells_writeMagnitude (m : Nat) :
    Spells (writeMagnitude m) (Shortest.decimal .double numbers.tie m).value := by
  rw [writeMagnitude]
  split
  · rename_i hzero
    rw [hzero, Shortest.decimal_zero]
    have hnumeral : numeral (['0'] ++ ['0']) = 0 := rfl
    apply spells_point (digits_zeros 1) (by simp) (digits_zeros 1)
    rw [List.replicate_one, hnumeral]
    simp
  · exact spells_write rfl .double m

theorem writeMagnitude_injective {m n : Nat} (h : writeMagnitude m = writeMagnitude n) : m = n :=
  Shortest.decimal_injective (by decide)
    ((spells_writeMagnitude m).unique (h ▸ spells_writeMagnitude n))

theorem writeDouble_injective {x y : Double} (h : writeDouble x = writeDouble y) : x = y := by
  obtain ⟨sx, m, hx⟩ := x
  obtain ⟨sy, n, hy⟩ := y
  obtain ⟨c, cs, hcs, hc⟩ := (spells_writeMagnitude m).head
  obtain ⟨d, ds, hds, hd⟩ := (spells_writeMagnitude n).head
  simp only [writeDouble_eq] at h
  have hsign : sx = sy := by
    rw [hcs, hds] at h
    cases sx with
    | true =>
      cases sy with
      | true => rfl
      | false => exact absurd (List.cons.inj h).1.symm (not_minus_of_isDigit hd)
    | false =>
      cases sy with
      | true => exact absurd (List.cons.inj h).1 (not_minus_of_isDigit hc)
      | false => rfl
  subst hsign
  obtain rfl := writeMagnitude_injective (List.append_cancel_left h)
  rfl

theorem mem_writeDouble {x : Double} {c : Char} (h : c ∈ writeDouble x) :
    c.isDigit = true ∨ c ∈ ['.', 'e', '+', '-'] := by
  rw [writeDouble_eq] at h
  rcases List.mem_append.mp h with h | h
  · split at h
    · rw [List.mem_singleton.mp h]
      exact .inr (by decide)
    · cases h
  · exact (spells_writeMagnitude x.magnitude).mem h

namespace Number

theorem isNumeric_write {n : Number} {c : Char} (h : c ∈ n.write) : isNumeric c = true := by
  cases n with
  | whole i =>
    rcases mem_ofInt h with hdigit | rfl
    · exact isNumeric_of_isDigit hdigit
    · rfl
  | float x =>
    rcases mem_writeDouble h with hdigit | hmark
    · exact isNumeric_of_isDigit hdigit
    · simp only [List.mem_cons, List.not_mem_nil, or_false] at hmark
      rcases hmark with rfl | rfl | rfl | rfl <;> rfl

theorem write_opens (n : Number) : ∃ c cs, n.write = c :: cs ∧ startsNumber c = true := by
  cases n with
  | whole i h =>
    obtain ⟨c, cs, hcs, hstarts, _⟩ := signed_ofInt h endsNumber_nil
    exact ⟨c, cs, hcs, hstarts⟩
  | float x =>
    rw [write, writeDouble_eq]
    split
    · exact ⟨'-', _, rfl, rfl⟩
    · obtain ⟨c, cs, hcs, hc⟩ := (spells_writeMagnitude x.magnitude).head
      exact ⟨c, cs, hcs, by simp [startsNumber, hc]⟩

theorem ofInt_ne_writeDouble (i : Int) (x : Double) : Decimal.ofInt i ≠ writeDouble x := by
  intro h
  have hmark : '.' ∈ writeDouble x ∨ 'e' ∈ writeDouble x :=
    (spells_writeMagnitude x.magnitude).mark.imp (List.mem_append_right _) (List.mem_append_right _)
  rw [← h] at hmark
  rcases hmark with hmark | hmark <;> rcases mem_ofInt hmark with hdigit | hdigit <;> cases hdigit

theorem write_injective {m n : Number} (h : m.write = n.write) : m = n := by
  cases m with
  | whole i =>
    cases n with
    | whole j =>
      obtain rfl := ofInt_injective h
      rfl
    | float y => exact absurd h (ofInt_ne_writeDouble i y)
  | float x =>
    cases n with
    | whole j => exact absurd h.symm (ofInt_ne_writeDouble j x)
    | float y => exact congrArg float (writeDouble_injective h)

end Number

end PairCache.Json
