import PairCache.Number.Layout
import PairCache.Proofs.Number.Shortest
import Mathlib.Data.List.TakeWhile
import Mathlib.Tactic.NormNum

/-!
What number a decimal text stands for. `Spells` are the forms of such a text without a sign, and
`amount` reads a text off again, so no text spells two numbers. The layouts spell their digits and
exponent (`spells_write`).
-/
namespace PairCache

def parts (c : Char) (cs : List Char) : List Char × List Char :=
  (cs.takeWhile (· != c), (cs.dropWhile (· != c)).drop 1)

def numeral (cs : List Char) : Nat := Nat.ofDigitChars 10 cs 0

def signedNumeral : List Char → Int
  | '-' :: cs => -(numeral cs : Int)
  | cs => numeral (cs.drop 1)

def amount (cs : List Char) : ℚ :=
  let (mantissa, exponent) := parts 'e' cs
  let (whole, fraction) := parts '.' mantissa
  numeral (whole ++ fraction) * 10 ^ (signedNumeral exponent - fraction.length)

theorem bne_of_notMem {c : Char} {cs : List Char} (h : c ∉ cs) : ∀ d ∈ cs, (d != c) = true := by
  intro d hd
  exact bne_iff_ne.mpr fun heq => h (heq ▸ hd)

theorem parts_append {c : Char} {cs : List Char} (h : c ∉ cs) (ds : List Char) :
    parts c (cs ++ c :: ds) = (cs, ds) := by
  have hall := bne_of_notMem h
  simp [parts, List.takeWhile_append_of_pos hall, List.dropWhile_append_of_pos hall]

theorem parts_of_notMem {c : Char} {cs : List Char} (h : c ∉ cs) : parts c cs = (cs, []) := by
  have hall := bne_of_notMem h
  rw [parts, List.takeWhile_eq_self_iff.mpr hall, List.dropWhile_eq_nil_iff.mpr hall]
  rfl

theorem numeral_zeros_append (n : Nat) (ds : List Char) :
    numeral (List.replicate n '0' ++ ds) = numeral ds := by
  rw [numeral, Nat.ofDigitChars_append, Nat.ofDigitChars_replicate_zero, Nat.mul_zero]
  rfl

theorem numeral_append_zeros (ds : List Char) (n : Nat) :
    numeral (ds ++ List.replicate n '0') = 10 ^ n * numeral ds := by
  rw [numeral, Nat.ofDigitChars_append, Nat.ofDigitChars_replicate_zero]
  rfl

theorem numeral_toDigits (n : Nat) : numeral (Nat.toDigits 10 n) = n :=
  Nat.ofDigitChars_ten_toDigits

def Digits (cs : List Char) : Prop := ∀ c ∈ cs, c.isDigit = true

theorem Digits.notMem {cs : List Char} (h : Digits cs) {c : Char} (hc : c.isDigit = false) :
    c ∉ cs := by
  intro hmem
  rw [h c hmem] at hc
  cases hc

theorem digits_toDigits (n : Nat) : Digits (Nat.toDigits 10 n) :=
  fun _ h => Nat.isDigit_of_mem_toDigits (by decide) (by decide) h

theorem digits_zeros (n : Nat) : Digits (List.replicate n '0') := by
  intro c hc
  rw [List.eq_of_mem_replicate hc]
  rfl

theorem Digits.append {cs ds : List Char} (hcs : Digits cs) (hds : Digits ds) : Digits (cs ++ ds) := by
  intro c hc
  rcases List.mem_append.mp hc with hc | hc
  · exact hcs c hc
  · exact hds c hc

inductive Mantissa : List Char → ℚ → Prop
  | whole {ds : List Char} (hds : Digits ds) (hne : ds ≠ []) : Mantissa ds (numeral ds)
  | point {ds es : List Char} (hds : Digits ds) (hne : ds ≠ []) (hes : Digits es) :
      Mantissa (ds ++ '.' :: es) (numeral (ds ++ es) * 10 ^ (-(es.length : Int)))

def exponentText (e : Int) : List Char :=
  'e' :: (if e < 0 then '-' else '+') :: Nat.toDigits 10 e.natAbs

inductive Spells : List Char → ℚ → Prop
  | plain {cs : List Char} {x : ℚ} (h : Mantissa cs x) (hpoint : '.' ∈ cs) : Spells cs x
  | power {cs : List Char} {x : ℚ} (h : Mantissa cs x) (e : Int) :
      Spells (cs ++ exponentText e) (x * 10 ^ e)

variable {cs : List Char} {x y : ℚ}

theorem Mantissa.notMem_e (h : Mantissa cs x) : 'e' ∉ cs := by
  cases h with
  | whole hds => exact hds.notMem rfl
  | point hds _ hes =>
    intro hmem
    rcases List.mem_append.mp hmem with hmem | hmem
    · exact hds.notMem rfl hmem
    rcases List.mem_cons.mp hmem with heq | hmem
    · cases heq
    · exact hes.notMem rfl hmem

theorem Mantissa.amount (h : Mantissa cs x) (e : Int) :
    (numeral ((parts '.' cs).1 ++ (parts '.' cs).2) : ℚ) * 10 ^ (e - (parts '.' cs).2.length) =
      x * 10 ^ e := by
  cases h with
  | whole hds =>
    rw [parts_of_notMem (hds.notMem rfl)]
    simp
  | point hds _ hes =>
    rw [parts_append (hds.notMem rfl)]
    simp only
    rw [mul_assoc, ← zpow_add₀ (by norm_num), neg_add_eq_sub]

theorem signedNumeral_exponentText (e : Int) : signedNumeral (exponentText e).tail = e := by
  rw [exponentText]
  split
  · simp only [List.tail_cons, signedNumeral, numeral_toDigits]
    omega
  · change (numeral (Nat.toDigits 10 e.natAbs) : Int) = e
    rw [numeral_toDigits]
    omega

theorem Spells.amount_eq (h : Spells cs x) : amount cs = x := by
  cases h with
  | plain h =>
    have hamount := h.amount 0
    rw [amount, parts_of_notMem h.notMem_e]
    simpa [signedNumeral, numeral] using hamount
  | power h e =>
    rw [amount, exponentText, parts_append h.notMem_e]
    have hsigned := signedNumeral_exponentText e
    rw [exponentText, List.tail_cons] at hsigned
    simp only [hsigned]
    exact h.amount e

theorem Spells.unique (h : Spells cs x) (k : Spells cs y) : x = y :=
  h.amount_eq.symm.trans k.amount_eq

theorem Mantissa.head (h : Mantissa cs x) : ∃ c rest, cs = c :: rest ∧ c.isDigit = true := by
  cases h with
  | whole hds hne =>
    obtain ⟨c, rest, rfl⟩ := List.exists_cons_of_ne_nil hne
    exact ⟨c, rest, rfl, hds c List.mem_cons_self⟩
  | point hds hne hes =>
    obtain ⟨c, rest, rfl⟩ := List.exists_cons_of_ne_nil hne
    exact ⟨c, _, rfl, hds c List.mem_cons_self⟩

theorem Spells.head (h : Spells cs x) : ∃ c rest, cs = c :: rest ∧ c.isDigit = true := by
  cases h with
  | plain h => exact h.head
  | power h e =>
    obtain ⟨c, rest, rfl, hc⟩ := h.head
    exact ⟨c, _, rfl, hc⟩

theorem Spells.mark (h : Spells cs x) : '.' ∈ cs ∨ 'e' ∈ cs := by
  cases h with
  | plain _ hpoint => exact .inl hpoint
  | power _ e => exact .inr (List.mem_append_right _ List.mem_cons_self)

theorem Mantissa.mem (h : Mantissa cs x) {c : Char} (hc : c ∈ cs) : c.isDigit = true ∨ c = '.' := by
  cases h with
  | whole hds => exact .inl (hds c hc)
  | point hds _ hes =>
    rcases List.mem_append.mp hc with hc | hc
    · exact .inl (hds c hc)
    rcases List.mem_cons.mp hc with hc | hc
    · exact .inr hc
    · exact .inl (hes c hc)

theorem Spells.mem (h : Spells cs x) {c : Char} (hc : c ∈ cs) :
    c.isDigit = true ∨ c ∈ ['.', 'e', '+', '-'] := by
  cases h with
  | plain h =>
    rcases h.mem hc with hdigit | rfl
    · exact .inl hdigit
    · exact .inr (by decide)
  | power h e =>
    rcases List.mem_append.mp hc with hc | hc
    · rcases h.mem hc with hdigit | rfl
      · exact .inl hdigit
      · exact .inr (by decide)
    rcases List.mem_cons.mp hc with rfl | hc
    · exact .inr (by decide)
    rcases List.mem_cons.mp hc with rfl | hc
    · split <;> exact .inr (by decide)
    · exact .inl (digits_toDigits _ c hc)

theorem spells_point {ds es : List Char} (hds : Digits ds) (hne : ds ≠ []) (hes : Digits es)
    (hx : (numeral (ds ++ es) : ℚ) * 10 ^ (-(es.length : Int)) = x) : Spells (ds ++ '.' :: es) x := by
  rw [← hx]
  exact .plain (.point hds hne hes) (by simp)

theorem spells_plain {ds : List Char} (hds : Digits ds) (point : Int) :
    Spells (plain ds point ['.', '0']) (numeral ds * 10 ^ (point - ds.length)) := by
  rw [plain]
  split
  -- zeros stand between the point and the digits
  · rename_i hpoint
    have hzero : Digits ['0'] := digits_zeros 1
    apply spells_point hzero (by simp) ((digits_zeros _).append hds)
    have hlength : -((List.replicate (-point).toNat '0' ++ ds).length : Int) = point - ds.length := by
      rw [List.length_append, List.length_replicate]
      omega
    have hnumeral := numeral_zeros_append ((-point).toNat + 1) ds
    rw [List.replicate_succ, List.cons_append] at hnumeral
    rw [hlength, List.singleton_append, hnumeral]
  split
  -- zeros stand between the digits and the point
  · rename_i hpoint hlength
    have hzeros : point - ds.length = (point.toNat - ds.length : Nat) := by omega
    have hne : ds ++ List.replicate (point.toNat - ds.length) '0' ≠ [] := by
      apply List.ne_nil_of_length_pos
      rw [List.length_append, List.length_replicate]
      omega
    apply spells_point (hds.append (digits_zeros _)) hne (digits_zeros 1)
    have hnumeral := numeral_append_zeros ds (point.toNat - ds.length + 1)
    rw [List.replicate_succ', ← List.append_assoc] at hnumeral
    rw [List.replicate_one, hnumeral, hzeros, zpow_natCast]
    push_cast
    simp
    ring
  -- the point stands among the digits
  · rename_i hpoint hlength
    have hne : ds.take point.toNat ≠ [] := by
      apply List.ne_nil_of_length_pos
      rw [List.length_take]
      omega
    apply spells_point (fun c hc => hds c (List.mem_of_mem_take hc)) hne
      (fun c hc => hds c (List.mem_of_mem_drop hc))
    have hlength : -((ds.drop point.toNat).length : Int) = point - ds.length := by
      rw [List.length_drop]
      omega
    rw [hlength, List.take_append_drop]

theorem spells_scientific {ds : List Char} (hds : Digits ds) (hne : ds ≠ []) (e : Int) :
    Spells (scientific ds e) (numeral ds * 10 ^ (e + 1 - ds.length)) := by
  match ds with
  | [first] =>
    have hspells := Spells.power (.whole hds hne) e
    rwa [List.length_singleton, Nat.cast_one, add_sub_cancel_right]
  | first :: second :: rest =>
    have hfirst : Digits [first] := List.forall_mem_singleton.mpr (hds first List.mem_cons_self)
    have hrest : Digits (second :: rest) := fun c hc => hds c (List.mem_cons_of_mem _ hc)
    have hspells := Spells.power (.point hfirst (by simp) hrest) e
    have hexponent : e + 1 - ((first :: second :: rest).length : Int) =
        -((second :: rest).length : Int) + e := by
      simp only [List.length_cons]
      omega
    rw [mul_assoc, ← zpow_add₀ (by norm_num)] at hspells
    rw [hexponent]
    exact hspells

theorem spells_write {style : NumberStyle} (h : style.whole = ['.', '0']) (f : BinaryFormat)
    (m : Nat) : Spells (style.write f m) (Shortest.decimal f style.tie m).value := by
  rw [NumberStyle.write, h]
  generalize Shortest.decimal f style.tie m = s
  have hds := digits_toDigits s.digits
  have hexponent : s.exponent + ((Nat.toDigits 10 s.digits).length : Int) - 1 + 1 -
      (Nat.toDigits 10 s.digits).length = s.exponent := by omega
  have hplain := spells_plain hds (s.exponent + (Nat.toDigits 10 s.digits).length - 1 + 1)
  have hscientific := spells_scientific hds Nat.toDigits_ne_nil
    (s.exponent + (Nat.toDigits 10 s.digits).length - 1)
  rw [numeral_toDigits, hexponent] at hplain hscientific
  split
  · exact hplain
  · split
    · exact hplain
    · exact hscientific

end PairCache
