import PairCache.Json.Reader

/-!
Texts and whole numbers are read as they were written. A number's text has no end of its own: what
follows must not go on with it (`EndsNumber`).
-/
namespace PairCache.Json

theorem unescape_short {c d : Char} (rest : List Char) (h : shortEscape? c = some d) :
    unescape (c :: rest) = .ok (d, rest) := by
  rw [unescape, h]

theorem hexNumber?_digitChar {a b : Nat} (ha : a < 2) (hb : b < 16) :
    hexNumber? ['0', '0', a.digitChar, b.digitChar] = some (16 * a + b) := by
  have hall : ∀ a : Fin 2, ∀ b : Fin 16,
      hexNumber? ['0', '0', (a : Nat).digitChar, (b : Nat).digitChar] =
        some (16 * (a : Nat) + (b : Nat)) := by
    decide
  exact hall ⟨a, ha⟩ ⟨b, hb⟩

theorem unescape_number {c : Char} (rest : List Char) (h : c.toNat < 32) :
    unescape ('u' :: '0' :: '0' :: (c.toNat / 16).digitChar :: (c.toNat % 16).digitChar :: rest) =
      .ok (c, rest) := by
  have hnumber := hexNumber?_digitChar (a := c.toNat / 16) (b := c.toNat % 16) (by omega) (by omega)
  rw [Nat.div_add_mod] at hnumber
  have hlow : isLowSurrogate c.toNat = false := by simp [isLowSurrogate]; omega
  have hhigh : isHighSurrogate c.toNat = false := by simp [isHighSurrogate]; omega
  have hu : shortEscape? 'u' = none := by decide
  simp [unescape, hu, numberEscape, fourHex, hnumber, hlow, hhigh]

theorem textBody_unescape {cs rest : List Char} {c : Char} (h : unescape cs = .ok (c, rest)) :
    textBody ('\\' :: cs) = (textBody rest).map fun p => (c :: p.1, p.2) := by
  rw [textBody, if_neg (by decide), if_pos rfl]
  split
  · rename_i d rest' hd
    obtain ⟨rfl, rfl⟩ := Prod.mk.inj (Except.ok.inj (h.symm.trans hd))
    cases textBody rest <;> rfl
  · rename_i e he
    cases h.symm.trans he

theorem textBody_plain {c : Char} (rest : List Char) (hquote : c ≠ '"') (hback : c ≠ '\\')
    (hcontrol : ¬c.toNat < 32) :
    textBody (c :: rest) = (textBody rest).map fun p => (c :: p.1, p.2) := by
  rw [textBody, if_neg hquote, if_neg hback, if_neg hcontrol]
  cases textBody rest <;> rfl

theorem eq_ofNat_of_toNat {c : Char} {n : Nat} (h : c.toNat = n) : c = Char.ofNat n := by
  rw [← h, Char.ofNat_toNat]

theorem escape_cases (c : Char) :
    (∃ d, escape c = ['\\', d] ∧ shortEscape? d = some c) ∨
    (escape c = ['\\', 'u', '0', '0', (c.toNat / 16).digitChar, (c.toNat % 16).digitChar] ∧
      c.toNat < 32) ∨
    (escape c = [c] ∧ c ≠ '"' ∧ c ≠ '\\' ∧ ¬c.toNat < 32) := by
  by_cases hletter : c = '"' ∨ c = '\\' ∨ c = '\n' ∨ c = '\r' ∨ c = '\t'
  · rcases hletter with rfl | rfl | rfl | rfl | rfl <;> exact .inl ⟨_, rfl, by decide⟩
  by_cases hcode : c.toNat = 8 ∨ c.toNat = 12
  · rcases hcode with hcode | hcode <;> rw [eq_ofNat_of_toNat hcode] <;>
      exact .inl ⟨_, rfl, by decide⟩
  simp only [not_or] at hletter hcode
  obtain ⟨hquote, hback, hline, hreturn, htab⟩ := hletter
  obtain ⟨height, htwelve⟩ := hcode
  refine .inr ?_
  by_cases hcontrol : c.toNat < 32
  · refine .inl ⟨?_, hcontrol⟩
    simp only [escape, hquote, hback, hline, hreturn, htab, height, htwelve, hcontrol, if_false,
      if_true]
  · refine .inr ⟨?_, hquote, hback, hcontrol⟩
    simp only [escape, hquote, hback, hline, hreturn, htab, height, htwelve, hcontrol, if_false]

theorem textBody_escape (c : Char) (rest : List Char) :
    textBody (escape c ++ rest) = (textBody rest).map fun p => (c :: p.1, p.2) := by
  rcases escape_cases c with ⟨d, hescape, hd⟩ | ⟨hescape, hcontrol⟩ |
    ⟨hescape, hquote, hback, hcontrol⟩
  · rw [hescape]
    exact textBody_unescape (unescape_short rest hd)
  · rw [hescape]
    exact textBody_unescape (unescape_number rest hcontrol)
  · rw [hescape]
    exact textBody_plain rest hquote hback hcontrol

theorem textBody_escaped (cs rest : List Char) :
    textBody (cs.flatMap escape ++ '"' :: rest) = .ok (cs, rest) := by
  induction cs with
  | nil => rw [List.flatMap_nil, List.nil_append, textBody, if_pos rfl]
  | cons c cs ih =>
    rw [List.flatMap_cons, List.append_assoc, textBody_escape, ih]
    rfl

theorem quote_append (s : String) (rest : List Char) :
    quote s ++ rest = '"' :: (s.toList.flatMap escape ++ '"' :: rest) := by
  simp [quote]

def isNumeric (c : Char) : Bool :=
  c.isDigit || c == '.' || isExponentMark c || c == '+' || c == '-'

def EndsNumber (rest : List Char) : Prop := ∀ c ∈ rest.head?, isNumeric c = false

theorem endsNumber_nil : EndsNumber [] := by
  intro c hc
  cases hc

theorem endsNumber_cons {c : Char} (rest : List Char) (h : isNumeric c = false) :
    EndsNumber (c :: rest) := by
  intro d hd
  obtain rfl := Option.some.inj hd
  exact h

theorem EndsNumber.startsWithDigit {rest : List Char} (h : EndsNumber rest) :
    startsWithDigit rest = false := by
  cases rest with
  | nil => rfl
  | cons c rest =>
    have hc := h c rfl
    simp only [isNumeric, Bool.or_eq_false_iff] at hc
    exact hc.1.1.1.1

theorem EndsNumber.fraction? {rest : List Char} (h : EndsNumber rest) :
    fraction? rest = .ok (none, rest) := by
  unfold Json.fraction?
  split
  · rename_i rest
    cases h '.' rfl
  · rfl

theorem EndsNumber.exponent? {rest : List Char} (h : EndsNumber rest) :
    exponent? rest = .ok (none, rest) := by
  cases rest with
  | nil => rfl
  | cons c rest =>
    have hc := h c rfl
    simp only [isNumeric, Bool.or_eq_false_iff] at hc
    rw [Json.exponent?, if_neg (by simp [hc.1.1.2])]

theorem span_append {p : Char → Bool} {cs rest : List Char} (hcs : ∀ c ∈ cs, p c = true)
    (hrest : ∀ c ∈ rest.head?, p c = false) :
    (cs ++ rest).takeWhile p = cs ∧ (cs ++ rest).dropWhile p = rest := by
  induction cs with
  | nil =>
    cases rest with
    | nil => simp
    | cons c rest => simp [hrest c rfl]
  | cons c cs ih =>
    have hc := hcs c List.mem_cons_self
    have hih := ih fun d hd => hcs d (List.mem_cons_of_mem _ hd)
    simp [hc, hih]

theorem span_digits {ds rest : List Char} (hds : ∀ d ∈ ds, d.isDigit = true)
    (hrest : startsWithDigit rest = false) :
    (ds ++ rest).takeWhile Char.isDigit = ds ∧ (ds ++ rest).dropWhile Char.isDigit = rest := by
  apply span_append hds
  intro c hc
  cases rest with
  | nil => cases hc
  | cons d rest =>
    obtain rfl := Option.some.inj hc
    exact hrest

theorem ofNat_zero : Decimal.ofNat 0 = ['0'] := by
  rw [Decimal.ofNat_eq]
  rfl

theorem exists_ofNat_eq_cons {n : Nat} (h : 0 < n) :
    ∃ c cs, Decimal.ofNat n = c :: cs ∧ c ≠ '0' := by
  induction n using Nat.strongRecOn with
  | ind n ih =>
    rw [Decimal.ofNat_eq]
    split
    · rename_i hlt
      have hall : ∀ d : Fin 10, 0 < (d : Nat) → (d : Nat).digitChar ≠ '0' := by decide
      exact ⟨_, [], rfl, hall ⟨n, hlt⟩ h⟩
    · obtain ⟨c, cs, hcs, hc⟩ := ih (n / 10) (by omega) (by omega)
      exact ⟨c, _, by rw [hcs]; rfl, hc⟩

theorem wholeDigits_ofNat (n : Nat) {rest : List Char} (h : startsWithDigit rest = false) :
    wholeDigits (Decimal.ofNat n ++ rest) = .ok (Decimal.ofNat n, rest) := by
  rcases Nat.eq_zero_or_pos n with rfl | hpos
  · rw [ofNat_zero]
    simp [wholeDigits, h]
  · obtain ⟨c, cs, hcs, hc⟩ := exists_ofNat_eq_cons hpos
    have hdigits : ∀ d ∈ c :: cs, d.isDigit = true := by
      rw [← hcs]
      exact fun d hd => Decimal.ofNat_isDigit hd
    have hfirst := hdigits c List.mem_cons_self
    obtain ⟨htake, hdrop⟩ := span_digits (fun d hd => hdigits d (List.mem_cons_of_mem _ hd)) h
    rw [hcs, List.cons_append, wholeDigits, if_neg hc, if_pos hfirst, htake, hdrop]

theorem gather_append {value n : Nat} {cs : List Char} (ds : List Char)
    (h : gather value cs = (n, [])) : gather value (cs ++ ds) = gather n ds := by
  induction cs generalizing value with
  | nil =>
    obtain ⟨rfl, _⟩ := Prod.mk.inj h
    rfl
  | cons c cs ih =>
    rw [gather] at h
    rw [List.cons_append, gather]
    split at h
    · rename_i hlt
      rw [if_pos hlt]
      exact ih h
    · cases (Prod.mk.inj h).2

theorem gather_ofNat {n : Nat} (h : n < wordLimit) : gather 0 (Decimal.ofNat n) = (n, []) := by
  induction n using Nat.strongRecOn with
  | ind n ih =>
    rw [Decimal.ofNat_eq]
    split
    · rename_i hlt
      rw [gather, (Decimal.digitValue_digitChar hlt).2]
      simp [gather, h]
    · have hrest := ih (n / 10) (by omega) (by omega)
      have hvalue := (Decimal.digitValue_digitChar (d := n % 10) (by omega)).2
      have hsum : 10 * (n / 10) + n % 10 = n := Nat.div_add_mod n 10
      rw [gather_append _ hrest, gather, hvalue, hsum]
      simp [gather, h]

theorem unsigned_of_value? {negative : Bool} {n : Nat} {number : Number} {rest : List Char}
    (hrest : EndsNumber rest)
    (h : Numeral.value? ⟨negative, Decimal.ofNat n, none, none⟩ = some number) :
    unsigned negative (Decimal.ofNat n ++ rest) = .ok (number, rest) := by
  simp only [unsigned, wholeDigits_ofNat n hrest.startsWithDigit, bind, Except.bind,
    hrest.fraction?, hrest.exponent?, h]
  rfl

theorem value?_ofNat {n : Nat} (h : n < wordLimit) :
    Numeral.value? ⟨false, Decimal.ofNat n, none, none⟩ = Number.ofInt? n := by
  simp [Numeral.value?, gather_ofNat h]

theorem value?_ofNat_negative {n : Nat} (hpos : 0 < n) (h : 2 * n ≤ wordLimit) :
    Numeral.value? ⟨true, Decimal.ofNat n, none, none⟩ = Number.ofInt? (-(n : Int)) := by
  have hlt : n < wordLimit := by omega
  have hwhole : ¬(n = 0 ∨ wordLimit < 2 * n) := by omega
  simp only [Numeral.value?, gather_ofNat hlt]
  simp [hwhole]

theorem ofNat_eq_cons (n : Nat) : ∃ c cs, Decimal.ofNat n = c :: cs ∧ c.isDigit = true := by
  cases h : Decimal.ofNat n with
  | nil => exact absurd h (Decimal.ofNat_ne_nil n)
  | cons c cs =>
    refine ⟨c, cs, rfl, Decimal.ofNat_isDigit (n := n) ?_⟩
    rw [h]
    exact List.mem_cons_self

theorem isBlank_of_startsNumber {c : Char} (h : startsNumber c = true) : isBlank c = false := by
  cases hblank : isBlank c with
  | false => rfl
  | true =>
    simp only [isBlank, Bool.or_eq_true, beq_iff_eq] at hblank
    rcases hblank with ((rfl | rfl) | rfl) | rfl <;> cases h

theorem not_minus_of_isDigit {c : Char} (h : c.isDigit = true) : c ≠ '-' := by
  rintro rfl
  cases h

theorem signed_ofInt {i : Int} (h : -9223372036854775808 ≤ i ∧ i < 18446744073709551616)
    {rest : List Char} (hrest : EndsNumber rest) :
    ∃ c cs, Decimal.ofInt i = c :: cs ∧ startsNumber c = true ∧
      signed c (cs ++ rest) = .ok (.whole i h, rest) := by
  cases i with
  | ofNat n =>
    have hlt : n < wordLimit := Int.ofNat_lt.mp h.2
    have hvalue : Number.ofInt? n = some (.whole n h) := dif_pos h
    obtain ⟨c, cs, hcs, hc⟩ := ofNat_eq_cons n
    refine ⟨c, cs, hcs, by simp [startsNumber, hc], ?_⟩
    rw [signed, if_neg (not_minus_of_isDigit hc), ← List.cons_append, ← hcs]
    exact unsigned_of_value? hrest ((value?_ofNat hlt).trans hvalue)
  | negSucc n =>
    have hle : 2 * (n + 1) ≤ wordLimit := by simp [wordLimit]; omega
    have hvalue : Number.ofInt? (-((n + 1 : Nat) : Int)) = some (.whole (.negSucc n) h) := dif_pos h
    refine ⟨'-', _, rfl, rfl, ?_⟩
    rw [signed, if_pos rfl]
    exact unsigned_of_value? hrest ((value?_ofNat_negative n.succ_pos hle).trans hvalue)

end PairCache.Json
