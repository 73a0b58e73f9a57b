/-!
Whole numbers in decimal digits. `Decimal.ofNat` and `Decimal.ofInt` write the numeral without
leading zeros; `Decimal.natural` and `Decimal.integer` read one under a bound. Every numeral that is
written reads back (`natural_ofNat`, `integer_ofInt`).
-/
namespace PairCache.Decimal

def ofNat (n : Nat) : List Char := Nat.toDigits 10 n

def ofInt : Int → List Char
  | .ofNat n => ofNat n
  | .negSucc n => '-' :: ofNat (n + 1)

def text (n : Nat) : String := String.ofList (ofNat n)

def intText (i : Int) : String := String.ofList (ofInt i)

def digitValue (c : Char) : Nat := c.toNat - '0'.toNat

theorem ofNat_isDigit {n : Nat} {c : Char} (h : c ∈ ofNat n) : c.isDigit = true :=
  Nat.isDigit_of_mem_toDigits (by decide) (by decide) h

theorem ofNat_eq (n : Nat) :
    ofNat n = if n < 10 then [n.digitChar] else ofNat (n / 10) ++ [(n % 10).digitChar] :=
  Nat.toDigits_eq_if (by decide)

theorem ofNat_ne_nil (n : Nat) : ofNat n ≠ [] := by
  rw [ofNat_eq]
  split <;> simp

inductive Fault where
  | empty
  | badDigit
  | tooLarge
  | tooSmall
deriving DecidableEq, Repr

def Fault.message : Fault → String
  | .empty => "cannot parse integer from empty string"
  | .badDigit => "invalid digit found in string"
  | .tooLarge => "number too large to fit in target type"
  | .tooSmall => "number too small to fit in target type"

/-- Reads digits from the left on top of `value`; the first fault on the way is the answer. -/
def digits (limit : Nat) (past : Fault) : Nat → List Char → Except Fault Nat
  | value, [] => .ok value
  | value, c :: rest =>
    if c.isDigit then
      if 10 * value + digitValue c ≤ limit then
        digits limit past (10 * value + digitValue c) rest
      else .error past
    else .error .badDigit

def natural (limit : Nat) : List Char → Except Fault Nat
  | [] => .error .empty
  | ['+'] => .error .badDigit
  | '+' :: rest => digits limit .tooLarge 0 rest
  | cs => digits limit .tooLarge 0 cs

def integer (limit : Nat) : List Char → Except Fault Int
  | ['-'] => .error .badDigit
  | '-' :: rest => (digits (limit + 1) .tooSmall 0 rest).map fun n => -(n : Int)
  | cs => (natural limit cs).map fun n => (n : Int)

theorem digits_append {limit : Nat} {past : Fault} {value n : Nat} {cs : List Char} (ds : List Char)
    (h : digits limit past value cs = .ok n) :
    digits limit past value (cs ++ ds) = digits limit past n ds := by
  induction cs generalizing value with
  | nil =>
    rw [digits] at h
    simp [Except.ok.inj h]
  | cons c rest ih =>
    rw [digits] at h
    rw [List.cons_append, digits]
    split at h
    · split at h
      · rename_i hc hl
        simpa [hc, hl] using ih h
      · cases h
    · cases h

theorem digitValue_digitChar {d : Nat} (h : d < 10) :
    d.digitChar.isDigit = true ∧ digitValue d.digitChar = d := by
  have : ∀ d : Fin 10, (d : Nat).digitChar.isDigit = true ∧ digitValue (d : Nat).digitChar = d := by
    decide
  exact this ⟨d, h⟩

theorem digits_ofNat {limit : Nat} {past : Fault} {n : Nat} (h : n ≤ limit) :
    digits limit past 0 (ofNat n) = .ok n := by
  induction n using Nat.strongRecOn with
  | ind n ih =>
    rw [ofNat_eq]
    split
    · rename_i hn
      obtain ⟨hd, hv⟩ := digitValue_digitChar hn
      simp [digits, hd, hv, h]
    · rename_i hn
      obtain ⟨hd, hv⟩ := digitValue_digitChar (d := n % 10) (by omega)
      have hq := ih (n / 10) (by omega) (by omega)
      rw [digits_append _ hq]
      have : 10 * (n / 10) + n % 10 = n := by omega
      simp [digits, hd, hv, this, h]

theorem natural_ofNat {limit n : Nat} (h : n ≤ limit) : natural limit (ofNat n) = .ok n := by
  have hd : digits limit .tooLarge 0 (ofNat n) = .ok n := digits_ofNat h
  have hp : ∀ c ∈ ofNat n, c ≠ '+' := fun c hc he => by
    have := ofNat_isDigit hc
    simp [he] at this
  revert hd hp
  match hcs : ofNat n with
  | [] => exact absurd hcs (ofNat_ne_nil n)
  | c :: rest =>
    intro hd hp
    have hc : c ≠ '+' := hp c (by simp)
    unfold natural
    split
    · contradiction
    · simp_all
    · simp_all
    · exact hd

theorem integer_ofInt {limit : Nat} {i : Int} (hlo : -(limit : Int) - 1 ≤ i) (hhi : i ≤ limit) :
    integer limit (ofInt i) = .ok i := by
  cases i with
  | ofNat n =>
    have hn : natural limit (ofNat n) = .ok n := natural_ofNat (by simp at hhi; omega)
    have hm : ∀ c ∈ ofNat n, c ≠ '-' := fun c hc he => by
      have := ofNat_isDigit hc
      simp [he] at this
    rw [ofInt]
    unfold integer
    split
    · simp_all
    · simp_all
    · rw [hn]; rfl
  | negSucc n =>
    have hn : digits (limit + 1) .tooSmall 0 (ofNat (n + 1)) = .ok (n + 1) :=
      digits_ofNat (by omega)
    have hne := ofNat_ne_nil (n + 1)
    rw [ofInt]
    unfold integer
    split
    · simp_all
    · rename_i rest heq
      cases heq
      rw [hn]; rfl
    · simp_all

end PairCache.Decimal
