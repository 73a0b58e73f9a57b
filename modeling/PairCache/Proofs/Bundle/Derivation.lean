import PairCache.Proofs.Bundle.Equality
import Mathlib.Algebra.Group.Nat.Defs

/-!
What is derived of two inputs. Their forms are told by the label and the count of a derived bundle together
(`derive_determines`): the label alone does not say where the first form ends, but its length and the
difference of the two lengths do.
-/
namespace PairCache.Bundle

variable {first second : Input} {a b c d : String}

theorem form_plain (s : String) : (Input.plain s).form = .ok s := rfl

theorem formIn_of_form {slot : Slot} {input : Input} (h : input.form = .ok a) :
    formIn slot input = .ok a := by
  rw [formIn, h]
  rfl

theorem formIn_of_formless {slot : Slot} {input : Input} {reason : String}
    (h : input.form = .error reason) : formIn slot input = .error (.malformedInput slot reason) := by
  rw [formIn, h]
  rfl

theorem form_cases (first second : Input) :
    (∃ reason, first.form = .error reason) ∨
    (∃ a reason, first.form = .ok a ∧ second.form = .error reason) ∨
    ∃ a b, first.form = .ok a ∧ second.form = .ok b := by
  cases hfirst : first.form with
  | error reason => exact .inl ⟨reason, rfl⟩
  | ok a =>
    cases hsecond : second.form with
    | error reason => exact .inr (.inl ⟨a, reason, rfl, rfl⟩)
    | ok b => exact .inr (.inr ⟨a, b, rfl, rfl⟩)

theorem derive_of_first_formless {reason : String} (h : first.form = .error reason) (second : Input) :
    derive first second = .error (.malformedInput .first reason) := by
  rw [derive, formIn_of_formless h]
  rfl

theorem derive_of_second_formless {reason : String} (ha : first.form = .ok a)
    (hb : second.form = .error reason) :
    derive first second = .error (.malformedInput .second reason) := by
  rw [derive, formIn_of_form ha, formIn_of_formless hb]
  rfl

def charCount (s : String) : Int64 := Int64.ofNat s.length

theorem toInt_charCount (h : a.length < 2 ^ 63) : (charCount a).toInt = a.length :=
  Int64.toInt_ofNat_of_lt h

theorem charCount_sub (a b : String) :
    Int64.ofInt ((a.length : Int) - b.length) = charCount a - charCount b := by
  rw [Int64.ofInt_sub, Int64.ofInt_eq_ofNat, Int64.ofInt_eq_ofNat, charCount, charCount]

theorem toInt_charCount_sub (ha : a.length < 2 ^ 63) (hb : b.length < 2 ^ 63) :
    (charCount a - charCount b).toInt = a.length - b.length := by
  rw [← charCount_sub]
  apply Int64.toInt_ofInt_of_le <;> omega

theorem derive_of_forms (ha : first.form = .ok a) (hb : second.form = .ok b) :
    derive first second = .ok {
      flag := first.same second
      count := charCount a - charCount b
      label := a ++ b } := by
  rw [derive, formIn_of_form ha, formIn_of_form hb, ← charCount_sub]
  rfl

theorem forms_eq_of_append (happend : a ++ b = c ++ d)
    (hcount : (a.length : Int) - b.length = c.length - d.length) : a = c ∧ b = d := by
  have htotal := congrArg String.length happend
  rw [String.length_append, String.length_append] at htotal
  -- the sum and the difference of the two lengths give each of them
  have hlength : a.toList.length = c.toList.length := by
    rw [String.length_toList, String.length_toList]
    omega
  have hlists : a.toList ++ b.toList = c.toList ++ d.toList := by
    rw [← String.toList_append, ← String.toList_append, happend]
  obtain ⟨hfirst, hsecond⟩ := List.append_inj hlists hlength
  exact ⟨String.toList_inj.mp hfirst, String.toList_inj.mp hsecond⟩

/-- A label that is not empty comes of other forms as well, one of which is all of it. -/
theorem exists_other_forms (h : a ++ b ≠ "") :
    ∃ c d q, derive (.plain c) (.plain d) = .ok q ∧ q.label = a ++ b ∧ c ≠ a := by
  by_cases hempty : a = ""
  · subst hempty
    refine ⟨"" ++ b, "", _, derive_of_forms (form_plain _) (form_plain _), ?_, h⟩
    exact String.append_empty
  · refine ⟨"", a ++ b, _, derive_of_forms (form_plain _) (form_plain _), ?_, Ne.symm hempty⟩
    exact String.empty_append

theorem derive_determines (ha : first.form = .ok a) (hb : second.form = .ok b)
    (hashort : a.length < 2 ^ 63) (hbshort : b.length < 2 ^ 63) :
    ∃ p, derive first second = .ok p ∧ p.label = a ++ b ∧
      ((charCount a).toInt = a.length ∧ (charCount b).toInt = b.length ∧
        p.count = charCount a - charCount b ∧ p.count.toInt = a.length - b.length) ∧
      (a ++ b ≠ "" →
        ∃ c d q, derive (.plain c) (.plain d) = .ok q ∧ q.label = p.label ∧ c ≠ a) ∧
      ∀ first' second' c d q, first'.form = .ok c → second'.form = .ok d → c.length < 2 ^ 63 →
        d.length < 2 ^ 63 → derive first' second' = .ok q →
        (p.label = q.label → p.count = q.count → a = c ∧ b = d) ∧
          (p.same q = true → a = c ∧ b = d) := by
  have hcount := toInt_charCount_sub hashort hbshort
  refine ⟨_, derive_of_forms ha hb, rfl, ⟨toInt_charCount hashort, toInt_charCount hbshort, rfl, hcount⟩,
    exists_other_forms, fun first' second' c d q hc hd hcshort hdshort hq => ?_⟩
  obtain rfl := Except.ok.inj ((derive_of_forms hc hd).symm.trans hq)
  have hforms : a ++ b = c ++ d → charCount a - charCount b = charCount c - charCount d →
      a = c ∧ b = d := by
    intro hlabel hequal
    refine forms_eq_of_append hlabel ?_
    rw [← hcount, ← toInt_charCount_sub hcshort hdshort, hequal]
  refine ⟨hforms, fun hsame => ?_⟩
  obtain ⟨_, _, hequal, hlabel⟩ := same_iff.mp hsame
  exact hforms hlabel hequal

/-- One text, split in two places. -/
theorem derive_determines_split :
    ∃ p q, derive (.plain "éa") (.plain "b") = .ok p ∧ derive (.plain "é") (.plain "ab") = .ok q ∧
      p.label = q.label ∧ p.count ≠ q.count := by
  obtain ⟨p, hp, hlabel, _, _, htells⟩ := derive_determines (form_plain "éa") (form_plain "b")
    (by decide) (by decide)
  obtain ⟨q, hq, hlabel', _⟩ := derive_determines (form_plain "é") (form_plain "ab")
    (by decide) (by decide)
  have hsplit : p.label = q.label := by
    rw [hlabel, hlabel']
    rfl
  obtain ⟨hforms, _⟩ := htells _ _ "é" "ab" q (form_plain "é") (form_plain "ab") (by decide)
    (by decide) hq
  refine ⟨p, q, hp, hq, hsplit, fun hcount => ?_⟩
  have hlonger : "éa" = "é" := (hforms hsplit hcount).1
  exact absurd hlonger (by decide)

end PairCache.Bundle
