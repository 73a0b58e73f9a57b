import PairCache.Bundle

/-!
Equality of JSON values and of bundles is symmetric and transitive; that it is reflexive stands beside
the definitions.
-/
namespace PairCache

namespace Json

mutual

theorem same_symm : (x : Json) → {y : Json} → same x y = true → same y x = true
  | .null, y, h => by cases y <;> simp_all [same]
  | .bool b, y, h => by cases y <;> simp_all [same]
  | .number n, y, h => by
    cases y with
    | number m => exact Number.same_symm h
    | _ => simp [same] at h
  | .string s, y, h => by cases y <;> simp_all [same]
  | .array xs, y, h => by
    cases y with
    | array ys => exact sameItems_symm xs h
    | _ => simp [same] at h
  | .object xs, y, h => by
    cases y with
    | object ys => exact sameMembers_symm xs h
    | _ => simp [same] at h

theorem sameItems_symm : (xs : List Json) → {ys : List Json} →
    sameItems xs ys = true → sameItems ys xs = true
  | [], ys, h => by cases ys <;> simp_all [sameItems]
  | x :: xs, ys, h => by
    cases ys with
    | nil => simp [sameItems] at h
    | cons y ys =>
      simp only [sameItems, Bool.and_eq_true] at h ⊢
      exact ⟨same_symm x h.1, sameItems_symm xs h.2⟩

theorem sameMembers_symm : (xs : List (String × Json)) → {ys : List (String × Json)} →
    sameMembers xs ys = true → sameMembers ys xs = true
  | [], ys, h => by cases ys <;> simp_all [sameMembers]
  | (j, x) :: xs, ys, h => by
    cases ys with
    | nil => simp [sameMembers] at h
    | cons e ys =>
      simp only [sameMembers, Bool.and_eq_true, beq_iff_eq] at h ⊢
      exact ⟨⟨h.1.1.symm, same_symm x h.1.2⟩, sameMembers_symm xs h.2⟩

end

mutual

theorem same_trans : (x : Json) → {y z : Json} →
    same x y = true → same y z = true → same x z = true
  | .null, y, z, h, k => by cases y <;> cases z <;> simp_all [same]
  | .bool b, y, z, h, k => by cases y <;> cases z <;> simp_all [same]
  | .number l, y, z, h, k => by
    cases y with
    | number m =>
      cases z with
      | number n => exact Number.same_trans h k
      | _ => simp [same] at k
    | _ => simp [same] at h
  | .string s, y, z, h, k => by cases y <;> cases z <;> simp_all [same]
  | .array xs, y, z, h, k => by
    cases y with
    | array ys =>
      cases z with
      | array zs => exact sameItems_trans xs h k
      | _ => simp [same] at k
    | _ => simp [same] at h
  | .object xs, y, z, h, k => by
    cases y with
    | object ys =>
      cases z with
      | object zs => exact sameMembers_trans xs h k
      | _ => simp [same] at k
    | _ => simp [same] at h

theorem sameItems_trans : (xs : List Json) → {ys zs : List Json} →
    sameItems xs ys = true → sameItems ys zs = true → sameItems xs zs = true
  | [], ys, zs, h, k => by cases ys <;> simp_all [sameItems]
  | x :: xs, ys, zs, h, k => by
    cases ys with
    | nil => simp [sameItems] at h
    | cons y ys =>
      cases zs with
      | nil => simp [sameItems] at k
      | cons z zs =>
        simp only [sameItems, Bool.and_eq_true] at h k ⊢
        exact ⟨same_trans x h.1 k.1, sameItems_trans xs h.2 k.2⟩

theorem sameMembers_trans : (xs : List (String × Json)) → {ys zs : List (String × Json)} →
    sameMembers xs ys = true → sameMembers ys zs = true → sameMembers xs zs = true
  | [], ys, zs, h, k => by cases ys <;> simp_all [sameMembers]
  | (i, x) :: xs, ys, zs, h, k => by
    cases ys with
    | nil => simp [sameMembers] at h
    | cons y ys =>
      cases zs with
      | nil => simp [sameMembers] at k
      | cons z zs =>
        simp only [sameMembers, Bool.and_eq_true, beq_iff_eq] at h k ⊢
        exact ⟨⟨h.1.1.trans k.1.1, same_trans x h.1.2 k.1.2⟩, sameMembers_trans xs h.2 k.2⟩

end

end Json

namespace Bundle

theorem same_iff {p q : Bundle} :
    p.same q = true ↔ p.base.same q.base = true ∧ p.flag = q.flag ∧ p.count = q.count ∧
      p.label = q.label := by
  simp [same, and_assoc]

theorem same_symm {p q : Bundle} (h : p.same q = true) : q.same p = true := by
  obtain ⟨hbase, hflag, hcount, hlabel⟩ := same_iff.mp h
  exact same_iff.mpr ⟨Json.sameMembers_symm _ hbase, hflag.symm, hcount.symm, hlabel.symm⟩

theorem same_trans {p q r : Bundle} (h : p.same q = true) (k : q.same r = true) :
    p.same r = true := by
  obtain ⟨hbase, hflag, hcount, hlabel⟩ := same_iff.mp h
  obtain ⟨kbase, kflag, kcount, klabel⟩ := same_iff.mp k
  exact same_iff.mpr ⟨Json.sameMembers_trans _ hbase kbase, hflag.trans kflag,
    hcount.trans kcount, hlabel.trans klabel⟩

end Bundle

end PairCache
