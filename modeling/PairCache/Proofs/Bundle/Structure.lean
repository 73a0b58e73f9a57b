import PairCache.Proofs.Bundle.Derivation
import PairCache.Proofs.Bundle.RoundTrip
import PairCache.Proofs.Json.Alike
import PairCache.Proofs.Json.Yields

/-!
Equality of bundles compares their parts. It looks at base parameters in the order in which they are
kept; in every bundle that can be built, this is the order of the keys at every depth, and so the same
as looking them up.
-/
namespace PairCache

open Json Json.Decoder

namespace Base

theorem wellFormed_empty : empty.toJson.WellFormed := .object .nil nofun

theorem wellFormed_insert {b : Base} (h : b.toJson.WellFormed) (key : String) {v : Json}
    (hv : v.WellFormed) : (b.insert key v).toJson.WellFormed :=
  WellFormed.insert h key hv

theorem yields_decoder (depth : Nat) (cs : List Char) :
    Yields (fun b : Base => b.toJson.WellFormed) (decoder depth cs) := by
  have hinsert : ∀ key (v : Json) (b : Base), v.WellFormed → b.toJson.WellFormed →
      (b.insert key v).toJson.WellFormed := fun key _ _ hv hb => wellFormed_insert hb key hv
  have hread := yields_members_decoder yields_value hinsert wellFormed_empty depth cs
  exact hread

inductive Built : Base → Prop
  | empty : Built empty
  | insert {b : Base} (h : Built b) (key : String) {v : Json} (hv : v.WellFormed) :
      Built (b.insert key v)
  | read {b : Base} {depth : Nat} {cs rest : List Char} (h : decoder depth cs = .ok (b, rest)) :
      Built b

theorem Built.wellFormed {b : Base} (h : b.Built) : b.toJson.WellFormed := by
  induction h with
  | empty => exact wellFormed_empty
  | insert _ key hv ih => exact wellFormed_insert ih key hv
  | read h => exact yields_decoder _ _ _ _ h

theorem Built.foldl_insert {entries : List (String × Json)} (h : ∀ e ∈ entries, e.2.WellFormed)
    {b : Base} (hb : b.Built) : (entries.foldl (fun b e => b.insert e.1 e.2) b).Built := by
  induction entries generalizing b with
  | nil => exact hb
  | cons e entries ih =>
    obtain ⟨hvalue, hvalues⟩ := List.forall_mem_cons.mp h
    exact ih hvalues (hb.insert e.1 hvalue)

theorem Built.of_wellFormed {b : Base} (h : b.toJson.WellFormed) : b.Built := by
  cases h with
  | object _ hmembers =>
  rw [← ofList_entries b]
  exact Built.foldl_insert hmembers .empty

theorem built_iff_wellFormed {b : Base} : b.Built ↔ b.toJson.WellFormed :=
  ⟨Built.wellFormed, Built.of_wellFormed⟩

theorem same_iff_get? {a b : Base} (ha : a.toJson.WellFormed) (hb : b.toJson.WellFormed) :
    a.same b = true ↔ ∀ key, Option.Rel Alike (a.get? key) (b.get? key) := by
  cases ha with
  | object hordered has =>
  cases hb with
  | object hordered' hbs =>
  exact sameMembers_iff_get? hordered hordered' fun m hm n hn =>
    same_iff_alike (has m hm) (hbs n hn)

end Base

namespace Bundle

variable {p q r : Bundle}

inductive Built : Bundle → Prop
  | fresh (flag : Bool) (count : Int64) (label : String) : Built { flag, count, label }
  | derive {first second : Input} {b : Bundle} (h : derive first second = .ok b) : Built b
  | withFlag {b : Bundle} (h : Built b) (flag : Bool) : Built (b.withFlag flag)
  | withCount {b : Bundle} (h : Built b) (count : Int64) : Built (b.withCount count)
  | withLabel {b : Bundle} (h : Built b) (label : String) : Built (b.withLabel label)
  | withBase {b : Bundle} (h : Built b) {base : Base} (hbase : base.Built) : Built (b.withBase base)
  | read {b : Bundle} {depth : Nat} {cs rest : List Char} (h : decoder depth cs = .ok (b, rest)) :
      Built b

theorem base_of_derive {first second : Input} {b : Bundle} (h : derive first second = .ok b) :
    b.base = .empty := by
  rcases form_cases first second with ⟨reason, hf⟩ | ⟨a, reason, ha, hb⟩ | ⟨a, b, ha, hb⟩
  · rw [derive_of_first_formless hf] at h
    cases h
  · rw [derive_of_second_formless ha hb] at h
    cases h
  · rw [derive_of_forms ha hb] at h
    cases h
    rfl

def Draft.WellFormed (s : Draft) : Prop := ∀ base ∈ s.base, base.toJson.WellFormed

theorem yields_field {α : Type} {name : String} {get : Draft → Option α} {set : Draft → α → Draft}
    {d : Json.Decoder α} {defaulted : Bool} {s : Draft} (hs : s.WellFormed) (depth : Nat)
    (cs : List Char) (hset : ∀ a, (set s a).base = s.base) :
    Yields Draft.WellFormed ((field name get set d defaulted).read s depth cs) := by
  refine .map fun p _ => ?_
  rw [Draft.WellFormed, hset p.1]
  exact hs

theorem yields_baseField (s : Draft) (depth : Nat) (cs : List Char) :
    Yields Draft.WellFormed (baseField.read s depth cs) := by
  refine .map fun p hp => ?_
  rintro base ⟨⟩
  exact Base.yields_decoder depth cs p.1 p.2 hp

theorem yields_decoder (depth : Nat) (cs : List Char) :
    Yields (fun b : Bundle => b.base.toJson.WellFormed) (decoder depth cs) := by
  have hstart : Draft.WellFormed {} := nofun
  refine yields_record ?_ hstart ?_ depth cs
  · intro f hf s depth cs hs
    simp only [List.mem_cons, List.not_mem_nil, or_false] at hf
    rcases hf with rfl | rfl | rfl | rfl
    · exact yields_baseField s depth cs
    · apply yields_field hs depth cs
      exact fun _ => rfl
    · apply yields_field hs depth cs
      exact fun _ => rfl
    · apply yields_field hs depth cs
      exact fun _ => rfl
  · intro s b hs hb
    -- a draft that lacks one of the three plain fields is no bundle
    obtain ⟨base, flag, count, label⟩ := s
    cases flag with
    | none => cases hb
    | some flag =>
    cases count with
    | none => cases hb
    | some count =>
    cases label with
    | none => cases hb
    | some label =>
    cases hb
    cases base with
    | none => exact Base.wellFormed_empty
    | some base => exact hs base rfl

theorem Built.wellFormed {b : Bundle} (h : b.Built) : b.base.toJson.WellFormed := by
  induction h with
  | fresh => exact Base.wellFormed_empty
  | derive h =>
    rw [base_of_derive h]
    exact Base.wellFormed_empty
  | withFlag _ _ ih => exact ih
  | withCount _ _ ih => exact ih
  | withLabel _ _ ih => exact ih
  | withBase _ hbase => exact hbase.wellFormed
  | read h => exact yields_decoder _ _ _ _ h

theorem built_iff_wellFormed {b : Bundle} : b.Built ↔ b.base.toJson.WellFormed :=
  ⟨Built.wellFormed, fun h =>
    (Built.fresh b.flag b.count b.label).withBase (Base.Built.of_wellFormed h)⟩

theorem same_equivalence (hp : p.Built) (hq : q.Built) :
    p.same p = true ∧ (p.same q = true → q.same p = true) ∧
    (∀ r, p.same q = true → q.same r = true → p.same r = true) ∧
    (p.same q = true ↔ p.flag = q.flag ∧ p.count = q.count ∧ p.label = q.label ∧
      ∀ key, Option.Rel Alike (p.base.get? key) (q.base.get? key)) := by
  refine ⟨same_refl p, same_symm, fun _ => same_trans, ?_⟩
  rw [same_iff, Base.same_iff_get? hp.wellFormed hq.wellFormed]
  tauto

def holding (n : Number) : Bundle where
  base := (Base.empty.insert "b" (.ofInt (-1))).insert "a" (.array [.null, .object [("", .number n)]])
  label := "x"

theorem built_holding (n : Number) : (holding n).Built := by
  have hobject : WellFormed (.object [("", .number n)]) :=
    .object (List.pairwise_singleton _ _) (List.forall_mem_singleton.mpr (.number n))
  have harray : WellFormed (.array [.null, .object [("", .number n)]]) :=
    .array (List.forall_mem_cons.mpr ⟨.null, List.forall_mem_singleton.mpr hobject⟩)
  exact (Built.fresh false 0 "x").withBase ((Base.Built.empty.insert "b" (.number _)).insert "a" harray)

def floatZero (negative : Bool) : Number := .float { Double.zero with negative }

def wholeZero : Number := .whole 0 (by decide)

theorem same_equivalence_zeros :
    (holding (floatZero false)).Built ∧ (holding (floatZero true)).Built ∧
    (holding (floatZero false)).same (holding (floatZero true)) = true ∧
    (holding (floatZero true)).same (holding wholeZero) = false ∧
    (holding (floatZero false)).same (holding (floatZero false)) = true ∧
    ((holding (floatZero false)).same (holding (floatZero true)) = true →
      (holding (floatZero true)).same (holding (floatZero false)) = true) ∧
    (∀ r, (holding (floatZero false)).same (holding (floatZero true)) = true →
      (holding (floatZero true)).same r = true → (holding (floatZero false)).same r = true) ∧
    ((holding (floatZero false)).same (holding (floatZero true)) = true ↔
      false = false ∧ (0 : Int64) = 0 ∧ "x" = "x" ∧
      ∀ key, Option.Rel Alike ((holding (floatZero false)).base.get? key)
        ((holding (floatZero true)).base.get? key)) :=
  ⟨built_holding _, built_holding _, by decide, by decide,
    same_equivalence (built_holding (floatZero false)) (built_holding (floatZero true))⟩

end Bundle

end PairCache
