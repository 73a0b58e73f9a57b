import PairCache.Proofs.Json.Basic
import PairCache.Proofs.Number.Binary
import PairCache.Proofs.Sorted

/-!
Equality of JSON values by what they are made of: `Alike` values have equal items place by place and
equal members key by key, and numbers of one kind that stand for the same number.
-/
namespace PairCache.Json

inductive Alike : Json → Json → Prop
  | null : Alike .null .null
  | bool (b : Bool) : Alike (.bool b) (.bool b)
  | whole {i j : Int} {hi : -9223372036854775808 ≤ i ∧ i < 18446744073709551616}
      {hj : -9223372036854775808 ≤ j ∧ j < 18446744073709551616} (h : i = j) :
      Alike (.number (.whole i hi)) (.number (.whole j hj))
  | float {x y : Double} (h : x.steps = y.steps) :
      Alike (.number (.float x)) (.number (.float y))
  | string (s : String) : Alike (.string s) (.string s)
  | array {xs ys : List Json} (h : List.Forall₂ Alike xs ys) : Alike (.array xs) (.array ys)
  | object {ms ns : List (String × Json)}
      (h : ∀ key, Option.Rel Alike (Sorted.get? key ms) (Sorted.get? key ns)) :
      Alike (.object ms) (.object ns)

theorem sameItems_iff {R : Json → Json → Prop} {xs ys : List Json}
    (h : ∀ x ∈ xs, ∀ y ∈ ys, same x y = true ↔ R x y) :
    sameItems xs ys = true ↔ List.Forall₂ R xs ys := by
  induction xs generalizing ys with
  | nil => cases ys <;> simp [sameItems]
  | cons x xs ih =>
    cases ys with
    | nil => simp [sameItems]
    | cons y ys =>
      have hhead := h x List.mem_cons_self y List.mem_cons_self
      have htail := ih fun v hv w hw =>
        h v (List.mem_cons_of_mem _ hv) w (List.mem_cons_of_mem _ hw)
      simp [sameItems, hhead, htail]

theorem sameMembers_iff {R : Json → Json → Prop} {ms ns : List (String × Json)}
    (h : ∀ m ∈ ms, ∀ n ∈ ns, same m.2 n.2 = true ↔ R m.2 n.2) :
    sameMembers ms ns = true ↔ List.Forall₂ (fun m n => m.1 = n.1 ∧ R m.2 n.2) ms ns := by
  induction ms generalizing ns with
  | nil => cases ns <;> simp [sameMembers]
  | cons m ms ih =>
    cases ns with
    | nil => simp [sameMembers]
    | cons n ns =>
      have hhead := h m List.mem_cons_self n List.mem_cons_self
      have htail := ih fun v hv w hw =>
        h v (List.mem_cons_of_mem _ hv) w (List.mem_cons_of_mem _ hw)
      simp [sameMembers, hhead, htail]

/-- Members are compared in their order, which is the order of the keys on both sides. -/
theorem sameMembers_iff_get? {R : Json → Json → Prop} {ms ns : List (String × Json)}
    (hms : Sorted.Ordered ms) (hns : Sorted.Ordered ns)
    (h : ∀ m ∈ ms, ∀ n ∈ ns, same m.2 n.2 = true ↔ R m.2 n.2) :
    sameMembers ms ns = true ↔ ∀ key, Option.Rel R (Sorted.get? key ms) (Sorted.get? key ns) :=
  (sameMembers_iff h).trans (Sorted.forall₂_iff_get? hms hns)

theorem number_same_iff {m n : Number} :
    m.same n = true ↔ Alike (.number m) (.number n) := by
  constructor
  · intro h
    cases m with
    | whole i hi =>
      cases n with
      | whole j hj => exact .whole (eq_of_beq h)
      | float y => cases h
    | float x =>
      cases n with
      | whole j hj => cases h
      | float y => exact .float (Double.same_iff_steps.mp h)
  · intro h
    cases h with
    | whole h => exact beq_iff_eq.mpr h
    | float h => exact Double.same_iff_steps.mpr h

theorem same_iff_alike {v w : Json} (hv : v.WellFormed) (hw : w.WellFormed) :
    v.same w = true ↔ Alike v w := by
  -- values of two kinds are neither the same nor alike, by the form of both definitions
  induction v using Json.induct generalizing w with
  | null =>
    cases w with
    | null => exact ⟨fun _ => .null, fun _ => rfl⟩
    | _ => exact ⟨nofun, nofun⟩
  | bool b =>
    cases w with
    | bool c =>
      constructor
      · intro h
        obtain rfl := eq_of_beq h
        exact .bool b
      · rintro ⟨⟩
        exact beq_self_eq_true b
    | _ => exact ⟨nofun, nofun⟩
  | number m =>
    cases w with
    | number n => exact number_same_iff
    | _ => exact ⟨nofun, nofun⟩
  | string s =>
    cases w with
    | string t =>
      constructor
      · intro h
        obtain rfl := eq_of_beq h
        exact .string s
      · rintro ⟨⟩
        exact beq_self_eq_true s
    | _ => exact ⟨nofun, nofun⟩
  | array xs ih =>
    cases w with
    | array ys =>
      cases hv with
      | array hxs =>
      cases hw with
      | array hys =>
      have hitems := sameItems_iff fun x hx y hy => ih x hx (hxs x hx) (hys y hy)
      exact ⟨fun h => .array (hitems.mp h), fun | .array h => hitems.mpr h⟩
    | _ => exact ⟨nofun, nofun⟩
  | object ms ih =>
    cases w with
    | object ns =>
      cases hv with
      | object hordered hms =>
      cases hw with
      | object hordered' hns =>
      have hmembers := sameMembers_iff_get? hordered hordered' fun m hm n hn =>
        ih m hm (hms m hm) (hns n hn)
      exact ⟨fun h => .object (hmembers.mp h), fun | .object h => hmembers.mpr h⟩
    | _ => exact ⟨nofun, nofun⟩

end PairCache.Json
