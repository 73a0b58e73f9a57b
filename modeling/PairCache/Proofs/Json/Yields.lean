import PairCache.Json.Decoder
import PairCache.Proofs.Json.Basic

/-!
What readers yield. A loop over items or members keeps what each of its steps keeps, so every value
that is read is well-formed (`yields_value`), and a record has what its fields put into it.
-/
namespace PairCache.Json

variable {α β σ : Type} {P : α → Prop}

def Yields (P : α → Prop) (r : Result α) : Prop := ∀ a rest, r = .ok (a, rest) → P a

namespace Yields

theorem of_error (e : ReadError) : Yields P (.error e) := by
  intro a rest h
  cases h

theorem of_ok {a : α} (h : P a) (rest : List Char) : Yields P (.ok (a, rest)) := by
  rintro _ _ ⟨⟩
  exact h

theorem bind {x : Except ReadError β} {f : β → Result α} (h : ∀ b, x = .ok b → Yields P (f b)) :
    Yields P (x.bind f) := by
  cases x with
  | error e => exact of_error e
  | ok b => exact h b rfl

theorem map {x : Except ReadError β} {f : β → α × List Char} (h : ∀ b, x = .ok b → P (f b).1) :
    Yields P (x.map f) := by
  cases x with
  | error e => exact of_error e
  | ok b => exact of_ok (h b rfl) _

end Yields

variable {I : σ → Prop}

theorem yields_items {step : σ → Reader σ} (hstep : ∀ acc cs, I acc → Yields I (step acc cs))
    (fuel : Nat) (first : Bool) {acc : σ} (hacc : I acc) (cs : List Char) :
    Yields I (items step fuel first acc cs) := by
  induction fuel generalizing first acc cs with
  | zero => exact .of_error _
  | succ fuel ih =>
    refine .bind fun next _ => ?_
    cases next with
    | none => exact .bind fun rest _ => .of_ok hacc rest
    | some cs => exact .bind fun p hp => ih false (hstep acc cs hacc p.1 p.2 hp) p.2

theorem yields_members {step : σ → List Char → Reader σ}
    (hstep : ∀ acc key cs, I acc → Yields I (step acc key cs)) (fuel : Nat) (first : Bool) {acc : σ}
    (hacc : I acc) (cs : List Char) : Yields I (members step fuel first acc cs) := by
  induction fuel generalizing first acc cs with
  | zero => exact .of_error _
  | succ fuel ih =>
    refine .bind fun next _ => ?_
    cases next with
    | none => exact .bind fun rest _ => .of_ok hacc rest
    | some cs =>
      refine .bind fun key _ => .bind fun p hp => ?_
      exact ih false (hstep acc key.1 key.2 hacc p.1 p.2 hp) p.2

theorem yields_scalar (cs : List Char) : Yields WellFormed (scalar cs) := by
  cases cs with
  | nil => exact .of_error _
  | cons c rest =>
    rw [scalar]
    split
    · exact .map fun _ _ => WellFormed.null
    split
    · exact .map fun _ _ => WellFormed.bool true
    split
    · exact .map fun _ _ => WellFormed.bool false
    split
    · exact .map fun _ _ => WellFormed.string _
    split
    · exact .map fun _ _ => WellFormed.number _
    exact .of_error _

theorem WellFormed.insert {ms : List (String × Json)} (h : WellFormed (.object ms)) (key : String)
    {v : Json} (hv : v.WellFormed) : WellFormed (.object (Sorted.insert key v ms)) := by
  cases h with
  | object hordered hmembers =>
  refine .object (Sorted.ordered_insert hordered) fun m hm => ?_
  rcases Sorted.mem_insert hm with rfl | hm
  · exact hv
  · exact hmembers m hm

theorem yields_value (depth : Nat) (cs : List Char) : Yields WellFormed (value depth cs) := by
  induction depth generalizing cs with
  | zero => exact yields_scalar _
  | succ depth ih =>
    rw [value]
    split
    · have hstep : ∀ acc cs, (∀ x ∈ acc, WellFormed x) → Yields (fun xs => ∀ x ∈ xs, WellFormed x)
          ((value depth cs).map fun p => (p.1 :: acc, p.2)) := by
        intro acc cs hacc
        exact .map fun p hp => List.forall_mem_cons.mpr ⟨ih cs p.1 p.2 hp, hacc⟩
      refine .bind fun p hp => .of_ok (.array fun x hx => ?_) p.2
      have hall := yields_items hstep _ true (by simp) _ p.1 p.2 hp
      exact hall x (List.mem_reverse.mp hx)
    · have hstep : ∀ acc key cs, WellFormed (.object acc) → Yields (fun ms => WellFormed (.object ms))
          (((expect ':' cs).bind (value depth)).map fun p =>
            (Sorted.insert (String.ofList key) p.1 acc, p.2)) := by
        intro acc key cs hacc
        exact .map fun p hp => hacc.insert _ (Yields.bind (fun rest _ => ih rest) p.1 p.2 hp)
      refine .bind fun p hp => .of_ok ?_ p.2
      exact yields_members hstep _ true (.object .nil (by simp)) _ p.1 p.2 hp
    · exact yields_scalar _

namespace Decoder

theorem yields_nested {body : Nat → List Char → Result α} (h : ∀ depth cs, Yields P (body depth cs))
    (depth : Nat) (cs : List Char) : Yields P (nested body depth cs) := by
  cases depth with
  | zero => exact .of_error _
  | succ depth => exact h depth cs

theorem yields_wrongType (expected : String) (cs : List Char) :
    Yields P (wrongType expected cs) := by
  rw [wrongType]
  split
  · exact .of_error _
  split
  · exact .of_error _
  split
  · exact .of_error _
  split <;> exact .of_error _

theorem yields_members_decoder {insert : String → β → σ → σ} {start : σ} {d : Decoder β}
    {Q : β → Prop} (hd : ∀ depth cs, Yields Q (d depth cs))
    (hinsert : ∀ key b acc, Q b → I acc → I (insert key b acc)) (hstart : I start) (depth : Nat)
    (cs : List Char) : Yields I (members insert start d depth cs) := by
  have hstep : ∀ depth acc key cs, I acc → Yields I (((expect ':' cs).bind (d depth)).map fun p =>
      (insert (String.ofList key) p.1 acc, p.2)) := by
    intro depth acc key cs hacc
    exact .map fun p hp => hinsert _ p.1 acc (Yields.bind (fun rest _ => hd depth rest) p.1 p.2 hp) hacc
  rw [members]
  split
  · exact yields_nested (fun depth cs => yields_members (hstep depth) _ true hstart cs) depth _
  · exact yields_wrongType _ _

theorem yields_fieldsByPosition {fields : List (Field σ)} (expected : String)
    (hread : ∀ f ∈ fields, ∀ s depth cs, I s → Yields I (f.read s depth cs)) (index : Nat) {s : σ}
    (hs : I s) (depth : Nat) (cs : List Char) :
    Yields I (fieldsByPosition expected fields index s depth cs) := by
  induction fields generalizing index s cs with
  | nil => exact .bind fun rest _ => .of_ok hs rest
  | cons f fields ih =>
    have hrest := ih fun g hg => hread g (List.mem_cons_of_mem _ hg)
    refine .bind fun next _ => ?_
    cases next with
    | none =>
      simp only
      split
      · exact hrest _ hs cs
      · exact .of_error _
    | some cs =>
      exact .bind fun p hp => hrest _ (hread f List.mem_cons_self s depth cs hs p.1 p.2 hp) p.2

theorem yields_fieldByName {fields : List (Field σ)}
    (hread : ∀ f ∈ fields, ∀ s depth cs, I s → Yields I (f.read s depth cs)) (depth : Nat) {s : σ}
    (hs : I s) (key cs : List Char) : Yields I (fieldByName fields depth s key cs) := by
  rw [fieldByName]
  split
  · exact .bind fun _ _ => .bind fun rest _ => .of_ok hs rest
  · rename_i f hf
    split
    · exact .of_error _
    · exact .bind fun rest _ => hread f (List.mem_of_find?_eq_some hf) s depth rest hs

theorem yields_record {name : String} {fields : List (Field σ)} {start : σ}
    {finish : σ → Except ReadError α}
    (hread : ∀ f ∈ fields, ∀ s depth cs, I s → Yields I (f.read s depth cs)) (hstart : I start)
    (hfinish : ∀ s a, I s → finish s = .ok a → P a) (depth : Nat) (cs : List Char) :
    Yields P (record name fields start finish depth cs) := by
  have hended : ∀ r : Result σ, Yields I r → Yields P (r.bind fun p =>
      (finish p.1).bind fun a => .ok (a, p.2)) := by
    intro r hr
    exact .bind fun p hp => .bind fun a ha => .of_ok (hfinish p.1 a (hr p.1 p.2 hp) ha) p.2
  rw [record]
  split
  · exact yields_nested (fun depth cs =>
      hended _ (yields_fieldsByPosition _ hread 0 hstart depth cs)) depth _
  · exact yields_nested (fun depth cs =>
      hended _ (yields_members (fun acc key cs hacc => yields_fieldByName hread depth hacc key cs)
        _ true hstart cs)) depth _
  · exact yields_wrongType _ _

end Decoder

end PairCache.Json
