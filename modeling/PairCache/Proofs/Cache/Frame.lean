import PairCache.Proofs.Cache.Journal
import PairCache.Proofs.Cache.Provenance

/-!
A step of a call on one pair leaves every other pair as it is: its connection and the calls on it
(`Takes.on_or_off`).
-/
namespace PairCache

def Pair.on (pair : Pair) (other : Pair) : Bool := decide (other = pair)

namespace Cache

variable {c d : Cache} {s : Step} {pair : Pair} {call : Call}

structure SameOn (pair : Pair) (c d : Cache) : Prop where
  lookup : d.lookup pair = c.lookup pair
  calls : ∀ {id call}, call.pair = pair →
    (d.calls.get? id = some call ↔ c.calls.get? id = some call)

theorem get?_insert_off {calls : Table CallId Call} {id j : CallId} {new : Call}
    (hold : ∀ x, calls.get? id = some x → x.pair ≠ pair) (hnew : new.pair ≠ pair)
    (hpair : call.pair = pair) :
    (calls.insert id new).get? j = some call ↔ calls.get? j = some call := by
  constructor
  · intro h
    rcases Table.eq_or_of_get?_insert h with ⟨_, rfl⟩ | h
    · exact absurd hpair hnew
    · exact h
  · intro h
    refine (Table.get?_insert_of_ne ?_).trans h
    rintro rfl
    exact hold call h hpair

theorem get?_erase_off {calls : Table CallId Call} {id j : CallId}
    (hold : ∀ x, calls.get? id = some x → x.pair ≠ pair) (hpair : call.pair = pair) :
    (calls.erase id).get? j = some call ↔ calls.get? j = some call := by
  constructor
  · intro h
    exact (Table.get?_of_get?_erase h).2
  · intro h
    refine (Table.get?_erase_of_ne ?_).trans h
    rintro rfl
    exact hold call h hpair

theorem Takes.lookup_off (hs : c.Takes s d) (hfiled : c.Filed) (hclear : s ≠ .clear)
    (hoff : ∀ call, c.caller? s = some call → call.pair ≠ pair) : d.lookup pair = c.lookup pair := by
  cases hs with
  | remove hid =>
    change (c.store.erase _).get? pair = _
    rw [Table.get?_erase, if_neg (hoff _ hid).symm]
    rfl
  | @store id call new hid hstage =>
    change (c.store.put new).get? pair = _
    rw [Store.get?_put, (hfiled.carries id call hid).pair_eq hstage, if_neg (hoff call hid).symm]
    rfl
  | clear => exact absurd rfl hclear
  | _ => rfl

theorem Takes.same_off (hs : c.Takes s d) (hfiled : c.Filed) (hclear : s ≠ .clear)
    (hoff : ∀ call, c.caller? s = some call → call.pair ≠ pair) : SameOn pair c d := by
  refine ⟨hs.lookup_off hfiled hclear hoff, fun {j other} hother => ?_⟩
  cases hs.flows with
  | comes hcaller hdeed hid hcalls =>
    rw [hcalls]
    refine get?_insert_off (fun x hx => ?_) (hoff _ hcaller) hother
    rw [hid] at hx
    cases hx
  | @moves id call stage deed hcaller hdeed hid hcalls =>
    rw [hcalls]
    refine get?_insert_off (fun x hx => ?_) (hoff call hcaller) hother
    obtain rfl := Option.some.inj (hid.symm.trans hx)
    exact hoff _ hcaller
  | goes hcaller hdeed hid hcalls =>
    rw [hcalls]
    refine get?_erase_off (fun x hx => ?_) hother
    obtain rfl := Option.some.inj (hid.symm.trans hx)
    exact hoff _ hcaller
  | stays hcaller hcalls => rw [hcalls]

theorem Takes.on_or_off (hs : c.Takes s d) (hfiled : c.Filed) (hclear : s ≠ .clear) :
    (∃ call, c.caller? s = some call ∧ call.pair = pair ∧ c.deed? pair.on s = c.deedOf call s) ∨
      SameOn pair c d ∧ c.deed? pair.on s = none := by
  cases hcaller : c.caller? s with
  | none =>
    refine .inr ⟨hs.same_off hfiled hclear fun call hcall => ?_, by rw [deed?, hcaller]; rfl⟩
    cases hcaller.symm.trans hcall
  | some call =>
    have hdeed : c.deed? pair.on s = (if pair.on call.pair = true then some call else none).bind
        fun call => c.deedOf call s := by
      rw [deed?, hcaller, Option.filter_some]
    by_cases hpair : call.pair = pair
    · have hon : pair.on call.pair = true := decide_eq_true hpair
      rw [if_pos hon] at hdeed
      exact .inl ⟨call, rfl, hpair, hdeed⟩
    · rw [if_neg (by simpa [Pair.on] using hpair)] at hdeed
      refine .inr ⟨hs.same_off hfiled hclear fun other hother => ?_, hdeed⟩
      obtain rfl := Option.some.inj (hcaller.symm.trans hother)
      exact hpair

end Cache

end PairCache
