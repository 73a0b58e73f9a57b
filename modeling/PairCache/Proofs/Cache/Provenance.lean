import PairCache.Proofs.Cache.Steps

/-!
Where connections come from: in a run that an algorithm explains, every connection that is kept was made
by a run on its own inputs with its own parameters, and is filed under the pair of its inputs.
-/
namespace PairCache

def Algorithm.ending? (a : Algorithm) (call : Call) : Option Outcome :=
  match call.operation with
  | .request desired => some (a.outcome call.first.value call.second.value desired)
  | .invalidate => none

def Algorithm.Explains (a : Algorithm) (c : Cache) : Step → Prop
  | .finish id outcome => (c.calls.get? id).bind a.ending? = some outcome ∨ outcome = .panicked
  | _ => True

instance (a : Algorithm) (c : Cache) : (s : Step) → Decidable (a.Explains c s)
  | .finish id outcome => inferInstanceAs (Decidable
      ((c.calls.get? id).bind a.ending? = some outcome ∨ outcome = .panicked))
  | .start .. | .resolve _ | .launch _ | .store _ | .leave _ | .cancel _ | .clear => isTrue trivial

theorem Algorithm.Explains.outcome_eq {a : Algorithm} {c : Cache} {id : CallId} {call : Call}
    {desired : Bundle} {outcome : Outcome} (h : a.Explains c (.finish id outcome))
    (hid : c.calls.get? id = some call) (hop : call.operation = .request desired) :
    a.outcome call.first.value call.second.value desired = outcome ∨ outcome = .panicked := by
  rcases h with h | h
  · simp only [hid, Option.bind_some, Algorithm.ending?, hop] at h
    exact .inl (Option.some.inj h)
  · exact .inr h

def Algorithm.Made (a : Algorithm) (k : Connection) : Prop :=
  a.outcome k.first.value k.second.value k.parameters = .done k.output.value

def Call.Carries (call : Call) : Prop :=
  ∀ k, call.stage = .storing k → k.first = call.first ∧ k.second = call.second ∧
    call.operation = .request k.parameters

theorem Call.Carries.pair_eq {call : Call} {k : Connection} (h : call.Carries)
    (hstage : call.stage = .storing k) : k.pair = call.pair := by
  obtain ⟨hfirst, hsecond, _⟩ := h k hstage
  simp only [Connection.pair, Call.pair, hfirst, hsecond]

namespace Cache

variable {a : Algorithm} {c d : Cache} {s : Step} {steps : List Step} {config : CacheConfig}

structure Filed (c : Cache) : Prop where
  filed : ∀ {pair k}, c.lookup pair = some k → k.pair = pair
  carries : ∀ id call, c.calls.get? id = some call → call.Carries

theorem filed_ofConfig (config : CacheConfig) : (ofConfig config).Filed where
  filed h := by cases h
  carries _ _ h := by cases h

theorem Filed.takes_carries (h : c.Filed) (hs : c.Takes s d) :
    ∀ id call, d.calls.get? id = some call → call.Carries := by
  cases hs with
  | done hid hstage hop =>
    refine Table.forall_insert h.carries ?_
    intro k hk
    obtain rfl := Stage.storing.inj hk
    exact ⟨rfl, rfl, hop⟩
  | leave => exact Table.forall_erase _ h.carries
  | clear => exact h.carries
  | _ =>
    refine Table.forall_insert h.carries ?_
    intro k hk
    cases hk

theorem Filed.takes (h : c.Filed) (hs : c.Takes s d) : d.Filed where
  filed hk := by
    rcases hs.lookup hk with hold | ⟨_, _, _, _, hpair, _⟩
    · exact h.filed hold
    · exact hpair.symm
  carries := h.takes_carries hs

theorem filed_of_run? (h : (ofConfig config).run? steps = some c) : c.Filed :=
  run?_keeps (fun hc hs => hc.takes hs) (filed_ofConfig config) h

structure Sourced (a : Algorithm) (c : Cache) : Prop extends c.Filed where
  made : ∀ {pair k}, c.lookup pair = some k → a.Made k
  making : ∀ id call, c.calls.get? id = some call → ∀ k, call.stage = .storing k → a.Made k

theorem sourced_ofConfig (a : Algorithm) (config : CacheConfig) :
    (ofConfig config).Sourced a where
  toFiled := filed_ofConfig config
  made h := by cases h
  making _ _ h := by cases h

theorem made_connect {id : CallId} {call : Call} {desired : Bundle} {output : Derived}
    (hid : c.calls.get? id = some call) (hop : call.operation = .request desired)
    (hx : a.Explains c (.finish id (.done output))) : a.Made (c.connect call desired output) := by
  rcases hx.outcome_eq hid hop with heq | heq
  · exact heq
  · cases heq

theorem Sourced.takes_making (h : c.Sourced a) (hx : a.Explains c s) (hs : c.Takes s d) :
    ∀ id call, d.calls.get? id = some call → ∀ k, call.stage = .storing k → a.Made k := by
  cases hs with
  | done hid hstage hop =>
    refine Table.forall_insert h.making ?_
    intro k hk
    obtain rfl := Stage.storing.inj hk
    exact made_connect hid hop hx
  | leave => exact Table.forall_erase _ h.making
  | clear => exact h.making
  | _ =>
    refine Table.forall_insert h.making ?_
    intro k hk
    cases hk

theorem Sourced.takes (h : c.Sourced a) (hx : a.Explains c s) (hs : c.Takes s d) :
    d.Sourced a where
  toFiled := h.toFiled.takes hs
  made hk := by
    rcases hs.lookup hk with hold | ⟨id, call, hid, hstage, _⟩
    · exact h.made hold
    · exact h.making id call hid _ hstage
  making := h.takes_making hx hs

end Cache

end PairCache
