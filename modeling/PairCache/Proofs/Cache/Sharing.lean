import Mathlib.Data.List.Induction
import PairCache.Proofs.Cache.Removal
import PairCache.Proofs.Store

/-!
A cache whose store others have, too. Their accesses come between its steps, in any order (`Act`). To the
store the steps are accesses like the others, and a request puts its connection under the pair that it has
looked up (`store_keeps_latest`).
-/
namespace PairCache

inductive Act where
  | step (s : Step)
  | access (a : Store.Access)

namespace Cache

variable {c d : Cache} {s : Step} {act : Act} {acts : List Act} {config : CacheConfig}
  {id : CallId} {call : Call} {desired : Bundle}

def act? (c : Cache) : Act → Option Cache
  | .step s => c.step? s
  | .access a => some (c.access a).2

def play? (c : Cache) (acts : List Act) : Option Cache := acts.foldlM act? c

theorem play?_concat : c.play? (acts ++ [act]) = some d ↔
    ∃ e, c.play? acts = some e ∧ e.act? act = some d := by
  simp [play?, List.foldlM_append, Option.bind_eq_some_iff]

theorem Filed.access (h : c.Filed) (a : Store.Access) : (c.access a).2.Filed where
  filed hk := by
    rcases Store.get?_access_iff.mp hk with ⟨rfl, hpair⟩ | ⟨-, hold⟩
    · exact hpair
    · exact h.filed hold
  carries := h.carries

theorem Takes.store_after (hs : c.Takes s d) : ∃ accesses, d.store = c.store.after accesses := by
  cases hs with
  | @remove _ call =>
    refine ⟨[.remove call.pair], ?_⟩
    simp [Store.after, unlock, move]
  | @store _ _ k =>
    refine ⟨[.put k], ?_⟩
    simp [Store.after, unlock, move]
  | clear => exact ⟨[.clear], rfl⟩
  | _ => exact ⟨[], rfl⟩

/-- The call has looked up the connection of its pair, which could not serve it, and has not left. -/
def Sought (config : CacheConfig) (id : CallId) (call : Call) (desired : Bundle) (acts : List Act) :
    Prop :=
  ∃ before between probed, acts = before ++ .step (.resolve id) :: between ∧
    .step (.leave id) ∉ between ∧ (ofConfig config).play? before = some probed ∧
    probed.calls.get? id = some (call.moved .locking) ∧ call.operation = .request desired ∧
    ∀ old, (probed.store.access (.get call.pair)).1 = some old →
      (config.reuse && old.accepts desired) = false

theorem Sought.append (h : Sought config id call desired acts) (hact : act ≠ .step (.leave id)) :
    Sought config id call desired (acts ++ [act]) := by
  obtain ⟨before, between, probed, rfl, hstay, hprobed⟩ := h
  refine ⟨before, between ++ [act], probed, by simp, ?_, hprobed⟩
  simp only [List.mem_append, List.mem_singleton, not_or]
  exact ⟨hstay, hact.symm⟩

theorem Sought.moved (h : Sought config id call desired acts) (stage : Stage) :
    Sought config id (call.moved stage) desired acts := h

theorem Sought.asked (h : Sought config id call desired acts) : call.operation = .request desired := by
  obtain ⟨_, _, _, _, _, _, _, hop, _⟩ := h
  exact hop

theorem sought_of_locking (hplay : (ofConfig config).play? acts = some c)
    (hid : c.calls.get? id = some call) (hstage : call.stage = .locking)
    (hop : call.operation = .request desired)
    (hrefused : ∀ old, c.lookup call.pair = some old → (config.reuse && old.accepts desired) = false) :
    Sought config id call desired (acts ++ [.step (.resolve id)]) := by
  have hlocking : call.moved .locking = call := by rw [Call.moved, ← hstage]
  refine ⟨acts, [], c, rfl, List.not_mem_nil, hplay, ?_, hop, hrefused⟩
  rw [hlocking, hid]

/-- What is so of a cache after steps of its own and accesses by others. Whoever is inside of a lock is
there because of a lookup. -/
structure Shared (config : CacheConfig) (acts : List Act) (c : Cache) : Prop extends c.Filed where
  config_eq : c.config = config
  stored : ∃ accesses, c.store = Store.after .empty accesses
  inside : ∀ id call, c.calls.get? id = some call → call.stage.isInside = true →
    ∃ desired, Sought config id call desired acts

theorem Shared.access (h : Shared config acts c) (a : Store.Access) :
    Shared config (acts ++ [.access a]) (c.access a).2 where
  toFiled := h.toFiled.access a
  config_eq := h.config_eq
  stored := by
    obtain ⟨accesses, haccesses⟩ := h.stored
    refine ⟨accesses ++ [a], ?_⟩
    rw [Store.after_append, ← haccesses]
    rfl
  inside id call hid hin :=
    (h.inside id call hid hin).imp fun _ hsought => hsought.append Act.noConfusion

theorem Shared.takes_inside (h : Shared config acts c) (hplay : (ofConfig config).play? acts = some c)
    (hs : c.Takes s d) : ∀ id call, d.calls.get? id = some call → call.stage.isInside = true →
      ∃ desired, Sought config id call desired (acts ++ [.step s]) := by
  have hold : ∀ id call, c.calls.get? id = some call → call.stage.isInside = true →
      ∃ desired, Sought config id call desired (acts ++ [.step s]) := by
    intro id call hid hin
    have hact : Act.step s ≠ .step (.leave id) := fun heq => hs.ne_leave hid hin (Act.step.inj heq)
    exact (h.inside id call hid hin).imp fun _ hsought => hsought.append hact
  -- a call gets inside by its lookup; from there on it was inside before
  cases hs with
  | @reject id call desired old hid hstage hop _ hfound hreject =>
    refine Table.forall_insert hold fun _ => ⟨desired, Sought.moved ?_ _⟩
    refine sought_of_locking hplay hid hstage hop fun other hother => ?_
    obtain rfl := Option.some.inj (hfound.symm.trans hother)
    rwa [h.config_eq] at hreject
  | @miss id call desired hid hstage hop _ hnone =>
    refine Table.forall_insert hold fun _ => ⟨desired, Sought.moved ?_ _⟩
    refine sought_of_locking hplay hid hstage hop fun other hother => ?_
    cases hnone.symm.trans hother
  | launch hid hstage | done hid hstage =>
    refine Table.forall_insert hold fun _ => ?_
    exact (hold _ _ hid (by rw [hstage]; rfl)).imp fun _ hsought => hsought.moved _
  | leave => exact Table.forall_erase _ hold
  | clear => exact hold
  | _ =>
    refine Table.forall_insert hold fun hin => ?_
    cases hin

theorem Shared.takes (h : Shared config acts c) (hplay : (ofConfig config).play? acts = some c)
    (hs : c.Takes s d) : Shared config (acts ++ [.step s]) d where
  toFiled := h.toFiled.takes hs
  config_eq := hs.config_eq.trans h.config_eq
  stored := by
    obtain ⟨accesses, haccesses⟩ := h.stored
    obtain ⟨more, hmore⟩ := hs.store_after
    refine ⟨accesses ++ more, ?_⟩
    rw [Store.after_append, ← haccesses, hmore]
  inside := h.takes_inside hplay hs

theorem shared_of_play? (h : (ofConfig config).play? acts = some c) : Shared config acts c := by
  induction acts using List.reverseRecOn generalizing c with
  | nil =>
    obtain rfl := Option.some.inj h
    exact ⟨filed_ofConfig config, rfl, ⟨[], rfl⟩, fun id call hid => by cases hid⟩
  | append_singleton acts act ih =>
    obtain ⟨e, he, hact⟩ := play?_concat.mp h
    cases act with
    | step s => exact (ih he).takes he (takes_of_step? hact)
    | access a =>
      obtain rfl := Option.some.inj hact
      exact (ih he).access a

/-- The connection goes to the pair of the lookup, and no other pair sees it. -/
structure Lands (config : CacheConfig) (acts : List Act) (id : CallId) (call : Call) (k : Connection)
    (c d : Cache) : Prop where
  present : c.calls.get? id = some call
  storing : call.stage = .storing k
  sought : Sought config id call k.parameters acts
  pair_eq : k.pair = call.pair
  put : d.store = (c.store.access (.put k)).2
  found : (d.store.access (.get call.pair)).1 = some k
  others : ∀ pair, pair ≠ call.pair →
    (d.store.access (.get pair)).1 = (c.store.access (.get pair)).1

theorem Shared.lands (h : Shared config acts c) (hs : c.Takes (.store id) d) :
    ∃ call k, Lands config acts id call k c d := by
  cases hs with
  | @store _ call k hid hstage =>
    have hpair : k.pair = call.pair := (h.carries id call hid).pair_eq hstage
    obtain ⟨-, -, hop⟩ := h.carries id call hid k hstage
    obtain ⟨desired, hsought⟩ := h.inside id call hid (by rw [hstage]; rfl)
    obtain rfl : desired = k.parameters := Operation.request.inj (hsought.asked.symm.trans hop)
    refine ⟨call, k, hid, hstage, hsought, hpair, ?_, ?_, fun pair hne => ?_⟩
    · rw [Store.access_put]
      rfl
    · rw [← hpair]
      exact (Store.get?_put c.store k k.pair).trans (if_pos rfl)
    · rw [← hpair] at hne
      exact Table.get?_insert_of_ne hne

theorem store_keeps_latest :
    (∀ accesses, Store.Recalls accesses (Store.after .empty accesses)) ∧
    ∀ config acts c, (ofConfig config).play? acts = some c →
      (∃ accesses, Store.Recalls accesses c.store) ∧
      ∀ d id, c.step? (.store id) = some d → ∃ call k, Lands config acts id call k c d := by
  refine ⟨Store.recalls_after, fun config acts c hplay => ?_⟩
  have hshared := shared_of_play? hplay
  obtain ⟨accesses, haccesses⟩ := hshared.stored
  refine ⟨⟨accesses, ?_⟩, fun d id hstore => hshared.lands (takes_of_step? hstore)⟩
  rw [haccesses]
  exact Store.recalls_after accesses

/-- While a request runs, others put a connection of the same pair into the store. -/
def disturbed : List Act :=
  let a : Object Input := ⟨1, 1, .plain "a"⟩
  let b : Object Input := ⟨2, 2, .plain "b"⟩
  [.step (.start 1 a b (.request {})), .step (.resolve 1), .step (.launch 1),
    .access (.put ⟨⟨7⟩, a, b, ⟨7, 7, .second, "b"⟩, {}⟩), .step (.finish 1 (.done ⟨.second, "b"⟩))]

theorem store_keeps_latest_disturbed : ∃ c d call k, (ofConfig {}).play? disturbed = some c ∧
    c.step? (.store 1) = some d ∧ call.pair = ⟨1, 2⟩ ∧ Sought {} 1 call k.parameters disturbed ∧
    (c.store.access (.get ⟨1, 2⟩)).1.map (·.id) = some ⟨7⟩ ∧
    (d.store.access (.get ⟨1, 2⟩)).1 = some k ∧ k.id = ⟨1⟩ := by
  obtain ⟨c, d, hplay, hstore, hpair, hfound, hnew⟩ : ∃ c d,
      (ofConfig {}).play? disturbed = some c ∧ c.step? (.store 1) = some d ∧
        (c.calls.get? 1).map Call.pair = some ⟨1, 2⟩ ∧
        (c.store.access (.get ⟨1, 2⟩)).1.map (·.id) = some ⟨7⟩ ∧
        (d.store.access (.get ⟨1, 2⟩)).1.map (·.id) = some ⟨1⟩ :=
    ⟨_, _, rfl, rfl, rfl, rfl, rfl⟩
  obtain ⟨call, k, hlands⟩ := (store_keeps_latest.2 {} disturbed c hplay).2 d 1 hstore
  rw [hlands.present] at hpair
  have hcall : call.pair = ⟨1, 2⟩ := Option.some.inj hpair
  have hget := hcall ▸ hlands.found
  rw [hget] at hnew
  exact ⟨c, d, call, k, hplay, hstore, hcall, hlands.sought, hfound, hget, Option.some.inj hnew⟩

end Cache

end PairCache
