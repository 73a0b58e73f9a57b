import Mathlib.Data.List.Basic
import PairCache.Proofs.Cache.Sequential
import PairCache.Select

/-!
A running cache answers its calls as if it were asked one thing after another. `Watch` notes when each
call starts and returns, and what it is answered; the calls that have an answer are put in the order in
which they let go of the lock of their pair.
-/
namespace PairCache

inductive Move where
  | step (s : Step)
  | lookup (pair : Pair)

def Move.step? : Move → Option Step
  | .step s => some s
  | .lookup _ => none

/-- A call that has its answer; it has ended when it has returned. -/
structure Past where
  ask : Ask
  reply : Reply
  began : Nat
  ended : Option Nat

namespace Call

variable {call : Call} {reply : Reply}

def past? (call : Call) (began : Nat) (ended : Option Nat) : Option Past :=
  call.reply?.map fun reply => ⟨call.ask, reply, began, ended⟩

theorem past?_of_none (h : call.reply? = none) (began : Nat) (ended : Option Nat) :
    call.past? began ended = none := by
  rw [past?, h]
  rfl

theorem past?_of_some (h : call.reply? = some reply) (began : Nat) (ended : Option Nat) :
    call.past? began ended = some ⟨call.ask, reply, began, ended⟩ := by
  rw [past?, h]
  rfl

end Call

structure Watch where
  cache : Cache
  clock : Nat := 0
  began : CallId → Nat := fun _ => 0
  past : List Past := []

def pendingOf (began : CallId → Nat) (calls : Table CallId Call) : List Past :=
  calls.entries.flatMap fun e => (e.2.past? (began e.1) none).toList

namespace Watch

def ofConfig (config : CacheConfig) : Watch := { cache := .ofConfig config }

def pending (w : Watch) : List Past := pendingOf w.began w.cache.calls

def beganAfter (w : Watch) : Step → CallId → Nat
  | .start id .. => Function.update w.began id w.clock
  | _ => w.began

def returned (w : Watch) : Step → List Past
  | .leave id =>
    ((w.cache.calls.get? id).bind fun call => call.past? (w.began id) (some w.clock)).toList
  | .clear => [⟨.clear, .cleared, w.clock, some w.clock⟩]
  | _ => []

def after (w : Watch) (s : Step) (cache : Cache) : Watch where
  cache := cache
  clock := w.clock + 1
  began := w.beganAfter s
  past := w.past ++ w.returned s

def looked (w : Watch) (pair : Pair) : Past :=
  ⟨.lookup pair, .found (w.cache.content pair), w.clock, some w.clock⟩

def move? (w : Watch) : Move → Option Watch
  | .step s => (w.cache.step? s).map (w.after s)
  | .lookup pair => some { w with clock := w.clock + 1, past := w.past ++ [w.looked pair] }

def run? (w : Watch) : List Move → Option Watch
  | [] => some w
  | m :: moves => do (← w.move? m).run? moves

end Watch

section

variable {began later : CallId → Nat} {calls : Table CallId Call} {id : CallId} {call new : Call}

theorem pendingOf_insert (began : CallId → Nat) (calls : Table CallId Call) (id : CallId) (new : Call) :
    pendingOf began (calls.insert id new) =
      (new.past? (began id) none).toList ++ pendingOf began (calls.erase id) :=
  List.flatMap_cons

theorem pendingOf_perm (began : CallId → Nat) (hid : calls.get? id = some call) :
    (pendingOf began calls).Perm
      ((call.past? (began id) none).toList ++ pendingOf began (calls.erase id)) :=
  (Table.entries_perm_of_get? hid).flatMap_right _

theorem pendingOf_insert_perm (began : CallId → Nat) (hid : calls.get? id = some call)
    (hbefore : call.reply? = none) (new : Call) :
    (pendingOf began (calls.insert id new)).Perm
      ((new.past? (began id) none).toList ++ pendingOf began calls) := by
  have hold := pendingOf_perm began hid
  rw [Call.past?_of_none hbefore] at hold
  rw [pendingOf_insert]
  exact hold.symm.append_left _

theorem pendingOf_congr (h : ∀ j call, calls.get? j = some call → began j = later j) :
    pendingOf began calls = pendingOf later calls := by
  refine List.flatMap_congr fun e he => ?_
  rw [h e.1 e.2 (Table.mem_entries.mp he)]

theorem pendingOf_start (hid : calls.get? id = none) (hnew : new.reply? = none) (n : Nat) :
    pendingOf (Function.update began id n) (calls.insert id new) = pendingOf began calls := by
  rw [pendingOf_insert, Call.past?_of_none hnew, Table.erase_eq_self hid]
  refine pendingOf_congr fun j call hj => Function.update_of_ne ?_ _ _
  rintro rfl
  simp [hid] at hj

end

namespace Watch

variable {a : Algorithm} {config : CacheConfig} {w v : Watch} {order : List (Nat × Past)}

structure Orders (a : Algorithm) (w : Watch) (order : List (Nat × Past)) : Prop where
  calls : (order.map Prod.snd).Perm (w.past ++ w.pending)
  sorted : (order.map Prod.fst).Pairwise (· < ·)
  placed : ∀ x ∈ order, x.2.began ≤ x.1 ∧ ∀ n ∈ x.2.ended, x.1 ≤ n
  before : ∀ x ∈ order, x.1 < w.clock
  replies : Plain.empty.askAll a w.cache.config.reuse (order.map (·.2.ask)) =
    (w.cache.content, order.map (·.2.reply))

theorem Orders.quiet (h : w.Orders a order) (hcalls : (v.past ++ v.pending).Perm (w.past ++ w.pending))
    (hclock : v.clock = w.clock + 1) (hconfig : v.cache.config = w.cache.config)
    (hcontent : v.cache.content = w.cache.content) : v.Orders a order where
  calls := h.calls.trans hcalls.symm
  sorted := h.sorted
  placed := h.placed
  before x hx := by
    have hlt := h.before x hx
    omega
  replies := by
    rw [hconfig, hcontent]
    exact h.replies

theorem Orders.extend (h : w.Orders a order) {p : Past}
    (hcalls : (v.past ++ v.pending).Perm (p :: (w.past ++ w.pending)))
    (hclock : v.clock = w.clock + 1) (hconfig : v.cache.config = w.cache.config)
    (hbegan : p.began ≤ w.clock) (hended : ∀ n ∈ p.ended, w.clock ≤ n)
    (hask : w.cache.content.ask a w.cache.config.reuse p.ask = (v.cache.content, p.reply)) :
    v.Orders a (order ++ [(w.clock, p)]) where
  calls := by
    rw [List.map_append]
    refine (List.perm_append_singleton _ _).trans (.trans ?_ hcalls.symm)
    exact h.calls.cons _
  sorted := by
    rw [List.map_append]
    refine List.pairwise_append.mpr ⟨h.sorted, List.pairwise_singleton _ _, ?_⟩
    intro n hn m hm
    obtain ⟨x, hx, rfl⟩ := List.mem_map.mp hn
    rw [List.mem_singleton.mp hm]
    exact h.before x hx
  placed x hx := by
    rcases List.mem_append.mp hx with hx | hx
    · exact h.placed x hx
    · rw [List.mem_singleton.mp hx]
      exact ⟨hbegan, hended⟩
  before x hx := by
    rw [hclock]
    rcases List.mem_append.mp hx with hx | hx
    · exact Nat.lt_succ_of_lt (h.before x hx)
    · rw [List.mem_singleton.mp hx]
      exact Nat.lt_succ_self _
  replies := by
    rw [hconfig, List.map_append, List.map_append]
    exact Plain.askAll_append h.replies hask

theorem Orders.ends (h : w.Orders a order) {p : Past} {rest : List Past}
    (hpending : w.pending.Perm (p :: rest))
    (hpast : v.past = w.past ++ [{ p with ended := some w.clock }])
    (hrest : v.pending = rest) (hclock : v.clock = w.clock + 1)
    (hconfig : v.cache.config = w.cache.config) (hcontent : v.cache.content = w.cache.content) :
    ∃ order, v.Orders a order := by
  have hmem : p ∈ order.map Prod.snd :=
    h.calls.mem_iff.mpr (List.mem_append_right _ (hpending.mem_iff.mpr List.mem_cons_self))
  obtain ⟨⟨n, p⟩, hx, rfl⟩ := List.mem_map.mp hmem
  obtain ⟨before, after, rfl⟩ := List.append_of_mem hx
  have hn := h.before (n, p) (by simp)
  have hp := h.placed (n, p) (by simp)
  have hnew : ∀ x ∈ before ++ (n, { p with ended := some w.clock }) :: after,
      x ∈ before ++ (n, p) :: after ∨ x = (n, { p with ended := some w.clock }) := by
    intro x hx
    simp only [List.mem_append, List.mem_cons] at hx ⊢
    tauto
  refine ⟨before ++ (n, { p with ended := some w.clock }) :: after, ?_, ?_, ?_, ?_, ?_⟩
  · have hold : (p :: (before.map Prod.snd ++ after.map Prod.snd)).Perm (p :: (w.past ++ rest)) := by
      refine List.perm_middle.symm.trans (.trans ?_ List.perm_middle)
      refine .trans ?_ (hpending.append_left w.past)
      simpa using h.calls
    rw [hpast, hrest, List.map_append, List.map_cons, List.append_assoc]
    exact List.perm_middle.trans ((hold.cons_inv.cons _).trans List.perm_middle.symm)
  · simpa using h.sorted
  · intro x hx
    rcases hnew x hx with hx | rfl
    · exact h.placed x hx
    · refine ⟨hp.1, fun m hm => ?_⟩
      obtain rfl := Option.some.inj hm
      exact Nat.le_of_lt hn
  · intro x hx
    rw [hclock]
    rcases hnew x hx with hx | rfl
    · exact Nat.lt_succ_of_lt (h.before x hx)
    · exact Nat.lt_succ_of_lt hn
  · rw [hconfig, hcontent]
    simpa using h.replies

structure Good (a : Algorithm) (config : CacheConfig) (w : Watch) : Prop where
  config : w.cache.config = config
  locked : w.cache.Locked
  sourced : w.cache.Sourced a
  refused : w.cache.Refused
  began : ∀ id, w.began id ≤ w.clock
  order : ∃ order, w.Orders a order

theorem good_ofConfig (a : Algorithm) (config : CacheConfig) : (ofConfig config).Good a config where
  config := rfl
  locked := Cache.locked_ofConfig config
  sourced := Cache.sourced_ofConfig a config
  refused := Cache.refused_ofConfig config
  began _ := Nat.le_refl _
  order := ⟨[], .refl _, .nil, fun _ hx => absurd hx List.not_mem_nil,
    fun _ hx => absurd hx List.not_mem_nil, rfl⟩

theorem beganAfter_le (h : ∀ id, w.began id ≤ w.clock) (s : Step) (id : CallId) :
    w.beganAfter s id ≤ w.clock := by
  cases s with
  | start other first second operation =>
    simp only [beganAfter, Function.update_apply]
    split
    · exact Nat.le_refl _
    · exact h id
  | _ => exact h id

theorem beganAfter_of_isInner {s : Step} (h : s.isInner = true) : w.beganAfter s = w.began := by
  cases s <;> first | rfl | cases h

theorem returned_of_isInner {s : Step} (h : s.isInner = true) : w.returned s = [] := by
  cases s <;> first | rfl | cases h

theorem Good.order_step (h : w.Good a config) {s : Step} {d : Cache}
    (hs : w.cache.Takes s d) (hx : a.Explains w.cache s) :
    ∃ order, (w.after s d).Orders a order := by
  obtain ⟨order, ho⟩ := h.order
  cases hs.effect h.refused h.sourced hx with
  | starts hid hcalls hcontent =>
    refine ⟨order, ho.quiet ?_ rfl hs.config_eq hcontent⟩
    simp only [after, returned, pending, beganAfter, hcalls, List.append_nil]
    rw [pendingOf_start hid rfl]
  | @goesOn _ id call stage _ hinner hid hbefore hafter hcalls hcontent =>
    refine ⟨order, ho.quiet ?_ rfl hs.config_eq hcontent⟩
    simp only [after, returned_of_isInner hinner, pending, beganAfter_of_isInner hinner, hcalls,
      List.append_nil]
    have hnew := pendingOf_insert_perm w.began hid hbefore (call.moved stage)
    rw [Call.past?_of_none hafter] at hnew
    exact hnew.append_left _
  | @replies _ id call stage reply _ hinner hid hbefore hafter hcalls hask =>
    refine ⟨_, ho.extend (p := ⟨call.ask, reply, w.began id, none⟩) ?_ rfl hs.config_eq (h.began id)
      nofun hask⟩
    simp only [after, returned_of_isInner hinner, pending, beganAfter_of_isInner hinner, hcalls,
      List.append_nil]
    have hnew := pendingOf_insert_perm w.began hid hbefore (call.moved stage)
    rw [Call.past?_of_some hafter] at hnew
    exact (hnew.append_left _).trans List.perm_middle
  | @leaves id call _ hid hcalls hcontent =>
    have hold := pendingOf_perm w.began hid
    cases hreply : call.reply? with
    | none =>
      refine ⟨order, ho.quiet ?_ rfl hs.config_eq hcontent⟩
      rw [Call.past?_of_none hreply] at hold
      simp only [after, returned, hid, Option.bind_some, Call.past?_of_none hreply, pending, beganAfter,
        hcalls, Option.toList_none, List.append_nil]
      exact hold.symm.append_left _
    | some reply =>
      rw [Call.past?_of_some hreply] at hold
      refine ho.ends hold ?_ ?_ rfl hs.config_eq hcontent
      · simp only [after, returned, hid, Option.bind_some, Call.past?_of_some hreply,
          Option.toList_some]
      · simp only [pending, after, beganAfter, hcalls]
        rfl
  | clears hcalls hcontent =>
    refine ⟨_, ho.extend (p := ⟨.clear, .cleared, w.clock, some w.clock⟩) ?_ rfl hs.config_eq
      (Nat.le_refl _) ?_ ?_⟩
    · simp only [after, returned, pending, beganAfter, hcalls, List.append_assoc]
      exact List.perm_middle
    · intro n hn
      exact Nat.le_of_eq (Option.some.inj hn)
    · exact congrArg (·, _) hcontent.symm

theorem Good.order_lookup (h : w.Good a config) (pair : Pair) : ∃ order,
    Orders a { w with clock := w.clock + 1, past := w.past ++ [w.looked pair] } order := by
  obtain ⟨order, ho⟩ := h.order
  refine ⟨_, ho.extend (p := w.looked pair) ?_ rfl rfl (Nat.le_refl _) ?_ rfl⟩
  · rw [List.append_assoc]
    exact List.perm_middle
  · intro n hn
    exact Nat.le_of_eq (Option.some.inj hn)

theorem Good.move (h : w.Good a config) {m : Move} (hx : ∀ s, m.step? = some s → a.Explains w.cache s)
    (hm : w.move? m = some v) : v.Good a config := by
  cases m with
  | step s =>
    obtain ⟨d, hd, rfl⟩ := Option.map_eq_some_iff.mp hm
    have hs := Cache.takes_of_step? hd
    have hexplains := hx s rfl
    refine ⟨hs.config_eq.trans h.config, h.locked.takes hs, h.sourced.takes hexplains hs,
      h.refused.takes h.locked h.sourced.toFiled hs, ?_, h.order_step hs hexplains⟩
    exact fun id => Nat.le_succ_of_le (beganAfter_le h.began s id)
  | lookup pair =>
    obtain rfl := Option.some.inj hm
    exact { h with
      began := fun id => Nat.le_succ_of_le (h.began id)
      order := h.order_lookup pair }

theorem run?_cons {m : Move} {moves : List Move} :
    w.run? (m :: moves) = some v ↔ ∃ u, w.move? m = some u ∧ u.run? moves = some v :=
  Option.bind_eq_some_iff

theorem Good.run {moves : List Move} (h : w.Good a config)
    (hlegal : w.cache.Each a.Explains (moves.filterMap Move.step?)) (hrun : w.run? moves = some v) :
    v.Good a config := by
  induction moves generalizing w with
  | nil =>
    obtain rfl := Option.some.inj hrun
    exact h
  | cons m moves ih =>
    obtain ⟨u, hm, hrun⟩ := run?_cons.mp hrun
    cases m with
    | step s =>
      obtain ⟨d, hd, rfl⟩ := Option.map_eq_some_iff.mp hm
      refine ih (h.move ?_ hm) (hlegal.2 d hd) hrun
      intro t ht
      obtain rfl := Option.some.inj ht
      exact hlegal.1
    | lookup pair =>
      have hu : u.Good a config := h.move (fun s hs => by cases hs) hm
      obtain rfl := Option.some.inj hm
      exact ih hu hlegal hrun

theorem linearizes {moves : List Move}
    (hlegal : (Cache.ofConfig config).Each a.Explains (moves.filterMap Move.step?))
    (h : (ofConfig config).run? moves = some w) :
    ∃ order : List (Nat × Past), (order.map Prod.snd).Perm (w.past ++ w.pending) ∧
      (order.map Prod.fst).Pairwise (· < ·) ∧
      (∀ x ∈ order, x.2.began ≤ x.1 ∧ ∀ n ∈ x.2.ended, x.1 ≤ n) ∧
      Plain.empty.askAll a config.reuse (order.map (·.2.ask)) =
        (w.cache.content, order.map (·.2.reply)) := by
  have hgood := (good_ofConfig a config).run hlegal h
  obtain ⟨order, ho⟩ := hgood.order
  refine ⟨order, ho.calls, ho.sorted, ho.placed, ?_⟩
  rw [← hgood.config]
  exact ho.replies

/-- The cache is cleared while a run is under way, and its connection is removed once it is there. -/
def cleared : List Move :=
  let a : Object Input := ⟨1, 1, .plain "a"⟩
  let b : Object Input := ⟨2, 2, .plain "b"⟩
  [.step (.start 1 a b (.request {})), .step (.resolve 1), .step (.launch 1), .step .clear,
    .lookup ⟨1, 2⟩, .step (.finish 1 (.done ⟨.second, "b"⟩)), .step (.start 2 a b .invalidate),
    .step (.store 1), .lookup ⟨1, 2⟩, .step (.leave 1), .step (.resolve 2), .step (.leave 2)]

theorem linearizes_cleared : ∃ w, (ofConfig {}).run? cleared = some w ∧ w.past.length = 5 ∧
    ∃ order : List (Nat × Past), (order.map Prod.snd).Perm w.past ∧
      (Plain.empty.askAll (Select.algorithm .zero) true (order.map (·.2.ask))).2 =
        order.map (·.2.reply) := by
  have hlegal : (Cache.ofConfig {}).Each (Select.algorithm .zero).Explains
      (cleared.filterMap Move.step?) := by decide +kernel
  obtain ⟨w, hrun, hpending, hlength⟩ : ∃ w, (ofConfig {}).run? cleared = some w ∧
      w.pending = [] ∧ w.past.length = 5 := ⟨_, rfl, rfl, rfl⟩
  obtain ⟨order, hcalls, _, _, hreplies⟩ := linearizes hlegal hrun
  rw [hpending, List.append_nil] at hcalls
  exact ⟨w, hrun, hlength, order, hcalls, congrArg Prod.snd hreplies⟩

end Watch

end PairCache
