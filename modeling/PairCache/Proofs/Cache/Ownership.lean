import PairCache.Proofs.Cache.Agreement
import PairCache.Proofs.Cache.Places

/-!
Addresses that are used again. An object lives as long as something refers to it: a client, who may have
lent the reference to a call, or a stored connection. A new object may be put at any address where none
lives, so that a pair of addresses tells objects apart only while both of them live.
-/
namespace PairCache

inductive Use where
  | create (address : Nat) (value : Input)
  | clone (object : Object Input)
  | drop (object : Object Input)
  /-- The inputs of the connection that is found are held, too. -/
  | keep (first second : Object Input)
  | step (s : Step)

structure World where
  cache : Cache
  held : List (Object Input) := []
  made : Nat := 0

namespace World

def empty (config : CacheConfig) : World := { cache := .ofConfig config }

def references (w : World) : List (Object Input) :=
  w.held ++ w.cache.inputs.flatMap fun x => [x.1, x.2]

def strong (w : World) (object : Object Input) : Nat := w.references.count object

def Live (w : World) (object : Object Input) : Prop := 0 < w.strong object

def lent (s : Step) : List (Object Input) :=
  match s with
  | .start _ first second _ => [first, second]
  | _ => []

def step? (w : World) : Use → Option World
  | .create address value =>
    if ∀ x ∈ w.references, x.address ≠ address then
      some { w with held := ⟨w.made, address, value⟩ :: w.held, made := w.made + 1 }
    else none
  | .clone object => if object ∈ w.held then some { w with held := object :: w.held } else none
  | .drop object => if object ∈ w.held then some { w with held := w.held.erase object } else none
  | .keep first second =>
    if first ∈ w.held ∧ second ∈ w.held then
      (w.cache.lookup (.of first second)).map fun k =>
        { w with held := k.first :: k.second :: w.held }
    else none
  | .step s =>
    if ∀ x ∈ lent s, x ∈ w.held then (w.cache.step? s).map fun c => { w with cache := c } else none

def run? (w : World) : List Use → Option World
  | [] => some w
  | u :: uses => do (← w.step? u).run? uses

inductive Takes (w : World) : Use → World → Prop
  | create {address value} (hfree : ∀ x ∈ w.references, x.address ≠ address) :
      w.Takes (.create address value)
        { w with held := ⟨w.made, address, value⟩ :: w.held, made := w.made + 1 }
  | clone {object} (hheld : object ∈ w.held) :
      w.Takes (.clone object) { w with held := object :: w.held }
  | drop {object} (hheld : object ∈ w.held) :
      w.Takes (.drop object) { w with held := w.held.erase object }
  | keep {first second k} (hk : w.cache.lookup (.of first second) = some k) :
      w.Takes (.keep first second) { w with held := k.first :: k.second :: w.held }
  | step {s d} (hlent : ∀ x ∈ lent s, x ∈ w.held) (hs : w.cache.Takes s d) :
      w.Takes (.step s) { w with cache := d }

variable {w x : World} {u : Use} {uses : List Use} {config : CacheConfig} {object : Object Input}

theorem takes_of_step? (h : w.step? u = some x) : w.Takes u x := by
  cases u with
  | create address value =>
    obtain ⟨hfree, h⟩ := Option.ite_none_right_eq_some.mp h
    obtain rfl := Option.some.inj h
    exact .create hfree
  | clone object =>
    obtain ⟨hheld, h⟩ := Option.ite_none_right_eq_some.mp h
    obtain rfl := Option.some.inj h
    exact .clone hheld
  | drop object =>
    obtain ⟨hheld, h⟩ := Option.ite_none_right_eq_some.mp h
    obtain rfl := Option.some.inj h
    exact .drop hheld
  | keep first second =>
    obtain ⟨-, h⟩ := Option.ite_none_right_eq_some.mp h
    obtain ⟨k, hk, rfl⟩ := Option.map_eq_some_iff.mp h
    exact .keep hk
  | step s =>
    obtain ⟨hlent, h⟩ := Option.ite_none_right_eq_some.mp h
    obtain ⟨d, hd, rfl⟩ := Option.map_eq_some_iff.mp h
    exact .step hlent (Cache.takes_of_step? hd)

theorem live_iff : w.Live object ↔ object ∈ w.references := List.count_pos_iff

theorem mem_references : object ∈ w.references ↔
    object ∈ w.held ∨ ∃ x ∈ w.cache.inputs, object = x.1 ∨ object = x.2 := by
  simp [references]

theorem live_of_call {id : CallId} {call : Call} (hid : w.cache.calls.get? id = some call) :
    w.Live call.first ∧ w.Live call.second := by
  have hmem : (call.first, call.second) ∈ w.cache.inputs :=
    Cache.mem_inputs.mpr (.inl ⟨id, call, hid, rfl⟩)
  constructor
  · exact live_iff.mpr (mem_references.mpr (.inr ⟨_, hmem, .inl rfl⟩))
  · exact live_iff.mpr (mem_references.mpr (.inr ⟨_, hmem, .inr rfl⟩))

theorem live_of_lookup {pair : Pair} {k : Connection} (hk : w.cache.lookup pair = some k) :
    w.Live k.first ∧ w.Live k.second := by
  have hmem : (k.first, k.second) ∈ w.cache.inputs :=
    Cache.mem_inputs.mpr (.inr ⟨pair, k, hk, rfl⟩)
  constructor
  · exact live_iff.mpr (mem_references.mpr (.inr ⟨_, hmem, .inl rfl⟩))
  · exact live_iff.mpr (mem_references.mpr (.inr ⟨_, hmem, .inr rfl⟩))

structure Apart (w : World) : Prop where
  filed : w.cache.Filed
  apart : ∀ x y, w.Live x → w.Live y → x.address = y.address → x = y
  numbered : ∀ x, w.Live x → x.serial < w.made

theorem apart_empty (config : CacheConfig) : (empty config).Apart where
  filed := Cache.filed_ofConfig config
  apart _ _ hx := by cases live_iff.mp hx
  numbered _ hx := by cases live_iff.mp hx

theorem Takes.live_or (hs : w.Takes u x) (hfiled : w.cache.Filed) (h : x.Live object) :
    w.Live object ∨
      ∃ address value, u = .create address value ∧ object = ⟨w.made, address, value⟩ := by
  rcases mem_references.mp (live_iff.mp h) with hheld | ⟨y, hy, hobject⟩
  · have hold : object ∈ w.held → w.Live object :=
      fun hmem => live_iff.mpr (mem_references.mpr (.inl hmem))
    cases hs with
    | create =>
      rcases List.mem_cons.mp hheld with rfl | hmem
      · exact .inr ⟨_, _, rfl, rfl⟩
      · exact .inl (hold hmem)
    | clone hclone =>
      rcases List.mem_cons.mp hheld with rfl | hmem
      · exact .inl (hold hclone)
      · exact .inl (hold hmem)
    | drop => exact .inl (hold (List.mem_of_mem_erase hheld))
    | keep hk =>
      obtain ⟨hfirst, hsecond⟩ := live_of_lookup hk
      rcases List.mem_cons.mp hheld with rfl | hmem
      · exact .inl hfirst
      · rcases List.mem_cons.mp hmem with rfl | hmem
        · exact .inl hsecond
        · exact .inl (hold hmem)
    | step => exact .inl (hold hheld)
  · have hold : y ∈ w.cache.inputs → w.Live object :=
      fun hmem => live_iff.mpr (mem_references.mpr (.inr ⟨y, hmem, hobject⟩))
    cases hs with
    | step hlent hs =>
      -- a call refers to what its client holds, and a connection to what its call refers to
      rcases hfiled.inputs_takes hs hy with hmem | ⟨id, operation, rfl⟩
      · exact .inl (hold hmem)
      · have hmem : object ∈ w.held := by
          refine hlent object ?_
          simpa [lent] using hobject
        exact .inl (live_iff.mpr (mem_references.mpr (.inl hmem)))
    | _ => exact .inl (hold hy)

theorem Apart.takes (hw : w.Apart) (hs : w.Takes u x) : x.Apart where
  filed := by
    cases hs with
    | step _ hs => exact hw.filed.takes hs
    | _ => exact hw.filed
  apart := by
    intro y z hy hz haddress
    rcases hs.live_or hw.filed hy with hyold | ⟨address, value, rfl, rfl⟩
    · rcases hs.live_or hw.filed hz with hzold | ⟨address, value, rfl, rfl⟩
      · exact hw.apart y z hyold hzold haddress
      · cases hs with
        | create hfree => exact absurd haddress (hfree y (live_iff.mp hyold))
    · rcases hs.live_or hw.filed hz with hzold | ⟨address', value', heq, rfl⟩
      · cases hs with
        | create hfree => exact absurd haddress.symm (hfree z (live_iff.mp hzold))
      · obtain ⟨rfl, rfl⟩ := Use.create.inj heq
        rfl
  numbered := by
    intro y hy
    have hmade : w.made ≤ x.made := by
      cases hs with
      | create => exact Nat.le_succ _
      | _ => exact Nat.le_refl _
    rcases hs.live_or hw.filed hy with hy | ⟨address, value, rfl, rfl⟩
    · exact Nat.lt_of_lt_of_le (hw.numbered y hy) hmade
    · cases hs with
      | create => exact Nat.lt_succ_self _

theorem Apart.run (hw : w.Apart) (h : w.run? uses = some x) : x.Apart := by
  induction uses generalizing w with
  | nil =>
    obtain rfl := Option.some.inj h
    exact hw
  | cons u uses ih =>
    obtain ⟨v, hv, h⟩ := Option.bind_eq_some_iff.mp h
    exact ih (hw.takes (takes_of_step? hv)) h

theorem Apart.inputs_eq (hw : w.Apart) {first second : Object Input} {k : Connection}
    (hfirst : w.Live first) (hsecond : w.Live second)
    (hk : w.cache.lookup (.of first second) = some k) : k.first = first ∧ k.second = second := by
  have hpair : k.pair = .of first second := hw.filed.filed hk
  obtain ⟨h1, h2⟩ := live_of_lookup hk
  constructor
  · exact hw.apart _ _ h1 hfirst (congrArg Pair.first hpair)
  · exact hw.apart _ _ h2 hsecond (congrArg Pair.second hpair)

theorem Apart.served (hw : w.Apart) {id : CallId} {call : Call} {output : Object Derived} {d : Cache}
    (hid : w.cache.calls.get? id = some call) (hs : w.cache.Takes (.resolve id) d)
    (hserved : d.stage? id = some (.leaving (.answered (.served output)))) :
    ∃ k, w.cache.lookup call.pair = some k ∧ k.output = output ∧ k.first = call.first ∧
      k.second = call.second := by
  obtain ⟨hfirst, hsecond⟩ := live_of_call hid
  cases hs with
  | @hit _ found _ old hfound _ _ _ hold =>
    obtain rfl := Option.some.inj (hid.symm.trans hfound)
    have houtput : old.output = output := by
      simpa [Cache.stage?, Cache.unlock, Cache.move] using hserved
    exact ⟨old, hold, houtput, hw.inputs_eq hfirst hsecond hold⟩
  | _ => simp [Cache.stage?, Cache.unlock, Cache.permit, Cache.move] at hserved

theorem Takes.nothing_found {address : Nat} {value : Input} (hs : w.Takes (.create address value) x)
    (hfiled : w.cache.Filed) (other : Object Input) :
    x.cache.lookup (.of ⟨w.made, address, value⟩ other) = none ∧
      x.cache.lookup (.of other ⟨w.made, address, value⟩) = none := by
  cases hs with
  | create hfree =>
    constructor
    · refine Option.eq_none_iff_forall_not_mem.mpr fun k hk => ?_
      have hold : w.cache.lookup (.of ⟨w.made, address, value⟩ other) = some k := hk
      exact hfree _ (live_iff.mp (live_of_lookup hold).1) (congrArg Pair.first (hfiled.filed hold))
    · refine Option.eq_none_iff_forall_not_mem.mpr fun k hk => ?_
      have hold : w.cache.lookup (.of other ⟨w.made, address, value⟩) = some k := hk
      exact hfree _ (live_iff.mp (live_of_lookup hold).2) (congrArg Pair.second (hfiled.filed hold))

theorem live_pair_finds_own (h : (empty config).run? uses = some w) :
    (∀ first second k, w.Live first → w.Live second →
      w.cache.lookup (.of first second) = some k → k.first = first ∧ k.second = second) ∧
    (∀ id call output d, w.cache.calls.get? id = some call →
      w.cache.step? (.resolve id) = some d →
      d.stage? id = some (.leaving (.answered (.served output))) →
      ∃ k, w.cache.lookup call.pair = some k ∧ k.output = output ∧ k.first = call.first ∧
        k.second = call.second) ∧
    ∀ address value x, w.step? (.create address value) = some x →
      ∀ other : Object Input, x.cache.lookup (.of ⟨w.made, address, value⟩ other) = none ∧
        x.cache.lookup (.of other ⟨w.made, address, value⟩) = none := by
  have hw := (apart_empty config).run h
  refine ⟨fun first second k => hw.inputs_eq, ?_, ?_⟩
  · intro id call output d hid hs hserved
    exact hw.served hid (Cache.takes_of_step? hs) hserved
  · intro address value x hs
    exact (takes_of_step? hs).nothing_found hw.filed

/-- Two objects are dropped while a connection still refers to them. -/
def dropped : List Use :=
  let a : Object Input := ⟨0, 10, .plain "a"⟩
  let b : Object Input := ⟨1, 20, .plain "b"⟩
  [.create 10 (.plain "a"), .create 20 (.plain "b"), .step (.start 1 a b (.request {})),
    .step (.resolve 1), .step (.launch 1), .step (.finish 1 (.done ⟨.second, "b"⟩)), .step (.store 1),
    .step (.leave 1), .drop a, .drop b]

/-- Their addresses are used again once the connection is gone. -/
def recycled : List Use :=
  let c : Object Input := ⟨2, 10, .plain "c"⟩
  let d : Object Input := ⟨3, 20, .plain "d"⟩
  dropped ++ [.step .clear, .create 10 (.plain "c"), .create 20 (.plain "d"),
    .step (.start 2 c d (.request {})), .step (.resolve 2), .step (.launch 2),
    .step (.finish 2 (.done ⟨.second, "d"⟩)), .step (.store 2), .step (.leave 2)]

theorem live_pair_finds_own_recycled :
    (empty {}).run? (dropped ++ [.create 10 (.plain "c")]) = none ∧
    ∃ w k, (empty {}).run? recycled = some w ∧ w.cache.lookup ⟨10, 20⟩ = some k ∧
      k.first = ⟨2, 10, .plain "c"⟩ ∧ k.second = ⟨3, 20, .plain "d"⟩ := by
  refine ⟨rfl, ?_⟩
  obtain ⟨w, k, hw, hk, hfirst, hsecond⟩ : ∃ w k, (empty {}).run? recycled = some w ∧
      w.cache.lookup ⟨10, 20⟩ = some k ∧ w.strong ⟨2, 10, .plain "c"⟩ = 2 ∧
        w.strong ⟨3, 20, .plain "d"⟩ = 2 :=
    ⟨_, _, rfl, rfl, rfl, rfl⟩
  have hc : w.Live ⟨2, 10, .plain "c"⟩ := by
    rw [Live, hfirst]
    exact Nat.two_pos
  have hd : w.Live ⟨3, 20, .plain "d"⟩ := by
    rw [Live, hsecond]
    exact Nat.two_pos
  exact ⟨w, k, hw, hk, (live_pair_finds_own hw).1 _ _ k hc hd hk⟩

end World

end PairCache
