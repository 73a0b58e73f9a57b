import PairCache.Plugin
import PairCache.Proofs.Bundle.Equality
import PairCache.Proofs.Cache.Provenance
import PairCache.Select

/-!
What a cache answers is what the algorithm gives. Objects that are alive at once live at different
addresses, so that a request is only served from a connection of its very inputs; and an algorithm that
ends alike on equal bundles would have made the output of that connection again.
-/
namespace PairCache

def Answer.outcome? : Answer → Option Outcome
  | .served output => some (.done output.value)
  | .failed failure => some (.failed failure)
  | .panicked => some .panicked
  | .removed _ => none

def Call.Agrees (a : Algorithm) (call : Call) : Prop :=
  ∀ desired answer, call.operation = .request desired → call.stage = .leaving (.answered answer) →
    answer ≠ .panicked →
    answer.outcome? = some (a.outcome call.first.value call.second.value desired)

namespace Cache

variable {a : Algorithm} {c d : Cache} {s : Step} {steps : List Step} {config : CacheConfig}

def inputs (c : Cache) : List (Object Input × Object Input) :=
  c.calls.values.map (fun call => (call.first, call.second)) ++
    c.store.values.map fun k => (k.first, k.second)

def Addresses (c : Cache) : Step → Prop
  | .start _ first second _ => ∀ x ∈ c.inputs,
      (x.1.address = first.address → x.1 = first) ∧ (x.2.address = second.address → x.2 = second)
  | _ => True

instance (c : Cache) : (s : Step) → Decidable (c.Addresses s)
  | .start _ first second _ => inferInstanceAs (Decidable (∀ x ∈ c.inputs,
      (x.1.address = first.address → x.1 = first) ∧ (x.2.address = second.address → x.2 = second)))
  | .resolve _ | .launch _ | .finish .. | .store _ | .leave _ | .cancel _ | .clear => isTrue trivial

def Distinct (c : Cache) : Prop :=
  ∀ x ∈ c.inputs, ∀ y ∈ c.inputs,
    (x.1.address = y.1.address → x.1 = y.1) ∧ (x.2.address = y.2.address → x.2 = y.2)

theorem mem_inputs {x : Object Input × Object Input} :
    x ∈ c.inputs ↔ (∃ id call, c.calls.get? id = some call ∧ (call.first, call.second) = x) ∨
      ∃ pair k, c.lookup pair = some k ∧ (k.first, k.second) = x := by
  simp only [inputs, List.mem_append, List.mem_map, Table.mem_values]
  constructor
  · rintro (⟨call, ⟨id, hid⟩, rfl⟩ | ⟨k, ⟨pair, hk⟩, rfl⟩)
    · exact .inl ⟨id, call, hid, rfl⟩
    · exact .inr ⟨pair, k, hk, rfl⟩
  · rintro (⟨id, call, hid, rfl⟩ | ⟨pair, k, hk, rfl⟩)
    · exact .inl ⟨call, ⟨id, hid⟩, rfl⟩
    · exact .inr ⟨k, ⟨pair, hk⟩, rfl⟩

theorem Filed.inputs_takes (h : c.Filed) (hs : c.Takes s d) {x : Object Input × Object Input}
    (hx : x ∈ d.inputs) : x ∈ c.inputs ∨ ∃ id operation, s = .start id x.1 x.2 operation := by
  rcases mem_inputs.mp hx with ⟨id, call, hid, rfl⟩ | ⟨pair, k, hk, rfl⟩
  · rcases hs.knew id call hid with ⟨old, hold, hfirst, hsecond, _⟩ | hstart
    · exact .inl (mem_inputs.mpr (.inl ⟨id, old, hold, by rw [hfirst, hsecond]⟩))
    · exact .inr ⟨id, call.operation, hstart⟩
  · rcases hs.lookup hk with hold | ⟨id, call, hid, hstage, _⟩
    · exact .inl (mem_inputs.mpr (.inr ⟨pair, k, hold, rfl⟩))
    · obtain ⟨hfirst, hsecond, _⟩ := h.carries id call hid k hstage
      exact .inl (mem_inputs.mpr (.inl ⟨id, call, hid, by rw [hfirst, hsecond]⟩))

theorem Distinct.takes (h : c.Distinct) (hsource : c.Sourced a) (haddr : c.Addresses s)
    (hs : c.Takes s d) : d.Distinct := by
  intro x hx y hy
  rcases hsource.toFiled.inputs_takes hs hx with hx | ⟨id, operation, rfl⟩
  · rcases hsource.toFiled.inputs_takes hs hy with hy | ⟨id', operation', rfl⟩
    · exact h x hx y hy
    · exact haddr x hx
  · rcases hsource.toFiled.inputs_takes hs hy with hy | ⟨id', operation', heq⟩
    · obtain ⟨hfirst, hsecond⟩ := haddr y hy
      exact ⟨fun he => (hfirst he.symm).symm, fun he => (hsecond he.symm).symm⟩
    · obtain ⟨_, hfirst, hsecond, _⟩ := Step.start.inj heq
      exact ⟨fun _ => hfirst, fun _ => hsecond⟩

structure Faithful (a : Algorithm) (c : Cache) : Prop where
  sourced : c.Sourced a
  distinct : c.Distinct
  agrees : ∀ id call, c.calls.get? id = some call → call.Agrees a

theorem Faithful.agrees_of_accepts (h : c.Faithful a) (ha : a.RespectsSame) {id : CallId}
    {call : Call} {desired : Bundle} {old : Connection} (hid : c.calls.get? id = some call)
    (hold : c.lookup call.pair = some old) (haccept : old.accepts desired = true) :
    a.outcome call.first.value call.second.value desired = .done old.output.value := by
  have hpair := h.sourced.filed hold
  obtain ⟨hfirst, hsecond⟩ := h.distinct (old.first, old.second)
    (mem_inputs.mpr (.inr ⟨_, old, hold, rfl⟩)) (call.first, call.second)
    (mem_inputs.mpr (.inl ⟨id, call, hid, rfl⟩))
  have h1 : old.first = call.first := hfirst (congrArg Pair.first hpair)
  have h2 : old.second = call.second := hsecond (congrArg Pair.second hpair)
  rw [← h1, ← h2, ← ha _ _ _ _ haccept]
  exact h.sourced.made hold

theorem Faithful.takes_calls (h : c.Faithful a) (ha : a.RespectsSame) (hx : a.Explains c s)
    (hs : c.Takes s d) : ∀ id call, d.calls.get? id = some call → call.Agrees a := by
  cases hs with
  | remove hid hstage hop =>
    refine Table.forall_insert h.agrees ?_
    intro desired answer hdesired
    rw [Call.operation_moved, hop] at hdesired
    cases hdesired
  | hit hid hstage hop hin hold haccept =>
    refine Table.forall_insert h.agrees ?_
    intro desired answer hdesired hanswer _
    rw [Call.operation_moved, hop] at hdesired
    cases hdesired
    cases hanswer
    have hagrees := h.agrees_of_accepts ha hid hold (Bool.and_eq_true_iff.mp haccept).2
    exact congrArg some hagrees.symm
  | fail hid hstage hop =>
    refine Table.forall_insert h.agrees ?_
    intro desired answer hdesired hanswer _
    rw [Call.operation_moved, hop] at hdesired
    cases hdesired
    cases hanswer
    rcases hx.outcome_eq hid hop with heq | heq
    · exact congrArg some heq.symm
    · cases heq
  | panic =>
    refine Table.forall_insert h.agrees ?_
    intro desired answer _ hanswer hne
    cases hanswer
    exact absurd rfl hne
  | store hid hstage =>
    refine Table.forall_insert h.agrees ?_
    intro desired answer hdesired hanswer _
    obtain ⟨hfirst, hsecond, hop⟩ := h.sourced.carries _ _ hid _ hstage
    have hmade := h.sourced.making _ _ hid _ hstage
    rw [Call.operation_moved, hop] at hdesired
    cases hdesired
    cases hanswer
    rw [Algorithm.Made, hfirst, hsecond] at hmade
    exact congrArg some hmade.symm
  | leave => exact Table.forall_erase _ h.agrees
  | clear => exact h.agrees
  | _ =>
    refine Table.forall_insert h.agrees ?_
    intro desired answer _ hanswer
    cases hanswer

theorem Faithful.takes (h : c.Faithful a) (ha : a.RespectsSame)
    (hlegal : a.Explains c s ∧ c.Addresses s) (hs : c.Takes s d) : d.Faithful a where
  sourced := h.sourced.takes hlegal.1 hs
  distinct := h.distinct.takes h.sourced hlegal.2 hs
  agrees := h.takes_calls ha hlegal.1 hs

theorem faithful_ofConfig (a : Algorithm) (config : CacheConfig) :
    (ofConfig config).Faithful a where
  sourced := sourced_ofConfig a config
  distinct _ hx := by cases hx
  agrees _ _ h := by cases h

end Cache

namespace Plugin

variable {p : Plugin} {c : Cache} {config : CacheConfig} {steps : List Step}

theorem answer_eq_run (ha : p.algorithm.RespectsSame) (hfresh : p.cache = .ofConfig config)
    (hlegal : p.cache.Each (fun c s => p.algorithm.Explains c s ∧ c.Addresses s) steps)
    (h : p.cache.run? steps = some c) :
    (∀ id call desired answer, c.calls.get? id = some call → call.operation = .request desired →
      call.stage = .leaving (.answered answer) → answer ≠ .panicked →
      answer.outcome? =
        some (p.algorithm.run call.first.value call.second.value desired).outcome) ∧
    ∀ pair k, c.lookup pair = some k → k.pair = pair ∧
      (p.algorithm.run k.first.value k.second.value k.parameters).outcome =
        .done k.output.value := by
  have hstart : p.cache.Faithful p.algorithm := hfresh ▸ Cache.faithful_ofConfig _ _
  have hc := Cache.run?_induct (fun hc hx hs => hc.takes ha hx hs) hstart hlegal h
  refine ⟨fun id call desired answer hid => hc.agrees id call hid desired answer, ?_⟩
  intro pair k hk
  exact ⟨hc.sourced.filed hk, hc.sourced.made hk⟩

def selecting : Plugin where
  descriptor := { name := "select", description := "" }
  algorithm := Select.algorithm .zero
  cache := .ofConfig {}

/-- The second request is served from the connection that the first one has stored. -/
def repeated : List Step :=
  let a : Object Input := ⟨1, 1, .plain "a"⟩
  let b : Object Input := ⟨2, 2, .plain "b"⟩
  [.start 1 a b (.request {}), .resolve 1, .launch 1, .finish 1 (.done ⟨.second, "b"⟩), .store 1,
    .leave 1, .start 2 a b (.request {}), .resolve 2]

theorem answer_eq_run_repeated : ∃ c, selecting.cache.run? repeated = some c ∧
    ∃ call, c.calls.get? 2 = some call ∧ call.operation = .request {} ∧
      (selecting.algorithm.run call.first.value call.second.value {}).outcome =
        .done ⟨.second, "b"⟩ := by
  have hlegal : selecting.cache.Each
      (fun c s => selecting.algorithm.Explains c s ∧ c.Addresses s) repeated := by decide +kernel
  refine ⟨_, rfl, _, rfl, rfl, ?_⟩
  have hagrees := (answer_eq_run (Select.algorithm_respectsSame .zero) rfl hlegal rfl).1 2 _ {} _
    rfl rfl rfl nofun
  exact (Option.some.inj hagrees).symm

end Plugin

end PairCache
