import PairCache.Proofs.Cache.Alone
import PairCache.Runner

/-!
One request through a runner. `Runner.core` is what bears on the requests that come after it: all but the
events and the numbering of calls.
-/
namespace PairCache.Runner

structure Core where
  descriptor : Descriptor
  algorithm : Algorithm
  cache : Cache
  buffer : Buffer
  made : Nat

def core (r : Runner) : Core where
  descriptor := r.plugin.descriptor
  algorithm := r.plugin.algorithm
  cache := r.plugin.cache
  buffer := r.buffer
  made := r.made

variable {r t : Runner} {s : Step} {c d : Cache} {id : CallId} {call : Call}

theorem core_timed (elapsed : Duration) (r : Runner) :
    (r.timed elapsed).core = { r.core with algorithm := Select.algorithm elapsed } := rfl

theorem core_step (h : r.core.cache.step? s = some d) :
    (r.step s).core = { r.core with cache := d } := by
  have hcache : r.plugin.cache.step? s = some d := h
  simp [step, act, Plugin.step, hcache, tell, core]

theorem core_advance_none (hnext : r.core.cache.next? id = none) : (r.advance id).core = r.core := by
  have hnext' : r.plugin.cache.next? id = none := hnext
  simp [advance, act, Plugin.advance, Plugin.advanceBy, hnext', tell, core]

theorem core_advance_one (hnext : r.core.cache.next? id = some s)
    (hstep : r.core.cache.step? s = some d) (hlast : d.next? id = none) :
    (r.advance id).core = { r.core with cache := d } := by
  have hnext' : r.plugin.cache.next? id = some s := hnext
  have hstep' : r.plugin.cache.step? s = some d := hstep
  simp [advance, act, Plugin.advance, Plugin.advanceBy, Plugin.step, hnext', hstep', hlast, tell, core]

theorem core_advance_two {more : Step} {e : Cache} (hnext : r.core.cache.next? id = some s)
    (hstep : r.core.cache.step? s = some d) (hmore : d.next? id = some more)
    (hlast : d.step? more = some e) : (r.advance id).core = { r.core with cache := e } := by
  have hnext' : r.plugin.cache.next? id = some s := hnext
  have hstep' : r.plugin.cache.step? s = some d := hstep
  simp [advance, act, Plugin.advance, Plugin.advanceBy, Plugin.step, hnext', hstep', hmore, hlast,
    tell, core]

theorem progress_of_leaving {ending : Ending} (h : r.core.cache.Alone id call)
    (hstage : call.stage = .leaving ending) : r.plugin.progress id = .over ending := by
  have hown : r.plugin.cache.calls.get? id = some call := h.own
  simp [Plugin.progress, hown, hstage]

theorem progress_of_running {desired : Bundle} (h : r.core.cache.Alone id call)
    (hstage : call.stage = .running) (hop : call.operation = .request desired) :
    r.plugin.progress id = .running call.first.value call.second.value desired := by
  have hown : r.plugin.cache.calls.get? id = some call := h.own
  simp [Plugin.progress, hown, hstage, hop]

/-- As far as a new call gets before it would run. -/
def opened (first second : Object Input) (operation : Operation) (r : Runner) : Runner :=
  ({ r with next := r.next + 1 }.step (.start r.next first second operation)).advance r.next

def ran (id : CallId) (first second : Input) (desired : Bundle) (r : Runner) : Runner :=
  let (outcome, t) := r.perform first second desired
  (t.step (.finish id outcome)).advance id

theorem ran_of_outcome {first second : Input} {desired : Bundle} {outcome : Outcome}
    (houtcome : r.core.algorithm.outcome first second desired = outcome)
    (hfinish : r.core.cache.step? (.finish id outcome) = some c) :
    ∃ t : Runner, r.ran id first second desired = t.advance id ∧
      t.core =
        { r.core with
          cache := c
          buffer := r.core.buffer.reportAll (r.core.algorithm.run first second desired).lines } := by
  subst houtcome
  refine ⟨_, rfl, ?_⟩
  exact core_step (r := (r.perform first second desired).2) hfinish

theorem core_ran {first second : Input} {desired : Bundle} {output : Derived} {e : Cache}
    (hdone : r.core.algorithm.outcome first second desired = .done output)
    (hfinish : r.core.cache.step? (.finish id (.done output)) = some c)
    (hnext : c.next? id = some s) (hstep : c.step? s = some e) (hlast : e.next? id = none) :
    (r.ran id first second desired).core =
      { r.core with
        cache := e
        buffer := r.core.buffer.reportAll (r.core.algorithm.run first second desired).lines } := by
  obtain ⟨t, hran, hcore⟩ := ran_of_outcome hdone hfinish
  rw [hran, core_advance_one (s := s) (d := e), hcore]
  · rw [hcore]
    exact hnext
  · rw [hcore]
    exact hstep
  · exact hlast

theorem core_ran_stop {first second : Input} {desired : Bundle} {outcome : Outcome}
    (houtcome : r.core.algorithm.outcome first second desired = outcome)
    (hfinish : r.core.cache.step? (.finish id outcome) = some c) (hlast : c.next? id = none) :
    (r.ran id first second desired).core =
      { r.core with
        cache := c
        buffer := r.core.buffer.reportAll (r.core.algorithm.run first second desired).lines } := by
  obtain ⟨t, hran, hcore⟩ := ran_of_outcome houtcome hfinish
  rw [hran, core_advance_none, hcore]
  rw [hcore]
  exact hlast

variable {first second : Object Input} {operation : Operation} {desired : Bundle} {ending : Ending}

theorem call_of_over (h : (r.opened first second operation).plugin.progress r.next = .over ending) :
    r.call first second operation =
      (ending, (r.opened first second operation).step (.leave r.next)) := by
  simp only [opened] at h ⊢
  simp only [Runner.call, h]

theorem call_of_running {a b : Input}
    (h : (r.opened first second operation).plugin.progress r.next = .running a b desired)
    (hover : ((r.opened first second operation).ran r.next a b desired).plugin.progress r.next =
      .over ending) :
    r.call first second operation =
      (ending, ((r.opened first second operation).ran r.next a b desired).step (.leave r.next)) := by
  simp only [opened, ran] at h hover ⊢
  simp only [Runner.call, h, hover]

variable {k : Connection} {output : Derived}

theorem lookup_of_ledger {pair : Pair} (h : d.ledger = c.ledger) : d.lookup pair = c.lookup pair := by
  rw [Cache.lookup, Cache.lookup, show d.store = c.store from congrArg Ledger.store h]

theorem started (h : r.core.cache.Resting) (first second : Object Input) (operation : Operation) :
    ∃ c, ({ r with next := r.next + 1 }.step (.start r.next first second operation)).core =
        { r.core with cache := c } ∧
      c.Alone r.next { first, second, operation } ∧ c.config = r.core.cache.config ∧
      c.ledger = r.core.cache.ledger := by
  obtain ⟨c, hc, halone, hledger⟩ := h.start r.next first second operation
  exact ⟨c, core_step hc, halone, (Cache.takes_of_step? hc).config_eq, hledger⟩

theorem opened_hit (h : r.core.cache.Resting) (hold : r.core.cache.lookup (.of first second) = some k)
    (haccept : (r.core.cache.config.reuse && k.accepts desired) = true) :
    ∃ c, (r.opened first second (.request desired)).core = { r.core with cache := c } ∧
      c.Alone r.next ⟨first, second, .request desired, .leaving (.answered (.served k.output))⟩ ∧
      c.config = r.core.cache.config ∧
      c.ledger =
        { r.core.cache.ledger with stats := r.core.cache.ledger.stats.bump .hits } := by
  obtain ⟨c₁, hstarted, halone₁, hconfig₁, hledger₁⟩ := started h first second (.request desired)
  have hold₁ : c₁.lookup (.of first second) = some k := (lookup_of_ledger hledger₁).trans hold
  obtain ⟨c₂, hc₂, halone₂, hledger₂⟩ := halone₁.hits rfl rfl hold₁ (by rw [hconfig₁]; exact haccept)
  refine ⟨c₂, ?_, halone₂, (Cache.takes_of_step? hc₂).config_eq.trans hconfig₁, ?_⟩
  · rw [opened, core_advance_one (s := .resolve r.next) (d := c₂), hstarted]
    · rw [hstarted]
      exact halone₁.next?_of_locking rfl
    · rw [hstarted]
      exact hc₂
    · exact halone₂.next?_of_leaving rfl
  · rw [hledger₂, hledger₁]

theorem opened_run (h : r.core.cache.Resting)
    (hrefuse : ∀ k, r.core.cache.lookup (.of first second) = some k →
      (r.core.cache.config.reuse && k.accepts desired) = false) :
    ∃ c, (r.opened first second (.request desired)).core = { r.core with cache := c } ∧
      c.Alone r.next ⟨first, second, .request desired, .running⟩ ∧
      c.config = r.core.cache.config ∧
      c.ledger =
        { r.core.cache.ledger with
          stats := (r.core.cache.ledger.stats.bump
            (if (r.core.cache.lookup (.of first second)).isSome then .rejections else .misses)).bump
              .computations } := by
  obtain ⟨c₁, hstarted, halone₁, hconfig₁, hledger₁⟩ := started h first second (.request desired)
  have hlookup₁ : c₁.lookup (.of first second) = r.core.cache.lookup (.of first second) :=
    lookup_of_ledger hledger₁
  obtain ⟨c₂, hc₂, halone₂, hledger₂⟩ := halone₁.asks rfl rfl fun k hk => by
    rw [hconfig₁]
    exact hrefuse k (hlookup₁.symm.trans hk)
  obtain ⟨c₃, hc₃, halone₃, hledger₃⟩ := halone₂.launches rfl
  refine ⟨c₃, ?_, halone₃, ?_, ?_⟩
  · rw [opened, core_advance_two (s := .resolve r.next) (d := c₂) (e := c₃), hstarted]
    · rw [hstarted]
      exact halone₁.next?_of_locking rfl
    · rw [hstarted]
      exact hc₂
    · exact halone₂.next?_of_permitting rfl
    · exact hc₃
  · rw [(Cache.takes_of_step? hc₃).config_eq, (Cache.takes_of_step? hc₂).config_eq, hconfig₁]
  · rw [hledger₃, hledger₂, hledger₁, ← hlookup₁]
    rfl

theorem connect_hit (h : r.core.cache.Resting) (hold : r.core.cache.lookup (.of first second) = some k)
    (haccept : (r.core.cache.config.reuse && k.accepts desired) = true) :
    ∃ t cache, r.connect first second desired = (.answered (.served k.output), t) ∧
      t.core = { r.core with cache } ∧ cache.Resting ∧ cache.config = r.core.cache.config ∧
      cache.ledger =
        { r.core.cache.ledger with stats := r.core.cache.ledger.stats.bump .hits } := by
  obtain ⟨c, hopened, halone, hconfig, hledger⟩ := opened_hit h hold haccept
  obtain ⟨d, hd, hrest, hleft⟩ := halone.leaves rfl
  have hover : (r.opened first second (.request desired)).plugin.progress r.next =
      .over (.answered (.served k.output)) :=
    progress_of_leaving (by rw [hopened]; exact halone) rfl
  refine ⟨_, d, call_of_over hover, ?_, hrest, ?_, hleft.trans hledger⟩
  · rw [core_step (d := d) (by rw [hopened]; exact hd), hopened]
  · exact (Cache.takes_of_step? hd).config_eq.trans hconfig

theorem connect_run (h : r.core.cache.Resting)
    (hrefuse : ∀ k, r.core.cache.lookup (.of first second) = some k →
      (r.core.cache.config.reuse && k.accepts desired) = false)
    (hdone : r.core.algorithm.outcome first.value second.value desired = .done output) :
    ∃ t cache k, r.connect first second desired = (.answered (.served k.output), t) ∧
      t.core =
        { r.core with
          cache
          buffer := r.core.buffer.reportAll
            (r.core.algorithm.run first.value second.value desired).lines } ∧
      cache.Resting ∧ cache.config = r.core.cache.config ∧ k.first = first ∧ k.second = second ∧
      k.parameters = desired ∧ k.output.value = output ∧
      cache.ledger =
        { store := r.core.cache.ledger.store.put k
          stats := (r.core.cache.ledger.stats.bump
            (if (r.core.cache.lookup (.of first second)).isSome then .rejections else .misses)).bump
              .computations
          next := r.core.cache.ledger.next + 1 } := by
  obtain ⟨c, hopened, halone, hconfig, hledger⟩ := opened_run h hrefuse
  obtain ⟨c₁, hc₁, halone₁, hledger₁⟩ := halone.done rfl rfl output
  obtain ⟨c₂, hc₂, halone₂, hledger₂⟩ := halone₁.stores rfl
  obtain ⟨d, hd, hrest, hleft⟩ := halone₂.leaves rfl
  have hrunning : (r.opened first second (.request desired)).plugin.progress r.next =
      .running first.value second.value desired :=
    progress_of_running (by rw [hopened]; exact halone) rfl rfl
  have hran : ((r.opened first second (.request desired)).ran r.next first.value second.value
      desired).core = _ :=
    core_ran (by rw [hopened]; exact hdone) (by rw [hopened]; exact hc₁)
      (halone₁.next?_of_storing rfl) hc₂ (halone₂.next?_of_leaving rfl)
  rw [hopened] at hran
  have hover : ((r.opened first second (.request desired)).ran r.next first.value second.value
      desired).plugin.progress r.next = .over _ :=
    progress_of_leaving (by rw [hran]; exact halone₂) rfl
  refine ⟨_, d, _, call_of_running hrunning hover, ?_, hrest, ?_, rfl, rfl, rfl, rfl, ?_⟩
  · rw [core_step (d := d) (by rw [hran]; exact hd), hran]
  · rw [(Cache.takes_of_step? hd).config_eq, (Cache.takes_of_step? hc₂).config_eq,
      (Cache.takes_of_step? hc₁).config_eq, hconfig]
  · rw [hleft, hledger₂, hledger₁, hledger]

theorem connect_stop (h : r.core.cache.Resting)
    (hrefuse : ∀ k, r.core.cache.lookup (.of first second) = some k →
      (r.core.cache.config.reuse && k.accepts desired) = false) {outcome : Outcome} {answer : Answer}
    (houtcome : r.core.algorithm.outcome first.value second.value desired = outcome)
    (hstop : outcome.stop? = some answer) :
    ∃ t cache, r.connect first second desired = (.answered answer, t) ∧
      t.core =
        { r.core with
          cache
          buffer := r.core.buffer.reportAll
            (r.core.algorithm.run first.value second.value desired).lines } ∧
      cache.Resting ∧ cache.config = r.core.cache.config ∧
      cache.ledger =
        { r.core.cache.ledger with
          stats := outcome.failures.foldl .bump
            ((r.core.cache.ledger.stats.bump
              (if (r.core.cache.lookup (.of first second)).isSome then .rejections else .misses)).bump
                .computations) } := by
  obtain ⟨c, hopened, halone, hconfig, hledger⟩ := opened_run h hrefuse
  obtain ⟨c₁, hc₁, halone₁, hledger₁⟩ := halone.stops rfl rfl hstop
  obtain ⟨d, hd, hrest, hleft⟩ := halone₁.leaves rfl
  have hrunning : (r.opened first second (.request desired)).plugin.progress r.next =
      .running first.value second.value desired :=
    progress_of_running (by rw [hopened]; exact halone) rfl rfl
  have hfinish : (r.opened first second (.request desired)).core.cache.step?
      (.finish r.next outcome) = some c₁ := by
    rw [hopened]
    exact hc₁
  have hran : ((r.opened first second (.request desired)).ran r.next first.value second.value
      desired).core = _ :=
    core_ran_stop (by rw [hopened, houtcome]) hfinish (halone₁.next?_of_leaving rfl)
  rw [hopened] at hran
  have hover : ((r.opened first second (.request desired)).ran r.next first.value second.value
      desired).plugin.progress r.next = .over _ :=
    progress_of_leaving (by rw [hran]; exact halone₁) rfl
  refine ⟨_, d, call_of_running hrunning hover, ?_, hrest, ?_, ?_⟩
  · rw [core_step (d := d) (by rw [hran]; exact hd), hran]
  · rw [(Cache.takes_of_step? hd).config_eq, (Cache.takes_of_step? hc₁).config_eq, hconfig]
  · rw [hleft, hledger₁, hledger]

theorem call_invalidate (h : r.core.cache.Resting) (first second : Object Input) :
    ∃ t cache, r.call first second .invalidate =
        (.answered (.removed (r.core.cache.lookup (.of first second)).isSome), t) ∧
      t.core = { r.core with cache } ∧ cache.Resting ∧ cache.config = r.core.cache.config ∧
      cache.ledger =
        { r.core.cache.ledger with
          store := r.core.cache.ledger.store.erase (.of first second) } := by
  obtain ⟨c₁, hstarted, halone₁, hconfig₁, hledger₁⟩ := started h first second .invalidate
  obtain ⟨c₂, hc₂, halone₂, hledger₂⟩ := halone₁.removes rfl rfl
  obtain ⟨d, hd, hrest, hleft⟩ := halone₂.leaves rfl
  have hopened : (r.opened first second .invalidate).core = { r.core with cache := c₂ } := by
    rw [opened, core_advance_one (s := .resolve r.next) (d := c₂), hstarted]
    · rw [hstarted]
      exact halone₁.next?_of_locking rfl
    · rw [hstarted]
      exact hc₂
    · exact halone₂.next?_of_leaving rfl
  have hlookup : c₁.lookup (.of first second) = r.core.cache.lookup (.of first second) :=
    lookup_of_ledger hledger₁
  have hover : (r.opened first second .invalidate).plugin.progress r.next =
      .over (.answered (.removed (r.core.cache.lookup (.of first second)).isSome)) := by
    rw [← hlookup]
    exact progress_of_leaving (by rw [hopened]; exact halone₂) rfl
  refine ⟨_, d, call_of_over hover, ?_, hrest, ?_, ?_⟩
  · rw [core_step (d := d) (by rw [hopened]; exact hd), hopened]
  · rw [(Cache.takes_of_step? hd).config_eq, (Cache.takes_of_step? hc₂).config_eq, hconfig₁]
  · rw [hleft, hledger₂, hledger₁]
    rfl

end PairCache.Runner
