import PairCache.Proofs.Cache.Counters
import PairCache.Proofs.Cache.Life
import PairCache.Proofs.Cache.Progress

/-!
A call with no other beside it. Nothing holds it up, so each of its steps can be taken, and what the step
makes of the store, the counters and the numbering (`Cache.ledger`) is known beforehand.
-/
namespace PairCache

structure Ledger where
  store : Store
  stats : CacheStats
  next : Nat

namespace Outcome

def stop? : Outcome → Option Answer
  | .done _ => none
  | .failed failure => some (.failed failure)
  | .panicked => some .panicked

def failures : Outcome → List Counter
  | .failed _ => [.failures]
  | .done _ | .panicked => []

end Outcome

namespace Cache

variable {c d : Cache} {s : Step} {id : CallId} {call : Call} {desired : Bundle} {k : Connection}
  {output : Derived} {ending : Ending}

def ledger (c : Cache) : Ledger := ⟨c.store, c.stats, c.next⟩

structure Resting (c : Cache) : Prop where
  orderly : c.Orderly
  idle : ∀ id, c.calls.get? id = none
  runs : 0 < c.config.maxRuns.toNat

structure Alone (id : CallId) (call : Call) (c : Cache) : Prop where
  orderly : c.Orderly
  own : c.calls.get? id = some call
  others : ∀ other, other ≠ id → c.calls.get? other = none
  runs : 0 < c.config.maxRuns.toNat

theorem resting_ofConfig {config : CacheConfig} (h : config.validate = .ok ()) :
    (ofConfig config).Resting where
  orderly := orderly_ofConfig config
  idle _ := rfl
  runs := CacheConfig.maxRuns_pos h

theorem Alone.eq_of_get? (h : c.Alone id call) {other : CallId} {x : Call}
    (hx : c.calls.get? other = some x) : other = id := by
  by_contra hne
  cases (h.others other hne).symm.trans hx

theorem Alone.admits (h : c.Alone id call) (hstage : call.stage.isLeaving = false) :
    c.locks.admits id = true := by
  obtain ⟨lock, hmem⟩ := (h.orderly.fits h.own).present hstage
  obtain ⟨pair, hhandle⟩ := h.orderly.sound.held hmem
  rcases (h.orderly.prompt lock).free_or_held (h.orderly.sound.single lock) with hfree | ⟨other, hin⟩
  · rw [hfree] at hmem
    simp [Gate.members] at hmem
  · have hother : other ∈ (c.locks.gate lock).inside := by
      rw [hin]
      exact List.mem_singleton_self other
    obtain ⟨otherPair, hheld⟩ := h.orderly.sound.held (Gate.mem_members_of_mem_inside hother)
    obtain rfl : other = id := by
      cases hx : c.calls.get? other with
      | none => cases hheld.symm.trans (h.orderly.no_handle hx)
      | some x => exact h.eq_of_get? hx
    exact (Locks.admits_iff hhandle).mpr hother

theorem Alone.permitted (h : c.Alone id call) (hstage : call.stage = .permitting) :
    id ∈ c.permits.inside := by
  have hpermitted := h.orderly.permitted
  have hmem : id ∈ c.permits.members :=
    hpermitted.members.mpr ⟨call, h.own, by rw [hstage]; rfl⟩
  rcases List.mem_append.mp hmem with hin | hqueue
  · exact hin
  · have hsize : 0 < c.permits.size := by
      rw [hpermitted.size]
      exact h.runs
    obtain ⟨other, hother⟩ := hpermitted.prompt.exists_inside hsize hqueue
    obtain ⟨x, hx, _⟩ := hpermitted.members.mp (Gate.mem_members_of_mem_inside hother)
    rw [h.eq_of_get? hx] at hother
    exact hother

theorem Alone.next?_of_locking (h : c.Alone id call) (hstage : call.stage = .locking) :
    c.next? id = some (.resolve id) := by
  simp [next?, h.own, hstage, h.admits (by rw [hstage]; rfl)]

theorem Alone.next?_of_permitting (h : c.Alone id call) (hstage : call.stage = .permitting) :
    c.next? id = some (.launch id) := by
  have hadmits : c.permits.admits id = true := decide_eq_true (h.permitted hstage)
  simp [next?, h.own, hstage, hadmits]

theorem Alone.next?_of_storing (h : c.Alone id call) (hstage : call.stage = .storing k) :
    c.next? id = some (.store id) := by
  simp [next?, h.own, hstage]

theorem Alone.next?_of_leaving (h : c.Alone id call) (hstage : call.stage = .leaving ending) :
    c.next? id = none := by
  simp [next?, h.own, hstage]

theorem Alone.takes (h : c.Alone id call) (hs : c.step? s = some d) (hown : s.caller? = some id)
    {stage : Stage} (hcall : d.calls.get? id = some (call.moved stage)) :
    d.Alone id (call.moved stage) where
  orderly := h.orderly.takes (takes_of_step? hs)
  own := hcall
  others other hne := by
    have hother : s.caller? ≠ some other := by
      rw [hown]
      exact fun heq => hne (Option.some.inj heq).symm
    rw [(takes_of_step? hs).get?_of_other hother]
    exact h.others other hne
  runs := by
    rw [(takes_of_step? hs).config_eq]
    exact h.runs

theorem Resting.start (h : c.Resting) (id : CallId) (first second : Object Input)
    (operation : Operation) : ∃ d, c.step? (.start id first second operation) = some d ∧
      d.Alone id { first, second, operation } ∧ d.ledger = c.ledger := by
  have hstep : (c.step? (.start id first second operation)).isSome = true := by
    simp [step?, start?, Table.contains, h.idle id]
  obtain ⟨d, hd⟩ := Option.isSome_iff_exists.mp hstep
  have hs := takes_of_step? hd
  refine ⟨d, hd, ⟨h.orderly.takes hs, ?_, fun other hne => ?_, ?_⟩, ?_⟩
  · cases hs
    simp
  · rw [hs.get?_of_other fun heq => hne (Option.some.inj heq).symm]
    exact h.idle other
  · rw [hs.config_eq]
    exact h.runs
  · cases hs
    rfl

theorem Alone.hits (h : c.Alone id call) (hstage : call.stage = .locking)
    (hop : call.operation = .request desired) (hold : c.lookup call.pair = some k)
    (haccept : (c.config.reuse && k.accepts desired) = true) :
    ∃ d, c.step? (.resolve id) = some d ∧
      d.Alone id (call.moved (.leaving (.answered (.served k.output)))) ∧
      d.ledger = { c.ledger with stats := c.ledger.stats.bump .hits } := by
  have hin := h.admits (by rw [hstage]; rfl)
  have hprobe : c.probe call.pair desired = .accepted k := by
    simp only [probe, hold, haccept, if_true]
  have hstep : c.step? (.resolve id) = some (unlock id call (.answered (.served k.output))
      (c.count fun s => { s with hits := s.hits + 1 })) := by
    simp [step?, h.own, resolve?, hstage, hop, hin, hprobe]
  exact ⟨_, hstep, h.takes hstep rfl (by simp [unlock, move]), rfl⟩

theorem Alone.removes (h : c.Alone id call) (hstage : call.stage = .locking)
    (hop : call.operation = .invalidate) :
    ∃ d, c.step? (.resolve id) = some d ∧
      d.Alone id (call.moved (.leaving (.answered (.removed (c.lookup call.pair).isSome)))) ∧
      d.ledger = { c.ledger with store := c.ledger.store.erase call.pair } := by
  have hin := h.admits (by rw [hstage]; rfl)
  have hstep : c.step? (.resolve id) =
      some (unlock id call (.answered (.removed (c.lookup call.pair).isSome))
        { c with store := c.store.erase call.pair }) := by
    simp [step?, h.own, resolve?, hstage, hop, hin]
  exact ⟨_, hstep, h.takes hstep rfl (by simp [unlock, move]), rfl⟩

theorem Alone.asks (h : c.Alone id call) (hstage : call.stage = .locking)
    (hop : call.operation = .request desired)
    (hrefuse : ∀ k, c.lookup call.pair = some k → (c.config.reuse && k.accepts desired) = false) :
    ∃ d, c.step? (.resolve id) = some d ∧ d.Alone id (call.moved .permitting) ∧
      d.ledger = { c.ledger with
        stats := c.ledger.stats.bump (if (c.lookup call.pair).isSome then .rejections else .misses) } := by
  have hin := h.admits (by rw [hstage]; rfl)
  cases hold : c.lookup call.pair with
  | none =>
    have hprobe : c.probe call.pair desired = .missing := by simp only [probe, hold]
    have hstep : c.step? (.resolve id) = some (permit id call
        (c.count fun s => { s with misses := s.misses + 1 })) := by
      simp [step?, h.own, resolve?, hstage, hop, hin, hprobe]
    exact ⟨_, hstep, h.takes hstep rfl (by simp [permit, move]), rfl⟩
  | some k =>
    have hprobe : c.probe call.pair desired = .rejected k := by
      simp only [probe, hold, hrefuse k hold, Bool.false_eq_true, if_false]
    have hstep : c.step? (.resolve id) = some (permit id call
        (c.count fun s => { s with rejections := s.rejections + 1 })) := by
      simp [step?, h.own, resolve?, hstage, hop, hin, hprobe]
    exact ⟨_, hstep, h.takes hstep rfl (by simp [permit, move]), rfl⟩

theorem Alone.launches (h : c.Alone id call) (hstage : call.stage = .permitting) :
    ∃ d, c.step? (.launch id) = some d ∧ d.Alone id (call.moved .running) ∧
      d.ledger = { c.ledger with stats := c.ledger.stats.bump .computations } := by
  have hadmits : c.permits.admits id = true := decide_eq_true (h.permitted hstage)
  have hstep : c.step? (.launch id) = some (move id call .running
      (c.count fun s => { s with computations := s.computations + 1 })) := by
    simp [step?, h.own, launch?, hstage, hadmits]
  exact ⟨_, hstep, h.takes hstep rfl (by simp [move]), rfl⟩

theorem Alone.done (h : c.Alone id call) (hstage : call.stage = .running)
    (hop : call.operation = .request desired) (output : Derived) :
    ∃ d, c.step? (.finish id (.done output)) = some d ∧
      d.Alone id (call.moved (.storing (c.connect call desired output))) ∧
      d.ledger = { c.ledger with next := c.ledger.next + 1 } := by
  have hstep : c.step? (.finish id (.done output)) = some (move id call
      (.storing (c.connect call desired output)) { c.unpermit id with next := c.next + 1 }) := by
    simp [step?, h.own, finish?, hstage, hop]
  exact ⟨_, hstep, h.takes hstep rfl (by simp [move]), rfl⟩

theorem Alone.stops (h : c.Alone id call) (hstage : call.stage = .running)
    (hop : call.operation = .request desired) {outcome : Outcome} {answer : Answer}
    (hstop : outcome.stop? = some answer) :
    ∃ d, c.step? (.finish id outcome) = some d ∧
      d.Alone id (call.moved (.leaving (.answered answer))) ∧
      d.ledger = { c.ledger with stats := outcome.failures.foldl .bump c.ledger.stats } := by
  cases outcome with
  | done => cases hstop
  | failed failure =>
    obtain rfl := Option.some.inj hstop
    have hstep : c.step? (.finish id (.failed failure)) =
        some (unlock id call (.answered (.failed failure))
          ((c.unpermit id).count fun s => { s with failures := s.failures + 1 })) := by
      simp [step?, h.own, finish?, hstage, hop]
    exact ⟨_, hstep, h.takes hstep rfl (by simp [unlock, move]), rfl⟩
  | panicked =>
    obtain rfl := Option.some.inj hstop
    have hstep : c.step? (.finish id .panicked) =
        some (unlock id call (.answered .panicked) (c.unpermit id)) := by
      simp [step?, h.own, finish?, hstage, hop]
    exact ⟨_, hstep, h.takes hstep rfl (by simp [unlock, move]), rfl⟩

theorem Alone.stores (h : c.Alone id call) (hstage : call.stage = .storing k) :
    ∃ d, c.step? (.store id) = some d ∧
      d.Alone id (call.moved (.leaving (.answered (.served k.output)))) ∧
      d.ledger = { c.ledger with store := c.ledger.store.put k } := by
  have hstep : c.step? (.store id) = some (unlock id call (.answered (.served k.output))
      { c with store := c.store.put k }) := by
    simp [step?, h.own, store?, hstage]
  exact ⟨_, hstep, h.takes hstep rfl (by simp [unlock, move]), rfl⟩

theorem Alone.leaves (h : c.Alone id call) (hstage : call.stage = .leaving ending) :
    ∃ d, c.step? (.leave id) = some d ∧ d.Resting ∧ d.ledger = c.ledger := by
  have hstep : c.step? (.leave id) =
      some { c with locks := c.locks.drop id, calls := c.calls.erase id } := by
    simp [step?, h.own, leave?, hstage]
  have hs := takes_of_step? hstep
  refine ⟨_, hstep, ⟨h.orderly.takes hs, fun other => ?_, h.runs⟩, rfl⟩
  by_cases hother : other = id
  · simp [hother]
  · simp [hother, h.others other hother]

end Cache

end PairCache
