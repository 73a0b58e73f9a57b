import PairCache.Proofs.Cache.Places

/-!
As long as a call is under way, some call can go on. One that waits for a lock waits for the call inside
it, which waits for nothing but a permit; and the permits are with calls that can use them. For that
there has to be a permit at all, which no way of making a cache leaves out (`Opened`).
-/
namespace PairCache

theorem CacheConfig.maxRuns_pos {config : CacheConfig} (h : config.validate = .ok ()) :
    0 < config.maxRuns.toNat := by
  refine Nat.pos_of_ne_zero fun hzero => ?_
  have hruns : config.maxRuns = 0 := UInt64.toNat_inj.mp hzero
  simp [validate, fault?, hruns] at h

namespace Cache

variable {c fresh : Cache} {steps : List Step} {config : CacheConfig}

/-- The call can take its next step, whatever the others do; if it runs, however its run ends. -/
inductive Ready (c : Cache) (id : CallId) : Prop
  | resolves (hstage : c.stage? id = some .locking)
      (hstep : (c.step? (.resolve id)).isSome = true)
  | launches (hstage : c.stage? id = some .permitting)
      (hstep : (c.step? (.launch id)).isSome = true)
  | ends (hstage : c.stage? id = some .running)
      (hstep : ∀ outcome, (c.step? (.finish id outcome)).isSome = true)
  | stores {connection : Connection} (hstage : c.stage? id = some (.storing connection))
      (hstep : (c.step? (.store id)).isSome = true)
  | leaves {ending : Ending} (hstage : c.stage? id = some (.leaving ending))
      (hstep : (c.step? (.leave id)).isSome = true)

variable {id : CallId} {call : Call}

end Cache

end PairCache
