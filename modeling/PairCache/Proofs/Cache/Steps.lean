import PairCache.Cache.Basic
import PairCache.Proofs.Table

/-!
What a step can do. `Cache.Takes` lists it case by case (`takes_of_step?`); `Cache.run?_induct` carries
a property that every step keeps through a run.
-/
namespace PairCache

namespace Stage

/-- Past the lock of the pair and not out of it. -/
def isInside : Stage → Bool
  | .permitting | .running | .storing _ => true
  | .locking | .leaving _ => false

def isLeaving : Stage → Bool
  | .leaving _ => true
  | _ => false

end Stage

@[simp] theorem Call.pair_moved (call : Call) (stage : Stage) : (call.moved stage).pair = call.pair :=
  rfl

@[simp] theorem Call.stage_moved (call : Call) (stage : Stage) : (call.moved stage).stage = stage :=
  rfl

@[simp] theorem Call.operation_moved (call : Call) (stage : Stage) :
    (call.moved stage).operation = call.operation := rfl

namespace Cache

variable {c d : Cache} {s : Step} {steps : List Step}

inductive Takes (c : Cache) : Step → Cache → Prop
  | start {id first second operation} (hid : c.calls.get? id = none) :
      c.Takes (.start id first second operation)
        { c with
          locks := (c.locks.grant id (.of first second)).enter id
          calls := c.calls.insert id { first, second, operation } }
  | remove {id call} (hid : c.calls.get? id = some call) (hstage : call.stage = .locking)
      (hop : call.operation = .invalidate) (hin : c.locks.admits id = true) :
      c.Takes (.resolve id)
        (unlock id call (.answered (.removed (c.lookup call.pair).isSome))
          { c with store := c.store.erase call.pair })
  | hit {id call desired old} (hid : c.calls.get? id = some call) (hstage : call.stage = .locking)
      (hop : call.operation = .request desired) (hin : c.locks.admits id = true)
      (hold : c.lookup call.pair = some old)
      (haccept : (c.config.reuse && old.accepts desired) = true) :
      c.Takes (.resolve id)
        (unlock id call (.answered (.served old.output))
          (c.count fun s => { s with hits := s.hits + 1 }))
  | reject {id call desired old} (hid : c.calls.get? id = some call) (hstage : call.stage = .locking)
      (hop : call.operation = .request desired) (hin : c.locks.admits id = true)
      (hold : c.lookup call.pair = some old)
      (hreject : (c.config.reuse && old.accepts desired) = false) :
      c.Takes (.resolve id)
        (permit id call (c.count fun s => { s with rejections := s.rejections + 1 }))
  | miss {id call desired} (hid : c.calls.get? id = some call) (hstage : call.stage = .locking)
      (hop : call.operation = .request desired) (hin : c.locks.admits id = true)
      (hnone : c.lookup call.pair = none) :
      c.Takes (.resolve id) (permit id call (c.count fun s => { s with misses := s.misses + 1 }))
  | launch {id call} (hid : c.calls.get? id = some call) (hstage : call.stage = .permitting)
      (hin : c.permits.admits id = true) :
      c.Takes (.launch id)
        (move id call .running (c.count fun s => { s with computations := s.computations + 1 }))
  | done {id call desired output} (hid : c.calls.get? id = some call)
      (hstage : call.stage = .running) (hop : call.operation = .request desired) :
      c.Takes (.finish id (.done output))
        (move id call (.storing (c.connect call desired output))
          { c.unpermit id with next := c.next + 1 })
  | fail {id call desired failure} (hid : c.calls.get? id = some call)
      (hstage : call.stage = .running) (hop : call.operation = .request desired) :
      c.Takes (.finish id (.failed failure))
        (unlock id call (.answered (.failed failure))
          ((c.unpermit id).count fun s => { s with failures := s.failures + 1 }))
  | panic {id call desired} (hid : c.calls.get? id = some call) (hstage : call.stage = .running)
      (hop : call.operation = .request desired) :
      c.Takes (.finish id .panicked) (unlock id call (.answered .panicked) (c.unpermit id))
  | store {id call new} (hid : c.calls.get? id = some call) (hstage : call.stage = .storing new) :
      c.Takes (.store id)
        (unlock id call (.answered (.served new.output)) { c with store := c.store.put new })
  | leave {id call ending} (hid : c.calls.get? id = some call)
      (hstage : call.stage = .leaving ending) :
      c.Takes (.leave id) { c with locks := c.locks.drop id, calls := c.calls.erase id }
  | quitLock {id call} (hid : c.calls.get? id = some call) (hstage : call.stage = .locking) :
      c.Takes (.cancel id) (unlock id call .cancelled c)
  | quitPermit {id call} (hid : c.calls.get? id = some call) (hstage : call.stage = .permitting) :
      c.Takes (.cancel id) (unlock id call .cancelled (c.unpermit id))
  | clear : c.Takes .clear c.clear

theorem takes_of_resolve? {id : CallId} {call : Call} (hid : c.calls.get? id = some call)
    (h : c.resolve? id call = some d) : c.Takes (.resolve id) d := by
  unfold resolve? at h
  split at h
  · rename_i hstage hop
    split at h
    · rename_i hin
      obtain rfl := Option.some.inj h
      exact .remove hid hstage hop hin
    · cases h
  · rename_i desired hstage hop
    split at h
    · rename_i hin
      unfold probe at h
      cases hold : c.lookup call.pair with
      | none =>
        simp only [hold] at h
        obtain rfl := Option.some.inj h
        exact .miss hid hstage hop hin hold
      | some old =>
        simp only [hold] at h
        cases hre : c.config.reuse && old.accepts desired with
        | true =>
          simp only [hre, if_true] at h
          obtain rfl := Option.some.inj h
          exact .hit hid hstage hop hin hold hre
        | false =>
          simp only [hre, Bool.false_eq_true, if_false] at h
          obtain rfl := Option.some.inj h
          exact .reject hid hstage hop hin hold hre
    · cases h
  · cases h

theorem takes_of_launch? {id : CallId} {call : Call} (hid : c.calls.get? id = some call)
    (h : c.launch? id call = some d) : c.Takes (.launch id) d := by
  unfold launch? at h
  split at h
  · rename_i hstage
    split at h
    · rename_i hin
      obtain rfl := Option.some.inj h
      exact .launch hid hstage hin
    · cases h
  · cases h

theorem takes_of_finish? {id : CallId} {call : Call} {outcome : Outcome}
    (hid : c.calls.get? id = some call) (h : c.finish? id outcome call = some d) :
    c.Takes (.finish id outcome) d := by
  unfold finish? at h
  split at h
  · rename_i hstage hop
    cases outcome with
    | done output =>
      obtain rfl := Option.some.inj h
      exact .done hid hstage hop
    | failed failure =>
      obtain rfl := Option.some.inj h
      exact .fail hid hstage hop
    | panicked =>
      obtain rfl := Option.some.inj h
      exact .panic hid hstage hop
  · cases h

theorem takes_of_cancel? {id : CallId} {call : Call} (hid : c.calls.get? id = some call)
    (h : c.cancel? id call = some d) : c.Takes (.cancel id) d := by
  unfold cancel? at h
  split at h
  · rename_i hstage
    obtain rfl := Option.some.inj h
    exact .quitLock hid hstage
  · rename_i hstage
    obtain rfl := Option.some.inj h
    exact .quitPermit hid hstage
  · cases h

theorem takes_of_step? (h : c.step? s = some d) : c.Takes s d := by
  cases s with
  | start id first second operation =>
    simp only [step?, start?] at h
    split at h
    · cases h
    · rename_i hid
      obtain rfl := Option.some.inj h
      exact .start (by simpa [Table.contains] using hid)
  | resolve id =>
    obtain ⟨call, hid, h⟩ := Option.bind_eq_some_iff.mp h
    exact takes_of_resolve? hid h
  | launch id =>
    obtain ⟨call, hid, h⟩ := Option.bind_eq_some_iff.mp h
    exact takes_of_launch? hid h
  | finish id outcome =>
    obtain ⟨call, hid, h⟩ := Option.bind_eq_some_iff.mp h
    exact takes_of_finish? hid h
  | store id =>
    obtain ⟨call, hid, h⟩ := Option.bind_eq_some_iff.mp h
    unfold store? at h
    split at h
    · rename_i hstage
      obtain rfl := Option.some.inj h
      exact .store hid hstage
    · cases h
  | leave id =>
    obtain ⟨call, hid, h⟩ := Option.bind_eq_some_iff.mp h
    unfold leave? at h
    split at h
    · rename_i hstage
      obtain rfl := Option.some.inj h
      exact .leave hid hstage
    · cases h
  | cancel id =>
    obtain ⟨call, hid, h⟩ := Option.bind_eq_some_iff.mp h
    exact takes_of_cancel? hid h
  | clear =>
    obtain rfl := Option.some.inj h
    exact .clear

inductive Shifts (c d : Cache) : Prop
  | enters {id call} (hid : c.calls.get? id = none) (hstage : call.stage = .locking)
      (hlocks : d.locks = (c.locks.grant id call.pair).enter id)
      (hcalls : d.calls = c.calls.insert id call)
  | goesOn {id call stage} (hid : c.calls.get? id = some call)
      (hfrom : call.stage.isInside = true ∨ call.stage = .locking ∧ c.locks.admits id = true)
      (hto : stage.isInside = true) (hlocks : d.locks = c.locks)
      (hcalls : d.calls = c.calls.insert id (call.moved stage))
  | unlocks {id call ending} (hid : c.calls.get? id = some call)
      (hfrom : call.stage.isLeaving = false) (hlocks : d.locks = c.locks.exit id)
      (hcalls : d.calls = c.calls.insert id (call.moved (.leaving ending)))
  | leaves {id call} (hid : c.calls.get? id = some call) (hfrom : call.stage.isLeaving = true)
      (hlocks : d.locks = c.locks.drop id) (hcalls : d.calls = c.calls.erase id)
  | stays (hlocks : d.locks = c.locks) (hcalls : d.calls = c.calls)

theorem Takes.shifts (h : c.Takes s d) : c.Shifts d := by
  cases h with
  | start hid => exact .enters hid rfl rfl rfl
  | remove hid hstage => exact .unlocks hid (by rw [hstage]; rfl) rfl rfl
  | hit hid hstage => exact .unlocks hid (by rw [hstage]; rfl) rfl rfl
  | reject hid hstage _ hin => exact .goesOn hid (.inr ⟨hstage, hin⟩) rfl rfl rfl
  | miss hid hstage _ hin => exact .goesOn hid (.inr ⟨hstage, hin⟩) rfl rfl rfl
  | launch hid hstage => exact .goesOn hid (.inl (by rw [hstage]; rfl)) rfl rfl rfl
  | done hid hstage => exact .goesOn hid (.inl (by rw [hstage]; rfl)) rfl rfl rfl
  | fail hid hstage => exact .unlocks hid (by rw [hstage]; rfl) rfl rfl
  | panic hid hstage => exact .unlocks hid (by rw [hstage]; rfl) rfl rfl
  | store hid hstage => exact .unlocks hid (by rw [hstage]; rfl) rfl rfl
  | leave hid hstage => exact .leaves hid (by rw [hstage]; rfl) rfl rfl
  | quitLock hid hstage => exact .unlocks hid (by rw [hstage]; rfl) rfl rfl
  | quitPermit hid hstage => exact .unlocks hid (by rw [hstage]; rfl) rfl rfl
  | clear => exact .stays rfl rfl

theorem Takes.config_eq (h : c.Takes s d) : d.config = c.config := by
  cases h <;> rfl

def Knew (c : Cache) (id : CallId) (call : Call) : Prop :=
  ∃ old, c.calls.get? id = some old ∧ old.first = call.first ∧ old.second = call.second ∧
    old.operation = call.operation

theorem knew_moved {id : CallId} {call : Call} (hid : c.calls.get? id = some call) (stage : Stage) :
    c.Knew id (call.moved stage) :=
  ⟨call, hid, rfl, rfl, rfl⟩

theorem Takes.knew (h : c.Takes s d) : ∀ id call, d.calls.get? id = some call →
    c.Knew id call ∨ s = .start id call.first call.second call.operation := by
  have hold : ∀ id call, c.calls.get? id = some call →
      c.Knew id call ∨ s = .start id call.first call.second call.operation :=
    fun _ call hid => .inl ⟨call, hid, rfl, rfl, rfl⟩
  cases h with
  | start => exact Table.forall_insert hold (.inr rfl)
  | leave => exact Table.forall_erase _ hold
  | clear => exact hold
  | _ => exact Table.forall_insert hold (.inl (knew_moved ‹_› _))

theorem Takes.lookup (h : c.Takes s d) {pair : Pair} {k : Connection}
    (hk : d.lookup pair = some k) :
    c.lookup pair = some k ∨
      ∃ id call, c.calls.get? id = some call ∧ call.stage = .storing k ∧ pair = k.pair ∧
        s = .store id := by
  cases h with
  | remove => exact .inl (Table.get?_of_get?_erase hk).2
  | @store id call new hid hstage =>
    change (c.store.put new).get? pair = some k at hk
    rw [Store.get?_put] at hk
    split at hk
    · rename_i hpair
      obtain rfl := Option.some.inj hk
      exact .inr ⟨id, call, hid, hstage, hpair, rfl⟩
    · exact .inl hk
  | clear => cases hk
  | _ => exact .inl hk

@[simp] theorem run?_nil (c : Cache) : c.run? [] = some c := rfl

theorem run?_cons : c.run? (s :: steps) = some d ↔
    ∃ e, c.step? s = some e ∧ e.run? steps = some d :=
  Option.bind_eq_some_iff

theorem run?_append {more : List Step} : c.run? (steps ++ more) = some d ↔
    ∃ e, c.run? steps = some e ∧ e.run? more = some d := by
  induction steps generalizing c with
  | nil => simp
  | cons s steps ih =>
    simp only [List.cons_append, run?_cons, ih]
    constructor
    · rintro ⟨x, hx, e, he, hd⟩
      exact ⟨e, ⟨x, hx, he⟩, hd⟩
    · rintro ⟨e, ⟨x, hx, he⟩, hd⟩
      exact ⟨x, hx, e, he, hd⟩

def Each (legal : Cache → Step → Prop) : Cache → List Step → Prop
  | _, [] => True
  | c, s :: steps => legal c s ∧ ∀ d ∈ c.step? s, d.Each legal steps

instance decidableEach {legal : Cache → Step → Prop} [∀ c s, Decidable (legal c s)] :
    (c : Cache) → (steps : List Step) → Decidable (c.Each legal steps)
  | _, [] => isTrue trivial
  | c, s :: steps =>
    have : DecidablePred fun d : Cache => d.Each legal steps := fun d => decidableEach d steps
    inferInstanceAs (Decidable (legal c s ∧ ∀ d, d ∈ c.step? s → Each legal d steps))

theorem run?_induct {P : Cache → Prop} {legal : Cache → Step → Prop}
    (hstep : ∀ {c s d}, P c → legal c s → c.Takes s d → P d) (hc : P c)
    (hlegal : c.Each legal steps) (h : c.run? steps = some d) : P d := by
  induction steps generalizing c with
  | nil =>
    obtain rfl := Option.some.inj h
    exact hc
  | cons s steps ih =>
    obtain ⟨e, he, h⟩ := run?_cons.mp h
    exact ih (hstep hc hlegal.1 (takes_of_step? he)) (hlegal.2 e he) h

theorem each_true (c : Cache) (steps : List Step) : c.Each (fun _ _ => True) steps := by
  induction steps generalizing c with
  | nil => trivial
  | cons s steps ih => exact ⟨trivial, fun d _ => ih d⟩

theorem run?_trace {P : List Step → Cache → Prop} (hnil : P [] c)
    (hstep : ∀ {before d s e}, c.run? before = some d → P before d → d.Takes s e →
      P (before ++ [s]) e) (h : c.run? steps = some d) : P steps d := by
  have hrest : ∀ more {before b}, c.run? before = some b → P before b → b.run? more = some d →
      P (before ++ more) d := by
    intro more
    induction more with
    | nil =>
      intro before b hb hP h
      obtain rfl := Option.some.inj h
      rwa [List.append_nil]
    | cons s more ih =>
      intro before b hb hP h
      obtain ⟨e, he, h⟩ := run?_cons.mp h
      have hnext : c.run? (before ++ [s]) = some e :=
        run?_append.mpr ⟨b, hb, run?_cons.mpr ⟨e, he, rfl⟩⟩
      rw [List.append_cons]
      exact ih hnext (hstep hb hP (takes_of_step? he)) h
  exact hrest steps rfl hnil h

theorem run?_keeps {P : Cache → Prop} (hstep : ∀ {c s d}, P c → c.Takes s d → P d) (hc : P c)
    (h : c.run? steps = some d) : P d :=
  run?_induct (fun hP _ => hstep hP) hc (each_true c steps) h

theorem config_of_run? {config : CacheConfig} (h : (ofConfig config).run? steps = some c) :
    c.config = config :=
  run?_keeps (fun hc hs => hs.config_eq.trans hc) rfl h

end Cache

end PairCache
