import PairCache.Proofs.Cache.Exclusion

/-!
Places at the locks and among the permits. `Cache.Orderly` adds two things to `Cache.Locked`: no place
stays free while a call waits for it, and the permits are taken or asked for by just those calls that
are about to run or are running. Every step keeps it.
-/
namespace PairCache

namespace Locks

variable {l : Locks} {id : CallId}

def Prompt (l : Locks) : Prop := ∀ lock, (l.gate lock).Prompt

theorem prompt_empty : Prompt {} := fun _ => Gate.prompt_new 1

theorem Prompt.grant (h : l.Prompt) (id : CallId) (pair : Pair) : (l.grant id pair).Prompt := by
  intro lock
  rw [gate_grant]
  exact h lock

theorem Prompt.onGate {f : Gate → Gate} (h : l.Prompt)
    (hf : ∀ g : Gate, g.Prompt → (f g).Prompt) (id : CallId) : (l.onGate f id).Prompt := by
  intro lock
  rcases gate_onGate f id l lock with heq | ⟨_, heq⟩
  · rw [heq]
    exact h lock
  · rw [heq]
    exact hf _ (h lock)

theorem Prompt.enter (h : l.Prompt) (id : CallId) : (l.enter id).Prompt :=
  h.onGate (fun _ hg => hg.enter id) id

theorem Prompt.exit (h : l.Prompt) (id : CallId) : (l.exit id).Prompt :=
  h.onGate (fun _ hg => hg.leave id) id

theorem Prompt.drop (h : l.Prompt) (hs : l.Sound) (hout : ¬l.AtGate id) : (l.drop id).Prompt := by
  intro lock
  rw [gate_drop hs hout]
  exact h lock

end Locks

def Stage.needsPermit : Stage → Bool
  | .permitting | .running => true
  | .locking | .storing _ | .leaving _ => false

namespace Cache

variable {c d : Cache} {s : Step} {steps : List Step} {config : CacheConfig}

def stage? (id : CallId) (c : Cache) : Option Stage := (c.calls.get? id).map (·.stage)

inductive PermitShifts (c d : Cache) : Prop
  | asks {id call} (hid : c.calls.get? id = some call) (hfrom : call.stage.needsPermit = false)
      (hpermits : d.permits = c.permits.enter id)
      (hcalls : d.calls = c.calls.insert id (call.moved .permitting))
  | launches {id call} (hid : c.calls.get? id = some call) (hfrom : call.stage = .permitting)
      (hin : id ∈ c.permits.inside) (hpermits : d.permits = c.permits)
      (hcalls : d.calls = c.calls.insert id (call.moved .running))
  | returns {id call stage} (hid : c.calls.get? id = some call)
      (hto : stage.needsPermit = false) (hpermits : d.permits = c.permits.leave id)
      (hcalls : d.calls = c.calls.insert id (call.moved stage))
  | without {id call} (hfrom : ∀ x, c.calls.get? id = some x → x.stage.needsPermit = false)
      (hto : call.stage.needsPermit = false) (hpermits : d.permits = c.permits)
      (hcalls : d.calls = c.calls.insert id call)
  | leaves {id call} (hid : c.calls.get? id = some call) (hfrom : call.stage.needsPermit = false)
      (hpermits : d.permits = c.permits) (hcalls : d.calls = c.calls.erase id)
  | stays (hpermits : d.permits = c.permits) (hcalls : d.calls = c.calls)

variable {id : CallId} {call : Call}

theorem PermitShifts.of_unlock (hid : c.calls.get? id = some call) {ending : Ending}
    (hfrom : call.stage.needsPermit = false) (hpermits : d.permits = c.permits)
    (hcalls : d.calls = c.calls.insert id (call.moved (.leaving ending))) : c.PermitShifts d := by
  refine .without (fun x hx => ?_) rfl hpermits hcalls
  obtain rfl := Option.some.inj (hid.symm.trans hx)
  exact hfrom

theorem Takes.permitShifts (h : c.Takes s d) : c.PermitShifts d := by
  cases h with
  | start hid =>
    refine .without (fun x hx => ?_) rfl rfl rfl
    cases hid.symm.trans hx
  | remove hid hstage => exact .of_unlock hid (by rw [hstage]; rfl) rfl rfl
  | hit hid hstage => exact .of_unlock hid (by rw [hstage]; rfl) rfl rfl
  | reject hid hstage => exact .asks hid (by rw [hstage]; rfl) rfl rfl
  | miss hid hstage => exact .asks hid (by rw [hstage]; rfl) rfl rfl
  | launch hid hstage hin => exact .launches hid hstage (of_decide_eq_true hin) rfl rfl
  | done hid => exact .returns hid rfl rfl rfl
  | fail hid => exact .returns hid rfl rfl rfl
  | panic hid => exact .returns hid rfl rfl rfl
  | store hid hstage => exact .of_unlock hid (by rw [hstage]; rfl) rfl rfl
  | leave hid hstage => exact .leaves hid (by rw [hstage]; rfl) rfl rfl
  | quitLock hid hstage => exact .of_unlock hid (by rw [hstage]; rfl) rfl rfl
  | quitPermit hid => exact .returns hid rfl rfl rfl
  | clear => exact .stays rfl rfl

def NeedsPermit (c : Cache) (id : CallId) : Prop :=
  ∃ call, c.calls.get? id = some call ∧ call.stage.needsPermit = true

structure Permitted (c : Cache) : Prop where
  size : c.permits.size = c.config.maxRuns.toNat
  prompt : c.permits.Prompt
  nodup : c.permits.members.Nodup
  members : ∀ {id}, id ∈ c.permits.members ↔ c.NeedsPermit id
  running : ∀ id call, c.calls.get? id = some call → call.stage = .running → id ∈ c.permits.inside

theorem permitted_ofConfig (config : CacheConfig) : (ofConfig config).Permitted where
  size := Nat.add_zero _
  prompt := Gate.prompt_new _
  nodup := .nil
  members := by simp [ofConfig, Gate.members, NeedsPermit]
  running _ _ hid := by cases hid

theorem Permitted.asks (h : c.Permitted) (hid : c.calls.get? id = some call)
    (hfrom : call.stage.needsPermit = false) (hconfig : d.config = c.config)
    (hpermits : d.permits = c.permits.enter id)
    (hcalls : d.calls = c.calls.insert id (call.moved .permitting)) : d.Permitted where
  size := by
    rw [hpermits, Gate.size_enter, h.size, hconfig]
  prompt := by
    rw [hpermits]
    exact h.prompt.enter id
  nodup := by
    rw [hpermits]
    refine Gate.nodup_enter h.nodup fun hmem => ?_
    obtain ⟨x, hx, hneeds⟩ := h.members.mp hmem
    obtain rfl := Option.some.inj (hid.symm.trans hx)
    rw [hfrom] at hneeds
    cases hneeds
  members := by
    intro j
    rw [hpermits, Gate.mem_members_enter, h.members, NeedsPermit, NeedsPermit, hcalls,
      Table.exists_get?_insert]
    by_cases hj : j = id
    · simp [hj, Stage.needsPermit]
    · simp [hj]
  running := by
    rw [hpermits, hcalls]
    refine Table.forall_insert (fun j x hj hstage => ?_) fun hstage => ?_
    · exact Gate.mem_inside_enter (h.running j x hj hstage)
    · cases hstage

theorem Permitted.launches (h : c.Permitted) (hid : c.calls.get? id = some call)
    (hfrom : call.stage = .permitting) (hin : id ∈ c.permits.inside) (hconfig : d.config = c.config)
    (hpermits : d.permits = c.permits)
    (hcalls : d.calls = c.calls.insert id (call.moved .running)) : d.Permitted where
  size := by
    rw [hpermits, h.size, hconfig]
  prompt := hpermits ▸ h.prompt
  nodup := hpermits ▸ h.nodup
  members := by
    intro j
    rw [hpermits, h.members, NeedsPermit, NeedsPermit, hcalls, Table.exists_get?_insert]
    by_cases hj : j = id
    · simp [hj, hid, hfrom, Stage.needsPermit]
    · simp [hj]
  running := by
    rw [hpermits, hcalls]
    exact Table.forall_insert h.running fun _ => hin

theorem Permitted.returns (h : c.Permitted) {stage : Stage} (hto : stage.needsPermit = false)
    (hconfig : d.config = c.config) (hpermits : d.permits = c.permits.leave id)
    (hcalls : d.calls = c.calls.insert id (call.moved stage)) : d.Permitted where
  size := by
    rw [hpermits, Gate.size_leave, h.size, hconfig]
  prompt := by
    rw [hpermits]
    exact h.prompt.leave id
  nodup := by
    rw [hpermits]
    exact Gate.nodup_leave h.nodup
  members := by
    intro j
    rw [hpermits, Gate.mem_members_leave h.nodup, h.members, NeedsPermit, NeedsPermit, hcalls,
      Table.exists_get?_insert]
    simp [hto]
  running := by
    intro j x hj hstage
    rw [hcalls, Table.get?_insert] at hj
    split at hj
    · obtain rfl := Option.some.inj hj
      rw [Call.stage_moved] at hstage
      rw [hstage] at hto
      cases hto
    · rename_i hne
      rw [hpermits]
      exact Gate.mem_inside_leave (h.running j x hj hstage) hne

theorem Permitted.of_same (h : c.Permitted) (hconfig : d.config = c.config)
    (hpermits : d.permits = c.permits)
    (hneeds : ∀ j, d.NeedsPermit j ↔ c.NeedsPermit j)
    (hrunning : ∀ j x, d.calls.get? j = some x → x.stage = .running → c.calls.get? j = some x) :
    d.Permitted where
  size := by
    rw [hpermits, h.size, hconfig]
  prompt := hpermits ▸ h.prompt
  nodup := hpermits ▸ h.nodup
  members := by
    intro j
    rw [hpermits, h.members, hneeds]
  running := by
    intro j x hj hstage
    rw [hpermits]
    exact h.running j x (hrunning j x hj hstage) hstage

theorem Permitted.takes (h : c.Permitted) (hs : c.Takes s d) : d.Permitted := by
  have hconfig := hs.config_eq
  cases hs.permitShifts with
  | asks hid hfrom hpermits hcalls => exact h.asks hid hfrom hconfig hpermits hcalls
  | launches hid hfrom hin hpermits hcalls => exact h.launches hid hfrom hin hconfig hpermits hcalls
  | returns _ hto hpermits hcalls => exact h.returns hto hconfig hpermits hcalls
  | @without id call hfrom hto hpermits hcalls =>
    refine h.of_same hconfig hpermits (fun j => ?_) fun j x hj hstage => ?_
    · rw [NeedsPermit, NeedsPermit, hcalls, Table.exists_get?_insert]
      by_cases hj : j = id
      · simp only [hj, hto]
        simpa using hfrom
      · simp [hj]
    · rw [hcalls] at hj
      rcases Table.eq_or_of_get?_insert hj with ⟨_, rfl⟩ | hj
      · rw [hstage] at hto
        cases hto
      · exact hj
  | @leaves id call hid hfrom hpermits hcalls =>
    refine h.of_same hconfig hpermits (fun j => ?_) fun j x hj _ => ?_
    · rw [NeedsPermit, NeedsPermit, hcalls, Table.exists_get?_erase]
      by_cases hj : j = id
      · simp [hj, hid, hfrom]
      · simp [hj]
    · rw [hcalls] at hj
      exact (Table.get?_of_get?_erase hj).2
  | stays hpermits hcalls =>
    refine h.of_same hconfig hpermits (fun j => ?_) fun j x hj _ => ?_
    · rw [NeedsPermit, NeedsPermit, hcalls]
    · rw [hcalls] at hj
      exact hj

theorem prompt_takes (h : c.locks.Prompt) (hl : c.Locked) (hs : c.Takes s d) : d.locks.Prompt := by
  cases hs.shifts with
  | enters hid hstage hlocks hcalls =>
    rw [hlocks]
    exact (h.grant _ _).enter _
  | goesOn hid hfrom hto hlocks hcalls => exact hlocks ▸ h
  | unlocks hid hfrom hlocks hcalls =>
    rw [hlocks]
    exact h.exit _
  | leaves hid hfrom hlocks hcalls =>
    rw [hlocks]
    exact h.drop hl.sound ((hl.fits hid).outside hfrom)
  | stays hlocks hcalls => exact hlocks ▸ h

/-- Only requests get past the look-up. -/
def Call.Asks (call : Call) : Prop :=
  call.stage.isInside = true → ∃ desired, call.operation = .request desired

theorem asks_takes (h : ∀ id call, c.calls.get? id = some call → Call.Asks call)
    (hs : c.Takes s d) : ∀ id call, d.calls.get? id = some call → Call.Asks call := by
  cases hs with
  | reject hid hstage hop => exact Table.forall_insert h fun _ => ⟨_, hop⟩
  | miss hid hstage hop => exact Table.forall_insert h fun _ => ⟨_, hop⟩
  | @launch id call hid hstage =>
    refine Table.forall_insert h fun _ => ?_
    exact h id call hid (by rw [hstage]; rfl)
  | done hid hstage hop => exact Table.forall_insert h fun _ => ⟨_, hop⟩
  | leave => exact Table.forall_erase _ h
  | clear => exact h
  | _ =>
    refine Table.forall_insert h fun hin => ?_
    cases hin

structure Orderly (c : Cache) : Prop extends c.Locked where
  prompt : c.locks.Prompt
  permitted : c.Permitted
  asks : ∀ id call, c.calls.get? id = some call → Call.Asks call

theorem orderly_ofConfig (config : CacheConfig) : (ofConfig config).Orderly where
  toLocked := locked_ofConfig config
  prompt := Locks.prompt_empty
  permitted := permitted_ofConfig config
  asks _ _ hid := by cases hid

theorem Orderly.takes (h : c.Orderly) (hs : c.Takes s d) : d.Orderly where
  toLocked := h.toLocked.takes hs
  prompt := prompt_takes h.prompt h.toLocked hs
  permitted := h.permitted.takes hs
  asks := asks_takes h.asks hs

theorem orderly_of_run? (h : (ofConfig config).run? steps = some c) : c.Orderly :=
  run?_keeps (fun hc hs => hc.takes hs) (orderly_ofConfig config) h

end Cache

end PairCache
