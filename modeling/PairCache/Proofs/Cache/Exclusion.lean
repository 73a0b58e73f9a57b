import PairCache.Proofs.Cache.Locks
import PairCache.Proofs.Cache.Steps

/-!
The locks of a running cache. `Cache.Locked` ties the stages of the calls to the locks, and every step
keeps it; so a pair never has two calls in its critical section, nor two locks, nor a lock that no call
has a handle on.
-/
namespace PairCache

structure Stage.Fits (stage : Stage) (id : CallId) (l : Locks) : Prop where
  inside : stage.isInside = true → l.admits id = true
  present : stage.isLeaving = false → l.AtGate id
  outside : stage.isLeaving = true → ¬l.AtGate id

namespace Cache

variable {c d : Cache} {s : Step} {steps : List Step} {config : CacheConfig} {id : CallId}
  {call : Call}

structure Locked (c : Cache) : Prop where
  sound : c.locks.Sound
  handled : ∀ id, (c.locks.handles.get? id).map (·.pair) = (c.calls.get? id).map (·.pair)
  fits : ∀ {id call}, c.calls.get? id = some call → call.stage.Fits id c.locks

theorem Locked.handle (h : c.Locked) (hid : c.calls.get? id = some call) :
    ∃ lock, c.locks.handles.get? id = some ⟨call.pair, lock⟩ := by
  have hpair := h.handled id
  rw [hid] at hpair
  obtain ⟨hd, hget, heq⟩ := Option.map_eq_some_iff.mp hpair
  exact ⟨hd.lock, by simp [hget, ← heq]⟩

theorem Locked.no_handle (h : c.Locked) (hid : c.calls.get? id = none) :
    c.locks.handles.get? id = none := by
  have hpair := h.handled id
  rw [hid] at hpair
  exact Option.map_eq_none_iff.mp hpair

theorem locked_ofConfig (config : CacheConfig) : (ofConfig config).Locked where
  sound := Locks.sound_empty
  handled _ := by simp [ofConfig]
  fits h := by simp [ofConfig] at h

/-- A step concerns one call: the others keep their stages and their places at the locks. -/
theorem Locked.of_others (h : c.Locked) (id : CallId) (hsound : d.locks.Sound)
    (hhandled : ∀ j, (d.locks.handles.get? j).map (·.pair) = (d.calls.get? j).map (·.pair))
    (hcalls : ∀ j, j ≠ id → d.calls.get? j = c.calls.get? j)
    (hadmits : ∀ j, j ≠ id → c.locks.admits j = true → d.locks.admits j = true)
    (hgate : ∀ j, j ≠ id → (d.locks.AtGate j ↔ c.locks.AtGate j))
    (hself : ∀ x, d.calls.get? id = some x → x.stage.Fits id d.locks) : d.Locked := by
  refine ⟨hsound, hhandled, ?_⟩
  intro j x hj
  by_cases hne : j = id
  · subst hne
    exact hself x hj
  · rw [hcalls j hne] at hj
    obtain ⟨hinside, hpresent, houtside⟩ := h.fits hj
    refine ⟨fun hx => hadmits j hne (hinside hx), fun hx => ?_, fun hx => ?_⟩
    · rw [hgate j hne]
      exact hpresent hx
    · rw [hgate j hne]
      exact houtside hx

theorem Locked.enters (h : c.Locked) (hid : c.calls.get? id = none)
    (hstage : call.stage = .locking) (hlocks : d.locks = (c.locks.grant id call.pair).enter id)
    (hcalls : d.calls = c.calls.insert id call) : d.Locked := by
  have hno := h.no_handle hid
  have hout : ¬(c.locks.grant id call.pair).AtGate id := by
    simpa using h.sound.not_atGate hno
  obtain ⟨lock, hhandles⟩ := Locks.handles_grant id call.pair c.locks
  apply h.of_others id
  · rw [hlocks]
    exact Locks.sound_enter (Locks.sound_grant h.sound hno _) hout
  · intro j
    simp only [hlocks, hcalls, Locks.enter, Locks.handles_onGate, hhandles, Table.get?_insert]
    split
    · rfl
    · exact h.handled j
  · intro j hne
    simp [hcalls, hne]
  · intro j hne hj
    rw [hlocks]
    exact Locks.admits_enter (Locks.admits_grant hno hj)
  · intro j hne
    rw [hlocks, Locks.atGate_enter hne, Locks.atGate_grant]
  · intro x hx
    rw [hcalls, Table.get?_insert, if_pos rfl] at hx
    obtain rfl := Option.some.inj hx
    have hself : (c.locks.grant id call.pair).handles.get? id = some ⟨call.pair, lock⟩ := by
      simp [hhandles]
    rw [hstage, hlocks]
    refine ⟨fun hin => ?_, fun _ => Locks.atGate_enter_self hself, fun hleaving => ?_⟩
    · cases hin
    · cases hleaving

theorem Locked.goesOn (h : c.Locked) {stage : Stage} (hid : c.calls.get? id = some call)
    (hfrom : call.stage.isInside = true ∨ call.stage = .locking ∧ c.locks.admits id = true)
    (hto : stage.isInside = true) (hlocks : d.locks = c.locks)
    (hcalls : d.calls = c.calls.insert id (call.moved stage)) : d.Locked := by
  have hadmits : c.locks.admits id = true := by
    rcases hfrom with hin | ⟨_, hin⟩
    · exact (h.fits hid).inside hin
    · exact hin
  apply h.of_others id
  · exact hlocks ▸ h.sound
  · intro j
    rw [hlocks, hcalls, Table.get?_insert, h.handled j]
    split
    · rename_i heq
      simp [heq, hid]
    · rfl
  · intro j hne
    simp [hcalls, hne]
  · intro j _ hj
    rw [hlocks]
    exact hj
  · intro j _
    rw [hlocks]
  · intro x hx
    rw [hcalls, Table.get?_insert, if_pos rfl] at hx
    obtain rfl := Option.some.inj hx
    rw [hlocks]
    refine ⟨fun _ => hadmits, fun _ => Locks.atGate_of_admits hadmits, fun hleaving => ?_⟩
    cases stage <;> simp [Stage.isInside, Stage.isLeaving] at hto hleaving

theorem Locked.unlocks (h : c.Locked) {ending : Ending} (hid : c.calls.get? id = some call)
    (hlocks : d.locks = c.locks.exit id)
    (hcalls : d.calls = c.calls.insert id (call.moved (.leaving ending))) : d.Locked := by
  apply h.of_others id
  · exact hlocks ▸ Locks.sound_exit h.sound id
  · intro j
    rw [hlocks, hcalls, Table.get?_insert, Locks.exit, Locks.handles_onGate, h.handled j]
    split
    · rename_i heq
      simp [heq, hid]
    · rfl
  · intro j hne
    simp [hcalls, hne]
  · intro j hne hj
    rw [hlocks]
    exact Locks.admits_exit hne hj
  · intro j hne
    rw [hlocks, Locks.atGate_exit h.sound hne]
  · intro x hx
    rw [hcalls, Table.get?_insert, if_pos rfl] at hx
    obtain rfl := Option.some.inj hx
    rw [hlocks]
    refine ⟨fun hin => ?_, fun hpresent => ?_, fun _ => Locks.not_atGate_exit_self h.sound⟩
    · cases hin
    · cases hpresent

theorem Locked.leaves (h : c.Locked) (hid : c.calls.get? id = some call)
    (hfrom : call.stage.isLeaving = true) (hlocks : d.locks = c.locks.drop id)
    (hcalls : d.calls = c.calls.erase id) : d.Locked := by
  obtain ⟨lock, hhandle⟩ := h.handle hid
  have hout := (h.fits hid).outside hfrom
  apply h.of_others id
  · exact hlocks ▸ Locks.sound_drop h.sound hhandle hout
  · intro j
    rw [hlocks, hcalls, Table.get?_erase, Locks.handles_drop, Table.get?_erase]
    split
    · rfl
    · exact h.handled j
  · intro j hne
    simp [hcalls, hne]
  · intro j hne hj
    rw [hlocks, Locks.admits_drop h.sound hout hne]
    exact hj
  · intro j _
    rw [hlocks, Locks.atGate_drop h.sound hout]
  · intro x hx
    simp [hcalls] at hx

theorem Locked.takes (h : c.Locked) (hs : c.Takes s d) : d.Locked := by
  cases hs.shifts with
  | enters hid hstage hlocks hcalls => exact h.enters hid hstage hlocks hcalls
  | goesOn hid hfrom hto hlocks hcalls => exact h.goesOn hid hfrom hto hlocks hcalls
  | unlocks hid _ hlocks hcalls => exact h.unlocks hid hlocks hcalls
  | leaves hid hfrom hlocks hcalls => exact h.leaves hid hfrom hlocks hcalls
  | stays hlocks hcalls =>
    obtain ⟨hsound, hhandled, hfits⟩ := h
    rw [← hlocks] at hsound hhandled hfits
    rw [← hcalls] at hhandled hfits
    exact ⟨hsound, hhandled, hfits⟩

theorem locked_of_run? (h : (ofConfig config).run? steps = some c) : c.Locked :=
  run?_keeps (fun hc hs => hc.takes hs) (locked_ofConfig config) h

def InSection (c : Cache) (id : CallId) (pair : Pair) : Prop :=
  ∃ call, c.calls.get? id = some call ∧ call.pair = pair ∧
    (c.locks.admits id = true ∨ call.stage.isInside = true)

theorem Locked.section_unique (h : c.Locked) {i j : CallId} {pair : Pair}
    (hi : c.InSection i pair) (hj : c.InSection j pair) : i = j := by
  obtain ⟨x, hx, rfl, hxin⟩ := hi
  obtain ⟨y, hy, hpair, hyin⟩ := hj
  obtain ⟨_, hhx⟩ := h.handle hx
  obtain ⟨_, hhy⟩ := h.handle hy
  exact h.sound.eq_of_admits hhx hhy hpair.symm (hxin.elim id (h.fits hx).inside)
    (hyin.elim id (h.fits hy).inside)

theorem pair_lock_table (h : (ofConfig config).run? steps = some c) :
    (∀ pair i j, c.InSection i pair → c.InSection j pair → i = j) ∧
    (∀ id handle, c.locks.handles.get? id = some handle →
      c.locks.entries.get? handle.pair = some handle.lock) ∧
    (∀ pair, (c.locks.entries.get? pair).isSome = true ↔
      ∃ id handle, c.locks.handles.get? id = some handle ∧ handle.pair = pair) ∧
    (∀ id, (c.locks.handles.get? id).map (·.pair) = (c.calls.get? id).map (·.pair)) ∧
    (c.calls.isEmpty = true → c.locks.entries.isEmpty = true) := by
  have hl := locked_of_run? h
  have hentry : ∀ pair, (c.locks.entries.get? pair).isSome = true ↔
      ∃ id handle, c.locks.handles.get? id = some handle ∧ handle.pair = pair := by
    intro pair
    constructor
    · intro hsome
      obtain ⟨lock, hlock⟩ := Option.isSome_iff_exists.mp hsome
      obtain ⟨id, hid⟩ := hl.sound.wanted hlock
      exact ⟨id, _, hid, rfl⟩
    · rintro ⟨id, handle, hid, rfl⟩
      simp [hl.sound.shared hid]
  refine ⟨fun pair i j => hl.section_unique, fun id handle => hl.sound.shared, hentry, hl.handled, ?_⟩
  intro hempty
  refine Table.isEmpty_iff.mpr fun pair => ?_
  cases hlock : c.locks.entries.get? pair with
  | none => rfl
  | some lock =>
    obtain ⟨id, hid⟩ := hl.sound.wanted hlock
    simp [hl.no_handle (Table.isEmpty_iff.mp hempty id)] at hid

/-- Three calls on one pair, the first of which runs. -/
def contended : List Step :=
  let a : Object Input := ⟨1, 1, .plain "a"⟩
  let b : Object Input := ⟨2, 2, .plain "b"⟩
  [.start 1 a b (.request {}), .start 2 a b (.request {}), .start 3 a b .invalidate, .resolve 1,
    .launch 1]

theorem pair_lock_table_contended : ∃ c, (ofConfig {}).run? contended = some c ∧
    c.InSection 1 ⟨1, 2⟩ ∧ (∀ j, c.InSection j ⟨1, 2⟩ → j = 1) ∧
    c.locks.handles.get? 3 = some ⟨⟨1, 2⟩, 0⟩ ∧ c.locks.entries.get? ⟨1, 2⟩ = some 0 := by
  obtain ⟨c, hrun, hone, hhandle, hentry⟩ : ∃ c, (ofConfig {}).run? contended = some c ∧
      c.InSection 1 ⟨1, 2⟩ ∧ c.locks.handles.get? 3 = some ⟨⟨1, 2⟩, 0⟩ ∧
      c.locks.entries.get? ⟨1, 2⟩ = some 0 :=
    ⟨_, rfl, ⟨_, rfl, rfl, .inl rfl⟩, rfl, rfl⟩
  exact ⟨c, hrun, hone, fun j hj => (pair_lock_table hrun).1 _ _ _ hj hone, hhandle, hentry⟩

end Cache

end PairCache
