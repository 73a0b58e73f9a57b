import PairCache.Proofs.Cache.Life

/-!
A request that is not served has not touched what is stored, and one that has gone holds nothing back:
its lock is free or with the next call, its permit is back, its handle is gone. A run that is done can no
longer be given up, and its connection is stored once.
-/
namespace PairCache.Cache

variable {b c : Cache} {history steps : List Step} {config : CacheConfig} {id : CallId}
  {first second : Object Input} {desired : Bundle} {ending : Ending} {s : Step}

/-- Nothing of the call is left, and its place at the lock of the pair is free or taken by another. -/
structure Released (id : CallId) (pair : Pair) (c : Cache) : Prop where
  gone : c.stage? id = none
  handle : c.locks.handles.get? id = none
  outside : ¬c.locks.AtGate id
  lock : ∀ lock, c.locks.entries.get? pair = some lock →
    c.locks.gate lock = { free := 1 } ∨
      ∃ other, other ≠ id ∧ (c.locks.gate lock).inside = [other] ∧ c.InSection other pair
  permit : id ∉ c.permits.members
  permits : c.permits.size = c.config.maxRuns.toNat

theorem Orderly.section_of_inside (h : c.Orderly) {other : CallId} {pair : Pair} {lock : LockId}
    (hlock : c.locks.entries.get? pair = some lock) (hin : (c.locks.gate lock).inside = [other]) :
    c.InSection other pair := by
  have hmem : other ∈ (c.locks.gate lock).inside := by
    rw [hin]
    exact List.mem_singleton_self other
  obtain ⟨found, hhandle⟩ := h.sound.held (Gate.mem_members_of_mem_inside hmem)
  obtain rfl : found = pair := h.sound.apart (h.sound.shared hhandle) hlock
  cases hcall : c.calls.get? other with
  | none => cases hhandle.symm.trans (h.no_handle hcall)
  | some call =>
    obtain ⟨_, hown⟩ := h.handle hcall
    obtain ⟨hpair, _⟩ := Handle.mk.inj (Option.some.inj (hown.symm.trans hhandle))
    exact ⟨call, hcall, hpair, .inl ((Locks.admits_iff hhandle).mpr hmem)⟩

theorem Orderly.released (h : c.Orderly) (hgone : c.calls.get? id = none) (pair : Pair) :
    c.Released id pair where
  gone := by
    rw [stage?, hgone]
    rfl
  handle := h.no_handle hgone
  outside := h.sound.not_atGate (h.no_handle hgone)
  lock := by
    intro lock hlock
    rcases (h.prompt lock).free_or_held (h.sound.single lock) with hfree | ⟨other, hin⟩
    · exact .inl hfree
    · have hsection := h.section_of_inside hlock hin
      refine .inr ⟨other, ?_, hin, hsection⟩
      rintro rfl
      obtain ⟨call, hcall, _⟩ := hsection
      cases hgone.symm.trans hcall
  permit := by
    rw [h.permitted.members]
    rintro ⟨call, hcall, _⟩
    cases hgone.symm.trans hcall
  permits := h.permitted.size

/-- A run that is done waits for nothing: there is one step left to take, and no giving up. -/
theorem step?_of_storing {k : Connection} (hstage : c.stage? id = some (.storing k))
    (hown : s.caller? = some id) : (c.step? s).isSome = true ↔ s = .store id := by
  obtain ⟨call, hid, hcall⟩ := Option.map_eq_some_iff.mp hstage
  cases s with
  | clear => cases hown
  | start =>
    obtain rfl := Option.some.inj hown
    simp [step?, start?, Table.contains, hid]
  | resolve =>
    obtain rfl := Option.some.inj hown
    simp [step?, hid, resolve?, hcall]
  | launch =>
    obtain rfl := Option.some.inj hown
    simp [step?, hid, launch?, hcall]
  | finish =>
    obtain rfl := Option.some.inj hown
    simp [step?, hid, finish?, hcall]
  | store =>
    obtain rfl := Option.some.inj hown
    simp [step?, hid, store?, hcall]
  | leave =>
    obtain rfl := Option.some.inj hown
    simp [step?, hid, leave?, hcall]
  | cancel =>
    obtain rfl := Option.some.inj hown
    simp [step?, hid, cancel?, hcall]

structure Atomic (id : CallId) (first second : Object Input) (desired : Bundle) (ending : Ending)
    (moments : List Moment) : Prop where
  unserved : (∀ output, ending ≠ .answered (.served output)) →
    ∀ m ∈ moments, m.after.store = m.before.store
  uncounted : ∀ m ∈ moments, m.step = .cancel id → m.before.stage? id = some .locking →
    ∀ x ∈ moments, x.after.stats = x.before.stats
  stored : ∀ m ∈ moments, ∀ output, m.step = .finish id (.done output) →
    ∃ k early put leaves, moments = early ++ [m, put, leaves] ∧
      k.first = first ∧ k.second = second ∧ k.parameters = desired ∧ k.output.value = output ∧
      m.after.stage? id = some (.storing k) ∧ ending = .answered (.served k.output) ∧
      put.step = .store id ∧ put.after.store = put.before.store.put k ∧
      ∀ x ∈ early ++ [m, leaves], x.after.store = x.before.store

theorem Lives.atomic {call last : Call} {starts leaves : Moment} {moments : List Moment}
    (h : Lives id desired call moments last) (hfirst : call.first = first)
    (hsecond : call.second = second) (hending : last.stage = .leaving ending)
    (hstart : starts.step = .start id first second (.request desired)) (hleave : leaves.step = .leave id)
    (hbegin : starts.Quiet) (hend : leaves.Quiet) :
    Atomic id first second desired ending (starts :: (moments ++ [leaves])) := by
  have hcases : ∀ m ∈ starts :: (moments ++ [leaves]), m = starts ∨ m ∈ moments ∨ m = leaves := by
    simp
  have hinner : ∀ m ∈ starts :: (moments ++ [leaves]),
      m.step ≠ .start id first second (.request desired) → m.step ≠ .leave id → m ∈ moments := by
    intro m hm hnostart hnoleave
    rcases hcases m hm with rfl | hm | rfl
    · exact absurd hstart hnostart
    · exact hm
    · exact absurd hleave hnoleave
  refine ⟨fun hne m hm => ?_, fun m hm hquit hlocking x hx => ?_, fun m hm output hdone => ?_⟩
  · rcases hcases m hm with rfl | hm | rfl
    · exact hbegin.store
    · exact h.keeps_store hending hne m hm
    · exact hend.store
  · have hmoments : m ∈ moments := hinner m hm (by simp [hquit]) (by simp [hquit])
    rcases hcases x hx with rfl | hx | rfl
    · exact hbegin.stats
    · exact h.keeps_stats hmoments hquit hlocking x hx
    · exact hend.stats
  · have hmoments : m ∈ moments := hinner m hm (by simp [hdone]) (by simp [hdone])
    obtain ⟨early, put, rfl, hearly, hstage, hput, hputs, hserved⟩ := h.puts hending hmoments hdone
    refine ⟨_, starts :: early, put, leaves, by simp, hfirst, hsecond, rfl, rfl, hstage, hserved, hput,
      hputs, fun x hx => ?_⟩
    simp only [List.cons_append, List.mem_cons, List.mem_append] at hx
    rcases hx with rfl | hx | rfl | rfl | hx
    · exact hbegin.store
    · exact hearly x (List.mem_append_left _ hx)
    · exact hearly x (List.mem_append_right _ (List.mem_singleton_self x))
    · exact hend.store
    · cases hx

theorem request_atomic (hhistory : (ofConfig config).run? history = some b)
    (hrun : b.run? (.start id first second (.request desired) :: steps) = some c)
    (hstay : .leave id ∉ steps) (hending : c.stage? id = some (.leaving ending)) :
    ∃ d, c.step? (.leave id) = some d ∧ d.Released id (.of first second) ∧
      Atomic id first second desired ending
        (b.life id (.start id first second (.request desired) :: (steps ++ [.leave id]))) ∧
      ∀ x : Cache, ∀ k, x.stage? id = some (.storing k) →
        ∀ s, s.caller? = some id → ((x.step? s).isSome = true ↔ s = .store id) := by
  obtain ⟨call, hid, hcall⟩ := Option.map_eq_some_iff.mp hending
  obtain ⟨d, hd⟩ : ∃ d, c.step? (.leave id) = some d := by
    simp [step?, hid, leave?, hcall]
  obtain ⟨e, he, hsteps⟩ := run?_cons.mp hrun
  have hlife : b.life id (.start id first second (.request desired) :: (steps ++ [.leave id])) =
      ⟨b, .start id first second (.request desired), e⟩ ::
        (e.life id steps ++ [⟨c, .leave id, d⟩]) := by
    rw [life_own he rfl, life_append hsteps, life_own hd rfl]
    rfl
  have horderly : c.Orderly := by
    have hb : b.Orderly := orderly_of_run? hhistory
    exact run?_keeps (fun hc hs => hc.takes hs) hb hrun
  refine ⟨d, hd, ?_, ?_, fun x k hk s hown => step?_of_storing hk hown⟩
  · refine (horderly.takes (takes_of_step? hd)).released ?_ _
    cases takes_of_step? hd with
    | leave => simp
  · rw [hlife]
    have hnew : e.calls.get? id = some { first, second, operation := .request desired } := by
      cases takes_of_step? he with
      | start => simp
    obtain ⟨last, hlast, hlives⟩ := lives_of_run? hnew rfl hsteps hstay
    obtain rfl := Option.some.inj (hid.symm.trans hlast)
    refine hlives.atomic rfl rfl hcall rfl rfl ?_ ?_
    · cases takes_of_step? he
      exact ⟨rfl, rfl⟩
    · cases takes_of_step? hd
      exact ⟨rfl, rfl⟩

def filled : List Step :=
  let a : Object Input := ⟨1, 1, .plain "a"⟩
  let b : Object Input := ⟨2, 2, .plain "b"⟩
  [.start 1 a b (.request {}), .resolve 1, .launch 1, .finish 1 (.done ⟨.second, "b"⟩), .store 1,
    .leave 1]

/-- The connection of the pair is rejected and the new run fails, while one call waits for the lock and
another for the only permit. -/
def rejected : List Step :=
  let a : Object Input := ⟨1, 1, .plain "a"⟩
  let b : Object Input := ⟨2, 2, .plain "b"⟩
  [.start 3 a b (.request {}), .resolve 2, .launch 2, .start 4 b a (.request {}), .resolve 4,
    .finish 2 (.failed (.algorithm "no"))]

theorem request_atomic_rejected :
    let a : Object Input := ⟨1, 1, .plain "a"⟩
    let b : Object Input := ⟨2, 2, .plain "b"⟩
    let request : Step := .start 2 a b (.request { flag := true })
    ∃ x y z, (ofConfig { maxRuns := 1 }).run? filled = some x ∧
      x.run? (request :: rejected) = some y ∧ y.step? (.leave 2) = some z ∧ z.Released 2 ⟨1, 2⟩ ∧
      (∀ m ∈ x.life 2 (request :: (rejected ++ [.leave 2])), m.after.store = m.before.store) ∧
      z.locks.admits 3 = true ∧ z.permits.inside = [4] ∧
      (z.lookup ⟨1, 2⟩).map (·.id) = some ⟨1⟩ := by
  intro a b request
  obtain ⟨z, hrun, hlock, hpermit, hlookup⟩ : ∃ z,
      (ofConfig { maxRuns := 1 }).run? (filled ++ ((request :: rejected) ++ [.leave 2])) = some z ∧
        z.locks.admits 3 = true ∧ z.permits.inside = [4] ∧
        (z.lookup ⟨1, 2⟩).map (·.id) = some ⟨1⟩ :=
    ⟨_, rfl, by decide, by decide, by decide⟩
  obtain ⟨w, hw, hfails⟩ : ∃ w,
      (ofConfig { maxRuns := 1 }).run? (filled ++ (request :: rejected)) = some w ∧
        w.stage? 2 = some (.leaving (.answered (.failed (.algorithm "no")))) := ⟨_, rfl, rfl⟩
  obtain ⟨x, hx, hrest⟩ := run?_append.mp hrun
  obtain ⟨y, hy, hleave⟩ := run?_append.mp hrest
  obtain ⟨v, hz, hv⟩ := run?_cons.mp hleave
  obtain rfl := Option.some.inj hv
  have hending : y.stage? 2 = some (.leaving (.answered (.failed (.algorithm "no")))) := by
    obtain rfl := Option.some.inj (hw.symm.trans (run?_append.mpr ⟨x, hx, hy⟩))
    exact hfails
  have hstay : .leave 2 ∉ rejected := by simp [rejected]
  obtain ⟨d, hd, hreleased, hatomic, -⟩ := request_atomic hx hy hstay hending
  obtain rfl := Option.some.inj (hz.symm.trans hd)
  exact ⟨x, y, v, hx, hy, hz, hreleased, hatomic.unserved nofun, hlock, hpermit, hlookup⟩

end PairCache.Cache
