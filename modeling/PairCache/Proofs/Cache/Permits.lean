import PairCache.Proofs.Cache.Journal
import PairCache.Proofs.Cache.Places

/-!
Where the permits are. A place among the permits is free, or taken by a call that runs, or by one that
was given its permit and has yet to start; and the calls inside the gate of the permits are just these
two kinds.
-/
namespace PairCache

namespace Cache

variable {c : Cache} {steps : List Step} {config : CacheConfig} {id : CallId} {call : Call}

def isRunning (entry : CallId × Call) : Bool := decide (entry.2.stage.phase = .running)

def isAssigned (c : Cache) (entry : CallId × Call) : Bool :=
  decide (entry.2.stage.phase = .permitting) && c.permits.admits entry.1

def inProgress (c : Cache) : Nat := c.calls.entries.countP isRunning

def assigned (c : Cache) : Nat := c.calls.entries.countP c.isAssigned

def RunsOn (c : Cache) (id : CallId) (pair : Pair) : Prop :=
  ∃ call, c.calls.get? id = some call ∧ call.pair = pair ∧ call.stage = .running

theorem countP_eq_add {α : Type} {p q r : α → Bool} {xs : List α}
    (h : ∀ x ∈ xs, p x = (q x || r x)) (hnot : ∀ x ∈ xs, q x = true → r x = false) :
    xs.countP p = xs.countP q + xs.countP r := by
  induction xs with
  | nil => rfl
  | cons x xs ih =>
    have hx := h x List.mem_cons_self
    have hxnot := hnot x List.mem_cons_self
    have hrest := ih (fun y hy => h y (List.mem_cons_of_mem _ hy))
      fun y hy => hnot y (List.mem_cons_of_mem _ hy)
    rw [List.countP_cons, List.countP_cons, List.countP_cons, hrest, hx]
    cases hq : q x with
    | true =>
      rw [hxnot hq]
      simp
      omega
    | false =>
      simp
      omega

theorem Permitted.inside_perm (h : c.Permitted) :
    c.permits.inside.Perm ((c.calls.entries.filter fun e => c.permits.admits e.1).map Prod.fst) := by
  have hinside : c.permits.inside.Nodup := (List.nodup_append.mp h.nodup).1
  have hentries : ((c.calls.entries.filter fun e => c.permits.admits e.1).map Prod.fst).Nodup :=
    c.calls.nodup.sublist (List.filter_sublist.map _)
  refine (List.perm_ext_iff_of_nodup hinside hentries).mpr fun id => ?_
  simp only [List.mem_map, List.mem_filter]
  constructor
  · intro hin
    obtain ⟨call, hid, _⟩ := h.members.mp (Gate.mem_members_of_mem_inside hin)
    exact ⟨(id, call), ⟨Table.mem_entries.mpr hid, decide_eq_true hin⟩, rfl⟩
  · rintro ⟨⟨_, call⟩, ⟨_, hadmits⟩, rfl⟩
    exact of_decide_eq_true hadmits

theorem Permitted.admits_entry (h : c.Permitted) {entry : CallId × Call}
    (hentry : entry ∈ c.calls.entries) :
    c.permits.admits entry.1 = (isRunning entry || c.isAssigned entry) := by
  obtain ⟨id, call⟩ := entry
  have hid : c.calls.get? id = some call := Table.mem_entries.mp hentry
  have hneeds : c.permits.admits id = true → call.stage.needsPermit = true := by
    intro hadmits
    obtain ⟨x, hx, hx'⟩ :=
      h.members.mp (Gate.mem_members_of_mem_inside (of_decide_eq_true hadmits))
    obtain rfl := Option.some.inj (hid.symm.trans hx)
    exact hx'
  cases hstage : call.stage with
  | permitting => simp [isRunning, isAssigned, hstage, Stage.phase]
  | running =>
    have hin : c.permits.admits id = true := decide_eq_true (h.running id call hid hstage)
    simp [isRunning, hstage, Stage.phase, hin]
  | locking | storing | leaving =>
    have hout : c.permits.admits id ≠ true := by
      intro hadmits
      have hno := hneeds hadmits
      rw [hstage] at hno
      cases hno
    simp [isRunning, isAssigned, hstage, Stage.phase, hout]

theorem Permitted.length_inside (h : c.Permitted) :
    c.permits.inside.length = c.inProgress + c.assigned := by
  have hlength : c.permits.inside.length =
      c.calls.entries.countP fun e => c.permits.admits e.1 := by
    rw [h.inside_perm.length_eq, List.length_map, ← List.countP_eq_length_filter]
  rw [hlength, inProgress, assigned]
  refine countP_eq_add (fun e he => h.admits_entry he) fun e _ hruns => ?_
  have hphase : e.2.stage.phase = .running := of_decide_eq_true hruns
  simp [isAssigned, hphase]

theorem Permitted.inside_eq_nil (h : c.Permitted)
    (hnone : ∀ id call, c.calls.get? id = some call → call.stage.needsPermit = false) :
    c.permits.inside = [] := by
  refine List.eq_nil_iff_forall_not_mem.mpr fun id hin => ?_
  obtain ⟨call, hid, hneeds⟩ := h.members.mp (Gate.mem_members_of_mem_inside hin)
  rw [hnone id call hid] at hneeds
  cases hneeds

theorem isInside_of_needsPermit {stage : Stage} (h : stage.needsPermit = true) :
    stage.isInside = true := by
  cases stage <;> first | rfl | cases h

theorem Orderly.needsPermit_eq_false (h : c.Orderly) (hid : c.calls.get? id = some call)
    (hop : ∀ desired, call.operation ≠ .request desired) : call.stage.needsPermit = false := by
  cases hneeds : call.stage.needsPermit with
  | false => rfl
  | true =>
    obtain ⟨desired, hdesired⟩ := h.asks id call hid (isInside_of_needsPermit hneeds)
    exact absurd hdesired (hop desired)

theorem permits_conserved (h : (ofConfig config).run? steps = some c) :
    c.permits.free + c.inProgress + c.assigned = config.maxRuns.toNat ∧
    c.inProgress ≤ config.maxRuns.toNat ∧
    (∀ pair i j, c.RunsOn i pair → c.RunsOn j pair → i = j) ∧
    (∀ pair i, c.RunsOn i pair → c.permits.admits i = true) ∧
    ((∀ id call, c.calls.get? id = some call → ∀ desired, call.operation ≠ .request desired) →
      c.permits.free = config.maxRuns.toNat) := by
  have horderly : c.Orderly := orderly_of_run? h
  have hconfig : c.config = config := run?_keeps (fun hc hs => hs.config_eq.trans hc) rfl h
  have hsize := horderly.permitted.size
  have hlength := horderly.permitted.length_inside
  rw [Gate.size, hconfig] at hsize
  refine ⟨by omega, by omega, ?_, ?_, ?_⟩
  · rintro pair i j ⟨x, hx, hxpair, hxstage⟩ ⟨y, hy, hypair, hystage⟩
    have hi : c.InSection i pair := ⟨x, hx, hxpair, .inr (by rw [hxstage]; rfl)⟩
    have hj : c.InSection j pair := ⟨y, hy, hypair, .inr (by rw [hystage]; rfl)⟩
    exact horderly.toLocked.section_unique hi hj
  · rintro pair i ⟨x, hx, _, hxstage⟩
    exact decide_eq_true (horderly.permitted.running i x hx hxstage)
  · intro hnone
    have hinside := horderly.permitted.inside_eq_nil fun id call hid =>
      horderly.needsPermit_eq_false hid (hnone id call hid)
    rw [hinside, List.length_nil] at hsize
    exact hsize

/-- With two permits: the first run panics and its permit goes to the third call, which is cancelled
before it can start, so that the permit goes on to the fourth; the second call runs. -/
def passedOn : List Step :=
  let a : Object Input := ⟨1, 1, .plain "a"⟩
  let b : Object Input := ⟨2, 2, .plain "b"⟩
  [.start 1 a b (.request {}), .start 2 b a (.request {}), .start 3 a a (.request {}),
    .start 4 b b (.request {}), .resolve 1, .resolve 2, .resolve 3, .resolve 4, .launch 1, .launch 2,
    .finish 1 .panicked, .cancel 3]

/-- The second call fails, the fourth stores its connection, and all of them leave. -/
def wentHome : List Step :=
  [.leave 1, .leave 3, .finish 2 (.failed (.algorithm "no")), .leave 2, .launch 4,
    .finish 4 (.done ⟨.second, "b"⟩), .store 4, .leave 4]

theorem permits_conserved_passedOn :
    (∃ c, (ofConfig { maxRuns := 2 }).run? passedOn = some c ∧ c.permits.free = 0 ∧
      c.inProgress = 1 ∧ c.assigned = 1 ∧ c.RunsOn 2 ⟨2, 1⟩ ∧
      c.permits.free + c.inProgress + c.assigned = 2) ∧
    ∃ c, (ofConfig { maxRuns := 2 }).run? (passedOn ++ wentHome) = some c ∧
      c.calls.isEmpty = true ∧ c.permits.free = 2 := by
  constructor
  · obtain ⟨c, hrun, hfree, hrunning, hassigned, hruns⟩ : ∃ c,
        (ofConfig { maxRuns := 2 }).run? passedOn = some c ∧ c.permits.free = 0 ∧
        c.inProgress = 1 ∧ c.assigned = 1 ∧ c.RunsOn 2 ⟨2, 1⟩ :=
      ⟨_, rfl, rfl, rfl, rfl, _, rfl, rfl, rfl⟩
    exact ⟨c, hrun, hfree, hrunning, hassigned, hruns, (permits_conserved hrun).1⟩
  · obtain ⟨c, hrun, hempty⟩ : ∃ c,
        (ofConfig { maxRuns := 2 }).run? (passedOn ++ wentHome) = some c ∧
        c.calls.isEmpty = true := ⟨_, rfl, rfl⟩
    obtain ⟨_, _, _, _, hhome⟩ := permits_conserved hrun
    refine ⟨c, hrun, hempty, hhome fun id call hid => ?_⟩
    rw [Table.isEmpty_iff.mp hempty id] at hid
    cases hid

end Cache

end PairCache
