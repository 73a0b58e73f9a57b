import PairCache.Proofs.Cache.Steps

/-!
What the calls of a running cache do, noted step by step. A deed takes a call from one phase to the
next, so what comes into a phase either goes out of it again or is still there (`journal_flow`).
-/
namespace PairCache

inductive Phase where
  | locking
  | permitting
  | running
  | storing
  | leaving (ending : Ending)
deriving DecidableEq

def Stage.phase : Stage → Phase
  | .locking => .locking
  | .permitting => .permitting
  | .running => .running
  | .storing _ => .storing
  | .leaving ending => .leaving ending

inductive Deed where
  | began
  | hit (output : Object Derived)
  | rejected
  | missed
  | removed (found : Bool)
  | launched
  | done (output : Object Derived)
  | failed (failure : Failure)
  | panicked
  | stored (output : Object Derived)
  | quitLock
  | quitPermit
  | returned (ending : Ending)
deriving DecidableEq

namespace Deed

def source : Deed → Option Phase
  | .began => none
  | .hit _ | .rejected | .missed | .removed _ | .quitLock => some .locking
  | .launched | .quitPermit => some .permitting
  | .done _ | .failed _ | .panicked => some .running
  | .stored _ => some .storing
  | .returned ending => some (.leaving ending)

def target : Deed → Option Phase
  | .began => some .locking
  | .rejected | .missed => some .permitting
  | .launched => some .running
  | .done _ => some .storing
  | .hit output | .stored output => some (.leaving (.answered (.served output)))
  | .removed found => some (.leaving (.answered (.removed found)))
  | .failed failure => some (.leaving (.answered (.failed failure)))
  | .panicked => some (.leaving (.answered .panicked))
  | .quitLock | .quitPermit => some (.leaving .cancelled)
  | .returned _ => none

def comesTo (phase : Phase) (deed : Deed) : Bool := decide (deed.target = some phase)

def comesFrom (phase : Phase) (deed : Deed) : Bool := decide (deed.source = some phase)

def isHit : Deed → Bool
  | .hit _ => true
  | _ => false

def isDone : Deed → Bool
  | .done _ => true
  | _ => false

def isRemoved : Deed → Bool
  | .removed _ => true
  | _ => false

def isFailed : Deed → Bool
  | .failed _ => true
  | _ => false

def isStored : Deed → Bool
  | .stored _ => true
  | _ => false

def isFailure : Deed → Bool
  | .removed _ | .failed _ | .panicked | .quitLock | .quitPermit => true
  | _ => false

theorem ending_of_isFailure {deed : Deed} (h : deed.isFailure = true) :
    ∃ ending, deed.target = some (.leaving ending) ∧
      ∀ output, ending ≠ .answered (.served output) := by
  cases deed with
  | removed | failed | panicked | quitLock | quitPermit => exact ⟨_, rfl, nofun⟩
  | _ => cases h

theorem eq_returned_of_source {deed : Deed} {ending : Ending}
    (h : deed.source = some (.leaving ending)) : deed = .returned ending := by
  cases deed <;> simp_all [source]

theorem counts (journal : List Deed) :
    journal.countP (comesTo .locking) = journal.count .began ∧
    journal.countP (comesFrom .locking) =
      journal.countP isHit + journal.count .rejected + journal.count .missed +
        (journal.countP isRemoved + journal.count .quitLock) ∧
    journal.countP (comesTo .permitting) = journal.count .rejected + journal.count .missed ∧
    journal.countP (comesFrom .permitting) =
      journal.count .launched + journal.count .quitPermit ∧
    journal.countP (comesTo .running) = journal.count .launched ∧
    journal.countP (comesFrom .running) =
      journal.countP isDone + (journal.countP isFailed + journal.count .panicked) ∧
    journal.countP (comesTo .storing) = journal.countP isDone ∧
    journal.countP (comesFrom .storing) = journal.countP isStored ∧
    journal.countP isFailure =
      journal.countP isRemoved + journal.countP isFailed + journal.count .panicked +
        journal.count .quitLock + journal.count .quitPermit := by
  induction journal with
  | nil => simp
  | cons deed journal ih =>
    simp only [List.countP_cons, List.count_cons]
    cases deed <;>
      simp [comesTo, comesFrom, source, target, isHit, isRemoved, isDone, isFailed, isStored,
        isFailure] <;> omega

theorem counts_of_success {journal : List Deed} (h : ∀ deed ∈ journal, deed.isFailure = false) :
    journal.countP (comesTo .locking) = journal.count .began ∧
    journal.countP (comesFrom .locking) =
      journal.countP isHit + journal.count .rejected + journal.count .missed ∧
    journal.countP (comesTo .permitting) =
      journal.count .rejected + journal.count .missed ∧
    journal.countP (comesFrom .permitting) = journal.count .launched ∧
    journal.countP (comesTo .running) = journal.count .launched ∧
    journal.countP (comesFrom .running) = journal.countP isDone := by
  obtain ⟨hbegan, hlocking, hasked, hpermitting, hlaunched, hrunning, -, -, hfailures⟩ :=
    counts journal
  have hnone : journal.countP isFailure = 0 := by
    refine List.countP_eq_zero.mpr fun deed hmem => ?_
    rw [h deed hmem]
    exact Bool.false_ne_true
  omega

theorem counts_of_balance {journal : List Deed}
    (hbalance : ∀ phase, journal.countP (comesTo phase) = journal.countP (comesFrom phase))
    (hserved : ∀ ending, .returned ending ∈ journal → ∃ output, ending = .answered (.served output)) :
    journal.count .began =
      journal.countP isHit + journal.count .rejected + journal.count .missed ∧
    journal.count .rejected + journal.count .missed = journal.count .launched ∧
    journal.count .launched = journal.countP isDone := by
  have hsuccess : ∀ deed ∈ journal, deed.isFailure = false := by
    intro deed hmem
    cases hfails : deed.isFailure with
    | false => rfl
    | true =>
      obtain ⟨ending, htarget, hne⟩ := ending_of_isFailure hfails
      have hpos : 0 < journal.countP (comesTo (.leaving ending)) :=
        List.countP_pos_iff.mpr ⟨deed, hmem, decide_eq_true htarget⟩
      rw [hbalance] at hpos
      obtain ⟨other, hother, hsource⟩ := List.countP_pos_iff.mp hpos
      rw [eq_returned_of_source (of_decide_eq_true hsource)] at hother
      obtain ⟨output, heq⟩ := hserved ending hother
      exact absurd heq (hne output)
  obtain ⟨hbegan, hlocking, hasked, hpermitting, hlaunched, hrunning⟩ := counts_of_success hsuccess
  have hlock := hbalance .locking
  have hpermit := hbalance .permitting
  have hrun := hbalance .running
  omega

end Deed

namespace Cache

variable {c d : Cache} {s : Step} {steps : List Step}

def probed (call : Call) (c : Cache) : Deed :=
  match call.operation with
  | .invalidate => .removed (c.lookup call.pair).isSome
  | .request desired =>
    match c.probe call.pair desired with
    | .accepted k => .hit k.output
    | .rejected _ => .rejected
    | .missing => .missed

def ended (c : Cache) : Outcome → Deed
  | .done output => .done ⟨c.next, c.next, output⟩
  | .failed failure => .failed failure
  | .panicked => .panicked

def caller? (c : Cache) : Step → Option Call
  | .start _ first second operation => some { first, second, operation }
  | .resolve id | .launch id | .finish id _ | .store id | .leave id | .cancel id => c.calls.get? id
  | .clear => none

def deedOf (call : Call) (c : Cache) : Step → Option Deed
  | .start .. => some .began
  | .resolve _ => some (c.probed call)
  | .launch _ => some .launched
  | .finish _ outcome => some (c.ended outcome)
  | .store _ =>
    match call.stage with
    | .storing k => some (.stored k.output)
    | _ => none
  | .leave _ =>
    match call.stage with
    | .leaving ending => some (.returned ending)
    | _ => none
  | .cancel _ =>
    match call.stage with
    | .locking => some .quitLock
    | .permitting => some .quitPermit
    | _ => none
  | .clear => none

def deed? (only : Pair → Bool) (c : Cache) (s : Step) : Option Deed :=
  ((c.caller? s).filter fun call => only call.pair).bind fun call => c.deedOf call s

def journal (only : Pair → Bool) (c : Cache) : List Step → List Deed
  | [] => []
  | s :: steps =>
    (c.deed? only s).toList ++
      match c.step? s with
      | some d => d.journal only steps
      | none => []

theorem journal_cons {only : Pair → Bool} (h : c.step? s = some d) :
    c.journal only (s :: steps) = (c.deed? only s).toList ++ d.journal only steps := by
  simp only [journal, h]

theorem journal_append {only : Pair → Bool} {more : List Step} (h : c.run? steps = some d) :
    c.journal only (steps ++ more) = c.journal only steps ++ d.journal only more := by
  induction steps generalizing c with
  | nil =>
    obtain rfl := Option.some.inj h
    rfl
  | cons s steps ih =>
    obtain ⟨e, he, h⟩ := run?_cons.mp h
    rw [List.cons_append, journal_cons he, journal_cons he, ih h, List.append_assoc]

section

variable {call : Call} {desired : Bundle} {id : CallId}

theorem probed_of_invalidate (hop : call.operation = .invalidate) :
    c.probed call = .removed (c.lookup call.pair).isSome := by
  simp only [probed, hop]

theorem probed_of_accepts {old : Connection} (hop : call.operation = .request desired)
    (hold : c.lookup call.pair = some old)
    (haccept : (c.config.reuse && old.accepts desired) = true) :
    c.probed call = .hit old.output := by
  simp only [probed, hop, probe, hold, haccept, if_true]

theorem probed_of_rejects {old : Connection} (hop : call.operation = .request desired)
    (hold : c.lookup call.pair = some old)
    (hreject : (c.config.reuse && old.accepts desired) = false) : c.probed call = .rejected := by
  simp only [probed, hop, probe, hold, hreject, Bool.false_eq_true, if_false]

theorem probed_of_none (hop : call.operation = .request desired)
    (hnone : c.lookup call.pair = none) : c.probed call = .missed := by
  simp only [probed, hop, probe, hnone]

theorem deedOf_store {k : Connection} (hstage : call.stage = .storing k) :
    c.deedOf call (.store id) = some (.stored k.output) := by
  simp only [deedOf, hstage]

theorem deedOf_cancel_locking (hstage : call.stage = .locking) :
    c.deedOf call (.cancel id) = some .quitLock := by
  simp only [deedOf, hstage]

theorem deedOf_cancel_permitting (hstage : call.stage = .permitting) :
    c.deedOf call (.cancel id) = some .quitPermit := by
  simp only [deedOf, hstage]

theorem deedOf_leave {ending : Ending} (hstage : call.stage = .leaving ending) :
    c.deedOf call (.leave id) = some (.returned ending) := by
  simp only [deedOf, hstage]

end

inductive Flows (c : Cache) (s : Step) (d : Cache) : Prop
  | comes {id call deed} (hcaller : c.caller? s = some call) (hdeed : c.deedOf call s = some deed)
      (hid : c.calls.get? id = none) (hcalls : d.calls = c.calls.insert id call)
      (hsource : deed.source = none) (htarget : deed.target = some call.stage.phase)
  | moves {id call stage deed} (hcaller : c.caller? s = some call)
      (hdeed : c.deedOf call s = some deed) (hid : c.calls.get? id = some call)
      (hcalls : d.calls = c.calls.insert id (call.moved stage))
      (hsource : deed.source = some call.stage.phase) (htarget : deed.target = some stage.phase)
  | goes {id call deed} (hcaller : c.caller? s = some call) (hdeed : c.deedOf call s = some deed)
      (hid : c.calls.get? id = some call) (hcalls : d.calls = c.calls.erase id)
      (hsource : deed.source = some call.stage.phase) (htarget : deed.target = none)
  | stays (hcaller : c.caller? s = none) (hcalls : d.calls = c.calls)

theorem Takes.flows (hs : c.Takes s d) : c.Flows s d := by
  cases hs with
  | start hid => exact .comes rfl rfl hid rfl rfl rfl
  | remove hid hstage hop =>
    exact .moves hid (congrArg some (probed_of_invalidate hop)) hid rfl (by rw [hstage]; rfl) rfl
  | hit hid hstage hop hin hold haccept =>
    have hdeed := probed_of_accepts hop hold haccept
    exact .moves hid (congrArg some hdeed) hid rfl (by rw [hstage]; rfl) rfl
  | reject hid hstage hop hin hold hreject =>
    have hdeed := probed_of_rejects hop hold hreject
    exact .moves hid (congrArg some hdeed) hid rfl (by rw [hstage]; rfl) rfl
  | miss hid hstage hop hin hnone =>
    exact .moves hid (congrArg some (probed_of_none hop hnone)) hid rfl (by rw [hstage]; rfl) rfl
  | store hid hstage => exact .moves hid (deedOf_store hstage) hid rfl (by rw [hstage]; rfl) rfl
  | leave hid hstage => exact .goes hid (deedOf_leave hstage) hid rfl (by rw [hstage]; rfl) rfl
  | clear => exact .stays rfl rfl
  | quitLock hid hstage =>
    exact .moves hid (deedOf_cancel_locking hstage) hid rfl (by rw [hstage]; rfl) rfl
  | quitPermit hid hstage =>
    exact .moves hid (deedOf_cancel_permitting hstage) hid rfl (by rw [hstage]; rfl) rfl
  | launch hid hstage => exact .moves hid rfl hid rfl (by rw [hstage]; rfl) rfl
  | done hid hstage => exact .moves hid rfl hid rfl (by rw [hstage]; rfl) rfl
  | fail hid hstage => exact .moves hid rfl hid rfl (by rw [hstage]; rfl) rfl
  | panic hid hstage => exact .moves hid rfl hid rfl (by rw [hstage]; rfl) rfl

def countAt (only : Pair → Bool) (phase : Phase) (calls : Table CallId Call) : Nat :=
  calls.values.countP fun call => only call.pair && decide (call.stage.phase = phase)

variable {only : Pair → Bool} {calls : Table CallId Call} {id : CallId} {call : Call}

theorem countAt_insert (only : Pair → Bool) (phase : Phase) (calls : Table CallId Call) (id : CallId)
    (call : Call) : countAt only phase (calls.insert id call) =
      countAt only phase (calls.erase id) +
        if only call.pair = true ∧ call.stage.phase = phase then 1 else 0 := by
  simp only [countAt, Table.countP_insert, Bool.and_eq_true, decide_eq_true_eq]

theorem countAt_of_get? (only : Pair → Bool) (phase : Phase) (hid : calls.get? id = some call) :
    countAt only phase calls = countAt only phase (calls.erase id) +
      if only call.pair = true ∧ call.stage.phase = phase then 1 else 0 := by
  rw [countAt, Table.countP_of_get? _ hid]
  simp only [countAt, Bool.and_eq_true, decide_eq_true_eq]

theorem Takes.countAt_flow (hs : c.Takes s d) (only : Pair → Bool) (phase : Phase) :
    countAt only phase c.calls +
        (c.deed? only s).toList.countP (Deed.comesTo phase) =
      (c.deed? only s).toList.countP (Deed.comesFrom phase) +
        countAt only phase d.calls := by
  have hdeed : ∀ {call deed}, c.caller? s = some call → c.deedOf call s = some deed →
      (c.deed? only s).toList = if only call.pair = true then [deed] else [] := by
    intro call deed hcaller hdeed
    simp only [deed?, hcaller, Option.filter_some]
    split
    · simp [hdeed]
    · rfl
  cases hs.flows with
  | @comes id call deed hcaller hdeedOf hid hcalls hsource htarget =>
    rw [hcalls, countAt_insert, Table.erase_eq_self hid, hdeed hcaller hdeedOf]
    by_cases honly : only call.pair = true
    · simp [honly, hsource, htarget, Deed.comesTo, Deed.comesFrom]
    · simp [honly]
  | @moves id call stage deed hcaller hdeedOf hid hcalls hsource htarget =>
    rw [hcalls, countAt_insert, countAt_of_get? only phase hid, hdeed hcaller hdeedOf]
    by_cases honly : only call.pair = true
    · simp only [honly, hsource, htarget, Deed.comesTo, Deed.comesFrom, if_true,
        List.countP_singleton, decide_eq_true_eq, Option.some.injEq, true_and, Call.pair_moved,
        Call.stage_moved]
      omega
    · simp [honly]
  | @goes id call deed hcaller hdeedOf hid hcalls hsource htarget =>
    rw [hcalls, countAt_of_get? only phase hid, hdeed hcaller hdeedOf]
    by_cases honly : only call.pair = true
    · simp [honly, hsource, htarget, Deed.comesTo, Deed.comesFrom, Nat.add_comm]
    · simp [honly]
  | stays hcaller hcalls =>
    simp [deed?, hcaller, hcalls]

theorem journal_flow (h : c.run? steps = some d) (only : Pair → Bool) (phase : Phase) :
    countAt only phase c.calls +
        (c.journal only steps).countP (Deed.comesTo phase) =
      (c.journal only steps).countP (Deed.comesFrom phase) +
        countAt only phase d.calls := by
  induction steps generalizing c with
  | nil =>
    obtain rfl := Option.some.inj h
    simp [journal]
  | cons s steps ih =>
    obtain ⟨e, he, h⟩ := run?_cons.mp h
    have hstep := (takes_of_step? he).countAt_flow only phase
    have hrest := ih h
    rw [journal_cons he, List.countP_append, List.countP_append]
    omega

end Cache

end PairCache
