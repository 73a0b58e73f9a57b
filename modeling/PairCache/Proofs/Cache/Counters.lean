import PairCache.Proofs.Cache.Journal
import PairCache.Proofs.Cache.Linearization
import PairCache.Proofs.Cache.Places
import PairCache.Proofs.Session.Looking

/-!
The counters against the journal. No deed moves more than one counter (`Deed.counter?`), and with fewer
than 2^64 requests a counter shows how many deeds moved it. What flows from phase to phase then ties the
counters to the calls that are under way.
-/
namespace PairCache

inductive Counter where
  | hits
  | misses
  | rejections
  | computations
  | failures
deriving DecidableEq

namespace CacheStats

def get (s : CacheStats) : Counter → UInt64
  | .hits => s.hits
  | .misses => s.misses
  | .rejections => s.rejections
  | .computations => s.computations
  | .failures => s.failures

def bump (s : CacheStats) : Counter → CacheStats
  | .hits => { s with hits := s.hits + 1 }
  | .misses => { s with misses := s.misses + 1 }
  | .rejections => { s with rejections := s.rejections + 1 }
  | .computations => { s with computations := s.computations + 1 }
  | .failures => { s with failures := s.failures + 1 }

theorem ext_get {s t : CacheStats} (h : ∀ counter, s.get counter = t.get counter) : s = t := by
  have hhits := h .hits
  have hmisses := h .misses
  have hrejections := h .rejections
  have hcomputations := h .computations
  have hfailures := h .failures
  cases s
  cases t
  simp_all [get]

theorem get_bump (s : CacheStats) (moved counter : Counter) :
    (s.bump moved).get counter = s.get counter + if moved = counter then 1 else 0 := by
  cases moved <;> cases counter <;> simp [bump, get]

theorem get_foldl_bump (s : CacheStats) (moved : List Counter) (counter : Counter) :
    (moved.foldl bump s).get counter = s.get counter + UInt64.ofNat (moved.count counter) := by
  induction moved generalizing s with
  | nil => simp
  | cons first moved ih =>
    rw [List.foldl_cons, ih, get_bump, List.count_cons, UInt64.ofNat_add, UInt64.add_assoc]
    by_cases h : first = counter
    · simp [h, UInt64.add_comm]
    · simp [h]

theorem sum?_of_lt {a b : UInt64} (h : a.toNat + b.toNat < UInt64.size) :
    ∃ n, sum? a b = some n ∧ n.toNat = a.toNat + b.toNat := by
  refine ⟨a + b, if_pos h, ?_⟩
  rw [UInt64.toNat_add]
  exact Nat.mod_eq_of_lt h

theorem requests?_of_lt {s : CacheStats}
    (h : s.hits.toNat + s.misses.toNat + s.rejections.toNat < UInt64.size) :
    ∃ n, s.requests? = some n ∧
      n.toNat = s.hits.toNat + s.misses.toNat + s.rejections.toNat := by
  obtain ⟨found, hfound, heq⟩ := sum?_of_lt (a := s.hits) (b := s.misses) (by omega)
  rw [← heq] at h ⊢
  obtain ⟨n, hn, hall⟩ := sum?_of_lt h
  exact ⟨n, by simp [requests?, hfound, hn], hall⟩

end CacheStats

def Operation.isRequest : Operation → Bool
  | .request _ => true
  | .invalidate => false

def Step.isRequest : Step → Bool
  | .start _ _ _ operation => operation.isRequest
  | _ => false

def Call.seeks (call : Call) : Bool :=
  call.operation.isRequest && decide (call.stage.phase = .locking)

namespace Deed

def counter? : Deed → Option Counter
  | .hit _ => some .hits
  | .missed => some .misses
  | .rejected => some .rejections
  | .launched => some .computations
  | .failed _ => some .failures
  | _ => none

def isProbe : Deed → Bool
  | .hit _ | .missed | .rejected => true
  | _ => false

def writes : Deed → Bool
  | .removed _ | .stored _ => true
  | _ => false

theorem source_of_isProbe {deed : Deed} (h : deed.isProbe = true) :
    deed.source = some .locking := by
  cases deed <;> first | rfl | cases h

theorem eq_began_of_target {deed : Deed} (h : deed.target = some .locking) : deed = .began := by
  cases deed <;> first | rfl | cases h

def counters (journal : List Deed) : List Counter := journal.filterMap counter?

variable {journal : List Deed}

theorem counters_cons (deed : Deed) (journal : List Deed) :
    counters (deed :: journal) = deed.counter?.toList ++ counters journal := by
  cases h : deed.counter? <;> simp [counters, h]

theorem counters_append (journal more : List Deed) :
    counters (journal ++ more) = counters journal ++ counters more :=
  List.filterMap_append

theorem counts_of_counters (journal : List Deed) :
    (counters journal).count .hits = journal.countP isHit ∧
    (counters journal).count .misses = journal.count .missed ∧
    (counters journal).count .rejections = journal.count .rejected ∧
    (counters journal).count .computations = journal.count .launched ∧
    (counters journal).count .failures = journal.countP isFailed ∧
    journal.countP isProbe =
      journal.countP isHit + journal.count .missed + journal.count .rejected := by
  induction journal with
  | nil => simp [counters]
  | cons deed journal ih =>
    rw [counters_cons]
    simp only [List.countP_cons, List.count_cons, List.count_append]
    cases deed <;> simp [isHit, isFailed, isProbe, counter?] <;> omega

end Deed

namespace Cache

variable {c d : Cache} {s : Step} {steps : List Step} {config : CacheConfig}

def everywhere : Pair → Bool := fun _ => true

theorem deed?_everywhere {call : Call} (hcaller : c.caller? s = some call) :
    c.deed? everywhere s = c.deedOf call s := by
  simp only [deed?, hcaller, Option.filter_some, everywhere, if_true, Option.bind_some]

structure Marks (c : Cache) (deed : Deed) (d : Cache) : Prop where
  stats : d.stats = deed.counter?.toList.foldl CacheStats.bump c.stats
  store : deed.writes = false → d.store = c.store

theorem Takes.marks (hs : c.Takes s d) (hclear : s ≠ .clear) : ∃ call deed,
    c.caller? s = some call ∧ c.deedOf call s = some deed ∧ c.Marks deed d := by
  cases hs with
  | start => exact ⟨_, _, rfl, rfl, rfl, fun _ => rfl⟩
  | remove hid _ hop =>
    have hdeed := congrArg some (probed_of_invalidate (c := c) hop)
    exact ⟨_, _, hid, hdeed, rfl, fun hwrites => by cases hwrites⟩
  | hit hid _ hop _ hold haccept =>
    have hdeed := congrArg some (probed_of_accepts hop hold haccept)
    exact ⟨_, _, hid, hdeed, rfl, fun _ => rfl⟩
  | reject hid _ hop _ hold hreject =>
    have hdeed := congrArg some (probed_of_rejects hop hold hreject)
    exact ⟨_, _, hid, hdeed, rfl, fun _ => rfl⟩
  | miss hid _ hop _ hnone =>
    have hdeed := congrArg some (probed_of_none hop hnone)
    exact ⟨_, _, hid, hdeed, rfl, fun _ => rfl⟩
  | launch hid => exact ⟨_, _, hid, rfl, rfl, fun _ => rfl⟩
  | done hid => exact ⟨_, _, hid, rfl, rfl, fun _ => rfl⟩
  | fail hid => exact ⟨_, _, hid, rfl, rfl, fun _ => rfl⟩
  | panic hid => exact ⟨_, _, hid, rfl, rfl, fun _ => rfl⟩
  | store hid hstage => exact ⟨_, _, hid, deedOf_store hstage, rfl, fun hwrites => by cases hwrites⟩
  | leave hid hstage => exact ⟨_, _, hid, deedOf_leave hstage, rfl, fun _ => rfl⟩
  | quitLock hid hstage => exact ⟨_, _, hid, deedOf_cancel_locking hstage, rfl, fun _ => rfl⟩
  | quitPermit hid hstage => exact ⟨_, _, hid, deedOf_cancel_permitting hstage, rfl, fun _ => rfl⟩
  | clear => exact absurd rfl hclear

theorem Takes.stats_eq (hs : c.Takes s d) :
    d.stats = (Deed.counters (c.deed? everywhere s).toList).foldl CacheStats.bump c.stats := by
  by_cases hclear : s = .clear
  · subst hclear
    cases hs
    rfl
  · obtain ⟨call, deed, hcaller, hdeed, hmarks⟩ := hs.marks hclear
    rw [deed?_everywhere hcaller, hdeed, Option.toList_some, Deed.counters_cons, hmarks.stats]
    simp [Deed.counters]

theorem stats_of_run? (h : c.run? steps = some d) :
    d.stats = (Deed.counters (c.journal everywhere steps)).foldl CacheStats.bump c.stats := by
  induction steps generalizing c with
  | nil =>
    obtain rfl := Option.some.inj h
    rfl
  | cons s steps ih =>
    obtain ⟨e, he, h⟩ := run?_cons.mp h
    rw [journal_cons he, Deed.counters_append, List.foldl_append, ← (takes_of_step? he).stats_eq]
    exact ih h

def seeking (c : Cache) : Nat := c.calls.values.countP Call.seeks

theorem countP_isProbe_deed? {call : Call} {deed : Deed} (hcaller : c.caller? s = some call)
    (hdeed : c.deedOf call s = some deed) :
    (c.deed? everywhere s).toList.countP Deed.isProbe = if deed.isProbe = true then 1 else 0 := by
  rw [deed?_everywhere hcaller, hdeed, Option.toList_some, List.countP_singleton]

theorem isResolve_of_probe {call : Call} {deed : Deed} (hdeed : c.deedOf call s = some deed)
    (hprobe : deed.isProbe = true) : ∃ id, s = .resolve id := by
  cases s with
  | resolve id => exact ⟨id, rfl⟩
  | start | launch =>
    cases hdeed
    cases hprobe
  | finish id outcome =>
    cases hdeed
    cases outcome <;> cases hprobe
  | store | leave | cancel =>
    simp only [deedOf] at hdeed
    split at hdeed <;> cases hdeed <;> cases hprobe
  | clear => cases hdeed

theorem isRequest_of_probe {call : Call} {deed : Deed} (hdeed : c.deedOf call s = some deed)
    (hprobe : deed.isProbe = true) : call.operation.isRequest = true := by
  obtain ⟨id, rfl⟩ := isResolve_of_probe hdeed hprobe
  obtain rfl := Option.some.inj hdeed
  cases hop : call.operation with
  | request => rfl
  | invalidate =>
    rw [probed_of_invalidate hop] at hprobe
    cases hprobe

theorem Takes.probes_le (hs : c.Takes s d) :
    (c.deed? everywhere s).toList.countP Deed.isProbe + d.seeking ≤
      (if s.isRequest = true then 1 else 0) + c.seeking := by
  cases hs.flows with
  | @comes id call deed hcaller hdeed hid hcalls hsource htarget =>
    have hstart : s = .start id call.first call.second call.operation := by
      rcases hs.knew id call (by simp [hcalls]) with ⟨old, hold, _⟩ | hstart
      · cases hid.symm.trans hold
      · exact hstart
    have hseeks : call.seeks = true → s.isRequest = true := by
      rw [hstart]
      intro h
      exact (Bool.and_eq_true_iff.mp h).1
    have hprobe : deed.isProbe ≠ true := by
      intro hprobe
      cases hsource.symm.trans (Deed.source_of_isProbe hprobe)
    rw [countP_isProbe_deed? hcaller hdeed, if_neg hprobe, seeking, hcalls, Table.countP_insert,
      Table.erase_eq_self hid, seeking]
    grind
  | @moves id call stage deed hcaller hdeed hid hcalls hsource htarget =>
    -- no call comes back to its lock, so a probe has one call less that seeks after it
    have hprobe : deed.isProbe = true → call.seeks = true := by
      intro hprobe
      have hphase : call.stage.phase = .locking :=
        Option.some.inj (hsource.symm.trans (Deed.source_of_isProbe hprobe))
      simp [Call.seeks, isRequest_of_probe hdeed hprobe, hphase]
    have hafter : (call.moved stage).seeks = false := by
      have hphase : stage.phase ≠ .locking := by
        intro hphase
        rw [hphase] at htarget
        rw [Deed.eq_began_of_target htarget] at hsource
        cases hsource
      simp [Call.seeks, hphase]
    rw [countP_isProbe_deed? hcaller hdeed, seeking, seeking, hcalls, Table.countP_insert,
      Table.countP_of_get? _ hid, hafter]
    grind
  | @goes id call deed hcaller hdeed hid hcalls hsource htarget =>
    have hprobe : deed.isProbe ≠ true := by
      cases deed <;> simp_all [Deed.target, Deed.isProbe]
    rw [countP_isProbe_deed? hcaller hdeed, if_neg hprobe, seeking, seeking, hcalls,
      Table.countP_of_get? _ hid]
    omega
  | stays hcaller hcalls =>
    simp only [deed?, hcaller, seeking, hcalls]
    exact Nat.add_le_add_right (Nat.zero_le _) _

theorem probes_le_of_run? (h : c.run? steps = some d) :
    (c.journal everywhere steps).countP Deed.isProbe + d.seeking ≤
      steps.countP Step.isRequest + c.seeking := by
  induction steps generalizing c with
  | nil =>
    obtain rfl := Option.some.inj h
    exact Nat.le_refl _
  | cons s steps ih =>
    obtain ⟨e, he, h⟩ := run?_cons.mp h
    have hstep := (takes_of_step? he).probes_le
    have hrest := ih h
    rw [journal_cons he, List.countP_append, List.countP_cons]
    omega

def callsAt (phase : Phase) (c : Cache) : Nat := countAt everywhere phase c.calls

structure Balanced (c : Cache) (journal : List Deed) : Prop where
  exact : ∀ counter, (c.stats.get counter).toNat = (Deed.counters journal).count counter
  probes : c.stats.hits.toNat + c.stats.misses.toNat + c.stats.rejections.toNat =
    journal.countP Deed.isProbe
  asked : c.stats.misses.toNat + c.stats.rejections.toNat =
    c.stats.computations.toNat + c.callsAt .permitting + journal.count .quitPermit
  runs : c.stats.computations.toNat =
    journal.countP Deed.isStored + c.stats.failures.toNat + journal.count .panicked +
      (c.callsAt .running + c.callsAt .storing)

theorem balanced_of_run? (h : (ofConfig config).run? steps = some c)
    (hfew : steps.countP Step.isRequest < UInt64.size) :
    c.Balanced ((ofConfig config).journal everywhere steps) := by
  obtain ⟨-, -, hasked, hpermits, hlaunched, hended, hdone, hstored, -⟩ :=
    Deed.counts ((ofConfig config).journal everywhere steps)
  obtain ⟨hhits, hmisses, hrejections, hcomputations, hfailures, hprobes⟩ :=
    Deed.counts_of_counters ((ofConfig config).journal everywhere steps)
  have hpermitting := journal_flow h everywhere .permitting
  have hrunning := journal_flow h everywhere .running
  have hstoring := journal_flow h everywhere .storing
  have hbound := probes_le_of_run? h
  have hstats := stats_of_run? h
  generalize (ofConfig config).journal everywhere steps = journal at *
  have hnone : ∀ phase, countAt everywhere phase (ofConfig config).calls = 0 := fun _ => rfl
  have hseeking : (ofConfig config).seeking = 0 := rfl
  rw [hnone] at hpermitting hrunning hstoring
  have hexact : ∀ counter, (c.stats.get counter).toNat = (Deed.counters journal).count counter := by
    intro counter
    -- for the runs and failures, too: each comes from a probe, as the flow of the phases says
    have hlt : (Deed.counters journal).count counter < UInt64.size := by
      cases counter <;> omega
    have hzero : (ofConfig config).stats.get counter = 0 := by cases counter <;> rfl
    rw [hstats, CacheStats.get_foldl_bump, hzero, UInt64.zero_add, UInt64.toNat_ofNat']
    exact Nat.mod_eq_of_lt hlt
  have hhit := hexact .hits
  have hmiss := hexact .misses
  have hrejection := hexact .rejections
  have hcomputation := hexact .computations
  have hfailure := hexact .failures
  simp only [CacheStats.get] at hhit hmiss hrejection hcomputation hfailure
  refine ⟨hexact, ?_, ?_, ?_⟩
  · omega
  · rw [callsAt]
    omega
  · rw [callsAt, callsAt]
    omega

theorem stats_le_of_run? {more : List Step} (h : (ofConfig config).run? steps = some c)
    (hmore : c.run? more = some d) (hfew : (steps ++ more).countP Step.isRequest < UInt64.size)
    (counter : Counter) : c.stats.get counter ≤ d.stats.get counter := by
  have hearly : steps.countP Step.isRequest < UInt64.size := by
    rw [List.countP_append] at hfew
    omega
  have hc := (balanced_of_run? h hearly).exact counter
  have hd := (balanced_of_run? (run?_append.mpr ⟨c, h, hmore⟩) hfew).exact counter
  rw [journal_append h, Deed.counters_append, List.count_append] at hd
  rw [UInt64.le_iff_toNat_le]
  omega

theorem Balanced.requests? {journal : List Deed} (h : c.Balanced journal)
    (hfew : journal.countP Deed.isProbe < UInt64.size) {seen : CacheStats}
    (hseen : ∀ counter, seen.get counter ≤ c.stats.get counter) :
    ∃ n, seen.requests? = some n ∧ seen.hits ≤ n := by
  have hhits : seen.hits.toNat ≤ c.stats.hits.toNat := UInt64.le_iff_toNat_le.mp (hseen .hits)
  have hmisses : seen.misses.toNat ≤ c.stats.misses.toNat :=
    UInt64.le_iff_toNat_le.mp (hseen .misses)
  have hrejections : seen.rejections.toNat ≤ c.stats.rejections.toNat :=
    UInt64.le_iff_toNat_le.mp (hseen .rejections)
  have hprobes := h.probes
  obtain ⟨n, hn, hsum⟩ := CacheStats.requests?_of_lt (s := seen) (by omega)
  refine ⟨n, hn, UInt64.le_iff_toNat_le.mpr ?_⟩
  omega

theorem Orderly.stats_of_invalidate (h : c.Orderly) (hs : c.Takes s d) {call : Call}
    (hcaller : c.caller? s = some call) (hop : call.operation = .invalidate) :
    d.stats = c.stats := by
  have hno : ∀ {id other desired}, c.calls.get? id = some other →
      c.calls.get? id = some call → other.operation ≠ .request desired := by
    intro id other desired hother hid hask
    obtain rfl := Option.some.inj (hother.symm.trans hid)
    cases hop.symm.trans hask
  cases hs with
  | hit hid _ hask => exact absurd hask (hno hid hcaller)
  | reject hid _ hask => exact absurd hask (hno hid hcaller)
  | miss hid _ hask => exact absurd hask (hno hid hcaller)
  | fail hid _ hask => exact absurd hask (hno hid hcaller)
  | @launch id other hid hstage =>
    obtain ⟨desired, hask⟩ := h.asks id other hid (by rw [hstage]; rfl)
    exact absurd hask (hno hid hcaller)
  | _ => rfl

end Cache

namespace Watch

variable {config : CacheConfig} {w v : Watch} {moves : List Move}

theorem cache_of_run? (h : w.run? moves = some v) :
    w.cache.run? (moves.filterMap Move.step?) = some v.cache := by
  induction moves generalizing w with
  | nil =>
    obtain rfl := Option.some.inj h
    rfl
  | cons m moves ih =>
    obtain ⟨u, hm, h⟩ := run?_cons.mp h
    cases m with
    | step s =>
      obtain ⟨d, hd, rfl⟩ := Option.map_eq_some_iff.mp hm
      exact Cache.run?_cons.mpr ⟨d, hd, ih h⟩
    | lookup pair =>
      obtain rfl := Option.some.inj hm
      have hrest := ih h
      exact hrest

theorem run?_append {more : List Move} : w.run? (moves ++ more) = some v ↔
    ∃ u, w.run? moves = some u ∧ u.run? more = some v := by
  induction moves generalizing w with
  | nil => simp [run?]
  | cons m moves ih =>
    simp only [List.cons_append, run?_cons, ih]
    constructor
    · rintro ⟨x, hx, u, hu, hv⟩
      exact ⟨u, ⟨x, hx, hu⟩, hv⟩
    · rintro ⟨u, ⟨x, hx, hu⟩, hv⟩
      exact ⟨x, hx, u, hu, hv⟩

def Uncounted (w : Watch) : Move → Prop
  | .lookup _ => True
  | .step s => s = .clear ∨ ∃ call, w.cache.caller? s = some call ∧ call.operation = .invalidate

theorem counters_conserved
    (hfew : (moves.filterMap Move.step?).countP Step.isRequest < UInt64.size)
    (h : (ofConfig config).run? moves = some w) :
    w.cache.Balanced
      ((Cache.ofConfig config).journal Cache.everywhere (moves.filterMap Move.step?)) ∧
    (∀ before after u, moves = before ++ after → (ofConfig config).run? before = some u →
      ∀ counter, u.cache.stats.get counter ≤ w.cache.stats.get counter) ∧
    (∀ seen : CacheStats, (∀ counter, seen.get counter ≤ w.cache.stats.get counter) →
      ∃ n, seen.requests? = some n ∧ seen.hits ≤ n) ∧
    (∀ m v, w.move? m = some v → w.Uncounted m → v.cache.stats = w.cache.stats) ∧
    (∀ nested first second ref (s : Session.State),
      ((Session.carryOut nested (.run first second ref)).run.run s).2.plugin = s.plugin ∧
      ((Session.carryOut nested (.lookup first second)).run.run s).2.plugin = s.plugin) := by
  have hrun : (Cache.ofConfig config).run? (moves.filterMap Move.step?) = some w.cache :=
    cache_of_run? h
  have hbalanced := Cache.balanced_of_run? hrun hfew
  have hprobes := Cache.probes_le_of_run? hrun
  have hseeking : (Cache.ofConfig config).seeking = 0 := rfl
  have horderly : w.cache.Orderly := Cache.orderly_of_run? hrun
  refine ⟨hbalanced, ?_, fun seen => hbalanced.requests? (by omega), ?_, ?_⟩
  · rintro before after u rfl hu
    obtain ⟨x, hx, hafter⟩ := run?_append.mp h
    obtain rfl := Option.some.inj (hu.symm.trans hx)
    rw [List.filterMap_append] at hfew
    exact Cache.stats_le_of_run? (cache_of_run? hu) (cache_of_run? hafter) hfew
  · intro m v hm hquiet
    cases m with
    | lookup pair =>
      obtain rfl := Option.some.inj hm
      rfl
    | step s =>
      obtain ⟨d, hd, rfl⟩ := Option.map_eq_some_iff.mp hm
      rcases hquiet with rfl | ⟨call, hcaller, hop⟩
      · obtain rfl := Option.some.inj hd
        rfl
      · exact horderly.stats_of_invalidate (Cache.takes_of_step? hd) hcaller hop
  · intro nested first second ref s
    exact ⟨Session.looks_run nested first second ref s rfl,
      Session.looks_lookup nested first second s rfl⟩

/-- A miss that is stored, a hit, a rejection that fails, one that panics, one that is given up, and one
that runs at the end, beside a call that waits for the only permit. -/
def busy : List Move :=
  let a : Object Input := ⟨1, 1, .plain "a"⟩
  let b : Object Input := ⟨2, 2, .plain "b"⟩
  let made : Bundle := {}
  let other : Bundle := { flag := true }
  [.step (.start 1 a b (.request made)), .step (.resolve 1), .step (.launch 1),
    .step (.finish 1 (.done ⟨.second, "b"⟩)), .step (.store 1), .lookup ⟨1, 2⟩,
    .step (.start 2 a b (.request made)), .step (.resolve 2),
    .step (.leave 1), .step (.leave 2),
    .step (.start 3 a b (.request other)), .step (.resolve 3), .step (.launch 3),
    .step (.finish 3 (.failed (.algorithm "no"))), .step (.leave 3),
    .step (.start 4 a b (.request other)), .step (.resolve 4), .step (.launch 4),
    .step (.finish 4 .panicked), .step (.leave 4), .step (.start 5 b a .invalidate),
    .step (.start 6 a b (.request other)), .step (.resolve 6), .step (.launch 6),
    .step (.start 7 a a (.request other)), .step (.resolve 7), .step (.start 8 b b (.request made)),
    .step (.resolve 8), .step (.cancel 7)]

theorem counters_conserved_busy : ∃ w, (ofConfig { maxRuns := 1 }).run? busy = some w ∧
    w.cache.stats = ⟨1, 3, 3, 4, 1⟩ ∧ w.cache.callsAt .permitting = 1 ∧
    w.cache.callsAt .running = 1 ∧
    w.cache.Balanced ((Cache.ofConfig { maxRuns := 1 }).journal Cache.everywhere
      (busy.filterMap Move.step?)) := by
  have hfew : (busy.filterMap Move.step?).countP Step.isRequest < UInt64.size := by decide
  obtain ⟨w, hrun, hstats, hpermitting, hrunning⟩ : ∃ w,
      (ofConfig { maxRuns := 1 }).run? busy = some w ∧ w.cache.stats = ⟨1, 3, 3, 4, 1⟩ ∧
      w.cache.callsAt .permitting = 1 ∧ w.cache.callsAt .running = 1 :=
    ⟨_, rfl, by decide, by decide, by decide⟩
  exact ⟨w, hrun, hstats, hpermitting, hrunning, (counters_conserved hfew hrun).1⟩

end Watch

end PairCache
