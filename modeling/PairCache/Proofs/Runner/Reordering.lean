import PairCache.Proofs.Runner.Serving

/-!
Calls and look-ups that a runner makes one after another. Each of them deals with the entry of its own
pair alone (`Query.deal`), so what a pair is told and keeps hangs on the order of the queries on that
pair and on nothing else, and the counters only on how the queries were dealt with.
-/
namespace PairCache

/-- A connection but for who it is and who its output is. -/
structure Shown where
  first : Object Input
  second : Object Input
  parameters : Bundle
  output : Derived

def Connection.shown (k : Connection) : Shown := ⟨k.first, k.second, k.parameters, k.output.value⟩

inductive Query where
  | call (first second : Object Input) (operation : Operation)
  | lookup (first second : Object Input)

inductive Told where
  | ended (outcome : Outcome)
  | removed (found : Bool)
  | found (shown : Option Shown)

def Answer.told : Answer → Told
  | .served output => .ended (.done output.value)
  | .failed failure => .ended (.failed failure)
  | .panicked => .ended .panicked
  | .removed found => .removed found

theorem Answer.told_of_stop {outcome : Outcome} {answer : Answer} (h : outcome.stop? = some answer) :
    answer.told = .ended outcome := by
  cases outcome with
  | done => cases h
  | failed =>
    obtain rfl := Option.some.inj h
    rfl
  | panicked =>
    obtain rfl := Option.some.inj h
    rfl

def Ending.told? : Ending → Option Told
  | .answered answer => some answer.told
  | .cancelled => none

structure Deal where
  kept : Option Shown
  told : Told
  moved : List Counter

namespace Query

variable {a : Algorithm} {reuse : Bool} {found : Option Shown} {first second : Object Input}
  {desired : Bundle}

def pair : Query → Pair
  | .call first second _ | .lookup first second => .of first second

def recompute (a : Algorithm) (first second : Object Input) (desired : Bundle)
    (found : Option Shown) : Deal :=
  let outcome := a.outcome first.value second.value desired
  { kept :=
      match outcome with
      | .done output => some ⟨first, second, desired, output⟩
      | .failed _ | .panicked => found
    told := .ended outcome
    moved := (if found.isSome then .rejections else .misses) :: .computations :: outcome.failures }

def deal (a : Algorithm) (reuse : Bool) (found : Option Shown) : Query → Deal
  | .call first second (.request desired) =>
    match found with
    | some k =>
      if reuse && k.parameters.same desired then ⟨found, .ended (.done k.output), [.hits]⟩
      else recompute a first second desired found
    | none => recompute a first second desired found
  | .call _ _ .invalidate => ⟨none, .removed found.isSome, []⟩
  | .lookup _ _ => ⟨found, .found found, []⟩

def along (a : Algorithm) (reuse : Bool) : Option Shown → List Query →
    List (Query × Deal) × Option Shown
  | found, [] => ([], found)
  | found, q :: queries =>
    let deal := q.deal a reuse found
    let (log, last) := along a reuse deal.kept queries
    ((q, deal) :: log, last)

theorem deal_of_accepts {k : Shown} (h : (reuse && k.parameters.same desired) = true) :
    (Query.call first second (.request desired)).deal a reuse (some k) =
      ⟨some k, .ended (.done k.output), [.hits]⟩ := by
  simp only [deal, h, if_true]

theorem deal_of_refuses (h : ∀ k, found = some k → (reuse && k.parameters.same desired) = false) :
    (Query.call first second (.request desired)).deal a reuse found =
      recompute a first second desired found := by
  cases found with
  | none => rfl
  | some k => simp only [deal, h k rfl, Bool.false_eq_true, if_false]

end Query

namespace Runner

def kept (r : Runner) (pair : Pair) : Option Shown :=
  (r.plugin.cache.lookup pair).map Connection.shown

def query (q : Query) (r : Runner) : Option Told × Runner :=
  match q with
  | .call first second operation =>
    let (ending, t) := r.call first second operation
    (ending.told?, t)
  | .lookup first second => (some (.found (r.kept (.of first second))), r)

def queries : List Query → Runner → List (Query × Option Told) × Runner
  | [], r => ([], r)
  | q :: more, r =>
    let (told, t) := r.query q
    let (log, last) := t.queries more
    ((q, told) :: log, last)

variable {r t : Runner} {first second : Object Input} {desired : Bundle} {k : Connection}
  {pair : Pair} {deal : Deal} {config : CacheConfig} {steps : List Step}

structure Deals (r : Runner) (pair : Pair) (deal : Deal) (t : Runner) : Prop where
  resting : t.core.cache.Resting
  algorithm : t.core.algorithm = r.core.algorithm
  config : t.core.cache.config = r.core.cache.config
  kept : ∀ p, t.kept p = if p = pair then deal.kept else r.kept p
  stats : t.core.cache.stats = deal.moved.foldl .bump r.core.cache.stats

theorem Deals.of_ledger {cache : Cache} {ledger : Ledger} (hcache : t.core.cache = cache)
    (halgorithm : t.core.algorithm = r.core.algorithm) (hrest : cache.Resting)
    (hconfig : cache.config = r.core.cache.config) (hledger : cache.ledger = ledger)
    (hkept : ∀ p, (ledger.store.get? p).map Connection.shown =
      if p = pair then deal.kept else r.kept p)
    (hstats : ledger.stats = deal.moved.foldl .bump r.core.cache.stats) : r.Deals pair deal t := by
  subst hcache hledger
  exact ⟨hrest, halgorithm, hconfig, hkept, hstats⟩

theorem kept_eq_ite (h : deal.kept = r.kept pair) (p : Pair) :
    r.kept p = if p = pair then deal.kept else r.kept p := by
  by_cases hp : p = pair
  · rw [if_pos hp, hp, h]
  · rw [if_neg hp]

theorem query_hit (h : r.core.cache.Resting) (hold : r.core.cache.lookup (.of first second) = some k)
    (haccept : (r.core.cache.config.reuse && k.accepts desired) = true) :
    ∃ t, r.query (.call first second (.request desired)) =
        (some (.ended (.done k.output.value)), t) ∧
      r.Deals (.of first second) ⟨some k.shown, .ended (.done k.output.value), [.hits]⟩ t := by
  obtain ⟨t, cache, hcall, hcore, hrest, hconfig, hledger⟩ := connect_hit h hold haccept
  refine ⟨t, ?_, .of_ledger (by rw [hcore]) (by rw [hcore]) hrest hconfig hledger ?_ rfl⟩
  · have hcall' : r.call first second (.request desired) = _ := hcall
    simp only [query, hcall']
    rfl
  · exact kept_eq_ite (congrArg (Option.map Connection.shown) hold).symm

theorem isSome_kept (r : Runner) (pair : Pair) :
    (r.kept pair).isSome = (r.core.cache.lookup pair).isSome := Option.isSome_map

theorem query_done (h : r.core.cache.Resting)
    (hrefuse : ∀ k, r.core.cache.lookup (.of first second) = some k →
      (r.core.cache.config.reuse && k.accepts desired) = false) {output : Derived}
    (houtcome : r.core.algorithm.outcome first.value second.value desired = .done output) :
    ∃ t, r.query (.call first second (.request desired)) = (some (.ended (.done output)), t) ∧
      r.Deals (.of first second)
        (Query.recompute r.core.algorithm first second desired (r.kept (.of first second))) t := by
  obtain ⟨t, cache, k, hcall, hcore, hrest, hconfig, hfirst, hsecond, hparameters, hvalue, hledger⟩ :=
    connect_run h hrefuse houtcome
  have hcall' : r.call first second (.request desired) = _ := hcall
  have hpair : k.pair = .of first second := by
    rw [Connection.pair, hfirst, hsecond]
  refine ⟨t, ?_, .of_ledger (by rw [hcore]) (by rw [hcore]) hrest hconfig hledger ?_ ?_⟩
  · simp only [query, hcall', Ending.told?, Answer.told, hvalue]
  · intro p
    simp only [Query.recompute, houtcome, Store.get?_put, hpair]
    split
    · rw [Option.map_some, Connection.shown, hfirst, hsecond, hparameters, hvalue]
    · rfl
  · simp only [Query.recompute, houtcome, isSome_kept]
    rfl

theorem query_stop (h : r.core.cache.Resting)
    (hrefuse : ∀ k, r.core.cache.lookup (.of first second) = some k →
      (r.core.cache.config.reuse && k.accepts desired) = false) {outcome : Outcome} {answer : Answer}
    (houtcome : r.core.algorithm.outcome first.value second.value desired = outcome)
    (hstop : outcome.stop? = some answer) :
    ∃ t, r.query (.call first second (.request desired)) = (some (.ended outcome), t) ∧
      r.Deals (.of first second)
        (Query.recompute r.core.algorithm first second desired (r.kept (.of first second))) t := by
  obtain ⟨t, cache, hcall, hcore, hrest, hconfig, hledger⟩ := connect_stop h hrefuse houtcome hstop
  have hcall' : r.call first second (.request desired) = _ := hcall
  refine ⟨t, ?_, .of_ledger (by rw [hcore]) (by rw [hcore]) hrest hconfig hledger ?_ ?_⟩
  · simp only [query, hcall', Ending.told?, Answer.told_of_stop hstop]
  · refine kept_eq_ite ?_
    simp only [Query.recompute, houtcome]
    cases outcome with
    | done => cases hstop
    | failed => rfl
    | panicked => rfl
  · simp only [Query.recompute, houtcome, isSome_kept]
    rfl

theorem query_run (h : r.core.cache.Resting)
    (hrefuse : ∀ k, r.core.cache.lookup (.of first second) = some k →
      (r.core.cache.config.reuse && k.accepts desired) = false) :
    ∃ t, r.query (.call first second (.request desired)) =
        (some (.ended (r.core.algorithm.outcome first.value second.value desired)), t) ∧
      r.Deals (.of first second)
        (Query.recompute r.core.algorithm first second desired (r.kept (.of first second))) t := by
  cases houtcome : r.core.algorithm.outcome first.value second.value desired with
  | done output => exact query_done h hrefuse houtcome
  | failed failure => exact query_stop h hrefuse houtcome rfl
  | panicked => exact query_stop h hrefuse houtcome rfl

theorem query_invalidate (h : r.core.cache.Resting) (first second : Object Input) :
    ∃ t, r.query (.call first second .invalidate) =
        (some (.removed (r.kept (.of first second)).isSome), t) ∧
      r.Deals (.of first second) ⟨none, .removed (r.kept (.of first second)).isSome, []⟩ t := by
  obtain ⟨t, cache, hcall, hcore, hrest, hconfig, hledger⟩ := call_invalidate h first second
  refine ⟨t, ?_, .of_ledger (by rw [hcore]) (by rw [hcore]) hrest hconfig hledger ?_ rfl⟩
  · simp only [query, hcall, Ending.told?, Answer.told, isSome_kept]
  · intro p
    rw [Table.get?_erase]
    split
    · rfl
    · rfl

theorem query_deals (h : r.core.cache.Resting) (q : Query) :
    ∃ t, r.query q = (some (q.deal r.core.algorithm r.core.cache.config.reuse (r.kept q.pair)).told, t) ∧
      r.Deals q.pair (q.deal r.core.algorithm r.core.cache.config.reuse (r.kept q.pair)) t := by
  cases q with
  | lookup first second =>
    exact ⟨r, rfl, h, rfl, rfl, kept_eq_ite rfl, rfl⟩
  | call first second operation =>
    cases operation with
    | invalidate => exact query_invalidate h first second
    | request desired =>
      by_cases haccept : ∃ k, r.core.cache.lookup (.of first second) = some k ∧
          (r.core.cache.config.reuse && k.accepts desired) = true
      · obtain ⟨k, hold, haccept⟩ := haccept
        have hkept : r.kept (.of first second) = some k.shown :=
          congrArg (Option.map Connection.shown) hold
        rw [Query.pair, hkept, Query.deal_of_accepts haccept]
        exact query_hit h hold haccept
      · have hrefuse : ∀ k, r.core.cache.lookup (.of first second) = some k →
            (r.core.cache.config.reuse && k.accepts desired) = false := by
          intro k hk
          exact Bool.eq_false_iff.mpr fun haccepts => haccept ⟨k, hk, haccepts⟩
        have hshown : ∀ shown, r.kept (.of first second) = some shown →
            (r.core.cache.config.reuse && shown.parameters.same desired) = false := by
          intro shown hkept
          obtain ⟨k, hk, rfl⟩ := Option.map_eq_some_iff.mp hkept
          exact hrefuse k hk
        rw [Query.pair, Query.deal_of_refuses hshown]
        exact query_run h hrefuse

structure Follows (r : Runner) (queries : List Query) (log : List (Query × Deal)) (t : Runner) :
    Prop where
  told : r.queries queries = (log.map fun x => (x.1, some x.2.told), t)
  each : ∀ pair, (log.filter fun x => x.1.pair = pair, t.kept pair) =
    Query.along r.core.algorithm r.core.cache.config.reuse (r.kept pair)
      (queries.filter fun q => q.pair = pair)
  stats : t.core.cache.stats = (log.flatMap fun x => x.2.moved).foldl .bump r.core.cache.stats

theorem queries_cons {q : Query} {queries : List Query} {told : Option Told} {u : Runner}
    {log : List (Query × Option Told)} (hq : r.query q = (told, t))
    (hmore : t.queries queries = (log, u)) : r.queries (q :: queries) = ((q, told) :: log, u) := by
  simp only [Runner.queries, hq, hmore]

theorem Deals.cons {q : Query} {queries : List Query} {u : Runner} {log : List (Query × Deal)}
    (hdeal : deal = q.deal r.core.algorithm r.core.cache.config.reuse (r.kept q.pair))
    (hq : r.query q = (some deal.told, t)) (h : r.Deals q.pair deal t)
    (hmore : t.Follows queries log u) : r.Follows (q :: queries) ((q, deal) :: log) u where
  told := queries_cons hq hmore.told
  each := by
    intro pair
    have heach := hmore.each pair
    rw [h.algorithm, h.config, h.kept] at heach
    by_cases hpair : q.pair = pair
    · subst hpair
      rw [if_pos rfl] at heach
      simp only [List.filter_cons, decide_true, if_true, Query.along, ← hdeal, ← heach]
    · rw [if_neg (Ne.symm hpair)] at heach
      simp only [List.filter_cons, hpair, decide_false, Bool.false_eq_true, if_false, heach]
  stats := by
    rw [hmore.stats, h.stats, List.flatMap_cons, List.foldl_append]

theorem exists_follows (h : r.core.cache.Resting) (queries : List Query) :
    ∃ log t, r.Follows queries log t := by
  induction queries generalizing r with
  | nil => exact ⟨[], r, rfl, fun _ => rfl, rfl⟩
  | cons q queries ih =>
    obtain ⟨t, hq, hdeals⟩ := query_deals h q
    obtain ⟨log, u, hmore⟩ := ih hdeals.resting
    exact ⟨_, u, hdeals.cons rfl hq hmore⟩

theorem perm_of_filter {α : Type} {key : α → Pair} {log other : List α}
    (h : ∀ pair, log.filter (fun x => key x = pair) = other.filter fun x => key x = pair) :
    log.Perm other := by
  classical
  refine List.perm_iff_count.mpr fun x => ?_
  have hcount := congrArg (List.count x) (h (key x))
  rwa [List.count_filter (by simp), List.count_filter (by simp)] at hcount

theorem stats_of_perm {moved others : List Counter} (h : moved.Perm others) (s : CacheStats) :
    moved.foldl .bump s = others.foldl .bump s := by
  refine CacheStats.ext_get fun counter => ?_
  rw [CacheStats.get_foldl_bump, CacheStats.get_foldl_bump, h.count_eq]

theorem resting_of_run? {c : Cache} (hvalid : config.validate = .ok ())
    (hrun : (Cache.ofConfig config).run? steps = some c) (hidle : ∀ id, c.calls.get? id = none) :
    c.Resting where
  orderly := Cache.orderly_of_run? hrun
  idle := hidle
  runs := by
    rw [Cache.config_of_run? hrun]
    exact CacheConfig.maxRuns_pos hvalid

theorem queries_reordered {queries others : List Query} (hvalid : config.validate = .ok ())
    (hrun : (Cache.ofConfig config).run? steps = some r.plugin.cache)
    (hidle : ∀ id, r.plugin.cache.calls.get? id = none)
    (hsame : ∀ pair, queries.filter (fun q => q.pair = pair) = others.filter fun q => q.pair = pair) :
    (∀ x ∈ (r.queries queries).1, x.2.isSome = true) ∧
    (∀ pair, ((r.queries queries).1.filter fun x => x.1.pair = pair) =
      (r.queries others).1.filter fun x => x.1.pair = pair) ∧
    (∀ pair, (r.queries queries).2.kept pair = (r.queries others).2.kept pair) ∧
    (r.queries queries).2.plugin.cache.stats = (r.queries others).2.plugin.cache.stats := by
  have hrest : r.core.cache.Resting := resting_of_run? hvalid hrun hidle
  obtain ⟨log, t, hlog⟩ := exists_follows hrest queries
  obtain ⟨log', t', hlog'⟩ := exists_follows hrest others
  have heach : ∀ pair, (log.filter fun x => x.1.pair = pair, t.kept pair) =
      (log'.filter fun x => x.1.pair = pair, t'.kept pair) := by
    intro pair
    rw [hlog.each, hlog'.each, hsame]
  have hfilter := fun pair => (Prod.mk.inj (heach pair)).1
  rw [hlog.told, hlog'.told]
  refine ⟨?_, fun pair => ?_, fun pair => (Prod.mk.inj (heach pair)).2, ?_⟩
  · intro x hx
    obtain ⟨y, -, rfl⟩ := List.mem_map.mp hx
    rfl
  · simp only [List.filter_map]
    exact congrArg (List.map _) (hfilter pair)
  · have hperm := (perm_of_filter hfilter).flatMap_right fun x => x.2.moved
    exact hlog.stats.trans ((stats_of_perm hperm _).trans hlog'.stats.symm)

def selecting : Runner where
  plugin :=
    { descriptor, algorithm := Select.algorithm .zero, cache := .ofConfig {} }

/-- Two pairs share an input that comes first in both, and two are each other the other way round. -/
def sharing : List Query × List Query :=
  let a : Object Input := ⟨1, 1, .plain "a"⟩
  let b : Object Input := ⟨2, 2, .plain "b"⟩
  let c : Object Input := ⟨3, 3, .formless "c"⟩
  ([.call a b (.request {}), .call b a (.request {}), .call a c (.request {}), .call a b .invalidate,
      .lookup b a, .lookup a b],
    [.call a c (.request {}), .call b a (.request {}), .lookup b a, .call a b (.request {}),
      .call a b .invalidate, .lookup a b])

theorem queries_reordered_sharing :
    (∀ pair, sharing.1.filter (fun q => q.pair = pair) = sharing.2.filter fun q => q.pair = pair) ∧
    (selecting.queries sharing.1).2.plugin.cache.stats =
      { misses := 3, computations := 3, failures := 1 } ∧
    (selecting.queries sharing.2).2.plugin.cache.stats =
      { misses := 3, computations := 3, failures := 1 } := by
  have hsame : ∀ pair,
      sharing.1.filter (fun q => q.pair = pair) = sharing.2.filter fun q => q.pair = pair := by
    intro pair
    by_cases hab : pair = ⟨1, 2⟩
    · subst hab
      rfl
    · by_cases hba : pair = ⟨2, 1⟩
      · subst hba
        rfl
      · by_cases hac : pair = ⟨1, 3⟩
        · subst hac
          rfl
        · simp [sharing, Query.pair, Pair.of, Ne.symm hab, Ne.symm hba, Ne.symm hac]
  have hstats : (selecting.queries sharing.1).2.plugin.cache.stats =
      { misses := 3, computations := 3, failures := 1 } := by
    decide +kernel
  have hvalid : ({} : CacheConfig).validate = .ok () := rfl
  have hrun : (Cache.ofConfig {}).run? [] = some selecting.plugin.cache := rfl
  obtain ⟨-, -, -, hsum⟩ := queries_reordered hvalid hrun (fun _ => rfl) hsame
  exact ⟨hsame, hstats, hsum.symm.trans hstats⟩

end Runner

end PairCache
