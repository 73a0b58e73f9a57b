import PairCache.Proofs.Bundle.Equality
import PairCache.Proofs.Runner.Serving

/-!
What a runner reports. Between executions it is `Ready`; during one, its cache has the connection that the
last bundle was served from (`Serving`), so that a bundle is run for just when the cache does not reuse
connections or the bundle before was another (`marked`).
-/
namespace PairCache.Runner

variable {watch : Stopwatch} {elapsed : Duration} {config : CacheConfig} {r t : Runner}
  {first second : Object Input} {a b : String} {desired : Bundle} {prev : Option Bundle}

structure Ready (config : CacheConfig) (r : Runner) : Prop where
  resting : r.core.cache.Resting
  config : r.core.cache.config = config
  buffer : r.core.buffer = {}
  known : ∀ pair k, r.core.cache.lookup pair = some k → pair.first ≤ r.core.made

def Serves (a b : String) (found : Option Connection) : Option Bundle → Prop
  | none => found = none
  | some p => ∃ k, found = some k ∧ k.parameters.same p = true ∧
      k.output.value = Select.choose p.flag a b

structure Serving (config : CacheConfig) (first second : Object Input) (a b : String)
    (prev : Option Bundle) (r : Runner) : Prop extends Ready config r where
  made : first.address ≤ r.core.made
  serves : Serves a b (r.core.cache.lookup (.of first second)) prev

theorem request_of_connect {output : Object Derived} {index : Nat}
    (h : (r.timed (watch.time index)).connect first second desired =
      (.answered (.served output), t)) :
    ∃ u, r.request watch first second index desired =
      (.ok {
        index
        parameters := desired.render
        output := output.value.render
        origin := output.value.origin
        computed := decide
          (r.core.cache.ledger.stats.computations < t.core.cache.ledger.stats.computations)
        diagnostics := t.core.buffer.lines }, u) ∧
      u.core = { t.core with buffer := {} } := by
  simp only [request, h, take, Buffer.take]
  exact ⟨_, rfl, rfl⟩

theorem outcome_select (ha : first.value = .plain a) (hb : second.value = .plain b) :
    (Select.algorithm elapsed).run first.value second.value desired =
      ⟨Select.report a b desired elapsed, .done (Select.choose desired.flag a b)⟩ := by
  rw [ha, hb]
  rfl

def isNew (reuse : Bool) (prev : Option Bundle) (desired : Bundle) : Bool :=
  !(reuse && prev.any fun p => desired.same p)

def moved (prev : Option Bundle) (new : Bool) : List Counter :=
  if new then [if prev.isSome then .rejections else .misses, .computations] else [.hits]

def outcome (elapsed : Duration) (a b : String) (index : Nat) (desired : Bundle) (new : Bool)
    (before : UInt64) : RequestOutcome where
  index := index
  parameters := desired.render
  output := (Select.choose desired.flag a b).render
  origin := (Select.choose desired.flag a b).origin
  computed := decide (before < if new then before + 1 else before)
  diagnostics := if new then Select.report a b desired elapsed else []

theorem accepts_of_not_new {k : Connection} {p : Bundle} (hold : k.parameters.same p = true)
    (hsame : desired.same p = true) : k.accepts desired = true :=
  Bundle.same_trans hold (Bundle.same_symm hsame)

theorem Serving.refuses (h : Serving config first second a b prev r)
    (hnew : isNew config.reuse prev desired = true) : ∀ k,
      r.core.cache.lookup (.of first second) = some k →
        (r.core.cache.config.reuse && k.accepts desired) = false := by
  intro k hk
  have hserves := h.serves
  rw [hk] at hserves
  cases prev with
  | none => cases hserves
  | some p =>
    obtain ⟨_, hfound, hold, _⟩ := hserves
    obtain rfl := Option.some.inj hfound
    rw [h.config]
    cases haccept : k.accepts desired with
    | false => simp
    | true =>
      have hsame : desired.same p = true := Bundle.same_trans (Bundle.same_symm haccept) hold
      simpa [isNew, hsame] using hnew

theorem Ready.of_core {algorithm : Algorithm} {cache : Cache} {buffer : Buffer} (h : Ready config r)
    (hcore : t.core = { r.core with algorithm, cache, buffer }) (hbuffer : buffer = {})
    (hrest : cache.Resting) (hconfig : cache.config = r.core.cache.config)
    (hknown : ∀ pair k, cache.lookup pair = some k → pair.first ≤ r.core.made) :
    Ready config t := by
  refine ⟨?_, ?_, ?_, ?_⟩
  · rw [hcore]
    exact hrest
  · rw [hcore]
    exact hconfig.trans h.config
  · rw [hcore]
    exact hbuffer
  · rw [hcore]
    exact hknown

theorem Serving.reuses (h : Serving config first second a b prev r) (watch : Stopwatch) (index : Nat)
    (hnew : isNew config.reuse prev desired = false) :
    ∃ t, r.request watch first second index desired =
        (.ok (outcome (watch.time index) a b index desired false r.core.cache.ledger.stats.computations), t) ∧
      Serving config first second a b (some desired) t ∧
      t.core.descriptor = r.core.descriptor ∧
      t.core.cache.ledger.stats = r.core.cache.ledger.stats.bump .hits := by
  obtain ⟨hreuse, p, rfl, hsame⟩ :
      config.reuse = true ∧ ∃ p, prev = some p ∧ desired.same p = true := by
    cases prev with
    | none => simp [isNew] at hnew
    | some p => simpa [isNew] using hnew
  obtain ⟨k, hk, hold, houtput⟩ := h.serves
  have haccepts : k.accepts desired = true := accepts_of_not_new hold hsame
  have haccept : (r.core.cache.config.reuse && k.accepts desired) = true := by
    rw [h.config, hreuse, haccepts]
    rfl
  obtain ⟨t, cache, hconnect, hcore, hrest, hconfig, hledger⟩ :=
    connect_hit (r := r.timed (watch.time index)) h.resting hk haccept
  rw [core_timed] at hcore hledger
  obtain ⟨u, hrequest, hu⟩ := request_of_connect hconnect
  have hflag : p.flag = desired.flag := (Bundle.same_iff.mp hsame).2.1.symm
  have hlookup : ∀ pair, cache.lookup pair = r.core.cache.lookup pair := by
    intro pair
    rw [Cache.lookup, Cache.lookup, show cache.store = r.core.cache.store from
      congrArg Ledger.store hledger]
  rw [hcore] at hrequest hu
  have hready : Ready config u := by
    refine h.toReady.of_core hu rfl hrest hconfig fun pair k hk => ?_
    rw [hlookup] at hk
    exact h.known pair k hk
  refine ⟨u, ?_, ⟨hready, ?_, ?_⟩, ?_, ?_⟩
  · rw [hrequest]
    simp [outcome, hledger, houtput, hflag, h.buffer, CacheStats.bump]
  · rw [hu]
    exact h.made
  · rw [hu]
    exact ⟨k, (hlookup _).trans hk, haccepts, by rw [houtput, hflag]⟩
  · rw [hu]
  · rw [hu, hledger]

theorem Serving.runs (h : Serving config first second a b prev r)
    (ha : first.value = .plain a) (hb : second.value = .plain b) (watch : Stopwatch) (index : Nat)
    (hnew : isNew config.reuse prev desired = true) :
    ∃ t, r.request watch first second index desired =
        (.ok (outcome (watch.time index) a b index desired true r.core.cache.ledger.stats.computations), t) ∧
      Serving config first second a b (some desired) t ∧
      t.core.descriptor = r.core.descriptor ∧
      t.core.cache.ledger.stats = (r.core.cache.ledger.stats.bump
        (if prev.isSome then .rejections else .misses)).bump .computations := by
  have hrun : (Select.algorithm (watch.time index)).run first.value second.value desired =
      ⟨Select.report a b desired (watch.time index), .done (Select.choose desired.flag a b)⟩ :=
    outcome_select ha hb
  obtain ⟨t, cache, k, hconnect, hcore, hrest, hconfig, hfirst, hsecond, hparameters, houtput,
    hledger⟩ := connect_run (r := r.timed (watch.time index)) h.resting (h.refuses hnew)
      (congrArg Run.outcome hrun)
  rw [core_timed] at hcore hledger
  have hpair : k.pair = .of first second := by
    rw [Connection.pair, hfirst, hsecond]
  obtain ⟨u, hrequest, hu⟩ := request_of_connect hconnect
  have hfound : (r.core.cache.lookup (.of first second)).isSome = prev.isSome := by
    have hserves := h.serves
    cases prev with
    | none =>
      rw [hserves]
      rfl
    | some p =>
      obtain ⟨k, hk, _⟩ := hserves
      rw [hk]
      rfl
  have hlookup : ∀ pair, cache.lookup pair =
      if pair = .of first second then some k else r.core.cache.lookup pair := by
    intro pair
    rw [Cache.lookup, show cache.store = r.core.cache.store.put k from
      congrArg Ledger.store hledger, Store.get?_put, hpair]
    rfl
  rw [hcore] at hrequest hu
  rw [hfound] at hledger
  have hready : Ready config u := by
    refine h.toReady.of_core hu rfl hrest hconfig fun pair k hk => ?_
    rw [hlookup] at hk
    split at hk
    · rename_i hsame
      rw [hsame]
      exact h.made
    · exact h.known pair k hk
  refine ⟨u, ?_, ⟨hready, ?_, ?_⟩, ?_, ?_⟩
  · rw [hrequest]
    cases prev <;>
      simp [outcome, hledger, hrun, houtput, h.buffer, CacheStats.bump, Buffer.reportAll]
  · rw [hu]
    exact h.made
  · rw [hu]
    refine ⟨k, (hlookup _).trans (if_pos rfl), ?_, houtput⟩
    rw [hparameters]
    exact desired.same_refl
  · rw [hu]
  · rw [hu, hledger]

theorem Serving.request (h : Serving config first second a b prev r)
    (ha : first.value = .plain a) (hb : second.value = .plain b) (watch : Stopwatch) (index : Nat)
    (desired : Bundle) :
    ∃ t, r.request watch first second index desired =
        (.ok (outcome (watch.time index) a b index desired (isNew config.reuse prev desired)
          r.core.cache.ledger.stats.computations), t) ∧
      Serving config first second a b (some desired) t ∧
      t.core.descriptor = r.core.descriptor ∧
      t.core.cache.ledger.stats =
        (moved prev (isNew config.reuse prev desired)).foldl CacheStats.bump
          r.core.cache.ledger.stats := by
  cases hnew : isNew config.reuse prev desired with
  | false => exact h.reuses watch index hnew
  | true => exact h.runs ha hb watch index hnew

def marked (reuse : Bool) : Option Bundle → List Bundle → List (Bundle × Bool)
  | _, [] => []
  | prev, desired :: rest => (desired, isNew reuse prev desired) :: marked reuse (some desired) rest

def outcomes (watch : Stopwatch) (a b : String) : Nat → UInt64 → List (Bundle × Bool) →
    List RequestOutcome
  | _, _, [] => []
  | index, before, (desired, new) :: rest =>
    outcome (watch.time index) a b index desired new before ::
      outcomes watch a b (index + 1) (if new then before + 1 else before) rest

def allMoved : Option Bundle → List (Bundle × Bool) → List Counter
  | _, [] => []
  | prev, (desired, new) :: rest => moved prev new ++ allMoved (some desired) rest

theorem get_computations_moved (s : CacheStats) (prev : Option Bundle) (new : Bool) :
    ((moved prev new).foldl CacheStats.bump s).computations =
      if new then s.computations + 1 else s.computations := by
  cases new <;> cases prev <;> simp [moved, CacheStats.bump]

theorem Serving.requests (h : Serving config first second a b prev r)
    (ha : first.value = .plain a) (hb : second.value = .plain b) (watch : Stopwatch) (index : Nat)
    (bundles : List Bundle) : ∃ t last, r.requests watch first second index bundles =
        (.ok (outcomes watch a b index r.core.cache.ledger.stats.computations
          (marked config.reuse prev bundles)), t) ∧
      Serving config first second a b last t ∧ t.core.descriptor = r.core.descriptor ∧
      t.core.cache.ledger.stats =
        (allMoved prev (marked config.reuse prev bundles)).foldl CacheStats.bump
          r.core.cache.ledger.stats := by
  induction bundles generalizing index prev r with
  | nil => exact ⟨r, prev, rfl, h, rfl, rfl⟩
  | cons desired rest ih =>
    obtain ⟨t, hrequest, hserving, hdescriptor, hstats⟩ := h.request ha hb watch index desired
    obtain ⟨u, last, hrequests, hlast, hdescriptors, hall⟩ := ih hserving (index + 1)
    refine ⟨u, last, ?_, hlast, hdescriptors.trans hdescriptor, ?_⟩
    · rw [hstats, get_computations_moved] at hrequests
      simp only [Runner.requests, hrequest, hrequests]
      rfl
    · rw [hall, hstats, marked, allMoved, List.foldl_append]

theorem length_outcomes (index : Nat) (before : UInt64) (bundles : List (Bundle × Bool)) :
    (outcomes watch a b index before bundles).length = bundles.length := by
  induction bundles generalizing index before with
  | nil => rfl
  | cons m rest ih => simp [outcomes, ih]

theorem getElem?_outcomes (index : Nat) (before : UInt64) (bundles : List (Bundle × Bool)) (i : Nat) :
    (outcomes watch a b index before bundles)[i]? = bundles[i]?.map fun m =>
      outcome (watch.time (index + i)) a b (index + i) m.1 m.2
        (before + .ofNat ((bundles.take i).countP Prod.snd)) := by
  induction bundles generalizing index before i with
  | nil => rfl
  | cons m rest ih =>
    obtain ⟨desired, new⟩ := m
    cases i with
    | zero => simp [outcomes]
    | succ i =>
      rw [outcomes, List.getElem?_cons_succ, List.getElem?_cons_succ, ih, List.take_succ_cons,
        List.countP_cons, Nat.add_assoc, Nat.add_comm 1 i]
      congr 1
      funext m
      cases new
      · simp
      · simp [UInt64.ofNat_add, UInt64.add_assoc, UInt64.add_comm]

def computes (reuse : Bool) (bundles : List Bundle) : Nat → Bool
  | 0 => true
  | i + 1 => !reuse || !(bundles.getD (i + 1) {}).same (bundles.getD i {})

def previous (prev : Option Bundle) (bundles : List Bundle) : Nat → Option Bundle
  | 0 => prev
  | i + 1 => bundles[i]?

theorem getElem?_marked (reuse : Bool) (prev : Option Bundle) (bundles : List Bundle) (i : Nat) :
    (marked reuse prev bundles)[i]? =
      bundles[i]?.map fun b => (b, isNew reuse (previous prev bundles i) b) := by
  induction bundles generalizing prev i with
  | nil => rfl
  | cons desired rest ih =>
    cases i with
    | zero => rfl
    | succ i =>
      rw [marked, List.getElem?_cons_succ, List.getElem?_cons_succ, ih]
      cases i <;> rfl

theorem isNew_previous {reuse : Bool} {bundles : List Bundle} {i : Nat} {b : Bundle}
    (hi : bundles[i]? = some b) : isNew reuse (previous none bundles i) b = computes reuse bundles i := by
  cases i with
  | zero => simp [isNew, previous, computes]
  | succ i =>
    have hlt : i < bundles.length := by
      have hle := (List.getElem?_eq_some_iff.mp hi).1
      omega
    simp [isNew, previous, computes, hi, List.getElem?_eq_getElem hlt, Bool.not_and]

theorem map_snd_marked (reuse : Bool) (bundles : List Bundle) :
    (marked reuse none bundles).map Prod.snd =
      (List.range bundles.length).map (computes reuse bundles) := by
  refine List.ext_getElem? fun i => ?_
  rw [List.getElem?_map, List.getElem?_map, getElem?_marked, Option.map_map]
  cases hi : bundles[i]? with
  | none => simp [List.getElem?_eq_none_iff.mp hi]
  | some b =>
    have hlt := (List.getElem?_eq_some_iff.mp hi).1
    simp [isNew_previous hi, hlt]

theorem countP_take_marked (reuse : Bool) {bundles : List Bundle} {i : Nat} (hi : i ≤ bundles.length) :
    ((marked reuse none bundles).take i).countP Prod.snd =
      (List.range i).countP (computes reuse bundles) := by
  have hmap : ∀ ms : List (Bundle × Bool), ms.countP Prod.snd = (ms.map Prod.snd).countP id :=
    fun ms => by rw [List.countP_map]; rfl
  rw [hmap, List.map_take, map_snd_marked, ← List.map_take, List.take_range, Nat.min_eq_left hi,
    List.countP_map]
  rfl

theorem length_marked (reuse : Bool) (prev : Option Bundle) (bundles : List Bundle) :
    (marked reuse prev bundles).length = bundles.length := by
  induction bundles generalizing prev with
  | nil => rfl
  | cons desired rest ih => simp [marked, ih]

theorem count_allMoved (p : Bundle) (ms : List (Bundle × Bool)) :
    (allMoved (some p) ms).count .hits + ms.countP Prod.snd = ms.length ∧
    (allMoved (some p) ms).count .misses = 0 ∧
    (allMoved (some p) ms).count .rejections = ms.countP Prod.snd ∧
    (allMoved (some p) ms).count .computations = ms.countP Prod.snd ∧
    (allMoved (some p) ms).count .failures = 0 := by
  induction ms generalizing p with
  | nil => simp [allMoved]
  | cons m rest ih =>
    obtain ⟨desired, new⟩ := m
    obtain ⟨hhits, hmisses, hrejections, hcomputations, hfailures⟩ := ih desired
    cases new <;>
      simp [allMoved, moved, hmisses, hrejections, hcomputations, hfailures] <;> omega

end PairCache.Runner
