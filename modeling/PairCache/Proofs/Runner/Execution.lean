import PairCache.Proofs.Runner.Reporting
import PairCache.Proofs.Select

/-!
What `Runner.execute` reports, for all settings and after all that was executed before: one outcome for
each bundle, run for or reused as the bundle before it says, and the counters moved accordingly.
-/
namespace PairCache.Runner

variable {watch : Stopwatch} {config : CacheConfig} {r : Runner} {s : RequestSettings}

theorem stats_of_marked (reuse : Bool) (before : CacheStats) {bundles : List Bundle}
    (hne : bundles ≠ []) {runs : Nat}
    (hruns : (List.range bundles.length).countP (computes reuse bundles) = runs) :
    (allMoved none (marked reuse none bundles)).foldl CacheStats.bump before =
      { hits := before.hits + .ofNat (bundles.length - runs)
        misses := before.misses + 1
        rejections := before.rejections + .ofNat (runs - 1)
        computations := before.computations + .ofNat runs
        failures := before.failures } := by
  obtain ⟨desired, rest, rfl⟩ := List.exists_cons_of_ne_nil hne
  have hmarked : marked reuse none (desired :: rest) =
      (desired, true) :: marked reuse (some desired) rest := by
    simp [marked, isNew]
  obtain ⟨hhits, hmisses, hrejections, hcomputations, hfailures⟩ :=
    count_allMoved desired (marked reuse (some desired) rest)
  have hlength := length_marked reuse (some desired) rest
  have hall := countP_take_marked reuse (Nat.le_refl (desired :: rest).length)
  rw [hruns, ← length_marked reuse none, List.take_length, hmarked, List.countP_cons_of_pos rfl] at hall
  refine CacheStats.ext_get fun counter => ?_
  rw [CacheStats.get_foldl_bump, hmarked, allMoved, List.count_append]
  have hlen : (desired :: rest).length = rest.length + 1 := rfl
  cases counter with
  | hits =>
    have hcount : (allMoved (some desired) (marked reuse (some desired) rest)).count .hits =
        (desired :: rest).length - runs := by omega
    simp [moved, CacheStats.get, hcount]
  | misses => simp [moved, CacheStats.get, hmisses]
  | rejections =>
    have hcount : (allMoved (some desired) (marked reuse (some desired) rest)).count .rejections =
        runs - 1 := by omega
    simp [moved, CacheStats.get, hcount]
  | computations =>
    have hcount : (allMoved (some desired) (marked reuse (some desired) rest)).count .computations + 1 =
        runs := by omega
    simp [moved, CacheStats.get, ← hcount, Nat.add_comm]
  | failures => simp [moved, CacheStats.get, hfailures]

theorem Ready.execute (h : Ready config r) (watch : Stopwatch) (s : RequestSettings) :
    ∃ derived t, Bundle.derive (.plain s.first) (.plain s.second) = .ok derived ∧
      r.execute watch s = (.ok {
        plugin := r.core.descriptor
        derived
        requests := outcomes watch s.first s.second 1 r.core.cache.ledger.stats.computations
          (marked config.reuse none (s.bundles derived))
        stats := (allMoved none (marked config.reuse none (s.bundles derived))).foldl
          CacheStats.bump r.core.cache.ledger.stats }, t) ∧
      Ready config t := by
  obtain ⟨derived, hderived⟩ :
      ∃ derived, Bundle.derive (.plain s.first) (.plain s.second) = .ok derived := ⟨_, rfl⟩
  let first : Object Input := ⟨r.made + 1, r.made + 1, .plain s.first⟩
  let second : Object Input := ⟨r.made + 2, r.made + 2, .plain s.second⟩
  have hserving : Serving config first second s.first s.second none
      { r with made := r.made + 2 } := by
    refine ⟨⟨h.resting, h.config, h.buffer, fun pair k hk => ?_⟩, ?_, ?_⟩
    · exact Nat.le_add_right_of_le (h.known pair k hk)
    · exact Nat.le_succ _
    -- no connection is filed under inputs that were made just now
    · cases hk : r.core.cache.lookup (.of first second) with
      | none => exact hk
      | some k => exact absurd (h.known _ k hk) (Nat.not_succ_le_self r.made)
  obtain ⟨t, last, hrequests, hlast, hdescriptor, hstats⟩ :=
    hserving.requests rfl rfl watch 1 (s.bundles derived)
  have hplugin : t.plugin.descriptor = r.core.descriptor := hdescriptor
  have hcounted : t.plugin.cache.stats = _ := hstats
  refine ⟨derived, t, hderived, ?_, hlast.toReady⟩
  simp only [Runner.execute, freshInputs, hderived]
  rw [hrequests]
  simp only [Except.map, hplugin, hcounted]
  rfl

def fresh (config : CacheConfig) : Runner where
  plugin := {
    descriptor
    algorithm := Select.algorithm .zero
    cache := .ofConfig config }
  events := [Cache.opened Select.name config, Plugin.created {
    descriptor
    algorithm := Select.algorithm .zero
    cache := .ofConfig config }]

theorem ready_of_ofConfig? (hconfig : config.validate = .ok ()) :
    ∃ fresh, ofConfig? config = .ok fresh ∧ Ready config fresh := by
  have hcache : Cache.ofConfig? config = .ok (Cache.ofConfig config) := by
    simp only [Cache.ofConfig?, hconfig]
    rfl
  have hfresh : ofConfig? config = .ok (fresh config) := by
    simp only [ofConfig?, hcache]
    rfl
  refine ⟨_, hfresh, Cache.resting_ofConfig hconfig, rfl, rfl, fun pair k hk => ?_⟩
  cases hk

def after (earlier : List (Stopwatch × RequestSettings)) (r : Runner) : Runner :=
  earlier.foldl (fun r e => (r.execute e.1 e.2).2) r

theorem Ready.after (h : Ready config r) (earlier : List (Stopwatch × RequestSettings)) :
    Ready config (r.after earlier) := by
  induction earlier generalizing r with
  | nil => exact h
  | cons e earlier ih =>
    obtain ⟨derived, t, hderived, hexecute, hready⟩ := h.execute e.1 e.2
    have hrest := ih hready
    rw [Runner.after, List.foldl_cons, hexecute]
    exact hrest

theorem lt_add_one_iff {n : UInt64} : n < n + 1 ↔ n.toNat + 1 < UInt64.size := by
  have hone : (1 : UInt64).toNat = 1 := rfl
  have hlt : n.toNat < UInt64.size := n.toNat_lt_size
  rw [UInt64.lt_iff_toNat_lt, UInt64.toNat_add, hone]
  simp only [UInt64.size] at hlt ⊢
  omega

/-- How the report of some settings looks when the counters showed `before`. An outcome shows its run as
long as the counter of runs does not come to its end with it. -/
structure Describes (watch : Stopwatch) (reuse : Bool) (s : RequestSettings) (derived : Bundle)
    (before : CacheStats) (report : Report) : Prop where
  derived_eq : report.derived = derived
  applied : s.apply derived =
    { flag := s.flag.getD derived.flag
      count := s.count.getD derived.count
      label := s.label.getD derived.label
      base := if s.base.isEmpty then derived.base else .collect s.base }
  bundles : s.bundles derived = List.replicate s.times.toNat (s.apply derived) ++
    (s.thenFlag.map fun flag => { s.apply derived with flag }).toList
  length : report.requests.length = (s.bundles derived).length
  outcomes : ∀ i o b, report.requests[i]? = some o → (s.bundles derived)[i]? = some b →
    o.index = i + 1 ∧ o.parameters = b.render ∧ (o.origin = .first ↔ b.flag = true) ∧
    o.output = "derived from " ++ (if b.flag then s.first else s.second)
  diagnostics : ∀ i o b, report.requests[i]? = some o → (s.bundles derived)[i]? = some b →
    o.diagnostics = if computes reuse (s.bundles derived) i then
      ["selection started", "first input: " ++ s.first, "second input: " ++ s.second,
        "parameters: " ++ b.render,
        "output: " ++ ("derived from " ++ (if b.flag then s.first else s.second)),
        "elapsed: " ++ Select.seconds (watch.time (i + 1)).inSeconds ++ " s"] else []
  computed_iff : ∀ i o, report.requests[i]? = some o →
    (o.computed = true ↔ computes reuse (s.bundles derived) i = true ∧
      (before.computations + .ofNat ((List.range i).countP
        (computes reuse (s.bundles derived)))).toNat + 1 < UInt64.size)
  computed : before.computations.toNat + (s.bundles derived).length < UInt64.size →
    ∀ i o, report.requests[i]? = some o → o.computed = computes reuse (s.bundles derived) i
  stats : ∀ runs,
    (List.range (s.bundles derived).length).countP (computes reuse (s.bundles derived)) = runs →
    report.stats =
      { hits := before.hits + .ofNat ((s.bundles derived).length - runs)
        misses := before.misses + 1
        rejections := before.rejections + .ofNat (runs - 1)
        computations := before.computations + .ofNat runs
        failures := before.failures }

theorem apply_eq (s : RequestSettings) (derived : Bundle) : s.apply derived =
    { flag := s.flag.getD derived.flag
      count := s.count.getD derived.count
      label := s.label.getD derived.label
      base := if s.base.isEmpty then derived.base else .collect s.base } := by
  simp only [RequestSettings.apply, Bundle.override, RequestSettings.overrides]
  split <;> rfl

theorem bundles_eq (s : RequestSettings) (derived : Bundle) :
    s.bundles derived = List.replicate s.times.toNat (s.apply derived) ++
      (s.thenFlag.map fun flag => { s.apply derived with flag }).toList := rfl

theorem bundles_ne_nil (hvalid : s.validate = .ok ()) (derived : Bundle) :
    s.bundles derived ≠ [] := by
  have htimes : s.times ≠ 0 := by
    intro hzero
    simp [RequestSettings.validate, hzero] at hvalid
  have hpos : s.times.toNat ≠ 0 := fun hzero => htimes (UInt64.toNat_inj.mp hzero)
  simp [RequestSettings.bundles, hpos]

theorem exists_of_reported {reuse : Bool} {before : UInt64} {bundles : List Bundle} {a b : String}
    {i : Nat} {o : RequestOutcome}
    (h : (outcomes watch a b 1 before (marked reuse none bundles))[i]? = some o) :
    ∃ desired, bundles[i]? = some desired ∧
      outcome (watch.time (i + 1)) a b (i + 1) desired (computes reuse bundles i)
        (before + .ofNat ((List.range i).countP (computes reuse bundles))) = o := by
  rw [getElem?_outcomes, getElem?_marked, Option.map_map] at h
  obtain ⟨desired, hdesired, rfl⟩ := Option.map_eq_some_iff.mp h
  have hlt := (List.getElem?_eq_some_iff.mp hdesired).1
  refine ⟨desired, hdesired, ?_⟩
  simp [isNew_previous hdesired, countP_take_marked reuse (Nat.le_of_lt hlt), Nat.add_comm]

theorem computed_outcome {elapsed : Duration} {a b : String} {index : Nat} {desired : Bundle} {new : Bool}
    {before : UInt64} : (outcome elapsed a b index desired new before).computed = true ↔
      new = true ∧ before.toNat + 1 < UInt64.size := by
  cases new with
  | false => simp [outcome]
  | true => simp [outcome, lt_add_one_iff]

theorem origin_choose (flag : Bool) (a b : String) :
    (Select.choose flag a b).origin = .first ↔ flag = true := by
  cases flag <;> simp [Select.choose]

theorem toNat_add_ofNat_le (n : UInt64) (k : Nat) : (n + .ofNat k).toNat ≤ n.toNat + k := by
  rw [UInt64.toNat_add, UInt64.toNat_ofNat']
  have hk := Nat.mod_le k UInt64.size
  exact Nat.le_trans (Nat.mod_le _ _) (Nat.add_le_add_left hk _)

theorem describes_outcomes {reuse : Bool} {derived : Bundle} {before : CacheStats}
    {plugin : Descriptor} (hvalid : s.validate = .ok ()) :
    Describes watch reuse s derived before {
      plugin
      derived
      requests := outcomes watch s.first s.second 1 before.computations
        (marked reuse none (s.bundles derived))
      stats := (allMoved none (marked reuse none (s.bundles derived))).foldl
        CacheStats.bump before } := by
  have hcomputed : ∀ i o, (outcomes watch s.first s.second 1 before.computations
      (marked reuse none (s.bundles derived)))[i]? = some o →
        (o.computed = true ↔ computes reuse (s.bundles derived) i = true ∧
          (before.computations + .ofNat ((List.range i).countP
            (computes reuse (s.bundles derived)))).toNat + 1 < UInt64.size) := by
    intro i o ho
    obtain ⟨desired, _, rfl⟩ := exists_of_reported ho
    exact computed_outcome
  refine {
    derived_eq := rfl
    applied := apply_eq s derived
    bundles := bundles_eq s derived
    length := by rw [length_outcomes, length_marked]
    outcomes := ?_
    diagnostics := ?_
    computed_iff := hcomputed
    computed := ?_
    stats := fun _ => stats_of_marked reuse before (bundles_ne_nil hvalid derived) }
  · intro i o b ho hb
    obtain ⟨desired, hdesired, rfl⟩ := exists_of_reported ho
    obtain rfl := Option.some.inj (hdesired.symm.trans hb)
    exact ⟨rfl, rfl, origin_choose _ _ _, Select.render_choose _ _ _⟩
  · intro i o b ho hb
    obtain ⟨desired, hdesired, rfl⟩ := exists_of_reported ho
    obtain rfl := Option.some.inj (hdesired.symm.trans hb)
    rw [← Select.render_choose]
    rfl
  · intro hfew i o ho
    obtain ⟨desired, hdesired, _⟩ := exists_of_reported ho
    have hlt := (List.getElem?_eq_some_iff.mp hdesired).1
    have hcount : (List.range i).countP (computes reuse (s.bundles derived)) ≤ i := by
      simpa using List.countP_le_length (p := computes reuse (s.bundles derived)) (l := List.range i)
    have hsum := toNat_add_ofNat_le before.computations
      ((List.range i).countP (computes reuse (s.bundles derived)))
    have hend : (before.computations + .ofNat ((List.range i).countP
        (computes reuse (s.bundles derived)))).toNat + 1 < UInt64.size := by omega
    exact Bool.eq_iff_iff.mpr ((hcomputed i o ho).trans (and_iff_left hend))

theorem execute_reports (hconfig : config.validate = .ok ()) (hvalid : s.validate = .ok ())
    (watch : Stopwatch) (earlier : List (Stopwatch × RequestSettings)) :
    ∃ fresh derived report last, ofConfig? config = .ok fresh ∧
      Bundle.derive (.plain s.first) (.plain s.second) = .ok derived ∧
      (fresh.after earlier).execute watch s = (.ok report, last) ∧
      Describes watch config.reuse s derived (fresh.after earlier).plugin.cache.stats report := by
  obtain ⟨fresh, hfresh, hready⟩ := ready_of_ofConfig? hconfig
  obtain ⟨derived, last, hderived, hexecute, _⟩ := (hready.after earlier).execute watch s
  exact ⟨fresh, derived, _, last, hfresh, hderived, hexecute, describes_outcomes hvalid⟩

theorem Describes.map_eq {α : Type} {reuse : Bool} {derived : Bundle} {before : CacheStats}
    {report : Report} (h : Describes watch reuse s derived before report) {f : RequestOutcome → α}
    {g : Nat → Bundle → α} (hfg : ∀ i o b, report.requests[i]? = some o →
      (s.bundles derived)[i]? = some b → f o = g i b) :
    report.requests.map f = (s.bundles derived).mapIdx g := by
  refine List.ext_getElem? fun i => ?_
  rw [List.getElem?_map, List.getElem?_mapIdx]
  cases ho : report.requests[i]? with
  | none =>
    have hlength := List.getElem?_eq_none_iff.mp ho
    rw [h.length] at hlength
    simp [hlength]
  | some o =>
    have hlt := (List.getElem?_eq_some_iff.mp ho).1
    rw [h.length] at hlt
    have hb := List.getElem?_eq_getElem hlt
    rw [hb, Option.map_some, Option.map_some, hfg i o _ ho hb]

/-- Two equal requests on equal inputs, and a third with the other flag. -/
def twoAlike : RequestSettings := { first := "ab", second := "ab", thenFlag := some false }

/-- Each request takes a second more than the one before it, if it is run for. -/
def slowing : Stopwatch := ⟨fun index => ⟨index, 0⟩⟩

theorem execute_reports_twoAlike : ∃ fresh report last,
    ofConfig? {} = .ok fresh ∧
    (fresh.after [(.zero, { first := "x", second := "y" })]).execute slowing twoAlike =
      (.ok report, last) ∧
    report.requests.map (·.computed) = [true, false, true] ∧
    report.requests.map (·.diagnostics) =
      [["selection started", "first input: ab", "second input: ab", "parameters: (abab,0,true)",
          "output: derived from ab", "elapsed: 1.000000 s"],
        [],
        ["selection started", "first input: ab", "second input: ab", "parameters: (abab,0,false)",
          "output: derived from ab", "elapsed: 3.000000 s"]] := by
  obtain ⟨fresh, derived, report, last, hfresh, hderived, hexecute, hdescribes⟩ :=
    execute_reports CacheConfig.validate_default (s := twoAlike) rfl slowing
      [(.zero, { first := "x", second := "y" })]
  obtain rfl := Except.ok.inj hfresh
  obtain rfl := Except.ok.inj hderived
  refine ⟨_, report, last, rfl, hexecute, ?_, ?_⟩
  · rw [hdescribes.map_eq fun i o b ho _ => hdescribes.computed (by decide) i o ho]
    decide
  · rw [hdescribes.map_eq hdescribes.diagnostics]
    decide +kernel

end PairCache.Runner
