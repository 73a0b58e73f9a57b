import PairCache.Proofs.Bundle.Equality
import PairCache.Proofs.Cache.Decision

/-!
Requests on one pair with equal bundles share one run: its output is what everybody is answered with,
and nothing is started after it.
-/
namespace PairCache

section

variable {held : Option Connection} {output : Object Derived} {journal : List Deed}

namespace Deed

theorem countP_isDone_of_leads (h : ∀ deed ∈ journal, deed.Leads held) :
    journal.countP isDone = 0 := by
  refine List.countP_eq_zero.mpr fun deed hmem hdone => ?_
  cases deed with
  | done => exact h _ hmem
  | _ => cases hdone

theorem countP_isHit_of_leads (h : ∀ deed ∈ journal, deed.Leads held) :
    journal.countP isHit = 0 := by
  refine List.countP_eq_zero.mpr fun deed hmem hhit => ?_
  cases deed with
  | hit => exact h _ hmem
  | _ => cases hhit

theorem countP_isDone_of_follows (h : ∀ deed ∈ journal, deed.Follows output) :
    journal.countP isDone = 0 := by
  refine List.countP_eq_zero.mpr fun deed hmem hdone => ?_
  cases deed with
  | done => exact h _ hmem
  | _ => cases hdone

end Deed

/-- One run succeeds, after others that do not, and nothing is run after it. -/
def Lands (held : Option Connection) (journal : List Deed) : Prop :=
  ∃ before output after, journal = before ++ .done output :: after ∧
    (∀ deed ∈ before, deed.Leads held) ∧ ∀ deed ∈ after, deed.Follows output

theorem Lands.countP_isDone (h : Lands held journal) : journal.countP Deed.isDone = 1 := by
  obtain ⟨before, output, after, rfl, hbefore, hafter⟩ := h
  rw [List.countP_append, List.countP_cons_of_pos rfl, Deed.countP_isDone_of_leads hbefore,
    Deed.countP_isDone_of_follows hafter]

theorem Lands.last (h : Lands held journal) {before after : List Deed}
    (heq : journal = before ++ .done output :: after) : .launched ∉ after := by
  obtain ⟨lead, landed, follow, rfl, hlead, hfollow⟩ := h
  intro hmem
  rcases List.append_eq_append_iff.mp heq with ⟨between, hbetween, hrest⟩ | ⟨between, hbetween, hrest⟩
  · cases between with
    | nil =>
      obtain ⟨_, rfl⟩ := List.cons.inj hrest
      exact hfollow _ hmem
    | cons deed between =>
      obtain ⟨_, rfl⟩ := List.cons.inj hrest
      exact hfollow (.done output) (by simp)
  · cases between with
    | nil =>
      obtain ⟨_, rfl⟩ := List.cons.inj hrest
      exact hfollow _ hmem
    | cons deed between =>
      obtain ⟨rfl, _⟩ := List.cons.inj hrest
      exact hlead (.done output) (by simp [hbetween])

theorem Lands.shared (h : Lands held journal)
    (hmem : .returned (.answered (.served output)) ∈ journal) : .done output ∈ journal := by
  obtain ⟨before, landed, after, rfl, hbefore, hafter⟩ := h
  rcases List.mem_append.mp hmem with hmem | hmem
  · exact (hbefore _ hmem).elim
  rcases List.mem_cons.mp hmem with heq | hmem
  · cases heq
  · obtain rfl : output = landed := hafter _ hmem
    simp

theorem Lands.count_rejected (h : Lands none journal) : journal.count .rejected = 0 := by
  obtain ⟨before, landed, after, rfl, hbefore, hafter⟩ := h
  refine List.count_eq_zero.mpr fun hmem => ?_
  rcases List.mem_append.mp hmem with hmem | hmem
  · exact hbefore _ hmem rfl
  rcases List.mem_cons.mp hmem with heq | hmem
  · cases heq
  · exact hafter _ hmem

end

namespace Cache

variable {c d : Cache} {history steps : List Step} {config : CacheConfig} {pair : Pair}
  {bundles : List Bundle} {held : Option Connection} {k : Connection}

theorem Decided.journal (h : c.Decided pair bundles k) (hj : ∀ s ∈ steps, s.Joins pair bundles)
    (hrun : c.run? steps = some d) : ∀ deed ∈ c.journal pair.on steps, deed.Follows k.output := by
  induction steps generalizing c with
  | nil => simp [journal]
  | cons s steps ih =>
    obtain ⟨e, he, hrun⟩ := run?_cons.mp hrun
    obtain ⟨hnext, hdeed⟩ := h.takes (hj s List.mem_cons_self) (takes_of_step? he)
    intro deed hmem
    rw [journal_cons he] at hmem
    rcases List.mem_append.mp hmem with hmem | hmem
    · exact hdeed deed (Option.mem_toList.mp hmem)
    · exact ih hnext (fun s hs => hj s (List.mem_cons_of_mem _ hs)) hrun deed hmem

theorem Undecided.journal (h : c.Undecided pair bundles held) (halike : Alike bundles)
    (hj : ∀ s ∈ steps, s.Joins pair bundles) (hrun : c.run? steps = some d) :
    (∀ deed ∈ c.journal pair.on steps, deed.Leads held) ∨ Lands held (c.journal pair.on steps) := by
  induction steps generalizing c with
  | nil => exact .inl (by simp [Cache.journal])
  | cons s steps ih =>
    obtain ⟨e, he, hrun⟩ := run?_cons.mp hrun
    have hrest : ∀ s ∈ steps, s.Joins pair bundles := fun s hs => hj s (List.mem_cons_of_mem _ hs)
    rw [journal_cons he]
    rcases h.takes halike (hj s List.mem_cons_self) (takes_of_step? he) with
      ⟨hnext, hdeed⟩ | ⟨k, hnext, hdeed⟩
    · have hhead : ∀ deed ∈ (c.deed? pair.on s).toList, deed.Leads held :=
        fun deed hmem => hdeed deed (Option.mem_toList.mp hmem)
      rcases ih hnext hrest hrun with hleads | ⟨before, output, after, heq, hbefore, hafter⟩
      · refine .inl fun deed hmem => ?_
        exact (List.mem_append.mp hmem).elim (hhead deed) (hleads deed)
      · refine .inr ⟨(c.deed? pair.on s).toList ++ before, output, after, by simp [heq], ?_, hafter⟩
        intro deed hmem
        exact (List.mem_append.mp hmem).elim (hhead deed) (hbefore deed)
    · exact .inr ⟨[], k.output, e.journal pair.on steps, by rw [hdeed]; rfl,
        fun deed hmem => absurd hmem List.not_mem_nil, hnext.journal hrest hrun⟩

theorem countAt_eq_zero {calls : Table CallId Call}
    (h : ∀ id call, calls.get? id = some call → call.pair ≠ pair) (phase : Phase) :
    countAt pair.on phase calls = 0 := by
  refine List.countP_eq_zero.mpr fun call hmem => ?_
  obtain ⟨id, hid⟩ := Table.mem_values.mp hmem
  simp [Pair.on, h id call hid]

theorem journal_balanced (hrun : c.run? steps = some d)
    (hc : ∀ id call, c.calls.get? id = some call → call.pair ≠ pair)
    (hd : ∀ id call, d.calls.get? id = some call → call.pair ≠ pair) (phase : Phase) :
    (c.journal pair.on steps).countP (Deed.comesTo phase) =
      (c.journal pair.on steps).countP (Deed.comesFrom phase) := by
  have h := journal_flow hrun pair.on phase
  rwa [countAt_eq_zero hc, countAt_eq_zero hd, Nat.zero_add, Nat.add_zero] at h

structure SingleFlight (pair : Pair) (bundles : List Bundle) (c d : Cache) (journal : List Deed) :
    Prop where
  once : journal.countP Deed.isDone ≤ 1
  last : ∀ before output after, journal = before ++ .done output :: after → .launched ∉ after
  shared : ∀ output, .returned (.answered (.served output)) ∈ journal → .done output ∈ journal ∨
    ∃ k, c.lookup pair = some k ∧ (∀ desired ∈ bundles, k.accepts desired = true) ∧
      output = k.output
  kept : ∀ k, c.lookup pair = some k → (∀ desired ∈ bundles, k.accepts desired = true) →
    .launched ∉ journal ∧ ∀ output, .returned (.answered (.served output)) ∈ journal → output = k.output
  counts : c.lookup pair = none → .began ∈ journal →
    (∀ ending, .returned ending ∈ journal → ∃ output, ending = .answered (.served output)) →
    (∀ id call, d.calls.get? id = some call → call.pair ≠ pair) →
    journal.count .launched = 1 ∧ journal.count .missed = 1 ∧
      journal.countP Deed.isHit + 1 = journal.count .began

theorem Decided.singleFlight (h : c.Decided pair bundles k) (hk : c.lookup pair = some k)
    (hj : ∀ s ∈ steps, s.Joins pair bundles) (hrun : c.run? steps = some d) :
    SingleFlight pair bundles c d (c.journal pair.on steps) := by
  have hfollows := h.journal hj hrun
  refine ⟨?_, ?_, ?_, ?_, ?_⟩
  · rw [Deed.countP_isDone_of_follows hfollows]
    exact Nat.zero_le 1
  · intro before output after heq
    exact (hfollows (.done output) (by simp [heq])).elim
  · intro output hmem
    exact .inr ⟨k, hk, h.accepts, hfollows _ hmem⟩
  · intro other hother _
    obtain rfl := Option.some.inj (hk.symm.trans hother)
    exact ⟨fun hmem => hfollows _ hmem, fun output hmem => hfollows _ hmem⟩
  · intro hnone
    cases hk.symm.trans hnone

theorem Undecided.singleFlight (h : c.Undecided pair bundles (c.lookup pair)) (halike : Alike bundles)
    (hkept : ∀ k, c.lookup pair = some k → ∃ desired ∈ bundles, k.accepts desired = false)
    (hc : ∀ id call, c.calls.get? id = some call → call.pair ≠ pair)
    (hj : ∀ s ∈ steps, s.Joins pair bundles) (hrun : c.run? steps = some d) :
    SingleFlight pair bundles c d (c.journal pair.on steps) := by
  have hjournal := h.journal halike hj hrun
  refine ⟨?_, ?_, ?_, ?_, ?_⟩
  · rcases hjournal with hleads | hlands
    · rw [Deed.countP_isDone_of_leads hleads]
      exact Nat.zero_le 1
    · exact Nat.le_of_eq hlands.countP_isDone
  · intro before output after heq
    rcases hjournal with hleads | hlands
    · exact (hleads (.done output) (by simp [heq])).elim
    · exact hlands.last heq
  · intro output hmem
    rcases hjournal with hleads | hlands
    · exact (hleads _ hmem).elim
    · exact .inl (hlands.shared hmem)
  · intro k hk haccepts
    obtain ⟨desired, hdesired, hrefuses⟩ := hkept k hk
    rw [haccepts desired hdesired] at hrefuses
    cases hrefuses
  · intro hnone hbegan hserved hd
    obtain ⟨hasked, hlaunched, hdone⟩ :=
      Deed.counts_of_balance (journal_balanced hrun hc hd) hserved
    have hpos := List.count_pos_iff.mpr hbegan
    rw [hnone] at hjournal
    rcases hjournal with hleads | hlands
    · have hdones := Deed.countP_isDone_of_leads hleads
      have hhits := Deed.countP_isHit_of_leads hleads
      omega
    · have hdones := hlands.countP_isDone
      have hrejected := hlands.count_rejected
      omega

theorem flight_of_idle (h : (ofConfig config).run? history = some c) (hreuse : config.reuse = true)
    (hidle : ∀ id call, c.calls.get? id = some call → call.pair ≠ pair) :
    c.Flight pair bundles where
  locked := locked_of_run? h
  filed := filed_of_run? h
  reuse := by
    rw [config_of_run? h]
    exact hreuse
  asks id call hid hpair := absurd hpair (hidle id call hid)

theorem alike_of_pairwise (h : bundles.Pairwise fun p q => p.same q = true) : Alike bundles := by
  intro p hp q hq
  exact List.Pairwise.forall_of_forall_of_flip (fun b _ => b.same_refl) h
    (h.imp fun hsame => Bundle.same_symm hsame) hp hq

theorem refuses_of_refuses (halike : Alike bundles) {desired other : Bundle}
    (hdesired : desired ∈ bundles) (hother : other ∈ bundles) (h : k.accepts desired = false) :
    k.accepts other = false := by
  cases haccepts : k.accepts other with
  | false => rfl
  | true =>
    have hsame : k.accepts desired = true :=
      Bundle.same_trans haccepts (halike other hother desired hdesired)
    rw [h] at hsame
    cases hsame

theorem single_flight (h : (ofConfig config).run? history = some c) (hreuse : config.reuse = true)
    (hidle : ∀ id call, c.calls.get? id = some call → call.pair ≠ pair)
    (hequal : bundles.Pairwise fun p q => p.same q = true)
    (hj : ∀ s ∈ steps, s.Joins pair bundles) (hrun : c.run? steps = some d) :
    SingleFlight pair bundles c d (c.journal pair.on steps) := by
  have halike := alike_of_pairwise hequal
  have hflight : c.Flight pair bundles := flight_of_idle h hreuse hidle
  by_cases hkept : ∃ k, c.lookup pair = some k ∧ ∀ desired ∈ bundles, k.accepts desired = true
  · obtain ⟨k, hk, haccepts⟩ := hkept
    have hdecided : c.Decided pair bundles k := ⟨hflight, haccepts,
      fun id call hid hpair => absurd hpair (hidle id call hid),
      fun id call hid hpair => absurd hpair (hidle id call hid), .inl hk⟩
    exact hdecided.singleFlight hk hj hrun
  · have hrefuses : ∀ k, c.lookup pair = some k → ∃ desired ∈ bundles, k.accepts desired = false := by
      intro k hk
      have hnot : ¬∀ desired ∈ bundles, k.accepts desired = true := fun hall => hkept ⟨k, hk, hall⟩
      simpa using hnot
    have hundecided : c.Undecided pair bundles (c.lookup pair) := by
      refine ⟨hflight, rfl, fun k hk other hother => ?_,
        fun id call hid hpair => absurd hpair (hidle id call hid)⟩
      obtain ⟨desired, hdesired, hrefuse⟩ := hrefuses k hk
      exact refuses_of_refuses halike hdesired hother hrefuse
    exact hundecided.singleFlight halike hrefuses hidle hj hrun

/-- Three equal requests at once, beside an invalidation of the swapped pair. -/
def crowded : List Step :=
  let a : Object Input := ⟨1, 1, .plain "a"⟩
  let b : Object Input := ⟨2, 2, .plain "b"⟩
  [.start 1 a b (.request {}), .start 2 a b (.request {}), .start 3 b a .invalidate,
    .start 4 a b (.request {}), .resolve 1, .resolve 3, .launch 1,
    .finish 1 (.done ⟨.second, "b"⟩), .leave 3, .store 1, .resolve 2, .leave 2, .leave 1,
    .resolve 4, .leave 4]

theorem single_flight_crowded : ∃ d, (ofConfig {}).run? crowded = some d ∧
    SingleFlight ⟨1, 2⟩ [{}] (ofConfig {}) d ((ofConfig {}).journal (Pair.on ⟨1, 2⟩) crowded) ∧
    ((ofConfig {}).journal (Pair.on ⟨1, 2⟩) crowded).count .began = 3 ∧
    ((ofConfig {}).journal (Pair.on ⟨1, 2⟩) crowded).countP Deed.isDone = 1 := by
  obtain ⟨d, hrun⟩ : ∃ d, (ofConfig {}).run? crowded = some d := ⟨_, rfl⟩
  refine ⟨d, hrun, ?_, by decide, by decide⟩
  refine single_flight (run?_nil (ofConfig {})) rfl (fun id call hid => by cases hid)
    (List.pairwise_singleton _ _) ?_ hrun
  simp [crowded, Step.Joins, Pair.of]

end Cache

end PairCache
