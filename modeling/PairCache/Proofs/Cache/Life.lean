import PairCache.Proofs.Cache.Places

/-!
One request among the others. `Cache.life` picks the moments out of a run at which the request itself
takes a step, `Turn` lists what it can do at one of them, and `Lives` strings its turns together.
-/
namespace PairCache

def Step.caller? : Step → Option CallId
  | .start id .. | .resolve id | .launch id | .finish id _ | .store id | .leave id | .cancel id =>
    some id
  | .clear => none

structure Moment where
  before : Cache
  step : Step
  after : Cache

structure Moment.Quiet (m : Moment) : Prop where
  store : m.after.store = m.before.store
  stats : m.after.stats = m.before.stats

namespace Cache

variable {c d : Cache} {s : Step} {steps : List Step} {id : CallId} {call last : Call}
  {desired : Bundle} {stage : Stage} {m : Moment} {moments : List Moment} {ending : Ending}

def life (id : CallId) (c : Cache) : List Step → List Moment
  | [] => []
  | s :: steps =>
    match c.step? s with
    | some d => (if s.caller? = some id then [⟨c, s, d⟩] else []) ++ d.life id steps
    | none => []

theorem life_own (h : c.step? s = some d) (hown : s.caller? = some id) :
    c.life id (s :: steps) = ⟨c, s, d⟩ :: d.life id steps := by
  simp only [life, h, hown, if_true, List.singleton_append]

theorem life_other (h : c.step? s = some d) (hother : s.caller? ≠ some id) :
    c.life id (s :: steps) = d.life id steps := by
  simp only [life, h, hother, if_false, List.nil_append]

theorem life_append {more : List Step} (h : c.run? steps = some d) :
    c.life id (steps ++ more) = c.life id steps ++ d.life id more := by
  induction steps generalizing c with
  | nil =>
    obtain rfl := Option.some.inj h
    rfl
  | cons s steps ih =>
    obtain ⟨e, he, h⟩ := run?_cons.mp h
    simp only [List.cons_append, life, he, ih h, List.append_assoc]

theorem Takes.get?_of_other (hs : c.Takes s d) (hother : s.caller? ≠ some id) :
    d.calls.get? id = c.calls.get? id := by
  have hne : ∀ {j : CallId}, some j ≠ some id → id ≠ j := fun hj heq => hj (congrArg some heq.symm)
  cases hs with
  | leave => exact Table.get?_erase_of_ne (hne hother)
  | clear => rfl
  | _ => exact Table.get?_insert_of_ne (hne hother)

inductive Turn (id : CallId) (call : Call) (desired : Bundle) (c d : Cache) : Step → Stage → Prop
  | hits {output} (hfrom : call.stage = .locking) (hstore : d.store = c.store) :
      Turn id call desired c d (.resolve id) (.leaving (.answered (.served output)))
  | asks (hfrom : call.stage = .locking) (hstore : d.store = c.store) :
      Turn id call desired c d (.resolve id) .permitting
  | launches (hfrom : call.stage = .permitting) (hstore : d.store = c.store) :
      Turn id call desired c d (.launch id) .running
  | done {output} (hfrom : call.stage = .running) (hstore : d.store = c.store) :
      Turn id call desired c d (.finish id (.done output))
        (.storing (c.connect call desired output))
  | fails {failure} (hfrom : call.stage = .running) (hstore : d.store = c.store) :
      Turn id call desired c d (.finish id (.failed failure))
        (.leaving (.answered (.failed failure)))
  | panics (hfrom : call.stage = .running) (hstore : d.store = c.store) :
      Turn id call desired c d (.finish id .panicked) (.leaving (.answered .panicked))
  | stores {k} (hfrom : call.stage = .storing k) (hstore : d.store = c.store.put k) :
      Turn id call desired c d (.store id) (.leaving (.answered (.served k.output)))
  | quitsLock (hfrom : call.stage = .locking) (hstore : d.store = c.store)
      (hstats : d.stats = c.stats) : Turn id call desired c d (.cancel id) (.leaving .cancelled)
  | quitsPermit (hfrom : call.stage = .permitting) (hstore : d.store = c.store) :
      Turn id call desired c d (.cancel id) (.leaving .cancelled)

theorem Takes.turn (hs : c.Takes s d) (hid : c.calls.get? id = some call)
    (hop : call.operation = .request desired) (hown : s.caller? = some id) (hstay : s ≠ .leave id) :
    ∃ stage, d.calls.get? id = some (call.moved stage) ∧ Turn id call desired c d s stage := by
  have hsame : ∀ {j other}, c.calls.get? j = some other → some j = some id → j = id ∧ other = call := by
    intro j other hj heq
    obtain rfl := Option.some.inj heq
    exact ⟨rfl, Option.some.inj (hj.symm.trans hid)⟩
  have hmoved : ∀ stage, (c.calls.insert id (call.moved stage)).get? id = some (call.moved stage) :=
    fun stage => by simp
  cases hs with
  | start hnone =>
    obtain rfl := Option.some.inj hown
    cases hnone.symm.trans hid
  | remove hj hstage hask =>
    obtain ⟨rfl, rfl⟩ := hsame hj hown
    cases hop.symm.trans hask
  | hit hj hstage =>
    obtain ⟨rfl, rfl⟩ := hsame hj hown
    exact ⟨_, hmoved _, .hits hstage rfl⟩
  | reject hj hstage =>
    obtain ⟨rfl, rfl⟩ := hsame hj hown
    exact ⟨_, hmoved _, .asks hstage rfl⟩
  | miss hj hstage =>
    obtain ⟨rfl, rfl⟩ := hsame hj hown
    exact ⟨_, hmoved _, .asks hstage rfl⟩
  | launch hj hstage =>
    obtain ⟨rfl, rfl⟩ := hsame hj hown
    exact ⟨_, hmoved _, .launches hstage rfl⟩
  | done hj hstage hask =>
    obtain ⟨rfl, rfl⟩ := hsame hj hown
    obtain rfl := Operation.request.inj (hop.symm.trans hask)
    exact ⟨_, hmoved _, .done hstage rfl⟩
  | fail hj hstage =>
    obtain ⟨rfl, rfl⟩ := hsame hj hown
    exact ⟨_, hmoved _, .fails hstage rfl⟩
  | panic hj hstage =>
    obtain ⟨rfl, rfl⟩ := hsame hj hown
    exact ⟨_, hmoved _, .panics hstage rfl⟩
  | store hj hstage =>
    obtain ⟨rfl, rfl⟩ := hsame hj hown
    exact ⟨_, hmoved _, .stores hstage rfl⟩
  | leave hj =>
    obtain ⟨rfl, rfl⟩ := hsame hj hown
    exact absurd rfl hstay
  | quitLock hj hstage =>
    obtain ⟨rfl, rfl⟩ := hsame hj hown
    exact ⟨_, hmoved _, .quitsLock hstage rfl rfl⟩
  | quitPermit hj hstage =>
    obtain ⟨rfl, rfl⟩ := hsame hj hown
    exact ⟨_, hmoved _, .quitsPermit hstage rfl⟩
  | clear => cases hown

theorem Turn.not_leaving (h : Turn id call desired c d s stage) : call.stage ≠ .leaving ending := by
  intro hleaving
  cases h <;> cases hleaving.symm.trans ‹call.stage = _›

theorem Turn.not_locking (h : Turn id call desired c d s stage) : stage ≠ .locking := by
  cases h <;> exact Stage.noConfusion

theorem Turn.store_eq (h : Turn id call desired c d s stage) : d.store = c.store ∨
    ∃ k, call.stage = .storing k ∧ s = .store id ∧
      stage = .leaving (.answered (.served k.output)) ∧ d.store = c.store.put k := by
  cases h with
  | stores hfrom hstore => exact .inr ⟨_, hfrom, rfl, rfl, hstore⟩
  | _ => exact .inl ‹_›

inductive Lives (id : CallId) (desired : Bundle) : Call → List Moment → Call → Prop
  | rests (call : Call) : Lives id desired call [] call
  | acts {call last : Call} {stage : Stage} {m : Moment} {moments : List Moment}
      (hbefore : m.before.calls.get? id = some call)
      (hafter : m.after.calls.get? id = some (call.moved stage))
      (hturn : Turn id call desired m.before m.after m.step stage)
      (hrest : Lives id desired (call.moved stage) moments last) :
      Lives id desired call (m :: moments) last

theorem lives_of_run? (hid : c.calls.get? id = some call) (hop : call.operation = .request desired)
    (hrun : c.run? steps = some d) (hstay : .leave id ∉ steps) :
    ∃ last, d.calls.get? id = some last ∧ Lives id desired call (c.life id steps) last := by
  induction steps generalizing c call with
  | nil =>
    obtain rfl := Option.some.inj hrun
    exact ⟨call, hid, .rests call⟩
  | cons s steps ih =>
    obtain ⟨e, he, hrun⟩ := run?_cons.mp hrun
    have hs := takes_of_step? he
    have hrest : .leave id ∉ steps := fun hmem => hstay (List.mem_cons_of_mem _ hmem)
    by_cases hown : s.caller? = some id
    · have hhead : s ≠ .leave id := fun heq => hstay (List.mem_cons.mpr (.inl heq.symm))
      obtain ⟨stage, hafter, hturn⟩ := hs.turn hid hop hown hhead
      obtain ⟨last, hlast, hlives⟩ := ih hafter hop hrun hrest
      rw [life_own he hown]
      exact ⟨last, hlast, .acts hid hafter hturn hlives⟩
    · rw [life_other he hown]
      exact ih ((hs.get?_of_other hown).trans hid) hop hrun hrest

theorem Lives.of_leaving (h : Lives id desired call moments last)
    (hleaving : call.stage = .leaving ending) : moments = [] ∧ last = call := by
  cases h with
  | rests => exact ⟨rfl, rfl⟩
  | acts hbefore hafter hturn hrest => exact absurd hleaving hturn.not_leaving

theorem Lives.keeps_store (h : Lives id desired call moments last)
    (hending : last.stage = .leaving ending) (hne : ∀ output, ending ≠ .answered (.served output)) :
    ∀ m ∈ moments, m.after.store = m.before.store := by
  induction h with
  | rests => simp
  | acts hbefore hafter hturn hrest ih =>
    rcases hturn.store_eq with hstore | ⟨k, _, _, rfl, _⟩
    · exact List.forall_mem_cons.mpr ⟨hstore, ih hending⟩
    · obtain ⟨rfl, rfl⟩ := hrest.of_leaving rfl
      exact absurd (Stage.leaving.inj hending).symm (hne k.output)

theorem Lives.past_lock (h : Lives id desired call moments last) (hpast : call.stage ≠ .locking) :
    ∀ m ∈ moments, m.before.stage? id ≠ some .locking := by
  induction h with
  | rests => simp
  | @acts call last stage m moments hbefore hafter hturn hrest ih =>
    refine List.forall_mem_cons.mpr ⟨?_, ih hturn.not_locking⟩
    rw [stage?, hbefore]
    exact fun heq => hpast (Option.some.inj heq)

theorem Lives.keeps_stats (h : Lives id desired call moments last) (hm : m ∈ moments)
    (hquit : m.step = .cancel id) (hlocking : m.before.stage? id = some .locking) :
    ∀ x ∈ moments, x.after.stats = x.before.stats := by
  cases h with
  | rests => simp
  | acts hbefore hafter hturn hrest =>
    rcases List.mem_cons.mp hm with rfl | hm
    · rw [stage?, hbefore] at hlocking
      have hstage : call.stage = .locking := Option.some.inj hlocking
      rw [hquit] at hturn
      cases hturn with
      | quitsLock hfrom hstore hstats =>
        obtain ⟨rfl, -⟩ := hrest.of_leaving rfl
        simpa using hstats
      | quitsPermit hfrom => cases hfrom.symm.trans hstage
    · exact absurd hlocking (hrest.past_lock hturn.not_locking m hm)

theorem Lives.of_storing {k : Connection} (h : Lives id desired call moments last)
    (hstage : call.stage = .storing k) (hending : last.stage = .leaving ending) :
    ∃ put, moments = [put] ∧ put.step = .store id ∧ put.after.store = put.before.store.put k ∧
      ending = .answered (.served k.output) := by
  cases h with
  | rests => cases hstage.symm.trans hending
  | @acts _ _ stage put rest hbefore hafter hturn hrest =>
    obtain ⟨before, s, after⟩ := put
    cases hturn with
    | stores hfrom hstore =>
      obtain rfl := Stage.storing.inj (hfrom.symm.trans hstage)
      obtain ⟨rfl, rfl⟩ := hrest.of_leaving rfl
      exact ⟨_, rfl, rfl, hstore, (Stage.leaving.inj hending).symm⟩
    | _ => cases hstage.symm.trans ‹call.stage = _›

theorem Lives.puts {output : Derived} (h : Lives id desired call moments last)
    (hending : last.stage = .leaving ending) (hm : m ∈ moments)
    (hdone : m.step = .finish id (.done output)) :
    ∃ early put, moments = early ++ [m, put] ∧
      (∀ x ∈ early ++ [m], x.after.store = x.before.store) ∧
      m.after.stage? id = some (.storing (m.before.connect call desired output)) ∧
      put.step = .store id ∧
      put.after.store = put.before.store.put (m.before.connect call desired output) ∧
      ending = .answered (.served (m.before.connect call desired output).output) := by
  induction h with
  | rests => simp at hm
  | @acts call last stage x moments hbefore hafter hturn hrest ih =>
    rcases List.mem_cons.mp hm with rfl | hm
    · obtain ⟨before, s, after⟩ := m
      obtain rfl : s = .finish id (.done output) := hdone
      cases hturn with
      | done hfrom hstore =>
        obtain ⟨put, rfl, hput, hputs, hserved⟩ := hrest.of_storing rfl hending
        refine ⟨[], put, rfl, ?_, ?_, hput, hputs, hserved⟩
        · simpa using hstore
        · rw [stage?, hafter]
          rfl
    · obtain ⟨early, put, rfl, hearly, hstage, hput, hputs, hserved⟩ := ih hending hm
      refine ⟨x :: early, put, rfl, ?_, hstage, hput, hputs, hserved⟩
      rcases hturn.store_eq with hstore | ⟨k, _, _, rfl, _⟩
      · exact List.forall_mem_cons.mpr ⟨hstore, hearly⟩
      -- whoever has stored only leaves, and `m` would come after that
      · cases (hrest.of_leaving rfl).1 ▸ hm

end Cache

end PairCache
