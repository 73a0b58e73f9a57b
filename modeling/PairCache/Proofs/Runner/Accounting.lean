import PairCache.Proofs.Runner.Reordering
import PairCache.Proofs.Select

/-!
What the uses of a plugin leave in its buffer, where they run the algorithm through the cache or past it,
invalidate or clear, and look at or take the lines in between (`uses_accounted`): one block of lines for
each run, and nothing for anything else.
-/
namespace PairCache

structure Performance where
  first : Input
  second : Input
  desired : Bundle
  elapsed : Duration

namespace Performance

def run (p : Performance) : Run := Select.run p.elapsed p.first p.second p.desired

/-- The number of lines tells whether a run came to its end or which input had no form. -/
def Measured (p : Performance) : Prop :=
  (∃ output, p.run.outcome = .done output ∧ p.run.lines.length = 6) ∨
  (∃ reason, p.run.outcome = .failed (.malformedInput .first reason) ∧ p.run.lines.length = 1) ∨
  ∃ reason, p.run.outcome = .failed (.malformedInput .second reason) ∧ p.run.lines.length = 2

theorem measured (p : Performance) : p.Measured := by
  rw [Measured, run]
  rcases Bundle.form_cases p.first p.second with ⟨reason, h⟩ | ⟨a, reason, ha, hb⟩ | ⟨a, b, ha, hb⟩
  · rw [Select.run_of_first_formless h]
    exact .inr (.inl ⟨reason, rfl, rfl⟩)
  · rw [Select.run_of_second_formless ha hb]
    exact .inr (.inr ⟨reason, rfl, rfl⟩)
  · rw [Select.run_of_forms ha hb]
    exact .inl ⟨_, rfl, rfl⟩

end Performance

namespace Runner

inductive Use where
  | connect (first second : Object Input) (desired : Bundle)
  | run (first second : Input) (desired : Bundle)
  | invalidate (first second : Object Input)
  | clear
  | lines
  | take

inductive Response where
  | ended (ending : Ending)
  | ran (outcome : Outcome)
  | cleared
  | lines (lines : List String)
  | taken (lines : List String)

structure Turn where
  use : Use
  elapsed : Duration := .zero

/-- A turn that was taken: what the pair that it was about kept before, and the response. -/
structure Entry where
  turn : Turn
  found : Option Shown
  response : Response

def Use.pair? : Use → Option Pair
  | .connect first second _ | .invalidate first second => some (.of first second)
  | .run .. | .clear | .lines | .take => none

def Use.isRun : Use → Bool
  | .run .. => true
  | _ => false

def Response.outcome? : Response → Option Outcome
  | .ended ending =>
    match ending.told? with
    | some (.ended outcome) => some outcome
    | _ => none
  | .ran outcome => some outcome
  | _ => none

namespace Entry

/-- The run that was made. A request makes none if the connection of its pair is stored and accepts it. -/
def run? (reuse : Bool) (e : Entry) : Option Performance :=
  match e.turn.use with
  | .connect first second desired =>
    if e.found.any fun k => reuse && k.parameters.same desired then none
    else some ⟨first.value, second.value, desired, e.turn.elapsed⟩
  | .run first second desired => some ⟨first, second, desired, e.turn.elapsed⟩
  | _ => none

def taken (e : Entry) : List String :=
  match e.response with
  | .taken lines => lines
  | _ => []

/-- The response tells what the run came to, or else what the stored connection has. -/
def Answers (reuse : Bool) (e : Entry) : Prop :=
  match e.run? reuse, e.turn.use with
  | some p, _ => e.response.outcome? = some p.run.outcome
  | none, .connect .. => ∃ k, e.found = some k ∧ e.response.outcome? = some (.done k.output)
  | none, _ => True

variable {reuse : Bool} {first second : Object Input} {desired : Bundle} {elapsed : Duration}
  {found : Option Shown} {response : Response}

theorem run?_of_accepts {k : Shown} (h : (reuse && k.parameters.same desired) = true) :
    run? reuse ⟨⟨.connect first second desired, elapsed⟩, some k, response⟩ = none := by
  simp only [run?, Option.any_some, h, if_true]

theorem run?_of_refuses (h : ∀ k, found = some k → (reuse && k.parameters.same desired) = false) :
    run? reuse ⟨⟨.connect first second desired, elapsed⟩, found, response⟩ =
      some ⟨first.value, second.value, desired, elapsed⟩ := by
  cases found with
  | none => rfl
  | some k => simp only [run?, Option.any_some, h k rfl, Bool.false_eq_true, if_false]

end Entry

def use (u : Use) (r : Runner) : Response × Runner :=
  match u with
  | .connect first second desired =>
    let (ending, t) := r.connect first second desired
    (.ended ending, t)
  | .run first second desired =>
    let (outcome, t) := r.perform first second desired
    (.ran outcome, t)
  | .invalidate first second =>
    let (ending, t) := r.call first second .invalidate
    (.ended ending, t)
  | .clear => (.cleared, r.step .clear)
  | .lines => (.lines r.buffer.lines, r)
  | .take =>
    let (lines, t) := r.take
    (.taken lines, t)

def entry (turn : Turn) (response : Response) (r : Runner) : Entry :=
  ⟨turn, turn.use.pair?.bind r.kept, response⟩

def uses : List Turn → Runner → List Entry × Runner
  | [], r => ([], r)
  | turn :: turns, r =>
    let (response, t) := (r.timed turn.elapsed).use turn.use
    let (log, last) := t.uses turns
    (r.entry turn response :: log, last)

variable {r s t : Runner} {first second : Object Input} {desired : Bundle} {k : Connection}
  {config : CacheConfig} {runs more : List Performance} {directs others : Nat}
  {taken later : List String}

/-- What is reported, taken and counted on the way from `r` to `t`, on which these runs are made, as many
as `directs` of them past the cache. -/
structure Accounts (r : Runner) (runs : List Performance) (directs : Nat) (taken : List String)
    (t : Runner) : Prop where
  resting : t.core.cache.Resting
  config : t.core.cache.config = r.core.cache.config
  lines : taken ++ t.core.buffer.lines = r.core.buffer.lines ++ runs.flatMap fun p => p.run.lines
  computations : ∃ computed, runs.length = computed + directs ∧
    t.core.cache.stats.computations = r.core.cache.stats.computations + .ofNat computed

theorem Accounts.of_core {cache : Cache} {buffer : Buffer} {algorithm : Algorithm} {computed : Nat}
    (hcore : t.core = { r.core with algorithm, cache, buffer }) (hrest : cache.Resting)
    (hconfig : cache.config = r.core.cache.config)
    (hlines : taken ++ buffer.lines = r.core.buffer.lines ++ runs.flatMap fun p => p.run.lines)
    (hlength : runs.length = computed + directs)
    (hstats : cache.stats.computations = r.core.cache.stats.computations + .ofNat computed) :
    r.Accounts runs directs taken t := by
  refine ⟨?_, ?_, ?_, computed, hlength, ?_⟩
  · rw [hcore]
    exact hrest
  · rw [hcore]
    exact hconfig
  · rw [hcore]
    exact hlines
  · rw [hcore]
    exact hstats

theorem Accounts.idle {cache : Cache} {algorithm : Algorithm}
    (hcore : t.core = { r.core with algorithm, cache }) (hrest : cache.Resting)
    (hconfig : cache.config = r.core.cache.config)
    (hstats : cache.stats.computations = r.core.cache.stats.computations) : r.Accounts [] 0 [] t :=
  .of_core hcore hrest hconfig (List.append_nil _).symm rfl (hstats.trans (UInt64.add_zero _).symm)

theorem Accounts.trans (h : r.Accounts runs directs taken s) (h' : s.Accounts more others later t) :
    r.Accounts (runs ++ more) (directs + others) (taken ++ later) t where
  resting := h'.resting
  config := h'.config.trans h.config
  lines := by
    calc taken ++ later ++ t.core.buffer.lines
      _ = taken ++ (s.core.buffer.lines ++ more.flatMap fun p => p.run.lines) := by
        rw [List.append_assoc, h'.lines]
      _ = r.core.buffer.lines ++ (runs ++ more).flatMap fun p => p.run.lines := by
        rw [← List.append_assoc, h.lines, List.append_assoc, List.flatMap_append]
  computations := by
    obtain ⟨computed, hlength, hstats⟩ := h.computations
    obtain ⟨computed', hlength', hstats'⟩ := h'.computations
    refine ⟨computed + computed', ?_, ?_⟩
    · rw [List.length_append, hlength, hlength']
      omega
    · rw [hstats', hstats, UInt64.ofNat_add, UInt64.add_assoc]

theorem computations_moved (stats : CacheStats) (seen : Bool) :
    ((stats.bump (if seen then .rejections else .misses)).bump .computations).computations =
      stats.computations + 1 := by
  cases seen <;> rfl

theorem computations_failures (stats : CacheStats) (outcome : Outcome) :
    (outcome.failures.foldl .bump stats).computations = stats.computations := by
  cases outcome <;> rfl

theorem exists_done_of_stop?_none {outcome : Outcome} (h : outcome.stop? = none) :
    ∃ output, outcome = .done output := by
  cases outcome with
  | done output => exact ⟨output, rfl⟩
  | failed => cases h
  | panicked => cases h

theorem connect_performs (h : r.core.cache.Resting)
    (hrefuse : ∀ k, r.core.cache.lookup (.of first second) = some k →
      (r.core.cache.config.reuse && k.accepts desired) = false) :
    ∃ ending t cache, r.connect first second desired = (ending, t) ∧
      ending.told? = some (.ended (r.core.algorithm.outcome first.value second.value desired)) ∧
      t.core =
        { r.core with
          cache
          buffer := r.core.buffer.reportAll
            (r.core.algorithm.run first.value second.value desired).lines } ∧
      cache.Resting ∧ cache.config = r.core.cache.config ∧
      cache.stats.computations = r.core.cache.stats.computations + 1 := by
  generalize houtcome : r.core.algorithm.outcome first.value second.value desired = outcome
  cases hstop : outcome.stop? with
  | some answer =>
    obtain ⟨t, cache, hconnect, hcore, hrest, hconfig, hledger⟩ := connect_stop h hrefuse houtcome hstop
    have hstats : cache.stats = _ := congrArg Ledger.stats hledger
    have htold := congrArg some (Answer.told_of_stop hstop)
    refine ⟨_, t, cache, hconnect, htold, hcore, hrest, hconfig, ?_⟩
    rw [hstats]
    exact (computations_failures ..).trans (computations_moved ..)
  | none =>
    obtain ⟨output, rfl⟩ := exists_done_of_stop?_none hstop
    obtain ⟨t, cache, k, hconnect, hcore, hrest, hconfig, -, -, -, hvalue, hledger⟩ :=
      connect_run h hrefuse houtcome
    have hstats : cache.stats = _ := congrArg Ledger.stats hledger
    refine ⟨_, t, cache, hconnect, by rw [← hvalue]; rfl, hcore, hrest, hconfig, ?_⟩
    rw [hstats]
    exact computations_moved ..

theorem use_served (elapsed : Duration) (h : r.core.cache.Resting)
    (hold : r.core.cache.lookup (.of first second) = some k)
    (haccept : (r.core.cache.config.reuse && k.accepts desired) = true) :
    ∃ t, (r.timed elapsed).use (.connect first second desired) =
        (.ended (.answered (.served k.output)), t) ∧
      r.Accounts [] 0 [] t := by
  obtain ⟨t, cache, hconnect, hcore, hrest, hconfig, hledger⟩ :=
    connect_hit (r := r.timed elapsed) h hold haccept
  have hstats : cache.stats = r.core.cache.stats.bump .hits := congrArg Ledger.stats hledger
  exact ⟨t, by rw [use, hconnect], .idle hcore hrest hconfig (by rw [hstats]; rfl)⟩

theorem use_performed (elapsed : Duration) (h : r.core.cache.Resting)
    (hrefuse : ∀ k, r.core.cache.lookup (.of first second) = some k →
      (r.core.cache.config.reuse && k.accepts desired) = false) :
    ∃ ending t, (r.timed elapsed).use (.connect first second desired) = (.ended ending, t) ∧
      (Response.ended ending).outcome? =
        some (Select.run elapsed first.value second.value desired).outcome ∧
      r.Accounts [⟨first.value, second.value, desired, elapsed⟩] 0 [] t := by
  obtain ⟨ending, t, cache, hconnect, htold, hcore, hrest, hconfig, hstats⟩ :=
    connect_performs (r := r.timed elapsed) h hrefuse
  refine ⟨ending, t, by rw [use, hconnect], by rw [Response.outcome?, htold]; rfl,
    .of_core hcore hrest hconfig ?_ rfl hstats⟩
  rw [List.flatMap_singleton]
  rfl

theorem use_run (elapsed : Duration) (h : r.core.cache.Resting) (first second : Input) (desired : Bundle) :
    ∃ t, (r.timed elapsed).use (.run first second desired) =
        (.ran (Select.run elapsed first second desired).outcome, t) ∧
      r.Accounts [⟨first, second, desired, elapsed⟩] 1 [] t := by
  refine ⟨_, rfl, h, rfl, ?_, 0, rfl, (UInt64.add_zero _).symm⟩
  rw [List.flatMap_singleton]
  rfl

theorem use_invalidate (elapsed : Duration) (h : r.core.cache.Resting) (first second : Object Input) :
    ∃ ending t, (r.timed elapsed).use (.invalidate first second) = (.ended ending, t) ∧
      r.Accounts [] 0 [] t := by
  obtain ⟨t, cache, hcall, hcore, hrest, hconfig, hledger⟩ :=
    call_invalidate (r := r.timed elapsed) h first second
  have hstats : cache.stats = r.core.cache.stats := congrArg Ledger.stats hledger
  exact ⟨_, t, by rw [use, hcall], .idle hcore hrest hconfig (by rw [hstats])⟩

theorem use_clear (elapsed : Duration) (h : r.core.cache.Resting) :
    ∃ t, (r.timed elapsed).use .clear = (.cleared, t) ∧ r.Accounts [] 0 [] t := by
  have hrest : r.core.cache.clear.Resting :=
    ⟨h.orderly.takes (Cache.takes_of_step? (s := .clear) rfl), h.idle, h.runs⟩
  exact ⟨_, rfl, .idle (core_step (r := r.timed elapsed) (s := .clear) rfl) hrest rfl rfl⟩

theorem use_lines (elapsed : Duration) (h : r.core.cache.Resting) :
    ∃ t, (r.timed elapsed).use .lines = (.lines r.core.buffer.lines, t) ∧ r.Accounts [] 0 [] t :=
  ⟨_, rfl, .idle rfl h rfl rfl⟩

theorem use_take (elapsed : Duration) (h : r.core.cache.Resting) :
    ∃ t, (r.timed elapsed).use .take = (.taken r.core.buffer.lines, t) ∧
      r.Accounts [] 0 r.core.buffer.lines t :=
  ⟨_, rfl, h, rfl, rfl, 0, rfl, (UInt64.add_zero _).symm⟩

theorem connect_accounts (h : r.core.cache.Resting) (first second : Object Input) (desired : Bundle)
    (elapsed : Duration) :
    ∃ ending t, (r.timed elapsed).use (.connect first second desired) = (.ended ending, t) ∧
      r.Accounts (Entry.run? r.core.cache.config.reuse
        ⟨⟨.connect first second desired, elapsed⟩, r.kept (.of first second), .ended ending⟩).toList
        0 [] t ∧
      Entry.Answers r.core.cache.config.reuse
        ⟨⟨.connect first second desired, elapsed⟩, r.kept (.of first second), .ended ending⟩ := by
  by_cases haccept : ∃ k, r.core.cache.lookup (.of first second) = some k ∧
      (r.core.cache.config.reuse && k.accepts desired) = true
  · obtain ⟨k, hold, haccept⟩ := haccept
    obtain ⟨t, huse, haccounts⟩ := use_served elapsed h hold haccept
    have hkept : r.kept (.of first second) = some k.shown := congrArg (Option.map Connection.shown) hold
    refine ⟨_, t, huse, ?_, ?_⟩
    · rw [hkept, Entry.run?_of_accepts haccept]
      exact haccounts
    · rw [hkept, Entry.Answers, Entry.run?_of_accepts haccept]
      exact ⟨k.shown, rfl, rfl⟩
  · have hrefuse : ∀ k, r.core.cache.lookup (.of first second) = some k →
        (r.core.cache.config.reuse && k.accepts desired) = false :=
      fun k hk => Bool.eq_false_iff.mpr fun haccepts => haccept ⟨k, hk, haccepts⟩
    have hshown : ∀ k, r.kept (.of first second) = some k →
        (r.core.cache.config.reuse && k.parameters.same desired) = false := by
      intro shown hkept
      obtain ⟨k, hk, rfl⟩ := Option.map_eq_some_iff.mp hkept
      exact hrefuse k hk
    obtain ⟨ending, t, huse, houtcome, haccounts⟩ := use_performed elapsed h hrefuse
    refine ⟨ending, t, huse, ?_, ?_⟩
    · rw [Entry.run?_of_refuses hshown]
      exact haccounts
    · rw [Entry.Answers, Entry.run?_of_refuses hshown]
      exact houtcome

theorem turn_accounts (h : r.core.cache.Resting) (turn : Turn) :
    ∃ response t, (r.timed turn.elapsed).use turn.use = (response, t) ∧
      r.Accounts ((r.entry turn response).run? r.core.cache.config.reuse).toList
        (if turn.use.isRun then 1 else 0) (r.entry turn response).taken t ∧
      (r.entry turn response).Answers r.core.cache.config.reuse := by
  obtain ⟨use, elapsed⟩ := turn
  cases use with
  | connect first second desired =>
    obtain ⟨ending, t, huse, haccounts, hanswers⟩ := connect_accounts h first second desired elapsed
    exact ⟨_, t, huse, haccounts, hanswers⟩
  | run first second desired =>
    obtain ⟨t, huse, haccounts⟩ := use_run elapsed h first second desired
    exact ⟨_, t, huse, haccounts, rfl⟩
  | invalidate first second =>
    obtain ⟨ending, t, huse, haccounts⟩ := use_invalidate elapsed h first second
    exact ⟨_, t, huse, haccounts, trivial⟩
  | clear =>
    obtain ⟨t, huse, haccounts⟩ := use_clear elapsed h
    exact ⟨_, t, huse, haccounts, trivial⟩
  | lines =>
    obtain ⟨t, huse, haccounts⟩ := use_lines elapsed h
    exact ⟨_, t, huse, haccounts, trivial⟩
  | take =>
    obtain ⟨t, huse, haccounts⟩ := use_take elapsed h
    exact ⟨_, t, huse, haccounts, trivial⟩

theorem uses_cons {turn : Turn} {turns : List Turn} {response : Response} {log : List Entry}
    (huse : (r.timed turn.elapsed).use turn.use = (response, s)) (hmore : s.uses turns = (log, t)) :
    r.uses (turn :: turns) = (r.entry turn response :: log, t) := by
  simp only [uses, huse, hmore]

def performances (reuse : Bool) (log : List Entry) : List Performance := log.filterMap (Entry.run? reuse)

theorem performances_cons (reuse : Bool) (e : Entry) (log : List Entry) :
    performances reuse (e :: log) = (e.run? reuse).toList ++ performances reuse log := by
  rw [performances, List.filterMap_cons]
  cases e.run? reuse <;> rfl

theorem uses_accounts (h : r.core.cache.Resting) (turns : List Turn) :
    ∃ log t, r.uses turns = (log, t) ∧ log.map Entry.turn = turns ∧
      r.Accounts (performances r.core.cache.config.reuse log) (turns.countP (·.use.isRun))
        (log.flatMap Entry.taken) t ∧
      ∀ e ∈ log, e.Answers r.core.cache.config.reuse := by
  induction turns generalizing r with
  | nil => exact ⟨[], r, rfl, rfl, .idle rfl h rfl rfl, fun _ he => absurd he List.not_mem_nil⟩
  | cons turn turns ih =>
    obtain ⟨response, s, huse, haccounts, hanswers⟩ := turn_accounts h turn
    obtain ⟨log, t, hmore, hturns, hrest, hall⟩ := ih haccounts.resting
    rw [haccounts.config] at hrest hall
    refine ⟨_, t, uses_cons huse hmore, by rw [List.map_cons, hturns]; rfl, ?_,
      List.forall_mem_cons.mpr ⟨hanswers, hall⟩⟩
    rw [performances_cons, List.countP_cons, Nat.add_comm, List.flatMap_cons]
    exact haccounts.trans hrest

/-- Taken or still there, in the order of the runs, are the lines of each run once and nothing else. -/
structure Accounted (reuse : Bool) (turns : List Turn) (log : List Entry) (t : Runner) : Prop where
  turns_eq : log.map Entry.turn = turns
  answers : ∀ e ∈ log, e.Answers reuse
  lines : log.flatMap Entry.taken ++ t.buffer.lines =
    (performances reuse log).flatMap fun p => p.run.lines
  measured : ∀ p ∈ performances reuse log, p.Measured
  computations : UInt64.ofNat (performances reuse log).length =
    t.plugin.cache.stats.computations + .ofNat (turns.countP (·.use.isRun))
  computations_of_lt : (performances reuse log).length < UInt64.size →
    (performances reuse log).length =
      t.plugin.cache.stats.computations.toNat + turns.countP (·.use.isRun)

theorem uses_accounted (hvalid : config.validate = .ok ()) (hcache : r.plugin.cache = .ofConfig config)
    (hbuffer : r.buffer = {}) (turns : List Turn) :
    Accounted config.reuse turns (r.uses turns).1 (r.uses turns).2 := by
  have hcache' : r.core.cache = .ofConfig config := hcache
  have hbuffer' : r.core.buffer = {} := hbuffer
  have hrest : r.core.cache.Resting := by
    rw [hcache']
    exact Cache.resting_ofConfig hvalid
  obtain ⟨log, t, huses, hturns, haccounts, hanswers⟩ := uses_accounts hrest turns
  have hreuse : r.core.cache.config.reuse = config.reuse := by rw [hcache']; rfl
  rw [hreuse] at haccounts hanswers
  obtain ⟨-, -, hlines, computed, hlength, hstats⟩ := haccounts
  rw [hbuffer'] at hlines
  have hcomputed : t.plugin.cache.stats.computations = .ofNat computed := by
    rw [hcache'] at hstats
    exact hstats.trans (UInt64.zero_add _)
  suffices haccounted : Accounted config.reuse turns log t by
    rw [huses]
    exact haccounted
  refine ⟨hturns, hanswers, hlines, fun p _ => p.measured, ?_, fun hlt => ?_⟩
  · rw [hcomputed, ← UInt64.ofNat_add, hlength]
  · have hfew : computed < UInt64.size := by omega
    rw [hcomputed, UInt64.toNat_ofNat', Nat.mod_eq_of_lt hfew, hlength]

/-- Two requests, the second for an input without a form, whose lines are taken together; then one that is
served from what is stored, a run past the cache, and two that run again after what was stored is gone. -/
def drained : List Turn :=
  let a : Object Input := ⟨1, 1, .plain "a"⟩
  let b : Object Input := ⟨2, 2, .plain "b"⟩
  let c : Object Input := ⟨3, 3, .formless "c"⟩
  [⟨.connect a b {}, .zero⟩, ⟨.lines, .zero⟩, ⟨.connect a c {}, .zero⟩, ⟨.take, .zero⟩,
    ⟨.connect a b {}, .zero⟩, ⟨.run c.value b.value {}, .zero⟩, ⟨.invalidate a b, .zero⟩,
    ⟨.connect a b {}, .zero⟩, ⟨.clear, .zero⟩, ⟨.connect a b {}, .zero⟩]

theorem uses_accounted_drained :
    ({} : CacheConfig).validate = .ok () ∧ selecting.plugin.cache = .ofConfig {} ∧ selecting.buffer = {} ∧
    (performances true (selecting.uses drained).1).map (·.run.lines.length) = [6, 2, 1, 6, 6] ∧
    ((selecting.uses drained).1.flatMap Entry.taken ++
      (selecting.uses drained).2.buffer.lines).length = 21 ∧
    (selecting.uses drained).2.plugin.cache.stats.computations.toNat = 4 := by
  have hvalid : ({} : CacheConfig).validate = .ok () := rfl
  have haccounted := uses_accounted (r := selecting) hvalid rfl rfl drained
  have hblocks : (performances true (selecting.uses drained).1).map (·.run.lines.length) =
      [6, 2, 1, 6, 6] := by
    decide +kernel
  have hlength : (performances true (selecting.uses drained).1).length = 5 := by
    simpa using congrArg List.length hblocks
  refine ⟨hvalid, rfl, rfl, hblocks, ?_, ?_⟩
  · rw [haccounted.lines, List.length_flatMap]
    exact congrArg List.sum hblocks
  · have hcount := haccounted.computations_of_lt (by rw [hlength]; decide)
    have hdirect : drained.countP (·.use.isRun) = 1 := rfl
    rw [hlength, hdirect] at hcount
    omega

end Runner

end PairCache
