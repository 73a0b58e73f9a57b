import PairCache.Proofs.Cache.Life
import PairCache.Proofs.Cache.Provenance

/-!
What an invalidation removes stays removed. A call that removes the connection of its pair has the lock of
the pair, so no request is between its probe and its end there; and whatever the pair has later was
stored by a request that has probed since (`Renewed`).
-/
namespace PairCache.Cache

variable {c d e : Cache} {s : Step} {steps more before : List Step} {config : CacheConfig}
  {pair : Pair} {id : CallId} {call : Call} {k : Connection}

/-- Stored for the pair in the run, by a request whose probe is in the run, too, and has found nothing
or a connection that was stored like this. -/
inductive Renewed (c : Cache) (pair : Pair) : List Step → Connection → Prop
  | stored {front between rest id call probed held k} (hfront : c.run? front = some probed)
      (hid : probed.calls.get? id = some call) (hpair : call.pair = pair)
      (hstage : call.stage = .locking) (hop : call.operation = .request k.parameters)
      (hfound : ∀ old, probed.lookup pair = some old → Renewed c pair front old)
      (hbetween : c.run? (front ++ .resolve id :: between) = some held)
      (hsame : .leave id ∉ between) (hheld : held.stage? id = some (.storing k)) :
      Renewed c pair (front ++ .resolve id :: (between ++ .store id :: rest)) k

theorem Renewed.append (h : c.Renewed pair steps k) (more : List Step) :
    c.Renewed pair (steps ++ more) k := by
  cases h with
  | @stored front between rest id call probed held k hfront hid hpair hstage hop hfound hbetween
      hsame hheld =>
    have hrenewed : c.Renewed pair
        (front ++ .resolve id :: (between ++ .store id :: (rest ++ more))) k :=
      .stored hfront hid hpair hstage hop hfound hbetween hsame hheld
    simpa using hrenewed

inductive Probed (c : Cache) (pair : Pair) (id : CallId) : List Step → Call → Prop
  | resolved {front between call probed} (stage : Stage) (hfront : c.run? front = some probed)
      (hid : probed.calls.get? id = some call) (hstage : call.stage = .locking)
      (hfound : ∀ old, probed.lookup pair = some old → Renewed c pair front old)
      (hsame : .leave id ∉ between) :
      Probed c pair id (front ++ .resolve id :: between) (call.moved stage)

theorem Probed.append (h : c.Probed pair id steps call) (hs : s ≠ .leave id) :
    c.Probed pair id (steps ++ [s]) call := by
  cases h with
  | @resolved front between call probed stage hfront hid hstage hfound hsame =>
    have hmore : .leave id ∉ between ++ [s] := by
      simp only [List.mem_append, List.mem_singleton, not_or]
      exact ⟨hsame, hs.symm⟩
    have hprobed : c.Probed pair id (front ++ .resolve id :: (between ++ [s])) (call.moved stage) :=
      .resolved stage hfront hid hstage hfound hmore
    simpa using hprobed

theorem Probed.moved (h : c.Probed pair id steps call) (stage : Stage) :
    c.Probed pair id steps (call.moved stage) := by
  cases h with
  | @resolved front between call probed old hfront hid hstage hfound hsame =>
    have hprobed : c.Probed pair id (front ++ .resolve id :: between) (call.moved stage) :=
      .resolved stage hfront hid hstage hfound hsame
    exact hprobed

theorem Probed.stores (h : c.Probed pair id steps call) (hrun : c.run? steps = some d)
    (hcall : d.calls.get? id = some call) (hpair : call.pair = pair) (hstage : call.stage = .storing k)
    (hop : call.operation = .request k.parameters) : c.Renewed pair (steps ++ [.store id]) k := by
  have hheld : d.stage? id = some (.storing k) := by
    rw [stage?, hcall, Option.map_some, hstage]
  cases h with
  | @resolved front between call probed stage hfront hid hlocking hfound hsame =>
    have hrenewed : c.Renewed pair (front ++ .resolve id :: (between ++ .store id :: [])) k :=
      .stored hfront hid hpair hlocking hop hfound hrun hsame hheld
    simpa using hrenewed

/-- All there is of the pair, stored or under way, goes back to probes in the run. -/
structure Renews (c : Cache) (pair : Pair) (steps : List Step) (d : Cache) : Prop where
  content : ∀ k, d.lookup pair = some k → c.Renewed pair steps k
  inside : ∀ id call, d.calls.get? id = some call → call.pair = pair →
    call.stage.isInside = true → c.Probed pair id steps call

theorem Takes.ne_leave (hs : c.Takes s d) (hid : c.calls.get? id = some call)
    (hin : call.stage.isInside = true) : s ≠ .leave id := by
  rintro rfl
  cases hs with
  | leave hleft hstage =>
    obtain rfl := Option.some.inj (hid.symm.trans hleft)
    rw [hstage] at hin
    cases hin

theorem Renews.takes_content (h : c.Renews pair steps d) (hrun : c.run? steps = some d)
    (hfiled : d.Filed) (hs : d.Takes s e) :
    ∀ k, e.lookup pair = some k → c.Renewed pair (steps ++ [s]) k := by
  intro k hk
  rcases hs.lookup hk with hold | ⟨id, call, hid, hstage, hpair, rfl⟩
  · exact (h.content k hold).append [s]
  · obtain ⟨-, -, hop⟩ := hfiled.carries id call hid k hstage
    have hcall : call.pair = pair := by
      rw [hpair, (hfiled.carries id call hid).pair_eq hstage]
    have hprobed := h.inside id call hid hcall (by rw [hstage]; rfl)
    exact hprobed.stores hrun hid hcall hstage hop

theorem Renews.takes_inside (h : c.Renews pair steps d) (hrun : c.run? steps = some d)
    (hs : d.Takes s e) : ∀ id call, e.calls.get? id = some call → call.pair = pair →
      call.stage.isInside = true → c.Probed pair id (steps ++ [s]) call := by
  have hold : ∀ id call, d.calls.get? id = some call → call.pair = pair →
      call.stage.isInside = true → c.Probed pair id (steps ++ [s]) call := by
    intro id call hid hpair hin
    exact (h.inside id call hid hpair hin).append (hs.ne_leave hid hin)
  -- a call gets inside by its probe; from there on it was inside before
  cases hs with
  | reject hid hstage =>
    refine Table.forall_insert hold fun _ _ => ?_
    exact .resolved _ hrun hid hstage h.content List.not_mem_nil
  | miss hid hstage =>
    refine Table.forall_insert hold fun _ _ => ?_
    exact .resolved _ hrun hid hstage h.content List.not_mem_nil
  | launch hid hstage =>
    refine Table.forall_insert hold fun hpair _ => ?_
    exact (hold _ _ hid hpair (by rw [hstage]; rfl)).moved _
  | done hid hstage =>
    refine Table.forall_insert hold fun hpair _ => ?_
    exact (hold _ _ hid hpair (by rw [hstage]; rfl)).moved _
  | leave => exact Table.forall_erase _ hold
  | clear => exact hold
  | _ =>
    refine Table.forall_insert hold fun _ hin => ?_
    cases hin

theorem renews_of_run? (hfiled : c.Filed) (hnone : c.lookup pair = none)
    (hout : ∀ id call, c.calls.get? id = some call → call.pair = pair → call.stage.isInside = false)
    (h : c.run? steps = some d) : c.Renews pair steps d := by
  refine run?_trace ?_ (fun {before d s e} hrun hd hs => ?_) h
  · refine ⟨fun k hk => ?_, fun id call hid hpair hin => ?_⟩
    · cases hnone.symm.trans hk
    · rw [hout id call hid hpair] at hin
      cases hin
  · have hfiled : d.Filed := run?_keeps (fun hc hs => hc.takes hs) hfiled hrun
    exact ⟨hd.takes_content hrun hfiled hs, hd.takes_inside hrun hs⟩

structure Holds (pair : Pair) (P : Connection → Prop) (c : Cache) : Prop where
  stored : ∀ k, c.lookup pair = some k → P k
  storing : ∀ id call, c.calls.get? id = some call → call.pair = pair →
    ∀ k, call.stage = .storing k → P k

theorem Holds.mono {P Q : Connection → Prop} (h : c.Holds pair P) (hmono : ∀ k, P k → Q k) :
    c.Holds pair Q where
  stored k hk := hmono k (h.stored k hk)
  storing id call hid hpair k hstage := hmono k (h.storing id call hid hpair k hstage)

theorem Holds.takes {P : Connection → Prop} (h : c.Holds pair P) (hfiled : c.Filed)
    (hs : c.Takes s d)
    (hnew : ∀ call desired output, d.next = c.next + 1 → P (c.connect call desired output)) :
    d.Holds pair P where
  stored k hk := by
    rcases hs.lookup hk with hold | ⟨id, call, hid, hstage, hpair, -⟩
    · exact h.stored k hold
    · refine h.storing id call hid ?_ k hstage
      rw [hpair, (hfiled.carries id call hid).pair_eq hstage]
  storing := by
    cases hs with
    | done hid hstage hop =>
      refine Table.forall_insert h.storing fun _ k hk => ?_
      obtain rfl := Stage.storing.inj hk
      exact hnew _ _ _ rfl
    | leave => exact Table.forall_erase _ h.storing
    | clear => exact h.storing
    | _ =>
      refine Table.forall_insert h.storing fun _ k hk => ?_
      cases hk

theorem Takes.next_le (hs : c.Takes s d) : c.next ≤ d.next := by
  cases hs with
  | done => exact Nat.le_succ _
  | _ => exact Nat.le_refl _

theorem next_le_of_run? (h : c.run? steps = some d) : c.next ≤ d.next :=
  run?_keeps (P := fun x => c.next ≤ x.next) (fun hc hs => Nat.le_trans hc hs.next_le) (Nat.le_refl _) h

def Earlier (n : Nat) (k : Connection) : Prop := k.id.number < n

def NotEarlier (n : Nat) (k : Connection) : Prop := n ≤ k.id.number

theorem holds_earlier_of_run? (pair : Pair) (h : (ofConfig config).run? steps = some c) :
    c.Holds pair (Earlier c.next) := by
  refine (run?_keeps (P := fun c => c.Filed ∧ c.Holds pair (Earlier c.next)) ?_ ?_ h).2
  · rintro c s d ⟨hfiled, hc⟩ hs
    refine ⟨hfiled.takes hs, Holds.takes (hc.mono fun k hk => ?_) hfiled hs fun _ _ _ hnext => ?_⟩
    · exact Nat.lt_of_lt_of_le hk hs.next_le
    · rw [hnext]
      exact Nat.lt_succ_self _
  · refine ⟨filed_ofConfig config, fun k hk => ?_, fun id call hid => ?_⟩
    · cases hk
    · cases hid

theorem holds_notEarlier_of_run? {n : Nat} (hfiled : c.Filed) (hn : n ≤ c.next)
    (hc : c.Holds pair (NotEarlier n)) (h : c.run? steps = some d) : d.Holds pair (NotEarlier n) := by
  refine (run?_keeps (P := fun x => x.Filed ∧ n ≤ x.next ∧ x.Holds pair (NotEarlier n)) ?_
    ⟨hfiled, hn, hc⟩ h).2.2
  rintro x s y ⟨hfiled, hn, hx⟩ hs
  exact ⟨hfiled.takes hs, Nat.le_trans hn hs.next_le, hx.takes hfiled hs fun _ _ _ _ => hn⟩

def Spares (pair : Pair) (c : Cache) : Step → Prop
  | .resolve id => ∀ call, c.calls.get? id = some call → call.pair = pair →
      call.operation ≠ .invalidate
  | .store id => ∀ call, c.calls.get? id = some call → call.pair ≠ pair
  | .clear => False
  | _ => True

theorem Takes.lookup_of_spares (hs : c.Takes s d) (hfiled : c.Filed) (h : c.Spares pair s) :
    d.lookup pair = c.lookup pair := by
  cases hs with
  | @remove id call hid hstage hop =>
    have hne : pair ≠ call.pair := fun heq => h call hid heq.symm hop
    exact Table.get?_erase_of_ne hne
  | @store id call new hid hstage =>
    have hne : pair ≠ new.pair := by
      rw [(hfiled.carries id call hid).pair_eq hstage]
      exact (h call hid).symm
    exact Table.get?_insert_of_ne hne
  | clear => cases h
  | _ => rfl

theorem lookup_of_spared (hfiled : c.Filed) (hspared : c.Each (Spares pair) steps)
    (h : c.run? steps = some d) : d.lookup pair = c.lookup pair := by
  refine (run?_induct (P := fun x => x.Filed ∧ x.lookup pair = c.lookup pair) ?_ ⟨hfiled, rfl⟩
    hspared h).2
  rintro x s y ⟨hfiled, hx⟩ hspares hs
  exact ⟨hfiled.takes hs, (hs.lookup_of_spares hfiled hspares).trans hx⟩

theorem Takes.stage?_of_leaving {ending : Ending} (hs : c.Takes s d)
    (hstage : c.stage? id = some (.leaving ending)) (hstay : s ≠ .leave id) :
    d.stage? id = some (.leaving ending) := by
  have hother : s.caller? ≠ some id := by
    intro hown
    cases hs with
    | start hnone =>
      obtain rfl := Option.some.inj hown
      rw [stage?, hnone] at hstage
      cases hstage
    | leave =>
      obtain rfl := Option.some.inj hown
      exact hstay rfl
    | clear => cases hown
    | _ =>
      obtain rfl := Option.some.inj hown
      rw [stage?, ‹c.calls.get? _ = some _›] at hstage
      cases (Option.some.inj hstage).symm.trans ‹Call.stage _ = _›
  rw [stage?, hs.get?_of_other hother]
  exact hstage

theorem stage?_of_leaving {ending : Ending} (hstage : c.stage? id = some (.leaving ending))
    (h : c.run? steps = some d) (hstay : .leave id ∉ steps) :
    d.stage? id = some (.leaving ending) := by
  induction steps generalizing c with
  | nil =>
    obtain rfl := Option.some.inj h
    exact hstage
  | cons s steps ih =>
    obtain ⟨e, he, h⟩ := run?_cons.mp h
    obtain ⟨hhead, hrest⟩ := not_or.mp (mt List.mem_cons.mpr hstay)
    exact ih ((takes_of_step? he).stage?_of_leaving hstage (Ne.symm hhead)) h hrest

structure Removes (id : CallId) (call : Call) (c d : Cache) : Prop where
  alone : ∀ j other, c.calls.get? j = some other → other.pair = call.pair →
    other.stage.isInside = false
  told : d.stage? id = some (.leaving (.answered (.removed (c.lookup call.pair).isSome)))
  gone : d.lookup call.pair = none
  others : ∀ pair, pair ≠ call.pair → d.lookup pair = c.lookup pair

theorem Locked.removes (h : c.Locked) (hid : c.calls.get? id = some call)
    (hop : call.operation = .invalidate) (hs : c.Takes (.resolve id) d) : c.Removes id call d := by
  cases hs with
  | @remove _ found hfound hstage _ hin =>
    obtain rfl := Option.some.inj (hid.symm.trans hfound)
    refine ⟨fun j other hj hpair => ?_, ?_, ?_, fun pair hne => ?_⟩
    · refine Bool.eq_false_iff.mpr fun hinside => ?_
      obtain rfl := h.section_unique ⟨other, hj, hpair, .inr hinside⟩ ⟨call, hid, rfl, .inl hin⟩
      obtain rfl := Option.some.inj (hid.symm.trans hj)
      rw [hstage] at hinside
      cases hinside
    · simp [stage?, unlock, move]
    · change (c.store.erase call.pair).get? call.pair = none
      rw [Table.get?_erase, if_pos rfl]
    · exact Table.get?_erase_of_ne hne
  | hit hfound _ hrequest | reject hfound _ hrequest | miss hfound _ hrequest =>
    obtain rfl := Option.some.inj (hid.symm.trans hfound)
    cases hop.symm.trans hrequest

theorem Removes.outside (h : c.Removes id call d) (hs : c.Takes (.resolve id) d) :
    ∀ j other, d.calls.get? j = some other → other.pair = call.pair →
      other.stage.isInside = false := by
  intro j other hj hpair
  by_cases hown : j = id
  · subst hown
    have htold := h.told
    rw [stage?, hj] at htold
    have hleft : other.stage = _ := Option.some.inj htold
    rw [hleft]
    rfl
  · rw [hs.get?_of_other fun heq => hown (Option.some.inj heq).symm] at hj
    exact h.alone j other hj hpair

theorem invalidation_final (hbefore : (ofConfig config).run? before = some c)
    (hid : c.calls.get? id = some call) (hop : call.operation = .invalidate)
    (hs : c.step? (.resolve id) = some d) :
    c.Removes id call d ∧
    (∀ after e, d.run? after = some e →
      (.leave id ∉ after →
        e.stage? id = some (.leaving (.answered (.removed (c.lookup call.pair).isSome)))) ∧
      ∀ k, e.lookup call.pair = some k → d.Renewed call.pair after k) ∧
    ∀ front rest b k, before = front ++ rest → (ofConfig config).run? front = some b →
      b.lookup call.pair = some k →
      (b.Each (Spares call.pair) rest → c.lookup call.pair = some k) ∧
      ∀ after e, d.run? after = some e → e.lookup call.pair ≠ some k := by
  have hremoves := (locked_of_run? hbefore).removes hid hop (takes_of_step? hs)
  have hd : (ofConfig config).run? (before ++ [.resolve id]) = some d :=
    run?_append.mpr ⟨c, hbefore, run?_cons.mpr ⟨d, hs, rfl⟩⟩
  have hfiled := filed_of_run? hd
  have hout := hremoves.outside (takes_of_step? hs)
  refine ⟨hremoves, fun after e he => ⟨?_, ?_⟩, ?_⟩
  · exact stage?_of_leaving hremoves.told he
  · exact (renews_of_run? hfiled hremoves.gone hout he).content
  · rintro front rest b k rfl hb hk
    obtain ⟨b', hb', hrest⟩ := run?_append.mp hbefore
    obtain rfl := Option.some.inj (hb.symm.trans hb')
    refine ⟨fun hspared => ?_, fun after e he hlater => ?_⟩
    · rw [lookup_of_spared (filed_of_run? hb) hspared hrest]
      exact hk
    · have hearlier : Earlier b.next k := (holds_earlier_of_run? _ hb).stored k hk
      have hnext : b.next ≤ d.next :=
        Nat.le_trans (next_le_of_run? hrest) (takes_of_step? hs).next_le
      have hholds : d.Holds call.pair (NotEarlier b.next) := by
        refine ⟨fun old hold => ?_, fun j other hj hpair old hstage => ?_⟩
        · cases hremoves.gone.symm.trans hold
        · have hfalse := hout j other hj hpair
          rw [hstage] at hfalse
          cases hfalse
      have hlate := (holds_notEarlier_of_run? hfiled hnext hholds he).stored k hlater
      exact absurd hearlier (Nat.not_lt.mpr hlate)

/-- A request runs while the pair is invalidated, and another waits behind the invalidation. -/
def raced : List Step :=
  let a : Object Input := ⟨1, 1, .plain "a"⟩
  let b : Object Input := ⟨2, 2, .plain "b"⟩
  [.start 1 a b (.request {}), .resolve 1, .launch 1, .start 2 a b .invalidate,
    .start 3 a b (.request {}), .finish 1 (.done ⟨.second, "b"⟩), .store 1]

def renewed : List Step :=
  [.leave 1, .resolve 3, .leave 2, .launch 3, .finish 3 (.done ⟨.second, "b"⟩), .store 3]

theorem invalidation_final_raced : ∃ c d e, (ofConfig {}).run? raced = some c ∧
    c.step? (.resolve 2) = some d ∧ d.run? renewed = some e ∧
    (c.lookup ⟨1, 2⟩).map (·.id) = some ⟨1⟩ ∧
    d.stage? 2 = some (.leaving (.answered (.removed true))) ∧ d.lookup ⟨1, 2⟩ = none ∧
    (∀ k, c.lookup ⟨1, 2⟩ = some k → e.lookup ⟨1, 2⟩ ≠ some k) ∧
    ∃ k, e.lookup ⟨1, 2⟩ = some k ∧ k.id = ⟨2⟩ ∧ d.Renewed ⟨1, 2⟩ renewed k := by
  obtain ⟨c, d, e, hrun, hs, he, hid, hold, hfound, k, hk, hnew⟩ : ∃ c d e,
      (ofConfig {}).run? raced = some c ∧ c.step? (.resolve 2) = some d ∧
        d.run? renewed = some e ∧
        c.calls.get? 2 = some ⟨⟨1, 1, .plain "a"⟩, ⟨2, 2, .plain "b"⟩, .invalidate, .locking⟩ ∧
        (c.lookup ⟨1, 2⟩).map (·.id) = some ⟨1⟩ ∧ (c.lookup ⟨1, 2⟩).isSome = true ∧
        ∃ k, e.lookup ⟨1, 2⟩ = some k ∧ k.id = ⟨2⟩ :=
    ⟨_, _, _, rfl, rfl, rfl, rfl, rfl, rfl, _, rfl, rfl⟩
  obtain ⟨hremoves, hlater, hearlier⟩ := invalidation_final hrun hid rfl hs
  have htold : d.stage? 2 = some (.leaving (.answered (.removed (c.lookup ⟨1, 2⟩).isSome))) :=
    hremoves.told
  rw [hfound] at htold
  refine ⟨c, d, e, hrun, hs, he, hold, htold, hremoves.gone, fun old hk => ?_, k, hk, hnew, ?_⟩
  · exact (hearlier raced [] c old (List.append_nil _).symm hrun hk).2 renewed e he
  · exact (hlater renewed e he).2 k hk

end PairCache.Cache
