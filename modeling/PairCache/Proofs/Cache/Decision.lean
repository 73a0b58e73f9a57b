import PairCache.Proofs.Cache.Exclusion
import PairCache.Proofs.Cache.Frame

/-!
A pair to which only requests with equal bundles come. Up to the run that succeeds it is `Undecided`,
and from there on it is `Decided`: the connection of that run is about to be stored or is there, and
no request can miss it.
-/
namespace PairCache

def Step.Joins (pair : Pair) (bundles : List Bundle) : Step → Prop
  | .start _ first second (.request desired) => .of first second = pair → desired ∈ bundles
  | .start _ first second .invalidate => .of first second ≠ pair
  | .clear => False
  | _ => True

theorem Step.Joins.ne_clear {s : Step} {pair : Pair} {bundles : List Bundle}
    (h : s.Joins pair bundles) : s ≠ .clear := by
  rintro rfl
  exact h

def Stage.isServed : Stage → Bool
  | .storing _ | .leaving (.answered (.served _)) => true
  | _ => false

namespace Deed

def Leads (held : Option Connection) : Deed → Prop
  | .rejected => held ≠ none
  | .hit _ | .done _ | .stored _ | .returned (.answered (.served _)) => False
  | _ => True

def Follows (output : Object Derived) : Deed → Prop
  | .hit o | .stored o | .returned (.answered (.served o)) => o = output
  | .rejected | .missed | .launched | .done _ | .failed _ | .panicked => False
  | _ => True

end Deed

namespace Cache

variable {c d : Cache} {s : Step} {pair : Pair} {bundles : List Bundle} {held : Option Connection}
  {k : Connection} {call : Call}

structure Flight (pair : Pair) (bundles : List Bundle) (c : Cache) : Prop where
  locked : c.Locked
  filed : c.Filed
  reuse : c.config.reuse = true
  asks : ∀ id call, c.calls.get? id = some call → call.pair = pair →
    ∃ desired ∈ bundles, call.operation = .request desired

theorem Flight.takes (h : c.Flight pair bundles) (hj : s.Joins pair bundles) (hs : c.Takes s d) :
    d.Flight pair bundles where
  locked := h.locked.takes hs
  filed := h.filed.takes hs
  reuse := hs.config_eq ▸ h.reuse
  asks := by
    intro id call hid hpair
    rcases hs.knew id call hid with ⟨old, hold, hfirst, hsecond, hop⟩ | rfl
    · rw [← hop]
      refine h.asks id old hold ?_
      rw [← hpair, Call.pair, Call.pair, hfirst, hsecond]
    · cases hop : call.operation with
      | request desired =>
        rw [hop] at hj
        exact ⟨desired, hj hpair, rfl⟩
      | invalidate =>
        rw [hop] at hj
        exact absurd hpair hj

theorem Flight.desired_mem (h : c.Flight pair bundles) {id : CallId} {desired : Bundle}
    (hid : c.calls.get? id = some call) (hpair : call.pair = pair)
    (hop : call.operation = .request desired) : desired ∈ bundles := by
  obtain ⟨q, hq, heq⟩ := h.asks id call hid hpair
  obtain rfl := Operation.request.inj (hop.symm.trans heq)
  exact hq

theorem Flight.not_invalidate (h : c.Flight pair bundles) {id : CallId}
    (hid : c.calls.get? id = some call) (hpair : call.pair = pair)
    (hop : call.operation = .invalidate) : False := by
  obtain ⟨q, _, heq⟩ := h.asks id call hid hpair
  cases hop.symm.trans heq

structure Undecided (pair : Pair) (bundles : List Bundle) (held : Option Connection) (c : Cache) : Prop
    extends c.Flight pair bundles where
  lookup : c.lookup pair = held
  refuses : ∀ k, held = some k → ∀ desired ∈ bundles, k.accepts desired = false
  calls : ∀ id call, c.calls.get? id = some call → call.pair = pair → call.stage.isServed = false

structure Decided (pair : Pair) (bundles : List Bundle) (k : Connection) (c : Cache) : Prop
    extends c.Flight pair bundles where
  accepts : ∀ desired ∈ bundles, k.accepts desired = true
  inside : ∀ id call, c.calls.get? id = some call → call.pair = pair →
    call.stage.isInside = true → call.stage = .storing k
  served : ∀ id call, c.calls.get? id = some call → call.pair = pair →
    ∀ output, call.stage = .leaving (.answered (.served output)) → output = k.output
  place : c.lookup pair = some k ∨
    ∃ id call, c.calls.get? id = some call ∧ call.pair = pair ∧ call.stage = .storing k

theorem Undecided.of_same (h : c.Undecided pair bundles held) (hd : d.Flight pair bundles)
    (hsame : SameOn pair c d) : d.Undecided pair bundles held where
  toFlight := hd
  lookup := hsame.lookup.trans h.lookup
  refuses := h.refuses
  calls id call hid hpair := h.calls id call ((hsame.calls hpair).mp hid) hpair

theorem Decided.of_same (h : c.Decided pair bundles k) (hd : d.Flight pair bundles)
    (hsame : SameOn pair c d) : d.Decided pair bundles k where
  toFlight := hd
  accepts := h.accepts
  inside id call hid hpair := h.inside id call ((hsame.calls hpair).mp hid) hpair
  served id call hid hpair := h.served id call ((hsame.calls hpair).mp hid) hpair
  place := by
    rcases h.place with hk | ⟨id, call, hid, hpair, hstage⟩
    · exact .inl (hsame.lookup.trans hk)
    · exact .inr ⟨id, call, (hsame.calls hpair).mpr hid, hpair, hstage⟩

theorem Undecided.insert (h : c.Undecided pair bundles held) (hd : d.Flight pair bundles)
    (hlookup : d.lookup pair = c.lookup pair) {id : CallId} {new : Call}
    (hcalls : d.calls = c.calls.insert id new) (hnew : new.stage.isServed = false) :
    d.Undecided pair bundles held where
  toFlight := hd
  lookup := hlookup.trans h.lookup
  refuses := h.refuses
  calls := by
    rw [hcalls]
    exact Table.forall_insert h.calls fun _ => hnew

theorem Undecided.erase (h : c.Undecided pair bundles held) (hd : d.Flight pair bundles)
    (hlookup : d.lookup pair = c.lookup pair) {id : CallId} (hcalls : d.calls = c.calls.erase id) :
    d.Undecided pair bundles held where
  toFlight := hd
  lookup := hlookup.trans h.lookup
  refuses := h.refuses
  calls := by
    rw [hcalls]
    exact Table.forall_erase id h.calls

theorem Undecided.decides (h : c.Undecided pair bundles held) (hd : d.Flight pair bundles)
    {id : CallId} (hid : c.calls.get? id = some call) (hpair : call.pair = pair)
    (hcalls : d.calls = c.calls.insert id (call.moved (.storing k)))
    (haccepts : ∀ desired ∈ bundles, k.accepts desired = true) : d.Decided pair bundles k where
  toFlight := hd
  accepts := haccepts
  inside j other hj hother hin := by
    have hself : d.calls.get? id = some (call.moved (.storing k)) := by simp [hcalls]
    obtain rfl := hd.locked.section_unique ⟨other, hj, hother, .inr hin⟩
      ⟨_, hself, hpair, .inr rfl⟩
    rw [hself] at hj
    obtain rfl := Option.some.inj hj
    rfl
  served := by
    rw [hcalls]
    refine Table.forall_insert (fun j other hj hother output hstage => ?_) fun _ output hstage => ?_
    · have hserved := h.calls j other hj hother
      rw [hstage] at hserved
      cases hserved
    · cases hstage
  place := .inr ⟨id, call.moved (.storing k), by simp [hcalls], hpair, rfl⟩

def Alike (bundles : List Bundle) : Prop := ∀ p ∈ bundles, ∀ q ∈ bundles, p.same q = true

theorem Undecided.takes_on (h : c.Undecided pair bundles held) (halike : Alike bundles)
    (hd : d.Flight pair bundles) (hs : c.Takes s d) (hcaller : c.caller? s = some call)
    (hpair : call.pair = pair) :
    (d.Undecided pair bundles held ∧ ∃ deed, c.deedOf call s = some deed ∧ deed.Leads held) ∨
      ∃ k, d.Decided pair bundles k ∧ c.deedOf call s = some (.done k.output) := by
  have goesOn : ∀ {id new deed}, d.lookup pair = c.lookup pair → d.calls = c.calls.insert id new →
      new.stage.isServed = false → c.deedOf call s = some deed → deed.Leads held →
      (d.Undecided pair bundles held ∧ ∃ deed, c.deedOf call s = some deed ∧ deed.Leads held) ∨
        ∃ k, d.Decided pair bundles k ∧ c.deedOf call s = some (.done k.output) :=
    fun hlookup hcalls hnew hdeed hleads =>
      .inl ⟨h.insert hd hlookup hcalls hnew, _, hdeed, hleads⟩
  cases hs with
  | start hid => exact goesOn rfl rfl rfl rfl trivial
  | remove hid hstage hop =>
    obtain rfl := Option.some.inj (hcaller.symm.trans hid)
    exact (h.not_invalidate hid hpair hop).elim
  | hit hid hstage hop hin hold haccept =>
    obtain rfl := Option.some.inj (hcaller.symm.trans hid)
    rw [hpair, h.lookup] at hold
    have hrefuse := h.refuses _ hold _ (h.desired_mem hid hpair hop)
    rw [hrefuse, Bool.and_false] at haccept
    cases haccept
  | reject hid hstage hop hin hold hreject =>
    obtain rfl := Option.some.inj (hcaller.symm.trans hid)
    refine goesOn rfl rfl rfl (congrArg some (probed_of_rejects hop hold hreject)) ?_
    rw [hpair, h.lookup] at hold
    simp [Deed.Leads, hold]
  | miss hid hstage hop hin hnone =>
    obtain rfl := Option.some.inj (hcaller.symm.trans hid)
    exact goesOn rfl rfl rfl (congrArg some (probed_of_none hop hnone)) trivial
  | launch => exact goesOn rfl rfl rfl rfl trivial
  | done hid hstage hop =>
    obtain rfl := Option.some.inj (hcaller.symm.trans hid)
    have hmem := h.desired_mem hid hpair hop
    exact .inr ⟨_, h.decides hd hid hpair rfl fun q hq => halike _ hmem q hq, rfl⟩
  | fail => exact goesOn rfl rfl rfl rfl trivial
  | panic => exact goesOn rfl rfl rfl rfl trivial
  | store hid hstage =>
    obtain rfl := Option.some.inj (hcaller.symm.trans hid)
    have hserved := h.calls _ _ hid hpair
    rw [hstage] at hserved
    cases hserved
  | @leave id x ending hid hstage =>
    obtain rfl := Option.some.inj (hcaller.symm.trans hid)
    refine .inl ⟨h.erase hd rfl rfl, _, deedOf_leave hstage, ?_⟩
    have hserved := h.calls _ _ hid hpair
    rw [hstage] at hserved
    match ending with
    | .answered (.served _) => cases hserved
    | .answered (.failed _) | .answered .panicked | .answered (.removed _) | .cancelled => trivial
  | quitLock hid hstage =>
    obtain rfl := Option.some.inj (hcaller.symm.trans hid)
    exact goesOn rfl rfl rfl (deedOf_cancel_locking hstage) trivial
  | quitPermit hid hstage =>
    obtain rfl := Option.some.inj (hcaller.symm.trans hid)
    exact goesOn rfl rfl rfl (deedOf_cancel_permitting hstage) trivial
  | clear => cases hcaller

theorem Decided.lookup_of_admits (h : c.Decided pair bundles k) {id : CallId}
    (hid : c.calls.get? id = some call) (hpair : call.pair = pair) (hstage : call.stage = .locking)
    (hin : c.locks.admits id = true) : c.lookup pair = some k := by
  rcases h.place with hk | ⟨j, other, hj, hother, hstoring⟩
  · exact hk
  · obtain rfl := h.locked.section_unique ⟨call, hid, hpair, .inl hin⟩
      ⟨other, hj, hother, .inr (by rw [hstoring]; rfl)⟩
    obtain rfl := Option.some.inj (hid.symm.trans hj)
    cases hstage.symm.trans hstoring

theorem Decided.keeps_place (h : c.Decided pair bundles k) (hlookup : d.lookup pair = c.lookup pair)
    (hstoring : ∀ j other, c.calls.get? j = some other → other.stage = .storing k →
      d.calls.get? j = some other) :
    d.lookup pair = some k ∨
      ∃ id call, d.calls.get? id = some call ∧ call.pair = pair ∧ call.stage = .storing k := by
  rcases h.place with hk | ⟨j, other, hj, hother, hstage⟩
  · exact .inl (hlookup.trans hk)
  · exact .inr ⟨j, other, hstoring j other hj hstage, hother, hstage⟩

theorem Decided.insert (h : c.Decided pair bundles k) (hd : d.Flight pair bundles)
    (hlookup : d.lookup pair = c.lookup pair) {id : CallId} {new : Call}
    (hold : ∀ x, c.calls.get? id = some x → x.stage ≠ .storing k)
    (hcalls : d.calls = c.calls.insert id new) (hnew : new.stage.isInside = false)
    (hserved : ∀ output, new.stage = .leaving (.answered (.served output)) → output = k.output) :
    d.Decided pair bundles k where
  toFlight := hd
  accepts := h.accepts
  inside := by
    rw [hcalls]
    refine Table.forall_insert h.inside fun _ hin => ?_
    rw [hnew] at hin
    cases hin
  served := by
    rw [hcalls]
    exact Table.forall_insert h.served fun _ => hserved
  place := by
    refine h.keeps_place hlookup fun j other hj hstage => ?_
    rw [hcalls, Table.get?_insert_of_ne]
    · exact hj
    · rintro rfl
      exact hold other hj hstage

theorem Decided.erase (h : c.Decided pair bundles k) (hd : d.Flight pair bundles)
    (hlookup : d.lookup pair = c.lookup pair) {id : CallId}
    (hid : c.calls.get? id = some call) (hstage : call.stage ≠ .storing k)
    (hcalls : d.calls = c.calls.erase id) : d.Decided pair bundles k where
  toFlight := hd
  accepts := h.accepts
  inside := by
    rw [hcalls]
    exact Table.forall_erase id h.inside
  served := by
    rw [hcalls]
    exact Table.forall_erase id h.served
  place := by
    refine h.keeps_place hlookup fun j other hj hstoring => ?_
    rw [hcalls, Table.get?_erase_of_ne]
    · exact hj
    · rintro rfl
      obtain rfl := Option.some.inj (hid.symm.trans hj)
      exact hstage hstoring

theorem Decided.stores (h : c.Decided pair bundles k) (hd : d.Flight pair bundles) {id : CallId}
    (hlookup : d.lookup pair = some k)
    (hcalls : d.calls = c.calls.insert id (call.moved (.leaving (.answered (.served k.output))))) :
    d.Decided pair bundles k where
  toFlight := hd
  accepts := h.accepts
  inside := by
    rw [hcalls]
    refine Table.forall_insert h.inside fun _ hin => ?_
    cases hin
  served := by
    rw [hcalls]
    refine Table.forall_insert h.served fun _ output hstage => ?_
    cases hstage
    rfl
  place := .inl hlookup

theorem Decided.takes_on (h : c.Decided pair bundles k) (hd : d.Flight pair bundles)
    (hs : c.Takes s d) (hcaller : c.caller? s = some call) (hpair : call.pair = pair) :
    d.Decided pair bundles k ∧ ∃ deed, c.deedOf call s = some deed ∧ deed.Follows k.output := by
  have locking : ∀ {id}, c.calls.get? id = some call → call.stage = .locking →
      ∀ x, c.calls.get? id = some x → x.stage ≠ .storing k := by
    intro id hid hstage x hx
    obtain rfl := Option.some.inj (hid.symm.trans hx)
    simp [hstage]
  have outside : ∀ {id}, c.calls.get? id = some call → call.stage.isInside = true →
      call.stage ≠ .storing k → False :=
    fun hid hin hne => hne (h.inside _ _ hid hpair hin)
  cases hs with
  | start hid =>
    refine ⟨h.insert hd rfl ?_ rfl rfl nofun, _, rfl, trivial⟩
    intro x hx
    cases hid.symm.trans hx
  | remove hid hstage hop =>
    obtain rfl := Option.some.inj (hcaller.symm.trans hid)
    exact (h.not_invalidate hid hpair hop).elim
  | hit hid hstage hop hin hold haccept =>
    obtain rfl := Option.some.inj (hcaller.symm.trans hid)
    have hk := h.lookup_of_admits hid hpair hstage hin
    rw [← hpair] at hk
    obtain rfl := Option.some.inj (hold.symm.trans hk)
    refine ⟨h.insert hd rfl (locking hid hstage) rfl rfl ?_, _,
      congrArg some (probed_of_accepts hop hold haccept), rfl⟩
    intro output hserved
    cases hserved
    rfl
  | reject hid hstage hop hin hold hreject =>
    obtain rfl := Option.some.inj (hcaller.symm.trans hid)
    have hk := h.lookup_of_admits hid hpair hstage hin
    rw [← hpair] at hk
    obtain rfl := Option.some.inj (hold.symm.trans hk)
    rw [h.reuse, h.accepts _ (h.desired_mem hid hpair hop)] at hreject
    cases hreject
  | miss hid hstage hop hin hnone =>
    obtain rfl := Option.some.inj (hcaller.symm.trans hid)
    have hk := h.lookup_of_admits hid hpair hstage hin
    rw [← hpair, hnone] at hk
    cases hk
  | launch hid hstage | done hid hstage | fail hid hstage | panic hid hstage
  | quitPermit hid hstage =>
    obtain rfl := Option.some.inj (hcaller.symm.trans hid)
    exact (outside hid (by rw [hstage]; rfl) (by simp [hstage])).elim
  | store hid hstage =>
    obtain rfl := Option.some.inj (hcaller.symm.trans hid)
    have hk := h.inside _ _ hid hpair (by rw [hstage]; rfl)
    obtain rfl := Stage.storing.inj (hstage.symm.trans hk)
    refine ⟨h.stores hd ?_ rfl, _, deedOf_store hstage, rfl⟩
    change (c.store.put _).get? pair = _
    rw [Store.get?_put, (h.filed.carries _ _ hid).pair_eq hstage, if_pos hpair.symm]
  | @leave id x ending hid hstage =>
    obtain rfl := Option.some.inj (hcaller.symm.trans hid)
    refine ⟨h.erase hd rfl hid (by simp [hstage]) rfl, _, deedOf_leave hstage, ?_⟩
    have hserved := h.served _ _ hid hpair
    match ending with
    | .answered (.served output) => exact hserved output hstage
    | .answered (.failed _) | .answered .panicked | .answered (.removed _) | .cancelled => trivial
  | quitLock hid hstage =>
    obtain rfl := Option.some.inj (hcaller.symm.trans hid)
    exact ⟨h.insert hd rfl (locking hid hstage) rfl rfl nofun, _, deedOf_cancel_locking hstage, trivial⟩
  | clear => cases hcaller

theorem Undecided.takes (h : c.Undecided pair bundles held) (halike : Alike bundles)
    (hj : s.Joins pair bundles) (hs : c.Takes s d) :
    (d.Undecided pair bundles held ∧ ∀ deed ∈ c.deed? pair.on s, deed.Leads held) ∨
      ∃ k, d.Decided pair bundles k ∧ c.deed? pair.on s = some (.done k.output) := by
  have hd := h.toFlight.takes hj hs
  rcases hs.on_or_off h.filed hj.ne_clear with ⟨call, hcaller, hpair, hdeed⟩ | ⟨hsame, hdeed⟩
  · rw [hdeed]
    rcases h.takes_on halike hd hs hcaller hpair with ⟨hun, deed, hdeed, hleads⟩ | hdecided
    · refine .inl ⟨hun, fun x hx => ?_⟩
      obtain rfl := Option.some.inj (hdeed.symm.trans hx)
      exact hleads
    · exact .inr hdecided
  · refine .inl ⟨h.of_same hd hsame, fun x hx => ?_⟩
    cases hdeed.symm.trans hx

theorem Decided.takes (h : c.Decided pair bundles k) (hj : s.Joins pair bundles)
    (hs : c.Takes s d) :
    d.Decided pair bundles k ∧ ∀ deed ∈ c.deed? pair.on s, deed.Follows k.output := by
  have hd := h.toFlight.takes hj hs
  rcases hs.on_or_off h.filed hj.ne_clear with ⟨call, hcaller, hpair, hdeed⟩ | ⟨hsame, hdeed⟩
  · obtain ⟨hdecided, deed, hdeed', hfollows⟩ := h.takes_on hd hs hcaller hpair
    refine ⟨hdecided, fun x hx => ?_⟩
    obtain rfl := Option.some.inj (hdeed'.symm.trans (hdeed.symm.trans hx))
    exact hfollows
  · refine ⟨h.of_same hd hsame, fun x hx => ?_⟩
    cases hdeed.symm.trans hx

end Cache

end PairCache
