import PairCache.Proofs.Cache.Exclusion
import PairCache.Proofs.Cache.Provenance

/-!
The cache as a plain map that is asked one thing after another. `Takes.effect` says which steps of a
running cache such a map knows of, and what it replies there.
-/
namespace PairCache

inductive Ask where
  | request (first second : Object Input) (desired : Bundle)
  | invalidate (pair : Pair)
  | clear
  | lookup (pair : Pair)

inductive Reply where
  | ended (outcome : Outcome)
  | removed (found : Bool)
  | cleared
  | found (content : Option (Bundle × Derived))

abbrev Plain := Pair → Option (Bundle × Derived)

namespace Plain

def empty : Plain := fun _ => none

def set (m : Plain) (pair : Pair) (content : Option (Bundle × Derived)) : Plain :=
  fun p => if p = pair then content else m p

def run (a : Algorithm) (m : Plain) (first second : Object Input) (desired : Bundle) :
    Plain × Reply :=
  let outcome := a.outcome first.value second.value desired
  match outcome with
  | .done output => (m.set (.of first second) (some (desired, output)), .ended outcome)
  | .failed _ | .panicked => (m, .ended outcome)

def ask (a : Algorithm) (reuse : Bool) (m : Plain) : Ask → Plain × Reply
  | .request first second desired =>
    match m (.of first second) with
    | some (parameters, output) =>
      if reuse && parameters.same desired then (m, .ended (.done output))
      else m.run a first second desired
    | none => m.run a first second desired
  | .invalidate pair => (m.set pair none, .removed (m pair).isSome)
  | .clear => (empty, .cleared)
  | .lookup pair => (m, .found (m pair))

def askAll (a : Algorithm) (reuse : Bool) (m : Plain) : List Ask → Plain × List Reply
  | [] => (m, [])
  | x :: asks =>
    let (next, reply) := m.ask a reuse x
    let (last, replies) := next.askAll a reuse asks
    (last, reply :: replies)

variable {a : Algorithm} {reuse : Bool} {m n : Plain}

theorem askAll_append {asks : List Ask} {replies : List Reply} {x : Ask} {reply : Reply} {last : Plain}
    (h : m.askAll a reuse asks = (n, replies)) (hx : n.ask a reuse x = (last, reply)) :
    m.askAll a reuse (asks ++ [x]) = (last, replies ++ [reply]) := by
  induction asks generalizing m replies with
  | nil =>
    cases h
    simp [askAll, hx]
  | cons y asks ih =>
    simp only [askAll, List.cons_append] at h ⊢
    obtain ⟨hn, hreplies⟩ := Prod.mk.inj h
    subst hreplies
    rw [ih (Prod.ext hn rfl)]
    rfl

theorem run_of_done {first second : Object Input} {desired : Bundle} {output : Derived}
    (h : a.outcome first.value second.value desired = .done output) :
    m.run a first second desired =
      (m.set (.of first second) (some (desired, output)), .ended (.done output)) := by
  simp only [run, h]

theorem run_of_failed {first second : Object Input} {desired : Bundle} {failure : Failure}
    (h : a.outcome first.value second.value desired = .failed failure) :
    m.run a first second desired = (m, .ended (.failed failure)) := by
  simp only [run, h]

end Plain

def Answer.reply? : Answer → Option Reply
  | .served output => some (.ended (.done output.value))
  | .failed failure => some (.ended (.failed failure))
  | .panicked => none
  | .removed found => some (.removed found)

def Step.isInner : Step → Bool
  | .start .. | .leave _ | .clear => false
  | .resolve _ | .launch _ | .finish .. | .store _ | .cancel _ => true

namespace Call

def ask (call : Call) : Ask :=
  match call.operation with
  | .request desired => .request call.first call.second desired
  | .invalidate => .invalidate call.pair

def reply? (call : Call) : Option Reply :=
  match call.stage with
  | .leaving (.answered answer) => answer.reply?
  | _ => none

theorem reply?_of_not_leaving {call : Call} (h : call.stage.isLeaving = false) :
    call.reply? = none := by
  unfold reply?
  split
  · rename_i hstage
    rw [hstage] at h
    cases h
  · rfl

end Call

namespace Cache

variable {a : Algorithm} {c d : Cache} {s : Step} {id : CallId} {call : Call}

def content (c : Cache) : Plain :=
  fun pair => (c.lookup pair).map fun k => (k.parameters, k.output.value)

def Refuses (c : Cache) (call : Call) : Prop :=
  ∀ desired k, call.operation = .request desired → c.lookup call.pair = some k →
    (c.config.reuse && k.accepts desired) = false

/-- What the probe has refused stays refused until the call is out of its lock. -/
def Refused (c : Cache) : Prop :=
  ∀ id call, c.calls.get? id = some call → call.stage.isInside = true → c.Refuses call

theorem Refuses.of_lookup (h : c.Refuses call) (hconfig : d.config = c.config)
    (hlookup : ∀ k, d.lookup call.pair = some k → c.lookup call.pair = some k) : d.Refuses call := by
  intro desired k hop hk
  rw [hconfig]
  exact h desired k hop (hlookup k hk)

theorem Refused.keeps (h : c.Refused) (hconfig : d.config = c.config)
    (hlookup : ∀ pair k, d.lookup pair = some k → c.lookup pair = some k) :
    ∀ id call, c.calls.get? id = some call → call.stage.isInside = true → d.Refuses call :=
  fun id call hid hin => (h id call hid hin).of_lookup hconfig (hlookup _)

theorem Refused.moves (h : c.Refused) (hid : c.calls.get? id = some call)
    (hin : call.stage.isInside = true) (stage : Stage) : c.Refuses (call.moved stage) :=
  h id call hid hin

theorem Refused.stores (h : c.Refused) (hl : c.Locked) (hfiled : c.Filed) {new : Connection}
    (hid : c.calls.get? id = some call) (hstage : call.stage = .storing new) :
    (unlock id call (.answered (.served new.output)) { c with store := c.store.put new }).Refused := by
  have hpair := (hfiled.carries id call hid).pair_eq hstage
  intro j other hj hin
  change (c.calls.insert id _).get? j = some other at hj
  rw [Table.get?_insert] at hj
  split at hj
  · cases hj
    cases hin
  · rename_i hne
    refine (h j other hj hin).of_lookup rfl fun k hk => ?_
    change (c.store.put new).get? other.pair = some k at hk
    rw [Store.get?_put] at hk
    split at hk
    · rename_i heq
      refine absurd (hl.section_unique ⟨other, hj, rfl, .inr hin⟩ ⟨call, hid, ?_, .inr ?_⟩) hne
      · rw [heq, hpair]
      · rw [hstage]
        rfl
    · exact hk

theorem Refused.takes (h : c.Refused) (hl : c.Locked) (hfiled : c.Filed) (hs : c.Takes s d) :
    d.Refused := by
  cases hs with
  | remove =>
    refine Table.forall_insert (h.keeps rfl fun _ _ hk => (Table.get?_of_get?_erase hk).2) ?_
    intro hin
    cases hin
  | reject hid hstage hop hin hold hreject =>
    refine Table.forall_insert (h.keeps rfl fun _ _ hk => hk) fun _ desired k hdesired hk => ?_
    rw [Call.operation_moved, hop] at hdesired
    cases hdesired
    cases hold.symm.trans hk
    exact hreject
  | miss hid hstage hop hin hnone =>
    refine Table.forall_insert (h.keeps rfl fun _ _ hk => hk) fun _ desired k _ hk => ?_
    cases hnone.symm.trans hk
  | launch hid hstage =>
    refine Table.forall_insert (h.keeps rfl fun _ _ hk => hk) fun _ => ?_
    exact h.moves hid (by rw [hstage]; rfl) _
  | done hid hstage =>
    refine Table.forall_insert (h.keeps rfl fun _ _ hk => hk) fun _ => ?_
    exact h.moves hid (by rw [hstage]; rfl) _
  | store hid hstage => exact h.stores hl hfiled hid hstage
  | leave => exact Table.forall_erase _ (h.keeps rfl fun _ _ hk => hk)
  | clear =>
    refine h.keeps rfl fun pair k hk => ?_
    cases hk
  | _ =>
    refine Table.forall_insert (h.keeps rfl fun _ _ hk => hk) ?_
    intro hin
    cases hin

theorem refused_ofConfig (config : CacheConfig) : (ofConfig config).Refused := by
  intro id call hid
  cases hid

theorem content_erase (c : Cache) (pair : Pair) :
    content { c with store := c.store.erase pair } = c.content.set pair none := by
  funext p
  simp only [content, lookup, Table.get?_erase, Plain.set]
  split <;> rfl

theorem content_put (c : Cache) (new : Connection) :
    content { c with store := c.store.put new } =
      c.content.set new.pair (some (new.parameters, new.output.value)) := by
  funext p
  simp only [content, lookup, Store.get?_put, Plain.set]
  split <;> rfl

theorem isSome_content (c : Cache) (pair : Pair) :
    (c.content pair).isSome = (c.lookup pair).isSome := by
  simp [content]

theorem ask_of_accepts {desired : Bundle} {old : Connection} (hop : call.operation = .request desired)
    (hold : c.lookup call.pair = some old)
    (haccept : (c.config.reuse && old.accepts desired) = true) :
    c.content.ask a c.config.reuse call.ask = (c.content, .ended (.done old.output.value)) := by
  have hcontent : c.content (.of call.first call.second) = some (old.parameters, old.output.value) := by
    change (c.lookup call.pair).map _ = _
    rw [hold]
    rfl
  simp only [Call.ask, hop, Plain.ask, hcontent]
  exact if_pos haccept

theorem Refuses.ask (h : c.Refuses call) {desired : Bundle} (hop : call.operation = .request desired) :
    c.content.ask a c.config.reuse call.ask =
      c.content.run a call.first call.second desired := by
  simp only [Call.ask, hop, Plain.ask]
  cases hold : c.lookup call.pair with
  | none =>
    have hcontent : c.content (.of call.first call.second) = none := congrArg (Option.map _) hold
    rw [hcontent]
  | some old =>
    have hcontent : c.content (.of call.first call.second) =
        some (old.parameters, old.output.value) := congrArg (Option.map _) hold
    have hreject : (c.config.reuse && old.parameters.same desired) = false := h desired old hop hold
    simp only [hcontent, hreject, Bool.false_eq_true, if_false]

inductive Effect (a : Algorithm) (c : Cache) : Step → Cache → Prop
  | starts {id first second operation d} (hid : c.calls.get? id = none)
      (hcalls : d.calls = c.calls.insert id { first, second, operation })
      (hcontent : d.content = c.content) : Effect a c (.start id first second operation) d
  | goesOn {s id call stage d} (hs : s.isInner = true) (hid : c.calls.get? id = some call)
      (hbefore : call.reply? = none) (hafter : (call.moved stage).reply? = none)
      (hcalls : d.calls = c.calls.insert id (call.moved stage))
      (hcontent : d.content = c.content) : Effect a c s d
  | replies {s id call stage reply d} (hs : s.isInner = true) (hid : c.calls.get? id = some call)
      (hbefore : call.reply? = none) (hafter : (call.moved stage).reply? = some reply)
      (hcalls : d.calls = c.calls.insert id (call.moved stage))
      (hask : c.content.ask a c.config.reuse call.ask = (d.content, reply)) : Effect a c s d
  | leaves {id : CallId} {call : Call} {d : Cache} (hid : c.calls.get? id = some call)
      (hcalls : d.calls = c.calls.erase id) (hcontent : d.content = c.content) :
      Effect a c (.leave id) d
  | clears {d : Cache} (hcalls : d.calls = c.calls) (hcontent : d.content = .empty) :
      Effect a c .clear d

theorem Takes.effect (hs : c.Takes s d) (hr : c.Refused) (hsource : c.Sourced a)
    (hx : a.Explains c s) : c.Effect a s d := by
  have quiet : ∀ {call : Call} {stage}, call.stage = stage → stage.isLeaving = false →
      call.reply? = none := by
    rintro call _ rfl h
    exact Call.reply?_of_not_leaving h
  have refused : ∀ {id call}, c.calls.get? id = some call → call.stage.isInside = true →
      c.Refuses call := fun {id call} => hr id call
  cases hs with
  | start hid => exact .starts hid rfl rfl
  | remove hid hstage hop =>
    refine .replies rfl hid (quiet hstage rfl) rfl rfl ?_
    simp only [Call.ask, hop, Plain.ask, isSome_content]
    exact congrArg (·, _) (content_erase c _).symm
  | hit hid hstage hop hin hold haccept =>
    exact .replies rfl hid (quiet hstage rfl) rfl rfl (ask_of_accepts hop hold haccept)
  | fail hid hstage hop =>
    refine .replies rfl hid (quiet hstage rfl) rfl rfl ?_
    rw [(refused hid (by rw [hstage]; rfl)).ask hop]
    rcases hx.outcome_eq hid hop with heq | heq
    · exact Plain.run_of_failed heq
    · cases heq
  | @store id call new hid hstage =>
    obtain ⟨hfirst, hsecond, hop⟩ := hsource.carries id call hid new hstage
    have hmade := hsource.making id call hid new hstage
    refine .replies rfl hid (quiet hstage rfl) rfl rfl ?_
    rw [(refused hid (by rw [hstage]; rfl)).ask hop, ← hfirst, ← hsecond, Plain.run_of_done hmade]
    exact congrArg (·, _) (content_put c new).symm
  | leave hid => exact .leaves hid rfl rfl
  | clear => exact .clears rfl rfl
  | _ => exact .goesOn rfl ‹_› (quiet ‹_› rfl) rfl rfl rfl

end Cache

end PairCache
