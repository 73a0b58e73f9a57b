import PairCache.CommandLine.Read
import PairCache.Proofs.CommandLine.Entry

/-!
Command lines that are lists of option groups: an option with its value after it or joined to it, or a
switch alone. Which of them are read, and as what, is known group by group (`readArguments_eq_ok_iff`),
although the reader learns of a value only when the next option begins.
-/
namespace PairCache.CommandLine

variable {k : Key} {value : String} {p q : Progress} {item : Item}

namespace Key

theorem equals_notMem_name (k : Key) : '=' ∉ k.name.toList := by
  cases k <;> decide

theorem ofName?_name (k : Key) : ofName? k.name.toList = some k := by
  cases k <;> rfl

theorem name_ne_help (k : Key) : k.name.toList ≠ "help".toList := by
  cases k <;> decide

theorem name_ne_version (k : Key) : k.name.toList ≠ "version".toList := by
  cases k <;> decide

theorem exists_name (k : Key) : ∃ c cs, k.name.toList = c :: cs := by
  cases k <;> exact ⟨_, _, rfl⟩

theorem isRepeatable_iff : k.isRepeatable = true ↔ k = .base := by
  cases k <;> decide

def switchItem (k : Key) : Item := if k = .json then .json true else .logJson true

theorem key_switchItem (h : k.isSwitch = true) : k.switchItem.key = k := by
  cases k <;> first | rfl | cases h

theorem key_of_map {α : Type} {x : Except ValueFault α} {f : α → Item} (hf : ∀ a, (f a).key = k)
    (h : x.map f = .ok item) : item.key = k := by
  cases x with
  | error e => cases h
  | ok a =>
    obtain rfl := Except.ok.inj h
    exact hf a

theorem key_of_read (h : k.read value = .ok item) : item.key = k := by
  cases k with
  | first => obtain rfl := Except.ok.inj h; rfl
  | second => obtain rfl := Except.ok.inj h; rfl
  | label => obtain rfl := Except.ok.inj h; rfl
  | _ => exact key_of_map (fun _ => rfl) h

end Key

theorem toOption_bind {ε α β : Type} (x : Except ε α) (f : α → Except ε β) :
    (x >>= f).toOption = x.toOption.bind fun a => (f a).toOption := by
  cases x <;> rfl

theorem toOption_eq_some_iff {ε α : Type} {x : Except ε α} {a : α} :
    x.toOption = some a ↔ x = .ok a := by
  cases x <;> simp [Except.toOption]

theorem toOption_mapError {ε δ α : Type} (f : ε → δ) (x : Except ε α) :
    (x.mapError f).toOption = x.toOption := by
  cases x <;> rfl

namespace Progress

def adopt (item : Item) (p : Progress) : Except Stop Progress := do
  p.checkNew item.key
  return p.add item

theorem toOption_give (key : Key) (value : String) (p : Progress) :
    (p.give key value).toOption = (key.read value).toOption.bind fun item => (p.adopt item).toOption := by
  rw [give, toOption_bind]
  simp only [toOption_bind, readValue, toOption_mapError]
  cases hread : key.read value with
  | error e => cases (p.checkNew key).toOption <;> rfl
  | ok item =>
    change _ = (p.adopt item).toOption
    rw [adopt, toOption_bind, Key.key_of_read hread]
    rfl

theorem adopt_eq_ok_iff {r : Progress} : p.adopt item = .ok r ↔
    (item.key.isRepeatable = true ∨ has item.key p.items = false) ∧ r = p.add item := by
  have hcheck : p.checkNew item.key = .ok () ↔
      item.key.isRepeatable = true ∨ has item.key p.items = false := by
    rw [checkNew]
    cases item.key.isRepeatable <;> cases has item.key p.items <;> simp
  rw [← hcheck, adopt]
  cases p.checkNew item.key with
  | error e => exact ⟨nofun, nofun⟩
  | ok u => exact ⟨fun h => ⟨rfl, (Except.ok.inj h).symm⟩, fun h => congrArg Except.ok h.2.symm⟩

variable {s t : Stop}

theorem switch_of_unresolved (h : p.resolve = .error s) (key : Key) :
    p.switch key = .error s := by
  rw [switch, h]
  rfl

theorem option_of_unresolved (h : p.resolve = .error s) (key : Key) (value? : Option String) :
    ∃ t, p.option key value? = .error t := by
  cases hswitch : key.isSwitch with
  | true =>
    cases value? with
    | none => exact ⟨s, by simp only [option, hswitch, switch_of_unresolved h]⟩
    | some value => exact ⟨_, by simp only [option, hswitch]; rfl⟩
  | false =>
    cases value? with
    | none => exact ⟨s, by simp only [option, hswitch, h]; rfl⟩
    | some value => exact ⟨s, by simp only [option, hswitch, h]; rfl⟩

theorem stop_eq_error (p : Progress) (title : String) (s : Stop) (value? : Option String) :
    ∃ t, p.stop title s value? = .error t := by
  cases value? with
  | some value => exact ⟨_, rfl⟩
  | none =>
    cases h : p.resolve with
    | error t => exact ⟨t, by rw [stop, h]; rfl⟩
    | ok q => exact ⟨s, by rw [stop, h]; rfl⟩

theorem long_of_unresolved (h : p.resolve = .error s) (cs : List Char) :
    ∃ t, p.long cs = .error t := by
  unfold long
  split
  split
  · exact stop_eq_error _ _ _ _
  · split
    · exact stop_eq_error _ _ _ _
    · split
      · exact option_of_unresolved h _ _
      · exact ⟨_, rfl⟩

theorem short_eq_error (p : Progress) (c : Char) : ∃ t, p.short c = .error t := by
  unfold short
  split
  · exact stop_eq_error _ _ _ _
  · exact stop_eq_error _ _ _ _
  · exact ⟨_, rfl⟩

end Progress

inductive Group where
  | apart (key : Key) (value : String) (takes : key.isSwitch = false)
  | joined (key : Key) (value : String) (takes : key.isSwitch = false)
  | bare (key : Key) (switch : key.isSwitch = true)
deriving DecidableEq

/-- Whether the text can be the argument after the option: it begins with a hyphen only if it is nothing
else, or if a count is asked for and it is a negative number. -/
def Key.awaits (value : String) (k : Key) : Bool :=
  match value.toList with
  | '-' :: c :: rest => k = .count && c != '-' && Progress.isNumber (c :: rest)
  | _ => true

namespace Group

def key : Group → Key
  | .apart k _ _ | .joined k _ _ | .bare k _ => k

def arguments : Group → List String
  | .apart k value _ => ["--" ++ k.name, value]
  | .joined k value _ => ["--" ++ k.name ++ "=" ++ value]
  | .bare k _ => ["--" ++ k.name]

def item? : Group → Option Item
  | .apart k value _ => if k.awaits value then (k.read value).toOption else none
  | .joined k value _ => (k.read value).toOption
  | .bare k _ => some k.switchItem

theorem key_of_item? {g : Group} (h : g.item? = some item) : item.key = g.key := by
  cases g with
  | apart k value takes =>
    rw [item?] at h
    split at h
    · exact Key.key_of_read (toOption_eq_some_iff.mp h)
    · cases h
  | joined k value takes => exact Key.key_of_read (toOption_eq_some_iff.mp h)
  | bare k switch =>
    obtain rfl := Option.some.inj h
    exact Key.key_switchItem switch

end Group

namespace Progress

variable {s : Stop}

theorem argument_of_hyphens {a : String} {c : Char} {cs : List Char} (h : p.ended = false)
    (hlist : a.toList = '-' :: '-' :: c :: cs) : p.argument a = p.long (c :: cs) := by
  rw [argument, h, hlist]
  rfl

theorem argument_name (h : p.ended = false) (key : Key) :
    p.argument ("--" ++ key.name) = p.option key none := by
  obtain ⟨c, cs, hname⟩ := key.exists_name
  have hlist : ("--" ++ key.name).toList = '-' :: '-' :: c :: cs := by simp [hname]
  rw [argument_of_hyphens h hlist, ← hname, long, splitAtEquals?_of_notMem key.equals_notMem_name]
  simp only [key.name_ne_help, key.name_ne_version, key.ofName?_name, if_false]

theorem argument_joined (h : p.ended = false) (key : Key) (value : String) :
    p.argument ("--" ++ key.name ++ "=" ++ value) = p.option key (some value) := by
  obtain ⟨c, cs, hname⟩ := key.exists_name
  have hlist : ("--" ++ key.name ++ "=" ++ value).toList =
      '-' :: '-' :: c :: (cs ++ '=' :: value.toList) := by
    simp [hname]
  rw [argument_of_hyphens h hlist, ← List.cons_append, ← hname, long,
    splitAtEquals?_append key.equals_notMem_name]
  simp only [key.name_ne_help, key.name_ne_version, key.ofName?_name, if_false, String.ofList_toList]

def arguments (as : List String) (p : Progress) : Except Stop Progress :=
  as.foldlM (fun p a => p.argument a) p

theorem arguments_apart (hended : p.ended = false) (h : p.resolve = .ok q) (takes : k.isSwitch = false)
    (value : String) :
    p.arguments (Group.apart k value takes).arguments =
      { q with pending := some (k, none) }.argument value := by
  simp only [arguments, Group.arguments, List.foldlM_cons, List.foldlM_nil, bind_pure,
    argument_name hended, option, takes, h]
  rfl

theorem arguments_joined (hended : p.ended = false) (h : p.resolve = .ok q) (takes : k.isSwitch = false)
    (value : String) : p.arguments (Group.joined k value takes).arguments = q.give k value := by
  simp only [arguments, Group.arguments, List.foldlM_cons, List.foldlM_nil, bind_pure,
    argument_joined hended, option, takes, h]
  rfl

theorem arguments_bare (hended : p.ended = false) (h : p.resolve = .ok q) (switch : k.isSwitch = true) :
    p.arguments (Group.bare k switch).arguments = q.adopt k.switchItem := by
  simp only [arguments, Group.arguments, List.foldlM_cons, List.foldlM_nil, bind_pure,
    argument_name hended, option, switch, Progress.switch, adopt, Key.key_switchItem switch, h]
  rfl

theorem argument_of_word {a : String} (h : p.ended = false)
    (hword : ∀ c rest, a.toList ≠ '-' :: c :: rest) : p.argument a = p.word a := by
  rw [argument, h]
  split
  · contradiction
  · split
    · next heq => exact (hword _ _ heq).elim
    · next heq => exact (hword _ _ heq).elim
    · next heq => exact (hword _ _ heq).elim
    · rfl

theorem argument_of_hyphen {a : String} {c : Char} {rest : List Char} (h : p.ended = false)
    (hc : c ≠ '-') (hlist : a.toList = '-' :: c :: rest) :
    p.argument a = if p.takesNegative (c :: rest) then p.word a else p.short c := by
  simp [argument, h, hlist, hc]

theorem takesNegative_eq_and (h : p.pending = some (k, none)) (cs : List Char) :
    p.takesNegative cs = (decide (k = .count) && isNumber cs) := by
  rw [takesNegative, h]
  cases k <;> rfl

theorem argument_of_awaits (hended : p.ended = false) (hpending : p.pending = some (k, none))
    (h : k.awaits value = true) :
    p.argument value = .ok { p with pending := some (k, some value) } := by
  have hword : p.word value = .ok { p with pending := some (k, some value) } := by
    rw [word, hpending]
  rw [← hword]
  rw [Key.awaits] at h
  split at h
  · next c rest hlist =>
    simp only [Bool.and_eq_true, decide_eq_true_eq, bne_iff_ne] at h
    obtain ⟨⟨rfl, hc⟩, hnumber⟩ := h
    rw [argument_of_hyphen hended hc hlist, takesNegative_eq_and hpending, hnumber]
    rfl
  · next hlist => exact argument_of_word hended hlist

theorem argument_of_not_awaits (hended : p.ended = false) (hpending : p.pending = some (k, none))
    (h : k.awaits value = false) :
    p.argument value = .ok { p with ended := true } ∨ ∃ s, p.argument value = .error s := by
  have hresolve : p.resolve = .error (.invalidValue k "") := by rw [resolve, hpending]
  rw [Key.awaits] at h
  split at h
  · next c rest hlist =>
    by_cases hc : c = '-'
    · subst hc
      rw [argument, hended, hlist]
      cases rest with
      | nil => exact .inl rfl
      | cons c rest => exact .inr (long_of_unresolved hresolve _)
    · have hnumber : (decide (k = .count) && isNumber (c :: rest)) = false := by simpa [hc] using h
      rw [argument_of_hyphen hended hc hlist, takesNegative_eq_and hpending, hnumber]
      exact .inr (short_eq_error p c)
  · cases h

theorem exists_of_resolve (h : p.resolve = .ok q) : ∃ items, q = { items, ended := p.ended } := by
  rw [resolve] at h
  split at h
  · next hpending =>
    obtain rfl := Except.ok.inj h
    exact ⟨p.items, by rw [← hpending]⟩
  · cases h
  · next key value hpending =>
    have hgive := toOption_eq_some_iff.mpr h
    rw [toOption_give] at hgive
    obtain ⟨item, -, hadopt⟩ := Option.bind_eq_some_iff.mp hgive
    obtain ⟨-, rfl⟩ := adopt_eq_ok_iff.mp (toOption_eq_some_iff.mp hadopt)
    exact ⟨p.items ++ [item], rfl⟩

def take? (p : Progress) (g : Group) : Option Progress := g.item?.bind fun item => (p.adopt item).toOption

/-- The arguments are refused at once, or lead to progress that comes to `result` when it is resolved. -/
def Leads (p : Progress) (as : List String) (result : Option Progress) : Prop :=
  (result = none ∧ ∃ s, p.arguments as = .error s) ∨
  ∃ r, p.arguments as = .ok r ∧ r.resolve.toOption = result ∧ (r.ended = true → result = none)

theorem leads_of_adopted {items : List Item} {g : Group} {as : List String}
    (h : (p.arguments as).toOption = ({ items } : Progress).take? g) :
    p.Leads as (({ items } : Progress).take? g) := by
  cases has : p.arguments as with
  | error s =>
    rw [has] at h
    exact .inl ⟨h.symm, s, has⟩
  | ok r =>
    rw [has] at h
    obtain ⟨item, -, hadopt⟩ := Option.bind_eq_some_iff.mp h.symm
    obtain ⟨-, rfl⟩ := adopt_eq_ok_iff.mp (toOption_eq_some_iff.mp hadopt)
    exact .inr ⟨_, has, h, nofun⟩

theorem leads_apart {items : List Item} (hended : p.ended = false) (h : p.resolve = .ok { items })
    (takes : k.isSwitch = false) (value : String) :
    p.Leads (Group.apart k value takes).arguments
      (({ items } : Progress).take? (.apart k value takes)) := by
  have hargs := arguments_apart hended h takes value
  let waiting : Progress := { items, pending := some (k, none) }
  have hopen : waiting.ended = false := rfl
  have hpending : waiting.pending = some (k, none) := rfl
  cases hawaits : k.awaits value with
  | true =>
    refine .inr ⟨_, hargs.trans (argument_of_awaits hopen hpending hawaits), ?_, nofun⟩
    rw [take?, Group.item?, if_pos hawaits]
    exact toOption_give k value { items }
  | false =>
    have hnone : ({ items } : Progress).take? (.apart k value takes) = none := by
      rw [take?, Group.item?, hawaits]
      rfl
    rcases argument_of_not_awaits hopen hpending hawaits with hargument | ⟨s, hargument⟩
    · exact .inr ⟨_, hargs.trans hargument, hnone.symm, fun _ => hnone⟩
    · exact .inl ⟨hnone, s, hargs.trans hargument⟩

theorem leads_group (hended : p.ended = false) (h : p.resolve = .ok q) (g : Group) :
    p.Leads g.arguments (q.take? g) := by
  obtain ⟨items, rfl⟩ := exists_of_resolve h
  rw [hended] at h ⊢
  cases g with
  | apart k value takes => exact leads_apart hended h takes value
  | joined k value takes =>
    refine leads_of_adopted ?_
    rw [arguments_joined hended h takes]
    exact toOption_give k value { items }
  | bare k switch =>
    refine leads_of_adopted ?_
    rw [arguments_bare hended h switch]
    rfl

def finish (as : List String) (p : Progress) : Except Stop Progress := do (← p.arguments as).resolve

theorem finish_append (before after : List String) (p : Progress) :
    p.finish (before ++ after) = p.arguments before >>= fun q => q.finish after := by
  rw [finish, arguments, List.foldlM_append, bind_assoc]
  rfl

theorem argument_of_unresolved (h : p.resolve = .error s) (g : Group) :
    ∃ a rest t, g.arguments = a :: rest ∧ p.argument a = .error t := by
  cases hended : p.ended with
  | true =>
    have hargument : ∀ a, p.argument a = .error (.unknownArgument a) := by
      intro a
      rw [argument, hended]
      rfl
    cases g <;> exact ⟨_, _, _, rfl, hargument _⟩
  | false =>
    cases g with
    | apart k value takes =>
      obtain ⟨t, ht⟩ := option_of_unresolved h k none
      exact ⟨_, _, t, rfl, (argument_name hended k).trans ht⟩
    | joined k value takes =>
      obtain ⟨t, ht⟩ := option_of_unresolved h k (some value)
      exact ⟨_, _, t, rfl, (argument_joined hended k value).trans ht⟩
    | bare k switch =>
      obtain ⟨t, ht⟩ := option_of_unresolved h k none
      exact ⟨_, _, t, rfl, (argument_name hended k).trans ht⟩

theorem finish_of_unresolved (h : p.resolve = .error s) (gs : List Group) :
    (p.finish (gs.flatMap Group.arguments)).toOption = none := by
  cases gs with
  | nil =>
    change p.resolve.toOption = none
    rw [h]
    rfl
  | cons g gs =>
    obtain ⟨a, rest, t, hargs, hargument⟩ := argument_of_unresolved h g
    rw [List.flatMap_cons, hargs, finish, List.cons_append, arguments, List.foldlM_cons, hargument]
    rfl

theorem toOption_finish (hended : p.ended = false) (gs : List Group) :
    (p.finish (gs.flatMap Group.arguments)).toOption = p.resolve.toOption.bind (gs.foldlM take?) := by
  -- `p` may still owe the value of the group before `gs`, and what is owed is read by `resolve`
  induction gs generalizing p with
  | nil =>
    change p.resolve.toOption = p.resolve.toOption.bind some
    rw [Option.bind_fun_some]
  | cons g gs ih =>
    cases h : p.resolve with
    | error s => exact finish_of_unresolved h (g :: gs)
    | ok q =>
      change _ = (q.take? g).bind (gs.foldlM take?)
      rw [List.flatMap_cons, finish_append]
      rcases leads_group hended h g with ⟨hnone, s, hargs⟩ | ⟨r, hargs, hresolve, hover⟩
      · rw [hargs, hnone]
        rfl
      · rw [hargs, ← hresolve]
        change (r.finish _).toOption = _
        cases hr : r.ended with
        | false => exact ih hr
        | true =>
          have hnone : r.resolve.toOption = none := hresolve.trans (hover hr)
          cases hr' : r.resolve with
          | error s => exact finish_of_unresolved hr' gs
          | ok q' => rw [hr'] at hnone; cases hnone

end Progress

def Sparing (groups : List Group) : Prop :=
  groups.Pairwise fun g h => g.key = h.key → g.key.isRepeatable = true

theorem has_append_singleton (k : Key) (items : List Item) (item : Item) :
    has k (items ++ [item]) = (has k items || decide (item.key = k)) := by
  simp [has]

namespace Progress

theorem take?_eq_some_iff {g : Group} {r : Progress} : p.take? g = some r ↔
    ∃ item, g.item? = some item ∧ (g.key.isRepeatable = true ∨ has g.key p.items = false) ∧
      r = p.add item := by
  rw [take?, Option.bind_eq_some_iff]
  refine exists_congr fun item => and_congr_right fun hitem => ?_
  rw [toOption_eq_some_iff, adopt_eq_ok_iff, Group.key_of_item? hitem]

theorem foldlM_take?_eq_some_iff {gs : List Group} {r : Progress} : gs.foldlM take? p = some r ↔
    (∀ g ∈ gs, g.item?.isSome = true) ∧ Sparing gs ∧
      (∀ g ∈ gs, g.key.isRepeatable = true ∨ has g.key p.items = false) ∧
      r = { p with items := p.items ++ gs.filterMap Group.item? } := by
  induction gs generalizing p with
  | nil =>
    rw [List.foldlM_nil, List.filterMap_nil, List.append_nil]
    refine ⟨fun h => ⟨nofun, .nil, nofun, (Option.some.inj h).symm⟩, ?_⟩
    rintro ⟨-, -, -, rfl⟩
    rfl
  | cons g gs ih =>
    rw [List.foldlM_cons]
    change (p.take? g).bind (gs.foldlM take?) = some r ↔ _
    simp only [Option.bind_eq_some_iff, take?_eq_some_iff, ih, List.forall_mem_cons, Sparing,
      List.pairwise_cons]
    constructor
    · rintro ⟨q, ⟨item, hitem, hnew, rfl⟩, hall, hsparing, hfresh, rfl⟩
      refine ⟨⟨by rw [hitem]; rfl, hall⟩, ⟨fun g' hg' heq => ?_, hsparing⟩,
        ⟨hnew, fun g' hg' => ?_⟩, ?_⟩
      · have hkey := hfresh g' hg'
        simp only [add, has_append_singleton, Group.key_of_item? hitem, heq] at hkey
        simpa [heq] using hkey
      · refine (hfresh g' hg').imp_right fun h => ?_
        rw [add, has_append_singleton, Bool.or_eq_false_iff] at h
        exact h.1
      · simp [add, hitem]
    · rintro ⟨⟨hsome, hall⟩, ⟨hapart, hsparing⟩, ⟨hnew, hfresh⟩, rfl⟩
      obtain ⟨item, hitem⟩ := Option.isSome_iff_exists.mp hsome
      refine ⟨p.add item, ⟨item, hitem, hnew, rfl⟩, hall, hsparing, fun g' hg' => ?_, ?_⟩
      · by_cases heq : g.key = g'.key
        · exact .inl (heq ▸ hapart g' hg' heq)
        · refine (hfresh g' hg').imp_right fun h => ?_
          rw [add, has_append_singleton, h, Group.key_of_item? hitem]
          simpa using heq
      · simp [add, hitem]

end Progress

theorem readArguments_eq_bind (as : List String) :
    readArguments as = ({} : Progress).finish as >>= fun p => pure p.items := by
  rw [readArguments, Progress.finish, bind_assoc]
  rfl

theorem toOption_readArguments (as : List String) :
    (readArguments as).toOption = (({} : Progress).finish as).toOption.map Progress.items := by
  rw [readArguments_eq_bind]
  cases ({} : Progress).finish as <;> rfl

/-- A list of groups is read if each says something and none is repeated that may not be, and then they
say their items in their order. -/
theorem readArguments_eq_ok_iff {groups : List Group} {items : List Item} :
    readArguments (groups.flatMap Group.arguments) = .ok items ↔
      (∀ g ∈ groups, g.item?.isSome = true) ∧ Sparing groups ∧ items = groups.filterMap Group.item? := by
  have hempty : (({} : Progress).resolve).toOption = some {} := rfl
  rw [← toOption_eq_some_iff, toOption_readArguments, Progress.toOption_finish rfl, hempty, Option.bind_some,
    Option.map_eq_some_iff]
  simp only [Progress.foldlM_take?_eq_some_iff]
  constructor
  · rintro ⟨p, ⟨hall, hsparing, -, rfl⟩, rfl⟩
    exact ⟨hall, hsparing, List.nil_append _⟩
  · rintro ⟨hall, hsparing, rfl⟩
    exact ⟨_, ⟨hall, hsparing, fun _ _ => .inr rfl, rfl⟩, List.nil_append _⟩

end PairCache.CommandLine
