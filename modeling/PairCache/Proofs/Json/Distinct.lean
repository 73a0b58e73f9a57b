import PairCache.Proofs.Json.RoundTrip

/-!
Two values never have the same text (`compact_injective`). Texts are compared from the left: the first
character tells the kind of value, and each part of a text says where it ends.
-/
namespace PairCache.Json

inductive Kind where
  | null
  | bool
  | number
  | string
  | array
  | object
deriving DecidableEq

def kind : Json → Kind
  | .null => .null
  | .bool _ => .bool
  | .number _ => .number
  | .string _ => .string
  | .array _ => .array
  | .object _ => .object

def kindOf (c : Char) : Kind :=
  if c = 'n' then .null
  else if c = 't' ∨ c = 'f' then .bool
  else if c = '"' then .string
  else if c = '[' then .array
  else if c = '\x7b' then .object
  else .number

theorem kindOf_startsNumber {c : Char} (h : startsNumber c = true) : kindOf c = .number := by
  have hother : ∀ d, startsNumber d = false → c ≠ d := by
    rintro d hd rfl
    cases h.symm.trans hd
  rw [kindOf, if_neg (hother 'n' rfl), if_neg (not_or_intro (hother 't' rfl) (hother 'f' rfl)),
    if_neg (hother '"' rfl), if_neg (hother '[' rfl), if_neg (hother '\x7b' rfl)]

theorem kindOf_compact (v : Json) : ∃ c cs, v.compact = c :: cs ∧ kindOf c = v.kind := by
  cases v with
  | null => exact ⟨_, _, rfl, rfl⟩
  | bool b => cases b <;> exact ⟨_, _, rfl, rfl⟩
  | number n =>
    obtain ⟨c, cs, hcs, hstarts⟩ := n.write_opens
    exact ⟨c, cs, hcs, kindOf_startsNumber hstarts⟩
  | string s => exact ⟨_, _, rfl, rfl⟩
  | array => exact ⟨_, _, compact_array _, rfl⟩
  | object => exact ⟨_, _, compact_object _, rfl⟩

theorem kind_eq_of_compact {v w : Json} {r s : List Char} (h : v.compact ++ r = w.compact ++ s) :
    v.kind = w.kind := by
  obtain ⟨c, cs, hv, hc⟩ := kindOf_compact v
  obtain ⟨d, ds, hw, hd⟩ := kindOf_compact w
  rw [hv, hw] at h
  rw [← hc, ← hd, (List.cons.inj h).1]

/-- The text of `x` shows where it ends, and is no other's text. -/
def Splits {α : Type} (write : α → List Char) (x : α) : Prop :=
  ∀ y r s, EndsNumber r → EndsNumber s → write x ++ r = write y ++ s → x = y ∧ r = s

theorem splits_number (n : Number) : Splits Number.write n := by
  intro m r s hr hs h
  obtain ⟨htake, hdrop⟩ := span_append (fun _ => n.isNumeric_write) hr
  obtain ⟨htake', hdrop'⟩ := span_append (fun _ => m.isNumeric_write) hs
  rw [h] at htake hdrop
  exact ⟨Number.write_injective (htake.symm.trans htake'), hdrop.symm.trans hdrop'⟩

theorem quote_split {s t : String} {r r' : List Char} (h : quote s ++ r = quote t ++ r') :
    s = t ∧ r = r' := by
  rw [quote_append, quote_append] at h
  have hread := textBody_escaped s.toList r
  rw [(List.cons.inj h).2, textBody_escaped] at hread
  obtain ⟨htexts, hrests⟩ := Prod.mk.inj (Except.ok.inj hread)
  exact ⟨(String.toList_inj.mp htexts).symm, hrests.symm⟩

section Lists

variable {α : Type} {close : Char} {write : α → List Char} {xs ys : List α} {r s : List Char}

theorem continued_split (hcomma : close ≠ ',') (hnumeric : isNumeric close = false)
    (hxs : ∀ x ∈ xs, Splits write x)
    (h : continued close write xs ++ r = continued close write ys ++ s) : xs = ys ∧ r = s := by
  induction xs generalizing ys with
  | nil =>
    cases ys with
    | nil => exact ⟨rfl, (List.cons.inj h).2⟩
    | cons y ys => exact absurd (List.cons.inj h).1 hcomma
  | cons x xs ih =>
    cases ys with
    | nil => exact absurd (List.cons.inj h).1.symm hcomma
    | cons y ys =>
      rw [continued, continued, List.cons_append, List.cons_append, List.append_assoc,
        List.append_assoc] at h
      obtain ⟨rfl, hrest⟩ := hxs x List.mem_cons_self y _ _ (endsNumber_continued close hnumeric write xs r)
        (endsNumber_continued close hnumeric write ys s) (List.cons.inj h).2
      obtain ⟨rfl, hend⟩ := ih (fun z hz => hxs z (List.mem_cons_of_mem _ hz)) hrest
      exact ⟨rfl, hend⟩

theorem listed_split (hcomma : close ≠ ',') (hnumeric : isNumeric close = false)
    (hopens : ∀ x, ∃ c cs, write x = c :: cs ∧ c ≠ close) (hxs : ∀ x ∈ xs, Splits write x)
    (h : listed close write xs ++ r = listed close write ys ++ s) : xs = ys ∧ r = s := by
  cases xs with
  | nil =>
    cases ys with
    | nil => exact ⟨rfl, (List.cons.inj h).2⟩
    | cons y ys =>
      obtain ⟨c, cs, hcs, hc⟩ := hopens y
      rw [listed, listed, hcs] at h
      exact absurd (List.cons.inj h).1.symm hc
  | cons x xs =>
    cases ys with
    | nil =>
      obtain ⟨c, cs, hcs, hc⟩ := hopens x
      rw [listed, listed, hcs] at h
      exact absurd (List.cons.inj h).1 hc
    | cons y ys =>
      exact continued_split hcomma hnumeric hxs (congrArg (',' :: ·) h)

end Lists

theorem splits_member {m : String × Json} (h : Splits compact m.2) : Splits writeMember m := by
  intro n r s hr hs htexts
  rw [writeMember, writeMember, List.append_assoc, List.append_assoc] at htexts
  obtain ⟨hkeys, htexts⟩ := quote_split htexts
  obtain ⟨hvalues, hrests⟩ := h n.2 r s hr hs (List.cons.inj htexts).2
  exact ⟨Prod.ext hkeys hvalues, hrests⟩

theorem splits_compact (v : Json) : Splits compact v := by
  -- the other value is of the same kind, since the two texts begin with the same character
  induction v using Json.induct with
  | null =>
    intro w r s _ _ h
    have hkind := kind_eq_of_compact h
    cases w with
    | null => exact ⟨rfl, List.append_cancel_left h⟩
    | _ => cases hkind
  | bool b =>
    intro w r s _ _ h
    have hkind := kind_eq_of_compact h
    cases w with
    | bool c =>
      cases b <;> cases c
      · exact ⟨rfl, List.append_cancel_left h⟩
      · cases (List.cons.inj h).1
      · cases (List.cons.inj h).1
      · exact ⟨rfl, List.append_cancel_left h⟩
    | _ => cases hkind
  | number n =>
    intro w r s hr hs h
    have hkind := kind_eq_of_compact h
    cases w with
    | number m =>
      obtain ⟨rfl, hrest⟩ := splits_number n m r s hr hs h
      exact ⟨rfl, hrest⟩
    | _ => cases hkind
  | string t =>
    intro w r s _ _ h
    have hkind := kind_eq_of_compact h
    cases w with
    | string u =>
      obtain ⟨rfl, hrest⟩ := quote_split h
      exact ⟨rfl, hrest⟩
    | _ => cases hkind
  | array xs ih =>
    intro w r s _ _ h
    have hkind := kind_eq_of_compact h
    cases w with
    | array ys =>
      rw [compact_array, compact_array] at h
      have hopens : ∀ x : Json, ∃ c cs, x.compact = c :: cs ∧ c ≠ ']' := by
        intro x
        obtain ⟨c, cs, hcs, _, hc⟩ := compact_opens x
        exact ⟨c, cs, hcs, hc⟩
      obtain ⟨rfl, hrest⟩ := listed_split (by decide) (by decide) hopens ih (List.cons.inj h).2
      exact ⟨rfl, hrest⟩
    | _ => cases hkind
  | object ms ih =>
    intro w r s _ _ h
    have hkind := kind_eq_of_compact h
    cases w with
    | object ns =>
      rw [compact_object, compact_object] at h
      have hopens : ∀ m, ∃ c cs, writeMember m = c :: cs ∧ c ≠ '\x7d' :=
        fun m => ⟨'"', _, rfl, by decide⟩
      obtain ⟨rfl, hrest⟩ := listed_split (by decide) (by decide) hopens
        (fun m hm => splits_member (ih m hm)) (List.cons.inj h).2
      exact ⟨rfl, hrest⟩
    | _ => cases hkind

theorem compact_injective {v w : Json} (h : v.compact = w.compact) : v = w :=
  (splits_compact v w [] [] endsNumber_nil endsNumber_nil (by rw [h])).1

theorem text_injective {v w : Json} (h : v.text = w.text) : v = w :=
  compact_injective (String.ofList_injective h)

end PairCache.Json
