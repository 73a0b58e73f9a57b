import PairCache.Proofs.Json.Basic
import PairCache.Proofs.Json.Numbers
import PairCache.Proofs.Sorted

/-!
The text of a value free of floats is read back as the value (`value_compact`). The loops over items and
members are taken apart first: each is a chain of steps, one for each item written (`Collects`).
-/
namespace PairCache.Json

inductive Collects {σ α : Type} (takes : σ → α → σ → Prop) : σ → List α → σ → Prop
  | nil (acc : σ) : Collects takes acc [] acc
  | cons {acc mid last : σ} {x : α} {xs : List α} (hfirst : takes acc x mid)
      (hrest : Collects takes mid xs last) : Collects takes acc (x :: xs) last

theorem collects_foldl {σ α : Type} {takes : σ → α → σ → Prop} {put : σ → α → σ} {xs : List α}
    (h : ∀ x ∈ xs, ∀ acc, takes acc x (put acc x)) (acc : σ) :
    Collects takes acc xs (xs.foldl put acc) := by
  induction xs generalizing acc with
  | nil => exact .nil acc
  | cons x xs ih =>
    exact .cons (h x List.mem_cons_self acc) (ih (fun y hy => h y (List.mem_cons_of_mem _ hy)) _)

theorem Collects.of_map {σ α β : Type} {takes : σ → β → σ → Prop} {f : α → β} {acc last : σ}
    {xs : List α} (h : Collects (fun acc x next => takes acc (f x) next) acc xs last) :
    Collects takes acc (xs.map f) last := by
  induction h with
  | nil acc => exact .nil acc
  | cons hfirst _ ih => exact .cons hfirst ih

theorem skipBlanks_cons {c : Char} (cs : List Char) (h : isBlank c = false) :
    skipBlanks (c :: cs) = c :: cs := by
  simp [skipBlanks, h]

theorem expect_cons {c : Char} (cs : List Char) (h : isBlank c = false) :
    expect c (c :: cs) = .ok cs := by
  rw [expect, skipBlanks_cons cs h]
  simp

def OpensItem (cs : List Char) : Prop := ∃ c rest, cs = c :: rest ∧ isBlank c = false ∧ c ≠ ']'

theorem OpensItem.item?_first {cs : List Char} (h : OpensItem cs) (rest : List Char) :
    item? true (cs ++ rest) = .ok (some (cs ++ rest)) := by
  obtain ⟨c, cs, rfl, hblank, hclose⟩ := h
  rw [List.cons_append, item?, skipBlanks_cons _ hblank]
  simp [hclose]

theorem OpensItem.item?_next {cs : List Char} (h : OpensItem cs) (rest : List Char) :
    item? false (',' :: (cs ++ rest)) = .ok (some (cs ++ rest)) := by
  obtain ⟨c, cs, rfl, hblank, hclose⟩ := h
  rw [item?, skipBlanks_cons _ (by decide)]
  simp [skipBlanks_cons _ hblank, hclose]

theorem item?_close (first : Bool) (rest : List Char) : item? first (']' :: rest) = .ok none := by
  rw [item?, skipBlanks_cons _ (by decide)]
  simp

section Items

variable {σ α : Type} {step : σ → Reader σ} {write : α → List Char} {acc last : σ} {xs : List α}

def TakesItem (step : σ → Reader σ) (write : α → List Char) (acc : σ) (x : α) (next : σ) : Prop :=
  OpensItem (write x) ∧
    ∀ rest, EndsNumber rest → step acc (write x ++ rest) = .ok (next, rest)

theorem endsNumber_continued (close : Char) (h : isNumeric close = false) (write : α → List Char)
    (xs : List α) (rest : List Char) : EndsNumber (continued close write xs ++ rest) := by
  cases xs with
  | nil => exact endsNumber_cons _ h
  | cons x xs => exact endsNumber_cons _ (by decide)

theorem items_close (first : Bool) (fuel : Nat) (acc : σ) (rest : List Char) :
    items step (fuel + 1) first acc (']' :: rest) = .ok (acc, rest) := by
  simp only [items, item?_close, bind, Except.bind, expect_cons rest (c := ']') (by decide)]
  rfl

theorem items_next {x : α} {mid : σ} (h : TakesItem step write acc x mid) (fuel : Nat)
    {rest : List Char} (hrest : EndsNumber rest) :
    items step (fuel + 1) false acc (',' :: (write x ++ rest)) = items step fuel false mid rest := by
  obtain ⟨hopens, hstep⟩ := h
  simp only [items, hopens.item?_next, bind, Except.bind, hstep rest hrest]

theorem items_first {x : α} {mid : σ} (h : TakesItem step write acc x mid) (fuel : Nat)
    {rest : List Char} (hrest : EndsNumber rest) :
    items step (fuel + 1) true acc (write x ++ rest) = items step fuel false mid rest := by
  obtain ⟨hopens, hstep⟩ := h
  simp only [items, hopens.item?_first, bind, Except.bind, hstep rest hrest]

theorem items_continued (h : Collects (TakesItem step write) acc xs last) {fuel : Nat}
    (hfuel : xs.length < fuel) (rest : List Char) :
    items step fuel false acc (continued ']' write xs ++ rest) = .ok (last, rest) := by
  induction h generalizing fuel with
  | nil acc =>
    obtain ⟨fuel, rfl⟩ := Nat.exists_eq_add_one.mpr hfuel
    exact items_close false fuel acc rest
  | @cons acc mid last x xs hfirst _ ih =>
    obtain ⟨fuel, rfl⟩ := Nat.exists_eq_add_one.mpr (Nat.zero_lt_of_lt hfuel)
    have hends := endsNumber_continued ']' (by decide) write xs rest
    rw [continued, List.cons_append, List.cons_append, List.append_assoc, items_next hfirst fuel hends]
    exact ih (Nat.lt_of_succ_lt_succ hfuel)

theorem items_listed (h : Collects (TakesItem step write) acc xs last) {fuel : Nat}
    (hfuel : xs.length < fuel) (rest : List Char) :
    items step fuel true acc (listed ']' write xs ++ rest) = .ok (last, rest) := by
  obtain ⟨fuel, rfl⟩ := Nat.exists_eq_add_one.mpr (Nat.zero_lt_of_lt hfuel)
  cases h with
  | nil => exact items_close true fuel acc rest
  | @cons _ mid _ x xs hfirst hrest =>
    have hends := endsNumber_continued ']' (by decide) write xs rest
    rw [listed, List.append_assoc, items_first hfirst fuel hends]
    exact items_continued hrest (Nat.lt_of_succ_lt_succ hfuel) rest

end Items

section Members

variable {σ : Type} {step : σ → List Char → Reader σ} {acc last : σ} {ms : List (String × Json)}

def TakesMember (step : σ → List Char → Reader σ) (acc : σ) (m : String × Json) (next : σ) : Prop :=
  ∀ rest, EndsNumber rest →
    step acc m.1.toList (':' :: (m.2.compact ++ rest)) = .ok (next, rest)

theorem key?_close (first : Bool) (rest : List Char) :
    key? first ('\x7d' :: rest) = .ok none := by
  rw [key?, skipBlanks_cons _ (by decide)]
  simp

theorem key?_first (rest : List Char) : key? true ('"' :: rest) = .ok (some rest) := by
  rw [key?, skipBlanks_cons _ (by decide)]
  simp

theorem key?_next (rest : List Char) : key? false (',' :: '"' :: rest) = .ok (some rest) := by
  rw [key?, skipBlanks_cons _ (by decide)]
  simp [skipBlanks_cons rest (c := '"') (by decide)]

theorem members_close (first : Bool) (fuel : Nat) (acc : σ) (rest : List Char) :
    members step (fuel + 1) first acc ('\x7d' :: rest) = .ok (acc, rest) := by
  simp only [members, key?_close, bind, Except.bind, expect_cons rest (c := '\x7d') (by decide)]
  rfl

theorem writeMember_append (m : String × Json) (rest : List Char) :
    writeMember m ++ rest =
      '"' :: (m.1.toList.flatMap escape ++ '"' :: ':' :: (m.2.compact ++ rest)) := by
  rw [writeMember, List.append_assoc, quote_append]
  rfl

theorem members_next {m : String × Json} {mid : σ} (h : TakesMember step acc m mid) (fuel : Nat)
    {rest : List Char} (hrest : EndsNumber rest) :
    members step (fuel + 1) false acc (',' :: (writeMember m ++ rest)) =
      members step fuel false mid rest := by
  rw [writeMember_append]
  simp only [members, key?_next, bind, Except.bind, textBody_escaped, h rest hrest]

theorem members_first {m : String × Json} {mid : σ} (h : TakesMember step acc m mid) (fuel : Nat)
    {rest : List Char} (hrest : EndsNumber rest) :
    members step (fuel + 1) true acc (writeMember m ++ rest) = members step fuel false mid rest := by
  rw [writeMember_append]
  simp only [members, key?_first, bind, Except.bind, textBody_escaped, h rest hrest]

theorem members_continued (h : Collects (TakesMember step) acc ms last) {fuel : Nat}
    (hfuel : ms.length < fuel) (rest : List Char) :
    members step fuel false acc (continued '\x7d' writeMember ms ++ rest) = .ok (last, rest) := by
  induction h generalizing fuel with
  | nil acc =>
    obtain ⟨fuel, rfl⟩ := Nat.exists_eq_add_one.mpr hfuel
    exact members_close false fuel acc rest
  | @cons acc mid last m ms hfirst _ ih =>
    obtain ⟨fuel, rfl⟩ := Nat.exists_eq_add_one.mpr (Nat.zero_lt_of_lt hfuel)
    have hends := endsNumber_continued '\x7d' (by decide) writeMember ms rest
    rw [continued, List.cons_append, List.cons_append, List.append_assoc, members_next hfirst fuel hends]
    exact ih (Nat.lt_of_succ_lt_succ hfuel)

theorem members_listed (h : Collects (TakesMember step) acc ms last) {fuel : Nat}
    (hfuel : ms.length < fuel) (rest : List Char) :
    members step fuel true acc (listed '\x7d' writeMember ms ++ rest) = .ok (last, rest) := by
  obtain ⟨fuel, rfl⟩ := Nat.exists_eq_add_one.mpr (Nat.zero_lt_of_lt hfuel)
  cases h with
  | nil => exact members_close true fuel acc rest
  | @cons _ mid _ m ms hfirst hrest =>
    have hends := endsNumber_continued '\x7d' (by decide) writeMember ms rest
    rw [listed, List.append_assoc, members_first hfirst fuel hends]
    exact members_continued hrest (Nat.lt_of_succ_lt_succ hfuel) rest

theorem length_lt_listed_members (ms : List (String × Json)) (rest : List Char) :
    ms.length < (listed '\x7d' writeMember ms ++ rest).length + 1 := by
  have hlisted := length_le_listed '\x7d' writeMember ms fun m _ => by simp [writeMember, quote]
  rw [List.length_append]
  omega

end Members

theorem compact_opens (v : Json) : OpensItem v.compact := by
  cases v with
  | null => exact ⟨_, _, rfl, by decide, by decide⟩
  | bool b => cases b <;> exact ⟨_, _, rfl, by decide, by decide⟩
  | number n =>
    obtain ⟨c, cs, hcs, hstarts⟩ := n.write_opens
    refine ⟨c, cs, hcs, isBlank_of_startsNumber hstarts, ?_⟩
    rintro rfl
    cases hstarts
  | string s => exact ⟨_, _, rfl, by decide, by decide⟩
  | array => exact ⟨_, _, compact_array _, by decide, by decide⟩
  | object => exact ⟨_, _, compact_object _, by decide, by decide⟩

theorem length_lt_listed_items (xs : List Json) (rest : List Char) :
    xs.length < (listed ']' compact xs ++ rest).length + 1 := by
  have hlisted := length_le_listed ']' compact xs fun x _ => by
    obtain ⟨c, cs, hcs, _⟩ := compact_opens x
    simp [hcs]
  rw [List.length_append]
  omega

def isScalar : Json → Bool
  | .array _ | .object _ => false
  | _ => true

theorem scalar_number {c : Char} {cs rest : List Char} {n : Number} (hc : startsNumber c = true)
    (h : signed c cs = .ok (n, rest)) : scalar (c :: cs) = .ok (.number n, rest) := by
  have hletter : ∀ d, startsNumber d = false → c ≠ d := by
    rintro d hd rfl
    cases hc.symm.trans hd
  rw [scalar, if_neg (hletter 'n' rfl), if_neg (hletter 't' rfl), if_neg (hletter 'f' rfl),
    if_neg (hletter '"' rfl), if_pos hc, h]
  rfl

theorem scalar_compact {v : Json} (h : v.FloatFree) (hscalar : v.isScalar = true) {rest : List Char}
    (hrest : EndsNumber rest) : scalar (v.compact ++ rest) = .ok (v, rest) := by
  cases h with
  | null => rfl
  | bool b => cases b <;> rfl
  | whole i hi =>
    obtain ⟨c, cs, hcs, hstarts, hsigned⟩ := signed_ofInt hi hrest
    change scalar (Decimal.ofInt i ++ rest) = _
    rw [hcs]
    exact scalar_number hstarts hsigned
  | string s =>
    rw [compact, quote_append, scalar, if_neg (by decide), if_neg (by decide), if_neg (by decide),
      if_pos rfl, textBody_escaped]
    simp [Except.map]
  | array => cases hscalar
  | object => cases hscalar

def pushValue (depth : Nat) (acc : List Json) : Reader (List Json) :=
  fun cs => (value depth cs).map fun p => (p.1 :: acc, p.2)

def insertValue (depth : Nat) (acc : List (String × Json)) (key : List Char) :
    Reader (List (String × Json)) :=
  fun cs => ((expect ':' cs).bind (value depth)).map fun p =>
    (Sorted.insert (String.ofList key) p.1 acc, p.2)

theorem value_array {depth : Nat} (rest : List Char) : value (depth + 1) ('[' :: rest) =
    (items (pushValue depth) (rest.length + 1) true [] rest).map
      fun p => (.array p.1.reverse, p.2) := by
  rw [value, skipBlanks_cons _ (by decide)]
  change (items (pushValue depth) (rest.length + 1) true [] rest).bind _ = _
  cases items (pushValue depth) (rest.length + 1) true [] rest <;> rfl

theorem value_object {depth : Nat} (rest : List Char) : value (depth + 1) ('\x7b' :: rest) =
    (members (insertValue depth) (rest.length + 1) true [] rest).map
      fun p => (.object p.1, p.2) := by
  rw [value, skipBlanks_cons _ (by decide)]
  change (members (insertValue depth) (rest.length + 1) true [] rest).bind _ = _
  cases members (insertValue depth) (rest.length + 1) true [] rest <;> rfl

theorem value_scalar {v : Json} (h : v.FloatFree) (hscalar : v.isScalar = true) (depth : Nat)
    {rest : List Char} (hrest : EndsNumber rest) :
    value depth (v.compact ++ rest) = .ok (v, rest) := by
  have hread := scalar_compact h hscalar hrest
  obtain ⟨c, cs, hcs, hblank, _⟩ := compact_opens v
  cases depth with
  | zero =>
    rw [hcs, List.cons_append] at hread ⊢
    rw [value, skipBlanks_cons _ hblank, hread]
  | succ depth =>
    rw [hcs, List.cons_append] at hread ⊢
    rw [value, skipBlanks_cons _ hblank]
    split
    · rename_i heq
      cases heq
      cases hread
    · rename_i heq
      cases heq
      cases hread
    · rename_i heq
      exact hread

theorem value_array_of_items {xs : List Json} {depth : Nat}
    (hitems : ∀ x ∈ xs, ∀ rest, EndsNumber rest → value depth (x.compact ++ rest) = .ok (x, rest))
    (rest : List Char) :
    value (depth + 1) ((Json.array xs).compact ++ rest) = .ok (.array xs, rest) := by
  have hcollects : Collects (TakesItem (pushValue depth) compact) [] xs
      (xs.foldl (fun acc x => x :: acc) []) := by
    refine collects_foldl (fun x hx acc => ⟨compact_opens x, fun rest hrest => ?_⟩) []
    rw [pushValue, hitems x hx rest hrest]
    rfl
  rw [compact_array, List.cons_append, value_array,
    items_listed hcollects (length_lt_listed_items xs rest)]
  simp [Except.map]

theorem value_object_of_members {ms : List (String × Json)} {depth : Nat}
    (hmembers : ∀ m ∈ ms, ∀ rest, EndsNumber rest →
      value depth (m.2.compact ++ rest) = .ok (m.2, rest)) (rest : List Char) :
    value (depth + 1) ((Json.object ms).compact ++ rest) =
      .ok (.object (Sorted.ofList ms), rest) := by
  have hcollects : Collects (TakesMember (insertValue depth)) [] ms (Sorted.ofList ms) := by
    refine collects_foldl (fun m hm acc rest hrest => ?_) []
    simp only [insertValue, expect_cons _ (c := ':') (by decide), Except.bind,
      hmembers m hm rest hrest, Except.map, String.ofList_toList]
  rw [compact_object, List.cons_append, value_object,
    members_listed hcollects (length_lt_listed_members ms rest)]
  rfl

theorem value_compact {v : Json} (hform : v.WellFormed) (hfree : v.FloatFree) {depth : Nat}
    (hdepth : v.depth ≤ depth) {rest : List Char} (hrest : EndsNumber rest) :
    value depth (v.compact ++ rest) = .ok (v, rest) := by
  induction v using Json.induct generalizing depth rest with
  | null => exact value_scalar hfree rfl depth hrest
  | bool => exact value_scalar hfree rfl depth hrest
  | number => exact value_scalar hfree rfl depth hrest
  | string => exact value_scalar hfree rfl depth hrest
  | array xs ih =>
    cases hform with
    | array hforms =>
    cases hfree with
    | array hfrees =>
    -- the array takes one level, and its items are read with the levels that are left
    rw [Json.depth] at hdepth
    obtain ⟨depth, rfl⟩ := Nat.exists_eq_add_one.mpr (Nat.zero_lt_of_lt hdepth)
    refine value_array_of_items (fun x hx rest hrest => ?_) rest
    have hle := depth_le_depthItems hx
    exact ih x hx (hforms x hx) (hfrees x hx) (by omega) hrest
  | object ms ih =>
    cases hform with
    | object hordered hforms =>
    cases hfree with
    | object hfrees =>
    rw [Json.depth] at hdepth
    obtain ⟨depth, rfl⟩ := Nat.exists_eq_add_one.mpr (Nat.zero_lt_of_lt hdepth)
    rw [value_object_of_members (fun m hm rest hrest => ?_) rest, Sorted.ofList_of_ordered hordered]
    have hle := depth_le_depthMembers hm
    exact ih m hm (hforms m hm) (hfrees m hm) (by omega) hrest

theorem read_of_value {v w : Json} (h : value nesting (v.compact ++ []) = .ok (w, [])) :
    read v.compact = .ok w := by
  rw [List.append_nil] at h
  simp only [read, complete, h, bind, Except.bind]
  rfl

theorem member?_object (key : String) (ms : List (String × Json)) :
    (Json.object ms).member? key = Sorted.get? key ms := by
  induction ms with
  | nil => rfl
  | cons m ms ih =>
    obtain ⟨k, v⟩ := m
    rw [Sorted.get?, ← ih]
    by_cases hk : key = k
    · simp [member?, hk]
    · simp [member?, hk, Ne.symm hk]

end PairCache.Json
