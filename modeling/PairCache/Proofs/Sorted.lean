import PairCache.Sorted
import Mathlib.Data.List.Forall2

/-!
Ordered lists of entries. Entries that come in order are kept as they come (`ofList_of_ordered`), and
two ordered lists are alike member by member exactly when all look-ups are (`forall₂_iff_get?`). Of a
sequence in any order the last entry under a key is what a look-up finds, whether the entries are
inserted one by one or ordered all at once (`collect_eq_ofList`).
-/
namespace PairCache.Sorted

variable {α : Type} {key : String} {value : α} {entries : List (String × α)}

theorem insert_of_greater (h : ∀ e ∈ entries, e.1 < key) :
    insert key value entries = entries ++ [(key, value)] := by
  induction entries with
  | nil => rfl
  | cons e rest ih =>
    obtain ⟨k, v⟩ := e
    have hk : k < key := h (k, v) List.mem_cons_self
    have hnot : ¬key < k := fun hlt => String.lt_irrefl k (String.lt_trans hk hlt)
    rw [insert, if_neg hnot, if_pos hk, ih fun e he => h e (List.mem_cons_of_mem _ he)]
    rfl

theorem foldl_insert_of_ordered (acc : List (String × α)) (h : Ordered (acc ++ entries)) :
    entries.foldl (fun acc e => insert e.1 e.2 acc) acc = acc ++ entries := by
  induction entries generalizing acc with
  | nil => simp
  | cons e rest ih =>
    obtain ⟨_, _, hbefore⟩ := List.pairwise_append.mp h
    have hlast : insert e.1 e.2 acc = acc ++ [e] :=
      insert_of_greater fun x hx => hbefore x hx e List.mem_cons_self
    rw [List.foldl_cons, hlast, ih (acc ++ [e]) (by simpa using h)]
    simp

theorem ofList_of_ordered (h : Ordered entries) : ofList entries = entries :=
  foldl_insert_of_ordered [] h

theorem get?_of_less (h : ∀ e ∈ entries, key < e.1) : get? key entries = none := by
  induction entries with
  | nil => rfl
  | cons e rest ih =>
    obtain ⟨k, v⟩ := e
    have hne : key ≠ k := by
      rintro rfl
      exact String.lt_irrefl key (h (key, v) List.mem_cons_self)
    rw [get?, if_neg hne]
    exact ih fun e he => h e (List.mem_cons_of_mem _ he)

theorem mem_of_get? (h : get? key entries = some value) : (key, value) ∈ entries := by
  induction entries with
  | nil => cases h
  | cons e rest ih =>
    obtain ⟨k, v⟩ := e
    rw [get?] at h
    split at h
    · rename_i hk
      obtain rfl := Option.some.inj h
      simp [hk]
    · exact List.mem_cons_of_mem _ (ih h)

variable {β : Type} {R : α → β → Prop}

theorem rel_get?_of_forall₂ {xs : List (String × α)} {ys : List (String × β)}
    (h : List.Forall₂ (fun x y => x.1 = y.1 ∧ R x.2 y.2) xs ys) (key : String) :
    Option.Rel R (get? key xs) (get? key ys) := by
  induction h with
  | nil => exact .none
  | @cons x y xs ys hxy _ ih =>
    obtain ⟨k, v⟩ := x
    obtain ⟨_, w⟩ := y
    obtain ⟨rfl, hvw⟩ := hxy
    rw [get?, get?]
    split
    · exact .some hvw
    · exact ih

theorem get?_head (k : String) (v : α) (rest : List (String × α)) :
    get? k ((k, v) :: rest) = some v := by
  rw [get?, if_pos rfl]

theorem Ordered.get?_tail {k : String} {v : α} {rest : List (String × α)}
    (h : Ordered ((k, v) :: rest)) : get? k rest = none :=
  get?_of_less fun e he => (List.pairwise_cons.mp h).1 e he

theorem Ordered.le_of_get? {k : String} {v : α} {rest : List (String × α)}
    (h : Ordered ((k, v) :: rest)) (hkey : get? key ((k, v) :: rest) = some value) : k ≤ key := by
  rcases List.mem_cons.mp (mem_of_get? hkey) with heq | hmem
  · obtain ⟨rfl, _⟩ := Prod.mk.inj heq
    exact String.le_refl key
  · exact String.not_lt.mp fun hlt =>
      String.lt_irrefl k (String.lt_trans ((List.pairwise_cons.mp h).1 _ hmem) hlt)

theorem forall₂_of_rel_get? {xs : List (String × α)} {ys : List (String × β)} (hx : Ordered xs)
    (hy : Ordered ys) (h : ∀ key, Option.Rel R (get? key xs) (get? key ys)) :
    List.Forall₂ (fun x y => x.1 = y.1 ∧ R x.2 y.2) xs ys := by
  induction xs generalizing ys with
  | nil =>
    cases ys with
    | nil => exact .nil
    | cons y ys =>
      have hhead := h y.1
      rw [get?_head] at hhead
      cases hhead
  | cons x xs ih =>
    obtain ⟨k, v⟩ := x
    cases ys with
    | nil =>
      have hhead := h k
      rw [get?_head] at hhead
      cases hhead
    | cons y ys =>
      obtain ⟨l, w⟩ := y
      -- each of the two first keys is found on the other side, so neither comes before the other
      have hkl : k = l := by
        have hk := h k
        have hl := h l
        rw [get?_head] at hk hl
        cases hfound : get? k ((l, w) :: ys) with
        | none =>
          rw [hfound] at hk
          cases hk
        | some a =>
          cases hfound' : get? l ((k, v) :: xs) with
          | none =>
            rw [hfound'] at hl
            cases hl
          | some b => exact String.le_antisymm (hx.le_of_get? hfound') (hy.le_of_get? hfound)
      subst hkl
      have hhead : R v w := by
        have hk := h k
        rw [get?_head, get?_head] at hk
        cases hk with
        | some hvw => exact hvw
      refine .cons ⟨rfl, hhead⟩ (ih hx.of_cons hy.of_cons fun key => ?_)
      by_cases hkey : key = k
      · subst hkey
        rw [hx.get?_tail, hy.get?_tail]
        exact .none
      · have hrest := h key
        rwa [get?, get?, if_neg hkey, if_neg hkey] at hrest

theorem forall₂_iff_get? {xs : List (String × α)} {ys : List (String × β)} (hx : Ordered xs)
    (hy : Ordered ys) : List.Forall₂ (fun x y => x.1 = y.1 ∧ R x.2 y.2) xs ys ↔
      ∀ key, Option.Rel R (get? key xs) (get? key ys) :=
  ⟨rel_get?_of_forall₂, forall₂_of_rel_get? hx hy⟩

theorem Ordered.ext {xs ys : List (String × α)} (hx : Ordered xs) (hy : Ordered ys)
    (h : ∀ key, get? key xs = get? key ys) : xs = ys := by
  have hsame : List.Forall₂ (fun x y : String × α => x.1 = y.1 ∧ x.2 = y.2) xs ys := by
    refine forall₂_of_rel_get? hx hy fun key => ?_
    rw [h key]
    cases get? key ys with
    | none => exact .none
    | some v => exact .some rfl
  rw [← List.forall₂_eq_eq_eq]
  exact hsame.imp fun _ _ hxy => Prod.ext hxy.1 hxy.2

theorem mem_iff_get? (h : Ordered entries) : (key, value) ∈ entries ↔ get? key entries = some value := by
  refine ⟨fun hmem => ?_, mem_of_get?⟩
  induction entries with
  | nil => cases hmem
  | cons e rest ih =>
    obtain ⟨k, v⟩ := e
    rcases List.mem_cons.mp hmem with heq | hlater
    · obtain ⟨rfl, rfl⟩ := Prod.mk.inj heq
      exact get?_head _ _ _
    · have hne : key ≠ k := by
        rintro rfl
        exact String.lt_irrefl key ((List.pairwise_cons.mp h).1 (key, value) hlater)
      rw [get?, if_neg hne]
      exact ih h.of_cons hlater

def codePoints (s : String) : List Nat := s.toList.map Char.toNat

theorem map_toNat_lt_iff {cs ds : List Char} : cs.map Char.toNat < ds.map Char.toNat ↔ cs < ds := by
  induction cs generalizing ds with
  | nil => cases ds <;> simp
  | cons c cs ih =>
    cases ds with
    | nil => simp
    | cons d ds =>
      rw [List.map_cons, List.map_cons, List.cons_lt_cons_iff, List.cons_lt_cons_iff, ih, Char.toNat_inj]
      exact Iff.rfl

theorem codePoints_lt_iff {s t : String} : codePoints s < codePoints t ↔ s < t := by
  rw [String.lt_iff]
  exact map_toNat_lt_iff

def last? (key : String) (entries : List (String × α)) : Option α := entries.reverse.lookup key

theorem lookup_singleton (e : String × α) :
    [e].lookup key = if key = e.1 then some e.2 else none := by
  obtain ⟨k, v⟩ := e
  by_cases h : key = k
  · rw [if_pos h, h, List.lookup_cons_self]
  · simp [h]

theorem last?_cons (e : String × α) (rest : List (String × α)) :
    last? key (e :: rest) = (last? key rest).or (if key = e.1 then some e.2 else none) := by
  rw [last?, List.reverse_cons, List.lookup_append, lookup_singleton, last?]

theorem last?_eq_some_iff : last? key entries = some value ↔
    ∃ before after, entries = before ++ (key, value) :: after ∧ key ∉ after.map Prod.fst := by
  rw [last?, List.lookup_eq_some_iff]
  constructor
  · rintro ⟨after, before, hreverse, hafter⟩
    refine ⟨before.reverse, after.reverse, ?_, fun hmem => ?_⟩
    · rw [← List.reverse_reverse entries, hreverse]
      simp
    · obtain ⟨e, he, rfl⟩ := List.mem_map.mp hmem
      simpa using hafter e (List.mem_reverse.mp he)
  · rintro ⟨before, after, rfl, hafter⟩
    refine ⟨after.reverse, before.reverse, by simp, fun e he => bne_iff_ne.mpr ?_⟩
    rintro rfl
    exact hafter (List.mem_map_of_mem (List.mem_reverse.mp he))

theorem isSome_last? : (last? key entries).isSome = true ↔ key ∈ entries.map Prod.fst := by
  induction entries with
  | nil => simp [last?]
  | cons e rest ih =>
    rw [last?_cons, Option.isSome_or, Bool.or_eq_true, ih, List.map_cons, List.mem_cons]
    by_cases h : key = e.1 <;> simp [h]

theorem last?_filter (key : String) (entries : List (String × α)) :
    last? key (entries.filter fun e => e.1 = key) = last? key entries := by
  induction entries with
  | nil => rfl
  | cons e rest ih =>
    by_cases h : e.1 = key
    · rw [List.filter_cons_of_pos (by simpa using h), last?_cons, last?_cons, ih]
    · rw [List.filter_cons_of_neg (by simpa using h), ih, last?_cons, if_neg (Ne.symm h), Option.or_none]

theorem filter_mergeSort (key : String) (entries : List (String × α)) :
    ((entries.mergeSort inOrder).filter fun e => e.1 = key) = entries.filter fun e => e.1 = key := by
  have hkeys : (entries.filter fun e => e.1 = key).Pairwise fun a b => inOrder a b = true := by
    refine List.pairwise_of_forall_mem_list fun a ha b hb => inOrder_iff.mpr ?_
    obtain ⟨-, ha⟩ := List.mem_filter.mp ha
    obtain ⟨-, hb⟩ := List.mem_filter.mp hb
    rw [of_decide_eq_true ha, of_decide_eq_true hb]
    exact String.lt_irrefl key
  have hsub := (List.sublist_mergeSort inOrder_trans inOrder_total hkeys List.filter_sublist).filter
    fun e => e.1 = key
  rw [List.filter_filter] at hsub
  simp only [Bool.and_self] at hsub
  exact (hsub.eq_of_length ((List.mergeSort_perm entries inOrder).filter _).length_eq.symm).symm

theorem get?_lasts (h : entries.Pairwise fun a b => inOrder a b = true) (key : String) :
    get? key (lasts entries) = last? key entries := by
  fun_induction lasts entries with
  | case1 => rfl
  | case2 e => rw [get?, last?_cons]; rfl
  | case3 x y rest heq ih =>
    rw [ih h.of_cons, last?_cons x]
    by_cases hkey : key = x.1
    · have hsome := isSome_last?.mpr (show key ∈ (y :: rest).map Prod.fst by simp [hkey, heq])
      rw [Option.or_of_isSome hsome]
    · rw [if_neg hkey, Option.or_none]
  | case4 x y rest hne ih =>
    obtain ⟨hx, hrest⟩ := List.pairwise_cons.mp h
    rw [get?, ih hrest, last?_cons x]
    by_cases hkey : key = x.1
    · have hless : ∀ e ∈ lasts (y :: rest), x.1 < e.1 := by
        have hordered := ordered_lasts h
        rw [lasts, if_neg hne] at hordered
        exact (List.pairwise_cons.mp hordered).1
      have hnone : last? key (y :: rest) = none := by
        rw [← ih hrest, hkey]
        exact get?_of_less hless
      rw [if_pos hkey, if_pos hkey, hnone, Option.none_or]
    · rw [if_neg hkey, if_neg hkey, Option.or_none]

theorem get?_collect (key : String) (entries : List (String × α)) :
    get? key (collect entries) = last? key entries := by
  rw [collect, get?_lasts (List.pairwise_mergeSort inOrder_trans inOrder_total entries), ← last?_filter,
    filter_mergeSort, last?_filter]

theorem get?_foldl_insert (key : String) (entries acc : List (String × α)) :
    get? key (entries.foldl (fun acc e => insert e.1 e.2 acc) acc) =
      (last? key entries).or (get? key acc) := by
  induction entries generalizing acc with
  | nil => rfl
  | cons e rest ih =>
    rw [List.foldl_cons, ih, get?_insert, last?_cons]
    by_cases h : key = e.1
    · cases last? key rest <;> simp [h]
    · simp [h]

theorem get?_ofList (key : String) (entries : List (String × α)) :
    get? key (ofList entries) = last? key entries := by
  rw [ofList, get?_foldl_insert, get?, Option.or_none]

theorem collect_eq_ofList (entries : List (String × α)) : collect entries = ofList entries :=
  (ordered_collect entries).ext (ordered_ofList entries) fun key => by
    rw [get?_collect, get?_ofList]

end PairCache.Sorted
