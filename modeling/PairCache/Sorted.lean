/-!
Lists of entries under text keys, in ascending order of the keys' code points. `insert` keeps the
order and replaces what was there; `get?_insert` says what it does to a look-up. `collect` orders a
whole sequence at once.
-/
namespace PairCache.Sorted

variable {α : Type}

def Ordered (entries : List (String × α)) : Prop := entries.Pairwise fun a b => a.1 < b.1

instance (entries : List (String × α)) : Decidable (Ordered entries) :=
  inferInstanceAs (Decidable (List.Pairwise _ _))

def get? (key : String) : List (String × α) → Option α
  | [] => none
  | (k, v) :: rest => if key = k then some v else get? key rest

def insert (key : String) (value : α) : List (String × α) → List (String × α)
  | [] => [(key, value)]
  | (k, v) :: rest =>
    if key < k then (key, value) :: (k, v) :: rest
    else if k < key then (k, v) :: insert key value rest
    else (key, value) :: rest

theorem eq_of_not_lt {a b : String} (h : ¬a < b) (k : ¬b < a) : a = b :=
  String.le_antisymm (String.not_lt.mp k) (String.not_lt.mp h)

theorem mem_insert {key : String} {value : α} {entries : List (String × α)} {e : String × α}
    (h : e ∈ insert key value entries) : e = (key, value) ∨ e ∈ entries := by
  induction entries with
  | nil => simpa [insert] using h
  | cons x rest ih =>
    obtain ⟨k, v⟩ := x
    rw [insert] at h
    split at h
    · simpa using h
    · split at h
      · rcases List.mem_cons.mp h with rfl | h
        · simp
        · exact (ih h).imp id (List.mem_cons_of_mem _)
      · rcases List.mem_cons.mp h with rfl | h
        · simp
        · simp [h]

theorem ordered_insert {key : String} {value : α} {entries : List (String × α)}
    (h : Ordered entries) : Ordered (insert key value entries) := by
  induction entries with
  | nil => simp [insert, Ordered]
  | cons x rest ih =>
    obtain ⟨k, v⟩ := x
    obtain ⟨hhead, htail⟩ := List.pairwise_cons.mp h
    rw [insert]
    split
    · rename_i hlt
      refine List.pairwise_cons.mpr ⟨fun e he => ?_, h⟩
      rcases List.mem_cons.mp he with rfl | he
      · exact hlt
      · exact String.lt_trans hlt (hhead e he)
    · rename_i hnlt
      split
      · rename_i hgt
        refine List.pairwise_cons.mpr ⟨fun e he => ?_, ih htail⟩
        rcases mem_insert he with rfl | he
        · exact hgt
        · exact hhead e he
      · rename_i hngt
        have hk := eq_of_not_lt hnlt hngt
        subst hk
        exact List.pairwise_cons.mpr ⟨hhead, htail⟩

theorem get?_insert (key other : String) (value : α) (entries : List (String × α)) :
    get? other (insert key value entries) = if other = key then some value else get? other entries := by
  induction entries with
  | nil => simp [insert, get?]
  | cons x rest ih =>
    obtain ⟨k, v⟩ := x
    rw [insert]
    split
    · simp [get?]
    · rename_i hnlt
      split
      · rename_i hgt
        have hne : key ≠ k := fun he => String.lt_irrefl k (he ▸ hgt)
        rw [get?, get?, ih]
        by_cases ho : other = k
        · simp [ho, Ne.symm hne]
        · simp [ho]
      · rename_i hngt
        have hk := eq_of_not_lt hnlt hngt
        subst hk
        by_cases ho : other = key <;> simp [get?, ho]

def ofList (entries : List (String × α)) : List (String × α) :=
  entries.foldl (fun acc e => insert e.1 e.2 acc) []

theorem ordered_ofList (entries : List (String × α)) : Ordered (ofList entries) := by
  have go : ∀ (es acc : List (String × α)), Ordered acc →
      Ordered (es.foldl (fun acc e => insert e.1 e.2 acc) acc) := by
    intro es
    induction es with
    | nil => exact fun _ h => h
    | cons e rest ih => exact fun acc h => ih _ (ordered_insert h)
  exact go entries [] List.Pairwise.nil

def inOrder (a b : String × α) : Bool := !decide (b.1 < a.1)

/-- Of entries in a row that have one key, the last one. -/
def lasts : List (String × α) → List (String × α)
  | [] => []
  | [e] => [e]
  | e :: f :: rest => if e.1 = f.1 then lasts (f :: rest) else e :: lasts (f :: rest)

/-- Sorts the entries, those under one key staying in their order, and keeps the last under each key. -/
def collect (entries : List (String × α)) : List (String × α) := lasts (entries.mergeSort inOrder)

theorem inOrder_iff {a b : String × α} : inOrder a b = true ↔ ¬b.1 < a.1 := by
  simp [inOrder]

theorem inOrder_trans (a b c : String × α) (hab : inOrder a b = true) (hbc : inOrder b c = true) :
    inOrder a c = true := by
  rw [inOrder_iff] at *
  exact String.not_lt.mpr (String.le_trans (String.not_lt.mp hab) (String.not_lt.mp hbc))

theorem inOrder_total (a b : String × α) : (inOrder a b || inOrder b a) = true := by
  rw [Bool.or_eq_true, inOrder_iff, inOrder_iff]
  rcases String.le_total a.1 b.1 with h | h
  · exact .inl (String.not_lt.mpr h)
  · exact .inr (String.not_lt.mpr h)

theorem mem_of_mem_lasts {entries : List (String × α)} {e : String × α} (h : e ∈ lasts entries) :
    e ∈ entries := by
  fun_induction lasts entries with
  | case1 => exact h
  | case2 => exact h
  | case3 x y rest heq ih => exact List.mem_cons_of_mem _ (ih h)
  | case4 x y rest hne ih =>
    rcases List.mem_cons.mp h with rfl | h
    · exact List.mem_cons_self
    · exact List.mem_cons_of_mem _ (ih h)

theorem ordered_lasts {entries : List (String × α)}
    (h : entries.Pairwise fun a b => inOrder a b = true) : Ordered (lasts entries) := by
  fun_induction lasts entries with
  | case1 => exact .nil
  | case2 e => exact List.pairwise_singleton _ _
  | case3 x y rest heq ih => exact ih h.of_cons
  | case4 x y rest hne ih =>
    obtain ⟨hx, hrest⟩ := List.pairwise_cons.mp h
    refine List.pairwise_cons.mpr ⟨fun e he => ?_, ih hrest⟩
    have hxy : x.1 < y.1 := by
      by_cases hlt : x.1 < y.1
      · exact hlt
      · exact absurd (eq_of_not_lt hlt (inOrder_iff.mp (hx y List.mem_cons_self))) hne
    -- what follows `y` comes no earlier than `y`
    rcases List.mem_cons.mp (mem_of_mem_lasts he) with rfl | he
    · exact hxy
    · have hye := String.not_lt.mp (inOrder_iff.mp ((List.pairwise_cons.mp hrest).1 e he))
      refine Classical.not_not.mp fun hxe => String.not_lt.mpr ?_ hxy
      exact String.le_trans hye (String.not_lt.mp hxe)

theorem ordered_collect (entries : List (String × α)) : Ordered (collect entries) :=
  ordered_lasts (List.pairwise_mergeSort inOrder_trans inOrder_total entries)

end PairCache.Sorted
