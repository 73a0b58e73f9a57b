/-!
Finite tables: one value under each key, in no order that matters. `get?_insert` and `get?_erase` say
what the operations do to a look-up; `exchange` and `take` also give back what was there (`exchange_eq`,
`take_eq`).
-/
namespace PairCache

structure Table (κ υ : Type) where
  entries : List (κ × υ)
  nodup : (entries.map Prod.fst).Nodup

namespace Table

variable {κ υ : Type}

def empty : Table κ υ := ⟨[], .nil⟩

instance : Inhabited (Table κ υ) := ⟨empty⟩

def size (t : Table κ υ) : Nat := t.entries.length

def isEmpty (t : Table κ υ) : Bool := t.entries.isEmpty

def values (t : Table κ υ) : List υ := t.entries.map Prod.snd

variable [DecidableEq κ]

def get? (t : Table κ υ) (key : κ) : Option υ := t.entries.lookup key

def without (key : κ) (entries : List (κ × υ)) : List (κ × υ) :=
  entries.filter fun e => decide (e.1 ≠ key)

theorem key_not_mem_without (key : κ) (entries : List (κ × υ)) :
    key ∉ (without key entries).map Prod.fst := by
  simp [without]

theorem without_cons_self {key : κ} {value : υ} {rest : List (κ × υ)}
    (h : key ∉ rest.map Prod.fst) : without key ((key, value) :: rest) = rest := by
  have hrest : without key rest = rest := by
    refine List.filter_eq_self.mpr fun other hother => decide_eq_true ?_
    rintro rfl
    exact h (List.mem_map.mpr ⟨other, hother, rfl⟩)
  simpa [without] using hrest

theorem without_cons_of_ne {key other : κ} {value : υ} {rest : List (κ × υ)} (h : other ≠ key) :
    without key ((other, value) :: rest) = (other, value) :: without key rest := by
  simp [without, h]

theorem nodup_without {key : κ} {entries : List (κ × υ)} (h : (entries.map Prod.fst).Nodup) :
    ((without key entries).map Prod.fst).Nodup :=
  h.sublist (List.filter_sublist.map _)

def erase (t : Table κ υ) (key : κ) : Table κ υ := ⟨without key t.entries, nodup_without t.nodup⟩

def insert (t : Table κ υ) (key : κ) (value : υ) : Table κ υ :=
  ⟨(key, value) :: without key t.entries,
    List.nodup_cons.mpr ⟨key_not_mem_without key t.entries, nodup_without t.nodup⟩⟩

def contains (t : Table κ υ) (key : κ) : Bool := (t.get? key).isSome

def extract (key : κ) : List (κ × υ) → Option υ × List (κ × υ)
  | [] => (none, [])
  | e :: rest =>
    if e.1 = key then (some e.2, rest)
    else
      let (found, others) := extract key rest
      (found, e :: others)

theorem extract_eq {key : κ} {entries : List (κ × υ)} (h : (entries.map Prod.fst).Nodup) :
    extract key entries = (entries.lookup key, without key entries) := by
  induction entries with
  | nil => rfl
  | cons e rest ih =>
    obtain ⟨k, v⟩ := e
    obtain ⟨hhead, htail⟩ := List.nodup_cons.mp h
    by_cases hk : k = key
    · subst hk
      rw [extract, if_pos rfl, without_cons_self hhead]
      simp
    · rw [extract, if_neg hk, ih htail, without_cons_of_ne hk]
      simp [List.lookup_cons, beq_eq_false_iff_ne.mpr (Ne.symm hk)]

def take (t : Table κ υ) (key : κ) : Option υ × Table κ υ :=
  ((extract key t.entries).1,
    ⟨(extract key t.entries).2, by
      rw [extract_eq t.nodup]
      exact nodup_without t.nodup⟩)

def exchange (t : Table κ υ) (key : κ) (value : υ) : Option υ × Table κ υ :=
  ((extract key t.entries).1,
    ⟨(key, value) :: (extract key t.entries).2, by
      rw [extract_eq t.nodup]
      exact (t.insert key value).nodup⟩)

theorem take_eq (t : Table κ υ) (key : κ) : t.take key = (t.get? key, t.erase key) := by
  simp only [take, extract_eq t.nodup]
  rfl

theorem exchange_eq (t : Table κ υ) (key : κ) (value : υ) :
    t.exchange key value = (t.get? key, t.insert key value) := by
  simp only [exchange, extract_eq t.nodup]
  rfl

theorem get?_empty (key : κ) : (empty : Table κ υ).get? key = none := rfl

theorem lookup_without (key other : κ) (entries : List (κ × υ)) :
    (without key entries).lookup other = if other = key then none else entries.lookup other := by
  induction entries with
  | nil => simp [without]
  | cons e rest ih =>
    obtain ⟨k, v⟩ := e
    have ih' : (List.filter (fun e => decide (e.1 ≠ key)) rest).lookup other =
        if other = key then none else rest.lookup other := ih
    by_cases hk : k = key
    · subst hk
      by_cases ho : other = k
      · subst ho
        simpa [without] using ih'
      · simp [without, List.lookup_cons, ho, beq_eq_false_iff_ne.mpr ho] at ih' ⊢
        exact ih'
    · by_cases ho : other = k
      · subst ho
        simp [without, hk]
      · simp [without, hk, List.lookup_cons, beq_eq_false_iff_ne.mpr ho] at ih' ⊢
        exact ih'

theorem get?_erase (t : Table κ υ) (key other : κ) :
    (t.erase key).get? other = if other = key then none else t.get? other :=
  lookup_without key other t.entries

theorem get?_insert (t : Table κ υ) (key other : κ) (value : υ) :
    (t.insert key value).get? other = if other = key then some value else t.get? other := by
  by_cases h : other = key
  · subst h
    simp [insert, get?]
  · simp [insert, get?, List.lookup_cons, beq_eq_false_iff_ne.mpr h, lookup_without, h]

end Table

end PairCache
