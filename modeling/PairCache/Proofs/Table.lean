import PairCache.Table

/-!
Tables seen as lists of entries: `mem_entries` ties an entry to the look-up of its key, and
`entries_perm_of_get?` takes one entry out of the others.
-/
namespace PairCache.Table

variable {κ υ : Type} [DecidableEq κ]

attribute [simp] get?_empty get?_erase get?_insert

theorem values_insert (t : Table κ υ) (key : κ) (value : υ) :
    (t.insert key value).values = value :: (t.erase key).values := rfl

theorem get?_insert_of_ne {t : Table κ υ} {key other : κ} {value : υ} (h : other ≠ key) :
    (t.insert key value).get? other = t.get? other := by
  rw [get?_insert, if_neg h]

theorem get?_erase_of_ne {t : Table κ υ} {key other : κ} (h : other ≠ key) :
    (t.erase key).get? other = t.get? other := by
  rw [get?_erase, if_neg h]

theorem eq_or_of_get?_insert {t : Table κ υ} {key other : κ} {value v : υ}
    (h : (t.insert key value).get? other = some v) :
    other = key ∧ v = value ∨ t.get? other = some v := by
  rw [get?_insert] at h
  split at h
  · rename_i heq
    exact .inl ⟨heq, (Option.some.inj h).symm⟩
  · exact .inr h

theorem forall_insert {P : κ → υ → Prop} {t : Table κ υ} {key : κ} {value : υ}
    (h : ∀ k v, t.get? k = some v → P k v) (hnew : P key value) :
    ∀ k v, (t.insert key value).get? k = some v → P k v := by
  intro k v hk
  rcases eq_or_of_get?_insert hk with ⟨rfl, rfl⟩ | hk
  · exact hnew
  · exact h k v hk

theorem get?_of_get?_erase {t : Table κ υ} {key other : κ} {value : υ}
    (h : (t.erase key).get? other = some value) : other ≠ key ∧ t.get? other = some value := by
  rw [get?_erase] at h
  split at h
  · cases h
  · rename_i hne
    exact ⟨hne, h⟩

theorem forall_erase {P : κ → υ → Prop} {t : Table κ υ} (key : κ)
    (h : ∀ k v, t.get? k = some v → P k v) : ∀ k v, (t.erase key).get? k = some v → P k v :=
  fun k v hk => h k v (get?_of_get?_erase hk).2

theorem exists_get?_insert {P : υ → Prop} {t : Table κ υ} {key other : κ} {value : υ} :
    (∃ v, (t.insert key value).get? other = some v ∧ P v) ↔
      other = key ∧ P value ∨ other ≠ key ∧ ∃ v, t.get? other = some v ∧ P v := by
  by_cases h : other = key
  · simp [h]
  · simp [h]

theorem exists_get?_erase {P : υ → Prop} {t : Table κ υ} {key other : κ} :
    (∃ v, (t.erase key).get? other = some v ∧ P v) ↔
      other ≠ key ∧ ∃ v, t.get? other = some v ∧ P v := by
  by_cases h : other = key
  · simp [h]
  · simp [h]

theorem lookup_eq_some_of_mem {entries : List (κ × υ)} {key : κ} {value : υ}
    (hnodup : (entries.map Prod.fst).Nodup) (h : (key, value) ∈ entries) :
    entries.lookup key = some value := by
  induction entries with
  | nil => simp at h
  | cons e rest ih =>
    obtain ⟨k, v⟩ := e
    obtain ⟨hhead, htail⟩ := List.nodup_cons.mp hnodup
    rcases List.mem_cons.mp h with heq | hmem
    · obtain ⟨rfl, rfl⟩ := Prod.mk.inj heq
      simp
    · have hne : key ≠ k := by
        rintro rfl
        exact hhead (List.mem_map.mpr ⟨_, hmem, rfl⟩)
      simpa [List.lookup_cons, beq_eq_false_iff_ne.mpr hne] using ih htail hmem

theorem mem_of_lookup_eq_some {entries : List (κ × υ)} {key : κ} {value : υ}
    (h : entries.lookup key = some value) : (key, value) ∈ entries := by
  induction entries with
  | nil => simp at h
  | cons e rest ih =>
    obtain ⟨k, v⟩ := e
    by_cases hk : key = k
    · subst hk
      simp only [List.lookup_cons, beq_self_eq_true] at h
      simp [Option.some.inj h]
    · simp only [List.lookup_cons, beq_eq_false_iff_ne.mpr hk] at h
      exact List.mem_cons_of_mem _ (ih h)

theorem mem_entries {t : Table κ υ} {key : κ} {value : υ} :
    (key, value) ∈ t.entries ↔ t.get? key = some value :=
  ⟨lookup_eq_some_of_mem t.nodup, mem_of_lookup_eq_some⟩

theorem mem_values {t : Table κ υ} {value : υ} :
    value ∈ t.values ↔ ∃ key, t.get? key = some value := by
  simp only [values, List.mem_map]
  constructor
  · rintro ⟨⟨key, v⟩, hmem, rfl⟩
    exact ⟨key, mem_entries.mp hmem⟩
  · rintro ⟨key, h⟩
    exact ⟨(key, value), mem_entries.mpr h, rfl⟩

theorem without_eq_self {key : κ} {entries : List (κ × υ)} (h : entries.lookup key = none) :
    without key entries = entries := by
  refine List.filter_eq_self.mpr fun e he => ?_
  obtain ⟨k, v⟩ := e
  have hne : k ≠ key := by
    rintro rfl
    have hnone := List.lookup_eq_none_iff.mp h (k, v) he
    simp at hnone
  simpa using hne

theorem erase_eq_self {t : Table κ υ} {key : κ} (h : t.get? key = none) : t.erase key = t := by
  obtain ⟨entries, nodup⟩ := t
  simp only [erase, Table.mk.injEq]
  exact without_eq_self h

theorem perm_cons_without {key : κ} {value : υ} {entries : List (κ × υ)}
    (hnodup : (entries.map Prod.fst).Nodup) (h : entries.lookup key = some value) :
    entries.Perm ((key, value) :: without key entries) := by
  induction entries with
  | nil => simp at h
  | cons e rest ih =>
    obtain ⟨k, v⟩ := e
    obtain ⟨hhead, htail⟩ := List.nodup_cons.mp hnodup
    by_cases hk : key = k
    · subst hk
      simp only [List.lookup_cons, beq_self_eq_true] at h
      obtain rfl := Option.some.inj h
      rw [without_cons_self hhead]
    · simp only [List.lookup_cons, beq_eq_false_iff_ne.mpr hk] at h
      rw [without_cons_of_ne (Ne.symm hk)]
      exact ((ih htail h).cons _).trans (List.Perm.swap _ _ _)

theorem entries_perm_of_get? {t : Table κ υ} {key : κ} {value : υ} (h : t.get? key = some value) :
    t.entries.Perm ((key, value) :: (t.erase key).entries) :=
  perm_cons_without t.nodup h

theorem values_perm_of_get? {t : Table κ υ} {key : κ} {value : υ} (h : t.get? key = some value) :
    t.values.Perm (value :: (t.erase key).values) :=
  (entries_perm_of_get? h).map Prod.snd

theorem countP_insert (p : υ → Bool) (t : Table κ υ) (key : κ) (value : υ) :
    (t.insert key value).values.countP p =
      (t.erase key).values.countP p + if p value = true then 1 else 0 := by
  rw [values_insert, List.countP_cons]

theorem countP_of_get? (p : υ → Bool) {t : Table κ υ} {key : κ} {value : υ}
    (h : t.get? key = some value) :
    t.values.countP p = (t.erase key).values.countP p + if p value = true then 1 else 0 := by
  rw [(values_perm_of_get? h).countP_eq, List.countP_cons]

theorem isEmpty_iff {t : Table κ υ} : t.isEmpty = true ↔ ∀ key, t.get? key = none := by
  rw [isEmpty, List.isEmpty_iff]
  constructor
  · intro h key
    simp [get?, h]
  · intro h
    refine List.eq_nil_iff_forall_not_mem.mpr ?_
    rintro ⟨key, value⟩ hmem
    have hnone := h key
    simp [mem_entries.mp hmem] at hnone

end PairCache.Table
