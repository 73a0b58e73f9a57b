import PairCache.Base
import PairCache.Proofs.Json.Alike
import Mathlib.Data.Finset.Card

/-!
Base parameters as a map. A sequence of entries comes to the same base parameters whether it is collected
or inserted one by one, and nothing of it counts but the last value under each key
(`collect_last_wins`): neither the order of the others nor how often they are repeated.
-/
namespace PairCache.Base

open Sorted

variable {a b : Base} {entries : List (String × Json)} {key : String} {value : Json}

theorem entries_foldl_insert (entries : List (String × Json)) (b : Base) :
    (entries.foldl (fun b e => b.insert e.1 e.2) b).entries =
      entries.foldl (fun acc e => Sorted.insert e.1 e.2 acc) b.entries := by
  induction entries generalizing b with
  | nil => rfl
  | cons e entries ih => exact ih (b.insert e.1 e.2)

theorem ext_entries {a b : Base} (h : a.entries = b.entries) : a = b := by
  cases a
  cases b
  cases h
  rfl

theorem ext_get? (h : ∀ key, a.get? key = b.get? key) : a = b :=
  ext_entries (a.ordered.ext b.ordered h)

theorem same_iff_rel_get? : a.same b = true ↔
    ∀ key, Option.Rel (fun v w => v.same w = true) (a.get? key) (b.get? key) :=
  Json.sameMembers_iff_get? a.ordered b.ordered fun _ _ _ _ => Iff.rfl

theorem mem_entries_iff : (key, value) ∈ b.entries ↔ b.get? key = some value := mem_iff_get? b.ordered

theorem nodup_keys (b : Base) : (b.entries.map Prod.fst).Nodup := by
  refine List.Pairwise.map Prod.fst (fun d e hlt => ?_) b.ordered
  rintro heq
  rw [heq] at hlt
  exact String.lt_irrefl e.1 hlt

theorem get?_collect (key : String) (entries : List (String × Json)) :
    (collect entries).get? key = last? key entries := Sorted.get?_collect key entries

theorem collect_eq_foldl (entries : List (String × Json)) :
    collect entries = entries.foldl (fun b e => b.insert e.1 e.2) empty := by
  refine ext_entries ?_
  rw [entries_foldl_insert]
  exact collect_eq_ofList entries

theorem contains_collect : (collect entries).contains key = true ↔ key ∈ entries.map Prod.fst := by
  rw [contains, get?_collect, isSome_last?]

theorem mem_keys_collect : key ∈ (collect entries).entries.map Prod.fst ↔ key ∈ entries.map Prod.fst := by
  have hcontains : (collect entries).contains key = true ↔ key ∈ entries.map Prod.fst := contains_collect
  rw [← hcontains, contains, Option.isSome_iff_exists]
  constructor
  · intro hmem
    obtain ⟨⟨k, v⟩, he, rfl⟩ := List.mem_map.mp hmem
    exact ⟨v, mem_entries_iff.mp he⟩
  · rintro ⟨v, hv⟩
    exact List.mem_map_of_mem (mem_entries_iff.mpr hv)

theorem size_collect (entries : List (String × Json)) :
    (collect entries).size = (entries.map Prod.fst).toFinset.card := by
  have hkeys : ((collect entries).entries.map Prod.fst).toFinset = (entries.map Prod.fst).toFinset := by
    ext key
    rw [List.mem_toFinset, List.mem_toFinset, mem_keys_collect]
  rw [← hkeys, List.toFinset_card_of_nodup (nodup_keys _), List.length_map, size]

theorem collect_last_wins (entries : List (String × Json)) :
    collect entries = entries.foldl (fun b e => b.insert e.1 e.2) empty ∧
    (∀ key value, (collect entries).get? key = some value ↔
      ∃ before after, entries = before ++ (key, value) :: after ∧ key ∉ after.map Prod.fst) ∧
    (∀ key, (collect entries).contains key = true ↔ key ∈ entries.map Prod.fst) ∧
    ((collect entries).entries.Pairwise (fun d e => codePoints d.1 < codePoints e.1) ∧
      ∀ key value,
        (key, value) ∈ (collect entries).entries ↔ (collect entries).get? key = some value) ∧
    (collect entries).size = (entries.map Prod.fst).toFinset.card ∧
    (∀ others,
      ((collect entries).same (collect others) = true ↔
        ∀ key, Option.Rel (fun v w => v.same w = true) (last? key entries) (last? key others)) ∧
      (collect entries = collect others ↔ ∀ key, last? key entries = last? key others)) ∧
    ∀ key value other, ((collect entries).insert key value).get? other =
      if other = key then some value else (collect entries).get? other := by
  refine ⟨collect_eq_foldl entries, fun key value => ?_, fun key => contains_collect, ⟨?_, ?_⟩,
    size_collect entries, fun others => ⟨?_, ?_⟩, fun key value other => get?_insert _ _ _ _⟩
  · rw [get?_collect, last?_eq_some_iff]
  · exact (collect entries).ordered.imp codePoints_lt_iff.mpr
  · exact fun key value => mem_entries_iff
  · simp only [same_iff_rel_get?, get?_collect]
  · constructor
    · intro heq key
      rw [← get?_collect, heq, get?_collect]
    · intro hlast
      refine ext_get? fun key => ?_
      rw [get?_collect, get?_collect, hlast]

end PairCache.Base
