import PairCache.Bundle
import PairCache.Proofs.Base
import PairCache.Proofs.Json.Decoding

/-!
The text of a bundle is read back as the bundle. The base parameters stand in it when there are any,
and are empty where they do not stand.
-/
namespace PairCache

open Json Json.Decoder

namespace Base

theorem isEmpty_iff {b : Base} : b.isEmpty = true ↔ b = .empty := by
  constructor
  · intro h
    exact ext_entries (List.isEmpty_iff.mp h)
  · rintro rfl
    rfl

theorem ofList_entries (b : Base) : ofList b.entries = b :=
  ext_entries ((entries_foldl_insert b.entries empty).trans (Sorted.ofList_of_ordered b.ordered))

theorem reads_toJson {b : Base} (hform : b.toJson.WellFormed) (hfree : b.toJson.FloatFree)
    {depth : Nat} (hdepth : b.toJson.depth ≤ depth) : Reads decoder depth b.toJson b := by
  cases hform with
  | object _ hforms =>
  cases hfree with
  | object hfrees =>
  have hmembers : depthMembers b.entries + 1 ≤ depth := hdepth
  obtain ⟨depth, rfl⟩ := Nat.exists_eq_add_one.mpr (Nat.zero_lt_of_lt hmembers)
  have hvalues : ∀ m ∈ b.entries, Reads any depth m.2 m.2 := by
    intro m hm
    have hle := depth_le_depthMembers hm
    exact reads_any (hforms m hm) (hfrees m hm) (by omega)
  have hread := reads_members insert empty hvalues
  change Reads decoder (depth + 1) b.toJson (ofList b.entries) at hread
  rwa [ofList_entries] at hread

end Base

namespace Bundle

variable {b : Bundle}

def plainMembers (b : Bundle) : List (String × Json) :=
  [("flag", .bool b.flag), ("count", .ofInt64 b.count), ("label", .string b.label)]

theorem toJson_of_empty (h : b.base.isEmpty = true) : b.toJson = .object b.plainMembers := by
  rw [toJson, if_pos h]
  rfl

theorem toJson_of_base (h : b.base.isEmpty = false) :
    b.toJson = .object (("base", b.base.toJson) :: b.plainMembers) := by
  rw [toJson, h]
  rfl

def baseField : Decoder.Field Draft :=
  field "base" Draft.base (fun s a => { s with base := some a }) Base.decoder true

def flagField : Decoder.Field Draft :=
  field "flag" Draft.flag (fun s a => { s with flag := some a }) bool false

def countField : Decoder.Field Draft :=
  field "count" Draft.count (fun s a => { s with count := some a }) int64 false

def labelField : Decoder.Field Draft :=
  field "label" Draft.label (fun s a => { s with label := some a }) text false

def fields : List (Decoder.Field Draft) := [baseField, flagField, countField, labelField]

theorem collects_plainMembers (b : Bundle) (depth : Nat) (base : Option Base) :
    Collects (TakesMember (fieldByName fields depth)) { base } b.plainMembers
      { base, flag := some b.flag, count := some b.count, label := some b.label } := by
  apply collects_field rfl rfl (reads_bool depth b.flag)
  apply collects_field rfl rfl (reads_int64 depth b.count)
  apply collects_field rfl rfl (reads_text depth b.label)
  exact .nil _

theorem reads_members_of_base {base : Option Base} {ms : List (String × Json)} {depth : Nat}
    (h : Collects (TakesMember (fieldByName fields depth)) {} ms
      { base, flag := some b.flag, count := some b.count, label := some b.label })
    (hbase : base.getD .empty = b.base) : Reads decoder (depth + 1) (.object ms) b := by
  refine reads_record h ?_
  simp only [required, bind, Except.bind, hbase]
  rfl

theorem reads_toJson (hform : b.base.toJson.WellFormed) (hfree : b.base.toJson.FloatFree)
    {depth : Nat} (hdepth : b.toJson.depth ≤ depth) : Reads decoder depth b.toJson b := by
  cases hempty : b.base.isEmpty with
  | true =>
    rw [toJson_of_empty hempty] at hdepth ⊢
    obtain ⟨depth, rfl⟩ := Nat.exists_eq_add_one.mpr (Nat.zero_lt_of_lt hdepth)
    have hcollects := collects_plainMembers b depth none
    exact reads_members_of_base hcollects (Base.isEmpty_iff.mp hempty).symm
  | false =>
    rw [toJson_of_base hempty] at hdepth ⊢
    obtain ⟨depth, rfl⟩ := Nat.exists_eq_add_one.mpr (Nat.zero_lt_of_lt hdepth)
    have hbase : b.base.toJson.depth ≤ depth :=
      Nat.le_trans (Nat.le_max_left _ _) (Nat.le_of_lt_succ hdepth)
    have hcollects : Collects (TakesMember (fieldByName fields depth)) {}
        (("base", b.base.toJson) :: b.plainMembers)
        { base := some b.base, flag := some b.flag, count := some b.count, label := some b.label } := by
      apply collects_field rfl rfl (Base.reads_toJson hform hfree hbase)
      exact collects_plainMembers b depth (some b.base)
    exact reads_members_of_base hcollects rfl

theorem plainMembers_read (b : Bundle) (depth : Nat) {m : String × Json} (hm : m ∈ b.plainMembers)
    (rest : List Char) (hrest : EndsNumber rest) :
    value depth (m.2.compact ++ rest) = .ok (m.2, rest) := by
  simp only [plainMembers, List.mem_cons, List.not_mem_nil, or_false] at hm
  rcases hm with rfl | rfl | rfl
  · exact value_compact (.bool _) (.bool _) (Nat.zero_le _) hrest
  · exact value_compact (.number _) (.whole _ _) (Nat.zero_le _) hrest
  · exact value_compact (.string _) (.string _) (Nat.zero_le _) hrest

theorem get?_plainMembers (b : Bundle) (acc : List (String × Json)) :
    Sorted.get? "base" (b.plainMembers.foldl (fun acc e => Sorted.insert e.1 e.2 acc) acc) =
      Sorted.get? "base" acc := by
  simp [plainMembers, Sorted.get?_insert]

theorem read_toJson (hform : b.base.toJson.WellFormed) (hfree : b.base.toJson.FloatFree)
    (hdepth : b.toJson.depth ≤ nesting) :
    ∃ v, Json.read b.toJson.compact = .ok v ∧
      v.member? "base" = if b.base.isEmpty then none else some b.base.toJson := by
  cases hempty : b.base.isEmpty with
  | true =>
    refine ⟨.object (Sorted.ofList b.plainMembers), read_of_value ?_, ?_⟩
    · rw [toJson_of_empty hempty]
      exact value_object_of_members (fun m hm => plainMembers_read b _ hm) []
    · rw [member?_object, Sorted.ofList, get?_plainMembers]
      rfl
  | false =>
    refine ⟨.object (Sorted.ofList (("base", b.base.toJson) :: b.plainMembers)), read_of_value ?_, ?_⟩
    · rw [toJson_of_base hempty] at hdepth ⊢
      have hbase : b.base.toJson.depth ≤ 126 :=
        Nat.le_trans (Nat.le_max_left _ _) (Nat.le_of_lt_succ hdepth)
      refine value_object_of_members (List.forall_mem_cons.mpr ⟨fun rest hrest => ?_, ?_⟩) []
      · exact value_compact hform hfree hbase hrest
      · exact fun m hm => plainMembers_read b _ hm
    · rw [member?_object, Sorted.ofList, List.foldl_cons, get?_plainMembers, Sorted.get?_insert]
      simp

theorem decode_written (hform : b.base.toJson.WellFormed) (hfree : b.base.toJson.FloatFree)
    (hdepth : b.toJson.depth ≤ nesting) :
    decoder.run b.toJson.compact = .ok b ∧
    ∃ v, Json.read b.toJson.compact = .ok v ∧
      ((v.member? "base").isSome = true ↔ b.base.isEmpty = false) := by
  refine ⟨(reads_toJson hform hfree hdepth).run, ?_⟩
  obtain ⟨v, hread, hmember⟩ := read_toJson hform hfree hdepth
  refine ⟨v, hread, ?_⟩
  rw [hmember]
  cases b.base.isEmpty <;> simp

/-- Has characters to escape in its label and in a key, and the least and the largest integer. -/
def awkward : Bundle where
  base := ⟨[("", .object [("\"", .array [.null, .bool false, .string "\\u0041"]), ("\\", .array [])]),
    ("\n", .number (.whole 18446744073709551615 (by decide)))], by decide⟩
  flag := true
  count := Int64.minValue
  label := "\x00\x1f\"\\/\x7f é \t😀"

theorem awkward_wellFormed : awkward.base.toJson.WellFormed := by
  refine .object (by decide) (List.forall_mem_cons.mpr ⟨.object (by decide) ?_, ?_⟩)
  · refine List.forall_mem_cons.mpr ⟨.array ?_, List.forall_mem_singleton.mpr (.array (by simp))⟩
    exact List.forall_mem_cons.mpr ⟨.null, List.forall_mem_cons.mpr ⟨.bool _,
      List.forall_mem_singleton.mpr (.string _)⟩⟩
  · exact List.forall_mem_singleton.mpr (.number _)

theorem awkward_floatFree : awkward.base.toJson.FloatFree := by
  refine .object (List.forall_mem_cons.mpr ⟨.object ?_, ?_⟩)
  · refine List.forall_mem_cons.mpr ⟨.array ?_, List.forall_mem_singleton.mpr (.array (by simp))⟩
    exact List.forall_mem_cons.mpr ⟨.null, List.forall_mem_cons.mpr ⟨.bool _,
      List.forall_mem_singleton.mpr (.string _)⟩⟩
  · exact List.forall_mem_singleton.mpr (.whole _ _)

theorem decode_written_awkward :
    awkward.base.toJson.WellFormed ∧ awkward.base.toJson.FloatFree ∧ awkward.toJson.depth = 4 ∧
    decoder.run awkward.toJson.compact = .ok awkward ∧
    ∃ v, Json.read awkward.toJson.compact = .ok v ∧
      ((v.member? "base").isSome = true ↔ awkward.base.isEmpty = false) := by
  have hdepth : awkward.toJson.depth = 4 := rfl
  exact ⟨awkward_wellFormed, awkward_floatFree, hdepth,
    decode_written awkward_wellFormed awkward_floatFree (by rw [hdepth]; decide)⟩

end Bundle

end PairCache
