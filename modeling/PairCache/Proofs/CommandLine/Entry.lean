import PairCache.CommandLine.Entry
import PairCache.Proofs.Json.Nesting

/-!
Base parameters as they are given on the command line, for every text (`readEntry_law`): which texts are
refused and why, what the key is, and what the value is. A value free of floats that is written as JSON is
the value itself, up to the depth to which JSON is read, and beyond it the text.
-/
namespace PairCache

namespace Blank

def Bare (cs : List Char) : Prop :=
  (∀ c, cs.head? = some c → isBlank c = false) ∧ ∀ c, cs.getLast? = some c → isBlank c = false

/-- All that `cs` has more than `key` is blanks at either end. -/
def Trims (cs key : List Char) : Prop :=
  Bare key ∧ ∃ before after, cs = before ++ key ++ after ∧
    (∀ c ∈ before, isBlank c = true) ∧ ∀ c ∈ after, isBlank c = true

theorem exists_dropWhile (cs : List Char) :
    ∃ before, cs = before ++ cs.dropWhile isBlank ∧ ∀ c ∈ before, isBlank c = true :=
  ⟨cs.takeWhile isBlank, List.takeWhile_append_dropWhile.symm, fun _ hc => List.mem_takeWhile_imp hc⟩

theorem head_dropWhile {cs : List Char} {c : Char} (h : (cs.dropWhile isBlank).head? = some c) :
    isBlank c = false := by
  have := List.head?_dropWhile_not isBlank cs
  simpa [h] using this

theorem trims_trim (cs : List Char) : Trims cs (trim cs) := by
  obtain ⟨before, hbefore, hblanks⟩ := exists_dropWhile cs
  obtain ⟨after, hafter, hends⟩ := exists_dropWhile (cs.dropWhile isBlank).reverse
  have hmid : cs.dropWhile isBlank = trim cs ++ after.reverse := by
    rw [trim, ← List.reverse_append, ← hafter, List.reverse_reverse]
  refine ⟨⟨fun c hc => ?_, fun c hc => ?_⟩, before, after.reverse, ?_, hblanks, fun c hc => ?_⟩
  · have hfirst : (cs.dropWhile isBlank).head? = some c := by
      rw [hmid, List.head?_append, hc]
      rfl
    exact head_dropWhile hfirst
  · rw [trim, List.getLast?_reverse] at hc
    exact head_dropWhile hc
  · rw [List.append_assoc, ← hmid, ← hbefore]
  · exact hends c (List.mem_reverse.mp hc)

theorem Trims.trim_eq {cs key : List Char} (h : Trims cs key) : trim cs = key := by
  obtain ⟨⟨hhead, hlast⟩, before, after, rfl, hbefore, hafter⟩ := h
  cases key with
  | nil =>
    rw [trim_eq_nil_iff, List.append_nil]
    exact fun c hc => (List.mem_append.mp hc).elim (hbefore c) (hafter c)
  | cons k key =>
    have hfront : (before ++ (k :: key ++ after)).dropWhile isBlank = k :: key ++ after := by
      have hopens : ∀ c ∈ (k :: key ++ after).head?, isBlank c = false := hhead
      exact (Json.span_append hbefore hopens).2
    have hback : (after.reverse ++ (k :: key).reverse).dropWhile isBlank = (k :: key).reverse := by
      refine (Json.span_append (fun c hc => hafter c (List.mem_reverse.mp hc)) fun c hc => ?_).2
      rw [List.head?_reverse] at hc
      exact hlast c hc
    rw [trim, List.append_assoc, hfront, List.reverse_append, hback, List.reverse_reverse]

end Blank

namespace CommandLine

open Blank

variable {entry key value : List Char}

theorem ne_equals_of_notMem (h : '=' ∉ key) : ∀ c ∈ key, decide (c ≠ '=') = true := by
  intro c hc
  rw [decide_eq_true_eq]
  rintro rfl
  exact h hc

theorem splitAtEquals?_append (h : '=' ∉ key) (value : List Char) :
    splitAtEquals? (key ++ '=' :: value) = some (key, value) := by
  have hstop : ∀ c ∈ ('=' :: value).head?, decide (c ≠ '=') = false := by simp
  obtain ⟨htake, hdrop⟩ := Json.span_append (ne_equals_of_notMem h) hstop
  rw [splitAtEquals?, hdrop, htake]

theorem splitAtEquals?_of_notMem (h : '=' ∉ entry) : splitAtEquals? entry = none := by
  rw [splitAtEquals?, List.dropWhile_eq_nil_iff.mpr (ne_equals_of_notMem h)]

theorem readEntry_of_notMem (h : '=' ∉ entry) : readEntry entry = .error .noEquals := by
  rw [readEntry, splitAtEquals?_of_notMem h]

theorem readEntry_of_blank (h : ∀ c ∈ key, isBlank c = true) (value : List Char) :
    readEntry (key ++ '=' :: value) = .error .emptyKey := by
  have hkey : '=' ∉ key := fun hmem => by cases h '=' hmem
  rw [readEntry, splitAtEquals?_append hkey]
  simp only [trim_eq_nil_iff.mpr h]

theorem readEntry_of_trims {name : List Char} (hname : '=' ∉ name) (htrims : Trims name key)
    (hkey : key ≠ []) (value : List Char) :
    readEntry (name ++ '=' :: value) = .ok (String.ofList key, entryValue value) := by
  obtain ⟨c, rest, rfl⟩ := List.exists_cons_of_ne_nil hkey
  rw [readEntry, splitAtEquals?_append hname]
  simp only [htrims.trim_eq]

theorem entry_cases (entry : List Char) :
    '=' ∉ entry ∨
    (∃ name value, entry = name ++ '=' :: value ∧ ∀ c ∈ name, isBlank c = true) ∨
    ∃ name key value, entry = name ++ '=' :: value ∧ '=' ∉ name ∧ Trims name key ∧ key ≠ [] := by
  by_cases hmem : '=' ∈ entry
  · obtain ⟨name, value, rfl, hname⟩ := List.eq_append_cons_of_mem hmem
    by_cases htrim : trim name = []
    · exact .inr (.inl ⟨name, value, rfl, trim_eq_nil_iff.mp htrim⟩)
    · exact .inr (.inr ⟨name, trim name, value, rfl, hname, trims_trim name, htrim⟩)
  · exact .inl hmem

def StandsFor (value : List Char) (v : Json) : Prop :=
  Json.read value = .ok v ∨ (∃ e, Json.read value = .error e) ∧ v = .string (String.ofList value)

theorem standsFor_iff {v : Json} : StandsFor value v ↔ entryValue value = v := by
  rw [StandsFor, entryValue]
  cases Json.read value with
  | ok w => simp
  | error e => simp [eq_comm]

theorem entryValue_compact {v : Json} (hform : v.WellFormed) (hfree : v.FloatFree) :
    entryValue v.compact = if v.depth ≤ Json.nesting then v else .string v.text := by
  rw [entryValue, Json.read_compact hform hfree]
  by_cases hdepth : v.depth ≤ Json.nesting
  · simp only [if_pos hdepth]
  · simp only [if_neg hdepth, Json.text]

theorem readEntry_eq_noEquals_iff : readEntry entry = .error .noEquals ↔ '=' ∉ entry := by
  refine ⟨fun h => ?_, readEntry_of_notMem⟩
  rcases entry_cases entry with hmem | ⟨name, value, rfl, hblank⟩ |
    ⟨name, key, value, rfl, hname, htrims, hkey⟩
  · exact hmem
  · rw [readEntry_of_blank hblank] at h
    cases h
  · rw [readEntry_of_trims hname htrims hkey] at h
    cases h

theorem readEntry_eq_emptyKey_iff : readEntry entry = .error .emptyKey ↔
    ∃ name value, entry = name ++ '=' :: value ∧ ∀ c ∈ name, isBlank c = true := by
  refine ⟨fun h => ?_, ?_⟩
  · rcases entry_cases entry with hmem | hblank | ⟨name, key, value, rfl, hname, htrims, hkey⟩
    · rw [readEntry_of_notMem hmem] at h
      cases h
    · exact hblank
    · rw [readEntry_of_trims hname htrims hkey] at h
      cases h
  · rintro ⟨name, value, rfl, hblank⟩
    exact readEntry_of_blank hblank value

theorem readEntry_eq_ok_iff {key : String} {v : Json} : readEntry entry = .ok (key, v) ↔
    ∃ name value, entry = name ++ '=' :: value ∧ '=' ∉ name ∧ Trims name key.toList ∧ key ≠ "" ∧
      StandsFor value v := by
  constructor
  · intro h
    rcases entry_cases entry with hmem | ⟨name, value, rfl, hblank⟩ |
      ⟨name, key, value, rfl, hname, htrims, hkey⟩
    · rw [readEntry_of_notMem hmem] at h
      cases h
    · rw [readEntry_of_blank hblank] at h
      cases h
    · rw [readEntry_of_trims hname htrims hkey] at h
      obtain ⟨rfl, hvalue⟩ := Prod.mk.inj (Except.ok.inj h)
      exact ⟨name, value, rfl, hname, by rwa [String.toList_ofList], by simpa using hkey,
        standsFor_iff.mpr hvalue⟩
  · rintro ⟨name, value, rfl, hname, htrims, hkey, hstands⟩
    rw [readEntry_of_trims hname htrims (by simpa using hkey), String.ofList_toList,
      standsFor_iff.mp hstands]

theorem readEntry_compact {v : Json} (hmem : '=' ∉ key) (hbare : Bare key) (hkey : key ≠ [])
    (hform : v.WellFormed) (hfree : v.FloatFree) :
    readEntry (key ++ '=' :: v.compact) =
      .ok (String.ofList key, if v.depth ≤ Json.nesting then v else .string v.text) := by
  have htrims : Trims key key := ⟨hbare, [], [], by simp, by simp, by simp⟩
  rw [readEntry_of_trims hmem htrims hkey, entryValue_compact hform hfree]

theorem readEntry_law (entry : List Char) :
    (readEntry entry = .error .noEquals ↔ '=' ∉ entry) ∧
    (readEntry entry = .error .emptyKey ↔
      ∃ name value, entry = name ++ '=' :: value ∧ ∀ c ∈ name, isBlank c = true) ∧
    (∀ key v, readEntry entry = .ok (key, v) ↔
      ∃ name value, entry = name ++ '=' :: value ∧ '=' ∉ name ∧ Trims name key.toList ∧ key ≠ "" ∧
        StandsFor value v) ∧
    ∀ key v, '=' ∉ key → Bare key → key ≠ [] → v.WellFormed → v.FloatFree →
      entry = key ++ '=' :: v.compact →
        readEntry entry =
          .ok (String.ofList key, if v.depth ≤ Json.nesting then v else .string v.text) := by
  refine ⟨readEntry_eq_noEquals_iff, readEntry_eq_emptyKey_iff, fun _ _ => readEntry_eq_ok_iff, ?_⟩
  rintro key v hmem hbare hkey hform hfree rfl
  exact readEntry_compact hmem hbare hkey hform hfree

def wrapped : Nat → Json
  | 0 => .null
  | n + 1 => .array [wrapped n]

theorem wellFormed_wrapped (n : Nat) : (wrapped n).WellFormed := by
  induction n with
  | zero => exact .null
  | succ n ih => exact .array (List.forall_mem_singleton.mpr ih)

theorem floatFree_wrapped (n : Nat) : (wrapped n).FloatFree := by
  induction n with
  | zero => exact .null
  | succ n ih => exact .array (List.forall_mem_singleton.mpr ih)

theorem depth_wrapped (n : Nat) : (wrapped n).depth = n := by
  induction n with
  | zero => rfl
  | succ n ih => simp [wrapped, Json.depth, Json.depthItems, ih]

theorem readEntry_law_wrapped :
    readEntry ("é b=".toList ++ (wrapped 127).compact) = .ok ("é b", wrapped 127) ∧
    readEntry ("é b=".toList ++ (wrapped 128).compact) = .ok ("é b", .string (wrapped 128).text) := by
  have hbare : Bare ['é', ' ', 'b'] := by simp [Bare, isBlank]
  obtain ⟨_, _, _, hwithin⟩ := readEntry_law ("é b=".toList ++ (wrapped 127).compact)
  obtain ⟨_, _, _, hbeyond⟩ := readEntry_law ("é b=".toList ++ (wrapped 128).compact)
  constructor
  · rw [hwithin ['é', ' ', 'b'] (wrapped 127) (by simp) hbare (by simp) (wellFormed_wrapped _)
      (floatFree_wrapped _) rfl, if_pos (by rw [depth_wrapped]; decide)]
  · rw [hbeyond ['é', ' ', 'b'] (wrapped 128) (by simp) hbare (by simp) (wellFormed_wrapped _)
      (floatFree_wrapped _) rfl, if_neg (by rw [depth_wrapped]; decide)]

end CommandLine

end PairCache
