import PairCache.Proofs.Json.Decoding
import PairCache.Settings

/-!
The text of the settings is read back as the settings (`restores_written`): a value that was not given is
written as null, and base parameters are written as a list of pairs, which keeps their order and repeated
names.
-/
namespace PairCache

open Json Json.Decoder

namespace OutputSettings

def fields : List (Decoder.Field Draft) :=
  [field "json" Draft.json (fun s a => { s with json := some a }) bool true,
    field "log_json" Draft.logJson (fun s a => { s with logJson := some a }) bool true]

theorem reads_toJson (o : OutputSettings) (depth : Nat) : Reads decoder (depth + 1) o.toJson o := by
  have hmembers : Collects (TakesMember (fieldByName fields depth)) {}
      [("json", .bool o.json), ("log_json", .bool o.logJson)]
      { json := some o.json, logJson := some o.logJson } := by
    apply collects_field rfl rfl (reads_bool depth o.json)
    apply collects_field rfl rfl (reads_bool depth o.logJson)
    exact .nil _
  exact reads_record hmembers rfl

end OutputSettings

namespace CacheConfig

def fields : List (Decoder.Field Draft) :=
  [field "reuse_connections" Draft.reuse (fun s a => { s with reuse := some a }) bool true,
    field "max_concurrent_runs" Draft.maxRuns (fun s a => { s with maxRuns := some a })
      (uint64 "usize") true]

theorem reads_toJson (c : CacheConfig) (depth : Nat) : Reads decoder (depth + 1) c.toJson c := by
  have hmembers : Collects (TakesMember (fieldByName fields depth)) {}
      [("reuse_connections", .bool c.reuse), ("max_concurrent_runs", .ofUInt64 c.maxRuns)]
      { reuse := some c.reuse, maxRuns := some c.maxRuns } := by
    apply collects_field rfl rfl (reads_bool depth c.reuse)
    apply collects_field rfl rfl (reads_uint64 "usize" depth c.maxRuns)
    exact .nil _
  exact reads_record hmembers rfl

end CacheConfig

namespace RequestSettings

variable {r : RequestSettings}

def fields : List (Decoder.Field Draft) :=
  [field "first" Draft.first (fun s a => { s with first := some a }) text false,
    field "second" Draft.second (fun s a => { s with second := some a }) text false,
    field "flag" Draft.flag (fun s a => { s with flag := some a }) (option bool) true,
    field "count" Draft.count (fun s a => { s with count := some a }) (option int64) true,
    field "label" Draft.label (fun s a => { s with label := some a }) (option text) true,
    field "base" Draft.base (fun s a => { s with base := some a }) (list (pair text any)) true,
    field "repeat" Draft.times (fun s a => { s with times := some a }) (uint64 "usize") false,
    field "then_flag" Draft.thenFlag (fun s a => { s with thenFlag := some a }) (option bool) true]

def entryJson (e : String × Json) : Json := .array [.string e.1, e.2]

def Readable (r : RequestSettings) : Prop := ∀ e ∈ r.base, e.2.WellFormed ∧ e.2.FloatFree

theorem depth_entryJson (e : String × Json) : (entryJson e).depth = e.2.depth + 1 := by
  simp [entryJson, Json.depth, depthItems]

theorem reads_entry {e : String × Json} (hform : e.2.WellFormed) (hfree : e.2.FloatFree) {depth : Nat}
    (hdepth : (entryJson e).depth ≤ depth) : Reads (pair text any) depth (entryJson e) e := by
  rw [depth_entryJson] at hdepth
  obtain ⟨depth, rfl⟩ := Nat.exists_eq_add_one.mpr (Nat.zero_lt_of_lt hdepth)
  exact reads_pair (reads_text depth e.1) (reads_any hform hfree (Nat.le_of_succ_le_succ hdepth))

theorem reads_entries {entries : List (String × Json)}
    (h : ∀ e ∈ entries, e.2.WellFormed ∧ e.2.FloatFree) {depth : Nat}
    (hdepth : (Json.array (entries.map entryJson)).depth ≤ depth) :
    Reads (list (pair text any)) depth (.array (entries.map entryJson)) entries := by
  rw [Json.depth] at hdepth
  obtain ⟨depth, rfl⟩ := Nat.exists_eq_add_one.mpr (Nat.zero_lt_of_lt hdepth)
  refine reads_list fun e he => ?_
  have hle := depth_le_depthItems (List.mem_map_of_mem (f := entryJson) he)
  exact reads_entry (h e he).1 (h e he).2 (Nat.le_trans hle (Nat.le_of_succ_le_succ hdepth))

def members (r : RequestSettings) : List (String × Json) :=
  [("first", .string r.first), ("second", .string r.second), ("flag", Json.ofOption .bool r.flag),
    ("count", Json.ofOption .ofInt64 r.count), ("label", Json.ofOption .string r.label),
    ("base", .array (r.base.map entryJson)), ("repeat", .ofUInt64 r.times),
    ("then_flag", Json.ofOption .bool r.thenFlag)]

theorem collects_members {depth : Nat}
    (hbase : Reads (list (pair text any)) depth (.array (r.base.map entryJson)) r.base) :
    Collects (TakesMember (fieldByName fields depth)) {} r.members
      { first := some r.first, second := some r.second, flag := some r.flag, count := some r.count,
        label := some r.label, base := some r.base, times := some r.times,
        thenFlag := some r.thenFlag } := by
  apply collects_field rfl rfl (reads_text depth r.first)
  apply collects_field rfl rfl (reads_text depth r.second)
  apply collects_field rfl rfl (reads_option (fun b => ⟨rfl, reads_bool depth b⟩) r.flag)
  apply collects_field rfl rfl (reads_option (fun n => ⟨rfl, reads_int64 depth n⟩) r.count)
  apply collects_field rfl rfl (reads_option (fun s => ⟨rfl, reads_text depth s⟩) r.label)
  apply collects_field rfl rfl hbase
  apply collects_field rfl rfl (reads_uint64 "usize" depth r.times)
  apply collects_field rfl rfl (reads_option (fun b => ⟨rfl, reads_bool depth b⟩) r.thenFlag)
  exact .nil _

theorem reads_toJson (h : r.Readable) {depth : Nat} (hdepth : r.toJson.depth ≤ depth) :
    Reads decoder depth r.toJson r := by
  change depthMembers r.members + 1 ≤ depth at hdepth
  obtain ⟨depth, rfl⟩ := Nat.exists_eq_add_one.mpr (Nat.zero_lt_of_lt hdepth)
  have hmember : ("base", Json.array (r.base.map entryJson)) ∈ r.members := by simp [members]
  have hle := depth_le_depthMembers hmember
  have hbase := reads_entries h (Nat.le_trans hle (Nat.le_of_succ_le_succ hdepth))
  exact reads_record (collects_members hbase) rfl

end RequestSettings

namespace Settings

variable {s : Settings}

def fields : List (Decoder.Field Draft) :=
  [field "request" Draft.request (fun s a => { s with request := some a })
      RequestSettings.decoder false,
    field "cache" Draft.cache (fun s a => { s with cache := some a }) CacheConfig.decoder false,
    field "output" Draft.output (fun s a => { s with output := some a }) OutputSettings.decoder false]

def members (s : Settings) : List (String × Json) :=
  [("request", s.request.toJson), ("cache", s.cache.toJson), ("output", s.output.toJson)]

theorem reads_toJson (h : s.request.Readable) {depth : Nat} (hdepth : s.toJson.depth ≤ depth) :
    Reads decoder depth s.toJson s := by
  change depthMembers s.members + 1 ≤ depth at hdepth
  obtain ⟨depth, rfl⟩ := Nat.exists_eq_add_one.mpr (Nat.zero_lt_of_lt hdepth)
  have hrequest : s.request.toJson.depth ≤ depth :=
    Nat.le_trans (Nat.le_max_left _ _) (Nat.le_of_succ_le_succ hdepth)
  -- a request is an object, so the flat groups have a level to themselves, too
  obtain ⟨depth, rfl⟩ := Nat.exists_eq_add_one.mpr (Nat.zero_lt_of_lt hrequest)
  have hmembers : Collects (TakesMember (fieldByName fields (depth + 1))) {} s.members
      { request := some s.request, cache := some s.cache, output := some s.output } := by
    apply collects_field rfl rfl (RequestSettings.reads_toJson h hrequest)
    apply collects_field rfl rfl (CacheConfig.reads_toJson s.cache depth)
    apply collects_field rfl rfl (OutputSettings.reads_toJson s.output depth)
    exact .nil _
  exact reads_record hmembers rfl

theorem restores_written (h : s.request.Readable) (hdepth : s.toJson.depth ≤ nesting) :
    decoder.run s.toJson.compact = .ok s ∧
    ∀ t, decoder.run s.toJson.compact = .ok t →
      t.validate = s.validate ∧ ∀ derived, t.request.apply derived = s.request.apply derived := by
  have hread := (reads_toJson h hdepth).run
  refine ⟨hread, fun t ht => ?_⟩
  obtain rfl := Except.ok.inj (hread.symm.trans ht)
  exact ⟨rfl, fun _ => rfl⟩

/-- Names a base parameter twice, asks for no request at all and for all runs there can be. -/
def repeating : Settings where
  request :=
    { first := "\"", second := "", count := some Int64.minValue, label := some "null",
      base := [("k", .object [("", .array [.null, .string "\n"]), ("n", .ofInt64 Int64.minValue)]),
        ("=", .array []), ("k", .ofUInt64 18446744073709551615)],
      times := 0, thenFlag := some false }
  cache := { reuse := false, maxRuns := 18446744073709551615 }
  output := { logJson := true }

theorem readable_repeating : repeating.request.Readable := by
  refine List.forall_mem_cons.mpr ⟨⟨.object (by decide) ?_, .object ?_⟩, List.forall_mem_cons.mpr
    ⟨⟨.array (by simp), .array (by simp)⟩, List.forall_mem_singleton.mpr ⟨.number _, .whole _ _⟩⟩⟩
  · exact List.forall_mem_cons.mpr ⟨.array (List.forall_mem_cons.mpr ⟨.null,
      List.forall_mem_singleton.mpr (.string _)⟩), List.forall_mem_singleton.mpr (.number _)⟩
  · exact List.forall_mem_cons.mpr ⟨.array (List.forall_mem_cons.mpr ⟨.null,
      List.forall_mem_singleton.mpr (.string _)⟩), List.forall_mem_singleton.mpr (.whole _ _)⟩

theorem restores_written_repeating :
    repeating.request.Readable ∧ repeating.toJson.depth = 6 ∧
    decoder.run repeating.toJson.compact = .ok repeating ∧
    ∀ t, decoder.run repeating.toJson.compact = .ok t →
      t.validate = repeating.validate ∧
        ∀ derived, t.request.apply derived = repeating.request.apply derived := by
  have hdepth : repeating.toJson.depth = 6 := rfl
  exact ⟨readable_repeating, hdepth,
    restores_written readable_repeating (by rw [hdepth]; decide)⟩

end Settings

end PairCache
