import PairCache.Proofs.Json.Decoding
import PairCache.Proofs.Time.Timestamp
import PairCache.Time.Timing

/-!
Timings between any two points in time that there are (`survives_and_measures`). The text of a timing is
read back as the timing, and its duration, taken in words of 64 and 32 bits, is the exact difference.
-/
namespace PairCache.Timing

open Json Json.Decoder

def point : Decoder Timestamp := parsed "a timestamp string" Timestamp.read?

def startedField : Decoder.Field Draft :=
  field "started_at" Draft.started (fun s a => { s with started := some a }) point false

def endedField : Decoder.Field Draft :=
  field "ended_at" Draft.ended (fun s a => { s with ended := some a }) point false

def fields : List (Decoder.Field Draft) := [startedField, endedField]

def finish (s : Draft) : Except ReadError Timing := do
  return ⟨← required "started_at" s.started, ← required "ended_at" s.ended⟩

theorem decoder_eq : decoder = record "Timing" fields {} finish := rfl

theorem reads_point (depth : Nat) (t : Timestamp) :
    Reads point depth (.string (String.ofList t.write)) t :=
  reads_parsed _ depth t.read?_write

theorem collects_members (t : Timing) (depth : Nat) :
    Collects (TakesMember (fieldByName fields depth)) {}
      [("started_at", .string (String.ofList t.started.write)),
        ("ended_at", .string (String.ofList t.ended.write))]
      { started := some t.started, ended := some t.ended } := by
  apply collects_field rfl rfl (reads_point depth t.started)
  apply collects_field rfl rfl (reads_point depth t.ended)
  exact .nil _

theorem reads_toJson (t : Timing) (depth : Nat) : Reads decoder (depth + 1) t.toJson t := by
  rw [decoder_eq]
  exact reads_record (collects_members t depth) rfl

theorem duration_reversed (t : Timing) : t.reversed.duration = t.duration.reversed := by
  rw [duration_eq, nanos_reversed, Duration.ofNanos_neg, duration_eq]

theorem toNanos_duration (t : Timing) : t.duration.toNanos = t.ended.nanos - t.started.nanos := by
  rw [duration_eq, Duration.toNanos_ofNanos, nanos]

theorem aligned_duration (t : Timing) : t.duration.Aligned := by
  rw [duration_eq]
  exact Duration.aligned_ofNanos _

theorem survives_and_measures (started ended : Timestamp) :
    let t : Timing := ⟨started, ended⟩
    Timing.decoder.run t.toJson.compact = .ok t ∧
    ended.sinceEpoch.sub? started.sinceEpoch = some t.duration ∧
    (0 ≤ t.duration.seconds ∧ 0 ≤ t.duration.nanos ∨
      t.duration.seconds ≤ 0 ∧ t.duration.nanos ≤ 0) ∧
    t.duration.nanos.natAbs < 1000000000 ∧
    t.duration.seconds * 1000000000 + t.duration.nanos = ended.nanos - started.nanos ∧
    (Timing.mk ended started).duration = ⟨-t.duration.seconds, -t.duration.nanos⟩ := by
  intro t
  obtain ⟨hlower, hupper, hsign⟩ := aligned_duration t
  have hsub : ended.sinceEpoch.sub? started.sinceEpoch = some t.duration := by
    rw [Timestamp.sub?_sinceEpoch, duration_eq, nanos]
  refine ⟨(reads_toJson t _).run, hsub, hsign, ?_, toNanos_duration t, duration_reversed t⟩
  unfold Timestamp.perSecond at hlower hupper
  omega

end PairCache.Timing
