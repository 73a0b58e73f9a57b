import PairCache.Json.Decoder
import PairCache.Text.Outline
import PairCache.Time.Duration

/-!
When something started and ended. The duration between is exact; it is given in seconds and the
nanoseconds left over, both with its sign.
-/
namespace PairCache

structure Timing where
  started : Timestamp
  ended : Timestamp
deriving DecidableEq, Repr

namespace Timing

def nanos (t : Timing) : Int := t.ended.nanos - t.started.nanos

def duration (t : Timing) : Duration := t.ended.since t.started

def elapsed (t : Timing) : Double := t.duration.inSeconds

def reversed (t : Timing) : Timing := ⟨t.ended, t.started⟩

def toJson (t : Timing) : Json :=
  .object [("started_at", .string (String.ofList t.started.write)),
    ("ended_at", .string (String.ofList t.ended.write))]

def outline (t : Timing) : Outline :=
  .record "Timing"
    [("started_at", .atom (String.ofList t.started.write)),
      ("ended_at", .atom (String.ofList t.ended.write))] false

structure Draft where
  started : Option Timestamp := none
  ended : Option Timestamp := none

open Json.Decoder in
def decoder : Json.Decoder Timing :=
  let point := parsed "a timestamp string" Timestamp.read?
  record "Timing"
    [field "started_at" Draft.started (fun s a => { s with started := some a }) point false,
      field "ended_at" Draft.ended (fun s a => { s with ended := some a }) point false]
    {}
    fun s => do
      return ⟨← required "started_at" s.started, ← required "ended_at" s.ended⟩

theorem duration_eq (t : Timing) : t.duration = .ofNanos t.nanos := Timestamp.since_eq _ _

theorem nanos_reversed (t : Timing) : t.reversed.nanos = -t.nanos := by
  simp only [reversed, nanos]
  omega

end Timing

end PairCache
