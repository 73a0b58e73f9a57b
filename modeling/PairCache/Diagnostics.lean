import PairCache.Event

/-!
Where the lines that an algorithm reports go: into a buffer, where they stay in order until they are
taken, or out as events.
-/
namespace PairCache

structure Buffer where
  lines : List String := []
deriving DecidableEq, Repr

namespace Buffer

def report (line : String) (b : Buffer) : Buffer := ⟨b.lines ++ [line]⟩

def reportAll (lines : List String) (b : Buffer) : Buffer := ⟨b.lines ++ lines⟩

def take (b : Buffer) : List String × Buffer := (b.lines, {})

def size (b : Buffer) : Nat := b.lines.length

def isEmpty (b : Buffer) : Bool := b.lines.isEmpty

def outline (b : Buffer) : Outline :=
  .record "BufferedDiagnostics"
    [("lines", .record "Mutex"
      [("data", .list "" (b.lines.map .quoted)), ("poisoned", .bool false)] true)] false

theorem reportAll_eq_foldl (lines : List String) (b : Buffer) :
    b.reportAll lines = lines.foldl (fun b line => b.report line) b := by
  induction lines generalizing b with
  | nil => simp [reportAll]
  | cons line rest ih =>
    rw [List.foldl_cons, ← ih]
    simp [reportAll, report]

end Buffer

inductive Sink where
  | buffer (lines : Buffer)
  | log

namespace Sink

def event (line : String) : Event Event.Value where
  level := .info
  target := "tandem_core::diagnostics"
  message := line

def report (lines : List String) : Sink → Sink × List (Event Event.Value)
  | .buffer b => (.buffer (b.reportAll lines), [])
  | .log => (.log, lines.map event)

def take : Sink → Option (List String) × Sink
  | .buffer b => (some b.take.1, .buffer b.take.2)
  | .log => (none, .log)

end Sink

end PairCache
