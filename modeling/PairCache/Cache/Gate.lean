/-!
A gate lets a number of calls inside at once and keeps the others in a queue, first come, first served.
A place that becomes free goes at once to the first in the queue, so that a newcomer cannot overtake.
-/
namespace PairCache

abbrev CallId := Nat

structure Gate where
  free : Nat
  inside : List CallId := []
  queue : List CallId := []
deriving DecidableEq, Repr

namespace Gate

def admits (call : CallId) (g : Gate) : Bool := decide (call ∈ g.inside)

def enter (call : CallId) (g : Gate) : Gate :=
  match g.free with
  | 0 => { g with queue := g.queue ++ [call] }
  | n + 1 => { g with free := n, inside := g.inside ++ [call] }

def handOver (g : Gate) : Gate :=
  match g.queue with
  | [] => { g with free := g.free + 1 }
  | call :: rest => { g with inside := g.inside ++ [call], queue := rest }

/-- A call that is inside gives its place back; one that waits gives up waiting. -/
def leave (call : CallId) (g : Gate) : Gate :=
  if call ∈ g.inside then handOver { g with inside := g.inside.erase call }
  else { g with queue := g.queue.erase call }

def size (g : Gate) : Nat := g.free + g.inside.length

theorem size_enter (call : CallId) (g : Gate) : (g.enter call).size = g.size := by
  unfold enter
  split <;> simp_all [size]
  omega

theorem size_handOver (g : Gate) : g.handOver.size = g.size + 1 := by
  unfold handOver
  split <;> simp [size] <;> omega

theorem size_leave (call : CallId) (g : Gate) : (g.leave call).size = g.size := by
  unfold leave
  split
  · rename_i h
    have hlen := List.length_erase_of_mem h
    have hpos := List.length_pos_of_mem h
    rw [size_handOver]
    simp only [size]
    omega
  · rfl

end Gate

end PairCache
