import PairCache.Cache.Gate
import PairCache.Object
import PairCache.Table

/-!
The locks of pairs. A lock is made when a call first asks for the lock of its pair, and every call that
asks while it exists gets a handle on the same one. The table of locks forgets a lock when the last
handle on it goes. A handle goes in two steps: `prune` counts what refers to the lock and may forget it,
and `release` gives the handle's own reference up.
-/
namespace PairCache

abbrev LockId := Nat

structure Handle where
  pair : Pair
  lock : LockId
deriving DecidableEq, Repr

structure Locks where
  entries : Table Pair LockId := .empty
  /-- The locks themselves; one that nobody has asked to enter yet is not listed. -/
  gates : Table LockId Gate := .empty
  handles : Table CallId Handle := .empty
  /-- Locks from here on have not been used. -/
  next : LockId := 0

namespace Locks

def grant (call : CallId) (pair : Pair) (l : Locks) : Locks :=
  match l.entries.get? pair with
  | some lock => { l with handles := l.handles.insert call ⟨pair, lock⟩ }
  | none =>
    { l with
      entries := l.entries.insert pair l.next
      handles := l.handles.insert call ⟨pair, l.next⟩
      next := l.next + 1 }

/-- A lock lets one call in at a time. -/
def gate (lock : LockId) (l : Locks) : Gate := (l.gates.get? lock).getD { free := 1 }

def onGate (f : Gate → Gate) (call : CallId) (l : Locks) : Locks :=
  match l.handles.get? call with
  | some h => { l with gates := l.gates.insert h.lock (f (l.gate h.lock)) }
  | none => l

def enter (call : CallId) (l : Locks) : Locks := l.onGate (·.enter call) call

def exit (call : CallId) (l : Locks) : Locks := l.onGate (·.leave call) call

def admits (call : CallId) (l : Locks) : Bool :=
  match l.handles.get? call with
  | some h => (l.gate h.lock).admits call
  | none => false

def references (lock : LockId) (l : Locks) : Nat :=
  l.entries.values.count lock + l.handles.values.countP fun h => h.lock == lock

/-- Forgets the lock of the call's pair when the table and the call's handle alone refer to it. -/
def prune (call : CallId) (l : Locks) : Locks :=
  match l.handles.get? call with
  | some h => if l.references h.lock = 2 then { l with entries := l.entries.erase h.pair } else l
  | none => l

/-- Gives the call's handle up; a lock that nothing refers to is gone. -/
def release (call : CallId) (l : Locks) : Locks :=
  match l.handles.get? call with
  | some h =>
    let rest := { l with handles := l.handles.erase call }
    if rest.references h.lock = 0 then { rest with gates := l.gates.erase h.lock } else rest
  | none => l

def drop (call : CallId) (l : Locks) : Locks := (l.prune call).release call

end Locks

end PairCache
