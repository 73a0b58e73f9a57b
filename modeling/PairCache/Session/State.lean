import PairCache.Diagnostics
import PairCache.Event.Names
import PairCache.Masked
import PairCache.Plugin
import PairCache.Session.Behaviour
import PairCache.Session.Command
import PairCache.Session.Report

/-!
What a session keeps: the plugin, the names that were given, the requests that are open and those that are
being polled, and the events since the last answer.
-/
namespace PairCache

namespace Session

structure Request where
  id : String
  call : CallId
  during : Option (List Command) := none

structure State where
  plugin : Plugin
  sink : Sink
  shared : Bool
  tracing : Bool
  /-- At least the number of requests that the session can start. -/
  bound : Nat
  runs : Nat := 0
  made : Nat := 0
  inputs : List (String × Object Input) := []
  bundles : List (String × Bundle) := []
  asked : Nat := 0
  requests : List Request := []
  polling : List CallId := []
  names : Names := {}
  events : List (Event String) := []

abbrev Play := StateM State

def naming {α : Type} (f : StateM Names α) : Play α :=
  modifyGet fun s =>
    let (a, names) := f.run s.names
    (a, { s with names })

def nameOutput (serial : Nat) : Play String := naming (Names.output serial)

def nameConnection (id : ConnectionId) : Play String := naming (Names.connection id)

def nameEvent (e : Event Event.Value) : Play (Event String) := naming (Names.event e)

def tell (events : List (Event Event.Value)) : Play Unit := do
  if (← get).tracing then
    let named ← events.mapM nameEvent
    modify fun s => { s with events := s.events ++ named }

def display (c : Connection) : Play Shown := do
  let name ← nameConnection c.id
  return { name, connection := c, output := ← nameOutput c.output.serial }

def showFound (c : Option Connection) : Play (Option Shown) := c.mapM display

abbrev Try := ExceptT Fault Play

def input (place id : String) : Try (Object Input) := do
  match (← get).inputs.lookup id with
  | some o => return o
  | none => throw (.unknownInput place)

def inputs (first second : String) : Try (Object Input × Object Input) := do
  return (← input "first" first, ← input "second" second)

def namedBundle (id : String) : Try Bundle := do
  match (← get).bundles.lookup id with
  | some b => return b
  | none => throw .unknownBundle

def bundle : BundleRef → Try Bundle
  | .named id => namedBundle id
  | .made (some id) overrides => do return (← namedBundle id).override overrides
  | .made none overrides => return ({} : Bundle).override overrides

def request (id : String) : Try Request := do
  let s ← get
  match s.requests.find? fun r => r.id == id && !s.polling.contains r.call with
  | some r => return r
  | none => throw .noSuchRequest

def demandShared : Try Unit := do
  unless (← get).shared do throw .noSharedStore

end Session

end PairCache
