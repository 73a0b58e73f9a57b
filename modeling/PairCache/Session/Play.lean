import PairCache.Session.State

/-!
Carrying out the commands of a session, one after the other. A request that is polled goes as far as it
can. Inputs are named in the order in which they are made, outputs and connections in the order in
which they are first mentioned.
-/
namespace PairCache

namespace Session

def act (f : Plugin → Plugin × List (Event Event.Value)) : Play Unit := do
  let (plugin, events) := f (← get).plugin
  modify fun s => { s with plugin }
  tell events

def access (a : Store.Access) : Play (Option Connection) := do
  let s ← get
  let (found, cache) := s.plugin.cache.access a
  set { s with plugin := { s.plugin with cache } }
  return found

def perform (first second : Input) (desired : Bundle) : Play Outcome := do
  let s ← get
  let run := s.plugin.algorithm.run first second desired
  let (sink, events) := s.sink.report run.lines
  set { s with sink }
  tell (events.map fun e => { e with message := Masked.line e.message })
  tell (Plugin.selected desired run.outcome)
  return run.outcome

def countRun : Play Unit := modify fun s => { s with runs := s.runs + 1 }

def close (call : CallId) : Play Unit :=
  modify fun s => { s with requests := s.requests.filter (·.call != call) }

/-- Takes a request as far as it gets; `nested` carries out the commands that it brings. -/
def poll (nested : List Command → Play (List Report)) (r : Request) : Play Polled := do
  modify fun s => { s with polling := r.call :: s.polling }
  act (·.advance r.call)
  let mut during := none
  if let .running first second desired := (← get).plugin.progress r.call then
    countRun
    during ← r.during.mapM nested
    let outcome ← perform first second desired
    act (·.step (.finish r.call outcome))
    act (·.advance r.call)
  modify fun s => { s with polling := s.polling.erase r.call }
  match (← get).plugin.progress r.call with
  | .over ending =>
    act (·.step (.leave r.call))
    close r.call
    match ending with
    | .answered (.served output) =>
      return .of (.served output.value (← nameOutput output.serial)) during
    | .answered (.failed failure) => return .of (.failed failure) during
    | .answered .panicked => return .of .panicked during
    | .answered (.removed found) => return .of (.removed found) during
    | .cancelled => return .of .pending during
  | _ => return .of .pending during

def Polled.isPending : Polled → Bool
  | .of .pending _ => true
  | _ => false

def start (nested : List Command → Play (List Report)) (id : Option String) (first second : String)
    (operation : Try Operation) (during : Option (List Command)) : Try Reply := do
  modify fun s => { s with asked := s.asked + 1 }
  let call := (← get).asked
  let name := id.getD ("r" ++ Decimal.text call)
  if (← get).requests.any (·.id == name) then throw .requestIdInUse
  let (a, b) ← inputs first second
  let operation ← operation
  let r : Request := { id := name, call, during }
  modify fun s => { s with requests := s.requests ++ [r] }
  act (·.step (.start call a b operation))
  return .polled (if id.isNone then some name else none) (← poll nested r)

def pollEach (nested : List Command → Play (List Report)) :
    List Request → Play (List (String × Polled))
  | [] => return []
  | r :: rs => do
    let s ← get
    if (s.requests.any (·.call == r.call)) && !s.polling.contains r.call then
      let p ← poll nested r
      let others ← pollEach nested rs
      return if p.isPending then others else (r.id, p) :: others
    else pollEach nested rs

/-- Rounds of polling, until one in which no request ends. -/
def settle (nested : List Command → Play (List Report)) : Nat → Play (List (String × Polled))
  | 0 => return []
  | rounds + 1 => do
    let completed ← pollEach nested (← get).requests
    if completed.isEmpty then return []
    return completed ++ (← settle nested rounds)

def found (first second : String) : Try (Option Connection) := do
  let (a, b) ← inputs first second
  return (← get).plugin.cache.lookup (.of a b)

def written (block : Bool) (o : Outline) : String := if block then o.block else o.line

def carryOut (nested : List Command → Play (List Report)) : Command → Try Reply
  | .input id value => do
    modify fun s =>
      { s with
        made := s.made + 1
        inputs := (id, ⟨s.made + 1, s.made + 1, value⟩) :: s.inputs }
    return .done
  | .rename id of => do
    let o ← input "of" of
    modify fun s => { s with inputs := (id, o) :: s.inputs }
    return .done
  | .bundle id ref => do
    let b ← bundle ref
    modify fun s => { s with bundles := (id, b) :: s.bundles }
    return .bundle b
  | .derive id first second => do
    let (a, b) ← inputs first second
    match Bundle.derive a.value b.value with
    | .ok made =>
      modify fun s => { s with bundles := (id, made) :: s.bundles }
      return .bundle made
    | .error failure => return .failed failure
  | .request id first second ref during =>
    start nested id first second (do return .request (← bundle ref)) during
  | .invalidate id first second => start nested id first second (pure .invalidate) none
  | .poll id => do return .polled none (← poll nested (← request id))
  | .cancel id => do
    let r ← request id
    act (·.step (.cancel r.call))
    act (·.step (.leave r.call))
    close r.call
    return .cancelled
  | .settle => do return .settled (← settle nested ((← get).bound + 1))
  | .run first second ref => do
    let (a, b) ← inputs first second
    let desired ← bundle ref
    countRun
    match ← perform a.value b.value desired with
    | .done output => return .ran output
    | .failed failure => return .failed failure
    | .panicked => return .panicked
  | .lookup first second => do return .found (← showFound (← found first second))
  | .accepts first second ref => do
    let (a, b) ← inputs first second
    let desired ← bundle ref
    return .accepts (((← get).plugin.cache.lookup (.of a b)).map (·.accepts desired))
  | .clear => do
    act (·.step .clear)
    return .done
  | .stats => return .stats
  | .config => do
    let p := (← get).plugin
    return .config p.cache.config p.algorithm.name
  | .identity first second => do
    let (a, b) ← inputs first second
    return .identity (.of a b)
  | .lines => do
    let s ← get
    let (lines, sink) := s.sink.take
    set { s with sink }
    return .lines (lines.map (·.map Masked.line))
  | .outline block => do return .outline (some (written block (← get).plugin.outline))
  | .outlineConnection first second block => do
    match ← found first second with
    | some c => return .outline (some (written block (c.outline (← nameConnection c.id))))
    | none => return .outline none
  | .storePut first second ref output => do
    demandShared
    let (a, b) ← inputs first second
    let desired ← bundle ref
    let cache := (← get).plugin.cache
    let c := cache.connect { first := a, second := b, operation := .request desired } desired output
    modify fun s => { s with plugin.cache.next := cache.next + 1 }
    return .replaced (← showFound (← access (.put c)))
  | .storeGet first second => do
    demandShared
    let (a, b) ← inputs first second
    return .found (← showFound (← access (.get (.of a b))))
  | .storeRemove first second => do
    demandShared
    let (a, b) ← inputs first second
    return .removed (← showFound (← access (.remove (.of a b))))
  | .storeClear => do
    demandShared
    let _ ← access .clear
    return .done
  | .storeInfo => do
    demandShared
    let store := (← get).plugin.cache.store
    return .storeInfo store.size store.outline.line

def standing (s : State) : Standing where
  stats := s.plugin.cache.stats
  size := s.plugin.cache.size
  runs := s.runs
  opened := s.requests.map (·.id)

def report (nested : List Command → Play (List Report)) (c : Command) : Play Report := do
  let reply ←
    match ← (carryOut nested c).run with
    | .ok reply => pure reply
    | .error fault => pure (.refused fault)
  return .of reply (standing (← get))

/-- Carries commands out; those that requests bring, up to a depth of `levels`. -/
def reports : Nat → List Command → Play (List Report)
  | 0, _ => return []
  | levels + 1, commands => commands.mapM (report (reports levels))

def step (c : Command) : Play (Report × List (Event String)) := do
  let r ← report (reports (← get).bound) c
  let s ← get
  set { s with events := [] }
  return (r, s.events)

structure Setup where
  config : Option CacheConfig := none
  algorithm : String := Select.name
  behaviour : Behaviour := {}
  logged : Bool := false
  shared : Bool := false
  tracing : Bool := false

structure Transcript where
  begun : List (Event String)
  reports : List (Report × List (Event String))

def descriptor : Descriptor where
  name := "session"
  description := "one session"

def begin (setup : Setup) (bound : Nat) : Except Failure State := do
  let cache ← Cache.ofConfig? (setup.config.getD {})
  return {
    plugin := { descriptor, algorithm := setup.behaviour.algorithm setup.algorithm, cache }
    sink := if setup.logged then .log else .buffer {}
    shared := setup.shared
    tracing := setup.tracing
    bound }

def play (setup : Setup) (commands : List Command) : Except Failure Transcript := do
  let s ← begin setup (weightAll commands)
  let told := [Cache.opened s.plugin.algorithm.name s.plugin.cache.config, s.plugin.created]
  let ((begun, reports), _) := (do return (← told.mapM nameEvent, ← commands.mapM step) : Play _).run s
  return { begun, reports }

end Session

end PairCache
