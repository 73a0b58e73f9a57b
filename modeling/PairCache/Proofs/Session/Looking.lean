import PairCache.Session.Play

/-!
Commands that leave the plugin of a session as it is, and with it the cache and its counters. That a
program does so (`Keeps`) comes from its parts.
-/
namespace PairCache.Session

variable {α β : Type} {p : Plugin}

def Keeps (p : Plugin) (m : Play α) : Prop := ∀ s, s.plugin = p → (m.run s).2.plugin = p

theorem keeps_pure (a : α) : Keeps p (pure a) := fun _ hs => hs

theorem keeps_modify {f : State → State} (hf : ∀ s, (f s).plugin = s.plugin) :
    Keeps p (modify f) := fun s hs => (hf s).trans hs

theorem keeps_set {s : State} (hs : s.plugin = p) : Keeps p (set s) := fun _ _ => hs

theorem Keeps.bind {m : Play α} {f : α → Play β} (hm : Keeps p m) (hf : ∀ a, Keeps p (f a)) :
    Keeps p (m >>= f) := fun s hs => hf _ _ (hm s hs)

theorem keeps_get {f : State → Play β} (hf : ∀ s, s.plugin = p → Keeps p (f s)) :
    Keeps p (get >>= f) := fun s hs => hf s hs s hs

theorem keeps_mapM {f : α → Play β} (hf : ∀ a, Keeps p (f a)) (as : List α) :
    Keeps p (as.mapM f) := by
  induction as with
  | nil => exact keeps_pure _
  | cons a as ih =>
    rw [List.mapM_cons]
    exact (hf a).bind fun b => ih.bind fun bs => keeps_pure _

theorem keeps_naming (f : StateM Names α) : Keeps p (naming f) := fun _ hs => hs

theorem keeps_tell (events : List (Event Event.Value)) : Keeps p (tell events) := by
  refine keeps_get fun s hs => ?_
  split
  · refine (keeps_mapM (fun e => keeps_naming _) events).bind fun named => ?_
    exact keeps_modify fun _ => rfl
  · exact keeps_pure _

theorem keeps_countRun : Keeps p countRun := fun _ hs => hs

theorem keeps_perform (first second : Input) (desired : Bundle) :
    Keeps p (perform first second desired) := by
  refine keeps_get fun s hs => ?_
  refine Keeps.bind (keeps_set ?_) fun _ => ?_
  · exact hs
  exact (keeps_tell _).bind fun _ => (keeps_tell _).bind fun _ => keeps_pure _

def Looks (p : Plugin) (m : Try α) : Prop := Keeps p m.run

theorem looks_pure (a : α) : Looks p (pure a) := keeps_pure _

theorem looks_throw (fault : Fault) : Looks p (throw fault : Try α) := keeps_pure _

theorem looks_lift {m : Play α} (hm : Keeps p m) : Looks p (m : Try α) :=
  hm.bind fun _ => keeps_pure _

theorem Looks.bind {m : Try α} {f : α → Try β} (hm : Looks p m) (hf : ∀ a, Looks p (f a)) :
    Looks p (m >>= f) := by
  rw [Looks, ExceptT.run_bind]
  refine Keeps.bind hm fun result => ?_
  cases result with
  | error fault => exact keeps_pure _
  | ok a => exact hf a

theorem looks_get {f : State → Try β} (hf : ∀ s, s.plugin = p → Looks p (f s)) :
    Looks p (get >>= f) := fun s hs => hf s hs s hs

theorem looks_input (place id : String) : Looks p (input place id) := by
  refine looks_get fun s hs => ?_
  split
  · exact looks_pure _
  · exact looks_throw _

theorem looks_inputs (first second : String) : Looks p (inputs first second) :=
  (looks_input _ _).bind fun _ => (looks_input _ _).bind fun _ => looks_pure _

theorem looks_namedBundle (id : String) : Looks p (namedBundle id) := by
  refine looks_get fun s hs => ?_
  split
  · exact looks_pure _
  · exact looks_throw _

theorem looks_bundle (ref : BundleRef) : Looks p (bundle ref) := by
  cases ref with
  | named id => exact looks_namedBundle id
  | made of overrides =>
    cases of with
    | none => exact looks_pure _
    | some id => exact (looks_namedBundle id).bind fun _ => looks_pure _

theorem looks_found (first second : String) : Looks p (found first second) := by
  refine (looks_inputs _ _).bind fun pair => looks_get fun s hs => ?_
  exact looks_pure _

theorem keeps_display (c : Connection) : Keeps p (display c) :=
  (keeps_naming _).bind fun _ => (keeps_naming _).bind fun _ => keeps_pure _

theorem keeps_showFound (c : Option Connection) : Keeps p (showFound c) := by
  cases c with
  | none => exact keeps_pure _
  | some c => exact (keeps_display c).bind fun _ => keeps_pure _

variable (nested : List Command → Play (List Report)) (first second : String) (ref : BundleRef)

theorem looks_run : Looks p (carryOut nested (.run first second ref)) := by
  refine (looks_inputs _ _).bind fun pair => (looks_bundle ref).bind fun desired => ?_
  refine (looks_lift keeps_countRun).bind fun _ => ?_
  refine (looks_lift (keeps_perform _ _ _)).bind fun outcome => ?_
  cases outcome <;> exact looks_pure _

theorem looks_lookup : Looks p (carryOut nested (.lookup first second)) := by
  refine (looks_found first second).bind fun connection => ?_
  exact (looks_lift (keeps_showFound connection)).bind fun _ => looks_pure _

end PairCache.Session
