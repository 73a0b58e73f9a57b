import Mathlib.Data.List.Induction
import PairCache.Proofs.Cache.Locks

/-!
Handles that go in two steps, with steps of other calls in between. A handle that is checked has been
counted, which may have made the table forget its lock, and it refers to the lock until it is released.
`entry_kept_iff` says when the table keeps a lock that no handle is left for.
-/
namespace PairCache

namespace Locks

variable {l : Locks} {id : CallId}

def Serves (l : Locks) (lock : LockId) (pair : Pair) : Prop :=
  l.entries.get? pair = some lock ∨ ∃ id, l.handles.get? id = some ⟨pair, lock⟩

theorem serves_of_grant {pair p : Pair} {lock : LockId} (hp : (l.grant id pair).Serves lock p) :
    l.Serves lock p ∨ p = pair ∧ lock = l.next ∧ lock < (l.grant id pair).next := by
  rcases hp with hp | ⟨j, hj⟩
  · exact (entries_of_grant hp).imp_left .inl
  · rcases handles_of_grant hj with ⟨-, rfl, hp⟩ | ⟨-, hj⟩
    · exact (entries_of_grant hp).imp_left .inl
    · exact .inl (.inr ⟨j, hj⟩)

theorem serves_of_prune {lock : LockId} {p : Pair} (hp : (l.prune id).Serves lock p) :
    l.Serves lock p := by
  rcases hp with hp | ⟨j, hj⟩
  · exact .inl (entries_of_prune hp)
  · exact .inr ⟨j, by rwa [handles_prune] at hj⟩

theorem serves_of_release {lock : LockId} {p : Pair} (hp : (l.release id).Serves lock p) :
    l.Serves lock p := by
  rcases hp with hp | ⟨j, hj⟩
  · exact .inl (by rwa [entries_release] at hp)
  · rw [handles_release] at hj
    exact .inr ⟨j, (Table.get?_of_get?_erase hj).2⟩

end Locks

inductive HandleStep where
  | grant (id : CallId) (pair : Pair)
  | prune (id : CallId)
  | release (id : CallId)

structure Handling where
  locks : Locks := {}
  /-- The calls whose handles are counted and not yet released. -/
  checked : List CallId := []

namespace Handling

def step? (u : Handling) : HandleStep → Option Handling
  | .grant id pair =>
    if u.locks.handles.contains id then none else some { u with locks := u.locks.grant id pair }
  | .prune id =>
    if u.locks.handles.contains id ∧ id ∉ u.checked then
      some { locks := u.locks.prune id, checked := id :: u.checked }
    else none
  | .release id =>
    if id ∈ u.checked then
      some { locks := u.locks.release id, checked := u.checked.filter (· ≠ id) }
    else none

def run? (u : Handling) : List HandleStep → Option Handling
  | [] => some u
  | s :: steps => do (← u.step? s).run? steps

inductive Takes (u : Handling) : HandleStep → Handling → Prop
  | grant {id} (pair : Pair) (hnone : u.locks.handles.get? id = none) :
      u.Takes (.grant id pair) { u with locks := u.locks.grant id pair }
  | prune {id h} (hid : u.locks.handles.get? id = some h) (hopen : id ∉ u.checked) :
      u.Takes (.prune id) { locks := u.locks.prune id, checked := id :: u.checked }
  | release {id} (hchecked : id ∈ u.checked) :
      u.Takes (.release id)
        { locks := u.locks.release id, checked := u.checked.filter (· ≠ id) }

variable {u v w : Handling} {s : HandleStep} {steps : List HandleStep} {pair : Pair} {id : CallId}

theorem takes_of_step? (h : u.step? s = some v) : u.Takes s v := by
  cases s with
  | grant id pair =>
    obtain ⟨hnone, h⟩ := Option.ite_none_left_eq_some.mp h
    obtain rfl := Option.some.inj h
    exact .grant pair (Option.not_isSome_iff_eq_none.mp hnone)
  | prune id =>
    obtain ⟨⟨hsome, hopen⟩, h⟩ := Option.ite_none_right_eq_some.mp h
    obtain ⟨hd, hid⟩ := Option.isSome_iff_exists.mp hsome
    obtain rfl := Option.some.inj h
    exact .prune hid hopen
  | release id =>
    obtain ⟨hchecked, h⟩ := Option.ite_none_right_eq_some.mp h
    obtain rfl := Option.some.inj h
    exact .release hchecked

theorem run?_append {front rest : List HandleStep} :
    u.run? (front ++ rest) = some w ↔ ∃ v, u.run? front = some v ∧ v.run? rest = some w := by
  induction front generalizing u with
  | nil => simp [run?]
  | cons s front ih =>
    simp only [List.cons_append, run?, Option.bind_eq_bind, Option.bind_eq_some_iff, ih]
    constructor
    · rintro ⟨x, hx, v, hv, hw⟩
      exact ⟨v, ⟨x, hx, hv⟩, hw⟩
    · rintro ⟨v, ⟨x, hx, hv⟩, hw⟩
      exact ⟨x, hx, v, hv, hw⟩

theorem run?_concat :
    u.run? (steps ++ [s]) = some w ↔ ∃ v, u.run? steps = some v ∧ v.step? s = some w := by
  simp [run?_append, run?]

/-- With nothing in between, the two steps are the drop of a handle. -/
theorem run?_drop (hsome : u.locks.handles.contains id = true) (hopen : id ∉ u.checked) :
    u.run? [.prune id, .release id] = some { u with locks := u.locks.drop id } := by
  have hprune : u.step? (.prune id) =
      some { locks := u.locks.prune id, checked := id :: u.checked } := if_pos ⟨hsome, hopen⟩
  have hrest : (id :: u.checked).filter (· ≠ id) = u.checked := by
    rw [List.filter_cons_of_neg (by simp), List.filter_eq_self]
    intro j hj
    refine decide_eq_true ?_
    rintro rfl
    exact hopen hj
  have hrelease : step? { locks := u.locks.prune id, checked := id :: u.checked } (.release id) =
      some { u with locks := u.locks.drop id } := by
    simp only [step?, List.mem_cons_self, if_true, hrest, Locks.drop]
  rw [run?, hprune]
  change (step? _ (.release id)).bind _ = _
  rw [hrelease]
  rfl

structure Sound (u : Handling) : Prop where
  shared : ∀ {id h}, u.locks.handles.get? id = some h → id ∉ u.checked →
    u.locks.entries.get? h.pair = some h.lock
  one : ∀ {lock p q}, u.locks.Serves lock p → u.locks.Serves lock q → p = q
  used : ∀ {lock p}, u.locks.Serves lock p → lock < u.locks.next
  held : ∀ {id}, id ∈ u.checked → ∃ h, u.locks.handles.get? id = some h

theorem sound_empty : Sound {} where
  shared h := by simp at h
  one h := by simp [Locks.Serves] at h
  used h := by simp [Locks.Serves] at h
  held h := by simp at h

theorem Sound.not_checked (hu : u.Sound) (hnone : u.locks.handles.get? id = none) :
    id ∉ u.checked := by
  intro hchecked
  obtain ⟨h, hid⟩ := hu.held hchecked
  cases hnone.symm.trans hid

theorem Sound.references_eq_two_iff (hu : u.Sound) {h : Handle}
    (hid : u.locks.handles.get? id = some h) (hopen : id ∉ u.checked) :
    u.locks.references h.lock = 2 ↔ u.locks.Sole id h.lock :=
  Locks.references_eq_two_iff hid (hu.shared hid hopen) fun _ hp =>
    hu.one (.inl hp) (.inr ⟨id, hid⟩)

theorem Sound.grant (hu : u.Sound) (hnone : u.locks.handles.get? id = none) (pair : Pair) :
    Sound { u with locks := u.locks.grant id pair } where
  shared hother hopen := by
    rcases Locks.handles_of_grant hother with ⟨-, rfl, hnew⟩ | ⟨-, hold⟩
    · exact hnew
    · exact Locks.entries_grant (hu.shared hold hopen)
  one hp hq := by
    rcases Locks.serves_of_grant hp with hp | ⟨rfl, hlock, -⟩
    · rcases Locks.serves_of_grant hq with hq | ⟨-, hlock, -⟩
      · exact hu.one hp hq
      · exact absurd hlock (Nat.ne_of_lt (hu.used hp))
    · rcases Locks.serves_of_grant hq with hq | ⟨rfl, -, -⟩
      · exact absurd hlock (Nat.ne_of_lt (hu.used hq))
      · rfl
  used hp := by
    rcases Locks.serves_of_grant hp with hp | ⟨-, rfl, hnext⟩
    · exact Nat.lt_of_lt_of_le (hu.used hp) (Locks.next_le_grant id pair u.locks)
    · exact hnext
  held hchecked := by
    obtain ⟨h, hother⟩ := hu.held hchecked
    exact ⟨h, Locks.handle_grant (Locks.ne_of_handle hnone hother) hother⟩

theorem Sound.prune (hu : u.Sound) {h : Handle} (hid : u.locks.handles.get? id = some h)
    (hopen : id ∉ u.checked) :
    Sound { locks := u.locks.prune id, checked := id :: u.checked } where
  shared := by
    intro j x hj hx
    rw [Locks.handles_prune] at hj
    obtain ⟨hne, hx⟩ := not_or.mp (mt List.mem_cons.mpr hx)
    exact Locks.shared_prune hid (hu.references_eq_two_iff hid hopen) (hu.shared hid hopen) hj hne
      (hu.shared hj hx)
  one hp hq := hu.one (Locks.serves_of_prune hp) (Locks.serves_of_prune hq)
  used hp := by
    rw [Locks.next_prune]
    exact hu.used (Locks.serves_of_prune hp)
  held hj := by
    rw [Locks.handles_prune]
    rcases List.mem_cons.mp hj with rfl | hj
    · exact ⟨h, hid⟩
    · exact hu.held hj

theorem Sound.release (hu : u.Sound) (id : CallId) :
    Sound { locks := u.locks.release id, checked := u.checked.filter (· ≠ id) } where
  shared := by
    intro j x hj hx
    rw [Locks.handles_release] at hj
    obtain ⟨hne, hj⟩ := Table.get?_of_get?_erase hj
    rw [Locks.entries_release]
    exact hu.shared hj fun hchecked => hx (by simp [hchecked, hne])
  one hp hq := hu.one (Locks.serves_of_release hp) (Locks.serves_of_release hq)
  used hp := by
    rw [Locks.next_release]
    exact hu.used (Locks.serves_of_release hp)
  held hj := by
    obtain ⟨hchecked, hne⟩ := List.mem_filter.mp hj
    obtain ⟨h, hid⟩ := hu.held hchecked
    rw [Locks.handles_release]
    exact ⟨h, (Table.get?_erase_of_ne (by simpa using hne)).trans hid⟩

theorem Sound.takes (hu : u.Sound) (hs : u.Takes s v) : v.Sound := by
  cases hs with
  | grant pair hnone => exact hu.grant hnone pair
  | prune hid hopen => exact hu.prune hid hopen
  | release => exact hu.release _

theorem sound_of_run? (h : Handling.run? {} steps = some u) : u.Sound := by
  induction steps using List.reverseRecOn generalizing u with
  | nil =>
    obtain rfl := Option.some.inj h
    exact sound_empty
  | append_singleton steps s ih =>
    obtain ⟨v, hv, hs⟩ := run?_concat.mp h
    exact (ih hv).takes (takes_of_step? hs)

structure Kept (pair : Pair) (u : Handling) : Prop where
  entry : (u.locks.entries.get? pair).isSome = true
  idle : ∀ j x, u.locks.handles.get? j = some x → x.pair = pair → j ∈ u.checked

/-- The call has the last handle on the pair to be checked, and a handle on the same lock that was checked
before it has yet to be released. -/
structure ChecksTooEarly (pair : Pair) (id : CallId) (u : Handling) : Prop where
  unchecked : id ∉ u.checked
  overtaken : ∃ lock, u.locks.handles.get? id = some ⟨pair, lock⟩ ∧
    ∃ j, j ∈ u.checked ∧ u.locks.handles.get? j = some ⟨pair, lock⟩
  last : ∀ j x, u.locks.handles.get? j = some x → x.pair = pair → j ≠ id → j ∈ u.checked

theorem Sound.not_kept_grant (hu : u.Sound) (hnone : u.locks.handles.get? id = none) (pair : Pair) :
    ¬Kept pair { u with locks := u.locks.grant id pair } := by
  intro hkept
  obtain ⟨lock, -, hid⟩ := Locks.exists_entry_grant id pair u.locks
  exact hu.not_checked hnone (hkept.idle id _ hid rfl)

theorem kept_grant_of_ne {p : Pair} (hnone : u.locks.handles.get? id = none) (hne : p ≠ pair) :
    Kept pair { u with locks := u.locks.grant id p } ↔ u.Kept pair := by
  have hentry : (u.locks.grant id p).entries.get? pair = u.locks.entries.get? pair := by
    refine Option.ext fun lock => ⟨fun hp => ?_, Locks.entries_grant⟩
    exact (Locks.entries_of_grant hp).resolve_right fun heq => hne heq.1.symm
  constructor
  · intro hkept
    refine ⟨hentry ▸ hkept.entry, fun j x hj hx => ?_⟩
    exact hkept.idle j x (Locks.handle_grant (Locks.ne_of_handle hnone hj) hj) hx
  · intro hkept
    refine ⟨hentry.symm ▸ hkept.entry, fun j x hj hx => ?_⟩
    rcases Locks.handles_of_grant hj with ⟨-, hpair, -⟩ | ⟨-, hj⟩
    · exact absurd (hpair.symm.trans hx) hne
    · exact hkept.idle j x hj hx

theorem Sound.kept_prune (hu : u.Sound) {h : Handle} (hid : u.locks.handles.get? id = some h)
    (hopen : id ∉ u.checked) :
    Kept h.pair { locks := u.locks.prune id, checked := id :: u.checked } ↔
      u.ChecksTooEarly h.pair id := by
  have hentry : ((u.locks.prune id).entries.get? h.pair).isSome = true ↔
      ¬u.locks.Sole id h.lock := by
    rw [← hu.references_eq_two_iff hid hopen, Locks.entries_prune hid]
    by_cases htwo : u.locks.references h.lock = 2
    · simp [htwo]
    · simp [htwo, hu.shared hid hopen]
  constructor
  · intro hkept
    have hlast : ∀ j x, u.locks.handles.get? j = some x → x.pair = h.pair → j ≠ id →
        j ∈ u.checked := by
      intro j x hj hx hne
      have hmem := hkept.idle j x (by rwa [Locks.handles_prune]) hx
      exact (List.mem_cons.mp hmem).resolve_left hne
    refine ⟨hopen, ⟨h.lock, hid, ?_⟩, hlast⟩
    obtain ⟨j, x, hj, hlock, hne⟩ : ∃ j x, u.locks.handles.get? j = some x ∧ x.lock = h.lock ∧
        j ≠ id := by simpa [Locks.Sole] using hentry.mp hkept.entry
    have hpair : x.pair = h.pair := hu.one (.inr ⟨j, hj⟩) (.inr ⟨id, by rw [hid, hlock]⟩)
    refine ⟨j, hlast j x hj hpair hne, ?_⟩
    rw [hj, ← hpair, ← hlock]
  · intro hearly
    obtain ⟨lock, hown, j, hchecked, hj⟩ := hearly.overtaken
    have hne : j ≠ id := by
      rintro rfl
      exact hopen hchecked
    refine ⟨hentry.mpr fun hsole => hne (hsole j _ hj ?_), fun i x hi hx => ?_⟩
    · exact congrArg Handle.lock (Option.some.inj (hown.symm.trans hid))
    · rw [Locks.handles_prune] at hi
      by_cases heq : i = id
      · exact List.mem_cons.mpr (.inl heq)
      · exact List.mem_cons_of_mem _ (hearly.last i x hi hx heq)

theorem kept_prune_of_ne {h : Handle} (hid : u.locks.handles.get? id = some h)
    (hne : h.pair ≠ pair) :
    Kept pair { locks := u.locks.prune id, checked := id :: u.checked } ↔ u.Kept pair := by
  have hentry : (u.locks.prune id).entries.get? pair = u.locks.entries.get? pair := by
    rw [Locks.entries_prune hid]
    split
    · exact Table.get?_erase_of_ne hne.symm
    · rfl
  constructor
  · intro hkept
    refine ⟨hentry ▸ hkept.entry, fun j x hj hx => ?_⟩
    have hmem := hkept.idle j x (by rwa [Locks.handles_prune]) hx
    refine (List.mem_cons.mp hmem).resolve_left ?_
    rintro rfl
    obtain rfl := Option.some.inj (hid.symm.trans hj)
    exact hne hx
  · intro hkept
    refine ⟨hentry.symm ▸ hkept.entry, fun j x hj hx => ?_⟩
    rw [Locks.handles_prune] at hj
    exact List.mem_cons_of_mem _ (hkept.idle j x hj hx)

theorem kept_release (hchecked : id ∈ u.checked) :
    Kept pair { locks := u.locks.release id, checked := u.checked.filter (· ≠ id) } ↔
      u.Kept pair := by
  constructor
  · intro hkept
    refine ⟨Locks.entries_release id u.locks ▸ hkept.entry, fun j x hj hx => ?_⟩
    by_cases hne : j = id
    · exact hne ▸ hchecked
    · have hmem := hkept.idle j x (by rw [Locks.handles_release, Table.get?_erase_of_ne hne, hj]) hx
      exact (List.mem_filter.mp hmem).1
  · intro hkept
    refine ⟨(Locks.entries_release id u.locks).symm ▸ hkept.entry, fun j x hj hx => ?_⟩
    rw [Locks.handles_release] at hj
    obtain ⟨hne, hj⟩ := Table.get?_of_get?_erase hj
    exact List.mem_filter.mpr ⟨hkept.idle j x hj hx, by simpa using hne⟩

theorem Sound.kept_takes (hu : u.Sound) (hs : u.Takes s v) :
    v.Kept pair ↔ (u.Kept pair ∧ ∀ j, s ≠ .grant j pair) ∨
      ∃ id, s = .prune id ∧ u.ChecksTooEarly pair id := by
  cases hs with
  | @grant id p hnone =>
    by_cases hp : p = pair
    · subst hp
      simp [hu.not_kept_grant hnone]
    · rw [kept_grant_of_ne hnone hp]
      simp [hp]
  | @prune id h hid hopen =>
    by_cases hp : h.pair = pair
    · subst hp
      have hbefore : ¬u.Kept h.pair := fun hkept => hopen (hkept.idle id h hid rfl)
      rw [hu.kept_prune hid hopen]
      simp [hbefore]
    · have hearly : ¬u.ChecksTooEarly pair id := by
        intro hearly
        obtain ⟨lock, hown, -⟩ := hearly.overtaken
        obtain rfl := Option.some.inj (hid.symm.trans hown)
        exact hp rfl
      rw [kept_prune_of_ne hid hp]
      simp [hearly]
  | release hchecked =>
    rw [kept_release hchecked]
    simp

/-- In the run a handle on the pair was checked too early, and none was taken after it. -/
def Overtaken (pair : Pair) (steps : List HandleStep) : Prop :=
  ∃ front id rest u, steps = front ++ .prune id :: rest ∧ Handling.run? {} front = some u ∧
    u.ChecksTooEarly pair id ∧ ∀ j, .grant j pair ∉ rest

theorem overtaken_concat (hu : Handling.run? {} steps = some u) :
    Overtaken pair (steps ++ [s]) ↔ (Overtaken pair steps ∧ ∀ j, s ≠ .grant j pair) ∨
      ∃ id, s = .prune id ∧ u.ChecksTooEarly pair id := by
  constructor
  · rintro ⟨front, id, rest, v, heq, hv, hearly, hnone⟩
    rcases List.eq_nil_or_concat rest with rfl | ⟨rest, t, rfl⟩
    · obtain ⟨rfl, hs⟩ := List.append_inj' heq rfl
      obtain rfl := Option.some.inj (hu.symm.trans hv)
      exact .inr ⟨id, List.singleton_inj.mp hs, hearly⟩
    · rw [List.concat_eq_append] at heq hnone
      rw [← List.cons_append, ← List.append_assoc] at heq
      obtain ⟨rfl, hs⟩ := List.append_inj' heq rfl
      obtain rfl := List.singleton_inj.mp hs
      refine .inl ⟨⟨front, id, rest, v, rfl, hv, hearly, fun j hj => ?_⟩, fun j => ?_⟩
      · exact hnone j (List.mem_append_left _ hj)
      · rintro rfl
        exact hnone j (List.mem_append_right _ List.mem_cons_self)
  · rintro (⟨⟨front, id, rest, v, rfl, hv, hearly, hnone⟩, hs⟩ | ⟨id, rfl, hearly⟩)
    · refine ⟨front, id, rest ++ [s], v, by simp, hv, hearly, fun j hj => ?_⟩
      rcases List.mem_append.mp hj with hj | hj
      · exact hnone j hj
      · exact hs j (List.mem_singleton.mp hj).symm
    · exact ⟨steps, id, [], u, rfl, hu, hearly, fun j => List.not_mem_nil⟩

theorem kept_iff (h : Handling.run? {} steps = some u) : u.Kept pair ↔ Overtaken pair steps := by
  induction steps using List.reverseRecOn generalizing u with
  | nil =>
    obtain rfl := Option.some.inj h
    constructor
    · intro hkept
      cases hkept.entry
    · rintro ⟨front, id, rest, v, heq, -⟩
      cases front with
      | nil => cases heq
      | cons => cases heq
  | append_singleton steps s ih =>
    obtain ⟨v, hv, hs⟩ := run?_concat.mp h
    rw [(sound_of_run? hv).kept_takes (takes_of_step? hs), overtaken_concat hv, ih hv]

theorem entry_kept_iff (h : Handling.run? {} steps = some u)
    (hgone : ∀ j x, u.locks.handles.get? j = some x → x.pair ≠ pair) :
    (u.locks.entries.get? pair).isSome = true ↔ Overtaken pair steps := by
  rw [← kept_iff h]
  constructor
  · intro hentry
    exact ⟨hentry, fun j x hj hx => absurd hx (hgone j x hj)⟩
  · intro hkept
    exact hkept.entry

theorem entry_gone_of_apart (h : Handling.run? {} steps = some u)
    (hgone : ∀ j x, u.locks.handles.get? j = some x → x.pair ≠ pair)
    (hapart : ∀ front id rest v, steps = front ++ .prune id :: rest →
      Handling.run? {} front = some v → v.checked = []) :
    u.locks.entries.get? pair = none := by
  refine Option.not_isSome_iff_eq_none.mp fun hentry => ?_
  have hkept : u.Kept pair := ⟨hentry, fun j x hj hx => absurd hx (hgone j x hj)⟩
  obtain ⟨front, id, rest, v, heq, hv, hearly, -⟩ := (kept_iff h).mp hkept
  obtain ⟨lock, -, j, hchecked, -⟩ := hearly.overtaken
  rw [hapart front id rest v heq hv] at hchecked
  cases hchecked

/-- Both handles are checked before either is released. -/
def overlapping : List HandleStep :=
  [.grant 1 ⟨1, 2⟩, .grant 2 ⟨1, 2⟩, .prune 1, .prune 2, .release 1, .release 2]

theorem run?_overlapping : ∃ u, Handling.run? {} overlapping = some u ∧
    u.locks.handles = .empty ∧ u.locks.entries.get? ⟨1, 2⟩ = some 0 :=
  ⟨_, rfl, rfl, rfl⟩

theorem entry_kept_iff_overlapping : ∃ u, Handling.run? {} overlapping = some u ∧
    (u.locks.entries.get? ⟨1, 2⟩).isSome = true ∧ Overtaken ⟨1, 2⟩ overlapping := by
  obtain ⟨u, hu, hempty, hentry⟩ := run?_overlapping
  have hgone : ∀ j x, u.locks.handles.get? j = some x → x.pair ≠ ⟨1, 2⟩ := by
    simp [hempty]
  have hkept : (u.locks.entries.get? ⟨1, 2⟩).isSome = true := by
    simp [hentry]
  exact ⟨u, hu, hkept, (entry_kept_iff hu hgone).mp hkept⟩

theorem entry_outlives_handles : ¬∀ steps u pair, Handling.run? {} steps = some u →
    (∀ j x, u.locks.handles.get? j = some x → x.pair ≠ pair) →
    u.locks.entries.get? pair = none := by
  intro hclaim
  obtain ⟨u, hu, hempty, hentry⟩ := run?_overlapping
  have hnone := hclaim overlapping u ⟨1, 2⟩ hu (by simp [hempty])
  cases hnone.symm.trans hentry

end Handling

end PairCache
