import PairCache.Cache.Locks
import PairCache.Proofs.Cache.Gate
import PairCache.Proofs.Table

/-!
What the operations on locks keep. `Locks.Sound` says that all handles on a pair share the one
lock that the table has for the pair, that the table has no other entries, and that each lock lets one
call in; taking a handle, entering, leaving and dropping the handle keep it.
-/
namespace PairCache

namespace Locks

variable {l : Locks} {id : CallId}

@[simp] theorem entries_onGate (f : Gate → Gate) (call : CallId) (l : Locks) :
    (l.onGate f call).entries = l.entries := by
  unfold onGate
  split <;> rfl

@[simp] theorem handles_onGate (f : Gate → Gate) (call : CallId) (l : Locks) :
    (l.onGate f call).handles = l.handles := by
  unfold onGate
  split <;> rfl

@[simp] theorem next_onGate (f : Gate → Gate) (call : CallId) (l : Locks) :
    (l.onGate f call).next = l.next := by
  unfold onGate
  split <;> rfl

theorem gate_onGate_of_handle {f : Gate → Gate} {h : Handle} (hid : l.handles.get? id = some h)
    (lock : LockId) :
    (l.onGate f id).gate lock = if lock = h.lock then f (l.gate lock) else l.gate lock := by
  simp only [onGate, hid, gate, Table.get?_insert]
  by_cases hl : lock = h.lock
  · subst hl
    simp
  · simp [hl]

theorem admits_iff {h : Handle} (hid : l.handles.get? id = some h) :
    l.admits id = true ↔ id ∈ (l.gate h.lock).inside := by
  simp [admits, hid, Gate.admits]

def AtGate (l : Locks) (id : CallId) : Prop := ∃ lock, id ∈ (l.gate lock).members

theorem atGate_of_admits (h : l.admits id = true) : l.AtGate id := by
  cases hid : l.handles.get? id with
  | none => simp [admits, hid] at h
  | some hd => exact ⟨hd.lock, Gate.mem_members_of_mem_inside ((admits_iff hid).mp h)⟩

structure Sound (l : Locks) : Prop where
  shared : ∀ {id h}, l.handles.get? id = some h → l.entries.get? h.pair = some h.lock
  wanted : ∀ {pair lock}, l.entries.get? pair = some lock →
    ∃ id, l.handles.get? id = some ⟨pair, lock⟩
  apart : ∀ {p q lock}, l.entries.get? p = some lock → l.entries.get? q = some lock → p = q
  fresh : ∀ {pair lock}, l.entries.get? pair = some lock → lock < l.next
  single : ∀ lock, (l.gate lock).size = 1
  nodup : ∀ lock, (l.gate lock).members.Nodup
  held : ∀ {lock id}, id ∈ (l.gate lock).members → ∃ pair, l.handles.get? id = some ⟨pair, lock⟩

theorem sound_empty : Sound {} where
  shared h := by simp at h
  wanted h := by simp at h
  apart h := by simp at h
  fresh h := by simp at h
  single _ := rfl
  nodup _ := by simp [gate, Gate.members]
  held h := by simp [gate, Gate.members] at h

theorem Sound.eq_of_admits (hs : l.Sound) {i j : CallId} {x y : Handle}
    (hi : l.handles.get? i = some x) (hj : l.handles.get? j = some y) (hpair : x.pair = y.pair)
    (hx : l.admits i = true) (hy : l.admits j = true) : i = j := by
  have hlock : x.lock = y.lock := by
    have hx' := hs.shared hi
    rw [hpair, hs.shared hj] at hx'
    exact (Option.some.inj hx').symm
  have hin := (admits_iff hi).mp hx
  rw [hlock] at hin
  exact Gate.eq_of_mem_inside (hs.single _) hin ((admits_iff hj).mp hy)

theorem Sound.not_atGate (hs : l.Sound) (hid : l.handles.get? id = none) : ¬l.AtGate id := by
  rintro ⟨lock, hmem⟩
  obtain ⟨pair, h⟩ := hs.held hmem
  simp [hid] at h

theorem grant_of_some {pair : Pair} {lock : LockId} (h : l.entries.get? pair = some lock) :
    l.grant id pair = { l with handles := l.handles.insert id ⟨pair, lock⟩ } := by
  simp [grant, h]

theorem grant_of_none {pair : Pair} (h : l.entries.get? pair = none) :
    l.grant id pair =
      { l with
        entries := l.entries.insert pair l.next
        handles := l.handles.insert id ⟨pair, l.next⟩
        next := l.next + 1 } := by
  simp [grant, h]

@[simp] theorem gate_grant (id : CallId) (pair : Pair) (l : Locks) (lock : LockId) :
    (l.grant id pair).gate lock = l.gate lock := by
  unfold grant
  split <;> rfl

theorem handles_grant (id : CallId) (pair : Pair) (l : Locks) :
    ∃ lock, (l.grant id pair).handles = l.handles.insert id ⟨pair, lock⟩ := by
  unfold grant
  split
  · exact ⟨_, rfl⟩
  · exact ⟨_, rfl⟩

@[simp] theorem atGate_grant (id other : CallId) (pair : Pair) (l : Locks) :
    (l.grant id pair).AtGate other ↔ l.AtGate other := by
  simp [AtGate]

theorem ne_of_handle (hid : l.handles.get? id = none) {other : CallId} {h : Handle}
    (hother : l.handles.get? other = some h) : other ≠ id := by
  rintro rfl
  simp [hid] at hother

theorem admits_grant (hid : l.handles.get? id = none) {pair : Pair} {other : CallId}
    (h : l.admits other = true) : (l.grant id pair).admits other = true := by
  cases hother : l.handles.get? other with
  | none => simp [admits, hother] at h
  | some ho =>
    obtain ⟨lock, hhandles⟩ := handles_grant id pair l
    have hgranted : (l.grant id pair).handles.get? other = some ho := by
      rw [hhandles, Table.get?_insert_of_ne (ne_of_handle hid hother)]
      exact hother
    rw [admits_iff hgranted, gate_grant]
    exact (admits_iff hother).mp h

theorem entries_grant {pair p : Pair} {lock : LockId} (hp : l.entries.get? p = some lock) :
    (l.grant id pair).entries.get? p = some lock := by
  cases hpair : l.entries.get? pair with
  | some old => rw [grant_of_some hpair, hp]
  | none =>
    rw [grant_of_none hpair, ← hp]
    refine Table.get?_insert_of_ne ?_
    rintro rfl
    cases hpair.symm.trans hp

theorem handle_grant {pair : Pair} {j : CallId} {x : Handle} (hne : j ≠ id)
    (hj : l.handles.get? j = some x) : (l.grant id pair).handles.get? j = some x := by
  obtain ⟨lock, hhandles⟩ := handles_grant id pair l
  rw [hhandles, Table.get?_insert_of_ne hne, hj]

theorem exists_entry_grant (id : CallId) (pair : Pair) (l : Locks) :
    ∃ lock, (l.grant id pair).entries.get? pair = some lock ∧
      (l.grant id pair).handles.get? id = some ⟨pair, lock⟩ := by
  cases hpair : l.entries.get? pair with
  | some lock =>
    rw [grant_of_some hpair]
    exact ⟨lock, hpair, by simp⟩
  | none =>
    rw [grant_of_none hpair]
    exact ⟨l.next, by simp, by simp⟩

theorem handles_of_grant {pair : Pair} {j : CallId} {x : Handle}
    (hj : (l.grant id pair).handles.get? j = some x) :
    (j = id ∧ x.pair = pair ∧ (l.grant id pair).entries.get? pair = some x.lock) ∨
      j ≠ id ∧ l.handles.get? j = some x := by
  by_cases hne : j = id
  · subst hne
    obtain ⟨lock, hentry, hhandle⟩ := exists_entry_grant j pair l
    obtain rfl := Option.some.inj (hhandle.symm.trans hj)
    exact .inl ⟨rfl, rfl, hentry⟩
  · obtain ⟨lock, hhandles⟩ := handles_grant id pair l
    rw [hhandles, Table.get?_insert_of_ne hne] at hj
    exact .inr ⟨hne, hj⟩

theorem entries_of_grant {pair p : Pair} {lock : LockId}
    (hp : (l.grant id pair).entries.get? p = some lock) :
    l.entries.get? p = some lock ∨ p = pair ∧ lock = l.next ∧ lock < (l.grant id pair).next := by
  cases hpair : l.entries.get? pair with
  | some old =>
    rw [grant_of_some hpair] at hp
    exact .inl hp
  | none =>
    rw [grant_of_none hpair] at hp ⊢
    rcases Table.eq_or_of_get?_insert hp with ⟨rfl, rfl⟩ | hp
    · exact .inr ⟨rfl, rfl, Nat.lt_succ_self _⟩
    · exact .inl hp

theorem next_le_grant (id : CallId) (pair : Pair) (l : Locks) : l.next ≤ (l.grant id pair).next := by
  cases hpair : l.entries.get? pair with
  | some old =>
    refine Nat.le_of_eq ?_
    rw [grant_of_some hpair]
  | none =>
    rw [grant_of_none hpair]
    exact Nat.le_succ _

/-- A new lock is apart from the old ones, which are below `next`. -/
theorem sound_grant (hs : l.Sound) (hid : l.handles.get? id = none) (pair : Pair) :
    (l.grant id pair).Sound where
  shared hj := by
    rcases handles_of_grant hj with ⟨-, rfl, hentry⟩ | ⟨-, hj⟩
    · exact hentry
    · exact entries_grant (hs.shared hj)
  wanted hp := by
    rcases entries_of_grant hp with hold | ⟨rfl, -, -⟩
    · obtain ⟨other, hother⟩ := hs.wanted hold
      exact ⟨other, handle_grant (ne_of_handle hid hother) hother⟩
    · obtain ⟨lock, hentry, hhandle⟩ := exists_entry_grant id _ l
      obtain rfl := Option.some.inj (hentry.symm.trans hp)
      exact ⟨id, hhandle⟩
  apart hp hq := by
    rcases entries_of_grant hp with hp | ⟨rfl, hlock, -⟩
    · rcases entries_of_grant hq with hq | ⟨-, hlock, -⟩
      · exact hs.apart hp hq
      · exact absurd hlock (Nat.ne_of_lt (hs.fresh hp))
    · rcases entries_of_grant hq with hq | ⟨rfl, -, -⟩
      · exact absurd hlock (Nat.ne_of_lt (hs.fresh hq))
      · rfl
  fresh hp := by
    rcases entries_of_grant hp with hp | ⟨-, -, hnext⟩
    · exact Nat.lt_of_lt_of_le (hs.fresh hp) (next_le_grant id pair l)
    · exact hnext
  single lock := by
    rw [gate_grant]
    exact hs.single lock
  nodup lock := by
    rw [gate_grant]
    exact hs.nodup lock
  held hmem := by
    rw [gate_grant] at hmem
    obtain ⟨p, hp⟩ := hs.held hmem
    exact ⟨p, handle_grant (ne_of_handle hid hp) hp⟩

theorem sound_onGate (hs : l.Sound) {f : Gate → Gate} (hsize : ∀ g, (f g).size = g.size)
    (hnodup : ∀ lock, (f (l.gate lock)).members.Nodup)
    (hmem : ∀ {lock other}, other ∈ (f (l.gate lock)).members →
      other = id ∨ other ∈ (l.gate lock).members) : (l.onGate f id).Sound := by
  cases hid : l.handles.get? id with
  | none => simpa [onGate, hid] using hs
  | some h =>
    refine ⟨?_, ?_, ?_, ?_, ?_, ?_, ?_⟩
    · intro other hd hother
      rw [handles_onGate] at hother
      rw [entries_onGate]
      exact hs.shared hother
    · intro pair lock hpair
      rw [entries_onGate] at hpair
      rw [handles_onGate]
      exact hs.wanted hpair
    · intro p q lock hp hq
      rw [entries_onGate] at hp hq
      exact hs.apart hp hq
    · intro pair lock hpair
      rw [entries_onGate] at hpair
      rw [next_onGate]
      exact hs.fresh hpair
    · intro lock
      rw [gate_onGate_of_handle hid]
      split
      · rw [hsize, hs.single]
      · exact hs.single lock
    · intro lock
      rw [gate_onGate_of_handle hid]
      split
      · exact hnodup lock
      · exact hs.nodup lock
    · intro lock other hother
      rw [gate_onGate_of_handle hid] at hother
      rw [handles_onGate]
      split at hother
      · rename_i hl
        rcases hmem hother with rfl | hother
        · exact ⟨h.pair, by rw [hid, hl]⟩
        · exact hs.held hother
      · exact hs.held hother

theorem sound_enter (hs : l.Sound) (hid : ¬l.AtGate id) : (l.enter id).Sound := by
  refine sound_onGate hs (Gate.size_enter id) ?_ Gate.mem_members_enter.mp
  intro lock
  exact Gate.nodup_enter (hs.nodup lock) fun hmem => hid ⟨lock, hmem⟩

theorem sound_exit (hs : l.Sound) (id : CallId) : (l.exit id).Sound := by
  refine sound_onGate hs (Gate.size_leave id) (fun lock => Gate.nodup_leave (hs.nodup lock)) ?_
  intro lock other hother
  exact .inr ((Gate.mem_members_leave (hs.nodup lock)).mp hother).2

/-! A call that enters or leaves does so at one gate; the others see nothing of it. -/

theorem gate_onGate (f : Gate → Gate) (id : CallId) (l : Locks) (lock : LockId) :
    (l.onGate f id).gate lock = l.gate lock ∨
      (∃ h, l.handles.get? id = some h ∧ h.lock = lock) ∧
        (l.onGate f id).gate lock = f (l.gate lock) := by
  cases hid : l.handles.get? id with
  | none => exact .inl (by simp [onGate, hid])
  | some h =>
    rw [gate_onGate_of_handle hid]
    by_cases hl : lock = h.lock
    · exact .inr ⟨⟨h, rfl, hl.symm⟩, by simp [hl]⟩
    · exact .inl (by simp [hl])

theorem admits_onGate {f : Gate → Gate} {other : CallId}
    (hf : ∀ g : Gate, other ∈ g.inside → other ∈ (f g).inside) (h : l.admits other = true) :
    (l.onGate f id).admits other = true := by
  cases hother : l.handles.get? other with
  | none => simp [admits, hother] at h
  | some ho =>
    have hin := (admits_iff hother).mp h
    rw [admits_iff (by rw [handles_onGate]; exact hother)]
    rcases gate_onGate f id l ho.lock with heq | ⟨_, heq⟩
    · rw [heq]
      exact hin
    · rw [heq]
      exact hf _ hin

theorem atGate_onGate {f : Gate → Gate} {other : CallId}
    (hf : ∀ lock, other ∈ (f (l.gate lock)).members ↔ other ∈ (l.gate lock).members) :
    (l.onGate f id).AtGate other ↔ l.AtGate other := by
  refine exists_congr fun lock => ?_
  rcases gate_onGate f id l lock with heq | ⟨_, heq⟩
  · rw [heq]
  · rw [heq, hf]

theorem admits_enter {other : CallId} (h : l.admits other = true) :
    (l.enter id).admits other = true :=
  admits_onGate (fun _ => Gate.mem_inside_enter) h

theorem admits_exit {other : CallId} (hne : other ≠ id) (h : l.admits other = true) :
    (l.exit id).admits other = true :=
  admits_onGate (fun _ hin => Gate.mem_inside_leave hin hne) h

theorem atGate_enter {other : CallId} (hne : other ≠ id) :
    (l.enter id).AtGate other ↔ l.AtGate other :=
  atGate_onGate fun _ => by simp [Gate.mem_members_enter, hne]

theorem atGate_enter_self {h : Handle} (hid : l.handles.get? id = some h) :
    (l.enter id).AtGate id := by
  refine ⟨h.lock, ?_⟩
  rw [enter, gate_onGate_of_handle hid]
  simp [Gate.mem_members_enter]

theorem atGate_exit (hs : l.Sound) {other : CallId} (hne : other ≠ id) :
    (l.exit id).AtGate other ↔ l.AtGate other :=
  atGate_onGate fun lock => by simp [Gate.mem_members_leave (hs.nodup lock), hne]

theorem not_atGate_exit_self (hs : l.Sound) : ¬(l.exit id).AtGate id := by
  rintro ⟨lock, hmem⟩
  rcases gate_onGate (·.leave id) id l lock with heq | ⟨_, heq⟩
  · -- the gate that is left alone is not the one of the call's lock
    rw [exit, heq] at hmem
    obtain ⟨pair, hid⟩ := hs.held hmem
    rw [gate_onGate_of_handle hid] at heq
    simp only [if_true] at heq
    rw [← heq] at hmem
    exact ((Gate.mem_members_leave (hs.nodup lock)).mp hmem).1 rfl
  · rw [exit, heq] at hmem
    exact ((Gate.mem_members_leave (hs.nodup lock)).mp hmem).1 rfl

@[simp] theorem handles_prune (id : CallId) (l : Locks) : (l.prune id).handles = l.handles := by
  unfold prune
  split
  · split <;> rfl
  · rfl

@[simp] theorem next_prune (id : CallId) (l : Locks) : (l.prune id).next = l.next := by
  unfold prune
  split
  · split <;> rfl
  · rfl

@[simp] theorem gate_prune (id : CallId) (l : Locks) (lock : LockId) :
    (l.prune id).gate lock = l.gate lock := by
  unfold prune
  split
  · split <;> rfl
  · rfl

theorem entries_prune {h : Handle} (hid : l.handles.get? id = some h) :
    (l.prune id).entries = if l.references h.lock = 2 then l.entries.erase h.pair else l.entries := by
  simp only [prune, hid]
  split <;> rfl

theorem entries_of_prune {pair : Pair} {lock : LockId}
    (hpair : (l.prune id).entries.get? pair = some lock) : l.entries.get? pair = some lock := by
  unfold prune at hpair
  split at hpair
  · split at hpair
    · exact (Table.get?_of_get?_erase hpair).2
    · exact hpair
  · exact hpair

@[simp] theorem entries_release (id : CallId) (l : Locks) :
    (l.release id).entries = l.entries := by
  simp only [release]
  split
  · split <;> rfl
  · rfl

@[simp] theorem next_release (id : CallId) (l : Locks) : (l.release id).next = l.next := by
  simp only [release]
  split
  · split <;> rfl
  · rfl

@[simp] theorem handles_release (id : CallId) (l : Locks) :
    (l.release id).handles = l.handles.erase id := by
  simp only [release]
  split
  · split <;> rfl
  · rename_i hnone
    exact (Table.erase_eq_self hnone).symm

def Sole (l : Locks) (id : CallId) (lock : LockId) : Prop :=
  ∀ j x, l.handles.get? j = some x → x.lock = lock → j = id

theorem sole_iff {lock : LockId} :
    l.Sole id lock ↔ (l.handles.erase id).values.countP (fun x => x.lock == lock) = 0 := by
  rw [List.countP_eq_zero]
  constructor
  · intro hsole x hx
    obtain ⟨j, hj⟩ := Table.mem_values.mp hx
    obtain ⟨hne, hj⟩ := Table.get?_of_get?_erase hj
    simpa using fun hlock => hne (hsole j x hj hlock)
  · intro hnone j x hj hlock
    by_cases hne : j = id
    · exact hne
    · have hmem : x ∈ (l.handles.erase id).values :=
        Table.mem_values.mpr ⟨j, (Table.get?_erase_of_ne hne).trans hj⟩
      exact absurd (by simpa using hlock) (hnone x hmem)

theorem gate_release (id : CallId) (l : Locks) (lock : LockId) :
    (l.release id).gate lock = l.gate lock ∨
      l.Sole id lock ∧ (l.release id).gate lock = { free := 1 } := by
  simp only [release]
  split
  · rename_i h hid
    split
    · rename_i hzero
      by_cases hl : lock = h.lock
      · subst hl
        exact .inr ⟨sole_iff.mpr (Nat.eq_zero_of_add_eq_zero_left hzero), by simp [gate]⟩
      · exact .inl (by simp [gate, hl])
    · exact .inl rfl
  · exact .inl rfl

theorem count_entries {h : Handle} (hentry : l.entries.get? h.pair = some h.lock)
    (hapart : ∀ p, l.entries.get? p = some h.lock → p = h.pair) :
    l.entries.values.count h.lock = 1 := by
  have hrest : (l.entries.erase h.pair).values.count h.lock = 0 := by
    refine List.count_eq_zero.mpr fun hmem => ?_
    obtain ⟨p, hp⟩ := Table.mem_values.mp hmem
    obtain ⟨hne, hp⟩ := Table.get?_of_get?_erase hp
    exact hne (hapart p hp)
  rw [(Table.values_perm_of_get? hentry).count_eq, List.count_cons_self, hrest]

theorem references_eq_two_iff {h : Handle} (hid : l.handles.get? id = some h)
    (hentry : l.entries.get? h.pair = some h.lock)
    (hapart : ∀ p, l.entries.get? p = some h.lock → p = h.pair) :
    l.references h.lock = 2 ↔ l.Sole id h.lock := by
  have hhandles : l.handles.values.countP (fun x => x.lock == h.lock) =
      (l.handles.erase id).values.countP (fun x => x.lock == h.lock) + 1 := by
    rw [(Table.values_perm_of_get? hid).countP_eq, List.countP_cons_of_pos (by simp)]
  rw [references, count_entries hentry hapart, hhandles, sole_iff]
  omega

theorem Sound.references_eq_two_iff (hs : l.Sound) {h : Handle}
    (hid : l.handles.get? id = some h) : l.references h.lock = 2 ↔ l.Sole id h.lock :=
  Locks.references_eq_two_iff hid (hs.shared hid) fun _ hp => hs.apart hp (hs.shared hid)

/-- The entry of another handle stays: on the same pair, that handle would be counted, too. -/
theorem shared_prune {h x : Handle} {j : CallId} (hid : l.handles.get? id = some h)
    (hcount : l.references h.lock = 2 ↔ l.Sole id h.lock)
    (hentry : l.entries.get? h.pair = some h.lock) (hj : l.handles.get? j = some x) (hne : j ≠ id)
    (hx : l.entries.get? x.pair = some x.lock) :
    (l.prune id).entries.get? x.pair = some x.lock := by
  rw [entries_prune hid]
  split
  · rename_i htwo
    refine (Table.get?_erase_of_ne fun hpair => hne ?_).trans hx
    rw [hpair, hentry] at hx
    exact hcount.mp htwo j x hj (Option.some.inj hx).symm
  · exact hx

@[simp] theorem handles_drop (id : CallId) (l : Locks) :
    (l.drop id).handles = l.handles.erase id := by
  simp [drop]

@[simp] theorem next_drop (id : CallId) (l : Locks) : (l.drop id).next = l.next := by
  simp [drop]

@[simp] theorem entries_drop (id : CallId) (l : Locks) :
    (l.drop id).entries = (l.prune id).entries := by
  simp [drop]

theorem gate_eq_of_no_members {lock : LockId} (hs : l.Sound) (h : (l.gate lock).members = []) :
    l.gate lock = { free := 1 } := by
  have hsize := hs.single lock
  obtain ⟨hin, hqueue⟩ := List.append_eq_nil_iff.mp h
  cases hg : l.gate lock with
  | mk free inside queue =>
    rw [hg] at hsize hin hqueue
    simp_all [Gate.size]

/-- A lock that is forgotten is as good as new. -/
theorem gate_drop (hs : l.Sound) (hout : ¬l.AtGate id) (lock : LockId) :
    (l.drop id).gate lock = l.gate lock := by
  rcases gate_release id (l.prune id) lock with hsame | ⟨hsole, hnew⟩
  · exact hsame.trans (gate_prune id l lock)
  · have hsole' : l.Sole id lock := by
      rwa [Sole, handles_prune] at hsole
    refine hnew.trans (gate_eq_of_no_members hs ?_).symm
    refine List.eq_nil_iff_forall_not_mem.mpr fun j hmem => ?_
    obtain ⟨pair, hj⟩ := hs.held hmem
    obtain rfl := hsole' j _ hj rfl
    exact hout ⟨lock, hmem⟩

theorem held_drop (hs : l.Sound) (hout : ¬l.AtGate id) {lock : LockId} {j : CallId}
    (hmem : j ∈ ((l.drop id).gate lock).members) :
    ∃ pair, (l.drop id).handles.get? j = some ⟨pair, lock⟩ := by
  rw [gate_drop hs hout] at hmem
  obtain ⟨pair, hj⟩ := hs.held hmem
  refine ⟨pair, ?_⟩
  rw [handles_drop, Table.get?_erase_of_ne]
  · exact hj
  · rintro rfl
    exact hout ⟨lock, hmem⟩

theorem shared_drop (hs : l.Sound) {h x : Handle} (hid : l.handles.get? id = some h) {j : CallId}
    (hj : (l.drop id).handles.get? j = some x) : (l.drop id).entries.get? x.pair = some x.lock := by
  rw [handles_drop] at hj
  obtain ⟨hne, hj⟩ := Table.get?_of_get?_erase hj
  rw [entries_drop]
  exact shared_prune hid (hs.references_eq_two_iff hid) (hs.shared hid) hj hne (hs.shared hj)

/-- An entry that is kept is kept for the sake of another handle. -/
theorem wanted_drop (hs : l.Sound) {h : Handle} (hid : l.handles.get? id = some h) {pair : Pair}
    {lock : LockId} (hpair : (l.drop id).entries.get? pair = some lock) :
    ∃ j, (l.drop id).handles.get? j = some ⟨pair, lock⟩ := by
  rw [entries_drop] at hpair
  have hold := entries_of_prune hpair
  rw [handles_drop]
  obtain ⟨j, hj⟩ := hs.wanted hold
  by_cases hne : j = id
  · subst hne
    obtain rfl := Option.some.inj (hid.symm.trans hj)
    have hothers : ¬l.Sole j lock := by
      intro hsole
      rw [entries_prune hid, if_pos ((hs.references_eq_two_iff hid).mpr hsole)] at hpair
      exact absurd rfl (Table.get?_of_get?_erase hpair).1
    obtain ⟨i, ⟨p, k⟩, hi, hlock, hne⟩ : ∃ i x, l.handles.get? i = some x ∧ x.lock = lock ∧
        i ≠ j := by simpa [Sole] using hothers
    obtain rfl : k = lock := hlock
    obtain rfl := hs.apart (hs.shared hi) hold
    exact ⟨i, (Table.get?_erase_of_ne hne).trans hi⟩
  · exact ⟨j, (Table.get?_erase_of_ne hne).trans hj⟩

theorem sound_drop (hs : l.Sound) {h : Handle} (hid : l.handles.get? id = some h)
    (hout : ¬l.AtGate id) : (l.drop id).Sound where
  shared hj := shared_drop hs hid hj
  wanted hpair := wanted_drop hs hid hpair
  apart hp hq := by
    rw [entries_drop] at hp hq
    exact hs.apart (entries_of_prune hp) (entries_of_prune hq)
  fresh hpair := by
    rw [entries_drop] at hpair
    rw [next_drop]
    exact hs.fresh (entries_of_prune hpair)
  single lock := by
    rw [gate_drop hs hout]
    exact hs.single lock
  nodup lock := by
    rw [gate_drop hs hout]
    exact hs.nodup lock
  held hmem := held_drop hs hout hmem

theorem admits_drop (hs : l.Sound) (hout : ¬l.AtGate id) {other : CallId} (hne : other ≠ id) :
    (l.drop id).admits other = l.admits other := by
  simp only [admits, handles_drop, Table.get?_erase, if_neg hne, gate_drop hs hout]

theorem atGate_drop (hs : l.Sound) (hout : ¬l.AtGate id) {other : CallId} :
    (l.drop id).AtGate other ↔ l.AtGate other := by
  simp only [AtGate, gate_drop hs hout]

end Locks

end PairCache
