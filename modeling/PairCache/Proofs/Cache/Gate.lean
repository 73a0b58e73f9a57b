import PairCache.Cache.Gate

/-!
Who is inside a gate and in its queue: entering adds a member, leaving takes one out, and handing a
place over changes neither. A gate that is `Prompt` keeps no place free while a call waits.
-/
namespace PairCache

namespace Gate

variable {g : Gate} {call other : CallId}

def members (g : Gate) : List CallId := g.inside ++ g.queue

theorem members_enter_perm (call : CallId) (g : Gate) :
    (g.enter call).members.Perm (call :: g.members) := by
  unfold enter
  split
  · simp only [members, ← List.append_assoc]
    exact List.perm_append_singleton _ _
  · simp only [members]
    exact ((List.perm_append_singleton _ _).append_right _)

theorem members_handOver_perm (g : Gate) : g.handOver.members.Perm g.members := by
  unfold handOver
  split
  · exact .refl _
  · rename_i heq
    simp [members, heq]

theorem members_leave_perm (call : CallId) (g : Gate) :
    (g.leave call).members.Perm (g.members.erase call) := by
  unfold leave
  split
  · rename_i h
    refine (members_handOver_perm _).trans ?_
    simp only [members]
    rw [List.erase_append_left _ h]
  · rename_i h
    simp only [members]
    rw [List.erase_append_right _ h]

theorem mem_members_enter : other ∈ (g.enter call).members ↔ other = call ∨ other ∈ g.members := by
  rw [(members_enter_perm call g).mem_iff, List.mem_cons]

theorem nodup_enter (h : g.members.Nodup) (hnew : call ∉ g.members) :
    (g.enter call).members.Nodup :=
  (members_enter_perm call g).nodup_iff.mpr (List.nodup_cons.mpr ⟨hnew, h⟩)

theorem mem_members_leave (h : g.members.Nodup) :
    other ∈ (g.leave call).members ↔ other ≠ call ∧ other ∈ g.members := by
  rw [(members_leave_perm call g).mem_iff, h.mem_erase_iff]

theorem nodup_leave (h : g.members.Nodup) : (g.leave call).members.Nodup :=
  (members_leave_perm call g).nodup_iff.mpr (h.erase call)

theorem mem_inside_enter (h : other ∈ g.inside) : other ∈ (g.enter call).inside := by
  unfold enter
  split
  · exact h
  · exact List.mem_append_left _ h

theorem mem_inside_leave (h : other ∈ g.inside) (hne : other ≠ call) :
    other ∈ (g.leave call).inside := by
  have hmem : other ∈ g.inside.erase call := (List.mem_erase_of_ne hne).mpr h
  unfold leave
  split
  · unfold handOver
    split
    · exact hmem
    · exact List.mem_append_left _ hmem
  · exact h

theorem mem_members_of_mem_inside (h : call ∈ g.inside) : call ∈ g.members :=
  List.mem_append_left _ h

theorem eq_of_mem_inside (hsize : g.size = 1) (h : call ∈ g.inside) (k : other ∈ g.inside) :
    call = other := by
  have hlen : g.inside.length ≤ 1 := by
    simp only [size] at hsize
    omega
  obtain ⟨x, hx⟩ : ∃ x, g.inside = [x] := by
    refine List.length_eq_one_iff.mp (Nat.le_antisymm hlen ?_)
    exact List.length_pos_of_mem h
  rw [hx, List.mem_singleton] at h k
  rw [h, k]

def Prompt (g : Gate) : Prop := g.free = 0 ∨ g.queue = []

theorem prompt_new (free : Nat) : Prompt { free } := .inr rfl

theorem Prompt.enter (h : g.Prompt) (call : CallId) : (g.enter call).Prompt := by
  unfold Gate.enter
  split
  · rename_i hfree
    exact .inl hfree
  · rename_i n hfree
    rcases h with hzero | hqueue
    · rw [hfree] at hzero
      cases hzero
    · exact .inr hqueue

theorem Prompt.handOver (h : g.Prompt) : g.handOver.Prompt := by
  unfold Gate.handOver
  split
  · rename_i hqueue
    exact .inr hqueue
  · rename_i hqueue
    rcases h with hzero | hnil
    · exact .inl hzero
    · rw [hqueue] at hnil
      cases hnil

theorem Prompt.leave (h : g.Prompt) (call : CallId) : (g.leave call).Prompt := by
  unfold Gate.leave
  split
  · have hrest : Prompt { g with inside := g.inside.erase call } := h
    exact hrest.handOver
  · rcases h with hzero | hqueue
    · exact .inl hzero
    · refine .inr ?_
      simp [hqueue]

theorem Prompt.exists_inside (h : g.Prompt) (hsize : 0 < g.size) (hwaits : call ∈ g.queue) :
    ∃ other, other ∈ g.inside := by
  have hzero : g.free = 0 := by
    rcases h with hzero | hqueue
    · exact hzero
    · simp [hqueue] at hwaits
  have hpos : 0 < g.inside.length := by
    simp only [size] at hsize
    omega
  exact List.exists_mem_of_length_pos hpos

theorem Prompt.free_or_held (h : g.Prompt) (hsize : g.size = 1) :
    g = { free := 1 } ∨ ∃ call, g.inside = [call] := by
  obtain ⟨free, inside, queue⟩ := g
  simp only [size] at hsize
  rcases h with hzero | hqueue
  · refine .inr (List.length_eq_one_iff.mp ?_)
    simp only at hzero ⊢
    omega
  · cases inside with
    | nil => simp_all
    | cons call rest =>
      refine .inr ⟨call, ?_⟩
      have hrest : rest = [] := by
        refine List.eq_nil_of_length_eq_zero ?_
        simp only [List.length_cons] at hsize
        omega
      rw [hrest]

end Gate

end PairCache
