import PairCache.Proofs.Json.RoundTrip

/-!
The limit on nesting. A value that is written with more arrays and objects open at once than the reader
allows is refused at the first one too many (`value_refused`), so that of the values free of floats just
those within the limit are read back (`read_compact`).
-/
namespace PairCache.Json

/-- The items of `xs` take `acc` along until one of them stops the reader. -/
inductive Breaks {σ α : Type} (takes : σ → α → σ → Prop) (stops : σ → α → Prop) : σ → List α → Prop
  | here {acc : σ} {x : α} {xs : List α} (h : stops acc x) : Breaks takes stops acc (x :: xs)
  | later {acc mid : σ} {x : α} {xs : List α} (hfirst : takes acc x mid)
      (hrest : Breaks takes stops mid xs) : Breaks takes stops acc (x :: xs)

theorem breaks_of_exists {σ α : Type} {takes : σ → α → σ → Prop} {stops : σ → α → Prop}
    (put : σ → α → σ) {xs : List α} (h : ∀ x ∈ xs, ∀ acc, takes acc x (put acc x) ∨ stops acc x)
    (hstops : ∃ x ∈ xs, ∀ acc, stops acc x) (acc : σ) : Breaks takes stops acc xs := by
  induction xs generalizing acc with
  | nil =>
    obtain ⟨x, hx, _⟩ := hstops
    cases hx
  | cons x xs ih =>
    rcases h x List.mem_cons_self acc with htakes | hstop
    · obtain ⟨y, hy, hstop⟩ := hstops
      rcases List.mem_cons.mp hy with rfl | hy
      · exact .here (hstop acc)
      · exact .later htakes (ih (fun z hz => h z (List.mem_cons_of_mem _ hz)) ⟨y, hy, hstop⟩ _)
    · exact .here hstop

section Items

variable {σ α : Type} {step : σ → Reader σ} {write : α → List Char} {acc : σ} {xs : List α}

def StopsItem (step : σ → Reader σ) (write : α → List Char) (acc : σ) (x : α) : Prop :=
  OpensItem (write x) ∧ ∀ rest, step acc (write x ++ rest) = .error .malformed

theorem items_continued_breaks (h : Breaks (TakesItem step write) (StopsItem step write) acc xs)
    {fuel : Nat} (hfuel : xs.length < fuel) (rest : List Char) :
    items step fuel false acc (continued ']' write xs ++ rest) = .error .malformed := by
  induction h generalizing fuel with
  | here hstops =>
    obtain ⟨fuel, rfl⟩ := Nat.exists_eq_add_one.mpr (Nat.zero_lt_of_lt hfuel)
    obtain ⟨hopens, hstep⟩ := hstops
    rw [continued, List.cons_append, List.cons_append, List.append_assoc]
    simp only [items, hopens.item?_next, bind, Except.bind, hstep]
  | @later acc mid x xs hfirst _ ih =>
    obtain ⟨fuel, rfl⟩ := Nat.exists_eq_add_one.mpr (Nat.zero_lt_of_lt hfuel)
    have hends := endsNumber_continued ']' (by decide) write xs rest
    rw [continued, List.cons_append, List.cons_append, List.append_assoc, items_next hfirst fuel hends]
    exact ih (Nat.lt_of_succ_lt_succ hfuel)

theorem items_listed_breaks (h : Breaks (TakesItem step write) (StopsItem step write) acc xs)
    {fuel : Nat} (hfuel : xs.length < fuel) (rest : List Char) :
    items step fuel true acc (listed ']' write xs ++ rest) = .error .malformed := by
  obtain ⟨fuel, rfl⟩ := Nat.exists_eq_add_one.mpr (Nat.zero_lt_of_lt hfuel)
  cases h with
  | here hstops =>
    obtain ⟨hopens, hstep⟩ := hstops
    rw [listed, List.append_assoc]
    simp only [items, hopens.item?_first, bind, Except.bind, hstep]
  | @later _ mid x xs hfirst hrest =>
    have hends := endsNumber_continued ']' (by decide) write xs rest
    rw [listed, List.append_assoc, items_first hfirst fuel hends]
    exact items_continued_breaks hrest (Nat.lt_of_succ_lt_succ hfuel) rest

end Items

section Members

variable {σ : Type} {step : σ → List Char → Reader σ} {acc : σ} {ms : List (String × Json)}

def StopsMember (step : σ → List Char → Reader σ) (acc : σ) (m : String × Json) : Prop :=
  ∀ rest, step acc m.1.toList (':' :: (m.2.compact ++ rest)) = .error .malformed

theorem members_continued_breaks (h : Breaks (TakesMember step) (StopsMember step) acc ms) {fuel : Nat}
    (hfuel : ms.length < fuel) (rest : List Char) :
    members step fuel false acc (continued '\x7d' writeMember ms ++ rest) = .error .malformed := by
  induction h generalizing fuel with
  | here hstops =>
    obtain ⟨fuel, rfl⟩ := Nat.exists_eq_add_one.mpr (Nat.zero_lt_of_lt hfuel)
    rw [continued, List.cons_append, List.cons_append, List.append_assoc, writeMember_append]
    simp only [members, key?_next, bind, Except.bind, textBody_escaped, hstops _]
  | @later acc mid m ms hfirst _ ih =>
    obtain ⟨fuel, rfl⟩ := Nat.exists_eq_add_one.mpr (Nat.zero_lt_of_lt hfuel)
    have hends := endsNumber_continued '\x7d' (by decide) writeMember ms rest
    rw [continued, List.cons_append, List.cons_append, List.append_assoc, members_next hfirst fuel hends]
    exact ih (Nat.lt_of_succ_lt_succ hfuel)

theorem members_listed_breaks (h : Breaks (TakesMember step) (StopsMember step) acc ms) {fuel : Nat}
    (hfuel : ms.length < fuel) (rest : List Char) :
    members step fuel true acc (listed '\x7d' writeMember ms ++ rest) = .error .malformed := by
  obtain ⟨fuel, rfl⟩ := Nat.exists_eq_add_one.mpr (Nat.zero_lt_of_lt hfuel)
  cases h with
  | here hstops =>
    rw [listed, List.append_assoc, writeMember_append]
    simp only [members, key?_first, bind, Except.bind, textBody_escaped, hstops _]
  | @later _ mid m ms hfirst hrest =>
    have hends := endsNumber_continued '\x7d' (by decide) writeMember ms rest
    rw [listed, List.append_assoc, members_first hfirst fuel hends]
    exact members_continued_breaks hrest (Nat.lt_of_succ_lt_succ hfuel) rest

end Members

theorem exists_of_lt_depthItems {n : Nat} {xs : List Json} (h : n < depthItems xs) :
    ∃ x ∈ xs, n < x.depth := by
  induction xs with
  | nil => cases h
  | cons x xs ih =>
    rw [depthItems] at h
    rcases Nat.lt_or_ge n x.depth with hx | hx
    · exact ⟨x, List.mem_cons_self, hx⟩
    · obtain ⟨y, hy, hlt⟩ := ih (by omega)
      exact ⟨y, List.mem_cons_of_mem _ hy, hlt⟩

theorem exists_of_lt_depthMembers {n : Nat} {ms : List (String × Json)} (h : n < depthMembers ms) :
    ∃ m ∈ ms, n < m.2.depth := by
  induction ms with
  | nil => cases h
  | cons m ms ih =>
    obtain ⟨k, x⟩ := m
    rw [depthMembers] at h
    rcases Nat.lt_or_ge n x.depth with hx | hx
    · exact ⟨(k, x), List.mem_cons_self, hx⟩
    · obtain ⟨m, hm, hlt⟩ := ih (by omega)
      exact ⟨m, List.mem_cons_of_mem _ hm, hlt⟩

theorem value_array_refused {xs : List Json} {depth : Nat} (hforms : ∀ x ∈ xs, x.WellFormed)
    (hfrees : ∀ x ∈ xs, x.FloatFree) (hdeep : depth < depthItems xs)
    (hrefused : ∀ x ∈ xs, depth < x.depth → ∀ rest, value depth (x.compact ++ rest) = .error .malformed)
    (rest : List Char) :
    value (depth + 1) ((Json.array xs).compact ++ rest) = .error .malformed := by
  have hstops : ∀ x ∈ xs, depth < x.depth → ∀ acc, StopsItem (pushValue depth) compact acc x := by
    intro x hx hlt acc
    refine ⟨compact_opens x, fun rest => ?_⟩
    rw [pushValue, hrefused x hx hlt rest]
    rfl
  have hbreaks : Breaks (TakesItem (pushValue depth) compact) (StopsItem (pushValue depth) compact)
      [] xs := by
    refine breaks_of_exists (fun acc x => x :: acc) (fun x hx acc => ?_) ?_ []
    · rcases Nat.lt_or_ge depth x.depth with hlt | hle
      · exact .inr (hstops x hx hlt acc)
      · refine .inl ⟨compact_opens x, fun rest hrest => ?_⟩
        rw [pushValue, value_compact (hforms x hx) (hfrees x hx) hle hrest]
        rfl
    · obtain ⟨x, hx, hlt⟩ := exists_of_lt_depthItems hdeep
      exact ⟨x, hx, hstops x hx hlt⟩
  rw [compact_array, List.cons_append, value_array,
    items_listed_breaks hbreaks (length_lt_listed_items xs rest)]
  rfl

theorem value_object_refused {ms : List (String × Json)} {depth : Nat}
    (hforms : ∀ m ∈ ms, m.2.WellFormed) (hfrees : ∀ m ∈ ms, m.2.FloatFree)
    (hdeep : depth < depthMembers ms)
    (hrefused : ∀ m ∈ ms, depth < m.2.depth →
      ∀ rest, value depth (m.2.compact ++ rest) = .error .malformed) (rest : List Char) :
    value (depth + 1) ((Json.object ms).compact ++ rest) = .error .malformed := by
  have hstops : ∀ m ∈ ms, depth < m.2.depth → ∀ acc, StopsMember (insertValue depth) acc m := by
    intro m hm hlt acc rest
    simp only [insertValue, expect_cons _ (c := ':') (by decide), Except.bind, hrefused m hm hlt rest,
      Except.map]
  have hbreaks : Breaks (TakesMember (insertValue depth)) (StopsMember (insertValue depth)) [] ms := by
    refine breaks_of_exists (fun acc m => Sorted.insert m.1 m.2 acc) (fun m hm acc => ?_) ?_ []
    · rcases Nat.lt_or_ge depth m.2.depth with hlt | hle
      · exact .inr (hstops m hm hlt acc)
      · refine .inl fun rest hrest => ?_
        simp only [insertValue, expect_cons _ (c := ':') (by decide), Except.bind,
          value_compact (hforms m hm) (hfrees m hm) hle hrest, Except.map, String.ofList_toList]
    · obtain ⟨m, hm, hlt⟩ := exists_of_lt_depthMembers hdeep
      exact ⟨m, hm, hstops m hm hlt⟩
  rw [compact_object, List.cons_append, value_object,
    members_listed_breaks hbreaks (length_lt_listed_members ms rest)]
  rfl

theorem value_refused {v : Json} (hform : v.WellFormed) (hfree : v.FloatFree) {depth : Nat}
    (hdepth : depth < v.depth) (rest : List Char) :
    value depth (v.compact ++ rest) = .error .malformed := by
  induction v using Json.induct generalizing depth rest with
  | null => cases hdepth
  | bool => cases hdepth
  | number => cases hdepth
  | string => cases hdepth
  | array xs ih =>
    cases hform with
    | array hforms =>
    cases hfree with
    | array hfrees =>
    cases depth with
    | zero =>
      rw [compact_array]
      rfl
    | succ depth =>
      exact value_array_refused hforms hfrees (Nat.lt_of_succ_lt_succ hdepth)
        (fun x hx hlt rest => ih x hx (hforms x hx) (hfrees x hx) hlt rest) rest
  | object ms ih =>
    cases hform with
    | object hordered hforms =>
    cases hfree with
    | object hfrees =>
    cases depth with
    | zero =>
      rw [compact_object]
      rfl
    | succ depth =>
      exact value_object_refused hforms hfrees (Nat.lt_of_succ_lt_succ hdepth)
        (fun m hm hlt rest => ih m hm (hforms m hm) (hfrees m hm) hlt rest) rest

theorem read_compact {v : Json} (hform : v.WellFormed) (hfree : v.FloatFree) :
    read v.compact = if v.depth ≤ nesting then .ok v else .error .malformed := by
  split
  · rename_i hle
    exact read_of_value (value_compact hform hfree hle endsNumber_nil)
  · rename_i hgt
    have hrefused := value_refused hform hfree (Nat.lt_of_not_le hgt) []
    rw [List.append_nil] at hrefused
    simp only [read, complete, hrefused, bind, Except.bind]

end PairCache.Json
