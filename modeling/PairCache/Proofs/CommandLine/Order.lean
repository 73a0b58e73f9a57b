import PairCache.Proofs.CommandLine.Groups

/-!
The settings that a command line says do not depend on the order of its option groups, as long as the base
parameters keep theirs, nor on how values are joined to options, nor on what the environment says of options
that are given (`read_reordered`).
-/
namespace PairCache.CommandLine

variable {k : Key} {environment environment' : Environment} {groups reordered rewritten : List Group}

section Fold

variable {α β κ : Type} {key : α → κ} {f : β → α → β}

theorem foldl_cons_comm (hcomm : ∀ b x y, key x ≠ key y → f (f b x) y = f (f b y) x) {x : α}
    {xs : List α} (h : ∀ y ∈ xs, key x ≠ key y) (b : β) :
    xs.foldl f (f b x) = f (xs.foldl f b) x := by
  induction xs generalizing b with
  | nil => rfl
  | cons y xs ih =>
    obtain ⟨hy, hxs⟩ := List.forall_mem_cons.mp h
    rw [List.foldl_cons, List.foldl_cons, hcomm b x y hy, ih hxs]

theorem foldl_eq_of_filter_eq [DecidableEq κ]
    (hcomm : ∀ b x y, key x ≠ key y → f (f b x) y = f (f b y) x) {xs ys : List α}
    (h : ∀ k, xs.filter (key · = k) = ys.filter (key · = k)) (b : β) :
    xs.foldl f b = ys.foldl f b := by
  induction xs generalizing ys b with
  | nil =>
    cases ys with
    | nil => rfl
    | cons y ys => simpa using h (key y)
  | cons x xs ih =>
    -- the first of `ys` with this key is `x`, and all before it commute with it
    have hx : ys.filter (key · = key x) = x :: xs.filter (key · = key x) := by
      rw [← h, List.filter_cons_of_pos (by simp)]
    obtain ⟨before, after, rfl, hbefore, -, hafter⟩ := List.filter_eq_cons_iff.mp hx
    have hne : ∀ y ∈ before, key x ≠ key y := fun y hy => by simpa [eq_comm] using hbefore y hy
    have hrest : ∀ k, xs.filter (key · = k) = (before ++ after).filter (key · = k) := by
      intro k
      by_cases heq : key x = k
      · subst heq
        rw [List.filter_append, List.filter_eq_nil_iff.mpr hbefore, hafter, List.nil_append]
      · simpa [List.filter_cons, heq] using h k
    rw [List.foldl_cons, ih hrest, List.foldl_append, List.foldl_append, List.foldl_cons,
      foldl_cons_comm hcomm hne]

end Fold

theorem Draft.put_comm (d : Draft) (x y : Item) (h : x.key ≠ y.key) :
    (d.put x).put y = (d.put y).put x := by
  cases x <;> cases y <;> first | rfl | exact absurd rfl h

theorem sparing_iff : Sparing groups ↔
    (groups.map Group.key).Pairwise fun k l => k = l → k.isRepeatable = true := by
  rw [List.pairwise_map]
  rfl

theorem Sparing.perm (h : Sparing groups) (hperm : groups.Perm reordered) : Sparing reordered :=
  hperm.pairwise h fun hgh heq => heq ▸ hgh heq.symm

theorem Sparing.filter_eq (h : Sparing groups) (hk : k.isRepeatable = false) :
    groups.filter (·.key = k) = [] ∨ ∃ g, groups.filter (·.key = k) = [g] := by
  have hapart : (groups.filter (·.key = k)).Pairwise fun _ _ => False := by
    refine List.Pairwise.imp_of_mem (fun hg hh hgh => ?_) (h.filter (·.key = k))
    have hgkey := of_decide_eq_true (List.mem_filter.mp hg).2
    have hhkey := of_decide_eq_true (List.mem_filter.mp hh).2
    rw [hgkey, hhkey, hk] at hgh
    cases hgh rfl
  cases hlist : groups.filter (·.key = k) with
  | nil => exact .inl rfl
  | cons g gs =>
    rw [hlist, List.pairwise_cons] at hapart
    exact .inr ⟨g, congrArg _ (List.eq_nil_iff_forall_not_mem.mpr hapart.1)⟩

theorem filter_key_eq (hsparing : Sparing groups) (hperm : groups.Perm reordered)
    (hbase : groups.filter (·.key = .base) = reordered.filter (·.key = .base)) (k : Key) :
    groups.filter (·.key = k) = reordered.filter (·.key = k) := by
  cases hk : k.isRepeatable with
  | true => rwa [Key.isRepeatable_iff.mp hk]
  | false =>
    have hfilter := (hperm.filter (·.key = k)).symm
    rcases hsparing.filter_eq hk with hnil | ⟨g, hone⟩
    · rw [hnil] at hfilter ⊢
      exact (List.perm_nil.mp hfilter).symm
    · rw [hone] at hfilter ⊢
      exact (List.perm_singleton.mp hfilter).symm

theorem filter_filterMap_item? (k : Key) (groups : List Group) :
    (groups.filterMap Group.item?).filter (·.key = k) =
      (groups.filter (·.key = k)).filterMap Group.item? := by
  induction groups with
  | nil => rfl
  | cons g groups ih =>
    cases hitem : g.item? with
    | none => by_cases hk : g.key = k <;> simp [hitem, hk, ih]
    | some item =>
      have hkey := Group.key_of_item? hitem
      by_cases hk : g.key = k <;> simp [hitem, hkey, hk, ih]

theorem foldl_put_reordered (hsparing : Sparing groups) (hperm : groups.Perm reordered)
    (hbase : groups.filter (·.key = .base) = reordered.filter (·.key = .base)) (d : Draft) :
    (groups.filterMap Group.item?).foldl Draft.put d =
      (reordered.filterMap Group.item?).foldl Draft.put d := by
  refine foldl_eq_of_filter_eq Draft.put_comm (fun k => ?_) d
  rw [filter_filterMap_item?, filter_filterMap_item?, filter_key_eq hsparing hperm hbase]

inductive Group.Rewrites : Group → Group → Prop where
  | same (g : Group) : Rewrites g g
  | join (k : Key) (value : String) (takes : k.isSwitch = false) :
    Rewrites (.apart k value takes) (.joined k value takes)

theorem Group.Rewrites.key_eq {g h : Group} (hrewrite : g.Rewrites h) : h.key = g.key := by
  cases hrewrite <;> rfl

theorem Group.Rewrites.item?_eq {g h : Group} (hrewrite : g.Rewrites h) (hsome : g.item?.isSome = true) :
    h.item? = g.item? := by
  cases hrewrite with
  | same => rfl
  | join k value takes =>
    rw [item?] at hsome
    split at hsome
    · next hawaits => rw [item?, item?, if_pos hawaits]
    · cases hsome

theorem map_key_eq (h : List.Forall₂ Group.Rewrites reordered rewritten) :
    rewritten.map Group.key = reordered.map Group.key := by
  induction h with
  | nil => rfl
  | cons hg _ ih => rw [List.map_cons, List.map_cons, hg.key_eq, ih]

theorem map_item?_eq (h : List.Forall₂ Group.Rewrites reordered rewritten)
    (hall : ∀ g ∈ reordered, g.item?.isSome = true) :
    rewritten.map Group.item? = reordered.map Group.item? := by
  induction h with
  | nil => rfl
  | cons hg _ ih =>
    obtain ⟨hsome, hrest⟩ := List.forall_mem_cons.mp hall
    rw [List.map_cons, List.map_cons, hg.item?_eq hsome, ih hrest]

theorem readArguments_rewritten {items : List Item}
    (h : List.Forall₂ Group.Rewrites reordered rewritten)
    (hread : readArguments (reordered.flatMap Group.arguments) = .ok items) :
    readArguments (rewritten.flatMap Group.arguments) = .ok items := by
  obtain ⟨hall, hsparing, rfl⟩ := readArguments_eq_ok_iff.mp hread
  have hitems := map_item?_eq h hall
  refine readArguments_eq_ok_iff.mpr ⟨?_, ?_, ?_⟩
  · have hall' : ∀ item? ∈ rewritten.map Group.item?, item?.isSome = true := by
      rw [hitems]
      exact List.forall_mem_map.mpr hall
    exact List.forall_mem_map.mp hall'
  · rw [sparing_iff, map_key_eq h]
    exact sparing_iff.mp hsparing
  · calc reordered.filterMap Group.item?
      _ = (reordered.map Group.item?).filterMap id := by rw [List.filterMap_map, Function.id_comp]
      _ = (rewritten.map Group.item?).filterMap id := by rw [hitems]
      _ = rewritten.filterMap Group.item? := by rw [List.filterMap_map, Function.id_comp]

theorem readEnvironment_congr {items items' : List Item} (keys : List Key)
    (hhas : ∀ key, has key items = has key items')
    (hlookup : ∀ key, has key items = false → ∀ name, key.environmentName? = some name →
      environment'.lookup name = environment.lookup name) :
    readEnvironment environment' items' keys = readEnvironment environment items keys := by
  induction keys with
  | nil => rfl
  | cons key keys ih =>
    rw [readEnvironment, readEnvironment, ih, ← hhas key]
    cases hgiven : has key items with
    | false =>
      cases hname : key.environmentName? with
      | none => rfl
      | some name =>
        simp only [Option.bind_some, hlookup key hgiven name hname]
    | true =>
      -- whatever the variables say, they are not looked into
      cases key.environmentName?.bind (environment'.lookup ·) <;>
        cases key.environmentName?.bind (environment.lookup ·) <;> rfl

theorem has_filterMap (k : Key) (hall : ∀ g ∈ groups, g.item?.isSome = true) :
    has k (groups.filterMap Group.item?) = groups.any fun g => g.key = k := by
  induction groups with
  | nil => rfl
  | cons g groups ih =>
    obtain ⟨hsome, hrest⟩ := List.forall_mem_cons.mp hall
    obtain ⟨item, hitem⟩ := Option.isSome_iff_exists.mp hsome
    rw [List.filterMap_cons_some hitem, List.any_cons, ← ih hrest, ← Group.key_of_item? hitem]
    rfl

theorem read_eq_bind {arguments : List String} {given : List Item}
    (h : readArguments arguments = .ok given) :
    read arguments environment = (readEnvironment environment given Key.all).bind fun items =>
      (items.foldl Draft.put (given.foldl Draft.put {})).settings := by
  rw [read, h]
  simp only [← List.foldl_append]
  rfl

theorem read_reordered {settings : Settings} (hperm : groups.Perm reordered)
    (hbase : groups.filter (·.key = .base) = reordered.filter (·.key = .base))
    (hrewrite : List.Forall₂ Group.Rewrites reordered rewritten)
    (hlookup : ∀ key, key ∉ groups.map Group.key → ∀ name, key.environmentName? = some name →
      environment'.lookup name = environment.lookup name)
    (hread : read (groups.flatMap Group.arguments) environment = .ok settings) :
    read (rewritten.flatMap Group.arguments) environment' = .ok settings := by
  cases hgiven : readArguments (groups.flatMap Group.arguments) with
  | error s =>
    rw [read, hgiven] at hread
    cases hread
  | ok given =>
    obtain ⟨hall, hsparing, rfl⟩ := readArguments_eq_ok_iff.mp hgiven
    have hall' : ∀ g ∈ reordered, g.item?.isSome = true := fun g hg => hall g (hperm.mem_iff.mpr hg)
    have hgiven' : readArguments (rewritten.flatMap Group.arguments) =
        .ok (reordered.filterMap Group.item?) :=
      readArguments_rewritten hrewrite (readArguments_eq_ok_iff.mpr ⟨hall', hsparing.perm hperm, rfl⟩)
    have henvironment : readEnvironment environment' (reordered.filterMap Group.item?) Key.all =
        readEnvironment environment (groups.filterMap Group.item?) Key.all := by
      refine readEnvironment_congr Key.all (fun key => ?_) fun key hhas => hlookup key fun hmem => ?_
      · rw [has_filterMap key hall, has_filterMap key hall', hperm.any_eq]
      · obtain ⟨g, hg, heq⟩ := List.mem_map.mp hmem
        rw [has_filterMap key hall, List.any_eq_false] at hhas
        exact hhas g hg (decide_eq_true heq)
    have hdraft := foldl_put_reordered hsparing hperm hbase {}
    rw [← hread, read_eq_bind hgiven, read_eq_bind hgiven', henvironment, hdraft]

/-- Two base parameters under one name, a negative count, a switch, a value with an equals sign, and
variables that cannot be read and are not. -/
theorem read_reordered_crossed :
    let groups : List Group := [.apart .base "k=true" rfl, .apart .first "a=b" rfl, .bare .json rfl,
      .apart .count "-4" rfl, .apart .base "k=null" rfl, .apart .second "-" rfl, .joined .times "3" rfl]
    let reordered : List Group := [.joined .times "3" rfl, .apart .count "-4" rfl,
      .apart .base "k=true" rfl, .bare .json rfl, .apart .second "-" rfl, .apart .base "k=null" rfl,
      .apart .first "a=b" rfl]
    let rewritten : List Group := [.joined .times "3" rfl, .joined .count "-4" rfl,
      .apart .base "k=true" rfl, .bare .json rfl, .apart .second "-" rfl, .joined .base "k=null" rfl,
      .joined .first "a=b" rfl]
    let environment := [("TANDEM_REUSE_CONNECTIONS", "false"), ("TANDEM_JSON", "true")]
    let environment' := [("TANDEM_REPEAT", "x"), ("TANDEM_JSON", ""), ("TANDEM_FIRST", "c"),
      ("TANDEM_REUSE_CONNECTIONS", "false")]
    let settings : Settings := {
      request := {
        first := "a=b", second := "-", count := some (-4), times := 3
        base := [("k", .bool true), ("k", .null)] }
      cache := { reuse := false }
      output := { json := true } }
    groups.Perm reordered ∧ List.Forall₂ Group.Rewrites reordered rewritten ∧
      read (groups.flatMap Group.arguments) environment = .ok settings ∧
      read (rewritten.flatMap Group.arguments) environment' = .ok settings := by
  intro groups reordered rewritten environment environment' settings
  have hperm : groups.Perm reordered := List.isPerm_iff.mp rfl
  have hbase : groups.filter (·.key = .base) = reordered.filter (·.key = .base) := rfl
  have hrewrite : List.Forall₂ Group.Rewrites reordered rewritten :=
    .cons (.same _) <| .cons (.join ..) <| .cons (.same _) <| .cons (.same _) <| .cons (.same _) <|
      .cons (.join ..) <| .cons (.join ..) .nil
  have hlookup : ∀ key, key ∉ groups.map Group.key → ∀ name, key.environmentName? = some name →
      environment'.lookup name = environment.lookup name := by
    intro key hgiven name hname
    cases key with
    | reuse | maxRuns | logJson => cases hname; rfl
    | flag | label | thenFlag => cases hname
    | _ => exact (hgiven (by simp [groups, Group.key])).elim
  have hread : read (groups.flatMap Group.arguments) environment = .ok settings := rfl
  exact ⟨hperm, hrewrite, hread, read_reordered hperm hbase hrewrite hlookup hread⟩

end PairCache.CommandLine
