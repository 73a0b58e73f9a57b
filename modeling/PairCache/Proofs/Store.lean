import PairCache.Connection.Store
import PairCache.Proofs.Table

/-!
A store and what was asked of it. After any accesses to an empty store a pair has the connection that was
put last for it and not dropped since (`Latest`), and nothing else is there (`recalls_after`).
-/
namespace PairCache.Store

variable {s : Store} {a : Access} {accesses : List Access} {pair : Pair} {c : Connection}

@[simp] theorem access_put : s.access (.put c) = (s.get? c.pair, s.put c) := s.exchange_eq c.pair c

@[simp] theorem access_get : s.access (.get pair) = (s.get? pair, s) := rfl

@[simp] theorem access_remove : s.access (.remove pair) = (s.get? pair, s.erase pair) := s.take_eq pair

@[simp] theorem access_clear : s.access .clear = (none, .empty) := rfl

namespace Access

def pair? : Access → Option Pair
  | .put c => some c.pair
  | .get key => some key
  | .remove key => some key
  | .clear => none

def ends (pair : Pair) : Access → Bool
  | .put c => decide (c.pair = pair)
  | .get _ => false
  | .remove key => decide (key = pair)
  | .clear => true

end Access

theorem get?_access_iff : (s.access a).2.get? pair = some c ↔
    (a = .put c ∧ c.pair = pair) ∨ (a.ends pair = false ∧ s.get? pair = some c) := by
  cases a with
  | put new =>
    by_cases hpair : new.pair = pair
    · subst hpair
      simp only [access_put, get?_put, if_true, Option.some.injEq, Access.put.injEq, Access.ends,
        decide_true, Bool.true_eq_false, false_and, or_false]
      exact ⟨fun h => ⟨h, h ▸ rfl⟩, And.left⟩
    · have hold : (s.put new).get? pair = s.get? pair := Table.get?_insert_of_ne (Ne.symm hpair)
      simp only [access_put, hold, Access.put.injEq, Access.ends, hpair, decide_false, true_and]
      refine ⟨.inr, ?_⟩
      rintro (⟨rfl, heq⟩ | h)
      · exact absurd heq hpair
      · exact h
  | get key => simp [Access.ends]
  | remove key =>
    by_cases hkey : key = pair
    · simp [Access.ends, hkey]
    · simp [Access.ends, hkey, Table.get?_erase_of_ne (Ne.symm hkey)]
  | clear => simp [Access.ends]

theorem get?_access_of_ne {key : Pair} (hkey : a.pair? = some key) (hne : pair ≠ key) :
    (s.access a).2.get? pair = s.get? pair := by
  cases a with
  | put new =>
    obtain rfl := Option.some.inj hkey
    rw [access_put]
    exact Table.get?_insert_of_ne hne
  | get => rfl
  | remove =>
    obtain rfl := Option.some.inj hkey
    rw [access_remove]
    exact Table.get?_erase_of_ne hne
  | clear => cases hkey

def after (s : Store) (accesses : List Access) : Store :=
  accesses.foldl (fun s a => (s.access a).2) s

theorem after_append (s : Store) (accesses more : List Access) :
    s.after (accesses ++ more) = (s.after accesses).after more := List.foldl_append

/-- Put for the pair, and not done away with since. -/
def Latest (accesses : List Access) (pair : Pair) (c : Connection) : Prop :=
  ∃ before later, accesses = before ++ .put c :: later ∧ c.pair = pair ∧
    ∀ a ∈ later, a.ends pair = false

theorem latest_cons : Latest (a :: accesses) pair c ↔ Latest accesses pair c ∨
    (a = .put c ∧ c.pair = pair) ∧ ∀ b ∈ accesses, b.ends pair = false := by
  constructor
  · rintro ⟨before, later, heq, hpair, hkept⟩
    rcases List.cons_eq_append_iff.mp heq with ⟨rfl, hlater⟩ | ⟨rest, rfl, rfl⟩
    · obtain ⟨rfl, rfl⟩ := List.cons.inj hlater
      exact .inr ⟨⟨rfl, hpair⟩, hkept⟩
    · exact .inl ⟨rest, later, rfl, hpair, hkept⟩
  · rintro (⟨before, later, rfl, hpair, hkept⟩ | ⟨⟨rfl, hpair⟩, hkept⟩)
    · exact ⟨a :: before, later, rfl, hpair, hkept⟩
    · exact ⟨[], accesses, rfl, hpair, hkept⟩

theorem get?_after_iff : (s.after accesses).get? pair = some c ↔ Latest accesses pair c ∨
    (∀ a ∈ accesses, a.ends pair = false) ∧ s.get? pair = some c := by
  induction accesses generalizing s with
  | nil => simp [after, Latest]
  | cons a accesses ih =>
    have hafter : s.after (a :: accesses) = (s.access a).2.after accesses := rfl
    rw [hafter, ih, get?_access_iff, latest_cons, List.forall_mem_cons]
    grind

theorem get?_after_empty_iff :
    (after .empty accesses).get? pair = some c ↔ Latest accesses pair c := by
  rw [get?_after_iff]
  simp

structure Recalls (accesses : List Access) (s : Store) : Prop where
  get_iff : ∀ pair c, (s.access (.get pair)).1 = some c ↔ Latest accesses pair c
  get_none_iff : ∀ pair, (s.access (.get pair)).1 = none ↔ ∀ c, ¬ Latest accesses pair c
  put_gives : ∀ c, (s.access (.put c)).1 = (s.access (.get c.pair)).1
  remove_gives : ∀ pair, (s.access (.remove pair)).1 = (s.access (.get pair)).1
  filed : ∀ pair c, (pair, c) ∈ s.entries → c.pair = pair
  single : (s.values.map Connection.pair).Nodup
  size_eq : ∃ pairs : List Pair, pairs.Nodup ∧
    (∀ pair, pair ∈ pairs ↔ (s.access (.get pair)).1.isSome = true) ∧ s.size = pairs.length
  others : ∀ a key, a.pair? = some key → ∀ pair, pair ≠ key →
    ((s.access a).2.access (.get pair)).1 = (s.access (.get pair)).1

theorem recalls_after (accesses : List Access) : Recalls accesses (after .empty accesses) := by
  have hfiled : ∀ pair c, (pair, c) ∈ (after .empty accesses).entries → c.pair = pair := by
    intro pair c hmem
    obtain ⟨before, later, -, hpair, -⟩ := get?_after_empty_iff.mp (Table.mem_entries.mp hmem)
    exact hpair
  have hkeys : (after .empty accesses).values.map Connection.pair =
      (after .empty accesses).entries.map Prod.fst := by
    rw [Table.values, List.map_map]
    exact List.map_congr_left fun e he => hfiled e.1 e.2 he
  refine {
    get_iff := fun pair c => get?_after_empty_iff
    get_none_iff := fun pair => ?_
    put_gives := fun c => by rw [access_put]; rfl
    remove_gives := fun pair => by rw [access_remove]; rfl
    filed := hfiled
    single := hkeys ▸ (after .empty accesses).nodup
    size_eq := ⟨_, (after .empty accesses).nodup, fun pair => ?_, (List.length_map _).symm⟩
    others := fun a key hkey pair hne => get?_access_of_ne hkey hne }
  · rw [Option.eq_none_iff_forall_ne_some]
    exact forall_congr' fun c => not_congr get?_after_empty_iff
  · rw [Option.isSome_iff_exists, List.mem_map]
    constructor
    · rintro ⟨⟨_, c⟩, hmem, rfl⟩
      exact ⟨c, Table.mem_entries.mp hmem⟩
    · rintro ⟨c, hc⟩
      exact ⟨(pair, c), Table.mem_entries.mpr hc, rfl⟩

end PairCache.Store
