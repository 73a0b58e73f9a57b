import PairCache.Json.Decoder
import PairCache.Proofs.Json.RoundTrip

/-!
Decoders on text that was written. A decoder `Reads` a value as `a` when it makes `a` of the value's
text, wherever the text stands; a record reads an object when its fields read the members one by one.
-/
namespace PairCache.Json.Decoder

variable {α σ : Type}

/-- With `depth` more arrays and objects allowed, the text of `v` is read as `a`. -/
def Reads (d : Decoder α) (depth : Nat) (v : Json) (a : α) : Prop :=
  ∀ rest, EndsNumber rest → d depth (v.compact ++ rest) = .ok (a, rest)

theorem Reads.run {d : Decoder α} {v : Json} {a : α} (h : Reads d nesting v a) :
    d.run v.compact = .ok a := by
  have hread := h [] endsNumber_nil
  rw [List.append_nil] at hread
  simp only [Decoder.run, complete, hread, bind, Except.bind]
  rfl

theorem reads_any {v : Json} (hform : v.WellFormed) (hfree : v.FloatFree) {depth : Nat}
    (hdepth : v.depth ≤ depth) : Reads any depth v v :=
  fun _ hrest => value_compact hform hfree hdepth hrest

theorem reads_bool (depth : Nat) (b : Bool) : Reads bool depth (.bool b) b := by
  intro rest _
  cases b <;> rfl

theorem reads_text (depth : Nat) (s : String) : Reads text depth (.string s) s := by
  intro rest _
  rw [compact, quote_append, text, skipBlanks_cons _ (by decide)]
  simp [textBody_escaped, Except.map]

theorem reads_parsed {parse : List Char → Option α} {cs : List Char} {a : α} (expected : String)
    (depth : Nat) (h : parse cs = some a) :
    Reads (parsed expected parse) depth (.string (String.ofList cs)) a := by
  intro rest _
  rw [compact, quote_append, parsed, skipBlanks_cons _ (by decide)]
  simp [textBody_escaped, h]

theorem whole_ofInt {low high i : Int} (expected : String) (depth : Nat) (hlow : low ≤ i)
    (hhigh : i ≤ high) (h : -9223372036854775808 ≤ i ∧ i < 18446744073709551616) {rest : List Char}
    (hrest : EndsNumber rest) :
    whole low high expected depth (Decimal.ofInt i ++ rest) = .ok (i, rest) := by
  obtain ⟨c, cs, hcs, hstarts, hsigned⟩ := signed_ofInt h hrest
  rw [hcs, List.cons_append, whole, skipBlanks_cons _ (isBlank_of_startsNumber hstarts)]
  simp [hstarts, hsigned, hlow, hhigh]

theorem reads_int64 (depth : Nat) (n : Int64) : Reads int64 depth (.ofInt64 n) n := by
  intro rest hrest
  have hlow : -9223372036854775808 ≤ n.toInt := n.le_toInt
  have hhigh : n.toInt ≤ 9223372036854775807 := Int.le_of_lt_add_one n.toInt_lt
  have hread := whole_ofInt "i64" depth hlow hhigh (by omega) hrest
  change int64 depth (Decimal.ofInt n.toInt ++ rest) = _
  rw [int64, hread]
  simp [Except.map]

theorem reads_uint64 (expected : String) (depth : Nat) (n : UInt64) :
    Reads (uint64 expected) depth (.ofUInt64 n) n := by
  intro rest hrest
  have hhigh : (n.toNat : Int) ≤ 18446744073709551615 := by
    have := n.toNat_lt
    omega
  have hread := whole_ofInt expected depth (Int.natCast_nonneg n.toNat) hhigh (by omega) hrest
  change uint64 expected depth (Decimal.ofInt n.toNat ++ rest) = _
  rw [uint64, hread]
  simp [Except.map]

theorem ne_n_of_startsNumber {c : Char} (h : startsNumber c = true) : c ≠ 'n' := by
  rintro rfl
  cases h

theorem opens_of_not_null {v : Json} (h : v.isNull = false) :
    ∃ c cs, v.compact = c :: cs ∧ isBlank c = false ∧ c ≠ 'n' := by
  cases v with
  | null => cases h
  | bool b => cases b <;> exact ⟨_, _, rfl, by decide, by decide⟩
  | number n =>
    obtain ⟨c, cs, hcs, hstarts⟩ := n.write_opens
    exact ⟨c, cs, hcs, isBlank_of_startsNumber hstarts, ne_n_of_startsNumber hstarts⟩
  | string s => exact ⟨_, _, rfl, by decide, by decide⟩
  | array => exact ⟨_, _, compact_array _, by decide, by decide⟩
  | object => exact ⟨_, _, compact_object _, by decide, by decide⟩

theorem reads_option {d : Decoder α} {toJson : α → Json} {depth : Nat}
    (h : ∀ a, (toJson a).isNull = false ∧ Reads d depth (toJson a) a) (o : Option α) :
    Reads (option d) depth (Json.ofOption toJson o) o := by
  intro rest hrest
  cases o with
  | none => rfl
  | some a =>
    obtain ⟨hnull, hread⟩ := h a
    obtain ⟨c, cs, hcs, hblank, hc⟩ := opens_of_not_null hnull
    have hvalue := hread rest hrest
    change option d depth ((toJson a).compact ++ rest) = _
    rw [hcs, List.cons_append] at hvalue ⊢
    rw [option, skipBlanks_cons _ hblank]
    split
    · rename_i heq
      exact absurd (List.cons.inj heq).1 hc
    · rw [hvalue]
      rfl

def pushItem (d : Decoder α) (depth : Nat) (acc : List α) : Reader (List α) :=
  fun cs => (d depth cs).map fun p => (p.1 :: acc, p.2)

theorem list_array {d : Decoder α} {depth : Nat} (rest : List Char) : list d (depth + 1) ('[' :: rest) =
    (items (pushItem d depth) (rest.length + 1) true [] rest).map fun p => (p.1.reverse, p.2) := by
  rw [list, skipBlanks_cons _ (by decide)]
  change (items (pushItem d depth) (rest.length + 1) true [] rest).bind _ = _
  cases items (pushItem d depth) (rest.length + 1) true [] rest <;> rfl

theorem reads_list {d : Decoder α} {toJson : α → Json} {depth : Nat} {xs : List α}
    (h : ∀ x ∈ xs, Reads d depth (toJson x) x) :
    Reads (list d) (depth + 1) (.array (xs.map toJson)) xs := by
  intro rest _
  have hcollects : Collects (TakesItem (pushItem d depth) compact) [] (xs.map toJson)
      (xs.foldl (fun acc x => x :: acc) []) := by
    refine .of_map (collects_foldl (fun x hx acc => ⟨compact_opens _, fun rest hrest => ?_⟩) [])
    rw [pushItem, h x hx rest hrest]
    rfl
  rw [compact_array, List.cons_append, list_array,
    items_listed hcollects (length_lt_listed_items (xs.map toJson) rest)]
  simp [Except.map]

theorem reads_pair {β : Type} {a : Decoder α} {b : Decoder β} {depth : Nat} {v w : Json} {x : α}
    {y : β} (ha : Reads a depth v x) (hb : Reads b depth w y) :
    Reads (pair a b) (depth + 1) (.array [v, w]) (x, y) := by
  intro rest _
  have hx := ha (',' :: (w.compact ++ ']' :: rest)) (endsNumber_cons _ (by decide))
  have hy := hb (']' :: rest) (endsNumber_cons _ (by decide))
  rw [compact_array, List.cons_append, pair, skipBlanks_cons _ (by decide)]
  simp only [nested, listed, continued, itemAt, List.append_assoc, List.cons_append, List.nil_append,
    Nat.reduceBEq, (compact_opens v).item?_first, (compact_opens w).item?_next, bind, Except.bind, hx,
    hy, expect_cons rest (c := ']') (by decide)]
  rfl

theorem members_object {insert : String → α → σ → σ} {start last : σ} {d : Decoder α} {depth : Nat}
    {ms : List (String × Json)} (h : Collects (TakesMember fun acc key cs =>
      ((expect ':' cs).bind (d depth)).map fun p => (insert (String.ofList key) p.1 acc, p.2))
      start ms last) : Reads (members insert start d) (depth + 1) (.object ms) last := by
  intro rest _
  rw [compact_object, List.cons_append, members, skipBlanks_cons _ (by decide)]
  exact members_listed h (length_lt_listed_members ms rest) rest

theorem reads_members (insert : String → α → σ → σ) (start : σ) {d : Decoder α} {depth : Nat}
    {ms : List (String × Json)} {a : String × Json → α} (h : ∀ m ∈ ms, Reads d depth m.2 (a m)) :
    Reads (members insert start d) (depth + 1) (.object ms)
      (ms.foldl (fun acc m => insert m.1 (a m) acc) start) := by
  refine members_object (collects_foldl (fun m hm acc rest hrest => ?_) start)
  simp only [expect_cons _ (c := ':') (by decide), Except.bind, h m hm rest hrest, Except.map,
    String.ofList_toList]

theorem takesMember_field {fields : List (Field σ)} {f : Field σ} {depth : Nat} {s next : σ}
    {key : String} {v : Json} (hfind : (fields.find? fun f => f.name.toList == key.toList) = some f)
    (hset : f.isSet s = false) (hread : Reads (f.read s) depth v next) :
    TakesMember (fieldByName fields depth) s (key, v) next := by
  intro rest hrest
  simp only [fieldByName, hfind, hset, expect_cons _ (c := ':') (by decide), bind, Except.bind]
  exact hread rest hrest

theorem reads_field {name : String} {get : σ → Option α} {set : σ → α → σ} {d : Decoder α}
    {defaulted : Bool} {depth : Nat} {v : Json} {a : α} (s : σ) (h : Reads d depth v a) :
    Reads ((field name get set d defaulted).read s) depth v (set s a) := by
  intro rest hrest
  simp only [field, h rest hrest, Except.map]

theorem collects_field {fields : List (Field σ)} {name : String} {get : σ → Option α}
    {set : σ → α → σ} {d : Decoder α} {defaulted : Bool} {depth : Nat} {s last : σ} {v : Json} {a : α}
    {ms : List (String × Json)}
    (hfind : (fields.find? fun f => f.name.toList == name.toList) =
      some (field name get set d defaulted)) (hset : (get s).isSome = false)
    (hread : Reads d depth v a)
    (hrest : Collects (TakesMember (fieldByName fields depth)) (set s a) ms last) :
    Collects (TakesMember (fieldByName fields depth)) s ((name, v) :: ms) last :=
  .cons (takesMember_field hfind hset (reads_field s hread)) hrest

theorem reads_record {name : String} {fields : List (Field σ)} {start last : σ}
    {finish : σ → Except ReadError α} {depth : Nat} {ms : List (String × Json)} {a : α}
    (h : Collects (TakesMember (fieldByName fields depth)) start ms last)
    (hfinish : finish last = .ok a) :
    Reads (record name fields start finish) (depth + 1) (.object ms) a := by
  intro rest _
  have hmembers := members_listed h (length_lt_listed_members ms rest) rest
  rw [compact_object, List.cons_append, record, skipBlanks_cons _ (by decide)]
  simp only [nested, hmembers, bind, Except.bind, hfinish]
  rfl

end PairCache.Json.Decoder
