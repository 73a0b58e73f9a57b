/-!
White space in the sense of the Unicode property White_Space, and texts without it at their ends.
-/
namespace PairCache.Blank

def isBlank (c : Char) : Bool :=
  let n := c.toNat
  (9 ≤ n && n ≤ 13) || n == 0x20 || n == 0x85 || n == 0xa0 || n == 0x1680 ||
    (0x2000 ≤ n && n ≤ 0x200a) || n == 0x2028 || n == 0x2029 || n == 0x202f || n == 0x205f ||
    n == 0x3000

def trim (cs : List Char) : List Char :=
  ((cs.dropWhile isBlank).reverse.dropWhile isBlank).reverse

theorem dropWhile_eq_nil_iff {cs : List Char} :
    cs.dropWhile isBlank = [] ↔ ∀ c ∈ cs, isBlank c = true := by
  induction cs with
  | nil => simp
  | cons c rest ih =>
    rw [List.dropWhile_cons]
    cases h : isBlank c with
    | true => simp [h, ih]
    | false => simp [h]

theorem trim_eq_nil_iff {cs : List Char} : trim cs = [] ↔ ∀ c ∈ cs, isBlank c = true := by
  rw [trim, List.reverse_eq_nil_iff, dropWhile_eq_nil_iff]
  constructor
  · intro h
    by_cases hd : cs.dropWhile isBlank = []
    · exact dropWhile_eq_nil_iff.mp hd
    · obtain ⟨c, rest, hc⟩ := List.exists_cons_of_ne_nil hd
      have hb := h c (by simp [hc])
      have hn : isBlank c = false := by
        have := List.head?_dropWhile_not isBlank cs
        simpa [hc] using this
      simp [hb] at hn
  · intro h c hc
    exact h c (List.dropWhile_subset isBlank (List.mem_reverse.mp hc))

end PairCache.Blank
