/-! Character tables as sorted arrays of disjoint spans of code points, searched by halving.
The search `Span.find?` returns the entry whose span holds a code point; `Span.mem_find?`
says that what it returns does hold it. -/

namespace SchemaNotation.Text

/-- An entry of a table covers the code points `first` to `last`, both included. -/
class Span (α : Type) where
  first : α → Nat
  last : α → Nat

instance : Span (Nat × Nat) := ⟨Prod.fst, Prod.snd⟩

namespace Span

variable {α : Type} [Span α]

/-- Halving search for an entry covering `n` among the entries `lo` to `hi - 1`, which are
sorted and disjoint. -/
def findIn (xs : Array α) (n lo hi : Nat) : Option α :=
  if _h : lo < hi then
    match xs[(lo + hi) / 2]? with
    | none => none
    | some x =>
      if n < first x then findIn xs n lo ((lo + hi) / 2)
      else if last x < n then findIn xs n ((lo + hi) / 2 + 1) hi
      else some x
  else none
termination_by hi - lo

/-- The entry of a sorted table whose span holds the code point `n`, if any. -/
def find? (xs : Array α) (n : Nat) : Option α :=
  findIn xs n 0 xs.size

/-- Whether some entry of a sorted table holds the code point of `c`. -/
def covers (xs : Array α) (c : Char) : Bool :=
  (find? xs c.toNat).isSome

theorem mem_findIn (xs : Array α) (n lo hi : Nat) {x : α} (h : findIn xs n lo hi = some x) :
    first x ≤ n ∧ n ≤ last x := by
  induction lo, hi using findIn.induct xs n with
  | case1 lo hi hlt hnone => rw [findIn, dif_pos hlt, hnone] at h; cases h
  | case2 lo hi hlt y hy hn ih => rw [findIn, dif_pos hlt, hy] at h; simp only [hn] at h; exact ih h
  | case3 lo hi hlt y hy hn hl ih =>
    rw [findIn, dif_pos hlt, hy] at h; simp only [hn, hl] at h; exact ih h
  | case4 lo hi hlt y hy hn hl =>
    rw [findIn, dif_pos hlt, hy] at h
    simp only [hn, hl, if_false, Option.some.injEq] at h
    subst h; omega
  | case5 lo hi hge => rw [findIn, dif_neg hge] at h; cases h

/-- An entry that the search returns holds the code point searched for. -/
theorem mem_find? (xs : Array α) (n : Nat) {x : α} (h : find? xs n = some x) :
    first x ≤ n ∧ n ≤ last x :=
  mem_findIn xs n 0 xs.size h

end Span

end SchemaNotation.Text
