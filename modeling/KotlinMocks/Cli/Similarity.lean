/-!
# How alike two names are

The Jaro similarity of two texts, from 0 (nothing in common) to 1 (equal). A character of the
first text matches an equal, not yet matched character of the second that stands at most
`max(|a|, |b|) / 2 - 1` places away, the leftmost such one. With `m` matches and `t` half the
number of places where the matched characters, read in order, differ, the similarity is
`(m / |a| + m / |b| + (m - t) / m) / 3`, computed in double precision in that order; two empty
texts are equal, and an empty text is like no other.
-/

namespace KotlinMocks.Cli

/-- The first place in `lo ≤ j < hi` where `ys` holds `c` and `taken` is not yet set. -/
def firstMatch (ys : Array Char) (taken : Array Bool) (c : Char) (lo hi : Nat) : Option Nat :=
  (List.range' lo (hi - lo)).find? fun j => ys.getD j ' ' == c && !taken.getD j true

/-- The characters of `cs` whose flag is set, in order. -/
def flagged (cs : List Char) (flags : Array Bool) : List Char :=
  (cs.zipIdx.filter fun (_, i) => flags.getD i false).map (·.1)

/-- The Jaro similarity of two texts. -/
def jaro (a b : String) : Float :=
  let xs := a.toList
  let ys := b.toList.toArray
  let la := xs.length
  let lb := ys.size
  if la == 0 && lb == 0 then 1.0
  else if la == 0 || lb == 0 then 0.0
  else
    let range := max la lb / 2 - 1
    let (aFlags, bFlags, found) :=
      xs.zipIdx.foldl (fun (acc : Array Bool × Array Bool × Nat) (entry : Char × Nat) =>
        let (c, i) := entry
        let (aFlags, bFlags, m) := acc
        match firstMatch ys bFlags c (i - range) (min lb (i + range + 1)) with
        | some j => (aFlags.setIfInBounds i true, bFlags.setIfInBounds j true, m + 1)
        | none => acc)
        (Array.replicate la false, Array.replicate lb false, 0)
    if found == 0 then 0.0
    else
      let differing := ((flagged xs aFlags).zip (flagged ys.toList bFlags)).countP fun (x, y) => x != y
      let t := differing / 2
      let m := found.toFloat
      (m / la.toFloat + m / lb.toFloat + (found - t).toFloat / m) / 3.0

end KotlinMocks.Cli
