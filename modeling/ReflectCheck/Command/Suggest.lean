import ReflectCheck.Binary64.Basic

/-!
# Suggestions for mistyped words

A mistyped subcommand, option or value is answered with the known words that are
similar to it. Similarity is the Jaro similarity of the two words as sequences of
characters: with `m` the characters that match (equal, and at most
`max(|a|, |b|) / 2 - 1` positions apart, each matched at most once, in order of `a`)
and `t` half the matched characters that are out of order,

  `jaro(a, b) = (m / |a| + m / |b| + (m - t) / m) / 3`

(0 when nothing matches, 1 for two empty words). The similarity is computed in binary64
arithmetic, each of the three quotients, the two sums (from the left) and the division
by three rounded, and the result compared with the binary64 number nearest to 0.7: so
`jaro(conab, config)`, exactly 0.7, counts as more similar. Words more similar than
0.7 are suggested, the most similar last, of equally similar ones the later known one
last.
-/

namespace ReflectCheck.Command

/-- The numbers of characters of `a` and `b` that match, and half the matched ones out of
    order. -/
def jaroCounts (a b : List Char) : Nat × Nat :=
  let la := a.length
  let lb := b.length
  let range := max la lb / 2 - 1
  let step := fun (acc : Array Bool × Array Bool × Nat) (ci : Char × Nat) =>
    let (af, bf, m) := acc
    let (c, i) := ci
    let lo := i - range
    let hi := min lb (i + range + 1)
    match (List.range hi).find? (fun j => lo ≤ j && b[j]? = some c && !bf.getD j false) with
    | some j => (af.setIfInBounds i true, bf.setIfInBounds j true, m + 1)
    | none => (af, bf, m)
  let (af, bf, m) := a.zipIdx.foldl step (Array.replicate la false, Array.replicate lb false, 0)
  let ma := (a.zipIdx.filter fun (_, i) => af.getD i false).map (·.1)
  let mb := (b.zipIdx.filter fun (_, j) => bf.getD j false).map (·.1)
  (m, ((ma.zip mb).countP fun (x, y) => x ≠ y) / 2)

/-- The Jaro similarity of two words, in binary64 arithmetic. -/
def jaro (a b : List Char) : Binary64 :=
  let la := a.length
  let lb := b.length
  if la = 0 && lb = 0 then Binary64.ofNat 1
  else if la = 0 || lb = 0 then Binary64.ofNat 0
  else
    let (m, t) := jaroCounts a b
    if m = 0 then Binary64.ofNat 0
    else
      let q (x y : Nat) := (Binary64.ofNat x).div (Binary64.ofNat y)
      (((q m la).add (q m lb)).add (q (m - t) m)).div (Binary64.ofNat 3)

/-- The least similarity that is not suggested: the binary64 number nearest to 0.7. -/
def suggestionThreshold : Binary64 := Binary64.ofDecimal false 7 (-1)

/-- Insert a scored word after the words scored no higher (so equal scores keep their
    order). -/
def insertScored (w : Binary64 × String) : List (Binary64 × String) → List (Binary64 × String)
  | [] => [w]
  | v :: rest => if w.1.lt v.1 then w :: v :: rest else v :: insertScored w rest

/-- The known words more similar to `word` than 0.7, least similar first. -/
def similar (word : String) (known : List String) : List String :=
  let scored := known.filterMap fun k =>
    let s := jaro word.toList k.toList
    if suggestionThreshold.lt s then some (s, k) else none
  (scored.foldl (fun acc w => insertScored w acc) []).map (·.2)

/-- The known word most similar to `word`, if any is similar enough. -/
def closest? (word : String) (known : List String) : Option String := (similar word known).getLast?

end ReflectCheck.Command
