/-!
# Close matches

The names close to a misspelt name, for a hint such as "did you mean 'START'?". Closeness is the
similarity ratio of two texts: twice the number of characters in their matching blocks over the
sum of their lengths. The matching blocks are found by taking the longest common block (the one
starting earliest in the first text, then in the second, among the longest), then the matching
blocks of the parts before it and after it. In a text of 200 characters or more, a character
that makes up more than one percent of it (plus one) does not start a block, though it can
extend one.

A name is close when its ratio is at least 0.6. The closest names come first, and of equally
close names the later in code point order.
-/

namespace ByteAsm

namespace Text

/-- The positions of `c` in `b`, in increasing order. -/
def positionsOf (b : Array Char) (c : Char) : List Nat :=
  (List.range b.size).filter (fun j => b[j]? = some c)

/-- Whether `c` is too frequent in `b` to start a block: `b` has at least 200 characters, and
more than one in a hundred of them, plus one, are `c`. -/
def isPopular (b : Array Char) (c : Char) : Bool :=
  200 ≤ b.size && b.size / 100 + 1 < (b.toList.filter (· == c)).length

/-- The positions in `b` where a block may start with `c`. -/
def startsOf (b : Array Char) (c : Char) : List Nat :=
  if isPopular b c then [] else positionsOf b c

/-- The length of the common block that ends at position `j` of `b` in the previous row, kept as
a list of pairs of an end position and a length. -/
def rowLength (row : List (Nat × Nat)) (j : Nat) : Nat :=
  ((row.find? (·.1 == j)).map Prod.snd).getD 0

/-- Whether `a` at `i` and `b` at `j` hold the same character. -/
def agreeAt (a b : Array Char) (i j : Nat) : Bool :=
  match a[i]?, b[j]? with
  | some x, some y => x == y
  | _, _ => false

/-- A block `(i, j, k)` grown to the left while the characters before it agree. -/
def growLeft (a b : Array Char) (alo blo i j k : Nat) : Nat × Nat × Nat :=
  if alo < i ∧ blo < j ∧ agreeAt a b (i - 1) (j - 1) then growLeft a b alo blo (i - 1) (j - 1) (k + 1)
  else (i, j, k)
termination_by i

/-- A block `(i, j, k)` grown to the right while the characters after it agree. -/
def growRight (a b : Array Char) (ahi bhi i j k : Nat) : Nat × Nat × Nat :=
  if i + k < ahi ∧ j + k < bhi ∧ agreeAt a b (i + k) (j + k) then growRight a b ahi bhi i j (k + 1)
  else (i, j, k)
termination_by ahi - (i + k)

/-- The longest common block of `a[alo, ahi)` and `b[blo, bhi)` as `(i, j, k)`: it starts at `i`
in `a` and `j` in `b` and has length `k`; of several, the one starting first in `a`, then in `b`.
Blocks are found among those whose characters may start one, then grown on both sides. -/
def longestBlock (a b : Array Char) (alo ahi blo bhi : Nat) : Nat × Nat × Nat :=
  let scan := (List.range' alo (ahi - alo)).foldl
    (fun (state : List (Nat × Nat) × Nat × Nat × Nat) i =>
      let (row, best) := state
      let js := ((match a[i]? with
        | some c => startsOf b c
        | none => []).filter (blo ≤ ·)).takeWhile (· < bhi)
      js.foldl (fun (acc : List (Nat × Nat) × Nat × Nat × Nat) j =>
        let (newRow, bi, bj, bk) := acc
        let k := (if j = 0 then 0 else rowLength row (j - 1)) + 1
        if k > bk then ((j, k) :: newRow, i + 1 - k, j + 1 - k, k)
        else ((j, k) :: newRow, bi, bj, bk)) ([], best))
    ([], alo, blo, 0)
  let (_, i, j, k) := scan
  let (i, j, k) := growLeft a b alo blo i j k
  growRight a b ahi bhi i j k

/-- The number of characters in the matching blocks of `a[alo, ahi)` and `b[blo, bhi)`. -/
def matchingCount (a b : Array Char) (alo ahi blo bhi : Nat) : Nat :=
  let (i, j, k) := longestBlock a b alo ahi blo bhi
  if 0 < k ∧ alo ≤ i ∧ i + k ≤ ahi then
    k + matchingCount a b alo i blo j + matchingCount a b (i + k) ahi (j + k) bhi
  else 0
termination_by ahi - alo

/-- The number of characters `a` and `b` have in common, counted with multiplicity but without
regard to order. -/
def commonCount (a b : List Char) : Nat :=
  a.eraseDups.foldl (fun acc c => acc + Nat.min (a.count c) (b.count c)) 0

/-- Whether `common` characters in common make texts of total length `total` close: twice the
matches are at least three fifths of the total. -/
def closeEnough (common total : Nat) : Bool :=
  total = 0 || 3 * total ≤ 10 * common

/-- The similarity of a candidate to `word`, as its number of matching characters, if it is
close; texts of equal total length compare by that number. -/
def similarity? (word candidate : String) : Option (Nat × Nat) :=
  let a := candidate.toList
  let b := word.toList
  let total := a.length + b.length
  if closeEnough (min a.length b.length) total && closeEnough (commonCount a b) total then
    let m := matchingCount a.toArray b.toArray 0 a.length 0 b.length
    if closeEnough m total then some (2 * m, total) else none
  else none

/-- Whether a ratio `p₁ / q₁` with its candidate comes before `p₂ / q₂` with its: a larger ratio
first, of equal ratios the later candidate first. -/
def ranksBefore (x y : (Nat × Nat) × String) : Bool :=
  let ((p₁, q₁), s₁) := x
  let ((p₂, q₂), s₂) := y
  let r₁ := if q₁ = 0 then (1, 1) else (p₁, q₁)
  let r₂ := if q₂ = 0 then (1, 1) else (p₂, q₂)
  r₁.1 * r₂.2 > r₂.1 * r₁.2 || (r₁.1 * r₂.2 = r₂.1 * r₁.2 && decide (s₂ ≤ s₁))

/-- At most `n` of the `candidates` that are close to `word`, the closest first. -/
def closeMatches (word : String) (candidates : List String) (n : Nat) : List String :=
  let scored := candidates.filterMap fun c => (similarity? word c).map (·, c)
  ((scored.mergeSort ranksBefore).take n).map Prod.snd

end Text

end ByteAsm
