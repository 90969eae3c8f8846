/-!
# Code point tables

Character properties of the Unicode standard are kept as sorted arrays: closed ranges of code
points for a yes-or-no property, and runs that move every code point of an arithmetic
progression by one offset for a case mapping. Both are read by one binary search, which finds
the last entry that starts at or below a code point. Larger tables are written as text, one row
of hexadecimal numbers a line.
-/

namespace ByteAsm

namespace Text

/-- A run of code points `first, first + stride, …, last` that a case mapping moves by the same
offset `delta`. -/
structure CaseRun where
  first : Nat
  last : Nat
  stride : Nat
  delta : Int

/-- The last entry of `table` whose start is at most `c`, for a table sorted by start.

The search keeps the invariant that entries below `lo` start at most at `c` and entries from
`hi` on start above it. -/
def lastAtMost {α : Type} (table : Array α) (start : α → Nat) (c : Nat) : Option α :=
  go 0 table.size
where
  /-- Search the entries with index in `[lo, hi)`. -/
  go (lo hi : Nat) : Option α :=
    if lo < hi then
      let mid := (lo + hi) / 2
      match table[mid]? with
      | some entry => if start entry ≤ c then go (mid + 1) hi else go lo mid
      | none => none
    else
      match lo with
      | 0 => none
      | k + 1 => table[k]?
  termination_by hi - lo

/-- Whether `c` lies in one of the closed ranges of `table`, a sorted array of disjoint
ranges. -/
def inRanges (table : Array (Nat × Nat)) (c : Nat) : Bool :=
  match lastAtMost table Prod.fst c with
  | some (_, hi) => c ≤ hi
  | none => false

/-- The image of `c` under the run of `table` that covers it, if there is one. -/
def CaseRun.lookup (table : Array CaseRun) (c : Nat) : Option Nat :=
  match lastAtMost table CaseRun.first c with
  | some run =>
    if c ≤ run.last ∧ (c - run.first) % run.stride = 0 then
      some (Int.toNat (c + run.delta))
    else
      none
  | none => none

/-- The value of upper-case hexadecimal digits; other characters count as zero. -/
def hexNumber (digits : String) : Nat :=
  digits.toList.foldl (fun acc d =>
    acc * 16 + (if 'A' ≤ d then d.toNat - 0x37 else d.toNat - 0x30)) 0

/-- The rows of a table written as text: one row a line, its hexadecimal fields parted by
spaces. -/
def hexRows (text : String) : List (List Nat) :=
  (text.splitOn "\n").map fun line => (line.splitOn " ").map hexNumber

/-- The rows of a table that map a code point, the first field, to the rest of the row, as an
array sorted by code point. -/
def hexMap (text : String) : Array (Nat × List Nat) :=
  ((hexRows text).filterMap fun row => row.head?.map (·, row.drop 1)).toArray

/-- The ranges of a table whose rows hold the first and last code point of a range. -/
def hexRanges (text : String) : Array (Nat × Nat) :=
  ((hexRows text).map fun row => (row.headD 0, (row.drop 1).headD 0)).toArray

/-- The image of `c` in a sorted map, if `c` is one of its keys. -/
def mapLookup (table : Array (Nat × List Nat)) (c : Nat) : Option (List Nat) :=
  match lastAtMost table Prod.fst c with
  | some (k, image) => if k = c then some image else none
  | none => none

end Text

end ByteAsm
