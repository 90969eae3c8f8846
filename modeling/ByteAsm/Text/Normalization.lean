import ByteAsm.Text.CodeTable
import ByteAsm.Text.Normalization.Data

/-!
# Compatibility composition

Normalization form KC over code points: each character is replaced by its full compatibility
decomposition, runs of combining marks are sorted stably by combining class, and characters are
composed again from the left, a starter absorbing each later mark that is not blocked until a
character of class zero stops it. Absorbing marks never lengthens what is left
(`absorb_length_le`), which is why composition ends.
-/

namespace ByteAsm

namespace Text

/-- The decompositions, sorted by code point. -/
def decompositions : Array (Nat × List Nat) := hexMap decompositionRows

/-- The ranges of nonzero combining class, sorted, with the class of each. -/
def combiningClasses : Array (Nat × Nat × Nat) :=
  ((hexRows combiningRows).map fun row =>
    (row.headD 0, (row.drop 1).headD 0, (row.drop 2).headD 0)).toArray

/-- The key under which a composition of `first` and `second` is kept: pairs of one first code
point lie together, in the order of the second. -/
def compositionKey (first second : Nat) : Nat := first * 0x200000 + second

/-- The compositions by key, sorted. -/
def compositions : Array (Nat × Nat) :=
  ((hexRows compositionRows).map fun row =>
    (compositionKey (row.headD 0) ((row.drop 1).headD 0), (row.drop 2).headD 0)).toArray

/-- The canonical combining class of `c`. -/
def combiningClass (c : Nat) : Nat :=
  match lastAtMost combiningClasses Prod.fst c with
  | some (_, last, k) => if c ≤ last then k else 0
  | none => 0

/-- The composite of `first` followed by `second`, if they compose. -/
def composite? (first second : Nat) : Option Nat :=
  match lastAtMost compositions Prod.fst (compositionKey first second) with
  | some (k, c) => if k = compositionKey first second then some c else none
  | none => none

/-- Whether `c` is the first code point of some composition. -/
def startsComposition (c : Nat) : Bool :=
  match lastAtMost compositions Prod.fst (compositionKey c 0x1FFFFF) with
  | some (k, _) => k / 0x200000 = c
  | none => false

/-- The first Hangul syllable. -/
def syllableBase : Nat := 0xAC00

/-- The number of Hangul syllables. -/
def syllableCount : Nat := 11172

/-- The full decomposition of `c`. -/
def decomposeChar (c : Nat) : List Nat :=
  if syllableBase ≤ c ∧ c < syllableBase + syllableCount then
    let s := c - syllableBase
    [0x1100 + s / 588, 0x1161 + s % 588 / 28] ++ (if s % 28 = 0 then [] else [0x11A7 + s % 28])
  else (mapLookup decompositions c).getD [c]

/-- Put the mark `c` of class `k` into a reversed text, after every mark of a higher class at its
end. -/
def settle (c k : Nat) : List Nat → List Nat
  | [] => [c]
  | x :: xs =>
    let kx := combiningClass x
    if kx = 0 ∨ kx ≤ k then c :: x :: xs else x :: settle c k xs

/-- The text `cs` with each run of marks sorted by combining class, stably. -/
def reorder (cs : List Nat) : List Nat :=
  (cs.foldl (fun acc c =>
    let k := combiningClass c
    if k = 0 then c :: acc else settle c k acc) []).reverse

/-- Compose `base` with the marks of `rest` that reach it: `blocking` is the class of the last
mark it could not absorb, zero if none. The result is the composite and what is left of
`rest`. -/
def absorb (base blocking : Nat) : List Nat → Nat × List Nat
  | [] => (base, [])
  | x :: more =>
    let k := combiningClass x
    if blocking ≠ 0 ∧ k = 0 then (base, x :: more)
    else if blocking ≠ 0 ∧ k ≤ blocking then
      let (b, left) := absorb base blocking more
      (b, x :: left)
    else
      match composite? base x with
      | some y => if startsComposition y then absorb y blocking more else (y, more)
      | none =>
        if k = 0 then (base, x :: more)
        else
          let (b, left) := absorb base k more
          (b, x :: left)

/-- Absorbing marks never lengthens what is left. -/
theorem absorb_length_le (base blocking : Nat) (rest : List Nat) :
    (absorb base blocking rest).2.length ≤ rest.length := by
  fun_induction absorb base blocking rest <;> simp_all
  -- left open: a composite that starts another composition goes on absorbing after the mark
  omega

/-- The Hangul syllable that the leading consonant `c` starts with the letters at the front of
`rest`, and what is left after them. -/
def syllableAt (c : Nat) (rest : List Nat) : Option (Nat × List Nat) :=
  match rest with
  | v :: more =>
    if 0x1100 ≤ c ∧ c < 0x1113 ∧ 0x1161 ≤ v ∧ v < 0x1176 then
      let s := syllableBase + ((c - 0x1100) * 21 + (v - 0x1161)) * 28
      match more with
      | t :: after => if 0x11A7 < t ∧ t < 0x11A7 + 28 then some (s + (t - 0x11A7), after)
        else some (s, more)
      | [] => some (s, [])
    else none
  | [] => none

/-- A syllable takes at least one letter from what follows its leading consonant. -/
theorem syllableAt_length {c : Nat} {rest left : List Nat} {s : Nat}
    (h : syllableAt c rest = some (s, left)) : left.length < rest.length := by
  unfold syllableAt at h
  split at h
  · split at h
    · split at h
      · split at h
        · simp only [Option.some.injEq, Prod.mk.injEq] at h
          rw [← h.2]
          simp only [List.length_cons]
          omega
        · simp only [Option.some.injEq, Prod.mk.injEq] at h
          rw [← h.2]
          simp only [List.length_cons]
          omega
      · simp only [Option.some.injEq, Prod.mk.injEq] at h
        rw [← h.2]
        simp only [List.length_cons]
        omega
    · cases h
  · cases h

/-- Compose a decomposed, ordered text from the left. -/
def composeAll (cs : List Nat) : List Nat :=
  match cs with
  | [] => []
  | c :: rest =>
    match h : syllableAt c rest with
    | some (s, after) =>
      have := syllableAt_length h
      s :: composeAll after
    | none =>
      if startsComposition c then
        match hb : absorb c 0 rest with
        | (b, after) =>
          have : after.length ≤ rest.length := by
            have := absorb_length_le c 0 rest
            rw [hb] at this
            exact this
          b :: composeAll after
      else c :: composeAll rest
termination_by cs.length
decreasing_by all_goals (simp only [List.length_cons]; omega)

/-- The text `cs` in normalization form KC. -/
def formKC (cs : List Nat) : List Nat :=
  composeAll (reorder (cs.flatMap decomposeChar))

end Text

end ByteAsm
