import ByteAsm.Encoding.Error
import ByteAsm.Encoding.Escape

/-!
# Punycode

Punycode (RFC 3492) writes a text in ASCII: its ASCII characters first, then, after the last
hyphen, the other characters as the insertions that rebuild the text, each a variable-length
number in base 36 whose digits are letters (case ignored) and digits. The numbers are read with a
bias that adapts after each insertion.

Reading fails on bytes outside ASCII, on a digit that is no letter or digit, on a number that the
text ends in, and on a code point beyond `10FFFF`. Writing, the reverse, serves to check that an
internationalized domain name reads back.
-/

namespace ByteAsm

namespace Punycode

/-- The threshold of the `j`-th digit of a number under the bias `bias`, between 1 and 26. -/
def threshold (j bias : Nat) : Nat :=
  min 26 (max 1 (36 * (j + 1) - bias))

/-- Divide `delta` by 35 while it exceeds 455, counting 36 for each division. -/
def shrink (delta divisions : Nat) : Nat × Nat :=
  if delta > 455 then shrink (delta / 35) (divisions + 36) else (delta, divisions)
termination_by delta
decreasing_by omega

/-- The bias after an insertion of distance `delta`, the first one if `first`, into a text that
then has `count` characters. -/
def adapt (delta : Nat) (first : Bool) (count : Nat) : Nat :=
  let delta := if first then delta / 700 else delta / 2
  let delta := delta + delta / count
  let (delta, divisions) := shrink delta 0
  divisions + 36 * delta / (delta + 38)

/-- The value of a digit: `A`–`Z` from 0, `0`–`9` from 26. -/
def digitValue? (c : Char) : Option Nat :=
  if 'A' ≤ c ∧ c ≤ 'Z' then some (c.toNat - 0x41)
  else if '0' ≤ c ∧ c ≤ '9' then some (c.toNat - 22)
  else none

/-- Read a number from the digits `ds`, its `j`-th digit next, with weight `weight` and the
value `value` so far; the number and the digits after it. -/
def readNumber (bias : Nat) : List Char → Nat → Nat → Nat → Except DecodeError (Nat × List Char)
  | [], _, _, _ => .error (.refused "incomplete punicode string")
  | c :: rest, j, weight, value =>
    match digitValue? c with
    | none => .error (.refused ("Invalid extended code point '" ++ c.toString ++ "'"))
    | some d =>
      let t := threshold j bias
      if d < t then .ok (value + d * weight, rest)
      else readNumber bias rest (j + 1) (weight * (36 - t)) (value + d * weight)

theorem readNumber_rest {bias : Nat} {ds : List Char} {j weight value n : Nat} {rest : List Char}
    (h : readNumber bias ds j weight value = .ok (n, rest)) : rest.length < ds.length := by
  fun_induction readNumber bias ds j weight value with
  | case1 => cases h
  | case2 => cases h
  | case3 c rest' _ _ _ _ _ _ =>
    cases h
    simp
  | case4 =>
    rename_i ih
    have := ih h
    simp only [List.length_cons]
    omega

/-- Insert the code points that the digits `ds` encode into `text`, with the code point `code`,
the place `place` after the last insertion and the bias `bias` so far. -/
def insertAll (text : List Nat) (ds : List Char) (code place bias : Nat) (first : Bool) :
    Except DecodeError (List Nat) :=
  match ds with
  | [] => .ok text
  | d :: more =>
    match h : readNumber bias (d :: more) 0 1 0 with
    | .error e => .error e
    | .ok (delta, rest) =>
      have := readNumber_rest h
      let spot := place + delta
      let code := code + spot / (text.length + 1)
      let spot := spot % (text.length + 1)
      if code > 0x10FFFF then
        .error (.refused ("Invalid character U+" ++ String.ofList (Nat.toDigits 16 code)))
      else
        let text := text.take spot ++ code :: text.drop spot
        insertAll text rest code (spot + 1) (adapt delta first text.length) false
termination_by ds.length
decreasing_by simp only [List.length_cons] at *; omega

/-- Read bytes as ASCII, counting positions from the first of them. -/
def asciiText (bytes : List Nat) : Except DecodeError (List Char) :=
  (bytes.zipIdx).mapM fun (b, i) =>
    if b < 0x80 then .ok (Char.ofNat b)
    else .error (.invalid "ascii" b i (i + 1) "ordinal not in range(128)")

/-- Decode Punycode into code points, which may include surrogates. -/
def decodeCodes (bytes : List Nat) : Except DecodeError (List Nat) := do
  let hyphens := (bytes.zipIdx.filter (·.1 = 0x2D)).map (·.2)
  let (base, digits) ← match hyphens.getLast? with
    | none => pure ([], ← asciiText bytes)
    | some p => pure (← asciiText (bytes.take p), ← asciiText (bytes.drop (p + 1)))
  insertAll (base.map Char.toNat) (digits.map Char.toUpper) 0x80 0 72 true

/-- Decode Punycode. -/
def decode (bytes : List Nat) : Except DecodeError (List Char) :=
  (decodeCodes bytes).map (·.map Encoding.charOfCode)

/-- The digit of a value below 36: `a`–`z`, then `0`–`9`. -/
def digitChar (d : Nat) : Char :=
  if d < 26 then Char.ofNat (0x61 + d) else Char.ofNat (0x30 + d - 26)

/-- The digits of the number `n`, its `j`-th digit next, under the bias `bias`. -/
def writeNumber (bias : Nat) (n j : Nat) : List Char :=
  let t := threshold j bias
  if n < t then [digitChar n]
  else digitChar (t + (n - t) % (36 - t)) :: writeNumber bias ((n - t) / (36 - t)) (j + 1)
termination_by n
decreasing_by
  have : 1 ≤ t := by simp only [t, threshold]; omega
  have : t ≤ 26 := by simp only [t, threshold]; omega
  have : 36 - t ≥ 10 := by omega
  exact Nat.lt_of_le_of_lt (Nat.div_le_self _ _) (by omega)

/-- The insertions that build `text` from its characters below each code point of `codes`, in
increasing order, as distances. -/
def insertions (text : List Char) (codes : List Nat) : List Nat :=
  let step (acc : List Nat × Nat × Int) (code : Nat) : List Nat × Nat × Int :=
    let (out, last, lastIndex) := acc
    let below := (text.filter (·.toNat < code)).length
    let start : Int := (below + 1) * (code - last)
    -- each occurrence of `code` among the characters up to it gives one distance
    let marks := (text.filter (·.toNat ≤ code)).zipIdx.filterMap fun (c, i) =>
      if c.toNat = code then some i else none
    let (out, lastIndex, _) := marks.foldl (fun (acc : List Nat × Int × Int) (i : Nat) =>
      let (out, lastIndex, delta) := acc
      let delta := delta + ((i : Int) - lastIndex)
      (out ++ [(delta - 1).toNat], (i : Int), 0)) (out, lastIndex, start)
    (out, code, lastIndex)
  (codes.foldl step ([], 0x80, -1)).1

/-- Encode `text` in Punycode. -/
def encode (text : List Char) : List Char :=
  let base := text.filter (·.toNat < 0x80)
  let codes := ((text.filter (·.toNat ≥ 0x80)).map Char.toNat).eraseDups.mergeSort (· ≤ ·)
  let deltas := insertions text codes
  let (digits, _) := deltas.zipIdx.foldl (fun (acc : List Char × Nat) (delta, i) =>
    (acc.1 ++ writeNumber acc.2 delta 0, adapt delta (i = 0) (base.length + i + 1))) ([], 72)
  if base.isEmpty then digits else base ++ '-' :: digits

end Punycode

end ByteAsm
