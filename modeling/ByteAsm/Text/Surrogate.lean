/-!
# Lone surrogates

A lone surrogate, a code point from `D800` to `DFFF`, can arrive in a JSON text or from a decoder
and has to come out as it went in. It is kept as a stand-in, moved up by `E0000` into a block
where no character is assigned, which behaves like a surrogate under every property this library
asks about and turns back into its surrogate wherever text leaves the library
(`surrogateOf?_standIn`). UTF-8 cannot write it; on standard error it is written as its escape.
-/

namespace ByteAsm

namespace Text

/-- How far a stand-in lies above its surrogate. -/
def standInShift : Nat := 0xE0000

/-- Whether `code` is a surrogate. -/
def isSurrogate (code : Nat) : Bool := 0xD800 ≤ code ∧ code < 0xE000

/-- The stand-in of the surrogate `code`. -/
def standIn (code : Nat) : Char := Char.ofNat (code + standInShift)

/-- The surrogate that `c` stands in for, if it is a stand-in. -/
def surrogateOf? (c : Char) : Option Nat :=
  if isSurrogate (c.toNat - standInShift) then some (c.toNat - standInShift) else none

/-- The code point that `c` stands for. -/
def codePoint (c : Char) : Nat := (surrogateOf? c).getD c.toNat

/-- A surrogate is recovered from its stand-in. -/
theorem surrogateOf?_standIn {code : Nat} (h : isSurrogate code) :
    surrogateOf? (standIn code) = some code := by
  have hv : (code + standInShift).isValidChar := by
    simp only [isSurrogate, decide_eq_true_eq] at h
    simp only [Nat.isValidChar, standInShift]
    omega
  have hc : (standIn code).toNat = code + standInShift := by
    unfold standIn Char.ofNat
    rw [dif_pos hv]
    rfl
  simp only [surrogateOf?, hc, Nat.add_sub_cancel, h, if_true]

/-- The escape `\udxxx` of the surrogate `code`, in lower-case hexadecimal. -/
def surrogateEscape (code : Nat) : String :=
  let digits := Nat.toDigits 16 code
  "\\u" ++ String.ofList (List.replicate (4 - digits.length) '0' ++ digits)

/-- The text `s` with every stand-in written as the escape of its surrogate, as standard error
writes a text that UTF-8 cannot. -/
def escapeSurrogates (s : String) : String :=
  String.join (s.toList.map fun c => match surrogateOf? c with
    | some code => surrogateEscape code
    | none => String.singleton c)

/-- Where writing a text in UTF-8 fails: the first run of lone surrogates, from position `start`
up to `stop`, which begins with the surrogate `first`. -/
structure EncodeFailure where
  start : Nat
  stop : Nat
  first : Nat

/-- The message of a failure to write a text in UTF-8. -/
def EncodeFailure.message (f : EncodeFailure) : String :=
  if f.stop = f.start + 1 then
    "'utf-8' codec can't encode character '" ++ surrogateEscape f.first ++ "' in position " ++
      toString f.start ++ ": surrogates not allowed"
  else
    "'utf-8' codec can't encode characters in position " ++ toString f.start ++ "-" ++
      toString (f.stop - 1) ++ ": surrogates not allowed"

/-- The first failure of writing `s` in UTF-8, if there is one. -/
def utf8Failure? (s : String) : Option EncodeFailure :=
  let cs := s.toList
  match (cs.zipIdx.find? fun (c, _) => (surrogateOf? c).isSome) with
  | some (c, i) =>
    let run := ((cs.drop i).takeWhile fun d => (surrogateOf? d).isSome).length
    some ⟨i, i + run, codePoint c⟩
  | none => none

end Text

end ByteAsm
