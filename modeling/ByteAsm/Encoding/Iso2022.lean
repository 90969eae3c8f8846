import ByteAsm.Encoding.Stateful
import ByteAsm.Encoding.PrefixCode.EucJp
import ByteAsm.Encoding.PrefixCode.Jis2004
import ByteAsm.Encoding.PrefixCode.Gb
import ByteAsm.Encoding.PrefixCode.Korean

/-!
# ISO 2022

The 7-bit encodings of ISO/IEC 2022 for Japanese and Korean hold a character set in each of the
slots G0 to G2, put there by an escape sequence; bytes from `21` to `7E` are read in G0, or in G1
while shifted out, and a line feed ends a shift. The variants differ in the sets they allow and in
`SO` and `SI`, `ESC N` and the prefix `ESC & @`; an escape sequence not theirs passes through as
text. A double-byte set reads the pair `c d` as the pair `c+80 d+80` of its EUC table.
-/

namespace ByteAsm

namespace Encoding

/-- The editions of JIS X 0213. -/
inductive JisEdition where
  | year2000
  | year2004

/-- A character set that an escape sequence can designate. -/
inductive Charset where
  /-- ASCII. -/
  | ascii
  /-- JIS X 0201 Roman, ASCII with a yen sign and an overline. -/
  | jisRoman
  /-- JIS X 0201 katakana, in half width. -/
  | jisKatakana
  /-- JIS X 0208, the common kanji. -/
  | jisx0208
  /-- JIS X 0212, the supplementary kanji. -/
  | jisx0212
  /-- GB 2312, simplified Chinese. -/
  | gb2312
  /-- KS X 1001, Korean. -/
  | ksx1001
  /-- The first plane of JIS X 0213 in an edition. -/
  | jisx0213First (edition : JisEdition)
  /-- The second plane of JIS X 0213. -/
  | jisx0213Second
  /-- The upper half of Latin-1, read only after a single shift. -/
  | latinUpper
  /-- The upper half of ISO 8859-7, Greek, read only after a single shift. -/
  | greekUpper

/-- A variant of ISO 2022. -/
structure Iso2022 where
  name : String
  /-- The sets it allows besides ASCII, by the mark that names them: the final byte of the
  escape sequence, plus `80` for a double-byte set. -/
  sets : List (Nat × Charset)
  /-- Whether `SO` and `SI` shift into and out of G1. -/
  lockingShifts : Bool := false
  /-- Whether `ESC N` reads one character in the set of G2. -/
  singleShift : Bool := false
  /-- Whether a designation may carry the prefix `ESC & @`. -/
  jisPrefix : Bool := true

/-- The state of reading: the marks of the sets in G0, G1 and G2, whether the text is shifted
out, and whether an escape sequence is passing through. -/
structure ShiftState where
  g0 : Nat := 0x42
  g1 : Nat := 0x42
  g2 : Nat := 0x42
  shifted : Bool := false
  passing : Bool := false

/-- The mark of ASCII. -/
def asciiMark : Nat := 0x42

/-- Whether `b` ends an escape sequence. -/
def isFinalByte (b : Nat) : Bool := (0x41 ≤ b ∧ b ≤ 0x5A) ∨ b = 0x40

/-- Whether `b` can follow `ESC` in a designation. -/
def isIntermediate (b : Nat) : Bool :=
  b = 0x28 ∨ b = 0x29 ∨ b = 0x24 ∨ b = 0x2E ∨ b = 0x26

/-- The rows of the second plane of JIS X 0213. -/
def secondPlaneRows : List Nat :=
  [0x21, 0x23, 0x24, 0x25, 0x28, 0x2C, 0x2D, 0x2E, 0x2F] ++ (List.range 17).map (0x6E + ·)

/-- The characters of the pair `c d` read as the pair `c+80 d+80` of the code `code` after the
lead `lead`. -/
def eucView (code : PrefixCode) (lead : List Nat) (c d : Nat) : Option (List Char) :=
  if 0x21 ≤ c ∧ c ≤ 0x7E ∧ 0x21 ≤ d ∧ d ≤ 0x7E then code.charsAt (lead ++ [c + 0x80]) (d + 0x80)
  else none

namespace Charset

/-- The number of bytes of a character of the set. -/
def width : Charset → Nat
  | ascii | jisRoman | jisKatakana | latinUpper | greekUpper => 1
  | _ => 2

/-- The characters of the bytes `bs`, as many as the set's width, in the set. -/
def read (set : Charset) (bs : List Nat) : Option (List Char) :=
  match set, bs with
  | ascii, [c] => some [Char.ofNat c]
  | jisRoman, [c] =>
    some [if c = 0x5C then '¥' else if c = 0x7E then '‾' else Char.ofNat c]
  | jisKatakana, [c] => if 0x21 ≤ c ∧ c ≤ 0x5F then some [Char.ofNat (0xFF40 + c)] else none
  | jisx0208, [c, d] => eucView PrefixCode.eucJp [] c d
  | jisx0212, [c, d] => eucView PrefixCode.eucJp [0x8F] c d
  | gb2312, [c, d] => eucView PrefixCode.gb2312 [] c d
  | ksx1001, [c, d] =>
    -- the Hangul filler, which EUC-KR reads only as the start of a composed syllable
    if c = 0x24 ∧ d = 0x54 then some ['ㅤ'] else eucView PrefixCode.eucKr [] c d
  | jisx0213First edition, [c, d] =>
    if c = 0x22 ∧ d = 0x32 then some ['~']
    else
      match edition with
      | .year2000 => eucView PrefixCode.eucJisx0213 [] c d
      | .year2004 => eucView PrefixCode.eucJis2004 [] c d
  | jisx0213Second, [c, d] =>
    if secondPlaneRows.contains c then eucView PrefixCode.eucJis2004 [0x8F] c d else none
  | _, _ => none

end Charset

/-- The character of the byte `c` of the upper half of ISO 8859-7, given as `c` with its top bit
flipped. -/
def greekUpper? (c : Nat) : Option Nat :=
  if c < 0xA0 then some c
  else if c < 0xC0 ∧ (0x288F3BC9 >>> (c - 0xA0)) % 2 = 1 then some c
  else if 0xB4 ≤ c ∧ c ≤ 0xFE ∧ (0xD4 ≤ c ∨ (0xBFFFFD77 >>> (c - 0xB4)) % 2 = 1) then
    some (0x02D0 + c)
  else if c = 0xA1 then some 0x2018
  else if c = 0xA2 then some 0x2019
  else if c = 0xAF then some 0x2015
  else none

/-- How an escape sequence at the front of the input ends. -/
inductive EscapeEnd where
  /-- It ends after `length` bytes. -/
  | length (n : Nat)
  /-- No final byte comes within sixteen bytes. -/
  | unterminated
  /-- The input ends before its final byte. -/
  | short

/-- The state with the mark `mark` in the slot `slot`. -/
def ShiftState.designate (st : ShiftState) (slot mark : Nat) : ShiftState :=
  match slot with
  | 0 => { st with g0 := mark }
  | 1 => { st with g1 := mark }
  | _ => { st with g2 := mark }

namespace Iso2022

/-- Look for the final byte of the escape sequence `seq` from index `i` on, skipping the prefix
`& @` where the variant allows it. -/
def escapeEnd (code : Iso2022) (seq : List Nat) (i : Nat) : EscapeEnd :=
  if i < 16 then
    match seq[i]? with
    | none => .short
    | some b =>
      if isFinalByte b then .length (i + 1)
      else if code.jisPrefix ∧ b = 0x26 ∧ seq[i + 1]? = some 0x40 then escapeEnd code seq (i + 3)
      else escapeEnd code seq (i + 1)
  else .unterminated
termination_by 16 - i

/-- The slot and the mark that the escape sequence `seq` of `n` bytes designates, or the number
of bytes to blame. -/
def designation (code : Iso2022) (seq : List Nat) (n : Nat) : Except Nat (Nat × Nat) := do
  let byteAt (i : Nat) : Nat := seq[i]?.getD 0
  let (slot, mark) ← match n with
    | 3 =>
      if byteAt 1 = 0x24 then pure (0, byteAt 2 + 0x80)
      else if byteAt 1 = 0x28 then pure (0, byteAt 2)
      else if byteAt 1 = 0x29 then pure (1, byteAt 2)
      else if code.singleShift ∧ byteAt 1 = 0x2E then pure (2, byteAt 2)
      else throw 3
    | 4 =>
      if byteAt 1 ≠ 0x24 then throw 4
      else if byteAt 2 = 0x28 then pure (0, byteAt 3 + 0x80)
      else if byteAt 2 = 0x29 then pure (1, byteAt 3 + 0x80)
      else throw 4
    | 6 =>
      if code.jisPrefix ∧ byteAt 3 = 0x1B ∧ byteAt 4 = 0x24 ∧ byteAt 5 = 0x42 then pure (0, 0xC2)
      else throw 6
    | other => throw other
  if mark = asciiMark ∨ (code.sets.lookup mark).isSome then pure (slot, mark) else throw n

/-- Read the character after a single shift, the byte `c`, in the set of G2. -/
def singleShifted (st : ShiftState) (c : Nat) : Advance ShiftState :=
  if st.g2 = 0x41 then
    if c < 0x80 then .emit [Char.ofNat (c + 0x80)] 3 st else .illegal 3
  else if st.g2 = 0x46 then
    match greekUpper? (c ^^^ 0x80) with
    | some u => .emit [Char.ofNat u] 3 st
    | none => .illegal 3
  else if st.g2 = asciiMark then
    if c < 0x80 then .emit [Char.ofNat c] 3 st else .illegal 3
  else .fault

/-- One step of reading the variant `code`. -/
def step (code : Iso2022) (st : ShiftState) (input : List Nat) : Advance ShiftState :=
  match input with
  | [] => .incomplete
  | c :: rest =>
    if st.passing then .emit [Char.ofNat c] 1 { st with passing := !isFinalByte c }
    else if c = 0x1B then
      match rest with
      | [] => .incomplete
      | c2 :: after =>
        if isIntermediate c2 then
          match code.escapeEnd input 1 with
          | .short => .incomplete
          | .unterminated => .illegal 1
          | .length n =>
            match code.designation input n with
            | .error k => .illegal k
            | .ok (slot, mark) => .emit [] n (st.designate slot mark)
        else if code.singleShift ∧ c2 = 0x4E then
          match after with
          | [] => .incomplete
          | c3 :: _ => singleShifted st c3
        else .emit ['\x1b'] 1 { st with passing := true }
    else if code.lockingShifts ∧ c = 0x0F then .emit [] 1 { st with shifted := false }
    else if code.lockingShifts ∧ c = 0x0E then .emit [] 1 { st with shifted := true }
    else if c = 0x0A then .emit ['\n'] 1 { st with shifted := false }
    else if c < 0x20 then .emit [Char.ofNat c] 1 st
    else if c ≥ 0x80 then .illegal 1
    else
      let mark := if st.shifted then st.g1 else st.g0
      if mark = asciiMark then .emit [Char.ofNat c] 1 st
      else
        match code.sets.lookup mark with
        | none => .fault
        | some set =>
          if input.length < set.width then .incomplete
          else
            match set.read (input.take set.width) with
            | some cs => .emit cs set.width st
            | none => .illegal set.width

/-- Decode `bytes` in the variant `code`. -/
def decode (code : Iso2022) (bytes : List Nat) : Except DecodeError (List Char) :=
  runSteps code.name code.step bytes 0 bytes.length {}

/-- ISO-2022-KR, which shifts into KS X 1001. -/
def kr : Iso2022 :=
  { name := "iso2022_kr", sets := [(0xC3, .ksx1001)], lockingShifts := true, jisPrefix := false }

/-- ISO-2022-JP. -/
def jp : Iso2022 :=
  { name := "iso2022_jp", sets := [(0xC2, .jisx0208), (0x4A, .jisRoman), (0xC0, .jisx0208)] }

/-- ISO-2022-JP-1, which adds JIS X 0212. -/
def jp1 : Iso2022 :=
  { name := "iso2022_jp_1",
    sets := [(0xC2, .jisx0208), (0xC4, .jisx0212), (0x4A, .jisRoman), (0xC0, .jisx0208)] }

/-- ISO-2022-JP-2, which adds Korean, simplified Chinese, and Latin-1 and Greek by single
shift. -/
def jp2 : Iso2022 :=
  { name := "iso2022_jp_2",
    sets := [(0xC2, .jisx0208), (0xC4, .jisx0212), (0xC3, .ksx1001), (0xC1, .gb2312),
      (0x4A, .jisRoman), (0xC0, .jisx0208), (0x41, .latinUpper), (0x46, .greekUpper)],
    singleShift := true }

/-- ISO-2022-JP-2004, on JIS X 0213 of 2004. -/
def jp2004 : Iso2022 :=
  { name := "iso2022_jp_2004",
    sets := [(0xD1, .jisx0213First .year2004), (0xC2, .jisx0208), (0xD0, .jisx0213Second)] }

/-- ISO-2022-JP-3, on JIS X 0213 of 2000. -/
def jp3 : Iso2022 :=
  { name := "iso2022_jp_3",
    sets := [(0xCF, .jisx0213First .year2000), (0xC2, .jisx0208), (0xD0, .jisx0213Second)] }

/-- ISO-2022-JP with JIS X 0212 and half-width katakana. -/
def jpExt : Iso2022 :=
  { name := "iso2022_jp_ext",
    sets := [(0xC2, .jisx0208), (0xC4, .jisx0212), (0x4A, .jisRoman), (0x49, .jisKatakana),
      (0xC0, .jisx0208)] }

end Iso2022

end Encoding

end ByteAsm
