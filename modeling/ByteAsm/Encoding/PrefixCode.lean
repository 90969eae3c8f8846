import ByteAsm.Encoding.Error

/-!
# Prefix codes

The encodings of East Asian scripts write a character in one to four bytes, where the bytes read
so far decide whether more follow. Such an encoding is a list of rows, one for each lead that
needs another byte, telling for every next byte whether the sequence stands for a character, goes
on, or is illegal; the noncharacters `U+FDD0` to `U+FDD3` mark an illegal sequence of one or two
bytes, one that goes on, and one that stands for several characters.

GB 18030 and EUC-KR have sequences too long for rows, each decided by a rule of its own: four
bytes by arithmetic on ranges, and a Hangul syllable composed from its letters in eight bytes.
-/

namespace ByteAsm

/-- One row of a prefix code: the entries of the bytes from `first` on after the sequence
`lead`. -/
structure PrefixRow where
  lead : List Nat
  first : Nat
  entries : String

/-- A rule for sequences longer than the rows of a prefix code describe. -/
inductive LongRule where
  /-- No sequence is longer than the rows. -/
  | plain
  /-- The four-byte sequences of GB 18030. -/
  | gb18030
  /-- The eight-byte Hangul syllables of EUC-KR. -/
  | hangulMakeUp

/-- A prefix code: the name that errors give, its rows, the sequences that stand for several
characters, and its rule for longer sequences. -/
structure PrefixCode where
  name : String
  rows : List PrefixRow
  several : List (List Nat × List Char) := []
  longRule : LongRule := .plain

/-- What a byte does to the sequence read so far. -/
inductive PrefixStep where
  | chars (cs : List Char)
  | more
  | illegal (length : Nat)

/-- What reading at the front of the input finds: characters and the input after them, an
illegal sequence of the given length, or the end of the input in the middle of a sequence. -/
inductive Reading where
  | chars (cs : List Char) (rest : List Nat)
  | illegal (length : Nat)
  | incomplete

namespace PrefixCode

/-- The entry mark of an illegal sequence of one byte. -/
def markIllegal : Char := '\uFDD0'

/-- The entry mark of an illegal sequence of two bytes. -/
def markIllegalPair : Char := '\uFDD1'

/-- The entry mark of a sequence that goes on. -/
def markMore : Char := '\uFDD2'

/-- The entry mark of a sequence that stands for several characters. -/
def markSeveral : Char := '\uFDD3'

/-- The code `base` with the rows `rows` and the sequences `several` in place of its own, under
the name `name`. -/
def replacing (base : PrefixCode) (name : String) (rows : List PrefixRow)
    (several : List (List Nat × List Char) := []) : PrefixCode :=
  { base with name, rows := rows ++ base.rows, several := several ++ base.several }

/-- The row of the sequence `lead`. -/
def row? (code : PrefixCode) (lead : List Nat) : Option PrefixRow :=
  code.rows.find? (·.lead == lead)

/-- What the byte `b` does after the sequence `lead`, which has the row `row`. -/
def step (code : PrefixCode) (row : PrefixRow) (b : Nat) : PrefixStep :=
  if b < row.first then .illegal 1
  else
    match row.entries.toList[b - row.first]? with
    | none => .illegal 1
    | some c =>
      if c = markIllegal then .illegal 1
      else if c = markIllegalPair then .illegal 2
      else if c = markMore then .more
      else if c = markSeveral then .chars ((code.several.lookup (row.lead ++ [b])).getD [])
      else .chars [c]

/-- The characters that the sequence `lead` followed by the byte `b` stands for, if it stands for
characters. -/
def charsAt (code : PrefixCode) (lead : List Nat) (b : Nat) : Option (List Char) :=
  match code.row? lead with
  | some row =>
    match code.step row b with
    | .chars cs => some cs
    | _ => none
  | none => none

end PrefixCode

namespace LongRule

/-- The first four-byte sequence of GB 18030 of each range of code points below `10000` that
follows on without a gap, with the first code point of the range; the sequences are counted from
`81 30 81 30`. -/
def gbRanges : List (Nat × Nat) := [
  (0, 0x80), (36, 0xA5), (38, 0xA9), (45, 0xB2), (50, 0xB8), (81, 0xD8), (89, 0xE2), (95, 0xEB),
  (96, 0xEE), (100, 0xF4), (103, 0xF8), (104, 0xFB), (105, 0xFD), (109, 0x102), (126, 0x114),
  (133, 0x11C), (148, 0x12C), (172, 0x145), (175, 0x149), (179, 0x14E), (208, 0x16C), (306,
  0x1CF), (307, 0x1D1), (308, 0x1D3), (309, 0x1D5), (310, 0x1D7), (311, 0x1D9), (312, 0x1DB),
  (313, 0x1DD), (341, 0x1FA), (428, 0x252), (443, 0x262), (544, 0x2C8), (545, 0x2CC), (558,
  0x2DA), (741, 0x3A2), (742, 0x3AA), (749, 0x3C2), (750, 0x3CA), (805, 0x402), (819, 0x450),
  (820, 0x452), (7922, 0x2011), (7924, 0x2017), (7925, 0x201A), (7927, 0x201E), (7934, 0x2027),
  (7943, 0x2031), (7944, 0x2034), (7945, 0x2036), (7950, 0x203C), (8062, 0x20AD), (8148,
  0x2104), (8149, 0x2106), (8152, 0x210A), (8164, 0x2117), (8174, 0x2122), (8236, 0x216C),
  (8240, 0x217A), (8262, 0x2194), (8264, 0x219A), (8374, 0x2209), (8380, 0x2210), (8381,
  0x2212), (8384, 0x2216), (8388, 0x221B), (8390, 0x2221), (8392, 0x2224), (8393, 0x2226),
  (8394, 0x222C), (8396, 0x222F), (8401, 0x2238), (8406, 0x223E), (8416, 0x2249), (8419,
  0x224D), (8424, 0x2253), (8437, 0x2262), (8439, 0x2268), (8445, 0x2270), (8482, 0x2296),
  (8485, 0x229A), (8496, 0x22A6), (8521, 0x22C0), (8603, 0x2313), (8936, 0x246A), (8946,
  0x249C), (9046, 0x254C), (9050, 0x2574), (9063, 0x2590), (9066, 0x2596), (9076, 0x25A2),
  (9092, 0x25B4), (9100, 0x25BE), (9108, 0x25C8), (9111, 0x25CC), (9113, 0x25D0), (9131,
  0x25E6), (9162, 0x2607), (9164, 0x260A), (9218, 0x2641), (9219, 0x2643), (11329, 0x2E82),
  (11331, 0x2E85), (11334, 0x2E89), (11336, 0x2E8D), (11346, 0x2E98), (11361, 0x2EA8), (11363,
  0x2EAB), (11366, 0x2EAF), (11370, 0x2EB4), (11372, 0x2EB8), (11375, 0x2EBC), (11389, 0x2ECB),
  (11682, 0x2FFC), (11686, 0x3004), (11687, 0x3018), (11692, 0x301F), (11694, 0x302A), (11714,
  0x303F), (11716, 0x3094), (11723, 0x309F), (11725, 0x30F7), (11730, 0x30FF), (11736, 0x312A),
  (11982, 0x322A), (11989, 0x3232), (12102, 0x32A4), (12336, 0x3390), (12348, 0x339F), (12350,
  0x33A2), (12384, 0x33C5), (12393, 0x33CF), (12395, 0x33D3), (12397, 0x33D6), (12510, 0x3448),
  (12553, 0x3474), (12851, 0x359F), (12962, 0x360F), (12973, 0x361B), (13738, 0x3919), (13823,
  0x396F), (13919, 0x39D1), (13933, 0x39E0), (14080, 0x3A74), (14298, 0x3B4F), (14585, 0x3C6F),
  (14698, 0x3CE1), (15583, 0x4057), (15847, 0x4160), (16318, 0x4338), (16434, 0x43AD), (16438,
  0x43B2), (16481, 0x43DE), (16729, 0x44D7), (17102, 0x464D), (17122, 0x4662), (17315, 0x4724),
  (17320, 0x472A), (17402, 0x477D), (17418, 0x478E), (17859, 0x4948), (17909, 0x497B), (17911,
  0x497E), (17915, 0x4984), (17916, 0x4987), (17936, 0x499C), (17939, 0x49A0), (17961, 0x49B8),
  (18664, 0x4C78), (18703, 0x4CA4), (18814, 0x4D1A), (18962, 0x4DAF), (19043, 0x9FA6), (33469,
  0xE76C), (33470, 0xE7C8), (33471, 0xE7E7), (33484, 0xE815), (33485, 0xE819), (33490, 0xE81F),
  (33497, 0xE827), (33501, 0xE82D), (33505, 0xE833), (33513, 0xE83C), (33520, 0xE844), (33536,
  0xE856), (33550, 0xE865), (37845, 0xF92D), (37921, 0xF97A), (37948, 0xF996), (38029, 0xF9E8),
  (38038, 0xF9F2), (38064, 0xFA10), (38065, 0xFA12), (38066, 0xFA15), (38069, 0xFA19), (38075,
  0xFA22), (38076, 0xFA25), (38078, 0xFA2A), (39108, 0xFE32), (39109, 0xFE45), (39113, 0xFE53),
  (39114, 0xFE58), (39115, 0xFE67), (39116, 0xFE6C), (39265, 0xFF5F), (39394, 0xFFE6)]

/-- The code point of the GB 18030 four-byte sequence numbered `n` below `10000`. -/
def gbCodePoint (n : Nat) : Nat :=
  match (gbRanges.filter (·.1 ≤ n)).getLast? with
  | some (start, first) => first + (n - start)
  | none => n

/-- The character of the GB 18030 four-byte sequence `b1 b2 b3 b4`, whose second byte is a
digit: below `10000` by the ranges, from `90 30 81 30` on in order from `10000`. -/
def gbChar (b1 b2 b3 b4 : Nat) : Option Char :=
  if b1 < 0x81 ∨ b1 > 0xFE ∨ b3 < 0x81 ∨ b3 > 0xFE ∨ b4 < 0x30 ∨ b4 > 0x39 then none
  else
    let n := (((b1 - 0x81) * 10 + (b2 - 0x30)) * 126 + (b3 - 0x81)) * 10 + (b4 - 0x30)
    if b1 < 0x85 then
      if n < 39420 then some (Char.ofNat (gbCodePoint n)) else none
    else if b1 ≥ 0x90 ∧ 0x10000 + n - 189000 ≤ 0x10FFFF then some (Char.ofNat (0x10000 + n - 189000))
    else none

/-- Read a GB 18030 four-byte sequence that starts with `lead` and goes on with `input`. -/
def readGb (lead input : List Nat) : Reading :=
  match lead, input with
  | [b1, b2], b3 :: b4 :: rest =>
    match gbChar b1 b2 b3 b4 with
    | some c => .chars [c] rest
    | none => .illegal 1
  | [_, _], _ => .incomplete
  | _, _ => .illegal 1

/-- The initial consonant of a Hangul syllable named by the byte `A1 + i` in KS X 1001. -/
def initialOf (i : Nat) : Option Nat :=
  [some 0, some 1, none, some 2, none, none, some 3, some 4, some 5, none, none, none, none, none,
   none, none, some 6, some 7, some 8, none, some 9, some 10, some 11, some 12, some 13, some 14,
   some 15, some 16, some 17, some 18].getD i none

/-- The final consonant of a Hangul syllable named by the byte `A1 + i` in KS X 1001. -/
def finalOf (i : Nat) : Option Nat :=
  [some 1, some 2, some 3, some 4, some 5, some 6, some 7, none, some 8, some 9, some 10, some 11,
   some 12, some 13, some 14, some 15, some 16, some 17, none, some 18, some 19, some 20, some 21,
   some 22, none, some 23, some 24, some 25, some 26, some 27].getD i none

/-- The Hangul syllable spelled by the pairs `a1 c1`, `a2 c2` and `a3 c3` after the filler
`A4 D4`: each pair starts with `A4`, and names the initial consonant, the vowel and the final
consonant (the filler for none). -/
def hangulChar (a1 c1 a2 c2 a3 c3 : Nat) : Option Char :=
  if a1 ≠ 0xA4 ∨ a2 ≠ 0xA4 ∨ a3 ≠ 0xA4 then none
  else
    let initial := if 0xA1 ≤ c1 ∧ c1 ≤ 0xBE then initialOf (c1 - 0xA1) else none
    let vowel := if 0xBF ≤ c2 ∧ c2 ≤ 0xD3 then some (c2 - 0xBF) else none
    let final := if c3 = 0xD4 then some 0
      else if 0xA1 ≤ c3 ∧ c3 ≤ 0xBE then finalOf (c3 - 0xA1) else none
    match initial, vowel, final with
    | some i, some v, some f => some (Char.ofNat (0xAC00 + i * 588 + v * 28 + f))
    | _, _, _ => none

/-- Read a Hangul syllable spelled out by its letters after the filler `A4 D4`. -/
def readMakeUp (input : List Nat) : Reading :=
  match input with
  | a1 :: c1 :: a2 :: c2 :: a3 :: c3 :: rest =>
    match hangulChar a1 c1 a2 c2 a3 c3 with
    | some c => .chars [c] rest
    | none => .illegal 1
  | _ => .incomplete

/-- Read a sequence that starts with `lead`, which has no row, and goes on with `input`. -/
def read (rule : LongRule) (lead input : List Nat) : Reading :=
  match rule with
  | .gb18030 => readGb lead input
  | .hangulMakeUp => if lead = [0xA4, 0xD4] then readMakeUp input
    else if input.isEmpty then .incomplete else .illegal 1
  | .plain => if input.isEmpty then .incomplete else .illegal 1

theorem readGb_rest {lead input rest : List Nat} {cs : List Char}
    (h : readGb lead input = .chars cs rest) : rest.length < input.length := by
  unfold readGb at h
  split at h
  · split at h
    · cases h; simp only [List.length_cons]; omega
    · cases h
  · cases h
  · cases h

theorem readMakeUp_rest {input rest : List Nat} {cs : List Char}
    (h : readMakeUp input = .chars cs rest) : rest.length < input.length := by
  unfold readMakeUp at h
  split at h
  · split at h
    · cases h; simp only [List.length_cons]; omega
    · cases h
  · cases h

/-- A long sequence that stands for characters leaves less of the input. -/
theorem read_rest {rule : LongRule} {lead input rest : List Nat} {cs : List Char}
    (h : rule.read lead input = .chars cs rest) : rest.length < input.length := by
  unfold read at h
  split at h
  · exact readGb_rest h
  · split at h
    · exact readMakeUp_rest h
    · split at h <;> cases h
  · split at h <;> cases h

end LongRule

namespace PrefixCode

/-- Read the sequence that starts with `lead` and goes on with `input`. -/
def read (code : PrefixCode) (lead : List Nat) (input : List Nat) : Reading :=
  match code.row? lead with
  | none => code.longRule.read lead input
  | some row =>
    match input with
    | [] => .incomplete
    | b :: rest =>
      match code.step row b with
      | .chars cs => .chars cs rest
      | .illegal n => .illegal n
      | .more => code.read (lead ++ [b]) rest
termination_by input.length

/-- Reading characters leaves less of the input. -/
theorem read_rest {code : PrefixCode} {lead input rest : List Nat} {cs : List Char}
    (h : code.read lead input = .chars cs rest) : rest.length < input.length := by
  fun_induction read code lead input with
  | case1 lead input _ => exact LongRule.read_rest h
  | case2 => cases h
  | case3 lead row b more _ cs' _ =>
    cases h
    simp
  | case4 => cases h
  | case5 lead row b more _ _ ih =>
    have := ih h
    simp only [List.length_cons]
    omega

/-- Decode `input`, the last bytes of a text of `total` bytes; a failure is placed by how many
bytes are left. -/
def decodeFrom (code : PrefixCode) (input : List Nat) (total : Nat) :
    Except DecodeError (List Char) :=
  match input with
  | [] => .ok []
  | b :: more =>
    match h : code.read [] (b :: more) with
    | .chars cs rest =>
      have := read_rest h
      (decodeFrom code rest total).map (cs ++ ·)
    | .illegal n =>
      let pos := total - (more.length + 1)
      .error (.invalid code.name b pos (pos + n) "illegal multibyte sequence")
    | .incomplete =>
      .error (.invalid code.name b (total - (more.length + 1)) total "incomplete multibyte sequence")
termination_by input.length
decreasing_by simp only [List.length_cons] at *; omega

/-- Decode `bytes` with the prefix code `code`. -/
def decode (code : PrefixCode) (bytes : List Nat) : Except DecodeError (List Char) :=
  code.decodeFrom bytes bytes.length

end PrefixCode

end ByteAsm
