import ByteAsm.Encoding.Name
import ByteAsm.Encoding.Unicode
import ByteAsm.Encoding.CodePage.Dos
import ByteAsm.Encoding.CodePage.Windows
import ByteAsm.Encoding.CodePage.Iso8859
import ByteAsm.Encoding.CodePage.Mac
import ByteAsm.Encoding.CodePage.Ebcdic
import ByteAsm.Encoding.CodePage.Regional
import ByteAsm.Encoding.PrefixCode.ShiftJis
import ByteAsm.Encoding.PrefixCode.EucJp
import ByteAsm.Encoding.PrefixCode.Jis2004
import ByteAsm.Encoding.PrefixCode.Gb
import ByteAsm.Encoding.PrefixCode.Big5
import ByteAsm.Encoding.PrefixCode.Korean
import ByteAsm.Encoding.Utf7
import ByteAsm.Encoding.Escape
import ByteAsm.Encoding.Punycode
import ByteAsm.Encoding.Idna
import ByteAsm.Encoding.Iso2022
import ByteAsm.Encoding.Hz
import ByteAsm.Text.CharName

/-!
# Text encodings

Source files are bytes read as text in a named encoding. The encodings are those of Unicode
(UTF-8, also after a byte order mark, UTF-16 and UTF-32 with a byte order mark or in a fixed byte
order, and UTF-7), ASCII and Latin-1, the code pages of one byte a character, the prefix codes of
East Asian scripts and their 7-bit forms that switch sets by escapes, text with backslash escapes,
Punycode, and internationalized domain names. One name stands for an encoding that refuses every
text. A name may also belong to a codec that turns bytes into other bytes, such as base64 or
zlib, which cannot read text.

Decoding stops at the first bytes that are not valid, and says which bytes and why.
-/

namespace ByteAsm

/-- An encoding of text in bytes. -/
inductive Encoding where
  | utf8
  | utf8Sig
  | utf16
  | utf16le
  | utf16be
  | utf32
  | utf32le
  | utf32be
  | ascii
  | latin1
  | codePage (page : CodePage)
  | prefixCode (code : PrefixCode)
  | utf7
  | escaped
  | rawEscaped
  | punycode
  | idna
  | iso2022 (code : Encoding.Iso2022)
  | hz
  | undefined

/-- What a codec turns bytes into: text in an encoding, or other bytes. -/
inductive Codec where
  | text (e : Encoding)
  | bytes

namespace Encoding

/-- The codecs by their own names. -/
def codecs : List (String × Codec) := [
  ("utf_8", .text .utf8),
  ("utf_8_sig", .text .utf8Sig),
  ("utf_16", .text .utf16),
  ("utf_16_le", .text .utf16le),
  ("utf_16_be", .text .utf16be),
  ("utf_32", .text .utf32),
  ("utf_32_le", .text .utf32le),
  ("utf_32_be", .text .utf32be),
  ("ascii", .text .ascii),
  ("latin_1", .text .latin1),
  ("iso8859_1", .text .latin1),
  ("charmap", .text .latin1),
  ("utf_7", .text .utf7),
  ("unicode_escape", .text .escaped),
  ("raw_unicode_escape", .text .rawEscaped),
  ("punycode", .text .punycode),
  ("idna", .text .idna),
  ("iso2022_jp", .text (.iso2022 Iso2022.jp)),
  ("iso2022_jp_1", .text (.iso2022 Iso2022.jp1)),
  ("iso2022_jp_2", .text (.iso2022 Iso2022.jp2)),
  ("iso2022_jp_2004", .text (.iso2022 Iso2022.jp2004)),
  ("iso2022_jp_3", .text (.iso2022 Iso2022.jp3)),
  ("iso2022_jp_ext", .text (.iso2022 Iso2022.jpExt)),
  ("iso2022_kr", .text (.iso2022 Iso2022.kr)),
  ("hz", .text .hz),
  ("undefined", .text .undefined),
  ("cp437", .text (.codePage CodePage.cp437)),
  ("cp720", .text (.codePage CodePage.cp720)),
  ("cp737", .text (.codePage CodePage.cp737)),
  ("cp775", .text (.codePage CodePage.cp775)),
  ("cp850", .text (.codePage CodePage.cp850)),
  ("cp852", .text (.codePage CodePage.cp852)),
  ("cp855", .text (.codePage CodePage.cp855)),
  ("cp856", .text (.codePage CodePage.cp856)),
  ("cp857", .text (.codePage CodePage.cp857)),
  ("cp858", .text (.codePage CodePage.cp858)),
  ("cp860", .text (.codePage CodePage.cp860)),
  ("cp861", .text (.codePage CodePage.cp861)),
  ("cp862", .text (.codePage CodePage.cp862)),
  ("cp863", .text (.codePage CodePage.cp863)),
  ("cp864", .text (.codePage CodePage.cp864)),
  ("cp865", .text (.codePage CodePage.cp865)),
  ("cp866", .text (.codePage CodePage.cp866)),
  ("cp869", .text (.codePage CodePage.cp869)),
  ("cp1125", .text (.codePage CodePage.cp1125)),
  ("cp874", .text (.codePage CodePage.cp874)),
  ("cp1250", .text (.codePage CodePage.cp1250)),
  ("cp1251", .text (.codePage CodePage.cp1251)),
  ("cp1252", .text (.codePage CodePage.cp1252)),
  ("cp1253", .text (.codePage CodePage.cp1253)),
  ("cp1254", .text (.codePage CodePage.cp1254)),
  ("cp1255", .text (.codePage CodePage.cp1255)),
  ("cp1256", .text (.codePage CodePage.cp1256)),
  ("cp1257", .text (.codePage CodePage.cp1257)),
  ("cp1258", .text (.codePage CodePage.cp1258)),
  ("iso8859_2", .text (.codePage CodePage.iso8859_2)),
  ("iso8859_3", .text (.codePage CodePage.iso8859_3)),
  ("iso8859_4", .text (.codePage CodePage.iso8859_4)),
  ("iso8859_5", .text (.codePage CodePage.iso8859_5)),
  ("iso8859_6", .text (.codePage CodePage.iso8859_6)),
  ("iso8859_7", .text (.codePage CodePage.iso8859_7)),
  ("iso8859_8", .text (.codePage CodePage.iso8859_8)),
  ("iso8859_9", .text (.codePage CodePage.iso8859_9)),
  ("iso8859_10", .text (.codePage CodePage.iso8859_10)),
  ("iso8859_11", .text (.codePage CodePage.iso8859_11)),
  ("iso8859_13", .text (.codePage CodePage.iso8859_13)),
  ("iso8859_14", .text (.codePage CodePage.iso8859_14)),
  ("iso8859_15", .text (.codePage CodePage.iso8859_15)),
  ("iso8859_16", .text (.codePage CodePage.iso8859_16)),
  ("mac_arabic", .text (.codePage CodePage.macArabic)),
  ("mac_croatian", .text (.codePage CodePage.macCroatian)),
  ("mac_cyrillic", .text (.codePage CodePage.macCyrillic)),
  ("mac_farsi", .text (.codePage CodePage.macFarsi)),
  ("mac_greek", .text (.codePage CodePage.macGreek)),
  ("mac_iceland", .text (.codePage CodePage.macIceland)),
  ("mac_latin2", .text (.codePage CodePage.macLatin2)),
  ("mac_roman", .text (.codePage CodePage.macRoman)),
  ("mac_romanian", .text (.codePage CodePage.macRomanian)),
  ("mac_turkish", .text (.codePage CodePage.macTurkish)),
  ("cp037", .text (.codePage CodePage.cp037)),
  ("cp273", .text (.codePage CodePage.cp273)),
  ("cp424", .text (.codePage CodePage.cp424)),
  ("cp500", .text (.codePage CodePage.cp500)),
  ("cp875", .text (.codePage CodePage.cp875)),
  ("cp1026", .text (.codePage CodePage.cp1026)),
  ("cp1140", .text (.codePage CodePage.cp1140)),
  ("cp1006", .text (.codePage CodePage.cp1006)),
  ("hp_roman8", .text (.codePage CodePage.hpRoman8)),
  ("koi8_r", .text (.codePage CodePage.koi8R)),
  ("koi8_t", .text (.codePage CodePage.koi8T)),
  ("koi8_u", .text (.codePage CodePage.koi8U)),
  ("kz1048", .text (.codePage CodePage.kz1048)),
  ("palmos", .text (.codePage CodePage.palmos)),
  ("ptcp154", .text (.codePage CodePage.ptcp154)),
  ("tis_620", .text (.codePage CodePage.tis620)),
  ("shift_jis", .text (.prefixCode PrefixCode.shiftJis)),
  ("cp932", .text (.prefixCode PrefixCode.cp932)),
  ("euc_jp", .text (.prefixCode PrefixCode.eucJp)),
  ("shift_jis_2004", .text (.prefixCode PrefixCode.shiftJis2004)),
  ("shift_jisx0213", .text (.prefixCode PrefixCode.shiftJisx0213)),
  ("euc_jis_2004", .text (.prefixCode PrefixCode.eucJis2004)),
  ("euc_jisx0213", .text (.prefixCode PrefixCode.eucJisx0213)),
  ("gb2312", .text (.prefixCode PrefixCode.gb2312)),
  ("gbk", .text (.prefixCode PrefixCode.gbk)),
  ("gb18030", .text (.prefixCode PrefixCode.gb18030)),
  ("big5", .text (.prefixCode PrefixCode.big5)),
  ("cp950", .text (.prefixCode PrefixCode.cp950)),
  ("big5hkscs", .text (.prefixCode PrefixCode.big5hkscs)),
  ("euc_kr", .text (.prefixCode PrefixCode.eucKr)),
  ("cp949", .text (.prefixCode PrefixCode.cp949)),
  ("johab", .text (.prefixCode PrefixCode.johab)),
  ("base64_codec", .bytes),
  ("bz2_codec", .bytes),
  ("hex_codec", .bytes),
  ("quopri_codec", .bytes),
  ("rot_13", .bytes),
  ("uu_codec", .bytes),
  ("zlib_codec", .bytes)]

/-- The encoding named `name`. -/
def lookup (name : String) : Except DecodeError Encoding :=
  match (ownNames name).findSome? (fun own => codecs.lookup own) with
  | some (.text e) => .ok e
  | some .bytes => .error (.notText name)
  | none => .error (.unknownEncoding name)

/-- Decode bytes one by one with `char?`, which names the character of a byte, if it has one;
`codec` and `reason` describe a byte without one. -/
def decodeBytes (codec reason : String) (char? : Nat → Option Nat) (bytes : List Nat) :
    Except DecodeError (List Char) :=
  (bytes.zipIdx).mapM fun (b, i) =>
    match char? b with
    | some c => .ok (Char.ofNat c)
    | none => .error (.invalid codec b i (i + 1) reason)

/-- Decode `bytes` in the encoding `e`. -/
def decode (e : Encoding) (raw : List UInt8) : Except DecodeError String :=
  let bytes := raw.map UInt8.toNat
  let total := bytes.length
  let chars : Except DecodeError (List Char) := match e with
    | utf8 => decodeUtf8 bytes 0
    | utf8Sig =>
      -- a text too short to tell whether it starts with the mark, but that could, reads as empty
      if total < 3 ∧ bytes.isPrefixOf [0xEF, 0xBB, 0xBF] then .ok []
      else if bytes.take 3 = [0xEF, 0xBB, 0xBF] then decodeUtf8 (bytes.drop 3) 0
      else decodeUtf8 bytes 0
    | ascii => decodeBytes "ascii" "ordinal not in range(128)" (fun b => if b < 0x80 then some b else none) bytes
    | latin1 => .ok (bytes.map Char.ofNat)
    | codePage page => page.decode bytes
    | prefixCode code => code.decode bytes
    | utf16 =>
      match bytes with
      | 0xFF :: 0xFE :: rest => decodeUtf16 true rest 2 total
      | 0xFE :: 0xFF :: rest => decodeUtf16 false rest 2 total
      | _ => match decodeUtf16 true bytes 0 total with
        | .error err => .error err
        | .ok cs => if 2 ≤ total then .error (.noByteOrderMark 16) else .ok cs
    | utf16le => decodeUtf16 true bytes 0 total
    | utf16be => decodeUtf16 false bytes 0 total
    | utf32 =>
      match bytes with
      | 0xFF :: 0xFE :: 0 :: 0 :: rest => decodeUtf32 true rest 4
      | 0 :: 0 :: 0xFE :: 0xFF :: rest => decodeUtf32 false rest 4
      | _ => match decodeUtf32 true bytes 0 with
        | .error err => .error err
        | .ok cs => if 4 ≤ total then .error (.noByteOrderMark 32) else .ok cs
    | utf32le => decodeUtf32 true bytes 0
    | utf32be => decodeUtf32 false bytes 0
    | utf7 => decodeUtf7 bytes 0 total none
    | escaped =>
      decodeEscapes "unicodeescape" false (fun name => Text.codeOfName? (name.map Char.ofNat)) bytes 0
    | rawEscaped => decodeEscapes "rawunicodeescape" true (fun _ => none) bytes 0
    | punycode => Punycode.decode bytes
    | idna => Idna.decode bytes
    | iso2022 code => code.decode bytes
    | hz => Hz.decode bytes
    | undefined => .error (.refused "undefined encoding")
  chars.map String.ofList

end Encoding

/-- A text with its line ends made uniform: a carriage return, alone or before a line feed,
becomes a line feed. -/
def uniformNewlines : List Char → List Char
  | '\r' :: '\n' :: rest => '\n' :: uniformNewlines rest
  | '\r' :: rest => '\n' :: uniformNewlines rest
  | c :: rest => c :: uniformNewlines rest
  | [] => []

/-- The text `s` as a file is read as text: with its line ends made uniform. -/
def withUniformNewlines (s : String) : String :=
  String.ofList (uniformNewlines s.toList)

end ByteAsm
