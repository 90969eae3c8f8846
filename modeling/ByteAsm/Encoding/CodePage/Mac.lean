import ByteAsm.Encoding.CodePage

/-!
# Code pages of the Macintosh

The character sets of the classic Macintosh for Arabic, Croatian, Cyrillic, Farsi, Greek,
Icelandic, Central European, Roman, Romanian and Turkish text.

Each table lists the characters of the bytes `00` to `FF` in rows of sixteen, the first eight
rows being ASCII where the lower half is.
-/

namespace ByteAsm

namespace CodePage

/-- The characters of MAC-ARABIC. -/
def macArabic : CodePage := ⟨
  asciiHalf ++
  "Ä\u00A0ÇÉÑÖÜáàâäں«çéè" ++
  "êëí…îïñó»ôö÷úùûü" ++
  " !\"#$٪&\x27()*+،-./" ++
  "٠١٢٣٤٥٦٧٨٩:؛<=>؟" ++
  "❊ءآأؤإئابةتثجحخد" ++
  "ذرزسشصضطظعغ[\\]^_" ++
  "ـفقكلمنهوىي\u064B\u064C\u064D\u064E\u064F" ++
  "\u0650\u0651\u0652پٹچەڤگڈڑ\x7b|\x7dژے"⟩

/-- The characters of MAC-CROATIAN. -/
def macCroatian : CodePage := ⟨
  asciiHalf ++
  "ÄÅÇÉÑÖÜáàâäãåçéè" ++
  "êëíìîïñóòôöõúùûü" ++
  "†°¢£§•¶ß®Š™´¨≠ŽØ" ++
  "∞±≤≥∆µ∂∑∏š∫ªºΩžø" ++
  "¿¡¬√ƒ≈Ć«Č…\u00A0ÀÃÕŒœ" ++
  "Đ—“”‘’÷◊\uF8FF©⁄€‹›Æ»" ++
  "–·‚„‰ÂćÁčÈÍÎÏÌÓÔ" ++
  "đÒÚÛÙıˆ˜¯πË˚¸Êæˇ"⟩

/-- The characters of MAC-CYRILLIC. -/
def macCyrillic : CodePage := ⟨
  asciiHalf ++
  "АБВГДЕЖЗИЙКЛМНОП" ++
  "РСТУФХЦЧШЩЪЫЬЭЮЯ" ++
  "†°Ґ£§•¶І®©™Ђђ≠Ѓѓ" ++
  "∞±≤≥іµґЈЄєЇїЉљЊњ" ++
  "јЅ¬√ƒ≈∆«»…\u00A0ЋћЌќѕ" ++
  "–—“”‘’÷„ЎўЏџ№Ёёя" ++
  "абвгдежзийклмноп" ++
  "рстуфхцчшщъыьэю€"⟩

/-- The characters of MAC-FARSI. -/
def macFarsi : CodePage := ⟨
  asciiHalf ++
  "Ä\u00A0ÇÉÑÖÜáàâäں«çéè" ++
  "êëí…îïñó»ôö÷úùûü" ++
  " !\"#$٪&\x27()*+،-./" ++
  "۰۱۲۳۴۵۶۷۸۹:؛<=>؟" ++
  "❊ءآأؤإئابةتثجحخد" ++
  "ذرزسشصضطظعغ[\\]^_" ++
  "ـفقكلمنهوىي\u064B\u064C\u064D\u064E\u064F" ++
  "\u0650\u0651\u0652پٹچەڤگڈڑ\x7b|\x7dژے"⟩

/-- The characters of MAC-GREEK. -/
def macGreek : CodePage := ⟨
  asciiHalf ++
  "Ä¹²É³ÖÜ΅àâä΄¨çéè" ++
  "êë£™îï•½‰ôö¦€ùûü" ++
  "†ΓΔΘΛΞΠß®©ΣΪ§≠°·" ++
  "Α±≤≥¥ΒΕΖΗΙΚΜΦΫΨΩ" ++
  "άΝ¬ΟΡ≈Τ«»…\u00A0ΥΧΆΈœ" ++
  "–―“”‘’÷ΉΊΌΎέήίόΏ" ++
  "ύαβψδεφγηιξκλμνο" ++
  "πώρστθωςχυζϊϋΐΰ\u00AD"⟩

/-- The characters of MAC-ICELAND. -/
def macIceland : CodePage := ⟨
  asciiHalf ++
  "ÄÅÇÉÑÖÜáàâäãåçéè" ++
  "êëíìîïñóòôöõúùûü" ++
  "Ý°¢£§•¶ß®©™´¨≠ÆØ" ++
  "∞±≤≥¥µ∂∑∏π∫ªºΩæø" ++
  "¿¡¬√ƒ≈∆«»…\u00A0ÀÃÕŒœ" ++
  "–—“”‘’÷◊ÿŸ⁄€ÐðÞþ" ++
  "ý·‚„‰ÂÊÁËÈÍÎÏÌÓÔ" ++
  "\uF8FFÒÚÛÙıˆ˜¯˘˙˚¸˝˛ˇ"⟩

/-- The characters of MAC-LATIN2. -/
def macLatin2 : CodePage := ⟨
  asciiHalf ++
  "ÄĀāÉĄÖÜáąČäčĆćéŹ" ++
  "źĎíďĒēĖóėôöõúĚěü" ++
  "†°Ę£§•¶ß®©™ę¨≠ģĮ" ++
  "įĪ≤≥īĶ∂∑łĻļĽľĹĺŅ" ++
  "ņŃ¬√ńŇ∆«»…\u00A0ňŐÕőŌ" ++
  "–—“”‘’÷◊ōŔŕŘ‹›řŖ" ++
  "ŗŠ‚„šŚśÁŤťÍŽžŪÓÔ" ++
  "ūŮÚůŰűŲųÝýķŻŁżĢˇ"⟩

/-- The characters of MAC-ROMAN. -/
def macRoman : CodePage := ⟨
  asciiHalf ++
  "ÄÅÇÉÑÖÜáàâäãåçéè" ++
  "êëíìîïñóòôöõúùûü" ++
  "†°¢£§•¶ß®©™´¨≠ÆØ" ++
  "∞±≤≥¥µ∂∑∏π∫ªºΩæø" ++
  "¿¡¬√ƒ≈∆«»…\u00A0ÀÃÕŒœ" ++
  "–—“”‘’÷◊ÿŸ⁄€‹›ﬁﬂ" ++
  "‡·‚„‰ÂÊÁËÈÍÎÏÌÓÔ" ++
  "\uF8FFÒÚÛÙıˆ˜¯˘˙˚¸˝˛ˇ"⟩

/-- The characters of MAC-ROMANIAN. -/
def macRomanian : CodePage := ⟨
  asciiHalf ++
  "ÄÅÇÉÑÖÜáàâäãåçéè" ++
  "êëíìîïñóòôöõúùûü" ++
  "†°¢£§•¶ß®©™´¨≠ĂȘ" ++
  "∞±≤≥¥µ∂∑∏π∫ªºΩăș" ++
  "¿¡¬√ƒ≈∆«»…\u00A0ÀÃÕŒœ" ++
  "–—“”‘’÷◊ÿŸ⁄€‹›Țț" ++
  "‡·‚„‰ÂÊÁËÈÍÎÏÌÓÔ" ++
  "\uF8FFÒÚÛÙıˆ˜¯˘˙˚¸˝˛ˇ"⟩

/-- The characters of MAC-TURKISH. -/
def macTurkish : CodePage := ⟨
  asciiHalf ++
  "ÄÅÇÉÑÖÜáàâäãåçéè" ++
  "êëíìîïñóòôöõúùûü" ++
  "†°¢£§•¶ß®©™´¨≠ÆØ" ++
  "∞±≤≥¥µ∂∑∏π∫ªºΩæø" ++
  "¿¡¬√ƒ≈∆«»…\u00A0ÀÃÕŒœ" ++
  "–—“”‘’÷◊ÿŸĞğİıŞş" ++
  "‡·‚„‰ÂÊÁËÈÍÎÏÌÓÔ" ++
  "\uF8FFÒÚÛÙ\uF8A0ˆ˜¯˘˙˚¸˝˛ˇ"⟩

end CodePage

end ByteAsm
