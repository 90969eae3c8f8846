import ByteAsm.Encoding.CodePage

/-!
# The ISO 8859 character sets

The parts of ISO 8859 after the first: Latin alphabets 2 to 10 for the languages of Europe, and
the Cyrillic, Arabic, Greek, Hebrew and Thai alphabets. Their lower half is ASCII.

Each table lists the characters of the bytes `00` to `FF` in rows of sixteen, the first eight
rows being ASCII where the lower half is.
-/

namespace ByteAsm

namespace CodePage

/-- The characters of ISO8859-2. -/
def iso8859_2 : CodePage := ⟨
  asciiHalf ++
  "\x80\x81\x82\x83\x84\x85\x86\x87\x88\x89\x8a\x8b\x8c\x8d\x8e\x8f" ++
  "\x90\x91\x92\x93\x94\x95\x96\x97\x98\x99\x9a\x9b\x9c\x9d\x9e\x9f" ++
  "\u00A0Ą˘Ł¤ĽŚ§¨ŠŞŤŹ\u00ADŽŻ" ++
  "°ą˛ł´ľśˇ¸šşťź˝žż" ++
  "ŔÁÂĂÄĹĆÇČÉĘËĚÍÎĎ" ++
  "ĐŃŇÓÔŐÖ×ŘŮÚŰÜÝŢß" ++
  "ŕáâăäĺćçčéęëěíîď" ++
  "đńňóôőö÷řůúűüýţ˙"⟩

/-- The characters of ISO8859-3. -/
def iso8859_3 : CodePage := ⟨
  asciiHalf ++
  "\x80\x81\x82\x83\x84\x85\x86\x87\x88\x89\x8a\x8b\x8c\x8d\x8e\x8f" ++
  "\x90\x91\x92\x93\x94\x95\x96\x97\x98\x99\x9a\x9b\x9c\x9d\x9e\x9f" ++
  "\u00A0Ħ˘£¤\uFFFEĤ§¨İŞĞĴ\u00AD\uFFFEŻ" ++
  "°ħ²³´µĥ·¸ışğĵ½\uFFFEż" ++
  "ÀÁÂ\uFFFEÄĊĈÇÈÉÊËÌÍÎÏ" ++
  "\uFFFEÑÒÓÔĠÖ×ĜÙÚÛÜŬŜß" ++
  "àáâ\uFFFEäċĉçèéêëìíîï" ++
  "\uFFFEñòóôġö÷ĝùúûüŭŝ˙"⟩

/-- The characters of ISO8859-4. -/
def iso8859_4 : CodePage := ⟨
  asciiHalf ++
  "\x80\x81\x82\x83\x84\x85\x86\x87\x88\x89\x8a\x8b\x8c\x8d\x8e\x8f" ++
  "\x90\x91\x92\x93\x94\x95\x96\x97\x98\x99\x9a\x9b\x9c\x9d\x9e\x9f" ++
  "\u00A0ĄĸŖ¤ĨĻ§¨ŠĒĢŦ\u00ADŽ¯" ++
  "°ą˛ŗ´ĩļˇ¸šēģŧŊžŋ" ++
  "ĀÁÂÃÄÅÆĮČÉĘËĖÍÎĪ" ++
  "ĐŅŌĶÔÕÖ×ØŲÚÛÜŨŪß" ++
  "āáâãäåæįčéęëėíîī" ++
  "đņōķôõö÷øųúûüũū˙"⟩

/-- The characters of ISO8859-5. -/
def iso8859_5 : CodePage := ⟨
  asciiHalf ++
  "\x80\x81\x82\x83\x84\x85\x86\x87\x88\x89\x8a\x8b\x8c\x8d\x8e\x8f" ++
  "\x90\x91\x92\x93\x94\x95\x96\x97\x98\x99\x9a\x9b\x9c\x9d\x9e\x9f" ++
  "\u00A0ЁЂЃЄЅІЇЈЉЊЋЌ\u00ADЎЏ" ++
  "АБВГДЕЖЗИЙКЛМНОП" ++
  "РСТУФХЦЧШЩЪЫЬЭЮЯ" ++
  "абвгдежзийклмноп" ++
  "рстуфхцчшщъыьэюя" ++
  "№ёђѓєѕіїјљњћќ§ўџ"⟩

/-- The characters of ISO8859-6. -/
def iso8859_6 : CodePage := ⟨
  asciiHalf ++
  "\x80\x81\x82\x83\x84\x85\x86\x87\x88\x89\x8a\x8b\x8c\x8d\x8e\x8f" ++
  "\x90\x91\x92\x93\x94\x95\x96\x97\x98\x99\x9a\x9b\x9c\x9d\x9e\x9f" ++
  "\u00A0\uFFFE\uFFFE\uFFFE¤\uFFFE\uFFFE\uFFFE\uFFFE\uFFFE\uFFFE\uFFFE،\u00AD\uFFFE\uFFFE" ++
  "\uFFFE\uFFFE\uFFFE\uFFFE\uFFFE\uFFFE\uFFFE\uFFFE\uFFFE\uFFFE\uFFFE؛\uFFFE\uFFFE\uFFFE؟" ++
  "\uFFFEءآأؤإئابةتثجحخد" ++
  "ذرزسشصضطظعغ\uFFFE\uFFFE\uFFFE\uFFFE\uFFFE" ++
  "ـفقكلمنهوىي\u064B\u064C\u064D\u064E\u064F" ++
  "\u0650\u0651\u0652\uFFFE\uFFFE\uFFFE\uFFFE\uFFFE\uFFFE\uFFFE\uFFFE\uFFFE\uFFFE\uFFFE\uFFFE\uFFFE"⟩

/-- The characters of ISO8859-7. -/
def iso8859_7 : CodePage := ⟨
  asciiHalf ++
  "\x80\x81\x82\x83\x84\x85\x86\x87\x88\x89\x8a\x8b\x8c\x8d\x8e\x8f" ++
  "\x90\x91\x92\x93\x94\x95\x96\x97\x98\x99\x9a\x9b\x9c\x9d\x9e\x9f" ++
  "\u00A0‘’£€₯¦§¨©ͺ«¬\u00AD\uFFFE―" ++
  "°±²³΄΅Ά·ΈΉΊ»Ό½ΎΏ" ++
  "ΐΑΒΓΔΕΖΗΘΙΚΛΜΝΞΟ" ++
  "ΠΡ\uFFFEΣΤΥΦΧΨΩΪΫάέήί" ++
  "ΰαβγδεζηθικλμνξο" ++
  "πρςστυφχψωϊϋόύώ\uFFFE"⟩

/-- The characters of ISO8859-8. -/
def iso8859_8 : CodePage := ⟨
  asciiHalf ++
  "\x80\x81\x82\x83\x84\x85\x86\x87\x88\x89\x8a\x8b\x8c\x8d\x8e\x8f" ++
  "\x90\x91\x92\x93\x94\x95\x96\x97\x98\x99\x9a\x9b\x9c\x9d\x9e\x9f" ++
  "\u00A0\uFFFE¢£¤¥¦§¨©×«¬\u00AD®¯" ++
  "°±²³´µ¶·¸¹÷»¼½¾\uFFFE" ++
  "\uFFFE\uFFFE\uFFFE\uFFFE\uFFFE\uFFFE\uFFFE\uFFFE\uFFFE\uFFFE\uFFFE\uFFFE\uFFFE\uFFFE\uFFFE\uFFFE" ++
  "\uFFFE\uFFFE\uFFFE\uFFFE\uFFFE\uFFFE\uFFFE\uFFFE\uFFFE\uFFFE\uFFFE\uFFFE\uFFFE\uFFFE\uFFFE‗" ++
  "אבגדהוזחטיךכלםמן" ++
  "נסעףפץצקרשת\uFFFE\uFFFE\u200E\u200F\uFFFE"⟩

/-- The characters of ISO8859-9. -/
def iso8859_9 : CodePage := ⟨
  asciiHalf ++
  "\x80\x81\x82\x83\x84\x85\x86\x87\x88\x89\x8a\x8b\x8c\x8d\x8e\x8f" ++
  "\x90\x91\x92\x93\x94\x95\x96\x97\x98\x99\x9a\x9b\x9c\x9d\x9e\x9f" ++
  "\u00A0¡¢£¤¥¦§¨©ª«¬\u00AD®¯" ++
  "°±²³´µ¶·¸¹º»¼½¾¿" ++
  "ÀÁÂÃÄÅÆÇÈÉÊËÌÍÎÏ" ++
  "ĞÑÒÓÔÕÖ×ØÙÚÛÜİŞß" ++
  "àáâãäåæçèéêëìíîï" ++
  "ğñòóôõö÷øùúûüışÿ"⟩

/-- The characters of ISO8859-10. -/
def iso8859_10 : CodePage := ⟨
  asciiHalf ++
  "\x80\x81\x82\x83\x84\x85\x86\x87\x88\x89\x8a\x8b\x8c\x8d\x8e\x8f" ++
  "\x90\x91\x92\x93\x94\x95\x96\x97\x98\x99\x9a\x9b\x9c\x9d\x9e\x9f" ++
  "\u00A0ĄĒĢĪĨĶ§ĻĐŠŦŽ\u00ADŪŊ" ++
  "°ąēģīĩķ·ļđšŧž―ūŋ" ++
  "ĀÁÂÃÄÅÆĮČÉĘËĖÍÎÏ" ++
  "ÐŅŌÓÔÕÖŨØŲÚÛÜÝÞß" ++
  "āáâãäåæįčéęëėíîï" ++
  "ðņōóôõöũøųúûüýþĸ"⟩

/-- The characters of ISO8859-11. -/
def iso8859_11 : CodePage := ⟨
  asciiHalf ++
  "\x80\x81\x82\x83\x84\x85\x86\x87\x88\x89\x8a\x8b\x8c\x8d\x8e\x8f" ++
  "\x90\x91\x92\x93\x94\x95\x96\x97\x98\x99\x9a\x9b\x9c\x9d\x9e\x9f" ++
  "\u00A0กขฃคฅฆงจฉชซฌญฎฏ" ++
  "ฐฑฒณดตถทธนบปผฝพฟ" ++
  "ภมยรฤลฦวศษสหฬอฮฯ" ++
  "ะ\u0E31าำ\u0E34\u0E35\u0E36\u0E37\u0E38\u0E39\u0E3A\uFFFE\uFFFE\uFFFE\uFFFE฿" ++
  "เแโใไๅๆ\u0E47\u0E48\u0E49\u0E4A\u0E4B\u0E4C\u0E4D\u0E4E๏" ++
  "๐๑๒๓๔๕๖๗๘๙๚๛\uFFFE\uFFFE\uFFFE\uFFFE"⟩

/-- The characters of ISO8859-13. -/
def iso8859_13 : CodePage := ⟨
  asciiHalf ++
  "\x80\x81\x82\x83\x84\x85\x86\x87\x88\x89\x8a\x8b\x8c\x8d\x8e\x8f" ++
  "\x90\x91\x92\x93\x94\x95\x96\x97\x98\x99\x9a\x9b\x9c\x9d\x9e\x9f" ++
  "\u00A0”¢£¤„¦§Ø©Ŗ«¬\u00AD®Æ" ++
  "°±²³“µ¶·ø¹ŗ»¼½¾æ" ++
  "ĄĮĀĆÄÅĘĒČÉŹĖĢĶĪĻ" ++
  "ŠŃŅÓŌÕÖ×ŲŁŚŪÜŻŽß" ++
  "ąįāćäåęēčéźėģķīļ" ++
  "šńņóōõö÷ųłśūüżž’"⟩

/-- The characters of ISO8859-14. -/
def iso8859_14 : CodePage := ⟨
  asciiHalf ++
  "\x80\x81\x82\x83\x84\x85\x86\x87\x88\x89\x8a\x8b\x8c\x8d\x8e\x8f" ++
  "\x90\x91\x92\x93\x94\x95\x96\x97\x98\x99\x9a\x9b\x9c\x9d\x9e\x9f" ++
  "\u00A0Ḃḃ£ĊċḊ§Ẁ©ẂḋỲ\u00AD®Ÿ" ++
  "ḞḟĠġṀṁ¶ṖẁṗẃṠỳẄẅṡ" ++
  "ÀÁÂÃÄÅÆÇÈÉÊËÌÍÎÏ" ++
  "ŴÑÒÓÔÕÖṪØÙÚÛÜÝŶß" ++
  "àáâãäåæçèéêëìíîï" ++
  "ŵñòóôõöṫøùúûüýŷÿ"⟩

/-- The characters of ISO8859-15. -/
def iso8859_15 : CodePage := ⟨
  asciiHalf ++
  "\x80\x81\x82\x83\x84\x85\x86\x87\x88\x89\x8a\x8b\x8c\x8d\x8e\x8f" ++
  "\x90\x91\x92\x93\x94\x95\x96\x97\x98\x99\x9a\x9b\x9c\x9d\x9e\x9f" ++
  "\u00A0¡¢£€¥Š§š©ª«¬\u00AD®¯" ++
  "°±²³Žµ¶·ž¹º»ŒœŸ¿" ++
  "ÀÁÂÃÄÅÆÇÈÉÊËÌÍÎÏ" ++
  "ÐÑÒÓÔÕÖ×ØÙÚÛÜÝÞß" ++
  "àáâãäåæçèéêëìíîï" ++
  "ðñòóôõö÷øùúûüýþÿ"⟩

/-- The characters of ISO8859-16. -/
def iso8859_16 : CodePage := ⟨
  asciiHalf ++
  "\x80\x81\x82\x83\x84\x85\x86\x87\x88\x89\x8a\x8b\x8c\x8d\x8e\x8f" ++
  "\x90\x91\x92\x93\x94\x95\x96\x97\x98\x99\x9a\x9b\x9c\x9d\x9e\x9f" ++
  "\u00A0ĄąŁ€„Š§š©Ș«Ź\u00ADźŻ" ++
  "°±ČłŽ”¶·žčș»ŒœŸż" ++
  "ÀÁÂĂÄĆÆÇÈÉÊËÌÍÎÏ" ++
  "ĐŃÒÓÔŐÖŚŰÙÚÛÜĘȚß" ++
  "àáâăäćæçèéêëìíîï" ++
  "đńòóôőöśűùúûüęțÿ"⟩

end CodePage

end ByteAsm
