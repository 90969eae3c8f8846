import ByteAsm.Encoding.CodePage

/-!
# Code pages of Windows

The code pages of Windows for Thai, Central Europe, Cyrillic, Western Europe, Greek, Turkish,
Hebrew, Arabic, the Baltic states and Vietnamese. Their lower half is ASCII.

Each table lists the characters of the bytes `00` to `FF` in rows of sixteen, the first eight
rows being ASCII where the lower half is.
-/

namespace ByteAsm

namespace CodePage

/-- The characters of code page 874. -/
def cp874 : CodePage := ⟨
  asciiHalf ++
  "€\uFFFE\uFFFE\uFFFE\uFFFE…\uFFFE\uFFFE\uFFFE\uFFFE\uFFFE\uFFFE\uFFFE\uFFFE\uFFFE\uFFFE" ++
  "\uFFFE‘’“”•–—\uFFFE\uFFFE\uFFFE\uFFFE\uFFFE\uFFFE\uFFFE\uFFFE" ++
  "\u00A0กขฃคฅฆงจฉชซฌญฎฏ" ++
  "ฐฑฒณดตถทธนบปผฝพฟ" ++
  "ภมยรฤลฦวศษสหฬอฮฯ" ++
  "ะ\u0E31าำ\u0E34\u0E35\u0E36\u0E37\u0E38\u0E39\u0E3A\uFFFE\uFFFE\uFFFE\uFFFE฿" ++
  "เแโใไๅๆ\u0E47\u0E48\u0E49\u0E4A\u0E4B\u0E4C\u0E4D\u0E4E๏" ++
  "๐๑๒๓๔๕๖๗๘๙๚๛\uFFFE\uFFFE\uFFFE\uFFFE"⟩

/-- The characters of code page 1250. -/
def cp1250 : CodePage := ⟨
  asciiHalf ++
  "€\uFFFE‚\uFFFE„…†‡\uFFFE‰Š‹ŚŤŽŹ" ++
  "\uFFFE‘’“”•–—\uFFFE™š›śťžź" ++
  "\u00A0ˇ˘Ł¤Ą¦§¨©Ş«¬\u00AD®Ż" ++
  "°±˛ł´µ¶·¸ąş»Ľ˝ľż" ++
  "ŔÁÂĂÄĹĆÇČÉĘËĚÍÎĎ" ++
  "ĐŃŇÓÔŐÖ×ŘŮÚŰÜÝŢß" ++
  "ŕáâăäĺćçčéęëěíîď" ++
  "đńňóôőö÷řůúűüýţ˙"⟩

/-- The characters of code page 1251. -/
def cp1251 : CodePage := ⟨
  asciiHalf ++
  "ЂЃ‚ѓ„…†‡€‰Љ‹ЊЌЋЏ" ++
  "ђ‘’“”•–—\uFFFE™љ›њќћџ" ++
  "\u00A0ЎўЈ¤Ґ¦§Ё©Є«¬\u00AD®Ї" ++
  "°±Ііґµ¶·ё№є»јЅѕї" ++
  "АБВГДЕЖЗИЙКЛМНОП" ++
  "РСТУФХЦЧШЩЪЫЬЭЮЯ" ++
  "абвгдежзийклмноп" ++
  "рстуфхцчшщъыьэюя"⟩

/-- The characters of code page 1252. -/
def cp1252 : CodePage := ⟨
  asciiHalf ++
  "€\uFFFE‚ƒ„…†‡ˆ‰Š‹Œ\uFFFEŽ\uFFFE" ++
  "\uFFFE‘’“”•–—˜™š›œ\uFFFEžŸ" ++
  "\u00A0¡¢£¤¥¦§¨©ª«¬\u00AD®¯" ++
  "°±²³´µ¶·¸¹º»¼½¾¿" ++
  "ÀÁÂÃÄÅÆÇÈÉÊËÌÍÎÏ" ++
  "ÐÑÒÓÔÕÖ×ØÙÚÛÜÝÞß" ++
  "àáâãäåæçèéêëìíîï" ++
  "ðñòóôõö÷øùúûüýþÿ"⟩

/-- The characters of code page 1253. -/
def cp1253 : CodePage := ⟨
  asciiHalf ++
  "€\uFFFE‚ƒ„…†‡\uFFFE‰\uFFFE‹\uFFFE\uFFFE\uFFFE\uFFFE" ++
  "\uFFFE‘’“”•–—\uFFFE™\uFFFE›\uFFFE\uFFFE\uFFFE\uFFFE" ++
  "\u00A0΅Ά£¤¥¦§¨©\uFFFE«¬\u00AD®―" ++
  "°±²³΄µ¶·ΈΉΊ»Ό½ΎΏ" ++
  "ΐΑΒΓΔΕΖΗΘΙΚΛΜΝΞΟ" ++
  "ΠΡ\uFFFEΣΤΥΦΧΨΩΪΫάέήί" ++
  "ΰαβγδεζηθικλμνξο" ++
  "πρςστυφχψωϊϋόύώ\uFFFE"⟩

/-- The characters of code page 1254. -/
def cp1254 : CodePage := ⟨
  asciiHalf ++
  "€\uFFFE‚ƒ„…†‡ˆ‰Š‹Œ\uFFFE\uFFFE\uFFFE" ++
  "\uFFFE‘’“”•–—˜™š›œ\uFFFE\uFFFEŸ" ++
  "\u00A0¡¢£¤¥¦§¨©ª«¬\u00AD®¯" ++
  "°±²³´µ¶·¸¹º»¼½¾¿" ++
  "ÀÁÂÃÄÅÆÇÈÉÊËÌÍÎÏ" ++
  "ĞÑÒÓÔÕÖ×ØÙÚÛÜİŞß" ++
  "àáâãäåæçèéêëìíîï" ++
  "ğñòóôõö÷øùúûüışÿ"⟩

/-- The characters of code page 1255. -/
def cp1255 : CodePage := ⟨
  asciiHalf ++
  "€\uFFFE‚ƒ„…†‡ˆ‰\uFFFE‹\uFFFE\uFFFE\uFFFE\uFFFE" ++
  "\uFFFE‘’“”•–—˜™\uFFFE›\uFFFE\uFFFE\uFFFE\uFFFE" ++
  "\u00A0¡¢£₪¥¦§¨©×«¬\u00AD®¯" ++
  "°±²³´µ¶·¸¹÷»¼½¾¿" ++
  "\u05B0\u05B1\u05B2\u05B3\u05B4\u05B5\u05B6\u05B7\u05B8\u05B9\uFFFE\u05BB\u05BC\u05BD־\u05BF" ++
  "׀\u05C1\u05C2׃װױײ׳״\uFFFE\uFFFE\uFFFE\uFFFE\uFFFE\uFFFE\uFFFE" ++
  "אבגדהוזחטיךכלםמן" ++
  "נסעףפץצקרשת\uFFFE\uFFFE\u200E\u200F\uFFFE"⟩

/-- The characters of code page 1256. -/
def cp1256 : CodePage := ⟨
  asciiHalf ++
  "€پ‚ƒ„…†‡ˆ‰ٹ‹Œچژڈ" ++
  "گ‘’“”•–—ک™ڑ›œ\u200C\u200Dں" ++
  "\u00A0،¢£¤¥¦§¨©ھ«¬\u00AD®¯" ++
  "°±²³´µ¶·¸¹؛»¼½¾؟" ++
  "ہءآأؤإئابةتثجحخد" ++
  "ذرزسشصض×طظعغـفقك" ++
  "àلâمنهوçèéêëىيîï" ++
  "\u064B\u064C\u064D\u064Eô\u064F\u0650÷\u0651ù\u0652ûü\u200E\u200Fے"⟩

/-- The characters of code page 1257. -/
def cp1257 : CodePage := ⟨
  asciiHalf ++
  "€\uFFFE‚\uFFFE„…†‡\uFFFE‰\uFFFE‹\uFFFE¨ˇ¸" ++
  "\uFFFE‘’“”•–—\uFFFE™\uFFFE›\uFFFE¯˛\uFFFE" ++
  "\u00A0\uFFFE¢£¤\uFFFE¦§Ø©Ŗ«¬\u00AD®Æ" ++
  "°±²³´µ¶·ø¹ŗ»¼½¾æ" ++
  "ĄĮĀĆÄÅĘĒČÉŹĖĢĶĪĻ" ++
  "ŠŃŅÓŌÕÖ×ŲŁŚŪÜŻŽß" ++
  "ąįāćäåęēčéźėģķīļ" ++
  "šńņóōõö÷ųłśūüżž˙"⟩

/-- The characters of code page 1258. -/
def cp1258 : CodePage := ⟨
  asciiHalf ++
  "€\uFFFE‚ƒ„…†‡ˆ‰\uFFFE‹Œ\uFFFE\uFFFE\uFFFE" ++
  "\uFFFE‘’“”•–—˜™\uFFFE›œ\uFFFE\uFFFEŸ" ++
  "\u00A0¡¢£¤¥¦§¨©ª«¬\u00AD®¯" ++
  "°±²³´µ¶·¸¹º»¼½¾¿" ++
  "ÀÁÂĂÄÅÆÇÈÉÊË\u0300ÍÎÏ" ++
  "ĐÑ\u0309ÓÔƠÖ×ØÙÚÛÜƯ\u0303ß" ++
  "àáâăäåæçèéêë\u0301íîï" ++
  "đñ\u0323óôơö÷øùúûüư₫ÿ"⟩

end CodePage

end ByteAsm
