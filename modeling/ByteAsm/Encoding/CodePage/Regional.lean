import ByteAsm.Encoding.CodePage

/-!
# Other national code pages

Code pages of single regions and devices: Urdu (1006), HP Roman-8, the KOI8 Cyrillic sets for
Russian, Tajik and Ukrainian, Kazakh (1048), Palm OS, Cyrillic Asian (PT154) and Thai (TIS-620).

Each table lists the characters of the bytes `00` to `FF` in rows of sixteen, the first eight
rows being ASCII where the lower half is.
-/

namespace ByteAsm

namespace CodePage

/-- The characters of code page 1006. -/
def cp1006 : CodePage := ⟨
  asciiHalf ++
  "\x80\x81\x82\x83\x84\x85\x86\x87\x88\x89\x8a\x8b\x8c\x8d\x8e\x8f" ++
  "\x90\x91\x92\x93\x94\x95\x96\x97\x98\x99\x9a\x9b\x9c\x9d\x9e\x9f" ++
  "\u00A0۰۱۲۳۴۵۶۷۸۹،؛\u00AD؟ﺁ" ++
  "ﺍﺎﺎﺏﺑﭖﭘﺓﺕﺗﭦﭨﺙﺛﺝﺟ" ++
  "ﭺﭼﺡﺣﺥﺧﺩﮄﺫﺭﮌﺯﮊﺱﺳﺵ" ++
  "ﺷﺹﺻﺽﺿﻁﻅﻉﻊﻋﻌﻍﻎﻏﻐﻑ" ++
  "ﻓﻕﻗﻙﻛﮒﮔﻝﻟﻠﻡﻣﮞﻥﻧﺅ" ++
  "ﻭﮦﮨﮩﮪﺀﺉﺊﺋﻱﻲﻳﮰﮮﹼﹽ"⟩

/-- The characters of HP-ROMAN8. -/
def hpRoman8 : CodePage := ⟨
  asciiHalf ++
  "\x80\x81\x82\x83\x84\x85\x86\x87\x88\x89\x8a\x8b\x8c\x8d\x8e\x8f" ++
  "\x90\x91\x92\x93\x94\x95\x96\x97\x98\x99\x9a\x9b\x9c\x9d\x9e\x9f" ++
  "\u00A0ÀÂÈÊËÎÏ´ˋˆ¨˜ÙÛ₤" ++
  "¯Ýý°ÇçÑñ¡¿¤£¥§ƒ¢" ++
  "âêôûáéóúàèòùäëöü" ++
  "ÅîØÆåíøæÄìÖÜÉïßÔ" ++
  "ÁÃãÐðÍÌÓÒÕõŠšÚŸÿ" ++
  "Þþ·µ¶¾—¼½ªº«■»±\uFFFE"⟩

/-- The characters of KOI8-R. -/
def koi8R : CodePage := ⟨
  asciiHalf ++
  "─│┌┐└┘├┤┬┴┼▀▄█▌▐" ++
  "░▒▓⌠■∙√≈≤≥\u00A0⌡°²·÷" ++
  "═║╒ё╓╔╕╖╗╘╙╚╛╜╝╞" ++
  "╟╠╡Ё╢╣╤╥╦╧╨╩╪╫╬©" ++
  "юабцдефгхийклмно" ++
  "пярстужвьызшэщчъ" ++
  "ЮАБЦДЕФГХИЙКЛМНО" ++
  "ПЯРСТУЖВЬЫЗШЭЩЧЪ"⟩

/-- The characters of KOI8-T. -/
def koi8T : CodePage := ⟨
  asciiHalf ++
  "қғ‚Ғ„…†‡\uFFFE‰ҳ‹ҲҷҶ\uFFFE" ++
  "Қ‘’“”•–—\uFFFE™\uFFFE›\uFFFE\uFFFE\uFFFE\uFFFE" ++
  "\uFFFEӯӮё¤ӣ¦§\uFFFE\uFFFE\uFFFE«¬\u00AD®\uFFFE" ++
  "°±²Ё\uFFFEӢ¶·\uFFFE№\uFFFE»\uFFFE\uFFFE\uFFFE©" ++
  "юабцдефгхийклмно" ++
  "пярстужвьызшэщчъ" ++
  "ЮАБЦДЕФГХИЙКЛМНО" ++
  "ПЯРСТУЖВЬЫЗШЭЩЧЪ"⟩

/-- The characters of KOI8-U. -/
def koi8U : CodePage := ⟨
  asciiHalf ++
  "─│┌┐└┘├┤┬┴┼▀▄█▌▐" ++
  "░▒▓⌠■∙√≈≤≥\u00A0⌡°²·÷" ++
  "═║╒ёє╔ії╗╘╙╚╛ґ╝╞" ++
  "╟╠╡ЁЄ╣ІЇ╦╧╨╩╪Ґ╬©" ++
  "юабцдефгхийклмно" ++
  "пярстужвьызшэщчъ" ++
  "ЮАБЦДЕФГХИЙКЛМНО" ++
  "ПЯРСТУЖВЬЫЗШЭЩЧЪ"⟩

/-- The characters of KZ1048. -/
def kz1048 : CodePage := ⟨
  asciiHalf ++
  "ЂЃ‚ѓ„…†‡€‰Љ‹ЊҚҺЏ" ++
  "ђ‘’“”•–—\uFFFE™љ›њқһџ" ++
  "\u00A0ҰұӘ¤Ө¦§Ё©Ғ«¬\u00AD®Ү" ++
  "°±Ііөµ¶·ё№ғ»әҢңү" ++
  "АБВГДЕЖЗИЙКЛМНОП" ++
  "РСТУФХЦЧШЩЪЫЬЭЮЯ" ++
  "абвгдежзийклмноп" ++
  "рстуфхцчшщъыьэюя"⟩

/-- The characters of PALMOS. -/
def palmos : CodePage := ⟨
  asciiHalf ++
  "€\x81‚ƒ„…†‡ˆ‰Š‹Œ♦♣♥" ++
  "♠‘’“”•–—˜™š\x9bœ\x9d\x9eŸ" ++
  "\u00A0¡¢£¤¥¦§¨©ª«¬\u00AD®¯" ++
  "°±²³´µ¶·¸¹º»¼½¾¿" ++
  "ÀÁÂÃÄÅÆÇÈÉÊËÌÍÎÏ" ++
  "ÐÑÒÓÔÕÖ×ØÙÚÛÜÝÞß" ++
  "àáâãäåæçèéêëìíîï" ++
  "ðñòóôõö÷øùúûüýþÿ"⟩

/-- The characters of PTCP154. -/
def ptcp154 : CodePage := ⟨
  asciiHalf ++
  "ҖҒӮғ„…ҶҮҲүҠӢҢҚҺҸ" ++
  "җ‘’“”•–—ҳҷҡӣңқһҹ" ++
  "\u00A0ЎўЈӨҘҰ§Ё©Ә«¬ӯ®Ҝ" ++
  "°ұІіҙө¶·ё№ә»јҪҫҝ" ++
  "АБВГДЕЖЗИЙКЛМНОП" ++
  "РСТУФХЦЧШЩЪЫЬЭЮЯ" ++
  "абвгдежзийклмноп" ++
  "рстуфхцчшщъыьэюя"⟩

/-- The characters of TIS-620. -/
def tis620 : CodePage := ⟨
  asciiHalf ++
  "\x80\x81\x82\x83\x84\x85\x86\x87\x88\x89\x8a\x8b\x8c\x8d\x8e\x8f" ++
  "\x90\x91\x92\x93\x94\x95\x96\x97\x98\x99\x9a\x9b\x9c\x9d\x9e\x9f" ++
  "\uFFFEกขฃคฅฆงจฉชซฌญฎฏ" ++
  "ฐฑฒณดตถทธนบปผฝพฟ" ++
  "ภมยรฤลฦวศษสหฬอฮฯ" ++
  "ะ\u0E31าำ\u0E34\u0E35\u0E36\u0E37\u0E38\u0E39\u0E3A\uFFFE\uFFFE\uFFFE\uFFFE฿" ++
  "เแโใไๅๆ\u0E47\u0E48\u0E49\u0E4A\u0E4B\u0E4C\u0E4D\u0E4E๏" ++
  "๐๑๒๓๔๕๖๗๘๙๚๛\uFFFE\uFFFE\uFFFE\uFFFE"⟩

end CodePage

end ByteAsm
