import ByteAsm.Encoding.CodePage

/-!
# Code pages of DOS

The code pages of personal computers under DOS: the original character set of the IBM PC (437)
and its regional variants for Western and Central Europe, Greece, the Baltic states, Turkey,
Portugal, Iceland, Hebrew, French Canada, the Nordic countries, Cyrillic, Arabic and Ukraine.
Their lower half is ASCII.

Each table lists the characters of the bytes `00` to `FF` in rows of sixteen, the first eight
rows being ASCII where the lower half is.
-/

namespace ByteAsm

namespace CodePage

/-- The characters of code page 437. -/
def cp437 : CodePage := ⟨
  asciiHalf ++
  "ÇüéâäàåçêëèïîìÄÅ" ++
  "ÉæÆôöòûùÿÖÜ¢£¥₧ƒ" ++
  "áíóúñÑªº¿⌐¬½¼¡«»" ++
  "░▒▓│┤╡╢╖╕╣║╗╝╜╛┐" ++
  "└┴┬├─┼╞╟╚╔╩╦╠═╬╧" ++
  "╨╤╥╙╘╒╓╫╪┘┌█▄▌▐▀" ++
  "αßΓπΣσµτΦΘΩδ∞φε∩" ++
  "≡±≥≤⌠⌡÷≈°∙·√ⁿ²■\u00A0"⟩

/-- The characters of code page 720. -/
def cp720 : CodePage := ⟨
  asciiHalf ++
  "\x80\x81éâ\x84à\x86çêëèïî\x8d\x8e\x8f" ++
  "\x90\u0651\u0652ô¤ـûùءآأؤ£إئا" ++
  "بةتثجحخدذرزسشص«»" ++
  "░▒▓│┤╡╢╖╕╣║╗╝╜╛┐" ++
  "└┴┬├─┼╞╟╚╔╩╦╠═╬╧" ++
  "╨╤╥╙╘╒╓╫╪┘┌█▄▌▐▀" ++
  "ضطظعغفµقكلمنهوىي" ++
  "≡\u064B\u064C\u064D\u064E\u064F\u0650≈°∙·√ⁿ²■\u00A0"⟩

/-- The characters of code page 737. -/
def cp737 : CodePage := ⟨
  asciiHalf ++
  "ΑΒΓΔΕΖΗΘΙΚΛΜΝΞΟΠ" ++
  "ΡΣΤΥΦΧΨΩαβγδεζηθ" ++
  "ικλμνξοπρσςτυφχψ" ++
  "░▒▓│┤╡╢╖╕╣║╗╝╜╛┐" ++
  "└┴┬├─┼╞╟╚╔╩╦╠═╬╧" ++
  "╨╤╥╙╘╒╓╫╪┘┌█▄▌▐▀" ++
  "ωάέήϊίόύϋώΆΈΉΊΌΎ" ++
  "Ώ±≥≤ΪΫ÷≈°∙·√ⁿ²■\u00A0"⟩

/-- The characters of code page 775. -/
def cp775 : CodePage := ⟨
  asciiHalf ++
  "ĆüéāäģåćłēŖŗīŹÄÅ" ++
  "ÉæÆōöĢ¢ŚśÖÜø£Ø×¤" ++
  "ĀĪóŻżź”¦©®¬½¼Ł«»" ++
  "░▒▓│┤ĄČĘĖ╣║╗╝ĮŠ┐" ++
  "└┴┬├─┼ŲŪ╚╔╩╦╠═╬Ž" ++
  "ąčęėįšųūž┘┌█▄▌▐▀" ++
  "ÓßŌŃõÕµńĶķĻļņĒŅ’" ++
  "\u00AD±“¾¶§÷„°∙·¹³²■\u00A0"⟩

/-- The characters of code page 850. -/
def cp850 : CodePage := ⟨
  asciiHalf ++
  "ÇüéâäàåçêëèïîìÄÅ" ++
  "ÉæÆôöòûùÿÖÜø£Ø×ƒ" ++
  "áíóúñÑªº¿®¬½¼¡«»" ++
  "░▒▓│┤ÁÂÀ©╣║╗╝¢¥┐" ++
  "└┴┬├─┼ãÃ╚╔╩╦╠═╬¤" ++
  "ðÐÊËÈıÍÎÏ┘┌█▄¦Ì▀" ++
  "ÓßÔÒõÕµþÞÚÛÙýÝ¯´" ++
  "\u00AD±‗¾¶§÷¸°¨·¹³²■\u00A0"⟩

/-- The characters of code page 852. -/
def cp852 : CodePage := ⟨
  asciiHalf ++
  "ÇüéâäůćçłëŐőîŹÄĆ" ++
  "ÉĹĺôöĽľŚśÖÜŤťŁ×č" ++
  "áíóúĄąŽžĘę¬źČş«»" ++
  "░▒▓│┤ÁÂĚŞ╣║╗╝Żż┐" ++
  "└┴┬├─┼Ăă╚╔╩╦╠═╬¤" ++
  "đĐĎËďŇÍÎě┘┌█▄ŢŮ▀" ++
  "ÓßÔŃńňŠšŔÚŕŰýÝţ´" ++
  "\u00AD˝˛ˇ˘§÷¸°¨˙űŘř■\u00A0"⟩

/-- The characters of code page 855. -/
def cp855 : CodePage := ⟨
  asciiHalf ++
  "ђЂѓЃёЁєЄѕЅіІїЇјЈ" ++
  "љЉњЊћЋќЌўЎџЏюЮъЪ" ++
  "аАбБцЦдДеЕфФгГ«»" ++
  "░▒▓│┤хХиИ╣║╗╝йЙ┐" ++
  "└┴┬├─┼кК╚╔╩╦╠═╬¤" ++
  "лЛмМнНоОп┘┌█▄Пя▀" ++
  "ЯрРсСтТуУжЖвВьЬ№" ++
  "\u00ADыЫзЗшШэЭщЩчЧ§■\u00A0"⟩

/-- The characters of code page 856. -/
def cp856 : CodePage := ⟨
  asciiHalf ++
  "אבגדהוזחטיךכלםמן" ++
  "נסעףפץצקרשת\uFFFE£\uFFFE×\uFFFE" ++
  "\uFFFE\uFFFE\uFFFE\uFFFE\uFFFE\uFFFE\uFFFE\uFFFE\uFFFE®¬½¼\uFFFE«»" ++
  "░▒▓│┤\uFFFE\uFFFE\uFFFE©╣║╗╝¢¥┐" ++
  "└┴┬├─┼\uFFFE\uFFFE╚╔╩╦╠═╬¤" ++
  "\uFFFE\uFFFE\uFFFE\uFFFE\uFFFE\uFFFE\uFFFE\uFFFE\uFFFE┘┌█▄¦\uFFFE▀" ++
  "\uFFFE\uFFFE\uFFFE\uFFFE\uFFFE\uFFFEµ\uFFFE\uFFFE\uFFFE\uFFFE\uFFFE\uFFFE\uFFFE¯´" ++
  "\u00AD±‗¾¶§÷¸°¨·¹³²■\u00A0"⟩

/-- The characters of code page 857. -/
def cp857 : CodePage := ⟨
  asciiHalf ++
  "ÇüéâäàåçêëèïîıÄÅ" ++
  "ÉæÆôöòûùİÖÜø£ØŞş" ++
  "áíóúñÑĞğ¿®¬½¼¡«»" ++
  "░▒▓│┤ÁÂÀ©╣║╗╝¢¥┐" ++
  "└┴┬├─┼ãÃ╚╔╩╦╠═╬¤" ++
  "ºªÊËÈ\uFFFEÍÎÏ┘┌█▄¦Ì▀" ++
  "ÓßÔÒõÕµ\uFFFE×ÚÛÙìÿ¯´" ++
  "\u00AD±\uFFFE¾¶§÷¸°¨·¹³²■\u00A0"⟩

/-- The characters of code page 858. -/
def cp858 : CodePage := ⟨
  asciiHalf ++
  "ÇüéâäàåçêëèïîìÄÅ" ++
  "ÉæÆôöòûùÿÖÜø£Ø×ƒ" ++
  "áíóúñÑªº¿®¬½¼¡«»" ++
  "░▒▓│┤ÁÂÀ©╣║╗╝¢¥┐" ++
  "└┴┬├─┼ãÃ╚╔╩╦╠═╬¤" ++
  "ðÐÊËÈ€ÍÎÏ┘┌█▄¦Ì▀" ++
  "ÓßÔÒõÕµþÞÚÛÙýÝ¯´" ++
  "\u00AD±‗¾¶§÷¸°¨·¹³²■\u00A0"⟩

/-- The characters of code page 860. -/
def cp860 : CodePage := ⟨
  asciiHalf ++
  "ÇüéâãàÁçêÊèÍÔìÃÂ" ++
  "ÉÀÈôõòÚùÌÕÜ¢£Ù₧Ó" ++
  "áíóúñÑªº¿Ò¬½¼¡«»" ++
  "░▒▓│┤╡╢╖╕╣║╗╝╜╛┐" ++
  "└┴┬├─┼╞╟╚╔╩╦╠═╬╧" ++
  "╨╤╥╙╘╒╓╫╪┘┌█▄▌▐▀" ++
  "αßΓπΣσµτΦΘΩδ∞φε∩" ++
  "≡±≥≤⌠⌡÷≈°∙·√ⁿ²■\u00A0"⟩

/-- The characters of code page 861. -/
def cp861 : CodePage := ⟨
  asciiHalf ++
  "ÇüéâäàåçêëèÐðÞÄÅ" ++
  "ÉæÆôöþûÝýÖÜø£Ø₧ƒ" ++
  "áíóúÁÍÓÚ¿⌐¬½¼¡«»" ++
  "░▒▓│┤╡╢╖╕╣║╗╝╜╛┐" ++
  "└┴┬├─┼╞╟╚╔╩╦╠═╬╧" ++
  "╨╤╥╙╘╒╓╫╪┘┌█▄▌▐▀" ++
  "αßΓπΣσµτΦΘΩδ∞φε∩" ++
  "≡±≥≤⌠⌡÷≈°∙·√ⁿ²■\u00A0"⟩

/-- The characters of code page 862. -/
def cp862 : CodePage := ⟨
  asciiHalf ++
  "אבגדהוזחטיךכלםמן" ++
  "נסעףפץצקרשת¢£¥₧ƒ" ++
  "áíóúñÑªº¿⌐¬½¼¡«»" ++
  "░▒▓│┤╡╢╖╕╣║╗╝╜╛┐" ++
  "└┴┬├─┼╞╟╚╔╩╦╠═╬╧" ++
  "╨╤╥╙╘╒╓╫╪┘┌█▄▌▐▀" ++
  "αßΓπΣσµτΦΘΩδ∞φε∩" ++
  "≡±≥≤⌠⌡÷≈°∙·√ⁿ²■\u00A0"⟩

/-- The characters of code page 863. -/
def cp863 : CodePage := ⟨
  asciiHalf ++
  "ÇüéâÂà¶çêëèïî‗À§" ++
  "ÉÈÊôËÏûù¤ÔÜ¢£ÙÛƒ" ++
  "¦´óú¨¸³¯Î⌐¬½¼¾«»" ++
  "░▒▓│┤╡╢╖╕╣║╗╝╜╛┐" ++
  "└┴┬├─┼╞╟╚╔╩╦╠═╬╧" ++
  "╨╤╥╙╘╒╓╫╪┘┌█▄▌▐▀" ++
  "αßΓπΣσµτΦΘΩδ∞φε∩" ++
  "≡±≥≤⌠⌡÷≈°∙·√ⁿ²■\u00A0"⟩

/-- The characters of code page 864. -/
def cp864 : CodePage := ⟨
  "\x00\x01\x02\x03\x04\x05\x06\x07\x08\x09\x0a\x0b\x0c\x0d\x0e\x0f" ++
  "\x10\x11\x12\x13\x14\x15\x16\x17\x18\x19\x1a\x1b\x1c\x1d\x1e\x1f" ++
  " !\"#$٪&\x27()*+,-./" ++
  "0123456789:;<=>?" ++
  "@ABCDEFGHIJKLMNO" ++
  "PQRSTUVWXYZ[\\]^_" ++
  "\x60abcdefghijklmno" ++
  "pqrstuvwxyz\x7b|\x7d~\x7f" ++
  "°·∙√▒─│┼┤┬├┴┐┌└┘" ++
  "β∞φ±½¼≈«»ﻷﻸ\uFFFE\uFFFEﻻﻼ\uFFFE" ++
  "\u00A0\u00ADﺂ£¤ﺄ\uFFFE\uFFFEﺎﺏﺕﺙ،ﺝﺡﺥ" ++
  "٠١٢٣٤٥٦٧٨٩ﻑ؛ﺱﺵﺹ؟" ++
  "¢ﺀﺁﺃﺅﻊﺋﺍﺑﺓﺗﺛﺟﺣﺧﺩ" ++
  "ﺫﺭﺯﺳﺷﺻﺿﻁﻅﻋﻏ¦¬÷×ﻉ" ++
  "ـﻓﻗﻛﻟﻣﻧﻫﻭﻯﻳﺽﻌﻎﻍﻡ" ++
  "ﹽ\u0651ﻥﻩﻬﻰﻲﻐﻕﻵﻶﻝﻙﻱ■\uFFFE"⟩

/-- The characters of code page 865. -/
def cp865 : CodePage := ⟨
  asciiHalf ++
  "ÇüéâäàåçêëèïîìÄÅ" ++
  "ÉæÆôöòûùÿÖÜø£Ø₧ƒ" ++
  "áíóúñÑªº¿⌐¬½¼¡«¤" ++
  "░▒▓│┤╡╢╖╕╣║╗╝╜╛┐" ++
  "└┴┬├─┼╞╟╚╔╩╦╠═╬╧" ++
  "╨╤╥╙╘╒╓╫╪┘┌█▄▌▐▀" ++
  "αßΓπΣσµτΦΘΩδ∞φε∩" ++
  "≡±≥≤⌠⌡÷≈°∙·√ⁿ²■\u00A0"⟩

/-- The characters of code page 866. -/
def cp866 : CodePage := ⟨
  asciiHalf ++
  "АБВГДЕЖЗИЙКЛМНОП" ++
  "РСТУФХЦЧШЩЪЫЬЭЮЯ" ++
  "абвгдежзийклмноп" ++
  "░▒▓│┤╡╢╖╕╣║╗╝╜╛┐" ++
  "└┴┬├─┼╞╟╚╔╩╦╠═╬╧" ++
  "╨╤╥╙╘╒╓╫╪┘┌█▄▌▐▀" ++
  "рстуфхцчшщъыьэюя" ++
  "ЁёЄєЇїЎў°∙·√№¤■\u00A0"⟩

/-- The characters of code page 869. -/
def cp869 : CodePage := ⟨
  asciiHalf ++
  "\uFFFE\uFFFE\uFFFE\uFFFE\uFFFE\uFFFEΆ\uFFFE·¬¦‘’Έ―Ή" ++
  "ΊΪΌ\uFFFE\uFFFEΎΫ©Ώ²³ά£έήί" ++
  "ϊΐόύΑΒΓΔΕΖΗ½ΘΙ«»" ++
  "░▒▓│┤ΚΛΜΝ╣║╗╝ΞΟ┐" ++
  "└┴┬├─┼ΠΡ╚╔╩╦╠═╬Σ" ++
  "ΤΥΦΧΨΩαβγ┘┌█▄δε▀" ++
  "ζηθικλμνξοπρσςτ΄" ++
  "\u00AD±υφχ§ψ΅°¨ωϋΰώ■\u00A0"⟩

/-- The characters of code page 1125. -/
def cp1125 : CodePage := ⟨
  asciiHalf ++
  "АБВГДЕЖЗИЙКЛМНОП" ++
  "РСТУФХЦЧШЩЪЫЬЭЮЯ" ++
  "абвгдежзийклмноп" ++
  "░▒▓│┤╡╢╖╕╣║╗╝╜╛┐" ++
  "└┴┬├─┼╞╟╚╔╩╦╠═╬╧" ++
  "╨╤╥╙╘╒╓╫╪┘┌█▄▌▐▀" ++
  "рстуфхцчшщъыьэюя" ++
  "ЁёҐґЄєІіЇї·√№¤■\u00A0"⟩

end CodePage

end ByteAsm
