import ByteAsm.Encoding.CodePage

/-!
# EBCDIC code pages

The code pages of IBM mainframes, whose letters and digits lie elsewhere than in ASCII: the
United States and Canada (37), Germany (273), Hebrew (424), international (500), Greek (875),
Turkish (1026), and 37 with the euro sign (1140).

Each table lists the characters of the bytes `00` to `FF` in rows of sixteen, the first eight
rows being ASCII where the lower half is.
-/

namespace ByteAsm

namespace CodePage

/-- The characters of code page 37. -/
def cp037 : CodePage := ⟨
  "\x00\x01\x02\x03\x9c\x09\x86\x7f\x97\x8d\x8e\x0b\x0c\x0d\x0e\x0f" ++
  "\x10\x11\x12\x13\x9d\x85\x08\x87\x18\x19\x92\x8f\x1c\x1d\x1e\x1f" ++
  "\x80\x81\x82\x83\x84\x0a\x17\x1b\x88\x89\x8a\x8b\x8c\x05\x06\x07" ++
  "\x90\x91\x16\x93\x94\x95\x96\x04\x98\x99\x9a\x9b\x14\x15\x9e\x1a" ++
  " \u00A0âäàáãåçñ¢.<(+|" ++
  "&éêëèíîïìß!$*);¬" ++
  "-/ÂÄÀÁÃÅÇÑ¦,%_>?" ++
  "øÉÊËÈÍÎÏÌ\x60:#@\x27=\"" ++
  "Øabcdefghi«»ðýþ±" ++
  "°jklmnopqrªºæ¸Æ¤" ++
  "µ~stuvwxyz¡¿ÐÝÞ®" ++
  "^£¥·©§¶¼½¾[]¯¨´×" ++
  "\x7bABCDEFGHI\u00ADôöòóõ" ++
  "\x7dJKLMNOPQR¹ûüùúÿ" ++
  "\\÷STUVWXYZ²ÔÖÒÓÕ" ++
  "0123456789³ÛÜÙÚ\x9f"⟩

/-- The characters of code page 273. -/
def cp273 : CodePage := ⟨
  "\x00\x01\x02\x03\x9c\x09\x86\x7f\x97\x8d\x8e\x0b\x0c\x0d\x0e\x0f" ++
  "\x10\x11\x12\x13\x9d\x85\x08\x87\x18\x19\x92\x8f\x1c\x1d\x1e\x1f" ++
  "\x80\x81\x82\x83\x84\x0a\x17\x1b\x88\x89\x8a\x8b\x8c\x05\x06\x07" ++
  "\x90\x91\x16\x93\x94\x95\x96\x04\x98\x99\x9a\x9b\x14\x15\x9e\x1a" ++
  " \u00A0â\x7bàáãåçñÄ.<(+!" ++
  "&éêëèíîïì~Ü$*);^" ++
  "-/Â[ÀÁÃÅÇÑö,%_>?" ++
  "øÉÊËÈÍÎÏÌ\x60:#§\x27=\"" ++
  "Øabcdefghi«»ðýþ±" ++
  "°jklmnopqrªºæ¸Æ¤" ++
  "µßstuvwxyz¡¿ÐÝÞ®" ++
  "¢£¥·©@¶¼½¾¬|‾¨´×" ++
  "äABCDEFGHI\u00ADô¦òóõ" ++
  "üJKLMNOPQR¹û\x7dùúÿ" ++
  "Ö÷STUVWXYZ²Ô\\ÒÓÕ" ++
  "0123456789³Û]ÙÚ\x9f"⟩

/-- The characters of code page 424. -/
def cp424 : CodePage := ⟨
  "\x00\x01\x02\x03\x9c\x09\x86\x7f\x97\x8d\x8e\x0b\x0c\x0d\x0e\x0f" ++
  "\x10\x11\x12\x13\x9d\x85\x08\x87\x18\x19\x92\x8f\x1c\x1d\x1e\x1f" ++
  "\x80\x81\x82\x83\x84\x0a\x17\x1b\x88\x89\x8a\x8b\x8c\x05\x06\x07" ++
  "\x90\x91\x16\x93\x94\x95\x96\x04\x98\x99\x9a\x9b\x14\x15\x9e\x1a" ++
  " אבגדהוזחט¢.<(+|" ++
  "&יךכלםמןנס!$*);¬" ++
  "-/עףפץצקרש¦,%_>?" ++
  "\uFFFEת\uFFFE\uFFFE\u00A0\uFFFE\uFFFE\uFFFE‗\x60:#@\x27=\"" ++
  "\uFFFEabcdefghi«»\uFFFE\uFFFE\uFFFE±" ++
  "°jklmnopqr\uFFFE\uFFFE\uFFFE¸\uFFFE¤" ++
  "µ~stuvwxyz\uFFFE\uFFFE\uFFFE\uFFFE\uFFFE®" ++
  "^£¥·©§¶¼½¾[]¯¨´×" ++
  "\x7bABCDEFGHI\u00AD\uFFFE\uFFFE\uFFFE\uFFFE\uFFFE" ++
  "\x7dJKLMNOPQR¹\uFFFE\uFFFE\uFFFE\uFFFE\uFFFE" ++
  "\\÷STUVWXYZ²\uFFFE\uFFFE\uFFFE\uFFFE\uFFFE" ++
  "0123456789³\uFFFE\uFFFE\uFFFE\uFFFE\x9f"⟩

/-- The characters of code page 500. -/
def cp500 : CodePage := ⟨
  "\x00\x01\x02\x03\x9c\x09\x86\x7f\x97\x8d\x8e\x0b\x0c\x0d\x0e\x0f" ++
  "\x10\x11\x12\x13\x9d\x85\x08\x87\x18\x19\x92\x8f\x1c\x1d\x1e\x1f" ++
  "\x80\x81\x82\x83\x84\x0a\x17\x1b\x88\x89\x8a\x8b\x8c\x05\x06\x07" ++
  "\x90\x91\x16\x93\x94\x95\x96\x04\x98\x99\x9a\x9b\x14\x15\x9e\x1a" ++
  " \u00A0âäàáãåçñ[.<(+!" ++
  "&éêëèíîïìß]$*);^" ++
  "-/ÂÄÀÁÃÅÇÑ¦,%_>?" ++
  "øÉÊËÈÍÎÏÌ\x60:#@\x27=\"" ++
  "Øabcdefghi«»ðýþ±" ++
  "°jklmnopqrªºæ¸Æ¤" ++
  "µ~stuvwxyz¡¿ÐÝÞ®" ++
  "¢£¥·©§¶¼½¾¬|¯¨´×" ++
  "\x7bABCDEFGHI\u00ADôöòóõ" ++
  "\x7dJKLMNOPQR¹ûüùúÿ" ++
  "\\÷STUVWXYZ²ÔÖÒÓÕ" ++
  "0123456789³ÛÜÙÚ\x9f"⟩

/-- The characters of code page 875. -/
def cp875 : CodePage := ⟨
  "\x00\x01\x02\x03\x9c\x09\x86\x7f\x97\x8d\x8e\x0b\x0c\x0d\x0e\x0f" ++
  "\x10\x11\x12\x13\x9d\x85\x08\x87\x18\x19\x92\x8f\x1c\x1d\x1e\x1f" ++
  "\x80\x81\x82\x83\x84\x0a\x17\x1b\x88\x89\x8a\x8b\x8c\x05\x06\x07" ++
  "\x90\x91\x16\x93\x94\x95\x96\x04\x98\x99\x9a\x9b\x14\x15\x9e\x1a" ++
  " ΑΒΓΔΕΖΗΘΙ[.<(+!" ++
  "&ΚΛΜΝΞΟΠΡΣ]$*);^" ++
  "-/ΤΥΦΧΨΩΪΫ|,%_>?" ++
  "¨ΆΈΉ\u00A0ΊΌΎΏ\x60:#@\x27=\"" ++
  "΅abcdefghiαβγδεζ" ++
  "°jklmnopqrηθικλμ" ++
  "´~stuvwxyzνξοπρσ" ++
  "£άέήϊίόύϋώςτυφχψ" ++
  "\x7bABCDEFGHI\u00ADωΐΰ‘―" ++
  "\x7dJKLMNOPQR±½\x1a·’¦" ++
  "\\\x1aSTUVWXYZ²§\x1a\x1a«¬" ++
  "0123456789³©\x1a\x1a»\x9f"⟩

/-- The characters of code page 1026. -/
def cp1026 : CodePage := ⟨
  "\x00\x01\x02\x03\x9c\x09\x86\x7f\x97\x8d\x8e\x0b\x0c\x0d\x0e\x0f" ++
  "\x10\x11\x12\x13\x9d\x85\x08\x87\x18\x19\x92\x8f\x1c\x1d\x1e\x1f" ++
  "\x80\x81\x82\x83\x84\x0a\x17\x1b\x88\x89\x8a\x8b\x8c\x05\x06\x07" ++
  "\x90\x91\x16\x93\x94\x95\x96\x04\x98\x99\x9a\x9b\x14\x15\x9e\x1a" ++
  " \u00A0âäàáãå\x7bñÇ.<(+!" ++
  "&éêëèíîïìßĞİ*);^" ++
  "-/ÂÄÀÁÃÅ[Ñş,%_>?" ++
  "øÉÊËÈÍÎÏÌı:ÖŞ\x27=Ü" ++
  "Øabcdefghi«»\x7d\x60¦±" ++
  "°jklmnopqrªºæ¸Æ¤" ++
  "µöstuvwxyz¡¿]$@®" ++
  "¢£¥·©§¶¼½¾¬|¯¨´×" ++
  "çABCDEFGHI\u00ADô~òóõ" ++
  "ğJKLMNOPQR¹û\\ùúÿ" ++
  "ü÷STUVWXYZ²Ô#ÒÓÕ" ++
  "0123456789³Û\"ÙÚ\x9f"⟩

/-- The characters of code page 1140. -/
def cp1140 : CodePage := ⟨
  "\x00\x01\x02\x03\x9c\x09\x86\x7f\x97\x8d\x8e\x0b\x0c\x0d\x0e\x0f" ++
  "\x10\x11\x12\x13\x9d\x85\x08\x87\x18\x19\x92\x8f\x1c\x1d\x1e\x1f" ++
  "\x80\x81\x82\x83\x84\x0a\x17\x1b\x88\x89\x8a\x8b\x8c\x05\x06\x07" ++
  "\x90\x91\x16\x93\x94\x95\x96\x04\x98\x99\x9a\x9b\x14\x15\x9e\x1a" ++
  " \u00A0âäàáãåçñ¢.<(+|" ++
  "&éêëèíîïìß!$*);¬" ++
  "-/ÂÄÀÁÃÅÇÑ¦,%_>?" ++
  "øÉÊËÈÍÎÏÌ\x60:#@\x27=\"" ++
  "Øabcdefghi«»ðýþ±" ++
  "°jklmnopqrªºæ¸Æ€" ++
  "µ~stuvwxyz¡¿ÐÝÞ®" ++
  "^£¥·©§¶¼½¾[]¯¨´×" ++
  "\x7bABCDEFGHI\u00ADôöòóõ" ++
  "\x7dJKLMNOPQR¹ûüùúÿ" ++
  "\\÷STUVWXYZ²ÔÖÒÓÕ" ++
  "0123456789³ÛÜÙÚ\x9f"⟩

end CodePage

end ByteAsm
