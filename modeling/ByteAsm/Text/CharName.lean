/-!
# Character names

The names of Unicode characters, version 14.0, by which a text escape may give a character. Most
names are listed. Two families are formed by rule: a Hangul syllable is named by the letters of
its initial consonant, vowel and final consonant, and a unified ideograph by its code point in
four or five upper-case hexadecimal digits. A listed name, or one of the aliases that correct or
abbreviate names, matches without regard to the case of ASCII letters; a name of the two families
matches only as written in upper case.

The letters of a syllable are read greedily: at each of the three places the longest letters
that fit are taken, the first of those of one length, and the name must end after the final.
-/

namespace ByteAsm

namespace Text

/-- Part 1 of `nameLines`. -/
def nameLinesPart1 : String :=
  "20:0.SPACE\n0.EXCLAMATION MARK\n0.QUOTATION MARK\n0.NUMBER SIGN\n0.DOLLAR SIGN\n0.PERCENT SIGN\n" ++
  "0.AMPERSAND\n1.POSTROPHE\n0.LEFT PARENTHESIS\n0.RIGHT PARENTHESIS\n0.ASTERISK\n0.PLUS SIGN\n0.COMMA\n" ++
  "0.HYPHEN-MINUS\n0.FULL STOP\n0.SOLIDUS\n0.DIGIT ZERO\n6.ONE\n6.TWO\n7.HREE\n6.FOUR\n7.IVE\n6.SIX\n" ++
  "7.EVEN\n6.EIGHT\n6.NINE\n0.COLON\n0.SEMICOLON\n0.LESS-THAN SIGN\n0.EQUALS SIGN\n0.GREATER-THAN SIGN\n" ++
  "0.QUESTION MARK\n0.COMMERCIAL AT\n0.LATIN CAPITAL LETTER A\n21.B\n21.C\n21.D\n21.E\n21.F\n21.G\n" ++
  "21.H\n21.I\n21.J\n21.K\n21.L\n21.M\n21.N\n21.O\n21.P\n21.Q\n21.R\n21.S\n21.T\n21.U\n21.V\n21.W\n" ++
  "21.X\n21.Y\n21.Z\n1.EFT SQUARE BRACKET\n0.REVERSE SOLIDUS\n1.IGHT SQUARE BRACKET\n0.CIRCUMFLEX ACCENT\n" ++
  "0.LOW LINE\n0.GRAVE ACCENT\n0.LATIN SMALL LETTER A\n19.B\n19.C\n19.D\n19.E\n19.F\n19.G\n19.H\n" ++
  "19.I\n19.J\n19.K\n19.L\n19.M\n19.N\n19.O\n19.P\n19.Q\n19.R\n19.S\n19.T\n19.U\n19.V\n19.W\n19.X\n" ++
  "19.Y\n19.Z\n1.EFT CURLY BRACKET\n0.VERTICAL LINE\n0.RIGHT CURLY BRACKET\n0.TILDE\nA0:0.NO-BREAK SPACE\n" ++
  "0.INVERTED EXCLAMATION MARK\n0.CENT SIGN\n0.POUND SIGN\n0.CURRENCY SIGN\n0.YEN SIGN\n0.BROKEN BAR\n" ++
  "0.SECTION SIGN\n0.DIAERESIS\n0.COPYRIGHT SIGN\n0.FEMININE ORDINAL INDICATOR\n0.LEFT-POINTING DOUBLE ANGLE QUOTATION MARK\n" ++
  "0.NOT SIGN\n0.SOFT HYPHEN\n0.REGISTERED SIGN\n0.MACRON\n0.DEGREE SIGN\n0.PLUS-MINUS SIGN\n0.SUPERSCRIPT TWO\n" ++
  "13.HREE\n0.ACUTE ACCENT\n0.MICRO SIGN\n0.PILCROW SIGN\n0.MIDDLE DOT\n0.CEDILLA\n0.SUPERSCRIPT ONE\n" ++
  "0.MASCULINE ORDINAL INDICATOR\n0.RIGHT-POINTING DOUBLE ANGLE QUOTATION MARK\n0.VULGAR FRACTION ONE QUARTER\n" ++
  "20.HALF\n16.THREE QUARTERS\n0.INVERTED QUESTION MARK\n0.LATIN CAPITAL LETTER A WITH GRAVE\n28.ACUTE\n" ++
  "28.CIRCUMFLEX\n28.TILDE\n28.DIAERESIS\n28.RING ABOVE\n22.E\n21.C WITH CEDILLA\n21.E WITH GRAVE\n" ++
  "28.ACUTE\n28.CIRCUMFLEX\n28.DIAERESIS\n21.I WITH GRAVE\n28.ACUTE\n28.CIRCUMFLEX\n28.DIAERESIS\n" ++
  "21.ETH\n21.N WITH TILDE\n21.O WITH GRAVE\n28.ACUTE\n28.CIRCUMFLEX\n28.TILDE\n28.DIAERESIS\n0.MULTIPLICATION SIGN\n" ++
  "0.LATIN CAPITAL LETTER O WITH STROKE\n21.U WITH GRAVE\n28.ACUTE\n28.CIRCUMFLEX\n28.DIAERESIS\n" ++
  "21.Y WITH ACUTE\n21.THORN\n6.SMALL LETTER SHARP S\n19.A WITH GRAVE\n26.ACUTE\n26.CIRCUMFLEX\n" ++
  "26.TILDE\n26.DIAERESIS\n26.RING ABOVE\n20.E\n19.C WITH CEDILLA\n19.E WITH GRAVE\n26.ACUTE\n26.CIRCUMFLEX\n" ++
  "26.DIAERESIS\n19.I WITH GRAVE\n26.ACUTE\n26.CIRCUMFLEX\n26.DIAERESIS\n19.ETH\n19.N WITH TILDE\n" ++
  "19.O WITH GRAVE\n26.ACUTE\n26.CIRCUMFLEX\n26.TILDE\n26.DIAERESIS\n0.DIVISION SIGN\n0.LATIN SMALL LETTER O WITH STROKE\n" ++
  "19.U WITH GRAVE\n26.ACUTE\n26.CIRCUMFLEX\n26.DIAERESIS\n19.Y WITH ACUTE\n19.THORN\n19.Y WITH DIAERESIS\n" ++
  "6.CAPITAL LETTER A WITH MACRON\n6.SMALL LETTER A WITH MACRON\n6.CAPITAL LETTER A WITH BREVE\n" ++
  "6.SMALL LETTER A WITH BREVE\n6.CAPITAL LETTER A WITH OGONEK\n6.SMALL LETTER A WITH OGONEK\n6.CAPITAL LETTER C WITH ACUTE\n" ++
  "6.SMALL LETTER C WITH ACUTE\n6.CAPITAL LETTER C WITH CIRCUMFLEX\n6.SMALL LETTER C WITH CIRCUMFLEX\n" ++
  "6.CAPITAL LETTER C WITH DOT ABOVE\n6.SMALL LETTER C WITH DOT ABOVE\n6.CAPITAL LETTER C WITH CARON\n" ++
  "6.SMALL LETTER C WITH CARON\n6.CAPITAL LETTER D WITH CARON\n6.SMALL LETTER D WITH CARON\n6.CAPITAL LETTER D WITH STROKE\n" ++
  "6.SMALL LETTER D WITH STROKE\n6.CAPITAL LETTER E WITH MACRON\n6.SMALL LETTER E WITH MACRON\n6.CAPITAL LETTER E WITH BREVE\n" ++
  "6.SMALL LETTER E WITH BREVE\n6.CAPITAL LETTER E WITH DOT ABOVE\n6.SMALL LETTER E WITH DOT ABOVE\n" ++
  "6.CAPITAL LETTER E WITH OGONEK\n6.SMALL LETTER E WITH OGONEK\n6.CAPITAL LETTER E WITH CARON\n" ++
  "6.SMALL LETTER E WITH CARON\n6.CAPITAL LETTER G WITH CIRCUMFLEX\n6.SMALL LETTER G WITH CIRCUMFLEX\n" ++
  "6.CAPITAL LETTER G WITH BREVE\n6.SMALL LETTER G WITH BREVE\n6.CAPITAL LETTER G WITH DOT ABOVE\n" ++
  "6.SMALL LETTER G WITH DOT ABOVE\n6.CAPITAL LETTER G WITH CEDILLA\n6.SMALL LETTER G WITH CEDILLA\n" ++
  "6.CAPITAL LETTER H WITH CIRCUMFLEX\n6.SMALL LETTER H WITH CIRCUMFLEX\n6.CAPITAL LETTER H WITH STROKE\n" ++
  "6.SMALL LETTER H WITH STROKE\n6.CAPITAL LETTER I WITH TILDE\n6.SMALL LETTER I WITH TILDE\n6.CAPITAL LETTER I WITH MACRON\n" ++
  "6.SMALL LETTER I WITH MACRON\n6.CAPITAL LETTER I WITH BREVE\n6.SMALL LETTER I WITH BREVE\n6.CAPITAL LETTER I WITH OGONEK\n" ++
  "6.SMALL LETTER I WITH OGONEK\n6.CAPITAL LETTER I WITH DOT ABOVE\n6.SMALL LETTER DOTLESS I\n6.CAPITAL LIGATURE IJ\n" ++
  "6.SMALL LIGATURE IJ\n6.CAPITAL LETTER J WITH CIRCUMFLEX\n6.SMALL LETTER J WITH CIRCUMFLEX\n6.CAPITAL LETTER K WITH CEDILLA\n" ++
  "6.SMALL LETTER K WITH CEDILLA\n20.RA\n6.CAPITAL LETTER L WITH ACUTE\n6.SMALL LETTER L WITH ACUTE\n" ++
  "6.CAPITAL LETTER L WITH CEDILLA\n6.SMALL LETTER L WITH CEDILLA\n6.CAPITAL LETTER L WITH CARON\n" ++
  "6.SMALL LETTER L WITH CARON\n6.CAPITAL LETTER L WITH MIDDLE DOT\n6.SMALL LETTER L WITH MIDDLE DOT\n" ++
  "6.CAPITAL LETTER L WITH STROKE\n6.SMALL LETTER L WITH STROKE\n6.CAPITAL LETTER N WITH ACUTE\n" ++
  "6.SMALL LETTER N WITH ACUTE\n6.CAPITAL LETTER N WITH CEDILLA\n6.SMALL LETTER N WITH CEDILLA\n" ++
  "6.CAPITAL LETTER N WITH CARON\n6.SMALL LETTER N WITH CARON\n21.PRECEDED BY APOSTROPHE\n6.CAPITAL LETTER ENG\n" ++
  "6.SMALL LETTER ENG\n6.CAPITAL LETTER O WITH MACRON\n6.SMALL LETTER O WITH MACRON\n6.CAPITAL LETTER O WITH BREVE\n" ++
  "6.SMALL LETTER O WITH BREVE\n6.CAPITAL LETTER O WITH DOUBLE ACUTE\n6.SMALL LETTER O WITH DOUBLE ACUTE\n" ++
  "6.CAPITAL LIGATURE OE\n6.SMALL LIGATURE OE\n6.CAPITAL LETTER R WITH ACUTE\n6.SMALL LETTER R WITH ACUTE\n" ++
  "6.CAPITAL LETTER R WITH CEDILLA\n6.SMALL LETTER R WITH CEDILLA\n6.CAPITAL LETTER R WITH CARON\n" ++
  "6.SMALL LETTER R WITH CARON\n6.CAPITAL LETTER S WITH ACUTE\n6.SMALL LETTER S WITH ACUTE\n6.CAPITAL LETTER S WITH CIRCUMFLEX\n" ++
  "6.SMALL LETTER S WITH CIRCUMFLEX\n6.CAPITAL LETTER S WITH CEDILLA\n6.SMALL LETTER S WITH CEDILLA\n" ++
  "6.CAPITAL LETTER S WITH CARON\n6.SMALL LETTER S WITH CARON\n6.CAPITAL LETTER T WITH CEDILLA\n" ++
  "6.SMALL LETTER T WITH CEDILLA\n6.CAPITAL LETTER T WITH CARON\n6.SMALL LETTER T WITH CARON\n6.CAPITAL LETTER T WITH STROKE\n" ++
  "6.SMALL LETTER T WITH STROKE\n6.CAPITAL LETTER U WITH TILDE\n6.SMALL LETTER U WITH TILDE\n6.CAPITAL LETTER U WITH MACRON\n" ++
  "6.SMALL LETTER U WITH MACRON\n6.CAPITAL LETTER U WITH BREVE\n6.SMALL LETTER U WITH BREVE\n6.CAPITAL LETTER U WITH RING ABOVE\n" ++
  "6.SMALL LETTER U WITH RING ABOVE\n6.CAPITAL LETTER U WITH DOUBLE ACUTE\n6.SMALL LETTER U WITH DOUBLE ACUTE\n" ++
  "6.CAPITAL LETTER U WITH OGONEK\n6.SMALL LETTER U WITH OGONEK\n6.CAPITAL LETTER W WITH CIRCUMFLEX\n" ++
  "6.SMALL LETTER W WITH CIRCUMFLEX\n6.CAPITAL LETTER Y WITH CIRCUMFLEX\n6.SMALL LETTER Y WITH CIRCUMFLEX\n" ++
  "6.CAPITAL LETTER Y WITH DIAERESIS\n21.Z WITH ACUTE\n6.SMALL LETTER Z WITH ACUTE\n6.CAPITAL LETTER Z WITH DOT ABOVE\n" ++
  "6.SMALL LETTER Z WITH DOT ABOVE\n6.CAPITAL LETTER Z WITH CARON\n6.SMALL LETTER Z WITH CARON\n" ++
  "19.LONG S\n19.B WITH STROKE\n6.CAPITAL LETTER B WITH HOOK\n28.TOPBAR\n6.SMALL LETTER B WITH TOPBAR\n" ++
  "6.CAPITAL LETTER TONE SIX\n6.SMALL LETTER TONE SIX\n6.CAPITAL LETTER OPEN O\n21.C WITH HOOK\n" ++
  "6.SMALL LETTER C WITH HOOK\n6.CAPITAL LETTER AFRICAN D\n21.D WITH HOOK\n28.TOPBAR\n6.SMALL LETTER D WITH TOPBAR\n" ++
  "19.TURNED DELTA\n6.CAPITAL LETTER REVERSED E\n21.SCHWA\n21.OPEN E\n21.F WITH HOOK\n6.SMALL LETTER F WITH HOOK\n" ++
  "6.CAPITAL LETTER G WITH HOOK\n22.AMMA\n6.SMALL LETTER HV\n6.CAPITAL LETTER IOTA\n22. WITH STROKE\n" ++
  "21.K WITH HOOK\n6.SMALL LETTER K WITH HOOK\n19.L WITH BAR\n20.AMBDA WITH STROKE\n6.CAPITAL LETTER TURNED M\n" ++
  "21.N WITH LEFT HOOK\n6.SMALL LETTER N WITH LONG RIGHT LEG\n6.CAPITAL LETTER O WITH MIDDLE TILDE\n" ++
  "28.HORN\n6.SMALL LETTER O WITH HORN\n6.CAPITAL LETTER OI\n6.SMALL LETTER OI\n6.CAPITAL LETTER P WITH HOOK\n" ++
  "6.SMALL LETTER P WITH HOOK\n6.LETTER YR\n6.CAPITAL LETTER TONE TWO\n6.SMALL LETTER TONE TWO\n" ++
  "6.CAPITAL LETTER ESH\n6.LETTER REVERSED ESH LOOP\n6.SMALL LETTER T WITH PALATAL HOOK\n6.CAPITAL LETTER T WITH HOOK\n" ++
  "6.SMALL LETTER T WITH HOOK\n6.CAPITAL LETTER T WITH RETROFLEX HOOK\n21.U WITH HORN\n6.SMALL LETTER U WITH HORN\n" ++
  "6.CAPITAL LETTER UPSILON\n21.V WITH HOOK\n21.Y WITH HOOK\n6.SMALL LETTER Y WITH HOOK\n6.CAPITAL LETTER Z WITH STROKE\n" ++
  "6.SMALL LETTER Z WITH STROKE\n6.CAPITAL LETTER EZH\n24. REVERSED\n6.SMALL LETTER EZH REVERSED\n" ++
  "23.WITH TAIL\n6.LETTER TWO WITH STROKE\n6.CAPITAL LETTER TONE FIVE\n6.SMALL LETTER TONE FIVE\n" ++
  "6.LETTER INVERTED GLOTTAL STOP WITH STROKE\n13.WYNN\n13.DENTAL CLICK\n13.LATERAL CLICK\n13.ALVEOLAR CLICK\n" ++
  "13.RETROFLEX CLICK\n6.CAPITAL LETTER DZ WITH CARON\n22. WITH SMALL LETTER Z WITH CARON\n6.SMALL LETTER DZ WITH CARON\n" ++
  "6.CAPITAL LETTER LJ\n22. WITH SMALL LETTER J\n6.SMALL LETTER LJ\n6.CAPITAL LETTER NJ\n22. WITH SMALL LETTER J\n" ++
  "6.SMALL LETTER NJ\n6.CAPITAL LETTER A WITH CARON\n6.SMALL LETTER A WITH CARON\n6.CAPITAL LETTER I WITH CARON\n" ++
  "6.SMALL LETTER I WITH CARON\n6.CAPITAL LETTER O WITH CARON\n6.SMALL LETTER O WITH CARON\n6.CAPITAL LETTER U WITH CARON\n" ++
  "6.SMALL LETTER U WITH CARON\n6.CAPITAL LETTER U WITH DIAERESIS AND MACRON\n6.SMALL LETTER U WITH DIAERESIS AND MACRON\n" ++
  "6.CAPITAL LETTER U WITH DIAERESIS AND ACUTE\n6.SMALL LETTER U WITH DIAERESIS AND ACUTE\n6.CAPITAL LETTER U WITH DIAERESIS AND CARON\n" ++
  "6.SMALL LETTER U WITH DIAERESIS AND CARON\n6.CAPITAL LETTER U WITH DIAERESIS AND GRAVE\n6.SMALL LETTER U WITH DIAERESIS AND GRAVE\n" ++
  "19.TURNED E\n6.CAPITAL LETTER A WITH DIAERESIS AND MACRON\n6.SMALL LETTER A WITH DIAERESIS AND MACRON\n" ++
  "6.CAPITAL LETTER A WITH DOT ABOVE AND MACRON\n6.SMALL LETTER A WITH DOT ABOVE AND MACRON\n6.CAPITAL LETTER AE WITH MACRON\n" ++
  "6.SMALL LETTER AE WITH MACRON\n6.CAPITAL LETTER G WITH STROKE\n6.SMALL LETTER G WITH STROKE\n" ++
  "6.CAPITAL LETTER G WITH CARON\n6.SMALL LETTER G WITH CARON\n6.CAPITAL LETTER K WITH CARON\n6.SMALL LETTER K WITH CARON\n" ++
  "6.CAPITAL LETTER O WITH OGONEK\n6.SMALL LETTER O WITH OGONEK\n6.CAPITAL LETTER O WITH OGONEK AND MACRON\n" ++
  "6.SMALL LETTER O WITH OGONEK AND MACRON\n6.CAPITAL LETTER EZH WITH CARON\n6.SMALL LETTER EZH WITH CARON\n" ++
  "19.J WITH CARON\n6.CAPITAL LETTER DZ\n22. WITH SMALL LETTER Z\n6.SMALL LETTER DZ\n6.CAPITAL LETTER G WITH ACUTE\n" ++
  "6.SMALL LETTER G WITH ACUTE\n6.CAPITAL LETTER HWAIR\n21.WYNN\n21.N WITH GRAVE\n6.SMALL LETTER N WITH GRAVE\n" ++
  "6.CAPITAL LETTER A WITH RING ABOVE AND ACUTE\n6.SMALL LETTER A WITH RING ABOVE AND ACUTE\n6.CAPITAL LETTER AE WITH ACUTE\n" ++
  "6.SMALL LETTER AE WITH ACUTE\n6.CAPITAL LETTER O WITH STROKE AND ACUTE\n6.SMALL LETTER O WITH STROKE AND ACUTE\n" ++
  "6.CAPITAL LETTER A WITH DOUBLE GRAVE\n6.SMALL LETTER A WITH DOUBLE GRAVE\n6.CAPITAL LETTER A WITH INVERTED BREVE\n" ++
  "6.SMALL LETTER A WITH INVERTED BREVE\n6.CAPITAL LETTER E WITH DOUBLE GRAVE\n6.SMALL LETTER E WITH DOUBLE GRAVE\n" ++
  "6.CAPITAL LETTER E WITH INVERTED BREVE\n6.SMALL LETTER E WITH INVERTED BREVE\n6.CAPITAL LETTER I WITH DOUBLE GRAVE\n" ++
  "6.SMALL LETTER I WITH DOUBLE GRAVE\n6.CAPITAL LETTER I WITH INVERTED BREVE\n6.SMALL LETTER I WITH INVERTED BREVE\n" ++
  "6.CAPITAL LETTER O WITH DOUBLE GRAVE\n6.SMALL LETTER O WITH DOUBLE GRAVE\n6.CAPITAL LETTER O WITH INVERTED BREVE\n" ++
  "6.SMALL LETTER O WITH INVERTED BREVE\n6.CAPITAL LETTER R WITH DOUBLE GRAVE\n6.SMALL LETTER R WITH DOUBLE GRAVE\n" ++
  "6.CAPITAL LETTER R WITH INVERTED BREVE\n6.SMALL LETTER R WITH INVERTED BREVE\n6.CAPITAL LETTER U WITH DOUBLE GRAVE\n" ++
  "6.SMALL LETTER U WITH DOUBLE GRAVE\n6.CAPITAL LETTER U WITH INVERTED BREVE\n6.SMALL LETTER U WITH INVERTED BREVE\n" ++
  "6.CAPITAL LETTER S WITH COMMA BELOW\n6.SMALL LETTER S WITH COMMA BELOW\n6.CAPITAL LETTER T WITH COMMA BELOW\n" ++
  "6.SMALL LETTER T WITH COMMA BELOW\n6.CAPITAL LETTER YOGH\n6.SMALL LETTER YOGH\n6.CAPITAL LETTER H WITH CARON\n" ++
  "6.SMALL LETTER H WITH CARON\n6.CAPITAL LETTER N WITH LONG RIGHT LEG\n6.SMALL LETTER D WITH CURL\n" ++
  "6.CAPITAL LETTER OU\n6.SMALL LETTER OU\n6.CAPITAL LETTER Z WITH HOOK\n6.SMALL LETTER Z WITH HOOK\n" ++
  "6.CAPITAL LETTER A WITH DOT ABOVE\n6.SMALL LETTER A WITH DOT ABOVE\n6.CAPITAL LETTER E WITH CEDILLA\n" ++
  "6.SMALL LETTER E WITH CEDILLA\n6.CAPITAL LETTER O WITH DIAERESIS AND MACRON\n6.SMALL LETTER O WITH DIAERESIS AND MACRON\n" ++
  "6.CAPITAL LETTER O WITH TILDE AND MACRON\n6.SMALL LETTER O WITH TILDE AND MACRON\n6.CAPITAL LETTER O WITH DOT ABOVE\n" ++
  "6.SMALL LETTER O WITH DOT ABOVE\n6.CAPITAL LETTER O WITH DOT ABOVE AND MACRON\n6.SMALL LETTER O WITH DOT ABOVE AND MACRON\n" ++
  "6.CAPITAL LETTER Y WITH MACRON\n6.SMALL LETTER Y WITH MACRON\n19.L WITH CURL\n19.N WITH CURL\n" ++
  "19.T WITH CURL\n19.DOTLESS J\n20.B DIGRAPH\n19.QP DIGRAPH\n6.CAPITAL LETTER A WITH STROKE\n21.C WITH STROKE\n" ++
  "6.SMALL LETTER C WITH STROKE\n6.CAPITAL LETTER L WITH BAR\n21.T WITH DIAGONAL STROKE\n6.SMALL LETTER S WITH SWASH TAIL\n" ++
  "19.Z WITH SWASH TAIL\n6.CAPITAL LETTER GLOTTAL STOP\n6.SMALL LETTER GLOTTAL STOP\n6.CAPITAL LETTER B WITH STROKE\n" ++
  "21.U BAR\n21.TURNED V\n21.E WITH STROKE\n6.SMALL LETTER E WITH STROKE\n6.CAPITAL LETTER J WITH STROKE\n" ++
  "6.SMALL LETTER J WITH STROKE\n6.CAPITAL LETTER SMALL Q WITH HOOK TAIL\n6.SMALL LETTER Q WITH HOOK TAIL\n" ++
  "6.CAPITAL LETTER R WITH STROKE\n6.SMALL LETTER R WITH STROKE\n6.CAPITAL LETTER Y WITH STROKE\n" ++
  "6.SMALL LETTER Y WITH STROKE\n19.TURNED A\n19.ALPHA\n19.TURNED ALPHA\n19.B WITH HOOK\n19.OPEN O\n" ++
  "19.C WITH CURL\n19.D WITH TAIL\n26.HOOK\n19.REVERSED E\n19.SCHWA\n24. WITH HOOK\n19.OPEN E\n19.REVERSED OPEN E\n" ++
  "34. WITH HOOK\n19.CLOSED REVERSED OPEN E\n19.DOTLESS J WITH STROKE\n19.G WITH HOOK\n19.SCRIPT G\n" ++
  "6.LETTER SMALL CAPITAL G\n6.SMALL LETTER GAMMA\n19.RAMS HORN\n19.TURNED H\n19.H WITH HOOK\n20.ENG WITH HOOK\n" ++
  "19.I WITH STROKE\n20.OTA\n6.LETTER SMALL CAPITAL I\n6.SMALL LETTER L WITH MIDDLE TILDE\n26.BELT\n" ++
  "26.RETROFLEX HOOK\n20.EZH\n19.TURNED M\n27. WITH LONG LEG\n19.M WITH HOOK\n19.N WITH LEFT HOOK\n" ++
  "26.RETROFLEX HOOK\n6.LETTER SMALL CAPITAL N\n6.SMALL LETTER BARRED O\n6.LETTER SMALL CAPITAL OE\n" ++
  "6.SMALL LETTER CLOSED OMEGA\n19.PHI\n19.TURNED R\n27. WITH LONG LEG\n33.HOOK\n19.R WITH LONG LEG\n" ++
  "26.TAIL\n26.FISHHOOK\n20.EVERSED R WITH FISHHOOK\n6.LETTER SMALL CAPITAL R\n27.INVERTED R\n6.SMALL LETTER S WITH HOOK\n" ++
  "19.ESH\n19.DOTLESS J WITH STROKE AND HOOK\n19.SQUAT REVERSED ESH\n19.ESH WITH CURL\n19.TURNED T\n" ++
  "20. WITH RETROFLEX HOOK\n19.U BAR\n20.PSILON\n19.V WITH HOOK\n19.TURNED V\n26.W\n26.Y\n6.LETTER SMALL CAPITAL Y\n" ++
  "6.SMALL LETTER Z WITH RETROFLEX HOOK\n26.CURL\n19.EZH\n22. WITH CURL\n6.LETTER GLOTTAL STOP\n" ++
  "13.PHARYNGEAL VOICED FRICATIVE\n13.INVERTED GLOTTAL STOP\n13.STRETCHED C\n13.BILABIAL CLICK\n" ++
  "13.SMALL CAPITAL B\n6.SMALL LETTER CLOSED OPEN E\n6.LETTER SMALL CAPITAL G WITH HOOK\n27.H\n6.SMALL LETTER J WITH CROSSED-TAIL\n" ++
  "19.TURNED K\n6.LETTER SMALL CAPITAL L\n6.SMALL LETTER Q WITH HOOK\n6.LETTER GLOTTAL STOP WITH STROKE\n" ++
  "13.REVERSED GLOTTAL STOP WITH STROKE\n6.SMALL LETTER DZ DIGRAPH\n20.EZH DIGRAPH\n20.Z DIGRAPH WITH CURL\n" ++
  "19.TS DIGRAPH\n20.ESH DIGRAPH\n20.C DIGRAPH WITH CURL\n19.FENG DIGRAPH\n19.LS DIGRAPH\n20.Z DIGRAPH\n" ++
  "6.LETTER BILABIAL PERCUSSIVE\n15.DENTAL PERCUSSIVE\n6.SMALL LETTER TURNED H WITH FISHHOOK\n41. AND TAIL\n" ++
  "0.MODIFIER LETTER SMALL H\n23. WITH HOOK\n22.J\n22.R\n22.TURNED R\n30. WITH HOOK\n22.CAPITAL INVERTED R\n" ++
  "22.W\n22.Y\n16.PRIME\n16.DOUBLE PRIME\n16.TURNED COMMA\n16.APOSTROPHE\n16.REVERSED COMMA\n17.IGHT HALF RING\n" ++
  "16.LEFT HALF RING\n16.GLOTTAL STOP\n16.REVERSED GLOTTAL STOP\n16.LEFT ARROWHEAD\n16.RIGHT ARROWHEAD\n" ++
  "16.UP ARROWHEAD\n16.DOWN ARROWHEAD\n16.CIRCUMFLEX ACCENT\n0.CARON\n0.MODIFIER LETTER VERTICAL LINE\n" ++
  "16.MACRON\n16.ACUTE ACCENT\n16.GRAVE ACCENT\n16.LOW VERTICAL LINE\n20.MACRON\n20.GRAVE ACCENT\n" ++
  "20.ACUTE ACCENT\n16.TRIANGULAR COLON\n16.HALF TRIANGULAR COLON\n16.CENTRED RIGHT HALF RING\n24.LEFT HALF RING\n" ++
  "16.UP TACK\n16.DOWN TACK\n16.PLUS SIGN\n16.MINUS SIGN\n0.BREVE\n0.DOT ABOVE\n0.RING ABOVE\n0.OGONEK\n" ++
  "0.SMALL TILDE\n0.DOUBLE ACUTE ACCENT\n0.MODIFIER LETTER RHOTIC HOOK\n16.CROSS ACCENT\n16.SMALL GAMMA\n" ++
  "22.L\n22.S\n22.X\n22.REVERSED GLOTTAL STOP\n16.EXTRA-HIGH TONE BAR\n16.HIGH TONE BAR\n16.MID TONE BAR\n" ++
  "16.LOW TONE BAR\n16.EXTRA-LOW TONE BAR\n16.YIN DEPARTING TONE MARK\n17.ANG DEPARTING TONE MARK\n" ++
  "16.VOICING\n16.UNASPIRATED\n16.DOUBLE APOSTROPHE\n16.LOW DOWN ARROWHEAD\n20.UP ARROWHEAD\n20.LEFT ARROWHEAD\n" ++
  "20.RIGHT ARROWHEAD\n22.NG\n16.MIDDLE GRAVE ACCENT\n23.DOUBLE GRAVE ACCENT\n30.ACUTE ACCENT\n16.LOW TILDE\n" ++
  "16.RAISED COLON\n16.BEGIN HIGH TONE\n16.END HIGH TONE\n16.BEGIN LOW TONE\n16.END LOW TONE\n16.SHELF\n" ++
  "16.OPEN SHELF\n16.LOW LEFT ARROW\n0.COMBINING GRAVE ACCENT\n10.ACUTE ACCENT\n10.CIRCUMFLEX ACCENT\n" ++
  "10.TILDE\n10.MACRON\n10.OVERLINE\n10.BREVE\n10.DOT ABOVE\n11.IAERESIS\n10.HOOK ABOVE\n10.RING ABOVE\n" ++
  "10.DOUBLE ACUTE ACCENT\n10.CARON\n10.VERTICAL LINE ABOVE\n10.DOUBLE VERTICAL LINE ABOVE\n17.GRAVE ACCENT\n" ++
  "10.CANDRABINDU\n10.INVERTED BREVE\n10.TURNED COMMA ABOVE\n10.COMMA ABOVE\n10.REVERSED COMMA ABOVE\n" ++
  "10.COMMA ABOVE RIGHT\n10.GRAVE ACCENT BELOW\n10.ACUTE ACCENT BELOW\n10.LEFT TACK BELOW\n10.RIGHT TACK BELOW\n" ++
  "10.LEFT ANGLE ABOVE\n10.HORN\n10.LEFT HALF RING BELOW\n10.UP TACK BELOW\n10.DOWN TACK BELOW\n" ++
  "10.PLUS SIGN BELOW\n10.MINUS SIGN BELOW\n10.PALATALIZED HOOK BELOW\n10.RETROFLEX HOOK BELOW\n" ++
  "10.DOT BELOW\n11.IAERESIS BELOW\n10.RING BELOW\n10.COMMA BELOW\n11.EDILLA\n10.OGONEK\n10.VERTICAL LINE BELOW\n" ++
  "10.BRIDGE BELOW\n10.INVERTED DOUBLE ARCH BELOW\n10.CARON BELOW\n11.IRCUMFLEX ACCENT BELOW\n10.BREVE BELOW\n" ++
  "10.INVERTED BREVE BELOW\n10.TILDE BELOW\n10.MACRON BELOW\n10.LOW LINE\n10.DOUBLE LOW LINE\n10.TILDE OVERLAY\n" ++
  "10.SHORT STROKE OVERLAY\n10.LONG STROKE OVERLAY\n10.SHORT SOLIDUS OVERLAY\n10.LONG SOLIDUS OVERLAY\n" ++
  "10.RIGHT HALF RING BELOW\n10.INVERTED BRIDGE BELOW\n10.SQUARE BELOW\n11.EAGULL BELOW\n10.X ABOVE\n" ++
  "10.VERTICAL TILDE\n10.DOUBLE OVERLINE\n10.GRAVE TONE MARK\n10.ACUTE TONE MARK\n10.GREEK PERISPOMENI\n" ++
  "16.KORONIS\n16.DIALYTIKA TONOS\n16.YPOGEGRAMMENI\n10.BRIDGE ABOVE\n10.EQUALS SIGN BELOW\n10.DOUBLE VERTICAL LINE BELOW\n" ++
  "10.LEFT ANGLE BELOW\n10.NOT TILDE ABOVE\n10.HOMOTHETIC ABOVE\n10.ALMOST EQUAL TO ABOVE\n10.LEFT RIGHT ARROW BELOW\n" ++
  "10.UPWARDS ARROW BELOW\n10.GRAPHEME JOINER\n10.RIGHT ARROWHEAD ABOVE\n10.LEFT HALF RING ABOVE\n" ++
  "10.FERMATA\n10.X BELOW\n10.LEFT ARROWHEAD BELOW\n10.RIGHT ARROWHEAD BELOW\n26.AND UP ARROWHEAD BELOW\n" ++
  "16.HALF RING ABOVE\n10.DOT ABOVE RIGHT\n10.ASTERISK BELOW\n10.DOUBLE RING BELOW\n10.ZIGZAG ABOVE\n" ++
  "10.DOUBLE BREVE BELOW\n22.\n17.MACRON\n23. BELOW\n17.TILDE\n17.INVERTED BREVE\n17.RIGHTWARDS ARROW BELOW\n" ++
  "10.LATIN SMALL LETTER A\n29.E\n29.I\n29.O\n29.U\n29.C\n29.D\n29.H\n29.M\n29.R\n29.T\n29.V\n29.X\n" ++
  "0.GREEK CAPITAL LETTER HETA\n6.SMALL LETTER HETA\n6.CAPITAL LETTER ARCHAIC SAMPI\n6.SMALL LETTER ARCHAIC SAMPI\n" ++
  "6.NUMERAL SIGN\n6.LOWER NUMERAL SIGN\n6.CAPITAL LETTER PAMPHYLIAN DIGAMMA\n6.SMALL LETTER PAMPHYLIAN DIGAMMA\n" ++
  "37A:6.YPOGEGRAMMENI\n6.SMALL REVERSED LUNATE SIGMA SYMBOL\n12.DOTTED LUNATE SIGMA SYMBOL\n12.REVERSED DOTTED LUNATE SIGMA SYMBOL\n" ++
  "6.QUESTION MARK\n6.CAPITAL LETTER YOT\n384:6.TONOS\n6.DIALYTIKA TONOS\n6.CAPITAL LETTER ALPHA WITH TONOS\n" ++
  "6.ANO TELEIA\n6.CAPITAL LETTER EPSILON WITH TONOS\n22.TA WITH TONOS\n21.IOTA WITH TONOS\n38C:21.OMICRON WITH TONOS\n" ++
  "38E:21.UPSILON WITH TONOS\n21.OMEGA WITH TONOS\n6.SMALL LETTER IOTA WITH DIALYTIKA AND TONOS\n" ++
  "6.CAPITAL LETTER ALPHA\n21.BETA\n21.GAMMA\n21.DELTA\n21.EPSILON\n21.ZETA\n21.ETA\n21.THETA\n21.IOTA\n" ++
  "21.KAPPA\n21.LAMDA\n21.MU\n21.NU\n21.XI\n21.OMICRON\n21.PI\n21.RHO\n3A3:21.SIGMA\n21.TAU\n21.UPSILON\n" ++
  "21.PHI\n21.CHI\n21.PSI\n21.OMEGA\n21.IOTA WITH DIALYTIKA\n21.UPSILON WITH DIALYTIKA\n6.SMALL LETTER ALPHA WITH TONOS\n" ++
  "19.EPSILON WITH TONOS\n20.TA WITH TONOS\n19.IOTA WITH TONOS\n19.UPSILON WITH DIALYTIKA AND TONOS\n" ++
  "19.ALPHA\n19.BETA\n19.GAMMA\n19.DELTA\n19.EPSILON\n19.ZETA\n19.ETA\n19.THETA\n19.IOTA\n19.KAPPA\n" ++
  "19.LAMDA\n19.MU\n19.NU\n19.XI\n19.OMICRON\n19.PI\n19.RHO\n19.FINAL SIGMA\n19.SIGMA\n19.TAU\n19.UPSILON\n" ++
  "19.PHI\n19.CHI\n19.PSI\n19.OMEGA\n19.IOTA WITH DIALYTIKA\n19.UPSILON WITH DIALYTIKA\n19.OMICRON WITH TONOS\n" ++
  "19.UPSILON WITH TONOS\n19.OMEGA WITH TONOS\n6.CAPITAL KAI SYMBOL\n6.BETA SYMBOL\n6.THETA SYMBOL\n" ++
  "6.UPSILON WITH HOOK SYMBOL\n19.ACUTE AND HOOK SYMBOL\n19.DIAERESIS AND HOOK SYMBOL\n6.PHI SYMBOL\n" ++
  "7.I SYMBOL\n6.KAI SYMBOL\n6.LETTER ARCHAIC KOPPA\n6.SMALL LETTER ARCHAIC KOPPA\n6.LETTER STIGMA\n" ++
  "6.SMALL LETTER STIGMA\n6.LETTER DIGAMMA\n6.SMALL LETTER DIGAMMA\n6.LETTER KOPPA\n6.SMALL LETTER KOPPA\n" ++
  "6.LETTER SAMPI\n6.SMALL LETTER SAMPI\n0.COPTIC CAPITAL LETTER SHEI\n7.SMALL LETTER SHEI\n7.CAPITAL LETTER FEI\n" ++
  "7.SMALL LETTER FEI\n7.CAPITAL LETTER KHEI\n7.SMALL LETTER KHEI\n7.CAPITAL LETTER HORI\n7.SMALL LETTER HORI\n" ++
  "7.CAPITAL LETTER GANGIA\n7.SMALL LETTER GANGIA\n7.CAPITAL LETTER SHIMA\n7.SMALL LETTER SHIMA\n" ++
  "7.CAPITAL LETTER DEI\n7.SMALL LETTER DEI\n0.GREEK KAPPA SYMBOL\n6.RHO SYMBOL\n6.LUNATE SIGMA SYMBOL\n" ++
  "7.ETTER YOT\n6.CAPITAL THETA SYMBOL\n6.LUNATE EPSILON SYMBOL\n6.REVERSED LUNATE EPSILON SYMBOL\n" ++
  "6.CAPITAL LETTER SHO\n6.SMALL LETTER SHO\n6.CAPITAL LUNATE SIGMA SYMBOL\n15.ETTER SAN\n6.SMALL LETTER SAN\n" ++
  "6.RHO WITH STROKE SYMBOL\n6.CAPITAL REVERSED LUNATE SIGMA SYMBOL\n14.DOTTED LUNATE SIGMA SYMBOL\n" ++
  "14.REVERSED DOTTED LUNATE SIGMA SYMBOL\n0.CYRILLIC CAPITAL LETTER IE WITH GRAVE\n25.O\n24.DJE\n" ++
  "24.GJE\n24.UKRAINIAN IE\n24.DZE\n24.BYELORUSSIAN-UKRAINIAN I\n24.YI\n24.JE\n24.LJE\n24.NJE\n24.TSHE\n" ++
  "24.KJE\n24.I WITH GRAVE\n24.SHORT U\n24.DZHE\n24.A\n24.BE\n24.VE\n24.GHE\n24.DE\n24.IE\n24.ZHE\n" ++
  "25.E\n24.I\n24.SHORT I\n24.KA\n24.EL\n25.M\n25.N\n24.O\n24.PE\n24.ER\n25.S\n24.TE\n24.U\n24.EF\n" ++
  "24.HA\n24.TSE\n24.CHE\n24.SHA\n26.CHA\n24.HARD SIGN\n24.YERU\n24.SOFT SIGN\n24.E\n24.YU\n25.A\n" ++
  "9.SMALL LETTER A\n22.BE\n22.VE\n22.GHE\n22.DE\n22.IE\n22.ZHE\n23.E\n22.I\n22.SHORT I\n22.KA\n" ++
  "22.EL\n23.M\n23.N\n22.O\n22.PE\n22.ER\n23.S\n22.TE\n22.U\n22.EF\n22.HA\n22.TSE\n22.CHE\n22.SHA\n" ++
  "24.CHA\n22.HARD SIGN\n22.YERU\n22.SOFT SIGN\n22.E\n22.YU\n23.A\n22.IE WITH GRAVE\n23.O\n22.DJE\n" ++
  "22.GJE\n22.UKRAINIAN IE\n22.DZE\n22.BYELORUSSIAN-UKRAINIAN I\n22.YI\n22.JE\n22.LJE\n22.NJE\n22.TSHE\n" ++
  "22.KJE\n22.I WITH GRAVE\n22.SHORT U\n22.DZHE\n9.CAPITAL LETTER OMEGA\n9.SMALL LETTER OMEGA\n9.CAPITAL LETTER YAT\n" ++
  "9.SMALL LETTER YAT\n9.CAPITAL LETTER IOTIFIED E\n9.SMALL LETTER IOTIFIED E\n9.CAPITAL LETTER LITTLE YUS\n" ++
  "9.SMALL LETTER LITTLE YUS\n9.CAPITAL LETTER IOTIFIED LITTLE YUS\n9.SMALL LETTER IOTIFIED LITTLE YUS\n" ++
  "9.CAPITAL LETTER BIG YUS\n9.SMALL LETTER BIG YUS\n9.CAPITAL LETTER IOTIFIED BIG YUS\n9.SMALL LETTER IOTIFIED BIG YUS\n" ++
  "9.CAPITAL LETTER KSI\n9.SMALL LETTER KSI\n9.CAPITAL LETTER PSI\n9.SMALL LETTER PSI\n9.CAPITAL LETTER FITA\n" ++
  "9.SMALL LETTER FITA\n9.CAPITAL LETTER IZHITSA\n9.SMALL LETTER IZHITSA\n9.CAPITAL LETTER IZHITSA WITH DOUBLE GRAVE ACCENT\n" ++
  "9.SMALL LETTER IZHITSA WITH DOUBLE GRAVE ACCENT\n9.CAPITAL LETTER UK\n9.SMALL LETTER UK\n9.CAPITAL LETTER ROUND OMEGA\n" ++
  "9.SMALL LETTER ROUND OMEGA\n9.CAPITAL LETTER OMEGA WITH TITLO\n9.SMALL LETTER OMEGA WITH TITLO\n" ++
  "9.CAPITAL LETTER OT\n9.SMALL LETTER OT\n9.CAPITAL LETTER KOPPA\n9.SMALL LETTER KOPPA\n9.THOUSANDS SIGN\n" ++
  "1.OMBINING CYRILLIC TITLO\n19.PALATALIZATION\n19.DASIA PNEUMATA\n19.PSILI PNEUMATA\n20.OKRYTIE\n" ++
  "19.HUNDRED THOUSANDS SIGN\n19.MILLIONS SIGN\n1.YRILLIC CAPITAL LETTER SHORT I WITH TAIL\n9.SMALL LETTER SHORT I WITH TAIL\n" ++
  "9.CAPITAL LETTER SEMISOFT SIGN\n9.SMALL LETTER SEMISOFT SIGN\n9.CAPITAL LETTER ER WITH TICK\n" ++
  "9.SMALL LETTER ER WITH TICK\n9.CAPITAL LETTER GHE WITH UPTURN\n9.SMALL LETTER GHE WITH UPTURN\n" ++
  "9.CAPITAL LETTER GHE WITH STROKE\n9.SMALL LETTER GHE WITH STROKE\n9.CAPITAL LETTER GHE WITH MIDDLE HOOK\n" ++
  "9.SMALL LETTER GHE WITH MIDDLE HOOK\n9.CAPITAL LETTER ZHE WITH DESCENDER\n9.SMALL LETTER ZHE WITH DESCENDER\n" ++
  "9.CAPITAL LETTER ZE WITH DESCENDER\n9.SMALL LETTER ZE WITH DESCENDER\n9.CAPITAL LETTER KA WITH DESCENDER\n" ++
  "9.SMALL LETTER KA WITH DESCENDER\n9.CAPITAL LETTER KA WITH VERTICAL STROKE\n9.SMALL LETTER KA WITH VERTICAL STROKE\n" ++
  "9.CAPITAL LETTER KA WITH STROKE\n9.SMALL LETTER KA WITH STROKE\n9.CAPITAL LETTER BASHKIR KA\n" ++
  "9.SMALL LETTER BASHKIR KA\n9.CAPITAL LETTER EN WITH DESCENDER\n9.SMALL LETTER EN WITH DESCENDER\n" ++
  "9.CAPITAL LIGATURE EN GHE\n9.SMALL LIGATURE EN GHE\n9.CAPITAL LETTER PE WITH MIDDLE HOOK\n9.SMALL LETTER PE WITH MIDDLE HOOK\n" ++
  "9.CAPITAL LETTER ABKHASIAN HA\n9.SMALL LETTER ABKHASIAN HA\n9.CAPITAL LETTER ES WITH DESCENDER\n" ++
  "9.SMALL LETTER ES WITH DESCENDER\n9.CAPITAL LETTER TE WITH DESCENDER\n9.SMALL LETTER TE WITH DESCENDER\n" ++
  "9.CAPITAL LETTER STRAIGHT U\n9.SMALL LETTER STRAIGHT U\n9.CAPITAL LETTER STRAIGHT U WITH STROKE\n" ++
  "9.SMALL LETTER STRAIGHT U WITH STROKE\n9.CAPITAL LETTER HA WITH DESCENDER\n9.SMALL LETTER HA WITH DESCENDER\n" ++
  "9.CAPITAL LIGATURE TE TSE\n9.SMALL LIGATURE TE TSE\n9.CAPITAL LETTER CHE WITH DESCENDER\n9.SMALL LETTER CHE WITH DESCENDER\n" ++
  "9.CAPITAL LETTER CHE WITH VERTICAL STROKE\n9.SMALL LETTER CHE WITH VERTICAL STROKE\n9.CAPITAL LETTER SHHA\n" ++
  "9.SMALL LETTER SHHA\n9.CAPITAL LETTER ABKHASIAN CHE\n9.SMALL LETTER ABKHASIAN CHE\n9.CAPITAL LETTER ABKHASIAN CHE WITH DESCENDER\n" ++
  "9.SMALL LETTER ABKHASIAN CHE WITH DESCENDER\n9.LETTER PALOCHKA\n9.CAPITAL LETTER ZHE WITH BREVE\n" ++
  "9.SMALL LETTER ZHE WITH BREVE\n9.CAPITAL LETTER KA WITH HOOK\n9.SMALL LETTER KA WITH HOOK\n9.CAPITAL LETTER EL WITH TAIL\n" ++
  "9.SMALL LETTER EL WITH TAIL\n9.CAPITAL LETTER EN WITH HOOK\n9.SMALL LETTER EN WITH HOOK\n9.CAPITAL LETTER EN WITH TAIL\n" ++
  "9.SMALL LETTER EN WITH TAIL\n9.CAPITAL LETTER KHAKASSIAN CHE\n9.SMALL LETTER KHAKASSIAN CHE\n" ++
  "9.CAPITAL LETTER EM WITH TAIL\n9.SMALL LETTER EM WITH TAIL\n22.PALOCHKA\n9.CAPITAL LETTER A WITH BREVE\n" ++
  "9.SMALL LETTER A WITH BREVE\n9.CAPITAL LETTER A WITH DIAERESIS\n9.SMALL LETTER A WITH DIAERESIS\n" ++
  "9.CAPITAL LIGATURE A IE\n9.SMALL LIGATURE A IE\n9.CAPITAL LETTER IE WITH BREVE\n9.SMALL LETTER IE WITH BREVE\n" ++
  "9.CAPITAL LETTER SCHWA\n9.SMALL LETTER SCHWA\n9.CAPITAL LETTER SCHWA WITH DIAERESIS\n9.SMALL LETTER SCHWA WITH DIAERESIS\n" ++
  "9.CAPITAL LETTER ZHE WITH DIAERESIS\n9.SMALL LETTER ZHE WITH DIAERESIS\n9.CAPITAL LETTER ZE WITH DIAERESIS\n" ++
  "9.SMALL LETTER ZE WITH DIAERESIS\n9.CAPITAL LETTER ABKHASIAN DZE\n9.SMALL LETTER ABKHASIAN DZE\n" ++
  "9.CAPITAL LETTER I WITH MACRON\n9.SMALL LETTER I WITH MACRON\n9.CAPITAL LETTER I WITH DIAERESIS\n" ++
  "9.SMALL LETTER I WITH DIAERESIS\n9.CAPITAL LETTER O WITH DIAERESIS\n9.SMALL LETTER O WITH DIAERESIS\n" ++
  "9.CAPITAL LETTER BARRED O\n9.SMALL LETTER BARRED O\n9.CAPITAL LETTER BARRED O WITH DIAERESIS\n" ++
  "9.SMALL LETTER BARRED O WITH DIAERESIS\n9.CAPITAL LETTER E WITH DIAERESIS\n9.SMALL LETTER E WITH DIAERESIS\n" ++
  "9.CAPITAL LETTER U WITH MACRON\n9.SMALL LETTER U WITH MACRON\n9.CAPITAL LETTER U WITH DIAERESIS\n" ++
  "9.SMALL LETTER U WITH DIAERESIS\n9.CAPITAL LETTER U WITH DOUBLE ACUTE\n9.SMALL LETTER U WITH DOUBLE ACUTE\n" ++
  "9.CAPITAL LETTER CHE WITH DIAERESIS\n9.SMALL LETTER CHE WITH DIAERESIS\n9.CAPITAL LETTER GHE WITH DESCENDER\n" ++
  "9.SMALL LETTER GHE WITH DESCENDER\n9.CAPITAL LETTER YERU WITH DIAERESIS\n9.SMALL LETTER YERU WITH DIAERESIS\n" ++
  "9.CAPITAL LETTER GHE WITH STROKE AND HOOK\n9.SMALL LETTER GHE WITH STROKE AND HOOK\n9.CAPITAL LETTER HA WITH HOOK\n" ++
  "9.SMALL LETTER HA WITH HOOK\n9.CAPITAL LETTER HA WITH STROKE\n9.SMALL LETTER HA WITH STROKE\n" ++
  "9.CAPITAL LETTER KOMI DE\n9.SMALL LETTER KOMI DE\n9.CAPITAL LETTER KOMI DJE\n9.SMALL LETTER KOMI DJE\n" ++
  "9.CAPITAL LETTER KOMI ZJE\n9.SMALL LETTER KOMI ZJE\n9.CAPITAL LETTER KOMI DZJE\n9.SMALL LETTER KOMI DZJE\n" ++
  "9.CAPITAL LETTER KOMI LJE\n9.SMALL LETTER KOMI LJE\n9.CAPITAL LETTER KOMI NJE\n9.SMALL LETTER KOMI NJE\n" ++
  "9.CAPITAL LETTER KOMI SJE\n9.SMALL LETTER KOMI SJE\n9.CAPITAL LETTER KOMI TJE\n9.SMALL LETTER KOMI TJE\n" ++
  "9.CAPITAL LETTER REVERSED ZE\n9.SMALL LETTER REVERSED ZE\n9.CAPITAL LETTER EL WITH HOOK\n9.SMALL LETTER EL WITH HOOK\n" ++
  "9.CAPITAL LETTER LHA\n9.SMALL LETTER LHA\n9.CAPITAL LETTER RHA\n9.SMALL LETTER RHA\n9.CAPITAL LETTER YAE\n" ++
  "9.SMALL LETTER YAE\n9.CAPITAL LETTER QA\n9.SMALL LETTER QA\n9.CAPITAL LETTER WE\n9.SMALL LETTER WE\n" ++
  "9.CAPITAL LETTER ALEUT KA\n9.SMALL LETTER ALEUT KA\n9.CAPITAL LETTER EL WITH MIDDLE HOOK\n9.SMALL LETTER EL WITH MIDDLE HOOK\n" ++
  "9.CAPITAL LETTER EN WITH MIDDLE HOOK\n9.SMALL LETTER EN WITH MIDDLE HOOK\n9.CAPITAL LETTER PE WITH DESCENDER\n" ++
  "9.SMALL LETTER PE WITH DESCENDER\n9.CAPITAL LETTER SHHA WITH DESCENDER\n9.SMALL LETTER SHHA WITH DESCENDER\n" ++
  "9.CAPITAL LETTER EN WITH LEFT HOOK\n9.SMALL LETTER EN WITH LEFT HOOK\n9.CAPITAL LETTER DZZHE\n" ++
  "9.SMALL LETTER DZZHE\n9.CAPITAL LETTER DCHE\n9.SMALL LETTER DCHE\n9.CAPITAL LETTER EL WITH DESCENDER\n" ++
  "9.SMALL LETTER EL WITH DESCENDER\n531:0.ARMENIAN CAPITAL LETTER AYB\n24.BEN\n24.GIM\n24.DA\n24.ECH\n" ++
  "24.ZA\n24.EH\n25.T\n24.TO\n24.ZHE\n24.INI\n24.LIWN\n24.XEH\n24.CA\n24.KEN\n24.HO\n24.JA\n24.GHAD\n" ++
  "24.CHEH\n24.MEN\n24.YI\n24.NOW\n24.SHA\n24.VO\n24.CHA\n24.PEH\n24.JHEH\n24.RA\n24.SEH\n24.VEW\n" ++
  "24.TIWN\n24.REH\n24.CO\n24.YIWN\n24.PIWR\n24.KEH\n24.OH\n24.FEH\n559:9.MODIFIER LETTER LEFT HALF RING\n" ++
  "9.APOSTROPHE\n9.EMPHASIS MARK\n10.XCLAMATION MARK\n9.COMMA\n9.QUESTION MARK\n9.ABBREVIATION MARK\n" ++
  "9.SMALL LETTER TURNED AYB\n22.AYB\n22.BEN\n22.GIM\n22.DA\n22.ECH\n22.ZA\n22.EH\n23.T\n22.TO\n" ++
  "22.ZHE\n22.INI\n22.LIWN\n22.XEH\n22.CA\n22.KEN\n22.HO\n22.JA\n22.GHAD\n22.CHEH\n22.MEN\n22.YI\n" ++
  "22.NOW\n22.SHA\n22.VO\n22.CHA\n22.PEH\n22.JHEH\n22.RA\n22.SEH\n22.VEW\n22.TIWN\n22.REH\n22.CO\n" ++
  "22.YIWN\n22.PIWR\n22.KEH\n22.OH\n22.FEH\n16.IGATURE ECH YIWN\n16.ETTER YI WITH STROKE\n9.FULL STOP\n" ++
  "9.HYPHEN\n58D:0.RIGHT-FACING ARMENIAN ETERNITY SIGN\n0.LEFT-FACING ARMENIAN ETERNITY SIGN\n0.ARMENIAN DRAM SIGN\n" ++
  "591:0.HEBREW ACCENT ETNAHTA\n14.SEGOL\n15.HALSHELET\n14.ZAQEF QATAN\n20.GADOL\n14.TIPEHA\n14.REVIA\n" ++
  "14.ZARQA\n14.PASHTA\n14.YETIV\n14.TEVIR\n14.GERESH\n20. MUQDAM\n17.SHAYIM\n14.QARNEY PARA\n14.TELISHA GEDOLA\n" ++
  "14.PAZER\n14.ATNAH HAFUKH\n14.MUNAH\n15.AHAPAKH\n15.ERKHA\n20. KEFULA\n14.DARGA\n14.QADMA\n14.TELISHA QETANA\n" ++
  "14.YERAH BEN YOMO\n14.OLE\n14.ILUY\n14.DEHI\n14.ZINOR\n7.MARK MASORA CIRCLE\n7.POINT SHEVA\n13.HATAF SEGOL\n" ++
  "19.PATAH\n19.QAMATS\n14.IRIQ\n13.TSERE\n13.SEGOL\n13.PATAH\n13.QAMATS\n13.HOLAM\n18. HASER FOR VAV\n" ++
  "13.QUBUTS\n13.DAGESH OR MAPIQ\n13.METEG\n8.UNCTUATION MAQAF\n8.OINT RAFE\n8.UNCTUATION PASEQ\n" ++
  "8.OINT SHIN DOT\n14.IN DOT\n8.UNCTUATION SOF PASUQ\n7.MARK UPPER DOT\n12.LOWER DOT\n7.PUNCTUATION NUN HAFUKHA\n" ++
  "8.OINT QAMATS QATAN\n5D0:7.LETTER ALEF\n14.BET\n14.GIMEL\n14.DALET\n14.HE\n14.VAV\n14.ZAYIN\n" ++
  "14.HET\n14.TET\n14.YOD\n14.FINAL KAF\n14.KAF\n14.LAMED\n14.FINAL MEM\n14.MEM\n14.FINAL NUN\n14.NUN\n" ++
  "14.SAMEKH\n14.AYIN\n14.FINAL PE\n14.PE\n14.FINAL TSADI\n14.TSADI\n14.QOF\n14.RESH\n14.SHIN\n14.TAV\n" ++
  "5EF:7.YOD TRIANGLE\n7.LIGATURE YIDDISH DOUBLE VAV\n24.VAV YOD\n24.DOUBLE YOD\n7.PUNCTUATION GERESH\n" ++
  "22.SHAYIM\n600:0.ARABIC NUMBER SIGN\n7.SIGN SANAH\n7.FOOTNOTE MARKER\n7.SIGN SAFHA\n14.MVAT\n" ++
  "7.NUMBER MARK ABOVE\n6.-INDIC CUBE ROOT\n13.FOURTH ROOT\n6. RAY\n6.-INDIC PER MILLE SIGN\n17.TEN THOUSAND SIGN\n" ++
  "1.FGHANI SIGN\n1.RABIC COMMA\n7.DATE SEPARATOR\n7.POETIC VERSE SIGN\n7.SIGN MISRA\n12.SALLALLAHOU ALAYHE WASSALLAM\n" ++
  "12.ALAYHE ASSALLAM\n12.RAHMATULLAH ALAYHE\n14.DI ALLAHOU ANHU\n12.TAKHALLUS\n8.MALL HIGH TAH\n" ++
  "18.LIGATURE ALEF WITH LAM WITH YEH\n18.ZAIN\n13.FATHA\n13.DAMMA\n13.KASRA\n8.EMICOLON\n7.LETTER MARK\n" ++
  "7.END OF TEXT MARK\n7.TRIPLE DOT PUNCTUATION MARK\n7.QUESTION MARK\n7.LETTER KASHMIRI YEH\n14.HAMZA\n" ++
  "14.ALEF WITH MADDA ABOVE\n24.HAMZA ABOVE\n14.WAW WITH HAMZA ABOVE\n14.ALEF WITH HAMZA BELOW\n" ++
  "14.YEH WITH HAMZA ABOVE\n14.ALEF\n14.BEH\n14.TEH MARBUTA\n17.\n15.HEH\n14.JEEM\n14.HAH\n14.KHAH\n" ++
  "14.DAL\n14.THAL\n14.REH\n14.ZAIN\n14.SEEN\n15.HEEN\n15.AD\n14.DAD\n14.TAH\n14.ZAH\n14.AIN\n14.GHAIN\n" ++
  "14.KEHEH WITH TWO DOTS ABOVE\n26.HREE DOTS BELOW\n14.FARSI YEH WITH INVERTED V\n29.TWO DOTS ABOVE\n" ++
  "30.HREE DOTS ABOVE\n7.TATWEEL\n7.LETTER FEH\n14.QAF\n14.KAF\n14.LAM\n14.MEEM\n14.NOON\n14.HEH\n" ++
  "14.WAW\n14.ALEF MAKSURA\n14.YEH\n7.FATHATAN\n7.DAMMATAN\n7.KASRATAN\n7.FATHA\n7.DAMMA\n7.KASRA\n" ++
  "7.SHADDA\n8.UKUN\n7.MADDAH ABOVE\n7.HAMZA ABOVE\n13.BELOW\n7.SUBSCRIPT ALEF\n7.INVERTED DAMMA\n" ++
  "7.MARK NOON GHUNNA\n7.ZWARAKAY\n7.VOWEL SIGN SMALL V ABOVE\n18.INVERTED SMALL V ABOVE\n18.DOT BELOW\n" ++
  "7.REVERSED DAMMA\n7.FATHA WITH TWO DOTS\n7.WAVY HAMZA BELOW\n6.-INDIC DIGIT ZERO\n19.ONE\n19.TWO\n" ++
  "20.HREE\n19.FOUR\n20.IVE\n19.SIX\n20.EVEN\n19.EIGHT\n19.NINE\n6. PERCENT SIGN\n7.DECIMAL SEPARATOR\n" ++
  "7.THOUSANDS SEPARATOR\n7.FIVE POINTED STAR\n7.LETTER DOTLESS BEH\n22.QAF\n14.SUPERSCRIPT ALEF\n" ++
  "14.ALEF WASLA\n20.ITH WAVY HAMZA ABOVE\n35.BELOW\n14.HIGH HAMZA\n24. ALEF\n25.WAW\n14.U WITH HAMZA ABOVE\n" ++
  "14.HIGH HAMZA YEH\n14.TTEH\n18.EH\n14.BEEH\n14.TEH WITH RING\n23.THREE DOTS ABOVE DOWNWARDS\n" ++
  "14.PEH\n14.TEHEH\n14.BEHEH\n14.HAH WITH HAMZA ABOVE\n23.TWO DOTS VERTICAL ABOVE\n14.NYEH\n14.DYEH\n" ++
  "14.HAH WITH THREE DOTS ABOVE\n14.TCHEH\n19.EH\n14.DDAL\n15.AL WITH RING\n23.DOT BELOW\n32. AND SMALL TAH\n" ++
  "16.HAL\n15.DAHAL\n15.UL\n15.AL WITH THREE DOTS ABOVE DOWNWARDS\n23.FOUR DOTS ABOVE\n14.RREH\n" ++
  "15.EH WITH SMALL V\n23.RING\n23.DOT BELOW\n23.SMALL V BELOW\n23.DOT BELOW AND DOT ABOVE\n23.TWO DOTS ABOVE\n" ++
  "14.JEH\n14.REH WITH FOUR DOTS ABOVE\n14.SEEN WITH DOT BELOW AND DOT ABOVE\n24.THREE DOTS BELOW\n" ++
  "40. AND THREE DOTS ABOVE\n15.AD WITH TWO DOTS BELOW\n24.HREE DOTS ABOVE\n14.TAH WITH THREE DOTS ABOVE\n" ++
  "14.AIN WITH THREE DOTS ABOVE\n14.DOTLESS FEH\n14.FEH WITH DOT MOVED BELOW\n27.BELOW\n14.VEH\n" ++
  "14.FEH WITH THREE DOTS BELOW\n14.PEHEH\n14.QAF WITH DOT ABOVE\n23.THREE DOTS ABOVE\n14.KEHEH\n" ++
  "14.SWASH KAF\n14.KAF WITH RING\n23.DOT ABOVE\n14.NG\n14.KAF WITH THREE DOTS BELOW\n14.GAF\n17. WITH RING\n" ++
  "14.NGOEH\n14.GAF WITH TWO DOTS BELOW\n15.UEH\n15.AF WITH THREE DOTS ABOVE\n14.LAM WITH SMALL V\n" ++
  "23.DOT ABOVE\n23.THREE DOTS ABOVE\n34.BELOW\n14.NOON WITH DOT BELOW\n19.GHUNNA\n14.RNOON\n14.NOON WITH RING\n" ++
  "24.THREE DOTS ABOVE\n14.HEH DOACHASHMEE\n14.TCHEH WITH DOT ABOVE\n14.HEH WITH YEH ABOVE\n18.GOAL\n" ++
  "22. WITH HAMZA ABOVE\n14.TEH MARBUTA GOAL\n14.WAW WITH RING\n14.KIRGHIZ OE\n14.OE\n14.U\n14.YU\n" ++
  "14.KIRGHIZ YU\n14.WAW WITH TWO DOTS ABOVE\n14.VE\n14.FARSI YEH\n14.YEH WITH TAIL\n23.SMALL V\n" ++
  "14.WAW WITH DOT ABOVE\n14.E\n14.YEH WITH THREE DOTS BELOW\n18.BARREE\n24. WITH HAMZA ABOVE\n7.FULL STOP\n" ++
  "7.LETTER AE\n7.SMALL HIGH LIGATURE SAD WITH LAM WITH ALEF MAKSURA\n27.QAF WITH LAM WITH ALEF MAKSURA\n" ++
  "18.MEEM INITIAL FORM\n18.LAM ALEF\n18.JEEM\n18.THREE DOTS\n18.SEEN\n7.END OF AYAH\n7.START OF RUB EL HIZB\n" ++
  "8.MALL HIGH ROUNDED ZERO\n18.UPRIGHT RECTANGULAR ZERO\n18.DOTLESS HEAD OF KHAH\n18.MEEM ISOLATED FORM\n" ++
  "13.LOW SEEN\n13.HIGH MADDA\n13.WAW\n13.YEH\n13.HIGH YEH\n18.NOON\n7.PLACE OF SAJDAH\n7.EMPTY CENTRE LOW STOP\n" ++
  "20.HIGH STOP\n7.ROUNDED HIGH STOP WITH FILLED CENTRE\n7.SMALL LOW MEEM\n7.LETTER DAL WITH INVERTED V\n" ++
  "14.REH WITH INVERTED V\n0.EXTENDED ARABIC-INDIC DIGIT ZERO\n28.ONE\n28.TWO\n29.HREE\n28.FOUR\n" ++
  "29.IVE\n28.SIX\n29.EVEN\n28.EIGHT\n28.NINE\n0.ARABIC LETTER SHEEN WITH DOT BELOW\n14.DAD WITH DOT BELOW\n" ++
  "14.GHAIN WITH DOT BELOW\n7.SIGN SINDHI AMPERSAND\n19.POSTPOSITION MEN\n7.LETTER HEH WITH INVERTED V\n" ++
  "0.SYRIAC END OF PARAGRAPH\n7.SUPRALINEAR FULL STOP\n9.BLINEAR FULL STOP\n9.PRALINEAR COLON\n9.BLINEAR COLON\n" ++
  "7.HORIZONTAL COLON\n7.COLON SKEWED LEFT\n20.RIGHT\n7.SUPRALINEAR COLON SKEWED LEFT\n9.BLINEAR COLON SKEWED RIGHT\n" ++
  "7.CONTRACTION\n7.HARKLEAN OBELUS\n16.METOBELUS\n16.ASTERISCUS\n70F:7.ABBREVIATION MARK\n7.LETTER ALAPH\n" ++
  "14.SUPERSCRIPT ALAPH\n14.BETH\n14.GAMAL\n19. GARSHUNI\n14.DALATH\n15.OTLESS DALATH RISH\n14.HE\n" ++
  "14.WAW\n14.ZAIN\n14.HETH\n14.TETH\n18. GARSHUNI\n14.YUDH\n18. HE\n14.KAPH\n14.LAMADH\n14.MIM\n" ++
  "14.NUN\n14.SEMKATH\n14.FINAL SEMKATH\n14.E\n14.PE\n14.REVERSED PE\n14.SADHE\n14.QAPH\n14.RISH\n" ++
  "14.SHIN\n14.TAW\n14.PERSIAN BHETH\n22.GHAMAL\n22.DHALATH\n7.PTHAHA ABOVE\n14.BELOW\n14.DOTTED\n" ++
  "7.ZQAPHA ABOVE\n14.BELOW\n14.DOTTED\n7.RBASA ABOVE\n13.BELOW\n7.DOTTED ZLAMA HORIZONTAL\n20.ANGULAR\n" ++
  "7.HBASA ABOVE\n13.BELOW\n12.-ESASA DOTTED\n7.ESASA ABOVE\n13.BELOW\n7.RWAHA\n7.FEMININE DOT\n" ++
  "7.QUSHSHAYA\n7.RUKKAKHA\n7.TWO VERTICAL DOTS ABOVE\n25.BELOW\n8.HREE DOTS ABOVE\n18.BELOW\n7.OBLIQUE LINE ABOVE\n" ++
  "20.BELOW\n7.MUSIC\n7.BARREKH\n74D:7.LETTER SOGDIAN ZHAIN\n22.KHAPH\n22.FE\n0.ARABIC LETTER BEH WITH THREE DOTS HORIZONTALLY BELOW\n" ++
  "23.DOT BELOW AND THREE DOTS ABOVE\n23.THREE DOTS POINTING UPWARDS BELOW\n56. AND TWO DOTS ABOVE\n" ++
  "24.WO DOTS BELOW AND DOT ABOVE\n23.INVERTED SMALL V BELOW\n23.SMALL V\n14.HAH WITH TWO DOTS ABOVE\n" ++
  "24.HREE DOTS POINTING UPWARDS BELOW\n14.DAL WITH TWO DOTS VERTICALLY BELOW AND SMALL TAH\n23.INVERTED SMALL V BELOW\n" ++
  "14.REH WITH STROKE\n14.SEEN WITH FOUR DOTS ABOVE\n14.AIN WITH TWO DOTS ABOVE\n24.HREE DOTS POINTING DOWNWARDS ABOVE\n" ++
  "24.WO DOTS VERTICALLY ABOVE\n14.FEH WITH TWO DOTS BELOW\n24.HREE DOTS POINTING UPWARDS BELOW\n" ++
  "14.KEHEH WITH DOT ABOVE\n25.THREE DOTS ABOVE\n36.POINTING UPWARDS BELOW\n14.MEEM WITH DOT ABOVE\n" ++
  "28.BELOW\n14.NOON WITH TWO DOTS BELOW\n24.SMALL TAH\n30.V\n14.LAM WITH BAR\n14.REH WITH TWO DOTS VERTICALLY ABOVE\n" ++
  "23.HAMZA ABOVE\n14.SEEN WITH TWO DOTS VERTICALLY ABOVE\n14.HAH WITH SMALL ARABIC LETTER TAH BELOW\n" ++
  "47.AND TWO DOTS\n14.SEEN WITH SMALL ARABIC LETTER TAH AND TWO DOTS\n14.REH WITH SMALL ARABIC LETTER TAH AND TWO DOTS\n" ++
  "14.HAH WITH SMALL ARABIC LETTER TAH ABOVE\n14.ALEF WITH EXTENDED ARABIC-INDIC DIGIT TWO ABOVE\n" ++
  "53.HREE ABOVE\n14.FARSI YEH WITH EXTENDED ARABIC-INDIC DIGIT TWO ABOVE\n58.HREE ABOVE\n57.FOUR BELOW\n" ++
  "14.WAW WITH EXTENDED ARABIC-INDIC DIGIT TWO ABOVE\n52.HREE ABOVE\n14.YEH BARREE WITH EXTENDED ARABIC-INDIC DIGIT TWO ABOVE\n" ++
  "59.HREE ABOVE\n14.HAH WITH EXTENDED ARABIC-INDIC DIGIT FOUR BELOW\n14.SEEN WITH EXTENDED ARABIC-INDIC DIGIT FOUR ABOVE\n" ++
  "24.INVERTED V\n14.KAF WITH TWO DOTS ABOVE\n0.THAANA LETTER HAA\n14.SHAVIYANI\n14.NOONU\n14.RAA\n" ++
  "14.BAA\n14.LHAVIYANI\n14.KAAFU\n14.ALIFU\n14.VAAVU\n14.MEEMU\n14.FAAFU\n14.DHAALU\n14.THAA\n14.LAAMU\n" ++
  "14.GAAFU\n15.NAVIYANI\n14.SEENU\n14.DAVIYANI\n14.ZAVIYANI\n14.TAVIYANI\n14.YAA\n14.PAVIYANI\n" ++
  "14.JAVIYANI\n14.CHAVIYANI\n14.TTAA\n14.HHAA\n14.KHAA\n14.THAALU\n14.ZAA\n14.SHEENU\n15.AADHU\n" ++
  "14.DAADHU\n14.TO\n14.ZO\n14.AINU\n14.GHAINU\n14.QAAFU\n14.WAAVU\n7.ABAFILI\n8.ABAAFILI\n7.IBIFILI\n" ++
  "7.EEBEEFILI\n7.UBUFILI\n7.OOBOOFILI\n7.EBEFILI\n8.YBEYFILI\n7.OBOFILI\n8.ABOAFILI\n7.SUKUN\n7.LETTER NAA\n" ++
  "7C0:0.NKO DIGIT ZERO\n10.ONE\n10.TWO\n11.HREE\n10.FOUR\n11.IVE\n10.SIX\n11.EVEN\n10.EIGHT\n10.NINE\n" ++
  "4.LETTER A\n11.EE\n11.I\n11.E\n11.U\n11.OO\n12.\n11.DAGBASINNA\n11.N\n11.BA\n11.PA\n11.TA\n11.JA\n" ++
  "11.CHA\n11.DA\n11.RA\n12.RA\n11.SA\n11.GBA\n11.FA\n11.KA\n11.LA\n11.NA WOLOSO\n11.MA\n11.NYA\n" ++
  "12.A\n11.HA\n11.WA\n11.YA\n11.NYA WOLOSO\n11.JONA JA\n16.CHA\n16.RA\n4.COMBINING SHORT HIGH TONE\n" ++
  "20.LOW TONE\n20.RISING TONE\n14.LONG DESCENDING TONE\n19.HIGH TONE\n19.LOW TONE\n19.RISING TONE\n" ++
  "14.NASALIZATION MARK\n14.DOUBLE DOT ABOVE\n4.HIGH TONE APOSTROPHE\n4.LOW TONE APOSTROPHE\n4.SYMBOL OO DENNEN\n" ++
  "11.GBAKURUNEN\n4.COMMA\n4.EXCLAMATION MARK\n4.LAJANYALAN\n7FD:4.DANTAYALAN\n5.OROME SIGN\n4.TAMAN SIGN\n" ++
  "0.SAMARITAN LETTER ALAF\n17.BIT\n17.GAMAN\n17.DALAT\n17.IY\n17.BAA\n17.ZEN\n17.IT\n17.TIT\n17.YUT\n" ++
  "17.KAAF\n17.LABAT\n17.MIM\n17.NUN\n17.SINGAAT\n17.IN\n17.FI\n17.TSAADIY\n17.QUF\n17.RISH\n17.SHAN\n" ++
  "17.TAAF\n10.MARK IN\n17.-ALAF\n15.OCCLUSION\n15.DAGESH\n11.ODIFIER LETTER EPENTHETIC YUT\n11.ARK EPENTHETIC YUT\n" ++
  "10.VOWEL SIGN LONG E\n21.E\n21.OVERLONG AA\n21.LONG AA\n21.AA\n21.OVERLONG A\n21.LONG A\n21.A\n" ++
  "10.MODIFIER LETTER SHORT A\n10.VOWEL SIGN SHORT A\n21.LONG U\n21.U\n10.MODIFIER LETTER I\n10.VOWEL SIGN LONG I\n" ++
  "21.I\n21.O\n21.SUKUN\n10.MARK NEQUDAA\n830:10.PUNCTUATION NEQUDAA\n22.AFSAAQ\n23.NGED\n22.BAU\n" ++
  "22.ATMAAU\n22.SHIYYAALAA\n10.ABBREVIATION MARK\n10.PUNCTUATION MELODIC QITSA\n22.ZIQAA\n22.QITSA\n" ++
  "22.ZAEF\n22.TURU\n22.ARKAANU\n22.SOF MASHFAAT\n22.ANNAAU\n840:0.MANDAIC LETTER HALQA\n15.AB\n" ++
  "16.G\n16.D\n16.H\n15.USHENNA\n15.AZ\n15.IT\n15.ATT\n16.KSA\n17.\n16.L\n16.M\n16.N\n16.S\n15.IN\n" ++
  "15.AP\n16.SZ\n16.Q\n16.R\n16.SH\n16.T\n15.DUSHENNA\n15.KAD\n15.AIN\n8.AFFRICATION MARK\n8.VOCALIZATION MARK\n" ++
  "8.GEMINATION MARK\n85E:8.PUNCTUATION\n860:0.SYRIAC LETTER MALAYALAM NGA\n24.JA\n24.NYA\n24.TTA\n" ++
  "24.NNA\n26.NA\n24.BHA\n24.RA\n24.LLA\n26.LA\n24.SSA\n870:0.ARABIC LETTER ALEF WITH ATTACHED FATHA\n" ++
  "33.TOP RIGHT FATHA\n24.RIGHT MIDDLE STROKE\n24.LEFT MIDDLE STROKE\n24.ATTACHED KASRA\n33.BOTTOM RIGHT KASRA\n" ++
  "33.ROUND DOT ABOVE\n34.IGHT ROUND DOT\n33.LEFT ROUND DOT\n33.ROUND DOT BELOW\n24.DOT ABOVE\n24.ATTACHED TOP RIGHT FATHA AND DOT ABOVE\n" ++
  "24.RIGHT MIDDLE STROKE AND DOT ABOVE\n24.ATTACHED BOTTOM RIGHT KASRA AND DOT ABOVE\n33.TOP RIGHT FATHA AND LEFT RING\n" ++
  "24.RIGHT MIDDLE STROKE AND LEFT RING\n24.ATTACHED BOTTOM RIGHT KASRA AND LEFT RING\n33.RIGHT HAMZA\n" ++
  "33.LEFT HAMZA\n7.TATWEEL WITH OVERSTRUCK HAMZA\n31.WAW\n20.TWO DOTS BELOW\n7.LETTER THIN YEH\n" ++
  "7.BASELINE ROUND DOT\n7.RAISED ROUND DOT\n7.LETTER NOON WITH INVERTED SMALL V\n14.HAH WITH INVERTED SMALL V BELOW\n" ++
  "14.TAH WITH DOT BELOW\n23.THREE DOTS BELOW\n14.KEHEH WITH TWO DOTS VERTICALLY BELOW\n7.VERTICAL TAIL\n" ++
  "890:7.POUND MARK ABOVE\n8.IASTRE MARK ABOVE\n898:7.SMALL HIGH WORD AL-JUZ\n13.LOW WORD ISHMAAM\n" ++
  "23.MAALA\n22.TASHEEL\n7.MADDA WAAJIB\n7.SUPERSCRIPT ALEF MOKHASSAS\n7.DOUBLED MADDA\n7.HALF MADDA OVER MADDA\n" ++
  "7.LETTER BEH WITH SMALL V BELOW\n23.HAMZA ABOVE\n14.JEEM WITH TWO DOTS ABOVE\n14.TAH WITH TWO DOTS ABOVE\n" ++
  "14.FEH WITH DOT BELOW AND THREE DOTS ABOVE\n14.QAF WITH DOT BELOW\n14.LAM WITH DOUBLE BAR\n14.MEEM WITH THREE DOTS ABOVE\n" ++
  "14.YEH WITH TWO DOTS BELOW AND HAMZA ABOVE\n42.DOT ABOVE\n14.REH WITH LOOP\n14.WAW WITH DOT WITHIN\n" ++
  "14.ROHINGYA YEH\n14.LOW ALEF\n14.DAL WITH THREE DOTS BELOW\n14.SAD WITH THREE DOTS BELOW\n14.GAF WITH INVERTED STROKE\n" ++
  "14.STRAIGHT WAW\n14.ZAIN WITH INVERTED V ABOVE\n14.AIN WITH THREE DOTS BELOW\n14.KAF WITH DOT BELOW\n" ++
  "14.QAF WITH DOT BELOW AND NO DOTS ABOVE\n14.BEH WITH SMALL MEEM ABOVE\n14.PEH WITH SMALL MEEM ABOVE\n" ++
  "14.TEH WITH SMALL TEH ABOVE\n14.REH WITH SMALL NOON ABOVE\n14.YEH WITH TWO DOTS BELOW AND SMALL NOON ABOVE\n" ++
  "14.AFRICAN FEH\n22.QAF\n22.NOON\n14.PEH WITH SMALL V\n14.TEH WITH SMALL V\n15.TEH WITH SMALL V\n" ++
  "15.CHEH WITH SMALL V\n14.KEHEH WITH SMALL V\n14.GHAIN WITH THREE DOTS ABOVE\n14.AFRICAN QAF WITH THREE DOTS ABOVE\n" ++
  "14.JEEM WITH THREE DOTS ABOVE\n35.BELOW\n14.LAM WITH SMALL ARABIC LETTER TAH ABOVE\n14.GRAF\n" ++
  "7.SMALL FARSI YEH\n13.HIGH FARSI YEH\n18.YEH BARREE WITH TWO DOTS BELOW\n18.WORD SAH\n18.ZAH\n" ++
  "7.LARGE ROUND DOT ABOVE\n23.BELOW\n7.SUKUN BELOW\n7.LARGE CIRCLE BELOW\n13.ROUND DOT INSIDE CIRCLE BELOW\n" ++
  "7.SMALL LOW WAW\n13.HIGH WORD AR-RUB\n18.SAD\n18.AIN\n18.QAF\n18.NOON WITH KASRA\n13.LOW NOON WITH KASRA\n" ++
  "13.HIGH WORD ATH-THALATHA\n24.S-SAJDA\n24.N-NISF\n23.SAKTA\n23.QIF\n23.WAQFA\n18.FOOTNOTE MARKER\n" ++
  "18.SIGN SAFHA\n7.DISPUTED END OF AYAH\n7.TURNED DAMMA BELOW\n7.CURLY FATHA\n13.DAMMA\n13.KASRA\n" ++
  "13.FATHATAN\n13.DAMMATAN\n13.KASRATAN\n7.TONE ONE DOT ABOVE\n12.TWO DOTS ABOVE\n12.LOOP ABOVE\n" ++
  "12.ONE DOT BELOW\n12.TWO DOTS BELOW\n12.LOOP BELOW\n7.OPEN FATHATAN\n12.DAMMATAN\n12.KASRATAN\n" ++
  "7.SMALL HIGH WAW\n7.FATHA WITH RING\n18.DOT ABOVE\n7.KASRA WITH DOT BELOW\n7.LEFT ARROWHEAD ABOVE\n" ++
  "7.RIGHT ARROWHEAD ABOVE\n7.LEFT ARROWHEAD BELOW\n7.RIGHT ARROWHEAD BELOW\n7.DOUBLE RIGHT ARROWHEAD ABOVE\n"

/-- Part 2 of `nameLines`. -/
def nameLinesPart2 : String :=
  "35. WITH DOT\n7.RIGHT ARROWHEAD ABOVE WITH DOT\n7.DAMMA WITH DOT\n7.MARK SIDEWAYS NOON GHUNNA\n" ++
  "0.DEVANAGARI SIGN INVERTED CANDRABINDU\n16.CANDRABINDU\n16.ANUSVARA\n16.VISARGA\n11.LETTER SHORT A\n" ++
  "18.A\n19.A\n18.I\n19.I\n18.U\n19.U\n18.VOCALIC R\n26.L\n18.CANDRA E\n18.SHORT E\n18.E\n18.AI\n" ++
  "18.CANDRA O\n18.SHORT O\n18.O\n18.AU\n18.KA\n19.HA\n18.GA\n19.HA\n18.NGA\n18.CA\n19.HA\n18.JA\n" ++
  "19.HA\n18.NYA\n18.TTA\n20.HA\n18.DDA\n20.HA\n18.NNA\n18.TA\n19.HA\n18.DA\n19.HA\n18.NA\n19.NNA\n" ++
  "18.PA\n19.HA\n18.BA\n19.HA\n18.MA\n18.YA\n18.RA\n19.RA\n18.LA\n19.LA\n20.LA\n18.VA\n18.SHA\n19.SA\n" ++
  "19.A\n18.HA\n11.VOWEL SIGN OE\n23.OE\n11.SIGN NUKTA\n16.AVAGRAHA\n11.VOWEL SIGN AA\n22.I\n23.I\n" ++
  "22.U\n23.U\n22.VOCALIC R\n31.R\n22.CANDRA E\n22.SHORT E\n22.E\n22.AI\n22.CANDRA O\n22.SHORT O\n" ++
  "22.O\n22.AU\n11.SIGN VIRAMA\n11.VOWEL SIGN PRISHTHAMATRA E\n22.AW\n11.OM\n11.STRESS SIGN UDATTA\n" ++
  "23.ANUDATTA\n11.GRAVE ACCENT\n11.ACUTE ACCENT\n11.VOWEL SIGN CANDRA LONG E\n22.UE\n23.UE\n11.LETTER QA\n" ++
  "18.KHHA\n18.GHHA\n18.ZA\n18.DDDHA\n18.RHA\n18.FA\n18.YYA\n18.VOCALIC RR\n26.LL\n11.VOWEL SIGN VOCALIC L\n" ++
  "31.L\n11.DANDA\n12.OUBLE DANDA\n12.IGIT ZERO\n17.ONE\n17.TWO\n18.HREE\n17.FOUR\n18.IVE\n17.SIX\n" ++
  "18.EVEN\n17.EIGHT\n17.NINE\n11.ABBREVIATION SIGN\n11.SIGN HIGH SPACING DOT\n11.LETTER CANDRA A\n" ++
  "18.OE\n19.OE\n18.AW\n18.UE\n19.UE\n18.MARWARI DDA\n18.ZHA\n18.HEAVY YA\n18.GGA\n18.JJA\n18.GLOTTAL STOP\n" ++
  "18.DDDA\n18.BBA\n0.BENGALI ANJI\n8.SIGN CANDRABINDU\n13.ANUSVARA\n13.VISARGA\n985:8.LETTER A\n" ++
  "16.A\n15.I\n16.I\n15.U\n16.U\n15.VOCALIC R\n23.L\n98F:15.E\n15.AI\n993:15.O\n15.AU\n15.KA\n16.HA\n" ++
  "15.GA\n16.HA\n15.NGA\n15.CA\n16.HA\n15.JA\n16.HA\n15.NYA\n15.TTA\n17.HA\n15.DDA\n17.HA\n15.NNA\n" ++
  "15.TA\n16.HA\n15.DA\n16.HA\n15.NA\n9AA:15.PA\n16.HA\n15.BA\n16.HA\n15.MA\n15.YA\n15.RA\n9B2:15.LA\n" ++
  "9B6:15.SHA\n16.SA\n16.A\n15.HA\n9BC:8.SIGN NUKTA\n13.AVAGRAHA\n8.VOWEL SIGN AA\n19.I\n20.I\n19.U\n" ++
  "20.U\n19.VOCALIC R\n28.R\n9C7:19.E\n19.AI\n9CB:19.O\n19.AU\n8.SIGN VIRAMA\n8.LETTER KHANDA TA\n" ++
  "9D7:8.AU LENGTH MARK\n9DC:8.LETTER RRA\n16.HA\n9DF:15.YYA\n15.VOCALIC RR\n23.LL\n8.VOWEL SIGN VOCALIC L\n" ++
  "28.L\n9E6:8.DIGIT ZERO\n14.ONE\n14.TWO\n15.HREE\n14.FOUR\n15.IVE\n14.SIX\n15.EVEN\n14.EIGHT\n" ++
  "14.NINE\n8.LETTER RA WITH MIDDLE DIAGONAL\n23.LOWER DIAGONAL\n8.RUPEE MARK\n14.SIGN\n8.CURRENCY NUMERATOR ONE\n" ++
  "27.TWO\n28.HREE\n27.FOUR\n27.ONE LESS THAN THE DENOMINATOR\n17.DENOMINATOR SIXTEEN\n8.ISSHAR\n" ++
  "8.GANDA MARK\n8.LETTER VEDIC ANUSVARA\n8.ABBREVIATION SIGN\n8.SANDHI MARK\nA01:0.GURMUKHI SIGN ADAK BINDI\n" ++
  "14.BINDI\n14.VISARGA\nA05:9.LETTER A\n17.A\n16.I\n17.I\n16.U\n17.U\nA0F:16.EE\n16.AI\nA13:16.OO\n" ++
  "16.AU\n16.KA\n17.HA\n16.GA\n17.HA\n16.NGA\n16.CA\n17.HA\n16.JA\n17.HA\n16.NYA\n16.TTA\n18.HA\n" ++
  "16.DDA\n18.HA\n16.NNA\n16.TA\n17.HA\n16.DA\n17.HA\n16.NA\nA2A:16.PA\n17.HA\n16.BA\n17.HA\n16.MA\n" ++
  "16.YA\n16.RA\nA32:16.LA\n17.LA\nA35:16.VA\n16.SHA\nA38:17.A\n16.HA\nA3C:9.SIGN NUKTA\nA3E:9.VOWEL SIGN AA\n" ++
  "20.I\n21.I\n20.U\n21.U\nA47:20.EE\n20.AI\nA4B:20.OO\n20.AU\n9.SIGN VIRAMA\nA51:14.UDAAT\nA59:9.LETTER KHHA\n" ++
  "16.GHHA\n16.ZA\n16.RRA\nA5E:16.FA\nA66:9.DIGIT ZERO\n15.ONE\n15.TWO\n16.HREE\n15.FOUR\n16.IVE\n" ++
  "15.SIX\n16.EVEN\n15.EIGHT\n15.NINE\n9.TIPPI\n9.ADDAK\n9.IRI\n9.URA\n9.EK ONKAR\n9.SIGN YAKASH\n" ++
  "9.ABBREVIATION SIGN\nA81:2.JARATI SIGN CANDRABINDU\n14.ANUSVARA\n14.VISARGA\nA85:9.LETTER A\n" ++
  "17.A\n16.I\n17.I\n16.U\n17.U\n16.VOCALIC R\n24.L\n9.VOWEL CANDRA E\nA8F:9.LETTER E\n16.AI\n9.VOWEL CANDRA O\n" ++
  "A93:9.LETTER O\n16.AU\n16.KA\n17.HA\n16.GA\n17.HA\n16.NGA\n16.CA\n17.HA\n16.JA\n17.HA\n16.NYA\n" ++
  "16.TTA\n18.HA\n16.DDA\n18.HA\n16.NNA\n16.TA\n17.HA\n16.DA\n17.HA\n16.NA\nAAA:16.PA\n17.HA\n16.BA\n" ++
  "17.HA\n16.MA\n16.YA\n16.RA\nAB2:16.LA\n17.LA\nAB5:16.VA\n16.SHA\n17.SA\n17.A\n16.HA\nABC:9.SIGN NUKTA\n" ++
  "14.AVAGRAHA\n9.VOWEL SIGN AA\n20.I\n21.I\n20.U\n21.U\n20.VOCALIC R\n29.R\n20.CANDRA E\nAC7:20.E\n" ++
  "20.AI\n20.CANDRA O\nACB:20.O\n20.AU\n9.SIGN VIRAMA\nAD0:9.OM\nAE0:9.LETTER VOCALIC RR\n24.LL\n" ++
  "9.VOWEL SIGN VOCALIC L\n29.L\nAE6:9.DIGIT ZERO\n15.ONE\n15.TWO\n16.HREE\n15.FOUR\n16.IVE\n15.SIX\n" ++
  "16.EVEN\n15.EIGHT\n15.NINE\n9.ABBREVIATION SIGN\n9.RUPEE SIGN\nAF9:9.LETTER ZHA\n9.SIGN SUKUN\n" ++
  "15.HADDA\n14.MADDAH\n14.THREE-DOT NUKTA ABOVE\n14.CIRCLE NUKTA ABOVE\n14.TWO-CIRCLE NUKTA ABOVE\n" ++
  "B01:0.ORIYA SIGN CANDRABINDU\n11.ANUSVARA\n11.VISARGA\nB05:6.LETTER A\n14.A\n13.I\n14.I\n13.U\n" ++
  "14.U\n13.VOCALIC R\n21.L\nB0F:13.E\n13.AI\nB13:13.O\n13.AU\n13.KA\n14.HA\n13.GA\n14.HA\n13.NGA\n" ++
  "13.CA\n14.HA\n13.JA\n14.HA\n13.NYA\n13.TTA\n15.HA\n13.DDA\n15.HA\n13.NNA\n13.TA\n14.HA\n13.DA\n" ++
  "14.HA\n13.NA\nB2A:13.PA\n14.HA\n13.BA\n14.HA\n13.MA\n13.YA\n13.RA\nB32:13.LA\n14.LA\nB35:13.VA\n" ++
  "13.SHA\n14.SA\n14.A\n13.HA\nB3C:6.SIGN NUKTA\n11.AVAGRAHA\n6.VOWEL SIGN AA\n17.I\n18.I\n17.U\n" ++
  "18.U\n17.VOCALIC R\n26.R\nB47:17.E\n17.AI\nB4B:17.O\n17.AU\n6.SIGN VIRAMA\nB55:11.OVERLINE\n6.AI LENGTH MARK\n" ++
  "7.U LENGTH MARK\nB5C:6.LETTER RRA\n14.HA\nB5F:13.YYA\n13.VOCALIC RR\n21.LL\n6.VOWEL SIGN VOCALIC L\n" ++
  "26.L\nB66:6.DIGIT ZERO\n12.ONE\n12.TWO\n13.HREE\n12.FOUR\n13.IVE\n12.SIX\n13.EVEN\n12.EIGHT\n" ++
  "12.NINE\n6.ISSHAR\n6.LETTER WA\n6.FRACTION ONE QUARTER\n19.HALF\n15.THREE QUARTERS\n15.ONE SIXTEENTH\n" ++
  "19.EIGHTH\n15.THREE SIXTEENTHS\nB82:0.TAMIL SIGN ANUSVARA\n11.VISARGA\nB85:6.LETTER A\n14.A\n" ++
  "13.I\n14.I\n13.U\n14.U\nB8E:13.E\n14.E\n13.AI\nB92:13.O\n14.O\n13.AU\n13.KA\nB99:13.NGA\n13.CA\n" ++
  "B9C:13.JA\nB9E:13.NYA\n13.TTA\nBA3:13.NNA\n13.TA\nBA8:13.NA\n14.NNA\n13.PA\nBAE:13.MA\n13.YA\n" ++
  "13.RA\n14.RA\n13.LA\n14.LA\n15.LA\n13.VA\n13.SHA\n14.SA\n14.A\n13.HA\nBBE:6.VOWEL SIGN AA\n17.I\n" ++
  "18.I\n17.U\n18.U\nBC6:17.E\n18.E\n17.AI\nBCA:17.O\n18.O\n17.AU\n6.SIGN VIRAMA\nBD0:6.OM\nBD7:6.AU LENGTH MARK\n" ++
  "BE6:6.DIGIT ZERO\n12.ONE\n12.TWO\n13.HREE\n12.FOUR\n13.IVE\n12.SIX\n13.EVEN\n12.EIGHT\n12.NINE\n" ++
  "6.NUMBER TEN\n13.ONE HUNDRED\n17.THOUSAND\n6.DAY SIGN\n6.MONTH SIGN\n6.YEAR SIGN\n6.DEBIT SIGN\n" ++
  "6.CREDIT SIGN\n6.AS ABOVE SIGN\n6.RUPEE SIGN\n6.NUMBER SIGN\nC00:1.ELUGU SIGN COMBINING CANDRABINDU ABOVE\n" ++
  "13.ANDRABINDU\n12.ANUSVARA\n12.VISARGA\n12.COMBINING ANUSVARA ABOVE\n7.LETTER A\n15.A\n14.I\n" ++
  "15.I\n14.U\n15.U\n14.VOCALIC R\n22.L\nC0E:14.E\n15.E\n14.AI\nC12:14.O\n15.O\n14.AU\n14.KA\n15.HA\n" ++
  "14.GA\n15.HA\n14.NGA\n14.CA\n15.HA\n14.JA\n15.HA\n14.NYA\n14.TTA\n16.HA\n14.DDA\n16.HA\n14.NNA\n" ++
  "14.TA\n15.HA\n14.DA\n15.HA\n14.NA\nC2A:14.PA\n15.HA\n14.BA\n15.HA\n14.MA\n14.YA\n14.RA\n15.RA\n" ++
  "14.LA\n15.LA\n16.LA\n14.VA\n14.SHA\n15.SA\n15.A\n14.HA\nC3C:7.SIGN NUKTA\n12.AVAGRAHA\n7.VOWEL SIGN AA\n" ++
  "18.I\n19.I\n18.U\n19.U\n18.VOCALIC R\n27.R\nC46:18.E\n19.E\n18.AI\nC4A:18.O\n19.O\n18.AU\n7.SIGN VIRAMA\n" ++
  "C55:7.LENGTH MARK\n7.AI LENGTH MARK\nC58:7.LETTER TSA\n14.DZA\n14.RRRA\nC5D:14.NAKAARA POLLU\n" ++
  "C60:14.VOCALIC RR\n22.LL\n7.VOWEL SIGN VOCALIC L\n27.L\nC66:7.DIGIT ZERO\n13.ONE\n13.TWO\n14.HREE\n" ++
  "13.FOUR\n14.IVE\n13.SIX\n14.EVEN\n13.EIGHT\n13.NINE\nC77:7.SIGN SIDDHAM\n7.FRACTION DIGIT ZERO FOR ODD POWERS OF FOUR\n" ++
  "22.ONE FOR ODD POWERS OF FOUR\n22.TWO FOR ODD POWERS OF FOUR\n23.HREE FOR ODD POWERS OF FOUR\n" ++
  "22.ONE FOR EVEN POWERS OF FOUR\n22.TWO FOR EVEN POWERS OF FOUR\n23.HREE FOR EVEN POWERS OF FOUR\n" ++
  "7.SIGN TUUMU\n0.KANNADA SIGN SPACING CANDRABINDU\n13.CANDRABINDU\n13.ANUSVARA\n13.VISARGA\n13.SIDDHAM\n" ++
  "8.LETTER A\n16.A\n15.I\n16.I\n15.U\n16.U\n15.VOCALIC R\n23.L\nC8E:15.E\n16.E\n15.AI\nC92:15.O\n" ++
  "16.O\n15.AU\n15.KA\n16.HA\n15.GA\n16.HA\n15.NGA\n15.CA\n16.HA\n15.JA\n16.HA\n15.NYA\n15.TTA\n" ++
  "17.HA\n15.DDA\n17.HA\n15.NNA\n15.TA\n16.HA\n15.DA\n16.HA\n15.NA\nCAA:15.PA\n16.HA\n15.BA\n16.HA\n" ++
  "15.MA\n15.YA\n15.RA\n16.RA\n15.LA\n16.LA\nCB5:15.VA\n15.SHA\n16.SA\n16.A\n15.HA\nCBC:8.SIGN NUKTA\n" ++
  "13.AVAGRAHA\n8.VOWEL SIGN AA\n19.I\n20.I\n19.U\n20.U\n19.VOCALIC R\n28.R\nCC6:19.E\n20.E\n19.AI\n" ++
  "CCA:19.O\n20.O\n19.AU\n8.SIGN VIRAMA\nCD5:8.LENGTH MARK\n8.AI LENGTH MARK\nCDD:8.LETTER NAKAARA POLLU\n" ++
  "15.FA\nCE0:15.VOCALIC RR\n23.LL\n8.VOWEL SIGN VOCALIC L\n28.L\nCE6:8.DIGIT ZERO\n14.ONE\n14.TWO\n" ++
  "15.HREE\n14.FOUR\n15.IVE\n14.SIX\n15.EVEN\n14.EIGHT\n14.NINE\nCF1:8.SIGN JIHVAMULIYA\n13.UPADHMANIYA\n" ++
  "D00:0.MALAYALAM SIGN COMBINING ANUSVARA ABOVE\n16.ANDRABINDU\n15.ANUSVARA\n15.VISARGA\n10.LETTER VEDIC ANUSVARA\n" ++
  "17.A\n18.A\n17.I\n18.I\n17.U\n18.U\n17.VOCALIC R\n25.L\nD0E:17.E\n18.E\n17.AI\nD12:17.O\n18.O\n" ++
  "17.AU\n17.KA\n18.HA\n17.GA\n18.HA\n17.NGA\n17.CA\n18.HA\n17.JA\n18.HA\n17.NYA\n17.TTA\n19.HA\n" ++
  "17.DDA\n19.HA\n17.NNA\n17.TA\n18.HA\n17.DA\n18.HA\n17.NA\n18.NNA\n17.PA\n18.HA\n17.BA\n18.HA\n" ++
  "17.MA\n17.YA\n17.RA\n18.RA\n17.LA\n18.LA\n19.LA\n17.VA\n17.SHA\n18.SA\n18.A\n17.HA\n17.TTTA\n" ++
  "10.SIGN VERTICAL BAR VIRAMA\n15.CIRCULAR VIRAMA\n15.AVAGRAHA\n10.VOWEL SIGN AA\n21.I\n22.I\n21.U\n" ++
  "22.U\n21.VOCALIC R\n30.R\nD46:21.E\n22.E\n21.AI\nD4A:21.O\n22.O\n21.AU\n10.SIGN VIRAMA\n10.LETTER DOT REPH\n" ++
  "10.SIGN PARA\nD54:10.LETTER CHILLU M\n24.Y\n24.LLL\n10.AU LENGTH MARK\n10.FRACTION ONE ONE-HUNDRED-AND-SIXTIETH\n" ++
  "23.FORTIETH\n19.THREE EIGHTIETHS\n19.ONE TWENTIETH\n24.ENTH\n19.THREE TWENTIETHS\n19.ONE FIFTH\n" ++
  "10.LETTER ARCHAIC II\n17.VOCALIC RR\n25.LL\n10.VOWEL SIGN VOCALIC L\n30.L\nD66:10.DIGIT ZERO\n" ++
  "16.ONE\n16.TWO\n17.HREE\n16.FOUR\n17.IVE\n16.SIX\n17.EVEN\n16.EIGHT\n16.NINE\n10.NUMBER TEN\n" ++
  "17.ONE HUNDRED\n21.THOUSAND\n10.FRACTION ONE QUARTER\n23.HALF\n19.THREE QUARTERS\n19.ONE SIXTEENTH\n" ++
  "23.EIGHTH\n19.THREE SIXTEENTHS\n10.DATE MARK\n10.LETTER CHILLU NN\n25.\n24.RR\n24.L\n25.L\n24.K\n" ++
  "D81:0.SINHALA SIGN CANDRABINDU\n13.ANUSVARAYA\n13.VISARGAYA\nD85:8.LETTER AYANNA\n16.AYANNA\n" ++
  "16.EYANNA\n17.EYANNA\n15.IYANNA\n16.IYANNA\n15.UYANNA\n16.UYANNA\n15.IRUYANNA\n18.UYANNA\n16.LUYANNA\n" ++
  "18.UYANNA\n15.EYANNA\n16.EYANNA\n15.AIYANNA\n15.OYANNA\n16.OYANNA\n15.AUYANNA\nD9A:16.LPAPRAANA KAYANNA\n" ++
  "15.MAHAAPRAANA KAYANNA\n15.ALPAPRAANA GAYANNA\n15.MAHAAPRAANA GAYANNA\n15.KANTAJA NAASIKYAYA\n" ++
  "15.SANYAKA GAYANNA\n15.ALPAPRAANA CAYANNA\n15.MAHAAPRAANA CAYANNA\n15.ALPAPRAANA JAYANNA\n15.MAHAAPRAANA JAYANNA\n" ++
  "15.TAALUJA NAASIKYAYA\n23.SANYOOGA NAAKSIKYAYA\n15.SANYAKA JAYANNA\n15.ALPAPRAANA TTAYANNA\n15.MAHAAPRAANA TTAYANNA\n" ++
  "15.ALPAPRAANA DDAYANNA\n15.MAHAAPRAANA DDAYANNA\n16.UURDHAJA NAYANNA\n15.SANYAKA DDAYANNA\n15.ALPAPRAANA TAYANNA\n" ++
  "15.MAHAAPRAANA TAYANNA\n15.ALPAPRAANA DAYANNA\n15.MAHAAPRAANA DAYANNA\n15.DANTAJA NAYANNA\nDB3:15.SANYAKA DAYANNA\n" ++
  "15.ALPAPRAANA PAYANNA\n15.MAHAAPRAANA PAYANNA\n15.ALPAPRAANA BAYANNA\n15.MAHAAPRAANA BAYANNA\n" ++
  "17.YANNA\n15.AMBA BAYANNA\n15.YAYANNA\n15.RAYANNA\nDBD:15.DANTAJA LAYANNA\nDC0:15.VAYANNA\n15.TAALUJA SAYANNA\n" ++
  "15.MUURDHAJA SAYANNA\n15.DANTAJA SAYANNA\n15.HAYANNA\n15.MUURDHAJA LAYANNA\n15.FAYANNA\nDCA:8.SIGN AL-LAKUNA\n" ++
  "DCF:8.VOWEL SIGN AELA-PILLA\n19.KETTI AEDA-PILLA\n19.DIGA AEDA-PILLA\n19.KETTI IS-PILLA\n19.DIGA IS-PILLA\n" ++
  "19.KETTI PAA-PILLA\nDD6:19.DIGA PAA-PILLA\nDD8:19.GAETTA-PILLA\n19.KOMBUVA\n19.DIGA KOMBUVA\n" ++
  "19.KOMBU DEKA\n24.VA HAA AELA-PILLA\n31.DIGA AELA-PILLA\n31.GAYANUKITTA\n19.GAYANUKITTA\nDE6:8.LITH DIGIT ZERO\n" ++
  "19.ONE\n19.TWO\n20.HREE\n19.FOUR\n20.IVE\n19.SIX\n20.EVEN\n19.EIGHT\n19.NINE\nDF2:8.VOWEL SIGN DIGA GAETTA-PILLA\n" ++
  "26.YANUKITTA\n8.PUNCTUATION KUNDDALIYA\nE01:0.THAI CHARACTER KO KAI\n16.HO KHAI\n21.UAT\n21.WAI\n" ++
  "21.ON\n19.RAKHANG\n15.NGO NGU\n15.CHO CHAN\n21.ING\n21.ANG\n15.SO SO\n15.CHO CHOE\n15.YO YING\n" ++
  "15.DO CHADA\n15.TO PATAK\n16.HO THAN\n19.NANGMONTHO\n19.PHUTHAO\n15.NO NEN\n15.DO DEK\n15.TO TAO\n" ++
  "16.HO THUNG\n21.AHAN\n21.ONG\n15.NO NU\n15.BO BAIMAI\n15.PO PLA\n16.HO PHUNG\n15.FO FA\n15.PHO PHAN\n" ++
  "15.FO FAN\n15.PHO SAMPHAO\n15.MO MA\n15.YO YAK\n15.RO RUA\n16.U\n15.LO LING\n16.U\n15.WO WAEN\n" ++
  "15.SO SALA\n18.RUSI\n18.SUA\n15.HO HIP\n15.LO CHULA\n15.O ANG\n15.HO NOKHUK\n15.PAIYANNOI\n15.SARA A\n" ++
  "15.MAI HAN-AKAT\n15.SARA AA\n21.M\n20.I\n21.I\n20.UE\n22.E\n21.\n21.U\n15.PHINTHU\nE3F:6.URRENCY SYMBOL BAHT\n" ++
  "6.HARACTER SARA E\n20.AE\n20.O\n20.AI MAIMUAN\n27.ALAI\n15.LAKKHANGYAO\n15.MAIYAMOK\n18.TAIKHU\n" ++
  "18. EK\n19.THO\n20.RI\n19.CHATTAWA\n15.THANTHAKHAT\n15.NIKHAHIT\n15.YAMAKKAN\n15.FONGMAN\n5.DIGIT ZERO\n" ++
  "11.ONE\n11.TWO\n12.HREE\n11.FOUR\n12.IVE\n11.SIX\n12.EVEN\n11.EIGHT\n11.NINE\n5.CHARACTER ANGKHANKHU\n" ++
  "15.KHOMUT\nE81:0.LAO LETTER KO\n12.HO SUNG\nE84:15.TAM\nE86:11.PALI GHA\n11.NGO\n11.CO\n11.PALI CHA\n" ++
  "11.SO TAM\nE8C:11.PALI JHA\n11.NYO\n11.PALI NYA\n16.TTA\n18.HA\n16.DDA\n18.HA\n16.NNA\n11.DO\n" ++
  "11.TO\n12.HO SUNG\n15.TAM\n11.PALI DHA\n11.NO\n11.BO\n11.PO\n12.HO SUNG\n11.FO TAM\n11.PHO TAM\n" ++
  "11.FO SUNG\n11.PALI BHA\n11.MO\n11.YO\n11.LO LING\nEA5:15.OOT\nEA7:11.WO\n11.SANSKRIT SHA\n21.SA\n" ++
  "12.O SUNG\n11.HO SUNG\n11.PALI LLA\n11.O\n11.HO TAM\n4.ELLIPSIS\n4.VOWEL SIGN A\n15.MAI KAN\n" ++
  "15.AA\n16.M\n15.I\n16.I\n15.Y\n16.Y\n15.U\n16.U\n4.SIGN PALI VIRAMA\n4.VOWEL SIGN MAI KON\n4.SEMIVOWEL SIGN LO\n" ++
  "19.NYO\nEC0:4.VOWEL SIGN E\n16.I\n15.O\n15.AY\n16.I\nEC6:4.KO LA\nEC8:4.TONE MAI EK\n13.THO\n" ++
  "14.I\n13.CATAWA\n4.CANCELLATION MARK\n4.NIGGAHITA\nED0:4.DIGIT ZERO\n10.ONE\n10.TWO\n11.HREE\n" ++
  "10.FOUR\n11.IVE\n10.SIX\n11.EVEN\n10.EIGHT\n10.NINE\nEDC:4.HO NO\n7.MO\n4.LETTER KHMU GO\n16.NYO\n" ++
  "F00:0.TIBETAN SYLLABLE OM\n8.MARK GTER YIG MGO TRUNCATED A\n26.-UM RNAM BCAD MA\n30.GTER TSHEG MA\n" ++
  "13.INITIAL YIG MGO MDUN MA\n13.CLOSING YIG MGO SGAB MA\n14.ARET YIG MGO PHUR SHAD MA\n13.YIG MGO TSHEG SHAD MA\n" ++
  "13.SBRUL SHAD\n13.BSKUR YIG MGO\n14.KA- SHOG YIG MGO\n13.INTERSYLLABIC TSHEG\n13.DELIMITER TSHEG BSTAR\n" ++
  "13.SHAD\n13.NYIS SHAD\n13.TSHEG SHAD\n13.NYIS TSHEG SHAD\n13.RIN CHEN SPUNGS SHAD\n14.GYA GRAM SHAD\n" ++
  "13.CARET -DZUD RTAGS ME LONG CAN\n13.GTER TSHEG\n8.LOGOTYPE SIGN CHAD RTAGS\n22.LHAG RTAGS\n8.ASTROLOGICAL SIGN SGRA GCAN -CHAR RTAGS\n" ++
  "26.-KHYUD PA\n26.SDONG TSHUGS\n8.SIGN RDEL DKAR GCIG\n24.NYIS\n24.SUM\n18.NAG GCIG\n23.NYIS\n" ++
  "18.DKAR RDEL NAG\n8.DIGIT ZERO\n14.ONE\n14.TWO\n15.HREE\n14.FOUR\n15.IVE\n14.SIX\n15.EVEN\n14.EIGHT\n" ++
  "14.NINE\n14.HALF ONE\n19.TWO\n20.HREE\n19.FOUR\n20.IVE\n19.SIX\n20.EVEN\n19.EIGHT\n19.NINE\n19.ZERO\n" ++
  "8.MARK BSDUS RTAGS\n13.NGAS BZUNG NYI ZLA\n13.CARET -DZUD RTAGS BZHI MIG CAN\n13.NGAS BZUNG SGOR RTAGS\n" ++
  "13.CHE MGO\n13.TSA -PHRU\n13.GUG RTAGS GYON\n25.AS\n13.ANG KHANG GYON\n25.AS\n8.SIGN YAR TSHES\n" ++
  "13.MAR TSHES\n8.LETTER KA\n16.HA\n15.GA\n16.HA\n15.NGA\n15.CA\n16.HA\n15.JA\nF49:15.NYA\n15.TTA\n" ++
  "17.HA\n15.DDA\n17.HA\n15.NNA\n15.TA\n16.HA\n15.DA\n16.HA\n15.NA\n15.PA\n16.HA\n15.BA\n16.HA\n" ++
  "15.MA\n15.TSA\n17.HA\n15.DZA\n17.HA\n15.WA\n15.ZHA\n16.A\n15.-A\n15.YA\n15.RA\n15.LA\n15.SHA\n" ++
  "16.SA\n16.A\n15.HA\n15.A\n15.KSSA\n15.FIXED-FORM RA\n15.KKA\n15.RRA\nF71:8.VOWEL SIGN AA\n19.I\n" ++
  "20.I\n19.U\n20.U\n19.VOCALIC R\n28.R\n27.L\n28.L\n19.E\n20.E\n19.O\n20.O\n8.SIGN RJES SU NGA RO\n" ++
  "14.NAM BCAD\n8.VOWEL SIGN REVERSED I\n29.I\n8.SIGN NYI ZLA NAA DA\n13.SNA LDAN\n8.MARK HALANTA\n" ++
  "13.PALUTA\n8.SIGN LCI RTAGS\n13.YANG RTAGS\n13.LCE TSA CAN\n13.MCHU CAN\n13.GRU CAN RGYINGS\n" ++
  "17.MED RGYINGS\n13.INVERTED MCHU CAN\n9.UBJOINED SIGN LCE TSA CAN\n23.MCHU CAN\n23.INVERTED MCHU CAN\n" ++
  "18.LETTER KA\n26.HA\n25.GA\n26.HA\n25.NGA\n25.CA\n26.HA\n25.JA\nF99:25.NYA\n25.TTA\n27.HA\n25.DDA\n" ++
  "27.HA\n25.NNA\n25.TA\n26.HA\n25.DA\n26.HA\n25.NA\n25.PA\n26.HA\n25.BA\n26.HA\n25.MA\n25.TSA\n" ++
  "27.HA\n25.DZA\n27.HA\n25.WA\n25.ZHA\n26.A\n25.-A\n25.YA\n25.RA\n25.LA\n25.SHA\n26.SA\n26.A\n25.HA\n" ++
  "25.A\n25.KSSA\n25.FIXED-FORM WA\n36.YA\n36.RA\nFBE:8.KU RU KHA\n17. BZHI MIG CAN\n8.CANTILLATION SIGN HEAVY BEAT\n" ++
  "26.LIGHT BEAT\n26.CANG TE-U\n26.SBUB -CHAL\n8.SYMBOL DRIL BU\n15.RDO RJE\n15.PADMA GDAN\n15.RDO RJE RGYA GRAM\n" ++
  "15.PHUR PA\n15.NOR BU\n21. NYIS -KHYIL\n22.GSUM -KHYIL\n22.BZHI -KHYIL\nFCE:9.IGN RDEL NAG RDEL DKAR\n" ++
  "22.GSUM\n8.MARK BSKA- SHOG GI MGO RGYAN\n13.MNYAM YIG GI MGO RGYAN\n13.NYIS TSHEG\n13.INITIAL BRDA RNYING YIG MGO MDUN MA\n" ++
  "13.CLOSING BRDA RNYING YIG MGO SGAB MA\n0.RIGHT-FACING SVASTI SIGN\n0.LEFT-FACING SVASTI SIGN\n" ++
  "0.RIGHT-FACING SVASTI SIGN WITH DOTS\n0.LEFT-FACING SVASTI SIGN WITH DOTS\n0.TIBETAN MARK LEADING MCHAN RTAGS\n" ++
  "13.TRAILING MCHAN RTAGS\n1000:0.MYANMAR LETTER KA\n16.HA\n15.GA\n16.HA\n15.NGA\n15.CA\n16.HA\n" ++
  "15.JA\n16.HA\n15.NYA\n16.NYA\n15.TTA\n17.HA\n15.DDA\n17.HA\n15.NNA\n15.TA\n16.HA\n15.DA\n16.HA\n" ++
  "15.NA\n15.PA\n16.HA\n15.BA\n16.HA\n15.MA\n15.YA\n15.RA\n15.LA\n15.WA\n15.SA\n15.HA\n15.LLA\n15.A\n" ++
  "15.SHAN A\n15.I\n16.I\n15.U\n16.U\n15.E\n15.MON E\n15.O\n15.AU\n8.VOWEL SIGN TALL AA\n19.AA\n" ++
  "19.I\n20.I\n19.U\n20.U\n19.E\n19.AI\n19.MON II\n23.O\n19.E ABOVE\n8.SIGN ANUSVARA\n13.DOT BELOW\n" ++
  "13.VISARGA\n15.RAMA\n13.ASAT\n8.CONSONANT SIGN MEDIAL YA\n30.RA\n30.WA\n30.HA\n8.LETTER GREAT SA\n" ++
  "8.DIGIT ZERO\n14.ONE\n14.TWO\n15.HREE\n14.FOUR\n15.IVE\n14.SIX\n15.EVEN\n14.EIGHT\n14.NINE\n8.SIGN LITTLE SECTION\n" ++
  "13.SECTION\n9.YMBOL LOCATIVE\n15.COMPLETED\n15.AFOREMENTIONED\n15.GENITIVE\n8.LETTER SHA\n16.SA\n" ++
  "15.VOCALIC R\n24.R\n23.L\n24.L\n8.VOWEL SIGN VOCALIC R\n28.R\n27.L\n28.L\n8.LETTER MON NGA\n19.JHA\n" ++
  "19.BBA\n21.E\n8.CONSONANT SIGN MON MEDIAL NA\n34.MA\n34.LA\n8.LETTER SGAW KAREN SHA\n8.VOWEL SIGN SGAW KAREN EU\n" ++
  "8.TONE MARK SGAW KAREN HATHI\n29.KE PHO\n8.LETTER WESTERN PWO KAREN THA\n33.PWA\n8.VOWEL SIGN WESTERN PWO KAREN EU\n" ++
  "37.UE\n8.SIGN WESTERN PWO KAREN TONE-1\n36.2\n36.3\n36.4\n36.5\n8.LETTER EASTERN PWO KAREN NNA\n" ++
  "33.YWA\n33.GHWA\n8.VOWEL SIGN GEBA KAREN I\n19.KAYAH OE\n25.U\n25.EE\n8.LETTER SHAN KA\n21.HA\n" ++
  "20.GA\n20.CA\n20.ZA\n20.NYA\n20.DA\n20.NA\n20.PHA\n20.FA\n20.BA\n20.THA\n20.HA\n8.CONSONANT SIGN SHAN MEDIAL WA\n" ++
  "8.VOWEL SIGN SHAN AA\n24.E\n25. ABOVE\n24.FINAL Y\n8.SIGN SHAN TONE-2\n23.3\n23.5\n23.6\n18.COUNCIL TONE-2\n" ++
  "31.3\n26.EMPHATIC TONE\n8.LETTER RUMAI PALAUNG FA\n8.SIGN RUMAI PALAUNG TONE-5\n9.HAN DIGIT ZERO\n" ++
  "19.ONE\n19.TWO\n20.HREE\n19.FOUR\n20.IVE\n19.SIX\n20.EVEN\n19.EIGHT\n19.NINE\n9.IGN KHAMTI TONE-1\n" ++
  "25.3\n8.VOWEL SIGN AITON A\n26.I\n8.SYMBOL SHAN ONE\n20.EXCLAMATION\n0.GEORGIAN CAPITAL LETTER AN\n" ++
  "24.BAN\n24.GAN\n24.DON\n24.EN\n24.VIN\n24.ZEN\n24.TAN\n24.IN\n24.KAN\n24.LAS\n24.MAN\n24.NAR\n" ++
  "24.ON\n24.PAR\n24.ZHAR\n24.RAE\n24.SAN\n24.TAR\n24.UN\n24.PHAR\n24.KHAR\n24.GHAN\n24.QAR\n24.SHIN\n" ++
  "24.CHIN\n25.AN\n24.JIL\n24.CIL\n25.HAR\n24.XAN\n24.JHAN\n24.HAE\n25.E\n25.IE\n24.WE\n24.HAR\n" ++
  "25.OE\n10C7:24.YN\n10CD:24.AEN\n10D0:9.LETTER AN\n16.BAN\n16.GAN\n16.DON\n16.EN\n16.VIN\n16.ZEN\n" ++
  "16.TAN\n16.IN\n16.KAN\n16.LAS\n16.MAN\n16.NAR\n16.ON\n16.PAR\n16.ZHAR\n16.RAE\n16.SAN\n16.TAR\n" ++
  "16.UN\n16.PHAR\n16.KHAR\n16.GHAN\n16.QAR\n16.SHIN\n16.CHIN\n17.AN\n16.JIL\n16.CIL\n17.HAR\n16.XAN\n" ++
  "16.JHAN\n16.HAE\n17.E\n17.IE\n16.WE\n16.HAR\n17.OE\n16.FI\n16.YN\n16.ELIFI\n16.TURNED GAN\n16.AIN\n" ++
  "9.PARAGRAPH SEPARATOR\n0.MODIFIER LETTER GEORGIAN NAR\n0.GEORGIAN LETTER AEN\n16.HARD SIGN\n16.LABIAL SIGN\n" ++
  "0.HANGUL CHOSEONG KIYEOK\n16.SSANGKIYEOK\n16.NIEUN\n16.TIKEUT\n16.SSANGTIKEUT\n16.RIEUL\n16.MIEUM\n" ++
  "16.PIEUP\n16.SSANGPIEUP\n17.IOS\n17.SANGSIOS\n16.IEUNG\n16.CIEUC\n16.SSANGCIEUC\n16.CHIEUCH\n" ++
  "16.KHIEUKH\n16.THIEUTH\n16.PHIEUPH\n16.HIEUH\n16.NIEUN-KIYEOK\n16.SSANGNIEUN\n16.NIEUN-TIKEUT\n" ++
  "22.PIEUP\n16.TIKEUT-KIYEOK\n16.RIEUL-NIEUN\n16.SSANGRIEUL\n16.RIEUL-HIEUH\n16.KAPYEOUNRIEUL\n" ++
  "16.MIEUM-PIEUP\n16.KAPYEOUNMIEUM\n16.PIEUP-KIYEOK\n22.NIEUN\n22.TIKEUT\n22.SIOS\n26.-KIYEOK\n" ++
  "27.TIKEUT\n27.PIEUP\n23.SANGSIOS\n23.IOS-CIEUC\n22.CIEUC\n23.HIEUCH\n22.THIEUTH\n22.PHIEUPH\n" ++
  "16.KAPYEOUNPIEUP\n24.SSANGPIEUP\n16.SIOS-KIYEOK\n21.NIEUN\n21.TIKEUT\n21.RIEUL\n21.MIEUM\n21.PIEUP\n" ++
  "26.-KIYEOK\n21.SSANGSIOS\n21.IEUNG\n21.CIEUC\n22.HIEUCH\n21.KHIEUKH\n21.THIEUTH\n21.PHIEUPH\n" ++
  "21.HIEUH\n16.CHITUEUMSIOS\n25.SANGSIOS\n17.EONGCHIEUMSIOS\n28.SANGSIOS\n16.PANSIOS\n16.IEUNG-KIYEOK\n" ++
  "22.TIKEUT\n22.MIEUM\n22.PIEUP\n22.SIOS\n22.PANSIOS\n16.SSANGIEUNG\n16.IEUNG-CIEUC\n23.HIEUCH\n" ++
  "22.THIEUTH\n22.PHIEUPH\n16.YESIEUNG\n16.CIEUC-IEUNG\n17.HITUEUMCIEUC\n24.SSANGCIEUC\n17.EONGCHIEUMCIEUC\n" ++
  "27.SSANGCIEUC\n17.HIEUCH-KHIEUKH\n24.HIEUH\n19.TUEUMCHIEUCH\n17.EONGCHIEUMCHIEUCH\n16.PHIEUPH-PIEUP\n" ++
  "16.KAPYEOUNPHIEUPH\n16.SSANGHIEUH\n16.YEORINHIEUH\n16.KIYEOK-TIKEUT\n16.NIEUN-SIOS\n22.CIEUC\n" ++
  "22.HIEUH\n16.TIKEUT-RIEUL\n16.FILLER\n7.JUNGSEONG FILLER\n17.A\n18.E\n17.YA\n19.E\n17.EO\n18.\n" ++
  "17.YEO\n19.\n17.O\n17.WA\n19.E\n17.OE\n17.YO\n17.U\n17.WEO\n19.\n18.I\n17.YU\n17.EU\n17.YI\n17.I\n" ++
  "17.A-O\n19.U\n17.YA-O\n20.YO\n17.EO-O\n20.U\n20.EU\n17.YEO-O\n21.U\n17.O-EO\n20.\n19.YE\n19.O\n" ++
  "19.U\n17.YO-YA\n22.E\n21.EO\n20.O\n20.I\n17.U-A\n20.E\n19.EO-EU\n19.YE\n19.U\n17.YU-A\n20.EO\n" ++
  "21.\n20.YEO\n22.\n20.U\n20.I\n17.EU-U\n20.EU\n17.YI-U\n17.I-A\n19.YA\n19.O\n19.U\n19.EU\n19.ARAEA\n" ++
  "17.ARAEA\n22.-EO\n23.U\n23.I\n17.SSANGARAEA\n17.A-EU\n17.YA-U\n18.EO-YA\n17.O-YA\n21.E\n8.ONGSEONG KIYEOK\n" ++
  "17.SSANGKIYEOK\n17.KIYEOK-SIOS\n17.NIEUN\n22.-CIEUC\n23.HIEUH\n17.TIKEUT\n17.RIEUL\n22.-KIYEOK\n" ++
  "23.MIEUM\n23.PIEUP\n23.SIOS\n23.THIEUTH\n23.PHIEUPH\n23.HIEUH\n17.MIEUM\n17.PIEUP\n22.-SIOS\n" ++
  "17.SIOS\n18.SANGSIOS\n17.IEUNG\n17.CIEUC\n18.HIEUCH\n17.KHIEUKH\n17.THIEUTH\n17.PHIEUPH\n17.HIEUH\n" ++
  "17.KIYEOK-RIEUL\n24.SIOS-KIYEOK\n17.NIEUN-KIYEOK\n23.TIKEUT\n23.SIOS\n23.PANSIOS\n23.THIEUTH\n" ++
  "17.TIKEUT-KIYEOK\n24.RIEUL\n17.RIEUL-KIYEOK-SIOS\n23.NIEUN\n23.TIKEUT\n29.-HIEUH\n17.SSANGRIEUL\n" ++
  "17.RIEUL-MIEUM-KIYEOK\n29.SIOS\n23.PIEUP-SIOS\n29.HIEUH\n23.KAPYEOUNPIEUP\n23.SSANGSIOS\n23.PANSIOS\n" ++
  "23.KHIEUKH\n23.YEORINHIEUH\n17.MIEUM-KIYEOK\n23.RIEUL\n23.PIEUP\n23.SIOS\n24.SANGSIOS\n23.PANSIOS\n" ++
  "23.CHIEUCH\n23.HIEUH\n17.KAPYEOUNMIEUM\n17.PIEUP-RIEUL\n23.PHIEUPH\n23.HIEUH\n17.KAPYEOUNPIEUP\n" ++
  "17.SIOS-KIYEOK\n22.TIKEUT\n22.RIEUL\n22.PIEUP\n17.PANSIOS\n17.IEUNG-KIYEOK\n23.SSANGKIYEOK\n17.SSANGIEUNG\n" ++
  "17.IEUNG-KHIEUKH\n17.YESIEUNG\n25.-SIOS\n26.PANSIOS\n17.PHIEUPH-PIEUP\n17.KAPYEOUNPHIEUPH\n17.HIEUH-NIEUN\n" ++
  "23.RIEUL\n23.MIEUM\n23.PIEUP\n17.YEORINHIEUH\n17.KIYEOK-NIEUN\n24.PIEUP\n24.CHIEUCH\n24.KHIEUKH\n" ++
  "24.HIEUH\n17.SSANGNIEUN\n0.ETHIOPIC SYLLABLE HA\n19.U\n19.I\n19.AA\n19.EE\n20.\n19.O\n20.A\n18.LA\n" ++
  "19.U\n19.I\n19.AA\n19.EE\n20.\n19.O\n19.WA\n18.HHA\n20.U\n20.I\n20.AA\n20.EE\n21.\n20.O\n20.WA\n" ++
  "18.MA\n19.U\n19.I\n19.AA\n19.EE\n20.\n19.O\n19.WA\n18.SZA\n20.U\n20.I\n20.AA\n20.EE\n21.\n20.O\n" ++
  "20.WA\n18.RA\n19.U\n19.I\n19.AA\n19.EE\n20.\n19.O\n19.WA\n18.SA\n19.U\n19.I\n19.AA\n19.EE\n20.\n" ++
  "19.O\n19.WA\n19.HA\n20.U\n20.I\n20.AA\n20.EE\n21.\n20.O\n20.WA\n18.QA\n19.U\n19.I\n19.AA\n19.EE\n" ++
  "20.\n19.O\n20.A\n19.WA\n124A:20.I\n20.AA\n20.EE\n21.\n1250:19.HA\n20.U\n20.I\n20.AA\n20.EE\n21.\n" ++
  "20.O\n1258:20.WA\n125A:21.I\n21.AA\n21.EE\n22.\n1260:18.BA\n19.U\n19.I\n19.AA\n19.EE\n20.\n19.O\n" ++
  "19.WA\n18.VA\n19.U\n19.I\n19.AA\n19.EE\n20.\n19.O\n19.WA\n18.TA\n19.U\n19.I\n19.AA\n19.EE\n20.\n" ++
  "19.O\n19.WA\n18.CA\n19.U\n19.I\n19.AA\n19.EE\n20.\n19.O\n19.WA\n18.XA\n19.U\n19.I\n19.AA\n19.EE\n" ++
  "20.\n19.O\n20.A\n19.WA\n128A:20.I\n20.AA\n20.EE\n21.\n1290:18.NA\n19.U\n19.I\n19.AA\n19.EE\n20.\n" ++
  "19.O\n19.WA\n19.YA\n20.U\n20.I\n20.AA\n20.EE\n21.\n20.O\n20.WA\n18.GLOTTAL A\n26.U\n26.I\n26.AA\n" ++
  "26.EE\n27.\n26.O\n26.WA\n18.KA\n19.U\n19.I\n19.AA\n19.EE\n20.\n19.O\n20.A\n19.WA\n12B2:20.I\n" ++
  "20.AA\n20.EE\n21.\n12B8:19.XA\n20.U\n20.I\n20.AA\n20.EE\n21.\n20.O\n12C0:20.WA\n12C2:21.I\n21.AA\n" ++
  "21.EE\n22.\n12C8:18.WA\n19.U\n19.I\n19.AA\n19.EE\n20.\n19.O\n20.A\n18.PHARYNGEAL A\n29.U\n29.I\n" ++
  "29.AA\n29.EE\n30.\n29.O\n12D8:18.ZA\n19.U\n19.I\n19.AA\n19.EE\n20.\n19.O\n19.WA\n19.HA\n20.U\n" ++
  "20.I\n20.AA\n20.EE\n21.\n20.O\n20.WA\n18.YA\n19.U\n19.I\n19.AA\n19.EE\n20.\n19.O\n20.A\n18.DA\n" ++
  "19.U\n19.I\n19.AA\n19.EE\n20.\n19.O\n19.WA\n19.DA\n20.U\n20.I\n20.AA\n20.EE\n21.\n20.O\n20.WA\n" ++
  "18.JA\n19.U\n19.I\n19.AA\n19.EE\n20.\n19.O\n19.WA\n18.GA\n19.U\n19.I\n19.AA\n19.EE\n20.\n19.O\n" ++
  "20.A\n19.WA\n1312:20.I\n20.AA\n20.EE\n21.\n1318:19.GA\n20.U\n20.I\n20.AA\n20.EE\n21.\n20.O\n20.WAA\n" ++
  "18.THA\n20.U\n20.I\n20.AA\n20.EE\n21.\n20.O\n20.WA\n18.CHA\n20.U\n20.I\n20.AA\n20.EE\n21.\n20.O\n" ++
  "20.WA\n18.PHA\n20.U\n20.I\n20.AA\n20.EE\n21.\n20.O\n20.WA\n18.TSA\n20.U\n20.I\n20.AA\n20.EE\n" ++
  "21.\n20.O\n20.WA\n19.ZA\n20.U\n20.I\n20.AA\n20.EE\n21.\n20.O\n21.A\n18.FA\n19.U\n19.I\n19.AA\n" ++
  "19.EE\n20.\n19.O\n19.WA\n18.PA\n19.U\n19.I\n19.AA\n19.EE\n20.\n19.O\n19.WA\n18.RYA\n18.MYA\n18.FYA\n" ++
  "135D:9.COMBINING GEMINATION AND VOWEL LENGTH MARK\n19.VOWEL LENGTH MARK\n19.GEMINATION MARK\n" ++
  "9.SECTION MARK\n9.WORDSPACE\n9.FULL STOP\n9.COMMA\n9.SEMICOLON\n9.COLON\n9.PREFACE COLON\n9.QUESTION MARK\n" ++
  "9.PARAGRAPH SEPARATOR\n9.DIGIT ONE\n15.TWO\n16.HREE\n15.FOUR\n16.IVE\n15.SIX\n16.EVEN\n15.EIGHT\n" ++
  "15.NINE\n9.NUMBER TEN\n17.WENTY\n17.HIRTY\n16.FORTY\n17.IFTY\n16.SIXTY\n17.EVENTY\n16.EIGHTY\n" ++
  "16.NINETY\n16.HUNDRED\n16.TEN THOUSAND\n1380:9.SYLLABLE SEBATBEIT MWA\n18.MWI\n20.EE\n21.\n18.SEBATBEIT BWA\n" ++
  "18.BWI\n20.EE\n21.\n18.SEBATBEIT FWA\n18.FWI\n20.EE\n21.\n18.SEBATBEIT PWA\n18.PWI\n20.EE\n21.\n" ++
  "9.TONAL MARK YIZET\n20.DERET\n20.RIKRIK\n20.SHORT RIKRIK\n20.DIFAT\n20.KENAT\n20.CHIRET\n20.HIDET\n" ++
  "20.DERET-HIDET\n20.KURT\n13A0:0.CHEROKEE LETTER A\n16.E\n16.I\n16.O\n16.U\n16.V\n16.GA\n16.KA\n" ++
  "16.GE\n17.I\n17.O\n17.U\n17.V\n16.HA\n17.E\n17.I\n17.O\n17.U\n17.V\n16.LA\n17.E\n17.I\n17.O\n" ++
  "17.U\n17.V\n16.MA\n17.E\n17.I\n17.O\n17.U\n16.NA\n16.HNA\n16.NAH\n17.E\n17.I\n17.O\n17.U\n17.V\n" ++
  "16.QUA\n18.E\n18.I\n18.O\n18.U\n18.V\n16.SA\n17.\n17.E\n17.I\n17.O\n17.U\n17.V\n16.DA\n16.TA\n" ++
  "16.DE\n16.TE\n16.DI\n16.TI\n16.DO\n17.U\n17.V\n17.LA\n16.TLA\n18.E\n18.I\n18.O\n18.U\n18.V\n17.SA\n" ++
  "18.E\n18.I\n18.O\n18.U\n18.V\n16.WA\n17.E\n17.I\n17.O\n17.U\n17.V\n16.YA\n17.E\n17.I\n17.O\n17.U\n" ++
  "17.V\n16.MV\n13F8:9.SMALL LETTER YE\n23.I\n23.O\n23.U\n23.V\n22.MV\n1400:1.ANADIAN SYLLABICS HYPHEN\n" ++
  "19.E\n19.AAI\n19.I\n20.I\n19.O\n20.O\n19.Y-CREE OO\n19.CARRIER EE\n27.I\n19.A\n20.A\n19.WE\n21.ST-CREE WE\n" ++
  "20.I\n20.EST-CREE WI\n20.II\n20.EST-CREE WII\n20.O\n20.EST-CREE WO\n20.OO\n20.EST-CREE WOO\n19.NASKAPI WOO\n" ++
  "19.WA\n20.EST-CREE WA\n20.AA\n20.EST-CREE WAA\n19.NASKAPI WAA\n19.AI\n19.Y-CREE W\n19.GLOTTAL STOP\n" ++
  "19.FINAL ACUTE\n25.GRAVE\n25.BOTTOM HALF RING\n25.TOP HALF RING\n25.RIGHT HALF RING\n27.NG\n25.DOUBLE ACUTE\n" ++
  "32.SHORT VERTICAL STROKES\n25.MIDDLE DOT\n25.SHORT HORIZONTAL STROKE\n25.PLUS\n25.DOWN TACK\n" ++
  "19.EN\n19.IN\n19.ON\n19.AN\n19.PE\n20.AAI\n20.I\n21.I\n20.O\n21.O\n19.Y-CREE POO\n19.CARRIER HEE\n" ++
  "28.I\n19.PA\n21.A\n20.WE\n19.WEST-CREE PWE\n19.PWI\n19.WEST-CREE PWI\n19.PWII\n19.WEST-CREE PWII\n" ++
  "19.PWO\n19.WEST-CREE PWO\n19.PWOO\n19.WEST-CREE PWOO\n19.PWA\n19.WEST-CREE PWA\n19.PWAA\n19.WEST-CREE PWAA\n" ++
  "19.Y-CREE PWAA\n19.P\n19.WEST-CREE P\n19.CARRIER H\n19.TE\n20.AAI\n20.I\n21.I\n20.O\n21.O\n19.Y-CREE TOO\n" ++
  "19.CARRIER DEE\n28.I\n19.TA\n21.A\n20.WE\n19.WEST-CREE TWE\n19.TWI\n19.WEST-CREE TWI\n19.TWII\n" ++
  "19.WEST-CREE TWII\n19.TWO\n19.WEST-CREE TWO\n19.TWOO\n19.WEST-CREE TWOO\n19.TWA\n19.WEST-CREE TWA\n" ++
  "19.TWAA\n19.WEST-CREE TWAA\n19.NASKAPI TWAA\n19.T\n20.TE\n21.I\n21.O\n21.A\n19.KE\n20.AAI\n20.I\n" ++
  "21.I\n20.O\n21.O\n19.Y-CREE KOO\n19.KA\n21.A\n20.WE\n19.WEST-CREE KWE\n19.KWI\n19.WEST-CREE KWI\n" ++
  "19.KWII\n19.WEST-CREE KWII\n19.KWO\n19.WEST-CREE KWO\n19.KWOO\n19.WEST-CREE KWOO\n19.KWA\n19.WEST-CREE KWA\n" ++
  "19.KWAA\n19.WEST-CREE KWAA\n19.NASKAPI KWAA\n19.K\n20.W\n19.SOUTH-SLAVEY KEH\n33.IH\n33.OH\n33.AH\n" ++
  "19.CE\n20.AAI\n20.I\n21.I\n20.O\n21.O\n19.Y-CREE COO\n19.CA\n21.A\n20.WE\n19.WEST-CREE CWE\n19.CWI\n" ++
  "19.WEST-CREE CWI\n19.CWII\n19.WEST-CREE CWII\n19.CWO\n19.WEST-CREE CWO\n19.CWOO\n19.WEST-CREE CWOO\n" ++
  "19.CWA\n19.WEST-CREE CWA\n19.CWAA\n19.WEST-CREE CWAA\n19.NASKAPI CWAA\n19.C\n19.SAYISI TH\n19.ME\n" ++
  "20.AAI\n20.I\n21.I\n20.O\n21.O\n19.Y-CREE MOO\n19.MA\n21.A\n20.WE\n19.WEST-CREE MWE\n19.MWI\n" ++
  "19.WEST-CREE MWI\n19.MWII\n19.WEST-CREE MWII\n19.MWO\n19.WEST-CREE MWO\n19.MWOO\n19.WEST-CREE MWOO\n" ++
  "19.MWA\n19.WEST-CREE MWA\n19.MWAA\n19.WEST-CREE MWAA\n19.NASKAPI MWAA\n19.M\n19.WEST-CREE M\n" ++
  "19.MH\n19.ATHAPASCAN M\n19.SAYISI M\n19.NE\n20.AAI\n20.I\n21.I\n20.O\n21.O\n19.Y-CREE NOO\n19.NA\n" ++
  "21.A\n20.WE\n19.WEST-CREE NWE\n19.NWA\n19.WEST-CREE NWA\n19.NWAA\n19.WEST-CREE NWAA\n19.NASKAPI NWAA\n" ++
  "20.\n19.CARRIER NG\n19.NH\n19.LE\n20.AAI\n20.I\n21.I\n20.O\n21.O\n19.Y-CREE LOO\n19.LA\n21.A\n" ++
  "20.WE\n19.WEST-CREE LWE\n19.LWI\n19.WEST-CREE LWI\n19.LWII\n19.WEST-CREE LWII\n19.LWO\n19.WEST-CREE LWO\n" ++
  "19.LWOO\n19.WEST-CREE LWOO\n19.LWA\n19.WEST-CREE LWA\n19.LWAA\n19.WEST-CREE LWAA\n19.L\n19.WEST-CREE L\n" ++
  "19.MEDIAL L\n19.SE\n20.AAI\n20.I\n21.I\n20.O\n21.O\n19.Y-CREE SOO\n19.SA\n21.A\n20.WE\n19.WEST-CREE SWE\n" ++
  "19.SWI\n19.WEST-CREE SWI\n19.SWII\n19.WEST-CREE SWII\n19.SWO\n19.WEST-CREE SWO\n19.SWOO\n19.WEST-CREE SWOO\n" ++
  "19.SWA\n19.WEST-CREE SWA\n19.SWAA\n19.WEST-CREE SWAA\n19.NASKAPI SWAA\n19.S\n19.ATHAPASCAN S\n" ++
  "19.SW\n19.BLACKFOOT S\n19.MOOSE-CREE SK\n19.NASKAPI SKW\n28.-W\n28.PWA\n28.TWA\n28.KWA\n28.CWA\n" ++
  "19.SHE\n21.I\n22.I\n21.O\n22.O\n21.A\n22.A\n21.WE\n19.WEST-CREE SHWE\n19.SHWI\n19.WEST-CREE SHWI\n" ++
  "19.SHWII\n19.WEST-CREE SHWII\n19.SHWO\n19.WEST-CREE SHWO\n19.SHWOO\n19.WEST-CREE SHWOO\n19.SHWA\n" ++
  "19.WEST-CREE SHWA\n19.SHWAA\n19.WEST-CREE SHWAA\n19.SH\n19.YE\n20.AAI\n20.I\n21.I\n20.O\n21.O\n" ++
  "20.-CREE YOO\n20.A\n21.A\n20.WE\n19.WEST-CREE YWE\n19.YWI\n19.WEST-CREE YWI\n19.YWII\n19.WEST-CREE YWII\n" ++
  "19.YWO\n19.WEST-CREE YWO\n19.YWOO\n19.WEST-CREE YWOO\n19.YWA\n19.WEST-CREE YWA\n19.YWAA\n19.WEST-CREE YWAA\n" ++
  "19.NASKAPI YWAA\n19.Y\n19.BIBLE-CREE Y\n19.WEST-CREE Y\n19.SAYISI YI\n19.RE\n20.-CREE RE\n19.WEST-CREE LE\n" ++
  "19.RAAI\n20.I\n21.I\n20.O\n21.O\n19.WEST-CREE LO\n19.RA\n21.A\n19.WEST-CREE LA\n19.RWAA\n19.WEST-CREE RWAA\n" ++
  "19.R\n19.WEST-CREE R\n19.MEDIAL R\n19.FE\n20.AAI\n20.I\n21.I\n20.O\n21.O\n20.A\n21.A\n20.WAA\n" ++
  "19.WEST-CREE FWAA\n19.F\n19.THE\n19.N-CREE THE\n19.THI\n19.N-CREE THI\n19.THII\n19.N-CREE THII\n" ++
  "19.THO\n22.O\n21.A\n22.A\n21.WAA\n19.WEST-CREE THWAA\n19.TH\n20.THE\n22.I\n22.O\n22.A\n22.\n20.YE\n" ++
  "21.I\n21.O\n21.A\n19.NUNAVIK HE\n28.I\n29.I\n28.O\n29.O\n28.A\n29.A\n28.\n24.UT H\n19.HK\n19.QAAI\n" ++
  "20.I\n21.I\n20.O\n21.O\n20.A\n21.A\n20.\n19.TLHE\n22.I\n22.O\n22.A\n19.WEST-CREE RE\n30.I\n30.O\n" ++
  "30.A\n19.NGAAI\n21.I\n22.I\n21.O\n22.O\n21.A\n22.A\n21.\n20.NG\n19.SAYISI SHE\n28.I\n28.O\n28.A\n" ++
  "19.WOODS-CREE THE\n32.I\n32.O\n32.A\n32.\n19.LHI\n22.I\n21.O\n22.O\n21.A\n22.A\n21.\n19.TH-CREE THE\n" ++
  "29.I\n30.I\n29.O\n30.O\n29.A\n30.A\n29.\n19.AIVILIK B\n19.BLACKFOOT E\n29.I\n29.O\n29.A\n29.WE\n" ++
  "30.I\n30.O\n30.A\n29.NE\n30.I\n30.O\n30.A\n29.KE\n30.I\n30.O\n30.A\n19.SAYISI HE\n27.I\n27.O\n" ++
  "27.A\n19.CARRIER GHU\n29.O\n29.E\n30.E\n29.I\n29.A\n27.RU\n28.O\n28.E\n29.E\n28.I\n28.A\n27.WU\n" ++
  "28.O\n28.E\n29.E\n28.I\n28.A\n27.HWU\n29.O\n29.E\n30.E\n29.I\n29.A\n27.THU\n29.O\n29.E\n30.E\n" ++
  "29.I\n29.A\n28.TU\n29.O\n29.E\n30.E\n29.I\n29.A\n27.PU\n28.O\n28.E\n29.E\n28.I\n28.A\n28.\n27.GU\n" ++
  "28.O\n28.E\n29.E\n28.I\n28.A\n27.KHU\n29.O\n29.E\n30.E\n29.I\n29.A\n28.KU\n29.O\n29.E\n30.E\n" ++
  "29.I\n29.A\n29.\n27.NU\n28.O\n28.E\n29.E\n28.I\n28.A\n27.MU\n28.O\n28.E\n29.E\n28.I\n28.A\n27.YU\n" ++
  "28.O\n28.E\n29.E\n28.I\n28.A\n27.JU\n19.SAYISI JU\n19.CARRIER JO\n28.E\n29.E\n28.I\n19.SAYISI JI\n" ++
  "19.CARRIER JA\n28.JU\n29.O\n29.E\n30.E\n29.I\n29.A\n27.LU\n28.O\n28.E\n29.E\n28.I\n28.A\n27.DLU\n" ++
  "29.O\n29.E\n30.E\n29.I\n29.A\n27.LHU\n29.O\n29.E\n30.E\n29.I\n29.A\n27.TLHU\n30.O\n30.E\n31.E\n" ++
  "30.I\n30.A\n29.U\n29.O\n29.E\n30.E\n29.I\n29.A\n27.ZU\n28.O\n28.E\n29.E\n28.I\n28.A\n28.\n27.INITIAL Z\n" ++
  "27.DZU\n29.O\n29.E\n30.E\n29.I\n29.A\n27.SU\n28.O\n28.E\n29.E\n28.I\n28.A\n28.HU\n29.O\n29.E\n" ++
  "30.E\n29.I\n29.A\n29.\n27.TSU\n29.O\n29.E\n30.E\n29.I\n29.A\n27.CHU\n29.O\n29.E\n30.E\n29.I\n" ++
  "29.A\n27.TTSU\n30.O\n30.E\n31.E\n30.I\n30.A\n20.HI SIGN\n19.FULL STOP\n19.QAI\n19.NGAI\n20.NGI\n" ++
  "23.I\n22.O\n23.O\n22.A\n23.A\n19.WOODS-CREE THWEE\n33.I\n34.I\n33.O\n34.O\n33.A\n34.A\n30.FINAL TH\n" ++
  "19.BLACKFOOT W\n0.OGHAM SPACE MARK\n6.LETTER BEITH\n13.LUIS\n13.FEARN\n13.SAIL\n13.NION\n13.UATH\n" ++
  "13.DAIR\n13.TINNE\n13.COLL\n14.EIRT\n13.MUIN\n13.GORT\n13.NGEADAL\n13.STRAIF\n13.RUIS\n13.AILM\n" ++
  "13.ONN\n13.UR\n13.EADHADH\n13.IODHADH\n13.EABHADH\n13.OR\n13.UILLEANN\n13.IFIN\n13.EAMHANCHOLL\n" ++
  "13.PEITH\n6.FEATHER MARK\n6.REVERSED FEATHER MARK\n16A0:0.RUNIC LETTER FEHU FEOH FE F\n13.V\n" ++
  "13.URUZ UR U\n13.YR\n14.\n13.W\n13.THURISAZ THURS THORN\n13.ETH\n13.ANSUZ A\n13.OS O\n13.AC A\n" ++
  "14.ESC\n13.LONG-BRANCH-OSS O\n13.SHORT-TWIG-OSS O\n13.O\n14.E\n14.N\n13.RAIDO RAD REID R\n13.KAUNA\n" ++
  "13.CEN\n13.KAUN K\n13.G\n13.ENG\n13.GEBO GYFU G\n14.AR\n13.WUNJO WYNN W\n13.HAGLAZ H\n15.EGL H\n" ++
  "13.LONG-BRANCH-HAGALL H\n13.SHORT-TWIG-HAGALL H\n13.NAUDIZ NYD NAUD N\n13.SHORT-TWIG-NAUD N\n" ++
  "13.DOTTED-N\n13.ISAZ IS ISS I\n13.E\n13.JERAN J\n13.GER\n13.LONG-BRANCH-AR AE\n13.SHORT-TWIG-AR A\n" ++
  "13.IWAZ EOH\n13.PERTHO PEORTH P\n13.ALGIZ EOLHX\n13.SOWILO S\n14.IGEL LONG-BRANCH-SOL S\n14.HORT-TWIG-SOL S\n" ++
  "13.C\n13.Z\n13.TIWAZ TIR TYR T\n13.SHORT-TWIG-TYR T\n13.D\n13.BERKANAN BEORC BJARKAN B\n13.SHORT-TWIG-BJARKAN B\n" ++
  "13.DOTTED-P\n13.OPEN-P\n13.EHWAZ EH E\n13.MANNAZ MAN M\n13.LONG-BRANCH-MADR M\n13.SHORT-TWIG-MADR M\n" ++
  "13.LAUKAZ LAGU LOGR L\n13.DOTTED-L\n13.INGWAZ\n16.\n13.DAGAZ DAEG D\n13.OTHALAN ETHEL O\n13.EAR\n" ++
  "13.IOR\n13.CWEORTH\n14.ALC\n14.EALC\n13.STAN\n13.LONG-BRANCH-YR\n13.SHORT-TWIG-YR\n13.ICELANDIC-YR\n" ++
  "13.Q\n13.X\n6.SINGLE PUNCTUATION\n6.MULTIPLE PUNCTUATION\n6.CROSS PUNCTUATION\n6.ARLAUG SYMBOL\n" ++
  "6.TVIMADUR SYMBOL\n6.BELGTHOR SYMBOL\n6.LETTER K\n13.SH\n13.OO\n13.FRANKS CASKET OS\n27.IS\n27.EH\n" ++
  "27.AC\n28.ESC\n1700:0.TAGALOG LETTER A\n15.I\n15.U\n15.KA\n15.GA\n15.NGA\n15.TA\n15.DA\n15.NA\n" ++
  "15.PA\n15.BA\n15.MA\n15.YA\n15.RA\n15.LA\n15.WA\n15.SA\n15.HA\n8.VOWEL SIGN I\n19.U\n8.SIGN VIRAMA\n" ++
  "13.PAMUDPOD\n171F:8.LETTER ARCHAIC RA\n0.HANUNOO LETTER A\n15.I\n15.U\n15.KA\n15.GA\n15.NGA\n" ++
  "15.TA\n15.DA\n15.NA\n15.PA\n15.BA\n15.MA\n15.YA\n15.RA\n15.LA\n15.WA\n15.SA\n15.HA\n8.VOWEL SIGN I\n" ++
  "19.U\n8.SIGN PAMUDPOD\n0.PHILIPPINE SINGLE PUNCTUATION\n11.DOUBLE PUNCTUATION\n1740:0.BUHID LETTER A\n" ++
  "13.I\n13.U\n13.KA\n13.GA\n13.NGA\n13.TA\n13.DA\n13.NA\n13.PA\n13.BA\n13.MA\n13.YA\n13.RA\n13.LA\n" ++
  "13.WA\n13.SA\n13.HA\n6.VOWEL SIGN I\n17.U\n1760:0.TAGBANWA LETTER A\n16.I\n16.U\n16.KA\n16.GA\n" ++
  "16.NGA\n16.TA\n16.DA\n16.NA\n16.PA\n16.BA\n16.MA\n16.YA\n176E:16.LA\n16.WA\n16.SA\n1772:9.VOWEL SIGN I\n" ++
  "20.U\n1780:0.KHMER LETTER KA\n14.HA\n14.O\n14.HO\n13.NGO\n13.CA\n14.HA\n14.O\n14.HO\n13.NYO\n" ++
  "13.DA\n13.TTHA\n13.DO\n13.TTHO\n13.NNO\n13.TA\n14.HA\n14.O\n14.HO\n13.NO\n13.BA\n13.PHA\n14.O\n" ++
  "14.HO\n13.MO\n13.YO\n13.RO\n13.LO\n13.VO\n13.SHA\n14.SO\n14.A\n13.HA\n13.LA\n13.QA\n6.INDEPENDENT VOWEL QAQ\n" ++
  "26.A\n25.I\n26.I\n25.U\n26.K\n26.U\n27.V\n24.RY\n26.Y\n24.LY\n26.Y\n24.QE\n25.AI\n25.OO TYPE ONE\n" ++
  "33.TWO\n25.AU\n6.VOWEL INHERENT AQ\n22.A\n12.SIGN AA\n17.I\n18.I\n17.Y\n18.Y\n17.U\n18.U\n18.A\n" ++
  "17.OE\n17.YA\n17.IE\n17.E\n17.AE\n18.I\n17.OO\n17.AU\n6.SIGN NIKAHIT\n11.REAHMUK\n11.YUUKALEAPINTU\n" ++
  "11.MUUSIKATOAN\n11.TRIISAP\n11.BANTOC\n11.ROBAT\n11.TOANDAKHIAT\n11.KAKABAT\n11.AHSDA\n11.SAMYOK SANNYA\n" ++
  "11.VIRIAM\n11.COENG\n11.BATHAMASAT\n11.KHAN\n11.BARIYOOSAN\n11.CAMNUC PII KUUH\n11.LEK TOO\n11.BEYYAL\n" ++
  "11.PHNAEK MUAN\n11.KOOMUUT\n6.CURRENCY SYMBOL RIEL\n6.SIGN AVAKRAHASANYA\n12.TTHACAN\n17E0:6.DIGIT ZERO\n" ++
  "12.ONE\n12.TWO\n13.HREE\n12.FOUR\n13.IVE\n12.SIX\n13.EVEN\n12.EIGHT\n12.NINE\n17F0:6.SYMBOL LEK ATTAK SON\n" ++
  "23.MUOY\n23.PII\n23.BEI\n24.UON\n23.PRAM\n27.-MUOY\n28.PII\n28.BEI\n29.UON\n1800:0.MONGOLIAN BIRGA\n" ++
  "10.ELLIPSIS\n10.COMMA\n10.FULL STOP\n10.COLON\n10.FOUR DOTS\n10.TODO SOFT HYPHEN\n10.SIBE SYLLABLE BOUNDARY MARKER\n" ++
  "10.MANCHU COMMA\n17.FULL STOP\n10.NIRUGU\n10.FREE VARIATION SELECTOR ONE\n34.TWO\n35.HREE\n10.VOWEL SEPARATOR\n" ++
  "10.FREE VARIATION SELECTOR FOUR\n10.DIGIT ZERO\n16.ONE\n16.TWO\n17.HREE\n16.FOUR\n17.IVE\n16.SIX\n" ++
  "17.EVEN\n16.EIGHT\n16.NINE\n1820:10.LETTER A\n17.E\n17.I\n17.O\n17.U\n17.OE\n17.UE\n17.EE\n17.NA\n" ++
  "17.ANG\n17.BA\n17.PA\n17.QA\n17.GA\n17.MA\n17.LA\n17.SA\n18.HA\n17.TA\n17.DA\n17.CHA\n17.JA\n" ++
  "17.YA\n17.RA\n17.WA\n17.FA\n17.KA\n18.HA\n17.TSA\n17.ZA\n17.HAA\n17.ZRA\n17.LHA\n17.ZHI\n17.CHI\n" ++
  "17.TODO LONG VOWEL SIGN\n22.E\n22.I\n22.O\n22.U\n22.OE\n22.UE\n22.ANG\n22.BA\n22.PA\n22.QA\n22.GA\n" ++
  "22.MA\n22.TA\n22.DA\n22.CHA\n22.JA\n22.TSA\n22.YA\n22.WA\n22.KA\n22.GAA\n22.HAA\n22.JIA\n22.NIA\n" ++
  "22.DZA\n17.SIBE E\n22.I\n23.Y\n22.UE\n23.\n22.ANG\n22.KA\n22.GA\n22.HA\n22.PA\n22.SHA\n22.TA\n" ++
  "22.DA\n22.JA\n22.FA\n22.GAA\n22.HAA\n22.TSA\n22.ZA\n22.RAA\n22.CHA\n22.ZHA\n17.MANCHU I\n24.KA\n" ++
  "24.RA\n24.FA\n24.ZHA\n17.CHA WITH TWO DOTS\n1880:17.ALI GALI ANUSVARA ONE\n26.VISARGA ONE\n26.DAMARU\n" ++
  "26.UBADAMA\n26.INVERTED UBADAMA\n26.BALUDA\n26.THREE BALUDA\n26.A\n26.I\n26.KA\n26.NGA\n26.CA\n" ++
  "26.TTA\n28.HA\n26.DDA\n26.NNA\n26.TA\n26.DA\n26.PA\n27.HA\n26.SSA\n26.ZHA\n27.A\n26.AH\n17.TODO ALI GALI TA\n" ++
  "31.ZHA\n17.MANCHU ALI GALI GHA\n33.NGA\n33.CA\n33.JHA\n33.TTA\n33.DDHA\n33.TA\n33.DHA\n33.SSA\n" ++
  "33.CYA\n33.ZHA\n34.A\n17.ALI GALI HALF U\n31.YA\n17.MANCHU ALI GALI BHA\n17.ALI GALI DAGALGA\n" ++
  "17.MANCHU ALI GALI LHA\n18B0:0.CANADIAN SYLLABICS OY\n19.AY\n20.AY\n19.WAY\n19.POY\n20.AY\n20.WOY\n" ++
  "19.TAY\n19.KAY\n20.WAY\n19.MAY\n19.NOY\n20.AY\n19.LAY\n19.SOY\n20.AY\n20.HOY\n21.AY\n21.WOY\n" ++
  "19.YOY\n20.AY\n19.RAY\n19.NWI\n19.OJIBWAY NWI\n19.NWII\n19.OJIBWAY NWII\n19.NWO\n19.OJIBWAY NWO\n" ++
  "19.NWOO\n19.OJIBWAY NWOO\n19.RWEE\n21.I\n22.I\n21.O\n22.O\n21.A\n19.OJIBWAY P\n27.T\n27.K\n27.C\n" ++
  "27.M\n27.N\n27.S\n28.H\n19.EASTERN W\n19.WESTERN W\n19.FINAL SMALL RING\n25.RAISED DOT\n19.R-CREE RWE\n" ++
  "19.WEST-CREE LOO\n30.AA\n19.THWE\n22.A\n20.THWE\n22.OO\n22.AA\n20.LHWE\n22.OO\n19.SAYISI SHWE\n" ++
  "28.OO\n26.HOO\n19.CARRIER GWU\n27.DENE GEE\n27.GAA\n28.WA\n19.SAYISI JUU\n19.CARRIER JWA\n19.BEAVER DENE L\n" ++
  "31.R\n19.CARRIER DENTAL S\n1900:0.LIMBU VOWEL-CARRIER LETTER\n6.LETTER KA\n14.HA\n13.GA\n14.HA\n" ++
  "13.NGA\n13.CA\n14.HA\n13.JA\n14.HA\n13.YAN\n13.TA\n14.HA\n13.DA\n14.HA\n13.NA\n13.PA\n14.HA\n" ++
  "13.BA\n14.HA\n13.MA\n13.YA\n13.RA\n13.LA\n13.WA\n13.SHA\n14.SA\n14.A\n13.HA\n13.GYAN\n13.TRA\n" ++
  "1920:6.VOWEL SIGN A\n17.I\n17.U\n17.EE\n17.AI\n17.OO\n17.AU\n17.E\n17.O\n6.SUBJOINED LETTER YA\n" ++
  "23.RA\n23.WA\n1930:7.MALL LETTER KA\n19.NGA\n19.ANUSVARA\n19.TA\n19.NA\n19.PA\n19.MA\n19.RA\n" ++
  "19.LA\n7.IGN MUKPHRENG\n11.KEMPHRENG\n11.SA-I\n1940:11.LOO\n1944:6.EXCLAMATION MARK\n6.QUESTION MARK\n" ++
  "6.DIGIT ZERO\n12.ONE\n12.TWO\n13.HREE\n12.FOUR\n13.IVE\n12.SIX\n13.EVEN\n12.EIGHT\n12.NINE\n0.TAI LE LETTER KA\n" ++
  "14.XA\n14.NGA\n14.TSA\n14.SA\n14.YA\n14.TA\n15.HA\n14.LA\n14.PA\n15.HA\n14.MA\n14.FA\n14.VA\n" ++
  "14.HA\n14.QA\n14.KHA\n14.TSHA\n14.NA\n14.A\n14.I\n14.EE\n15.H\n14.U\n14.OO\n15.\n14.UE\n14.E\n" ++
  "14.AUE\n15.I\n1970:14.TONE-2\n19.3\n19.4\n19.5\n19.6\n1980:0.NEW TAI LUE LETTER HIGH QA\n19.LOW QA\n" ++
  "19.HIGH KA\n24.XA\n24.NGA\n19.LOW KA\n23.XA\n23.NGA\n19.HIGH TSA\n24.SA\n24.YA\n19.LOW TSA\n23.SA\n" ++
  "23.YA\n19.HIGH TA\n25.HA\n24.NA\n19.LOW TA\n24.HA\n23.NA\n19.HIGH PA\n25.HA\n24.MA\n19.LOW PA\n" ++
  "24.HA\n23.MA\n19.HIGH FA\n24.VA\n24.LA\n19.LOW FA\n23.VA\n23.LA\n19.HIGH HA\n24.DA\n24.BA\n19.LOW HA\n" ++
  "23.DA\n23.BA\n19.HIGH KVA\n24.XVA\n19.LOW KVA\n23.XVA\n19.HIGH SUA\n19.LOW SUA\n19B0:12.VOWEL SIGN VOWEL SHORTENER\n" ++
  "23.AA\n23.II\n23.U\n24.U\n23.E\n23.AE\n23.O\n24.A\n23.UE\n23.AY\n24.AY\n23.UY\n23.OY\n24.AY\n" ++
  "23.UEY\n23.IY\n12.LETTER FINAL V\n25.NG\n26.\n25.M\n25.K\n25.D\n25.B\n12.TONE MARK-1\n22.2\n19D0:12.DIGIT ZERO\n" ++
  "18.ONE\n18.TWO\n19.HREE\n18.FOUR\n19.IVE\n18.SIX\n19.EVEN\n18.EIGHT\n18.NINE\n12.THAM DIGIT ONE\n" ++
  "19DE:12.SIGN LAE\n20.V\n0.KHMER SYMBOL PATHAMASAT\n13.MUOY KOET\n13.PII KOET\n13.BEI KOET\n14.UON KOET\n" ++
  "13.PRAM KOET\n17.-MUOY KOET\n18.PII KOET\n18.BEI KOET\n19.UON KOET\n13.DAP KOET\n16.-MUOY KOET\n" ++
  "17.PII KOET\n17.BEI KOET\n18.UON KOET\n17.PRAM KOET\n13.TUTEYASAT\n13.MUOY ROC\n13.PII ROC\n13.BEI ROC\n" ++
  "14.UON ROC\n13.PRAM ROC\n17.-MUOY ROC\n18.PII ROC\n18.BEI ROC\n19.UON ROC\n13.DAP ROC\n16.-MUOY ROC\n" ++
  "17.PII ROC\n17.BEI ROC\n18.UON ROC\n17.PRAM ROC\n0.BUGINESE LETTER KA\n16.GA\n16.NGA\n18.KA\n" ++
  "16.PA\n16.BA\n16.MA\n17.PA\n16.TA\n16.DA\n16.NA\n17.RA\n16.CA\n16.JA\n16.NYA\n18.CA\n16.YA\n16.RA\n" ++
  "16.LA\n16.VA\n16.SA\n16.A\n16.HA\n9.VOWEL SIGN I\n20.U\n20.E\n20.O\n20.AE\n1A1E:9.PALLAWA\n9.END OF SECTION\n" ++
  "0.TAI THAM LETTER HIGH KA\n22.HA\n22.XA\n16.LOW KA\n21.XA\n21.HA\n16.NGA\n16.HIGH CA\n22.HA\n" ++
  "16.LOW CA\n20.SA\n20.CHA\n16.NYA\n16.RATA\n16.HIGH RATHA\n16.DA\n16.LOW RATHA\n16.RANA\n16.HIGH TA\n" ++
  "22.HA\n16.LOW TA\n21.HA\n16.NA\n16.BA\n16.HIGH PA\n22.HA\n21.FA\n16.LOW PA\n20.FA\n20.PHA\n16.MA\n" ++
  "16.LOW YA\n16.HIGH YA\n16.RA\n17.UE\n16.LA\n17.UE\n16.WA\n16.HIGH SHA\n22.SA\n22.A\n21.HA\n16.LLA\n" ++
  "16.A\n16.LOW HA\n16.I\n17.I\n16.U\n17.U\n16.EE\n16.OO\n16.LAE\n16.GREAT SA\n9.CONSONANT SIGN MEDIAL RA\n" ++
  "31.LA\n24.LA TANG LAI\n9.SIGN MAI KANG LAI\n9.CONSONANT SIGN FINAL NGA\n24.LOW PA\n24.HIGH RATHA OR LOW PA\n" ++
  "24.MA\n24.BA\n24.SA\n1A60:9.SIGN SAKOT\n9.VOWEL SIGN A\n20.MAI SAT\n20.AA\n20.TALL AA\n20.I\n" ++
  "21.I\n20.UE\n21.UE\n21.\n21.U\n20.O\n21.A BELOW\n21.Y\n20.E\n20.AE\n20.OO\n20.AI\n20.THAM AI\n" ++
  "20.OA ABOVE\n9.SIGN MAI KANG\n14.TONE-1\n19.2\n14.KHUEN TONE-3\n25.4\n25.5\n14.RA HAAM\n14.MAI SAM\n" ++
  "14.KHUEN-LUE KARAN\n1A7F:9.COMBINING CRYPTOGRAMMIC DOT\n9.HORA DIGIT ZERO\n20.ONE\n20.TWO\n21.HREE\n" ++
  "20.FOUR\n21.IVE\n20.SIX\n21.EVEN\n20.EIGHT\n20.NINE\n1A90:9.THAM DIGIT ZERO\n20.ONE\n20.TWO\n" ++
  "21.HREE\n20.FOUR\n21.IVE\n20.SIX\n21.EVEN\n20.EIGHT\n20.NINE\n1AA0:9.SIGN WIANG\n19.WAAK\n14.SAWAN\n" ++
  "14.KEOW\n14.HOY\n14.DOKMAI\n14.REVERSED ROTATED RANA\n14.MAI YAMOK\n14.KAAN\n18.KUU\n14.SATKAAN\n" ++
  "21.KUU\n14.HANG\n14.CAANG\n1AB0:0.COMBINING DOUBLED CIRCUMFLEX ACCENT\n11.IAERESIS-RING\n10.INFINITY\n"

/-- Part 3 of `nameLines`. -/
def nameLinesPart3 : String :=
  "10.DOWNWARDS ARROW\n10.TRIPLE DOT\n10.X-X BELOW\n10.WIGGLY LINE BELOW\n10.OPEN MARK BELOW\n10.DOUBLE OPEN MARK BELOW\n" ++
  "10.LIGHT CENTRALIZATION STROKE BELOW\n10.STRONG CENTRALIZATION STROKE BELOW\n10.PARENTHESES ABOVE\n" ++
  "10.DOUBLE PARENTHESES ABOVE\n10.PARENTHESES BELOW\n22.OVERLAY\n10.LATIN SMALL LETTER W BELOW\n" ++
  "29.TURNED W BELOW\n11.EFT PARENTHESIS ABOVE LEFT\n10.RIGHT PARENTHESIS ABOVE RIGHT\n10.LEFT PARENTHESIS BELOW LEFT\n" ++
  "10.RIGHT PARENTHESIS BELOW RIGHT\n10.SQUARE BRACKETS ABOVE\n10.NUMBER SIGN ABOVE\n10.INVERTED DOUBLE ARCH ABOVE\n" ++
  "10.PLUS SIGN ABOVE\n10.DOUBLE PLUS SIGN ABOVE\n27.BELOW\n10.TRIPLE ACUTE ACCENT\n10.LATIN SMALL LETTER INSULAR G\n" ++
  "37.R\n37.T\n1B00:0.BALINESE SIGN ULU RICEM\n18.CANDRA\n14.CECEK\n14.SURANG\n14.BISAH\n9.LETTER AKARA\n" ++
  "21. TEDUNG\n16.IKARA\n21. TEDUNG\n16.UKARA\n21. TEDUNG\n16.RA REPA\n23. TEDUNG\n16.LA LENGA\n" ++
  "24. TEDUNG\n16.EKARA\n16.AIKARA\n16.OKARA\n21. TEDUNG\n16.KA\n18. MAHAPRANA\n16.GA\n18. GORA\n" ++
  "16.NGA\n16.CA\n18. LACA\n16.JA\n18. JERA\n16.NYA\n16.TA LATIK\n19.MURDA MAHAPRANA\n16.DA MURDA ALPAPRANA\n" ++
  "25.MAHAPRANA\n16.NA RAMBAT\n16.TA\n18. TAWA\n16.DA\n18. MADU\n16.NA\n16.PA\n18. KAPAL\n16.BA\n" ++
  "18. KEMBANG\n16.MA\n16.YA\n16.RA\n16.LA\n16.WA\n16.SA SAGA\n21.PA\n18.\n16.HA\n9.SIGN REREKAN\n" ++
  "9.VOWEL SIGN TEDUNG\n20.ULU\n23. SARI\n20.SUKU\n24. ILUT\n20.RA REPA\n27. TEDUNG\n20.LA LENGA\n" ++
  "28. TEDUNG\n20.TALING\n26. REPA\n27.TEDUNG\n27.REPA TEDUNG\n20.PEPET\n25. TEDUNG\n9.ADEG ADEG\n" ++
  "9.LETTER KAF SASAK\n17.HOT SASAK\n16.TZIR SASAK\n16.EF SASAK\n16.VE SASAK\n16.ZAL SASAK\n16.ASYURA SASAK\n" ++
  "17.RCHAIC JNYA\n1B50:9.DIGIT ZERO\n15.ONE\n15.TWO\n16.HREE\n15.FOUR\n16.IVE\n15.SIX\n16.EVEN\n" ++
  "15.EIGHT\n15.NINE\n9.PANTI\n11.MADA\n9.WINDU\n9.CARIK PAMUNGKAH\n15.SIKI\n15.PAREREN\n9.PAMENENG\n" ++
  "9.MUSICAL SYMBOL DONG\n25.ENG\n25.UNG\n25.ANG\n28. SURANG\n25.ING\n25.AENG\n25.EUNG\n25.AING\n" ++
  "26.NG GEDE\n24.COMBINING TEGEH\n34.ENDEP\n34.KEMPUL\n38.LI\n34.JEGOGAN\n34.KEMPUL WITH JEGOGAN\n" ++
  "38.LI WITH JEGOGAN\n34.BENDE\n34.GONG\n24.RIGHT-HAND OPEN DUG\n41.AG\n35.CLOSED TUK\n43.AK\n24.LEFT-HAND OPEN PANG\n" ++
  "40.UNG\n34.CLOSED PLAK\n43.UK\n34.OPEN PING\n9.PANTI LANTANG\n11.MADA LANTANG\n1B80:0.SUNDANESE SIGN PANYECEK\n" ++
  "18.GLAYAR\n19.WISAD\n10.LETTER A\n17.I\n17.U\n17.AE\n17.O\n17.E\n18.U\n17.KA\n17.QA\n17.GA\n17.NGA\n" ++
  "17.CA\n17.JA\n17.ZA\n17.NYA\n17.TA\n17.DA\n17.NA\n17.PA\n17.FA\n17.VA\n17.BA\n17.MA\n17.YA\n17.RA\n" ++
  "17.LA\n17.WA\n17.SA\n17.XA\n17.HA\n10.CONSONANT SIGN PAMINGKAL\n27.NYAKRA\n29.IKU\n10.VOWEL SIGN PANGHULU\n" ++
  "24.YUKU\n24.AELAENG\n24.OLONG\n23.MEPET\n23.NEULEUNG\n10.SIGN PAMAAEH\n15.VIRAMA\n10.CONSONANT SIGN PASANGAN MA\n" ++
  "34.WA\n10.LETTER KHA\n17.SYA\n10.DIGIT ZERO\n16.ONE\n16.TWO\n17.HREE\n16.FOUR\n17.IVE\n16.SIX\n" ++
  "17.EVEN\n16.EIGHT\n16.NINE\n10.AVAGRAHA\n10.LETTER REU\n17.LEU\n17.BHA\n17.FINAL K\n23.M\n0.BATAK LETTER A\n" ++
  "13.SIMALUNGUN A\n13.HA\n13.SIMALUNGUN HA\n13.MANDAILING HA\n13.BA\n13.KARO BA\n13.PA\n13.SIMALUNGUN PA\n" ++
  "13.NA\n13.MANDAILING NA\n13.WA\n13.SIMALUNGUN WA\n13.PAKPAK WA\n13.GA\n13.SIMALUNGUN GA\n13.JA\n" ++
  "13.DA\n13.RA\n13.SIMALUNGUN RA\n13.MA\n13.SIMALUNGUN MA\n14.OUTHERN TA\n13.NORTHERN TA\n13.SA\n" ++
  "14.IMALUNGUN SA\n13.MANDAILING SA\n13.YA\n13.SIMALUNGUN YA\n13.NGA\n13.LA\n13.SIMALUNGUN LA\n" ++
  "13.NYA\n13.CA\n13.NDA\n13.MBA\n13.I\n13.U\n6.SIGN TOMPI\n6.VOWEL SIGN E\n17.PAKPAK E\n17.EE\n" ++
  "17.I\n17.KARO I\n17.O\n17.KARO O\n17.U\n18. FOR SIMALUNGUN SA\n6.CONSONANT SIGN NG\n21.H\n6.PANGOLAT\n" ++
  "9.ONGONAN\n1BFC:6.SYMBOL BINDU NA METEK\n19.PINARBORAS\n19.JUDUL\n19.PANGOLAT\n0.LEPCHA LETTER KA\n" ++
  "15.LA\n15.HA\n14.GA\n15.LA\n14.NGA\n14.CA\n15.HA\n14.JA\n14.NYA\n14.TA\n15.HA\n14.DA\n14.NA\n" ++
  "14.PA\n15.LA\n15.HA\n14.FA\n15.LA\n14.BA\n15.LA\n14.MA\n15.LA\n14.TSA\n16.HA\n14.DZA\n14.YA\n" ++
  "14.RA\n14.LA\n14.HA\n15.LA\n14.VA\n14.SA\n15.HA\n14.WA\n14.A\n7.SUBJOINED LETTER YA\n24.RA\n7.VOWEL SIGN AA\n" ++
  "18.I\n18.O\n19.O\n18.U\n19.U\n18.E\n7.CONSONANT SIGN K\n22.M\n22.L\n22.N\n22.P\n22.R\n22.T\n22.NYIN-DO\n" ++
  "22.KANG\n7.SIGN RAN\n12.NUKTA\n1C3B:7.PUNCTUATION TA-ROL\n19.NYET THYOOM TA-ROL\n19.CER-WA\n19.TSHOOK CER-WA\n" ++
  "25.\n7.DIGIT ZERO\n13.ONE\n13.TWO\n14.HREE\n13.FOUR\n14.IVE\n13.SIX\n14.EVEN\n13.EIGHT\n13.NINE\n" ++
  "1C4D:7.LETTER TTA\n16.HA\n14.DDA\n0.OL CHIKI DIGIT ZERO\n15.ONE\n15.TWO\n16.HREE\n15.FOUR\n16.IVE\n" ++
  "15.SIX\n16.EVEN\n15.EIGHT\n15.NINE\n9.LETTER LA\n16.AT\n17.G\n17.NG\n17.L\n16.LAA\n16.AAK\n18.J\n" ++
  "18.M\n18.W\n16.LI\n16.IS\n17.H\n17.NY\n17.R\n16.LU\n16.UC\n17.D\n17.NN\n17.Y\n16.LE\n16.EP\n17.DD\n" ++
  "17.N\n17.RR\n16.LO\n16.OTT\n17.B\n17.V\n17.H\n9.MU TTUDDAG\n9.GAAHLAA TTUDDAAG\n9.MU-GAAHLAA TTUDDAAG\n" ++
  "9.RELAA\n9.PHAARKAA\n9.AHAD\n9.PUNCTUATION MUCAAD\n21.DOUBLE MUCAAD\n0.CYRILLIC SMALL LETTER ROUNDED VE\n" ++
  "22.LONG-LEGGED DE\n22.NARROW O\n22.WIDE ES\n22.TALL TE\n23.HREE-LEGGED TE\n23.ALL HARD SIGN\n" ++
  "27.YAT\n22.UNBLENDED UK\n1C90:0.GEORGIAN MTAVRULI CAPITAL LETTER AN\n33.BAN\n33.GAN\n33.DON\n" ++
  "33.EN\n33.VIN\n33.ZEN\n33.TAN\n33.IN\n33.KAN\n33.LAS\n33.MAN\n33.NAR\n33.ON\n33.PAR\n33.ZHAR\n" ++
  "33.RAE\n33.SAN\n33.TAR\n33.UN\n33.PHAR\n33.KHAR\n33.GHAN\n33.QAR\n33.SHIN\n33.CHIN\n34.AN\n33.JIL\n" ++
  "33.CIL\n34.HAR\n33.XAN\n33.JHAN\n33.HAE\n34.E\n34.IE\n33.WE\n33.HAR\n34.OE\n33.FI\n33.YN\n33.ELIFI\n" ++
  "33.TURNED GAN\n33.AIN\n1CBD:34.EN\n33.HARD SIGN\n33.LABIAL SIGN\n0.SUNDANESE PUNCTUATION BINDU SURYA\n" ++
  "28.PANGLONG\n29.URNAMA\n28.CAKRA\n28.LEU SATANGA\n28.KA SATANGA\n28.DA SATANGA\n28.BA SATANGA\n" ++
  "1CD0:0.VEDIC TONE KARSHANA\n11.SHARA\n11.PRENKHA\n6.SIGN NIHSHVASA\n11.YAJURVEDIC MIDLINE SVARITA\n" ++
  "6.TONE YAJURVEDIC AGGRAVATED INDEPENDENT SVARITA\n22.INDEPENDENT SVARITA\n22.KATHAKA INDEPENDENT SVARITA\n" ++
  "11.CANDRA BELOW\n11.YAJURVEDIC KATHAKA INDEPENDENT SVARITA SCHROEDER\n11.DOUBLE SVARITA\n11.TRIPLE SVARITA\n" ++
  "11.KATHAKA ANUDATTA\n11.DOT BELOW\n11.TWO DOTS BELOW\n12.HREE DOTS BELOW\n11.RIGVEDIC KASHMIRI INDEPENDENT SVARITA\n" ++
  "11.ATHARVAVEDIC INDEPENDENT SVARITA\n6.SIGN VISARGA SVARITA\n19.UDATTA\n11.REVERSED VISARGA UDATTA\n" ++
  "11.VISARGA ANUDATTA\n11.REVERSED VISARGA ANUDATTA\n11.VISARGA UDATTA WITH TAIL\n19.ANUDATTA WITH TAIL\n" ++
  "11.ANUSVARA ANTARGOMUKHA\n20.BAHIRGOMUKHA\n20.VAMAGOMUKHA\n31. WITH TAIL\n11.TIRYAK\n11.HEXIFORM LONG ANUSVARA\n" ++
  "11.LONG ANUSVARA\n11.RTHANG LONG ANUSVARA\n11.ANUSVARA UBHAYATO MUKHA\n12.RDHAVISARGA\n11.ROTATED ARDHAVISARGA\n" ++
  "6.TONE CANDRA ABOVE\n6.SIGN JIHVAMULIYA\n11.UPADHMANIYA\n11.ATIKRAMA\n6.TONE RING ABOVE\n11.DOUBLE RING ABOVE\n" ++
  "6.SIGN DOUBLE ANUSVARA ANTARGOMUKHA\n1D00:0.LATIN LETTER SMALL CAPITAL A\n28.E\n6.SMALL LETTER TURNED AE\n" ++
  "6.LETTER SMALL CAPITAL BARRED B\n27.C\n27.D\n27.ETH\n28.\n6.SMALL LETTER TURNED OPEN E\n26.I\n" ++
  "6.LETTER SMALL CAPITAL J\n27.K\n27.L WITH STROKE\n27.M\n27.REVERSED N\n27.O\n28.PEN O\n6.SMALL LETTER SIDEWAYS O\n" ++
  "29.PEN O\n29. WITH STROKE\n19.TURNED OE\n6.LETTER SMALL CAPITAL OU\n6.SMALL LETTER TOP HALF O\n" ++
  "19.BOTTOM HALF O\n6.LETTER SMALL CAPITAL P\n27.REVERSED R\n27.TURNED R\n28.\n27.U\n6.SMALL LETTER SIDEWAYS U\n" ++
  "28.DIAERESIZED U\n28.TURNED M\n6.LETTER SMALL CAPITAL V\n27.W\n27.Z\n27.EZH\n13.VOICED LARYNGEAL SPIRANT\n" ++
  "13.AIN\n0.GREEK LETTER SMALL CAPITAL GAMMA\n27.LAMDA\n27.PI\n27.RHO\n27.PSI\n0.CYRILLIC LETTER SMALL CAPITAL EL\n" ++
  "0.MODIFIER LETTER CAPITAL A\n25.E\n24.B\n25.ARRED B\n24.D\n24.E\n24.REVERSED E\n24.G\n24.H\n24.I\n" ++
  "24.J\n24.K\n24.L\n24.M\n24.N\n24.REVERSED N\n24.O\n25.U\n24.P\n24.R\n24.T\n24.U\n24.W\n16.SMALL A\n" ++
  "22.TURNED A\n22.ALPHA\n22.TURNED AE\n22.B\n22.D\n22.E\n22.SCHWA\n22.OPEN E\n22.TURNED OPEN E\n" ++
  "22.G\n22.TURNED I\n22.K\n22.M\n22.ENG\n22.O\n23.PEN O\n22.TOP HALF O\n22.BOTTOM HALF O\n22.P\n" ++
  "22.T\n22.U\n22.SIDEWAYS U\n22.TURNED M\n22.V\n22.AIN\n22.BETA\n22.GREEK GAMMA\n22.DELTA\n22.GREEK PHI\n" ++
  "22.CHI\n0.LATIN SUBSCRIPT SMALL LETTER I\n29.R\n29.U\n29.V\n0.GREEK SUBSCRIPT SMALL LETTER BETA\n" ++
  "29.GAMMA\n29.RHO\n29.PHI\n29.CHI\n0.LATIN SMALL LETTER UE\n19.B WITH MIDDLE TILDE\n19.D WITH MIDDLE TILDE\n" ++
  "19.F WITH MIDDLE TILDE\n19.M WITH MIDDLE TILDE\n19.N WITH MIDDLE TILDE\n19.P WITH MIDDLE TILDE\n" ++
  "19.R WITH MIDDLE TILDE\n26.FISHHOOK AND MIDDLE TILDE\n19.S WITH MIDDLE TILDE\n19.T WITH MIDDLE TILDE\n" ++
  "19.Z WITH MIDDLE TILDE\n19.TURNED G\n0.MODIFIER LETTER CYRILLIC EN\n0.LATIN SMALL LETTER INSULAR G\n" ++
  "19.TH WITH STRIKETHROUGH\n12.CAPITAL LETTER I WITH STROKE\n12.LETTER IOTA WITH STROKE\n19.P WITH STROKE\n" ++
  "12.CAPITAL LETTER U WITH STROKE\n12.LETTER UPSILON WITH STROKE\n19.B WITH PALATAL HOOK\n19.D WITH PALATAL HOOK\n" ++
  "19.F WITH PALATAL HOOK\n19.G WITH PALATAL HOOK\n19.K WITH PALATAL HOOK\n19.L WITH PALATAL HOOK\n" ++
  "19.M WITH PALATAL HOOK\n19.N WITH PALATAL HOOK\n19.P WITH PALATAL HOOK\n19.R WITH PALATAL HOOK\n" ++
  "19.S WITH PALATAL HOOK\n19.ESH WITH PALATAL HOOK\n19.V WITH PALATAL HOOK\n19.X WITH PALATAL HOOK\n" ++
  "19.Z WITH PALATAL HOOK\n19.A WITH RETROFLEX HOOK\n20.LPHA WITH RETROFLEX HOOK\n19.D WITH HOOK AND TAIL\n" ++
  "19.E WITH RETROFLEX HOOK\n19.OPEN E WITH RETROFLEX HOOK\n19.REVERSED OPEN E WITH RETROFLEX HOOK\n" ++
  "19.SCHWA WITH RETROFLEX HOOK\n19.I WITH RETROFLEX HOOK\n19.OPEN O WITH RETROFLEX HOOK\n19.ESH WITH RETROFLEX HOOK\n" ++
  "19.U WITH RETROFLEX HOOK\n19.EZH WITH RETROFLEX HOOK\n0.MODIFIER LETTER SMALL TURNED ALPHA\n22.C\n" ++
  "23. WITH CURL\n22.ETH\n22.REVERSED OPEN E\n22.F\n22.DOTLESS J WITH STROKE\n22.SCRIPT G\n22.TURNED H\n" ++
  "22.I WITH STROKE\n23.OTA\n22.CAPITAL I\n31. WITH STROKE\n22.J WITH CROSSED-TAIL\n22.L WITH RETROFLEX HOOK\n" ++
  "29.PALATAL HOOK\n22.CAPITAL L\n22.M WITH HOOK\n22.TURNED M WITH LONG LEG\n22.N WITH LEFT HOOK\n" ++
  "29.RETROFLEX HOOK\n22.CAPITAL N\n22.BARRED O\n22.PHI\n22.S WITH HOOK\n22.ESH\n22.T WITH PALATAL HOOK\n" ++
  "22.U BAR\n23.PSILON\n22.CAPITAL U\n22.V WITH HOOK\n22.TURNED V\n22.Z\n23. WITH RETROFLEX HOOK\n" ++
  "29.CURL\n22.EZH\n22.THETA\n0.COMBINING DOTTED GRAVE ACCENT\n17.ACUTE ACCENT\n10.SNAKE BELOW\n" ++
  "11.USPENSION MARK\n10.MACRON-ACUTE\n10.GRAVE-MACRON\n10.MACRON-GRAVE\n10.ACUTE-MACRON\n10.GRAVE-ACUTE-GRAVE\n" ++
  "10.ACUTE-GRAVE-ACUTE\n10.LATIN SMALL LETTER R BELOW\n10.BREVE-MACRON\n10.MACRON-BREVE\n10.DOUBLE CIRCUMFLEX ABOVE\n" ++
  "10.OGONEK ABOVE\n10.ZIGZAG BELOW\n10.IS BELOW\n10.UR ABOVE\n11.S ABOVE\n10.LATIN SMALL LETTER FLATTENED OPEN A ABOVE\n" ++
  "29.AE\n30.O\n30.V\n29.C CEDILLA\n29.INSULAR D\n29.ETH\n29.G\n16.LETTER SMALL CAPITAL G\n16.SMALL LETTER K\n" ++
  "29.L\n16.LETTER SMALL CAPITAL L\n37.M\n16.SMALL LETTER N\n16.LETTER SMALL CAPITAL N\n37.R\n16.SMALL LETTER R ROTUNDA\n" ++
  "29.S\n29.LONG S\n29.Z\n29.ALPHA\n29.B\n30.ETA\n29.SCHWA\n29.F\n29.L WITH DOUBLE MIDDLE TILDE\n" ++
  "29.O WITH LIGHT CENTRALIZATION STROKE\n29.P\n29.ESH\n29.U WITH LIGHT CENTRALIZATION STROKE\n29.W\n" ++
  "29.A WITH DIAERESIS\n29.O WITH DIAERESIS\n29.U WITH DIAERESIS\n10.UP TACK ABOVE\n10.KAVYKA ABOVE RIGHT\n" ++
  "23.LEFT\n10.DOT ABOVE LEFT\n10.WIDE INVERTED BRIDGE BELOW\n10.DOT BELOW LEFT\n11.ELETION MARK\n" ++
  "11.OUBLE INVERTED BREVE BELOW\n10.ALMOST EQUAL TO BELOW\n10.LEFT ARROWHEAD ABOVE\n10.RIGHT ARROWHEAD AND DOWN ARROWHEAD BELOW\n" ++
  "0.LATIN CAPITAL LETTER A WITH RING BELOW\n6.SMALL LETTER A WITH RING BELOW\n6.CAPITAL LETTER B WITH DOT ABOVE\n" ++
  "6.SMALL LETTER B WITH DOT ABOVE\n6.CAPITAL LETTER B WITH DOT BELOW\n6.SMALL LETTER B WITH DOT BELOW\n" ++
  "6.CAPITAL LETTER B WITH LINE BELOW\n6.SMALL LETTER B WITH LINE BELOW\n6.CAPITAL LETTER C WITH CEDILLA AND ACUTE\n" ++
  "6.SMALL LETTER C WITH CEDILLA AND ACUTE\n6.CAPITAL LETTER D WITH DOT ABOVE\n6.SMALL LETTER D WITH DOT ABOVE\n" ++
  "6.CAPITAL LETTER D WITH DOT BELOW\n6.SMALL LETTER D WITH DOT BELOW\n6.CAPITAL LETTER D WITH LINE BELOW\n" ++
  "6.SMALL LETTER D WITH LINE BELOW\n6.CAPITAL LETTER D WITH CEDILLA\n6.SMALL LETTER D WITH CEDILLA\n" ++
  "6.CAPITAL LETTER D WITH CIRCUMFLEX BELOW\n6.SMALL LETTER D WITH CIRCUMFLEX BELOW\n6.CAPITAL LETTER E WITH MACRON AND GRAVE\n" ++
  "6.SMALL LETTER E WITH MACRON AND GRAVE\n6.CAPITAL LETTER E WITH MACRON AND ACUTE\n6.SMALL LETTER E WITH MACRON AND ACUTE\n" ++
  "6.CAPITAL LETTER E WITH CIRCUMFLEX BELOW\n6.SMALL LETTER E WITH CIRCUMFLEX BELOW\n6.CAPITAL LETTER E WITH TILDE BELOW\n" ++
  "6.SMALL LETTER E WITH TILDE BELOW\n6.CAPITAL LETTER E WITH CEDILLA AND BREVE\n6.SMALL LETTER E WITH CEDILLA AND BREVE\n" ++
  "6.CAPITAL LETTER F WITH DOT ABOVE\n6.SMALL LETTER F WITH DOT ABOVE\n6.CAPITAL LETTER G WITH MACRON\n" ++
  "6.SMALL LETTER G WITH MACRON\n6.CAPITAL LETTER H WITH DOT ABOVE\n6.SMALL LETTER H WITH DOT ABOVE\n" ++
  "6.CAPITAL LETTER H WITH DOT BELOW\n6.SMALL LETTER H WITH DOT BELOW\n6.CAPITAL LETTER H WITH DIAERESIS\n" ++
  "6.SMALL LETTER H WITH DIAERESIS\n6.CAPITAL LETTER H WITH CEDILLA\n6.SMALL LETTER H WITH CEDILLA\n" ++
  "6.CAPITAL LETTER H WITH BREVE BELOW\n6.SMALL LETTER H WITH BREVE BELOW\n6.CAPITAL LETTER I WITH TILDE BELOW\n" ++
  "6.SMALL LETTER I WITH TILDE BELOW\n6.CAPITAL LETTER I WITH DIAERESIS AND ACUTE\n6.SMALL LETTER I WITH DIAERESIS AND ACUTE\n" ++
  "6.CAPITAL LETTER K WITH ACUTE\n6.SMALL LETTER K WITH ACUTE\n6.CAPITAL LETTER K WITH DOT BELOW\n" ++
  "6.SMALL LETTER K WITH DOT BELOW\n6.CAPITAL LETTER K WITH LINE BELOW\n6.SMALL LETTER K WITH LINE BELOW\n" ++
  "6.CAPITAL LETTER L WITH DOT BELOW\n6.SMALL LETTER L WITH DOT BELOW\n6.CAPITAL LETTER L WITH DOT BELOW AND MACRON\n" ++
  "6.SMALL LETTER L WITH DOT BELOW AND MACRON\n6.CAPITAL LETTER L WITH LINE BELOW\n6.SMALL LETTER L WITH LINE BELOW\n" ++
  "6.CAPITAL LETTER L WITH CIRCUMFLEX BELOW\n6.SMALL LETTER L WITH CIRCUMFLEX BELOW\n6.CAPITAL LETTER M WITH ACUTE\n" ++
  "6.SMALL LETTER M WITH ACUTE\n6.CAPITAL LETTER M WITH DOT ABOVE\n6.SMALL LETTER M WITH DOT ABOVE\n" ++
  "6.CAPITAL LETTER M WITH DOT BELOW\n6.SMALL LETTER M WITH DOT BELOW\n6.CAPITAL LETTER N WITH DOT ABOVE\n" ++
  "6.SMALL LETTER N WITH DOT ABOVE\n6.CAPITAL LETTER N WITH DOT BELOW\n6.SMALL LETTER N WITH DOT BELOW\n" ++
  "6.CAPITAL LETTER N WITH LINE BELOW\n6.SMALL LETTER N WITH LINE BELOW\n6.CAPITAL LETTER N WITH CIRCUMFLEX BELOW\n" ++
  "6.SMALL LETTER N WITH CIRCUMFLEX BELOW\n6.CAPITAL LETTER O WITH TILDE AND ACUTE\n6.SMALL LETTER O WITH TILDE AND ACUTE\n" ++
  "6.CAPITAL LETTER O WITH TILDE AND DIAERESIS\n6.SMALL LETTER O WITH TILDE AND DIAERESIS\n6.CAPITAL LETTER O WITH MACRON AND GRAVE\n" ++
  "6.SMALL LETTER O WITH MACRON AND GRAVE\n6.CAPITAL LETTER O WITH MACRON AND ACUTE\n6.SMALL LETTER O WITH MACRON AND ACUTE\n" ++
  "6.CAPITAL LETTER P WITH ACUTE\n6.SMALL LETTER P WITH ACUTE\n6.CAPITAL LETTER P WITH DOT ABOVE\n" ++
  "6.SMALL LETTER P WITH DOT ABOVE\n6.CAPITAL LETTER R WITH DOT ABOVE\n6.SMALL LETTER R WITH DOT ABOVE\n" ++
  "6.CAPITAL LETTER R WITH DOT BELOW\n6.SMALL LETTER R WITH DOT BELOW\n6.CAPITAL LETTER R WITH DOT BELOW AND MACRON\n" ++
  "6.SMALL LETTER R WITH DOT BELOW AND MACRON\n6.CAPITAL LETTER R WITH LINE BELOW\n6.SMALL LETTER R WITH LINE BELOW\n" ++
  "6.CAPITAL LETTER S WITH DOT ABOVE\n6.SMALL LETTER S WITH DOT ABOVE\n6.CAPITAL LETTER S WITH DOT BELOW\n" ++
  "6.SMALL LETTER S WITH DOT BELOW\n6.CAPITAL LETTER S WITH ACUTE AND DOT ABOVE\n6.SMALL LETTER S WITH ACUTE AND DOT ABOVE\n" ++
  "6.CAPITAL LETTER S WITH CARON AND DOT ABOVE\n6.SMALL LETTER S WITH CARON AND DOT ABOVE\n6.CAPITAL LETTER S WITH DOT BELOW AND DOT ABOVE\n" ++
  "6.SMALL LETTER S WITH DOT BELOW AND DOT ABOVE\n6.CAPITAL LETTER T WITH DOT ABOVE\n6.SMALL LETTER T WITH DOT ABOVE\n" ++
  "6.CAPITAL LETTER T WITH DOT BELOW\n6.SMALL LETTER T WITH DOT BELOW\n6.CAPITAL LETTER T WITH LINE BELOW\n" ++
  "6.SMALL LETTER T WITH LINE BELOW\n6.CAPITAL LETTER T WITH CIRCUMFLEX BELOW\n6.SMALL LETTER T WITH CIRCUMFLEX BELOW\n" ++
  "6.CAPITAL LETTER U WITH DIAERESIS BELOW\n6.SMALL LETTER U WITH DIAERESIS BELOW\n6.CAPITAL LETTER U WITH TILDE BELOW\n" ++
  "6.SMALL LETTER U WITH TILDE BELOW\n6.CAPITAL LETTER U WITH CIRCUMFLEX BELOW\n6.SMALL LETTER U WITH CIRCUMFLEX BELOW\n" ++
  "6.CAPITAL LETTER U WITH TILDE AND ACUTE\n6.SMALL LETTER U WITH TILDE AND ACUTE\n6.CAPITAL LETTER U WITH MACRON AND DIAERESIS\n" ++
  "6.SMALL LETTER U WITH MACRON AND DIAERESIS\n6.CAPITAL LETTER V WITH TILDE\n6.SMALL LETTER V WITH TILDE\n" ++
  "6.CAPITAL LETTER V WITH DOT BELOW\n6.SMALL LETTER V WITH DOT BELOW\n6.CAPITAL LETTER W WITH GRAVE\n" ++
  "6.SMALL LETTER W WITH GRAVE\n6.CAPITAL LETTER W WITH ACUTE\n6.SMALL LETTER W WITH ACUTE\n6.CAPITAL LETTER W WITH DIAERESIS\n" ++
  "6.SMALL LETTER W WITH DIAERESIS\n6.CAPITAL LETTER W WITH DOT ABOVE\n6.SMALL LETTER W WITH DOT ABOVE\n" ++
  "6.CAPITAL LETTER W WITH DOT BELOW\n6.SMALL LETTER W WITH DOT BELOW\n6.CAPITAL LETTER X WITH DOT ABOVE\n" ++
  "6.SMALL LETTER X WITH DOT ABOVE\n6.CAPITAL LETTER X WITH DIAERESIS\n6.SMALL LETTER X WITH DIAERESIS\n" ++
  "6.CAPITAL LETTER Y WITH DOT ABOVE\n6.SMALL LETTER Y WITH DOT ABOVE\n6.CAPITAL LETTER Z WITH CIRCUMFLEX\n" ++
  "6.SMALL LETTER Z WITH CIRCUMFLEX\n6.CAPITAL LETTER Z WITH DOT BELOW\n6.SMALL LETTER Z WITH DOT BELOW\n" ++
  "6.CAPITAL LETTER Z WITH LINE BELOW\n6.SMALL LETTER Z WITH LINE BELOW\n19.H WITH LINE BELOW\n19.T WITH DIAERESIS\n" ++
  "19.W WITH RING ABOVE\n19.Y WITH RING ABOVE\n19.A WITH RIGHT HALF RING\n19.LONG S WITH DOT ABOVE\n" ++
  "32.IAGONAL STROKE\n31.HIGH STROKE\n6.CAPITAL LETTER SHARP S\n6.SMALL LETTER DELTA\n6.CAPITAL LETTER A WITH DOT BELOW\n" ++
  "6.SMALL LETTER A WITH DOT BELOW\n6.CAPITAL LETTER A WITH HOOK ABOVE\n6.SMALL LETTER A WITH HOOK ABOVE\n" ++
  "6.CAPITAL LETTER A WITH CIRCUMFLEX AND ACUTE\n6.SMALL LETTER A WITH CIRCUMFLEX AND ACUTE\n6.CAPITAL LETTER A WITH CIRCUMFLEX AND GRAVE\n" ++
  "6.SMALL LETTER A WITH CIRCUMFLEX AND GRAVE\n6.CAPITAL LETTER A WITH CIRCUMFLEX AND HOOK ABOVE\n" ++
  "6.SMALL LETTER A WITH CIRCUMFLEX AND HOOK ABOVE\n6.CAPITAL LETTER A WITH CIRCUMFLEX AND TILDE\n" ++
  "6.SMALL LETTER A WITH CIRCUMFLEX AND TILDE\n6.CAPITAL LETTER A WITH CIRCUMFLEX AND DOT BELOW\n" ++
  "6.SMALL LETTER A WITH CIRCUMFLEX AND DOT BELOW\n6.CAPITAL LETTER A WITH BREVE AND ACUTE\n6.SMALL LETTER A WITH BREVE AND ACUTE\n" ++
  "6.CAPITAL LETTER A WITH BREVE AND GRAVE\n6.SMALL LETTER A WITH BREVE AND GRAVE\n6.CAPITAL LETTER A WITH BREVE AND HOOK ABOVE\n" ++
  "6.SMALL LETTER A WITH BREVE AND HOOK ABOVE\n6.CAPITAL LETTER A WITH BREVE AND TILDE\n6.SMALL LETTER A WITH BREVE AND TILDE\n" ++
  "6.CAPITAL LETTER A WITH BREVE AND DOT BELOW\n6.SMALL LETTER A WITH BREVE AND DOT BELOW\n6.CAPITAL LETTER E WITH DOT BELOW\n" ++
  "6.SMALL LETTER E WITH DOT BELOW\n6.CAPITAL LETTER E WITH HOOK ABOVE\n6.SMALL LETTER E WITH HOOK ABOVE\n" ++
  "6.CAPITAL LETTER E WITH TILDE\n6.SMALL LETTER E WITH TILDE\n6.CAPITAL LETTER E WITH CIRCUMFLEX AND ACUTE\n" ++
  "6.SMALL LETTER E WITH CIRCUMFLEX AND ACUTE\n6.CAPITAL LETTER E WITH CIRCUMFLEX AND GRAVE\n6.SMALL LETTER E WITH CIRCUMFLEX AND GRAVE\n" ++
  "6.CAPITAL LETTER E WITH CIRCUMFLEX AND HOOK ABOVE\n6.SMALL LETTER E WITH CIRCUMFLEX AND HOOK ABOVE\n" ++
  "6.CAPITAL LETTER E WITH CIRCUMFLEX AND TILDE\n6.SMALL LETTER E WITH CIRCUMFLEX AND TILDE\n6.CAPITAL LETTER E WITH CIRCUMFLEX AND DOT BELOW\n" ++
  "6.SMALL LETTER E WITH CIRCUMFLEX AND DOT BELOW\n6.CAPITAL LETTER I WITH HOOK ABOVE\n6.SMALL LETTER I WITH HOOK ABOVE\n" ++
  "6.CAPITAL LETTER I WITH DOT BELOW\n6.SMALL LETTER I WITH DOT BELOW\n6.CAPITAL LETTER O WITH DOT BELOW\n" ++
  "6.SMALL LETTER O WITH DOT BELOW\n6.CAPITAL LETTER O WITH HOOK ABOVE\n6.SMALL LETTER O WITH HOOK ABOVE\n" ++
  "6.CAPITAL LETTER O WITH CIRCUMFLEX AND ACUTE\n6.SMALL LETTER O WITH CIRCUMFLEX AND ACUTE\n6.CAPITAL LETTER O WITH CIRCUMFLEX AND GRAVE\n" ++
  "6.SMALL LETTER O WITH CIRCUMFLEX AND GRAVE\n6.CAPITAL LETTER O WITH CIRCUMFLEX AND HOOK ABOVE\n" ++
  "6.SMALL LETTER O WITH CIRCUMFLEX AND HOOK ABOVE\n6.CAPITAL LETTER O WITH CIRCUMFLEX AND TILDE\n" ++
  "6.SMALL LETTER O WITH CIRCUMFLEX AND TILDE\n6.CAPITAL LETTER O WITH CIRCUMFLEX AND DOT BELOW\n" ++
  "6.SMALL LETTER O WITH CIRCUMFLEX AND DOT BELOW\n6.CAPITAL LETTER O WITH HORN AND ACUTE\n6.SMALL LETTER O WITH HORN AND ACUTE\n" ++
  "6.CAPITAL LETTER O WITH HORN AND GRAVE\n6.SMALL LETTER O WITH HORN AND GRAVE\n6.CAPITAL LETTER O WITH HORN AND HOOK ABOVE\n" ++
  "6.SMALL LETTER O WITH HORN AND HOOK ABOVE\n6.CAPITAL LETTER O WITH HORN AND TILDE\n6.SMALL LETTER O WITH HORN AND TILDE\n" ++
  "6.CAPITAL LETTER O WITH HORN AND DOT BELOW\n6.SMALL LETTER O WITH HORN AND DOT BELOW\n6.CAPITAL LETTER U WITH DOT BELOW\n" ++
  "6.SMALL LETTER U WITH DOT BELOW\n6.CAPITAL LETTER U WITH HOOK ABOVE\n6.SMALL LETTER U WITH HOOK ABOVE\n" ++
  "6.CAPITAL LETTER U WITH HORN AND ACUTE\n6.SMALL LETTER U WITH HORN AND ACUTE\n6.CAPITAL LETTER U WITH HORN AND GRAVE\n" ++
  "6.SMALL LETTER U WITH HORN AND GRAVE\n6.CAPITAL LETTER U WITH HORN AND HOOK ABOVE\n6.SMALL LETTER U WITH HORN AND HOOK ABOVE\n" ++
  "6.CAPITAL LETTER U WITH HORN AND TILDE\n6.SMALL LETTER U WITH HORN AND TILDE\n6.CAPITAL LETTER U WITH HORN AND DOT BELOW\n" ++
  "6.SMALL LETTER U WITH HORN AND DOT BELOW\n6.CAPITAL LETTER Y WITH GRAVE\n6.SMALL LETTER Y WITH GRAVE\n" ++
  "6.CAPITAL LETTER Y WITH DOT BELOW\n6.SMALL LETTER Y WITH DOT BELOW\n6.CAPITAL LETTER Y WITH HOOK ABOVE\n" ++
  "6.SMALL LETTER Y WITH HOOK ABOVE\n6.CAPITAL LETTER Y WITH TILDE\n6.SMALL LETTER Y WITH TILDE\n" ++
  "6.CAPITAL LETTER MIDDLE-WELSH LL\n6.SMALL LETTER MIDDLE-WELSH LL\n6.CAPITAL LETTER MIDDLE-WELSH V\n" ++
  "6.SMALL LETTER MIDDLE-WELSH V\n6.CAPITAL LETTER Y WITH LOOP\n6.SMALL LETTER Y WITH LOOP\n0.GREEK SMALL LETTER ALPHA WITH PSILI\n" ++
  "30.DASIA\n30.PSILI AND VARIA\n30.DASIA AND VARIA\n30.PSILI AND OXIA\n30.DASIA AND OXIA\n30.PSILI AND PERISPOMENI\n" ++
  "30.DASIA AND PERISPOMENI\n6.CAPITAL LETTER ALPHA WITH PSILI\n32.DASIA\n32.PSILI AND VARIA\n32.DASIA AND VARIA\n" ++
  "32.PSILI AND OXIA\n32.DASIA AND OXIA\n32.PSILI AND PERISPOMENI\n32.DASIA AND PERISPOMENI\n6.SMALL LETTER EPSILON WITH PSILI\n" ++
  "32.DASIA\n32.PSILI AND VARIA\n32.DASIA AND VARIA\n32.PSILI AND OXIA\n32.DASIA AND OXIA\n1F18:6.CAPITAL LETTER EPSILON WITH PSILI\n" ++
  "34.DASIA\n34.PSILI AND VARIA\n34.DASIA AND VARIA\n34.PSILI AND OXIA\n34.DASIA AND OXIA\n1F20:6.SMALL LETTER ETA WITH PSILI\n" ++
  "28.DASIA\n28.PSILI AND VARIA\n28.DASIA AND VARIA\n28.PSILI AND OXIA\n28.DASIA AND OXIA\n28.PSILI AND PERISPOMENI\n" ++
  "28.DASIA AND PERISPOMENI\n6.CAPITAL LETTER ETA WITH PSILI\n30.DASIA\n30.PSILI AND VARIA\n30.DASIA AND VARIA\n" ++
  "30.PSILI AND OXIA\n30.DASIA AND OXIA\n30.PSILI AND PERISPOMENI\n30.DASIA AND PERISPOMENI\n6.SMALL LETTER IOTA WITH PSILI\n" ++
  "29.DASIA\n29.PSILI AND VARIA\n29.DASIA AND VARIA\n29.PSILI AND OXIA\n29.DASIA AND OXIA\n29.PSILI AND PERISPOMENI\n" ++
  "29.DASIA AND PERISPOMENI\n6.CAPITAL LETTER IOTA WITH PSILI\n31.DASIA\n31.PSILI AND VARIA\n31.DASIA AND VARIA\n" ++
  "31.PSILI AND OXIA\n31.DASIA AND OXIA\n31.PSILI AND PERISPOMENI\n31.DASIA AND PERISPOMENI\n6.SMALL LETTER OMICRON WITH PSILI\n" ++
  "32.DASIA\n32.PSILI AND VARIA\n32.DASIA AND VARIA\n32.PSILI AND OXIA\n32.DASIA AND OXIA\n1F48:6.CAPITAL LETTER OMICRON WITH PSILI\n" ++
  "34.DASIA\n34.PSILI AND VARIA\n34.DASIA AND VARIA\n34.PSILI AND OXIA\n34.DASIA AND OXIA\n1F50:6.SMALL LETTER UPSILON WITH PSILI\n" ++
  "32.DASIA\n32.PSILI AND VARIA\n32.DASIA AND VARIA\n32.PSILI AND OXIA\n32.DASIA AND OXIA\n32.PSILI AND PERISPOMENI\n" ++
  "32.DASIA AND PERISPOMENI\n1F59:6.CAPITAL LETTER UPSILON WITH DASIA\n1F5B:39. AND VARIA\n1F5D:44.OXIA\n" ++
  "1F5F:44.PERISPOMENI\n6.SMALL LETTER OMEGA WITH PSILI\n30.DASIA\n30.PSILI AND VARIA\n30.DASIA AND VARIA\n" ++
  "30.PSILI AND OXIA\n30.DASIA AND OXIA\n30.PSILI AND PERISPOMENI\n30.DASIA AND PERISPOMENI\n6.CAPITAL LETTER OMEGA WITH PSILI\n" ++
  "32.DASIA\n32.PSILI AND VARIA\n32.DASIA AND VARIA\n32.PSILI AND OXIA\n32.DASIA AND OXIA\n32.PSILI AND PERISPOMENI\n" ++
  "32.DASIA AND PERISPOMENI\n6.SMALL LETTER ALPHA WITH VARIA\n30.OXIA\n19.EPSILON WITH VARIA\n32.OXIA\n" ++
  "20.TA WITH VARIA\n28.OXIA\n19.IOTA WITH VARIA\n29.OXIA\n19.OMICRON WITH VARIA\n32.OXIA\n19.UPSILON WITH VARIA\n" ++
  "32.OXIA\n19.OMEGA WITH VARIA\n30.OXIA\n1F80:19.ALPHA WITH PSILI AND YPOGEGRAMMENI\n30.DASIA AND YPOGEGRAMMENI\n" ++
  "30.PSILI AND VARIA AND YPOGEGRAMMENI\n30.DASIA AND VARIA AND YPOGEGRAMMENI\n30.PSILI AND OXIA AND YPOGEGRAMMENI\n" ++
  "30.DASIA AND OXIA AND YPOGEGRAMMENI\n30.PSILI AND PERISPOMENI AND YPOGEGRAMMENI\n30.DASIA AND PERISPOMENI AND YPOGEGRAMMENI\n" ++
  "6.CAPITAL LETTER ALPHA WITH PSILI AND PROSGEGRAMMENI\n32.DASIA AND PROSGEGRAMMENI\n32.PSILI AND VARIA AND PROSGEGRAMMENI\n" ++
  "32.DASIA AND VARIA AND PROSGEGRAMMENI\n32.PSILI AND OXIA AND PROSGEGRAMMENI\n32.DASIA AND OXIA AND PROSGEGRAMMENI\n" ++
  "32.PSILI AND PERISPOMENI AND PROSGEGRAMMENI\n32.DASIA AND PERISPOMENI AND PROSGEGRAMMENI\n6.SMALL LETTER ETA WITH PSILI AND YPOGEGRAMMENI\n" ++
  "28.DASIA AND YPOGEGRAMMENI\n28.PSILI AND VARIA AND YPOGEGRAMMENI\n28.DASIA AND VARIA AND YPOGEGRAMMENI\n" ++
  "28.PSILI AND OXIA AND YPOGEGRAMMENI\n28.DASIA AND OXIA AND YPOGEGRAMMENI\n28.PSILI AND PERISPOMENI AND YPOGEGRAMMENI\n" ++
  "28.DASIA AND PERISPOMENI AND YPOGEGRAMMENI\n6.CAPITAL LETTER ETA WITH PSILI AND PROSGEGRAMMENI\n" ++
  "30.DASIA AND PROSGEGRAMMENI\n30.PSILI AND VARIA AND PROSGEGRAMMENI\n30.DASIA AND VARIA AND PROSGEGRAMMENI\n" ++
  "30.PSILI AND OXIA AND PROSGEGRAMMENI\n30.DASIA AND OXIA AND PROSGEGRAMMENI\n30.PSILI AND PERISPOMENI AND PROSGEGRAMMENI\n" ++
  "30.DASIA AND PERISPOMENI AND PROSGEGRAMMENI\n6.SMALL LETTER OMEGA WITH PSILI AND YPOGEGRAMMENI\n" ++
  "30.DASIA AND YPOGEGRAMMENI\n30.PSILI AND VARIA AND YPOGEGRAMMENI\n30.DASIA AND VARIA AND YPOGEGRAMMENI\n" ++
  "30.PSILI AND OXIA AND YPOGEGRAMMENI\n30.DASIA AND OXIA AND YPOGEGRAMMENI\n30.PSILI AND PERISPOMENI AND YPOGEGRAMMENI\n" ++
  "30.DASIA AND PERISPOMENI AND YPOGEGRAMMENI\n6.CAPITAL LETTER OMEGA WITH PSILI AND PROSGEGRAMMENI\n" ++
  "32.DASIA AND PROSGEGRAMMENI\n32.PSILI AND VARIA AND PROSGEGRAMMENI\n32.DASIA AND VARIA AND PROSGEGRAMMENI\n" ++
  "32.PSILI AND OXIA AND PROSGEGRAMMENI\n32.DASIA AND OXIA AND PROSGEGRAMMENI\n32.PSILI AND PERISPOMENI AND PROSGEGRAMMENI\n" ++
  "32.DASIA AND PERISPOMENI AND PROSGEGRAMMENI\n6.SMALL LETTER ALPHA WITH VRACHY\n30.MACRON\n30.VARIA AND YPOGEGRAMMENI\n" ++
  "30.YPOGEGRAMMENI\n30.OXIA AND YPOGEGRAMMENI\n1FB6:30.PERISPOMENI\n41. AND YPOGEGRAMMENI\n6.CAPITAL LETTER ALPHA WITH VRACHY\n" ++
  "32.MACRON\n32.VARIA\n32.OXIA\n32.PROSGEGRAMMENI\n6.KORONIS\n6.PROSGEGRAMMENI\n7.SILI\n7.ERISPOMENI\n" ++
  "6.DIALYTIKA AND PERISPOMENI\n6.SMALL LETTER ETA WITH VARIA AND YPOGEGRAMMENI\n28.YPOGEGRAMMENI\n" ++
  "28.OXIA AND YPOGEGRAMMENI\n1FC6:28.PERISPOMENI\n39. AND YPOGEGRAMMENI\n6.CAPITAL LETTER EPSILON WITH VARIA\n" ++
  "34.OXIA\n22.TA WITH VARIA\n30.OXIA\n30.PROSGEGRAMMENI\n6.PSILI AND VARIA\n16.OXIA\n16.PERISPOMENI\n" ++
  "6.SMALL LETTER IOTA WITH VRACHY\n29.MACRON\n29.DIALYTIKA AND VARIA\n43.OXIA\n1FD6:29.PERISPOMENI\n" ++
  "29.DIALYTIKA AND PERISPOMENI\n6.CAPITAL LETTER IOTA WITH VRACHY\n31.MACRON\n31.VARIA\n31.OXIA\n" ++
  "1FDD:6.DASIA AND VARIA\n16.OXIA\n16.PERISPOMENI\n6.SMALL LETTER UPSILON WITH VRACHY\n32.MACRON\n" ++
  "32.DIALYTIKA AND VARIA\n46.OXIA\n19.RHO WITH PSILI\n28.DASIA\n19.UPSILON WITH PERISPOMENI\n32.DIALYTIKA AND PERISPOMENI\n" ++
  "6.CAPITAL LETTER UPSILON WITH VRACHY\n34.MACRON\n34.VARIA\n34.OXIA\n21.RHO WITH DASIA\n6.DIALYTIKA AND VARIA\n" ++
  "20.OXIA\n6.VARIA\n1FF2:6.SMALL LETTER OMEGA WITH VARIA AND YPOGEGRAMMENI\n30.YPOGEGRAMMENI\n30.OXIA AND YPOGEGRAMMENI\n" ++
  "1FF6:30.PERISPOMENI\n41. AND YPOGEGRAMMENI\n6.CAPITAL LETTER OMICRON WITH VARIA\n34.OXIA\n23.EGA WITH VARIA\n" ++
  "32.OXIA\n32.PROSGEGRAMMENI\n6.OXIA\n6.DASIA\n2000:0.EN QUAD\n1.M QUAD\n1.N SPACE\n1.M SPACE\n" ++
  "0.THREE-PER-EM SPACE\n0.FOUR-PER-EM SPACE\n0.SIX-PER-EM SPACE\n0.FIGURE SPACE\n0.PUNCTUATION SPACE\n" ++
  "0.THIN SPACE\n0.HAIR SPACE\n0.ZERO WIDTH SPACE\n11.NON-JOINER\n11.JOINER\n0.LEFT-TO-RIGHT MARK\n" ++
  "0.RIGHT-TO-LEFT MARK\n0.HYPHEN\n0.NON-BREAKING HYPHEN\n0.FIGURE DASH\n0.EN DASH\n1.M DASH\n0.HORIZONTAL BAR\n" ++
  "0.DOUBLE VERTICAL LINE\n7.LOW LINE\n0.LEFT SINGLE QUOTATION MARK\n0.RIGHT SINGLE QUOTATION MARK\n" ++
  "0.SINGLE LOW-9 QUOTATION MARK\n7.HIGH-REVERSED-9 QUOTATION MARK\n0.LEFT DOUBLE QUOTATION MARK\n" ++
  "0.RIGHT DOUBLE QUOTATION MARK\n0.DOUBLE LOW-9 QUOTATION MARK\n7.HIGH-REVERSED-9 QUOTATION MARK\n" ++
  "1.AGGER\n1.OUBLE DAGGER\n0.BULLET\n0.TRIANGULAR BULLET\n0.ONE DOT LEADER\n0.TWO DOT LEADER\n0.HORIZONTAL ELLIPSIS\n" ++
  "1.YPHENATION POINT\n0.LINE SEPARATOR\n0.PARAGRAPH SEPARATOR\n0.LEFT-TO-RIGHT EMBEDDING\n0.RIGHT-TO-LEFT EMBEDDING\n" ++
  "0.POP DIRECTIONAL FORMATTING\n0.LEFT-TO-RIGHT OVERRIDE\n0.RIGHT-TO-LEFT OVERRIDE\n0.NARROW NO-BREAK SPACE\n" ++
  "0.PER MILLE SIGN\n4.TEN THOUSAND SIGN\n1.RIME\n0.DOUBLE PRIME\n0.TRIPLE PRIME\n0.REVERSED PRIME\n" ++
  "9.DOUBLE PRIME\n9.TRIPLE PRIME\n0.CARET\n0.SINGLE LEFT-POINTING ANGLE QUOTATION MARK\n7.RIGHT-POINTING ANGLE QUOTATION MARK\n" ++
  "0.REFERENCE MARK\n0.DOUBLE EXCLAMATION MARK\n0.INTERROBANG\n0.OVERLINE\n0.UNDERTIE\n0.CHARACTER TIE\n" ++
  "1.ARET INSERTION POINT\n0.ASTERISM\n0.HYPHEN BULLET\n0.FRACTION SLASH\n0.LEFT SQUARE BRACKET WITH QUILL\n" ++
  "0.RIGHT SQUARE BRACKET WITH QUILL\n0.DOUBLE QUESTION MARK\n0.QUESTION EXCLAMATION MARK\n0.EXCLAMATION QUESTION MARK\n" ++
  "0.TIRONIAN SIGN ET\n0.REVERSED PILCROW SIGN\n0.BLACK LEFTWARDS BULLET\n6.RIGHTWARDS BULLET\n0.LOW ASTERISK\n" ++
  "0.REVERSED SEMICOLON\n0.CLOSE UP\n0.TWO ASTERISKS ALIGNED VERTICALLY\n0.COMMERCIAL MINUS SIGN\n" ++
  "0.SWUNG DASH\n0.INVERTED UNDERTIE\n0.FLOWER PUNCTUATION MARK\n0.THREE DOT PUNCTUATION\n0.QUADRUPLE PRIME\n" ++
  "0.FOUR DOT PUNCTUATION\n1.IVE DOT PUNCTUATION\n0.TWO DOT PUNCTUATION\n0.FOUR DOT MARK\n0.DOTTED CROSS\n" ++
  "0.TRICOLON\n0.VERTICAL FOUR DOTS\n0.MEDIUM MATHEMATICAL SPACE\n0.WORD JOINER\n0.FUNCTION APPLICATION\n" ++
  "0.INVISIBLE TIMES\n10.SEPARATOR\n10.PLUS\n2066:0.LEFT-TO-RIGHT ISOLATE\n0.RIGHT-TO-LEFT ISOLATE\n" ++
  "0.FIRST STRONG ISOLATE\n0.POP DIRECTIONAL ISOLATE\n0.INHIBIT SYMMETRIC SWAPPING\n0.ACTIVATE SYMMETRIC SWAPPING\n" ++
  "0.INHIBIT ARABIC FORM SHAPING\n0.ACTIVATE ARABIC FORM SHAPING\n0.NATIONAL DIGIT SHAPES\n1.OMINAL DIGIT SHAPES\n" ++
  "0.SUPERSCRIPT ZERO\n12.LATIN SMALL LETTER I\n2074:12.FOUR\n13.IVE\n12.SIX\n13.EVEN\n12.EIGHT\n" ++
  "12.NINE\n12.PLUS SIGN\n12.MINUS\n12.EQUALS SIGN\n12.LEFT PARENTHESIS\n12.RIGHT PARENTHESIS\n12.LATIN SMALL LETTER N\n" ++
  "2.BSCRIPT ZERO\n10.ONE\n10.TWO\n11.HREE\n10.FOUR\n11.IVE\n10.SIX\n11.EVEN\n10.EIGHT\n10.NINE\n" ++
  "10.PLUS SIGN\n10.MINUS\n10.EQUALS SIGN\n10.LEFT PARENTHESIS\n10.RIGHT PARENTHESIS\n2090:0.LATIN SUBSCRIPT SMALL LETTER A\n" ++
  "29.E\n29.O\n29.X\n29.SCHWA\n29.H\n29.K\n29.L\n29.M\n29.N\n29.P\n29.S\n29.T\n20A0:0.EURO-CURRENCY SIGN\n" ++
  "0.COLON SIGN\n1.RUZEIRO SIGN\n0.FRENCH FRANC SIGN\n0.LIRA SIGN\n0.MILL SIGN\n0.NAIRA SIGN\n0.PESETA SIGN\n" ++
  "0.RUPEE SIGN\n0.WON SIGN\n0.NEW SHEQEL SIGN\n0.DONG SIGN\n0.EURO SIGN\n0.KIP SIGN\n0.TUGRIK SIGN\n" ++
  "0.DRACHMA SIGN\n0.GERMAN PENNY SIGN\n0.PESO SIGN\n0.GUARANI SIGN\n0.AUSTRAL SIGN\n0.HRYVNIA SIGN\n" ++
  "0.CEDI SIGN\n0.LIVRE TOURNOIS SIGN\n0.SPESMILO SIGN\n0.TENGE SIGN\n0.INDIAN RUPEE SIGN\n0.TURKISH LIRA SIGN\n" ++
  "0.NORDIC MARK SIGN\n0.MANAT SIGN\n0.RUBLE SIGN\n0.LARI SIGN\n0.BITCOIN SIGN\n0.SOM SIGN\n20D0:0.COMBINING LEFT HARPOON ABOVE\n" ++
  "10.RIGHT HARPOON ABOVE\n10.LONG VERTICAL LINE OVERLAY\n10.SHORT VERTICAL LINE OVERLAY\n10.ANTICLOCKWISE ARROW ABOVE\n" ++
  "10.CLOCKWISE ARROW ABOVE\n10.LEFT ARROW ABOVE\n10.RIGHT ARROW ABOVE\n12.NG OVERLAY\n10.CLOCKWISE RING OVERLAY\n" ++
  "10.ANTICLOCKWISE RING OVERLAY\n10.THREE DOTS ABOVE\n10.FOUR DOTS ABOVE\n10.ENCLOSING CIRCLE\n" ++
  "20.SQUARE\n20.DIAMOND\n20.CIRCLE BACKSLASH\n10.LEFT RIGHT ARROW ABOVE\n10.ENCLOSING SCREEN\n20.KEYCAP\n" ++
  "20.UPWARD POINTING TRIANGLE\n10.REVERSE SOLIDUS OVERLAY\n10.DOUBLE VERTICAL STROKE OVERLAY\n10.ANNUITY SYMBOL\n" ++
  "10.TRIPLE UNDERDOT\n10.WIDE BRIDGE ABOVE\n10.LEFTWARDS ARROW OVERLAY\n11.ONG DOUBLE SOLIDUS OVERLAY\n" ++
  "10.RIGHTWARDS HARPOON WITH BARB DOWNWARDS\n10.LEFTWARDS HARPOON WITH BARB DOWNWARDS\n14. ARROW BELOW\n" ++
  "10.RIGHT ARROW BELOW\n10.ASTERISK ABOVE\n2100:0.ACCOUNT OF\n1.DDRESSED TO THE SUBJECT\n0.DOUBLE-STRUCK CAPITAL C\n" ++
  "1.EGREE CELSIUS\n0.CENTRE LINE SYMBOL\n1.ARE OF\n2.DA UNA\n0.EULER CONSTANT\n0.SCRUPLE\n0.DEGREE FAHRENHEIT\n" ++
  "0.SCRIPT SMALL G\n7.CAPITAL H\n0.BLACK-LETTER CAPITAL H\n0.DOUBLE-STRUCK CAPITAL H\n0.PLANCK CONSTANT\n" ++
  "15. OVER TWO PI\n0.SCRIPT CAPITAL I\n0.BLACK-LETTER CAPITAL I\n0.SCRIPT CAPITAL L\n7.SMALL L\n" ++
  "0.L B BAR SYMBOL\n0.DOUBLE-STRUCK CAPITAL N\n0.NUMERO SIGN\n0.SOUND RECORDING COPYRIGHT\n1.CRIPT CAPITAL P\n" ++
  "0.DOUBLE-STRUCK CAPITAL P\n22.Q\n0.SCRIPT CAPITAL R\n0.BLACK-LETTER CAPITAL R\n0.DOUBLE-STRUCK CAPITAL R\n" ++
  "0.PRESCRIPTION TAKE\n0.RESPONSE\n0.SERVICE MARK\n0.TELEPHONE SIGN\n1.RADE MARK SIGN\n0.VERSICLE\n" ++
  "0.DOUBLE-STRUCK CAPITAL Z\n0.OUNCE SIGN\n1.HM SIGN\n0.INVERTED OHM SIGN\n0.BLACK-LETTER CAPITAL Z\n" ++
  "0.TURNED GREEK SMALL LETTER IOTA\n0.KELVIN SIGN\n0.ANGSTROM SIGN\n0.SCRIPT CAPITAL B\n0.BLACK-LETTER CAPITAL C\n" ++
  "0.ESTIMATED SYMBOL\n0.SCRIPT SMALL E\n7.CAPITAL E\n15.F\n0.TURNED CAPITAL F\n0.SCRIPT CAPITAL M\n" ++
  "7.SMALL O\n0.ALEF SYMBOL\n0.BET SYMBOL\n0.GIMEL SYMBOL\n0.DALET SYMBOL\n0.INFORMATION SOURCE\n" ++
  "0.ROTATED CAPITAL Q\n0.FACSIMILE SIGN\n0.DOUBLE-STRUCK SMALL PI\n20.GAMMA\n14.CAPITAL GAMMA\n" ++
  "22.PI\n14.N-ARY SUMMATION\n0.TURNED SANS-SERIF CAPITAL G\n26.L\n0.REVERSED SANS-SERIF CAPITAL L\n" ++
  "0.TURNED SANS-SERIF CAPITAL Y\n0.DOUBLE-STRUCK ITALIC CAPITAL D\n21.SMALL D\n27.E\n27.I\n27.J\n" ++
  "0.PROPERTY LINE\n0.TURNED AMPERSAND\n0.PER SIGN\n0.AKTIESELSKAB\n0.TURNED SMALL F\n0.SYMBOL FOR SAMARITAN SOURCE\n" ++
  "0.VULGAR FRACTION ONE SEVENTH\n20.NINTH\n20.TENTH\n21.HIRD\n16.TWO THIRDS\n16.ONE FIFTH\n16.TWO FIFTHS\n" ++
  "17.HREE FIFTHS\n16.FOUR FIFTHS\n16.ONE SIXTH\n16.FIVE SIXTHS\n16.ONE EIGHTH\n16.THREE EIGHTHS\n" ++
  "16.FIVE EIGHTHS\n16.SEVEN EIGHTHS\n0.FRACTION NUMERATOR ONE\n0.ROMAN NUMERAL ONE\n14.TWO\n15.HREE\n" ++
  "14.FOUR\n15.IVE\n14.SIX\n15.EVEN\n14.EIGHT\n14.NINE\n14.TEN\n14.ELEVEN\n14.TWELVE\n14.FIFTY\n" ++
  "14.ONE HUNDRED\n14.FIVE HUNDRED\n14.ONE THOUSAND\n0.SMALL ROMAN NUMERAL ONE\n20.TWO\n21.HREE\n" ++
  "20.FOUR\n21.IVE\n20.SIX\n21.EVEN\n20.EIGHT\n20.NINE\n20.TEN\n20.ELEVEN\n20.TWELVE\n20.FIFTY\n" ++
  "20.ONE HUNDRED\n20.FIVE HUNDRED\n20.ONE THOUSAND\n0.ROMAN NUMERAL ONE THOUSAND C D\n14.FIVE THOUSAND\n" ++
  "14.TEN THOUSAND\n14.REVERSED ONE HUNDRED\n0.LATIN SMALL LETTER REVERSED C\n0.ROMAN NUMERAL SIX LATE FORM\n" ++
  "14.FIFTY EARLY FORM\n20.THOUSAND\n14.ONE HUNDRED THOUSAND\n0.VULGAR FRACTION ZERO THIRDS\n0.TURNED DIGIT TWO\n" ++
  "14.HREE\n2190:0.LEFTWARDS ARROW\n0.UPWARDS ARROW\n0.RIGHTWARDS ARROW\n0.DOWNWARDS ARROW\n0.LEFT RIGHT ARROW\n" ++
  "0.UP DOWN ARROW\n0.NORTH WEST ARROW\n6.EAST ARROW\n0.SOUTH EAST ARROW\n6.WEST ARROW\n0.LEFTWARDS ARROW WITH STROKE\n" ++
  "0.RIGHTWARDS ARROW WITH STROKE\n0.LEFTWARDS WAVE ARROW\n0.RIGHTWARDS WAVE ARROW\n0.LEFTWARDS TWO HEADED ARROW\n" ++
  "0.UPWARDS TWO HEADED ARROW\n0.RIGHTWARDS TWO HEADED ARROW\n0.DOWNWARDS TWO HEADED ARROW\n0.LEFTWARDS ARROW WITH TAIL\n" ++
  "0.RIGHTWARDS ARROW WITH TAIL\n0.LEFTWARDS ARROW FROM BAR\n0.UPWARDS ARROW FROM BAR\n0.RIGHTWARDS ARROW FROM BAR\n" ++
  "0.DOWNWARDS ARROW FROM BAR\n0.UP DOWN ARROW WITH BASE\n0.LEFTWARDS ARROW WITH HOOK\n0.RIGHTWARDS ARROW WITH HOOK\n" ++
  "0.LEFTWARDS ARROW WITH LOOP\n0.RIGHTWARDS ARROW WITH LOOP\n0.LEFT RIGHT WAVE ARROW\n11.ARROW WITH STROKE\n" ++
  "0.DOWNWARDS ZIGZAG ARROW\n0.UPWARDS ARROW WITH TIP LEFTWARDS\n23.RIGHTWARDS\n0.DOWNWARDS ARROW WITH TIP LEFTWARDS\n" ++
  "25.RIGHTWARDS\n0.RIGHTWARDS ARROW WITH CORNER DOWNWARDS\n0.DOWNWARDS ARROW WITH CORNER LEFTWARDS\n" ++
  "0.ANTICLOCKWISE TOP SEMICIRCLE ARROW\n0.CLOCKWISE TOP SEMICIRCLE ARROW\n0.NORTH WEST ARROW TO LONG BAR\n" ++
  "0.LEFTWARDS ARROW TO BAR OVER RIGHTWARDS ARROW TO BAR\n0.ANTICLOCKWISE OPEN CIRCLE ARROW\n0.CLOCKWISE OPEN CIRCLE ARROW\n" ++
  "0.LEFTWARDS HARPOON WITH BARB UPWARDS\n28.DOWNWARDS\n0.UPWARDS HARPOON WITH BARB RIGHTWARDS\n" ++
  "26.LEFTWARDS\n0.RIGHTWARDS HARPOON WITH BARB UPWARDS\n29.DOWNWARDS\n0.DOWNWARDS HARPOON WITH BARB RIGHTWARDS\n" ++
  "28.LEFTWARDS\n0.RIGHTWARDS ARROW OVER LEFTWARDS ARROW\n0.UPWARDS ARROW LEFTWARDS OF DOWNWARDS ARROW\n" ++
  "0.LEFTWARDS ARROW OVER RIGHTWARDS ARROW\n10.PAIRED ARROWS\n0.UPWARDS PAIRED ARROWS\n0.RIGHTWARDS PAIRED ARROWS\n" ++
  "0.DOWNWARDS PAIRED ARROWS\n0.LEFTWARDS HARPOON OVER RIGHTWARDS HARPOON\n0.RIGHTWARDS HARPOON OVER LEFTWARDS HARPOON\n" ++
  "0.LEFTWARDS DOUBLE ARROW WITH STROKE\n4. RIGHT DOUBLE ARROW WITH STROKE\n0.RIGHTWARDS DOUBLE ARROW WITH STROKE\n" ++
  "0.LEFTWARDS DOUBLE ARROW\n0.UPWARDS DOUBLE ARROW\n0.RIGHTWARDS DOUBLE ARROW\n0.DOWNWARDS DOUBLE ARROW\n" ++
  "0.LEFT RIGHT DOUBLE ARROW\n0.UP DOWN DOUBLE ARROW\n0.NORTH WEST DOUBLE ARROW\n6.EAST DOUBLE ARROW\n" ++
  "0.SOUTH EAST DOUBLE ARROW\n6.WEST DOUBLE ARROW\n0.LEFTWARDS TRIPLE ARROW\n0.RIGHTWARDS TRIPLE ARROW\n" ++
  "0.LEFTWARDS SQUIGGLE ARROW\n0.RIGHTWARDS SQUIGGLE ARROW\n0.UPWARDS ARROW WITH DOUBLE STROKE\n" ++
  "0.DOWNWARDS ARROW WITH DOUBLE STROKE\n0.LEFTWARDS DASHED ARROW\n0.UPWARDS DASHED ARROW\n0.RIGHTWARDS DASHED ARROW\n" ++
  "0.DOWNWARDS DASHED ARROW\n0.LEFTWARDS ARROW TO BAR\n0.RIGHTWARDS ARROW TO BAR\n0.LEFTWARDS WHITE ARROW\n" ++
  "0.UPWARDS WHITE ARROW\n0.RIGHTWARDS WHITE ARROW\n0.DOWNWARDS WHITE ARROW\n0.UPWARDS WHITE ARROW FROM BAR\n" ++
  "20.ON PEDESTAL\n31. WITH HORIZONTAL BAR\n37.VERTICAL BAR\n14.DOUBLE ARROW\n26. ON PEDESTAL\n0.RIGHTWARDS WHITE ARROW FROM WALL\n" ++
  "0.NORTH WEST ARROW TO CORNER\n0.SOUTH EAST ARROW TO CORNER\n0.UP DOWN WHITE ARROW\n0.RIGHT ARROW WITH SMALL CIRCLE\n" ++
  "0.DOWNWARDS ARROW LEFTWARDS OF UPWARDS ARROW\n0.THREE RIGHTWARDS ARROWS\n0.LEFTWARDS ARROW WITH VERTICAL STROKE\n" ++
  "0.RIGHTWARDS ARROW WITH VERTICAL STROKE\n0.LEFT RIGHT ARROW WITH VERTICAL STROKE\n4.WARDS ARROW WITH DOUBLE VERTICAL STROKE\n" ++
  "0.RIGHTWARDS ARROW WITH DOUBLE VERTICAL STROKE\n0.LEFT RIGHT ARROW WITH DOUBLE VERTICAL STROKE\n" ++
  "4.WARDS OPEN-HEADED ARROW\n0.RIGHTWARDS OPEN-HEADED ARROW\n0.LEFT RIGHT OPEN-HEADED ARROW\n0.FOR ALL\n" ++
  "0.COMPLEMENT\n0.PARTIAL DIFFERENTIAL\n0.THERE EXISTS\n6.DOES NOT EXIST\n0.EMPTY SET\n0.INCREMENT\n" ++
  "0.NABLA\n0.ELEMENT OF\n0.NOT AN ELEMENT OF\n0.SMALL ELEMENT OF\n0.CONTAINS AS MEMBER\n0.DOES NOT CONTAIN AS MEMBER\n" ++
  "0.SMALL CONTAINS AS MEMBER\n0.END OF PROOF\n0.N-ARY PRODUCT\n6.COPRODUCT\n6.SUMMATION\n0.MINUS SIGN\n" ++
  "5.-OR-PLUS SIGN\n0.DOT PLUS\n1.IVISION SLASH\n0.SET MINUS\n0.ASTERISK OPERATOR\n0.RING OPERATOR\n" ++
  "0.BULLET OPERATOR\n0.SQUARE ROOT\n0.CUBE ROOT\n0.FOURTH ROOT\n0.PROPORTIONAL TO\n0.INFINITY\n" ++
  "0.RIGHT ANGLE\n0.ANGLE\n0.MEASURED ANGLE\n0.SPHERICAL ANGLE\n0.DIVIDES\n1.OES NOT DIVIDE\n0.PARALLEL TO\n" ++
  "0.NOT PARALLEL TO\n0.LOGICAL AND\n8.OR\n0.INTERSECTION\n0.UNION\n0.INTEGRAL\n0.DOUBLE INTEGRAL\n" ++
  "0.TRIPLE INTEGRAL\n0.CONTOUR INTEGRAL\n0.SURFACE INTEGRAL\n0.VOLUME INTEGRAL\n0.CLOCKWISE INTEGRAL\n" ++
  "10.CONTOUR INTEGRAL\n0.ANTICLOCKWISE CONTOUR INTEGRAL\n0.THEREFORE\n0.BECAUSE\n0.RATIO\n0.PROPORTION\n" ++
  "0.DOT MINUS\n0.EXCESS\n0.GEOMETRIC PROPORTION\n0.HOMOTHETIC\n0.TILDE OPERATOR\n0.REVERSED TILDE\n" ++
  "0.INVERTED LAZY S\n0.SINE WAVE\n0.WREATH PRODUCT\n0.NOT TILDE\n0.MINUS TILDE\n0.ASYMPTOTICALLY EQUAL TO\n" ++
  "0.NOT ASYMPTOTICALLY EQUAL TO\n0.APPROXIMATELY EQUAL TO\n14.BUT NOT ACTUALLY EQUAL TO\n0.NEITHER APPROXIMATELY NOR ACTUALLY EQUAL TO\n" ++
  "0.ALMOST EQUAL TO\n0.NOT ALMOST EQUAL TO\n0.ALMOST EQUAL OR EQUAL TO\n0.TRIPLE TILDE\n0.ALL EQUAL TO\n" ++
  "0.EQUIVALENT TO\n0.GEOMETRICALLY EQUIVALENT TO\n0.DIFFERENCE BETWEEN\n0.APPROACHES THE LIMIT\n" ++
  "0.GEOMETRICALLY EQUAL TO\n0.APPROXIMATELY EQUAL TO OR THE IMAGE OF\n0.IMAGE OF OR APPROXIMATELY EQUAL TO\n" ++
  "0.COLON EQUALS\n0.EQUALS COLON\n0.RING IN EQUAL TO\n5.EQUAL TO\n0.CORRESPONDS TO\n0.ESTIMATES\n" ++
  "1.QUIANGULAR TO\n0.STAR EQUALS\n0.DELTA EQUAL TO\n0.EQUAL TO BY DEFINITION\n0.MEASURED BY\n0.QUESTIONED EQUAL TO\n" ++
  "0.NOT EQUAL TO\n0.IDENTICAL TO\n0.NOT IDENTICAL TO\n0.STRICTLY EQUIVALENT TO\n0.LESS-THAN OR EQUAL TO\n" ++
  "0.GREATER-THAN OR EQUAL TO\n0.LESS-THAN OVER EQUAL TO\n0.GREATER-THAN OVER EQUAL TO\n0.LESS-THAN BUT NOT EQUAL TO\n" ++
  "0.GREATER-THAN BUT NOT EQUAL TO\n0.MUCH LESS-THAN\n5.GREATER-THAN\n0.BETWEEN\n0.NOT EQUIVALENT TO\n" ++
  "4.LESS-THAN\n4.GREATER-THAN\n1.EITHER LESS-THAN NOR EQUAL TO\n8.GREATER-THAN NOR EQUAL TO\n0.LESS-THAN OR EQUIVALENT TO\n" ++
  "0.GREATER-THAN OR EQUIVALENT TO\n0.NEITHER LESS-THAN NOR EQUIVALENT TO\n8.GREATER-THAN NOR EQUIVALENT TO\n" ++
  "0.LESS-THAN OR GREATER-THAN\n0.GREATER-THAN OR LESS-THAN\n0.NEITHER LESS-THAN NOR GREATER-THAN\n" ++
  "8.GREATER-THAN NOR LESS-THAN\n0.PRECEDES\n0.SUCCEEDS\n0.PRECEDES OR EQUAL TO\n0.SUCCEEDS OR EQUAL TO\n" ++
  "0.PRECEDES OR EQUIVALENT TO\n0.SUCCEEDS OR EQUIVALENT TO\n0.DOES NOT PRECEDE\n9.SUCCEED\n0.SUBSET OF\n" ++
  "2.PERSET OF\n0.NOT A SUBSET OF\n8.PERSET OF\n0.SUBSET OF OR EQUAL TO\n2.PERSET OF OR EQUAL TO\n" ++
  "0.NEITHER A SUBSET OF NOR EQUAL TO\n12.PERSET OF NOR EQUAL TO\n0.SUBSET OF WITH NOT EQUAL TO\n" ++
  "2.PERSET OF WITH NOT EQUAL TO\n0.MULTISET\n8. MULTIPLICATION\n9.UNION\n0.SQUARE IMAGE OF\n7.ORIGINAL OF\n" ++
  "7.IMAGE OF OR EQUAL TO\n7.ORIGINAL OF OR EQUAL TO\n7.CAP\n8.UP\n0.CIRCLED PLUS\n8.MINUS\n8.TIMES\n" ++
  "8.DIVISION SLASH\n9.OT OPERATOR\n8.RING OPERATOR\n8.ASTERISK OPERATOR\n8.EQUALS\n8.DASH\n0.SQUARED PLUS\n" ++
  "8.MINUS\n8.TIMES\n8.DOT OPERATOR\n0.RIGHT TACK\n0.LEFT TACK\n0.DOWN TACK\n0.UP TACK\n0.ASSERTION\n" ++
  "0.MODELS\n0.TRUE\n0.FORCES\n0.TRIPLE VERTICAL BAR RIGHT TURNSTILE\n0.DOUBLE VERTICAL BAR DOUBLE RIGHT TURNSTILE\n" ++
  "2.ES NOT PROVE\n0.NOT TRUE\n0.DOES NOT FORCE\n0.NEGATED DOUBLE VERTICAL BAR DOUBLE RIGHT TURNSTILE\n" ++
  "0.PRECEDES UNDER RELATION\n0.SUCCEEDS UNDER RELATION\n0.NORMAL SUBGROUP OF\n0.CONTAINS AS NORMAL SUBGROUP\n" ++
  "0.NORMAL SUBGROUP OF OR EQUAL TO\n0.CONTAINS AS NORMAL SUBGROUP OR EQUAL TO\n0.ORIGINAL OF\n0.IMAGE OF\n" ++
  "0.MULTIMAP\n0.HERMITIAN CONJUGATE MATRIX\n0.INTERCALATE\n0.XOR\n0.NAND\n1.OR\n0.RIGHT ANGLE WITH ARC\n" ++
  "6.TRIANGLE\n0.N-ARY LOGICAL AND\n14.OR\n6.INTERSECTION\n6.UNION\n0.DIAMOND OPERATOR\n1.OT OPERATOR\n" ++
  "0.STAR OPERATOR\n0.DIVISION TIMES\n0.BOWTIE\n0.LEFT NORMAL FACTOR SEMIDIRECT PRODUCT\n0.RIGHT NORMAL FACTOR SEMIDIRECT PRODUCT\n" ++
  "0.LEFT SEMIDIRECT PRODUCT\n0.RIGHT SEMIDIRECT PRODUCT\n1.EVERSED TILDE EQUALS\n0.CURLY LOGICAL OR\n" ++
  "14.AND\n0.DOUBLE SUBSET\n9.PERSET\n7.INTERSECTION\n7.UNION\n0.PITCHFORK\n0.EQUAL AND PARALLEL TO\n" ++
  "0.LESS-THAN WITH DOT\n0.GREATER-THAN WITH DOT\n0.VERY MUCH LESS-THAN\n10.GREATER-THAN\n0.LESS-THAN EQUAL TO OR GREATER-THAN\n" ++
  "0.GREATER-THAN EQUAL TO OR LESS-THAN\n0.EQUAL TO OR LESS-THAN\n12.GREATER-THAN\n12.PRECEDES\n" ++
  "12.SUCCEEDS\n0.DOES NOT PRECEDE OR EQUAL\n9.SUCCEED OR EQUAL\n0.NOT SQUARE IMAGE OF OR EQUAL TO\n" ++
  "11.ORIGINAL OF OR EQUAL TO\n0.SQUARE IMAGE OF OR NOT EQUAL TO\n7.ORIGINAL OF OR NOT EQUAL TO\n" ++
  "0.LESS-THAN BUT NOT EQUIVALENT TO\n0.GREATER-THAN BUT NOT EQUIVALENT TO\n0.PRECEDES BUT NOT EQUIVALENT TO\n" ++
  "0.SUCCEEDS BUT NOT EQUIVALENT TO\n0.NOT NORMAL SUBGROUP OF\n0.DOES NOT CONTAIN AS NORMAL SUBGROUP\n" ++
  "0.NOT NORMAL SUBGROUP OF OR EQUAL TO\n0.DOES NOT CONTAIN AS NORMAL SUBGROUP OR EQUAL\n0.VERTICAL ELLIPSIS\n" ++
  "0.MIDLINE HORIZONTAL ELLIPSIS\n0.UP RIGHT DIAGONAL ELLIPSIS\n0.DOWN RIGHT DIAGONAL ELLIPSIS\n" ++
  "0.ELEMENT OF WITH LONG HORIZONTAL STROKE\n16.VERTICAL BAR AT END OF HORIZONTAL STROKE\n0.SMALL ELEMENT OF WITH VERTICAL BAR AT END OF HORIZONTAL STROKE\n" ++
  "0.ELEMENT OF WITH DOT ABOVE\n16.OVERBAR\n0.SMALL ELEMENT OF WITH OVERBAR\n0.ELEMENT OF WITH UNDERBAR\n" ++
  "16.TWO HORIZONTAL STROKES\n0.CONTAINS WITH LONG HORIZONTAL STROKE\n14.VERTICAL BAR AT END OF HORIZONTAL STROKE\n" ++
  "0.SMALL CONTAINS WITH VERTICAL BAR AT END OF HORIZONTAL STROKE\n0.CONTAINS WITH OVERBAR\n0.SMALL CONTAINS WITH OVERBAR\n" ++
  "0.Z NOTATION BAG MEMBERSHIP\n0.DIAMETER SIGN\n0.ELECTRIC ARROW\n0.HOUSE\n0.UP ARROWHEAD\n0.DOWN ARROWHEAD\n" ++
  "0.PROJECTIVE\n1.ERSPECTIVE\n0.WAVY LINE\n0.LEFT CEILING\n0.RIGHT CEILING\n0.LEFT FLOOR\n0.RIGHT FLOOR\n" ++
  "0.BOTTOM RIGHT CROP\n7.LEFT CROP\n0.TOP RIGHT CROP\n4.LEFT CROP\n0.REVERSED NOT SIGN\n0.SQUARE LOZENGE\n" ++
  "0.ARC\n0.SEGMENT\n2.CTOR\n0.TELEPHONE RECORDER\n0.POSITION INDICATOR\n0.VIEWDATA SQUARE\n0.PLACE OF INTEREST SIGN\n" ++
  "0.TURNED NOT SIGN\n0.WATCH\n0.HOURGLASS\n0.TOP LEFT CORNER\n4.RIGHT CORNER\n0.BOTTOM LEFT CORNER\n" ++
  "7.RIGHT CORNER\n0.TOP HALF INTEGRAL\n0.BOTTOM HALF INTEGRAL\n0.FROWN\n0.SMILE\n0.UP ARROWHEAD BETWEEN TWO HORIZONTAL BARS\n" ++
  "0.OPTION KEY\n0.ERASE TO THE RIGHT\n0.X IN A RECTANGLE BOX\n0.KEYBOARD\n0.LEFT-POINTING ANGLE BRACKET\n" ++
  "0.RIGHT-POINTING ANGLE BRACKET\n0.ERASE TO THE LEFT\n0.BENZENE RING\n0.CYLINDRICITY\n0.ALL AROUND-PROFILE\n" ++
  "0.SYMMETRY\n0.TOTAL RUNOUT\n0.DIMENSION ORIGIN\n0.CONICAL TAPER\n0.SLOPE\n0.COUNTERBORE\n7.SINK\n" ++
  "0.APL FUNCTIONAL SYMBOL I-BEAM\n22.SQUISH QUAD\n22.QUAD EQUAL\n27.DIVIDE\n29.AMOND\n27.JOT\n27.CIRCLE\n" ++
  "22.CIRCLE STILE\n29.JOT\n22.SLASH BAR\n22.BACKSLASH BAR\n22.QUAD SLASH\n27.BACKSLASH\n27.LESS-THAN\n" ++
  "27.GREATER-THAN\n22.LEFTWARDS VANE\n22.RIGHTWARDS VANE\n22.QUAD LEFTWARDS ARROW\n27.RIGHTWARDS ARROW\n" ++
  "22.CIRCLE BACKSLASH\n22.DOWN TACK UNDERBAR\n23.ELTA STILE\n22.QUAD DOWN CARET\n28.ELTA\n22.DOWN TACK JOT\n" ++
  "22.UPWARDS VANE\n22.QUAD UPWARDS ARROW\n22.UP TACK OVERBAR\n22.DEL STILE\n22.QUAD UP CARET\n27.DEL\n" ++
  "22.UP TACK JOT\n22.DOWNWARDS VANE\n22.QUAD DOWNWARDS ARROW\n24.OTE UNDERBAR\n22.DELTA UNDERBAR\n"

/-- Part 4 of `nameLines`. -/
def nameLinesPart4 : String :=
  "23.IAMOND UNDERBAR\n22.JOT UNDERBAR\n22.CIRCLE UNDERBAR\n22.UP SHOE JOT\n22.QUOTE QUAD\n22.CIRCLE STAR\n" ++
  "22.QUAD COLON\n22.UP TACK DIAERESIS\n22.DEL DIAERESIS\n22.STAR DIAERESIS\n22.JOT DIAERESIS\n22.CIRCLE DIAERESIS\n" ++
  "22.DOWN SHOE STILE\n22.LEFT SHOE STILE\n22.TILDE DIAERESIS\n22.GREATER-THAN DIAERESIS\n22.COMMA BAR\n" ++
  "22.DEL TILDE\n22.ZILDE\n22.STILE TILDE\n23.EMICOLON UNDERBAR\n22.QUAD NOT EQUAL\n27.QUESTION\n" ++
  "22.DOWN CARET TILDE\n22.UP CARET TILDE\n22.IOTA\n22.RHO\n22.OMEGA\n22.ALPHA UNDERBAR\n22.EPSILON UNDERBAR\n" ++
  "22.IOTA UNDERBAR\n22.OMEGA UNDERBAR\n22.ALPHA\n0.NOT CHECK MARK\n0.RIGHT ANGLE WITH DOWNWARDS ZIGZAG ARROW\n" ++
  "0.SHOULDERED OPEN BOX\n0.BELL SYMBOL\n0.VERTICAL LINE WITH MIDDLE DOT\n0.INSERTION SYMBOL\n0.CONTINUOUS UNDERLINE SYMBOL\n" ++
  "0.DISCONTINUOUS UNDERLINE SYMBOL\n0.EMPHASIS SYMBOL\n0.COMPOSITION SYMBOL\n0.WHITE SQUARE WITH CENTRE VERTICAL LINE\n" ++
  "0.ENTER SYMBOL\n0.ALTERNATIVE KEY SYMBOL\n0.HELM SYMBOL\n0.CIRCLED HORIZONTAL BAR WITH NOTCH\n" ++
  "8.TRIANGLE DOWN\n0.BROKEN CIRCLE WITH NORTHWEST ARROW\n0.UNDO SYMBOL\n0.MONOSTABLE SYMBOL\n0.HYSTERESIS SYMBOL\n" ++
  "0.OPEN-CIRCUIT-OUTPUT H-TYPE SYMBOL\n20.L-TYPE SYMBOL\n0.PASSIVE-PULL-DOWN-OUTPUT SYMBOL\n13.UP-OUTPUT SYMBOL\n" ++
  "0.DIRECT CURRENT SYMBOL FORM TWO\n0.SOFTWARE-FUNCTION SYMBOL\n0.APL FUNCTIONAL SYMBOL QUAD\n0.DECIMAL SEPARATOR KEY SYMBOL\n" ++
  "0.PREVIOUS PAGE\n0.NEXT PAGE\n0.PRINT SCREEN SYMBOL\n0.CLEAR SCREEN SYMBOL\n0.LEFT PARENTHESIS UPPER HOOK\n" ++
  "17.EXTENSION\n17.LOWER HOOK\n0.RIGHT PARENTHESIS UPPER HOOK\n18.EXTENSION\n18.LOWER HOOK\n0.LEFT SQUARE BRACKET UPPER CORNER\n" ++
  "20.EXTENSION\n20.LOWER CORNER\n0.RIGHT SQUARE BRACKET UPPER CORNER\n21.EXTENSION\n21.LOWER CORNER\n" ++
  "0.LEFT CURLY BRACKET UPPER HOOK\n19.MIDDLE PIECE\n19.LOWER HOOK\n0.CURLY BRACKET EXTENSION\n0.RIGHT CURLY BRACKET UPPER HOOK\n" ++
  "20.MIDDLE PIECE\n20.LOWER HOOK\n0.INTEGRAL EXTENSION\n0.HORIZONTAL LINE EXTENSION\n0.UPPER LEFT OR LOWER RIGHT CURLY BRACKET SECTION\n" ++
  "6.RIGHT OR LOWER LEFT CURLY BRACKET SECTION\n0.SUMMATION TOP\n10.BOTTOM\n0.TOP SQUARE BRACKET\n" ++
  "0.BOTTOM SQUARE BRACKET\n21. OVER TOP SQUARE BRACKET\n0.RADICAL SYMBOL BOTTOM\n0.LEFT VERTICAL BOX LINE\n" ++
  "0.RIGHT VERTICAL BOX LINE\n0.HORIZONTAL SCAN LINE-1\n21.3\n21.7\n21.9\n0.DENTISTRY SYMBOL LIGHT VERTICAL AND TOP RIGHT\n" ++
  "36.BOTTOM RIGHT\n32.WITH CIRCLE\n23.DOWN AND HORIZONTAL WITH CIRCLE\n23.UP AND HORIZONTAL WITH CIRCLE\n" ++
  "23.VERTICAL WITH TRIANGLE\n23.DOWN AND HORIZONTAL WITH TRIANGLE\n23.UP AND HORIZONTAL WITH TRIANGLE\n" ++
  "23.VERTICAL AND WAVE\n23.DOWN AND HORIZONTAL WITH WAVE\n23.UP AND HORIZONTAL WITH WAVE\n23.DOWN AND HORIZONTAL\n" ++
  "23.UP AND HORIZONTAL\n23.VERTICAL AND TOP LEFT\n36.BOTTOM LEFT\n0.SQUARE FOOT\n0.RETURN SYMBOL\n" ++
  "0.EJECT SYMBOL\n0.VERTICAL LINE EXTENSION\n0.METRICAL BREVE\n9.LONG OVER SHORT\n9.SHORT OVER LONG\n" ++
  "9.LONG OVER TWO SHORTS\n9.TWO SHORTS OVER LONG\n20.JOINED\n10.RISEME\n10.ETRASEME\n9.PENTASEME\n" ++
  "0.EARTH GROUND\n0.FUSE\n0.TOP PARENTHESIS\n0.BOTTOM PARENTHESIS\n0.TOP CURLY BRACKET\n0.BOTTOM CURLY BRACKET\n" ++
  "0.TOP TORTOISE SHELL BRACKET\n0.BOTTOM TORTOISE SHELL BRACKET\n0.WHITE TRAPEZIUM\n0.BENZENE RING WITH CIRCLE\n" ++
  "0.STRAIGHTNESS\n0.FLATNESS\n0.AC CURRENT\n0.ELECTRICAL INTERSECTION\n0.DECIMAL EXPONENT SYMBOL\n" ++
  "0.BLACK RIGHT-POINTING DOUBLE TRIANGLE\n6.LEFT-POINTING DOUBLE TRIANGLE\n6.UP-POINTING DOUBLE TRIANGLE\n" ++
  "6.DOWN-POINTING DOUBLE TRIANGLE\n6.RIGHT-POINTING DOUBLE TRIANGLE WITH VERTICAL BAR\n6.LEFT-POINTING DOUBLE TRIANGLE WITH VERTICAL BAR\n" ++
  "6.RIGHT-POINTING TRIANGLE WITH DOUBLE VERTICAL BAR\n0.ALARM CLOCK\n0.STOPWATCH\n0.TIMER CLOCK\n" ++
  "0.HOURGLASS WITH FLOWING SAND\n0.BLACK MEDIUM LEFT-POINTING TRIANGLE\n13.RIGHT-POINTING TRIANGLE\n" ++
  "13.UP-POINTING TRIANGLE\n13.DOWN-POINTING TRIANGLE\n0.DOUBLE VERTICAL BAR\n0.BLACK SQUARE FOR STOP\n" ++
  "6.CIRCLE FOR RECORD\n0.POWER SYMBOL\n6.ON-OFF SYMBOL\n8. SYMBOL\n6.SLEEP SYMBOL\n0.OBSERVER EYE SYMBOL\n" ++
  "0.SYMBOL FOR NULL\n11.START OF HEADING\n20.TEXT\n11.END OF TEXT\n19.RANSMISSION\n13.QUIRY\n11.ACKNOWLEDGE\n" ++
  "11.BELL\n12.ACKSPACE\n11.HORIZONTAL TABULATION\n11.LINE FEED\n11.VERTICAL TABULATION\n11.FORM FEED\n" ++
  "11.CARRIAGE RETURN\n11.SHIFT OUT\n17.IN\n11.DATA LINK ESCAPE\n12.EVICE CONTROL ONE\n26.TWO\n27.HREE\n" ++
  "26.FOUR\n11.NEGATIVE ACKNOWLEDGE\n11.SYNCHRONOUS IDLE\n11.END OF TRANSMISSION BLOCK\n11.CANCEL\n" ++
  "11.END OF MEDIUM\n11.SUBSTITUTE\n11.ESCAPE\n11.FILE SEPARATOR\n11.GROUP SEPARATOR\n11.RECORD SEPARATOR\n" ++
  "11.UNIT SEPARATOR\n11.SPACE\n11.DELETE\n0.BLANK SYMBOL\n0.OPEN BOX\n0.SYMBOL FOR NEWLINE\n11.DELETE FORM TWO\n" ++
  "11.SUBSTITUTE FORM TWO\n2440:0.OCR HOOK\n4.CHAIR\n4.FORK\n4.INVERTED FORK\n4.BELT BUCKLE\n5.OW TIE\n" ++
  "5.RANCH BANK IDENTIFICATION\n4.AMOUNT OF CHECK\n4.DASH\n4.CUSTOMER ACCOUNT NUMBER\n4.DOUBLE BACKSLASH\n" ++
  "2460:0.CIRCLED DIGIT ONE\n14.TWO\n15.HREE\n14.FOUR\n15.IVE\n14.SIX\n15.EVEN\n14.EIGHT\n14.NINE\n" ++
  "8.NUMBER TEN\n15.ELEVEN\n15.TWELVE\n16.HIRTEEN\n15.FOURTEEN\n16.IFTEEN\n15.SIXTEEN\n16.EVENTEEN\n" ++
  "15.EIGHTEEN\n15.NINETEEN\n15.TWENTY\n0.PARENTHESIZED DIGIT ONE\n20.TWO\n21.HREE\n20.FOUR\n21.IVE\n" ++
  "20.SIX\n21.EVEN\n20.EIGHT\n20.NINE\n14.NUMBER TEN\n21.ELEVEN\n21.TWELVE\n22.HIRTEEN\n21.FOURTEEN\n" ++
  "22.IFTEEN\n21.SIXTEEN\n22.EVENTEEN\n21.EIGHTEEN\n21.NINETEEN\n21.TWENTY\n0.DIGIT ONE FULL STOP\n" ++
  "6.TWO FULL STOP\n7.HREE FULL STOP\n6.FOUR FULL STOP\n7.IVE FULL STOP\n6.SIX FULL STOP\n7.EVEN FULL STOP\n" ++
  "6.EIGHT FULL STOP\n6.NINE FULL STOP\n0.NUMBER TEN FULL STOP\n7.ELEVEN FULL STOP\n7.TWELVE FULL STOP\n" ++
  "8.HIRTEEN FULL STOP\n7.FOURTEEN FULL STOP\n8.IFTEEN FULL STOP\n7.SIXTEEN FULL STOP\n8.EVENTEEN FULL STOP\n" ++
  "7.EIGHTEEN FULL STOP\n7.NINETEEN FULL STOP\n7.TWENTY FULL STOP\n0.PARENTHESIZED LATIN SMALL LETTER A\n" ++
  "33.B\n33.C\n33.D\n33.E\n33.F\n33.G\n33.H\n33.I\n33.J\n33.K\n33.L\n33.M\n33.N\n33.O\n33.P\n33.Q\n" ++
  "33.R\n33.S\n33.T\n33.U\n33.V\n33.W\n33.X\n33.Y\n33.Z\n0.CIRCLED LATIN CAPITAL LETTER A\n29.B\n" ++
  "29.C\n29.D\n29.E\n29.F\n29.G\n29.H\n29.I\n29.J\n29.K\n29.L\n29.M\n29.N\n29.O\n29.P\n29.Q\n29.R\n" ++
  "29.S\n29.T\n29.U\n29.V\n29.W\n29.X\n29.Y\n29.Z\n14.SMALL LETTER A\n27.B\n27.C\n27.D\n27.E\n27.F\n" ++
  "27.G\n27.H\n27.I\n27.J\n27.K\n27.L\n27.M\n27.N\n27.O\n27.P\n27.Q\n27.R\n27.S\n27.T\n27.U\n27.V\n" ++
  "27.W\n27.X\n27.Y\n27.Z\n8.DIGIT ZERO\n0.NEGATIVE CIRCLED NUMBER ELEVEN\n24.TWELVE\n25.HIRTEEN\n" ++
  "24.FOURTEEN\n25.IFTEEN\n24.SIXTEEN\n25.EVENTEEN\n24.EIGHTEEN\n24.NINETEEN\n24.TWENTY\n0.DOUBLE CIRCLED DIGIT ONE\n" ++
  "21.TWO\n22.HREE\n21.FOUR\n22.IVE\n21.SIX\n22.EVEN\n21.EIGHT\n21.NINE\n15.NUMBER TEN\n0.NEGATIVE CIRCLED DIGIT ZERO\n" ++
  "0.BOX DRAWINGS LIGHT HORIZONTAL\n13.HEAVY HORIZONTAL\n13.LIGHT VERTICAL\n13.HEAVY VERTICAL\n13.LIGHT TRIPLE DASH HORIZONTAL\n" ++
  "13.HEAVY TRIPLE DASH HORIZONTAL\n13.LIGHT TRIPLE DASH VERTICAL\n13.HEAVY TRIPLE DASH VERTICAL\n" ++
  "13.LIGHT QUADRUPLE DASH HORIZONTAL\n13.HEAVY QUADRUPLE DASH HORIZONTAL\n13.LIGHT QUADRUPLE DASH VERTICAL\n" ++
  "13.HEAVY QUADRUPLE DASH VERTICAL\n13.LIGHT DOWN AND RIGHT\n13.DOWN LIGHT AND RIGHT HEAVY\n18.HEAVY AND RIGHT LIGHT\n" ++
  "13.HEAVY DOWN AND RIGHT\n13.LIGHT DOWN AND LEFT\n13.DOWN LIGHT AND LEFT HEAVY\n18.HEAVY AND LEFT LIGHT\n" ++
  "13.HEAVY DOWN AND LEFT\n13.LIGHT UP AND RIGHT\n13.UP LIGHT AND RIGHT HEAVY\n16.HEAVY AND RIGHT LIGHT\n" ++
  "13.HEAVY UP AND RIGHT\n13.LIGHT UP AND LEFT\n13.UP LIGHT AND LEFT HEAVY\n16.HEAVY AND LEFT LIGHT\n" ++
  "13.HEAVY UP AND LEFT\n13.LIGHT VERTICAL AND RIGHT\n13.VERTICAL LIGHT AND RIGHT HEAVY\n13.UP HEAVY AND RIGHT DOWN LIGHT\n" ++
  "13.DOWN HEAVY AND RIGHT UP LIGHT\n13.VERTICAL HEAVY AND RIGHT LIGHT\n13.DOWN LIGHT AND RIGHT UP HEAVY\n" ++
  "13.UP LIGHT AND RIGHT DOWN HEAVY\n13.HEAVY VERTICAL AND RIGHT\n13.LIGHT VERTICAL AND LEFT\n13.VERTICAL LIGHT AND LEFT HEAVY\n" ++
  "13.UP HEAVY AND LEFT DOWN LIGHT\n13.DOWN HEAVY AND LEFT UP LIGHT\n13.VERTICAL HEAVY AND LEFT LIGHT\n" ++
  "13.DOWN LIGHT AND LEFT UP HEAVY\n13.UP LIGHT AND LEFT DOWN HEAVY\n13.HEAVY VERTICAL AND LEFT\n" ++
  "13.LIGHT DOWN AND HORIZONTAL\n14.EFT HEAVY AND RIGHT DOWN LIGHT\n13.RIGHT HEAVY AND LEFT DOWN LIGHT\n" ++
  "13.DOWN LIGHT AND HORIZONTAL HEAVY\n18.HEAVY AND HORIZONTAL LIGHT\n13.RIGHT LIGHT AND LEFT DOWN HEAVY\n" ++
  "13.LEFT LIGHT AND RIGHT DOWN HEAVY\n13.HEAVY DOWN AND HORIZONTAL\n13.LIGHT UP AND HORIZONTAL\n" ++
  "14.EFT HEAVY AND RIGHT UP LIGHT\n13.RIGHT HEAVY AND LEFT UP LIGHT\n13.UP LIGHT AND HORIZONTAL HEAVY\n" ++
  "16.HEAVY AND HORIZONTAL LIGHT\n13.RIGHT LIGHT AND LEFT UP HEAVY\n13.LEFT LIGHT AND RIGHT UP HEAVY\n" ++
  "13.HEAVY UP AND HORIZONTAL\n13.LIGHT VERTICAL AND HORIZONTAL\n14.EFT HEAVY AND RIGHT VERTICAL LIGHT\n" ++
  "13.RIGHT HEAVY AND LEFT VERTICAL LIGHT\n13.VERTICAL LIGHT AND HORIZONTAL HEAVY\n13.UP HEAVY AND DOWN HORIZONTAL LIGHT\n" ++
  "13.DOWN HEAVY AND UP HORIZONTAL LIGHT\n13.VERTICAL HEAVY AND HORIZONTAL LIGHT\n13.LEFT UP HEAVY AND RIGHT DOWN LIGHT\n" ++
  "13.RIGHT UP HEAVY AND LEFT DOWN LIGHT\n13.LEFT DOWN HEAVY AND RIGHT UP LIGHT\n13.RIGHT DOWN HEAVY AND LEFT UP LIGHT\n" ++
  "13.DOWN LIGHT AND UP HORIZONTAL HEAVY\n13.UP LIGHT AND DOWN HORIZONTAL HEAVY\n13.RIGHT LIGHT AND LEFT VERTICAL HEAVY\n" ++
  "13.LEFT LIGHT AND RIGHT VERTICAL HEAVY\n13.HEAVY VERTICAL AND HORIZONTAL\n13.LIGHT DOUBLE DASH HORIZONTAL\n" ++
  "13.HEAVY DOUBLE DASH HORIZONTAL\n13.LIGHT DOUBLE DASH VERTICAL\n13.HEAVY DOUBLE DASH VERTICAL\n" ++
  "13.DOUBLE HORIZONTAL\n20.VERTICAL\n15.WN SINGLE AND RIGHT DOUBLE\n18.DOUBLE AND RIGHT SINGLE\n" ++
  "15.UBLE DOWN AND RIGHT\n15.WN SINGLE AND LEFT DOUBLE\n18.DOUBLE AND LEFT SINGLE\n15.UBLE DOWN AND LEFT\n" ++
  "13.UP SINGLE AND RIGHT DOUBLE\n16.DOUBLE AND RIGHT SINGLE\n13.DOUBLE UP AND RIGHT\n13.UP SINGLE AND LEFT DOUBLE\n" ++
  "16.DOUBLE AND LEFT SINGLE\n13.DOUBLE UP AND LEFT\n13.VERTICAL SINGLE AND RIGHT DOUBLE\n22.DOUBLE AND RIGHT SINGLE\n" ++
  "13.DOUBLE VERTICAL AND RIGHT\n13.VERTICAL SINGLE AND LEFT DOUBLE\n22.DOUBLE AND LEFT SINGLE\n" ++
  "13.DOUBLE VERTICAL AND LEFT\n15.WN SINGLE AND HORIZONTAL DOUBLE\n18.DOUBLE AND HORIZONTAL SINGLE\n" ++
  "15.UBLE DOWN AND HORIZONTAL\n13.UP SINGLE AND HORIZONTAL DOUBLE\n16.DOUBLE AND HORIZONTAL SINGLE\n" ++
  "13.DOUBLE UP AND HORIZONTAL\n13.VERTICAL SINGLE AND HORIZONTAL DOUBLE\n22.DOUBLE AND HORIZONTAL SINGLE\n" ++
  "13.DOUBLE VERTICAL AND HORIZONTAL\n13.LIGHT ARC DOWN AND RIGHT\n32.LEFT\n23.UP AND LEFT\n30.RIGHT\n" ++
  "19.DIAGONAL UPPER RIGHT TO LOWER LEFT\n34.LEFT TO LOWER RIGHT\n28.CROSS\n19.LEFT\n19.UP\n19.RIGHT\n" ++
  "19.DOWN\n13.HEAVY LEFT\n19.UP\n19.RIGHT\n19.DOWN\n13.LIGHT LEFT AND HEAVY RIGHT\n19.UP AND HEAVY DOWN\n" ++
  "13.HEAVY LEFT AND LIGHT RIGHT\n19.UP AND LIGHT DOWN\n0.UPPER HALF BLOCK\n0.LOWER ONE EIGHTH BLOCK\n" ++
  "10.QUARTER BLOCK\n6.THREE EIGHTHS BLOCK\n6.HALF BLOCK\n6.FIVE EIGHTHS BLOCK\n6.THREE QUARTERS BLOCK\n" ++
  "6.SEVEN EIGHTHS BLOCK\n0.FULL BLOCK\n0.LEFT SEVEN EIGHTHS BLOCK\n5.THREE QUARTERS BLOCK\n5.FIVE EIGHTHS BLOCK\n" ++
  "5.HALF BLOCK\n5.THREE EIGHTHS BLOCK\n5.ONE QUARTER BLOCK\n9.EIGHTH BLOCK\n0.RIGHT HALF BLOCK\n" ++
  "0.LIGHT SHADE\n0.MEDIUM SHADE\n0.DARK SHADE\n0.UPPER ONE EIGHTH BLOCK\n0.RIGHT ONE EIGHTH BLOCK\n" ++
  "0.QUADRANT LOWER LEFT\n15.RIGHT\n9.UPPER LEFT\n19. AND LOWER LEFT AND LOWER RIGHT\n30.RIGHT\n" ++
  "24.UPPER RIGHT AND LOWER LEFT\n46.RIGHT\n15.RIGHT\n20. AND LOWER LEFT\n35. AND LOWER RIGHT\n0.BLACK SQUARE\n" ++
  "0.WHITE SQUARE\n12. WITH ROUNDED CORNERS\n13.CONTAINING BLACK SMALL SQUARE\n0.SQUARE WITH HORIZONTAL FILL\n" ++
  "12.VERTICAL FILL\n12.ORTHOGONAL CROSSHATCH FILL\n12.UPPER LEFT TO LOWER RIGHT FILL\n18.RIGHT TO LOWER LEFT FILL\n" ++
  "12.DIAGONAL CROSSHATCH FILL\n0.BLACK SMALL SQUARE\n0.WHITE SMALL SQUARE\n0.BLACK RECTANGLE\n0.WHITE RECTANGLE\n" ++
  "0.BLACK VERTICAL RECTANGLE\n0.WHITE VERTICAL RECTANGLE\n0.BLACK PARALLELOGRAM\n0.WHITE PARALLELOGRAM\n" ++
  "0.BLACK UP-POINTING TRIANGLE\n0.WHITE UP-POINTING TRIANGLE\n0.BLACK UP-POINTING SMALL TRIANGLE\n" ++
  "0.WHITE UP-POINTING SMALL TRIANGLE\n0.BLACK RIGHT-POINTING TRIANGLE\n0.WHITE RIGHT-POINTING TRIANGLE\n" ++
  "0.BLACK RIGHT-POINTING SMALL TRIANGLE\n0.WHITE RIGHT-POINTING SMALL TRIANGLE\n0.BLACK RIGHT-POINTING POINTER\n" ++
  "0.WHITE RIGHT-POINTING POINTER\n0.BLACK DOWN-POINTING TRIANGLE\n0.WHITE DOWN-POINTING TRIANGLE\n" ++
  "0.BLACK DOWN-POINTING SMALL TRIANGLE\n0.WHITE DOWN-POINTING SMALL TRIANGLE\n0.BLACK LEFT-POINTING TRIANGLE\n" ++
  "0.WHITE LEFT-POINTING TRIANGLE\n0.BLACK LEFT-POINTING SMALL TRIANGLE\n0.WHITE LEFT-POINTING SMALL TRIANGLE\n" ++
  "0.BLACK LEFT-POINTING POINTER\n0.WHITE LEFT-POINTING POINTER\n0.BLACK DIAMOND\n0.WHITE DIAMOND\n" ++
  "13. CONTAINING BLACK SMALL DIAMOND\n0.FISHEYE\n0.LOZENGE\n0.WHITE CIRCLE\n0.DOTTED CIRCLE\n0.CIRCLE WITH VERTICAL FILL\n" ++
  "0.BULLSEYE\n1.LACK CIRCLE\n0.CIRCLE WITH LEFT HALF BLACK\n12.RIGHT HALF BLACK\n12.LOWER HALF BLACK\n" ++
  "12.UPPER HALF BLACK\n18.RIGHT QUADRANT BLACK\n12.ALL BUT UPPER LEFT QUADRANT BLACK\n0.LEFT HALF BLACK CIRCLE\n" ++
  "0.RIGHT HALF BLACK CIRCLE\n0.INVERSE BULLET\n8.WHITE CIRCLE\n0.UPPER HALF INVERSE WHITE CIRCLE\n" ++
  "0.LOWER HALF INVERSE WHITE CIRCLE\n0.UPPER LEFT QUADRANT CIRCULAR ARC\n6.RIGHT QUADRANT CIRCULAR ARC\n" ++
  "0.LOWER RIGHT QUADRANT CIRCULAR ARC\n6.LEFT QUADRANT CIRCULAR ARC\n0.UPPER HALF CIRCLE\n0.LOWER HALF CIRCLE\n" ++
  "0.BLACK LOWER RIGHT TRIANGLE\n12.LEFT TRIANGLE\n6.UPPER LEFT TRIANGLE\n12.RIGHT TRIANGLE\n0.WHITE BULLET\n" ++
  "0.SQUARE WITH LEFT HALF BLACK\n12.RIGHT HALF BLACK\n12.UPPER LEFT DIAGONAL HALF BLACK\n12.LOWER RIGHT DIAGONAL HALF BLACK\n" ++
  "0.WHITE SQUARE WITH VERTICAL BISECTING LINE\n6.UP-POINTING TRIANGLE WITH DOT\n0.UP-POINTING TRIANGLE WITH LEFT HALF BLACK\n" ++
  "26.RIGHT HALF BLACK\n0.LARGE CIRCLE\n0.WHITE SQUARE WITH UPPER LEFT QUADRANT\n18.LOWER LEFT QUADRANT\n" ++
  "24.RIGHT QUADRANT\n18.UPPER RIGHT QUADRANT\n6.CIRCLE WITH UPPER LEFT QUADRANT\n18.LOWER LEFT QUADRANT\n" ++
  "24.RIGHT QUADRANT\n18.UPPER RIGHT QUADRANT\n0.UPPER LEFT TRIANGLE\n6.RIGHT TRIANGLE\n0.LOWER LEFT TRIANGLE\n" ++
  "0.WHITE MEDIUM SQUARE\n0.BLACK MEDIUM SQUARE\n0.WHITE MEDIUM SMALL SQUARE\n0.BLACK MEDIUM SMALL SQUARE\n" ++
  "0.LOWER RIGHT TRIANGLE\n0.BLACK SUN WITH RAYS\n0.CLOUD\n0.UMBRELLA\n0.SNOWMAN\n0.COMET\n0.BLACK STAR\n" ++
  "0.WHITE STAR\n0.LIGHTNING\n0.THUNDERSTORM\n0.SUN\n0.ASCENDING NODE\n0.DESCENDING NODE\n0.CONJUNCTION\n" ++
  "0.OPPOSITION\n0.BLACK TELEPHONE\n0.WHITE TELEPHONE\n0.BALLOT BOX\n10. WITH CHECK\n16.X\n0.SALTIRE\n" ++
  "0.UMBRELLA WITH RAIN DROPS\n0.HOT BEVERAGE\n0.WHITE SHOGI PIECE\n0.BLACK SHOGI PIECE\n0.SHAMROCK\n" ++
  "0.REVERSED ROTATED FLORAL HEART BULLET\n0.BLACK LEFT POINTING INDEX\n6.RIGHT POINTING INDEX\n" ++
  "0.WHITE LEFT POINTING INDEX\n6.UP POINTING INDEX\n6.RIGHT POINTING INDEX\n6.DOWN POINTING INDEX\n" ++
  "0.SKULL AND CROSSBONES\n0.CAUTION SIGN\n0.RADIOACTIVE SIGN\n0.BIOHAZARD SIGN\n0.CADUCEUS\n0.ANKH\n" ++
  "0.ORTHODOX CROSS\n0.CHI RHO\n1.ROSS OF LORRAINE\n9.JERUSALEM\n0.STAR AND CRESCENT\n0.FARSI SYMBOL\n" ++
  "0.ADI SHAKTI\n0.HAMMER AND SICKLE\n0.PEACE SYMBOL\n0.YIN YANG\n0.TRIGRAM FOR HEAVEN\n12.LAKE\n" ++
  "12.FIRE\n12.THUNDER\n12.WIND\n13.ATER\n12.MOUNTAIN\n12.EARTH\n0.WHEEL OF DHARMA\n2.ITE FROWNING FACE\n" ++
  "6.SMILING FACE\n0.BLACK SMILING FACE\n0.WHITE SUN WITH RAYS\n0.FIRST QUARTER MOON\n0.LAST QUARTER MOON\n" ++
  "0.MERCURY\n0.FEMALE SIGN\n0.EARTH\n0.MALE SIGN\n0.JUPITER\n0.SATURN\n0.URANUS\n0.NEPTUNE\n0.PLUTO\n" ++
  "0.ARIES\n0.TAURUS\n0.GEMINI\n0.CANCER\n0.LEO\n0.VIRGO\n0.LIBRA\n0.SCORPIUS\n1.AGITTARIUS\n0.CAPRICORN\n" ++
  "0.AQUARIUS\n0.PISCES\n0.WHITE CHESS KING\n12.QUEEN\n12.ROOK\n12.BISHOP\n12.KNIGHT\n12.PAWN\n0.BLACK CHESS KING\n" ++
  "12.QUEEN\n12.ROOK\n12.BISHOP\n12.KNIGHT\n12.PAWN\n6.SPADE SUIT\n0.WHITE HEART SUIT\n6.DIAMOND SUIT\n" ++
  "0.BLACK CLUB SUIT\n0.WHITE SPADE SUIT\n0.BLACK HEART SUIT\n6.DIAMOND SUIT\n0.WHITE CLUB SUIT\n" ++
  "0.HOT SPRINGS\n0.QUARTER NOTE\n0.EIGHTH NOTE\n0.BEAMED EIGHTH NOTES\n7.SIXTEENTH NOTES\n0.MUSIC FLAT SIGN\n" ++
  "6.NATURAL SIGN\n6.SHARP SIGN\n0.WEST SYRIAC CROSS\n0.EAST SYRIAC CROSS\n0.UNIVERSAL RECYCLING SYMBOL\n" ++
  "0.RECYCLING SYMBOL FOR TYPE-1 PLASTICS\n26.2 PLASTICS\n26.3 PLASTICS\n26.4 PLASTICS\n26.5 PLASTICS\n" ++
  "26.6 PLASTICS\n26.7 PLASTICS\n21.GENERIC MATERIALS\n0.BLACK UNIVERSAL RECYCLING SYMBOL\n0.RECYCLED PAPER SYMBOL\n" ++
  "0.PARTIALLY-RECYCLED PAPER SYMBOL\n1.ERMANENT PAPER SIGN\n0.WHEELCHAIR SYMBOL\n0.DIE FACE-1\n" ++
  "9.2\n9.3\n9.4\n9.5\n9.6\n0.WHITE CIRCLE WITH DOT RIGHT\n18.TWO DOTS\n0.BLACK CIRCLE WITH WHITE DOT RIGHT\n" ++
  "18.TWO WHITE DOTS\n0.MONOGRAM FOR YANG\n14.IN\n0.DIGRAM FOR GREATER YANG\n11.LESSER YIN\n19.ANG\n" ++
  "11.GREATER YIN\n0.WHITE FLAG\n0.BLACK FLAG\n0.HAMMER AND PICK\n0.ANCHOR\n0.CROSSED SWORDS\n0.STAFF OF AESCULAPIUS\n" ++
  "1.CALES\n0.ALEMBIC\n0.FLOWER\n0.GEAR\n0.STAFF OF HERMES\n0.ATOM SYMBOL\n0.FLEUR-DE-LIS\n0.OUTLINED WHITE STAR\n" ++
  "0.THREE LINES CONVERGING RIGHT\n23.LEFT\n0.WARNING SIGN\n0.HIGH VOLTAGE SIGN\n0.DOUBLED FEMALE SIGN\n" ++
  "8.MALE SIGN\n0.INTERLOCKED FEMALE AND MALE SIGN\n0.MALE AND FEMALE SIGN\n5.WITH STROKE SIGN\n" ++
  "17.AND MALE AND FEMALE SIGN\n0.VERTICAL MALE WITH STROKE SIGN\n0.HORIZONTAL MALE WITH STROKE SIGN\n" ++
  "0.MEDIUM WHITE CIRCLE\n7.BLACK CIRCLE\n7.SMALL WHITE CIRCLE\n1.ARRIAGE SYMBOL\n0.DIVORCE SYMBOL\n" ++
  "0.UNMARRIED PARTNERSHIP SYMBOL\n0.COFFIN\n0.FUNERAL URN\n0.NEUTER\n0.CERES\n0.PALLAS\n0.JUNO\n" ++
  "0.VESTA\n0.CHIRON\n0.BLACK MOON LILITH\n0.SEXTILE\n2.MISEXTILE\n0.QUINCUNX\n0.SESQUIQUADRATE\n" ++
  "1.OCCER BALL\n0.BASEBALL\n0.SQUARED KEY\n0.WHITE DRAUGHTS MAN\n15.KING\n0.BLACK DRAUGHTS MAN\n" ++
  "15.KING\n0.SNOWMAN WITHOUT SNOW\n1.UN BEHIND CLOUD\n0.RAIN\n0.BLACK SNOWMAN\n0.THUNDER CLOUD AND RAIN\n" ++
  "1.URNED WHITE SHOGI PIECE\n7.BLACK SHOGI PIECE\n0.WHITE DIAMOND IN SQUARE\n0.CROSSING LANES\n" ++
  "0.DISABLED CAR\n0.OPHIUCHUS\n0.PICK\n0.CAR SLIDING\n0.HELMET WITH WHITE CROSS\n0.CIRCLED CROSSING LANES\n" ++
  "1.HAINS\n0.NO ENTRY\n0.ALTERNATE ONE-WAY LEFT WAY TRAFFIC\n0.BLACK TWO-WAY LEFT WAY TRAFFIC\n" ++
  "0.WHITE TWO-WAY LEFT WAY TRAFFIC\n0.BLACK LEFT LANE MERGE\n0.WHITE LEFT LANE MERGE\n0.DRIVE SLOW SIGN\n" ++
  "0.HEAVY WHITE DOWN-POINTING TRIANGLE\n0.LEFT CLOSED ENTRY\n0.SQUARED SALTIRE\n0.FALLING DIAGONAL IN WHITE CIRCLE IN BLACK SQUARE\n" ++
  "0.BLACK TRUCK\n0.RESTRICTED LEFT ENTRY-1\n22.2\n0.ASTRONOMICAL SYMBOL FOR URANUS\n0.HEAVY CIRCLE WITH STROKE AND TWO DOTS ABOVE\n" ++
  "0.PENTAGRAM\n0.RIGHT-HANDED INTERLACED PENTAGRAM\n0.LEFT-HANDED INTERLACED PENTAGRAM\n0.INVERTED PENTAGRAM\n" ++
  "0.BLACK CROSS ON SHIELD\n0.SHINTO SHRINE\n0.CHURCH\n1.ASTLE\n0.HISTORIC SITE\n0.GEAR WITHOUT HUB\n" ++
  "9. HANDLES\n0.MAP SYMBOL FOR LIGHTHOUSE\n1.OUNTAIN\n0.UMBRELLA ON GROUND\n0.FOUNTAIN\n1.LAG IN HOLE\n" ++
  "1.ERRY\n0.SAILBOAT\n1.QUARE FOUR CORNERS\n1.KIER\n0.ICE SKATE\n0.PERSON WITH BALL\n0.TENT\n0.JAPANESE BANK SYMBOL\n" ++
  "0.HEADSTONE GRAVEYARD SYMBOL\n0.FUEL PUMP\n0.CUP ON BLACK SQUARE\n0.WHITE FLAG WITH HORIZONTAL MIDDLE BLACK STRIPE\n" ++
  "0.BLACK SAFETY SCISSORS\n0.UPPER BLADE SCISSORS\n0.BLACK SCISSORS\n0.LOWER BLADE SCISSORS\n0.WHITE SCISSORS\n" ++
  "6.HEAVY CHECK MARK\n0.TELEPHONE LOCATION SIGN\n1.APE DRIVE\n0.AIRPLANE\n0.ENVELOPE\n0.RAISED FIST\n" ++
  "7.HAND\n0.VICTORY HAND\n0.WRITING HAND\n0.LOWER RIGHT PENCIL\n0.PENCIL\n0.UPPER RIGHT PENCIL\n" ++
  "0.WHITE NIB\n0.BLACK NIB\n0.CHECK MARK\n0.HEAVY CHECK MARK\n0.MULTIPLICATION X\n0.HEAVY MULTIPLICATION X\n" ++
  "0.BALLOT X\n0.HEAVY BALLOT X\n0.OUTLINED GREEK CROSS\n0.HEAVY GREEK CROSS\n0.OPEN CENTRE CROSS\n" ++
  "0.HEAVY OPEN CENTRE CROSS\n0.LATIN CROSS\n0.SHADOWED WHITE LATIN CROSS\n0.OUTLINED LATIN CROSS\n" ++
  "0.MALTESE CROSS\n0.STAR OF DAVID\n0.FOUR TEARDROP-SPOKED ASTERISK\n5.BALLOON-SPOKED ASTERISK\n" ++
  "0.HEAVY FOUR BALLOON-SPOKED ASTERISK\n0.FOUR CLUB-SPOKED ASTERISK\n0.BLACK FOUR POINTED STAR\n" ++
  "0.WHITE FOUR POINTED STAR\n0.SPARKLES\n1.TRESS OUTLINED WHITE STAR\n0.CIRCLED WHITE STAR\n0.OPEN CENTRE BLACK STAR\n" ++
  "0.BLACK CENTRE WHITE STAR\n0.OUTLINED BLACK STAR\n0.HEAVY OUTLINED BLACK STAR\n0.PINWHEEL STAR\n" ++
  "0.SHADOWED WHITE STAR\n0.HEAVY ASTERISK\n0.OPEN CENTRE ASTERISK\n0.EIGHT SPOKED ASTERISK\n6.POINTED BLACK STAR\n" ++
  "14.PINWHEEL STAR\n0.SIX POINTED BLACK STAR\n0.EIGHT POINTED RECTILINEAR BLACK STAR\n0.HEAVY EIGHT POINTED RECTILINEAR BLACK STAR\n" ++
  "0.TWELVE POINTED BLACK STAR\n0.SIXTEEN POINTED ASTERISK\n0.TEARDROP-SPOKED ASTERISK\n0.OPEN CENTRE TEARDROP-SPOKED ASTERISK\n" ++
  "0.HEAVY TEARDROP-SPOKED ASTERISK\n0.SIX PETALLED BLACK AND WHITE FLORETTE\n0.BLACK FLORETTE\n" ++
  "0.WHITE FLORETTE\n0.EIGHT PETALLED OUTLINED BLACK FLORETTE\n0.CIRCLED OPEN CENTRE EIGHT POINTED STAR\n" ++
  "0.HEAVY TEARDROP-SPOKED PINWHEEL ASTERISK\n0.SNOWFLAKE\n0.TIGHT TRIFOLIATE SNOWFLAKE\n0.HEAVY CHEVRON SNOWFLAKE\n" ++
  "0.SPARKLE\n0.HEAVY SPARKLE\n0.BALLOON-SPOKED ASTERISK\n0.EIGHT TEARDROP-SPOKED PROPELLER ASTERISK\n" ++
  "0.HEAVY EIGHT TEARDROP-SPOKED PROPELLER ASTERISK\n0.CROSS MARK\n0.SHADOWED WHITE CIRCLE\n0.NEGATIVE SQUARED CROSS MARK\n" ++
  "0.LOWER RIGHT DROP-SHADOWED WHITE SQUARE\n0.UPPER RIGHT DROP-SHADOWED WHITE SQUARE\n0.LOWER RIGHT SHADOWED WHITE SQUARE\n" ++
  "0.UPPER RIGHT SHADOWED WHITE SQUARE\n0.BLACK QUESTION MARK ORNAMENT\n0.WHITE QUESTION MARK ORNAMENT\n" ++
  "6.EXCLAMATION MARK ORNAMENT\n0.BLACK DIAMOND MINUS WHITE X\n0.HEAVY EXCLAMATION MARK SYMBOL\n" ++
  "0.LIGHT VERTICAL BAR\n0.MEDIUM VERTICAL BAR\n0.HEAVY VERTICAL BAR\n6.SINGLE TURNED COMMA QUOTATION MARK ORNAMENT\n" ++
  "13.COMMA QUOTATION MARK ORNAMENT\n6.DOUBLE TURNED COMMA QUOTATION MARK ORNAMENT\n13.COMMA QUOTATION MARK ORNAMENT\n" ++
  "6.LOW SINGLE COMMA QUOTATION MARK ORNAMENT\n10.DOUBLE COMMA QUOTATION MARK ORNAMENT\n0.CURVED STEM PARAGRAPH SIGN ORNAMENT\n" ++
  "0.HEAVY EXCLAMATION MARK ORNAMENT\n6.HEART EXCLAMATION MARK ORNAMENT\n6.BLACK HEART\n0.ROTATED HEAVY BLACK HEART BULLET\n" ++
  "0.FLORAL HEART\n0.ROTATED FLORAL HEART BULLET\n0.MEDIUM LEFT PARENTHESIS ORNAMENT\n7.RIGHT PARENTHESIS ORNAMENT\n" ++
  "7.FLATTENED LEFT PARENTHESIS ORNAMENT\n17.RIGHT PARENTHESIS ORNAMENT\n7.LEFT-POINTING ANGLE BRACKET ORNAMENT\n" ++
  "7.RIGHT-POINTING ANGLE BRACKET ORNAMENT\n0.HEAVY LEFT-POINTING ANGLE QUOTATION MARK ORNAMENT\n" ++
  "6.RIGHT-POINTING ANGLE QUOTATION MARK ORNAMENT\n6.LEFT-POINTING ANGLE BRACKET ORNAMENT\n6.RIGHT-POINTING ANGLE BRACKET ORNAMENT\n" ++
  "0.LIGHT LEFT TORTOISE SHELL BRACKET ORNAMENT\n6.RIGHT TORTOISE SHELL BRACKET ORNAMENT\n0.MEDIUM LEFT CURLY BRACKET ORNAMENT\n" ++
  "7.RIGHT CURLY BRACKET ORNAMENT\n0.DINGBAT NEGATIVE CIRCLED DIGIT ONE\n31.TWO\n32.HREE\n31.FOUR\n" ++
  "32.IVE\n31.SIX\n32.EVEN\n31.EIGHT\n31.NINE\n25.NUMBER TEN\n8.CIRCLED SANS-SERIF DIGIT ONE\n33.TWO\n" ++
  "34.HREE\n33.FOUR\n34.IVE\n33.SIX\n34.EVEN\n33.EIGHT\n33.NINE\n27.NUMBER TEN\n8.NEGATIVE CIRCLED SANS-SERIF DIGIT ONE\n" ++
  "42.TWO\n43.HREE\n42.FOUR\n43.IVE\n42.SIX\n43.EVEN\n42.EIGHT\n42.NINE\n36.NUMBER TEN\n0.HEAVY WIDE-HEADED RIGHTWARDS ARROW\n" ++
  "6.PLUS SIGN\n6.MINUS SIGN\n6.DIVISION SIGN\n6.SOUTH EAST ARROW\n6.RIGHTWARDS ARROW\n6.NORTH EAST ARROW\n" ++
  "0.DRAFTING POINT RIGHTWARDS ARROW\n0.HEAVY ROUND-TIPPED RIGHTWARDS ARROW\n0.TRIANGLE-HEADED RIGHTWARDS ARROW\n" ++
  "0.HEAVY TRIANGLE-HEADED RIGHTWARDS ARROW\n0.DASHED TRIANGLE-HEADED RIGHTWARDS ARROW\n0.HEAVY DASHED TRIANGLE-HEADED RIGHTWARDS ARROW\n" ++
  "0.BLACK RIGHTWARDS ARROW\n0.THREE-D TOP-LIGHTED RIGHTWARDS ARROWHEAD\n8.BOTTOM-LIGHTED RIGHTWARDS ARROWHEAD\n" ++
  "0.BLACK RIGHTWARDS ARROWHEAD\n0.HEAVY BLACK CURVED DOWNWARDS AND RIGHTWARDS ARROW\n19.UPWARDS AND RIGHTWARDS ARROW\n" ++
  "0.SQUAT BLACK RIGHTWARDS ARROW\n0.HEAVY CONCAVE-POINTED BLACK RIGHTWARDS ARROW\n0.RIGHT-SHADED WHITE RIGHTWARDS ARROW\n" ++
  "0.LEFT-SHADED WHITE RIGHTWARDS ARROW\n0.BACK-TILTED SHADOWED WHITE RIGHTWARDS ARROW\n0.FRONT-TILTED SHADOWED WHITE RIGHTWARDS ARROW\n" ++
  "0.HEAVY LOWER RIGHT-SHADOWED WHITE RIGHTWARDS ARROW\n6.UPPER RIGHT-SHADOWED WHITE RIGHTWARDS ARROW\n" ++
  "0.NOTCHED LOWER RIGHT-SHADOWED WHITE RIGHTWARDS ARROW\n0.CURLY LOOP\n0.NOTCHED UPPER RIGHT-SHADOWED WHITE RIGHTWARDS ARROW\n" ++
  "0.CIRCLED HEAVY WHITE RIGHTWARDS ARROW\n0.WHITE-FEATHERED RIGHTWARDS ARROW\n0.BLACK-FEATHERED SOUTH EAST ARROW\n" ++
  "16.RIGHTWARDS ARROW\n16.NORTH EAST ARROW\n0.HEAVY BLACK-FEATHERED SOUTH EAST ARROW\n22.RIGHTWARDS ARROW\n" ++
  "22.NORTH EAST ARROW\n0.TEARDROP-BARBED RIGHTWARDS ARROW\n0.HEAVY TEARDROP-SHANKED RIGHTWARDS ARROW\n" ++
  "0.WEDGE-TAILED RIGHTWARDS ARROW\n0.HEAVY WEDGE-TAILED RIGHTWARDS ARROW\n0.OPEN-OUTLINED RIGHTWARDS ARROW\n" ++
  "0.DOUBLE CURLY LOOP\n0.THREE DIMENSIONAL ANGLE\n0.WHITE TRIANGLE CONTAINING SMALL WHITE TRIANGLE\n" ++
  "0.PERPENDICULAR\n0.OPEN SUBSET\n7.PERSET\n0.LEFT S-SHAPED BAG DELIMITER\n0.RIGHT S-SHAPED BAG DELIMITER\n" ++
  "0.OR WITH DOT INSIDE\n0.REVERSE SOLIDUS PRECEDING SUBSET\n0.SUPERSET PRECEDING SOLIDUS\n0.VERTICAL BAR WITH HORIZONTAL STROKE\n" ++
  "0.MATHEMATICAL RISING DIAGONAL\n0.LONG DIVISION\n0.MATHEMATICAL FALLING DIAGONAL\n0.SQUARED LOGICAL AND\n" ++
  "16.OR\n0.WHITE DIAMOND WITH CENTRED DOT\n0.AND WITH DOT\n0.ELEMENT OF OPENING UPWARDS\n0.LOWER RIGHT CORNER WITH DOT\n" ++
  "0.UPPER LEFT CORNER WITH DOT\n0.LEFT OUTER JOIN\n0.RIGHT OUTER JOIN\n0.FULL OUTER JOIN\n0.LARGE UP TACK\n" ++
  "6.DOWN TACK\n1.EFT AND RIGHT DOUBLE TURNSTILE\n15.TACK\n5.MULTIMAP\n1.ONG RIGHT TACK\n5.LEFT TACK\n" ++
  "0.UP TACK WITH CIRCLE ABOVE\n0.LOZENGE DIVIDED BY HORIZONTAL RULE\n0.WHITE CONCAVE-SIDED DIAMOND\n" ++
  "27. WITH LEFTWARDS TICK\n33.RIGHTWARDS TICK\n6.SQUARE WITH LEFTWARDS TICK\n18.RIGHTWARDS TICK\n" ++
  "0.MATHEMATICAL LEFT WHITE SQUARE BRACKET\n13.RIGHT WHITE SQUARE BRACKET\n13.LEFT ANGLE BRACKET\n" ++
  "13.RIGHT ANGLE BRACKET\n13.LEFT DOUBLE ANGLE BRACKET\n13.RIGHT DOUBLE ANGLE BRACKET\n13.LEFT WHITE TORTOISE SHELL BRACKET\n" ++
  "13.RIGHT WHITE TORTOISE SHELL BRACKET\n13.LEFT FLATTENED PARENTHESIS\n13.RIGHT FLATTENED PARENTHESIS\n" ++
  "0.UPWARDS QUADRUPLE ARROW\n0.DOWNWARDS QUADRUPLE ARROW\n0.ANTICLOCKWISE GAPPED CIRCLE ARROW\n" ++
  "0.CLOCKWISE GAPPED CIRCLE ARROW\n0.RIGHT ARROW WITH CIRCLED PLUS\n0.LONG LEFTWARDS ARROW\n5.RIGHTWARDS ARROW\n" ++
  "5.LEFT RIGHT ARROW\n9.WARDS DOUBLE ARROW\n5.RIGHTWARDS DOUBLE ARROW\n5.LEFT RIGHT DOUBLE ARROW\n" ++
  "9.WARDS ARROW FROM BAR\n5.RIGHTWARDS ARROW FROM BAR\n5.LEFTWARDS DOUBLE ARROW FROM BAR\n5.RIGHTWARDS DOUBLE ARROW FROM BAR\n" ++
  "16.SQUIGGLE ARROW\n0.BRAILLE PATTERN BLANK\n16.DOTS-1\n21.2\n21.12\n21.3\n21.13\n21.23\n21.123\n" ++
  "21.4\n21.14\n21.24\n21.124\n21.34\n21.134\n21.234\n21.1234\n21.5\n21.15\n21.25\n21.125\n21.35\n" ++
  "21.135\n21.235\n21.1235\n21.45\n21.145\n21.245\n21.1245\n21.345\n21.1345\n21.2345\n21.12345\n" ++
  "21.6\n21.16\n21.26\n21.126\n21.36\n21.136\n21.236\n21.1236\n21.46\n21.146\n21.246\n21.1246\n21.346\n" ++
  "21.1346\n21.2346\n21.12346\n21.56\n21.156\n21.256\n21.1256\n21.356\n21.1356\n21.2356\n21.12356\n" ++
  "21.456\n21.1456\n21.2456\n21.12456\n21.3456\n21.13456\n21.23456\n21.123456\n21.7\n21.17\n21.27\n" ++
  "21.127\n21.37\n21.137\n21.237\n21.1237\n21.47\n21.147\n21.247\n21.1247\n21.347\n21.1347\n21.2347\n" ++
  "21.12347\n21.57\n21.157\n21.257\n21.1257\n21.357\n21.1357\n21.2357\n21.12357\n21.457\n21.1457\n" ++
  "21.2457\n21.12457\n21.3457\n21.13457\n21.23457\n21.123457\n21.67\n21.167\n21.267\n21.1267\n21.367\n" ++
  "21.1367\n21.2367\n21.12367\n21.467\n21.1467\n21.2467\n21.12467\n21.3467\n21.13467\n21.23467\n" ++
  "21.123467\n21.567\n21.1567\n21.2567\n21.12567\n21.3567\n21.13567\n21.23567\n21.123567\n21.4567\n" ++
  "21.14567\n21.24567\n21.124567\n21.34567\n21.134567\n21.234567\n21.1234567\n21.8\n21.18\n21.28\n" ++
  "21.128\n21.38\n21.138\n21.238\n21.1238\n21.48\n21.148\n21.248\n21.1248\n21.348\n21.1348\n21.2348\n" ++
  "21.12348\n21.58\n21.158\n21.258\n21.1258\n21.358\n21.1358\n21.2358\n21.12358\n21.458\n21.1458\n" ++
  "21.2458\n21.12458\n21.3458\n21.13458\n21.23458\n21.123458\n21.68\n21.168\n21.268\n21.1268\n21.368\n" ++
  "21.1368\n21.2368\n21.12368\n21.468\n21.1468\n21.2468\n21.12468\n21.3468\n21.13468\n21.23468\n" ++
  "21.123468\n21.568\n21.1568\n21.2568\n21.12568\n21.3568\n21.13568\n21.23568\n21.123568\n21.4568\n" ++
  "21.14568\n21.24568\n21.124568\n21.34568\n21.134568\n21.234568\n21.1234568\n21.78\n21.178\n21.278\n" ++
  "21.1278\n21.378\n21.1378\n21.2378\n21.12378\n21.478\n21.1478\n21.2478\n21.12478\n21.3478\n21.13478\n" ++
  "21.23478\n21.123478\n21.578\n21.1578\n21.2578\n21.12578\n21.3578\n21.13578\n21.23578\n21.123578\n" ++
  "21.4578\n21.14578\n21.24578\n21.124578\n21.34578\n21.134578\n21.234578\n21.1234578\n21.678\n21.1678\n" ++
  "21.2678\n21.12678\n21.3678\n21.13678\n21.23678\n21.123678\n21.4678\n21.14678\n21.24678\n21.124678\n" ++
  "21.34678\n21.134678\n21.234678\n21.1234678\n21.5678\n21.15678\n21.25678\n21.125678\n21.35678\n" ++
  "21.135678\n21.235678\n21.1235678\n21.45678\n21.145678\n21.245678\n21.1245678\n21.345678\n21.1345678\n" ++
  "21.2345678\n21.12345678\n0.RIGHTWARDS TWO-HEADED ARROW WITH VERTICAL STROKE\n33.DOUBLE VERTICAL STROKE\n" ++
  "0.LEFTWARDS DOUBLE ARROW WITH VERTICAL STROKE\n0.RIGHTWARDS DOUBLE ARROW WITH VERTICAL STROKE\n" ++
  "0.LEFT RIGHT DOUBLE ARROW WITH VERTICAL STROKE\n0.RIGHTWARDS TWO-HEADED ARROW FROM BAR\n0.LEFTWARDS DOUBLE ARROW FROM BAR\n" ++
  "0.RIGHTWARDS DOUBLE ARROW FROM BAR\n0.DOWNWARDS ARROW WITH HORIZONTAL STROKE\n0.UPWARDS ARROW WITH HORIZONTAL STROKE\n" ++
  "8.TRIPLE ARROW\n0.DOWNWARDS TRIPLE ARROW\n0.LEFTWARDS DOUBLE DASH ARROW\n0.RIGHTWARDS DOUBLE DASH ARROW\n" ++
  "0.LEFTWARDS TRIPLE DASH ARROW\n0.RIGHTWARDS TRIPLE DASH ARROW\n12.WO-HEADED TRIPLE DASH ARROW\n" ++
  "11.ARROW WITH DOTTED STEM\n0.UPWARDS ARROW TO BAR\n0.DOWNWARDS ARROW TO BAR\n0.RIGHTWARDS ARROW WITH TAIL WITH VERTICAL STROKE\n" ++
  "32.DOUBLE VERTICAL STROKE\n11.TWO-HEADED ARROW WITH TAIL\n37. WITH VERTICAL STROKE\n43.DOUBLE VERTICAL STROKE\n" ++
  "0.LEFTWARDS ARROW-TAIL\n0.RIGHTWARDS ARROW-TAIL\n0.LEFTWARDS DOUBLE ARROW-TAIL\n0.RIGHTWARDS DOUBLE ARROW-TAIL\n" ++
  "0.LEFTWARDS ARROW TO BLACK DIAMOND\n0.RIGHTWARDS ARROW TO BLACK DIAMOND\n0.LEFTWARDS ARROW FROM BAR TO BLACK DIAMOND\n" ++
  "0.RIGHTWARDS ARROW FROM BAR TO BLACK DIAMOND\n0.NORTH WEST AND SOUTH EAST ARROW\n6.EAST AND SOUTH WEST ARROW\n" ++
  "6.WEST ARROW WITH HOOK\n6.EAST ARROW WITH HOOK\n0.SOUTH EAST ARROW WITH HOOK\n6.WEST ARROW WITH HOOK\n" ++
  "0.NORTH WEST ARROW AND NORTH EAST ARROW\n6.EAST ARROW AND SOUTH EAST ARROW\n0.SOUTH EAST ARROW AND SOUTH WEST ARROW\n" ++
  "6.WEST ARROW AND NORTH WEST ARROW\n0.RISING DIAGONAL CROSSING FALLING DIAGONAL\n0.FALLING DIAGONAL CROSSING RISING DIAGONAL\n" ++
  "0.SOUTH EAST ARROW CROSSING NORTH EAST ARROW\n0.NORTH EAST ARROW CROSSING SOUTH EAST ARROW\n0.FALLING DIAGONAL CROSSING NORTH EAST ARROW\n" ++
  "0.RISING DIAGONAL CROSSING SOUTH EAST ARROW\n0.NORTH EAST ARROW CROSSING NORTH WEST ARROW\n6.WEST ARROW CROSSING NORTH EAST ARROW\n" ++
  "0.WAVE ARROW POINTING DIRECTLY RIGHT\n0.ARROW POINTING RIGHTWARDS THEN CURVING UPWARDS\n39.DOWNWARDS\n" ++
  "15.DOWNWARDS THEN CURVING LEFTWARDS\n38.RIGHTWARDS\n0.RIGHT-SIDE ARC CLOCKWISE ARROW\n0.LEFT-SIDE ARC ANTICLOCKWISE ARROW\n" ++
  "0.TOP ARC ANTICLOCKWISE ARROW\n0.BOTTOM ARC ANTICLOCKWISE ARROW\n0.TOP ARC CLOCKWISE ARROW WITH MINUS\n" ++
  "8.ANTICLOCKWISE ARROW WITH PLUS\n0.LOWER RIGHT SEMICIRCULAR CLOCKWISE ARROW\n6.LEFT SEMICIRCULAR ANTICLOCKWISE ARROW\n" ++
  "0.ANTICLOCKWISE CLOSED CIRCLE ARROW\n0.CLOCKWISE CLOSED CIRCLE ARROW\n0.RIGHTWARDS ARROW ABOVE SHORT LEFTWARDS ARROW\n" ++
  "0.LEFTWARDS ARROW ABOVE SHORT RIGHTWARDS ARROW\n0.SHORT RIGHTWARDS ARROW ABOVE LEFTWARDS ARROW\n" ++
  "0.RIGHTWARDS ARROW WITH PLUS BELOW\n0.LEFTWARDS ARROW WITH PLUS BELOW\n0.RIGHTWARDS ARROW THROUGH X\n" ++
  "0.LEFT RIGHT ARROW THROUGH SMALL CIRCLE\n0.UPWARDS TWO-HEADED ARROW FROM SMALL CIRCLE\n0.LEFT BARB UP RIGHT BARB DOWN HARPOON\n" ++
  "10.DOWN RIGHT BARB UP HARPOON\n0.UP BARB RIGHT DOWN BARB LEFT HARPOON\n8.LEFT DOWN BARB RIGHT HARPOON\n" ++
  "0.LEFT BARB UP RIGHT BARB UP HARPOON\n0.UP BARB RIGHT DOWN BARB RIGHT HARPOON\n0.LEFT BARB DOWN RIGHT BARB DOWN HARPOON\n" ++
  "0.UP BARB LEFT DOWN BARB LEFT HARPOON\n0.LEFTWARDS HARPOON WITH BARB UP TO BAR\n0.RIGHTWARDS HARPOON WITH BARB UP TO BAR\n" ++
  "0.UPWARDS HARPOON WITH BARB RIGHT TO BAR\n0.DOWNWARDS HARPOON WITH BARB RIGHT TO BAR\n0.LEFTWARDS HARPOON WITH BARB DOWN TO BAR\n" ++
  "0.RIGHTWARDS HARPOON WITH BARB DOWN TO BAR\n0.UPWARDS HARPOON WITH BARB LEFT TO BAR\n0.DOWNWARDS HARPOON WITH BARB LEFT TO BAR\n" ++
  "0.LEFTWARDS HARPOON WITH BARB UP FROM BAR\n0.RIGHTWARDS HARPOON WITH BARB UP FROM BAR\n0.UPWARDS HARPOON WITH BARB RIGHT FROM BAR\n" ++
  "0.DOWNWARDS HARPOON WITH BARB RIGHT FROM BAR\n0.LEFTWARDS HARPOON WITH BARB DOWN FROM BAR\n0.RIGHTWARDS HARPOON WITH BARB DOWN FROM BAR\n" ++
  "0.UPWARDS HARPOON WITH BARB LEFT FROM BAR\n0.DOWNWARDS HARPOON WITH BARB LEFT FROM BAR\n0.LEFTWARDS HARPOON WITH BARB UP ABOVE LEFTWARDS HARPOON WITH BARB DOWN\n" ++
  "0.UPWARDS HARPOON WITH BARB LEFT BESIDE UPWARDS HARPOON WITH BARB RIGHT\n0.RIGHTWARDS HARPOON WITH BARB UP ABOVE RIGHTWARDS HARPOON WITH BARB DOWN\n" ++
  "0.DOWNWARDS HARPOON WITH BARB LEFT BESIDE DOWNWARDS HARPOON WITH BARB RIGHT\n0.LEFTWARDS HARPOON WITH BARB UP ABOVE RIGHTWARDS HARPOON WITH BARB UP\n" ++
  "28.DOWN ABOVE RIGHTWARDS HARPOON WITH BARB DOWN\n0.RIGHTWARDS HARPOON WITH BARB UP ABOVE LEFTWARDS HARPOON WITH BARB UP\n" ++
  "29.DOWN ABOVE LEFTWARDS HARPOON WITH BARB DOWN\n0.LEFTWARDS HARPOON WITH BARB UP ABOVE LONG DASH\n" ++
  "28.DOWN BELOW LONG DASH\n0.RIGHTWARDS HARPOON WITH BARB UP ABOVE LONG DASH\n29.DOWN BELOW LONG DASH\n" ++
  "0.UPWARDS HARPOON WITH BARB LEFT BESIDE DOWNWARDS HARPOON WITH BARB RIGHT\n0.DOWNWARDS HARPOON WITH BARB LEFT BESIDE UPWARDS HARPOON WITH BARB RIGHT\n" ++
  "0.RIGHT DOUBLE ARROW WITH ROUNDED HEAD\n0.EQUALS SIGN ABOVE RIGHTWARDS ARROW\n0.TILDE OPERATOR ABOVE RIGHTWARDS ARROW\n" ++
  "0.LEFTWARDS ARROW ABOVE TILDE OPERATOR\n0.RIGHTWARDS ARROW ABOVE TILDE OPERATOR\n23.ALMOST EQUAL TO\n" ++
  "0.LESS-THAN ABOVE LEFTWARDS ARROW\n2.FTWARDS ARROW THROUGH LESS-THAN\n0.GREATER-THAN ABOVE RIGHTWARDS ARROW\n" ++
  "0.SUBSET ABOVE RIGHTWARDS ARROW\n0.LEFTWARDS ARROW THROUGH SUBSET\n0.SUPERSET ABOVE LEFTWARDS ARROW\n" ++
  "0.LEFT FISH TAIL\n0.RIGHT FISH TAIL\n0.UP FISH TAIL\n0.DOWN FISH TAIL\n0.TRIPLE VERTICAL BAR DELIMITER\n" ++
  "0.Z NOTATION SPOT\n11.TYPE COLON\n0.LEFT WHITE CURLY BRACKET\n0.RIGHT WHITE CURLY BRACKET\n0.LEFT WHITE PARENTHESIS\n" ++
  "0.RIGHT WHITE PARENTHESIS\n0.Z NOTATION LEFT IMAGE BRACKET\n11.RIGHT IMAGE BRACKET\n11.LEFT BINDING BRACKET\n" ++
  "11.RIGHT BINDING BRACKET\n0.LEFT SQUARE BRACKET WITH UNDERBAR\n0.RIGHT SQUARE BRACKET WITH UNDERBAR\n" ++
  "0.LEFT SQUARE BRACKET WITH TICK IN TOP CORNER\n0.RIGHT SQUARE BRACKET WITH TICK IN BOTTOM CORNER\n" ++
  "0.LEFT SQUARE BRACKET WITH TICK IN BOTTOM CORNER\n0.RIGHT SQUARE BRACKET WITH TICK IN TOP CORNER\n" ++
  "0.LEFT ANGLE BRACKET WITH DOT\n0.RIGHT ANGLE BRACKET WITH DOT\n0.LEFT ARC LESS-THAN BRACKET\n" ++
  "0.RIGHT ARC GREATER-THAN BRACKET\n0.DOUBLE LEFT ARC GREATER-THAN BRACKET\n7.RIGHT ARC LESS-THAN BRACKET\n" ++
  "0.LEFT BLACK TORTOISE SHELL BRACKET\n0.RIGHT BLACK TORTOISE SHELL BRACKET\n0.DOTTED FENCE\n0.VERTICAL ZIGZAG LINE\n" ++
  "0.MEASURED ANGLE OPENING LEFT\n0.RIGHT ANGLE VARIANT WITH SQUARE\n0.MEASURED RIGHT ANGLE WITH DOT\n" ++
  "0.ANGLE WITH S INSIDE\n1.CUTE ANGLE\n0.SPHERICAL ANGLE OPENING LEFT\n24.UP\n0.TURNED ANGLE\n0.REVERSED ANGLE\n" ++
  "0.ANGLE WITH UNDERBAR\n0.REVERSED ANGLE WITH UNDERBAR\n0.OBLIQUE ANGLE OPENING UP\n22.DOWN\n0.MEASURED ANGLE WITH OPEN ARM ENDING IN ARROW POINTING UP AND RIGHT\n" ++
  "61.LEFT\n54.DOWN AND RIGHT\n63.LEFT\n54.RIGHT AND UP\n54.LEFT AND UP\n54.RIGHT AND DOWN\n54.LEFT AND DOWN\n" ++
  "0.REVERSED EMPTY SET\n0.EMPTY SET WITH OVERBAR\n15.SMALL CIRCLE ABOVE\n15.RIGHT ARROW ABOVE\n" ++
  "15.LEFT ARROW ABOVE\n0.CIRCLE WITH HORIZONTAL BAR\n6.D VERTICAL BAR\n8.PARALLEL\n8.REVERSE SOLIDUS\n" ++
  "8.PERPENDICULAR\n6. DIVIDED BY HORIZONTAL BAR AND TOP HALF DIVIDED BY VERTICAL BAR\n7.WITH SUPERIMPOSED X\n" ++
  "6.D ANTICLOCKWISE-ROTATED DIVISION SIGN\n0.UP ARROW THROUGH CIRCLE\n0.CIRCLED WHITE BULLET\n8.BULLET\n" ++
  "8.LESS-THAN\n8.GREATER-THAN\n6. WITH SMALL CIRCLE TO THE RIGHT\n12.TWO HORIZONTAL STROKES TO THE RIGHT\n" ++
  "0.SQUARED RISING DIAGONAL SLASH\n8.FALLING DIAGONAL SLASH\n8.ASTERISK\n8.SMALL CIRCLE\n9.QUARE\n" ++
  "0.TWO JOINED SQUARES\n1.RIANGLE WITH DOT ABOVE\n14.UNDERBAR\n0.S IN TRIANGLE\n0.TRIANGLE WITH SERIFS AT BOTTOM\n" ++
  "0.RIGHT TRIANGLE ABOVE LEFT TRIANGLE\n0.LEFT TRIANGLE BESIDE VERTICAL BAR\n0.VERTICAL BAR BESIDE RIGHT TRIANGLE\n" ++
  "0.BOWTIE WITH LEFT HALF BLACK\n12.RIGHT HALF BLACK\n1.LACK BOWTIE\n0.TIMES WITH LEFT HALF BLACK\n" ++
  "11.RIGHT HALF BLACK\n0.WHITE HOURGLASS\n0.BLACK HOURGLASS\n0.LEFT WIGGLY FENCE\n0.RIGHT WIGGLY FENCE\n" ++
  "0.LEFT DOUBLE WIGGLY FENCE\n0.RIGHT DOUBLE WIGGLY FENCE\n0.INCOMPLETE INFINITY\n0.TIE OVER INFINITY\n" ++
  "0.INFINITY NEGATED WITH VERTICAL BAR\n0.DOUBLE-ENDED MULTIMAP\n0.SQUARE WITH CONTOURED OUTLINE\n" ++
  "0.INCREASES AS\n0.SHUFFLE PRODUCT\n0.EQUALS SIGN AND SLANTED PARALLEL\n32. WITH TILDE ABOVE\n" ++
  "0.IDENTICAL TO AND SLANTED PARALLEL\n0.GLEICH STARK\n0.THERMODYNAMIC\n0.DOWN-POINTING TRIANGLE WITH LEFT HALF BLACK\n" ++
  "28.RIGHT HALF BLACK\n0.BLACK DIAMOND WITH DOWN ARROW\n6.LOZENGE\n0.WHITE CIRCLE WITH DOWN ARROW\n" ++
  "0.BLACK CIRCLE WITH DOWN ARROW\n0.ERROR-BARRED WHITE SQUARE\n13.BLACK SQUARE\n13.WHITE DIAMOND\n" ++
  "13.BLACK DIAMOND\n13.WHITE CIRCLE\n13.BLACK CIRCLE\n0.RULE-DELAYED\n1.EVERSE SOLIDUS OPERATOR\n" ++
  "0.SOLIDUS WITH OVERBAR\n0.REVERSE SOLIDUS WITH HORIZONTAL STROKE\n0.BIG SOLIDUS\n4.REVERSE SOLIDUS\n" ++
  "0.DOUBLE PLUS\n0.TRIPLE PLUS\n0.LEFT-POINTING CURVED ANGLE BRACKET\n0.RIGHT-POINTING CURVED ANGLE BRACKET\n" ++
  "0.TINY\n0.MINY\n0.N-ARY CIRCLED DOT OPERATOR\n14.PLUS OPERATOR\n14.TIMES OPERATOR\n6.UNION OPERATOR WITH DOT\n" ++
  "26.PLUS\n6.SQUARE INTERSECTION OPERATOR\n13.UNION OPERATOR\n0.TWO LOGICAL AND OPERATOR\n12.OR OPERATOR\n" ++
  "0.N-ARY TIMES OPERATOR\n0.MODULO TWO SUM\n0.SUMMATION WITH INTEGRAL\n0.QUADRUPLE INTEGRAL OPERATOR\n" ++
  "0.FINITE PART INTEGRAL\n0.INTEGRAL WITH DOUBLE STROKE\n9.AVERAGE WITH SLASH\n0.CIRCULATION FUNCTION\n" ++
  "0.ANTICLOCKWISE INTEGRATION\n0.LINE INTEGRATION WITH RECTANGULAR PATH AROUND POLE\n22.SEMICIRCULAR PATH AROUND POLE\n" ++
  "17.NOT INCLUDING THE POLE\n0.INTEGRAL AROUND A POINT OPERATOR\n0.QUATERNION INTEGRAL OPERATOR\n" ++
  "0.INTEGRAL WITH LEFTWARDS ARROW WITH HOOK\n14.TIMES SIGN\n14.INTERSECTION\n14.UNION\n14.OVERBAR\n" ++
  "14.UNDERBAR\n0.JOIN\n0.LARGE LEFT TRIANGLE OPERATOR\n0.Z NOTATION SCHEMA COMPOSITION\n18.PIPING\n" ++
  "19.ROJECTION\n0.PLUS SIGN WITH SMALL CIRCLE ABOVE\n15.CIRCUMFLEX ACCENT ABOVE\n15.TILDE ABOVE\n" ++
  "15.DOT BELOW\n15.TILDE BELOW\n15.SUBSCRIPT TWO\n15.BLACK TRIANGLE\n0.MINUS SIGN WITH COMMA ABOVE\n" ++
  "16.DOT BELOW\n16.FALLING DOTS\n16.RISING DOTS\n0.PLUS SIGN IN LEFT HALF CIRCLE\n13.RIGHT HALF CIRCLE\n" ++
  "0.VECTOR OR CROSS PRODUCT\n0.MULTIPLICATION SIGN WITH DOT ABOVE\n25.UNDERBAR\n0.SEMIDIRECT PRODUCT WITH BOTTOM CLOSED\n" ++
  "1.MASH PRODUCT\n0.MULTIPLICATION SIGN IN LEFT HALF CIRCLE\n23.RIGHT HALF CIRCLE\n0.CIRCLED MULTIPLICATION SIGN WITH CIRCUMFLEX ACCENT\n" ++
  "0.MULTIPLICATION SIGN IN DOUBLE CIRCLE\n0.CIRCLED DIVISION SIGN\n0.PLUS SIGN IN TRIANGLE\n0.MINUS SIGN IN TRIANGLE\n" ++
  "1.ULTIPLICATION SIGN IN TRIANGLE\n0.INTERIOR PRODUCT\n0.RIGHTHAND INTERIOR PRODUCT\n0.Z NOTATION RELATIONAL COMPOSITION\n" ++
  "0.AMALGAMATION OR COPRODUCT\n0.INTERSECTION WITH DOT\n0.UNION WITH MINUS SIGN\n11.OVERBAR\n0.INTERSECTION WITH OVERBAR\n" ++
  "18.LOGICAL AND\n0.UNION WITH LOGICAL OR\n6.ABOVE INTERSECTION\n0.INTERSECTION ABOVE UNION\n0.UNION ABOVE BAR ABOVE INTERSECTION\n" ++
  "0.INTERSECTION ABOVE BAR ABOVE UNION\n0.UNION BESIDE AND JOINED WITH UNION\n0.INTERSECTION BESIDE AND JOINED WITH INTERSECTION\n" ++
  "0.CLOSED UNION WITH SERIFS\n7.INTERSECTION WITH SERIFS\n0.DOUBLE SQUARE INTERSECTION\n14.UNION\n" ++
  "0.CLOSED UNION WITH SERIFS AND SMASH PRODUCT\n0.LOGICAL AND WITH DOT ABOVE\n8.OR WITH DOT ABOVE\n" ++
  "0.DOUBLE LOGICAL AND\n15.OR\n0.TWO INTERSECTING LOGICAL AND\n25.OR\n0.SLOPING LARGE OR\n14.AND\n" ++
  "0.LOGICAL OR OVERLAPPING LOGICAL AND\n8.AND WITH MIDDLE STEM\n8.OR WITH MIDDLE STEM\n8.AND WITH HORIZONTAL DASH\n" ++
  "8.OR WITH HORIZONTAL DASH\n8.AND WITH DOUBLE OVERBAR\n17.UNDERBAR\n17.DOUBLE UNDERBAR\n0.SMALL VEE WITH UNDERBAR\n" ++
  "0.LOGICAL OR WITH DOUBLE OVERBAR\n23.UNDERBAR\n0.Z NOTATION DOMAIN ANTIRESTRICTION\n11.RANGE ANTIRESTRICTION\n" ++
  "0.EQUALS SIGN WITH DOT BELOW\n0.IDENTICAL WITH DOT ABOVE\n0.TRIPLE HORIZONTAL BAR WITH DOUBLE VERTICAL STROKE\n" ++
  "27.TRIPLE VERTICAL STROKE\n1.ILDE OPERATOR WITH DOT ABOVE\n20.RISING DOTS\n0.SIMILAR MINUS SIMILAR\n" ++
  "0.CONGRUENT WITH DOT ABOVE\n0.EQUALS WITH ASTERISK\n0.ALMOST EQUAL TO WITH CIRCUMFLEX ACCENT\n" ++
  "1.PPROXIMATELY EQUAL OR EQUAL TO\n0.EQUALS SIGN ABOVE PLUS SIGN\n0.PLUS SIGN ABOVE EQUALS SIGN\n" ++
  "0.EQUALS SIGN ABOVE TILDE OPERATOR\n0.DOUBLE COLON EQUAL\n0.TWO CONSECUTIVE EQUALS SIGNS\n1.HREE CONSECUTIVE EQUALS SIGNS\n" ++
  "0.EQUALS SIGN WITH TWO DOTS ABOVE AND TWO DOTS BELOW\n3.IVALENT WITH FOUR DOTS ABOVE\n0.LESS-THAN WITH CIRCLE INSIDE\n" ++
  "0.GREATER-THAN WITH CIRCLE INSIDE\n0.LESS-THAN WITH QUESTION MARK ABOVE\n0.GREATER-THAN WITH QUESTION MARK ABOVE\n" ++
  "0.LESS-THAN OR SLANTED EQUAL TO\n0.GREATER-THAN OR SLANTED EQUAL TO\n0.LESS-THAN OR SLANTED EQUAL TO WITH DOT INSIDE\n" ++
  "0.GREATER-THAN OR SLANTED EQUAL TO WITH DOT INSIDE\n0.LESS-THAN OR SLANTED EQUAL TO WITH DOT ABOVE\n" ++
  "0.GREATER-THAN OR SLANTED EQUAL TO WITH DOT ABOVE\n0.LESS-THAN OR SLANTED EQUAL TO WITH DOT ABOVE RIGHT\n" ++
  "0.GREATER-THAN OR SLANTED EQUAL TO WITH DOT ABOVE LEFT\n0.LESS-THAN OR APPROXIMATE\n0.GREATER-THAN OR APPROXIMATE\n" ++
  "0.LESS-THAN AND SINGLE-LINE NOT EQUAL TO\n0.GREATER-THAN AND SINGLE-LINE NOT EQUAL TO\n0.LESS-THAN AND NOT APPROXIMATE\n" ++
  "0.GREATER-THAN AND NOT APPROXIMATE\n0.LESS-THAN ABOVE DOUBLE-LINE EQUAL ABOVE GREATER-THAN\n0.GREATER-THAN ABOVE DOUBLE-LINE EQUAL ABOVE LESS-THAN\n" ++
  "0.LESS-THAN ABOVE SIMILAR OR EQUAL\n0.GREATER-THAN ABOVE SIMILAR OR EQUAL\n0.LESS-THAN ABOVE SIMILAR ABOVE GREATER-THAN\n" ++
  "0.GREATER-THAN ABOVE SIMILAR ABOVE LESS-THAN\n0.LESS-THAN ABOVE GREATER-THAN ABOVE DOUBLE-LINE EQUAL\n" ++
  "0.GREATER-THAN ABOVE LESS-THAN ABOVE DOUBLE-LINE EQUAL\n0.LESS-THAN ABOVE SLANTED EQUAL ABOVE GREATER-THAN ABOVE SLANTED EQUAL\n" ++
  "0.GREATER-THAN ABOVE SLANTED EQUAL ABOVE LESS-THAN ABOVE SLANTED EQUAL\n0.SLANTED EQUAL TO OR LESS-THAN\n" ++
  "20.GREATER-THAN\n20.LESS-THAN WITH DOT INSIDE\n20.GREATER-THAN WITH DOT INSIDE\n0.DOUBLE-LINE EQUAL TO OR LESS-THAN\n" ++
  "24.GREATER-THAN\n12.SLANTED EQUAL TO OR LESS-THAN\n32.GREATER-THAN\n0.SIMILAR OR LESS-THAN\n11.GREATER-THAN\n" ++
  "8.ABOVE LESS-THAN ABOVE EQUALS SIGN\n14.GREATER-THAN ABOVE EQUALS SIGN\n0.DOUBLE NESTED LESS-THAN\n" ++
  "14.GREATER-THAN\n14.LESS-THAN WITH UNDERBAR\n0.GREATER-THAN OVERLAPPING LESS-THAN\n13.BESIDE LESS-THAN\n" ++
  "0.LESS-THAN CLOSED BY CURVE\n0.GREATER-THAN CLOSED BY CURVE\n0.LESS-THAN CLOSED BY CURVE ABOVE SLANTED EQUAL\n" ++
  "0.GREATER-THAN CLOSED BY CURVE ABOVE SLANTED EQUAL\n0.SMALLER THAN\n0.LARGER THAN\n0.SMALLER THAN OR EQUAL TO\n" ++
  "0.LARGER THAN OR EQUAL TO\n0.EQUALS SIGN WITH BUMPY ABOVE\n0.PRECEDES ABOVE SINGLE-LINE EQUALS SIGN\n" ++
  "0.SUCCEEDS ABOVE SINGLE-LINE EQUALS SIGN\n0.PRECEDES ABOVE SINGLE-LINE NOT EQUAL TO\n0.SUCCEEDS ABOVE SINGLE-LINE NOT EQUAL TO\n" ++
  "0.PRECEDES ABOVE EQUALS SIGN\n0.SUCCEEDS ABOVE EQUALS SIGN\n0.PRECEDES ABOVE NOT EQUAL TO\n0.SUCCEEDS ABOVE NOT EQUAL TO\n" ++
  "0.PRECEDES ABOVE ALMOST EQUAL TO\n0.SUCCEEDS ABOVE ALMOST EQUAL TO\n0.PRECEDES ABOVE NOT ALMOST EQUAL TO\n" ++
  "0.SUCCEEDS ABOVE NOT ALMOST EQUAL TO\n0.DOUBLE PRECEDES\n7.SUCCEEDS\n0.SUBSET WITH DOT\n2.PERSET WITH DOT\n" ++
  "2.BSET WITH PLUS SIGN BELOW\n2.PERSET WITH PLUS SIGN BELOW\n2.BSET WITH MULTIPLICATION SIGN BELOW\n" ++
  "2.PERSET WITH MULTIPLICATION SIGN BELOW\n2.BSET OF OR EQUAL TO WITH DOT ABOVE\n2.PERSET OF OR EQUAL TO WITH DOT ABOVE\n" ++
  "2.BSET OF ABOVE EQUALS SIGN\n2.PERSET OF ABOVE EQUALS SIGN\n2.BSET OF ABOVE TILDE OPERATOR\n2.PERSET OF ABOVE TILDE OPERATOR\n" ++
  "2.BSET OF ABOVE ALMOST EQUAL TO\n2.PERSET OF ABOVE ALMOST EQUAL TO\n2.BSET OF ABOVE NOT EQUAL TO\n" ++
  "2.PERSET OF ABOVE NOT EQUAL TO\n1.QUARE LEFT OPEN BOX OPERATOR\n7.RIGHT OPEN BOX OPERATOR\n0.CLOSED SUBSET\n" ++
  "9.PERSET\n9.BSET OR EQUAL TO\n9.PERSET OR EQUAL TO\n0.SUBSET ABOVE SUPERSET\n2.PERSET ABOVE SUBSET\n" ++
  "2.BSET ABOVE SUBSET\n2.PERSET ABOVE SUPERSET\n9.BESIDE SUBSET\n16.AND JOINED BY DASH WITH SUBSET\n" ++
  "0.ELEMENT OF OPENING DOWNWARDS\n0.PITCHFORK WITH TEE TOP\n0.TRANSVERSAL INTERSECTION\n0.FORKING\n" ++
  "0.NONFORKING\n0.SHORT LEFT TACK\n6.DOWN TACK\n6.UP TACK\n0.PERPENDICULAR WITH S\n0.VERTICAL BAR TRIPLE RIGHT TURNSTILE\n" ++
  "0.DOUBLE VERTICAL BAR LEFT TURNSTILE\n0.VERTICAL BAR DOUBLE LEFT TURNSTILE\n0.DOUBLE VERTICAL BAR DOUBLE LEFT TURNSTILE\n" ++
  "0.LONG DASH FROM LEFT MEMBER OF DOUBLE VERTICAL\n0.SHORT DOWN TACK WITH OVERBAR\n6.UP TACK WITH UNDERBAR\n" ++
  "14.ABOVE SHORT DOWN TACK\n0.DOUBLE DOWN TACK\n7.UP TACK\n7.STROKE NOT SIGN\n0.REVERSED DOUBLE STROKE NOT SIGN\n" ++
  "0.DOES NOT DIVIDE WITH REVERSED NEGATION SLASH\n0.VERTICAL LINE WITH CIRCLE ABOVE\n26.BELOW\n" ++
  "0.DOWN TACK WITH CIRCLE BELOW\n0.PARALLEL WITH HORIZONTAL STROKE\n14.TILDE OPERATOR\n0.TRIPLE VERTICAL BAR BINARY RELATION\n" ++
  "20.WITH HORIZONTAL STROKE\n7.COLON OPERATOR\n7.NESTED LESS-THAN\n14.GREATER-THAN\n0.DOUBLE-LINE SLANTED LESS-THAN OR EQUAL TO\n" ++
  "20.GREATER-THAN OR EQUAL TO\n0.TRIPLE SOLIDUS BINARY RELATION\n0.LARGE TRIPLE VERTICAL BAR OPERATOR\n" ++
  "0.DOUBLE SOLIDUS OPERATOR\n0.WHITE VERTICAL BAR\n0.N-ARY WHITE VERTICAL BAR\n1.ORTH EAST WHITE ARROW\n"

/-- Part 5 of `nameLines`. -/
def nameLinesPart5 : String :=
  "6.WEST WHITE ARROW\n0.SOUTH EAST WHITE ARROW\n6.WEST WHITE ARROW\n0.LEFT RIGHT WHITE ARROW\n4.WARDS BLACK ARROW\n" ++
  "0.UPWARDS BLACK ARROW\n0.DOWNWARDS BLACK ARROW\n0.NORTH EAST BLACK ARROW\n6.WEST BLACK ARROW\n" ++
  "0.SOUTH EAST BLACK ARROW\n6.WEST BLACK ARROW\n0.LEFT RIGHT BLACK ARROW\n0.UP DOWN BLACK ARROW\n" ++
  "0.RIGHTWARDS ARROW WITH TIP DOWNWARDS\n26.UPWARDS\n0.LEFTWARDS ARROW WITH TIP DOWNWARDS\n25.UPWARDS\n" ++
  "0.SQUARE WITH TOP HALF BLACK\n12.BOTTOM HALF BLACK\n12.UPPER RIGHT DIAGONAL HALF BLACK\n12.LOWER LEFT DIAGONAL HALF BLACK\n" ++
  "0.DIAMOND WITH LEFT HALF BLACK\n13.RIGHT HALF BLACK\n13.TOP HALF BLACK\n13.BOTTOM HALF BLACK\n" ++
  "1.OTTED SQUARE\n0.BLACK LARGE SQUARE\n0.WHITE LARGE SQUARE\n0.BLACK VERY SMALL SQUARE\n0.WHITE VERY SMALL SQUARE\n" ++
  "0.BLACK PENTAGON\n0.WHITE PENTAGON\n6.HEXAGON\n0.BLACK HEXAGON\n0.HORIZONTAL BLACK HEXAGON\n0.BLACK LARGE CIRCLE\n" ++
  "6.MEDIUM DIAMOND\n0.WHITE MEDIUM DIAMOND\n0.BLACK MEDIUM LOZENGE\n0.WHITE MEDIUM LOZENGE\n0.BLACK SMALL DIAMOND\n" ++
  "12.LOZENGE\n0.WHITE SMALL LOZENGE\n0.BLACK HORIZONTAL ELLIPSE\n0.WHITE HORIZONTAL ELLIPSE\n0.BLACK VERTICAL ELLIPSE\n" ++
  "0.WHITE VERTICAL ELLIPSE\n0.LEFT ARROW WITH SMALL CIRCLE\n0.THREE LEFTWARDS ARROWS\n0.LEFT ARROW WITH CIRCLED PLUS\n" ++
  "1.ONG LEFTWARDS SQUIGGLE ARROW\n1.EFTWARDS TWO-HEADED ARROW WITH VERTICAL STROKE\n32.DOUBLE VERTICAL STROKE\n" ++
  "27.FROM BAR\n21.TRIPLE DASH ARROW\n10.ARROW WITH DOTTED STEM\n21.TAIL WITH VERTICAL STROKE\n31.DOUBLE VERTICAL STROKE\n" ++
  "10.TWO-HEADED ARROW WITH TAIL\n36. WITH VERTICAL STROKE\n42.DOUBLE VERTICAL STROKE\n10.ARROW THROUGH X\n" ++
  "0.WAVE ARROW POINTING DIRECTLY LEFT\n0.EQUALS SIGN ABOVE LEFTWARDS ARROW\n0.REVERSE TILDE OPERATOR ABOVE LEFTWARDS ARROW\n" ++
  "0.LEFTWARDS ARROW ABOVE REVERSE ALMOST EQUAL TO\n0.RIGHTWARDS ARROW THROUGH GREATER-THAN\n25.SUPERSET\n" ++
  "0.LEFTWARDS QUADRUPLE ARROW\n0.RIGHTWARDS QUADRUPLE ARROW\n1.EVERSE TILDE OPERATOR ABOVE RIGHTWARDS ARROW\n" ++
  "1.IGHTWARDS ARROW ABOVE REVERSE ALMOST EQUAL TO\n0.TILDE OPERATOR ABOVE LEFTWARDS ARROW\n0.LEFTWARDS ARROW ABOVE ALMOST EQUAL TO\n" ++
  "22.REVERSE TILDE OPERATOR\n0.RIGHTWARDS ARROW ABOVE REVERSE TILDE OPERATOR\n0.DOWNWARDS TRIANGLE-HEADED ZIGZAG ARROW\n" ++
  "0.SHORT SLANTED NORTH ARROW\n6.BACKSLANTED SOUTH ARROW\n0.WHITE MEDIUM STAR\n0.BLACK SMALL STAR\n" ++
  "0.WHITE SMALL STAR\n0.BLACK RIGHT-POINTING PENTAGON\n0.WHITE RIGHT-POINTING PENTAGON\n0.HEAVY LARGE CIRCLE\n" ++
  "6.OVAL WITH OVAL INSIDE\n6.CIRCLE WITH CIRCLE INSIDE\n12.\n12.D SALTIRE\n0.SLANTED NORTH ARROW WITH HOOKED HEAD\n" ++
  "0.BACKSLANTED SOUTH ARROW WITH HOOKED TAIL\n0.SLANTED NORTH ARROW WITH HORIZONTAL TAIL\n0.BACKSLANTED SOUTH ARROW WITH HORIZONTAL TAIL\n" ++
  "1.ENT ARROW POINTING DOWNWARDS THEN NORTH EAST\n0.SHORT BENT ARROW POINTING DOWNWARDS THEN NORTH EAST\n" ++
  "0.LEFTWARDS TRIANGLE-HEADED ARROW\n0.UPWARDS TRIANGLE-HEADED ARROW\n0.RIGHTWARDS TRIANGLE-HEADED ARROW\n" ++
  "0.DOWNWARDS TRIANGLE-HEADED ARROW\n0.LEFT RIGHT TRIANGLE-HEADED ARROW\n0.UP DOWN TRIANGLE-HEADED ARROW\n" ++
  "0.NORTH WEST TRIANGLE-HEADED ARROW\n6.EAST TRIANGLE-HEADED ARROW\n0.SOUTH EAST TRIANGLE-HEADED ARROW\n" ++
  "6.WEST TRIANGLE-HEADED ARROW\n0.LEFTWARDS TRIANGLE-HEADED DASHED ARROW\n0.UPWARDS TRIANGLE-HEADED DASHED ARROW\n" ++
  "0.RIGHTWARDS TRIANGLE-HEADED DASHED ARROW\n0.DOWNWARDS TRIANGLE-HEADED DASHED ARROW\n0.CLOCKWISE TRIANGLE-HEADED OPEN CIRCLE ARROW\n" ++
  "0.ANTICLOCKWISE TRIANGLE-HEADED OPEN CIRCLE ARROW\n0.LEFTWARDS TRIANGLE-HEADED ARROW TO BAR\n" ++
  "0.UPWARDS TRIANGLE-HEADED ARROW TO BAR\n0.RIGHTWARDS TRIANGLE-HEADED ARROW TO BAR\n0.DOWNWARDS TRIANGLE-HEADED ARROW TO BAR\n" ++
  "2B76:0.NORTH WEST TRIANGLE-HEADED ARROW TO BAR\n6.EAST TRIANGLE-HEADED ARROW TO BAR\n0.SOUTH EAST TRIANGLE-HEADED ARROW TO BAR\n" ++
  "6.WEST TRIANGLE-HEADED ARROW TO BAR\n0.LEFTWARDS TRIANGLE-HEADED ARROW WITH DOUBLE HORIZONTAL STROKE\n" ++
  "0.UPWARDS TRIANGLE-HEADED ARROW WITH DOUBLE HORIZONTAL STROKE\n0.RIGHTWARDS TRIANGLE-HEADED ARROW WITH DOUBLE HORIZONTAL STROKE\n" ++
  "0.DOWNWARDS TRIANGLE-HEADED ARROW WITH DOUBLE HORIZONTAL STROKE\n0.HORIZONTAL TAB KEY\n0.VERTICAL TAB KEY\n" ++
  "0.LEFTWARDS TRIANGLE-HEADED ARROW OVER RIGHTWARDS TRIANGLE-HEADED ARROW\n0.UPWARDS TRIANGLE-HEADED ARROW LEFTWARDS OF DOWNWARDS TRIANGLE-HEADED ARROW\n" ++
  "0.RIGHTWARDS TRIANGLE-HEADED ARROW OVER LEFTWARDS TRIANGLE-HEADED ARROW\n0.DOWNWARDS TRIANGLE-HEADED ARROW LEFTWARDS OF UPWARDS TRIANGLE-HEADED ARROW\n" ++
  "0.LEFTWARDS TRIANGLE-HEADED PAIRED ARROWS\n0.UPWARDS TRIANGLE-HEADED PAIRED ARROWS\n0.RIGHTWARDS TRIANGLE-HEADED PAIRED ARROWS\n" ++
  "0.DOWNWARDS TRIANGLE-HEADED PAIRED ARROWS\n0.LEFTWARDS BLACK CIRCLED WHITE ARROW\n0.UPWARDS BLACK CIRCLED WHITE ARROW\n" ++
  "0.RIGHTWARDS BLACK CIRCLED WHITE ARROW\n0.DOWNWARDS BLACK CIRCLED WHITE ARROW\n0.ANTICLOCKWISE TRIANGLE-HEADED RIGHT U-SHAPED ARROW\n" ++
  "30.BOTTOM U-SHAPED ARROW\n30.LEFT U-SHAPED ARROW\n30.TOP U-SHAPED ARROW\n0.RETURN LEFT\n7.RIGHT\n" ++
  "0.NEWLINE LEFT\n8.RIGHT\n0.FOUR CORNER ARROWS CIRCLING ANTICLOCKWISE\n0.RIGHTWARDS BLACK ARROW\n" ++
  "2B97:0.SYMBOL FOR TYPE A ELECTRONICS\n0.THREE-D TOP-LIGHTED LEFTWARDS EQUILATERAL ARROWHEAD\n" ++
  "8.RIGHT-LIGHTED UPWARDS EQUILATERAL ARROWHEAD\n8.TOP-LIGHTED RIGHTWARDS EQUILATERAL ARROWHEAD\n" ++
  "8.LEFT-LIGHTED DOWNWARDS EQUILATERAL ARROWHEAD\n0.BLACK LEFTWARDS EQUILATERAL ARROWHEAD\n6.UPWARDS EQUILATERAL ARROWHEAD\n" ++
  "6.RIGHTWARDS EQUILATERAL ARROWHEAD\n6.DOWNWARDS EQUILATERAL ARROWHEAD\n0.DOWNWARDS TRIANGLE-HEADED ARROW WITH LONG TIP LEFTWARDS\n" ++
  "46.RIGHTWARDS\n0.UPWARDS TRIANGLE-HEADED ARROW WITH LONG TIP LEFTWARDS\n44.RIGHTWARDS\n0.LEFTWARDS TRIANGLE-HEADED ARROW WITH LONG TIP UPWARDS\n" ++
  "0.RIGHTWARDS TRIANGLE-HEADED ARROW WITH LONG TIP UPWARDS\n0.LEFTWARDS TRIANGLE-HEADED ARROW WITH LONG TIP DOWNWARDS\n" ++
  "0.RIGHTWARDS TRIANGLE-HEADED ARROW WITH LONG TIP DOWNWARDS\n0.BLACK CURVED DOWNWARDS AND LEFTWARDS ARROW\n" ++
  "27.RIGHTWARDS ARROW\n13.UPWARDS AND LEFTWARDS ARROW\n25.RIGHTWARDS ARROW\n13.LEFTWARDS AND UPWARDS ARROW\n" ++
  "13.RIGHTWARDS AND UPWARDS ARROW\n13.LEFTWARDS AND DOWNWARDS ARROW\n13.RIGHTWARDS AND DOWNWARDS ARROW\n" ++
  "0.RIBBON ARROW DOWN LEFT\n18.RIGHT\n13.UP LEFT\n16.RIGHT\n13.LEFT UP\n13.RIGHT UP\n13.LEFT DOWN\n" ++
  "13.RIGHT DOWN\n0.UPWARDS WHITE ARROW FROM BAR WITH HORIZONTAL BAR\n2. ARROWHEAD IN A RECTANGLE BOX\n" ++
  "0.OVERLAPPING WHITE SQUARES\n18.AND BLACK SQUARES\n12.BLACK SQUARES\n0.BALLOT BOX WITH LIGHT X\n" ++
  "0.CIRCLED X\n8.BOLD X\n0.BLACK SQUARE CENTRED\n6.DIAMOND CENTRED\n0.TURNED BLACK PENTAGON\n0.HORIZONTAL BLACK OCTAGON\n" ++
  "0.BLACK OCTAGON\n6.MEDIUM UP-POINTING TRIANGLE CENTRED\n13.DOWN-POINTING TRIANGLE CENTRED\n13.LEFT-POINTING TRIANGLE CENTRED\n" ++
  "13.RIGHT-POINTING TRIANGLE CENTRED\n0.NEPTUNE FORM TWO\n0.TOP HALF BLACK CIRCLE\n0.BOTTOM HALF BLACK CIRCLE\n" ++
  "0.LIGHT FOUR POINTED BLACK CUSP\n0.ROTATED LIGHT FOUR POINTED BLACK CUSP\n0.WHITE FOUR POINTED CUSP\n" ++
  "0.ROTATED WHITE FOUR POINTED CUSP\n0.SQUARE POSITION INDICATOR\n0.UNCERTAINTY SIGN\n0.GROUP MARK\n" ++
  "0.PLUTO FORM TWO\n12.HREE\n11.FOUR\n12.IVE\n0.TRANSPLUTO\n0.PROSERPINA\n0.ASTRAEA\n0.HYGIEA\n" ++
  "0.PHOLUS\n0.NESSUS\n0.WHITE MOON SELENA\n0.BLACK DIAMOND ON CROSS\n0.TRUE LIGHT MOON ARTA\n0.CUPIDO\n" ++
  "0.HADES\n0.ZEUS\n0.KRONOS\n0.APOLLON\n1.DMETOS\n0.VULCANUS\n0.POSEIDON\n0.LEFT HALF BLACK STAR\n" ++
  "0.RIGHT HALF BLACK STAR\n0.STAR WITH LEFT HALF BLACK\n10.RIGHT HALF BLACK\n0.LEFTWARDS TWO-HEADED ARROW WITH TRIANGLE ARROWHEADS\n" ++
  "0.UPWARDS TWO-HEADED ARROW WITH TRIANGLE ARROWHEADS\n0.RIGHTWARDS TWO-HEADED ARROW WITH TRIANGLE ARROWHEADS\n" ++
  "0.DOWNWARDS TWO-HEADED ARROW WITH TRIANGLE ARROWHEADS\n0.ERIS FORM ONE\n10.TWO\n0.SEDNA\n0.RUSSIAN ASTROLOGICAL SYMBOL VIGINTILE\n" ++
  "28.NOVILE\n28.QUINTILE\n28.BINOVILE\n28.SENTAGON\n28.TREDECILE\n0.EQUALS SIGN WITH INFINITY BELOW\n" ++
  "0.UNITED SYMBOL\n0.SEPARATED SYMBOL\n0.DOUBLED SYMBOL\n0.PASSED SYMBOL\n0.REVERSED RIGHT ANGLE\n" ++
  "0.HELLSCHREIBER PAUSE SYMBOL\n0.GLAGOLITIC CAPITAL LETTER AZU\n26.BUKY\n26.VEDE\n26.GLAGOLI\n" ++
  "26.DOBRO\n26.YESTU\n26.ZHIVETE\n26.DZELO\n26.ZEMLJA\n26.IZHE\n27.NITIAL IZHE\n27.\n26.DJERVI\n" ++
  "26.KAKO\n26.LJUDIJE\n26.MYSLITE\n26.NASHI\n26.ONU\n26.POKOJI\n26.RITSI\n26.SLOVO\n26.TVRIDO\n" ++
  "26.UKU\n26.FRITU\n26.HERU\n26.OTU\n26.PE\n26.SHTA\n26.TSI\n26.CHRIVI\n26.SHA\n26.YERU\n29.I\n" ++
  "27.ATI\n26.SPIDERY HA\n26.YU\n26.SMALL YUS\n35. WITH TAIL\n26.YO\n26.IOTATED SMALL YUS\n26.BIG YUS\n" ++
  "26.IOTATED BIG YUS\n26.FITA\n26.IZHITSA\n26.SHTAPIC\n26.TROKUTASTI A\n26.LATINATE MYSLITE\n26.CAUDATE CHRIVI\n" ++
  "11.SMALL LETTER AZU\n24.BUKY\n24.VEDE\n24.GLAGOLI\n24.DOBRO\n24.YESTU\n24.ZHIVETE\n24.DZELO\n" ++
  "24.ZEMLJA\n24.IZHE\n25.NITIAL IZHE\n25.\n24.DJERVI\n24.KAKO\n24.LJUDIJE\n24.MYSLITE\n24.NASHI\n" ++
  "24.ONU\n24.POKOJI\n24.RITSI\n24.SLOVO\n24.TVRIDO\n24.UKU\n24.FRITU\n24.HERU\n24.OTU\n24.PE\n24.SHTA\n" ++
  "24.TSI\n24.CHRIVI\n24.SHA\n24.YERU\n27.I\n25.ATI\n24.SPIDERY HA\n24.YU\n24.SMALL YUS\n33. WITH TAIL\n" ++
  "24.YO\n24.IOTATED SMALL YUS\n24.BIG YUS\n24.IOTATED BIG YUS\n24.FITA\n24.IZHITSA\n24.SHTAPIC\n" ++
  "24.TROKUTASTI A\n24.LATINATE MYSLITE\n24.CAUDATE CHRIVI\n0.LATIN CAPITAL LETTER L WITH DOUBLE BAR\n" ++
  "6.SMALL LETTER L WITH DOUBLE BAR\n6.CAPITAL LETTER L WITH MIDDLE TILDE\n21.P WITH STROKE\n21.R WITH TAIL\n" ++
  "6.SMALL LETTER A WITH STROKE\n19.T WITH DIAGONAL STROKE\n6.CAPITAL LETTER H WITH DESCENDER\n6.SMALL LETTER H WITH DESCENDER\n" ++
  "6.CAPITAL LETTER K WITH DESCENDER\n6.SMALL LETTER K WITH DESCENDER\n6.CAPITAL LETTER Z WITH DESCENDER\n" ++
  "6.SMALL LETTER Z WITH DESCENDER\n6.CAPITAL LETTER ALPHA\n21.M WITH HOOK\n21.TURNED A\n29.LPHA\n" ++
  "6.SMALL LETTER V WITH RIGHT HOOK\n6.CAPITAL LETTER W WITH HOOK\n6.SMALL LETTER W WITH HOOK\n19.V WITH CURL\n" ++
  "6.CAPITAL LETTER HALF H\n6.SMALL LETTER HALF H\n19.TAILLESS PHI\n19.E WITH NOTCH\n19.TURNED R WITH TAIL\n" ++
  "19.O WITH LOW RING INSIDE\n6.LETTER SMALL CAPITAL TURNED E\n6.SUBSCRIPT SMALL LETTER J\n0.MODIFIER LETTER CAPITAL V\n" ++
  "0.LATIN CAPITAL LETTER S WITH SWASH TAIL\n21.Z WITH SWASH TAIL\n0.COPTIC CAPITAL LETTER ALFA\n" ++
  "7.SMALL LETTER ALFA\n7.CAPITAL LETTER VIDA\n7.SMALL LETTER VIDA\n7.CAPITAL LETTER GAMMA\n7.SMALL LETTER GAMMA\n" ++
  "7.CAPITAL LETTER DALDA\n7.SMALL LETTER DALDA\n7.CAPITAL LETTER EIE\n7.SMALL LETTER EIE\n7.CAPITAL LETTER SOU\n" ++
  "7.SMALL LETTER SOU\n7.CAPITAL LETTER ZATA\n7.SMALL LETTER ZATA\n7.CAPITAL LETTER HATE\n7.SMALL LETTER HATE\n" ++
  "7.CAPITAL LETTER THETHE\n7.SMALL LETTER THETHE\n7.CAPITAL LETTER IAUDA\n7.SMALL LETTER IAUDA\n" ++
  "7.CAPITAL LETTER KAPA\n7.SMALL LETTER KAPA\n7.CAPITAL LETTER LAULA\n7.SMALL LETTER LAULA\n7.CAPITAL LETTER MI\n" ++
  "7.SMALL LETTER MI\n7.CAPITAL LETTER NI\n7.SMALL LETTER NI\n7.CAPITAL LETTER KSI\n7.SMALL LETTER KSI\n" ++
  "7.CAPITAL LETTER O\n7.SMALL LETTER O\n7.CAPITAL LETTER PI\n7.SMALL LETTER PI\n7.CAPITAL LETTER RO\n" ++
  "7.SMALL LETTER RO\n7.CAPITAL LETTER SIMA\n7.SMALL LETTER SIMA\n7.CAPITAL LETTER TAU\n7.SMALL LETTER TAU\n" ++
  "7.CAPITAL LETTER UA\n7.SMALL LETTER UA\n7.CAPITAL LETTER FI\n7.SMALL LETTER FI\n7.CAPITAL LETTER KHI\n" ++
  "7.SMALL LETTER KHI\n7.CAPITAL LETTER PSI\n7.SMALL LETTER PSI\n7.CAPITAL LETTER OOU\n7.SMALL LETTER OOU\n" ++
  "7.CAPITAL LETTER DIALECT-P ALEF\n7.SMALL LETTER DIALECT-P ALEF\n7.CAPITAL LETTER OLD COPTIC AIN\n" ++
  "7.SMALL LETTER OLD COPTIC AIN\n7.CAPITAL LETTER CRYPTOGRAMMIC EIE\n7.SMALL LETTER CRYPTOGRAMMIC EIE\n" ++
  "7.CAPITAL LETTER DIALECT-P KAPA\n7.SMALL LETTER DIALECT-P KAPA\n7.CAPITAL LETTER DIALECT-P NI\n" ++
  "7.SMALL LETTER DIALECT-P NI\n7.CAPITAL LETTER CRYPTOGRAMMIC NI\n7.SMALL LETTER CRYPTOGRAMMIC NI\n" ++
  "7.CAPITAL LETTER OLD COPTIC OOU\n7.SMALL LETTER OLD COPTIC OOU\n7.CAPITAL LETTER SAMPI\n7.SMALL LETTER SAMPI\n" ++
  "7.CAPITAL LETTER CROSSED SHEI\n7.SMALL LETTER CROSSED SHEI\n7.CAPITAL LETTER OLD COPTIC SHEI\n" ++
  "7.SMALL LETTER OLD COPTIC SHEI\n7.CAPITAL LETTER OLD COPTIC ESH\n7.SMALL LETTER OLD COPTIC ESH\n" ++
  "7.CAPITAL LETTER AKHMIMIC KHEI\n7.SMALL LETTER AKHMIMIC KHEI\n7.CAPITAL LETTER DIALECT-P HORI\n" ++
  "7.SMALL LETTER DIALECT-P HORI\n7.CAPITAL LETTER OLD COPTIC HORI\n7.SMALL LETTER OLD COPTIC HORI\n" ++
  "7.CAPITAL LETTER OLD COPTIC HA\n7.SMALL LETTER OLD COPTIC HA\n7.CAPITAL LETTER L-SHAPED HA\n7.SMALL LETTER L-SHAPED HA\n" ++
  "7.CAPITAL LETTER OLD COPTIC HEI\n7.SMALL LETTER OLD COPTIC HEI\n7.CAPITAL LETTER OLD COPTIC HAT\n" ++
  "7.SMALL LETTER OLD COPTIC HAT\n7.CAPITAL LETTER OLD COPTIC GANGIA\n7.SMALL LETTER OLD COPTIC GANGIA\n" ++
  "7.CAPITAL LETTER OLD COPTIC DJA\n7.SMALL LETTER OLD COPTIC DJA\n7.CAPITAL LETTER OLD COPTIC SHIMA\n" ++
  "7.SMALL LETTER OLD COPTIC SHIMA\n7.CAPITAL LETTER OLD NUBIAN SHIMA\n7.SMALL LETTER OLD NUBIAN SHIMA\n" ++
  "7.CAPITAL LETTER OLD NUBIAN NGI\n7.SMALL LETTER OLD NUBIAN NGI\n7.CAPITAL LETTER OLD NUBIAN NYI\n" ++
  "7.SMALL LETTER OLD NUBIAN NYI\n7.CAPITAL LETTER OLD NUBIAN WAU\n7.SMALL LETTER OLD NUBIAN WAU\n" ++
  "8.YMBOL KAI\n14.MI RO\n14.PI RO\n14.STAUROS\n14.TAU RO\n14.KHI RO\n14.SHIMA SIMA\n7.CAPITAL LETTER CRYPTOGRAMMIC SHEI\n" ++
  "7.SMALL LETTER CRYPTOGRAMMIC SHEI\n7.CAPITAL LETTER CRYPTOGRAMMIC GANGIA\n7.SMALL LETTER CRYPTOGRAMMIC GANGIA\n" ++
  "7.COMBINING NI ABOVE\n17.SPIRITUS ASPER\n26.LENIS\n8.APITAL LETTER BOHAIRIC KHEI\n7.SMALL LETTER BOHAIRIC KHEI\n" ++
  "2CF9:7.OLD NUBIAN FULL STOP\n18.DIRECT QUESTION MARK\n18.INDIRECT QUESTION MARK\n18.VERSE DIVIDER\n" ++
  "7.FRACTION ONE HALF\n8.ULL STOP\n7.MORPHOLOGICAL DIVIDER\n0.GEORGIAN SMALL LETTER AN\n22.BAN\n" ++
  "22.GAN\n22.DON\n22.EN\n22.VIN\n22.ZEN\n22.TAN\n22.IN\n22.KAN\n22.LAS\n22.MAN\n22.NAR\n22.ON\n" ++
  "22.PAR\n22.ZHAR\n22.RAE\n22.SAN\n22.TAR\n22.UN\n22.PHAR\n22.KHAR\n22.GHAN\n22.QAR\n22.SHIN\n22.CHIN\n" ++
  "23.AN\n22.JIL\n22.CIL\n23.HAR\n22.XAN\n22.JHAN\n22.HAE\n23.E\n23.IE\n22.WE\n22.HAR\n23.OE\n2D27:22.YN\n" ++
  "2D2D:22.AEN\n2D30:0.TIFINAGH LETTER YA\n18.B\n19.H\n18.G\n19.HH\n16.BERBER ACADEMY YAJ\n16.YAJ\n" ++
  "18.D\n19.H\n19.D\n20.H\n17.EY\n17.AF\n18.K\n16.TUAREG YAK\n16.YAKHH\n18.H\n16.BERBER ACADEMY YAH\n" ++
  "16.TUAREG YAH\n16.YAHH\n18.A\n18.KH\n16.TUAREG YAKH\n16.YAQ\n16.TUAREG YAQ\n16.YI\n17.AZH\n16.AHAGGAR YAZH\n" ++
  "16.TUAREG YAZH\n16.YAL\n18.M\n18.N\n16.TUAREG YAGN\n25.NG\n16.YAP\n17.U\n17.AR\n19.R\n18.GH\n" ++
  "16.TUAREG YAGH\n16.AYER YAGH\n16.YAS\n19.S\n19.H\n18.T\n19.H\n18.CH\n18.TT\n18.V\n18.W\n18.Y\n" ++
  "18.Z\n16.TAWELLEMET YAZ\n16.YAZZ\n17.E\n17.O\n2D6F:9.MODIFIER LETTER LABIALIZATION MARK\n9.SEPARATOR MARK\n" ++
  "2D7F:9.CONSONANT JOINER\n0.ETHIOPIC SYLLABLE LOA\n18.MOA\n18.ROA\n18.SOA\n19.HOA\n18.BOA\n18.TOA\n" ++
  "18.COA\n18.NOA\n19.YOA\n18.GLOTTAL OA\n18.ZOA\n18.DOA\n19.DOA\n18.JOA\n18.THOA\n18.CHOA\n18.PHOA\n" ++
  "19.OA\n18.GGWA\n21.I\n21.EE\n22.\n2DA0:18.SSA\n20.U\n20.I\n20.AA\n20.EE\n21.\n20.O\n2DA8:18.CCA\n" ++
  "20.U\n20.I\n20.AA\n20.EE\n21.\n20.O\n2DB0:18.ZZA\n20.U\n20.I\n20.AA\n20.EE\n21.\n20.O\n2DB8:18.CCHA\n" ++
  "21.U\n21.I\n21.AA\n21.EE\n22.\n21.O\n2DC0:18.QYA\n20.U\n20.I\n20.AA\n20.EE\n21.\n20.O\n2DC8:18.KYA\n" ++
  "20.U\n20.I\n20.AA\n20.EE\n21.\n20.O\n2DD0:18.XYA\n20.U\n20.I\n20.AA\n20.EE\n21.\n20.O\n2DD8:18.GYA\n" ++
  "20.U\n20.I\n20.AA\n20.EE\n21.\n20.O\n2DE0:0.COMBINING CYRILLIC LETTER BE\n26.VE\n26.GHE\n26.DE\n" ++
  "26.ZHE\n27.E\n26.KA\n26.EL\n27.M\n27.N\n26.O\n26.PE\n26.ER\n27.S\n26.TE\n26.HA\n26.TSE\n26.CHE\n" ++
  "26.SHA\n28.CHA\n26.FITA\n26.ES-TE\n26.A\n26.IE\n26.DJERV\n26.MONOGRAPH UK\n26.YAT\n27.U\n26.IOTIFIED A\n" ++
  "26.LITTLE YUS\n26.BIG YUS\n26.IOTIFIED BIG YUS\n0.RIGHT ANGLE SUBSTITUTION MARKER\n12.DOTTED SUBSTITUTION MARKER\n" ++
  "0.LEFT SUBSTITUTION BRACKET\n0.RIGHT SUBSTITUTION BRACKET\n0.LEFT DOTTED SUBSTITUTION BRACKET\n" ++
  "0.RIGHT DOTTED SUBSTITUTION BRACKET\n1.AISED INTERPOLATION MARKER\n7.DOTTED INTERPOLATION MARKER\n" ++
  "0.DOTTED TRANSPOSITION MARKER\n0.LEFT TRANSPOSITION BRACKET\n0.RIGHT TRANSPOSITION BRACKET\n1.AISED SQUARE\n" ++
  "0.LEFT RAISED OMISSION BRACKET\n0.RIGHT RAISED OMISSION BRACKET\n0.EDITORIAL CORONIS\n0.PARAGRAPHOS\n" ++
  "0.FORKED PARAGRAPHOS\n0.REVERSED FORKED PARAGRAPHOS\n0.HYPODIASTOLE\n0.DOTTED OBELOS\n2.WNWARDS ANCORA\n" ++
  "0.UPWARDS ANCORA\n0.DOTTED RIGHT-POINTING ANGLE\n2.UBLE OBLIQUE HYPHEN\n0.INVERTED INTERROBANG\n" ++
  "0.PALM BRANCH\n0.HYPHEN WITH DIAERESIS\n0.TILDE WITH RING ABOVE\n0.LEFT LOW PARAPHRASE BRACKET\n" ++
  "0.RIGHT LOW PARAPHRASE BRACKET\n0.TILDE WITH DOT ABOVE\n15.BELOW\n0.LEFT VERTICAL BAR WITH QUILL\n" ++
  "0.RIGHT VERTICAL BAR WITH QUILL\n0.TOP LEFT HALF BRACKET\n4.RIGHT HALF BRACKET\n0.BOTTOM LEFT HALF BRACKET\n" ++
  "7.RIGHT HALF BRACKET\n0.LEFT SIDEWAYS U BRACKET\n0.RIGHT SIDEWAYS U BRACKET\n0.LEFT DOUBLE PARENTHESIS\n" ++
  "0.RIGHT DOUBLE PARENTHESIS\n0.TWO DOTS OVER ONE DOT PUNCTUATION\n0.ONE DOT OVER TWO DOTS PUNCTUATION\n" ++
  "0.SQUARED FOUR DOT PUNCTUATION\n0.FIVE DOT MARK\n0.REVERSED QUESTION MARK\n0.VERTICAL TILDE\n" ++
  "0.RING POINT\n0.WORD SEPARATOR MIDDLE DOT\n0.TURNED COMMA\n0.RAISED DOT\n7.COMMA\n0.TURNED SEMICOLON\n" ++
  "0.DAGGER WITH LEFT GUARD\n12.RIGHT GUARD\n0.TURNED DAGGER\n1.OP HALF SECTION SIGN\n1.WO-EM DASH\n" ++
  "1.HREE-EM DASH\n0.STENOGRAPHIC FULL STOP\n0.VERTICAL SIX DOTS\n0.WIGGLY VERTICAL LINE\n0.CAPITULUM\n" ++
  "0.DOUBLE HYPHEN\n0.REVERSED COMMA\n0.DOUBLE LOW-REVERSED-9 QUOTATION MARK\n1.ASH WITH LEFT UPTURN\n" ++
  "1.OUBLE SUSPENSION MARK\n0.INVERTED LOW KAVYKA\n19. WITH KAVYKA ABOVE\n0.LOW KAVYKA\n10. WITH DOT\n" ++
  "0.DOUBLE STACKED COMMA\n2.TTED SOLIDUS\n0.TRIPLE DAGGER\n0.MEDIEVAL COMMA\n0.PARAGRAPHUS MARK\n" ++
  "1.UNCTUS ELEVATUS MARK\n0.CORNISH VERSE DIVIDER\n1.ROSS PATTY WITH RIGHT CROSSBAR\n17.LEFT CROSSBAR\n" ++
  "0.TIRONIAN SIGN CAPITAL ET\n0.MEDIEVAL EXCLAMATION MARK\n9.QUESTION MARK\n0.LEFT SQUARE BRACKET WITH STROKE\n" ++
  "0.RIGHT SQUARE BRACKET WITH STROKE\n0.LEFT SQUARE BRACKET WITH DOUBLE STROKE\n0.RIGHT SQUARE BRACKET WITH DOUBLE STROKE\n" ++
  "0.TOP HALF LEFT PARENTHESIS\n9.RIGHT PARENTHESIS\n0.BOTTOM HALF LEFT PARENTHESIS\n12.RIGHT PARENTHESIS\n" ++
  "0.OBLIQUE HYPHEN\n2E80:0.CJK RADICAL REPEAT\n12.CLIFF\n12.SECOND ONE\n19.TWO\n20.HREE\n12.PERSON\n" ++
  "12.BOX\n12.TABLE\n12.KNIFE ONE\n18.TWO\n12.DIVINATION\n12.SEAL\n13.MALL ONE\n18.TWO\n12.LAME ONE\n" ++
  "17.TWO\n18.HREE\n17.FOUR\n12.SNAKE\n12.THREAD\n12.SNOUT ONE\n18.TWO\n12.HEART ONE\n18.TWO\n13.AND\n" ++
  "12.RAP\n2E9B:12.CHOKE\n12.SUN\n12.MOON\n12.DEATH\n12.MOTHER\n12.CIVILIAN\n12.WATER ONE\n18.TWO\n" ++
  "12.FIRE\n12.PAW ONE\n16.TWO\n12.SIMPLIFIED HALF TREE TRUNK\n12.COW\n12.DOG\n12.JADE\n12.BOLT OF CLOTH\n" ++
  "12.EYE\n12.SPIRIT ONE\n19.TWO\n12.BAMBOO\n12.SILK\n12.C-SIMPLIFIED SILK\n12.NET ONE\n16.TWO\n" ++
  "17.HREE\n16.FOUR\n12.MESH\n12.SHEEP\n12.RAM\n12.EWE\n12.OLD\n12.BRUSH ONE\n18.TWO\n12.MEAT\n13.ORTAR\n" ++
  "12.GRASS ONE\n18.TWO\n19.HREE\n12.TIGER\n12.CLOTHES\n12.WEST ONE\n17.TWO\n12.C-SIMPLIFIED SEE\n" ++
  "12.SIMPLIFIED HORN\n12.HORN\n12.C-SIMPLIFIED SPEECH\n26.HELL\n12.FOOT\n12.C-SIMPLIFIED CART\n" ++
  "12.SIMPLIFIED WALK\n12.WALK ONE\n17.TWO\n12.CITY\n13.-SIMPLIFIED GOLD\n12.LONG ONE\n17.TWO\n12.C-SIMPLIFIED LONG\n" ++
  "25.GATE\n12.MOUND ONE\n18.TWO\n12.RAIN\n12.BLUE\n12.C-SIMPLIFIED TANNED LEATHER\n25.LEAF\n25.WIND\n" ++
  "25.FLY\n12.EAT ONE\n16.TWO\n17.HREE\n12.C-SIMPLIFIED EAT\n12.HEAD\n12.C-SIMPLIFIED HORSE\n12.BONE\n" ++
  "12.GHOST\n12.C-SIMPLIFIED FISH\n25.BIRD\n25.SALT\n12.SIMPLIFIED WHEAT\n23.YELLOW\n12.C-SIMPLIFIED FROG\n" ++
  "12.J-SIMPLIFIED EVEN\n12.C-SIMPLIFIED EVEN\n12.J-SIMPLIFIED TOOTH\n12.C-SIMPLIFIED TOOTH\n12.J-SIMPLIFIED DRAGON\n" ++
  "12.C-SIMPLIFIED DRAGON\n12.TURTLE\n12.J-SIMPLIFIED TURTLE\n12.C-SIMPLIFIED TURTLE\n2F00:0.KANGXI RADICAL ONE\n" ++
  "15.LINE\n15.DOT\n15.SLASH\n16.ECOND\n15.HOOK\n15.TWO\n15.LID\n15.MAN\n15.LEGS\n15.ENTER\n16.IGHT\n" ++
  "15.DOWN BOX\n15.COVER\n15.ICE\n15.TABLE\n15.OPEN BOX\n15.KNIFE\n15.POWER\n15.WRAP\n15.SPOON\n" ++
  "15.RIGHT OPEN BOX\n15.HIDING ENCLOSURE\n15.TEN\n15.DIVINATION\n15.SEAL\n15.CLIFF\n15.PRIVATE\n" ++
  "15.AGAIN\n15.MOUTH\n15.ENCLOSURE\n16.ARTH\n15.SCHOLAR\n15.GO\n17. SLOWLY\n15.EVENING\n15.BIG\n" ++
  "15.WOMAN\n15.CHILD\n15.ROOF\n15.INCH\n15.SMALL\n15.LAME\n15.CORPSE\n15.SPROUT\n15.MOUNTAIN\n15.RIVER\n" ++
  "15.WORK\n15.ONESELF\n15.TURBAN\n15.DRY\n15.SHORT THREAD\n15.DOTTED CLIFF\n15.LONG STRIDE\n15.TWO HANDS\n" ++
  "15.SHOOT\n15.BOW\n15.SNOUT\n15.BRISTLE\n15.STEP\n15.HEART\n16.ALBERD\n15.DOOR\n15.HAND\n15.BRANCH\n" ++
  "15.RAP\n15.SCRIPT\n15.DIPPER\n15.AXE\n15.SQUARE\n15.NOT\n15.SUN\n16.AY\n15.MOON\n15.TREE\n15.LACK\n" ++
  "15.STOP\n15.DEATH\n15.WEAPON\n15.DO NOT\n15.COMPARE\n15.FUR\n15.CLAN\n15.STEAM\n15.WATER\n15.FIRE\n" ++
  "15.CLAW\n15.FATHER\n15.DOUBLE X\n15.HALF TREE TRUNK\n15.SLICE\n15.FANG\n15.COW\n15.DOG\n15.PROFOUND\n" ++
  "15.JADE\n15.MELON\n15.TILE\n15.SWEET\n15.LIFE\n15.USE\n15.FIELD\n15.BOLT OF CLOTH\n15.SICKNESS\n" ++
  "15.DOTTED TENT\n15.WHITE\n15.SKIN\n15.DISH\n15.EYE\n15.SPEAR\n15.ARROW\n15.STONE\n16.PIRIT\n15.TRACK\n" ++
  "15.GRAIN\n15.CAVE\n15.STAND\n15.BAMBOO\n15.RICE\n15.SILK\n15.JAR\n15.NET\n15.SHEEP\n15.FEATHER\n" ++
  "15.OLD\n15.AND\n15.PLOW\n15.EAR\n15.BRUSH\n15.MEAT\n16.INISTER\n15.SELF\n15.ARRIVE\n15.MORTAR\n" ++
  "15.TONGUE\n15.OPPOSE\n15.BOAT\n15.STOPPING\n15.COLOR\n15.GRASS\n15.TIGER\n15.INSECT\n15.BLOOD\n" ++
  "15.WALK ENCLOSURE\n15.CLOTHES\n15.WEST\n15.SEE\n15.HORN\n15.SPEECH\n15.VALLEY\n15.BEAN\n15.PIG\n" ++
  "15.BADGER\n15.SHELL\n15.RED\n16.UN\n15.FOOT\n15.BODY\n15.CART\n15.BITTER\n15.MORNING\n15.WALK\n" ++
  "15.CITY\n15.WINE\n15.DISTINGUISH\n15.VILLAGE\n15.GOLD\n15.LONG\n15.GATE\n15.MOUND\n15.SLAVE\n" ++
  "16.HORT TAILED BIRD\n15.RAIN\n15.BLUE\n15.WRONG\n15.FACE\n15.LEATHER\n15.TANNED LEATHER\n15.LEEK\n" ++
  "15.SOUND\n15.LEAF\n15.WIND\n15.FLY\n15.EAT\n15.HEAD\n15.FRAGRANT\n15.HORSE\n15.BONE\n15.TALL\n" ++
  "15.HAIR\n15.FIGHT\n15.SACRIFICIAL WINE\n15.CAULDRON\n15.GHOST\n15.FISH\n15.BIRD\n15.SALT\n15.DEER\n" ++
  "15.WHEAT\n15.HEMP\n15.YELLOW\n15.MILLET\n15.BLACK\n15.EMBROIDERY\n15.FROG\n15.TRIPOD\n15.DRUM\n" ++
  "15.RAT\n15.NOSE\n15.EVEN\n15.TOOTH\n15.DRAGON\n15.TURTLE\n15.FLUTE\n2FF0:0.IDEOGRAPHIC DESCRIPTION CHARACTER LEFT TO RIGHT\n" ++
  "34.ABOVE TO BELOW\n34.LEFT TO MIDDLE AND RIGHT\n34.ABOVE TO MIDDLE AND BELOW\n34.FULL SURROUND\n" ++
  "34.SURROUND FROM ABOVE\n48.BELOW\n48.LEFT\n48.UPPER LEFT\n54.RIGHT\n48.LOWER LEFT\n34.OVERLAID\n" ++
  "3000:12.SPACE\n12.COMMA\n12.FULL STOP\n0.DITTO MARK\n0.JAPANESE INDUSTRIAL STANDARD SYMBOL\n0.IDEOGRAPHIC ITERATION MARK\n" ++
  "12.CLOSING MARK\n12.NUMBER ZERO\n0.LEFT ANGLE BRACKET\n0.RIGHT ANGLE BRACKET\n0.LEFT DOUBLE ANGLE BRACKET\n" ++
  "0.RIGHT DOUBLE ANGLE BRACKET\n0.LEFT CORNER BRACKET\n0.RIGHT CORNER BRACKET\n0.LEFT WHITE CORNER BRACKET\n" ++
  "0.RIGHT WHITE CORNER BRACKET\n0.LEFT BLACK LENTICULAR BRACKET\n0.RIGHT BLACK LENTICULAR BRACKET\n" ++
  "0.POSTAL MARK\n0.GETA MARK\n0.LEFT TORTOISE SHELL BRACKET\n0.RIGHT TORTOISE SHELL BRACKET\n0.LEFT WHITE LENTICULAR BRACKET\n" ++
  "0.RIGHT WHITE LENTICULAR BRACKET\n0.LEFT WHITE TORTOISE SHELL BRACKET\n0.RIGHT WHITE TORTOISE SHELL BRACKET\n" ++
  "0.LEFT WHITE SQUARE BRACKET\n0.RIGHT WHITE SQUARE BRACKET\n0.WAVE DASH\n0.REVERSED DOUBLE PRIME QUOTATION MARK\n" ++
  "0.DOUBLE PRIME QUOTATION MARK\n0.LOW DOUBLE PRIME QUOTATION MARK\n0.POSTAL MARK FACE\n0.HANGZHOU NUMERAL ONE\n" ++
  "17.TWO\n18.HREE\n17.FOUR\n18.IVE\n17.SIX\n18.EVEN\n17.EIGHT\n17.NINE\n0.IDEOGRAPHIC LEVEL TONE MARK\n" ++
  "12.RISING TONE MARK\n12.DEPARTING TONE MARK\n12.ENTERING TONE MARK\n0.HANGUL SINGLE DOT TONE MARK\n" ++
  "7.DOUBLE DOT TONE MARK\n0.WAVY DASH\n0.VERTICAL KANA REPEAT MARK\n21.WITH VOICED SOUND MARK\n" ++
  "21.MARK UPPER HALF\n21.WITH VOICED SOUND MARK UPPER HALF\n21.MARK LOWER HALF\n0.CIRCLED POSTAL MARK\n" ++
  "0.IDEOGRAPHIC TELEGRAPH LINE FEED SEPARATOR SYMBOL\n0.HANGZHOU NUMERAL TEN\n18.WENTY\n18.HIRTY\n" ++
  "0.VERTICAL IDEOGRAPHIC ITERATION MARK\n0.MASU MARK\n0.PART ALTERNATION MARK\n0.IDEOGRAPHIC VARIATION INDICATOR\n" ++
  "12.HALF FILL SPACE\n3041:0.HIRAGANA LETTER SMALL A\n16.A\n16.SMALL I\n16.I\n16.SMALL U\n16.U\n" ++
  "16.SMALL E\n16.E\n16.SMALL O\n16.O\n16.KA\n16.GA\n16.KI\n16.GI\n16.KU\n16.GU\n16.KE\n16.GE\n16.KO\n" ++
  "16.GO\n16.SA\n16.ZA\n16.SI\n16.ZI\n16.SU\n16.ZU\n16.SE\n16.ZE\n16.SO\n16.ZO\n16.TA\n16.DA\n16.TI\n" ++
  "16.DI\n16.SMALL TU\n16.TU\n16.DU\n16.TE\n16.DE\n16.TO\n16.DO\n16.NA\n17.I\n17.U\n17.E\n17.O\n" ++
  "16.HA\n16.BA\n16.PA\n16.HI\n16.BI\n16.PI\n16.HU\n16.BU\n16.PU\n16.HE\n16.BE\n16.PE\n16.HO\n16.BO\n" ++
  "16.PO\n16.MA\n17.I\n17.U\n17.E\n17.O\n16.SMALL YA\n16.YA\n16.SMALL YU\n16.YU\n16.SMALL YO\n16.YO\n" ++
  "16.RA\n17.I\n17.U\n17.E\n17.O\n16.SMALL WA\n16.WA\n17.I\n17.E\n17.O\n16.N\n16.VU\n16.SMALL KA\n" ++
  "23.E\n3099:0.COMBINING KATAKANA-HIRAGANA VOICED SOUND MARK\n28.SEMI-VOICED SOUND MARK\n0.KATAKANA-HIRAGANA VOICED SOUND MARK\n" ++
  "18.SEMI-VOICED SOUND MARK\n0.HIRAGANA ITERATION MARK\n9.VOICED ITERATION MARK\n9.DIGRAPH YORI\n" ++
  "0.KATAKANA-HIRAGANA DOUBLE HYPHEN\n8. LETTER SMALL A\n16.A\n16.SMALL I\n16.I\n16.SMALL U\n16.U\n" ++
  "16.SMALL E\n16.E\n16.SMALL O\n16.O\n16.KA\n16.GA\n16.KI\n16.GI\n16.KU\n16.GU\n16.KE\n16.GE\n16.KO\n" ++
  "16.GO\n16.SA\n16.ZA\n16.SI\n16.ZI\n16.SU\n16.ZU\n16.SE\n16.ZE\n16.SO\n16.ZO\n16.TA\n16.DA\n16.TI\n" ++
  "16.DI\n16.SMALL TU\n16.TU\n16.DU\n16.TE\n16.DE\n16.TO\n16.DO\n16.NA\n17.I\n17.U\n17.E\n17.O\n" ++
  "16.HA\n16.BA\n16.PA\n16.HI\n16.BI\n16.PI\n16.HU\n16.BU\n16.PU\n16.HE\n16.BE\n16.PE\n16.HO\n16.BO\n" ++
  "16.PO\n16.MA\n17.I\n17.U\n17.E\n17.O\n16.SMALL YA\n16.YA\n16.SMALL YU\n16.YU\n16.SMALL YO\n16.YO\n" ++
  "16.RA\n17.I\n17.U\n17.E\n17.O\n16.SMALL WA\n16.WA\n17.I\n17.E\n17.O\n16.N\n16.VU\n16.SMALL KA\n" ++
  "23.E\n16.VA\n17.I\n17.E\n17.O\n9.MIDDLE DOT\n8.-HIRAGANA PROLONGED SOUND MARK\n8. ITERATION MARK\n" ++
  "9.VOICED ITERATION MARK\n9.DIGRAPH KOTO\n3105:0.BOPOMOFO LETTER B\n16.P\n16.M\n16.F\n16.D\n16.T\n" ++
  "16.N\n16.L\n16.G\n16.K\n16.H\n16.J\n16.Q\n16.X\n16.ZH\n16.CH\n16.SH\n16.R\n16.Z\n16.C\n16.S\n" ++
  "16.A\n16.O\n16.E\n17.H\n16.AI\n16.EI\n16.AU\n16.OU\n16.AN\n16.EN\n16.ANG\n16.ENG\n17.R\n16.I\n" ++
  "16.U\n16.IU\n16.V\n16.NG\n16.GN\n16.IH\n16.O WITH DOT ABOVE\n16.NN\n3131:0.HANGUL LETTER KIYEOK\n" ++
  "14.SSANGKIYEOK\n14.KIYEOK-SIOS\n14.NIEUN\n19.-CIEUC\n20.HIEUH\n14.TIKEUT\n14.SSANGTIKEUT\n14.RIEUL\n" ++
  "19.-KIYEOK\n20.MIEUM\n20.PIEUP\n20.SIOS\n20.THIEUTH\n20.PHIEUPH\n20.HIEUH\n14.MIEUM\n14.PIEUP\n" ++
  "14.SSANGPIEUP\n14.PIEUP-SIOS\n14.SIOS\n15.SANGSIOS\n14.IEUNG\n14.CIEUC\n14.SSANGCIEUC\n14.CHIEUCH\n" ++
  "14.KHIEUKH\n14.THIEUTH\n14.PHIEUPH\n14.HIEUH\n14.A\n15.E\n14.YA\n16.E\n14.EO\n15.\n14.YEO\n16.\n" ++
  "14.O\n14.WA\n16.E\n14.OE\n14.YO\n14.U\n14.WEO\n16.\n15.I\n14.YU\n14.EU\n14.YI\n14.I\n7.FILLER\n" ++
  "7.LETTER SSANGNIEUN\n14.NIEUN-TIKEUT\n20.SIOS\n20.PANSIOS\n14.RIEUL-KIYEOK-SIOS\n20.TIKEUT\n20.PIEUP-SIOS\n" ++
  "21.ANSIOS\n20.YEORINHIEUH\n14.MIEUM-PIEUP\n20.SIOS\n20.PANSIOS\n14.KAPYEOUNMIEUM\n14.PIEUP-KIYEOK\n" ++
  "20.TIKEUT\n20.SIOS-KIYEOK\n25.TIKEUT\n20.CIEUC\n20.THIEUTH\n14.KAPYEOUNPIEUP\n22.SSANGPIEUP\n" ++
  "14.SIOS-KIYEOK\n19.NIEUN\n19.TIKEUT\n19.PIEUP\n19.CIEUC\n14.PANSIOS\n14.SSANGIEUNG\n14.YESIEUNG\n" ++
  "22.-SIOS\n23.PANSIOS\n14.KAPYEOUNPHIEUPH\n14.SSANGHIEUH\n14.YEORINHIEUH\n15.O-YA\n19.E\n17.I\n" ++
  "15.U-YEO\n19.\n17.I\n14.ARAEA\n19.E\n3190:0.IDEOGRAPHIC ANNOTATION LINKING MARK\n23.REVERSE MARK\n" ++
  "23.ONE MARK\n23.TWO MARK\n24.HREE MARK\n23.FOUR MARK\n23.TOP MARK\n23.MIDDLE MARK\n23.BOTTOM MARK\n" ++
  "23.FIRST MARK\n23.SECOND MARK\n23.THIRD MARK\n23.FOURTH MARK\n23.HEAVEN MARK\n23.EARTH MARK\n" ++
  "23.MAN MARK\n0.BOPOMOFO LETTER BU\n16.ZI\n16.JI\n16.GU\n16.EE\n17.NN\n16.OO\n17.NN\n16.IR\n16.ANN\n" ++
  "16.INN\n16.UNN\n16.IM\n16.NGG\n16.AINN\n17.UNN\n17.M\n16.OM\n17.NG\n16.INNN\n9.FINAL LETTER P\n" ++
  "22.T\n22.K\n22.H\n9.LETTER GH\n16.LH\n16.ZY\n9.FINAL LETTER G\n9.LETTER GW\n16.KW\n16.OE\n16.AH\n" ++
  "0.CJK STROKE T\n11.WG\n11.XG\n11.BXG\n11.SW\n11.HZZ\n13.G\n12.P\n12.ZWG\n11.SZWG\n11.HZT\n13.ZP\n" ++
  "12.PWG\n12.ZW\n13.ZZ\n11.N\n11.H\n11.S\n11.P\n11.SP\n11.D\n11.HZ\n12.G\n11.SZ\n12.WZ\n12.T\n12.G\n" ++
  "11.PD\n12.Z\n11.TN\n11.SZZ\n12.WG\n11.HXWG\n12.ZZZG\n11.PG\n11.Q\n31F0:0.KATAKANA LETTER SMALL KU\n" ++
  "22.SI\n23.U\n22.TO\n22.NU\n22.HA\n23.I\n23.U\n23.E\n23.O\n22.MU\n22.RA\n23.I\n23.U\n23.E\n23.O\n" ++
  "0.PARENTHESIZED HANGUL KIYEOK\n21.NIEUN\n21.TIKEUT\n21.RIEUL\n21.MIEUM\n21.PIEUP\n21.SIOS\n21.IEUNG\n" ++
  "21.CIEUC\n22.HIEUCH\n21.KHIEUKH\n21.THIEUTH\n21.PHIEUPH\n21.HIEUH\n21.KIYEOK A\n21.NIEUN A\n21.TIKEUT A\n" ++
  "21.RIEUL A\n21.MIEUM A\n21.PIEUP A\n21.SIOS A\n21.IEUNG A\n21.CIEUC A\n22.HIEUCH A\n21.KHIEUKH A\n" ++
  "21.THIEUTH A\n21.PHIEUPH A\n21.HIEUH A\n21.CIEUC U\n14.KOREAN CHARACTER OJEON\n32. HU\n3220:14.IDEOGRAPH ONE\n" ++
  "24.TWO\n25.HREE\n24.FOUR\n25.IVE\n24.SIX\n25.EVEN\n24.EIGHT\n24.NINE\n24.TEN\n24.MOON\n24.FIRE\n" ++
  "24.WATER\n25.OOD\n24.METAL\n24.EARTH\n24.SUN\n25.TOCK\n24.HAVE\n24.SOCIETY\n24.NAME\n24.SPECIAL\n" ++
  "24.FINANCIAL\n24.CONGRATULATION\n24.LABOR\n24.REPRESENT\n24.CALL\n24.STUDY\n25.UPERVISE\n24.ENTERPRISE\n" ++
  "24.RESOURCE\n24.ALLIANCE\n24.FESTIVAL\n24.REST\n24.SELF\n24.REACH\n0.CIRCLED IDEOGRAPH QUESTION\n" ++
  "18.KINDERGARTEN\n18.SCHOOL\n18.KOTO\n8.NUMBER TEN ON BLACK SQUARE\n16.WENTY ON BLACK SQUARE\n" ++
  "16.HIRTY ON BLACK SQUARE\n15.FORTY ON BLACK SQUARE\n16.IFTY ON BLACK SQUARE\n15.SIXTY ON BLACK SQUARE\n" ++
  "16.EVENTY ON BLACK SQUARE\n15.EIGHTY ON BLACK SQUARE\n0.PARTNERSHIP SIGN\n0.CIRCLED NUMBER TWENTY ONE\n" ++
  "22.TWO\n23.HREE\n22.FOUR\n23.IVE\n22.SIX\n23.EVEN\n22.EIGHT\n22.NINE\n16.HIRTY\n21. ONE\n22.TWO\n" ++
  "23.HREE\n22.FOUR\n23.IVE\n8.HANGUL KIYEOK\n15.NIEUN\n15.TIKEUT\n15.RIEUL\n15.MIEUM\n15.PIEUP\n" ++
  "15.SIOS\n15.IEUNG\n15.CIEUC\n16.HIEUCH\n15.KHIEUKH\n15.THIEUTH\n15.PHIEUPH\n15.HIEUH\n15.KIYEOK A\n" ++
  "15.NIEUN A\n15.TIKEUT A\n15.RIEUL A\n15.MIEUM A\n15.PIEUP A\n15.SIOS A\n15.IEUNG A\n15.CIEUC A\n" ++
  "16.HIEUCH A\n15.KHIEUKH A\n15.THIEUTH A\n15.PHIEUPH A\n15.HIEUH A\n8.KOREAN CHARACTER CHAMKO\n" ++
  "25.JUEUI\n8.HANGUL IEUNG U\n0.KOREAN STANDARD SYMBOL\n0.CIRCLED IDEOGRAPH ONE\n18.TWO\n19.HREE\n" ++
  "18.FOUR\n19.IVE\n18.SIX\n19.EVEN\n18.EIGHT\n18.NINE\n18.TEN\n18.MOON\n18.FIRE\n18.WATER\n19.OOD\n" ++
  "18.METAL\n18.EARTH\n18.SUN\n19.TOCK\n18.HAVE\n18.SOCIETY\n18.NAME\n18.SPECIAL\n18.FINANCIAL\n" ++
  "18.CONGRATULATION\n18.LABOR\n18.SECRET\n18.MALE\n18.FEMALE\n18.SUITABLE\n18.EXCELLENT\n18.PRINT\n" ++
  "18.ATTENTION\n18.ITEM\n18.REST\n18.COPY\n20.RRECT\n18.HIGH\n18.CENTRE\n18.LOW\n19.EFT\n18.RIGHT\n" ++
  "18.MEDICINE\n18.RELIGION\n18.STUDY\n19.UPERVISE\n18.ENTERPRISE\n18.RESOURCE\n18.ALLIANCE\n18.NIGHT\n" ++
  "8.NUMBER THIRTY SIX\n23.EVEN\n22.EIGHT\n22.NINE\n15.FORTY\n20. ONE\n21.TWO\n22.HREE\n21.FOUR\n" ++
  "22.IVE\n21.SIX\n22.EVEN\n21.EIGHT\n21.NINE\n16.IFTY\n0.IDEOGRAPHIC TELEGRAPH SYMBOL FOR JANUARY\n" ++
  "33.FEBRUARY\n33.MARCH\n33.APRIL\n33.MAY\n33.JUNE\n35.LY\n33.AUGUST\n33.SEPTEMBER\n33.OCTOBER\n" ++
  "33.NOVEMBER\n33.DECEMBER\n0.SQUARE HG\n7.ERG\n8.V\n0.LIMITED LIABILITY SIGN\n0.CIRCLED KATAKANA A\n" ++
  "17.I\n17.U\n17.E\n17.O\n17.KA\n18.I\n18.U\n18.E\n18.O\n17.SA\n18.I\n18.U\n18.E\n18.O\n17.TA\n" ++
  "18.I\n18.U\n18.E\n18.O\n17.NA\n18.I\n18.U\n18.E\n18.O\n17.HA\n18.I\n18.U\n18.E\n18.O\n17.MA\n" ++
  "18.I\n18.U\n18.E\n18.O\n17.YA\n18.U\n18.O\n17.RA\n18.I\n18.U\n18.E\n18.O\n17.WA\n18.I\n18.E\n" ++
  "18.O\n0.SQUARE ERA NAME REIWA\n7.APAATO\n8.RUHUA\n8.NPEA\n8.ARU\n7.ININGU\n9.TI\n7.UON\n7.ESUKUUDO\n" ++
  "8.EKAA\n7.ONSU\n8.OMU\n7.KAIRI\n9.RATTO\n10.ORII\n7.GARON\n9.NMA\n8.IGA\n9.NII\n7.KYURII\n7.GIRUDAA\n" ++
  "7.KIRO\n11.GURAMU\n11.MEETORU\n11.WATTO\n7.GURAMU\n13.TON\n7.KURUZEIRO\n10.OONE\n8.EESU\n8.ORUNA\n" ++
  "9.OPO\n7.SAIKURU\n9.NTIIMU\n8.IRINGU\n8.ENTI\n11.O\n7.DAASU\n8.ESI\n8.ORU\n7.TON\n7.NANO\n8.OTTO\n" ++
  "7.HAITU\n7.PAASENTO\n10.TU\n7.BAARERU\n7.PIASUTORU\n9.KURU\n10.O\n7.BIRU\n7.HUARADDO\n9.IITO\n" ++
  "7.BUSSYERU\n7.HURAN\n8.EKUTAARU\n7.PESO\n9.NIHI\n7.HERUTU\n7.PENSU\n9.EZI\n7.BEETA\n7.POINTO\n" ++
  "7.BORUTO\n7.HON\n7.PONDO\n7.HOORU\n10.N\n7.MAIKURO\n10.RU\n9.HHA\n9.RUKU\n9.NSYON\n8.IKURON\n" ++
  "9.RI\n11.BAARU\n8.EGA\n11.TON\n9.ETORU\n7.YAADO\n10.RU\n8.UAN\n7.RITTORU\n9.RA\n8.UPII\n9.UBURU\n" ++
  "8.EMU\n9.NTOGEN\n7.WATTO\n0.IDEOGRAPHIC TELEGRAPH SYMBOL FOR HOUR ZERO\n38.ONE\n38.TWO\n39.HREE\n" ++
  "38.FOUR\n39.IVE\n38.SIX\n39.EVEN\n38.EIGHT\n38.NINE\n38.TEN\n38.ELEVEN\n38.TWELVE\n39.HIRTEEN\n" ++
  "38.FOURTEEN\n39.IFTEEN\n38.SIXTEEN\n39.EVENTEEN\n38.EIGHTEEN\n38.NINETEEN\n38.TWENTY\n44.-ONE\n" ++
  "45.TWO\n46.HREE\n45.FOUR\n0.SQUARE HPA\n7.DA\n7.AU\n7.BAR\n7.OV\n7.PC\n7.DM\n9. SQUARED\n10.CUBED\n" ++
  "7.IU\n7.ERA NAME HEISEI\n16.SYOUWA\n16.TAISYOU\n16.MEIZI\n7.CORPORATION\n7.PA AMPS\n7.NA\n7.MU A\n" ++
  "8.A\n7.KA\n8.B\n7.MB\n7.GB\n7.CAL\n7.KCAL\n7.PF\n7.NF\n7.MU F\n10.G\n8.G\n7.KG\n7.HZ\n7.KHZ\n" ++
  "7.MHZ\n7.GHZ\n7.THZ\n7.MU L\n8.L\n7.DL\n7.KL\n7.FM\n7.NM\n7.MU M\n8.M\n7.CM\n7.KM\n7.MM SQUARED\n" ++
  "7.CM SQUARED\n7.M SQUARED\n7.KM SQUARED\n7.MM CUBED\n7.CM CUBED\n7.M CUBED\n7.KM CUBED\n7.M OVER S\n" ++
  "15. SQUARED\n7.PA\n7.KPA\n7.MPA\n7.GPA\n7.RAD\n10. OVER S\n17. SQUARED\n7.PS\n7.NS\n7.MU S\n8.S\n" ++
  "7.PV\n7.NV\n7.MU V\n8.V\n7.KV\n7.MV MEGA\n7.PW\n7.NW\n7.MU W\n8.W\n7.KW\n7.MW MEGA\n7.K OHM\n" ++
  "7.M OHM\n7.AM\n7.BQ\n7.CC\n8.D\n8. OVER KG\n8.O\n7.DB\n7.GY\n7.HA\n8.P\n7.IN\n7.KK\n8.M CAPITAL\n" ++
  "8.T\n7.LM\n8.N\n8.OG\n8.X\n7.MB SMALL\n8.IL\n8.OL\n7.PH\n8.M\n8.PM\n8.R\n7.SR\n8.V\n7.WB\n7.V OVER M\n" ++
  "7.A OVER M\n0.IDEOGRAPHIC TELEGRAPH SYMBOL FOR DAY ONE\n37.TWO\n38.HREE\n37.FOUR\n38.IVE\n37.SIX\n" ++
  "38.EVEN\n37.EIGHT\n37.NINE\n37.TEN\n37.ELEVEN\n37.TWELVE\n38.HIRTEEN\n37.FOURTEEN\n38.IFTEEN\n" ++
  "37.SIXTEEN\n38.EVENTEEN\n37.EIGHTEEN\n37.NINETEEN\n37.TWENTY\n43.-ONE\n44.TWO\n45.HREE\n44.FOUR\n" ++
  "45.IVE\n44.SIX\n45.EVEN\n44.EIGHT\n44.NINE\n38.HIRTY\n43.-ONE\n0.SQUARE GAL\n4DC0:0.HEXAGRAM FOR THE CREATIVE HEAVEN\n" ++
  "17.RECEPTIVE EARTH\n13.DIFFICULTY AT THE BEGINNING\n13.YOUTHFUL FOLLY\n13.WAITING\n13.CONFLICT\n" ++
  "13.THE ARMY\n13.HOLDING TOGETHER\n13.SMALL TAMING\n13.TREADING\n13.PEACE\n13.STANDSTILL\n13.FELLOWSHIP\n" ++
  "13.GREAT POSSESSION\n13.MODESTY\n13.ENTHUSIASM\n13.FOLLOWING\n13.WORK ON THE DECAYED\n13.APPROACH\n" ++
  "13.CONTEMPLATION\n13.BITING THROUGH\n13.GRACE\n13.SPLITTING APART\n13.RETURN\n13.INNOCENCE\n13.GREAT TAMING\n" ++
  "13.MOUTH CORNERS\n13.GREAT PREPONDERANCE\n13.THE ABYSMAL WATER\n17.CLINGING FIRE\n13.INFLUENCE\n" ++
  "13.DURATION\n13.RETREAT\n13.GREAT POWER\n13.PROGRESS\n13.DARKENING OF THE LIGHT\n13.THE FAMILY\n" ++
  "13.OPPOSITION\n14.BSTRUCTION\n13.DELIVERANCE\n15.CREASE\n13.INCREASE\n13.BREAKTHROUGH\n13.COMING TO MEET\n" ++
  "13.GATHERING TOGETHER\n13.PUSHING UPWARD\n13.OPPRESSION\n13.THE WELL\n13.REVOLUTION\n13.THE CAULDRON\n" ++
  "17.AROUSING THUNDER\n17.KEEPING STILL MOUNTAIN\n13.DEVELOPMENT\n13.THE MARRYING MAIDEN\n13.ABUNDANCE\n" ++
  "13.THE WANDERER\n17.GENTLE WIND\n17.JOYOUS LAKE\n13.DISPERSION\n13.LIMITATION\n13.INNER TRUTH\n" ++
  "13.SMALL PREPONDERANCE\n13.AFTER COMPLETION\n13.BEFORE COMPLETION\nA000:0.YI SYLLABLE IT\n13.X\n" ++
  "13.\n13.P\n13.ET\n14.X\n14.\n14.P\n12.AT\n13.X\n13.\n13.P\n12.UOX\n14.\n14.P\n12.OT\n13.X\n13.\n" ++
  "13.P\n12.EX\n13.\n12.WU\n12.BIT\n14.X\n14.\n14.P\n14.ET\n15.X\n15.\n15.P\n13.AT\n14.X\n14.\n14.P\n" ++
  "13.UOX\n15.\n15.P\n13.OT\n14.X\n14.\n14.P\n13.EX\n14.\n14.P\n13.UT\n14.X\n14.\n14.P\n14.RX\n15.\n" ++
  "13.YT\n14.X\n14.\n14.P\n14.RX\n15.\n12.PIT\n14.X\n14.\n14.P\n14.EX\n15.\n15.P\n13.AT\n14.X\n14.\n" ++
  "14.P\n13.UOX\n15.\n15.P\n13.OT\n14.X\n14.\n14.P\n13.UT\n14.X\n14.\n14.P\n14.RX\n15.\n13.YT\n14.X\n" ++
  "14.\n14.P\n14.RX\n15.\n12.BBIT\n15.X\n15.\n15.P\n15.ET\n16.X\n16.\n16.P\n14.AT\n15.X\n15.\n15.P\n" ++
  "14.UOX\n16.\n16.P\n14.OT\n15.X\n15.\n15.P\n14.EX\n15.\n15.P\n14.UT\n15.X\n15.\n15.P\n15.RX\n16.\n" ++
  "14.YT\n15.X\n15.\n15.P\n12.NBIT\n15.X\n15.\n15.P\n15.EX\n16.\n16.P\n14.AT\n15.X\n15.\n15.P\n14.OT\n" ++
  "15.X\n15.\n15.P\n14.UT\n15.X\n15.\n15.P\n15.RX\n16.\n14.YT\n15.X\n15.\n15.P\n15.RX\n16.\n12.HMIT\n" ++
  "15.X\n15.\n15.P\n15.EX\n16.\n16.P\n14.AT\n15.X\n15.\n15.P\n14.UOX\n16.\n16.P\n14.OT\n15.X\n15.\n" ++
  "15.P\n14.UT\n15.X\n15.\n15.P\n15.RX\n16.\n14.YX\n15.\n15.P\n15.RX\n16.\n12.MIT\n14.X\n14.\n14.P\n" ++
  "14.EX\n15.\n15.P\n13.AT\n14.X\n14.\n14.P\n13.UOT\n15.X\n15.\n15.P\n13.OT\n14.X\n14.\n14.P\n13.EX\n" ++
  "14.\n13.UT\n14.X\n14.\n14.P\n14.RX\n15.\n13.YT\n14.X\n14.\n14.P\n12.FIT\n14.X\n14.\n14.P\n13.AT\n" ++
  "14.X\n14.\n14.P\n13.OX\n14.\n14.P\n13.UT\n14.X\n14.\n14.P\n14.RX\n15.\n13.YT\n14.X\n14.\n14.P\n" ++
  "12.VIT\n14.X\n14.\n14.P\n14.ET\n15.X\n15.\n15.P\n13.AT\n14.X\n14.\n14.P\n13.OT\n14.X\n14.\n14.P\n" ++
  "13.EX\n14.P\n13.UT\n14.X\n14.\n14.P\n14.RX\n15.\n13.YT\n14.X\n14.\n14.P\n14.RX\n15.\n12.DIT\n" ++
  "14.X\n14.\n14.P\n14.EX\n15.\n15.P\n13.AT\n14.X\n14.\n14.P\n13.UOX\n15.\n13.OT\n14.X\n14.\n14.P\n" ++
  "13.EX\n14.\n14.P\n13.UT\n14.X\n14.\n14.P\n14.RX\n15.\n12.TIT\n14.X\n14.\n14.P\n14.EX\n15.\n15.P\n" ++
  "13.AT\n14.X\n14.\n14.P\n13.UOT\n15.X\n15.\n15.P\n13.OT\n14.X\n14.\n14.P\n13.EX\n14.\n14.P\n13.UT\n" ++
  "14.X\n14.\n14.P\n14.RX\n15.\n12.DDIT\n15.X\n15.\n15.P\n15.EX\n16.\n16.P\n14.AT\n15.X\n15.\n15.P\n" ++
  "14.UOX\n16.\n16.P\n14.OT\n15.X\n15.\n15.P\n14.EX\n15.\n15.P\n14.UT\n15.X\n15.\n15.P\n15.RX\n16.\n" ++
  "12.NDIT\n15.X\n15.\n15.P\n15.EX\n16.\n14.AT\n15.X\n15.\n15.P\n14.OT\n15.X\n15.\n15.P\n14.EX\n" ++
  "15.\n15.P\n14.UT\n15.X\n15.\n15.P\n15.RX\n16.\n12.HNIT\n15.X\n15.\n15.P\n15.ET\n16.X\n16.\n16.P\n" ++
  "14.AT\n15.X\n15.\n15.P\n14.UOX\n16.\n14.OT\n15.X\n15.P\n14.EX\n15.\n15.P\n14.UT\n12.NIT\n14.X\n" ++
  "14.\n14.P\n14.EX\n15.\n15.P\n13.AX\n14.\n14.P\n13.UOX\n15.\n15.P\n13.OT\n14.X\n14.\n14.P\n13.EX\n" ++
  "14.\n14.P\n13.UT\n14.X\n14.\n14.P\n14.RX\n15.\n12.HLIT\n15.X\n15.\n15.P\n15.EX\n16.\n16.P\n14.AT\n" ++
  "15.X\n15.\n15.P\n14.UOX\n16.\n16.P\n14.OX\n15.\n15.P\n14.EX\n15.\n15.P\n14.UT\n15.X\n15.\n15.P\n" ++
  "15.RX\n16.\n14.YT\n15.X\n15.\n15.P\n15.RX\n16.\n12.LIT\n14.X\n14.\n14.P\n14.ET\n15.X\n15.\n15.P\n" ++
  "13.AT\n14.X\n14.\n14.P\n13.UOT\n15.X\n15.\n15.P\n13.OT\n14.X\n14.\n14.P\n13.EX\n14.\n14.P\n13.UT\n" ++
  "14.X\n14.\n14.P\n14.RX\n15.\n13.YT\n14.X\n14.\n14.P\n14.RX\n15.\n12.GIT\n14.X\n14.\n14.P\n14.ET\n" ++
  "15.X\n15.\n15.P\n13.AT\n14.X\n14.\n14.P\n13.UOT\n15.X\n15.\n15.P\n13.OT\n14.X\n14.\n14.P\n13.ET\n" ++
  "14.X\n14.\n14.P\n13.UT\n14.X\n14.\n14.P\n14.RX\n15.\n12.KIT\n14.X\n14.\n14.P\n14.EX\n15.\n15.P\n" ++
  "13.AT\n14.X\n14.\n14.P\n13.UOX\n15.\n15.P\n13.OT\n14.X\n14.\n14.P\n13.ET\n14.X\n14.\n14.P\n13.UT\n" ++
  "14.X\n14.\n14.P\n14.RX\n15.\n12.GGIT\n15.X\n15.\n15.EX\n16.\n16.P\n14.AT\n15.X\n15.\n15.P\n14.UOT\n" ++
  "16.X\n16.\n16.P\n14.OT\n15.X\n15.\n15.P\n14.ET\n15.X\n15.\n15.P\n14.UT\n15.X\n15.\n15.P\n15.RX\n" ++
  "16.\n12.MGIEX\n16.\n14.AT\n15.X\n15.\n15.P\n14.UOX\n16.\n16.P\n14.OT\n15.X\n15.\n15.P\n14.EX\n" ++
  "15.\n15.P\n14.UT\n15.X\n15.\n15.P\n15.RX\n16.\n12.HXIT\n15.X\n15.\n15.P\n15.ET\n16.X\n16.\n16.P\n" ++
  "14.AT\n15.X\n15.\n15.P\n14.UOT\n16.X\n16.\n16.P\n14.OT\n15.X\n15.\n15.P\n14.EX\n15.\n15.P\n12.NGIEX\n" ++
  "16.\n16.P\n14.AT\n15.X\n15.\n15.P\n14.UOT\n16.X\n16.\n14.OT\n15.X\n15.\n15.P\n14.EX\n15.\n15.P\n" ++
  "12.HIT\n14.EX\n15.\n13.AT\n14.X\n14.\n14.P\n13.UOT\n15.X\n15.\n15.P\n13.OT\n14.X\n14.\n14.P\n" ++
  "13.EX\n14.\n14.P\n12.WAT\n14.X\n14.\n14.P\n13.UOX\n15.\n15.P\n13.OX\n14.\n14.P\n13.EX\n14.\n14.P\n" ++
  "12.ZIT\n14.X\n14.\n14.P\n14.EX\n15.\n15.P\n13.AT\n14.X\n14.\n14.P\n13.UOX\n15.\n15.P\n13.OT\n" ++
  "14.X\n14.\n14.P\n13.EX\n14.\n14.P\n13.UT\n14.X\n14.\n14.P\n14.RX\n15.\n13.YT\n14.X\n14.\n14.P\n" ++
  "14.RX\n15.\n12.CIT\n14.X\n14.\n14.P\n14.ET\n15.X\n15.\n15.P\n13.AT\n14.X\n14.\n14.P\n13.UOX\n" ++
  "15.\n15.P\n13.OT\n14.X\n14.\n14.P\n13.EX\n14.\n14.P\n13.UT\n14.X\n14.\n14.P\n14.RX\n15.\n13.YT\n" ++
  "14.X\n14.\n14.P\n14.RX\n15.\n12.ZZIT\n15.X\n15.\n15.P\n15.ET\n16.X\n16.\n16.P\n14.AT\n15.X\n15.\n" ++
  "15.P\n14.OX\n15.\n15.P\n14.EX\n15.\n15.P\n14.UX\n15.\n15.P\n15.RX\n16.\n14.YT\n15.X\n15.\n15.P\n" ++
  "15.RX\n16.\n12.NZIT\n15.X\n15.\n15.P\n15.EX\n16.\n16.P\n14.AT\n15.X\n15.\n15.P\n14.UOX\n16.\n" ++
  "14.OX\n15.P\n14.EX\n15.\n14.UX\n15.\n15.P\n15.RX\n16.\n14.YT\n15.X\n15.\n15.P\n15.RX\n16.\n12.SIT\n" ++
  "14.X\n14.\n14.P\n14.EX\n15.\n15.P\n13.AT\n14.X\n14.\n14.P\n13.UOX\n15.\n15.P\n13.OT\n14.X\n14.\n" ++
  "14.P\n13.EX\n14.\n14.P\n13.UT\n14.X\n14.\n14.P\n14.RX\n15.\n13.YT\n14.X\n14.\n14.P\n14.RX\n15.\n" ++
  "13.SIT\n15.X\n15.\n15.P\n15.EX\n16.\n16.P\n14.AT\n15.X\n15.\n15.P\n14.OT\n15.X\n15.\n15.P\n14.EX\n" ++
  "15.\n15.P\n14.UT\n15.X\n15.\n15.P\n14.YT\n15.X\n15.\n15.P\n15.RX\n16.\n12.ZHAT\n15.X\n15.\n15.P\n" ++
  "14.UOX\n16.\n16.P\n14.OT\n15.X\n15.\n15.P\n14.ET\n15.X\n15.\n15.P\n14.UT\n15.X\n15.\n15.P\n15.RX\n" ++
  "16.\n14.YT\n15.X\n15.\n15.P\n15.RX\n16.\n12.CHAT\n15.X\n15.\n15.P\n14.UOT\n16.X\n16.\n16.P\n14.OT\n" ++
  "15.X\n15.\n15.P\n14.ET\n15.X\n15.\n15.P\n14.UX\n15.\n15.P\n15.RX\n16.\n14.YT\n15.X\n15.\n15.P\n" ++
  "15.RX\n16.\n12.RRAX\n15.\n14.UOX\n16.\n14.OT\n15.X\n15.\n15.P\n14.ET\n15.X\n15.\n15.P\n14.UT\n" ++
  "15.X\n15.\n15.P\n15.RX\n16.\n14.YT\n15.X\n15.\n15.P\n15.RX\n16.\n12.NRAT\n15.X\n15.\n15.P\n14.OX\n" ++
  "15.\n15.P\n14.ET\n15.X\n15.\n15.P\n14.UT\n15.X\n15.\n15.P\n15.RX\n16.\n14.YT\n15.X\n15.\n15.P\n" ++
  "15.RX\n16.\n12.SHAT\n15.X\n15.\n15.P\n14.UOX\n16.\n16.P\n14.OT\n15.X\n15.\n15.P\n14.ET\n15.X\n" ++
  "15.\n15.P\n14.UT\n15.X\n15.\n15.P\n15.RX\n16.\n14.YT\n15.X\n15.\n15.P\n15.RX\n16.\n12.RAT\n14.X\n" ++
  "14.\n14.P\n13.UOX\n15.\n15.P\n13.OT\n14.X\n14.\n14.P\n13.EX\n14.\n14.P\n13.UT\n14.X\n14.\n14.P\n" ++
  "14.RX\n15.\n13.YT\n14.X\n14.\n14.P\n14.RX\n15.\n12.JIT\n14.X\n14.\n14.P\n14.ET\n15.X\n15.\n15.P\n" ++
  "13.UOT\n15.X\n15.\n15.P\n13.OT\n14.X\n14.\n14.P\n13.UT\n14.X\n14.\n14.P\n14.RX\n15.\n13.YT\n14.X\n" ++
  "14.\n14.P\n14.RX\n15.\n12.QIT\n14.X\n14.\n14.P\n14.ET\n15.X\n15.\n15.P\n13.UOT\n15.X\n15.\n15.P\n" ++
  "13.OT\n14.X\n14.\n14.P\n13.UT\n14.X\n14.\n14.P\n14.RX\n15.\n13.YT\n14.X\n14.\n14.P\n14.RX\n15.\n" ++
  "12.JJIT\n15.X\n15.\n15.P\n15.ET\n16.X\n16.\n16.P\n14.UOX\n16.\n16.P\n14.OT\n15.X\n15.\n15.P\n" ++
  "14.UT\n15.X\n15.\n15.P\n15.RX\n16.\n14.YT\n15.X\n15.\n15.P\n12.NJIT\n15.X\n15.\n15.P\n15.ET\n" ++
  "16.X\n16.\n16.P\n14.UOX\n16.\n14.OT\n15.X\n15.\n15.P\n14.UX\n15.\n15.P\n15.RX\n16.\n14.YT\n15.X\n" ++
  "15.\n15.P\n15.RX\n16.\n13.YIT\n15.X\n15.\n15.P\n15.ET\n16.X\n16.\n16.P\n14.UOX\n16.\n16.P\n14.OT\n" ++
  "15.X\n15.\n15.P\n14.UT\n15.X\n15.\n15.P\n12.XIT\n14.X\n14.\n14.P\n14.ET\n15.X\n15.\n15.P\n13.UOX\n" ++
  "15.\n13.OT\n14.X\n14.\n14.P\n13.YT\n14.X\n14.\n14.P\n14.RX\n15.\n12.YIT\n14.X\n14.\n14.P\n14.ET\n" ++
  "15.X\n15.\n15.P\n13.UOT\n15.X\n15.\n15.P\n13.OT\n14.X\n14.\n14.P\n13.UT\n14.X\n14.\n14.P\n14.RX\n" ++
  "15.\n13.YT\n14.X\n14.\n14.P\n14.RX\n15.\nA490:3.RADICAL QOT\n11.LI\n11.KIT\n11.NYIP\n11.CYP\n" ++
  "11.SSI\n11.GGOP\n12.EP\n11.MI\n11.HXIT\n11.LYR\n11.BBUT\n11.MOP\n11.YO\n11.PUT\n11.HXUO\n11.TAT\n" ++
  "11.GA\n11.ZUP\n11.CYT\n11.DDUR\n11.BUR\n11.GGUO\n11.NYOP\n11.TU\n11.OP\n11.JJUT\n11.ZOT\n11.PYT\n" ++
  "11.HMO\n11.YIT\n11.VUR\n11.SHY\n11.VEP\n11.ZA\n11.JO\n11.NZUP\n11.JJY\n11.GOT\n11.JJIE\n11.WO\n" ++
  "11.DU\n11.SHUR\n11.LIE\n11.CY\n12.UOP\n12.IP\n11.HXOP\n11.SHAT\n11.ZUR\n11.SHOP\n11.CHE\n11.ZZIET\n" ++
  "11.NBIE\n11.KE\nA4D0:0.LISU LETTER BA\n12.PA\n13.HA\n12.DA\n12.TA\n13.HA\n12.GA\n12.KA\n13.HA\n" ++
  "12.JA\n12.CA\n13.HA\n12.DZA\n12.TSA\n14.HA\n12.MA\n12.NA\n12.LA\n12.SA\n12.ZHA\n13.A\n12.NGA\n" ++
  "12.HA\n12.XA\n12.HHA\n12.FA\n12.WA\n12.SHA\n12.YA\n12.GHA\n12.A\n13.E\n12.E\n13.U\n12.I\n12.O\n" ++
  "12.U\n13.E\n13.H\n12.OE\n12.TONE MYA TI\n17.NA PO\n17.MYA CYA\n21.BO\n21.NA\n21.JEU\n5.PUNCTUATION COMMA\n"

/-- Part 6 of `nameLines`. -/
def nameLinesPart6 : String :=
  "17.FULL STOP\n0.VAI SYLLABLE EE\n15.N\n13.HEE\n13.WEE\n16.N\n13.PEE\n13.BHEE\n14.EE\n13.MBEE\n" ++
  "13.KPEE\n13.MGBEE\n13.GBEE\n13.FEE\n13.VEE\n13.TEE\n14.HEE\n13.DHEE\n15.HEE\n13.LEE\n13.REE\n" ++
  "13.DEE\n13.NDEE\n13.SEE\n14.HEE\n13.ZEE\n14.HEE\n13.CEE\n13.JEE\n13.NJEE\n13.YEE\n13.KEE\n13.NGGEE\n" ++
  "13.GEE\n13.MEE\n13.NEE\n14.YEE\n13.I\n14.N\n13.HI\n15.N\n13.WI\n15.N\n13.PI\n13.BHI\n14.I\n13.MBI\n" ++
  "13.KPI\n13.MGBI\n13.GBI\n13.FI\n13.VI\n13.TI\n14.HI\n13.DHI\n15.HI\n13.LI\n13.RI\n13.DI\n13.NDI\n" ++
  "13.SI\n14.HI\n13.ZI\n14.HI\n13.CI\n13.JI\n13.NJI\n13.YI\n13.KI\n13.NGGI\n13.GI\n13.MI\n13.NI\n" ++
  "14.YI\n13.A\n14.N\n13.NGAN\n13.HA\n15.N\n13.WA\n15.N\n13.PA\n13.BHA\n14.A\n13.MBA\n13.KPA\n16.N\n" ++
  "13.MGBA\n13.GBA\n13.FA\n13.VA\n13.TA\n14.HA\n13.DHA\n15.HA\n13.LA\n13.RA\n13.DA\n13.NDA\n13.SA\n" ++
  "14.HA\n13.ZA\n14.HA\n13.CA\n13.JA\n13.NJA\n13.YA\n13.KA\n15.N\n13.NGGA\n13.GA\n13.MA\n13.NA\n" ++
  "14.YA\n13.OO\n15.N\n13.HOO\n13.WOO\n16.N\n13.POO\n13.BHOO\n14.OO\n13.MBOO\n13.KPOO\n13.MGBOO\n" ++
  "13.GBOO\n13.FOO\n13.VOO\n13.TOO\n14.HOO\n13.DHOO\n15.HOO\n13.LOO\n13.ROO\n13.DOO\n13.NDOO\n13.SOO\n" ++
  "14.HOO\n13.ZOO\n14.HOO\n13.COO\n13.JOO\n13.NJOO\n13.YOO\n13.KOO\n13.NGGOO\n13.GOO\n13.MOO\n13.NOO\n" ++
  "14.YOO\n13.U\n14.N\n13.HU\n15.N\n13.WU\n15.N\n13.PU\n13.BHU\n14.U\n13.MBU\n13.KPU\n13.MGBU\n13.GBU\n" ++
  "13.FU\n13.VU\n13.TU\n14.HU\n13.DHU\n15.HU\n13.LU\n13.RU\n13.DU\n13.NDU\n13.SU\n14.HU\n13.ZU\n" ++
  "14.HU\n13.CU\n13.JU\n13.NJU\n13.YU\n13.KU\n13.NGGU\n13.GU\n13.MU\n13.NU\n14.YU\n13.O\n14.N\n13.NGON\n" ++
  "13.HO\n15.N\n13.WO\n15.N\n13.PO\n13.BHO\n14.O\n13.MBO\n13.KPO\n13.MGBO\n13.GBO\n16.N\n13.FO\n" ++
  "13.VO\n13.TO\n14.HO\n13.DHO\n15.HO\n13.LO\n13.RO\n13.DO\n13.NDO\n13.SO\n14.HO\n13.ZO\n14.HO\n" ++
  "13.CO\n13.JO\n13.NJO\n13.YO\n13.KO\n13.NGGO\n13.GO\n13.MO\n13.NO\n14.YO\n13.E\n14.N\n13.NGEN\n" ++
  "13.HE\n15.N\n13.WE\n15.N\n13.PE\n13.BHE\n14.E\n13.MBE\n13.KPE\n16.N\n13.MGBE\n13.GBE\n16.N\n13.FE\n" ++
  "13.VE\n13.TE\n14.HE\n13.DHE\n15.HE\n13.LE\n13.RE\n13.DE\n13.NDE\n13.SE\n14.HE\n13.ZE\n14.HE\n" ++
  "13.CE\n13.JE\n13.NJE\n13.YE\n13.KE\n13.NGGE\n17.N\n13.GE\n15.N\n13.ME\n13.NE\n14.YE\n14.G\n13.LENGTHENER\n" ++
  "4.COMMA\n4.FULL STOP\n4.QUESTION MARK\n4.SYLLABLE NDOLE FA\n19.KA\n19.SOO\n6.MBOL FEENG\n11.KEENG\n" ++
  "11.TING\n11.NII\n11.BANG\n11.FAA\n11.TAA\n11.DANG\n12.OONG\n11.KUNG\n11.TONG\n11.DO-O\n11.JONG\n" ++
  "4.DIGIT ZERO\n10.ONE\n10.TWO\n11.HREE\n10.FOUR\n11.IVE\n10.SIX\n11.EVEN\n10.EIGHT\n10.NINE\n4.SYLLABLE NDOLE MA\n" ++
  "19.DO\nA640:0.CYRILLIC CAPITAL LETTER ZEMLYA\n9.SMALL LETTER ZEMLYA\n9.CAPITAL LETTER DZELO\n" ++
  "9.SMALL LETTER DZELO\n9.CAPITAL LETTER REVERSED DZE\n9.SMALL LETTER REVERSED DZE\n9.CAPITAL LETTER IOTA\n" ++
  "9.SMALL LETTER IOTA\n9.CAPITAL LETTER DJERV\n9.SMALL LETTER DJERV\n9.CAPITAL LETTER MONOGRAPH UK\n" ++
  "9.SMALL LETTER MONOGRAPH UK\n9.CAPITAL LETTER BROAD OMEGA\n9.SMALL LETTER BROAD OMEGA\n9.CAPITAL LETTER NEUTRAL YER\n" ++
  "9.SMALL LETTER NEUTRAL YER\n9.CAPITAL LETTER YERU WITH BACK YER\n9.SMALL LETTER YERU WITH BACK YER\n" ++
  "9.CAPITAL LETTER IOTIFIED YAT\n9.SMALL LETTER IOTIFIED YAT\n9.CAPITAL LETTER REVERSED YU\n9.SMALL LETTER REVERSED YU\n" ++
  "9.CAPITAL LETTER IOTIFIED A\n9.SMALL LETTER IOTIFIED A\n9.CAPITAL LETTER CLOSED LITTLE YUS\n9.SMALL LETTER CLOSED LITTLE YUS\n" ++
  "9.CAPITAL LETTER BLENDED YUS\n9.SMALL LETTER BLENDED YUS\n9.CAPITAL LETTER IOTIFIED CLOSED LITTLE YUS\n" ++
  "9.SMALL LETTER IOTIFIED CLOSED LITTLE YUS\n9.CAPITAL LETTER YN\n9.SMALL LETTER YN\n9.CAPITAL LETTER REVERSED TSE\n" ++
  "9.SMALL LETTER REVERSED TSE\n9.CAPITAL LETTER SOFT DE\n9.SMALL LETTER SOFT DE\n9.CAPITAL LETTER SOFT EL\n" ++
  "9.SMALL LETTER SOFT EL\n9.CAPITAL LETTER SOFT EM\n9.SMALL LETTER SOFT EM\n9.CAPITAL LETTER MONOCULAR O\n" ++
  "9.SMALL LETTER MONOCULAR O\n9.CAPITAL LETTER BINOCULAR O\n9.SMALL LETTER BINOCULAR O\n9.CAPITAL LETTER DOUBLE MONOCULAR O\n" ++
  "9.SMALL LETTER DOUBLE MONOCULAR O\n9.LETTER MULTIOCULAR O\n1.OMBINING CYRILLIC VZMET\n19.TEN MILLIONS SIGN\n" ++
  "19.HUNDRED MILLIONS SIGN\n19.THOUSAND MILLIONS SIGN\n0.SLAVONIC ASTERISK\n0.COMBINING CYRILLIC LETTER UKRAINIAN IE\n" ++
  "26.I\n26.YI\n26.U\n26.HARD SIGN\n26.YERU\n26.SOFT SIGN\n26.OMEGA\n19.KAVYKA\n19.PAYEROK\n1.YRILLIC KAVYKA\n" ++
  "9.PAYEROK\n9.CAPITAL LETTER DWE\n9.SMALL LETTER DWE\n9.CAPITAL LETTER DZWE\n9.SMALL LETTER DZWE\n" ++
  "9.CAPITAL LETTER ZHWE\n9.SMALL LETTER ZHWE\n9.CAPITAL LETTER CCHE\n9.SMALL LETTER CCHE\n9.CAPITAL LETTER DZZE\n" ++
  "9.SMALL LETTER DZZE\n9.CAPITAL LETTER TE WITH MIDDLE HOOK\n9.SMALL LETTER TE WITH MIDDLE HOOK\n" ++
  "9.CAPITAL LETTER TWE\n9.SMALL LETTER TWE\n9.CAPITAL LETTER TSWE\n9.SMALL LETTER TSWE\n9.CAPITAL LETTER TSSE\n" ++
  "9.SMALL LETTER TSSE\n9.CAPITAL LETTER TCHE\n9.SMALL LETTER TCHE\n9.CAPITAL LETTER HWE\n9.SMALL LETTER HWE\n" ++
  "9.CAPITAL LETTER SHWE\n9.SMALL LETTER SHWE\n9.CAPITAL LETTER DOUBLE O\n9.SMALL LETTER DOUBLE O\n" ++
  "9.CAPITAL LETTER CROSSED O\n9.SMALL LETTER CROSSED O\n0.MODIFIER LETTER CYRILLIC HARD SIGN\n25.SOFT SIGN\n" ++
  "0.COMBINING CYRILLIC LETTER EF\n26.IOTIFIED E\n0.BAMUM LETTER A\n13.KA\n13.U\n13.KU\n13.EE\n13.REE\n" ++
  "13.TAE\n13.O\n13.NYI\n13.I\n13.LA\n13.PA\n13.RII\n15.EE\n13.LEEEE\n13.MEEEE\n13.TAA\n13.NDAA\n" ++
  "14.JAEM\n13.M\n13.SUU\n13.MU\n13.SHII\n14.I\n14.HEUX\n14.EUX\n13.KYEE\n14.ET\n13.NUAE\n15.\n14.JUAE\n" ++
  "13.YOQ\n13.SHU\n13.YUQ\n14.A\n13.NSHA\n13.KEUX\n13.PEUX\n13.NJEE\n14.TEE\n13.PUE\n13.WUE\n13.PEE\n" ++
  "13.FEE\n13.RU\n13.LU\n13.MI\n13.NI\n13.REUX\n14.AE\n13.KEN\n13.NGKWAEN\n15.GA\n15.A\n13.SHO\n" ++
  "13.PUAE\n13.FU\n14.OM\n13.WA\n13.NA\n13.LI\n13.PI\n13.LOQ\n13.KO\n13.MBEN\n13.REN\n13.MEN\n14.A\n" ++
  "13.TI\n13.KI\n13.MO\n14.BAA\n13.TET\n13.KPA\n13.TEN\n13.NTUU\n13.SAMBA\n13.FAAMAE\n13.KOVUU\n" ++
  "15.GHOM\n6.COMBINING MARK KOQNDON\n21.TUKWENTIS\n6.NJAEMLI\n6.FULL STOP\n6.COLON\n8.MMA\n6.SEMICOLON\n" ++
  "6.QUESTION MARK\nA700:0.MODIFIER LETTER CHINESE TONE YIN PING\n30.ANG PING\n30.IN SHANG\n30.ANG SHANG\n" ++
  "30.IN QU\n30.ANG QU\n30.IN RU\n30.ANG RU\n16.EXTRA-HIGH DOTTED TONE BAR\n16.HIGH DOTTED TONE BAR\n" ++
  "16.MID DOTTED TONE BAR\n16.LOW DOTTED TONE BAR\n16.EXTRA-LOW DOTTED TONE BAR\n22.HIGH DOTTED LEFT-STEM TONE BAR\n" ++
  "16.HIGH DOTTED LEFT-STEM TONE BAR\n16.MID DOTTED LEFT-STEM TONE BAR\n16.LOW DOTTED LEFT-STEM TONE BAR\n" ++
  "16.EXTRA-LOW DOTTED LEFT-STEM TONE BAR\n22.HIGH LEFT-STEM TONE BAR\n16.HIGH LEFT-STEM TONE BAR\n" ++
  "16.MID LEFT-STEM TONE BAR\n16.LOW LEFT-STEM TONE BAR\n16.EXTRA-LOW LEFT-STEM TONE BAR\n16.DOT VERTICAL BAR\n" ++
  "20.SLASH\n20.HORIZONTAL BAR\n16.LOWER RIGHT CORNER ANGLE\n16.RAISED UP ARROW\n23.DOWN ARROW\n" ++
  "23.EXCLAMATION MARK\n23.INVERTED EXCLAMATION MARK\n16.LOW INVERTED EXCLAMATION MARK\n16.STRESS AND HIGH TONE\n" ++
  "27.LOW TONE\n0.LATIN CAPITAL LETTER EGYPTOLOGICAL ALEF\n6.SMALL LETTER EGYPTOLOGICAL ALEF\n6.CAPITAL LETTER EGYPTOLOGICAL AIN\n" ++
  "6.SMALL LETTER EGYPTOLOGICAL AIN\n6.CAPITAL LETTER HENG\n6.SMALL LETTER HENG\n6.CAPITAL LETTER TZ\n" ++
  "6.SMALL LETTER TZ\n6.CAPITAL LETTER TRESILLO\n6.SMALL LETTER TRESILLO\n6.CAPITAL LETTER CUATRILLO\n" ++
  "6.SMALL LETTER CUATRILLO\n6.CAPITAL LETTER CUATRILLO WITH COMMA\n6.SMALL LETTER CUATRILLO WITH COMMA\n" ++
  "6.LETTER SMALL CAPITAL F\n27.S\n6.CAPITAL LETTER AA\n6.SMALL LETTER AA\n6.CAPITAL LETTER AO\n" ++
  "6.SMALL LETTER AO\n6.CAPITAL LETTER AU\n6.SMALL LETTER AU\n6.CAPITAL LETTER AV\n6.SMALL LETTER AV\n" ++
  "6.CAPITAL LETTER AV WITH HORIZONTAL BAR\n6.SMALL LETTER AV WITH HORIZONTAL BAR\n6.CAPITAL LETTER AY\n" ++
  "6.SMALL LETTER AY\n6.CAPITAL LETTER REVERSED C WITH DOT\n6.SMALL LETTER REVERSED C WITH DOT\n" ++
  "6.CAPITAL LETTER K WITH STROKE\n6.SMALL LETTER K WITH STROKE\n6.CAPITAL LETTER K WITH DIAGONAL STROKE\n" ++
  "6.SMALL LETTER K WITH DIAGONAL STROKE\n6.CAPITAL LETTER K WITH STROKE AND DIAGONAL STROKE\n6.SMALL LETTER K WITH STROKE AND DIAGONAL STROKE\n" ++
  "6.CAPITAL LETTER BROKEN L\n6.SMALL LETTER BROKEN L\n6.CAPITAL LETTER L WITH HIGH STROKE\n6.SMALL LETTER L WITH HIGH STROKE\n" ++
  "6.CAPITAL LETTER O WITH LONG STROKE OVERLAY\n6.SMALL LETTER O WITH LONG STROKE OVERLAY\n6.CAPITAL LETTER O WITH LOOP\n" ++
  "6.SMALL LETTER O WITH LOOP\n6.CAPITAL LETTER OO\n6.SMALL LETTER OO\n6.CAPITAL LETTER P WITH STROKE THROUGH DESCENDER\n" ++
  "6.SMALL LETTER P WITH STROKE THROUGH DESCENDER\n6.CAPITAL LETTER P WITH FLOURISH\n6.SMALL LETTER P WITH FLOURISH\n" ++
  "6.CAPITAL LETTER P WITH SQUIRREL TAIL\n6.SMALL LETTER P WITH SQUIRREL TAIL\n6.CAPITAL LETTER Q WITH STROKE THROUGH DESCENDER\n" ++
  "6.SMALL LETTER Q WITH STROKE THROUGH DESCENDER\n6.CAPITAL LETTER Q WITH DIAGONAL STROKE\n6.SMALL LETTER Q WITH DIAGONAL STROKE\n" ++
  "6.CAPITAL LETTER R ROTUNDA\n6.SMALL LETTER R ROTUNDA\n6.CAPITAL LETTER RUM ROTUNDA\n6.SMALL LETTER RUM ROTUNDA\n" ++
  "6.CAPITAL LETTER V WITH DIAGONAL STROKE\n6.SMALL LETTER V WITH DIAGONAL STROKE\n6.CAPITAL LETTER VY\n" ++
  "6.SMALL LETTER VY\n6.CAPITAL LETTER VISIGOTHIC Z\n6.SMALL LETTER VISIGOTHIC Z\n6.CAPITAL LETTER THORN WITH STROKE\n" ++
  "6.SMALL LETTER THORN WITH STROKE\n6.CAPITAL LETTER THORN WITH STROKE THROUGH DESCENDER\n6.SMALL LETTER THORN WITH STROKE THROUGH DESCENDER\n" ++
  "6.CAPITAL LETTER VEND\n6.SMALL LETTER VEND\n6.CAPITAL LETTER ET\n6.SMALL LETTER ET\n6.CAPITAL LETTER IS\n" ++
  "6.SMALL LETTER IS\n6.CAPITAL LETTER CON\n6.SMALL LETTER CON\n0.MODIFIER LETTER US\n0.LATIN SMALL LETTER DUM\n" ++
  "19.LUM\n19.MUM\n19.NUM\n19.RUM\n6.LETTER SMALL CAPITAL RUM\n6.SMALL LETTER TUM\n19.UM\n6.CAPITAL LETTER INSULAR D\n" ++
  "6.SMALL LETTER INSULAR D\n6.CAPITAL LETTER INSULAR F\n6.SMALL LETTER INSULAR F\n6.CAPITAL LETTER INSULAR G\n" ++
  "21.TURNED INSULAR G\n6.SMALL LETTER TURNED INSULAR G\n6.CAPITAL LETTER TURNED L\n6.SMALL LETTER TURNED L\n" ++
  "6.CAPITAL LETTER INSULAR R\n6.SMALL LETTER INSULAR R\n6.CAPITAL LETTER INSULAR S\n6.SMALL LETTER INSULAR S\n" ++
  "6.CAPITAL LETTER INSULAR T\n6.SMALL LETTER INSULAR T\n0.MODIFIER LETTER LOW CIRCUMFLEX ACCENT\n" ++
  "16.COLON\n16.SHORT EQUALS SIGN\n0.LATIN CAPITAL LETTER SALTILLO\n6.SMALL LETTER SALTILLO\n6.CAPITAL LETTER TURNED H\n" ++
  "6.SMALL LETTER L WITH RETROFLEX HOOK AND BELT\n6.LETTER SINOLOGICAL DOT\n6.CAPITAL LETTER N WITH DESCENDER\n" ++
  "6.SMALL LETTER N WITH DESCENDER\n6.CAPITAL LETTER C WITH BAR\n6.SMALL LETTER C WITH BAR\n26.PALATAL HOOK\n" ++
  "19.H WITH PALATAL HOOK\n6.CAPITAL LETTER B WITH FLOURISH\n6.SMALL LETTER B WITH FLOURISH\n6.CAPITAL LETTER F WITH STROKE\n" ++
  "6.SMALL LETTER F WITH STROKE\n6.CAPITAL LETTER VOLAPUK AE\n6.SMALL LETTER VOLAPUK AE\n6.CAPITAL LETTER VOLAPUK OE\n" ++
  "6.SMALL LETTER VOLAPUK OE\n6.CAPITAL LETTER VOLAPUK UE\n6.SMALL LETTER VOLAPUK UE\n6.CAPITAL LETTER G WITH OBLIQUE STROKE\n" ++
  "6.SMALL LETTER G WITH OBLIQUE STROKE\n6.CAPITAL LETTER K WITH OBLIQUE STROKE\n6.SMALL LETTER K WITH OBLIQUE STROKE\n" ++
  "6.CAPITAL LETTER N WITH OBLIQUE STROKE\n6.SMALL LETTER N WITH OBLIQUE STROKE\n6.CAPITAL LETTER R WITH OBLIQUE STROKE\n" ++
  "6.SMALL LETTER R WITH OBLIQUE STROKE\n6.CAPITAL LETTER S WITH OBLIQUE STROKE\n6.SMALL LETTER S WITH OBLIQUE STROKE\n" ++
  "6.CAPITAL LETTER H WITH HOOK\n21.REVERSED OPEN E\n21.SCRIPT G\n21.L WITH BELT\n21.SMALL CAPITAL I\n" ++
  "6.LETTER SMALL CAPITAL Q\n6.CAPITAL LETTER TURNED K\n28.T\n21.J WITH CROSSED-TAIL\n21.CHI\n21.BETA\n" ++
  "6.SMALL LETTER BETA\n6.CAPITAL LETTER OMEGA\n6.SMALL LETTER OMEGA\n6.CAPITAL LETTER U WITH STROKE\n" ++
  "6.SMALL LETTER U WITH STROKE\n6.CAPITAL LETTER GLOTTAL A\n6.SMALL LETTER GLOTTAL A\n6.CAPITAL LETTER GLOTTAL I\n" ++
  "6.SMALL LETTER GLOTTAL I\n6.CAPITAL LETTER GLOTTAL U\n6.SMALL LETTER GLOTTAL U\n6.CAPITAL LETTER OLD POLISH O\n" ++
  "6.SMALL LETTER OLD POLISH O\n6.CAPITAL LETTER ANGLICANA W\n6.SMALL LETTER ANGLICANA W\n6.CAPITAL LETTER C WITH PALATAL HOOK\n" ++
  "21.S WITH HOOK\n21.Z WITH PALATAL HOOK\n21.D WITH SHORT STROKE OVERLAY\n6.SMALL LETTER D WITH SHORT STROKE OVERLAY\n" ++
  "6.CAPITAL LETTER S WITH SHORT STROKE OVERLAY\n6.SMALL LETTER S WITH SHORT STROKE OVERLAY\nA7D0:6.CAPITAL LETTER CLOSED INSULAR G\n" ++
  "6.SMALL LETTER CLOSED INSULAR G\nA7D3:19.DOUBLE THORN\nA7D5:26.WYNN\n6.CAPITAL LETTER MIDDLE SCOTS S\n" ++
  "6.SMALL LETTER MIDDLE SCOTS S\n6.CAPITAL LETTER SIGMOID S\n6.SMALL LETTER SIGMOID S\nA7F2:0.MODIFIER LETTER CAPITAL C\n" ++
  "24.F\n24.Q\n0.LATIN CAPITAL LETTER REVERSED HALF H\n6.SMALL LETTER REVERSED HALF H\n6.EPIGRAPHIC LETTER SIDEWAYS I\n" ++
  "0.MODIFIER LETTER CAPITAL H WITH STROKE\n16.SMALL LIGATURE OE\n0.LATIN LETTER SMALL CAPITAL TURNED M\n" ++
  "6.EPIGRAPHIC LETTER REVERSED F\n33.P\n24.INVERTED M\n25. LONGA\n24.ARCHAIC M\n0.SYLOTI NAGRI LETTER A\n" ++
  "20.I\n13.SIGN DVISVARA\n13.LETTER U\n20.E\n20.O\n13.SIGN HASANTA\n13.LETTER KO\n21.HO\n20.GO\n" ++
  "21.HO\n13.SIGN ANUSVARA\n13.LETTER CO\n21.HO\n20.JO\n21.HO\n20.TTO\n22.HO\n20.DDO\n22.HO\n20.TO\n" ++
  "21.HO\n20.DO\n21.HO\n20.NO\n20.PO\n21.HO\n20.BO\n21.HO\n20.MO\n20.RO\n20.LO\n20.RRO\n20.SO\n20.HO\n" ++
  "13.VOWEL SIGN A\n24.I\n24.U\n24.E\n24.OO\n13.POETRY MARK-1\n25.2\n25.3\n25.4\n13.SIGN ALTERNATE HASANTA\n" ++
  "A830:0.NORTH INDIC FRACTION ONE QUARTER\n25.HALF\n21.THREE QUARTERS\n21.ONE SIXTEENTH\n25.EIGHTH\n" ++
  "21.THREE SIXTEENTHS\n12.QUARTER MARK\n12.PLACEHOLDER MARK\n12.RUPEE MARK\n12.QUANTITY MARK\nA840:0.PHAGS-PA LETTER KA\n" ++
  "17.HA\n16.GA\n16.NGA\n16.CA\n17.HA\n16.JA\n16.NYA\n16.TA\n17.HA\n16.DA\n16.NA\n16.PA\n17.HA\n" ++
  "16.BA\n16.MA\n16.TSA\n18.HA\n16.DZA\n16.WA\n16.ZHA\n17.A\n16.SMALL A\n16.YA\n16.RA\n16.LA\n16.SHA\n" ++
  "17.A\n16.HA\n16.A\n16.I\n16.U\n16.E\n16.O\n16.QA\n16.XA\n16.FA\n16.GGA\n16.EE\n9.SUBJOINED LETTER WA\n" ++
  "26.YA\n9.LETTER TTA\n18.HA\n16.DDA\n16.NNA\n16.ALTERNATE YA\n16.VOICELESS SHA\n21.D HA\n16.ASPIRATED FA\n" ++
  "9.SUBJOINED LETTER RA\n11.PERFIXED LETTER RA\n9.LETTER CANDRABINDU\n9.SINGLE HEAD MARK\n9.DOUBLE HEAD MARK\n" ++
  "9.MARK SHAD\n14.DOUBLE SHAD\nA880:0.SAURASHTRA SIGN ANUSVARA\n16.VISARGA\n11.LETTER A\n19.A\n" ++
  "18.I\n19.I\n18.U\n19.U\n18.VOCALIC R\n27.R\n26.L\n27.L\n18.E\n19.E\n18.AI\n18.O\n19.O\n18.AU\n" ++
  "18.KA\n19.HA\n18.GA\n19.HA\n18.NGA\n18.CA\n19.HA\n18.JA\n19.HA\n18.NYA\n18.TTA\n20.HA\n18.DDA\n" ++
  "20.HA\n18.NNA\n18.TA\n19.HA\n18.DA\n19.HA\n18.NA\n18.PA\n19.HA\n18.BA\n19.HA\n18.MA\n18.YA\n18.RA\n" ++
  "18.LA\n18.VA\n18.SHA\n19.SA\n19.A\n18.HA\n18.LLA\n11.CONSONANT SIGN HAARU\n11.VOWEL SIGN AA\n" ++
  "22.I\n23.I\n22.U\n23.U\n22.VOCALIC R\n31.R\n30.L\n31.L\n22.E\n23.E\n22.AI\n22.O\n23.O\n22.AU\n" ++
  "11.SIGN VIRAMA\n16.CANDRABINDU\nA8CE:11.DANDA\n12.OUBLE DANDA\n12.IGIT ZERO\n17.ONE\n17.TWO\n" ++
  "18.HREE\n17.FOUR\n18.IVE\n17.SIX\n18.EVEN\n17.EIGHT\n17.NINE\nA8E0:0.COMBINING DEVANAGARI DIGIT ZERO\n" ++
  "27.ONE\n27.TWO\n28.HREE\n27.FOUR\n28.IVE\n27.SIX\n28.EVEN\n27.EIGHT\n27.NINE\n21.LETTER A\n28.U\n" ++
  "28.KA\n28.NA\n28.PA\n28.RA\n28.VI\n21.SIGN AVAGRAHA\n0.DEVANAGARI SIGN SPACING CANDRABINDU\n16.CANDRABINDU VIRAMA\n" ++
  "16.DOUBLE CANDRABINDU VIRAMA\n16.CANDRABINDU TWO\n29.HREE\n28.AVAGRAHA\n16.PUSHPIKA\n11.GAP FILLER\n" ++
  "11.CARET\n11.HEADSTROKE\n11.SIGN SIDDHAM\n11.JAIN OM\n11.LETTER AY\n11.VOWEL SIGN AY\n0.KAYAH LI DIGIT ZERO\n" ++
  "15.ONE\n15.TWO\n16.HREE\n15.FOUR\n16.IVE\n15.SIX\n16.EVEN\n15.EIGHT\n15.NINE\n9.LETTER KA\n17.HA\n" ++
  "16.GA\n16.NGA\n16.SA\n17.HA\n16.ZA\n16.NYA\n16.TA\n16.HTA\n16.NA\n16.PA\n17.HA\n16.MA\n16.DA\n" ++
  "16.BA\n16.RA\n16.YA\n16.LA\n16.WA\n16.THA\n16.HA\n16.VA\n16.CA\n16.A\n16.OE\n16.I\n16.OO\n9.VOWEL UE\n" ++
  "15.E\n15.U\n15.EE\n15.O\n9.TONE PLOPHU\n14.CALYA\n19. PLOPHU\n9.SIGN CWI\n14.SHYA\n0.REJANG LETTER KA\n" ++
  "14.GA\n14.NGA\n14.TA\n14.DA\n14.NA\n14.PA\n14.BA\n14.MA\n14.CA\n14.JA\n14.NYA\n14.SA\n14.RA\n" ++
  "14.LA\n14.YA\n14.WA\n14.HA\n14.MBA\n14.NGGA\n15.DA\n15.YJA\n14.A\n7.VOWEL SIGN I\n18.U\n18.E\n" ++
  "18.AI\n18.O\n18.AU\n18.EU\n19.A\n7.CONSONANT SIGN NG\n23.\n22.R\n22.H\n7.VIRAMA\nA95F:7.SECTION MARK\n" ++
  "0.HANGUL CHOSEONG TIKEUT-MIEUM\n23.PIEUP\n23.SIOS\n23.CIEUC\n16.RIEUL-KIYEOK\n22.SSANGKIYEOK\n" ++
  "22.TIKEUT\n22.SSANGTIKEUT\n22.MIEUM\n22.PIEUP\n22.SSANGPIEUP\n22.KAPYEOUNPIEUP\n22.SIOS\n22.CIEUC\n" ++
  "22.KHIEUKH\n16.MIEUM-KIYEOK\n22.TIKEUT\n22.SIOS\n16.PIEUP-SIOS-THIEUTH\n22.KHIEUKH\n22.HIEUH\n" ++
  "16.SSANGSIOS-PIEUP\n16.IEUNG-RIEUL\n22.HIEUH\n16.SSANGCIEUC-HIEUH\n21.THIEUTH\n16.PHIEUPH-HIEUH\n" ++
  "16.HIEUH-SIOS\n16.SSANGYEORINHIEUH\nA980:0.JAVANESE SIGN PANYANGGA\n14.CECAK\n14.LAYAR\n14.WIGNYAN\n" ++
  "9.LETTER A\n16.I KAWI\n17.\n17.I\n16.U\n16.PA CEREK\n16.NGA LELET\n25. RASWADI\n16.E\n16.AI\n" ++
  "16.O\n16.KA\n18. SASAK\n19.MURDA\n16.GA\n18. MURDA\n16.NGA\n16.CA\n18. MURDA\n16.JA\n16.NYA MURDA\n" ++
  "16.JA MAHAPRANA\n16.NYA\n16.TTA\n19. MAHAPRANA\n16.DDA\n19. MAHAPRANA\n16.NA MURDA\n16.TA\n18. MURDA\n" ++
  "16.DA\n18. MAHAPRANA\n16.NA\n16.PA\n18. MURDA\n16.BA\n18. MURDA\n16.MA\n16.YA\n16.RA\n18. AGUNG\n" ++
  "16.LA\n16.WA\n16.SA MURDA\n20.AHAPRANA\n18.\n16.HA\n9.SIGN CECAK TELU\n9.VOWEL SIGN TARUNG\n21.OLONG\n" ++
  "20.WULU\n24. MELIK\n20.SUKU\n24. MENDUT\n20.TALING\n20.DIRGA MURE\n20.PEPET\n9.CONSONANT SIGN KERET\n" ++
  "24.PENGKAL\n24.CAKRA\n9.PANGKON\n9.LEFT RERENGGAN\n9.RIGHT RERENGGAN\n9.PADA ANDAP\n14.MADYA\n" ++
  "14.LUHUR\n14.WINDU\n14.PANGKAT\n14.LINGSA\n15.UNGSI\n14.ADEG\n18. ADEG\n14.PISELEH\n9.TURNED PADA PISELEH\n" ++
  "A9CF:9.PANGRANGKEP\n9.DIGIT ZERO\n15.ONE\n15.TWO\n16.HREE\n15.FOUR\n16.IVE\n15.SIX\n16.EVEN\n" ++
  "15.EIGHT\n15.NINE\nA9DE:9.PADA TIRTA TUMETES\n14.ISEN-ISEN\n0.MYANMAR LETTER SHAN GHA\n20.CHA\n" ++
  "20.JHA\n20.NNA\n20.BHA\n8.SIGN SHAN SAW\n8.MODIFIER LETTER SHAN REDUPLICATION\n8.LETTER TAI LAING NYA\n" ++
  "25.FA\n25.GA\n26.HA\n25.JA\n26.HA\n25.DDA\n27.HA\n25.NNA\n8.TAI LAING DIGIT ZERO\n24.ONE\n24.TWO\n" ++
  "25.HREE\n24.FOUR\n25.IVE\n24.SIX\n25.EVEN\n24.EIGHT\n24.NINE\n8.LETTER TAI LAING LLA\n25.DA\n" ++
  "26.HA\n25.BA\n26.HA\nAA00:0.CHAM LETTER A\n12.I\n12.U\n12.E\n12.AI\n12.O\n12.KA\n13.HA\n12.GA\n" ++
  "13.HA\n12.NGUE\n14.A\n12.CHA\n14.HA\n12.JA\n13.HA\n12.NHUE\n14.A\n14.JA\n12.TA\n13.HA\n12.DA\n" ++
  "13.HA\n12.NUE\n13.A\n12.DDA\n12.PA\n13.PA\n13.HA\n12.BA\n13.HA\n12.MUE\n13.A\n12.BBA\n12.YA\n" ++
  "12.RA\n12.LA\n12.VA\n12.SSA\n13.A\n12.HA\n5.VOWEL SIGN AA\n16.I\n17.I\n16.EI\n16.U\n16.OE\n17.\n" ++
  "16.AI\n17.U\n16.UE\n5.CONSONANT SIGN YA\n20.RA\n20.LA\n20.WA\nAA40:5.LETTER FINAL K\n18.G\n18.NG\n" ++
  "5.CONSONANT SIGN FINAL NG\n5.LETTER FINAL CH\n18.T\n18.N\n18.P\n18.Y\n18.R\n18.L\n18.SS\n5.CONSONANT SIGN FINAL M\n" ++
  "26.H\nAA50:5.DIGIT ZERO\n11.ONE\n11.TWO\n12.HREE\n11.FOUR\n12.IVE\n11.SIX\n12.EVEN\n11.EIGHT\n" ++
  "11.NINE\nAA5C:5.PUNCTUATION SPIRAL\n17.DANDA\n18.OUBLE DANDA\n17.TRIPLE DANDA\n0.MYANMAR LETTER KHAMTI GA\n" ++
  "22.CA\n23.HA\n22.JA\n23.HA\n22.NYA\n22.TTA\n24.HA\n22.DDA\n24.HA\n23.HA\n22.NA\n22.SA\n22.HA\n" ++
  "23.HA\n22.FA\n8.MODIFIER LETTER KHAMTI REDUPLICATION\n8.LETTER KHAMTI XA\n22.ZA\n22.RA\n9.OGOGRAM KHAMTI OAY\n" ++
  "24.QN\n24.HM\n8.SYMBOL AITON EXCLAMATION\n21.ONE\n21.TWO\n8.LETTER AITON RA\n8.SIGN PAO KAREN TONE\n" ++
  "13.TAI LAING TONE-2\n28.5\n8.LETTER SHWE PALAUNG CHA\n28.SHA\n0.TAI VIET LETTER LOW KO\n16.HIGH KO\n" ++
  "16.LOW KHO\n16.HIGH KHO\n16.LOW KHHO\n16.HIGH KHHO\n16.LOW GO\n16.HIGH GO\n16.LOW NGO\n16.HIGH NGO\n" ++
  "16.LOW CO\n16.HIGH CO\n16.LOW CHO\n16.HIGH CHO\n16.LOW SO\n16.HIGH SO\n16.LOW NYO\n16.HIGH NYO\n" ++
  "16.LOW DO\n16.HIGH DO\n16.LOW TO\n16.HIGH TO\n16.LOW THO\n16.HIGH THO\n16.LOW NO\n16.HIGH NO\n" ++
  "16.LOW BO\n16.HIGH BO\n16.LOW PO\n16.HIGH PO\n16.LOW PHO\n16.HIGH PHO\n16.LOW FO\n16.HIGH FO\n" ++
  "16.LOW MO\n16.HIGH MO\n16.LOW YO\n16.HIGH YO\n16.LOW RO\n16.HIGH RO\n16.LOW LO\n16.HIGH LO\n16.LOW VO\n" ++
  "16.HIGH VO\n16.LOW HO\n16.HIGH HO\n16.LOW O\n16.HIGH O\n9.MAI KANG\n9.VOWEL AA\n15.I\n15.UE\n" ++
  "16.\n15.E\n15.O\n9.MAI KHIT\n9.VOWEL IA\n15.UEA\n16.A\n15.AUE\n16.Y\n16.N\n16.M\n9.TONE MAI EK\n" ++
  "18.NUENG\n18.THO\n18.SONG\nAADB:9.SYMBOL KON\n16.NUENG\n16.SAM\n16.HO HOI\n16.KOI KOI\n0.MEETEI MAYEK LETTER E\n" ++
  "20.O\n20.CHA\n20.NYA\n20.TTA\n22.HA\n20.DDA\n22.HA\n20.NNA\n20.SHA\n21.SA\n13.VOWEL SIGN II\n" ++
  "24.UU\n24.AAI\n25.U\n25.AU\n13.CHEIKHAN\n13.AHANG KHUDAM\n14.NJI\n13.SYLLABLE REPETITION MARK\n" ++
  "13.WORD REPETITION MARK\n13.VOWEL SIGN VISARGA\n14.IRAMA\nAB01:0.ETHIOPIC SYLLABLE TTHU\n21.I\n" ++
  "21.AA\n21.EE\n22.\n21.O\nAB09:18.DDHU\n21.I\n21.AA\n21.EE\n22.\n21.O\nAB11:19.ZU\n20.I\n20.AA\n" ++
  "20.EE\n21.\n20.O\nAB20:18.CCHHA\n22.U\n22.I\n22.AA\n22.EE\n23.\n22.O\nAB28:18.BBA\n20.U\n20.I\n" ++
  "20.AA\n20.EE\n21.\n20.O\nAB30:0.LATIN SMALL LETTER BARRED ALPHA\n19.A REVERSED-SCHWA\n19.BLACKLETTER E\n" ++
  "20.ARRED E\n19.E WITH FLOURISH\n19.LENIS F\n19.SCRIPT G WITH CROSSED-TAIL\n19.L WITH INVERTED LAZY S\n" ++
  "26.DOUBLE MIDDLE TILDE\n26.MIDDLE RING\n19.M WITH CROSSED-TAIL\n19.N WITH CROSSED-TAIL\n19.ENG WITH CROSSED-TAIL\n" ++
  "19.BLACKLETTER O\n32. WITH STROKE\n19.OPEN O WITH STROKE\n19.INVERTED OE\n19.TURNED OE WITH STROKE\n" ++
  "34.HORIZONTAL STROKE\n27. OPEN-O\n34. WITH STROKE\n19.STIRRUP R\n6.LETTER SMALL CAPITAL R WITH RIGHT LEG\n" ++
  "6.SMALL LETTER R WITHOUT HANDLE\n19.DOUBLE R\n19.R WITH CROSSED-TAIL\n19.DOUBLE R WITH CROSSED-TAIL\n" ++
  "19.SCRIPT R\n27. WITH RING\n19.BASELINE ESH\n19.U WITH SHORT RIGHT LEG\n21.BAR WITH SHORT RIGHT LEG\n" ++
  "20.I\n19.TURNED UI\n19.U WITH LEFT HOOK\n19.CHI\n22. WITH LOW RIGHT RING\n32.LEFT SERIF\n19.X WITH LOW RIGHT RING\n" ++
  "28.NG LEFT LEG\n39. AND LOW RIGHT RING\n40.WITH SERIF\n19.Y WITH SHORT RIGHT LEG\n0.MODIFIER BREVE WITH INVERTED BREVE\n" ++
  "9.LETTER SMALL HENG\n22.L WITH INVERTED LAZY S\n29.MIDDLE TILDE\n22.U WITH LEFT HOOK\n0.LATIN SMALL LETTER SAKHA YAT\n" ++
  "19.IOTIFIED E\n19.OPEN OE\n19.UO\n19.INVERTED ALPHA\n0.GREEK LETTER SMALL CAPITAL OMEGA\n0.LATIN SMALL LETTER DZ DIGRAPH WITH RETROFLEX HOOK\n" ++
  "19.TS DIGRAPH WITH RETROFLEX HOOK\n20.URNED R WITH MIDDLE TILDE\n0.MODIFIER LETTER SMALL TURNED W\n" ++
  "16.LEFT TACK\n16.RIGHT TACK\nAB70:0.CHEROKEE SMALL LETTER A\n22.E\n22.I\n22.O\n22.U\n22.V\n22.GA\n" ++
  "22.KA\n22.GE\n23.I\n23.O\n23.U\n23.V\n22.HA\n23.E\n23.I\n23.O\n23.U\n23.V\n22.LA\n23.E\n23.I\n" ++
  "23.O\n23.U\n23.V\n22.MA\n23.E\n23.I\n23.O\n23.U\n22.NA\n22.HNA\n22.NAH\n23.E\n23.I\n23.O\n23.U\n" ++
  "23.V\n22.QUA\n24.E\n24.I\n24.O\n24.U\n24.V\n22.SA\n23.\n23.E\n23.I\n23.O\n23.U\n23.V\n22.DA\n" ++
  "22.TA\n22.DE\n22.TE\n22.DI\n22.TI\n22.DO\n23.U\n23.V\n23.LA\n22.TLA\n24.E\n24.I\n24.O\n24.U\n" ++
  "24.V\n23.SA\n24.E\n24.I\n24.O\n24.U\n24.V\n22.WA\n23.E\n23.I\n23.O\n23.U\n23.V\n22.YA\n0.MEETEI MAYEK LETTER KOK\n" ++
  "20.SAM\n20.LAI\n20.MIT\n20.PA\n20.NA\n20.CHIL\n20.TIL\n20.KHOU\n20.NGOU\n20.THOU\n20.WAI\n20.YANG\n" ++
  "20.HUK\n20.UN\n20.I\n20.PHAM\n20.ATIYA\n20.GOK\n20.JHAM\n20.RAI\n20.BA\n20.JIL\n20.DIL\n20.GHOU\n" ++
  "20.DHOU\n20.BHAM\n20.KOK LONSUM\n20.LAI LONSUM\n20.MIT LONSUM\n20.PA LONSUM\n20.NA LONSUM\n20.TIL LONSUM\n" ++
  "20.NGOU LONSUM\n20.I LONSUM\n13.VOWEL SIGN ONAP\n24.INAP\n24.ANAP\n24.YENAP\n24.SOUNAP\n24.UNAP\n" ++
  "24.CHEINAP\n24.NUNG\n13.CHEIKHEI\n13.LUM IYEK\n13.APUN IYEK\nABF0:13.DIGIT ZERO\n19.ONE\n19.TWO\n" ++
  "20.HREE\n19.FOUR\n20.IVE\n19.SIX\n20.EVEN\n19.EIGHT\n19.NINE\nD7B0:0.HANGUL JUNGSEONG O-YEO\n" ++
  "19.O-I\n17.YO-A\n21.E\n20.EO\n17.U-YEO\n19.I-I\n17.YU-AE\n20.O\n17.EU-A\n20.EO\n21.\n20.O\n17.I-YA-O\n" ++
  "21.E\n20.EO\n21.\n19.O-I\n19.YO\n20.U\n19.I\n17.ARAEA-A\n23.E\nD7CB:8.ONGSEONG NIEUN-RIEUL\n23.CHIEUCH\n" ++
  "17.SSANGTIKEUT\n28.-PIEUP\n17.TIKEUT-PIEUP\n24.SIOS\n28.-KIYEOK\n24.CIEUC\n25.HIEUCH\n24.THIEUTH\n" ++
  "17.RIEUL-SSANGKIYEOK\n23.KIYEOK-HIEUH\n17.SSANGRIEUL-KHIEUKH\n17.RIEUL-MIEUM-HIEUH\n23.PIEUP-TIKEUT\n" ++
  "29.PHIEUPH\n23.YESIEUNG\n25.ORINHIEUH-HIEUH\n17.KAPYEOUNRIEUL\n17.MIEUM-NIEUN\n23.SSANGNIEUN\n" ++
  "17.SSANGMIEUM\n17.MIEUM-PIEUP-SIOS\n23.CIEUC\n17.PIEUP-TIKEUT\n23.RIEUL-PHIEUPH\n23.MIEUM\n17.SSANGPIEUP\n" ++
  "17.PIEUP-SIOS-TIKEUT\n23.CIEUC\n24.HIEUCH\n17.SIOS-MIEUM\n22.KAPYEOUNPIEUP\n18.SANGSIOS-KIYEOK\n" ++
  "27.TIKEUT\n18.IOS-PANSIOS\n22.CIEUC\n23.HIEUCH\n22.THIEUTH\n22.HIEUH\n17.PANSIOS-PIEUP\n25.KAPYEOUNPIEUP\n" ++
  "17.YESIEUNG-MIEUM\n26.HIEUH\n17.CIEUC-PIEUP\n23.SSANGPIEUP\n17.SSANGCIEUC\n17.PHIEUPH-SIOS\n25.THIEUTH\n" ++
  "F900:0.CJK COMPATIBILITY IDEOGRAPH-F900\n31.1\n31.2\n31.3\n31.4\n31.5\n31.6\n31.7\n31.8\n31.9\n" ++
  "31.A\n31.B\n31.C\n31.D\n31.E\n31.F\n30.10\n31.1\n31.2\n31.3\n31.4\n31.5\n31.6\n31.7\n31.8\n31.9\n" ++
  "31.A\n31.B\n31.C\n31.D\n31.E\n31.F\n30.20\n31.1\n31.2\n31.3\n31.4\n31.5\n31.6\n31.7\n31.8\n31.9\n" ++
  "31.A\n31.B\n31.C\n31.D\n31.E\n31.F\n30.30\n31.1\n31.2\n31.3\n31.4\n31.5\n31.6\n31.7\n31.8\n31.9\n" ++
  "31.A\n31.B\n31.C\n31.D\n31.E\n31.F\n30.40\n31.1\n31.2\n31.3\n31.4\n31.5\n31.6\n31.7\n31.8\n31.9\n" ++
  "31.A\n31.B\n31.C\n31.D\n31.E\n31.F\n30.50\n31.1\n31.2\n31.3\n31.4\n31.5\n31.6\n31.7\n31.8\n31.9\n" ++
  "31.A\n31.B\n31.C\n31.D\n31.E\n31.F\n30.60\n31.1\n31.2\n31.3\n31.4\n31.5\n31.6\n31.7\n31.8\n31.9\n" ++
  "31.A\n31.B\n31.C\n31.D\n31.E\n31.F\n30.70\n31.1\n31.2\n31.3\n31.4\n31.5\n31.6\n31.7\n31.8\n31.9\n" ++
  "31.A\n31.B\n31.C\n31.D\n31.E\n31.F\n30.80\n31.1\n31.2\n31.3\n31.4\n31.5\n31.6\n31.7\n31.8\n31.9\n" ++
  "31.A\n31.B\n31.C\n31.D\n31.E\n31.F\n30.90\n31.1\n31.2\n31.3\n31.4\n31.5\n31.6\n31.7\n31.8\n31.9\n" ++
  "31.A\n31.B\n31.C\n31.D\n31.E\n31.F\n30.A0\n31.1\n31.2\n31.3\n31.4\n31.5\n31.6\n31.7\n31.8\n31.9\n" ++
  "31.A\n31.B\n31.C\n31.D\n31.E\n31.F\n30.B0\n31.1\n31.2\n31.3\n31.4\n31.5\n31.6\n31.7\n31.8\n31.9\n" ++
  "31.A\n31.B\n31.C\n31.D\n31.E\n31.F\n30.C0\n31.1\n31.2\n31.3\n31.4\n31.5\n31.6\n31.7\n31.8\n31.9\n" ++
  "31.A\n31.B\n31.C\n31.D\n31.E\n31.F\n30.D0\n31.1\n31.2\n31.3\n31.4\n31.5\n31.6\n31.7\n31.8\n31.9\n" ++
  "31.A\n31.B\n31.C\n31.D\n31.E\n31.F\n30.E0\n31.1\n31.2\n31.3\n31.4\n31.5\n31.6\n31.7\n31.8\n31.9\n" ++
  "31.A\n31.B\n31.C\n31.D\n31.E\n31.F\n30.F0\n31.1\n31.2\n31.3\n31.4\n31.5\n31.6\n31.7\n31.8\n31.9\n" ++
  "31.A\n31.B\n31.C\n31.D\n31.E\n31.F\n29.A00\n31.1\n31.2\n31.3\n31.4\n31.5\n31.6\n31.7\n31.8\n31.9\n" ++
  "31.A\n31.B\n31.C\n31.D\n31.E\n31.F\n30.10\n31.1\n31.2\n31.3\n31.4\n31.5\n31.6\n31.7\n31.8\n31.9\n" ++
  "31.A\n31.B\n31.C\n31.D\n31.E\n31.F\n30.20\n31.1\n31.2\n31.3\n31.4\n31.5\n31.6\n31.7\n31.8\n31.9\n" ++
  "31.A\n31.B\n31.C\n31.D\n31.E\n31.F\n30.30\n31.1\n31.2\n31.3\n31.4\n31.5\n31.6\n31.7\n31.8\n31.9\n" ++
  "31.A\n31.B\n31.C\n31.D\n31.E\n31.F\n30.40\n31.1\n31.2\n31.3\n31.4\n31.5\n31.6\n31.7\n31.8\n31.9\n" ++
  "31.A\n31.B\n31.C\n31.D\n31.E\n31.F\n30.50\n31.1\n31.2\n31.3\n31.4\n31.5\n31.6\n31.7\n31.8\n31.9\n" ++
  "31.A\n31.B\n31.C\n31.D\n31.E\n31.F\n30.60\n31.1\n31.2\n31.3\n31.4\n31.5\n31.6\n31.7\n31.8\n31.9\n" ++
  "31.A\n31.B\n31.C\n31.D\nFA70:30.70\n31.1\n31.2\n31.3\n31.4\n31.5\n31.6\n31.7\n31.8\n31.9\n31.A\n" ++
  "31.B\n31.C\n31.D\n31.E\n31.F\n30.80\n31.1\n31.2\n31.3\n31.4\n31.5\n31.6\n31.7\n31.8\n31.9\n31.A\n" ++
  "31.B\n31.C\n31.D\n31.E\n31.F\n30.90\n31.1\n31.2\n31.3\n31.4\n31.5\n31.6\n31.7\n31.8\n31.9\n31.A\n" ++
  "31.B\n31.C\n31.D\n31.E\n31.F\n30.A0\n31.1\n31.2\n31.3\n31.4\n31.5\n31.6\n31.7\n31.8\n31.9\n31.A\n" ++
  "31.B\n31.C\n31.D\n31.E\n31.F\n30.B0\n31.1\n31.2\n31.3\n31.4\n31.5\n31.6\n31.7\n31.8\n31.9\n31.A\n" ++
  "31.B\n31.C\n31.D\n31.E\n31.F\n30.C0\n31.1\n31.2\n31.3\n31.4\n31.5\n31.6\n31.7\n31.8\n31.9\n31.A\n" ++
  "31.B\n31.C\n31.D\n31.E\n31.F\n30.D0\n31.1\n31.2\n31.3\n31.4\n31.5\n31.6\n31.7\n31.8\n31.9\nFB00:0.LATIN SMALL LIGATURE FF\n" ++
  "22.I\n22.L\n22.FI\n23.L\n21.LONG S T\n21.ST\nFB13:0.ARMENIAN SMALL LIGATURE MEN NOW\n28.ECH\n" ++
  "28.INI\n24.VEW NOW\n24.MEN XEH\nFB1D:0.HEBREW LETTER YOD WITH HIRIQ\n7.POINT JUDEO-SPANISH VARIKA\n" ++
  "7.LIGATURE YIDDISH YOD YOD PATAH\n8.ETTER ALTERNATIVE AYIN\n14.WIDE ALEF\n19.DALET\n19.HE\n19.KAF\n" ++
  "19.LAMED\n19.FINAL MEM\n19.RESH\n19.TAV\n14.ALTERNATIVE PLUS SIGN\n14.SHIN WITH SHIN DOT\n25.IN DOT\n" ++
  "24.DAGESH AND SHIN DOT\n36.IN DOT\n14.ALEF WITH PATAH\n24.QAMATS\n24.MAPIQ\n14.BET WITH DAGESH\n" ++
  "14.GIMEL WITH DAGESH\n14.DALET WITH DAGESH\n14.HE WITH MAPIQ\n14.VAV WITH DAGESH\n14.ZAYIN WITH DAGESH\n" ++
  "FB38:14.TET WITH DAGESH\n14.YOD WITH DAGESH\n14.FINAL KAF WITH DAGESH\n14.KAF WITH DAGESH\n14.LAMED WITH DAGESH\n" ++
  "FB3E:14.MEM WITH DAGESH\nFB40:14.NUN WITH DAGESH\n14.SAMEKH WITH DAGESH\nFB43:14.FINAL PE WITH DAGESH\n" ++
  "14.PE WITH DAGESH\nFB46:14.TSADI WITH DAGESH\n14.QOF WITH DAGESH\n14.RESH WITH DAGESH\n14.SHIN WITH DAGESH\n" ++
  "14.TAV WITH DAGESH\n14.VAV WITH HOLAM\n14.BET WITH RAFE\n14.KAF WITH RAFE\n14.PE WITH RAFE\n8.IGATURE ALEF LAMED\n" ++
  "0.ARABIC LETTER ALEF WASLA ISOLATED FORM\n25.FINAL FORM\n14.BEEH ISOLATED FORM\n19.FINAL FORM\n" ++
  "19.INITIAL FORM\n19.MEDIAL FORM\n14.PEH ISOLATED FORM\n18.FINAL FORM\n18.INITIAL FORM\n18.MEDIAL FORM\n" ++
  "14.BEHEH ISOLATED FORM\n20.FINAL FORM\n20.INITIAL FORM\n20.MEDIAL FORM\n14.TTEHEH ISOLATED FORM\n" ++
  "21.FINAL FORM\n21.INITIAL FORM\n21.MEDIAL FORM\n15.EHEH ISOLATED FORM\n20.FINAL FORM\n20.INITIAL FORM\n" ++
  "20.MEDIAL FORM\n15.TEH ISOLATED FORM\n19.FINAL FORM\n19.INITIAL FORM\n19.MEDIAL FORM\n14.VEH ISOLATED FORM\n" ++
  "18.FINAL FORM\n18.INITIAL FORM\n18.MEDIAL FORM\n14.PEHEH ISOLATED FORM\n20.FINAL FORM\n20.INITIAL FORM\n" ++
  "20.MEDIAL FORM\n14.DYEH ISOLATED FORM\n19.FINAL FORM\n19.INITIAL FORM\n19.MEDIAL FORM\n14.NYEH ISOLATED FORM\n" ++
  "19.FINAL FORM\n19.INITIAL FORM\n19.MEDIAL FORM\n14.TCHEH ISOLATED FORM\n20.FINAL FORM\n20.INITIAL FORM\n" ++
  "20.MEDIAL FORM\n19.EH ISOLATED FORM\n22.FINAL FORM\n22.INITIAL FORM\n22.MEDIAL FORM\n14.DDAHAL ISOLATED FORM\n" ++
  "21.FINAL FORM\n15.AHAL ISOLATED FORM\n20.FINAL FORM\n15.UL ISOLATED FORM\n18.FINAL FORM\n15.DAL ISOLATED FORM\n" ++
  "19.FINAL FORM\n14.JEH ISOLATED FORM\n18.FINAL FORM\n14.RREH ISOLATED FORM\n19.FINAL FORM\n14.KEHEH ISOLATED FORM\n" ++
  "20.FINAL FORM\n20.INITIAL FORM\n20.MEDIAL FORM\n14.GAF ISOLATED FORM\n18.FINAL FORM\n18.INITIAL FORM\n" ++
  "18.MEDIAL FORM\n15.UEH ISOLATED FORM\n19.FINAL FORM\n19.INITIAL FORM\n19.MEDIAL FORM\n14.NGOEH ISOLATED FORM\n" ++
  "20.FINAL FORM\n20.INITIAL FORM\n20.MEDIAL FORM\n15.OON GHUNNA ISOLATED FORM\n26.FINAL FORM\n14.RNOON ISOLATED FORM\n" ++
  "20.FINAL FORM\n20.INITIAL FORM\n20.MEDIAL FORM\n14.HEH WITH YEH ABOVE ISOLATED FORM\n33.FINAL FORM\n" ++
  "18.GOAL ISOLATED FORM\n23.FINAL FORM\n23.INITIAL FORM\n23.MEDIAL FORM\n18.DOACHASHMEE ISOLATED FORM\n" ++
  "30.FINAL FORM\n30.INITIAL FORM\n30.MEDIAL FORM\n14.YEH BARREE ISOLATED FORM\n25.FINAL FORM\n25.WITH HAMZA ABOVE ISOLATED FORM\n" ++
  "42.FINAL FORM\n7.SYMBOL DOT ABOVE\n18.BELOW\n14.TWO DOTS ABOVE\n23.BELOW\n15.HREE DOTS ABOVE\n" ++
  "25.BELOW\n25.POINTING DOWNWARDS ABOVE\n44.BELOW\n14.FOUR DOTS ABOVE\n24.BELOW\n14.DOUBLE VERTICAL BAR BELOW\n" ++
  "14.TWO DOTS VERTICALLY ABOVE\n34.BELOW\n14.RING\n14.SMALL TAH ABOVE\n24.BELOW\n14.WASLA ABOVE\n" ++
  "FBD3:7.LETTER NG ISOLATED FORM\n17.FINAL FORM\n17.INITIAL FORM\n17.MEDIAL FORM\n14.U ISOLATED FORM\n" ++
  "16.FINAL FORM\n14.OE ISOLATED FORM\n17.FINAL FORM\n14.YU ISOLATED FORM\n17.FINAL FORM\n14.U WITH HAMZA ABOVE ISOLATED FORM\n" ++
  "14.VE ISOLATED FORM\n17.FINAL FORM\n14.KIRGHIZ OE ISOLATED FORM\n25.FINAL FORM\n22.YU ISOLATED FORM\n" ++
  "25.FINAL FORM\n14.E ISOLATED FORM\n16.FINAL FORM\n16.INITIAL FORM\n16.MEDIAL FORM\n14.UIGHUR KAZAKH KIRGHIZ ALEF MAKSURA INITIAL FORM\n" ++
  "49.MEDIAL FORM\n8.IGATURE YEH WITH HAMZA ABOVE WITH ALEF ISOLATED FORM\n47.FINAL FORM\n43.E ISOLATED FORM\n" ++
  "45.FINAL FORM\n42.WAW ISOLATED FORM\n46.FINAL FORM\n42.U ISOLATED FORM\n44.FINAL FORM\n42.OE ISOLATED FORM\n" ++
  "45.FINAL FORM\n42.YU ISOLATED FORM\n45.FINAL FORM\n42.E ISOLATED FORM\n44.FINAL FORM\n44.INITIAL FORM\n" ++
  "16.UIGHUR KIRGHIZ YEH WITH HAMZA ABOVE WITH ALEF MAKSURA ISOLATED FORM\n70.FINAL FORM\n70.INITIAL FORM\n" ++
  "8.ETTER FARSI YEH ISOLATED FORM\n24.FINAL FORM\n24.INITIAL FORM\n24.MEDIAL FORM\n8.IGATURE YEH WITH HAMZA ABOVE WITH JEEM ISOLATED FORM\n" ++
  "42.HAH ISOLATED FORM\n42.MEEM ISOLATED FORM\n42.ALEF MAKSURA ISOLATED FORM\n42.YEH ISOLATED FORM\n" ++
  "16.BEH WITH JEEM ISOLATED FORM\n25.HAH ISOLATED FORM\n25.KHAH ISOLATED FORM\n25.MEEM ISOLATED FORM\n" ++
  "25.ALEF MAKSURA ISOLATED FORM\n25.YEH ISOLATED FORM\n16.TEH WITH JEEM ISOLATED FORM\n25.HAH ISOLATED FORM\n" ++
  "25.KHAH ISOLATED FORM\n25.MEEM ISOLATED FORM\n25.ALEF MAKSURA ISOLATED FORM\n25.YEH ISOLATED FORM\n" ++
  "17.HEH WITH JEEM ISOLATED FORM\n26.MEEM ISOLATED FORM\n26.ALEF MAKSURA ISOLATED FORM\n26.YEH ISOLATED FORM\n" ++
  "16.JEEM WITH HAH ISOLATED FORM\n26.MEEM ISOLATED FORM\n16.HAH WITH JEEM ISOLATED FORM\n25.MEEM ISOLATED FORM\n" ++
  "16.KHAH WITH JEEM ISOLATED FORM\n26.HAH ISOLATED FORM\n26.MEEM ISOLATED FORM\n16.SEEN WITH JEEM ISOLATED FORM\n" ++
  "26.HAH ISOLATED FORM\n26.KHAH ISOLATED FORM\n26.MEEM ISOLATED FORM\n17.AD WITH HAH ISOLATED FORM\n" ++
  "25.MEEM ISOLATED FORM\n16.DAD WITH JEEM ISOLATED FORM\n25.HAH ISOLATED FORM\n25.KHAH ISOLATED FORM\n" ++
  "25.MEEM ISOLATED FORM\n16.TAH WITH HAH ISOLATED FORM\n25.MEEM ISOLATED FORM\n16.ZAH WITH MEEM ISOLATED FORM\n" ++
  "16.AIN WITH JEEM ISOLATED FORM\n25.MEEM ISOLATED FORM\n16.GHAIN WITH JEEM ISOLATED FORM\n27.MEEM ISOLATED FORM\n" ++
  "16.FEH WITH JEEM ISOLATED FORM\n25.HAH ISOLATED FORM\n25.KHAH ISOLATED FORM\n25.MEEM ISOLATED FORM\n" ++
  "25.ALEF MAKSURA ISOLATED FORM\n25.YEH ISOLATED FORM\n16.QAF WITH HAH ISOLATED FORM\n25.MEEM ISOLATED FORM\n" ++
  "25.ALEF MAKSURA ISOLATED FORM\n25.YEH ISOLATED FORM\n16.KAF WITH ALEF ISOLATED FORM\n25.JEEM ISOLATED FORM\n" ++
  "25.HAH ISOLATED FORM\n25.KHAH ISOLATED FORM\n25.LAM ISOLATED FORM\n25.MEEM ISOLATED FORM\n25.ALEF MAKSURA ISOLATED FORM\n" ++
  "25.YEH ISOLATED FORM\n16.LAM WITH JEEM ISOLATED FORM\n25.HAH ISOLATED FORM\n25.KHAH ISOLATED FORM\n" ++
  "25.MEEM ISOLATED FORM\n25.ALEF MAKSURA ISOLATED FORM\n25.YEH ISOLATED FORM\n16.MEEM WITH JEEM ISOLATED FORM\n" ++
  "26.HAH ISOLATED FORM\n26.KHAH ISOLATED FORM\n26.MEEM ISOLATED FORM\n26.ALEF MAKSURA ISOLATED FORM\n" ++
  "26.YEH ISOLATED FORM\n16.NOON WITH JEEM ISOLATED FORM\n26.HAH ISOLATED FORM\n26.KHAH ISOLATED FORM\n" ++
  "26.MEEM ISOLATED FORM\n26.ALEF MAKSURA ISOLATED FORM\n26.YEH ISOLATED FORM\n16.HEH WITH JEEM ISOLATED FORM\n" ++
  "25.MEEM ISOLATED FORM\n25.ALEF MAKSURA ISOLATED FORM\n25.YEH ISOLATED FORM\n16.YEH WITH JEEM ISOLATED FORM\n" ++
  "25.HAH ISOLATED FORM\n25.KHAH ISOLATED FORM\n25.MEEM ISOLATED FORM\n25.ALEF MAKSURA ISOLATED FORM\n" ++
  "25.YEH ISOLATED FORM\n16.THAL WITH SUPERSCRIPT ALEF ISOLATED FORM\n16.REH WITH SUPERSCRIPT ALEF ISOLATED FORM\n" ++
  "16.ALEF MAKSURA WITH SUPERSCRIPT ALEF ISOLATED FORM\n16.SHADDA WITH DAMMATAN ISOLATED FORM\n28.KASRATAN ISOLATED FORM\n" ++
  "28.FATHA ISOLATED FORM\n28.DAMMA ISOLATED FORM\n28.KASRA ISOLATED FORM\n28.SUPERSCRIPT ALEF ISOLATED FORM\n" ++
  "16.YEH WITH HAMZA ABOVE WITH REH FINAL FORM\n42.ZAIN FINAL FORM\n42.MEEM FINAL FORM\n42.NOON FINAL FORM\n" ++
  "42.ALEF MAKSURA FINAL FORM\n42.YEH FINAL FORM\n16.BEH WITH REH FINAL FORM\n25.ZAIN FINAL FORM\n" ++
  "25.MEEM FINAL FORM\n25.NOON FINAL FORM\n25.ALEF MAKSURA FINAL FORM\n25.YEH FINAL FORM\n16.TEH WITH REH FINAL FORM\n" ++
  "25.ZAIN FINAL FORM\n25.MEEM FINAL FORM\n25.NOON FINAL FORM\n25.ALEF MAKSURA FINAL FORM\n25.YEH FINAL FORM\n" ++
  "17.HEH WITH REH FINAL FORM\n26.ZAIN FINAL FORM\n26.MEEM FINAL FORM\n26.NOON FINAL FORM\n26.ALEF MAKSURA FINAL FORM\n" ++
  "26.YEH FINAL FORM\n16.FEH WITH ALEF MAKSURA FINAL FORM\n25.YEH FINAL FORM\n16.QAF WITH ALEF MAKSURA FINAL FORM\n" ++
  "25.YEH FINAL FORM\n16.KAF WITH ALEF FINAL FORM\n25.LAM FINAL FORM\n25.MEEM FINAL FORM\n25.ALEF MAKSURA FINAL FORM\n" ++
  "25.YEH FINAL FORM\n16.LAM WITH MEEM FINAL FORM\n25.ALEF MAKSURA FINAL FORM\n25.YEH FINAL FORM\n" ++
  "16.MEEM WITH ALEF FINAL FORM\n26.MEEM FINAL FORM\n16.NOON WITH REH FINAL FORM\n26.ZAIN FINAL FORM\n" ++
  "26.MEEM FINAL FORM\n26.NOON FINAL FORM\n26.ALEF MAKSURA FINAL FORM\n26.YEH FINAL FORM\n16.ALEF MAKSURA WITH SUPERSCRIPT ALEF FINAL FORM\n" ++
  "16.YEH WITH REH FINAL FORM\n25.ZAIN FINAL FORM\n25.MEEM FINAL FORM\n25.NOON FINAL FORM\n25.ALEF MAKSURA FINAL FORM\n" ++
  "25.YEH FINAL FORM\n25.HAMZA ABOVE WITH JEEM INITIAL FORM\n42.HAH INITIAL FORM\n42.KHAH INITIAL FORM\n" ++
  "42.MEEM INITIAL FORM\n42.HEH INITIAL FORM\n16.BEH WITH JEEM INITIAL FORM\n25.HAH INITIAL FORM\n" ++
  "25.KHAH INITIAL FORM\n25.MEEM INITIAL FORM\n25.HEH INITIAL FORM\n16.TEH WITH JEEM INITIAL FORM\n" ++
  "25.HAH INITIAL FORM\n25.KHAH INITIAL FORM\n25.MEEM INITIAL FORM\n25.HEH INITIAL FORM\n17.HEH WITH MEEM INITIAL FORM\n" ++
  "16.JEEM WITH HAH INITIAL FORM\n26.MEEM INITIAL FORM\n16.HAH WITH JEEM INITIAL FORM\n25.MEEM INITIAL FORM\n" ++
  "16.KHAH WITH JEEM INITIAL FORM\n26.MEEM INITIAL FORM\n16.SEEN WITH JEEM INITIAL FORM\n26.HAH INITIAL FORM\n" ++
  "26.KHAH INITIAL FORM\n26.MEEM INITIAL FORM\n17.AD WITH HAH INITIAL FORM\n25.KHAH INITIAL FORM\n" ++
  "25.MEEM INITIAL FORM\n16.DAD WITH JEEM INITIAL FORM\n25.HAH INITIAL FORM\n25.KHAH INITIAL FORM\n" ++
  "25.MEEM INITIAL FORM\n16.TAH WITH HAH INITIAL FORM\n16.ZAH WITH MEEM INITIAL FORM\n16.AIN WITH JEEM INITIAL FORM\n" ++
  "25.MEEM INITIAL FORM\n16.GHAIN WITH JEEM INITIAL FORM\n27.MEEM INITIAL FORM\n16.FEH WITH JEEM INITIAL FORM\n" ++
  "25.HAH INITIAL FORM\n25.KHAH INITIAL FORM\n25.MEEM INITIAL FORM\n16.QAF WITH HAH INITIAL FORM\n" ++
  "25.MEEM INITIAL FORM\n16.KAF WITH JEEM INITIAL FORM\n25.HAH INITIAL FORM\n25.KHAH INITIAL FORM\n" ++
  "25.LAM INITIAL FORM\n25.MEEM INITIAL FORM\n16.LAM WITH JEEM INITIAL FORM\n25.HAH INITIAL FORM\n" ++
  "25.KHAH INITIAL FORM\n25.MEEM INITIAL FORM\n25.HEH INITIAL FORM\n16.MEEM WITH JEEM INITIAL FORM\n" ++
  "26.HAH INITIAL FORM\n26.KHAH INITIAL FORM\n26.MEEM INITIAL FORM\n16.NOON WITH JEEM INITIAL FORM\n" ++
  "26.HAH INITIAL FORM\n26.KHAH INITIAL FORM\n26.MEEM INITIAL FORM\n26.HEH INITIAL FORM\n16.HEH WITH JEEM INITIAL FORM\n" ++
  "25.MEEM INITIAL FORM\n25.SUPERSCRIPT ALEF INITIAL FORM\n16.YEH WITH JEEM INITIAL FORM\n25.HAH INITIAL FORM\n" ++
  "25.KHAH INITIAL FORM\n25.MEEM INITIAL FORM\n25.HEH INITIAL FORM\n26.AMZA ABOVE WITH MEEM MEDIAL FORM\n" ++
  "42.HEH MEDIAL FORM\n16.BEH WITH MEEM MEDIAL FORM\n25.HEH MEDIAL FORM\n16.TEH WITH MEEM MEDIAL FORM\n" ++
  "25.HEH MEDIAL FORM\n17.HEH WITH MEEM MEDIAL FORM\n26.HEH MEDIAL FORM\n16.SEEN WITH MEEM MEDIAL FORM\n" ++
  "26.HEH MEDIAL FORM\n17.HEEN WITH MEEM MEDIAL FORM\n27.HEH MEDIAL FORM\n16.KAF WITH LAM MEDIAL FORM\n" ++
  "25.MEEM MEDIAL FORM\n16.LAM WITH MEEM MEDIAL FORM\n16.NOON WITH MEEM MEDIAL FORM\n26.HEH MEDIAL FORM\n" ++
  "16.YEH WITH MEEM MEDIAL FORM\n25.HEH MEDIAL FORM\n16.SHADDA WITH FATHA MEDIAL FORM\n28.DAMMA MEDIAL FORM\n" ++
  "28.KASRA MEDIAL FORM\n16.TAH WITH ALEF MAKSURA ISOLATED FORM\n25.YEH ISOLATED FORM\n16.AIN WITH ALEF MAKSURA ISOLATED FORM\n" ++
  "25.YEH ISOLATED FORM\n16.GHAIN WITH ALEF MAKSURA ISOLATED FORM\n27.YEH ISOLATED FORM\n16.SEEN WITH ALEF MAKSURA ISOLATED FORM\n" ++
  "26.YEH ISOLATED FORM\n17.HEEN WITH ALEF MAKSURA ISOLATED FORM\n27.YEH ISOLATED FORM\n16.HAH WITH ALEF MAKSURA ISOLATED FORM\n" ++
  "25.YEH ISOLATED FORM\n16.JEEM WITH ALEF MAKSURA ISOLATED FORM\n26.YEH ISOLATED FORM\n16.KHAH WITH ALEF MAKSURA ISOLATED FORM\n" ++
  "26.YEH ISOLATED FORM\n16.SAD WITH ALEF MAKSURA ISOLATED FORM\n25.YEH ISOLATED FORM\n16.DAD WITH ALEF MAKSURA ISOLATED FORM\n" ++
  "25.YEH ISOLATED FORM\n16.SHEEN WITH JEEM ISOLATED FORM\n27.HAH ISOLATED FORM\n27.KHAH ISOLATED FORM\n" ++
  "27.MEEM ISOLATED FORM\n27.REH ISOLATED FORM\n17.EEN WITH REH ISOLATED FORM\n17.AD WITH REH ISOLATED FORM\n" ++
  "16.DAD WITH REH ISOLATED FORM\n16.TAH WITH ALEF MAKSURA FINAL FORM\n25.YEH FINAL FORM\n16.AIN WITH ALEF MAKSURA FINAL FORM\n" ++
  "25.YEH FINAL FORM\n16.GHAIN WITH ALEF MAKSURA FINAL FORM\n27.YEH FINAL FORM\n16.SEEN WITH ALEF MAKSURA FINAL FORM\n" ++
  "26.YEH FINAL FORM\n17.HEEN WITH ALEF MAKSURA FINAL FORM\n27.YEH FINAL FORM\n16.HAH WITH ALEF MAKSURA FINAL FORM\n" ++
  "25.YEH FINAL FORM\n16.JEEM WITH ALEF MAKSURA FINAL FORM\n26.YEH FINAL FORM\n16.KHAH WITH ALEF MAKSURA FINAL FORM\n" ++
  "26.YEH FINAL FORM\n16.SAD WITH ALEF MAKSURA FINAL FORM\n25.YEH FINAL FORM\n16.DAD WITH ALEF MAKSURA FINAL FORM\n" ++
  "25.YEH FINAL FORM\n16.SHEEN WITH JEEM FINAL FORM\n27.HAH FINAL FORM\n27.KHAH FINAL FORM\n27.MEEM FINAL FORM\n" ++
  "27.REH FINAL FORM\n17.EEN WITH REH FINAL FORM\n17.AD WITH REH FINAL FORM\n16.DAD WITH REH FINAL FORM\n" ++
  "16.SHEEN WITH JEEM INITIAL FORM\n27.HAH INITIAL FORM\n27.KHAH INITIAL FORM\n27.MEEM INITIAL FORM\n" ++
  "17.EEN WITH HEH INITIAL FORM\n17.HEEN WITH HEH INITIAL FORM\n16.TAH WITH MEEM INITIAL FORM\n16.SEEN WITH JEEM MEDIAL FORM\n" ++
  "26.HAH MEDIAL FORM\n26.KHAH MEDIAL FORM\n17.HEEN WITH JEEM MEDIAL FORM\n27.HAH MEDIAL FORM\n27.KHAH MEDIAL FORM\n" ++
  "16.TAH WITH MEEM MEDIAL FORM\n16.ZAH WITH MEEM MEDIAL FORM\n16.ALEF WITH FATHATAN FINAL FORM\n" ++
  "35.ISOLATED FORM\n0.ORNATE LEFT PARENTHESIS\n7.RIGHT PARENTHESIS\n0.ARABIC LIGATURE RAHIMAHU ALLAAH\n" ++
  "18.DI ALLAAHU ANH\n32.AA\n32.UM\n34.AA\n33.NNA\n16.SALLALLAAHU ALAYHI WA-AALIH\n16.ALAYHI AS-SALAAM\n" ++
  "22.M AS-SALAAM\n23.AA AS-SALAAM\n22. AS-SALAATU WAS-SALAAM\n16.QUDDISA SIRRAH\n16.SALLALLAHU ALAYHI WAAALIHEE WA-SALLAM\n" ++
  "16.ALAYHAA AS-SALAAM\n16.TABAARAKA WA-TAAALAA\n16.RAHIMAHUM ALLAAH\n16.TEH WITH JEEM WITH MEEM INITIAL FORM\n" ++
  "25.HAH WITH JEEM FINAL FORM\n39.INITIAL FORM\n34.MEEM INITIAL FORM\n25.KHAH WITH MEEM INITIAL FORM\n" ++
  "25.MEEM WITH JEEM INITIAL FORM\n35.HAH INITIAL FORM\n35.KHAH INITIAL FORM\n16.JEEM WITH MEEM WITH HAH FINAL FORM\n" ++
  "40.INITIAL FORM\n16.HAH WITH MEEM WITH YEH FINAL FORM\n35.ALEF MAKSURA FINAL FORM\n16.SEEN WITH HAH WITH JEEM INITIAL FORM\n" ++
  "26.JEEM WITH HAH INITIAL FORM\n36.ALEF MAKSURA FINAL FORM\n26.MEEM WITH HAH FINAL FORM\n40.INITIAL FORM\n" ++
  "36.JEEM INITIAL FORM\n36.MEEM FINAL FORM\n41.INITIAL FORM\n17.AD WITH HAH WITH HAH FINAL FORM\n" ++
  "38.INITIAL FORM\n25.MEEM WITH MEEM FINAL FORM\n17.HEEN WITH HAH WITH MEEM FINAL FORM\n41.INITIAL FORM\n" ++
  "27.JEEM WITH YEH FINAL FORM\n27.MEEM WITH KHAH FINAL FORM\n42.INITIAL FORM\n37.MEEM FINAL FORM\n" ++
  "42.INITIAL FORM\n16.DAD WITH HAH WITH ALEF MAKSURA FINAL FORM\n25.KHAH WITH MEEM FINAL FORM\n" ++
  "40.INITIAL FORM\n16.TAH WITH MEEM WITH HAH FINAL FORM\n39.INITIAL FORM\n35.MEEM INITIAL FORM\n" ++
  "35.YEH FINAL FORM\n16.AIN WITH JEEM WITH MEEM FINAL FORM\n25.MEEM WITH MEEM FINAL FORM\n40.INITIAL FORM\n" ++
  "35.ALEF MAKSURA FINAL FORM\n16.GHAIN WITH MEEM WITH MEEM FINAL FORM\n37.YEH FINAL FORM\n37.ALEF MAKSURA FINAL FORM\n" ++
  "16.FEH WITH KHAH WITH MEEM FINAL FORM\n40.INITIAL FORM\n16.QAF WITH MEEM WITH HAH FINAL FORM\n" ++
  "35.MEEM FINAL FORM\n16.LAM WITH HAH WITH MEEM FINAL FORM\n34.YEH FINAL FORM\n34.ALEF MAKSURA FINAL FORM\n" ++
  "25.JEEM WITH JEEM INITIAL FORM\n40.FINAL FORM\n25.KHAH WITH MEEM FINAL FORM\n40.INITIAL FORM\n" ++
  "25.MEEM WITH HAH FINAL FORM\n39.INITIAL FORM\n16.MEEM WITH HAH WITH JEEM INITIAL FORM\n35.MEEM INITIAL FORM\n" ++
  "35.YEH FINAL FORM\n26.JEEM WITH HAH INITIAL FORM\n36.MEEM INITIAL FORM\n26.KHAH WITH JEEM INITIAL FORM\n" ++
  "36.MEEM INITIAL FORM\nFD92:26.JEEM WITH KHAH INITIAL FORM\n16.HEH WITH MEEM WITH JEEM INITIAL FORM\n" ++
  "35.MEEM INITIAL FORM\n16.NOON WITH HAH WITH MEEM INITIAL FORM\n35.ALEF MAKSURA FINAL FORM\n26.JEEM WITH MEEM FINAL FORM\n" ++
  "41.INITIAL FORM\n36.ALEF MAKSURA FINAL FORM\n26.MEEM WITH YEH FINAL FORM\n36.ALEF MAKSURA FINAL FORM\n" ++
  "16.YEH WITH MEEM WITH MEEM FINAL FORM\n40.INITIAL FORM\n16.BEH WITH KHAH WITH YEH FINAL FORM\n" ++
  "16.TEH WITH JEEM WITH YEH FINAL FORM\n35.ALEF MAKSURA FINAL FORM\n25.KHAH WITH YEH FINAL FORM\n" ++
  "35.ALEF MAKSURA FINAL FORM\n25.MEEM WITH YEH FINAL FORM\n35.ALEF MAKSURA FINAL FORM\n16.JEEM WITH MEEM WITH YEH FINAL FORM\n" ++
  "26.HAH WITH ALEF MAKSURA FINAL FORM\n26.MEEM WITH ALEF MAKSURA FINAL FORM\n16.SEEN WITH KHAH WITH ALEF MAKSURA FINAL FORM\n" ++
  "17.AD WITH HAH WITH YEH FINAL FORM\n17.HEEN WITH HAH WITH YEH FINAL FORM\n16.DAD WITH HAH WITH YEH FINAL FORM\n" ++
  "16.LAM WITH JEEM WITH YEH FINAL FORM\n25.MEEM WITH YEH FINAL FORM\n16.YEH WITH HAH WITH YEH FINAL FORM\n" ++
  "25.JEEM WITH YEH FINAL FORM\n25.MEEM WITH YEH FINAL FORM\n16.MEEM WITH MEEM WITH YEH FINAL FORM\n" ++
  "16.QAF WITH MEEM WITH YEH FINAL FORM\n16.NOON WITH HAH WITH YEH FINAL FORM\n16.QAF WITH MEEM WITH HAH INITIAL FORM\n" ++
  "16.LAM WITH HAH WITH MEEM INITIAL FORM\n16.AIN WITH MEEM WITH YEH FINAL FORM\n16.KAF WITH MEEM WITH YEH FINAL FORM\n" ++
  "16.NOON WITH JEEM WITH HAH INITIAL FORM\n16.MEEM WITH KHAH WITH YEH FINAL FORM\n16.LAM WITH JEEM WITH MEEM INITIAL FORM\n" ++
  "16.KAF WITH MEEM WITH MEEM FINAL FORM\n16.LAM WITH JEEM WITH MEEM FINAL FORM\n16.NOON WITH JEEM WITH HAH FINAL FORM\n" ++
  "16.JEEM WITH HAH WITH YEH FINAL FORM\n16.HAH WITH JEEM WITH YEH FINAL FORM\n16.MEEM WITH JEEM WITH YEH FINAL FORM\n" ++
  "16.FEH WITH MEEM WITH YEH FINAL FORM\n16.BEH WITH HAH WITH YEH FINAL FORM\n16.KAF WITH MEEM WITH MEEM INITIAL FORM\n" ++
  "16.AIN WITH JEEM WITH MEEM INITIAL FORM\n16.SAD WITH MEEM WITH MEEM INITIAL FORM\n17.EEN WITH KHAH WITH YEH FINAL FORM\n"

/-- Part 7 of `nameLines`. -/
def nameLinesPart7 : String :=
  "16.NOON WITH JEEM WITH YEH FINAL FORM\nFDCF:16.SALAAMUHU ALAYNAA\nFDF0:19.LA USED AS KORANIC STOP SIGN ISOLATED FORM\n" ++
  "16.QALA USED AS KORANIC STOP SIGN ISOLATED FORM\n16.ALLAH ISOLATED FORM\n17.KBAR ISOLATED FORM\n" ++
  "16.MOHAMMAD ISOLATED FORM\n16.SALAM ISOLATED FORM\n16.RASOUL ISOLATED FORM\n16.ALAYHE ISOLATED FORM\n" ++
  "16.WASALLAM ISOLATED FORM\n16.SALLA ISOLATED FORM\n21.LLAHOU ALAYHE WASALLAM\n16.JALLAJALALOUHOU\n" ++
  "0.RIAL SIGN\n0.ARABIC LIGATURE BISMILLAH AR-RAHMAN AR-RAHEEM\n16.SUBHAANAHU WA TAAALAA\n16.AZZA WA JALL\n" ++
  "0.VARIATION SELECTOR-1\n19.2\n19.3\n19.4\n19.5\n19.6\n19.7\n19.8\n19.9\n19.10\n20.1\n20.2\n20.3\n" ++
  "20.4\n20.5\n20.6\n0.PRESENTATION FORM FOR VERTICAL COMMA\n31.IDEOGRAPHIC COMMA\n43.FULL STOP\n" ++
  "31.COLON\n31.SEMICOLON\n31.EXCLAMATION MARK\n31.QUESTION MARK\n31.LEFT WHITE LENTICULAR BRACKET\n" ++
  "31.RIGHT WHITE LENTICULAR BRAKCET\n31.HORIZONTAL ELLIPSIS\nFE20:0.COMBINING LIGATURE LEFT HALF\n" ++
  "19.RIGHT HALF\n10.DOUBLE TILDE LEFT HALF\n23.RIGHT HALF\n10.MACRON LEFT HALF\n17.RIGHT HALF\n" ++
  "10.CONJOINING MACRON\n10.LIGATURE LEFT HALF BELOW\n19.RIGHT HALF BELOW\n10.TILDE LEFT HALF BELOW\n" ++
  "16.RIGHT HALF BELOW\n10.MACRON LEFT HALF BELOW\n17.RIGHT HALF BELOW\n10.CONJOINING MACRON BELOW\n" ++
  "11.YRILLIC TITLO LEFT HALF\n25.RIGHT HALF\n0.PRESENTATION FORM FOR VERTICAL TWO DOT LEADER\n31.EM DASH\n" ++
  "32.N DASH\n31.LOW LINE\n31.WAVY LOW LINE\n31.LEFT PARENTHESIS\n31.RIGHT PARENTHESIS\n31.LEFT CURLY BRACKET\n" ++
  "31.RIGHT CURLY BRACKET\n31.LEFT TORTOISE SHELL BRACKET\n31.RIGHT TORTOISE SHELL BRACKET\n31.LEFT BLACK LENTICULAR BRACKET\n" ++
  "31.RIGHT BLACK LENTICULAR BRACKET\n31.LEFT DOUBLE ANGLE BRACKET\n31.RIGHT DOUBLE ANGLE BRACKET\n" ++
  "31.LEFT ANGLE BRACKET\n31.RIGHT ANGLE BRACKET\n31.LEFT CORNER BRACKET\n31.RIGHT CORNER BRACKET\n" ++
  "31.LEFT WHITE CORNER BRACKET\n31.RIGHT WHITE CORNER BRACKET\n0.SESAME DOT\n0.WHITE SESAME DOT\n" ++
  "0.PRESENTATION FORM FOR VERTICAL LEFT SQUARE BRACKET\n31.RIGHT SQUARE BRACKET\n0.DASHED OVERLINE\n" ++
  "0.CENTRELINE OVERLINE\n0.WAVY OVERLINE\n0.DOUBLE WAVY OVERLINE\n1.ASHED LOW LINE\n0.CENTRELINE LOW LINE\n" ++
  "0.WAVY LOW LINE\n0.SMALL COMMA\n6.IDEOGRAPHIC COMMA\n6.FULL STOP\nFE54:6.SEMICOLON\n6.COLON\n" ++
  "6.QUESTION MARK\n6.EXCLAMATION MARK\n7.M DASH\n6.LEFT PARENTHESIS\n6.RIGHT PARENTHESIS\n6.LEFT CURLY BRACKET\n" ++
  "6.RIGHT CURLY BRACKET\n6.LEFT TORTOISE SHELL BRACKET\n6.RIGHT TORTOISE SHELL BRACKET\n6.NUMBER SIGN\n" ++
  "6.AMPERSAND\n7.STERISK\n6.PLUS SIGN\n6.HYPHEN-MINUS\n6.LESS-THAN SIGN\n6.GREATER-THAN SIGN\n6.EQUALS SIGN\n" ++
  "FE68:6.REVERSE SOLIDUS\n6.DOLLAR SIGN\n6.PERCENT SIGN\n6.COMMERCIAL AT\nFE70:0.ARABIC FATHATAN ISOLATED FORM\n" ++
  "7.TATWEEL WITH FATHATAN ABOVE\n7.DAMMATAN ISOLATED FORM\n7.TAIL FRAGMENT\n7.KASRATAN ISOLATED FORM\n" ++
  "FE76:7.FATHA ISOLATED FORM\n13.MEDIAL FORM\n7.DAMMA ISOLATED FORM\n13.MEDIAL FORM\n7.KASRA ISOLATED FORM\n" ++
  "13.MEDIAL FORM\n7.SHADDA ISOLATED FORM\n14.MEDIAL FORM\n8.UKUN ISOLATED FORM\n13.MEDIAL FORM\n" ++
  "7.LETTER HAMZA ISOLATED FORM\n14.ALEF WITH MADDA ABOVE ISOLATED FORM\n36.FINAL FORM\n24.HAMZA ABOVE ISOLATED FORM\n" ++
  "36.FINAL FORM\n14.WAW WITH HAMZA ABOVE ISOLATED FORM\n35.FINAL FORM\n14.ALEF WITH HAMZA BELOW ISOLATED FORM\n" ++
  "36.FINAL FORM\n14.YEH WITH HAMZA ABOVE ISOLATED FORM\n35.FINAL FORM\n35.INITIAL FORM\n35.MEDIAL FORM\n" ++
  "14.ALEF ISOLATED FORM\n19.FINAL FORM\n14.BEH ISOLATED FORM\n18.FINAL FORM\n18.INITIAL FORM\n18.MEDIAL FORM\n" ++
  "14.TEH MARBUTA ISOLATED FORM\n26.FINAL FORM\n18.ISOLATED FORM\n18.FINAL FORM\n18.INITIAL FORM\n" ++
  "18.MEDIAL FORM\n15.HEH ISOLATED FORM\n19.FINAL FORM\n19.INITIAL FORM\n19.MEDIAL FORM\n14.JEEM ISOLATED FORM\n" ++
  "19.FINAL FORM\n19.INITIAL FORM\n19.MEDIAL FORM\n14.HAH ISOLATED FORM\n18.FINAL FORM\n18.INITIAL FORM\n" ++
  "18.MEDIAL FORM\n14.KHAH ISOLATED FORM\n19.FINAL FORM\n19.INITIAL FORM\n19.MEDIAL FORM\n14.DAL ISOLATED FORM\n" ++
  "18.FINAL FORM\n14.THAL ISOLATED FORM\n19.FINAL FORM\n14.REH ISOLATED FORM\n18.FINAL FORM\n14.ZAIN ISOLATED FORM\n" ++
  "19.FINAL FORM\n14.SEEN ISOLATED FORM\n19.FINAL FORM\n19.INITIAL FORM\n19.MEDIAL FORM\n15.HEEN ISOLATED FORM\n" ++
  "20.FINAL FORM\n20.INITIAL FORM\n20.MEDIAL FORM\n15.AD ISOLATED FORM\n18.FINAL FORM\n18.INITIAL FORM\n" ++
  "18.MEDIAL FORM\n14.DAD ISOLATED FORM\n18.FINAL FORM\n18.INITIAL FORM\n18.MEDIAL FORM\n14.TAH ISOLATED FORM\n" ++
  "18.FINAL FORM\n18.INITIAL FORM\n18.MEDIAL FORM\n14.ZAH ISOLATED FORM\n18.FINAL FORM\n18.INITIAL FORM\n" ++
  "18.MEDIAL FORM\n14.AIN ISOLATED FORM\n18.FINAL FORM\n18.INITIAL FORM\n18.MEDIAL FORM\n14.GHAIN ISOLATED FORM\n" ++
  "20.FINAL FORM\n20.INITIAL FORM\n20.MEDIAL FORM\n14.FEH ISOLATED FORM\n18.FINAL FORM\n18.INITIAL FORM\n" ++
  "18.MEDIAL FORM\n14.QAF ISOLATED FORM\n18.FINAL FORM\n18.INITIAL FORM\n18.MEDIAL FORM\n14.KAF ISOLATED FORM\n" ++
  "18.FINAL FORM\n18.INITIAL FORM\n18.MEDIAL FORM\n14.LAM ISOLATED FORM\n18.FINAL FORM\n18.INITIAL FORM\n" ++
  "18.MEDIAL FORM\n14.MEEM ISOLATED FORM\n19.FINAL FORM\n19.INITIAL FORM\n19.MEDIAL FORM\n14.NOON ISOLATED FORM\n" ++
  "19.FINAL FORM\n19.INITIAL FORM\n19.MEDIAL FORM\n14.HEH ISOLATED FORM\n18.FINAL FORM\n18.INITIAL FORM\n" ++
  "18.MEDIAL FORM\n14.WAW ISOLATED FORM\n18.FINAL FORM\n14.ALEF MAKSURA ISOLATED FORM\n27.FINAL FORM\n" ++
  "14.YEH ISOLATED FORM\n18.FINAL FORM\n18.INITIAL FORM\n18.MEDIAL FORM\n8.IGATURE LAM WITH ALEF WITH MADDA ABOVE ISOLATED FORM\n" ++
  "47.FINAL FORM\n35.HAMZA ABOVE ISOLATED FORM\n47.FINAL FORM\n41.BELOW ISOLATED FORM\n47.FINAL FORM\n" ++
  "30.ISOLATED FORM\n30.FINAL FORM\nFEFF:0.ZERO WIDTH NO-BREAK SPACE\nFF01:0.FULLWIDTH EXCLAMATION MARK\n" ++
  "10.QUOTATION MARK\n10.NUMBER SIGN\n10.DOLLAR SIGN\n10.PERCENT SIGN\n10.AMPERSAND\n11.POSTROPHE\n" ++
  "10.LEFT PARENTHESIS\n10.RIGHT PARENTHESIS\n10.ASTERISK\n10.PLUS SIGN\n10.COMMA\n10.HYPHEN-MINUS\n" ++
  "10.FULL STOP\n10.SOLIDUS\n10.DIGIT ZERO\n16.ONE\n16.TWO\n17.HREE\n16.FOUR\n17.IVE\n16.SIX\n17.EVEN\n" ++
  "16.EIGHT\n16.NINE\n10.COLON\n10.SEMICOLON\n10.LESS-THAN SIGN\n10.EQUALS SIGN\n10.GREATER-THAN SIGN\n" ++
  "10.QUESTION MARK\n10.COMMERCIAL AT\n10.LATIN CAPITAL LETTER A\n31.B\n31.C\n31.D\n31.E\n31.F\n" ++
  "31.G\n31.H\n31.I\n31.J\n31.K\n31.L\n31.M\n31.N\n31.O\n31.P\n31.Q\n31.R\n31.S\n31.T\n31.U\n31.V\n" ++
  "31.W\n31.X\n31.Y\n31.Z\n11.EFT SQUARE BRACKET\n10.REVERSE SOLIDUS\n11.IGHT SQUARE BRACKET\n10.CIRCUMFLEX ACCENT\n" ++
  "10.LOW LINE\n10.GRAVE ACCENT\n10.LATIN SMALL LETTER A\n29.B\n29.C\n29.D\n29.E\n29.F\n29.G\n29.H\n" ++
  "29.I\n29.J\n29.K\n29.L\n29.M\n29.N\n29.O\n29.P\n29.Q\n29.R\n29.S\n29.T\n29.U\n29.V\n29.W\n29.X\n" ++
  "29.Y\n29.Z\n11.EFT CURLY BRACKET\n10.VERTICAL LINE\n10.RIGHT CURLY BRACKET\n10.TILDE\n10.LEFT WHITE PARENTHESIS\n" ++
  "10.RIGHT WHITE PARENTHESIS\n0.HALFWIDTH IDEOGRAPHIC FULL STOP\n10.LEFT CORNER BRACKET\n10.RIGHT CORNER BRACKET\n" ++
  "10.IDEOGRAPHIC COMMA\n10.KATAKANA MIDDLE DOT\n19.LETTER WO\n26.SMALL A\n32.I\n32.U\n32.E\n32.O\n" ++
  "32.YA\n33.U\n33.O\n32.TU\n18.-HIRAGANA PROLONGED SOUND MARK\n18. LETTER A\n26.I\n26.U\n26.E\n" ++
  "26.O\n26.KA\n27.I\n27.U\n27.E\n27.O\n26.SA\n27.I\n27.U\n27.E\n27.O\n26.TA\n27.I\n27.U\n27.E\n" ++
  "27.O\n26.NA\n27.I\n27.U\n27.E\n27.O\n26.HA\n27.I\n27.U\n27.E\n27.O\n26.MA\n27.I\n27.U\n27.E\n" ++
  "27.O\n26.YA\n27.U\n27.O\n26.RA\n27.I\n27.U\n27.E\n27.O\n26.WA\n26.N\n19.VOICED SOUND MARK\n19.SEMI-VOICED SOUND MARK\n" ++
  "10.HANGUL FILLER\n17.LETTER KIYEOK\n24.SSANGKIYEOK\n24.KIYEOK-SIOS\n24.NIEUN\n29.-CIEUC\n30.HIEUH\n" ++
  "24.TIKEUT\n24.SSANGTIKEUT\n24.RIEUL\n29.-KIYEOK\n30.MIEUM\n30.PIEUP\n30.SIOS\n30.THIEUTH\n30.PHIEUPH\n" ++
  "30.HIEUH\n24.MIEUM\n24.PIEUP\n24.SSANGPIEUP\n24.PIEUP-SIOS\n24.SIOS\n25.SANGSIOS\n24.IEUNG\n24.CIEUC\n" ++
  "24.SSANGCIEUC\n24.CHIEUCH\n24.KHIEUKH\n24.THIEUTH\n24.PHIEUPH\n24.HIEUH\nFFC2:24.A\n25.E\n24.YA\n" ++
  "26.E\n24.EO\n25.\nFFCA:24.YEO\n26.\n24.O\n24.WA\n26.E\n24.OE\nFFD2:24.YO\n24.U\n24.WEO\n26.\n" ++
  "25.I\n24.YU\nFFDA:24.EU\n24.YI\n24.I\nFFE0:0.FULLWIDTH CENT SIGN\n10.POUND SIGN\n10.NOT SIGN\n" ++
  "10.MACRON\n10.BROKEN BAR\n10.YEN SIGN\n10.WON SIGN\nFFE8:0.HALFWIDTH FORMS LIGHT VERTICAL\n10.LEFTWARDS ARROW\n" ++
  "10.UPWARDS ARROW\n10.RIGHTWARDS ARROW\n10.DOWNWARDS ARROW\n10.BLACK SQUARE\n10.WHITE CIRCLE\n" ++
  "FFF9:0.INTERLINEAR ANNOTATION ANCHOR\n23.SEPARATOR\n23.TERMINATOR\n0.OBJECT REPLACEMENT CHARACTER\n" ++
  "0.REPLACEMENT CHARACTER\n10000:0.LINEAR B SYLLABLE B008 A\n20.38 E\n20.28 I\n20.61 O\n20.10 U\n" ++
  "20.01 DA\n20.45 DE\n20.07 DI\n20.14 DO\n20.51 DU\n21.7 JA\n20.46 JE\n1000D:20.36 JO\n20.65 JU\n" ++
  "20.77 KA\n20.44 KE\n20.67 KI\n20.70 KO\n20.81 KU\n21.0 MA\n20.13 ME\n20.73 MI\n20.15 MO\n20.23 MU\n" ++
  "20.06 NA\n20.24 NE\n20.30 NI\n20.52 NO\n21.5 NU\n20.03 PA\n20.72 PE\n20.39 PI\n20.11 PO\n20.50 PU\n" ++
  "20.16 QA\n20.78 QE\n20.21 QI\n20.32 QO\n10028:20.60 RA\n20.27 RE\n20.53 RI\n20.02 RO\n20.26 RU\n" ++
  "20.31 SA\n20.09 SE\n20.41 SI\n20.12 SO\n20.58 SU\n21.9 TA\n20.04 TE\n20.37 TI\n20.05 TO\n20.69 TU\n" ++
  "20.54 WA\n20.75 WE\n20.40 WI\n21.2 WO\n1003C:20.17 ZA\n20.74 ZE\n1003F:20.20 ZO\n21.5 A2\n20.43 A3\n" ++
  "20.85 AU\n20.71 DWE\n20.90 DWO\n20.48 NWA\n20.29 PU2\n20.62 PTE\n20.76 RA2\n20.33 RA3\n20.68 RO2\n" ++
  "21.6 TA2\n20.87 TWE\n20.91 TWO\n10050:11.MBOL B018\n19.9\n18.22\n18.34\n18.47\n19.9\n18.56\n18.63\n" ++
  "19.4\n18.79\n18.82\n19.3\n19.6\n19.9\n10080:9.IDEOGRAM B100 MAN\n21.2 WOMAN\n21.4 DEER\n21.5 EQUID\n" ++
  "22.F MARE\n22.M STALLION\n21.6F EWE\n22.M RAM\n21.7F SHE-GOAT\n22.M HE-GOAT\n21.8F SOW\n22.M BOAR\n" ++
  "21.9F COW\n22.M BULL\n20.20 WHEAT\n21.1 BARLEY\n21.2 OLIVE\n21.3 SPICE\n21.5 CYPERUS\n9.MONOGRAM B127 KAPO\n" ++
  "21.8 KANAKO\n9.IDEOGRAM B130 OIL\n21.1 WINE\n21.2\n9.MONOGRAM B133 AREPA\n21.5 MERI\n9.IDEOGRAM B140 BRONZE\n" ++
  "21.1 GOLD\n21.2\n21.5 WOOL\n21.6\n20.50\n21.1 HORN\n21.2\n21.3\n21.4\n9.MONOGRAM B156 TURO2\n" ++
  "9.IDEOGRAM B157\n21.8\n21.9 CLOTH\n20.60\n21.1\n21.2 GARMENT\n21.3 ARMOUR\n21.4\n21.5\n21.6\n" ++
  "21.7\n21.8\n21.9\n20.70\n21.1\n21.2\n21.3 MONTH\n21.4\n21.6 TREE\n21.7\n21.8\n21.9\n20.80\n21.1\n" ++
  "21.2\n21.3\n21.4\n21.5\n21.9\n20.90\n21.1 HELMET\n19.220 FOOTSTOOL\n21.5 BATHTUB\n20.30 SPEAR\n" ++
  "21.1 ARROW\n21.2\n21.3 SWORD\n21.4\n21.6\n20.40 WHEELED CHARIOT\n21.1 CHARIOT\n21.2 CHARIOT FRAME\n" ++
  "21.3 WHEEL\n21.5\n21.6\n9.MONOGRAM B247 DIPTE\n9.IDEOGRAM B248\n21.9\n20.51\n21.2\n21.3\n21.4 DART\n" ++
  "21.5\n21.6\n21.7\n21.8\n21.9\n18.VESSEL B155\n26.200\n28.1\n28.2\n28.3\n28.4\n28.5\n28.6\n28.7\n" ++
  "28.8\n28.9\n27.10\n28.1\n28.2\n28.3\n28.4\n28.5\n28.6\n28.7\n28.8\n28.9\n27.21\n28.2\n28.6\n28.7\n" ++
  "28.8\n28.9\n27.50\n26.305\n10100:0.AEGEAN WORD SEPARATOR LINE\n22.DOT\n7.CHECK MARK\n10107:7.NUMBER ONE\n" ++
  "14.TWO\n15.HREE\n14.FOUR\n15.IVE\n14.SIX\n15.EVEN\n14.EIGHT\n14.NINE\n14.TEN\n15.WENTY\n15.HIRTY\n" ++
  "14.FORTY\n15.IFTY\n14.SIXTY\n15.EVENTY\n14.EIGHTY\n14.NINETY\n14.ONE HUNDRED\n14.TWO HUNDRED\n" ++
  "15.HREE HUNDRED\n14.FOUR HUNDRED\n15.IVE HUNDRED\n14.SIX HUNDRED\n15.EVEN HUNDRED\n14.EIGHT HUNDRED\n" ++
  "14.NINE HUNDRED\n14.ONE THOUSAND\n14.TWO THOUSAND\n15.HREE THOUSAND\n14.FOUR THOUSAND\n15.IVE THOUSAND\n" ++
  "14.SIX THOUSAND\n15.EVEN THOUSAND\n14.EIGHT THOUSAND\n14.NINE THOUSAND\n14.TEN THOUSAND\n15.WENTY THOUSAND\n" ++
  "15.HIRTY THOUSAND\n14.FORTY THOUSAND\n15.IFTY THOUSAND\n14.SIXTY THOUSAND\n15.EVENTY THOUSAND\n" ++
  "14.EIGHTY THOUSAND\n14.NINETY THOUSAND\n10137:7.WEIGHT BASE UNIT\n14.FIRST SUBUNIT\n14.SECOND SUBUNIT\n" ++
  "14.THIRD SUBUNIT\n14.FOURTH SUBUNIT\n7.DRY MEASURE FIRST SUBUNIT\n7.LIQUID MEASURE FIRST SUBUNIT\n" ++
  "7.MEASURE SECOND SUBUNIT\n15.THIRD SUBUNIT\n0.GREEK ACROPHONIC ATTIC ONE QUARTER\n27.HALF\n27.DRACHMA\n" ++
  "23.FIVE\n25.FTY\n25.VE HUNDRED\n28.THOUSAND\n25.FTY THOUSAND\n25.VE TALENTS\n23.TEN TALENTS\n" ++
  "23.FIFTY TALENTS\n23.ONE HUNDRED TALENTS\n23.FIVE HUNDRED TALENTS\n23.ONE THOUSAND TALENTS\n23.FIVE THOUSAND TALENTS\n" ++
  "28.STATERS\n23.TEN STATERS\n23.FIFTY STATERS\n23.ONE HUNDRED STATERS\n23.FIVE HUNDRED STATERS\n" ++
  "23.ONE THOUSAND STATERS\n23.TEN THOUSAND STATERS\n23.FIFTY THOUSAND STATERS\n23.TEN MNAS\n17.HERAEUM ONE PLETHRON\n" ++
  "17.THESPIAN ONE\n17.HERMIONIAN ONE\n17.EPIDAUREAN TWO\n17.THESPIAN TWO\n17.CYRENAIC TWO DRACHMAS\n" ++
  "17.EPIDAUREAN TWO DRACHMAS\n17.TROEZENIAN FIVE\n28.TEN\n31. ALTERNATE FORM\n17.HERMIONIAN TEN\n" ++
  "17.MESSENIAN TEN\n17.THESPIAN TEN\n27.HIRTY\n18.ROEZENIAN FIFTY\n33. ALTERNATE FORM\n17.HERMIONIAN FIFTY\n" ++
  "17.THESPIAN FIFTY\n26.ONE HUNDRED\n26.THREE HUNDRED\n17.EPIDAUREAN FIVE HUNDRED\n17.TROEZENIAN FIVE HUNDRED\n" ++
  "18.HESPIAN FIVE HUNDRED\n17.CARYSTIAN FIVE HUNDRED\n17.NAXIAN FIVE HUNDRED\n17.THESPIAN ONE THOUSAND\n" ++
  "26.FIVE THOUSAND\n17.DELPHIC FIVE MNAS\n17.STRATIAN FIFTY MNAS\n6.ONE HALF SIGN\n19. ALTERNATE FORM\n" ++
  "6.TWO THIRDS SIGN\n7.HREE QUARTERS SIGN\n6.YEAR SIGN\n6.TALENT SIGN\n6.DRACHMA SIGN\n6.OBOL SIGN\n" ++
  "6.TWO OBOLS SIGN\n7.HREE OBOLS SIGN\n6.FOUR OBOLS SIGN\n7.IVE OBOLS SIGN\n6.METRETES SIGN\n6.KYATHOS BASE SIGN\n" ++
  "6.LITRA SIGN\n6.OUNKIA SIGN\n6.XESTES SIGN\n6.ARTABE SIGN\n8.OURA SIGN\n6.GRAMMA SIGN\n6.TRYBLION BASE SIGN\n" ++
  "6.ZERO SIGN\n6.ONE QUARTER SIGN\n6.SINUSOID SIGN\n6.INDICTION SIGN\n0.NOMISMA SIGN\n10190:0.ROMAN SEXTANS SIGN\n" ++
  "6.UNCIA SIGN\n6.SEMUNCIA SIGN\n8.XTULA SIGN\n6.DIMIDIA SEXTULA SIGN\n6.SILIQUA SIGN\n6.DENARIUS SIGN\n" ++
  "6.QUINARIUS SIGN\n6.SESTERTIUS SIGN\n6.DUPONDIUS SIGN\n6.AS SIGN\n6.CENTURIAL SIGN\n0.ASCIA SYMBOL\n" ++
  "101A0:0.GREEK SYMBOL TAU RHO\n101D0:0.PHAISTOS DISC SIGN PEDESTRIAN\n20.LUMED HEAD\n19.TATTOOED HEAD\n" ++
  "19.CAPTIVE\n20.HILD\n19.WOMAN\n19.HELMET\n19.GAUNTLET\n19.TIARA\n19.ARROW\n19.BOW\n19.SHIELD\n" ++
  "19.CLUB\n19.MANACLES\n21.TTOCK\n19.SAW\n19.LID\n19.BOOMERANG\n19.CARPENTRY PLANE\n19.DOLIUM\n" ++
  "19.COMB\n19.SLING\n19.COLUMN\n19.BEEHIVE\n19.SHIP\n19.HORN\n20.IDE\n19.BULLS LEG\n19.CAT\n19.RAM\n" ++
  "19.EAGLE\n19.DOVE\n19.TUNNY\n19.BEE\n19.PLANE TREE\n19.VINE\n19.PAPYRUS\n19.ROSETTE\n19.LILY\n" ++
  "19.OX BACK\n19.FLUTE\n19.GRATER\n19.STRAINER\n20.MALL AXE\n19.WAVY BAND\n19.COMBINING OBLIQUE STROKE\n" ++
  "10280:0.LYCIAN LETTER A\n14.E\n14.B\n15.H\n14.G\n14.D\n14.I\n14.W\n14.Z\n14.TH\n14.J\n14.K\n14.Q\n" ++
  "14.L\n14.M\n14.N\n14.MM\n14.NN\n14.U\n14.P\n14.KK\n14.R\n14.S\n14.T\n15.T\n14.AN\n14.EN\n14.H\n" ++
  "14.X\n102A0:0.CARIAN LETTER A\n14.P2\n14.D\n14.L\n14.UUU\n14.R\n14.LD\n14.A2\n14.Q\n14.B\n14.M\n" ++
  "14.O\n14.D2\n14.T\n14.SH\n16.2\n15.\n14.C-18\n14.U\n14.NN\n14.X\n14.N\n14.TT2\n14.P\n14.SS\n14.I\n" ++
  "14.E\n14.UUUU\n14.K\n15.2\n14.ND\n14.UU\n14.G\n15.2\n14.ST\n16.2\n14.NG\n14.II\n14.C-39\n14.TT\n" ++
  "14.UUU2\n14.RR\n14.MB\n16.2\n16.3\n16.4\n14.LD2\n14.E2\n14.UUU3\n102E0:1.OPTIC EPACT THOUSANDS MARK\n" ++
  "13.DIGIT ONE\n19.TWO\n20.HREE\n19.FOUR\n20.IVE\n19.SIX\n20.EVEN\n19.EIGHT\n19.NINE\n13.NUMBER TEN\n" ++
  "21.WENTY\n21.HIRTY\n20.FORTY\n21.IFTY\n20.SIXTY\n21.EVENTY\n20.EIGHTY\n20.NINETY\n20.ONE HUNDRED\n" ++
  "20.TWO HUNDRED\n21.HREE HUNDRED\n20.FOUR HUNDRED\n21.IVE HUNDRED\n20.SIX HUNDRED\n21.EVEN HUNDRED\n" ++
  "20.EIGHT HUNDRED\n20.NINE HUNDRED\n10300:0.OLD ITALIC LETTER A\n18.BE\n18.KE\n18.DE\n18.E\n18.VE\n" ++
  "18.ZE\n18.HE\n18.THE\n18.I\n18.KA\n18.EL\n19.M\n19.N\n19.SH\n18.O\n18.PE\n18.SHE\n18.KU\n18.ER\n" ++
  "19.S\n18.TE\n18.U\n18.EKS\n18.PHE\n18.KHE\n18.EF\n19.RS\n18.CHE\n18.II\n18.UU\n18.ESS\n11.NUMERAL ONE\n" ++
  "19.FIVE\n19.TEN\n19.FIFTY\n1032D:11.LETTER YE\n18.NORTHERN TSE\n18.SOUTHERN TSE\n0.GOTHIC LETTER AHSA\n" ++
  "14.BAIRKAN\n14.GIBA\n14.DAGS\n14.AIHVUS\n14.QAIRTHRA\n14.IUJA\n14.HAGL\n14.THIUTH\n14.EIS\n14.KUSMA\n" ++
  "14.LAGUS\n14.MANNA\n14.NAUTHS\n14.JER\n14.URUS\n14.PAIRTHRA\n14.NINETY\n14.RAIDA\n14.SAUIL\n14.TEIWS\n" ++
  "14.WINJA\n14.FAIHU\n14.IGGWS\n14.HWAIR\n14.OTHAL\n14.NINE HUNDRED\n10350:0.OLD PERMIC LETTER AN\n" ++
  "18.BUR\n18.GAI\n18.DOI\n18.E\n18.ZHOI\n18.DZHOI\n18.ZATA\n18.DZITA\n18.I\n18.KOKE\n18.LEI\n18.MENOE\n" ++
  "18.NENOE\n18.VOOI\n18.PEEI\n18.REI\n18.SII\n18.TAI\n18.U\n18.CHERY\n18.SHOOI\n20.CHOOI\n18.YRY\n" ++
  "19.ERU\n18.O\n19.O\n18.EF\n18.HA\n18.TSIU\n18.VER\n18.YER\n21.I\n19.AT\n18.IE\n18.YU\n19.A\n18.IA\n" ++
  "0.COMBINING OLD PERMIC LETTER AN\n28.DOI\n28.ZATA\n28.NENOE\n28.SII\n10380:0.UGARITIC LETTER ALPA\n" ++
  "16.BETA\n16.GAMLA\n16.KHA\n16.DELTA\n16.HO\n16.WO\n16.ZETA\n16.HOTA\n16.TET\n16.YOD\n16.KAF\n" ++
  "16.SHIN\n16.LAMDA\n16.MEM\n16.DHAL\n16.NUN\n16.ZU\n16.SAMKA\n16.AIN\n16.PU\n16.SADE\n16.QOPA\n" ++
  "16.RASHA\n16.THANNA\n16.GHAIN\n16.TO\n16.I\n16.U\n16.SSU\n1039F:9.WORD DIVIDER\n0.OLD PERSIAN SIGN A\n" ++
  "17.I\n17.U\n17.KA\n18.U\n17.GA\n18.U\n17.XA\n17.CA\n17.JA\n18.I\n17.TA\n18.U\n17.DA\n18.I\n18.U\n" ++
  "17.THA\n17.PA\n17.BA\n17.FA\n17.NA\n18.U\n17.MA\n18.I\n18.U\n17.YA\n17.VA\n18.I\n17.RA\n18.U\n" ++
  "17.LA\n17.SA\n17.ZA\n17.SHA\n18.SA\n17.HA\n103C8:17.AURAMAZDAA\n27.-2\n27.HA\n17.XSHAAYATHIYA\n" ++
  "17.DAHYAAUSH\n26.-2\n17.BAGA\n18.UUMISH\n12.WORD DIVIDER\n12.NUMBER ONE\n19.TWO\n20.EN\n20.WENTY\n" ++
  "19.HUNDRED\n10400:0.DESERET CAPITAL LETTER LONG I\n28.E\n28.A\n29.H\n28.O\n29.O\n23.SHORT I\n" ++
  "29.E\n29.A\n30.H\n29.O\n30.O\n23.AY\n23.OW\n23.WU\n23.YEE\n23.H\n23.PEE\n23.BEE\n23.TEE\n23.DEE\n" ++
  "23.CHEE\n23.JEE\n23.KAY\n23.GAY\n23.EF\n23.VEE\n23.ETH\n23.THEE\n23.ES\n23.ZEE\n23.ESH\n23.ZHEE\n" ++
  "23.ER\n24.L\n24.M\n24.N\n25.G\n23.OI\n23.EW\n8.SMALL LETTER LONG I\n26.E\n26.A\n27.H\n26.O\n27.O\n" ++
  "21.SHORT I\n27.E\n27.A\n28.H\n27.O\n28.O\n21.AY\n21.OW\n21.WU\n21.YEE\n21.H\n21.PEE\n21.BEE\n" ++
  "21.TEE\n21.DEE\n21.CHEE\n21.JEE\n21.KAY\n21.GAY\n21.EF\n21.VEE\n21.ETH\n21.THEE\n21.ES\n21.ZEE\n" ++
  "21.ESH\n21.ZHEE\n21.ER\n22.L\n22.M\n22.N\n23.G\n21.OI\n21.EW\n0.SHAVIAN LETTER PEEP\n15.TOT\n" ++
  "15.KICK\n15.FEE\n15.THIGH\n15.SO\n16.URE\n15.CHURCH\n15.YEA\n15.HUNG\n15.BIB\n15.DEAD\n15.GAG\n" ++
  "15.VOW\n15.THEY\n15.ZOO\n15.MEASURE\n15.JUDGE\n15.WOE\n15.HA-HA\n15.LOLL\n15.MIME\n15.IF\n15.EGG\n" ++
  "15.ASH\n16.DO\n15.ON\n15.WOOL\n15.OUT\n15.AH\n15.ROAR\n15.NUN\n15.EAT\n15.AGE\n15.ICE\n15.UP\n" ++
  "15.OAK\n16.OZE\n16.IL\n15.AWE\n16.RE\n15.OR\n15.AIR\n15.ERR\n15.ARRAY\n15.EAR\n15.IAN\n15.YEW\n" ++
  "0.OSMANYA LETTER ALEF\n15.BA\n15.TA\n15.JA\n15.XA\n15.KHA\n15.DEEL\n15.RA\n15.SA\n16.HIIN\n15.DHA\n" ++
  "15.CAYN\n15.GA\n15.FA\n15.QAAF\n15.KAAF\n15.LAAN\n15.MIIN\n15.NUUN\n15.WAW\n15.HA\n15.YA\n15.A\n" ++
  "15.E\n15.I\n15.O\n15.U\n15.AA\n15.EE\n15.OO\n104A0:8.DIGIT ZERO\n14.ONE\n14.TWO\n15.HREE\n14.FOUR\n" ++
  "15.IVE\n14.SIX\n15.EVEN\n14.EIGHT\n14.NINE\n104B0:2.AGE CAPITAL LETTER A\n22.I\n23.N\n22.H\n21.BRA\n" ++
  "21.CHA\n21.EHCHA\n22.\n22.IN\n21.HA\n22.YA\n21.I\n21.KA\n21.EHKA\n21.KYA\n21.LA\n21.MA\n21.NA\n" ++
  "21.O\n22.IN\n21.PA\n21.EHPA\n21.SA\n22.HA\n21.TA\n21.EHTA\n21.TSA\n21.EHTSA\n21.TSHA\n21.DHA\n" ++
  "21.U\n21.WA\n21.KHA\n21.GHA\n21.ZA\n22.HA\n104D8:6.SMALL LETTER A\n20.I\n21.N\n20.H\n19.BRA\n" ++
  "19.CHA\n19.EHCHA\n20.\n20.IN\n19.HA\n20.YA\n19.I\n19.KA\n19.EHKA\n19.KYA\n19.LA\n19.MA\n19.NA\n" ++
  "19.O\n20.IN\n19.PA\n19.EHPA\n19.SA\n20.HA\n19.TA\n19.EHTA\n19.TSA\n19.EHTSA\n19.TSHA\n19.DHA\n" ++
  "19.U\n19.WA\n19.KHA\n19.GHA\n19.ZA\n20.HA\n10500:0.ELBASAN LETTER A\n15.BE\n15.CE\n16.HE\n15.DE\n" ++
  "15.NDE\n15.DHE\n15.EI\n16.\n15.FE\n15.GE\n16.JE\n15.HE\n15.I\n15.JE\n15.KE\n15.LE\n16.LE\n15.ME\n" ++
  "15.NE\n16.A\n16.JE\n15.O\n15.PE\n15.QE\n15.RE\n16.RE\n15.SE\n16.HE\n15.TE\n16.HE\n15.U\n15.VE\n" ++
  "15.XE\n15.Y\n15.ZE\n16.HE\n15.GHE\n17.AMMA\n15.KHE\n10530:0.CAUCASIAN ALBANIAN LETTER ALT\n26.BET\n" ++
  "26.GIM\n26.DAT\n26.EB\n26.ZARL\n26.EYN\n26.ZHIL\n26.TAS\n26.CHA\n26.YOWD\n26.ZHA\n26.IRB\n26.SHA\n" ++
  "26.LAN\n26.INYA\n26.XEYN\n26.DYAN\n26.CAR\n26.JHOX\n26.KAR\n26.LYIT\n26.HEYT\n26.QAY\n26.AOR\n" ++
  "26.CHOY\n28.I\n27.YAY\n26.MAQ\n26.QAR\n26.NOWC\n26.DZYAY\n26.SHAK\n26.JAYN\n26.ON\n26.TYAY\n26.FAM\n" ++
  "26.DZAY\n26.CHAT\n26.PEN\n26.GHEYS\n26.RAT\n26.SEYK\n26.VEYZ\n26.TIWR\n26.SHOY\n26.IWN\n26.CYAW\n" ++
  "27.AYN\n26.YAYD\n26.PIWR\n26.KIW\n1056F:19.CITATION MARK\n0.VITHKUQI CAPITAL LETTER A\n24.BBE\n" ++
  "25.E\n24.CE\n25.HE\n24.DE\n25.HE\n24.EI\n25.\n24.FE\n24.GA\n1057C:24.HA\n25.HA\n24.I\n25.JE\n" ++
  "24.JE\n24.KA\n24.LA\n25.LA\n24.ME\n24.NE\n25.JE\n24.O\n24.PE\n24.QA\n24.RE\n1058C:24.SE\n25.HE\n" ++
  "24.TE\n25.HE\n24.U\n24.VE\n24.XE\n10594:24.Y\n24.ZE\n10597:9.SMALL LETTER A\n22.BBE\n23.E\n22.CE\n" ++
  "23.HE\n22.DE\n23.HE\n22.EI\n23.\n22.FE\n22.GA\n105A3:22.HA\n23.HA\n22.I\n23.JE\n22.JE\n22.KA\n" ++
  "22.LA\n23.LA\n22.ME\n22.NE\n23.JE\n22.O\n22.PE\n22.QA\n22.RE\n105B3:22.SE\n23.HE\n22.TE\n23.HE\n" ++
  "22.U\n22.VE\n22.XE\n105BB:22.Y\n22.ZE\n10600:0.LINEAR A SIGN AB001\n18.2\n18.3\n18.4\n18.5\n18.6\n" ++
  "18.7\n18.8\n18.9\n17.10\n18.1\n18.3\n18.6\n18.7\n17.20\n18.1\n19.F\n19.M\n18.2\n19.F\n19.M\n18.3\n" ++
  "19.M\n18.4\n18.6\n18.7\n18.8\n15.028B\n15.B029\n17.30\n18.1\n18.4\n18.7\n18.8\n18.9\n17.40\n18.1\n" ++
  "18.4\n18.5\n18.6\n18.7\n18.8\n18.9\n17.50\n18.1\n18.3\n18.4\n18.5\n18.6\n18.7\n18.8\n18.9\n17.60\n" ++
  "18.1\n18.5\n18.6\n18.7\n18.9\n17.70\n18.3\n18.4\n18.6\n18.7\n18.8\n18.9\n17.80\n18.1\n18.2\n18.5\n" ++
  "18.6\n18.7\n15.100-102\n15.B118\n17.20\n15.120B\n15.B122\n18.3\n17.31A\n19.B\n15.131C\n15.B164\n" ++
  "17.71\n17.80\n18.8\n17.91\n15.301\n17.2\n17.3\n17.4\n17.5\n17.6\n17.7\n17.8\n17.9A\n18.B\n18.C\n" ++
  "16.10\n17.1\n17.2\n17.3A\n18.B\n18.C\n17.4\n17.5\n17.6\n17.7\n17.8\n17.9\n16.20\n17.1\n17.2\n" ++
  "17.3\n17.4\n17.5\n17.6\n17.7\n17.8\n17.9\n16.30\n17.1\n17.2\n17.3\n17.4\n17.5\n17.6\n17.7\n17.8\n" ++
  "17.9\n16.40\n17.1\n17.2\n17.3\n17.4\n17.5\n17.6\n17.7\n17.8\n17.9\n16.50\n17.1\n17.2\n17.3\n17.4\n" ++
  "17.5\n17.6\n17.7\n17.8\n17.9\n16.60\n17.1\n17.2\n17.3\n17.4\n17.5\n17.6\n17.7\n17.8\n17.9\n16.70\n" ++
  "17.1\n15.400-VAS\n17.1-VAS\n17.2-VAS\n17.3-VAS\n17.4-VAS\n17.5-VAS\n17.6-VAS\n17.7-VAS\n17.8-VAS\n" ++
  "17.9-VAS\n16.10-VAS\n17.1-VAS\n17.2-VAS\n17.3-VAS\n17.4-VAS\n17.5-VAS\n17.6-VAS\n17.7-VAS\n17.8-VAS\n" ++
  "15.501\n17.2\n17.3\n17.4\n17.5\n17.6\n17.8\n17.9\n16.10\n17.1\n17.2\n17.3\n17.5\n17.6\n16.20\n" ++
  "17.1\n17.3\n17.4\n17.5\n17.6\n17.7\n17.8\n17.9\n16.30\n17.1\n17.2\n17.4\n17.5\n17.6\n17.7\n17.8\n" ++
  "17.9\n16.40\n17.1\n17.2\n17.5\n17.7\n17.8\n17.9\n16.50\n17.1\n17.2\n17.3\n17.4\n17.5\n17.6\n17.7\n" ++
  "17.9\n16.63\n17.4\n17.5\n17.6\n17.8\n17.9\n16.70\n17.1\n17.2\n17.3\n17.4\n17.5\n17.6\n17.7\n17.8\n" ++
  "17.9\n16.80\n17.1\n17.2\n17.3\n17.4\n17.5\n17.6\n17.7\n17.8\n17.9\n16.91\n17.2\n17.4\n17.5\n17.6\n" ++
  "17.8\n15.600\n17.1\n17.2\n17.3\n17.4\n17.6\n17.8\n17.9\n16.10\n17.1\n17.2\n17.3\n17.4\n17.5\n" ++
  "17.6\n17.7\n17.8\n17.9\n16.20\n17.1\n17.2\n17.3\n17.4\n17.6\n17.7\n17.8\n17.9\n16.34\n17.7\n17.8\n" ++
  "16.40\n17.2\n17.3\n17.4\n17.5\n17.6\n17.8\n17.9\n16.51\n17.2\n17.3\n17.4\n17.5\n17.6\n17.7\n17.8\n" ++
  "17.9\n16.60\n17.1\n17.2\n17.3\n17.4\n10740:15.701 A\n17.2 B\n17.3 D\n17.4 E\n17.5 F\n17.6 H\n" ++
  "17.7 J\n17.8 K\n17.9 L\n18.-2 L2\n19.3 L3\n19.4 L4\n19.6 L6\n16.10 W\n17.1 X\n17.2 Y\n17.3 OMEGA\n" ++
  "17.4 ABB\n17.5 BB\n17.7 DD\n16.26 EYYY\n16.32 JE\n10760:15.800\n17.1\n17.2\n17.3\n17.4\n17.5\n" ++
  "17.6\n17.7\n10780:0.MODIFIER LETTER SMALL CAPITAL AA\n17.UPERSCRIPT TRIANGULAR COLON\n28.HALF TRIANGULAR COLON\n" ++
  "17.MALL AE\n22.CAPITAL B\n22.B WITH HOOK\n10787:22.DZ DIGRAPH\n32. WITH RETROFLEX HOOK\n38.CURL\n" ++
  "23.EZH DIGRAPH\n23. WITH TAIL\n29.HOOK\n33. AND TAIL\n22.REVERSED E\n22.CLOSED REVERSED OPEN E\n" ++
  "22.FENG DIGRAPH\n22.RAMS HORN\n22.CAPITAL G\n22.G WITH HOOK\n22.CAPITAL G WITH HOOK\n22.H WITH STROKE\n" ++
  "22.CAPITAL H\n22.HENG WITH HOOK\n22.DOTLESS J WITH STROKE AND HOOK\n22.LS DIGRAPH\n23.Z DIGRAPH\n" ++
  "23. WITH BELT\n22.CAPITAL L WITH BELT\n22.L WITH RETROFLEX HOOK AND BELT\n23.EZH\n26. WITH RETROFLEX HOOK\n" ++
  "22.TURNED Y\n30. WITH BELT\n22.O WITH STROKE\n22.CAPITAL OE\n23.LOSED OMEGA\n22.Q\n22.TURNED R WITH LONG LEG\n" ++
  "44. AND RETROFLEX HOOK\n22.R WITH TAIL\n29.FISHHOOK\n22.CAPITAL R\n22.TC DIGRAPH WITH CURL\n23.S DIGRAPH\n" ++
  "32. WITH RETROFLEX HOOK\n23.ESH DIGRAPH\n23. WITH RETROFLEX HOOK\n22.V WITH RIGHT HOOK\n107B2:22.CAPITAL Y\n" ++
  "16.GLOTTAL STOP WITH STROKE\n16.REVERSED GLOTTAL STOP WITH STROKE\n16.BILABIAL CLICK\n16.DENTAL CLICK\n" ++
  "16.LATERAL CLICK\n16.ALVEOLAR CLICK\n16.RETROFLEX CLICK WITH RETROFLEX HOOK\n16.SMALL S WITH CURL\n" ++
  "10800:0.CYPRIOT SYLLABLE A\n17.E\n17.I\n17.O\n17.U\n17.JA\n10808:18.O\n1080A:17.KA\n18.E\n18.I\n" ++
  "18.O\n18.U\n17.LA\n18.E\n18.I\n18.O\n18.U\n17.MA\n18.E\n18.I\n18.O\n18.U\n17.NA\n18.E\n18.I\n" ++
  "18.O\n18.U\n17.PA\n18.E\n18.I\n18.O\n18.U\n17.RA\n18.E\n18.I\n18.O\n18.U\n17.SA\n18.E\n18.I\n" ++
  "18.O\n18.U\n17.TA\n18.E\n18.I\n18.O\n18.U\n17.WA\n18.E\n18.I\n18.O\n10837:17.XA\n18.E\n1083C:17.ZA\n" ++
  "1083F:18.O\n0.IMPERIAL ARAMAIC LETTER ALEPH\n24.BETH\n24.GIMEL\n24.DALETH\n24.HE\n24.WAW\n24.ZAYIN\n" ++
  "24.HETH\n24.TETH\n24.YODH\n24.KAPH\n24.LAMEDH\n24.MEM\n24.NUN\n24.SAMEKH\n24.AYIN\n24.PE\n24.SADHE\n" ++
  "24.QOPH\n24.RESH\n24.SHIN\n24.TAW\n10857:17.SECTION SIGN\n17.NUMBER ONE\n24.TWO\n25.HREE\n25.EN\n" ++
  "25.WENTY\n24.ONE HUNDRED\n28.THOUSAND\n24.TEN THOUSAND\n0.PALMYRENE LETTER ALEPH\n17.BETH\n17.GIMEL\n" ++
  "17.DALETH\n17.HE\n17.WAW\n17.ZAYIN\n17.HETH\n17.TETH\n17.YODH\n17.KAPH\n17.LAMEDH\n17.MEM\n17.FINAL NUN\n" ++
  "17.NUN\n17.SAMEKH\n17.AYIN\n17.PE\n17.SADHE\n17.QOPH\n17.RESH\n17.SHIN\n17.TAW\n12.FT-POINTING FLEURON\n" ++
  "10.RIGHT-POINTING FLEURON\n10.NUMBER ONE\n17.TWO\n18.HREE\n17.FOUR\n18.IVE\n17.TEN\n18.WENTY\n" ++
  "0.NABATAEAN LETTER FINAL ALEPH\n17.ALEPH\n17.FINAL BETH\n17.BETH\n17.GIMEL\n17.DALETH\n17.FINAL HE\n" ++
  "17.HE\n17.WAW\n17.ZAYIN\n17.HETH\n17.TETH\n17.FINAL YODH\n17.YODH\n17.FINAL KAPH\n17.KAPH\n17.FINAL LAMEDH\n" ++
  "17.LAMEDH\n17.FINAL MEM\n17.MEM\n17.FINAL NUN\n17.NUN\n17.SAMEKH\n17.AYIN\n17.PE\n17.SADHE\n17.QOPH\n" ++
  "17.RESH\n17.FINAL SHIN\n17.SHIN\n17.TAW\n108A7:10.NUMBER ONE\n17.TWO\n18.HREE\n17.FOUR\n10.CRUCIFORM NUMBER FOUR\n" ++
  "10.NUMBER FIVE\n17.TEN\n18.WENTY\n17.ONE HUNDRED\n108E0:0.HATRAN LETTER ALEPH\n14.BETH\n14.GIMEL\n" ++
  "14.DALETH-RESH\n14.HE\n14.WAW\n14.ZAYN\n14.HETH\n14.TETH\n14.YODH\n14.KAPH\n14.LAMEDH\n14.MEM\n" ++
  "14.NUN\n14.SAMEKH\n14.AYN\n14.PE\n14.SADHE\n14.QOPH\n108F4:14.SHIN\n14.TAW\n108FB:7.NUMBER ONE\n" ++
  "14.FIVE\n14.TEN\n15.WENTY\n14.ONE HUNDRED\n0.PHOENICIAN LETTER ALF\n18.BET\n18.GAML\n18.DELT\n" ++
  "18.HE\n18.WAU\n18.ZAI\n18.HET\n18.TET\n18.YOD\n18.KAF\n18.LAMD\n18.MEM\n18.NUN\n18.SEMK\n18.AIN\n" ++
  "18.PE\n18.SADE\n18.QOF\n18.ROSH\n18.SHIN\n18.TAU\n11.NUMBER ONE\n18.TEN\n19.WENTY\n18.ONE HUNDRED\n" ++
  "18.TWO\n19.HREE\n1091F:11.WORD SEPARATOR\n0.LYDIAN LETTER A\n14.B\n14.G\n14.D\n14.E\n14.V\n14.I\n" ++
  "14.Y\n14.K\n14.L\n14.M\n14.N\n14.O\n14.R\n14.SS\n14.T\n14.U\n14.F\n14.Q\n14.S\n14.TT\n14.AN\n" ++
  "14.EN\n14.LY\n14.NN\n14.C\n1093F:7.TRIANGULAR MARK\n10980:0.MEROITIC HIEROGLYPHIC LETTER A\n29.E\n" ++
  "29.I\n29.O\n29.YA\n29.WA\n29.BA\n31.-2\n29.PA\n29.MA\n29.NA\n31.-2\n30.E\n31.-2\n29.RA\n31.-2\n" ++
  "29.LA\n29.KHA\n29.HHA\n29.SA\n31.-2\n30.E\n29.KA\n29.QA\n29.TA\n31.-2\n30.E\n31.-2\n30.O\n29.DA\n" ++
  "22.SYMBOL VIDJ\n33.-2\n9.CURSIVE LETTER A\n24.E\n24.I\n24.O\n24.YA\n24.WA\n24.BA\n24.PA\n24.MA\n" ++
  "24.NA\n25.E\n24.RA\n24.LA\n24.KHA\n24.HHA\n24.SA\n24.ARCHAIC SA\n24.SE\n24.KA\n24.QA\n24.TA\n" ++
  "25.E\n25.O\n24.DA\n109BC:17.FRACTION ELEVEN TWELFTHS\n26.ONE HALF\n17.LOGOGRAM RMT\n26.IMN\n17.NUMBER ONE\n" ++
  "24.TWO\n25.HREE\n24.FOUR\n25.IVE\n24.SIX\n25.EVEN\n24.EIGHT\n24.NINE\n24.TEN\n25.WENTY\n25.HIRTY\n" ++
  "24.FORTY\n25.IFTY\n24.SIXTY\n25.EVENTY\n109D2:24.ONE HUNDRED\n24.TWO HUNDRED\n25.HREE HUNDRED\n" ++
  "24.FOUR HUNDRED\n25.IVE HUNDRED\n24.SIX HUNDRED\n25.EVEN HUNDRED\n24.EIGHT HUNDRED\n24.NINE HUNDRED\n" ++
  "24.ONE THOUSAND\n24.TWO THOUSAND\n25.HREE THOUSAND\n24.FOUR THOUSAND\n25.IVE THOUSAND\n24.SIX THOUSAND\n" ++
  "25.EVEN THOUSAND\n24.EIGHT THOUSAND\n24.NINE THOUSAND\n24.TEN THOUSAND\n25.WENTY THOUSAND\n25.HIRTY THOUSAND\n" ++
  "24.FORTY THOUSAND\n25.IFTY THOUSAND\n24.SIXTY THOUSAND\n25.EVENTY THOUSAND\n24.EIGHTY THOUSAND\n" ++
  "24.NINETY THOUSAND\n24.ONE HUNDRED THOUSAND\n24.TWO HUNDRED THOUSAND\n25.HREE HUNDRED THOUSAND\n" ++
  "24.FOUR HUNDRED THOUSAND\n25.IVE HUNDRED THOUSAND\n24.SIX HUNDRED THOUSAND\n25.EVEN HUNDRED THOUSAND\n" ++
  "24.EIGHT HUNDRED THOUSAND\n24.NINE HUNDRED THOUSAND\n17.FRACTION ONE TWELFTH\n26.TWO TWELFTHS\n" ++
  "27.HREE TWELFTHS\n26.FOUR TWELFTHS\n27.IVE TWELFTHS\n26.SIX TWELFTHS\n27.EVEN TWELFTHS\n26.EIGHT TWELFTHS\n" ++
  "26.NINE TWELFTHS\n26.TEN TWELFTHS\n0.KHAROSHTHI LETTER A\n11.VOWEL SIGN I\n22.U\n22.VOCALIC R\n" ++
  "10A05:22.E\n22.O\n10A0C:17.LENGTH MARK\n11.SIGN DOUBLE RING BELOW\n16.ANUSVARA\n16.VISARGA\n11.LETTER KA\n" ++
  "19.HA\n18.GA\n19.HA\n10A15:18.CA\n19.HA\n18.JA\n10A19:18.NYA\n18.TTA\n20.HA\n18.DDA\n20.HA\n18.NNA\n" ++
  "18.TA\n19.HA\n18.DA\n19.HA\n18.NA\n18.PA\n19.HA\n18.BA\n19.HA\n18.MA\n18.YA\n18.RA\n18.LA\n18.VA\n" ++
  "18.SHA\n19.SA\n19.A\n18.ZA\n18.HA\n18.KKA\n18.TTTHA\n21.A\n18.VHA\n10A38:11.SIGN BAR ABOVE\n16.CAUDA\n" ++
  "16.DOT BELOW\n10A3F:11.VIRAMA\n11.DIGIT ONE\n17.TWO\n18.HREE\n17.FOUR\n11.NUMBER TEN\n19.WENTY\n" ++
  "18.ONE HUNDRED\n22.THOUSAND\n11.FRACTION ONE HALF\n10A50:11.PUNCTUATION DOT\n23.SMALL CIRCLE\n" ++
  "23.CIRCLE\n24.RESCENT BAR\n23.MANGALAM\n23.LOTUS\n23.DANDA\n24.OUBLE DANDA\n23.LINES\n10A60:0.OLD SOUTH ARABIAN LETTER HE\n" ++
  "25.LAMEDH\n25.HETH\n25.MEM\n25.QOPH\n25.WAW\n25.SHIN\n25.RESH\n25.BETH\n25.TAW\n25.SAT\n25.KAPH\n" ++
  "25.NUN\n25.KHETH\n25.SADHE\n27.MEKH\n25.FE\n25.ALEF\n26.YN\n25.DHADHE\n25.GIMEL\n25.DALETH\n25.GHAYN\n" ++
  "25.TETH\n25.ZAYN\n25.DHALETH\n25.YODH\n25.THAW\n27.ETH\n18.NUMBER ONE\n25.FIFTY\n21.ERIC INDICATOR\n" ++
  "4.NORTH ARABIAN LETTER HEH\n25.LAM\n25.HAH\n25.MEEM\n25.QAF\n25.WAW\n25.ES-2\n25.REH\n25.BEH\n" ++
  "25.TEH\n25.ES-1\n25.KAF\n25.NOON\n25.KHAH\n25.SAD\n25.ES-3\n25.FEH\n25.ALEF\n26.IN\n25.DAD\n25.GEEM\n" ++
  "25.DAL\n25.GHAIN\n25.TAH\n25.ZAIN\n25.THAL\n25.YEH\n25.THEH\n25.ZAH\n18.NUMBER ONE\n25.TEN\n26.WENTY\n" ++
  "10AC0:0.MANICHAEAN LETTER ALEPH\n18.BETH\n19.HETH\n18.GIMEL\n19.HIMEL\n18.DALETH\n18.HE\n18.WAW\n" ++
  "11.SIGN UD\n11.LETTER ZAYIN\n19.HAYIN\n18.JAYIN\n19.HAYIN\n18.HETH\n18.TETH\n18.YODH\n18.KAPH\n" ++
  "18.XAPH\n18.KHAPH\n18.LAMEDH\n18.DHAMEDH\n18.THAMEDH\n18.MEM\n18.NUN\n18.SAMEKH\n18.AYIN\n19.AYIN\n" ++
  "18.PE\n18.FE\n18.SADHE\n18.QOPH\n18.XOPH\n18.QHOPH\n18.RESH\n18.SHIN\n19.SHIN\n18.TAW\n11.ABBREVIATION MARK ABOVE\n" ++
  "29.BELOW\n10AEB:11.NUMBER ONE\n18.FIVE\n18.TEN\n19.WENTY\n18.ONE HUNDRED\n11.PUNCTUATION STAR\n" ++
  "23.FLEURON\n23.DOUBLE DOT WITHIN DOT\n25.T WITHIN DOT\n26.\n23.TWO DOTS\n23.LINE FILLER\n10B00:0.AVESTAN LETTER A\n" ++
  "16.A\n16.O\n16.AO\n16.N\n16.AN\n16.E\n17.E\n15.E\n16.E\n15.O\n16.O\n15.I\n16.I\n15.U\n16.U\n15.KE\n" ++
  "15.XE\n16.YE\n16.VE\n15.GE\n16.GE\n16.HE\n15.CE\n15.JE\n15.TE\n16.HE\n15.DE\n16.HE\n15.TTE\n15.PE\n" ++
  "15.FE\n15.BE\n16.HE\n15.NGE\n17.YE\n17.VE\n16.E\n16.YE\n16.NE\n15.ME\n15.HME\n15.YYE\n16.E\n15.VE\n" ++
  "15.RE\n15.LE\n15.SE\n15.ZE\n15.SHE\n15.ZHE\n15.SHYE\n16.SHE\n15.HE\n10B39:8.ABBREVIATION MARK\n" ++
  "0.TINY TWO DOTS OVER ONE DOT PUNCTUATION\n0.SMALL TWO DOTS OVER ONE DOT PUNCTUATION\n0.LARGE TWO DOTS OVER ONE DOT PUNCTUATION\n" ++
  "6.ONE DOT OVER TWO DOTS PUNCTUATION\n6.TWO RINGS OVER ONE RING PUNCTUATION\n6.ONE RING OVER TWO RINGS PUNCTUATION\n" ++
  "0.INSCRIPTIONAL PARTHIAN LETTER ALEPH\n30.BETH\n30.GIMEL\n30.DALETH\n30.HE\n30.WAW\n30.ZAYIN\n" ++
  "30.HETH\n30.TETH\n30.YODH\n30.KAPH\n30.LAMEDH\n30.MEM\n30.NUN\n30.SAMEKH\n30.AYIN\n30.PE\n30.SADHE\n" ++
  "30.QOPH\n30.RESH\n30.SHIN\n30.TAW\n10B58:23.NUMBER ONE\n30.TWO\n31.HREE\n30.FOUR\n30.TEN\n31.WENTY\n" ++
  "30.ONE HUNDRED\n34.THOUSAND\n16.HLAVI LETTER ALEPH\n29.BETH\n29.GIMEL\n29.DALETH\n29.HE\n29.WAW-AYIN-RESH\n" ++
  "29.ZAYIN\n29.HETH\n29.TETH\n29.YODH\n29.KAPH\n29.LAMEDH\n29.MEM-QOPH\n29.NUN\n29.SAMEKH\n29.PE\n" ++
  "29.SADHE\n30.HIN\n29.TAW\n10B78:22.NUMBER ONE\n29.TWO\n30.HREE\n29.FOUR\n29.TEN\n30.WENTY\n29.ONE HUNDRED\n" ++
  "33.THOUSAND\n0.PSALTER PAHLAVI LETTER ALEPH\n23.BETH\n23.GIMEL\n23.DALETH\n23.HE\n23.WAW-AYIN-RESH\n" ++
  "23.ZAYIN\n23.HETH\n23.YODH\n23.KAPH\n23.LAMEDH\n23.MEM-QOPH\n23.NUN\n23.SAMEKH\n23.PE\n23.SADHE\n" ++
  "24.HIN\n23.TAW\n10B99:16.SECTION MARK\n16.TURNED SECTION MARK\n16.FOUR DOTS WITH CROSS\n31.DOT\n" ++
  "10BA9:16.NUMBER ONE\n23.TWO\n24.HREE\n23.FOUR\n23.TEN\n24.WENTY\n23.ONE HUNDRED\n10C00:0.OLD TURKIC LETTER ORKHON A\n" ++
  "18.YENISEI A\n27.E\n18.ORKHON I\n18.YENISEI I\n26.E\n18.ORKHON O\n26.E\n18.YENISEI OE\n18.ORKHON AB\n" ++
  "18.YENISEI AB\n18.ORKHON AEB\n18.YENISEI AEB\n18.ORKHON AG\n18.YENISEI AG\n18.ORKHON AEG\n18.YENISEI AEG\n" ++
  "18.ORKHON AD\n18.YENISEI AD\n18.ORKHON AED\n25.EZ\n18.YENISEI EZ\n18.ORKHON AY\n18.YENISEI AY\n" ++
  "18.ORKHON AEY\n18.YENISEI AEY\n18.ORKHON AEK\n18.YENISEI AEK\n18.ORKHON OEK\n18.YENISEI OEK\n" ++
  "18.ORKHON AL\n18.YENISEI AL\n18.ORKHON AEL\n25.ELT\n26.M\n25.AN\n26.EN\n18.YENISEI AEN\n18.ORKHON ENT\n" ++
  "18.YENISEI ENT\n18.ORKHON ENC\n18.YENISEI ENC\n18.ORKHON ENY\n18.YENISEI ENY\n26.ANG\n18.ORKHON ENG\n" ++
  "18.YENISEI AENG\n18.ORKHON EP\n25.OP\n25.IC\n25.EC\n18.YENISEI EC\n18.ORKHON AQ\n18.YENISEI AQ\n" ++
  "18.ORKHON IQ\n18.YENISEI IQ\n18.ORKHON OQ\n18.YENISEI OQ\n18.ORKHON AR\n18.YENISEI AR\n18.ORKHON AER\n" ++
  "26.S\n26.ES\n26.SH\n18.YENISEI ASH\n18.ORKHON ESH\n18.YENISEI ESH\n18.ORKHON AT\n18.YENISEI AT\n" ++
  "18.ORKHON AET\n18.YENISEI AET\n18.ORKHON OT\n25.BASH\n10C80:4.HUNGARIAN CAPITAL LETTER A\n30.A\n" ++
  "29.EB\n29.AMB\n29.EC\n30.NC\n30.CS\n30.D\n29.AND\n29.E\n29.CLOSE E\n29.EE\n30.F\n30.G\n31.Y\n" ++
  "30.H\n29.I\n30.I\n29.EJ\n30.K\n29.AK\n29.UNK\n29.EL\n31.Y\n30.M\n30.N\n31.Y\n29.O\n30.O\n29.NIKOLSBURG OE\n" ++
  "29.RUDIMENTA OE\n29.OEE\n29.EP\n30.MP\n30.R\n29.SHORT ER\n29.ES\n31.Z\n30.T\n30.NT\n30.TY\n30.CH\n" ++
  "29.U\n30.U\n29.NIKOLSBURG UE\n29.RUDIMENTA UE\n29.EV\n30.Z\n31.S\n30.NT-SHAPED SIGN\n29.US\n10CC0:14.SMALL LETTER A\n" ++
  "28.A\n27.EB\n27.AMB\n27.EC\n28.NC\n28.CS\n28.D\n27.AND\n27.E\n27.CLOSE E\n27.EE\n28.F\n28.G\n" ++
  "29.Y\n28.H\n27.I\n28.I\n27.EJ\n28.K\n27.AK\n27.UNK\n27.EL\n29.Y\n28.M\n28.N\n29.Y\n27.O\n28.O\n" ++
  "27.NIKOLSBURG OE\n27.RUDIMENTA OE\n27.OEE\n27.EP\n28.MP\n28.R\n27.SHORT ER\n27.ES\n29.Z\n28.T\n" ++
  "28.NT\n28.TY\n28.CH\n27.U\n28.U\n27.NIKOLSBURG UE\n27.RUDIMENTA UE\n27.EV\n28.Z\n29.S\n28.NT-SHAPED SIGN\n" ++
  "27.US\n10CFA:14.NUMBER ONE\n21.FIVE\n21.TEN\n21.FIFTY\n21.ONE HUNDRED\n25.THOUSAND\n0.HANIFI ROHINGYA LETTER A\n" ++
  "23.BA\n23.PA\n23.TA\n24.TA\n23.JA\n23.CA\n23.HA\n23.KHA\n23.FA\n23.DA\n24.DA\n23.RA\n24.RA\n23.ZA\n" ++
  "23.SA\n24.HA\n23.KA\n23.GA\n23.LA\n23.MA\n23.NA\n23.WA\n23.KINNA WA\n23.YA\n23.KINNA YA\n23.NGA\n" ++
  "24.YA\n23.VA\n16.VOWEL A\n22.I\n22.U\n22.E\n22.O\n16.MARK SAKIN\n21.NA KHONNA\n16.SIGN HARBAHAY\n" ++
  "21.TAHALA\n23.NA\n23.SSI\n10D30:16.DIGIT ZERO\n22.ONE\n22.TWO\n23.HREE\n22.FOUR\n23.IVE\n22.SIX\n" ++
  "23.EVEN\n22.EIGHT\n22.NINE\n10E60:0.RUMI DIGIT ONE\n11.TWO\n12.HREE\n11.FOUR\n12.IVE\n11.SIX\n" ++
  "12.EVEN\n11.EIGHT\n11.NINE\n5.NUMBER TEN\n13.WENTY\n13.HIRTY\n12.FORTY\n13.IFTY\n12.SIXTY\n13.EVENTY\n" ++
  "12.EIGHTY\n12.NINETY\n12.ONE HUNDRED\n12.TWO HUNDRED\n13.HREE HUNDRED\n12.FOUR HUNDRED\n13.IVE HUNDRED\n" ++
  "12.SIX HUNDRED\n13.EVEN HUNDRED\n12.EIGHT HUNDRED\n12.NINE HUNDRED\n5.FRACTION ONE HALF\n18.QUARTER\n" ++
  "18.THIRD\n14.TWO THIRDS\n10E80:0.YEZIDI LETTER ELIF\n14.BE\n14.PE\n15.HE\n14.THE\n14.SE\n14.CIM\n" ++
  "15.HIM\n16.HIM\n14.HHA\n14.XA\n14.DAL\n14.ZAL\n14.RA\n15.HA\n14.ZA\n14.JA\n14.SIN\n15.HIN\n15.AD\n" ++
  "14.DAD\n14.TA\n14.ZE\n14.EYN\n14.XHEYN\n14.FA\n14.VA\n16. ALTERNATE FORM\n14.QAF\n14.KAF\n15.HAF\n" ++
  "14.GAF\n14.LAM\n14.MIM\n14.NUN\n14.UM\n14.WAW\n14.OW\n14.EW\n14.HAY\n14.YOT\n14.ET\n10EAB:7.COMBINING HAMZA MARK\n" ++
  "17.MADDA MARK\n7.HYPHENATION MARK\n10EB0:7.LETTER LAM WITH DOT ABOVE\n14.YOT WITH CIRCUMFLEX ABOVE\n" ++
  "10F00:0.OLD SOGDIAN LETTER ALEPH\n19.FINAL ALEPH\n19.BETH\n19.FINAL BETH\n19.GIMEL\n19.HE\n19.FINAL HE\n" ++
  "19.WAW\n19.ZAYIN\n19.HETH\n19.YODH\n19.KAPH\n19.LAMEDH\n19.MEM\n19.NUN\n19.FINAL NUN\n28. WITH VERTICAL TAIL\n" ++
  "19.SAMEKH\n19.AYIN\n20.LTERNATE AYIN\n19.PE\n19.SADHE\n19.FINAL SADHE\n30. WITH VERTICAL TAIL\n" ++
  "19.RESH-AYIN-DALETH\n19.SHIN\n19.TAW\n19.FINAL TAW\n28. WITH VERTICAL TAIL\n12.NUMBER ONE\n19.TWO\n" ++
  "20.HREE\n19.FOUR\n20.IVE\n19.TEN\n20.WENTY\n20.HIRTY\n19.ONE HUNDRED\n12.FRACTION ONE HALF\n12.LIGATURE AYIN-DALETH\n" ++
  "10F30:0.SOGDIAN LETTER ALEPH\n15.BETH\n15.GIMEL\n15.HE\n15.WAW\n15.ZAYIN\n15.HETH\n15.YODH\n15.KAPH\n" ++
  "15.LAMEDH\n15.MEM\n15.NUN\n15.SAMEKH\n15.AYIN\n15.PE\n15.SADHE\n15.RESH-AYIN\n15.SHIN\n15.TAW\n" ++
  "15.FETH\n15.LESH\n8.INDEPENDENT SHIN\n8.COMBINING DOT BELOW\n18.TWO DOTS BELOW\n18.DOT ABOVE\n" ++
  "18.TWO DOTS ABOVE\n18.CURVE ABOVE\n24.BELOW\n18.HOOK ABOVE\n23.BELOW\n18.LONG HOOK BELOW\n18.RESH BELOW\n" ++
  "18.STROKE BELOW\n8.NUMBER ONE\n15.TEN\n16.WENTY\n15.ONE HUNDRED\n8.PUNCTUATION TWO VERTICAL BARS\n" ++
  "37. WITH DOTS\n20.CIRCLE WITH DOT\n20.TWO CIRCLES WITH DOTS\n20.HALF CIRCLE WITH DOT\n10F70:0.OLD UYGHUR LETTER ALEPH\n" ++
  "18.BETH\n18.GIMEL-HETH\n18.WAW\n18.ZAYIN\n18.FINAL HETH\n18.YODH\n18.KAPH\n18.LAMEDH\n18.MEM\n" ++
  "18.NUN\n18.SAMEKH\n18.PE\n18.SADHE\n18.RESH\n18.SHIN\n18.TAW\n18.LESH\n11.COMBINING DOT ABOVE\n" ++
  "25.BELOW\n21.TWO DOTS ABOVE\n30.BELOW\n11.PUNCTUATION BAR\n23.TWO BARS\n27.DOTS\n23.FOUR DOTS\n" ++
  "10FB0:0.CHORASMIAN LETTER ALEPH\n18.SMALL ALEPH\n18.BETH\n18.GIMEL\n18.DALETH\n18.HE\n18.WAW\n" ++
  "18.CURLED WAW\n18.ZAYIN\n18.HETH\n18.YODH\n18.KAPH\n18.LAMEDH\n18.MEM\n18.NUN\n18.SAMEKH\n18.AYIN\n" ++
  "18.PE\n18.RESH\n18.SHIN\n18.TAW\n11.NUMBER ONE\n18.TWO\n19.HREE\n18.FOUR\n18.TEN\n19.WENTY\n18.ONE HUNDRED\n" ++
  "10FE0:0.ELYMAIC LETTER ALEPH\n15.BETH\n15.GIMEL\n15.DALETH\n15.HE\n15.WAW\n15.ZAYIN\n15.HETH\n" ++
  "15.TETH\n15.YODH\n15.KAPH\n15.LAMEDH\n15.MEM\n15.NUN\n15.SAMEKH\n15.AYIN\n15.PE\n15.SADHE\n15.QOPH\n" ++
  "15.RESH\n15.SHIN\n15.TAW\n9.IGATURE ZAYIN-YODH\n11000:0.BRAHMI SIGN CANDRABINDU\n12.ANUSVARA\n" ++
  "12.VISARGA\n12.JIHVAMULIYA\n12.UPADHMANIYA\n7.LETTER A\n15.A\n14.I\n15.I\n14.U\n15.U\n14.VOCALIC R\n" ++
  "23.R\n22.L\n23.L\n14.E\n14.AI\n14.O\n14.AU\n14.KA\n15.HA\n14.GA\n15.HA\n14.NGA\n14.CA\n15.HA\n" ++
  "14.JA\n15.HA\n14.NYA\n14.TTA\n16.HA\n14.DDA\n16.HA\n14.NNA\n14.TA\n15.HA\n14.DA\n15.HA\n14.NA\n" ++
  "14.PA\n15.HA\n14.BA\n15.HA\n14.MA\n14.YA\n14.RA\n14.LA\n14.VA\n14.SHA\n15.SA\n15.A\n14.HA\n14.LLA\n" ++
  "14.OLD TAMIL LLLA\n24.RRA\n24.NNNA\n7.VOWEL SIGN AA\n18.BHATTIPROLU AA\n18.I\n19.I\n18.U\n19.U\n" ++
  "18.VOCALIC R\n27.R\n26.L\n27.L\n18.E\n18.AI\n18.O\n18.AU\n8.IRAMA\n7.DANDA\n8.OUBLE DANDA\n7.PUNCTUATION DOT\n" ++
  "21.UBLE DOT\n19.LINE\n19.CRESCENT BAR\n19.LOTUS\n11052:7.NUMBER ONE\n14.TWO\n15.HREE\n14.FOUR\n" ++
  "15.IVE\n14.SIX\n15.EVEN\n14.EIGHT\n14.NINE\n14.TEN\n15.WENTY\n15.HIRTY\n14.FORTY\n15.IFTY\n14.SIXTY\n" ++
  "15.EVENTY\n14.EIGHTY\n14.NINETY\n14.ONE HUNDRED\n18.THOUSAND\n7.DIGIT ZERO\n13.ONE\n13.TWO\n14.HREE\n" ++
  "13.FOUR\n14.IVE\n13.SIX\n14.EVEN\n13.EIGHT\n13.NINE\n7.SIGN OLD TAMIL VIRAMA\n7.LETTER OLD TAMIL SHORT E\n" ++
  "30.O\n7.VOWEL SIGN OLD TAMIL SHORT E\n34.O\n7.LETTER OLD TAMIL LLA\n1107F:7.NUMBER JOINER\n0.KAITHI SIGN CANDRABINDU\n" ++
  "12.ANUSVARA\n12.VISARGA\n7.LETTER A\n15.A\n14.I\n15.I\n14.U\n15.U\n14.E\n14.AI\n14.O\n14.AU\n" ++
  "14.KA\n15.HA\n14.GA\n15.HA\n14.NGA\n14.CA\n15.HA\n14.JA\n15.HA\n14.NYA\n14.TTA\n16.HA\n14.DDA\n" ++
  "16.DHA\n16.HA\n14.RHA\n14.NNA\n14.TA\n15.HA\n14.DA\n15.HA\n14.NA\n14.PA\n15.HA\n14.BA\n15.HA\n" ++
  "14.MA\n14.YA\n14.RA\n14.LA\n14.VA\n14.SHA\n15.SA\n15.A\n14.HA\n7.VOWEL SIGN AA\n18.I\n19.I\n18.U\n" ++
  "19.U\n18.E\n18.AI\n18.O\n18.AU\n7.SIGN VIRAMA\n12.NUKTA\n7.ABBREVIATION SIGN\n7.ENUMERATION SIGN\n" ++
  "7.NUMBER SIGN\n7.SECTION MARK\n7.DOUBLE SECTION MARK\n8.ANDA\n8.OUBLE DANDA\n7.VOWEL SIGN VOCALIC R\n" ++
  "110CD:7.NUMBER SIGN ABOVE\n110D0:0.SORA SOMPENG LETTER SAH\n20.TAH\n20.BAH\n20.CAH\n20.DAH\n20.GAH\n" ++
  "20.MAH\n20.NGAH\n20.LAH\n20.NAH\n20.VAH\n20.PAH\n20.YAH\n20.RAH\n20.HAH\n20.KAH\n20.JAH\n20.NYAH\n" ++
  "20.AH\n20.EEH\n20.IH\n20.UH\n20.OH\n20.EH\n20.MAE\n110F0:13.DIGIT ZERO\n19.ONE\n19.TWO\n20.HREE\n" ++
  "19.FOUR\n20.IVE\n19.SIX\n20.EVEN\n19.EIGHT\n19.NINE\n11100:0.CHAKMA SIGN CANDRABINDU\n12.ANUSVARA\n" ++
  "12.VISARGA\n7.LETTER AA\n14.I\n14.U\n14.E\n14.KAA\n15.HAA\n14.GAA\n15.HAA\n14.NGAA\n14.CAA\n15.HAA\n" ++
  "14.JAA\n15.HAA\n14.NYAA\n14.TTAA\n16.HAA\n14.DDAA\n16.HAA\n14.NNAA\n14.TAA\n15.HAA\n14.DAA\n15.HAA\n" ++
  "14.NAA\n14.PAA\n15.HAA\n14.BAA\n15.HAA\n14.MAA\n14.YYAA\n15.AA\n14.RAA\n14.LAA\n14.WAA\n14.SAA\n" ++
  "14.HAA\n7.VOWEL SIGN A\n18.I\n19.I\n18.U\n19.U\n18.E\n18.AI\n18.O\n18.AU\n18.OI\n7.O MARK\n7.AU MARK\n" ++
  "7.VIRAMA\n7.MAAYYAA\n11136:7.DIGIT ZERO\n13.ONE\n13.TWO\n14.HREE\n13.FOUR\n14.IVE\n13.SIX\n14.EVEN\n" ++
  "13.EIGHT\n13.NINE\n7.SECTION MARK\n7.DANDA\n8.OUBLE DANDA\n7.QUESTION MARK\n7.LETTER LHAA\n7.VOWEL SIGN AA\n" ++
  "18.EI\n7.LETTER VAA\n11150:0.MAHAJANI LETTER A\n16.I\n16.U\n16.E\n16.O\n16.KA\n17.HA\n16.GA\n" ++
  "17.HA\n16.CA\n17.HA\n16.JA\n17.HA\n16.NYA\n16.TTA\n18.HA\n16.DDA\n18.HA\n16.NNA\n16.TA\n17.HA\n" ++
  "16.DA\n17.HA\n16.NA\n16.PA\n17.HA\n16.BA\n17.HA\n16.MA\n16.RA\n16.LA\n16.VA\n16.SA\n16.HA\n16.RRA\n" ++
  "9.SIGN NUKTA\n9.ABBREVIATION SIGN\n9.SECTION MARK\n9.LIGATURE SHRI\n11180:0.SHARADA SIGN CANDRABINDU\n" ++
  "13.ANUSVARA\n13.VISARGA\n8.LETTER A\n16.A\n15.I\n16.I\n15.U\n16.U\n15.VOCALIC R\n24.R\n23.L\n" ++
  "24.L\n15.E\n15.AI\n15.O\n15.AU\n15.KA\n16.HA\n15.GA\n16.HA\n15.NGA\n15.CA\n16.HA\n15.JA\n16.HA\n" ++
  "15.NYA\n15.TTA\n17.HA\n15.DDA\n17.HA\n15.NNA\n15.TA\n16.HA\n15.DA\n16.HA\n15.NA\n15.PA\n16.HA\n" ++
  "15.BA\n16.HA\n15.MA\n15.YA\n15.RA\n15.LA\n16.LA\n15.VA\n15.SHA\n16.SA\n16.A\n15.HA\n8.VOWEL SIGN AA\n" ++
  "19.I\n20.I\n19.U\n20.U\n19.VOCALIC R\n28.R\n27.L\n28.L\n19.E\n19.AI\n19.O\n19.AU\n8.SIGN VIRAMA\n" ++
  "13.AVAGRAHA\n13.JIHVAMULIYA\n13.UPADHMANIYA\n8.OM\n8.DANDA\n9.OUBLE DANDA\n8.ABBREVIATION SIGN\n" ++
  "8.SEPARATOR\n9.ANDHI MARK\n9.IGN NUKTA\n8.VOWEL MODIFIER MARK\n8.EXTRA SHORT VOWEL MARK\n8.SUTRA MARK\n" ++
  "8.VOWEL SIGN PRISHTHAMATRA E\n8.SIGN INVERTED CANDRABINDU\n8.DIGIT ZERO\n14.ONE\n14.TWO\n15.HREE\n" ++
  "14.FOUR\n15.IVE\n14.SIX\n15.EVEN\n14.EIGHT\n14.NINE\n8.EKAM\n8.SIGN SIDDHAM\n8.HEADSTROKE\n8.CONTINUATION SIGN\n" ++
  "8.SECTION MARK-1\n21.2\n111E1:1.INHALA ARCHAIC DIGIT ONE\n22.TWO\n23.HREE\n22.FOUR\n23.IVE\n22.SIX\n" ++
  "23.EVEN\n22.EIGHT\n22.NINE\n16.NUMBER TEN\n24.WENTY\n24.HIRTY\n23.FORTY\n24.IFTY\n23.SIXTY\n24.EVENTY\n" ++
  "23.EIGHTY\n23.NINETY\n23.ONE HUNDRED\n27.THOUSAND\n11200:0.KHOJKI LETTER A\n15.A\n14.I\n14.U\n" ++
  "14.E\n14.AI\n14.O\n14.AU\n14.KA\n15.HA\n14.GA\n15.GA\n15.HA\n14.NGA\n14.CA\n15.HA\n14.JA\n15.JA\n" ++
  "11213:14.NYA\n14.TTA\n16.HA\n14.DDA\n16.HA\n14.NNA\n14.TA\n15.HA\n14.DA\n15.DDA\n15.HA\n14.NA\n" ++
  "14.PA\n15.HA\n14.BA\n15.BA\n15.HA\n14.MA\n14.YA\n14.RA\n14.LA\n14.VA\n14.SA\n14.HA\n14.LLA\n7.VOWEL SIGN AA\n" ++
  "18.I\n19.I\n18.U\n18.E\n18.AI\n18.O\n18.AU\n7.SIGN ANUSVARA\n12.VIRAMA\n12.NUKTA\n12.SHADDA\n" ++
  "7.DANDA\n8.OUBLE DANDA\n7.WORD SEPARATOR\n7.SECTION MARK\n7.DOUBLE SECTION MARK\n7.ABBREVIATION SIGN\n"

/-- Part 8 of `nameLines`. -/
def nameLinesPart8 : String :=
  "7.SIGN SUKUN\n11280:0.MULTANI LETTER A\n15.I\n15.U\n15.E\n15.KA\n16.HA\n15.GA\n11288:16.HA\n1128A:15.CA\n" ++
  "16.HA\n15.JA\n16.JA\n1128F:15.NYA\n15.TTA\n17.HA\n15.DDA\n17.DA\n17.HA\n15.NNA\n15.TA\n16.HA\n" ++
  "15.DA\n16.HA\n15.NA\n15.PA\n16.HA\n15.BA\n1129F:16.HA\n15.MA\n15.YA\n15.RA\n15.LA\n15.VA\n15.SA\n" ++
  "15.HA\n15.RRA\n16.HA\n8.SECTION MARK\n112B0:0.KHUDAWADI LETTER A\n18.A\n17.I\n18.I\n17.U\n18.U\n" ++
  "17.E\n17.AI\n17.O\n17.AU\n17.KA\n18.HA\n17.GA\n18.GA\n18.HA\n17.NGA\n17.CA\n18.HA\n17.JA\n18.JA\n" ++
  "18.HA\n17.NYA\n17.TTA\n19.HA\n17.DDA\n19.DA\n17.RRA\n17.DDHA\n17.NNA\n17.TA\n18.HA\n17.DA\n18.HA\n" ++
  "17.NA\n17.PA\n18.HA\n17.BA\n18.BA\n18.HA\n17.MA\n17.YA\n17.RA\n17.LA\n17.VA\n17.SHA\n18.A\n17.HA\n" ++
  "10.SIGN ANUSVARA\n10.VOWEL SIGN AA\n21.I\n22.I\n21.U\n22.U\n21.E\n21.AI\n21.O\n21.AU\n10.SIGN NUKTA\n" ++
  "15.VIRAMA\n112F0:10.DIGIT ZERO\n16.ONE\n16.TWO\n17.HREE\n16.FOUR\n17.IVE\n16.SIX\n17.EVEN\n16.EIGHT\n" ++
  "16.NINE\n11300:0.GRANTHA SIGN COMBINING ANUSVARA ABOVE\n14.ANDRABINDU\n13.ANUSVARA\n13.VISARGA\n" ++
  "11305:8.LETTER A\n16.A\n15.I\n16.I\n15.U\n16.U\n15.VOCALIC R\n23.L\n1130F:15.EE\n15.AI\n11313:15.OO\n" ++
  "15.AU\n15.KA\n16.HA\n15.GA\n16.HA\n15.NGA\n15.CA\n16.HA\n15.JA\n16.HA\n15.NYA\n15.TTA\n17.HA\n" ++
  "15.DDA\n17.HA\n15.NNA\n15.TA\n16.HA\n15.DA\n16.HA\n15.NA\n1132A:15.PA\n16.HA\n15.BA\n16.HA\n15.MA\n" ++
  "15.YA\n15.RA\n11332:15.LA\n16.LA\n11335:15.VA\n15.SHA\n16.SA\n16.A\n15.HA\n1133B:0.COMBINING BINDU BELOW\n" ++
  "0.GRANTHA SIGN NUKTA\n13.AVAGRAHA\n8.VOWEL SIGN AA\n19.I\n20.I\n19.U\n20.U\n19.VOCALIC R\n28.R\n" ++
  "11347:19.EE\n19.AI\n1134B:19.OO\n19.AU\n8.SIGN VIRAMA\n11350:8.OM\n11357:8.AU LENGTH MARK\n1135D:8.SIGN PLUTA\n" ++
  "8.LETTER VEDIC ANUSVARA\n21.DOUBLE ANUSVARA\n16.OCALIC RR\n23.LL\n8.VOWEL SIGN VOCALIC L\n28.L\n" ++
  "11366:0.COMBINING GRANTHA DIGIT ZERO\n24.ONE\n24.TWO\n25.HREE\n24.FOUR\n25.IVE\n24.SIX\n11370:18.LETTER A\n" ++
  "25.KA\n25.NA\n25.VI\n25.PA\n11400:0.NEWA LETTER A\n13.A\n12.I\n13.I\n12.U\n13.U\n12.VOCALIC R\n" ++
  "21.R\n20.L\n21.L\n12.E\n12.AI\n12.O\n12.AU\n12.KA\n13.HA\n12.GA\n13.HA\n12.NGA\n14.HA\n12.CA\n" ++
  "13.HA\n12.JA\n13.HA\n12.NYA\n14.HA\n12.TTA\n14.HA\n12.DDA\n14.HA\n12.NNA\n12.TA\n13.HA\n12.DA\n" ++
  "13.HA\n12.NA\n13.HA\n12.PA\n13.HA\n12.BA\n13.HA\n12.MA\n13.HA\n12.YA\n12.RA\n13.HA\n12.LA\n13.HA\n" ++
  "12.WA\n12.SHA\n13.SA\n13.A\n12.HA\n5.VOWEL SIGN AA\n16.I\n17.I\n16.U\n17.U\n16.VOCALIC R\n25.R\n" ++
  "24.L\n25.L\n16.E\n16.AI\n16.O\n16.AU\n5.SIGN VIRAMA\n10.CANDRABINDU\n10.ANUSVARA\n10.VISARGA\n" ++
  "10.NUKTA\n10.AVAGRAHA\n10.FINAL ANUSVARA\n5.OM\n5.SIDDHI\n5.DANDA\n6.OUBLE DANDA\n5.COMMA\n5.GAP FILLER\n" ++
  "5.ABBREVIATION SIGN\n5.DIGIT ZERO\n11.ONE\n11.TWO\n12.HREE\n11.FOUR\n12.IVE\n11.SIX\n12.EVEN\n" ++
  "11.EIGHT\n11.NINE\n6.OUBLE COMMA\n5.PLACEHOLDER MARK\n1145D:5.INSERTION SIGN\n5.SANDHI MARK\n" ++
  "5.LETTER VEDIC ANUSVARA\n5.SIGN JIHVAMULIYA\n10.UPADHMANIYA\n11480:0.TIRHUTA ANJI\n8.LETTER A\n" ++
  "16.A\n15.I\n16.I\n15.U\n16.U\n15.VOCALIC R\n24.R\n23.L\n24.L\n15.E\n15.AI\n15.O\n15.AU\n15.KA\n" ++
  "16.HA\n15.GA\n16.HA\n15.NGA\n15.CA\n16.HA\n15.JA\n16.HA\n15.NYA\n15.TTA\n17.HA\n15.DDA\n17.HA\n" ++
  "15.NNA\n15.TA\n16.HA\n15.DA\n16.HA\n15.NA\n15.PA\n16.HA\n15.BA\n16.HA\n15.MA\n15.YA\n15.RA\n15.LA\n" ++
  "15.VA\n15.SHA\n16.SA\n16.A\n15.HA\n8.VOWEL SIGN AA\n19.I\n20.I\n19.U\n20.U\n19.VOCALIC R\n28.R\n" ++
  "27.L\n28.L\n19.E\n19.SHORT E\n19.AI\n19.O\n19.SHORT O\n19.AU\n8.SIGN CANDRABINDU\n13.ANUSVARA\n" ++
  "13.VISARGA\n15.RAMA\n13.NUKTA\n13.AVAGRAHA\n8.GVANG\n8.ABBREVIATION SIGN\n8.OM\n114D0:8.DIGIT ZERO\n" ++
  "14.ONE\n14.TWO\n15.HREE\n14.FOUR\n15.IVE\n14.SIX\n15.EVEN\n14.EIGHT\n14.NINE\n11580:0.SIDDHAM LETTER A\n" ++
  "16.A\n15.I\n16.I\n15.U\n16.U\n15.VOCALIC R\n24.R\n23.L\n24.L\n15.E\n15.AI\n15.O\n15.AU\n15.KA\n" ++
  "16.HA\n15.GA\n16.HA\n15.NGA\n15.CA\n16.HA\n15.JA\n16.HA\n15.NYA\n15.TTA\n17.HA\n15.DDA\n17.HA\n" ++
  "15.NNA\n15.TA\n16.HA\n15.DA\n16.HA\n15.NA\n15.PA\n16.HA\n15.BA\n16.HA\n15.MA\n15.YA\n15.RA\n15.LA\n" ++
  "15.VA\n15.SHA\n16.SA\n16.A\n15.HA\n8.VOWEL SIGN AA\n19.I\n20.I\n19.U\n20.U\n19.VOCALIC R\n28.R\n" ++
  "115B8:19.E\n19.AI\n19.O\n19.AU\n8.SIGN CANDRABINDU\n13.ANUSVARA\n13.VISARGA\n15.RAMA\n13.NUKTA\n" ++
  "13.SIDDHAM\n8.DANDA\n9.OUBLE DANDA\n8.SEPARATOR DOT\n18.BAR\n8.REPETITION MARK-1\n24.2\n24.3\n" ++
  "8.END OF TEXT MARK\n8.SECTION MARK WITH TRIDENT AND U-SHAPED ORNAMENTS\n38.DOTTED CRESCENTS\n" ++
  "26.RAYS AND DOTTED CRESCENTS\n42.DOUBLE CRESCENTS\n42.TRIPLE CRESCENTS\n21.DOUBLE RING\n32. WITH RAYS\n" ++
  "21.WITH DOUBLE CRESCENTS\n26.TRIPLE CRESCENTS\n26.QUADRUPLE CRESCENTS\n26.SEPTUPLE CRESCENTS\n" ++
  "26.CIRCLES AND RAYS\n38.TWO ENCLOSURES\n38.FOUR ENCLOSURES\n8.LETTER THREE-CIRCLE ALTERNATE I\n" ++
  "16.WO-CIRCLE ALTERNATE I\n37.I\n15.ALTERNATE U\n8.VOWEL SIGN ALTERNATE U\n30.U\n11600:0.MODI LETTER A\n" ++
  "13.A\n12.I\n13.I\n12.U\n13.U\n12.VOCALIC R\n21.R\n20.L\n21.L\n12.E\n12.AI\n12.O\n12.AU\n12.KA\n" ++
  "13.HA\n12.GA\n13.HA\n12.NGA\n12.CA\n13.HA\n12.JA\n13.HA\n12.NYA\n12.TTA\n14.HA\n12.DDA\n14.HA\n" ++
  "12.NNA\n12.TA\n13.HA\n12.DA\n13.HA\n12.NA\n12.PA\n13.HA\n12.BA\n13.HA\n12.MA\n12.YA\n12.RA\n12.LA\n" ++
  "12.VA\n12.SHA\n13.SA\n13.A\n12.HA\n12.LLA\n5.VOWEL SIGN AA\n16.I\n17.I\n16.U\n17.U\n16.VOCALIC R\n" ++
  "25.R\n24.L\n25.L\n16.E\n16.AI\n16.O\n16.AU\n5.SIGN ANUSVARA\n10.VISARGA\n12.RAMA\n10.ARDHACANDRA\n" ++
  "5.DANDA\n6.OUBLE DANDA\n5.ABBREVIATION SIGN\n5.SIGN HUVA\n11650:5.DIGIT ZERO\n11.ONE\n11.TWO\n" ++
  "12.HREE\n11.FOUR\n12.IVE\n11.SIX\n12.EVEN\n11.EIGHT\n11.NINE\n11660:2.NGOLIAN BIRGA WITH ORNAMENT\n" ++
  "10.ROTATED BIRGA\n10.DOUBLE BIRGA WITH ORNAMENT\n10.TRIPLE BIRGA WITH ORNAMENT\n10.BIRGA WITH DOUBLE ORNAMENT\n" ++
  "10.ROTATED BIRGA WITH ORNAMENT\n29.DOUBLE ORNAMENT\n10.INVERTED BIRGA\n24. WITH DOUBLE ORNAMENT\n" ++
  "10.SWIRL BIRGA\n21. WITH ORNAMENT\n27.DOUBLE ORNAMENT\n10.TURNED SWIRL BIRGA WITH DOUBLE ORNAMENT\n" ++
  "11680:0.TAKRI LETTER A\n14.A\n13.I\n14.I\n13.U\n14.U\n13.E\n13.AI\n13.O\n13.AU\n13.KA\n14.HA\n" ++
  "13.GA\n14.HA\n13.NGA\n13.CA\n14.HA\n13.JA\n14.HA\n13.NYA\n13.TTA\n15.HA\n13.DDA\n15.HA\n13.NNA\n" ++
  "13.TA\n14.HA\n13.DA\n14.HA\n13.NA\n13.PA\n14.HA\n13.BA\n14.HA\n13.MA\n13.YA\n13.RA\n13.LA\n13.VA\n" ++
  "13.SHA\n14.A\n13.HA\n13.RRA\n6.SIGN ANUSVARA\n11.VISARGA\n6.VOWEL SIGN AA\n17.I\n18.I\n17.U\n" ++
  "18.U\n17.E\n17.AI\n17.O\n17.AU\n6.SIGN VIRAMA\n11.NUKTA\n6.LETTER ARCHAIC KHA\n6.ABBREVIATION SIGN\n" ++
  "116C0:6.DIGIT ZERO\n12.ONE\n12.TWO\n13.HREE\n12.FOUR\n13.IVE\n12.SIX\n13.EVEN\n12.EIGHT\n12.NINE\n" ++
  "11700:0.AHOM LETTER KA\n13.HA\n12.NGA\n13.A\n12.TA\n12.ALTERNATE TA\n12.PA\n13.HA\n12.BA\n12.MA\n" ++
  "12.JA\n12.CHA\n12.THA\n12.RA\n12.LA\n12.SA\n12.NYA\n12.HA\n12.A\n12.DA\n13.HA\n12.GA\n12.ALTERNATE GA\n" ++
  "12.GHA\n12.BHA\n12.JHA\n12.ALTERNATE BA\n1171D:5.CONSONANT SIGN MEDIAL LA\n27.RA\n27.LIGATING RA\n" ++
  "5.VOWEL SIGN A\n17.A\n16.I\n17.I\n16.U\n17.U\n16.E\n16.AW\n16.O\n16.AI\n17.M\n5.SIGN KILLER\n" ++
  "11730:5.DIGIT ZERO\n11.ONE\n11.TWO\n12.HREE\n11.FOUR\n12.IVE\n11.SIX\n12.EVEN\n11.EIGHT\n11.NINE\n" ++
  "5.NUMBER TEN\n13.WENTY\n5.SIGN SMALL SECTION\n11.ECTION\n10.RULAI\n6.YMBOL VI\n5.LETTER CA\n12.TTA\n" ++
  "14.HA\n12.DDA\n14.HA\n12.NNA\n12.LLA\n11800:0.DOGRA LETTER A\n14.A\n13.I\n14.I\n13.U\n14.U\n13.E\n" ++
  "13.AI\n13.O\n13.AU\n13.KA\n14.HA\n13.GA\n14.HA\n13.NGA\n13.CA\n14.HA\n13.JA\n14.HA\n13.NYA\n13.TTA\n" ++
  "15.HA\n13.DDA\n15.HA\n13.NNA\n13.TA\n14.HA\n13.DA\n14.HA\n13.NA\n13.PA\n14.HA\n13.BA\n14.HA\n" ++
  "13.MA\n13.YA\n13.RA\n13.LA\n13.VA\n13.SHA\n14.SA\n14.A\n13.HA\n13.RRA\n6.VOWEL SIGN AA\n17.I\n" ++
  "18.I\n17.U\n18.U\n17.VOCALIC R\n26.R\n17.E\n17.AI\n17.O\n17.AU\n6.SIGN ANUSVARA\n11.VISARGA\n" ++
  "13.RAMA\n11.NUKTA\n6.ABBREVIATION SIGN\n118A0:0.WARANG CITI CAPITAL LETTER NGAA\n27.A\n27.WI\n" ++
  "27.YU\n28.A\n28.O\n27.II\n27.UU\n27.E\n27.O\n27.ANG\n27.GA\n27.KO\n27.ENY\n27.YUJ\n27.UC\n27.ENN\n" ++
  "27.ODD\n27.TTE\n27.NUNG\n27.DA\n27.AT\n28.M\n27.BU\n27.PU\n27.HIYO\n28.OLO\n29.RR\n28.AR\n27.SSUU\n" ++
  "28.II\n27.VIYO\n12.SMALL LETTER NGAA\n25.A\n25.WI\n25.YU\n26.A\n26.O\n25.II\n25.UU\n25.E\n25.O\n" ++
  "25.ANG\n25.GA\n25.KO\n25.ENY\n25.YUJ\n25.UC\n25.ENN\n25.ODD\n25.TTE\n25.NUNG\n25.DA\n25.AT\n26.M\n" ++
  "25.BU\n25.PU\n25.HIYO\n26.OLO\n27.RR\n26.AR\n25.SSUU\n26.II\n25.VIYO\n12.DIGIT ZERO\n18.ONE\n" ++
  "18.TWO\n19.HREE\n18.FOUR\n19.IVE\n18.SIX\n19.EVEN\n18.EIGHT\n18.NINE\n12.NUMBER TEN\n20.WENTY\n" ++
  "20.HIRTY\n19.FORTY\n20.IFTY\n19.SIXTY\n20.EVENTY\n19.EIGHTY\n19.NINETY\n118FF:12.OM\n0.DIVES AKURU LETTER A\n" ++
  "20.A\n19.I\n20.I\n19.U\n20.U\n19.E\n11909:19.O\n1190C:19.KA\n20.HA\n19.GA\n20.HA\n19.NGA\n19.CA\n" ++
  "20.HA\n19.JA\n11915:19.NYA\n19.TTA\n11918:19.DDA\n21.HA\n19.NNA\n19.TA\n20.HA\n19.DA\n20.HA\n" ++
  "19.NA\n19.PA\n20.HA\n19.BA\n20.HA\n19.MA\n19.YA\n20.YA\n19.RA\n19.LA\n19.VA\n19.SHA\n20.SA\n20.A\n" ++
  "19.HA\n19.LLA\n19.ZA\n12.VOWEL SIGN AA\n23.I\n24.I\n23.U\n24.U\n23.E\n11937:23.AI\n23.O\n1193B:12.SIGN ANUSVARA\n" ++
  "17.CANDRABINDU\n17.HALANTA\n12.VIRAMA\n12.PREFIXED NASAL SIGN\n12.MEDIAL YA\n12.INITIAL RA\n12.MEDIAL RA\n" ++
  "12.SIGN NUKTA\n12.DOUBLE DANDA\n12.GAP FILLER\n12.END OF TEXT MARK\n11950:12.DIGIT ZERO\n18.ONE\n" ++
  "18.TWO\n19.HREE\n18.FOUR\n19.IVE\n18.SIX\n19.EVEN\n18.EIGHT\n18.NINE\n119A0:0.NANDINAGARI LETTER A\n" ++
  "20.A\n19.I\n20.I\n19.U\n20.U\n19.VOCALIC R\n28.R\n119AA:19.E\n19.AI\n19.O\n19.AU\n19.KA\n20.HA\n" ++
  "19.GA\n20.HA\n19.NGA\n19.CA\n20.HA\n19.JA\n20.HA\n19.NYA\n19.TTA\n21.HA\n19.DDA\n21.HA\n19.NNA\n" ++
  "19.TA\n20.HA\n19.DA\n20.HA\n19.NA\n19.PA\n20.HA\n19.BA\n20.HA\n19.MA\n19.YA\n19.RA\n19.LA\n19.VA\n" ++
  "19.SHA\n20.SA\n20.A\n19.HA\n19.LLA\n19.RRA\n12.VOWEL SIGN AA\n23.I\n24.I\n23.U\n24.U\n23.VOCALIC R\n" ++
  "32.R\n119DA:23.E\n23.AI\n23.O\n23.AU\n12.SIGN ANUSVARA\n17.VISARGA\n19.RAMA\n17.AVAGRAHA\n17.SIDDHAM\n" ++
  "12.HEADSTROKE\n12.VOWEL SIGN PRISHTHAMATRA E\n11A00:0.ZANABAZAR SQUARE LETTER A\n17.VOWEL SIGN I\n" ++
  "28.UE\n29.\n28.E\n28.OE\n29.\n28.AI\n29.U\n28.REVERSED I\n23.LENGTH MARK\n17.LETTER KA\n25.HA\n" ++
  "24.GA\n25.HA\n24.NGA\n24.CA\n25.HA\n24.JA\n24.NYA\n24.TTA\n26.HA\n24.DDA\n26.HA\n24.NNA\n24.TA\n" ++
  "25.HA\n24.DA\n25.HA\n24.NA\n24.PA\n25.HA\n24.BA\n25.HA\n24.MA\n24.TSA\n26.HA\n24.DZA\n26.HA\n" ++
  "24.ZHA\n25.A\n24.-A\n24.YA\n24.RA\n24.LA\n24.VA\n24.SHA\n25.SA\n25.A\n24.HA\n24.KSSA\n17.FINAL CONSONANT MARK\n" ++
  "17.SIGN VIRAMA\n22.CANDRABINDU\n33. WITH ORNAMENT\n28. WITH ORNAMENT\n22.ANUSVARA\n22.VISARGA\n" ++
  "17.CLUSTER-INITIAL LETTER RA\n25.FINAL LETTER YA\n38.RA\n38.LA\n38.VA\n17.INITIAL HEAD MARK\n" ++
  "17.CLOSING HEAD MARK\n17.MARK TSHEG\n22.SHAD\n22.DOUBLE SHAD\n22.LONG TSHEG\n17.INITIAL DOUBLE-LINED HEAD MARK\n" ++
  "17.CLOSING DOUBLE-LINED HEAD MARK\n17.SUBJOINER\n11A50:0.SOYOMBO LETTER A\n8.VOWEL SIGN I\n19.UE\n" ++
  "20.\n19.E\n19.O\n20.E\n19.AI\n20.U\n19.VOCALIC R\n27.L\n14.LENGTH MARK\n8.LETTER KA\n16.HA\n15.GA\n" ++
  "16.HA\n15.NGA\n15.CA\n16.HA\n15.JA\n16.HA\n15.NYA\n15.TTA\n17.HA\n15.DDA\n17.HA\n15.NNA\n15.TA\n" ++
  "16.HA\n15.DA\n16.HA\n15.NA\n15.PA\n16.HA\n15.BA\n16.HA\n15.MA\n15.TSA\n17.HA\n15.DZA\n15.ZHA\n" ++
  "16.A\n15.-A\n15.YA\n15.RA\n15.LA\n15.VA\n15.SHA\n16.SA\n16.A\n15.HA\n15.KSSA\n8.SIGN JIHVAMULIYA\n" ++
  "13.UPADHMANIYA\n8.CLUSTER-INITIAL LETTER RA\n31.LA\n31.SHA\n32.A\n8.FINAL CONSONANT SIGN G\n29.K\n" ++
  "29.NG\n29.D\n29.N\n29.B\n29.M\n29.R\n29.L\n29.SH\n30.\n29.-A\n8.SIGN ANUSVARA\n13.VISARGA\n8.GEMINATION MARK\n" ++
  "8.SUBJOINER\n8.MARK TSHEG\n13.SHAD\n13.DOUBLE SHAD\n13.PLUTA\n8.HEAD MARK WITH MOON AND SUN AND TRIPLE FLAME\n" ++
  "40.FLAME\n35.\n8.TERMINAL MARK-1\n22.2\n11AB0:0.CANADIAN SYLLABICS NATTILIK HI\n30.I\n29.O\n30.O\n" ++
  "29.A\n30.A\n28.SHRI\n32.I\n31.O\n32.O\n31.A\n32.A\n19.SPE\n21.I\n21.O\n21.A\n0.PAU CIN HAU LETTER PA\n" ++
  "19.KA\n19.LA\n19.MA\n19.DA\n19.ZA\n19.VA\n19.NGA\n19.HA\n19.GA\n19.KHA\n19.SA\n19.BA\n19.CA\n" ++
  "19.TA\n20.HA\n19.NA\n19.PHA\n19.RA\n19.FA\n19.CHA\n19.A\n19.E\n19.I\n19.O\n19.U\n20.A\n19.IA\n" ++
  "19.FINAL P\n25.K\n25.T\n25.M\n25.N\n25.L\n25.W\n25.NG\n25.Y\n12.RISING TONE LONG\n23.\n12.SANDHI GLOTTAL STOP\n" ++
  "12.RISING TONE LONG FINAL\n24.FINAL\n12.SANDHI GLOTTAL STOP FINAL\n19.TONE LONG\n23.\n23. LONG FINAL\n" ++
  "24.FINAL\n12.MID-LEVEL TONE\n12.GLOTTAL STOP VARIANT\n12.MID-LEVEL TONE LONG FINAL\n27.FINAL\n" ++
  "12.LOW-FALLING TONE LONG\n28.\n12.GLOTTAL STOP\n12.LOW-FALLING TONE LONG FINAL\n29.FINAL\n12.GLOTTAL STOP FINAL\n" ++
  "11C00:0.BHAIKSUKI LETTER A\n18.A\n17.I\n18.I\n17.U\n18.U\n17.VOCALIC R\n26.R\n25.L\n11C0A:17.E\n" ++
  "17.AI\n17.O\n17.AU\n17.KA\n18.HA\n17.GA\n18.HA\n17.NGA\n17.CA\n18.HA\n17.JA\n18.HA\n17.NYA\n17.TTA\n" ++
  "19.HA\n17.DDA\n19.HA\n17.NNA\n17.TA\n18.HA\n17.DA\n18.HA\n17.NA\n17.PA\n18.HA\n17.BA\n18.HA\n" ++
  "17.MA\n17.YA\n17.RA\n17.LA\n17.VA\n17.SHA\n18.SA\n18.A\n17.HA\n10.VOWEL SIGN AA\n21.I\n22.I\n" ++
  "21.U\n22.U\n21.VOCALIC R\n30.R\n29.L\n11C38:21.E\n21.AI\n21.O\n21.AU\n10.SIGN CANDRABINDU\n15.ANUSVARA\n" ++
  "15.VISARGA\n17.RAMA\n15.AVAGRAHA\n10.DANDA\n11.OUBLE DANDA\n10.WORD SEPARATOR\n10.GAP FILLER-1\n" ++
  "21.2\n11C50:10.DIGIT ZERO\n16.ONE\n16.TWO\n17.HREE\n16.FOUR\n17.IVE\n16.SIX\n17.EVEN\n16.EIGHT\n" ++
  "16.NINE\n10.NUMBER ONE\n17.TWO\n18.HREE\n17.FOUR\n18.IVE\n17.SIX\n18.EVEN\n17.EIGHT\n17.NINE\n" ++
  "17.TEN\n18.WENTY\n18.HIRTY\n17.FORTY\n18.IFTY\n17.SIXTY\n18.EVENTY\n17.EIGHTY\n17.NINETY\n10.HUNDREDS UNIT MARK\n" ++
  "11C70:0.MARCHEN HEAD MARK\n8.MARK SHAD\n8.LETTER KA\n16.HA\n15.GA\n15.NGA\n15.CA\n16.HA\n15.JA\n" ++
  "15.NYA\n15.TA\n16.HA\n15.DA\n15.NA\n15.PA\n16.HA\n15.BA\n15.MA\n15.TSA\n17.HA\n15.DZA\n15.WA\n" ++
  "15.ZHA\n16.A\n15.-A\n15.YA\n15.RA\n15.LA\n15.SHA\n16.A\n15.HA\n15.A\n11C92:8.SUBJOINED LETTER KA\n" ++
  "26.HA\n25.GA\n25.NGA\n25.CA\n26.HA\n25.JA\n25.NYA\n25.TA\n26.HA\n25.DA\n25.NA\n25.PA\n26.HA\n" ++
  "25.BA\n25.MA\n25.TSA\n27.HA\n25.DZA\n25.WA\n25.ZHA\n26.A\n11CA9:25.YA\n25.RA\n25.LA\n25.SHA\n" ++
  "26.A\n25.HA\n25.A\n8.VOWEL SIGN AA\n19.I\n19.U\n19.E\n19.O\n8.SIGN ANUSVARA\n13.CANDRABINDU\n" ++
  "11D00:2.SARAM GONDI LETTER A\n22.A\n21.I\n22.I\n21.U\n22.U\n21.E\n11D08:21.AI\n21.O\n11D0B:21.AU\n" ++
  "21.KA\n22.HA\n21.GA\n22.HA\n21.NGA\n21.CA\n22.HA\n21.JA\n22.HA\n21.NYA\n21.TTA\n23.HA\n21.DDA\n" ++
  "23.HA\n21.NNA\n21.TA\n22.HA\n21.DA\n22.HA\n21.NA\n21.PA\n22.HA\n21.BA\n22.HA\n21.MA\n21.YA\n21.RA\n" ++
  "21.LA\n21.VA\n21.SHA\n22.SA\n22.A\n21.HA\n21.LLA\n21.KSSA\n21.JNYA\n21.TRA\n14.VOWEL SIGN AA\n" ++
  "25.I\n26.I\n25.U\n26.U\n25.VOCALIC R\n11D3A:25.E\n11D3C:25.AI\n25.O\n11D3F:25.AU\n14.SIGN ANUSVARA\n" ++
  "19.VISARGA\n19.NUKTA\n19.CANDRA\n19.HALANTA\n14.VIRAMA\n14.REPHA\n15.A-KARA\n11D50:14.DIGIT ZERO\n" ++
  "20.ONE\n20.TWO\n21.HREE\n20.FOUR\n21.IVE\n20.SIX\n21.EVEN\n20.EIGHT\n20.NINE\n11D60:0.GUNJALA GONDI LETTER A\n" ++
  "22.A\n21.I\n22.I\n21.U\n22.U\n11D67:21.EE\n21.AI\n11D6A:21.OO\n21.AU\n21.YA\n21.VA\n21.BA\n22.HA\n" ++
  "21.MA\n21.KA\n22.HA\n21.TA\n22.HA\n21.LA\n21.GA\n22.HA\n21.DA\n22.HA\n21.NA\n21.CA\n22.HA\n21.TTA\n" ++
  "23.HA\n21.LLA\n21.JA\n22.HA\n21.DDA\n23.HA\n21.NGA\n21.PA\n22.HA\n21.HA\n21.RA\n21.SA\n14.VOWEL SIGN AA\n" ++
  "25.I\n26.I\n25.U\n26.U\n11D90:25.EE\n25.AI\n11D93:25.OO\n25.AU\n14.SIGN ANUSVARA\n19.VISARGA\n" ++
  "14.VIRAMA\n14.OM\n11DA0:14.DIGIT ZERO\n20.ONE\n20.TWO\n21.HREE\n20.FOUR\n21.IVE\n20.SIX\n21.EVEN\n" ++
  "20.EIGHT\n20.NINE\n11EE0:0.MAKASAR LETTER KA\n15.GA\n15.NGA\n15.PA\n15.BA\n15.MA\n15.TA\n15.DA\n" ++
  "15.NA\n15.CA\n15.JA\n15.NYA\n15.YA\n15.RA\n15.LA\n15.VA\n15.SA\n15.A\n8.ANGKA\n8.VOWEL SIGN I\n" ++
  "19.U\n19.E\n19.O\n8.PASSIMBANG\n8.END OF SECTION\n11FB0:0.LISU LETTER YHA\n11FC0:0.TAMIL FRACTION ONE THREE-HUNDRED-AND-TWENTIETH\n" ++
  "19.ONE-HUNDRED-AND-SIXTIETH\n19.EIGHTIETH\n19.SIXTY-FOURTH\n19.FORTIETH\n19.THIRTY-SECOND\n15.THREE EIGHTIETHS\n" ++
  "21.SIXTY-FOURTHS\n15.ONE TWENTIETH\n19.SIXTEENTH-1\n29.2\n19.TENTH\n19.EIGHTH\n15.THREE TWENTIETHS\n" ++
  "21.SIXTEENTHS\n15.ONE FIFTH\n19.QUARTER\n19.HALF-1\n24.2\n15.THREE QUARTERS\n15.DOWNSCALING FACTOR KIIZH\n" ++
  "6.SIGN NEL\n11.CEVITU\n11.AAZHAAKKU\n11.UZHAKKU\n11.MUUVUZHAKKU\n11.KURUNI\n11.PATHAKKU\n11.MUKKURUNI\n" ++
  "11.KAACU\n11.PANAM\n12.ON\n11.VARAAKAN\n11.PAARAM\n11.KUZHI\n11.VELI\n6.WET CULTIVATION SIGN\n" ++
  "6.DRY CULTIVATION SIGN\n6.LAND SIGN\n6.SALT PAN SIGN\n6.TRADITIONAL CREDIT SIGN\n18.NUMBER SIGN\n" ++
  "6.CURRENT SIGN\n6.AND ODD SIGN\n6.SPENT SIGN\n6.TOTAL SIGN\n6.IN POSSESSION SIGN\n6.STARTING FROM SIGN\n" ++
  "7.IGN MUTHALIYA\n11.VAKAIYARAA\n11FFF:6.PUNCTUATION END OF TEXT\n0.CUNEIFORM SIGN A\n16. TIMES A\n" ++
  "23.BAD\n23.GAN2 TENU\n23.HA\n23.IGI\n23.LAGAR GUNU\n23.MUSH\n23.SAG\n16.2\n16.B\n17. TIMES ASH2\n" ++
  "24.DUN3 GUNU\n24.GAL\n26.N2 TENU\n24.HA\n24.IGI GUNU\n25.MIN\n24.LAGAB\n24.SHESH\n24.U PLUS U PLUS U\n" ++
  "18.GUNU\n17.2\n18. TIMES BALAG\n25.GAN2 TENU\n25.ME PLUS EN\n25.SHA3\n25.TAK4\n16.D\n16.K\n17. TIMES ERIN2\n" ++
  "24.SHITA PLUS GISH\n16.L\n17. TIMES AL\n24.DIM2\n24.GISH\n24.HA\n24.KAD3\n25.I\n24.SHE\n24.USH\n" ++
  "17.AN\n17.EPH\n16.MAR\n19. TIMES SHE\n16.N\n17. OVER AN\n18.THREE TIMES\n18.PLUS NAGA OPPOSING AN PLUS NAGA\n" ++
  "28.SQUARED\n17.SHE\n16.PIN\n16.RAD\n19. TIMES KUR\n17.KAB\n16.SAL2\n17.H\n18. ZIDA TENU\n19.KABA TENU\n" ++
  "19.OVER ASH TUG2 OVER TUG2 TUG2 OVER TUG2 PAP\n28.OVER ASH\n36. CROSSING ASH OVER ASH OVER ASH\n" ++
  "18.2\n18.GAB\n15.BA\n17.D\n17.G3\n17.HAR2\n17.L\n18. OVER BAL\n18.AG\n17.R\n18.A2\n16.I\n17. TIMES A\n" ++
  "24.GAR\n24.IGI GUNU\n16.U\n17. OVER BU AB\n26.UN\n18.CROSSING BU\n17.LUG\n20. OVER BULUG\n17.R\n" ++
  "18.2\n15.DA\n17.G\n18. KISIM5 TIMES A PLUS MASH\n33.MAR\n32.BALAG\n33.I\n32.GA\n34. PLUS MASH\n" ++
  "33.I\n34.R2\n33.UD\n32.HA\n32.IR\n34. PLUS LU\n32.KAK\n32.LA\n33.U\n34. PLUS MASH2\n34.M\n32.NE\n" ++
  "32.PAP PLUS PAP\n32.SI\n32.TAK4\n32.U2 PLUS GIR2\n33.SH\n17.M\n17.R\n18.A3\n19.4\n16.I\n17.B\n" ++
  "17.M\n18. TIMES SHE\n18.2\n17.N\n18. KASKAL U GUNU DISH\n17.SH\n16.U\n17. OVER DU\n18.GUNU\n18.SHESHIG\n" ++
  "17.B\n18. TIMES ESH2\n18.2\n17.G\n18.UD\n17.H\n17.N\n18.3\n19. GUNU\n24. GUNU\n18.4\n17.R2\n15.E\n" ++
  "16. TIMES PAP\n17.OVER E NUN OVER NUN\n16.2\n17. TIMES A PLUS HA PLUS DA\n24.GAR\n24.MI\n24.SAL\n" ++
  "25.HE\n24.U\n16.DIN\n16.GIR\n16.L\n16.N\n17. TIMES GAN2\n28. TENU\n24.ME\n18.CROSSING EN\n18.OPPOSING EN\n" ++
  "18.SQUARED\n16.REN\n17.IN2\n16.SH2\n16.ZEN\n19. TIMES A\n27. PLUS LAL\n36. TIMES LAL\n27.N\n26.BAD\n" ++
  "26.DUN3 GUNU\n35. GUNU\n26.HA\n28. GUNU\n26.IGI GUNU\n26.KASKAL\n32. SQUARED\n27.U3\n26.LA\n28.L TIMES LAL\n" ++
  "27.I\n27.U\n26.U2\n27.D\n15.GA\n17. GUNU\n17.2\n18. TIMES A PLUS DA PLUS HA\n32.HA\n32.IGI\n26.B2 TENU PLUS TAB\n" ++
  "26.N\n26.SH\n28.2 PLUS GAL\n25.BAD\n27.R PLUS RA\n26.UR\n28. PLUS RA\n25.DA\n26.I\n27.M TIMES SHE\n" ++
  "26.UB\n25.EL\n27. PLUS LA\n26.N\n27. TIMES GAN2 TENU\n25.GAN2 TENU\n27.R\n26.I\n27.4\n28. PLUS A\n" ++
  "27.R2 PLUS SU\n25.HA PLUS LU PLUS ESH2\n27.L\n28. PLUS LA\n26.I PLUS LI\n26.UB2\n25.IGI GUNU\n" ++
  "26.SH PLUS HU PLUS ASH\n25.KAK\n27.SKAL\n26.ID\n28. PLUS LAL\n26.U3 PLUS AN\n25.LA\n25.ME PLUS EN\n" ++
  "26.I\n25.NUN\n28. OVER NUN\n25.PA\n25.SAL\n27.R\n26.HE\n28. PLUS TUR\n27.ID\n26.UM\n25.TAK4\n" ++
  "25.U\n26.D\n27. PLUS DU\n19.OVER GA2\n17.BA\n19. CROSSING GABA\n17.D\n18. OVER GAD GAR OVER GAR\n" ++
  "17.L\n18. GAD OVER GAD GAR OVER GAR\n18.AM\n17.M\n17.N\n18.2\n19. TENU\n20.OVER GAN2\n20.CROSSING GAN2\n" ++
  "17.R\n18.3\n17.SHAN\n16.ESHTIN\n22. TIMES KUR\n16.I\n17. TIMES E\n24.U\n18.CROSSING GI\n17.4\n" ++
  "18. OVER GI4\n19.CROSSING GI4\n17.DIM\n17.R2\n19. GUNU\n18.3\n19. TIMES A PLUS IGI\n26.GAN2 TENU\n" ++
  "26.IGI\n26.LU PLUS IGI\n26.PA\n17.SAL\n18.H\n19. CROSSING GISH\n20.TIMES BAD\n26.TAK4\n21.ENU\n" ++
  "16.U\n17. CROSSING GU\n17.2\n18. TIMES KAK\n28. TIMES IGI GUNU\n25.NUN\n25.SAL PLUS TUG2\n19.GUNU\n" ++
  "17.D\n18. TIMES A PLUS KUR\n25.KUR\n19.OVER GUD LUGAL\n17.L\n17.M\n18. TIMES SHE\n17.R\n18.7\n" ++
  "18.UN\n19.SH\n15.HA\n17. TENU\n18.GUNU\n17.L\n16.I\n17. TIMES ASH\n27.2\n24.BAD\n24.DISH\n24.GAD\n" ++
  "24.KIN\n24.NUN\n24.SHE\n24.U\n16.U\n17.B2\n19. TIMES AN\n26.HAL\n26.KASKAL\n26.LISH\n26.UD\n17.L2\n" ++
  "15.I\n16. A\n16.B\n16.DIM\n19. OVER IDIM BUR\n30.SQUARED\n16.G\n17.I\n18. DIB\n19.RI\n19.OVER IGI SHIR OVER SHIR UD OVER UD\n" ++
  "19.GUNU\n16.L\n17. TIMES GAN2 TENU\n17.2\n16.M\n17. TIMES TAK4\n18.CROSSING IM\n18.OPPOSING IM\n" ++
  "18.SQUARED\n17.IN\n16.N\n16.R\n16.SH\n15.KA\n17. TIMES A\n25.D\n26. PLUS KU3\n25.SH2\n24.BAD\n" ++
  "26.LAG\n26.R\n25.I\n24.ERIN2\n25.SH2\n24.GA\n26.L\n26.N2 TENU\n26.R\n27. PLUS SHA3 PLUS A\n25.I\n" ++
  "26.R2\n26.SH PLUS SAR\n29.CROSSING GISH\n25.U\n26.R7\n24.IGI\n25.M\n24.KAK\n25.I\n26.D\n24.LI\n" ++
  "25.U\n24.ME\n26. PLUS DU\n32.GI\n32.TE\n25.I\n26. PLUS NUNUZ\n24.NE\n25.UN\n24.PI\n24.RU\n24.SA\n" ++
  "26.R\n25.HA\n26.E\n26.ID\n26.U\n25.IG\n25.UHUR\n24.TAR\n24.U\n25.2\n25.D\n25.MUM TIMES PA\n25.SH\n" ++
  "24.ZI\n17.2\n18. CROSSING KA2\n17.B\n17.D2\n18.3\n18.4\n18.5\n19. OVER KAD5\n17.K\n18. TIMES IGI GUNU\n" ++
  "17.L\n18. TIMES BAD\n19.CROSSING KAL\n17.M2\n18.4\n17.SKAL\n21. LAGAB TIMES U OVER LAGAB TIMES U\n" ++
  "22.OVER KASKAL LAGAB TIMES U OVER LAGAB TIMES U\n16.ESH2\n16.I\n17. TIMES BAD\n24.U\n25.D\n17.D\n" ++
  "17.N\n17.SAL\n18.H\n18.IM5\n21. OVER KISIM5\n16.U\n17. OVER HI TIMES ASH2 KU OVER HI TIMES ASH2\n" ++
  "17.3\n17.4\n18. VARIANT FORM\n17.7\n17.L\n18. GUNU\n17.N\n17.R\n18. OPPOSING KUR\n17.SHU2\n16.WU318\n" ++
  "15.LA\n17.GAB\n20. TIMES A\n28. PLUS DA PLUS HA\n34.GAR\n34.LAL\n28.L\n28.N\n28.SH ZIDA TENU\n" ++
  "27.BAD\n28.I\n27.DAR\n27.EN\n27.GA\n29.R\n28.UD\n30. PLUS GUD\n27.HA\n29.L\n28.I TIMES NUN\n27.IGI GUNU\n" ++
  "28.M\n29. PLUS HA\n35.LU\n27.KI\n29.N\n28.U3\n29.L\n30. PLUS HI PLUS A\n27.LAGAB\n28.ISH\n28.U\n" ++
  "29.L\n27.ME\n29. PLUS EN\n28.USH\n27.NE\n27.SHE PLUS SUM\n29.ITA PLUS GISH PLUS ERIN2\n43.TENU\n" ++
  "29.U2\n31. PLUS SHU2\n28.UM\n27.TAG\n29.K4\n28.E PLUS A PLUS SU PLUS NA\n27.U\n28. PLUS A\n34.U PLUS U\n" ++
  "28.2 PLUS ASH\n28.D\n28.SH\n21.SQUARED\n19.R\n20. TIMES SHE\n30. PLUS SUM\n21.GUNU\n25. OVER LAGAR GUNU SHE\n" ++
  "17.HSHU\n17.L\n18. TIMES LAL\n17.M\n18. TIMES KUR\n28. PLUS RU\n16.I\n17.L\n17.MMU2\n17.SH\n16.U\n" ++
  "17. TIMES BAD\n17.2\n18. TIMES AL\n25.BAD\n25.ESH2\n29. TENU\n25.GAN2 TENU\n25.HI TIMES BAD\n" ++
  "25.IM\n25.KAD2\n28.3\n29. PLUS ASH\n26.I\n25.LA PLUS ASH\n27.GAB\n25.ME PLUS EN\n25.NE\n26.U\n" ++
  "25.SI PLUS ASH\n27.K2 PLUS BU\n25.TUG2\n20.ENU\n19.CROSSING LU2\n19.OPPOSING LU2\n19.SQUARED\n" ++
  "20.HESHIG\n17.3\n17.GAL\n20. OVER LUGAL\n22.PPOSING LUGAL\n21.SHESHIG\n17.H\n17.L\n17.M\n18. OVER LUM\n" ++
  "27. GAR OVER GAR\n15.MA\n17. TIMES TAK4\n18.GUNU\n17.2\n17.H\n17.R\n17.SH\n19.2\n16.E\n17.S\n" ++
  "16.I\n17.N\n16.U\n17. OVER MU\n17.G\n18. GUNU\n17.NSUB\n17.RGU2\n17.SH\n19. TIMES A\n26.KUR\n" ++
  "26.ZA\n20.OVER MUSH\n29. TIMES A PLUS NA\n20.CROSSING MUSH\n19.3\n20. TIMES A\n28. PLUS DI\n27.DI\n" ++
  "21.GUNU\n15.NA\n17.2\n17.GA\n19. INVERTED\n20.TIMES SHU TENU\n20.OPPOSING NAGA\n19.R\n17.M NUTILLU\n" ++
  "18.\n18.2\n16.E\n17. TIMES A\n24.UD\n18.SHESHIG\n16.I\n17. TIMES E\n17.2\n17.M\n18. TIMES GAN2 TENU\n" ++
  "27.R PLUS GAN2 TENU\n17.NDA2\n21. TIMES AN\n29.SH\n31. PLUS ASH\n28.GUD\n28.ME PLUS GAN2 TENU\n" ++
  "28.NE\n29.UN\n28.SHE\n31. PLUS A AN\n38.SH\n40. PLUS ASH\n28.U2 PLUS ASH\n29.SH\n17.SAG\n16.U\n" ++
  "17.11\n17.N\n18. LAGAR TIMES GAR\n31.MASH\n31.SAL\n34. OVER NUN LAGAR TIMES SAL\n31.USH\n19.TENU\n" ++
  "19.OVER NUN\n19.CROSSING NUN\n31. LAGAR OVER LAGAR\n18.UZ\n20. AB2 TIMES ASHGAB\n31.BI\n31.DUG\n" ++
  "31.GUD\n31.IGI GUNU\n31.KAD3\n31.LA\n31.NE\n31.SILA3\n31.U2\n21.KISIM5 TIMES BI\n36. U\n15.PA\n" ++
  "17.D\n17.N\n17.P\n16.ESH2\n16.I\n17. TIMES A\n25.B\n24.BI\n25.U\n24.E\n24.I\n25.B\n24.U\n25.2\n" ++
  "18.CROSSING PI\n17.RIG\n20. TIMES KAL\n27.UD\n27.ZA\n21.OPPOSING PIRIG\n15.RA\n17.B\n16.I\n16.U\n" ++
  "15.SA\n17.G NUTILLU\n18.\n18. TIMES A\n25.DU\n27.B\n25.HA\n25.KAK\n26.UR\n25.LUM\n25.MI\n25.NUN\n" ++
  "25.SAL\n26.HID\n25.TAB\n25.U2\n26.B\n26.M\n26.R\n26.SH\n19.OVER SAG\n19.GUNU\n17.L\n18. LAGAB TIMES ASH2\n" ++
  "17.NGA2\n17.R\n16.HA\n18.3\n19. TIMES A\n26.BAD\n26.GISH\n26.NE\n26.SHU2\n26.TUR\n26.U\n27. PLUS A\n" ++
  "18.6\n18.B6\n18.R2\n17.E\n18. HU\n19.OVER SHE GAD OVER GAD GAR OVER GAR\n28.TAB OVER TAB GAR OVER GAR\n" ++
  "18.G9\n18.N\n18.SH\n20.2\n20.LAM\n17.ID\n19. TIMES A\n26.IM\n18.M\n19. TIMES A\n26.BAL\n27.ULUG\n" ++
  "26.DIN\n26.GAR\n26.IGI\n29. GUNU\n26.KUSHU2\n26.LUL\n26.MUG\n26.SAL\n18.NIG\n18.R\n19. TENU\n" ++
  "20.OVER SHIR BUR OVER BUR\n18.TA\n17.U\n18. OVER INVERTED SHU\n18.2\n18.BUR\n16.I\n17. GUNU\n" ++
  "17.G\n18.4\n19. OVER SIG4 SHU2\n17.K2\n17.LA3\n16.U\n17. OVER SU\n17.D\n18.2\n17.HUR\n17.M\n18.ASH\n" ++
  "17.R\n18.9\n15.TA\n17. ASTERISK\n18.TIMES HI\n24.MI\n18.GUNU\n17.B\n18. OVER TAB NI OVER NI DISH OVER DISH\n" ++
  "19.SQUARED\n17.G\n18. TIMES BI\n25.GUD\n25.SHE\n27.U\n25.TUG2\n25.UD\n17.K4\n17.R\n16.E\n17. GUNU\n" ++
  "16.I\n17. TENU\n17.L\n17.R\n18. TIMES TAK4\n19.OVER TIR\n27. GAD OVER GAD GAR OVER GAR\n16.U\n" ++
  "17.G2\n17.K\n17.M\n17.R\n18. OVER TUR ZA OVER ZA\n15.U\n16. GUD\n17.U U\n17.OVER U PA OVER PA GAR OVER GAR\n" ++
  "24.SUR OVER SUR\n24.U REVERSED OVER U REVERSED\n16.2\n16.B\n16.D\n17. KUSHU2\n18.TIMES BAD\n24.MI\n" ++
  "24.U PLUS U PLUS U\n39. GUNU\n18.GUNU\n18.SHESHIG\n25. TIMES BAD\n17.UG\n16.M\n17. TIMES LAGAB\n" ++
  "24.ME PLUS DA\n24.SHA3\n24.U\n17.BIN\n17.UM\n19. TIMES KASKAL\n26.PA\n16.N\n17. GUNU\n16.R\n17. CROSSING UR\n" ++
  "18.SHESHIG\n17.2\n18. TIMES A PLUS HA\n32.NA\n26.L\n25.HA\n25.NUN\n25.U2\n27. PLUS ASH\n33.BI\n" ++
  "17.4\n17.I\n18.3\n17.U\n18. TIMES A\n26.SHGAB\n25.BAR\n25.DUN\n25.GA\n27.L\n27.N2 TENU\n27.R\n" ++
  "26.U\n25.HA\n25.IGI\n26.M\n26.SH\n25.KI\n25.LUM\n25.MIN\n25.PA\n25.SHE\n26.IG4\n25.TU\n25.U PLUS GUD\n" ++
  "26.D\n26.RUDA\n18.DA\n20. TIMES U\n16.SH\n18. TIMES A\n25.KU\n27.R\n25.TAK4\n18.X\n18.2\n18.UMX\n" ++
  "16.TUKI\n16.Z3\n18. TIMES KASKAL\n17.U\n15.ZA\n17. TENU\n18.SQUARED TIMES KUR\n17.G\n17.MX\n16.E2\n" ++
  "16.I\n17. OVER ZI\n17.3\n17.B\n18. KABA TENU\n17.G\n17.Z2\n16.U\n17.5\n18. TIMES A\n17.BUR\n17.M\n" ++
  "15.KAP ELAMITE\n15.AB TIMES NUN\n17.2 TIMES A\n16.MAR TIMES KUG\n15.DAG KISIM5 TIMES U2 PLUS MASH\n" ++
  "18.3\n16.ISH PLUS SHU\n16.UB TIMES SHE\n15.EZEN TIMES GUD\n26.SHE\n15.GA2 TIMES AN PLUS KAK PLUS A\n" ++
  "26.SH2\n16.E22\n16.IG\n15.HUSH\n15.KA TIMES ANSHE\n25.SH3\n24.GISH\n25.UD\n24.HI TIMES ASH2\n" ++
  "24.LUM\n24.PA\n24.SHUL\n24.TU\n24.UR2\n15.LAGAB TIMES GI\n16.U2 SHESHIG TIMES BAD\n19.TIMES ESH2 PLUS LAL\n" ++
  "25.SHU\n15.MESH\n16.USH3 TIMES ZA\n15.NA4\n16.IN\n18.9\n18.DA2 TIMES BAL\n28.GI\n16.U11 ROTATED NINETY DEGREES\n" ++
  "15.PESH2 ASTERISK\n16.IR2\n15.SAG TIMES IGI GUNU\n15.TI2\n15.UM TIMES ME\n16. U\n12400:10.NUMERIC SIGN TWO ASH\n" ++
  "24.HREE ASH\n23.FOUR ASH\n24.IVE ASH\n23.SIX ASH\n24.EVEN ASH\n23.EIGHT ASH\n23.NINE ASH\n23.THREE DISH\n" ++
  "23.FOUR DISH\n24.IVE DISH\n23.SIX DISH\n24.EVEN DISH\n23.EIGHT DISH\n23.NINE DISH\n23.FOUR U\n" ++
  "24.IVE U\n23.SIX U\n24.EVEN U\n23.EIGHT U\n23.NINE U\n23.ONE GESH2\n23.TWO GESH2\n24.HREE GESH2\n" ++
  "23.FOUR GESH2\n24.IVE GESH2\n23.SIX GESH2\n24.EVEN GESH2\n23.EIGHT GESH2\n23.NINE GESH2\n23.ONE GESHU\n" ++
  "23.TWO GESHU\n24.HREE GESHU\n23.FOUR GESHU\n24.IVE GESHU\n23.TWO SHAR2\n24.HREE SHAR2\n34. VARIANT FORM\n" ++
  "23.FOUR SHAR2\n24.IVE SHAR2\n23.SIX SHAR2\n24.EVEN SHAR2\n23.EIGHT SHAR2\n23.NINE SHAR2\n23.ONE SHARU\n" ++
  "23.TWO SHARU\n24.HREE SHARU\n34. VARIANT FORM\n23.FOUR SHARU\n24.IVE SHARU\n23.SHAR2 TIMES GAL PLUS DISH\n" ++
  "44.MIN\n23.ONE BURU\n23.TWO BURU\n24.HREE BURU\n33. VARIANT FORM\n23.FOUR BURU\n24.IVE BURU\n" ++
  "23.THREE VARIANT FORM ESH16\n45.21\n23.FOUR VARIANT FORM LIMMU\n46.4\n46. A\n47.B\n23.SIX VARIANT FORM ASH9\n" ++
  "24.EVEN VARIANT FORM IMIN3\n46. A\n47.B\n23.EIGHT VARIANT FORM USSU\n46.3\n23.NINE VARIANT FORM ILIMMU\n" ++
  "47.3\n47.4\n47. A\n23.TWO ASH TENU\n24.HREE ASH TENU\n23.FOUR ASH TENU\n24.IVE ASH TENU\n23.SIX ASH TENU\n" ++
  "23.ONE BAN2\n23.TWO BAN2\n24.HREE BAN2\n23.FOUR BAN2\n32. VARIANT FORM\n24.IVE BAN2\n32. VARIANT FORM\n" ++
  "23.NIGIDAMIN\n29.ESH\n23.ONE ESHE3\n23.TWO ESHE3\n23.ONE THIRD DISH\n23.TWO THIRDS DISH\n23.FIVE SIXTHS DISH\n" ++
  "23.ONE THIRD VARIANT FORM A\n23.TWO THIRDS VARIANT FORM A\n23.ONE EIGHTH ASH\n27.QUARTER ASH\n" ++
  "24.LD ASSYRIAN ONE SIXTH\n40.QUARTER\n24.NE QUARTER GUR\n27.HALF GUR\n23.ELAMITE ONE THIRD\n31.TWO THIRDS\n" ++
  "31.FORTY\n32.IFTY\n23.FOUR U VARIANT FORM\n24.IVE U VARIANT FORM\n23.SIX U VARIANT FORM\n24.EVEN U VARIANT FORM\n" ++
  "23.EIGHT U VARIANT FORM\n23.NINE U VARIANT FORM\n12470:10.PUNCTUATION SIGN OLD ASSYRIAN WORD DIVIDER\n" ++
  "27.VERTICAL COLON\n27.DIAGONAL COLON\n36.TRICOLON\n36.QUADCOLON\n12480:10.SIGN AB TIMES NUN TENU\n" ++
  "24.SHU2\n16.D TIMES ESH2\n15.BAD TIMES DISH TENU\n17.HAR2 TIMES AB2\n28.NI\n28.ZA\n16.U OVER BU TIMES NA2\n" ++
  "15.DA TIMES TAK4\n17.G TIMES KUR\n16.IM TIMES IGI\n25.U U U\n18.2 TIMES UD\n16.UG TIMES ANSHE\n" ++
  "26.SH\n28. AT LEFT\n25.DIN\n26.UN\n25.ERIN2\n25.GA\n26.I\n27.R2 GUNU\n27.SH\n25.HA\n26.I\n25.IGI GUNU\n" ++
  "25.KASKAL\n26.UR\n27.SHU2\n31. PLUS KASKAL\n25.LAK-020\n27.M\n28. TIMES KUR\n26.UH PLUS GISH\n" ++
  "25.MASH\n26.ES\n26.I\n25.NI\n25.PI\n25.SHE\n26.I GUNU\n15.E2 TIMES KUR\n24.PAP\n16.RIN2 X\n16.SH2 CROSSING ESH2\n" ++
  "16.ZEN SHESHIG TIMES ASH\n34.HI\n34.IGI GUNU\n34.LA\n36.L\n34.ME\n36.S\n34.SU\n20.TIMES SU\n15.GA2 TIMES BAHAR2\n" ++
  "25.DIM GUNU\n26.UG TIMES IGI GUNU\n35.KASKAL\n25.EREN\n25.GA\n27.R PLUS DI\n34.NE\n25.HA PLUS A\n" ++
  "25.KUSHU2 PLUS KASKAL\n25.LAM\n28. TIMES KUR\n26.UH\n25.MUSH\n25.NE\n27. PLUS E2\n33.GI\n25.SHIM\n" ++
  "25.ZIZ2\n17.BA ROTATED NINETY DEGREES\n16.ESHTIN TIMES U\n16.ISH TIMES GISH CROSSING GISH\n16.U2 TIMES IGI GUNU\n" ++
  "17.D PLUS GISH TIMES TAK4\n15.HA TENU GUNU\n16.I TIMES ASH OVER HI TIMES ASH\n15.KA TIMES BU\n" ++
  "24.KA\n24.U U U\n25.R\n15.LAGAB TIMES ZU OVER ZU\n17.K-003\n20.21\n21.5\n20.30\n20.50\n21.1\n" ++
  "20.62\n20.79 OVER LAK-079 GUNU\n20.80\n21.1 OVER LAK-081\n20.92\n19.130\n20.42\n19.210\n21.9\n" ++
  "20.20\n21.5\n21.8\n20.38\n20.65\n21.6\n19.343\n21.7\n21.8\n20.83\n21.4\n20.90\n19.441\n21.9\n" ++
  "22. TIMES GU\n29.IGI\n29.PAP PLUS LU3\n38.PAP PLUS LU3\n29.U2 PLUS BA\n20.50\n21.7\n20.70\n20.83\n" ++
  "20.90\n21.2\n21.3\n21.5\n19.550\n19.608\n20.17\n22. TIMES ASH\n29.BAD\n29.DUN3 GUNU GUNU\n29.KU3\n" ++
  "29.LA\n29.TAR\n30.E\n29.U2\n30.D\n30.RUDA\n20.36\n20.48\n22. TIMES DUB\n29.GA\n29.IGI\n32. GUNU\n" ++
  "29.NI\n29.PAP PLUS PAP PLUS LU3\n29.SHESH PLUS KI\n29.UD\n30.RUDA\n19.724\n20.49\n16.U2 GUNU TIMES ASH\n" ++
  "19.TIMES DISH\n25.HAL\n25.PAP\n28. PLUS PAP PLUS LU3\n25.TAK4\n15.MI PLUS ZA7\n16.USH OVER MUSH TIMES GA\n" ++
  "36.KAK\n15.NINDA2 TIMES DIM GUNU\n28.GISH\n29.UL\n28.HI\n28.KESH2\n28.LAK-050\n28.MASH\n28.PAP PLUS PAP\n" ++
  "28.U\n29. PLUS U\n29.RUDA\n15.SAG GUNU TIMES HA\n19.TIMES EN\n25.SHE AT LEFT\n25.TAK4\n16.HA6 TENU\n" ++
  "17.E OVER SHE\n19.PLUS HUB2\n24.NAM2\n24.SAR\n17.U2 PLUS DUG TIMES NI\n25.E2 TIMES AN\n16.I TIMES TAK4\n" ++
  "15.TAK4 PLUS SAG\n16.UM TIMES GAN2 TENU\n25.THREE DISH\n15.UR2 INVERTED\n19.TIMES UD\n17.U TIMES DARA3\n" ++
  "25.LAK-668\n26.U3\n15.ZA7\n16.U OVER ZU PLUS SAR\n17.5 TIMES THREE DISH TENU\n12F90:1.YPRO-MINOAN SIGN CM001\n" ++
  "22.2\n22.4\n22.5\n22.6\n22.7\n22.8\n22.9\n21.10\n22.1\n22.2\n23.B\n22.3\n22.5\n22.7\n22.9\n21.21\n" ++
  "22.3\n22.4\n22.5\n22.6\n22.7\n22.8\n22.9\n21.30\n22.3\n22.4\n22.5\n22.6\n22.7\n22.8\n22.9\n21.40\n" ++
  "22.1\n22.4\n22.6\n22.7\n22.9\n21.50\n22.1\n22.2\n22.3\n22.4\n22.5\n22.6\n22.8\n22.9\n21.60\n22.1\n" ++
  "22.2\n22.3\n22.4\n22.6\n22.7\n22.8\n22.9\n21.70\n22.1\n22.2\n22.3\n22.4\n22.5\n23.B\n22.6\n22.8\n" ++
  "22.9\n21.80\n22.1\n22.2\n22.3\n22.4\n22.5\n22.6\n22.7\n22.8\n22.9\n21.90\n22.1\n22.2\n22.4\n22.5\n" ++
  "22.6\n22.7\n22.8\n22.9\n20.100\n22.1\n22.2\n22.3\n22.4\n22.5\n22.7\n22.8\n22.9\n21.10\n22.2\n" ++
  "22.4\n20.301\n22.2\n13000:0.EGYPTIAN HIEROGLYPH A001\n23.2\n23.3\n23.4\n23.5\n24.A\n23.6\n24.A\n" ++
  "24.B\n23.7\n23.8\n23.9\n22.10\n23.1\n23.2\n23.3\n23.4\n24.A\n23.5\n23.6\n23.7\n24.A\n23.8\n23.9\n" ++
  "22.20\n23.1\n23.2\n23.3\n23.4\n23.5\n23.6\n23.7\n23.8\n23.9\n22.30\n23.1\n23.2\n24.A\n23.3\n23.4\n" ++
  "23.5\n23.6\n23.7\n23.8\n23.9\n22.40\n24.A\n23.1\n23.2\n24.A\n23.3\n24.A\n23.4\n23.5\n24.A\n23.6\n" ++
  "23.7\n23.8\n23.9\n22.50\n23.1\n23.2\n23.3\n23.4\n23.5\n23.6\n23.7\n23.8\n23.9\n22.60\n23.1\n23.2\n" ++
  "23.3\n23.4\n23.5\n23.6\n23.7\n23.8\n23.9\n22.70\n20.B001\n23.2\n23.3\n23.4\n23.5\n24.A\n23.6\n" ++
  "23.7\n23.8\n23.9\n20.C001\n23.2\n24.A\n24.B\n24.C\n23.3\n23.4\n23.5\n23.6\n23.7\n23.8\n23.9\n" ++
  "22.10\n24.A\n23.1\n23.2\n23.3\n23.4\n23.5\n23.6\n23.7\n23.8\n23.9\n22.20\n23.1\n23.2\n23.3\n23.4\n" ++
  "20.D001\n23.2\n23.3\n23.4\n23.5\n23.6\n23.7\n23.8\n24.A\n23.9\n22.10\n23.1\n23.2\n23.3\n23.4\n" ++
  "23.5\n23.6\n23.7\n23.8\n23.9\n22.20\n23.1\n23.2\n23.3\n23.4\n23.5\n23.6\n23.7\n24.A\n23.8\n23.9\n" ++
  "22.30\n23.1\n24.A\n23.2\n23.3\n23.4\n24.A\n23.5\n23.6\n23.7\n23.8\n23.9\n22.40\n23.1\n23.2\n23.3\n" ++
  "23.4\n23.5\n23.6\n24.A\n23.7\n23.8\n24.A\n23.9\n22.50\n24.A\n24.B\n24.C\n24.D\n24.E\n24.F\n24.G\n" ++
  "24.H\n24.I\n23.1\n23.2\n24.A\n23.3\n23.4\n24.A\n23.5\n23.6\n23.7\n23.8\n23.9\n22.60\n23.1\n23.2\n" ++
  "23.3\n23.4\n23.5\n23.6\n23.7\n24.A\n24.B\n24.C\n24.D\n24.E\n24.F\n24.G\n24.H\n20.E001\n23.2\n" ++
  "23.3\n23.4\n23.5\n23.6\n23.7\n23.8\n24.A\n23.9\n24.A\n22.10\n23.1\n23.2\n23.3\n23.4\n23.5\n23.6\n" ++
  "24.A\n23.7\n24.A\n23.8\n23.9\n22.20\n24.A\n23.1\n23.2\n23.3\n23.4\n23.5\n23.6\n23.7\n23.8\n24.A\n" ++
  "23.9\n22.30\n23.1\n23.2\n23.3\n23.4\n24.A\n23.6\n23.7\n23.8\n20.F001\n24.A\n23.2\n23.3\n23.4\n" ++
  "23.5\n23.6\n23.7\n23.8\n23.9\n22.10\n23.1\n23.2\n23.3\n24.A\n23.4\n23.5\n23.6\n23.7\n23.8\n23.9\n" ++
  "22.20\n23.1\n24.A\n23.2\n23.3\n23.4\n23.5\n23.6\n23.7\n23.8\n23.9\n22.30\n23.1\n24.A\n23.2\n23.3\n" ++
  "23.4\n23.5\n23.6\n23.7\n24.A\n23.8\n24.A\n23.9\n22.40\n23.1\n23.2\n23.3\n23.4\n23.5\n24.A\n23.6\n" ++
  "24.A\n23.7\n24.A\n23.8\n23.9\n22.50\n23.1\n24.A\n24.B\n24.C\n23.2\n23.3\n20.G001\n23.2\n23.3\n" ++
  "23.4\n23.5\n23.6\n24.A\n23.7\n24.A\n24.B\n23.8\n23.9\n22.10\n23.1\n24.A\n23.2\n23.3\n23.4\n23.5\n" ++
  "23.6\n23.7\n23.8\n23.9\n22.20\n24.A\n23.1\n23.2\n23.3\n23.4\n23.5\n23.6\n24.A\n23.7\n23.8\n23.9\n" ++
  "22.30\n23.1\n23.2\n23.3\n23.4\n23.5\n23.6\n24.A\n23.7\n24.A\n23.8\n23.9\n22.40\n23.1\n23.2\n23.3\n" ++
  "24.A\n23.4\n23.5\n24.A\n23.6\n23.7\n23.8\n23.9\n22.50\n23.1\n23.2\n23.3\n23.4\n20.H001\n23.2\n" ++
  "23.3\n23.4\n23.5\n23.6\n24.A\n23.7\n23.8\n20.I001\n23.2\n23.3\n23.4\n23.5\n24.A\n23.6\n23.7\n" ++
  "23.8\n23.9\n24.A\n22.10\n24.A\n23.1\n24.A\n23.2\n23.3\n23.4\n23.5\n20.K001\n23.2\n23.3\n23.4\n" ++
  "23.5\n23.6\n23.7\n23.8\n20.L001\n23.2\n24.A\n23.3\n23.4\n23.5\n23.6\n24.A\n23.7\n23.8\n20.M001\n" ++
  "24.A\n24.B\n23.2\n23.3\n24.A\n23.4\n23.5\n23.6\n23.7\n23.8\n23.9\n22.10\n24.A\n23.1\n23.2\n24.A\n" ++
  "24.B\n24.C\n24.D\n24.E\n24.F\n24.G\n24.H\n23.3\n23.4\n23.5\n24.A\n23.6\n24.A\n23.7\n24.A\n23.8\n" ++
  "23.9\n22.20\n23.1\n23.2\n24.A\n23.3\n23.4\n24.A\n23.5\n23.6\n23.7\n23.8\n24.A\n23.9\n22.30\n23.1\n" ++
  "24.A\n23.2\n23.3\n24.A\n24.B\n23.4\n23.5\n23.6\n23.7\n23.8\n23.9\n22.40\n24.A\n23.1\n23.2\n23.3\n" ++
  "23.4\n20.N001\n23.2\n23.3\n23.4\n23.5\n23.6\n23.7\n23.8\n23.9\n22.10\n23.1\n23.2\n23.3\n23.4\n" ++
  "23.5\n23.6\n23.7\n23.8\n24.A\n24.B\n23.9\n22.20\n23.1\n23.2\n23.3\n23.4\n23.5\n24.A\n23.6\n23.7\n" ++
  "23.8\n23.9\n22.30\n23.1\n23.2\n23.3\n24.A\n23.4\n24.A\n23.5\n24.A\n23.6\n23.7\n24.A\n23.8\n23.9\n" ++
  "22.40\n23.1\n23.2\n21.L001\n24.2\n24.3\n24.4\n24.5\n25.A\n24.6\n24.7\n24.8\n24.9\n23.10\n24.1\n" ++
  "24.2\n24.3\n24.4\n24.5\n24.6\n24.7\n25.A\n24.8\n24.9\n23.20\n21.U001\n24.2\n24.3\n24.4\n24.5\n" ++
  "24.6\n24.7\n24.8\n24.9\n23.10\n25.A\n24.1\n25.A\n24.2\n24.3\n24.4\n24.5\n24.6\n24.7\n24.8\n25.A\n" ++
  "24.9\n23.20\n24.1\n24.2\n25.A\n20.O001\n24.A\n23.2\n23.3\n23.4\n23.5\n24.A\n23.6\n24.A\n24.B\n" ++
  "24.C\n24.D\n24.E\n24.F\n23.7\n23.8\n23.9\n22.10\n24.A\n24.B\n24.C\n23.1\n23.2\n23.3\n23.4\n23.5\n" ++
  "23.6\n23.7\n23.8\n23.9\n24.A\n22.20\n24.A\n23.1\n23.2\n23.3\n23.4\n24.A\n23.5\n24.A\n23.6\n23.7\n" ++
  "23.8\n23.9\n24.A\n22.30\n24.A\n23.1\n23.2\n23.3\n24.A\n23.4\n23.5\n23.6\n24.A\n24.B\n24.C\n24.D\n" ++
  "23.7\n23.8\n23.9\n22.40\n23.1\n23.2\n23.3\n23.4\n23.5\n23.6\n23.7\n23.8\n23.9\n22.50\n24.A\n24.B\n" ++
  "23.1\n20.P001\n24.A\n23.2\n23.3\n24.A\n23.4\n23.5\n23.6\n23.7\n23.8\n23.9\n22.10\n23.1\n20.Q001\n" ++
  "23.2\n23.3\n23.4\n23.5\n23.6\n23.7\n20.R001\n23.2\n24.A\n23.3\n24.A\n24.B\n23.4\n23.5\n23.6\n" ++
  "23.7\n23.8\n23.9\n22.10\n24.A\n23.1\n23.2\n23.3\n23.4\n23.5\n23.6\n24.A\n23.7\n23.8\n23.9\n22.20\n" ++
  "23.1\n23.2\n23.3\n23.4\n23.5\n23.6\n23.7\n23.8\n23.9\n20.S001\n23.2\n24.A\n23.3\n23.4\n23.5\n" ++
  "23.6\n24.A\n23.7\n23.8\n23.9\n22.10\n23.1\n23.2\n23.3\n23.4\n24.A\n24.B\n23.5\n23.6\n23.7\n24.A\n" ++
  "23.8\n23.9\n22.20\n23.1\n23.2\n23.3\n23.4\n23.5\n23.6\n24.A\n24.B\n23.7\n23.8\n23.9\n22.30\n23.1\n" ++
  "23.2\n23.3\n23.4\n23.5\n24.A\n23.6\n23.7\n23.8\n23.9\n22.40\n23.1\n23.2\n23.3\n23.4\n23.5\n23.6\n" ++
  "20.T001\n23.2\n23.3\n24.A\n23.4\n23.5\n23.6\n23.7\n24.A\n23.8\n24.A\n23.9\n24.A\n22.10\n23.1\n" ++
  "24.A\n23.2\n23.3\n23.4\n23.5\n23.6\n24.A\n23.7\n23.8\n23.9\n22.20\n23.1\n23.2\n23.3\n23.4\n23.5\n" ++
  "23.6\n23.7\n23.8\n23.9\n22.30\n23.1\n23.2\n24.A\n23.3\n24.A\n23.4\n23.5\n23.6\n20.U001\n23.2\n" ++
  "23.3\n23.4\n23.5\n23.6\n24.A\n24.B\n23.7\n23.8\n23.9\n22.10\n23.1\n23.2\n23.3\n23.4\n23.5\n23.6\n" ++
  "23.7\n23.8\n23.9\n22.20\n23.1\n23.2\n23.3\n24.A\n23.4\n23.5\n23.6\n23.7\n23.8\n23.9\n24.A\n22.30\n" ++
  "23.1\n23.2\n24.A\n23.3\n23.4\n23.5\n23.6\n23.7\n23.8\n23.9\n22.40\n23.1\n23.2\n20.V001\n24.A\n" ++
  "24.B\n24.C\n24.D\n24.E\n24.F\n24.G\n24.H\n24.I\n23.2\n24.A\n23.3\n23.4\n23.5\n23.6\n23.7\n24.A\n" ++
  "24.B\n23.8\n23.9\n22.10\n23.1\n24.A\n24.B\n24.C\n23.2\n24.A\n24.B\n23.3\n23.4\n23.5\n23.6\n23.7\n" ++
  "23.8\n23.9\n22.20\n24.A\n24.B\n24.C\n24.D\n24.E\n24.F\n24.G\n24.H\n24.I\n24.J\n24.K\n24.L\n23.1\n" ++
  "23.2\n23.3\n24.A\n23.4\n23.5\n23.6\n23.7\n23.8\n24.A\n23.9\n24.A\n22.30\n24.A\n23.1\n24.A\n23.2\n" ++
  "23.3\n24.A\n23.4\n23.5\n23.6\n23.7\n24.A\n23.8\n23.9\n22.40\n24.A\n20.W001\n23.2\n23.3\n24.A\n" ++
  "23.4\n23.5\n23.6\n23.7\n23.8\n23.9\n24.A\n22.10\n24.A\n23.1\n23.2\n23.3\n23.4\n24.A\n23.5\n23.6\n" ++
  "23.7\n24.A\n23.8\n24.A\n23.9\n22.20\n23.1\n23.2\n23.3\n23.4\n24.A\n23.5\n20.X001\n23.2\n23.3\n" ++
  "23.4\n24.A\n24.B\n23.5\n23.6\n24.A\n23.7\n23.8\n24.A\n20.Y001\n24.A\n23.2\n23.3\n23.4\n23.5\n" ++
  "23.6\n23.7\n23.8\n20.Z001\n23.2\n24.A\n24.B\n24.C\n24.D\n23.3\n24.A\n24.B\n23.4\n24.A\n23.5\n" ++
  "24.A\n23.6\n23.7\n23.8\n23.9\n22.10\n23.1\n23.2\n23.3\n23.4\n23.5\n24.A\n24.B\n24.C\n24.D\n24.E\n" ++
  "24.F\n24.G\n24.H\n24.I\n23.6\n24.A\n24.B\n24.C\n24.D\n24.E\n24.F\n24.G\n24.H\n20.AA001\n24.2\n" ++
  "24.3\n24.4\n24.5\n24.6\n24.7\n25.A\n25.B\n24.8\n24.9\n23.10\n24.1\n24.2\n24.3\n24.4\n24.5\n24.6\n" ++
  "24.7\n24.8\n24.9\n23.20\n24.1\n24.2\n24.3\n24.4\n24.5\n24.6\n24.7\n24.8\n24.9\n23.30\n24.1\n24.2\n" ++
  "13430:20.VERTICAL JOINER\n20.HORIZONTAL JOINER\n20.INSERT AT TOP START\n30.BOTTOM START\n30.TOP END\n" ++
  "30.BOTTOM END\n20.OVERLAY MIDDLE\n20.BEGIN SEGMENT\n20.END SEGMENT\n14400:0.ANATOLIAN HIEROGLYPH A001\n" ++
  "24.2\n24.3\n24.4\n24.5\n24.6\n24.7\n24.8\n24.9\n23.10\n25.A\n24.1\n24.2\n24.3\n24.4\n24.5\n24.6\n" ++
  "24.7\n24.8\n24.9\n23.20\n24.1\n24.2\n24.3\n24.4\n24.5\n24.6\n25.A\n24.7\n24.8\n24.9\n23.30\n24.1\n" ++
  "24.2\n24.3\n24.4\n24.5\n24.6\n24.7\n24.8\n24.9\n25.A\n23.40\n24.1\n25.A\n24.2\n24.3\n24.4\n24.5\n" ++
  "25.A\n24.6\n25.A\n25.B\n24.7\n24.8\n24.9\n23.50\n24.1\n24.2\n24.3\n24.4\n24.5\n24.6\n24.7\n24.8\n" ++
  "24.9\n23.60\n24.1\n24.2\n24.3\n24.4\n24.5\n24.6\n25.A\n25.B\n25.C\n24.7\n24.8\n24.9\n23.70\n24.1\n" ++
  "24.2\n24.3\n24.4\n24.5\n24.6\n24.7\n24.8\n24.9\n23.80\n24.1\n24.2\n24.3\n24.4\n24.5\n24.6\n24.7\n" ++
  "24.8\n24.9\n23.90\n24.1\n24.2\n24.3\n24.4\n24.5\n24.6\n24.7\n25.A\n24.8\n25.A\n24.9\n22.100\n" ++
  "25.A\n24.1\n25.A\n24.2\n25.A\n24.3\n24.4\n25.A\n25.B\n25.C\n24.5\n25.A\n25.B\n24.6\n24.7\n25.A\n" ++
  "25.B\n25.C\n24.8\n24.9\n23.10\n25.A\n25.B\n24.1\n24.2\n24.3\n24.4\n24.5\n25.A\n24.6\n24.7\n24.8\n" ++
  "24.9\n23.20\n24.1\n24.2\n24.3\n24.4\n24.5\n25.A\n24.6\n24.7\n24.8\n24.9\n23.30\n24.1\n24.2\n24.3\n" ++
  "24.4\n24.5\n25.A\n24.6\n24.7\n24.8\n24.9\n23.40\n24.1\n24.2\n24.3\n24.4\n24.5\n24.6\n24.7\n24.8\n" ++
  "24.9\n23.50\n24.1\n24.2\n24.3\n24.4\n24.5\n24.6\n24.7\n24.8\n24.9\n23.60\n24.1\n24.2\n24.3\n24.4\n" ++
  "24.5\n24.6\n24.7\n24.8\n24.9\n23.70\n24.1\n24.2\n24.3\n24.4\n24.5\n24.6\n24.7\n24.8\n24.9\n23.80\n" ++
  "24.1\n24.2\n24.3\n24.4\n24.5\n24.6\n24.7\n24.8\n24.9\n23.90\n24.1\n24.2\n24.3\n24.4\n24.5\n24.6\n" ++
  "24.7\n24.8\n24.9\n22.200\n24.1\n24.2\n25.A\n25.B\n24.3\n24.4\n24.5\n24.6\n24.7\n25.A\n24.8\n24.9\n" ++
  "25.A\n23.10\n24.1\n24.2\n24.3\n24.4\n24.5\n25.A\n24.6\n25.A\n24.7\n24.8\n24.9\n23.20\n24.1\n24.2\n" ++
  "24.3\n24.4\n24.5\n24.6\n24.7\n25.A\n24.8\n24.9\n23.30\n24.1\n24.2\n24.3\n24.4\n24.5\n24.6\n24.7\n" ++
  "24.8\n24.9\n23.40\n24.1\n24.2\n24.3\n24.4\n24.5\n24.6\n24.7\n24.8\n24.9\n23.50\n24.1\n24.2\n24.3\n" ++
  "24.4\n24.5\n24.6\n24.7\n24.8\n24.9\n23.60\n24.1\n24.2\n24.3\n24.4\n24.5\n24.6\n24.7\n25.A\n24.8\n" ++
  "24.9\n23.70\n24.1\n24.2\n24.3\n24.4\n24.5\n24.6\n24.7\n24.8\n24.9\n23.80\n24.1\n24.2\n24.3\n24.4\n" ++
  "24.5\n24.6\n24.7\n24.8\n24.9\n25.A\n23.90\n24.1\n24.2\n24.3\n24.4\n25.A\n24.5\n24.6\n24.7\n24.8\n" ++
  "24.9\n25.A\n22.300\n24.1\n24.2\n24.3\n24.4\n24.5\n24.6\n24.7\n24.8\n24.9\n25.A\n23.10\n24.1\n" ++
  "24.2\n24.3\n24.4\n24.5\n24.6\n24.7\n24.8\n24.9\n23.20\n24.1\n24.2\n24.3\n24.4\n24.5\n24.6\n24.7\n" ++
  "24.8\n24.9\n25.A\n23.30\n24.1\n24.2A\n25.B\n25.C\n24.3\n24.4\n24.5\n24.6\n25.A\n25.B\n25.C\n24.7\n" ++
  "24.8\n24.9\n23.40\n24.1\n24.2\n24.3\n24.4\n24.5\n24.6\n24.7\n24.8\n24.9\n23.50\n24.1\n24.2\n24.3\n" ++
  "24.4\n24.5\n24.6\n24.7\n24.8\n24.9\n25.A\n23.60\n24.1\n24.2\n24.3\n24.4\n25.A\n24.5\n24.6\n24.7\n" ++
  "24.8\n25.A\n24.9\n23.70\n24.1\n25.A\n24.2\n24.3\n24.4\n24.5\n24.6\n24.7\n24.8\n24.9\n23.80\n24.1\n" ++
  "25.A\n24.2\n24.3 RA OR RI\n25.A\n24.4\n24.5\n24.6\n25.A\n24.7\n24.8\n24.9\n23.90\n24.1\n24.2\n" ++
  "24.3 EIGHT\n24.4\n24.5\n24.6\n24.7\n24.8\n24.9\n22.400\n24.1\n24.2\n24.3\n24.4\n24.5\n24.6\n24.7\n" ++
  "24.8\n24.9\n23.10 BEGIN LOGOGRAM MARK\n25.A END LOGOGRAM MARK\n24.1\n24.2\n24.3\n24.4\n24.5\n" ++
  "24.6\n24.7\n24.8\n24.9\n23.20\n24.1\n24.2\n24.3\n24.4\n24.5\n24.6\n24.7\n24.8\n24.9\n23.30\n24.1\n" ++
  "24.2\n24.3\n24.4\n24.5\n24.6\n24.7\n24.8\n24.9\n23.40\n24.1\n24.2\n24.3\n24.4\n24.5\n24.6\n24.7\n"

/-- Part 9 of `nameLines`. -/
def nameLinesPart9 : String :=
  "24.8\n24.9\n23.50\n25.A\n24.1\n24.2\n24.3\n24.4\n24.5\n24.6\n24.7\n25.A\n24.8\n24.9\n23.60\n24.1\n" ++
  "24.2\n24.3\n24.4\n24.5\n24.6\n24.7\n24.8\n24.9\n23.70\n24.1\n24.2\n24.3\n24.4\n24.5\n24.6\n24.7\n" ++
  "24.8\n24.9\n23.80\n24.1\n24.2\n24.3\n24.4\n24.5\n24.6\n24.7\n24.8\n24.9\n23.90\n24.1\n24.2\n24.3\n" ++
  "24.4\n24.5\n24.6\n24.7\n22.501\n24.2\n24.3\n24.4\n24.5\n24.6\n24.7\n24.8\n24.9\n23.10\n24.1\n" ++
  "24.2\n24.3\n24.4\n24.5\n24.6\n24.7\n24.8\n24.9\n23.20\n24.1\n24.2\n24.3\n24.4\n24.5\n24.6\n24.7\n" ++
  "24.8\n24.9\n23.30\n16800:0.BAMUM LETTER PHASE-A NGKUE MFON\n21.GBIEE FON\n21.PON MFON PIPAEMGBIEE\n" ++
  "36.BA\n21.NAA MFON\n21.SHUENSHUET\n21.TITA MFON\n21.NZA MFON\n21.SHINDA PA NJI\n21.PON PA NJI PIPAEMGBIEE\n" ++
  "38.BA\n21.MAEMBGBIEE\n21.TU MAEMBA\n21.NGANGU\n21.MAEMVEUX\n23.NSUAE\n22.VEUAENGAM\n21.SEUNYAM\n" ++
  "21.NTOQPEN\n21.KEUKEUTNDA\n21.NKINDI\n21.SUU\n21.NGKUENZEUM\n21.LAPAQ\n22.ET KUT\n21.NTAP MFAA\n" ++
  "21.MAEKEUP\n21.PASHAE\n21.GHEUAERAE\n21.PAMSHAE\n21.MON NGGEUAET\n21.NZUN MEUT\n21.U YUQ NAE\n" ++
  "21.GHEUAEGHEUAE\n21.NTAP NTAA\n21.SISA\n21.MGBASA\n22.EUNJOMNDEUQ\n22.OOMPUQ\n21.KAFA\n21.PA LEERAEWA\n" ++
  "21.NDA LEERAEWA\n21.PET\n21.MAEMKPEN\n21.NIKA\n21.PUP\n21.TUAEP\n21.LUAEP\n21.SONJAM\n21.TEUTEUWEN\n" ++
  "21.MAENYI\n21.KET\n21.NDAANGGEUAET\n21.KUOQ\n21.MOOMEUT\n21.SHUM\n21.LOMMAE\n21.FIRI\n21.ROM\n" ++
  "21.KPOQ\n21.SOQ\n21.MAP PIEET\n21.SHIRAE\n21.NTAP\n21.SHOQ NSHUT YUM\n21.NYIT MONGKEUAEQ\n21.PAARAE\n" ++
  "21.NKAARAE\n21.UNKNOWN\n21.NGGEN\n21.MAESI\n21.NJAM\n21.MBANYI\n21.NYET\n21.TEUAEN\n21.SOT\n21.PAAM\n" ++
  "21.NSHIEE\n21.MAEM\n21.NYI\n21.KAQ\n21.NSHA\n21.VEE\n21.LU\n21.NEN\n22.AQ\n21.MBAQ\n19.B NSHUET\n" ++
  "21.TU MAEMGBIEE\n21.SIEE\n22.ET TU\n21.LOM NTEUM\n21.MBA MAELEE\n21.KIEEM\n21.YEURAE\n21.MBAARAE\n" ++
  "21.KAM\n21.PEESHI\n21.YAFU LEERAEWA\n21.LAM NSHUT NYAM\n21.NTIEE SHEUOQ\n22.DU NJAA\n21.GHEUGHEUAEM\n" ++
  "21.PIT\n21.TU NSIEE\n21.SHET NJAQ\n24.UAEQTU\n21.MFON TEUAEQ\n22.BIT MBAAKET\n21.NYI NTEUM\n21.KEUPUQ\n" ++
  "21.GHEUGHEN\n21.KEUYEUX\n21.LAANAE\n21.PARUM\n21.VEUM\n21.NGKINDI MVOP\n23.GEU MBU\n21.WUAET\n" ++
  "21.SAKEUAE\n21.TAAM\n21.MEUQ\n21.NGGUOQ\n27. LARGE\n21.MFIYAQ\n21.SUE\n21.MBEURI\n22.ONTIEEN\n" ++
  "21.NYAEMAE\n21.PUNGAAM\n21.MEUT NGGEET\n21.FEUX\n21.MBUOQ\n21.FEE\n21.KEUAEM\n21.MA NJEUAENA\n" ++
  "26.UQA\n21.LET\n21.NGGAAM\n22.SEN\n21.MA\n21.KIQ\n21.NGOM\n19.C NGKUE MAEMBA\n22.ZA\n21.YUM\n" ++
  "21.WANGKUOQ\n21.NGGEN\n22.DEUAEREE\n22.GKAQ\n21.GHARAE\n21.MBEEKEET\n21.GBAYI\n21.NYIR MKPARAQ MEUN\n" ++
  "22.TU MBIT\n21.MBEUM\n21.PIRIEEN\n21.NDOMBU\n21.MBAA CABBAGE-TREE\n21.KEUSHEUAEP\n21.GHAP\n21.KEUKAQ\n" ++
  "21.YU MUOMAE\n21.NZEUM\n21.MBUE\n21.NSEUAEN\n21.MBIT\n21.YEUQ\n21.KPARAQ\n22.AA\n21.SEUX\n21.NDIDA\n" ++
  "21.TAASHAE\n21.NJUEQ\n21.TITA YUE\n21.SUAET\n21.NGGUAEN NYAM\n21.VEUX\n21.NANSANAQ\n21.MA KEUAERI\n" ++
  "21.NTAA\n22.GGUON\n21.LAP\n21.MBIRIEEN\n22.GBASAQ\n21.NTEUNGBA\n21.TEUTEUX\n21.NGGUM\n21.FUE\n" ++
  "21.NDEUT\n22.SA\n23.HAQ\n21.BUNG\n21.VEUAEPEN\n21.MBERAE\n21.RU\n21.NJAEM\n21.LAM\n21.TITUAEP\n" ++
  "21.NSUOT NGOM\n22.JEEEE\n21.KET\n21.NGGU\n21.MAESI\n22.BUAEM\n21.LU\n21.KUT\n21.NJAM\n22.GOM\n" ++
  "21.WUP\n21.NGGUEET\n22.SOM\n22.TEN\n21.KUOP NKAARAE\n21.NSUN\n22.DAM\n21.MA NSIEE\n21.YAA\n21.NDAP\n" ++
  "21.SHUEQ\n22.ETFON\n21.MBI\n22.AEMBA\n22.BANYI\n21.KEUSEUX\n21.MBEUX\n21.KEUM\n21.MBAA PICKET\n" ++
  "21.YUWOQ\n21.NJEUX\n21.MIEE\n22.UAE\n21.SHIQ\n21.KEN LAW\n25.FATIGUE\n21.NGAQ\n22.AQ\n21.LIQ\n" ++
  "21.PIN\n22.EN\n21.TET\n19.D MBUO\n21.WAP\n21.NJI\n21.MFON\n21.NJIEE\n21.LIEE\n21.NJEUT\n22.SHEE\n" ++
  "22.GGAAMAE\n22.YAM\n21.WUAEN\n21.NGKUN\n21.SHEE\n21.NGKAP\n21.KEUAETMEUN\n21.TEUT\n21.SHEUAE\n" ++
  "21.NJAP\n21.SUE\n21.KET\n21.YAEMMAE\n21.KUOM\n21.SAP\n21.MFEUT\n21.NDEUX\n21.MALEERI\n22.EUT\n" ++
  "21.SEUAEQ\n21.YEN\n21.NJEUAEM\n21.KEUOT MBUAE\n21.NGKEURI\n21.TU\n21.GHAA\n21.NGKYEE\n21.FEUFEUAET\n" ++
  "21.NDEE\n21.MGBOFUM\n21.LEUAEP\n21.NDON\n21.MONI\n22.GBEUN\n21.PUUT\n21.MGBIEE\n22.FO\n21.LUM\n" ++
  "21.NSIEEP\n21.MBAA\n21.KWAET\n21.NYET\n21.TEUAEN\n21.SOT\n21.YUWOQ\n21.KEUM\n21.RAEM\n21.TEEEE\n" ++
  "21.NGKEUAEQ\n21.MFEUAE\n21.NSIEET\n21.KEUP\n21.PIP\n22.EUTAE\n21.NYUE\n21.LET\n21.NGGAAM\n21.MFIEE\n" ++
  "21.NGGWAEN\n21.YUOM\n21.PAP\n21.YUOP\n21.NDAM\n22.TEUM\n21.SUAE\n21.KUN\n21.NGGEUX\n23.KIEE\n" ++
  "21.TUOT\n21.MEUN\n21.KUQ\n21.NSUM\n21.TEUN\n21.MAENJET\n21.NGGAP\n21.LEUM\n21.NGGUOM\n22.SHUT\n" ++
  "22.JUEQ\n21.GHEUAE\n21.KU\n21.REN OLD\n21.TAE\n22.OQ\n21.NYI\n21.RII\n21.LEEEE\n21.MEEEE\n22.\n" ++
  "21.SUU\n21.MU\n21.SHII\n23.EUX\n21.KYEE\n21.NU\n21.SHU\n21.NTEE\n21.PEE\n21.NI\n21.SHOQ\n21.PUQ\n" ++
  "21.MVOP\n21.LOQ\n21.REN MUCH\n21.TI\n21.NTUU\n21.MBAA SEVEN\n21.SAQ\n21.FAA\n19.E NDAP\n21.TOON\n" ++
  "21.MBEUM\n21.LAP\n21.VOM\n21.LOON\n21.PAA\n21.SOM\n21.RAQ\n21.NSHUOP\n22.DUN\n21.PUAE\n21.TAM\n" ++
  "21.NGKA\n21.KPEUX\n21.WUO\n21.SEE\n21.NGGEUAET\n21.PAAM\n21.TOO\n21.KUOP\n21.LOM\n21.NSHIEE\n" ++
  "22.GOP\n21.MAEM\n21.NGKEUX\n23.OQ\n22.SHUE\n21.RIMGBA\n21.NJEUX\n21.PEEM\n21.SAA\n21.NGGURAE\n" ++
  "21.MGBA\n21.GHEUX\n21.NGKEUAEM\n22.JAEMLI\n21.MAP\n21.LOOT\n21.NGGEEEE\n22.DIQ\n21.TAEN NTEUM\n" ++
  "21.SET\n21.PUM\n21.NDAA SOFTNESS\n22.GGUAESHAE NYAM\n21.YIEE\n21.GHEUN\n21.TUAE\n21.YEUAE\n21.PO\n" ++
  "21.TUMAE\n21.KEUAE\n21.SUAEN\n21.TEUAEQ\n21.VEUAE\n21.WEUX\n21.LAAM\n21.PU\n21.TAAQ\n21.GHAAMAE\n" ++
  "21.NGEUREUT\n21.SHEUAEQ\n21.MGBEN\n22.BEE\n21.NZAQ\n22.KOM\n21.GBET\n21.TUM\n21.KUET\n21.YAP\n" ++
  "21.NYI CLEAVER\n21.YIT\n21.MFEUQ\n21.NDIAQ\n21.PIEEQ\n21.YUEQ\n21.LEUAEM\n21.FUE\n21.GBEUX\n21.NGKUP\n" ++
  "21.KET\n21.MAE\n21.NGKAAMI\n21.GHET\n21.FA\n21.NTUM\n21.PEUT\n21.YEUM\n21.NGGEUAE\n22.YI BETWEEN\n" ++
  "22.ZUQ\n21.POON\n21.MIEE\n21.FUET\n21.NAE\n21.MUAE\n21.GHEUAE\n21.FU I\n21.MVI\n21.PUAQ\n21.NGKUM\n" ++
  "21.KUT\n21.PIET\n21.NTAP\n21.YEUAET\n21.NGGUP\n21.PA PEOPLE\n21.FU CALL\n22.OM\n21.NJEE\n21.A\n" ++
  "21.TOQ\n21.O\n21.I\n21.LAQ\n21.PA PLURAL\n21.TAA\n23.Q\n21.NDAA MY HOUSE\n21.SHIQ\n21.YEUX\n21.NGUAE\n" ++
  "21.YUAEN\n22.OQ SWIMMING\n25.COVER\n22.UQ\n23.N\n21.KEUX\n21.PEUX\n21.NJEE EPOCH\n21.PUE\n21.WUE\n" ++
  "21.FEE\n21.VEE\n21.LU\n21.MI\n21.REUX\n22.AE\n21.NGUAET\n23.A\n21.SHO\n24.Q\n21.FU REMEDY\n21.NA\n" ++
  "21.PI\n21.LOQ\n21.KO\n21.MEN\n22.A\n23.Q\n21.TEU\n21.KI\n21.MON\n21.TEN\n21.FAQ\n21.GHOM\n19.F KA\n" ++
  "21.U\n21.KU\n21.EE\n21.REE\n21.TAE\n21.NYI\n21.LA\n21.RII\n23.EE\n21.MEEEE\n21.TAA\n21.NDAA\n" ++
  "22.JAEM\n21.M\n21.SUU\n22.HII\n22.I\n22.EUX\n21.KYEE\n22.ET\n21.NUAE\n23.\n22.JUAE\n21.YOQ\n21.SHU\n" ++
  "21.YA\n21.NSHA\n21.PEUX\n21.NTEE\n21.WUE\n21.PEE\n21.RU\n21.NI\n21.REUX\n21.KEN\n21.NGKWAEN\n" ++
  "23.GA\n21.SHO\n21.PUAE\n21.FOM\n21.WA\n21.LI\n22.OQ\n21.KO\n21.MBEN\n21.REN\n21.MA\n22.O\n22.BAA\n" ++
  "21.TET\n21.KPA\n21.SAMBA\n21.VUEQ\n16A40:0.MRO LETTER TA\n11.NGI\n11.YO\n11.MIM\n11.BA\n11.DA\n" ++
  "11.A\n11.PHI\n11.KHAI\n11.HAO\n11.DAI\n11.CHU\n11.KEAAE\n11.OL\n11.MAEM\n11.NIN\n11.PA\n11.OO\n" ++
  "12.\n11.RO\n11.SHI\n11.THEA\n11.EA\n11.WA\n11.E\n11.KO\n11.LAN\n13.\n11.HAI\n11.RI\n11.TEK\n16A60:4.DIGIT ZERO\n" ++
  "10.ONE\n10.TWO\n11.HREE\n10.FOUR\n11.IVE\n10.SIX\n11.EVEN\n10.EIGHT\n10.NINE\n16A6E:5.ANDA\n5.OUBLE DANDA\n" ++
  "0.TANGSA LETTER OZ\n15.C\n15.Q\n15.X\n14.AZ\n15.C\n15.Q\n15.X\n14.VZ\n15.C\n15.Q\n15.X\n14.EZ\n" ++
  "15.C\n15.Q\n15.X\n14.IZ\n15.C\n15.Q\n15.X\n14.UZ\n15.C\n15.Q\n15.X\n14.AWZ\n16.C\n16.Q\n16.X\n" ++
  "14.UIZ\n16.C\n16.Q\n16.X\n14.FINAL NG\n14.LONG UEX\n14.SHORT UEZ\n20.AWX\n14.UEC\n16.Z\n16.Q\n" ++
  "16.X\n15.IUZ\n17.C\n17.Q\n17.X\n14.MZ\n15.C\n15.Q\n15.X\n14.KA\n15.HA\n14.GA\n14.NGA\n14.SA\n" ++
  "14.YA\n14.WA\n14.PA\n14.NYA\n14.PHA\n14.BA\n14.MA\n14.NA\n14.HA\n14.LA\n14.HTA\n14.TA\n14.DA\n" ++
  "14.RA\n14.NHA\n14.SHA\n14.CA\n14.TSA\n14.GHA\n14.HTTA\n14.THA\n14.XA\n14.FA\n14.DHA\n14.CHA\n" ++
  "14.ZA\n16AC0:7.DIGIT ZERO\n13.ONE\n13.TWO\n14.HREE\n13.FOUR\n14.IVE\n13.SIX\n14.EVEN\n13.EIGHT\n" ++
  "13.NINE\n16AD0:0.BASSA VAH LETTER ENNI\n17.KA\n17.SE\n17.FA\n17.MBE\n17.YIE\n17.GAH\n17.DHII\n" ++
  "17.KPAH\n17.JO\n17.HWAH\n17.WA\n17.ZO\n17.GBU\n17.DO\n17.CE\n17.UWU\n17.TO\n17.BA\n17.VU\n17.YEIN\n" ++
  "17.PA\n17.WADDA\n17.A\n17.O\n18.O\n17.U\n17.EE\n18.\n17.I\n16AF0:10.COMBINING HIGH TONE\n20.LOW TONE\n" ++
  "20.MID TONE\n20.LOW-MID TONE\n20.HIGH-LOW TONE\n10.FULL STOP\n16B00:0.PAHAWH HMONG VOWEL KEEB\n" ++
  "22.V\n20.IB\n21.V\n20.AUB\n22.V\n20.UB\n21.V\n20.EB\n21.V\n20.AIB\n22.V\n20.OOB\n22.V\n20.AWB\n" ++
  "22.V\n20.UAB\n22.V\n20.OB\n21.V\n20.IAB\n22.V\n20.AB\n21.V\n20.WB\n21.V\n20.AAB\n22.V\n13.CONSONANT VAU\n" ++
  "23.NTSAU\n23.LAU\n23.HAU\n23.NLAU\n23.RAU\n23.NKAU\n23.QHAU\n23.YAU\n23.HLAU\n23.MAU\n23.CHAU\n" ++
  "23.NCHAU\n23.HNAU\n23.PLHAU\n23.NTHAU\n24.AU\n23.AU\n23.XAU\n23.CAU\n13.MARK CIM TUB\n22.SO\n" ++
  "22.KES\n23.HAV\n22.SUAM\n22.HOM\n22.TAUM\n13.SIGN VOS THOM\n23.SHAB CEEB\n18.CIM CHEEM\n18.VOS THIAB\n" ++
  "22.FEEM\n18.XYEEM NTXIV\n24.RHO\n24.TOV\n24.FAIB\n18.VOS SEEV\n18.MEEJ SUAB\n18.VOS NRUA\n18.IB YAM\n" ++
  "18.XAUS\n18.CIM TSOV ROG\n16B50:13.DIGIT ZERO\n19.ONE\n19.TWO\n20.HREE\n19.FOUR\n20.IVE\n19.SIX\n" ++
  "20.EVEN\n19.EIGHT\n19.NINE\n16B5B:13.NUMBER TENS\n20.HUNDREDS\n20.TEN THOUSANDS\n20.MILLIONS\n" ++
  "20.HUNDRED MILLIONS\n20.TEN BILLIONS\n21.RILLIONS\n16B63:13.SIGN VOS LUB\n18.XYOO\n18.HLI\n18.THIRD-STAGE HLI\n" ++
  "18.ZWJ THAJ\n18.HNUB\n18.NQIG\n18.XIAB\n18.NTUJ\n18.AV\n18.TXHEEJ CEEV\n18.MEEJ TSEEB\n18.TAU\n" ++
  "18.LOS\n18.MUS\n18.CIM HAIS LUS NTOG NTOG\n22.CUAM TSHOOJ\n22.TXWV\n26. CHWV\n22.PUB DAWB\n22.NRES TOS\n" ++
  "16B7D:13.CLAN SIGN TSHEEJ\n23.YEEG\n23.LIS\n24.AUJ\n23.XYOOJ\n23.KOO\n23.HAWJ\n23.MUAS\n23.THOJ\n" ++
  "24.SAB\n23.PHAB\n23.KHAB\n23.HAM\n23.VAJ\n23.FAJ\n23.YAJ\n23.TSWB\n23.KWM\n23.VWJ\n16E40:0.MEDEFAIDRIN CAPITAL LETTER M\n" ++
  "27.S\n27.V\n27.W\n27.ATIU\n27.Z\n27.KP\n27.P\n27.T\n27.G\n27.F\n27.I\n27.K\n27.A\n27.J\n27.E\n" ++
  "27.B\n27.C\n27.U\n27.YU\n27.L\n27.Q\n27.HP\n27.NY\n27.X\n27.D\n27.OE\n27.N\n27.R\n27.O\n27.AI\n" ++
  "27.Y\n12.SMALL LETTER M\n25.S\n25.V\n25.W\n25.ATIU\n25.Z\n25.KP\n25.P\n25.T\n25.G\n25.F\n25.I\n" ++
  "25.K\n25.A\n25.J\n25.E\n25.B\n25.C\n25.U\n25.YU\n25.L\n25.Q\n25.HP\n25.NY\n25.X\n25.D\n25.OE\n" ++
  "25.N\n25.R\n25.O\n25.AI\n25.Y\n12.DIGIT ZERO\n18.ONE\n18.TWO\n19.HREE\n18.FOUR\n19.IVE\n18.SIX\n" ++
  "19.EVEN\n18.EIGHT\n18.NINE\n12.NUMBER TEN\n19.ELEVEN\n19.TWELVE\n20.HIRTEEN\n19.FOURTEEN\n20.IFTEEN\n" ++
  "19.SIXTEEN\n20.EVENTEEN\n19.EIGHTEEN\n19.NINETEEN\n12.DIGIT ONE ALTERNATE FORM\n18.TWO ALTERNATE FORM\n" ++
  "19.HREE ALTERNATE FORM\n12.COMMA\n12.FULL STOP\n12.SYMBOL AIVA\n12.EXCLAMATION OH\n16F00:1.IAO LETTER PA\n" ++
  "12.BA\n12.YI PA\n12.PLA\n12.MA\n13.HA\n12.ARCHAIC MA\n12.FA\n12.VA\n13.FA\n12.TA\n12.DA\n12.YI TTA\n" ++
  "16.A\n12.TTA\n12.DDA\n12.NA\n13.HA\n12.YI NNA\n12.ARCHAIC NA\n12.NNA\n14.HA\n12.LA\n13.YA\n13.HA\n" ++
  "14.YA\n12.TLHA\n12.DLHA\n12.TLHYA\n12.DLHYA\n12.KA\n12.GA\n12.YI KA\n12.QA\n13.GA\n12.NGA\n14.HA\n" ++
  "12.ARCHAIC NGA\n12.HA\n12.XA\n12.GHA\n14.HA\n12.TSSA\n12.DZZA\n12.NYA\n14.HA\n12.TSHA\n12.DZHA\n" ++
  "12.YI TSHA\n15.DZHA\n12.REFORMED TSHA\n12.SHA\n13.SA\n12.ZHA\n13.SHA\n12.TSA\n12.DZA\n12.YI TSA\n" ++
  "12.SA\n12.ZA\n13.SA\n13.ZA\n14.SA\n12.ARCHAIC ZZA\n12.ZZYA\n14.SYA\n12.WA\n12.AH\n12.HHA\n12.BRI\n" ++
  "12.SYI\n12.DZYI\n12.TE\n13.SE\n12.RTE\n16F4F:5.SIGN CONSONANT MODIFIER BAR\n5.LETTER NASALIZATION\n" ++
  "5.SIGN ASPIRATION\n10.REFORMED VOICING\n19.ASPIRATION\n5.VOWEL SIGN A\n17.A\n17.HH\n17.N\n18.G\n" ++
  "16.O\n17.O\n16.WO\n17.\n16.E\n17.N\n18.G\n16.OEY\n16.I\n17.A\n18.N\n19.G\n17.O\n17.E\n17.I\n17.U\n" ++
  "17.NG\n16.U\n17.A\n18.N\n19.G\n17.U\n17.EI\n17.NG\n16.Y\n17.I\n16.AE\n18.E\n16.ERR\n16.ROUNDED ERR\n" ++
  "16.ER\n16.ROUNDED ER\n16.AI\n16.EI\n16.AU\n16.OU\n16.N\n17.G\n16.UOG\n16.YUI\n16.OG\n17.ER\n16.VW\n" ++
  "16.IG\n16.EA\n16.IONG\n16.UI\n16F8F:5.TONE RIGHT\n10.TOP RIGHT\n10.ABOVE\n10.BELOW\n5.LETTER TONE-2\n" ++
  "17.3\n17.4\n17.5\n17.6\n17.7\n17.8\n12.REFORMED TONE-1\n26.2\n26.4\n26.5\n26.6\n26.8\n16FE0:0.TANGUT ITERATION MARK\n" ++
  "0.NUSHU ITERATION MARK\n0.OLD CHINESE HOOK MARK\n12.ITERATION MARK\n0.KHITAN SMALL SCRIPT FILLER\n" ++
  "16FF0:0.VIETNAMESE ALTERNATE READING MARK CA\n34.NHAY\n18800:0.TANGUT COMPONENT-001\n19.2\n19.3\n" ++
  "19.4\n19.5\n19.6\n19.7\n19.8\n19.9\n18.10\n19.1\n19.2\n19.3\n19.4\n19.5\n19.6\n19.7\n19.8\n19.9\n" ++
  "18.20\n19.1\n19.2\n19.3\n19.4\n19.5\n19.6\n19.7\n19.8\n19.9\n18.30\n19.1\n19.2\n19.3\n19.4\n19.5\n" ++
  "19.6\n19.7\n19.8\n19.9\n18.40\n19.1\n19.2\n19.3\n19.4\n19.5\n19.6\n19.7\n19.8\n19.9\n18.50\n19.1\n" ++
  "19.2\n19.3\n19.4\n19.5\n19.6\n19.7\n19.8\n19.9\n18.60\n19.1\n19.2\n19.3\n19.4\n19.5\n19.6\n19.7\n" ++
  "19.8\n19.9\n18.70\n19.1\n19.2\n19.3\n19.4\n19.5\n19.6\n19.7\n19.8\n19.9\n18.80\n19.1\n19.2\n19.3\n" ++
  "19.4\n19.5\n19.6\n19.7\n19.8\n19.9\n18.90\n19.1\n19.2\n19.3\n19.4\n19.5\n19.6\n19.7\n19.8\n19.9\n" ++
  "17.100\n19.1\n19.2\n19.3\n19.4\n19.5\n19.6\n19.7\n19.8\n19.9\n18.10\n19.1\n19.2\n19.3\n19.4\n" ++
  "19.5\n19.6\n19.7\n19.8\n19.9\n18.20\n19.1\n19.2\n19.3\n19.4\n19.5\n19.6\n19.7\n19.8\n19.9\n18.30\n" ++
  "19.1\n19.2\n19.3\n19.4\n19.5\n19.6\n19.7\n19.8\n19.9\n18.40\n19.1\n19.2\n19.3\n19.4\n19.5\n19.6\n" ++
  "19.7\n19.8\n19.9\n18.50\n19.1\n19.2\n19.3\n19.4\n19.5\n19.6\n19.7\n19.8\n19.9\n18.60\n19.1\n19.2\n" ++
  "19.3\n19.4\n19.5\n19.6\n19.7\n19.8\n19.9\n18.70\n19.1\n19.2\n19.3\n19.4\n19.5\n19.6\n19.7\n19.8\n" ++
  "19.9\n18.80\n19.1\n19.2\n19.3\n19.4\n19.5\n19.6\n19.7\n19.8\n19.9\n18.90\n19.1\n19.2\n19.3\n19.4\n" ++
  "19.5\n19.6\n19.7\n19.8\n19.9\n17.200\n19.1\n19.2\n19.3\n19.4\n19.5\n19.6\n19.7\n19.8\n19.9\n18.10\n" ++
  "19.1\n19.2\n19.3\n19.4\n19.5\n19.6\n19.7\n19.8\n19.9\n18.20\n19.1\n19.2\n19.3\n19.4\n19.5\n19.6\n" ++
  "19.7\n19.8\n19.9\n18.30\n19.1\n19.2\n19.3\n19.4\n19.5\n19.6\n19.7\n19.8\n19.9\n18.40\n19.1\n19.2\n" ++
  "19.3\n19.4\n19.5\n19.6\n19.7\n19.8\n19.9\n18.50\n19.1\n19.2\n19.3\n19.4\n19.5\n19.6\n19.7\n19.8\n" ++
  "19.9\n18.60\n19.1\n19.2\n19.3\n19.4\n19.5\n19.6\n19.7\n19.8\n19.9\n18.70\n19.1\n19.2\n19.3\n19.4\n" ++
  "19.5\n19.6\n19.7\n19.8\n19.9\n18.80\n19.1\n19.2\n19.3\n19.4\n19.5\n19.6\n19.7\n19.8\n19.9\n18.90\n" ++
  "19.1\n19.2\n19.3\n19.4\n19.5\n19.6\n19.7\n19.8\n19.9\n17.300\n19.1\n19.2\n19.3\n19.4\n19.5\n19.6\n" ++
  "19.7\n19.8\n19.9\n18.10\n19.1\n19.2\n19.3\n19.4\n19.5\n19.6\n19.7\n19.8\n19.9\n18.20\n19.1\n19.2\n" ++
  "19.3\n19.4\n19.5\n19.6\n19.7\n19.8\n19.9\n18.30\n19.1\n19.2\n19.3\n19.4\n19.5\n19.6\n19.7\n19.8\n" ++
  "19.9\n18.40\n19.1\n19.2\n19.3\n19.4\n19.5\n19.6\n19.7\n19.8\n19.9\n18.50\n19.1\n19.2\n19.3\n19.4\n" ++
  "19.5\n19.6\n19.7\n19.8\n19.9\n18.60\n19.1\n19.2\n19.3\n19.4\n19.5\n19.6\n19.7\n19.8\n19.9\n18.70\n" ++
  "19.1\n19.2\n19.3\n19.4\n19.5\n19.6\n19.7\n19.8\n19.9\n18.80\n19.1\n19.2\n19.3\n19.4\n19.5\n19.6\n" ++
  "19.7\n19.8\n19.9\n18.90\n19.1\n19.2\n19.3\n19.4\n19.5\n19.6\n19.7\n19.8\n19.9\n17.400\n19.1\n" ++
  "19.2\n19.3\n19.4\n19.5\n19.6\n19.7\n19.8\n19.9\n18.10\n19.1\n19.2\n19.3\n19.4\n19.5\n19.6\n19.7\n" ++
  "19.8\n19.9\n18.20\n19.1\n19.2\n19.3\n19.4\n19.5\n19.6\n19.7\n19.8\n19.9\n18.30\n19.1\n19.2\n19.3\n" ++
  "19.4\n19.5\n19.6\n19.7\n19.8\n19.9\n18.40\n19.1\n19.2\n19.3\n19.4\n19.5\n19.6\n19.7\n19.8\n19.9\n" ++
  "18.50\n19.1\n19.2\n19.3\n19.4\n19.5\n19.6\n19.7\n19.8\n19.9\n18.60\n19.1\n19.2\n19.3\n19.4\n19.5\n" ++
  "19.6\n19.7\n19.8\n19.9\n18.70\n19.1\n19.2\n19.3\n19.4\n19.5\n19.6\n19.7\n19.8\n19.9\n18.80\n19.1\n" ++
  "19.2\n19.3\n19.4\n19.5\n19.6\n19.7\n19.8\n19.9\n18.90\n19.1\n19.2\n19.3\n19.4\n19.5\n19.6\n19.7\n" ++
  "19.8\n19.9\n17.500\n19.1\n19.2\n19.3\n19.4\n19.5\n19.6\n19.7\n19.8\n19.9\n18.10\n19.1\n19.2\n" ++
  "19.3\n19.4\n19.5\n19.6\n19.7\n19.8\n19.9\n18.20\n19.1\n19.2\n19.3\n19.4\n19.5\n19.6\n19.7\n19.8\n" ++
  "19.9\n18.30\n19.1\n19.2\n19.3\n19.4\n19.5\n19.6\n19.7\n19.8\n19.9\n18.40\n19.1\n19.2\n19.3\n19.4\n" ++
  "19.5\n19.6\n19.7\n19.8\n19.9\n18.50\n19.1\n19.2\n19.3\n19.4\n19.5\n19.6\n19.7\n19.8\n19.9\n18.60\n" ++
  "19.1\n19.2\n19.3\n19.4\n19.5\n19.6\n19.7\n19.8\n19.9\n18.70\n19.1\n19.2\n19.3\n19.4\n19.5\n19.6\n" ++
  "19.7\n19.8\n19.9\n18.80\n19.1\n19.2\n19.3\n19.4\n19.5\n19.6\n19.7\n19.8\n19.9\n18.90\n19.1\n19.2\n" ++
  "19.3\n19.4\n19.5\n19.6\n19.7\n19.8\n19.9\n17.600\n19.1\n19.2\n19.3\n19.4\n19.5\n19.6\n19.7\n19.8\n" ++
  "19.9\n18.10\n19.1\n19.2\n19.3\n19.4\n19.5\n19.6\n19.7\n19.8\n19.9\n18.20\n19.1\n19.2\n19.3\n19.4\n" ++
  "19.5\n19.6\n19.7\n19.8\n19.9\n18.30\n19.1\n19.2\n19.3\n19.4\n19.5\n19.6\n19.7\n19.8\n19.9\n18.40\n" ++
  "19.1\n19.2\n19.3\n19.4\n19.5\n19.6\n19.7\n19.8\n19.9\n18.50\n19.1\n19.2\n19.3\n19.4\n19.5\n19.6\n" ++
  "19.7\n19.8\n19.9\n18.60\n19.1\n19.2\n19.3\n19.4\n19.5\n19.6\n19.7\n19.8\n19.9\n18.70\n19.1\n19.2\n" ++
  "19.3\n19.4\n19.5\n19.6\n19.7\n19.8\n19.9\n18.80\n19.1\n19.2\n19.3\n19.4\n19.5\n19.6\n19.7\n19.8\n" ++
  "19.9\n18.90\n19.1\n19.2\n19.3\n19.4\n19.5\n19.6\n19.7\n19.8\n19.9\n17.700\n19.1\n19.2\n19.3\n" ++
  "19.4\n19.5\n19.6\n19.7\n19.8\n19.9\n18.10\n19.1\n19.2\n19.3\n19.4\n19.5\n19.6\n19.7\n19.8\n19.9\n" ++
  "18.20\n19.1\n19.2\n19.3\n19.4\n19.5\n19.6\n19.7\n19.8\n19.9\n18.30\n19.1\n19.2\n19.3\n19.4\n19.5\n" ++
  "19.6\n19.7\n19.8\n19.9\n18.40\n19.1\n19.2\n19.3\n19.4\n19.5\n19.6\n19.7\n19.8\n19.9\n18.50\n19.1\n" ++
  "19.2\n19.3\n19.4\n19.5\n19.6\n19.7\n19.8\n19.9\n18.60\n19.1\n19.2\n19.3\n19.4\n19.5\n19.6\n19.7\n" ++
  "19.8\n0.KHITAN SMALL SCRIPT CHARACTER-18B00\n34.1\n34.2\n34.3\n34.4\n34.5\n34.6\n34.7\n34.8\n" ++
  "34.9\n34.A\n34.B\n34.C\n34.D\n34.E\n34.F\n33.10\n34.1\n34.2\n34.3\n34.4\n34.5\n34.6\n34.7\n34.8\n" ++
  "34.9\n34.A\n34.B\n34.C\n34.D\n34.E\n34.F\n33.20\n34.1\n34.2\n34.3\n34.4\n34.5\n34.6\n34.7\n34.8\n" ++
  "34.9\n34.A\n34.B\n34.C\n34.D\n34.E\n34.F\n33.30\n34.1\n34.2\n34.3\n34.4\n34.5\n34.6\n34.7\n34.8\n" ++
  "34.9\n34.A\n34.B\n34.C\n34.D\n34.E\n34.F\n33.40\n34.1\n34.2\n34.3\n34.4\n34.5\n34.6\n34.7\n34.8\n" ++
  "34.9\n34.A\n34.B\n34.C\n34.D\n34.E\n34.F\n33.50\n34.1\n34.2\n34.3\n34.4\n34.5\n34.6\n34.7\n34.8\n" ++
  "34.9\n34.A\n34.B\n34.C\n34.D\n34.E\n34.F\n33.60\n34.1\n34.2\n34.3\n34.4\n34.5\n34.6\n34.7\n34.8\n" ++
  "34.9\n34.A\n34.B\n34.C\n34.D\n34.E\n34.F\n33.70\n34.1\n34.2\n34.3\n34.4\n34.5\n34.6\n34.7\n34.8\n" ++
  "34.9\n34.A\n34.B\n34.C\n34.D\n34.E\n34.F\n33.80\n34.1\n34.2\n34.3\n34.4\n34.5\n34.6\n34.7\n34.8\n" ++
  "34.9\n34.A\n34.B\n34.C\n34.D\n34.E\n34.F\n33.90\n34.1\n34.2\n34.3\n34.4\n34.5\n34.6\n34.7\n34.8\n" ++
  "34.9\n34.A\n34.B\n34.C\n34.D\n34.E\n34.F\n33.A0\n34.1\n34.2\n34.3\n34.4\n34.5\n34.6\n34.7\n34.8\n" ++
  "34.9\n34.A\n34.B\n34.C\n34.D\n34.E\n34.F\n33.B0\n34.1\n34.2\n34.3\n34.4\n34.5\n34.6\n34.7\n34.8\n" ++
  "34.9\n34.A\n34.B\n34.C\n34.D\n34.E\n34.F\n33.C0\n34.1\n34.2\n34.3\n34.4\n34.5\n34.6\n34.7\n34.8\n" ++
  "34.9\n34.A\n34.B\n34.C\n34.D\n34.E\n34.F\n33.D0\n34.1\n34.2\n34.3\n34.4\n34.5\n34.6\n34.7\n34.8\n" ++
  "34.9\n34.A\n34.B\n34.C\n34.D\n34.E\n34.F\n33.E0\n34.1\n34.2\n34.3\n34.4\n34.5\n34.6\n34.7\n34.8\n" ++
  "34.9\n34.A\n34.B\n34.C\n34.D\n34.E\n34.F\n33.F0\n34.1\n34.2\n34.3\n34.4\n34.5\n34.6\n34.7\n34.8\n" ++
  "34.9\n34.A\n34.B\n34.C\n34.D\n34.E\n34.F\n32.C00\n34.1\n34.2\n34.3\n34.4\n34.5\n34.6\n34.7\n34.8\n" ++
  "34.9\n34.A\n34.B\n34.C\n34.D\n34.E\n34.F\n33.10\n34.1\n34.2\n34.3\n34.4\n34.5\n34.6\n34.7\n34.8\n" ++
  "34.9\n34.A\n34.B\n34.C\n34.D\n34.E\n34.F\n33.20\n34.1\n34.2\n34.3\n34.4\n34.5\n34.6\n34.7\n34.8\n" ++
  "34.9\n34.A\n34.B\n34.C\n34.D\n34.E\n34.F\n33.30\n34.1\n34.2\n34.3\n34.4\n34.5\n34.6\n34.7\n34.8\n" ++
  "34.9\n34.A\n34.B\n34.C\n34.D\n34.E\n34.F\n33.40\n34.1\n34.2\n34.3\n34.4\n34.5\n34.6\n34.7\n34.8\n" ++
  "34.9\n34.A\n34.B\n34.C\n34.D\n34.E\n34.F\n33.50\n34.1\n34.2\n34.3\n34.4\n34.5\n34.6\n34.7\n34.8\n" ++
  "34.9\n34.A\n34.B\n34.C\n34.D\n34.E\n34.F\n33.60\n34.1\n34.2\n34.3\n34.4\n34.5\n34.6\n34.7\n34.8\n" ++
  "34.9\n34.A\n34.B\n34.C\n34.D\n34.E\n34.F\n33.70\n34.1\n34.2\n34.3\n34.4\n34.5\n34.6\n34.7\n34.8\n" ++
  "34.9\n34.A\n34.B\n34.C\n34.D\n34.E\n34.F\n33.80\n34.1\n34.2\n34.3\n34.4\n34.5\n34.6\n34.7\n34.8\n" ++
  "34.9\n34.A\n34.B\n34.C\n34.D\n34.E\n34.F\n33.90\n34.1\n34.2\n34.3\n34.4\n34.5\n34.6\n34.7\n34.8\n" ++
  "34.9\n34.A\n34.B\n34.C\n34.D\n34.E\n34.F\n33.A0\n34.1\n34.2\n34.3\n34.4\n34.5\n34.6\n34.7\n34.8\n" ++
  "34.9\n34.A\n34.B\n34.C\n34.D\n34.E\n34.F\n33.B0\n34.1\n34.2\n34.3\n34.4\n34.5\n34.6\n34.7\n34.8\n" ++
  "34.9\n34.A\n34.B\n34.C\n34.D\n34.E\n34.F\n33.C0\n34.1\n34.2\n34.3\n34.4\n34.5\n34.6\n34.7\n34.8\n" ++
  "34.9\n34.A\n34.B\n34.C\n34.D\n34.E\n34.F\n33.D0\n34.1\n34.2\n34.3\n34.4\n34.5\n1AFF0:1.ATAKANA LETTER MINNAN TONE-2\n" ++
  "28.3\n28.4\n28.5\n1AFF5:28.7\n28.8\n23.NASALIZED TONE-1\n38.2\n38.3\n38.4\n38.5\n1AFFD:38.7\n" ++
  "38.8\n1B000:16.ARCHAIC E\n0.HIRAGANA LETTER ARCHAIC YE\n1.ENTAIGANA LETTER A-1\n20.2\n20.3\n20.WO\n" ++
  "18.I-1\n20.2\n20.3\n20.4\n18.U-1\n20.2\n20.3\n20.4\n20.5\n18.E-2\n20.3\n20.4\n20.5\n20.6\n18.O-1\n" ++
  "20.2\n20.3\n18.KA-1\n21.2\n21.3\n21.4\n21.5\n21.6\n21.7\n21.8\n21.9\n21.10\n22.1\n21.KE\n19.I-1\n" ++
  "21.2\n21.3\n21.4\n21.5\n21.6\n21.7\n21.8\n19.U-1\n21.2\n21.3\n21.4\n21.5\n21.6\n21.7\n19.E-1\n" ++
  "21.2\n21.3\n21.4\n21.5\n21.6\n19.O-1\n21.2\n21.3\n21.KI\n18.SA-1\n21.2\n21.3\n21.4\n21.5\n21.6\n" ++
  "21.7\n21.8\n19.I-1\n21.2\n21.3\n21.4\n21.5\n21.6\n19.U-1\n21.2\n21.3\n21.4\n21.5\n21.6\n21.7\n" ++
  "21.8\n19.E-1\n21.2\n21.3\n21.4\n21.5\n19.O-1\n21.2\n21.3\n21.4\n21.5\n21.6\n21.7\n18.TA-1\n21.2\n" ++
  "21.3\n21.4\n19.I-1\n21.2\n21.3\n21.4\n21.5\n21.6\n21.7\n19.U-1\n21.2\n21.3\n21.4\n21.TO\n19.E-1\n" ++
  "21.2\n21.3\n21.4\n21.5\n21.6\n21.7\n21.8\n21.9\n19.O-1\n21.2\n21.3\n21.4\n21.5\n21.6\n21.RA\n" ++
  "18.NA-1\n21.2\n21.3\n21.4\n21.5\n21.6\n21.7\n21.8\n21.9\n19.I-1\n21.2\n21.3\n21.4\n21.5\n21.6\n" ++
  "21.7\n21.TE\n19.U-1\n21.2\n21.3\n19.E-1\n21.2\n21.3\n21.4\n21.5\n21.6\n21.KO\n19.O-1\n21.2\n21.3\n" ++
  "21.4\n21.5\n18.HA-1\n21.2\n21.3\n21.4\n21.5\n21.6\n21.7\n21.8\n21.9\n21.10\n22.1\n19.I-1\n21.2\n" ++
  "21.3\n21.4\n21.5\n21.6\n21.7\n19.U-1\n21.2\n21.3\n19.E-1\n21.2\n21.3\n21.4\n21.5\n21.6\n21.7\n" ++
  "19.O-1\n21.2\n21.3\n21.4\n21.5\n21.6\n21.7\n21.8\n18.MA-1\n21.2\n21.3\n21.4\n21.5\n21.6\n21.7\n" ++
  "19.I-1\n21.2\n21.3\n21.4\n21.5\n21.6\n21.7\n19.U-1\n21.2\n21.3\n21.4\n19.E-1\n21.2\n21.MA\n19.O-1\n" ++
  "21.2\n21.3\n21.4\n21.5\n21.6\n18.YA-1\n21.2\n21.3\n21.4\n21.5\n21.YO\n19.U-1\n21.2\n21.3\n21.4\n" ++
  "19.O-1\n21.2\n21.3\n21.4\n21.5\n21.6\n18.RA-1\n21.2\n21.3\n21.4\n19.I-1\n21.2\n21.3\n21.4\n21.5\n" ++
  "21.6\n21.7\n19.U-1\n21.2\n21.3\n21.4\n21.5\n21.6\n19.E-1\n21.2\n21.3\n21.4\n19.O-1\n21.2\n21.3\n" ++
  "21.4\n21.5\n21.6\n18.WA-1\n21.2\n21.3\n21.4\n21.5\n19.I-1\n21.2\n21.3\n21.4\n21.5\n19.E-1\n21.2\n" ++
  "21.3\n21.4\n19.O-1\n21.2\n21.3\n21.4\n21.5\n21.6\n21.7\n18.N-MU-MO-1\n26.2\n1.IRAGANA LETTER ARCHAIC WU\n" ++
  "0.KATAKANA LETTER ARCHAIC YI\n25.E\n24.WU\n1B150:0.HIRAGANA LETTER SMALL WI\n23.E\n23.O\n1B164:0.KATAKANA LETTER SMALL WI\n" ++
  "23.E\n23.O\n22.N\n1B170:0.NUSHU CHARACTER-1B170\n20.1\n20.2\n20.3\n20.4\n20.5\n20.6\n20.7\n20.8\n" ++
  "20.9\n20.A\n20.B\n20.C\n20.D\n20.E\n20.F\n19.80\n20.1\n20.2\n20.3\n20.4\n20.5\n20.6\n20.7\n20.8\n" ++
  "20.9\n20.A\n20.B\n20.C\n20.D\n20.E\n20.F\n19.90\n20.1\n20.2\n20.3\n20.4\n20.5\n20.6\n20.7\n20.8\n" ++
  "20.9\n20.A\n20.B\n20.C\n20.D\n20.E\n20.F\n19.A0\n20.1\n20.2\n20.3\n20.4\n20.5\n20.6\n20.7\n20.8\n" ++
  "20.9\n20.A\n20.B\n20.C\n20.D\n20.E\n20.F\n19.B0\n20.1\n20.2\n20.3\n20.4\n20.5\n20.6\n20.7\n20.8\n" ++
  "20.9\n20.A\n20.B\n20.C\n20.D\n20.E\n20.F\n19.C0\n20.1\n20.2\n20.3\n20.4\n20.5\n20.6\n20.7\n20.8\n" ++
  "20.9\n20.A\n20.B\n20.C\n20.D\n20.E\n20.F\n19.D0\n20.1\n20.2\n20.3\n20.4\n20.5\n20.6\n20.7\n20.8\n" ++
  "20.9\n20.A\n20.B\n20.C\n20.D\n20.E\n20.F\n19.E0\n20.1\n20.2\n20.3\n20.4\n20.5\n20.6\n20.7\n20.8\n" ++
  "20.9\n20.A\n20.B\n20.C\n20.D\n20.E\n20.F\n19.F0\n20.1\n20.2\n20.3\n20.4\n20.5\n20.6\n20.7\n20.8\n" ++
  "20.9\n20.A\n20.B\n20.C\n20.D\n20.E\n20.F\n18.200\n20.1\n20.2\n20.3\n20.4\n20.5\n20.6\n20.7\n20.8\n" ++
  "20.9\n20.A\n20.B\n20.C\n20.D\n20.E\n20.F\n19.10\n20.1\n20.2\n20.3\n20.4\n20.5\n20.6\n20.7\n20.8\n" ++
  "20.9\n20.A\n20.B\n20.C\n20.D\n20.E\n20.F\n19.20\n20.1\n20.2\n20.3\n20.4\n20.5\n20.6\n20.7\n20.8\n" ++
  "20.9\n20.A\n20.B\n20.C\n20.D\n20.E\n20.F\n19.30\n20.1\n20.2\n20.3\n20.4\n20.5\n20.6\n20.7\n20.8\n" ++
  "20.9\n20.A\n20.B\n20.C\n20.D\n20.E\n20.F\n19.40\n20.1\n20.2\n20.3\n20.4\n20.5\n20.6\n20.7\n20.8\n" ++
  "20.9\n20.A\n20.B\n20.C\n20.D\n20.E\n20.F\n19.50\n20.1\n20.2\n20.3\n20.4\n20.5\n20.6\n20.7\n20.8\n" ++
  "20.9\n20.A\n20.B\n20.C\n20.D\n20.E\n20.F\n19.60\n20.1\n20.2\n20.3\n20.4\n20.5\n20.6\n20.7\n20.8\n" ++
  "20.9\n20.A\n20.B\n20.C\n20.D\n20.E\n20.F\n19.70\n20.1\n20.2\n20.3\n20.4\n20.5\n20.6\n20.7\n20.8\n" ++
  "20.9\n20.A\n20.B\n20.C\n20.D\n20.E\n20.F\n19.80\n20.1\n20.2\n20.3\n20.4\n20.5\n20.6\n20.7\n20.8\n" ++
  "20.9\n20.A\n20.B\n20.C\n20.D\n20.E\n20.F\n19.90\n20.1\n20.2\n20.3\n20.4\n20.5\n20.6\n20.7\n20.8\n" ++
  "20.9\n20.A\n20.B\n20.C\n20.D\n20.E\n20.F\n19.A0\n20.1\n20.2\n20.3\n20.4\n20.5\n20.6\n20.7\n20.8\n" ++
  "20.9\n20.A\n20.B\n20.C\n20.D\n20.E\n20.F\n19.B0\n20.1\n20.2\n20.3\n20.4\n20.5\n20.6\n20.7\n20.8\n" ++
  "20.9\n20.A\n20.B\n20.C\n20.D\n20.E\n20.F\n19.C0\n20.1\n20.2\n20.3\n20.4\n20.5\n20.6\n20.7\n20.8\n" ++
  "20.9\n20.A\n20.B\n20.C\n20.D\n20.E\n20.F\n19.D0\n20.1\n20.2\n20.3\n20.4\n20.5\n20.6\n20.7\n20.8\n" ++
  "20.9\n20.A\n20.B\n20.C\n20.D\n20.E\n20.F\n19.E0\n20.1\n20.2\n20.3\n20.4\n20.5\n20.6\n20.7\n20.8\n" ++
  "20.9\n20.A\n20.B\n20.C\n20.D\n20.E\n20.F\n19.F0\n20.1\n20.2\n20.3\n20.4\n20.5\n20.6\n20.7\n20.8\n" ++
  "20.9\n20.A\n20.B\n1BC00:0.DUPLOYAN LETTER H\n16.X\n16.P\n16.T\n16.F\n16.K\n16.L\n16.B\n16.D\n" ++
  "16.V\n16.G\n16.R\n16.P N\n16.D S\n16.F N\n16.K M\n16.R S\n16.TH\n16.SLOAN DH\n16.DH\n16.KK\n16.SLOAN J\n" ++
  "16.HL\n16.LH\n16.RH\n16.M\n16.N\n16.J\n16.S\n16.M N\n16.N M\n16.J M\n16.S J\n16.M WITH DOT\n16.N WITH DOT\n" ++
  "16.J WITH DOT\n26.S INSIDE AND ABOVE\n16.S WITH DOT\n26. BELOW\n16.M S\n16.N S\n16.J S\n16.S S\n" ++
  "16.M N S\n16.N M S\n16.J M S\n16.S J S\n16.J S WITH DOT\n18.N\n19. S\n16.S T\n19. R\n18.P\n19. R\n" ++
  "16.T S\n18.R S\n16.W\n17.H\n17. R\n16.S N\n18.M\n16.K R S\n16.G R S\n16.S K\n19. R\n16.A\n16.SLOAN OW\n" ++
  "16.OA\n17.\n16.AOU\n16.I\n16.E\n16.IE\n16.SHORT I\n16.UI\n16.EE\n16.SLOAN EH\n16.ROMANIAN I\n" ++
  "16.SLOAN EE\n16.LONG I\n16.YE\n16.U\n16.EU\n16.XW\n16.U N\n16.LONG U\n16.ROMANIAN U\n16.UH\n16.SLOAN U\n" ++
  "16.OOH\n17.W\n17.U\n16.WA\n17.O\n17.I\n17.EI\n17.OW\n16.NASAL U\n22.O\n22.I\n22.A\n16.PERNIN AN\n" ++
  "24.M\n16.SLOAN EN\n22.AN\n22.ON\n16.VOCALIC M\n1BC70:9.AFFIX LEFT HORIZONTAL SECANT\n15.MID HORIZONTAL SECANT\n" ++
  "15.RIGHT HORIZONTAL SECANT\n15.LOW VERTICAL SECANT\n15.MID VERTICAL SECANT\n15.HIGH VERTICAL SECANT\n" ++
  "15.ATTACHED SECANT\n24.LEFT-TO-RIGHT SECANT\n24.TANGENT\n26.IL\n24.E HOOK\n24.I HOOK\n24.TANGENT HOOK\n" ++
  "1BC80:15.HIGH ACUTE\n20.TIGHT ACUTE\n20.GRAVE\n20.LONG GRAVE\n20.DOT\n20.CIRCLE\n20.LINE\n20.WAVE\n" ++
  "20.VERTICAL\n1BC90:15.LOW ACUTE\n19.TIGHT ACUTE\n19.GRAVE\n19.LONG GRAVE\n19.DOT\n19.CIRCLE\n" ++
  "19.LINE\n19.WAVE\n19.VERTICAL\n19.ARROW\n1BC9C:9.SIGN O WITH CROSS\n9.THICK LETTER SELECTOR\n" ++
  "9.DOUBLE MARK\n9.PUNCTUATION CHINOOK FULL STOP\n0.SHORTHAND FORMAT LETTER OVERLAP\n17.CONTINUING OVERLAP\n" ++
  "17.DOWN STEP\n17.UP STEP\n1CF00:0.ZNAMENNY COMBINING MARK GORAZDO NIZKO S KRYZHEM ON LEFT\n24.NIZKO S KRYZHEM ON LEFT\n" ++
  "24.TSATA ON LEFT\n24.GORAZDO NIZKO ON LEFT\n24.NIZKO ON LEFT\n24.SREDNE ON LEFT\n24.MALO POVYSHE ON LEFT\n" ++
  "24.POVYSHE ON LEFT\n24.VYSOKO ON LEFT\n24.MALO POVYSHE S KHOKHLOM ON LEFT\n24.POVYSHE S KHOKHLOM ON LEFT\n" ++
  "24.VYSOKO S KHOKHLOM ON LEFT\n24.GORAZDO NIZKO S KRYZHEM ON RIGHT\n24.NIZKO S KRYZHEM ON RIGHT\n" ++
  "24.TSATA ON RIGHT\n24.GORAZDO NIZKO ON RIGHT\n24.NIZKO ON RIGHT\n24.SREDNE ON RIGHT\n24.MALO POVYSHE ON RIGHT\n" ++
  "24.POVYSHE ON RIGHT\n24.VYSOKO ON RIGHT\n24.MALO POVYSHE S KHOKHLOM ON RIGHT\n24.POVYSHE S KHOKHLOM ON RIGHT\n" ++
  "24.VYSOKO S KHOKHLOM ON RIGHT\n24.TSATA S KRYZHEM\n24.MALO POVYSHE S KRYZHEM\n24.STRANNO MALO POVYSHE\n" ++
  "24.POVYSHE S KRYZHEM\n33.TRANNO\n24.VYSOKO S KRYZHEM\n24.MALO POVYSHE STRANNO\n24.GORAZDO VYSOKO\n" ++
  "24.ZELO\n24.ON\n24.RAVNO\n24.TIKHAYA\n24.BORZAYA\n24.UDARKA\n24.PODVERTKA\n24.LOMKA\n24.KUPNAYA\n" ++
  "25.ACHKA\n24.ZEVOK\n24.SKOBA\n24.RAZSEKA\n24.KRYZH ON LEFT\n1CF30:19.TONAL RANGE MARK MRACHNO\n" ++
  "36.SVETLO\n36.TRESVETLO\n19.MARK ZADERZHKA\n24.DEMESTVENNY ZADERZHKA\n24.OTSECHKA\n24.PODCHASHIE\n" ++
  "34. WITH VERTICAL STROKE\n24.CHASHKA\n31. POLNAYA\n24.OBLACHKO\n24.SOROCHYA NOZHKA\n24.TOCHKA\n" ++
  "24.DVOETOCHIE\n19.ATTACHING VERTICAL OMET\n19.MARK CURVED OMET\n24.KRYZH\n19.LOWER TONAL RANGE INDICATOR\n" ++
  "9.PRIZNAK MODIFIER LEVEL-2\n32.3\n26.DIRECTION FLIP\n26.KRYZH\n26.ROG\n1CF50:9.NEUME KRYUK\n20. TIKHY\n" ++
  "15.PARAKLIT\n15.DVA V CHELNU\n15.KLYUCH\n15.ZANOZHEK\n15.STOPITSA\n23. S OCHKOM\n15.PEREVODKA\n" ++
  "24. NEPOSTOYANNAYA\n15.STOPITSA WITH SOROCHYA NOZHKA\n15.CHELYUSTKA\n15.PALKA\n15.ZAPYATAYA\n" ++
  "15.GOLUBCHIK BORZY\n25.TIKHY\n25.MRACHNY\n25.SVETLY\n25.TRESVETLY\n15.VRAKHIYA PROSTAYA\n24.MRACHNAYA\n" ++
  "24.SVETLAYA\n24.TRESVETLAYA\n24.KLYUCHEVAYA PROSTAYA\n36.MRACHNAYA\n36.SVETLAYA\n36.TRESVETLAYA\n" ++
  "15.DOUBLE ZAPYATAYA\n15.REVERSED CHELYUSTKA\n15.DERBITSA\n15.KHAMILO\n15.CHASHKA\n15.PODCHASHIE\n" ++
  "15.SKAMEYTSA MRACHNAYA\n25.SVETLAYA\n25.TRESVETLAYA\n26.IKHAYA\n15.DEMESTVENNY KLYUCH\n15.SKAMEYTSA KLYUCHEVAYA SVETLAYA\n" ++
  "32.NEPOSTOYANNAYA\n32.VAYA TIKHAYA\n25.DVOECHELNAYA PROSTAYA\n38.SVETLAYA\n38.NEPOSTOYANNAYA\n" ++
  "38.KLYUCHEVAYA\n16.LOZHITIE\n24. S ZAPYATOY\n25.ZAKRYTOE\n25.S KRYZHEM\n15.KRYZH\n15.ROG\n15.FITA\n" ++
  "15.KOBYLA\n15.ZMEYTSA\n15.STATYA\n21. S ZAPYATOY\n24.KRYZHEM\n24.ZAPYATOY I KRYZHEM\n24.KRYZHEM I ZAPYATOY\n" ++
  "22.ZAKRYTAYA\n31. S ZAPYATOY\n22.S ROGOM\n24.DVUMYA ZAPYATYMI\n24.ZAPYATOY I PODCHASHIEM\n15.POLKULIZMY\n" ++
  "15.STATYA NEPOSTOYANNAYA\n17.RELA PROSTAYA\n22.MRACHNOTIKHAYA\n22.KRYZHEVAYA\n22.POLUPOVODNAYA\n" ++
  "24.VODNAYA\n22.NEPOSTOYANNAYA\n22.KLYUCHEPOVODNAYA\n29.NEPOSTOYANNAYA\n22.TIKHAYA PUTNAYA\n22.DVOECHELNAYA\n" ++
  "31.OKRYZHEVAYA\n32.POVODNAYA\n31.AYA KLYUCHEVAYA\n31.OPOVODNAYA KLYUCHEVAYA\n22.GROMNAYA WITH SINGLE ZAPYATAYA\n" ++
  "26.OPOVODNAYA WITH SINGLE ZAPYATAYA\n26.NAYA\n26.OPOVODNAYA\n36. WITH DOUBLE ZAPYATAYA\n27.KRYZHEVAYA\n" ++
  "37. POVODNAYA\n15.MECHIK\n21. POVODNY\n22.KLYUCHEVOY\n29.POVODNY\n29.NEPOSTOYANNY\n15.STRELA TRYASOGLASNAYA\n" ++
  "28.POVODNAYA\n28.STRELNAYA\n15.OSOKA\n20. SVETLAYA\n21.TRESVETLAYA\n21.KRYUKOVAYA SVETLAYA\n22.LYUCHEVAYA SVETLAYA\n" ++
  "33.NEPOSTOYANNAYA\n15.STRELA KRYUKOVAYA\n32. POVODNAYA\n33.GROMNAYA WITH SINGLE ZAPYATAYA\n37.OPOVODNAYA WITH SINGLE ZAPYATAYA\n" ++
  "37.NAYA\n37.OPOVODNAYA\n47. WITH DOUBLE ZAPYATAYA\n38.KRYZHEVAYA\n48. POVODNAYA\n33.TRYASKA\n" ++
  "15.KUFISMA\n15.OBLAKO\n15.DUDA\n15.NEMKA\n15.PAUK\n1D000:0.BYZANTINE MUSICAL SYMBOL PSILI\n25.DASEIA\n" ++
  "25.PERISPOMENI\n25.OXEIA EKFONITIKON\n31.DIPLI\n25.VAREIA EKFONITIKON\n32.DIPLI\n25.KATHISTI\n" ++
  "25.SYRMATIKI\n25.PARAKLITIKI\n25.YPOKRISIS\n34. DIPLI\n25.KREMASTI\n25.APESO EKFONITIKON\n25.EXO EKFONITIKON\n" ++
  "25.TELEIA\n25.KENTIMATA\n25.APOSTROFOS\n35. DIPLI\n25.SYNEVMA\n25.THITA\n25.OLIGON ARCHAION\n" ++
  "25.GORGON ARCHAION\n25.PSILON\n25.CHAMILON\n25.VATHY\n25.ISON ARCHAION\n25.KENTIMA ARCHAION\n" ++
  "32.TA ARCHAION\n25.SAXIMATA\n25.PARICHON\n25.STAVROS APODEXIA\n25.OXEIAI ARCHAION\n25.VAREIAI ARCHAION\n" ++
  "25.APODERMA ARCHAION\n28.THEMA\n25.KLASMA\n25.REVMA\n25.PIASMA ARCHAION\n25.TINAGMA\n25.ANATRICHISMA\n" ++
  "25.SEISMA\n26.YNAGMA ARCHAION\n33.META STAVROU\n25.OYRANISMA ARCHAION\n25.THEMA\n25.LEMOI\n25.DYO\n" ++
  "25.TRIA\n26.ESSERA\n25.KRATIMATA\n25.APESO EXO NEO\n25.FTHORA ARCHAION\n25.IMIFTHORA\n25.TROMIKON ARCHAION\n" ++
  "25.KATAVA TROMIKON\n25.PELASTON\n26.SIFISTON\n25.KONTEVMA\n25.CHOREVMA ARCHAION\n25.RAPISMA\n" ++
  "25.PARAKALESMA ARCHAION\n30.LITIKI ARCHAION\n25.ICHADIN\n25.NANA\n25.PETASMA\n25.KONTEVMA ALLO\n" ++
  "25.TROMIKON ALLO\n25.STRAGGISMATA\n25.GRONTHISMATA\n25.ISON NEO\n25.OLIGON NEO\n26.XEIA NEO\n" ++
  "25.PETASTI\n25.KOUFISMA\n25.PETASTOKOUFISMA\n25.KRATIMOKOUFISMA\n25.PELASTON NEO\n25.KENTIMATA NEO ANO\n" ++
  "32. NEO ANO\n25.YPSILI\n25.APOSTROFOS NEO\n34.I SYNDESMOS NEO\n25.YPORROI\n25.KRATIMOYPORROON\n" ++
  "25.ELAFRON\n25.CHAMILI\n25.MIKRON ISON\n25.VAREIA NEO\n25.PIASMA NEO\n26.SIFISTON NEO\n25.OMALON\n" ++
  "25.ANTIKENOMA\n25.LYGISMA\n25.PARAKLITIKI NEO\n30.ALESMA NEO\n25.ETERON PARAKALESMA\n25.KYLISMA\n" ++
  "25.ANTIKENOKYLISMA\n25.TROMIKON NEO\n25.EKSTREPTON\n25.SYNAGMA NEO\n27.RMA\n25.CHOREVMA NEO\n" ++
  "25.EPEGERMA\n25.SEISMA NEO\n25.XIRON KLASMA\n25.TROMIKOPSIFISTON\n25.PSIFISTOLYGISMA\n25.TROMIKOLYGISMA\n" ++
  "32.PARAKALESMA\n25.PSIFISTOPARAKALESMA\n25.TROMIKOSYNAGMA\n25.PSIFISTOSYNAGMA\n25.GORGOSYNTHETON\n" ++
  "25.ARGOSYNTHETON\n25.ETERON ARGOSYNTHETON\n25.OYRANISMA NEO\n25.THEMATISMOS ESO\n38.XO\n30. APLOUN\n" ++
  "28.S KAI APOTHES\n25.KATAVASMA\n25.ENDOFONON\n25.YFEN KATO\n30.ANO\n25.STAVROS\n25.KLASMA ANO\n" ++
  "25.DIPLI ARCHAION\n25.KRATIMA ARCHAION\n34.LLO\n33.NEO\n25.APODERMA NEO\n27.LI\n25.DIPLI\n25.TRIPLI\n" ++
  "26.ETRAPLI\n25.KORONIS\n25.LEIMMA ENOS CHRONOU\n32.DYO CHRONON\n32.TRION CHRONON\n33.ESSARON CHRONON\n" ++
  "32.IMISEOS CHRONOU\n25.GORGON NEO ANO\n32.PARESTIGMENON ARISTERA\n46.DEXIA\n25.DIGORGON\n33. PARESTIGMENON ARISTERA KATO\n" ++
  "57.ANO\n48.DEXIA\n25.TRIGORGON\n25.ARGON\n25.IMIDIARGON\n25.DIARGON\n25.AGOGI POLI ARGI\n31.ARGOTERI\n" ++
  "34.I\n31.METRIA\n33.SI\n31.GORGI\n35.OTERI\n31.POLI GORGI\n25.MARTYRIA PROTOS ICHOS\n34.ALLI PROTOS ICHOS\n" ++
  "34.DEYTEROS ICHOS\n34.ALLI DEYTEROS ICHOS\n34.TRITOS ICHOS\n37.FONIAS\n35.ETARTOS ICHOS\n43.LEGETOS ICHOS\n" ++
  "34.LEGETOS ICHOS\n34.PLAGIOS ICHOS\n25.ISAKIA TELOUS ICHIMATOS\n25.APOSTROFOI TELOUS ICHIMATOS\n" ++
  "25.FANEROSIS TETRAFONIAS\n35.MONOFONIAS\n35.DIFONIAS\n25.MARTYRIA VARYS ICHOS\n34.PROTOVARYS ICHOS\n" ++
  "35.LAGIOS TETARTOS ICHOS\n25.GORTHMIKON N APLOUN\n38.DIPLOUN\n25.ENARXIS KAI FTHORA VOU\n25.IMIFONON\n" ++
  "29.THORON\n25.FTHORA ARCHAION DEYTEROU ICHOU\n32.DIATONIKI PA\n42.NANA\n32.NAOS ICHOS\n32.DIATONIKI DI\n" ++
  "32.SKLIRON DIATONON DI\n32.DIATONIKI KE\n42.ZO\n42.NI KATO\n45.ANO\n32.MALAKON CHROMA DIFONIAS\n" ++
  "47.MONOFONIAS\n26.HTORA SKLIRON CHROMA VASIS\n26.THORA SKLIRON CHROMA SYNAFI\n32.NENANO\n25.CHROA ZYGOS\n" ++
  "31.KLITON\n31.SPATHI\n25.FTHORA I YFESIS TETARTIMORION\n32.ENARMONIOS ANTIFONIA\n25.YFESIS TRITIMORION\n" ++
  "25.DIESIS TRITIMORION\n33.ETARTIMORION\n32.APLI DYO DODEKATA\n32.MONOGRAMMOS TESSERA DODEKATA\n" ++
  "32.DIGRAMMOS EX DODEKATA\n32.TRIGRAMMOS OKTO DODEKATA\n25.YFESIS APLI DYO DODEKATA\n32.MONOGRAMMOS TESSERA DODEKATA\n" ++
  "32.DIGRAMMOS EX DODEKATA\n32.TRIGRAMMOS OKTO DODEKATA\n25.GENIKI DIESIS\n32.YFESIS\n25.DIASTOLI APLI MIKRI\n" ++
  "40.EGALI\n34.DIPLI\n34.THESEOS\n25.SIMANSIS THESEOS\n41. DISIMOU\n42.TRISIMOU\n43.ETRASIMOU\n" ++
  "34.ARSEOS\n40. DISIMOU\n41.TRISIMOU\n42.ETRASIMOU\n25.DIGRAMMA GG\n27.FTOGGOS OU\n25.STIGMA\n" ++
  "25.ARKTIKO PA\n33.VOU\n33.GA\n33.DI\n33.KE\n33.ZO\n33.NI\n25.KENTIMATA NEO MESO\n32. NEO MESO\n" ++
  "32.TA NEO KATO\n32. NEO KATO\n26.LASMA KATO\n25.GORGON NEO KATO\n1D100:0.MUSICAL SYMBOL SINGLE BARLINE\n" ++
  "15.DOUBLE BARLINE\n15.FINAL BARLINE\n15.REVERSE FINAL BARLINE\n15.DASHED BARLINE\n15.SHORT BARLINE\n" ++
  "15.LEFT REPEAT SIGN\n15.RIGHT REPEAT SIGN\n16.EPEAT DOTS\n15.DAL SEGNO\n17. CAPO\n15.SEGNO\n15.CODA\n" ++
  "15.REPEATED FIGURE-1\n31.2\n31.3\n15.FERMATA\n22. BELOW\n15.BREATH MARK\n15.CAESURA\n15.BRACE\n" ++
  "19.KET\n15.ONE-LINE STAFF\n15.TWO-LINE STAFF\n16.HREE-LINE STAFF\n15.FOUR-LINE STAFF\n16.IVE-LINE STAFF\n" ++
  "15.SIX-LINE STAFF\n19.STRING FRETBOARD\n15.FOUR-STRING FRETBOARD\n15.G CLEF\n21. OTTAVA ALTA\n" ++
  "29.BASSA\n15.C CLEF\n15.F CLEF\n21. OTTAVA ALTA\n29.BASSA\n15.DRUM CLEF-1\n25.2\n1D129:15.MULTIPLE MEASURE REST\n" ++
  "15.DOUBLE SHARP\n22.FLAT\n15.FLAT UP\n20.DOWN\n15.NATURAL UP\n23.DOWN\n15.SHARP UP\n21.DOWN\n" ++
  "15.QUARTER TONE SHARP\n28.FLAT\n15.COMMON TIME\n16.UT TIME\n15.OTTAVA ALTA\n22.BASSA\n15.QUINDICESIMA ALTA\n" ++
  "28.BASSA\n15.MULTI REST\n15.WHOLE REST\n15.HALF REST\n15.QUARTER REST\n15.EIGHTH REST\n15.SIXTEENTH REST\n" ++
  "15.THIRTY-SECOND REST\n15.SIXTY-FOURTH REST\n15.ONE HUNDRED TWENTY-EIGHTH REST\n15.X NOTEHEAD\n" ++
  "15.PLUS NOTEHEAD\n15.CIRCLE X NOTEHEAD\n15.SQUARE NOTEHEAD WHITE\n31.BLACK\n15.TRIANGLE NOTEHEAD UP WHITE\n" ++
  "36.BLACK\n33.LEFT WHITE\n38.BLACK\n33.RIGHT WHITE\n39.BLACK\n33.DOWN WHITE\n38.BLACK\n33.UP RIGHT WHITE\n" ++
  "42.BLACK\n15.MOON NOTEHEAD WHITE\n29.BLACK\n15.TRIANGLE-ROUND NOTEHEAD DOWN WHITE\n44.BLACK\n" ++
  "15.PARENTHESIS NOTEHEAD\n15.VOID NOTEHEAD\n15.NOTEHEAD BLACK\n16.ULL NOTEHEAD\n15.CLUSTER NOTEHEAD WHITE\n" ++
  "32.BLACK\n15.BREVE\n15.WHOLE NOTE\n15.HALF NOTE\n15.QUARTER NOTE\n15.EIGHTH NOTE\n15.SIXTEENTH NOTE\n" ++
  "15.THIRTY-SECOND NOTE\n15.SIXTY-FOURTH NOTE\n15.ONE HUNDRED TWENTY-EIGHTH NOTE\n15.COMBINING STEM\n" ++
  "26.PRECHGESANG STEM\n25.TREMOLO-1\n33.2\n33.3\n15.FINGERED TREMOLO-1\n32.2\n32.3\n15.COMBINING AUGMENTATION DOT\n" ++
  "25.FLAG-1\n30.2\n30.3\n30.4\n30.5\n15.BEGIN BEAM\n15.END BEAM\n15.BEGIN TIE\n15.END TIE\n15.BEGIN SLUR\n" ++
  "15.END SLUR\n15.BEGIN PHRASE\n15.END PHRASE\n15.COMBINING ACCENT\n25.STACCATO\n25.TENUTO\n25.STACCATISSIMO\n" ++
  "25.MARCATO\n32.-STACCATO\n25.ACCENT-STACCATO\n25.LOURE\n15.ARPEGGIATO UP\n26.DOWN\n15.COMBINING DOIT\n" ++
  "25.RIP\n25.FLIP\n25.SMEAR\n25.BEND\n25.DOUBLE TONGUE\n25.TRIPLE TONGUE\n15.RINFORZANDO\n15.SUBITO\n" ++
  "15.Z\n15.PIANO\n15.MEZZO\n15.FORTE\n15.CRESCENDO\n15.DECRESCENDO\n15.GRACE NOTE SLASH\n26.NO SLASH\n" ++
  "15.TR\n16.URN\n15.INVERTED TURN\n15.TURN SLASH\n20.UP\n15.ORNAMENT STROKE-1\n31.2\n31.3\n31.4\n" ++
  "31.5\n31.6\n31.7\n31.8\n31.9\n31.10\n32.1\n15.HAUPTSTIMME\n15.NEBENSTIMME\n15.END OF STIMME\n" ++
  "15.DEGREE SLASH\n15.COMBINING DOWN BOW\n25.UP BOW\n25.HARMONIC\n25.SNAP PIZZICATO\n15.PEDAL MARK\n" ++
  "21.UP MARK\n15.HALF PEDAL MARK\n15.GLISSANDO UP\n25.DOWN\n15.WITH FINGERNAILS\n15.DAMP\n19. ALL\n" ++
  "15.MAXIMA\n15.LONGA\n15.BREVIS\n15.SEMIBREVIS WHITE\n26.BLACK\n15.MINIMA\n21. BLACK\n15.SEMIMINIMA WHITE\n" ++
  "26.BLACK\n15.FUSA WHITE\n20.BLACK\n15.LONGA PERFECTA REST\n21.IMPERFECTA REST\n15.BREVIS REST\n" ++
  "15.SEMIBREVIS REST\n15.MINIMA REST\n15.SEMIMINIMA REST\n15.TEMPUS PERFECTUM CUM PROLATIONE PERFECTA\n" ++
  "47.IMPERFECTA\n47.PERFECTA DIMINUTION-1\n22.IMPERFECTUM CUM PROLATIONE PERFECTA\n49.IMPERFECTA\n" ++
  "59. DIMINUTION-1\n71.2\n71.3\n15.CROIX\n15.GREGORIAN C CLEF\n25.F CLEF\n15.SQUARE B\n15.VIRGA\n" ++
  "15.PODATUS\n15.CLIVIS\n15.SCANDICUS\n15.CLIMACUS\n15.TORCULUS\n15.PORRECTUS\n24. FLEXUS\n15.SCANDICUS FLEXUS\n" ++
  "15.TORCULUS RESUPINUS\n15.PES SUBPUNCTIS\n15.KIEVAN C CLEF\n22.END OF PIECE\n22.FINAL NOTE\n22.RECITATIVE MARK\n" ++
  "22.WHOLE NOTE\n22.HALF NOTE\n22.QUARTER NOTE STEM DOWN\n40.UP\n22.EIGHTH NOTE STEM DOWN\n39.UP\n" ++
  "22.FLAT SIGN\n15.SORI\n15.KORON\n1D200:0.GREEK VOCAL NOTATION SYMBOL-1\n28.2\n28.3\n28.4\n28.5\n" ++
  "28.6\n28.7\n28.8\n28.9\n28.10\n29.1\n29.2\n29.3\n29.4\n29.5\n29.6\n29.7\n29.8\n29.9\n28.20\n29.1\n" ++
  "29.2\n29.3\n29.4\n28.50\n29.1\n29.2\n29.3\n29.4\n6.INSTRUMENTAL NOTATION SYMBOL-1\n35.2\n35.4\n" ++
  "35.5\n35.7\n35.8\n35.11\n36.2\n36.3\n36.4\n36.7\n36.8\n36.9\n35.23\n36.4\n36.5\n36.6\n36.7\n36.9\n" ++
  "35.30\n36.2\n36.6\n36.7\n36.8\n36.9\n35.40\n36.2\n36.3\n36.5\n36.7\n36.8\n36.9\n35.50\n36.1\n" ++
  "36.2\n36.3\n36.4\n0.COMBINING GREEK MUSICAL TRISEME\n25.ETRASEME\n24.PENTASEME\n0.GREEK MUSICAL LEIMMA\n" ++
  "1D2E0:0.MAYAN NUMERAL ZERO\n14.ONE\n14.TWO\n15.HREE\n14.FOUR\n15.IVE\n14.SIX\n15.EVEN\n14.EIGHT\n" ++
  "14.NINE\n14.TEN\n14.ELEVEN\n14.TWELVE\n15.HIRTEEN\n14.FOURTEEN\n15.IFTEEN\n14.SIXTEEN\n15.EVENTEEN\n" ++
  "14.EIGHTEEN\n14.NINETEEN\n1D300:1.ONOGRAM FOR EARTH\n0.DIGRAM FOR HEAVENLY EARTH\n12.UMAN EARTH\n" ++
  "11.EARTHLY HEAVEN\n20.UMAN\n16.\n0.TETRAGRAM FOR CENTRE\n14.FULL CIRCLE\n14.MIRED\n14.BARRIER\n" ++
  "14.KEEPING SMALL\n14.CONTRARIETY\n14.ASCENT\n14.OPPOSITION\n14.BRANCHING OUT\n14.DEFECTIVENESS OR DISTORTION\n" ++
  "15.IVERGENCE\n14.YOUTHFULNESS\n14.INCREASE\n14.PENETRATION\n14.REACH\n14.CONTACT\n14.HOLDING BACK\n" ++
  "14.WAITING\n14.FOLLOWING\n14.ADVANCE\n14.RELEASE\n16.SISTANCE\n14.EASE\n14.JOY\n14.CONTENTION\n" ++
  "14.ENDEAVOUR\n14.DUTIES\n14.CHANGE\n14.DECISIVENESS\n14.BOLD RESOLUTION\n14.PACKING\n14.LEGION\n" ++
  "14.CLOSENESS\n14.KINSHIP\n14.GATHERING\n14.STRENGTH\n14.PURITY\n14.FULLNESS\n14.RESIDENCE\n14.LAW OR MODEL\n" ++
  "14.RESPONSE\n14.GOING TO MEET\n14.ENCOUNTERS\n14.STOVE\n14.GREATNESS\n14.ENLARGEMENT\n14.PATTERN\n" ++
  "14.RITUAL\n14.FLIGHT\n14.VASTNESS OR WASTING\n14.CONSTANCY\n14.MEASURE\n14.ETERNITY\n14.UNITY\n" ++
  "14.DIMINISHMENT\n14.CLOSED MOUTH\n14.GUARDEDNESS\n15.ATHERING IN\n14.MASSING\n14.ACCUMULATION\n" ++
  "14.EMBELLISHMENT\n14.DOUBT\n14.WATCH\n14.SINKING\n14.INNER\n14.DEPARTURE\n15.ARKENING\n15.IMMING\n" ++
  "14.EXHAUSTION\n14.SEVERANCE\n15.TOPPAGE\n14.HARDNESS\n14.COMPLETION\n15.LOSURE\n14.FAILURE\n14.AGGRAVATION\n" ++
  "14.COMPLIANCE\n14.ON THE VERGE\n14.DIFFICULTIES\n14.LABOURING\n14.FOSTERING\n1D360:0.COUNTING ROD UNIT DIGIT ONE\n" ++
  "24.TWO\n25.HREE\n24.FOUR\n25.IVE\n24.SIX\n25.EVEN\n24.EIGHT\n24.NINE\n13.TENS DIGIT ONE\n24.TWO\n" ++
  "25.HREE\n24.FOUR\n25.IVE\n24.SIX\n25.EVEN\n24.EIGHT\n24.NINE\n0.IDEOGRAPHIC TALLY MARK ONE\n23.TWO\n" ++
  "24.HREE\n23.FOUR\n24.IVE\n0.TALLY MARK ONE\n11.FIVE\n1D400:0.MATHEMATICAL BOLD CAPITAL A\n26.B\n" ++
  "26.C\n26.D\n26.E\n26.F\n26.G\n26.H\n26.I\n26.J\n26.K\n26.L\n26.M\n26.N\n26.O\n26.P\n26.Q\n26.R\n" ++
  "26.S\n26.T\n26.U\n26.V\n26.W\n26.X\n26.Y\n26.Z\n18.SMALL A\n24.B\n24.C\n24.D\n24.E\n24.F\n24.G\n" ++
  "24.H\n24.I\n24.J\n24.K\n24.L\n24.M\n24.N\n24.O\n24.P\n24.Q\n24.R\n24.S\n24.T\n24.U\n24.V\n24.W\n" ++
  "24.X\n24.Y\n24.Z\n13.ITALIC CAPITAL A\n28.B\n28.C\n28.D\n28.E\n28.F\n28.G\n28.H\n28.I\n28.J\n" ++
  "28.K\n28.L\n28.M\n28.N\n28.O\n28.P\n28.Q\n28.R\n28.S\n28.T\n28.U\n28.V\n28.W\n28.X\n28.Y\n28.Z\n" ++
  "20.SMALL A\n26.B\n26.C\n26.D\n26.E\n26.F\n26.G\n1D456:26.I\n26.J\n26.K\n26.L\n26.M\n26.N\n26.O\n" ++
  "26.P\n26.Q\n26.R\n26.S\n26.T\n26.U\n26.V\n26.W\n26.X\n26.Y\n26.Z\n13.BOLD ITALIC CAPITAL A\n33.B\n" ++
  "33.C\n33.D\n33.E\n33.F\n33.G\n33.H\n33.I\n33.J\n33.K\n33.L\n33.M\n33.N\n33.O\n33.P\n33.Q\n33.R\n" ++
  "33.S\n33.T\n33.U\n33.V\n33.W\n33.X\n33.Y\n33.Z\n25.SMALL A\n31.B\n31.C\n31.D\n31.E\n31.F\n31.G\n" ++
  "31.H\n31.I\n31.J\n31.K\n31.L\n31.M\n31.N\n31.O\n31.P\n31.Q\n31.R\n31.S\n31.T\n31.U\n31.V\n31.W\n" ++
  "31.X\n31.Y\n31.Z\n13.SCRIPT CAPITAL A\n1D49E:28.C\n28.D\n1D4A2:28.G\n1D4A5:28.J\n28.K\n1D4A9:28.N\n" ++
  "28.O\n28.P\n28.Q\n1D4AE:28.S\n28.T\n28.U\n28.V\n28.W\n28.X\n28.Y\n28.Z\n20.SMALL A\n26.B\n26.C\n" ++
  "26.D\n1D4BB:26.F\n1D4BD:26.H\n26.I\n26.J\n26.K\n26.L\n26.M\n26.N\n1D4C5:26.P\n26.Q\n26.R\n26.S\n"

/-- Part 10 of `nameLines`. -/
def nameLinesPart10 : String :=
  "26.T\n26.U\n26.V\n26.W\n26.X\n26.Y\n26.Z\n13.BOLD SCRIPT CAPITAL A\n33.B\n33.C\n33.D\n33.E\n33.F\n" ++
  "33.G\n33.H\n33.I\n33.J\n33.K\n33.L\n33.M\n33.N\n33.O\n33.P\n33.Q\n33.R\n33.S\n33.T\n33.U\n33.V\n" ++
  "33.W\n33.X\n33.Y\n33.Z\n25.SMALL A\n31.B\n31.C\n31.D\n31.E\n31.F\n31.G\n31.H\n31.I\n31.J\n31.K\n" ++
  "31.L\n31.M\n31.N\n31.O\n31.P\n31.Q\n31.R\n31.S\n31.T\n31.U\n31.V\n31.W\n31.X\n31.Y\n31.Z\n13.FRAKTUR CAPITAL A\n" ++
  "29.B\n1D507:29.D\n29.E\n29.F\n29.G\n1D50D:29.J\n29.K\n29.L\n29.M\n29.N\n29.O\n29.P\n29.Q\n1D516:29.S\n" ++
  "29.T\n29.U\n29.V\n29.W\n29.X\n29.Y\n1D51E:21.SMALL A\n27.B\n27.C\n27.D\n27.E\n27.F\n27.G\n27.H\n" ++
  "27.I\n27.J\n27.K\n27.L\n27.M\n27.N\n27.O\n27.P\n27.Q\n27.R\n27.S\n27.T\n27.U\n27.V\n27.W\n27.X\n" ++
  "27.Y\n27.Z\n13.DOUBLE-STRUCK CAPITAL A\n35.B\n1D53B:35.D\n35.E\n35.F\n35.G\n1D540:35.I\n35.J\n" ++
  "35.K\n35.L\n35.M\n1D546:35.O\n1D54A:35.S\n35.T\n35.U\n35.V\n35.W\n35.X\n35.Y\n1D552:27.SMALL A\n" ++
  "33.B\n33.C\n33.D\n33.E\n33.F\n33.G\n33.H\n33.I\n33.J\n33.K\n33.L\n33.M\n33.N\n33.O\n33.P\n33.Q\n" ++
  "33.R\n33.S\n33.T\n33.U\n33.V\n33.W\n33.X\n33.Y\n33.Z\n13.BOLD FRAKTUR CAPITAL A\n34.B\n34.C\n" ++
  "34.D\n34.E\n34.F\n34.G\n34.H\n34.I\n34.J\n34.K\n34.L\n34.M\n34.N\n34.O\n34.P\n34.Q\n34.R\n34.S\n" ++
  "34.T\n34.U\n34.V\n34.W\n34.X\n34.Y\n34.Z\n26.SMALL A\n32.B\n32.C\n32.D\n32.E\n32.F\n32.G\n32.H\n" ++
  "32.I\n32.J\n32.K\n32.L\n32.M\n32.N\n32.O\n32.P\n32.Q\n32.R\n32.S\n32.T\n32.U\n32.V\n32.W\n32.X\n" ++
  "32.Y\n32.Z\n13.SANS-SERIF CAPITAL A\n32.B\n32.C\n32.D\n32.E\n32.F\n32.G\n32.H\n32.I\n32.J\n32.K\n" ++
  "32.L\n32.M\n32.N\n32.O\n32.P\n32.Q\n32.R\n32.S\n32.T\n32.U\n32.V\n32.W\n32.X\n32.Y\n32.Z\n24.SMALL A\n" ++
  "30.B\n30.C\n30.D\n30.E\n30.F\n30.G\n30.H\n30.I\n30.J\n30.K\n30.L\n30.M\n30.N\n30.O\n30.P\n30.Q\n" ++
  "30.R\n30.S\n30.T\n30.U\n30.V\n30.W\n30.X\n30.Y\n30.Z\n24.BOLD CAPITAL A\n37.B\n37.C\n37.D\n37.E\n" ++
  "37.F\n37.G\n37.H\n37.I\n37.J\n37.K\n37.L\n37.M\n37.N\n37.O\n37.P\n37.Q\n37.R\n37.S\n37.T\n37.U\n" ++
  "37.V\n37.W\n37.X\n37.Y\n37.Z\n29.SMALL A\n35.B\n35.C\n35.D\n35.E\n35.F\n35.G\n35.H\n35.I\n35.J\n" ++
  "35.K\n35.L\n35.M\n35.N\n35.O\n35.P\n35.Q\n35.R\n35.S\n35.T\n35.U\n35.V\n35.W\n35.X\n35.Y\n35.Z\n" ++
  "24.ITALIC CAPITAL A\n39.B\n39.C\n39.D\n39.E\n39.F\n39.G\n39.H\n39.I\n39.J\n39.K\n39.L\n39.M\n" ++
  "39.N\n39.O\n39.P\n39.Q\n39.R\n39.S\n39.T\n39.U\n39.V\n39.W\n39.X\n39.Y\n39.Z\n31.SMALL A\n37.B\n" ++
  "37.C\n37.D\n37.E\n37.F\n37.G\n37.H\n37.I\n37.J\n37.K\n37.L\n37.M\n37.N\n37.O\n37.P\n37.Q\n37.R\n" ++
  "37.S\n37.T\n37.U\n37.V\n37.W\n37.X\n37.Y\n37.Z\n24.BOLD ITALIC CAPITAL A\n44.B\n44.C\n44.D\n44.E\n" ++
  "44.F\n44.G\n44.H\n44.I\n44.J\n44.K\n44.L\n44.M\n44.N\n44.O\n44.P\n44.Q\n44.R\n44.S\n44.T\n44.U\n" ++
  "44.V\n44.W\n44.X\n44.Y\n44.Z\n36.SMALL A\n42.B\n42.C\n42.D\n42.E\n42.F\n42.G\n42.H\n42.I\n42.J\n" ++
  "42.K\n42.L\n42.M\n42.N\n42.O\n42.P\n42.Q\n42.R\n42.S\n42.T\n42.U\n42.V\n42.W\n42.X\n42.Y\n42.Z\n" ++
  "13.MONOSPACE CAPITAL A\n31.B\n31.C\n31.D\n31.E\n31.F\n31.G\n31.H\n31.I\n31.J\n31.K\n31.L\n31.M\n" ++
  "31.N\n31.O\n31.P\n31.Q\n31.R\n31.S\n31.T\n31.U\n31.V\n31.W\n31.X\n31.Y\n31.Z\n23.SMALL A\n29.B\n" ++
  "29.C\n29.D\n29.E\n29.F\n29.G\n29.H\n29.I\n29.J\n29.K\n29.L\n29.M\n29.N\n29.O\n29.P\n29.Q\n29.R\n" ++
  "29.S\n29.T\n29.U\n29.V\n29.W\n29.X\n29.Y\n29.Z\n13.ITALIC SMALL DOTLESS I\n34.J\n1D6A8:13.BOLD CAPITAL ALPHA\n" ++
  "26.BETA\n26.GAMMA\n26.DELTA\n26.EPSILON\n26.ZETA\n26.ETA\n26.THETA\n26.IOTA\n26.KAPPA\n26.LAMDA\n" ++
  "26.MU\n26.NU\n26.XI\n26.OMICRON\n26.PI\n26.RHO\n26.THETA SYMBOL\n26.SIGMA\n26.TAU\n26.UPSILON\n" ++
  "26.PHI\n26.CHI\n26.PSI\n26.OMEGA\n18.NABLA\n18.SMALL ALPHA\n24.BETA\n24.GAMMA\n24.DELTA\n24.EPSILON\n" ++
  "24.ZETA\n24.ETA\n24.THETA\n24.IOTA\n24.KAPPA\n24.LAMDA\n24.MU\n24.NU\n24.XI\n24.OMICRON\n24.PI\n" ++
  "24.RHO\n24.FINAL SIGMA\n24.SIGMA\n24.TAU\n24.UPSILON\n24.PHI\n24.CHI\n24.PSI\n24.OMEGA\n18.PARTIAL DIFFERENTIAL\n" ++
  "18.EPSILON SYMBOL\n18.THETA SYMBOL\n18.KAPPA SYMBOL\n18.PHI SYMBOL\n18.RHO SYMBOL\n18.PI SYMBOL\n" ++
  "13.ITALIC CAPITAL ALPHA\n28.BETA\n28.GAMMA\n28.DELTA\n28.EPSILON\n28.ZETA\n28.ETA\n28.THETA\n" ++
  "28.IOTA\n28.KAPPA\n28.LAMDA\n28.MU\n28.NU\n28.XI\n28.OMICRON\n28.PI\n28.RHO\n28.THETA SYMBOL\n" ++
  "28.SIGMA\n28.TAU\n28.UPSILON\n28.PHI\n28.CHI\n28.PSI\n28.OMEGA\n20.NABLA\n20.SMALL ALPHA\n26.BETA\n" ++
  "26.GAMMA\n26.DELTA\n26.EPSILON\n26.ZETA\n26.ETA\n26.THETA\n26.IOTA\n26.KAPPA\n26.LAMDA\n26.MU\n" ++
  "26.NU\n26.XI\n26.OMICRON\n26.PI\n26.RHO\n26.FINAL SIGMA\n26.SIGMA\n26.TAU\n26.UPSILON\n26.PHI\n" ++
  "26.CHI\n26.PSI\n26.OMEGA\n20.PARTIAL DIFFERENTIAL\n20.EPSILON SYMBOL\n20.THETA SYMBOL\n20.KAPPA SYMBOL\n" ++
  "20.PHI SYMBOL\n20.RHO SYMBOL\n20.PI SYMBOL\n13.BOLD ITALIC CAPITAL ALPHA\n33.BETA\n33.GAMMA\n" ++
  "33.DELTA\n33.EPSILON\n33.ZETA\n33.ETA\n33.THETA\n33.IOTA\n33.KAPPA\n33.LAMDA\n33.MU\n33.NU\n33.XI\n" ++
  "33.OMICRON\n33.PI\n33.RHO\n33.THETA SYMBOL\n33.SIGMA\n33.TAU\n33.UPSILON\n33.PHI\n33.CHI\n33.PSI\n" ++
  "33.OMEGA\n25.NABLA\n25.SMALL ALPHA\n31.BETA\n31.GAMMA\n31.DELTA\n31.EPSILON\n31.ZETA\n31.ETA\n" ++
  "31.THETA\n31.IOTA\n31.KAPPA\n31.LAMDA\n31.MU\n31.NU\n31.XI\n31.OMICRON\n31.PI\n31.RHO\n31.FINAL SIGMA\n" ++
  "31.SIGMA\n31.TAU\n31.UPSILON\n31.PHI\n31.CHI\n31.PSI\n31.OMEGA\n25.PARTIAL DIFFERENTIAL\n25.EPSILON SYMBOL\n" ++
  "25.THETA SYMBOL\n25.KAPPA SYMBOL\n25.PHI SYMBOL\n25.RHO SYMBOL\n25.PI SYMBOL\n13.SANS-SERIF BOLD CAPITAL ALPHA\n" ++
  "37.BETA\n37.GAMMA\n37.DELTA\n37.EPSILON\n37.ZETA\n37.ETA\n37.THETA\n37.IOTA\n37.KAPPA\n37.LAMDA\n" ++
  "37.MU\n37.NU\n37.XI\n37.OMICRON\n37.PI\n37.RHO\n37.THETA SYMBOL\n37.SIGMA\n37.TAU\n37.UPSILON\n" ++
  "37.PHI\n37.CHI\n37.PSI\n37.OMEGA\n29.NABLA\n29.SMALL ALPHA\n35.BETA\n35.GAMMA\n35.DELTA\n35.EPSILON\n" ++
  "35.ZETA\n35.ETA\n35.THETA\n35.IOTA\n35.KAPPA\n35.LAMDA\n35.MU\n35.NU\n35.XI\n35.OMICRON\n35.PI\n" ++
  "35.RHO\n35.FINAL SIGMA\n35.SIGMA\n35.TAU\n35.UPSILON\n35.PHI\n35.CHI\n35.PSI\n35.OMEGA\n29.PARTIAL DIFFERENTIAL\n" ++
  "29.EPSILON SYMBOL\n29.THETA SYMBOL\n29.KAPPA SYMBOL\n29.PHI SYMBOL\n29.RHO SYMBOL\n29.PI SYMBOL\n" ++
  "29.ITALIC CAPITAL ALPHA\n44.BETA\n44.GAMMA\n44.DELTA\n44.EPSILON\n44.ZETA\n44.ETA\n44.THETA\n" ++
  "44.IOTA\n44.KAPPA\n44.LAMDA\n44.MU\n44.NU\n44.XI\n44.OMICRON\n44.PI\n44.RHO\n44.THETA SYMBOL\n" ++
  "44.SIGMA\n44.TAU\n44.UPSILON\n44.PHI\n44.CHI\n44.PSI\n44.OMEGA\n36.NABLA\n36.SMALL ALPHA\n42.BETA\n" ++
  "42.GAMMA\n42.DELTA\n42.EPSILON\n42.ZETA\n42.ETA\n42.THETA\n42.IOTA\n42.KAPPA\n42.LAMDA\n42.MU\n" ++
  "42.NU\n42.XI\n42.OMICRON\n42.PI\n42.RHO\n42.FINAL SIGMA\n42.SIGMA\n42.TAU\n42.UPSILON\n42.PHI\n" ++
  "42.CHI\n42.PSI\n42.OMEGA\n36.PARTIAL DIFFERENTIAL\n36.EPSILON SYMBOL\n36.THETA SYMBOL\n36.KAPPA SYMBOL\n" ++
  "36.PHI SYMBOL\n36.RHO SYMBOL\n36.PI SYMBOL\n13.BOLD CAPITAL DIGAMMA\n18.SMALL DIGAMMA\n1D7CE:18.DIGIT ZERO\n" ++
  "24.ONE\n24.TWO\n25.HREE\n24.FOUR\n25.IVE\n24.SIX\n25.EVEN\n24.EIGHT\n24.NINE\n13.DOUBLE-STRUCK DIGIT ZERO\n" ++
  "33.ONE\n33.TWO\n34.HREE\n33.FOUR\n34.IVE\n33.SIX\n34.EVEN\n33.EIGHT\n33.NINE\n13.SANS-SERIF DIGIT ZERO\n" ++
  "30.ONE\n30.TWO\n31.HREE\n30.FOUR\n31.IVE\n30.SIX\n31.EVEN\n30.EIGHT\n30.NINE\n24.BOLD DIGIT ZERO\n" ++
  "35.ONE\n35.TWO\n36.HREE\n35.FOUR\n36.IVE\n35.SIX\n36.EVEN\n35.EIGHT\n35.NINE\n13.MONOSPACE DIGIT ZERO\n" ++
  "29.ONE\n29.TWO\n30.HREE\n29.FOUR\n30.IVE\n29.SIX\n30.EVEN\n29.EIGHT\n29.NINE\n0.SIGNWRITING HAND-FIST INDEX\n" ++
  "17.CIRCLE INDEX\n18.UP INDEX\n17.OVAL INDEX\n17.HINGE INDEX\n17.ANGLE INDEX\n17.FIST INDEX BENT\n" ++
  "17.CIRCLE INDEX BENT\n17.FIST THUMB UNDER INDEX BENT\n22.INDEX RAISED KNUCKLE\n28.CUPPED\n28.HINGED\n" ++
  "34. LOW\n17.CIRCLE INDEX HINGE\n17.FIST INDEX MIDDLE\n17.CIRCLE INDEX MIDDLE\n17.FIST INDEX MIDDLE BENT\n" ++
  "35.RAISED KNUCKLES\n35.HINGED\n28.UP MIDDLE HINGED\n28.HINGED MIDDLE UP\n28.MIDDLE CONJOINED\n" ++
  "44. INDEX BENT\n45.MIDDLE BENT\n45.CUPPED\n45.HINGED\n36.ROSSED\n17.CIRCLE INDEX MIDDLE CROSSED\n" ++
  "17.FIST MIDDLE BENT OVER INDEX\n22.INDEX BENT OVER MIDDLE\n28.MIDDLE THUMB\n17.CIRCLE INDEX MIDDLE THUMB\n" ++
  "17.FIST INDEX MIDDLE STRAIGHT THUMB BENT\n35.BENT THUMB STRAIGHT\n35.THUMB BENT\n35.HINGED SPREAD THUMB SIDE\n" ++
  "28.UP MIDDLE HINGED THUMB SIDE\n51.CONJOINED\n28.HINGED MIDDLE UP THUMB SIDE\n28.MIDDLE UP SPREAD THUMB FORWARD\n" ++
  "35.THUMB CUPPED\n42.IRCLED\n41.HOOKED\n42.INGED\n22.THUMB BETWEEN INDEX MIDDLE STRAIGHT\n22.INDEX MIDDLE CONJOINED THUMB SIDE\n" ++
  "55. CONJOINED\n56.BENT\n22.MIDDLE THUMB HOOKED INDEX UP\n22.INDEX THUMB HOOKED MIDDLE UP\n28.MIDDLE CONJOINED HINGED THUMB SIDE\n" ++
  "36.ROSSED THUMB SIDE\n36.ONJOINED THUMB FORWARD\n45.CUPPED THUMB FORWARD\n22.MIDDLE THUMB CUPPED INDEX UP\n" ++
  "22.INDEX THUMB CUPPED MIDDLE UP\n22.MIDDLE THUMB CIRCLED INDEX UP\n49.HINGED\n22.INDEX THUMB ANGLED OUT MIDDLE UP\n" ++
  "41.IN MIDDLE UP\n34.CIRCLED MIDDLE UP\n28.MIDDLE THUMB CONJOINED HINGED\n41.ANGLED OUT\n47.\n" ++
  "22.MIDDLE THUMB ANGLED OUT INDEX UP\n52.CROSSED\n42.INDEX UP\n22.INDEX THUMB HOOKED MIDDLE HINGED\n" ++
  "18.LAT FOUR FINGERS\n34. BENT\n35.HINGED\n35.CONJOINED\n44. SPLIT\n17.CLAW FOUR FINGERS CONJOINED\n" ++
  "17.FIST FOUR FINGERS CONJOINED BENT\n17.HINGE FOUR FINGERS CONJOINED\n17.FLAT FIVE FINGERS SPREAD\n" ++
  "22.HEEL FIVE FINGERS SPREAD\n22.FIVE FINGERS SPREAD FOUR BENT\n22.HEEL FIVE FINGERS SPREAD FOUR BENT\n" ++
  "22.FIVE FINGERS SPREAD BENT\n22.HEEL FIVE FINGERS SPREAD BENT\n22.FIVE FINGERS SPREAD THUMB FORWARD\n" ++
  "17.CUP FIVE FINGERS SPREAD\n40. OPEN\n17.HINGE FIVE FINGERS SPREAD OPEN\n17.OVAL FIVE FINGERS SPREAD\n" ++
  "17.FLAT FIVE FINGERS SPREAD HINGED\n48. THUMB SIDE\n49.NO THUMB\n21.\n21. BETWEEN PALM FACINGS\n" ++
  "22.HEEL\n22.THUMB SIDE\n22.HEEL THUMB SIDE\n22.THUMB BENT\n28.FORWARD\n22.SPLIT INDEX THUMB SIDE\n" ++
  "28.CENTRE\n34. THUMB SIDE\n45. BENT\n28.LITTLE\n17.CLAW\n21. THUMB SIDE\n22.NO THUMB\n22.THUMB FORWARD\n" ++
  "17.HOOK CURLICUE\n21.\n17.CUP OPEN\n20.\n20. OPEN THUMB SIDE\n21.THUMB SIDE\n21.OPEN NO THUMB\n" ++
  "21.NO THUMB\n21.OPEN THUMB FORWARD\n21.THUMB FORWARD\n19.RLICUE OPEN\n25.\n18.IRCLE\n17.OVAL\n" ++
  "21. THUMB SIDE\n22.NO THUMB\n22.THUMB FORWARD\n17.HINGE OPEN\n27. THUMB FORWARD\n22.\n22. SMALL\n" ++
  "23.OPEN THUMB SIDE\n23.THUMB SIDE\n23.OPEN NO THUMB\n23.NO THUMB\n23.THUMB SIDE TOUCHING INDEX\n" ++
  "29.BETWEEN MIDDLE RING\n17.ANGLE\n17.FIST INDEX MIDDLE RING\n17.CIRCLE INDEX MIDDLE RING\n17.HINGE INDEX MIDDLE RING\n" ++
  "17.ANGLE INDEX MIDDLE RING\n17.HINGE LITTLE\n17.FIST INDEX MIDDLE RING BENT\n40.CONJOINED\n17.HINGE INDEX MIDDLE RING CONJOINED\n" ++
  "17.FIST LITTLE DOWN\n33. RIPPLE STRAIGHT\n41.CURVED\n34.OTHERS CIRCLED\n29.UP\n22.THUMB UNDER LITTLE UP\n" ++
  "17.CIRCLE LITTLE UP\n17.OVAL LITTLE UP\n17.ANGLE LITTLE UP\n17.FIST LITTLE RAISED KNUCKLE\n29.BENT\n" ++
  "29.TOUCHES THUMB\n30.HUMB\n17.HINGE LITTLE THUMB\n17.FIST LITTLE INDEX THUMB\n17.HINGE LITTLE INDEX THUMB\n" ++
  "17.ANGLE LITTLE INDEX THUMB INDEX THUMB OUT\n53.\n17.FIST LITTLE INDEX\n17.CIRCLE LITTLE INDEX\n" ++
  "17.HINGE LITTLE INDEX\n17.ANGLE LITTLE INDEX\n17.FIST INDEX MIDDLE LITTLE\n17.CIRCLE INDEX MIDDLE LITTLE\n" ++
  "17.HINGE INDEX MIDDLE LITTLE\n23.RING\n17.ANGLE INDEX MIDDLE LITTLE\n17.FIST INDEX MIDDLE CROSS LITTLE\n" ++
  "17.CIRCLE INDEX MIDDLE CROSS LITTLE\n17.FIST RING DOWN\n17.HINGE RING DOWN INDEX THUMB HOOK MIDDLE\n" ++
  "17.ANGLE RING DOWN MIDDLE THUMB INDEX CROSS\n17.FIST RING UP\n27.RAISED KNUCKLE\n27.LITTLE\n17.CIRCLE RING LITTLE\n" ++
  "17.OVAL RING LITTLE\n17.ANGLE RING LITTLE\n17.FIST RING MIDDLE\n33. CONJOINED\n34.RAISED KNUCKLES\n" ++
  "27.INDEX\n27.THUMB\n17.HOOK RING THUMB\n17.FIST INDEX RING LITTLE\n17.CIRCLE INDEX RING LITTLE\n" ++
  "18.URLICUE INDEX RING LITTLE ON\n17.HOOK INDEX RING LITTLE OUT\n40.IN\n40.UNDER\n17.CUP INDEX RING LITTLE\n" ++
  "17.HINGE INDEX RING LITTLE\n17.ANGLE INDEX RING LITTLE OUT\n40.\n17.FIST MIDDLE DOWN\n17.HINGE MIDDLE\n" ++
  "17.FIST MIDDLE UP\n17.CIRCLE MIDDLE UP\n17.FIST MIDDLE RAISED KNUCKLE\n29.UP THUMB SIDE\n17.HOOK MIDDLE THUMB\n" ++
  "17.FIST MIDDLE THUMB LITTLE\n29.LITTLE\n29.RING LITTLE\n17.CIRCLE MIDDLE RING LITTLE\n18.URLICUE MIDDLE RING LITTLE ON\n" ++
  "19.P MIDDLE RING LITTLE\n17.HINGE MIDDLE RING LITTLE\n17.ANGLE MIDDLE RING LITTLE OUT\n42.IN\n" ++
  "41.\n17.CIRCLE MIDDLE RING LITTLE BENT\n18.LAW MIDDLE RING LITTLE CONJOINED\n50. SIDE\n17.HOOK MIDDLE RING LITTLE CONJOINED OUT\n" ++
  "51.IN\n50.\n18.INGE INDEX HINGED\n17.FIST INDEX THUMB SIDE\n17.HINGE INDEX THUMB SIDE\n17.FIST INDEX THUMB SIDE THUMB DIAGONAL\n" ++
  "45.CONJOINED\n45.BENT\n39.INDEX BENT\n39.BOTH BENT\n39.INDEX HINGE\n34.FORWARD INDEX STRAIGHT\n" ++
  "48.BENT\n34.HOOK\n34.CURLICUE\n37.VE THUMB INSIDE\n17.CLAW INDEX THUMB CURVE THUMB INSIDE\n17.FIST INDEX THUMB CURVE THUMB UNDER\n" ++
  "35.IRCLE\n17.CUP INDEX THUMB\n32. OPEN\n17.HINGE INDEX THUMB OPEN\n35.LARGE\n34.\n34. SMALL\n" ++
  "17.ANGLE INDEX THUMB OUT\n35.IN\n34.\n17.FIST THUMB\n27. HEEL\n28.SIDE DIAGONAL\n33.CONJOINED\n" ++
  "33.BENT\n28.FORWARD\n28.BETWEEN INDEX MIDDLE\n36.MIDDLE RING\n36.RING LITTLE\n28.UNDER TWO FINGERS\n" ++
  "28.OVER TWO FINGERS\n28.UNDER THREE FINGERS\n34.FOUR FINGERS\n28.OVER FOUR RAISED KNUCKLES\n21.\n" ++
  "21. HEEL\n12.TOUCH SINGLE\n18.MULTIPLE\n18.BETWEEN\n12.GRASP SINGLE\n18.MULTIPLE\n18.BETWEEN\n" ++
  "12.STRIKE SINGLE\n19.MULTIPLE\n19.BETWEEN\n12.BRUSH SINGLE\n18.MULTIPLE\n18.BETWEEN\n12.RUB SINGLE\n" ++
  "16.MULTIPLE\n16.BETWEEN\n12.SURFACE SYMBOLS\n20.BETWEEN\n13.QUEEZE LARGE SINGLE\n20.SMALL SINGLE\n" ++
  "20.LARGE MULTIPLE\n20.SMALL MULTIPLE\n21.EQUENTIAL\n12.FLICK LARGE SINGLE\n18.SMALL SINGLE\n18.LARGE MULTIPLE\n" ++
  "18.SMALL MULTIPLE\n19.EQUENTIAL\n12.SQUEEZE FLICK ALTERNATING\n12.MOVEMENT-HINGE UP DOWN LARGE\n" ++
  "35.SMALL\n30.SEQUENTIAL\n27.DOWN SEQUENTIAL\n27.UP DOWN ALTERNATING LARGE\n47.SMALL\n27.SIDE TO SIDE SCISSORS\n" ++
  "21.WALLPLANE FINGER CONTACT\n21.FLOORPLANE FINGER CONTACT\n21.WALLPLANE SINGLE STRAIGHT SMALL\n" ++
  "47.MEDIUM\n47.LARGE\n52.ST\n38.WRIST FLEX\n31.DOUBLE STRAIGHT\n38.WRIST FLEX\n38.ALTERNATING\n" ++
  "49. WRIST FLEX\n31.CROSS\n31.TRIPLE STRAIGHT MOVEMENT\n38.WRIST FLEX\n38.ALTERNATING\n49. WRIST FLEX\n" ++
  "31.BEND SMALL\n36.MEDIUM\n36.LARGE\n31.CORNER SMALL\n38.MEDIUM\n38.LARGE\n38.ROTATION\n32.HECK SMALL\n" ++
  "37.MEDIUM\n37.LARGE\n31.BOX SMALL\n35.MEDIUM\n35.LARGE\n31.ZIGZAG SMALL\n38.MEDIUM\n38.LARGE\n" ++
  "31.PEAKS SMALL\n37.MEDIUM\n37.LARGE\n12.TRAVEL-WALLPLANE ROTATION-WALLPLANE SINGLE\n48.DOUBLE\n" ++
  "48.ALTERNATING\n38.FLOORPLANE SINGLE\n49.DOUBLE\n49.ALTERNATING\n29.SHAKING\n29.ARM SPIRAL SINGLE\n" ++
  "40.DOUBLE\n40.TRIPLE\n12.MOVEMENT-DIAGONAL AWAY SMALL\n35.MEDIUM\n35.LARGE\n40.ST\n30.TOWARDS SMALL\n" ++
  "38.MEDIUM\n38.LARGE\n43.ST\n30.BETWEEN AWAY SMALL\n43.MEDIUM\n43.LARGE\n48.ST\n38.TOWARDS SMALL\n" ++
  "46.MEDIUM\n46.LARGE\n51.ST\n21.FLOORPLANE SINGLE STRAIGHT SMALL\n48.MEDIUM\n48.LARGE\n53.ST\n" ++
  "39.WRIST FLEX\n32.DOUBLE STRAIGHT\n39.WRIST FLEX\n39.ALTERNATING\n50. WRIST FLEX\n32.CROSS\n32.TRIPLE STRAIGHT MOVEMENT\n" ++
  "39.WRIST FLEX\n39.ALTERNATING MOVEMENT\n51.WRIST FLEX\n32.BEND\n32.CORNER SMALL\n39.MEDIUM\n39.LARGE\n" ++
  "33.HECK\n32.BOX SMALL\n36.MEDIUM\n36.LARGE\n32.ZIGZAG SMALL\n39.MEDIUM\n39.LARGE\n32.PEAKS SMALL\n" ++
  "38.MEDIUM\n38.LARGE\n12.TRAVEL-FLOORPLANE ROTATION-FLOORPLANE SINGLE\n50.DOUBLE\n50.ALTERNATING\n" ++
  "39.WALLPLANE SINGLE\n49.DOUBLE\n49.ALTERNATING\n30.SHAKING\n12.MOVEMENT-WALLPLANE CURVE QUARTER SMALL\n" ++
  "45.MEDIUM\n45.LARGE\n50.ST\n37.HALF-CIRCLE SMALL\n49.MEDIUM\n49.LARGE\n54.ST\n37.THREE-QUARTER CIRCLE SMALL\n" ++
  "58.MEDIUM\n31.HUMP SMALL\n36.MEDIUM\n36.LARGE\n31.LOOP SMALL\n36.MEDIUM\n36.LARGE\n36.SMALL DOUBLE\n" ++
  "31.WAVE CURVE DOUBLE SMALL\n49.MEDIUM\n49.LARGE\n42.TRIPLE SMALL\n49.MEDIUM\n49.LARGE\n31.CURVE THEN STRAIGHT\n" ++
  "36.D CROSS SMALL\n44.MEDIUM\n12.ROTATION-WALLPLANE SINGLE\n31.DOUBLE\n31.ALTERNATE\n12.MOVEMENT-WALLPLANE SHAKING\n" ++
  "31.CURVE HITTING FRONT WALL\n31.HUMP HITTING FRONT WALL\n31.LOOP HITTING FRONT WALL\n31.WAVE HITTING FRONT WALL\n" ++
  "12.ROTATION-WALLPLANE SINGLE HITTING FRONT WALL\n31.DOUBLE HITTING FRONT WALL\n31.ALTERNATING HITTING FRONT WALL\n" ++
  "12.MOVEMENT-WALLPLANE CURVE HITTING CHEST\n31.HUMP HITTING CHEST\n31.LOOP HITTING CHEST\n31.WAVE HITTING CHEST\n" ++
  "12.ROTATION-WALLPLANE SINGLE HITTING CHEST\n31.DOUBLE HITTING CHEST\n31.ALTERNATING HITTING CHEST\n" ++
  "12.MOVEMENT-WALLPLANE WAVE DIAGONAL PATH SMALL\n50.MEDIUM\n50.LARGE\n21.FLOORPLANE CURVE HITTING CEILING SMALL\n" ++
  "54.LARGE\n32.HUMP HITTING CEILING SMALL DOUBLE\n53.LARGE DOUBLE\n53.SMALL TRIPLE\n53.LARGE TRIPLE\n" ++
  "32.LOOP HITTING CEILING SMALL SINGLE\n53.LARGE SINGLE\n53.SMALL DOUBLE\n53.LARGE DOUBLE\n32.WAVE HITTING CEILING SMALL\n" ++
  "53.LARGE\n12.ROTATION-FLOORPLANE SINGLE HITTING CEILING\n32.DOUBLE HITTING CEILING\n32.ALTERNATING HITTING CEILING\n" ++
  "12.MOVEMENT-FLOORPLANE CURVE HITTING FLOOR SMALL\n52.LARGE\n32.HUMP HITTING FLOOR SMALL DOUBLE\n" ++
  "51.LARGE DOUBLE\n51.TRIPLE SMALL TRIPLE\n58.LARGE TRIPLE\n32.LOOP HITTING FLOOR SMALL SINGLE\n" ++
  "51.LARGE SINGLE\n51.SMALL DOUBLE\n51.LARGE DOUBLE\n32.WAVE HITTING FLOOR SMALL\n51.LARGE\n12.ROTATION-FLOORPLANE SINGLE HITTING FLOOR\n" ++
  "32.DOUBLE HITTING FLOOR\n32.ALTERNATING HITTING FLOOR\n12.MOVEMENT-FLOORPLANE CURVE SMALL\n38.MEDIUM\n" ++
  "38.LARGE\n43.ST\n38.COMBINED\n32.HUMP SMALL\n32.LOOP SMALL\n32.WAVE SNAKE\n38.MALL\n37.LARGE\n" ++
  "12.ROTATION-FLOORPLANE SINGLE\n32.DOUBLE\n32.ALTERNATING\n12.MOVEMENT-FLOORPLANE SHAKING PARALLEL\n" ++
  "21.WALLPLANE ARM CIRCLE SMALL SINGLE\n42.MEDIUM SINGLE\n42.SMALL DOUBLE\n42.MEDIUM DOUBLE\n21.FLOORPLANE ARM CIRCLE HITTING WALL SMALL SINGLE\n" ++
  "56.MEDIUM SINGLE\n56.LARGE SINGLE\n56.SMALL DOUBLE\n56.MEDIUM DOUBLE\n56.LARGE DOUBLE\n21.WALLPLANE WRIST CIRCLE FRONT SINGLE\n" ++
  "50.DOUBLE\n21.FLOORPLANE WRIST CIRCLE HITTING WALL SINGLE\n58.DOUBLE\n21.WALLPLANE FINGER CIRCLES SINGLE\n" ++
  "46.DOUBLE\n21.FLOORPLANE FINGER CIRCLES HITTING WALL SINGLE\n60.DOUBLE\n12.DYNAMIC ARROWHEAD SMALL\n" ++
  "30.LARGE\n20.FAST\n20.SLOW\n20.TENSE\n20.RELAXED\n20.SIMULTANEOUS\n32. ALTERNATING\n20.EVERY OTHER TIME\n" ++
  "20.GRADUAL\n12.HEAD\n16. RIM\n17.MOVEMENT-WALLPLANE STRAIGHT\n36.TILT\n26.FLOORPLANE STRAIGHT\n" ++
  "26.WALLPLANE CURVE\n26.FLOORPLANE CURVE\n25. CIRCLE\n12.FACE DIRECTION POSITION NOSE FORWARD TILTING\n" ++
  "41.UP OR DOWN\n51. TILTING\n12.EYEBROWS STRAIGHT UP\n30.NEUTRAL\n30.DOWN\n12.DREAMY EYEBROWS NEUTRAL DOWN\n" ++
  "28.DOWN NEUTRAL\n28.UP NEUTRAL\n28.NEUTRAL UP\n12.FOREHEAD NEUTRAL\n21.CONTACT\n21.WRINKLED\n" ++
  "12.EYES OPEN\n17.SQUEEZED\n17.CLOSED\n15. BLINK SINGLE\n22.MULTIPLE\n15.S HALF OPEN\n17.WIDE OPEN\n" ++
  "17.HALF CLOSED\n17.WIDENING MOVEMENT\n15. WINK\n15.LASHES UP\n22.DOWN\n22.FLUTTERING\n15.GAZE-WALLPLANE STRAIGHT\n" ++
  "38. DOUBLE\n39.ALTERNATING\n20.FLOORPLANE STRAIGHT\n39. DOUBLE\n40.ALTERNATING\n20.WALLPLANE CURVED\n" ++
  "20.FLOORPLANE CURVED\n20.WALLPLANE CIRCLING\n12.CHEEKS PUFFED\n19.NEUTRAL\n19.SUCKED\n12.TENSE CHEEKS HIGH\n" ++
  "25.MIDDLE\n25.LOW\n12.EARS\n12.NOSE NEUTRAL\n17.CONTACT\n17.WRINKLES\n18.IGGLES\n12.AIR BLOWING OUT\n" ++
  "16.SUCKING IN\n16.BLOW SMALL ROTATIONS\n16.SUCK SMALL ROTATIONS\n12.BREATH INHALE\n19.EXHALE\n" ++
  "12.MOUTH CLOSED NEUTRAL\n25.FORWARD\n25.CONTACT\n18.SMILE\n23. WRINKLED\n24.OPEN\n18.FROWN\n23. WRINKLED\n" ++
  "24.OPEN\n18.OPEN CIRCLE\n23.FORWARD\n23.WRINKLED\n23.OVAL\n27. WRINKLED\n28.YAWN\n23.RECTANGLE\n" ++
  "32. WRINKLED\n33.YAWN\n18.KISS\n22. FORWARD\n23.WRINKLED\n18.TENSE\n23. FORWARD\n24.SUCKED\n12.LIPS PRESSED TOGETHER\n" ++
  "15. LOWER OVER UPPER\n16.UPPER OVER LOWER\n12.MOUTH CORNERS\n18.WRINKLES SINGLE\n27.DOUBLE\n12.TONGUE STICKING OUT FAR\n" ++
  "19.LICKING LIPS\n19.TIP BETWEEN LIPS\n23.TOUCHING INSIDE MOUTH\n19.INSIDE MOUTH RELAXED\n19.MOVES AGAINST CHEEK\n" ++
  "19.CENTRE STICKING OUT\n26.INSIDE MOUTH\n13.EETH\n17. MOVEMENT\n18.ON TONGUE\n27. MOVEMENT\n21.LIPS\n" ++
  "25. MOVEMENT\n18.BITE LIPS\n12.MOVEMENT-WALLPLANE JAW\n21.FLOORPLANE JAW\n12.NECK\n12.HAIR\n12.EXCITEMENT\n" ++
  "12.SHOULDER HIP SPINE\n25.POSITIONS\n12.WALLPLANE SHOULDER HIP MOVE\n12.FLOORPLANE SHOULDER HIP MOVE\n" ++
  "12.SHOULDER TILTING FROM WAIST\n12.TORSO-WALLPLANE STRAIGHT STRETCH\n28.CURVED BEND\n18.FLOORPLANE TWISTING\n" ++
  "12.UPPER BODY TILTING FROM HIP JOINTS\n12.LIMB COMBINATION\n17.LENGTH-1\n24.2\n24.3\n24.4\n24.5\n" ++
  "24.6\n24.7\n12.FINGER\n12.LOCATION-WALLPLANE SPACE\n21.FLOORPLANE SPACE\n20. HEIGHT\n21.WIDTH\n" ++
  "21.DEPTH\n21.HEAD NECK\n21.TORSO\n21.LIMBS DIGITS\n12.COMMA\n12.FULL STOP\n12.SEMICOLON\n12.COLON\n" ++
  "12.PARENTHESIS\n1DA9B:12.FILL MODIFIER-2\n26.3\n26.4\n26.5\n26.6\n1DAA1:12.ROTATION MODIFIER-2\n" ++
  "30.3\n30.4\n30.5\n30.6\n30.7\n30.8\n30.9\n30.10\n31.1\n31.2\n31.3\n31.4\n31.5\n31.6\n1DF00:0.LATIN SMALL LETTER FENG DIGRAPH WITH TRILL\n" ++
  "19.REVERSED SCRIPT G\n6.LETTER SMALL CAPITAL TURNED G\n6.SMALL LETTER REVERSED K\n6.LETTER SMALL CAPITAL L WITH BELT\n" ++
  "6.SMALL LETTER LEZH WITH RETROFLEX HOOK\n19.TURNED Y WITH BELT\n19.REVERSED ENG\n19.TURNED R WITH LONG LEG AND RETROFLEX HOOK\n" ++
  "20. WITH HOOK AND RETROFLEX HOOK\n6.LETTER RETROFLEX CLICK WITH RETROFLEX HOOK\n6.SMALL LETTER ESH WITH DOUBLE BAR\n" ++
  "38. AND CURL\n19.TURNED T WITH CURL\n6.LETTER INVERTED GLOTTAL STOP WITH CURL\n13.STRETCHED C WITH CURL\n" ++
  "14.MALL CAPITAL TURNED K\n6.SMALL LETTER L WITH FISHHOOK\n19.DEZH DIGRAPH WITH PALATAL HOOK\n" ++
  "19.L WITH BELT AND PALATAL HOOK\n19.ENG WITH PALATAL HOOK\n19.TURNED R WITH PALATAL HOOK\n19.R WITH FISHHOOK AND PALATAL HOOK\n" ++
  "19.TESH DIGRAPH WITH PALATAL HOOK\n19.EZH WITH PALATAL HOOK\n19.DEZH DIGRAPH WITH RETROFLEX HOOK\n" ++
  "19.I WITH STROKE AND RETROFLEX HOOK\n19.O WITH RETROFLEX HOOK\n19.TESH DIGRAPH WITH RETROFLEX HOOK\n" ++
  "19.C WITH RETROFLEX HOOK\n19.S WITH CURL\n1E000:0.COMBINING GLAGOLITIC LETTER AZU\n28.BUKY\n28.VEDE\n" ++
  "28.GLAGOLI\n28.DOBRO\n28.YESTU\n28.ZHIVETE\n1E008:29.EMLJA\n28.IZHE\n29.NITIAL IZHE\n29.\n28.DJERVI\n" ++
  "28.KAKO\n28.LJUDIJE\n28.MYSLITE\n28.NASHI\n28.ONU\n28.POKOJI\n28.RITSI\n28.SLOVO\n28.TVRIDO\n" ++
  "28.UKU\n28.FRITU\n28.HERU\n1E01B:28.SHTA\n28.TSI\n28.CHRIVI\n28.SHA\n28.YERU\n31.I\n29.ATI\n1E023:29.U\n" ++
  "28.SMALL YUS\n1E026:28.YO\n28.IOTATED SMALL YUS\n28.BIG YUS\n28.IOTATED BIG YUS\n28.FITA\n1E100:0.NYIAKENG PUACHUE HMONG LETTER MA\n" ++
  "30.TSA\n30.NTA\n30.TA\n30.HA\n30.NA\n30.XA\n30.NKA\n30.CA\n30.LA\n30.SA\n30.ZA\n30.NCA\n31.TSA\n" ++
  "30.KA\n30.DA\n30.NYA\n31.RA\n30.VA\n30.NTXA\n30.TXA\n30.FA\n30.RA\n30.QA\n30.YA\n30.NQA\n30.PA\n" ++
  "30.XYA\n30.NPA\n30.DLA\n30.NPLA\n30.HAH\n30.MLA\n30.PLA\n30.GA\n30.RRA\n30.A\n31.A\n30.I\n30.U\n" ++
  "30.O\n31.O\n30.E\n31.E\n30.W\n1E130:23.TONE-B\n28.M\n28.J\n28.V\n28.S\n28.G\n28.D\n23.SIGN FOR PERSON\n" ++
  "32.THING\n32.LOCATION\n32.ANIMAL\n32.INVERTEBRATE\n28.XW XW\n24.YLLABLE LENGTHENER\n1E140:23.DIGIT ZERO\n" ++
  "29.ONE\n29.TWO\n30.HREE\n29.FOUR\n30.IVE\n29.SIX\n30.EVEN\n29.EIGHT\n29.NINE\n1E14E:23.LOGOGRAM NYAJ\n" ++
  "23.CIRCLED CA\n1E290:0.TOTO LETTER PA\n12.BA\n12.TA\n12.DA\n12.KA\n12.GA\n12.MA\n12.NA\n13.GA\n" ++
  "12.SA\n12.CHA\n12.YA\n12.WA\n12.JA\n12.HA\n12.RA\n12.LA\n12.I\n12.BREATHY I\n12.IU\n12.BREATHY IU\n" ++
  "12.U\n12.E\n12.BREATHY E\n12.EO\n12.BREATHY EO\n12.O\n12.AE\n12.BREATHY AE\n12.A\n5.SIGN RISING TONE\n" ++
  "1E2C0:0.WANCHO LETTER AA\n15.\n14.BA\n14.CA\n14.DA\n14.GA\n14.YA\n14.PHA\n14.LA\n14.NA\n14.PA\n" ++
  "14.TA\n15.HA\n14.FA\n14.SA\n15.HA\n14.JA\n14.ZA\n14.WA\n14.VA\n14.KA\n14.O\n14.AU\n14.RA\n14.MA\n" ++
  "14.KHA\n14.HA\n14.E\n14.I\n14.NGA\n14.U\n14.LLHA\n14.TSA\n15.RA\n14.ONG\n14.AANG\n15.NG\n14.ING\n" ++
  "14.ON\n14.EN\n14.AAN\n14.NYA\n14.UEN\n14.YIH\n7.TONE TUP\n15.NI\n12.KOI\n15.NI\n7.DIGIT ZERO\n" ++
  "13.ONE\n13.TWO\n14.HREE\n13.FOUR\n14.IVE\n13.SIX\n14.EVEN\n13.EIGHT\n13.NINE\n1E2FF:7.NGUN SIGN\n" ++
  "1E7E0:0.ETHIOPIC SYLLABLE HHYA\n21.U\n21.I\n21.AA\n21.EE\n22.\n21.O\n1E7E8:18.GURAGE HHWA\n18.HHWI\n" ++
  "21.EE\n22.\n1E7ED:18.GURAGE MWI\n27.EE\n1E7F0:25.QWI\n27.EE\n28.\n25.BWI\n27.EE\n25.KWI\n27.EE\n" ++
  "28.\n25.GWI\n27.EE\n28.\n25.FWI\n27.EE\n25.PWI\n27.EE\n1E800:0.MENDE KIKAKUI SYLLABLE M001 KI\n" ++
  "26.2 KA\n26.3 KU\n25.65 KEE\n25.95 KE\n25.76 KOO\n25.48 KO\n24.179 KUA\n24.004 WI\n26.5 WA\n26.6 WU\n" ++
  "24.126 WEE\n25.18 WE\n26.4 WOO\n24.045 WO\n24.194 WUI\n25.43 WEI\n24.061 WVI\n25.49 WVA\n24.139 WVE\n" ++
  "24.007 MIN\n26.8 MAN\n26.9 MUN\n25.59 MEN\n25.94 MON\n24.154 MUAN\n25.89 MUEN\n24.010 BI\n26.1 BA\n" ++
  "26.2 BU\n24.150 BEE\n24.097 BE\n24.103 BOO\n25.38 BO\n24.013 I\n26.4 A\n26.5 U\n24.163 EE\n25.00 E\n" ++
  "25.65 OO\n25.47 O\n25.37 EI\n26.1 IN\n26.5 IN\n25.95 AN\n25.78 EN\n24.019 SI\n25.20 SA\n26.1 SU\n" ++
  "24.162 SEE\n25.16 SE\n25.36 SOO\n24.079 SO\n24.196 SIA\n24.025 LI\n26.6 LA\n26.7 LU\n25.84 LEE\n" ++
  "25.73 LE\n25.54 LOO\n24.153 LO\n25.10 LONG LE\n24.016 DI\n26.7 DA\n26.8 DU\n25.89 DEE\n24.180 DOO\n" ++
  "26.1 DO\n24.022 TI\n26.3 TA\n26.4 TU\n25.91 TEE\n25.55 TE\n24.104 TOO\n24.069 TO\n25.28 JI\n26.9 JA\n" ++
  "25.30 JU\n24.157 JEE\n25.13 JE\n25.60 JOO\n24.063 JO\n24.175 LONG JO\n24.031 YI\n26.2 YA\n26.3 YU\n" ++
  "24.109 YEE\n24.080 YE\n24.141 YOO\n25.21 YO\n24.034 FI\n26.5 FA\n26.6 FU\n25.78 FEE\n26.5 FE\n" ++
  "24.133 FOO\n24.088 FO\n24.197 FUA\n25.01 FAN\n24.037 NIN\n26.8 NAN\n26.9 NUN\n24.117 NEN\n25.69 NON\n" ++
  "25.76 HI\n24.041 HA\n24.186 HU\n24.040 HEE\n25.96 HE\n25.42 HOO\n24.140 HO\n24.083 HEEI\n24.128 HOOU\n" ++
  "24.053 HIN\n24.130 HAN\n24.087 HUN\n25.52 HEN\n24.193 HON\n24.046 HUAN\n25.90 NGGI\n25.43 NGGA\n" ++
  "25.82 NGGU\n24.115 NGGEE\n25.46 NGGE\n25.56 NGGOO\n25.20 NGGO\n25.59 NGGAA\n25.27 NGGUA\n24.086 LONG NGGE\n" ++
  "24.106 LONG NGGOO\n25.83 LONG NGGO\n25.55 GI\n25.11 GA\n25.68 GU\n25.90 GEE\n25.66 GUEI\n26.7 GUAN\n" ++
  "25.84 NGEN\n24.057 NGON\n24.177 NGUAN\n24.068 PI\n25.99 PA\n25.50 PU\n25.81 PEE\n25.51 PE\n24.102 POO\n" ++
  "24.066 PO\n24.145 MBI\n24.062 MBA\n24.122 MBU\n24.047 MBEE\n24.188 MBEE\n24.072 MBE\n24.172 MBOO\n" ++
  "26.4 MBO\n25.87 MBUU\n25.61 LONG MBE\n25.05 LONG MBOO\n25.42 LONG MBO\n25.32 KPI\n24.092 KPA\n" ++
  "25.74 KPU\n25.44 KPEE\n24.108 KPE\n25.12 KPOO\n25.58 KPO\n25.24 GBI\n24.056 GBA\n24.148 GBU\n" ++
  "24.093 GBEE\n24.107 GBE\n24.071 GBOO\n26.0 GBO\n24.171 RA\n25.23 NDI\n26.9 NDA\n26.5 NDU\n25.91 NDEE\n" ++
  "25.19 NDE\n24.067 NDOO\n26.4 NDO\n24.152 NJA\n25.92 NJU\n25.49 NJEE\n25.34 NJOO\n25.82 VI\n26.5 VA\n" ++
  "25.51 VU\n25.73 VEE\n24.085 VE\n24.144 VOO\n24.077 VO\n24.164 NYIN\n24.058 NYAN\n24.170 NYUN\n" ++
  "24.098 NYEN\n25.60 NYON\n1E8C7:14.DIGIT ONE\n20.TWO\n21.HREE\n20.FOUR\n21.IVE\n20.SIX\n21.EVEN\n" ++
  "20.EIGHT\n20.NINE\n14.COMBINING NUMBER TEENS\n33.NS\n31.HUNDREDS\n31.THOUSANDS\n32.EN THOUSANDS\n" ++
  "31.HUNDRED THOUSANDS\n31.MILLIONS\n1E900:0.ADLAM CAPITAL LETTER ALIF\n21.DAALI\n21.LAAM\n21.MIIM\n" ++
  "21.BA\n21.SINNYIIYHE\n21.PE\n21.BHE\n21.RA\n21.E\n21.FA\n21.I\n21.O\n21.DHA\n21.YHE\n21.WAW\n" ++
  "21.NUN\n21.KAF\n21.YA\n21.U\n21.JIIM\n21.CHI\n21.HA\n21.QAAF\n21.GA\n21.NYA\n21.TU\n21.NHA\n21.VA\n" ++
  "21.KHA\n21.GBE\n21.ZAL\n21.KPO\n21.SHA\n6.SMALL LETTER ALIF\n19.DAALI\n19.LAAM\n19.MIIM\n19.BA\n" ++
  "19.SINNYIIYHE\n19.PE\n19.BHE\n19.RA\n19.E\n19.FA\n19.I\n19.O\n19.DHA\n19.YHE\n19.WAW\n19.NUN\n" ++
  "19.KAF\n19.YA\n19.U\n19.JIIM\n19.CHI\n19.HA\n19.QAAF\n19.GA\n19.NYA\n19.TU\n19.NHA\n19.VA\n19.KHA\n" ++
  "19.GBE\n19.ZAL\n19.KPO\n19.SHA\n6.ALIF LENGTHENER\n6.VOWEL LENGTHENER\n6.GEMINATION MARK\n6.HAMZA\n" ++
  "6.CONSONANT MODIFIER\n6.GEMINATE CONSONANT MODIFIER\n6.NUKTA\n7.ASALIZATION MARK\n1E950:6.DIGIT ZERO\n" ++
  "12.ONE\n12.TWO\n13.HREE\n12.FOUR\n13.IVE\n12.SIX\n13.EVEN\n12.EIGHT\n12.NINE\n1E95E:6.INITIAL EXCLAMATION MARK\n" ++
  "14.QUESTION MARK\n1EC71:0.INDIC SIYAQ NUMBER ONE\n19.TWO\n20.HREE\n19.FOUR\n20.IVE\n19.SIX\n20.EVEN\n" ++
  "19.EIGHT\n19.NINE\n19.TEN\n20.WENTY\n20.HIRTY\n19.FORTY\n20.IFTY\n19.SIXTY\n20.EVENTY\n19.EIGHTY\n" ++
  "19.NINETY\n19.ONE HUNDRED\n19.TWO HUNDRED\n20.HREE HUNDRED\n19.FOUR HUNDRED\n20.IVE HUNDRED\n" ++
  "19.SIX HUNDRED\n20.EVEN HUNDRED\n19.EIGHT HUNDRED\n19.NINE HUNDRED\n19.ONE THOUSAND\n19.TWO THOUSAND\n" ++
  "20.HREE THOUSAND\n19.FOUR THOUSAND\n20.IVE THOUSAND\n19.SIX THOUSAND\n20.EVEN THOUSAND\n19.EIGHT THOUSAND\n" ++
  "19.NINE THOUSAND\n19.TEN THOUSAND\n20.WENTY THOUSAND\n20.HIRTY THOUSAND\n19.FORTY THOUSAND\n20.IFTY THOUSAND\n" ++
  "19.SIXTY THOUSAND\n20.EVENTY THOUSAND\n19.EIGHTY THOUSAND\n19.NINETY THOUSAND\n19.LAKH\n23.AN\n" ++
  "12.LAKH MARK\n12.NUMBER KAROR\n24.AN\n19.PREFIXED ONE\n28.TWO\n29.HREE\n28.FOUR\n29.IVE\n28.SIX\n" ++
  "29.EVEN\n28.EIGHT\n28.NINE\n12.PLACEHOLDER\n12.FRACTION ONE QUARTER\n25.HALF\n21.THREE QUARTERS\n" ++
  "12.RUPEE MARK\n12.NUMBER ALTERNATE ONE\n29.TWO\n30.EN THOUSAND\n12.ALTERNATE LAKH MARK\n1ED01:0.OTTOMAN SIYAQ NUMBER ONE\n" ++
  "21.TWO\n22.HREE\n21.FOUR\n22.IVE\n21.SIX\n22.EVEN\n21.EIGHT\n21.NINE\n21.TEN\n22.WENTY\n22.HIRTY\n" ++
  "21.FORTY\n22.IFTY\n21.SIXTY\n22.EVENTY\n21.EIGHTY\n21.NINETY\n21.ONE HUNDRED\n21.TWO HUNDRED\n" ++
  "22.HREE HUNDRED\n21.FOUR HUNDRED\n22.IVE HUNDRED\n21.SIX HUNDRED\n22.EVEN HUNDRED\n21.EIGHT HUNDRED\n" ++
  "21.NINE HUNDRED\n21.ONE THOUSAND\n21.TWO THOUSAND\n22.HREE THOUSAND\n21.FOUR THOUSAND\n22.IVE THOUSAND\n" ++
  "21.SIX THOUSAND\n22.EVEN THOUSAND\n21.EIGHT THOUSAND\n21.NINE THOUSAND\n21.TEN THOUSAND\n22.WENTY THOUSAND\n" ++
  "22.HIRTY THOUSAND\n21.FORTY THOUSAND\n22.IFTY THOUSAND\n21.SIXTY THOUSAND\n22.EVENTY THOUSAND\n" ++
  "21.EIGHTY THOUSAND\n21.NINETY THOUSAND\n14.MARRATAN\n14.ALTERNATE NUMBER TWO\n32.HREE\n31.FOUR\n" ++
  "32.IVE\n31.SIX\n32.EVEN\n31.EIGHT\n31.NINE\n31.TEN\n31.FOUR HUNDRED\n31.SIX HUNDRED\n31.TWO THOUSAND\n" ++
  "32.EN THOUSAND\n14.FRACTION ONE HALF\n27.SIXTH\n1EE00:0.ARABIC MATHEMATICAL ALEF\n20.BEH\n20.JEEM\n" ++
  "20.DAL\n1EE05:20.WAW\n20.ZAIN\n20.HAH\n20.TAH\n20.YEH\n20.KAF\n20.LAM\n20.MEEM\n20.NOON\n20.SEEN\n" ++
  "20.AIN\n20.FEH\n20.SAD\n20.QAF\n20.REH\n20.SHEEN\n20.TEH\n21.HEH\n20.KHAH\n20.THAL\n20.DAD\n20.ZAH\n" ++
  "20.GHAIN\n20.DOTLESS BEH\n28.NOON\n28.FEH\n28.QAF\n1EE21:20.INITIAL BEH\n28.JEEM\n1EE24:28.HEH\n" ++
  "1EE27:29.AH\n1EE29:28.YEH\n28.KAF\n28.LAM\n28.MEEM\n28.NOON\n28.SEEN\n28.AIN\n28.FEH\n28.SAD\n" ++
  "28.QAF\n1EE34:28.SHEEN\n28.TEH\n29.HEH\n28.KHAH\n1EE39:28.DAD\n1EE3B:28.GHAIN\n1EE42:20.TAILED JEEM\n" ++
  "1EE47:27.HAH\n1EE49:27.YEH\n1EE4B:27.LAM\n1EE4D:27.NOON\n27.SEEN\n27.AIN\n1EE51:27.SAD\n27.QAF\n" ++
  "1EE54:27.SHEEN\n1EE57:27.KHAH\n1EE59:27.DAD\n1EE5B:27.GHAIN\n1EE5D:27.DOTLESS NOON\n1EE5F:35.QAF\n" ++
  "1EE61:20.STRETCHED BEH\n30.JEEM\n1EE64:30.HEH\n1EE67:31.AH\n30.TAH\n30.YEH\n30.KAF\n1EE6C:30.MEEM\n" ++
  "30.NOON\n30.SEEN\n30.AIN\n30.FEH\n30.SAD\n30.QAF\n1EE74:30.SHEEN\n30.TEH\n31.HEH\n30.KHAH\n1EE79:30.DAD\n" ++
  "30.ZAH\n30.GHAIN\n30.DOTLESS BEH\n1EE7E:38.FEH\n1EE80:20.LOOPED ALEF\n27.BEH\n27.JEEM\n27.DAL\n" ++
  "27.HEH\n27.WAW\n27.ZAIN\n27.HAH\n27.TAH\n27.YEH\n1EE8B:27.LAM\n27.MEEM\n27.NOON\n27.SEEN\n27.AIN\n" ++
  "27.FEH\n27.SAD\n27.QAF\n27.REH\n27.SHEEN\n27.TEH\n28.HEH\n27.KHAH\n27.THAL\n27.DAD\n27.ZAH\n27.GHAIN\n" ++
  "1EEA1:20.DOUBLE-STRUCK BEH\n34.JEEM\n34.DAL\n1EEA5:34.WAW\n34.ZAIN\n34.HAH\n34.TAH\n34.YEH\n1EEAB:34.LAM\n" ++
  "34.MEEM\n34.NOON\n34.SEEN\n34.AIN\n34.FEH\n34.SAD\n34.QAF\n34.REH\n34.SHEEN\n34.TEH\n35.HEH\n" ++
  "34.KHAH\n34.THAL\n34.DAD\n34.ZAH\n34.GHAIN\n1EEF0:20.OPERATOR MEEM WITH HAH WITH TATWEEL\n29.HAH WITH DAL\n" ++
  "1F000:0.MAHJONG TILE EAST WIND\n13.SOUTH WIND\n13.WEST WIND\n13.NORTH WIND\n13.RED DRAGON\n13.GREEN DRAGON\n" ++
  "13.WHITE DRAGON\n13.ONE OF CHARACTERS\n13.TWO OF CHARACTERS\n14.HREE OF CHARACTERS\n13.FOUR OF CHARACTERS\n" ++
  "14.IVE OF CHARACTERS\n13.SIX OF CHARACTERS\n14.EVEN OF CHARACTERS\n13.EIGHT OF CHARACTERS\n13.NINE OF CHARACTERS\n" ++
  "13.ONE OF BAMBOOS\n13.TWO OF BAMBOOS\n14.HREE OF BAMBOOS\n13.FOUR OF BAMBOOS\n14.IVE OF BAMBOOS\n" ++
  "13.SIX OF BAMBOOS\n14.EVEN OF BAMBOOS\n13.EIGHT OF BAMBOOS\n13.NINE OF BAMBOOS\n13.ONE OF CIRCLES\n" ++
  "13.TWO OF CIRCLES\n14.HREE OF CIRCLES\n13.FOUR OF CIRCLES\n14.IVE OF CIRCLES\n13.SIX OF CIRCLES\n" ++
  "14.EVEN OF CIRCLES\n13.EIGHT OF CIRCLES\n13.NINE OF CIRCLES\n13.PLUM\n13.ORCHID\n13.BAMBOO\n13.CHRYSANTHEMUM\n" ++
  "13.SPRING\n14.UMMER\n13.AUTUMN\n13.WINTER\n13.JOKER\n13.BACK\n1F030:0.DOMINO TILE HORIZONTAL BACK\n" ++
  "22.-00-00\n27.1\n27.2\n27.3\n27.4\n27.5\n27.6\n24.1-00\n27.1\n27.2\n27.3\n27.4\n27.5\n27.6\n24.2-00\n" ++
  "27.1\n27.2\n27.3\n27.4\n27.5\n27.6\n24.3-00\n27.1\n27.2\n27.3\n27.4\n27.5\n27.6\n24.4-00\n27.1\n" ++
  "27.2\n27.3\n27.4\n27.5\n27.6\n24.5-00\n27.1\n27.2\n27.3\n27.4\n27.5\n27.6\n24.6-00\n27.1\n27.2\n" ++
  "27.3\n27.4\n27.5\n27.6\n12.VERTICAL BACK\n20.-00-00\n25.1\n25.2\n25.3\n25.4\n25.5\n25.6\n22.1-00\n" ++
  "25.1\n25.2\n25.3\n25.4\n25.5\n25.6\n22.2-00\n25.1\n25.2\n25.3\n25.4\n25.5\n25.6\n22.3-00\n25.1\n" ++
  "25.2\n25.3\n25.4\n25.5\n25.6\n22.4-00\n25.1\n25.2\n25.3\n25.4\n25.5\n25.6\n22.5-00\n25.1\n25.2\n" ++
  "25.3\n25.4\n25.5\n25.6\n22.6-00\n25.1\n25.2\n25.3\n25.4\n25.5\n25.6\n1F0A0:0.PLAYING CARD BACK\n" ++
  "13.ACE OF SPADES\n13.TWO OF SPADES\n14.HREE OF SPADES\n13.FOUR OF SPADES\n14.IVE OF SPADES\n13.SIX OF SPADES\n" ++
  "14.EVEN OF SPADES\n13.EIGHT OF SPADES\n13.NINE OF SPADES\n13.TEN OF SPADES\n13.JACK OF SPADES\n" ++
  "13.KNIGHT OF SPADES\n13.QUEEN OF SPADES\n13.KING OF SPADES\n1F0B1:13.ACE OF HEARTS\n13.TWO OF HEARTS\n" ++
  "14.HREE OF HEARTS\n13.FOUR OF HEARTS\n14.IVE OF HEARTS\n13.SIX OF HEARTS\n14.EVEN OF HEARTS\n" ++
  "13.EIGHT OF HEARTS\n13.NINE OF HEARTS\n13.TEN OF HEARTS\n13.JACK OF HEARTS\n13.KNIGHT OF HEARTS\n" ++
  "13.QUEEN OF HEARTS\n13.KING OF HEARTS\n13.RED JOKER\n1F0C1:13.ACE OF DIAMONDS\n13.TWO OF DIAMONDS\n" ++
  "14.HREE OF DIAMONDS\n13.FOUR OF DIAMONDS\n14.IVE OF DIAMONDS\n13.SIX OF DIAMONDS\n14.EVEN OF DIAMONDS\n" ++
  "13.EIGHT OF DIAMONDS\n13.NINE OF DIAMONDS\n13.TEN OF DIAMONDS\n13.JACK OF DIAMONDS\n13.KNIGHT OF DIAMONDS\n" ++
  "13.QUEEN OF DIAMONDS\n13.KING OF DIAMONDS\n13.BLACK JOKER\n1F0D1:13.ACE OF CLUBS\n13.TWO OF CLUBS\n" ++
  "14.HREE OF CLUBS\n13.FOUR OF CLUBS\n14.IVE OF CLUBS\n13.SIX OF CLUBS\n14.EVEN OF CLUBS\n13.EIGHT OF CLUBS\n" ++
  "13.NINE OF CLUBS\n13.TEN OF CLUBS\n13.JACK OF CLUBS\n13.KNIGHT OF CLUBS\n13.QUEEN OF CLUBS\n13.KING OF CLUBS\n" ++
  "13.WHITE JOKER\n13.FOOL\n13.TRUMP-1\n19.2\n19.3\n19.4\n19.5\n19.6\n19.7\n19.8\n19.9\n19.10\n20.1\n" ++
  "20.2\n20.3\n20.4\n20.5\n20.6\n20.7\n20.8\n20.9\n19.20\n20.1\n1F100:0.DIGIT ZERO FULL STOP\n11.COMMA\n" ++
  "6.ONE COMMA\n6.TWO COMMA\n7.HREE COMMA\n6.FOUR COMMA\n7.IVE COMMA\n6.SIX COMMA\n7.EVEN COMMA\n" ++
  "6.EIGHT COMMA\n6.NINE COMMA\n2.NGBAT CIRCLED SANS-SERIF DIGIT ZERO\n8.NEGATIVE CIRCLED SANS-SERIF DIGIT ZERO\n" ++
  "0.CIRCLED ZERO WITH SLASH\n8.ANTICLOCKWISE ARROW\n8.DOLLAR SIGN WITH OVERLAID BACKSLASH\n0.PARENTHESIZED LATIN CAPITAL LETTER A\n" ++
  "35.B\n35.C\n35.D\n35.E\n35.F\n35.G\n35.H\n35.I\n35.J\n35.K\n35.L\n35.M\n35.N\n35.O\n35.P\n35.Q\n" ++
  "35.R\n35.S\n35.T\n35.U\n35.V\n35.W\n35.X\n35.Y\n35.Z\n0.TORTOISE SHELL BRACKETED LATIN CAPITAL LETTER S\n" ++
  "0.CIRCLED ITALIC LATIN CAPITAL LETTER C\n36.R\n8.CD\n8.WZ\n1.OPYLEFT SYMBOL\n0.SQUARED LATIN CAPITAL LETTER A\n" ++
  "29.B\n29.C\n29.D\n29.E\n29.F\n29.G\n29.H\n29.I\n29.J\n29.K\n29.L\n29.M\n29.N\n29.O\n29.P\n29.Q\n" ++
  "29.R\n29.S\n29.T\n29.U\n29.V\n29.W\n29.X\n29.Y\n29.Z\n8.HV\n8.MV\n8.SD\n9.S\n8.PPV\n8.WC\n0.NEGATIVE CIRCLED LATIN CAPITAL LETTER A\n" ++
  "38.B\n38.C\n38.D\n38.E\n38.F\n38.G\n38.H\n38.I\n38.J\n38.K\n38.L\n38.M\n38.N\n38.O\n38.P\n38.Q\n" ++
  "38.R\n38.S\n38.T\n38.U\n38.V\n38.W\n38.X\n38.Y\n38.Z\n0.RAISED MC SIGN\n8.D SIGN\n8.R SIGN\n0.CIRCLED CC\n" ++
  "9. WITH OVERLAID BACKSLASH\n8.HUMAN FIGURE\n0.NEGATIVE SQUARED LATIN CAPITAL LETTER A\n38.B\n" ++
  "38.C\n38.D\n38.E\n38.F\n38.G\n38.H\n38.I\n38.J\n38.K\n38.L\n38.M\n38.N\n38.O\n38.P\n38.Q\n38.R\n" ++
  "38.S\n38.T\n38.U\n38.V\n38.W\n38.X\n38.Y\n38.Z\n0.CROSSED NEGATIVE SQUARED LATIN CAPITAL LETTER P\n" ++
  "0.NEGATIVE SQUARED IC\n17.PA\n17.SA\n17.AB\n17.WC\n0.SQUARE DJ\n6.D CL\n9.OOL\n8.FREE\n8.ID\n" ++
  "8.NEW\n9.G\n8.OK\n8.SOS\n8.UP WITH EXCLAMATION MARK\n8.VS\n8.THREE D\n8.SECOND SCREEN\n8.TWO K\n" ++
  "8.FOUR K\n8.EIGHT K\n8.FIVE POINT ONE\n8.SEVEN POINT ONE\n8.TWENTY-TWO POINT TWO\n8.SIXTY P\n" ++
  "8.ONE HUNDRED TWENTY P\n8.LATIN SMALL LETTER D\n8.HC\n9.DR\n9.I-RES\n8.LOSSLESS\n8.SHV\n8.UHD\n" ++
  "8.VOD\n0.MASK WORK SYMBOL\n1F1E6:0.REGIONAL INDICATOR SYMBOL LETTER A\n33.B\n33.C\n33.D\n33.E\n" ++
  "33.F\n33.G\n33.H\n33.I\n33.J\n33.K\n33.L\n33.M\n33.N\n33.O\n33.P\n33.Q\n33.R\n33.S\n33.T\n33.U\n" ++
  "33.V\n33.W\n33.X\n33.Y\n33.Z\n0.SQUARE HIRAGANA HOKA\n6.D KATAKANA KOKO\n17.SA\n1F210:8.CJK UNIFIED IDEOGRAPH-624B\n" ++
  "30.5B57\n31.3CC\n8.KATAKANA DE\n8.CJK UNIFIED IDEOGRAPH-4E8C\n30.591A\n30.89E3\n30.5929\n30.4EA4\n" ++
  "30.6620\n30.7121\n30.6599\n30.524D\n31.F8C\n31.18D\n30.65B0\n30.521D\n30.7D42\n31.51F\n30.8CA9\n" ++
  "30.58F0\n31.439\n30.6F14\n31.295\n31.355\n30.4E00\n33.9\n30.904A\n30.5DE6\n30.4E2D\n30.53F3\n" ++
  "30.6307\n30.8D70\n30.6253\n30.7981\n31.A7A\n30.5408\n30.6E80\n31.709\n33.8\n30.7533\n30.5272\n" ++
  "31.5B6\n30.914D\n1F240:0.TORTOISE SHELL BRACKETED CJK UNIFIED IDEOGRAPH-672C\n47.4E09\n49.8C\n" ++
  "47.5B89\n47.70B9\n47.6253\n47.76D7\n47.52DD\n47.6557\n1F250:0.CIRCLED IDEOGRAPH ADVANTAGE\n19.CCEPT\n" ++
  "1F260:0.ROUNDED SYMBOL FOR FU\n19.LU\n19.SHOU\n19.XI\n19.SHUANGXI\n19.CAI\n1F300:0.CYCLONE\n0.FOGGY\n" ++
  "0.CLOSED UMBRELLA\n0.NIGHT WITH STARS\n0.SUNRISE OVER MOUNTAINS\n7.\n0.CITYSCAPE AT DUSK\n0.SUNSET OVER BUILDINGS\n" ++
  "0.RAINBOW\n0.BRIDGE AT NIGHT\n0.WATER WAVE\n0.VOLCANO\n0.MILKY WAY\n0.EARTH GLOBE EUROPE-AFRICA\n" ++
  "12.AMERICAS\n13.SIA-AUSTRALIA\n0.GLOBE WITH MERIDIANS\n0.NEW MOON SYMBOL\n0.WAXING CRESCENT MOON SYMBOL\n" ++
  "0.FIRST QUARTER MOON SYMBOL\n0.WAXING GIBBOUS MOON SYMBOL\n0.FULL MOON SYMBOL\n0.WANING GIBBOUS MOON SYMBOL\n" ++
  "0.LAST QUARTER MOON SYMBOL\n0.WANING CRESCENT MOON SYMBOL\n0.CRESCENT MOON\n0.NEW MOON WITH FACE\n" ++
  "0.FIRST QUARTER MOON WITH FACE\n0.LAST QUARTER MOON WITH FACE\n0.FULL MOON WITH FACE\n0.SUN WITH FACE\n" ++
  "0.GLOWING STAR\n0.SHOOTING STAR\n0.THERMOMETER\n0.BLACK DROPLET\n0.WHITE SUN\n9. WITH SMALL CLOUD\n" ++
  "10.BEHIND CLOUD\n22. WITH RAIN\n0.CLOUD WITH RAIN\n11.SNOW\n11.LIGHTNING\n11.TORNADO\n0.FOG\n" ++
  "0.WIND BLOWING FACE\n0.HOT DOG\n0.TACO\n0.BURRITO\n0.CHESTNUT\n0.SEEDLING\n0.EVERGREEN TREE\n" ++
  "0.DECIDUOUS TREE\n0.PALM TREE\n0.CACTUS\n0.HOT PEPPER\n0.TULIP\n0.CHERRY BLOSSOM\n0.ROSE\n0.HIBISCUS\n" ++
  "0.SUNFLOWER\n0.BLOSSOM\n0.EAR OF MAIZE\n7.RICE\n0.HERB\n0.FOUR LEAF CLOVER\n0.MAPLE LEAF\n0.FALLEN LEAF\n" ++
  "0.LEAF FLUTTERING IN WIND\n0.MUSHROOM\n0.TOMATO\n0.AUBERGINE\n0.GRAPES\n0.MELON\n0.WATERMELON\n" ++
  "0.TANGERINE\n0.LEMON\n0.BANANA\n0.PINEAPPLE\n0.RED APPLE\n0.GREEN APPLE\n0.PEAR\n3.CH\n0.CHERRIES\n" ++
  "0.STRAWBERRY\n0.HAMBURGER\n0.SLICE OF PIZZA\n0.MEAT ON BONE\n0.POULTRY LEG\n0.RICE CRACKER\n5.BALL\n" ++
  "0.COOKED RICE\n1.URRY AND RICE\n0.STEAMING BOWL\n1.PAGHETTI\n0.BREAD\n0.FRENCH FRIES\n0.ROASTED SWEET POTATO\n" ++
  "0.DANGO\n0.ODEN\n0.SUSHI\n0.FRIED SHRIMP\n1.ISH CAKE WITH SWIRL DESIGN\n0.SOFT ICE CREAM\n1.HAVED ICE\n" ++
  "0.ICE CREAM\n0.DOUGHNUT\n0.COOKIE\n1.HOCOLATE BAR\n1.ANDY\n0.LOLLIPOP\n0.CUSTARD\n0.HONEY POT\n" ++
  "0.SHORTCAKE\n0.BENTO BOX\n0.POT OF FOOD\n0.COOKING\n0.FORK AND KNIFE\n0.TEACUP WITHOUT HANDLE\n" ++
  "0.SAKE BOTTLE AND CUP\n0.WINE GLASS\n0.COCKTAIL GLASS\n0.TROPICAL DRINK\n0.BEER MUG\n0.CLINKING BEER MUGS\n" ++
  "0.BABY BOTTLE\n0.FORK AND KNIFE WITH PLATE\n0.BOTTLE WITH POPPING CORK\n0.POPCORN\n0.RIBBON\n" ++
  "0.WRAPPED PRESENT\n0.BIRTHDAY CAKE\n0.JACK-O-LANTERN\n0.CHRISTMAS TREE\n0.FATHER CHRISTMAS\n1.IREWORKS\n" ++
  "8. SPARKLER\n0.BALLOON\n0.PARTY POPPER\n0.CONFETTI BALL\n0.TANABATA TREE\n0.CROSSED FLAGS\n0.PINE DECORATION\n" ++
  "0.JAPANESE DOLLS\n0.CARP STREAMER\n0.WIND CHIME\n0.MOON VIEWING CEREMONY\n0.SCHOOL SATCHEL\n0.GRADUATION CAP\n" ++
  "0.HEART WITH TIP ON THE LEFT\n0.BOUQUET OF FLOWERS\n0.MILITARY MEDAL\n0.REMINDER RIBBON\n0.MUSICAL KEYBOARD WITH JACKS\n" ++
  "0.STUDIO MICROPHONE\n0.LEVEL SLIDER\n0.CONTROL KNOBS\n0.BEAMED ASCENDING MUSICAL NOTES\n7.DESCENDING MUSICAL NOTES\n" ++
  "0.FILM FRAMES\n0.ADMISSION TICKETS\n0.CAROUSEL HORSE\n0.FERRIS WHEEL\n0.ROLLER COASTER\n0.FISHING POLE AND FISH\n" ++
  "0.MICROPHONE\n1.OVIE CAMERA\n0.CINEMA\n0.HEADPHONE\n0.ARTIST PALETTE\n0.TOP HAT\n0.CIRCUS TENT\n" ++
  "0.TICKET\n0.CLAPPER BOARD\n0.PERFORMING ARTS\n0.VIDEO GAME\n0.DIRECT HIT\n0.SLOT MACHINE\n0.BILLIARDS\n" ++
  "0.GAME DIE\n0.BOWLING\n0.FLOWER PLAYING CARDS\n0.MUSICAL NOTE\n2.LTIPLE MUSICAL NOTES\n0.SAXOPHONE\n" ++
  "0.GUITAR\n0.MUSICAL KEYBOARD\n0.TRUMPET\n0.VIOLIN\n0.MUSICAL SCORE\n0.RUNNING SHIRT WITH SASH\n" ++
  "0.TENNIS RACQUET AND BALL\n0.SKI AND SKI BOOT\n0.BASKETBALL AND HOOP\n0.CHEQUERED FLAG\n0.SNOWBOARDER\n" ++
  "0.RUNNER\n0.SURFER\n1.PORTS MEDAL\n0.TROPHY\n0.HORSE RACING\n0.AMERICAN FOOTBALL\n0.RUGBY FOOTBALL\n" ++
  "0.SWIMMER\n0.WEIGHT LIFTER\n0.GOLFER\n0.RACING MOTORCYCLE\n7.CAR\n0.CRICKET BAT AND BALL\n0.VOLLEYBALL\n" ++
  "0.FIELD HOCKEY STICK AND BALL\n0.ICE HOCKEY STICK AND PUCK\n0.TABLE TENNIS PADDLE AND BALL\n0.SNOW CAPPED MOUNTAIN\n" ++
  "0.CAMPING\n0.BEACH WITH UMBRELLA\n1.UILDING CONSTRUCTION\n0.HOUSE BUILDINGS\n0.CITYSCAPE\n0.DERELICT HOUSE BUILDING\n" ++
  "0.CLASSICAL BUILDING\n0.DESERT\n6. ISLAND\n0.NATIONAL PARK\n0.STADIUM\n0.HOUSE BUILDING\n6.WITH GARDEN\n" ++
  "0.OFFICE BUILDING\n0.JAPANESE POST OFFICE\n0.EUROPEAN POST OFFICE\n0.HOSPITAL\n0.BANK\n0.AUTOMATED TELLER MACHINE\n" ++
  "0.HOTEL\n0.LOVE HOTEL\n0.CONVENIENCE STORE\n0.SCHOOL\n0.DEPARTMENT STORE\n0.FACTORY\n0.IZAKAYA LANTERN\n" ++
  "0.JAPANESE CASTLE\n0.EUROPEAN CASTLE\n0.WHITE PENNANT\n0.BLACK PENNANT\n0.WAVING WHITE FLAG\n" ++
  "7.BLACK FLAG\n0.ROSETTE\n0.BLACK ROSETTE\n0.LABEL\n0.BADMINTON RACQUET AND SHUTTLECOCK\n1.OW AND ARROW\n" ++
  "0.AMPHORA\n0.EMOJI MODIFIER FITZPATRICK TYPE-1-2\n32.3\n32.4\n32.5\n32.6\n0.RAT\n0.MOUSE\n0.OX\n" ++
  "0.WATER BUFFALO\n0.COW\n0.TIGER\n0.LEOPARD\n0.RABBIT\n0.CAT\n0.DRAGON\n0.CROCODILE\n0.WHALE\n" ++
  "0.SNAIL\n3.KE\n0.HORSE\n0.RAM\n0.GOAT\n0.SHEEP\n0.MONKEY\n0.ROOSTER\n0.CHICKEN\n0.DOG\n0.PIG\n" ++
  "0.BOAR\n0.ELEPHANT\n0.OCTOPUS\n0.SPIRAL SHELL\n0.BUG\n0.ANT\n0.HONEYBEE\n0.LADY BEETLE\n0.FISH\n" ++
  "0.TROPICAL FISH\n0.BLOWFISH\n0.TURTLE\n0.HATCHING CHICK\n0.BABY CHICK\n0.FRONT-FACING BABY CHICK\n" ++
  "0.BIRD\n0.PENGUIN\n0.KOALA\n0.POODLE\n0.DROMEDARY CAMEL\n0.BACTRIAN CAMEL\n0.DOLPHIN\n0.MOUSE FACE\n" ++
  "0.COW FACE\n0.TIGER FACE\n0.RABBIT FACE\n0.CAT FACE\n0.DRAGON FACE\n0.SPOUTING WHALE\n0.HORSE FACE\n" ++
  "0.MONKEY FACE\n0.DOG FACE\n0.PIG FACE\n0.FROG FACE\n0.HAMSTER FACE\n0.WOLF FACE\n0.BEAR FACE\n" ++
  "0.PANDA FACE\n1.IG NOSE\n1.AW PRINTS\n0.CHIPMUNK\n0.EYES\n3.\n1.AR\n0.NOSE\n0.MOUTH\n0.TONGUE\n" ++
  "0.WHITE UP POINTING BACKHAND INDEX\n6.DOWN POINTING BACKHAND INDEX\n6.LEFT POINTING BACKHAND INDEX\n" ++
  "6.RIGHT POINTING BACKHAND INDEX\n0.FISTED HAND SIGN\n0.WAVING HAND SIGN\n0.OK HAND SIGN\n0.THUMBS UP SIGN\n" ++
  "7.DOWN SIGN\n0.CLAPPING HANDS SIGN\n0.OPEN HANDS SIGN\n0.CROWN\n0.WOMANS HAT\n0.EYEGLASSES\n0.NECKTIE\n" ++
  "0.T-SHIRT\n0.JEANS\n0.DRESS\n0.KIMONO\n0.BIKINI\n0.WOMANS CLOTHES\n0.PURSE\n0.HANDBAG\n0.POUCH\n" ++
  "0.MANS SHOE\n0.ATHLETIC SHOE\n0.HIGH-HEELED SHOE\n0.WOMANS SANDAL\n7.BOOTS\n0.FOOTPRINTS\n0.BUST IN SILHOUETTE\n" ++
  "4.S IN SILHOUETTE\n1.OY\n0.GIRL\n0.MAN\n0.WOMAN\n0.FAMILY\n0.MAN AND WOMAN HOLDING HANDS\n0.TWO MEN HOLDING HANDS\n" ++
  "4.WOMEN HOLDING HANDS\n0.POLICE OFFICER\n0.WOMAN WITH BUNNY EARS\n0.BRIDE WITH VEIL\n0.PERSON WITH BLOND HAIR\n" ++
  "0.MAN WITH GUA PI MAO\n9.TURBAN\n0.OLDER MAN\n6.WOMAN\n0.BABY\n0.CONSTRUCTION WORKER\n0.PRINCESS\n" ++
  "0.JAPANESE OGRE\n9.GOBLIN\n0.GHOST\n0.BABY ANGEL\n0.EXTRATERRESTRIAL ALIEN\n0.ALIEN MONSTER\n" ++
  "0.IMP\n0.SKULL\n0.INFORMATION DESK PERSON\n0.GUARDSMAN\n0.DANCER\n0.LIPSTICK\n0.NAIL POLISH\n" ++
  "0.FACE MASSAGE\n0.HAIRCUT\n0.BARBER POLE\n0.SYRINGE\n0.PILL\n0.KISS MARK\n0.LOVE LETTER\n0.RING\n"

/-- Part 11 of `nameLines`. -/
def nameLinesPart11 : String :=
  "0.GEM STONE\n0.KISS\n0.BOUQUET\n0.COUPLE WITH HEART\n0.WEDDING\n0.BEATING HEART\n1.ROKEN HEART\n" ++
  "0.TWO HEARTS\n0.SPARKLING HEART\n0.GROWING HEART\n0.HEART WITH ARROW\n0.BLUE HEART\n0.GREEN HEART\n" ++
  "0.YELLOW HEART\n0.PURPLE HEART\n0.HEART WITH RIBBON\n0.REVOLVING HEARTS\n0.HEART DECORATION\n" ++
  "0.DIAMOND SHAPE WITH A DOT INSIDE\n0.ELECTRIC LIGHT BULB\n0.ANGER SYMBOL\n0.BOMB\n0.SLEEPING SYMBOL\n" ++
  "0.COLLISION SYMBOL\n0.SPLASHING SWEAT SYMBOL\n0.DROPLET\n1.ASH SYMBOL\n0.PILE OF POO\n0.FLEXED BICEPS\n" ++
  "0.DIZZY SYMBOL\n0.SPEECH BALLOON\n0.THOUGHT BALLOON\n0.WHITE FLOWER\n0.HUNDRED POINTS SYMBOL\n" ++
  "0.MONEY BAG\n0.CURRENCY EXCHANGE\n0.HEAVY DOLLAR SIGN\n0.CREDIT CARD\n0.BANKNOTE WITH YEN SIGN\n" ++
  "14.DOLLAR SIGN\n14.EURO SIGN\n14.POUND SIGN\n0.MONEY WITH WINGS\n0.CHART WITH UPWARDS TREND AND YEN SIGN\n" ++
  "0.SEAT\n0.PERSONAL COMPUTER\n0.BRIEFCASE\n0.MINIDISC\n0.FLOPPY DISK\n0.OPTICAL DISC\n0.DVD\n0.FILE FOLDER\n" ++
  "0.OPEN FILE FOLDER\n0.PAGE WITH CURL\n5.FACING UP\n0.CALENDAR\n0.TEAR-OFF CALENDAR\n0.CARD INDEX\n" ++
  "1.HART WITH UPWARDS TREND\n11.DOWNWARDS TREND\n0.BAR CHART\n0.CLIPBOARD\n0.PUSHPIN\n0.ROUND PUSHPIN\n" ++
  "0.PAPERCLIP\n0.STRAIGHT RULER\n0.TRIANGULAR RULER\n0.BOOKMARK TABS\n0.LEDGER\n0.NOTEBOOK\n8. WITH DECORATIVE COVER\n" ++
  "0.CLOSED BOOK\n0.OPEN BOOK\n0.GREEN BOOK\n0.BLUE BOOK\n0.ORANGE BOOK\n0.BOOKS\n0.NAME BADGE\n" ++
  "0.SCROLL\n0.MEMO\n0.TELEPHONE RECEIVER\n0.PAGER\n0.FAX MACHINE\n0.SATELLITE ANTENNA\n0.PUBLIC ADDRESS LOUDSPEAKER\n" ++
  "0.CHEERING MEGAPHONE\n0.OUTBOX TRAY\n0.INBOX TRAY\n0.PACKAGE\n0.E-MAIL SYMBOL\n0.INCOMING ENVELOPE\n" ++
  "0.ENVELOPE WITH DOWNWARDS ARROW ABOVE\n0.CLOSED MAILBOX WITH LOWERED FLAG\n20.RAISED FLAG\n0.OPEN MAILBOX WITH RAISED FLAG\n" ++
  "18.LOWERED FLAG\n0.POSTBOX\n4.AL HORN\n0.NEWSPAPER\n0.MOBILE PHONE\n12. WITH RIGHTWARDS ARROW AT LEFT\n" ++
  "0.VIBRATION MODE\n0.MOBILE PHONE OFF\n0.NO MOBILE PHONES\n0.ANTENNA WITH BARS\n0.CAMERA\n6. WITH FLASH\n" ++
  "0.VIDEO CAMERA\n0.TELEVISION\n0.RADIO\n0.VIDEOCASSETTE\n0.FILM PROJECTOR\n0.PORTABLE STEREO\n" ++
  "1.RAYER BEADS\n0.TWISTED RIGHTWARDS ARROWS\n0.CLOCKWISE RIGHTWARDS AND LEFTWARDS OPEN CIRCLE ARROWS\n" ++
  "53. WITH CIRCLED ONE OVERLAY\n10.DOWNWARDS AND UPWARDS OPEN CIRCLE ARROWS\n0.ANTICLOCKWISE DOWNWARDS AND UPWARDS OPEN CIRCLE ARROWS\n" ++
  "0.LOW BRIGHTNESS SYMBOL\n0.HIGH BRIGHTNESS SYMBOL\n0.SPEAKER WITH CANCELLATION STROKE\n7.\n7. WITH ONE SOUND WAVE\n" ++
  "13.THREE SOUND WAVES\n0.BATTERY\n0.ELECTRIC PLUG\n0.LEFT-POINTING MAGNIFYING GLASS\n0.RIGHT-POINTING MAGNIFYING GLASS\n" ++
  "0.LOCK WITH INK PEN\n0.CLOSED LOCK WITH KEY\n0.KEY\n0.LOCK\n0.OPEN LOCK\n0.BELL\n4. WITH CANCELLATION STROKE\n" ++
  "1.OOKMARK\n0.LINK SYMBOL\n0.RADIO BUTTON\n0.BACK WITH LEFTWARDS ARROW ABOVE\n0.END WITH LEFTWARDS ARROW ABOVE\n" ++
  "0.ON WITH EXCLAMATION MARK WITH LEFT RIGHT ARROW ABOVE\n0.SOON WITH RIGHTWARDS ARROW ABOVE\n0.TOP WITH UPWARDS ARROW ABOVE\n" ++
  "0.NO ONE UNDER EIGHTEEN SYMBOL\n0.KEYCAP TEN\n0.INPUT SYMBOL FOR LATIN CAPITAL LETTERS\n23.SMALL LETTERS\n" ++
  "17.NUMBERS\n17.SYMBOLS\n17.LATIN LETTERS\n0.FIRE\n0.ELECTRIC TORCH\n0.WRENCH\n0.HAMMER\n0.NUT AND BOLT\n" ++
  "0.HOCHO\n0.PISTOL\n0.MICROSCOPE\n0.TELESCOPE\n0.CRYSTAL BALL\n0.SIX POINTED STAR WITH MIDDLE DOT\n" ++
  "0.JAPANESE SYMBOL FOR BEGINNER\n0.TRIDENT EMBLEM\n0.BLACK SQUARE BUTTON\n0.WHITE SQUARE BUTTON\n" ++
  "0.LARGE RED CIRCLE\n6.BLUE CIRCLE\n6.ORANGE DIAMOND\n6.BLUE DIAMOND\n0.SMALL ORANGE DIAMOND\n" ++
  "6.BLUE DIAMOND\n0.UP-POINTING RED TRIANGLE\n0.DOWN-POINTING RED TRIANGLE\n0.UP-POINTING SMALL RED TRIANGLE\n" ++
  "0.DOWN-POINTING SMALL RED TRIANGLE\n0.LOWER RIGHT SHADOWED WHITE CIRCLE\n0.UPPER RIGHT SHADOWED WHITE CIRCLE\n" ++
  "0.CIRCLED CROSS POMMEE\n1.ROSS POMMEE WITH HALF-CIRCLE BELOW\n12.\n0.NOTCHED LEFT SEMICIRCLE WITH THREE DOTS\n" ++
  "8.RIGHT SEMICIRCLE WITH THREE DOTS\n0.SYMBOL FOR MARKS CHAPTER\n0.WHITE LATIN CROSS\n0.HEAVY LATIN CROSS\n" ++
  "0.CELTIC CROSS\n0.OM SYMBOL\n0.DOVE OF PEACE\n0.KAABA\n0.MOSQUE\n0.SYNAGOGUE\n0.MENORAH WITH NINE BRANCHES\n" ++
  "0.BOWL OF HYGIEIA\n0.CLOCK FACE ONE OCLOCK\n11.TWO OCLOCK\n12.HREE OCLOCK\n11.FOUR OCLOCK\n12.IVE OCLOCK\n" ++
  "11.SIX OCLOCK\n12.EVEN OCLOCK\n11.EIGHT OCLOCK\n11.NINE OCLOCK\n11.TEN OCLOCK\n11.ELEVEN OCLOCK\n" ++
  "11.TWELVE OCLOCK\n11.ONE-THIRTY\n11.TWO-THIRTY\n12.HREE-THIRTY\n11.FOUR-THIRTY\n12.IVE-THIRTY\n" ++
  "11.SIX-THIRTY\n12.EVEN-THIRTY\n11.EIGHT-THIRTY\n11.NINE-THIRTY\n11.TEN-THIRTY\n11.ELEVEN-THIRTY\n" ++
  "11.TWELVE-THIRTY\n0.RIGHT SPEAKER\n13. WITH ONE SOUND WAVE\n19.THREE SOUND WAVES\n0.BULLHORN\n" ++
  "8. WITH SOUND WAVES\n0.RINGING BELL\n0.BOOK\n0.CANDLE\n0.MANTELPIECE CLOCK\n0.BLACK SKULL AND CROSSBONES\n" ++
  "0.NO PIRACY\n0.HOLE\n0.MAN IN BUSINESS SUIT LEVITATING\n0.SLEUTH OR SPY\n0.DARK SUNGLASSES\n0.SPIDER\n" ++
  "6. WEB\n0.JOYSTICK\n0.MAN DANCING\n0.LEFT HAND TELEPHONE RECEIVER\n0.TELEPHONE RECEIVER WITH PAGE\n" ++
  "0.RIGHT HAND TELEPHONE RECEIVER\n0.WHITE TOUCHTONE TELEPHONE\n0.BLACK TOUCHTONE TELEPHONE\n0.TELEPHONE ON TOP OF MODEM\n" ++
  "0.CLAMSHELL MOBILE PHONE\n0.BACK OF ENVELOPE\n0.STAMPED ENVELOPE\n0.ENVELOPE WITH LIGHTNING\n" ++
  "0.FLYING ENVELOPE\n0.PEN OVER STAMPED ENVELOPE\n0.LINKED PAPERCLIPS\n0.BLACK PUSHPIN\n0.LOWER LEFT PENCIL\n" ++
  "11.BALLPOINT PEN\n11.FOUNTAIN PEN\n11.PAINTBRUSH\n11.CRAYON\n1.EFT WRITING HAND\n0.TURNED OK HAND SIGN\n" ++
  "0.RAISED HAND WITH FINGERS SPLAYED\n1.EVERSED RAISED HAND WITH FINGERS SPLAYED\n9.THUMBS UP SIGN\n" ++
  "16.DOWN SIGN\n9.VICTORY HAND\n9.HAND WITH MIDDLE FINGER EXTENDED\n1.AISED HAND WITH PART BETWEEN MIDDLE AND RING FINGERS\n" ++
  "0.WHITE DOWN POINTING LEFT HAND INDEX\n0.SIDEWAYS WHITE LEFT POINTING INDEX\n15.RIGHT POINTING INDEX\n" ++
  "9.BLACK LEFT POINTING INDEX\n15.RIGHT POINTING INDEX\n0.BLACK LEFT POINTING BACKHAND INDEX\n6.RIGHT POINTING BACKHAND INDEX\n" ++
  "0.SIDEWAYS WHITE UP POINTING INDEX\n15.DOWN POINTING INDEX\n9.BLACK UP POINTING INDEX\n15.DOWN POINTING INDEX\n" ++
  "0.BLACK UP POINTING BACKHAND INDEX\n6.DOWN POINTING BACKHAND INDEX\n6.HEART\n0.DESKTOP COMPUTER\n" ++
  "0.KEYBOARD AND MOUSE\n0.THREE NETWORKED COMPUTERS\n0.PRINTER\n1.OCKET CALCULATOR\n0.BLACK HARD SHELL FLOPPY DISK\n" ++
  "0.WHITE HARD SHELL FLOPPY DISK\n0.SOFT SHELL FLOPPY DISK\n0.TAPE CARTRIDGE\n0.WIRED KEYBOARD\n" ++
  "0.ONE BUTTON MOUSE\n0.TWO BUTTON MOUSE\n1.HREE BUTTON MOUSE\n1.RACKBALL\n0.OLD PERSONAL COMPUTER\n" ++
  "0.HARD DISK\n0.SCREEN\n0.PRINTER ICON\n0.FAX ICON\n0.OPTICAL DISC ICON\n0.DOCUMENT WITH TEXT\n" ++
  "18. AND PICTURE\n14.PICTURE\n0.FRAME WITH PICTURE\n11.TILES\n11.AN X\n0.BLACK FOLDER\n0.FOLDER\n" ++
  "0.OPEN FOLDER\n0.CARD INDEX DIVIDERS\n5.FILE BOX\n0.FILE CABINET\n0.EMPTY NOTE\n10. PAGE\n13.D\n" ++
  "0.NOTE\n4. PAGE\n7.D\n0.EMPTY DOCUMENT\n6.PAGE\n10.S\n0.DOCUMENT\n0.PAGE\n4.S\n0.WASTEBASKET\n" ++
  "0.SPIRAL NOTE PAD\n7.CALENDAR PAD\n0.DESKTOP WINDOW\n0.MINIMIZE\n1.AXIMIZE\n0.OVERLAP\n0.CLOCKWISE RIGHT AND LEFT SEMICIRCLE ARROWS\n" ++
  "1.ANCELLATION X\n0.INCREASE FONT SIZE SYMBOL\n0.DECREASE FONT SIZE SYMBOL\n0.COMPRESSION\n0.OLD KEY\n" ++
  "0.ROLLED-UP NEWSPAPER\n0.PAGE WITH CIRCLED TEXT\n0.STOCK CHART\n0.DAGGER KNIFE\n0.LIPS\n0.SPEAKING HEAD IN SILHOUETTE\n" ++
  "0.THREE RAYS ABOVE\n11.BELOW\n11.LEFT\n11.RIGHT\n0.LEFT SPEECH BUBBLE\n0.RIGHT SPEECH BUBBLE\n" ++
  "0.TWO SPEECH BUBBLES\n1.HREE SPEECH BUBBLES\n0.LEFT THOUGHT BUBBLE\n0.RIGHT THOUGHT BUBBLE\n0.LEFT ANGER BUBBLE\n" ++
  "0.RIGHT ANGER BUBBLE\n0.MOOD BUBBLE\n0.LIGHTNING MOOD BUBBLE\n14.\n0.BALLOT BOX WITH BALLOT\n" ++
  "7.SCRIPT X\n7.BOX WITH SCRIPT X\n9.LD SCRIPT X\n9.X WITH BOLD SCRIPT X\n0.LIGHT CHECK MARK\n0.BALLOT BOX WITH BOLD CHECK\n" ++
  "0.WORLD MAP\n0.MOUNT FUJI\n0.TOKYO TOWER\n0.STATUE OF LIBERTY\n1.ILHOUETTE OF JAPAN\n0.MOYAI\n" ++
  "0.GRINNING FACE\n13. WITH SMILING EYES\n0.FACE WITH TEARS OF JOY\n0.SMILING FACE WITH OPEN MOUTH\n" ++
  "28. AND SMILING EYES\n33.COLD SWEAT\n33.TIGHTLY-CLOSED EYES\n18.HALO\n19.ORNS\n0.WINKING FACE\n" ++
  "0.SMILING FACE WITH SMILING EYES\n0.FACE SAVOURING DELICIOUS FOOD\n0.RELIEVED FACE\n0.SMILING FACE WITH HEART-SHAPED EYES\n" ++
  "18.SUNGLASSES\n3.RKING FACE\n0.NEUTRAL FACE\n0.EXPRESSIONLESS FACE\n0.UNAMUSED FACE\n0.FACE WITH COLD SWEAT\n" ++
  "0.PENSIVE FACE\n0.CONFUSED FACE\n4.OUNDED FACE\n0.KISSING FACE\n0.FACE THROWING A KISS\n0.KISSING FACE WITH SMILING EYES\n" ++
  "18.CLOSED EYES\n0.FACE WITH STUCK-OUT TONGUE\n26. AND WINKING EYE\n31.TIGHTLY-CLOSED EYES\n0.DISAPPOINTED FACE\n" ++
  "0.WORRIED FACE\n0.ANGRY FACE\n0.POUTING FACE\n0.CRYING FACE\n0.PERSEVERING FACE\n0.FACE WITH LOOK OF TRIUMPH\n" ++
  "0.DISAPPOINTED BUT RELIEVED FACE\n0.FROWNING FACE WITH OPEN MOUTH\n0.ANGUISHED FACE\n0.FEARFUL FACE\n" ++
  "0.WEARY FACE\n0.SLEEPY FACE\n0.TIRED FACE\n0.GRIMACING FACE\n0.LOUDLY CRYING FACE\n0.FACE WITH OPEN MOUTH\n" ++
  "0.HUSHED FACE\n0.FACE WITH OPEN MOUTH AND COLD SWEAT\n5.SCREAMING IN FEAR\n0.ASTONISHED FACE\n" ++
  "0.FLUSHED FACE\n0.SLEEPING FACE\n0.DIZZY FACE\n0.FACE WITHOUT MOUTH\n9. MEDICAL MASK\n0.GRINNING CAT FACE WITH SMILING EYES\n" ++
  "0.CAT FACE WITH TEARS OF JOY\n0.SMILING CAT FACE WITH OPEN MOUTH\n22.HEART-SHAPED EYES\n0.CAT FACE WITH WRY SMILE\n" ++
  "0.KISSING CAT FACE WITH CLOSED EYES\n0.POUTING CAT FACE\n0.CRYING CAT FACE\n0.WEARY CAT FACE\n" ++
  "0.SLIGHTLY FROWNING FACE\n9.SMILING FACE\n0.UPSIDE-DOWN FACE\n0.FACE WITH ROLLING EYES\n10.NO GOOD GESTURE\n" ++
  "10.OK GESTURE\n0.PERSON BOWING DEEPLY\n0.SEE-NO-EVIL MONKEY\n0.HEAR-NO-EVIL MONKEY\n0.SPEAK-NO-EVIL MONKEY\n" ++
  "0.HAPPY PERSON RAISING ONE HAND\n0.PERSON RAISING BOTH HANDS IN CELEBRATION\n7.FROWNING\n7.WITH POUTING FACE\n" ++
  "12.FOLDED HANDS\n0.NORTH WEST POINTING LEAF\n0.SOUTH WEST POINTING LEAF\n0.NORTH EAST POINTING LEAF\n" ++
  "0.SOUTH EAST POINTING LEAF\n0.TURNED NORTH WEST POINTING LEAF\n7.SOUTH WEST POINTING LEAF\n7.NORTH EAST POINTING LEAF\n" ++
  "7.SOUTH EAST POINTING LEAF\n0.NORTH WEST POINTING VINE LEAF\n0.SOUTH WEST POINTING VINE LEAF\n" ++
  "0.NORTH EAST POINTING VINE LEAF\n0.SOUTH EAST POINTING VINE LEAF\n0.HEAVY NORTH WEST POINTING VINE LEAF\n" ++
  "6.SOUTH WEST POINTING VINE LEAF\n6.NORTH EAST POINTING VINE LEAF\n6.SOUTH EAST POINTING VINE LEAF\n" ++
  "0.NORTH WEST POINTING BUD\n0.SOUTH WEST POINTING BUD\n0.NORTH EAST POINTING BUD\n0.SOUTH EAST POINTING BUD\n" ++
  "0.HEAVY NORTH WEST POINTING BUD\n6.SOUTH WEST POINTING BUD\n6.NORTH EAST POINTING BUD\n6.SOUTH EAST POINTING BUD\n" ++
  "1.OLLOW QUILT SQUARE ORNAMENT\n28. IN BLACK SQUARE\n0.SOLID QUILT SQUARE ORNAMENT\n27. IN BLACK SQUARE\n" ++
  "0.LEFTWARDS ROCKET\n0.UPWARDS ROCKET\n0.RIGHTWARDS ROCKET\n0.DOWNWARDS ROCKET\n0.SCRIPT LIGATURE ET ORNAMENT\n" ++
  "0.HEAVY SCRIPT LIGATURE ET ORNAMENT\n0.LIGATURE OPEN ET ORNAMENT\n0.HEAVY LIGATURE OPEN ET ORNAMENT\n" ++
  "6.AMPERSAND ORNAMENT\n0.SWASH AMPERSAND ORNAMENT\n1.ANS-SERIF HEAVY DOUBLE TURNED COMMA QUOTATION MARK ORNAMENT\n" ++
  "24.COMMA QUOTATION MARK ORNAMENT\n17.LOW DOUBLE COMMA QUOTATION MARK ORNAMENT\n0.HEAVY INTERROBANG ORNAMENT\n" ++
  "0.SANS-SERIF INTERROBANG ORNAMENT\n0.HEAVY SANS-SERIF INTERROBANG ORNAMENT\n0.VERY HEAVY SOLIDUS\n" ++
  "11.REVERSE SOLIDUS\n0.CHECKER BOARD\n0.REVERSE CHECKER BOARD\n1.OCKET\n0.HELICOPTER\n0.STEAM LOCOMOTIVE\n" ++
  "0.RAILWAY CAR\n0.HIGH-SPEED TRAIN\n16. WITH BULLET NOSE\n0.TRAIN\n0.METRO\n0.LIGHT RAIL\n0.STATION\n" ++
  "0.TRAM\n4. CAR\n0.BUS\n0.ONCOMING BUS\n0.TROLLEYBUS\n0.BUS STOP\n0.MINIBUS\n0.AMBULANCE\n0.FIRE ENGINE\n" ++
  "0.POLICE CAR\n0.ONCOMING POLICE CAR\n0.TAXI\n0.ONCOMING TAXI\n0.AUTOMOBILE\n0.ONCOMING AUTOMOBILE\n" ++
  "0.RECREATIONAL VEHICLE\n0.DELIVERY TRUCK\n0.ARTICULATED LORRY\n0.TRACTOR\n0.MONORAIL\n2.UNTAIN RAILWAY\n" ++
  "0.SUSPENSION RAILWAY\n0.MOUNTAIN CABLEWAY\n0.AERIAL TRAMWAY\n0.SHIP\n0.ROWBOAT\n0.SPEEDBOAT\n" ++
  "0.HORIZONTAL TRAFFIC LIGHT\n0.VERTICAL TRAFFIC LIGHT\n0.CONSTRUCTION SIGN\n0.POLICE CARS REVOLVING LIGHT\n" ++
  "0.TRIANGULAR FLAG ON POST\n0.DOOR\n0.NO ENTRY SIGN\n0.SMOKING SYMBOL\n0.NO SMOKING SYMBOL\n0.PUT LITTER IN ITS PLACE SYMBOL\n" ++
  "0.DO NOT LITTER SYMBOL\n0.POTABLE WATER SYMBOL\n0.NON-POTABLE WATER SYMBOL\n0.BICYCLE\n0.NO BICYCLES\n" ++
  "0.BICYCLIST\n0.MOUNTAIN BICYCLIST\n0.PEDESTRIAN\n0.NO PEDESTRIANS\n0.CHILDREN CROSSING\n0.MENS SYMBOL\n" ++
  "0.WOMENS SYMBOL\n0.RESTROOM\n0.BABY SYMBOL\n0.TOILET\n0.WATER CLOSET\n0.SHOWER\n0.BATH\n4.TUB\n" ++
  "0.PASSPORT CONTROL\n0.CUSTOMS\n0.BAGGAGE CLAIM\n0.LEFT LUGGAGE\n0.TRIANGLE WITH ROUNDED CORNERS\n" ++
  "0.PROHIBITED SIGN\n0.CIRCLED INFORMATION SOURCE\n0.BOYS SYMBOL\n0.GIRLS SYMBOL\n0.COUCH AND LAMP\n" ++
  "0.SLEEPING ACCOMMODATION\n1.HOPPING BAGS\n0.BELLHOP BELL\n2.D\n0.PLACE OF WORSHIP\n0.OCTAGONAL SIGN\n" ++
  "0.SHOPPING TROLLEY\n1.TUPA\n0.PAGODA\n0.HINDU TEMPLE\n1.UT\n0.ELEVATOR\n1F6DD:0.PLAYGROUND SLIDE\n" ++
  "0.WHEEL\n0.RING BUOY\n0.HAMMER AND WRENCH\n0.SHIELD\n0.OIL DRUM\n0.MOTORWAY\n0.RAILWAY TRACK\n" ++
  "0.MOTOR BOAT\n0.UP-POINTING MILITARY AIRPLANE\n12.AIRPLANE\n12.SMALL AIRPLANE\n0.SMALL AIRPLANE\n" ++
  "0.NORTHEAST-POINTING AIRPLANE\n0.AIRPLANE DEPARTURE\n9.ARRIVING\n1F6F0:0.SATELLITE\n0.ONCOMING FIRE ENGINE\n" ++
  "0.DIESEL LOCOMOTIVE\n0.PASSENGER SHIP\n0.SCOOTER\n0.MOTOR SCOOTER\n0.CANOE\n0.SLED\n0.FLYING SAUCER\n" ++
  "0.SKATEBOARD\n0.AUTO RICKSHAW\n0.PICKUP TRUCK\n0.ROLLER SKATE\n1F700:0.ALCHEMICAL SYMBOL FOR QUINTESSENCE\n" ++
  "22.AIR\n22.FIRE\n22.EARTH\n22.WATER\n22.AQUAFORTIS\n26. REGIA\n32.-2\n27.VITAE\n32.-2\n22.VINEGAR\n" ++
  "29.-2\n30.3\n22.SULFUR\n22.PHILOSOPHERS SULFUR\n22.BLACK SULFUR\n22.MERCURY SUBLIMATE\n39.-2\n" ++
  "40.3\n22.CINNABAR\n22.SALT\n22.NITRE\n22.VITRIOL\n29.-2\n22.ROCK SALT\n31.-2\n22.GOLD\n22.SILVER\n" ++
  "22.IRON ORE\n30.-2\n22.CROCUS OF IRON\n22.REGULUS OF IRON\n22.COPPER ORE\n22.IRON-COPPER ORE\n" ++
  "22.SUBLIMATE OF COPPER\n22.CROCUS OF COPPER\n38.-2\n23.OPPER ANTIMONIATE\n22.SALT OF COPPER ANTIMONIATE\n" ++
  "23.UBLIMATE OF SALT OF COPPER\n22.VERDIGRIS\n22.TIN ORE\n22.LEAD ORE\n22.ANTIMONY ORE\n22.SUBLIMATE OF ANTIMONY\n" ++
  "23.ALT OF ANTIMONY\n23.UBLIMATE OF SALT OF ANTIMONY\n22.VINEGAR OF ANTIMONY\n22.REGULUS OF ANTIMONY\n" ++
  "41.-2\n29.\n29.-2\n30.3\n30.4\n22.ALKALI\n28.-2\n22.MARCASITE\n22.SAL-AMMONIAC\n22.ARSENIC\n22.REALGAR\n" ++
  "29.-2\n22.AURIPIGMENT\n22.BISMUTH ORE\n22.TARTAR\n28.-2\n22.QUICK LIME\n22.BORAX\n27.-2\n28.3\n" ++
  "22.ALUM\n22.OIL\n22.SPIRIT\n22.TINCTURE\n22.GUM\n22.WAX\n22.POWDER\n22.CALX\n22.TUTTY\n22.CAPUT MORTUUM\n" ++
  "22.SCEPTER OF JOVE\n22.CADUCEUS\n22.TRIDENT\n22.STARRED TRIDENT\n22.LODESTONE\n22.SOAP\n22.URINE\n" ++
  "22.HORSE DUNG\n22.ASHES\n22.POT ASHES\n22.BRICK\n22.POWDERED BRICK\n22.AMALGAM\n22.STRATUM SUPER STRATUM\n" ++
  "43.-2\n23.UBLIMATION\n22.PRECIPITATE\n22.DISTILL\n25.SOLVE\n30.-2\n22.PURIFY\n24.TREFACTION\n" ++
  "22.CRUCIBLE\n30.-2\n31.3\n31.4\n31.5\n22.ALEMBIC\n22.BATH OF MARY\n30.VAPOURS\n22.RETORT\n22.HOUR\n" ++
  "22.NIGHT\n22.DAY-NIGHT\n22.MONTH\n22.HALF DRAM\n27.OUNCE\n1F780:0.BLACK LEFT-POINTING ISOSCELES RIGHT TRIANGLE\n" ++
  "6.UP-POINTING ISOSCELES RIGHT TRIANGLE\n6.RIGHT-POINTING ISOSCELES RIGHT TRIANGLE\n6.DOWN-POINTING ISOSCELES RIGHT TRIANGLE\n" ++
  "6.SLIGHTLY SMALL CIRCLE\n0.MEDIUM BOLD WHITE CIRCLE\n0.BOLD WHITE CIRCLE\n0.HEAVY WHITE CIRCLE\n" ++
  "0.VERY HEAVY WHITE CIRCLE\n0.EXTREMELY HEAVY WHITE CIRCLE\n0.WHITE CIRCLE CONTAINING BLACK SMALL CIRCLE\n" ++
  "0.ROUND TARGET\n0.BLACK TINY SQUARE\n6.SLIGHTLY SMALL SQUARE\n0.LIGHT WHITE SQUARE\n0.MEDIUM WHITE SQUARE\n" ++
  "0.BOLD WHITE SQUARE\n0.HEAVY WHITE SQUARE\n0.VERY HEAVY WHITE SQUARE\n0.EXTREMELY HEAVY WHITE SQUARE\n" ++
  "0.WHITE SQUARE CONTAINING BLACK VERY SMALL SQUARE\n30.MEDIUM SQUARE\n0.SQUARE TARGET\n0.BLACK TINY DIAMOND\n" ++
  "6.VERY SMALL DIAMOND\n6.MEDIUM SMALL DIAMOND\n0.WHITE DIAMOND CONTAINING BLACK VERY SMALL DIAMOND\n" ++
  "31.MEDIUM DIAMOND\n0.DIAMOND TARGET\n0.BLACK TINY LOZENGE\n6.VERY SMALL LOZENGE\n6.MEDIUM SMALL LOZENGE\n" ++
  "0.WHITE LOZENGE CONTAINING BLACK SMALL LOZENGE\n0.THIN GREEK CROSS\n0.LIGHT GREEK CROSS\n0.MEDIUM GREEK CROSS\n" ++
  "0.BOLD GREEK CROSS\n0.VERY BOLD GREEK CROSS\n5.HEAVY GREEK CROSS\n0.EXTREMELY HEAVY GREEK CROSS\n" ++
  "0.THIN SALTIRE\n0.LIGHT SALTIRE\n0.MEDIUM SALTIRE\n0.BOLD SALTIRE\n0.HEAVY SALTIRE\n0.VERY HEAVY SALTIRE\n" ++
  "0.EXTREMELY HEAVY SALTIRE\n0.LIGHT FIVE SPOKED ASTERISK\n0.MEDIUM FIVE SPOKED ASTERISK\n0.BOLD FIVE SPOKED ASTERISK\n" ++
  "0.HEAVY FIVE SPOKED ASTERISK\n0.VERY HEAVY FIVE SPOKED ASTERISK\n0.EXTREMELY HEAVY FIVE SPOKED ASTERISK\n" ++
  "0.LIGHT SIX SPOKED ASTERISK\n0.MEDIUM SIX SPOKED ASTERISK\n0.BOLD SIX SPOKED ASTERISK\n0.HEAVY SIX SPOKED ASTERISK\n" ++
  "0.VERY HEAVY SIX SPOKED ASTERISK\n0.EXTREMELY HEAVY SIX SPOKED ASTERISK\n0.LIGHT EIGHT SPOKED ASTERISK\n" ++
  "0.MEDIUM EIGHT SPOKED ASTERISK\n0.BOLD EIGHT SPOKED ASTERISK\n0.HEAVY EIGHT SPOKED ASTERISK\n" ++
  "0.VERY HEAVY EIGHT SPOKED ASTERISK\n0.LIGHT THREE POINTED BLACK STAR\n0.MEDIUM THREE POINTED BLACK STAR\n" ++
  "0.THREE POINTED BLACK STAR\n0.MEDIUM THREE POINTED PINWHEEL STAR\n0.LIGHT FOUR POINTED BLACK STAR\n" ++
  "0.MEDIUM FOUR POINTED BLACK STAR\n0.FOUR POINTED BLACK STAR\n0.MEDIUM FOUR POINTED PINWHEEL STAR\n" ++
  "0.REVERSE LIGHT FOUR POINTED PINWHEEL STAR\n0.LIGHT FIVE POINTED BLACK STAR\n0.HEAVY FIVE POINTED BLACK STAR\n" ++
  "0.MEDIUM SIX POINTED BLACK STAR\n0.HEAVY SIX POINTED BLACK STAR\n0.SIX POINTED PINWHEEL STAR\n" ++
  "0.MEDIUM EIGHT POINTED BLACK STAR\n0.HEAVY EIGHT POINTED BLACK STAR\n0.VERY HEAVY EIGHT POINTED BLACK STAR\n" ++
  "0.HEAVY EIGHT POINTED PINWHEEL STAR\n0.LIGHT TWELVE POINTED BLACK STAR\n0.HEAVY TWELVE POINTED BLACK STAR\n" ++
  "21.PINWHEEL STAR\n0.CIRCLED TRIANGLE\n0.NEGATIVE CIRCLED TRIANGLE\n0.CIRCLED SQUARE\n0.NEGATIVE CIRCLED SQUARE\n" ++
  "1F7E0:0.LARGE ORANGE CIRCLE\n6.YELLOW CIRCLE\n6.GREEN CIRCLE\n6.PURPLE CIRCLE\n6.BROWN CIRCLE\n" ++
  "6.RED SQUARE\n6.BLUE SQUARE\n6.ORANGE SQUARE\n6.YELLOW SQUARE\n6.GREEN SQUARE\n6.PURPLE SQUARE\n" ++
  "6.BROWN SQUARE\n1F7F0:0.HEAVY EQUALS SIGN\n1F800:0.LEFTWARDS ARROW WITH SMALL TRIANGLE ARROWHEAD\n" ++
  "0.UPWARDS ARROW WITH SMALL TRIANGLE ARROWHEAD\n0.RIGHTWARDS ARROW WITH SMALL TRIANGLE ARROWHEAD\n" ++
  "0.DOWNWARDS ARROW WITH SMALL TRIANGLE ARROWHEAD\n0.LEFTWARDS ARROW WITH MEDIUM TRIANGLE ARROWHEAD\n" ++
  "0.UPWARDS ARROW WITH MEDIUM TRIANGLE ARROWHEAD\n0.RIGHTWARDS ARROW WITH MEDIUM TRIANGLE ARROWHEAD\n" ++
  "0.DOWNWARDS ARROW WITH MEDIUM TRIANGLE ARROWHEAD\n0.LEFTWARDS ARROW WITH LARGE TRIANGLE ARROWHEAD\n" ++
  "0.UPWARDS ARROW WITH LARGE TRIANGLE ARROWHEAD\n0.RIGHTWARDS ARROW WITH LARGE TRIANGLE ARROWHEAD\n" ++
  "0.DOWNWARDS ARROW WITH LARGE TRIANGLE ARROWHEAD\n1F810:0.LEFTWARDS ARROW WITH SMALL EQUILATERAL ARROWHEAD\n" ++
  "0.UPWARDS ARROW WITH SMALL EQUILATERAL ARROWHEAD\n0.RIGHTWARDS ARROW WITH SMALL EQUILATERAL ARROWHEAD\n" ++
  "0.DOWNWARDS ARROW WITH SMALL EQUILATERAL ARROWHEAD\n0.LEFTWARDS ARROW WITH EQUILATERAL ARROWHEAD\n" ++
  "0.UPWARDS ARROW WITH EQUILATERAL ARROWHEAD\n0.RIGHTWARDS ARROW WITH EQUILATERAL ARROWHEAD\n0.DOWNWARDS ARROW WITH EQUILATERAL ARROWHEAD\n" ++
  "0.HEAVY LEFTWARDS ARROW WITH EQUILATERAL ARROWHEAD\n6.UPWARDS ARROW WITH EQUILATERAL ARROWHEAD\n" ++
  "6.RIGHTWARDS ARROW WITH EQUILATERAL ARROWHEAD\n6.DOWNWARDS ARROW WITH EQUILATERAL ARROWHEAD\n" ++
  "6.LEFTWARDS ARROW WITH LARGE EQUILATERAL ARROWHEAD\n6.UPWARDS ARROW WITH LARGE EQUILATERAL ARROWHEAD\n" ++
  "6.RIGHTWARDS ARROW WITH LARGE EQUILATERAL ARROWHEAD\n6.DOWNWARDS ARROW WITH LARGE EQUILATERAL ARROWHEAD\n" ++
  "0.LEFTWARDS TRIANGLE-HEADED ARROW WITH NARROW SHAFT\n0.UPWARDS TRIANGLE-HEADED ARROW WITH NARROW SHAFT\n" ++
  "0.RIGHTWARDS TRIANGLE-HEADED ARROW WITH NARROW SHAFT\n0.DOWNWARDS TRIANGLE-HEADED ARROW WITH NARROW SHAFT\n" ++
  "0.LEFTWARDS TRIANGLE-HEADED ARROW WITH MEDIUM SHAFT\n0.UPWARDS TRIANGLE-HEADED ARROW WITH MEDIUM SHAFT\n" ++
  "0.RIGHTWARDS TRIANGLE-HEADED ARROW WITH MEDIUM SHAFT\n0.DOWNWARDS TRIANGLE-HEADED ARROW WITH MEDIUM SHAFT\n" ++
  "0.LEFTWARDS TRIANGLE-HEADED ARROW WITH BOLD SHAFT\n0.UPWARDS TRIANGLE-HEADED ARROW WITH BOLD SHAFT\n" ++
  "0.RIGHTWARDS TRIANGLE-HEADED ARROW WITH BOLD SHAFT\n0.DOWNWARDS TRIANGLE-HEADED ARROW WITH BOLD SHAFT\n" ++
  "0.LEFTWARDS TRIANGLE-HEADED ARROW WITH HEAVY SHAFT\n0.UPWARDS TRIANGLE-HEADED ARROW WITH HEAVY SHAFT\n" ++
  "0.RIGHTWARDS TRIANGLE-HEADED ARROW WITH HEAVY SHAFT\n0.DOWNWARDS TRIANGLE-HEADED ARROW WITH HEAVY SHAFT\n" ++
  "0.LEFTWARDS TRIANGLE-HEADED ARROW WITH VERY HEAVY SHAFT\n0.UPWARDS TRIANGLE-HEADED ARROW WITH VERY HEAVY SHAFT\n" ++
  "0.RIGHTWARDS TRIANGLE-HEADED ARROW WITH VERY HEAVY SHAFT\n0.DOWNWARDS TRIANGLE-HEADED ARROW WITH VERY HEAVY SHAFT\n" ++
  "0.LEFTWARDS FINGER-POST ARROW\n0.UPWARDS FINGER-POST ARROW\n0.RIGHTWARDS FINGER-POST ARROW\n0.DOWNWARDS FINGER-POST ARROW\n" ++
  "0.LEFTWARDS SQUARED ARROW\n0.UPWARDS SQUARED ARROW\n0.RIGHTWARDS SQUARED ARROW\n0.DOWNWARDS SQUARED ARROW\n" ++
  "0.LEFTWARDS COMPRESSED ARROW\n0.UPWARDS COMPRESSED ARROW\n0.RIGHTWARDS COMPRESSED ARROW\n0.DOWNWARDS COMPRESSED ARROW\n" ++
  "0.LEFTWARDS HEAVY COMPRESSED ARROW\n0.UPWARDS HEAVY COMPRESSED ARROW\n0.RIGHTWARDS HEAVY COMPRESSED ARROW\n" ++
  "0.DOWNWARDS HEAVY COMPRESSED ARROW\n0.LEFTWARDS HEAVY ARROW\n0.UPWARDS HEAVY ARROW\n0.RIGHTWARDS HEAVY ARROW\n" ++
  "0.DOWNWARDS HEAVY ARROW\n1F850:0.LEFTWARDS SANS-SERIF ARROW\n0.UPWARDS SANS-SERIF ARROW\n0.RIGHTWARDS SANS-SERIF ARROW\n" ++
  "0.DOWNWARDS SANS-SERIF ARROW\n0.NORTH WEST SANS-SERIF ARROW\n6.EAST SANS-SERIF ARROW\n0.SOUTH EAST SANS-SERIF ARROW\n" ++
  "6.WEST SANS-SERIF ARROW\n0.LEFT RIGHT SANS-SERIF ARROW\n0.UP DOWN SANS-SERIF ARROW\n1F860:0.WIDE-HEADED LEFTWARDS LIGHT BARB ARROW\n" ++
  "12.UPWARDS LIGHT BARB ARROW\n12.RIGHTWARDS LIGHT BARB ARROW\n12.DOWNWARDS LIGHT BARB ARROW\n12.NORTH WEST LIGHT BARB ARROW\n" ++
  "18.EAST LIGHT BARB ARROW\n12.SOUTH EAST LIGHT BARB ARROW\n18.WEST LIGHT BARB ARROW\n12.LEFTWARDS BARB ARROW\n" ++
  "12.UPWARDS BARB ARROW\n12.RIGHTWARDS BARB ARROW\n12.DOWNWARDS BARB ARROW\n12.NORTH WEST BARB ARROW\n" ++
  "18.EAST BARB ARROW\n12.SOUTH EAST BARB ARROW\n18.WEST BARB ARROW\n12.LEFTWARDS MEDIUM BARB ARROW\n" ++
  "12.UPWARDS MEDIUM BARB ARROW\n12.RIGHTWARDS MEDIUM BARB ARROW\n12.DOWNWARDS MEDIUM BARB ARROW\n" ++
  "12.NORTH WEST MEDIUM BARB ARROW\n18.EAST MEDIUM BARB ARROW\n12.SOUTH EAST MEDIUM BARB ARROW\n" ++
  "18.WEST MEDIUM BARB ARROW\n12.LEFTWARDS HEAVY BARB ARROW\n12.UPWARDS HEAVY BARB ARROW\n12.RIGHTWARDS HEAVY BARB ARROW\n" ++
  "12.DOWNWARDS HEAVY BARB ARROW\n12.NORTH WEST HEAVY BARB ARROW\n18.EAST HEAVY BARB ARROW\n12.SOUTH EAST HEAVY BARB ARROW\n" ++
  "18.WEST HEAVY BARB ARROW\n12.LEFTWARDS VERY HEAVY BARB ARROW\n12.UPWARDS VERY HEAVY BARB ARROW\n" ++
  "12.RIGHTWARDS VERY HEAVY BARB ARROW\n12.DOWNWARDS VERY HEAVY BARB ARROW\n12.NORTH WEST VERY HEAVY BARB ARROW\n" ++
  "18.EAST VERY HEAVY BARB ARROW\n12.SOUTH EAST VERY HEAVY BARB ARROW\n18.WEST VERY HEAVY BARB ARROW\n" ++
  "1F890:0.LEFTWARDS TRIANGLE ARROWHEAD\n0.UPWARDS TRIANGLE ARROWHEAD\n0.RIGHTWARDS TRIANGLE ARROWHEAD\n" ++
  "0.DOWNWARDS TRIANGLE ARROWHEAD\n0.LEFTWARDS WHITE ARROW WITHIN TRIANGLE ARROWHEAD\n0.UPWARDS WHITE ARROW WITHIN TRIANGLE ARROWHEAD\n" ++
  "0.RIGHTWARDS WHITE ARROW WITHIN TRIANGLE ARROWHEAD\n0.DOWNWARDS WHITE ARROW WITHIN TRIANGLE ARROWHEAD\n" ++
  "0.LEFTWARDS ARROW WITH NOTCHED TAIL\n0.UPWARDS ARROW WITH NOTCHED TAIL\n0.RIGHTWARDS ARROW WITH NOTCHED TAIL\n" ++
  "0.DOWNWARDS ARROW WITH NOTCHED TAIL\n0.HEAVY ARROW SHAFT WIDTH ONE\n24.TWO THIRDS\n24.ONE HALF\n" ++
  "28.THIRD\n0.LEFTWARDS BOTTOM-SHADED WHITE ARROW\n0.RIGHTWARDS BOTTOM SHADED WHITE ARROW\n0.LEFTWARDS TOP SHADED WHITE ARROW\n" ++
  "0.RIGHTWARDS TOP SHADED WHITE ARROW\n0.LEFTWARDS LEFT-SHADED WHITE ARROW\n0.RIGHTWARDS RIGHT-SHADED WHITE ARROW\n" ++
  "0.LEFTWARDS RIGHT-SHADED WHITE ARROW\n0.RIGHTWARDS LEFT-SHADED WHITE ARROW\n0.LEFTWARDS BACK-TILTED SHADOWED WHITE ARROW\n" ++
  "0.RIGHTWARDS BACK-TILTED SHADOWED WHITE ARROW\n0.LEFTWARDS FRONT-TILTED SHADOWED WHITE ARROW\n" ++
  "0.RIGHTWARDS FRONT-TILTED SHADOWED WHITE ARROW\n0.WHITE ARROW SHAFT WIDTH ONE\n24.TWO THIRDS\n" ++
  "1F8B0:0.ARROW POINTING UPWARDS THEN NORTH WEST\n15.RIGHTWARDS THEN CURVING SOUTH WEST\n1F900:0.CIRCLED CROSS FORMEE WITH FOUR DOTS\n" ++
  "26.TWO DOTS\n20.\n0.LEFT HALF CIRCLE WITH FOUR DOTS\n22.THREE DOTS\n23.WO DOTS\n22.DOT\n16.\n" ++
  "0.DOWNWARD FACING HOOK\n16.NOTCHED HOOK\n16.HOOK WITH DOT\n16.NOTCHED HOOK WITH DOT\n0.PINCHED FINGERS\n" ++
  "0.WHITE HEART\n0.BROWN HEART\n0.PINCHING HAND\n0.ZIPPER-MOUTH FACE\n0.MONEY-MOUTH FACE\n0.FACE WITH THERMOMETER\n" ++
  "0.NERD FACE\n0.THINKING FACE\n0.FACE WITH HEAD-BANDAGE\n0.ROBOT FACE\n0.HUGGING FACE\n0.SIGN OF THE HORNS\n" ++
  "0.CALL ME HAND\n0.RAISED BACK OF HAND\n0.LEFT-FACING FIST\n0.RIGHT-FACING FIST\n0.HANDSHAKE\n" ++
  "4. WITH INDEX AND MIDDLE FINGERS CROSSED\n0.I LOVE YOU HAND SIGN\n0.FACE WITH COWBOY HAT\n0.CLOWN FACE\n" ++
  "0.NAUSEATED FACE\n0.ROLLING ON THE FLOOR LAUGHING\n0.DROOLING FACE\n0.LYING FACE\n0.FACE PALM\n" ++
  "0.SNEEZING FACE\n0.FACE WITH ONE EYEBROW RAISED\n0.GRINNING FACE WITH STAR EYES\n19.ONE LARGE AND ONE SMALL EYE\n" ++
  "0.FACE WITH FINGER COVERING CLOSED LIPS\n0.SERIOUS FACE WITH SYMBOLS COVERING MOUTH\n1.MILING FACE WITH SMILING EYES AND HAND COVERING MOUTH\n" ++
  "0.FACE WITH OPEN MOUTH VOMITING\n0.SHOCKED FACE WITH EXPLODING HEAD\n0.PREGNANT WOMAN\n0.BREAST-FEEDING\n" ++
  "0.PALMS UP TOGETHER\n0.SELFIE\n0.PRINCE\n0.MAN IN TUXEDO\n1.OTHER CHRISTMAS\n0.SHRUG\n0.PERSON DOING CARTWHEEL\n" ++
  "0.JUGGLING\n0.FENCER\n0.MODERN PENTATHLON\n0.WRESTLERS\n1.ATER POLO\n0.HANDBALL\n0.DIVING MASK\n" ++
  "0.WILTED FLOWER\n0.DRUM WITH DRUMSTICKS\n0.CLINKING GLASSES\n0.TUMBLER GLASS\n0.SPOON\n0.GOAL NET\n" ++
  "0.RIFLE\n0.FIRST PLACE MEDAL\n0.SECOND PLACE MEDAL\n0.THIRD PLACE MEDAL\n0.BOXING GLOVE\n0.MARTIAL ARTS UNIFORM\n" ++
  "0.CURLING STONE\n0.LACROSSE STICK AND BALL\n0.SOFTBALL\n0.FLYING DISC\n0.CROISSANT\n0.AVOCADO\n" ++
  "0.CUCUMBER\n0.BACON\n0.POTATO\n0.CARROT\n0.BAGUETTE BREAD\n0.GREEN SALAD\n0.SHALLOW PAN OF FOOD\n" ++
  "1.TUFFED FLATBREAD\n0.EGG\n0.GLASS OF MILK\n0.PEANUTS\n0.KIWIFRUIT\n0.PANCAKES\n0.DUMPLING\n0.FORTUNE COOKIE\n" ++
  "0.TAKEOUT BOX\n0.CHOPSTICKS\n0.BOWL WITH SPOON\n0.CUP WITH STRAW\n1.OCONUT\n0.BROCCOLI\n0.PIE\n" ++
  "1.RETZEL\n0.CUT OF MEAT\n0.SANDWICH\n0.CANNED FOOD\n0.LEAFY GREEN\n0.MANGO\n1.OON CAKE\n0.BAGEL\n" ++
  "0.SMILING FACE WITH SMILING EYES AND THREE HEARTS\n0.YAWNING FACE\n0.SMILING FACE WITH TEAR\n" ++
  "0.FACE WITH PARTY HORN AND PARTY HAT\n10.UNEVEN EYES AND WAVY MOUTH\n0.OVERHEATED FACE\n0.FREEZING FACE\n" ++
  "0.NINJA\n0.DISGUISED FACE\n0.FACE HOLDING BACK TEARS\n5.WITH PLEADING EYES\n0.SARI\n0.LAB COAT\n" ++
  "0.GOGGLES\n0.HIKING BOOT\n0.FLAT SHOE\n0.CRAB\n0.LION FACE\n0.SCORPION\n0.TURKEY\n0.UNICORN FACE\n" ++
  "0.EAGLE\n0.DUCK\n0.BAT\n0.SHARK\n0.OWL\n0.FOX FACE\n0.BUTTERFLY\n0.DEER\n0.GORILLA\n0.LIZARD\n" ++
  "0.RHINOCEROS\n0.SHRIMP\n1.QUID\n0.GIRAFFE FACE\n0.ZEBRA FACE\n0.HEDGEHOG\n0.SAUROPOD\n0.T-REX\n" ++
  "0.CRICKET\n0.KANGAROO\n0.LLAMA\n0.PEACOCK\n0.HIPPOPOTAMUS\n0.PARROT\n0.RACCOON\n0.LOBSTER\n0.MOSQUITO\n" ++
  "1.ICROBE\n0.BADGER\n0.SWAN\n0.MAMMOTH\n0.DODO\n0.SLOTH\n0.OTTER\n1.RANGUTAN\n0.SKUNK\n0.FLAMINGO\n" ++
  "0.OYSTER\n0.BEAVER\n1.ISON\n0.SEAL\n0.GUIDE DOG\n0.PROBING CANE\n0.EMOJI COMPONENT RED HAIR\n" ++
  "16.CURLY HAIR\n16.BALD\n16.WHITE HAIR\n0.BONE\n0.LEG\n0.FOOT\n0.TOOTH\n0.SUPERHERO\n5.VILLAIN\n" ++
  "1.AFETY VEST\n0.EAR WITH HEARING AID\n0.MOTORIZED WHEELCHAIR\n1.ANUAL WHEELCHAIR\n1.ECHANICAL ARM\n" ++
  "11.LEG\n0.CHEESE WEDGE\n1.UPCAKE\n0.SALT SHAKER\n0.BEVERAGE BOX\n0.GARLIC\n0.ONION\n0.FALAFEL\n" ++
  "0.WAFFLE\n0.BUTTER\n0.MATE DRINK\n0.ICE CUBE\n0.BUBBLE TEA\n0.TROLL\n0.STANDING PERSON\n0.KNEELING PERSON\n" ++
  "0.DEAF PERSON\n0.FACE WITH MONOCLE\n0.ADULT\n0.CHILD\n0.OLDER ADULT\n0.BEARDED PERSON\n0.PERSON WITH HEADSCARF\n" ++
  "7.IN STEAMY ROOM\n7.CLIMBING\n7.IN LOTUS POSITION\n0.MAGE\n0.FAIRY\n0.VAMPIRE\n0.MERPERSON\n0.ELF\n" ++
  "0.GENIE\n0.ZOMBIE\n0.BRAIN\n0.ORANGE HEART\n0.BILLED CAP\n0.SCARF\n0.GLOVES\n0.COAT\n0.SOCKS\n" ++
  "0.RED GIFT ENVELOPE\n0.FIRECRACKER\n0.JIGSAW PUZZLE PIECE\n0.TEST TUBE\n0.PETRI DISH\n0.DNA DOUBLE HELIX\n" ++
  "0.COMPASS\n0.ABACUS\n0.FIRE EXTINGUISHER\n0.TOOLBOX\n0.BRICK\n0.MAGNET\n0.LUGGAGE\n1.OTION BOTTLE\n" ++
  "0.SPOOL OF THREAD\n0.BALL OF YARN\n0.SAFETY PIN\n0.TEDDY BEAR\n0.BROOM\n1.ASKET\n0.ROLL OF PAPER\n" ++
  "0.BAR OF SOAP\n0.SPONGE\n0.RECEIPT\n0.NAZAR AMULET\n1.EUTRAL CHESS KING\n14.QUEEN\n14.ROOK\n14.BISHOP\n" ++
  "14.KNIGHT\n14.PAWN\n0.WHITE CHESS KNIGHT ROTATED FORTY-FIVE DEGREES\n0.BLACK CHESS KNIGHT ROTATED FORTY-FIVE DEGREES\n" ++
  "0.NEUTRAL CHESS KNIGHT ROTATED FORTY-FIVE DEGREES\n0.WHITE CHESS KING ROTATED NINETY DEGREES\n" ++
  "12.QUEEN ROTATED NINETY DEGREES\n12.ROOK ROTATED NINETY DEGREES\n12.BISHOP ROTATED NINETY DEGREES\n" ++
  "12.KNIGHT ROTATED NINETY DEGREES\n12.PAWN ROTATED NINETY DEGREES\n0.BLACK CHESS KING ROTATED NINETY DEGREES\n" ++
  "12.QUEEN ROTATED NINETY DEGREES\n12.ROOK ROTATED NINETY DEGREES\n12.BISHOP ROTATED NINETY DEGREES\n" ++
  "12.KNIGHT ROTATED NINETY DEGREES\n12.PAWN ROTATED NINETY DEGREES\n0.NEUTRAL CHESS KING ROTATED NINETY DEGREES\n" ++
  "14.QUEEN ROTATED NINETY DEGREES\n14.ROOK ROTATED NINETY DEGREES\n14.BISHOP ROTATED NINETY DEGREES\n" ++
  "14.KNIGHT ROTATED NINETY DEGREES\n14.PAWN ROTATED NINETY DEGREES\n0.WHITE CHESS KNIGHT ROTATED ONE HUNDRED THIRTY-FIVE DEGREES\n" ++
  "0.BLACK CHESS KNIGHT ROTATED ONE HUNDRED THIRTY-FIVE DEGREES\n0.NEUTRAL CHESS KNIGHT ROTATED ONE HUNDRED THIRTY-FIVE DEGREES\n" ++
  "0.WHITE CHESS TURNED KING\n19.QUEEN\n19.ROOK\n19.BISHOP\n19.KNIGHT\n19.PAWN\n0.BLACK CHESS TURNED KING\n" ++
  "19.QUEEN\n19.ROOK\n19.BISHOP\n19.KNIGHT\n19.PAWN\n0.NEUTRAL CHESS TURNED KING\n21.QUEEN\n21.ROOK\n" ++
  "21.BISHOP\n21.KNIGHT\n21.PAWN\n0.WHITE CHESS KNIGHT ROTATED TWO HUNDRED TWENTY-FIVE DEGREES\n" ++
  "0.BLACK CHESS KNIGHT ROTATED TWO HUNDRED TWENTY-FIVE DEGREES\n0.NEUTRAL CHESS KNIGHT ROTATED TWO HUNDRED TWENTY-FIVE DEGREES\n" ++
  "0.WHITE CHESS KING ROTATED TWO HUNDRED SEVENTY DEGREES\n12.QUEEN ROTATED TWO HUNDRED SEVENTY DEGREES\n" ++
  "12.ROOK ROTATED TWO HUNDRED SEVENTY DEGREES\n12.BISHOP ROTATED TWO HUNDRED SEVENTY DEGREES\n12.KNIGHT ROTATED TWO HUNDRED SEVENTY DEGREES\n" ++
  "12.PAWN ROTATED TWO HUNDRED SEVENTY DEGREES\n0.BLACK CHESS KING ROTATED TWO HUNDRED SEVENTY DEGREES\n" ++
  "12.QUEEN ROTATED TWO HUNDRED SEVENTY DEGREES\n12.ROOK ROTATED TWO HUNDRED SEVENTY DEGREES\n12.BISHOP ROTATED TWO HUNDRED SEVENTY DEGREES\n" ++
  "12.KNIGHT ROTATED TWO HUNDRED SEVENTY DEGREES\n12.PAWN ROTATED TWO HUNDRED SEVENTY DEGREES\n0.NEUTRAL CHESS KING ROTATED TWO HUNDRED SEVENTY DEGREES\n" ++
  "14.QUEEN ROTATED TWO HUNDRED SEVENTY DEGREES\n14.ROOK ROTATED TWO HUNDRED SEVENTY DEGREES\n14.BISHOP ROTATED TWO HUNDRED SEVENTY DEGREES\n" ++
  "14.KNIGHT ROTATED TWO HUNDRED SEVENTY DEGREES\n14.PAWN ROTATED TWO HUNDRED SEVENTY DEGREES\n0.WHITE CHESS KNIGHT ROTATED THREE HUNDRED FIFTEEN DEGREES\n" ++
  "0.BLACK CHESS KNIGHT ROTATED THREE HUNDRED FIFTEEN DEGREES\n0.NEUTRAL CHESS KNIGHT ROTATED THREE HUNDRED FIFTEEN DEGREES\n" ++
  "0.WHITE CHESS EQUIHOPPER\n0.BLACK CHESS EQUIHOPPER\n0.NEUTRAL CHESS EQUIHOPPER\n0.WHITE CHESS EQUIHOPPER ROTATED NINETY DEGREES\n" ++
  "0.BLACK CHESS EQUIHOPPER ROTATED NINETY DEGREES\n0.NEUTRAL CHESS EQUIHOPPER ROTATED NINETY DEGREES\n" ++
  "0.WHITE CHESS KNIGHT-QUEEN\n19.ROOK\n19.BISHOP\n0.BLACK CHESS KNIGHT-QUEEN\n19.ROOK\n19.BISHOP\n" ++
  "1FA60:0.XIANGQI RED GENERAL\n12.MANDARIN\n12.ELEPHANT\n12.HORSE\n12.CHARIOT\n13.ANNON\n12.SOLDIER\n" ++
  "8.BLACK GENERAL\n14.MANDARIN\n14.ELEPHANT\n14.HORSE\n14.CHARIOT\n15.ANNON\n14.SOLDIER\n1FA70:0.BALLET SHOES\n" ++
  "0.ONE-PIECE SWIMSUIT\n0.BRIEFS\n0.SHORTS\n0.THONG SANDAL\n1FA78:0.DROP OF BLOOD\n0.ADHESIVE BANDAGE\n" ++
  "0.STETHOSCOPE\n0.X-RAY\n0.CRUTCH\n1FA80:0.YO-YO\n0.KITE\n0.PARACHUTE\n0.BOOMERANG\n0.MAGIC WAND\n" ++
  "0.PINATA\n0.NESTING DOLLS\n1FA90:0.RINGED PLANET\n0.CHAIR\n0.RAZOR\n0.AXE\n0.DIYA LAMP\n0.BANJO\n" ++
  "0.MILITARY HELMET\n0.ACCORDION\n0.LONG DRUM\n0.COIN\n1.ARPENTRY SAW\n0.SCREWDRIVER\n0.LADDER\n" ++
  "0.HOOK\n0.MIRROR\n0.WINDOW\n0.PLUNGER\n0.SEWING NEEDLE\n0.KNOT\n0.BUCKET\n0.MOUSE TRAP\n0.TOOTHBRUSH\n" ++
  "0.HEADSTONE\n0.PLACARD\n0.ROCK\n0.MIRROR BALL\n0.IDENTIFICATION CARD\n0.LOW BATTERY\n0.HAMSA\n" ++
  "1FAB0:0.FLY\n0.WORM\n0.BEETLE\n0.COCKROACH\n0.POTTED PLANT\n0.WOOD\n0.FEATHER\n0.LOTUS\n0.CORAL\n" ++
  "0.EMPTY NEST\n0.NEST WITH EGGS\n1FAC0:0.ANATOMICAL HEART\n0.LUNGS\n0.PEOPLE HUGGING\n1.REGNANT MAN\n" ++
  "9.PERSON\n1.ERSON WITH CROWN\n1FAD0:0.BLUEBERRIES\n1.ELL PEPPER\n0.OLIVE\n0.FLATBREAD\n0.TAMALE\n" ++
  "0.FONDUE\n0.TEAPOT\n0.POURING LIQUID\n0.BEANS\n0.JAR\n1FAE0:0.MELTING FACE\n0.SALUTING FACE\n" ++
  "0.FACE WITH OPEN EYES AND HAND OVER MOUTH\n10.PEEKING EYE\n10.DIAGONAL MOUTH\n0.DOTTED LINE FACE\n" ++
  "0.BITING LIP\n1.UBBLES\n1FAF0:0.HAND WITH INDEX FINGER AND THUMB CROSSED\n0.RIGHTWARDS HAND\n" ++
  "0.LEFTWARDS HAND\n0.PALM DOWN HAND\n5.UP HAND\n0.INDEX POINTING AT THE VIEWER\n0.HEART HANDS\n" ++
  "1FB00:0.BLOCK SEXTANT-1\n14.2\n14.12\n14.3\n14.13\n14.23\n14.123\n14.4\n14.14\n14.24\n14.124\n" ++
  "14.34\n14.134\n14.234\n14.1234\n14.5\n14.15\n14.25\n14.125\n14.35\n14.235\n14.1235\n14.45\n14.145\n" ++
  "14.245\n14.1245\n14.345\n14.1345\n14.2345\n14.12345\n14.6\n14.16\n14.26\n14.126\n14.36\n14.136\n" ++
  "14.236\n14.1236\n14.46\n14.146\n15.246\n14.346\n14.1346\n14.2346\n14.12346\n14.56\n14.156\n14.256\n" ++
  "14.1256\n14.356\n14.1356\n14.2356\n14.12356\n14.456\n14.1456\n14.2456\n14.12456\n14.3456\n14.13456\n" ++
  "14.23456\n0.LOWER LEFT BLOCK DIAGONAL LOWER MIDDLE LEFT TO LOWER CENTRE\n53.RIGHT\n26.UPPER MIDDLE LEFT TO LOWER CENTRE\n" ++
  "53.RIGHT\n32.LEFT TO LOWER CENTRE\n6.RIGHT BLOCK DIAGONAL UPPER MIDDLE LEFT TO UPPER CENTRE\n" ++
  "54.RIGHT\n27.LOWER MIDDLE LEFT TO UPPER CENTRE\n54.RIGHT\n33.LEFT TO UPPER CENTRE\n33.MIDDLE LEFT TO UPPER MIDDLE RIGHT\n" ++
  "33.CENTRE TO LOWER MIDDLE RIGHT\n33.LEFT TO LOWER MIDDLE RIGHT\n33.CENTRE TO UPPER MIDDLE RIGHT\n" ++
  "33.LEFT TO UPPER MIDDLE RIGHT\n33.CENTRE TO UPPER RIGHT\n6.LEFT BLOCK DIAGONAL UPPER CENTRE TO UPPER MIDDLE RIGHT\n" ++
  "32.LEFT TO UPPER MIDDLE RIGHT\n32.CENTRE TO LOWER MIDDLE RIGHT\n32.LEFT TO LOWER MIDDLE RIGHT\n" ++
  "32.CENTRE TO LOWER RIGHT\n32.MIDDLE LEFT TO LOWER MIDDLE RIGHT\n0.UPPER RIGHT BLOCK DIAGONAL LOWER MIDDLE LEFT TO LOWER CENTRE\n" ++
  "54.RIGHT\n27.UPPER MIDDLE LEFT TO LOWER CENTRE\n54.RIGHT\n33.LEFT TO LOWER CENTRE\n6.LEFT BLOCK DIAGONAL UPPER MIDDLE LEFT TO UPPER CENTRE\n" ++
  "53.RIGHT\n26.LOWER MIDDLE LEFT TO UPPER CENTRE\n53.RIGHT\n32.LEFT TO UPPER CENTRE\n32.MIDDLE LEFT TO UPPER MIDDLE RIGHT\n" ++
  "32.CENTRE TO LOWER MIDDLE RIGHT\n32.LEFT TO LOWER MIDDLE RIGHT\n32.CENTRE TO UPPER MIDDLE RIGHT\n" ++
  "32.LEFT TO UPPER MIDDLE RIGHT\n32.CENTRE TO UPPER RIGHT\n6.RIGHT BLOCK DIAGONAL UPPER CENTRE TO UPPER MIDDLE RIGHT\n" ++
  "33.LEFT TO UPPER MIDDLE RIGHT\n33.CENTRE TO LOWER MIDDLE RIGHT\n33.LEFT TO LOWER MIDDLE RIGHT\n" ++
  "33.CENTRE TO LOWER RIGHT\n33.MIDDLE LEFT TO LOWER MIDDLE RIGHT\n6.AND RIGHT AND LOWER TRIANGULAR THREE QUARTERS BLOCK\n" ++
  "0.LEFT AND LOWER AND RIGHT TRIANGULAR THREE QUARTERS BLOCK\n0.UPPER AND LEFT AND LOWER TRIANGULAR THREE QUARTERS BLOCK\n" ++
  "0.LEFT AND UPPER AND RIGHT TRIANGULAR THREE QUARTERS BLOCK\n5.TRIANGULAR ONE QUARTER BLOCK\n0.UPPER TRIANGULAR ONE QUARTER BLOCK\n" ++
  "0.RIGHT TRIANGULAR ONE QUARTER BLOCK\n0.LOWER TRIANGULAR ONE QUARTER BLOCK\n0.VERTICAL ONE EIGHTH BLOCK-2\n" ++
  "26.3\n26.4\n26.5\n26.6\n26.7\n0.HORIZONTAL ONE EIGHTH BLOCK-2\n28.3\n28.4\n28.5\n28.6\n28.7\n" ++
  "0.LEFT AND LOWER ONE EIGHTH BLOCK\n9.UPPER ONE EIGHTH BLOCK\n0.RIGHT AND UPPER ONE EIGHTH BLOCK\n" ++
  "10.LOWER ONE EIGHTH BLOCK\n0.UPPER AND LOWER ONE EIGHTH BLOCK\n0.HORIZONTAL ONE EIGHTH BLOCK-1358\n" ++
  "0.UPPER ONE QUARTER BLOCK\n6.THREE EIGHTHS BLOCK\n6.FIVE EIGHTHS BLOCK\n6.THREE QUARTERS BLOCK\n" ++
  "6.SEVEN EIGHTHS BLOCK\n0.RIGHT ONE QUARTER BLOCK\n6.THREE EIGHTHS BLOCK\n6.FIVE EIGHTHS BLOCK\n" ++
  "6.THREE QUARTERS BLOCK\n6.SEVEN EIGHTHS BLOCK\n0.LEFT HALF MEDIUM SHADE\n0.RIGHT HALF MEDIUM SHADE\n" ++
  "0.UPPER HALF MEDIUM SHADE\n0.LOWER HALF MEDIUM SHADE\n0.INVERSE MEDIUM SHADE\n0.UPPER HALF BLOCK AND LOWER HALF INVERSE MEDIUM SHADE\n" ++
  "11.INVERSE MEDIUM SHADE AND LOWER HALF BLOCK\n1FB94:0.LEFT HALF INVERSE MEDIUM SHADE AND RIGHT HALF BLOCK\n" ++
  "0.CHECKER BOARD FILL\n0.INVERSE CHECKER BOARD FILL\n0.HEAVY HORIZONTAL FILL\n0.UPPER LEFT TO LOWER RIGHT FILL\n" ++
  "6.RIGHT TO LOWER LEFT FILL\n6.AND LOWER TRIANGULAR HALF BLOCK\n0.LEFT AND RIGHT TRIANGULAR HALF BLOCK\n" ++
  "0.UPPER LEFT TRIANGULAR MEDIUM SHADE\n6.RIGHT TRIANGULAR MEDIUM SHADE\n0.LOWER RIGHT TRIANGULAR MEDIUM SHADE\n" ++
  "6.LEFT TRIANGULAR MEDIUM SHADE\n0.BOX DRAWINGS LIGHT DIAGONAL UPPER CENTRE TO MIDDLE LEFT\n51.RIGHT\n" ++
  "28.MIDDLE LEFT TO LOWER CENTRE\n35.RIGHT TO LOWER CENTRE\n28.UPPER CENTRE TO MIDDLE LEFT TO LOWER CENTRE\n" ++
  "51.RIGHT TO LOWER CENTRE\n28.MIDDLE LEFT TO LOWER CENTRE TO MIDDLE RIGHT\n43.UPPER CENTRE TO MIDDLE RIGHT\n" ++
  "28.UPPER CENTRE TO MIDDLE LEFT AND MIDDLE RIGHT TO LOWER CENTRE\n51.RIGHT AND MIDDLE LEFT TO LOWER CENTRE\n" ++
  "57.TO LOWER CENTRE TO MIDDLE LEFT\n51.LEFT TO LOWER CENTRE TO MIDDLE RIGHT\n28.MIDDLE LEFT TO UPPER CENTRE TO MIDDLE RIGHT TO LOWER CENTRE\n" ++
  "35.RIGHT TO UPPER CENTRE TO MIDDLE LEFT TO LOWER CENTRE\n28.DIAMOND\n19.HORIZONTAL WITH VERTICAL STROKE\n" ++
  "0.ARROWHEAD-SHAPED POINTER\n0.INVERSE CHECK MARK\n0.LEFT HALF RUNNING MAN\n0.RIGHT HALF RUNNING MAN\n" ++
  "0.INVERSE DOWNWARDS ARROW WITH TIP LEFTWARDS\n0.LEFTWARDS ARROW AND UPPER AND LOWER ONE EIGHTH BLOCK\n" ++
  "0.RIGHTWARDS ARROW AND UPPER AND LOWER ONE EIGHTH BLOCK\n0.DOWNWARDS ARROW AND RIGHT ONE EIGHTH BLOCK\n" ++
  "0.UPWARDS ARROW AND RIGHT ONE EIGHTH BLOCK\n0.LEFT HALF FOLDER\n0.RIGHT HALF FOLDER\n0.VOIDED GREEK CROSS\n" ++
  "0.RIGHT OPEN SQUARED DOT\n0.NEGATIVE DIAGONAL CROSS\n18.MIDDLE RIGHT TO LOWER CENTRE\n18.DIAMOND\n" ++
  "0.WHITE HEAVY SALTIRE WITH ROUNDED CORNERS\n0.LEFT THIRD WHITE RIGHT POINTING INDEX\n0.MIDDLE THIRD WHITE RIGHT POINTING INDEX\n" ++
  "0.RIGHT THIRD WHITE RIGHT POINTING INDEX\n0.NEGATIVE SQUARED QUESTION MARK\n0.STICK FIGURE\n12. WITH ARMS RAISED\n" ++
  "13.LEANING LEFT\n21.RIGHT\n13.WITH DRESS\n0.WHITE UP-POINTING CHEVRON\n1FBF0:0.SEGMENTED DIGIT ZERO\n" ++
  "16.ONE\n16.TWO\n17.HREE\n16.FOUR\n17.IVE\n16.SIX\n17.EVEN\n16.EIGHT\n16.NINE\n2F800:0.CJK COMPATIBILITY IDEOGRAPH-2F800\n" ++
  "32.1\n32.2\n32.3\n32.4\n32.5\n32.6\n32.7\n32.8\n32.9\n32.A\n32.B\n32.C\n32.D\n32.E\n32.F\n31.10\n" ++
  "32.1\n32.2\n32.3\n32.4\n32.5\n32.6\n32.7\n32.8\n32.9\n32.A\n32.B\n32.C\n32.D\n32.E\n32.F\n31.20\n" ++
  "32.1\n32.2\n32.3\n32.4\n32.5\n32.6\n32.7\n32.8\n32.9\n32.A\n32.B\n32.C\n32.D\n32.E\n32.F\n31.30\n" ++
  "32.1\n32.2\n32.3\n32.4\n32.5\n32.6\n32.7\n32.8\n32.9\n32.A\n32.B\n32.C\n32.D\n32.E\n32.F\n31.40\n" ++
  "32.1\n32.2\n32.3\n32.4\n32.5\n32.6\n32.7\n32.8\n32.9\n32.A\n32.B\n32.C\n32.D\n32.E\n32.F\n31.50\n" ++
  "32.1\n32.2\n32.3\n32.4\n32.5\n32.6\n32.7\n32.8\n32.9\n32.A\n32.B\n32.C\n32.D\n32.E\n32.F\n31.60\n" ++
  "32.1\n32.2\n32.3\n32.4\n32.5\n32.6\n32.7\n32.8\n32.9\n32.A\n32.B\n32.C\n32.D\n32.E\n32.F\n31.70\n" ++
  "32.1\n32.2\n32.3\n32.4\n32.5\n32.6\n32.7\n32.8\n32.9\n32.A\n32.B\n32.C\n32.D\n32.E\n32.F\n31.80\n" ++
  "32.1\n32.2\n32.3\n32.4\n32.5\n32.6\n32.7\n32.8\n32.9\n32.A\n32.B\n32.C\n32.D\n32.E\n32.F\n31.90\n" ++
  "32.1\n32.2\n32.3\n32.4\n32.5\n32.6\n32.7\n32.8\n32.9\n32.A\n32.B\n32.C\n32.D\n32.E\n32.F\n31.A0\n" ++
  "32.1\n32.2\n32.3\n32.4\n32.5\n32.6\n32.7\n32.8\n32.9\n32.A\n32.B\n32.C\n32.D\n32.E\n32.F\n31.B0\n" ++
  "32.1\n32.2\n32.3\n32.4\n32.5\n32.6\n32.7\n32.8\n32.9\n32.A\n32.B\n32.C\n32.D\n32.E\n32.F\n31.C0\n" ++
  "32.1\n32.2\n32.3\n32.4\n32.5\n32.6\n32.7\n32.8\n32.9\n32.A\n32.B\n32.C\n32.D\n32.E\n32.F\n31.D0\n" ++
  "32.1\n32.2\n32.3\n32.4\n32.5\n32.6\n32.7\n32.8\n32.9\n32.A\n32.B\n32.C\n32.D\n32.E\n32.F\n31.E0\n" ++
  "32.1\n32.2\n32.3\n32.4\n32.5\n32.6\n32.7\n32.8\n32.9\n32.A\n32.B\n32.C\n32.D\n32.E\n32.F\n31.F0\n" ++
  "32.1\n32.2\n32.3\n32.4\n32.5\n32.6\n32.7\n32.8\n32.9\n32.A\n32.B\n32.C\n32.D\n32.E\n32.F\n30.900\n" ++
  "32.1\n32.2\n32.3\n32.4\n32.5\n32.6\n32.7\n32.8\n32.9\n32.A\n32.B\n32.C\n32.D\n32.E\n32.F\n31.10\n" ++
  "32.1\n32.2\n32.3\n32.4\n32.5\n32.6\n32.7\n32.8\n32.9\n32.A\n32.B\n32.C\n32.D\n32.E\n32.F\n31.20\n" ++
  "32.1\n32.2\n32.3\n32.4\n32.5\n32.6\n32.7\n32.8\n32.9\n32.A\n32.B\n32.C\n32.D\n32.E\n32.F\n31.30\n" ++
  "32.1\n32.2\n32.3\n32.4\n32.5\n32.6\n32.7\n32.8\n32.9\n32.A\n32.B\n32.C\n32.D\n32.E\n32.F\n31.40\n" ++
  "32.1\n32.2\n32.3\n32.4\n32.5\n32.6\n32.7\n32.8\n32.9\n32.A\n32.B\n32.C\n32.D\n32.E\n32.F\n31.50\n" ++
  "32.1\n32.2\n32.3\n32.4\n32.5\n32.6\n32.7\n32.8\n32.9\n32.A\n32.B\n32.C\n32.D\n32.E\n32.F\n31.60\n" ++
  "32.1\n32.2\n32.3\n32.4\n32.5\n32.6\n32.7\n32.8\n32.9\n32.A\n32.B\n32.C\n32.D\n32.E\n32.F\n31.70\n" ++
  "32.1\n32.2\n32.3\n32.4\n32.5\n32.6\n32.7\n32.8\n32.9\n32.A\n32.B\n32.C\n32.D\n32.E\n32.F\n31.80\n" ++
  "32.1\n32.2\n32.3\n32.4\n32.5\n32.6\n32.7\n32.8\n32.9\n32.A\n32.B\n32.C\n32.D\n32.E\n32.F\n31.90\n" ++
  "32.1\n32.2\n32.3\n32.4\n32.5\n32.6\n32.7\n32.8\n32.9\n32.A\n32.B\n32.C\n32.D\n32.E\n32.F\n31.A0\n" ++
  "32.1\n32.2\n32.3\n32.4\n32.5\n32.6\n32.7\n32.8\n32.9\n32.A\n32.B\n32.C\n32.D\n32.E\n32.F\n31.B0\n" ++
  "32.1\n32.2\n32.3\n32.4\n32.5\n32.6\n32.7\n32.8\n32.9\n32.A\n32.B\n32.C\n32.D\n32.E\n32.F\n31.C0\n" ++
  "32.1\n32.2\n32.3\n32.4\n32.5\n32.6\n32.7\n32.8\n32.9\n32.A\n32.B\n32.C\n32.D\n32.E\n32.F\n31.D0\n" ++
  "32.1\n32.2\n32.3\n32.4\n32.5\n32.6\n32.7\n32.8\n32.9\n32.A\n32.B\n32.C\n32.D\n32.E\n32.F\n31.E0\n" ++
  "32.1\n32.2\n32.3\n32.4\n32.5\n32.6\n32.7\n32.8\n32.9\n32.A\n32.B\n32.C\n32.D\n32.E\n32.F\n31.F0\n" ++
  "32.1\n32.2\n32.3\n32.4\n32.5\n32.6\n32.7\n32.8\n32.9\n32.A\n32.B\n32.C\n32.D\n32.E\n32.F\n30.A00\n" ++
  "32.1\n32.2\n32.3\n32.4\n32.5\n32.6\n32.7\n32.8\n32.9\n32.A\n32.B\n32.C\n32.D\n32.E\n32.F\n31.10\n" ++
  "32.1\n32.2\n32.3\n32.4\n32.5\n32.6\n32.7\n32.8\n32.9\n32.A\n32.B\n32.C\n32.D\nE0001:0.LANGUAGE TAG\n" ++
  "E0020:0.TAG SPACE\n4.EXCLAMATION MARK\n4.QUOTATION MARK\n4.NUMBER SIGN\n4.DOLLAR SIGN\n4.PERCENT SIGN\n" ++
  "4.AMPERSAND\n5.POSTROPHE\n4.LEFT PARENTHESIS\n4.RIGHT PARENTHESIS\n4.ASTERISK\n4.PLUS SIGN\n4.COMMA\n" ++
  "4.HYPHEN-MINUS\n4.FULL STOP\n4.SOLIDUS\n4.DIGIT ZERO\n10.ONE\n10.TWO\n11.HREE\n10.FOUR\n11.IVE\n" ++
  "10.SIX\n11.EVEN\n10.EIGHT\n10.NINE\n4.COLON\n4.SEMICOLON\n4.LESS-THAN SIGN\n4.EQUALS SIGN\n4.GREATER-THAN SIGN\n" ++
  "4.QUESTION MARK\n4.COMMERCIAL AT\n4.LATIN CAPITAL LETTER A\n25.B\n25.C\n25.D\n25.E\n25.F\n25.G\n" ++
  "25.H\n25.I\n25.J\n25.K\n25.L\n25.M\n25.N\n25.O\n25.P\n25.Q\n25.R\n25.S\n25.T\n25.U\n25.V\n25.W\n" ++
  "25.X\n25.Y\n25.Z\n5.EFT SQUARE BRACKET\n4.REVERSE SOLIDUS\n5.IGHT SQUARE BRACKET\n4.CIRCUMFLEX ACCENT\n" ++
  "4.LOW LINE\n4.GRAVE ACCENT\n4.LATIN SMALL LETTER A\n23.B\n23.C\n23.D\n23.E\n23.F\n23.G\n23.H\n" ++
  "23.I\n23.J\n23.K\n23.L\n23.M\n23.N\n23.O\n23.P\n23.Q\n23.R\n23.S\n23.T\n23.U\n23.V\n23.W\n23.X\n" ++
  "23.Y\n23.Z\n5.EFT CURLY BRACKET\n4.VERTICAL LINE\n4.RIGHT CURLY BRACKET\n4.TILDE\n0.CANCEL TAG\n" ++
  "E0100:0.VARIATION SELECTOR-17\n20.8\n20.9\n19.20\n20.1\n20.2\n20.3\n20.4\n20.5\n20.6\n20.7\n20.8\n" ++
  "20.9\n19.30\n20.1\n20.2\n20.3\n20.4\n20.5\n20.6\n20.7\n20.8\n20.9\n19.40\n20.1\n20.2\n20.3\n20.4\n" ++
  "20.5\n20.6\n20.7\n20.8\n20.9\n19.50\n20.1\n20.2\n20.3\n20.4\n20.5\n20.6\n20.7\n20.8\n20.9\n19.60\n" ++
  "20.1\n20.2\n20.3\n20.4\n20.5\n20.6\n20.7\n20.8\n20.9\n19.70\n20.1\n20.2\n20.3\n20.4\n20.5\n20.6\n" ++
  "20.7\n20.8\n20.9\n19.80\n20.1\n20.2\n20.3\n20.4\n20.5\n20.6\n20.7\n20.8\n20.9\n19.90\n20.1\n20.2\n" ++
  "20.3\n20.4\n20.5\n20.6\n20.7\n20.8\n20.9\n19.100\n21.1\n21.2\n21.3\n21.4\n21.5\n21.6\n21.7\n21.8\n" ++
  "21.9\n20.10\n21.1\n21.2\n21.3\n21.4\n21.5\n21.6\n21.7\n21.8\n21.9\n20.20\n21.1\n21.2\n21.3\n21.4\n" ++
  "21.5\n21.6\n21.7\n21.8\n21.9\n20.30\n21.1\n21.2\n21.3\n21.4\n21.5\n21.6\n21.7\n21.8\n21.9\n20.40\n" ++
  "21.1\n21.2\n21.3\n21.4\n21.5\n21.6\n21.7\n21.8\n21.9\n20.50\n21.1\n21.2\n21.3\n21.4\n21.5\n21.6\n" ++
  "21.7\n21.8\n21.9\n20.60\n21.1\n21.2\n21.3\n21.4\n21.5\n21.6\n21.7\n21.8\n21.9\n20.70\n21.1\n21.2\n" ++
  "21.3\n21.4\n21.5\n21.6\n21.7\n21.8\n21.9\n20.80\n21.1\n21.2\n21.3\n21.4\n21.5\n21.6\n21.7\n21.8\n" ++
  "21.9\n20.90\n21.1\n21.2\n21.3\n21.4\n21.5\n21.6\n21.7\n21.8\n21.9\n19.200\n21.1\n21.2\n21.3\n" ++
  "21.4\n21.5\n21.6\n21.7\n21.8\n21.9\n20.10\n21.1\n21.2\n21.3\n21.4\n21.5\n21.6\n21.7\n21.8\n21.9\n" ++
  "20.20\n21.1\n21.2\n21.3\n21.4\n21.5\n21.6\n21.7\n21.8\n21.9\n20.30\n21.1\n21.2\n21.3\n21.4\n21.5\n" ++
  "21.6\n21.7\n21.8\n21.9\n20.40\n21.1\n21.2\n21.3\n21.4\n21.5\n21.6\n21.7\n21.8\n21.9\n20.50\n21.1\n" ++
  "21.2\n21.3\n21.4\n21.5\n21.6"

/-- The listed names in order of code point, one a line. A line starts with the code point in
hexadecimal and a colon when it does not follow the code point before; then come the length of
the prefix that the name shares with the name before, a period, and the rest of the name. -/
def nameLines : String :=
  String.join [nameLinesPart1, nameLinesPart2, nameLinesPart3, nameLinesPart4, nameLinesPart5,
    nameLinesPart6, nameLinesPart7, nameLinesPart8, nameLinesPart9, nameLinesPart10,
    nameLinesPart11]

/-- The aliases, one a line: the code point in hexadecimal, a colon and the alias. -/
def aliasLines : String :=
  "0:NULL\n0:NUL\n1:START OF HEADING\n1:SOH\n2:START OF TEXT\n2:STX\n3:END OF TEXT\n3:ETX\n4:END OF TRANSMISSION\n" ++
  "4:EOT\n5:ENQUIRY\n5:ENQ\n6:ACKNOWLEDGE\n6:ACK\n7:ALERT\n7:BEL\n8:BACKSPACE\n8:BS\n9:CHARACTER TABULATION\n" ++
  "9:HORIZONTAL TABULATION\n9:HT\n9:TAB\nA:LINE FEED\nA:NEW LINE\nA:END OF LINE\nA:EOL\nA:LF\nA:NL\n" ++
  "B:LINE TABULATION\nB:VERTICAL TABULATION\nB:VT\nC:FORM FEED\nC:FF\nD:CARRIAGE RETURN\nD:CR\nE:SHIFT OUT\n" ++
  "E:LOCKING-SHIFT ONE\nE:SO\nF:SHIFT IN\nF:LOCKING-SHIFT ZERO\nF:SI\n10:DATA LINK ESCAPE\n10:DLE\n" ++
  "11:DEVICE CONTROL ONE\n11:DC1\n12:DEVICE CONTROL TWO\n12:DC2\n13:DEVICE CONTROL THREE\n13:DC3\n" ++
  "14:DEVICE CONTROL FOUR\n14:DC4\n15:NEGATIVE ACKNOWLEDGE\n15:NAK\n16:SYNCHRONOUS IDLE\n16:SYN\n" ++
  "17:END OF TRANSMISSION BLOCK\n17:ETB\n18:CANCEL\n18:CAN\n19:END OF MEDIUM\n19:EOM\n1A:SUBSTITUTE\n" ++
  "1A:SUB\n1B:ESCAPE\n1B:ESC\n1C:INFORMATION SEPARATOR FOUR\n1C:FILE SEPARATOR\n1C:FS\n1D:INFORMATION SEPARATOR THREE\n" ++
  "1D:GROUP SEPARATOR\n1D:GS\n1E:INFORMATION SEPARATOR TWO\n1E:RECORD SEPARATOR\n1E:RS\n1F:INFORMATION SEPARATOR ONE\n" ++
  "1F:UNIT SEPARATOR\n1F:US\n20:SP\n7F:DELETE\n7F:DEL\n80:PADDING CHARACTER\n80:PAD\n81:HIGH OCTET PRESET\n" ++
  "81:HOP\n82:BREAK PERMITTED HERE\n82:BPH\n83:NO BREAK HERE\n83:NBH\n84:INDEX\n84:IND\n85:NEXT LINE\n" ++
  "85:NEL\n86:START OF SELECTED AREA\n86:SSA\n87:END OF SELECTED AREA\n87:ESA\n88:CHARACTER TABULATION SET\n" ++
  "88:HORIZONTAL TABULATION SET\n88:HTS\n89:CHARACTER TABULATION WITH JUSTIFICATION\n89:HORIZONTAL TABULATION WITH JUSTIFICATION\n" ++
  "89:HTJ\n8A:LINE TABULATION SET\n8A:VERTICAL TABULATION SET\n8A:VTS\n8B:PARTIAL LINE FORWARD\n" ++
  "8B:PARTIAL LINE DOWN\n8B:PLD\n8C:PARTIAL LINE BACKWARD\n8C:PARTIAL LINE UP\n8C:PLU\n8D:REVERSE LINE FEED\n" ++
  "8D:REVERSE INDEX\n8D:RI\n8E:SINGLE SHIFT TWO\n8E:SINGLE-SHIFT-2\n8E:SS2\n8F:SINGLE SHIFT THREE\n" ++
  "8F:SINGLE-SHIFT-3\n8F:SS3\n90:DEVICE CONTROL STRING\n90:DCS\n91:PRIVATE USE ONE\n91:PRIVATE USE-1\n" ++
  "91:PU1\n92:PRIVATE USE TWO\n92:PRIVATE USE-2\n92:PU2\n93:SET TRANSMIT STATE\n93:STS\n94:CANCEL CHARACTER\n" ++
  "94:CCH\n95:MESSAGE WAITING\n95:MW\n96:START OF GUARDED AREA\n96:START OF PROTECTED AREA\n96:SPA\n" ++
  "97:END OF GUARDED AREA\n97:END OF PROTECTED AREA\n97:EPA\n98:START OF STRING\n98:SOS\n99:SINGLE GRAPHIC CHARACTER INTRODUCER\n" ++
  "99:SGC\n9A:SINGLE CHARACTER INTRODUCER\n9A:SCI\n9B:CONTROL SEQUENCE INTRODUCER\n9B:CSI\n9C:STRING TERMINATOR\n" ++
  "9C:ST\n9D:OPERATING SYSTEM COMMAND\n9D:OSC\n9E:PRIVACY MESSAGE\n9E:PM\n9F:APPLICATION PROGRAM COMMAND\n" ++
  "9F:APC\nA0:NBSP\nAD:SHY\n1A2:LATIN CAPITAL LETTER GHA\n1A3:LATIN SMALL LETTER GHA\n34F:CGJ\n61C:ALM\n" ++
  "709:SYRIAC SUBLINEAR COLON SKEWED LEFT\nCDE:KANNADA LETTER LLLA\nE9D:LAO LETTER FO FON\nE9F:LAO LETTER FO FAY\n" ++
  "EA3:LAO LETTER RO\nEA5:LAO LETTER LO\nFD0:TIBETAN MARK BKA- SHOG GI MGO RGYAN\n11EC:HANGUL JONGSEONG YESIEUNG-KIYEOK\n" ++
  "11ED:HANGUL JONGSEONG YESIEUNG-SSANGKIYEOK\n11EE:HANGUL JONGSEONG SSANGYESIEUNG\n11EF:HANGUL JONGSEONG YESIEUNG-KHIEUKH\n" ++
  "180B:FVS1\n180C:FVS2\n180D:FVS3\n180E:MVS\n180F:FVS4\n200B:ZWSP\n200C:ZWNJ\n200D:ZWJ\n200E:LRM\n" ++
  "200F:RLM\n202A:LRE\n202B:RLE\n202C:PDF\n202D:LRO\n202E:RLO\n202F:NNBSP\n205F:MMSP\n2060:WJ\n2066:LRI\n" ++
  "2067:RLI\n2068:FSI\n2069:PDI\n2118:WEIERSTRASS ELLIPTIC FUNCTION\n2448:MICR ON US SYMBOL\n2449:MICR DASH SYMBOL\n" ++
  "2B7A:LEFTWARDS TRIANGLE-HEADED ARROW WITH DOUBLE VERTICAL STROKE\n2B7C:RIGHTWARDS TRIANGLE-HEADED ARROW WITH DOUBLE VERTICAL STROKE\n" ++
  "A015:YI SYLLABLE ITERATION MARK\nAA6E:MYANMAR LETTER KHAMTI LLA\nFE00:VS1\nFE01:VS2\nFE02:VS3\n" ++
  "FE03:VS4\nFE04:VS5\nFE05:VS6\nFE06:VS7\nFE07:VS8\nFE08:VS9\nFE09:VS10\nFE0A:VS11\nFE0B:VS12\n" ++
  "FE0C:VS13\nFE0D:VS14\nFE0E:VS15\nFE0F:VS16\nFE18:PRESENTATION FORM FOR VERTICAL RIGHT WHITE LENTICULAR BRACKET\n" ++
  "FEFF:BYTE ORDER MARK\nFEFF:BOM\nFEFF:ZWNBSP\n122D4:CUNEIFORM SIGN NU11 TENU\n122D5:CUNEIFORM SIGN NU11 OVER NU11 BUR OVER BUR\n" ++
  "16E56:MEDEFAIDRIN CAPITAL LETTER H\n16E57:MEDEFAIDRIN CAPITAL LETTER NG\n16E76:MEDEFAIDRIN SMALL LETTER H\n" ++
  "16E77:MEDEFAIDRIN SMALL LETTER NG\n1B001:HENTAIGANA LETTER E-1\n1D0C5:BYZANTINE MUSICAL SYMBOL FTHORA SKLIRON CHROMA VASIS\n" ++
  "E0100:VS17\nE0101:VS18\nE0102:VS19\nE0103:VS20\nE0104:VS21\nE0105:VS22\nE0106:VS23\nE0107:VS24\n" ++
  "E0108:VS25\nE0109:VS26\nE010A:VS27\nE010B:VS28\nE010C:VS29\nE010D:VS30\nE010E:VS31\nE010F:VS32\n" ++
  "E0110:VS33\nE0111:VS34\nE0112:VS35\nE0113:VS36\nE0114:VS37\nE0115:VS38\nE0116:VS39\nE0117:VS40\n" ++
  "E0118:VS41\nE0119:VS42\nE011A:VS43\nE011B:VS44\nE011C:VS45\nE011D:VS46\nE011E:VS47\nE011F:VS48\n" ++
  "E0120:VS49\nE0121:VS50\nE0122:VS51\nE0123:VS52\nE0124:VS53\nE0125:VS54\nE0126:VS55\nE0127:VS56\n" ++
  "E0128:VS57\nE0129:VS58\nE012A:VS59\nE012B:VS60\nE012C:VS61\nE012D:VS62\nE012E:VS63\nE012F:VS64\n" ++
  "E0130:VS65\nE0131:VS66\nE0132:VS67\nE0133:VS68\nE0134:VS69\nE0135:VS70\nE0136:VS71\nE0137:VS72\n" ++
  "E0138:VS73\nE0139:VS74\nE013A:VS75\nE013B:VS76\nE013C:VS77\nE013D:VS78\nE013E:VS79\nE013F:VS80\n" ++
  "E0140:VS81\nE0141:VS82\nE0142:VS83\nE0143:VS84\nE0144:VS85\nE0145:VS86\nE0146:VS87\nE0147:VS88\n" ++
  "E0148:VS89\nE0149:VS90\nE014A:VS91\nE014B:VS92\nE014C:VS93\nE014D:VS94\nE014E:VS95\nE014F:VS96\n" ++
  "E0150:VS97\nE0151:VS98\nE0152:VS99\nE0153:VS100\nE0154:VS101\nE0155:VS102\nE0156:VS103\nE0157:VS104\n" ++
  "E0158:VS105\nE0159:VS106\nE015A:VS107\nE015B:VS108\nE015C:VS109\nE015D:VS110\nE015E:VS111\nE015F:VS112\n" ++
  "E0160:VS113\nE0161:VS114\nE0162:VS115\nE0163:VS116\nE0164:VS117\nE0165:VS118\nE0166:VS119\nE0167:VS120\n" ++
  "E0168:VS121\nE0169:VS122\nE016A:VS123\nE016B:VS124\nE016C:VS125\nE016D:VS126\nE016E:VS127\nE016F:VS128\n" ++
  "E0170:VS129\nE0171:VS130\nE0172:VS131\nE0173:VS132\nE0174:VS133\nE0175:VS134\nE0176:VS135\nE0177:VS136\n" ++
  "E0178:VS137\nE0179:VS138\nE017A:VS139\nE017B:VS140\nE017C:VS141\nE017D:VS142\nE017E:VS143\nE017F:VS144\n" ++
  "E0180:VS145\nE0181:VS146\nE0182:VS147\nE0183:VS148\nE0184:VS149\nE0185:VS150\nE0186:VS151\nE0187:VS152\n" ++
  "E0188:VS153\nE0189:VS154\nE018A:VS155\nE018B:VS156\nE018C:VS157\nE018D:VS158\nE018E:VS159\nE018F:VS160\n" ++
  "E0190:VS161\nE0191:VS162\nE0192:VS163\nE0193:VS164\nE0194:VS165\nE0195:VS166\nE0196:VS167\nE0197:VS168\n" ++
  "E0198:VS169\nE0199:VS170\nE019A:VS171\nE019B:VS172\nE019C:VS173\nE019D:VS174\nE019E:VS175\nE019F:VS176\n" ++
  "E01A0:VS177\nE01A1:VS178\nE01A2:VS179\nE01A3:VS180\nE01A4:VS181\nE01A5:VS182\nE01A6:VS183\nE01A7:VS184\n" ++
  "E01A8:VS185\nE01A9:VS186\nE01AA:VS187\nE01AB:VS188\nE01AC:VS189\nE01AD:VS190\nE01AE:VS191\nE01AF:VS192\n" ++
  "E01B0:VS193\nE01B1:VS194\nE01B2:VS195\nE01B3:VS196\nE01B4:VS197\nE01B5:VS198\nE01B6:VS199\nE01B7:VS200\n" ++
  "E01B8:VS201\nE01B9:VS202\nE01BA:VS203\nE01BB:VS204\nE01BC:VS205\nE01BD:VS206\nE01BE:VS207\nE01BF:VS208\n" ++
  "E01C0:VS209\nE01C1:VS210\nE01C2:VS211\nE01C3:VS212\nE01C4:VS213\nE01C5:VS214\nE01C6:VS215\nE01C7:VS216\n" ++
  "E01C8:VS217\nE01C9:VS218\nE01CA:VS219\nE01CB:VS220\nE01CC:VS221\nE01CD:VS222\nE01CE:VS223\nE01CF:VS224\n" ++
  "E01D0:VS225\nE01D1:VS226\nE01D2:VS227\nE01D3:VS228\nE01D4:VS229\nE01D5:VS230\nE01D6:VS231\nE01D7:VS232\n" ++
  "E01D8:VS233\nE01D9:VS234\nE01DA:VS235\nE01DB:VS236\nE01DC:VS237\nE01DD:VS238\nE01DE:VS239\nE01DF:VS240\n" ++
  "E01E0:VS241\nE01E1:VS242\nE01E2:VS243\nE01E3:VS244\nE01E4:VS245\nE01E5:VS246\nE01E6:VS247\nE01E7:VS248\n" ++
  "E01E8:VS249\nE01E9:VS250\nE01EA:VS251\nE01EB:VS252\nE01EC:VS253\nE01ED:VS254\nE01EE:VS255\nE01EF:VS256"

/-- The value of upper-case hexadecimal digits, if they are all such digits. -/
def upperHexValue? (ds : List Char) : Option Nat :=
  ds.foldlM (fun acc d =>
    if '0' ≤ d ∧ d ≤ '9' then some (acc * 16 + (d.toNat - 0x30))
    else if 'A' ≤ d ∧ d ≤ 'F' then some (acc * 16 + (d.toNat - 0x37))
    else none) 0

/-- The code point of a line's optional hexadecimal field and the rest of the line, or `none`
when the line has no such field. -/
def codeField (line : List Char) : Option (Nat × List Char) :=
  match line.span (· ≠ ':') with
  | (digits, ':' :: rest) => (upperHexValue? digits).map (·, rest)
  | _ => none

/-- The code point of the listed name `name`, written in upper case. -/
def listedCode? (name : List Char) : Option Nat :=
  let step (acc : List Char × Nat × Option Nat) (line : String) : List Char × Nat × Option Nat :=
    let (previous, next, found) := acc
    let (code, rest) := (codeField line.toList).getD (next, line.toList)
    let (shared, suffix) := rest.span (· ≠ '.')
    let current := previous.take ((String.ofList shared).toNat?.getD 0) ++ suffix.drop 1
    (current, code + 1, found <|> if current = name then some code else none)
  ((nameLines.splitOn "\n").foldl step ([], 0, none)).2.2

/-- The code point of the alias `name`, written in upper case. -/
def aliasCode? (name : List Char) : Option Nat :=
  (aliasLines.splitOn "\n").findSome? fun line =>
    (codeField line.toList).bind fun (code, other) => if other = name then some code else none

/-- The letters of initial consonants, by their index in a syllable's code. -/
def initialLetters : List String :=
  ["G", "GG", "N", "D", "DD", "R", "M", "B", "BB", "S", "SS", "", "J", "JJ", "C", "K", "T", "P",
    "H"]

/-- The letters of vowels, by their index in a syllable's code. -/
def vowelLetters : List String :=
  ["A", "AE", "YA", "YAE", "EO", "E", "YEO", "YE", "O", "WA", "WAE", "OE", "YO", "U", "WEO", "WE",
    "WI", "YU", "EU", "YI", "I"]

/-- The letters of final consonants, by their index in a syllable's code; the first is none. -/
def finalLetters : List String :=
  ["", "G", "GG", "GS", "N", "NJ", "NH", "D", "L", "LG", "LM", "LB", "LS", "LT", "LP", "LH", "M",
    "B", "BS", "S", "SS", "NG", "J", "C", "K", "T", "P", "H"]

/-- The index and length of the longest of `letters` at the front of `s`, the first of equally
long ones. -/
def longestLetters (letters : List String) (s : List Char) : Option (Nat × Nat) :=
  letters.zipIdx.foldl (fun best (l, i) =>
    if l.toList.isPrefixOf s ∧ best.all (fun (_, n) => n < l.length) then some (i, l.length)
    else best) none

/-- The code point of the Hangul syllable whose letters are `s`. -/
def syllableCode? (s : List Char) : Option Nat := do
  let (initial, n) ← longestLetters initialLetters s
  let s := s.drop n
  let (vowel, n) ← longestLetters vowelLetters s
  let s := s.drop n
  let (final, n) ← longestLetters finalLetters s
  if s.length = n then some (0xAC00 + (initial * 21 + vowel) * 28 + final) else none

/-- The blocks of unified ideographs, as closed ranges of code points. -/
def unifiedIdeographs : List (Nat × Nat) :=
  [(0x3400, 0x4DBF), (0x4E00, 0x9FFF), (0x20000, 0x2A6DF), (0x2A700, 0x2B738), (0x2B740, 0x2B81D),
    (0x2B820, 0x2CEA1), (0x2CEB0, 0x2EBE0), (0x30000, 0x3134A)]

/-- The code point of the unified ideograph whose code is written `s`. -/
def ideographCode? (s : List Char) : Option Nat := do
  let code ← if s.length = 4 ∨ s.length = 5 then upperHexValue? s else none
  if unifiedIdeographs.any (fun (lo, hi) => lo ≤ code ∧ code ≤ hi) then some code else none

/-- The code point of the character named `name`. -/
def codeOfName? (name : List Char) : Option Nat :=
  if "HANGUL SYLLABLE ".toList.isPrefixOf name then syllableCode? (name.drop 16)
  else if "CJK UNIFIED IDEOGRAPH-".toList.isPrefixOf name then ideographCode? (name.drop 22)
  else
    let upper := name.map Char.toUpper
    listedCode? upper <|> aliasCode? upper

end Text

end ByteAsm
