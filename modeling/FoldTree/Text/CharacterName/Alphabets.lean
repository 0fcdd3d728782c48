/-! Names of characters from Latin to Tibetan, with the marks that combine with their letters.
-/

namespace FoldTree.Text

/-- The names of characters up to Tibetan. -/
def alphabetLines : List String := [
  "20;;SPACE;EXCLAMATION MARK;QUOTATION MARK;NUMBER SIGN;DOLLAR SIGN;PERCENT SIGN;AMPERSAND",
  "27;;APOSTROPHE;LEFT PARENTHESIS;RIGHT PARENTHESIS;ASTERISK;PLUS SIGN;COMMA;HYPHEN-MINUS",
  "2e;;FULL STOP;SOLIDUS;DIGIT ZERO;DIGIT ONE;DIGIT TWO;DIGIT THREE;DIGIT FOUR;DIGIT FIVE",
  "36;;DIGIT SIX;DIGIT SEVEN;DIGIT EIGHT;DIGIT NINE;COLON;SEMICOLON;LESS-THAN SIGN;EQUALS SIGN",
  "3e;;GREATER-THAN SIGN;QUESTION MARK;COMMERCIAL AT;LATIN CAPITAL LETTER A",
  "42;LATIN CAPITAL LETTER ;B;C;D;E;F;G;H;I;J;K;L;M;N;O;P;Q;R;S;T;U;V;W;X;Y;Z",
  "5b;;LEFT SQUARE BRACKET;REVERSE SOLIDUS;RIGHT SQUARE BRACKET;CIRCUMFLEX ACCENT;LOW LINE",
  "60;;GRAVE ACCENT;LATIN SMALL LETTER A;LATIN SMALL LETTER B;LATIN SMALL LETTER C",
  "64;LATIN SMALL LETTER ;D;E;F;G;H;I;J;K;L;M;N;O;P;Q;R;S;T;U;V;W;X;Y;Z",
  "7b;;LEFT CURLY BRACKET;VERTICAL LINE;RIGHT CURLY BRACKET;TILDE",
  "a0;;NO-BREAK SPACE;INVERTED EXCLAMATION MARK;CENT SIGN;POUND SIGN;CURRENCY SIGN;YEN SIGN",
  "a6;;BROKEN BAR;SECTION SIGN;DIAERESIS;COPYRIGHT SIGN;FEMININE ORDINAL INDICATOR",
  "ab;;LEFT-POINTING DOUBLE ANGLE QUOTATION MARK;NOT SIGN;SOFT HYPHEN;REGISTERED SIGN;MACRON",
  "b0;;DEGREE SIGN;PLUS-MINUS SIGN;SUPERSCRIPT TWO;SUPERSCRIPT THREE;ACUTE ACCENT;MICRO SIGN",
  "b6;;PILCROW SIGN;MIDDLE DOT;CEDILLA;SUPERSCRIPT ONE;MASCULINE ORDINAL INDICATOR",
  "bb;;RIGHT-POINTING DOUBLE ANGLE QUOTATION MARK;VULGAR FRACTION ONE QUARTER",
  "bd;;VULGAR FRACTION ONE HALF;VULGAR FRACTION THREE QUARTERS;INVERTED QUESTION MARK",
  "c0;LATIN CAPITAL LETTER A WITH ;GRAVE;ACUTE;CIRCUMFLEX;TILDE;DIAERESIS;RING ABOVE",
  "c6;LATIN CAPITAL LETTER ;AE;C WITH CEDILLA;E WITH GRAVE;E WITH ACUTE;E WITH CIRCUMFLEX",
  "cb;LATIN CAPITAL LETTER ;E WITH DIAERESIS;I WITH GRAVE;I WITH ACUTE;I WITH CIRCUMFLEX",
  "cf;LATIN CAPITAL LETTER ;I WITH DIAERESIS;ETH;N WITH TILDE;O WITH GRAVE;O WITH ACUTE",
  "d4;LATIN CAPITAL LETTER O WITH ;CIRCUMFLEX;TILDE;DIAERESIS",
  "d7;;MULTIPLICATION SIGN;LATIN CAPITAL LETTER O WITH STROKE;LATIN CAPITAL LETTER U WITH GRAVE",
  "da;LATIN CAPITAL LETTER ;U WITH ACUTE;U WITH CIRCUMFLEX;U WITH DIAERESIS;Y WITH ACUTE;THORN",
  "df;LATIN SMALL LETTER ;SHARP S;A WITH GRAVE;A WITH ACUTE;A WITH CIRCUMFLEX;A WITH TILDE",
  "e4;LATIN SMALL LETTER ;A WITH DIAERESIS;A WITH RING ABOVE;AE;C WITH CEDILLA;E WITH GRAVE",
  "e9;LATIN SMALL LETTER ;E WITH ACUTE;E WITH CIRCUMFLEX;E WITH DIAERESIS;I WITH GRAVE",
  "ed;LATIN SMALL LETTER ;I WITH ACUTE;I WITH CIRCUMFLEX;I WITH DIAERESIS;ETH;N WITH TILDE",
  "f2;LATIN SMALL LETTER O WITH ;GRAVE;ACUTE;CIRCUMFLEX;TILDE;DIAERESIS",
  "f7;;DIVISION SIGN;LATIN SMALL LETTER O WITH STROKE;LATIN SMALL LETTER U WITH GRAVE",
  "fa;LATIN SMALL LETTER ;U WITH ACUTE;U WITH CIRCUMFLEX;U WITH DIAERESIS;Y WITH ACUTE;THORN",
  "ff;LATIN ;SMALL LETTER Y WITH DIAERESIS;CAPITAL LETTER A WITH MACRON",
  "101;LATIN ;SMALL LETTER A WITH MACRON;CAPITAL LETTER A WITH BREVE;SMALL LETTER A WITH BREVE",
  "104;LATIN ;CAPITAL LETTER A WITH OGONEK;SMALL LETTER A WITH OGONEK;CAPITAL LETTER C WITH ACUTE",
  "107;LATIN ;SMALL LETTER C WITH ACUTE;CAPITAL LETTER C WITH CIRCUMFLEX",
  "109;LATIN ;SMALL LETTER C WITH CIRCUMFLEX;CAPITAL LETTER C WITH DOT ABOVE",
  "10b;LATIN ;SMALL LETTER C WITH DOT ABOVE;CAPITAL LETTER C WITH CARON;SMALL LETTER C WITH CARON",
  "10e;LATIN ;CAPITAL LETTER D WITH CARON;SMALL LETTER D WITH CARON;CAPITAL LETTER D WITH STROKE",
  "111;LATIN ;SMALL LETTER D WITH STROKE;CAPITAL LETTER E WITH MACRON;SMALL LETTER E WITH MACRON",
  "114;LATIN ;CAPITAL LETTER E WITH BREVE;SMALL LETTER E WITH BREVE",
  "116;LATIN ;CAPITAL LETTER E WITH DOT ABOVE;SMALL LETTER E WITH DOT ABOVE",
  "118;LATIN ;CAPITAL LETTER E WITH OGONEK;SMALL LETTER E WITH OGONEK;CAPITAL LETTER E WITH CARON",
  "11b;LATIN ;SMALL LETTER E WITH CARON;CAPITAL LETTER G WITH CIRCUMFLEX",
  "11d;LATIN ;SMALL LETTER G WITH CIRCUMFLEX;CAPITAL LETTER G WITH BREVE",
  "11f;LATIN ;SMALL LETTER G WITH BREVE;CAPITAL LETTER G WITH DOT ABOVE",
  "121;LATIN ;SMALL LETTER G WITH DOT ABOVE;CAPITAL LETTER G WITH CEDILLA",
  "123;LATIN ;SMALL LETTER G WITH CEDILLA;CAPITAL LETTER H WITH CIRCUMFLEX",
  "125;LATIN ;SMALL LETTER H WITH CIRCUMFLEX;CAPITAL LETTER H WITH STROKE",
  "127;LATIN ;SMALL LETTER H WITH STROKE;CAPITAL LETTER I WITH TILDE;SMALL LETTER I WITH TILDE",
  "12a;LATIN ;CAPITAL LETTER I WITH MACRON;SMALL LETTER I WITH MACRON;CAPITAL LETTER I WITH BREVE",
  "12d;LATIN ;SMALL LETTER I WITH BREVE;CAPITAL LETTER I WITH OGONEK;SMALL LETTER I WITH OGONEK",
  "130;LATIN ;CAPITAL LETTER I WITH DOT ABOVE;SMALL LETTER DOTLESS I;CAPITAL LIGATURE IJ",
  "133;LATIN ;SMALL LIGATURE IJ;CAPITAL LETTER J WITH CIRCUMFLEX;SMALL LETTER J WITH CIRCUMFLEX",
  "136;LATIN ;CAPITAL LETTER K WITH CEDILLA;SMALL LETTER K WITH CEDILLA;SMALL LETTER KRA",
  "139;LATIN ;CAPITAL LETTER L WITH ACUTE;SMALL LETTER L WITH ACUTE;CAPITAL LETTER L WITH CEDILLA",
  "13c;LATIN ;SMALL LETTER L WITH CEDILLA;CAPITAL LETTER L WITH CARON;SMALL LETTER L WITH CARON",
  "13f;LATIN ;CAPITAL LETTER L WITH MIDDLE DOT;SMALL LETTER L WITH MIDDLE DOT",
  "141;LATIN ;CAPITAL LETTER L WITH STROKE;SMALL LETTER L WITH STROKE;CAPITAL LETTER N WITH ACUTE",
  "144;LATIN ;SMALL LETTER N WITH ACUTE;CAPITAL LETTER N WITH CEDILLA;SMALL LETTER N WITH CEDILLA",
  "147;LATIN ;CAPITAL LETTER N WITH CARON;SMALL LETTER N WITH CARON",
  "149;LATIN ;SMALL LETTER N PRECEDED BY APOSTROPHE;CAPITAL LETTER ENG;SMALL LETTER ENG",
  "14c;LATIN ;CAPITAL LETTER O WITH MACRON;SMALL LETTER O WITH MACRON;CAPITAL LETTER O WITH BREVE",
  "14f;LATIN ;SMALL LETTER O WITH BREVE;CAPITAL LETTER O WITH DOUBLE ACUTE",
  "151;LATIN ;SMALL LETTER O WITH DOUBLE ACUTE;CAPITAL LIGATURE OE;SMALL LIGATURE OE",
  "154;LATIN ;CAPITAL LETTER R WITH ACUTE;SMALL LETTER R WITH ACUTE;CAPITAL LETTER R WITH CEDILLA",
  "157;LATIN ;SMALL LETTER R WITH CEDILLA;CAPITAL LETTER R WITH CARON;SMALL LETTER R WITH CARON",
  "15a;LATIN ;CAPITAL LETTER S WITH ACUTE;SMALL LETTER S WITH ACUTE",
  "15c;LATIN ;CAPITAL LETTER S WITH CIRCUMFLEX;SMALL LETTER S WITH CIRCUMFLEX",
  "15e;LATIN ;CAPITAL LETTER S WITH CEDILLA;SMALL LETTER S WITH CEDILLA",
  "160;LATIN ;CAPITAL LETTER S WITH CARON;SMALL LETTER S WITH CARON;CAPITAL LETTER T WITH CEDILLA",
  "163;LATIN ;SMALL LETTER T WITH CEDILLA;CAPITAL LETTER T WITH CARON;SMALL LETTER T WITH CARON",
  "166;LATIN ;CAPITAL LETTER T WITH STROKE;SMALL LETTER T WITH STROKE;CAPITAL LETTER U WITH TILDE",
  "169;LATIN ;SMALL LETTER U WITH TILDE;CAPITAL LETTER U WITH MACRON;SMALL LETTER U WITH MACRON",
  "16c;LATIN ;CAPITAL LETTER U WITH BREVE;SMALL LETTER U WITH BREVE",
  "16e;LATIN ;CAPITAL LETTER U WITH RING ABOVE;SMALL LETTER U WITH RING ABOVE",
  "170;LATIN ;CAPITAL LETTER U WITH DOUBLE ACUTE;SMALL LETTER U WITH DOUBLE ACUTE",
  "172;LATIN ;CAPITAL LETTER U WITH OGONEK;SMALL LETTER U WITH OGONEK",
  "174;LATIN ;CAPITAL LETTER W WITH CIRCUMFLEX;SMALL LETTER W WITH CIRCUMFLEX",
  "176;LATIN ;CAPITAL LETTER Y WITH CIRCUMFLEX;SMALL LETTER Y WITH CIRCUMFLEX",
  "178;LATIN CAPITAL LETTER ;Y WITH DIAERESIS;Z WITH ACUTE",
  "17a;LATIN ;SMALL LETTER Z WITH ACUTE;CAPITAL LETTER Z WITH DOT ABOVE",
  "17c;LATIN ;SMALL LETTER Z WITH DOT ABOVE;CAPITAL LETTER Z WITH CARON;SMALL LETTER Z WITH CARON",
  "17f;LATIN ;SMALL LETTER LONG S;SMALL LETTER B WITH STROKE;CAPITAL LETTER B WITH HOOK",
  "182;LATIN ;CAPITAL LETTER B WITH TOPBAR;SMALL LETTER B WITH TOPBAR;CAPITAL LETTER TONE SIX",
  "185;LATIN ;SMALL LETTER TONE SIX;CAPITAL LETTER OPEN O;CAPITAL LETTER C WITH HOOK",
  "188;LATIN ;SMALL LETTER C WITH HOOK;CAPITAL LETTER AFRICAN D;CAPITAL LETTER D WITH HOOK",
  "18b;LATIN ;CAPITAL LETTER D WITH TOPBAR;SMALL LETTER D WITH TOPBAR;SMALL LETTER TURNED DELTA",
  "18e;LATIN CAPITAL LETTER ;REVERSED E;SCHWA;OPEN E;F WITH HOOK",
  "192;LATIN ;SMALL LETTER F WITH HOOK;CAPITAL LETTER G WITH HOOK;CAPITAL LETTER GAMMA",
  "195;LATIN ;SMALL LETTER HV;CAPITAL LETTER IOTA;CAPITAL LETTER I WITH STROKE",
  "198;LATIN ;CAPITAL LETTER K WITH HOOK;SMALL LETTER K WITH HOOK;SMALL LETTER L WITH BAR",
  "19b;LATIN ;SMALL LETTER LAMBDA WITH STROKE;CAPITAL LETTER TURNED M",
  "19d;LATIN ;CAPITAL LETTER N WITH LEFT HOOK;SMALL LETTER N WITH LONG RIGHT LEG",
  "19f;LATIN CAPITAL LETTER O WITH ;MIDDLE TILDE;HORN",
  "1a1;LATIN ;SMALL LETTER O WITH HORN;CAPITAL LETTER OI;SMALL LETTER OI",
  "1a4;LATIN ;CAPITAL LETTER P WITH HOOK;SMALL LETTER P WITH HOOK;LETTER YR",
  "1a7;LATIN ;CAPITAL LETTER TONE TWO;SMALL LETTER TONE TWO;CAPITAL LETTER ESH",
  "1aa;LATIN ;LETTER REVERSED ESH LOOP;SMALL LETTER T WITH PALATAL HOOK",
  "1ac;LATIN ;CAPITAL LETTER T WITH HOOK;SMALL LETTER T WITH HOOK",
  "1ae;LATIN CAPITAL LETTER ;T WITH RETROFLEX HOOK;U WITH HORN",
  "1b0;LATIN ;SMALL LETTER U WITH HORN;CAPITAL LETTER UPSILON;CAPITAL LETTER V WITH HOOK",
  "1b3;LATIN ;CAPITAL LETTER Y WITH HOOK;SMALL LETTER Y WITH HOOK;CAPITAL LETTER Z WITH STROKE",
  "1b6;LATIN ;SMALL LETTER Z WITH STROKE;CAPITAL LETTER EZH;CAPITAL LETTER EZH REVERSED",
  "1b9;LATIN ;SMALL LETTER EZH REVERSED;SMALL LETTER EZH WITH TAIL;LETTER TWO WITH STROKE",
  "1bc;LATIN ;CAPITAL LETTER TONE FIVE;SMALL LETTER TONE FIVE",
  "1be;LATIN LETTER ;INVERTED GLOTTAL STOP WITH STROKE;WYNN;DENTAL CLICK;LATERAL CLICK",
  "1c2;LATIN ;LETTER ALVEOLAR CLICK;LETTER RETROFLEX CLICK;CAPITAL LETTER DZ WITH CARON",
  "1c5;LATIN ;CAPITAL LETTER D WITH SMALL LETTER Z WITH CARON;SMALL LETTER DZ WITH CARON",
  "1c7;LATIN ;CAPITAL LETTER LJ;CAPITAL LETTER L WITH SMALL LETTER J;SMALL LETTER LJ",
  "1ca;LATIN ;CAPITAL LETTER NJ;CAPITAL LETTER N WITH SMALL LETTER J;SMALL LETTER NJ",
  "1cd;LATIN ;CAPITAL LETTER A WITH CARON;SMALL LETTER A WITH CARON;CAPITAL LETTER I WITH CARON",
  "1d0;LATIN ;SMALL LETTER I WITH CARON;CAPITAL LETTER O WITH CARON;SMALL LETTER O WITH CARON",
  "1d3;LATIN ;CAPITAL LETTER U WITH CARON;SMALL LETTER U WITH CARON",
  "1d5;LATIN ;CAPITAL LETTER U WITH DIAERESIS AND MACRON;SMALL LETTER U WITH DIAERESIS AND MACRON",
  "1d7;LATIN ;CAPITAL LETTER U WITH DIAERESIS AND ACUTE;SMALL LETTER U WITH DIAERESIS AND ACUTE",
  "1d9;LATIN ;CAPITAL LETTER U WITH DIAERESIS AND CARON;SMALL LETTER U WITH DIAERESIS AND CARON",
  "1db;LATIN ;CAPITAL LETTER U WITH DIAERESIS AND GRAVE;SMALL LETTER U WITH DIAERESIS AND GRAVE",
  "1dd;LATIN ;SMALL LETTER TURNED E;CAPITAL LETTER A WITH DIAERESIS AND MACRON",
  "1df;LATIN ;SMALL LETTER A WITH DIAERESIS AND MACRON;CAPITAL LETTER A WITH DOT ABOVE AND MACRON",
  "1e1;LATIN ;SMALL LETTER A WITH DOT ABOVE AND MACRON;CAPITAL LETTER AE WITH MACRON",
  "1e3;LATIN ;SMALL LETTER AE WITH MACRON;CAPITAL LETTER G WITH STROKE;SMALL LETTER G WITH STROKE",
  "1e6;LATIN ;CAPITAL LETTER G WITH CARON;SMALL LETTER G WITH CARON;CAPITAL LETTER K WITH CARON",
  "1e9;LATIN ;SMALL LETTER K WITH CARON;CAPITAL LETTER O WITH OGONEK;SMALL LETTER O WITH OGONEK",
  "1ec;LATIN ;CAPITAL LETTER O WITH OGONEK AND MACRON;SMALL LETTER O WITH OGONEK AND MACRON",
  "1ee;LATIN ;CAPITAL LETTER EZH WITH CARON;SMALL LETTER EZH WITH CARON;SMALL LETTER J WITH CARON",
  "1f1;LATIN ;CAPITAL LETTER DZ;CAPITAL LETTER D WITH SMALL LETTER Z;SMALL LETTER DZ",
  "1f4;LATIN ;CAPITAL LETTER G WITH ACUTE;SMALL LETTER G WITH ACUTE;CAPITAL LETTER HWAIR",
  "1f7;LATIN ;CAPITAL LETTER WYNN;CAPITAL LETTER N WITH GRAVE;SMALL LETTER N WITH GRAVE",
  "1fa;LATIN ;CAPITAL LETTER A WITH RING ABOVE AND ACUTE;SMALL LETTER A WITH RING ABOVE AND ACUTE",
  "1fc;LATIN ;CAPITAL LETTER AE WITH ACUTE;SMALL LETTER AE WITH ACUTE",
  "1fe;LATIN ;CAPITAL LETTER O WITH STROKE AND ACUTE;SMALL LETTER O WITH STROKE AND ACUTE",
  "200;LATIN ;CAPITAL LETTER A WITH DOUBLE GRAVE;SMALL LETTER A WITH DOUBLE GRAVE",
  "202;LATIN ;CAPITAL LETTER A WITH INVERTED BREVE;SMALL LETTER A WITH INVERTED BREVE",
  "204;LATIN ;CAPITAL LETTER E WITH DOUBLE GRAVE;SMALL LETTER E WITH DOUBLE GRAVE",
  "206;LATIN ;CAPITAL LETTER E WITH INVERTED BREVE;SMALL LETTER E WITH INVERTED BREVE",
  "208;LATIN ;CAPITAL LETTER I WITH DOUBLE GRAVE;SMALL LETTER I WITH DOUBLE GRAVE",
  "20a;LATIN ;CAPITAL LETTER I WITH INVERTED BREVE;SMALL LETTER I WITH INVERTED BREVE",
  "20c;LATIN ;CAPITAL LETTER O WITH DOUBLE GRAVE;SMALL LETTER O WITH DOUBLE GRAVE",
  "20e;LATIN ;CAPITAL LETTER O WITH INVERTED BREVE;SMALL LETTER O WITH INVERTED BREVE",
  "210;LATIN ;CAPITAL LETTER R WITH DOUBLE GRAVE;SMALL LETTER R WITH DOUBLE GRAVE",
  "212;LATIN ;CAPITAL LETTER R WITH INVERTED BREVE;SMALL LETTER R WITH INVERTED BREVE",
  "214;LATIN ;CAPITAL LETTER U WITH DOUBLE GRAVE;SMALL LETTER U WITH DOUBLE GRAVE",
  "216;LATIN ;CAPITAL LETTER U WITH INVERTED BREVE;SMALL LETTER U WITH INVERTED BREVE",
  "218;LATIN ;CAPITAL LETTER S WITH COMMA BELOW;SMALL LETTER S WITH COMMA BELOW",
  "21a;LATIN ;CAPITAL LETTER T WITH COMMA BELOW;SMALL LETTER T WITH COMMA BELOW",
  "21c;LATIN ;CAPITAL LETTER YOGH;SMALL LETTER YOGH;CAPITAL LETTER H WITH CARON",
  "21f;LATIN ;SMALL LETTER H WITH CARON;CAPITAL LETTER N WITH LONG RIGHT LEG",
  "221;LATIN ;SMALL LETTER D WITH CURL;CAPITAL LETTER OU;SMALL LETTER OU",
  "224;LATIN ;CAPITAL LETTER Z WITH HOOK;SMALL LETTER Z WITH HOOK;CAPITAL LETTER A WITH DOT ABOVE",
  "227;LATIN ;SMALL LETTER A WITH DOT ABOVE;CAPITAL LETTER E WITH CEDILLA",
  "229;LATIN ;SMALL LETTER E WITH CEDILLA;CAPITAL LETTER O WITH DIAERESIS AND MACRON",
  "22b;LATIN ;SMALL LETTER O WITH DIAERESIS AND MACRON;CAPITAL LETTER O WITH TILDE AND MACRON",
  "22d;LATIN ;SMALL LETTER O WITH TILDE AND MACRON;CAPITAL LETTER O WITH DOT ABOVE",
  "22f;LATIN ;SMALL LETTER O WITH DOT ABOVE;CAPITAL LETTER O WITH DOT ABOVE AND MACRON",
  "231;LATIN ;SMALL LETTER O WITH DOT ABOVE AND MACRON;CAPITAL LETTER Y WITH MACRON",
  "233;LATIN SMALL LETTER ;Y WITH MACRON;L WITH CURL;N WITH CURL;T WITH CURL;DOTLESS J;DB DIGRAPH",
  "239;LATIN ;SMALL LETTER QP DIGRAPH;CAPITAL LETTER A WITH STROKE;CAPITAL LETTER C WITH STROKE",
  "23c;LATIN ;SMALL LETTER C WITH STROKE;CAPITAL LETTER L WITH BAR",
  "23e;LATIN ;CAPITAL LETTER T WITH DIAGONAL STROKE;SMALL LETTER S WITH SWASH TAIL",
  "240;LATIN ;SMALL LETTER Z WITH SWASH TAIL;CAPITAL LETTER GLOTTAL STOP",
  "242;LATIN ;SMALL LETTER GLOTTAL STOP;CAPITAL LETTER B WITH STROKE;CAPITAL LETTER U BAR",
  "245;LATIN ;CAPITAL LETTER TURNED V;CAPITAL LETTER E WITH STROKE;SMALL LETTER E WITH STROKE",
  "248;LATIN ;CAPITAL LETTER J WITH STROKE;SMALL LETTER J WITH STROKE",
  "24a;LATIN ;CAPITAL LETTER SMALL Q WITH HOOK TAIL;SMALL LETTER Q WITH HOOK TAIL",
  "24c;LATIN ;CAPITAL LETTER R WITH STROKE;SMALL LETTER R WITH STROKE",
  "24e;LATIN ;CAPITAL LETTER Y WITH STROKE;SMALL LETTER Y WITH STROKE;SMALL LETTER TURNED A",
  "251;LATIN SMALL LETTER ;ALPHA;TURNED ALPHA;B WITH HOOK;OPEN O;C WITH CURL;D WITH TAIL",
  "257;LATIN SMALL LETTER ;D WITH HOOK;REVERSED E;SCHWA;SCHWA WITH HOOK;OPEN E;REVERSED OPEN E",
  "25d;LATIN SMALL LETTER ;REVERSED OPEN E WITH HOOK;CLOSED REVERSED OPEN E;DOTLESS J WITH STROKE",
  "260;LATIN ;SMALL LETTER G WITH HOOK;SMALL LETTER SCRIPT G;LETTER SMALL CAPITAL G",
  "263;LATIN SMALL LETTER ;GAMMA;RAMS HORN;TURNED H;H WITH HOOK;HENG WITH HOOK;I WITH STROKE;IOTA",
  "26a;LATIN ;LETTER SMALL CAPITAL I;SMALL LETTER L WITH MIDDLE TILDE;SMALL LETTER L WITH BELT",
  "26d;LATIN SMALL LETTER ;L WITH RETROFLEX HOOK;LEZH;TURNED M;TURNED M WITH LONG LEG;M WITH HOOK",
  "272;LATIN SMALL LETTER N WITH ;LEFT HOOK;RETROFLEX HOOK",
  "274;LATIN ;LETTER SMALL CAPITAL N;SMALL LETTER BARRED O;LETTER SMALL CAPITAL OE",
  "277;LATIN SMALL LETTER ;CLOSED OMEGA;PHI;TURNED R;TURNED R WITH LONG LEG;TURNED R WITH HOOK",
  "27c;LATIN SMALL LETTER ;R WITH LONG LEG;R WITH TAIL;R WITH FISHHOOK;REVERSED R WITH FISHHOOK",
  "280;LATIN ;LETTER SMALL CAPITAL R;LETTER SMALL CAPITAL INVERTED R;SMALL LETTER S WITH HOOK",
  "283;LATIN SMALL LETTER ;ESH;DOTLESS J WITH STROKE AND HOOK;SQUAT REVERSED ESH;ESH WITH CURL",
  "287;LATIN SMALL LETTER ;TURNED T;T WITH RETROFLEX HOOK;U BAR;UPSILON;V WITH HOOK;TURNED V",
  "28d;LATIN ;SMALL LETTER TURNED W;SMALL LETTER TURNED Y;LETTER SMALL CAPITAL Y",
  "290;LATIN SMALL LETTER ;Z WITH RETROFLEX HOOK;Z WITH CURL;EZH;EZH WITH CURL",
  "294;LATIN LETTER ;GLOTTAL STOP;PHARYNGEAL VOICED FRICATIVE;INVERTED GLOTTAL STOP;STRETCHED C",
  "298;LATIN ;LETTER BILABIAL CLICK;LETTER SMALL CAPITAL B;SMALL LETTER CLOSED OPEN E",
  "29b;LATIN LETTER SMALL CAPITAL ;G WITH HOOK;H",
  "29d;LATIN ;SMALL LETTER J WITH CROSSED-TAIL;SMALL LETTER TURNED K;LETTER SMALL CAPITAL L",
  "2a0;LATIN ;SMALL LETTER Q WITH HOOK;LETTER GLOTTAL STOP WITH STROKE",
  "2a2;LATIN ;LETTER REVERSED GLOTTAL STOP WITH STROKE;SMALL LETTER DZ DIGRAPH",
  "2a4;LATIN SMALL LETTER ;DEZH DIGRAPH;DZ DIGRAPH WITH CURL;TS DIGRAPH;TESH DIGRAPH",
  "2a8;LATIN SMALL LETTER ;TC DIGRAPH WITH CURL;FENG DIGRAPH;LS DIGRAPH;LZ DIGRAPH",
  "2ac;LATIN LETTER ;BILABIAL PERCUSSIVE;BIDENTAL PERCUSSIVE",
  "2ae;LATIN SMALL LETTER TURNED H WITH ;FISHHOOK;FISHHOOK AND TAIL",
  "2b0;MODIFIER LETTER SMALL ;H;H WITH HOOK;J;R;TURNED R;TURNED R WITH HOOK;CAPITAL INVERTED R;W",
  "2b8;MODIFIER LETTER ;SMALL Y;PRIME;DOUBLE PRIME;TURNED COMMA;APOSTROPHE;REVERSED COMMA",
  "2be;MODIFIER LETTER ;RIGHT HALF RING;LEFT HALF RING;GLOTTAL STOP;REVERSED GLOTTAL STOP",
  "2c2;MODIFIER LETTER ;LEFT ARROWHEAD;RIGHT ARROWHEAD;UP ARROWHEAD;DOWN ARROWHEAD",
  "2c6;;MODIFIER LETTER CIRCUMFLEX ACCENT;CARON;MODIFIER LETTER VERTICAL LINE",
  "2c9;MODIFIER LETTER ;MACRON;ACUTE ACCENT;GRAVE ACCENT;LOW VERTICAL LINE;LOW MACRON",
  "2ce;MODIFIER LETTER ;LOW GRAVE ACCENT;LOW ACUTE ACCENT;TRIANGULAR COLON;HALF TRIANGULAR COLON",
  "2d2;MODIFIER LETTER ;CENTRED RIGHT HALF RING;CENTRED LEFT HALF RING;UP TACK;DOWN TACK",
  "2d6;;MODIFIER LETTER PLUS SIGN;MODIFIER LETTER MINUS SIGN;BREVE;DOT ABOVE;RING ABOVE;OGONEK",
  "2dc;;SMALL TILDE;DOUBLE ACUTE ACCENT;MODIFIER LETTER RHOTIC HOOK;MODIFIER LETTER CROSS ACCENT",
  "2e0;MODIFIER LETTER SMALL ;GAMMA;L;S;X;REVERSED GLOTTAL STOP",
  "2e5;MODIFIER LETTER ;EXTRA-HIGH TONE BAR;HIGH TONE BAR;MID TONE BAR;LOW TONE BAR",
  "2e9;MODIFIER LETTER ;EXTRA-LOW TONE BAR;YIN DEPARTING TONE MARK;YANG DEPARTING TONE MARK",
  "2ec;MODIFIER LETTER ;VOICING;UNASPIRATED;DOUBLE APOSTROPHE;LOW DOWN ARROWHEAD;LOW UP ARROWHEAD",
  "2f1;MODIFIER LETTER ;LOW LEFT ARROWHEAD;LOW RIGHT ARROWHEAD;LOW RING;MIDDLE GRAVE ACCENT",
  "2f5;MODIFIER LETTER ;MIDDLE DOUBLE GRAVE ACCENT;MIDDLE DOUBLE ACUTE ACCENT;LOW TILDE",
  "2f8;MODIFIER LETTER ;RAISED COLON;BEGIN HIGH TONE;END HIGH TONE;BEGIN LOW TONE;END LOW TONE",
  "2fd;MODIFIER LETTER ;SHELF;OPEN SHELF;LOW LEFT ARROW",
  "300;COMBINING ;GRAVE ACCENT;ACUTE ACCENT;CIRCUMFLEX ACCENT;TILDE;MACRON;OVERLINE;BREVE",
  "307;COMBINING ;DOT ABOVE;DIAERESIS;HOOK ABOVE;RING ABOVE;DOUBLE ACUTE ACCENT;CARON",
  "30d;COMBINING ;VERTICAL LINE ABOVE;DOUBLE VERTICAL LINE ABOVE;DOUBLE GRAVE ACCENT;CANDRABINDU",
  "311;COMBINING ;INVERTED BREVE;TURNED COMMA ABOVE;COMMA ABOVE;REVERSED COMMA ABOVE",
  "315;COMBINING ;COMMA ABOVE RIGHT;GRAVE ACCENT BELOW;ACUTE ACCENT BELOW;LEFT TACK BELOW",
  "319;COMBINING ;RIGHT TACK BELOW;LEFT ANGLE ABOVE;HORN;LEFT HALF RING BELOW;UP TACK BELOW",
  "31e;COMBINING ;DOWN TACK BELOW;PLUS SIGN BELOW;MINUS SIGN BELOW;PALATALIZED HOOK BELOW",
  "322;COMBINING ;RETROFLEX HOOK BELOW;DOT BELOW;DIAERESIS BELOW;RING BELOW;COMMA BELOW;CEDILLA",
  "328;COMBINING ;OGONEK;VERTICAL LINE BELOW;BRIDGE BELOW;INVERTED DOUBLE ARCH BELOW;CARON BELOW",
  "32d;COMBINING ;CIRCUMFLEX ACCENT BELOW;BREVE BELOW;INVERTED BREVE BELOW;TILDE BELOW",
  "331;COMBINING ;MACRON BELOW;LOW LINE;DOUBLE LOW LINE;TILDE OVERLAY;SHORT STROKE OVERLAY",
  "336;COMBINING ;LONG STROKE OVERLAY;SHORT SOLIDUS OVERLAY;LONG SOLIDUS OVERLAY",
  "339;COMBINING ;RIGHT HALF RING BELOW;INVERTED BRIDGE BELOW;SQUARE BELOW;SEAGULL BELOW;X ABOVE",
  "33e;COMBINING ;VERTICAL TILDE;DOUBLE OVERLINE;GRAVE TONE MARK;ACUTE TONE MARK",
  "342;COMBINING GREEK ;PERISPOMENI;KORONIS;DIALYTIKA TONOS;YPOGEGRAMMENI",
  "346;COMBINING ;BRIDGE ABOVE;EQUALS SIGN BELOW;DOUBLE VERTICAL LINE BELOW;LEFT ANGLE BELOW",
  "34a;COMBINING ;NOT TILDE ABOVE;HOMOTHETIC ABOVE;ALMOST EQUAL TO ABOVE;LEFT RIGHT ARROW BELOW",
  "34e;COMBINING ;UPWARDS ARROW BELOW;GRAPHEME JOINER;RIGHT ARROWHEAD ABOVE;LEFT HALF RING ABOVE",
  "352;COMBINING ;FERMATA;X BELOW;LEFT ARROWHEAD BELOW;RIGHT ARROWHEAD BELOW",
  "356;COMBINING ;RIGHT ARROWHEAD AND UP ARROWHEAD BELOW;RIGHT HALF RING ABOVE;DOT ABOVE RIGHT",
  "359;COMBINING ;ASTERISK BELOW;DOUBLE RING BELOW;ZIGZAG ABOVE;DOUBLE BREVE BELOW;DOUBLE BREVE",
  "35e;COMBINING DOUBLE ;MACRON;MACRON BELOW;TILDE;INVERTED BREVE;RIGHTWARDS ARROW BELOW",
  "363;COMBINING LATIN SMALL LETTER ;A;E;I;O;U;C;D;H;M;R;T;V;X",
  "370;GREEK ;CAPITAL LETTER HETA;SMALL LETTER HETA;CAPITAL LETTER ARCHAIC SAMPI",
  "373;GREEK ;SMALL LETTER ARCHAIC SAMPI;NUMERAL SIGN;LOWER NUMERAL SIGN",
  "376;GREEK ;CAPITAL LETTER PAMPHYLIAN DIGAMMA;SMALL LETTER PAMPHYLIAN DIGAMMA",
  "37a;GREEK ;YPOGEGRAMMENI;SMALL REVERSED LUNATE SIGMA SYMBOL;SMALL DOTTED LUNATE SIGMA SYMBOL",
  "37d;GREEK ;SMALL REVERSED DOTTED LUNATE SIGMA SYMBOL;QUESTION MARK;CAPITAL LETTER YOT",
  "384;GREEK ;TONOS;DIALYTIKA TONOS;CAPITAL LETTER ALPHA WITH TONOS;ANO TELEIA",
  "388;GREEK CAPITAL LETTER ;EPSILON WITH TONOS;ETA WITH TONOS;IOTA WITH TONOS",
  "38c;;GREEK CAPITAL LETTER OMICRON WITH TONOS",
  "38e;GREEK CAPITAL LETTER ;UPSILON WITH TONOS;OMEGA WITH TONOS",
  "390;GREEK ;SMALL LETTER IOTA WITH DIALYTIKA AND TONOS;CAPITAL LETTER ALPHA;CAPITAL LETTER BETA",
  "393;GREEK CAPITAL LETTER ;GAMMA;DELTA;EPSILON;ZETA;ETA;THETA;IOTA;KAPPA;LAMDA;MU;NU;XI;OMICRON",
  "3a0;GREEK CAPITAL LETTER ;PI;RHO",
  "3a3;GREEK CAPITAL LETTER ;SIGMA;TAU;UPSILON;PHI;CHI;PSI;OMEGA;IOTA WITH DIALYTIKA",
  "3ab;GREEK ;CAPITAL LETTER UPSILON WITH DIALYTIKA;SMALL LETTER ALPHA WITH TONOS",
  "3ad;GREEK SMALL LETTER ;EPSILON WITH TONOS;ETA WITH TONOS;IOTA WITH TONOS",
  "3b0;GREEK SMALL LETTER ;UPSILON WITH DIALYTIKA AND TONOS;ALPHA;BETA;GAMMA;DELTA;EPSILON;ZETA",
  "3b7;GREEK SMALL LETTER ;ETA;THETA;IOTA;KAPPA;LAMDA;MU;NU;XI;OMICRON;PI;RHO;FINAL SIGMA;SIGMA",
  "3c4;GREEK SMALL LETTER ;TAU;UPSILON;PHI;CHI;PSI;OMEGA;IOTA WITH DIALYTIKA",
  "3cb;GREEK SMALL LETTER ;UPSILON WITH DIALYTIKA;OMICRON WITH TONOS;UPSILON WITH TONOS",
  "3ce;GREEK ;SMALL LETTER OMEGA WITH TONOS;CAPITAL KAI SYMBOL;BETA SYMBOL;THETA SYMBOL",
  "3d2;GREEK UPSILON WITH ;HOOK SYMBOL;ACUTE AND HOOK SYMBOL;DIAERESIS AND HOOK SYMBOL",
  "3d5;GREEK ;PHI SYMBOL;PI SYMBOL;KAI SYMBOL;LETTER ARCHAIC KOPPA;SMALL LETTER ARCHAIC KOPPA",
  "3da;GREEK ;LETTER STIGMA;SMALL LETTER STIGMA;LETTER DIGAMMA;SMALL LETTER DIGAMMA;LETTER KOPPA",
  "3df;GREEK ;SMALL LETTER KOPPA;LETTER SAMPI;SMALL LETTER SAMPI",
  "3e2;COPTIC ;CAPITAL LETTER SHEI;SMALL LETTER SHEI;CAPITAL LETTER FEI;SMALL LETTER FEI",
  "3e6;COPTIC ;CAPITAL LETTER KHEI;SMALL LETTER KHEI;CAPITAL LETTER HORI;SMALL LETTER HORI",
  "3ea;COPTIC ;CAPITAL LETTER GANGIA;SMALL LETTER GANGIA;CAPITAL LETTER SHIMA;SMALL LETTER SHIMA",
  "3ee;;COPTIC CAPITAL LETTER DEI;COPTIC SMALL LETTER DEI;GREEK KAPPA SYMBOL;GREEK RHO SYMBOL",
  "3f2;GREEK ;LUNATE SIGMA SYMBOL;LETTER YOT;CAPITAL THETA SYMBOL;LUNATE EPSILON SYMBOL",
  "3f6;GREEK ;REVERSED LUNATE EPSILON SYMBOL;CAPITAL LETTER SHO;SMALL LETTER SHO",
  "3f9;GREEK ;CAPITAL LUNATE SIGMA SYMBOL;CAPITAL LETTER SAN;SMALL LETTER SAN",
  "3fc;GREEK ;RHO WITH STROKE SYMBOL;CAPITAL REVERSED LUNATE SIGMA SYMBOL",
  "3fe;GREEK CAPITAL ;DOTTED LUNATE SIGMA SYMBOL;REVERSED DOTTED LUNATE SIGMA SYMBOL",
  "400;CYRILLIC CAPITAL LETTER ;IE WITH GRAVE;IO;DJE;GJE;UKRAINIAN IE;DZE",
  "406;CYRILLIC CAPITAL LETTER ;BYELORUSSIAN-UKRAINIAN I;YI;JE;LJE;NJE;TSHE;KJE;I WITH GRAVE",
  "40e;CYRILLIC CAPITAL LETTER ;SHORT U;DZHE;A;BE;VE;GHE;DE;IE;ZHE;ZE;I;SHORT I;KA;EL;EM;EN;O;PE",
  "420;CYRILLIC CAPITAL LETTER ;ER;ES;TE;U;EF;HA;TSE;CHE;SHA;SHCHA;HARD SIGN;YERU;SOFT SIGN;E;YU",
  "42f;CYRILLIC ;CAPITAL LETTER YA;SMALL LETTER A;SMALL LETTER BE;SMALL LETTER VE",
  "433;CYRILLIC SMALL LETTER ;GHE;DE;IE;ZHE;ZE;I;SHORT I;KA;EL;EM;EN;O;PE;ER;ES;TE;U;EF;HA;TSE",
  "447;CYRILLIC SMALL LETTER ;CHE;SHA;SHCHA;HARD SIGN;YERU;SOFT SIGN;E;YU;YA;IE WITH GRAVE;IO;DJE",
  "453;CYRILLIC SMALL LETTER ;GJE;UKRAINIAN IE;DZE;BYELORUSSIAN-UKRAINIAN I;YI;JE;LJE;NJE;TSHE",
  "45c;CYRILLIC SMALL LETTER ;KJE;I WITH GRAVE;SHORT U;DZHE",
  "460;CYRILLIC ;CAPITAL LETTER OMEGA;SMALL LETTER OMEGA;CAPITAL LETTER YAT;SMALL LETTER YAT",
  "464;CYRILLIC ;CAPITAL LETTER IOTIFIED E;SMALL LETTER IOTIFIED E;CAPITAL LETTER LITTLE YUS",
  "467;CYRILLIC ;SMALL LETTER LITTLE YUS;CAPITAL LETTER IOTIFIED LITTLE YUS",
  "469;CYRILLIC ;SMALL LETTER IOTIFIED LITTLE YUS;CAPITAL LETTER BIG YUS;SMALL LETTER BIG YUS",
  "46c;CYRILLIC ;CAPITAL LETTER IOTIFIED BIG YUS;SMALL LETTER IOTIFIED BIG YUS;CAPITAL LETTER KSI",
  "46f;CYRILLIC ;SMALL LETTER KSI;CAPITAL LETTER PSI;SMALL LETTER PSI;CAPITAL LETTER FITA",
  "473;CYRILLIC ;SMALL LETTER FITA;CAPITAL LETTER IZHITSA;SMALL LETTER IZHITSA",
  "476;;CYRILLIC CAPITAL LETTER IZHITSA WITH DOUBLE GRAVE ACCENT",
  "477;CYRILLIC ;SMALL LETTER IZHITSA WITH DOUBLE GRAVE ACCENT;CAPITAL LETTER UK;SMALL LETTER UK",
  "47a;CYRILLIC ;CAPITAL LETTER ROUND OMEGA;SMALL LETTER ROUND OMEGA",
  "47c;CYRILLIC ;CAPITAL LETTER OMEGA WITH TITLO;SMALL LETTER OMEGA WITH TITLO;CAPITAL LETTER OT",
  "47f;CYRILLIC ;SMALL LETTER OT;CAPITAL LETTER KOPPA;SMALL LETTER KOPPA;THOUSANDS SIGN",
  "483;COMBINING CYRILLIC ;TITLO;PALATALIZATION;DASIA PNEUMATA;PSILI PNEUMATA;POKRYTIE",
  "488;COMBINING CYRILLIC ;HUNDRED THOUSANDS SIGN;MILLIONS SIGN",
  "48a;CYRILLIC ;CAPITAL LETTER SHORT I WITH TAIL;SMALL LETTER SHORT I WITH TAIL",
  "48c;CYRILLIC ;CAPITAL LETTER SEMISOFT SIGN;SMALL LETTER SEMISOFT SIGN",
  "48e;CYRILLIC ;CAPITAL LETTER ER WITH TICK;SMALL LETTER ER WITH TICK",
  "490;CYRILLIC ;CAPITAL LETTER GHE WITH UPTURN;SMALL LETTER GHE WITH UPTURN",
  "492;CYRILLIC ;CAPITAL LETTER GHE WITH STROKE;SMALL LETTER GHE WITH STROKE",
  "494;CYRILLIC ;CAPITAL LETTER GHE WITH MIDDLE HOOK;SMALL LETTER GHE WITH MIDDLE HOOK",
  "496;CYRILLIC ;CAPITAL LETTER ZHE WITH DESCENDER;SMALL LETTER ZHE WITH DESCENDER",
  "498;CYRILLIC ;CAPITAL LETTER ZE WITH DESCENDER;SMALL LETTER ZE WITH DESCENDER",
  "49a;CYRILLIC ;CAPITAL LETTER KA WITH DESCENDER;SMALL LETTER KA WITH DESCENDER",
  "49c;CYRILLIC ;CAPITAL LETTER KA WITH VERTICAL STROKE;SMALL LETTER KA WITH VERTICAL STROKE",
  "49e;CYRILLIC ;CAPITAL LETTER KA WITH STROKE;SMALL LETTER KA WITH STROKE",
  "4a0;CYRILLIC ;CAPITAL LETTER BASHKIR KA;SMALL LETTER BASHKIR KA",
  "4a2;CYRILLIC ;CAPITAL LETTER EN WITH DESCENDER;SMALL LETTER EN WITH DESCENDER",
  "4a4;CYRILLIC ;CAPITAL LIGATURE EN GHE;SMALL LIGATURE EN GHE;CAPITAL LETTER PE WITH MIDDLE HOOK",
  "4a7;CYRILLIC ;SMALL LETTER PE WITH MIDDLE HOOK;CAPITAL LETTER ABKHASIAN HA",
  "4a9;CYRILLIC ;SMALL LETTER ABKHASIAN HA;CAPITAL LETTER ES WITH DESCENDER",
  "4ab;CYRILLIC ;SMALL LETTER ES WITH DESCENDER;CAPITAL LETTER TE WITH DESCENDER",
  "4ad;CYRILLIC ;SMALL LETTER TE WITH DESCENDER;CAPITAL LETTER STRAIGHT U;SMALL LETTER STRAIGHT U",
  "4b0;CYRILLIC ;CAPITAL LETTER STRAIGHT U WITH STROKE;SMALL LETTER STRAIGHT U WITH STROKE",
  "4b2;CYRILLIC ;CAPITAL LETTER HA WITH DESCENDER;SMALL LETTER HA WITH DESCENDER",
  "4b4;CYRILLIC ;CAPITAL LIGATURE TE TSE;SMALL LIGATURE TE TSE;CAPITAL LETTER CHE WITH DESCENDER",
  "4b7;CYRILLIC ;SMALL LETTER CHE WITH DESCENDER;CAPITAL LETTER CHE WITH VERTICAL STROKE",
  "4b9;CYRILLIC ;SMALL LETTER CHE WITH VERTICAL STROKE;CAPITAL LETTER SHHA;SMALL LETTER SHHA",
  "4bc;CYRILLIC ;CAPITAL LETTER ABKHASIAN CHE;SMALL LETTER ABKHASIAN CHE",
  "4be;;CYRILLIC CAPITAL LETTER ABKHASIAN CHE WITH DESCENDER",
  "4bf;CYRILLIC ;SMALL LETTER ABKHASIAN CHE WITH DESCENDER;LETTER PALOCHKA",
  "4c1;CYRILLIC ;CAPITAL LETTER ZHE WITH BREVE;SMALL LETTER ZHE WITH BREVE",
  "4c3;CYRILLIC ;CAPITAL LETTER KA WITH HOOK;SMALL LETTER KA WITH HOOK",
  "4c5;CYRILLIC ;CAPITAL LETTER EL WITH TAIL;SMALL LETTER EL WITH TAIL",
  "4c7;CYRILLIC ;CAPITAL LETTER EN WITH HOOK;SMALL LETTER EN WITH HOOK",
  "4c9;CYRILLIC ;CAPITAL LETTER EN WITH TAIL;SMALL LETTER EN WITH TAIL",
  "4cb;CYRILLIC ;CAPITAL LETTER KHAKASSIAN CHE;SMALL LETTER KHAKASSIAN CHE",
  "4cd;CYRILLIC ;CAPITAL LETTER EM WITH TAIL;SMALL LETTER EM WITH TAIL;SMALL LETTER PALOCHKA",
  "4d0;CYRILLIC ;CAPITAL LETTER A WITH BREVE;SMALL LETTER A WITH BREVE",
  "4d2;CYRILLIC ;CAPITAL LETTER A WITH DIAERESIS;SMALL LETTER A WITH DIAERESIS",
  "4d4;CYRILLIC ;CAPITAL LIGATURE A IE;SMALL LIGATURE A IE;CAPITAL LETTER IE WITH BREVE",
  "4d7;CYRILLIC ;SMALL LETTER IE WITH BREVE;CAPITAL LETTER SCHWA;SMALL LETTER SCHWA",
  "4da;CYRILLIC ;CAPITAL LETTER SCHWA WITH DIAERESIS;SMALL LETTER SCHWA WITH DIAERESIS",
  "4dc;CYRILLIC ;CAPITAL LETTER ZHE WITH DIAERESIS;SMALL LETTER ZHE WITH DIAERESIS",
  "4de;CYRILLIC ;CAPITAL LETTER ZE WITH DIAERESIS;SMALL LETTER ZE WITH DIAERESIS",
  "4e0;CYRILLIC ;CAPITAL LETTER ABKHASIAN DZE;SMALL LETTER ABKHASIAN DZE",
  "4e2;CYRILLIC ;CAPITAL LETTER I WITH MACRON;SMALL LETTER I WITH MACRON",
  "4e4;CYRILLIC ;CAPITAL LETTER I WITH DIAERESIS;SMALL LETTER I WITH DIAERESIS",
  "4e6;CYRILLIC ;CAPITAL LETTER O WITH DIAERESIS;SMALL LETTER O WITH DIAERESIS",
  "4e8;CYRILLIC ;CAPITAL LETTER BARRED O;SMALL LETTER BARRED O",
  "4ea;CYRILLIC ;CAPITAL LETTER BARRED O WITH DIAERESIS;SMALL LETTER BARRED O WITH DIAERESIS",
  "4ec;CYRILLIC ;CAPITAL LETTER E WITH DIAERESIS;SMALL LETTER E WITH DIAERESIS",
  "4ee;CYRILLIC ;CAPITAL LETTER U WITH MACRON;SMALL LETTER U WITH MACRON",
  "4f0;CYRILLIC ;CAPITAL LETTER U WITH DIAERESIS;SMALL LETTER U WITH DIAERESIS",
  "4f2;CYRILLIC ;CAPITAL LETTER U WITH DOUBLE ACUTE;SMALL LETTER U WITH DOUBLE ACUTE",
  "4f4;CYRILLIC ;CAPITAL LETTER CHE WITH DIAERESIS;SMALL LETTER CHE WITH DIAERESIS",
  "4f6;CYRILLIC ;CAPITAL LETTER GHE WITH DESCENDER;SMALL LETTER GHE WITH DESCENDER",
  "4f8;CYRILLIC ;CAPITAL LETTER YERU WITH DIAERESIS;SMALL LETTER YERU WITH DIAERESIS",
  "4fa;CYRILLIC ;CAPITAL LETTER GHE WITH STROKE AND HOOK;SMALL LETTER GHE WITH STROKE AND HOOK",
  "4fc;CYRILLIC ;CAPITAL LETTER HA WITH HOOK;SMALL LETTER HA WITH HOOK",
  "4fe;CYRILLIC ;CAPITAL LETTER HA WITH STROKE;SMALL LETTER HA WITH STROKE;CAPITAL LETTER KOMI DE",
  "501;CYRILLIC ;SMALL LETTER KOMI DE;CAPITAL LETTER KOMI DJE;SMALL LETTER KOMI DJE",
  "504;CYRILLIC ;CAPITAL LETTER KOMI ZJE;SMALL LETTER KOMI ZJE;CAPITAL LETTER KOMI DZJE",
  "507;CYRILLIC ;SMALL LETTER KOMI DZJE;CAPITAL LETTER KOMI LJE;SMALL LETTER KOMI LJE",
  "50a;CYRILLIC ;CAPITAL LETTER KOMI NJE;SMALL LETTER KOMI NJE;CAPITAL LETTER KOMI SJE",
  "50d;CYRILLIC ;SMALL LETTER KOMI SJE;CAPITAL LETTER KOMI TJE;SMALL LETTER KOMI TJE",
  "510;CYRILLIC ;CAPITAL LETTER REVERSED ZE;SMALL LETTER REVERSED ZE;CAPITAL LETTER EL WITH HOOK",
  "513;CYRILLIC ;SMALL LETTER EL WITH HOOK;CAPITAL LETTER LHA;SMALL LETTER LHA;CAPITAL LETTER RHA",
  "517;CYRILLIC ;SMALL LETTER RHA;CAPITAL LETTER YAE;SMALL LETTER YAE;CAPITAL LETTER QA",
  "51b;CYRILLIC ;SMALL LETTER QA;CAPITAL LETTER WE;SMALL LETTER WE;CAPITAL LETTER ALEUT KA",
  "51f;CYRILLIC ;SMALL LETTER ALEUT KA;CAPITAL LETTER EL WITH MIDDLE HOOK",
  "521;CYRILLIC ;SMALL LETTER EL WITH MIDDLE HOOK;CAPITAL LETTER EN WITH MIDDLE HOOK",
  "523;CYRILLIC ;SMALL LETTER EN WITH MIDDLE HOOK;CAPITAL LETTER PE WITH DESCENDER",
  "525;CYRILLIC ;SMALL LETTER PE WITH DESCENDER;CAPITAL LETTER SHHA WITH DESCENDER",
  "527;CYRILLIC ;SMALL LETTER SHHA WITH DESCENDER;CAPITAL LETTER EN WITH LEFT HOOK",
  "529;CYRILLIC ;SMALL LETTER EN WITH LEFT HOOK;CAPITAL LETTER DZZHE;SMALL LETTER DZZHE",
  "52c;CYRILLIC ;CAPITAL LETTER DCHE;SMALL LETTER DCHE;CAPITAL LETTER EL WITH DESCENDER",
  "52f;;CYRILLIC SMALL LETTER EL WITH DESCENDER",
  "531;ARMENIAN CAPITAL LETTER ;AYB;BEN;GIM;DA;ECH;ZA;EH;ET;TO;ZHE;INI;LIWN;XEH;CA;KEN;HO;JA;GHAD",
  "543;ARMENIAN CAPITAL LETTER ;CHEH;MEN;YI;NOW;SHA;VO;CHA;PEH;JHEH;RA;SEH;VEW;TIWN;REH;CO;YIWN",
  "553;ARMENIAN CAPITAL LETTER ;PIWR;KEH;OH;FEH",
  "559;ARMENIAN ;MODIFIER LETTER LEFT HALF RING;APOSTROPHE;EMPHASIS MARK;EXCLAMATION MARK;COMMA",
  "55e;ARMENIAN ;QUESTION MARK;ABBREVIATION MARK;SMALL LETTER TURNED AYB;SMALL LETTER AYB",
  "562;ARMENIAN SMALL LETTER ;BEN;GIM;DA;ECH;ZA;EH;ET;TO;ZHE;INI;LIWN;XEH;CA;KEN;HO;JA;GHAD;CHEH",
  "574;ARMENIAN SMALL LETTER ;MEN;YI;NOW;SHA;VO;CHA;PEH;JHEH;RA;SEH;VEW;TIWN;REH;CO;YIWN;PIWR;KEH",
  "585;ARMENIAN SMALL ;LETTER OH;LETTER FEH;LIGATURE ECH YIWN;LETTER YI WITH STROKE",
  "589;ARMENIAN ;FULL STOP;HYPHEN",
  "58d;;RIGHT-FACING ARMENIAN ETERNITY SIGN;LEFT-FACING ARMENIAN ETERNITY SIGN;ARMENIAN DRAM SIGN",
  "591;HEBREW ACCENT ;ETNAHTA;SEGOL;SHALSHELET;ZAQEF QATAN;ZAQEF GADOL;TIPEHA;REVIA;ZARQA;PASHTA",
  "59a;HEBREW ACCENT ;YETIV;TEVIR;GERESH;GERESH MUQDAM;GERSHAYIM;QARNEY PARA;TELISHA GEDOLA;PAZER",
  "5a2;HEBREW ACCENT ;ATNAH HAFUKH;MUNAH;MAHAPAKH;MERKHA;MERKHA KEFULA;DARGA;QADMA;TELISHA QETANA",
  "5aa;HEBREW ACCENT ;YERAH BEN YOMO;OLE;ILUY;DEHI;ZINOR",
  "5af;HEBREW ;MARK MASORA CIRCLE;POINT SHEVA;POINT HATAF SEGOL;POINT HATAF PATAH",
  "5b3;HEBREW POINT ;HATAF QAMATS;HIRIQ;TSERE;SEGOL;PATAH;QAMATS;HOLAM;HOLAM HASER FOR VAV;QUBUTS",
  "5bc;HEBREW ;POINT DAGESH OR MAPIQ;POINT METEG;PUNCTUATION MAQAF;POINT RAFE;PUNCTUATION PASEQ",
  "5c1;HEBREW ;POINT SHIN DOT;POINT SIN DOT;PUNCTUATION SOF PASUQ;MARK UPPER DOT;MARK LOWER DOT",
  "5c6;HEBREW ;PUNCTUATION NUN HAFUKHA;POINT QAMATS QATAN",
  "5d0;HEBREW LETTER ;ALEF;BET;GIMEL;DALET;HE;VAV;ZAYIN;HET;TET;YOD;FINAL KAF;KAF;LAMED;FINAL MEM",
  "5de;HEBREW LETTER ;MEM;FINAL NUN;NUN;SAMEKH;AYIN;FINAL PE;PE;FINAL TSADI;TSADI;QOF;RESH;SHIN",
  "5ea;;HEBREW LETTER TAV",
  "5ef;HEBREW ;YOD TRIANGLE;LIGATURE YIDDISH DOUBLE VAV;LIGATURE YIDDISH VAV YOD",
  "5f2;HEBREW ;LIGATURE YIDDISH DOUBLE YOD;PUNCTUATION GERESH;PUNCTUATION GERSHAYIM",
  "600;ARABIC ;NUMBER SIGN;SIGN SANAH;FOOTNOTE MARKER;SIGN SAFHA;SIGN SAMVAT;NUMBER MARK ABOVE",
  "606;;ARABIC-INDIC CUBE ROOT;ARABIC-INDIC FOURTH ROOT;ARABIC RAY;ARABIC-INDIC PER MILLE SIGN",
  "60a;;ARABIC-INDIC PER TEN THOUSAND SIGN;AFGHANI SIGN;ARABIC COMMA;ARABIC DATE SEPARATOR",
  "60e;ARABIC ;POETIC VERSE SIGN;SIGN MISRA;SIGN SALLALLAHOU ALAYHE WASSALLAM",
  "611;ARABIC SIGN ;ALAYHE ASSALLAM;RAHMATULLAH ALAYHE;RADI ALLAHOU ANHU;TAKHALLUS",
  "615;ARABIC SMALL ;HIGH TAH;HIGH LIGATURE ALEF WITH LAM WITH YEH;HIGH ZAIN;FATHA;DAMMA;KASRA",
  "61b;ARABIC ;SEMICOLON;LETTER MARK;END OF TEXT MARK;TRIPLE DOT PUNCTUATION MARK;QUESTION MARK",
  "620;ARABIC LETTER ;KASHMIRI YEH;HAMZA;ALEF WITH MADDA ABOVE;ALEF WITH HAMZA ABOVE",
  "624;ARABIC LETTER ;WAW WITH HAMZA ABOVE;ALEF WITH HAMZA BELOW;YEH WITH HAMZA ABOVE;ALEF;BEH",
  "629;ARABIC LETTER ;TEH MARBUTA;TEH;THEH;JEEM;HAH;KHAH;DAL;THAL;REH;ZAIN;SEEN;SHEEN;SAD;DAD;TAH",
  "638;ARABIC LETTER ;ZAH;AIN;GHAIN;KEHEH WITH TWO DOTS ABOVE;KEHEH WITH THREE DOTS BELOW",
  "63d;ARABIC LETTER FARSI YEH WITH ;INVERTED V;TWO DOTS ABOVE;THREE DOTS ABOVE",
  "640;ARABIC ;TATWEEL;LETTER FEH;LETTER QAF;LETTER KAF;LETTER LAM;LETTER MEEM;LETTER NOON",
  "647;ARABIC ;LETTER HEH;LETTER WAW;LETTER ALEF MAKSURA;LETTER YEH;FATHATAN;DAMMATAN;KASRATAN",
  "64e;ARABIC ;FATHA;DAMMA;KASRA;SHADDA;SUKUN;MADDAH ABOVE;HAMZA ABOVE;HAMZA BELOW;SUBSCRIPT ALEF",
  "657;ARABIC ;INVERTED DAMMA;MARK NOON GHUNNA;ZWARAKAY;VOWEL SIGN SMALL V ABOVE",
  "65b;ARABIC ;VOWEL SIGN INVERTED SMALL V ABOVE;VOWEL SIGN DOT BELOW;REVERSED DAMMA",
  "65e;;ARABIC FATHA WITH TWO DOTS;ARABIC WAVY HAMZA BELOW;ARABIC-INDIC DIGIT ZERO",
  "661;ARABIC-INDIC DIGIT ;ONE;TWO;THREE;FOUR;FIVE;SIX;SEVEN;EIGHT;NINE",
  "66a;ARABIC ;PERCENT SIGN;DECIMAL SEPARATOR;THOUSANDS SEPARATOR;FIVE POINTED STAR",
  "66e;ARABIC LETTER ;DOTLESS BEH;DOTLESS QAF;SUPERSCRIPT ALEF;ALEF WASLA",
  "672;ARABIC LETTER ;ALEF WITH WAVY HAMZA ABOVE;ALEF WITH WAVY HAMZA BELOW;HIGH HAMZA",
  "675;ARABIC LETTER ;HIGH HAMZA ALEF;HIGH HAMZA WAW;U WITH HAMZA ABOVE;HIGH HAMZA YEH;TTEH",
  "67a;ARABIC LETTER ;TTEHEH;BEEH;TEH WITH RING;TEH WITH THREE DOTS ABOVE DOWNWARDS;PEH;TEHEH",
  "680;ARABIC LETTER ;BEHEH;HAH WITH HAMZA ABOVE;HAH WITH TWO DOTS VERTICAL ABOVE;NYEH;DYEH",
  "685;ARABIC LETTER ;HAH WITH THREE DOTS ABOVE;TCHEH;TCHEHEH;DDAL;DAL WITH RING",
  "68a;ARABIC LETTER ;DAL WITH DOT BELOW;DAL WITH DOT BELOW AND SMALL TAH;DAHAL;DDAHAL;DUL",
  "68f;ARABIC LETTER ;DAL WITH THREE DOTS ABOVE DOWNWARDS;DAL WITH FOUR DOTS ABOVE;RREH",
  "692;ARABIC LETTER REH WITH ;SMALL V;RING;DOT BELOW;SMALL V BELOW;DOT BELOW AND DOT ABOVE",
  "697;ARABIC LETTER ;REH WITH TWO DOTS ABOVE;JEH;REH WITH FOUR DOTS ABOVE",
  "69a;ARABIC LETTER SEEN WITH ;DOT BELOW AND DOT ABOVE;THREE DOTS BELOW",
  "69c;ARABIC LETTER ;SEEN WITH THREE DOTS BELOW AND THREE DOTS ABOVE;SAD WITH TWO DOTS BELOW",
  "69e;ARABIC LETTER ;SAD WITH THREE DOTS ABOVE;TAH WITH THREE DOTS ABOVE",
  "6a0;ARABIC LETTER ;AIN WITH THREE DOTS ABOVE;DOTLESS FEH;FEH WITH DOT MOVED BELOW",
  "6a3;ARABIC LETTER ;FEH WITH DOT BELOW;VEH;FEH WITH THREE DOTS BELOW;PEHEH;QAF WITH DOT ABOVE",
  "6a8;ARABIC LETTER ;QAF WITH THREE DOTS ABOVE;KEHEH;SWASH KAF;KAF WITH RING;KAF WITH DOT ABOVE",
  "6ad;ARABIC LETTER ;NG;KAF WITH THREE DOTS BELOW;GAF;GAF WITH RING;NGOEH",
  "6b2;ARABIC LETTER ;GAF WITH TWO DOTS BELOW;GUEH;GAF WITH THREE DOTS ABOVE;LAM WITH SMALL V",
  "6b6;ARABIC LETTER LAM WITH ;DOT ABOVE;THREE DOTS ABOVE;THREE DOTS BELOW",
  "6b9;ARABIC LETTER ;NOON WITH DOT BELOW;NOON GHUNNA;RNOON;NOON WITH RING",
  "6bd;ARABIC LETTER ;NOON WITH THREE DOTS ABOVE;HEH DOACHASHMEE;TCHEH WITH DOT ABOVE",
  "6c0;ARABIC LETTER ;HEH WITH YEH ABOVE;HEH GOAL;HEH GOAL WITH HAMZA ABOVE;TEH MARBUTA GOAL",
  "6c4;ARABIC LETTER ;WAW WITH RING;KIRGHIZ OE;OE;U;YU;KIRGHIZ YU;WAW WITH TWO DOTS ABOVE;VE",
  "6cc;ARABIC LETTER ;FARSI YEH;YEH WITH TAIL;YEH WITH SMALL V;WAW WITH DOT ABOVE;E",
  "6d1;ARABIC LETTER YEH ;WITH THREE DOTS BELOW;BARREE;BARREE WITH HAMZA ABOVE",
  "6d4;ARABIC ;FULL STOP;LETTER AE;SMALL HIGH LIGATURE SAD WITH LAM WITH ALEF MAKSURA",
  "6d7;ARABIC SMALL HIGH ;LIGATURE QAF WITH LAM WITH ALEF MAKSURA;MEEM INITIAL FORM;LAM ALEF;JEEM",
  "6db;ARABIC ;SMALL HIGH THREE DOTS;SMALL HIGH SEEN;END OF AYAH;START OF RUB EL HIZB",
  "6df;ARABIC SMALL HIGH ;ROUNDED ZERO;UPRIGHT RECTANGULAR ZERO;DOTLESS HEAD OF KHAH",
  "6e2;ARABIC SMALL ;HIGH MEEM ISOLATED FORM;LOW SEEN;HIGH MADDA;WAW;YEH;HIGH YEH;HIGH NOON",
  "6e9;ARABIC ;PLACE OF SAJDAH;EMPTY CENTRE LOW STOP;EMPTY CENTRE HIGH STOP",
  "6ec;ARABIC ;ROUNDED HIGH STOP WITH FILLED CENTRE;SMALL LOW MEEM;LETTER DAL WITH INVERTED V",
  "6ef;;ARABIC LETTER REH WITH INVERTED V;EXTENDED ARABIC-INDIC DIGIT ZERO",
  "6f1;EXTENDED ARABIC-INDIC DIGIT ;ONE;TWO;THREE;FOUR;FIVE;SIX;SEVEN;EIGHT;NINE",
  "6fa;ARABIC LETTER ;SHEEN WITH DOT BELOW;DAD WITH DOT BELOW;GHAIN WITH DOT BELOW",
  "6fd;ARABIC ;SIGN SINDHI AMPERSAND;SIGN SINDHI POSTPOSITION MEN;LETTER HEH WITH INVERTED V",
  "700;SYRIAC ;END OF PARAGRAPH;SUPRALINEAR FULL STOP;SUBLINEAR FULL STOP;SUPRALINEAR COLON",
  "704;SYRIAC ;SUBLINEAR COLON;HORIZONTAL COLON;COLON SKEWED LEFT;COLON SKEWED RIGHT",
  "708;SYRIAC ;SUPRALINEAR COLON SKEWED LEFT;SUBLINEAR COLON SKEWED RIGHT;CONTRACTION",
  "70b;SYRIAC HARKLEAN ;OBELUS;METOBELUS;ASTERISCUS",
  "70f;SYRIAC ;ABBREVIATION MARK;LETTER ALAPH;LETTER SUPERSCRIPT ALAPH;LETTER BETH;LETTER GAMAL",
  "714;SYRIAC LETTER ;GAMAL GARSHUNI;DALATH;DOTLESS DALATH RISH;HE;WAW;ZAIN;HETH;TETH",
  "71c;SYRIAC LETTER ;TETH GARSHUNI;YUDH;YUDH HE;KAPH;LAMADH;MIM;NUN;SEMKATH;FINAL SEMKATH;E;PE",
  "727;SYRIAC LETTER ;REVERSED PE;SADHE;QAPH;RISH;SHIN;TAW;PERSIAN BHETH;PERSIAN GHAMAL",
  "72f;SYRIAC ;LETTER PERSIAN DHALATH;PTHAHA ABOVE;PTHAHA BELOW;PTHAHA DOTTED;ZQAPHA ABOVE",
  "734;SYRIAC ;ZQAPHA BELOW;ZQAPHA DOTTED;RBASA ABOVE;RBASA BELOW;DOTTED ZLAMA HORIZONTAL",
  "739;SYRIAC ;DOTTED ZLAMA ANGULAR;HBASA ABOVE;HBASA BELOW;HBASA-ESASA DOTTED;ESASA ABOVE",
  "73e;SYRIAC ;ESASA BELOW;RWAHA;FEMININE DOT;QUSHSHAYA;RUKKAKHA;TWO VERTICAL DOTS ABOVE",
  "744;SYRIAC ;TWO VERTICAL DOTS BELOW;THREE DOTS ABOVE;THREE DOTS BELOW;OBLIQUE LINE ABOVE",
  "748;SYRIAC ;OBLIQUE LINE BELOW;MUSIC;BARREKH",
  "74d;SYRIAC LETTER SOGDIAN ;ZHAIN;KHAPH;FE",
  "750;ARABIC LETTER BEH WITH ;THREE DOTS HORIZONTALLY BELOW;DOT BELOW AND THREE DOTS ABOVE",
  "752;ARABIC LETTER BEH WITH THREE DOTS POINTING UPWARDS ;BELOW;BELOW AND TWO DOTS ABOVE",
  "754;ARABIC LETTER BEH WITH ;TWO DOTS BELOW AND DOT ABOVE;INVERTED SMALL V BELOW;SMALL V",
  "757;ARABIC LETTER HAH WITH ;TWO DOTS ABOVE;THREE DOTS POINTING UPWARDS BELOW",
  "759;ARABIC LETTER DAL WITH ;TWO DOTS VERTICALLY BELOW AND SMALL TAH;INVERTED SMALL V BELOW",
  "75b;ARABIC LETTER ;REH WITH STROKE;SEEN WITH FOUR DOTS ABOVE;AIN WITH TWO DOTS ABOVE",
  "75e;ARABIC LETTER AIN WITH ;THREE DOTS POINTING DOWNWARDS ABOVE;TWO DOTS VERTICALLY ABOVE",
  "760;ARABIC LETTER FEH WITH ;TWO DOTS BELOW;THREE DOTS POINTING UPWARDS BELOW",
  "762;ARABIC LETTER KEHEH WITH ;DOT ABOVE;THREE DOTS ABOVE;THREE DOTS POINTING UPWARDS BELOW",
  "765;ARABIC LETTER ;MEEM WITH DOT ABOVE;MEEM WITH DOT BELOW;NOON WITH TWO DOTS BELOW",
  "768;ARABIC LETTER ;NOON WITH SMALL TAH;NOON WITH SMALL V;LAM WITH BAR",
  "76b;ARABIC LETTER REH WITH ;TWO DOTS VERTICALLY ABOVE;HAMZA ABOVE",
  "76d;ARABIC LETTER ;SEEN WITH TWO DOTS VERTICALLY ABOVE;HAH WITH SMALL ARABIC LETTER TAH BELOW",
  "76f;;ARABIC LETTER HAH WITH SMALL ARABIC LETTER TAH AND TWO DOTS",
  "770;;ARABIC LETTER SEEN WITH SMALL ARABIC LETTER TAH AND TWO DOTS",
  "771;;ARABIC LETTER REH WITH SMALL ARABIC LETTER TAH AND TWO DOTS",
  "772;;ARABIC LETTER HAH WITH SMALL ARABIC LETTER TAH ABOVE",
  "773;ARABIC LETTER ALEF WITH EXTENDED ARABIC-INDIC DIGIT ;TWO ABOVE;THREE ABOVE",
  "775;ARABIC LETTER FARSI YEH WITH EXTENDED ARABIC-INDIC DIGIT ;TWO ABOVE;THREE ABOVE;FOUR BELOW",
  "778;ARABIC LETTER WAW WITH EXTENDED ARABIC-INDIC DIGIT ;TWO ABOVE;THREE ABOVE",
  "77a;ARABIC LETTER YEH BARREE WITH EXTENDED ARABIC-INDIC DIGIT ;TWO ABOVE;THREE ABOVE",
  "77c;;ARABIC LETTER HAH WITH EXTENDED ARABIC-INDIC DIGIT FOUR BELOW",
  "77d;ARABIC LETTER SEEN WITH ;EXTENDED ARABIC-INDIC DIGIT FOUR ABOVE;INVERTED V",
  "77f;;ARABIC LETTER KAF WITH TWO DOTS ABOVE;THAANA LETTER HAA;THAANA LETTER SHAVIYANI",
  "782;THAANA LETTER ;NOONU;RAA;BAA;LHAVIYANI;KAAFU;ALIFU;VAAVU;MEEMU;FAAFU;DHAALU;THAA;LAAMU",
  "78e;THAANA LETTER ;GAAFU;GNAVIYANI;SEENU;DAVIYANI;ZAVIYANI;TAVIYANI;YAA;PAVIYANI;JAVIYANI",
  "797;THAANA LETTER ;CHAVIYANI;TTAA;HHAA;KHAA;THAALU;ZAA;SHEENU;SAADHU;DAADHU;TO;ZO;AINU;GHAINU",
  "7a4;THAANA ;LETTER QAAFU;LETTER WAAVU;ABAFILI;AABAAFILI;IBIFILI;EEBEEFILI;UBUFILI;OOBOOFILI",
  "7ac;THAANA ;EBEFILI;EYBEYFILI;OBOFILI;OABOAFILI;SUKUN;LETTER NAA",
  "7c0;NKO DIGIT ;ZERO;ONE;TWO;THREE;FOUR;FIVE;SIX;SEVEN;EIGHT;NINE",
  "7ca;NKO LETTER ;A;EE;I;E;U;OO;O;DAGBASINNA;N;BA;PA;TA;JA;CHA;DA;RA;RRA;SA;GBA;FA;KA;LA",
  "7e0;NKO LETTER ;NA WOLOSO;MA;NYA;NA;HA;WA;YA;NYA WOLOSO;JONA JA;JONA CHA;JONA RA",
  "7eb;NKO COMBINING ;SHORT HIGH TONE;SHORT LOW TONE;SHORT RISING TONE;LONG DESCENDING TONE",
  "7ef;NKO COMBINING ;LONG HIGH TONE;LONG LOW TONE;LONG RISING TONE;NASALIZATION MARK",
  "7f3;NKO ;COMBINING DOUBLE DOT ABOVE;HIGH TONE APOSTROPHE;LOW TONE APOSTROPHE;SYMBOL OO DENNEN",
  "7f7;NKO ;SYMBOL GBAKURUNEN;COMMA;EXCLAMATION MARK;LAJANYALAN",
  "7fd;;NKO DANTAYALAN;NKO DOROME SIGN;NKO TAMAN SIGN;SAMARITAN LETTER ALAF;SAMARITAN LETTER BIT",
  "802;SAMARITAN LETTER ;GAMAN;DALAT;IY;BAA;ZEN;IT;TIT;YUT;KAAF;LABAT;MIM;NUN;SINGAAT;IN;FI",
  "811;SAMARITAN ;LETTER TSAADIY;LETTER QUF;LETTER RISH;LETTER SHAN;LETTER TAAF;MARK IN",
  "817;SAMARITAN ;MARK IN-ALAF;MARK OCCLUSION;MARK DAGESH;MODIFIER LETTER EPENTHETIC YUT",
  "81b;SAMARITAN ;MARK EPENTHETIC YUT;VOWEL SIGN LONG E;VOWEL SIGN E;VOWEL SIGN OVERLONG AA",
  "81f;SAMARITAN VOWEL SIGN ;LONG AA;AA;OVERLONG A;LONG A;A",
  "824;SAMARITAN ;MODIFIER LETTER SHORT A;VOWEL SIGN SHORT A;VOWEL SIGN LONG U;VOWEL SIGN U",
  "828;SAMARITAN ;MODIFIER LETTER I;VOWEL SIGN LONG I;VOWEL SIGN I;VOWEL SIGN O;VOWEL SIGN SUKUN",
  "82d;;SAMARITAN MARK NEQUDAA",
  "830;SAMARITAN PUNCTUATION ;NEQUDAA;AFSAAQ;ANGED;BAU;ATMAAU;SHIYYAALAA",
  "836;SAMARITAN ;ABBREVIATION MARK;PUNCTUATION MELODIC QITSA;PUNCTUATION ZIQAA;PUNCTUATION QITSA",
  "83a;SAMARITAN PUNCTUATION ;ZAEF;TURU;ARKAANU;SOF MASHFAAT;ANNAAU",
  "840;MANDAIC LETTER ;HALQA;AB;AG;AD;AH;USHENNA;AZ;IT;ATT;AKSA;AK;AL;AM;AN;AS;IN;AP;ASZ;AQ;AR",
  "854;MANDAIC ;LETTER ASH;LETTER AT;LETTER DUSHENNA;LETTER KAD;LETTER AIN;AFFRICATION MARK",
  "85a;MANDAIC ;VOCALIZATION MARK;GEMINATION MARK",
  "85e;;MANDAIC PUNCTUATION",
  "860;SYRIAC LETTER MALAYALAM ;NGA;JA;NYA;TTA;NNA;NNNA;BHA;RA;LLA;LLLA;SSA",
  "870;ARABIC LETTER ALEF WITH ;ATTACHED FATHA;ATTACHED TOP RIGHT FATHA;RIGHT MIDDLE STROKE",
  "873;ARABIC LETTER ALEF WITH ;LEFT MIDDLE STROKE;ATTACHED KASRA;ATTACHED BOTTOM RIGHT KASRA",
  "876;ARABIC LETTER ALEF WITH ATTACHED ;ROUND DOT ABOVE;RIGHT ROUND DOT;LEFT ROUND DOT",
  "879;ARABIC LETTER ALEF WITH ;ATTACHED ROUND DOT BELOW;DOT ABOVE",
  "87b;;ARABIC LETTER ALEF WITH ATTACHED TOP RIGHT FATHA AND DOT ABOVE",
  "87c;;ARABIC LETTER ALEF WITH RIGHT MIDDLE STROKE AND DOT ABOVE",
  "87d;;ARABIC LETTER ALEF WITH ATTACHED BOTTOM RIGHT KASRA AND DOT ABOVE",
  "87e;;ARABIC LETTER ALEF WITH ATTACHED TOP RIGHT FATHA AND LEFT RING",
  "87f;;ARABIC LETTER ALEF WITH RIGHT MIDDLE STROKE AND LEFT RING",
  "880;ARABIC LETTER ALEF WITH ATTACHED ;BOTTOM RIGHT KASRA AND LEFT RING;RIGHT HAMZA;LEFT HAMZA",
  "883;ARABIC TATWEEL WITH ;OVERSTRUCK HAMZA;OVERSTRUCK WAW;TWO DOTS BELOW",
  "886;ARABIC ;LETTER THIN YEH;BASELINE ROUND DOT;RAISED ROUND DOT",
  "889;ARABIC LETTER ;NOON WITH INVERTED SMALL V;HAH WITH INVERTED SMALL V BELOW",
  "88b;ARABIC LETTER TAH WITH ;DOT BELOW;THREE DOTS BELOW",
  "88d;ARABIC ;LETTER KEHEH WITH TWO DOTS VERTICALLY BELOW;VERTICAL TAIL",
  "890;ARABIC ;POUND MARK ABOVE;PIASTRE MARK ABOVE",
  "898;ARABIC SMALL ;HIGH WORD AL-JUZ;LOW WORD ISHMAAM;LOW WORD IMAALA;LOW WORD TASHEEL",
  "89c;ARABIC ;MADDA WAAJIB;SUPERSCRIPT ALEF MOKHASSAS;DOUBLED MADDA;HALF MADDA OVER MADDA",
  "8a0;ARABIC LETTER ;BEH WITH SMALL V BELOW;BEH WITH HAMZA ABOVE;JEEM WITH TWO DOTS ABOVE",
  "8a3;ARABIC LETTER ;TAH WITH TWO DOTS ABOVE;FEH WITH DOT BELOW AND THREE DOTS ABOVE",
  "8a5;ARABIC LETTER ;QAF WITH DOT BELOW;LAM WITH DOUBLE BAR;MEEM WITH THREE DOTS ABOVE",
  "8a8;ARABIC LETTER YEH WITH TWO DOTS BELOW AND ;HAMZA ABOVE;DOT ABOVE",
  "8aa;ARABIC LETTER ;REH WITH LOOP;WAW WITH DOT WITHIN;ROHINGYA YEH;LOW ALEF",
  "8ae;ARABIC LETTER ;DAL WITH THREE DOTS BELOW;SAD WITH THREE DOTS BELOW",
  "8b0;ARABIC LETTER ;GAF WITH INVERTED STROKE;STRAIGHT WAW;ZAIN WITH INVERTED V ABOVE",
  "8b3;ARABIC LETTER ;AIN WITH THREE DOTS BELOW;KAF WITH DOT BELOW",
  "8b5;ARABIC LETTER ;QAF WITH DOT BELOW AND NO DOTS ABOVE;BEH WITH SMALL MEEM ABOVE",
  "8b7;ARABIC LETTER ;PEH WITH SMALL MEEM ABOVE;TEH WITH SMALL TEH ABOVE",
  "8b9;ARABIC LETTER ;REH WITH SMALL NOON ABOVE;YEH WITH TWO DOTS BELOW AND SMALL NOON ABOVE",
  "8bb;ARABIC LETTER ;AFRICAN FEH;AFRICAN QAF;AFRICAN NOON;PEH WITH SMALL V;TEH WITH SMALL V",
  "8c0;ARABIC LETTER ;TTEH WITH SMALL V;TCHEH WITH SMALL V;KEHEH WITH SMALL V",
  "8c3;ARABIC LETTER ;GHAIN WITH THREE DOTS ABOVE;AFRICAN QAF WITH THREE DOTS ABOVE",
  "8c5;ARABIC LETTER JEEM WITH THREE DOTS ;ABOVE;BELOW",
  "8c7;ARABIC ;LETTER LAM WITH SMALL ARABIC LETTER TAH ABOVE;LETTER GRAF;SMALL FARSI YEH",
  "8ca;ARABIC SMALL HIGH ;FARSI YEH;YEH BARREE WITH TWO DOTS BELOW;WORD SAH;ZAH",
  "8ce;ARABIC ;LARGE ROUND DOT ABOVE;LARGE ROUND DOT BELOW;SUKUN BELOW;LARGE CIRCLE BELOW",
  "8d2;ARABIC ;LARGE ROUND DOT INSIDE CIRCLE BELOW;SMALL LOW WAW;SMALL HIGH WORD AR-RUB",
  "8d5;ARABIC SMALL ;HIGH SAD;HIGH AIN;HIGH QAF;HIGH NOON WITH KASRA;LOW NOON WITH KASRA",
  "8da;ARABIC SMALL HIGH WORD ;ATH-THALATHA;AS-SAJDA;AN-NISF;SAKTA;QIF;WAQFA",
  "8e0;ARABIC ;SMALL HIGH FOOTNOTE MARKER;SMALL HIGH SIGN SAFHA;DISPUTED END OF AYAH",
  "8e3;ARABIC ;TURNED DAMMA BELOW;CURLY FATHA;CURLY DAMMA;CURLY KASRA;CURLY FATHATAN",
  "8e8;ARABIC ;CURLY DAMMATAN;CURLY KASRATAN;TONE ONE DOT ABOVE;TONE TWO DOTS ABOVE",
  "8ec;ARABIC TONE ;LOOP ABOVE;ONE DOT BELOW;TWO DOTS BELOW;LOOP BELOW",
  "8f0;ARABIC ;OPEN FATHATAN;OPEN DAMMATAN;OPEN KASRATAN;SMALL HIGH WAW;FATHA WITH RING",
  "8f5;ARABIC ;FATHA WITH DOT ABOVE;KASRA WITH DOT BELOW;LEFT ARROWHEAD ABOVE",
  "8f8;ARABIC ;RIGHT ARROWHEAD ABOVE;LEFT ARROWHEAD BELOW;RIGHT ARROWHEAD BELOW",
  "8fb;ARABIC DOUBLE RIGHT ARROWHEAD ;ABOVE;ABOVE WITH DOT",
  "8fd;ARABIC ;RIGHT ARROWHEAD ABOVE WITH DOT;DAMMA WITH DOT;MARK SIDEWAYS NOON GHUNNA",
  "900;DEVANAGARI SIGN ;INVERTED CANDRABINDU;CANDRABINDU;ANUSVARA;VISARGA",
  "904;DEVANAGARI LETTER ;SHORT A;A;AA;I;II;U;UU;VOCALIC R;VOCALIC L;CANDRA E;SHORT E;E;AI",
  "911;DEVANAGARI LETTER ;CANDRA O;SHORT O;O;AU;KA;KHA;GA;GHA;NGA;CA;CHA;JA;JHA;NYA;TTA;TTHA;DDA",
  "922;DEVANAGARI LETTER ;DDHA;NNA;TA;THA;DA;DHA;NA;NNNA;PA;PHA;BA;BHA;MA;YA;RA;RRA;LA;LLA;LLLA",
  "935;DEVANAGARI ;LETTER VA;LETTER SHA;LETTER SSA;LETTER SA;LETTER HA;VOWEL SIGN OE",
  "93b;DEVANAGARI ;VOWEL SIGN OOE;SIGN NUKTA;SIGN AVAGRAHA;VOWEL SIGN AA;VOWEL SIGN I",
  "940;DEVANAGARI VOWEL SIGN ;II;U;UU;VOCALIC R;VOCALIC RR;CANDRA E;SHORT E;E;AI;CANDRA O;SHORT O",
  "94b;DEVANAGARI ;VOWEL SIGN O;VOWEL SIGN AU;SIGN VIRAMA;VOWEL SIGN PRISHTHAMATRA E",
  "94f;DEVANAGARI ;VOWEL SIGN AW;OM;STRESS SIGN UDATTA;STRESS SIGN ANUDATTA;GRAVE ACCENT",
  "954;DEVANAGARI ;ACUTE ACCENT;VOWEL SIGN CANDRA LONG E;VOWEL SIGN UE;VOWEL SIGN UUE;LETTER QA",
  "959;DEVANAGARI LETTER ;KHHA;GHHA;ZA;DDDHA;RHA;FA;YYA;VOCALIC RR;VOCALIC LL",
  "962;DEVANAGARI ;VOWEL SIGN VOCALIC L;VOWEL SIGN VOCALIC LL;DANDA;DOUBLE DANDA;DIGIT ZERO",
  "967;DEVANAGARI DIGIT ;ONE;TWO;THREE;FOUR;FIVE;SIX;SEVEN;EIGHT;NINE",
  "970;DEVANAGARI ;ABBREVIATION SIGN;SIGN HIGH SPACING DOT;LETTER CANDRA A;LETTER OE;LETTER OOE",
  "975;DEVANAGARI LETTER ;AW;UE;UUE;MARWARI DDA;ZHA;HEAVY YA;GGA;JJA;GLOTTAL STOP;DDDA;BBA",
  "980;BENGALI ;ANJI;SIGN CANDRABINDU;SIGN ANUSVARA;SIGN VISARGA",
  "985;BENGALI LETTER ;A;AA;I;II;U;UU;VOCALIC R;VOCALIC L",
  "98f;BENGALI LETTER ;E;AI",
  "993;BENGALI LETTER ;O;AU;KA;KHA;GA;GHA;NGA;CA;CHA;JA;JHA;NYA;TTA;TTHA;DDA;DDHA;NNA;TA;THA;DA",
  "9a7;BENGALI LETTER ;DHA;NA",
  "9aa;BENGALI LETTER ;PA;PHA;BA;BHA;MA;YA;RA",
  "9b2;;BENGALI LETTER LA",
  "9b6;BENGALI LETTER ;SHA;SSA;SA;HA",
  "9bc;BENGALI ;SIGN NUKTA;SIGN AVAGRAHA;VOWEL SIGN AA;VOWEL SIGN I;VOWEL SIGN II;VOWEL SIGN U",
  "9c2;BENGALI VOWEL SIGN ;UU;VOCALIC R;VOCALIC RR",
  "9c7;BENGALI VOWEL SIGN ;E;AI",
  "9cb;BENGALI ;VOWEL SIGN O;VOWEL SIGN AU;SIGN VIRAMA;LETTER KHANDA TA",
  "9d7;;BENGALI AU LENGTH MARK",
  "9dc;BENGALI LETTER ;RRA;RHA",
  "9df;BENGALI ;LETTER YYA;LETTER VOCALIC RR;LETTER VOCALIC LL;VOWEL SIGN VOCALIC L",
  "9e3;;BENGALI VOWEL SIGN VOCALIC LL",
  "9e6;BENGALI DIGIT ;ZERO;ONE;TWO;THREE;FOUR;FIVE;SIX;SEVEN;EIGHT;NINE",
  "9f0;BENGALI ;LETTER RA WITH MIDDLE DIAGONAL;LETTER RA WITH LOWER DIAGONAL;RUPEE MARK",
  "9f3;BENGALI ;RUPEE SIGN;CURRENCY NUMERATOR ONE;CURRENCY NUMERATOR TWO;CURRENCY NUMERATOR THREE",
  "9f7;BENGALI CURRENCY NUMERATOR ;FOUR;ONE LESS THAN THE DENOMINATOR",
  "9f9;BENGALI ;CURRENCY DENOMINATOR SIXTEEN;ISSHAR;GANDA MARK;LETTER VEDIC ANUSVARA",
  "9fd;BENGALI ;ABBREVIATION SIGN;SANDHI MARK",
  "a01;GURMUKHI SIGN ;ADAK BINDI;BINDI;VISARGA",
  "a05;GURMUKHI LETTER ;A;AA;I;II;U;UU",
  "a0f;GURMUKHI LETTER ;EE;AI",
  "a13;GURMUKHI LETTER ;OO;AU;KA;KHA;GA;GHA;NGA;CA;CHA;JA;JHA;NYA;TTA;TTHA;DDA;DDHA;NNA;TA;THA;DA",
  "a27;GURMUKHI LETTER ;DHA;NA",
  "a2a;GURMUKHI LETTER ;PA;PHA;BA;BHA;MA;YA;RA",
  "a32;GURMUKHI LETTER ;LA;LLA",
  "a35;GURMUKHI LETTER ;VA;SHA",
  "a38;GURMUKHI LETTER ;SA;HA",
  "a3c;;GURMUKHI SIGN NUKTA",
  "a3e;GURMUKHI VOWEL SIGN ;AA;I;II;U;UU",
  "a47;GURMUKHI VOWEL SIGN ;EE;AI",
  "a4b;GURMUKHI ;VOWEL SIGN OO;VOWEL SIGN AU;SIGN VIRAMA",
  "a51;;GURMUKHI SIGN UDAAT",
  "a59;GURMUKHI LETTER ;KHHA;GHHA;ZA;RRA",
  "a5e;;GURMUKHI LETTER FA",
  "a66;GURMUKHI DIGIT ;ZERO;ONE;TWO;THREE;FOUR;FIVE;SIX;SEVEN;EIGHT;NINE",
  "a70;GURMUKHI ;TIPPI;ADDAK;IRI;URA;EK ONKAR;SIGN YAKASH;ABBREVIATION SIGN",
  "a81;GUJARATI SIGN ;CANDRABINDU;ANUSVARA;VISARGA",
  "a85;GUJARATI LETTER ;A;AA;I;II;U;UU;VOCALIC R;VOCALIC L",
  "a8d;;GUJARATI VOWEL CANDRA E",
  "a8f;GUJARATI ;LETTER E;LETTER AI;VOWEL CANDRA O",
  "a93;GUJARATI LETTER ;O;AU;KA;KHA;GA;GHA;NGA;CA;CHA;JA;JHA;NYA;TTA;TTHA;DDA;DDHA;NNA;TA;THA;DA",
  "aa7;GUJARATI LETTER ;DHA;NA",
  "aaa;GUJARATI LETTER ;PA;PHA;BA;BHA;MA;YA;RA",
  "ab2;GUJARATI LETTER ;LA;LLA",
  "ab5;GUJARATI LETTER ;VA;SHA;SSA;SA;HA",
  "abc;GUJARATI ;SIGN NUKTA;SIGN AVAGRAHA;VOWEL SIGN AA;VOWEL SIGN I;VOWEL SIGN II;VOWEL SIGN U",
  "ac2;GUJARATI VOWEL SIGN ;UU;VOCALIC R;VOCALIC RR;CANDRA E",
  "ac7;GUJARATI VOWEL SIGN ;E;AI;CANDRA O",
  "acb;GUJARATI ;VOWEL SIGN O;VOWEL SIGN AU;SIGN VIRAMA",
  "ad0;;GUJARATI OM",
  "ae0;GUJARATI ;LETTER VOCALIC RR;LETTER VOCALIC LL;VOWEL SIGN VOCALIC L;VOWEL SIGN VOCALIC LL",
  "ae6;GUJARATI DIGIT ;ZERO;ONE;TWO;THREE;FOUR;FIVE;SIX;SEVEN;EIGHT;NINE",
  "af0;GUJARATI ;ABBREVIATION SIGN;RUPEE SIGN",
  "af9;GUJARATI ;LETTER ZHA;SIGN SUKUN;SIGN SHADDA;SIGN MADDAH;SIGN THREE-DOT NUKTA ABOVE",
  "afe;GUJARATI SIGN ;CIRCLE NUKTA ABOVE;TWO-CIRCLE NUKTA ABOVE",
  "b01;ORIYA SIGN ;CANDRABINDU;ANUSVARA;VISARGA",
  "b05;ORIYA LETTER ;A;AA;I;II;U;UU;VOCALIC R;VOCALIC L",
  "b0f;ORIYA LETTER ;E;AI",
  "b13;ORIYA LETTER ;O;AU;KA;KHA;GA;GHA;NGA;CA;CHA;JA;JHA;NYA;TTA;TTHA;DDA;DDHA;NNA;TA;THA;DA;DHA",
  "b28;;ORIYA LETTER NA",
  "b2a;ORIYA LETTER ;PA;PHA;BA;BHA;MA;YA;RA",
  "b32;ORIYA LETTER ;LA;LLA",
  "b35;ORIYA LETTER ;VA;SHA;SSA;SA;HA",
  "b3c;ORIYA ;SIGN NUKTA;SIGN AVAGRAHA;VOWEL SIGN AA;VOWEL SIGN I;VOWEL SIGN II;VOWEL SIGN U",
  "b42;ORIYA VOWEL SIGN ;UU;VOCALIC R;VOCALIC RR",
  "b47;ORIYA VOWEL SIGN ;E;AI",
  "b4b;ORIYA ;VOWEL SIGN O;VOWEL SIGN AU;SIGN VIRAMA",
  "b55;ORIYA ;SIGN OVERLINE;AI LENGTH MARK;AU LENGTH MARK",
  "b5c;ORIYA LETTER ;RRA;RHA",
  "b5f;ORIYA ;LETTER YYA;LETTER VOCALIC RR;LETTER VOCALIC LL;VOWEL SIGN VOCALIC L",
  "b63;;ORIYA VOWEL SIGN VOCALIC LL",
  "b66;ORIYA DIGIT ;ZERO;ONE;TWO;THREE;FOUR;FIVE;SIX;SEVEN;EIGHT;NINE",
  "b70;ORIYA ;ISSHAR;LETTER WA;FRACTION ONE QUARTER;FRACTION ONE HALF;FRACTION THREE QUARTERS",
  "b75;ORIYA FRACTION ;ONE SIXTEENTH;ONE EIGHTH;THREE SIXTEENTHS",
  "b82;TAMIL SIGN ;ANUSVARA;VISARGA",
  "b85;TAMIL LETTER ;A;AA;I;II;U;UU",
  "b8e;TAMIL LETTER ;E;EE;AI",
  "b92;TAMIL LETTER ;O;OO;AU;KA",
  "b99;TAMIL LETTER ;NGA;CA",
  "b9c;;TAMIL LETTER JA",
  "b9e;TAMIL LETTER ;NYA;TTA",
  "ba3;TAMIL LETTER ;NNA;TA",
  "ba8;TAMIL LETTER ;NA;NNNA;PA",
  "bae;TAMIL LETTER ;MA;YA;RA;RRA;LA;LLA;LLLA;VA;SHA;SSA;SA;HA",
  "bbe;TAMIL VOWEL SIGN ;AA;I;II;U;UU",
  "bc6;TAMIL VOWEL SIGN ;E;EE;AI",
  "bca;TAMIL ;VOWEL SIGN O;VOWEL SIGN OO;VOWEL SIGN AU;SIGN VIRAMA",
  "bd0;;TAMIL OM",
  "bd7;;TAMIL AU LENGTH MARK",
  "be6;TAMIL DIGIT ;ZERO;ONE;TWO;THREE;FOUR;FIVE;SIX;SEVEN;EIGHT;NINE",
  "bf0;TAMIL ;NUMBER TEN;NUMBER ONE HUNDRED;NUMBER ONE THOUSAND;DAY SIGN;MONTH SIGN;YEAR SIGN",
  "bf6;TAMIL ;DEBIT SIGN;CREDIT SIGN;AS ABOVE SIGN;RUPEE SIGN;NUMBER SIGN",
  "c00;TELUGU SIGN ;COMBINING CANDRABINDU ABOVE;CANDRABINDU;ANUSVARA;VISARGA",
  "c04;TELUGU ;SIGN COMBINING ANUSVARA ABOVE;LETTER A;LETTER AA;LETTER I;LETTER II;LETTER U",
  "c0a;TELUGU LETTER ;UU;VOCALIC R;VOCALIC L",
  "c0e;TELUGU LETTER ;E;EE;AI",
  "c12;TELUGU LETTER ;O;OO;AU;KA;KHA;GA;GHA;NGA;CA;CHA;JA;JHA;NYA;TTA;TTHA;DDA;DDHA;NNA;TA;THA;DA",
  "c27;TELUGU LETTER ;DHA;NA",
  "c2a;TELUGU LETTER ;PA;PHA;BA;BHA;MA;YA;RA;RRA;LA;LLA;LLLA;VA;SHA;SSA;SA;HA",
  "c3c;TELUGU ;SIGN NUKTA;SIGN AVAGRAHA;VOWEL SIGN AA;VOWEL SIGN I;VOWEL SIGN II;VOWEL SIGN U",
  "c42;TELUGU VOWEL SIGN ;UU;VOCALIC R;VOCALIC RR",
  "c46;TELUGU VOWEL SIGN ;E;EE;AI",
  "c4a;TELUGU ;VOWEL SIGN O;VOWEL SIGN OO;VOWEL SIGN AU;SIGN VIRAMA",
  "c55;TELUGU ;LENGTH MARK;AI LENGTH MARK",
  "c58;TELUGU LETTER ;TSA;DZA;RRRA",
  "c5d;;TELUGU LETTER NAKAARA POLLU",
  "c60;TELUGU ;LETTER VOCALIC RR;LETTER VOCALIC LL;VOWEL SIGN VOCALIC L;VOWEL SIGN VOCALIC LL",
  "c66;TELUGU DIGIT ;ZERO;ONE;TWO;THREE;FOUR;FIVE;SIX;SEVEN;EIGHT;NINE",
  "c77;TELUGU ;SIGN SIDDHAM;FRACTION DIGIT ZERO FOR ODD POWERS OF FOUR",
  "c79;TELUGU FRACTION DIGIT ;ONE FOR ODD POWERS OF FOUR;TWO FOR ODD POWERS OF FOUR",
  "c7b;TELUGU FRACTION DIGIT ;THREE FOR ODD POWERS OF FOUR;ONE FOR EVEN POWERS OF FOUR",
  "c7d;TELUGU FRACTION DIGIT ;TWO FOR EVEN POWERS OF FOUR;THREE FOR EVEN POWERS OF FOUR",
  "c7f;;TELUGU SIGN TUUMU;KANNADA SIGN SPACING CANDRABINDU;KANNADA SIGN CANDRABINDU",
  "c82;KANNADA ;SIGN ANUSVARA;SIGN VISARGA;SIGN SIDDHAM;LETTER A;LETTER AA;LETTER I;LETTER II",
  "c89;KANNADA LETTER ;U;UU;VOCALIC R;VOCALIC L",
  "c8e;KANNADA LETTER ;E;EE;AI",
  "c92;KANNADA LETTER ;O;OO;AU;KA;KHA;GA;GHA;NGA;CA;CHA;JA;JHA;NYA;TTA;TTHA;DDA;DDHA;NNA;TA;THA",
  "ca6;KANNADA LETTER ;DA;DHA;NA",
  "caa;KANNADA LETTER ;PA;PHA;BA;BHA;MA;YA;RA;RRA;LA;LLA",
  "cb5;KANNADA LETTER ;VA;SHA;SSA;SA;HA",
  "cbc;KANNADA ;SIGN NUKTA;SIGN AVAGRAHA;VOWEL SIGN AA;VOWEL SIGN I;VOWEL SIGN II;VOWEL SIGN U",
  "cc2;KANNADA VOWEL SIGN ;UU;VOCALIC R;VOCALIC RR",
  "cc6;KANNADA VOWEL SIGN ;E;EE;AI",
  "cca;KANNADA ;VOWEL SIGN O;VOWEL SIGN OO;VOWEL SIGN AU;SIGN VIRAMA",
  "cd5;KANNADA ;LENGTH MARK;AI LENGTH MARK",
  "cdd;KANNADA LETTER ;NAKAARA POLLU;FA",
  "ce0;KANNADA ;LETTER VOCALIC RR;LETTER VOCALIC LL;VOWEL SIGN VOCALIC L;VOWEL SIGN VOCALIC LL",
  "ce6;KANNADA DIGIT ;ZERO;ONE;TWO;THREE;FOUR;FIVE;SIX;SEVEN;EIGHT;NINE",
  "cf1;KANNADA SIGN ;JIHVAMULIYA;UPADHMANIYA",
  "d00;MALAYALAM SIGN ;COMBINING ANUSVARA ABOVE;CANDRABINDU;ANUSVARA;VISARGA",
  "d04;MALAYALAM LETTER ;VEDIC ANUSVARA;A;AA;I;II;U;UU;VOCALIC R;VOCALIC L",
  "d0e;MALAYALAM LETTER ;E;EE;AI",
  "d12;MALAYALAM LETTER ;O;OO;AU;KA;KHA;GA;GHA;NGA;CA;CHA;JA;JHA;NYA;TTA;TTHA;DDA;DDHA;NNA;TA;THA",
  "d26;MALAYALAM LETTER ;DA;DHA;NA;NNNA;PA;PHA;BA;BHA;MA;YA;RA;RRA;LA;LLA;LLLA;VA;SHA;SSA;SA;HA",
  "d3a;MALAYALAM ;LETTER TTTA;SIGN VERTICAL BAR VIRAMA;SIGN CIRCULAR VIRAMA;SIGN AVAGRAHA",
  "d3e;MALAYALAM VOWEL SIGN ;AA;I;II;U;UU;VOCALIC R;VOCALIC RR",
  "d46;MALAYALAM VOWEL SIGN ;E;EE;AI",
  "d4a;MALAYALAM ;VOWEL SIGN O;VOWEL SIGN OO;VOWEL SIGN AU;SIGN VIRAMA;LETTER DOT REPH;SIGN PARA",
  "d54;MALAYALAM ;LETTER CHILLU M;LETTER CHILLU Y;LETTER CHILLU LLL;AU LENGTH MARK",
  "d58;MALAYALAM FRACTION ;ONE ONE-HUNDRED-AND-SIXTIETH;ONE FORTIETH;THREE EIGHTIETHS",
  "d5b;MALAYALAM FRACTION ;ONE TWENTIETH;ONE TENTH;THREE TWENTIETHS;ONE FIFTH",
  "d5f;MALAYALAM ;LETTER ARCHAIC II;LETTER VOCALIC RR;LETTER VOCALIC LL;VOWEL SIGN VOCALIC L",
  "d63;;MALAYALAM VOWEL SIGN VOCALIC LL",
  "d66;MALAYALAM DIGIT ;ZERO;ONE;TWO;THREE;FOUR;FIVE;SIX;SEVEN;EIGHT;NINE",
  "d70;MALAYALAM ;NUMBER TEN;NUMBER ONE HUNDRED;NUMBER ONE THOUSAND;FRACTION ONE QUARTER",
  "d74;MALAYALAM FRACTION ;ONE HALF;THREE QUARTERS;ONE SIXTEENTH;ONE EIGHTH;THREE SIXTEENTHS",
  "d79;MALAYALAM ;DATE MARK;LETTER CHILLU NN;LETTER CHILLU N;LETTER CHILLU RR;LETTER CHILLU L",
  "d7e;MALAYALAM LETTER CHILLU ;LL;K",
  "d81;SINHALA SIGN ;CANDRABINDU;ANUSVARAYA;VISARGAYA",
  "d85;SINHALA LETTER ;AYANNA;AAYANNA;AEYANNA;AEEYANNA;IYANNA;IIYANNA;UYANNA;UUYANNA;IRUYANNA",
  "d8e;SINHALA LETTER ;IRUUYANNA;ILUYANNA;ILUUYANNA;EYANNA;EEYANNA;AIYANNA;OYANNA;OOYANNA;AUYANNA",
  "d9a;SINHALA LETTER ;ALPAPRAANA KAYANNA;MAHAAPRAANA KAYANNA;ALPAPRAANA GAYANNA",
  "d9d;SINHALA LETTER ;MAHAAPRAANA GAYANNA;KANTAJA NAASIKYAYA;SANYAKA GAYANNA;ALPAPRAANA CAYANNA",
  "da1;SINHALA LETTER ;MAHAAPRAANA CAYANNA;ALPAPRAANA JAYANNA;MAHAAPRAANA JAYANNA",
  "da4;SINHALA LETTER ;TAALUJA NAASIKYAYA;TAALUJA SANYOOGA NAAKSIKYAYA;SANYAKA JAYANNA",
  "da7;SINHALA LETTER ;ALPAPRAANA TTAYANNA;MAHAAPRAANA TTAYANNA;ALPAPRAANA DDAYANNA",
  "daa;SINHALA LETTER ;MAHAAPRAANA DDAYANNA;MUURDHAJA NAYANNA;SANYAKA DDAYANNA;ALPAPRAANA TAYANNA",
  "dae;SINHALA LETTER ;MAHAAPRAANA TAYANNA;ALPAPRAANA DAYANNA;MAHAAPRAANA DAYANNA;DANTAJA NAYANNA",
  "db3;SINHALA LETTER ;SANYAKA DAYANNA;ALPAPRAANA PAYANNA;MAHAAPRAANA PAYANNA;ALPAPRAANA BAYANNA",
  "db7;SINHALA LETTER ;MAHAAPRAANA BAYANNA;MAYANNA;AMBA BAYANNA;YAYANNA;RAYANNA",
  "dbd;;SINHALA LETTER DANTAJA LAYANNA",
  "dc0;SINHALA LETTER ;VAYANNA;TAALUJA SAYANNA;MUURDHAJA SAYANNA;DANTAJA SAYANNA;HAYANNA",
  "dc5;SINHALA LETTER ;MUURDHAJA LAYANNA;FAYANNA",
  "dca;;SINHALA SIGN AL-LAKUNA",
  "dcf;SINHALA VOWEL SIGN ;AELA-PILLA;KETTI AEDA-PILLA;DIGA AEDA-PILLA;KETTI IS-PILLA",
  "dd3;SINHALA VOWEL SIGN ;DIGA IS-PILLA;KETTI PAA-PILLA",
  "dd6;;SINHALA VOWEL SIGN DIGA PAA-PILLA",
  "dd8;SINHALA VOWEL SIGN ;GAETTA-PILLA;KOMBUVA;DIGA KOMBUVA;KOMBU DEKA;KOMBUVA HAA AELA-PILLA",
  "ddd;SINHALA VOWEL SIGN ;KOMBUVA HAA DIGA AELA-PILLA;KOMBUVA HAA GAYANUKITTA;GAYANUKITTA",
  "de6;SINHALA LITH DIGIT ;ZERO;ONE;TWO;THREE;FOUR;FIVE;SIX;SEVEN;EIGHT;NINE",
  "df2;SINHALA ;VOWEL SIGN DIGA GAETTA-PILLA;VOWEL SIGN DIGA GAYANUKITTA;PUNCTUATION KUNDDALIYA",
  "e01;THAI CHARACTER ;KO KAI;KHO KHAI;KHO KHUAT;KHO KHWAI;KHO KHON;KHO RAKHANG;NGO NGU;CHO CHAN",
  "e09;THAI CHARACTER ;CHO CHING;CHO CHANG;SO SO;CHO CHOE;YO YING;DO CHADA;TO PATAK;THO THAN",
  "e11;THAI CHARACTER ;THO NANGMONTHO;THO PHUTHAO;NO NEN;DO DEK;TO TAO;THO THUNG;THO THAHAN",
  "e18;THAI CHARACTER ;THO THONG;NO NU;BO BAIMAI;PO PLA;PHO PHUNG;FO FA;PHO PHAN;FO FAN",
  "e20;THAI CHARACTER ;PHO SAMPHAO;MO MA;YO YAK;RO RUA;RU;LO LING;LU;WO WAEN;SO SALA;SO RUSI",
  "e2a;THAI CHARACTER ;SO SUA;HO HIP;LO CHULA;O ANG;HO NOKHUK;PAIYANNOI;SARA A;MAI HAN-AKAT",
  "e32;THAI CHARACTER ;SARA AA;SARA AM;SARA I;SARA II;SARA UE;SARA UEE;SARA U;SARA UU;PHINTHU",
  "e3f;THAI ;CURRENCY SYMBOL BAHT;CHARACTER SARA E;CHARACTER SARA AE;CHARACTER SARA O",
  "e43;THAI CHARACTER ;SARA AI MAIMUAN;SARA AI MAIMALAI;LAKKHANGYAO;MAIYAMOK;MAITAIKHU;MAI EK",
  "e49;THAI CHARACTER ;MAI THO;MAI TRI;MAI CHATTAWA;THANTHAKHAT;NIKHAHIT;YAMAKKAN;FONGMAN",
  "e50;THAI DIGIT ;ZERO;ONE;TWO;THREE;FOUR;FIVE;SIX;SEVEN;EIGHT;NINE",
  "e5a;THAI CHARACTER ;ANGKHANKHU;KHOMUT",
  "e81;LAO LETTER ;KO;KHO SUNG",
  "e84;;LAO LETTER KHO TAM",
  "e86;LAO LETTER ;PALI GHA;NGO;CO;PALI CHA;SO TAM",
  "e8c;LAO LETTER ;PALI JHA;NYO;PALI NYA;PALI TTA;PALI TTHA;PALI DDA;PALI DDHA;PALI NNA;DO;TO",
  "e96;LAO LETTER ;THO SUNG;THO TAM;PALI DHA;NO;BO;PO;PHO SUNG;FO TAM;PHO TAM;FO SUNG;PALI BHA;MO",
  "ea2;LAO LETTER ;YO;LO LING",
  "ea5;;LAO LETTER LO LOOT",
  "ea7;LAO LETTER ;WO;SANSKRIT SHA;SANSKRIT SSA;SO SUNG;HO SUNG;PALI LLA;O;HO TAM",
  "eaf;LAO ;ELLIPSIS;VOWEL SIGN A;VOWEL SIGN MAI KAN;VOWEL SIGN AA;VOWEL SIGN AM;VOWEL SIGN I",
  "eb5;LAO ;VOWEL SIGN II;VOWEL SIGN Y;VOWEL SIGN YY;VOWEL SIGN U;VOWEL SIGN UU;SIGN PALI VIRAMA",
  "ebb;LAO ;VOWEL SIGN MAI KON;SEMIVOWEL SIGN LO;SEMIVOWEL SIGN NYO",
  "ec0;LAO VOWEL SIGN ;E;EI;O;AY;AI",
  "ec6;;LAO KO LA",
  "ec8;LAO ;TONE MAI EK;TONE MAI THO;TONE MAI TI;TONE MAI CATAWA;CANCELLATION MARK;NIGGAHITA",
  "ed0;LAO DIGIT ;ZERO;ONE;TWO;THREE;FOUR;FIVE;SIX;SEVEN;EIGHT;NINE",
  "edc;LAO ;HO NO;HO MO;LETTER KHMU GO;LETTER KHMU NYO",
  "f00;TIBETAN ;SYLLABLE OM;MARK GTER YIG MGO TRUNCATED A;MARK GTER YIG MGO -UM RNAM BCAD MA",
  "f03;TIBETAN MARK ;GTER YIG MGO -UM GTER TSHEG MA;INITIAL YIG MGO MDUN MA",
  "f05;TIBETAN MARK ;CLOSING YIG MGO SGAB MA;CARET YIG MGO PHUR SHAD MA;YIG MGO TSHEG SHAD MA",
  "f08;TIBETAN MARK ;SBRUL SHAD;BSKUR YIG MGO;BKA- SHOG YIG MGO;INTERSYLLABIC TSHEG",
  "f0c;TIBETAN MARK ;DELIMITER TSHEG BSTAR;SHAD;NYIS SHAD;TSHEG SHAD;NYIS TSHEG SHAD",
  "f11;TIBETAN MARK ;RIN CHEN SPUNGS SHAD;RGYA GRAM SHAD;CARET -DZUD RTAGS ME LONG CAN;GTER TSHEG",
  "f15;TIBETAN LOGOTYPE SIGN ;CHAD RTAGS;LHAG RTAGS",
  "f17;TIBETAN ASTROLOGICAL SIGN ;SGRA GCAN -CHAR RTAGS;-KHYUD PA;SDONG TSHUGS",
  "f1a;TIBETAN SIGN RDEL ;DKAR GCIG;DKAR GNYIS;DKAR GSUM;NAG GCIG;NAG GNYIS;DKAR RDEL NAG",
  "f20;TIBETAN DIGIT ;ZERO;ONE;TWO;THREE;FOUR;FIVE;SIX;SEVEN;EIGHT;NINE;HALF ONE;HALF TWO",
  "f2c;TIBETAN DIGIT HALF ;THREE;FOUR;FIVE;SIX;SEVEN;EIGHT;NINE;ZERO",
  "f34;TIBETAN MARK ;BSDUS RTAGS;NGAS BZUNG NYI ZLA;CARET -DZUD RTAGS BZHI MIG CAN",
  "f37;TIBETAN MARK ;NGAS BZUNG SGOR RTAGS;CHE MGO;TSA -PHRU;GUG RTAGS GYON;GUG RTAGS GYAS",
  "f3c;TIBETAN ;MARK ANG KHANG GYON;MARK ANG KHANG GYAS;SIGN YAR TSHES;SIGN MAR TSHES;LETTER KA",
  "f41;TIBETAN LETTER ;KHA;GA;GHA;NGA;CA;CHA;JA",
  "f49;TIBETAN LETTER ;NYA;TTA;TTHA;DDA;DDHA;NNA;TA;THA;DA;DHA;NA;PA;PHA;BA;BHA;MA;TSA;TSHA;DZA",
  "f5c;TIBETAN LETTER ;DZHA;WA;ZHA;ZA;-A;YA;RA;LA;SHA;SSA;SA;HA;A;KSSA;FIXED-FORM RA;KKA;RRA",
  "f71;TIBETAN VOWEL SIGN ;AA;I;II;U;UU;VOCALIC R;VOCALIC RR;VOCALIC L;VOCALIC LL;E;EE;O;OO",
  "f7e;TIBETAN ;SIGN RJES SU NGA RO;SIGN RNAM BCAD;VOWEL SIGN REVERSED I;VOWEL SIGN REVERSED II",
  "f82;TIBETAN ;SIGN NYI ZLA NAA DA;SIGN SNA LDAN;MARK HALANTA;MARK PALUTA;SIGN LCI RTAGS",
  "f87;TIBETAN SIGN ;YANG RTAGS;LCE TSA CAN;MCHU CAN;GRU CAN RGYINGS;GRU MED RGYINGS",
  "f8c;TIBETAN ;SIGN INVERTED MCHU CAN;SUBJOINED SIGN LCE TSA CAN;SUBJOINED SIGN MCHU CAN",
  "f8f;TIBETAN SUBJOINED ;SIGN INVERTED MCHU CAN;LETTER KA;LETTER KHA;LETTER GA;LETTER GHA",
  "f94;TIBETAN SUBJOINED LETTER ;NGA;CA;CHA;JA",
  "f99;TIBETAN SUBJOINED LETTER ;NYA;TTA;TTHA;DDA;DDHA;NNA;TA;THA;DA;DHA;NA;PA;PHA;BA;BHA;MA;TSA",
  "faa;TIBETAN SUBJOINED LETTER ;TSHA;DZA;DZHA;WA;ZHA;ZA;-A;YA;RA;LA;SHA;SSA;SA;HA;A;KSSA",
  "fba;TIBETAN SUBJOINED LETTER FIXED-FORM ;WA;YA;RA",
  "fbe;TIBETAN ;KU RU KHA;KU RU KHA BZHI MIG CAN;CANTILLATION SIGN HEAVY BEAT",
  "fc1;TIBETAN CANTILLATION SIGN ;LIGHT BEAT;CANG TE-U;SBUB -CHAL",
  "fc4;TIBETAN SYMBOL ;DRIL BU;RDO RJE;PADMA GDAN;RDO RJE RGYA GRAM;PHUR PA;NOR BU",
  "fca;TIBETAN SYMBOL NOR BU ;NYIS -KHYIL;GSUM -KHYIL;BZHI -KHYIL",
  "fce;TIBETAN ;SIGN RDEL NAG RDEL DKAR;SIGN RDEL NAG GSUM;MARK BSKA- SHOG GI MGO RGYAN",
  "fd1;TIBETAN MARK ;MNYAM YIG GI MGO RGYAN;NYIS TSHEG;INITIAL BRDA RNYING YIG MGO MDUN MA",
  "fd4;;TIBETAN MARK CLOSING BRDA RNYING YIG MGO SGAB MA;RIGHT-FACING SVASTI SIGN",
  "fd6;;LEFT-FACING SVASTI SIGN;RIGHT-FACING SVASTI SIGN WITH DOTS",
  "fd8;;LEFT-FACING SVASTI SIGN WITH DOTS;TIBETAN MARK LEADING MCHAN RTAGS",
  "fda;;TIBETAN MARK TRAILING MCHAN RTAGS"]

end FoldTree.Text
