/-! Names of punctuation marks, currencies, arrows, signs of mathematics and technology, boxes and
patterns.
-/

namespace FoldTree.Text

/-- The names of punctuation marks and symbols. -/
def symbolLines : List String := [
  "2000;;EN QUAD;EM QUAD;EN SPACE;EM SPACE;THREE-PER-EM SPACE;FOUR-PER-EM SPACE;SIX-PER-EM SPACE",
  "2007;;FIGURE SPACE;PUNCTUATION SPACE;THIN SPACE;HAIR SPACE;ZERO WIDTH SPACE",
  "200c;;ZERO WIDTH NON-JOINER;ZERO WIDTH JOINER;LEFT-TO-RIGHT MARK;RIGHT-TO-LEFT MARK;HYPHEN",
  "2011;;NON-BREAKING HYPHEN;FIGURE DASH;EN DASH;EM DASH;HORIZONTAL BAR;DOUBLE VERTICAL LINE",
  "2017;;DOUBLE LOW LINE;LEFT SINGLE QUOTATION MARK;RIGHT SINGLE QUOTATION MARK",
  "201a;SINGLE ;LOW-9 QUOTATION MARK;HIGH-REVERSED-9 QUOTATION MARK",
  "201c;;LEFT DOUBLE QUOTATION MARK;RIGHT DOUBLE QUOTATION MARK;DOUBLE LOW-9 QUOTATION MARK",
  "201f;;DOUBLE HIGH-REVERSED-9 QUOTATION MARK;DAGGER;DOUBLE DAGGER;BULLET;TRIANGULAR BULLET",
  "2024;;ONE DOT LEADER;TWO DOT LEADER;HORIZONTAL ELLIPSIS;HYPHENATION POINT;LINE SEPARATOR",
  "2029;;PARAGRAPH SEPARATOR;LEFT-TO-RIGHT EMBEDDING;RIGHT-TO-LEFT EMBEDDING",
  "202c;;POP DIRECTIONAL FORMATTING;LEFT-TO-RIGHT OVERRIDE;RIGHT-TO-LEFT OVERRIDE",
  "202f;;NARROW NO-BREAK SPACE;PER MILLE SIGN;PER TEN THOUSAND SIGN;PRIME;DOUBLE PRIME",
  "2034;;TRIPLE PRIME;REVERSED PRIME;REVERSED DOUBLE PRIME;REVERSED TRIPLE PRIME;CARET",
  "2039;SINGLE ;LEFT-POINTING ANGLE QUOTATION MARK;RIGHT-POINTING ANGLE QUOTATION MARK",
  "203b;;REFERENCE MARK;DOUBLE EXCLAMATION MARK;INTERROBANG;OVERLINE;UNDERTIE;CHARACTER TIE",
  "2041;;CARET INSERTION POINT;ASTERISM;HYPHEN BULLET;FRACTION SLASH",
  "2045;;LEFT SQUARE BRACKET WITH QUILL;RIGHT SQUARE BRACKET WITH QUILL;DOUBLE QUESTION MARK",
  "2048;;QUESTION EXCLAMATION MARK;EXCLAMATION QUESTION MARK;TIRONIAN SIGN ET",
  "204b;;REVERSED PILCROW SIGN;BLACK LEFTWARDS BULLET;BLACK RIGHTWARDS BULLET;LOW ASTERISK",
  "204f;;REVERSED SEMICOLON;CLOSE UP;TWO ASTERISKS ALIGNED VERTICALLY;COMMERCIAL MINUS SIGN",
  "2053;;SWUNG DASH;INVERTED UNDERTIE;FLOWER PUNCTUATION MARK;THREE DOT PUNCTUATION",
  "2057;;QUADRUPLE PRIME;FOUR DOT PUNCTUATION;FIVE DOT PUNCTUATION;TWO DOT PUNCTUATION",
  "205b;;FOUR DOT MARK;DOTTED CROSS;TRICOLON;VERTICAL FOUR DOTS;MEDIUM MATHEMATICAL SPACE",
  "2060;;WORD JOINER;FUNCTION APPLICATION;INVISIBLE TIMES;INVISIBLE SEPARATOR;INVISIBLE PLUS",
  "2066;;LEFT-TO-RIGHT ISOLATE;RIGHT-TO-LEFT ISOLATE;FIRST STRONG ISOLATE;POP DIRECTIONAL ISOLATE",
  "206a;;INHIBIT SYMMETRIC SWAPPING;ACTIVATE SYMMETRIC SWAPPING;INHIBIT ARABIC FORM SHAPING",
  "206d;;ACTIVATE ARABIC FORM SHAPING;NATIONAL DIGIT SHAPES;NOMINAL DIGIT SHAPES;SUPERSCRIPT ZERO",
  "2071;;SUPERSCRIPT LATIN SMALL LETTER I",
  "2074;SUPERSCRIPT ;FOUR;FIVE;SIX;SEVEN;EIGHT;NINE;PLUS SIGN;MINUS;EQUALS SIGN;LEFT PARENTHESIS",
  "207e;;SUPERSCRIPT RIGHT PARENTHESIS;SUPERSCRIPT LATIN SMALL LETTER N;SUBSCRIPT ZERO",
  "2081;SUBSCRIPT ;ONE;TWO;THREE;FOUR;FIVE;SIX;SEVEN;EIGHT;NINE;PLUS SIGN;MINUS;EQUALS SIGN",
  "208d;SUBSCRIPT ;LEFT PARENTHESIS;RIGHT PARENTHESIS",
  "2090;LATIN SUBSCRIPT SMALL LETTER ;A;E;O;X;SCHWA;H;K;L;M;N;P;S;T",
  "20a0;;EURO-CURRENCY SIGN;COLON SIGN;CRUZEIRO SIGN;FRENCH FRANC SIGN;LIRA SIGN;MILL SIGN",
  "20a6;;NAIRA SIGN;PESETA SIGN;RUPEE SIGN;WON SIGN;NEW SHEQEL SIGN;DONG SIGN;EURO SIGN;KIP SIGN",
  "20ae;;TUGRIK SIGN;DRACHMA SIGN;GERMAN PENNY SIGN;PESO SIGN;GUARANI SIGN;AUSTRAL SIGN",
  "20b4;;HRYVNIA SIGN;CEDI SIGN;LIVRE TOURNOIS SIGN;SPESMILO SIGN;TENGE SIGN;INDIAN RUPEE SIGN",
  "20ba;;TURKISH LIRA SIGN;NORDIC MARK SIGN;MANAT SIGN;RUBLE SIGN;LARI SIGN;BITCOIN SIGN;SOM SIGN",
  "20d0;COMBINING ;LEFT HARPOON ABOVE;RIGHT HARPOON ABOVE;LONG VERTICAL LINE OVERLAY",
  "20d3;COMBINING ;SHORT VERTICAL LINE OVERLAY;ANTICLOCKWISE ARROW ABOVE;CLOCKWISE ARROW ABOVE",
  "20d6;COMBINING ;LEFT ARROW ABOVE;RIGHT ARROW ABOVE;RING OVERLAY;CLOCKWISE RING OVERLAY",
  "20da;COMBINING ;ANTICLOCKWISE RING OVERLAY;THREE DOTS ABOVE;FOUR DOTS ABOVE;ENCLOSING CIRCLE",
  "20de;COMBINING ENCLOSING ;SQUARE;DIAMOND;CIRCLE BACKSLASH",
  "20e1;COMBINING ;LEFT RIGHT ARROW ABOVE;ENCLOSING SCREEN;ENCLOSING KEYCAP",
  "20e4;COMBINING ;ENCLOSING UPWARD POINTING TRIANGLE;REVERSE SOLIDUS OVERLAY",
  "20e6;COMBINING ;DOUBLE VERTICAL STROKE OVERLAY;ANNUITY SYMBOL;TRIPLE UNDERDOT",
  "20e9;COMBINING ;WIDE BRIDGE ABOVE;LEFTWARDS ARROW OVERLAY;LONG DOUBLE SOLIDUS OVERLAY",
  "20ec;COMBINING ;RIGHTWARDS HARPOON WITH BARB DOWNWARDS;LEFTWARDS HARPOON WITH BARB DOWNWARDS",
  "20ee;COMBINING ;LEFT ARROW BELOW;RIGHT ARROW BELOW;ASTERISK ABOVE",
  "2100;;ACCOUNT OF;ADDRESSED TO THE SUBJECT;DOUBLE-STRUCK CAPITAL C;DEGREE CELSIUS",
  "2104;;CENTRE LINE SYMBOL;CARE OF;CADA UNA;EULER CONSTANT;SCRUPLE;DEGREE FAHRENHEIT",
  "210a;;SCRIPT SMALL G;SCRIPT CAPITAL H;BLACK-LETTER CAPITAL H;DOUBLE-STRUCK CAPITAL H",
  "210e;;PLANCK CONSTANT;PLANCK CONSTANT OVER TWO PI;SCRIPT CAPITAL I;BLACK-LETTER CAPITAL I",
  "2112;;SCRIPT CAPITAL L;SCRIPT SMALL L;L B BAR SYMBOL;DOUBLE-STRUCK CAPITAL N;NUMERO SIGN",
  "2117;;SOUND RECORDING COPYRIGHT;SCRIPT CAPITAL P;DOUBLE-STRUCK CAPITAL P",
  "211a;;DOUBLE-STRUCK CAPITAL Q;SCRIPT CAPITAL R;BLACK-LETTER CAPITAL R;DOUBLE-STRUCK CAPITAL R",
  "211e;;PRESCRIPTION TAKE;RESPONSE;SERVICE MARK;TELEPHONE SIGN;TRADE MARK SIGN;VERSICLE",
  "2124;;DOUBLE-STRUCK CAPITAL Z;OUNCE SIGN;OHM SIGN;INVERTED OHM SIGN;BLACK-LETTER CAPITAL Z",
  "2129;;TURNED GREEK SMALL LETTER IOTA;KELVIN SIGN;ANGSTROM SIGN;SCRIPT CAPITAL B",
  "212d;;BLACK-LETTER CAPITAL C;ESTIMATED SYMBOL;SCRIPT SMALL E;SCRIPT CAPITAL E;SCRIPT CAPITAL F",
  "2132;;TURNED CAPITAL F;SCRIPT CAPITAL M;SCRIPT SMALL O;ALEF SYMBOL;BET SYMBOL;GIMEL SYMBOL",
  "2138;;DALET SYMBOL;INFORMATION SOURCE;ROTATED CAPITAL Q;FACSIMILE SIGN;DOUBLE-STRUCK SMALL PI",
  "213d;DOUBLE-STRUCK ;SMALL GAMMA;CAPITAL GAMMA;CAPITAL PI;N-ARY SUMMATION",
  "2141;;TURNED SANS-SERIF CAPITAL G;TURNED SANS-SERIF CAPITAL L;REVERSED SANS-SERIF CAPITAL L",
  "2144;;TURNED SANS-SERIF CAPITAL Y;DOUBLE-STRUCK ITALIC CAPITAL D;DOUBLE-STRUCK ITALIC SMALL D",
  "2147;DOUBLE-STRUCK ITALIC SMALL ;E;I;J",
  "214a;;PROPERTY LINE;TURNED AMPERSAND;PER SIGN;AKTIESELSKAB;TURNED SMALL F",
  "214f;;SYMBOL FOR SAMARITAN SOURCE;VULGAR FRACTION ONE SEVENTH;VULGAR FRACTION ONE NINTH",
  "2152;VULGAR FRACTION ;ONE TENTH;ONE THIRD;TWO THIRDS;ONE FIFTH;TWO FIFTHS;THREE FIFTHS",
  "2158;VULGAR FRACTION ;FOUR FIFTHS;ONE SIXTH;FIVE SIXTHS;ONE EIGHTH;THREE EIGHTHS;FIVE EIGHTHS",
  "215e;;VULGAR FRACTION SEVEN EIGHTHS;FRACTION NUMERATOR ONE;ROMAN NUMERAL ONE;ROMAN NUMERAL TWO",
  "2162;ROMAN NUMERAL ;THREE;FOUR;FIVE;SIX;SEVEN;EIGHT;NINE;TEN;ELEVEN;TWELVE;FIFTY;ONE HUNDRED",
  "216e;;ROMAN NUMERAL FIVE HUNDRED;ROMAN NUMERAL ONE THOUSAND;SMALL ROMAN NUMERAL ONE",
  "2171;SMALL ROMAN NUMERAL ;TWO;THREE;FOUR;FIVE;SIX;SEVEN;EIGHT;NINE;TEN;ELEVEN;TWELVE;FIFTY",
  "217d;SMALL ROMAN NUMERAL ;ONE HUNDRED;FIVE HUNDRED;ONE THOUSAND",
  "2180;ROMAN NUMERAL ;ONE THOUSAND C D;FIVE THOUSAND;TEN THOUSAND;REVERSED ONE HUNDRED",
  "2184;;LATIN SMALL LETTER REVERSED C;ROMAN NUMERAL SIX LATE FORM;ROMAN NUMERAL FIFTY EARLY FORM",
  "2187;ROMAN NUMERAL ;FIFTY THOUSAND;ONE HUNDRED THOUSAND",
  "2189;;VULGAR FRACTION ZERO THIRDS;TURNED DIGIT TWO;TURNED DIGIT THREE",
  "2190;;LEFTWARDS ARROW;UPWARDS ARROW;RIGHTWARDS ARROW;DOWNWARDS ARROW;LEFT RIGHT ARROW",
  "2195;;UP DOWN ARROW;NORTH WEST ARROW;NORTH EAST ARROW;SOUTH EAST ARROW;SOUTH WEST ARROW",
  "219a;;LEFTWARDS ARROW WITH STROKE;RIGHTWARDS ARROW WITH STROKE;LEFTWARDS WAVE ARROW",
  "219d;;RIGHTWARDS WAVE ARROW;LEFTWARDS TWO HEADED ARROW;UPWARDS TWO HEADED ARROW",
  "21a0;;RIGHTWARDS TWO HEADED ARROW;DOWNWARDS TWO HEADED ARROW;LEFTWARDS ARROW WITH TAIL",
  "21a3;;RIGHTWARDS ARROW WITH TAIL;LEFTWARDS ARROW FROM BAR;UPWARDS ARROW FROM BAR",
  "21a6;;RIGHTWARDS ARROW FROM BAR;DOWNWARDS ARROW FROM BAR;UP DOWN ARROW WITH BASE",
  "21a9;;LEFTWARDS ARROW WITH HOOK;RIGHTWARDS ARROW WITH HOOK;LEFTWARDS ARROW WITH LOOP",
  "21ac;;RIGHTWARDS ARROW WITH LOOP;LEFT RIGHT WAVE ARROW;LEFT RIGHT ARROW WITH STROKE",
  "21af;;DOWNWARDS ZIGZAG ARROW;UPWARDS ARROW WITH TIP LEFTWARDS",
  "21b1;;UPWARDS ARROW WITH TIP RIGHTWARDS;DOWNWARDS ARROW WITH TIP LEFTWARDS",
  "21b3;;DOWNWARDS ARROW WITH TIP RIGHTWARDS;RIGHTWARDS ARROW WITH CORNER DOWNWARDS",
  "21b5;;DOWNWARDS ARROW WITH CORNER LEFTWARDS;ANTICLOCKWISE TOP SEMICIRCLE ARROW",
  "21b7;;CLOCKWISE TOP SEMICIRCLE ARROW;NORTH WEST ARROW TO LONG BAR",
  "21b9;;LEFTWARDS ARROW TO BAR OVER RIGHTWARDS ARROW TO BAR;ANTICLOCKWISE OPEN CIRCLE ARROW",
  "21bb;;CLOCKWISE OPEN CIRCLE ARROW;LEFTWARDS HARPOON WITH BARB UPWARDS",
  "21bd;;LEFTWARDS HARPOON WITH BARB DOWNWARDS;UPWARDS HARPOON WITH BARB RIGHTWARDS",
  "21bf;;UPWARDS HARPOON WITH BARB LEFTWARDS;RIGHTWARDS HARPOON WITH BARB UPWARDS",
  "21c1;;RIGHTWARDS HARPOON WITH BARB DOWNWARDS;DOWNWARDS HARPOON WITH BARB RIGHTWARDS",
  "21c3;;DOWNWARDS HARPOON WITH BARB LEFTWARDS;RIGHTWARDS ARROW OVER LEFTWARDS ARROW",
  "21c5;;UPWARDS ARROW LEFTWARDS OF DOWNWARDS ARROW;LEFTWARDS ARROW OVER RIGHTWARDS ARROW",
  "21c7;;LEFTWARDS PAIRED ARROWS;UPWARDS PAIRED ARROWS;RIGHTWARDS PAIRED ARROWS",
  "21ca;;DOWNWARDS PAIRED ARROWS;LEFTWARDS HARPOON OVER RIGHTWARDS HARPOON",
  "21cc;;RIGHTWARDS HARPOON OVER LEFTWARDS HARPOON;LEFTWARDS DOUBLE ARROW WITH STROKE",
  "21ce;;LEFT RIGHT DOUBLE ARROW WITH STROKE;RIGHTWARDS DOUBLE ARROW WITH STROKE",
  "21d0;;LEFTWARDS DOUBLE ARROW;UPWARDS DOUBLE ARROW;RIGHTWARDS DOUBLE ARROW",
  "21d3;;DOWNWARDS DOUBLE ARROW;LEFT RIGHT DOUBLE ARROW;UP DOWN DOUBLE ARROW",
  "21d6;;NORTH WEST DOUBLE ARROW;NORTH EAST DOUBLE ARROW;SOUTH EAST DOUBLE ARROW",
  "21d9;;SOUTH WEST DOUBLE ARROW;LEFTWARDS TRIPLE ARROW;RIGHTWARDS TRIPLE ARROW",
  "21dc;;LEFTWARDS SQUIGGLE ARROW;RIGHTWARDS SQUIGGLE ARROW;UPWARDS ARROW WITH DOUBLE STROKE",
  "21df;;DOWNWARDS ARROW WITH DOUBLE STROKE;LEFTWARDS DASHED ARROW;UPWARDS DASHED ARROW",
  "21e2;;RIGHTWARDS DASHED ARROW;DOWNWARDS DASHED ARROW;LEFTWARDS ARROW TO BAR",
  "21e5;;RIGHTWARDS ARROW TO BAR;LEFTWARDS WHITE ARROW;UPWARDS WHITE ARROW;RIGHTWARDS WHITE ARROW",
  "21e9;;DOWNWARDS WHITE ARROW;UPWARDS WHITE ARROW FROM BAR;UPWARDS WHITE ARROW ON PEDESTAL",
  "21ec;UPWARDS WHITE ARROW ON PEDESTAL WITH ;HORIZONTAL BAR;VERTICAL BAR",
  "21ee;UPWARDS WHITE DOUBLE ;ARROW;ARROW ON PEDESTAL",
  "21f0;;RIGHTWARDS WHITE ARROW FROM WALL;NORTH WEST ARROW TO CORNER;SOUTH EAST ARROW TO CORNER",
  "21f3;;UP DOWN WHITE ARROW;RIGHT ARROW WITH SMALL CIRCLE",
  "21f5;;DOWNWARDS ARROW LEFTWARDS OF UPWARDS ARROW;THREE RIGHTWARDS ARROWS",
  "21f7;;LEFTWARDS ARROW WITH VERTICAL STROKE;RIGHTWARDS ARROW WITH VERTICAL STROKE",
  "21f9;;LEFT RIGHT ARROW WITH VERTICAL STROKE;LEFTWARDS ARROW WITH DOUBLE VERTICAL STROKE",
  "21fb;;RIGHTWARDS ARROW WITH DOUBLE VERTICAL STROKE",
  "21fc;;LEFT RIGHT ARROW WITH DOUBLE VERTICAL STROKE;LEFTWARDS OPEN-HEADED ARROW",
  "21fe;;RIGHTWARDS OPEN-HEADED ARROW;LEFT RIGHT OPEN-HEADED ARROW;FOR ALL;COMPLEMENT",
  "2202;;PARTIAL DIFFERENTIAL;THERE EXISTS;THERE DOES NOT EXIST;EMPTY SET;INCREMENT;NABLA",
  "2208;;ELEMENT OF;NOT AN ELEMENT OF;SMALL ELEMENT OF;CONTAINS AS MEMBER",
  "220c;;DOES NOT CONTAIN AS MEMBER;SMALL CONTAINS AS MEMBER;END OF PROOF;N-ARY PRODUCT",
  "2210;;N-ARY COPRODUCT;N-ARY SUMMATION;MINUS SIGN;MINUS-OR-PLUS SIGN;DOT PLUS;DIVISION SLASH",
  "2216;;SET MINUS;ASTERISK OPERATOR;RING OPERATOR;BULLET OPERATOR;SQUARE ROOT;CUBE ROOT",
  "221c;;FOURTH ROOT;PROPORTIONAL TO;INFINITY;RIGHT ANGLE;ANGLE;MEASURED ANGLE;SPHERICAL ANGLE",
  "2223;;DIVIDES;DOES NOT DIVIDE;PARALLEL TO;NOT PARALLEL TO;LOGICAL AND;LOGICAL OR;INTERSECTION",
  "222a;;UNION;INTEGRAL;DOUBLE INTEGRAL;TRIPLE INTEGRAL;CONTOUR INTEGRAL;SURFACE INTEGRAL",
  "2230;;VOLUME INTEGRAL;CLOCKWISE INTEGRAL;CLOCKWISE CONTOUR INTEGRAL",
  "2233;;ANTICLOCKWISE CONTOUR INTEGRAL;THEREFORE;BECAUSE;RATIO;PROPORTION;DOT MINUS;EXCESS",
  "223a;;GEOMETRIC PROPORTION;HOMOTHETIC;TILDE OPERATOR;REVERSED TILDE;INVERTED LAZY S;SINE WAVE",
  "2240;;WREATH PRODUCT;NOT TILDE;MINUS TILDE;ASYMPTOTICALLY EQUAL TO;NOT ASYMPTOTICALLY EQUAL TO",
  "2245;APPROXIMATELY ;EQUAL TO;BUT NOT ACTUALLY EQUAL TO",
  "2247;;NEITHER APPROXIMATELY NOR ACTUALLY EQUAL TO;ALMOST EQUAL TO;NOT ALMOST EQUAL TO",
  "224a;;ALMOST EQUAL OR EQUAL TO;TRIPLE TILDE;ALL EQUAL TO;EQUIVALENT TO",
  "224e;;GEOMETRICALLY EQUIVALENT TO;DIFFERENCE BETWEEN;APPROACHES THE LIMIT",
  "2251;;GEOMETRICALLY EQUAL TO;APPROXIMATELY EQUAL TO OR THE IMAGE OF",
  "2253;;IMAGE OF OR APPROXIMATELY EQUAL TO;COLON EQUALS;EQUALS COLON;RING IN EQUAL TO",
  "2257;;RING EQUAL TO;CORRESPONDS TO;ESTIMATES;EQUIANGULAR TO;STAR EQUALS;DELTA EQUAL TO",
  "225d;;EQUAL TO BY DEFINITION;MEASURED BY;QUESTIONED EQUAL TO;NOT EQUAL TO;IDENTICAL TO",
  "2262;;NOT IDENTICAL TO;STRICTLY EQUIVALENT TO;LESS-THAN OR EQUAL TO;GREATER-THAN OR EQUAL TO",
  "2266;;LESS-THAN OVER EQUAL TO;GREATER-THAN OVER EQUAL TO;LESS-THAN BUT NOT EQUAL TO",
  "2269;;GREATER-THAN BUT NOT EQUAL TO;MUCH LESS-THAN;MUCH GREATER-THAN;BETWEEN;NOT EQUIVALENT TO",
  "226e;;NOT LESS-THAN;NOT GREATER-THAN;NEITHER LESS-THAN NOR EQUAL TO",
  "2271;;NEITHER GREATER-THAN NOR EQUAL TO;LESS-THAN OR EQUIVALENT TO",
  "2273;;GREATER-THAN OR EQUIVALENT TO;NEITHER LESS-THAN NOR EQUIVALENT TO",
  "2275;;NEITHER GREATER-THAN NOR EQUIVALENT TO;LESS-THAN OR GREATER-THAN",
  "2277;;GREATER-THAN OR LESS-THAN;NEITHER LESS-THAN NOR GREATER-THAN",
  "2279;;NEITHER GREATER-THAN NOR LESS-THAN;PRECEDES;SUCCEEDS;PRECEDES OR EQUAL TO",
  "227d;;SUCCEEDS OR EQUAL TO;PRECEDES OR EQUIVALENT TO;SUCCEEDS OR EQUIVALENT TO",
  "2280;;DOES NOT PRECEDE;DOES NOT SUCCEED;SUBSET OF;SUPERSET OF;NOT A SUBSET OF",
  "2285;;NOT A SUPERSET OF;SUBSET OF OR EQUAL TO;SUPERSET OF OR EQUAL TO",
  "2288;NEITHER A ;SUBSET OF NOR EQUAL TO;SUPERSET OF NOR EQUAL TO",
  "228a;;SUBSET OF WITH NOT EQUAL TO;SUPERSET OF WITH NOT EQUAL TO;MULTISET",
  "228d;;MULTISET MULTIPLICATION;MULTISET UNION;SQUARE IMAGE OF;SQUARE ORIGINAL OF",
  "2291;SQUARE ;IMAGE OF OR EQUAL TO;ORIGINAL OF OR EQUAL TO;CAP;CUP",
  "2295;CIRCLED ;PLUS;MINUS;TIMES;DIVISION SLASH;DOT OPERATOR;RING OPERATOR;ASTERISK OPERATOR",
  "229c;;CIRCLED EQUALS;CIRCLED DASH;SQUARED PLUS;SQUARED MINUS;SQUARED TIMES",
  "22a1;;SQUARED DOT OPERATOR;RIGHT TACK;LEFT TACK;DOWN TACK;UP TACK;ASSERTION;MODELS;TRUE;FORCES",
  "22aa;;TRIPLE VERTICAL BAR RIGHT TURNSTILE;DOUBLE VERTICAL BAR DOUBLE RIGHT TURNSTILE",
  "22ac;;DOES NOT PROVE;NOT TRUE;DOES NOT FORCE",
  "22af;;NEGATED DOUBLE VERTICAL BAR DOUBLE RIGHT TURNSTILE;PRECEDES UNDER RELATION",
  "22b1;;SUCCEEDS UNDER RELATION;NORMAL SUBGROUP OF;CONTAINS AS NORMAL SUBGROUP",
  "22b4;;NORMAL SUBGROUP OF OR EQUAL TO;CONTAINS AS NORMAL SUBGROUP OR EQUAL TO;ORIGINAL OF",
  "22b7;;IMAGE OF;MULTIMAP;HERMITIAN CONJUGATE MATRIX;INTERCALATE;XOR;NAND;NOR",
  "22be;;RIGHT ANGLE WITH ARC;RIGHT TRIANGLE;N-ARY LOGICAL AND;N-ARY LOGICAL OR",
  "22c2;;N-ARY INTERSECTION;N-ARY UNION;DIAMOND OPERATOR;DOT OPERATOR;STAR OPERATOR",
  "22c7;;DIVISION TIMES;BOWTIE;LEFT NORMAL FACTOR SEMIDIRECT PRODUCT",
  "22ca;;RIGHT NORMAL FACTOR SEMIDIRECT PRODUCT;LEFT SEMIDIRECT PRODUCT;RIGHT SEMIDIRECT PRODUCT",
  "22cd;;REVERSED TILDE EQUALS;CURLY LOGICAL OR;CURLY LOGICAL AND;DOUBLE SUBSET;DOUBLE SUPERSET",
  "22d2;;DOUBLE INTERSECTION;DOUBLE UNION;PITCHFORK;EQUAL AND PARALLEL TO;LESS-THAN WITH DOT",
  "22d7;;GREATER-THAN WITH DOT;VERY MUCH LESS-THAN;VERY MUCH GREATER-THAN",
  "22da;;LESS-THAN EQUAL TO OR GREATER-THAN;GREATER-THAN EQUAL TO OR LESS-THAN",
  "22dc;EQUAL TO OR ;LESS-THAN;GREATER-THAN;PRECEDES;SUCCEEDS",
  "22e0;;DOES NOT PRECEDE OR EQUAL;DOES NOT SUCCEED OR EQUAL;NOT SQUARE IMAGE OF OR EQUAL TO",
  "22e3;;NOT SQUARE ORIGINAL OF OR EQUAL TO;SQUARE IMAGE OF OR NOT EQUAL TO",
  "22e5;;SQUARE ORIGINAL OF OR NOT EQUAL TO;LESS-THAN BUT NOT EQUIVALENT TO",
  "22e7;;GREATER-THAN BUT NOT EQUIVALENT TO;PRECEDES BUT NOT EQUIVALENT TO",
  "22e9;;SUCCEEDS BUT NOT EQUIVALENT TO;NOT NORMAL SUBGROUP OF",
  "22eb;;DOES NOT CONTAIN AS NORMAL SUBGROUP;NOT NORMAL SUBGROUP OF OR EQUAL TO",
  "22ed;;DOES NOT CONTAIN AS NORMAL SUBGROUP OR EQUAL;VERTICAL ELLIPSIS",
  "22ef;;MIDLINE HORIZONTAL ELLIPSIS;UP RIGHT DIAGONAL ELLIPSIS;DOWN RIGHT DIAGONAL ELLIPSIS",
  "22f2;ELEMENT OF WITH ;LONG HORIZONTAL STROKE;VERTICAL BAR AT END OF HORIZONTAL STROKE",
  "22f4;;SMALL ELEMENT OF WITH VERTICAL BAR AT END OF HORIZONTAL STROKE;ELEMENT OF WITH DOT ABOVE",
  "22f6;;ELEMENT OF WITH OVERBAR;SMALL ELEMENT OF WITH OVERBAR;ELEMENT OF WITH UNDERBAR",
  "22f9;;ELEMENT OF WITH TWO HORIZONTAL STROKES;CONTAINS WITH LONG HORIZONTAL STROKE",
  "22fb;;CONTAINS WITH VERTICAL BAR AT END OF HORIZONTAL STROKE",
  "22fc;;SMALL CONTAINS WITH VERTICAL BAR AT END OF HORIZONTAL STROKE;CONTAINS WITH OVERBAR",
  "22fe;;SMALL CONTAINS WITH OVERBAR;Z NOTATION BAG MEMBERSHIP;DIAMETER SIGN;ELECTRIC ARROW;HOUSE",
  "2303;;UP ARROWHEAD;DOWN ARROWHEAD;PROJECTIVE;PERSPECTIVE;WAVY LINE;LEFT CEILING;RIGHT CEILING",
  "230a;;LEFT FLOOR;RIGHT FLOOR;BOTTOM RIGHT CROP;BOTTOM LEFT CROP;TOP RIGHT CROP;TOP LEFT CROP",
  "2310;;REVERSED NOT SIGN;SQUARE LOZENGE;ARC;SEGMENT;SECTOR;TELEPHONE RECORDER",
  "2316;;POSITION INDICATOR;VIEWDATA SQUARE;PLACE OF INTEREST SIGN;TURNED NOT SIGN;WATCH",
  "231b;;HOURGLASS;TOP LEFT CORNER;TOP RIGHT CORNER;BOTTOM LEFT CORNER;BOTTOM RIGHT CORNER",
  "2320;;TOP HALF INTEGRAL;BOTTOM HALF INTEGRAL;FROWN;SMILE",
  "2324;;UP ARROWHEAD BETWEEN TWO HORIZONTAL BARS;OPTION KEY;ERASE TO THE RIGHT",
  "2327;;X IN A RECTANGLE BOX;KEYBOARD;LEFT-POINTING ANGLE BRACKET;RIGHT-POINTING ANGLE BRACKET",
  "232b;;ERASE TO THE LEFT;BENZENE RING;CYLINDRICITY;ALL AROUND-PROFILE;SYMMETRY;TOTAL RUNOUT",
  "2331;;DIMENSION ORIGIN;CONICAL TAPER;SLOPE;COUNTERBORE;COUNTERSINK",
  "2336;APL FUNCTIONAL SYMBOL ;I-BEAM;SQUISH QUAD;QUAD EQUAL;QUAD DIVIDE;QUAD DIAMOND;QUAD JOT",
  "233c;APL FUNCTIONAL SYMBOL ;QUAD CIRCLE;CIRCLE STILE;CIRCLE JOT;SLASH BAR;BACKSLASH BAR",
  "2341;APL FUNCTIONAL SYMBOL QUAD ;SLASH;BACKSLASH;LESS-THAN;GREATER-THAN",
  "2345;APL FUNCTIONAL SYMBOL ;LEFTWARDS VANE;RIGHTWARDS VANE;QUAD LEFTWARDS ARROW",
  "2348;APL FUNCTIONAL SYMBOL ;QUAD RIGHTWARDS ARROW;CIRCLE BACKSLASH;DOWN TACK UNDERBAR",
  "234b;APL FUNCTIONAL SYMBOL ;DELTA STILE;QUAD DOWN CARET;QUAD DELTA;DOWN TACK JOT;UPWARDS VANE",
  "2350;APL FUNCTIONAL SYMBOL ;QUAD UPWARDS ARROW;UP TACK OVERBAR;DEL STILE;QUAD UP CARET",
  "2354;APL FUNCTIONAL SYMBOL ;QUAD DEL;UP TACK JOT;DOWNWARDS VANE;QUAD DOWNWARDS ARROW",
  "2358;APL FUNCTIONAL SYMBOL ;QUOTE UNDERBAR;DELTA UNDERBAR;DIAMOND UNDERBAR;JOT UNDERBAR",
  "235c;APL FUNCTIONAL SYMBOL ;CIRCLE UNDERBAR;UP SHOE JOT;QUOTE QUAD;CIRCLE STAR;QUAD COLON",
  "2361;APL FUNCTIONAL SYMBOL ;UP TACK DIAERESIS;DEL DIAERESIS;STAR DIAERESIS;JOT DIAERESIS",
  "2365;APL FUNCTIONAL SYMBOL ;CIRCLE DIAERESIS;DOWN SHOE STILE;LEFT SHOE STILE;TILDE DIAERESIS",
  "2369;APL FUNCTIONAL SYMBOL ;GREATER-THAN DIAERESIS;COMMA BAR;DEL TILDE;ZILDE;STILE TILDE",
  "236e;APL FUNCTIONAL SYMBOL ;SEMICOLON UNDERBAR;QUAD NOT EQUAL;QUAD QUESTION;DOWN CARET TILDE",
  "2372;APL FUNCTIONAL SYMBOL ;UP CARET TILDE;IOTA;RHO;OMEGA;ALPHA UNDERBAR;EPSILON UNDERBAR",
  "2378;APL FUNCTIONAL SYMBOL ;IOTA UNDERBAR;OMEGA UNDERBAR;ALPHA",
  "237b;;NOT CHECK MARK;RIGHT ANGLE WITH DOWNWARDS ZIGZAG ARROW;SHOULDERED OPEN BOX;BELL SYMBOL",
  "237f;;VERTICAL LINE WITH MIDDLE DOT;INSERTION SYMBOL;CONTINUOUS UNDERLINE SYMBOL",
  "2382;;DISCONTINUOUS UNDERLINE SYMBOL;EMPHASIS SYMBOL;COMPOSITION SYMBOL",
  "2385;;WHITE SQUARE WITH CENTRE VERTICAL LINE;ENTER SYMBOL;ALTERNATIVE KEY SYMBOL;HELM SYMBOL",
  "2389;CIRCLED ;HORIZONTAL BAR WITH NOTCH;TRIANGLE DOWN",
  "238b;;BROKEN CIRCLE WITH NORTHWEST ARROW;UNDO SYMBOL;MONOSTABLE SYMBOL;HYSTERESIS SYMBOL",
  "238f;OPEN-CIRCUIT-OUTPUT ;H-TYPE SYMBOL;L-TYPE SYMBOL",
  "2391;PASSIVE-PULL-;DOWN-OUTPUT SYMBOL;UP-OUTPUT SYMBOL",
  "2393;;DIRECT CURRENT SYMBOL FORM TWO;SOFTWARE-FUNCTION SYMBOL;APL FUNCTIONAL SYMBOL QUAD",
  "2396;;DECIMAL SEPARATOR KEY SYMBOL;PREVIOUS PAGE;NEXT PAGE;PRINT SCREEN SYMBOL",
  "239a;;CLEAR SCREEN SYMBOL;LEFT PARENTHESIS UPPER HOOK;LEFT PARENTHESIS EXTENSION",
  "239d;;LEFT PARENTHESIS LOWER HOOK;RIGHT PARENTHESIS UPPER HOOK;RIGHT PARENTHESIS EXTENSION",
  "23a0;;RIGHT PARENTHESIS LOWER HOOK;LEFT SQUARE BRACKET UPPER CORNER",
  "23a2;LEFT SQUARE BRACKET ;EXTENSION;LOWER CORNER",
  "23a4;RIGHT SQUARE BRACKET ;UPPER CORNER;EXTENSION;LOWER CORNER",
  "23a7;LEFT CURLY BRACKET ;UPPER HOOK;MIDDLE PIECE;LOWER HOOK",
  "23aa;;CURLY BRACKET EXTENSION;RIGHT CURLY BRACKET UPPER HOOK;RIGHT CURLY BRACKET MIDDLE PIECE",
  "23ad;;RIGHT CURLY BRACKET LOWER HOOK;INTEGRAL EXTENSION;HORIZONTAL LINE EXTENSION",
  "23b0;;UPPER LEFT OR LOWER RIGHT CURLY BRACKET SECTION",
  "23b1;;UPPER RIGHT OR LOWER LEFT CURLY BRACKET SECTION;SUMMATION TOP;SUMMATION BOTTOM",
  "23b4;;TOP SQUARE BRACKET;BOTTOM SQUARE BRACKET;BOTTOM SQUARE BRACKET OVER TOP SQUARE BRACKET",
  "23b7;;RADICAL SYMBOL BOTTOM;LEFT VERTICAL BOX LINE;RIGHT VERTICAL BOX LINE",
  "23ba;HORIZONTAL SCAN LINE-;1;3;7;9",
  "23be;DENTISTRY SYMBOL LIGHT VERTICAL ;AND TOP RIGHT;AND BOTTOM RIGHT;WITH CIRCLE",
  "23c1;DENTISTRY SYMBOL LIGHT ;DOWN AND HORIZONTAL WITH CIRCLE;UP AND HORIZONTAL WITH CIRCLE",
  "23c3;DENTISTRY SYMBOL LIGHT ;VERTICAL WITH TRIANGLE;DOWN AND HORIZONTAL WITH TRIANGLE",
  "23c5;DENTISTRY SYMBOL LIGHT ;UP AND HORIZONTAL WITH TRIANGLE;VERTICAL AND WAVE",
  "23c7;DENTISTRY SYMBOL LIGHT ;DOWN AND HORIZONTAL WITH WAVE;UP AND HORIZONTAL WITH WAVE",
  "23c9;DENTISTRY SYMBOL LIGHT ;DOWN AND HORIZONTAL;UP AND HORIZONTAL;VERTICAL AND TOP LEFT",
  "23cc;;DENTISTRY SYMBOL LIGHT VERTICAL AND BOTTOM LEFT;SQUARE FOOT;RETURN SYMBOL;EJECT SYMBOL",
  "23d0;;VERTICAL LINE EXTENSION;METRICAL BREVE;METRICAL LONG OVER SHORT;METRICAL SHORT OVER LONG",
  "23d4;METRICAL ;LONG OVER TWO SHORTS;TWO SHORTS OVER LONG;TWO SHORTS JOINED;TRISEME;TETRASEME",
  "23d9;;METRICAL PENTASEME;EARTH GROUND;FUSE;TOP PARENTHESIS;BOTTOM PARENTHESIS",
  "23de;;TOP CURLY BRACKET;BOTTOM CURLY BRACKET;TOP TORTOISE SHELL BRACKET",
  "23e1;;BOTTOM TORTOISE SHELL BRACKET;WHITE TRAPEZIUM;BENZENE RING WITH CIRCLE;STRAIGHTNESS",
  "23e5;;FLATNESS;AC CURRENT;ELECTRICAL INTERSECTION;DECIMAL EXPONENT SYMBOL",
  "23e9;BLACK ;RIGHT-POINTING DOUBLE TRIANGLE;LEFT-POINTING DOUBLE TRIANGLE",
  "23eb;BLACK ;UP-POINTING DOUBLE TRIANGLE;DOWN-POINTING DOUBLE TRIANGLE",
  "23ed;;BLACK RIGHT-POINTING DOUBLE TRIANGLE WITH VERTICAL BAR",
  "23ee;;BLACK LEFT-POINTING DOUBLE TRIANGLE WITH VERTICAL BAR",
  "23ef;;BLACK RIGHT-POINTING TRIANGLE WITH DOUBLE VERTICAL BAR;ALARM CLOCK;STOPWATCH;TIMER CLOCK",
  "23f3;;HOURGLASS WITH FLOWING SAND;BLACK MEDIUM LEFT-POINTING TRIANGLE",
  "23f5;BLACK MEDIUM ;RIGHT-POINTING TRIANGLE;UP-POINTING TRIANGLE;DOWN-POINTING TRIANGLE",
  "23f8;;DOUBLE VERTICAL BAR;BLACK SQUARE FOR STOP;BLACK CIRCLE FOR RECORD;POWER SYMBOL",
  "23fc;;POWER ON-OFF SYMBOL;POWER ON SYMBOL;POWER SLEEP SYMBOL;OBSERVER EYE SYMBOL",
  "2400;SYMBOL FOR ;NULL;START OF HEADING;START OF TEXT;END OF TEXT;END OF TRANSMISSION;ENQUIRY",
  "2406;SYMBOL FOR ;ACKNOWLEDGE;BELL;BACKSPACE;HORIZONTAL TABULATION;LINE FEED",
  "240b;SYMBOL FOR ;VERTICAL TABULATION;FORM FEED;CARRIAGE RETURN;SHIFT OUT;SHIFT IN",
  "2410;SYMBOL FOR ;DATA LINK ESCAPE;DEVICE CONTROL ONE;DEVICE CONTROL TWO;DEVICE CONTROL THREE",
  "2414;SYMBOL FOR ;DEVICE CONTROL FOUR;NEGATIVE ACKNOWLEDGE;SYNCHRONOUS IDLE",
  "2417;SYMBOL FOR ;END OF TRANSMISSION BLOCK;CANCEL;END OF MEDIUM;SUBSTITUTE;ESCAPE",
  "241c;SYMBOL FOR ;FILE SEPARATOR;GROUP SEPARATOR;RECORD SEPARATOR;UNIT SEPARATOR;SPACE;DELETE",
  "2422;;BLANK SYMBOL;OPEN BOX;SYMBOL FOR NEWLINE;SYMBOL FOR DELETE FORM TWO",
  "2426;;SYMBOL FOR SUBSTITUTE FORM TWO",
  "2440;OCR ;HOOK;CHAIR;FORK;INVERTED FORK;BELT BUCKLE;BOW TIE;BRANCH BANK IDENTIFICATION",
  "2447;OCR ;AMOUNT OF CHECK;DASH;CUSTOMER ACCOUNT NUMBER;DOUBLE BACKSLASH",
  "2460;CIRCLED DIGIT ;ONE;TWO;THREE;FOUR;FIVE;SIX;SEVEN;EIGHT;NINE",
  "2469;CIRCLED NUMBER ;TEN;ELEVEN;TWELVE;THIRTEEN;FOURTEEN;FIFTEEN;SIXTEEN;SEVENTEEN;EIGHTEEN",
  "2472;;CIRCLED NUMBER NINETEEN;CIRCLED NUMBER TWENTY;PARENTHESIZED DIGIT ONE",
  "2475;PARENTHESIZED DIGIT ;TWO;THREE;FOUR;FIVE;SIX;SEVEN;EIGHT;NINE",
  "247d;PARENTHESIZED NUMBER ;TEN;ELEVEN;TWELVE;THIRTEEN;FOURTEEN;FIFTEEN;SIXTEEN;SEVENTEEN",
  "2485;PARENTHESIZED NUMBER ;EIGHTEEN;NINETEEN;TWENTY",
  "2488;DIGIT ;ONE FULL STOP;TWO FULL STOP;THREE FULL STOP;FOUR FULL STOP;FIVE FULL STOP",
  "248d;DIGIT ;SIX FULL STOP;SEVEN FULL STOP;EIGHT FULL STOP;NINE FULL STOP",
  "2491;NUMBER ;TEN FULL STOP;ELEVEN FULL STOP;TWELVE FULL STOP;THIRTEEN FULL STOP",
  "2495;NUMBER ;FOURTEEN FULL STOP;FIFTEEN FULL STOP;SIXTEEN FULL STOP;SEVENTEEN FULL STOP",
  "2499;NUMBER ;EIGHTEEN FULL STOP;NINETEEN FULL STOP;TWENTY FULL STOP",
  "249c;PARENTHESIZED LATIN SMALL LETTER ;A;B;C;D;E;F;G;H;I;J;K;L;M;N;O;P;Q;R;S;T;U;V;W;X;Y;Z",
  "24b6;CIRCLED LATIN CAPITAL LETTER ;A;B;C;D;E;F;G;H;I;J;K;L;M;N;O;P;Q;R;S;T;U;V;W;X;Y;Z",
  "24d0;CIRCLED LATIN SMALL LETTER ;A;B;C;D;E;F;G;H;I;J;K;L;M;N;O;P;Q;R;S;T;U;V;W;X;Y;Z",
  "24ea;;CIRCLED DIGIT ZERO;NEGATIVE CIRCLED NUMBER ELEVEN;NEGATIVE CIRCLED NUMBER TWELVE",
  "24ed;NEGATIVE CIRCLED NUMBER ;THIRTEEN;FOURTEEN;FIFTEEN;SIXTEEN;SEVENTEEN;EIGHTEEN;NINETEEN",
  "24f4;;NEGATIVE CIRCLED NUMBER TWENTY;DOUBLE CIRCLED DIGIT ONE;DOUBLE CIRCLED DIGIT TWO",
  "24f7;DOUBLE CIRCLED DIGIT ;THREE;FOUR;FIVE;SIX;SEVEN;EIGHT;NINE",
  "24fe;;DOUBLE CIRCLED NUMBER TEN;NEGATIVE CIRCLED DIGIT ZERO;BOX DRAWINGS LIGHT HORIZONTAL",
  "2501;BOX DRAWINGS ;HEAVY HORIZONTAL;LIGHT VERTICAL;HEAVY VERTICAL;LIGHT TRIPLE DASH HORIZONTAL",
  "2505;BOX DRAWINGS ;HEAVY TRIPLE DASH HORIZONTAL;LIGHT TRIPLE DASH VERTICAL",
  "2507;BOX DRAWINGS ;HEAVY TRIPLE DASH VERTICAL;LIGHT QUADRUPLE DASH HORIZONTAL",
  "2509;BOX DRAWINGS ;HEAVY QUADRUPLE DASH HORIZONTAL;LIGHT QUADRUPLE DASH VERTICAL",
  "250b;BOX DRAWINGS ;HEAVY QUADRUPLE DASH VERTICAL;LIGHT DOWN AND RIGHT",
  "250d;BOX DRAWINGS ;DOWN LIGHT AND RIGHT HEAVY;DOWN HEAVY AND RIGHT LIGHT;HEAVY DOWN AND RIGHT",
  "2510;BOX DRAWINGS ;LIGHT DOWN AND LEFT;DOWN LIGHT AND LEFT HEAVY;DOWN HEAVY AND LEFT LIGHT",
  "2513;BOX DRAWINGS ;HEAVY DOWN AND LEFT;LIGHT UP AND RIGHT;UP LIGHT AND RIGHT HEAVY",
  "2516;BOX DRAWINGS ;UP HEAVY AND RIGHT LIGHT;HEAVY UP AND RIGHT;LIGHT UP AND LEFT",
  "2519;BOX DRAWINGS ;UP LIGHT AND LEFT HEAVY;UP HEAVY AND LEFT LIGHT;HEAVY UP AND LEFT",
  "251c;BOX DRAWINGS ;LIGHT VERTICAL AND RIGHT;VERTICAL LIGHT AND RIGHT HEAVY",
  "251e;BOX DRAWINGS ;UP HEAVY AND RIGHT DOWN LIGHT;DOWN HEAVY AND RIGHT UP LIGHT",
  "2520;BOX DRAWINGS ;VERTICAL HEAVY AND RIGHT LIGHT;DOWN LIGHT AND RIGHT UP HEAVY",
  "2522;BOX DRAWINGS ;UP LIGHT AND RIGHT DOWN HEAVY;HEAVY VERTICAL AND RIGHT",
  "2524;BOX DRAWINGS ;LIGHT VERTICAL AND LEFT;VERTICAL LIGHT AND LEFT HEAVY",
  "2526;BOX DRAWINGS ;UP HEAVY AND LEFT DOWN LIGHT;DOWN HEAVY AND LEFT UP LIGHT",
  "2528;BOX DRAWINGS ;VERTICAL HEAVY AND LEFT LIGHT;DOWN LIGHT AND LEFT UP HEAVY",
  "252a;BOX DRAWINGS ;UP LIGHT AND LEFT DOWN HEAVY;HEAVY VERTICAL AND LEFT",
  "252c;BOX DRAWINGS ;LIGHT DOWN AND HORIZONTAL;LEFT HEAVY AND RIGHT DOWN LIGHT",
  "252e;BOX DRAWINGS ;RIGHT HEAVY AND LEFT DOWN LIGHT;DOWN LIGHT AND HORIZONTAL HEAVY",
  "2530;BOX DRAWINGS ;DOWN HEAVY AND HORIZONTAL LIGHT;RIGHT LIGHT AND LEFT DOWN HEAVY",
  "2532;BOX DRAWINGS ;LEFT LIGHT AND RIGHT DOWN HEAVY;HEAVY DOWN AND HORIZONTAL",
  "2534;BOX DRAWINGS ;LIGHT UP AND HORIZONTAL;LEFT HEAVY AND RIGHT UP LIGHT",
  "2536;BOX DRAWINGS ;RIGHT HEAVY AND LEFT UP LIGHT;UP LIGHT AND HORIZONTAL HEAVY",
  "2538;BOX DRAWINGS ;UP HEAVY AND HORIZONTAL LIGHT;RIGHT LIGHT AND LEFT UP HEAVY",
  "253a;BOX DRAWINGS ;LEFT LIGHT AND RIGHT UP HEAVY;HEAVY UP AND HORIZONTAL",
  "253c;BOX DRAWINGS ;LIGHT VERTICAL AND HORIZONTAL;LEFT HEAVY AND RIGHT VERTICAL LIGHT",
  "253e;BOX DRAWINGS ;RIGHT HEAVY AND LEFT VERTICAL LIGHT;VERTICAL LIGHT AND HORIZONTAL HEAVY",
  "2540;BOX DRAWINGS ;UP HEAVY AND DOWN HORIZONTAL LIGHT;DOWN HEAVY AND UP HORIZONTAL LIGHT",
  "2542;BOX DRAWINGS ;VERTICAL HEAVY AND HORIZONTAL LIGHT;LEFT UP HEAVY AND RIGHT DOWN LIGHT",
  "2544;BOX DRAWINGS ;RIGHT UP HEAVY AND LEFT DOWN LIGHT;LEFT DOWN HEAVY AND RIGHT UP LIGHT",
  "2546;BOX DRAWINGS ;RIGHT DOWN HEAVY AND LEFT UP LIGHT;DOWN LIGHT AND UP HORIZONTAL HEAVY",
  "2548;BOX DRAWINGS ;UP LIGHT AND DOWN HORIZONTAL HEAVY;RIGHT LIGHT AND LEFT VERTICAL HEAVY",
  "254a;BOX DRAWINGS ;LEFT LIGHT AND RIGHT VERTICAL HEAVY;HEAVY VERTICAL AND HORIZONTAL",
  "254c;BOX DRAWINGS ;LIGHT DOUBLE DASH HORIZONTAL;HEAVY DOUBLE DASH HORIZONTAL",
  "254e;BOX DRAWINGS ;LIGHT DOUBLE DASH VERTICAL;HEAVY DOUBLE DASH VERTICAL;DOUBLE HORIZONTAL",
  "2551;BOX DRAWINGS ;DOUBLE VERTICAL;DOWN SINGLE AND RIGHT DOUBLE;DOWN DOUBLE AND RIGHT SINGLE",
  "2554;BOX DRAWINGS ;DOUBLE DOWN AND RIGHT;DOWN SINGLE AND LEFT DOUBLE",
  "2556;BOX DRAWINGS ;DOWN DOUBLE AND LEFT SINGLE;DOUBLE DOWN AND LEFT;UP SINGLE AND RIGHT DOUBLE",
  "2559;BOX DRAWINGS ;UP DOUBLE AND RIGHT SINGLE;DOUBLE UP AND RIGHT;UP SINGLE AND LEFT DOUBLE",
  "255c;BOX DRAWINGS ;UP DOUBLE AND LEFT SINGLE;DOUBLE UP AND LEFT",
  "255e;BOX DRAWINGS VERTICAL ;SINGLE AND RIGHT DOUBLE;DOUBLE AND RIGHT SINGLE",
  "2560;BOX DRAWINGS ;DOUBLE VERTICAL AND RIGHT;VERTICAL SINGLE AND LEFT DOUBLE",
  "2562;BOX DRAWINGS ;VERTICAL DOUBLE AND LEFT SINGLE;DOUBLE VERTICAL AND LEFT",
  "2564;BOX DRAWINGS DOWN ;SINGLE AND HORIZONTAL DOUBLE;DOUBLE AND HORIZONTAL SINGLE",
  "2566;BOX DRAWINGS ;DOUBLE DOWN AND HORIZONTAL;UP SINGLE AND HORIZONTAL DOUBLE",
  "2568;BOX DRAWINGS ;UP DOUBLE AND HORIZONTAL SINGLE;DOUBLE UP AND HORIZONTAL",
  "256a;BOX DRAWINGS VERTICAL ;SINGLE AND HORIZONTAL DOUBLE;DOUBLE AND HORIZONTAL SINGLE",
  "256c;BOX DRAWINGS ;DOUBLE VERTICAL AND HORIZONTAL;LIGHT ARC DOWN AND RIGHT",
  "256e;BOX DRAWINGS LIGHT ARC ;DOWN AND LEFT;UP AND LEFT;UP AND RIGHT",
  "2571;BOX DRAWINGS LIGHT DIAGONAL ;UPPER RIGHT TO LOWER LEFT;UPPER LEFT TO LOWER RIGHT;CROSS",
  "2574;BOX DRAWINGS ;LIGHT LEFT;LIGHT UP;LIGHT RIGHT;LIGHT DOWN;HEAVY LEFT;HEAVY UP;HEAVY RIGHT",
  "257b;BOX DRAWINGS ;HEAVY DOWN;LIGHT LEFT AND HEAVY RIGHT;LIGHT UP AND HEAVY DOWN",
  "257e;BOX DRAWINGS HEAVY ;LEFT AND LIGHT RIGHT;UP AND LIGHT DOWN",
  "2580;;UPPER HALF BLOCK;LOWER ONE EIGHTH BLOCK;LOWER ONE QUARTER BLOCK",
  "2583;LOWER ;THREE EIGHTHS BLOCK;HALF BLOCK;FIVE EIGHTHS BLOCK;THREE QUARTERS BLOCK",
  "2587;;LOWER SEVEN EIGHTHS BLOCK;FULL BLOCK;LEFT SEVEN EIGHTHS BLOCK;LEFT THREE QUARTERS BLOCK",
  "258b;LEFT ;FIVE EIGHTHS BLOCK;HALF BLOCK;THREE EIGHTHS BLOCK;ONE QUARTER BLOCK",
  "258f;;LEFT ONE EIGHTH BLOCK;RIGHT HALF BLOCK;LIGHT SHADE;MEDIUM SHADE;DARK SHADE",
  "2594;;UPPER ONE EIGHTH BLOCK;RIGHT ONE EIGHTH BLOCK;QUADRANT LOWER LEFT;QUADRANT LOWER RIGHT",
  "2598;QUADRANT UPPER ;LEFT;LEFT AND LOWER LEFT AND LOWER RIGHT;LEFT AND LOWER RIGHT",
  "259b;QUADRANT UPPER LEFT AND UPPER RIGHT AND LOWER ;LEFT;RIGHT",
  "259d;QUADRANT UPPER ;RIGHT;RIGHT AND LOWER LEFT;RIGHT AND LOWER LEFT AND LOWER RIGHT",
  "25a0;;BLACK SQUARE;WHITE SQUARE;WHITE SQUARE WITH ROUNDED CORNERS",
  "25a3;;WHITE SQUARE CONTAINING BLACK SMALL SQUARE;SQUARE WITH HORIZONTAL FILL",
  "25a5;SQUARE WITH ;VERTICAL FILL;ORTHOGONAL CROSSHATCH FILL;UPPER LEFT TO LOWER RIGHT FILL",
  "25a8;SQUARE WITH ;UPPER RIGHT TO LOWER LEFT FILL;DIAGONAL CROSSHATCH FILL",
  "25aa;;BLACK SMALL SQUARE;WHITE SMALL SQUARE;BLACK RECTANGLE;WHITE RECTANGLE",
  "25ae;;BLACK VERTICAL RECTANGLE;WHITE VERTICAL RECTANGLE;BLACK PARALLELOGRAM",
  "25b1;;WHITE PARALLELOGRAM;BLACK UP-POINTING TRIANGLE;WHITE UP-POINTING TRIANGLE",
  "25b4;;BLACK UP-POINTING SMALL TRIANGLE;WHITE UP-POINTING SMALL TRIANGLE",
  "25b6;;BLACK RIGHT-POINTING TRIANGLE;WHITE RIGHT-POINTING TRIANGLE",
  "25b8;;BLACK RIGHT-POINTING SMALL TRIANGLE;WHITE RIGHT-POINTING SMALL TRIANGLE",
  "25ba;;BLACK RIGHT-POINTING POINTER;WHITE RIGHT-POINTING POINTER;BLACK DOWN-POINTING TRIANGLE",
  "25bd;;WHITE DOWN-POINTING TRIANGLE;BLACK DOWN-POINTING SMALL TRIANGLE",
  "25bf;;WHITE DOWN-POINTING SMALL TRIANGLE;BLACK LEFT-POINTING TRIANGLE",
  "25c1;;WHITE LEFT-POINTING TRIANGLE;BLACK LEFT-POINTING SMALL TRIANGLE",
  "25c3;;WHITE LEFT-POINTING SMALL TRIANGLE;BLACK LEFT-POINTING POINTER",
  "25c5;;WHITE LEFT-POINTING POINTER;BLACK DIAMOND;WHITE DIAMOND",
  "25c8;;WHITE DIAMOND CONTAINING BLACK SMALL DIAMOND;FISHEYE;LOZENGE;WHITE CIRCLE;DOTTED CIRCLE",
  "25cd;;CIRCLE WITH VERTICAL FILL;BULLSEYE;BLACK CIRCLE;CIRCLE WITH LEFT HALF BLACK",
  "25d1;CIRCLE WITH ;RIGHT HALF BLACK;LOWER HALF BLACK;UPPER HALF BLACK",
  "25d4;CIRCLE WITH ;UPPER RIGHT QUADRANT BLACK;ALL BUT UPPER LEFT QUADRANT BLACK",
  "25d6;;LEFT HALF BLACK CIRCLE;RIGHT HALF BLACK CIRCLE;INVERSE BULLET;INVERSE WHITE CIRCLE",
  "25da;;UPPER HALF INVERSE WHITE CIRCLE;LOWER HALF INVERSE WHITE CIRCLE",
  "25dc;UPPER ;LEFT QUADRANT CIRCULAR ARC;RIGHT QUADRANT CIRCULAR ARC",
  "25de;;LOWER RIGHT QUADRANT CIRCULAR ARC;LOWER LEFT QUADRANT CIRCULAR ARC;UPPER HALF CIRCLE",
  "25e1;;LOWER HALF CIRCLE;BLACK LOWER RIGHT TRIANGLE;BLACK LOWER LEFT TRIANGLE",
  "25e4;;BLACK UPPER LEFT TRIANGLE;BLACK UPPER RIGHT TRIANGLE;WHITE BULLET",
  "25e7;SQUARE WITH ;LEFT HALF BLACK;RIGHT HALF BLACK;UPPER LEFT DIAGONAL HALF BLACK",
  "25ea;;SQUARE WITH LOWER RIGHT DIAGONAL HALF BLACK;WHITE SQUARE WITH VERTICAL BISECTING LINE",
  "25ec;;WHITE UP-POINTING TRIANGLE WITH DOT;UP-POINTING TRIANGLE WITH LEFT HALF BLACK",
  "25ee;;UP-POINTING TRIANGLE WITH RIGHT HALF BLACK;LARGE CIRCLE",
  "25f0;WHITE SQUARE WITH ;UPPER LEFT QUADRANT;LOWER LEFT QUADRANT;LOWER RIGHT QUADRANT",
  "25f3;WHITE ;SQUARE WITH UPPER RIGHT QUADRANT;CIRCLE WITH UPPER LEFT QUADRANT",
  "25f5;WHITE CIRCLE WITH ;LOWER LEFT QUADRANT;LOWER RIGHT QUADRANT;UPPER RIGHT QUADRANT",
  "25f8;;UPPER LEFT TRIANGLE;UPPER RIGHT TRIANGLE;LOWER LEFT TRIANGLE;WHITE MEDIUM SQUARE",
  "25fc;;BLACK MEDIUM SQUARE;WHITE MEDIUM SMALL SQUARE;BLACK MEDIUM SMALL SQUARE",
  "25ff;;LOWER RIGHT TRIANGLE;BLACK SUN WITH RAYS;CLOUD;UMBRELLA;SNOWMAN;COMET;BLACK STAR",
  "2606;;WHITE STAR;LIGHTNING;THUNDERSTORM;SUN;ASCENDING NODE;DESCENDING NODE;CONJUNCTION",
  "260d;;OPPOSITION;BLACK TELEPHONE;WHITE TELEPHONE;BALLOT BOX;BALLOT BOX WITH CHECK",
  "2612;;BALLOT BOX WITH X;SALTIRE;UMBRELLA WITH RAIN DROPS;HOT BEVERAGE;WHITE SHOGI PIECE",
  "2617;;BLACK SHOGI PIECE;SHAMROCK;REVERSED ROTATED FLORAL HEART BULLET",
  "261a;;BLACK LEFT POINTING INDEX;BLACK RIGHT POINTING INDEX;WHITE LEFT POINTING INDEX",
  "261d;WHITE ;UP POINTING INDEX;RIGHT POINTING INDEX;DOWN POINTING INDEX",
  "2620;;SKULL AND CROSSBONES;CAUTION SIGN;RADIOACTIVE SIGN;BIOHAZARD SIGN;CADUCEUS;ANKH",
  "2626;;ORTHODOX CROSS;CHI RHO;CROSS OF LORRAINE;CROSS OF JERUSALEM;STAR AND CRESCENT",
  "262b;;FARSI SYMBOL;ADI SHAKTI;HAMMER AND SICKLE;PEACE SYMBOL;YIN YANG;TRIGRAM FOR HEAVEN",
  "2631;TRIGRAM FOR ;LAKE;FIRE;THUNDER;WIND;WATER;MOUNTAIN;EARTH",
  "2638;;WHEEL OF DHARMA;WHITE FROWNING FACE;WHITE SMILING FACE;BLACK SMILING FACE",
  "263c;;WHITE SUN WITH RAYS;FIRST QUARTER MOON;LAST QUARTER MOON;MERCURY;FEMALE SIGN;EARTH",
  "2642;;MALE SIGN;JUPITER;SATURN;URANUS;NEPTUNE;PLUTO;ARIES;TAURUS;GEMINI;CANCER;LEO;VIRGO;LIBRA",
  "264f;;SCORPIUS;SAGITTARIUS;CAPRICORN;AQUARIUS;PISCES;WHITE CHESS KING;WHITE CHESS QUEEN",
  "2656;;WHITE CHESS ROOK;WHITE CHESS BISHOP;WHITE CHESS KNIGHT;WHITE CHESS PAWN;BLACK CHESS KING",
  "265b;BLACK ;CHESS QUEEN;CHESS ROOK;CHESS BISHOP;CHESS KNIGHT;CHESS PAWN;SPADE SUIT",
  "2661;;WHITE HEART SUIT;WHITE DIAMOND SUIT;BLACK CLUB SUIT;WHITE SPADE SUIT;BLACK HEART SUIT",
  "2666;;BLACK DIAMOND SUIT;WHITE CLUB SUIT;HOT SPRINGS;QUARTER NOTE;EIGHTH NOTE",
  "266b;;BEAMED EIGHTH NOTES;BEAMED SIXTEENTH NOTES;MUSIC FLAT SIGN;MUSIC NATURAL SIGN",
  "266f;;MUSIC SHARP SIGN;WEST SYRIAC CROSS;EAST SYRIAC CROSS;UNIVERSAL RECYCLING SYMBOL",
  "2673;RECYCLING SYMBOL FOR TYPE-;1 PLASTICS;2 PLASTICS;3 PLASTICS;4 PLASTICS;5 PLASTICS",
  "2678;RECYCLING SYMBOL FOR ;TYPE-6 PLASTICS;TYPE-7 PLASTICS;GENERIC MATERIALS",
  "267b;;BLACK UNIVERSAL RECYCLING SYMBOL;RECYCLED PAPER SYMBOL;PARTIALLY-RECYCLED PAPER SYMBOL",
  "267e;;PERMANENT PAPER SIGN;WHEELCHAIR SYMBOL;DIE FACE-1;DIE FACE-2;DIE FACE-3;DIE FACE-4",
  "2684;;DIE FACE-5;DIE FACE-6;WHITE CIRCLE WITH DOT RIGHT;WHITE CIRCLE WITH TWO DOTS",
  "2688;;BLACK CIRCLE WITH WHITE DOT RIGHT;BLACK CIRCLE WITH TWO WHITE DOTS;MONOGRAM FOR YANG",
  "268b;;MONOGRAM FOR YIN;DIGRAM FOR GREATER YANG;DIGRAM FOR LESSER YIN;DIGRAM FOR LESSER YANG",
  "268f;;DIGRAM FOR GREATER YIN;WHITE FLAG;BLACK FLAG;HAMMER AND PICK;ANCHOR;CROSSED SWORDS",
  "2695;;STAFF OF AESCULAPIUS;SCALES;ALEMBIC;FLOWER;GEAR;STAFF OF HERMES;ATOM SYMBOL;FLEUR-DE-LIS",
  "269d;;OUTLINED WHITE STAR;THREE LINES CONVERGING RIGHT;THREE LINES CONVERGING LEFT",
  "26a0;;WARNING SIGN;HIGH VOLTAGE SIGN;DOUBLED FEMALE SIGN;DOUBLED MALE SIGN",
  "26a4;;INTERLOCKED FEMALE AND MALE SIGN;MALE AND FEMALE SIGN;MALE WITH STROKE SIGN",
  "26a7;;MALE WITH STROKE AND MALE AND FEMALE SIGN;VERTICAL MALE WITH STROKE SIGN",
  "26a9;;HORIZONTAL MALE WITH STROKE SIGN;MEDIUM WHITE CIRCLE;MEDIUM BLACK CIRCLE",
  "26ac;;MEDIUM SMALL WHITE CIRCLE;MARRIAGE SYMBOL;DIVORCE SYMBOL;UNMARRIED PARTNERSHIP SYMBOL",
  "26b0;;COFFIN;FUNERAL URN;NEUTER;CERES;PALLAS;JUNO;VESTA;CHIRON;BLACK MOON LILITH;SEXTILE",
  "26ba;;SEMISEXTILE;QUINCUNX;SESQUIQUADRATE;SOCCER BALL;BASEBALL;SQUARED KEY;WHITE DRAUGHTS MAN",
  "26c1;;WHITE DRAUGHTS KING;BLACK DRAUGHTS MAN;BLACK DRAUGHTS KING;SNOWMAN WITHOUT SNOW",
  "26c5;;SUN BEHIND CLOUD;RAIN;BLACK SNOWMAN;THUNDER CLOUD AND RAIN;TURNED WHITE SHOGI PIECE",
  "26ca;;TURNED BLACK SHOGI PIECE;WHITE DIAMOND IN SQUARE;CROSSING LANES;DISABLED CAR;OPHIUCHUS",
  "26cf;;PICK;CAR SLIDING;HELMET WITH WHITE CROSS;CIRCLED CROSSING LANES;CHAINS;NO ENTRY",
  "26d5;;ALTERNATE ONE-WAY LEFT WAY TRAFFIC;BLACK TWO-WAY LEFT WAY TRAFFIC",
  "26d7;;WHITE TWO-WAY LEFT WAY TRAFFIC;BLACK LEFT LANE MERGE;WHITE LEFT LANE MERGE",
  "26da;;DRIVE SLOW SIGN;HEAVY WHITE DOWN-POINTING TRIANGLE;LEFT CLOSED ENTRY;SQUARED SALTIRE",
  "26de;;FALLING DIAGONAL IN WHITE CIRCLE IN BLACK SQUARE;BLACK TRUCK;RESTRICTED LEFT ENTRY-1",
  "26e1;;RESTRICTED LEFT ENTRY-2;ASTRONOMICAL SYMBOL FOR URANUS",
  "26e3;;HEAVY CIRCLE WITH STROKE AND TWO DOTS ABOVE;PENTAGRAM;RIGHT-HANDED INTERLACED PENTAGRAM",
  "26e6;;LEFT-HANDED INTERLACED PENTAGRAM;INVERTED PENTAGRAM;BLACK CROSS ON SHIELD;SHINTO SHRINE",
  "26ea;;CHURCH;CASTLE;HISTORIC SITE;GEAR WITHOUT HUB;GEAR WITH HANDLES;MAP SYMBOL FOR LIGHTHOUSE",
  "26f0;;MOUNTAIN;UMBRELLA ON GROUND;FOUNTAIN;FLAG IN HOLE;FERRY;SAILBOAT;SQUARE FOUR CORNERS",
  "26f7;;SKIER;ICE SKATE;PERSON WITH BALL;TENT;JAPANESE BANK SYMBOL;HEADSTONE GRAVEYARD SYMBOL",
  "26fd;;FUEL PUMP;CUP ON BLACK SQUARE;WHITE FLAG WITH HORIZONTAL MIDDLE BLACK STRIPE",
  "2700;;BLACK SAFETY SCISSORS;UPPER BLADE SCISSORS;BLACK SCISSORS;LOWER BLADE SCISSORS",
  "2704;;WHITE SCISSORS;WHITE HEAVY CHECK MARK;TELEPHONE LOCATION SIGN;TAPE DRIVE;AIRPLANE",
  "2709;;ENVELOPE;RAISED FIST;RAISED HAND;VICTORY HAND;WRITING HAND;LOWER RIGHT PENCIL;PENCIL",
  "2710;;UPPER RIGHT PENCIL;WHITE NIB;BLACK NIB;CHECK MARK;HEAVY CHECK MARK;MULTIPLICATION X",
  "2716;;HEAVY MULTIPLICATION X;BALLOT X;HEAVY BALLOT X;OUTLINED GREEK CROSS;HEAVY GREEK CROSS",
  "271b;;OPEN CENTRE CROSS;HEAVY OPEN CENTRE CROSS;LATIN CROSS;SHADOWED WHITE LATIN CROSS",
  "271f;;OUTLINED LATIN CROSS;MALTESE CROSS;STAR OF DAVID;FOUR TEARDROP-SPOKED ASTERISK",
  "2723;;FOUR BALLOON-SPOKED ASTERISK;HEAVY FOUR BALLOON-SPOKED ASTERISK",
  "2725;;FOUR CLUB-SPOKED ASTERISK;BLACK FOUR POINTED STAR;WHITE FOUR POINTED STAR;SPARKLES",
  "2729;;STRESS OUTLINED WHITE STAR;CIRCLED WHITE STAR;OPEN CENTRE BLACK STAR",
  "272c;;BLACK CENTRE WHITE STAR;OUTLINED BLACK STAR;HEAVY OUTLINED BLACK STAR;PINWHEEL STAR",
  "2730;;SHADOWED WHITE STAR;HEAVY ASTERISK;OPEN CENTRE ASTERISK;EIGHT SPOKED ASTERISK",
  "2734;;EIGHT POINTED BLACK STAR;EIGHT POINTED PINWHEEL STAR;SIX POINTED BLACK STAR",
  "2737;;EIGHT POINTED RECTILINEAR BLACK STAR;HEAVY EIGHT POINTED RECTILINEAR BLACK STAR",
  "2739;;TWELVE POINTED BLACK STAR;SIXTEEN POINTED ASTERISK;TEARDROP-SPOKED ASTERISK",
  "273c;;OPEN CENTRE TEARDROP-SPOKED ASTERISK;HEAVY TEARDROP-SPOKED ASTERISK",
  "273e;;SIX PETALLED BLACK AND WHITE FLORETTE;BLACK FLORETTE;WHITE FLORETTE",
  "2741;;EIGHT PETALLED OUTLINED BLACK FLORETTE;CIRCLED OPEN CENTRE EIGHT POINTED STAR",
  "2743;;HEAVY TEARDROP-SPOKED PINWHEEL ASTERISK;SNOWFLAKE;TIGHT TRIFOLIATE SNOWFLAKE",
  "2746;;HEAVY CHEVRON SNOWFLAKE;SPARKLE;HEAVY SPARKLE;BALLOON-SPOKED ASTERISK",
  "274a;;EIGHT TEARDROP-SPOKED PROPELLER ASTERISK;HEAVY EIGHT TEARDROP-SPOKED PROPELLER ASTERISK",
  "274c;;CROSS MARK;SHADOWED WHITE CIRCLE;NEGATIVE SQUARED CROSS MARK",
  "274f;;LOWER RIGHT DROP-SHADOWED WHITE SQUARE;UPPER RIGHT DROP-SHADOWED WHITE SQUARE",
  "2751;;LOWER RIGHT SHADOWED WHITE SQUARE;UPPER RIGHT SHADOWED WHITE SQUARE",
  "2753;;BLACK QUESTION MARK ORNAMENT;WHITE QUESTION MARK ORNAMENT",
  "2755;;WHITE EXCLAMATION MARK ORNAMENT;BLACK DIAMOND MINUS WHITE X",
  "2757;;HEAVY EXCLAMATION MARK SYMBOL;LIGHT VERTICAL BAR;MEDIUM VERTICAL BAR;HEAVY VERTICAL BAR",
  "275b;HEAVY SINGLE ;TURNED COMMA QUOTATION MARK ORNAMENT;COMMA QUOTATION MARK ORNAMENT",
  "275d;HEAVY DOUBLE ;TURNED COMMA QUOTATION MARK ORNAMENT;COMMA QUOTATION MARK ORNAMENT",
  "275f;HEAVY LOW ;SINGLE COMMA QUOTATION MARK ORNAMENT;DOUBLE COMMA QUOTATION MARK ORNAMENT",
  "2761;;CURVED STEM PARAGRAPH SIGN ORNAMENT;HEAVY EXCLAMATION MARK ORNAMENT",
  "2763;;HEAVY HEART EXCLAMATION MARK ORNAMENT;HEAVY BLACK HEART;ROTATED HEAVY BLACK HEART BULLET",
  "2766;;FLORAL HEART;ROTATED FLORAL HEART BULLET;MEDIUM LEFT PARENTHESIS ORNAMENT",
  "2769;MEDIUM ;RIGHT PARENTHESIS ORNAMENT;FLATTENED LEFT PARENTHESIS ORNAMENT",
  "276b;MEDIUM ;FLATTENED RIGHT PARENTHESIS ORNAMENT;LEFT-POINTING ANGLE BRACKET ORNAMENT",
  "276d;;MEDIUM RIGHT-POINTING ANGLE BRACKET ORNAMENT",
  "276e;;HEAVY LEFT-POINTING ANGLE QUOTATION MARK ORNAMENT",
  "276f;HEAVY ;RIGHT-POINTING ANGLE QUOTATION MARK ORNAMENT;LEFT-POINTING ANGLE BRACKET ORNAMENT",
  "2771;;HEAVY RIGHT-POINTING ANGLE BRACKET ORNAMENT;LIGHT LEFT TORTOISE SHELL BRACKET ORNAMENT",
  "2773;;LIGHT RIGHT TORTOISE SHELL BRACKET ORNAMENT;MEDIUM LEFT CURLY BRACKET ORNAMENT",
  "2775;;MEDIUM RIGHT CURLY BRACKET ORNAMENT;DINGBAT NEGATIVE CIRCLED DIGIT ONE",
  "2777;DINGBAT NEGATIVE CIRCLED DIGIT ;TWO;THREE;FOUR;FIVE;SIX;SEVEN;EIGHT;NINE",
  "277f;DINGBAT ;NEGATIVE CIRCLED NUMBER TEN;CIRCLED SANS-SERIF DIGIT ONE",
  "2781;DINGBAT CIRCLED SANS-SERIF DIGIT ;TWO;THREE;FOUR;FIVE;SIX;SEVEN;EIGHT;NINE",
  "2789;DINGBAT ;CIRCLED SANS-SERIF NUMBER TEN;NEGATIVE CIRCLED SANS-SERIF DIGIT ONE",
  "278b;DINGBAT NEGATIVE CIRCLED SANS-SERIF DIGIT ;TWO;THREE;FOUR;FIVE;SIX;SEVEN;EIGHT;NINE",
  "2793;;DINGBAT NEGATIVE CIRCLED SANS-SERIF NUMBER TEN;HEAVY WIDE-HEADED RIGHTWARDS ARROW",
  "2795;HEAVY ;PLUS SIGN;MINUS SIGN;DIVISION SIGN;SOUTH EAST ARROW;RIGHTWARDS ARROW",
  "279a;;HEAVY NORTH EAST ARROW;DRAFTING POINT RIGHTWARDS ARROW",
  "279c;;HEAVY ROUND-TIPPED RIGHTWARDS ARROW;TRIANGLE-HEADED RIGHTWARDS ARROW",
  "279e;;HEAVY TRIANGLE-HEADED RIGHTWARDS ARROW;DASHED TRIANGLE-HEADED RIGHTWARDS ARROW",
  "27a0;;HEAVY DASHED TRIANGLE-HEADED RIGHTWARDS ARROW;BLACK RIGHTWARDS ARROW",
  "27a2;THREE-D ;TOP-LIGHTED RIGHTWARDS ARROWHEAD;BOTTOM-LIGHTED RIGHTWARDS ARROWHEAD",
  "27a4;;BLACK RIGHTWARDS ARROWHEAD;HEAVY BLACK CURVED DOWNWARDS AND RIGHTWARDS ARROW",
  "27a6;;HEAVY BLACK CURVED UPWARDS AND RIGHTWARDS ARROW;SQUAT BLACK RIGHTWARDS ARROW",
  "27a8;;HEAVY CONCAVE-POINTED BLACK RIGHTWARDS ARROW;RIGHT-SHADED WHITE RIGHTWARDS ARROW",
  "27aa;;LEFT-SHADED WHITE RIGHTWARDS ARROW;BACK-TILTED SHADOWED WHITE RIGHTWARDS ARROW",
  "27ac;;FRONT-TILTED SHADOWED WHITE RIGHTWARDS ARROW",
  "27ad;;HEAVY LOWER RIGHT-SHADOWED WHITE RIGHTWARDS ARROW",
  "27ae;;HEAVY UPPER RIGHT-SHADOWED WHITE RIGHTWARDS ARROW",
  "27af;;NOTCHED LOWER RIGHT-SHADOWED WHITE RIGHTWARDS ARROW;CURLY LOOP",
  "27b1;;NOTCHED UPPER RIGHT-SHADOWED WHITE RIGHTWARDS ARROW;CIRCLED HEAVY WHITE RIGHTWARDS ARROW",
  "27b3;;WHITE-FEATHERED RIGHTWARDS ARROW;BLACK-FEATHERED SOUTH EAST ARROW",
  "27b5;BLACK-FEATHERED ;RIGHTWARDS ARROW;NORTH EAST ARROW",
  "27b7;HEAVY BLACK-FEATHERED ;SOUTH EAST ARROW;RIGHTWARDS ARROW;NORTH EAST ARROW",
  "27ba;;TEARDROP-BARBED RIGHTWARDS ARROW;HEAVY TEARDROP-SHANKED RIGHTWARDS ARROW",
  "27bc;;WEDGE-TAILED RIGHTWARDS ARROW;HEAVY WEDGE-TAILED RIGHTWARDS ARROW",
  "27be;;OPEN-OUTLINED RIGHTWARDS ARROW;DOUBLE CURLY LOOP;THREE DIMENSIONAL ANGLE",
  "27c1;;WHITE TRIANGLE CONTAINING SMALL WHITE TRIANGLE;PERPENDICULAR;OPEN SUBSET;OPEN SUPERSET",
  "27c5;;LEFT S-SHAPED BAG DELIMITER;RIGHT S-SHAPED BAG DELIMITER;OR WITH DOT INSIDE",
  "27c8;;REVERSE SOLIDUS PRECEDING SUBSET;SUPERSET PRECEDING SOLIDUS",
  "27ca;;VERTICAL BAR WITH HORIZONTAL STROKE;MATHEMATICAL RISING DIAGONAL;LONG DIVISION",
  "27cd;;MATHEMATICAL FALLING DIAGONAL;SQUARED LOGICAL AND;SQUARED LOGICAL OR",
  "27d0;;WHITE DIAMOND WITH CENTRED DOT;AND WITH DOT;ELEMENT OF OPENING UPWARDS",
  "27d3;;LOWER RIGHT CORNER WITH DOT;UPPER LEFT CORNER WITH DOT;LEFT OUTER JOIN;RIGHT OUTER JOIN",
  "27d7;;FULL OUTER JOIN;LARGE UP TACK;LARGE DOWN TACK;LEFT AND RIGHT DOUBLE TURNSTILE",
  "27db;;LEFT AND RIGHT TACK;LEFT MULTIMAP;LONG RIGHT TACK;LONG LEFT TACK",
  "27df;;UP TACK WITH CIRCLE ABOVE;LOZENGE DIVIDED BY HORIZONTAL RULE;WHITE CONCAVE-SIDED DIAMOND",
  "27e2;WHITE CONCAVE-SIDED DIAMOND WITH ;LEFTWARDS TICK;RIGHTWARDS TICK",
  "27e4;WHITE SQUARE WITH ;LEFTWARDS TICK;RIGHTWARDS TICK",
  "27e6;MATHEMATICAL ;LEFT WHITE SQUARE BRACKET;RIGHT WHITE SQUARE BRACKET;LEFT ANGLE BRACKET",
  "27e9;MATHEMATICAL ;RIGHT ANGLE BRACKET;LEFT DOUBLE ANGLE BRACKET;RIGHT DOUBLE ANGLE BRACKET",
  "27ec;MATHEMATICAL ;LEFT WHITE TORTOISE SHELL BRACKET;RIGHT WHITE TORTOISE SHELL BRACKET",
  "27ee;MATHEMATICAL ;LEFT FLATTENED PARENTHESIS;RIGHT FLATTENED PARENTHESIS",
  "27f0;;UPWARDS QUADRUPLE ARROW;DOWNWARDS QUADRUPLE ARROW;ANTICLOCKWISE GAPPED CIRCLE ARROW",
  "27f3;;CLOCKWISE GAPPED CIRCLE ARROW;RIGHT ARROW WITH CIRCLED PLUS;LONG LEFTWARDS ARROW",
  "27f6;LONG ;RIGHTWARDS ARROW;LEFT RIGHT ARROW;LEFTWARDS DOUBLE ARROW;RIGHTWARDS DOUBLE ARROW",
  "27fa;LONG ;LEFT RIGHT DOUBLE ARROW;LEFTWARDS ARROW FROM BAR;RIGHTWARDS ARROW FROM BAR",
  "27fd;LONG ;LEFTWARDS DOUBLE ARROW FROM BAR;RIGHTWARDS DOUBLE ARROW FROM BAR",
  "27ff;;LONG RIGHTWARDS SQUIGGLE ARROW;BRAILLE PATTERN BLANK;BRAILLE PATTERN DOTS-1",
  "2802;BRAILLE PATTERN DOTS-;2;12;3;13;23;123;4;14;24;124;34;134;234;1234;5;15;25;125;35;135;235",
  "2817;BRAILLE PATTERN DOTS-;1235;45;145;245;1245;345;1345;2345;12345;6;16;26;126;36;136;236",
  "2827;BRAILLE PATTERN DOTS-;1236;46;146;246;1246;346;1346;2346;12346;56;156;256;1256;356;1356",
  "2836;BRAILLE PATTERN DOTS-;2356;12356;456;1456;2456;12456;3456;13456;23456;123456;7;17;27;127",
  "2844;BRAILLE PATTERN DOTS-;37;137;237;1237;47;147;247;1247;347;1347;2347;12347;57;157;257;1257",
  "2854;BRAILLE PATTERN DOTS-;357;1357;2357;12357;457;1457;2457;12457;3457;13457;23457;123457;67",
  "2861;BRAILLE PATTERN DOTS-;167;267;1267;367;1367;2367;12367;467;1467;2467;12467;3467;13467",
  "286e;BRAILLE PATTERN DOTS-;23467;123467;567;1567;2567;12567;3567;13567;23567;123567;4567;14567",
  "287a;BRAILLE PATTERN DOTS-;24567;124567;34567;134567;234567;1234567;8;18;28;128;38;138;238",
  "2887;BRAILLE PATTERN DOTS-;1238;48;148;248;1248;348;1348;2348;12348;58;158;258;1258;358;1358",
  "2896;BRAILLE PATTERN DOTS-;2358;12358;458;1458;2458;12458;3458;13458;23458;123458;68;168;268",
  "28a3;BRAILLE PATTERN DOTS-;1268;368;1368;2368;12368;468;1468;2468;12468;3468;13468;23468",
  "28af;BRAILLE PATTERN DOTS-;123468;568;1568;2568;12568;3568;13568;23568;123568;4568;14568;24568",
  "28bb;BRAILLE PATTERN DOTS-;124568;34568;134568;234568;1234568;78;178;278;1278;378;1378;2378",
  "28c7;BRAILLE PATTERN DOTS-;12378;478;1478;2478;12478;3478;13478;23478;123478;578;1578;2578",
  "28d3;BRAILLE PATTERN DOTS-;12578;3578;13578;23578;123578;4578;14578;24578;124578;34578;134578",
  "28de;BRAILLE PATTERN DOTS-;234578;1234578;678;1678;2678;12678;3678;13678;23678;123678;4678",
  "28e9;BRAILLE PATTERN DOTS-;14678;24678;124678;34678;134678;234678;1234678;5678;15678;25678",
  "28f3;BRAILLE PATTERN DOTS-;125678;35678;135678;235678;1235678;45678;145678;245678;1245678",
  "28fc;BRAILLE PATTERN DOTS-;345678;1345678;2345678;12345678",
  "2900;RIGHTWARDS TWO-HEADED ARROW WITH ;VERTICAL STROKE;DOUBLE VERTICAL STROKE",
  "2902;;LEFTWARDS DOUBLE ARROW WITH VERTICAL STROKE;RIGHTWARDS DOUBLE ARROW WITH VERTICAL STROKE",
  "2904;;LEFT RIGHT DOUBLE ARROW WITH VERTICAL STROKE;RIGHTWARDS TWO-HEADED ARROW FROM BAR",
  "2906;;LEFTWARDS DOUBLE ARROW FROM BAR;RIGHTWARDS DOUBLE ARROW FROM BAR",
  "2908;;DOWNWARDS ARROW WITH HORIZONTAL STROKE;UPWARDS ARROW WITH HORIZONTAL STROKE",
  "290a;;UPWARDS TRIPLE ARROW;DOWNWARDS TRIPLE ARROW;LEFTWARDS DOUBLE DASH ARROW",
  "290d;;RIGHTWARDS DOUBLE DASH ARROW;LEFTWARDS TRIPLE DASH ARROW;RIGHTWARDS TRIPLE DASH ARROW",
  "2910;RIGHTWARDS ;TWO-HEADED TRIPLE DASH ARROW;ARROW WITH DOTTED STEM",
  "2912;;UPWARDS ARROW TO BAR;DOWNWARDS ARROW TO BAR",
  "2914;RIGHTWARDS ARROW WITH TAIL WITH ;VERTICAL STROKE;DOUBLE VERTICAL STROKE",
  "2916;RIGHTWARDS TWO-HEADED ARROW WITH ;TAIL;TAIL WITH VERTICAL STROKE",
  "2918;;RIGHTWARDS TWO-HEADED ARROW WITH TAIL WITH DOUBLE VERTICAL STROKE;LEFTWARDS ARROW-TAIL",
  "291a;;RIGHTWARDS ARROW-TAIL;LEFTWARDS DOUBLE ARROW-TAIL;RIGHTWARDS DOUBLE ARROW-TAIL",
  "291d;;LEFTWARDS ARROW TO BLACK DIAMOND;RIGHTWARDS ARROW TO BLACK DIAMOND",
  "291f;;LEFTWARDS ARROW FROM BAR TO BLACK DIAMOND;RIGHTWARDS ARROW FROM BAR TO BLACK DIAMOND",
  "2921;NORTH ;WEST AND SOUTH EAST ARROW;EAST AND SOUTH WEST ARROW;WEST ARROW WITH HOOK",
  "2924;;NORTH EAST ARROW WITH HOOK;SOUTH EAST ARROW WITH HOOK;SOUTH WEST ARROW WITH HOOK",
  "2927;NORTH ;WEST ARROW AND NORTH EAST ARROW;EAST ARROW AND SOUTH EAST ARROW",
  "2929;SOUTH ;EAST ARROW AND SOUTH WEST ARROW;WEST ARROW AND NORTH WEST ARROW",
  "292b;;RISING DIAGONAL CROSSING FALLING DIAGONAL;FALLING DIAGONAL CROSSING RISING DIAGONAL",
  "292d;;SOUTH EAST ARROW CROSSING NORTH EAST ARROW;NORTH EAST ARROW CROSSING SOUTH EAST ARROW",
  "292f;;FALLING DIAGONAL CROSSING NORTH EAST ARROW;RISING DIAGONAL CROSSING SOUTH EAST ARROW",
  "2931;NORTH ;EAST ARROW CROSSING NORTH WEST ARROW;WEST ARROW CROSSING NORTH EAST ARROW",
  "2933;;WAVE ARROW POINTING DIRECTLY RIGHT;ARROW POINTING RIGHTWARDS THEN CURVING UPWARDS",
  "2935;ARROW POINTING ;RIGHTWARDS THEN CURVING DOWNWARDS;DOWNWARDS THEN CURVING LEFTWARDS",
  "2937;;ARROW POINTING DOWNWARDS THEN CURVING RIGHTWARDS;RIGHT-SIDE ARC CLOCKWISE ARROW",
  "2939;;LEFT-SIDE ARC ANTICLOCKWISE ARROW;TOP ARC ANTICLOCKWISE ARROW",
  "293b;;BOTTOM ARC ANTICLOCKWISE ARROW;TOP ARC CLOCKWISE ARROW WITH MINUS",
  "293d;;TOP ARC ANTICLOCKWISE ARROW WITH PLUS;LOWER RIGHT SEMICIRCULAR CLOCKWISE ARROW",
  "293f;;LOWER LEFT SEMICIRCULAR ANTICLOCKWISE ARROW;ANTICLOCKWISE CLOSED CIRCLE ARROW",
  "2941;;CLOCKWISE CLOSED CIRCLE ARROW;RIGHTWARDS ARROW ABOVE SHORT LEFTWARDS ARROW",
  "2943;;LEFTWARDS ARROW ABOVE SHORT RIGHTWARDS ARROW",
  "2944;;SHORT RIGHTWARDS ARROW ABOVE LEFTWARDS ARROW;RIGHTWARDS ARROW WITH PLUS BELOW",
  "2946;;LEFTWARDS ARROW WITH PLUS BELOW;RIGHTWARDS ARROW THROUGH X",
  "2948;;LEFT RIGHT ARROW THROUGH SMALL CIRCLE;UPWARDS TWO-HEADED ARROW FROM SMALL CIRCLE",
  "294a;LEFT BARB ;UP RIGHT BARB DOWN HARPOON;DOWN RIGHT BARB UP HARPOON",
  "294c;UP BARB ;RIGHT DOWN BARB LEFT HARPOON;LEFT DOWN BARB RIGHT HARPOON",
  "294e;;LEFT BARB UP RIGHT BARB UP HARPOON;UP BARB RIGHT DOWN BARB RIGHT HARPOON",
  "2950;;LEFT BARB DOWN RIGHT BARB DOWN HARPOON;UP BARB LEFT DOWN BARB LEFT HARPOON",
  "2952;;LEFTWARDS HARPOON WITH BARB UP TO BAR;RIGHTWARDS HARPOON WITH BARB UP TO BAR",
  "2954;;UPWARDS HARPOON WITH BARB RIGHT TO BAR;DOWNWARDS HARPOON WITH BARB RIGHT TO BAR",
  "2956;;LEFTWARDS HARPOON WITH BARB DOWN TO BAR;RIGHTWARDS HARPOON WITH BARB DOWN TO BAR",
  "2958;;UPWARDS HARPOON WITH BARB LEFT TO BAR;DOWNWARDS HARPOON WITH BARB LEFT TO BAR",
  "295a;;LEFTWARDS HARPOON WITH BARB UP FROM BAR;RIGHTWARDS HARPOON WITH BARB UP FROM BAR",
  "295c;;UPWARDS HARPOON WITH BARB RIGHT FROM BAR;DOWNWARDS HARPOON WITH BARB RIGHT FROM BAR",
  "295e;;LEFTWARDS HARPOON WITH BARB DOWN FROM BAR;RIGHTWARDS HARPOON WITH BARB DOWN FROM BAR",
  "2960;;UPWARDS HARPOON WITH BARB LEFT FROM BAR;DOWNWARDS HARPOON WITH BARB LEFT FROM BAR",
  "2962;;LEFTWARDS HARPOON WITH BARB UP ABOVE LEFTWARDS HARPOON WITH BARB DOWN",
  "2963;;UPWARDS HARPOON WITH BARB LEFT BESIDE UPWARDS HARPOON WITH BARB RIGHT",
  "2964;;RIGHTWARDS HARPOON WITH BARB UP ABOVE RIGHTWARDS HARPOON WITH BARB DOWN",
  "2965;;DOWNWARDS HARPOON WITH BARB LEFT BESIDE DOWNWARDS HARPOON WITH BARB RIGHT",
  "2966;;LEFTWARDS HARPOON WITH BARB UP ABOVE RIGHTWARDS HARPOON WITH BARB UP",
  "2967;;LEFTWARDS HARPOON WITH BARB DOWN ABOVE RIGHTWARDS HARPOON WITH BARB DOWN",
  "2968;;RIGHTWARDS HARPOON WITH BARB UP ABOVE LEFTWARDS HARPOON WITH BARB UP",
  "2969;;RIGHTWARDS HARPOON WITH BARB DOWN ABOVE LEFTWARDS HARPOON WITH BARB DOWN",
  "296a;LEFTWARDS HARPOON WITH BARB ;UP ABOVE LONG DASH;DOWN BELOW LONG DASH",
  "296c;RIGHTWARDS HARPOON WITH BARB ;UP ABOVE LONG DASH;DOWN BELOW LONG DASH",
  "296e;;UPWARDS HARPOON WITH BARB LEFT BESIDE DOWNWARDS HARPOON WITH BARB RIGHT",
  "296f;;DOWNWARDS HARPOON WITH BARB LEFT BESIDE UPWARDS HARPOON WITH BARB RIGHT",
  "2970;;RIGHT DOUBLE ARROW WITH ROUNDED HEAD;EQUALS SIGN ABOVE RIGHTWARDS ARROW",
  "2972;;TILDE OPERATOR ABOVE RIGHTWARDS ARROW;LEFTWARDS ARROW ABOVE TILDE OPERATOR",
  "2974;RIGHTWARDS ARROW ABOVE ;TILDE OPERATOR;ALMOST EQUAL TO",
  "2976;;LESS-THAN ABOVE LEFTWARDS ARROW;LEFTWARDS ARROW THROUGH LESS-THAN",
  "2978;;GREATER-THAN ABOVE RIGHTWARDS ARROW;SUBSET ABOVE RIGHTWARDS ARROW",
  "297a;;LEFTWARDS ARROW THROUGH SUBSET;SUPERSET ABOVE LEFTWARDS ARROW;LEFT FISH TAIL",
  "297d;;RIGHT FISH TAIL;UP FISH TAIL;DOWN FISH TAIL;TRIPLE VERTICAL BAR DELIMITER",
  "2981;;Z NOTATION SPOT;Z NOTATION TYPE COLON;LEFT WHITE CURLY BRACKET;RIGHT WHITE CURLY BRACKET",
  "2985;;LEFT WHITE PARENTHESIS;RIGHT WHITE PARENTHESIS;Z NOTATION LEFT IMAGE BRACKET",
  "2988;Z NOTATION ;RIGHT IMAGE BRACKET;LEFT BINDING BRACKET;RIGHT BINDING BRACKET",
  "298b;;LEFT SQUARE BRACKET WITH UNDERBAR;RIGHT SQUARE BRACKET WITH UNDERBAR",
  "298d;;LEFT SQUARE BRACKET WITH TICK IN TOP CORNER",
  "298e;;RIGHT SQUARE BRACKET WITH TICK IN BOTTOM CORNER",
  "298f;;LEFT SQUARE BRACKET WITH TICK IN BOTTOM CORNER",
  "2990;;RIGHT SQUARE BRACKET WITH TICK IN TOP CORNER;LEFT ANGLE BRACKET WITH DOT",
  "2992;;RIGHT ANGLE BRACKET WITH DOT;LEFT ARC LESS-THAN BRACKET;RIGHT ARC GREATER-THAN BRACKET",
  "2995;DOUBLE ;LEFT ARC GREATER-THAN BRACKET;RIGHT ARC LESS-THAN BRACKET",
  "2997;;LEFT BLACK TORTOISE SHELL BRACKET;RIGHT BLACK TORTOISE SHELL BRACKET;DOTTED FENCE",
  "299a;;VERTICAL ZIGZAG LINE;MEASURED ANGLE OPENING LEFT;RIGHT ANGLE VARIANT WITH SQUARE",
  "299d;;MEASURED RIGHT ANGLE WITH DOT;ANGLE WITH S INSIDE;ACUTE ANGLE",
  "29a0;;SPHERICAL ANGLE OPENING LEFT;SPHERICAL ANGLE OPENING UP;TURNED ANGLE;REVERSED ANGLE",
  "29a4;;ANGLE WITH UNDERBAR;REVERSED ANGLE WITH UNDERBAR;OBLIQUE ANGLE OPENING UP",
  "29a7;;OBLIQUE ANGLE OPENING DOWN",
  "29a8;MEASURED ANGLE WITH OPEN ARM ENDING IN ARROW POINTING UP AND ;RIGHT;LEFT",
  "29aa;MEASURED ANGLE WITH OPEN ARM ENDING IN ARROW POINTING DOWN AND ;RIGHT;LEFT",
  "29ac;MEASURED ANGLE WITH OPEN ARM ENDING IN ARROW POINTING ;RIGHT AND UP;LEFT AND UP",
  "29ae;MEASURED ANGLE WITH OPEN ARM ENDING IN ARROW POINTING ;RIGHT AND DOWN;LEFT AND DOWN",
  "29b0;;REVERSED EMPTY SET;EMPTY SET WITH OVERBAR;EMPTY SET WITH SMALL CIRCLE ABOVE",
  "29b3;EMPTY SET WITH ;RIGHT ARROW ABOVE;LEFT ARROW ABOVE",
  "29b5;;CIRCLE WITH HORIZONTAL BAR;CIRCLED VERTICAL BAR;CIRCLED PARALLEL;CIRCLED REVERSE SOLIDUS",
  "29b9;;CIRCLED PERPENDICULAR",
  "29ba;;CIRCLE DIVIDED BY HORIZONTAL BAR AND TOP HALF DIVIDED BY VERTICAL BAR",
  "29bb;;CIRCLE WITH SUPERIMPOSED X;CIRCLED ANTICLOCKWISE-ROTATED DIVISION SIGN",
  "29bd;;UP ARROW THROUGH CIRCLE;CIRCLED WHITE BULLET;CIRCLED BULLET;CIRCLED LESS-THAN",
  "29c1;;CIRCLED GREATER-THAN;CIRCLE WITH SMALL CIRCLE TO THE RIGHT",
  "29c3;;CIRCLE WITH TWO HORIZONTAL STROKES TO THE RIGHT;SQUARED RISING DIAGONAL SLASH",
  "29c5;SQUARED ;FALLING DIAGONAL SLASH;ASTERISK;SMALL CIRCLE;SQUARE",
  "29c9;;TWO JOINED SQUARES;TRIANGLE WITH DOT ABOVE;TRIANGLE WITH UNDERBAR;S IN TRIANGLE",
  "29cd;;TRIANGLE WITH SERIFS AT BOTTOM;RIGHT TRIANGLE ABOVE LEFT TRIANGLE",
  "29cf;;LEFT TRIANGLE BESIDE VERTICAL BAR;VERTICAL BAR BESIDE RIGHT TRIANGLE",
  "29d1;;BOWTIE WITH LEFT HALF BLACK;BOWTIE WITH RIGHT HALF BLACK;BLACK BOWTIE",
  "29d4;;TIMES WITH LEFT HALF BLACK;TIMES WITH RIGHT HALF BLACK;WHITE HOURGLASS;BLACK HOURGLASS",
  "29d8;;LEFT WIGGLY FENCE;RIGHT WIGGLY FENCE;LEFT DOUBLE WIGGLY FENCE;RIGHT DOUBLE WIGGLY FENCE",
  "29dc;;INCOMPLETE INFINITY;TIE OVER INFINITY;INFINITY NEGATED WITH VERTICAL BAR",
  "29df;;DOUBLE-ENDED MULTIMAP;SQUARE WITH CONTOURED OUTLINE;INCREASES AS;SHUFFLE PRODUCT",
  "29e3;EQUALS SIGN AND SLANTED ;PARALLEL;PARALLEL WITH TILDE ABOVE",
  "29e5;;IDENTICAL TO AND SLANTED PARALLEL;GLEICH STARK;THERMODYNAMIC",
  "29e8;DOWN-POINTING TRIANGLE WITH ;LEFT HALF BLACK;RIGHT HALF BLACK",
  "29ea;;BLACK DIAMOND WITH DOWN ARROW;BLACK LOZENGE;WHITE CIRCLE WITH DOWN ARROW",
  "29ed;;BLACK CIRCLE WITH DOWN ARROW;ERROR-BARRED WHITE SQUARE;ERROR-BARRED BLACK SQUARE",
  "29f0;ERROR-BARRED ;WHITE DIAMOND;BLACK DIAMOND;WHITE CIRCLE;BLACK CIRCLE",
  "29f4;;RULE-DELAYED;REVERSE SOLIDUS OPERATOR;SOLIDUS WITH OVERBAR",
  "29f7;;REVERSE SOLIDUS WITH HORIZONTAL STROKE;BIG SOLIDUS;BIG REVERSE SOLIDUS;DOUBLE PLUS",
  "29fb;;TRIPLE PLUS;LEFT-POINTING CURVED ANGLE BRACKET;RIGHT-POINTING CURVED ANGLE BRACKET;TINY",
  "29ff;;MINY;N-ARY CIRCLED DOT OPERATOR;N-ARY CIRCLED PLUS OPERATOR;N-ARY CIRCLED TIMES OPERATOR",
  "2a03;N-ARY ;UNION OPERATOR WITH DOT;UNION OPERATOR WITH PLUS;SQUARE INTERSECTION OPERATOR",
  "2a06;;N-ARY SQUARE UNION OPERATOR;TWO LOGICAL AND OPERATOR;TWO LOGICAL OR OPERATOR",
  "2a09;;N-ARY TIMES OPERATOR;MODULO TWO SUM;SUMMATION WITH INTEGRAL;QUADRUPLE INTEGRAL OPERATOR",
  "2a0d;;FINITE PART INTEGRAL;INTEGRAL WITH DOUBLE STROKE;INTEGRAL AVERAGE WITH SLASH",
  "2a10;;CIRCULATION FUNCTION;ANTICLOCKWISE INTEGRATION",
  "2a12;LINE INTEGRATION WITH ;RECTANGULAR PATH AROUND POLE;SEMICIRCULAR PATH AROUND POLE",
  "2a14;;LINE INTEGRATION NOT INCLUDING THE POLE;INTEGRAL AROUND A POINT OPERATOR",
  "2a16;;QUATERNION INTEGRAL OPERATOR;INTEGRAL WITH LEFTWARDS ARROW WITH HOOK",
  "2a18;INTEGRAL WITH ;TIMES SIGN;INTERSECTION;UNION;OVERBAR;UNDERBAR",
  "2a1d;;JOIN;LARGE LEFT TRIANGLE OPERATOR;Z NOTATION SCHEMA COMPOSITION;Z NOTATION SCHEMA PIPING",
  "2a21;;Z NOTATION SCHEMA PROJECTION;PLUS SIGN WITH SMALL CIRCLE ABOVE",
  "2a23;PLUS SIGN WITH ;CIRCUMFLEX ACCENT ABOVE;TILDE ABOVE;DOT BELOW;TILDE BELOW;SUBSCRIPT TWO",
  "2a28;;PLUS SIGN WITH BLACK TRIANGLE;MINUS SIGN WITH COMMA ABOVE;MINUS SIGN WITH DOT BELOW",
  "2a2b;;MINUS SIGN WITH FALLING DOTS;MINUS SIGN WITH RISING DOTS;PLUS SIGN IN LEFT HALF CIRCLE",
  "2a2e;;PLUS SIGN IN RIGHT HALF CIRCLE;VECTOR OR CROSS PRODUCT",
  "2a30;MULTIPLICATION SIGN WITH ;DOT ABOVE;UNDERBAR",
  "2a32;;SEMIDIRECT PRODUCT WITH BOTTOM CLOSED;SMASH PRODUCT",
  "2a34;MULTIPLICATION SIGN IN ;LEFT HALF CIRCLE;RIGHT HALF CIRCLE",
  "2a36;;CIRCLED MULTIPLICATION SIGN WITH CIRCUMFLEX ACCENT;MULTIPLICATION SIGN IN DOUBLE CIRCLE",
  "2a38;;CIRCLED DIVISION SIGN;PLUS SIGN IN TRIANGLE;MINUS SIGN IN TRIANGLE",
  "2a3b;;MULTIPLICATION SIGN IN TRIANGLE;INTERIOR PRODUCT;RIGHTHAND INTERIOR PRODUCT",
  "2a3e;;Z NOTATION RELATIONAL COMPOSITION;AMALGAMATION OR COPRODUCT;INTERSECTION WITH DOT",
  "2a41;;UNION WITH MINUS SIGN;UNION WITH OVERBAR;INTERSECTION WITH OVERBAR",
  "2a44;;INTERSECTION WITH LOGICAL AND;UNION WITH LOGICAL OR;UNION ABOVE INTERSECTION",
  "2a47;;INTERSECTION ABOVE UNION;UNION ABOVE BAR ABOVE INTERSECTION",
  "2a49;;INTERSECTION ABOVE BAR ABOVE UNION;UNION BESIDE AND JOINED WITH UNION",
  "2a4b;;INTERSECTION BESIDE AND JOINED WITH INTERSECTION;CLOSED UNION WITH SERIFS",
  "2a4d;;CLOSED INTERSECTION WITH SERIFS;DOUBLE SQUARE INTERSECTION;DOUBLE SQUARE UNION",
  "2a50;;CLOSED UNION WITH SERIFS AND SMASH PRODUCT;LOGICAL AND WITH DOT ABOVE",
  "2a52;;LOGICAL OR WITH DOT ABOVE;DOUBLE LOGICAL AND;DOUBLE LOGICAL OR",
  "2a55;;TWO INTERSECTING LOGICAL AND;TWO INTERSECTING LOGICAL OR;SLOPING LARGE OR",
  "2a58;;SLOPING LARGE AND;LOGICAL OR OVERLAPPING LOGICAL AND;LOGICAL AND WITH MIDDLE STEM",
  "2a5b;LOGICAL ;OR WITH MIDDLE STEM;AND WITH HORIZONTAL DASH;OR WITH HORIZONTAL DASH",
  "2a5e;LOGICAL AND WITH ;DOUBLE OVERBAR;UNDERBAR;DOUBLE UNDERBAR",
  "2a61;;SMALL VEE WITH UNDERBAR;LOGICAL OR WITH DOUBLE OVERBAR;LOGICAL OR WITH DOUBLE UNDERBAR",
  "2a64;Z NOTATION ;DOMAIN ANTIRESTRICTION;RANGE ANTIRESTRICTION",
  "2a66;;EQUALS SIGN WITH DOT BELOW;IDENTICAL WITH DOT ABOVE",
  "2a68;TRIPLE HORIZONTAL BAR WITH ;DOUBLE VERTICAL STROKE;TRIPLE VERTICAL STROKE",
  "2a6a;;TILDE OPERATOR WITH DOT ABOVE;TILDE OPERATOR WITH RISING DOTS;SIMILAR MINUS SIMILAR",
  "2a6d;;CONGRUENT WITH DOT ABOVE;EQUALS WITH ASTERISK;ALMOST EQUAL TO WITH CIRCUMFLEX ACCENT",
  "2a70;;APPROXIMATELY EQUAL OR EQUAL TO;EQUALS SIGN ABOVE PLUS SIGN;PLUS SIGN ABOVE EQUALS SIGN",
  "2a73;;EQUALS SIGN ABOVE TILDE OPERATOR;DOUBLE COLON EQUAL;TWO CONSECUTIVE EQUALS SIGNS",
  "2a76;;THREE CONSECUTIVE EQUALS SIGNS;EQUALS SIGN WITH TWO DOTS ABOVE AND TWO DOTS BELOW",
  "2a78;;EQUIVALENT WITH FOUR DOTS ABOVE;LESS-THAN WITH CIRCLE INSIDE",
  "2a7a;;GREATER-THAN WITH CIRCLE INSIDE;LESS-THAN WITH QUESTION MARK ABOVE",
  "2a7c;;GREATER-THAN WITH QUESTION MARK ABOVE;LESS-THAN OR SLANTED EQUAL TO",
  "2a7e;;GREATER-THAN OR SLANTED EQUAL TO;LESS-THAN OR SLANTED EQUAL TO WITH DOT INSIDE",
  "2a80;;GREATER-THAN OR SLANTED EQUAL TO WITH DOT INSIDE",
  "2a81;;LESS-THAN OR SLANTED EQUAL TO WITH DOT ABOVE",
  "2a82;;GREATER-THAN OR SLANTED EQUAL TO WITH DOT ABOVE",
  "2a83;;LESS-THAN OR SLANTED EQUAL TO WITH DOT ABOVE RIGHT",
  "2a84;;GREATER-THAN OR SLANTED EQUAL TO WITH DOT ABOVE LEFT;LESS-THAN OR APPROXIMATE",
  "2a86;;GREATER-THAN OR APPROXIMATE;LESS-THAN AND SINGLE-LINE NOT EQUAL TO",
  "2a88;;GREATER-THAN AND SINGLE-LINE NOT EQUAL TO;LESS-THAN AND NOT APPROXIMATE",
  "2a8a;;GREATER-THAN AND NOT APPROXIMATE;LESS-THAN ABOVE DOUBLE-LINE EQUAL ABOVE GREATER-THAN",
  "2a8c;;GREATER-THAN ABOVE DOUBLE-LINE EQUAL ABOVE LESS-THAN;LESS-THAN ABOVE SIMILAR OR EQUAL",
  "2a8e;;GREATER-THAN ABOVE SIMILAR OR EQUAL;LESS-THAN ABOVE SIMILAR ABOVE GREATER-THAN",
  "2a90;;GREATER-THAN ABOVE SIMILAR ABOVE LESS-THAN",
  "2a91;;LESS-THAN ABOVE GREATER-THAN ABOVE DOUBLE-LINE EQUAL",
  "2a92;;GREATER-THAN ABOVE LESS-THAN ABOVE DOUBLE-LINE EQUAL",
  "2a93;;LESS-THAN ABOVE SLANTED EQUAL ABOVE GREATER-THAN ABOVE SLANTED EQUAL",
  "2a94;;GREATER-THAN ABOVE SLANTED EQUAL ABOVE LESS-THAN ABOVE SLANTED EQUAL",
  "2a95;SLANTED EQUAL TO OR ;LESS-THAN;GREATER-THAN;LESS-THAN WITH DOT INSIDE",
  "2a98;;SLANTED EQUAL TO OR GREATER-THAN WITH DOT INSIDE;DOUBLE-LINE EQUAL TO OR LESS-THAN",
  "2a9a;DOUBLE-LINE ;EQUAL TO OR GREATER-THAN;SLANTED EQUAL TO OR LESS-THAN",
  "2a9c;;DOUBLE-LINE SLANTED EQUAL TO OR GREATER-THAN;SIMILAR OR LESS-THAN",
  "2a9e;SIMILAR ;OR GREATER-THAN;ABOVE LESS-THAN ABOVE EQUALS SIGN",
  "2aa0;;SIMILAR ABOVE GREATER-THAN ABOVE EQUALS SIGN;DOUBLE NESTED LESS-THAN",
  "2aa2;DOUBLE NESTED ;GREATER-THAN;LESS-THAN WITH UNDERBAR",
  "2aa4;GREATER-THAN ;OVERLAPPING LESS-THAN;BESIDE LESS-THAN",
  "2aa6;;LESS-THAN CLOSED BY CURVE;GREATER-THAN CLOSED BY CURVE",
  "2aa8;;LESS-THAN CLOSED BY CURVE ABOVE SLANTED EQUAL",
  "2aa9;;GREATER-THAN CLOSED BY CURVE ABOVE SLANTED EQUAL;SMALLER THAN;LARGER THAN",
  "2aac;;SMALLER THAN OR EQUAL TO;LARGER THAN OR EQUAL TO;EQUALS SIGN WITH BUMPY ABOVE",
  "2aaf;;PRECEDES ABOVE SINGLE-LINE EQUALS SIGN;SUCCEEDS ABOVE SINGLE-LINE EQUALS SIGN",
  "2ab1;;PRECEDES ABOVE SINGLE-LINE NOT EQUAL TO;SUCCEEDS ABOVE SINGLE-LINE NOT EQUAL TO",
  "2ab3;;PRECEDES ABOVE EQUALS SIGN;SUCCEEDS ABOVE EQUALS SIGN;PRECEDES ABOVE NOT EQUAL TO",
  "2ab6;;SUCCEEDS ABOVE NOT EQUAL TO;PRECEDES ABOVE ALMOST EQUAL TO",
  "2ab8;;SUCCEEDS ABOVE ALMOST EQUAL TO;PRECEDES ABOVE NOT ALMOST EQUAL TO",
  "2aba;;SUCCEEDS ABOVE NOT ALMOST EQUAL TO;DOUBLE PRECEDES;DOUBLE SUCCEEDS;SUBSET WITH DOT",
  "2abe;;SUPERSET WITH DOT;SUBSET WITH PLUS SIGN BELOW;SUPERSET WITH PLUS SIGN BELOW",
  "2ac1;;SUBSET WITH MULTIPLICATION SIGN BELOW;SUPERSET WITH MULTIPLICATION SIGN BELOW",
  "2ac3;;SUBSET OF OR EQUAL TO WITH DOT ABOVE;SUPERSET OF OR EQUAL TO WITH DOT ABOVE",
  "2ac5;;SUBSET OF ABOVE EQUALS SIGN;SUPERSET OF ABOVE EQUALS SIGN;SUBSET OF ABOVE TILDE OPERATOR",
  "2ac8;;SUPERSET OF ABOVE TILDE OPERATOR;SUBSET OF ABOVE ALMOST EQUAL TO",
  "2aca;;SUPERSET OF ABOVE ALMOST EQUAL TO;SUBSET OF ABOVE NOT EQUAL TO",
  "2acc;;SUPERSET OF ABOVE NOT EQUAL TO;SQUARE LEFT OPEN BOX OPERATOR",
  "2ace;;SQUARE RIGHT OPEN BOX OPERATOR;CLOSED SUBSET;CLOSED SUPERSET;CLOSED SUBSET OR EQUAL TO",
  "2ad2;;CLOSED SUPERSET OR EQUAL TO;SUBSET ABOVE SUPERSET;SUPERSET ABOVE SUBSET",
  "2ad5;;SUBSET ABOVE SUBSET;SUPERSET ABOVE SUPERSET;SUPERSET BESIDE SUBSET",
  "2ad8;;SUPERSET BESIDE AND JOINED BY DASH WITH SUBSET;ELEMENT OF OPENING DOWNWARDS",
  "2ada;;PITCHFORK WITH TEE TOP;TRANSVERSAL INTERSECTION;FORKING;NONFORKING;SHORT LEFT TACK",
  "2adf;;SHORT DOWN TACK;SHORT UP TACK;PERPENDICULAR WITH S;VERTICAL BAR TRIPLE RIGHT TURNSTILE",
  "2ae3;;DOUBLE VERTICAL BAR LEFT TURNSTILE;VERTICAL BAR DOUBLE LEFT TURNSTILE",
  "2ae5;;DOUBLE VERTICAL BAR DOUBLE LEFT TURNSTILE;LONG DASH FROM LEFT MEMBER OF DOUBLE VERTICAL",
  "2ae7;SHORT ;DOWN TACK WITH OVERBAR;UP TACK WITH UNDERBAR;UP TACK ABOVE SHORT DOWN TACK",
  "2aea;;DOUBLE DOWN TACK;DOUBLE UP TACK;DOUBLE STROKE NOT SIGN;REVERSED DOUBLE STROKE NOT SIGN",
  "2aee;;DOES NOT DIVIDE WITH REVERSED NEGATION SLASH;VERTICAL LINE WITH CIRCLE ABOVE",
  "2af0;;VERTICAL LINE WITH CIRCLE BELOW;DOWN TACK WITH CIRCLE BELOW",
  "2af2;PARALLEL WITH ;HORIZONTAL STROKE;TILDE OPERATOR",
  "2af4;TRIPLE ;VERTICAL BAR BINARY RELATION;VERTICAL BAR WITH HORIZONTAL STROKE;COLON OPERATOR",
  "2af7;TRIPLE NESTED ;LESS-THAN;GREATER-THAN",
  "2af9;DOUBLE-LINE SLANTED ;LESS-THAN OR EQUAL TO;GREATER-THAN OR EQUAL TO",
  "2afb;;TRIPLE SOLIDUS BINARY RELATION;LARGE TRIPLE VERTICAL BAR OPERATOR",
  "2afd;;DOUBLE SOLIDUS OPERATOR;WHITE VERTICAL BAR;N-ARY WHITE VERTICAL BAR",
  "2b00;;NORTH EAST WHITE ARROW;NORTH WEST WHITE ARROW;SOUTH EAST WHITE ARROW",
  "2b03;;SOUTH WEST WHITE ARROW;LEFT RIGHT WHITE ARROW;LEFTWARDS BLACK ARROW;UPWARDS BLACK ARROW",
  "2b07;;DOWNWARDS BLACK ARROW;NORTH EAST BLACK ARROW;NORTH WEST BLACK ARROW",
  "2b0a;;SOUTH EAST BLACK ARROW;SOUTH WEST BLACK ARROW;LEFT RIGHT BLACK ARROW;UP DOWN BLACK ARROW",
  "2b0e;RIGHTWARDS ARROW WITH TIP ;DOWNWARDS;UPWARDS",
  "2b10;LEFTWARDS ARROW WITH TIP ;DOWNWARDS;UPWARDS",
  "2b12;SQUARE WITH ;TOP HALF BLACK;BOTTOM HALF BLACK;UPPER RIGHT DIAGONAL HALF BLACK",
  "2b15;;SQUARE WITH LOWER LEFT DIAGONAL HALF BLACK;DIAMOND WITH LEFT HALF BLACK",
  "2b17;DIAMOND WITH ;RIGHT HALF BLACK;TOP HALF BLACK;BOTTOM HALF BLACK",
  "2b1a;;DOTTED SQUARE;BLACK LARGE SQUARE;WHITE LARGE SQUARE;BLACK VERY SMALL SQUARE",
  "2b1e;;WHITE VERY SMALL SQUARE;BLACK PENTAGON;WHITE PENTAGON;WHITE HEXAGON;BLACK HEXAGON",
  "2b23;;HORIZONTAL BLACK HEXAGON;BLACK LARGE CIRCLE;BLACK MEDIUM DIAMOND;WHITE MEDIUM DIAMOND",
  "2b27;;BLACK MEDIUM LOZENGE;WHITE MEDIUM LOZENGE;BLACK SMALL DIAMOND;BLACK SMALL LOZENGE",
  "2b2b;;WHITE SMALL LOZENGE;BLACK HORIZONTAL ELLIPSE;WHITE HORIZONTAL ELLIPSE",
  "2b2e;;BLACK VERTICAL ELLIPSE;WHITE VERTICAL ELLIPSE;LEFT ARROW WITH SMALL CIRCLE",
  "2b31;;THREE LEFTWARDS ARROWS;LEFT ARROW WITH CIRCLED PLUS;LONG LEFTWARDS SQUIGGLE ARROW",
  "2b34;LEFTWARDS TWO-HEADED ARROW ;WITH VERTICAL STROKE;WITH DOUBLE VERTICAL STROKE;FROM BAR",
  "2b37;LEFTWARDS ;TWO-HEADED TRIPLE DASH ARROW;ARROW WITH DOTTED STEM",
  "2b39;LEFTWARDS ARROW WITH TAIL WITH ;VERTICAL STROKE;DOUBLE VERTICAL STROKE",
  "2b3b;LEFTWARDS TWO-HEADED ARROW WITH ;TAIL;TAIL WITH VERTICAL STROKE",
  "2b3d;LEFTWARDS ;TWO-HEADED ARROW WITH TAIL WITH DOUBLE VERTICAL STROKE;ARROW THROUGH X",
  "2b3f;;WAVE ARROW POINTING DIRECTLY LEFT;EQUALS SIGN ABOVE LEFTWARDS ARROW",
  "2b41;;REVERSE TILDE OPERATOR ABOVE LEFTWARDS ARROW",
  "2b42;;LEFTWARDS ARROW ABOVE REVERSE ALMOST EQUAL TO;RIGHTWARDS ARROW THROUGH GREATER-THAN",
  "2b44;;RIGHTWARDS ARROW THROUGH SUPERSET;LEFTWARDS QUADRUPLE ARROW;RIGHTWARDS QUADRUPLE ARROW",
  "2b47;;REVERSE TILDE OPERATOR ABOVE RIGHTWARDS ARROW",
  "2b48;;RIGHTWARDS ARROW ABOVE REVERSE ALMOST EQUAL TO;TILDE OPERATOR ABOVE LEFTWARDS ARROW",
  "2b4a;LEFTWARDS ARROW ABOVE ;ALMOST EQUAL TO;REVERSE TILDE OPERATOR",
  "2b4c;;RIGHTWARDS ARROW ABOVE REVERSE TILDE OPERATOR;DOWNWARDS TRIANGLE-HEADED ZIGZAG ARROW",
  "2b4e;;SHORT SLANTED NORTH ARROW;SHORT BACKSLANTED SOUTH ARROW;WHITE MEDIUM STAR",
  "2b51;;BLACK SMALL STAR;WHITE SMALL STAR;BLACK RIGHT-POINTING PENTAGON",
  "2b54;;WHITE RIGHT-POINTING PENTAGON;HEAVY LARGE CIRCLE;HEAVY OVAL WITH OVAL INSIDE",
  "2b57;HEAVY ;CIRCLE WITH CIRCLE INSIDE;CIRCLE;CIRCLED SALTIRE",
  "2b5a;;SLANTED NORTH ARROW WITH HOOKED HEAD;BACKSLANTED SOUTH ARROW WITH HOOKED TAIL",
  "2b5c;;SLANTED NORTH ARROW WITH HORIZONTAL TAIL;BACKSLANTED SOUTH ARROW WITH HORIZONTAL TAIL",
  "2b5e;;BENT ARROW POINTING DOWNWARDS THEN NORTH EAST",
  "2b5f;;SHORT BENT ARROW POINTING DOWNWARDS THEN NORTH EAST;LEFTWARDS TRIANGLE-HEADED ARROW",
  "2b61;;UPWARDS TRIANGLE-HEADED ARROW;RIGHTWARDS TRIANGLE-HEADED ARROW",
  "2b63;;DOWNWARDS TRIANGLE-HEADED ARROW;LEFT RIGHT TRIANGLE-HEADED ARROW",
  "2b65;;UP DOWN TRIANGLE-HEADED ARROW;NORTH WEST TRIANGLE-HEADED ARROW",
  "2b67;;NORTH EAST TRIANGLE-HEADED ARROW;SOUTH EAST TRIANGLE-HEADED ARROW",
  "2b69;;SOUTH WEST TRIANGLE-HEADED ARROW;LEFTWARDS TRIANGLE-HEADED DASHED ARROW",
  "2b6b;;UPWARDS TRIANGLE-HEADED DASHED ARROW;RIGHTWARDS TRIANGLE-HEADED DASHED ARROW",
  "2b6d;;DOWNWARDS TRIANGLE-HEADED DASHED ARROW;CLOCKWISE TRIANGLE-HEADED OPEN CIRCLE ARROW",
  "2b6f;;ANTICLOCKWISE TRIANGLE-HEADED OPEN CIRCLE ARROW;LEFTWARDS TRIANGLE-HEADED ARROW TO BAR",
  "2b71;;UPWARDS TRIANGLE-HEADED ARROW TO BAR;RIGHTWARDS TRIANGLE-HEADED ARROW TO BAR",
  "2b73;;DOWNWARDS TRIANGLE-HEADED ARROW TO BAR",
  "2b76;NORTH ;WEST TRIANGLE-HEADED ARROW TO BAR;EAST TRIANGLE-HEADED ARROW TO BAR",
  "2b78;SOUTH ;EAST TRIANGLE-HEADED ARROW TO BAR;WEST TRIANGLE-HEADED ARROW TO BAR",
  "2b7a;;LEFTWARDS TRIANGLE-HEADED ARROW WITH DOUBLE HORIZONTAL STROKE",
  "2b7b;;UPWARDS TRIANGLE-HEADED ARROW WITH DOUBLE HORIZONTAL STROKE",
  "2b7c;;RIGHTWARDS TRIANGLE-HEADED ARROW WITH DOUBLE HORIZONTAL STROKE",
  "2b7d;;DOWNWARDS TRIANGLE-HEADED ARROW WITH DOUBLE HORIZONTAL STROKE;HORIZONTAL TAB KEY",
  "2b7f;;VERTICAL TAB KEY;LEFTWARDS TRIANGLE-HEADED ARROW OVER RIGHTWARDS TRIANGLE-HEADED ARROW",
  "2b81;;UPWARDS TRIANGLE-HEADED ARROW LEFTWARDS OF DOWNWARDS TRIANGLE-HEADED ARROW",
  "2b82;;RIGHTWARDS TRIANGLE-HEADED ARROW OVER LEFTWARDS TRIANGLE-HEADED ARROW",
  "2b83;;DOWNWARDS TRIANGLE-HEADED ARROW LEFTWARDS OF UPWARDS TRIANGLE-HEADED ARROW",
  "2b84;;LEFTWARDS TRIANGLE-HEADED PAIRED ARROWS;UPWARDS TRIANGLE-HEADED PAIRED ARROWS",
  "2b86;;RIGHTWARDS TRIANGLE-HEADED PAIRED ARROWS;DOWNWARDS TRIANGLE-HEADED PAIRED ARROWS",
  "2b88;;LEFTWARDS BLACK CIRCLED WHITE ARROW;UPWARDS BLACK CIRCLED WHITE ARROW",
  "2b8a;;RIGHTWARDS BLACK CIRCLED WHITE ARROW;DOWNWARDS BLACK CIRCLED WHITE ARROW",
  "2b8c;ANTICLOCKWISE TRIANGLE-HEADED ;RIGHT U-SHAPED ARROW;BOTTOM U-SHAPED ARROW",
  "2b8e;ANTICLOCKWISE TRIANGLE-HEADED ;LEFT U-SHAPED ARROW;TOP U-SHAPED ARROW",
  "2b90;;RETURN LEFT;RETURN RIGHT;NEWLINE LEFT;NEWLINE RIGHT",
  "2b94;;FOUR CORNER ARROWS CIRCLING ANTICLOCKWISE;RIGHTWARDS BLACK ARROW",
  "2b97;;SYMBOL FOR TYPE A ELECTRONICS;THREE-D TOP-LIGHTED LEFTWARDS EQUILATERAL ARROWHEAD",
  "2b99;;THREE-D RIGHT-LIGHTED UPWARDS EQUILATERAL ARROWHEAD",
  "2b9a;;THREE-D TOP-LIGHTED RIGHTWARDS EQUILATERAL ARROWHEAD",
  "2b9b;;THREE-D LEFT-LIGHTED DOWNWARDS EQUILATERAL ARROWHEAD",
  "2b9c;BLACK ;LEFTWARDS EQUILATERAL ARROWHEAD;UPWARDS EQUILATERAL ARROWHEAD",
  "2b9e;BLACK ;RIGHTWARDS EQUILATERAL ARROWHEAD;DOWNWARDS EQUILATERAL ARROWHEAD",
  "2ba0;DOWNWARDS TRIANGLE-HEADED ARROW WITH LONG TIP ;LEFTWARDS;RIGHTWARDS",
  "2ba2;UPWARDS TRIANGLE-HEADED ARROW WITH LONG TIP ;LEFTWARDS;RIGHTWARDS",
  "2ba4;;LEFTWARDS TRIANGLE-HEADED ARROW WITH LONG TIP UPWARDS",
  "2ba5;;RIGHTWARDS TRIANGLE-HEADED ARROW WITH LONG TIP UPWARDS",
  "2ba6;;LEFTWARDS TRIANGLE-HEADED ARROW WITH LONG TIP DOWNWARDS",
  "2ba7;;RIGHTWARDS TRIANGLE-HEADED ARROW WITH LONG TIP DOWNWARDS",
  "2ba8;BLACK CURVED DOWNWARDS AND ;LEFTWARDS ARROW;RIGHTWARDS ARROW",
  "2baa;BLACK CURVED UPWARDS AND ;LEFTWARDS ARROW;RIGHTWARDS ARROW",
  "2bac;BLACK CURVED ;LEFTWARDS AND UPWARDS ARROW;RIGHTWARDS AND UPWARDS ARROW",
  "2bae;BLACK CURVED ;LEFTWARDS AND DOWNWARDS ARROW;RIGHTWARDS AND DOWNWARDS ARROW",
  "2bb0;RIBBON ARROW ;DOWN LEFT;DOWN RIGHT;UP LEFT;UP RIGHT;LEFT UP;RIGHT UP;LEFT DOWN;RIGHT DOWN",
  "2bb8;;UPWARDS WHITE ARROW FROM BAR WITH HORIZONTAL BAR;UP ARROWHEAD IN A RECTANGLE BOX",
  "2bba;OVERLAPPING ;WHITE SQUARES;WHITE AND BLACK SQUARES;BLACK SQUARES",
  "2bbd;;BALLOT BOX WITH LIGHT X;CIRCLED X;CIRCLED BOLD X;BLACK SQUARE CENTRED",
  "2bc1;;BLACK DIAMOND CENTRED;TURNED BLACK PENTAGON;HORIZONTAL BLACK OCTAGON;BLACK OCTAGON",
  "2bc5;BLACK MEDIUM ;UP-POINTING TRIANGLE CENTRED;DOWN-POINTING TRIANGLE CENTRED",
  "2bc7;BLACK MEDIUM ;LEFT-POINTING TRIANGLE CENTRED;RIGHT-POINTING TRIANGLE CENTRED",
  "2bc9;;NEPTUNE FORM TWO;TOP HALF BLACK CIRCLE;BOTTOM HALF BLACK CIRCLE",
  "2bcc;;LIGHT FOUR POINTED BLACK CUSP;ROTATED LIGHT FOUR POINTED BLACK CUSP",
  "2bce;;WHITE FOUR POINTED CUSP;ROTATED WHITE FOUR POINTED CUSP;SQUARE POSITION INDICATOR",
  "2bd1;;UNCERTAINTY SIGN;GROUP MARK;PLUTO FORM TWO;PLUTO FORM THREE;PLUTO FORM FOUR",
  "2bd6;;PLUTO FORM FIVE;TRANSPLUTO;PROSERPINA;ASTRAEA;HYGIEA;PHOLUS;NESSUS;WHITE MOON SELENA",
  "2bde;;BLACK DIAMOND ON CROSS;TRUE LIGHT MOON ARTA;CUPIDO;HADES;ZEUS;KRONOS;APOLLON;ADMETOS",
  "2be6;;VULCANUS;POSEIDON;LEFT HALF BLACK STAR;RIGHT HALF BLACK STAR;STAR WITH LEFT HALF BLACK",
  "2beb;;STAR WITH RIGHT HALF BLACK;LEFTWARDS TWO-HEADED ARROW WITH TRIANGLE ARROWHEADS",
  "2bed;;UPWARDS TWO-HEADED ARROW WITH TRIANGLE ARROWHEADS",
  "2bee;;RIGHTWARDS TWO-HEADED ARROW WITH TRIANGLE ARROWHEADS",
  "2bef;;DOWNWARDS TWO-HEADED ARROW WITH TRIANGLE ARROWHEADS;ERIS FORM ONE;ERIS FORM TWO;SEDNA",
  "2bf3;RUSSIAN ASTROLOGICAL SYMBOL ;VIGINTILE;NOVILE;QUINTILE;BINOVILE;SENTAGON;TREDECILE",
  "2bf9;;EQUALS SIGN WITH INFINITY BELOW;UNITED SYMBOL;SEPARATED SYMBOL;DOUBLED SYMBOL",
  "2bfd;;PASSED SYMBOL;REVERSED RIGHT ANGLE;HELLSCHREIBER PAUSE SYMBOL"]

end FoldTree.Text
