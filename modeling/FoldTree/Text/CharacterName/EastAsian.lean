/-! Names of characters from Glagolitic to the forms of full and half width. Most of them are of East
Asia; Han characters and Hangul syllables have theirs by rule.
-/

namespace FoldTree.Text

/-- The names of characters from Glagolitic to the forms of full and half width. -/
def eastAsianLines : List String := [
  "2c00;GLAGOLITIC CAPITAL LETTER ;AZU;BUKY;VEDE;GLAGOLI;DOBRO;YESTU;ZHIVETE;DZELO;ZEMLJA;IZHE",
  "2c0a;GLAGOLITIC CAPITAL LETTER ;INITIAL IZHE;I;DJERVI;KAKO;LJUDIJE;MYSLITE;NASHI;ONU;POKOJI",
  "2c13;GLAGOLITIC CAPITAL LETTER ;RITSI;SLOVO;TVRIDO;UKU;FRITU;HERU;OTU;PE;SHTA;TSI;CHRIVI;SHA",
  "2c1f;GLAGOLITIC CAPITAL LETTER ;YERU;YERI;YATI;SPIDERY HA;YU;SMALL YUS;SMALL YUS WITH TAIL;YO",
  "2c27;GLAGOLITIC CAPITAL LETTER ;IOTATED SMALL YUS;BIG YUS;IOTATED BIG YUS;FITA;IZHITSA;SHTAPIC",
  "2c2d;GLAGOLITIC CAPITAL LETTER ;TROKUTASTI A;LATINATE MYSLITE;CAUDATE CHRIVI",
  "2c30;GLAGOLITIC SMALL LETTER ;AZU;BUKY;VEDE;GLAGOLI;DOBRO;YESTU;ZHIVETE;DZELO;ZEMLJA;IZHE",
  "2c3a;GLAGOLITIC SMALL LETTER ;INITIAL IZHE;I;DJERVI;KAKO;LJUDIJE;MYSLITE;NASHI;ONU;POKOJI",
  "2c43;GLAGOLITIC SMALL LETTER ;RITSI;SLOVO;TVRIDO;UKU;FRITU;HERU;OTU;PE;SHTA;TSI;CHRIVI;SHA",
  "2c4f;GLAGOLITIC SMALL LETTER ;YERU;YERI;YATI;SPIDERY HA;YU;SMALL YUS;SMALL YUS WITH TAIL;YO",
  "2c57;GLAGOLITIC SMALL LETTER ;IOTATED SMALL YUS;BIG YUS;IOTATED BIG YUS;FITA;IZHITSA;SHTAPIC",
  "2c5d;GLAGOLITIC SMALL LETTER ;TROKUTASTI A;LATINATE MYSLITE;CAUDATE CHRIVI",
  "2c60;LATIN ;CAPITAL LETTER L WITH DOUBLE BAR;SMALL LETTER L WITH DOUBLE BAR",
  "2c62;LATIN CAPITAL LETTER ;L WITH MIDDLE TILDE;P WITH STROKE;R WITH TAIL",
  "2c65;LATIN SMALL LETTER ;A WITH STROKE;T WITH DIAGONAL STROKE",
  "2c67;LATIN ;CAPITAL LETTER H WITH DESCENDER;SMALL LETTER H WITH DESCENDER",
  "2c69;LATIN ;CAPITAL LETTER K WITH DESCENDER;SMALL LETTER K WITH DESCENDER",
  "2c6b;LATIN ;CAPITAL LETTER Z WITH DESCENDER;SMALL LETTER Z WITH DESCENDER;CAPITAL LETTER ALPHA",
  "2c6e;LATIN CAPITAL LETTER ;M WITH HOOK;TURNED A;TURNED ALPHA",
  "2c71;LATIN ;SMALL LETTER V WITH RIGHT HOOK;CAPITAL LETTER W WITH HOOK;SMALL LETTER W WITH HOOK",
  "2c74;LATIN ;SMALL LETTER V WITH CURL;CAPITAL LETTER HALF H;SMALL LETTER HALF H",
  "2c77;LATIN SMALL LETTER ;TAILLESS PHI;E WITH NOTCH;TURNED R WITH TAIL;O WITH LOW RING INSIDE",
  "2c7b;LATIN ;LETTER SMALL CAPITAL TURNED E;SUBSCRIPT SMALL LETTER J",
  "2c7d;;MODIFIER LETTER CAPITAL V;LATIN CAPITAL LETTER S WITH SWASH TAIL",
  "2c7f;;LATIN CAPITAL LETTER Z WITH SWASH TAIL;COPTIC CAPITAL LETTER ALFA",
  "2c81;COPTIC ;SMALL LETTER ALFA;CAPITAL LETTER VIDA;SMALL LETTER VIDA;CAPITAL LETTER GAMMA",
  "2c85;COPTIC ;SMALL LETTER GAMMA;CAPITAL LETTER DALDA;SMALL LETTER DALDA;CAPITAL LETTER EIE",
  "2c89;COPTIC ;SMALL LETTER EIE;CAPITAL LETTER SOU;SMALL LETTER SOU;CAPITAL LETTER ZATA",
  "2c8d;COPTIC ;SMALL LETTER ZATA;CAPITAL LETTER HATE;SMALL LETTER HATE;CAPITAL LETTER THETHE",
  "2c91;COPTIC ;SMALL LETTER THETHE;CAPITAL LETTER IAUDA;SMALL LETTER IAUDA;CAPITAL LETTER KAPA",
  "2c95;COPTIC ;SMALL LETTER KAPA;CAPITAL LETTER LAULA;SMALL LETTER LAULA;CAPITAL LETTER MI",
  "2c99;COPTIC ;SMALL LETTER MI;CAPITAL LETTER NI;SMALL LETTER NI;CAPITAL LETTER KSI",
  "2c9d;COPTIC ;SMALL LETTER KSI;CAPITAL LETTER O;SMALL LETTER O;CAPITAL LETTER PI",
  "2ca1;COPTIC ;SMALL LETTER PI;CAPITAL LETTER RO;SMALL LETTER RO;CAPITAL LETTER SIMA",
  "2ca5;COPTIC ;SMALL LETTER SIMA;CAPITAL LETTER TAU;SMALL LETTER TAU;CAPITAL LETTER UA",
  "2ca9;COPTIC ;SMALL LETTER UA;CAPITAL LETTER FI;SMALL LETTER FI;CAPITAL LETTER KHI",
  "2cad;COPTIC ;SMALL LETTER KHI;CAPITAL LETTER PSI;SMALL LETTER PSI;CAPITAL LETTER OOU",
  "2cb1;COPTIC ;SMALL LETTER OOU;CAPITAL LETTER DIALECT-P ALEF;SMALL LETTER DIALECT-P ALEF",
  "2cb4;COPTIC ;CAPITAL LETTER OLD COPTIC AIN;SMALL LETTER OLD COPTIC AIN",
  "2cb6;COPTIC ;CAPITAL LETTER CRYPTOGRAMMIC EIE;SMALL LETTER CRYPTOGRAMMIC EIE",
  "2cb8;COPTIC ;CAPITAL LETTER DIALECT-P KAPA;SMALL LETTER DIALECT-P KAPA",
  "2cba;COPTIC ;CAPITAL LETTER DIALECT-P NI;SMALL LETTER DIALECT-P NI",
  "2cbc;COPTIC ;CAPITAL LETTER CRYPTOGRAMMIC NI;SMALL LETTER CRYPTOGRAMMIC NI",
  "2cbe;COPTIC ;CAPITAL LETTER OLD COPTIC OOU;SMALL LETTER OLD COPTIC OOU;CAPITAL LETTER SAMPI",
  "2cc1;COPTIC ;SMALL LETTER SAMPI;CAPITAL LETTER CROSSED SHEI;SMALL LETTER CROSSED SHEI",
  "2cc4;COPTIC ;CAPITAL LETTER OLD COPTIC SHEI;SMALL LETTER OLD COPTIC SHEI",
  "2cc6;COPTIC ;CAPITAL LETTER OLD COPTIC ESH;SMALL LETTER OLD COPTIC ESH",
  "2cc8;COPTIC ;CAPITAL LETTER AKHMIMIC KHEI;SMALL LETTER AKHMIMIC KHEI",
  "2cca;COPTIC ;CAPITAL LETTER DIALECT-P HORI;SMALL LETTER DIALECT-P HORI",
  "2ccc;COPTIC ;CAPITAL LETTER OLD COPTIC HORI;SMALL LETTER OLD COPTIC HORI",
  "2cce;COPTIC ;CAPITAL LETTER OLD COPTIC HA;SMALL LETTER OLD COPTIC HA",
  "2cd0;COPTIC ;CAPITAL LETTER L-SHAPED HA;SMALL LETTER L-SHAPED HA;CAPITAL LETTER OLD COPTIC HEI",
  "2cd3;COPTIC ;SMALL LETTER OLD COPTIC HEI;CAPITAL LETTER OLD COPTIC HAT",
  "2cd5;COPTIC ;SMALL LETTER OLD COPTIC HAT;CAPITAL LETTER OLD COPTIC GANGIA",
  "2cd7;COPTIC ;SMALL LETTER OLD COPTIC GANGIA;CAPITAL LETTER OLD COPTIC DJA",
  "2cd9;COPTIC ;SMALL LETTER OLD COPTIC DJA;CAPITAL LETTER OLD COPTIC SHIMA",
  "2cdb;COPTIC ;SMALL LETTER OLD COPTIC SHIMA;CAPITAL LETTER OLD NUBIAN SHIMA",
  "2cdd;COPTIC ;SMALL LETTER OLD NUBIAN SHIMA;CAPITAL LETTER OLD NUBIAN NGI",
  "2cdf;COPTIC ;SMALL LETTER OLD NUBIAN NGI;CAPITAL LETTER OLD NUBIAN NYI",
  "2ce1;COPTIC ;SMALL LETTER OLD NUBIAN NYI;CAPITAL LETTER OLD NUBIAN WAU",
  "2ce3;COPTIC ;SMALL LETTER OLD NUBIAN WAU;SYMBOL KAI;SYMBOL MI RO;SYMBOL PI RO;SYMBOL STAUROS",
  "2ce8;COPTIC ;SYMBOL TAU RO;SYMBOL KHI RO;SYMBOL SHIMA SIMA;CAPITAL LETTER CRYPTOGRAMMIC SHEI",
  "2cec;COPTIC ;SMALL LETTER CRYPTOGRAMMIC SHEI;CAPITAL LETTER CRYPTOGRAMMIC GANGIA",
  "2cee;COPTIC ;SMALL LETTER CRYPTOGRAMMIC GANGIA;COMBINING NI ABOVE;COMBINING SPIRITUS ASPER",
  "2cf1;COPTIC ;COMBINING SPIRITUS LENIS;CAPITAL LETTER BOHAIRIC KHEI;SMALL LETTER BOHAIRIC KHEI",
  "2cf9;COPTIC OLD NUBIAN ;FULL STOP;DIRECT QUESTION MARK;INDIRECT QUESTION MARK;VERSE DIVIDER",
  "2cfd;COPTIC ;FRACTION ONE HALF;FULL STOP;MORPHOLOGICAL DIVIDER",
  "2d00;GEORGIAN SMALL LETTER ;AN;BAN;GAN;DON;EN;VIN;ZEN;TAN;IN;KAN;LAS;MAN;NAR;ON;PAR;ZHAR;RAE",
  "2d11;GEORGIAN SMALL LETTER ;SAN;TAR;UN;PHAR;KHAR;GHAN;QAR;SHIN;CHIN;CAN;JIL;CIL;CHAR;XAN;JHAN",
  "2d20;GEORGIAN SMALL LETTER ;HAE;HE;HIE;WE;HAR;HOE",
  "2d27;;GEORGIAN SMALL LETTER YN",
  "2d2d;;GEORGIAN SMALL LETTER AEN",
  "2d30;TIFINAGH LETTER ;YA;YAB;YABH;YAG;YAGHH;BERBER ACADEMY YAJ;YAJ;YAD;YADH;YADD;YADDH;YEY;YAF",
  "2d3d;TIFINAGH LETTER ;YAK;TUAREG YAK;YAKHH;YAH;BERBER ACADEMY YAH;TUAREG YAH;YAHH;YAA;YAKH",
  "2d46;TIFINAGH LETTER ;TUAREG YAKH;YAQ;TUAREG YAQ;YI;YAZH;AHAGGAR YAZH;TUAREG YAZH;YAL;YAM;YAN",
  "2d50;TIFINAGH LETTER ;TUAREG YAGN;TUAREG YANG;YAP;YU;YAR;YARR;YAGH;TUAREG YAGH;AYER YAGH;YAS",
  "2d5a;TIFINAGH LETTER ;YASS;YASH;YAT;YATH;YACH;YATT;YAV;YAW;YAY;YAZ;TAWELLEMET YAZ;YAZZ;YE;YO",
  "2d6f;TIFINAGH ;MODIFIER LETTER LABIALIZATION MARK;SEPARATOR MARK",
  "2d7f;;TIFINAGH CONSONANT JOINER;ETHIOPIC SYLLABLE LOA;ETHIOPIC SYLLABLE MOA",
  "2d82;ETHIOPIC SYLLABLE ;ROA;SOA;SHOA;BOA;TOA;COA;NOA;NYOA;GLOTTAL OA;ZOA;DOA;DDOA;JOA;THOA",
  "2d90;ETHIOPIC SYLLABLE ;CHOA;PHOA;POA;GGWA;GGWI;GGWEE;GGWE",
  "2da0;ETHIOPIC SYLLABLE ;SSA;SSU;SSI;SSAA;SSEE;SSE;SSO",
  "2da8;ETHIOPIC SYLLABLE ;CCA;CCU;CCI;CCAA;CCEE;CCE;CCO",
  "2db0;ETHIOPIC SYLLABLE ;ZZA;ZZU;ZZI;ZZAA;ZZEE;ZZE;ZZO",
  "2db8;ETHIOPIC SYLLABLE ;CCHA;CCHU;CCHI;CCHAA;CCHEE;CCHE;CCHO",
  "2dc0;ETHIOPIC SYLLABLE ;QYA;QYU;QYI;QYAA;QYEE;QYE;QYO",
  "2dc8;ETHIOPIC SYLLABLE ;KYA;KYU;KYI;KYAA;KYEE;KYE;KYO",
  "2dd0;ETHIOPIC SYLLABLE ;XYA;XYU;XYI;XYAA;XYEE;XYE;XYO",
  "2dd8;ETHIOPIC SYLLABLE ;GYA;GYU;GYI;GYAA;GYEE;GYE;GYO",
  "2de0;COMBINING CYRILLIC LETTER ;BE;VE;GHE;DE;ZHE;ZE;KA;EL;EM;EN;O;PE;ER;ES;TE;HA;TSE;CHE;SHA",
  "2df3;COMBINING CYRILLIC LETTER ;SHCHA;FITA;ES-TE;A;IE;DJERV;MONOGRAPH UK;YAT;YU;IOTIFIED A",
  "2dfd;COMBINING CYRILLIC LETTER ;LITTLE YUS;BIG YUS;IOTIFIED BIG YUS",
  "2e00;RIGHT ANGLE ;SUBSTITUTION MARKER;DOTTED SUBSTITUTION MARKER",
  "2e02;;LEFT SUBSTITUTION BRACKET;RIGHT SUBSTITUTION BRACKET;LEFT DOTTED SUBSTITUTION BRACKET",
  "2e05;;RIGHT DOTTED SUBSTITUTION BRACKET;RAISED INTERPOLATION MARKER",
  "2e07;;RAISED DOTTED INTERPOLATION MARKER;DOTTED TRANSPOSITION MARKER",
  "2e09;;LEFT TRANSPOSITION BRACKET;RIGHT TRANSPOSITION BRACKET;RAISED SQUARE",
  "2e0c;;LEFT RAISED OMISSION BRACKET;RIGHT RAISED OMISSION BRACKET;EDITORIAL CORONIS;PARAGRAPHOS",
  "2e10;;FORKED PARAGRAPHOS;REVERSED FORKED PARAGRAPHOS;HYPODIASTOLE;DOTTED OBELOS",
  "2e14;;DOWNWARDS ANCORA;UPWARDS ANCORA;DOTTED RIGHT-POINTING ANGLE;DOUBLE OBLIQUE HYPHEN",
  "2e18;;INVERTED INTERROBANG;PALM BRANCH;HYPHEN WITH DIAERESIS;TILDE WITH RING ABOVE",
  "2e1c;;LEFT LOW PARAPHRASE BRACKET;RIGHT LOW PARAPHRASE BRACKET;TILDE WITH DOT ABOVE",
  "2e1f;;TILDE WITH DOT BELOW;LEFT VERTICAL BAR WITH QUILL;RIGHT VERTICAL BAR WITH QUILL",
  "2e22;;TOP LEFT HALF BRACKET;TOP RIGHT HALF BRACKET;BOTTOM LEFT HALF BRACKET",
  "2e25;;BOTTOM RIGHT HALF BRACKET;LEFT SIDEWAYS U BRACKET;RIGHT SIDEWAYS U BRACKET",
  "2e28;;LEFT DOUBLE PARENTHESIS;RIGHT DOUBLE PARENTHESIS;TWO DOTS OVER ONE DOT PUNCTUATION",
  "2e2b;;ONE DOT OVER TWO DOTS PUNCTUATION;SQUARED FOUR DOT PUNCTUATION;FIVE DOT MARK",
  "2e2e;;REVERSED QUESTION MARK;VERTICAL TILDE;RING POINT;WORD SEPARATOR MIDDLE DOT;TURNED COMMA",
  "2e33;;RAISED DOT;RAISED COMMA;TURNED SEMICOLON;DAGGER WITH LEFT GUARD;DAGGER WITH RIGHT GUARD",
  "2e38;;TURNED DAGGER;TOP HALF SECTION SIGN;TWO-EM DASH;THREE-EM DASH;STENOGRAPHIC FULL STOP",
  "2e3d;;VERTICAL SIX DOTS;WIGGLY VERTICAL LINE;CAPITULUM;DOUBLE HYPHEN;REVERSED COMMA",
  "2e42;;DOUBLE LOW-REVERSED-9 QUOTATION MARK;DASH WITH LEFT UPTURN;DOUBLE SUSPENSION MARK",
  "2e45;;INVERTED LOW KAVYKA;INVERTED LOW KAVYKA WITH KAVYKA ABOVE;LOW KAVYKA;LOW KAVYKA WITH DOT",
  "2e49;;DOUBLE STACKED COMMA;DOTTED SOLIDUS;TRIPLE DAGGER;MEDIEVAL COMMA;PARAGRAPHUS MARK",
  "2e4e;;PUNCTUS ELEVATUS MARK;CORNISH VERSE DIVIDER;CROSS PATTY WITH RIGHT CROSSBAR",
  "2e51;;CROSS PATTY WITH LEFT CROSSBAR;TIRONIAN SIGN CAPITAL ET;MEDIEVAL EXCLAMATION MARK",
  "2e54;;MEDIEVAL QUESTION MARK;LEFT SQUARE BRACKET WITH STROKE;RIGHT SQUARE BRACKET WITH STROKE",
  "2e57;;LEFT SQUARE BRACKET WITH DOUBLE STROKE;RIGHT SQUARE BRACKET WITH DOUBLE STROKE",
  "2e59;;TOP HALF LEFT PARENTHESIS;TOP HALF RIGHT PARENTHESIS;BOTTOM HALF LEFT PARENTHESIS",
  "2e5c;;BOTTOM HALF RIGHT PARENTHESIS;OBLIQUE HYPHEN",
  "2e80;CJK RADICAL ;REPEAT;CLIFF;SECOND ONE;SECOND TWO;SECOND THREE;PERSON;BOX;TABLE;KNIFE ONE",
  "2e89;CJK RADICAL ;KNIFE TWO;DIVINATION;SEAL;SMALL ONE;SMALL TWO;LAME ONE;LAME TWO;LAME THREE",
  "2e91;CJK RADICAL ;LAME FOUR;SNAKE;THREAD;SNOUT ONE;SNOUT TWO;HEART ONE;HEART TWO;HAND;RAP",
  "2e9b;CJK RADICAL ;CHOKE;SUN;MOON;DEATH;MOTHER;CIVILIAN;WATER ONE;WATER TWO;FIRE;PAW ONE",
  "2ea5;CJK RADICAL ;PAW TWO;SIMPLIFIED HALF TREE TRUNK;COW;DOG;JADE;BOLT OF CLOTH;EYE;SPIRIT ONE",
  "2ead;CJK RADICAL ;SPIRIT TWO;BAMBOO;SILK;C-SIMPLIFIED SILK;NET ONE;NET TWO;NET THREE;NET FOUR",
  "2eb5;CJK RADICAL ;MESH;SHEEP;RAM;EWE;OLD;BRUSH ONE;BRUSH TWO;MEAT;MORTAR;GRASS ONE;GRASS TWO",
  "2ec0;CJK RADICAL ;GRASS THREE;TIGER;CLOTHES;WEST ONE;WEST TWO;C-SIMPLIFIED SEE;SIMPLIFIED HORN",
  "2ec7;CJK RADICAL ;HORN;C-SIMPLIFIED SPEECH;C-SIMPLIFIED SHELL;FOOT;C-SIMPLIFIED CART",
  "2ecc;CJK RADICAL ;SIMPLIFIED WALK;WALK ONE;WALK TWO;CITY;C-SIMPLIFIED GOLD;LONG ONE;LONG TWO",
  "2ed3;CJK RADICAL ;C-SIMPLIFIED LONG;C-SIMPLIFIED GATE;MOUND ONE;MOUND TWO;RAIN;BLUE",
  "2ed9;CJK RADICAL C-SIMPLIFIED ;TANNED LEATHER;LEAF;WIND;FLY",
  "2edd;CJK RADICAL ;EAT ONE;EAT TWO;EAT THREE;C-SIMPLIFIED EAT;HEAD;C-SIMPLIFIED HORSE;BONE",
  "2ee4;CJK RADICAL ;GHOST;C-SIMPLIFIED FISH;C-SIMPLIFIED BIRD;C-SIMPLIFIED SALT;SIMPLIFIED WHEAT",
  "2ee9;CJK RADICAL ;SIMPLIFIED YELLOW;C-SIMPLIFIED FROG;J-SIMPLIFIED EVEN;C-SIMPLIFIED EVEN",
  "2eed;CJK RADICAL ;J-SIMPLIFIED TOOTH;C-SIMPLIFIED TOOTH;J-SIMPLIFIED DRAGON",
  "2ef0;CJK RADICAL ;C-SIMPLIFIED DRAGON;TURTLE;J-SIMPLIFIED TURTLE;C-SIMPLIFIED TURTLE",
  "2f00;KANGXI RADICAL ;ONE;LINE;DOT;SLASH;SECOND;HOOK;TWO;LID;MAN;LEGS;ENTER;EIGHT;DOWN BOX",
  "2f0d;KANGXI RADICAL ;COVER;ICE;TABLE;OPEN BOX;KNIFE;POWER;WRAP;SPOON;RIGHT OPEN BOX",
  "2f16;KANGXI RADICAL ;HIDING ENCLOSURE;TEN;DIVINATION;SEAL;CLIFF;PRIVATE;AGAIN;MOUTH;ENCLOSURE",
  "2f1f;KANGXI RADICAL ;EARTH;SCHOLAR;GO;GO SLOWLY;EVENING;BIG;WOMAN;CHILD;ROOF;INCH;SMALL;LAME",
  "2f2b;KANGXI RADICAL ;CORPSE;SPROUT;MOUNTAIN;RIVER;WORK;ONESELF;TURBAN;DRY;SHORT THREAD",
  "2f34;KANGXI RADICAL ;DOTTED CLIFF;LONG STRIDE;TWO HANDS;SHOOT;BOW;SNOUT;BRISTLE;STEP;HEART",
  "2f3d;KANGXI RADICAL ;HALBERD;DOOR;HAND;BRANCH;RAP;SCRIPT;DIPPER;AXE;SQUARE;NOT;SUN;SAY;MOON",
  "2f4a;KANGXI RADICAL ;TREE;LACK;STOP;DEATH;WEAPON;DO NOT;COMPARE;FUR;CLAN;STEAM;WATER;FIRE;CLAW",
  "2f57;KANGXI RADICAL ;FATHER;DOUBLE X;HALF TREE TRUNK;SLICE;FANG;COW;DOG;PROFOUND;JADE;MELON",
  "2f61;KANGXI RADICAL ;TILE;SWEET;LIFE;USE;FIELD;BOLT OF CLOTH;SICKNESS;DOTTED TENT;WHITE;SKIN",
  "2f6b;KANGXI RADICAL ;DISH;EYE;SPEAR;ARROW;STONE;SPIRIT;TRACK;GRAIN;CAVE;STAND;BAMBOO;RICE;SILK",
  "2f78;KANGXI RADICAL ;JAR;NET;SHEEP;FEATHER;OLD;AND;PLOW;EAR;BRUSH;MEAT;MINISTER;SELF;ARRIVE",
  "2f85;KANGXI RADICAL ;MORTAR;TONGUE;OPPOSE;BOAT;STOPPING;COLOR;GRASS;TIGER;INSECT;BLOOD",
  "2f8f;KANGXI RADICAL ;WALK ENCLOSURE;CLOTHES;WEST;SEE;HORN;SPEECH;VALLEY;BEAN;PIG;BADGER;SHELL",
  "2f9a;KANGXI RADICAL ;RED;RUN;FOOT;BODY;CART;BITTER;MORNING;WALK;CITY;WINE;DISTINGUISH;VILLAGE",
  "2fa6;KANGXI RADICAL ;GOLD;LONG;GATE;MOUND;SLAVE;SHORT TAILED BIRD;RAIN;BLUE;WRONG;FACE;LEATHER",
  "2fb1;KANGXI RADICAL ;TANNED LEATHER;LEEK;SOUND;LEAF;WIND;FLY;EAT;HEAD;FRAGRANT;HORSE;BONE;TALL",
  "2fbd;KANGXI RADICAL ;HAIR;FIGHT;SACRIFICIAL WINE;CAULDRON;GHOST;FISH;BIRD;SALT;DEER;WHEAT;HEMP",
  "2fc8;KANGXI RADICAL ;YELLOW;MILLET;BLACK;EMBROIDERY;FROG;TRIPOD;DRUM;RAT;NOSE;EVEN;TOOTH",
  "2fd3;KANGXI RADICAL ;DRAGON;TURTLE;FLUTE",
  "2ff0;IDEOGRAPHIC DESCRIPTION CHARACTER ;LEFT TO RIGHT;ABOVE TO BELOW;LEFT TO MIDDLE AND RIGHT",
  "2ff3;IDEOGRAPHIC DESCRIPTION CHARACTER ;ABOVE TO MIDDLE AND BELOW;FULL SURROUND",
  "2ff5;IDEOGRAPHIC DESCRIPTION CHARACTER SURROUND FROM ;ABOVE;BELOW;LEFT;UPPER LEFT;UPPER RIGHT",
  "2ffa;IDEOGRAPHIC DESCRIPTION CHARACTER ;SURROUND FROM LOWER LEFT;OVERLAID",
  "3000;;IDEOGRAPHIC SPACE;IDEOGRAPHIC COMMA;IDEOGRAPHIC FULL STOP;DITTO MARK",
  "3004;;JAPANESE INDUSTRIAL STANDARD SYMBOL;IDEOGRAPHIC ITERATION MARK;IDEOGRAPHIC CLOSING MARK",
  "3007;;IDEOGRAPHIC NUMBER ZERO;LEFT ANGLE BRACKET;RIGHT ANGLE BRACKET;LEFT DOUBLE ANGLE BRACKET",
  "300b;;RIGHT DOUBLE ANGLE BRACKET;LEFT CORNER BRACKET;RIGHT CORNER BRACKET",
  "300e;;LEFT WHITE CORNER BRACKET;RIGHT WHITE CORNER BRACKET;LEFT BLACK LENTICULAR BRACKET",
  "3011;;RIGHT BLACK LENTICULAR BRACKET;POSTAL MARK;GETA MARK;LEFT TORTOISE SHELL BRACKET",
  "3015;;RIGHT TORTOISE SHELL BRACKET;LEFT WHITE LENTICULAR BRACKET",
  "3017;;RIGHT WHITE LENTICULAR BRACKET;LEFT WHITE TORTOISE SHELL BRACKET",
  "3019;;RIGHT WHITE TORTOISE SHELL BRACKET;LEFT WHITE SQUARE BRACKET;RIGHT WHITE SQUARE BRACKET",
  "301c;;WAVE DASH;REVERSED DOUBLE PRIME QUOTATION MARK;DOUBLE PRIME QUOTATION MARK",
  "301f;;LOW DOUBLE PRIME QUOTATION MARK;POSTAL MARK FACE;HANGZHOU NUMERAL ONE",
  "3022;HANGZHOU NUMERAL ;TWO;THREE;FOUR;FIVE;SIX;SEVEN;EIGHT;NINE",
  "302a;IDEOGRAPHIC ;LEVEL TONE MARK;RISING TONE MARK;DEPARTING TONE MARK;ENTERING TONE MARK",
  "302e;;HANGUL SINGLE DOT TONE MARK;HANGUL DOUBLE DOT TONE MARK;WAVY DASH",
  "3031;VERTICAL KANA REPEAT ;MARK;WITH VOICED SOUND MARK;MARK UPPER HALF",
  "3034;VERTICAL KANA REPEAT ;WITH VOICED SOUND MARK UPPER HALF;MARK LOWER HALF",
  "3036;;CIRCLED POSTAL MARK;IDEOGRAPHIC TELEGRAPH LINE FEED SEPARATOR SYMBOL",
  "3038;HANGZHOU NUMERAL ;TEN;TWENTY;THIRTY",
  "303b;;VERTICAL IDEOGRAPHIC ITERATION MARK;MASU MARK;PART ALTERNATION MARK",
  "303e;IDEOGRAPHIC ;VARIATION INDICATOR;HALF FILL SPACE",
  "3041;HIRAGANA LETTER ;SMALL A;A;SMALL I;I;SMALL U;U;SMALL E;E;SMALL O;O;KA;GA;KI;GI;KU;GU;KE",
  "3052;HIRAGANA LETTER ;GE;KO;GO;SA;ZA;SI;ZI;SU;ZU;SE;ZE;SO;ZO;TA;DA;TI;DI;SMALL TU;TU;DU;TE;DE",
  "3068;HIRAGANA LETTER ;TO;DO;NA;NI;NU;NE;NO;HA;BA;PA;HI;BI;PI;HU;BU;PU;HE;BE;PE;HO;BO;PO;MA;MI",
  "3080;HIRAGANA LETTER ;MU;ME;MO;SMALL YA;YA;SMALL YU;YU;SMALL YO;YO;RA;RI;RU;RE;RO;SMALL WA;WA",
  "3090;HIRAGANA LETTER ;WI;WE;WO;N;VU;SMALL KA;SMALL KE",
  "3099;COMBINING KATAKANA-HIRAGANA ;VOICED SOUND MARK;SEMI-VOICED SOUND MARK",
  "309b;KATAKANA-HIRAGANA ;VOICED SOUND MARK;SEMI-VOICED SOUND MARK",
  "309d;HIRAGANA ;ITERATION MARK;VOICED ITERATION MARK;DIGRAPH YORI",
  "30a0;;KATAKANA-HIRAGANA DOUBLE HYPHEN;KATAKANA LETTER SMALL A;KATAKANA LETTER A",
  "30a3;KATAKANA LETTER ;SMALL I;I;SMALL U;U;SMALL E;E;SMALL O;O;KA;GA;KI;GI;KU;GU;KE;GE;KO;GO;SA",
  "30b6;KATAKANA LETTER ;ZA;SI;ZI;SU;ZU;SE;ZE;SO;ZO;TA;DA;TI;DI;SMALL TU;TU;DU;TE;DE;TO;DO;NA;NI",
  "30cc;KATAKANA LETTER ;NU;NE;NO;HA;BA;PA;HI;BI;PI;HU;BU;PU;HE;BE;PE;HO;BO;PO;MA;MI;MU;ME;MO",
  "30e3;KATAKANA LETTER ;SMALL YA;YA;SMALL YU;YU;SMALL YO;YO;RA;RI;RU;RE;RO;SMALL WA;WA;WI;WE;WO",
  "30f3;KATAKANA LETTER ;N;VU;SMALL KA;SMALL KE;VA;VI;VE;VO",
  "30fb;;KATAKANA MIDDLE DOT;KATAKANA-HIRAGANA PROLONGED SOUND MARK;KATAKANA ITERATION MARK",
  "30fe;KATAKANA ;VOICED ITERATION MARK;DIGRAPH KOTO",
  "3105;BOPOMOFO LETTER ;B;P;M;F;D;T;N;L;G;K;H;J;Q;X;ZH;CH;SH;R;Z;C;S;A;O;E;EH;AI;EI;AU;OU;AN;EN",
  "3124;BOPOMOFO LETTER ;ANG;ENG;ER;I;U;IU;V;NG;GN;IH;O WITH DOT ABOVE;NN",
  "3131;HANGUL LETTER ;KIYEOK;SSANGKIYEOK;KIYEOK-SIOS;NIEUN;NIEUN-CIEUC;NIEUN-HIEUH;TIKEUT",
  "3138;HANGUL LETTER ;SSANGTIKEUT;RIEUL;RIEUL-KIYEOK;RIEUL-MIEUM;RIEUL-PIEUP;RIEUL-SIOS",
  "313e;HANGUL LETTER ;RIEUL-THIEUTH;RIEUL-PHIEUPH;RIEUL-HIEUH;MIEUM;PIEUP;SSANGPIEUP;PIEUP-SIOS",
  "3145;HANGUL LETTER ;SIOS;SSANGSIOS;IEUNG;CIEUC;SSANGCIEUC;CHIEUCH;KHIEUKH;THIEUTH;PHIEUPH",
  "314e;HANGUL LETTER ;HIEUH;A;AE;YA;YAE;EO;E;YEO;YE;O;WA;WAE;OE;YO;U;WEO;WE;WI;YU;EU;YI;I",
  "3164;HANGUL ;FILLER;LETTER SSANGNIEUN;LETTER NIEUN-TIKEUT;LETTER NIEUN-SIOS",
  "3168;HANGUL LETTER ;NIEUN-PANSIOS;RIEUL-KIYEOK-SIOS;RIEUL-TIKEUT;RIEUL-PIEUP-SIOS",
  "316c;HANGUL LETTER ;RIEUL-PANSIOS;RIEUL-YEORINHIEUH;MIEUM-PIEUP;MIEUM-SIOS;MIEUM-PANSIOS",
  "3171;HANGUL LETTER ;KAPYEOUNMIEUM;PIEUP-KIYEOK;PIEUP-TIKEUT;PIEUP-SIOS-KIYEOK",
  "3175;HANGUL LETTER ;PIEUP-SIOS-TIKEUT;PIEUP-CIEUC;PIEUP-THIEUTH;KAPYEOUNPIEUP",
  "3179;HANGUL LETTER ;KAPYEOUNSSANGPIEUP;SIOS-KIYEOK;SIOS-NIEUN;SIOS-TIKEUT;SIOS-PIEUP",
  "317e;HANGUL LETTER ;SIOS-CIEUC;PANSIOS;SSANGIEUNG;YESIEUNG;YESIEUNG-SIOS;YESIEUNG-PANSIOS",
  "3184;HANGUL LETTER ;KAPYEOUNPHIEUPH;SSANGHIEUH;YEORINHIEUH;YO-YA;YO-YAE;YO-I;YU-YEO;YU-YE;YU-I",
  "318d;HANGUL LETTER ;ARAEA;ARAEAE",
  "3190;IDEOGRAPHIC ANNOTATION ;LINKING MARK;REVERSE MARK;ONE MARK;TWO MARK;THREE MARK;FOUR MARK",
  "3196;IDEOGRAPHIC ANNOTATION ;TOP MARK;MIDDLE MARK;BOTTOM MARK;FIRST MARK;SECOND MARK",
  "319b;IDEOGRAPHIC ANNOTATION ;THIRD MARK;FOURTH MARK;HEAVEN MARK;EARTH MARK;MAN MARK",
  "31a0;BOPOMOFO LETTER ;BU;ZI;JI;GU;EE;ENN;OO;ONN;IR;ANN;INN;UNN;IM;NGG;AINN;AUNN;AM;OM;ONG;INNN",
  "31b4;BOPOMOFO ;FINAL LETTER P;FINAL LETTER T;FINAL LETTER K;FINAL LETTER H;LETTER GH;LETTER LH",
  "31ba;BOPOMOFO ;LETTER ZY;FINAL LETTER G;LETTER GW;LETTER KW;LETTER OE;LETTER AH",
  "31c0;CJK STROKE ;T;WG;XG;BXG;SW;HZZ;HZG;HP;HZWG;SZWG;HZT;HZZP;HPWG;HZW;HZZZ;N;H;S;P;SP;D;HZ;HG",
  "31d7;CJK STROKE ;SZ;SWZ;ST;SG;PD;PZ;TN;SZZ;SWG;HXWG;HZZZG;PG;Q",
  "31f0;KATAKANA LETTER SMALL ;KU;SI;SU;TO;NU;HA;HI;HU;HE;HO;MU;RA;RI;RU;RE;RO",
  "3200;PARENTHESIZED HANGUL ;KIYEOK;NIEUN;TIKEUT;RIEUL;MIEUM;PIEUP;SIOS;IEUNG;CIEUC;CHIEUCH",
  "320a;PARENTHESIZED HANGUL ;KHIEUKH;THIEUTH;PHIEUPH;HIEUH;KIYEOK A;NIEUN A;TIKEUT A;RIEUL A",
  "3212;PARENTHESIZED HANGUL ;MIEUM A;PIEUP A;SIOS A;IEUNG A;CIEUC A;CHIEUCH A;KHIEUKH A",
  "3219;PARENTHESIZED HANGUL ;THIEUTH A;PHIEUPH A;HIEUH A;CIEUC U",
  "321d;PARENTHESIZED KOREAN CHARACTER ;OJEON;O HU",
  "3220;PARENTHESIZED IDEOGRAPH ;ONE;TWO;THREE;FOUR;FIVE;SIX;SEVEN;EIGHT;NINE;TEN;MOON;FIRE;WATER",
  "322d;PARENTHESIZED IDEOGRAPH ;WOOD;METAL;EARTH;SUN;STOCK;HAVE;SOCIETY;NAME;SPECIAL;FINANCIAL",
  "3237;PARENTHESIZED IDEOGRAPH ;CONGRATULATION;LABOR;REPRESENT;CALL;STUDY;SUPERVISE;ENTERPRISE",
  "323e;PARENTHESIZED IDEOGRAPH ;RESOURCE;ALLIANCE;FESTIVAL;REST;SELF;REACH",
  "3244;CIRCLED IDEOGRAPH ;QUESTION;KINDERGARTEN;SCHOOL;KOTO",
  "3248;CIRCLED NUMBER ;TEN ON BLACK SQUARE;TWENTY ON BLACK SQUARE;THIRTY ON BLACK SQUARE",
  "324b;CIRCLED NUMBER ;FORTY ON BLACK SQUARE;FIFTY ON BLACK SQUARE;SIXTY ON BLACK SQUARE",
  "324e;CIRCLED NUMBER ;SEVENTY ON BLACK SQUARE;EIGHTY ON BLACK SQUARE",
  "3250;;PARTNERSHIP SIGN;CIRCLED NUMBER TWENTY ONE;CIRCLED NUMBER TWENTY TWO",
  "3253;CIRCLED NUMBER TWENTY ;THREE;FOUR;FIVE;SIX;SEVEN;EIGHT;NINE",
  "325a;CIRCLED NUMBER ;THIRTY;THIRTY ONE;THIRTY TWO;THIRTY THREE;THIRTY FOUR;THIRTY FIVE",
  "3260;CIRCLED HANGUL ;KIYEOK;NIEUN;TIKEUT;RIEUL;MIEUM;PIEUP;SIOS;IEUNG;CIEUC;CHIEUCH;KHIEUKH",
  "326b;CIRCLED HANGUL ;THIEUTH;PHIEUPH;HIEUH;KIYEOK A;NIEUN A;TIKEUT A;RIEUL A;MIEUM A;PIEUP A",
  "3274;CIRCLED HANGUL ;SIOS A;IEUNG A;CIEUC A;CHIEUCH A;KHIEUKH A;THIEUTH A;PHIEUPH A;HIEUH A",
  "327c;CIRCLED ;KOREAN CHARACTER CHAMKO;KOREAN CHARACTER JUEUI;HANGUL IEUNG U",
  "327f;;KOREAN STANDARD SYMBOL;CIRCLED IDEOGRAPH ONE;CIRCLED IDEOGRAPH TWO",
  "3282;CIRCLED IDEOGRAPH ;THREE;FOUR;FIVE;SIX;SEVEN;EIGHT;NINE;TEN;MOON;FIRE;WATER;WOOD;METAL",
  "328f;CIRCLED IDEOGRAPH ;EARTH;SUN;STOCK;HAVE;SOCIETY;NAME;SPECIAL;FINANCIAL;CONGRATULATION",
  "3298;CIRCLED IDEOGRAPH ;LABOR;SECRET;MALE;FEMALE;SUITABLE;EXCELLENT;PRINT;ATTENTION;ITEM;REST",
  "32a2;CIRCLED IDEOGRAPH ;COPY;CORRECT;HIGH;CENTRE;LOW;LEFT;RIGHT;MEDICINE;RELIGION;STUDY",
  "32ac;CIRCLED IDEOGRAPH ;SUPERVISE;ENTERPRISE;RESOURCE;ALLIANCE;NIGHT",
  "32b1;CIRCLED NUMBER ;THIRTY SIX;THIRTY SEVEN;THIRTY EIGHT;THIRTY NINE;FORTY;FORTY ONE",
  "32b7;CIRCLED NUMBER FORTY ;TWO;THREE;FOUR;FIVE;SIX;SEVEN;EIGHT;NINE",
  "32bf;;CIRCLED NUMBER FIFTY;IDEOGRAPHIC TELEGRAPH SYMBOL FOR JANUARY",
  "32c1;IDEOGRAPHIC TELEGRAPH SYMBOL FOR ;FEBRUARY;MARCH;APRIL;MAY;JUNE;JULY;AUGUST;SEPTEMBER",
  "32c9;IDEOGRAPHIC TELEGRAPH SYMBOL FOR ;OCTOBER;NOVEMBER;DECEMBER",
  "32cc;;SQUARE HG;SQUARE ERG;SQUARE EV;LIMITED LIABILITY SIGN;CIRCLED KATAKANA A",
  "32d1;CIRCLED KATAKANA ;I;U;E;O;KA;KI;KU;KE;KO;SA;SI;SU;SE;SO;TA;TI;TU;TE;TO;NA;NI;NU;NE;NO;HA",
  "32ea;CIRCLED KATAKANA ;HI;HU;HE;HO;MA;MI;MU;ME;MO;YA;YU;YO;RA;RI;RU;RE;RO;WA;WI;WE;WO",
  "32ff;SQUARE ;ERA NAME REIWA;APAATO;ARUHUA;ANPEA;AARU;ININGU;INTI;UON;ESUKUUDO;EEKAA;ONSU;OOMU",
  "330b;SQUARE ;KAIRI;KARATTO;KARORII;GARON;GANMA;GIGA;GINII;KYURII;GIRUDAA;KIRO;KIROGURAMU",
  "3316;SQUARE ;KIROMEETORU;KIROWATTO;GURAMU;GURAMUTON;KURUZEIRO;KUROONE;KEESU;KORUNA;KOOPO",
  "331f;SQUARE ;SAIKURU;SANTIIMU;SIRINGU;SENTI;SENTO;DAASU;DESI;DORU;TON;NANO;NOTTO;HAITU",
  "332b;SQUARE ;PAASENTO;PAATU;BAARERU;PIASUTORU;PIKURU;PIKO;BIRU;HUARADDO;HUIITO;BUSSYERU;HURAN",
  "3336;SQUARE ;HEKUTAARU;PESO;PENIHI;HERUTU;PENSU;PEEZI;BEETA;POINTO;BORUTO;HON;PONDO;HOORU;HOON",
  "3343;SQUARE ;MAIKURO;MAIRU;MAHHA;MARUKU;MANSYON;MIKURON;MIRI;MIRIBAARU;MEGA;MEGATON;MEETORU",
  "334e;SQUARE ;YAADO;YAARU;YUAN;RITTORU;RIRA;RUPII;RUUBURU;REMU;RENTOGEN;WATTO",
  "3358;IDEOGRAPHIC TELEGRAPH SYMBOL FOR HOUR ;ZERO;ONE;TWO;THREE;FOUR;FIVE;SIX;SEVEN;EIGHT;NINE",
  "3362;IDEOGRAPHIC TELEGRAPH SYMBOL FOR HOUR ;TEN;ELEVEN;TWELVE;THIRTEEN;FOURTEEN;FIFTEEN",
  "3368;IDEOGRAPHIC TELEGRAPH SYMBOL FOR HOUR ;SIXTEEN;SEVENTEEN;EIGHTEEN;NINETEEN;TWENTY",
  "336d;IDEOGRAPHIC TELEGRAPH SYMBOL FOR HOUR TWENTY-;ONE;TWO;THREE;FOUR",
  "3371;SQUARE ;HPA;DA;AU;BAR;OV;PC;DM;DM SQUARED;DM CUBED;IU;ERA NAME HEISEI;ERA NAME SYOUWA",
  "337d;SQUARE ;ERA NAME TAISYOU;ERA NAME MEIZI;CORPORATION;PA AMPS;NA;MU A;MA;KA;KB;MB;GB;CAL",
  "3389;SQUARE ;KCAL;PF;NF;MU F;MU G;MG;KG;HZ;KHZ;MHZ;GHZ;THZ;MU L;ML;DL;KL;FM;NM;MU M;MM;CM;KM",
  "339f;SQUARE ;MM SQUARED;CM SQUARED;M SQUARED;KM SQUARED;MM CUBED;CM CUBED;M CUBED;KM CUBED",
  "33a7;SQUARE ;M OVER S;M OVER S SQUARED;PA;KPA;MPA;GPA;RAD;RAD OVER S;RAD OVER S SQUARED;PS;NS",
  "33b2;SQUARE ;MU S;MS;PV;NV;MU V;MV;KV;MV MEGA;PW;NW;MU W;MW;KW;MW MEGA;K OHM;M OHM;AM;BQ;CC;CD",
  "33c6;SQUARE ;C OVER KG;CO;DB;GY;HA;HP;IN;KK;KM CAPITAL;KT;LM;LN;LOG;LX;MB SMALL;MIL;MOL;PH;PM",
  "33d9;SQUARE ;PPM;PR;SR;SV;WB;V OVER M;A OVER M",
  "33e0;IDEOGRAPHIC TELEGRAPH SYMBOL FOR DAY ;ONE;TWO;THREE;FOUR;FIVE;SIX;SEVEN;EIGHT;NINE;TEN",
  "33ea;IDEOGRAPHIC TELEGRAPH SYMBOL FOR DAY ;ELEVEN;TWELVE;THIRTEEN;FOURTEEN;FIFTEEN;SIXTEEN",
  "33f0;IDEOGRAPHIC TELEGRAPH SYMBOL FOR DAY ;SEVENTEEN;EIGHTEEN;NINETEEN;TWENTY;TWENTY-ONE",
  "33f5;IDEOGRAPHIC TELEGRAPH SYMBOL FOR DAY TWENTY-;TWO;THREE;FOUR;FIVE;SIX;SEVEN;EIGHT;NINE",
  "33fd;IDEOGRAPHIC TELEGRAPH SYMBOL FOR DAY ;THIRTY;THIRTY-ONE",
  "33ff;;SQUARE GAL",
  "4dc0;HEXAGRAM FOR ;THE CREATIVE HEAVEN;THE RECEPTIVE EARTH;DIFFICULTY AT THE BEGINNING",
  "4dc3;HEXAGRAM FOR ;YOUTHFUL FOLLY;WAITING;CONFLICT;THE ARMY;HOLDING TOGETHER;SMALL TAMING",
  "4dc9;HEXAGRAM FOR ;TREADING;PEACE;STANDSTILL;FELLOWSHIP;GREAT POSSESSION;MODESTY;ENTHUSIASM",
  "4dd0;HEXAGRAM FOR ;FOLLOWING;WORK ON THE DECAYED;APPROACH;CONTEMPLATION;BITING THROUGH;GRACE",
  "4dd6;HEXAGRAM FOR ;SPLITTING APART;RETURN;INNOCENCE;GREAT TAMING;MOUTH CORNERS",
  "4ddb;HEXAGRAM FOR ;GREAT PREPONDERANCE;THE ABYSMAL WATER;THE CLINGING FIRE;INFLUENCE;DURATION",
  "4de0;HEXAGRAM FOR ;RETREAT;GREAT POWER;PROGRESS;DARKENING OF THE LIGHT;THE FAMILY;OPPOSITION",
  "4de6;HEXAGRAM FOR ;OBSTRUCTION;DELIVERANCE;DECREASE;INCREASE;BREAKTHROUGH;COMING TO MEET",
  "4dec;HEXAGRAM FOR ;GATHERING TOGETHER;PUSHING UPWARD;OPPRESSION;THE WELL;REVOLUTION",
  "4df1;HEXAGRAM FOR ;THE CAULDRON;THE AROUSING THUNDER;THE KEEPING STILL MOUNTAIN;DEVELOPMENT",
  "4df5;HEXAGRAM FOR ;THE MARRYING MAIDEN;ABUNDANCE;THE WANDERER;THE GENTLE WIND;THE JOYOUS LAKE",
  "4dfa;HEXAGRAM FOR ;DISPERSION;LIMITATION;INNER TRUTH;SMALL PREPONDERANCE;AFTER COMPLETION",
  "4dff;;HEXAGRAM FOR BEFORE COMPLETION",
  "a000;YI SYLLABLE ;IT;IX;I;IP;IET;IEX;IE;IEP;AT;AX;A;AP;UOX;UO;UOP;OT;OX;O;OP;EX;E;WU;BIT;BIX",
  "a018;YI SYLLABLE ;BI;BIP;BIET;BIEX;BIE;BIEP;BAT;BAX;BA;BAP;BUOX;BUO;BUOP;BOT;BOX;BO;BOP;BEX;BE",
  "a02b;YI SYLLABLE ;BEP;BUT;BUX;BU;BUP;BURX;BUR;BYT;BYX;BY;BYP;BYRX;BYR;PIT;PIX;PI;PIP;PIEX;PIE",
  "a03e;YI SYLLABLE ;PIEP;PAT;PAX;PA;PAP;PUOX;PUO;PUOP;POT;POX;PO;POP;PUT;PUX;PU;PUP;PURX;PUR;PYT",
  "a051;YI SYLLABLE ;PYX;PY;PYP;PYRX;PYR;BBIT;BBIX;BBI;BBIP;BBIET;BBIEX;BBIE;BBIEP;BBAT;BBAX;BBA",
  "a061;YI SYLLABLE ;BBAP;BBUOX;BBUO;BBUOP;BBOT;BBOX;BBO;BBOP;BBEX;BBE;BBEP;BBUT;BBUX;BBU;BBUP",
  "a070;YI SYLLABLE ;BBURX;BBUR;BBYT;BBYX;BBY;BBYP;NBIT;NBIX;NBI;NBIP;NBIEX;NBIE;NBIEP;NBAT;NBAX",
  "a07f;YI SYLLABLE ;NBA;NBAP;NBOT;NBOX;NBO;NBOP;NBUT;NBUX;NBU;NBUP;NBURX;NBUR;NBYT;NBYX;NBY;NBYP",
  "a08f;YI SYLLABLE ;NBYRX;NBYR;HMIT;HMIX;HMI;HMIP;HMIEX;HMIE;HMIEP;HMAT;HMAX;HMA;HMAP;HMUOX;HMUO",
  "a09e;YI SYLLABLE ;HMUOP;HMOT;HMOX;HMO;HMOP;HMUT;HMUX;HMU;HMUP;HMURX;HMUR;HMYX;HMY;HMYP;HMYRX",
  "a0ad;YI SYLLABLE ;HMYR;MIT;MIX;MI;MIP;MIEX;MIE;MIEP;MAT;MAX;MA;MAP;MUOT;MUOX;MUO;MUOP;MOT;MOX",
  "a0bf;YI SYLLABLE ;MO;MOP;MEX;ME;MUT;MUX;MU;MUP;MURX;MUR;MYT;MYX;MY;MYP;FIT;FIX;FI;FIP;FAT;FAX",
  "a0d3;YI SYLLABLE ;FA;FAP;FOX;FO;FOP;FUT;FUX;FU;FUP;FURX;FUR;FYT;FYX;FY;FYP;VIT;VIX;VI;VIP;VIET",
  "a0e7;YI SYLLABLE ;VIEX;VIE;VIEP;VAT;VAX;VA;VAP;VOT;VOX;VO;VOP;VEX;VEP;VUT;VUX;VU;VUP;VURX;VUR",
  "a0fa;YI SYLLABLE ;VYT;VYX;VY;VYP;VYRX;VYR;DIT;DIX;DI;DIP;DIEX;DIE;DIEP;DAT;DAX;DA;DAP;DUOX;DUO",
  "a10d;YI SYLLABLE ;DOT;DOX;DO;DOP;DEX;DE;DEP;DUT;DUX;DU;DUP;DURX;DUR;TIT;TIX;TI;TIP;TIEX;TIE",
  "a120;YI SYLLABLE ;TIEP;TAT;TAX;TA;TAP;TUOT;TUOX;TUO;TUOP;TOT;TOX;TO;TOP;TEX;TE;TEP;TUT;TUX;TU",
  "a133;YI SYLLABLE ;TUP;TURX;TUR;DDIT;DDIX;DDI;DDIP;DDIEX;DDIE;DDIEP;DDAT;DDAX;DDA;DDAP;DDUOX",
  "a142;YI SYLLABLE ;DDUO;DDUOP;DDOT;DDOX;DDO;DDOP;DDEX;DDE;DDEP;DDUT;DDUX;DDU;DDUP;DDURX;DDUR",
  "a151;YI SYLLABLE ;NDIT;NDIX;NDI;NDIP;NDIEX;NDIE;NDAT;NDAX;NDA;NDAP;NDOT;NDOX;NDO;NDOP;NDEX;NDE",
  "a161;YI SYLLABLE ;NDEP;NDUT;NDUX;NDU;NDUP;NDURX;NDUR;HNIT;HNIX;HNI;HNIP;HNIET;HNIEX;HNIE;HNIEP",
  "a170;YI SYLLABLE ;HNAT;HNAX;HNA;HNAP;HNUOX;HNUO;HNOT;HNOX;HNOP;HNEX;HNE;HNEP;HNUT;NIT;NIX;NI",
  "a180;YI SYLLABLE ;NIP;NIEX;NIE;NIEP;NAX;NA;NAP;NUOX;NUO;NUOP;NOT;NOX;NO;NOP;NEX;NE;NEP;NUT;NUX",
  "a193;YI SYLLABLE ;NU;NUP;NURX;NUR;HLIT;HLIX;HLI;HLIP;HLIEX;HLIE;HLIEP;HLAT;HLAX;HLA;HLAP;HLUOX",
  "a1a3;YI SYLLABLE ;HLUO;HLUOP;HLOX;HLO;HLOP;HLEX;HLE;HLEP;HLUT;HLUX;HLU;HLUP;HLURX;HLUR;HLYT",
  "a1b2;YI SYLLABLE ;HLYX;HLY;HLYP;HLYRX;HLYR;LIT;LIX;LI;LIP;LIET;LIEX;LIE;LIEP;LAT;LAX;LA;LAP",
  "a1c3;YI SYLLABLE ;LUOT;LUOX;LUO;LUOP;LOT;LOX;LO;LOP;LEX;LE;LEP;LUT;LUX;LU;LUP;LURX;LUR;LYT;LYX",
  "a1d6;YI SYLLABLE ;LY;LYP;LYRX;LYR;GIT;GIX;GI;GIP;GIET;GIEX;GIE;GIEP;GAT;GAX;GA;GAP;GUOT;GUOX",
  "a1e8;YI SYLLABLE ;GUO;GUOP;GOT;GOX;GO;GOP;GET;GEX;GE;GEP;GUT;GUX;GU;GUP;GURX;GUR;KIT;KIX;KI",
  "a1fb;YI SYLLABLE ;KIP;KIEX;KIE;KIEP;KAT;KAX;KA;KAP;KUOX;KUO;KUOP;KOT;KOX;KO;KOP;KET;KEX;KE;KEP",
  "a20e;YI SYLLABLE ;KUT;KUX;KU;KUP;KURX;KUR;GGIT;GGIX;GGI;GGIEX;GGIE;GGIEP;GGAT;GGAX;GGA;GGAP",
  "a21e;YI SYLLABLE ;GGUOT;GGUOX;GGUO;GGUOP;GGOT;GGOX;GGO;GGOP;GGET;GGEX;GGE;GGEP;GGUT;GGUX;GGU",
  "a22d;YI SYLLABLE ;GGUP;GGURX;GGUR;MGIEX;MGIE;MGAT;MGAX;MGA;MGAP;MGUOX;MGUO;MGUOP;MGOT;MGOX;MGO",
  "a23c;YI SYLLABLE ;MGOP;MGEX;MGE;MGEP;MGUT;MGUX;MGU;MGUP;MGURX;MGUR;HXIT;HXIX;HXI;HXIP;HXIET",
  "a24b;YI SYLLABLE ;HXIEX;HXIE;HXIEP;HXAT;HXAX;HXA;HXAP;HXUOT;HXUOX;HXUO;HXUOP;HXOT;HXOX;HXO",
  "a259;YI SYLLABLE ;HXOP;HXEX;HXE;HXEP;NGIEX;NGIE;NGIEP;NGAT;NGAX;NGA;NGAP;NGUOT;NGUOX;NGUO;NGOT",
  "a268;YI SYLLABLE ;NGOX;NGO;NGOP;NGEX;NGE;NGEP;HIT;HIEX;HIE;HAT;HAX;HA;HAP;HUOT;HUOX;HUO;HUOP",
  "a279;YI SYLLABLE ;HOT;HOX;HO;HOP;HEX;HE;HEP;WAT;WAX;WA;WAP;WUOX;WUO;WUOP;WOX;WO;WOP;WEX;WE;WEP",
  "a28d;YI SYLLABLE ;ZIT;ZIX;ZI;ZIP;ZIEX;ZIE;ZIEP;ZAT;ZAX;ZA;ZAP;ZUOX;ZUO;ZUOP;ZOT;ZOX;ZO;ZOP;ZEX",
  "a2a0;YI SYLLABLE ;ZE;ZEP;ZUT;ZUX;ZU;ZUP;ZURX;ZUR;ZYT;ZYX;ZY;ZYP;ZYRX;ZYR;CIT;CIX;CI;CIP;CIET",
  "a2b3;YI SYLLABLE ;CIEX;CIE;CIEP;CAT;CAX;CA;CAP;CUOX;CUO;CUOP;COT;COX;CO;COP;CEX;CE;CEP;CUT;CUX",
  "a2c6;YI SYLLABLE ;CU;CUP;CURX;CUR;CYT;CYX;CY;CYP;CYRX;CYR;ZZIT;ZZIX;ZZI;ZZIP;ZZIET;ZZIEX;ZZIE",
  "a2d7;YI SYLLABLE ;ZZIEP;ZZAT;ZZAX;ZZA;ZZAP;ZZOX;ZZO;ZZOP;ZZEX;ZZE;ZZEP;ZZUX;ZZU;ZZUP;ZZURX",
  "a2e6;YI SYLLABLE ;ZZUR;ZZYT;ZZYX;ZZY;ZZYP;ZZYRX;ZZYR;NZIT;NZIX;NZI;NZIP;NZIEX;NZIE;NZIEP;NZAT",
  "a2f5;YI SYLLABLE ;NZAX;NZA;NZAP;NZUOX;NZUO;NZOX;NZOP;NZEX;NZE;NZUX;NZU;NZUP;NZURX;NZUR;NZYT",
  "a304;YI SYLLABLE ;NZYX;NZY;NZYP;NZYRX;NZYR;SIT;SIX;SI;SIP;SIEX;SIE;SIEP;SAT;SAX;SA;SAP;SUOX",
  "a315;YI SYLLABLE ;SUO;SUOP;SOT;SOX;SO;SOP;SEX;SE;SEP;SUT;SUX;SU;SUP;SURX;SUR;SYT;SYX;SY;SYP",
  "a328;YI SYLLABLE ;SYRX;SYR;SSIT;SSIX;SSI;SSIP;SSIEX;SSIE;SSIEP;SSAT;SSAX;SSA;SSAP;SSOT;SSOX",
  "a337;YI SYLLABLE ;SSO;SSOP;SSEX;SSE;SSEP;SSUT;SSUX;SSU;SSUP;SSYT;SSYX;SSY;SSYP;SSYRX;SSYR;ZHAT",
  "a347;YI SYLLABLE ;ZHAX;ZHA;ZHAP;ZHUOX;ZHUO;ZHUOP;ZHOT;ZHOX;ZHO;ZHOP;ZHET;ZHEX;ZHE;ZHEP;ZHUT",
  "a356;YI SYLLABLE ;ZHUX;ZHU;ZHUP;ZHURX;ZHUR;ZHYT;ZHYX;ZHY;ZHYP;ZHYRX;ZHYR;CHAT;CHAX;CHA;CHAP",
  "a365;YI SYLLABLE ;CHUOT;CHUOX;CHUO;CHUOP;CHOT;CHOX;CHO;CHOP;CHET;CHEX;CHE;CHEP;CHUX;CHU;CHUP",
  "a374;YI SYLLABLE ;CHURX;CHUR;CHYT;CHYX;CHY;CHYP;CHYRX;CHYR;RRAX;RRA;RRUOX;RRUO;RROT;RROX;RRO",
  "a383;YI SYLLABLE ;RROP;RRET;RREX;RRE;RREP;RRUT;RRUX;RRU;RRUP;RRURX;RRUR;RRYT;RRYX;RRY;RRYP",
  "a392;YI SYLLABLE ;RRYRX;RRYR;NRAT;NRAX;NRA;NRAP;NROX;NRO;NROP;NRET;NREX;NRE;NREP;NRUT;NRUX;NRU",
  "a3a2;YI SYLLABLE ;NRUP;NRURX;NRUR;NRYT;NRYX;NRY;NRYP;NRYRX;NRYR;SHAT;SHAX;SHA;SHAP;SHUOX;SHUO",
  "a3b1;YI SYLLABLE ;SHUOP;SHOT;SHOX;SHO;SHOP;SHET;SHEX;SHE;SHEP;SHUT;SHUX;SHU;SHUP;SHURX;SHUR",
  "a3c0;YI SYLLABLE ;SHYT;SHYX;SHY;SHYP;SHYRX;SHYR;RAT;RAX;RA;RAP;RUOX;RUO;RUOP;ROT;ROX;RO;ROP",
  "a3d1;YI SYLLABLE ;REX;RE;REP;RUT;RUX;RU;RUP;RURX;RUR;RYT;RYX;RY;RYP;RYRX;RYR;JIT;JIX;JI;JIP",
  "a3e4;YI SYLLABLE ;JIET;JIEX;JIE;JIEP;JUOT;JUOX;JUO;JUOP;JOT;JOX;JO;JOP;JUT;JUX;JU;JUP;JURX;JUR",
  "a3f6;YI SYLLABLE ;JYT;JYX;JY;JYP;JYRX;JYR;QIT;QIX;QI;QIP;QIET;QIEX;QIE;QIEP;QUOT;QUOX;QUO;QUOP",
  "a408;YI SYLLABLE ;QOT;QOX;QO;QOP;QUT;QUX;QU;QUP;QURX;QUR;QYT;QYX;QY;QYP;QYRX;QYR;JJIT;JJIX;JJI",
  "a41b;YI SYLLABLE ;JJIP;JJIET;JJIEX;JJIE;JJIEP;JJUOX;JJUO;JJUOP;JJOT;JJOX;JJO;JJOP;JJUT;JJUX",
  "a429;YI SYLLABLE ;JJU;JJUP;JJURX;JJUR;JJYT;JJYX;JJY;JJYP;NJIT;NJIX;NJI;NJIP;NJIET;NJIEX;NJIE",
  "a438;YI SYLLABLE ;NJIEP;NJUOX;NJUO;NJOT;NJOX;NJO;NJOP;NJUX;NJU;NJUP;NJURX;NJUR;NJYT;NJYX;NJY",
  "a447;YI SYLLABLE ;NJYP;NJYRX;NJYR;NYIT;NYIX;NYI;NYIP;NYIET;NYIEX;NYIE;NYIEP;NYUOX;NYUO;NYUOP",
  "a455;YI SYLLABLE ;NYOT;NYOX;NYO;NYOP;NYUT;NYUX;NYU;NYUP;XIT;XIX;XI;XIP;XIET;XIEX;XIE;XIEP;XUOX",
  "a466;YI SYLLABLE ;XUO;XOT;XOX;XO;XOP;XYT;XYX;XY;XYP;XYRX;XYR;YIT;YIX;YI;YIP;YIET;YIEX;YIE;YIEP",
  "a479;YI SYLLABLE ;YUOT;YUOX;YUO;YUOP;YOT;YOX;YO;YOP;YUT;YUX;YU;YUP;YURX;YUR;YYT;YYX;YY;YYP",
  "a48b;YI SYLLABLE ;YYRX;YYR",
  "a490;YI RADICAL ;QOT;LI;KIT;NYIP;CYP;SSI;GGOP;GEP;MI;HXIT;LYR;BBUT;MOP;YO;PUT;HXUO;TAT;GA;ZUP",
  "a4a3;YI RADICAL ;CYT;DDUR;BUR;GGUO;NYOP;TU;OP;JJUT;ZOT;PYT;HMO;YIT;VUR;SHY;VEP;ZA;JO;NZUP;JJY",
  "a4b6;YI RADICAL ;GOT;JJIE;WO;DU;SHUR;LIE;CY;CUOP;CIP;HXOP;SHAT;ZUR;SHOP;CHE;ZZIET;NBIE;KE",
  "a4d0;LISU LETTER ;BA;PA;PHA;DA;TA;THA;GA;KA;KHA;JA;CA;CHA;DZA;TSA;TSHA;MA;NA;LA;SA;ZHA;ZA;NGA",
  "a4e6;LISU LETTER ;HA;XA;HHA;FA;WA;SHA;YA;GHA;A;AE;E;EU;I;O;U;UE;UH;OE;TONE MYA TI;TONE NA PO",
  "a4fa;LISU LETTER TONE MYA ;CYA;BO;NA;JEU",
  "a4fe;;LISU PUNCTUATION COMMA;LISU PUNCTUATION FULL STOP;VAI SYLLABLE EE;VAI SYLLABLE EEN",
  "a502;VAI SYLLABLE ;HEE;WEE;WEEN;PEE;BHEE;BEE;MBEE;KPEE;MGBEE;GBEE;FEE;VEE;TEE;THEE;DHEE;DHHEE",
  "a512;VAI SYLLABLE ;LEE;REE;DEE;NDEE;SEE;SHEE;ZEE;ZHEE;CEE;JEE;NJEE;YEE;KEE;NGGEE;GEE;MEE;NEE",
  "a523;VAI SYLLABLE ;NYEE;I;IN;HI;HIN;WI;WIN;PI;BHI;BI;MBI;KPI;MGBI;GBI;FI;VI;TI;THI;DHI;DHHI;LI",
  "a538;VAI SYLLABLE ;RI;DI;NDI;SI;SHI;ZI;ZHI;CI;JI;NJI;YI;KI;NGGI;GI;MI;NI;NYI;A;AN;NGAN;HA;HAN",
  "a54e;VAI SYLLABLE ;WA;WAN;PA;BHA;BA;MBA;KPA;KPAN;MGBA;GBA;FA;VA;TA;THA;DHA;DHHA;LA;RA;DA;NDA",
  "a562;VAI SYLLABLE ;SA;SHA;ZA;ZHA;CA;JA;NJA;YA;KA;KAN;NGGA;GA;MA;NA;NYA;OO;OON;HOO;WOO;WOON;POO",
  "a577;VAI SYLLABLE ;BHOO;BOO;MBOO;KPOO;MGBOO;GBOO;FOO;VOO;TOO;THOO;DHOO;DHHOO;LOO;ROO;DOO;NDOO",
  "a587;VAI SYLLABLE ;SOO;SHOO;ZOO;ZHOO;COO;JOO;NJOO;YOO;KOO;NGGOO;GOO;MOO;NOO;NYOO;U;UN;HU;HUN",
  "a599;VAI SYLLABLE ;WU;WUN;PU;BHU;BU;MBU;KPU;MGBU;GBU;FU;VU;TU;THU;DHU;DHHU;LU;RU;DU;NDU;SU;SHU",
  "a5ae;VAI SYLLABLE ;ZU;ZHU;CU;JU;NJU;YU;KU;NGGU;GU;MU;NU;NYU;O;ON;NGON;HO;HON;WO;WON;PO;BHO;BO",
  "a5c4;VAI SYLLABLE ;MBO;KPO;MGBO;GBO;GBON;FO;VO;TO;THO;DHO;DHHO;LO;RO;DO;NDO;SO;SHO;ZO;ZHO;CO",
  "a5d8;VAI SYLLABLE ;JO;NJO;YO;KO;NGGO;GO;MO;NO;NYO;E;EN;NGEN;HE;HEN;WE;WEN;PE;BHE;BE;MBE;KPE",
  "a5ed;VAI SYLLABLE ;KPEN;MGBE;GBE;GBEN;FE;VE;TE;THE;DHE;DHHE;LE;RE;DE;NDE;SE;SHE;ZE;ZHE;CE;JE",
  "a601;VAI SYLLABLE ;NJE;YE;KE;NGGE;NGGEN;GE;GEN;ME;NE;NYE;NG;LENGTHENER",
  "a60d;VAI ;COMMA;FULL STOP;QUESTION MARK;SYLLABLE NDOLE FA;SYLLABLE NDOLE KA;SYLLABLE NDOLE SOO",
  "a613;VAI SYMBOL ;FEENG;KEENG;TING;NII;BANG;FAA;TAA;DANG;DOONG;KUNG;TONG;DO-O;JONG",
  "a620;VAI DIGIT ;ZERO;ONE;TWO;THREE;FOUR;FIVE;SIX;SEVEN;EIGHT;NINE",
  "a62a;VAI SYLLABLE NDOLE ;MA;DO",
  "a640;CYRILLIC ;CAPITAL LETTER ZEMLYA;SMALL LETTER ZEMLYA;CAPITAL LETTER DZELO",
  "a643;CYRILLIC ;SMALL LETTER DZELO;CAPITAL LETTER REVERSED DZE;SMALL LETTER REVERSED DZE",
  "a646;CYRILLIC ;CAPITAL LETTER IOTA;SMALL LETTER IOTA;CAPITAL LETTER DJERV;SMALL LETTER DJERV",
  "a64a;CYRILLIC ;CAPITAL LETTER MONOGRAPH UK;SMALL LETTER MONOGRAPH UK",
  "a64c;CYRILLIC ;CAPITAL LETTER BROAD OMEGA;SMALL LETTER BROAD OMEGA;CAPITAL LETTER NEUTRAL YER",
  "a64f;CYRILLIC ;SMALL LETTER NEUTRAL YER;CAPITAL LETTER YERU WITH BACK YER",
  "a651;CYRILLIC ;SMALL LETTER YERU WITH BACK YER;CAPITAL LETTER IOTIFIED YAT",
  "a653;CYRILLIC ;SMALL LETTER IOTIFIED YAT;CAPITAL LETTER REVERSED YU;SMALL LETTER REVERSED YU",
  "a656;CYRILLIC ;CAPITAL LETTER IOTIFIED A;SMALL LETTER IOTIFIED A",
  "a658;CYRILLIC ;CAPITAL LETTER CLOSED LITTLE YUS;SMALL LETTER CLOSED LITTLE YUS",
  "a65a;CYRILLIC ;CAPITAL LETTER BLENDED YUS;SMALL LETTER BLENDED YUS",
  "a65c;;CYRILLIC CAPITAL LETTER IOTIFIED CLOSED LITTLE YUS",
  "a65d;CYRILLIC ;SMALL LETTER IOTIFIED CLOSED LITTLE YUS;CAPITAL LETTER YN;SMALL LETTER YN",
  "a660;CYRILLIC ;CAPITAL LETTER REVERSED TSE;SMALL LETTER REVERSED TSE;CAPITAL LETTER SOFT DE",
  "a663;CYRILLIC ;SMALL LETTER SOFT DE;CAPITAL LETTER SOFT EL;SMALL LETTER SOFT EL",
  "a666;CYRILLIC ;CAPITAL LETTER SOFT EM;SMALL LETTER SOFT EM;CAPITAL LETTER MONOCULAR O",
  "a669;CYRILLIC ;SMALL LETTER MONOCULAR O;CAPITAL LETTER BINOCULAR O;SMALL LETTER BINOCULAR O",
  "a66c;CYRILLIC ;CAPITAL LETTER DOUBLE MONOCULAR O;SMALL LETTER DOUBLE MONOCULAR O",
  "a66e;;CYRILLIC LETTER MULTIOCULAR O;COMBINING CYRILLIC VZMET",
  "a670;COMBINING CYRILLIC ;TEN MILLIONS SIGN;HUNDRED MILLIONS SIGN;THOUSAND MILLIONS SIGN",
  "a673;;SLAVONIC ASTERISK;COMBINING CYRILLIC LETTER UKRAINIAN IE;COMBINING CYRILLIC LETTER I",
  "a676;COMBINING CYRILLIC LETTER ;YI;U;HARD SIGN;YERU;SOFT SIGN;OMEGA",
  "a67c;;COMBINING CYRILLIC KAVYKA;COMBINING CYRILLIC PAYEROK;CYRILLIC KAVYKA;CYRILLIC PAYEROK",
  "a680;CYRILLIC ;CAPITAL LETTER DWE;SMALL LETTER DWE;CAPITAL LETTER DZWE;SMALL LETTER DZWE",
  "a684;CYRILLIC ;CAPITAL LETTER ZHWE;SMALL LETTER ZHWE;CAPITAL LETTER CCHE;SMALL LETTER CCHE",
  "a688;CYRILLIC ;CAPITAL LETTER DZZE;SMALL LETTER DZZE;CAPITAL LETTER TE WITH MIDDLE HOOK",
  "a68b;CYRILLIC ;SMALL LETTER TE WITH MIDDLE HOOK;CAPITAL LETTER TWE;SMALL LETTER TWE",
  "a68e;CYRILLIC ;CAPITAL LETTER TSWE;SMALL LETTER TSWE;CAPITAL LETTER TSSE;SMALL LETTER TSSE",
  "a692;CYRILLIC ;CAPITAL LETTER TCHE;SMALL LETTER TCHE;CAPITAL LETTER HWE;SMALL LETTER HWE",
  "a696;CYRILLIC ;CAPITAL LETTER SHWE;SMALL LETTER SHWE;CAPITAL LETTER DOUBLE O",
  "a699;CYRILLIC ;SMALL LETTER DOUBLE O;CAPITAL LETTER CROSSED O;SMALL LETTER CROSSED O",
  "a69c;MODIFIER LETTER CYRILLIC ;HARD SIGN;SOFT SIGN",
  "a69e;;COMBINING CYRILLIC LETTER EF;COMBINING CYRILLIC LETTER IOTIFIED E;BAMUM LETTER A",
  "a6a1;BAMUM LETTER ;KA;U;KU;EE;REE;TAE;O;NYI;I;LA;PA;RII;RIEE;LEEEE;MEEEE;TAA;NDAA;NJAEM;M;SUU",
  "a6b5;BAMUM LETTER ;MU;SHII;SI;SHEUX;SEUX;KYEE;KET;NUAE;NU;NJUAE;YOQ;SHU;YUQ;YA;NSHA;KEUX;PEUX",
  "a6c6;BAMUM LETTER ;NJEE;NTEE;PUE;WUE;PEE;FEE;RU;LU;MI;NI;REUX;RAE;KEN;NGKWAEN;NGGA;NGA;SHO",
  "a6d7;BAMUM LETTER ;PUAE;FU;FOM;WA;NA;LI;PI;LOQ;KO;MBEN;REN;MEN;MA;TI;KI;MO;MBAA;TET;KPA;TEN",
  "a6eb;BAMUM LETTER ;NTUU;SAMBA;FAAMAE;KOVUU;KOGHOM",
  "a6f0;BAMUM ;COMBINING MARK KOQNDON;COMBINING MARK TUKWENTIS;NJAEMLI;FULL STOP;COLON;COMMA",
  "a6f6;BAMUM ;SEMICOLON;QUESTION MARK",
  "a700;MODIFIER LETTER CHINESE TONE ;YIN PING;YANG PING;YIN SHANG;YANG SHANG;YIN QU;YANG QU",
  "a706;MODIFIER LETTER ;CHINESE TONE YIN RU;CHINESE TONE YANG RU;EXTRA-HIGH DOTTED TONE BAR",
  "a709;MODIFIER LETTER ;HIGH DOTTED TONE BAR;MID DOTTED TONE BAR;LOW DOTTED TONE BAR",
  "a70c;MODIFIER LETTER EXTRA-;LOW DOTTED TONE BAR;HIGH DOTTED LEFT-STEM TONE BAR",
  "a70e;MODIFIER LETTER ;HIGH DOTTED LEFT-STEM TONE BAR;MID DOTTED LEFT-STEM TONE BAR",
  "a710;MODIFIER LETTER ;LOW DOTTED LEFT-STEM TONE BAR;EXTRA-LOW DOTTED LEFT-STEM TONE BAR",
  "a712;MODIFIER LETTER ;EXTRA-HIGH LEFT-STEM TONE BAR;HIGH LEFT-STEM TONE BAR",
  "a714;MODIFIER LETTER ;MID LEFT-STEM TONE BAR;LOW LEFT-STEM TONE BAR",
  "a716;MODIFIER LETTER ;EXTRA-LOW LEFT-STEM TONE BAR;DOT VERTICAL BAR;DOT SLASH",
  "a719;MODIFIER LETTER ;DOT HORIZONTAL BAR;LOWER RIGHT CORNER ANGLE;RAISED UP ARROW",
  "a71c;MODIFIER LETTER RAISED ;DOWN ARROW;EXCLAMATION MARK;INVERTED EXCLAMATION MARK",
  "a71f;MODIFIER LETTER ;LOW INVERTED EXCLAMATION MARK;STRESS AND HIGH TONE;STRESS AND LOW TONE",
  "a722;LATIN ;CAPITAL LETTER EGYPTOLOGICAL ALEF;SMALL LETTER EGYPTOLOGICAL ALEF",
  "a724;LATIN ;CAPITAL LETTER EGYPTOLOGICAL AIN;SMALL LETTER EGYPTOLOGICAL AIN",
  "a726;LATIN ;CAPITAL LETTER HENG;SMALL LETTER HENG;CAPITAL LETTER TZ;SMALL LETTER TZ",
  "a72a;LATIN ;CAPITAL LETTER TRESILLO;SMALL LETTER TRESILLO;CAPITAL LETTER CUATRILLO",
  "a72d;LATIN ;SMALL LETTER CUATRILLO;CAPITAL LETTER CUATRILLO WITH COMMA",
  "a72f;LATIN ;SMALL LETTER CUATRILLO WITH COMMA;LETTER SMALL CAPITAL F;LETTER SMALL CAPITAL S",
  "a732;LATIN ;CAPITAL LETTER AA;SMALL LETTER AA;CAPITAL LETTER AO;SMALL LETTER AO",
  "a736;LATIN ;CAPITAL LETTER AU;SMALL LETTER AU;CAPITAL LETTER AV;SMALL LETTER AV",
  "a73a;LATIN ;CAPITAL LETTER AV WITH HORIZONTAL BAR;SMALL LETTER AV WITH HORIZONTAL BAR",
  "a73c;LATIN ;CAPITAL LETTER AY;SMALL LETTER AY;CAPITAL LETTER REVERSED C WITH DOT",
  "a73f;LATIN ;SMALL LETTER REVERSED C WITH DOT;CAPITAL LETTER K WITH STROKE",
  "a741;LATIN ;SMALL LETTER K WITH STROKE;CAPITAL LETTER K WITH DIAGONAL STROKE",
  "a743;;LATIN SMALL LETTER K WITH DIAGONAL STROKE",
  "a744;;LATIN CAPITAL LETTER K WITH STROKE AND DIAGONAL STROKE",
  "a745;LATIN ;SMALL LETTER K WITH STROKE AND DIAGONAL STROKE;CAPITAL LETTER BROKEN L",
  "a747;LATIN ;SMALL LETTER BROKEN L;CAPITAL LETTER L WITH HIGH STROKE",
  "a749;LATIN ;SMALL LETTER L WITH HIGH STROKE;CAPITAL LETTER O WITH LONG STROKE OVERLAY",
  "a74b;LATIN ;SMALL LETTER O WITH LONG STROKE OVERLAY;CAPITAL LETTER O WITH LOOP",
  "a74d;LATIN ;SMALL LETTER O WITH LOOP;CAPITAL LETTER OO;SMALL LETTER OO",
  "a750;;LATIN CAPITAL LETTER P WITH STROKE THROUGH DESCENDER",
  "a751;LATIN ;SMALL LETTER P WITH STROKE THROUGH DESCENDER;CAPITAL LETTER P WITH FLOURISH",
  "a753;LATIN ;SMALL LETTER P WITH FLOURISH;CAPITAL LETTER P WITH SQUIRREL TAIL",
  "a755;LATIN ;SMALL LETTER P WITH SQUIRREL TAIL;CAPITAL LETTER Q WITH STROKE THROUGH DESCENDER",
  "a757;LATIN ;SMALL LETTER Q WITH STROKE THROUGH DESCENDER;CAPITAL LETTER Q WITH DIAGONAL STROKE",
  "a759;LATIN ;SMALL LETTER Q WITH DIAGONAL STROKE;CAPITAL LETTER R ROTUNDA",
  "a75b;LATIN ;SMALL LETTER R ROTUNDA;CAPITAL LETTER RUM ROTUNDA;SMALL LETTER RUM ROTUNDA",
  "a75e;LATIN ;CAPITAL LETTER V WITH DIAGONAL STROKE;SMALL LETTER V WITH DIAGONAL STROKE",
  "a760;LATIN ;CAPITAL LETTER VY;SMALL LETTER VY;CAPITAL LETTER VISIGOTHIC Z",
  "a763;LATIN ;SMALL LETTER VISIGOTHIC Z;CAPITAL LETTER THORN WITH STROKE",
  "a765;LATIN ;SMALL LETTER THORN WITH STROKE;CAPITAL LETTER THORN WITH STROKE THROUGH DESCENDER",
  "a767;LATIN ;SMALL LETTER THORN WITH STROKE THROUGH DESCENDER;CAPITAL LETTER VEND",
  "a769;LATIN ;SMALL LETTER VEND;CAPITAL LETTER ET;SMALL LETTER ET;CAPITAL LETTER IS",
  "a76d;;LATIN SMALL LETTER IS;LATIN CAPITAL LETTER CON;LATIN SMALL LETTER CON;MODIFIER LETTER US",
  "a771;LATIN SMALL LETTER ;DUM;LUM;MUM;NUM;RUM",
  "a776;LATIN ;LETTER SMALL CAPITAL RUM;SMALL LETTER TUM;SMALL LETTER UM;CAPITAL LETTER INSULAR D",
  "a77a;LATIN ;SMALL LETTER INSULAR D;CAPITAL LETTER INSULAR F;SMALL LETTER INSULAR F",
  "a77d;LATIN CAPITAL LETTER ;INSULAR G;TURNED INSULAR G",
  "a77f;LATIN ;SMALL LETTER TURNED INSULAR G;CAPITAL LETTER TURNED L;SMALL LETTER TURNED L",
  "a782;LATIN ;CAPITAL LETTER INSULAR R;SMALL LETTER INSULAR R;CAPITAL LETTER INSULAR S",
  "a785;LATIN ;SMALL LETTER INSULAR S;CAPITAL LETTER INSULAR T;SMALL LETTER INSULAR T",
  "a788;MODIFIER LETTER ;LOW CIRCUMFLEX ACCENT;COLON;SHORT EQUALS SIGN",
  "a78b;LATIN ;CAPITAL LETTER SALTILLO;SMALL LETTER SALTILLO;CAPITAL LETTER TURNED H",
  "a78e;LATIN ;SMALL LETTER L WITH RETROFLEX HOOK AND BELT;LETTER SINOLOGICAL DOT",
  "a790;LATIN ;CAPITAL LETTER N WITH DESCENDER;SMALL LETTER N WITH DESCENDER",
  "a792;LATIN ;CAPITAL LETTER C WITH BAR;SMALL LETTER C WITH BAR;SMALL LETTER C WITH PALATAL HOOK",
  "a795;LATIN ;SMALL LETTER H WITH PALATAL HOOK;CAPITAL LETTER B WITH FLOURISH",
  "a797;LATIN ;SMALL LETTER B WITH FLOURISH;CAPITAL LETTER F WITH STROKE",
  "a799;LATIN ;SMALL LETTER F WITH STROKE;CAPITAL LETTER VOLAPUK AE;SMALL LETTER VOLAPUK AE",
  "a79c;LATIN ;CAPITAL LETTER VOLAPUK OE;SMALL LETTER VOLAPUK OE;CAPITAL LETTER VOLAPUK UE",
  "a79f;LATIN ;SMALL LETTER VOLAPUK UE;CAPITAL LETTER G WITH OBLIQUE STROKE",
  "a7a1;LATIN ;SMALL LETTER G WITH OBLIQUE STROKE;CAPITAL LETTER K WITH OBLIQUE STROKE",
  "a7a3;LATIN ;SMALL LETTER K WITH OBLIQUE STROKE;CAPITAL LETTER N WITH OBLIQUE STROKE",
  "a7a5;LATIN ;SMALL LETTER N WITH OBLIQUE STROKE;CAPITAL LETTER R WITH OBLIQUE STROKE",
  "a7a7;LATIN ;SMALL LETTER R WITH OBLIQUE STROKE;CAPITAL LETTER S WITH OBLIQUE STROKE",
  "a7a9;LATIN ;SMALL LETTER S WITH OBLIQUE STROKE;CAPITAL LETTER H WITH HOOK",
  "a7ab;LATIN CAPITAL LETTER ;REVERSED OPEN E;SCRIPT G;L WITH BELT;SMALL CAPITAL I",
  "a7af;LATIN ;LETTER SMALL CAPITAL Q;CAPITAL LETTER TURNED K;CAPITAL LETTER TURNED T",
  "a7b2;LATIN CAPITAL LETTER ;J WITH CROSSED-TAIL;CHI;BETA",
  "a7b5;LATIN ;SMALL LETTER BETA;CAPITAL LETTER OMEGA;SMALL LETTER OMEGA",
  "a7b8;LATIN ;CAPITAL LETTER U WITH STROKE;SMALL LETTER U WITH STROKE;CAPITAL LETTER GLOTTAL A",
  "a7bb;LATIN ;SMALL LETTER GLOTTAL A;CAPITAL LETTER GLOTTAL I;SMALL LETTER GLOTTAL I",
  "a7be;LATIN ;CAPITAL LETTER GLOTTAL U;SMALL LETTER GLOTTAL U;CAPITAL LETTER OLD POLISH O",
  "a7c1;LATIN ;SMALL LETTER OLD POLISH O;CAPITAL LETTER ANGLICANA W;SMALL LETTER ANGLICANA W",
  "a7c4;LATIN CAPITAL LETTER ;C WITH PALATAL HOOK;S WITH HOOK;Z WITH PALATAL HOOK",
  "a7c7;;LATIN CAPITAL LETTER D WITH SHORT STROKE OVERLAY",
  "a7c8;;LATIN SMALL LETTER D WITH SHORT STROKE OVERLAY",
  "a7c9;;LATIN CAPITAL LETTER S WITH SHORT STROKE OVERLAY",
  "a7ca;;LATIN SMALL LETTER S WITH SHORT STROKE OVERLAY",
  "a7d0;LATIN ;CAPITAL LETTER CLOSED INSULAR G;SMALL LETTER CLOSED INSULAR G",
  "a7d3;;LATIN SMALL LETTER DOUBLE THORN",
  "a7d5;LATIN ;SMALL LETTER DOUBLE WYNN;CAPITAL LETTER MIDDLE SCOTS S;SMALL LETTER MIDDLE SCOTS S",
  "a7d8;LATIN ;CAPITAL LETTER SIGMOID S;SMALL LETTER SIGMOID S",
  "a7f2;MODIFIER LETTER CAPITAL ;C;F;Q",
  "a7f5;LATIN ;CAPITAL LETTER REVERSED HALF H;SMALL LETTER REVERSED HALF H",
  "a7f7;;LATIN EPIGRAPHIC LETTER SIDEWAYS I;MODIFIER LETTER CAPITAL H WITH STROKE",
  "a7f9;;MODIFIER LETTER SMALL LIGATURE OE;LATIN LETTER SMALL CAPITAL TURNED M",
  "a7fb;LATIN EPIGRAPHIC LETTER ;REVERSED F;REVERSED P;INVERTED M;I LONGA;ARCHAIC M",
  "a800;SYLOTI NAGRI ;LETTER A;LETTER I;SIGN DVISVARA;LETTER U;LETTER E;LETTER O;SIGN HASANTA",
  "a807;SYLOTI NAGRI ;LETTER KO;LETTER KHO;LETTER GO;LETTER GHO;SIGN ANUSVARA;LETTER CO",
  "a80d;SYLOTI NAGRI LETTER ;CHO;JO;JHO;TTO;TTHO;DDO;DDHO;TO;THO;DO;DHO;NO;PO;PHO;BO;BHO;MO;RO;LO",
  "a820;SYLOTI NAGRI ;LETTER RRO;LETTER SO;LETTER HO;VOWEL SIGN A;VOWEL SIGN I;VOWEL SIGN U",
  "a826;SYLOTI NAGRI ;VOWEL SIGN E;VOWEL SIGN OO;POETRY MARK-1;POETRY MARK-2;POETRY MARK-3",
  "a82b;SYLOTI NAGRI ;POETRY MARK-4;SIGN ALTERNATE HASANTA",
  "a830;NORTH INDIC FRACTION ;ONE QUARTER;ONE HALF;THREE QUARTERS;ONE SIXTEENTH;ONE EIGHTH",
  "a835;NORTH INDIC ;FRACTION THREE SIXTEENTHS;QUARTER MARK;PLACEHOLDER MARK;RUPEE MARK",
  "a839;;NORTH INDIC QUANTITY MARK",
  "a840;PHAGS-PA LETTER ;KA;KHA;GA;NGA;CA;CHA;JA;NYA;TA;THA;DA;NA;PA;PHA;BA;MA;TSA;TSHA;DZA;WA",
  "a854;PHAGS-PA LETTER ;ZHA;ZA;SMALL A;YA;RA;LA;SHA;SA;HA;A;I;U;E;O;QA;XA;FA;GGA;EE",
  "a867;PHAGS-PA ;SUBJOINED LETTER WA;SUBJOINED LETTER YA;LETTER TTA;LETTER TTHA;LETTER DDA",
  "a86c;PHAGS-PA LETTER ;NNA;ALTERNATE YA;VOICELESS SHA;VOICED HA;ASPIRATED FA",
  "a871;PHAGS-PA ;SUBJOINED LETTER RA;SUPERFIXED LETTER RA;LETTER CANDRABINDU;SINGLE HEAD MARK",
  "a875;PHAGS-PA ;DOUBLE HEAD MARK;MARK SHAD;MARK DOUBLE SHAD",
  "a880;SAURASHTRA ;SIGN ANUSVARA;SIGN VISARGA;LETTER A;LETTER AA;LETTER I;LETTER II;LETTER U",
  "a887;SAURASHTRA LETTER ;UU;VOCALIC R;VOCALIC RR;VOCALIC L;VOCALIC LL;E;EE;AI;O;OO;AU;KA;KHA;GA",
  "a895;SAURASHTRA LETTER ;GHA;NGA;CA;CHA;JA;JHA;NYA;TTA;TTHA;DDA;DDHA;NNA;TA;THA;DA;DHA;NA;PA",
  "a8a7;SAURASHTRA LETTER ;PHA;BA;BHA;MA;YA;RA;LA;VA;SHA;SSA;SA;HA;LLA",
  "a8b4;SAURASHTRA ;CONSONANT SIGN HAARU;VOWEL SIGN AA;VOWEL SIGN I;VOWEL SIGN II;VOWEL SIGN U",
  "a8b9;SAURASHTRA VOWEL SIGN ;UU;VOCALIC R;VOCALIC RR;VOCALIC L;VOCALIC LL;E;EE;AI;O;OO;AU",
  "a8c4;SAURASHTRA SIGN ;VIRAMA;CANDRABINDU",
  "a8ce;SAURASHTRA ;DANDA;DOUBLE DANDA;DIGIT ZERO;DIGIT ONE;DIGIT TWO;DIGIT THREE;DIGIT FOUR",
  "a8d5;SAURASHTRA DIGIT ;FIVE;SIX;SEVEN;EIGHT;NINE",
  "a8e0;COMBINING DEVANAGARI DIGIT ;ZERO;ONE;TWO;THREE;FOUR;FIVE;SIX;SEVEN;EIGHT;NINE",
  "a8ea;COMBINING DEVANAGARI LETTER ;A;U;KA;NA;PA;RA;VI",
  "a8f1;;COMBINING DEVANAGARI SIGN AVAGRAHA;DEVANAGARI SIGN SPACING CANDRABINDU",
  "a8f3;DEVANAGARI SIGN ;CANDRABINDU VIRAMA;DOUBLE CANDRABINDU VIRAMA;CANDRABINDU TWO",
  "a8f6;DEVANAGARI ;SIGN CANDRABINDU THREE;SIGN CANDRABINDU AVAGRAHA;SIGN PUSHPIKA;GAP FILLER",
  "a8fa;DEVANAGARI ;CARET;HEADSTROKE;SIGN SIDDHAM;JAIN OM;LETTER AY;VOWEL SIGN AY",
  "a900;KAYAH LI DIGIT ;ZERO;ONE;TWO;THREE;FOUR;FIVE;SIX;SEVEN;EIGHT;NINE",
  "a90a;KAYAH LI LETTER ;KA;KHA;GA;NGA;SA;SHA;ZA;NYA;TA;HTA;NA;PA;PHA;MA;DA;BA;RA;YA;LA;WA;THA;HA",
  "a920;KAYAH LI ;LETTER VA;LETTER CA;LETTER A;LETTER OE;LETTER I;LETTER OO;VOWEL UE;VOWEL E",
  "a928;KAYAH LI ;VOWEL U;VOWEL EE;VOWEL O;TONE PLOPHU;TONE CALYA;TONE CALYA PLOPHU;SIGN CWI",
  "a92f;;KAYAH LI SIGN SHYA;REJANG LETTER KA;REJANG LETTER GA;REJANG LETTER NGA;REJANG LETTER TA",
  "a934;REJANG LETTER ;DA;NA;PA;BA;MA;CA;JA;NYA;SA;RA;LA;YA;WA;HA;MBA;NGGA;NDA;NYJA;A",
  "a947;REJANG VOWEL SIGN ;I;U;E;AI;O;AU;EU;EA",
  "a94f;REJANG ;CONSONANT SIGN NG;CONSONANT SIGN N;CONSONANT SIGN R;CONSONANT SIGN H;VIRAMA",
  "a95f;;REJANG SECTION MARK;HANGUL CHOSEONG TIKEUT-MIEUM;HANGUL CHOSEONG TIKEUT-PIEUP",
  "a962;HANGUL CHOSEONG ;TIKEUT-SIOS;TIKEUT-CIEUC;RIEUL-KIYEOK;RIEUL-SSANGKIYEOK;RIEUL-TIKEUT",
  "a967;HANGUL CHOSEONG RIEUL-;SSANGTIKEUT;MIEUM;PIEUP;SSANGPIEUP;KAPYEOUNPIEUP;SIOS;CIEUC",
  "a96e;HANGUL CHOSEONG ;RIEUL-KHIEUKH;MIEUM-KIYEOK;MIEUM-TIKEUT;MIEUM-SIOS;PIEUP-SIOS-THIEUTH",
  "a973;HANGUL CHOSEONG ;PIEUP-KHIEUKH;PIEUP-HIEUH;SSANGSIOS-PIEUP;IEUNG-RIEUL;IEUNG-HIEUH",
  "a978;HANGUL CHOSEONG ;SSANGCIEUC-HIEUH;SSANGTHIEUTH;PHIEUPH-HIEUH;HIEUH-SIOS;SSANGYEORINHIEUH",
  "a980;JAVANESE ;SIGN PANYANGGA;SIGN CECAK;SIGN LAYAR;SIGN WIGNYAN;LETTER A;LETTER I KAWI",
  "a986;JAVANESE LETTER ;I;II;U;PA CEREK;NGA LELET;NGA LELET RASWADI;E;AI;O;KA;KA SASAK;KA MURDA",
  "a992;JAVANESE LETTER ;GA;GA MURDA;NGA;CA;CA MURDA;JA;NYA MURDA;JA MAHAPRANA;NYA;TTA",
  "a99c;JAVANESE LETTER ;TTA MAHAPRANA;DDA;DDA MAHAPRANA;NA MURDA;TA;TA MURDA;DA;DA MAHAPRANA;NA",
  "a9a5;JAVANESE LETTER ;PA;PA MURDA;BA;BA MURDA;MA;YA;RA;RA AGUNG;LA;WA;SA MURDA;SA MAHAPRANA;SA",
  "a9b2;JAVANESE ;LETTER HA;SIGN CECAK TELU;VOWEL SIGN TARUNG;VOWEL SIGN TOLONG;VOWEL SIGN WULU",
  "a9b7;JAVANESE VOWEL SIGN ;WULU MELIK;SUKU;SUKU MENDUT;TALING;DIRGA MURE;PEPET",
  "a9bd;JAVANESE ;CONSONANT SIGN KERET;CONSONANT SIGN PENGKAL;CONSONANT SIGN CAKRA;PANGKON",
  "a9c1;JAVANESE ;LEFT RERENGGAN;RIGHT RERENGGAN;PADA ANDAP;PADA MADYA;PADA LUHUR;PADA WINDU",
  "a9c7;JAVANESE PADA ;PANGKAT;LINGSA;LUNGSI;ADEG;ADEG ADEG;PISELEH",
  "a9cd;;JAVANESE TURNED PADA PISELEH",
  "a9cf;JAVANESE ;PANGRANGKEP;DIGIT ZERO;DIGIT ONE;DIGIT TWO;DIGIT THREE;DIGIT FOUR;DIGIT FIVE",
  "a9d6;JAVANESE DIGIT ;SIX;SEVEN;EIGHT;NINE",
  "a9de;;JAVANESE PADA TIRTA TUMETES;JAVANESE PADA ISEN-ISEN;MYANMAR LETTER SHAN GHA",
  "a9e1;MYANMAR ;LETTER SHAN CHA;LETTER SHAN JHA;LETTER SHAN NNA;LETTER SHAN BHA;SIGN SHAN SAW",
  "a9e6;MYANMAR ;MODIFIER LETTER SHAN REDUPLICATION;LETTER TAI LAING NYA;LETTER TAI LAING FA",
  "a9e9;MYANMAR LETTER TAI LAING ;GA;GHA;JA;JHA;DDA;DDHA;NNA",
  "a9f0;MYANMAR TAI LAING DIGIT ;ZERO;ONE;TWO;THREE;FOUR;FIVE;SIX;SEVEN;EIGHT;NINE",
  "a9fa;MYANMAR LETTER TAI LAING ;LLA;DA;DHA;BA;BHA",
  "aa00;CHAM LETTER ;A;I;U;E;AI;O;KA;KHA;GA;GHA;NGUE;NGA;CHA;CHHA;JA;JHA;NHUE;NHA;NHJA;TA;THA;DA",
  "aa16;CHAM LETTER ;DHA;NUE;NA;DDA;PA;PPA;PHA;BA;BHA;MUE;MA;BBA;YA;RA;LA;VA;SSA;SA;HA",
  "aa29;CHAM VOWEL SIGN ;AA;I;II;EI;U;OE;O;AI;AU;UE",
  "aa33;CHAM CONSONANT SIGN ;YA;RA;LA;WA",
  "aa40;CHAM ;LETTER FINAL K;LETTER FINAL G;LETTER FINAL NG;CONSONANT SIGN FINAL NG",
  "aa44;CHAM LETTER FINAL ;CH;T;N;P;Y;R;L;SS",
  "aa4c;CHAM CONSONANT SIGN FINAL ;M;H",
  "aa50;CHAM DIGIT ;ZERO;ONE;TWO;THREE;FOUR;FIVE;SIX;SEVEN;EIGHT;NINE",
  "aa5c;CHAM PUNCTUATION ;SPIRAL;DANDA;DOUBLE DANDA;TRIPLE DANDA",
  "aa60;MYANMAR LETTER KHAMTI ;GA;CA;CHA;JA;JHA;NYA;TTA;TTHA;DDA;DDHA;DHA;NA;SA;HA;HHA;FA",
  "aa70;MYANMAR ;MODIFIER LETTER KHAMTI REDUPLICATION;LETTER KHAMTI XA;LETTER KHAMTI ZA",
  "aa73;MYANMAR ;LETTER KHAMTI RA;LOGOGRAM KHAMTI OAY;LOGOGRAM KHAMTI QN;LOGOGRAM KHAMTI HM",
  "aa77;MYANMAR ;SYMBOL AITON EXCLAMATION;SYMBOL AITON ONE;SYMBOL AITON TWO;LETTER AITON RA",
  "aa7b;MYANMAR SIGN ;PAO KAREN TONE;TAI LAING TONE-2;TAI LAING TONE-5",
  "aa7e;;MYANMAR LETTER SHWE PALAUNG CHA;MYANMAR LETTER SHWE PALAUNG SHA;TAI VIET LETTER LOW KO",
  "aa81;TAI VIET LETTER ;HIGH KO;LOW KHO;HIGH KHO;LOW KHHO;HIGH KHHO;LOW GO;HIGH GO;LOW NGO",
  "aa89;TAI VIET LETTER ;HIGH NGO;LOW CO;HIGH CO;LOW CHO;HIGH CHO;LOW SO;HIGH SO;LOW NYO;HIGH NYO",
  "aa92;TAI VIET LETTER ;LOW DO;HIGH DO;LOW TO;HIGH TO;LOW THO;HIGH THO;LOW NO;HIGH NO;LOW BO",
  "aa9b;TAI VIET LETTER ;HIGH BO;LOW PO;HIGH PO;LOW PHO;HIGH PHO;LOW FO;HIGH FO;LOW MO;HIGH MO",
  "aaa4;TAI VIET LETTER ;LOW YO;HIGH YO;LOW RO;HIGH RO;LOW LO;HIGH LO;LOW VO;HIGH VO;LOW HO",
  "aaad;TAI VIET ;LETTER HIGH HO;LETTER LOW O;LETTER HIGH O;MAI KANG;VOWEL AA;VOWEL I;VOWEL UE",
  "aab4;TAI VIET ;VOWEL U;VOWEL E;VOWEL O;MAI KHIT;VOWEL IA;VOWEL UEA;VOWEL UA;VOWEL AUE;VOWEL AY",
  "aabd;TAI VIET ;VOWEL AN;VOWEL AM;TONE MAI EK;TONE MAI NUENG;TONE MAI THO;TONE MAI SONG",
  "aadb;TAI VIET SYMBOL ;KON;NUENG;SAM;HO HOI;KOI KOI",
  "aae0;MEETEI MAYEK LETTER ;E;O;CHA;NYA;TTA;TTHA;DDA;DDHA;NNA;SHA;SSA",
  "aaeb;MEETEI MAYEK VOWEL SIGN ;II;UU;AAI;AU;AAU",
  "aaf0;MEETEI MAYEK ;CHEIKHAN;AHANG KHUDAM;ANJI;SYLLABLE REPETITION MARK;WORD REPETITION MARK",
  "aaf5;MEETEI MAYEK ;VOWEL SIGN VISARGA;VIRAMA",
  "ab01;ETHIOPIC SYLLABLE ;TTHU;TTHI;TTHAA;TTHEE;TTHE;TTHO",
  "ab09;ETHIOPIC SYLLABLE ;DDHU;DDHI;DDHAA;DDHEE;DDHE;DDHO",
  "ab11;ETHIOPIC SYLLABLE ;DZU;DZI;DZAA;DZEE;DZE;DZO",
  "ab20;ETHIOPIC SYLLABLE ;CCHHA;CCHHU;CCHHI;CCHHAA;CCHHEE;CCHHE;CCHHO",
  "ab28;ETHIOPIC SYLLABLE ;BBA;BBU;BBI;BBAA;BBEE;BBE;BBO",
  "ab30;LATIN SMALL LETTER ;BARRED ALPHA;A REVERSED-SCHWA;BLACKLETTER E;BARRED E;E WITH FLOURISH",
  "ab35;LATIN SMALL LETTER ;LENIS F;SCRIPT G WITH CROSSED-TAIL;L WITH INVERTED LAZY S",
  "ab38;LATIN SMALL LETTER ;L WITH DOUBLE MIDDLE TILDE;L WITH MIDDLE RING;M WITH CROSSED-TAIL",
  "ab3b;LATIN SMALL LETTER ;N WITH CROSSED-TAIL;ENG WITH CROSSED-TAIL;BLACKLETTER O",
  "ab3e;LATIN SMALL LETTER ;BLACKLETTER O WITH STROKE;OPEN O WITH STROKE;INVERTED OE",
  "ab41;LATIN SMALL LETTER TURNED ;OE WITH STROKE;OE WITH HORIZONTAL STROKE;O OPEN-O",
  "ab44;LATIN SMALL LETTER ;TURNED O OPEN-O WITH STROKE;STIRRUP R",
  "ab46;LATIN ;LETTER SMALL CAPITAL R WITH RIGHT LEG;SMALL LETTER R WITHOUT HANDLE",
  "ab48;LATIN SMALL LETTER ;DOUBLE R;R WITH CROSSED-TAIL;DOUBLE R WITH CROSSED-TAIL;SCRIPT R",
  "ab4c;LATIN SMALL LETTER ;SCRIPT R WITH RING;BASELINE ESH;U WITH SHORT RIGHT LEG",
  "ab4f;LATIN SMALL LETTER ;U BAR WITH SHORT RIGHT LEG;UI;TURNED UI;U WITH LEFT HOOK;CHI",
  "ab54;LATIN SMALL LETTER ;CHI WITH LOW RIGHT RING;CHI WITH LOW LEFT SERIF;X WITH LOW RIGHT RING",
  "ab57;LATIN SMALL LETTER X WITH LONG LEFT ;LEG;LEG AND LOW RIGHT RING;LEG WITH SERIF",
  "ab5a;;LATIN SMALL LETTER Y WITH SHORT RIGHT LEG;MODIFIER BREVE WITH INVERTED BREVE",
  "ab5c;MODIFIER LETTER SMALL ;HENG;L WITH INVERTED LAZY S;L WITH MIDDLE TILDE;U WITH LEFT HOOK",
  "ab60;LATIN SMALL LETTER ;SAKHA YAT;IOTIFIED E;OPEN OE;UO;INVERTED ALPHA",
  "ab65;;GREEK LETTER SMALL CAPITAL OMEGA;LATIN SMALL LETTER DZ DIGRAPH WITH RETROFLEX HOOK",
  "ab67;LATIN SMALL LETTER ;TS DIGRAPH WITH RETROFLEX HOOK;TURNED R WITH MIDDLE TILDE",
  "ab69;MODIFIER LETTER ;SMALL TURNED W;LEFT TACK;RIGHT TACK",
  "ab70;CHEROKEE SMALL LETTER ;A;E;I;O;U;V;GA;KA;GE;GI;GO;GU;GV;HA;HE;HI;HO;HU;HV;LA;LE;LI;LO;LU",
  "ab88;CHEROKEE SMALL LETTER ;LV;MA;ME;MI;MO;MU;NA;HNA;NAH;NE;NI;NO;NU;NV;QUA;QUE;QUI;QUO;QUU",
  "ab9b;CHEROKEE SMALL LETTER ;QUV;SA;S;SE;SI;SO;SU;SV;DA;TA;DE;TE;DI;TI;DO;DU;DV;DLA;TLA;TLE;TLI",
  "abb0;CHEROKEE SMALL LETTER ;TLO;TLU;TLV;TSA;TSE;TSI;TSO;TSU;TSV;WA;WE;WI;WO;WU;WV;YA",
  "abc0;MEETEI MAYEK LETTER ;KOK;SAM;LAI;MIT;PA;NA;CHIL;TIL;KHOU;NGOU;THOU;WAI;YANG;HUK;UN;I;PHAM",
  "abd1;MEETEI MAYEK LETTER ;ATIYA;GOK;JHAM;RAI;BA;JIL;DIL;GHOU;DHOU;BHAM;KOK LONSUM;LAI LONSUM",
  "abdd;MEETEI MAYEK LETTER ;MIT LONSUM;PA LONSUM;NA LONSUM;TIL LONSUM;NGOU LONSUM;I LONSUM",
  "abe3;MEETEI MAYEK VOWEL SIGN ;ONAP;INAP;ANAP;YENAP;SOUNAP;UNAP;CHEINAP;NUNG",
  "abeb;MEETEI MAYEK ;CHEIKHEI;LUM IYEK;APUN IYEK",
  "abf0;MEETEI MAYEK DIGIT ;ZERO;ONE;TWO;THREE;FOUR;FIVE;SIX;SEVEN;EIGHT;NINE",
  "d7b0;HANGUL JUNGSEONG ;O-YEO;O-O-I;YO-A;YO-AE;YO-EO;U-YEO;U-I-I;YU-AE;YU-O;EU-A;EU-EO;EU-E",
  "d7bc;HANGUL JUNGSEONG ;EU-O;I-YA-O;I-YAE;I-YEO;I-YE;I-O-I;I-YO;I-YU;I-I;ARAEA-A;ARAEA-E",
  "d7cb;HANGUL JONGSEONG ;NIEUN-RIEUL;NIEUN-CHIEUCH;SSANGTIKEUT;SSANGTIKEUT-PIEUP;TIKEUT-PIEUP",
  "d7d0;HANGUL JONGSEONG TIKEUT-;SIOS;SIOS-KIYEOK;CIEUC;CHIEUCH;THIEUTH",
  "d7d5;HANGUL JONGSEONG ;RIEUL-SSANGKIYEOK;RIEUL-KIYEOK-HIEUH;SSANGRIEUL-KHIEUKH",
  "d7d8;HANGUL JONGSEONG RIEUL-;MIEUM-HIEUH;PIEUP-TIKEUT;PIEUP-PHIEUPH;YESIEUNG;YEORINHIEUH-HIEUH",
  "d7dd;HANGUL JONGSEONG ;KAPYEOUNRIEUL;MIEUM-NIEUN;MIEUM-SSANGNIEUN;SSANGMIEUM;MIEUM-PIEUP-SIOS",
  "d7e2;HANGUL JONGSEONG ;MIEUM-CIEUC;PIEUP-TIKEUT;PIEUP-RIEUL-PHIEUPH;PIEUP-MIEUM;SSANGPIEUP",
  "d7e7;HANGUL JONGSEONG ;PIEUP-SIOS-TIKEUT;PIEUP-CIEUC;PIEUP-CHIEUCH;SIOS-MIEUM",
  "d7eb;HANGUL JONGSEONG ;SIOS-KAPYEOUNPIEUP;SSANGSIOS-KIYEOK;SSANGSIOS-TIKEUT;SIOS-PANSIOS",
  "d7ef;HANGUL JONGSEONG ;SIOS-CIEUC;SIOS-CHIEUCH;SIOS-THIEUTH;SIOS-HIEUH;PANSIOS-PIEUP",
  "d7f4;HANGUL JONGSEONG ;PANSIOS-KAPYEOUNPIEUP;YESIEUNG-MIEUM;YESIEUNG-HIEUH;CIEUC-PIEUP",
  "d7f8;HANGUL JONGSEONG ;CIEUC-SSANGPIEUP;SSANGCIEUC;PHIEUPH-SIOS;PHIEUPH-THIEUTH",
  "f900;CJK COMPATIBILITY IDEOGRAPH-;F900;F901;F902;F903;F904;F905;F906;F907;F908;F909;F90A;F90B",
  "f90c;CJK COMPATIBILITY IDEOGRAPH-;F90C;F90D;F90E;F90F;F910;F911;F912;F913;F914;F915;F916;F917",
  "f918;CJK COMPATIBILITY IDEOGRAPH-;F918;F919;F91A;F91B;F91C;F91D;F91E;F91F;F920;F921;F922;F923",
  "f924;CJK COMPATIBILITY IDEOGRAPH-;F924;F925;F926;F927;F928;F929;F92A;F92B;F92C;F92D;F92E;F92F",
  "f930;CJK COMPATIBILITY IDEOGRAPH-;F930;F931;F932;F933;F934;F935;F936;F937;F938;F939;F93A;F93B",
  "f93c;CJK COMPATIBILITY IDEOGRAPH-;F93C;F93D;F93E;F93F;F940;F941;F942;F943;F944;F945;F946;F947",
  "f948;CJK COMPATIBILITY IDEOGRAPH-;F948;F949;F94A;F94B;F94C;F94D;F94E;F94F;F950;F951;F952;F953",
  "f954;CJK COMPATIBILITY IDEOGRAPH-;F954;F955;F956;F957;F958;F959;F95A;F95B;F95C;F95D;F95E;F95F",
  "f960;CJK COMPATIBILITY IDEOGRAPH-;F960;F961;F962;F963;F964;F965;F966;F967;F968;F969;F96A;F96B",
  "f96c;CJK COMPATIBILITY IDEOGRAPH-;F96C;F96D;F96E;F96F;F970;F971;F972;F973;F974;F975;F976;F977",
  "f978;CJK COMPATIBILITY IDEOGRAPH-;F978;F979;F97A;F97B;F97C;F97D;F97E;F97F;F980;F981;F982;F983",
  "f984;CJK COMPATIBILITY IDEOGRAPH-;F984;F985;F986;F987;F988;F989;F98A;F98B;F98C;F98D;F98E;F98F",
  "f990;CJK COMPATIBILITY IDEOGRAPH-;F990;F991;F992;F993;F994;F995;F996;F997;F998;F999;F99A;F99B",
  "f99c;CJK COMPATIBILITY IDEOGRAPH-;F99C;F99D;F99E;F99F;F9A0;F9A1;F9A2;F9A3;F9A4;F9A5;F9A6;F9A7",
  "f9a8;CJK COMPATIBILITY IDEOGRAPH-;F9A8;F9A9;F9AA;F9AB;F9AC;F9AD;F9AE;F9AF;F9B0;F9B1;F9B2;F9B3",
  "f9b4;CJK COMPATIBILITY IDEOGRAPH-;F9B4;F9B5;F9B6;F9B7;F9B8;F9B9;F9BA;F9BB;F9BC;F9BD;F9BE;F9BF",
  "f9c0;CJK COMPATIBILITY IDEOGRAPH-;F9C0;F9C1;F9C2;F9C3;F9C4;F9C5;F9C6;F9C7;F9C8;F9C9;F9CA;F9CB",
  "f9cc;CJK COMPATIBILITY IDEOGRAPH-;F9CC;F9CD;F9CE;F9CF;F9D0;F9D1;F9D2;F9D3;F9D4;F9D5;F9D6;F9D7",
  "f9d8;CJK COMPATIBILITY IDEOGRAPH-;F9D8;F9D9;F9DA;F9DB;F9DC;F9DD;F9DE;F9DF;F9E0;F9E1;F9E2;F9E3",
  "f9e4;CJK COMPATIBILITY IDEOGRAPH-;F9E4;F9E5;F9E6;F9E7;F9E8;F9E9;F9EA;F9EB;F9EC;F9ED;F9EE;F9EF",
  "f9f0;CJK COMPATIBILITY IDEOGRAPH-;F9F0;F9F1;F9F2;F9F3;F9F4;F9F5;F9F6;F9F7;F9F8;F9F9;F9FA;F9FB",
  "f9fc;CJK COMPATIBILITY IDEOGRAPH-;F9FC;F9FD;F9FE;F9FF;FA00;FA01;FA02;FA03;FA04;FA05;FA06;FA07",
  "fa08;CJK COMPATIBILITY IDEOGRAPH-;FA08;FA09;FA0A;FA0B;FA0C;FA0D;FA0E;FA0F;FA10;FA11;FA12;FA13",
  "fa14;CJK COMPATIBILITY IDEOGRAPH-;FA14;FA15;FA16;FA17;FA18;FA19;FA1A;FA1B;FA1C;FA1D;FA1E;FA1F",
  "fa20;CJK COMPATIBILITY IDEOGRAPH-;FA20;FA21;FA22;FA23;FA24;FA25;FA26;FA27;FA28;FA29;FA2A;FA2B",
  "fa2c;CJK COMPATIBILITY IDEOGRAPH-;FA2C;FA2D;FA2E;FA2F;FA30;FA31;FA32;FA33;FA34;FA35;FA36;FA37",
  "fa38;CJK COMPATIBILITY IDEOGRAPH-;FA38;FA39;FA3A;FA3B;FA3C;FA3D;FA3E;FA3F;FA40;FA41;FA42;FA43",
  "fa44;CJK COMPATIBILITY IDEOGRAPH-;FA44;FA45;FA46;FA47;FA48;FA49;FA4A;FA4B;FA4C;FA4D;FA4E;FA4F",
  "fa50;CJK COMPATIBILITY IDEOGRAPH-;FA50;FA51;FA52;FA53;FA54;FA55;FA56;FA57;FA58;FA59;FA5A;FA5B",
  "fa5c;CJK COMPATIBILITY IDEOGRAPH-;FA5C;FA5D;FA5E;FA5F;FA60;FA61;FA62;FA63;FA64;FA65;FA66;FA67",
  "fa68;CJK COMPATIBILITY IDEOGRAPH-;FA68;FA69;FA6A;FA6B;FA6C;FA6D",
  "fa70;CJK COMPATIBILITY IDEOGRAPH-;FA70;FA71;FA72;FA73;FA74;FA75;FA76;FA77;FA78;FA79;FA7A;FA7B",
  "fa7c;CJK COMPATIBILITY IDEOGRAPH-;FA7C;FA7D;FA7E;FA7F;FA80;FA81;FA82;FA83;FA84;FA85;FA86;FA87",
  "fa88;CJK COMPATIBILITY IDEOGRAPH-;FA88;FA89;FA8A;FA8B;FA8C;FA8D;FA8E;FA8F;FA90;FA91;FA92;FA93",
  "fa94;CJK COMPATIBILITY IDEOGRAPH-;FA94;FA95;FA96;FA97;FA98;FA99;FA9A;FA9B;FA9C;FA9D;FA9E;FA9F",
  "faa0;CJK COMPATIBILITY IDEOGRAPH-;FAA0;FAA1;FAA2;FAA3;FAA4;FAA5;FAA6;FAA7;FAA8;FAA9;FAAA;FAAB",
  "faac;CJK COMPATIBILITY IDEOGRAPH-;FAAC;FAAD;FAAE;FAAF;FAB0;FAB1;FAB2;FAB3;FAB4;FAB5;FAB6;FAB7",
  "fab8;CJK COMPATIBILITY IDEOGRAPH-;FAB8;FAB9;FABA;FABB;FABC;FABD;FABE;FABF;FAC0;FAC1;FAC2;FAC3",
  "fac4;CJK COMPATIBILITY IDEOGRAPH-;FAC4;FAC5;FAC6;FAC7;FAC8;FAC9;FACA;FACB;FACC;FACD;FACE;FACF",
  "fad0;CJK COMPATIBILITY IDEOGRAPH-;FAD0;FAD1;FAD2;FAD3;FAD4;FAD5;FAD6;FAD7;FAD8;FAD9",
  "fb00;LATIN SMALL LIGATURE ;FF;FI;FL;FFI;FFL;LONG S T;ST",
  "fb13;ARMENIAN SMALL LIGATURE ;MEN NOW;MEN ECH;MEN INI;VEW NOW;MEN XEH",
  "fb1d;HEBREW ;LETTER YOD WITH HIRIQ;POINT JUDEO-SPANISH VARIKA;LIGATURE YIDDISH YOD YOD PATAH",
  "fb20;HEBREW LETTER ;ALTERNATIVE AYIN;WIDE ALEF;WIDE DALET;WIDE HE;WIDE KAF;WIDE LAMED",
  "fb26;HEBREW LETTER ;WIDE FINAL MEM;WIDE RESH;WIDE TAV;ALTERNATIVE PLUS SIGN;SHIN WITH SHIN DOT",
  "fb2b;HEBREW LETTER SHIN WITH ;SIN DOT;DAGESH AND SHIN DOT;DAGESH AND SIN DOT",
  "fb2e;HEBREW LETTER ;ALEF WITH PATAH;ALEF WITH QAMATS;ALEF WITH MAPIQ;BET WITH DAGESH",
  "fb32;HEBREW LETTER ;GIMEL WITH DAGESH;DALET WITH DAGESH;HE WITH MAPIQ;VAV WITH DAGESH",
  "fb36;;HEBREW LETTER ZAYIN WITH DAGESH",
  "fb38;HEBREW LETTER ;TET WITH DAGESH;YOD WITH DAGESH;FINAL KAF WITH DAGESH;KAF WITH DAGESH",
  "fb3c;;HEBREW LETTER LAMED WITH DAGESH",
  "fb3e;;HEBREW LETTER MEM WITH DAGESH",
  "fb40;HEBREW LETTER ;NUN WITH DAGESH;SAMEKH WITH DAGESH",
  "fb43;HEBREW LETTER ;FINAL PE WITH DAGESH;PE WITH DAGESH",
  "fb46;HEBREW LETTER ;TSADI WITH DAGESH;QOF WITH DAGESH;RESH WITH DAGESH;SHIN WITH DAGESH",
  "fb4a;HEBREW LETTER ;TAV WITH DAGESH;VAV WITH HOLAM;BET WITH RAFE;KAF WITH RAFE;PE WITH RAFE",
  "fb4f;;HEBREW LIGATURE ALEF LAMED;ARABIC LETTER ALEF WASLA ISOLATED FORM",
  "fb51;ARABIC LETTER ;ALEF WASLA FINAL FORM;BEEH ISOLATED FORM;BEEH FINAL FORM;BEEH INITIAL FORM",
  "fb55;ARABIC LETTER ;BEEH MEDIAL FORM;PEH ISOLATED FORM;PEH FINAL FORM;PEH INITIAL FORM",
  "fb59;ARABIC LETTER ;PEH MEDIAL FORM;BEHEH ISOLATED FORM;BEHEH FINAL FORM;BEHEH INITIAL FORM",
  "fb5d;ARABIC LETTER ;BEHEH MEDIAL FORM;TTEHEH ISOLATED FORM;TTEHEH FINAL FORM",
  "fb60;ARABIC LETTER ;TTEHEH INITIAL FORM;TTEHEH MEDIAL FORM;TEHEH ISOLATED FORM",
  "fb63;ARABIC LETTER ;TEHEH FINAL FORM;TEHEH INITIAL FORM;TEHEH MEDIAL FORM;TTEH ISOLATED FORM",
  "fb67;ARABIC LETTER ;TTEH FINAL FORM;TTEH INITIAL FORM;TTEH MEDIAL FORM;VEH ISOLATED FORM",
  "fb6b;ARABIC LETTER ;VEH FINAL FORM;VEH INITIAL FORM;VEH MEDIAL FORM;PEHEH ISOLATED FORM",
  "fb6f;ARABIC LETTER ;PEHEH FINAL FORM;PEHEH INITIAL FORM;PEHEH MEDIAL FORM;DYEH ISOLATED FORM",
  "fb73;ARABIC LETTER ;DYEH FINAL FORM;DYEH INITIAL FORM;DYEH MEDIAL FORM;NYEH ISOLATED FORM",
  "fb77;ARABIC LETTER ;NYEH FINAL FORM;NYEH INITIAL FORM;NYEH MEDIAL FORM;TCHEH ISOLATED FORM",
  "fb7b;ARABIC LETTER TCHEH ;FINAL FORM;INITIAL FORM;MEDIAL FORM",
  "fb7e;ARABIC LETTER TCHEHEH ;ISOLATED FORM;FINAL FORM;INITIAL FORM;MEDIAL FORM",
  "fb82;ARABIC LETTER ;DDAHAL ISOLATED FORM;DDAHAL FINAL FORM;DAHAL ISOLATED FORM",
  "fb85;ARABIC LETTER ;DAHAL FINAL FORM;DUL ISOLATED FORM;DUL FINAL FORM;DDAL ISOLATED FORM",
  "fb89;ARABIC LETTER ;DDAL FINAL FORM;JEH ISOLATED FORM;JEH FINAL FORM;RREH ISOLATED FORM",
  "fb8d;ARABIC LETTER ;RREH FINAL FORM;KEHEH ISOLATED FORM;KEHEH FINAL FORM;KEHEH INITIAL FORM",
  "fb91;ARABIC LETTER ;KEHEH MEDIAL FORM;GAF ISOLATED FORM;GAF FINAL FORM;GAF INITIAL FORM",
  "fb95;ARABIC LETTER ;GAF MEDIAL FORM;GUEH ISOLATED FORM;GUEH FINAL FORM;GUEH INITIAL FORM",
  "fb99;ARABIC LETTER ;GUEH MEDIAL FORM;NGOEH ISOLATED FORM;NGOEH FINAL FORM;NGOEH INITIAL FORM",
  "fb9d;ARABIC LETTER ;NGOEH MEDIAL FORM;NOON GHUNNA ISOLATED FORM;NOON GHUNNA FINAL FORM",
  "fba0;ARABIC LETTER RNOON ;ISOLATED FORM;FINAL FORM;INITIAL FORM;MEDIAL FORM",
  "fba4;ARABIC LETTER HEH WITH YEH ABOVE ;ISOLATED FORM;FINAL FORM",
  "fba6;ARABIC LETTER HEH GOAL ;ISOLATED FORM;FINAL FORM;INITIAL FORM;MEDIAL FORM",
  "fbaa;ARABIC LETTER HEH DOACHASHMEE ;ISOLATED FORM;FINAL FORM;INITIAL FORM;MEDIAL FORM",
  "fbae;ARABIC LETTER YEH BARREE ;ISOLATED FORM;FINAL FORM;WITH HAMZA ABOVE ISOLATED FORM",
  "fbb1;ARABIC ;LETTER YEH BARREE WITH HAMZA ABOVE FINAL FORM;SYMBOL DOT ABOVE;SYMBOL DOT BELOW",
  "fbb4;ARABIC SYMBOL ;TWO DOTS ABOVE;TWO DOTS BELOW;THREE DOTS ABOVE;THREE DOTS BELOW",
  "fbb8;ARABIC SYMBOL THREE DOTS POINTING DOWNWARDS ;ABOVE;BELOW",
  "fbba;ARABIC SYMBOL ;FOUR DOTS ABOVE;FOUR DOTS BELOW;DOUBLE VERTICAL BAR BELOW",
  "fbbd;ARABIC SYMBOL ;TWO DOTS VERTICALLY ABOVE;TWO DOTS VERTICALLY BELOW;RING;SMALL TAH ABOVE",
  "fbc1;ARABIC SYMBOL ;SMALL TAH BELOW;WASLA ABOVE",
  "fbd3;ARABIC LETTER NG ;ISOLATED FORM;FINAL FORM;INITIAL FORM;MEDIAL FORM",
  "fbd7;ARABIC LETTER ;U ISOLATED FORM;U FINAL FORM;OE ISOLATED FORM;OE FINAL FORM",
  "fbdb;ARABIC LETTER ;YU ISOLATED FORM;YU FINAL FORM;U WITH HAMZA ABOVE ISOLATED FORM",
  "fbde;ARABIC LETTER ;VE ISOLATED FORM;VE FINAL FORM;KIRGHIZ OE ISOLATED FORM",
  "fbe1;ARABIC LETTER KIRGHIZ ;OE FINAL FORM;YU ISOLATED FORM;YU FINAL FORM",
  "fbe4;ARABIC LETTER E ;ISOLATED FORM;FINAL FORM;INITIAL FORM;MEDIAL FORM",
  "fbe8;ARABIC LETTER UIGHUR KAZAKH KIRGHIZ ALEF MAKSURA ;INITIAL FORM;MEDIAL FORM",
  "fbea;ARABIC LIGATURE YEH WITH HAMZA ABOVE WITH ALEF ;ISOLATED FORM;FINAL FORM",
  "fbec;ARABIC LIGATURE YEH WITH HAMZA ABOVE WITH AE ;ISOLATED FORM;FINAL FORM",
  "fbee;ARABIC LIGATURE YEH WITH HAMZA ABOVE WITH WAW ;ISOLATED FORM;FINAL FORM",
  "fbf0;ARABIC LIGATURE YEH WITH HAMZA ABOVE WITH ;U ISOLATED FORM;U FINAL FORM;OE ISOLATED FORM",
  "fbf3;ARABIC LIGATURE YEH WITH HAMZA ABOVE WITH ;OE FINAL FORM;YU ISOLATED FORM;YU FINAL FORM",
  "fbf6;ARABIC LIGATURE YEH WITH HAMZA ABOVE WITH E ;ISOLATED FORM;FINAL FORM;INITIAL FORM",
  "fbf9;;ARABIC LIGATURE UIGHUR KIRGHIZ YEH WITH HAMZA ABOVE WITH ALEF MAKSURA ISOLATED FORM",
  "fbfa;;ARABIC LIGATURE UIGHUR KIRGHIZ YEH WITH HAMZA ABOVE WITH ALEF MAKSURA FINAL FORM",
  "fbfb;;ARABIC LIGATURE UIGHUR KIRGHIZ YEH WITH HAMZA ABOVE WITH ALEF MAKSURA INITIAL FORM",
  "fbfc;ARABIC LETTER FARSI YEH ;ISOLATED FORM;FINAL FORM;INITIAL FORM;MEDIAL FORM",
  "fc00;ARABIC LIGATURE YEH WITH HAMZA ABOVE WITH ;JEEM ISOLATED FORM;HAH ISOLATED FORM",
  "fc02;ARABIC LIGATURE YEH WITH HAMZA ABOVE WITH ;MEEM ISOLATED FORM;ALEF MAKSURA ISOLATED FORM",
  "fc04;ARABIC LIGATURE ;YEH WITH HAMZA ABOVE WITH YEH ISOLATED FORM;BEH WITH JEEM ISOLATED FORM",
  "fc06;ARABIC LIGATURE BEH WITH ;HAH ISOLATED FORM;KHAH ISOLATED FORM;MEEM ISOLATED FORM",
  "fc09;ARABIC LIGATURE BEH WITH ;ALEF MAKSURA ISOLATED FORM;YEH ISOLATED FORM",
  "fc0b;ARABIC LIGATURE TEH WITH ;JEEM ISOLATED FORM;HAH ISOLATED FORM;KHAH ISOLATED FORM",
  "fc0e;ARABIC LIGATURE TEH WITH ;MEEM ISOLATED FORM;ALEF MAKSURA ISOLATED FORM;YEH ISOLATED FORM",
  "fc11;ARABIC LIGATURE THEH WITH ;JEEM ISOLATED FORM;MEEM ISOLATED FORM",
  "fc13;ARABIC LIGATURE THEH WITH ;ALEF MAKSURA ISOLATED FORM;YEH ISOLATED FORM",
  "fc15;ARABIC LIGATURE JEEM WITH ;HAH ISOLATED FORM;MEEM ISOLATED FORM",
  "fc17;ARABIC LIGATURE HAH WITH ;JEEM ISOLATED FORM;MEEM ISOLATED FORM",
  "fc19;ARABIC LIGATURE KHAH WITH ;JEEM ISOLATED FORM;HAH ISOLATED FORM;MEEM ISOLATED FORM",
  "fc1c;ARABIC LIGATURE SEEN WITH ;JEEM ISOLATED FORM;HAH ISOLATED FORM;KHAH ISOLATED FORM",
  "fc1f;ARABIC LIGATURE ;SEEN WITH MEEM ISOLATED FORM;SAD WITH HAH ISOLATED FORM",
  "fc21;ARABIC LIGATURE ;SAD WITH MEEM ISOLATED FORM;DAD WITH JEEM ISOLATED FORM",
  "fc23;ARABIC LIGATURE DAD WITH ;HAH ISOLATED FORM;KHAH ISOLATED FORM;MEEM ISOLATED FORM",
  "fc26;ARABIC LIGATURE TAH WITH ;HAH ISOLATED FORM;MEEM ISOLATED FORM",
  "fc28;ARABIC LIGATURE ;ZAH WITH MEEM ISOLATED FORM;AIN WITH JEEM ISOLATED FORM",
  "fc2a;ARABIC LIGATURE ;AIN WITH MEEM ISOLATED FORM;GHAIN WITH JEEM ISOLATED FORM",
  "fc2c;ARABIC LIGATURE ;GHAIN WITH MEEM ISOLATED FORM;FEH WITH JEEM ISOLATED FORM",
  "fc2e;ARABIC LIGATURE FEH WITH ;HAH ISOLATED FORM;KHAH ISOLATED FORM;MEEM ISOLATED FORM",
  "fc31;ARABIC LIGATURE FEH WITH ;ALEF MAKSURA ISOLATED FORM;YEH ISOLATED FORM",
  "fc33;ARABIC LIGATURE QAF WITH ;HAH ISOLATED FORM;MEEM ISOLATED FORM;ALEF MAKSURA ISOLATED FORM",
  "fc36;ARABIC LIGATURE ;QAF WITH YEH ISOLATED FORM;KAF WITH ALEF ISOLATED FORM",
  "fc38;ARABIC LIGATURE KAF WITH ;JEEM ISOLATED FORM;HAH ISOLATED FORM;KHAH ISOLATED FORM",
  "fc3b;ARABIC LIGATURE KAF WITH ;LAM ISOLATED FORM;MEEM ISOLATED FORM;ALEF MAKSURA ISOLATED FORM",
  "fc3e;ARABIC LIGATURE ;KAF WITH YEH ISOLATED FORM;LAM WITH JEEM ISOLATED FORM",
  "fc40;ARABIC LIGATURE LAM WITH ;HAH ISOLATED FORM;KHAH ISOLATED FORM;MEEM ISOLATED FORM",
  "fc43;ARABIC LIGATURE LAM WITH ;ALEF MAKSURA ISOLATED FORM;YEH ISOLATED FORM",
  "fc45;ARABIC LIGATURE MEEM WITH ;JEEM ISOLATED FORM;HAH ISOLATED FORM;KHAH ISOLATED FORM",
  "fc48;ARABIC LIGATURE MEEM WITH ;MEEM ISOLATED FORM;ALEF MAKSURA ISOLATED FORM",
  "fc4a;ARABIC LIGATURE ;MEEM WITH YEH ISOLATED FORM;NOON WITH JEEM ISOLATED FORM",
  "fc4c;ARABIC LIGATURE NOON WITH ;HAH ISOLATED FORM;KHAH ISOLATED FORM;MEEM ISOLATED FORM",
  "fc4f;ARABIC LIGATURE NOON WITH ;ALEF MAKSURA ISOLATED FORM;YEH ISOLATED FORM",
  "fc51;ARABIC LIGATURE HEH WITH ;JEEM ISOLATED FORM;MEEM ISOLATED FORM",
  "fc53;ARABIC LIGATURE HEH WITH ;ALEF MAKSURA ISOLATED FORM;YEH ISOLATED FORM",
  "fc55;ARABIC LIGATURE YEH WITH ;JEEM ISOLATED FORM;HAH ISOLATED FORM;KHAH ISOLATED FORM",
  "fc58;ARABIC LIGATURE YEH WITH ;MEEM ISOLATED FORM;ALEF MAKSURA ISOLATED FORM;YEH ISOLATED FORM",
  "fc5b;;ARABIC LIGATURE THAL WITH SUPERSCRIPT ALEF ISOLATED FORM",
  "fc5c;;ARABIC LIGATURE REH WITH SUPERSCRIPT ALEF ISOLATED FORM",
  "fc5d;;ARABIC LIGATURE ALEF MAKSURA WITH SUPERSCRIPT ALEF ISOLATED FORM",
  "fc5e;ARABIC LIGATURE SHADDA WITH ;DAMMATAN ISOLATED FORM;KASRATAN ISOLATED FORM",
  "fc60;ARABIC LIGATURE SHADDA WITH ;FATHA ISOLATED FORM;DAMMA ISOLATED FORM;KASRA ISOLATED FORM",
  "fc63;;ARABIC LIGATURE SHADDA WITH SUPERSCRIPT ALEF ISOLATED FORM",
  "fc64;ARABIC LIGATURE YEH WITH HAMZA ABOVE WITH ;REH FINAL FORM;ZAIN FINAL FORM;MEEM FINAL FORM",
  "fc67;ARABIC LIGATURE YEH WITH HAMZA ABOVE WITH ;NOON FINAL FORM;ALEF MAKSURA FINAL FORM",
  "fc69;ARABIC LIGATURE ;YEH WITH HAMZA ABOVE WITH YEH FINAL FORM;BEH WITH REH FINAL FORM",
  "fc6b;ARABIC LIGATURE BEH WITH ;ZAIN FINAL FORM;MEEM FINAL FORM;NOON FINAL FORM",
  "fc6e;ARABIC LIGATURE BEH WITH ;ALEF MAKSURA FINAL FORM;YEH FINAL FORM",
  "fc70;ARABIC LIGATURE TEH WITH ;REH FINAL FORM;ZAIN FINAL FORM;MEEM FINAL FORM;NOON FINAL FORM",
  "fc74;ARABIC LIGATURE TEH WITH ;ALEF MAKSURA FINAL FORM;YEH FINAL FORM",
  "fc76;ARABIC LIGATURE THEH WITH ;REH FINAL FORM;ZAIN FINAL FORM;MEEM FINAL FORM;NOON FINAL FORM",
  "fc7a;ARABIC LIGATURE THEH WITH ;ALEF MAKSURA FINAL FORM;YEH FINAL FORM",
  "fc7c;ARABIC LIGATURE FEH WITH ;ALEF MAKSURA FINAL FORM;YEH FINAL FORM",
  "fc7e;ARABIC LIGATURE QAF WITH ;ALEF MAKSURA FINAL FORM;YEH FINAL FORM",
  "fc80;ARABIC LIGATURE KAF WITH ;ALEF FINAL FORM;LAM FINAL FORM;MEEM FINAL FORM",
  "fc83;ARABIC LIGATURE KAF WITH ;ALEF MAKSURA FINAL FORM;YEH FINAL FORM",
  "fc85;ARABIC LIGATURE LAM WITH ;MEEM FINAL FORM;ALEF MAKSURA FINAL FORM;YEH FINAL FORM",
  "fc88;ARABIC LIGATURE MEEM WITH ;ALEF FINAL FORM;MEEM FINAL FORM",
  "fc8a;ARABIC LIGATURE NOON WITH ;REH FINAL FORM;ZAIN FINAL FORM;MEEM FINAL FORM;NOON FINAL FORM",
  "fc8e;ARABIC LIGATURE NOON WITH ;ALEF MAKSURA FINAL FORM;YEH FINAL FORM",
  "fc90;ARABIC LIGATURE ;ALEF MAKSURA WITH SUPERSCRIPT ALEF FINAL FORM;YEH WITH REH FINAL FORM",
  "fc92;ARABIC LIGATURE YEH WITH ;ZAIN FINAL FORM;MEEM FINAL FORM;NOON FINAL FORM",
  "fc95;ARABIC LIGATURE YEH WITH ;ALEF MAKSURA FINAL FORM;YEH FINAL FORM",
  "fc97;ARABIC LIGATURE YEH WITH HAMZA ABOVE WITH ;JEEM INITIAL FORM;HAH INITIAL FORM",
  "fc99;ARABIC LIGATURE YEH WITH HAMZA ABOVE WITH ;KHAH INITIAL FORM;MEEM INITIAL FORM",
  "fc9b;ARABIC LIGATURE ;YEH WITH HAMZA ABOVE WITH HEH INITIAL FORM;BEH WITH JEEM INITIAL FORM",
  "fc9d;ARABIC LIGATURE BEH WITH ;HAH INITIAL FORM;KHAH INITIAL FORM;MEEM INITIAL FORM",
  "fca0;ARABIC LIGATURE ;BEH WITH HEH INITIAL FORM;TEH WITH JEEM INITIAL FORM",
  "fca2;ARABIC LIGATURE TEH WITH ;HAH INITIAL FORM;KHAH INITIAL FORM;MEEM INITIAL FORM",
  "fca5;ARABIC LIGATURE ;TEH WITH HEH INITIAL FORM;THEH WITH MEEM INITIAL FORM",
  "fca7;ARABIC LIGATURE JEEM WITH ;HAH INITIAL FORM;MEEM INITIAL FORM",
  "fca9;ARABIC LIGATURE HAH WITH ;JEEM INITIAL FORM;MEEM INITIAL FORM",
  "fcab;ARABIC LIGATURE KHAH WITH ;JEEM INITIAL FORM;MEEM INITIAL FORM",
  "fcad;ARABIC LIGATURE SEEN WITH ;JEEM INITIAL FORM;HAH INITIAL FORM;KHAH INITIAL FORM",
  "fcb0;ARABIC LIGATURE ;SEEN WITH MEEM INITIAL FORM;SAD WITH HAH INITIAL FORM",
  "fcb2;ARABIC LIGATURE SAD WITH ;KHAH INITIAL FORM;MEEM INITIAL FORM",
  "fcb4;ARABIC LIGATURE DAD WITH ;JEEM INITIAL FORM;HAH INITIAL FORM;KHAH INITIAL FORM",
  "fcb7;ARABIC LIGATURE ;DAD WITH MEEM INITIAL FORM;TAH WITH HAH INITIAL FORM",
  "fcb9;ARABIC LIGATURE ;ZAH WITH MEEM INITIAL FORM;AIN WITH JEEM INITIAL FORM",
  "fcbb;ARABIC LIGATURE ;AIN WITH MEEM INITIAL FORM;GHAIN WITH JEEM INITIAL FORM",
  "fcbd;ARABIC LIGATURE ;GHAIN WITH MEEM INITIAL FORM;FEH WITH JEEM INITIAL FORM",
  "fcbf;ARABIC LIGATURE FEH WITH ;HAH INITIAL FORM;KHAH INITIAL FORM;MEEM INITIAL FORM",
  "fcc2;ARABIC LIGATURE QAF WITH ;HAH INITIAL FORM;MEEM INITIAL FORM",
  "fcc4;ARABIC LIGATURE KAF WITH ;JEEM INITIAL FORM;HAH INITIAL FORM;KHAH INITIAL FORM",
  "fcc7;ARABIC LIGATURE KAF WITH ;LAM INITIAL FORM;MEEM INITIAL FORM",
  "fcc9;ARABIC LIGATURE LAM WITH ;JEEM INITIAL FORM;HAH INITIAL FORM;KHAH INITIAL FORM",
  "fccc;ARABIC LIGATURE LAM WITH ;MEEM INITIAL FORM;HEH INITIAL FORM",
  "fcce;ARABIC LIGATURE MEEM WITH ;JEEM INITIAL FORM;HAH INITIAL FORM;KHAH INITIAL FORM",
  "fcd1;ARABIC LIGATURE ;MEEM WITH MEEM INITIAL FORM;NOON WITH JEEM INITIAL FORM",
  "fcd3;ARABIC LIGATURE NOON WITH ;HAH INITIAL FORM;KHAH INITIAL FORM;MEEM INITIAL FORM",
  "fcd6;ARABIC LIGATURE ;NOON WITH HEH INITIAL FORM;HEH WITH JEEM INITIAL FORM",
  "fcd8;ARABIC LIGATURE HEH WITH ;MEEM INITIAL FORM;SUPERSCRIPT ALEF INITIAL FORM",
  "fcda;ARABIC LIGATURE YEH WITH ;JEEM INITIAL FORM;HAH INITIAL FORM;KHAH INITIAL FORM",
  "fcdd;ARABIC LIGATURE YEH WITH ;MEEM INITIAL FORM;HEH INITIAL FORM",
  "fcdf;ARABIC LIGATURE YEH WITH HAMZA ABOVE WITH ;MEEM MEDIAL FORM;HEH MEDIAL FORM",
  "fce1;ARABIC LIGATURE BEH WITH ;MEEM MEDIAL FORM;HEH MEDIAL FORM",
  "fce3;ARABIC LIGATURE TEH WITH ;MEEM MEDIAL FORM;HEH MEDIAL FORM",
  "fce5;ARABIC LIGATURE THEH WITH ;MEEM MEDIAL FORM;HEH MEDIAL FORM",
  "fce7;ARABIC LIGATURE SEEN WITH ;MEEM MEDIAL FORM;HEH MEDIAL FORM",
  "fce9;ARABIC LIGATURE SHEEN WITH ;MEEM MEDIAL FORM;HEH MEDIAL FORM",
  "fceb;ARABIC LIGATURE KAF WITH ;LAM MEDIAL FORM;MEEM MEDIAL FORM",
  "fced;ARABIC LIGATURE ;LAM WITH MEEM MEDIAL FORM;NOON WITH MEEM MEDIAL FORM",
  "fcef;ARABIC LIGATURE ;NOON WITH HEH MEDIAL FORM;YEH WITH MEEM MEDIAL FORM",
  "fcf1;ARABIC LIGATURE ;YEH WITH HEH MEDIAL FORM;SHADDA WITH FATHA MEDIAL FORM",
  "fcf3;ARABIC LIGATURE SHADDA WITH ;DAMMA MEDIAL FORM;KASRA MEDIAL FORM",
  "fcf5;ARABIC LIGATURE TAH WITH ;ALEF MAKSURA ISOLATED FORM;YEH ISOLATED FORM",
  "fcf7;ARABIC LIGATURE AIN WITH ;ALEF MAKSURA ISOLATED FORM;YEH ISOLATED FORM",
  "fcf9;ARABIC LIGATURE GHAIN WITH ;ALEF MAKSURA ISOLATED FORM;YEH ISOLATED FORM",
  "fcfb;ARABIC LIGATURE SEEN WITH ;ALEF MAKSURA ISOLATED FORM;YEH ISOLATED FORM",
  "fcfd;ARABIC LIGATURE SHEEN WITH ;ALEF MAKSURA ISOLATED FORM;YEH ISOLATED FORM",
  "fcff;ARABIC LIGATURE HAH WITH ;ALEF MAKSURA ISOLATED FORM;YEH ISOLATED FORM",
  "fd01;ARABIC LIGATURE JEEM WITH ;ALEF MAKSURA ISOLATED FORM;YEH ISOLATED FORM",
  "fd03;ARABIC LIGATURE KHAH WITH ;ALEF MAKSURA ISOLATED FORM;YEH ISOLATED FORM",
  "fd05;ARABIC LIGATURE SAD WITH ;ALEF MAKSURA ISOLATED FORM;YEH ISOLATED FORM",
  "fd07;ARABIC LIGATURE DAD WITH ;ALEF MAKSURA ISOLATED FORM;YEH ISOLATED FORM",
  "fd09;ARABIC LIGATURE SHEEN WITH ;JEEM ISOLATED FORM;HAH ISOLATED FORM;KHAH ISOLATED FORM",
  "fd0c;ARABIC LIGATURE SHEEN WITH ;MEEM ISOLATED FORM;REH ISOLATED FORM",
  "fd0e;ARABIC LIGATURE ;SEEN WITH REH ISOLATED FORM;SAD WITH REH ISOLATED FORM",
  "fd10;ARABIC LIGATURE ;DAD WITH REH ISOLATED FORM;TAH WITH ALEF MAKSURA FINAL FORM",
  "fd12;ARABIC LIGATURE ;TAH WITH YEH FINAL FORM;AIN WITH ALEF MAKSURA FINAL FORM",
  "fd14;ARABIC LIGATURE ;AIN WITH YEH FINAL FORM;GHAIN WITH ALEF MAKSURA FINAL FORM",
  "fd16;ARABIC LIGATURE ;GHAIN WITH YEH FINAL FORM;SEEN WITH ALEF MAKSURA FINAL FORM",
  "fd18;ARABIC LIGATURE ;SEEN WITH YEH FINAL FORM;SHEEN WITH ALEF MAKSURA FINAL FORM",
  "fd1a;ARABIC LIGATURE ;SHEEN WITH YEH FINAL FORM;HAH WITH ALEF MAKSURA FINAL FORM",
  "fd1c;ARABIC LIGATURE ;HAH WITH YEH FINAL FORM;JEEM WITH ALEF MAKSURA FINAL FORM",
  "fd1e;ARABIC LIGATURE ;JEEM WITH YEH FINAL FORM;KHAH WITH ALEF MAKSURA FINAL FORM",
  "fd20;ARABIC LIGATURE ;KHAH WITH YEH FINAL FORM;SAD WITH ALEF MAKSURA FINAL FORM",
  "fd22;ARABIC LIGATURE ;SAD WITH YEH FINAL FORM;DAD WITH ALEF MAKSURA FINAL FORM",
  "fd24;ARABIC LIGATURE ;DAD WITH YEH FINAL FORM;SHEEN WITH JEEM FINAL FORM",
  "fd26;ARABIC LIGATURE SHEEN WITH ;HAH FINAL FORM;KHAH FINAL FORM;MEEM FINAL FORM;REH FINAL FORM",
  "fd2a;ARABIC LIGATURE ;SEEN WITH REH FINAL FORM;SAD WITH REH FINAL FORM;DAD WITH REH FINAL FORM",
  "fd2d;ARABIC LIGATURE SHEEN WITH ;JEEM INITIAL FORM;HAH INITIAL FORM;KHAH INITIAL FORM",
  "fd30;ARABIC LIGATURE ;SHEEN WITH MEEM INITIAL FORM;SEEN WITH HEH INITIAL FORM",
  "fd32;ARABIC LIGATURE ;SHEEN WITH HEH INITIAL FORM;TAH WITH MEEM INITIAL FORM",
  "fd34;ARABIC LIGATURE SEEN WITH ;JEEM MEDIAL FORM;HAH MEDIAL FORM;KHAH MEDIAL FORM",
  "fd37;ARABIC LIGATURE SHEEN WITH ;JEEM MEDIAL FORM;HAH MEDIAL FORM;KHAH MEDIAL FORM",
  "fd3a;ARABIC LIGATURE ;TAH WITH MEEM MEDIAL FORM;ZAH WITH MEEM MEDIAL FORM",
  "fd3c;ARABIC LIGATURE ALEF WITH FATHATAN ;FINAL FORM;ISOLATED FORM",
  "fd3e;;ORNATE LEFT PARENTHESIS;ORNATE RIGHT PARENTHESIS;ARABIC LIGATURE RAHIMAHU ALLAAH",
  "fd41;ARABIC LIGATURE RADI ALLAAHU ;ANH;ANHAA;ANHUM;ANHUMAA;ANHUNNA",
  "fd46;ARABIC LIGATURE ;SALLALLAAHU ALAYHI WA-AALIH;ALAYHI AS-SALAAM;ALAYHIM AS-SALAAM",
  "fd49;ARABIC LIGATURE ;ALAYHIMAA AS-SALAAM;ALAYHI AS-SALAATU WAS-SALAAM;QUDDISA SIRRAH",
  "fd4c;ARABIC LIGATURE ;SALLALLAHU ALAYHI WAAALIHEE WA-SALLAM;ALAYHAA AS-SALAAM",
  "fd4e;ARABIC LIGATURE ;TABAARAKA WA-TAAALAA;RAHIMAHUM ALLAAH",
  "fd50;ARABIC LIGATURE TEH WITH ;JEEM WITH MEEM INITIAL FORM;HAH WITH JEEM FINAL FORM",
  "fd52;ARABIC LIGATURE TEH WITH HAH WITH ;JEEM INITIAL FORM;MEEM INITIAL FORM",
  "fd54;ARABIC LIGATURE TEH WITH ;KHAH WITH MEEM INITIAL FORM;MEEM WITH JEEM INITIAL FORM",
  "fd56;ARABIC LIGATURE TEH WITH MEEM WITH ;HAH INITIAL FORM;KHAH INITIAL FORM",
  "fd58;ARABIC LIGATURE JEEM WITH MEEM WITH HAH ;FINAL FORM;INITIAL FORM",
  "fd5a;ARABIC LIGATURE HAH WITH MEEM WITH ;YEH FINAL FORM;ALEF MAKSURA FINAL FORM",
  "fd5c;ARABIC LIGATURE SEEN WITH ;HAH WITH JEEM INITIAL FORM;JEEM WITH HAH INITIAL FORM",
  "fd5e;ARABIC LIGATURE SEEN WITH ;JEEM WITH ALEF MAKSURA FINAL FORM;MEEM WITH HAH FINAL FORM",
  "fd60;ARABIC LIGATURE SEEN WITH MEEM WITH ;HAH INITIAL FORM;JEEM INITIAL FORM;MEEM FINAL FORM",
  "fd63;ARABIC LIGATURE ;SEEN WITH MEEM WITH MEEM INITIAL FORM;SAD WITH HAH WITH HAH FINAL FORM",
  "fd65;ARABIC LIGATURE SAD WITH ;HAH WITH HAH INITIAL FORM;MEEM WITH MEEM FINAL FORM",
  "fd67;ARABIC LIGATURE SHEEN WITH HAH WITH MEEM ;FINAL FORM;INITIAL FORM",
  "fd69;ARABIC LIGATURE SHEEN WITH ;JEEM WITH YEH FINAL FORM;MEEM WITH KHAH FINAL FORM",
  "fd6b;ARABIC LIGATURE SHEEN WITH MEEM WITH ;KHAH INITIAL FORM;MEEM FINAL FORM;MEEM INITIAL FORM",
  "fd6e;ARABIC LIGATURE DAD WITH ;HAH WITH ALEF MAKSURA FINAL FORM;KHAH WITH MEEM FINAL FORM",
  "fd70;ARABIC LIGATURE ;DAD WITH KHAH WITH MEEM INITIAL FORM;TAH WITH MEEM WITH HAH FINAL FORM",
  "fd72;ARABIC LIGATURE TAH WITH MEEM WITH ;HAH INITIAL FORM;MEEM INITIAL FORM;YEH FINAL FORM",
  "fd75;ARABIC LIGATURE AIN WITH ;JEEM WITH MEEM FINAL FORM;MEEM WITH MEEM FINAL FORM",
  "fd77;ARABIC LIGATURE AIN WITH MEEM WITH ;MEEM INITIAL FORM;ALEF MAKSURA FINAL FORM",
  "fd79;ARABIC LIGATURE GHAIN WITH MEEM WITH ;MEEM FINAL FORM;YEH FINAL FORM",
  "fd7b;;ARABIC LIGATURE GHAIN WITH MEEM WITH ALEF MAKSURA FINAL FORM",
  "fd7c;ARABIC LIGATURE FEH WITH KHAH WITH MEEM ;FINAL FORM;INITIAL FORM",
  "fd7e;ARABIC LIGATURE QAF WITH MEEM WITH ;HAH FINAL FORM;MEEM FINAL FORM",
  "fd80;ARABIC LIGATURE LAM WITH HAH WITH ;MEEM FINAL FORM;YEH FINAL FORM;ALEF MAKSURA FINAL FORM",
  "fd83;ARABIC LIGATURE LAM WITH JEEM WITH JEEM ;INITIAL FORM;FINAL FORM",
  "fd85;ARABIC LIGATURE LAM WITH KHAH WITH MEEM ;FINAL FORM;INITIAL FORM",
  "fd87;ARABIC LIGATURE LAM WITH MEEM WITH HAH ;FINAL FORM;INITIAL FORM",
  "fd89;ARABIC LIGATURE MEEM WITH HAH WITH ;JEEM INITIAL FORM;MEEM INITIAL FORM;YEH FINAL FORM",
  "fd8c;ARABIC LIGATURE MEEM WITH JEEM WITH ;HAH INITIAL FORM;MEEM INITIAL FORM",
  "fd8e;ARABIC LIGATURE MEEM WITH KHAH WITH ;JEEM INITIAL FORM;MEEM INITIAL FORM",
  "fd92;;ARABIC LIGATURE MEEM WITH JEEM WITH KHAH INITIAL FORM",
  "fd93;ARABIC LIGATURE HEH WITH MEEM WITH ;JEEM INITIAL FORM;MEEM INITIAL FORM",
  "fd95;ARABIC LIGATURE NOON WITH HAH WITH ;MEEM INITIAL FORM;ALEF MAKSURA FINAL FORM",
  "fd97;ARABIC LIGATURE NOON WITH JEEM WITH MEEM ;FINAL FORM;INITIAL FORM",
  "fd99;ARABIC LIGATURE NOON WITH ;JEEM WITH ALEF MAKSURA FINAL FORM;MEEM WITH YEH FINAL FORM",
  "fd9b;;ARABIC LIGATURE NOON WITH MEEM WITH ALEF MAKSURA FINAL FORM",
  "fd9c;ARABIC LIGATURE YEH WITH MEEM WITH MEEM ;FINAL FORM;INITIAL FORM",
  "fd9e;ARABIC LIGATURE ;BEH WITH KHAH WITH YEH FINAL FORM;TEH WITH JEEM WITH YEH FINAL FORM",
  "fda0;ARABIC LIGATURE TEH WITH ;JEEM WITH ALEF MAKSURA FINAL FORM;KHAH WITH YEH FINAL FORM",
  "fda2;ARABIC LIGATURE TEH WITH ;KHAH WITH ALEF MAKSURA FINAL FORM;MEEM WITH YEH FINAL FORM",
  "fda4;;ARABIC LIGATURE TEH WITH MEEM WITH ALEF MAKSURA FINAL FORM",
  "fda5;ARABIC LIGATURE JEEM WITH ;MEEM WITH YEH FINAL FORM;HAH WITH ALEF MAKSURA FINAL FORM",
  "fda7;;ARABIC LIGATURE JEEM WITH MEEM WITH ALEF MAKSURA FINAL FORM",
  "fda8;;ARABIC LIGATURE SEEN WITH KHAH WITH ALEF MAKSURA FINAL FORM",
  "fda9;ARABIC LIGATURE ;SAD WITH HAH WITH YEH FINAL FORM;SHEEN WITH HAH WITH YEH FINAL FORM",
  "fdab;ARABIC LIGATURE ;DAD WITH HAH WITH YEH FINAL FORM;LAM WITH JEEM WITH YEH FINAL FORM",
  "fdad;ARABIC LIGATURE ;LAM WITH MEEM WITH YEH FINAL FORM;YEH WITH HAH WITH YEH FINAL FORM",
  "fdaf;ARABIC LIGATURE YEH WITH ;JEEM WITH YEH FINAL FORM;MEEM WITH YEH FINAL FORM",
  "fdb1;ARABIC LIGATURE ;MEEM WITH MEEM WITH YEH FINAL FORM;QAF WITH MEEM WITH YEH FINAL FORM",
  "fdb3;ARABIC LIGATURE ;NOON WITH HAH WITH YEH FINAL FORM;QAF WITH MEEM WITH HAH INITIAL FORM",
  "fdb5;ARABIC LIGATURE ;LAM WITH HAH WITH MEEM INITIAL FORM;AIN WITH MEEM WITH YEH FINAL FORM",
  "fdb7;ARABIC LIGATURE ;KAF WITH MEEM WITH YEH FINAL FORM;NOON WITH JEEM WITH HAH INITIAL FORM",
  "fdb9;ARABIC LIGATURE ;MEEM WITH KHAH WITH YEH FINAL FORM;LAM WITH JEEM WITH MEEM INITIAL FORM",
  "fdbb;ARABIC LIGATURE ;KAF WITH MEEM WITH MEEM FINAL FORM;LAM WITH JEEM WITH MEEM FINAL FORM",
  "fdbd;ARABIC LIGATURE ;NOON WITH JEEM WITH HAH FINAL FORM;JEEM WITH HAH WITH YEH FINAL FORM",
  "fdbf;ARABIC LIGATURE ;HAH WITH JEEM WITH YEH FINAL FORM;MEEM WITH JEEM WITH YEH FINAL FORM",
  "fdc1;ARABIC LIGATURE ;FEH WITH MEEM WITH YEH FINAL FORM;BEH WITH HAH WITH YEH FINAL FORM",
  "fdc3;;ARABIC LIGATURE KAF WITH MEEM WITH MEEM INITIAL FORM",
  "fdc4;;ARABIC LIGATURE AIN WITH JEEM WITH MEEM INITIAL FORM",
  "fdc5;ARABIC LIGATURE ;SAD WITH MEEM WITH MEEM INITIAL FORM;SEEN WITH KHAH WITH YEH FINAL FORM",
  "fdc7;;ARABIC LIGATURE NOON WITH JEEM WITH YEH FINAL FORM",
  "fdcf;;ARABIC LIGATURE SALAAMUHU ALAYNAA",
  "fdf0;;ARABIC LIGATURE SALLA USED AS KORANIC STOP SIGN ISOLATED FORM",
  "fdf1;ARABIC LIGATURE ;QALA USED AS KORANIC STOP SIGN ISOLATED FORM;ALLAH ISOLATED FORM",
  "fdf3;ARABIC LIGATURE ;AKBAR ISOLATED FORM;MOHAMMAD ISOLATED FORM;SALAM ISOLATED FORM",
  "fdf6;ARABIC LIGATURE ;RASOUL ISOLATED FORM;ALAYHE ISOLATED FORM;WASALLAM ISOLATED FORM",
  "fdf9;ARABIC LIGATURE ;SALLA ISOLATED FORM;SALLALLAHOU ALAYHE WASALLAM;JALLAJALALOUHOU",
  "fdfc;;RIAL SIGN;ARABIC LIGATURE BISMILLAH AR-RAHMAN AR-RAHEEM",
  "fdfe;;ARABIC LIGATURE SUBHAANAHU WA TAAALAA;ARABIC LIGATURE AZZA WA JALL;VARIATION SELECTOR-1",
  "fe01;VARIATION SELECTOR-;2;3;4;5;6;7;8;9;10;11;12;13;14;15;16",
  "fe10;PRESENTATION FORM FOR VERTICAL ;COMMA;IDEOGRAPHIC COMMA;IDEOGRAPHIC FULL STOP;COLON",
  "fe14;PRESENTATION FORM FOR VERTICAL ;SEMICOLON;EXCLAMATION MARK;QUESTION MARK",
  "fe17;;PRESENTATION FORM FOR VERTICAL LEFT WHITE LENTICULAR BRACKET",
  "fe18;PRESENTATION FORM FOR VERTICAL ;RIGHT WHITE LENTICULAR BRAKCET;HORIZONTAL ELLIPSIS",
  "fe20;COMBINING ;LIGATURE LEFT HALF;LIGATURE RIGHT HALF;DOUBLE TILDE LEFT HALF",
  "fe23;COMBINING ;DOUBLE TILDE RIGHT HALF;MACRON LEFT HALF;MACRON RIGHT HALF;CONJOINING MACRON",
  "fe27;COMBINING ;LIGATURE LEFT HALF BELOW;LIGATURE RIGHT HALF BELOW;TILDE LEFT HALF BELOW",
  "fe2a;COMBINING ;TILDE RIGHT HALF BELOW;MACRON LEFT HALF BELOW;MACRON RIGHT HALF BELOW",
  "fe2d;COMBINING ;CONJOINING MACRON BELOW;CYRILLIC TITLO LEFT HALF;CYRILLIC TITLO RIGHT HALF",
  "fe30;PRESENTATION FORM FOR VERTICAL ;TWO DOT LEADER;EM DASH;EN DASH;LOW LINE;WAVY LOW LINE",
  "fe35;PRESENTATION FORM FOR VERTICAL ;LEFT PARENTHESIS;RIGHT PARENTHESIS;LEFT CURLY BRACKET",
  "fe38;PRESENTATION FORM FOR VERTICAL ;RIGHT CURLY BRACKET;LEFT TORTOISE SHELL BRACKET",
  "fe3a;;PRESENTATION FORM FOR VERTICAL RIGHT TORTOISE SHELL BRACKET",
  "fe3b;;PRESENTATION FORM FOR VERTICAL LEFT BLACK LENTICULAR BRACKET",
  "fe3c;PRESENTATION FORM FOR VERTICAL ;RIGHT BLACK LENTICULAR BRACKET;LEFT DOUBLE ANGLE BRACKET",
  "fe3e;PRESENTATION FORM FOR VERTICAL ;RIGHT DOUBLE ANGLE BRACKET;LEFT ANGLE BRACKET",
  "fe40;PRESENTATION FORM FOR VERTICAL ;RIGHT ANGLE BRACKET;LEFT CORNER BRACKET",
  "fe42;PRESENTATION FORM FOR VERTICAL ;RIGHT CORNER BRACKET;LEFT WHITE CORNER BRACKET",
  "fe44;;PRESENTATION FORM FOR VERTICAL RIGHT WHITE CORNER BRACKET;SESAME DOT;WHITE SESAME DOT",
  "fe47;PRESENTATION FORM FOR VERTICAL ;LEFT SQUARE BRACKET;RIGHT SQUARE BRACKET",
  "fe49;;DASHED OVERLINE;CENTRELINE OVERLINE;WAVY OVERLINE;DOUBLE WAVY OVERLINE;DASHED LOW LINE",
  "fe4e;;CENTRELINE LOW LINE;WAVY LOW LINE;SMALL COMMA;SMALL IDEOGRAPHIC COMMA;SMALL FULL STOP",
  "fe54;SMALL ;SEMICOLON;COLON;QUESTION MARK;EXCLAMATION MARK;EM DASH;LEFT PARENTHESIS",
  "fe5a;SMALL ;RIGHT PARENTHESIS;LEFT CURLY BRACKET;RIGHT CURLY BRACKET",
  "fe5d;SMALL ;LEFT TORTOISE SHELL BRACKET;RIGHT TORTOISE SHELL BRACKET;NUMBER SIGN;AMPERSAND",
  "fe61;SMALL ;ASTERISK;PLUS SIGN;HYPHEN-MINUS;LESS-THAN SIGN;GREATER-THAN SIGN;EQUALS SIGN",
  "fe68;SMALL ;REVERSE SOLIDUS;DOLLAR SIGN;PERCENT SIGN;COMMERCIAL AT",
  "fe70;ARABIC ;FATHATAN ISOLATED FORM;TATWEEL WITH FATHATAN ABOVE;DAMMATAN ISOLATED FORM",
  "fe73;ARABIC ;TAIL FRAGMENT;KASRATAN ISOLATED FORM",
  "fe76;ARABIC ;FATHA ISOLATED FORM;FATHA MEDIAL FORM;DAMMA ISOLATED FORM;DAMMA MEDIAL FORM",
  "fe7a;ARABIC ;KASRA ISOLATED FORM;KASRA MEDIAL FORM;SHADDA ISOLATED FORM;SHADDA MEDIAL FORM",
  "fe7e;ARABIC ;SUKUN ISOLATED FORM;SUKUN MEDIAL FORM;LETTER HAMZA ISOLATED FORM",
  "fe81;ARABIC LETTER ALEF WITH MADDA ABOVE ;ISOLATED FORM;FINAL FORM",
  "fe83;ARABIC LETTER ALEF WITH HAMZA ABOVE ;ISOLATED FORM;FINAL FORM",
  "fe85;ARABIC LETTER WAW WITH HAMZA ABOVE ;ISOLATED FORM;FINAL FORM",
  "fe87;ARABIC LETTER ALEF WITH HAMZA BELOW ;ISOLATED FORM;FINAL FORM",
  "fe89;ARABIC LETTER YEH WITH HAMZA ABOVE ;ISOLATED FORM;FINAL FORM;INITIAL FORM;MEDIAL FORM",
  "fe8d;ARABIC LETTER ;ALEF ISOLATED FORM;ALEF FINAL FORM;BEH ISOLATED FORM;BEH FINAL FORM",
  "fe91;ARABIC LETTER ;BEH INITIAL FORM;BEH MEDIAL FORM;TEH MARBUTA ISOLATED FORM",
  "fe94;ARABIC LETTER TEH ;MARBUTA FINAL FORM;ISOLATED FORM;FINAL FORM;INITIAL FORM;MEDIAL FORM",
  "fe99;ARABIC LETTER THEH ;ISOLATED FORM;FINAL FORM;INITIAL FORM;MEDIAL FORM",
  "fe9d;ARABIC LETTER JEEM ;ISOLATED FORM;FINAL FORM;INITIAL FORM;MEDIAL FORM",
  "fea1;ARABIC LETTER HAH ;ISOLATED FORM;FINAL FORM;INITIAL FORM;MEDIAL FORM",
  "fea5;ARABIC LETTER KHAH ;ISOLATED FORM;FINAL FORM;INITIAL FORM;MEDIAL FORM",
  "fea9;ARABIC LETTER ;DAL ISOLATED FORM;DAL FINAL FORM;THAL ISOLATED FORM;THAL FINAL FORM",
  "fead;ARABIC LETTER ;REH ISOLATED FORM;REH FINAL FORM;ZAIN ISOLATED FORM;ZAIN FINAL FORM",
  "feb1;ARABIC LETTER SEEN ;ISOLATED FORM;FINAL FORM;INITIAL FORM;MEDIAL FORM",
  "feb5;ARABIC LETTER SHEEN ;ISOLATED FORM;FINAL FORM;INITIAL FORM;MEDIAL FORM",
  "feb9;ARABIC LETTER SAD ;ISOLATED FORM;FINAL FORM;INITIAL FORM;MEDIAL FORM",
  "febd;ARABIC LETTER DAD ;ISOLATED FORM;FINAL FORM;INITIAL FORM;MEDIAL FORM",
  "fec1;ARABIC LETTER TAH ;ISOLATED FORM;FINAL FORM;INITIAL FORM;MEDIAL FORM",
  "fec5;ARABIC LETTER ZAH ;ISOLATED FORM;FINAL FORM;INITIAL FORM;MEDIAL FORM",
  "fec9;ARABIC LETTER AIN ;ISOLATED FORM;FINAL FORM;INITIAL FORM;MEDIAL FORM",
  "fecd;ARABIC LETTER GHAIN ;ISOLATED FORM;FINAL FORM;INITIAL FORM;MEDIAL FORM",
  "fed1;ARABIC LETTER FEH ;ISOLATED FORM;FINAL FORM;INITIAL FORM;MEDIAL FORM",
  "fed5;ARABIC LETTER QAF ;ISOLATED FORM;FINAL FORM;INITIAL FORM;MEDIAL FORM",
  "fed9;ARABIC LETTER KAF ;ISOLATED FORM;FINAL FORM;INITIAL FORM;MEDIAL FORM",
  "fedd;ARABIC LETTER LAM ;ISOLATED FORM;FINAL FORM;INITIAL FORM;MEDIAL FORM",
  "fee1;ARABIC LETTER MEEM ;ISOLATED FORM;FINAL FORM;INITIAL FORM;MEDIAL FORM",
  "fee5;ARABIC LETTER NOON ;ISOLATED FORM;FINAL FORM;INITIAL FORM;MEDIAL FORM",
  "fee9;ARABIC LETTER HEH ;ISOLATED FORM;FINAL FORM;INITIAL FORM;MEDIAL FORM",
  "feed;ARABIC LETTER ;WAW ISOLATED FORM;WAW FINAL FORM;ALEF MAKSURA ISOLATED FORM",
  "fef0;ARABIC LETTER ;ALEF MAKSURA FINAL FORM;YEH ISOLATED FORM;YEH FINAL FORM;YEH INITIAL FORM",
  "fef4;ARABIC ;LETTER YEH MEDIAL FORM;LIGATURE LAM WITH ALEF WITH MADDA ABOVE ISOLATED FORM",
  "fef6;ARABIC LIGATURE LAM WITH ALEF WITH ;MADDA ABOVE FINAL FORM;HAMZA ABOVE ISOLATED FORM",
  "fef8;ARABIC LIGATURE LAM WITH ALEF WITH HAMZA ;ABOVE FINAL FORM;BELOW ISOLATED FORM",
  "fefa;ARABIC LIGATURE LAM WITH ALEF ;WITH HAMZA BELOW FINAL FORM;ISOLATED FORM;FINAL FORM",
  "feff;;ZERO WIDTH NO-BREAK SPACE",
  "ff01;FULLWIDTH ;EXCLAMATION MARK;QUOTATION MARK;NUMBER SIGN;DOLLAR SIGN;PERCENT SIGN;AMPERSAND",
  "ff07;FULLWIDTH ;APOSTROPHE;LEFT PARENTHESIS;RIGHT PARENTHESIS;ASTERISK;PLUS SIGN;COMMA",
  "ff0d;FULLWIDTH ;HYPHEN-MINUS;FULL STOP;SOLIDUS;DIGIT ZERO;DIGIT ONE;DIGIT TWO;DIGIT THREE",
  "ff14;FULLWIDTH ;DIGIT FOUR;DIGIT FIVE;DIGIT SIX;DIGIT SEVEN;DIGIT EIGHT;DIGIT NINE;COLON",
  "ff1b;FULLWIDTH ;SEMICOLON;LESS-THAN SIGN;EQUALS SIGN;GREATER-THAN SIGN;QUESTION MARK",
  "ff20;FULLWIDTH ;COMMERCIAL AT;LATIN CAPITAL LETTER A;LATIN CAPITAL LETTER B",
  "ff23;FULLWIDTH LATIN CAPITAL LETTER ;C;D;E;F;G;H;I;J;K;L;M;N;O;P;Q;R;S;T;U;V;W;X;Y;Z",
  "ff3b;FULLWIDTH ;LEFT SQUARE BRACKET;REVERSE SOLIDUS;RIGHT SQUARE BRACKET;CIRCUMFLEX ACCENT",
  "ff3f;FULLWIDTH ;LOW LINE;GRAVE ACCENT;LATIN SMALL LETTER A;LATIN SMALL LETTER B",
  "ff43;FULLWIDTH LATIN SMALL LETTER ;C;D;E;F;G;H;I;J;K;L;M;N;O;P;Q;R;S;T;U;V;W;X;Y;Z",
  "ff5b;FULLWIDTH ;LEFT CURLY BRACKET;VERTICAL LINE;RIGHT CURLY BRACKET;TILDE",
  "ff5f;FULLWIDTH ;LEFT WHITE PARENTHESIS;RIGHT WHITE PARENTHESIS",
  "ff61;HALFWIDTH ;IDEOGRAPHIC FULL STOP;LEFT CORNER BRACKET;RIGHT CORNER BRACKET",
  "ff64;HALFWIDTH ;IDEOGRAPHIC COMMA;KATAKANA MIDDLE DOT;KATAKANA LETTER WO",
  "ff67;HALFWIDTH KATAKANA LETTER SMALL ;A;I;U;E;O;YA;YU;YO;TU",
  "ff70;HALFWIDTH ;KATAKANA-HIRAGANA PROLONGED SOUND MARK;KATAKANA LETTER A;KATAKANA LETTER I",
  "ff73;HALFWIDTH KATAKANA LETTER ;U;E;O;KA;KI;KU;KE;KO;SA;SI;SU;SE;SO;TA;TI;TU;TE;TO;NA;NI;NU;NE",
  "ff89;HALFWIDTH KATAKANA LETTER ;NO;HA;HI;HU;HE;HO;MA;MI;MU;ME;MO;YA;YU;YO;RA;RI;RU;RE;RO;WA;N",
  "ff9e;HALFWIDTH ;KATAKANA VOICED SOUND MARK;KATAKANA SEMI-VOICED SOUND MARK;HANGUL FILLER",
  "ffa1;HALFWIDTH HANGUL LETTER ;KIYEOK;SSANGKIYEOK;KIYEOK-SIOS;NIEUN;NIEUN-CIEUC;NIEUN-HIEUH",
  "ffa7;HALFWIDTH HANGUL LETTER ;TIKEUT;SSANGTIKEUT;RIEUL;RIEUL-KIYEOK;RIEUL-MIEUM;RIEUL-PIEUP",
  "ffad;HALFWIDTH HANGUL LETTER ;RIEUL-SIOS;RIEUL-THIEUTH;RIEUL-PHIEUPH;RIEUL-HIEUH;MIEUM;PIEUP",
  "ffb3;HALFWIDTH HANGUL LETTER ;SSANGPIEUP;PIEUP-SIOS;SIOS;SSANGSIOS;IEUNG;CIEUC;SSANGCIEUC",
  "ffba;HALFWIDTH HANGUL LETTER ;CHIEUCH;KHIEUKH;THIEUTH;PHIEUPH;HIEUH",
  "ffc2;HALFWIDTH HANGUL LETTER ;A;AE;YA;YAE;EO;E",
  "ffca;HALFWIDTH HANGUL LETTER ;YEO;YE;O;WA;WAE;OE",
  "ffd2;HALFWIDTH HANGUL LETTER ;YO;U;WEO;WE;WI;YU",
  "ffda;HALFWIDTH HANGUL LETTER ;EU;YI;I",
  "ffe0;FULLWIDTH ;CENT SIGN;POUND SIGN;NOT SIGN;MACRON;BROKEN BAR;YEN SIGN;WON SIGN",
  "ffe8;HALFWIDTH ;FORMS LIGHT VERTICAL;LEFTWARDS ARROW;UPWARDS ARROW;RIGHTWARDS ARROW",
  "ffec;HALFWIDTH ;DOWNWARDS ARROW;BLACK SQUARE;WHITE CIRCLE",
  "fff9;INTERLINEAR ANNOTATION ;ANCHOR;SEPARATOR;TERMINATOR",
  "fffc;;OBJECT REPLACEMENT CHARACTER;REPLACEMENT CHARACTER"]

end FoldTree.Text
