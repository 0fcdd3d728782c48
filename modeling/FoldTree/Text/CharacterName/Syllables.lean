/-! Names of characters from Myanmar to the Greek letters with two marks. Many of the scripts between
them write syllables.
-/

namespace FoldTree.Text

/-- The names of characters from Myanmar to extended Greek. -/
def syllableLines : List String := [
  "1000;MYANMAR LETTER ;KA;KHA;GA;GHA;NGA;CA;CHA;JA;JHA;NYA;NNYA;TTA;TTHA;DDA;DDHA;NNA;TA;THA;DA",
  "1013;MYANMAR LETTER ;DHA;NA;PA;PHA;BA;BHA;MA;YA;RA;LA;WA;SA;HA;LLA;A;SHAN A;I;II;U;UU;E;MON E",
  "1029;MYANMAR ;LETTER O;LETTER AU;VOWEL SIGN TALL AA;VOWEL SIGN AA;VOWEL SIGN I;VOWEL SIGN II",
  "102f;MYANMAR VOWEL SIGN ;U;UU;E;AI;MON II;MON O;E ABOVE",
  "1036;MYANMAR SIGN ;ANUSVARA;DOT BELOW;VISARGA;VIRAMA;ASAT",
  "103b;MYANMAR CONSONANT SIGN MEDIAL ;YA;RA;WA;HA",
  "103f;MYANMAR ;LETTER GREAT SA;DIGIT ZERO;DIGIT ONE;DIGIT TWO;DIGIT THREE;DIGIT FOUR;DIGIT FIVE",
  "1046;MYANMAR ;DIGIT SIX;DIGIT SEVEN;DIGIT EIGHT;DIGIT NINE;SIGN LITTLE SECTION;SIGN SECTION",
  "104c;MYANMAR SYMBOL ;LOCATIVE;COMPLETED;AFOREMENTIONED;GENITIVE",
  "1050;MYANMAR LETTER ;SHA;SSA;VOCALIC R;VOCALIC RR;VOCALIC L;VOCALIC LL",
  "1056;MYANMAR VOWEL SIGN VOCALIC ;R;RR;L;LL",
  "105a;MYANMAR LETTER MON ;NGA;JHA;BBA;BBE",
  "105e;MYANMAR CONSONANT SIGN MON MEDIAL ;NA;MA;LA",
  "1061;MYANMAR ;LETTER SGAW KAREN SHA;VOWEL SIGN SGAW KAREN EU;TONE MARK SGAW KAREN HATHI",
  "1064;MYANMAR ;TONE MARK SGAW KAREN KE PHO;LETTER WESTERN PWO KAREN THA",
  "1066;MYANMAR ;LETTER WESTERN PWO KAREN PWA;VOWEL SIGN WESTERN PWO KAREN EU",
  "1068;MYANMAR ;VOWEL SIGN WESTERN PWO KAREN UE;SIGN WESTERN PWO KAREN TONE-1",
  "106a;MYANMAR SIGN WESTERN PWO KAREN TONE-;2;3;4;5",
  "106e;MYANMAR LETTER EASTERN PWO KAREN ;NNA;YWA;GHWA",
  "1071;MYANMAR VOWEL SIGN ;GEBA KAREN I;KAYAH OE;KAYAH U;KAYAH EE",
  "1075;MYANMAR LETTER SHAN ;KA;KHA;GA;CA;ZA;NYA;DA;NA;PHA;FA;BA;THA;HA",
  "1082;MYANMAR ;CONSONANT SIGN SHAN MEDIAL WA;VOWEL SIGN SHAN AA;VOWEL SIGN SHAN E",
  "1085;MYANMAR ;VOWEL SIGN SHAN E ABOVE;VOWEL SIGN SHAN FINAL Y;SIGN SHAN TONE-2",
  "1088;MYANMAR SIGN SHAN ;TONE-3;TONE-5;TONE-6;COUNCIL TONE-2;COUNCIL TONE-3",
  "108d;MYANMAR ;SIGN SHAN COUNCIL EMPHATIC TONE;LETTER RUMAI PALAUNG FA",
  "108f;MYANMAR ;SIGN RUMAI PALAUNG TONE-5;SHAN DIGIT ZERO;SHAN DIGIT ONE;SHAN DIGIT TWO",
  "1093;MYANMAR SHAN DIGIT ;THREE;FOUR;FIVE;SIX;SEVEN;EIGHT;NINE",
  "109a;MYANMAR ;SIGN KHAMTI TONE-1;SIGN KHAMTI TONE-3;VOWEL SIGN AITON A;VOWEL SIGN AITON AI",
  "109e;;MYANMAR SYMBOL SHAN ONE;MYANMAR SYMBOL SHAN EXCLAMATION;GEORGIAN CAPITAL LETTER AN",
  "10a1;GEORGIAN CAPITAL LETTER ;BAN;GAN;DON;EN;VIN;ZEN;TAN;IN;KAN;LAS;MAN;NAR;ON;PAR;ZHAR;RAE",
  "10b1;GEORGIAN CAPITAL LETTER ;SAN;TAR;UN;PHAR;KHAR;GHAN;QAR;SHIN;CHIN;CAN;JIL;CIL;CHAR;XAN",
  "10bf;GEORGIAN CAPITAL LETTER ;JHAN;HAE;HE;HIE;WE;HAR;HOE",
  "10c7;;GEORGIAN CAPITAL LETTER YN",
  "10cd;;GEORGIAN CAPITAL LETTER AEN",
  "10d0;GEORGIAN LETTER ;AN;BAN;GAN;DON;EN;VIN;ZEN;TAN;IN;KAN;LAS;MAN;NAR;ON;PAR;ZHAR;RAE;SAN;TAR",
  "10e3;GEORGIAN LETTER ;UN;PHAR;KHAR;GHAN;QAR;SHIN;CHIN;CAN;JIL;CIL;CHAR;XAN;JHAN;HAE;HE;HIE;WE",
  "10f4;GEORGIAN LETTER ;HAR;HOE;FI;YN;ELIFI;TURNED GAN;AIN",
  "10fb;;GEORGIAN PARAGRAPH SEPARATOR;MODIFIER LETTER GEORGIAN NAR;GEORGIAN LETTER AEN",
  "10fe;;GEORGIAN LETTER HARD SIGN;GEORGIAN LETTER LABIAL SIGN;HANGUL CHOSEONG KIYEOK",
  "1101;HANGUL CHOSEONG ;SSANGKIYEOK;NIEUN;TIKEUT;SSANGTIKEUT;RIEUL;MIEUM;PIEUP;SSANGPIEUP;SIOS",
  "110a;HANGUL CHOSEONG ;SSANGSIOS;IEUNG;CIEUC;SSANGCIEUC;CHIEUCH;KHIEUKH;THIEUTH;PHIEUPH;HIEUH",
  "1113;HANGUL CHOSEONG ;NIEUN-KIYEOK;SSANGNIEUN;NIEUN-TIKEUT;NIEUN-PIEUP;TIKEUT-KIYEOK",
  "1118;HANGUL CHOSEONG ;RIEUL-NIEUN;SSANGRIEUL;RIEUL-HIEUH;KAPYEOUNRIEUL;MIEUM-PIEUP",
  "111d;HANGUL CHOSEONG ;KAPYEOUNMIEUM;PIEUP-KIYEOK;PIEUP-NIEUN;PIEUP-TIKEUT;PIEUP-SIOS",
  "1122;HANGUL CHOSEONG PIEUP-;SIOS-KIYEOK;SIOS-TIKEUT;SIOS-PIEUP;SSANGSIOS;SIOS-CIEUC;CIEUC",
  "1128;HANGUL CHOSEONG ;PIEUP-CHIEUCH;PIEUP-THIEUTH;PIEUP-PHIEUPH;KAPYEOUNPIEUP",
  "112c;HANGUL CHOSEONG ;KAPYEOUNSSANGPIEUP;SIOS-KIYEOK;SIOS-NIEUN;SIOS-TIKEUT;SIOS-RIEUL",
  "1131;HANGUL CHOSEONG SIOS-;MIEUM;PIEUP;PIEUP-KIYEOK;SSANGSIOS;IEUNG;CIEUC;CHIEUCH;KHIEUKH",
  "1139;HANGUL CHOSEONG ;SIOS-THIEUTH;SIOS-PHIEUPH;SIOS-HIEUH;CHITUEUMSIOS;CHITUEUMSSANGSIOS",
  "113e;HANGUL CHOSEONG ;CEONGCHIEUMSIOS;CEONGCHIEUMSSANGSIOS;PANSIOS;IEUNG-KIYEOK;IEUNG-TIKEUT",
  "1143;HANGUL CHOSEONG ;IEUNG-MIEUM;IEUNG-PIEUP;IEUNG-SIOS;IEUNG-PANSIOS;SSANGIEUNG;IEUNG-CIEUC",
  "1149;HANGUL CHOSEONG ;IEUNG-CHIEUCH;IEUNG-THIEUTH;IEUNG-PHIEUPH;YESIEUNG;CIEUC-IEUNG",
  "114e;HANGUL CHOSEONG ;CHITUEUMCIEUC;CHITUEUMSSANGCIEUC;CEONGCHIEUMCIEUC;CEONGCHIEUMSSANGCIEUC",
  "1152;HANGUL CHOSEONG ;CHIEUCH-KHIEUKH;CHIEUCH-HIEUH;CHITUEUMCHIEUCH;CEONGCHIEUMCHIEUCH",
  "1156;HANGUL CHOSEONG ;PHIEUPH-PIEUP;KAPYEOUNPHIEUPH;SSANGHIEUH;YEORINHIEUH;KIYEOK-TIKEUT",
  "115b;HANGUL CHOSEONG ;NIEUN-SIOS;NIEUN-CIEUC;NIEUN-HIEUH;TIKEUT-RIEUL;FILLER",
  "1160;HANGUL JUNGSEONG ;FILLER;A;AE;YA;YAE;EO;E;YEO;YE;O;WA;WAE;OE;YO;U;WEO;WE;WI;YU;EU;YI;I",
  "1176;HANGUL JUNGSEONG ;A-O;A-U;YA-O;YA-YO;EO-O;EO-U;EO-EU;YEO-O;YEO-U;O-EO;O-E;O-YE;O-O;O-U",
  "1184;HANGUL JUNGSEONG ;YO-YA;YO-YAE;YO-YEO;YO-O;YO-I;U-A;U-AE;U-EO-EU;U-YE;U-U;YU-A;YU-EO;YU-E",
  "1191;HANGUL JUNGSEONG ;YU-YEO;YU-YE;YU-U;YU-I;EU-U;EU-EU;YI-U;I-A;I-YA;I-O;I-U;I-EU;I-ARAEA",
  "119e;HANGUL JUNGSEONG ;ARAEA;ARAEA-EO;ARAEA-U;ARAEA-I;SSANGARAEA;A-EU;YA-U;YEO-YA;O-YA;O-YAE",
  "11a8;HANGUL JONGSEONG ;KIYEOK;SSANGKIYEOK;KIYEOK-SIOS;NIEUN;NIEUN-CIEUC;NIEUN-HIEUH;TIKEUT",
  "11af;HANGUL JONGSEONG ;RIEUL;RIEUL-KIYEOK;RIEUL-MIEUM;RIEUL-PIEUP;RIEUL-SIOS;RIEUL-THIEUTH",
  "11b5;HANGUL JONGSEONG ;RIEUL-PHIEUPH;RIEUL-HIEUH;MIEUM;PIEUP;PIEUP-SIOS;SIOS;SSANGSIOS;IEUNG",
  "11bd;HANGUL JONGSEONG ;CIEUC;CHIEUCH;KHIEUKH;THIEUTH;PHIEUPH;HIEUH;KIYEOK-RIEUL",
  "11c4;HANGUL JONGSEONG ;KIYEOK-SIOS-KIYEOK;NIEUN-KIYEOK;NIEUN-TIKEUT;NIEUN-SIOS;NIEUN-PANSIOS",
  "11c9;HANGUL JONGSEONG ;NIEUN-THIEUTH;TIKEUT-KIYEOK;TIKEUT-RIEUL;RIEUL-KIYEOK-SIOS;RIEUL-NIEUN",
  "11ce;HANGUL JONGSEONG ;RIEUL-TIKEUT;RIEUL-TIKEUT-HIEUH;SSANGRIEUL;RIEUL-MIEUM-KIYEOK",
  "11d2;HANGUL JONGSEONG RIEUL-;MIEUM-SIOS;PIEUP-SIOS;PIEUP-HIEUH;KAPYEOUNPIEUP;SSANGSIOS;PANSIOS",
  "11d8;HANGUL JONGSEONG ;RIEUL-KHIEUKH;RIEUL-YEORINHIEUH;MIEUM-KIYEOK;MIEUM-RIEUL;MIEUM-PIEUP",
  "11dd;HANGUL JONGSEONG MIEUM-;SIOS;SSANGSIOS;PANSIOS;CHIEUCH;HIEUH",
  "11e2;HANGUL JONGSEONG ;KAPYEOUNMIEUM;PIEUP-RIEUL;PIEUP-PHIEUPH;PIEUP-HIEUH;KAPYEOUNPIEUP",
  "11e7;HANGUL JONGSEONG ;SIOS-KIYEOK;SIOS-TIKEUT;SIOS-RIEUL;SIOS-PIEUP;PANSIOS;IEUNG-KIYEOK",
  "11ed;HANGUL JONGSEONG ;IEUNG-SSANGKIYEOK;SSANGIEUNG;IEUNG-KHIEUKH;YESIEUNG;YESIEUNG-SIOS",
  "11f2;HANGUL JONGSEONG ;YESIEUNG-PANSIOS;PHIEUPH-PIEUP;KAPYEOUNPHIEUPH;HIEUH-NIEUN;HIEUH-RIEUL",
  "11f7;HANGUL JONGSEONG ;HIEUH-MIEUM;HIEUH-PIEUP;YEORINHIEUH;KIYEOK-NIEUN;KIYEOK-PIEUP",
  "11fc;HANGUL JONGSEONG ;KIYEOK-CHIEUCH;KIYEOK-KHIEUKH;KIYEOK-HIEUH;SSANGNIEUN",
  "1200;ETHIOPIC SYLLABLE ;HA;HU;HI;HAA;HEE;HE;HO;HOA;LA;LU;LI;LAA;LEE;LE;LO;LWA;HHA;HHU;HHI;HHAA",
  "1214;ETHIOPIC SYLLABLE ;HHEE;HHE;HHO;HHWA;MA;MU;MI;MAA;MEE;ME;MO;MWA;SZA;SZU;SZI;SZAA;SZEE;SZE",
  "1226;ETHIOPIC SYLLABLE ;SZO;SZWA;RA;RU;RI;RAA;REE;RE;RO;RWA;SA;SU;SI;SAA;SEE;SE;SO;SWA;SHA;SHU",
  "123a;ETHIOPIC SYLLABLE ;SHI;SHAA;SHEE;SHE;SHO;SHWA;QA;QU;QI;QAA;QEE;QE;QO;QOA;QWA",
  "124a;ETHIOPIC SYLLABLE ;QWI;QWAA;QWEE;QWE",
  "1250;ETHIOPIC SYLLABLE ;QHA;QHU;QHI;QHAA;QHEE;QHE;QHO",
  "1258;;ETHIOPIC SYLLABLE QHWA",
  "125a;ETHIOPIC SYLLABLE ;QHWI;QHWAA;QHWEE;QHWE",
  "1260;ETHIOPIC SYLLABLE ;BA;BU;BI;BAA;BEE;BE;BO;BWA;VA;VU;VI;VAA;VEE;VE;VO;VWA;TA;TU;TI;TAA;TEE",
  "1275;ETHIOPIC SYLLABLE ;TE;TO;TWA;CA;CU;CI;CAA;CEE;CE;CO;CWA;XA;XU;XI;XAA;XEE;XE;XO;XOA;XWA",
  "128a;ETHIOPIC SYLLABLE ;XWI;XWAA;XWEE;XWE",
  "1290;ETHIOPIC SYLLABLE ;NA;NU;NI;NAA;NEE;NE;NO;NWA;NYA;NYU;NYI;NYAA;NYEE;NYE;NYO;NYWA",
  "12a0;ETHIOPIC SYLLABLE GLOTTAL ;A;U;I;AA;EE;E;O;WA",
  "12a8;ETHIOPIC SYLLABLE ;KA;KU;KI;KAA;KEE;KE;KO;KOA;KWA",
  "12b2;ETHIOPIC SYLLABLE ;KWI;KWAA;KWEE;KWE",
  "12b8;ETHIOPIC SYLLABLE ;KXA;KXU;KXI;KXAA;KXEE;KXE;KXO",
  "12c0;;ETHIOPIC SYLLABLE KXWA",
  "12c2;ETHIOPIC SYLLABLE ;KXWI;KXWAA;KXWEE;KXWE",
  "12c8;ETHIOPIC SYLLABLE ;WA;WU;WI;WAA;WEE;WE;WO;WOA;PHARYNGEAL A;PHARYNGEAL U;PHARYNGEAL I",
  "12d3;ETHIOPIC SYLLABLE PHARYNGEAL ;AA;EE;E;O",
  "12d8;ETHIOPIC SYLLABLE ;ZA;ZU;ZI;ZAA;ZEE;ZE;ZO;ZWA;ZHA;ZHU;ZHI;ZHAA;ZHEE;ZHE;ZHO;ZHWA;YA;YU;YI",
  "12eb;ETHIOPIC SYLLABLE ;YAA;YEE;YE;YO;YOA;DA;DU;DI;DAA;DEE;DE;DO;DWA;DDA;DDU;DDI;DDAA;DDEE;DDE",
  "12fe;ETHIOPIC SYLLABLE ;DDO;DDWA;JA;JU;JI;JAA;JEE;JE;JO;JWA;GA;GU;GI;GAA;GEE;GE;GO;GOA;GWA",
  "1312;ETHIOPIC SYLLABLE ;GWI;GWAA;GWEE;GWE",
  "1318;ETHIOPIC SYLLABLE ;GGA;GGU;GGI;GGAA;GGEE;GGE;GGO;GGWAA;THA;THU;THI;THAA;THEE;THE;THO;THWA",
  "1328;ETHIOPIC SYLLABLE ;CHA;CHU;CHI;CHAA;CHEE;CHE;CHO;CHWA;PHA;PHU;PHI;PHAA;PHEE;PHE;PHO;PHWA",
  "1338;ETHIOPIC SYLLABLE ;TSA;TSU;TSI;TSAA;TSEE;TSE;TSO;TSWA;TZA;TZU;TZI;TZAA;TZEE;TZE;TZO;TZOA",
  "1348;ETHIOPIC SYLLABLE ;FA;FU;FI;FAA;FEE;FE;FO;FWA;PA;PU;PI;PAA;PEE;PE;PO;PWA;RYA;MYA;FYA",
  "135d;ETHIOPIC COMBINING ;GEMINATION AND VOWEL LENGTH MARK;VOWEL LENGTH MARK;GEMINATION MARK",
  "1360;ETHIOPIC ;SECTION MARK;WORDSPACE;FULL STOP;COMMA;SEMICOLON;COLON;PREFACE COLON",
  "1367;ETHIOPIC ;QUESTION MARK;PARAGRAPH SEPARATOR;DIGIT ONE;DIGIT TWO;DIGIT THREE;DIGIT FOUR",
  "136d;ETHIOPIC ;DIGIT FIVE;DIGIT SIX;DIGIT SEVEN;DIGIT EIGHT;DIGIT NINE;NUMBER TEN",
  "1373;ETHIOPIC NUMBER ;TWENTY;THIRTY;FORTY;FIFTY;SIXTY;SEVENTY;EIGHTY;NINETY;HUNDRED",
  "137c;;ETHIOPIC NUMBER TEN THOUSAND",
  "1380;ETHIOPIC SYLLABLE ;SEBATBEIT MWA;MWI;MWEE;MWE;SEBATBEIT BWA;BWI;BWEE;BWE;SEBATBEIT FWA",
  "1389;ETHIOPIC SYLLABLE ;FWI;FWEE;FWE;SEBATBEIT PWA;PWI;PWEE;PWE",
  "1390;ETHIOPIC TONAL MARK ;YIZET;DERET;RIKRIK;SHORT RIKRIK;DIFAT;KENAT;CHIRET;HIDET;DERET-HIDET",
  "1399;;ETHIOPIC TONAL MARK KURT",
  "13a0;CHEROKEE LETTER ;A;E;I;O;U;V;GA;KA;GE;GI;GO;GU;GV;HA;HE;HI;HO;HU;HV;LA;LE;LI;LO;LU;LV;MA",
  "13ba;CHEROKEE LETTER ;ME;MI;MO;MU;NA;HNA;NAH;NE;NI;NO;NU;NV;QUA;QUE;QUI;QUO;QUU;QUV;SA;S;SE;SI",
  "13d0;CHEROKEE LETTER ;SO;SU;SV;DA;TA;DE;TE;DI;TI;DO;DU;DV;DLA;TLA;TLE;TLI;TLO;TLU;TLV;TSA;TSE",
  "13e5;CHEROKEE LETTER ;TSI;TSO;TSU;TSV;WA;WE;WI;WO;WU;WV;YA;YE;YI;YO;YU;YV;MV",
  "13f8;CHEROKEE SMALL LETTER ;YE;YI;YO;YU;YV;MV",
  "1400;CANADIAN SYLLABICS ;HYPHEN;E;AAI;I;II;O;OO;Y-CREE OO;CARRIER EE;CARRIER I;A;AA;WE",
  "140d;CANADIAN SYLLABICS ;WEST-CREE WE;WI;WEST-CREE WI;WII;WEST-CREE WII;WO;WEST-CREE WO;WOO",
  "1415;CANADIAN SYLLABICS ;WEST-CREE WOO;NASKAPI WOO;WA;WEST-CREE WA;WAA;WEST-CREE WAA",
  "141b;CANADIAN SYLLABICS ;NASKAPI WAA;AI;Y-CREE W;GLOTTAL STOP;FINAL ACUTE;FINAL GRAVE",
  "1421;CANADIAN SYLLABICS FINAL ;BOTTOM HALF RING;TOP HALF RING;RIGHT HALF RING;RING",
  "1425;CANADIAN SYLLABICS FINAL ;DOUBLE ACUTE;DOUBLE SHORT VERTICAL STROKES;MIDDLE DOT",
  "1428;CANADIAN SYLLABICS ;FINAL SHORT HORIZONTAL STROKE;FINAL PLUS;FINAL DOWN TACK;EN;IN;ON;AN",
  "142f;CANADIAN SYLLABICS ;PE;PAAI;PI;PII;PO;POO;Y-CREE POO;CARRIER HEE;CARRIER HI;PA;PAA;PWE",
  "143b;CANADIAN SYLLABICS ;WEST-CREE PWE;PWI;WEST-CREE PWI;PWII;WEST-CREE PWII;PWO;WEST-CREE PWO",
  "1442;CANADIAN SYLLABICS ;PWOO;WEST-CREE PWOO;PWA;WEST-CREE PWA;PWAA;WEST-CREE PWAA;Y-CREE PWAA",
  "1449;CANADIAN SYLLABICS ;P;WEST-CREE P;CARRIER H;TE;TAAI;TI;TII;TO;TOO;Y-CREE TOO;CARRIER DEE",
  "1454;CANADIAN SYLLABICS ;CARRIER DI;TA;TAA;TWE;WEST-CREE TWE;TWI;WEST-CREE TWI;TWII",
  "145c;CANADIAN SYLLABICS ;WEST-CREE TWII;TWO;WEST-CREE TWO;TWOO;WEST-CREE TWOO;TWA",
  "1462;CANADIAN SYLLABICS ;WEST-CREE TWA;TWAA;WEST-CREE TWAA;NASKAPI TWAA;T;TTE;TTI;TTO;TTA;KE",
  "146c;CANADIAN SYLLABICS ;KAAI;KI;KII;KO;KOO;Y-CREE KOO;KA;KAA;KWE;WEST-CREE KWE;KWI",
  "1477;CANADIAN SYLLABICS ;WEST-CREE KWI;KWII;WEST-CREE KWII;KWO;WEST-CREE KWO;KWOO",
  "147d;CANADIAN SYLLABICS ;WEST-CREE KWOO;KWA;WEST-CREE KWA;KWAA;WEST-CREE KWAA;NASKAPI KWAA;K",
  "1484;CANADIAN SYLLABICS ;KW;SOUTH-SLAVEY KEH;SOUTH-SLAVEY KIH;SOUTH-SLAVEY KOH",
  "1488;CANADIAN SYLLABICS ;SOUTH-SLAVEY KAH;CE;CAAI;CI;CII;CO;COO;Y-CREE COO;CA;CAA;CWE",
  "1493;CANADIAN SYLLABICS ;WEST-CREE CWE;CWI;WEST-CREE CWI;CWII;WEST-CREE CWII;CWO;WEST-CREE CWO",
  "149a;CANADIAN SYLLABICS ;CWOO;WEST-CREE CWOO;CWA;WEST-CREE CWA;CWAA;WEST-CREE CWAA",
  "14a0;CANADIAN SYLLABICS ;NASKAPI CWAA;C;SAYISI TH;ME;MAAI;MI;MII;MO;MOO;Y-CREE MOO;MA;MAA;MWE",
  "14ad;CANADIAN SYLLABICS ;WEST-CREE MWE;MWI;WEST-CREE MWI;MWII;WEST-CREE MWII;MWO;WEST-CREE MWO",
  "14b4;CANADIAN SYLLABICS ;MWOO;WEST-CREE MWOO;MWA;WEST-CREE MWA;MWAA;WEST-CREE MWAA",
  "14ba;CANADIAN SYLLABICS ;NASKAPI MWAA;M;WEST-CREE M;MH;ATHAPASCAN M;SAYISI M;NE;NAAI;NI;NII;NO",
  "14c5;CANADIAN SYLLABICS ;NOO;Y-CREE NOO;NA;NAA;NWE;WEST-CREE NWE;NWA;WEST-CREE NWA;NWAA",
  "14ce;CANADIAN SYLLABICS ;WEST-CREE NWAA;NASKAPI NWAA;N;CARRIER NG;NH;LE;LAAI;LI;LII;LO;LOO",
  "14d9;CANADIAN SYLLABICS ;Y-CREE LOO;LA;LAA;LWE;WEST-CREE LWE;LWI;WEST-CREE LWI;LWII",
  "14e1;CANADIAN SYLLABICS ;WEST-CREE LWII;LWO;WEST-CREE LWO;LWOO;WEST-CREE LWOO;LWA",
  "14e7;CANADIAN SYLLABICS ;WEST-CREE LWA;LWAA;WEST-CREE LWAA;L;WEST-CREE L;MEDIAL L;SE;SAAI;SI",
  "14f0;CANADIAN SYLLABICS ;SII;SO;SOO;Y-CREE SOO;SA;SAA;SWE;WEST-CREE SWE;SWI;WEST-CREE SWI;SWII",
  "14fb;CANADIAN SYLLABICS ;WEST-CREE SWII;SWO;WEST-CREE SWO;SWOO;WEST-CREE SWOO;SWA",
  "1501;CANADIAN SYLLABICS ;WEST-CREE SWA;SWAA;WEST-CREE SWAA;NASKAPI SWAA;S;ATHAPASCAN S;SW",
  "1508;CANADIAN SYLLABICS ;BLACKFOOT S;MOOSE-CREE SK;NASKAPI SKW;NASKAPI S-W;NASKAPI SPWA",
  "150d;CANADIAN SYLLABICS ;NASKAPI STWA;NASKAPI SKWA;NASKAPI SCWA;SHE;SHI;SHII;SHO;SHOO;SHA;SHAA",
  "1517;CANADIAN SYLLABICS ;SHWE;WEST-CREE SHWE;SHWI;WEST-CREE SHWI;SHWII;WEST-CREE SHWII;SHWO",
  "151e;CANADIAN SYLLABICS ;WEST-CREE SHWO;SHWOO;WEST-CREE SHWOO;SHWA;WEST-CREE SHWA;SHWAA",
  "1524;CANADIAN SYLLABICS ;WEST-CREE SHWAA;SH;YE;YAAI;YI;YII;YO;YOO;Y-CREE YOO;YA;YAA;YWE",
  "1530;CANADIAN SYLLABICS ;WEST-CREE YWE;YWI;WEST-CREE YWI;YWII;WEST-CREE YWII;YWO;WEST-CREE YWO",
  "1537;CANADIAN SYLLABICS ;YWOO;WEST-CREE YWOO;YWA;WEST-CREE YWA;YWAA;WEST-CREE YWAA",
  "153d;CANADIAN SYLLABICS ;NASKAPI YWAA;Y;BIBLE-CREE Y;WEST-CREE Y;SAYISI YI;RE;R-CREE RE",
  "1544;CANADIAN SYLLABICS ;WEST-CREE LE;RAAI;RI;RII;RO;ROO;WEST-CREE LO;RA;RAA;WEST-CREE LA;RWAA",
  "154f;CANADIAN SYLLABICS ;WEST-CREE RWAA;R;WEST-CREE R;MEDIAL R;FE;FAAI;FI;FII;FO;FOO;FA;FAA",
  "155b;CANADIAN SYLLABICS ;FWAA;WEST-CREE FWAA;F;THE;N-CREE THE;THI;N-CREE THI;THII;N-CREE THII",
  "1564;CANADIAN SYLLABICS ;THO;THOO;THA;THAA;THWAA;WEST-CREE THWAA;TH;TTHE;TTHI;TTHO;TTHA;TTH",
  "1570;CANADIAN SYLLABICS ;TYE;TYI;TYO;TYA;NUNAVIK HE;NUNAVIK HI;NUNAVIK HII;NUNAVIK HO",
  "1578;CANADIAN SYLLABICS ;NUNAVIK HOO;NUNAVIK HA;NUNAVIK HAA;NUNAVIK H;NUNAVUT H;HK;QAAI;QI;QII",
  "1581;CANADIAN SYLLABICS ;QO;QOO;QA;QAA;Q;TLHE;TLHI;TLHO;TLHA;WEST-CREE RE;WEST-CREE RI",
  "158c;CANADIAN SYLLABICS ;WEST-CREE RO;WEST-CREE RA;NGAAI;NGI;NGII;NGO;NGOO;NGA;NGAA;NG;NNG",
  "1597;CANADIAN SYLLABICS ;SAYISI SHE;SAYISI SHI;SAYISI SHO;SAYISI SHA;WOODS-CREE THE",
  "159c;CANADIAN SYLLABICS ;WOODS-CREE THI;WOODS-CREE THO;WOODS-CREE THA;WOODS-CREE TH;LHI;LHII",
  "15a2;CANADIAN SYLLABICS ;LHO;LHOO;LHA;LHAA;LH;TH-CREE THE;TH-CREE THI;TH-CREE THII;TH-CREE THO",
  "15ab;CANADIAN SYLLABICS ;TH-CREE THOO;TH-CREE THA;TH-CREE THAA;TH-CREE TH;AIVILIK B",
  "15b0;CANADIAN SYLLABICS BLACKFOOT ;E;I;O;A;WE;WI;WO;WA;NE;NI;NO;NA;KE;KI;KO;KA",
  "15c0;CANADIAN SYLLABICS ;SAYISI HE;SAYISI HI;SAYISI HO;SAYISI HA;CARRIER GHU;CARRIER GHO",
  "15c6;CANADIAN SYLLABICS CARRIER ;GHE;GHEE;GHI;GHA;RU;RO;RE;REE;RI;RA;WU;WO;WE;WEE;WI;WA;HWU",
  "15d7;CANADIAN SYLLABICS CARRIER ;HWO;HWE;HWEE;HWI;HWA;THU;THO;THE;THEE;THI;THA;TTU;TTO;TTE",
  "15e5;CANADIAN SYLLABICS CARRIER ;TTEE;TTI;TTA;PU;PO;PE;PEE;PI;PA;P;GU;GO;GE;GEE;GI;GA;KHU;KHO",
  "15f7;CANADIAN SYLLABICS CARRIER ;KHE;KHEE;KHI;KHA;KKU;KKO;KKE;KKEE;KKI;KKA;KK;NU;NO;NE;NEE;NI",
  "1607;CANADIAN SYLLABICS CARRIER ;NA;MU;MO;ME;MEE;MI;MA;YU;YO;YE;YEE;YI;YA;JU",
  "1615;CANADIAN SYLLABICS ;SAYISI JU;CARRIER JO;CARRIER JE;CARRIER JEE;CARRIER JI;SAYISI JI",
  "161b;CANADIAN SYLLABICS CARRIER ;JA;JJU;JJO;JJE;JJEE;JJI;JJA;LU;LO;LE;LEE;LI;LA;DLU;DLO;DLE",
  "162b;CANADIAN SYLLABICS CARRIER ;DLEE;DLI;DLA;LHU;LHO;LHE;LHEE;LHI;LHA;TLHU;TLHO;TLHE;TLHEE",
  "1638;CANADIAN SYLLABICS CARRIER ;TLHI;TLHA;TLU;TLO;TLE;TLEE;TLI;TLA;ZU;ZO;ZE;ZEE;ZI;ZA;Z",
  "1647;CANADIAN SYLLABICS CARRIER ;INITIAL Z;DZU;DZO;DZE;DZEE;DZI;DZA;SU;SO;SE;SEE;SI;SA;SHU;SHO",
  "1656;CANADIAN SYLLABICS CARRIER ;SHE;SHEE;SHI;SHA;SH;TSU;TSO;TSE;TSEE;TSI;TSA;CHU;CHO;CHE;CHEE",
  "1665;CANADIAN SYLLABICS CARRIER ;CHI;CHA;TTSU;TTSO;TTSE;TTSEE;TTSI;TTSA",
  "166d;CANADIAN SYLLABICS ;CHI SIGN;FULL STOP;QAI;NGAI;NNGI;NNGII;NNGO;NNGOO;NNGA;NNGAA",
  "1677;CANADIAN SYLLABICS WOODS-CREE ;THWEE;THWI;THWII;THWO;THWOO;THWA;THWAA;FINAL TH",
  "167f;;CANADIAN SYLLABICS BLACKFOOT W;OGHAM SPACE MARK;OGHAM LETTER BEITH;OGHAM LETTER LUIS",
  "1683;OGHAM LETTER ;FEARN;SAIL;NION;UATH;DAIR;TINNE;COLL;CEIRT;MUIN;GORT;NGEADAL;STRAIF;RUIS",
  "1690;OGHAM LETTER ;AILM;ONN;UR;EADHADH;IODHADH;EABHADH;OR;UILLEANN;IFIN;EAMHANCHOLL;PEITH",
  "169b;OGHAM ;FEATHER MARK;REVERSED FEATHER MARK",
  "16a0;RUNIC LETTER ;FEHU FEOH FE F;V;URUZ UR U;YR;Y;W;THURISAZ THURS THORN;ETH;ANSUZ A;OS O",
  "16aa;RUNIC LETTER ;AC A;AESC;LONG-BRANCH-OSS O;SHORT-TWIG-OSS O;O;OE;ON;RAIDO RAD REID R;KAUNA",
  "16b3;RUNIC LETTER ;CEN;KAUN K;G;ENG;GEBO GYFU G;GAR;WUNJO WYNN W;HAGLAZ H;HAEGL H",
  "16bc;RUNIC LETTER ;LONG-BRANCH-HAGALL H;SHORT-TWIG-HAGALL H;NAUDIZ NYD NAUD N",
  "16bf;RUNIC LETTER ;SHORT-TWIG-NAUD N;DOTTED-N;ISAZ IS ISS I;E;JERAN J;GER;LONG-BRANCH-AR AE",
  "16c6;RUNIC LETTER ;SHORT-TWIG-AR A;IWAZ EOH;PERTHO PEORTH P;ALGIZ EOLHX;SOWILO S",
  "16cb;RUNIC LETTER ;SIGEL LONG-BRANCH-SOL S;SHORT-TWIG-SOL S;C;Z;TIWAZ TIR TYR T",
  "16d0;RUNIC LETTER ;SHORT-TWIG-TYR T;D;BERKANAN BEORC BJARKAN B;SHORT-TWIG-BJARKAN B;DOTTED-P",
  "16d5;RUNIC LETTER ;OPEN-P;EHWAZ EH E;MANNAZ MAN M;LONG-BRANCH-MADR M;SHORT-TWIG-MADR M",
  "16da;RUNIC LETTER ;LAUKAZ LAGU LOGR L;DOTTED-L;INGWAZ;ING;DAGAZ DAEG D;OTHALAN ETHEL O;EAR;IOR",
  "16e2;RUNIC LETTER ;CWEORTH;CALC;CEALC;STAN;LONG-BRANCH-YR;SHORT-TWIG-YR;ICELANDIC-YR;Q;X",
  "16eb;RUNIC ;SINGLE PUNCTUATION;MULTIPLE PUNCTUATION;CROSS PUNCTUATION;ARLAUG SYMBOL",
  "16ef;RUNIC ;TVIMADUR SYMBOL;BELGTHOR SYMBOL;LETTER K;LETTER SH;LETTER OO",
  "16f4;RUNIC LETTER FRANKS CASKET ;OS;IS;EH;AC;AESC",
  "1700;TAGALOG LETTER ;A;I;U;KA;GA;NGA;TA;DA;NA;PA;BA;MA;YA;RA;LA;WA;SA;HA",
  "1712;TAGALOG ;VOWEL SIGN I;VOWEL SIGN U;SIGN VIRAMA;SIGN PAMUDPOD",
  "171f;;TAGALOG LETTER ARCHAIC RA;HANUNOO LETTER A;HANUNOO LETTER I;HANUNOO LETTER U",
  "1723;HANUNOO LETTER ;KA;GA;NGA;TA;DA;NA;PA;BA;MA;YA;RA;LA;WA;SA;HA",
  "1732;HANUNOO ;VOWEL SIGN I;VOWEL SIGN U;SIGN PAMUDPOD",
  "1735;PHILIPPINE ;SINGLE PUNCTUATION;DOUBLE PUNCTUATION",
  "1740;BUHID LETTER ;A;I;U;KA;GA;NGA;TA;DA;NA;PA;BA;MA;YA;RA;LA;WA;SA;HA",
  "1752;BUHID VOWEL SIGN ;I;U",
  "1760;TAGBANWA LETTER ;A;I;U;KA;GA;NGA;TA;DA;NA;PA;BA;MA;YA",
  "176e;TAGBANWA LETTER ;LA;WA;SA",
  "1772;TAGBANWA VOWEL SIGN ;I;U",
  "1780;KHMER LETTER ;KA;KHA;KO;KHO;NGO;CA;CHA;CO;CHO;NYO;DA;TTHA;DO;TTHO;NNO;TA;THA;TO;THO;NO;BA",
  "1795;KHMER LETTER ;PHA;PO;PHO;MO;YO;RO;LO;VO;SHA;SSO;SA;HA;LA;QA",
  "17a3;KHMER INDEPENDENT VOWEL ;QAQ;QAA;QI;QII;QU;QUK;QUU;QUUV;RY;RYY;LY;LYY;QE;QAI;QOO TYPE ONE",
  "17b2;KHMER ;INDEPENDENT VOWEL QOO TYPE TWO;INDEPENDENT VOWEL QAU;VOWEL INHERENT AQ",
  "17b5;KHMER VOWEL ;INHERENT AA;SIGN AA;SIGN I;SIGN II;SIGN Y;SIGN YY;SIGN U;SIGN UU;SIGN UA",
  "17be;KHMER VOWEL SIGN ;OE;YA;IE;E;AE;AI;OO;AU",
  "17c6;KHMER SIGN ;NIKAHIT;REAHMUK;YUUKALEAPINTU;MUUSIKATOAN;TRIISAP;BANTOC;ROBAT;TOANDAKHIAT",
  "17ce;KHMER SIGN ;KAKABAT;AHSDA;SAMYOK SANNYA;VIRIAM;COENG;BATHAMASAT;KHAN;BARIYOOSAN",
  "17d6;KHMER SIGN ;CAMNUC PII KUUH;LEK TOO;BEYYAL;PHNAEK MUAN;KOOMUUT",
  "17db;KHMER ;CURRENCY SYMBOL RIEL;SIGN AVAKRAHASANYA;SIGN ATTHACAN",
  "17e0;KHMER DIGIT ;ZERO;ONE;TWO;THREE;FOUR;FIVE;SIX;SEVEN;EIGHT;NINE",
  "17f0;KHMER SYMBOL LEK ATTAK ;SON;MUOY;PII;BEI;BUON;PRAM;PRAM-MUOY;PRAM-PII;PRAM-BEI;PRAM-BUON",
  "1800;MONGOLIAN ;BIRGA;ELLIPSIS;COMMA;FULL STOP;COLON;FOUR DOTS;TODO SOFT HYPHEN",
  "1807;MONGOLIAN ;SIBE SYLLABLE BOUNDARY MARKER;MANCHU COMMA;MANCHU FULL STOP;NIRUGU",
  "180b;MONGOLIAN FREE VARIATION SELECTOR ;ONE;TWO;THREE",
  "180e;MONGOLIAN ;VOWEL SEPARATOR;FREE VARIATION SELECTOR FOUR;DIGIT ZERO;DIGIT ONE;DIGIT TWO",
  "1813;MONGOLIAN DIGIT ;THREE;FOUR;FIVE;SIX;SEVEN;EIGHT;NINE",
  "1820;MONGOLIAN LETTER ;A;E;I;O;U;OE;UE;EE;NA;ANG;BA;PA;QA;GA;MA;LA;SA;SHA;TA;DA;CHA;JA;YA;RA",
  "1838;MONGOLIAN LETTER ;WA;FA;KA;KHA;TSA;ZA;HAA;ZRA;LHA;ZHI;CHI;TODO LONG VOWEL SIGN;TODO E",
  "1845;MONGOLIAN LETTER TODO ;I;O;U;OE;UE;ANG;BA;PA;QA;GA;MA;TA;DA;CHA;JA;TSA;YA;WA;KA;GAA;HAA",
  "185a;MONGOLIAN LETTER ;TODO JIA;TODO NIA;TODO DZA;SIBE E;SIBE I;SIBE IY;SIBE UE;SIBE U",
  "1862;MONGOLIAN LETTER SIBE ;ANG;KA;GA;HA;PA;SHA;TA;DA;JA;FA;GAA;HAA;TSA;ZA;RAA;CHA;ZHA",
  "1873;MONGOLIAN LETTER ;MANCHU I;MANCHU KA;MANCHU RA;MANCHU FA;MANCHU ZHA;CHA WITH TWO DOTS",
  "1880;MONGOLIAN LETTER ALI GALI ;ANUSVARA ONE;VISARGA ONE;DAMARU;UBADAMA;INVERTED UBADAMA",
  "1885;MONGOLIAN LETTER ALI GALI ;BALUDA;THREE BALUDA;A;I;KA;NGA;CA;TTA;TTHA;DDA;NNA;TA;DA;PA",
  "1893;MONGOLIAN LETTER ALI GALI ;PHA;SSA;ZHA;ZA;AH",
  "1898;MONGOLIAN LETTER ;TODO ALI GALI TA;TODO ALI GALI ZHA;MANCHU ALI GALI GHA",
  "189b;MONGOLIAN LETTER MANCHU ALI GALI ;NGA;CA;JHA;TTA;DDHA;TA;DHA;SSA;CYA;ZHA;ZA",
  "18a6;MONGOLIAN LETTER ;ALI GALI HALF U;ALI GALI HALF YA;MANCHU ALI GALI BHA;ALI GALI DAGALGA",
  "18aa;;MONGOLIAN LETTER MANCHU ALI GALI LHA",
  "18b0;CANADIAN SYLLABICS ;OY;AY;AAY;WAY;POY;PAY;PWOY;TAY;KAY;KWAY;MAY;NOY;NAY;LAY;SOY;SAY;SHOY",
  "18c1;CANADIAN SYLLABICS ;SHAY;SHWOY;YOY;YAY;RAY;NWI;OJIBWAY NWI;NWII;OJIBWAY NWII;NWO",
  "18cb;CANADIAN SYLLABICS ;OJIBWAY NWO;NWOO;OJIBWAY NWOO;RWEE;RWI;RWII;RWO;RWOO;RWA;OJIBWAY P",
  "18d5;CANADIAN SYLLABICS OJIBWAY ;T;K;C;M;N;S;SH",
  "18dc;CANADIAN SYLLABICS ;EASTERN W;WESTERN W;FINAL SMALL RING;FINAL RAISED DOT;R-CREE RWE",
  "18e1;CANADIAN SYLLABICS ;WEST-CREE LOO;WEST-CREE LAA;THWE;THWA;TTHWE;TTHOO;TTHAA;TLHWE;TLHOO",
  "18ea;CANADIAN SYLLABICS ;SAYISI SHWE;SAYISI SHOO;SAYISI HOO;CARRIER GWU;CARRIER DENE GEE",
  "18ef;CANADIAN SYLLABICS ;CARRIER GAA;CARRIER GWA;SAYISI JUU;CARRIER JWA;BEAVER DENE L",
  "18f4;CANADIAN SYLLABICS ;BEAVER DENE R;CARRIER DENTAL S",
  "1900;LIMBU ;VOWEL-CARRIER LETTER;LETTER KA;LETTER KHA;LETTER GA;LETTER GHA;LETTER NGA",
  "1906;LIMBU LETTER ;CA;CHA;JA;JHA;YAN;TA;THA;DA;DHA;NA;PA;PHA;BA;BHA;MA;YA;RA;LA;WA;SHA;SSA;SA",
  "191c;LIMBU LETTER ;HA;GYAN;TRA",
  "1920;LIMBU VOWEL SIGN ;A;I;U;EE;AI;OO;AU;E;O",
  "1929;LIMBU SUBJOINED LETTER ;YA;RA;WA",
  "1930;LIMBU SMALL LETTER ;KA;NGA;ANUSVARA;TA;NA;PA;MA;RA;LA",
  "1939;LIMBU SIGN ;MUKPHRENG;KEMPHRENG;SA-I",
  "1940;;LIMBU SIGN LOO",
  "1944;LIMBU ;EXCLAMATION MARK;QUESTION MARK;DIGIT ZERO;DIGIT ONE;DIGIT TWO;DIGIT THREE",
  "194a;LIMBU DIGIT ;FOUR;FIVE;SIX;SEVEN;EIGHT;NINE",
  "1950;TAI LE LETTER ;KA;XA;NGA;TSA;SA;YA;TA;THA;LA;PA;PHA;MA;FA;VA;HA;QA;KHA;TSHA;NA;A;I;EE;EH",
  "1967;TAI LE LETTER ;U;OO;O;UE;E;AUE;AI",
  "1970;TAI LE LETTER TONE-;2;3;4;5;6",
  "1980;NEW TAI LUE LETTER ;HIGH QA;LOW QA;HIGH KA;HIGH XA;HIGH NGA;LOW KA;LOW XA;LOW NGA",
  "1988;NEW TAI LUE LETTER ;HIGH TSA;HIGH SA;HIGH YA;LOW TSA;LOW SA;LOW YA;HIGH TA;HIGH THA",
  "1990;NEW TAI LUE LETTER ;HIGH NA;LOW TA;LOW THA;LOW NA;HIGH PA;HIGH PHA;HIGH MA;LOW PA;LOW PHA",
  "1999;NEW TAI LUE LETTER ;LOW MA;HIGH FA;HIGH VA;HIGH LA;LOW FA;LOW VA;LOW LA;HIGH HA;HIGH DA",
  "19a2;NEW TAI LUE LETTER ;HIGH BA;LOW HA;LOW DA;LOW BA;HIGH KVA;HIGH XVA;LOW KVA;LOW XVA",
  "19aa;NEW TAI LUE LETTER ;HIGH SUA;LOW SUA",
  "19b0;NEW TAI LUE VOWEL SIGN ;VOWEL SHORTENER;AA;II;U;UU;E;AE;O;OA;UE;AY;AAY;UY;OY;OAY;UEY;IY",
  "19c1;NEW TAI LUE LETTER FINAL ;V;NG;N;M;K;D;B",
  "19c8;NEW TAI LUE TONE MARK-;1;2",
  "19d0;NEW TAI LUE DIGIT ;ZERO;ONE;TWO;THREE;FOUR;FIVE;SIX;SEVEN;EIGHT;NINE",
  "19da;;NEW TAI LUE THAM DIGIT ONE",
  "19de;;NEW TAI LUE SIGN LAE;NEW TAI LUE SIGN LAEV;KHMER SYMBOL PATHAMASAT",
  "19e1;KHMER SYMBOL ;MUOY KOET;PII KOET;BEI KOET;BUON KOET;PRAM KOET;PRAM-MUOY KOET",
  "19e7;KHMER SYMBOL ;PRAM-PII KOET;PRAM-BEI KOET;PRAM-BUON KOET;DAP KOET;DAP-MUOY KOET",
  "19ec;KHMER SYMBOL ;DAP-PII KOET;DAP-BEI KOET;DAP-BUON KOET;DAP-PRAM KOET;TUTEYASAT;MUOY ROC",
  "19f2;KHMER SYMBOL ;PII ROC;BEI ROC;BUON ROC;PRAM ROC;PRAM-MUOY ROC;PRAM-PII ROC;PRAM-BEI ROC",
  "19f9;KHMER SYMBOL ;PRAM-BUON ROC;DAP ROC;DAP-MUOY ROC;DAP-PII ROC;DAP-BEI ROC;DAP-BUON ROC",
  "19ff;;KHMER SYMBOL DAP-PRAM ROC;BUGINESE LETTER KA;BUGINESE LETTER GA;BUGINESE LETTER NGA",
  "1a03;BUGINESE LETTER ;NGKA;PA;BA;MA;MPA;TA;DA;NA;NRA;CA;JA;NYA;NYCA;YA;RA;LA;VA;SA;A;HA",
  "1a17;BUGINESE VOWEL SIGN ;I;U;E;O;AE",
  "1a1e;;BUGINESE PALLAWA;BUGINESE END OF SECTION;TAI THAM LETTER HIGH KA",
  "1a21;TAI THAM LETTER ;HIGH KHA;HIGH KXA;LOW KA;LOW KXA;LOW KHA;NGA;HIGH CA;HIGH CHA;LOW CA",
  "1a2a;TAI THAM LETTER ;LOW SA;LOW CHA;NYA;RATA;HIGH RATHA;DA;LOW RATHA;RANA;HIGH TA;HIGH THA",
  "1a34;TAI THAM LETTER ;LOW TA;LOW THA;NA;BA;HIGH PA;HIGH PHA;HIGH FA;LOW PA;LOW FA;LOW PHA;MA",
  "1a3f;TAI THAM LETTER ;LOW YA;HIGH YA;RA;RUE;LA;LUE;WA;HIGH SHA;HIGH SSA;HIGH SA;HIGH HA;LLA;A",
  "1a4c;TAI THAM LETTER ;LOW HA;I;II;U;UU;EE;OO;LAE;GREAT SA",
  "1a55;TAI THAM CONSONANT SIGN ;MEDIAL RA;MEDIAL LA;LA TANG LAI",
  "1a58;TAI THAM ;SIGN MAI KANG LAI;CONSONANT SIGN FINAL NGA;CONSONANT SIGN LOW PA",
  "1a5b;TAI THAM CONSONANT SIGN ;HIGH RATHA OR LOW PA;MA;BA;SA",
  "1a60;TAI THAM ;SIGN SAKOT;VOWEL SIGN A;VOWEL SIGN MAI SAT;VOWEL SIGN AA;VOWEL SIGN TALL AA",
  "1a65;TAI THAM VOWEL SIGN ;I;II;UE;UUE;U;UU;O;OA BELOW;OY;E;AE;OO;AI;THAM AI;OA ABOVE",
  "1a74;TAI THAM SIGN ;MAI KANG;TONE-1;TONE-2;KHUEN TONE-3;KHUEN TONE-4;KHUEN TONE-5;RA HAAM",
  "1a7b;TAI THAM SIGN ;MAI SAM;KHUEN-LUE KARAN",
  "1a7f;TAI THAM ;COMBINING CRYPTOGRAMMIC DOT;HORA DIGIT ZERO;HORA DIGIT ONE;HORA DIGIT TWO",
  "1a83;TAI THAM HORA DIGIT ;THREE;FOUR;FIVE;SIX;SEVEN;EIGHT;NINE",
  "1a90;TAI THAM THAM DIGIT ;ZERO;ONE;TWO;THREE;FOUR;FIVE;SIX;SEVEN;EIGHT;NINE",
  "1aa0;TAI THAM SIGN ;WIANG;WIANGWAAK;SAWAN;KEOW;HOY;DOKMAI;REVERSED ROTATED RANA;MAI YAMOK;KAAN",
  "1aa9;TAI THAM SIGN ;KAANKUU;SATKAAN;SATKAANKUU;HANG;CAANG",
  "1ab0;COMBINING ;DOUBLED CIRCUMFLEX ACCENT;DIAERESIS-RING;INFINITY;DOWNWARDS ARROW;TRIPLE DOT",
  "1ab5;COMBINING ;X-X BELOW;WIGGLY LINE BELOW;OPEN MARK BELOW;DOUBLE OPEN MARK BELOW",
  "1ab9;COMBINING ;LIGHT CENTRALIZATION STROKE BELOW;STRONG CENTRALIZATION STROKE BELOW",
  "1abb;COMBINING ;PARENTHESES ABOVE;DOUBLE PARENTHESES ABOVE;PARENTHESES BELOW",
  "1abe;COMBINING ;PARENTHESES OVERLAY;LATIN SMALL LETTER W BELOW",
  "1ac0;COMBINING ;LATIN SMALL LETTER TURNED W BELOW;LEFT PARENTHESIS ABOVE LEFT",
  "1ac2;COMBINING ;RIGHT PARENTHESIS ABOVE RIGHT;LEFT PARENTHESIS BELOW LEFT",
  "1ac4;COMBINING ;RIGHT PARENTHESIS BELOW RIGHT;SQUARE BRACKETS ABOVE;NUMBER SIGN ABOVE",
  "1ac7;COMBINING ;INVERTED DOUBLE ARCH ABOVE;PLUS SIGN ABOVE;DOUBLE PLUS SIGN ABOVE",
  "1aca;COMBINING ;DOUBLE PLUS SIGN BELOW;TRIPLE ACUTE ACCENT;LATIN SMALL LETTER INSULAR G",
  "1acd;COMBINING LATIN SMALL LETTER INSULAR ;R;T",
  "1b00;BALINESE ;SIGN ULU RICEM;SIGN ULU CANDRA;SIGN CECEK;SIGN SURANG;SIGN BISAH;LETTER AKARA",
  "1b06;BALINESE LETTER ;AKARA TEDUNG;IKARA;IKARA TEDUNG;UKARA;UKARA TEDUNG;RA REPA",
  "1b0c;BALINESE LETTER ;RA REPA TEDUNG;LA LENGA;LA LENGA TEDUNG;EKARA;AIKARA;OKARA;OKARA TEDUNG",
  "1b13;BALINESE LETTER ;KA;KA MAHAPRANA;GA;GA GORA;NGA;CA;CA LACA;JA;JA JERA;NYA;TA LATIK",
  "1b1e;BALINESE LETTER ;TA MURDA MAHAPRANA;DA MURDA ALPAPRANA;DA MURDA MAHAPRANA;NA RAMBAT;TA",
  "1b23;BALINESE LETTER ;TA TAWA;DA;DA MADU;NA;PA;PA KAPAL;BA;BA KEMBANG;MA;YA;RA;LA;WA;SA SAGA",
  "1b31;BALINESE ;LETTER SA SAPA;LETTER SA;LETTER HA;SIGN REREKAN;VOWEL SIGN TEDUNG",
  "1b36;BALINESE VOWEL SIGN ;ULU;ULU SARI;SUKU;SUKU ILUT;RA REPA;RA REPA TEDUNG;LA LENGA",
  "1b3d;BALINESE VOWEL SIGN ;LA LENGA TEDUNG;TALING;TALING REPA;TALING TEDUNG;TALING REPA TEDUNG",
  "1b42;BALINESE ;VOWEL SIGN PEPET;VOWEL SIGN PEPET TEDUNG;ADEG ADEG;LETTER KAF SASAK",
  "1b46;BALINESE LETTER ;KHOT SASAK;TZIR SASAK;EF SASAK;VE SASAK;ZAL SASAK;ASYURA SASAK",
  "1b4c;;BALINESE LETTER ARCHAIC JNYA",
  "1b50;BALINESE DIGIT ;ZERO;ONE;TWO;THREE;FOUR;FIVE;SIX;SEVEN;EIGHT;NINE",
  "1b5a;BALINESE ;PANTI;PAMADA;WINDU;CARIK PAMUNGKAH;CARIK SIKI;CARIK PAREREN;PAMENENG",
  "1b61;BALINESE MUSICAL SYMBOL ;DONG;DENG;DUNG;DANG;DANG SURANG;DING;DAENG;DEUNG;DAING;DANG GEDE",
  "1b6b;BALINESE MUSICAL SYMBOL COMBINING ;TEGEH;ENDEP;KEMPUL;KEMPLI;JEGOGAN;KEMPUL WITH JEGOGAN",
  "1b71;BALINESE MUSICAL SYMBOL COMBINING ;KEMPLI WITH JEGOGAN;BENDE;GONG",
  "1b74;BALINESE MUSICAL SYMBOL RIGHT-HAND ;OPEN DUG;OPEN DAG;CLOSED TUK;CLOSED TAK",
  "1b78;BALINESE MUSICAL SYMBOL LEFT-HAND ;OPEN PANG;OPEN PUNG;CLOSED PLAK;CLOSED PLUK;OPEN PING",
  "1b7d;BALINESE ;PANTI LANTANG;PAMADA LANTANG",
  "1b80;SUNDANESE ;SIGN PANYECEK;SIGN PANGLAYAR;SIGN PANGWISAD;LETTER A;LETTER I;LETTER U",
  "1b86;SUNDANESE LETTER ;AE;O;E;EU;KA;QA;GA;NGA;CA;JA;ZA;NYA;TA;DA;NA;PA;FA;VA;BA;MA;YA;RA;LA;WA",
  "1b9e;SUNDANESE ;LETTER SA;LETTER XA;LETTER HA;CONSONANT SIGN PAMINGKAL;CONSONANT SIGN PANYAKRA",
  "1ba3;SUNDANESE ;CONSONANT SIGN PANYIKU;VOWEL SIGN PANGHULU;VOWEL SIGN PANYUKU",
  "1ba6;SUNDANESE VOWEL SIGN ;PANAELAENG;PANOLONG;PAMEPET;PANEULEUNG",
  "1baa;SUNDANESE ;SIGN PAMAAEH;SIGN VIRAMA;CONSONANT SIGN PASANGAN MA;CONSONANT SIGN PASANGAN WA",
  "1bae;SUNDANESE ;LETTER KHA;LETTER SYA;DIGIT ZERO;DIGIT ONE;DIGIT TWO;DIGIT THREE;DIGIT FOUR",
  "1bb5;SUNDANESE ;DIGIT FIVE;DIGIT SIX;DIGIT SEVEN;DIGIT EIGHT;DIGIT NINE;AVAGRAHA;LETTER REU",
  "1bbc;SUNDANESE LETTER ;LEU;BHA;FINAL K;FINAL M",
  "1bc0;BATAK LETTER ;A;SIMALUNGUN A;HA;SIMALUNGUN HA;MANDAILING HA;BA;KARO BA;PA;SIMALUNGUN PA",
  "1bc9;BATAK LETTER ;NA;MANDAILING NA;WA;SIMALUNGUN WA;PAKPAK WA;GA;SIMALUNGUN GA;JA;DA;RA",
  "1bd3;BATAK LETTER ;SIMALUNGUN RA;MA;SIMALUNGUN MA;SOUTHERN TA;NORTHERN TA;SA;SIMALUNGUN SA",
  "1bda;BATAK LETTER ;MANDAILING SA;YA;SIMALUNGUN YA;NGA;LA;SIMALUNGUN LA;NYA;CA;NDA;MBA;I;U",
  "1be6;BATAK ;SIGN TOMPI;VOWEL SIGN E;VOWEL SIGN PAKPAK E;VOWEL SIGN EE;VOWEL SIGN I",
  "1beb;BATAK VOWEL SIGN ;KARO I;O;KARO O;U;U FOR SIMALUNGUN SA",
  "1bf0;BATAK ;CONSONANT SIGN NG;CONSONANT SIGN H;PANGOLAT;PANONGONAN",
  "1bfc;BATAK SYMBOL BINDU ;NA METEK;PINARBORAS;JUDUL;PANGOLAT",
  "1c00;LEPCHA LETTER ;KA;KLA;KHA;GA;GLA;NGA;CA;CHA;JA;NYA;TA;THA;DA;NA;PA;PLA;PHA;FA;FLA;BA;BLA",
  "1c15;LEPCHA LETTER ;MA;MLA;TSA;TSHA;DZA;YA;RA;LA;HA;HLA;VA;SA;SHA;WA;A",
  "1c24;LEPCHA ;SUBJOINED LETTER YA;SUBJOINED LETTER RA;VOWEL SIGN AA;VOWEL SIGN I;VOWEL SIGN O",
  "1c29;LEPCHA ;VOWEL SIGN OO;VOWEL SIGN U;VOWEL SIGN UU;VOWEL SIGN E;CONSONANT SIGN K",
  "1c2e;LEPCHA CONSONANT SIGN ;M;L;N;P;R;T;NYIN-DO;KANG",
  "1c36;LEPCHA SIGN ;RAN;NUKTA",
  "1c3b;LEPCHA PUNCTUATION ;TA-ROL;NYET THYOOM TA-ROL;CER-WA;TSHOOK CER-WA;TSHOOK",
  "1c40;LEPCHA DIGIT ;ZERO;ONE;TWO;THREE;FOUR;FIVE;SIX;SEVEN;EIGHT;NINE",
  "1c4d;;LEPCHA LETTER TTA;LEPCHA LETTER TTHA;LEPCHA LETTER DDA;OL CHIKI DIGIT ZERO",
  "1c51;OL CHIKI DIGIT ;ONE;TWO;THREE;FOUR;FIVE;SIX;SEVEN;EIGHT;NINE",
  "1c5a;OL CHIKI LETTER ;LA;AT;AG;ANG;AL;LAA;AAK;AAJ;AAM;AAW;LI;IS;IH;INY;IR;LU;UC;UD;UNN;UY;LE",
  "1c6f;OL CHIKI LETTER ;EP;EDD;EN;ERR;LO;OTT;OB;OV;OH",
  "1c78;OL CHIKI ;MU TTUDDAG;GAAHLAA TTUDDAAG;MU-GAAHLAA TTUDDAAG;RELAA;PHAARKAA;AHAD",
  "1c7e;OL CHIKI PUNCTUATION ;MUCAAD;DOUBLE MUCAAD",
  "1c80;CYRILLIC SMALL LETTER ;ROUNDED VE;LONG-LEGGED DE;NARROW O;WIDE ES;TALL TE;THREE-LEGGED TE",
  "1c86;CYRILLIC SMALL LETTER ;TALL HARD SIGN;TALL YAT;UNBLENDED UK",
  "1c90;GEORGIAN MTAVRULI CAPITAL LETTER ;AN;BAN;GAN;DON;EN;VIN;ZEN;TAN;IN;KAN;LAS;MAN;NAR;ON;PAR",
  "1c9f;GEORGIAN MTAVRULI CAPITAL LETTER ;ZHAR;RAE;SAN;TAR;UN;PHAR;KHAR;GHAN;QAR;SHIN;CHIN;CAN",
  "1cab;GEORGIAN MTAVRULI CAPITAL LETTER ;JIL;CIL;CHAR;XAN;JHAN;HAE;HE;HIE;WE;HAR;HOE;FI;YN;ELIFI",
  "1cb9;GEORGIAN MTAVRULI CAPITAL LETTER ;TURNED GAN;AIN",
  "1cbd;GEORGIAN MTAVRULI CAPITAL LETTER ;AEN;HARD SIGN;LABIAL SIGN",
  "1cc0;SUNDANESE PUNCTUATION BINDU ;SURYA;PANGLONG;PURNAMA;CAKRA;LEU SATANGA;KA SATANGA",
  "1cc6;SUNDANESE PUNCTUATION BINDU ;DA SATANGA;BA SATANGA",
  "1cd0;VEDIC ;TONE KARSHANA;TONE SHARA;TONE PRENKHA;SIGN NIHSHVASA",
  "1cd4;VEDIC ;SIGN YAJURVEDIC MIDLINE SVARITA;TONE YAJURVEDIC AGGRAVATED INDEPENDENT SVARITA",
  "1cd6;VEDIC TONE YAJURVEDIC ;INDEPENDENT SVARITA;KATHAKA INDEPENDENT SVARITA",
  "1cd8;VEDIC TONE ;CANDRA BELOW;YAJURVEDIC KATHAKA INDEPENDENT SVARITA SCHROEDER;DOUBLE SVARITA",
  "1cdb;VEDIC TONE ;TRIPLE SVARITA;KATHAKA ANUDATTA;DOT BELOW;TWO DOTS BELOW;THREE DOTS BELOW",
  "1ce0;VEDIC TONE ;RIGVEDIC KASHMIRI INDEPENDENT SVARITA;ATHARVAVEDIC INDEPENDENT SVARITA",
  "1ce2;VEDIC SIGN ;VISARGA SVARITA;VISARGA UDATTA;REVERSED VISARGA UDATTA;VISARGA ANUDATTA",
  "1ce6;VEDIC SIGN ;REVERSED VISARGA ANUDATTA;VISARGA UDATTA WITH TAIL;VISARGA ANUDATTA WITH TAIL",
  "1ce9;VEDIC SIGN ANUSVARA ;ANTARGOMUKHA;BAHIRGOMUKHA;VAMAGOMUKHA;VAMAGOMUKHA WITH TAIL",
  "1ced;VEDIC SIGN ;TIRYAK;HEXIFORM LONG ANUSVARA;LONG ANUSVARA;RTHANG LONG ANUSVARA",
  "1cf1;VEDIC SIGN ;ANUSVARA UBHAYATO MUKHA;ARDHAVISARGA;ROTATED ARDHAVISARGA",
  "1cf4;VEDIC ;TONE CANDRA ABOVE;SIGN JIHVAMULIYA;SIGN UPADHMANIYA;SIGN ATIKRAMA;TONE RING ABOVE",
  "1cf9;VEDIC ;TONE DOUBLE RING ABOVE;SIGN DOUBLE ANUSVARA ANTARGOMUKHA",
  "1d00;LATIN ;LETTER SMALL CAPITAL A;LETTER SMALL CAPITAL AE;SMALL LETTER TURNED AE",
  "1d03;LATIN LETTER SMALL CAPITAL ;BARRED B;C;D;ETH;E",
  "1d08;LATIN ;SMALL LETTER TURNED OPEN E;SMALL LETTER TURNED I;LETTER SMALL CAPITAL J",
  "1d0b;LATIN LETTER SMALL CAPITAL ;K;L WITH STROKE;M;REVERSED N;O;OPEN O",
  "1d11;LATIN SMALL LETTER ;SIDEWAYS O;SIDEWAYS OPEN O;SIDEWAYS O WITH STROKE;TURNED OE",
  "1d15;LATIN ;LETTER SMALL CAPITAL OU;SMALL LETTER TOP HALF O;SMALL LETTER BOTTOM HALF O",
  "1d18;LATIN LETTER SMALL CAPITAL ;P;REVERSED R;TURNED R;T;U",
  "1d1d;LATIN SMALL LETTER SIDEWAYS ;U;DIAERESIZED U;TURNED M",
  "1d20;LATIN LETTER SMALL CAPITAL ;V;W;Z;EZH",
  "1d24;;LATIN LETTER VOICED LARYNGEAL SPIRANT;LATIN LETTER AIN;GREEK LETTER SMALL CAPITAL GAMMA",
  "1d27;GREEK LETTER SMALL CAPITAL ;LAMDA;PI;RHO;PSI",
  "1d2b;;CYRILLIC LETTER SMALL CAPITAL EL;MODIFIER LETTER CAPITAL A;MODIFIER LETTER CAPITAL AE",
  "1d2e;MODIFIER LETTER CAPITAL ;B;BARRED B;D;E;REVERSED E;G;H;I;J;K;L;M;N;REVERSED N;O;OU;P;R;T",
  "1d41;MODIFIER LETTER ;CAPITAL U;CAPITAL W;SMALL A;SMALL TURNED A;SMALL ALPHA;SMALL TURNED AE",
  "1d47;MODIFIER LETTER SMALL ;B;D;E;SCHWA;OPEN E;TURNED OPEN E;G;TURNED I;K;M;ENG;O;OPEN O",
  "1d54;MODIFIER LETTER SMALL ;TOP HALF O;BOTTOM HALF O;P;T;U;SIDEWAYS U;TURNED M;V;AIN;BETA",
  "1d5e;MODIFIER LETTER SMALL ;GREEK GAMMA;DELTA;GREEK PHI;CHI",
  "1d62;LATIN SUBSCRIPT SMALL LETTER ;I;R;U;V",
  "1d66;GREEK SUBSCRIPT SMALL LETTER ;BETA;GAMMA;RHO;PHI;CHI",
  "1d6b;LATIN SMALL LETTER ;UE;B WITH MIDDLE TILDE;D WITH MIDDLE TILDE;F WITH MIDDLE TILDE",
  "1d6f;LATIN SMALL LETTER ;M WITH MIDDLE TILDE;N WITH MIDDLE TILDE;P WITH MIDDLE TILDE",
  "1d72;LATIN SMALL LETTER R WITH ;MIDDLE TILDE;FISHHOOK AND MIDDLE TILDE",
  "1d74;LATIN SMALL LETTER ;S WITH MIDDLE TILDE;T WITH MIDDLE TILDE;Z WITH MIDDLE TILDE;TURNED G",
  "1d78;;MODIFIER LETTER CYRILLIC EN;LATIN SMALL LETTER INSULAR G",
  "1d7a;LATIN SMALL ;LETTER TH WITH STRIKETHROUGH;CAPITAL LETTER I WITH STROKE",
  "1d7c;LATIN SMALL ;LETTER IOTA WITH STROKE;LETTER P WITH STROKE;CAPITAL LETTER U WITH STROKE",
  "1d7f;LATIN SMALL LETTER ;UPSILON WITH STROKE;B WITH PALATAL HOOK;D WITH PALATAL HOOK",
  "1d82;LATIN SMALL LETTER ;F WITH PALATAL HOOK;G WITH PALATAL HOOK;K WITH PALATAL HOOK",
  "1d85;LATIN SMALL LETTER ;L WITH PALATAL HOOK;M WITH PALATAL HOOK;N WITH PALATAL HOOK",
  "1d88;LATIN SMALL LETTER ;P WITH PALATAL HOOK;R WITH PALATAL HOOK;S WITH PALATAL HOOK",
  "1d8b;LATIN SMALL LETTER ;ESH WITH PALATAL HOOK;V WITH PALATAL HOOK;X WITH PALATAL HOOK",
  "1d8e;LATIN SMALL LETTER ;Z WITH PALATAL HOOK;A WITH RETROFLEX HOOK;ALPHA WITH RETROFLEX HOOK",
  "1d91;LATIN SMALL LETTER ;D WITH HOOK AND TAIL;E WITH RETROFLEX HOOK;OPEN E WITH RETROFLEX HOOK",
  "1d94;LATIN SMALL LETTER ;REVERSED OPEN E WITH RETROFLEX HOOK;SCHWA WITH RETROFLEX HOOK",
  "1d96;LATIN SMALL LETTER ;I WITH RETROFLEX HOOK;OPEN O WITH RETROFLEX HOOK",
  "1d98;LATIN SMALL LETTER ;ESH WITH RETROFLEX HOOK;U WITH RETROFLEX HOOK;EZH WITH RETROFLEX HOOK",
  "1d9b;MODIFIER LETTER SMALL ;TURNED ALPHA;C;C WITH CURL;ETH;REVERSED OPEN E;F",
  "1da1;MODIFIER LETTER SMALL ;DOTLESS J WITH STROKE;SCRIPT G;TURNED H;I WITH STROKE;IOTA",
  "1da6;MODIFIER LETTER SMALL ;CAPITAL I;CAPITAL I WITH STROKE;J WITH CROSSED-TAIL",
  "1da9;MODIFIER LETTER SMALL ;L WITH RETROFLEX HOOK;L WITH PALATAL HOOK;CAPITAL L;M WITH HOOK",
  "1dad;MODIFIER LETTER SMALL ;TURNED M WITH LONG LEG;N WITH LEFT HOOK;N WITH RETROFLEX HOOK",
  "1db0;MODIFIER LETTER SMALL ;CAPITAL N;BARRED O;PHI;S WITH HOOK;ESH;T WITH PALATAL HOOK;U BAR",
  "1db7;MODIFIER LETTER SMALL ;UPSILON;CAPITAL U;V WITH HOOK;TURNED V;Z;Z WITH RETROFLEX HOOK",
  "1dbd;MODIFIER LETTER SMALL ;Z WITH CURL;EZH;THETA",
  "1dc0;COMBINING ;DOTTED GRAVE ACCENT;DOTTED ACUTE ACCENT;SNAKE BELOW;SUSPENSION MARK",
  "1dc4;COMBINING ;MACRON-ACUTE;GRAVE-MACRON;MACRON-GRAVE;ACUTE-MACRON;GRAVE-ACUTE-GRAVE",
  "1dc9;COMBINING ;ACUTE-GRAVE-ACUTE;LATIN SMALL LETTER R BELOW;BREVE-MACRON;MACRON-BREVE",
  "1dcd;COMBINING ;DOUBLE CIRCUMFLEX ABOVE;OGONEK ABOVE;ZIGZAG BELOW;IS BELOW;UR ABOVE;US ABOVE",
  "1dd3;COMBINING LATIN SMALL LETTER ;FLATTENED OPEN A ABOVE;AE;AO;AV;C CEDILLA;INSULAR D;ETH;G",
  "1ddb;COMBINING LATIN ;LETTER SMALL CAPITAL G;SMALL LETTER K;SMALL LETTER L",
  "1dde;COMBINING LATIN ;LETTER SMALL CAPITAL L;LETTER SMALL CAPITAL M;SMALL LETTER N",
  "1de1;COMBINING LATIN ;LETTER SMALL CAPITAL N;LETTER SMALL CAPITAL R;SMALL LETTER R ROTUNDA",
  "1de4;COMBINING LATIN SMALL LETTER ;S;LONG S;Z;ALPHA;B;BETA;SCHWA;F;L WITH DOUBLE MIDDLE TILDE",
  "1ded;COMBINING LATIN SMALL LETTER ;O WITH LIGHT CENTRALIZATION STROKE;P;ESH",
  "1df0;COMBINING LATIN SMALL LETTER ;U WITH LIGHT CENTRALIZATION STROKE;W;A WITH DIAERESIS",
  "1df3;COMBINING LATIN SMALL LETTER ;O WITH DIAERESIS;U WITH DIAERESIS",
  "1df5;COMBINING ;UP TACK ABOVE;KAVYKA ABOVE RIGHT;KAVYKA ABOVE LEFT;DOT ABOVE LEFT",
  "1df9;COMBINING ;WIDE INVERTED BRIDGE BELOW;DOT BELOW LEFT;DELETION MARK",
  "1dfc;COMBINING ;DOUBLE INVERTED BREVE BELOW;ALMOST EQUAL TO BELOW;LEFT ARROWHEAD ABOVE",
  "1dff;;COMBINING RIGHT ARROWHEAD AND DOWN ARROWHEAD BELOW",
  "1e00;LATIN ;CAPITAL LETTER A WITH RING BELOW;SMALL LETTER A WITH RING BELOW",
  "1e02;LATIN ;CAPITAL LETTER B WITH DOT ABOVE;SMALL LETTER B WITH DOT ABOVE",
  "1e04;LATIN ;CAPITAL LETTER B WITH DOT BELOW;SMALL LETTER B WITH DOT BELOW",
  "1e06;LATIN ;CAPITAL LETTER B WITH LINE BELOW;SMALL LETTER B WITH LINE BELOW",
  "1e08;LATIN ;CAPITAL LETTER C WITH CEDILLA AND ACUTE;SMALL LETTER C WITH CEDILLA AND ACUTE",
  "1e0a;LATIN ;CAPITAL LETTER D WITH DOT ABOVE;SMALL LETTER D WITH DOT ABOVE",
  "1e0c;LATIN ;CAPITAL LETTER D WITH DOT BELOW;SMALL LETTER D WITH DOT BELOW",
  "1e0e;LATIN ;CAPITAL LETTER D WITH LINE BELOW;SMALL LETTER D WITH LINE BELOW",
  "1e10;LATIN ;CAPITAL LETTER D WITH CEDILLA;SMALL LETTER D WITH CEDILLA",
  "1e12;LATIN ;CAPITAL LETTER D WITH CIRCUMFLEX BELOW;SMALL LETTER D WITH CIRCUMFLEX BELOW",
  "1e14;LATIN ;CAPITAL LETTER E WITH MACRON AND GRAVE;SMALL LETTER E WITH MACRON AND GRAVE",
  "1e16;LATIN ;CAPITAL LETTER E WITH MACRON AND ACUTE;SMALL LETTER E WITH MACRON AND ACUTE",
  "1e18;LATIN ;CAPITAL LETTER E WITH CIRCUMFLEX BELOW;SMALL LETTER E WITH CIRCUMFLEX BELOW",
  "1e1a;LATIN ;CAPITAL LETTER E WITH TILDE BELOW;SMALL LETTER E WITH TILDE BELOW",
  "1e1c;LATIN ;CAPITAL LETTER E WITH CEDILLA AND BREVE;SMALL LETTER E WITH CEDILLA AND BREVE",
  "1e1e;LATIN ;CAPITAL LETTER F WITH DOT ABOVE;SMALL LETTER F WITH DOT ABOVE",
  "1e20;LATIN ;CAPITAL LETTER G WITH MACRON;SMALL LETTER G WITH MACRON",
  "1e22;LATIN ;CAPITAL LETTER H WITH DOT ABOVE;SMALL LETTER H WITH DOT ABOVE",
  "1e24;LATIN ;CAPITAL LETTER H WITH DOT BELOW;SMALL LETTER H WITH DOT BELOW",
  "1e26;LATIN ;CAPITAL LETTER H WITH DIAERESIS;SMALL LETTER H WITH DIAERESIS",
  "1e28;LATIN ;CAPITAL LETTER H WITH CEDILLA;SMALL LETTER H WITH CEDILLA",
  "1e2a;LATIN ;CAPITAL LETTER H WITH BREVE BELOW;SMALL LETTER H WITH BREVE BELOW",
  "1e2c;LATIN ;CAPITAL LETTER I WITH TILDE BELOW;SMALL LETTER I WITH TILDE BELOW",
  "1e2e;LATIN ;CAPITAL LETTER I WITH DIAERESIS AND ACUTE;SMALL LETTER I WITH DIAERESIS AND ACUTE",
  "1e30;LATIN ;CAPITAL LETTER K WITH ACUTE;SMALL LETTER K WITH ACUTE",
  "1e32;LATIN ;CAPITAL LETTER K WITH DOT BELOW;SMALL LETTER K WITH DOT BELOW",
  "1e34;LATIN ;CAPITAL LETTER K WITH LINE BELOW;SMALL LETTER K WITH LINE BELOW",
  "1e36;LATIN ;CAPITAL LETTER L WITH DOT BELOW;SMALL LETTER L WITH DOT BELOW",
  "1e38;;LATIN CAPITAL LETTER L WITH DOT BELOW AND MACRON",
  "1e39;LATIN ;SMALL LETTER L WITH DOT BELOW AND MACRON;CAPITAL LETTER L WITH LINE BELOW",
  "1e3b;LATIN ;SMALL LETTER L WITH LINE BELOW;CAPITAL LETTER L WITH CIRCUMFLEX BELOW",
  "1e3d;LATIN ;SMALL LETTER L WITH CIRCUMFLEX BELOW;CAPITAL LETTER M WITH ACUTE",
  "1e3f;LATIN ;SMALL LETTER M WITH ACUTE;CAPITAL LETTER M WITH DOT ABOVE",
  "1e41;LATIN ;SMALL LETTER M WITH DOT ABOVE;CAPITAL LETTER M WITH DOT BELOW",
  "1e43;LATIN ;SMALL LETTER M WITH DOT BELOW;CAPITAL LETTER N WITH DOT ABOVE",
  "1e45;LATIN ;SMALL LETTER N WITH DOT ABOVE;CAPITAL LETTER N WITH DOT BELOW",
  "1e47;LATIN ;SMALL LETTER N WITH DOT BELOW;CAPITAL LETTER N WITH LINE BELOW",
  "1e49;LATIN ;SMALL LETTER N WITH LINE BELOW;CAPITAL LETTER N WITH CIRCUMFLEX BELOW",
  "1e4b;LATIN ;SMALL LETTER N WITH CIRCUMFLEX BELOW;CAPITAL LETTER O WITH TILDE AND ACUTE",
  "1e4d;LATIN ;SMALL LETTER O WITH TILDE AND ACUTE;CAPITAL LETTER O WITH TILDE AND DIAERESIS",
  "1e4f;LATIN ;SMALL LETTER O WITH TILDE AND DIAERESIS;CAPITAL LETTER O WITH MACRON AND GRAVE",
  "1e51;LATIN ;SMALL LETTER O WITH MACRON AND GRAVE;CAPITAL LETTER O WITH MACRON AND ACUTE",
  "1e53;LATIN ;SMALL LETTER O WITH MACRON AND ACUTE;CAPITAL LETTER P WITH ACUTE",
  "1e55;LATIN ;SMALL LETTER P WITH ACUTE;CAPITAL LETTER P WITH DOT ABOVE",
  "1e57;LATIN ;SMALL LETTER P WITH DOT ABOVE;CAPITAL LETTER R WITH DOT ABOVE",
  "1e59;LATIN ;SMALL LETTER R WITH DOT ABOVE;CAPITAL LETTER R WITH DOT BELOW",
  "1e5b;LATIN ;SMALL LETTER R WITH DOT BELOW;CAPITAL LETTER R WITH DOT BELOW AND MACRON",
  "1e5d;LATIN ;SMALL LETTER R WITH DOT BELOW AND MACRON;CAPITAL LETTER R WITH LINE BELOW",
  "1e5f;LATIN ;SMALL LETTER R WITH LINE BELOW;CAPITAL LETTER S WITH DOT ABOVE",
  "1e61;LATIN ;SMALL LETTER S WITH DOT ABOVE;CAPITAL LETTER S WITH DOT BELOW",
  "1e63;LATIN ;SMALL LETTER S WITH DOT BELOW;CAPITAL LETTER S WITH ACUTE AND DOT ABOVE",
  "1e65;LATIN ;SMALL LETTER S WITH ACUTE AND DOT ABOVE;CAPITAL LETTER S WITH CARON AND DOT ABOVE",
  "1e67;;LATIN SMALL LETTER S WITH CARON AND DOT ABOVE",
  "1e68;;LATIN CAPITAL LETTER S WITH DOT BELOW AND DOT ABOVE",
  "1e69;LATIN ;SMALL LETTER S WITH DOT BELOW AND DOT ABOVE;CAPITAL LETTER T WITH DOT ABOVE",
  "1e6b;LATIN ;SMALL LETTER T WITH DOT ABOVE;CAPITAL LETTER T WITH DOT BELOW",
  "1e6d;LATIN ;SMALL LETTER T WITH DOT BELOW;CAPITAL LETTER T WITH LINE BELOW",
  "1e6f;LATIN ;SMALL LETTER T WITH LINE BELOW;CAPITAL LETTER T WITH CIRCUMFLEX BELOW",
  "1e71;LATIN ;SMALL LETTER T WITH CIRCUMFLEX BELOW;CAPITAL LETTER U WITH DIAERESIS BELOW",
  "1e73;LATIN ;SMALL LETTER U WITH DIAERESIS BELOW;CAPITAL LETTER U WITH TILDE BELOW",
  "1e75;LATIN ;SMALL LETTER U WITH TILDE BELOW;CAPITAL LETTER U WITH CIRCUMFLEX BELOW",
  "1e77;LATIN ;SMALL LETTER U WITH CIRCUMFLEX BELOW;CAPITAL LETTER U WITH TILDE AND ACUTE",
  "1e79;LATIN ;SMALL LETTER U WITH TILDE AND ACUTE;CAPITAL LETTER U WITH MACRON AND DIAERESIS",
  "1e7b;LATIN ;SMALL LETTER U WITH MACRON AND DIAERESIS;CAPITAL LETTER V WITH TILDE",
  "1e7d;LATIN ;SMALL LETTER V WITH TILDE;CAPITAL LETTER V WITH DOT BELOW",
  "1e7f;LATIN ;SMALL LETTER V WITH DOT BELOW;CAPITAL LETTER W WITH GRAVE",
  "1e81;LATIN ;SMALL LETTER W WITH GRAVE;CAPITAL LETTER W WITH ACUTE;SMALL LETTER W WITH ACUTE",
  "1e84;LATIN ;CAPITAL LETTER W WITH DIAERESIS;SMALL LETTER W WITH DIAERESIS",
  "1e86;LATIN ;CAPITAL LETTER W WITH DOT ABOVE;SMALL LETTER W WITH DOT ABOVE",
  "1e88;LATIN ;CAPITAL LETTER W WITH DOT BELOW;SMALL LETTER W WITH DOT BELOW",
  "1e8a;LATIN ;CAPITAL LETTER X WITH DOT ABOVE;SMALL LETTER X WITH DOT ABOVE",
  "1e8c;LATIN ;CAPITAL LETTER X WITH DIAERESIS;SMALL LETTER X WITH DIAERESIS",
  "1e8e;LATIN ;CAPITAL LETTER Y WITH DOT ABOVE;SMALL LETTER Y WITH DOT ABOVE",
  "1e90;LATIN ;CAPITAL LETTER Z WITH CIRCUMFLEX;SMALL LETTER Z WITH CIRCUMFLEX",
  "1e92;LATIN ;CAPITAL LETTER Z WITH DOT BELOW;SMALL LETTER Z WITH DOT BELOW",
  "1e94;LATIN ;CAPITAL LETTER Z WITH LINE BELOW;SMALL LETTER Z WITH LINE BELOW",
  "1e96;LATIN SMALL LETTER ;H WITH LINE BELOW;T WITH DIAERESIS;W WITH RING ABOVE",
  "1e99;LATIN SMALL LETTER ;Y WITH RING ABOVE;A WITH RIGHT HALF RING;LONG S WITH DOT ABOVE",
  "1e9c;LATIN SMALL LETTER LONG S WITH ;DIAGONAL STROKE;HIGH STROKE",
  "1e9e;LATIN ;CAPITAL LETTER SHARP S;SMALL LETTER DELTA;CAPITAL LETTER A WITH DOT BELOW",
  "1ea1;LATIN ;SMALL LETTER A WITH DOT BELOW;CAPITAL LETTER A WITH HOOK ABOVE",
  "1ea3;LATIN ;SMALL LETTER A WITH HOOK ABOVE;CAPITAL LETTER A WITH CIRCUMFLEX AND ACUTE",
  "1ea5;;LATIN SMALL LETTER A WITH CIRCUMFLEX AND ACUTE",
  "1ea6;;LATIN CAPITAL LETTER A WITH CIRCUMFLEX AND GRAVE",
  "1ea7;;LATIN SMALL LETTER A WITH CIRCUMFLEX AND GRAVE",
  "1ea8;;LATIN CAPITAL LETTER A WITH CIRCUMFLEX AND HOOK ABOVE",
  "1ea9;;LATIN SMALL LETTER A WITH CIRCUMFLEX AND HOOK ABOVE",
  "1eaa;;LATIN CAPITAL LETTER A WITH CIRCUMFLEX AND TILDE",
  "1eab;;LATIN SMALL LETTER A WITH CIRCUMFLEX AND TILDE",
  "1eac;;LATIN CAPITAL LETTER A WITH CIRCUMFLEX AND DOT BELOW",
  "1ead;LATIN ;SMALL LETTER A WITH CIRCUMFLEX AND DOT BELOW;CAPITAL LETTER A WITH BREVE AND ACUTE",
  "1eaf;LATIN ;SMALL LETTER A WITH BREVE AND ACUTE;CAPITAL LETTER A WITH BREVE AND GRAVE",
  "1eb1;LATIN ;SMALL LETTER A WITH BREVE AND GRAVE;CAPITAL LETTER A WITH BREVE AND HOOK ABOVE",
  "1eb3;LATIN ;SMALL LETTER A WITH BREVE AND HOOK ABOVE;CAPITAL LETTER A WITH BREVE AND TILDE",
  "1eb5;LATIN ;SMALL LETTER A WITH BREVE AND TILDE;CAPITAL LETTER A WITH BREVE AND DOT BELOW",
  "1eb7;LATIN ;SMALL LETTER A WITH BREVE AND DOT BELOW;CAPITAL LETTER E WITH DOT BELOW",
  "1eb9;LATIN ;SMALL LETTER E WITH DOT BELOW;CAPITAL LETTER E WITH HOOK ABOVE",
  "1ebb;LATIN ;SMALL LETTER E WITH HOOK ABOVE;CAPITAL LETTER E WITH TILDE",
  "1ebd;LATIN ;SMALL LETTER E WITH TILDE;CAPITAL LETTER E WITH CIRCUMFLEX AND ACUTE",
  "1ebf;;LATIN SMALL LETTER E WITH CIRCUMFLEX AND ACUTE",
  "1ec0;;LATIN CAPITAL LETTER E WITH CIRCUMFLEX AND GRAVE",
  "1ec1;;LATIN SMALL LETTER E WITH CIRCUMFLEX AND GRAVE",
  "1ec2;;LATIN CAPITAL LETTER E WITH CIRCUMFLEX AND HOOK ABOVE",
  "1ec3;;LATIN SMALL LETTER E WITH CIRCUMFLEX AND HOOK ABOVE",
  "1ec4;;LATIN CAPITAL LETTER E WITH CIRCUMFLEX AND TILDE",
  "1ec5;;LATIN SMALL LETTER E WITH CIRCUMFLEX AND TILDE",
  "1ec6;;LATIN CAPITAL LETTER E WITH CIRCUMFLEX AND DOT BELOW",
  "1ec7;LATIN ;SMALL LETTER E WITH CIRCUMFLEX AND DOT BELOW;CAPITAL LETTER I WITH HOOK ABOVE",
  "1ec9;LATIN ;SMALL LETTER I WITH HOOK ABOVE;CAPITAL LETTER I WITH DOT BELOW",
  "1ecb;LATIN ;SMALL LETTER I WITH DOT BELOW;CAPITAL LETTER O WITH DOT BELOW",
  "1ecd;LATIN ;SMALL LETTER O WITH DOT BELOW;CAPITAL LETTER O WITH HOOK ABOVE",
  "1ecf;LATIN ;SMALL LETTER O WITH HOOK ABOVE;CAPITAL LETTER O WITH CIRCUMFLEX AND ACUTE",
  "1ed1;;LATIN SMALL LETTER O WITH CIRCUMFLEX AND ACUTE",
  "1ed2;;LATIN CAPITAL LETTER O WITH CIRCUMFLEX AND GRAVE",
  "1ed3;;LATIN SMALL LETTER O WITH CIRCUMFLEX AND GRAVE",
  "1ed4;;LATIN CAPITAL LETTER O WITH CIRCUMFLEX AND HOOK ABOVE",
  "1ed5;;LATIN SMALL LETTER O WITH CIRCUMFLEX AND HOOK ABOVE",
  "1ed6;;LATIN CAPITAL LETTER O WITH CIRCUMFLEX AND TILDE",
  "1ed7;;LATIN SMALL LETTER O WITH CIRCUMFLEX AND TILDE",
  "1ed8;;LATIN CAPITAL LETTER O WITH CIRCUMFLEX AND DOT BELOW",
  "1ed9;LATIN ;SMALL LETTER O WITH CIRCUMFLEX AND DOT BELOW;CAPITAL LETTER O WITH HORN AND ACUTE",
  "1edb;LATIN ;SMALL LETTER O WITH HORN AND ACUTE;CAPITAL LETTER O WITH HORN AND GRAVE",
  "1edd;LATIN ;SMALL LETTER O WITH HORN AND GRAVE;CAPITAL LETTER O WITH HORN AND HOOK ABOVE",
  "1edf;LATIN ;SMALL LETTER O WITH HORN AND HOOK ABOVE;CAPITAL LETTER O WITH HORN AND TILDE",
  "1ee1;LATIN ;SMALL LETTER O WITH HORN AND TILDE;CAPITAL LETTER O WITH HORN AND DOT BELOW",
  "1ee3;LATIN ;SMALL LETTER O WITH HORN AND DOT BELOW;CAPITAL LETTER U WITH DOT BELOW",
  "1ee5;LATIN ;SMALL LETTER U WITH DOT BELOW;CAPITAL LETTER U WITH HOOK ABOVE",
  "1ee7;LATIN ;SMALL LETTER U WITH HOOK ABOVE;CAPITAL LETTER U WITH HORN AND ACUTE",
  "1ee9;LATIN ;SMALL LETTER U WITH HORN AND ACUTE;CAPITAL LETTER U WITH HORN AND GRAVE",
  "1eeb;LATIN ;SMALL LETTER U WITH HORN AND GRAVE;CAPITAL LETTER U WITH HORN AND HOOK ABOVE",
  "1eed;LATIN ;SMALL LETTER U WITH HORN AND HOOK ABOVE;CAPITAL LETTER U WITH HORN AND TILDE",
  "1eef;LATIN ;SMALL LETTER U WITH HORN AND TILDE;CAPITAL LETTER U WITH HORN AND DOT BELOW",
  "1ef1;LATIN ;SMALL LETTER U WITH HORN AND DOT BELOW;CAPITAL LETTER Y WITH GRAVE",
  "1ef3;LATIN ;SMALL LETTER Y WITH GRAVE;CAPITAL LETTER Y WITH DOT BELOW",
  "1ef5;LATIN ;SMALL LETTER Y WITH DOT BELOW;CAPITAL LETTER Y WITH HOOK ABOVE",
  "1ef7;LATIN ;SMALL LETTER Y WITH HOOK ABOVE;CAPITAL LETTER Y WITH TILDE",
  "1ef9;LATIN ;SMALL LETTER Y WITH TILDE;CAPITAL LETTER MIDDLE-WELSH LL",
  "1efb;LATIN ;SMALL LETTER MIDDLE-WELSH LL;CAPITAL LETTER MIDDLE-WELSH V",
  "1efd;LATIN ;SMALL LETTER MIDDLE-WELSH V;CAPITAL LETTER Y WITH LOOP;SMALL LETTER Y WITH LOOP",
  "1f00;GREEK SMALL LETTER ALPHA WITH ;PSILI;DASIA;PSILI AND VARIA;DASIA AND VARIA;PSILI AND OXIA",
  "1f05;GREEK SMALL LETTER ALPHA WITH ;DASIA AND OXIA;PSILI AND PERISPOMENI;DASIA AND PERISPOMENI",
  "1f08;GREEK CAPITAL LETTER ALPHA WITH ;PSILI;DASIA;PSILI AND VARIA;DASIA AND VARIA",
  "1f0c;GREEK CAPITAL LETTER ALPHA WITH ;PSILI AND OXIA;DASIA AND OXIA;PSILI AND PERISPOMENI",
  "1f0f;GREEK ;CAPITAL LETTER ALPHA WITH DASIA AND PERISPOMENI;SMALL LETTER EPSILON WITH PSILI",
  "1f11;GREEK SMALL LETTER EPSILON WITH ;DASIA;PSILI AND VARIA;DASIA AND VARIA;PSILI AND OXIA",
  "1f15;;GREEK SMALL LETTER EPSILON WITH DASIA AND OXIA",
  "1f18;GREEK CAPITAL LETTER EPSILON WITH ;PSILI;DASIA;PSILI AND VARIA;DASIA AND VARIA",
  "1f1c;GREEK CAPITAL LETTER EPSILON WITH ;PSILI AND OXIA;DASIA AND OXIA",
  "1f20;GREEK SMALL LETTER ETA WITH ;PSILI;DASIA;PSILI AND VARIA;DASIA AND VARIA;PSILI AND OXIA",
  "1f25;GREEK SMALL LETTER ETA WITH ;DASIA AND OXIA;PSILI AND PERISPOMENI;DASIA AND PERISPOMENI",
  "1f28;GREEK CAPITAL LETTER ETA WITH ;PSILI;DASIA;PSILI AND VARIA;DASIA AND VARIA;PSILI AND OXIA",
  "1f2d;GREEK CAPITAL LETTER ETA WITH ;DASIA AND OXIA;PSILI AND PERISPOMENI;DASIA AND PERISPOMENI",
  "1f30;GREEK SMALL LETTER IOTA WITH ;PSILI;DASIA;PSILI AND VARIA;DASIA AND VARIA;PSILI AND OXIA",
  "1f35;GREEK SMALL LETTER IOTA WITH ;DASIA AND OXIA;PSILI AND PERISPOMENI;DASIA AND PERISPOMENI",
  "1f38;GREEK CAPITAL LETTER IOTA WITH ;PSILI;DASIA;PSILI AND VARIA;DASIA AND VARIA",
  "1f3c;GREEK CAPITAL LETTER IOTA WITH ;PSILI AND OXIA;DASIA AND OXIA;PSILI AND PERISPOMENI",
  "1f3f;GREEK ;CAPITAL LETTER IOTA WITH DASIA AND PERISPOMENI;SMALL LETTER OMICRON WITH PSILI",
  "1f41;GREEK SMALL LETTER OMICRON WITH ;DASIA;PSILI AND VARIA;DASIA AND VARIA;PSILI AND OXIA",
  "1f45;;GREEK SMALL LETTER OMICRON WITH DASIA AND OXIA",
  "1f48;GREEK CAPITAL LETTER OMICRON WITH ;PSILI;DASIA;PSILI AND VARIA;DASIA AND VARIA",
  "1f4c;GREEK CAPITAL LETTER OMICRON WITH ;PSILI AND OXIA;DASIA AND OXIA",
  "1f50;GREEK SMALL LETTER UPSILON WITH ;PSILI;DASIA;PSILI AND VARIA;DASIA AND VARIA",
  "1f54;GREEK SMALL LETTER UPSILON WITH ;PSILI AND OXIA;DASIA AND OXIA;PSILI AND PERISPOMENI",
  "1f57;;GREEK SMALL LETTER UPSILON WITH DASIA AND PERISPOMENI",
  "1f59;;GREEK CAPITAL LETTER UPSILON WITH DASIA",
  "1f5b;;GREEK CAPITAL LETTER UPSILON WITH DASIA AND VARIA",
  "1f5d;;GREEK CAPITAL LETTER UPSILON WITH DASIA AND OXIA",
  "1f5f;GREEK ;CAPITAL LETTER UPSILON WITH DASIA AND PERISPOMENI;SMALL LETTER OMEGA WITH PSILI",
  "1f61;GREEK SMALL LETTER OMEGA WITH ;DASIA;PSILI AND VARIA;DASIA AND VARIA;PSILI AND OXIA",
  "1f65;GREEK SMALL LETTER OMEGA WITH ;DASIA AND OXIA;PSILI AND PERISPOMENI;DASIA AND PERISPOMENI",
  "1f68;GREEK CAPITAL LETTER OMEGA WITH ;PSILI;DASIA;PSILI AND VARIA;DASIA AND VARIA",
  "1f6c;GREEK CAPITAL LETTER OMEGA WITH ;PSILI AND OXIA;DASIA AND OXIA;PSILI AND PERISPOMENI",
  "1f6f;GREEK ;CAPITAL LETTER OMEGA WITH DASIA AND PERISPOMENI;SMALL LETTER ALPHA WITH VARIA",
  "1f71;GREEK SMALL LETTER ;ALPHA WITH OXIA;EPSILON WITH VARIA;EPSILON WITH OXIA;ETA WITH VARIA",
  "1f75;GREEK SMALL LETTER ;ETA WITH OXIA;IOTA WITH VARIA;IOTA WITH OXIA;OMICRON WITH VARIA",
  "1f79;GREEK SMALL LETTER ;OMICRON WITH OXIA;UPSILON WITH VARIA;UPSILON WITH OXIA",
  "1f7c;GREEK SMALL LETTER OMEGA WITH ;VARIA;OXIA",
  "1f80;GREEK SMALL LETTER ALPHA WITH ;PSILI AND YPOGEGRAMMENI;DASIA AND YPOGEGRAMMENI",
  "1f82;;GREEK SMALL LETTER ALPHA WITH PSILI AND VARIA AND YPOGEGRAMMENI",
  "1f83;;GREEK SMALL LETTER ALPHA WITH DASIA AND VARIA AND YPOGEGRAMMENI",
  "1f84;;GREEK SMALL LETTER ALPHA WITH PSILI AND OXIA AND YPOGEGRAMMENI",
  "1f85;;GREEK SMALL LETTER ALPHA WITH DASIA AND OXIA AND YPOGEGRAMMENI",
  "1f86;;GREEK SMALL LETTER ALPHA WITH PSILI AND PERISPOMENI AND YPOGEGRAMMENI",
  "1f87;;GREEK SMALL LETTER ALPHA WITH DASIA AND PERISPOMENI AND YPOGEGRAMMENI",
  "1f88;GREEK CAPITAL LETTER ALPHA WITH ;PSILI AND PROSGEGRAMMENI;DASIA AND PROSGEGRAMMENI",
  "1f8a;;GREEK CAPITAL LETTER ALPHA WITH PSILI AND VARIA AND PROSGEGRAMMENI",
  "1f8b;;GREEK CAPITAL LETTER ALPHA WITH DASIA AND VARIA AND PROSGEGRAMMENI",
  "1f8c;;GREEK CAPITAL LETTER ALPHA WITH PSILI AND OXIA AND PROSGEGRAMMENI",
  "1f8d;;GREEK CAPITAL LETTER ALPHA WITH DASIA AND OXIA AND PROSGEGRAMMENI",
  "1f8e;;GREEK CAPITAL LETTER ALPHA WITH PSILI AND PERISPOMENI AND PROSGEGRAMMENI",
  "1f8f;;GREEK CAPITAL LETTER ALPHA WITH DASIA AND PERISPOMENI AND PROSGEGRAMMENI",
  "1f90;GREEK SMALL LETTER ETA WITH ;PSILI AND YPOGEGRAMMENI;DASIA AND YPOGEGRAMMENI",
  "1f92;;GREEK SMALL LETTER ETA WITH PSILI AND VARIA AND YPOGEGRAMMENI",
  "1f93;;GREEK SMALL LETTER ETA WITH DASIA AND VARIA AND YPOGEGRAMMENI",
  "1f94;;GREEK SMALL LETTER ETA WITH PSILI AND OXIA AND YPOGEGRAMMENI",
  "1f95;;GREEK SMALL LETTER ETA WITH DASIA AND OXIA AND YPOGEGRAMMENI",
  "1f96;;GREEK SMALL LETTER ETA WITH PSILI AND PERISPOMENI AND YPOGEGRAMMENI",
  "1f97;;GREEK SMALL LETTER ETA WITH DASIA AND PERISPOMENI AND YPOGEGRAMMENI",
  "1f98;GREEK CAPITAL LETTER ETA WITH ;PSILI AND PROSGEGRAMMENI;DASIA AND PROSGEGRAMMENI",
  "1f9a;;GREEK CAPITAL LETTER ETA WITH PSILI AND VARIA AND PROSGEGRAMMENI",
  "1f9b;;GREEK CAPITAL LETTER ETA WITH DASIA AND VARIA AND PROSGEGRAMMENI",
  "1f9c;;GREEK CAPITAL LETTER ETA WITH PSILI AND OXIA AND PROSGEGRAMMENI",
  "1f9d;;GREEK CAPITAL LETTER ETA WITH DASIA AND OXIA AND PROSGEGRAMMENI",
  "1f9e;;GREEK CAPITAL LETTER ETA WITH PSILI AND PERISPOMENI AND PROSGEGRAMMENI",
  "1f9f;;GREEK CAPITAL LETTER ETA WITH DASIA AND PERISPOMENI AND PROSGEGRAMMENI",
  "1fa0;GREEK SMALL LETTER OMEGA WITH ;PSILI AND YPOGEGRAMMENI;DASIA AND YPOGEGRAMMENI",
  "1fa2;;GREEK SMALL LETTER OMEGA WITH PSILI AND VARIA AND YPOGEGRAMMENI",
  "1fa3;;GREEK SMALL LETTER OMEGA WITH DASIA AND VARIA AND YPOGEGRAMMENI",
  "1fa4;;GREEK SMALL LETTER OMEGA WITH PSILI AND OXIA AND YPOGEGRAMMENI",
  "1fa5;;GREEK SMALL LETTER OMEGA WITH DASIA AND OXIA AND YPOGEGRAMMENI",
  "1fa6;;GREEK SMALL LETTER OMEGA WITH PSILI AND PERISPOMENI AND YPOGEGRAMMENI",
  "1fa7;;GREEK SMALL LETTER OMEGA WITH DASIA AND PERISPOMENI AND YPOGEGRAMMENI",
  "1fa8;GREEK CAPITAL LETTER OMEGA WITH ;PSILI AND PROSGEGRAMMENI;DASIA AND PROSGEGRAMMENI",
  "1faa;;GREEK CAPITAL LETTER OMEGA WITH PSILI AND VARIA AND PROSGEGRAMMENI",
  "1fab;;GREEK CAPITAL LETTER OMEGA WITH DASIA AND VARIA AND PROSGEGRAMMENI",
  "1fac;;GREEK CAPITAL LETTER OMEGA WITH PSILI AND OXIA AND PROSGEGRAMMENI",
  "1fad;;GREEK CAPITAL LETTER OMEGA WITH DASIA AND OXIA AND PROSGEGRAMMENI",
  "1fae;;GREEK CAPITAL LETTER OMEGA WITH PSILI AND PERISPOMENI AND PROSGEGRAMMENI",
  "1faf;;GREEK CAPITAL LETTER OMEGA WITH DASIA AND PERISPOMENI AND PROSGEGRAMMENI",
  "1fb0;GREEK SMALL LETTER ALPHA WITH ;VRACHY;MACRON;VARIA AND YPOGEGRAMMENI;YPOGEGRAMMENI",
  "1fb4;;GREEK SMALL LETTER ALPHA WITH OXIA AND YPOGEGRAMMENI",
  "1fb6;GREEK SMALL LETTER ALPHA WITH ;PERISPOMENI;PERISPOMENI AND YPOGEGRAMMENI",
  "1fb8;GREEK CAPITAL LETTER ALPHA WITH ;VRACHY;MACRON;VARIA;OXIA;PROSGEGRAMMENI",
  "1fbd;GREEK ;KORONIS;PROSGEGRAMMENI;PSILI;PERISPOMENI;DIALYTIKA AND PERISPOMENI",
  "1fc2;GREEK SMALL LETTER ETA WITH ;VARIA AND YPOGEGRAMMENI;YPOGEGRAMMENI;OXIA AND YPOGEGRAMMENI",
  "1fc6;GREEK SMALL LETTER ETA WITH ;PERISPOMENI;PERISPOMENI AND YPOGEGRAMMENI",
  "1fc8;GREEK CAPITAL LETTER ;EPSILON WITH VARIA;EPSILON WITH OXIA;ETA WITH VARIA;ETA WITH OXIA",
  "1fcc;GREEK ;CAPITAL LETTER ETA WITH PROSGEGRAMMENI;PSILI AND VARIA;PSILI AND OXIA",
  "1fcf;GREEK ;PSILI AND PERISPOMENI;SMALL LETTER IOTA WITH VRACHY;SMALL LETTER IOTA WITH MACRON",
  "1fd2;GREEK SMALL LETTER IOTA WITH DIALYTIKA AND ;VARIA;OXIA",
  "1fd6;GREEK SMALL LETTER IOTA WITH ;PERISPOMENI;DIALYTIKA AND PERISPOMENI",
  "1fd8;GREEK CAPITAL LETTER IOTA WITH ;VRACHY;MACRON;VARIA;OXIA",
  "1fdd;GREEK DASIA AND ;VARIA;OXIA;PERISPOMENI",
  "1fe0;GREEK SMALL LETTER UPSILON WITH ;VRACHY;MACRON;DIALYTIKA AND VARIA;DIALYTIKA AND OXIA",
  "1fe4;GREEK SMALL LETTER ;RHO WITH PSILI;RHO WITH DASIA;UPSILON WITH PERISPOMENI",
  "1fe7;;GREEK SMALL LETTER UPSILON WITH DIALYTIKA AND PERISPOMENI",
  "1fe8;GREEK CAPITAL LETTER UPSILON WITH ;VRACHY;MACRON;VARIA;OXIA",
  "1fec;GREEK ;CAPITAL LETTER RHO WITH DASIA;DIALYTIKA AND VARIA;DIALYTIKA AND OXIA;VARIA",
  "1ff2;GREEK SMALL LETTER OMEGA WITH ;VARIA AND YPOGEGRAMMENI;YPOGEGRAMMENI",
  "1ff4;;GREEK SMALL LETTER OMEGA WITH OXIA AND YPOGEGRAMMENI",
  "1ff6;GREEK SMALL LETTER OMEGA WITH ;PERISPOMENI;PERISPOMENI AND YPOGEGRAMMENI",
  "1ff8;GREEK CAPITAL LETTER ;OMICRON WITH VARIA;OMICRON WITH OXIA;OMEGA WITH VARIA",
  "1ffb;GREEK ;CAPITAL LETTER OMEGA WITH OXIA;CAPITAL LETTER OMEGA WITH PROSGEGRAMMENI;OXIA;DASIA"]

end FoldTree.Text
