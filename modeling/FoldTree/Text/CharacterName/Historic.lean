/-! Names of characters of scripts that are mostly no longer written, from Linear B to the kana of old
texts.
-/

namespace FoldTree.Text

/-- The names of characters from Linear B to signs of notation. -/
def historicLines : List String := [
  "10000;LINEAR B SYLLABLE ;B008 A;B038 E;B028 I;B061 O;B010 U;B001 DA;B045 DE;B007 DI;B014 DO",
  "10009;LINEAR B SYLLABLE ;B051 DU;B057 JA;B046 JE",
  "1000d;LINEAR B SYLLABLE ;B036 JO;B065 JU;B077 KA;B044 KE;B067 KI;B070 KO;B081 KU;B080 MA",
  "10015;LINEAR B SYLLABLE ;B013 ME;B073 MI;B015 MO;B023 MU;B006 NA;B024 NE;B030 NI;B052 NO",
  "1001d;LINEAR B SYLLABLE ;B055 NU;B003 PA;B072 PE;B039 PI;B011 PO;B050 PU;B016 QA;B078 QE",
  "10025;LINEAR B SYLLABLE ;B021 QI;B032 QO",
  "10028;LINEAR B SYLLABLE ;B060 RA;B027 RE;B053 RI;B002 RO;B026 RU;B031 SA;B009 SE;B041 SI",
  "10030;LINEAR B SYLLABLE ;B012 SO;B058 SU;B059 TA;B004 TE;B037 TI;B005 TO;B069 TU;B054 WA",
  "10038;LINEAR B SYLLABLE ;B075 WE;B040 WI;B042 WO",
  "1003c;LINEAR B SYLLABLE ;B017 ZA;B074 ZE",
  "1003f;LINEAR B SYLLABLE ;B020 ZO;B025 A2;B043 A3;B085 AU;B071 DWE;B090 DWO;B048 NWA;B029 PU2",
  "10047;LINEAR B SYLLABLE ;B062 PTE;B076 RA2;B033 RA3;B068 RO2;B066 TA2;B087 TWE;B091 TWO",
  "10050;LINEAR B SYMBOL ;B018;B019;B022;B034;B047;B049;B056;B063;B064;B079;B082;B083;B086;B089",
  "10080;LINEAR B IDEOGRAM ;B100 MAN;B102 WOMAN;B104 DEER;B105 EQUID;B105F MARE;B105M STALLION",
  "10086;LINEAR B IDEOGRAM ;B106F EWE;B106M RAM;B107F SHE-GOAT;B107M HE-GOAT;B108F SOW;B108M BOAR",
  "1008c;LINEAR B IDEOGRAM ;B109F COW;B109M BULL;B120 WHEAT;B121 BARLEY;B122 OLIVE;B123 SPICE",
  "10092;LINEAR B ;IDEOGRAM B125 CYPERUS;MONOGRAM B127 KAPO;MONOGRAM B128 KANAKO",
  "10095;LINEAR B ;IDEOGRAM B130 OIL;IDEOGRAM B131 WINE;IDEOGRAM B132;MONOGRAM B133 AREPA",
  "10099;LINEAR B ;MONOGRAM B135 MERI;IDEOGRAM B140 BRONZE;IDEOGRAM B141 GOLD;IDEOGRAM B142",
  "1009d;LINEAR B IDEOGRAM ;B145 WOOL;B146;B150;B151 HORN;B152;B153;B154",
  "100a4;LINEAR B ;MONOGRAM B156 TURO2;IDEOGRAM B157;IDEOGRAM B158;IDEOGRAM B159 CLOTH",
  "100a8;LINEAR B IDEOGRAM ;B160;B161;B162 GARMENT;B163 ARMOUR;B164;B165;B166;B167;B168;B169;B170",
  "100b3;LINEAR B IDEOGRAM ;B171;B172;B173 MONTH;B174;B176 TREE;B177;B178;B179;B180;B181;B182",
  "100be;LINEAR B IDEOGRAM ;B183;B184;B185;B189;B190;B191 HELMET;B220 FOOTSTOOL;B225 BATHTUB",
  "100c6;LINEAR B IDEOGRAM ;B230 SPEAR;B231 ARROW;B232;B233 SWORD;B234;B236;B240 WHEELED CHARIOT",
  "100cd;LINEAR B IDEOGRAM ;B241 CHARIOT;B242 CHARIOT FRAME;B243 WHEEL;B245;B246",
  "100d2;LINEAR B ;MONOGRAM B247 DIPTE;IDEOGRAM B248;IDEOGRAM B249;IDEOGRAM B251;IDEOGRAM B252",
  "100d7;LINEAR B IDEOGRAM ;B253;B254 DART;B255;B256;B257;B258;B259;VESSEL B155;VESSEL B200",
  "100e0;LINEAR B IDEOGRAM VESSEL ;B201;B202;B203;B204;B205;B206;B207;B208;B209;B210;B211;B212",
  "100ec;LINEAR B IDEOGRAM VESSEL ;B213;B214;B215;B216;B217;B218;B219;B221;B222;B226;B227;B228",
  "100f8;LINEAR B IDEOGRAM VESSEL ;B229;B250;B305",
  "10100;AEGEAN ;WORD SEPARATOR LINE;WORD SEPARATOR DOT;CHECK MARK",
  "10107;AEGEAN NUMBER ;ONE;TWO;THREE;FOUR;FIVE;SIX;SEVEN;EIGHT;NINE;TEN;TWENTY;THIRTY;FORTY",
  "10114;AEGEAN NUMBER ;FIFTY;SIXTY;SEVENTY;EIGHTY;NINETY;ONE HUNDRED;TWO HUNDRED;THREE HUNDRED",
  "1011c;AEGEAN NUMBER ;FOUR HUNDRED;FIVE HUNDRED;SIX HUNDRED;SEVEN HUNDRED;EIGHT HUNDRED",
  "10121;AEGEAN NUMBER ;NINE HUNDRED;ONE THOUSAND;TWO THOUSAND;THREE THOUSAND;FOUR THOUSAND",
  "10126;AEGEAN NUMBER ;FIVE THOUSAND;SIX THOUSAND;SEVEN THOUSAND;EIGHT THOUSAND;NINE THOUSAND",
  "1012b;AEGEAN NUMBER ;TEN THOUSAND;TWENTY THOUSAND;THIRTY THOUSAND;FORTY THOUSAND",
  "1012f;AEGEAN NUMBER ;FIFTY THOUSAND;SIXTY THOUSAND;SEVENTY THOUSAND;EIGHTY THOUSAND",
  "10133;;AEGEAN NUMBER NINETY THOUSAND",
  "10137;AEGEAN WEIGHT ;BASE UNIT;FIRST SUBUNIT;SECOND SUBUNIT;THIRD SUBUNIT;FOURTH SUBUNIT",
  "1013c;AEGEAN ;DRY MEASURE FIRST SUBUNIT;LIQUID MEASURE FIRST SUBUNIT;MEASURE SECOND SUBUNIT",
  "1013f;;AEGEAN MEASURE THIRD SUBUNIT;GREEK ACROPHONIC ATTIC ONE QUARTER",
  "10141;GREEK ACROPHONIC ATTIC ;ONE HALF;ONE DRACHMA;FIVE;FIFTY;FIVE HUNDRED;FIVE THOUSAND",
  "10147;GREEK ACROPHONIC ATTIC ;FIFTY THOUSAND;FIVE TALENTS;TEN TALENTS;FIFTY TALENTS",
  "1014b;GREEK ACROPHONIC ATTIC ;ONE HUNDRED TALENTS;FIVE HUNDRED TALENTS;ONE THOUSAND TALENTS",
  "1014e;GREEK ACROPHONIC ATTIC ;FIVE THOUSAND TALENTS;FIVE STATERS;TEN STATERS;FIFTY STATERS",
  "10152;GREEK ACROPHONIC ATTIC ;ONE HUNDRED STATERS;FIVE HUNDRED STATERS;ONE THOUSAND STATERS",
  "10155;GREEK ACROPHONIC ATTIC ;TEN THOUSAND STATERS;FIFTY THOUSAND STATERS;TEN MNAS",
  "10158;GREEK ACROPHONIC ;HERAEUM ONE PLETHRON;THESPIAN ONE;HERMIONIAN ONE;EPIDAUREAN TWO",
  "1015c;GREEK ACROPHONIC ;THESPIAN TWO;CYRENAIC TWO DRACHMAS;EPIDAUREAN TWO DRACHMAS",
  "1015f;GREEK ACROPHONIC TROEZENIAN ;FIVE;TEN;TEN ALTERNATE FORM",
  "10162;GREEK ACROPHONIC ;HERMIONIAN TEN;MESSENIAN TEN;THESPIAN TEN;THESPIAN THIRTY",
  "10166;GREEK ACROPHONIC ;TROEZENIAN FIFTY;TROEZENIAN FIFTY ALTERNATE FORM;HERMIONIAN FIFTY",
  "10169;GREEK ACROPHONIC THESPIAN ;FIFTY;ONE HUNDRED;THREE HUNDRED",
  "1016c;GREEK ACROPHONIC ;EPIDAUREAN FIVE HUNDRED;TROEZENIAN FIVE HUNDRED;THESPIAN FIVE HUNDRED",
  "1016f;GREEK ACROPHONIC ;CARYSTIAN FIVE HUNDRED;NAXIAN FIVE HUNDRED;THESPIAN ONE THOUSAND",
  "10172;GREEK ACROPHONIC ;THESPIAN FIVE THOUSAND;DELPHIC FIVE MNAS;STRATIAN FIFTY MNAS",
  "10175;GREEK ;ONE HALF SIGN;ONE HALF SIGN ALTERNATE FORM;TWO THIRDS SIGN;THREE QUARTERS SIGN",
  "10179;GREEK ;YEAR SIGN;TALENT SIGN;DRACHMA SIGN;OBOL SIGN;TWO OBOLS SIGN;THREE OBOLS SIGN",
  "1017f;GREEK ;FOUR OBOLS SIGN;FIVE OBOLS SIGN;METRETES SIGN;KYATHOS BASE SIGN;LITRA SIGN",
  "10184;GREEK ;OUNKIA SIGN;XESTES SIGN;ARTABE SIGN;AROURA SIGN;GRAMMA SIGN;TRYBLION BASE SIGN",
  "1018a;GREEK ;ZERO SIGN;ONE QUARTER SIGN;SINUSOID SIGN;INDICTION SIGN",
  "1018e;;NOMISMA SIGN",
  "10190;ROMAN ;SEXTANS SIGN;UNCIA SIGN;SEMUNCIA SIGN;SEXTULA SIGN;DIMIDIA SEXTULA SIGN",
  "10195;ROMAN ;SILIQUA SIGN;DENARIUS SIGN;QUINARIUS SIGN;SESTERTIUS SIGN;DUPONDIUS SIGN;AS SIGN",
  "1019b;;ROMAN CENTURIAL SIGN;ASCIA SYMBOL",
  "101a0;;GREEK SYMBOL TAU RHO",
  "101d0;PHAISTOS DISC SIGN ;PEDESTRIAN;PLUMED HEAD;TATTOOED HEAD;CAPTIVE;CHILD;WOMAN;HELMET",
  "101d7;PHAISTOS DISC SIGN ;GAUNTLET;TIARA;ARROW;BOW;SHIELD;CLUB;MANACLES;MATTOCK;SAW;LID",
  "101e1;PHAISTOS DISC SIGN ;BOOMERANG;CARPENTRY PLANE;DOLIUM;COMB;SLING;COLUMN;BEEHIVE;SHIP;HORN",
  "101ea;PHAISTOS DISC SIGN ;HIDE;BULLS LEG;CAT;RAM;EAGLE;DOVE;TUNNY;BEE;PLANE TREE;VINE;PAPYRUS",
  "101f5;PHAISTOS DISC SIGN ;ROSETTE;LILY;OX BACK;FLUTE;GRATER;STRAINER;SMALL AXE;WAVY BAND",
  "101fd;;PHAISTOS DISC SIGN COMBINING OBLIQUE STROKE",
  "10280;LYCIAN LETTER ;A;E;B;BH;G;D;I;W;Z;TH;J;K;Q;L;M;N;MM;NN;U;P;KK;R;S;T;TT;AN;EN;H;X",
  "102a0;CARIAN LETTER ;A;P2;D;L;UUU;R;LD;A2;Q;B;M;O;D2;T;SH;SH2;S;C-18;U;NN;X;N;TT2;P;SS;I;E",
  "102bb;CARIAN LETTER ;UUUU;K;K2;ND;UU;G;G2;ST;ST2;NG;II;C-39;TT;UUU2;RR;MB;MB2;MB3;MB4;LD2;E2",
  "102d0;;CARIAN LETTER UUU3",
  "102e0;COPTIC EPACT ;THOUSANDS MARK;DIGIT ONE;DIGIT TWO;DIGIT THREE;DIGIT FOUR;DIGIT FIVE",
  "102e6;COPTIC EPACT ;DIGIT SIX;DIGIT SEVEN;DIGIT EIGHT;DIGIT NINE;NUMBER TEN;NUMBER TWENTY",
  "102ec;COPTIC EPACT NUMBER ;THIRTY;FORTY;FIFTY;SIXTY;SEVENTY;EIGHTY;NINETY;ONE HUNDRED",
  "102f4;COPTIC EPACT NUMBER ;TWO HUNDRED;THREE HUNDRED;FOUR HUNDRED;FIVE HUNDRED;SIX HUNDRED",
  "102f9;COPTIC EPACT NUMBER ;SEVEN HUNDRED;EIGHT HUNDRED;NINE HUNDRED",
  "10300;OLD ITALIC LETTER ;A;BE;KE;DE;E;VE;ZE;HE;THE;I;KA;EL;EM;EN;ESH;O;PE;SHE;KU;ER;ES;TE;U",
  "10317;OLD ITALIC LETTER ;EKS;PHE;KHE;EF;ERS;CHE;II;UU;ESS",
  "10320;OLD ITALIC NUMERAL ;ONE;FIVE;TEN;FIFTY",
  "1032d;OLD ITALIC LETTER ;YE;NORTHERN TSE;SOUTHERN TSE",
  "10330;GOTHIC LETTER ;AHSA;BAIRKAN;GIBA;DAGS;AIHVUS;QAIRTHRA;IUJA;HAGL;THIUTH;EIS;KUSMA;LAGUS",
  "1033c;GOTHIC LETTER ;MANNA;NAUTHS;JER;URUS;PAIRTHRA;NINETY;RAIDA;SAUIL;TEIWS;WINJA;FAIHU;IGGWS",
  "10348;GOTHIC LETTER ;HWAIR;OTHAL;NINE HUNDRED",
  "10350;OLD PERMIC LETTER ;AN;BUR;GAI;DOI;E;ZHOI;DZHOI;ZATA;DZITA;I;KOKE;LEI;MENOE;NENOE;VOOI",
  "1035f;OLD PERMIC LETTER ;PEEI;REI;SII;TAI;U;CHERY;SHOOI;SHCHOOI;YRY;YERU;O;OO;EF;HA;TSIU;VER",
  "1036f;OLD PERMIC LETTER ;YER;YERI;YAT;IE;YU;YA;IA",
  "10376;COMBINING OLD PERMIC LETTER ;AN;DOI;ZATA;NENOE;SII",
  "10380;UGARITIC LETTER ;ALPA;BETA;GAMLA;KHA;DELTA;HO;WO;ZETA;HOTA;TET;YOD;KAF;SHIN;LAMDA;MEM",
  "1038f;UGARITIC LETTER ;DHAL;NUN;ZU;SAMKA;AIN;PU;SADE;QOPA;RASHA;THANNA;GHAIN;TO;I;U;SSU",
  "1039f;;UGARITIC WORD DIVIDER;OLD PERSIAN SIGN A;OLD PERSIAN SIGN I;OLD PERSIAN SIGN U",
  "103a3;OLD PERSIAN SIGN ;KA;KU;GA;GU;XA;CA;JA;JI;TA;TU;DA;DI;DU;THA;PA;BA;FA;NA;NU;MA;MI;MU;YA",
  "103ba;OLD PERSIAN SIGN ;VA;VI;RA;RU;LA;SA;ZA;SHA;SSA;HA",
  "103c8;OLD PERSIAN SIGN ;AURAMAZDAA;AURAMAZDAA-2;AURAMAZDAAHA;XSHAAYATHIYA;DAHYAAUSH",
  "103cd;OLD PERSIAN ;SIGN DAHYAAUSH-2;SIGN BAGA;SIGN BUUMISH;WORD DIVIDER;NUMBER ONE;NUMBER TWO",
  "103d3;OLD PERSIAN NUMBER ;TEN;TWENTY;HUNDRED",
  "10400;DESERET CAPITAL LETTER ;LONG I;LONG E;LONG A;LONG AH;LONG O;LONG OO;SHORT I;SHORT E",
  "10408;DESERET CAPITAL LETTER ;SHORT A;SHORT AH;SHORT O;SHORT OO;AY;OW;WU;YEE;H;PEE;BEE;TEE;DEE",
  "10415;DESERET CAPITAL LETTER ;CHEE;JEE;KAY;GAY;EF;VEE;ETH;THEE;ES;ZEE;ESH;ZHEE;ER;EL;EM;EN;ENG",
  "10426;DESERET ;CAPITAL LETTER OI;CAPITAL LETTER EW;SMALL LETTER LONG I;SMALL LETTER LONG E",
  "1042a;DESERET SMALL LETTER ;LONG A;LONG AH;LONG O;LONG OO;SHORT I;SHORT E;SHORT A;SHORT AH",
  "10432;DESERET SMALL LETTER ;SHORT O;SHORT OO;AY;OW;WU;YEE;H;PEE;BEE;TEE;DEE;CHEE;JEE;KAY;GAY",
  "10441;DESERET SMALL LETTER ;EF;VEE;ETH;THEE;ES;ZEE;ESH;ZHEE;ER;EL;EM;EN;ENG;OI;EW",
  "10450;SHAVIAN LETTER ;PEEP;TOT;KICK;FEE;THIGH;SO;SURE;CHURCH;YEA;HUNG;BIB;DEAD;GAG;VOW;THEY",
  "1045f;SHAVIAN LETTER ;ZOO;MEASURE;JUDGE;WOE;HA-HA;LOLL;MIME;IF;EGG;ASH;ADO;ON;WOOL;OUT;AH;ROAR",
  "1046f;SHAVIAN LETTER ;NUN;EAT;AGE;ICE;UP;OAK;OOZE;OIL;AWE;ARE;OR;AIR;ERR;ARRAY;EAR;IAN;YEW",
  "10480;OSMANYA LETTER ;ALEF;BA;TA;JA;XA;KHA;DEEL;RA;SA;SHIIN;DHA;CAYN;GA;FA;QAAF;KAAF;LAAN;MIIN",
  "10492;OSMANYA LETTER ;NUUN;WAW;HA;YA;A;E;I;O;U;AA;EE;OO",
  "104a0;OSMANYA DIGIT ;ZERO;ONE;TWO;THREE;FOUR;FIVE;SIX;SEVEN;EIGHT;NINE",
  "104b0;OSAGE CAPITAL LETTER ;A;AI;AIN;AH;BRA;CHA;EHCHA;E;EIN;HA;HYA;I;KA;EHKA;KYA;LA;MA;NA;O",
  "104c3;OSAGE CAPITAL LETTER ;OIN;PA;EHPA;SA;SHA;TA;EHTA;TSA;EHTSA;TSHA;DHA;U;WA;KHA;GHA;ZA;ZHA",
  "104d8;OSAGE SMALL LETTER ;A;AI;AIN;AH;BRA;CHA;EHCHA;E;EIN;HA;HYA;I;KA;EHKA;KYA;LA;MA;NA;O;OIN",
  "104ec;OSAGE SMALL LETTER ;PA;EHPA;SA;SHA;TA;EHTA;TSA;EHTSA;TSHA;DHA;U;WA;KHA;GHA;ZA;ZHA",
  "10500;ELBASAN LETTER ;A;BE;CE;CHE;DE;NDE;DHE;EI;E;FE;GE;GJE;HE;I;JE;KE;LE;LLE;ME;NE;NA;NJE;O",
  "10517;ELBASAN LETTER ;PE;QE;RE;RRE;SE;SHE;TE;THE;U;VE;XE;Y;ZE;ZHE;GHE;GHAMMA;KHE",
  "10530;CAUCASIAN ALBANIAN LETTER ;ALT;BET;GIM;DAT;EB;ZARL;EYN;ZHIL;TAS;CHA;YOWD;ZHA;IRB;SHA;LAN",
  "1053f;CAUCASIAN ALBANIAN LETTER ;INYA;XEYN;DYAN;CAR;JHOX;KAR;LYIT;HEYT;QAY;AOR;CHOY;CHI;CYAY",
  "1054c;CAUCASIAN ALBANIAN LETTER ;MAQ;QAR;NOWC;DZYAY;SHAK;JAYN;ON;TYAY;FAM;DZAY;CHAT;PEN;GHEYS",
  "10559;CAUCASIAN ALBANIAN LETTER ;RAT;SEYK;VEYZ;TIWR;SHOY;IWN;CYAW;CAYN;YAYD;PIWR;KIW",
  "1056f;;CAUCASIAN ALBANIAN CITATION MARK;VITHKUQI CAPITAL LETTER A;VITHKUQI CAPITAL LETTER BBE",
  "10572;VITHKUQI CAPITAL LETTER ;BE;CE;CHE;DE;DHE;EI;E;FE;GA",
  "1057c;VITHKUQI CAPITAL LETTER ;HA;HHA;I;IJE;JE;KA;LA;LLA;ME;NE;NJE;O;PE;QA;RE",
  "1058c;VITHKUQI CAPITAL LETTER ;SE;SHE;TE;THE;U;VE;XE",
  "10594;VITHKUQI CAPITAL LETTER ;Y;ZE",
  "10597;VITHKUQI SMALL LETTER ;A;BBE;BE;CE;CHE;DE;DHE;EI;E;FE;GA",
  "105a3;VITHKUQI SMALL LETTER ;HA;HHA;I;IJE;JE;KA;LA;LLA;ME;NE;NJE;O;PE;QA;RE",
  "105b3;VITHKUQI SMALL LETTER ;SE;SHE;TE;THE;U;VE;XE",
  "105bb;VITHKUQI SMALL LETTER ;Y;ZE",
  "10600;LINEAR A SIGN ;AB001;AB002;AB003;AB004;AB005;AB006;AB007;AB008;AB009;AB010;AB011;AB013",
  "1060c;LINEAR A SIGN ;AB016;AB017;AB020;AB021;AB021F;AB021M;AB022;AB022F;AB022M;AB023;AB023M",
  "10617;LINEAR A SIGN ;AB024;AB026;AB027;AB028;A028B;AB029;AB030;AB031;AB034;AB037;AB038;AB039",
  "10623;LINEAR A SIGN ;AB040;AB041;AB044;AB045;AB046;AB047;AB048;AB049;AB050;AB051;AB053;AB054",
  "1062f;LINEAR A SIGN ;AB055;AB056;AB057;AB058;AB059;AB060;AB061;AB065;AB066;AB067;AB069;AB070",
  "1063b;LINEAR A SIGN ;AB073;AB074;AB076;AB077;AB078;AB079;AB080;AB081;AB082;AB085;AB086;AB087",
  "10647;LINEAR A SIGN ;A100-102;AB118;AB120;A120B;AB122;AB123;AB131A;AB131B;A131C;AB164;AB171",
  "10652;LINEAR A SIGN ;AB180;AB188;AB191;A301;A302;A303;A304;A305;A306;A307;A308;A309A;A309B",
  "1065f;LINEAR A SIGN ;A309C;A310;A311;A312;A313A;A313B;A313C;A314;A315;A316;A317;A318;A319;A320",
  "1066d;LINEAR A SIGN ;A321;A322;A323;A324;A325;A326;A327;A328;A329;A330;A331;A332;A333;A334",
  "1067b;LINEAR A SIGN ;A335;A336;A337;A338;A339;A340;A341;A342;A343;A344;A345;A346;A347;A348",
  "10689;LINEAR A SIGN ;A349;A350;A351;A352;A353;A354;A355;A356;A357;A358;A359;A360;A361;A362",
  "10697;LINEAR A SIGN ;A363;A364;A365;A366;A367;A368;A369;A370;A371;A400-VAS;A401-VAS;A402-VAS",
  "106a3;LINEAR A SIGN ;A403-VAS;A404-VAS;A405-VAS;A406-VAS;A407-VAS;A408-VAS;A409-VAS;A410-VAS",
  "106ab;LINEAR A SIGN ;A411-VAS;A412-VAS;A413-VAS;A414-VAS;A415-VAS;A416-VAS;A417-VAS;A418-VAS",
  "106b3;LINEAR A SIGN ;A501;A502;A503;A504;A505;A506;A508;A509;A510;A511;A512;A513;A515;A516",
  "106c1;LINEAR A SIGN ;A520;A521;A523;A524;A525;A526;A527;A528;A529;A530;A531;A532;A534;A535",
  "106cf;LINEAR A SIGN ;A536;A537;A538;A539;A540;A541;A542;A545;A547;A548;A549;A550;A551;A552",
  "106dd;LINEAR A SIGN ;A553;A554;A555;A556;A557;A559;A563;A564;A565;A566;A568;A569;A570;A571",
  "106eb;LINEAR A SIGN ;A572;A573;A574;A575;A576;A577;A578;A579;A580;A581;A582;A583;A584;A585",
  "106f9;LINEAR A SIGN ;A586;A587;A588;A589;A591;A592;A594;A595;A596;A598;A600;A601;A602;A603",
  "10707;LINEAR A SIGN ;A604;A606;A608;A609;A610;A611;A612;A613;A614;A615;A616;A617;A618;A619",
  "10715;LINEAR A SIGN ;A620;A621;A622;A623;A624;A626;A627;A628;A629;A634;A637;A638;A640;A642",
  "10723;LINEAR A SIGN ;A643;A644;A645;A646;A648;A649;A651;A652;A653;A654;A655;A656;A657;A658",
  "10731;LINEAR A SIGN ;A659;A660;A661;A662;A663;A664",
  "10740;LINEAR A SIGN ;A701 A;A702 B;A703 D;A704 E;A705 F;A706 H;A707 J;A708 K;A709 L;A709-2 L2",
  "1074a;LINEAR A SIGN ;A709-3 L3;A709-4 L4;A709-6 L6;A710 W;A711 X;A712 Y;A713 OMEGA;A714 ABB",
  "10752;LINEAR A SIGN ;A715 BB;A717 DD;A726 EYYY;A732 JE",
  "10760;LINEAR A SIGN ;A800;A801;A802;A803;A804;A805;A806;A807",
  "10780;MODIFIER LETTER ;SMALL CAPITAL AA;SUPERSCRIPT TRIANGULAR COLON",
  "10782;MODIFIER LETTER ;SUPERSCRIPT HALF TRIANGULAR COLON;SMALL AE;SMALL CAPITAL B",
  "10785;;MODIFIER LETTER SMALL B WITH HOOK",
  "10787;MODIFIER LETTER SMALL DZ ;DIGRAPH;DIGRAPH WITH RETROFLEX HOOK;DIGRAPH WITH CURL",
  "1078a;MODIFIER LETTER SMALL ;DEZH DIGRAPH;D WITH TAIL;D WITH HOOK;D WITH HOOK AND TAIL",
  "1078e;MODIFIER LETTER SMALL ;REVERSED E;CLOSED REVERSED OPEN E;FENG DIGRAPH;RAMS HORN",
  "10792;MODIFIER LETTER SMALL ;CAPITAL G;G WITH HOOK;CAPITAL G WITH HOOK;H WITH STROKE;CAPITAL H",
  "10797;MODIFIER LETTER SMALL ;HENG WITH HOOK;DOTLESS J WITH STROKE AND HOOK;LS DIGRAPH",
  "1079a;MODIFIER LETTER SMALL ;LZ DIGRAPH;L WITH BELT;CAPITAL L WITH BELT",
  "1079d;MODIFIER LETTER SMALL ;L WITH RETROFLEX HOOK AND BELT;LEZH;LEZH WITH RETROFLEX HOOK",
  "107a0;MODIFIER LETTER SMALL ;TURNED Y;TURNED Y WITH BELT;O WITH STROKE;CAPITAL OE;CLOSED OMEGA",
  "107a5;MODIFIER LETTER SMALL ;Q;TURNED R WITH LONG LEG",
  "107a7;MODIFIER LETTER SMALL ;TURNED R WITH LONG LEG AND RETROFLEX HOOK;R WITH TAIL",
  "107a9;MODIFIER LETTER SMALL ;R WITH FISHHOOK;CAPITAL R;TC DIGRAPH WITH CURL;TS DIGRAPH",
  "107ad;MODIFIER LETTER SMALL ;TS DIGRAPH WITH RETROFLEX HOOK;TESH DIGRAPH;T WITH RETROFLEX HOOK",
  "107b0;;MODIFIER LETTER SMALL V WITH RIGHT HOOK",
  "107b2;MODIFIER LETTER ;SMALL CAPITAL Y;GLOTTAL STOP WITH STROKE",
  "107b4;MODIFIER LETTER ;REVERSED GLOTTAL STOP WITH STROKE;BILABIAL CLICK;DENTAL CLICK",
  "107b7;MODIFIER LETTER ;LATERAL CLICK;ALVEOLAR CLICK;RETROFLEX CLICK WITH RETROFLEX HOOK",
  "107ba;;MODIFIER LETTER SMALL S WITH CURL",
  "10800;CYPRIOT SYLLABLE ;A;E;I;O;U;JA",
  "10808;;CYPRIOT SYLLABLE JO",
  "1080a;CYPRIOT SYLLABLE ;KA;KE;KI;KO;KU;LA;LE;LI;LO;LU;MA;ME;MI;MO;MU;NA;NE;NI;NO;NU;PA;PE;PI",
  "10821;CYPRIOT SYLLABLE ;PO;PU;RA;RE;RI;RO;RU;SA;SE;SI;SO;SU;TA;TE;TI;TO;TU;WA;WE;WI;WO",
  "10837;CYPRIOT SYLLABLE ;XA;XE",
  "1083c;;CYPRIOT SYLLABLE ZA",
  "1083f;;CYPRIOT SYLLABLE ZO;IMPERIAL ARAMAIC LETTER ALEPH;IMPERIAL ARAMAIC LETTER BETH",
  "10842;IMPERIAL ARAMAIC LETTER ;GIMEL;DALETH;HE;WAW;ZAYIN;HETH;TETH;YODH;KAPH;LAMEDH;MEM;NUN",
  "1084e;IMPERIAL ARAMAIC LETTER ;SAMEKH;AYIN;PE;SADHE;QOPH;RESH;SHIN;TAW",
  "10857;IMPERIAL ARAMAIC ;SECTION SIGN;NUMBER ONE;NUMBER TWO;NUMBER THREE;NUMBER TEN",
  "1085c;IMPERIAL ARAMAIC NUMBER ;TWENTY;ONE HUNDRED;ONE THOUSAND;TEN THOUSAND",
  "10860;PALMYRENE LETTER ;ALEPH;BETH;GIMEL;DALETH;HE;WAW;ZAYIN;HETH;TETH;YODH;KAPH;LAMEDH;MEM",
  "1086d;PALMYRENE LETTER ;FINAL NUN;NUN;SAMEKH;AYIN;PE;SADHE;QOPH;RESH;SHIN;TAW",
  "10877;PALMYRENE ;LEFT-POINTING FLEURON;RIGHT-POINTING FLEURON;NUMBER ONE;NUMBER TWO",
  "1087b;PALMYRENE NUMBER ;THREE;FOUR;FIVE;TEN;TWENTY",
  "10880;NABATAEAN LETTER ;FINAL ALEPH;ALEPH;FINAL BETH;BETH;GIMEL;DALETH;FINAL HE;HE;WAW;ZAYIN",
  "1088a;NABATAEAN LETTER ;HETH;TETH;FINAL YODH;YODH;FINAL KAPH;KAPH;FINAL LAMEDH;LAMEDH",
  "10892;NABATAEAN LETTER ;FINAL MEM;MEM;FINAL NUN;NUN;SAMEKH;AYIN;PE;SADHE;QOPH;RESH;FINAL SHIN",
  "1089d;NABATAEAN LETTER ;SHIN;TAW",
  "108a7;NABATAEAN ;NUMBER ONE;NUMBER TWO;NUMBER THREE;NUMBER FOUR;CRUCIFORM NUMBER FOUR",
  "108ac;NABATAEAN NUMBER ;FIVE;TEN;TWENTY;ONE HUNDRED",
  "108e0;HATRAN LETTER ;ALEPH;BETH;GIMEL;DALETH-RESH;HE;WAW;ZAYN;HETH;TETH;YODH;KAPH;LAMEDH;MEM",
  "108ed;HATRAN LETTER ;NUN;SAMEKH;AYN;PE;SADHE;QOPH",
  "108f4;HATRAN LETTER ;SHIN;TAW",
  "108fb;HATRAN NUMBER ;ONE;FIVE;TEN;TWENTY;ONE HUNDRED",
  "10900;PHOENICIAN LETTER ;ALF;BET;GAML;DELT;HE;WAU;ZAI;HET;TET;YOD;KAF;LAMD;MEM;NUN;SEMK;AIN;PE",
  "10911;PHOENICIAN ;LETTER SADE;LETTER QOF;LETTER ROSH;LETTER SHIN;LETTER TAU;NUMBER ONE",
  "10917;PHOENICIAN NUMBER ;TEN;TWENTY;ONE HUNDRED;TWO;THREE",
  "1091f;;PHOENICIAN WORD SEPARATOR;LYDIAN LETTER A;LYDIAN LETTER B;LYDIAN LETTER G",
  "10923;LYDIAN LETTER ;D;E;V;I;Y;K;L;M;N;O;R;SS;T;U;F;Q;S;TT;AN;EN;LY;NN;C",
  "1093f;;LYDIAN TRIANGULAR MARK",
  "10980;MEROITIC HIEROGLYPHIC LETTER ;A;E;I;O;YA;WA;BA;BA-2;PA;MA;NA;NA-2;NE;NE-2;RA;RA-2;LA;KHA",
  "10992;MEROITIC HIEROGLYPHIC LETTER ;HHA;SA;SA-2;SE;KA;QA;TA;TA-2;TE;TE-2;TO;DA",
  "1099e;MEROITIC ;HIEROGLYPHIC SYMBOL VIDJ;HIEROGLYPHIC SYMBOL VIDJ-2;CURSIVE LETTER A",
  "109a1;MEROITIC CURSIVE LETTER ;E;I;O;YA;WA;BA;PA;MA;NA;NE;RA;LA;KHA;HHA;SA;ARCHAIC SA;SE;KA;QA",
  "109b4;MEROITIC CURSIVE LETTER ;TA;TE;TO;DA",
  "109bc;MEROITIC CURSIVE ;FRACTION ELEVEN TWELFTHS;FRACTION ONE HALF;LOGOGRAM RMT;LOGOGRAM IMN",
  "109c0;MEROITIC CURSIVE NUMBER ;ONE;TWO;THREE;FOUR;FIVE;SIX;SEVEN;EIGHT;NINE;TEN;TWENTY;THIRTY",
  "109cc;MEROITIC CURSIVE NUMBER ;FORTY;FIFTY;SIXTY;SEVENTY",
  "109d2;MEROITIC CURSIVE NUMBER ;ONE HUNDRED;TWO HUNDRED;THREE HUNDRED;FOUR HUNDRED;FIVE HUNDRED",
  "109d7;MEROITIC CURSIVE NUMBER ;SIX HUNDRED;SEVEN HUNDRED;EIGHT HUNDRED;NINE HUNDRED",
  "109db;MEROITIC CURSIVE NUMBER ;ONE THOUSAND;TWO THOUSAND;THREE THOUSAND;FOUR THOUSAND",
  "109df;MEROITIC CURSIVE NUMBER ;FIVE THOUSAND;SIX THOUSAND;SEVEN THOUSAND;EIGHT THOUSAND",
  "109e3;MEROITIC CURSIVE NUMBER ;NINE THOUSAND;TEN THOUSAND;TWENTY THOUSAND;THIRTY THOUSAND",
  "109e7;MEROITIC CURSIVE NUMBER ;FORTY THOUSAND;FIFTY THOUSAND;SIXTY THOUSAND;SEVENTY THOUSAND",
  "109eb;MEROITIC CURSIVE NUMBER ;EIGHTY THOUSAND;NINETY THOUSAND;ONE HUNDRED THOUSAND",
  "109ee;MEROITIC CURSIVE NUMBER ;TWO HUNDRED THOUSAND;THREE HUNDRED THOUSAND",
  "109f0;MEROITIC CURSIVE NUMBER ;FOUR HUNDRED THOUSAND;FIVE HUNDRED THOUSAND",
  "109f2;MEROITIC CURSIVE NUMBER ;SIX HUNDRED THOUSAND;SEVEN HUNDRED THOUSAND",
  "109f4;MEROITIC CURSIVE NUMBER ;EIGHT HUNDRED THOUSAND;NINE HUNDRED THOUSAND",
  "109f6;MEROITIC CURSIVE FRACTION ;ONE TWELFTH;TWO TWELFTHS;THREE TWELFTHS;FOUR TWELFTHS",
  "109fa;MEROITIC CURSIVE FRACTION ;FIVE TWELFTHS;SIX TWELFTHS;SEVEN TWELFTHS;EIGHT TWELFTHS",
  "109fe;MEROITIC CURSIVE FRACTION ;NINE TWELFTHS;TEN TWELFTHS",
  "10a00;KHAROSHTHI ;LETTER A;VOWEL SIGN I;VOWEL SIGN U;VOWEL SIGN VOCALIC R",
  "10a05;KHAROSHTHI VOWEL SIGN ;E;O",
  "10a0c;KHAROSHTHI ;VOWEL LENGTH MARK;SIGN DOUBLE RING BELOW;SIGN ANUSVARA;SIGN VISARGA",
  "10a10;KHAROSHTHI LETTER ;KA;KHA;GA;GHA",
  "10a15;KHAROSHTHI LETTER ;CA;CHA;JA",
  "10a19;KHAROSHTHI LETTER ;NYA;TTA;TTHA;DDA;DDHA;NNA;TA;THA;DA;DHA;NA;PA;PHA;BA;BHA;MA;YA;RA;LA",
  "10a2c;KHAROSHTHI LETTER ;VA;SHA;SSA;SA;ZA;HA;KKA;TTTHA;TTTA;VHA",
  "10a38;KHAROSHTHI SIGN ;BAR ABOVE;CAUDA;DOT BELOW",
  "10a3f;KHAROSHTHI ;VIRAMA;DIGIT ONE;DIGIT TWO;DIGIT THREE;DIGIT FOUR;NUMBER TEN;NUMBER TWENTY",
  "10a46;KHAROSHTHI ;NUMBER ONE HUNDRED;NUMBER ONE THOUSAND;FRACTION ONE HALF",
  "10a50;KHAROSHTHI PUNCTUATION ;DOT;SMALL CIRCLE;CIRCLE;CRESCENT BAR;MANGALAM;LOTUS;DANDA",
  "10a57;KHAROSHTHI PUNCTUATION ;DOUBLE DANDA;LINES",
  "10a60;OLD SOUTH ARABIAN LETTER ;HE;LAMEDH;HETH;MEM;QOPH;WAW;SHIN;RESH;BETH;TAW;SAT;KAPH;NUN",
  "10a6d;OLD SOUTH ARABIAN LETTER ;KHETH;SADHE;SAMEKH;FE;ALEF;AYN;DHADHE;GIMEL;DALETH;GHAYN;TETH",
  "10a78;OLD SOUTH ARABIAN LETTER ;ZAYN;DHALETH;YODH;THAW;THETH",
  "10a7d;OLD SOUTH ARABIAN ;NUMBER ONE;NUMBER FIFTY;NUMERIC INDICATOR",
  "10a80;OLD NORTH ARABIAN LETTER ;HEH;LAM;HAH;MEEM;QAF;WAW;ES-2;REH;BEH;TEH;ES-1;KAF;NOON;KHAH",
  "10a8e;OLD NORTH ARABIAN LETTER ;SAD;ES-3;FEH;ALEF;AIN;DAD;GEEM;DAL;GHAIN;TAH;ZAIN;THAL;YEH",
  "10a9b;OLD NORTH ARABIAN ;LETTER THEH;LETTER ZAH;NUMBER ONE;NUMBER TEN;NUMBER TWENTY",
  "10ac0;MANICHAEAN LETTER ;ALEPH;BETH;BHETH;GIMEL;GHIMEL;DALETH;HE;WAW",
  "10ac8;MANICHAEAN ;SIGN UD;LETTER ZAYIN;LETTER ZHAYIN;LETTER JAYIN;LETTER JHAYIN;LETTER HETH",
  "10ace;MANICHAEAN LETTER ;TETH;YODH;KAPH;XAPH;KHAPH;LAMEDH;DHAMEDH;THAMEDH;MEM;NUN;SAMEKH;AYIN",
  "10ada;MANICHAEAN LETTER ;AAYIN;PE;FE;SADHE;QOPH;XOPH;QHOPH;RESH;SHIN;SSHIN;TAW",
  "10ae5;MANICHAEAN ABBREVIATION MARK ;ABOVE;BELOW",
  "10aeb;MANICHAEAN NUMBER ;ONE;FIVE;TEN;TWENTY;ONE HUNDRED",
  "10af0;MANICHAEAN PUNCTUATION ;STAR;FLEURON;DOUBLE DOT WITHIN DOT;DOT WITHIN DOT;DOT;TWO DOTS",
  "10af6;;MANICHAEAN PUNCTUATION LINE FILLER",
  "10b00;AVESTAN LETTER ;A;AA;AO;AAO;AN;AAN;AE;AEE;E;EE;O;OO;I;II;U;UU;KE;XE;XYE;XVE;GE;GGE;GHE",
  "10b17;AVESTAN LETTER ;CE;JE;TE;THE;DE;DHE;TTE;PE;FE;BE;BHE;NGE;NGYE;NGVE;NE;NYE;NNE;ME;HME;YYE",
  "10b2b;AVESTAN LETTER ;YE;VE;RE;LE;SE;ZE;SHE;ZHE;SHYE;SSHE;HE",
  "10b39;;AVESTAN ABBREVIATION MARK;TINY TWO DOTS OVER ONE DOT PUNCTUATION",
  "10b3b;;SMALL TWO DOTS OVER ONE DOT PUNCTUATION;LARGE TWO DOTS OVER ONE DOT PUNCTUATION",
  "10b3d;LARGE ;ONE DOT OVER TWO DOTS PUNCTUATION;TWO RINGS OVER ONE RING PUNCTUATION",
  "10b3f;;LARGE ONE RING OVER TWO RINGS PUNCTUATION;INSCRIPTIONAL PARTHIAN LETTER ALEPH",
  "10b41;INSCRIPTIONAL PARTHIAN LETTER ;BETH;GIMEL;DALETH;HE;WAW;ZAYIN;HETH;TETH;YODH;KAPH;LAMEDH",
  "10b4c;INSCRIPTIONAL PARTHIAN LETTER ;MEM;NUN;SAMEKH;AYIN;PE;SADHE;QOPH;RESH;SHIN;TAW",
  "10b58;INSCRIPTIONAL PARTHIAN NUMBER ;ONE;TWO;THREE;FOUR;TEN;TWENTY;ONE HUNDRED;ONE THOUSAND",
  "10b60;INSCRIPTIONAL PAHLAVI LETTER ;ALEPH;BETH;GIMEL;DALETH;HE;WAW-AYIN-RESH;ZAYIN;HETH;TETH",
  "10b69;INSCRIPTIONAL PAHLAVI LETTER ;YODH;KAPH;LAMEDH;MEM-QOPH;NUN;SAMEKH;PE;SADHE;SHIN;TAW",
  "10b78;INSCRIPTIONAL PAHLAVI NUMBER ;ONE;TWO;THREE;FOUR;TEN;TWENTY;ONE HUNDRED;ONE THOUSAND",
  "10b80;PSALTER PAHLAVI LETTER ;ALEPH;BETH;GIMEL;DALETH;HE;WAW-AYIN-RESH;ZAYIN;HETH;YODH;KAPH",
  "10b8a;PSALTER PAHLAVI LETTER ;LAMEDH;MEM-QOPH;NUN;SAMEKH;PE;SADHE;SHIN;TAW",
  "10b99;PSALTER PAHLAVI ;SECTION MARK;TURNED SECTION MARK;FOUR DOTS WITH CROSS",
  "10b9c;;PSALTER PAHLAVI FOUR DOTS WITH DOT",
  "10ba9;PSALTER PAHLAVI NUMBER ;ONE;TWO;THREE;FOUR;TEN;TWENTY;ONE HUNDRED",
  "10c00;OLD TURKIC LETTER ;ORKHON A;YENISEI A;YENISEI AE;ORKHON I;YENISEI I;YENISEI E;ORKHON O",
  "10c07;OLD TURKIC LETTER ;ORKHON OE;YENISEI OE;ORKHON AB;YENISEI AB;ORKHON AEB;YENISEI AEB",
  "10c0d;OLD TURKIC LETTER ;ORKHON AG;YENISEI AG;ORKHON AEG;YENISEI AEG;ORKHON AD;YENISEI AD",
  "10c13;OLD TURKIC LETTER ;ORKHON AED;ORKHON EZ;YENISEI EZ;ORKHON AY;YENISEI AY;ORKHON AEY",
  "10c19;OLD TURKIC LETTER ;YENISEI AEY;ORKHON AEK;YENISEI AEK;ORKHON OEK;YENISEI OEK;ORKHON AL",
  "10c1f;OLD TURKIC LETTER ;YENISEI AL;ORKHON AEL;ORKHON ELT;ORKHON EM;ORKHON AN;ORKHON AEN",
  "10c25;OLD TURKIC LETTER ;YENISEI AEN;ORKHON ENT;YENISEI ENT;ORKHON ENC;YENISEI ENC;ORKHON ENY",
  "10c2b;OLD TURKIC LETTER ;YENISEI ENY;YENISEI ANG;ORKHON ENG;YENISEI AENG;ORKHON EP;ORKHON OP",
  "10c31;OLD TURKIC LETTER ;ORKHON IC;ORKHON EC;YENISEI EC;ORKHON AQ;YENISEI AQ;ORKHON IQ",
  "10c37;OLD TURKIC LETTER ;YENISEI IQ;ORKHON OQ;YENISEI OQ;ORKHON AR;YENISEI AR;ORKHON AER",
  "10c3d;OLD TURKIC LETTER ;ORKHON AS;ORKHON AES;ORKHON ASH;YENISEI ASH;ORKHON ESH;YENISEI ESH",
  "10c43;OLD TURKIC LETTER ;ORKHON AT;YENISEI AT;ORKHON AET;YENISEI AET;ORKHON OT;ORKHON BASH",
  "10c80;OLD HUNGARIAN CAPITAL LETTER ;A;AA;EB;AMB;EC;ENC;ECS;ED;AND;E;CLOSE E;EE;EF;EG;EGY;EH;I",
  "10c91;OLD HUNGARIAN CAPITAL LETTER ;II;EJ;EK;AK;UNK;EL;ELY;EM;EN;ENY;O;OO;NIKOLSBURG OE",
  "10c9e;OLD HUNGARIAN CAPITAL LETTER ;RUDIMENTA OE;OEE;EP;EMP;ER;SHORT ER;ES;ESZ;ET;ENT;ETY;ECH",
  "10caa;OLD HUNGARIAN CAPITAL LETTER ;U;UU;NIKOLSBURG UE;RUDIMENTA UE;EV;EZ;EZS;ENT-SHAPED SIGN",
  "10cb2;;OLD HUNGARIAN CAPITAL LETTER US",
  "10cc0;OLD HUNGARIAN SMALL LETTER ;A;AA;EB;AMB;EC;ENC;ECS;ED;AND;E;CLOSE E;EE;EF;EG;EGY;EH;I;II",
  "10cd2;OLD HUNGARIAN SMALL LETTER ;EJ;EK;AK;UNK;EL;ELY;EM;EN;ENY;O;OO;NIKOLSBURG OE",
  "10cde;OLD HUNGARIAN SMALL LETTER ;RUDIMENTA OE;OEE;EP;EMP;ER;SHORT ER;ES;ESZ;ET;ENT;ETY;ECH;U",
  "10ceb;OLD HUNGARIAN SMALL LETTER ;UU;NIKOLSBURG UE;RUDIMENTA UE;EV;EZ;EZS;ENT-SHAPED SIGN;US",
  "10cfa;OLD HUNGARIAN NUMBER ;ONE;FIVE;TEN;FIFTY;ONE HUNDRED;ONE THOUSAND",
  "10d00;HANIFI ROHINGYA LETTER ;A;BA;PA;TA;TTA;JA;CA;HA;KHA;FA;DA;DDA;RA;RRA;ZA;SA;SHA;KA;GA;LA",
  "10d14;HANIFI ROHINGYA LETTER ;MA;NA;WA;KINNA WA;YA;KINNA YA;NGA;NYA;VA",
  "10d1d;HANIFI ROHINGYA ;VOWEL A;VOWEL I;VOWEL U;VOWEL E;VOWEL O;MARK SAKIN;MARK NA KHONNA",
  "10d24;HANIFI ROHINGYA SIGN ;HARBAHAY;TAHALA;TANA;TASSI",
  "10d30;HANIFI ROHINGYA DIGIT ;ZERO;ONE;TWO;THREE;FOUR;FIVE;SIX;SEVEN;EIGHT;NINE",
  "10e60;RUMI DIGIT ;ONE;TWO;THREE;FOUR;FIVE;SIX;SEVEN;EIGHT;NINE",
  "10e69;RUMI NUMBER ;TEN;TWENTY;THIRTY;FORTY;FIFTY;SIXTY;SEVENTY;EIGHTY;NINETY;ONE HUNDRED",
  "10e73;RUMI NUMBER ;TWO HUNDRED;THREE HUNDRED;FOUR HUNDRED;FIVE HUNDRED;SIX HUNDRED",
  "10e78;RUMI ;NUMBER SEVEN HUNDRED;NUMBER EIGHT HUNDRED;NUMBER NINE HUNDRED;FRACTION ONE HALF",
  "10e7c;RUMI FRACTION ;ONE QUARTER;ONE THIRD;TWO THIRDS",
  "10e80;YEZIDI LETTER ;ELIF;BE;PE;PHE;THE;SE;CIM;CHIM;CHHIM;HHA;XA;DAL;ZAL;RA;RHA;ZA;JA;SIN;SHIN",
  "10e93;YEZIDI LETTER ;SAD;DAD;TA;ZE;EYN;XHEYN;FA;VA;VA ALTERNATE FORM;QAF;KAF;KHAF;GAF;LAM;MIM",
  "10ea2;YEZIDI LETTER ;NUN;UM;WAW;OW;EW;HAY;YOT;ET",
  "10eab;YEZIDI ;COMBINING HAMZA MARK;COMBINING MADDA MARK;HYPHENATION MARK",
  "10eb0;YEZIDI LETTER ;LAM WITH DOT ABOVE;YOT WITH CIRCUMFLEX ABOVE",
  "10f00;OLD SOGDIAN LETTER ;ALEPH;FINAL ALEPH;BETH;FINAL BETH;GIMEL;HE;FINAL HE;WAW;ZAYIN;HETH",
  "10f0a;OLD SOGDIAN LETTER ;YODH;KAPH;LAMEDH;MEM;NUN;FINAL NUN;FINAL NUN WITH VERTICAL TAIL",
  "10f11;OLD SOGDIAN LETTER ;SAMEKH;AYIN;ALTERNATE AYIN;PE;SADHE;FINAL SADHE",
  "10f17;OLD SOGDIAN LETTER ;FINAL SADHE WITH VERTICAL TAIL;RESH-AYIN-DALETH;SHIN;TAW;FINAL TAW",
  "10f1c;OLD SOGDIAN ;LETTER FINAL TAW WITH VERTICAL TAIL;NUMBER ONE;NUMBER TWO;NUMBER THREE",
  "10f20;OLD SOGDIAN NUMBER ;FOUR;FIVE;TEN;TWENTY;THIRTY;ONE HUNDRED",
  "10f26;OLD SOGDIAN ;FRACTION ONE HALF;LIGATURE AYIN-DALETH",
  "10f30;SOGDIAN LETTER ;ALEPH;BETH;GIMEL;HE;WAW;ZAYIN;HETH;YODH;KAPH;LAMEDH;MEM;NUN;SAMEKH;AYIN",
  "10f3e;SOGDIAN LETTER ;PE;SADHE;RESH-AYIN;SHIN;TAW;FETH;LESH",
  "10f45;SOGDIAN ;INDEPENDENT SHIN;COMBINING DOT BELOW;COMBINING TWO DOTS BELOW",
  "10f48;SOGDIAN COMBINING ;DOT ABOVE;TWO DOTS ABOVE;CURVE ABOVE;CURVE BELOW;HOOK ABOVE",
  "10f4d;SOGDIAN COMBINING ;HOOK BELOW;LONG HOOK BELOW;RESH BELOW;STROKE BELOW",
  "10f51;SOGDIAN NUMBER ;ONE;TEN;TWENTY;ONE HUNDRED",
  "10f55;SOGDIAN PUNCTUATION ;TWO VERTICAL BARS;TWO VERTICAL BARS WITH DOTS;CIRCLE WITH DOT",
  "10f58;SOGDIAN PUNCTUATION ;TWO CIRCLES WITH DOTS;HALF CIRCLE WITH DOT",
  "10f70;OLD UYGHUR LETTER ;ALEPH;BETH;GIMEL-HETH;WAW;ZAYIN;FINAL HETH;YODH;KAPH;LAMEDH;MEM;NUN",
  "10f7b;OLD UYGHUR LETTER ;SAMEKH;PE;SADHE;RESH;SHIN;TAW;LESH",
  "10f82;OLD UYGHUR COMBINING ;DOT ABOVE;DOT BELOW;TWO DOTS ABOVE;TWO DOTS BELOW",
  "10f86;OLD UYGHUR PUNCTUATION ;BAR;TWO BARS;TWO DOTS;FOUR DOTS",
  "10fb0;CHORASMIAN LETTER ;ALEPH;SMALL ALEPH;BETH;GIMEL;DALETH;HE;WAW;CURLED WAW;ZAYIN;HETH;YODH",
  "10fbb;CHORASMIAN LETTER ;KAPH;LAMEDH;MEM;NUN;SAMEKH;AYIN;PE;RESH;SHIN;TAW",
  "10fc5;CHORASMIAN NUMBER ;ONE;TWO;THREE;FOUR;TEN;TWENTY;ONE HUNDRED",
  "10fe0;ELYMAIC LETTER ;ALEPH;BETH;GIMEL;DALETH;HE;WAW;ZAYIN;HETH;TETH;YODH;KAPH;LAMEDH;MEM;NUN",
  "10fee;ELYMAIC LETTER ;SAMEKH;AYIN;PE;SADHE;QOPH;RESH;SHIN;TAW",
  "10ff6;;ELYMAIC LIGATURE ZAYIN-YODH",
  "11000;BRAHMI SIGN ;CANDRABINDU;ANUSVARA;VISARGA;JIHVAMULIYA;UPADHMANIYA",
  "11005;BRAHMI LETTER ;A;AA;I;II;U;UU;VOCALIC R;VOCALIC RR;VOCALIC L;VOCALIC LL;E;AI;O;AU;KA;KHA",
  "11015;BRAHMI LETTER ;GA;GHA;NGA;CA;CHA;JA;JHA;NYA;TTA;TTHA;DDA;DDHA;NNA;TA;THA;DA;DHA;NA;PA",
  "11028;BRAHMI LETTER ;PHA;BA;BHA;MA;YA;RA;LA;VA;SHA;SSA;SA;HA;LLA;OLD TAMIL LLLA;OLD TAMIL RRA",
  "11037;BRAHMI ;LETTER OLD TAMIL NNNA;VOWEL SIGN AA;VOWEL SIGN BHATTIPROLU AA;VOWEL SIGN I",
  "1103b;BRAHMI VOWEL SIGN ;II;U;UU;VOCALIC R;VOCALIC RR;VOCALIC L;VOCALIC LL;E;AI;O;AU",
  "11046;BRAHMI ;VIRAMA;DANDA;DOUBLE DANDA;PUNCTUATION DOT;PUNCTUATION DOUBLE DOT",
  "1104b;BRAHMI PUNCTUATION ;LINE;CRESCENT BAR;LOTUS",
  "11052;BRAHMI NUMBER ;ONE;TWO;THREE;FOUR;FIVE;SIX;SEVEN;EIGHT;NINE;TEN;TWENTY;THIRTY;FORTY",
  "1105f;BRAHMI NUMBER ;FIFTY;SIXTY;SEVENTY;EIGHTY;NINETY;ONE HUNDRED;ONE THOUSAND",
  "11066;BRAHMI DIGIT ;ZERO;ONE;TWO;THREE;FOUR;FIVE;SIX;SEVEN;EIGHT;NINE",
  "11070;BRAHMI ;SIGN OLD TAMIL VIRAMA;LETTER OLD TAMIL SHORT E;LETTER OLD TAMIL SHORT O",
  "11073;BRAHMI ;VOWEL SIGN OLD TAMIL SHORT E;VOWEL SIGN OLD TAMIL SHORT O;LETTER OLD TAMIL LLA",
  "1107f;;BRAHMI NUMBER JOINER;KAITHI SIGN CANDRABINDU;KAITHI SIGN ANUSVARA;KAITHI SIGN VISARGA",
  "11083;KAITHI LETTER ;A;AA;I;II;U;UU;E;AI;O;AU;KA;KHA;GA;GHA;NGA;CA;CHA;JA;JHA;NYA;TTA;TTHA;DDA",
  "1109a;KAITHI LETTER ;DDDHA;DDHA;RHA;NNA;TA;THA;DA;DHA;NA;PA;PHA;BA;BHA;MA;YA;RA;LA;VA;SHA;SSA",
  "110ae;KAITHI ;LETTER SA;LETTER HA;VOWEL SIGN AA;VOWEL SIGN I;VOWEL SIGN II;VOWEL SIGN U",
  "110b4;KAITHI ;VOWEL SIGN UU;VOWEL SIGN E;VOWEL SIGN AI;VOWEL SIGN O;VOWEL SIGN AU;SIGN VIRAMA",
  "110ba;KAITHI ;SIGN NUKTA;ABBREVIATION SIGN;ENUMERATION SIGN;NUMBER SIGN;SECTION MARK",
  "110bf;KAITHI ;DOUBLE SECTION MARK;DANDA;DOUBLE DANDA;VOWEL SIGN VOCALIC R",
  "110cd;;KAITHI NUMBER SIGN ABOVE",
  "110d0;SORA SOMPENG LETTER ;SAH;TAH;BAH;CAH;DAH;GAH;MAH;NGAH;LAH;NAH;VAH;PAH;YAH;RAH;HAH;KAH",
  "110e0;SORA SOMPENG LETTER ;JAH;NYAH;AH;EEH;IH;UH;OH;EH;MAE",
  "110f0;SORA SOMPENG DIGIT ;ZERO;ONE;TWO;THREE;FOUR;FIVE;SIX;SEVEN;EIGHT;NINE",
  "11100;CHAKMA ;SIGN CANDRABINDU;SIGN ANUSVARA;SIGN VISARGA;LETTER AA;LETTER I;LETTER U;LETTER E",
  "11107;CHAKMA LETTER ;KAA;KHAA;GAA;GHAA;NGAA;CAA;CHAA;JAA;JHAA;NYAA;TTAA;TTHAA;DDAA;DDHAA;NNAA",
  "11116;CHAKMA LETTER ;TAA;THAA;DAA;DHAA;NAA;PAA;PHAA;BAA;BHAA;MAA;YYAA;YAA;RAA;LAA;WAA;SAA;HAA",
  "11127;CHAKMA VOWEL SIGN ;A;I;II;U;UU;E;AI;O;AU;OI",
  "11131;CHAKMA ;O MARK;AU MARK;VIRAMA;MAAYYAA",
  "11136;CHAKMA DIGIT ;ZERO;ONE;TWO;THREE;FOUR;FIVE;SIX;SEVEN;EIGHT;NINE",
  "11140;CHAKMA ;SECTION MARK;DANDA;DOUBLE DANDA;QUESTION MARK;LETTER LHAA;VOWEL SIGN AA",
  "11146;CHAKMA ;VOWEL SIGN EI;LETTER VAA",
  "11150;MAHAJANI LETTER ;A;I;U;E;O;KA;KHA;GA;GHA;CA;CHA;JA;JHA;NYA;TTA;TTHA;DDA;DDHA;NNA;TA;THA",
  "11165;MAHAJANI LETTER ;DA;DHA;NA;PA;PHA;BA;BHA;MA;RA;LA;VA;SA;HA;RRA",
  "11173;MAHAJANI ;SIGN NUKTA;ABBREVIATION SIGN;SECTION MARK;LIGATURE SHRI",
  "11180;SHARADA ;SIGN CANDRABINDU;SIGN ANUSVARA;SIGN VISARGA;LETTER A;LETTER AA;LETTER I",
  "11186;SHARADA LETTER ;II;U;UU;VOCALIC R;VOCALIC RR;VOCALIC L;VOCALIC LL;E;AI;O;AU;KA;KHA;GA",
  "11194;SHARADA LETTER ;GHA;NGA;CA;CHA;JA;JHA;NYA;TTA;TTHA;DDA;DDHA;NNA;TA;THA;DA;DHA;NA;PA;PHA",
  "111a7;SHARADA LETTER ;BA;BHA;MA;YA;RA;LA;LLA;VA;SHA;SSA;SA;HA",
  "111b3;SHARADA VOWEL SIGN ;AA;I;II;U;UU;VOCALIC R;VOCALIC RR;VOCALIC L;VOCALIC LL;E;AI;O;AU",
  "111c0;SHARADA ;SIGN VIRAMA;SIGN AVAGRAHA;SIGN JIHVAMULIYA;SIGN UPADHMANIYA;OM;DANDA",
  "111c6;SHARADA ;DOUBLE DANDA;ABBREVIATION SIGN;SEPARATOR;SANDHI MARK;SIGN NUKTA",
  "111cb;SHARADA ;VOWEL MODIFIER MARK;EXTRA SHORT VOWEL MARK;SUTRA MARK",
  "111ce;SHARADA ;VOWEL SIGN PRISHTHAMATRA E;SIGN INVERTED CANDRABINDU;DIGIT ZERO;DIGIT ONE",
  "111d2;SHARADA DIGIT ;TWO;THREE;FOUR;FIVE;SIX;SEVEN;EIGHT;NINE",
  "111da;SHARADA ;EKAM;SIGN SIDDHAM;HEADSTROKE;CONTINUATION SIGN;SECTION MARK-1;SECTION MARK-2",
  "111e1;SINHALA ARCHAIC DIGIT ;ONE;TWO;THREE;FOUR;FIVE;SIX;SEVEN;EIGHT;NINE",
  "111ea;SINHALA ARCHAIC NUMBER ;TEN;TWENTY;THIRTY;FORTY;FIFTY;SIXTY;SEVENTY;EIGHTY;NINETY",
  "111f3;SINHALA ARCHAIC NUMBER ONE ;HUNDRED;THOUSAND",
  "11200;KHOJKI LETTER ;A;AA;I;U;E;AI;O;AU;KA;KHA;GA;GGA;GHA;NGA;CA;CHA;JA;JJA",
  "11213;KHOJKI LETTER ;NYA;TTA;TTHA;DDA;DDHA;NNA;TA;THA;DA;DDDA;DHA;NA;PA;PHA;BA;BBA;BHA;MA;YA",
  "11226;KHOJKI ;LETTER RA;LETTER LA;LETTER VA;LETTER SA;LETTER HA;LETTER LLA;VOWEL SIGN AA",
  "1122d;KHOJKI VOWEL SIGN ;I;II;U;E;AI;O;AU",
  "11234;KHOJKI ;SIGN ANUSVARA;SIGN VIRAMA;SIGN NUKTA;SIGN SHADDA;DANDA;DOUBLE DANDA",
  "1123a;KHOJKI ;WORD SEPARATOR;SECTION MARK;DOUBLE SECTION MARK;ABBREVIATION SIGN;SIGN SUKUN",
  "11280;MULTANI LETTER ;A;I;U;E;KA;KHA;GA",
  "11288;;MULTANI LETTER GHA",
  "1128a;MULTANI LETTER ;CA;CHA;JA;JJA",
  "1128f;MULTANI LETTER ;NYA;TTA;TTHA;DDA;DDDA;DDHA;NNA;TA;THA;DA;DHA;NA;PA;PHA;BA",
  "1129f;MULTANI LETTER ;BHA;MA;YA;RA;LA;VA;SA;HA;RRA;RHA",
  "112a9;;MULTANI SECTION MARK",
  "112b0;KHUDAWADI LETTER ;A;AA;I;II;U;UU;E;AI;O;AU;KA;KHA;GA;GGA;GHA;NGA;CA;CHA;JA;JJA;JHA;NYA",
  "112c6;KHUDAWADI LETTER ;TTA;TTHA;DDA;DDDA;RRA;DDHA;NNA;TA;THA;DA;DHA;NA;PA;PHA;BA;BBA;BHA;MA",
  "112d8;KHUDAWADI LETTER ;YA;RA;LA;VA;SHA;SA;HA",
  "112df;KHUDAWADI ;SIGN ANUSVARA;VOWEL SIGN AA;VOWEL SIGN I;VOWEL SIGN II;VOWEL SIGN U",
  "112e4;KHUDAWADI VOWEL SIGN ;UU;E;AI;O;AU",
  "112e9;KHUDAWADI SIGN ;NUKTA;VIRAMA",
  "112f0;KHUDAWADI DIGIT ;ZERO;ONE;TWO;THREE;FOUR;FIVE;SIX;SEVEN;EIGHT;NINE",
  "11300;GRANTHA SIGN ;COMBINING ANUSVARA ABOVE;CANDRABINDU;ANUSVARA;VISARGA",
  "11305;GRANTHA LETTER ;A;AA;I;II;U;UU;VOCALIC R;VOCALIC L",
  "1130f;GRANTHA LETTER ;EE;AI",
  "11313;GRANTHA LETTER ;OO;AU;KA;KHA;GA;GHA;NGA;CA;CHA;JA;JHA;NYA;TTA;TTHA;DDA;DDHA;NNA;TA;THA",
  "11326;GRANTHA LETTER ;DA;DHA;NA",
  "1132a;GRANTHA LETTER ;PA;PHA;BA;BHA;MA;YA;RA",
  "11332;GRANTHA LETTER ;LA;LLA",
  "11335;GRANTHA LETTER ;VA;SHA;SSA;SA;HA",
  "1133b;;COMBINING BINDU BELOW;GRANTHA SIGN NUKTA;GRANTHA SIGN AVAGRAHA;GRANTHA VOWEL SIGN AA",
  "1133f;GRANTHA VOWEL SIGN ;I;II;U;UU;VOCALIC R;VOCALIC RR",
  "11347;GRANTHA VOWEL SIGN ;EE;AI",
  "1134b;GRANTHA ;VOWEL SIGN OO;VOWEL SIGN AU;SIGN VIRAMA",
  "11350;;GRANTHA OM",
  "11357;;GRANTHA AU LENGTH MARK",
  "1135d;GRANTHA ;SIGN PLUTA;LETTER VEDIC ANUSVARA;LETTER VEDIC DOUBLE ANUSVARA;LETTER VOCALIC RR",
  "11361;GRANTHA ;LETTER VOCALIC LL;VOWEL SIGN VOCALIC L;VOWEL SIGN VOCALIC LL",
  "11366;COMBINING GRANTHA DIGIT ;ZERO;ONE;TWO;THREE;FOUR;FIVE;SIX",
  "11370;COMBINING GRANTHA LETTER ;A;KA;NA;VI;PA",
  "11400;NEWA LETTER ;A;AA;I;II;U;UU;VOCALIC R;VOCALIC RR;VOCALIC L;VOCALIC LL;E;AI;O;AU;KA;KHA",
  "11410;NEWA LETTER ;GA;GHA;NGA;NGHA;CA;CHA;JA;JHA;NYA;NYHA;TTA;TTHA;DDA;DDHA;NNA;TA;THA;DA;DHA",
  "11423;NEWA LETTER ;NA;NHA;PA;PHA;BA;BHA;MA;MHA;YA;RA;RHA;LA;LHA;WA;SHA;SSA;SA;HA",
  "11435;NEWA VOWEL SIGN ;AA;I;II;U;UU;VOCALIC R;VOCALIC RR;VOCALIC L;VOCALIC LL;E;AI;O;AU",
  "11442;NEWA SIGN ;VIRAMA;CANDRABINDU;ANUSVARA;VISARGA;NUKTA;AVAGRAHA;FINAL ANUSVARA",
  "11449;NEWA ;OM;SIDDHI;DANDA;DOUBLE DANDA;COMMA;GAP FILLER;ABBREVIATION SIGN;DIGIT ZERO",
  "11451;NEWA DIGIT ;ONE;TWO;THREE;FOUR;FIVE;SIX;SEVEN;EIGHT;NINE",
  "1145a;NEWA ;DOUBLE COMMA;PLACEHOLDER MARK",
  "1145d;NEWA ;INSERTION SIGN;SANDHI MARK;LETTER VEDIC ANUSVARA;SIGN JIHVAMULIYA;SIGN UPADHMANIYA",
  "11480;TIRHUTA ;ANJI;LETTER A;LETTER AA;LETTER I;LETTER II;LETTER U;LETTER UU;LETTER VOCALIC R",
  "11488;TIRHUTA LETTER ;VOCALIC RR;VOCALIC L;VOCALIC LL;E;AI;O;AU;KA;KHA;GA;GHA;NGA;CA;CHA;JA",
  "11497;TIRHUTA LETTER ;JHA;NYA;TTA;TTHA;DDA;DDHA;NNA;TA;THA;DA;DHA;NA;PA;PHA;BA;BHA;MA;YA;RA;LA",
  "114ab;TIRHUTA ;LETTER VA;LETTER SHA;LETTER SSA;LETTER SA;LETTER HA;VOWEL SIGN AA;VOWEL SIGN I",
  "114b2;TIRHUTA VOWEL SIGN ;II;U;UU;VOCALIC R;VOCALIC RR;VOCALIC L;VOCALIC LL;E;SHORT E;AI;O",
  "114bd;TIRHUTA ;VOWEL SIGN SHORT O;VOWEL SIGN AU;SIGN CANDRABINDU;SIGN ANUSVARA;SIGN VISARGA",
  "114c2;TIRHUTA ;SIGN VIRAMA;SIGN NUKTA;SIGN AVAGRAHA;GVANG;ABBREVIATION SIGN;OM",
  "114d0;TIRHUTA DIGIT ;ZERO;ONE;TWO;THREE;FOUR;FIVE;SIX;SEVEN;EIGHT;NINE",
  "11580;SIDDHAM LETTER ;A;AA;I;II;U;UU;VOCALIC R;VOCALIC RR;VOCALIC L;VOCALIC LL;E;AI;O;AU;KA",
  "1158f;SIDDHAM LETTER ;KHA;GA;GHA;NGA;CA;CHA;JA;JHA;NYA;TTA;TTHA;DDA;DDHA;NNA;TA;THA;DA;DHA;NA",
  "115a2;SIDDHAM LETTER ;PA;PHA;BA;BHA;MA;YA;RA;LA;VA;SHA;SSA;SA;HA",
  "115af;SIDDHAM VOWEL SIGN ;AA;I;II;U;UU;VOCALIC R;VOCALIC RR",
  "115b8;SIDDHAM ;VOWEL SIGN E;VOWEL SIGN AI;VOWEL SIGN O;VOWEL SIGN AU;SIGN CANDRABINDU",
  "115bd;SIDDHAM ;SIGN ANUSVARA;SIGN VISARGA;SIGN VIRAMA;SIGN NUKTA;SIGN SIDDHAM;DANDA",
  "115c3;SIDDHAM ;DOUBLE DANDA;SEPARATOR DOT;SEPARATOR BAR;REPETITION MARK-1;REPETITION MARK-2",
  "115c8;SIDDHAM ;REPETITION MARK-3;END OF TEXT MARK",
  "115ca;SIDDHAM SECTION MARK WITH TRIDENT AND ;U-SHAPED ORNAMENTS;DOTTED CRESCENTS",
  "115cc;SIDDHAM SECTION MARK WITH RAYS AND DOTTED ;CRESCENTS;DOUBLE CRESCENTS;TRIPLE CRESCENTS",
  "115cf;SIDDHAM SECTION MARK ;DOUBLE RING;DOUBLE RING WITH RAYS;WITH DOUBLE CRESCENTS",
  "115d2;SIDDHAM SECTION MARK WITH ;TRIPLE CRESCENTS;QUADRUPLE CRESCENTS;SEPTUPLE CRESCENTS",
  "115d5;SIDDHAM SECTION MARK WITH CIRCLES AND ;RAYS;TWO ENCLOSURES;FOUR ENCLOSURES",
  "115d8;SIDDHAM LETTER ;THREE-CIRCLE ALTERNATE I;TWO-CIRCLE ALTERNATE I;TWO-CIRCLE ALTERNATE II",
  "115db;SIDDHAM ;LETTER ALTERNATE U;VOWEL SIGN ALTERNATE U;VOWEL SIGN ALTERNATE UU",
  "11600;MODI LETTER ;A;AA;I;II;U;UU;VOCALIC R;VOCALIC RR;VOCALIC L;VOCALIC LL;E;AI;O;AU;KA;KHA",
  "11610;MODI LETTER ;GA;GHA;NGA;CA;CHA;JA;JHA;NYA;TTA;TTHA;DDA;DDHA;NNA;TA;THA;DA;DHA;NA;PA;PHA",
  "11624;MODI LETTER ;BA;BHA;MA;YA;RA;LA;VA;SHA;SSA;SA;HA;LLA",
  "11630;MODI VOWEL SIGN ;AA;I;II;U;UU;VOCALIC R;VOCALIC RR;VOCALIC L;VOCALIC LL;E;AI;O;AU",
  "1163d;MODI ;SIGN ANUSVARA;SIGN VISARGA;SIGN VIRAMA;SIGN ARDHACANDRA;DANDA;DOUBLE DANDA",
  "11643;MODI ;ABBREVIATION SIGN;SIGN HUVA",
  "11650;MODI DIGIT ;ZERO;ONE;TWO;THREE;FOUR;FIVE;SIX;SEVEN;EIGHT;NINE",
  "11660;MONGOLIAN ;BIRGA WITH ORNAMENT;ROTATED BIRGA;DOUBLE BIRGA WITH ORNAMENT",
  "11663;MONGOLIAN ;TRIPLE BIRGA WITH ORNAMENT;BIRGA WITH DOUBLE ORNAMENT",
  "11665;MONGOLIAN ;ROTATED BIRGA WITH ORNAMENT;ROTATED BIRGA WITH DOUBLE ORNAMENT;INVERTED BIRGA",
  "11668;MONGOLIAN ;INVERTED BIRGA WITH DOUBLE ORNAMENT;SWIRL BIRGA;SWIRL BIRGA WITH ORNAMENT",
  "1166b;MONGOLIAN ;SWIRL BIRGA WITH DOUBLE ORNAMENT;TURNED SWIRL BIRGA WITH DOUBLE ORNAMENT",
  "11680;TAKRI LETTER ;A;AA;I;II;U;UU;E;AI;O;AU;KA;KHA;GA;GHA;NGA;CA;CHA;JA;JHA;NYA;TTA;TTHA;DDA",
  "11697;TAKRI LETTER ;DDHA;NNA;TA;THA;DA;DHA;NA;PA;PHA;BA;BHA;MA;YA;RA;LA;VA;SHA;SA;HA;RRA",
  "116ab;TAKRI ;SIGN ANUSVARA;SIGN VISARGA;VOWEL SIGN AA;VOWEL SIGN I;VOWEL SIGN II;VOWEL SIGN U",
  "116b1;TAKRI ;VOWEL SIGN UU;VOWEL SIGN E;VOWEL SIGN AI;VOWEL SIGN O;VOWEL SIGN AU;SIGN VIRAMA",
  "116b7;TAKRI ;SIGN NUKTA;LETTER ARCHAIC KHA;ABBREVIATION SIGN",
  "116c0;TAKRI DIGIT ;ZERO;ONE;TWO;THREE;FOUR;FIVE;SIX;SEVEN;EIGHT;NINE",
  "11700;AHOM LETTER ;KA;KHA;NGA;NA;TA;ALTERNATE TA;PA;PHA;BA;MA;JA;CHA;THA;RA;LA;SA;NYA;HA;A;DA",
  "11714;AHOM LETTER ;DHA;GA;ALTERNATE GA;GHA;BHA;JHA;ALTERNATE BA",
  "1171d;AHOM CONSONANT SIGN MEDIAL ;LA;RA;LIGATING RA",
  "11720;AHOM VOWEL SIGN ;A;AA;I;II;U;UU;E;AW;O;AI;AM",
  "1172b;;AHOM SIGN KILLER",
  "11730;AHOM DIGIT ;ZERO;ONE;TWO;THREE;FOUR;FIVE;SIX;SEVEN;EIGHT;NINE",
  "1173a;AHOM ;NUMBER TEN;NUMBER TWENTY;SIGN SMALL SECTION;SIGN SECTION;SIGN RULAI;SYMBOL VI",
  "11740;AHOM LETTER ;CA;TTA;TTHA;DDA;DDHA;NNA;LLA",
  "11800;DOGRA LETTER ;A;AA;I;II;U;UU;E;AI;O;AU;KA;KHA;GA;GHA;NGA;CA;CHA;JA;JHA;NYA;TTA;TTHA;DDA",
  "11817;DOGRA LETTER ;DDHA;NNA;TA;THA;DA;DHA;NA;PA;PHA;BA;BHA;MA;YA;RA;LA;VA;SHA;SSA;SA;HA;RRA",
  "1182c;DOGRA VOWEL SIGN ;AA;I;II;U;UU;VOCALIC R;VOCALIC RR;E;AI;O;AU",
  "11837;DOGRA ;SIGN ANUSVARA;SIGN VISARGA;SIGN VIRAMA;SIGN NUKTA;ABBREVIATION SIGN",
  "118a0;WARANG CITI CAPITAL LETTER ;NGAA;A;WI;YU;YA;YO;II;UU;E;O;ANG;GA;KO;ENY;YUJ;UC;ENN;ODD",
  "118b2;WARANG CITI CAPITAL LETTER ;TTE;NUNG;DA;AT;AM;BU;PU;HIYO;HOLO;HORR;HAR;SSUU;SII;VIYO",
  "118c0;WARANG CITI SMALL LETTER ;NGAA;A;WI;YU;YA;YO;II;UU;E;O;ANG;GA;KO;ENY;YUJ;UC;ENN;ODD;TTE",
  "118d3;WARANG CITI SMALL LETTER ;NUNG;DA;AT;AM;BU;PU;HIYO;HOLO;HORR;HAR;SSUU;SII;VIYO",
  "118e0;WARANG CITI DIGIT ;ZERO;ONE;TWO;THREE;FOUR;FIVE;SIX;SEVEN;EIGHT;NINE",
  "118ea;WARANG CITI NUMBER ;TEN;TWENTY;THIRTY;FORTY;FIFTY;SIXTY;SEVENTY;EIGHTY;NINETY",
  "118ff;;WARANG CITI OM;DIVES AKURU LETTER A;DIVES AKURU LETTER AA;DIVES AKURU LETTER I",
  "11903;DIVES AKURU LETTER ;II;U;UU;E",
  "11909;;DIVES AKURU LETTER O",
  "1190c;DIVES AKURU LETTER ;KA;KHA;GA;GHA;NGA;CA;CHA;JA",
  "11915;DIVES AKURU LETTER ;NYA;TTA",
  "11918;DIVES AKURU LETTER ;DDA;DDHA;NNA;TA;THA;DA;DHA;NA;PA;PHA;BA;BHA;MA;YA;YYA;RA;LA;VA;SHA",
  "1192b;DIVES AKURU ;LETTER SSA;LETTER SA;LETTER HA;LETTER LLA;LETTER ZA;VOWEL SIGN AA",
  "11931;DIVES AKURU VOWEL SIGN ;I;II;U;UU;E",
  "11937;DIVES AKURU VOWEL SIGN ;AI;O",
  "1193b;DIVES AKURU ;SIGN ANUSVARA;SIGN CANDRABINDU;SIGN HALANTA;VIRAMA;PREFIXED NASAL SIGN",
  "11940;DIVES AKURU ;MEDIAL YA;INITIAL RA;MEDIAL RA;SIGN NUKTA;DOUBLE DANDA;GAP FILLER",
  "11946;;DIVES AKURU END OF TEXT MARK",
  "11950;DIVES AKURU DIGIT ;ZERO;ONE;TWO;THREE;FOUR;FIVE;SIX;SEVEN;EIGHT;NINE",
  "119a0;NANDINAGARI LETTER ;A;AA;I;II;U;UU;VOCALIC R;VOCALIC RR",
  "119aa;NANDINAGARI LETTER ;E;AI;O;AU;KA;KHA;GA;GHA;NGA;CA;CHA;JA;JHA;NYA;TTA;TTHA;DDA;DDHA;NNA",
  "119bd;NANDINAGARI LETTER ;TA;THA;DA;DHA;NA;PA;PHA;BA;BHA;MA;YA;RA;LA;VA;SHA;SSA;SA;HA;LLA;RRA",
  "119d1;NANDINAGARI VOWEL SIGN ;AA;I;II;U;UU;VOCALIC R;VOCALIC RR",
  "119da;NANDINAGARI ;VOWEL SIGN E;VOWEL SIGN AI;VOWEL SIGN O;VOWEL SIGN AU;SIGN ANUSVARA",
  "119df;NANDINAGARI ;SIGN VISARGA;SIGN VIRAMA;SIGN AVAGRAHA;SIGN SIDDHAM;HEADSTROKE",
  "119e4;;NANDINAGARI VOWEL SIGN PRISHTHAMATRA E",
  "11a00;ZANABAZAR SQUARE ;LETTER A;VOWEL SIGN I;VOWEL SIGN UE;VOWEL SIGN U;VOWEL SIGN E",
  "11a05;ZANABAZAR SQUARE VOWEL ;SIGN OE;SIGN O;SIGN AI;SIGN AU;SIGN REVERSED I;LENGTH MARK",
  "11a0b;ZANABAZAR SQUARE LETTER ;KA;KHA;GA;GHA;NGA;CA;CHA;JA;NYA;TTA;TTHA;DDA;DDHA;NNA;TA;THA;DA",
  "11a1c;ZANABAZAR SQUARE LETTER ;DHA;NA;PA;PHA;BA;BHA;MA;TSA;TSHA;DZA;DZHA;ZHA;ZA;-A;YA;RA;LA;VA",
  "11a2e;ZANABAZAR SQUARE LETTER ;SHA;SSA;SA;HA;KSSA",
  "11a33;ZANABAZAR SQUARE ;FINAL CONSONANT MARK;SIGN VIRAMA;SIGN CANDRABINDU",
  "11a36;ZANABAZAR SQUARE SIGN ;CANDRABINDU WITH ORNAMENT;CANDRA WITH ORNAMENT;ANUSVARA;VISARGA",
  "11a3a;ZANABAZAR SQUARE CLUSTER-;INITIAL LETTER RA;FINAL LETTER YA;FINAL LETTER RA",
  "11a3d;ZANABAZAR SQUARE ;CLUSTER-FINAL LETTER LA;CLUSTER-FINAL LETTER VA;INITIAL HEAD MARK",
  "11a40;ZANABAZAR SQUARE ;CLOSING HEAD MARK;MARK TSHEG;MARK SHAD;MARK DOUBLE SHAD",
  "11a44;ZANABAZAR SQUARE ;MARK LONG TSHEG;INITIAL DOUBLE-LINED HEAD MARK",
  "11a46;ZANABAZAR SQUARE ;CLOSING DOUBLE-LINED HEAD MARK;SUBJOINER",
  "11a50;SOYOMBO ;LETTER A;VOWEL SIGN I;VOWEL SIGN UE;VOWEL SIGN U;VOWEL SIGN E;VOWEL SIGN O",
  "11a56;SOYOMBO VOWEL ;SIGN OE;SIGN AI;SIGN AU;SIGN VOCALIC R;SIGN VOCALIC L;LENGTH MARK",
  "11a5c;SOYOMBO LETTER ;KA;KHA;GA;GHA;NGA;CA;CHA;JA;JHA;NYA;TTA;TTHA;DDA;DDHA;NNA;TA;THA;DA;DHA",
  "11a6f;SOYOMBO LETTER ;NA;PA;PHA;BA;BHA;MA;TSA;TSHA;DZA;ZHA;ZA;-A;YA;RA;LA;VA;SHA;SSA;SA;HA",
  "11a83;SOYOMBO ;LETTER KSSA;SIGN JIHVAMULIYA;SIGN UPADHMANIYA;CLUSTER-INITIAL LETTER RA",
  "11a87;SOYOMBO CLUSTER-INITIAL LETTER ;LA;SHA;SA",
  "11a8a;SOYOMBO FINAL CONSONANT SIGN ;G;K;NG;D;N;B;M;R;L;SH;S;-A",
  "11a96;SOYOMBO ;SIGN ANUSVARA;SIGN VISARGA;GEMINATION MARK;SUBJOINER;MARK TSHEG;MARK SHAD",
  "11a9c;SOYOMBO ;MARK DOUBLE SHAD;MARK PLUTA;HEAD MARK WITH MOON AND SUN AND TRIPLE FLAME",
  "11a9f;SOYOMBO HEAD MARK WITH MOON AND ;SUN AND FLAME;SUN",
  "11aa1;SOYOMBO TERMINAL MARK-;1;2",
  "11ab0;CANADIAN SYLLABICS NATTILIK ;HI;HII;HO;HOO;HA;HAA;SHRI;SHRII;SHRO;SHROO;SHRA;SHRAA",
  "11abc;CANADIAN SYLLABICS ;SPE;SPI;SPO;SPA",
  "11ac0;PAU CIN HAU LETTER ;PA;KA;LA;MA;DA;ZA;VA;NGA;HA;GA;KHA;SA;BA;CA;TA;THA;NA;PHA;RA;FA;CHA",
  "11ad5;PAU CIN HAU LETTER ;A;E;I;O;U;UA;IA;FINAL P;FINAL K;FINAL T;FINAL M;FINAL N;FINAL L",
  "11ae2;PAU CIN HAU ;LETTER FINAL W;LETTER FINAL NG;LETTER FINAL Y;RISING TONE LONG;RISING TONE",
  "11ae7;PAU CIN HAU ;SANDHI GLOTTAL STOP;RISING TONE LONG FINAL;RISING TONE FINAL",
  "11aea;PAU CIN HAU SANDHI ;GLOTTAL STOP FINAL;TONE LONG;TONE;TONE LONG FINAL;TONE FINAL",
  "11aef;PAU CIN HAU ;MID-LEVEL TONE;GLOTTAL STOP VARIANT;MID-LEVEL TONE LONG FINAL",
  "11af2;PAU CIN HAU ;MID-LEVEL TONE FINAL;LOW-FALLING TONE LONG;LOW-FALLING TONE;GLOTTAL STOP",
  "11af6;PAU CIN HAU ;LOW-FALLING TONE LONG FINAL;LOW-FALLING TONE FINAL;GLOTTAL STOP FINAL",
  "11c00;BHAIKSUKI LETTER ;A;AA;I;II;U;UU;VOCALIC R;VOCALIC RR;VOCALIC L",
  "11c0a;BHAIKSUKI LETTER ;E;AI;O;AU;KA;KHA;GA;GHA;NGA;CA;CHA;JA;JHA;NYA;TTA;TTHA;DDA;DDHA;NNA;TA",
  "11c1e;BHAIKSUKI LETTER ;THA;DA;DHA;NA;PA;PHA;BA;BHA;MA;YA;RA;LA;VA;SHA;SSA;SA;HA",
  "11c2f;BHAIKSUKI VOWEL SIGN ;AA;I;II;U;UU;VOCALIC R;VOCALIC RR;VOCALIC L",
  "11c38;BHAIKSUKI ;VOWEL SIGN E;VOWEL SIGN AI;VOWEL SIGN O;VOWEL SIGN AU;SIGN CANDRABINDU",
  "11c3d;BHAIKSUKI ;SIGN ANUSVARA;SIGN VISARGA;SIGN VIRAMA;SIGN AVAGRAHA;DANDA;DOUBLE DANDA",
  "11c43;BHAIKSUKI ;WORD SEPARATOR;GAP FILLER-1;GAP FILLER-2",
  "11c50;BHAIKSUKI DIGIT ;ZERO;ONE;TWO;THREE;FOUR;FIVE;SIX;SEVEN;EIGHT;NINE",
  "11c5a;BHAIKSUKI NUMBER ;ONE;TWO;THREE;FOUR;FIVE;SIX;SEVEN;EIGHT;NINE;TEN;TWENTY;THIRTY;FORTY",
  "11c67;BHAIKSUKI NUMBER ;FIFTY;SIXTY;SEVENTY;EIGHTY;NINETY",
  "11c6c;;BHAIKSUKI HUNDREDS UNIT MARK",
  "11c70;MARCHEN ;HEAD MARK;MARK SHAD;LETTER KA;LETTER KHA;LETTER GA;LETTER NGA;LETTER CA",
  "11c77;MARCHEN LETTER ;CHA;JA;NYA;TA;THA;DA;NA;PA;PHA;BA;MA;TSA;TSHA;DZA;WA;ZHA;ZA;-A;YA;RA;LA",
  "11c8c;MARCHEN LETTER ;SHA;SA;HA;A",
  "11c92;MARCHEN SUBJOINED LETTER ;KA;KHA;GA;NGA;CA;CHA;JA;NYA;TA;THA;DA;NA;PA;PHA;BA;MA;TSA;TSHA",
  "11ca4;MARCHEN SUBJOINED LETTER ;DZA;WA;ZHA;ZA",
  "11ca9;MARCHEN SUBJOINED LETTER ;YA;RA;LA;SHA;SA;HA;A",
  "11cb0;MARCHEN ;VOWEL SIGN AA;VOWEL SIGN I;VOWEL SIGN U;VOWEL SIGN E;VOWEL SIGN O;SIGN ANUSVARA",
  "11cb6;;MARCHEN SIGN CANDRABINDU",
  "11d00;MASARAM GONDI LETTER ;A;AA;I;II;U;UU;E",
  "11d08;MASARAM GONDI LETTER ;AI;O",
  "11d0b;MASARAM GONDI LETTER ;AU;KA;KHA;GA;GHA;NGA;CA;CHA;JA;JHA;NYA;TTA;TTHA;DDA;DDHA;NNA;TA",
  "11d1c;MASARAM GONDI LETTER ;THA;DA;DHA;NA;PA;PHA;BA;BHA;MA;YA;RA;LA;VA;SHA;SSA;SA;HA;LLA;KSSA",
  "11d2f;MASARAM GONDI ;LETTER JNYA;LETTER TRA;VOWEL SIGN AA;VOWEL SIGN I;VOWEL SIGN II",
  "11d34;MASARAM GONDI VOWEL SIGN ;U;UU;VOCALIC R",
  "11d3a;;MASARAM GONDI VOWEL SIGN E",
  "11d3c;MASARAM GONDI VOWEL SIGN ;AI;O",
  "11d3f;MASARAM GONDI ;VOWEL SIGN AU;SIGN ANUSVARA;SIGN VISARGA;SIGN NUKTA;SIGN CANDRA",
  "11d44;MASARAM GONDI ;SIGN HALANTA;VIRAMA;REPHA;RA-KARA",
  "11d50;MASARAM GONDI DIGIT ;ZERO;ONE;TWO;THREE;FOUR;FIVE;SIX;SEVEN;EIGHT;NINE",
  "11d60;GUNJALA GONDI LETTER ;A;AA;I;II;U;UU",
  "11d67;GUNJALA GONDI LETTER ;EE;AI",
  "11d6a;GUNJALA GONDI LETTER ;OO;AU;YA;VA;BA;BHA;MA;KA;KHA;TA;THA;LA;GA;GHA;DA;DHA;NA;CA;CHA;TTA",
  "11d7e;GUNJALA GONDI LETTER ;TTHA;LLA;JA;JHA;DDA;DDHA;NGA;PA;PHA;HA;RA;SA",
  "11d8a;GUNJALA GONDI VOWEL SIGN ;AA;I;II;U;UU",
  "11d90;GUNJALA GONDI VOWEL SIGN ;EE;AI",
  "11d93;GUNJALA GONDI ;VOWEL SIGN OO;VOWEL SIGN AU;SIGN ANUSVARA;SIGN VISARGA;VIRAMA;OM",
  "11da0;GUNJALA GONDI DIGIT ;ZERO;ONE;TWO;THREE;FOUR;FIVE;SIX;SEVEN;EIGHT;NINE",
  "11ee0;MAKASAR LETTER ;KA;GA;NGA;PA;BA;MA;TA;DA;NA;CA;JA;NYA;YA;RA;LA;VA;SA;A",
  "11ef2;MAKASAR ;ANGKA;VOWEL SIGN I;VOWEL SIGN U;VOWEL SIGN E;VOWEL SIGN O;PASSIMBANG",
  "11ef8;;MAKASAR END OF SECTION",
  "11fb0;;LISU LETTER YHA",
  "11fc0;TAMIL FRACTION ONE ;THREE-HUNDRED-AND-TWENTIETH;ONE-HUNDRED-AND-SIXTIETH;EIGHTIETH",
  "11fc3;TAMIL FRACTION ;ONE SIXTY-FOURTH;ONE FORTIETH;ONE THIRTY-SECOND;THREE EIGHTIETHS",
  "11fc7;TAMIL FRACTION ;THREE SIXTY-FOURTHS;ONE TWENTIETH;ONE SIXTEENTH-1;ONE SIXTEENTH-2",
  "11fcb;TAMIL FRACTION ;ONE TENTH;ONE EIGHTH;THREE TWENTIETHS;THREE SIXTEENTHS;ONE FIFTH",
  "11fd0;TAMIL FRACTION ;ONE QUARTER;ONE HALF-1;ONE HALF-2;THREE QUARTERS",
  "11fd4;TAMIL ;FRACTION DOWNSCALING FACTOR KIIZH;SIGN NEL;SIGN CEVITU;SIGN AAZHAAKKU",
  "11fd8;TAMIL SIGN ;UZHAKKU;MUUVUZHAKKU;KURUNI;PATHAKKU;MUKKURUNI;KAACU;PANAM;PON;VARAAKAN",
  "11fe1;TAMIL ;SIGN PAARAM;SIGN KUZHI;SIGN VELI;WET CULTIVATION SIGN;DRY CULTIVATION SIGN",
  "11fe6;TAMIL ;LAND SIGN;SALT PAN SIGN;TRADITIONAL CREDIT SIGN;TRADITIONAL NUMBER SIGN",
  "11fea;TAMIL ;CURRENT SIGN;AND ODD SIGN;SPENT SIGN;TOTAL SIGN;IN POSSESSION SIGN",
  "11fef;TAMIL ;STARTING FROM SIGN;SIGN MUTHALIYA;SIGN VAKAIYARAA",
  "11fff;;TAMIL PUNCTUATION END OF TEXT;CUNEIFORM SIGN A;CUNEIFORM SIGN A TIMES A",
  "12002;CUNEIFORM SIGN A TIMES ;BAD;GAN2 TENU;HA;IGI;LAGAR GUNU;MUSH;SAG",
  "12009;CUNEIFORM SIGN ;A2;AB;AB TIMES ASH2;AB TIMES DUN3 GUNU;AB TIMES GAL;AB TIMES GAN2 TENU",
  "1200f;CUNEIFORM SIGN AB TIMES ;HA;IGI GUNU;IMIN;LAGAB;SHESH;U PLUS U PLUS U",
  "12015;CUNEIFORM SIGN ;AB GUNU;AB2;AB2 TIMES BALAG;AB2 TIMES GAN2 TENU;AB2 TIMES ME PLUS EN",
  "1201a;CUNEIFORM SIGN ;AB2 TIMES SHA3;AB2 TIMES TAK4;AD;AK;AK TIMES ERIN2",
  "1201f;CUNEIFORM SIGN ;AK TIMES SHITA PLUS GISH;AL;AL TIMES AL;AL TIMES DIM2;AL TIMES GISH",
  "12024;CUNEIFORM SIGN ;AL TIMES HA;AL TIMES KAD3;AL TIMES KI;AL TIMES SHE;AL TIMES USH;ALAN",
  "1202a;CUNEIFORM SIGN ;ALEPH;AMAR;AMAR TIMES SHE;AN;AN OVER AN;AN THREE TIMES",
  "12030;CUNEIFORM SIGN ;AN PLUS NAGA OPPOSING AN PLUS NAGA;AN PLUS NAGA SQUARED;ANSHE;APIN;ARAD",
  "12035;CUNEIFORM SIGN ;ARAD TIMES KUR;ARKAB;ASAL2;ASH;ASH ZIDA TENU;ASH KABA TENU",
  "1203b;CUNEIFORM SIGN ASH OVER ASH ;TUG2 OVER TUG2 TUG2 OVER TUG2 PAP;OVER ASH",
  "1203d;CUNEIFORM SIGN ;ASH OVER ASH OVER ASH CROSSING ASH OVER ASH OVER ASH;ASH2;ASHGAB;BA;BAD",
  "12042;CUNEIFORM SIGN ;BAG3;BAHAR2;BAL;BAL OVER BAL;BALAG;BAR;BARA2;BI;BI TIMES A;BI TIMES GAR",
  "1204c;CUNEIFORM SIGN ;BI TIMES IGI GUNU;BU;BU OVER BU AB;BU OVER BU UN;BU CROSSING BU;BULUG",
  "12052;CUNEIFORM SIGN ;BULUG OVER BULUG;BUR;BUR2;DA;DAG;DAG KISIM5 TIMES A PLUS MASH",
  "12058;CUNEIFORM SIGN DAG KISIM5 TIMES ;AMAR;BALAG;BI;GA;GA PLUS MASH;GI;GIR2;GUD;HA;IR",
  "12062;CUNEIFORM SIGN DAG KISIM5 TIMES ;IR PLUS LU;KAK;LA;LU;LU PLUS MASH2;LUM;NE;PAP PLUS PAP",
  "1206a;CUNEIFORM SIGN DAG KISIM5 TIMES ;SI;TAK4;U2 PLUS GIR2;USH",
  "1206e;CUNEIFORM SIGN ;DAM;DAR;DARA3;DARA4;DI;DIB;DIM;DIM TIMES SHE;DIM2;DIN",
  "12078;CUNEIFORM SIGN ;DIN KASKAL U GUNU DISH;DISH;DU;DU OVER DU;DU GUNU;DU SHESHIG;DUB",
  "1207f;CUNEIFORM SIGN ;DUB TIMES ESH2;DUB2;DUG;DUGUD;DUH;DUN;DUN3;DUN3 GUNU;DUN3 GUNU GUNU;DUN4",
  "12089;CUNEIFORM SIGN ;DUR2;E;E TIMES PAP;E OVER E NUN OVER NUN;E2;E2 TIMES A PLUS HA PLUS DA",
  "1208f;CUNEIFORM SIGN ;E2 TIMES GAR;E2 TIMES MI;E2 TIMES SAL;E2 TIMES SHE;E2 TIMES U;EDIN;EGIR",
  "12096;CUNEIFORM SIGN ;EL;EN;EN TIMES GAN2;EN TIMES GAN2 TENU;EN TIMES ME;EN CROSSING EN",
  "1209c;CUNEIFORM SIGN ;EN OPPOSING EN;EN SQUARED;EREN;ERIN2;ESH2;EZEN;EZEN TIMES A",
  "120a3;CUNEIFORM SIGN EZEN TIMES ;A PLUS LAL;A PLUS LAL TIMES LAL;AN;BAD;DUN3 GUNU",
  "120a8;CUNEIFORM SIGN EZEN TIMES ;DUN3 GUNU GUNU;HA;HA GUNU;IGI GUNU;KASKAL;KASKAL SQUARED;KU3",
  "120af;CUNEIFORM SIGN EZEN TIMES ;LA;LAL TIMES LAL;LI;LU;U2;UD",
  "120b5;CUNEIFORM SIGN ;GA;GA GUNU;GA2;GA2 TIMES A PLUS DA PLUS HA;GA2 TIMES A PLUS HA",
  "120ba;CUNEIFORM SIGN GA2 TIMES ;A PLUS IGI;AB2 TENU PLUS TAB;AN;ASH;ASH2 PLUS GAL;BAD",
  "120c0;CUNEIFORM SIGN GA2 TIMES ;BAR PLUS RA;BUR;BUR PLUS RA;DA;DI;DIM TIMES SHE;DUB;EL",
  "120c8;CUNEIFORM SIGN GA2 TIMES ;EL PLUS LA;EN;EN TIMES GAN2 TENU;GAN2 TENU;GAR;GI;GI4",
  "120cf;CUNEIFORM SIGN GA2 TIMES ;GI4 PLUS A;GIR2 PLUS SU;HA PLUS LU PLUS ESH2;HAL;HAL PLUS LA",
  "120d4;CUNEIFORM SIGN GA2 TIMES ;HI PLUS LI;HUB2;IGI GUNU;ISH PLUS HU PLUS ASH;KAK;KASKAL;KID",
  "120db;CUNEIFORM SIGN GA2 TIMES ;KID PLUS LAL;KU3 PLUS AN;LA;ME PLUS EN;MI;NUN;NUN OVER NUN;PA",
  "120e3;CUNEIFORM SIGN GA2 TIMES ;SAL;SAR;SHE;SHE PLUS TUR;SHID;SUM;TAK4;U;UD;UD PLUS DU",
  "120ed;CUNEIFORM SIGN ;GA2 OVER GA2;GABA;GABA CROSSING GABA;GAD;GAD OVER GAD GAR OVER GAR;GAL",
  "120f3;CUNEIFORM SIGN ;GAL GAD OVER GAD GAR OVER GAR;GALAM;GAM;GAN;GAN2;GAN2 TENU",
  "120f9;CUNEIFORM SIGN ;GAN2 OVER GAN2;GAN2 CROSSING GAN2;GAR;GAR3;GASHAN;GESHTIN",
  "120ff;CUNEIFORM SIGN ;GESHTIN TIMES KUR;GI;GI TIMES E;GI TIMES U;GI CROSSING GI;GI4",
  "12105;CUNEIFORM SIGN ;GI4 OVER GI4;GI4 CROSSING GI4;GIDIM;GIR2;GIR2 GUNU;GIR3",
  "1210b;CUNEIFORM SIGN GIR3 TIMES ;A PLUS IGI;GAN2 TENU;IGI;LU PLUS IGI;PA",
  "12110;CUNEIFORM SIGN ;GISAL;GISH;GISH CROSSING GISH;GISH TIMES BAD;GISH TIMES TAK4;GISH TENU",
  "12116;CUNEIFORM SIGN ;GU;GU CROSSING GU;GU2;GU2 TIMES KAK;GU2 TIMES KAK TIMES IGI GUNU",
  "1211b;CUNEIFORM SIGN ;GU2 TIMES NUN;GU2 TIMES SAL PLUS TUG2;GU2 GUNU;GUD;GUD TIMES A PLUS KUR",
  "12120;CUNEIFORM SIGN ;GUD TIMES KUR;GUD OVER GUD LUGAL;GUL;GUM;GUM TIMES SHE;GUR;GUR7;GURUN",
  "12128;CUNEIFORM SIGN ;GURUSH;HA;HA TENU;HA GUNU;HAL;HI;HI TIMES ASH;HI TIMES ASH2;HI TIMES BAD",
  "12131;CUNEIFORM SIGN HI TIMES ;DISH;GAD;KIN;NUN;SHE;U",
  "12137;CUNEIFORM SIGN ;HU;HUB2;HUB2 TIMES AN;HUB2 TIMES HAL;HUB2 TIMES KASKAL;HUB2 TIMES LISH",
  "1213d;CUNEIFORM SIGN ;HUB2 TIMES UD;HUL2;I;I A;IB;IDIM;IDIM OVER IDIM BUR",
  "12144;CUNEIFORM SIGN ;IDIM OVER IDIM SQUARED;IG;IGI;IGI DIB;IGI RI",
  "12149;CUNEIFORM SIGN ;IGI OVER IGI SHIR OVER SHIR UD OVER UD;IGI GUNU;IL;IL TIMES GAN2 TENU",
  "1214d;CUNEIFORM SIGN ;IL2;IM;IM TIMES TAK4;IM CROSSING IM;IM OPPOSING IM;IM SQUARED;IMIN;IN;IR",
  "12156;CUNEIFORM SIGN ;ISH;KA;KA TIMES A;KA TIMES AD;KA TIMES AD PLUS KU3;KA TIMES ASH2",
  "1215c;CUNEIFORM SIGN KA TIMES ;BAD;BALAG;BAR;BI;ERIN2;ESH2;GA;GAL;GAN2 TENU;GAR",
  "12166;CUNEIFORM SIGN KA TIMES ;GAR PLUS SHA3 PLUS A;GI;GIR2;GISH PLUS SAR;GISH CROSSING GISH",
  "1216b;CUNEIFORM SIGN KA TIMES ;GU;GUR7;IGI;IM;KAK;KI;KID;LI;LU;ME;ME PLUS DU;ME PLUS GI",
  "12177;CUNEIFORM SIGN KA TIMES ;ME PLUS TE;MI;MI PLUS NUNUZ;NE;NUN;PI;RU;SA;SAR;SHA;SHE;SHID",
  "12183;CUNEIFORM SIGN KA TIMES ;SHU;SIG;SUHUR;TAR;U;U2;UD;UMUM TIMES PA;USH;ZI",
  "1218d;CUNEIFORM SIGN ;KA2;KA2 CROSSING KA2;KAB;KAD2;KAD3;KAD4;KAD5;KAD5 OVER KAD5;KAK",
  "12196;CUNEIFORM SIGN ;KAK TIMES IGI GUNU;KAL;KAL TIMES BAD;KAL CROSSING KAL;KAM2;KAM4;KASKAL",
  "1219d;;CUNEIFORM SIGN KASKAL LAGAB TIMES U OVER LAGAB TIMES U",
  "1219e;CUNEIFORM SIGN ;KASKAL OVER KASKAL LAGAB TIMES U OVER LAGAB TIMES U;KESH2;KI",
  "121a1;CUNEIFORM SIGN ;KI TIMES BAD;KI TIMES U;KI TIMES UD;KID;KIN;KISAL;KISH;KISIM5",
  "121a9;CUNEIFORM SIGN ;KISIM5 OVER KISIM5;KU;KU OVER HI TIMES ASH2 KU OVER HI TIMES ASH2;KU3",
  "121ad;CUNEIFORM SIGN ;KU4;KU4 VARIANT FORM;KU7;KUL;KUL GUNU;KUN;KUR;KUR OPPOSING KUR;KUSHU2",
  "121b6;CUNEIFORM SIGN ;KWU318;LA;LAGAB;LAGAB TIMES A;LAGAB TIMES A PLUS DA PLUS HA",
  "121bb;CUNEIFORM SIGN LAGAB TIMES ;A PLUS GAR;A PLUS LAL;AL;AN;ASH ZIDA TENU;BAD;BI;DAR;EN;GA",
  "121c5;CUNEIFORM SIGN LAGAB TIMES ;GAR;GUD;GUD PLUS GUD;HA;HAL;HI TIMES NUN;IGI GUNU;IM",
  "121cd;CUNEIFORM SIGN LAGAB TIMES ;IM PLUS HA;IM PLUS LU;KI;KIN;KU3;KUL;KUL PLUS HI PLUS A",
  "121d4;CUNEIFORM SIGN LAGAB TIMES ;LAGAB;LISH;LU;LUL;ME;ME PLUS EN;MUSH;NE;SHE PLUS SUM",
  "121dd;CUNEIFORM SIGN LAGAB TIMES ;SHITA PLUS GISH PLUS ERIN2;SHITA PLUS GISH TENU;SHU2",
  "121e0;CUNEIFORM SIGN LAGAB TIMES ;SHU2 PLUS SHU2;SUM;TAG;TAK4;TE PLUS A PLUS SU PLUS NA;U",
  "121e6;CUNEIFORM SIGN LAGAB TIMES ;U PLUS A;U PLUS U PLUS U;U2 PLUS ASH;UD;USH",
  "121eb;CUNEIFORM SIGN ;LAGAB SQUARED;LAGAR;LAGAR TIMES SHE;LAGAR TIMES SHE PLUS SUM;LAGAR GUNU",
  "121f0;CUNEIFORM SIGN ;LAGAR GUNU OVER LAGAR GUNU SHE;LAHSHU;LAL;LAL TIMES LAL;LAM",
  "121f5;CUNEIFORM SIGN ;LAM TIMES KUR;LAM TIMES KUR PLUS RU;LI;LIL;LIMMU2;LISH;LU;LU TIMES BAD",
  "121fd;CUNEIFORM SIGN ;LU2;LU2 TIMES AL;LU2 TIMES BAD;LU2 TIMES ESH2;LU2 TIMES ESH2 TENU",
  "12202;CUNEIFORM SIGN LU2 TIMES ;GAN2 TENU;HI TIMES BAD;IM;KAD2;KAD3;KAD3 PLUS ASH;KI",
  "12209;CUNEIFORM SIGN LU2 TIMES ;LA PLUS ASH;LAGAB;ME PLUS EN;NE;NU;SI PLUS ASH;SIK2 PLUS BU",
  "12210;CUNEIFORM SIGN LU2 ;TIMES TUG2;TENU;CROSSING LU2;OPPOSING LU2;SQUARED;SHESHIG",
  "12216;CUNEIFORM SIGN ;LU3;LUGAL;LUGAL OVER LUGAL;LUGAL OPPOSING LUGAL;LUGAL SHESHIG;LUH;LUL",
  "1221d;CUNEIFORM SIGN ;LUM;LUM OVER LUM;LUM OVER LUM GAR OVER GAR;MA;MA TIMES TAK4;MA GUNU;MA2",
  "12224;CUNEIFORM SIGN ;MAH;MAR;MASH;MASH2;ME;MES;MI;MIN;MU;MU OVER MU;MUG;MUG GUNU;MUNSUB",
  "12231;CUNEIFORM SIGN ;MURGU2;MUSH;MUSH TIMES A;MUSH TIMES KUR;MUSH TIMES ZA;MUSH OVER MUSH",
  "12237;CUNEIFORM SIGN ;MUSH OVER MUSH TIMES A PLUS NA;MUSH CROSSING MUSH;MUSH3;MUSH3 TIMES A",
  "1223b;CUNEIFORM SIGN ;MUSH3 TIMES A PLUS DI;MUSH3 TIMES DI;MUSH3 GUNU;NA;NA2;NAGA",
  "12241;CUNEIFORM SIGN ;NAGA INVERTED;NAGA TIMES SHU TENU;NAGA OPPOSING NAGA;NAGAR;NAM NUTILLU",
  "12246;CUNEIFORM SIGN ;NAM;NAM2;NE;NE TIMES A;NE TIMES UD;NE SHESHIG;NI;NI TIMES E;NI2;NIM",
  "12250;CUNEIFORM SIGN ;NIM TIMES GAN2 TENU;NIM TIMES GAR PLUS GAN2 TENU;NINDA2;NINDA2 TIMES AN",
  "12254;CUNEIFORM SIGN NINDA2 TIMES ;ASH;ASH PLUS ASH;GUD;ME PLUS GAN2 TENU;NE;NUN;SHE",
  "1225b;CUNEIFORM SIGN NINDA2 TIMES SHE PLUS ;A AN;ASH;ASH PLUS ASH",
  "1225e;CUNEIFORM SIGN ;NINDA2 TIMES U2 PLUS ASH;NINDA2 TIMES USH;NISAG;NU;NU11;NUN",
  "12264;CUNEIFORM SIGN NUN LAGAR TIMES ;GAR;MASH;SAL;SAL OVER NUN LAGAR TIMES SAL;USH",
  "12269;CUNEIFORM SIGN NUN ;TENU;OVER NUN;CROSSING NUN;CROSSING NUN LAGAR OVER LAGAR",
  "1226d;CUNEIFORM SIGN ;NUNUZ;NUNUZ AB2 TIMES ASHGAB;NUNUZ AB2 TIMES BI;NUNUZ AB2 TIMES DUG",
  "12271;CUNEIFORM SIGN NUNUZ AB2 TIMES ;GUD;IGI GUNU;KAD3;LA;NE;SILA3;U2",
  "12278;CUNEIFORM SIGN ;NUNUZ KISIM5 TIMES BI;NUNUZ KISIM5 TIMES BI U;PA;PAD;PAN;PAP;PESH2;PI",
  "12280;CUNEIFORM SIGN PI TIMES ;A;AB;BI;BU;E;I;IB;U;U2",
  "12289;CUNEIFORM SIGN ;PI CROSSING PI;PIRIG;PIRIG TIMES KAL;PIRIG TIMES UD;PIRIG TIMES ZA",
  "1228e;CUNEIFORM SIGN ;PIRIG OPPOSING PIRIG;RA;RAB;RI;RU;SA;SAG NUTILLU;SAG;SAG TIMES A",
  "12297;CUNEIFORM SIGN SAG TIMES ;DU;DUB;HA;KAK;KUR;LUM;MI;NUN;SAL;SHID;TAB;U2;UB;UM;UR;USH",
  "122a7;CUNEIFORM SIGN ;SAG OVER SAG;SAG GUNU;SAL;SAL LAGAB TIMES ASH2;SANGA2;SAR;SHA;SHA3",
  "122af;CUNEIFORM SIGN SHA3 TIMES ;A;BAD;GISH;NE;SHU2;TUR;U;U PLUS A",
  "122b7;CUNEIFORM SIGN ;SHA6;SHAB6;SHAR2;SHE;SHE HU;SHE OVER SHE GAD OVER GAD GAR OVER GAR",
  "122bd;CUNEIFORM SIGN ;SHE OVER SHE TAB OVER TAB GAR OVER GAR;SHEG9;SHEN;SHESH;SHESH2;SHESHLAM",
  "122c3;CUNEIFORM SIGN ;SHID;SHID TIMES A;SHID TIMES IM;SHIM;SHIM TIMES A;SHIM TIMES BAL",
  "122c9;CUNEIFORM SIGN SHIM TIMES ;BULUG;DIN;GAR;IGI;IGI GUNU;KUSHU2;LUL;MUG;SAL",
  "122d2;CUNEIFORM SIGN ;SHINIG;SHIR;SHIR TENU;SHIR OVER SHIR BUR OVER BUR;SHITA;SHU",
  "122d8;CUNEIFORM SIGN ;SHU OVER INVERTED SHU;SHU2;SHUBUR;SI;SI GUNU;SIG;SIG4",
  "122df;CUNEIFORM SIGN ;SIG4 OVER SIG4 SHU2;SIK2;SILA3;SU;SU OVER SU;SUD;SUD2;SUHUR;SUM;SUMASH",
  "122e9;CUNEIFORM SIGN ;SUR;SUR9;TA;TA ASTERISK;TA TIMES HI;TA TIMES MI;TA GUNU;TAB",
  "122f1;CUNEIFORM SIGN ;TAB OVER TAB NI OVER NI DISH OVER DISH;TAB SQUARED;TAG;TAG TIMES BI",
  "122f5;CUNEIFORM SIGN TAG TIMES ;GUD;SHE;SHU;TUG2;UD",
  "122fa;CUNEIFORM SIGN ;TAK4;TAR;TE;TE GUNU;TI;TI TENU;TIL;TIR;TIR TIMES TAK4;TIR OVER TIR",
  "12304;CUNEIFORM SIGN ;TIR OVER TIR GAD OVER GAD GAR OVER GAR;TU;TUG2;TUK;TUM;TUR",
  "1230a;CUNEIFORM SIGN ;TUR OVER TUR ZA OVER ZA;U;U GUD;U U U;U OVER U PA OVER PA GAR OVER GAR",
  "1230f;CUNEIFORM SIGN ;U OVER U SUR OVER SUR;U OVER U U REVERSED OVER U REVERSED;U2;UB;UD",
  "12314;CUNEIFORM SIGN UD ;KUSHU2;TIMES BAD;TIMES MI;TIMES U PLUS U PLUS U",
  "12318;CUNEIFORM SIGN UD ;TIMES U PLUS U PLUS U GUNU;GUNU;SHESHIG;SHESHIG TIMES BAD",
  "1231c;CUNEIFORM SIGN ;UDUG;UM;UM TIMES LAGAB;UM TIMES ME PLUS DA;UM TIMES SHA3;UM TIMES U",
  "12322;CUNEIFORM SIGN ;UMBIN;UMUM;UMUM TIMES KASKAL;UMUM TIMES PA;UN;UN GUNU;UR;UR CROSSING UR",
  "1232a;CUNEIFORM SIGN ;UR SHESHIG;UR2;UR2 TIMES A PLUS HA;UR2 TIMES A PLUS NA;UR2 TIMES AL",
  "1232f;CUNEIFORM SIGN UR2 TIMES ;HA;NUN;U2;U2 PLUS ASH;U2 PLUS BI",
  "12334;CUNEIFORM SIGN ;UR4;URI;URI3;URU;URU TIMES A;URU TIMES ASHGAB;URU TIMES BAR",
  "1233b;CUNEIFORM SIGN URU TIMES ;DUN;GA;GAL;GAN2 TENU;GAR;GU;HA;IGI;IM;ISH;KI;LUM;MIN;PA;SHE",
  "1234a;CUNEIFORM SIGN URU TIMES ;SIG4;TU;U PLUS GUD;UD;URUDA",
  "1234f;CUNEIFORM SIGN ;URUDA;URUDA TIMES U;USH;USH TIMES A;USH TIMES KU;USH TIMES KUR",
  "12355;CUNEIFORM SIGN ;USH TIMES TAK4;USHX;USH2;USHUMX;UTUKI;UZ3;UZ3 TIMES KASKAL;UZU;ZA",
  "1235e;CUNEIFORM SIGN ;ZA TENU;ZA SQUARED TIMES KUR;ZAG;ZAMX;ZE2;ZI;ZI OVER ZI;ZI3;ZIB",
  "12367;CUNEIFORM SIGN ;ZIB KABA TENU;ZIG;ZIZ2;ZU;ZU5;ZU5 TIMES A;ZUBUR;ZUM;KAP ELAMITE",
  "12370;CUNEIFORM SIGN ;AB TIMES NUN;AB2 TIMES A;AMAR TIMES KUG;DAG KISIM5 TIMES U2 PLUS MASH",
  "12374;CUNEIFORM SIGN ;DAG3;DISH PLUS SHU;DUB TIMES SHE;EZEN TIMES GUD;EZEN TIMES SHE",
  "12379;CUNEIFORM SIGN ;GA2 TIMES AN PLUS KAK PLUS A;GA2 TIMES ASH2;GE22;GIG;HUSH;KA TIMES ANSHE",
  "1237f;CUNEIFORM SIGN KA TIMES ;ASH3;GISH;GUD;HI TIMES ASH2;LUM;PA;SHUL;TU;UR2",
  "12388;CUNEIFORM SIGN ;LAGAB TIMES GI;LU2 SHESHIG TIMES BAD;LU2 TIMES ESH2 PLUS LAL",
  "1238b;CUNEIFORM SIGN ;LU2 TIMES SHU;MESH;MUSH3 TIMES ZA;NA4;NIN;NIN9;NINDA2 TIMES BAL",
  "12392;CUNEIFORM SIGN ;NINDA2 TIMES GI;NU11 ROTATED NINETY DEGREES;PESH2 ASTERISK;PIR2",
  "12396;CUNEIFORM SIGN ;SAG TIMES IGI GUNU;TI2;UM TIMES ME;U U",
  "12400;CUNEIFORM NUMERIC SIGN ;TWO ASH;THREE ASH;FOUR ASH;FIVE ASH;SIX ASH;SEVEN ASH;EIGHT ASH",
  "12407;CUNEIFORM NUMERIC SIGN ;NINE ASH;THREE DISH;FOUR DISH;FIVE DISH;SIX DISH;SEVEN DISH",
  "1240d;CUNEIFORM NUMERIC SIGN ;EIGHT DISH;NINE DISH;FOUR U;FIVE U;SIX U;SEVEN U;EIGHT U;NINE U",
  "12415;CUNEIFORM NUMERIC SIGN ;ONE GESH2;TWO GESH2;THREE GESH2;FOUR GESH2;FIVE GESH2;SIX GESH2",
  "1241b;CUNEIFORM NUMERIC SIGN ;SEVEN GESH2;EIGHT GESH2;NINE GESH2;ONE GESHU;TWO GESHU",
  "12420;CUNEIFORM NUMERIC SIGN ;THREE GESHU;FOUR GESHU;FIVE GESHU;TWO SHAR2;THREE SHAR2",
  "12425;CUNEIFORM NUMERIC SIGN ;THREE SHAR2 VARIANT FORM;FOUR SHAR2;FIVE SHAR2;SIX SHAR2",
  "12429;CUNEIFORM NUMERIC SIGN ;SEVEN SHAR2;EIGHT SHAR2;NINE SHAR2;ONE SHARU;TWO SHARU",
  "1242e;CUNEIFORM NUMERIC SIGN ;THREE SHARU;THREE SHARU VARIANT FORM;FOUR SHARU;FIVE SHARU",
  "12432;CUNEIFORM NUMERIC SIGN ;SHAR2 TIMES GAL PLUS DISH;SHAR2 TIMES GAL PLUS MIN;ONE BURU",
  "12435;CUNEIFORM NUMERIC SIGN ;TWO BURU;THREE BURU;THREE BURU VARIANT FORM;FOUR BURU;FIVE BURU",
  "1243a;CUNEIFORM NUMERIC SIGN THREE VARIANT FORM ;ESH16;ESH21",
  "1243c;CUNEIFORM NUMERIC SIGN FOUR VARIANT FORM ;LIMMU;LIMMU4;LIMMU A;LIMMU B",
  "12440;CUNEIFORM NUMERIC SIGN ;SIX VARIANT FORM ASH9;SEVEN VARIANT FORM IMIN3",
  "12442;CUNEIFORM NUMERIC SIGN SEVEN VARIANT FORM IMIN ;A;B",
  "12444;CUNEIFORM NUMERIC SIGN EIGHT VARIANT FORM ;USSU;USSU3",
  "12446;CUNEIFORM NUMERIC SIGN NINE VARIANT FORM ;ILIMMU;ILIMMU3;ILIMMU4;ILIMMU A",
  "1244a;CUNEIFORM NUMERIC SIGN ;TWO ASH TENU;THREE ASH TENU;FOUR ASH TENU;FIVE ASH TENU",
  "1244e;CUNEIFORM NUMERIC SIGN ;SIX ASH TENU;ONE BAN2;TWO BAN2;THREE BAN2;FOUR BAN2",
  "12453;CUNEIFORM NUMERIC SIGN ;FOUR BAN2 VARIANT FORM;FIVE BAN2;FIVE BAN2 VARIANT FORM",
  "12456;CUNEIFORM NUMERIC SIGN ;NIGIDAMIN;NIGIDAESH;ONE ESHE3;TWO ESHE3;ONE THIRD DISH",
  "1245b;CUNEIFORM NUMERIC SIGN ;TWO THIRDS DISH;FIVE SIXTHS DISH;ONE THIRD VARIANT FORM A",
  "1245e;CUNEIFORM NUMERIC SIGN ;TWO THIRDS VARIANT FORM A;ONE EIGHTH ASH;ONE QUARTER ASH",
  "12461;CUNEIFORM NUMERIC SIGN ;OLD ASSYRIAN ONE SIXTH;OLD ASSYRIAN ONE QUARTER;ONE QUARTER GUR",
  "12464;CUNEIFORM NUMERIC SIGN ;ONE HALF GUR;ELAMITE ONE THIRD;ELAMITE TWO THIRDS;ELAMITE FORTY",
  "12468;CUNEIFORM NUMERIC SIGN ;ELAMITE FIFTY;FOUR U VARIANT FORM;FIVE U VARIANT FORM",
  "1246b;CUNEIFORM NUMERIC SIGN ;SIX U VARIANT FORM;SEVEN U VARIANT FORM;EIGHT U VARIANT FORM",
  "1246e;;CUNEIFORM NUMERIC SIGN NINE U VARIANT FORM",
  "12470;CUNEIFORM PUNCTUATION SIGN ;OLD ASSYRIAN WORD DIVIDER;VERTICAL COLON;DIAGONAL COLON",
  "12473;CUNEIFORM PUNCTUATION SIGN DIAGONAL ;TRICOLON;QUADCOLON",
  "12480;CUNEIFORM SIGN ;AB TIMES NUN TENU;AB TIMES SHU2;AD TIMES ESH2;BAD TIMES DISH TENU",
  "12484;CUNEIFORM SIGN ;BAHAR2 TIMES AB2;BAHAR2 TIMES NI;BAHAR2 TIMES ZA;BU OVER BU TIMES NA2",
  "12488;CUNEIFORM SIGN ;DA TIMES TAK4;DAG TIMES KUR;DIM TIMES IGI;DIM TIMES U U U;DIM2 TIMES UD",
  "1248d;CUNEIFORM SIGN DUG TIMES ;ANSHE;ASH;ASH AT LEFT;DIN;DUN;ERIN2;GA;GI;GIR2 GUNU;GISH;HA;HI",
  "12499;CUNEIFORM SIGN DUG TIMES ;IGI GUNU;KASKAL;KUR;KUSHU2;KUSHU2 PLUS KASKAL;LAK-020;LAM",
  "124a0;CUNEIFORM SIGN DUG TIMES ;LAM TIMES KUR;LUH PLUS GISH;MASH;MES;MI;NI;PI;SHE;SI GUNU",
  "124a9;CUNEIFORM SIGN ;E2 TIMES KUR;E2 TIMES PAP;ERIN2 X;ESH2 CROSSING ESH2",
  "124ad;CUNEIFORM SIGN EZEN SHESHIG TIMES ;ASH;HI;IGI GUNU;LA;LAL;ME;MES;SU",
  "124b5;CUNEIFORM SIGN ;EZEN TIMES SU;GA2 TIMES BAHAR2;GA2 TIMES DIM GUNU",
  "124b8;CUNEIFORM SIGN GA2 TIMES ;DUG TIMES IGI GUNU;DUG TIMES KASKAL;EREN;GA;GAR PLUS DI",
  "124bd;CUNEIFORM SIGN GA2 TIMES ;GAR PLUS NE;HA PLUS A;KUSHU2 PLUS KASKAL;LAM;LAM TIMES KUR;LUH",
  "124c3;CUNEIFORM SIGN GA2 TIMES ;MUSH;NE;NE PLUS E2;NE PLUS GI;SHIM;ZIZ2",
  "124c9;CUNEIFORM SIGN ;GABA ROTATED NINETY DEGREES;GESHTIN TIMES U",
  "124cb;CUNEIFORM SIGN ;GISH TIMES GISH CROSSING GISH;GU2 TIMES IGI GUNU",
  "124cd;CUNEIFORM SIGN ;GUD PLUS GISH TIMES TAK4;HA TENU GUNU;HI TIMES ASH OVER HI TIMES ASH",
  "124d0;CUNEIFORM SIGN KA TIMES ;BU;KA;U U U;UR",
  "124d4;CUNEIFORM SIGN ;LAGAB TIMES ZU OVER ZU;LAK-003;LAK-021;LAK-025;LAK-030;LAK-050;LAK-051",
  "124db;CUNEIFORM SIGN LAK-;062;079 OVER LAK-079 GUNU;080;081 OVER LAK-081;092;130;142;210;219",
  "124e4;CUNEIFORM SIGN LAK-;220;225;228;238;265;266;343;347;348;383;384;390;441;449;449 TIMES GU",
  "124f3;CUNEIFORM SIGN LAK-449 TIMES ;IGI;PAP PLUS LU3;PAP PLUS PAP PLUS LU3;U2 PLUS BA",
  "124f7;CUNEIFORM SIGN LAK-;450;457;470;483;490;492;493;495;550;608;617;617 TIMES ASH",
  "12503;CUNEIFORM SIGN LAK-617 TIMES ;BAD;DUN3 GUNU GUNU;KU3;LA;TAR;TE;U2;UD;URUDA",
  "1250c;CUNEIFORM SIGN LAK-;636;648;648 TIMES DUB;648 TIMES GA;648 TIMES IGI;648 TIMES IGI GUNU",
  "12512;CUNEIFORM SIGN LAK-648 TIMES ;NI;PAP PLUS PAP PLUS LU3;SHESH PLUS KI;UD;URUDA",
  "12517;CUNEIFORM SIGN ;LAK-724;LAK-749;LU2 GUNU TIMES ASH;LU2 TIMES DISH;LU2 TIMES HAL",
  "1251c;CUNEIFORM SIGN ;LU2 TIMES PAP;LU2 TIMES PAP PLUS PAP PLUS LU3;LU2 TIMES TAK4;MI PLUS ZA7",
  "12520;CUNEIFORM SIGN ;MUSH OVER MUSH TIMES GA;MUSH OVER MUSH TIMES KAK;NINDA2 TIMES DIM GUNU",
  "12523;CUNEIFORM SIGN NINDA2 TIMES ;GISH;GUL;HI;KESH2;LAK-050;MASH;PAP PLUS PAP;U;U PLUS U",
  "1252c;CUNEIFORM SIGN ;NINDA2 TIMES URUDA;SAG GUNU TIMES HA;SAG TIMES EN;SAG TIMES SHE AT LEFT",
  "12530;CUNEIFORM SIGN ;SAG TIMES TAK4;SHA6 TENU;SHE OVER SHE;SHE PLUS HUB2;SHE PLUS NAM2",
  "12535;CUNEIFORM SIGN ;SHE PLUS SAR;SHU2 PLUS DUG TIMES NI;SHU2 PLUS E2 TIMES AN;SI TIMES TAK4",
  "12539;CUNEIFORM SIGN ;TAK4 PLUS SAG;TUM TIMES GAN2 TENU;TUM TIMES THREE DISH;UR2 INVERTED",
  "1253d;CUNEIFORM SIGN ;UR2 TIMES UD;URU TIMES DARA3;URU TIMES LAK-668;URU TIMES LU3;ZA7",
  "12542;CUNEIFORM SIGN ;ZU OVER ZU PLUS SAR;ZU5 TIMES THREE DISH TENU",
  "12f90;CYPRO-MINOAN SIGN ;CM001;CM002;CM004;CM005;CM006;CM007;CM008;CM009;CM010;CM011;CM012",
  "12f9b;CYPRO-MINOAN SIGN ;CM012B;CM013;CM015;CM017;CM019;CM021;CM023;CM024;CM025;CM026;CM027",
  "12fa6;CYPRO-MINOAN SIGN ;CM028;CM029;CM030;CM033;CM034;CM035;CM036;CM037;CM038;CM039;CM040",
  "12fb1;CYPRO-MINOAN SIGN ;CM041;CM044;CM046;CM047;CM049;CM050;CM051;CM052;CM053;CM054;CM055",
  "12fbc;CYPRO-MINOAN SIGN ;CM056;CM058;CM059;CM060;CM061;CM062;CM063;CM064;CM066;CM067;CM068",
  "12fc7;CYPRO-MINOAN SIGN ;CM069;CM070;CM071;CM072;CM073;CM074;CM075;CM075B;CM076;CM078;CM079",
  "12fd2;CYPRO-MINOAN SIGN ;CM080;CM081;CM082;CM083;CM084;CM085;CM086;CM087;CM088;CM089;CM090",
  "12fdd;CYPRO-MINOAN SIGN ;CM091;CM092;CM094;CM095;CM096;CM097;CM098;CM099;CM100;CM101;CM102",
  "12fe8;CYPRO-MINOAN SIGN ;CM103;CM104;CM105;CM107;CM108;CM109;CM110;CM112;CM114;CM301;CM302",
  "13000;EGYPTIAN HIEROGLYPH ;A001;A002;A003;A004;A005;A005A;A006;A006A;A006B;A007;A008;A009;A010",
  "1300d;EGYPTIAN HIEROGLYPH ;A011;A012;A013;A014;A014A;A015;A016;A017;A017A;A018;A019;A020;A021",
  "1301a;EGYPTIAN HIEROGLYPH ;A022;A023;A024;A025;A026;A027;A028;A029;A030;A031;A032;A032A;A033",
  "13027;EGYPTIAN HIEROGLYPH ;A034;A035;A036;A037;A038;A039;A040;A040A;A041;A042;A042A;A043;A043A",
  "13034;EGYPTIAN HIEROGLYPH ;A044;A045;A045A;A046;A047;A048;A049;A050;A051;A052;A053;A054;A055",
  "13041;EGYPTIAN HIEROGLYPH ;A056;A057;A058;A059;A060;A061;A062;A063;A064;A065;A066;A067;A068",
  "1304e;EGYPTIAN HIEROGLYPH ;A069;A070;B001;B002;B003;B004;B005;B005A;B006;B007;B008;B009;C001",
  "1305b;EGYPTIAN HIEROGLYPH ;C002;C002A;C002B;C002C;C003;C004;C005;C006;C007;C008;C009;C010",
  "13067;EGYPTIAN HIEROGLYPH ;C010A;C011;C012;C013;C014;C015;C016;C017;C018;C019;C020;C021;C022",
  "13074;EGYPTIAN HIEROGLYPH ;C023;C024;D001;D002;D003;D004;D005;D006;D007;D008;D008A;D009;D010",
  "13081;EGYPTIAN HIEROGLYPH ;D011;D012;D013;D014;D015;D016;D017;D018;D019;D020;D021;D022;D023",
  "1308e;EGYPTIAN HIEROGLYPH ;D024;D025;D026;D027;D027A;D028;D029;D030;D031;D031A;D032;D033;D034",
  "1309b;EGYPTIAN HIEROGLYPH ;D034A;D035;D036;D037;D038;D039;D040;D041;D042;D043;D044;D045;D046",
  "130a8;EGYPTIAN HIEROGLYPH ;D046A;D047;D048;D048A;D049;D050;D050A;D050B;D050C;D050D;D050E;D050F",
  "130b4;EGYPTIAN HIEROGLYPH ;D050G;D050H;D050I;D051;D052;D052A;D053;D054;D054A;D055;D056;D057",
  "130c0;EGYPTIAN HIEROGLYPH ;D058;D059;D060;D061;D062;D063;D064;D065;D066;D067;D067A;D067B;D067C",
  "130cd;EGYPTIAN HIEROGLYPH ;D067D;D067E;D067F;D067G;D067H;E001;E002;E003;E004;E005;E006;E007",
  "130d9;EGYPTIAN HIEROGLYPH ;E008;E008A;E009;E009A;E010;E011;E012;E013;E014;E015;E016;E016A;E017",
  "130e6;EGYPTIAN HIEROGLYPH ;E017A;E018;E019;E020;E020A;E021;E022;E023;E024;E025;E026;E027;E028",
  "130f3;EGYPTIAN HIEROGLYPH ;E028A;E029;E030;E031;E032;E033;E034;E034A;E036;E037;E038;F001;F001A",
  "13100;EGYPTIAN HIEROGLYPH ;F002;F003;F004;F005;F006;F007;F008;F009;F010;F011;F012;F013;F013A",
  "1310d;EGYPTIAN HIEROGLYPH ;F014;F015;F016;F017;F018;F019;F020;F021;F021A;F022;F023;F024;F025",
  "1311a;EGYPTIAN HIEROGLYPH ;F026;F027;F028;F029;F030;F031;F031A;F032;F033;F034;F035;F036;F037",
  "13127;EGYPTIAN HIEROGLYPH ;F037A;F038;F038A;F039;F040;F041;F042;F043;F044;F045;F045A;F046",
  "13133;EGYPTIAN HIEROGLYPH ;F046A;F047;F047A;F048;F049;F050;F051;F051A;F051B;F051C;F052;F053",
  "1313f;EGYPTIAN HIEROGLYPH ;G001;G002;G003;G004;G005;G006;G006A;G007;G007A;G007B;G008;G009;G010",
  "1314c;EGYPTIAN HIEROGLYPH ;G011;G011A;G012;G013;G014;G015;G016;G017;G018;G019;G020;G020A;G021",
  "13159;EGYPTIAN HIEROGLYPH ;G022;G023;G024;G025;G026;G026A;G027;G028;G029;G030;G031;G032;G033",
  "13166;EGYPTIAN HIEROGLYPH ;G034;G035;G036;G036A;G037;G037A;G038;G039;G040;G041;G042;G043;G043A",
  "13173;EGYPTIAN HIEROGLYPH ;G044;G045;G045A;G046;G047;G048;G049;G050;G051;G052;G053;G054;H001",
  "13180;EGYPTIAN HIEROGLYPH ;H002;H003;H004;H005;H006;H006A;H007;H008;I001;I002;I003;I004;I005",
  "1318d;EGYPTIAN HIEROGLYPH ;I005A;I006;I007;I008;I009;I009A;I010;I010A;I011;I011A;I012;I013",
  "13199;EGYPTIAN HIEROGLYPH ;I014;I015;K001;K002;K003;K004;K005;K006;K007;K008;L001;L002;L002A",
  "131a6;EGYPTIAN HIEROGLYPH ;L003;L004;L005;L006;L006A;L007;L008;M001;M001A;M001B;M002;M003",
  "131b2;EGYPTIAN HIEROGLYPH ;M003A;M004;M005;M006;M007;M008;M009;M010;M010A;M011;M012;M012A",
  "131be;EGYPTIAN HIEROGLYPH ;M012B;M012C;M012D;M012E;M012F;M012G;M012H;M013;M014;M015;M015A;M016",
  "131ca;EGYPTIAN HIEROGLYPH ;M016A;M017;M017A;M018;M019;M020;M021;M022;M022A;M023;M024;M024A",
  "131d6;EGYPTIAN HIEROGLYPH ;M025;M026;M027;M028;M028A;M029;M030;M031;M031A;M032;M033;M033A",
  "131e2;EGYPTIAN HIEROGLYPH ;M033B;M034;M035;M036;M037;M038;M039;M040;M040A;M041;M042;M043;M044",
  "131ef;EGYPTIAN HIEROGLYPH ;N001;N002;N003;N004;N005;N006;N007;N008;N009;N010;N011;N012;N013",
  "131fc;EGYPTIAN HIEROGLYPH ;N014;N015;N016;N017;N018;N018A;N018B;N019;N020;N021;N022;N023;N024",
  "13209;EGYPTIAN HIEROGLYPH ;N025;N025A;N026;N027;N028;N029;N030;N031;N032;N033;N033A;N034;N034A",
  "13216;EGYPTIAN HIEROGLYPH ;N035;N035A;N036;N037;N037A;N038;N039;N040;N041;N042;NL001;NL002",
  "13222;EGYPTIAN HIEROGLYPH ;NL003;NL004;NL005;NL005A;NL006;NL007;NL008;NL009;NL010;NL011;NL012",
  "1322d;EGYPTIAN HIEROGLYPH ;NL013;NL014;NL015;NL016;NL017;NL017A;NL018;NL019;NL020;NU001;NU002",
  "13238;EGYPTIAN HIEROGLYPH ;NU003;NU004;NU005;NU006;NU007;NU008;NU009;NU010;NU010A;NU011;NU011A",
  "13243;EGYPTIAN HIEROGLYPH ;NU012;NU013;NU014;NU015;NU016;NU017;NU018;NU018A;NU019;NU020;NU021",
  "1324e;EGYPTIAN HIEROGLYPH ;NU022;NU022A;O001;O001A;O002;O003;O004;O005;O005A;O006;O006A;O006B",
  "1325a;EGYPTIAN HIEROGLYPH ;O006C;O006D;O006E;O006F;O007;O008;O009;O010;O010A;O010B;O010C;O011",
  "13266;EGYPTIAN HIEROGLYPH ;O012;O013;O014;O015;O016;O017;O018;O019;O019A;O020;O020A;O021;O022",
  "13273;EGYPTIAN HIEROGLYPH ;O023;O024;O024A;O025;O025A;O026;O027;O028;O029;O029A;O030;O030A",
  "1327f;EGYPTIAN HIEROGLYPH ;O031;O032;O033;O033A;O034;O035;O036;O036A;O036B;O036C;O036D;O037",
  "1328b;EGYPTIAN HIEROGLYPH ;O038;O039;O040;O041;O042;O043;O044;O045;O046;O047;O048;O049;O050",
  "13298;EGYPTIAN HIEROGLYPH ;O050A;O050B;O051;P001;P001A;P002;P003;P003A;P004;P005;P006;P007",
  "132a4;EGYPTIAN HIEROGLYPH ;P008;P009;P010;P011;Q001;Q002;Q003;Q004;Q005;Q006;Q007;R001;R002",
  "132b1;EGYPTIAN HIEROGLYPH ;R002A;R003;R003A;R003B;R004;R005;R006;R007;R008;R009;R010;R010A",
  "132bd;EGYPTIAN HIEROGLYPH ;R011;R012;R013;R014;R015;R016;R016A;R017;R018;R019;R020;R021;R022",
  "132ca;EGYPTIAN HIEROGLYPH ;R023;R024;R025;R026;R027;R028;R029;S001;S002;S002A;S003;S004;S005",
  "132d7;EGYPTIAN HIEROGLYPH ;S006;S006A;S007;S008;S009;S010;S011;S012;S013;S014;S014A;S014B;S015",
  "132e4;EGYPTIAN HIEROGLYPH ;S016;S017;S017A;S018;S019;S020;S021;S022;S023;S024;S025;S026;S026A",
  "132f1;EGYPTIAN HIEROGLYPH ;S026B;S027;S028;S029;S030;S031;S032;S033;S034;S035;S035A;S036;S037",
  "132fe;EGYPTIAN HIEROGLYPH ;S038;S039;S040;S041;S042;S043;S044;S045;S046;T001;T002;T003;T003A",
  "1330b;EGYPTIAN HIEROGLYPH ;T004;T005;T006;T007;T007A;T008;T008A;T009;T009A;T010;T011;T011A",
  "13317;EGYPTIAN HIEROGLYPH ;T012;T013;T014;T015;T016;T016A;T017;T018;T019;T020;T021;T022;T023",
  "13324;EGYPTIAN HIEROGLYPH ;T024;T025;T026;T027;T028;T029;T030;T031;T032;T032A;T033;T033A;T034",
  "13331;EGYPTIAN HIEROGLYPH ;T035;T036;U001;U002;U003;U004;U005;U006;U006A;U006B;U007;U008;U009",
  "1333e;EGYPTIAN HIEROGLYPH ;U010;U011;U012;U013;U014;U015;U016;U017;U018;U019;U020;U021;U022",
  "1334b;EGYPTIAN HIEROGLYPH ;U023;U023A;U024;U025;U026;U027;U028;U029;U029A;U030;U031;U032;U032A",
  "13358;EGYPTIAN HIEROGLYPH ;U033;U034;U035;U036;U037;U038;U039;U040;U041;U042;V001;V001A;V001B",
  "13365;EGYPTIAN HIEROGLYPH ;V001C;V001D;V001E;V001F;V001G;V001H;V001I;V002;V002A;V003;V004;V005",
  "13371;EGYPTIAN HIEROGLYPH ;V006;V007;V007A;V007B;V008;V009;V010;V011;V011A;V011B;V011C;V012",
  "1337d;EGYPTIAN HIEROGLYPH ;V012A;V012B;V013;V014;V015;V016;V017;V018;V019;V020;V020A;V020B",
  "13389;EGYPTIAN HIEROGLYPH ;V020C;V020D;V020E;V020F;V020G;V020H;V020I;V020J;V020K;V020L;V021",
  "13394;EGYPTIAN HIEROGLYPH ;V022;V023;V023A;V024;V025;V026;V027;V028;V028A;V029;V029A;V030",
  "133a0;EGYPTIAN HIEROGLYPH ;V030A;V031;V031A;V032;V033;V033A;V034;V035;V036;V037;V037A;V038",
  "133ac;EGYPTIAN HIEROGLYPH ;V039;V040;V040A;W001;W002;W003;W003A;W004;W005;W006;W007;W008;W009",
  "133b9;EGYPTIAN HIEROGLYPH ;W009A;W010;W010A;W011;W012;W013;W014;W014A;W015;W016;W017;W017A",
  "133c5;EGYPTIAN HIEROGLYPH ;W018;W018A;W019;W020;W021;W022;W023;W024;W024A;W025;X001;X002;X003",
  "133d2;EGYPTIAN HIEROGLYPH ;X004;X004A;X004B;X005;X006;X006A;X007;X008;X008A;Y001;Y001A;Y002",
  "133de;EGYPTIAN HIEROGLYPH ;Y003;Y004;Y005;Y006;Y007;Y008;Z001;Z002;Z002A;Z002B;Z002C;Z002D",
  "133ea;EGYPTIAN HIEROGLYPH ;Z003;Z003A;Z003B;Z004;Z004A;Z005;Z005A;Z006;Z007;Z008;Z009;Z010",
  "133f6;EGYPTIAN HIEROGLYPH ;Z011;Z012;Z013;Z014;Z015;Z015A;Z015B;Z015C;Z015D;Z015E;Z015F;Z015G",
  "13402;EGYPTIAN HIEROGLYPH ;Z015H;Z015I;Z016;Z016A;Z016B;Z016C;Z016D;Z016E;Z016F;Z016G;Z016H",
  "1340d;EGYPTIAN HIEROGLYPH ;AA001;AA002;AA003;AA004;AA005;AA006;AA007;AA007A;AA007B;AA008;AA009",
  "13418;EGYPTIAN HIEROGLYPH ;AA010;AA011;AA012;AA013;AA014;AA015;AA016;AA017;AA018;AA019;AA020",
  "13423;EGYPTIAN HIEROGLYPH ;AA021;AA022;AA023;AA024;AA025;AA026;AA027;AA028;AA029;AA030;AA031",
  "1342e;;EGYPTIAN HIEROGLYPH AA032",
  "13430;EGYPTIAN HIEROGLYPH ;VERTICAL JOINER;HORIZONTAL JOINER;INSERT AT TOP START",
  "13433;EGYPTIAN HIEROGLYPH INSERT AT ;BOTTOM START;TOP END;BOTTOM END",
  "13436;EGYPTIAN HIEROGLYPH ;OVERLAY MIDDLE;BEGIN SEGMENT;END SEGMENT",
  "14400;ANATOLIAN HIEROGLYPH ;A001;A002;A003;A004;A005;A006;A007;A008;A009;A010;A010A;A011;A012",
  "1440d;ANATOLIAN HIEROGLYPH ;A013;A014;A015;A016;A017;A018;A019;A020;A021;A022;A023;A024;A025",
  "1441a;ANATOLIAN HIEROGLYPH ;A026;A026A;A027;A028;A029;A030;A031;A032;A033;A034;A035;A036;A037",
  "14427;ANATOLIAN HIEROGLYPH ;A038;A039;A039A;A040;A041;A041A;A042;A043;A044;A045;A045A;A046",
  "14433;ANATOLIAN HIEROGLYPH ;A046A;A046B;A047;A048;A049;A050;A051;A052;A053;A054;A055;A056;A057",
  "14440;ANATOLIAN HIEROGLYPH ;A058;A059;A060;A061;A062;A063;A064;A065;A066;A066A;A066B;A066C",
  "1444c;ANATOLIAN HIEROGLYPH ;A067;A068;A069;A070;A071;A072;A073;A074;A075;A076;A077;A078;A079",
  "14459;ANATOLIAN HIEROGLYPH ;A080;A081;A082;A083;A084;A085;A086;A087;A088;A089;A090;A091;A092",
  "14466;ANATOLIAN HIEROGLYPH ;A093;A094;A095;A096;A097;A097A;A098;A098A;A099;A100;A100A;A101",
  "14472;ANATOLIAN HIEROGLYPH ;A101A;A102;A102A;A103;A104;A104A;A104B;A104C;A105;A105A;A105B;A106",
  "1447e;ANATOLIAN HIEROGLYPH ;A107;A107A;A107B;A107C;A108;A109;A110;A110A;A110B;A111;A112;A113",
  "1448a;ANATOLIAN HIEROGLYPH ;A114;A115;A115A;A116;A117;A118;A119;A120;A121;A122;A123;A124;A125",
  "14497;ANATOLIAN HIEROGLYPH ;A125A;A126;A127;A128;A129;A130;A131;A132;A133;A134;A135;A135A;A136",
  "144a4;ANATOLIAN HIEROGLYPH ;A137;A138;A139;A140;A141;A142;A143;A144;A145;A146;A147;A148;A149",
  "144b1;ANATOLIAN HIEROGLYPH ;A150;A151;A152;A153;A154;A155;A156;A157;A158;A159;A160;A161;A162",
  "144be;ANATOLIAN HIEROGLYPH ;A163;A164;A165;A166;A167;A168;A169;A170;A171;A172;A173;A174;A175",
  "144cb;ANATOLIAN HIEROGLYPH ;A176;A177;A178;A179;A180;A181;A182;A183;A184;A185;A186;A187;A188",
  "144d8;ANATOLIAN HIEROGLYPH ;A189;A190;A191;A192;A193;A194;A195;A196;A197;A198;A199;A200;A201",
  "144e5;ANATOLIAN HIEROGLYPH ;A202;A202A;A202B;A203;A204;A205;A206;A207;A207A;A208;A209;A209A",
  "144f1;ANATOLIAN HIEROGLYPH ;A210;A211;A212;A213;A214;A215;A215A;A216;A216A;A217;A218;A219;A220",
  "144fe;ANATOLIAN HIEROGLYPH ;A221;A222;A223;A224;A225;A226;A227;A227A;A228;A229;A230;A231;A232",
  "1450b;ANATOLIAN HIEROGLYPH ;A233;A234;A235;A236;A237;A238;A239;A240;A241;A242;A243;A244;A245",
  "14518;ANATOLIAN HIEROGLYPH ;A246;A247;A248;A249;A250;A251;A252;A253;A254;A255;A256;A257;A258",
  "14525;ANATOLIAN HIEROGLYPH ;A259;A260;A261;A262;A263;A264;A265;A266;A267;A267A;A268;A269;A270",
  "14532;ANATOLIAN HIEROGLYPH ;A271;A272;A273;A274;A275;A276;A277;A278;A279;A280;A281;A282;A283",
  "1453f;ANATOLIAN HIEROGLYPH ;A284;A285;A286;A287;A288;A289;A289A;A290;A291;A292;A293;A294;A294A",
  "1454c;ANATOLIAN HIEROGLYPH ;A295;A296;A297;A298;A299;A299A;A300;A301;A302;A303;A304;A305;A306",
  "14559;ANATOLIAN HIEROGLYPH ;A307;A308;A309;A309A;A310;A311;A312;A313;A314;A315;A316;A317;A318",
  "14566;ANATOLIAN HIEROGLYPH ;A319;A320;A321;A322;A323;A324;A325;A326;A327;A328;A329;A329A;A330",
  "14573;ANATOLIAN HIEROGLYPH ;A331;A332A;A332B;A332C;A333;A334;A335;A336;A336A;A336B;A336C;A337",
  "1457f;ANATOLIAN HIEROGLYPH ;A338;A339;A340;A341;A342;A343;A344;A345;A346;A347;A348;A349;A350",
  "1458c;ANATOLIAN HIEROGLYPH ;A351;A352;A353;A354;A355;A356;A357;A358;A359;A359A;A360;A361;A362",
  "14599;ANATOLIAN HIEROGLYPH ;A363;A364;A364A;A365;A366;A367;A368;A368A;A369;A370;A371;A371A",
  "145a5;ANATOLIAN HIEROGLYPH ;A372;A373;A374;A375;A376;A377;A378;A379;A380;A381;A381A;A382",
  "145b1;ANATOLIAN HIEROGLYPH ;A383 RA OR RI;A383A;A384;A385;A386;A386A;A387;A388;A389;A390;A391",
  "145bc;ANATOLIAN HIEROGLYPH ;A392;A393 EIGHT;A394;A395;A396;A397;A398;A399;A400;A401;A402;A403",
  "145c8;ANATOLIAN HIEROGLYPH ;A404;A405;A406;A407;A408;A409;A410 BEGIN LOGOGRAM MARK",
  "145cf;ANATOLIAN HIEROGLYPH ;A410A END LOGOGRAM MARK;A411;A412;A413;A414;A415;A416;A417;A418",
  "145d8;ANATOLIAN HIEROGLYPH ;A419;A420;A421;A422;A423;A424;A425;A426;A427;A428;A429;A430;A431",
  "145e5;ANATOLIAN HIEROGLYPH ;A432;A433;A434;A435;A436;A437;A438;A439;A440;A441;A442;A443;A444",
  "145f2;ANATOLIAN HIEROGLYPH ;A445;A446;A447;A448;A449;A450;A450A;A451;A452;A453;A454;A455;A456",
  "145ff;ANATOLIAN HIEROGLYPH ;A457;A457A;A458;A459;A460;A461;A462;A463;A464;A465;A466;A467;A468",
  "1460c;ANATOLIAN HIEROGLYPH ;A469;A470;A471;A472;A473;A474;A475;A476;A477;A478;A479;A480;A481",
  "14619;ANATOLIAN HIEROGLYPH ;A482;A483;A484;A485;A486;A487;A488;A489;A490;A491;A492;A493;A494",
  "14626;ANATOLIAN HIEROGLYPH ;A495;A496;A497;A501;A502;A503;A504;A505;A506;A507;A508;A509;A510",
  "14633;ANATOLIAN HIEROGLYPH ;A511;A512;A513;A514;A515;A516;A517;A518;A519;A520;A521;A522;A523",
  "14640;ANATOLIAN HIEROGLYPH ;A524;A525;A526;A527;A528;A529;A530",
  "16800;BAMUM LETTER PHASE-A ;NGKUE MFON;GBIEE FON;PON MFON PIPAEMGBIEE;PON MFON PIPAEMBA",
  "16804;BAMUM LETTER PHASE-A ;NAA MFON;SHUENSHUET;TITA MFON;NZA MFON;SHINDA PA NJI",
  "16809;BAMUM LETTER PHASE-A ;PON PA NJI PIPAEMGBIEE;PON PA NJI PIPAEMBA;MAEMBGBIEE;TU MAEMBA",
  "1680d;BAMUM LETTER PHASE-A ;NGANGU;MAEMVEUX;MANSUAE;MVEUAENGAM;SEUNYAM;NTOQPEN;KEUKEUTNDA",
  "16814;BAMUM LETTER PHASE-A ;NKINDI;SUU;NGKUENZEUM;LAPAQ;LET KUT;NTAP MFAA;MAEKEUP;PASHAE",
  "1681c;BAMUM LETTER PHASE-A ;GHEUAERAE;PAMSHAE;MON NGGEUAET;NZUN MEUT;U YUQ NAE;GHEUAEGHEUAE",
  "16822;BAMUM LETTER PHASE-A ;NTAP NTAA;SISA;MGBASA;MEUNJOMNDEUQ;MOOMPUQ;KAFA;PA LEERAEWA",
  "16829;BAMUM LETTER PHASE-A ;NDA LEERAEWA;PET;MAEMKPEN;NIKA;PUP;TUAEP;LUAEP;SONJAM;TEUTEUWEN",
  "16832;BAMUM LETTER PHASE-A ;MAENYI;KET;NDAANGGEUAET;KUOQ;MOOMEUT;SHUM;LOMMAE;FIRI;ROM;KPOQ;SOQ",
  "1683d;BAMUM LETTER PHASE-A ;MAP PIEET;SHIRAE;NTAP;SHOQ NSHUT YUM;NYIT MONGKEUAEQ;PAARAE",
  "16843;BAMUM LETTER PHASE-A ;NKAARAE;UNKNOWN;NGGEN;MAESI;NJAM;MBANYI;NYET;TEUAEN;SOT;PAAM",
  "1684d;BAMUM LETTER PHASE-A ;NSHIEE;MAEM;NYI;KAQ;NSHA;VEE;LU;NEN;NAQ;MBAQ",
  "16857;BAMUM LETTER PHASE-B ;NSHUET;TU MAEMGBIEE;SIEE;SET TU;LOM NTEUM;MBA MAELEE;KIEEM;YEURAE",
  "1685f;BAMUM LETTER PHASE-B ;MBAARAE;KAM;PEESHI;YAFU LEERAEWA;LAM NSHUT NYAM;NTIEE SHEUOQ",
  "16865;BAMUM LETTER PHASE-B ;NDU NJAA;GHEUGHEUAEM;PIT;TU NSIEE;SHET NJAQ;SHEUAEQTU;MFON TEUAEQ",
  "1686c;BAMUM LETTER PHASE-B ;MBIT MBAAKET;NYI NTEUM;KEUPUQ;GHEUGHEN;KEUYEUX;LAANAE;PARUM;VEUM",
  "16874;BAMUM LETTER PHASE-B ;NGKINDI MVOP;NGGEU MBU;WUAET;SAKEUAE;TAAM;MEUQ;NGGUOQ;NGGUOQ LARGE",
  "1687c;BAMUM LETTER PHASE-B ;MFIYAQ;SUE;MBEURI;MONTIEEN;NYAEMAE;PUNGAAM;MEUT NGGEET;FEUX;MBUOQ",
  "16885;BAMUM LETTER PHASE-B ;FEE;KEUAEM;MA NJEUAENA;MA NJUQA;LET;NGGAAM;NSEN;MA;KIQ;NGOM",
  "1688f;BAMUM LETTER PHASE-C ;NGKUE MAEMBA;NZA;YUM;WANGKUOQ;NGGEN;NDEUAEREE;NGKAQ;GHARAE",
  "16897;BAMUM LETTER PHASE-C ;MBEEKEET;GBAYI;NYIR MKPARAQ MEUN;NTU MBIT;MBEUM;PIRIEEN;NDOMBU",
  "1689e;BAMUM LETTER PHASE-C ;MBAA CABBAGE-TREE;KEUSHEUAEP;GHAP;KEUKAQ;YU MUOMAE;NZEUM;MBUE",
  "168a5;BAMUM LETTER PHASE-C ;NSEUAEN;MBIT;YEUQ;KPARAQ;KAA;SEUX;NDIDA;TAASHAE;NJUEQ;TITA YUE",
  "168af;BAMUM LETTER PHASE-C ;SUAET;NGGUAEN NYAM;VEUX;NANSANAQ;MA KEUAERI;NTAA;NGGUON;LAP",
  "168b7;BAMUM LETTER PHASE-C ;MBIRIEEN;MGBASAQ;NTEUNGBA;TEUTEUX;NGGUM;FUE;NDEUT;NSA;NSHAQ;BUNG",
  "168c1;BAMUM LETTER PHASE-C ;VEUAEPEN;MBERAE;RU;NJAEM;LAM;TITUAEP;NSUOT NGOM;NJEEEE;KET;NGGU",
  "168cb;BAMUM LETTER PHASE-C ;MAESI;MBUAEM;LU;KUT;NJAM;NGOM;WUP;NGGUEET;NSOM;NTEN;KUOP NKAARAE",
  "168d6;BAMUM LETTER PHASE-C ;NSUN;NDAM;MA NSIEE;YAA;NDAP;SHUEQ;SETFON;MBI;MAEMBA;MBANYI;KEUSEUX",
  "168e1;BAMUM LETTER PHASE-C ;MBEUX;KEUM;MBAA PICKET;YUWOQ;NJEUX;MIEE;MUAE;SHIQ;KEN LAW",
  "168ea;BAMUM LETTER PHASE-;C KEN FATIGUE;C NGAQ;C NAQ;C LIQ;C PIN;C PEN;C TET;D MBUO;D WAP",
  "168f3;BAMUM LETTER PHASE-D ;NJI;MFON;NJIEE;LIEE;NJEUT;NSHEE;NGGAAMAE;NYAM;WUAEN;NGKUN;SHEE",
  "168fe;BAMUM LETTER PHASE-D ;NGKAP;KEUAETMEUN;TEUT;SHEUAE;NJAP;SUE;KET;YAEMMAE;KUOM;SAP;MFEUT",
  "16909;BAMUM LETTER PHASE-D ;NDEUX;MALEERI;MEUT;SEUAEQ;YEN;NJEUAEM;KEUOT MBUAE;NGKEURI;TU;GHAA",
  "16913;BAMUM LETTER PHASE-D ;NGKYEE;FEUFEUAET;NDEE;MGBOFUM;LEUAEP;NDON;MONI;MGBEUN;PUUT;MGBIEE",
  "1691d;BAMUM LETTER PHASE-D ;MFO;LUM;NSIEEP;MBAA;KWAET;NYET;TEUAEN;SOT;YUWOQ;KEUM;RAEM;TEEEE",
  "16929;BAMUM LETTER PHASE-D ;NGKEUAEQ;MFEUAE;NSIEET;KEUP;PIP;PEUTAE;NYUE;LET;NGGAAM;MFIEE",
  "16933;BAMUM LETTER PHASE-D ;NGGWAEN;YUOM;PAP;YUOP;NDAM;NTEUM;SUAE;KUN;NGGEUX;NGKIEE;TUOT;MEUN",
  "1693f;BAMUM LETTER PHASE-D ;KUQ;NSUM;TEUN;MAENJET;NGGAP;LEUM;NGGUOM;NSHUT;NJUEQ;GHEUAE;KU",
  "1694a;BAMUM LETTER PHASE-D ;REN OLD;TAE;TOQ;NYI;RII;LEEEE;MEEEE;M;SUU;MU;SHII;SHEUX;KYEE;NU",
  "16958;BAMUM LETTER PHASE-D ;SHU;NTEE;PEE;NI;SHOQ;PUQ;MVOP;LOQ;REN MUCH;TI;NTUU;MBAA SEVEN;SAQ",
  "16965;BAMUM LETTER PHASE-;D FAA;E NDAP;E TOON;E MBEUM;E LAP;E VOM;E LOON;E PAA;E SOM;E RAQ",
  "1696f;BAMUM LETTER PHASE-E ;NSHUOP;NDUN;PUAE;TAM;NGKA;KPEUX;WUO;SEE;NGGEUAET;PAAM;TOO;KUOP;LOM",
  "1697c;BAMUM LETTER PHASE-E ;NSHIEE;NGOP;MAEM;NGKEUX;NGOQ;NSHUE;RIMGBA;NJEUX;PEEM;SAA;NGGURAE",
  "16987;BAMUM LETTER PHASE-E ;MGBA;GHEUX;NGKEUAEM;NJAEMLI;MAP;LOOT;NGGEEEE;NDIQ;TAEN NTEUM;SET",
  "16991;BAMUM LETTER PHASE-E ;PUM;NDAA SOFTNESS;NGGUAESHAE NYAM;YIEE;GHEUN;TUAE;YEUAE;PO;TUMAE",
  "1699a;BAMUM LETTER PHASE-E ;KEUAE;SUAEN;TEUAEQ;VEUAE;WEUX;LAAM;PU;TAAQ;GHAAMAE;NGEUREUT",
  "169a4;BAMUM LETTER PHASE-E ;SHEUAEQ;MGBEN;MBEE;NZAQ;NKOM;GBET;TUM;KUET;YAP;NYI CLEAVER;YIT",
  "169af;BAMUM LETTER PHASE-E ;MFEUQ;NDIAQ;PIEEQ;YUEQ;LEUAEM;FUE;GBEUX;NGKUP;KET;MAE;NGKAAMI;GHET",
  "169bb;BAMUM LETTER PHASE-E ;FA;NTUM;PEUT;YEUM;NGGEUAE;NYI BETWEEN;NZUQ;POON;MIEE;FUET;NAE;MUAE",
  "169c7;BAMUM LETTER PHASE-E ;GHEUAE;FU I;MVI;PUAQ;NGKUM;KUT;PIET;NTAP;YEUAET;NGGUP;PA PEOPLE",
  "169d2;BAMUM LETTER PHASE-E ;FU CALL;FOM;NJEE;A;TOQ;O;I;LAQ;PA PLURAL;TAA;TAQ;NDAA MY HOUSE",
  "169de;BAMUM LETTER PHASE-E ;SHIQ;YEUX;NGUAE;YUAEN;YOQ SWIMMING;YOQ COVER;YUQ;YUN;KEUX;PEUX",
  "169e8;BAMUM LETTER PHASE-E ;NJEE EPOCH;PUE;WUE;FEE;VEE;LU;MI;REUX;RAE;NGUAET;NGA;SHO;SHOQ",
  "169f5;BAMUM LETTER PHASE-E ;FU REMEDY;NA;PI;LOQ;KO;MEN;MA;MAQ;TEU;KI;MON;TEN;FAQ;GHOM",
  "16a03;BAMUM LETTER PHASE-F ;KA;U;KU;EE;REE;TAE;NYI;LA;RII;RIEE;MEEEE;TAA;NDAA;NJAEM;M;SUU;SHII",
  "16a14;BAMUM LETTER PHASE-F ;SI;SEUX;KYEE;KET;NUAE;NU;NJUAE;YOQ;SHU;YA;NSHA;PEUX;NTEE;WUE;PEE",
  "16a23;BAMUM LETTER PHASE-F ;RU;NI;REUX;KEN;NGKWAEN;NGGA;SHO;PUAE;FOM;WA;LI;LOQ;KO;MBEN;REN;MA",
  "16a33;BAMUM LETTER PHASE-F ;MO;MBAA;TET;KPA;SAMBA;VUEQ",
  "16a40;MRO LETTER ;TA;NGI;YO;MIM;BA;DA;A;PHI;KHAI;HAO;DAI;CHU;KEAAE;OL;MAEM;NIN;PA;OO;O;RO;SHI",
  "16a55;MRO LETTER ;THEA;EA;WA;E;KO;LAN;LA;HAI;RI;TEK",
  "16a60;MRO DIGIT ;ZERO;ONE;TWO;THREE;FOUR;FIVE;SIX;SEVEN;EIGHT;NINE",
  "16a6e;;MRO DANDA;MRO DOUBLE DANDA;TANGSA LETTER OZ;TANGSA LETTER OC;TANGSA LETTER OQ",
  "16a73;TANGSA LETTER ;OX;AZ;AC;AQ;AX;VZ;VC;VQ;VX;EZ;EC;EQ;EX;IZ;IC;IQ;IX;UZ;UC;UQ;UX;AWZ;AWC",
  "16a8a;TANGSA LETTER ;AWQ;AWX;UIZ;UIC;UIQ;UIX;FINAL NG;LONG UEX;SHORT UEZ;SHORT AWX;UEC;UEZ;UEQ",
  "16a97;TANGSA LETTER ;UEX;UIUZ;UIUC;UIUQ;UIUX;MZ;MC;MQ;MX;KA;KHA;GA;NGA;SA;YA;WA;PA;NYA;PHA;BA",
  "16aab;TANGSA LETTER ;MA;NA;HA;LA;HTA;TA;DA;RA;NHA;SHA;CA;TSA;GHA;HTTA;THA;XA;FA;DHA;CHA;ZA",
  "16ac0;TANGSA DIGIT ;ZERO;ONE;TWO;THREE;FOUR;FIVE;SIX;SEVEN;EIGHT;NINE",
  "16ad0;BASSA VAH LETTER ;ENNI;KA;SE;FA;MBE;YIE;GAH;DHII;KPAH;JO;HWAH;WA;ZO;GBU;DO;CE;UWU;TO;BA",
  "16ae3;BASSA VAH LETTER ;VU;YEIN;PA;WADDA;A;O;OO;U;EE;E;I",
  "16af0;BASSA VAH COMBINING ;HIGH TONE;LOW TONE;MID TONE;LOW-MID TONE;HIGH-LOW TONE",
  "16af5;;BASSA VAH FULL STOP",
  "16b00;PAHAWH HMONG VOWEL ;KEEB;KEEV;KIB;KIV;KAUB;KAUV;KUB;KUV;KEB;KEV;KAIB;KAIV;KOOB;KOOV;KAWB",
  "16b0f;PAHAWH HMONG VOWEL ;KAWV;KUAB;KUAV;KOB;KOV;KIAB;KIAV;KAB;KAV;KWB;KWV;KAAB;KAAV",
  "16b1c;PAHAWH HMONG CONSONANT ;VAU;NTSAU;LAU;HAU;NLAU;RAU;NKAU;QHAU;YAU;HLAU;MAU;CHAU;NCHAU",
  "16b29;PAHAWH HMONG CONSONANT ;HNAU;PLHAU;NTHAU;NAU;AU;XAU;CAU",
  "16b30;PAHAWH HMONG MARK CIM ;TUB;SO;KES;KHAV;SUAM;HOM;TAUM",
  "16b37;PAHAWH HMONG SIGN ;VOS THOM;VOS TSHAB CEEB;CIM CHEEM;VOS THIAB;VOS FEEM;XYEEM NTXIV",
  "16b3d;PAHAWH HMONG SIGN ;XYEEM RHO;XYEEM TOV;XYEEM FAIB;VOS SEEV;MEEJ SUAB;VOS NRUA;IB YAM",
  "16b44;PAHAWH HMONG SIGN ;XAUS;CIM TSOV ROG",
  "16b50;PAHAWH HMONG DIGIT ;ZERO;ONE;TWO;THREE;FOUR;FIVE;SIX;SEVEN;EIGHT;NINE",
  "16b5b;PAHAWH HMONG NUMBER ;TENS;HUNDREDS;TEN THOUSANDS;MILLIONS;HUNDRED MILLIONS;TEN BILLIONS",
  "16b61;;PAHAWH HMONG NUMBER TRILLIONS",
  "16b63;PAHAWH HMONG SIGN ;VOS LUB;XYOO;HLI;THIRD-STAGE HLI;ZWJ THAJ;HNUB;NQIG;XIAB;NTUJ;AV",
  "16b6d;PAHAWH HMONG SIGN ;TXHEEJ CEEV;MEEJ TSEEB;TAU;LOS;MUS;CIM HAIS LUS NTOG NTOG",
  "16b73;PAHAWH HMONG SIGN CIM ;CUAM TSHOOJ;TXWV;TXWV CHWV;PUB DAWB;NRES TOS",
  "16b7d;PAHAWH HMONG CLAN SIGN ;TSHEEJ;YEEG;LIS;LAUJ;XYOOJ;KOO;HAWJ;MUAS;THOJ;TSAB;PHAB;KHAB;HAM",
  "16b8a;PAHAWH HMONG CLAN SIGN ;VAJ;FAJ;YAJ;TSWB;KWM;VWJ",
  "16e40;MEDEFAIDRIN CAPITAL LETTER ;M;S;V;W;ATIU;Z;KP;P;T;G;F;I;K;A;J;E;B;C;U;YU;L;Q;HP;NY;X;D",
  "16e5a;MEDEFAIDRIN CAPITAL LETTER ;OE;N;R;O;AI;Y",
  "16e60;MEDEFAIDRIN SMALL LETTER ;M;S;V;W;ATIU;Z;KP;P;T;G;F;I;K;A;J;E;B;C;U;YU;L;Q;HP;NY;X;D;OE",
  "16e7b;MEDEFAIDRIN SMALL LETTER ;N;R;O;AI;Y",
  "16e80;MEDEFAIDRIN DIGIT ;ZERO;ONE;TWO;THREE;FOUR;FIVE;SIX;SEVEN;EIGHT;NINE",
  "16e8a;MEDEFAIDRIN NUMBER ;TEN;ELEVEN;TWELVE;THIRTEEN;FOURTEEN;FIFTEEN;SIXTEEN;SEVENTEEN",
  "16e92;MEDEFAIDRIN ;NUMBER EIGHTEEN;NUMBER NINETEEN;DIGIT ONE ALTERNATE FORM",
  "16e95;MEDEFAIDRIN ;DIGIT TWO ALTERNATE FORM;DIGIT THREE ALTERNATE FORM;COMMA;FULL STOP",
  "16e99;MEDEFAIDRIN ;SYMBOL AIVA;EXCLAMATION OH",
  "16f00;MIAO LETTER ;PA;BA;YI PA;PLA;MA;MHA;ARCHAIC MA;FA;VA;VFA;TA;DA;YI TTA;YI TA;TTA;DDA;NA",
  "16f11;MIAO LETTER ;NHA;YI NNA;ARCHAIC NA;NNA;NNHA;LA;LYA;LHA;LHYA;TLHA;DLHA;TLHYA;DLHYA;KA;GA",
  "16f20;MIAO LETTER ;YI KA;QA;QGA;NGA;NGHA;ARCHAIC NGA;HA;XA;GHA;GHHA;TSSA;DZZA;NYA;NYHA;TSHA",
  "16f2f;MIAO LETTER ;DZHA;YI TSHA;YI DZHA;REFORMED TSHA;SHA;SSA;ZHA;ZSHA;TSA;DZA;YI TSA;SA;ZA",
  "16f3c;MIAO LETTER ;ZSA;ZZA;ZZSA;ARCHAIC ZZA;ZZYA;ZZSYA;WA;AH;HHA;BRI;SYI;DZYI;TE;TSE;RTE",
  "16f4f;MIAO ;SIGN CONSONANT MODIFIER BAR;LETTER NASALIZATION;SIGN ASPIRATION",
  "16f52;MIAO ;SIGN REFORMED VOICING;SIGN REFORMED ASPIRATION;VOWEL SIGN A;VOWEL SIGN AA",
  "16f56;MIAO VOWEL SIGN ;AHH;AN;ANG;O;OO;WO;W;E;EN;ENG;OEY;I;IA;IAN;IANG;IO;IE;II;IU;ING;U;UA",
  "16f6c;MIAO VOWEL SIGN ;UAN;UANG;UU;UEI;UNG;Y;YI;AE;AEE;ERR;ROUNDED ERR;ER;ROUNDED ER;AI;EI;AU",
  "16f7c;MIAO VOWEL SIGN ;OU;N;NG;UOG;YUI;OG;OER;VW;IG;EA;IONG;UI",
  "16f8f;MIAO ;TONE RIGHT;TONE TOP RIGHT;TONE ABOVE;TONE BELOW;LETTER TONE-2;LETTER TONE-3",
  "16f95;MIAO LETTER ;TONE-4;TONE-5;TONE-6;TONE-7;TONE-8;REFORMED TONE-1;REFORMED TONE-2",
  "16f9c;MIAO LETTER REFORMED TONE-;4;5;6;8",
  "16fe0;;TANGUT ITERATION MARK;NUSHU ITERATION MARK;OLD CHINESE HOOK MARK",
  "16fe3;;OLD CHINESE ITERATION MARK;KHITAN SMALL SCRIPT FILLER",
  "16ff0;VIETNAMESE ALTERNATE READING MARK ;CA;NHAY",
  "18800;TANGUT COMPONENT-;001;002;003;004;005;006;007;008;009;010;011;012;013;014;015;016;017",
  "18811;TANGUT COMPONENT-;018;019;020;021;022;023;024;025;026;027;028;029;030;031;032;033;034",
  "18822;TANGUT COMPONENT-;035;036;037;038;039;040;041;042;043;044;045;046;047;048;049;050;051",
  "18833;TANGUT COMPONENT-;052;053;054;055;056;057;058;059;060;061;062;063;064;065;066;067;068",
  "18844;TANGUT COMPONENT-;069;070;071;072;073;074;075;076;077;078;079;080;081;082;083;084;085",
  "18855;TANGUT COMPONENT-;086;087;088;089;090;091;092;093;094;095;096;097;098;099;100;101;102",
  "18866;TANGUT COMPONENT-;103;104;105;106;107;108;109;110;111;112;113;114;115;116;117;118;119",
  "18877;TANGUT COMPONENT-;120;121;122;123;124;125;126;127;128;129;130;131;132;133;134;135;136",
  "18888;TANGUT COMPONENT-;137;138;139;140;141;142;143;144;145;146;147;148;149;150;151;152;153",
  "18899;TANGUT COMPONENT-;154;155;156;157;158;159;160;161;162;163;164;165;166;167;168;169;170",
  "188aa;TANGUT COMPONENT-;171;172;173;174;175;176;177;178;179;180;181;182;183;184;185;186;187",
  "188bb;TANGUT COMPONENT-;188;189;190;191;192;193;194;195;196;197;198;199;200;201;202;203;204",
  "188cc;TANGUT COMPONENT-;205;206;207;208;209;210;211;212;213;214;215;216;217;218;219;220;221",
  "188dd;TANGUT COMPONENT-;222;223;224;225;226;227;228;229;230;231;232;233;234;235;236;237;238",
  "188ee;TANGUT COMPONENT-;239;240;241;242;243;244;245;246;247;248;249;250;251;252;253;254;255",
  "188ff;TANGUT COMPONENT-;256;257;258;259;260;261;262;263;264;265;266;267;268;269;270;271;272",
  "18910;TANGUT COMPONENT-;273;274;275;276;277;278;279;280;281;282;283;284;285;286;287;288;289",
  "18921;TANGUT COMPONENT-;290;291;292;293;294;295;296;297;298;299;300;301;302;303;304;305;306",
  "18932;TANGUT COMPONENT-;307;308;309;310;311;312;313;314;315;316;317;318;319;320;321;322;323",
  "18943;TANGUT COMPONENT-;324;325;326;327;328;329;330;331;332;333;334;335;336;337;338;339;340",
  "18954;TANGUT COMPONENT-;341;342;343;344;345;346;347;348;349;350;351;352;353;354;355;356;357",
  "18965;TANGUT COMPONENT-;358;359;360;361;362;363;364;365;366;367;368;369;370;371;372;373;374",
  "18976;TANGUT COMPONENT-;375;376;377;378;379;380;381;382;383;384;385;386;387;388;389;390;391",
  "18987;TANGUT COMPONENT-;392;393;394;395;396;397;398;399;400;401;402;403;404;405;406;407;408",
  "18998;TANGUT COMPONENT-;409;410;411;412;413;414;415;416;417;418;419;420;421;422;423;424;425",
  "189a9;TANGUT COMPONENT-;426;427;428;429;430;431;432;433;434;435;436;437;438;439;440;441;442",
  "189ba;TANGUT COMPONENT-;443;444;445;446;447;448;449;450;451;452;453;454;455;456;457;458;459",
  "189cb;TANGUT COMPONENT-;460;461;462;463;464;465;466;467;468;469;470;471;472;473;474;475;476",
  "189dc;TANGUT COMPONENT-;477;478;479;480;481;482;483;484;485;486;487;488;489;490;491;492;493",
  "189ed;TANGUT COMPONENT-;494;495;496;497;498;499;500;501;502;503;504;505;506;507;508;509;510",
  "189fe;TANGUT COMPONENT-;511;512;513;514;515;516;517;518;519;520;521;522;523;524;525;526;527",
  "18a0f;TANGUT COMPONENT-;528;529;530;531;532;533;534;535;536;537;538;539;540;541;542;543;544",
  "18a20;TANGUT COMPONENT-;545;546;547;548;549;550;551;552;553;554;555;556;557;558;559;560;561",
  "18a31;TANGUT COMPONENT-;562;563;564;565;566;567;568;569;570;571;572;573;574;575;576;577;578",
  "18a42;TANGUT COMPONENT-;579;580;581;582;583;584;585;586;587;588;589;590;591;592;593;594;595",
  "18a53;TANGUT COMPONENT-;596;597;598;599;600;601;602;603;604;605;606;607;608;609;610;611;612",
  "18a64;TANGUT COMPONENT-;613;614;615;616;617;618;619;620;621;622;623;624;625;626;627;628;629",
  "18a75;TANGUT COMPONENT-;630;631;632;633;634;635;636;637;638;639;640;641;642;643;644;645;646",
  "18a86;TANGUT COMPONENT-;647;648;649;650;651;652;653;654;655;656;657;658;659;660;661;662;663",
  "18a97;TANGUT COMPONENT-;664;665;666;667;668;669;670;671;672;673;674;675;676;677;678;679;680",
  "18aa8;TANGUT COMPONENT-;681;682;683;684;685;686;687;688;689;690;691;692;693;694;695;696;697",
  "18ab9;TANGUT COMPONENT-;698;699;700;701;702;703;704;705;706;707;708;709;710;711;712;713;714",
  "18aca;TANGUT COMPONENT-;715;716;717;718;719;720;721;722;723;724;725;726;727;728;729;730;731",
  "18adb;TANGUT COMPONENT-;732;733;734;735;736;737;738;739;740;741;742;743;744;745;746;747;748",
  "18aec;TANGUT COMPONENT-;749;750;751;752;753;754;755;756;757;758;759;760;761;762;763;764;765",
  "18afd;TANGUT COMPONENT-;766;767;768",
  "18b00;KHITAN SMALL SCRIPT CHARACTER-;18B00;18B01;18B02;18B03;18B04;18B05;18B06;18B07;18B08",
  "18b09;KHITAN SMALL SCRIPT CHARACTER-;18B09;18B0A;18B0B;18B0C;18B0D;18B0E;18B0F;18B10;18B11",
  "18b12;KHITAN SMALL SCRIPT CHARACTER-;18B12;18B13;18B14;18B15;18B16;18B17;18B18;18B19;18B1A",
  "18b1b;KHITAN SMALL SCRIPT CHARACTER-;18B1B;18B1C;18B1D;18B1E;18B1F;18B20;18B21;18B22;18B23",
  "18b24;KHITAN SMALL SCRIPT CHARACTER-;18B24;18B25;18B26;18B27;18B28;18B29;18B2A;18B2B;18B2C",
  "18b2d;KHITAN SMALL SCRIPT CHARACTER-;18B2D;18B2E;18B2F;18B30;18B31;18B32;18B33;18B34;18B35",
  "18b36;KHITAN SMALL SCRIPT CHARACTER-;18B36;18B37;18B38;18B39;18B3A;18B3B;18B3C;18B3D;18B3E",
  "18b3f;KHITAN SMALL SCRIPT CHARACTER-;18B3F;18B40;18B41;18B42;18B43;18B44;18B45;18B46;18B47",
  "18b48;KHITAN SMALL SCRIPT CHARACTER-;18B48;18B49;18B4A;18B4B;18B4C;18B4D;18B4E;18B4F;18B50",
  "18b51;KHITAN SMALL SCRIPT CHARACTER-;18B51;18B52;18B53;18B54;18B55;18B56;18B57;18B58;18B59",
  "18b5a;KHITAN SMALL SCRIPT CHARACTER-;18B5A;18B5B;18B5C;18B5D;18B5E;18B5F;18B60;18B61;18B62",
  "18b63;KHITAN SMALL SCRIPT CHARACTER-;18B63;18B64;18B65;18B66;18B67;18B68;18B69;18B6A;18B6B",
  "18b6c;KHITAN SMALL SCRIPT CHARACTER-;18B6C;18B6D;18B6E;18B6F;18B70;18B71;18B72;18B73;18B74",
  "18b75;KHITAN SMALL SCRIPT CHARACTER-;18B75;18B76;18B77;18B78;18B79;18B7A;18B7B;18B7C;18B7D",
  "18b7e;KHITAN SMALL SCRIPT CHARACTER-;18B7E;18B7F;18B80;18B81;18B82;18B83;18B84;18B85;18B86",
  "18b87;KHITAN SMALL SCRIPT CHARACTER-;18B87;18B88;18B89;18B8A;18B8B;18B8C;18B8D;18B8E;18B8F",
  "18b90;KHITAN SMALL SCRIPT CHARACTER-;18B90;18B91;18B92;18B93;18B94;18B95;18B96;18B97;18B98",
  "18b99;KHITAN SMALL SCRIPT CHARACTER-;18B99;18B9A;18B9B;18B9C;18B9D;18B9E;18B9F;18BA0;18BA1",
  "18ba2;KHITAN SMALL SCRIPT CHARACTER-;18BA2;18BA3;18BA4;18BA5;18BA6;18BA7;18BA8;18BA9;18BAA",
  "18bab;KHITAN SMALL SCRIPT CHARACTER-;18BAB;18BAC;18BAD;18BAE;18BAF;18BB0;18BB1;18BB2;18BB3",
  "18bb4;KHITAN SMALL SCRIPT CHARACTER-;18BB4;18BB5;18BB6;18BB7;18BB8;18BB9;18BBA;18BBB;18BBC",
  "18bbd;KHITAN SMALL SCRIPT CHARACTER-;18BBD;18BBE;18BBF;18BC0;18BC1;18BC2;18BC3;18BC4;18BC5",
  "18bc6;KHITAN SMALL SCRIPT CHARACTER-;18BC6;18BC7;18BC8;18BC9;18BCA;18BCB;18BCC;18BCD;18BCE",
  "18bcf;KHITAN SMALL SCRIPT CHARACTER-;18BCF;18BD0;18BD1;18BD2;18BD3;18BD4;18BD5;18BD6;18BD7",
  "18bd8;KHITAN SMALL SCRIPT CHARACTER-;18BD8;18BD9;18BDA;18BDB;18BDC;18BDD;18BDE;18BDF;18BE0",
  "18be1;KHITAN SMALL SCRIPT CHARACTER-;18BE1;18BE2;18BE3;18BE4;18BE5;18BE6;18BE7;18BE8;18BE9",
  "18bea;KHITAN SMALL SCRIPT CHARACTER-;18BEA;18BEB;18BEC;18BED;18BEE;18BEF;18BF0;18BF1;18BF2",
  "18bf3;KHITAN SMALL SCRIPT CHARACTER-;18BF3;18BF4;18BF5;18BF6;18BF7;18BF8;18BF9;18BFA;18BFB",
  "18bfc;KHITAN SMALL SCRIPT CHARACTER-;18BFC;18BFD;18BFE;18BFF;18C00;18C01;18C02;18C03;18C04",
  "18c05;KHITAN SMALL SCRIPT CHARACTER-;18C05;18C06;18C07;18C08;18C09;18C0A;18C0B;18C0C;18C0D",
  "18c0e;KHITAN SMALL SCRIPT CHARACTER-;18C0E;18C0F;18C10;18C11;18C12;18C13;18C14;18C15;18C16",
  "18c17;KHITAN SMALL SCRIPT CHARACTER-;18C17;18C18;18C19;18C1A;18C1B;18C1C;18C1D;18C1E;18C1F",
  "18c20;KHITAN SMALL SCRIPT CHARACTER-;18C20;18C21;18C22;18C23;18C24;18C25;18C26;18C27;18C28",
  "18c29;KHITAN SMALL SCRIPT CHARACTER-;18C29;18C2A;18C2B;18C2C;18C2D;18C2E;18C2F;18C30;18C31",
  "18c32;KHITAN SMALL SCRIPT CHARACTER-;18C32;18C33;18C34;18C35;18C36;18C37;18C38;18C39;18C3A",
  "18c3b;KHITAN SMALL SCRIPT CHARACTER-;18C3B;18C3C;18C3D;18C3E;18C3F;18C40;18C41;18C42;18C43",
  "18c44;KHITAN SMALL SCRIPT CHARACTER-;18C44;18C45;18C46;18C47;18C48;18C49;18C4A;18C4B;18C4C",
  "18c4d;KHITAN SMALL SCRIPT CHARACTER-;18C4D;18C4E;18C4F;18C50;18C51;18C52;18C53;18C54;18C55",
  "18c56;KHITAN SMALL SCRIPT CHARACTER-;18C56;18C57;18C58;18C59;18C5A;18C5B;18C5C;18C5D;18C5E",
  "18c5f;KHITAN SMALL SCRIPT CHARACTER-;18C5F;18C60;18C61;18C62;18C63;18C64;18C65;18C66;18C67",
  "18c68;KHITAN SMALL SCRIPT CHARACTER-;18C68;18C69;18C6A;18C6B;18C6C;18C6D;18C6E;18C6F;18C70",
  "18c71;KHITAN SMALL SCRIPT CHARACTER-;18C71;18C72;18C73;18C74;18C75;18C76;18C77;18C78;18C79",
  "18c7a;KHITAN SMALL SCRIPT CHARACTER-;18C7A;18C7B;18C7C;18C7D;18C7E;18C7F;18C80;18C81;18C82",
  "18c83;KHITAN SMALL SCRIPT CHARACTER-;18C83;18C84;18C85;18C86;18C87;18C88;18C89;18C8A;18C8B",
  "18c8c;KHITAN SMALL SCRIPT CHARACTER-;18C8C;18C8D;18C8E;18C8F;18C90;18C91;18C92;18C93;18C94",
  "18c95;KHITAN SMALL SCRIPT CHARACTER-;18C95;18C96;18C97;18C98;18C99;18C9A;18C9B;18C9C;18C9D",
  "18c9e;KHITAN SMALL SCRIPT CHARACTER-;18C9E;18C9F;18CA0;18CA1;18CA2;18CA3;18CA4;18CA5;18CA6",
  "18ca7;KHITAN SMALL SCRIPT CHARACTER-;18CA7;18CA8;18CA9;18CAA;18CAB;18CAC;18CAD;18CAE;18CAF",
  "18cb0;KHITAN SMALL SCRIPT CHARACTER-;18CB0;18CB1;18CB2;18CB3;18CB4;18CB5;18CB6;18CB7;18CB8",
  "18cb9;KHITAN SMALL SCRIPT CHARACTER-;18CB9;18CBA;18CBB;18CBC;18CBD;18CBE;18CBF;18CC0;18CC1",
  "18cc2;KHITAN SMALL SCRIPT CHARACTER-;18CC2;18CC3;18CC4;18CC5;18CC6;18CC7;18CC8;18CC9;18CCA",
  "18ccb;KHITAN SMALL SCRIPT CHARACTER-;18CCB;18CCC;18CCD;18CCE;18CCF;18CD0;18CD1;18CD2;18CD3",
  "18cd4;KHITAN SMALL SCRIPT CHARACTER-;18CD4;18CD5",
  "1aff0;KATAKANA LETTER MINNAN TONE-;2;3;4;5",
  "1aff5;KATAKANA LETTER MINNAN ;TONE-7;TONE-8;NASALIZED TONE-1;NASALIZED TONE-2;NASALIZED TONE-3",
  "1affa;KATAKANA LETTER MINNAN NASALIZED TONE-;4;5",
  "1affd;KATAKANA LETTER MINNAN NASALIZED TONE-;7;8",
  "1b000;;KATAKANA LETTER ARCHAIC E;HIRAGANA LETTER ARCHAIC YE;HENTAIGANA LETTER A-1",
  "1b003;HENTAIGANA LETTER ;A-2;A-3;A-WO;I-1;I-2;I-3;I-4;U-1;U-2;U-3;U-4;U-5;E-2;E-3;E-4;E-5;E-6",
  "1b014;HENTAIGANA LETTER ;O-1;O-2;O-3;KA-1;KA-2;KA-3;KA-4;KA-5;KA-6;KA-7;KA-8;KA-9;KA-10;KA-11",
  "1b022;HENTAIGANA LETTER ;KA-KE;KI-1;KI-2;KI-3;KI-4;KI-5;KI-6;KI-7;KI-8;KU-1;KU-2;KU-3;KU-4",
  "1b02f;HENTAIGANA LETTER ;KU-5;KU-6;KU-7;KE-1;KE-2;KE-3;KE-4;KE-5;KE-6;KO-1;KO-2;KO-3;KO-KI",
  "1b03c;HENTAIGANA LETTER ;SA-1;SA-2;SA-3;SA-4;SA-5;SA-6;SA-7;SA-8;SI-1;SI-2;SI-3;SI-4;SI-5;SI-6",
  "1b04a;HENTAIGANA LETTER ;SU-1;SU-2;SU-3;SU-4;SU-5;SU-6;SU-7;SU-8;SE-1;SE-2;SE-3;SE-4;SE-5;SO-1",
  "1b058;HENTAIGANA LETTER ;SO-2;SO-3;SO-4;SO-5;SO-6;SO-7;TA-1;TA-2;TA-3;TA-4;TI-1;TI-2;TI-3;TI-4",
  "1b066;HENTAIGANA LETTER ;TI-5;TI-6;TI-7;TU-1;TU-2;TU-3;TU-4;TU-TO;TE-1;TE-2;TE-3;TE-4;TE-5",
  "1b073;HENTAIGANA LETTER ;TE-6;TE-7;TE-8;TE-9;TO-1;TO-2;TO-3;TO-4;TO-5;TO-6;TO-RA;NA-1;NA-2",
  "1b080;HENTAIGANA LETTER ;NA-3;NA-4;NA-5;NA-6;NA-7;NA-8;NA-9;NI-1;NI-2;NI-3;NI-4;NI-5;NI-6;NI-7",
  "1b08e;HENTAIGANA LETTER ;NI-TE;NU-1;NU-2;NU-3;NE-1;NE-2;NE-3;NE-4;NE-5;NE-6;NE-KO;NO-1;NO-2",
  "1b09b;HENTAIGANA LETTER ;NO-3;NO-4;NO-5;HA-1;HA-2;HA-3;HA-4;HA-5;HA-6;HA-7;HA-8;HA-9;HA-10",
  "1b0a8;HENTAIGANA LETTER ;HA-11;HI-1;HI-2;HI-3;HI-4;HI-5;HI-6;HI-7;HU-1;HU-2;HU-3;HE-1;HE-2",
  "1b0b5;HENTAIGANA LETTER ;HE-3;HE-4;HE-5;HE-6;HE-7;HO-1;HO-2;HO-3;HO-4;HO-5;HO-6;HO-7;HO-8;MA-1",
  "1b0c3;HENTAIGANA LETTER ;MA-2;MA-3;MA-4;MA-5;MA-6;MA-7;MI-1;MI-2;MI-3;MI-4;MI-5;MI-6;MI-7;MU-1",
  "1b0d1;HENTAIGANA LETTER ;MU-2;MU-3;MU-4;ME-1;ME-2;ME-MA;MO-1;MO-2;MO-3;MO-4;MO-5;MO-6;YA-1",
  "1b0de;HENTAIGANA LETTER ;YA-2;YA-3;YA-4;YA-5;YA-YO;YU-1;YU-2;YU-3;YU-4;YO-1;YO-2;YO-3;YO-4",
  "1b0eb;HENTAIGANA LETTER ;YO-5;YO-6;RA-1;RA-2;RA-3;RA-4;RI-1;RI-2;RI-3;RI-4;RI-5;RI-6;RI-7;RU-1",
  "1b0f9;HENTAIGANA LETTER ;RU-2;RU-3;RU-4;RU-5;RU-6;RE-1;RE-2;RE-3;RE-4;RO-1;RO-2;RO-3;RO-4;RO-5",
  "1b107;HENTAIGANA LETTER ;RO-6;WA-1;WA-2;WA-3;WA-4;WA-5;WI-1;WI-2;WI-3;WI-4;WI-5;WE-1;WE-2;WE-3",
  "1b115;HENTAIGANA LETTER ;WE-4;WO-1;WO-2;WO-3;WO-4;WO-5;WO-6;WO-7;N-MU-MO-1;N-MU-MO-2",
  "1b11f;;HIRAGANA LETTER ARCHAIC WU;KATAKANA LETTER ARCHAIC YI;KATAKANA LETTER ARCHAIC YE",
  "1b122;;KATAKANA LETTER ARCHAIC WU",
  "1b150;HIRAGANA LETTER SMALL ;WI;WE;WO",
  "1b164;KATAKANA LETTER SMALL ;WI;WE;WO;N",
  "1b170;NUSHU CHARACTER-;1B170;1B171;1B172;1B173;1B174;1B175;1B176;1B177;1B178;1B179;1B17A;1B17B",
  "1b17c;NUSHU CHARACTER-;1B17C;1B17D;1B17E;1B17F;1B180;1B181;1B182;1B183;1B184;1B185;1B186;1B187",
  "1b188;NUSHU CHARACTER-;1B188;1B189;1B18A;1B18B;1B18C;1B18D;1B18E;1B18F;1B190;1B191;1B192;1B193",
  "1b194;NUSHU CHARACTER-;1B194;1B195;1B196;1B197;1B198;1B199;1B19A;1B19B;1B19C;1B19D;1B19E;1B19F",
  "1b1a0;NUSHU CHARACTER-;1B1A0;1B1A1;1B1A2;1B1A3;1B1A4;1B1A5;1B1A6;1B1A7;1B1A8;1B1A9;1B1AA;1B1AB",
  "1b1ac;NUSHU CHARACTER-;1B1AC;1B1AD;1B1AE;1B1AF;1B1B0;1B1B1;1B1B2;1B1B3;1B1B4;1B1B5;1B1B6;1B1B7",
  "1b1b8;NUSHU CHARACTER-;1B1B8;1B1B9;1B1BA;1B1BB;1B1BC;1B1BD;1B1BE;1B1BF;1B1C0;1B1C1;1B1C2;1B1C3",
  "1b1c4;NUSHU CHARACTER-;1B1C4;1B1C5;1B1C6;1B1C7;1B1C8;1B1C9;1B1CA;1B1CB;1B1CC;1B1CD;1B1CE;1B1CF",
  "1b1d0;NUSHU CHARACTER-;1B1D0;1B1D1;1B1D2;1B1D3;1B1D4;1B1D5;1B1D6;1B1D7;1B1D8;1B1D9;1B1DA;1B1DB",
  "1b1dc;NUSHU CHARACTER-;1B1DC;1B1DD;1B1DE;1B1DF;1B1E0;1B1E1;1B1E2;1B1E3;1B1E4;1B1E5;1B1E6;1B1E7",
  "1b1e8;NUSHU CHARACTER-;1B1E8;1B1E9;1B1EA;1B1EB;1B1EC;1B1ED;1B1EE;1B1EF;1B1F0;1B1F1;1B1F2;1B1F3",
  "1b1f4;NUSHU CHARACTER-;1B1F4;1B1F5;1B1F6;1B1F7;1B1F8;1B1F9;1B1FA;1B1FB;1B1FC;1B1FD;1B1FE;1B1FF",
  "1b200;NUSHU CHARACTER-;1B200;1B201;1B202;1B203;1B204;1B205;1B206;1B207;1B208;1B209;1B20A;1B20B",
  "1b20c;NUSHU CHARACTER-;1B20C;1B20D;1B20E;1B20F;1B210;1B211;1B212;1B213;1B214;1B215;1B216;1B217",
  "1b218;NUSHU CHARACTER-;1B218;1B219;1B21A;1B21B;1B21C;1B21D;1B21E;1B21F;1B220;1B221;1B222;1B223",
  "1b224;NUSHU CHARACTER-;1B224;1B225;1B226;1B227;1B228;1B229;1B22A;1B22B;1B22C;1B22D;1B22E;1B22F",
  "1b230;NUSHU CHARACTER-;1B230;1B231;1B232;1B233;1B234;1B235;1B236;1B237;1B238;1B239;1B23A;1B23B",
  "1b23c;NUSHU CHARACTER-;1B23C;1B23D;1B23E;1B23F;1B240;1B241;1B242;1B243;1B244;1B245;1B246;1B247",
  "1b248;NUSHU CHARACTER-;1B248;1B249;1B24A;1B24B;1B24C;1B24D;1B24E;1B24F;1B250;1B251;1B252;1B253",
  "1b254;NUSHU CHARACTER-;1B254;1B255;1B256;1B257;1B258;1B259;1B25A;1B25B;1B25C;1B25D;1B25E;1B25F",
  "1b260;NUSHU CHARACTER-;1B260;1B261;1B262;1B263;1B264;1B265;1B266;1B267;1B268;1B269;1B26A;1B26B",
  "1b26c;NUSHU CHARACTER-;1B26C;1B26D;1B26E;1B26F;1B270;1B271;1B272;1B273;1B274;1B275;1B276;1B277",
  "1b278;NUSHU CHARACTER-;1B278;1B279;1B27A;1B27B;1B27C;1B27D;1B27E;1B27F;1B280;1B281;1B282;1B283",
  "1b284;NUSHU CHARACTER-;1B284;1B285;1B286;1B287;1B288;1B289;1B28A;1B28B;1B28C;1B28D;1B28E;1B28F",
  "1b290;NUSHU CHARACTER-;1B290;1B291;1B292;1B293;1B294;1B295;1B296;1B297;1B298;1B299;1B29A;1B29B",
  "1b29c;NUSHU CHARACTER-;1B29C;1B29D;1B29E;1B29F;1B2A0;1B2A1;1B2A2;1B2A3;1B2A4;1B2A5;1B2A6;1B2A7",
  "1b2a8;NUSHU CHARACTER-;1B2A8;1B2A9;1B2AA;1B2AB;1B2AC;1B2AD;1B2AE;1B2AF;1B2B0;1B2B1;1B2B2;1B2B3",
  "1b2b4;NUSHU CHARACTER-;1B2B4;1B2B5;1B2B6;1B2B7;1B2B8;1B2B9;1B2BA;1B2BB;1B2BC;1B2BD;1B2BE;1B2BF",
  "1b2c0;NUSHU CHARACTER-;1B2C0;1B2C1;1B2C2;1B2C3;1B2C4;1B2C5;1B2C6;1B2C7;1B2C8;1B2C9;1B2CA;1B2CB",
  "1b2cc;NUSHU CHARACTER-;1B2CC;1B2CD;1B2CE;1B2CF;1B2D0;1B2D1;1B2D2;1B2D3;1B2D4;1B2D5;1B2D6;1B2D7",
  "1b2d8;NUSHU CHARACTER-;1B2D8;1B2D9;1B2DA;1B2DB;1B2DC;1B2DD;1B2DE;1B2DF;1B2E0;1B2E1;1B2E2;1B2E3",
  "1b2e4;NUSHU CHARACTER-;1B2E4;1B2E5;1B2E6;1B2E7;1B2E8;1B2E9;1B2EA;1B2EB;1B2EC;1B2ED;1B2EE;1B2EF",
  "1b2f0;NUSHU CHARACTER-;1B2F0;1B2F1;1B2F2;1B2F3;1B2F4;1B2F5;1B2F6;1B2F7;1B2F8;1B2F9;1B2FA;1B2FB",
  "1bc00;DUPLOYAN LETTER ;H;X;P;T;F;K;L;B;D;V;G;R;P N;D S;F N;K M;R S;TH;SLOAN DH;DH;KK;SLOAN J",
  "1bc16;DUPLOYAN LETTER ;HL;LH;RH;M;N;J;S;M N;N M;J M;S J;M WITH DOT;N WITH DOT;J WITH DOT",
  "1bc24;DUPLOYAN LETTER ;J WITH DOTS INSIDE AND ABOVE;S WITH DOT;S WITH DOT BELOW;M S;N S;J S",
  "1bc2a;DUPLOYAN LETTER ;S S;M N S;N M S;J M S;S J S;J S WITH DOT;J N;J N S;S T;S T R;S P;S P R",
  "1bc36;DUPLOYAN LETTER ;T S;T R S;W;WH;W R;S N;S M;K R S;G R S;S K;S K R;A;SLOAN OW;OA;O;AOU;I",
  "1bc47;DUPLOYAN LETTER ;E;IE;SHORT I;UI;EE;SLOAN EH;ROMANIAN I;SLOAN EE;LONG I;YE;U;EU;XW;U N",
  "1bc55;DUPLOYAN LETTER ;LONG U;ROMANIAN U;UH;SLOAN U;OOH;OW;OU;WA;WO;WI;WEI;WOW;NASAL U;NASAL O",
  "1bc63;DUPLOYAN LETTER ;NASAL I;NASAL A;PERNIN AN;PERNIN AM;SLOAN EN;SLOAN AN;SLOAN ON",
  "1bc6a;;DUPLOYAN LETTER VOCALIC M",
  "1bc70;DUPLOYAN AFFIX ;LEFT HORIZONTAL SECANT;MID HORIZONTAL SECANT;RIGHT HORIZONTAL SECANT",
  "1bc73;DUPLOYAN AFFIX ;LOW VERTICAL SECANT;MID VERTICAL SECANT;HIGH VERTICAL SECANT",
  "1bc76;DUPLOYAN AFFIX ATTACHED ;SECANT;LEFT-TO-RIGHT SECANT;TANGENT;TAIL;E HOOK;I HOOK",
  "1bc7c;;DUPLOYAN AFFIX ATTACHED TANGENT HOOK",
  "1bc80;DUPLOYAN AFFIX HIGH ;ACUTE;TIGHT ACUTE;GRAVE;LONG GRAVE;DOT;CIRCLE;LINE;WAVE;VERTICAL",
  "1bc90;DUPLOYAN AFFIX LOW ;ACUTE;TIGHT ACUTE;GRAVE;LONG GRAVE;DOT;CIRCLE;LINE;WAVE;VERTICAL",
  "1bc99;;DUPLOYAN AFFIX LOW ARROW",
  "1bc9c;DUPLOYAN ;SIGN O WITH CROSS;THICK LETTER SELECTOR;DOUBLE MARK",
  "1bc9f;;DUPLOYAN PUNCTUATION CHINOOK FULL STOP;SHORTHAND FORMAT LETTER OVERLAP",
  "1bca1;SHORTHAND FORMAT ;CONTINUING OVERLAP;DOWN STEP;UP STEP",
  "1cf00;ZNAMENNY COMBINING MARK ;GORAZDO NIZKO S KRYZHEM ON LEFT;NIZKO S KRYZHEM ON LEFT",
  "1cf02;ZNAMENNY COMBINING MARK ;TSATA ON LEFT;GORAZDO NIZKO ON LEFT;NIZKO ON LEFT",
  "1cf05;ZNAMENNY COMBINING MARK ;SREDNE ON LEFT;MALO POVYSHE ON LEFT;POVYSHE ON LEFT",
  "1cf08;ZNAMENNY COMBINING MARK ;VYSOKO ON LEFT;MALO POVYSHE S KHOKHLOM ON LEFT",
  "1cf0a;ZNAMENNY COMBINING MARK ;POVYSHE S KHOKHLOM ON LEFT;VYSOKO S KHOKHLOM ON LEFT",
  "1cf0c;ZNAMENNY COMBINING MARK ;GORAZDO NIZKO S KRYZHEM ON RIGHT;NIZKO S KRYZHEM ON RIGHT",
  "1cf0e;ZNAMENNY COMBINING MARK ;TSATA ON RIGHT;GORAZDO NIZKO ON RIGHT;NIZKO ON RIGHT",
  "1cf11;ZNAMENNY COMBINING MARK ;SREDNE ON RIGHT;MALO POVYSHE ON RIGHT;POVYSHE ON RIGHT",
  "1cf14;ZNAMENNY COMBINING MARK ;VYSOKO ON RIGHT;MALO POVYSHE S KHOKHLOM ON RIGHT",
  "1cf16;ZNAMENNY COMBINING MARK ;POVYSHE S KHOKHLOM ON RIGHT;VYSOKO S KHOKHLOM ON RIGHT",
  "1cf18;ZNAMENNY COMBINING MARK ;TSATA S KRYZHEM;MALO POVYSHE S KRYZHEM;STRANNO MALO POVYSHE",
  "1cf1b;ZNAMENNY COMBINING MARK ;POVYSHE S KRYZHEM;POVYSHE STRANNO;VYSOKO S KRYZHEM",
  "1cf1e;ZNAMENNY COMBINING MARK ;MALO POVYSHE STRANNO;GORAZDO VYSOKO;ZELO;ON;RAVNO;TIKHAYA",
  "1cf24;ZNAMENNY COMBINING MARK ;BORZAYA;UDARKA;PODVERTKA;LOMKA;KUPNAYA;KACHKA;ZEVOK;SKOBA",
  "1cf2c;ZNAMENNY COMBINING MARK ;RAZSEKA;KRYZH ON LEFT",
  "1cf30;ZNAMENNY COMBINING TONAL RANGE MARK ;MRACHNO;SVETLO;TRESVETLO",
  "1cf33;ZNAMENNY COMBINING MARK ;ZADERZHKA;DEMESTVENNY ZADERZHKA;OTSECHKA;PODCHASHIE",
  "1cf37;ZNAMENNY COMBINING MARK ;PODCHASHIE WITH VERTICAL STROKE;CHASHKA;CHASHKA POLNAYA",
  "1cf3a;ZNAMENNY COMBINING MARK ;OBLACHKO;SOROCHYA NOZHKA;TOCHKA;DVOETOCHIE",
  "1cf3e;ZNAMENNY COMBINING ;ATTACHING VERTICAL OMET;MARK CURVED OMET;MARK KRYZH",
  "1cf41;ZNAMENNY ;COMBINING LOWER TONAL RANGE INDICATOR;PRIZNAK MODIFIER LEVEL-2",
  "1cf43;ZNAMENNY PRIZNAK MODIFIER ;LEVEL-3;DIRECTION FLIP;KRYZH;ROG",
  "1cf50;ZNAMENNY NEUME ;KRYUK;KRYUK TIKHY;PARAKLIT;DVA V CHELNU;KLYUCH;ZANOZHEK;STOPITSA",
  "1cf57;ZNAMENNY NEUME ;STOPITSA S OCHKOM;PEREVODKA;PEREVODKA NEPOSTOYANNAYA",
  "1cf5a;ZNAMENNY NEUME ;STOPITSA WITH SOROCHYA NOZHKA;CHELYUSTKA;PALKA;ZAPYATAYA;GOLUBCHIK BORZY",
  "1cf5f;ZNAMENNY NEUME GOLUBCHIK ;TIKHY;MRACHNY;SVETLY;TRESVETLY",
  "1cf63;ZNAMENNY NEUME VRAKHIYA ;PROSTAYA;MRACHNAYA;SVETLAYA;TRESVETLAYA;KLYUCHEVAYA PROSTAYA",
  "1cf68;ZNAMENNY NEUME VRAKHIYA KLYUCHEVAYA ;MRACHNAYA;SVETLAYA;TRESVETLAYA",
  "1cf6b;ZNAMENNY NEUME ;DOUBLE ZAPYATAYA;REVERSED CHELYUSTKA;DERBITSA;KHAMILO;CHASHKA;PODCHASHIE",
  "1cf71;ZNAMENNY NEUME SKAMEYTSA ;MRACHNAYA;SVETLAYA;TRESVETLAYA;TIKHAYA",
  "1cf75;ZNAMENNY NEUME ;DEMESTVENNY KLYUCH;SKAMEYTSA KLYUCHEVAYA SVETLAYA",
  "1cf77;ZNAMENNY NEUME SKAMEYTSA ;KLYUCHENEPOSTOYANNAYA;KLYUCHEVAYA TIKHAYA",
  "1cf79;ZNAMENNY NEUME SKAMEYTSA DVOECHELNAYA ;PROSTAYA;SVETLAYA;NEPOSTOYANNAYA;KLYUCHEVAYA",
  "1cf7d;ZNAMENNY NEUME ;SLOZHITIE;SLOZHITIE S ZAPYATOY;SLOZHITIE ZAKRYTOE;SLOZHITIE S KRYZHEM",
  "1cf81;ZNAMENNY NEUME ;KRYZH;ROG;FITA;KOBYLA;ZMEYTSA;STATYA;STATYA S ZAPYATOY;STATYA S KRYZHEM",
  "1cf89;ZNAMENNY NEUME STATYA ;S ZAPYATOY I KRYZHEM;S KRYZHEM I ZAPYATOY;ZAKRYTAYA",
  "1cf8c;ZNAMENNY NEUME STATYA ;ZAKRYTAYA S ZAPYATOY;S ROGOM;S DVUMYA ZAPYATYMI",
  "1cf8f;ZNAMENNY NEUME ;STATYA S ZAPYATOY I PODCHASHIEM;POLKULIZMY;STATYA NEPOSTOYANNAYA",
  "1cf92;ZNAMENNY NEUME STRELA ;PROSTAYA;MRACHNOTIKHAYA;KRYZHEVAYA;POLUPOVODNAYA;POVODNAYA",
  "1cf97;ZNAMENNY NEUME STRELA ;NEPOSTOYANNAYA;KLYUCHEPOVODNAYA;KLYUCHENEPOSTOYANNAYA",
  "1cf9a;ZNAMENNY NEUME STRELA ;TIKHAYA PUTNAYA;DVOECHELNAYA;DVOECHELNOKRYZHEVAYA",
  "1cf9d;ZNAMENNY NEUME STRELA ;DVOECHELNOPOVODNAYA;DVOECHELNAYA KLYUCHEVAYA",
  "1cf9f;ZNAMENNY NEUME STRELA ;DVOECHELNOPOVODNAYA KLYUCHEVAYA;GROMNAYA WITH SINGLE ZAPYATAYA",
  "1cfa1;ZNAMENNY NEUME STRELA ;GROMOPOVODNAYA WITH SINGLE ZAPYATAYA;GROMNAYA;GROMOPOVODNAYA",
  "1cfa4;ZNAMENNY NEUME STRELA ;GROMOPOVODNAYA WITH DOUBLE ZAPYATAYA;GROMOKRYZHEVAYA",
  "1cfa6;ZNAMENNY NEUME ;STRELA GROMOKRYZHEVAYA POVODNAYA;MECHIK;MECHIK POVODNY;MECHIK KLYUCHEVOY",
  "1cfaa;ZNAMENNY NEUME ;MECHIK KLYUCHEPOVODNY;MECHIK KLYUCHENEPOSTOYANNY;STRELA TRYASOGLASNAYA",
  "1cfad;ZNAMENNY NEUME ;STRELA TRYASOPOVODNAYA;STRELA TRYASOSTRELNAYA;OSOKA;OSOKA SVETLAYA",
  "1cfb1;ZNAMENNY NEUME OSOKA ;TRESVETLAYA;KRYUKOVAYA SVETLAYA;KLYUCHEVAYA SVETLAYA",
  "1cfb4;ZNAMENNY NEUME ;OSOKA KLYUCHEVAYA NEPOSTOYANNAYA;STRELA KRYUKOVAYA",
  "1cfb6;ZNAMENNY NEUME STRELA KRYUKOVAYA ;POVODNAYA;GROMNAYA WITH SINGLE ZAPYATAYA",
  "1cfb8;ZNAMENNY NEUME STRELA KRYUKOVAYA ;GROMOPOVODNAYA WITH SINGLE ZAPYATAYA;GROMNAYA",
  "1cfba;ZNAMENNY NEUME STRELA KRYUKOVAYA ;GROMOPOVODNAYA;GROMOPOVODNAYA WITH DOUBLE ZAPYATAYA",
  "1cfbc;ZNAMENNY NEUME STRELA KRYUKOVAYA ;GROMOKRYZHEVAYA;GROMOKRYZHEVAYA POVODNAYA;TRYASKA",
  "1cfbf;ZNAMENNY NEUME ;KUFISMA;OBLAKO;DUDA;NEMKA;PAUK"]

end FoldTree.Text
