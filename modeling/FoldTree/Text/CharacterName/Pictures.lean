/-! Names of notes, of letters in the styles of mathematics, of pictures, and of the characters that
select their variants, which have short names too.
-/

namespace FoldTree.Text

/-- The names of characters from musical signs on, and the short names of variant selectors. -/
def pictureLines : List String := [
  "1d000;BYZANTINE MUSICAL SYMBOL ;PSILI;DASEIA;PERISPOMENI;OXEIA EKFONITIKON;OXEIA DIPLI",
  "1d005;BYZANTINE MUSICAL SYMBOL ;VAREIA EKFONITIKON;VAREIA DIPLI;KATHISTI;SYRMATIKI;PARAKLITIKI",
  "1d00a;BYZANTINE MUSICAL SYMBOL ;YPOKRISIS;YPOKRISIS DIPLI;KREMASTI;APESO EKFONITIKON",
  "1d00e;BYZANTINE MUSICAL SYMBOL ;EXO EKFONITIKON;TELEIA;KENTIMATA;APOSTROFOS;APOSTROFOS DIPLI",
  "1d013;BYZANTINE MUSICAL SYMBOL ;SYNEVMA;THITA;OLIGON ARCHAION;GORGON ARCHAION;PSILON;CHAMILON",
  "1d019;BYZANTINE MUSICAL SYMBOL ;VATHY;ISON ARCHAION;KENTIMA ARCHAION;KENTIMATA ARCHAION",
  "1d01d;BYZANTINE MUSICAL SYMBOL ;SAXIMATA;PARICHON;STAVROS APODEXIA;OXEIAI ARCHAION",
  "1d021;BYZANTINE MUSICAL SYMBOL ;VAREIAI ARCHAION;APODERMA ARCHAION;APOTHEMA;KLASMA;REVMA",
  "1d026;BYZANTINE MUSICAL SYMBOL ;PIASMA ARCHAION;TINAGMA;ANATRICHISMA;SEISMA;SYNAGMA ARCHAION",
  "1d02b;BYZANTINE MUSICAL SYMBOL ;SYNAGMA META STAVROU;OYRANISMA ARCHAION;THEMA;LEMOI;DYO;TRIA",
  "1d031;BYZANTINE MUSICAL SYMBOL ;TESSERA;KRATIMATA;APESO EXO NEO;FTHORA ARCHAION;IMIFTHORA",
  "1d036;BYZANTINE MUSICAL SYMBOL ;TROMIKON ARCHAION;KATAVA TROMIKON;PELASTON;PSIFISTON;KONTEVMA",
  "1d03b;BYZANTINE MUSICAL SYMBOL ;CHOREVMA ARCHAION;RAPISMA;PARAKALESMA ARCHAION",
  "1d03e;BYZANTINE MUSICAL SYMBOL ;PARAKLITIKI ARCHAION;ICHADIN;NANA;PETASMA;KONTEVMA ALLO",
  "1d043;BYZANTINE MUSICAL SYMBOL ;TROMIKON ALLO;STRAGGISMATA;GRONTHISMATA;ISON NEO;OLIGON NEO",
  "1d048;BYZANTINE MUSICAL SYMBOL ;OXEIA NEO;PETASTI;KOUFISMA;PETASTOKOUFISMA;KRATIMOKOUFISMA",
  "1d04d;BYZANTINE MUSICAL SYMBOL ;PELASTON NEO;KENTIMATA NEO ANO;KENTIMA NEO ANO;YPSILI",
  "1d051;BYZANTINE MUSICAL SYMBOL ;APOSTROFOS NEO;APOSTROFOI SYNDESMOS NEO;YPORROI",
  "1d054;BYZANTINE MUSICAL SYMBOL ;KRATIMOYPORROON;ELAFRON;CHAMILI;MIKRON ISON;VAREIA NEO",
  "1d059;BYZANTINE MUSICAL SYMBOL ;PIASMA NEO;PSIFISTON NEO;OMALON;ANTIKENOMA;LYGISMA",
  "1d05e;BYZANTINE MUSICAL SYMBOL ;PARAKLITIKI NEO;PARAKALESMA NEO;ETERON PARAKALESMA;KYLISMA",
  "1d062;BYZANTINE MUSICAL SYMBOL ;ANTIKENOKYLISMA;TROMIKON NEO;EKSTREPTON;SYNAGMA NEO;SYRMA",
  "1d067;BYZANTINE MUSICAL SYMBOL ;CHOREVMA NEO;EPEGERMA;SEISMA NEO;XIRON KLASMA;TROMIKOPSIFISTON",
  "1d06c;BYZANTINE MUSICAL SYMBOL ;PSIFISTOLYGISMA;TROMIKOLYGISMA;TROMIKOPARAKALESMA",
  "1d06f;BYZANTINE MUSICAL SYMBOL ;PSIFISTOPARAKALESMA;TROMIKOSYNAGMA;PSIFISTOSYNAGMA",
  "1d072;BYZANTINE MUSICAL SYMBOL ;GORGOSYNTHETON;ARGOSYNTHETON;ETERON ARGOSYNTHETON",
  "1d075;BYZANTINE MUSICAL SYMBOL ;OYRANISMA NEO;THEMATISMOS ESO;THEMATISMOS EXO;THEMA APLOUN",
  "1d079;BYZANTINE MUSICAL SYMBOL ;THES KAI APOTHES;KATAVASMA;ENDOFONON;YFEN KATO;YFEN ANO",
  "1d07e;BYZANTINE MUSICAL SYMBOL ;STAVROS;KLASMA ANO;DIPLI ARCHAION;KRATIMA ARCHAION",
  "1d082;BYZANTINE MUSICAL SYMBOL ;KRATIMA ALLO;KRATIMA NEO;APODERMA NEO;APLI;DIPLI;TRIPLI",
  "1d088;BYZANTINE MUSICAL SYMBOL ;TETRAPLI;KORONIS;LEIMMA ENOS CHRONOU;LEIMMA DYO CHRONON",
  "1d08c;BYZANTINE MUSICAL SYMBOL LEIMMA ;TRION CHRONON;TESSARON CHRONON;IMISEOS CHRONOU",
  "1d08f;BYZANTINE MUSICAL SYMBOL GORGON ;NEO ANO;PARESTIGMENON ARISTERA;PARESTIGMENON DEXIA",
  "1d092;BYZANTINE MUSICAL SYMBOL ;DIGORGON;DIGORGON PARESTIGMENON ARISTERA KATO",
  "1d094;BYZANTINE MUSICAL SYMBOL DIGORGON PARESTIGMENON ;ARISTERA ANO;DEXIA",
  "1d096;BYZANTINE MUSICAL SYMBOL ;TRIGORGON;ARGON;IMIDIARGON;DIARGON;AGOGI POLI ARGI",
  "1d09b;BYZANTINE MUSICAL SYMBOL AGOGI ;ARGOTERI;ARGI;METRIA;MESI;GORGI;GORGOTERI;POLI GORGI",
  "1d0a2;BYZANTINE MUSICAL SYMBOL MARTYRIA ;PROTOS ICHOS;ALLI PROTOS ICHOS;DEYTEROS ICHOS",
  "1d0a5;BYZANTINE MUSICAL SYMBOL MARTYRIA ;ALLI DEYTEROS ICHOS;TRITOS ICHOS;TRIFONIAS",
  "1d0a8;BYZANTINE MUSICAL SYMBOL MARTYRIA ;TETARTOS ICHOS;TETARTOS LEGETOS ICHOS;LEGETOS ICHOS",
  "1d0ab;BYZANTINE MUSICAL SYMBOL ;MARTYRIA PLAGIOS ICHOS;ISAKIA TELOUS ICHIMATOS",
  "1d0ad;BYZANTINE MUSICAL SYMBOL ;APOSTROFOI TELOUS ICHIMATOS;FANEROSIS TETRAFONIAS",
  "1d0af;BYZANTINE MUSICAL SYMBOL ;FANEROSIS MONOFONIAS;FANEROSIS DIFONIAS;MARTYRIA VARYS ICHOS",
  "1d0b2;BYZANTINE MUSICAL SYMBOL MARTYRIA ;PROTOVARYS ICHOS;PLAGIOS TETARTOS ICHOS",
  "1d0b4;BYZANTINE MUSICAL SYMBOL GORTHMIKON N ;APLOUN;DIPLOUN",
  "1d0b6;BYZANTINE MUSICAL SYMBOL ;ENARXIS KAI FTHORA VOU;IMIFONON;IMIFTHORON",
  "1d0b9;BYZANTINE MUSICAL SYMBOL FTHORA ;ARCHAION DEYTEROU ICHOU;DIATONIKI PA;DIATONIKI NANA",
  "1d0bc;BYZANTINE MUSICAL SYMBOL FTHORA ;NAOS ICHOS;DIATONIKI DI;SKLIRON DIATONON DI",
  "1d0bf;BYZANTINE MUSICAL SYMBOL FTHORA DIATONIKI ;KE;ZO;NI KATO;NI ANO",
  "1d0c3;BYZANTINE MUSICAL SYMBOL FTHORA MALAKON CHROMA ;DIFONIAS;MONOFONIAS",
  "1d0c5;BYZANTINE MUSICAL SYMBOL ;FHTORA SKLIRON CHROMA VASIS;FTHORA SKLIRON CHROMA SYNAFI",
  "1d0c7;BYZANTINE MUSICAL SYMBOL ;FTHORA NENANO;CHROA ZYGOS;CHROA KLITON;CHROA SPATHI",
  "1d0cb;BYZANTINE MUSICAL SYMBOL FTHORA ;I YFESIS TETARTIMORION;ENARMONIOS ANTIFONIA",
  "1d0cd;BYZANTINE MUSICAL SYMBOL ;YFESIS TRITIMORION;DIESIS TRITIMORION;DIESIS TETARTIMORION",
  "1d0d0;BYZANTINE MUSICAL SYMBOL DIESIS ;APLI DYO DODEKATA;MONOGRAMMOS TESSERA DODEKATA",
  "1d0d2;BYZANTINE MUSICAL SYMBOL DIESIS ;DIGRAMMOS EX DODEKATA;TRIGRAMMOS OKTO DODEKATA",
  "1d0d4;BYZANTINE MUSICAL SYMBOL YFESIS ;APLI DYO DODEKATA;MONOGRAMMOS TESSERA DODEKATA",
  "1d0d6;BYZANTINE MUSICAL SYMBOL YFESIS ;DIGRAMMOS EX DODEKATA;TRIGRAMMOS OKTO DODEKATA",
  "1d0d8;BYZANTINE MUSICAL SYMBOL ;GENIKI DIESIS;GENIKI YFESIS;DIASTOLI APLI MIKRI",
  "1d0db;BYZANTINE MUSICAL SYMBOL DIASTOLI ;APLI MEGALI;DIPLI;THESEOS",
  "1d0de;BYZANTINE MUSICAL SYMBOL SIMANSIS ;THESEOS;THESEOS DISIMOU;THESEOS TRISIMOU",
  "1d0e1;BYZANTINE MUSICAL SYMBOL SIMANSIS ;THESEOS TETRASIMOU;ARSEOS;ARSEOS DISIMOU",
  "1d0e4;BYZANTINE MUSICAL SYMBOL SIMANSIS ARSEOS ;TRISIMOU;TETRASIMOU",
  "1d0e6;BYZANTINE MUSICAL SYMBOL ;DIGRAMMA GG;DIFTOGGOS OU;STIGMA;ARKTIKO PA;ARKTIKO VOU",
  "1d0eb;BYZANTINE MUSICAL SYMBOL ARKTIKO ;GA;DI;KE;ZO;NI",
  "1d0f0;BYZANTINE MUSICAL SYMBOL ;KENTIMATA NEO MESO;KENTIMA NEO MESO;KENTIMATA NEO KATO",
  "1d0f3;BYZANTINE MUSICAL SYMBOL ;KENTIMA NEO KATO;KLASMA KATO;GORGON NEO KATO",
  "1d100;MUSICAL SYMBOL ;SINGLE BARLINE;DOUBLE BARLINE;FINAL BARLINE;REVERSE FINAL BARLINE",
  "1d104;MUSICAL SYMBOL ;DASHED BARLINE;SHORT BARLINE;LEFT REPEAT SIGN;RIGHT REPEAT SIGN",
  "1d108;MUSICAL SYMBOL ;REPEAT DOTS;DAL SEGNO;DA CAPO;SEGNO;CODA;REPEATED FIGURE-1",
  "1d10e;MUSICAL SYMBOL ;REPEATED FIGURE-2;REPEATED FIGURE-3;FERMATA;FERMATA BELOW;BREATH MARK",
  "1d113;MUSICAL SYMBOL ;CAESURA;BRACE;BRACKET;ONE-LINE STAFF;TWO-LINE STAFF;THREE-LINE STAFF",
  "1d119;MUSICAL SYMBOL ;FOUR-LINE STAFF;FIVE-LINE STAFF;SIX-LINE STAFF;SIX-STRING FRETBOARD",
  "1d11d;MUSICAL SYMBOL ;FOUR-STRING FRETBOARD;G CLEF;G CLEF OTTAVA ALTA;G CLEF OTTAVA BASSA",
  "1d121;MUSICAL SYMBOL ;C CLEF;F CLEF;F CLEF OTTAVA ALTA;F CLEF OTTAVA BASSA;DRUM CLEF-1",
  "1d126;;MUSICAL SYMBOL DRUM CLEF-2",
  "1d129;MUSICAL SYMBOL ;MULTIPLE MEASURE REST;DOUBLE SHARP;DOUBLE FLAT;FLAT UP;FLAT DOWN",
  "1d12e;MUSICAL SYMBOL ;NATURAL UP;NATURAL DOWN;SHARP UP;SHARP DOWN;QUARTER TONE SHARP",
  "1d133;MUSICAL SYMBOL ;QUARTER TONE FLAT;COMMON TIME;CUT TIME;OTTAVA ALTA;OTTAVA BASSA",
  "1d138;MUSICAL SYMBOL ;QUINDICESIMA ALTA;QUINDICESIMA BASSA;MULTI REST;WHOLE REST;HALF REST",
  "1d13d;MUSICAL SYMBOL ;QUARTER REST;EIGHTH REST;SIXTEENTH REST;THIRTY-SECOND REST",
  "1d141;MUSICAL SYMBOL ;SIXTY-FOURTH REST;ONE HUNDRED TWENTY-EIGHTH REST;X NOTEHEAD",
  "1d144;MUSICAL SYMBOL ;PLUS NOTEHEAD;CIRCLE X NOTEHEAD;SQUARE NOTEHEAD WHITE",
  "1d147;MUSICAL SYMBOL ;SQUARE NOTEHEAD BLACK;TRIANGLE NOTEHEAD UP WHITE",
  "1d149;MUSICAL SYMBOL TRIANGLE NOTEHEAD ;UP BLACK;LEFT WHITE;LEFT BLACK;RIGHT WHITE;RIGHT BLACK",
  "1d14e;MUSICAL SYMBOL TRIANGLE NOTEHEAD ;DOWN WHITE;DOWN BLACK;UP RIGHT WHITE;UP RIGHT BLACK",
  "1d152;MUSICAL SYMBOL MOON NOTEHEAD ;WHITE;BLACK",
  "1d154;MUSICAL SYMBOL TRIANGLE-ROUND NOTEHEAD DOWN ;WHITE;BLACK",
  "1d156;MUSICAL SYMBOL ;PARENTHESIS NOTEHEAD;VOID NOTEHEAD;NOTEHEAD BLACK;NULL NOTEHEAD",
  "1d15a;MUSICAL SYMBOL ;CLUSTER NOTEHEAD WHITE;CLUSTER NOTEHEAD BLACK;BREVE;WHOLE NOTE;HALF NOTE",
  "1d15f;MUSICAL SYMBOL ;QUARTER NOTE;EIGHTH NOTE;SIXTEENTH NOTE;THIRTY-SECOND NOTE",
  "1d163;MUSICAL SYMBOL ;SIXTY-FOURTH NOTE;ONE HUNDRED TWENTY-EIGHTH NOTE;COMBINING STEM",
  "1d166;MUSICAL SYMBOL COMBINING ;SPRECHGESANG STEM;TREMOLO-1;TREMOLO-2;TREMOLO-3",
  "1d16a;MUSICAL SYMBOL FINGERED TREMOLO-;1;2;3",
  "1d16d;MUSICAL SYMBOL COMBINING ;AUGMENTATION DOT;FLAG-1;FLAG-2;FLAG-3;FLAG-4;FLAG-5",
  "1d173;MUSICAL SYMBOL ;BEGIN BEAM;END BEAM;BEGIN TIE;END TIE;BEGIN SLUR;END SLUR;BEGIN PHRASE",
  "1d17a;MUSICAL SYMBOL ;END PHRASE;COMBINING ACCENT;COMBINING STACCATO;COMBINING TENUTO",
  "1d17e;MUSICAL SYMBOL COMBINING ;STACCATISSIMO;MARCATO;MARCATO-STACCATO;ACCENT-STACCATO;LOURE",
  "1d183;MUSICAL SYMBOL ;ARPEGGIATO UP;ARPEGGIATO DOWN;COMBINING DOIT;COMBINING RIP",
  "1d187;MUSICAL SYMBOL COMBINING ;FLIP;SMEAR;BEND;DOUBLE TONGUE;TRIPLE TONGUE",
  "1d18c;MUSICAL SYMBOL ;RINFORZANDO;SUBITO;Z;PIANO;MEZZO;FORTE;CRESCENDO;DECRESCENDO",
  "1d194;MUSICAL SYMBOL ;GRACE NOTE SLASH;GRACE NOTE NO SLASH;TR;TURN;INVERTED TURN;TURN SLASH",
  "1d19a;MUSICAL SYMBOL ;TURN UP;ORNAMENT STROKE-1;ORNAMENT STROKE-2;ORNAMENT STROKE-3",
  "1d19e;MUSICAL SYMBOL ORNAMENT STROKE-;4;5;6;7;8;9;10;11",
  "1d1a6;MUSICAL SYMBOL ;HAUPTSTIMME;NEBENSTIMME;END OF STIMME;DEGREE SLASH;COMBINING DOWN BOW",
  "1d1ab;MUSICAL SYMBOL ;COMBINING UP BOW;COMBINING HARMONIC;COMBINING SNAP PIZZICATO;PEDAL MARK",
  "1d1af;MUSICAL SYMBOL ;PEDAL UP MARK;HALF PEDAL MARK;GLISSANDO UP;GLISSANDO DOWN",
  "1d1b3;MUSICAL SYMBOL ;WITH FINGERNAILS;DAMP;DAMP ALL;MAXIMA;LONGA;BREVIS;SEMIBREVIS WHITE",
  "1d1ba;MUSICAL SYMBOL ;SEMIBREVIS BLACK;MINIMA;MINIMA BLACK;SEMIMINIMA WHITE;SEMIMINIMA BLACK",
  "1d1bf;MUSICAL SYMBOL ;FUSA WHITE;FUSA BLACK;LONGA PERFECTA REST;LONGA IMPERFECTA REST",
  "1d1c3;MUSICAL SYMBOL ;BREVIS REST;SEMIBREVIS REST;MINIMA REST;SEMIMINIMA REST",
  "1d1c7;MUSICAL SYMBOL TEMPUS PERFECTUM CUM PROLATIONE ;PERFECTA;IMPERFECTA",
  "1d1c9;;MUSICAL SYMBOL TEMPUS PERFECTUM CUM PROLATIONE PERFECTA DIMINUTION-1",
  "1d1ca;MUSICAL SYMBOL TEMPUS IMPERFECTUM CUM PROLATIONE ;PERFECTA;IMPERFECTA",
  "1d1cc;MUSICAL SYMBOL TEMPUS IMPERFECTUM CUM PROLATIONE IMPERFECTA DIMINUTION-;1;2;3",
  "1d1cf;MUSICAL SYMBOL ;CROIX;GREGORIAN C CLEF;GREGORIAN F CLEF;SQUARE B;VIRGA;PODATUS;CLIVIS",
  "1d1d6;MUSICAL SYMBOL ;SCANDICUS;CLIMACUS;TORCULUS;PORRECTUS;PORRECTUS FLEXUS;SCANDICUS FLEXUS",
  "1d1dc;MUSICAL SYMBOL ;TORCULUS RESUPINUS;PES SUBPUNCTIS;KIEVAN C CLEF;KIEVAN END OF PIECE",
  "1d1e0;MUSICAL SYMBOL KIEVAN ;FINAL NOTE;RECITATIVE MARK;WHOLE NOTE;HALF NOTE",
  "1d1e4;MUSICAL SYMBOL KIEVAN ;QUARTER NOTE STEM DOWN;QUARTER NOTE STEM UP;EIGHTH NOTE STEM DOWN",
  "1d1e7;MUSICAL SYMBOL ;KIEVAN EIGHTH NOTE STEM UP;KIEVAN FLAT SIGN;SORI;KORON",
  "1d200;GREEK VOCAL NOTATION SYMBOL-;1;2;3;4;5;6;7;8;9;10;11;12;13;14;15;16;17;18;19;20;21;22;23",
  "1d217;GREEK VOCAL NOTATION SYMBOL-;24;50;51;52;53;54",
  "1d21d;GREEK INSTRUMENTAL NOTATION SYMBOL-;1;2;4;5;7;8;11;12;13;14;17;18;19;23;24;25;26;27;29",
  "1d230;GREEK INSTRUMENTAL NOTATION SYMBOL-;30;32;36;37;38;39;40;42;43;45;47;48;49;50;51;52;53",
  "1d241;;GREEK INSTRUMENTAL NOTATION SYMBOL-54;COMBINING GREEK MUSICAL TRISEME",
  "1d243;COMBINING GREEK MUSICAL ;TETRASEME;PENTASEME",
  "1d245;;GREEK MUSICAL LEIMMA",
  "1d2e0;MAYAN NUMERAL ;ZERO;ONE;TWO;THREE;FOUR;FIVE;SIX;SEVEN;EIGHT;NINE;TEN;ELEVEN;TWELVE",
  "1d2ed;MAYAN NUMERAL ;THIRTEEN;FOURTEEN;FIFTEEN;SIXTEEN;SEVENTEEN;EIGHTEEN;NINETEEN",
  "1d300;;MONOGRAM FOR EARTH;DIGRAM FOR HEAVENLY EARTH;DIGRAM FOR HUMAN EARTH",
  "1d303;DIGRAM FOR ;EARTHLY HEAVEN;EARTHLY HUMAN;EARTH",
  "1d306;TETRAGRAM FOR ;CENTRE;FULL CIRCLE;MIRED;BARRIER;KEEPING SMALL;CONTRARIETY;ASCENT",
  "1d30d;TETRAGRAM FOR ;OPPOSITION;BRANCHING OUT;DEFECTIVENESS OR DISTORTION;DIVERGENCE",
  "1d311;TETRAGRAM FOR ;YOUTHFULNESS;INCREASE;PENETRATION;REACH;CONTACT;HOLDING BACK;WAITING",
  "1d318;TETRAGRAM FOR ;FOLLOWING;ADVANCE;RELEASE;RESISTANCE;EASE;JOY;CONTENTION;ENDEAVOUR;DUTIES",
  "1d321;TETRAGRAM FOR ;CHANGE;DECISIVENESS;BOLD RESOLUTION;PACKING;LEGION;CLOSENESS;KINSHIP",
  "1d328;TETRAGRAM FOR ;GATHERING;STRENGTH;PURITY;FULLNESS;RESIDENCE;LAW OR MODEL;RESPONSE",
  "1d32f;TETRAGRAM FOR ;GOING TO MEET;ENCOUNTERS;STOVE;GREATNESS;ENLARGEMENT;PATTERN;RITUAL",
  "1d336;TETRAGRAM FOR ;FLIGHT;VASTNESS OR WASTING;CONSTANCY;MEASURE;ETERNITY;UNITY;DIMINISHMENT",
  "1d33d;TETRAGRAM FOR ;CLOSED MOUTH;GUARDEDNESS;GATHERING IN;MASSING;ACCUMULATION;EMBELLISHMENT",
  "1d343;TETRAGRAM FOR ;DOUBT;WATCH;SINKING;INNER;DEPARTURE;DARKENING;DIMMING;EXHAUSTION",
  "1d34b;TETRAGRAM FOR ;SEVERANCE;STOPPAGE;HARDNESS;COMPLETION;CLOSURE;FAILURE;AGGRAVATION",
  "1d352;TETRAGRAM FOR ;COMPLIANCE;ON THE VERGE;DIFFICULTIES;LABOURING;FOSTERING",
  "1d360;COUNTING ROD UNIT DIGIT ;ONE;TWO;THREE;FOUR;FIVE;SIX;SEVEN;EIGHT;NINE",
  "1d369;COUNTING ROD TENS DIGIT ;ONE;TWO;THREE;FOUR;FIVE;SIX;SEVEN;EIGHT;NINE",
  "1d372;IDEOGRAPHIC TALLY MARK ;ONE;TWO;THREE;FOUR;FIVE",
  "1d377;TALLY MARK ;ONE;FIVE",
  "1d400;MATHEMATICAL BOLD CAPITAL ;A;B;C;D;E;F;G;H;I;J;K;L;M;N;O;P;Q;R;S;T;U;V;W;X;Y;Z",
  "1d41a;MATHEMATICAL BOLD SMALL ;A;B;C;D;E;F;G;H;I;J;K;L;M;N;O;P;Q;R;S;T;U;V;W;X;Y;Z",
  "1d434;MATHEMATICAL ITALIC CAPITAL ;A;B;C;D;E;F;G;H;I;J;K;L;M;N;O;P;Q;R;S;T;U;V;W;X;Y;Z",
  "1d44e;MATHEMATICAL ITALIC SMALL ;A;B;C;D;E;F;G",
  "1d456;MATHEMATICAL ITALIC SMALL ;I;J;K;L;M;N;O;P;Q;R;S;T;U;V;W;X;Y;Z",
  "1d468;MATHEMATICAL BOLD ITALIC CAPITAL ;A;B;C;D;E;F;G;H;I;J;K;L;M;N;O;P;Q;R;S;T;U;V;W;X;Y;Z",
  "1d482;MATHEMATICAL BOLD ITALIC SMALL ;A;B;C;D;E;F;G;H;I;J;K;L;M;N;O;P;Q;R;S;T;U;V;W;X;Y;Z",
  "1d49c;;MATHEMATICAL SCRIPT CAPITAL A",
  "1d49e;MATHEMATICAL SCRIPT CAPITAL ;C;D",
  "1d4a2;;MATHEMATICAL SCRIPT CAPITAL G",
  "1d4a5;MATHEMATICAL SCRIPT CAPITAL ;J;K",
  "1d4a9;MATHEMATICAL SCRIPT CAPITAL ;N;O;P;Q",
  "1d4ae;MATHEMATICAL SCRIPT CAPITAL ;S;T;U;V;W;X;Y;Z",
  "1d4b6;MATHEMATICAL SCRIPT SMALL ;A;B;C;D",
  "1d4bb;;MATHEMATICAL SCRIPT SMALL F",
  "1d4bd;MATHEMATICAL SCRIPT SMALL ;H;I;J;K;L;M;N",
  "1d4c5;MATHEMATICAL SCRIPT SMALL ;P;Q;R;S;T;U;V;W;X;Y;Z",
  "1d4d0;MATHEMATICAL BOLD SCRIPT CAPITAL ;A;B;C;D;E;F;G;H;I;J;K;L;M;N;O;P;Q;R;S;T;U;V;W;X;Y;Z",
  "1d4ea;MATHEMATICAL BOLD SCRIPT SMALL ;A;B;C;D;E;F;G;H;I;J;K;L;M;N;O;P;Q;R;S;T;U;V;W;X;Y;Z",
  "1d504;MATHEMATICAL FRAKTUR CAPITAL ;A;B",
  "1d507;MATHEMATICAL FRAKTUR CAPITAL ;D;E;F;G",
  "1d50d;MATHEMATICAL FRAKTUR CAPITAL ;J;K;L;M;N;O;P;Q",
  "1d516;MATHEMATICAL FRAKTUR CAPITAL ;S;T;U;V;W;X;Y",
  "1d51e;MATHEMATICAL FRAKTUR SMALL ;A;B;C;D;E;F;G;H;I;J;K;L;M;N;O;P;Q;R;S;T;U;V;W;X;Y;Z",
  "1d538;MATHEMATICAL DOUBLE-STRUCK CAPITAL ;A;B",
  "1d53b;MATHEMATICAL DOUBLE-STRUCK CAPITAL ;D;E;F;G",
  "1d540;MATHEMATICAL DOUBLE-STRUCK CAPITAL ;I;J;K;L;M",
  "1d546;;MATHEMATICAL DOUBLE-STRUCK CAPITAL O",
  "1d54a;MATHEMATICAL DOUBLE-STRUCK CAPITAL ;S;T;U;V;W;X;Y",
  "1d552;MATHEMATICAL DOUBLE-STRUCK SMALL ;A;B;C;D;E;F;G;H;I;J;K;L;M;N;O;P;Q;R;S;T;U;V;W;X;Y;Z",
  "1d56c;MATHEMATICAL BOLD FRAKTUR CAPITAL ;A;B;C;D;E;F;G;H;I;J;K;L;M;N;O;P;Q;R;S;T;U;V;W;X;Y;Z",
  "1d586;MATHEMATICAL BOLD FRAKTUR SMALL ;A;B;C;D;E;F;G;H;I;J;K;L;M;N;O;P;Q;R;S;T;U;V;W;X;Y;Z",
  "1d5a0;MATHEMATICAL SANS-SERIF CAPITAL ;A;B;C;D;E;F;G;H;I;J;K;L;M;N;O;P;Q;R;S;T;U;V;W;X;Y;Z",
  "1d5ba;MATHEMATICAL SANS-SERIF SMALL ;A;B;C;D;E;F;G;H;I;J;K;L;M;N;O;P;Q;R;S;T;U;V;W;X;Y;Z",
  "1d5d4;MATHEMATICAL SANS-SERIF BOLD CAPITAL ;A;B;C;D;E;F;G;H;I;J;K;L;M;N;O;P;Q;R;S;T;U;V;W;X;Y",
  "1d5ed;MATHEMATICAL SANS-SERIF BOLD ;CAPITAL Z;SMALL A;SMALL B;SMALL C;SMALL D;SMALL E;SMALL F",
  "1d5f4;MATHEMATICAL SANS-SERIF BOLD SMALL ;G;H;I;J;K;L;M;N;O;P;Q;R;S;T;U;V;W;X;Y;Z",
  "1d608;MATHEMATICAL SANS-SERIF ITALIC CAPITAL ;A;B;C;D;E;F;G;H;I;J;K;L;M;N;O;P;Q;R;S;T;U;V;W;X",
  "1d620;MATHEMATICAL SANS-SERIF ITALIC ;CAPITAL Y;CAPITAL Z;SMALL A;SMALL B;SMALL C;SMALL D",
  "1d626;MATHEMATICAL SANS-SERIF ITALIC SMALL ;E;F;G;H;I;J;K;L;M;N;O;P;Q;R;S;T;U;V;W;X;Y;Z",
  "1d63c;MATHEMATICAL SANS-SERIF BOLD ITALIC CAPITAL ;A;B;C;D;E;F;G;H;I;J;K;L;M;N;O;P;Q;R;S;T;U;V",
  "1d652;MATHEMATICAL SANS-SERIF BOLD ITALIC ;CAPITAL W;CAPITAL X;CAPITAL Y;CAPITAL Z;SMALL A",
  "1d657;MATHEMATICAL SANS-SERIF BOLD ITALIC SMALL ;B;C;D;E;F;G;H;I;J;K;L;M;N;O;P;Q;R;S;T;U;V;W;X",
  "1d66e;MATHEMATICAL SANS-SERIF BOLD ITALIC SMALL ;Y;Z",
  "1d670;MATHEMATICAL MONOSPACE CAPITAL ;A;B;C;D;E;F;G;H;I;J;K;L;M;N;O;P;Q;R;S;T;U;V;W;X;Y;Z",
  "1d68a;MATHEMATICAL MONOSPACE SMALL ;A;B;C;D;E;F;G;H;I;J;K;L;M;N;O;P;Q;R;S;T;U;V;W;X;Y;Z",
  "1d6a4;MATHEMATICAL ITALIC SMALL DOTLESS ;I;J",
  "1d6a8;MATHEMATICAL BOLD CAPITAL ;ALPHA;BETA;GAMMA;DELTA;EPSILON;ZETA;ETA;THETA;IOTA;KAPPA",
  "1d6b2;MATHEMATICAL BOLD CAPITAL ;LAMDA;MU;NU;XI;OMICRON;PI;RHO;THETA SYMBOL;SIGMA;TAU;UPSILON",
  "1d6bd;MATHEMATICAL BOLD ;CAPITAL PHI;CAPITAL CHI;CAPITAL PSI;CAPITAL OMEGA;NABLA;SMALL ALPHA",
  "1d6c3;MATHEMATICAL BOLD SMALL ;BETA;GAMMA;DELTA;EPSILON;ZETA;ETA;THETA;IOTA;KAPPA;LAMDA;MU;NU",
  "1d6cf;MATHEMATICAL BOLD SMALL ;XI;OMICRON;PI;RHO;FINAL SIGMA;SIGMA;TAU;UPSILON;PHI;CHI;PSI",
  "1d6da;MATHEMATICAL BOLD ;SMALL OMEGA;PARTIAL DIFFERENTIAL;EPSILON SYMBOL;THETA SYMBOL",
  "1d6de;MATHEMATICAL BOLD ;KAPPA SYMBOL;PHI SYMBOL;RHO SYMBOL;PI SYMBOL",
  "1d6e2;MATHEMATICAL ITALIC CAPITAL ;ALPHA;BETA;GAMMA;DELTA;EPSILON;ZETA;ETA;THETA;IOTA;KAPPA",
  "1d6ec;MATHEMATICAL ITALIC CAPITAL ;LAMDA;MU;NU;XI;OMICRON;PI;RHO;THETA SYMBOL;SIGMA;TAU",
  "1d6f6;MATHEMATICAL ITALIC CAPITAL ;UPSILON;PHI;CHI;PSI;OMEGA",
  "1d6fb;MATHEMATICAL ITALIC ;NABLA;SMALL ALPHA;SMALL BETA;SMALL GAMMA;SMALL DELTA;SMALL EPSILON",
  "1d701;MATHEMATICAL ITALIC SMALL ;ZETA;ETA;THETA;IOTA;KAPPA;LAMDA;MU;NU;XI;OMICRON;PI;RHO",
  "1d70d;MATHEMATICAL ITALIC SMALL ;FINAL SIGMA;SIGMA;TAU;UPSILON;PHI;CHI;PSI;OMEGA",
  "1d715;MATHEMATICAL ITALIC ;PARTIAL DIFFERENTIAL;EPSILON SYMBOL;THETA SYMBOL;KAPPA SYMBOL",
  "1d719;MATHEMATICAL ITALIC ;PHI SYMBOL;RHO SYMBOL;PI SYMBOL",
  "1d71c;MATHEMATICAL BOLD ITALIC CAPITAL ;ALPHA;BETA;GAMMA;DELTA;EPSILON;ZETA;ETA;THETA;IOTA",
  "1d725;MATHEMATICAL BOLD ITALIC CAPITAL ;KAPPA;LAMDA;MU;NU;XI;OMICRON;PI;RHO;THETA SYMBOL;SIGMA",
  "1d72f;MATHEMATICAL BOLD ITALIC CAPITAL ;TAU;UPSILON;PHI;CHI;PSI;OMEGA",
  "1d735;MATHEMATICAL BOLD ITALIC ;NABLA;SMALL ALPHA;SMALL BETA;SMALL GAMMA;SMALL DELTA",
  "1d73a;MATHEMATICAL BOLD ITALIC SMALL ;EPSILON;ZETA;ETA;THETA;IOTA;KAPPA;LAMDA;MU;NU;XI;OMICRON",
  "1d745;MATHEMATICAL BOLD ITALIC SMALL ;PI;RHO;FINAL SIGMA;SIGMA;TAU;UPSILON;PHI;CHI;PSI;OMEGA",
  "1d74f;MATHEMATICAL BOLD ITALIC ;PARTIAL DIFFERENTIAL;EPSILON SYMBOL;THETA SYMBOL;KAPPA SYMBOL",
  "1d753;MATHEMATICAL BOLD ITALIC ;PHI SYMBOL;RHO SYMBOL;PI SYMBOL",
  "1d756;MATHEMATICAL SANS-SERIF BOLD CAPITAL ;ALPHA;BETA;GAMMA;DELTA;EPSILON;ZETA;ETA;THETA;IOTA",
  "1d75f;MATHEMATICAL SANS-SERIF BOLD CAPITAL ;KAPPA;LAMDA;MU;NU;XI;OMICRON;PI;RHO;THETA SYMBOL",
  "1d768;MATHEMATICAL SANS-SERIF BOLD CAPITAL ;SIGMA;TAU;UPSILON;PHI;CHI;PSI;OMEGA",
  "1d76f;MATHEMATICAL SANS-SERIF BOLD ;NABLA;SMALL ALPHA;SMALL BETA;SMALL GAMMA;SMALL DELTA",
  "1d774;MATHEMATICAL SANS-SERIF BOLD SMALL ;EPSILON;ZETA;ETA;THETA;IOTA;KAPPA;LAMDA;MU;NU;XI",
  "1d77e;MATHEMATICAL SANS-SERIF BOLD SMALL ;OMICRON;PI;RHO;FINAL SIGMA;SIGMA;TAU;UPSILON;PHI;CHI",
  "1d787;MATHEMATICAL SANS-SERIF BOLD ;SMALL PSI;SMALL OMEGA;PARTIAL DIFFERENTIAL;EPSILON SYMBOL",
  "1d78b;MATHEMATICAL SANS-SERIF BOLD ;THETA SYMBOL;KAPPA SYMBOL;PHI SYMBOL;RHO SYMBOL;PI SYMBOL",
  "1d790;MATHEMATICAL SANS-SERIF BOLD ITALIC CAPITAL ;ALPHA;BETA;GAMMA;DELTA;EPSILON;ZETA;ETA",
  "1d797;MATHEMATICAL SANS-SERIF BOLD ITALIC CAPITAL ;THETA;IOTA;KAPPA;LAMDA;MU;NU;XI;OMICRON;PI",
  "1d7a0;MATHEMATICAL SANS-SERIF BOLD ITALIC CAPITAL ;RHO;THETA SYMBOL;SIGMA;TAU;UPSILON;PHI;CHI",
  "1d7a7;MATHEMATICAL SANS-SERIF BOLD ITALIC ;CAPITAL PSI;CAPITAL OMEGA;NABLA;SMALL ALPHA",
  "1d7ab;MATHEMATICAL SANS-SERIF BOLD ITALIC SMALL ;BETA;GAMMA;DELTA;EPSILON;ZETA;ETA;THETA;IOTA",
  "1d7b3;MATHEMATICAL SANS-SERIF BOLD ITALIC SMALL ;KAPPA;LAMDA;MU;NU;XI;OMICRON;PI;RHO",
  "1d7bb;MATHEMATICAL SANS-SERIF BOLD ITALIC SMALL ;FINAL SIGMA;SIGMA;TAU;UPSILON;PHI;CHI;PSI",
  "1d7c2;MATHEMATICAL SANS-SERIF BOLD ITALIC ;SMALL OMEGA;PARTIAL DIFFERENTIAL;EPSILON SYMBOL",
  "1d7c5;MATHEMATICAL SANS-SERIF BOLD ITALIC ;THETA SYMBOL;KAPPA SYMBOL;PHI SYMBOL;RHO SYMBOL",
  "1d7c9;MATHEMATICAL ;SANS-SERIF BOLD ITALIC PI SYMBOL;BOLD CAPITAL DIGAMMA;BOLD SMALL DIGAMMA",
  "1d7ce;MATHEMATICAL BOLD DIGIT ;ZERO;ONE;TWO;THREE;FOUR;FIVE;SIX;SEVEN;EIGHT;NINE",
  "1d7d8;MATHEMATICAL DOUBLE-STRUCK DIGIT ;ZERO;ONE;TWO;THREE;FOUR;FIVE;SIX;SEVEN;EIGHT;NINE",
  "1d7e2;MATHEMATICAL SANS-SERIF DIGIT ;ZERO;ONE;TWO;THREE;FOUR;FIVE;SIX;SEVEN;EIGHT;NINE",
  "1d7ec;MATHEMATICAL SANS-SERIF BOLD DIGIT ;ZERO;ONE;TWO;THREE;FOUR;FIVE;SIX;SEVEN;EIGHT;NINE",
  "1d7f6;MATHEMATICAL MONOSPACE DIGIT ;ZERO;ONE;TWO;THREE;FOUR;FIVE;SIX;SEVEN;EIGHT;NINE",
  "1d800;SIGNWRITING HAND-;FIST INDEX;CIRCLE INDEX;CUP INDEX;OVAL INDEX;HINGE INDEX;ANGLE INDEX",
  "1d806;SIGNWRITING HAND-;FIST INDEX BENT;CIRCLE INDEX BENT;FIST THUMB UNDER INDEX BENT",
  "1d809;SIGNWRITING HAND-FIST INDEX ;RAISED KNUCKLE;CUPPED;HINGED;HINGED LOW",
  "1d80d;SIGNWRITING HAND-;CIRCLE INDEX HINGE;FIST INDEX MIDDLE;CIRCLE INDEX MIDDLE",
  "1d810;SIGNWRITING HAND-FIST INDEX MIDDLE ;BENT;RAISED KNUCKLES;HINGED",
  "1d813;SIGNWRITING HAND-FIST INDEX ;UP MIDDLE HINGED;HINGED MIDDLE UP;MIDDLE CONJOINED",
  "1d816;SIGNWRITING HAND-FIST INDEX MIDDLE CONJOINED ;INDEX BENT;MIDDLE BENT;CUPPED;HINGED",
  "1d81a;SIGNWRITING HAND-;FIST INDEX MIDDLE CROSSED;CIRCLE INDEX MIDDLE CROSSED",
  "1d81c;SIGNWRITING HAND-FIST ;MIDDLE BENT OVER INDEX;INDEX BENT OVER MIDDLE;INDEX MIDDLE THUMB",
  "1d81f;SIGNWRITING HAND-;CIRCLE INDEX MIDDLE THUMB;FIST INDEX MIDDLE STRAIGHT THUMB BENT",
  "1d821;SIGNWRITING HAND-FIST INDEX MIDDLE ;BENT THUMB STRAIGHT;THUMB BENT",
  "1d823;SIGNWRITING HAND-FIST INDEX ;MIDDLE HINGED SPREAD THUMB SIDE;UP MIDDLE HINGED THUMB SIDE",
  "1d825;;SIGNWRITING HAND-FIST INDEX UP MIDDLE HINGED THUMB CONJOINED",
  "1d826;SIGNWRITING HAND-FIST INDEX ;HINGED MIDDLE UP THUMB SIDE;MIDDLE UP SPREAD THUMB FORWARD",
  "1d828;SIGNWRITING HAND-FIST INDEX MIDDLE THUMB ;CUPPED;CIRCLED;HOOKED;HINGED",
  "1d82c;;SIGNWRITING HAND-FIST THUMB BETWEEN INDEX MIDDLE STRAIGHT",
  "1d82d;SIGNWRITING HAND-FIST INDEX MIDDLE CONJOINED THUMB ;SIDE;SIDE CONJOINED;SIDE BENT",
  "1d830;SIGNWRITING HAND-FIST ;MIDDLE THUMB HOOKED INDEX UP;INDEX THUMB HOOKED MIDDLE UP",
  "1d832;SIGNWRITING HAND-FIST INDEX MIDDLE ;CONJOINED HINGED THUMB SIDE;CROSSED THUMB SIDE",
  "1d834;SIGNWRITING HAND-FIST INDEX MIDDLE CONJOINED ;THUMB FORWARD;CUPPED THUMB FORWARD",
  "1d836;SIGNWRITING HAND-FIST ;MIDDLE THUMB CUPPED INDEX UP;INDEX THUMB CUPPED MIDDLE UP",
  "1d838;SIGNWRITING HAND-FIST MIDDLE THUMB CIRCLED INDEX ;UP;HINGED",
  "1d83a;SIGNWRITING HAND-FIST INDEX THUMB ANGLED ;OUT MIDDLE UP;IN MIDDLE UP",
  "1d83c;SIGNWRITING HAND-FIST INDEX ;THUMB CIRCLED MIDDLE UP;MIDDLE THUMB CONJOINED HINGED",
  "1d83e;SIGNWRITING HAND-FIST INDEX MIDDLE THUMB ;ANGLED OUT;ANGLED",
  "1d840;SIGNWRITING HAND-FIST MIDDLE THUMB ANGLED ;OUT INDEX UP;OUT INDEX CROSSED;INDEX UP",
  "1d843;SIGNWRITING HAND-;FIST INDEX THUMB HOOKED MIDDLE HINGED;FLAT FOUR FINGERS",
  "1d845;SIGNWRITING HAND-FLAT FOUR FINGERS ;BENT;HINGED;CONJOINED;CONJOINED SPLIT",
  "1d849;SIGNWRITING HAND-;CLAW FOUR FINGERS CONJOINED;FIST FOUR FINGERS CONJOINED BENT",
  "1d84b;SIGNWRITING HAND-;HINGE FOUR FINGERS CONJOINED;FLAT FIVE FINGERS SPREAD",
  "1d84d;SIGNWRITING HAND-FLAT ;HEEL FIVE FINGERS SPREAD;FIVE FINGERS SPREAD FOUR BENT",
  "1d84f;SIGNWRITING HAND-FLAT ;HEEL FIVE FINGERS SPREAD FOUR BENT;FIVE FINGERS SPREAD BENT",
  "1d851;SIGNWRITING HAND-FLAT ;HEEL FIVE FINGERS SPREAD BENT;FIVE FINGERS SPREAD THUMB FORWARD",
  "1d853;SIGNWRITING HAND-CUP FIVE FINGERS ;SPREAD;SPREAD OPEN",
  "1d855;SIGNWRITING HAND-;HINGE FIVE FINGERS SPREAD OPEN;OVAL FIVE FINGERS SPREAD",
  "1d857;SIGNWRITING HAND-FLAT FIVE FINGERS SPREAD ;HINGED;HINGED THUMB SIDE;HINGED NO THUMB",
  "1d85a;SIGNWRITING HAND-;FLAT;FLAT BETWEEN PALM FACINGS;FLAT HEEL;FLAT THUMB SIDE",
  "1d85e;SIGNWRITING HAND-FLAT ;HEEL THUMB SIDE;THUMB BENT;THUMB FORWARD;SPLIT INDEX THUMB SIDE",
  "1d862;SIGNWRITING HAND-FLAT SPLIT ;CENTRE;CENTRE THUMB SIDE;CENTRE THUMB SIDE BENT;LITTLE",
  "1d866;SIGNWRITING HAND-;CLAW;CLAW THUMB SIDE;CLAW NO THUMB;CLAW THUMB FORWARD;HOOK CURLICUE",
  "1d86b;SIGNWRITING HAND-;HOOK;CUP OPEN;CUP;CUP OPEN THUMB SIDE;CUP THUMB SIDE;CUP OPEN NO THUMB",
  "1d871;SIGNWRITING HAND-;CUP NO THUMB;CUP OPEN THUMB FORWARD;CUP THUMB FORWARD;CURLICUE OPEN",
  "1d875;SIGNWRITING HAND-;CURLICUE;CIRCLE;OVAL;OVAL THUMB SIDE;OVAL NO THUMB;OVAL THUMB FORWARD",
  "1d87b;SIGNWRITING HAND-;HINGE OPEN;HINGE OPEN THUMB FORWARD;HINGE;HINGE SMALL",
  "1d87f;SIGNWRITING HAND-HINGE ;OPEN THUMB SIDE;THUMB SIDE;OPEN NO THUMB;NO THUMB",
  "1d883;SIGNWRITING HAND-;HINGE THUMB SIDE TOUCHING INDEX;HINGE THUMB BETWEEN MIDDLE RING;ANGLE",
  "1d886;SIGNWRITING HAND-;FIST INDEX MIDDLE RING;CIRCLE INDEX MIDDLE RING",
  "1d888;SIGNWRITING HAND-;HINGE INDEX MIDDLE RING;ANGLE INDEX MIDDLE RING;HINGE LITTLE",
  "1d88b;SIGNWRITING HAND-FIST INDEX MIDDLE RING ;BENT;CONJOINED",
  "1d88d;SIGNWRITING HAND-;HINGE INDEX MIDDLE RING CONJOINED;FIST LITTLE DOWN",
  "1d88f;SIGNWRITING HAND-FIST LITTLE DOWN ;RIPPLE STRAIGHT;RIPPLE CURVED;OTHERS CIRCLED",
  "1d892;SIGNWRITING HAND-;FIST LITTLE UP;FIST THUMB UNDER LITTLE UP;CIRCLE LITTLE UP",
  "1d895;SIGNWRITING HAND-;OVAL LITTLE UP;ANGLE LITTLE UP;FIST LITTLE RAISED KNUCKLE",
  "1d898;SIGNWRITING HAND-FIST LITTLE ;BENT;TOUCHES THUMB;THUMB",
  "1d89b;SIGNWRITING HAND-;HINGE LITTLE THUMB;FIST LITTLE INDEX THUMB;HINGE LITTLE INDEX THUMB",
  "1d89e;SIGNWRITING HAND-ANGLE LITTLE INDEX THUMB INDEX ;THUMB OUT;THUMB",
  "1d8a0;SIGNWRITING HAND-;FIST LITTLE INDEX;CIRCLE LITTLE INDEX;HINGE LITTLE INDEX",
  "1d8a3;SIGNWRITING HAND-;ANGLE LITTLE INDEX;FIST INDEX MIDDLE LITTLE;CIRCLE INDEX MIDDLE LITTLE",
  "1d8a6;SIGNWRITING HAND-;HINGE INDEX MIDDLE LITTLE;HINGE RING;ANGLE INDEX MIDDLE LITTLE",
  "1d8a9;SIGNWRITING HAND-;FIST INDEX MIDDLE CROSS LITTLE;CIRCLE INDEX MIDDLE CROSS LITTLE",
  "1d8ab;SIGNWRITING HAND-;FIST RING DOWN;HINGE RING DOWN INDEX THUMB HOOK MIDDLE",
  "1d8ad;SIGNWRITING HAND-;ANGLE RING DOWN MIDDLE THUMB INDEX CROSS;FIST RING UP",
  "1d8af;SIGNWRITING HAND-;FIST RING RAISED KNUCKLE;FIST RING LITTLE;CIRCLE RING LITTLE",
  "1d8b2;SIGNWRITING HAND-;OVAL RING LITTLE;ANGLE RING LITTLE;FIST RING MIDDLE",
  "1d8b5;SIGNWRITING HAND-FIST RING ;MIDDLE CONJOINED;MIDDLE RAISED KNUCKLES;INDEX;THUMB",
  "1d8b9;SIGNWRITING HAND-;HOOK RING THUMB;FIST INDEX RING LITTLE;CIRCLE INDEX RING LITTLE",
  "1d8bc;SIGNWRITING HAND-;CURLICUE INDEX RING LITTLE ON;HOOK INDEX RING LITTLE OUT",
  "1d8be;SIGNWRITING HAND-HOOK INDEX RING LITTLE ;IN;UNDER",
  "1d8c0;SIGNWRITING HAND-;CUP INDEX RING LITTLE;HINGE INDEX RING LITTLE",
  "1d8c2;SIGNWRITING HAND-;ANGLE INDEX RING LITTLE OUT;ANGLE INDEX RING LITTLE;FIST MIDDLE DOWN",
  "1d8c5;SIGNWRITING HAND-;HINGE MIDDLE;FIST MIDDLE UP;CIRCLE MIDDLE UP",
  "1d8c8;SIGNWRITING HAND-;FIST MIDDLE RAISED KNUCKLE;FIST MIDDLE UP THUMB SIDE;HOOK MIDDLE THUMB",
  "1d8cb;SIGNWRITING HAND-FIST MIDDLE ;THUMB LITTLE;LITTLE;RING LITTLE",
  "1d8ce;SIGNWRITING HAND-;CIRCLE MIDDLE RING LITTLE;CURLICUE MIDDLE RING LITTLE ON",
  "1d8d0;SIGNWRITING HAND-;CUP MIDDLE RING LITTLE;HINGE MIDDLE RING LITTLE",
  "1d8d2;SIGNWRITING HAND-ANGLE MIDDLE RING ;LITTLE OUT;LITTLE IN;LITTLE",
  "1d8d5;SIGNWRITING HAND-;CIRCLE MIDDLE RING LITTLE BENT;CLAW MIDDLE RING LITTLE CONJOINED",
  "1d8d7;;SIGNWRITING HAND-CLAW MIDDLE RING LITTLE CONJOINED SIDE",
  "1d8d8;SIGNWRITING HAND-HOOK MIDDLE RING LITTLE ;CONJOINED OUT;CONJOINED IN;CONJOINED",
  "1d8db;SIGNWRITING HAND-;HINGE INDEX HINGED;FIST INDEX THUMB SIDE;HINGE INDEX THUMB SIDE",
  "1d8de;SIGNWRITING HAND-FIST INDEX THUMB SIDE THUMB ;DIAGONAL;CONJOINED;BENT",
  "1d8e1;SIGNWRITING HAND-FIST INDEX THUMB SIDE ;INDEX BENT;BOTH BENT;INDEX HINGE",
  "1d8e4;SIGNWRITING HAND-FIST INDEX THUMB ;FORWARD INDEX STRAIGHT;FORWARD INDEX BENT;HOOK",
  "1d8e7;SIGNWRITING HAND-FIST INDEX THUMB ;CURLICUE;CURVE THUMB INSIDE",
  "1d8e9;SIGNWRITING HAND-;CLAW INDEX THUMB CURVE THUMB INSIDE;FIST INDEX THUMB CURVE THUMB UNDER",
  "1d8eb;SIGNWRITING HAND-;FIST INDEX THUMB CIRCLE;CUP INDEX THUMB;CUP INDEX THUMB OPEN",
  "1d8ee;SIGNWRITING HAND-HINGE INDEX ;THUMB OPEN;THUMB LARGE;THUMB;THUMB SMALL",
  "1d8f2;SIGNWRITING HAND-ANGLE INDEX ;THUMB OUT;THUMB IN;THUMB",
  "1d8f5;SIGNWRITING HAND-FIST ;THUMB;THUMB HEEL;THUMB SIDE DIAGONAL;THUMB SIDE CONJOINED",
  "1d8f9;SIGNWRITING HAND-FIST THUMB ;SIDE BENT;FORWARD;BETWEEN INDEX MIDDLE;BETWEEN MIDDLE RING",
  "1d8fd;SIGNWRITING HAND-FIST THUMB ;BETWEEN RING LITTLE;UNDER TWO FINGERS;OVER TWO FINGERS",
  "1d900;SIGNWRITING HAND-FIST THUMB UNDER ;THREE FINGERS;FOUR FINGERS",
  "1d902;SIGNWRITING HAND-;FIST THUMB OVER FOUR RAISED KNUCKLES;FIST;FIST HEEL",
  "1d905;SIGNWRITING ;TOUCH SINGLE;TOUCH MULTIPLE;TOUCH BETWEEN;GRASP SINGLE;GRASP MULTIPLE",
  "1d90a;SIGNWRITING ;GRASP BETWEEN;STRIKE SINGLE;STRIKE MULTIPLE;STRIKE BETWEEN;BRUSH SINGLE",
  "1d90f;SIGNWRITING ;BRUSH MULTIPLE;BRUSH BETWEEN;RUB SINGLE;RUB MULTIPLE;RUB BETWEEN",
  "1d914;SIGNWRITING ;SURFACE SYMBOLS;SURFACE BETWEEN;SQUEEZE LARGE SINGLE;SQUEEZE SMALL SINGLE",
  "1d918;SIGNWRITING SQUEEZE ;LARGE MULTIPLE;SMALL MULTIPLE;SEQUENTIAL",
  "1d91b;SIGNWRITING FLICK ;LARGE SINGLE;SMALL SINGLE;LARGE MULTIPLE;SMALL MULTIPLE;SEQUENTIAL",
  "1d920;SIGNWRITING ;SQUEEZE FLICK ALTERNATING;MOVEMENT-HINGE UP DOWN LARGE",
  "1d922;SIGNWRITING MOVEMENT-HINGE ;UP DOWN SMALL;UP SEQUENTIAL;DOWN SEQUENTIAL",
  "1d925;SIGNWRITING MOVEMENT-HINGE UP DOWN ALTERNATING ;LARGE;SMALL",
  "1d927;SIGNWRITING MOVEMENT-;HINGE SIDE TO SIDE SCISSORS;WALLPLANE FINGER CONTACT",
  "1d929;SIGNWRITING MOVEMENT-;FLOORPLANE FINGER CONTACT;WALLPLANE SINGLE STRAIGHT SMALL",
  "1d92b;SIGNWRITING MOVEMENT-WALLPLANE SINGLE STRAIGHT ;MEDIUM;LARGE;LARGEST",
  "1d92e;SIGNWRITING MOVEMENT-WALLPLANE ;SINGLE WRIST FLEX;DOUBLE STRAIGHT;DOUBLE WRIST FLEX",
  "1d931;SIGNWRITING MOVEMENT-WALLPLANE ;DOUBLE ALTERNATING;DOUBLE ALTERNATING WRIST FLEX;CROSS",
  "1d934;SIGNWRITING MOVEMENT-WALLPLANE TRIPLE ;STRAIGHT MOVEMENT;WRIST FLEX;ALTERNATING",
  "1d937;SIGNWRITING MOVEMENT-WALLPLANE ;TRIPLE ALTERNATING WRIST FLEX;BEND SMALL;BEND MEDIUM",
  "1d93a;SIGNWRITING MOVEMENT-WALLPLANE ;BEND LARGE;CORNER SMALL;CORNER MEDIUM;CORNER LARGE",
  "1d93e;SIGNWRITING MOVEMENT-WALLPLANE ;CORNER ROTATION;CHECK SMALL;CHECK MEDIUM;CHECK LARGE",
  "1d942;SIGNWRITING MOVEMENT-WALLPLANE ;BOX SMALL;BOX MEDIUM;BOX LARGE;ZIGZAG SMALL",
  "1d946;SIGNWRITING MOVEMENT-WALLPLANE ;ZIGZAG MEDIUM;ZIGZAG LARGE;PEAKS SMALL;PEAKS MEDIUM",
  "1d94a;SIGNWRITING ;MOVEMENT-WALLPLANE PEAKS LARGE;TRAVEL-WALLPLANE ROTATION-WALLPLANE SINGLE",
  "1d94c;SIGNWRITING TRAVEL-WALLPLANE ROTATION-WALLPLANE ;DOUBLE;ALTERNATING",
  "1d94e;SIGNWRITING TRAVEL-WALLPLANE ROTATION-FLOORPLANE ;SINGLE;DOUBLE;ALTERNATING",
  "1d951;SIGNWRITING TRAVEL-WALLPLANE ;SHAKING;ARM SPIRAL SINGLE;ARM SPIRAL DOUBLE",
  "1d954;SIGNWRITING ;TRAVEL-WALLPLANE ARM SPIRAL TRIPLE;MOVEMENT-DIAGONAL AWAY SMALL",
  "1d956;SIGNWRITING MOVEMENT-DIAGONAL ;AWAY MEDIUM;AWAY LARGE;AWAY LARGEST;TOWARDS SMALL",
  "1d95a;SIGNWRITING MOVEMENT-DIAGONAL TOWARDS ;MEDIUM;LARGE;LARGEST",
  "1d95d;SIGNWRITING MOVEMENT-DIAGONAL BETWEEN AWAY ;SMALL;MEDIUM;LARGE;LARGEST",
  "1d961;SIGNWRITING MOVEMENT-DIAGONAL BETWEEN TOWARDS ;SMALL;MEDIUM;LARGE;LARGEST",
  "1d965;SIGNWRITING MOVEMENT-FLOORPLANE SINGLE STRAIGHT ;SMALL;MEDIUM;LARGE;LARGEST",
  "1d969;SIGNWRITING MOVEMENT-FLOORPLANE ;SINGLE WRIST FLEX;DOUBLE STRAIGHT;DOUBLE WRIST FLEX",
  "1d96c;SIGNWRITING MOVEMENT-FLOORPLANE ;DOUBLE ALTERNATING;DOUBLE ALTERNATING WRIST FLEX;CROSS",
  "1d96f;SIGNWRITING MOVEMENT-FLOORPLANE TRIPLE ;STRAIGHT MOVEMENT;WRIST FLEX",
  "1d971;SIGNWRITING MOVEMENT-FLOORPLANE TRIPLE ALTERNATING ;MOVEMENT;WRIST FLEX",
  "1d973;SIGNWRITING MOVEMENT-FLOORPLANE ;BEND;CORNER SMALL;CORNER MEDIUM;CORNER LARGE;CHECK",
  "1d978;SIGNWRITING MOVEMENT-FLOORPLANE ;BOX SMALL;BOX MEDIUM;BOX LARGE;ZIGZAG SMALL",
  "1d97c;SIGNWRITING MOVEMENT-FLOORPLANE ;ZIGZAG MEDIUM;ZIGZAG LARGE;PEAKS SMALL;PEAKS MEDIUM",
  "1d980;;SIGNWRITING MOVEMENT-FLOORPLANE PEAKS LARGE",
  "1d981;SIGNWRITING TRAVEL-FLOORPLANE ROTATION-FLOORPLANE ;SINGLE;DOUBLE;ALTERNATING",
  "1d984;SIGNWRITING TRAVEL-FLOORPLANE ROTATION-WALLPLANE ;SINGLE;DOUBLE;ALTERNATING",
  "1d987;SIGNWRITING ;TRAVEL-FLOORPLANE SHAKING;MOVEMENT-WALLPLANE CURVE QUARTER SMALL",
  "1d989;SIGNWRITING MOVEMENT-WALLPLANE CURVE QUARTER ;MEDIUM;LARGE;LARGEST",
  "1d98c;SIGNWRITING MOVEMENT-WALLPLANE CURVE HALF-CIRCLE ;SMALL;MEDIUM;LARGE;LARGEST",
  "1d990;SIGNWRITING MOVEMENT-WALLPLANE CURVE THREE-QUARTER CIRCLE ;SMALL;MEDIUM",
  "1d992;SIGNWRITING MOVEMENT-WALLPLANE ;HUMP SMALL;HUMP MEDIUM;HUMP LARGE;LOOP SMALL;LOOP MEDIUM",
  "1d997;SIGNWRITING MOVEMENT-WALLPLANE ;LOOP LARGE;LOOP SMALL DOUBLE;WAVE CURVE DOUBLE SMALL",
  "1d99a;SIGNWRITING MOVEMENT-WALLPLANE WAVE CURVE ;DOUBLE MEDIUM;DOUBLE LARGE;TRIPLE SMALL",
  "1d99d;SIGNWRITING MOVEMENT-WALLPLANE WAVE CURVE TRIPLE ;MEDIUM;LARGE",
  "1d99f;SIGNWRITING MOVEMENT-WALLPLANE ;CURVE THEN STRAIGHT;CURVED CROSS SMALL",
  "1d9a1;SIGNWRITING ;MOVEMENT-WALLPLANE CURVED CROSS MEDIUM;ROTATION-WALLPLANE SINGLE",
  "1d9a3;SIGNWRITING ROTATION-WALLPLANE ;DOUBLE;ALTERNATE",
  "1d9a5;SIGNWRITING MOVEMENT-WALLPLANE ;SHAKING;CURVE HITTING FRONT WALL;HUMP HITTING FRONT WALL",
  "1d9a8;SIGNWRITING MOVEMENT-WALLPLANE ;LOOP HITTING FRONT WALL;WAVE HITTING FRONT WALL",
  "1d9aa;SIGNWRITING ROTATION-WALLPLANE ;SINGLE HITTING FRONT WALL;DOUBLE HITTING FRONT WALL",
  "1d9ac;;SIGNWRITING ROTATION-WALLPLANE ALTERNATING HITTING FRONT WALL",
  "1d9ad;SIGNWRITING MOVEMENT-WALLPLANE ;CURVE HITTING CHEST;HUMP HITTING CHEST",
  "1d9af;SIGNWRITING MOVEMENT-WALLPLANE ;LOOP HITTING CHEST;WAVE HITTING CHEST",
  "1d9b1;SIGNWRITING ROTATION-WALLPLANE ;SINGLE HITTING CHEST;DOUBLE HITTING CHEST",
  "1d9b3;;SIGNWRITING ROTATION-WALLPLANE ALTERNATING HITTING CHEST",
  "1d9b4;SIGNWRITING MOVEMENT-WALLPLANE WAVE DIAGONAL PATH ;SMALL;MEDIUM;LARGE",
  "1d9b7;SIGNWRITING MOVEMENT-FLOORPLANE CURVE HITTING CEILING ;SMALL;LARGE",
  "1d9b9;SIGNWRITING MOVEMENT-FLOORPLANE HUMP HITTING CEILING ;SMALL DOUBLE;LARGE DOUBLE",
  "1d9bb;SIGNWRITING MOVEMENT-FLOORPLANE HUMP HITTING CEILING ;SMALL TRIPLE;LARGE TRIPLE",
  "1d9bd;SIGNWRITING MOVEMENT-FLOORPLANE LOOP HITTING CEILING ;SMALL SINGLE;LARGE SINGLE",
  "1d9bf;SIGNWRITING MOVEMENT-FLOORPLANE LOOP HITTING CEILING ;SMALL DOUBLE;LARGE DOUBLE",
  "1d9c1;SIGNWRITING MOVEMENT-FLOORPLANE WAVE HITTING CEILING ;SMALL;LARGE",
  "1d9c3;SIGNWRITING ROTATION-FLOORPLANE ;SINGLE HITTING CEILING;DOUBLE HITTING CEILING",
  "1d9c5;;SIGNWRITING ROTATION-FLOORPLANE ALTERNATING HITTING CEILING",
  "1d9c6;SIGNWRITING MOVEMENT-FLOORPLANE CURVE HITTING FLOOR ;SMALL;LARGE",
  "1d9c8;SIGNWRITING MOVEMENT-FLOORPLANE HUMP HITTING FLOOR ;SMALL DOUBLE;LARGE DOUBLE",
  "1d9ca;SIGNWRITING MOVEMENT-FLOORPLANE HUMP HITTING FLOOR TRIPLE ;SMALL TRIPLE;LARGE TRIPLE",
  "1d9cc;SIGNWRITING MOVEMENT-FLOORPLANE LOOP HITTING FLOOR ;SMALL SINGLE;LARGE SINGLE",
  "1d9ce;SIGNWRITING MOVEMENT-FLOORPLANE LOOP HITTING FLOOR ;SMALL DOUBLE;LARGE DOUBLE",
  "1d9d0;SIGNWRITING MOVEMENT-FLOORPLANE WAVE HITTING FLOOR ;SMALL;LARGE",
  "1d9d2;SIGNWRITING ROTATION-FLOORPLANE ;SINGLE HITTING FLOOR;DOUBLE HITTING FLOOR",
  "1d9d4;;SIGNWRITING ROTATION-FLOORPLANE ALTERNATING HITTING FLOOR",
  "1d9d5;SIGNWRITING MOVEMENT-FLOORPLANE CURVE ;SMALL;MEDIUM;LARGE;LARGEST;COMBINED",
  "1d9da;SIGNWRITING MOVEMENT-FLOORPLANE ;HUMP SMALL;LOOP SMALL;WAVE SNAKE;WAVE SMALL;WAVE LARGE",
  "1d9df;SIGNWRITING ROTATION-FLOORPLANE ;SINGLE;DOUBLE;ALTERNATING",
  "1d9e2;SIGNWRITING MOVEMENT-;FLOORPLANE SHAKING PARALLEL;WALLPLANE ARM CIRCLE SMALL SINGLE",
  "1d9e4;SIGNWRITING MOVEMENT-WALLPLANE ARM CIRCLE ;MEDIUM SINGLE;SMALL DOUBLE;MEDIUM DOUBLE",
  "1d9e7;SIGNWRITING MOVEMENT-FLOORPLANE ARM CIRCLE HITTING WALL ;SMALL SINGLE;MEDIUM SINGLE",
  "1d9e9;SIGNWRITING MOVEMENT-FLOORPLANE ARM CIRCLE HITTING WALL ;LARGE SINGLE;SMALL DOUBLE",
  "1d9eb;SIGNWRITING MOVEMENT-FLOORPLANE ARM CIRCLE HITTING WALL ;MEDIUM DOUBLE;LARGE DOUBLE",
  "1d9ed;SIGNWRITING MOVEMENT-WALLPLANE WRIST CIRCLE FRONT ;SINGLE;DOUBLE",
  "1d9ef;SIGNWRITING MOVEMENT-FLOORPLANE WRIST CIRCLE HITTING WALL ;SINGLE;DOUBLE",
  "1d9f1;SIGNWRITING MOVEMENT-WALLPLANE FINGER CIRCLES ;SINGLE;DOUBLE",
  "1d9f3;SIGNWRITING MOVEMENT-FLOORPLANE FINGER CIRCLES HITTING WALL ;SINGLE;DOUBLE",
  "1d9f5;SIGNWRITING DYNAMIC ;ARROWHEAD SMALL;ARROWHEAD LARGE;FAST;SLOW;TENSE;RELAXED",
  "1d9fb;SIGNWRITING DYNAMIC ;SIMULTANEOUS;SIMULTANEOUS ALTERNATING;EVERY OTHER TIME;GRADUAL",
  "1d9ff;SIGNWRITING ;HEAD;HEAD RIM;HEAD MOVEMENT-WALLPLANE STRAIGHT;HEAD MOVEMENT-WALLPLANE TILT",
  "1da03;SIGNWRITING HEAD MOVEMENT-;FLOORPLANE STRAIGHT;WALLPLANE CURVE;FLOORPLANE CURVE",
  "1da06;SIGNWRITING ;HEAD MOVEMENT CIRCLE;FACE DIRECTION POSITION NOSE FORWARD TILTING",
  "1da08;SIGNWRITING FACE DIRECTION POSITION NOSE UP OR ;DOWN;DOWN TILTING",
  "1da0a;SIGNWRITING EYEBROWS STRAIGHT ;UP;NEUTRAL;DOWN",
  "1da0d;SIGNWRITING DREAMY EYEBROWS ;NEUTRAL DOWN;DOWN NEUTRAL;UP NEUTRAL;NEUTRAL UP",
  "1da11;SIGNWRITING ;FOREHEAD NEUTRAL;FOREHEAD CONTACT;FOREHEAD WRINKLED;EYES OPEN;EYES SQUEEZED",
  "1da16;SIGNWRITING ;EYES CLOSED;EYE BLINK SINGLE;EYE BLINK MULTIPLE;EYES HALF OPEN",
  "1da1a;SIGNWRITING ;EYES WIDE OPEN;EYES HALF CLOSED;EYES WIDENING MOVEMENT;EYE WINK",
  "1da1e;SIGNWRITING ;EYELASHES UP;EYELASHES DOWN;EYELASHES FLUTTERING;EYEGAZE-WALLPLANE STRAIGHT",
  "1da22;SIGNWRITING EYEGAZE-WALLPLANE STRAIGHT ;DOUBLE;ALTERNATING",
  "1da24;SIGNWRITING EYEGAZE-FLOORPLANE ;STRAIGHT;STRAIGHT DOUBLE;STRAIGHT ALTERNATING",
  "1da27;SIGNWRITING EYEGAZE-;WALLPLANE CURVED;FLOORPLANE CURVED;WALLPLANE CIRCLING",
  "1da2a;SIGNWRITING ;CHEEKS PUFFED;CHEEKS NEUTRAL;CHEEKS SUCKED;TENSE CHEEKS HIGH",
  "1da2e;SIGNWRITING ;TENSE CHEEKS MIDDLE;TENSE CHEEKS LOW;EARS;NOSE NEUTRAL;NOSE CONTACT",
  "1da33;SIGNWRITING ;NOSE WRINKLES;NOSE WIGGLES;AIR BLOWING OUT;AIR SUCKING IN",
  "1da37;SIGNWRITING ;AIR BLOW SMALL ROTATIONS;AIR SUCK SMALL ROTATIONS;BREATH INHALE",
  "1da3a;SIGNWRITING ;BREATH EXHALE;MOUTH CLOSED NEUTRAL;MOUTH CLOSED FORWARD",
  "1da3d;SIGNWRITING MOUTH ;CLOSED CONTACT;SMILE;SMILE WRINKLED;SMILE OPEN;FROWN;FROWN WRINKLED",
  "1da43;SIGNWRITING MOUTH ;FROWN OPEN;OPEN CIRCLE;OPEN FORWARD;OPEN WRINKLED;OPEN OVAL",
  "1da48;SIGNWRITING MOUTH OPEN ;OVAL WRINKLED;OVAL YAWN;RECTANGLE;RECTANGLE WRINKLED",
  "1da4c;SIGNWRITING MOUTH ;OPEN RECTANGLE YAWN;KISS;KISS FORWARD;KISS WRINKLED;TENSE",
  "1da51;SIGNWRITING ;MOUTH TENSE FORWARD;MOUTH TENSE SUCKED;LIPS PRESSED TOGETHER",
  "1da54;SIGNWRITING ;LIP LOWER OVER UPPER;LIP UPPER OVER LOWER;MOUTH CORNERS",
  "1da57;SIGNWRITING ;MOUTH WRINKLES SINGLE;MOUTH WRINKLES DOUBLE;TONGUE STICKING OUT FAR",
  "1da5a;SIGNWRITING TONGUE ;LICKING LIPS;TIP BETWEEN LIPS;TIP TOUCHING INSIDE MOUTH",
  "1da5d;SIGNWRITING TONGUE ;INSIDE MOUTH RELAXED;MOVES AGAINST CHEEK;CENTRE STICKING OUT",
  "1da60;SIGNWRITING ;TONGUE CENTRE INSIDE MOUTH;TEETH;TEETH MOVEMENT;TEETH ON TONGUE",
  "1da64;SIGNWRITING TEETH ;ON TONGUE MOVEMENT;ON LIPS;ON LIPS MOVEMENT;BITE LIPS",
  "1da68;SIGNWRITING ;MOVEMENT-WALLPLANE JAW;MOVEMENT-FLOORPLANE JAW;NECK;HAIR;EXCITEMENT",
  "1da6d;SIGNWRITING ;SHOULDER HIP SPINE;SHOULDER HIP POSITIONS;WALLPLANE SHOULDER HIP MOVE",
  "1da70;SIGNWRITING ;FLOORPLANE SHOULDER HIP MOVE;SHOULDER TILTING FROM WAIST",
  "1da72;SIGNWRITING TORSO-;WALLPLANE STRAIGHT STRETCH;WALLPLANE CURVED BEND;FLOORPLANE TWISTING",
  "1da75;SIGNWRITING ;UPPER BODY TILTING FROM HIP JOINTS;LIMB COMBINATION;LIMB LENGTH-1",
  "1da78;SIGNWRITING LIMB LENGTH-;2;3;4;5;6;7",
  "1da7e;SIGNWRITING ;FINGER;LOCATION-WALLPLANE SPACE;LOCATION-FLOORPLANE SPACE;LOCATION HEIGHT",
  "1da82;SIGNWRITING LOCATION ;WIDTH;DEPTH;HEAD NECK;TORSO;LIMBS DIGITS",
  "1da87;SIGNWRITING ;COMMA;FULL STOP;SEMICOLON;COLON;PARENTHESIS",
  "1da9b;SIGNWRITING FILL MODIFIER-;2;3;4;5;6",
  "1daa1;SIGNWRITING ROTATION MODIFIER-;2;3;4;5;6;7;8;9;10;11;12;13;14;15;16",
  "1df00;LATIN SMALL LETTER ;FENG DIGRAPH WITH TRILL;REVERSED SCRIPT G",
  "1df02;LATIN ;LETTER SMALL CAPITAL TURNED G;SMALL LETTER REVERSED K",
  "1df04;LATIN ;LETTER SMALL CAPITAL L WITH BELT;SMALL LETTER LEZH WITH RETROFLEX HOOK",
  "1df06;LATIN SMALL LETTER ;TURNED Y WITH BELT;REVERSED ENG",
  "1df08;;LATIN SMALL LETTER TURNED R WITH LONG LEG AND RETROFLEX HOOK",
  "1df09;;LATIN SMALL LETTER T WITH HOOK AND RETROFLEX HOOK",
  "1df0a;LATIN ;LETTER RETROFLEX CLICK WITH RETROFLEX HOOK;SMALL LETTER ESH WITH DOUBLE BAR",
  "1df0c;LATIN SMALL LETTER ;ESH WITH DOUBLE BAR AND CURL;TURNED T WITH CURL",
  "1df0e;LATIN LETTER ;INVERTED GLOTTAL STOP WITH CURL;STRETCHED C WITH CURL",
  "1df10;LATIN ;LETTER SMALL CAPITAL TURNED K;SMALL LETTER L WITH FISHHOOK",
  "1df12;LATIN SMALL LETTER ;DEZH DIGRAPH WITH PALATAL HOOK;L WITH BELT AND PALATAL HOOK",
  "1df14;LATIN SMALL LETTER ;ENG WITH PALATAL HOOK;TURNED R WITH PALATAL HOOK",
  "1df16;LATIN SMALL LETTER ;R WITH FISHHOOK AND PALATAL HOOK;TESH DIGRAPH WITH PALATAL HOOK",
  "1df18;LATIN SMALL LETTER ;EZH WITH PALATAL HOOK;DEZH DIGRAPH WITH RETROFLEX HOOK",
  "1df1a;LATIN SMALL LETTER ;I WITH STROKE AND RETROFLEX HOOK;O WITH RETROFLEX HOOK",
  "1df1c;LATIN SMALL LETTER ;TESH DIGRAPH WITH RETROFLEX HOOK;C WITH RETROFLEX HOOK;S WITH CURL",
  "1e000;COMBINING GLAGOLITIC LETTER ;AZU;BUKY;VEDE;GLAGOLI;DOBRO;YESTU;ZHIVETE",
  "1e008;COMBINING GLAGOLITIC LETTER ;ZEMLJA;IZHE;INITIAL IZHE;I;DJERVI;KAKO;LJUDIJE;MYSLITE",
  "1e010;COMBINING GLAGOLITIC LETTER ;NASHI;ONU;POKOJI;RITSI;SLOVO;TVRIDO;UKU;FRITU;HERU",
  "1e01b;COMBINING GLAGOLITIC LETTER ;SHTA;TSI;CHRIVI;SHA;YERU;YERI;YATI",
  "1e023;COMBINING GLAGOLITIC LETTER ;YU;SMALL YUS",
  "1e026;COMBINING GLAGOLITIC LETTER ;YO;IOTATED SMALL YUS;BIG YUS;IOTATED BIG YUS;FITA",
  "1e100;NYIAKENG PUACHUE HMONG LETTER ;MA;TSA;NTA;TA;HA;NA;XA;NKA;CA;LA;SA;ZA;NCA;NTSA;KA;DA;NYA",
  "1e111;NYIAKENG PUACHUE HMONG LETTER ;NRA;VA;NTXA;TXA;FA;RA;QA;YA;NQA;PA;XYA;NPA;DLA;NPLA;HAH",
  "1e120;NYIAKENG PUACHUE HMONG LETTER ;MLA;PLA;GA;RRA;A;AA;I;U;O;OO;E;EE;W",
  "1e130;NYIAKENG PUACHUE HMONG ;TONE-B;TONE-M;TONE-J;TONE-V;TONE-S;TONE-G;TONE-D;SIGN FOR PERSON",
  "1e138;NYIAKENG PUACHUE HMONG SIGN ;FOR THING;FOR LOCATION;FOR ANIMAL;FOR INVERTEBRATE;XW XW",
  "1e13d;;NYIAKENG PUACHUE HMONG SYLLABLE LENGTHENER",
  "1e140;NYIAKENG PUACHUE HMONG DIGIT ;ZERO;ONE;TWO;THREE;FOUR;FIVE;SIX;SEVEN;EIGHT;NINE",
  "1e14e;NYIAKENG PUACHUE HMONG ;LOGOGRAM NYAJ;CIRCLED CA",
  "1e290;TOTO LETTER ;PA;BA;TA;DA;KA;GA;MA;NA;NGA;SA;CHA;YA;WA;JA;HA;RA;LA;I;BREATHY I;IU",
  "1e2a4;TOTO LETTER ;BREATHY IU;U;E;BREATHY E;EO;BREATHY EO;O;AE;BREATHY AE;A",
  "1e2ae;;TOTO SIGN RISING TONE",
  "1e2c0;WANCHO LETTER ;AA;A;BA;CA;DA;GA;YA;PHA;LA;NA;PA;TA;THA;FA;SA;SHA;JA;ZA;WA;VA;KA;O;AU;RA",
  "1e2d8;WANCHO LETTER ;MA;KHA;HA;E;I;NGA;U;LLHA;TSA;TRA;ONG;AANG;ANG;ING;ON;EN;AAN;NYA;UEN;YIH",
  "1e2ec;WANCHO ;TONE TUP;TONE TUPNI;TONE KOI;TONE KOINI;DIGIT ZERO;DIGIT ONE;DIGIT TWO",
  "1e2f3;WANCHO DIGIT ;THREE;FOUR;FIVE;SIX;SEVEN;EIGHT;NINE",
  "1e2ff;;WANCHO NGUN SIGN",
  "1e7e0;ETHIOPIC SYLLABLE ;HHYA;HHYU;HHYI;HHYAA;HHYEE;HHYE;HHYO",
  "1e7e8;ETHIOPIC SYLLABLE ;GURAGE HHWA;HHWI;HHWEE;HHWE",
  "1e7ed;ETHIOPIC SYLLABLE GURAGE ;MWI;MWEE",
  "1e7f0;ETHIOPIC SYLLABLE GURAGE ;QWI;QWEE;QWE;BWI;BWEE;KWI;KWEE;KWE;GWI;GWEE;GWE;FWI;FWEE;PWI",
  "1e7fe;;ETHIOPIC SYLLABLE GURAGE PWEE",
  "1e800;MENDE KIKAKUI SYLLABLE ;M001 KI;M002 KA;M003 KU;M065 KEE;M095 KE;M076 KOO;M048 KO",
  "1e807;MENDE KIKAKUI SYLLABLE ;M179 KUA;M004 WI;M005 WA;M006 WU;M126 WEE;M118 WE;M114 WOO",
  "1e80e;MENDE KIKAKUI SYLLABLE ;M045 WO;M194 WUI;M143 WEI;M061 WVI;M049 WVA;M139 WVE;M007 MIN",
  "1e815;MENDE KIKAKUI SYLLABLE ;M008 MAN;M009 MUN;M059 MEN;M094 MON;M154 MUAN;M189 MUEN;M010 BI",
  "1e81c;MENDE KIKAKUI SYLLABLE ;M011 BA;M012 BU;M150 BEE;M097 BE;M103 BOO;M138 BO;M013 I;M014 A",
  "1e824;MENDE KIKAKUI SYLLABLE ;M015 U;M163 EE;M100 E;M165 OO;M147 O;M137 EI;M131 IN;M135 IN",
  "1e82c;MENDE KIKAKUI SYLLABLE ;M195 AN;M178 EN;M019 SI;M020 SA;M021 SU;M162 SEE;M116 SE",
  "1e833;MENDE KIKAKUI SYLLABLE ;M136 SOO;M079 SO;M196 SIA;M025 LI;M026 LA;M027 LU;M084 LEE",
  "1e83a;MENDE KIKAKUI SYLLABLE ;M073 LE;M054 LOO;M153 LO;M110 LONG LE;M016 DI;M017 DA;M018 DU",
  "1e841;MENDE KIKAKUI SYLLABLE ;M089 DEE;M180 DOO;M181 DO;M022 TI;M023 TA;M024 TU;M091 TEE",
  "1e848;MENDE KIKAKUI SYLLABLE ;M055 TE;M104 TOO;M069 TO;M028 JI;M029 JA;M030 JU;M157 JEE",
  "1e84f;MENDE KIKAKUI SYLLABLE ;M113 JE;M160 JOO;M063 JO;M175 LONG JO;M031 YI;M032 YA;M033 YU",
  "1e856;MENDE KIKAKUI SYLLABLE ;M109 YEE;M080 YE;M141 YOO;M121 YO;M034 FI;M035 FA;M036 FU",
  "1e85d;MENDE KIKAKUI SYLLABLE ;M078 FEE;M075 FE;M133 FOO;M088 FO;M197 FUA;M101 FAN;M037 NIN",
  "1e864;MENDE KIKAKUI SYLLABLE ;M038 NAN;M039 NUN;M117 NEN;M169 NON;M176 HI;M041 HA;M186 HU",
  "1e86b;MENDE KIKAKUI SYLLABLE ;M040 HEE;M096 HE;M042 HOO;M140 HO;M083 HEEI;M128 HOOU;M053 HIN",
  "1e872;MENDE KIKAKUI SYLLABLE ;M130 HAN;M087 HUN;M052 HEN;M193 HON;M046 HUAN;M090 NGGI",
  "1e878;MENDE KIKAKUI SYLLABLE ;M043 NGGA;M082 NGGU;M115 NGGEE;M146 NGGE;M156 NGGOO;M120 NGGO",
  "1e87e;MENDE KIKAKUI SYLLABLE ;M159 NGGAA;M127 NGGUA;M086 LONG NGGE;M106 LONG NGGOO",
  "1e882;MENDE KIKAKUI SYLLABLE ;M183 LONG NGGO;M155 GI;M111 GA;M168 GU;M190 GEE;M166 GUEI",
  "1e888;MENDE KIKAKUI SYLLABLE ;M167 GUAN;M184 NGEN;M057 NGON;M177 NGUAN;M068 PI;M099 PA;M050 PU",
  "1e88f;MENDE KIKAKUI SYLLABLE ;M081 PEE;M051 PE;M102 POO;M066 PO;M145 MBI;M062 MBA;M122 MBU",
  "1e896;MENDE KIKAKUI SYLLABLE ;M047 MBEE;M188 MBEE;M072 MBE;M172 MBOO;M174 MBO;M187 MBUU",
  "1e89c;MENDE KIKAKUI SYLLABLE ;M161 LONG MBE;M105 LONG MBOO;M142 LONG MBO;M132 KPI;M092 KPA",
  "1e8a1;MENDE KIKAKUI SYLLABLE ;M074 KPU;M044 KPEE;M108 KPE;M112 KPOO;M158 KPO;M124 GBI;M056 GBA",
  "1e8a8;MENDE KIKAKUI SYLLABLE ;M148 GBU;M093 GBEE;M107 GBE;M071 GBOO;M070 GBO;M171 RA;M123 NDI",
  "1e8af;MENDE KIKAKUI SYLLABLE ;M129 NDA;M125 NDU;M191 NDEE;M119 NDE;M067 NDOO;M064 NDO;M152 NJA",
  "1e8b6;MENDE KIKAKUI SYLLABLE ;M192 NJU;M149 NJEE;M134 NJOO;M182 VI;M185 VA;M151 VU;M173 VEE",
  "1e8bd;MENDE KIKAKUI SYLLABLE ;M085 VE;M144 VOO;M077 VO;M164 NYIN;M058 NYAN;M170 NYUN;M098 NYEN",
  "1e8c4;;MENDE KIKAKUI SYLLABLE M060 NYON",
  "1e8c7;MENDE KIKAKUI DIGIT ;ONE;TWO;THREE;FOUR;FIVE;SIX;SEVEN;EIGHT;NINE",
  "1e8d0;MENDE KIKAKUI COMBINING NUMBER ;TEENS;TENS;HUNDREDS;THOUSANDS;TEN THOUSANDS",
  "1e8d5;MENDE KIKAKUI COMBINING NUMBER ;HUNDRED THOUSANDS;MILLIONS",
  "1e900;ADLAM CAPITAL LETTER ;ALIF;DAALI;LAAM;MIIM;BA;SINNYIIYHE;PE;BHE;RA;E;FA;I;O;DHA;YHE;WAW",
  "1e910;ADLAM CAPITAL LETTER ;NUN;KAF;YA;U;JIIM;CHI;HA;QAAF;GA;NYA;TU;NHA;VA;KHA;GBE;ZAL;KPO;SHA",
  "1e922;ADLAM SMALL LETTER ;ALIF;DAALI;LAAM;MIIM;BA;SINNYIIYHE;PE;BHE;RA;E;FA;I;O;DHA;YHE;WAW",
  "1e932;ADLAM SMALL LETTER ;NUN;KAF;YA;U;JIIM;CHI;HA;QAAF;GA;NYA;TU;NHA;VA;KHA;GBE;ZAL;KPO;SHA",
  "1e944;ADLAM ;ALIF LENGTHENER;VOWEL LENGTHENER;GEMINATION MARK;HAMZA;CONSONANT MODIFIER",
  "1e949;ADLAM ;GEMINATE CONSONANT MODIFIER;NUKTA;NASALIZATION MARK",
  "1e950;ADLAM DIGIT ;ZERO;ONE;TWO;THREE;FOUR;FIVE;SIX;SEVEN;EIGHT;NINE",
  "1e95e;ADLAM INITIAL ;EXCLAMATION MARK;QUESTION MARK",
  "1ec71;INDIC SIYAQ NUMBER ;ONE;TWO;THREE;FOUR;FIVE;SIX;SEVEN;EIGHT;NINE;TEN;TWENTY;THIRTY;FORTY",
  "1ec7e;INDIC SIYAQ NUMBER ;FIFTY;SIXTY;SEVENTY;EIGHTY;NINETY;ONE HUNDRED;TWO HUNDRED",
  "1ec85;INDIC SIYAQ NUMBER ;THREE HUNDRED;FOUR HUNDRED;FIVE HUNDRED;SIX HUNDRED;SEVEN HUNDRED",
  "1ec8a;INDIC SIYAQ NUMBER ;EIGHT HUNDRED;NINE HUNDRED;ONE THOUSAND;TWO THOUSAND;THREE THOUSAND",
  "1ec8f;INDIC SIYAQ NUMBER ;FOUR THOUSAND;FIVE THOUSAND;SIX THOUSAND;SEVEN THOUSAND",
  "1ec93;INDIC SIYAQ NUMBER ;EIGHT THOUSAND;NINE THOUSAND;TEN THOUSAND;TWENTY THOUSAND",
  "1ec97;INDIC SIYAQ NUMBER ;THIRTY THOUSAND;FORTY THOUSAND;FIFTY THOUSAND;SIXTY THOUSAND",
  "1ec9b;INDIC SIYAQ NUMBER ;SEVENTY THOUSAND;EIGHTY THOUSAND;NINETY THOUSAND;LAKH;LAKHAN",
  "1eca0;INDIC SIYAQ ;LAKH MARK;NUMBER KAROR;NUMBER KARORAN;NUMBER PREFIXED ONE",
  "1eca4;INDIC SIYAQ NUMBER PREFIXED ;TWO;THREE;FOUR;FIVE;SIX;SEVEN;EIGHT;NINE",
  "1ecac;INDIC SIYAQ ;PLACEHOLDER;FRACTION ONE QUARTER;FRACTION ONE HALF;FRACTION THREE QUARTERS",
  "1ecb0;INDIC SIYAQ ;RUPEE MARK;NUMBER ALTERNATE ONE;NUMBER ALTERNATE TWO",
  "1ecb3;INDIC SIYAQ ;NUMBER ALTERNATE TEN THOUSAND;ALTERNATE LAKH MARK",
  "1ed01;OTTOMAN SIYAQ NUMBER ;ONE;TWO;THREE;FOUR;FIVE;SIX;SEVEN;EIGHT;NINE;TEN;TWENTY;THIRTY",
  "1ed0d;OTTOMAN SIYAQ NUMBER ;FORTY;FIFTY;SIXTY;SEVENTY;EIGHTY;NINETY;ONE HUNDRED;TWO HUNDRED",
  "1ed15;OTTOMAN SIYAQ NUMBER ;THREE HUNDRED;FOUR HUNDRED;FIVE HUNDRED;SIX HUNDRED;SEVEN HUNDRED",
  "1ed1a;OTTOMAN SIYAQ NUMBER ;EIGHT HUNDRED;NINE HUNDRED;ONE THOUSAND;TWO THOUSAND",
  "1ed1e;OTTOMAN SIYAQ NUMBER ;THREE THOUSAND;FOUR THOUSAND;FIVE THOUSAND;SIX THOUSAND",
  "1ed22;OTTOMAN SIYAQ NUMBER ;SEVEN THOUSAND;EIGHT THOUSAND;NINE THOUSAND;TEN THOUSAND",
  "1ed26;OTTOMAN SIYAQ NUMBER ;TWENTY THOUSAND;THIRTY THOUSAND;FORTY THOUSAND;FIFTY THOUSAND",
  "1ed2a;OTTOMAN SIYAQ NUMBER ;SIXTY THOUSAND;SEVENTY THOUSAND;EIGHTY THOUSAND;NINETY THOUSAND",
  "1ed2e;OTTOMAN SIYAQ ;MARRATAN;ALTERNATE NUMBER TWO;ALTERNATE NUMBER THREE",
  "1ed31;OTTOMAN SIYAQ ALTERNATE NUMBER ;FOUR;FIVE;SIX;SEVEN;EIGHT;NINE;TEN;FOUR HUNDRED",
  "1ed39;OTTOMAN SIYAQ ALTERNATE NUMBER ;SIX HUNDRED;TWO THOUSAND;TEN THOUSAND",
  "1ed3c;OTTOMAN SIYAQ FRACTION ONE ;HALF;SIXTH",
  "1ee00;ARABIC MATHEMATICAL ;ALEF;BEH;JEEM;DAL",
  "1ee05;ARABIC MATHEMATICAL ;WAW;ZAIN;HAH;TAH;YEH;KAF;LAM;MEEM;NOON;SEEN;AIN;FEH;SAD;QAF;REH",
  "1ee14;ARABIC MATHEMATICAL ;SHEEN;TEH;THEH;KHAH;THAL;DAD;ZAH;GHAIN;DOTLESS BEH;DOTLESS NOON",
  "1ee1e;ARABIC MATHEMATICAL DOTLESS ;FEH;QAF",
  "1ee21;ARABIC MATHEMATICAL INITIAL ;BEH;JEEM",
  "1ee24;;ARABIC MATHEMATICAL INITIAL HEH",
  "1ee27;;ARABIC MATHEMATICAL INITIAL HAH",
  "1ee29;ARABIC MATHEMATICAL INITIAL ;YEH;KAF;LAM;MEEM;NOON;SEEN;AIN;FEH;SAD;QAF",
  "1ee34;ARABIC MATHEMATICAL INITIAL ;SHEEN;TEH;THEH;KHAH",
  "1ee39;;ARABIC MATHEMATICAL INITIAL DAD",
  "1ee3b;;ARABIC MATHEMATICAL INITIAL GHAIN",
  "1ee42;;ARABIC MATHEMATICAL TAILED JEEM",
  "1ee47;;ARABIC MATHEMATICAL TAILED HAH",
  "1ee49;;ARABIC MATHEMATICAL TAILED YEH",
  "1ee4b;;ARABIC MATHEMATICAL TAILED LAM",
  "1ee4d;ARABIC MATHEMATICAL TAILED ;NOON;SEEN;AIN",
  "1ee51;ARABIC MATHEMATICAL TAILED ;SAD;QAF",
  "1ee54;;ARABIC MATHEMATICAL TAILED SHEEN",
  "1ee57;;ARABIC MATHEMATICAL TAILED KHAH",
  "1ee59;;ARABIC MATHEMATICAL TAILED DAD",
  "1ee5b;;ARABIC MATHEMATICAL TAILED GHAIN",
  "1ee5d;;ARABIC MATHEMATICAL TAILED DOTLESS NOON",
  "1ee5f;;ARABIC MATHEMATICAL TAILED DOTLESS QAF",
  "1ee61;ARABIC MATHEMATICAL STRETCHED ;BEH;JEEM",
  "1ee64;;ARABIC MATHEMATICAL STRETCHED HEH",
  "1ee67;ARABIC MATHEMATICAL STRETCHED ;HAH;TAH;YEH;KAF",
  "1ee6c;ARABIC MATHEMATICAL STRETCHED ;MEEM;NOON;SEEN;AIN;FEH;SAD;QAF",
  "1ee74;ARABIC MATHEMATICAL STRETCHED ;SHEEN;TEH;THEH;KHAH",
  "1ee79;ARABIC MATHEMATICAL STRETCHED ;DAD;ZAH;GHAIN;DOTLESS BEH",
  "1ee7e;;ARABIC MATHEMATICAL STRETCHED DOTLESS FEH",
  "1ee80;ARABIC MATHEMATICAL LOOPED ;ALEF;BEH;JEEM;DAL;HEH;WAW;ZAIN;HAH;TAH;YEH",
  "1ee8b;ARABIC MATHEMATICAL LOOPED ;LAM;MEEM;NOON;SEEN;AIN;FEH;SAD;QAF;REH;SHEEN;TEH;THEH;KHAH",
  "1ee98;ARABIC MATHEMATICAL LOOPED ;THAL;DAD;ZAH;GHAIN",
  "1eea1;ARABIC MATHEMATICAL DOUBLE-STRUCK ;BEH;JEEM;DAL",
  "1eea5;ARABIC MATHEMATICAL DOUBLE-STRUCK ;WAW;ZAIN;HAH;TAH;YEH",
  "1eeab;ARABIC MATHEMATICAL DOUBLE-STRUCK ;LAM;MEEM;NOON;SEEN;AIN;FEH;SAD;QAF;REH;SHEEN;TEH;THEH",
  "1eeb7;ARABIC MATHEMATICAL DOUBLE-STRUCK ;KHAH;THAL;DAD;ZAH;GHAIN",
  "1eef0;ARABIC MATHEMATICAL OPERATOR ;MEEM WITH HAH WITH TATWEEL;HAH WITH DAL",
  "1f000;MAHJONG TILE ;EAST WIND;SOUTH WIND;WEST WIND;NORTH WIND;RED DRAGON;GREEN DRAGON",
  "1f006;MAHJONG TILE ;WHITE DRAGON;ONE OF CHARACTERS;TWO OF CHARACTERS;THREE OF CHARACTERS",
  "1f00a;MAHJONG TILE ;FOUR OF CHARACTERS;FIVE OF CHARACTERS;SIX OF CHARACTERS",
  "1f00d;MAHJONG TILE ;SEVEN OF CHARACTERS;EIGHT OF CHARACTERS;NINE OF CHARACTERS;ONE OF BAMBOOS",
  "1f011;MAHJONG TILE ;TWO OF BAMBOOS;THREE OF BAMBOOS;FOUR OF BAMBOOS;FIVE OF BAMBOOS",
  "1f015;MAHJONG TILE ;SIX OF BAMBOOS;SEVEN OF BAMBOOS;EIGHT OF BAMBOOS;NINE OF BAMBOOS",
  "1f019;MAHJONG TILE ;ONE OF CIRCLES;TWO OF CIRCLES;THREE OF CIRCLES;FOUR OF CIRCLES",
  "1f01d;MAHJONG TILE ;FIVE OF CIRCLES;SIX OF CIRCLES;SEVEN OF CIRCLES;EIGHT OF CIRCLES",
  "1f021;MAHJONG TILE ;NINE OF CIRCLES;PLUM;ORCHID;BAMBOO;CHRYSANTHEMUM;SPRING;SUMMER;AUTUMN",
  "1f029;MAHJONG TILE ;WINTER;JOKER;BACK",
  "1f030;DOMINO TILE ;HORIZONTAL BACK;HORIZONTAL-00-00;HORIZONTAL-00-01;HORIZONTAL-00-02",
  "1f034;DOMINO TILE HORIZONTAL-;00-03;00-04;00-05;00-06;01-00;01-01;01-02;01-03;01-04;01-05",
  "1f03e;DOMINO TILE HORIZONTAL-;01-06;02-00;02-01;02-02;02-03;02-04;02-05;02-06;03-00;03-01",
  "1f048;DOMINO TILE HORIZONTAL-;03-02;03-03;03-04;03-05;03-06;04-00;04-01;04-02;04-03;04-04",
  "1f052;DOMINO TILE HORIZONTAL-;04-05;04-06;05-00;05-01;05-02;05-03;05-04;05-05;05-06;06-00",
  "1f05c;DOMINO TILE HORIZONTAL-06-;01;02;03;04;05;06",
  "1f062;DOMINO TILE ;VERTICAL BACK;VERTICAL-00-00;VERTICAL-00-01;VERTICAL-00-02;VERTICAL-00-03",
  "1f067;DOMINO TILE VERTICAL-;00-04;00-05;00-06;01-00;01-01;01-02;01-03;01-04;01-05;01-06;02-00",
  "1f072;DOMINO TILE VERTICAL-;02-01;02-02;02-03;02-04;02-05;02-06;03-00;03-01;03-02;03-03;03-04",
  "1f07d;DOMINO TILE VERTICAL-;03-05;03-06;04-00;04-01;04-02;04-03;04-04;04-05;04-06;05-00;05-01",
  "1f088;DOMINO TILE VERTICAL-;05-02;05-03;05-04;05-05;05-06;06-00;06-01;06-02;06-03;06-04;06-05",
  "1f093;;DOMINO TILE VERTICAL-06-06",
  "1f0a0;PLAYING CARD ;BACK;ACE OF SPADES;TWO OF SPADES;THREE OF SPADES;FOUR OF SPADES",
  "1f0a5;PLAYING CARD ;FIVE OF SPADES;SIX OF SPADES;SEVEN OF SPADES;EIGHT OF SPADES",
  "1f0a9;PLAYING CARD ;NINE OF SPADES;TEN OF SPADES;JACK OF SPADES;KNIGHT OF SPADES",
  "1f0ad;PLAYING CARD ;QUEEN OF SPADES;KING OF SPADES",
  "1f0b1;PLAYING CARD ;ACE OF HEARTS;TWO OF HEARTS;THREE OF HEARTS;FOUR OF HEARTS;FIVE OF HEARTS",
  "1f0b6;PLAYING CARD ;SIX OF HEARTS;SEVEN OF HEARTS;EIGHT OF HEARTS;NINE OF HEARTS;TEN OF HEARTS",
  "1f0bb;PLAYING CARD ;JACK OF HEARTS;KNIGHT OF HEARTS;QUEEN OF HEARTS;KING OF HEARTS;RED JOKER",
  "1f0c1;PLAYING CARD ;ACE OF DIAMONDS;TWO OF DIAMONDS;THREE OF DIAMONDS;FOUR OF DIAMONDS",
  "1f0c5;PLAYING CARD ;FIVE OF DIAMONDS;SIX OF DIAMONDS;SEVEN OF DIAMONDS;EIGHT OF DIAMONDS",
  "1f0c9;PLAYING CARD ;NINE OF DIAMONDS;TEN OF DIAMONDS;JACK OF DIAMONDS;KNIGHT OF DIAMONDS",
  "1f0cd;PLAYING CARD ;QUEEN OF DIAMONDS;KING OF DIAMONDS;BLACK JOKER",
  "1f0d1;PLAYING CARD ;ACE OF CLUBS;TWO OF CLUBS;THREE OF CLUBS;FOUR OF CLUBS;FIVE OF CLUBS",
  "1f0d6;PLAYING CARD ;SIX OF CLUBS;SEVEN OF CLUBS;EIGHT OF CLUBS;NINE OF CLUBS;TEN OF CLUBS",
  "1f0db;PLAYING CARD ;JACK OF CLUBS;KNIGHT OF CLUBS;QUEEN OF CLUBS;KING OF CLUBS;WHITE JOKER",
  "1f0e0;PLAYING CARD ;FOOL;TRUMP-1;TRUMP-2;TRUMP-3;TRUMP-4;TRUMP-5;TRUMP-6;TRUMP-7;TRUMP-8",
  "1f0e9;PLAYING CARD TRUMP-;9;10;11;12;13;14;15;16;17;18;19;20;21",
  "1f100;DIGIT ;ZERO FULL STOP;ZERO COMMA;ONE COMMA;TWO COMMA;THREE COMMA;FOUR COMMA;FIVE COMMA",
  "1f107;DIGIT ;SIX COMMA;SEVEN COMMA;EIGHT COMMA;NINE COMMA",
  "1f10b;DINGBAT ;CIRCLED SANS-SERIF DIGIT ZERO;NEGATIVE CIRCLED SANS-SERIF DIGIT ZERO",
  "1f10d;CIRCLED ;ZERO WITH SLASH;ANTICLOCKWISE ARROW;DOLLAR SIGN WITH OVERLAID BACKSLASH",
  "1f110;PARENTHESIZED LATIN CAPITAL LETTER ;A;B;C;D;E;F;G;H;I;J;K;L;M;N;O;P;Q;R;S;T;U;V;W;X;Y;Z",
  "1f12a;;TORTOISE SHELL BRACKETED LATIN CAPITAL LETTER S;CIRCLED ITALIC LATIN CAPITAL LETTER C",
  "1f12c;;CIRCLED ITALIC LATIN CAPITAL LETTER R;CIRCLED CD;CIRCLED WZ;COPYLEFT SYMBOL",
  "1f130;SQUARED LATIN CAPITAL LETTER ;A;B;C;D;E;F;G;H;I;J;K;L;M;N;O;P;Q;R;S;T;U;V;W;X;Y;Z",
  "1f14a;SQUARED ;HV;MV;SD;SS;PPV;WC",
  "1f150;NEGATIVE CIRCLED LATIN CAPITAL LETTER ;A;B;C;D;E;F;G;H;I;J;K;L;M;N;O;P;Q;R;S;T;U;V;W;X;Y",
  "1f169;;NEGATIVE CIRCLED LATIN CAPITAL LETTER Z;RAISED MC SIGN;RAISED MD SIGN;RAISED MR SIGN",
  "1f16d;CIRCLED ;CC;C WITH OVERLAID BACKSLASH;HUMAN FIGURE",
  "1f170;NEGATIVE SQUARED LATIN CAPITAL LETTER ;A;B;C;D;E;F;G;H;I;J;K;L;M;N;O;P;Q;R;S;T;U;V;W;X;Y",
  "1f189;;NEGATIVE SQUARED LATIN CAPITAL LETTER Z;CROSSED NEGATIVE SQUARED LATIN CAPITAL LETTER P",
  "1f18b;NEGATIVE SQUARED ;IC;PA;SA;AB;WC",
  "1f190;;SQUARE DJ;SQUARED CL;SQUARED COOL;SQUARED FREE;SQUARED ID;SQUARED NEW;SQUARED NG",
  "1f197;SQUARED ;OK;SOS;UP WITH EXCLAMATION MARK;VS;THREE D;SECOND SCREEN;TWO K;FOUR K;EIGHT K",
  "1f1a0;SQUARED ;FIVE POINT ONE;SEVEN POINT ONE;TWENTY-TWO POINT TWO;SIXTY P",
  "1f1a4;SQUARED ;ONE HUNDRED TWENTY P;LATIN SMALL LETTER D;HC;HDR;HI-RES;LOSSLESS;SHV;UHD;VOD",
  "1f1ad;;MASK WORK SYMBOL",
  "1f1e6;REGIONAL INDICATOR SYMBOL LETTER ;A;B;C;D;E;F;G;H;I;J;K;L;M;N;O;P;Q;R;S;T;U;V;W;X;Y;Z",
  "1f200;;SQUARE HIRAGANA HOKA;SQUARED KATAKANA KOKO;SQUARED KATAKANA SA",
  "1f210;SQUARED CJK UNIFIED IDEOGRAPH-;624B;5B57;53CC",
  "1f213;SQUARED ;KATAKANA DE;CJK UNIFIED IDEOGRAPH-4E8C;CJK UNIFIED IDEOGRAPH-591A",
  "1f216;SQUARED CJK UNIFIED IDEOGRAPH-;89E3;5929;4EA4;6620;7121;6599;524D;5F8C;518D;65B0;521D",
  "1f221;SQUARED CJK UNIFIED IDEOGRAPH-;7D42;751F;8CA9;58F0;5439;6F14;6295;6355;4E00;4E09;904A",
  "1f22c;SQUARED CJK UNIFIED IDEOGRAPH-;5DE6;4E2D;53F3;6307;8D70;6253;7981;7A7A;5408;6E80;6709",
  "1f237;SQUARED CJK UNIFIED IDEOGRAPH-;6708;7533;5272;55B6;914D",
  "1f240;TORTOISE SHELL BRACKETED CJK UNIFIED IDEOGRAPH-;672C;4E09;4E8C;5B89;70B9;6253;76D7;52DD",
  "1f248;;TORTOISE SHELL BRACKETED CJK UNIFIED IDEOGRAPH-6557",
  "1f250;CIRCLED IDEOGRAPH ;ADVANTAGE;ACCEPT",
  "1f260;ROUNDED SYMBOL FOR ;FU;LU;SHOU;XI;SHUANGXI;CAI",
  "1f300;;CYCLONE;FOGGY;CLOSED UMBRELLA;NIGHT WITH STARS;SUNRISE OVER MOUNTAINS;SUNRISE",
  "1f306;;CITYSCAPE AT DUSK;SUNSET OVER BUILDINGS;RAINBOW;BRIDGE AT NIGHT;WATER WAVE;VOLCANO",
  "1f30c;;MILKY WAY;EARTH GLOBE EUROPE-AFRICA;EARTH GLOBE AMERICAS;EARTH GLOBE ASIA-AUSTRALIA",
  "1f310;;GLOBE WITH MERIDIANS;NEW MOON SYMBOL;WAXING CRESCENT MOON SYMBOL",
  "1f313;;FIRST QUARTER MOON SYMBOL;WAXING GIBBOUS MOON SYMBOL;FULL MOON SYMBOL",
  "1f316;;WANING GIBBOUS MOON SYMBOL;LAST QUARTER MOON SYMBOL;WANING CRESCENT MOON SYMBOL",
  "1f319;;CRESCENT MOON;NEW MOON WITH FACE;FIRST QUARTER MOON WITH FACE",
  "1f31c;;LAST QUARTER MOON WITH FACE;FULL MOON WITH FACE;SUN WITH FACE;GLOWING STAR",
  "1f320;;SHOOTING STAR;THERMOMETER;BLACK DROPLET;WHITE SUN;WHITE SUN WITH SMALL CLOUD",
  "1f325;;WHITE SUN BEHIND CLOUD;WHITE SUN BEHIND CLOUD WITH RAIN;CLOUD WITH RAIN;CLOUD WITH SNOW",
  "1f329;;CLOUD WITH LIGHTNING;CLOUD WITH TORNADO;FOG;WIND BLOWING FACE;HOT DOG;TACO;BURRITO",
  "1f330;;CHESTNUT;SEEDLING;EVERGREEN TREE;DECIDUOUS TREE;PALM TREE;CACTUS;HOT PEPPER;TULIP",
  "1f338;;CHERRY BLOSSOM;ROSE;HIBISCUS;SUNFLOWER;BLOSSOM;EAR OF MAIZE;EAR OF RICE;HERB",
  "1f340;;FOUR LEAF CLOVER;MAPLE LEAF;FALLEN LEAF;LEAF FLUTTERING IN WIND;MUSHROOM;TOMATO",
  "1f346;;AUBERGINE;GRAPES;MELON;WATERMELON;TANGERINE;LEMON;BANANA;PINEAPPLE;RED APPLE",
  "1f34f;;GREEN APPLE;PEAR;PEACH;CHERRIES;STRAWBERRY;HAMBURGER;SLICE OF PIZZA;MEAT ON BONE",
  "1f357;;POULTRY LEG;RICE CRACKER;RICE BALL;COOKED RICE;CURRY AND RICE;STEAMING BOWL;SPAGHETTI",
  "1f35e;;BREAD;FRENCH FRIES;ROASTED SWEET POTATO;DANGO;ODEN;SUSHI;FRIED SHRIMP",
  "1f365;;FISH CAKE WITH SWIRL DESIGN;SOFT ICE CREAM;SHAVED ICE;ICE CREAM;DOUGHNUT;COOKIE",
  "1f36b;;CHOCOLATE BAR;CANDY;LOLLIPOP;CUSTARD;HONEY POT;SHORTCAKE;BENTO BOX;POT OF FOOD;COOKING",
  "1f374;;FORK AND KNIFE;TEACUP WITHOUT HANDLE;SAKE BOTTLE AND CUP;WINE GLASS;COCKTAIL GLASS",
  "1f379;;TROPICAL DRINK;BEER MUG;CLINKING BEER MUGS;BABY BOTTLE;FORK AND KNIFE WITH PLATE",
  "1f37e;;BOTTLE WITH POPPING CORK;POPCORN;RIBBON;WRAPPED PRESENT;BIRTHDAY CAKE;JACK-O-LANTERN",
  "1f384;;CHRISTMAS TREE;FATHER CHRISTMAS;FIREWORKS;FIREWORK SPARKLER;BALLOON;PARTY POPPER",
  "1f38a;;CONFETTI BALL;TANABATA TREE;CROSSED FLAGS;PINE DECORATION;JAPANESE DOLLS;CARP STREAMER",
  "1f390;;WIND CHIME;MOON VIEWING CEREMONY;SCHOOL SATCHEL;GRADUATION CAP",
  "1f394;;HEART WITH TIP ON THE LEFT;BOUQUET OF FLOWERS;MILITARY MEDAL;REMINDER RIBBON",
  "1f398;;MUSICAL KEYBOARD WITH JACKS;STUDIO MICROPHONE;LEVEL SLIDER;CONTROL KNOBS",
  "1f39c;;BEAMED ASCENDING MUSICAL NOTES;BEAMED DESCENDING MUSICAL NOTES;FILM FRAMES",
  "1f39f;;ADMISSION TICKETS;CAROUSEL HORSE;FERRIS WHEEL;ROLLER COASTER;FISHING POLE AND FISH",
  "1f3a4;;MICROPHONE;MOVIE CAMERA;CINEMA;HEADPHONE;ARTIST PALETTE;TOP HAT;CIRCUS TENT;TICKET",
  "1f3ac;;CLAPPER BOARD;PERFORMING ARTS;VIDEO GAME;DIRECT HIT;SLOT MACHINE;BILLIARDS;GAME DIE",
  "1f3b3;;BOWLING;FLOWER PLAYING CARDS;MUSICAL NOTE;MULTIPLE MUSICAL NOTES;SAXOPHONE;GUITAR",
  "1f3b9;;MUSICAL KEYBOARD;TRUMPET;VIOLIN;MUSICAL SCORE;RUNNING SHIRT WITH SASH",
  "1f3be;;TENNIS RACQUET AND BALL;SKI AND SKI BOOT;BASKETBALL AND HOOP;CHEQUERED FLAG;SNOWBOARDER",
  "1f3c3;;RUNNER;SURFER;SPORTS MEDAL;TROPHY;HORSE RACING;AMERICAN FOOTBALL;RUGBY FOOTBALL;SWIMMER",
  "1f3cb;;WEIGHT LIFTER;GOLFER;RACING MOTORCYCLE;RACING CAR;CRICKET BAT AND BALL;VOLLEYBALL",
  "1f3d1;;FIELD HOCKEY STICK AND BALL;ICE HOCKEY STICK AND PUCK;TABLE TENNIS PADDLE AND BALL",
  "1f3d4;;SNOW CAPPED MOUNTAIN;CAMPING;BEACH WITH UMBRELLA;BUILDING CONSTRUCTION;HOUSE BUILDINGS",
  "1f3d9;;CITYSCAPE;DERELICT HOUSE BUILDING;CLASSICAL BUILDING;DESERT;DESERT ISLAND;NATIONAL PARK",
  "1f3df;;STADIUM;HOUSE BUILDING;HOUSE WITH GARDEN;OFFICE BUILDING;JAPANESE POST OFFICE",
  "1f3e4;;EUROPEAN POST OFFICE;HOSPITAL;BANK;AUTOMATED TELLER MACHINE;HOTEL;LOVE HOTEL",
  "1f3ea;;CONVENIENCE STORE;SCHOOL;DEPARTMENT STORE;FACTORY;IZAKAYA LANTERN;JAPANESE CASTLE",
  "1f3f0;;EUROPEAN CASTLE;WHITE PENNANT;BLACK PENNANT;WAVING WHITE FLAG;WAVING BLACK FLAG;ROSETTE",
  "1f3f6;;BLACK ROSETTE;LABEL;BADMINTON RACQUET AND SHUTTLECOCK;BOW AND ARROW;AMPHORA",
  "1f3fb;EMOJI MODIFIER FITZPATRICK TYPE-;1-2;3;4;5;6",
  "1f400;;RAT;MOUSE;OX;WATER BUFFALO;COW;TIGER;LEOPARD;RABBIT;CAT;DRAGON;CROCODILE;WHALE;SNAIL",
  "1f40d;;SNAKE;HORSE;RAM;GOAT;SHEEP;MONKEY;ROOSTER;CHICKEN;DOG;PIG;BOAR;ELEPHANT;OCTOPUS",
  "1f41a;;SPIRAL SHELL;BUG;ANT;HONEYBEE;LADY BEETLE;FISH;TROPICAL FISH;BLOWFISH;TURTLE",
  "1f423;;HATCHING CHICK;BABY CHICK;FRONT-FACING BABY CHICK;BIRD;PENGUIN;KOALA;POODLE",
  "1f42a;;DROMEDARY CAMEL;BACTRIAN CAMEL;DOLPHIN;MOUSE FACE;COW FACE;TIGER FACE;RABBIT FACE",
  "1f431;;CAT FACE;DRAGON FACE;SPOUTING WHALE;HORSE FACE;MONKEY FACE;DOG FACE;PIG FACE;FROG FACE",
  "1f439;;HAMSTER FACE;WOLF FACE;BEAR FACE;PANDA FACE;PIG NOSE;PAW PRINTS;CHIPMUNK;EYES;EYE;EAR",
  "1f443;;NOSE;MOUTH;TONGUE;WHITE UP POINTING BACKHAND INDEX;WHITE DOWN POINTING BACKHAND INDEX",
  "1f448;;WHITE LEFT POINTING BACKHAND INDEX;WHITE RIGHT POINTING BACKHAND INDEX;FISTED HAND SIGN",
  "1f44b;;WAVING HAND SIGN;OK HAND SIGN;THUMBS UP SIGN;THUMBS DOWN SIGN;CLAPPING HANDS SIGN",
  "1f450;;OPEN HANDS SIGN;CROWN;WOMANS HAT;EYEGLASSES;NECKTIE;T-SHIRT;JEANS;DRESS;KIMONO;BIKINI",
  "1f45a;;WOMANS CLOTHES;PURSE;HANDBAG;POUCH;MANS SHOE;ATHLETIC SHOE;HIGH-HEELED SHOE",
  "1f461;;WOMANS SANDAL;WOMANS BOOTS;FOOTPRINTS;BUST IN SILHOUETTE;BUSTS IN SILHOUETTE;BOY;GIRL",
  "1f468;;MAN;WOMAN;FAMILY;MAN AND WOMAN HOLDING HANDS;TWO MEN HOLDING HANDS",
  "1f46d;;TWO WOMEN HOLDING HANDS;POLICE OFFICER;WOMAN WITH BUNNY EARS;BRIDE WITH VEIL",
  "1f471;;PERSON WITH BLOND HAIR;MAN WITH GUA PI MAO;MAN WITH TURBAN;OLDER MAN;OLDER WOMAN;BABY",
  "1f477;;CONSTRUCTION WORKER;PRINCESS;JAPANESE OGRE;JAPANESE GOBLIN;GHOST;BABY ANGEL",
  "1f47d;;EXTRATERRESTRIAL ALIEN;ALIEN MONSTER;IMP;SKULL;INFORMATION DESK PERSON;GUARDSMAN;DANCER",
  "1f484;;LIPSTICK;NAIL POLISH;FACE MASSAGE;HAIRCUT;BARBER POLE;SYRINGE;PILL;KISS MARK",
  "1f48c;;LOVE LETTER;RING;GEM STONE;KISS;BOUQUET;COUPLE WITH HEART;WEDDING;BEATING HEART",
  "1f494;;BROKEN HEART;TWO HEARTS;SPARKLING HEART;GROWING HEART;HEART WITH ARROW;BLUE HEART",
  "1f49a;;GREEN HEART;YELLOW HEART;PURPLE HEART;HEART WITH RIBBON;REVOLVING HEARTS",
  "1f49f;;HEART DECORATION;DIAMOND SHAPE WITH A DOT INSIDE;ELECTRIC LIGHT BULB;ANGER SYMBOL;BOMB",
  "1f4a4;;SLEEPING SYMBOL;COLLISION SYMBOL;SPLASHING SWEAT SYMBOL;DROPLET;DASH SYMBOL;PILE OF POO",
  "1f4aa;;FLEXED BICEPS;DIZZY SYMBOL;SPEECH BALLOON;THOUGHT BALLOON;WHITE FLOWER",
  "1f4af;;HUNDRED POINTS SYMBOL;MONEY BAG;CURRENCY EXCHANGE;HEAVY DOLLAR SIGN;CREDIT CARD",
  "1f4b4;BANKNOTE WITH ;YEN SIGN;DOLLAR SIGN;EURO SIGN;POUND SIGN",
  "1f4b8;;MONEY WITH WINGS;CHART WITH UPWARDS TREND AND YEN SIGN;SEAT;PERSONAL COMPUTER;BRIEFCASE",
  "1f4bd;;MINIDISC;FLOPPY DISK;OPTICAL DISC;DVD;FILE FOLDER;OPEN FILE FOLDER;PAGE WITH CURL",
  "1f4c4;;PAGE FACING UP;CALENDAR;TEAR-OFF CALENDAR;CARD INDEX;CHART WITH UPWARDS TREND",
  "1f4c9;;CHART WITH DOWNWARDS TREND;BAR CHART;CLIPBOARD;PUSHPIN;ROUND PUSHPIN;PAPERCLIP",
  "1f4cf;;STRAIGHT RULER;TRIANGULAR RULER;BOOKMARK TABS;LEDGER;NOTEBOOK",
  "1f4d4;;NOTEBOOK WITH DECORATIVE COVER;CLOSED BOOK;OPEN BOOK;GREEN BOOK;BLUE BOOK;ORANGE BOOK",
  "1f4da;;BOOKS;NAME BADGE;SCROLL;MEMO;TELEPHONE RECEIVER;PAGER;FAX MACHINE;SATELLITE ANTENNA",
  "1f4e2;;PUBLIC ADDRESS LOUDSPEAKER;CHEERING MEGAPHONE;OUTBOX TRAY;INBOX TRAY;PACKAGE",
  "1f4e7;;E-MAIL SYMBOL;INCOMING ENVELOPE;ENVELOPE WITH DOWNWARDS ARROW ABOVE",
  "1f4ea;CLOSED MAILBOX WITH ;LOWERED FLAG;RAISED FLAG",
  "1f4ec;;OPEN MAILBOX WITH RAISED FLAG;OPEN MAILBOX WITH LOWERED FLAG;POSTBOX;POSTAL HORN",
  "1f4f0;;NEWSPAPER;MOBILE PHONE;MOBILE PHONE WITH RIGHTWARDS ARROW AT LEFT;VIBRATION MODE",
  "1f4f4;;MOBILE PHONE OFF;NO MOBILE PHONES;ANTENNA WITH BARS;CAMERA;CAMERA WITH FLASH",
  "1f4f9;;VIDEO CAMERA;TELEVISION;RADIO;VIDEOCASSETTE;FILM PROJECTOR;PORTABLE STEREO;PRAYER BEADS",
  "1f500;;TWISTED RIGHTWARDS ARROWS;CLOCKWISE RIGHTWARDS AND LEFTWARDS OPEN CIRCLE ARROWS",
  "1f502;;CLOCKWISE RIGHTWARDS AND LEFTWARDS OPEN CIRCLE ARROWS WITH CIRCLED ONE OVERLAY",
  "1f503;;CLOCKWISE DOWNWARDS AND UPWARDS OPEN CIRCLE ARROWS",
  "1f504;;ANTICLOCKWISE DOWNWARDS AND UPWARDS OPEN CIRCLE ARROWS;LOW BRIGHTNESS SYMBOL",
  "1f506;;HIGH BRIGHTNESS SYMBOL;SPEAKER WITH CANCELLATION STROKE;SPEAKER",
  "1f509;;SPEAKER WITH ONE SOUND WAVE;SPEAKER WITH THREE SOUND WAVES;BATTERY;ELECTRIC PLUG",
  "1f50d;;LEFT-POINTING MAGNIFYING GLASS;RIGHT-POINTING MAGNIFYING GLASS;LOCK WITH INK PEN",
  "1f510;;CLOSED LOCK WITH KEY;KEY;LOCK;OPEN LOCK;BELL;BELL WITH CANCELLATION STROKE;BOOKMARK",
  "1f517;;LINK SYMBOL;RADIO BUTTON;BACK WITH LEFTWARDS ARROW ABOVE;END WITH LEFTWARDS ARROW ABOVE",
  "1f51b;;ON WITH EXCLAMATION MARK WITH LEFT RIGHT ARROW ABOVE;SOON WITH RIGHTWARDS ARROW ABOVE",
  "1f51d;;TOP WITH UPWARDS ARROW ABOVE;NO ONE UNDER EIGHTEEN SYMBOL;KEYCAP TEN",
  "1f520;INPUT SYMBOL FOR ;LATIN CAPITAL LETTERS;LATIN SMALL LETTERS;NUMBERS;SYMBOLS",
  "1f524;;INPUT SYMBOL FOR LATIN LETTERS;FIRE;ELECTRIC TORCH;WRENCH;HAMMER;NUT AND BOLT;HOCHO",
  "1f52b;;PISTOL;MICROSCOPE;TELESCOPE;CRYSTAL BALL;SIX POINTED STAR WITH MIDDLE DOT",
  "1f530;;JAPANESE SYMBOL FOR BEGINNER;TRIDENT EMBLEM;BLACK SQUARE BUTTON;WHITE SQUARE BUTTON",
  "1f534;LARGE ;RED CIRCLE;BLUE CIRCLE;ORANGE DIAMOND;BLUE DIAMOND",
  "1f538;;SMALL ORANGE DIAMOND;SMALL BLUE DIAMOND;UP-POINTING RED TRIANGLE",
  "1f53b;;DOWN-POINTING RED TRIANGLE;UP-POINTING SMALL RED TRIANGLE",
  "1f53d;;DOWN-POINTING SMALL RED TRIANGLE;LOWER RIGHT SHADOWED WHITE CIRCLE",
  "1f53f;;UPPER RIGHT SHADOWED WHITE CIRCLE;CIRCLED CROSS POMMEE",
  "1f541;CROSS ;POMMEE WITH HALF-CIRCLE BELOW;POMMEE",
  "1f543;NOTCHED ;LEFT SEMICIRCLE WITH THREE DOTS;RIGHT SEMICIRCLE WITH THREE DOTS",
  "1f545;;SYMBOL FOR MARKS CHAPTER;WHITE LATIN CROSS;HEAVY LATIN CROSS;CELTIC CROSS;OM SYMBOL",
  "1f54a;;DOVE OF PEACE;KAABA;MOSQUE;SYNAGOGUE;MENORAH WITH NINE BRANCHES;BOWL OF HYGIEIA",
  "1f550;CLOCK FACE ;ONE OCLOCK;TWO OCLOCK;THREE OCLOCK;FOUR OCLOCK;FIVE OCLOCK;SIX OCLOCK",
  "1f556;CLOCK FACE ;SEVEN OCLOCK;EIGHT OCLOCK;NINE OCLOCK;TEN OCLOCK;ELEVEN OCLOCK;TWELVE OCLOCK",
  "1f55c;CLOCK FACE ;ONE-THIRTY;TWO-THIRTY;THREE-THIRTY;FOUR-THIRTY;FIVE-THIRTY;SIX-THIRTY",
  "1f562;CLOCK FACE ;SEVEN-THIRTY;EIGHT-THIRTY;NINE-THIRTY;TEN-THIRTY;ELEVEN-THIRTY;TWELVE-THIRTY",
  "1f568;RIGHT ;SPEAKER;SPEAKER WITH ONE SOUND WAVE;SPEAKER WITH THREE SOUND WAVES",
  "1f56b;;BULLHORN;BULLHORN WITH SOUND WAVES;RINGING BELL;BOOK;CANDLE;MANTELPIECE CLOCK",
  "1f571;;BLACK SKULL AND CROSSBONES;NO PIRACY;HOLE;MAN IN BUSINESS SUIT LEVITATING;SLEUTH OR SPY",
  "1f576;;DARK SUNGLASSES;SPIDER;SPIDER WEB;JOYSTICK;MAN DANCING;LEFT HAND TELEPHONE RECEIVER",
  "1f57c;;TELEPHONE RECEIVER WITH PAGE;RIGHT HAND TELEPHONE RECEIVER;WHITE TOUCHTONE TELEPHONE",
  "1f57f;;BLACK TOUCHTONE TELEPHONE;TELEPHONE ON TOP OF MODEM;CLAMSHELL MOBILE PHONE",
  "1f582;;BACK OF ENVELOPE;STAMPED ENVELOPE;ENVELOPE WITH LIGHTNING;FLYING ENVELOPE",
  "1f586;;PEN OVER STAMPED ENVELOPE;LINKED PAPERCLIPS;BLACK PUSHPIN;LOWER LEFT PENCIL",
  "1f58a;LOWER LEFT ;BALLPOINT PEN;FOUNTAIN PEN;PAINTBRUSH;CRAYON",
  "1f58e;;LEFT WRITING HAND;TURNED OK HAND SIGN;RAISED HAND WITH FINGERS SPLAYED",
  "1f591;REVERSED ;RAISED HAND WITH FINGERS SPLAYED;THUMBS UP SIGN;THUMBS DOWN SIGN;VICTORY HAND",
  "1f595;;REVERSED HAND WITH MIDDLE FINGER EXTENDED",
  "1f596;;RAISED HAND WITH PART BETWEEN MIDDLE AND RING FINGERS",
  "1f597;;WHITE DOWN POINTING LEFT HAND INDEX;SIDEWAYS WHITE LEFT POINTING INDEX",
  "1f599;SIDEWAYS ;WHITE RIGHT POINTING INDEX;BLACK LEFT POINTING INDEX",
  "1f59b;;SIDEWAYS BLACK RIGHT POINTING INDEX;BLACK LEFT POINTING BACKHAND INDEX",
  "1f59d;;BLACK RIGHT POINTING BACKHAND INDEX;SIDEWAYS WHITE UP POINTING INDEX",
  "1f59f;SIDEWAYS ;WHITE DOWN POINTING INDEX;BLACK UP POINTING INDEX;BLACK DOWN POINTING INDEX",
  "1f5a2;BLACK ;UP POINTING BACKHAND INDEX;DOWN POINTING BACKHAND INDEX;HEART",
  "1f5a5;;DESKTOP COMPUTER;KEYBOARD AND MOUSE;THREE NETWORKED COMPUTERS;PRINTER;POCKET CALCULATOR",
  "1f5aa;;BLACK HARD SHELL FLOPPY DISK;WHITE HARD SHELL FLOPPY DISK;SOFT SHELL FLOPPY DISK",
  "1f5ad;;TAPE CARTRIDGE;WIRED KEYBOARD;ONE BUTTON MOUSE;TWO BUTTON MOUSE;THREE BUTTON MOUSE",
  "1f5b2;;TRACKBALL;OLD PERSONAL COMPUTER;HARD DISK;SCREEN;PRINTER ICON;FAX ICON",
  "1f5b8;;OPTICAL DISC ICON;DOCUMENT WITH TEXT;DOCUMENT WITH TEXT AND PICTURE",
  "1f5bb;;DOCUMENT WITH PICTURE;FRAME WITH PICTURE;FRAME WITH TILES;FRAME WITH AN X;BLACK FOLDER",
  "1f5c0;;FOLDER;OPEN FOLDER;CARD INDEX DIVIDERS;CARD FILE BOX;FILE CABINET;EMPTY NOTE",
  "1f5c6;;EMPTY NOTE PAGE;EMPTY NOTE PAD;NOTE;NOTE PAGE;NOTE PAD;EMPTY DOCUMENT;EMPTY PAGE",
  "1f5cd;;EMPTY PAGES;DOCUMENT;PAGE;PAGES;WASTEBASKET;SPIRAL NOTE PAD;SPIRAL CALENDAR PAD",
  "1f5d4;;DESKTOP WINDOW;MINIMIZE;MAXIMIZE;OVERLAP;CLOCKWISE RIGHT AND LEFT SEMICIRCLE ARROWS",
  "1f5d9;;CANCELLATION X;INCREASE FONT SIZE SYMBOL;DECREASE FONT SIZE SYMBOL;COMPRESSION;OLD KEY",
  "1f5de;;ROLLED-UP NEWSPAPER;PAGE WITH CIRCLED TEXT;STOCK CHART;DAGGER KNIFE;LIPS",
  "1f5e3;;SPEAKING HEAD IN SILHOUETTE;THREE RAYS ABOVE;THREE RAYS BELOW;THREE RAYS LEFT",
  "1f5e7;;THREE RAYS RIGHT;LEFT SPEECH BUBBLE;RIGHT SPEECH BUBBLE;TWO SPEECH BUBBLES",
  "1f5eb;;THREE SPEECH BUBBLES;LEFT THOUGHT BUBBLE;RIGHT THOUGHT BUBBLE;LEFT ANGER BUBBLE",
  "1f5ef;;RIGHT ANGER BUBBLE;MOOD BUBBLE;LIGHTNING MOOD BUBBLE;LIGHTNING MOOD",
  "1f5f3;BALLOT ;BOX WITH BALLOT;SCRIPT X;BOX WITH SCRIPT X;BOLD SCRIPT X;BOX WITH BOLD SCRIPT X",
  "1f5f8;;LIGHT CHECK MARK;BALLOT BOX WITH BOLD CHECK;WORLD MAP;MOUNT FUJI;TOKYO TOWER",
  "1f5fd;;STATUE OF LIBERTY;SILHOUETTE OF JAPAN;MOYAI;GRINNING FACE",
  "1f601;;GRINNING FACE WITH SMILING EYES;FACE WITH TEARS OF JOY;SMILING FACE WITH OPEN MOUTH",
  "1f604;SMILING FACE WITH OPEN MOUTH AND ;SMILING EYES;COLD SWEAT;TIGHTLY-CLOSED EYES",
  "1f607;;SMILING FACE WITH HALO;SMILING FACE WITH HORNS;WINKING FACE",
  "1f60a;;SMILING FACE WITH SMILING EYES;FACE SAVOURING DELICIOUS FOOD;RELIEVED FACE",
  "1f60d;;SMILING FACE WITH HEART-SHAPED EYES;SMILING FACE WITH SUNGLASSES;SMIRKING FACE",
  "1f610;;NEUTRAL FACE;EXPRESSIONLESS FACE;UNAMUSED FACE;FACE WITH COLD SWEAT;PENSIVE FACE",
  "1f615;;CONFUSED FACE;CONFOUNDED FACE;KISSING FACE;FACE THROWING A KISS",
  "1f619;;KISSING FACE WITH SMILING EYES;KISSING FACE WITH CLOSED EYES;FACE WITH STUCK-OUT TONGUE",
  "1f61c;FACE WITH STUCK-OUT TONGUE AND ;WINKING EYE;TIGHTLY-CLOSED EYES",
  "1f61e;;DISAPPOINTED FACE;WORRIED FACE;ANGRY FACE;POUTING FACE;CRYING FACE;PERSEVERING FACE",
  "1f624;;FACE WITH LOOK OF TRIUMPH;DISAPPOINTED BUT RELIEVED FACE;FROWNING FACE WITH OPEN MOUTH",
  "1f627;;ANGUISHED FACE;FEARFUL FACE;WEARY FACE;SLEEPY FACE;TIRED FACE;GRIMACING FACE",
  "1f62d;;LOUDLY CRYING FACE;FACE WITH OPEN MOUTH;HUSHED FACE;FACE WITH OPEN MOUTH AND COLD SWEAT",
  "1f631;;FACE SCREAMING IN FEAR;ASTONISHED FACE;FLUSHED FACE;SLEEPING FACE;DIZZY FACE",
  "1f636;;FACE WITHOUT MOUTH;FACE WITH MEDICAL MASK;GRINNING CAT FACE WITH SMILING EYES",
  "1f639;;CAT FACE WITH TEARS OF JOY;SMILING CAT FACE WITH OPEN MOUTH",
  "1f63b;;SMILING CAT FACE WITH HEART-SHAPED EYES;CAT FACE WITH WRY SMILE",
  "1f63d;;KISSING CAT FACE WITH CLOSED EYES;POUTING CAT FACE;CRYING CAT FACE;WEARY CAT FACE",
  "1f641;;SLIGHTLY FROWNING FACE;SLIGHTLY SMILING FACE;UPSIDE-DOWN FACE;FACE WITH ROLLING EYES",
  "1f645;;FACE WITH NO GOOD GESTURE;FACE WITH OK GESTURE;PERSON BOWING DEEPLY;SEE-NO-EVIL MONKEY",
  "1f649;;HEAR-NO-EVIL MONKEY;SPEAK-NO-EVIL MONKEY;HAPPY PERSON RAISING ONE HAND",
  "1f64c;PERSON ;RAISING BOTH HANDS IN CELEBRATION;FROWNING;WITH POUTING FACE;WITH FOLDED HANDS",
  "1f650;;NORTH WEST POINTING LEAF;SOUTH WEST POINTING LEAF;NORTH EAST POINTING LEAF",
  "1f653;;SOUTH EAST POINTING LEAF;TURNED NORTH WEST POINTING LEAF",
  "1f655;TURNED ;SOUTH WEST POINTING LEAF;NORTH EAST POINTING LEAF;SOUTH EAST POINTING LEAF",
  "1f658;;NORTH WEST POINTING VINE LEAF;SOUTH WEST POINTING VINE LEAF",
  "1f65a;;NORTH EAST POINTING VINE LEAF;SOUTH EAST POINTING VINE LEAF",
  "1f65c;HEAVY ;NORTH WEST POINTING VINE LEAF;SOUTH WEST POINTING VINE LEAF",
  "1f65e;HEAVY ;NORTH EAST POINTING VINE LEAF;SOUTH EAST POINTING VINE LEAF",
  "1f660;;NORTH WEST POINTING BUD;SOUTH WEST POINTING BUD;NORTH EAST POINTING BUD",
  "1f663;;SOUTH EAST POINTING BUD;HEAVY NORTH WEST POINTING BUD;HEAVY SOUTH WEST POINTING BUD",
  "1f666;HEAVY ;NORTH EAST POINTING BUD;SOUTH EAST POINTING BUD",
  "1f668;HOLLOW QUILT SQUARE ;ORNAMENT;ORNAMENT IN BLACK SQUARE",
  "1f66a;SOLID QUILT SQUARE ;ORNAMENT;ORNAMENT IN BLACK SQUARE",
  "1f66c;;LEFTWARDS ROCKET;UPWARDS ROCKET;RIGHTWARDS ROCKET;DOWNWARDS ROCKET",
  "1f670;;SCRIPT LIGATURE ET ORNAMENT;HEAVY SCRIPT LIGATURE ET ORNAMENT;LIGATURE OPEN ET ORNAMENT",
  "1f673;;HEAVY LIGATURE OPEN ET ORNAMENT;HEAVY AMPERSAND ORNAMENT;SWASH AMPERSAND ORNAMENT",
  "1f676;;SANS-SERIF HEAVY DOUBLE TURNED COMMA QUOTATION MARK ORNAMENT",
  "1f677;;SANS-SERIF HEAVY DOUBLE COMMA QUOTATION MARK ORNAMENT",
  "1f678;;SANS-SERIF HEAVY LOW DOUBLE COMMA QUOTATION MARK ORNAMENT;HEAVY INTERROBANG ORNAMENT",
  "1f67a;;SANS-SERIF INTERROBANG ORNAMENT;HEAVY SANS-SERIF INTERROBANG ORNAMENT",
  "1f67c;;VERY HEAVY SOLIDUS;VERY HEAVY REVERSE SOLIDUS;CHECKER BOARD;REVERSE CHECKER BOARD",
  "1f680;;ROCKET;HELICOPTER;STEAM LOCOMOTIVE;RAILWAY CAR;HIGH-SPEED TRAIN",
  "1f685;;HIGH-SPEED TRAIN WITH BULLET NOSE;TRAIN;METRO;LIGHT RAIL;STATION;TRAM;TRAM CAR;BUS",
  "1f68d;;ONCOMING BUS;TROLLEYBUS;BUS STOP;MINIBUS;AMBULANCE;FIRE ENGINE;POLICE CAR",
  "1f694;;ONCOMING POLICE CAR;TAXI;ONCOMING TAXI;AUTOMOBILE;ONCOMING AUTOMOBILE",
  "1f699;;RECREATIONAL VEHICLE;DELIVERY TRUCK;ARTICULATED LORRY;TRACTOR;MONORAIL;MOUNTAIN RAILWAY",
  "1f69f;;SUSPENSION RAILWAY;MOUNTAIN CABLEWAY;AERIAL TRAMWAY;SHIP;ROWBOAT;SPEEDBOAT",
  "1f6a5;;HORIZONTAL TRAFFIC LIGHT;VERTICAL TRAFFIC LIGHT;CONSTRUCTION SIGN",
  "1f6a8;;POLICE CARS REVOLVING LIGHT;TRIANGULAR FLAG ON POST;DOOR;NO ENTRY SIGN;SMOKING SYMBOL",
  "1f6ad;;NO SMOKING SYMBOL;PUT LITTER IN ITS PLACE SYMBOL;DO NOT LITTER SYMBOL",
  "1f6b0;;POTABLE WATER SYMBOL;NON-POTABLE WATER SYMBOL;BICYCLE;NO BICYCLES;BICYCLIST",
  "1f6b5;;MOUNTAIN BICYCLIST;PEDESTRIAN;NO PEDESTRIANS;CHILDREN CROSSING;MENS SYMBOL",
  "1f6ba;;WOMENS SYMBOL;RESTROOM;BABY SYMBOL;TOILET;WATER CLOSET;SHOWER;BATH;BATHTUB",
  "1f6c2;;PASSPORT CONTROL;CUSTOMS;BAGGAGE CLAIM;LEFT LUGGAGE;TRIANGLE WITH ROUNDED CORNERS",
  "1f6c7;;PROHIBITED SIGN;CIRCLED INFORMATION SOURCE;BOYS SYMBOL;GIRLS SYMBOL;COUCH AND LAMP",
  "1f6cc;;SLEEPING ACCOMMODATION;SHOPPING BAGS;BELLHOP BELL;BED;PLACE OF WORSHIP;OCTAGONAL SIGN",
  "1f6d2;;SHOPPING TROLLEY;STUPA;PAGODA;HINDU TEMPLE;HUT;ELEVATOR",
  "1f6dd;;PLAYGROUND SLIDE;WHEEL;RING BUOY;HAMMER AND WRENCH;SHIELD;OIL DRUM;MOTORWAY",
  "1f6e4;;RAILWAY TRACK;MOTOR BOAT;UP-POINTING MILITARY AIRPLANE;UP-POINTING AIRPLANE",
  "1f6e8;;UP-POINTING SMALL AIRPLANE;SMALL AIRPLANE;NORTHEAST-POINTING AIRPLANE",
  "1f6eb;AIRPLANE ;DEPARTURE;ARRIVING",
  "1f6f0;;SATELLITE;ONCOMING FIRE ENGINE;DIESEL LOCOMOTIVE;PASSENGER SHIP;SCOOTER;MOTOR SCOOTER",
  "1f6f6;;CANOE;SLED;FLYING SAUCER;SKATEBOARD;AUTO RICKSHAW;PICKUP TRUCK;ROLLER SKATE",
  "1f700;ALCHEMICAL SYMBOL FOR ;QUINTESSENCE;AIR;FIRE;EARTH;WATER;AQUAFORTIS;AQUA REGIA",
  "1f707;ALCHEMICAL SYMBOL FOR ;AQUA REGIA-2;AQUA VITAE;AQUA VITAE-2;VINEGAR;VINEGAR-2;VINEGAR-3",
  "1f70d;ALCHEMICAL SYMBOL FOR ;SULFUR;PHILOSOPHERS SULFUR;BLACK SULFUR;MERCURY SUBLIMATE",
  "1f711;ALCHEMICAL SYMBOL FOR ;MERCURY SUBLIMATE-2;MERCURY SUBLIMATE-3;CINNABAR;SALT;NITRE",
  "1f716;ALCHEMICAL SYMBOL FOR ;VITRIOL;VITRIOL-2;ROCK SALT;ROCK SALT-2;GOLD;SILVER;IRON ORE",
  "1f71d;ALCHEMICAL SYMBOL FOR ;IRON ORE-2;CROCUS OF IRON;REGULUS OF IRON;COPPER ORE",
  "1f721;ALCHEMICAL SYMBOL FOR ;IRON-COPPER ORE;SUBLIMATE OF COPPER;CROCUS OF COPPER",
  "1f724;ALCHEMICAL SYMBOL FOR ;CROCUS OF COPPER-2;COPPER ANTIMONIATE;SALT OF COPPER ANTIMONIATE",
  "1f727;ALCHEMICAL SYMBOL FOR ;SUBLIMATE OF SALT OF COPPER;VERDIGRIS;TIN ORE;LEAD ORE",
  "1f72b;ALCHEMICAL SYMBOL FOR ;ANTIMONY ORE;SUBLIMATE OF ANTIMONY;SALT OF ANTIMONY",
  "1f72e;ALCHEMICAL SYMBOL FOR ;SUBLIMATE OF SALT OF ANTIMONY;VINEGAR OF ANTIMONY",
  "1f730;ALCHEMICAL SYMBOL FOR ;REGULUS OF ANTIMONY;REGULUS OF ANTIMONY-2;REGULUS;REGULUS-2",
  "1f734;ALCHEMICAL SYMBOL FOR ;REGULUS-3;REGULUS-4;ALKALI;ALKALI-2;MARCASITE;SAL-AMMONIAC",
  "1f73a;ALCHEMICAL SYMBOL FOR ;ARSENIC;REALGAR;REALGAR-2;AURIPIGMENT;BISMUTH ORE;TARTAR;TARTAR-2",
  "1f741;ALCHEMICAL SYMBOL FOR ;QUICK LIME;BORAX;BORAX-2;BORAX-3;ALUM;OIL;SPIRIT;TINCTURE;GUM;WAX",
  "1f74b;ALCHEMICAL SYMBOL FOR ;POWDER;CALX;TUTTY;CAPUT MORTUUM;SCEPTER OF JOVE;CADUCEUS;TRIDENT",
  "1f752;ALCHEMICAL SYMBOL FOR ;STARRED TRIDENT;LODESTONE;SOAP;URINE;HORSE DUNG;ASHES;POT ASHES",
  "1f759;ALCHEMICAL SYMBOL FOR ;BRICK;POWDERED BRICK;AMALGAM;STRATUM SUPER STRATUM",
  "1f75d;ALCHEMICAL SYMBOL FOR ;STRATUM SUPER STRATUM-2;SUBLIMATION;PRECIPITATE;DISTILL;DISSOLVE",
  "1f762;ALCHEMICAL SYMBOL FOR ;DISSOLVE-2;PURIFY;PUTREFACTION;CRUCIBLE;CRUCIBLE-2;CRUCIBLE-3",
  "1f768;ALCHEMICAL SYMBOL FOR ;CRUCIBLE-4;CRUCIBLE-5;ALEMBIC;BATH OF MARY;BATH OF VAPOURS;RETORT",
  "1f76e;ALCHEMICAL SYMBOL FOR ;HOUR;NIGHT;DAY-NIGHT;MONTH;HALF DRAM;HALF OUNCE",
  "1f780;BLACK ;LEFT-POINTING ISOSCELES RIGHT TRIANGLE;UP-POINTING ISOSCELES RIGHT TRIANGLE",
  "1f782;BLACK ;RIGHT-POINTING ISOSCELES RIGHT TRIANGLE;DOWN-POINTING ISOSCELES RIGHT TRIANGLE",
  "1f784;;BLACK SLIGHTLY SMALL CIRCLE;MEDIUM BOLD WHITE CIRCLE;BOLD WHITE CIRCLE",
  "1f787;;HEAVY WHITE CIRCLE;VERY HEAVY WHITE CIRCLE;EXTREMELY HEAVY WHITE CIRCLE",
  "1f78a;;WHITE CIRCLE CONTAINING BLACK SMALL CIRCLE;ROUND TARGET;BLACK TINY SQUARE",
  "1f78d;;BLACK SLIGHTLY SMALL SQUARE;LIGHT WHITE SQUARE;MEDIUM WHITE SQUARE;BOLD WHITE SQUARE",
  "1f791;;HEAVY WHITE SQUARE;VERY HEAVY WHITE SQUARE;EXTREMELY HEAVY WHITE SQUARE",
  "1f794;WHITE SQUARE CONTAINING BLACK ;VERY SMALL SQUARE;MEDIUM SQUARE",
  "1f796;;SQUARE TARGET;BLACK TINY DIAMOND;BLACK VERY SMALL DIAMOND;BLACK MEDIUM SMALL DIAMOND",
  "1f79a;WHITE DIAMOND CONTAINING BLACK ;VERY SMALL DIAMOND;MEDIUM DIAMOND",
  "1f79c;;DIAMOND TARGET;BLACK TINY LOZENGE;BLACK VERY SMALL LOZENGE;BLACK MEDIUM SMALL LOZENGE",
  "1f7a0;;WHITE LOZENGE CONTAINING BLACK SMALL LOZENGE;THIN GREEK CROSS;LIGHT GREEK CROSS",
  "1f7a3;;MEDIUM GREEK CROSS;BOLD GREEK CROSS;VERY BOLD GREEK CROSS;VERY HEAVY GREEK CROSS",
  "1f7a7;;EXTREMELY HEAVY GREEK CROSS;THIN SALTIRE;LIGHT SALTIRE;MEDIUM SALTIRE;BOLD SALTIRE",
  "1f7ac;;HEAVY SALTIRE;VERY HEAVY SALTIRE;EXTREMELY HEAVY SALTIRE;LIGHT FIVE SPOKED ASTERISK",
  "1f7b0;;MEDIUM FIVE SPOKED ASTERISK;BOLD FIVE SPOKED ASTERISK;HEAVY FIVE SPOKED ASTERISK",
  "1f7b3;;VERY HEAVY FIVE SPOKED ASTERISK;EXTREMELY HEAVY FIVE SPOKED ASTERISK",
  "1f7b5;;LIGHT SIX SPOKED ASTERISK;MEDIUM SIX SPOKED ASTERISK;BOLD SIX SPOKED ASTERISK",
  "1f7b8;;HEAVY SIX SPOKED ASTERISK;VERY HEAVY SIX SPOKED ASTERISK",
  "1f7ba;;EXTREMELY HEAVY SIX SPOKED ASTERISK;LIGHT EIGHT SPOKED ASTERISK",
  "1f7bc;;MEDIUM EIGHT SPOKED ASTERISK;BOLD EIGHT SPOKED ASTERISK;HEAVY EIGHT SPOKED ASTERISK",
  "1f7bf;;VERY HEAVY EIGHT SPOKED ASTERISK;LIGHT THREE POINTED BLACK STAR",
  "1f7c1;;MEDIUM THREE POINTED BLACK STAR;THREE POINTED BLACK STAR",
  "1f7c3;;MEDIUM THREE POINTED PINWHEEL STAR;LIGHT FOUR POINTED BLACK STAR",
  "1f7c5;;MEDIUM FOUR POINTED BLACK STAR;FOUR POINTED BLACK STAR",
  "1f7c7;;MEDIUM FOUR POINTED PINWHEEL STAR;REVERSE LIGHT FOUR POINTED PINWHEEL STAR",
  "1f7c9;;LIGHT FIVE POINTED BLACK STAR;HEAVY FIVE POINTED BLACK STAR",
  "1f7cb;;MEDIUM SIX POINTED BLACK STAR;HEAVY SIX POINTED BLACK STAR;SIX POINTED PINWHEEL STAR",
  "1f7ce;;MEDIUM EIGHT POINTED BLACK STAR;HEAVY EIGHT POINTED BLACK STAR",
  "1f7d0;;VERY HEAVY EIGHT POINTED BLACK STAR;HEAVY EIGHT POINTED PINWHEEL STAR",
  "1f7d2;;LIGHT TWELVE POINTED BLACK STAR;HEAVY TWELVE POINTED BLACK STAR",
  "1f7d4;;HEAVY TWELVE POINTED PINWHEEL STAR;CIRCLED TRIANGLE;NEGATIVE CIRCLED TRIANGLE",
  "1f7d7;;CIRCLED SQUARE;NEGATIVE CIRCLED SQUARE",
  "1f7e0;LARGE ;ORANGE CIRCLE;YELLOW CIRCLE;GREEN CIRCLE;PURPLE CIRCLE;BROWN CIRCLE;RED SQUARE",
  "1f7e6;LARGE ;BLUE SQUARE;ORANGE SQUARE;YELLOW SQUARE;GREEN SQUARE;PURPLE SQUARE;BROWN SQUARE",
  "1f7f0;;HEAVY EQUALS SIGN",
  "1f800;;LEFTWARDS ARROW WITH SMALL TRIANGLE ARROWHEAD",
  "1f801;;UPWARDS ARROW WITH SMALL TRIANGLE ARROWHEAD",
  "1f802;;RIGHTWARDS ARROW WITH SMALL TRIANGLE ARROWHEAD",
  "1f803;;DOWNWARDS ARROW WITH SMALL TRIANGLE ARROWHEAD",
  "1f804;;LEFTWARDS ARROW WITH MEDIUM TRIANGLE ARROWHEAD",
  "1f805;;UPWARDS ARROW WITH MEDIUM TRIANGLE ARROWHEAD",
  "1f806;;RIGHTWARDS ARROW WITH MEDIUM TRIANGLE ARROWHEAD",
  "1f807;;DOWNWARDS ARROW WITH MEDIUM TRIANGLE ARROWHEAD",
  "1f808;;LEFTWARDS ARROW WITH LARGE TRIANGLE ARROWHEAD",
  "1f809;;UPWARDS ARROW WITH LARGE TRIANGLE ARROWHEAD",
  "1f80a;;RIGHTWARDS ARROW WITH LARGE TRIANGLE ARROWHEAD",
  "1f80b;;DOWNWARDS ARROW WITH LARGE TRIANGLE ARROWHEAD",
  "1f810;;LEFTWARDS ARROW WITH SMALL EQUILATERAL ARROWHEAD",
  "1f811;;UPWARDS ARROW WITH SMALL EQUILATERAL ARROWHEAD",
  "1f812;;RIGHTWARDS ARROW WITH SMALL EQUILATERAL ARROWHEAD",
  "1f813;;DOWNWARDS ARROW WITH SMALL EQUILATERAL ARROWHEAD",
  "1f814;;LEFTWARDS ARROW WITH EQUILATERAL ARROWHEAD;UPWARDS ARROW WITH EQUILATERAL ARROWHEAD",
  "1f816;;RIGHTWARDS ARROW WITH EQUILATERAL ARROWHEAD;DOWNWARDS ARROW WITH EQUILATERAL ARROWHEAD",
  "1f818;;HEAVY LEFTWARDS ARROW WITH EQUILATERAL ARROWHEAD",
  "1f819;;HEAVY UPWARDS ARROW WITH EQUILATERAL ARROWHEAD",
  "1f81a;;HEAVY RIGHTWARDS ARROW WITH EQUILATERAL ARROWHEAD",
  "1f81b;;HEAVY DOWNWARDS ARROW WITH EQUILATERAL ARROWHEAD",
  "1f81c;;HEAVY LEFTWARDS ARROW WITH LARGE EQUILATERAL ARROWHEAD",
  "1f81d;;HEAVY UPWARDS ARROW WITH LARGE EQUILATERAL ARROWHEAD",
  "1f81e;;HEAVY RIGHTWARDS ARROW WITH LARGE EQUILATERAL ARROWHEAD",
  "1f81f;;HEAVY DOWNWARDS ARROW WITH LARGE EQUILATERAL ARROWHEAD",
  "1f820;;LEFTWARDS TRIANGLE-HEADED ARROW WITH NARROW SHAFT",
  "1f821;;UPWARDS TRIANGLE-HEADED ARROW WITH NARROW SHAFT",
  "1f822;;RIGHTWARDS TRIANGLE-HEADED ARROW WITH NARROW SHAFT",
  "1f823;;DOWNWARDS TRIANGLE-HEADED ARROW WITH NARROW SHAFT",
  "1f824;;LEFTWARDS TRIANGLE-HEADED ARROW WITH MEDIUM SHAFT",
  "1f825;;UPWARDS TRIANGLE-HEADED ARROW WITH MEDIUM SHAFT",
  "1f826;;RIGHTWARDS TRIANGLE-HEADED ARROW WITH MEDIUM SHAFT",
  "1f827;;DOWNWARDS TRIANGLE-HEADED ARROW WITH MEDIUM SHAFT",
  "1f828;;LEFTWARDS TRIANGLE-HEADED ARROW WITH BOLD SHAFT",
  "1f829;;UPWARDS TRIANGLE-HEADED ARROW WITH BOLD SHAFT",
  "1f82a;;RIGHTWARDS TRIANGLE-HEADED ARROW WITH BOLD SHAFT",
  "1f82b;;DOWNWARDS TRIANGLE-HEADED ARROW WITH BOLD SHAFT",
  "1f82c;;LEFTWARDS TRIANGLE-HEADED ARROW WITH HEAVY SHAFT",
  "1f82d;;UPWARDS TRIANGLE-HEADED ARROW WITH HEAVY SHAFT",
  "1f82e;;RIGHTWARDS TRIANGLE-HEADED ARROW WITH HEAVY SHAFT",
  "1f82f;;DOWNWARDS TRIANGLE-HEADED ARROW WITH HEAVY SHAFT",
  "1f830;;LEFTWARDS TRIANGLE-HEADED ARROW WITH VERY HEAVY SHAFT",
  "1f831;;UPWARDS TRIANGLE-HEADED ARROW WITH VERY HEAVY SHAFT",
  "1f832;;RIGHTWARDS TRIANGLE-HEADED ARROW WITH VERY HEAVY SHAFT",
  "1f833;;DOWNWARDS TRIANGLE-HEADED ARROW WITH VERY HEAVY SHAFT;LEFTWARDS FINGER-POST ARROW",
  "1f835;;UPWARDS FINGER-POST ARROW;RIGHTWARDS FINGER-POST ARROW;DOWNWARDS FINGER-POST ARROW",
  "1f838;;LEFTWARDS SQUARED ARROW;UPWARDS SQUARED ARROW;RIGHTWARDS SQUARED ARROW",
  "1f83b;;DOWNWARDS SQUARED ARROW;LEFTWARDS COMPRESSED ARROW;UPWARDS COMPRESSED ARROW",
  "1f83e;;RIGHTWARDS COMPRESSED ARROW;DOWNWARDS COMPRESSED ARROW;LEFTWARDS HEAVY COMPRESSED ARROW",
  "1f841;;UPWARDS HEAVY COMPRESSED ARROW;RIGHTWARDS HEAVY COMPRESSED ARROW",
  "1f843;;DOWNWARDS HEAVY COMPRESSED ARROW;LEFTWARDS HEAVY ARROW;UPWARDS HEAVY ARROW",
  "1f846;;RIGHTWARDS HEAVY ARROW;DOWNWARDS HEAVY ARROW",
  "1f850;;LEFTWARDS SANS-SERIF ARROW;UPWARDS SANS-SERIF ARROW;RIGHTWARDS SANS-SERIF ARROW",
  "1f853;;DOWNWARDS SANS-SERIF ARROW;NORTH WEST SANS-SERIF ARROW;NORTH EAST SANS-SERIF ARROW",
  "1f856;;SOUTH EAST SANS-SERIF ARROW;SOUTH WEST SANS-SERIF ARROW;LEFT RIGHT SANS-SERIF ARROW",
  "1f859;;UP DOWN SANS-SERIF ARROW",
  "1f860;WIDE-HEADED ;LEFTWARDS LIGHT BARB ARROW;UPWARDS LIGHT BARB ARROW",
  "1f862;WIDE-HEADED ;RIGHTWARDS LIGHT BARB ARROW;DOWNWARDS LIGHT BARB ARROW",
  "1f864;WIDE-HEADED NORTH ;WEST LIGHT BARB ARROW;EAST LIGHT BARB ARROW",
  "1f866;WIDE-HEADED SOUTH ;EAST LIGHT BARB ARROW;WEST LIGHT BARB ARROW",
  "1f868;WIDE-HEADED ;LEFTWARDS BARB ARROW;UPWARDS BARB ARROW;RIGHTWARDS BARB ARROW",
  "1f86b;WIDE-HEADED ;DOWNWARDS BARB ARROW;NORTH WEST BARB ARROW;NORTH EAST BARB ARROW",
  "1f86e;WIDE-HEADED ;SOUTH EAST BARB ARROW;SOUTH WEST BARB ARROW;LEFTWARDS MEDIUM BARB ARROW",
  "1f871;WIDE-HEADED ;UPWARDS MEDIUM BARB ARROW;RIGHTWARDS MEDIUM BARB ARROW",
  "1f873;WIDE-HEADED ;DOWNWARDS MEDIUM BARB ARROW;NORTH WEST MEDIUM BARB ARROW",
  "1f875;WIDE-HEADED ;NORTH EAST MEDIUM BARB ARROW;SOUTH EAST MEDIUM BARB ARROW",
  "1f877;WIDE-HEADED ;SOUTH WEST MEDIUM BARB ARROW;LEFTWARDS HEAVY BARB ARROW",
  "1f879;WIDE-HEADED ;UPWARDS HEAVY BARB ARROW;RIGHTWARDS HEAVY BARB ARROW",
  "1f87b;WIDE-HEADED ;DOWNWARDS HEAVY BARB ARROW;NORTH WEST HEAVY BARB ARROW",
  "1f87d;WIDE-HEADED ;NORTH EAST HEAVY BARB ARROW;SOUTH EAST HEAVY BARB ARROW",
  "1f87f;WIDE-HEADED ;SOUTH WEST HEAVY BARB ARROW;LEFTWARDS VERY HEAVY BARB ARROW",
  "1f881;WIDE-HEADED ;UPWARDS VERY HEAVY BARB ARROW;RIGHTWARDS VERY HEAVY BARB ARROW",
  "1f883;WIDE-HEADED ;DOWNWARDS VERY HEAVY BARB ARROW;NORTH WEST VERY HEAVY BARB ARROW",
  "1f885;WIDE-HEADED ;NORTH EAST VERY HEAVY BARB ARROW;SOUTH EAST VERY HEAVY BARB ARROW",
  "1f887;;WIDE-HEADED SOUTH WEST VERY HEAVY BARB ARROW",
  "1f890;;LEFTWARDS TRIANGLE ARROWHEAD;UPWARDS TRIANGLE ARROWHEAD;RIGHTWARDS TRIANGLE ARROWHEAD",
  "1f893;;DOWNWARDS TRIANGLE ARROWHEAD;LEFTWARDS WHITE ARROW WITHIN TRIANGLE ARROWHEAD",
  "1f895;;UPWARDS WHITE ARROW WITHIN TRIANGLE ARROWHEAD",
  "1f896;;RIGHTWARDS WHITE ARROW WITHIN TRIANGLE ARROWHEAD",
  "1f897;;DOWNWARDS WHITE ARROW WITHIN TRIANGLE ARROWHEAD;LEFTWARDS ARROW WITH NOTCHED TAIL",
  "1f899;;UPWARDS ARROW WITH NOTCHED TAIL;RIGHTWARDS ARROW WITH NOTCHED TAIL",
  "1f89b;;DOWNWARDS ARROW WITH NOTCHED TAIL;HEAVY ARROW SHAFT WIDTH ONE",
  "1f89d;HEAVY ARROW SHAFT WIDTH ;TWO THIRDS;ONE HALF;ONE THIRD",
  "1f8a0;;LEFTWARDS BOTTOM-SHADED WHITE ARROW;RIGHTWARDS BOTTOM SHADED WHITE ARROW",
  "1f8a2;;LEFTWARDS TOP SHADED WHITE ARROW;RIGHTWARDS TOP SHADED WHITE ARROW",
  "1f8a4;;LEFTWARDS LEFT-SHADED WHITE ARROW;RIGHTWARDS RIGHT-SHADED WHITE ARROW",
  "1f8a6;;LEFTWARDS RIGHT-SHADED WHITE ARROW;RIGHTWARDS LEFT-SHADED WHITE ARROW",
  "1f8a8;;LEFTWARDS BACK-TILTED SHADOWED WHITE ARROW;RIGHTWARDS BACK-TILTED SHADOWED WHITE ARROW",
  "1f8aa;;LEFTWARDS FRONT-TILTED SHADOWED WHITE ARROW",
  "1f8ab;;RIGHTWARDS FRONT-TILTED SHADOWED WHITE ARROW;WHITE ARROW SHAFT WIDTH ONE",
  "1f8ad;;WHITE ARROW SHAFT WIDTH TWO THIRDS",
  "1f8b0;ARROW POINTING ;UPWARDS THEN NORTH WEST;RIGHTWARDS THEN CURVING SOUTH WEST",
  "1f900;CIRCLED CROSS ;FORMEE WITH FOUR DOTS;FORMEE WITH TWO DOTS;FORMEE",
  "1f903;LEFT HALF CIRCLE WITH ;FOUR DOTS;THREE DOTS;TWO DOTS;DOT",
  "1f907;;LEFT HALF CIRCLE;DOWNWARD FACING HOOK;DOWNWARD FACING NOTCHED HOOK",
  "1f90a;;DOWNWARD FACING HOOK WITH DOT;DOWNWARD FACING NOTCHED HOOK WITH DOT;PINCHED FINGERS",
  "1f90d;;WHITE HEART;BROWN HEART;PINCHING HAND;ZIPPER-MOUTH FACE;MONEY-MOUTH FACE",
  "1f912;;FACE WITH THERMOMETER;NERD FACE;THINKING FACE;FACE WITH HEAD-BANDAGE;ROBOT FACE",
  "1f917;;HUGGING FACE;SIGN OF THE HORNS;CALL ME HAND;RAISED BACK OF HAND;LEFT-FACING FIST",
  "1f91c;;RIGHT-FACING FIST;HANDSHAKE;HAND WITH INDEX AND MIDDLE FINGERS CROSSED",
  "1f91f;;I LOVE YOU HAND SIGN;FACE WITH COWBOY HAT;CLOWN FACE;NAUSEATED FACE",
  "1f923;;ROLLING ON THE FLOOR LAUGHING;DROOLING FACE;LYING FACE;FACE PALM;SNEEZING FACE",
  "1f928;;FACE WITH ONE EYEBROW RAISED;GRINNING FACE WITH STAR EYES",
  "1f92a;;GRINNING FACE WITH ONE LARGE AND ONE SMALL EYE;FACE WITH FINGER COVERING CLOSED LIPS",
  "1f92c;;SERIOUS FACE WITH SYMBOLS COVERING MOUTH",
  "1f92d;;SMILING FACE WITH SMILING EYES AND HAND COVERING MOUTH;FACE WITH OPEN MOUTH VOMITING",
  "1f92f;;SHOCKED FACE WITH EXPLODING HEAD;PREGNANT WOMAN;BREAST-FEEDING;PALMS UP TOGETHER;SELFIE",
  "1f934;;PRINCE;MAN IN TUXEDO;MOTHER CHRISTMAS;SHRUG;PERSON DOING CARTWHEEL;JUGGLING;FENCER",
  "1f93b;;MODERN PENTATHLON;WRESTLERS;WATER POLO;HANDBALL;DIVING MASK;WILTED FLOWER",
  "1f941;;DRUM WITH DRUMSTICKS;CLINKING GLASSES;TUMBLER GLASS;SPOON;GOAL NET;RIFLE",
  "1f947;;FIRST PLACE MEDAL;SECOND PLACE MEDAL;THIRD PLACE MEDAL;BOXING GLOVE",
  "1f94b;;MARTIAL ARTS UNIFORM;CURLING STONE;LACROSSE STICK AND BALL;SOFTBALL;FLYING DISC",
  "1f950;;CROISSANT;AVOCADO;CUCUMBER;BACON;POTATO;CARROT;BAGUETTE BREAD;GREEN SALAD",
  "1f958;;SHALLOW PAN OF FOOD;STUFFED FLATBREAD;EGG;GLASS OF MILK;PEANUTS;KIWIFRUIT;PANCAKES",
  "1f95f;;DUMPLING;FORTUNE COOKIE;TAKEOUT BOX;CHOPSTICKS;BOWL WITH SPOON;CUP WITH STRAW;COCONUT",
  "1f966;;BROCCOLI;PIE;PRETZEL;CUT OF MEAT;SANDWICH;CANNED FOOD;LEAFY GREEN;MANGO;MOON CAKE;BAGEL",
  "1f970;;SMILING FACE WITH SMILING EYES AND THREE HEARTS;YAWNING FACE;SMILING FACE WITH TEAR",
  "1f973;;FACE WITH PARTY HORN AND PARTY HAT;FACE WITH UNEVEN EYES AND WAVY MOUTH;OVERHEATED FACE",
  "1f976;;FREEZING FACE;NINJA;DISGUISED FACE;FACE HOLDING BACK TEARS;FACE WITH PLEADING EYES;SARI",
  "1f97c;;LAB COAT;GOGGLES;HIKING BOOT;FLAT SHOE;CRAB;LION FACE;SCORPION;TURKEY;UNICORN FACE",
  "1f985;;EAGLE;DUCK;BAT;SHARK;OWL;FOX FACE;BUTTERFLY;DEER;GORILLA;LIZARD;RHINOCEROS;SHRIMP;SQUID",
  "1f992;;GIRAFFE FACE;ZEBRA FACE;HEDGEHOG;SAUROPOD;T-REX;CRICKET;KANGAROO;LLAMA;PEACOCK",
  "1f99b;;HIPPOPOTAMUS;PARROT;RACCOON;LOBSTER;MOSQUITO;MICROBE;BADGER;SWAN;MAMMOTH;DODO;SLOTH",
  "1f9a6;;OTTER;ORANGUTAN;SKUNK;FLAMINGO;OYSTER;BEAVER;BISON;SEAL;GUIDE DOG;PROBING CANE",
  "1f9b0;EMOJI COMPONENT ;RED HAIR;CURLY HAIR;BALD;WHITE HAIR",
  "1f9b4;;BONE;LEG;FOOT;TOOTH;SUPERHERO;SUPERVILLAIN;SAFETY VEST;EAR WITH HEARING AID",
  "1f9bc;;MOTORIZED WHEELCHAIR;MANUAL WHEELCHAIR;MECHANICAL ARM;MECHANICAL LEG;CHEESE WEDGE",
  "1f9c1;;CUPCAKE;SALT SHAKER;BEVERAGE BOX;GARLIC;ONION;FALAFEL;WAFFLE;BUTTER;MATE DRINK;ICE CUBE",
  "1f9cb;;BUBBLE TEA;TROLL;STANDING PERSON;KNEELING PERSON;DEAF PERSON;FACE WITH MONOCLE;ADULT",
  "1f9d2;;CHILD;OLDER ADULT;BEARDED PERSON;PERSON WITH HEADSCARF;PERSON IN STEAMY ROOM",
  "1f9d7;;PERSON CLIMBING;PERSON IN LOTUS POSITION;MAGE;FAIRY;VAMPIRE;MERPERSON;ELF;GENIE;ZOMBIE",
  "1f9e0;;BRAIN;ORANGE HEART;BILLED CAP;SCARF;GLOVES;COAT;SOCKS;RED GIFT ENVELOPE;FIRECRACKER",
  "1f9e9;;JIGSAW PUZZLE PIECE;TEST TUBE;PETRI DISH;DNA DOUBLE HELIX;COMPASS;ABACUS",
  "1f9ef;;FIRE EXTINGUISHER;TOOLBOX;BRICK;MAGNET;LUGGAGE;LOTION BOTTLE;SPOOL OF THREAD",
  "1f9f6;;BALL OF YARN;SAFETY PIN;TEDDY BEAR;BROOM;BASKET;ROLL OF PAPER;BAR OF SOAP;SPONGE",
  "1f9fe;;RECEIPT;NAZAR AMULET;NEUTRAL CHESS KING;NEUTRAL CHESS QUEEN;NEUTRAL CHESS ROOK",
  "1fa03;NEUTRAL CHESS ;BISHOP;KNIGHT;PAWN",
  "1fa06;;WHITE CHESS KNIGHT ROTATED FORTY-FIVE DEGREES",
  "1fa07;;BLACK CHESS KNIGHT ROTATED FORTY-FIVE DEGREES",
  "1fa08;;NEUTRAL CHESS KNIGHT ROTATED FORTY-FIVE DEGREES;WHITE CHESS KING ROTATED NINETY DEGREES",
  "1fa0a;WHITE CHESS ;QUEEN ROTATED NINETY DEGREES;ROOK ROTATED NINETY DEGREES",
  "1fa0c;WHITE CHESS ;BISHOP ROTATED NINETY DEGREES;KNIGHT ROTATED NINETY DEGREES",
  "1fa0e;;WHITE CHESS PAWN ROTATED NINETY DEGREES;BLACK CHESS KING ROTATED NINETY DEGREES",
  "1fa10;BLACK CHESS ;QUEEN ROTATED NINETY DEGREES;ROOK ROTATED NINETY DEGREES",
  "1fa12;BLACK CHESS ;BISHOP ROTATED NINETY DEGREES;KNIGHT ROTATED NINETY DEGREES",
  "1fa14;;BLACK CHESS PAWN ROTATED NINETY DEGREES;NEUTRAL CHESS KING ROTATED NINETY DEGREES",
  "1fa16;NEUTRAL CHESS ;QUEEN ROTATED NINETY DEGREES;ROOK ROTATED NINETY DEGREES",
  "1fa18;NEUTRAL CHESS ;BISHOP ROTATED NINETY DEGREES;KNIGHT ROTATED NINETY DEGREES",
  "1fa1a;;NEUTRAL CHESS PAWN ROTATED NINETY DEGREES",
  "1fa1b;;WHITE CHESS KNIGHT ROTATED ONE HUNDRED THIRTY-FIVE DEGREES",
  "1fa1c;;BLACK CHESS KNIGHT ROTATED ONE HUNDRED THIRTY-FIVE DEGREES",
  "1fa1d;;NEUTRAL CHESS KNIGHT ROTATED ONE HUNDRED THIRTY-FIVE DEGREES;WHITE CHESS TURNED KING",
  "1fa1f;WHITE CHESS TURNED ;QUEEN;ROOK;BISHOP;KNIGHT;PAWN",
  "1fa24;BLACK CHESS TURNED ;KING;QUEEN;ROOK;BISHOP;KNIGHT;PAWN",
  "1fa2a;NEUTRAL CHESS TURNED ;KING;QUEEN;ROOK;BISHOP;KNIGHT;PAWN",
  "1fa30;;WHITE CHESS KNIGHT ROTATED TWO HUNDRED TWENTY-FIVE DEGREES",
  "1fa31;;BLACK CHESS KNIGHT ROTATED TWO HUNDRED TWENTY-FIVE DEGREES",
  "1fa32;;NEUTRAL CHESS KNIGHT ROTATED TWO HUNDRED TWENTY-FIVE DEGREES",
  "1fa33;;WHITE CHESS KING ROTATED TWO HUNDRED SEVENTY DEGREES",
  "1fa34;;WHITE CHESS QUEEN ROTATED TWO HUNDRED SEVENTY DEGREES",
  "1fa35;;WHITE CHESS ROOK ROTATED TWO HUNDRED SEVENTY DEGREES",
  "1fa36;;WHITE CHESS BISHOP ROTATED TWO HUNDRED SEVENTY DEGREES",
  "1fa37;;WHITE CHESS KNIGHT ROTATED TWO HUNDRED SEVENTY DEGREES",
  "1fa38;;WHITE CHESS PAWN ROTATED TWO HUNDRED SEVENTY DEGREES",
  "1fa39;;BLACK CHESS KING ROTATED TWO HUNDRED SEVENTY DEGREES",
  "1fa3a;;BLACK CHESS QUEEN ROTATED TWO HUNDRED SEVENTY DEGREES",
  "1fa3b;;BLACK CHESS ROOK ROTATED TWO HUNDRED SEVENTY DEGREES",
  "1fa3c;;BLACK CHESS BISHOP ROTATED TWO HUNDRED SEVENTY DEGREES",
  "1fa3d;;BLACK CHESS KNIGHT ROTATED TWO HUNDRED SEVENTY DEGREES",
  "1fa3e;;BLACK CHESS PAWN ROTATED TWO HUNDRED SEVENTY DEGREES",
  "1fa3f;;NEUTRAL CHESS KING ROTATED TWO HUNDRED SEVENTY DEGREES",
  "1fa40;;NEUTRAL CHESS QUEEN ROTATED TWO HUNDRED SEVENTY DEGREES",
  "1fa41;;NEUTRAL CHESS ROOK ROTATED TWO HUNDRED SEVENTY DEGREES",
  "1fa42;;NEUTRAL CHESS BISHOP ROTATED TWO HUNDRED SEVENTY DEGREES",
  "1fa43;;NEUTRAL CHESS KNIGHT ROTATED TWO HUNDRED SEVENTY DEGREES",
  "1fa44;;NEUTRAL CHESS PAWN ROTATED TWO HUNDRED SEVENTY DEGREES",
  "1fa45;;WHITE CHESS KNIGHT ROTATED THREE HUNDRED FIFTEEN DEGREES",
  "1fa46;;BLACK CHESS KNIGHT ROTATED THREE HUNDRED FIFTEEN DEGREES",
  "1fa47;;NEUTRAL CHESS KNIGHT ROTATED THREE HUNDRED FIFTEEN DEGREES;WHITE CHESS EQUIHOPPER",
  "1fa49;;BLACK CHESS EQUIHOPPER;NEUTRAL CHESS EQUIHOPPER",
  "1fa4b;;WHITE CHESS EQUIHOPPER ROTATED NINETY DEGREES",
  "1fa4c;;BLACK CHESS EQUIHOPPER ROTATED NINETY DEGREES",
  "1fa4d;;NEUTRAL CHESS EQUIHOPPER ROTATED NINETY DEGREES;WHITE CHESS KNIGHT-QUEEN",
  "1fa4f;;WHITE CHESS KNIGHT-ROOK;WHITE CHESS KNIGHT-BISHOP;BLACK CHESS KNIGHT-QUEEN",
  "1fa52;BLACK CHESS KNIGHT-;ROOK;BISHOP",
  "1fa60;XIANGQI RED ;GENERAL;MANDARIN;ELEPHANT;HORSE;CHARIOT;CANNON;SOLDIER",
  "1fa67;XIANGQI BLACK ;GENERAL;MANDARIN;ELEPHANT;HORSE;CHARIOT;CANNON;SOLDIER",
  "1fa70;;BALLET SHOES;ONE-PIECE SWIMSUIT;BRIEFS;SHORTS;THONG SANDAL",
  "1fa78;;DROP OF BLOOD;ADHESIVE BANDAGE;STETHOSCOPE;X-RAY;CRUTCH",
  "1fa80;;YO-YO;KITE;PARACHUTE;BOOMERANG;MAGIC WAND;PINATA;NESTING DOLLS",
  "1fa90;;RINGED PLANET;CHAIR;RAZOR;AXE;DIYA LAMP;BANJO;MILITARY HELMET;ACCORDION;LONG DRUM;COIN",
  "1fa9a;;CARPENTRY SAW;SCREWDRIVER;LADDER;HOOK;MIRROR;WINDOW;PLUNGER;SEWING NEEDLE;KNOT;BUCKET",
  "1faa4;;MOUSE TRAP;TOOTHBRUSH;HEADSTONE;PLACARD;ROCK;MIRROR BALL;IDENTIFICATION CARD",
  "1faab;;LOW BATTERY;HAMSA",
  "1fab0;;FLY;WORM;BEETLE;COCKROACH;POTTED PLANT;WOOD;FEATHER;LOTUS;CORAL;EMPTY NEST",
  "1faba;;NEST WITH EGGS",
  "1fac0;;ANATOMICAL HEART;LUNGS;PEOPLE HUGGING;PREGNANT MAN;PREGNANT PERSON;PERSON WITH CROWN",
  "1fad0;;BLUEBERRIES;BELL PEPPER;OLIVE;FLATBREAD;TAMALE;FONDUE;TEAPOT;POURING LIQUID;BEANS;JAR",
  "1fae0;;MELTING FACE;SALUTING FACE;FACE WITH OPEN EYES AND HAND OVER MOUTH",
  "1fae3;;FACE WITH PEEKING EYE;FACE WITH DIAGONAL MOUTH;DOTTED LINE FACE;BITING LIP;BUBBLES",
  "1faf0;;HAND WITH INDEX FINGER AND THUMB CROSSED;RIGHTWARDS HAND;LEFTWARDS HAND;PALM DOWN HAND",
  "1faf4;;PALM UP HAND;INDEX POINTING AT THE VIEWER;HEART HANDS",
  "1fb00;BLOCK SEXTANT-;1;2;12;3;13;23;123;4;14;24;124;34;134;234;1234;5;15;25;125;35;235;1235;45",
  "1fb17;BLOCK SEXTANT-;145;245;1245;345;1345;2345;12345;6;16;26;126;36;136;236;1236;46;146;1246",
  "1fb29;BLOCK SEXTANT-;346;1346;2346;12346;56;156;256;1256;356;1356;2356;12356;456;1456;2456",
  "1fb38;BLOCK SEXTANT-;12456;3456;13456;23456",
  "1fb3c;LOWER LEFT BLOCK DIAGONAL LOWER MIDDLE LEFT TO LOWER ;CENTRE;RIGHT",
  "1fb3e;LOWER LEFT BLOCK DIAGONAL UPPER MIDDLE LEFT TO LOWER ;CENTRE;RIGHT",
  "1fb40;;LOWER LEFT BLOCK DIAGONAL UPPER LEFT TO LOWER CENTRE",
  "1fb41;LOWER RIGHT BLOCK DIAGONAL UPPER MIDDLE LEFT TO UPPER ;CENTRE;RIGHT",
  "1fb43;LOWER RIGHT BLOCK DIAGONAL LOWER MIDDLE LEFT TO UPPER ;CENTRE;RIGHT",
  "1fb45;LOWER RIGHT BLOCK DIAGONAL LOWER ;LEFT TO UPPER CENTRE;MIDDLE LEFT TO UPPER MIDDLE RIGHT",
  "1fb47;;LOWER RIGHT BLOCK DIAGONAL LOWER CENTRE TO LOWER MIDDLE RIGHT",
  "1fb48;;LOWER RIGHT BLOCK DIAGONAL LOWER LEFT TO LOWER MIDDLE RIGHT",
  "1fb49;;LOWER RIGHT BLOCK DIAGONAL LOWER CENTRE TO UPPER MIDDLE RIGHT",
  "1fb4a;LOWER RIGHT BLOCK DIAGONAL LOWER ;LEFT TO UPPER MIDDLE RIGHT;CENTRE TO UPPER RIGHT",
  "1fb4c;LOWER LEFT BLOCK DIAGONAL UPPER ;CENTRE TO UPPER MIDDLE RIGHT;LEFT TO UPPER MIDDLE RIGHT",
  "1fb4e;LOWER LEFT BLOCK DIAGONAL UPPER ;CENTRE TO LOWER MIDDLE RIGHT;LEFT TO LOWER MIDDLE RIGHT",
  "1fb50;LOWER LEFT BLOCK DIAGONAL UPPER ;CENTRE TO LOWER RIGHT;MIDDLE LEFT TO LOWER MIDDLE RIGHT",
  "1fb52;UPPER RIGHT BLOCK DIAGONAL LOWER MIDDLE LEFT TO LOWER ;CENTRE;RIGHT",
  "1fb54;UPPER RIGHT BLOCK DIAGONAL UPPER MIDDLE LEFT TO LOWER ;CENTRE;RIGHT",
  "1fb56;;UPPER RIGHT BLOCK DIAGONAL UPPER LEFT TO LOWER CENTRE",
  "1fb57;UPPER LEFT BLOCK DIAGONAL UPPER MIDDLE LEFT TO UPPER ;CENTRE;RIGHT",
  "1fb59;UPPER LEFT BLOCK DIAGONAL LOWER MIDDLE LEFT TO UPPER ;CENTRE;RIGHT",
  "1fb5b;UPPER LEFT BLOCK DIAGONAL LOWER ;LEFT TO UPPER CENTRE;MIDDLE LEFT TO UPPER MIDDLE RIGHT",
  "1fb5d;UPPER LEFT BLOCK DIAGONAL LOWER ;CENTRE TO LOWER MIDDLE RIGHT;LEFT TO LOWER MIDDLE RIGHT",
  "1fb5f;UPPER LEFT BLOCK DIAGONAL LOWER ;CENTRE TO UPPER MIDDLE RIGHT;LEFT TO UPPER MIDDLE RIGHT",
  "1fb61;;UPPER LEFT BLOCK DIAGONAL LOWER CENTRE TO UPPER RIGHT",
  "1fb62;;UPPER RIGHT BLOCK DIAGONAL UPPER CENTRE TO UPPER MIDDLE RIGHT",
  "1fb63;;UPPER RIGHT BLOCK DIAGONAL UPPER LEFT TO UPPER MIDDLE RIGHT",
  "1fb64;;UPPER RIGHT BLOCK DIAGONAL UPPER CENTRE TO LOWER MIDDLE RIGHT",
  "1fb65;UPPER RIGHT BLOCK DIAGONAL UPPER ;LEFT TO LOWER MIDDLE RIGHT;CENTRE TO LOWER RIGHT",
  "1fb67;;UPPER RIGHT BLOCK DIAGONAL UPPER MIDDLE LEFT TO LOWER MIDDLE RIGHT",
  "1fb68;;UPPER AND RIGHT AND LOWER TRIANGULAR THREE QUARTERS BLOCK",
  "1fb69;;LEFT AND LOWER AND RIGHT TRIANGULAR THREE QUARTERS BLOCK",
  "1fb6a;;UPPER AND LEFT AND LOWER TRIANGULAR THREE QUARTERS BLOCK",
  "1fb6b;LEFT ;AND UPPER AND RIGHT TRIANGULAR THREE QUARTERS BLOCK;TRIANGULAR ONE QUARTER BLOCK",
  "1fb6d;;UPPER TRIANGULAR ONE QUARTER BLOCK;RIGHT TRIANGULAR ONE QUARTER BLOCK",
  "1fb6f;;LOWER TRIANGULAR ONE QUARTER BLOCK;VERTICAL ONE EIGHTH BLOCK-2",
  "1fb71;VERTICAL ONE EIGHTH BLOCK-;3;4;5;6;7",
  "1fb76;HORIZONTAL ONE EIGHTH BLOCK-;2;3;4;5;6;7",
  "1fb7c;LEFT AND ;LOWER ONE EIGHTH BLOCK;UPPER ONE EIGHTH BLOCK",
  "1fb7e;RIGHT AND ;UPPER ONE EIGHTH BLOCK;LOWER ONE EIGHTH BLOCK",
  "1fb80;;UPPER AND LOWER ONE EIGHTH BLOCK;HORIZONTAL ONE EIGHTH BLOCK-1358",
  "1fb82;UPPER ;ONE QUARTER BLOCK;THREE EIGHTHS BLOCK;FIVE EIGHTHS BLOCK;THREE QUARTERS BLOCK",
  "1fb86;;UPPER SEVEN EIGHTHS BLOCK;RIGHT ONE QUARTER BLOCK;RIGHT THREE EIGHTHS BLOCK",
  "1fb89;RIGHT ;FIVE EIGHTHS BLOCK;THREE QUARTERS BLOCK;SEVEN EIGHTHS BLOCK",
  "1fb8c;;LEFT HALF MEDIUM SHADE;RIGHT HALF MEDIUM SHADE;UPPER HALF MEDIUM SHADE",
  "1fb8f;;LOWER HALF MEDIUM SHADE;INVERSE MEDIUM SHADE",
  "1fb91;;UPPER HALF BLOCK AND LOWER HALF INVERSE MEDIUM SHADE",
  "1fb92;;UPPER HALF INVERSE MEDIUM SHADE AND LOWER HALF BLOCK",
  "1fb94;;LEFT HALF INVERSE MEDIUM SHADE AND RIGHT HALF BLOCK;CHECKER BOARD FILL",
  "1fb96;;INVERSE CHECKER BOARD FILL;HEAVY HORIZONTAL FILL;UPPER LEFT TO LOWER RIGHT FILL",
  "1fb99;UPPER ;RIGHT TO LOWER LEFT FILL;AND LOWER TRIANGULAR HALF BLOCK",
  "1fb9b;;LEFT AND RIGHT TRIANGULAR HALF BLOCK;UPPER LEFT TRIANGULAR MEDIUM SHADE",
  "1fb9d;;UPPER RIGHT TRIANGULAR MEDIUM SHADE;LOWER RIGHT TRIANGULAR MEDIUM SHADE",
  "1fb9f;;LOWER LEFT TRIANGULAR MEDIUM SHADE",
  "1fba0;BOX DRAWINGS LIGHT DIAGONAL UPPER CENTRE TO MIDDLE ;LEFT;RIGHT",
  "1fba2;BOX DRAWINGS LIGHT DIAGONAL MIDDLE ;LEFT TO LOWER CENTRE;RIGHT TO LOWER CENTRE",
  "1fba4;;BOX DRAWINGS LIGHT DIAGONAL UPPER CENTRE TO MIDDLE LEFT TO LOWER CENTRE",
  "1fba5;;BOX DRAWINGS LIGHT DIAGONAL UPPER CENTRE TO MIDDLE RIGHT TO LOWER CENTRE",
  "1fba6;;BOX DRAWINGS LIGHT DIAGONAL MIDDLE LEFT TO LOWER CENTRE TO MIDDLE RIGHT",
  "1fba7;;BOX DRAWINGS LIGHT DIAGONAL MIDDLE LEFT TO UPPER CENTRE TO MIDDLE RIGHT",
  "1fba8;;BOX DRAWINGS LIGHT DIAGONAL UPPER CENTRE TO MIDDLE LEFT AND MIDDLE RIGHT TO LOWER CENTRE",
  "1fba9;;BOX DRAWINGS LIGHT DIAGONAL UPPER CENTRE TO MIDDLE RIGHT AND MIDDLE LEFT TO LOWER CENTRE",
  "1fbaa;;BOX DRAWINGS LIGHT DIAGONAL UPPER CENTRE TO MIDDLE RIGHT TO LOWER CENTRE TO MIDDLE LEFT",
  "1fbab;;BOX DRAWINGS LIGHT DIAGONAL UPPER CENTRE TO MIDDLE LEFT TO LOWER CENTRE TO MIDDLE RIGHT",
  "1fbac;;BOX DRAWINGS LIGHT DIAGONAL MIDDLE LEFT TO UPPER CENTRE TO MIDDLE RIGHT TO LOWER CENTRE",
  "1fbad;;BOX DRAWINGS LIGHT DIAGONAL MIDDLE RIGHT TO UPPER CENTRE TO MIDDLE LEFT TO LOWER CENTRE",
  "1fbae;BOX DRAWINGS LIGHT ;DIAGONAL DIAMOND;HORIZONTAL WITH VERTICAL STROKE",
  "1fbb0;;ARROWHEAD-SHAPED POINTER;INVERSE CHECK MARK;LEFT HALF RUNNING MAN",
  "1fbb3;;RIGHT HALF RUNNING MAN;INVERSE DOWNWARDS ARROW WITH TIP LEFTWARDS",
  "1fbb5;;LEFTWARDS ARROW AND UPPER AND LOWER ONE EIGHTH BLOCK",
  "1fbb6;;RIGHTWARDS ARROW AND UPPER AND LOWER ONE EIGHTH BLOCK",
  "1fbb7;;DOWNWARDS ARROW AND RIGHT ONE EIGHTH BLOCK;UPWARDS ARROW AND RIGHT ONE EIGHTH BLOCK",
  "1fbb9;;LEFT HALF FOLDER;RIGHT HALF FOLDER;VOIDED GREEK CROSS;RIGHT OPEN SQUARED DOT",
  "1fbbd;NEGATIVE DIAGONAL ;CROSS;MIDDLE RIGHT TO LOWER CENTRE;DIAMOND",
  "1fbc0;;WHITE HEAVY SALTIRE WITH ROUNDED CORNERS;LEFT THIRD WHITE RIGHT POINTING INDEX",
  "1fbc2;;MIDDLE THIRD WHITE RIGHT POINTING INDEX;RIGHT THIRD WHITE RIGHT POINTING INDEX",
  "1fbc4;;NEGATIVE SQUARED QUESTION MARK;STICK FIGURE;STICK FIGURE WITH ARMS RAISED",
  "1fbc7;STICK FIGURE ;LEANING LEFT;LEANING RIGHT;WITH DRESS",
  "1fbca;;WHITE UP-POINTING CHEVRON",
  "1fbf0;SEGMENTED DIGIT ;ZERO;ONE;TWO;THREE;FOUR;FIVE;SIX;SEVEN;EIGHT;NINE",
  "2f800;CJK COMPATIBILITY IDEOGRAPH-;2F800;2F801;2F802;2F803;2F804;2F805;2F806;2F807;2F808;2F809",
  "2f80a;CJK COMPATIBILITY IDEOGRAPH-;2F80A;2F80B;2F80C;2F80D;2F80E;2F80F;2F810;2F811;2F812;2F813",
  "2f814;CJK COMPATIBILITY IDEOGRAPH-;2F814;2F815;2F816;2F817;2F818;2F819;2F81A;2F81B;2F81C;2F81D",
  "2f81e;CJK COMPATIBILITY IDEOGRAPH-;2F81E;2F81F;2F820;2F821;2F822;2F823;2F824;2F825;2F826;2F827",
  "2f828;CJK COMPATIBILITY IDEOGRAPH-;2F828;2F829;2F82A;2F82B;2F82C;2F82D;2F82E;2F82F;2F830;2F831",
  "2f832;CJK COMPATIBILITY IDEOGRAPH-;2F832;2F833;2F834;2F835;2F836;2F837;2F838;2F839;2F83A;2F83B",
  "2f83c;CJK COMPATIBILITY IDEOGRAPH-;2F83C;2F83D;2F83E;2F83F;2F840;2F841;2F842;2F843;2F844;2F845",
  "2f846;CJK COMPATIBILITY IDEOGRAPH-;2F846;2F847;2F848;2F849;2F84A;2F84B;2F84C;2F84D;2F84E;2F84F",
  "2f850;CJK COMPATIBILITY IDEOGRAPH-;2F850;2F851;2F852;2F853;2F854;2F855;2F856;2F857;2F858;2F859",
  "2f85a;CJK COMPATIBILITY IDEOGRAPH-;2F85A;2F85B;2F85C;2F85D;2F85E;2F85F;2F860;2F861;2F862;2F863",
  "2f864;CJK COMPATIBILITY IDEOGRAPH-;2F864;2F865;2F866;2F867;2F868;2F869;2F86A;2F86B;2F86C;2F86D",
  "2f86e;CJK COMPATIBILITY IDEOGRAPH-;2F86E;2F86F;2F870;2F871;2F872;2F873;2F874;2F875;2F876;2F877",
  "2f878;CJK COMPATIBILITY IDEOGRAPH-;2F878;2F879;2F87A;2F87B;2F87C;2F87D;2F87E;2F87F;2F880;2F881",
  "2f882;CJK COMPATIBILITY IDEOGRAPH-;2F882;2F883;2F884;2F885;2F886;2F887;2F888;2F889;2F88A;2F88B",
  "2f88c;CJK COMPATIBILITY IDEOGRAPH-;2F88C;2F88D;2F88E;2F88F;2F890;2F891;2F892;2F893;2F894;2F895",
  "2f896;CJK COMPATIBILITY IDEOGRAPH-;2F896;2F897;2F898;2F899;2F89A;2F89B;2F89C;2F89D;2F89E;2F89F",
  "2f8a0;CJK COMPATIBILITY IDEOGRAPH-;2F8A0;2F8A1;2F8A2;2F8A3;2F8A4;2F8A5;2F8A6;2F8A7;2F8A8;2F8A9",
  "2f8aa;CJK COMPATIBILITY IDEOGRAPH-;2F8AA;2F8AB;2F8AC;2F8AD;2F8AE;2F8AF;2F8B0;2F8B1;2F8B2;2F8B3",
  "2f8b4;CJK COMPATIBILITY IDEOGRAPH-;2F8B4;2F8B5;2F8B6;2F8B7;2F8B8;2F8B9;2F8BA;2F8BB;2F8BC;2F8BD",
  "2f8be;CJK COMPATIBILITY IDEOGRAPH-;2F8BE;2F8BF;2F8C0;2F8C1;2F8C2;2F8C3;2F8C4;2F8C5;2F8C6;2F8C7",
  "2f8c8;CJK COMPATIBILITY IDEOGRAPH-;2F8C8;2F8C9;2F8CA;2F8CB;2F8CC;2F8CD;2F8CE;2F8CF;2F8D0;2F8D1",
  "2f8d2;CJK COMPATIBILITY IDEOGRAPH-;2F8D2;2F8D3;2F8D4;2F8D5;2F8D6;2F8D7;2F8D8;2F8D9;2F8DA;2F8DB",
  "2f8dc;CJK COMPATIBILITY IDEOGRAPH-;2F8DC;2F8DD;2F8DE;2F8DF;2F8E0;2F8E1;2F8E2;2F8E3;2F8E4;2F8E5",
  "2f8e6;CJK COMPATIBILITY IDEOGRAPH-;2F8E6;2F8E7;2F8E8;2F8E9;2F8EA;2F8EB;2F8EC;2F8ED;2F8EE;2F8EF",
  "2f8f0;CJK COMPATIBILITY IDEOGRAPH-;2F8F0;2F8F1;2F8F2;2F8F3;2F8F4;2F8F5;2F8F6;2F8F7;2F8F8;2F8F9",
  "2f8fa;CJK COMPATIBILITY IDEOGRAPH-;2F8FA;2F8FB;2F8FC;2F8FD;2F8FE;2F8FF;2F900;2F901;2F902;2F903",
  "2f904;CJK COMPATIBILITY IDEOGRAPH-;2F904;2F905;2F906;2F907;2F908;2F909;2F90A;2F90B;2F90C;2F90D",
  "2f90e;CJK COMPATIBILITY IDEOGRAPH-;2F90E;2F90F;2F910;2F911;2F912;2F913;2F914;2F915;2F916;2F917",
  "2f918;CJK COMPATIBILITY IDEOGRAPH-;2F918;2F919;2F91A;2F91B;2F91C;2F91D;2F91E;2F91F;2F920;2F921",
  "2f922;CJK COMPATIBILITY IDEOGRAPH-;2F922;2F923;2F924;2F925;2F926;2F927;2F928;2F929;2F92A;2F92B",
  "2f92c;CJK COMPATIBILITY IDEOGRAPH-;2F92C;2F92D;2F92E;2F92F;2F930;2F931;2F932;2F933;2F934;2F935",
  "2f936;CJK COMPATIBILITY IDEOGRAPH-;2F936;2F937;2F938;2F939;2F93A;2F93B;2F93C;2F93D;2F93E;2F93F",
  "2f940;CJK COMPATIBILITY IDEOGRAPH-;2F940;2F941;2F942;2F943;2F944;2F945;2F946;2F947;2F948;2F949",
  "2f94a;CJK COMPATIBILITY IDEOGRAPH-;2F94A;2F94B;2F94C;2F94D;2F94E;2F94F;2F950;2F951;2F952;2F953",
  "2f954;CJK COMPATIBILITY IDEOGRAPH-;2F954;2F955;2F956;2F957;2F958;2F959;2F95A;2F95B;2F95C;2F95D",
  "2f95e;CJK COMPATIBILITY IDEOGRAPH-;2F95E;2F95F;2F960;2F961;2F962;2F963;2F964;2F965;2F966;2F967",
  "2f968;CJK COMPATIBILITY IDEOGRAPH-;2F968;2F969;2F96A;2F96B;2F96C;2F96D;2F96E;2F96F;2F970;2F971",
  "2f972;CJK COMPATIBILITY IDEOGRAPH-;2F972;2F973;2F974;2F975;2F976;2F977;2F978;2F979;2F97A;2F97B",
  "2f97c;CJK COMPATIBILITY IDEOGRAPH-;2F97C;2F97D;2F97E;2F97F;2F980;2F981;2F982;2F983;2F984;2F985",
  "2f986;CJK COMPATIBILITY IDEOGRAPH-;2F986;2F987;2F988;2F989;2F98A;2F98B;2F98C;2F98D;2F98E;2F98F",
  "2f990;CJK COMPATIBILITY IDEOGRAPH-;2F990;2F991;2F992;2F993;2F994;2F995;2F996;2F997;2F998;2F999",
  "2f99a;CJK COMPATIBILITY IDEOGRAPH-;2F99A;2F99B;2F99C;2F99D;2F99E;2F99F;2F9A0;2F9A1;2F9A2;2F9A3",
  "2f9a4;CJK COMPATIBILITY IDEOGRAPH-;2F9A4;2F9A5;2F9A6;2F9A7;2F9A8;2F9A9;2F9AA;2F9AB;2F9AC;2F9AD",
  "2f9ae;CJK COMPATIBILITY IDEOGRAPH-;2F9AE;2F9AF;2F9B0;2F9B1;2F9B2;2F9B3;2F9B4;2F9B5;2F9B6;2F9B7",
  "2f9b8;CJK COMPATIBILITY IDEOGRAPH-;2F9B8;2F9B9;2F9BA;2F9BB;2F9BC;2F9BD;2F9BE;2F9BF;2F9C0;2F9C1",
  "2f9c2;CJK COMPATIBILITY IDEOGRAPH-;2F9C2;2F9C3;2F9C4;2F9C5;2F9C6;2F9C7;2F9C8;2F9C9;2F9CA;2F9CB",
  "2f9cc;CJK COMPATIBILITY IDEOGRAPH-;2F9CC;2F9CD;2F9CE;2F9CF;2F9D0;2F9D1;2F9D2;2F9D3;2F9D4;2F9D5",
  "2f9d6;CJK COMPATIBILITY IDEOGRAPH-;2F9D6;2F9D7;2F9D8;2F9D9;2F9DA;2F9DB;2F9DC;2F9DD;2F9DE;2F9DF",
  "2f9e0;CJK COMPATIBILITY IDEOGRAPH-;2F9E0;2F9E1;2F9E2;2F9E3;2F9E4;2F9E5;2F9E6;2F9E7;2F9E8;2F9E9",
  "2f9ea;CJK COMPATIBILITY IDEOGRAPH-;2F9EA;2F9EB;2F9EC;2F9ED;2F9EE;2F9EF;2F9F0;2F9F1;2F9F2;2F9F3",
  "2f9f4;CJK COMPATIBILITY IDEOGRAPH-;2F9F4;2F9F5;2F9F6;2F9F7;2F9F8;2F9F9;2F9FA;2F9FB;2F9FC;2F9FD",
  "2f9fe;CJK COMPATIBILITY IDEOGRAPH-;2F9FE;2F9FF;2FA00;2FA01;2FA02;2FA03;2FA04;2FA05;2FA06;2FA07",
  "2fa08;CJK COMPATIBILITY IDEOGRAPH-;2FA08;2FA09;2FA0A;2FA0B;2FA0C;2FA0D;2FA0E;2FA0F;2FA10;2FA11",
  "2fa12;CJK COMPATIBILITY IDEOGRAPH-;2FA12;2FA13;2FA14;2FA15;2FA16;2FA17;2FA18;2FA19;2FA1A;2FA1B",
  "2fa1c;CJK COMPATIBILITY IDEOGRAPH-;2FA1C;2FA1D",
  "e0001;;LANGUAGE TAG",
  "e0020;TAG ;SPACE;EXCLAMATION MARK;QUOTATION MARK;NUMBER SIGN;DOLLAR SIGN;PERCENT SIGN",
  "e0026;TAG ;AMPERSAND;APOSTROPHE;LEFT PARENTHESIS;RIGHT PARENTHESIS;ASTERISK;PLUS SIGN;COMMA",
  "e002d;TAG ;HYPHEN-MINUS;FULL STOP;SOLIDUS;DIGIT ZERO;DIGIT ONE;DIGIT TWO;DIGIT THREE",
  "e0034;TAG ;DIGIT FOUR;DIGIT FIVE;DIGIT SIX;DIGIT SEVEN;DIGIT EIGHT;DIGIT NINE;COLON;SEMICOLON",
  "e003c;TAG ;LESS-THAN SIGN;EQUALS SIGN;GREATER-THAN SIGN;QUESTION MARK;COMMERCIAL AT",
  "e0041;TAG LATIN CAPITAL LETTER ;A;B;C;D;E;F;G;H;I;J;K;L;M;N;O;P;Q;R;S;T;U;V;W;X;Y;Z",
  "e005b;TAG ;LEFT SQUARE BRACKET;REVERSE SOLIDUS;RIGHT SQUARE BRACKET;CIRCUMFLEX ACCENT;LOW LINE",
  "e0060;TAG ;GRAVE ACCENT;LATIN SMALL LETTER A;LATIN SMALL LETTER B;LATIN SMALL LETTER C",
  "e0064;TAG LATIN SMALL LETTER ;D;E;F;G;H;I;J;K;L;M;N;O;P;Q;R;S;T;U;V;W;X;Y;Z",
  "e007b;;TAG LEFT CURLY BRACKET;TAG VERTICAL LINE;TAG RIGHT CURLY BRACKET;TAG TILDE;CANCEL TAG",
  "e0100;VARIATION SELECTOR-;17;18;19;20;21;22;23;24;25;26;27;28;29;30;31;32;33;34;35;36;37;38;39",
  "e0117;VARIATION SELECTOR-;40;41;42;43;44;45;46;47;48;49;50;51;52;53;54;55;56;57;58;59;60;61;62",
  "e012e;VARIATION SELECTOR-;63;64;65;66;67;68;69;70;71;72;73;74;75;76;77;78;79;80;81;82;83;84;85",
  "e0145;VARIATION SELECTOR-;86;87;88;89;90;91;92;93;94;95;96;97;98;99;100;101;102;103;104;105",
  "e0159;VARIATION SELECTOR-;106;107;108;109;110;111;112;113;114;115;116;117;118;119;120;121;122",
  "e016a;VARIATION SELECTOR-;123;124;125;126;127;128;129;130;131;132;133;134;135;136;137;138;139",
  "e017b;VARIATION SELECTOR-;140;141;142;143;144;145;146;147;148;149;150;151;152;153;154;155;156",
  "e018c;VARIATION SELECTOR-;157;158;159;160;161;162;163;164;165;166;167;168;169;170;171;172;173",
  "e019d;VARIATION SELECTOR-;174;175;176;177;178;179;180;181;182;183;184;185;186;187;188;189;190",
  "e01ae;VARIATION SELECTOR-;191;192;193;194;195;196;197;198;199;200;201;202;203;204;205;206;207",
  "e01bf;VARIATION SELECTOR-;208;209;210;211;212;213;214;215;216;217;218;219;220;221;222;223;224",
  "e01d0;VARIATION SELECTOR-;225;226;227;228;229;230;231;232;233;234;235;236;237;238;239;240;241",
  "e01e1;VARIATION SELECTOR-;242;243;244;245;246;247;248;249;250;251;252;253;254;255;256",
  "fe00;VS;1;2;3;4;5;6;7;8;9;10;11;12;13;14;15;16",
  "e0100;VS;17;18;19;20;21;22;23;24;25;26;27;28;29;30;31;32;33;34;35;36;37;38;39;40;41;42;43;44",
  "e011c;VS;45;46;47;48;49;50;51;52;53;54;55;56;57;58;59;60;61;62;63;64;65;66;67;68;69;70;71;72",
  "e0138;VS;73;74;75;76;77;78;79;80;81;82;83;84;85;86;87;88;89;90;91;92;93;94;95;96;97;98;99;100",
  "e0154;;VS101;VS102;VS103;VS104;VS105;VS106;VS107;VS108;VS109;VS110;VS111;VS112;VS113;VS114",
  "e0162;;VS115;VS116;VS117;VS118;VS119;VS120;VS121;VS122;VS123;VS124;VS125;VS126;VS127;VS128",
  "e0170;;VS129;VS130;VS131;VS132;VS133;VS134;VS135;VS136;VS137;VS138;VS139;VS140;VS141;VS142",
  "e017e;;VS143;VS144;VS145;VS146;VS147;VS148;VS149;VS150;VS151;VS152;VS153;VS154;VS155;VS156",
  "e018c;;VS157;VS158;VS159;VS160;VS161;VS162;VS163;VS164;VS165;VS166;VS167;VS168;VS169;VS170",
  "e019a;;VS171;VS172;VS173;VS174;VS175;VS176;VS177;VS178;VS179;VS180;VS181;VS182;VS183;VS184",
  "e01a8;;VS185;VS186;VS187;VS188;VS189;VS190;VS191;VS192;VS193;VS194;VS195;VS196;VS197;VS198",
  "e01b6;VS;199;200;201;202;203;204;205;206;207;208;209;210;211;212;213;214;215;216;217;218;219",
  "e01cb;;VS220;VS221;VS222;VS223;VS224;VS225;VS226;VS227;VS228;VS229;VS230;VS231;VS232;VS233",
  "e01d9;;VS234;VS235;VS236;VS237;VS238;VS239;VS240;VS241;VS242;VS243;VS244;VS245;VS246;VS247",
  "e01e7;;VS248;VS249;VS250;VS251;VS252;VS253;VS254;VS255;VS256"]

end FoldTree.Text
