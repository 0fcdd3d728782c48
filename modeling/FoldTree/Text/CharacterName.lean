import FoldTree.Text.CharacterName.Alphabets
import FoldTree.Text.CharacterName.EastAsian
import FoldTree.Text.CharacterName.Historic
import FoldTree.Text.CharacterName.Pictures
import FoldTree.Text.CharacterName.Syllables
import FoldTree.Text.CharacterName.Symbols
import FoldTree.Text.CodeSet

/-! Names of characters, as the character database gives them: listed, or made by rule for Han and
Hangul. Case does not matter in listed names. A line of names gives a code point, what the names
from there on begin with, and how each of them goes on.
-/

namespace FoldTree.Text

/-- The lines of all listed names. -/
def nameLines : List (List String) :=
  [alphabetLines, syllableLines, symbolLines, eastAsianLines, historicLines, pictureLines]

/-- Other names: those of controls, short ones, and corrections. Each code point stands in front of
its own.
-/
def aliasLines : List String := [
  "0;NULL;NUL|1;START OF HEADING;SOH|2;START OF TEXT;STX|3;END OF TEXT;ETX",
  "4;END OF TRANSMISSION;EOT|5;ENQUIRY;ENQ|6;ACKNOWLEDGE;ACK|7;ALERT;BEL|8;BACKSPACE;BS",
  "9;CHARACTER TABULATION;HORIZONTAL TABULATION;HT;TAB|a;LINE FEED;NEW LINE;END OF LINE;LF;NL;EOL",
  "b;LINE TABULATION;VERTICAL TABULATION;VT|c;FORM FEED;FF|d;CARRIAGE RETURN;CR",
  "e;SHIFT OUT;LOCKING-SHIFT ONE;SO|f;SHIFT IN;LOCKING-SHIFT ZERO;SI|10;DATA LINK ESCAPE;DLE",
  "11;DEVICE CONTROL ONE;DC1|12;DEVICE CONTROL TWO;DC2|13;DEVICE CONTROL THREE;DC3",
  "14;DEVICE CONTROL FOUR;DC4|15;NEGATIVE ACKNOWLEDGE;NAK|16;SYNCHRONOUS IDLE;SYN",
  "17;END OF TRANSMISSION BLOCK;ETB|18;CANCEL;CAN|19;END OF MEDIUM;EOM|1a;SUBSTITUTE;SUB",
  "1b;ESCAPE;ESC|1c;INFORMATION SEPARATOR FOUR;FILE SEPARATOR;FS",
  "1d;INFORMATION SEPARATOR THREE;GROUP SEPARATOR;GS",
  "1e;INFORMATION SEPARATOR TWO;RECORD SEPARATOR;RS",
  "1f;INFORMATION SEPARATOR ONE;UNIT SEPARATOR;US|20;SP|7f;DELETE;DEL|80;PADDING CHARACTER;PAD",
  "81;HIGH OCTET PRESET;HOP|82;BREAK PERMITTED HERE;BPH|83;NO BREAK HERE;NBH|84;INDEX;IND",
  "85;NEXT LINE;NEL|86;START OF SELECTED AREA;SSA|87;END OF SELECTED AREA;ESA",
  "88;CHARACTER TABULATION SET;HORIZONTAL TABULATION SET;HTS",
  "89;CHARACTER TABULATION WITH JUSTIFICATION;HORIZONTAL TABULATION WITH JUSTIFICATION;HTJ",
  "8a;LINE TABULATION SET;VERTICAL TABULATION SET;VTS",
  "8b;PARTIAL LINE FORWARD;PARTIAL LINE DOWN;PLD|8c;PARTIAL LINE BACKWARD;PARTIAL LINE UP;PLU",
  "8d;REVERSE LINE FEED;REVERSE INDEX;RI|8e;SINGLE SHIFT TWO;SINGLE-SHIFT-2;SS2",
  "8f;SINGLE SHIFT THREE;SINGLE-SHIFT-3;SS3|90;DEVICE CONTROL STRING;DCS",
  "91;PRIVATE USE ONE;PRIVATE USE-1;PU1|92;PRIVATE USE TWO;PRIVATE USE-2;PU2",
  "93;SET TRANSMIT STATE;STS|94;CANCEL CHARACTER;CCH|95;MESSAGE WAITING;MW",
  "96;START OF GUARDED AREA;START OF PROTECTED AREA;SPA",
  "97;END OF GUARDED AREA;END OF PROTECTED AREA;EPA|98;START OF STRING;SOS",
  "99;SINGLE GRAPHIC CHARACTER INTRODUCER;SGC|9a;SINGLE CHARACTER INTRODUCER;SCI",
  "9b;CONTROL SEQUENCE INTRODUCER;CSI|9c;STRING TERMINATOR;ST|9d;OPERATING SYSTEM COMMAND;OSC",
  "9e;PRIVACY MESSAGE;PM|9f;APPLICATION PROGRAM COMMAND;APC|a0;NBSP|ad;SHY",
  "1a2;LATIN CAPITAL LETTER GHA|1a3;LATIN SMALL LETTER GHA|34f;CGJ|61c;ALM",
  "709;SYRIAC SUBLINEAR COLON SKEWED LEFT|cde;KANNADA LETTER LLLA|e9d;LAO LETTER FO FON",
  "e9f;LAO LETTER FO FAY|ea3;LAO LETTER RO|ea5;LAO LETTER LO",
  "fd0;TIBETAN MARK BKA- SHOG GI MGO RGYAN|11ec;HANGUL JONGSEONG YESIEUNG-KIYEOK",
  "11ed;HANGUL JONGSEONG YESIEUNG-SSANGKIYEOK|11ee;HANGUL JONGSEONG SSANGYESIEUNG",
  "11ef;HANGUL JONGSEONG YESIEUNG-KHIEUKH|180b;FVS1|180c;FVS2|180d;FVS3|180e;MVS|180f;FVS4",
  "200b;ZWSP|200c;ZWNJ|200d;ZWJ|200e;LRM|200f;RLM|202a;LRE|202b;RLE|202c;PDF|202d;LRO|202e;RLO",
  "202f;NNBSP|205f;MMSP|2060;WJ|2066;LRI|2067;RLI|2068;FSI|2069;PDI",
  "2118;WEIERSTRASS ELLIPTIC FUNCTION|2448;MICR ON US SYMBOL|2449;MICR DASH SYMBOL",
  "2b7a;LEFTWARDS TRIANGLE-HEADED ARROW WITH DOUBLE VERTICAL STROKE",
  "2b7c;RIGHTWARDS TRIANGLE-HEADED ARROW WITH DOUBLE VERTICAL STROKE",
  "a015;YI SYLLABLE ITERATION MARK|aa6e;MYANMAR LETTER KHAMTI LLA",
  "fe18;PRESENTATION FORM FOR VERTICAL RIGHT WHITE LENTICULAR BRACKET",
  "feff;BYTE ORDER MARK;BOM;ZWNBSP|122d4;CUNEIFORM SIGN NU11 TENU",
  "122d5;CUNEIFORM SIGN NU11 OVER NU11 BUR OVER BUR|16e56;MEDEFAIDRIN CAPITAL LETTER H",
  "16e57;MEDEFAIDRIN CAPITAL LETTER NG|16e76;MEDEFAIDRIN SMALL LETTER H",
  "16e77;MEDEFAIDRIN SMALL LETTER NG|1b001;HENTAIGANA LETTER E-1",
  "1d0c5;BYZANTINE MUSICAL SYMBOL FTHORA SKLIRON CHROMA VASIS"]

/-- The code points of unified Han characters. -/
def hanRanges : List (Nat × Nat) :=
  [(0x3400, 0x4dbf), (0x4e00, 0x9fff), (0x20000, 0x2a6df), (0x2a700, 0x2b738), (0x2b740,
   0x2b81d), (0x2b820, 0x2cea1), (0x2ceb0, 0x2ebe0), (0x30000, 0x3134a)]

/-- The sounds that start, fill and end a Hangul syllable, by their place in its code point. -/
def hangulSounds : List String × List String × List String :=
  (["G", "GG", "N", "D", "DD", "R", "M", "B", "BB", "S", "SS", "", "J", "JJ", "C", "K", "T",
     "P", "H"],
   ["A", "AE", "YA", "YAE", "EO", "E", "YEO", "YE", "O", "WA", "WAE", "OE", "YO", "U", "WEO",
     "WE", "WI", "YU", "EU", "YI", "I"],
   ["", "G", "GG", "GS", "N", "NJ", "NH", "D", "L", "LG", "LM", "LB", "LS", "LT", "LP", "LH",
     "M", "B", "BS", "S", "SS", "NG", "J", "C", "K", "T", "P", "H"])

/-- A letter of the ASCII alphabet as a capital; other characters stay. -/
def asciiUpper (c : Char) : Char :=
  if 'a' ≤ c ∧ c ≤ 'z' then Char.ofNat (c.toNat - 32) else c

/-- The code point of a name in one line of names, counted on from that of the first of them. -/
def findInLine? (name line : List Char) : Option Nat :=
  match cutAt ';' line with
  | code :: stem :: ends => do
    guard (stem.isPrefixOf name)
    let place ← ends.idxOf? (name.drop stem.length)
    return hexValue code + place
  | _ => none

/-- The code point of a name among the other names of one code point. -/
def findAlias? (name entry : List Char) : Option Nat :=
  match cutAt ';' entry with
  | code :: names => if names.contains name then some (hexValue code) else none
  | [] => none

/-- The code point of a Han character by its name, which ends in the code point. -/
def findHan? (name : List Char) : Option Nat :=
  let stem := "CJK UNIFIED IDEOGRAPH-".toList
  let digits := name.drop stem.length
  let code := hexValue digits
  if stem.isPrefixOf name && (digits.length = 4 || digits.length = 5)
      && digits.all (fun c => (hexDigit? c).isSome && asciiUpper c = c)
      && hanRanges.any (fun range => range.1 ≤ code && code ≤ range.2) then some code
  else none

/-- The code point of a Hangul syllable by its name, which spells its sounds. -/
def findHangul? (name : List Char) : Option Nat :=
  let stem := "HANGUL SYLLABLE ".toList
  if stem.isPrefixOf name then
    let spelled := name.drop stem.length
    (List.range 11172).findSome? fun index =>
      let sound (sounds : List String) (place : Nat) := ((sounds[place]?).getD "").toList
      if sound hangulSounds.1 (index / 588) ++ sound hangulSounds.2.1 (index % 588 / 28)
          ++ sound hangulSounds.2.2 (index % 28) = spelled then some (0xac00 + index)
      else none
  else none

/-- The code point of a name. -/
def codeOfName? (name : List Char) : Option Nat :=
  let upper := name.map asciiUpper
  (findHan? name).orElse fun () => (findHangul? name).orElse fun () =>
    (nameLines.findSome? fun lines =>
      lines.findSome? fun line => findInLine? upper line.toList).orElse fun () =>
        aliasLines.findSome? fun line => (cutAt '|' line.toList).findSome? (findAlias? upper)

end FoldTree.Text
