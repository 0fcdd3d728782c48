import FoldTree.Source.Position

/-! Tokens of a source text. -/

namespace FoldTree.Source

/-- A text literal as it is spelled: what its letters in front say, and what stands between its
quotes.
-/
structure Literal where
  isRaw : Bool
  isBytes : Bool
  isFormatted : Bool
  body : List Char
deriving DecidableEq, Repr

/-- What a token is. Names and keywords have their spelling; line structure has tokens of its
own.
-/
inductive Lexeme where
  | name (spelling : String)
  | keyword (spelling : String)
  | number (imaginary : Bool)
  | literal (literal : Literal)
  | mark (spelling : String)
  | newline
  | indent
  | dedent
  | finish
deriving DecidableEq, Repr

namespace Lexeme

/-- Whether a token stands for characters of the text and not for line structure. -/
def isVisible : Lexeme → Bool
  | .newline | .indent | .dedent | .finish => false
  | _ => true

end Lexeme

/-- A token with its place. -/
structure Token where
  lexeme : Lexeme
  extent : Extent
deriving DecidableEq, Repr

/-- The words that are never names. -/
def keywords : List String :=
  ["False", "None", "True", "and", "as", "assert", "async", "await", "break", "class", "continue",
    "def", "del", "elif", "else", "except", "finally", "for", "from", "global", "if", "import",
    "in", "is", "lambda", "nonlocal", "not", "or", "pass", "raise", "return", "try", "while",
    "with", "yield"]

/-- The signs of three characters, of two, and of one. -/
def marks : List (List String) :=
  [["**=", "//=", "<<=", ">>=", "..."],
    ["!=", "%=", "&=", "**", "*=", "+=", "-=", "->", "//", "/=", ":=", "<<", "<=", "<>", "==",
      ">=", ">>", "@=", "^=", "|="],
    ["%", "&", "(", ")", "*", "+", ",", "-", ".", "/", ":", ";", "<", "=", ">", "@", "[", "]",
      "^", "\x7b", "|", "\x7d", "~"]]

end FoldTree.Source
