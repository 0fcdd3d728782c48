import FoldTree.Source.Position

/-! Programs as far as folding looks at them: which words an expression mentions and in which
order, what can be assigned to, and how statements nest in the lines of the text.
-/

namespace FoldTree.Source

/-- An expression. Shapes that can be assigned to are kept apart, and so are text constants; all
other expressions are their parts in the order in which their words count. A label is a word in
front of parts: a parameter with its type, or a named argument with its value.
-/
inductive Expr where
  | name (word : String)
  | text (value : List Char)
  | attribute (owner : Expr) (word : String)
  | subscript (owner index : Expr)
  | starred (value : Expr)
  | tuple (items : List Expr)
  | list (items : List Expr)
  | labelled (word : String) (parts : List Expr)
  | compound (parts : List Expr)

/-- An expression of no words. -/
def Expr.constant : Expr := .compound []

instance : Inhabited Expr := ⟨.constant⟩

mutual

/-- The words of an expression in the order in which they count: an attribute after what it
belongs to, a label before what it labels.
-/
def Expr.words : Expr → List String
  | .name word => [word]
  | .text _ => []
  | .attribute owner word => owner.words ++ [word]
  | .subscript owner index => owner.words ++ index.words
  | .starred value => value.words
  | .tuple items => wordsOfAll items
  | .list items => wordsOfAll items
  | .labelled word parts => word :: wordsOfAll parts
  | .compound parts => wordsOfAll parts

/-- The words of several expressions, one after the other. -/
def Expr.wordsOfAll : List Expr → List String
  | [] => []
  | part :: rest => part.words ++ wordsOfAll rest

end

/-- The kinds of compound statement, apart from definitions. -/
inductive BlockKind where
  | conditional
  | loop
  | asyncLoop
  | whileLoop
  | guarded
  | guardedGroups
  | context
  | asyncContext
  | choice
deriving DecidableEq, Repr

/-- The word for a kind of compound statement. -/
def BlockKind.word : BlockKind → String
  | .conditional => "if"
  | .loop => "for"
  | .asyncLoop => "asyncfor"
  | .whileLoop => "while"
  | .guarded => "try"
  | .guardedGroups => "trystar"
  | .context => "with"
  | .asyncContext => "asyncwith"
  | .choice => "match"

/-- What a definition defines. -/
inductive Definition where
  | function
  | classDef
deriving DecidableEq, Repr

mutual

/-- A statement. An expression on its own is kept apart from other simple statements, which are
the expressions in them, and from imports, which are words. The decorators of a definition stand
before its extent, its header before its body, and its trailer, the type of what it gives, counts
after its body.
-/
inductive Stmt where
  | evaluate (extent : Extent) (value : Expr)
  | simple (extent : Extent) (parts : List Expr)
  | importing (extent : Extent) (words : List String)
  | define (extent : Extent) (sort : Definition) (name : String) (decorators header : List Expr)
      (body : List Stmt) (trailer : List Expr)
  | block (extent : Extent) (kind : BlockKind) (clauses : List Clause)

/-- A part of a compound statement: expressions, and the statements that they stand over. -/
inductive Clause where
  | mk (header : List Expr) (body : List Stmt)

end

instance : Inhabited Stmt := ⟨.simple default []⟩

namespace Stmt

/-- The places of a statement. -/
def extent : Stmt → Extent
  | .evaluate extent _ => extent
  | .simple extent _ => extent
  | .importing extent _ => extent
  | .define extent .. => extent
  | .block extent .. => extent

/-- Whether a statement imports. -/
def isImport : Stmt → Bool
  | .importing .. => true
  | _ => false

end Stmt

/-- The text that a body starts with, if its first statement is a text constant. -/
def docText? : List Stmt → Option (Extent × List Char)
  | .evaluate extent (.text value) :: _ => some (extent, value)
  | _ => none

end FoldTree.Source
