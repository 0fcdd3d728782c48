import FoldTree.Console.Command
import FoldTree.Console.Display
import FoldTree.Console.Markup
import FoldTree.Console.Run
import FoldTree.Console.Table
import FoldTree.Console.Wrapped
import FoldTree.Decimal.Layout
import FoldTree.Decimal.Numeral
import FoldTree.Decimal.Power
import FoldTree.Decimal.Reading
import FoldTree.Decimal.Shortest
import FoldTree.Json
import FoldTree.Main
import FoldTree.Offer.Basic
import FoldTree.Offer.Sampler
import FoldTree.Offer.Scored
import FoldTree.Path
import FoldTree.Profit.Policy
import FoldTree.Proofs.Console.Columns
import FoldTree.Proofs.Console.Listing
import FoldTree.Proofs.Console.Markup
import FoldTree.Proofs.Console.Numerals
import FoldTree.Proofs.Console.Previews
import FoldTree.Proofs.Console.Printing
import FoldTree.Proofs.Console.Running
import FoldTree.Proofs.Console.Telling
import FoldTree.Proofs.Decimal.Doubles
import FoldTree.Proofs.Entries
import FoldTree.Proofs.Groups
import FoldTree.Proofs.Hanging
import FoldTree.Proofs.Joints
import FoldTree.Proofs.Json.Documents
import FoldTree.Proofs.Json.Grammar
import FoldTree.Proofs.Json.Numbers
import FoldTree.Proofs.Lineage
import FoldTree.Proofs.Offer.Agreement
import FoldTree.Proofs.Offer.Baseline
import FoldTree.Proofs.Offer.Ceiling
import FoldTree.Proofs.Offer.Commitment
import FoldTree.Proofs.Offer.Dues
import FoldTree.Proofs.Offer.Failing
import FoldTree.Proofs.Offer.Marks
import FoldTree.Proofs.Offer.Payment
import FoldTree.Proofs.Offer.Profits
import FoldTree.Proofs.Offer.Questions
import FoldTree.Proofs.Offer.Restoration
import FoldTree.Proofs.Offer.Scoring
import FoldTree.Proofs.Offer.Sweep
import FoldTree.Proofs.Offer.Unfolding
import FoldTree.Proofs.Offer.Walk
import FoldTree.Proofs.Outcome
import FoldTree.Proofs.Profit.Names
import FoldTree.Proofs.Settings.Changes
import FoldTree.Proofs.Settings.Loading
import FoldTree.Proofs.Settings.Merging
import FoldTree.Proofs.Settings.Texts
import FoldTree.Proofs.Source.Attribution
import FoldTree.Proofs.Source.Blocks
import FoldTree.Proofs.Source.BreakingOff
import FoldTree.Proofs.Source.Carriers
import FoldTree.Proofs.Source.Constructs
import FoldTree.Proofs.Source.FinalNewline
import FoldTree.Proofs.Source.Grafts
import FoldTree.Proofs.Source.Grammar.Leading
import FoldTree.Proofs.Source.Grammar.Reading
import FoldTree.Proofs.Source.Grammar.Simple
import FoldTree.Proofs.Source.Grammar.Statement
import FoldTree.Proofs.Source.Grouping
import FoldTree.Proofs.Source.Innermost
import FoldTree.Proofs.Source.Layout
import FoldTree.Proofs.Source.Lexing
import FoldTree.Proofs.Source.LineByLine
import FoldTree.Proofs.Source.LineEnds
import FoldTree.Proofs.Source.MissingLines
import FoldTree.Proofs.Source.MovedRegions
import FoldTree.Proofs.Source.Nesting
import FoldTree.Proofs.Source.Places
import FoldTree.Proofs.Source.Progress
import FoldTree.Proofs.Source.Ranges
import FoldTree.Proofs.Source.Regions
import FoldTree.Proofs.Source.Retexting
import FoldTree.Proofs.Source.ReturnedLines
import FoldTree.Proofs.Source.Scanning
import FoldTree.Proofs.Source.Spelling
import FoldTree.Proofs.Source.Standing
import FoldTree.Proofs.Source.Stretches
import FoldTree.Proofs.Source.UniqueCosts
import FoldTree.Proofs.Source.Visit
import FoldTree.Proofs.Source.Visitor
import FoldTree.Proofs.Source.Wording
import FoldTree.Proofs.Subtrees
import FoldTree.Proofs.Term.Introductions
import FoldTree.Proofs.Term.Listing
import FoldTree.Proofs.Term.Naming
import FoldTree.Proofs.Term.Occurrences
import FoldTree.Proofs.Term.Pieces
import FoldTree.Proofs.Term.Words
import FoldTree.Proofs.Text.Offset
import FoldTree.Proofs.Text.Returns
import FoldTree.Proofs.Text.Trimming
import FoldTree.Proofs.Toml.Keys
import FoldTree.Proofs.Tree.Ancestry
import FoldTree.Proofs.Tree.Blueprint
import FoldTree.Proofs.Tree.Completeness
import FoldTree.Proofs.Tree.Construction
import FoldTree.Proofs.Tree.Editing
import FoldTree.Proofs.Tree.Faces
import FoldTree.Proofs.Tree.Forest
import FoldTree.Proofs.Tree.Grafting
import FoldTree.Proofs.Tree.Growth
import FoldTree.Proofs.Tree.History
import FoldTree.Proofs.Tree.Leveling
import FoldTree.Proofs.Tree.Levels
import FoldTree.Proofs.Tree.Links
import FoldTree.Proofs.Tree.Looping
import FoldTree.Proofs.Tree.OwnTexts
import FoldTree.Proofs.Tree.Parting
import FoldTree.Proofs.Tree.Plans
import FoldTree.Proofs.Tree.Planting
import FoldTree.Proofs.Tree.Positions
import FoldTree.Proofs.Tree.Recursion
import FoldTree.Proofs.Tree.Relocation
import FoldTree.Proofs.Tree.Shape
import FoldTree.Proofs.Tree.Sharing
import FoldTree.Proofs.Tree.Shown
import FoldTree.Proofs.Tree.SpanTable
import FoldTree.Proofs.Tree.Spanning
import FoldTree.Proofs.Tree.Sprouting
import FoldTree.Proofs.Tree.Traversal
import FoldTree.Proofs.Tree.Writing
import FoldTree.Region
import FoldTree.Rose
import FoldTree.Settings.Basic
import FoldTree.Settings.Layers
import FoldTree.Source.Comment
import FoldTree.Source.FormattedText
import FoldTree.Source.Grammar.Argument
import FoldTree.Source.Grammar.Atom
import FoldTree.Source.Grammar.Display
import FoldTree.Source.Grammar.Expression
import FoldTree.Source.Grammar.Parameter
import FoldTree.Source.Grammar.Pattern
import FoldTree.Source.Grammar.Phrases
import FoldTree.Source.Grammar.Rule
import FoldTree.Source.Grammar.Simple
import FoldTree.Source.Grammar.Statement
import FoldTree.Source.Grammar.Target
import FoldTree.Source.Lexer
import FoldTree.Source.Literal
import FoldTree.Source.Number
import FoldTree.Source.Outline
import FoldTree.Source.Position
import FoldTree.Source.Program
import FoldTree.Source.Skeleton
import FoldTree.Source.Token
import FoldTree.Surroundings
import FoldTree.Term.Bag
import FoldTree.Term.Split
import FoldTree.Text.Blank
import FoldTree.Text.CellWidth
import FoldTree.Text.CharacterName
import FoldTree.Text.CharacterName.Alphabets
import FoldTree.Text.CharacterName.EastAsian
import FoldTree.Text.CharacterName.Historic
import FoldTree.Text.CharacterName.Pictures
import FoldTree.Text.CharacterName.Syllables
import FoldTree.Text.CharacterName.Symbols
import FoldTree.Text.CodeSet
import FoldTree.Text.Compatibility
import FoldTree.Text.Identifier
import FoldTree.Text.Lines
import FoldTree.Text.LowerCase
import FoldTree.Text.Printable
import FoldTree.Text.Quoted
import FoldTree.Text.Slice
import FoldTree.Toml.Document
import FoldTree.Toml.Moment
import FoldTree.Toml.Scalar
import FoldTree.Toml.Value
import FoldTree.Tree.Basic
import FoldTree.Tree.Cost
import FoldTree.Tree.Graft
import FoldTree.Tree.Levels
import FoldTree.Tree.Loop
import FoldTree.Tree.OwnText
import FoldTree.Tree.Record
import FoldTree.Tree.Report
import FoldTree.Tree.Span
import FoldTree.Tree.Walk
