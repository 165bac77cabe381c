import PathQuery.Bindings
import PathQuery.Construction.Parts
import PathQuery.Construction.Session
import PathQuery.Construction.Store
import PathQuery.Context
import PathQuery.Evaluation
import PathQuery.Expr.Arity
import PathQuery.Expr.Basic
import PathQuery.Expr.Malformed
import PathQuery.Expr.Parser
import PathQuery.Expr.Token
import PathQuery.Function.Additional
import PathQuery.Function.Core
import PathQuery.Function.Library
import PathQuery.Function.Signature
import PathQuery.Number.Arithmetic
import PathQuery.Number.Basic
import PathQuery.Number.Bits
import PathQuery.Number.Decimal
import PathQuery.Proofs.Evaluation.Discipline
import PathQuery.Proofs.Evaluation.DocumentOrder
import PathQuery.Proofs.Evaluation.Safety
import PathQuery.Proofs.Evaluation.Typing
import PathQuery.Proofs.Function.Core
import PathQuery.Proofs.Grammar.Boundaries
import PathQuery.Proofs.Grammar.Completeness
import PathQuery.Proofs.Grammar.Derivation
import PathQuery.Proofs.Grammar.Layers
import PathQuery.Proofs.Grammar.Soundness
import PathQuery.Proofs.Grammar.Uniqueness
import PathQuery.Proofs.Grammar.WellFormed
import PathQuery.Proofs.Order.Keys
import PathQuery.Proofs.Order.NodeSets
import PathQuery.Proofs.Order.Sorting
import PathQuery.Proofs.Order.Traversal
import PathQuery.Proofs.Outcome
import PathQuery.Proofs.Tree.Preorder
import PathQuery.Proofs.Tree.Presence
import PathQuery.Proofs.Value.Comparison
import PathQuery.Query
import PathQuery.Selector.Basic
import PathQuery.Selector.Expression
import PathQuery.Selector.Lexeme
import PathQuery.Selector.Parser
import PathQuery.Selector.Query
import PathQuery.Text.CaseData
import PathQuery.Text.Characters
import PathQuery.Text.Charset
import PathQuery.Text.Charset.Chinese
import PathQuery.Text.Charset.Japanese
import PathQuery.Text.Charset.Korean
import PathQuery.Text.Charset.Single
import PathQuery.Text.Lower
import PathQuery.Text.Name
import PathQuery.Text.Scanner
import PathQuery.Text.Search
import PathQuery.Text.UriReference
import PathQuery.Text.Words
import PathQuery.Tree.Axis
import PathQuery.Tree.Basic
import PathQuery.Tree.Describe
import PathQuery.Tree.Lookup
import PathQuery.Tree.Node
import PathQuery.Tree.Order
import PathQuery.Tree.Scope
import PathQuery.Tree.Traversal
import PathQuery.Value.Basic
import PathQuery.Value.Comparison
import PathQuery.Value.Datum
import PathQuery.Value.NodeSet
import PathQuery.Xml.Declaration
import PathQuery.Xml.Doctype
import PathQuery.Xml.Document
import PathQuery.Xml.Draft
import PathQuery.Xml.Encoding
import PathQuery.Xml.Finding
import PathQuery.Xml.Markup
import PathQuery.Xml.Opening
import PathQuery.Xml.Piece
import PathQuery.Xml.Reading
import PathQuery.Xml.Source
import PathQuery.Xml.Subset
import PathQuery.Xml.Survey
import PathQuery.Xml.Tree
import PathQuery.Proofs.Axis.Relatives
import PathQuery.Proofs.Axis.Direction
import PathQuery.Proofs.Axis.Partition
import PathQuery.Proofs.Evaluation.Counterparts
import PathQuery.Proofs.Evaluation.Correspondence
import PathQuery.Proofs.Function.Correspondence
import PathQuery.Proofs.Axis.Translation
import PathQuery.Proofs.Evaluation.Steps
import PathQuery.Proofs.Evaluation.LocationPath
import PathQuery.Proofs.Axis.Enclosure
import PathQuery.Proofs.Evaluation.Enclosure
import PathQuery.Proofs.Number.Order
import PathQuery.Proofs.Evaluation.Locality
import PathQuery.Proofs.Token.Scan
import PathQuery.Proofs.Evaluation.Leniency
import PathQuery.Proofs.Construction.Adoption
import PathQuery.Proofs.Construction.Histories
import PathQuery.Proofs.Tree.Scope
import PathQuery.Proofs.Xml.Namespaces
import PathQuery.Proofs.Axis.Composition
import PathQuery.Proofs.Evaluation.PlainSteps
import PathQuery.Proofs.Evaluation.Identities
import PathQuery.Proofs.Evaluation.Roots
import PathQuery.Proofs.Number.Rounding
import PathQuery.Proofs.Number.Shortest
import PathQuery.Proofs.Number.Notation
import PathQuery.Proofs.Number.Integers
import PathQuery.Proofs.Evaluation.Positions
import PathQuery.Proofs.Evaluation.SoleItem
import PathQuery.Proofs.Evaluation.MissingAxes
import PathQuery.Proofs.Evaluation.Totality
import PathQuery.Proofs.Grammar.Continuation
import PathQuery.Proofs.Token.Joining
import PathQuery.Proofs.Grammar.ValidPrefix
import PathQuery.Proofs.Grammar.Structure
import PathQuery.Proofs.Grammar.Spacing
import PathQuery.Proofs.Grammar.Abbreviations
import PathQuery.Proofs.Grammar.Cursor
import PathQuery.Proofs.Grammar.CursorSafety
import PathQuery.Proofs.Token.Separation
import PathQuery.Proofs.Number.IntegerRounding
import PathQuery.Proofs.Construction.Failures
import PathQuery.Proofs.Construction.Sessions
import PathQuery.Proofs.Construction.Trees
import PathQuery.Proofs.Grammar.Gaps
import PathQuery.Proofs.Grammar.NameColons
import PathQuery.Proofs.Order.Selections
import PathQuery.Proofs.Text.Words
import PathQuery.Proofs.Function.Identifiers
import PathQuery.Proofs.Tree.Collected
import PathQuery.Proofs.Xml.Names
import PathQuery.Proofs.Xml.Merging
import PathQuery.Proofs.Xml.Strands
import PathQuery.Proofs.Text.Folding
import PathQuery.Proofs.Bindings
import PathQuery.Proofs.Tree.Declarations
import PathQuery.Proofs.Number.ExactSums
import PathQuery.Proofs.Function.Slices
import PathQuery.Proofs.Text.Search
import PathQuery.Proofs.Tree.Stacks
import PathQuery.Proofs.Tree.Descendants
