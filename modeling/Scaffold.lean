import Scaffold.Activity.Session
import Scaffold.Eval.Resolver
import Scaffold.Main
import Scaffold.File.Directory
import Scaffold.Proofs.Stack.Grammar
import Scaffold.Proofs.Outcome
import Scaffold.Proofs.Stack.Scopes
import Scaffold.Proofs.Stack.Spelling
import Scaffold.Proofs.Stack.Acceptance
import Scaffold.Proofs.Stack.Language
import Scaffold.Proofs.Stack.Moves
import Scaffold.Proofs.Stack.Rejection
import Scaffold.Proofs.Stack.Discipline
import Scaffold.Proofs.Stack.Positions
import Scaffold.Proofs.Stack.Parentheses
import Scaffold.Proofs.Stack.RoundTrip
import Scaffold.Proofs.Braced.Grammar
import Scaffold.Proofs.Braced.Spelling
import Scaffold.Proofs.Braced.Frames
import Scaffold.Proofs.Braced.Acceptance
import Scaffold.Proofs.Braced.Language
import Scaffold.Proofs.Braced.RoundTrip
import Scaffold.Proofs.Braced.Viability
import Scaffold.Proofs.Expr.Nodes
import Scaffold.Proofs.Expr.Translation
import Scaffold.Proofs.Stack.Escapes
import Scaffold.Proofs.Eval.Operands
import Scaffold.Proofs.Descriptor.Walk
import Scaffold.Proofs.Descriptor.Conditions
import Scaffold.Proofs.Descriptor.Element
import Scaffold.Proofs.Descriptor.Assembly
import Scaffold.Proofs.Descriptor.Frames
import Scaffold.Proofs.Descriptor.Reading
import Scaffold.Proofs.Descriptor.Regularity
import Scaffold.Proofs.Expr.Faithfulness
import Scaffold.Proofs.Command.Endings
import Scaffold.Proofs.Eval.Bindings
import Scaffold.Proofs.Eval.Kinds
import Scaffold.Proofs.Activity.Trace
import Scaffold.Proofs.Descriptor.Restoration
import Scaffold.Proofs.Command.Expressions
import Scaffold.Proofs.Eval.Aliases
import Scaffold.Proofs.Descriptor.Paths
import Scaffold.Proofs.Descriptor.Report
import Scaffold.Proofs.Descriptor.Openings
import Scaffold.Proofs.Descriptor.Ancestry
import Scaffold.Proofs.Descriptor.Closing
import Scaffold.Proofs.Descriptor.Depth
import Scaffold.Proofs.Descriptor.Delivery
import Scaffold.Proofs.Text.Trimming
import Scaffold.Proofs.Text.Surrogates
import Scaffold.Proofs.Text.CommaList
import Scaffold.Proofs.Markup.Collection
import Scaffold.Proofs.Eval.Footprint
import Scaffold.Proofs.Descriptor.Likeness
import Scaffold.Proofs.Descriptor.Siblings
