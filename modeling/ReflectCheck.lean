import ReflectCheck.Text.RangeTable
import ReflectCheck.Text.Blank
import ReflectCheck.Text.GraphemeExtend
import ReflectCheck.Text.Unprintable
import ReflectCheck.Text.Quoted
import ReflectCheck.Value
import ReflectCheck.Fault
import ReflectCheck.Space.Basic
import ReflectCheck.Space.Reflect
import ReflectCheck.Expr.Token
import ReflectCheck.Expr.Basic
import ReflectCheck.Namespace
import ReflectCheck.Expr.Eval
import ReflectCheck.Text.Structural
import ReflectCheck.Json.Basic
import ReflectCheck.Json.Read
import ReflectCheck.Outcome
import ReflectCheck.Registry
import ReflectCheck.Summary
import ReflectCheck.Report
import ReflectCheck.Shapes
import ReflectCheck.Binary64.Basic
import ReflectCheck.Binary64.Shortest
import ReflectCheck.Toml.Datetime
import ReflectCheck.Toml.Token
import ReflectCheck.Toml.Error
import ReflectCheck.Toml.Parse
import ReflectCheck.Toml.Scalar
import ReflectCheck.Toml.Document
import ReflectCheck.Toml.Decode
import ReflectCheck.Fixture.Schema
import ReflectCheck.Fixture.LoadError
import ReflectCheck.Fixture.Load
import ReflectCheck.Config
import ReflectCheck.Fixture.ClassFamily
import ReflectCheck.Files.Path
import ReflectCheck.Files.Tree
import ReflectCheck.Bounded
import ReflectCheck.Fixture.Discovery
import ReflectCheck.Suite
import ReflectCheck.Verification
import ReflectCheck.Command.Suggest
import ReflectCheck.Command.Help
import ReflectCheck.Command.Parse
import ReflectCheck.Command.Run
import ReflectCheck.Proofs.Space.Growth
import ReflectCheck.Proofs.Space.Stability
import ReflectCheck.Proofs.Registry.Run
import ReflectCheck.Proofs.Space.Bounds
import ReflectCheck.Proofs.Space.Replay
import ReflectCheck.Proofs.Expr.Replay
import ReflectCheck.Proofs.Fixture.Sound
import ReflectCheck.Proofs.Fixture.Rerun
import ReflectCheck.Proofs.Expr.Lexing
import ReflectCheck.Proofs.Expr.Grammar
import ReflectCheck.Proofs.Expr.Paths
import ReflectCheck.Proofs.Namespace.Bindings
import ReflectCheck.Proofs.Fixture.Faults
import ReflectCheck.Proofs.Fixture.Declarations
import ReflectCheck.Proofs.Suite.Bounded
import ReflectCheck.Proofs.Suite.Gate
import ReflectCheck.Proofs.Space.Descriptors
import ReflectCheck.Proofs.Space.Chains
import ReflectCheck.Proofs.Value.Display
import ReflectCheck.Proofs.Space.Inspect
import ReflectCheck.Proofs.Fixture.Names
import ReflectCheck.Proofs.Fixture.Records
import ReflectCheck.Proofs.Space.Atomic
import ReflectCheck.Proofs.Expr.Trim
import ReflectCheck.Proofs.Report.Lines
import ReflectCheck.Proofs.Space.Raised
import ReflectCheck.Proofs.Fixture.Lines
import ReflectCheck.Proofs.Suite.Counts
import ReflectCheck.Proofs.Space.Depth
import ReflectCheck.Proofs.Files.Order
import ReflectCheck.Proofs.Files.Tree
import ReflectCheck.Proofs.Fixture.Discovery
