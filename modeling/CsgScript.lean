import CsgScript.Number.Binary
import CsgScript.Number.Arithmetic
import CsgScript.Number.Grid
import CsgScript.Number.Shortest
import CsgScript.Number.Significant
import CsgScript.Number.Text
import CsgScript.Number.Read
import CsgScript.Number.Angle
import CsgScript.Value.Basic
import CsgScript.Value.Display
import CsgScript.Dimension
import CsgScript.Fault
import CsgScript.Script.ShellWords
import CsgScript.Script.Literal
import CsgScript.Expr.Basic
import CsgScript.Expr.Param
import CsgScript.Expr.Indices
import CsgScript.Expr.Equality
import CsgScript.Expr.Kind
import CsgScript.Script.Lines
import CsgScript.Build.Dimension
import CsgScript.Build.Nodes
import CsgScript.Build.Arith
import CsgScript.Asset.Basic
import CsgScript.Asset.Assembly
import CsgScript.Path
import CsgScript.Render.Command
import CsgScript.Disk
import CsgScript.Asset.Writer
import CsgScript.Cli
import CsgScript.Main
import CsgScript.Proofs.Outcome
import CsgScript.Proofs.WellFormed
import CsgScript.Proofs.ModuleTree
import CsgScript.Proofs.Construction
import CsgScript.Proofs.Checks
import CsgScript.Proofs.Indentation
import CsgScript.Proofs.MirrorImage
import CsgScript.Proofs.Quoting
import CsgScript.Proofs.Splitting
import CsgScript.Proofs.Batches
import CsgScript.Proofs.Sharing
import CsgScript.Proofs.PhysicalLines
import CsgScript.Proofs.Classification
import CsgScript.Proofs.Flattening
import CsgScript.Proofs.HullChain
import CsgScript.Proofs.ExactArithmetic
import CsgScript.Proofs.Operators
import CsgScript.Proofs.ModifierPlacement
import CsgScript.Proofs.CommandLine
import CsgScript.Proofs.CallClosure
