import PaintRobot.Builtin
import PaintRobot.Canvas.Basic
import PaintRobot.Canvas.Circle
import PaintRobot.Canvas.Fill
import PaintRobot.Canvas.Lemmas
import PaintRobot.Canvas.Line
import PaintRobot.Canvas.Point
import PaintRobot.Canvas.Stamp
import PaintRobot.Color
import PaintRobot.Command.Basic
import PaintRobot.Command.Execute
import PaintRobot.Expr.Basic
import PaintRobot.Expr.Eval
import PaintRobot.Expr.Form
import PaintRobot.Expr.Nesting
import PaintRobot.Expr.Parse
import PaintRobot.Fault
import PaintRobot.Line
import PaintRobot.Machine
import PaintRobot.Number.Binary
import PaintRobot.Number.Decimal
import PaintRobot.Number.Reading
import PaintRobot.Number.Shortest
import PaintRobot.Operator
import PaintRobot.Program
import PaintRobot.Proofs.Expr.Balance
import PaintRobot.Proofs.Text.Padding
import PaintRobot.State
import PaintRobot.Statement
import PaintRobot.Table
import PaintRobot.Terminal.Arguments
import PaintRobot.Terminal.Picture
import PaintRobot.Terminal.Session
import PaintRobot.Text.Blank
import PaintRobot.Text.Cased
import PaintRobot.Text.CodeRange
import PaintRobot.Text.Letter
import PaintRobot.Text.Lowercase
import PaintRobot.Text.Name
import PaintRobot.Text.Numeral
import PaintRobot.Value.Arithmetic
import PaintRobot.Value.Basic
import PaintRobot.Variables
import PaintRobot.Verb
import PaintRobot.Main
import PaintRobot.Proofs.Expr.Operators
import PaintRobot.Proofs.Number.Reading
import PaintRobot.Proofs.Expr.Rendering
import PaintRobot.Proofs.Canvas.Circle
import PaintRobot.Proofs.Expr.RoundTrip
import PaintRobot.Proofs.Machine.Calls
import PaintRobot.Proofs.Machine.Batches
import PaintRobot.Proofs.Machine.Kept
import PaintRobot.Proofs.Canvas.Enclosure
import PaintRobot.Proofs.Command.Drawing
import PaintRobot.Proofs.Command.Enclosure
import PaintRobot.Proofs.Expr.Cutting
import PaintRobot.Proofs.Expr.Soundness
import PaintRobot.Proofs.Statement.Params
import PaintRobot.Proofs.Statement.Forms
import PaintRobot.Proofs.Statement.RoundTrip
import PaintRobot.Proofs.Command.Failures
import PaintRobot.Proofs.Command.Effects
import PaintRobot.Proofs.Machine.Faults
import PaintRobot.Proofs.Machine.FreshStart
import PaintRobot.Proofs.Failure
import PaintRobot.Proofs.Expr.Evaluation
import PaintRobot.Proofs.Statement.Failures
import PaintRobot.Proofs.Program.Labels
import PaintRobot.Proofs.Command.Soundness
import PaintRobot.Proofs.Machine.Soundness
import PaintRobot.Proofs.Canvas.Noting
import PaintRobot.Proofs.Command.Noting
import PaintRobot.Proofs.Canvas.Mirror
import PaintRobot.Proofs.Machine.Noting
import PaintRobot.Proofs.Machine.Redraw
import PaintRobot.Proofs.Program.Resolution
import PaintRobot.Proofs.Program.Insertion
import PaintRobot.Proofs.Expr.Typing
import PaintRobot.Proofs.Machine.FaultLine
import PaintRobot.Proofs.Machine.BlankLine
import PaintRobot.Proofs.Machine.Visits
import PaintRobot.Proofs.Machine.Unvisited
import PaintRobot.Proofs.Machine.Spawning
import PaintRobot.Proofs.Machine.Over
import PaintRobot.Proofs.Words.Stamp
import PaintRobot.Proofs.Words.Line
import PaintRobot.Proofs.Words.Circle
import PaintRobot.Proofs.Words.Fill
import PaintRobot.Proofs.Words.State
import PaintRobot.Proofs.Words.Command
import PaintRobot.Proofs.Canvas.Walk
import PaintRobot.Proofs.Command.Strokes
import PaintRobot.Proofs.Canvas.Roundness
import PaintRobot.Proofs.Canvas.Symmetry
import PaintRobot.Proofs.Canvas.Counting
import PaintRobot.Proofs.Command.Ranges
import PaintRobot.Proofs.Machine.Forward
import PaintRobot.Proofs.Builtin.ColorCount
import PaintRobot.Proofs.Text.CaseVariants
import PaintRobot.Proofs.Program.LabelCase
import PaintRobot.Proofs.Canvas.Grid
import PaintRobot.Proofs.Command.Frame
import PaintRobot.Proofs.Expr.Pairs
import PaintRobot.Proofs.Expr.Scans
import PaintRobot.Proofs.Expr.PairedTexts
import PaintRobot.Proofs.Statement.Groups
