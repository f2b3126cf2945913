import PaintRobot.Machine
import PaintRobot.Terminal.Picture

/-!
A session at a terminal: it runs the program of a file to its end, shows the canvas, and says where
the robot and its brush ended up.
-/
namespace PaintRobot

structure SessionOptions where
  /-- The side of the canvas. -/
  side : Nat := 32
  /-- How many lines are run at a time. -/
  cycles : Nat := 5000
  /-- Letters in place of colors. -/
  plain : Bool := false
  deriving DecidableEq, Repr

/-- What a path leads to. -/
inductive SourceFile where
  | missing
  | content (bytes : ByteArray)

/-- What a session prints and the code it exits with. -/
structure SessionResult where
  exitCode : Nat
  out : String := ""
  err : String := ""
  deriving DecidableEq, Repr

namespace SessionResult

/-- A session that ends with nothing but a message. -/
def failure (message : String) : SessionResult := ⟨1, "", styled "1" message ++ "\n"⟩

end SessionResult

/-- The text of a source, or why it cannot be read. -/
def SourceFile.read : SourceFile → Except String String
  | .missing => .error "No such file or directory (os error 2)"
  | .content bytes =>
    match String.fromUTF8? bytes with
    | some s => .ok s
    | none => .error "stream did not contain valid UTF-8"

namespace State

def cursorLine (s : State) : String :=
  if s.cursor.spawned then
    "Cursor: " ++ Cause.pairText s.cursor.position.x s.cursor.position.y ++ "\n"
  else "Cursor: not spawned\n"

def brushLine (s : State) : String :=
  "Brush: " ++ s.brush.color.name ++ ", size " ++ toString s.brush.size ++ "\n"

def canvasLine (s : State) : String :=
  let side := toString s.canvas.side
  "Canvas: " ++ side ++ "x" ++ side ++ ", " ++ toString s.canvas.modified.size ++
    " cells changed\n"

/-- The canvas and the rest of the state in words. -/
def summary (s : State) (plain : Bool) : String :=
  s.canvas.picture plain ++ s.cursorLine ++ s.brushLine ++ s.canvasLine

end State

/-- More batches than any session can wait for. -/
def endlessBatches : Nat := 18446744073709551616

namespace SessionOptions

/-- Runs a source. A fault of the program is reported, and the canvas is shown all the same. -/
def runSource (o : SessionOptions) (source : String) : SessionResult :=
  match (Machine.new o.side).load source with
  | (.error f, _) => .failure f.report.message
  | (.ok (), m) =>
    let (event, m) := m.drive (max o.cycles 1) endlessBatches
    let out := m.state.summary o.plain
    match event with
    | .fault f => { SessionResult.failure f.report.message with out := out }
    | _ => ⟨0, out, ""⟩

/-- Runs the file at a path. -/
def runFile (o : SessionOptions) (path : String) (file : SourceFile) : SessionResult :=
  match file.read with
  | .ok source => o.runSource source
  | .error reason => .failure (path ++ ": " ++ reason)

end SessionOptions

end PaintRobot
