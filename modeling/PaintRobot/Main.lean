import PaintRobot.Terminal.Arguments

/-! The command line program. -/
namespace PaintRobot

/-- Looks up a file. What cannot be opened counts as missing. -/
def SourceFile.lookUp (path : String) : IO SourceFile := do
  try
    let bytes ← IO.FS.readBinFile path
    return .content bytes
  catch _ => return .missing

end PaintRobot

/-- Runs the program that a command line names. -/
def main (words : List String) : IO UInt32 := do
  match PaintRobot.Arguments.parse? words with
  | none =>
    IO.eprintln PaintRobot.Arguments.usage
    return 2
  | some arguments =>
    let file ← PaintRobot.SourceFile.lookUp arguments.path
    let result := arguments.options.runFile arguments.path file
    IO.print result.out
    IO.eprint result.err
    return result.exitCode.toUInt32
