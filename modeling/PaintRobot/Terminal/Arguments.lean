import PaintRobot.Terminal.Session

/-! The words of a command line: a path, and options before or after it. -/
namespace PaintRobot

structure Arguments where
  path : String
  options : SessionOptions

namespace Arguments

def usage : String := "Usage: paintrobot [--size N] [--cycles N] [--plain] <FILE>"

/-- Reads the words that follow; `path` is the one found so far. -/
def parseFrom (path : Option String) (o : SessionOptions) : List String → Option Arguments
  | [] => path.map fun p => ⟨p, o⟩
  | "--plain" :: rest => parseFrom path { o with plain := true } rest
  | "--size" :: n :: rest =>
    match Number.natural? n.toList with
    | some side => parseFrom path { o with side := side } rest
    | none => none
  | "--cycles" :: n :: rest =>
    match Number.natural? n.toList with
    | some cycles => parseFrom path { o with cycles := cycles } rest
    | none => none
  | word :: rest =>
    if word.startsWith "--" || path.isSome then none else parseFrom (some word) o rest

/-- Reads the words of a command line. -/
def parse? (words : List String) : Option Arguments := parseFrom none {} words

end Arguments

end PaintRobot
