import PaintRobot.Command.Execute

/-!
The machine that runs programs. A host loads a program and then has it run line by line, as many
lines at a time as it likes, so that it can show the canvas or break the run in between.
-/
namespace PaintRobot

/-- The side of a canvas nobody has chosen a side for. -/
def defaultSide : Nat := 100

inductive Status where
  | idle | running | interrupted
  deriving DecidableEq, Repr

/-- How a batch of lines ended: with more to run, at the end of the run, or by a fault, which ends
the run too. -/
inductive Event where
  | running
  | stopped
  | fault (f : Fault)
  deriving DecidableEq, Repr

structure Machine where
  program : Program := {}
  /-- The commands of the lines that have been visited. -/
  kept : Array (Option Command) := #[]
  state : State
  /-- The next line, counted from zero. -/
  counter : Nat := 0
  status : Status := .idle
  loaded : Bool := false

namespace Machine

/-- A machine without a program. -/
def new (side : Nat) : Machine := { state := .start side }

/-- A machine that is about to run a program from the top. -/
def ofProgram (side : Nat) (p : Program) : Machine :=
  { program := p
    kept := Array.replicate p.size none
    state := .start side
    status := .running
    loaded := true }

def isRunning (m : Machine) : Bool := m.status == .running

/-- Starts the run from the top, on a fresh canvas of the same side. -/
def reset (m : Machine) : Machine :=
  { m with
    state := .start m.state.canvas.side
    counter := 0
    status := if m.loaded then .running else .idle }

/-- Starts the run from the top, on a canvas of another side. -/
def resize (m : Machine) (side : Nat) : Machine := { m with state := .start side }.reset

/-- Loads a program and starts its run, on a fresh canvas of the same side. A source that is no
program leaves the machine without one. -/
def load (m : Machine) (source : String) : Except Fault Unit × Machine :=
  let side := m.state.canvas.side
  match Program.load source with
  | .ok p => (.ok (), ofProgram side p)
  | .error f => (.error f, new side)

/-- Has a run broken off before its next line. -/
def interrupt (m : Machine) : Machine :=
  if m.status = .running then { m with status := .interrupted } else m

/-- Hands out the cells that were set since the last call, and forgets them. -/
def drain (m : Machine) : List Point × Machine :=
  let (points, canvas) := m.state.canvas.drain
  (points, { m with state := { m.state with canvas := canvas } })

/-- The command of a line of code. It is made at the first visit and kept. -/
def command (m : Machine) (i : Nat) (l : Line) : Except Cause Command :=
  match m.kept[i]? with
  | some (some c) => .ok c
  | some none => Command.ofLine m.program l
  | none => .error .internal

/-- Runs the line at the counter. -/
def step (m : Machine) : Except Cause Transfer × Machine :=
  match m.program.lines[m.counter]? with
  | none => (.error .internal, m)
  | some l =>
    if l.kind = .code then
      match m.command m.counter l with
      | .error cause => (.error cause, m)
      | .ok c =>
        let kept := m.kept.setIfInBounds m.counter (some c)
        match c.execute m.state with
        | .ok transfer s => (.ok transfer, { m with kept := kept, state := s })
        | .error cause s => (.error cause, { m with kept := kept, state := s })
    else (.ok .next, m)

/-- Ends the run behind the last line. A program that never spawned its robot has failed. -/
def finish (m : Machine) : Event × Machine :=
  let m := { m with status := .idle }
  if m.state.cursor.spawned then (.stopped, m) else (.fault ⟨.neverSpawned, none⟩, m)

def goOn (m : Machine) : Transfer → Machine
  | .next => { m with counter := m.counter + 1 }
  | .jump target => { m with counter := target }

/-- Runs up to so many lines; to notice the end of the program takes one too. -/
def cycle (m : Machine) : Nat → Event × Machine
  | 0 => (.running, m)
  | cycles + 1 =>
    if m.program.size ≤ m.counter then m.finish
    else
      match m.step with
      | (.ok transfer, next) => (next.goOn transfer).cycle cycles
      | (.error cause, next) =>
        (.fault ⟨cause, some (m.counter + 1)⟩, { next with status := .idle })

/-- Has a batch of lines run. A run that was interrupted ends at the line it would go on with. -/
def execute (m : Machine) (cycles : Nat) : Event × Machine :=
  match m.status with
  | .idle => (.stopped, m)
  | .interrupted =>
    (.fault ⟨.interrupted, some (m.counter + 1)⟩, { m with status := .idle })
  | .running => m.cycle cycles

/-- Has batches run, as long as there is more to run. -/
def drive (m : Machine) (cycles : Nat) : Nat → Event × Machine
  | 0 => (.running, m)
  | batches + 1 =>
    match m.execute cycles with
    | (.running, next) => next.drive cycles batches
    | ended => ended

end Machine

end PaintRobot
