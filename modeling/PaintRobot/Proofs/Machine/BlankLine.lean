import PaintRobot.Proofs.Command.Effects
import PaintRobot.Proofs.Machine.Kept
import PaintRobot.Proofs.Program.Insertion

/-!
Runs of a program with a blank line put into it. They do what they did before, only that they take
one more cycle whenever they come to the blank line.
-/
namespace PaintRobot

/-- Where a program goes on once a line has been put in front of line `place`. -/
def Transfer.pushDown (place : Nat) : Transfer → Transfer
  | next => next
  | jump target => jump (PaintRobot.pushDown place target)

/-- The event once a line has been put in front of line `place`. -/
def Event.pushDown (place : Nat) : Event → Event
  | fault f => fault (f.pushDown place)
  | e => e

namespace Command

/-- The command once a line has been put in front of line `place`. -/
def pushDown (place : Nat) : Command → Command
  | goTo target condition => goTo (PaintRobot.pushDown place target) condition
  | c => c

variable {c : Command} {place : Nat}

theorem pushDown_of_ne (h : ∀ target condition, c ≠ goTo target condition) :
    c.pushDown place = c := by
  cases c with
  | goTo target condition => exact absurd rfl (h target condition)
  | _ => rfl

/-- The command of a line differs in the target of a jump at most. -/
theorem ofLine_insertLine (place : Nat) (blank : Line) (p : Program) (l : Line) :
    ofLine (p.insertLine place blank) l = (ofLine p l).map (·.pushDown place) := by
  unfold ofLine
  cases l.statement with
  | error cause => rfl
  | ok s =>
    show ofStatement _ s = (ofStatement p s).map _
    cases s with
    | command verb params =>
      show validate verb params = (validate verb params).map _
      cases hc : validate verb params with
      | error cause => rfl
      | ok c =>
        have hne : ∀ target condition, c ≠ goTo target condition := by
          rintro target condition rfl
          cases verb?_of_validate hc
        exact congrArg Except.ok (pushDown_of_ne hne).symm
    | goTo label condition =>
      simp only [ofStatement, Program.label?_insertLine]
      cases p.label? label <;> rfl
    | assign => rfl

theorem execute_goTo (target : Nat) (condition : Expr) (s : State) :
    (goTo target condition).execute s =
      match condition.eval s with
      | .ok v => .ok (if v.isTrue then .jump target else .next) s
      | .error cause => .error cause s := by
  simp only [execute, perform, bind, EStateM.bind, Exec.ask, State.requireReady, verb?]
  cases condition.eval s <;> rfl

/-- Commands do what they did, only that jumps go to where their lines are now. -/
theorem execute_pushDown (place : Nat) (c : Command) (s : State) :
    (c.pushDown place).execute s = EStateM.map (Transfer.pushDown place) c.execute s := by
  by_cases hgoTo : ∃ target condition, c = goTo target condition
  · obtain ⟨target, condition, rfl⟩ := hgoTo
    simp only [pushDown, EStateM.map, execute_goTo]
    cases condition.eval s with
    | error cause => rfl
    | ok v => by_cases htrue : v.isTrue = true <;> simp [Transfer.pushDown, htrue]
  · have hne : ∀ target condition, c ≠ goTo target condition :=
      fun target condition h => hgoTo ⟨target, condition, h⟩
    rw [pushDown_of_ne hne, EStateM.map]
    cases hexecute : c.execute s with
    | error cause s' => rfl
    | ok t s' =>
      cases t with
      | next => rfl
      | jump target =>
        obtain ⟨condition, rfl⟩ := (effect_of_execute hexecute).eq_goTo_of_jump
        exact absurd rfl (hne target condition)

end Command

namespace PlainMachine

variable {m : PlainMachine} {place : Nat} {blank : Line}

/-- The machine in front of the same line, once a line has been put in front of line `place`. -/
def insertLine (place : Nat) (blank : Line) (m : PlainMachine) : PlainMachine :=
  { m with program := m.program.insertLine place blank, counter := pushDown place m.counter }

/-- The machine in front of the blank line. -/
def atLine (place : Nat) (m : PlainMachine) : PlainMachine := { m with counter := place }

theorem step_insertLine (place : Nat) (blank : Line) (m : PlainMachine) :
    (m.insertLine place blank).step =
      Prod.map (Except.map (Transfer.pushDown place)) (insertLine place blank) m.step := by
  have hstep := step_elsewhere (Program.getElem?_insertLine place m.counter blank m.program)
    (Command.ofLine_insertLine place blank m.program) (Command.execute_pushDown place) rfl
  refine hstep.trans (Prod.ext rfl ?_)
  simp [insertLine, step_program, step_counter]

theorem finish_fst_ne (m : PlainMachine) : m.finish.1 ≠ .running := by
  unfold finish
  dsimp only
  split <;> simp

theorem finish_insertLine (place : Nat) (blank : Line) (m : PlainMachine) :
    (m.insertLine place blank).finish =
      Prod.map (Event.pushDown place) (insertLine place blank) m.finish := by
  by_cases hs : m.state.cursor.spawned = true <;>
    simp [finish, insertLine, hs, Event.pushDown, Fault.pushDown]

theorem size_le_insertLine (blank : Line) (h : place ≤ m.program.size) :
    (m.insertLine place blank).program.size ≤ (m.insertLine place blank).counter ↔
      m.program.size ≤ m.counter := by
  show (m.program.insertLine place blank).size ≤ PaintRobot.pushDown place m.counter ↔ _
  rw [Program.size_insertLine h, PaintRobot.pushDown]
  split <;> omega

/-! ### Side by side -/

/-- The machine `n` is in front of the same line as `m`, in a program with a blank line put into it;
or it is in front of the blank line and comes to that line next. -/
def Trails (place : Nat) (blank : Line) (m n : PlainMachine) : Prop :=
  n = m.insertLine place blank ∨
    m.counter = place ∧ n = (m.insertLine place blank).atLine place

theorem trails_goOn (place : Nat) (blank : Line) (m : PlainMachine) (t : Transfer) :
    Trails place blank (m.goOn t) ((m.insertLine place blank).goOn (t.pushDown place)) := by
  cases t with
  | jump target => exact .inl rfl
  | next =>
    by_cases hplace : m.counter + 1 = place
    · right
      have hlt : m.counter < place := by omega
      refine ⟨hplace, ?_⟩
      simp [Transfer.pushDown, goOn, insertLine, atLine, pushDown_of_lt hlt, hplace]
    · left
      have hcounter : pushDown place m.counter + 1 = pushDown place (m.counter + 1) := by
        unfold pushDown
        split <;> split <;> omega
      simp [Transfer.pushDown, goOn, insertLine, hcounter]

/-- A visit to the blank line only takes a cycle. -/
theorem cycle_atLine (hblank : blank.kind = .blank) (h : place ≤ m.program.size)
    (hm : m.counter = place) (n : Nat) :
    ((m.insertLine place blank).atLine place).cycle (n + 1) = (m.insertLine place blank).cycle n := by
  have hsize : ¬(m.program.insertLine place blank).size ≤ place := by
    rw [Program.size_insertLine h]
    omega
  have hstep : ((m.insertLine place blank).atLine place).step =
      (.ok .next, (m.insertLine place blank).atLine place) := by
    simp [step, insertLine, atLine, Program.getElem?_insertLine_self h, hblank]
  rw [cycle_of_ok hsize hstep]
  simp [goOn, insertLine, atLine, hm, pushDown_of_le]

theorem exists_cycle_of_trails (hblank : blank.kind = .blank) {n : PlainMachine}
    (h : place ≤ m.program.size) (hn : Trails place blank m n) {k : Nat} {r : Event × PlainMachine}
    (hr : (m.insertLine place blank).cycle k = r) : ∃ j, n.cycle j = r := by
  rcases hn with rfl | ⟨hplace, rfl⟩
  · exact ⟨k, hr⟩
  · exact ⟨k + 1, (cycle_atLine hblank h hplace k).trans hr⟩

/-- A cycle with the blank line and one without it: both end the run, or both go on side by side. -/
theorem cycle_succ_insertLine (blank : Line) (h : place ≤ m.program.size) :
    (∃ e stop, e ≠ .running ∧ ∀ n, m.cycle (n + 1) = (e, stop) ∧
      (m.insertLine place blank).cycle (n + 1) =
        (e.pushDown place, stop.insertLine place blank)) ∨
    ∃ next next', place ≤ next.program.size ∧ Trails place blank next next' ∧
      ∀ n, m.cycle (n + 1) = next.cycle n ∧
        (m.insertLine place blank).cycle (n + 1) = next'.cycle n := by
  by_cases hend : m.program.size ≤ m.counter
  · left
    have hend' := (size_le_insertLine blank h).mpr hend
    refine ⟨_, _, m.finish_fst_ne, fun n => ⟨cycle_of_end hend n, ?_⟩⟩
    rw [cycle_of_end hend', finish_insertLine]
    rfl
  · have hend' := mt (size_le_insertLine blank h).mp hend
    have hstep' := m.step_insertLine place blank
    have hprogram := m.step_program
    cases hstep : m.step with
    | mk result next =>
      rw [hstep] at hstep' hprogram
      cases result with
      | error cause =>
        left
        refine ⟨.fault _, _, nofun, fun n => ⟨cycle_of_error hend hstep n, ?_⟩⟩
        rw [cycle_of_error hend' hstep', Event.pushDown, Fault.pushDown_some]
        rfl
      | ok t =>
        right
        refine ⟨_, _, ?_, next.trails_goOn place blank t,
          fun n => ⟨cycle_of_ok hend hstep n, cycle_of_ok hend' hstep' n⟩⟩
        rwa [goOn_program, hprogram]

/-- A run that ends does so with a blank line put into the program too. -/
theorem exists_cycle_insertLine (hblank : blank.kind = .blank) (h : place ≤ m.program.size)
    {k : Nat} {e : Event} {stop : PlainMachine} (hm : m.cycle k = (e, stop)) (he : e ≠ .running) :
    ∃ j, (m.insertLine place blank).cycle j = (e.pushDown place, stop.insertLine place blank) := by
  -- On the cycles of the run without the blank line. The other run takes one more at each visit to
  -- it, and how many these are is known only at the end.
  induction k generalizing m with
  | zero =>
    cases hm
    exact absurd rfl he
  | succ k ih =>
    rcases cycle_succ_insertLine blank h with
      ⟨_, _, -, hends⟩ | ⟨next, next', hnext, htrails, hgo⟩
    · rw [(hends k).1] at hm
      cases hm
      exact ⟨1, (hends 0).2⟩
    · rw [(hgo k).1] at hm
      obtain ⟨j, hj⟩ := ih hnext hm
      obtain ⟨i, hi⟩ := exists_cycle_of_trails hblank hnext htrails hj
      exact ⟨i + 1, (hgo i).2.trans hi⟩

/-- A run that goes on forever does so with a blank line put into the program too. -/
theorem cycle_running_of_trails (hblank : blank.kind = .blank) {n : PlainMachine}
    (h : place ≤ m.program.size) (hn : Trails place blank m n)
    (hm : ∀ k, (m.cycle k).1 = .running) (k : Nat) : (n.cycle k).1 = .running := by
  -- On the cycles of the run with the blank line. While it visits the blank line the other run
  -- stands still, so that what is left of that one has to be endless at every cycle.
  induction k generalizing m n with
  | zero => rfl
  | succ k ih =>
    rcases hn with rfl | ⟨hplace, rfl⟩
    · rcases cycle_succ_insertLine blank h with
        ⟨_, _, he, hends⟩ | ⟨next, next', hnext, htrails, hgo⟩
      · have hended := hm 1
        rw [(hends 0).1] at hended
        exact absurd hended he
      · rw [(hgo k).2]
        refine ih hnext htrails fun j => ?_
        rw [← (hgo j).1]
        exact hm (j + 1)
    · rw [cycle_atLine hblank h hplace]
      exact ih h (.inl rfl) hm

end PlainMachine

namespace Machine

theorem trails_ofProgram (side place : Nat) (blank : Line) (p : Program) :
    PlainMachine.Trails place blank (ofProgram side p).forget
      (ofProgram side (p.insertLine place blank)).forget := by
  by_cases h : place = 0
  · subst h
    exact .inr ⟨rfl, rfl⟩
  · left
    have hcounter : pushDown place 0 = 0 := pushDown_of_lt (Nat.pos_of_ne_zero h)
    simp [PlainMachine.insertLine, forget, ofProgram, hcounter]

/-- A blank line in a program changes nothing. With it the program is refused just when it was
before, for the same label. A run of it that ends still does so, in the same state and by the same
event; and one that goes on forever still does. All that changes is the number of a line that stands
behind the blank one. -/
theorem blank_line_changes_nothing {lines : List Line} {place : Nat} {blank : Line}
    (hplace : place ≤ lines.length) (hblank : ∀ c ∈ blank.text, Text.isBlank c = true) :
    (∀ f, Program.ofLines lines = .error f →
      Program.ofLines (lines.insertIdx place blank) = .error (f.pushDown place)) ∧
    ∀ p, Program.ofLines lines = .ok p →
      ∃ p', Program.ofLines (lines.insertIdx place blank) = .ok p' ∧ ∀ side,
        (∀ n, ((ofProgram side p).execute n).1 ≠ .running →
          ∃ k, ((ofProgram side p').execute k).1 =
              ((ofProgram side p).execute n).1.pushDown place ∧
            ((ofProgram side p').execute k).2.state = ((ofProgram side p).execute n).2.state) ∧
        ((∀ n, ((ofProgram side p).execute n).1 = .running) →
          ∀ k, ((ofProgram side p').execute k).1 = .running) := by
  have hkind : blank.kind = .blank := Line.kind_of_gap hblank
  have hload := Program.ofLines_insertIdx hkind hplace
  constructor
  · intro f hf
    rw [hload, hf]
    rfl
  · intro p hp
    refine ⟨p.insertLine place blank, by rw [hload, hp]; rfl, fun side => ?_⟩
    have hsize : place ≤ (ofProgram side p).forget.program.size := by
      show place ≤ p.lines.size
      rwa [Program.lines_of_ofLines hp]
    have hrun := forget_execute_ofProgram side p
    have hrun' := forget_execute_ofProgram side (p.insertLine place blank)
    have htrails := trails_ofProgram side place blank p
    constructor
    · intro n hn
      obtain ⟨j, hj⟩ := PlainMachine.exists_cycle_insertLine hkind hsize (hrun n).symm hn
      obtain ⟨k, hk⟩ := PlainMachine.exists_cycle_of_trails hkind hsize htrails hj
      rw [← hrun'] at hk
      exact ⟨k, congrArg Prod.fst hk, congrArg (·.2.state) hk⟩
    · intro hn k
      have hplain : ∀ n, ((ofProgram side p).forget.cycle n).1 = .running := by
        intro n
        rw [← hrun]
        exact hn n
      have hstill := PlainMachine.cycle_running_of_trails hkind hsize htrails hplain k
      rwa [← hrun'] at hstill

/-- A blank line that jumps pass in both directions, in front of a line that fails. -/
theorem blank_line_changes_nothing_between_jumps :
    let lines : List Line := ["Spawn(0, 0)", "GoTo [done]", "back:", "Spawn(1, 1)", "done:",
      "GoTo [back]"].map (⟨·.toList⟩)
    let blank : Line := ⟨[' ', '\t']⟩
    (2 ≤ lines.length ∧ ∀ c ∈ blank.text, Text.isBlank c = true) ∧
    ∃ p p', Program.ofLines lines = .ok p ∧ Program.ofLines (lines.insertIdx 2 blank) = .ok p' ∧
      ((ofProgram 5 p).execute 6).1 = .fault ⟨.alreadySpawned, some 4⟩ ∧
      ∃ k, ((ofProgram 5 p').execute k).1 = .fault ⟨.alreadySpawned, some 5⟩ ∧
        ((ofProgram 5 p').execute k).2.state = ((ofProgram 5 p).execute 6).2.state := by
  intro lines blank
  have hplace : 2 ≤ lines.length := by decide
  have hall : blank.text.all Text.isBlank = true := by decide +kernel
  have hblank : ∀ c ∈ blank.text, Text.isBlank c = true := List.all_eq_true.mp hall
  have hruns : (Program.ofLines lines).map (fun p => ((ofProgram 5 p).execute 6).1) =
      .ok (.fault ⟨.alreadySpawned, some 4⟩) := by decide +kernel
  cases hp : Program.ofLines lines with
  | error f =>
    rw [hp] at hruns
    cases hruns
  | ok p =>
    rw [hp] at hruns
    have hrun : ((ofProgram 5 p).execute 6).1 = .fault ⟨.alreadySpawned, some 4⟩ :=
      Except.ok.inj hruns
    obtain ⟨p', hp', hsame⟩ := (blank_line_changes_nothing hplace hblank).2 p hp
    obtain ⟨k, hevent, hstate⟩ := (hsame 5).1 6 (by simp [hrun])
    rw [hrun] at hevent
    exact ⟨⟨hplace, hblank⟩, p, p', rfl, hp', hrun, k, hevent, hstate⟩

end Machine

end PaintRobot
