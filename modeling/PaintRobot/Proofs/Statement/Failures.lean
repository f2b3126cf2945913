import PaintRobot.Command.Basic
import PaintRobot.Proofs.Expr.Failures

/-!
How making a command of a line fails. What is no statement is a fault found in reading, and a
statement that no command can be made of is a fault of the program.
-/
namespace PaintRobot

open Cause (InProgram)

/-- The fault is found while a line is read. -/
def Cause.InReading (cause : Cause) : Prop := cause.code.inReading = true

open Cause (InReading)

theorem Cause.InReading.inProgram {cause : Cause} (h : cause.InReading) : cause.InProgram := by
  rintro rfl
  cases h

theorem FailsOnSyntax.failsWith_inReading {α : Type} {x : Except Cause α}
    (h : FailsOnSyntax x) : FailsWith InReading x :=
  FailsWith.mono h fun cause hc => by simp [InReading, hc, Code.inReading]

theorem FailsOnSyntax.failsWith_inProgram {α : Type} {x : Except Cause α}
    (h : FailsOnSyntax x) : FailsWith InProgram x :=
  h.failsWith_inReading.mono fun _ => Cause.InReading.inProgram

theorem Param.failsOnSyntax_parse (s : List Char) : FailsOnSyntax (Param.parse s) := by
  unfold Param.parse
  split
  · exact .error rfl
  split
  · exact .ok _
  split
  · exact .ok _
  · exact (Expr.failsOnSyntax_parse s).map _

namespace Statement

theorem failsOnSyntax_parseCondition (s : List Char) : FailsOnSyntax (parseCondition s) := by
  unfold parseCondition
  split
  · exact .ok _
  · refine (failsOnSyntax_cutGroup _).bind fun (inside, tail) _ => ?_
    simp only
    split
    · exact Expr.failsOnSyntax_parse inside
    · exact .error rfl
  · exact .error rfl

theorem failsWith_parseGoTo (s : List Char) : FailsWith InReading (parseGoTo s) := by
  unfold parseGoTo
  split
  · split
    · exact .error rfl
    · simp only
      split
      · exact (failsOnSyntax_parseCondition _).failsWith_inReading.bind fun _ _ => .ok _
      · exact .error rfl
  · exact .error rfl

theorem failsOnSyntax_parseAssign (name value : List Char) :
    FailsOnSyntax (parseAssign name value) := by
  simp only [parseAssign]
  split
  · exact (Expr.failsOnSyntax_parse value).bind fun _ _ => .ok _
  · exact .error rfl

/-- The faults of a name that is no verb. -/
def NoVerb (name : List Char) (cause : Cause) : Prop :=
  cause = .invalidCommand (String.ofList name) ∨ cause = .unknownCommand (String.ofList name)

theorem NoVerb.inReading {name : List Char} {cause : Cause} (h : NoVerb name cause) :
    cause.InReading := by
  rcases h with rfl | rfl <;> rfl

theorem failsWith_ofVerbName (name : List Char) (params : List Param) :
    FailsWith (NoVerb name) (ofVerbName name params) := by
  unfold ofVerbName
  simp only
  split
  · split
    · exact .ok _
    · exact .error (.inr rfl)
  · exact .error (.inl rfl)

theorem failsWith_parseCommand (s : List Char) : FailsWith InReading (parseCommand s) := by
  have hverb : ∀ name params, FailsWith InReading (ofVerbName name params) :=
    fun name params => (failsWith_ofVerbName name params).mono fun _ => NoVerb.inReading
  unfold parseCommand
  split
  · exact hverb s []
  · refine (failsOnSyntax_cutGroup _).failsWith_inReading.bind fun (inside, tail) _ => ?_
    simp only
    split
    · refine (failsOnSyntax_splitArguments _).failsWith_inReading.bind fun texts _ => ?_
      have hparams : FailsOnSyntax (texts.mapM Param.parse) :=
        .mapM fun text _ => Param.failsOnSyntax_parse text
      exact hparams.failsWith_inReading.bind fun params _ => hverb _ params
    · exact .error rfl

theorem failsWith_parse (s : List Char) : FailsWith InReading (parse s) := by
  unfold parse
  simp only
  split
  · exact failsWith_parseGoTo _
  · split
    · exact (failsOnSyntax_parseAssign _ _).failsWith_inReading
    · exact failsWith_parseCommand _

end Statement

namespace Param

theorem failsOnSyntax_number (p : Param) : FailsOnSyntax p.number := by
  unfold number
  split
  · exact .ok _
  · exact .error rfl
  · exact .error rfl
  · exact .ok _

theorem failsOnSyntax_direction (p : Param) : FailsOnSyntax p.direction := by
  unfold direction
  split
  · split
    · exact .ok _
    · exact .error rfl
  · exact p.failsOnSyntax_number

theorem failsOnSyntax_quantity (what : Quantity) (p : Param) :
    FailsOnSyntax (p.quantity what) := by
  unfold quantity
  split
  · split
    · exact .ok _
    · exact .error rfl
  · exact p.failsOnSyntax_number

theorem failsWith_color (p : Param) : FailsWith InProgram p.color := by
  unfold color
  split
  · split
    · exact .ok _
    · exact .error nofun
  · split
    · exact .ok _
    · exact .error nofun
  · exact .error nofun

end Param

namespace Command

theorem failsWith_validate (verb : Verb) (params : List Param) :
    FailsWith InProgram (validate verb params) := by
  unfold validate
  split
  · refine FailsOnSyntax.failsWith_inProgram ?_
    refine (Param.failsOnSyntax_number _).bind fun _ _ => ?_
    exact (Param.failsOnSyntax_number _).bind fun _ _ => .ok _
  · exact (Param.failsWith_color _).map _
  · exact ((Param.failsOnSyntax_quantity _ _).map _).failsWith_inProgram
  · refine FailsOnSyntax.failsWith_inProgram ?_
    refine (Param.failsOnSyntax_direction _).bind fun _ _ => ?_
    refine (Param.failsOnSyntax_direction _).bind fun _ _ => ?_
    exact (Param.failsOnSyntax_quantity _ _).bind fun _ _ => .ok _
  · refine FailsOnSyntax.failsWith_inProgram ?_
    refine (Param.failsOnSyntax_direction _).bind fun _ _ => ?_
    refine (Param.failsOnSyntax_direction _).bind fun _ _ => ?_
    exact (Param.failsOnSyntax_quantity _ _).bind fun _ _ => .ok _
  · refine FailsOnSyntax.failsWith_inProgram ?_
    refine (Param.failsOnSyntax_direction _).bind fun _ _ => ?_
    refine (Param.failsOnSyntax_direction _).bind fun _ _ => ?_
    refine (Param.failsOnSyntax_quantity _ _).bind fun _ _ => ?_
    refine (Param.failsOnSyntax_quantity _ _).bind fun _ _ => ?_
    exact (Param.failsOnSyntax_quantity _ _).bind fun _ _ => .ok _
  · exact .ok _
  · exact .error nofun

theorem failsWith_ofStatement (p : Program) (s : Statement) :
    FailsWith InProgram (ofStatement p s) := by
  cases s with
  | command verb params => exact failsWith_validate verb params
  | goTo label condition =>
    simp only [ofStatement]
    split
    · exact .ok _
    · exact .error nofun
  | assign name value => exact .ok _

theorem failsWith_ofLine (p : Program) (l : Line) : FailsWith InProgram (ofLine p l) :=
  ((Statement.failsWith_parse l.text).mono fun _ => Cause.InReading.inProgram).bind
    fun s _ => failsWith_ofStatement p s

end Command

end PaintRobot
