import PaintRobot.Proofs.Machine.Visits

/-!
Spawning. Until the robot is spawned a run can change nothing but variables; it is spawned once at
most, and a run that ends without it has failed.
-/
namespace PaintRobot

namespace Command

variable {s s' : State} {c : Command} {t : Transfer}

theorem Effect.spawned (h : Effect s c t s') (hs : s.cursor.spawned = true) :
    s'.cursor.spawned = true := by
  rcases h.cursor_eq_or_contains with hsame | ⟨hspawned, -⟩
  · rwa [hsame]
  · exact hspawned

theorem Effect.spawned_of_spawn {x y : Expr} (h : Effect s (Command.spawn x y) t s') :
    s'.cursor.spawned = true := by
  cases h with
  | spawn => rfl
  | invisible hready => exact hready

/-- Without a robot a command that succeeds has set a variable at most. -/
theorem Effect.of_not_spawned (h : Effect s c t s') (hs : s'.cursor.spawned = false) :
    s.cursor.spawned = false ∧ s' = { s with vars := s'.vars } := by
  have hbefore : s.cursor.spawned = false := by
    by_contra hspawned
    rw [h.spawned (by simpa using hspawned)] at hs
    cases hs
  refine ⟨hbefore, ?_⟩
  cases h with
  | spawn => cases hs
  | goTo | assign => rfl
  | color hready | size hready | invisible hready | drawLine hready | drawCircle hready
  | drawRectangle hready | fill hready =>
    simp [hready] at hbefore

theorem execute_spawn_of_spawned (x y : Expr) (hs : s.cursor.spawned = true) :
    (spawn x y).execute s = .error .alreadySpawned s := by
  simp [execute, verb?, bind, EStateM.bind, Exec.ask, State.requireReady, hs]

end Command

namespace Machine

variable {m : Machine} {c : Command} {n side : Nat} {cs : List Call}

/-- The command of the line at the counter, if there is one. -/
def commandHere? (m : Machine) : Option Command :=
  match m.program.lines[m.counter]? with
  | some l => if l.kind = .code then (Command.ofLine m.program l).toOption else none
  | none => none

/-- Whether the line at the counter is to spawn the robot. -/
def atSpawn (m : Machine) : Bool :=
  match m.commandHere? with
  | some (.spawn _ _) => true
  | _ => false

/-- Whether the visit to the line at the counter spawns the robot. -/
def spawnsHere (m : Machine) : Bool := m.atSpawn && m.step.1.isOk

theorem atSpawn_iff : m.atSpawn = true ↔ ∃ x y, m.commandHere? = some (.spawn x y) := by
  unfold atSpawn
  split
  · rename_i x y h
    simp [h]
  · rename_i hno
    simpa using hno

theorem exists_line_of_commandHere (h : m.commandHere? = some c) :
    ∃ l, m.program.lines[m.counter]? = some l ∧ l.kind = .code ∧
      Command.ofLine m.program l = .ok c := by
  unfold commandHere? at h
  split at h
  · rename_i l hl
    split at h
    · rename_i hcode
      cases hc : Command.ofLine m.program l with
      | error cause =>
        rw [hc] at h
        cases h
      | ok c' =>
        rw [hc] at h
        cases h
        exact ⟨l, hl, hcode, hc⟩
    · cases h
  · cases h

/-- The visit to a line with a command is the command's execution. -/
theorem step_of_commandHere (hm : m.Faithful) (h : m.commandHere? = some c) :
    m.step = match c.execute m.state with
      | .ok t s =>
        (.ok t, { m with kept := m.kept.setIfInBounds m.counter (some c), state := s })
      | .error cause s =>
        (.error cause, { m with kept := m.kept.setIfInBounds m.counter (some c), state := s }) := by
  obtain ⟨l, hl, hcode, hc⟩ := exists_line_of_commandHere h
  simp only [step, hl, hcode, hm.command_eq hl, hc]
  rfl

theorem step_atSpawn_of_spawned (hm : m.Faithful) (h : m.atSpawn = true)
    (hs : m.state.cursor.spawned = true) :
    m.step.1 = .error .alreadySpawned ∧ m.step.2.state = m.state := by
  obtain ⟨x, y, hc⟩ := atSpawn_iff.mp h
  rw [step_of_commandHere hm hc, Command.execute_spawn_of_spawned x y hs]
  exact ⟨rfl, rfl⟩

theorem spawned_of_spawnsHere (hm : m.Faithful) (h : m.spawnsHere = true) :
    ∃ t, m.step.1 = .ok t ∧ (m.step.2.goOn t).state.cursor.spawned = true := by
  obtain ⟨hat, hok⟩ := Bool.and_eq_true_iff.mp h
  obtain ⟨x, y, hc⟩ := atSpawn_iff.mp hat
  have hstep := step_of_commandHere hm hc
  cases hexecute : (Command.spawn x y).execute m.state with
  | error cause s =>
    rw [hexecute] at hstep
    rw [hstep] at hok
    cases hok
  | ok t s =>
    rw [hexecute] at hstep
    rw [hstep]
    refine ⟨t, rfl, ?_⟩
    rw [goOn_state]
    exact (Command.effect_of_execute hexecute).spawned_of_spawn

/-! ### Before and after the robot is spawned -/

theorem inRunInvariant_spawned : InRunInvariant fun m => m.state.cursor.spawned = true where
  line {m t} h _ ht := by
    rw [goOn_state]
    rcases exists_effect_of_step ht with ⟨-, hsame⟩ | ⟨_, _, -, -, he⟩
    · rwa [hsame]
    · exact he.spawned h
  fault {m cause} h _ hc := by
    show m.step.2.state.cursor.spawned = true
    rwa [state_of_step_error hc]
  stop h := h
  interrupt h := by rwa [interrupt_state]
  drain h := h

theorem drain_blank (side : Nat) : (Canvas.blank side).drain.2 = .blank side := rfl

/-- As long as there is no robot, the state is that at the start but for the variables. -/
theorem inRunInvariant_unspawned (side : Nat) : InRunInvariant fun m =>
    m.state.cursor.spawned = false → m.state = { State.start side with vars := m.state.vars } where
  line {m t} h _ ht := by
    rw [goOn_state]
    intro hs
    rcases exists_effect_of_step ht with ⟨-, hsame⟩ | ⟨_, _, -, -, he⟩
    · rw [hsame] at hs ⊢
      exact h hs
    · -- No command takes the robot away, so there was none before this one and `h` applies.
      obtain ⟨hbefore, hstate⟩ := he.of_not_spawned hs
      rw [hstate, h hbefore]
  fault {m cause} h _ hc := by
    show m.step.2.state.cursor.spawned = false → m.step.2.state = _
    rwa [state_of_step_error hc]
  stop h := h
  interrupt h := by rwa [interrupt_state]
  drain {m} h := by
    intro hs
    have hcanvas : m.state.canvas = .blank side := congrArg State.canvas (h hs)
    show { m.state with canvas := m.state.canvas.drain.2 } = _
    rw [hcanvas, drain_blank, ← hcanvas]
    exact h hs

/-! ### The end of a run -/

/-- Cycles that do not leave more to run end behind the last line, or in front of a line that
fails. -/
theorem cycle_cases (m : Machine) (n : Nat) : (m.cycle n).1 = .running ∨
    ((m.cycle n).2.program.size ≤ (m.cycle n).2.counter ∧ (m.cycle n).1 =
      if (m.cycle n).2.state.cursor.spawned then .stopped else .fault ⟨.neverSpawned, none⟩) ∨
    (m.cycle n).2.counter < (m.cycle n).2.program.size ∧
      ∃ cause, (m.cycle n).1 = .fault ⟨cause, some ((m.cycle n).2.counter + 1)⟩ := by
  induction n generalizing m with
  | zero => exact .inl rfl
  | succ n ih =>
    by_cases hend : m.program.size ≤ m.counter
    · rw [cycle_of_end hend]
      refine .inr (.inl ?_)
      rw [finish_snd]
      refine ⟨hend, ?_⟩
      simp only [finish]
      split <;> rfl
    · cases hr : m.step.1 with
      | ok t =>
        rw [cycle_of_ok hend hr]
        exact ih _
      | error cause =>
        rw [cycle_of_error hend hr]
        refine .inr (.inr ⟨?_, cause, ?_⟩)
        · simpa using hend
        · simp

theorem execute_stopped (hm : Reachable m) (hrun : m.status = .running)
    (h : (m.execute n).1 = .stopped) :
    (m.execute n).2.state.cursor.spawned = true ∧
      (m.execute n).2.counter = (m.execute n).2.program.size := by
  have hle : (m.execute n).2.counter ≤ (m.execute n).2.program.size :=
    (sound_of_reachable (hm.call (.execute n))).counter
  rw [execute_of_running hrun] at h hle ⊢
  rcases m.cycle_cases n with hrunning | ⟨hge, hevent⟩ | ⟨-, cause, hevent⟩
  · rw [hrunning] at h
    cases h
  · rw [hevent] at h
    split at h
    · exact ⟨‹_›, Nat.le_antisymm hle hge⟩
    · cases h
  · rw [hevent] at h
    cases h

/-- A run that ends behind the last line without a robot has failed for the lack of it. -/
theorem execute_of_not_spawned (hrun : m.status = .running) (h : (m.execute n).1 ≠ .running)
    (hend : (m.execute n).2.counter = (m.execute n).2.program.size)
    (hs : (m.execute n).2.state.cursor.spawned = false) :
    (m.execute n).1 = .fault ⟨.neverSpawned, none⟩ := by
  rw [execute_of_running hrun] at h hend hs ⊢
  rcases m.cycle_cases n with hrunning | ⟨-, hevent⟩ | ⟨hlt, -⟩
  · exact absurd hrunning h
  · rw [hevent, if_neg (by simp [hs])]
  · omega

theorem execute_at_end (hrun : m.status = .running) (hend : m.counter = m.program.size)
    (hs : m.state.cursor.spawned = false) (n : Nat) :
    (m.execute (n + 1)).1 = .fault ⟨.neverSpawned, none⟩ := by
  rw [execute_of_running hrun, cycle_of_end (Nat.le_of_eq hend.symm)]
  simp [finish, hs]

/-! ### All together -/

theorem countP_le_one {α : Type} {p : α → Bool} {l : List α}
    (h : l.Pairwise fun a b => p a = true → p b = false) : l.countP p ≤ 1 := by
  induction h with
  | nil => exact Nat.zero_le 1
  | @cons a l hfirst _ ih =>
    by_cases hp : p a = true
    · have hrest : l.countP p = 0 := by simpa using fun b hb => hfirst b hb hp
      simp [hp, hrest]
    · simpa [hp] using ih

/-- Once a visit has spawned the robot, all later ones that are to do so fail. -/
theorem pairwise_spawnsHere (hm : Reachable m) (hcs : ∀ c ∈ cs, c.inRun = true) :
    (m.visitsOf cs).Pairwise fun r later => r.spawnsHere = true → later.atSpawn = true →
      later.step.1 = .error .alreadySpawned ∧ later.step.2.state = later.state := by
  have hfaithful : ∀ r ∈ m.visitsOf cs, r.Faithful := fun r hr =>
    invariant_faithful.inRun.of_mem_visitsOf (invariant_faithful.of_reachable hm) hcs hr
  refine (inRunInvariant_spawned.pairwise_visitsOf m hcs).imp_of_mem ?_
  intro r later hr hlater hspawned hspawns hat
  obtain ⟨t, ht, hnext⟩ := spawned_of_spawnsHere (hfaithful r hr) hspawns
  exact step_atSpawn_of_spawned (hfaithful later hlater) hat (hspawned t ht hnext)

/-- The robot is spawned once. In a run that has just started the canvas, the brush and the position
stay as they were until then, and from then on there is a robot. One visit at most spawns it, and a
later one that is to do so fails and leaves it where it is. A run that stops has a robot and has
come to the end of its program; one that gets there without fails, at no line. -/
theorem robot_is_spawned_once (hm : Fresh m) (hcs : ∀ c ∈ cs, c.inRun = true) :
    let r := (m.calls cs).2
    (r.state.cursor.spawned = false →
      r.state.canvas = .blank m.state.canvas.side ∧ r.state.brush = ⟨.transparent, 1⟩ ∧
        r.state.cursor.position = ⟨0, 0⟩) ∧
    (r.state.cursor.spawned = true → ∀ more, (∀ c ∈ more, c.inRun = true) →
      (r.calls more).2.state.cursor.spawned = true) ∧
    (m.visitsOf cs).countP (·.spawnsHere) ≤ 1 ∧
    (m.visitsOf cs).Pairwise (fun v later => v.spawnsHere = true → later.atSpawn = true →
      (later.execute 1).1 = .fault ⟨.alreadySpawned, some (later.counter + 1)⟩ ∧
        (later.execute 1).2.state.cursor = later.state.cursor) ∧
    (r.isRunning = true → ∀ n,
      ((r.execute n).1 = .stopped → (r.execute n).2.state.cursor.spawned = true ∧
        (r.execute n).2.counter = (r.execute n).2.program.size) ∧
      ((r.execute n).1 ≠ .running → (r.execute n).2.counter = (r.execute n).2.program.size →
        (r.execute n).2.state.cursor.spawned = false →
          (r.execute n).1 = .fault ⟨.neverSpawned, none⟩) ∧
      (r.counter = r.program.size → r.state.cursor.spawned = false →
        (r.execute (n + 1)).1 = .fault ⟨.neverSpawned, none⟩)) := by
  intro r
  have hpairwise := pairwise_spawnsHere hm.reachable hcs
  refine ⟨?before, ?stays, ?once, ?again, ?ends⟩
  case before =>
    intro hs
    have hstart : m.state.cursor.spawned = false →
        m.state = { State.start m.state.canvas.side with vars := m.state.vars } := by
      intro _
      rw [hm.state_eq]
      rfl
    have hstate := (inRunInvariant_unspawned m.state.canvas.side).calls hstart hcs hs
    exact ⟨congrArg State.canvas hstate, congrArg State.brush hstate,
      congrArg (·.cursor.position) hstate⟩
  case stays => exact fun hs more hmore => inRunInvariant_spawned.calls hs hmore
  case once =>
    apply countP_le_one
    refine hpairwise.imp fun {v later} h hv => ?_
    by_contra hagain
    obtain ⟨hat, hok⟩ := Bool.and_eq_true_iff.mp (Bool.eq_true_of_not_eq_false hagain)
    rw [(h hv hat).1] at hok
    cases hok
  case again =>
    refine hpairwise.imp_of_mem fun {v later} _ hlater h hv hat => ?_
    obtain ⟨hrun, hlt⟩ := running_of_mem_visitsOf hlater
    obtain ⟨hfails, hstate⟩ := h hv hat
    rw [execute_of_running hrun, cycle_of_error (Nat.not_le_of_lt hlt) hfails]
    exact ⟨rfl, congrArg State.cursor hstate⟩
  case ends =>
    intro hrun n
    rw [isRunning_iff] at hrun
    exact ⟨execute_stopped (hm.reachable.calls cs) hrun, execute_of_not_spawned hrun,
      fun hend hs => execute_at_end hrun hend hs n⟩

/-- A loop comes to its spawning line twice; before the first time a variable has been set. -/
theorem robot_is_spawned_once_in_loop :
    let m := ((new 5).load "x <- 1\nagain:\nSpawn(2, 3)\nGoTo [again]").2
    let cs : List Call := [.execute 3, .drain, .execute 9]
    (Fresh m ∧ ∀ c ∈ cs, c.inRun = true) ∧
    (m.visitsOf cs).map (fun r => (r.counter, r.atSpawn)) =
      [(0, false), (1, false), (2, true), (3, false), (1, false), (2, true)] ∧
    (m.visitsOf cs).countP (·.spawnsHere) ≤ 1 ∧
    ((m.calls [.execute 2]).2.state.cursor.spawned = false ∧
      (m.calls [.execute 2]).2.state.canvas = .blank 5) ∧
    ((m.calls [.execute 3]).2.state.cursor.spawned = true ∧
      ((m.calls [.execute 3]).2.calls [.drain, .execute 9]).2.state.cursor.spawned = true) := by
  intro m cs
  have hloaded :
      ((new 5).load "x <- 1\nagain:\nSpawn(2, 3)\nGoTo [again]").1 = .ok () := by decide +kernel
  have hfresh : Fresh m := .load (.new 5) hloaded
  have hcs : ∀ c ∈ cs, c.inRun = true := by decide
  have hvisits : (m.visitsOf cs).map (fun r => (r.counter, r.atSpawn)) =
      [(0, false), (1, false), (2, true), (3, false), (1, false), (2, true)] := by decide +kernel
  have hbefore : (m.calls [.execute 2]).2.state.cursor.spawned = false := by decide +kernel
  have hafter : (m.calls [.execute 3]).2.state.cursor.spawned = true := by decide +kernel
  have htwo : ∀ c ∈ [Call.execute 2], c.inRun = true := by decide
  have hthree : ∀ c ∈ [Call.execute 3], c.inRun = true := by decide
  have hunspawned := (robot_is_spawned_once hfresh htwo).1 hbefore
  have hspawned := (robot_is_spawned_once hfresh hthree).2.1 hafter
  exact ⟨⟨hfresh, hcs⟩, hvisits, (robot_is_spawned_once hfresh hcs).2.2.1,
    ⟨hbefore, hunspawned.1⟩, hafter, hspawned [.drain, .execute 9] (by decide)⟩

end Machine

end PaintRobot
