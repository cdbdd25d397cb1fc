import HandheldHost.Proofs.Player.Run

/-!
# Which advances a run makes

A core says nothing of how often it was advanced.  `Traced` puts a recorder
around any core that notes every advance asked of it and passes everything
on, so a run over `Traced γ` is a run over `γ` (`Player.untraced_after`)
whose advances can be counted.

* `Player.mode_eq_single_iff` -- a single step is pending exactly while its
  request is the last one since the last tick that set the mode.
* `Player.advances_follow_requests` -- what every action of a run asks of
  the core, and what it leaves of the mode.
-/

namespace HandheldHost

/-! ## Traced cores -/

/-- A core with a record of the advances asked of it, in order. -/
structure Traced (γ : Type) where
  core : γ
  advances : List Stride := []

namespace Traced

variable {γ : Type} [Core γ]

instance : Core (Traced γ) where
  load rom := do
    match ← (Core.load rom : Logged (Except CartridgeError γ)) with
    | .error reason => pure (.error reason)
    | .ok core => pure (.ok { core })
  geometry traced := Core.geometry traced.core
  advance stride traced := do
    let (fault, core) ← Core.advance stride traced.core
    pure (fault, ⟨core, traced.advances ++ [stride]⟩)
  framebuffer traced := Core.framebuffer traced.core
  setButton write traced := { traced with core := Core.setButton write traced.core }
  registers traced :=
    let (registers, core) := Core.registers traced.core
    (registers, { traced with core })
  window size traced :=
    let (bytes, core) := Core.window size traced.core
    (bytes, { traced with core })
  windowBase traced := Core.windowBase traced.core

theorem core_written (traced : Traced γ) (write : Option ButtonWrite) :
    (Core.written traced write).core = Core.written traced.core write := by
  cases write <;> rfl

theorem advances_written (traced : Traced γ) (write : Option ButtonWrite) :
    (Core.written traced write).advances = traced.advances := by
  cases write <;> rfl

end Traced

namespace Player

section

variable {γ δ : Type} [Core γ]

/-- The player without the record of its core. -/
def untraced (player : Player (Traced γ) δ) : Player γ δ :=
  { player with core := player.core.core }

/-- A tick asks for the stride of its mode and for nothing else. -/
theorem advances_sight (player : Player (Traced γ) δ) :
    player.sight.core.advances = player.core.advances ++ player.deck.mode.stride.toList := by
  simp only [sight]
  cases player.deck.mode.stride with
  | none => exact (List.append_nil _).symm
  | some stride => rfl

/-- A request asks for no advance. -/
theorem advances_request (player : Player (Traced γ) δ) (r : Request) :
    (player.request r).value.core.advances = player.core.advances := by
  rw [value_request]
  exact player.core.advances_written _

theorem untraced_request (player : Player (Traced γ) δ) (r : Request) :
    (player.request r).value.untraced = (player.untraced.request r).value := by
  simp only [value_request, untraced, Traced.core_written]

end

variable {γ δ : Type} [Core γ] [FaultSink δ]

theorem advances_next (player : Player (Traced γ) δ) (now : Float) :
    (player.next now).core.advances = player.core.advances ++ player.deck.mode.stride.toList := by
  rw [← advances_sight, next]
  cases player.deck.debug <;> rfl

theorem untraced_next (player : Player (Traced γ) δ) (now : Float) :
    (player.next now).untraced = player.untraced.next now := by
  obtain ⟨core, ⟨mode, debug⟩⟩ := player
  cases mode <;> cases debug <;> rfl

/-- The record changes nothing in a run. -/
theorem untraced_after (player : Player (Traced γ) δ) (actions : List Action) :
    (player.after actions).untraced = player.untraced.after actions := by
  induction actions using List.reverseRecOn with
  | nil => rfl
  | append_singleton actions a ih =>
    rw [after_append_singleton, after_append_singleton, ← ih]
    cases a with
    | request r => exact untraced_request _ r
    | tick now => rw [act_tick, act_tick, untraced_next]

end Player

/-! ## Single steps -/

namespace Stride

/-- The mode in which a single step of this stride is pending. -/
def singleMode : Stride → Mode
  | frame => .stepFrame
  | instruction => .stepInstruction

/-- The request for a single step of this stride. -/
def singleRequest : Stride → Request
  | frame => .stepFrame
  | instruction => .stepInstruction

end Stride

namespace Request

/-- Whether a request sets the mode. -/
def setsMode : Request → Bool
  | togglePause | setPaused _ | stepFrame | stepInstruction => true
  | toggleDebug | setDebug _ | button .. | key .. => false

theorem mode_of_not_setsMode {r : Request} (h : r.setsMode = false) (before : Mode) :
    r.mode before = before := by
  cases r with
  | toggleDebug | setDebug | button | key => rfl
  | togglePause | setPaused | stepFrame | stepInstruction => exact Bool.noConfusion h

/-- Only the request for a single step leaves that step pending. -/
theorem mode_eq_single_iff {r : Request} (h : r.setsMode = true) (before : Mode)
    (stride : Stride) : r.mode before = stride.singleMode ↔ r = stride.singleRequest := by
  cases r with
  | togglePause => cases before <;> cases stride <;> decide
  | setPaused paused =>
    cases paused <;> cases stride <;> simp [mode, Stride.singleMode, Stride.singleRequest]
  | stepFrame | stepInstruction =>
    cases stride <;> simp [mode, Stride.singleMode, Stride.singleRequest]
  | toggleDebug | setDebug | button | key => exact Bool.noConfusion h

end Request

namespace Action

/-- The request of an action, if it is one that sets the mode. -/
def modeRequest? : Action → Option Request
  | request r => if r.setsMode then some r else none
  | tick _ => none

/-- The last request since the last tick that set the mode. -/
def lastModeRequest (actions : List Action) : Option Request :=
  (actions.reverse.takeWhile fun a => !a.isTick).findSome? modeRequest?

/-- Whether an action is the request for a single instruction. -/
def isStepInstruction : Action → Bool
  | request .stepInstruction => true
  | _ => false

/-- Whether there was no tick yet. -/
def noTick (actions : List Action) : Bool := actions.all fun a => !a.isTick

theorem lastModeRequest_append_tick (actions : List Action) (now : Float) :
    lastModeRequest (actions ++ [tick now]) = none := by
  simp [lastModeRequest, isTick]

theorem lastModeRequest_append_request (actions : List Action) (r : Request) :
    lastModeRequest (actions ++ [request r]) =
      if r.setsMode then some r else lastModeRequest actions := by
  by_cases h : r.setsMode = true <;> simp [lastModeRequest, isTick, modeRequest?, h]

theorem noTick_append_tick (actions : List Action) (now : Float) :
    noTick (actions ++ [tick now]) = false := by
  simp [noTick, isTick]

theorem noTick_append_request (actions : List Action) (r : Request) :
    noTick (actions ++ [request r]) = noTick actions := by
  simp [noTick, isTick]

end Action

namespace Player

variable {γ δ : Type} [Core γ] [FaultSink δ]

/-- After a tick the player runs if it did before and nothing went wrong,
and is paused otherwise. -/
theorem mode_next (player : Player γ δ) (now : Float) :
    (player.next now).deck.mode =
      if player.deck.mode = .running ∧ player.sight.failed = false then .running else .paused := by
  simp only [next, played]
  cases player.sight.failed <;> cases player.deck.mode <;> rfl

/-- A tick leaves no single step pending. -/
theorem mode_next_ne_single (player : Player γ δ) (now : Float) (stride : Stride) :
    (player.next now).deck.mode ≠ stride.singleMode := by
  rw [mode_next]
  split <;> cases stride <;> decide

/-- A single step is pending exactly while its request is the last since the
last tick that set the mode.  Before the first tick the mode that the player
started in counts as requested. -/
theorem mode_eq_single_iff (core : γ) (screen : Screen) (sink : δ) (config : PlayerConfig)
    (actions : List Action) (stride : Stride) :
    ((start core screen sink config).after actions).deck.mode = stride.singleMode ↔
      Action.lastModeRequest actions = some stride.singleRequest ∨
        Action.noTick actions ∧ Action.lastModeRequest actions = none ∧
          config.mode = stride.singleMode := by
  refine run_induction (motive := fun actions q _ => q.deck.mode = stride.singleMode ↔
    Action.lastModeRequest actions = some stride.singleRequest ∨
      Action.noTick actions ∧ Action.lastModeRequest actions = none ∧
        config.mode = stride.singleMode) _ ?_ ?_ ?_ actions
  · simp [start, Action.lastModeRequest, Action.noTick]
  · intro actions q _ r ih
    rw [value_request, Action.lastModeRequest_append_request, Action.noTick_append_request]
    cases h : r.setsMode with
    | true => simp [Request.mode_eq_single_iff h]
    | false => simpa [Request.mode_of_not_setsMode h] using ih
  · intro actions q _ now _
    rw [Action.lastModeRequest_append_tick, Action.noTick_append_tick]
    simpa using mode_next_ne_single q now stride

/-! ## Counting instructions -/

/-- The instructions asked of the core so far, a pending one included. -/
def instructionsDue (player : Player (Traced γ) δ) : Nat :=
  player.core.advances.count .instruction + if player.deck.mode = .stepInstruction then 1 else 0

/-- Only a request for an instruction adds one; a tick that makes a pending
one moves it to the record of the core. -/
theorem instructionsDue_act_le (player : Player (Traced γ) δ) (a : Action) :
    (player.act a).instructionsDue ≤
      player.instructionsDue + if a.isStepInstruction then 1 else 0 := by
  cases a with
  | request r =>
    rw [instructionsDue, act, advances_request, value_request, instructionsDue]
    have pending : r.mode player.deck.mode = .stepInstruction →
        r = .stepInstruction ∨ player.deck.mode = .stepInstruction := by
      intro h
      cases hr : r.setsMode with
      | true => exact .inl ((Request.mode_eq_single_iff hr _ .instruction).mp h)
      | false => exact .inr ((Request.mode_of_not_setsMode hr _).symm.trans h)
    by_cases now : r.mode player.deck.mode = .stepInstruction
    · rw [if_pos now]
      rcases pending now with rfl | before
      · simp [Action.isStepInstruction]
      · rw [if_pos before]
        omega
    · rw [if_neg now]
      omega
  | tick now =>
    have made : player.deck.mode.stride.toList.count .instruction =
        if player.deck.mode = .stepInstruction then 1 else 0 := by
      cases player.deck.mode <;> rfl
    have rest : (player.next now).deck.mode ≠ .stepInstruction :=
      player.mode_next_ne_single now .instruction
    rw [instructionsDue, act_tick, advances_next, List.count_append, made, if_neg rest,
      instructionsDue]
    omega

theorem instructionsDue_after_le (player : Player (Traced γ) δ) (actions : List Action) :
    (player.after actions).instructionsDue ≤
      player.instructionsDue + actions.countP Action.isStepInstruction := by
  induction actions using List.reverseRecOn with
  | nil => exact Nat.le_refl _
  | append_singleton actions a ih =>
    have step := instructionsDue_act_le (player.after actions) a
    rw [after_append_singleton, List.countP_append, List.countP_singleton]
    omega

/-- **Advances follow requests.**  On every run of a player over any core: a
request makes no advance; a tick makes at most one, by an instruction
exactly if the request for one is the last since the tick before that set
the mode (the starting mode counting as requested before the first tick),
by a frame exactly if the mode is running or a single frame; and after a
tick the player runs on only if it did before and nothing went wrong.  So no
more instructions are executed than were asked for, and a single step that
another request supersedes is never made. -/
theorem advances_follow_requests (core : γ) (screen : Screen) (sink : δ) (config : PlayerConfig)
    (actions : List Action) :
    let player := (start core screen sink config).after actions
    let traced := (start (⟨core, []⟩ : Traced γ) screen sink config).after actions
    traced.untraced = player ∧
      (∀ r, (traced.request r).value.core.advances = traced.core.advances) ∧
      (∀ now, ∃ made : Option Stride,
        (traced.tick now).value.2.core.advances = traced.core.advances ++ made.toList ∧
          (made = some .instruction ↔
            Action.lastModeRequest actions = some .stepInstruction ∨
              Action.noTick actions ∧ Action.lastModeRequest actions = none ∧
                config.mode = .stepInstruction) ∧
          (made = some .frame ↔ player.deck.mode = .running ∨ player.deck.mode = .stepFrame)) ∧
      (player.deck.mode = .stepFrame ↔
        Action.lastModeRequest actions = some .stepFrame ∨
          Action.noTick actions ∧ Action.lastModeRequest actions = none ∧
            config.mode = .stepFrame) ∧
      (∀ now, let mode := (player.tick now).value.2.deck.mode
        (mode = .running ∨ mode = .paused) ∧
          (mode = .running ↔ player.deck.mode = .running ∧ player.sight.fault = none ∧
            ∃ frame, Core.frame player.sight.core = .ok frame)) ∧
      traced.core.advances.count .instruction ≤
        actions.countP Action.isStepInstruction +
          (if config.mode = .stepInstruction then 1 else 0) := by
  intro player traced
  have same : traced.untraced = player := untraced_after _ actions
  have mode_eq : traced.deck.mode = player.deck.mode := congrArg (fun p => p.deck.mode) same
  have single := mode_eq_single_iff core screen sink config actions
  refine ⟨same, advances_request traced, ?_, single .frame, ?_, ?_⟩
  · intro now
    refine ⟨traced.deck.mode.stride, ?_, ?_, ?_⟩
    · rw [value_tick]
      exact advances_next traced now
    · refine Iff.trans ?_ (single .instruction)
      rw [mode_eq]
      cases player.deck.mode <;> simp [Mode.stride, Stride.singleMode]
    · rw [mode_eq]
      cases player.deck.mode <;> simp [Mode.stride]
  · intro now
    have sound := Sight.failed_eq_false_iff player.sight
    rw [Sight.frame] at sound
    rw [value_tick, mode_next, ← sound]
    by_cases h : player.deck.mode = .running ∧ player.sight.failed = false <;> simp [h]
  · have due : traced.instructionsDue ≤ _ := instructionsDue_after_le _ actions
    have start_due : (start (⟨core, []⟩ : Traced γ) screen sink config).instructionsDue =
        if config.mode = .stepInstruction then 1 else 0 := Nat.zero_add _
    have made : traced.core.advances.count .instruction ≤ traced.instructionsDue :=
      Nat.le_add_right _ _
    omega

end Player

end HandheldHost
