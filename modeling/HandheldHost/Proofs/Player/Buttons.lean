import HandheldHost.Proofs.Core.Latch
import HandheldHost.Proofs.Player.Run

/-!
# The buttons of a run

The player keeps the buttons on its deck and tells its core about every
write, so there are two copies of them, and a core may keep more.  None of
the copies is ever looked up in another; they agree because each of them is
what the same writes leave.

* `Action.writes` -- the button writes that a run asks for.
* `Player.Reading.read_after` -- what these writes have made of the joypad of
  the deck, or of a latch of the core.
* `Player.buttons_agree` -- the copies in a pattern core and in a recorder
  core.
-/

namespace HandheldHost

/-! ## The writes of a run -/

namespace Action

/-- The button write that an action asks for.  A tick asks for none. -/
def write? (keys : KeyTable) : Action → Option ButtonWrite
  | request r => r.write? keys
  | tick _ => none

/-- The button writes of a run, in order and with repetitions. -/
def writes (keys : KeyTable) (actions : List Action) : List ButtonWrite :=
  actions.filterMap (write? keys)

theorem writes_append_singleton (keys : KeyTable) (actions : List Action) (a : Action) :
    writes keys (actions ++ [a]) = writes keys actions ++ (a.write? keys).toList := by
  rw [writes, List.filterMap_append, ← writes]
  cases h : a.write? keys <;> simp [h]

end Action

/-- No tick changes the reading of a latch. -/
theorem Core.Latch.steady {γ α : Type} [Core γ] (latch : Core.Latch γ α) (a : α) :
    Core.Steady fun core => latch.read core = a where
  advance stride core h := (latch.read_advance stride core).trans h
  registers {core} h := (latch.read_registers core).trans h
  window size core h := (latch.read_window size core).trans h

namespace Player

variable {γ δ α : Type} [Core γ]

theorem request_unmapped (player : Player γ δ) {code : UInt32}
    (unmapped : player.deck.keys.resolve code = none) (pressed : Bool) :
    (player.request (.key code pressed)).value = player := by
  have silent : (Request.key code pressed).write? player.deck.keys = none := by
    rw [Request.write?, unmapped, Option.map_none]
  rw [value_request, silent]
  rfl

variable [FaultSink δ]

/-! ## Readings -/

/-- A reading of the player that a request changes by the write it asks for,
and a tick not at all. -/
structure Reading (γ δ α : Type) [Core γ] [FaultSink δ] where
  read : Player γ δ → α
  write : ButtonWrite → α → α
  read_request : ∀ (player : Player γ δ) (r : Request),
    read (player.request r).value =
      (r.write? player.deck.keys).toList.foldl (fun a w => write w a) (read player)
  read_next : ∀ (player : Player γ δ) (now : Float), read (player.next now) = read player

/-- The buttons of the deck. -/
def joypadReading : Reading γ δ (Button → Bool) where
  read player := player.deck.joypad.isHeld
  write := ButtonWrite.apply
  read_request player r := by
    rw [value_request]
    cases r.write? player.deck.keys with
    | none => rfl
    | some write => exact player.deck.joypad.isHeld_set_eq_apply write
  read_next _ _ := rfl

/-- A latch of the core. -/
def latchReading (latch : Core.Latch γ α) : Reading γ δ α where
  read player := latch.read player.core
  write := latch.write
  read_request player r := by
    rw [value_request]
    cases r.write? player.deck.keys with
    | none => rfl
    | some write => exact latch.read_setButton write player.core
  read_next player now :=
    have steady := latch.steady (latch.read player.core)
    core_next steady (core_sight steady rfl) now

theorem keys_act (player : Player γ δ) (a : Action) :
    (player.act a).deck.keys = player.deck.keys := by
  cases a with
  | request r => rw [act, value_request]
  | tick now => rw [act_tick]; rfl

theorem keys_after (player : Player γ δ) (actions : List Action) :
    (player.after actions).deck.keys = player.deck.keys := by
  induction actions using List.reverseRecOn with
  | nil => rfl
  | append_singleton actions a ih => rw [after_append_singleton, keys_act, ih]

namespace Reading

variable (reading : Reading γ δ α)

theorem read_act (player : Player γ δ) (a : Action) :
    reading.read (player.act a) =
      (a.write? player.deck.keys).toList.foldl (fun a w => reading.write w a)
        (reading.read player) := by
  cases a with
  | request r => exact reading.read_request player r
  | tick now => rw [act_tick]; exact reading.read_next player now

/-- A reading after a run is what the writes of the run have made of it. -/
theorem read_after (player : Player γ δ) (actions : List Action) :
    reading.read (player.after actions) =
      (Action.writes player.deck.keys actions).foldl (fun a w => reading.write w a)
        (reading.read player) := by
  induction actions using List.reverseRecOn with
  | nil => rfl
  | append_singleton actions a ih =>
    rw [after_append_singleton, read_act, keys_after, ih, Action.writes_append_singleton,
      List.foldl_append]

/-- Flags that start released are the last writes of the run. -/
theorem flags_after {reading : Reading γ δ (Button → Bool)}
    (flags : reading.write = ButtonWrite.apply) (player : Player γ δ)
    (released : reading.read player = fun _ => false) (actions : List Action) :
    reading.read (player.after actions) =
      ButtonWrite.last (Action.writes player.deck.keys actions) := by
  rw [read_after, flags, released, ButtonWrite.foldl_apply]

end Reading

/-! ## Agreement -/

/-- Player and core agree on every button, and both go by the writes: a
button has the value last written to it, and only an action that writes
changes a button.  A key that no button is bound to changes nothing. -/
structure ButtonsAgree (held : γ → Button → Bool) (player : Player γ δ)
    (writes : List ButtonWrite) : Prop where
  keys : player.deck.keys = .standard
  joypad : ∀ button, player.deck.joypad.isHeld button = ButtonWrite.last writes button
  core : ∀ button, held player.core button = ButtonWrite.last writes button
  listed : player.deck.joypad.held = Button.all.filter (ButtonWrite.last writes)
  unmapped : ∀ code pressed, KeyTable.standard.resolve code = none →
    (player.request (.key code pressed)).value = player
  kept : ∀ a : Action, a.write? .standard = none →
    (player.act a).deck.joypad.isHeld = player.deck.joypad.isHeld ∧
      held (player.act a).core = held player.core

/-- Agreement after any run, for a core whose buttons are a latch and that
starts with all of them released. -/
theorem buttonsAgree_after (latch : Core.Latch γ (Button → Bool))
    (flags : latch.write = ButtonWrite.apply) (core : γ)
    (released : latch.read core = fun _ => false) (screen : Screen) (sink : δ)
    (config : PlayerConfig) (actions : List Action) :
    ButtonsAgree latch.read ((start core screen sink config).after actions)
      (Action.writes .standard actions) := by
  let first := start core screen sink config
  have keys : (first.after actions).deck.keys = .standard := keys_after first actions
  have joypad : (first.after actions).deck.joypad.isHeld =
      ButtonWrite.last (Action.writes .standard actions) :=
    joypadReading.flags_after rfl first (funext Joypad.isHeld_default) actions
  have held : latch.read (first.after actions).core =
      ButtonWrite.last (Action.writes .standard actions) :=
    (latchReading latch).flags_after flags first released actions
  refine ⟨keys, congrFun joypad, congrFun held, ?_, ?_, ?_⟩
  · rw [Joypad.held, joypad]
  · intro code pressed unmapped
    exact request_unmapped _ (keys ▸ unmapped) pressed
  · intro a silent
    have joypad_kept := joypadReading.read_act (first.after actions) a
    have held_kept := (latchReading latch).read_act (first.after actions) a
    rw [keys, silent] at joypad_kept held_kept
    exact ⟨joypad_kept, held_kept⟩

/-- **Player and core agree on every button.**  A run of a player over a
pattern core, or over a recorder core that nobody has written to, leaves every
button at the value last written to it, on the deck and in the core alike; and
the log of the recorder core is the writes of the run, in order and with all
repetitions. -/
theorem buttons_agree (screen : Screen) (sink : δ) (config : PlayerConfig)
    (actions : List Action) :
    (∀ (rom : Bytes) (core : PatternCore), (PatternCore.load rom).value = .ok core →
      ButtonsAgree PatternCore.isHeld ((start core screen sink config).after actions)
        (Action.writes .standard actions)) ∧
      ∀ core : RecorderCore, core.writes = [] → (∀ button, core.isHeld button = false) →
        ButtonsAgree RecorderCore.isHeld ((start core screen sink config).after actions)
            (Action.writes .standard actions) ∧
          ((start core screen sink config).after actions).core.writes =
            Action.writes .standard actions := by
  constructor
  · intro rom core loaded
    obtain ⟨-, rfl⟩ := (PatternCore.load_eq_ok_iff rom core).mp loaded
    refine buttonsAgree_after PatternCore.flags rfl _ ?_ screen sink config actions
    funext button
    cases button <;> rfl
  · intro core unwritten released
    refine ⟨buttonsAgree_after RecorderCore.flags rfl core (funext released) screen sink config
      actions, ?_⟩
    have logged : ((start core screen sink config).after actions).core.writes =
        (Action.writes .standard actions).foldl
          (fun writes w => RecorderCore.log.write w writes) core.writes :=
      (latchReading RecorderCore.log).read_after (start core screen sink config) actions
    rw [logged, unwritten, RecorderCore.foldl_log]

/-- A button pressed and released twice, a key held, and one that no button is
bound to, over a cartridge of zeros and over a recorder core whose first frame
faults. -/
theorem buttons_agree_on_repeated_writes :
    let actions : List Action :=
      [.request (.button .a true), .tick 0, .request (.key 38 true), .request (.key 13 true),
        .request (.button .a false), .tick 16, .request (.button .a false)]
    let writes : List ButtonWrite := [⟨.a, true⟩, ⟨.up, true⟩, ⟨.a, false⟩, ⟨.a, false⟩]
    let pattern := PatternCore.boot (Array.replicate 0x150 0)
    let recorder : RecorderCore := { RecorderCore.ofGeometry ⟨2, 1⟩ with faultOnFrame := some 1 }
    ButtonsAgree PatternCore.isHeld ((start pattern {} ({} : Ledger) {}).after actions) writes ∧
      ButtonsAgree RecorderCore.isHeld ((start recorder {} ({} : Ledger) {}).after actions)
          writes ∧
        ((start recorder {} ({} : Ledger) {}).after actions).core.writes = writes := by
  intro actions writes pattern recorder
  obtain ⟨overPattern, overRecorder⟩ := buttons_agree {} ({} : Ledger) {} actions
  have loaded : (PatternCore.load (Array.replicate 0x150 0)).value = .ok pattern :=
    (PatternCore.load_eq_ok_iff _ _).mpr ⟨Nat.le_of_eq Array.size_replicate.symm, rfl⟩
  have released : ∀ button, recorder.isHeld button = false := by
    intro button
    cases button <;> rfl
  exact ⟨overPattern _ pattern loaded, overRecorder recorder rfl released⟩

end Player

end HandheldHost
