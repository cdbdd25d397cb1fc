import HandheldHost.Proofs.Core.Tally
import HandheldHost.Proofs.Player.Picture

/-!
# Advances on both sides

A player counts the advances that its core completes, and a recorder core counts
the calls made to it.  Nothing is lost between the two.

* `Player.Balanced` -- the counts of player and core agree, and so does what the
  compositor carries; a tick keeps it so (`Player.Balanced.next`).
* `Compositor.Carries.canvas_eq_iff` -- a canvas shows which picture it carries.
* `Player.advances_are_conserved` -- the balance after any run, and what the
  screen shows of it.
-/

namespace HandheldHost

/-! ## Canvases and their pictures -/

/-- A picture of the display is known by its rows. -/
theorem Geometry.ext_row {g : Geometry} {a b : Bytes}
    (ha : a.size = 4 * (g.width.toNat * g.height.toNat))
    (hb : b.size = 4 * (g.width.toNat * g.height.toNat))
    (same : ∀ y, y < g.height.toNat → g.row a y = g.row b y) : a = b := by
  refine Raster.ext ha hb fun r c hr hc => ?_
  rw [← getElem?_row ha hr hc, ← getElem?_row hb hr hc, same r hr]

/-- Two compositors for one display hold the same canvas exactly if they carry the
same picture. -/
theorem Compositor.Carries.canvas_eq_iff {a b : Compositor} {g : Geometry} {border : Border}
    {picture other : Bytes} (ha : a.Carries g border picture) (hb : b.Carries g border other) :
    a.canvas = b.canvas ↔ picture = other := by
  obtain ⟨layout, left⟩ := a
  obtain ⟨layout', right⟩ := b
  obtain rfl : layout = ⟨g, border⟩ := ha.layout_eq
  obtain rfl : layout' = ⟨g, border⟩ := hb.layout_eq
  constructor
  · intro same
    have canvases : left.toArray = right.toArray := same
    refine Geometry.ext_row ha.whole hb.whole fun y hy => ?_
    rw [← ha.holds.extract_row hy (g.size_row ha.whole hy), canvases]
    exact hb.holds.extract_row hy (g.size_row hb.whole hy)
  · rintro rfl
    exact congrArg Vector.toArray (ha.holds.unique hb.holds)

namespace Player

/-! ## What the player counts -/

section

variable {γ δ : Type} [Core γ]

/-- A tick completes an advance, or faults, or finds playback paused, and it never
does two of these. -/
theorem one_way (player : Player γ δ) :
    (if player.completed.isSome then 1 else 0) + (if player.sight.fault.isSome then 1 else 0) +
      (if player.deck.mode = .paused then 1 else 0) = 1 := by
  have idle := Mode.stride_eq_none_iff player.deck.mode
  unfold completed sight
  cases planned : player.deck.mode.stride with
  | none => simp [idle.mp planned]
  | some stride =>
    have busy : player.deck.mode ≠ .paused := fun paused => by simp [idle.mpr paused] at planned
    cases ended : (Core.advance stride player.core).value.1 <;> simp [busy, ended]

/-- What the player counts of a tick, as long as there is room. -/
theorem val_nextCounters (player : Player γ δ)
    (frames : player.deck.counters.frames.val + 1 ≤ Counter.limit)
    (instructions : player.deck.counters.instructions.val + 1 ≤ Counter.limit) :
    player.nextCounters.frames.val =
        player.deck.counters.frames.val + (if player.completed = some .frame then 1 else 0) ∧
      player.nextCounters.instructions.val =
        player.deck.counters.instructions.val +
          if player.completed = some .instruction then 1 else 0 := by
  unfold nextCounters
  constructor
  · by_cases counted : player.completed = some .frame
    · simp only [if_pos counted, Counter.val_bump]
      exact Nat.min_eq_left frames
    · simp only [if_neg counted, Nat.add_zero]
  · by_cases counted : player.completed = some .instruction
    · simp only [if_pos counted, Counter.val_bump]
      exact Nat.min_eq_left instructions
    · simp only [if_neg counted, Nat.add_zero]

/-- Every advance completed is counted once. -/
theorem advances_nextCounters (player : Player γ δ)
    (frames : player.deck.counters.frames.val + 1 ≤ Counter.limit)
    (instructions : player.deck.counters.instructions.val + 1 ≤ Counter.limit) :
    player.nextCounters.frames.val + player.nextCounters.instructions.val =
      player.deck.counters.frames.val + player.deck.counters.instructions.val +
        if player.completed.isSome then 1 else 0 := by
  obtain ⟨counted_frames, counted_instructions⟩ := player.val_nextCounters frames instructions
  rw [counted_frames, counted_instructions]
  rcases player.completed with _ | _ | _ <;> simp <;> omega

variable [FaultSink δ]

/-- The modes that the ticks of a run find, in order. -/
def modes : Player γ δ → List Action → List Mode := gather fun player _ => player.deck.mode

/-- Every tick is counted. -/
theorem ticks_after (player : Player γ δ) (actions : List Action)
    (room : player.deck.counters.ticks.val + actions.countP Action.isTick ≤ Counter.limit) :
    (player.after actions).deck.counters.ticks.val =
      player.deck.counters.ticks.val + actions.countP Action.isTick := by
  induction actions using List.reverseRecOn with
  | nil => rfl
  | append_singleton actions action ih =>
    rw [List.countP_append] at room ⊢
    rw [after_append_singleton]
    have sofar := ih (by omega)
    cases action with
    | request r =>
      rw [act, value_request]
      exact sofar
    | tick now =>
      rw [act_tick]
      show ((player.after actions).deck.counters.ticks.bump).val = _
      rw [Counter.val_bump, sofar]
      exact Nat.min_eq_left room

end

/-! ## The balance -/

variable {δ : Type} {g : Geometry} {border : Border} {player : Player RecorderCore δ}
  {faulted paused : Nat}

/-- The counts of a player agree with those of its recorder core; each tick has
completed an advance, has faulted, or has found playback paused; and the
compositor carries the picture of the core. -/
structure Balanced (g : Geometry) (border : Border) (player : Player RecorderCore δ)
    (faulted paused : Nat) : Prop where
  tally : player.core.Tally g player.deck.counters.frames.val
    player.deck.counters.instructions.val faulted
  ticks : player.deck.counters.ticks.val =
    player.deck.counters.frames.val + player.deck.counters.instructions.val + faulted + paused
  carries : player.compositor.Carries g border player.core.frame

theorem balanced_start (g : Geometry) {faultOnFrame : Option UInt64}
    (numbered : faultOnFrame ≠ some 0) (screen : Screen) (sink : δ) (config : PlayerConfig) :
    Balanced g config.border
      (start (RecorderCore.scripted g faultOnFrame) screen sink config) 0 0 := by
  have tally := RecorderCore.tally_scripted g numbered
  refine ⟨tally, rfl, ?_⟩
  -- Black is the shade of no advance.
  have black : (RecorderCore.scripted g faultOnFrame).frame = g.black := tally.frame_eq
  show Compositor.Carries _ g _ (RecorderCore.scripted g faultOnFrame).frame
  rw [black]
  exact Compositor.carries_new g config.border

theorem Balanced.request (h : Balanced g border player faulted paused) (r : Request) :
    Balanced g border (player.request r).value faulted paused := by
  rw [value_request]
  cases r.write? player.deck.keys with
  | none => exact ⟨h.tally, h.ticks, h.carries⟩
  | some write => exact ⟨h.tally.congr _ _ _ _, h.ticks, h.carries⟩

/-- The core of the next tick agrees with the counts that the tick leaves. -/
theorem Balanced.tally_sight (h : Balanced g border player faulted paused)
    (room : player.deck.counters.ticks.val + 1 ≤ Counter.limit) :
    player.sight.core.Tally g player.nextCounters.frames.val player.nextCounters.instructions.val
      (faulted + if player.sight.fault.isSome then 1 else 0) := by
  have balance := h.ticks
  have limit : Counter.limit + 1 = UInt64.size := rfl
  obtain ⟨frames, instructions⟩ := player.val_nextCounters (by omega) (by omega)
  rw [frames, instructions]
  unfold completed Player.sight
  cases planned : player.deck.mode.stride with
  | none => exact h.tally
  | some stride =>
    cases stride with
    | instruction =>
      obtain ⟨sound, tally⟩ := h.tally.instruction (by omega)
      have sound : (Core.advance .instruction player.core).value.1 = none := sound
      simp only [sound]
      exact tally
    | frame =>
      rcases h.tally.frame (by omega) with ⟨faults, tally⟩ | ⟨sound, tally⟩
      · have faults : (Core.advance .frame player.core).value.1.isSome := faults
        simp only [faults]
        exact tally
      · have sound : (Core.advance .frame player.core).value.1 = none := sound
        simp only [sound]
        exact tally

/-- The next tick has a frame to show, the picture of the core. -/
theorem Balanced.nextCompositor (wide : 0 < g.width.toNat) (tall : 0 < g.height.toNat)
    (h : Balanced g border player faulted paused)
    (room : player.deck.counters.ticks.val + 1 ≤ Counter.limit) :
    player.nextCompositor.Carries g border player.sight.core.frame := by
  have tally := h.tally_sight room
  obtain ⟨frame, fetched⟩ := tally.frame_ok wide tall
  obtain ⟨bytes_eq, geometry_eq⟩ := Frame.of_ofBytes fetched
  have accepted := h.carries.accept frame
  rw [if_pos (geometry_eq.trans tally.geometry_eq), bytes_eq] at accepted
  rw [Player.nextCompositor, show player.sight.frame = .ok frame from fetched]
  exact accepted

theorem Balanced.next [FaultSink δ] (wide : 0 < g.width.toNat) (tall : 0 < g.height.toNat)
    (h : Balanced g border player faulted paused)
    (room : player.deck.counters.ticks.val + 1 ≤ Counter.limit) (now : Float) :
    Balanced g border (player.next now)
      (faulted + if player.sight.fault.isSome then 1 else 0)
      (paused + if player.deck.mode = .paused then 1 else 0) := by
  have tally := h.tally_sight room
  have ticks : player.nextCounters.ticks.val = player.nextCounters.frames.val +
      player.nextCounters.instructions.val +
        (faulted + if player.sight.fault.isSome then 1 else 0) +
          (paused + if player.deck.mode = .paused then 1 else 0) := by
    have counted : player.nextCounters.ticks.val = player.deck.counters.ticks.val + 1 :=
      Nat.min_eq_left room
    have balance := h.ticks
    have advances := player.advances_nextCounters (by omega) (by omega)
    have way := player.one_way
    omega
  have carries := h.nextCompositor wide tall room
  -- The debug view is the only reason for the core to be read, and reads are not counted here.
  unfold Player.next
  cases player.deck.debug with
  | false => exact ⟨tally, ticks, carries⟩
  | true => exact ⟨tally.congr _ _ _ _, ticks, carries⟩

/-- A tick shows something else than was shown exactly if it completes an advance. -/
theorem Balanced.screen_next [FaultSink δ] (wide : 0 < g.width.toNat) (tall : 0 < g.height.toNat)
    (h : Balanced g border player faulted paused)
    (room : player.deck.counters.ticks.val + 1 ≤ Counter.limit) {old : Screen}
    (shown : player.screen = player.compositor.present old) (now : Float) :
    (player.next now).screen ≠
        { player.screen with presents := (player.next now).screen.presents } ↔
      player.completed ≠ none := by
  have tally := h.tally_sight room
  have balance := h.ticks
  have grown := player.advances_nextCounters (by omega) (by omega)
  have carries := h.nextCompositor wide tall room
  have same_layout : player.nextCompositor.toLayout = player.compositor.toLayout :=
    carries.layout_eq.trans h.carries.layout_eq.symm
  have canvases : player.nextCompositor.canvas = player.compositor.canvas ↔
      player.completed = none := by
    rw [carries.canvas_eq_iff h.carries, tally.frame_eq, grown, h.tally.frame_eq]
    cases player.completed with
    | none => simp
    | some stride => simpa using Geometry.shaded_succ_ne wide tall _
  rw [ne_eq, ne_eq, ← canvases, not_iff_not, shown]
  show player.nextCompositor.present player.screen =
    { player.compositor.present old with presents := player.screen.presents + 1 } ↔ _
  simp only [Compositor.present, Screen.present, same_layout, Screen.mk.injEq, and_true]

variable [FaultSink δ] {first : Player RecorderCore δ}

theorem balanced_after (wide : 0 < g.width.toNat) (tall : 0 < g.height.toNat)
    (h : Balanced g border first 0 0) (actions : List Action)
    (room : first.deck.counters.ticks.val + actions.countP Action.isTick ≤ Counter.limit) :
    Balanced g border (first.after actions)
      ((first.sights actions).countP fun s => s.fault.isSome)
      ((first.modes actions).count .paused) := by
  induction actions using List.reverseRecOn with
  | nil => exact h
  | append_singleton actions action ih =>
    rw [List.countP_append] at room
    have sofar := ih (by omega)
    rw [after_append_singleton, sights, modes]
    cases action with
    | request r =>
      rw [gather_append_request, gather_append_request]
      exact sofar.request r
    | tick now =>
      have ticks := first.ticks_after actions (by omega)
      rw [act_tick, gather_append_tick, gather_append_tick, List.countP_append, List.count_append]
      have next := sofar.next wide tall (by rw [ticks]; exact room) now
      simpa [List.countP_cons, List.count_cons, sights, modes] using next

/-- Between two ticks nothing is presented. -/
theorem screen_after_requests (player : Player RecorderCore δ) (requests : List Request) :
    (player.after (requests.map .request)).screen = player.screen := by
  induction requests generalizing player with
  | nil => rfl
  | cons r requests ih => exact (ih _).trans (player.screen_request r)

/-- What is shown after a tick, against what was shown after the tick before. -/
theorem screen_of_next_tick (wide : 0 < g.width.toNat) (tall : 0 < g.height.toNat)
    (h : Balanced g border first 0 0) (before : List Action) (now : Float)
    (requests : List Request) (later : Float) :
    let between := before ++ [.tick now] ++ requests.map .request
    first.deck.counters.ticks.val + (between ++ [.tick later]).countP Action.isTick ≤
        Counter.limit →
      let earlier := (first.after (before ++ [.tick now])).screen
      let player := first.after (between ++ [.tick later])
      player.screen ≠ { earlier with presents := player.screen.presents } ↔
        ((first.after between).tick later).value.1.advanced ≠ none := by
  intro between room earlier player
  rw [List.countP_append, List.countP_singleton] at room
  have one_tick : 0 < between.countP Action.isTick :=
    List.countP_pos_iff.mpr ⟨.tick now, by simp [between], rfl⟩
  have ticks : (first.after between).deck.counters.ticks.val = _ :=
    first.ticks_after between (by omega)
  have balanced : Balanced g border (first.after between) _ _ :=
    balanced_after wide tall h between (by omega)
  obtain ⟨old, shown⟩ := first.screen_after between one_tick
  have still : earlier = (first.after between).screen := by
    rw [show first.after between = _ from first.after_append _ _]
    exact (screen_after_requests _ requests).symm
  have last : player = (first.after between).next later := by
    rw [show player = _ from first.after_append_singleton between _, act_tick]
  rw [last, still, value_tick]
  exact balanced.screen_next wide tall (by rw [ticks]; exact room) shown later

/-- **Advances are conserved.**  Take a player over a new recorder core whose display
is not empty, which may be told to fault on some frame advance, counted from one.
After every run of fewer than 2 ^ 64 ticks the instructions that the core was asked
for are those that the player has counted; the frames are those plus the ticks whose
advance faulted; the advances that the core takes for completed are all that the
player has counted; every tick has completed an advance, has faulted, or has found
playback paused; and every pixel of the framebuffer is in the shade of the advances
completed, modulo 256.  What the screen shows after a tick is something else than
after the tick before, whatever was requested between them, exactly if the tick
completed an advance; only the count of presentations grows with every tick. -/
theorem advances_are_conserved (g : Geometry) (wide : 0 < g.width.toNat)
    (tall : 0 < g.height.toNat) {faultOnFrame : Option UInt64} (numbered : faultOnFrame ≠ some 0)
    (screen : Screen) (sink : δ) (config : PlayerConfig) (actions : List Action)
    (room : actions.countP Action.isTick < UInt64.size) :
    let first := start (RecorderCore.scripted g faultOnFrame) screen sink config
    let player := first.after actions
    let core := player.core
    let counters := player.deck.counters
    let faulted := (first.sights actions).countP fun s => s.fault.isSome
    let paused := (first.modes actions).count .paused
    core.instructionCalls.toNat = counters.instructions.val ∧
      core.frameCalls.toNat = counters.frames.val + faulted ∧
      core.completed.toNat = counters.frames.val + counters.instructions.val ∧
      counters.ticks.val = counters.frames.val + counters.instructions.val + faulted + paused ∧
      (core.frame.size = 4 * (g.width.toNat * g.height.toNat) ∧
        ∀ x y, x < g.width.toNat → y < g.height.toNat →
          Raster.pixel? core.frame (4 * (y * g.width.toNat + x)) =
            some (.grey (UInt8.ofNat core.completed.toNat))) ∧
      ∀ (before : List Action) (now : Float) (requests : List Request) (later : Float),
        actions = before ++ [.tick now] ++ requests.map .request ++ [.tick later] →
          let earlier := (first.after (before ++ [.tick now])).screen
          let outcome :=
            ((first.after (before ++ [.tick now] ++ requests.map .request)).tick later).value.1
          player.screen ≠ { earlier with presents := player.screen.presents } ↔
            outcome.advanced ≠ none := by
  intro first player core counters faulted paused
  have limit : Counter.limit + 1 = UInt64.size := rfl
  have new : Balanced g config.border first 0 0 := balanced_start g numbered screen sink config
  have zero : first.deck.counters.ticks.val = 0 := rfl
  have balanced : Balanced g config.border player faulted paused :=
    balanced_after wide tall new actions (by omega)
  have tally : core.Tally g counters.frames.val counters.instructions.val faulted := balanced.tally
  refine ⟨tally.instructionCalls, tally.frameCalls, tally.completed, balanced.ticks,
    ⟨tally.whole, ?_⟩, ?_⟩
  · intro x y hx hy
    rw [tally.frame_eq, tally.completed]
    exact Raster.pixel?_draw hx hy _
  · intro before now requests later actions_eq earlier outcome
    subst actions_eq
    exact screen_of_next_tick wide tall new before now requests later (by omega)

/-- A core that faults on its second frame, and a tick for each: the second counts
for the core only, and shows nothing new. -/
theorem advances_are_conserved_over_a_fault :
    let g : Geometry := ⟨2, 1⟩
    let actions : List Action := [.tick 0, .request .toggleDebug, .tick 16]
    let first := start (RecorderCore.scripted g (some 2)) {} ({} : Ledger) {}
    let player := first.after actions
    (0 < g.width.toNat ∧ 0 < g.height.toNat ∧ (some 2 : Option UInt64) ≠ some 0 ∧
        actions.countP Action.isTick < UInt64.size) ∧
      (first.sights actions).countP (fun s => s.fault.isSome) = 1 ∧
        player.core.frameCalls.toNat = player.deck.counters.frames.val + 1 ∧
          player.screen = { (first.after [.tick 0]).screen with
            presents := player.screen.presents } := by
  intro g actions first player
  have wide : 0 < g.width.toNat := by decide
  have tall : 0 < g.height.toNat := by decide
  have numbered : (some 2 : Option UInt64) ≠ some 0 := by decide
  have room : actions.countP Action.isTick < UInt64.size := by decide
  have faulted : (first.sights actions).countP (fun s => s.fault.isSome) = 1 := by
    simp only [sights, actions, gather, act_tick]
    decide +kernel
  have idle : ((first.after [.tick 0, .request .toggleDebug]).tick 16).value.1.advanced = none := by
    have asked : first.after [.tick 0, .request .toggleDebug] =
        (Player.request (first.next 0) .toggleDebug).value := by
      show act (act first (.tick 0)) (.request .toggleDebug) = _
      rw [act_tick]
      rfl
    rw [value_tick, asked]
    show Player.completed _ = none
    decide +kernel
  subst player first
  obtain ⟨-, calls, -, -, -, shown⟩ :=
    advances_are_conserved g wide tall numbered {} ({} : Ledger) {} actions room
  have new_picture := shown [] 0 [.toggleDebug] 16 rfl
  simp only [List.nil_append, List.cons_append, List.map_cons, List.map_nil] at new_picture
  rw [faulted] at calls
  exact ⟨⟨wide, tall, numbered, room⟩, faulted, calls,
    not_not.mp (mt new_picture.mp (not_not.mpr idle))⟩

end Player

end HandheldHost
