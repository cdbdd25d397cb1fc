import HandheldHost.Proofs.Core.Likeness
import HandheldHost.Proofs.Player.Run
import Mathlib.Tactic.IntervalCases

/-!
# Requests about different things

Playback, the debug switch and each of the eight buttons are streams of requests
of their own, and a player may be given them in any interleaving.  All that
matters in the end is what each stream says.

* `Player.Alike` -- players that differ in nothing but cores that are alike; so
  they do for ever (`Player.Alike.request`, `Player.Alike.next`).
* `Player.alike_swap` -- two requests about different things may be exchanged.
* `Player.alike_requested` -- so may whole streams: the first request of one run
  is moved to the front of the other, and the rest is induction.
* `Player.streams_are_independent` -- what that means for a pattern core and for
  a recorder core.
-/

namespace HandheldHost

/-! ## Topics -/

namespace Request

/-- What a request is about. -/
inductive Topic where
  | playback
  | debugging
  | button (button : Button)
  /-- A key that no button is bound to. -/
  | nothing
  deriving DecidableEq

/-- The topic of a request, under a key table. -/
def topic (keys : KeyTable) : Request → Topic
  | .togglePause | .setPaused _ | .stepFrame | .stepInstruction => .playback
  | .toggleDebug | .setDebug _ => .debugging
  | .button which _ => .button which
  | .key code _ =>
    match keys.resolve code with
    | some which => .button which
    | none => .nothing

variable {keys : KeyTable} {r other : Request}

theorem mode_of_topic (h : r.topic keys ≠ .playback) (before : Mode) : r.mode before = before := by
  cases r with
  | togglePause | setPaused | stepFrame | stepInstruction => exact absurd rfl h
  | toggleDebug | setDebug | button | key => rfl

theorem debug_of_topic (h : r.topic keys ≠ .debugging) (before : Bool) :
    r.debug before = before := by
  cases r with
  | toggleDebug | setDebug => exact absurd rfl h
  | togglePause | setPaused | stepFrame | stepInstruction | button | key => rfl

theorem topic_of_write {write : ButtonWrite} (h : r.write? keys = some write) :
    r.topic keys = .button write.button := by
  cases r with
  | button which pressed =>
    cases h
    rfl
  | key code pressed =>
    obtain ⟨which, bound, rfl⟩ := Option.map_eq_some_iff.mp h
    rw [topic, bound]
  | togglePause | setPaused | stepFrame | stepInstruction | toggleDebug | setDebug => cases h

theorem write?_of_nothing (h : r.topic keys = .nothing) : r.write? keys = none := by
  cases written : r.write? keys with
  | none => rfl
  | some write =>
    rw [topic_of_write written] at h
    cases h

/-- Requests about different things do not write to the same button. -/
theorem buttons_apart (apart : r.topic keys ≠ other.topic keys) {first second : ButtonWrite}
    (h : r.write? keys = some first) (h' : other.write? keys = some second) :
    first.button ≠ second.button := by
  rw [topic_of_write h, topic_of_write h'] at apart
  exact fun same => apart (congrArg Topic.button same)

theorem mode_comm (apart : r.topic keys ≠ other.topic keys) (before : Mode) :
    other.mode (r.mode before) = r.mode (other.mode before) := by
  by_cases playback : r.topic keys = .playback
  · have silent : other.topic keys ≠ .playback := fun h => apart (playback.trans h.symm)
    rw [mode_of_topic silent, mode_of_topic silent]
  · rw [mode_of_topic playback, mode_of_topic playback]

theorem debug_comm (apart : r.topic keys ≠ other.topic keys) (before : Bool) :
    other.debug (r.debug before) = r.debug (other.debug before) := by
  by_cases debugging : r.topic keys = .debugging
  · have silent : other.topic keys ≠ .debugging := fun h => apart (debugging.trans h.symm)
    rw [debug_of_topic silent, debug_of_topic silent]
  · rw [debug_of_topic debugging, debug_of_topic debugging]

end Request

namespace Joypad

/-- A joypad is known by the buttons held. -/
theorem ext_isHeld {pad other : Joypad} (h : ∀ button, pad.isHeld button = other.isHeld button) :
    pad = other := by
  have bits : pad.bits = other.bits := by
    apply BitVec.eq_of_getLsbD_eq
    intro i within
    have place : (Button.all.getD i .up).index = i := by interval_cases i <;> rfl
    have same := h (Button.all.getD i .up)
    rwa [isHeld, isHeld, place] at same
  cases pad
  cases other
  exact congrArg Joypad.mk bits

theorem written_comm (pad : Joypad) {keys : KeyTable} {r other : Request}
    (apart : r.topic keys ≠ other.topic keys) :
    (pad.written (r.write? keys)).written (other.write? keys) =
      (pad.written (other.write? keys)).written (r.write? keys) := by
  cases h : r.write? keys with
  | none => rfl
  | some first =>
    cases h' : other.write? keys with
    | none => rfl
    | some second =>
      have buttons := Request.buttons_apart apart h h'
      apply ext_isHeld
      intro button
      simp only [written, isHeld_set]
      by_cases here : button = second.button
      · rw [if_pos here, if_neg (here ▸ buttons.symm), if_pos here]
      · rw [if_neg here, if_neg here]

end Joypad

namespace Player

variable {γ δ : Type} [Core γ]

/-! ## Players that are alike -/

/-- The players are the same but for their cores, and those are alike. -/
structure Alike (likeness : Core.Likeness γ) (a b : Player γ δ) : Prop where
  core : likeness.alike a.core b.core
  rest : { a with core := b.core } = b

namespace Alike

variable {likeness : Core.Likeness γ} {a b c : Player γ δ}

theorem refl (player : Player γ δ) : Alike likeness player player :=
  ⟨likeness.equivalence.refl _, rfl⟩

theorem symm (h : Alike likeness a b) : Alike likeness b a := by
  refine ⟨likeness.equivalence.symm h.core, ?_⟩
  rw [← h.rest]

theorem trans (h : Alike likeness a b) (h' : Alike likeness b c) : Alike likeness a c := by
  refine ⟨likeness.equivalence.trans h.core h'.core, ?_⟩
  rw [← h'.rest, ← h.rest]

theorem deck_eq (h : Alike likeness a b) : b.deck = a.deck := by
  rw [← h.rest]

theorem request (h : Alike likeness a b) (r : Request) :
    Alike likeness (a.request r).value (b.request r).value := by
  have deck := h.deck_eq
  refine ⟨?_, ?_⟩
  · rw [value_request, value_request, deck]
    cases r.write? a.deck.keys with
    | none => exact h.core
    | some write => exact likeness.setButton_alike write h.core
  · rw [value_request, value_request, ← h.rest]

/-! A tick finds the same in both players, and so does the same. -/

theorem fault_sight (h : Alike likeness a b) : b.sight.fault = a.sight.fault := by
  rw [sight, sight, h.deck_eq]
  cases a.deck.mode.stride with
  | none => rfl
  | some stride => exact (likeness.fault_eq stride h.core).symm

theorem core_sight (h : Alike likeness a b) : likeness.alike a.sight.core b.sight.core := by
  rw [sight, sight, h.deck_eq]
  cases a.deck.mode.stride with
  | none => exact h.core
  | some stride => exact likeness.advance_alike stride h.core

theorem frame_sight (h : Alike likeness a b) : b.sight.frame = a.sight.frame := by
  rw [Sight.frame, Sight.frame, Core.frame, Core.frame, likeness.framebuffer_eq h.core_sight,
    likeness.geometry_eq h.core_sight]

theorem hasFrame_sight (h : Alike likeness a b) : b.sight.hasFrame = a.sight.hasFrame := by
  rw [Sight.hasFrame, Sight.hasFrame, h.frame_sight]

theorem failed_sight (h : Alike likeness a b) : b.sight.failed = a.sight.failed := by
  rw [Sight.failed, Sight.failed, h.fault_sight, h.hasFrame_sight]

theorem completed (h : Alike likeness a b) : b.completed = a.completed := by
  rw [Player.completed, Player.completed, h.fault_sight, h.deck_eq]

theorem reported (h : Alike likeness a b) : b.reported = a.reported := by
  have missing : b.frameMissing = a.frameMissing := by rw [← h.rest]
  simp only [Player.reported, Sight.reported, h.fault_sight, h.frame_sight, missing]

theorem nextCounters (h : Alike likeness a b) : b.nextCounters = a.nextCounters := by
  rw [Player.nextCounters, Player.nextCounters, h.deck_eq, h.completed, h.reported]

theorem nextCompositor (h : Alike likeness a b) : b.nextCompositor = a.nextCompositor := by
  have compositor : b.compositor = a.compositor := by rw [← h.rest]
  rw [Player.nextCompositor, Player.nextCompositor, h.frame_sight, compositor]

theorem outcome (h : Alike likeness a b) : b.outcome = a.outcome := by
  rw [Player.outcome, Player.outcome, h.nextCounters, h.completed, h.reported, h.deck_eq]

theorem windowShown (h : Alike likeness a b) (size : Nat) :
    Core.windowShown size b.sight.core = Core.windowShown size a.sight.core := by
  have read := likeness.registers_alike h.core_sight
  have base := likeness.windowBase_eq (likeness.window_alike size read)
  rw [Core.windowShown, Core.windowShown, Core.afterReading, Core.afterReading, base,
    likeness.window_eq size read]

variable [FaultSink δ]

theorem next (h : Alike likeness a b) (now : Float) :
    Alike likeness (a.next now) (b.next now) := by
  have found := h.core_sight
  have windowSize : b.windowSize = a.windowSize := by rw [← h.rest]
  have screen : b.screen = a.screen := by rw [← h.rest]
  have sink : b.sink = a.sink := by rw [← h.rest]
  refine ⟨?_, ?_⟩
  · simp only [Player.next, played, h.deck_eq, windowSize]
    cases a.deck.debug with
    | false => exact found
    | true => exact likeness.window_alike _ (likeness.registers_alike found)
  · simp only [Player.next, played, h.deck_eq, h.failed_sight, h.hasFrame_sight, h.completed,
      h.reported, h.nextCounters, h.nextCompositor, h.windowShown, likeness.registers_eq found,
      windowSize, screen, sink]

theorem act (h : Alike likeness a b) (action : Action) :
    Alike likeness (a.act action) (b.act action) := by
  cases action with
  | request r => exact h.request r
  | tick now =>
    rw [act_tick, act_tick]
    exact h.next now

/-- **Players that are alike stay so**, and nothing tells them apart on the way. -/
theorem after (h : Alike likeness a b) (actions : List Action) :
    Alike likeness (a.after actions) (b.after actions) ∧
      a.outcomes actions = b.outcomes actions := by
  induction actions generalizing a b with
  | nil => exact ⟨h, rfl⟩
  | cons action actions ih =>
    obtain ⟨rest, outcomes⟩ := ih (h.act action)
    refine ⟨rest, ?_⟩
    cases action with
    | request r => exact outcomes
    | tick now =>
      have first : (a.tick now).value.1 = (b.tick now).value.1 := by
        rw [value_tick, value_tick]
        exact h.outcome.symm
      exact List.cons_eq_cons.mpr ⟨first, outcomes⟩

end Alike

/-! ## Exchanging requests -/

/-- The player once it has carried out some requests. -/
def requested (player : Player γ δ) (requests : List Request) : Player γ δ :=
  requests.foldl (fun player r => (player.request r).value) player

/-- No request changes the key table, so none changes what another is about. -/
theorem keys_request (player : Player γ δ) (r : Request) :
    (player.request r).value.deck.keys = player.deck.keys := by
  rw [value_request]

variable {likeness : Core.Likeness γ}

theorem Alike.requested {a b : Player γ δ} (h : Alike likeness a b) (requests : List Request) :
    Alike likeness (a.requested requests) (b.requested requests) := by
  induction requests generalizing a b with
  | nil => exact h
  | cons r requests ih => exact ih (h.request r)

/-- **Exchange**: of two requests about different things either may come first. -/
theorem alike_swap (commute : likeness.WritesCommute) (player : Player γ δ) {first second : Request}
    (apart : first.topic player.deck.keys ≠ second.topic player.deck.keys) :
    Alike likeness (player.requested [first, second]) (player.requested [second, first]) := by
  have both (r other : Request) : player.requested [r, other] =
      { player with
        core := Core.written (Core.written player.core (r.write? player.deck.keys))
          (other.write? player.deck.keys)
        deck :=
          { player.deck with
            mode := other.mode (r.mode player.deck.mode)
            debug := other.debug (r.debug player.deck.debug)
            joypad := (player.deck.joypad.written (r.write? player.deck.keys)).written
              (other.write? player.deck.keys) } } := by
    simp only [requested, List.foldl_cons, List.foldl_nil, value_request]
  rw [both, both]
  refine ⟨?_, ?_⟩
  · dsimp only
    cases h : first.write? player.deck.keys with
    | none => exact likeness.equivalence.refl _
    | some write =>
      cases h' : second.write? player.deck.keys with
      | none => exact likeness.equivalence.refl _
      | some other => exact commute player.core write other (Request.buttons_apart apart h h')
  · simp only [Request.mode_comm apart, Request.debug_comm apart,
      player.deck.joypad.written_comm apart]

/-- A request may be moved to the front of requests about other things. -/
theorem alike_requested_middle (commute : likeness.WritesCommute) (player : Player γ δ)
    {r : Request} {early : List Request}
    (apart : ∀ other ∈ early, other.topic player.deck.keys ≠ r.topic player.deck.keys)
    (late : List Request) :
    Alike likeness (player.requested (early ++ r :: late))
      (player.requested (r :: (early ++ late))) := by
  induction early generalizing player with
  | nil => exact .refl _
  | cons other early ih =>
    have rest := ih (player.request other).value fun next member =>
      player.keys_request other ▸ apart next (List.mem_cons_of_mem _ member)
    have swap := alike_swap commute player (apart other List.mem_cons_self)
    exact rest.trans (swap.requested (early ++ late))

/-- A request about nothing does nothing. -/
theorem request_of_nothing (player : Player γ δ) {r : Request}
    (h : r.topic player.deck.keys = .nothing) : (player.request r).value = player := by
  have playback : r.topic player.deck.keys ≠ .playback := by rw [h]; decide
  have debugging : r.topic player.deck.keys ≠ .debugging := by rw [h]; decide
  rw [value_request, Request.write?_of_nothing h, Request.mode_of_topic playback,
    Request.debug_of_topic debugging]
  rfl

theorem requested_filter (player : Player γ δ) (requests : List Request) :
    player.requested (requests.filter fun r => r.topic player.deck.keys ≠ .nothing) =
      player.requested requests := by
  induction requests generalizing player with
  | nil => rfl
  | cons r requests ih =>
    have rest := ih (player.request r).value
    rw [keys_request] at rest
    by_cases idle : r.topic player.deck.keys = .nothing
    · rw [List.filter_cons_of_neg (by simp [idle])]
      rw [player.request_of_nothing idle] at rest
      rw [rest]
      exact congrArg (fun q : Player γ δ => q.requested requests)
        (player.request_of_nothing idle).symm
    · rw [List.filter_cons_of_pos (by simp [idle])]
      exact rest

/-- Runs of requests that hold, about each topic, the same requests in the same
order leave players that are alike. -/
theorem alike_of_filter_eq (commute : likeness.WritesCommute) (player : Player γ δ)
    {requests others : List Request}
    (same : ∀ topic, requests.filter (fun r => r.topic player.deck.keys = topic) =
      others.filter fun r => r.topic player.deck.keys = topic) :
    Alike likeness (player.requested requests) (player.requested others) := by
  induction requests generalizing player others with
  | nil =>
    cases others with
    | nil => exact .refl _
    | cons r others =>
      have none_left := same (r.topic player.deck.keys)
      rw [List.filter_cons_of_pos (by simp)] at none_left
      cases none_left
  | cons r requests ih =>
    -- The first request about this topic in the other run is the same one.
    have here := same (r.topic player.deck.keys)
    rw [List.filter_cons_of_pos (by simp)] at here
    obtain ⟨early, late, rfl, apart, -, rest_here⟩ := List.filter_eq_cons_iff.mp here.symm
    simp only [decide_eq_true_eq] at apart
    have rest : Alike likeness ((player.request r).value.requested requests)
        ((player.request r).value.requested (early ++ late)) := by
      refine ih _ fun topic => ?_
      rw [keys_request, List.filter_append]
      by_cases this_topic : r.topic player.deck.keys = topic
      · subst this_topic
        have none_early : early.filter
            (fun other => other.topic player.deck.keys = r.topic player.deck.keys) = [] :=
          List.filter_eq_nil_iff.mpr fun other member => by simp [apart other member]
        rw [none_early, List.nil_append, rest_here]
      · have there := same topic
        rw [List.filter_cons_of_neg (by simp [this_topic]), List.filter_append,
          List.filter_cons_of_neg (by simp [this_topic])] at there
        exact there
    exact rest.trans (alike_requested_middle commute player apart late).symm

end Player

/-- Two runs of requests that say the same about everything: about each topic
they hold the same requests in the same order.  Requests about nothing may be
anywhere. -/
def Request.SameStreams (keys : KeyTable) (requests others : List Request) : Prop :=
  ∀ topic, topic ≠ .nothing →
    requests.filter (fun r => r.topic keys = topic) = others.filter fun r => r.topic keys = topic

namespace Player

variable {γ δ : Type} [Core γ] {likeness : Core.Likeness γ}

theorem alike_requested (commute : likeness.WritesCommute) (player : Player γ δ)
    {requests others : List Request}
    (same : Request.SameStreams player.deck.keys requests others) :
    Alike likeness (player.requested requests) (player.requested others) := by
  rw [← player.requested_filter requests, ← player.requested_filter others]
  refine alike_of_filter_eq commute player fun topic => ?_
  rw [List.filter_filter, List.filter_filter]
  by_cases idle : topic = .nothing
  · subst idle
    have none_left (rs : List Request) : rs.filter (fun r =>
        decide (r.topic player.deck.keys = .nothing) &&
          decide (r.topic player.deck.keys ≠ .nothing)) = [] :=
      List.filter_eq_nil_iff.mpr (by simp)
    rw [none_left, none_left]
  · have about (r : Request) : (decide (r.topic player.deck.keys = topic) &&
        decide (r.topic player.deck.keys ≠ .nothing)) =
          decide (r.topic player.deck.keys = topic) := by
      by_cases h : r.topic player.deck.keys = topic <;> simp [h, idle]
    simp only [about]
    exact same topic idle

variable [FaultSink δ]

/-- **Streams of requests are independent.**  Take any player over a pattern core
and two runs of requests that hold the same requests in the same order about
playback, about the debug switch, and about each button, in whatever
interleaving, with keys that no button is bound to in between.  Either leaves the
same player, so every continuation gives the same outcomes and the same players.
Over a recorder core all that can differ is the log of the core, and there only
the order of writes to different buttons. -/
theorem streams_are_independent :
    (∀ (player : Player PatternCore δ) (requests others : List Request),
      Request.SameStreams player.deck.keys requests others →
        let one := player.requested requests
        let other := player.requested others
        one = other ∧ ∀ more : List Action,
          one.outcomes more = other.outcomes more ∧ one.after more = other.after more) ∧
      ∀ (player : Player RecorderCore δ) (requests others : List Request),
        Request.SameStreams player.deck.keys requests others →
          ∀ more : List Action,
            let one := (player.requested requests).after more
            let other := (player.requested others).after more
            (player.requested requests).outcomes more =
                (player.requested others).outcomes more ∧
              { one with core := other.core } = other ∧
                { one.core with writes := other.core.writes } = other.core ∧
                  ∀ button, one.core.writes.filter (fun write => write.button = button) =
                    other.core.writes.filter fun write => write.button = button := by
  constructor
  · intro player requests others same one other
    have alike : Alike PatternCore.likeness one other :=
      alike_requested PatternCore.writesCommute player same
    have equal : one = other := by
      have core : one.core = other.core := alike.core
      rw [← alike.rest, ← core]
    exact ⟨equal, fun more => by rw [equal]; exact ⟨rfl, rfl⟩⟩
  · intro player requests others same more one other
    obtain ⟨alike, outcomes⟩ :=
      (alike_requested RecorderCore.writesCommute player same).after more
    have core : one.core.Reordered other.core := alike.core
    exact ⟨outcomes, alike.rest, core.rest, core.log⟩

/-- Three streams and an unbound key in two interleavings: the same players, but
for the order of the two presses in the log of the recorder core. -/
theorem streams_are_independent_in_two_orders :
    let one : List Request :=
      [.stepFrame, .button .a true, .key 13 true, .toggleDebug, .key 38 true, .togglePause]
    let other : List Request :=
      [.key 38 true, .toggleDebug, .stepFrame, .togglePause, .button .a true]
    let pattern := start (PatternCore.boot (Array.replicate 0x150 0)) {} ({} : Ledger) {}
    let recorder := start (RecorderCore.ofGeometry ⟨2, 1⟩) {} ({} : Ledger) {}
    Request.SameStreams .standard one other ∧ pattern.requested one = pattern.requested other ∧
      ((recorder.requested one).core.writes = [⟨.a, true⟩, ⟨.up, true⟩] ∧
          (recorder.requested other).core.writes = [⟨.up, true⟩, ⟨.a, true⟩]) ∧
        ∀ more, (recorder.requested one).outcomes more = (recorder.requested other).outcomes more := by
  intro one other pattern recorder
  have same : Request.SameStreams .standard one other := by
    intro topic about
    cases topic with
    | nothing => exact absurd rfl about
    | playback | debugging => rfl
    | button which => cases which <;> rfl
  obtain ⟨overPattern, overRecorder⟩ := streams_are_independent (δ := Ledger)
  exact ⟨same, (overPattern pattern one other same).1, ⟨rfl, rfl⟩, fun more =>
    (overRecorder recorder one other same more).1⟩

end Player

end HandheldHost
