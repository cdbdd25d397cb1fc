import HandheldHost.Proofs.Core.Latch
import HandheldHost.Proofs.Text.Blank
import HandheldHost.Viewer

/-!
# Buttons by name

A name that somebody types means a button if it is the name of the button but for white
space around it and the case of its letters.  Infinitely many texts mean a button, but no
text means two.

* `Button.Means` -- which names mean a button.
* `Button.ofName?_eq_some_iff` -- they are the names that are found.
* `Viewer.setButton_eq`, `Viewer.setButton_eq_of_unknown` -- what a name does to a live
  viewer, the log included.
* `Viewer.setButton_reaches_named_button` -- from the text to the core.
-/

namespace HandheldHost

namespace Button

/-! ## Names -/

/-- The typed text is the name of the button, with white space around it and with letters
of either case. -/
def Means (typed : String) (button : Button) : Prop :=
  ∃ left word right, typed.toList = left ++ word ++ right ∧
    (∀ c ∈ left ++ right, Text.isBlank c) ∧ List.Forall₂ Text.SameLetter button.name.toList word

/-- Names are words in letters. -/
theorem isAlpha_of_mem_name (button : Button) : ∀ c ∈ button.name.toList, c.isAlpha := by
  have letters : button.name.toList.all Char.isAlpha := by cases button <;> decide
  exact List.all_eq_true.mp letters

/-- Different buttons have names that differ in more than case. -/
theorem eq_of_sameLetters_name {button other : Button}
    (same : button.name.toList.map Char.toLower = other.name.toList.map Char.toLower) :
    button = other := by
  revert same
  cases button <;> cases other <;> decide

section

variable {typed : String} {button other : Button}

theorem sameLetters_iff_means :
    Text.sameLetters button.name.toList (Text.trim typed.toList) ↔ Means typed button := by
  rw [Text.sameLetters_iff]
  constructor
  · intro same
    obtain ⟨-, left, right, split, blank⟩ := Text.trim_eq_iff.mp (Eq.refl (Text.trim typed.toList))
    exact ⟨left, _, right, split, blank, same⟩
  · rintro ⟨left, word, right, split, blank, same⟩
    have letters := Text.forall_isAlpha_of_sameLetter same button.isAlpha_of_mem_name
    rwa [Text.trim_eq_iff.mpr ⟨Text.trimmed_of_isAlpha letters, left, right, split, blank⟩]

theorem means_of_ofName? (found : ofName? typed = some button) : Means typed button := by
  rw [ofName?] at found
  have same := List.find?_some found
  exact sameLetters_iff_means.mp same

/-- No text means two buttons. -/
theorem Means.unique (means : Means typed button) (also : Means typed other) : other = button := by
  have same := sameLetters_iff_means.mpr means
  have also_same := sameLetters_iff_means.mpr also
  rw [Text.sameLetters, beq_iff_eq] at same also_same
  exact eq_of_sameLetters_name (also_same.trans same.symm)

theorem ofName?_eq_some_iff : ofName? typed = some button ↔ Means typed button := by
  refine ⟨means_of_ofName?, fun means => ?_⟩
  cases found : ofName? typed with
  | none =>
    have unlike := List.find?_eq_none.mp found button button.mem_all
    exact absurd (sameLetters_iff_means.mpr means) unlike
  | some other => rw [means.unique (means_of_ofName? found)]

theorem ofName?_eq_none (unknown : ¬∃ button, Means typed button) : ofName? typed = none :=
  Option.eq_none_iff_forall_ne_some.mpr fun button found =>
    unknown ⟨button, means_of_ofName? found⟩

/-- What is left of a name without the white space around it are letters. -/
theorem Means.isAlpha (means : Means typed button) : ∀ c ∈ Text.trim typed.toList, c.isAlpha :=
  Text.forall_isAlpha_of_sameLetter (Text.sameLetters_iff.mp (sameLetters_iff_means.mpr means))
    button.isAlpha_of_mem_name

end

end Button

/-! ## Writes -/

/-- Of a player one button has been pressed or released, on the deck and with one write to
the core, and nothing else has happened. -/
structure Player.WroteOnly {γ δ : Type} [Core γ] (write : ButtonWrite) (before after : Player γ δ) :
    Prop where
  joypad : ∀ other, after.deck.joypad.isHeld other =
    if other = write.button then write.pressed else before.deck.joypad.isHeld other
  core : after.core = Core.setButton write before.core
  rest : after =
    { before with core := after.core, deck := { before.deck with joypad := after.deck.joypad } }

namespace Viewer

variable {γ δ : Type} [Core γ] {viewer : Viewer γ δ} {name : String}

/-- A name that means no button does nothing, not even to a session that is over. -/
theorem setButton_eq_of_unknown (unknown : ¬∃ button, Button.Means name button) (pressed : Bool) :
    viewer.setButton name pressed = pure (.ok false, viewer) := by
  rw [setButton, Button.ofName?_eq_none unknown]

/-- A name that means a button is one request to the player. -/
theorem setButton_eq {player : Player γ δ} (live : viewer.session.player = some player)
    {button : Button} (means : Button.Means name button) (pressed : Bool) :
    ∃ after, viewer.setButton name pressed =
        ⟨(.ok true, ⟨{ viewer.session with player := some after }⟩),
          [.buttonForwarded ⟨button, pressed⟩]⟩ ∧
      player.WroteOnly ⟨button, pressed⟩ after := by
  refine ⟨(player.request (.button button pressed)).value, ?_, ?_⟩
  · rw [setButton, Button.ofName?_eq_some_iff.mpr means]
    simp only [request, Session.request, Session.withPlayer, live]
    rfl
  · exact ⟨player.deck.joypad.isHeld_set button pressed, rfl, rfl⟩

/-- **A name reaches the button that it names and nothing else.**  A text names a button
if it is the name of the button with white space around it and letters of either case; that
is the button found for it, there is never a second one, and between the white space there
are ASCII letters only.  Pressing or releasing by name says `true` on a live viewer just
for the names of buttons.  In that case the session has a player of which that button has
changed, on the deck and with one write to the core, and nothing else; the log has this
write.  Otherwise the viewer is as it was and nothing is logged.  And of a pattern core or
a recorder core, a write changes that one button, and the log of writes that the recorder
core keeps. -/
theorem setButton_reaches_named_button (name : String) (pressed : Bool) :
    (∀ button, Button.ofName? name = some button ↔ Button.Means name button) ∧
      (∀ button other, Button.Means name button → Button.Means name other → other = button) ∧
      (∀ button, Button.Means name button →
        ∀ c ∈ Text.trim name.toList, c.isAlpha ∧ Text.isBlank c = false) ∧
      (∀ (viewer : Viewer γ δ) (player : Player γ δ), viewer.session.player = some player →
        ((viewer.setButton name pressed).value.1 = .ok true ↔ ∃ button, Button.Means name button) ∧
        ((¬∃ button, Button.Means name button) →
          viewer.setButton name pressed = pure (.ok false, viewer)) ∧
        ∀ button, Button.Means name button → ∃ after,
          viewer.setButton name pressed =
            ⟨(.ok true, ⟨{ viewer.session with player := some after }⟩),
              [.buttonForwarded ⟨button, pressed⟩]⟩ ∧
          player.WroteOnly ⟨button, pressed⟩ after) ∧
      (∀ (core : PatternCore) (write : ButtonWrite),
        let after := Core.setButton write core
        (∀ other, after.isHeld other =
          if other = write.button then write.pressed else core.isHeld other) ∧
        after = { core with held := after.held }) ∧
      ∀ (core : RecorderCore) (write : ButtonWrite),
        let after := Core.setButton write core
        (∀ other, after.isHeld other =
          if other = write.button then write.pressed else core.isHeld other) ∧
        after = { core with held := after.held, writes := core.writes ++ [write] } := by
  refine ⟨fun _ => Button.ofName?_eq_some_iff, fun _ _ means => means.unique, ?_, ?_, ?_, ?_⟩
  · intro button means c hc
    have letter := means.isAlpha c hc
    exact ⟨letter, Text.isBlank_eq_false_of_isAlpha letter⟩
  · intro viewer player live
    refine ⟨⟨fun heeded => ?_, ?_⟩, fun unknown => setButton_eq_of_unknown unknown pressed,
      fun button means => setButton_eq live means pressed⟩
    · by_contra unknown
      rw [setButton_eq_of_unknown unknown] at heeded
      cases heeded
    · rintro ⟨button, means⟩
      obtain ⟨after, done, -⟩ := setButton_eq live means pressed
      rw [done]
  · intro core write after
    exact ⟨PatternCore.flags.flags_setButton rfl write core, rfl⟩
  · intro core write after
    exact ⟨RecorderCore.flags.flags_setButton rfl write core, rfl⟩

/-- White space around a name and capitals in it do not matter; white space inside does. -/
theorem setButton_reaches_start_but_not_st_art :
    let player : Player PatternCore Ledger :=
      .start (PatternCore.boot (Array.replicate 0x150 0)) {} {} {}
    let viewer : Viewer PatternCore Ledger := ⟨⟨some player, 0⟩⟩
    (∃ after, viewer.setButton " StArT\n" true =
        ⟨(.ok true, ⟨⟨some after, 0⟩⟩), [.buttonForwarded ⟨.start, true⟩]⟩ ∧
      player.WroteOnly ⟨.start, true⟩ after ∧ after.deck.joypad.isHeld .start = true ∧
      after.core.isHeld .start = true ∧ after.core.isHeld .down = player.core.isHeld .down) ∧
    viewer.setButton "st art" true = pure (.ok false, viewer) := by
  intro player viewer
  obtain ⟨named, -, -, reached, held, -⟩ :=
    @setButton_reaches_named_button PatternCore Ledger _ " StArT\n" true
  obtain ⟨no_name, -, -, ignored, -, -⟩ :=
    @setButton_reaches_named_button PatternCore Ledger _ "st art" true
  have means : Button.Means " StArT\n" .start := (named .start).mp (by decide)
  have unknown : ¬∃ button, Button.Means "st art" button := by
    rintro ⟨button, means⟩
    have none_found : Button.ofName? "st art" = none := by decide
    exact absurd ((no_name button).mpr means) (by rw [none_found]; exact nofun)
  obtain ⟨after, done, wrote⟩ := (reached viewer player rfl).2.2 .start means
  refine ⟨⟨after, done, wrote, wrote.joypad .start, ?_, ?_⟩,
    (ignored viewer player rfl).2.1 unknown⟩
  · rw [wrote.core]
    exact (held player.core _).1 .start
  · rw [wrote.core]
    exact (held player.core _).1 .down

end Viewer

end HandheldHost
