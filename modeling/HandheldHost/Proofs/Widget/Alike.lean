import HandheldHost.Proofs.Widget.Evaluation

/-!
# Computations that do not read the transcript

No computation of a widget looks at the transcript of its page.  So two runs
from widgets that differ there only, on pages that do the same but for lines in
the transcript, give the same and leave such widgets again.

Some calls are made with the guard up, and there a page need do the same only
when the guard is up.

* `PageCall.held` -- the calls that are made with the guard up.
* `Widget.Annotated` -- a widget and the same widget with further lines in its
  transcript; `WidgetM.Alike` -- two computations that keep to this relation,
  wherever they start or with the guard up only.
* `WidgetM.Alike.guarded` -- the guard is up in the body of an exported call.
* `WidgetM.alike_step` -- a step is alike on any two pages that are alike; one
  lemma for each computation of a widget leads there.
-/

namespace HandheldHost

/-- The calls that a widget makes with its guard up: it reports the faults of a
tick, makes an image and draws it, and reports that a session was started. -/
def PageCall.held : PageCall → Bool
  | .error (.faulted ..) | .image .. | .put .. | .log (.sessionStarted _) => true
  | _ => false

/-- A line that an exported call does not write when it is refused: such a call
at most asks a canvas for its context, and its answer is an error. -/
def PageLine.isOwn : PageLine → Bool
  | .call (.context _) | .interrupted (.thrown _) => false
  | _ => true

namespace Widget

/-- The widget with another transcript. -/
def withTranscript (w : Widget) (lines : Array PageLine) : Widget :=
  { w with page := { w.page with transcript := lines } }

/-- The second widget is the first, but for further lines in the transcript,
all of them such as refused calls write. -/
def Annotated (w v : Widget) : Prop :=
  ∃ lines : Array PageLine, v = w.withTranscript lines ∧
    w.page.transcript.toList.Sublist lines.toList ∧
    lines.toList.filter PageLine.isOwn = w.page.transcript.toList.filter PageLine.isOwn

/-- The change neither reads nor writes the transcript, and leaves the guard
alone. -/
def Blind (f : Widget → Widget) : Prop :=
  ∀ w lines, f (w.withTranscript lines) = (f w).withTranscript lines ∧
    (f w).page.transcript = w.page.transcript ∧ (f w).busy = w.busy

theorem Annotated.refl (w : Widget) : Annotated w w :=
  ⟨w.page.transcript, rfl, List.Sublist.refl _, rfl⟩

theorem Annotated.trans {w v u : Widget} (h : Annotated w v) (h' : Annotated v u) :
    Annotated w u := by
  obtain ⟨lines, rfl, sub, own⟩ := h
  obtain ⟨more, rfl, sub', own'⟩ := h'
  exact ⟨more, rfl, sub.trans sub', own'.trans own⟩

theorem Annotated.busy_eq {w v : Widget} (h : Annotated w v) : v.busy = w.busy := by
  obtain ⟨lines, rfl, -, -⟩ := h
  rfl

theorem annotated_writeAll (w : Widget) {lines : List PageLine}
    (others : lines.filter PageLine.isOwn = []) :
    Annotated w { w with page := w.page.writeAll lines } := by
  refine ⟨w.page.transcript ++ lines.toArray, rfl, ?_, ?_⟩ <;> rw [Array.toList_append]
  · exact List.sublist_append_left _ _
  · rw [List.filter_append, others, List.append_nil]

theorem annotated_write (w : Widget) {line : PageLine} (other : line.isOwn = false) :
    Annotated w (WidgetM.eval (WidgetM.write line) w).2 := by
  have others : [line].filter PageLine.isOwn = [] := by simp [other]
  have written := annotated_writeAll w others
  rw [← Page.write_eq_writeAll] at written
  exact written

end Widget

namespace WidgetM

open Widget

variable {α β : Type}

/-! ## Computations that do not read the transcript -/

/-- On widgets that differ in their transcripts only, the two computations give
the same and leave such widgets again.  The guard is as it was.  If `up` is set,
that is so when they start with the guard up. -/
def Alike (up : Bool) (x y : WidgetM α) : Prop :=
  ∀ ⦃w v⦄, (up = true → w.busy = true) → Annotated w v →
    (eval y v).1 = (eval x w).1 ∧ Annotated (eval x w).2 (eval y v).2 ∧
      (eval x w).2.busy = w.busy

namespace Alike

variable {up : Bool}

theorem mono {less : Bool} {x y : WidgetM α} (h : Alike less x y)
    (implied : less = true → up = true) : Alike up x y :=
  fun _ _ guard annotated => h (fun set => guard (implied set)) annotated

theorem pure (a : α) : Alike up (Pure.pure a : WidgetM α) (Pure.pure a) :=
  fun _ _ _ annotated => ⟨rfl, annotated, rfl⟩

theorem bind {x y : WidgetM α} {f g : α → WidgetM β} (h : Alike up x y)
    (h' : ∀ a, Alike up (f a) (g a)) : Alike up (x >>= f) (y >>= g) := by
  intro w v guard annotated
  obtain ⟨same, annotated, busy⟩ := h guard annotated
  obtain ⟨same', annotated', busy'⟩ :=
    h' (eval x w).1 (fun set => busy.trans (guard set)) annotated
  simp only [eval_bind, same]
  exact ⟨same', annotated', busy'.trans busy⟩

/-- What is read off the widget must not hang on its transcript. -/
theorem get {f g : Widget → WidgetM α}
    (h : ∀ w lines, Alike up (f w) (g (w.withTranscript lines))) :
    Alike up (MonadState.get >>= f) (MonadState.get >>= g) := by
  rintro w _ guard ⟨lines, rfl, sub, own⟩
  exact h w lines guard ⟨lines, rfl, sub, own⟩

theorem lift (x : Logged α) : Alike up (liftM x) (liftM x) :=
  fun _ _ _ annotated => ⟨rfl, annotated, rfl⟩

theorem change {f : Widget → Widget} (blind : Blind f) :
    Alike up (modify f : WidgetM Unit) (modify f) := by
  rintro w _ - ⟨lines, rfl, sub, own⟩
  obtain ⟨commutes, transcript, busy⟩ := blind w lines
  refine ⟨rfl, ⟨lines, commutes, ?_, ?_⟩, busy⟩ <;> rw [eval_modify, transcript]
  · exact sub
  · exact own

theorem change_bind {f : Widget → Widget} {x y : WidgetM α} (blind : Blind f)
    (h : Alike up x y) : Alike up (do modify f; x) (do modify f; y) :=
  (change blind).bind fun _ => h

/-- The body of an exported call runs with the guard up. -/
theorem guarded {x y : WidgetM (Except Thrown α)} (h : Alike true x y) :
    Alike up (guarded x) (guarded y) := by
  rintro w _ - ⟨lines, rfl, sub, own⟩
  cases guard : w.busy with
  | true =>
    rw [eval_guarded_of_busy guard, eval_guarded_of_busy (w := w.withTranscript lines) guard]
    exact ⟨rfl, ⟨lines, rfl, sub, own⟩, guard⟩
  | false =>
    -- The bodies run with the flag up; taking it down again touches nothing else.
    rw [eval_guarded_of_idle guard, eval_guarded_of_idle (w := w.withTranscript lines) guard]
    have raised : Annotated { w with busy := true } { w.withTranscript lines with busy := true } :=
      ⟨lines, rfl, sub, own⟩
    obtain ⟨same, ⟨more, left, sub', own'⟩, -⟩ := h (fun _ => rfl) raised
    refine ⟨same, ⟨more, ?_, sub', own'⟩, rfl⟩
    rw [left]
    rfl

end Alike

/-! ## The computations of a widget -/

variable {up : Bool}

theorem alike_write (line : PageLine) : Alike up (write line) (write line) := by
  rintro w _ - ⟨lines, rfl, sub, own⟩
  refine ⟨rfl, ⟨lines.push line, rfl, ?_, ?_⟩, rfl⟩
  · show (w.page.transcript.push line).toList.Sublist _
    rw [Array.toList_push, Array.toList_push]
    exact sub.append (List.Sublist.refl _)
  · show _ = (w.page.transcript.push line).toList.filter _
    rw [Array.toList_push, Array.toList_push, List.filter_append, List.filter_append, own]

theorem alike_adopt (callback : Callback) : Alike up (adopt callback) (adopt callback) :=
  .change fun _ _ => ⟨rfl, rfl, rfl⟩

theorem alike_abandon (callback : Callback) : Alike up (abandon callback) (abandon callback) :=
  .change fun _ _ => ⟨rfl, rfl, rfl⟩

section

variable {notify other : PageCall → WidgetM Unit} (alike : ∀ c, Alike c.held (notify c) (other c))
include alike

/-- A call may be made with the guard down unless it is one of those that are
made with the guard up. -/
theorem alike_call {c : PageCall} (guard : c.held = true → up = true := by nofun) :
    Alike up (call notify c) (call other c) :=
  (alike_write _).bind fun _ => (alike c).mono guard

theorem alike_attempt {c : PageCall} (effect : Page → Page)
    (blind : Blind fun w => { w with page := effect w.page })
    (guard : c.held = true → up = true := by nofun) :
    Alike up (attempt notify c effect) (attempt other c effect) := by
  have granted : Alike up (do onPage effect; return .ok () : WidgetM (Except Thrown Unit))
      (do onPage effect; return .ok ()) := (Alike.change blind).bind fun _ => .pure _
  refine (alike_call alike guard).bind fun _ => ?_
  cases c.fallible? with
  | none => exact granted
  | some name =>
    refine .get fun w lines => ?_
    dsimp only [withTranscript]
    split
    · exact .pure _
    · exact granted

theorem alike_requestFrame (callback : Callback) :
    Alike up (requestFrame notify callback) (requestFrame other callback) := by
  refine .get fun w lines => (alike_attempt alike _ fun _ _ => ⟨rfl, rfl, rfl⟩).bind fun r => ?_
  cases r <;> exact .pure _

theorem alike_releaseListeners (owner : Nat) (events : List KeyEvent) :
    Alike up (releaseListeners notify owner events) (releaseListeners other owner events) := by
  induction events with
  | nil => exact .pure _
  | cons event events ih =>
    refine (alike_attempt alike _ fun _ _ => ⟨rfl, rfl, rfl⟩).bind fun r => ?_
    cases r with
    | error e => exact (alike_call alike).bind fun _ => (alike_abandon _).bind fun _ => ih
    | ok _ => exact (alike_abandon _).bind fun _ => ih

theorem alike_releaseDisplay (display : Display) :
    Alike up (releaseDisplay notify display) (releaseDisplay other display) := by
  refine (alike_attempt alike _ fun _ _ => ⟨rfl, rfl, rfl⟩).bind fun r => ?_
  have rest : Alike up _ _ := (alike_releaseListeners alike display.owner display.events).bind
    fun _ => alike_abandon ⟨display.owner, none⟩
  cases r with
  | error e => exact (alike_call alike).bind fun _ => rest
  | ok _ => exact rest

theorem alike_unbind : Alike up (unbind notify) (unbind other) := by
  refine .get fun w lines => ?_
  dsimp only [withTranscript]
  cases w.display with
  | none => exact .pure _
  | some display =>
    exact .change_bind (fun _ _ => ⟨rfl, rfl, rfl⟩) (alike_releaseDisplay alike display)

theorem alike_announce (reports : List (Nat × Fault)) :
    Alike true (announce notify reports) (announce other reports) := by
  induction reports with
  | nil => exact .pure _
  | cons report reports ih => exact (alike_call alike fun _ => rfl).bind fun _ => ih

theorem alike_withSession
    (use : WidgetSession → Logged (Except SessionError α × WidgetSession)) :
    Alike up (withSession notify use) (withSession other use) := by
  refine Alike.guarded (.get fun w lines => ?_)
  dsimp only [withTranscript]
  cases w.session with
  | none => exact .pure _
  | some before =>
    refine (Alike.lift _).bind fun (result, after) => ?_
    exact .change_bind (fun _ _ => ⟨rfl, rfl, rfl⟩)
      ((alike_announce alike _).bind fun _ => .pure _)

theorem alike_init (rom : Bytes) (debug : Bool) :
    Alike up (init notify rom debug) (init other rom debug) := by
  refine Alike.guarded ((Alike.lift _).bind fun created => ?_)
  cases created with
  | error e => exact .pure _
  | ok session =>
    refine .get fun w lines => Alike.change_bind (fun _ _ => ⟨rfl, rfl, rfl⟩) ?_
    dsimp only [withTranscript]
    have announced := (alike_call alike (c := .log (.sessionStarted rom.size)) fun _ => rfl).bind
      fun _ => Alike.pure (Except.ok () : Except Thrown Unit)
    cases w.session with
    | none => exact announced
    | some previous => exact (Alike.lift _).bind fun _ => announced

theorem alike_drawFrame (now : Float) :
    Alike up (drawFrame notify now) (drawFrame other now) := by
  refine (alike_withSession alike _).bind fun r => ?_
  rcases r with e | _ | _
  · exact .pure _
  · exact .pure _
  · refine .get fun w lines => ?_
    dsimp only [withTranscript]
    cases w.display with
    | none => exact .pure _
    | some display =>
      refine Alike.guarded (.get fun w lines => ?_)
      dsimp only [withTranscript]
      cases w.session with
      | none => exact .pure _
      | some session =>
        dsimp only
        cases session.canvas with
        | error e => exact .pure _
        | ok screen =>
          -- Both calls are made with the guard up.
          refine (alike_attempt alike _ (fun _ _ => ⟨rfl, rfl, rfl⟩) fun _ => rfl).bind fun r => ?_
          cases r with
          | error e => exact .pure _
          | ok _ =>
            refine (alike_attempt alike _ (fun _ _ => ⟨rfl, rfl, rfl⟩) fun _ => rfl).bind
              fun r => ?_
            cases r <;> exact .pure _

theorem alike_callFrame (owner : Nat) (now : Float) :
    Alike up (callFrame notify owner now) (callFrame other owner now) := by
  refine (alike_drawFrame alike now).bind fun r => ?_
  rcases r with e | _ | _
  · exact alike_call alike
  · exact alike_call alike
  · refine .get fun w lines => ?_
    dsimp only [withTranscript]
    split
    · refine (alike_requestFrame alike _).bind fun r => ?_
      cases r with
      | error e => exact alike_call alike
      | ok id => exact Alike.change fun _ _ => ⟨rfl, rfl, rfl⟩
    · exact .pure _

theorem alike_callListener (event : KeyEvent) (code : UInt32) :
    Alike up (callListener notify event code) (callListener other event code) := by
  refine (alike_withSession alike _).bind fun r => ?_
  cases r with
  | error e => exact alike_call alike
  | ok _ => exact .pure _

theorem alike_listenTo (owner : Nat) (events : List KeyEvent) :
    Alike up (listenTo notify owner events) (listenTo other owner events) := by
  induction events with
  | nil => exact .pure _
  | cons event events ih =>
    refine (alike_adopt _).bind fun _ => ?_
    refine (alike_attempt alike _ fun _ _ => ⟨rfl, rfl, rfl⟩).bind fun r => ?_
    cases r with
    | error e => exact (alike_abandon _).bind fun _ => .pure _
    | ok _ =>
      refine ih.bind fun r => ?_
      cases r with
      | error e => exact (alike_abandon _).bind fun _ => .pure _
      | ok _ => exact .pure _

theorem alike_findCanvas (id : String) : Alike up (findCanvas notify id) (findCanvas other id) := by
  refine .get fun w lines => ?_
  dsimp only [withTranscript]
  split
  · exact .pure _
  · split
    · exact .pure _
    · dsimp only [Page.element?]
      rcases w.page.elements.lookup id with _ | context | _
      · exact .pure _
      · refine (alike_attempt alike _ fun _ _ => ⟨rfl, rfl, rfl⟩).bind fun r => ?_
        cases r with
        | error e => exact .pure _
        | ok _ => cases context <;> exact .pure _
      · exact .pure _

theorem alike_start (id : String) : Alike up (start notify id) (start other id) := by
  refine (alike_findCanvas alike id).bind fun r => ?_
  cases r with
  | error e => exact .pure _
  | ok _ =>
    refine (alike_withSession alike _).bind fun r => ?_
    cases r with
    | error e => exact .pure _
    | ok screen =>
      refine (alike_call alike).bind fun _ => (alike_call alike).bind fun _ =>
        (alike_unbind alike).bind fun _ => .get fun w lines => ?_
      dsimp only [withTranscript]
      refine Alike.change_bind (fun _ _ => ⟨rfl, rfl, rfl⟩) ?_
      refine (alike_listenTo alike _ _).bind fun r => ?_
      cases r with
      | error e => exact .pure _
      | ok _ =>
        refine (alike_adopt _).bind fun _ => (alike_requestFrame alike _).bind fun r => ?_
        cases r with
        | error e =>
          -- The two listeners and the frame are abandoned, in this order.
          exact (alike_abandon _).bind fun _ => (alike_abandon _).bind fun _ =>
            (alike_abandon _).bind fun _ => .pure _
        | ok handle =>
          exact (alike_unbind alike).bind fun _ => .change_bind (fun _ _ => ⟨rfl, rfl, rfl⟩)
            ((alike_call alike).bind fun _ => .pure _)

theorem alike_shutdown : Alike up (shutdown notify) (shutdown other) := by
  refine (alike_withSession alike _).bind fun r => ?_
  cases r with
  | error e => exact .pure _
  | ok released => exact (alike_unbind alike).bind fun _ => .pure _

theorem alike_runExport (e : Export) : Alike up (runExport notify e) (runExport other e) := by
  cases e with
  | init rom debug => exact (alike_init alike rom debug).bind fun _ => .pure _
  | start id => exact (alike_start alike id).bind fun _ => .pure _
  | shutdown => exact (alike_shutdown alike).bind fun _ => .pure _
  | _ => exact (alike_withSession alike _).bind fun _ => .pure _

omit alike in
theorem alike_callBack (callback : Callback) {x y : WidgetM Unit} (h : Alike up x y) :
    Alike up (callBack callback x) (callBack callback y) := by
  refine .get fun w lines => ?_
  dsimp only [withTranscript]
  split
  · exact h
  · exact alike_write _

theorem alike_callFrames (now : Float) (requests : List (Nat × Callback)) :
    Alike up (callFrames notify now requests) (callFrames other now requests) := by
  induction requests with
  | nil => exact .pure _
  | cons request requests ih =>
    exact (alike_callBack _ (alike_callFrame alike _ now)).bind fun _ => ih

theorem alike_callListeners (event : KeyEvent) (code : UInt32) (callbacks : List Callback) :
    Alike up (callListeners notify event code callbacks)
      (callListeners other event code callbacks) := by
  induction callbacks with
  | nil => exact .pure _
  | cons callback callbacks ih =>
    exact (alike_callBack _ (alike_callListener alike event code)).bind fun _ => ih

/-- **A step is alike on alike pages**: what a page does inside the calls of
the widget shows in the transcript alone if that is so for every call. -/
theorem alike_step (s : PageStep) : Alike up (step notify s) (step other s) := by
  cases s with
  | «export» e => exact alike_runExport alike e
  | frame now =>
    refine .get fun w lines => Alike.change_bind (fun _ _ => ⟨rfl, rfl, rfl⟩) ?_
    exact (alike_callFrames alike now _).bind fun _ => .pure _
  | key event code =>
    exact .get fun w lines => (alike_callListeners alike event code _).bind fun _ => .pure _
  | fail calls => exact Alike.change_bind (fun _ _ => ⟨rfl, rfl, rfl⟩) (.pure _)

end

theorem alike_quiet (c : PageCall) : Alike c.held (quiet c) (quiet c) := .pure _

/-- Takes steps on a page, one after the other. -/
def stepAll (notify : PageCall → WidgetM Unit) : List PageStep → WidgetM (List Answer)
  | [] => pure []
  | s :: steps => do
    let answer ← step notify s
    let answers ← stepAll notify steps
    pure (answer :: answers)

theorem alike_stepAll {notify other : PageCall → WidgetM Unit}
    (alike : ∀ c, Alike c.held (notify c) (other c)) (steps : List PageStep) :
    Alike up (stepAll notify steps) (stepAll other steps) := by
  induction steps with
  | nil => exact .pure _
  | cons s steps ih => exact (alike_step alike s).bind fun _ => ih.bind fun _ => .pure _

end WidgetM

end HandheldHost
