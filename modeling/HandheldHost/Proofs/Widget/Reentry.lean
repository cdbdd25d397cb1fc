import HandheldHost.Proofs.Core.Attempts
import HandheldHost.Proofs.Widget.Alike
import HandheldHost.Proofs.Widget.Turns

/-!
# Exported calls inside exported calls

A page may call back into its widget from inside a call that the widget
makes.  While the guard is up every exported call is refused, so what such
a page does shows in the transcript and nowhere else.

* `WidgetM.eval_runExport_of_busy` -- an exported call under the guard.
* `WidgetM.reentering` -- a page that calls back; `WidgetM.alike_reentering`.
* `WidgetM.runExport_ne_reentrant` -- an exported call that runs alone.
* `WidgetM.eval_frame_asking` -- a frame on a page that asks for a shutdown inside.
* `WidgetM.reentrant_calls_are_refused` -- a step with and without them.
-/

namespace HandheldHost

/-- Why an exported call fails while another one is running.  Starting a
display looks for its canvas first. -/
def Page.refusal (page : Page) : Export → Thrown
  | .start id => (page.obstacle? id).getD .reentrant
  | _ => .reentrant

theorem Page.filter_searchLines (page : Page) (id : String) :
    (page.searchLines id).filter PageLine.isOwn = [] := by
  unfold searchLines
  repeat' split
  all_goals rfl

theorem Page.obstacle?_ne_reentrant (page : Page) (id : String) :
    page.obstacle? id ≠ some .reentrant := by
  unfold obstacle?
  repeat' split
  all_goals simp

/-- A tick that advances a core at an undefined opcode reports that. -/
theorem Player.reported_of_halted {player : Player PatternCore Ledger} {stride : Stride}
    (moves : player.deck.mode.stride = some stride) {fault : Fault}
    (halted : player.core.faultHere = some fault) : player.reported = some fault := by
  have met : player.sight.fault = some fault := by
    rw [sight, moves]
    exact congrArg Prod.fst (PatternCore.value_advance_of_halted halted stride)
  rw [reported, Sight.reported, met]

namespace WidgetM

open Widget

variable {α β : Type}

/-! ## Exported calls under the guard -/

theorem eval_withSession_of_busy {w : Widget} (busy : w.busy = true)
    (use : WidgetSession → Logged (Except SessionError α × WidgetSession)) :
    eval (withSession quiet use) w = (.error .reentrant, w) :=
  eval_guarded_of_busy busy _

/-- On a quiet page an exported call under the guard fails, having at most
looked for a canvas. -/
theorem refused_of_busy (e : Export) {w : Widget} (busy : w.busy = true) :
    (eval (runExport quiet e) w).1 = .thrown (w.page.refusal e) ∧
      Annotated w (eval (runExport quiet e) w).2 := by
  cases e with
  | start id =>
    have searched : Annotated w { w with page := w.page.writeAll (w.page.searchLines id) } :=
      annotated_writeAll w (w.page.filter_searchLines id)
    simp only [runExport, start, eval_bind, eval_pure, eval_findCanvas, Page.refusal]
    cases w.page.obstacle? id with
    | some e => exact ⟨rfl, searched⟩
    | none =>
      have still : Widget.busy { w with page := w.page.writeAll (w.page.searchLines id) } = true :=
        busy
      simp only [readSession, eval_bind, eval_withSession_of_busy still]
      exact ⟨rfl, searched⟩
  | init rom debug =>
    simp only [runExport, init, eval_bind, eval_guarded_of_busy busy]
    exact ⟨rfl, .refl w⟩
  | shutdown =>
    simp only [runExport, shutdown, eval_bind, eval_withSession_of_busy busy]
    exact ⟨rfl, .refl w⟩
  | _ =>
    simp only [runExport, requestSession, readSession, eval_bind, eval_withSession_of_busy busy]
    exact ⟨rfl, .refl w⟩

/-- The same on any page that shows in the transcript alone. -/
theorem eval_runExport_of_busy {notify : PageCall → WidgetM Unit}
    (alike : ∀ c, Alike c.held (quiet c) (notify c)) (e : Export) {w : Widget} (busy : w.busy = true) :
    (eval (runExport notify e) w).1 = .thrown (w.page.refusal e) ∧
      Annotated w (eval (runExport notify e) w).2 := by
  obtain ⟨refused, searched⟩ := refused_of_busy e busy
  have runs : Alike true _ _ := alike_runExport alike e
  obtain ⟨same, annotated, -⟩ := runs (fun _ => busy) (.refl w)
  exact ⟨same.trans refused, searched.trans annotated⟩

/-! ## Pages that call back -/

/-- Makes exported calls, one after the other. -/
def exportAll (notify : PageCall → WidgetM Unit) : List Export → WidgetM Unit
  | [] => pure ()
  | e :: exports => do
    let answer ← runExport notify e
    write (.interrupted answer)
    exportAll notify exports

/-- A page that makes exported calls inside every call that the widget makes
with its guard up, or ought to.  Which ones may depend on everything there is.
Inside those calls it does so again, down to the given depth. -/
def reentering (choose : PageCall → Widget → List Export) : Nat → PageCall → WidgetM Unit
  | 0, _ => pure ()
  | depth + 1, c => do
    let w ← get
    if c.held || w.busy then exportAll (reentering choose depth) (choose c w) else pure ()

theorem annotated_exportAll {notify : PageCall → WidgetM Unit}
    (alike : ∀ c, Alike c.held (quiet c) (notify c)) (exports : List Export) {w : Widget}
    (busy : w.busy = true) : Annotated w (eval (exportAll notify exports) w).2 := by
  induction exports generalizing w with
  | nil => exact .refl w
  | cons e exports ih =>
    obtain ⟨refused, annotated⟩ := eval_runExport_of_busy alike e busy
    have other : (PageLine.interrupted (eval (runExport notify e) w).1).isOwn = false := by
      rw [refused]
      rfl
    have written := annotated.trans (annotated_write _ other)
    exact written.trans (ih (written.busy_eq.trans busy))

/-- A page that calls back under the guard only is alike to a quiet one, if the
guard is up wherever it ought to be. -/
theorem alike_reentering (choose : PageCall → Widget → List Export) (depth : Nat) (c : PageCall) :
    Alike c.held (quiet c) (reentering choose depth c) := by
  -- The calls inside are made on a page of less depth, so the induction is on the depth.
  induction depth generalizing c with
  | zero => exact .pure _
  | succ depth ih =>
    intro w v guard annotated
    refine ⟨rfl, ?_, rfl⟩
    rw [reentering, eval_bind, eval_get]
    by_cases calls : (c.held || v.busy) = true
    · rw [if_pos calls]
      have busy : v.busy = true := by
        obtain held | busy := Bool.or_eq_true_iff.mp calls
        · exact annotated.busy_eq.trans (guard held)
        · exact busy
      exact annotated.trans (annotated_exportAll ih _ busy)
    · rw [if_neg calls]
      exact annotated

/-! ## Exported calls by themselves -/

/-- With the guard down, the computation is not refused as another one would
be. -/
def Admitted (x : WidgetM (Except Thrown α)) : Prop :=
  ∀ w, w.busy = false → (eval x w).1 ≠ .error .reentrant

namespace Admitted

theorem pure {r : Except Thrown α} (h : r ≠ .error .reentrant) :
    Admitted (Pure.pure r) := fun _ _ => h

theorem after {x : WidgetM β} {f : β → WidgetM (Except Thrown α)} (keeps : Alike false x x)
    (h : ∀ b, Admitted (f b)) : Admitted (x >>= f) := by
  intro w idle
  obtain ⟨-, -, busy⟩ := keeps nofun (.refl w)
  exact h _ _ (busy.trans idle)

theorem bind {x : WidgetM (Except Thrown β)} {f : Except Thrown β → WidgetM (Except Thrown α)}
    (keeps : Alike false x x) (h : Admitted x) (h' : ∀ r, r ≠ .error .reentrant → Admitted (f r)) :
    Admitted (x >>= f) := by
  intro w idle
  obtain ⟨-, -, busy⟩ := keeps nofun (.refl w)
  exact h' _ (h w idle) _ (busy.trans idle)

theorem get {f : Widget → WidgetM (Except Thrown α)} (h : ∀ w, Admitted (f w)) :
    Admitted (MonadState.get >>= f) := fun w idle => h w w idle

theorem change {f : Widget → Widget} {x : WidgetM (Except Thrown α)}
    (kept : ∀ w, (f w).busy = w.busy) (h : Admitted x) : Admitted (do modify f; x) :=
  fun w idle => h _ ((kept w).trans idle)

theorem guarded {x : WidgetM (Except Thrown α)} (h : ∀ w, (eval x w).1 ≠ .error .reentrant) :
    Admitted (guarded x) := by
  intro w idle
  rw [eval_guarded_of_idle idle]
  exact h _

end Admitted

theorem admitted_attempt (c : PageCall) (effect : Page → Page) :
    Admitted (attempt quiet c effect) := by
  intro w _
  by_cases refused : ∃ name, c.fallible? = some name ∧ name ∈ w.page.failing
  · obtain ⟨name, fallible, failing⟩ := refused
    rw [eval_attempt_of_refused fallible failing]
    simp
  · rw [eval_attempt_of_granted fun name fallible failing => refused ⟨name, fallible, failing⟩]
    simp

theorem admitted_withSession
    (use : WidgetSession → Logged (Except SessionError α × WidgetSession)) :
    Admitted (withSession quiet use) := by
  refine .guarded fun w => ?_
  rw [eval_bind, eval_get]
  cases w.session with
  | none => simp
  | some before =>
    rcases result : (use before).value with ⟨_ | _, after⟩ <;> simp [result]

theorem admitted_init (rom : Bytes) (debug : Bool) : Admitted (init quiet rom debug) := by
  refine .guarded fun w => ?_
  rw [eval_bind, eval_lift]
  cases (Viewer.create rom default { debug } :
      Logged (Except SessionError WidgetSession)).value with
  | error e => simp
  | ok session =>
    simp only [eval_bind, eval_get]
    cases w.session <;> simp

theorem admitted_requestFrame (callback : Callback) : Admitted (requestFrame quiet callback) := by
  refine .get fun w => (admitted_attempt _ _).bind
    (alike_attempt alike_quiet (·.enqueue callback) fun _ _ => ⟨rfl, rfl, rfl⟩) fun r regular => ?_
  cases r with
  | error e => exact .pure (by simpa using regular)
  | ok _ => exact .pure (by simp)

theorem admitted_listenTo (owner : Nat) (events : List KeyEvent) :
    Admitted (listenTo quiet owner events) := by
  induction events with
  | nil => exact .pure (by simp)
  | cons event events ih =>
    refine .change (fun _ => rfl) <| ?_
    refine (admitted_attempt _ _).bind
      (alike_attempt alike_quiet (·.attach ⟨owner, some event⟩) fun _ _ => ⟨rfl, rfl, rfl⟩)
      fun r regular => ?_
    cases r with
    | error e => exact .change (fun _ => rfl) <| .pure (by simpa using regular)
    | ok _ =>
      refine ih.bind (alike_listenTo alike_quiet owner events) fun r regular => ?_
      cases r with
      | error e => exact .change (fun _ => rfl) <| .pure (by simpa using regular)
      | ok _ => exact .pure (by simp)

theorem admitted_findCanvas (id : String) : Admitted (findCanvas quiet id) := by
  intro w _
  rw [eval_findCanvas]
  cases found : w.page.obstacle? id with
  | none => simp
  | some e =>
    have := w.page.obstacle?_ne_reentrant id
    simp_all

theorem admitted_start (id : String) : Admitted (start quiet id) := by
  refine (admitted_findCanvas id).bind (alike_findCanvas alike_quiet id) fun r regular => ?_
  cases r with
  | error e => exact .pure (by simpa using regular)
  | ok _ =>
    refine (admitted_withSession _).bind (alike_withSession alike_quiet _) fun r regular => ?_
    cases r with
    | error e => exact .pure (by simpa using regular)
    | ok screen =>
      refine .after (alike_call alike_quiet) fun _ => .after (alike_call alike_quiet) fun _ =>
        .after (alike_unbind alike_quiet) fun _ => .get fun w => .change (fun _ => rfl) <| ?_
      refine (admitted_listenTo _ _).bind (alike_listenTo alike_quiet _ _) fun r regular => ?_
      cases r with
      | error e => exact .pure (by simpa using regular)
      | ok _ =>
        refine .change (fun _ => rfl) <| ?_
        refine (admitted_requestFrame _).bind (alike_requestFrame alike_quiet _) fun r regular => ?_
        cases r with
        | error e =>
          exact .change (fun _ => rfl) <| .change (fun _ => rfl) <| .change (fun _ => rfl) <|
            .pure (by simpa using regular)
        | ok handle =>
          exact .after (alike_unbind alike_quiet) fun _ => .change (fun _ => rfl) <|
            .after (alike_call alike_quiet) fun _ => .pure (by simp)

theorem admitted_shutdown : Admitted (shutdown quiet) := by
  refine (admitted_withSession _).bind (alike_withSession alike_quiet _) fun r regular => ?_
  cases r with
  | error e => exact .pure (by simpa using regular)
  | ok released => exact .after (alike_unbind alike_quiet) fun _ => .pure (by simp)

/-- What is worded is not a refusal unless the result was one. -/
theorem answer_ne_reentrant {wrap : α → Value} {r : Except Thrown α} (h : r ≠ .error .reentrant) :
    answer wrap r ≠ .thrown .reentrant := by
  cases r with
  | error e => simpa [answer] using h
  | ok a => simp [answer]

/-- An exported call that runs alone is not refused as another one would be. -/
theorem runExport_ne_reentrant (e : Export) {w : Widget} (idle : w.busy = false) :
    (eval (runExport quiet e) w).1 ≠ .thrown .reentrant := by
  cases e with
  | init rom debug => exact answer_ne_reentrant (admitted_init rom debug w idle)
  | start id => exact answer_ne_reentrant (admitted_start id w idle)
  | shutdown => exact answer_ne_reentrant (admitted_shutdown w idle)
  | _ => exact answer_ne_reentrant (admitted_withSession _ w idle)

/-! ## A page that asks for a shutdown -/

/-- A page that asks for a shutdown inside every call made with the guard up. -/
def asking : PageCall → WidgetM Unit := reentering (fun _ _ => [.shutdown]) 1

/-- A line of a call, and the refusal inside it. -/
def asked (line : PageLine) : List PageLine := [line, .interrupted (.thrown .reentrant)]

theorem eval_call_asking {w : Widget} (busy : w.busy = true) (c : PageCall) :
    eval (call asking c) w = ((), { w with page := w.page.writeAll (asked (.call c)) }) := by
  have lines (transcript : Array PageLine) (a b : PageLine) :
      (transcript.push a).push b = transcript ++ #[a, b] := Array.ext' (by simp)
  simp [call, asking, reentering, exportAll, runExport, shutdown, withSession, write, busy, answer,
    eval_guarded_of_busy, Page.write, Page.writeAll, asked, lines]

theorem eval_call_asking_of_idle {c : PageCall} (free : c.held = false) {w : Widget}
    (idle : w.busy = false) :
    eval (call asking c) w = ((), { w with page := w.page.writeAll [.call c] }) := by
  simp [call, asking, reentering, write, free, idle, Page.write, Page.writeAll]

theorem eval_announce_asking (reports : List (Nat × Fault)) {w : Widget} (busy : w.busy = true) :
    eval (announce asking reports) w =
      ((), { w with page := w.page.writeAll ((reports.map reportLine).flatMap asked) }) := by
  induction reports generalizing w with
  | nil => simp [announce]
  | cons report reports ih =>
    obtain ⟨tick, fault⟩ := report
    rw [announce, eval_bind, eval_call_asking busy, ih (by exact busy), Page.writeAll_writeAll]
    rfl

theorem eval_attempt_asking {w : Widget} (busy : w.busy = true) (granting : w.page.failing = [])
    (c : PageCall) :
    eval (attempt asking c fun page => page) w =
      (.ok (), { w with page := w.page.writeAll (asked (.call c)) }) := by
  have still : (w.page.writeAll (asked (.call c))).failing = [] := granting
  rw [attempt, eval_bind, eval_call_asking busy]
  cases c.fallible? <;> simp [still]

theorem eval_drawFrame_asking {w : Widget} (granting : w.page.failing = []) (idle : w.busy = false)
    {d : Display} (shown : w.display = some d) {player : Player PatternCore Ledger}
    (live : w.session = some ⟨.live player⟩) (now : Float) :
    eval (drawFrame asking now) w =
      (.ok true,
        { w with
          session := some ⟨.live (player.act (.tick now))⟩
          page := w.page.writeAll
            ((pictureLines d.canvas player (player.act (.tick now))).flatMap asked) }) := by
  obtain ⟨page, session, display, busy, alive, nextOwner⟩ := w
  dsimp only at granting idle shown live
  subst idle shown live
  have canvas : Viewer.canvas (⟨.live (player.act (.tick now))⟩ : WidgetSession) =
      .ok (player.act (.tick now)).screen := rfl
  simp only [drawFrame, withSession, eval_bind, eval_guarded_of_idle, eval_get, eval_lift,
    value_onFrame_live, eval_modify]
  rw [eval_announce_asking _ (by rfl)]
  simp only [eval_pure, mapError_ok, eval_bind, eval_get]
  rw [eval_guarded_of_idle (by rfl)]
  simp only [eval_bind, eval_get, canvas]
  rw [eval_attempt_asking (by rfl) (by exact granting)]
  simp only [eval_bind]
  rw [eval_attempt_asking (by rfl) (by exact granting)]
  simp [Widget.pictureLines, asked]

/-- A frame of a display asks inside every report of a fault, and when its image
is made and when it is drawn.  It is the same frame all the same. -/
theorem eval_frame_asking {w : Widget} (settled : w.Settled) {d : Display}
    (shown : w.display = some d) {player : Player PatternCore Ledger}
    (live : w.session = some ⟨.live player⟩) (now : Float) :
    eval (step asking (.frame now)) w =
      (.fired 1,
        (w.drawn d player now).withTranscript (w.page.writeAll
          ((pictureLines d.canvas player (player.act (.tick now))).flatMap asked ++
            [.call (.request w.page.nextRequest)])).transcript) := by
  obtain ⟨⟨granting, -, pending, -, alive⟩, idle, -, -⟩ := settled
  rw [shown] at pending alive
  have standing : (⟨d.owner, none⟩ : Callback) ∈ w.alive := by
    rw [alive]
    exact List.mem_cons_self
  rw [step, eval_bind, eval_get, pending]
  simp only [Option.toList_some, List.map_cons, List.map_nil, eval_bind, eval_onPage, callFrames,
    callBack, eval_get, standing, if_true, callFrame, eval_pure]
  rw [eval_drawFrame_asking (by exact granting) (by exact idle) (by exact shown) (by exact live)]
  simp only [eval_bind, eval_get, standing, if_true, requestFrame, attempt]
  rw [eval_call_asking_of_idle rfl (by exact idle)]
  simp [granting, PageCall.fallible?, Widget.drawn, Widget.withTranscript, shown, Page.enqueue,
    Page.writeAll]

theorem eval_init_asking {w : Widget} (idle : w.busy = false) {rom : Bytes}
    (large : PatternCore.minimumRom ≤ rom.size) (debug : Bool) :
    eval (step asking (.export (.init rom debug))) w =
      (.returned .unit,
        (w.begun rom (.start (.boot rom) {} default { debug })).withTranscript (w.page.writeAll
          (asked (.call (.log (.sessionStarted rom.size))))).transcript) := by
  obtain ⟨page, session, display, busy, alive, nextOwner⟩ := w
  subst idle
  simp only [step, runExport, init, eval_bind, eval_guarded_of_idle, Viewer.create_of_large large,
    eval_lift]
  cases session <;> simp [eval_call_asking, Widget.begun, Widget.withTranscript, answer, Page.writeAll]

theorem eval_frame_then_init_asking {w : Widget} (settled : w.Settled) {d : Display}
    (shown : w.display = some d) {player : Player PatternCore Ledger}
    (live : w.session = some ⟨.live player⟩) (now : Float) {rom : Bytes}
    (large : PatternCore.minimumRom ≤ rom.size) (debug : Bool) :
    eval (stepAll asking [.frame now, .export (.init rom debug)]) w =
      ([.fired 1, .returned .unit],
        ((w.drawn d player now).begun rom (.start (.boot rom) {} default { debug })).withTranscript
          (w.page.writeAll
            ((pictureLines d.canvas player (player.act (.tick now))).flatMap asked ++
              [.call (.request w.page.nextRequest)] ++
              asked (.call (.log (.sessionStarted rom.size))))).transcript) := by
  have idle : ((w.drawn d player now).withTranscript (w.page.writeAll
      ((pictureLines d.canvas player (player.act (.tick now))).flatMap asked ++
        [.call (.request w.page.nextRequest)])).transcript).busy = false := settled.idle
  simp only [stepAll, eval_bind, eval_frame_asking settled shown live, eval_init_asking idle large,
    eval_pure]
  simp [Widget.begun, Widget.withTranscript, Page.writeAll]

/-! ## Steps with and without reentrant calls -/

/-- **Reentrant calls are refused without effect.**  Take a page that makes
exported calls of its own inside any call that the widget makes with its guard
up, and inside those calls again, as deep as one likes.  It does so whenever the
console is told of a fault of a tick or of a session that was started, and
whenever an image is made or drawn, without asking for the guard.

Every such call fails and leaves the widget as it was, but for lines in the
transcript.  Whatever steps are taken on such a page, they have the answers
that they have on a page that never calls back, and the widget they leave is
the same but for its transcript; and there the only further lines are the
refusals and what refused calls write.  And when the steps start with the guard
down, they leave it down: no exported call that follows is refused for want of
it. -/
theorem reentrant_calls_are_refused (choose : PageCall → Widget → List Export) (depth : Nat) :
    let notify := reentering choose depth
    (∀ (w : Widget) (e : Export), w.busy = true →
      ∃ lines, eval (runExport notify e) w = (.thrown (w.page.refusal e), w.withTranscript lines)) ∧
    ∀ (w : Widget) (steps : List PageStep),
      let calm := eval (stepAll quiet steps) w
      let noisy := eval (stepAll notify steps) w
      noisy.1 = calm.1 ∧
        (∃ lines : Array PageLine, noisy.2 = calm.2.withTranscript lines ∧
          calm.2.page.transcript.toList.Sublist lines.toList ∧
          lines.toList.filter PageLine.isOwn =
            calm.2.page.transcript.toList.filter PageLine.isOwn) ∧
        (w.busy = false →
          noisy.2.busy = false ∧
            ∀ e, (eval (runExport notify e) noisy.2).1 ≠ .thrown .reentrant) := by
  intro notify
  have alike : ∀ c, Alike c.held (quiet c) (notify c) := alike_reentering choose depth
  refine ⟨fun w e busy => ?_, fun w steps => ?_⟩
  · obtain ⟨refused, lines, left, -⟩ := eval_runExport_of_busy alike e busy
    exact ⟨lines, Prod.ext refused left⟩
  · intro calm noisy
    have runs : Alike false _ _ := alike_stepAll alike steps
    obtain ⟨same, annotated, busy⟩ := runs nofun (.refl w)
    refine ⟨same, annotated, fun idle => ?_⟩
    have down : noisy.2.busy = false := annotated.busy_eq.trans (busy.trans idle)
    refine ⟨down, fun e => ?_⟩
    have again : Alike false _ _ := alike_runExport alike e
    obtain ⟨same', -, -⟩ := again nofun (.refl noisy.2)
    rw [same']
    exact runExport_ne_reentrant e down

/-- Inside a frame that reports a fault, and inside the start of another session,
a shutdown is asked for four times and refused each time; the frame is drawn and
the session started all the same. -/
theorem shutdown_refused_inside_frame_and_init :
    let rom : Bytes := Array.replicate 0x150 0xD3
    let opened := opened true true [("screen", .canvas .flat)]
    let w := opened.after [.export (.init rom false), .export (.start "screen")]
    let steps : List PageStep := [.frame 0, .export (.init rom false)]
    let calm := eval (stepAll quiet steps) w
    let noisy := eval (stepAll (reentering (fun _ _ => [.shutdown]) 1) steps) w
    noisy.1 = calm.1 ∧ (∃ lines, noisy.2 = calm.2.withTranscript lines) ∧ noisy.2.busy = false ∧
      ∃ pixels, noisy.2.page.transcript.toList = w.page.transcript.toList ++
        [.call (.error (.faulted 1 ⟨"illegal opcode D3", some 0x100⟩)),
          .interrupted (.thrown .reentrant),
          .call (.image 162 146), .interrupted (.thrown .reentrant),
          .call (.put "screen" pixels), .interrupted (.thrown .reentrant),
          .call (.request 2),
          .call (.log (.sessionStarted 0x150)), .interrupted (.thrown .reentrant)] := by
  intro rom opened w steps
  have large : PatternCore.minimumRom ≤ rom.size := by simp [rom, PatternCore.minimumRom]
  obtain ⟨player, player_eq⟩ : ∃ player : Player PatternCore Ledger,
      player = .start (.boot rom) {} default {} := ⟨_, rfl⟩
  -- The display is bound to a session whose first tick faults.
  have initial := settled_opened true true [("screen", .canvas .flat)]
  have started : opened.after [.export (.init rom false)] = opened.begun rom player :=
    player_eq ▸ initial.after_init large false
  have begun : (opened.begun rom player).Settled := started ▸ initial.after _
  have w_eq : w = (opened.begun rom player).bound "screen" player.screen := by
    have bound : (opened.begun rom player).turn (.export (.start "screen")) = _ :=
      begun.turn_start rfl rfl
    show (Widget.turn (Widget.after opened [.export (.init rom false)]) _).2 = _
    rw [started, bound]
  have settled : w.Settled := initial.after _
  have live : w.session = some ⟨.live player⟩ := congrArg Widget.session w_eq
  have shown : w.display = some ⟨0, "screen", [.down, .up], 1⟩ := congrArg Widget.display w_eq
  have halted : player.core.faultHere = some ⟨"illegal opcode D3", some 0x100⟩ := by
    rw [player_eq]
    exact PatternCore.faultHere_boot_undefined
  have moves : player.deck.mode.stride = some .frame := by rw [player_eq]; rfl
  have first : player.nextCounters.ticks.val = 1 := by rw [player_eq]; rfl
  have reported : newReports ⟨.live player⟩ ⟨.live (player.act (.tick 0))⟩ =
      [(1, ⟨"illegal opcode D3", some 0x100⟩)] := by
    rw [newReports_tick, Player.reported_of_halted moves halted, first]
    rfl
  have refused := (reentrant_calls_are_refused (fun _ _ => [.shutdown]) 1).2 w steps
  have asked_eq : eval (stepAll (reentering (fun _ _ => [.shutdown]) 1) steps) w = _ :=
    eval_frame_then_init_asking settled shown live 0 large false
  generalize eval (stepAll quiet steps) w = calm at refused ⊢
  generalize eval (stepAll (reentering (fun _ _ => [.shutdown]) 1) steps) w = noisy
    at refused asked_eq ⊢
  refine ⟨refused.1, refused.2.1.imp fun _ h => h.1, (refused.2.2 settled.idle).1,
    (player.act (.tick 0)).screen.pixels, ?_⟩
  obtain ⟨-, width, height⟩ := (settled.begun live).screen_tick 0
  have next : w.page.nextRequest = 2 := by rw [w_eq]; rfl
  rw [asked_eq]
  simp [Widget.withTranscript, Page.writeAll, Widget.pictureLines, reported, width, height, next,
    asked, reportLine, rom]

end WidgetM

end HandheldHost
