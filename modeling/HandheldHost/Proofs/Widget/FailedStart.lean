import HandheldHost.Proofs.Widget.Turns

/-!
# Starts that fail

A page may fail any call that a start makes on it.  Whatever it fails, the
start asks for no frame that stays pending, and nothing stands behind its
callbacks afterwards.  But listeners that were attached before the failing
call stay attached: only a display that is bound detaches its own.

* `WidgetM.Recedes` -- a computation after which no more is attached, pending
  or stood behind than before.
* `WidgetM.listenTo_leaves` -- what is left of the listeners of one attempt.
* `WidgetM.Leaves` -- what a computation leaves when it throws;
  `WidgetM.start_leaves` -- a start does so.
* `Widget.failed_start_leaves` -- every start, from any state, on any page.
-/

namespace HandheldHost

/-- The page inside a call, once it has decided which calls fail. -/
def Page.decided (page : Page) (c : PageCall) (failing : List Fallible) : Page :=
  { page with failing }.writeAll [.call c, .interrupted .done]

/-- No more is attached, pending or stood behind than before. -/
structure Widget.Receded (w v : Widget) : Prop where
  pending : v.page.pending.Sublist w.page.pending
  listeners : v.page.listeners.Sublist w.page.listeners
  alive : v.alive.Sublist w.alive
  nextOwner : v.nextOwner = w.nextOwner

namespace Widget

theorem Receded.refl (w : Widget) : w.Receded w :=
  ⟨List.Sublist.refl _, List.Sublist.refl _, List.Sublist.refl _, rfl⟩

theorem Receded.trans {w v u : Widget} (h : w.Receded v) (h' : v.Receded u) : w.Receded u :=
  ⟨h'.pending.trans h.pending, h'.listeners.trans h.listeners, h'.alive.trans h.alive,
    h'.nextOwner.trans h.nextOwner⟩

end Widget

namespace WidgetM

open Widget

variable {α β : Type}

/-- A computation that adds nothing to what is attached, pending or stood
behind. -/
def Recedes (x : WidgetM α) : Prop := ∀ w : Widget, w.Receded (eval x w).2

namespace Recedes

theorem pure (a : α) : Recedes (Pure.pure a : WidgetM α) := .refl

theorem bind {x : WidgetM α} {f : α → WidgetM β} (h : Recedes x) (h' : ∀ a, Recedes (f a)) :
    Recedes (x >>= f) := fun w => (h w).trans (h' _ _)

theorem get {f : Widget → WidgetM α} (h : ∀ w, Recedes (f w)) : Recedes (MonadState.get >>= f) :=
  fun w => h w w

theorem guarded {body : WidgetM (Except Thrown α)} (h : Recedes body) : Recedes (guarded body) := by
  intro w
  cases guard : w.busy with
  | true =>
    rw [eval_guarded_of_busy guard]
    exact .refl w
  | false =>
    rw [eval_guarded_of_idle guard]
    obtain ⟨pending, listeners, alive, nextOwner⟩ := h { w with busy := true }
    exact ⟨pending, listeners, alive, nextOwner⟩

end Recedes

/-- A page that decides inside every call which calls fail, that one included. -/
def deciding (fails : PageCall → List Fallible) : PageCall → WidgetM Unit :=
  interrupting fun c => some (.fail (fails c))

section

variable (fails : PageCall → List Fallible)

/-- The failure that the page decides on for a call. -/
def refused? (c : PageCall) : Option Fallible :=
  match c.fallible? with
  | some name => if name ∈ fails c then some name else none
  | none => none

theorem eval_call_deciding (c : PageCall) (w : Widget) :
    eval (call (deciding fails) c) w = ((), { w with page := w.page.decided c (fails c) }) := by
  have lines (transcript : Array PageLine) (a b : PageLine) :
      (transcript.push a).push b = transcript ++ #[a, b] := Array.ext' (by simp)
  simp [call, deciding, interrupting, step, write, Page.decided, Page.write, Page.writeAll, lines]

theorem eval_attempt_deciding (c : PageCall) (effect : Page → Page) (w : Widget) :
    eval (attempt (deciding fails) c effect) w =
      match refused? fails c with
      | some name => (.error (.page name), { w with page := w.page.decided c (fails c) })
      | none => (.ok (), { w with page := effect (w.page.decided c (fails c)) }) := by
  rw [attempt, eval_bind, eval_call_deciding, refused?]
  cases c.fallible? with
  | none => rfl
  | some name =>
    have told : (w.page.decided c (fails c)).failing = fails c := rfl
    by_cases failing : name ∈ fails c <;> simp [told, failing]

/-! ## Computations that add nothing -/

theorem recedes_call (c : PageCall) : Recedes (call (deciding fails) c) := by
  intro w
  rw [eval_call_deciding]
  exact ⟨.refl _, .refl _, .refl _, rfl⟩

theorem recedes_attempt (c : PageCall) (effect : Page → Page)
    (pending : ∀ page, (effect page).pending.Sublist page.pending)
    (listeners : ∀ page, (effect page).listeners.Sublist page.listeners) :
    Recedes (attempt (deciding fails) c effect) := by
  intro w
  rw [eval_attempt_deciding]
  cases refused? fails c with
  | some name => exact ⟨.refl _, .refl _, .refl _, rfl⟩
  | none => exact ⟨pending _, listeners _, .refl _, rfl⟩

theorem recedes_abandon (callback : Callback) : Recedes (abandon callback) :=
  fun _ => ⟨.refl _, .refl _, List.erase_sublist, rfl⟩

theorem recedes_releaseListeners (owner : Nat) (events : List KeyEvent) :
    Recedes (releaseListeners (deciding fails) owner events) := by
  induction events with
  | nil => exact .pure _
  | cons event events ih =>
    have detached := recedes_attempt fails (.unlisten event) (·.detach ⟨owner, some event⟩)
      (fun _ => .refl _) fun _ => List.erase_sublist
    refine detached.bind fun r => ?_
    have rest := (recedes_abandon ⟨owner, some event⟩).bind fun _ => ih
    cases r with
    | error e => exact (recedes_call fails _).bind fun _ => rest
    | ok _ => exact rest

theorem recedes_releaseDisplay (display : Display) :
    Recedes (releaseDisplay (deciding fails) display) := by
  have withdrawn := recedes_attempt fails (.cancel display.handle)
    (·.withdraw display.handle) (fun _ => List.filter_sublist) fun _ => .refl _
  have rest := (recedes_releaseListeners fails display.owner display.events).bind
    fun _ => recedes_abandon ⟨display.owner, none⟩
  refine withdrawn.bind fun r => ?_
  cases r with
  | error e => exact (recedes_call fails _).bind fun _ => rest
  | ok _ => exact rest

theorem recedes_unbind : Recedes (unbind (deciding fails)) := by
  refine .get fun w => ?_
  cases w.display with
  | none => exact .pure _
  | some display =>
    have taken : Recedes (modify fun w => { w with display := none }) :=
      fun _ => ⟨.refl _, .refl _, .refl _, rfl⟩
    exact taken.bind fun _ => recedes_releaseDisplay fails display

theorem recedes_announce (reports : List (Nat × Fault)) :
    Recedes (announce (deciding fails) reports) := by
  induction reports with
  | nil => exact .pure _
  | cons report reports ih => exact (recedes_call fails _).bind fun _ => ih

theorem recedes_readSession (f : WidgetSession → Except SessionError α) :
    Recedes (readSession (deciding fails) f) := by
  refine .guarded (.get fun w => ?_)
  cases w.session with
  | none => exact .pure _
  | some viewer =>
    have kept (after : WidgetSession) :
        Recedes (modify fun w => { w with session := some after }) :=
      fun _ => ⟨.refl _, .refl _, .refl _, rfl⟩
    exact (kept viewer).bind fun _ => (recedes_announce fails _).bind fun _ => .pure _

theorem recedes_findCanvas (id : String) : Recedes (findCanvas (deciding fails) id) := by
  refine .get fun w => ?_
  dsimp only
  split
  · exact .pure _
  · split
    · exact .pure _
    · rcases w.page.element? id with _ | context | _
      · exact .pure _
      · have asked := recedes_attempt fails (.context id) _ (fun _ => .refl _) fun _ => .refl _
        refine asked.bind fun r => ?_
        cases r with
        | error e => exact .pure _
        | ok _ => cases context <;> exact .pure _
      · exact .pure _

/-! ## One attempt -/

/-- The events whose listeners the page lets one attempt attach: those before
the first that it refuses. -/
def accepted (events : List KeyEvent) : List KeyEvent :=
  events.takeWhile fun event => .listen ∉ fails (.listen event)

/-- The first of several listeners: either the page refuses it, or the others
have their turn with that one attached. -/
theorem eval_listenTo_cons (owner : Nat) (event : KeyEvent) (events : List KeyEvent) (w : Widget) :
    let c : Callback := ⟨owner, some event⟩
    let page := w.page.decided (.listen event) (fails (.listen event))
    let rest := eval (listenTo (deciding fails) owner events)
      { w with alive := c :: w.alive, page := page.attach c }
    eval (listenTo (deciding fails) owner (event :: events)) w =
      if .listen ∈ fails (.listen event) then (.error (.page .listen), { w with page })
      else
        match rest.1 with
        | .error e => (.error e, { rest.2 with alive := rest.2.alive.erase c })
        | .ok () => (.ok (), rest.2) := by
  intro c page rest
  simp only [listenTo, adopt, eval_bind, eval_modify, eval_attempt_deciding, refused?,
    PageCall.fallible?]
  by_cases failing : .listen ∈ fails (.listen event)
  · simp [failing, abandon, page]
  · simp only [failing, if_false]
    show eval (match rest.1 with
      | Except.error e => do
        abandon c
        return Except.error e
      | Except.ok () => return Except.ok ()) rest.2 = _
    cases rest.1 <;> rfl

theorem listenTo_leaves (owner : Nat) (events : List KeyEvent) (w : Widget) :
    let r := eval (listenTo (deciding fails) owner events) w
    r.2.page.listeners = w.page.listeners ++ Callback.keys owner (accepted fails events) ∧
      r.2.page.pending = w.page.pending ∧ r.2.nextOwner = w.nextOwner ∧
      match r.1 with
      | .ok () => accepted fails events = events ∧
        r.2.alive = (Callback.keys owner events).reverse ++ w.alive
      | .error e => e = .page .listen ∧ r.2.alive = w.alive := by
  induction events generalizing w with
  | nil => simp [listenTo, accepted, Callback.keys]
  | cons event events ih =>
    rw [eval_listenTo_cons]
    by_cases failing : .listen ∈ fails (.listen event)
    · simp [failing, accepted, Callback.keys, Page.decided, Page.writeAll]
    · simp only [failing, if_false]
      let c : Callback := ⟨owner, some event⟩
      obtain ⟨listeners, pending, nextOwner, result⟩ := ih
        { w with
          alive := c :: w.alive
          page := (w.page.decided (.listen event) (fails (.listen event))).attach c }
      have attached : accepted fails (event :: events) = event :: accepted fails events := by
        simp [accepted, failing]
      rw [attached]
      generalize eval (listenTo (deciding fails) owner events) _ = rest
        at listeners pending nextOwner result
      obtain ⟨_ | _, v⟩ := rest
      · obtain ⟨rfl, alive⟩ := result
        have alive : v.alive = ⟨owner, some event⟩ :: w.alive := alive
        refine ⟨?_, pending, nextOwner, rfl, ?_⟩
        · simpa [Callback.keys, Page.attach, Page.decided, Page.writeAll] using listeners
        · simp [alive]
      · obtain ⟨all, alive⟩ := result
        refine ⟨?_, pending, nextOwner, by rw [all], ?_⟩
        · simpa [Callback.keys, Page.attach, Page.decided, Page.writeAll] using listeners
        · simpa [Callback.keys] using alive

theorem eval_requestFrame_deciding (callback : Callback) (w : Widget) :
    let c := PageCall.request w.page.nextRequest
    eval (requestFrame (deciding fails) callback) w =
      if .request ∈ fails c then
        (.error (.page .request), { w with page := w.page.decided c (fails c) })
      else
        (.ok w.page.nextRequest,
          { w with page := (w.page.decided c (fails c)).enqueue callback }) := by
  intro c
  simp only [requestFrame, eval_bind, eval_get, eval_attempt_deciding, refused?, PageCall.fallible?]
  by_cases failing : .request ∈ fails c <;> simp [c, failing]

/-- The events whose listeners a start leaves attached when it throws. -/
def leftAttached : Thrown → List KeyEvent
  | .page .listen => accepted fails [.down, .up]
  | .page .request => [.down, .up]
  | _ => []

/-- Nothing is left attached unless the page refused the frame, or a listener
other than the first. -/
theorem leftAttached_eq_nil_iff (e : Thrown) :
    leftAttached fails e = [] ↔
      e ≠ .page .request ∧ (e = .page .listen → .listen ∈ fails (.listen .down)) := by
  cases e with
  | page name =>
    cases name with
    | listen =>
      by_cases failing : .listen ∈ fails (.listen .down) <;> simp [leftAttached, accepted, failing]
    | _ => simp [leftAttached]
  | _ => simp [leftAttached]

/-- A failure of the computation comes before any listener is attached. -/
def FailsEarly (x : WidgetM (Except Thrown α)) : Prop :=
  ∀ w e, (eval x w).1 = .error e → leftAttached fails e = []

theorem findCanvas_failsEarly (id : String) :
    FailsEarly fails (findCanvas (deciding fails) id) := by
  intro w e thrown
  rw [findCanvas, eval_bind, eval_get] at thrown
  dsimp only at thrown
  split at thrown
  · cases thrown
    rfl
  · split at thrown
    · cases thrown
      rfl
    · rcases element : w.page.element? id with _ | context | _ <;> rw [element] at thrown
      · cases thrown
        rfl
      · simp only [eval_bind, eval_attempt_deciding, refused?, PageCall.fallible?] at thrown
        by_cases failing : .context ∈ fails (.context id)
        · simp only [failing, if_true] at thrown
          cases thrown
          rfl
        · simp only [failing, if_false] at thrown
          cases context <;> cases thrown <;> rfl
      · cases thrown
        rfl

theorem readSession_failsEarly (f : WidgetSession → Except SessionError α) :
    FailsEarly fails (readSession (deciding fails) f) := by
  intro w e thrown
  cases guard : w.busy with
  | true =>
    rw [readSession, withSession, eval_guarded_of_busy guard] at thrown
    cases thrown
    rfl
  | false =>
    rw [readSession, withSession, eval_guarded_of_idle guard, eval_bind, eval_get] at thrown
    cases session : w.session with
    | none =>
      simp only [session] at thrown
      cases thrown
      rfl
    | some viewer =>
      simp only [session] at thrown
      have thrown : (f viewer).mapError .session = .error e := thrown
      cases result : f viewer with
      | error reason =>
        rw [result] at thrown
        cases thrown
        rfl
      | ok a =>
        rw [result] at thrown
        cases thrown

/-- When the computation throws, the widget is left with the listeners that the
failure leaves attached, and with nothing more besides. -/
structure Left (w v : Widget) (e : Thrown) : Prop where
  pending : v.page.pending.Sublist w.page.pending
  alive : v.alive.Sublist w.alive
  listeners : ∃ kept, kept.Sublist w.page.listeners ∧
    v.page.listeners = kept ++ Callback.keys w.nextOwner (leftAttached fails e)

/-- What a computation leaves when it throws. -/
def Leaves (x : WidgetM (Except Thrown α)) : Prop :=
  ∀ w e, (eval x w).1 = .error e → Left fails w (eval x w).2 e

namespace Leaves

variable {fails}

theorem pure {r : Except Thrown α} (early : ∀ e, r = .error e → leftAttached fails e = []) :
    Leaves fails (Pure.pure r) := by
  intro w e thrown
  refine ⟨.refl _, .refl _, w.page.listeners, .refl _, ?_⟩
  rw [early e thrown]
  exact (List.append_nil _).symm

theorem after {x : WidgetM β} {f : β → WidgetM (Except Thrown α)} (recedes : Recedes x)
    (h : ∀ w, Leaves fails (f (eval x w).1)) : Leaves fails (x >>= f) := by
  intro w e thrown
  rw [eval_bind] at thrown ⊢
  obtain ⟨pending, listeners, alive, nextOwner⟩ := recedes w
  obtain ⟨pending', alive', kept, sub, left⟩ := h w _ e thrown
  rw [nextOwner] at left
  exact ⟨pending'.trans pending, alive'.trans alive, kept, sub.trans listeners, left⟩

theorem bind {x : WidgetM (Except Thrown β)} {f : Except Thrown β → WidgetM (Except Thrown α)}
    (recedes : Recedes x) (early : FailsEarly fails x)
    (h : ∀ r, (∀ e, r = .error e → leftAttached fails e = []) → Leaves fails (f r)) :
    Leaves fails (x >>= f) :=
  after recedes fun w => h _ (early w)

end Leaves

theorem start_leaves (id : String) : Leaves fails (start (deciding fails) id) := by
  refine .bind (recedes_findCanvas fails id) (findCanvas_failsEarly fails id) fun r early => ?_
  cases r with
  | error e => exact .pure (by simpa using early)
  | ok _ =>
    refine .bind (recedes_readSession fails _) (readSession_failsEarly fails _) fun r early => ?_
    cases r with
    | error e => exact .pure (by simpa using early)
    | ok screen =>
      refine .after (recedes_call fails _) fun _ => .after (recedes_call fails _) fun _ =>
        .after (recedes_unbind fails) fun _ => ?_
      intro w e thrown
      have listened :=
        listenTo_leaves fails w.nextOwner [.down, .up] { w with nextOwner := w.nextOwner + 1 }
      simp only [eval_bind, eval_get, eval_modify] at thrown ⊢
      generalize eval (listenTo (deciding fails) w.nextOwner [.down, .up]) _ = r
        at listened thrown ⊢
      obtain ⟨listeners, pending, -, result⟩ := listened
      obtain ⟨_ | _, v⟩ := r
      · obtain ⟨rfl, alive⟩ := result
        cases thrown
        exact ⟨pending ▸ .refl _, alive ▸ .refl _, w.page.listeners, .refl _, listeners⟩
      · obtain ⟨all, alive⟩ := result
        simp only [adopt, eval_bind, eval_modify, eval_requestFrame_deciding] at thrown ⊢
        by_cases failing : .request ∈ fails (.request v.page.nextRequest)
        · simp only [failing, if_true] at thrown ⊢
          cases thrown
          refine ⟨?_, ?_, w.page.listeners, .refl _, ?_⟩
          · exact pending ▸ .refl _
          · -- The three callbacks of this attempt are abandoned, and no others.
            have alive : v.alive =
                ⟨w.nextOwner, some .up⟩ :: ⟨w.nextOwner, some .down⟩ :: w.alive := alive
            simp [alive, abandon]
          · exact (all ▸ listeners :)
        · simp only [failing, if_false] at thrown
          cases thrown

end

end WidgetM

namespace Widget

open WidgetM

/-- **What a start that throws leaves on the page.**  Whatever state it starts
from and whichever calls the page fails, no frame that it asked for is pending,
and nothing stands behind a callback that it registered.  The key listeners it
leaves attached are those that the page accepted: both of them when the
animation frame was refused, the first when the page refused the second, and
none in all other cases. -/
theorem failed_start_leaves (w : Widget) (fails : PageCall → List Fallible) (id : String)
    (e : Thrown)
    (thrown : (w.perform (fun c => some (.fail (fails c))) (.export (.start id))).value.1 =
      .thrown e) :
    let v := (w.perform (fun c => some (.fail (fails c))) (.export (.start id))).value.2
    v.page.pending.Sublist w.page.pending ∧ v.alive.Sublist w.alive ∧
      (∃ kept, kept.Sublist w.page.listeners ∧
        v.page.listeners = kept ++ Callback.keys w.nextOwner (leftAttached fails e)) ∧
      (leftAttached fails e = [] ↔
        e ≠ .page .request ∧ (e = .page .listen → .listen ∈ fails (.listen .down))) := by
  intro v
  have failed : (eval (start (deciding fails) id) w).1 = .error e := by
    have worded : answer (fun _ => .unit) (eval (start (deciding fails) id) w).1 = .thrown e :=
      thrown
    cases result : (eval (start (deciding fails) id) w).1 with
    | error reason =>
      rw [result] at worded
      cases worded
      rfl
    | ok _ =>
      rw [result] at worded
      cases worded
  obtain ⟨pending, alive, listeners⟩ := start_leaves fails id w e failed
  exact ⟨pending, alive, listeners, leftAttached_eq_nil_iff fails e⟩

/-- The page accepts the first listener and refuses the second. -/
theorem failed_start_leaves_first_listener :
    let opened := opened true true [("screen", .canvas .flat)]
    let w := opened.after [.export (.init (Array.replicate 0x150 0) false)]
    let fails : PageCall → List Fallible := fun c => if c = .listen .up then [.listen] else []
    let r := (w.perform (fun c => some (.fail (fails c))) (.export (.start "screen"))).value
    r.1 = .thrown (.page .listen) ∧ r.2.page.pending.Sublist [] ∧ r.2.alive.Sublist [] ∧
      ∃ kept, kept.Sublist [] ∧ r.2.page.listeners = kept ++ [⟨0, some .down⟩] := by
  have large : PatternCore.minimumRom ≤ (Array.replicate 0x150 (0 : UInt8)).size := by
    simp [PatternCore.minimumRom]
  intro opened
  rw [(settled_opened true true _).after_init large]
  obtain ⟨pending, alive, listeners, -⟩ := failed_start_leaves
    (opened.begun (Array.replicate 0x150 0) (.start (.boot _) {} default {}))
    (fun c => if c = .listen .up then [.listen] else []) "screen" (.page .listen) rfl
  exact ⟨rfl, pending, alive, listeners⟩

/-- The page accepts both listeners and refuses the animation frame.  Both stay
attached, though no display is bound and nothing stands behind them. -/
theorem listeners_outlive_refused_frame :
    let opened := opened true true [("screen", .canvas .flat)]
    let w := opened.after [.export (.init (Array.replicate 0x150 0) false)]
    let r := (w.perform (fun _ => some (.fail [.request])) (.export (.start "screen"))).value
    r.1 = .thrown (.page .request) ∧ r.2.display = none ∧ r.2.alive = [] ∧
      r.2.page.listeners = [⟨0, some .down⟩, ⟨0, some .up⟩] := by
  have large : PatternCore.minimumRom ≤ (Array.replicate 0x150 (0 : UInt8)).size := by
    simp [PatternCore.minimumRom]
  intro opened
  rw [(settled_opened true true _).after_init large]
  exact ⟨rfl, rfl, rfl, rfl⟩

end Widget

end HandheldHost
