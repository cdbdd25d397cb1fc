import HandheldHost.Widget.Exports

/-!
# What the computations of a widget come to

`WidgetM.eval` is a computation without its log: what it gives, and the
widget that it leaves.  Here the computations that everything else is made
of are evaluated on a page that does nothing of its own (`WidgetM.quiet`).

* `Page.obstacle?` -- why a canvas cannot be drawn to, if it cannot.
* `WidgetM.eval_guarded_of_busy`, `WidgetM.eval_guarded_of_idle` -- the guard.
-/

namespace HandheldHost

/-- Why the canvas with the given id cannot be drawn to, if it cannot. -/
def Page.obstacle? (page : Page) (id : String) : Option Thrown :=
  if page.hasWindow = false then some .noWindow
  else if page.hasDocument = false then some .noDocument
  else
    match page.element? id with
    | none => some (.noElement id)
    | some .other => some (.notCanvas id)
    | some (.canvas context) =>
      if .context ∈ page.failing then some (.page .context)
      else
        match context with
        | .missing => some .noContext
        | .foreign => some .foreignContext
        | .flat => none

/-- The lines that looking for a canvas writes: the canvas is asked for its
context if there is one. -/
def Page.searchLines (page : Page) (id : String) : List PageLine :=
  if page.hasWindow = false ∨ page.hasDocument = false then []
  else
    match page.element? id with
    | some (.canvas _) => [.call (.context id)]
    | _ => []

/-- Looking for a canvas that can be drawn to asks it for its context. -/
theorem Page.searchLines_of_obstacle? {page : Page} {id : String}
    (found : page.obstacle? id = none) : page.searchLines id = [.call (.context id)] := by
  unfold obstacle? at found
  unfold searchLines
  split at found
  · cases found
  · split at found
    · cases found
    · split at found <;> simp_all

/-- Writes lines of the transcript, one after the other. -/
def Page.writeAll (page : Page) (lines : List PageLine) : Page :=
  { page with transcript := page.transcript ++ lines.toArray }

namespace Page

theorem write_eq_writeAll (page : Page) (line : PageLine) :
    page.write line = page.writeAll [line] := by
  simp [write, writeAll]

@[simp] theorem writeAll_nil (page : Page) : page.writeAll [] = page := by
  simp [writeAll]

@[simp] theorem writeAll_writeAll (page : Page) (lines more : List PageLine) :
    (page.writeAll lines).writeAll more = page.writeAll (lines ++ more) := by
  simp [writeAll]

end Page

namespace WidgetM

variable {α β : Type}

/-- What a computation gives and the widget that it leaves. -/
def eval (x : WidgetM α) (w : Widget) : α × Widget := (x.run w).value

/-! ## Sequences -/

@[simp] theorem eval_pure (a : α) (w : Widget) : eval (pure a) w = (a, w) := rfl

@[simp] theorem eval_bind (x : WidgetM α) (f : α → WidgetM β) (w : Widget) :
    eval (x >>= f) w = eval (f (eval x w).1) (eval x w).2 := rfl

@[simp] theorem eval_map (f : α → β) (x : WidgetM α) (w : Widget) :
    eval (f <$> x) w = (f (eval x w).1, (eval x w).2) := rfl

@[simp] theorem eval_get (w : Widget) : eval get w = (w, w) := rfl

@[simp] theorem eval_modify (f : Widget → Widget) (w : Widget) :
    eval (modify f) w = ((), f w) := rfl

@[simp] theorem eval_lift (x : Logged α) (w : Widget) : eval (liftM x) w = (x.value, w) := rfl

@[simp] theorem eval_onPage (f : Page → Page) (w : Widget) :
    eval (onPage f) w = ((), { w with page := f w.page }) := rfl

/-! ## Results -/

@[simp] theorem mapError_ok {ε ε' : Type} (f : ε → ε') (a : α) :
    (.ok a : Except ε α).mapError f = .ok a := rfl

@[simp] theorem mapError_error {ε ε' : Type} (f : ε → ε') (e : ε) :
    (.error e : Except ε α).mapError f = .error (f e) := rfl

/-! ## The guard -/

/-- An exported call that finds another one running is refused. -/
theorem eval_guarded_of_busy {w : Widget} (busy : w.busy = true)
    (body : WidgetM (Except Thrown α)) : eval (guarded body) w = (.error .reentrant, w) := by
  simp [guarded, busy]

/-- An exported call that runs alone runs with the flag up, and takes the flag
down in the end. -/
theorem eval_guarded_of_idle {w : Widget} (idle : w.busy = false)
    (body : WidgetM (Except Thrown α)) :
    eval (guarded body) w =
      ((eval body { w with busy := true }).1,
        { (eval body { w with busy := true }).2 with busy := false }) := by
  simp [guarded, idle]

/-! ## Calls on a quiet page -/

@[simp] theorem eval_call (c : PageCall) (w : Widget) :
    eval (call quiet c) w = ((), { w with page := w.page.writeAll [.call c] }) := by
  rw [← Page.write_eq_writeAll]
  rfl

/-- A call that the page refuses is written down and has no other effect. -/
theorem eval_attempt_of_refused {c : PageCall} {name : Fallible}
    (fallible : c.fallible? = some name) {w : Widget} (refused : name ∈ w.page.failing) (effect : Page → Page) :
    eval (attempt quiet c effect) w =
      (.error (.page name), { w with page := w.page.writeAll [.call c] }) := by
  have still : name ∈ (w.page.writeAll [.call c]).failing := refused
  rw [attempt, eval_bind, eval_call]
  simp only [fallible, eval_bind, eval_get, still, if_pos, eval_pure]

theorem eval_attempt_of_granted {c : PageCall} {w : Widget}
    (granted : ∀ name, c.fallible? = some name → name ∉ w.page.failing) (effect : Page → Page) :
    eval (attempt quiet c effect) w =
      (.ok (), { w with page := effect (w.page.writeAll [.call c]) }) := by
  rw [attempt, eval_bind, eval_call]
  cases fallible : c.fallible? with
  | none => rfl
  | some name =>
    have still : name ∉ (w.page.writeAll [.call c]).failing := granted name fallible
    simp only [eval_bind, eval_get, still, if_neg, not_false_eq_true, eval_onPage, eval_pure]

theorem eval_findCanvas (id : String) (w : Widget) :
    eval (findCanvas quiet id) w =
      (match w.page.obstacle? id with
        | some e => .error e
        | none => .ok (),
        { w with page := w.page.writeAll (w.page.searchLines id) }) := by
  unfold findCanvas Page.obstacle? Page.searchLines
  rw [eval_bind, eval_get]
  by_cases window : w.page.hasWindow = true
  · by_cases document : w.page.hasDocument = true
    · rcases element : w.page.element? id with _ | context | _
      · simp [window, document, element]
      · by_cases refused : .context ∈ w.page.failing
        · simp [window, document, element, eval_attempt_of_refused (c := .context id) rfl refused,
            refused]
        · have granted := eval_attempt_of_granted (c := .context id) (w := w)
            (fun name same => by cases same; exact refused) fun page => page
          cases context <;> simp [window, document, element, granted, refused]
      · simp [window, document, element]
    · simp [window, document]
  · simp [window]

end WidgetM

end HandheldHost
