import HandheldHost.Proofs.Widget.Follows

/-!
# The life of the sessions of a widget

On a page that never calls back from inside a call, every step makes the moves
of its kind and no others: an exported call that starts a session makes that one
move, one that shuts the session down that one, and anything else only acts.
So what the log tells of sessions can be read off the steps and their answers.

* `Widget.Lived` -- what a step can do to the session; `WidgetM.lived_step` --
  every step does one of these things.
* `Widget.Accounted` -- the account of a run; `Widget.Accounted.append` carries it
  over one step, `Widget.Accounted.stepAll` over any number of them.
* `WidgetM.CountsFromOne` -- the first tick of a session has number 1.
* `WidgetM.sessions_live_once` -- all of this, after any run.
-/

namespace HandheldHost

/-! ## Steps and their answers -/

/-- Whether an event is the start of a session. -/
def Event.startsSession : Event → Bool
  | .sessionStarted _ => true
  | _ => false

/-- Whether an event is the end of a session. -/
def Event.endsSession : Event → Bool
  | .sessionShutDown _ | .sessionDropped => true
  | _ => false

/-- A step on the page and the answer to it. -/
abbrev Exchange := PageStep × Answer

namespace Exchange

/-- Whether a session was asked for and started. -/
def starts : Exchange → Bool
  | (.export (.init _ _), .returned _) => true
  | _ => false

/-- Whether a session that was live was shut down. -/
def stops : Exchange → Bool
  | (.export .shutdown, .returned (.bool true)) => true
  | _ => false

/-- A session was started, and none was shut down since. -/
def Standing (history : List Exchange) : Prop :=
  ∃ before x after, history = before ++ x :: after ∧ x.starts = true ∧
    ∀ y ∈ after, y.stops = false

theorem not_standing_nil : ¬Standing [] := by
  rintro ⟨before, x, after, split, -⟩
  simp at split

/-- Only the last exchange tells whether a session stands now that did not
before. -/
theorem standing_append_singleton (history : List Exchange) (x : Exchange) :
    Standing (history ++ [x]) ↔ x.starts = true ∨ Standing history ∧ x.stops = false := by
  constructor
  · rintro ⟨before, y, after, split, starts, quiet⟩
    rcases after.eq_nil_or_concat with rfl | ⟨after, z, rfl⟩
    · obtain ⟨-, rfl⟩ := List.append_singleton_inj.mp split
      exact .inl starts
    · rw [List.concat_eq_append, ← List.cons_append, ← List.append_assoc] at split
      obtain ⟨rfl, rfl⟩ := List.append_singleton_inj.mp split
      obtain ⟨quiet, last⟩ := List.forall_mem_append.mp (List.concat_eq_append ▸ quiet)
      exact .inr ⟨⟨before, y, after, rfl, starts, quiet⟩, last _ List.mem_cons_self⟩
  · rintro (starts | ⟨⟨before, y, after, rfl, starts, quiet⟩, last⟩)
    · exact ⟨history, x, [], rfl, starts, List.forall_mem_nil _⟩
    · refine ⟨before, y, after ++ [x], by simp, starts, ?_⟩
      exact List.forall_mem_append.mpr ⟨quiet, by simpa using last⟩

end Exchange

namespace Widget

open SessionMove

/-- What a step on a page can do to the session, which answer it gets, and what
is logged. -/
inductive Lived (session : Option WidgetSession) :
    PageStep → Answer → List Event → Option WidgetSession → Prop
  /-- A cartridge image is refused. -/
  | refused {rom : Bytes} {debug : Bool} {reason : CartridgeError}
      (small : rom.size < PatternCore.minimumRom) :
      Lived session (.export (.init rom debug)) (.thrown (.session (.cartridge reason))) [] session
  /-- A session is started; one that was live is shut down. -/
  | started {rom : Bytes} {debug : Bool} (large : PatternCore.minimumRom ≤ rom.size) :
      Lived session (.export (.init rom debug)) (.returned .unit)
        ([.patternLoaded rom.size, .sessionStarted rom.size] ++ ending session)
        (some ⟨.live (.start (.boot rom) {} default { debug })⟩)
  /-- There is no session to shut down. -/
  | absent (never : session = none) :
      Lived session (.export .shutdown) (.thrown .notStarted) [] none
  /-- The session is shut down, if it is live. -/
  | stopped {viewer : WidgetSession} (there : session = some viewer) :
      Lived session (.export .shutdown) (.returned (.bool viewer.session.isLive)) (ending session)
        (some viewer.shutdown.value.2)
  /-- The player of the session acts, if it is live. -/
  | played {s : PageStep} {a : Answer} {events : List Event} (actions : List Action)
      (lasting : s.lifeMove? = none)
      (ticks : ∀ e ∈ events.filter Event.isLandmark, e.isTick = true) :
      Lived session s a events (session.map fun viewer => viewer.played actions)

end Widget

namespace WidgetM

open Widget SessionMove

variable (react : PageCall → Page → Page)

theorem lived_of_lasting (w : Widget) {s : PageStep} (lasting : s.lifeMove? = none) :
    (eval (step (aloof react) s) w).2.busy = w.busy ∧
      Lived w.session s (eval (step (aloof react) s) w).1 (events (step (aloof react) s) w)
        (eval (step (aloof react) s) w).2.session := by
  have inside (c : PageCall) : Follows (fun m => ∃ a, m = .act a) (aloof react c) :=
    follows_aloof react c
  obtain ⟨moves, acts, busy, moved⟩ :=
    follows_step inside (fun a => ⟨a, rfl⟩) s (by rw [lasting]; exact nofun) w
  obtain ⟨⟨actions, left⟩, ticks⟩ := runAll_acts acts w.session
  rw [moved] at left ticks
  dsimp only at left
  exact ⟨busy, left ▸ .played actions lasting ticks⟩

theorem lived_init {w : Widget} (idle : w.busy = false) (rom : Bytes) (debug : Bool) :
    (eval (init (aloof react) rom debug) w).2.busy = w.busy ∧
      Lived w.session (.export (.init rom debug))
        (answer (fun _ => .unit) (eval (init (aloof react) rom debug) w).1)
        (events (init (aloof react) rom debug) w)
        (eval (init (aloof react) rom debug) w).2.session := by
  rcases Nat.lt_or_ge rom.size PatternCore.minimumRom with small | large
  · obtain ⟨reason, refused⟩ := PatternCore.load_of_small small
    have nothing := run_init_of_refused (aloof react) idle refused debug
    rw [eval, events, nothing]
    exact ⟨rfl, .refused small⟩
  · -- Nothing moves inside a call, so the first move is the only one.
    have inside (c : PageCall) : Follows (fun _ => False) (aloof react c) := follows_aloof react c
    obtain ⟨rest, none, busy, moved⟩ := led_init inside rom debug idle
    obtain rfl : rest = [] := List.eq_nil_iff_forall_not_mem.mpr none
    rw [runAll_singleton, run_start_of_large large] at moved
    obtain ⟨left, logged⟩ := Logged.mk.inj moved
    rw [result_init_of_large _ idle large, ← left, ← logged]
    exact ⟨busy, .started large⟩

theorem lived_shutdown {w : Widget} (idle : w.busy = false) :
    (eval (shutdown (aloof react)) w).2.busy = w.busy ∧
      Lived w.session (.export .shutdown) (answer .bool (eval (shutdown (aloof react)) w).1)
        (events (shutdown (aloof react)) w) (eval (shutdown (aloof react)) w).2.session := by
  have inside (c : PageCall) : Follows (fun _ => False) (aloof react c) := follows_aloof react c
  obtain ⟨rest, none, busy, moved⟩ := led_shutdown inside idle
  obtain rfl : rest = [] := List.eq_nil_iff_forall_not_mem.mpr none
  rw [runAll_singleton, run_shutdown] at moved
  obtain ⟨left, logged⟩ := Logged.mk.inj moved
  refine ⟨busy, ?_⟩
  rw [result_shutdown _ idle, ← left, ← logged]
  cases there : w.session with
  | none => exact .absent rfl
  | some viewer => exact .stopped rfl

/-- **What a step does to the session** of an idle widget whose page never calls
back. -/
theorem lived_step {w : Widget} (idle : w.busy = false) (s : PageStep) :
    (eval (step (aloof react) s) w).2.busy = false ∧
      Lived w.session s (eval (step (aloof react) s) w).1 (events (step (aloof react) s) w)
        (eval (step (aloof react) s) w).2.session := by
  rw [← idle]
  cases life : s.lifeMove? with
  | none => exact lived_of_lasting react w life
  | some move =>
    obtain e | _ | _ | _ := s
    · have wrapped {α : Type} (wrap : α → Value) (x : WidgetM (Except Thrown α)) :
          events (do return answer wrap (← x)) w = events x w := List.append_nil _
      cases e with
      | init rom debug =>
        obtain ⟨busy, lived⟩ := lived_init react idle rom debug
        exact ⟨busy, (wrapped _ _).symm ▸ lived⟩
      | shutdown =>
        obtain ⟨busy, lived⟩ := lived_shutdown react idle
        exact ⟨busy, (wrapped _ _).symm ▸ lived⟩
      | _ => cases life
    all_goals cases life

end WidgetM

/-! ## What a step adds to the account -/

namespace Widget

open SessionMove

/-- The number of live sessions. -/
def liveCount (session : Option WidgetSession) : Nat :=
  if (player? session).isSome then 1 else 0

theorem countP_startsSession_ending (session : Option WidgetSession) :
    (ending session).countP Event.startsSession = 0 := by
  unfold ending
  cases player? session <;> rfl

theorem countP_endsSession_ending (session : Option WidgetSession) :
    (ending session).countP Event.endsSession = liveCount session := by
  unfold ending liveCount
  cases player? session <;> rfl

/-- A log whose landmarks are ticks tells of no start and no end. -/
theorem countP_of_ticks {events : List Event}
    (ticks : ∀ e ∈ events.filter Event.isLandmark, e.isTick = true) :
    events.countP Event.startsSession = 0 ∧ events.countP Event.endsSession = 0 := by
  have neither : ∀ e ∈ events, e.startsSession = false ∧ e.endsSession = false := by
    intro e logged
    cases e with
    | sessionStarted | sessionShutDown | sessionDropped =>
      exact absurd (ticks _ (List.mem_filter.mpr ⟨logged, rfl⟩)) Bool.false_ne_true
    | _ => exact ⟨rfl, rfl⟩
  simp only [List.countP_eq_zero, Bool.not_eq_true]
  exact ⟨fun e logged => (neither e logged).1, fun e logged => (neither e logged).2⟩

/-- A step that starts and ends no session tells of none, whatever its answer. -/
theorem exchange_of_lasting {s : PageStep} (lasting : s.lifeMove? = none) (a : Answer) :
    Exchange.starts (s, a) = false ∧ Exchange.stops (s, a) = false := by
  obtain e | _ | _ | _ := s
  · cases e with
    | init | shutdown => cases lasting
    | _ => exact ⟨rfl, rfl⟩
  all_goals exact ⟨rfl, rfl⟩

theorem player?_shutdown (viewer : WidgetSession) :
    player? (some viewer.shutdown.value.2) = none := by
  have ended := player?_run_shutdown (some viewer)
  rwa [run_shutdown] at ended

theorem player?_played (session : Option WidgetSession) (actions : List Action) :
    player? (session.map fun viewer => viewer.played actions) =
      (player? session).map fun player => player.after actions := by
  rcases session with _ | ⟨_ | player, releases⟩ <;> rfl

namespace Lived

variable {session session' : Option WidgetSession} {s : PageStep} {a : Answer}
  {events : List Event} (lived : Lived session s a events session')
include lived

/-- A start is logged just when the answer tells of one. -/
theorem countP_startsSession :
    events.countP Event.startsSession = [(s, a)].countP Exchange.starts := by
  cases lived with
  | refused | absent => rfl
  | started =>
    rw [List.countP_append, countP_startsSession_ending]
    rfl
  | stopped => exact countP_startsSession_ending session
  | played actions lasting ticks =>
    rw [(countP_of_ticks ticks).1, List.countP_singleton, (exchange_of_lasting lasting a).1]
    rfl

/-- Every end that is logged is that of a session that was live, and every
start that of one that is live now. -/
theorem liveCount_eq :
    liveCount session + events.countP Event.startsSession =
      events.countP Event.endsSession + liveCount session' := by
  cases lived with
  | refused => simp
  | absent never => simp [never]
  | started large =>
    have one : ∀ player, liveCount (some ⟨.live player⟩) = 1 := fun _ => rfl
    simp only [List.countP_append, countP_startsSession_ending, countP_endsSession_ending, one]
    exact congrArg (· + 1) (Nat.zero_add _).symm
  | stopped there =>
    rw [countP_startsSession_ending, countP_endsSession_ending, liveCount, liveCount,
      player?_shutdown]
    rfl
  | played actions lasting ticks =>
    obtain ⟨starts, ends⟩ := countP_of_ticks ticks
    rw [starts, ends, liveCount, liveCount, player?_played]
    cases player? session <;> rfl

/-- Every session comes from a start, and is released at most once. -/
theorem begun (sound : ∀ viewer, session = some viewer → viewer.Begun) :
    ∀ viewer, session' = some viewer → viewer.Begun := by
  intro viewer there
  cases lived with
  | refused => exact sound viewer there
  | absent => cases there
  | started =>
    rw [← Option.some.inj there]
    exact .inr ⟨_, rfl, Player.begun_start _ _⟩
  | stopped present =>
    rw [← Option.some.inj there, (sound _ present).value_shutdown]
    exact .inl rfl
  | played actions lasting ticks =>
    obtain ⟨before, present, rfl⟩ := Option.map_eq_some_iff.mp there
    exact (sound before present).played actions

/-- A session is live if it was started just now, or was live before and not
shut down. -/
theorem isSome_player?_iff :
    (player? session').isSome ↔
      Exchange.starts (s, a) = true ∨
        (player? session).isSome ∧ Exchange.stops (s, a) = false := by
  cases lived with
  | refused => simp [Exchange.starts, Exchange.stops]
  | absent never => simp [never, player?, Exchange.starts]
  | started large => exact iff_of_true rfl (.inl rfl)
  | @stopped viewer there =>
    have stops : Exchange.stops (.export .shutdown, .returned (.bool viewer.session.isLive)) =
        (player? session).isSome := by
      rw [there]
      obtain ⟨_ | player, releases⟩ := viewer <;> rfl
    rw [player?_shutdown, stops]
    cases player? session <;> simp [Exchange.starts]
  | played actions lasting ticks =>
    simp [exchange_of_lasting lasting a, player?_played]

/-- There is a session from the first start on. -/
theorem eq_none_iff : session' = none ↔ session = none ∧ Exchange.starts (s, a) = false := by
  cases lived with
  | refused => simp [Exchange.starts]
  | absent never => simp [Exchange.starts, never]
  | started => simp [Exchange.starts]
  | stopped there => simp [there]
  | played actions lasting ticks => simp [(exchange_of_lasting lasting a).1]

end Lived

/-- A start from an image that is large enough succeeds. -/
theorem lived_start_inv {session session' : Option WidgetSession} {a : Answer} {events : List Event}
    {rom : Bytes} {debug : Bool} (large : PatternCore.minimumRom ≤ rom.size)
    (lived : Lived session (.export (.init rom debug)) a events session') :
    a = .returned .unit ∧
      events = [.patternLoaded rom.size, .sessionStarted rom.size] ++ ending session ∧
      session' = some ⟨.live (.start (.boot rom) {} default { debug })⟩ := by
  cases lived with
  | refused small => exact absurd large (Nat.not_le.mpr small)
  | started => exact ⟨rfl, rfl, rfl⟩
  | played actions lasting => cases lasting

/-- A shutdown tells of the session that it has found. -/
theorem lived_shutdown_inv {session session' : Option WidgetSession} {a : Answer}
    {events : List Event} : Lived session (.export .shutdown) a events session' →
    events = ending session ∧
      a = match session with
        | none => .thrown .notStarted
        | some viewer => .returned (.bool viewer.session.isLive) := by
  intro lived
  cases lived with
  | absent never =>
    rw [never]
    exact ⟨rfl, rfl⟩
  | stopped there =>
    rw [there]
    exact ⟨rfl, rfl⟩
  | played actions lasting => cases lasting

/-- Any other step leaves no landmarks but ticks. -/
theorem lived_lasting_inv {session session' : Option WidgetSession} {s : PageStep} {a : Answer}
    {events : List Event} (lasting : s.lifeMove? = none) (lived : Lived session s a events session') :
    ∀ e ∈ events.filter Event.isLandmark, e.isTick = true := by
  cases lived with
  | refused | started | absent | stopped => cases lasting
  | played actions lasting ticks => exact ticks

theorem filter_isLandmark_ending (session : Option WidgetSession) :
    (ending session).filter Event.isLandmark = ending session := by
  unfold ending
  cases player? session <;> rfl

/-! ## The account -/

/-- What the steps on a page and their answers, the log, and the widget that is
left tell of sessions. -/
structure Accounted (history : List Exchange) (log : List Event) (w : Widget) : Prop where
  idle : w.busy = false
  begun : ∀ viewer, w.session = some viewer → viewer.Begun
  /-- The sessions that were started are those whose start was answered. -/
  starts_eq : log.countP Event.startsSession = history.countP Exchange.starts
  /-- All of them have ended, once each, but for the one that is live. -/
  ends_eq : log.countP Event.startsSession =
    log.countP Event.endsSession + liveCount w.session
  live_iff : (player? w.session).isSome ↔ Exchange.Standing history
  never_iff : w.session = none ↔ ∀ x ∈ history, x.starts = false

theorem accounted_opened (page : Page) : Accounted [] [] { page } where
  idle := rfl
  begun viewer there := by cases there
  starts_eq := rfl
  ends_eq := by simp [liveCount, player?]
  live_iff := iff_of_false Bool.false_ne_true Exchange.not_standing_nil
  never_iff := iff_of_true rfl (List.forall_mem_nil _)

section

variable {history : List Exchange} {log : List Event} {w : Widget}

/-- The account is carried over a step. -/
theorem Accounted.append {v : Widget} {s : PageStep} {a : Answer} {events : List Event}
    (account : Accounted history log w) (idle : v.busy = false)
    (lived : Lived w.session s a events v.session) :
    Accounted (history ++ [(s, a)]) (log ++ events) v where
  idle := idle
  begun := lived.begun account.begun
  starts_eq := by
    rw [List.countP_append, List.countP_append, account.starts_eq, lived.countP_startsSession]
  ends_eq := by
    have before := account.ends_eq
    have balance := lived.liveCount_eq
    rw [List.countP_append, List.countP_append]
    omega
  live_iff := by
    rw [Exchange.standing_append_singleton, ← account.live_iff]
    exact lived.isSome_player?_iff
  never_iff := by
    rw [List.forall_mem_append, List.forall_mem_singleton, ← account.never_iff]
    exact lived.eq_none_iff

/-- The account is carried over any run. -/
theorem Accounted.stepAll (account : Accounted history log w) (react : PageCall → Page → Page)
    (steps : List PageStep) :
    Accounted (history ++ steps.zip (WidgetM.eval (WidgetM.stepAll (WidgetM.aloof react) steps) w).1)
      (log ++ WidgetM.events (WidgetM.stepAll (WidgetM.aloof react) steps) w)
      (WidgetM.eval (WidgetM.stepAll (WidgetM.aloof react) steps) w).2 := by
  induction steps generalizing history log w with
  | nil => simpa [WidgetM.stepAll] using account
  | cons s steps ih =>
    obtain ⟨idle, lived⟩ := WidgetM.lived_step react account.idle s
    have rest := ih (account.append idle lived)
    simpa [WidgetM.stepAll] using rest

end

end Widget

/-! ## The first tick of a session -/

namespace WidgetM

open Widget SessionMove

/-- The first tick from here on has number 1, whichever step it is part of.  If
no step has ticked or shut the session down, a tick that is called for now
reports that number. -/
def CountsFromOne (notify : PageCall → WidgetM Unit) (w : Widget) : Prop :=
  ∀ later : List PageStep,
    let rest := (stepAll notify later).run w
    (∀ e, rest.events.find? Event.isTick = some e →
        ∃ now outcome, e = .ticked now outcome ∧ outcome.tick = 1) ∧
      (rest.events.find? Event.isTick = none →
        (∀ s ∈ later, s.lifeMove? ≠ some .shutdown) →
          ∀ now, ∃ report,
            (eval (step notify (.export (.tick now))) rest.value.2).1 =
                .returned (.report report) ∧
              report.tick = 1)

/-- The first tick of a session that is called for reports number 1. -/
theorem result_tick_of_fresh (notify : PageCall → WidgetM Unit) {w : Widget}
    (idle : w.busy = false) (fresh : Fresh w.session) (live : (player? w.session).isSome)
    (now : Float) :
    ∃ report, (eval (step notify (.export (.tick now))) w).1 = .returned (.report report) ∧
      report.tick = 1 := by
  have answered : (eval (step notify (.export (.tick now))) w).1 =
      answer .report (eval (withSession notify fun session => session.tick now) w).1 := rfl
  rw [answered, result_withSession notify idle]
  cases there : w.session with
  | none =>
    rw [there] at live
    cases live
  | some viewer =>
    rw [there] at fresh live
    obtain ⟨_ | player, releases⟩ := viewer
    · cases live
    · have outcome : (player.tick now).value.1.tick = 1 := by
        rw [player.value_tick]
        exact outcome_of_fresh (fresh player rfl)
      exact ⟨_, rfl, congrArg TickReport.number outcome⟩

theorem countsFromOne_of_fresh (react : PageCall → Page → Page) {w : Widget}
    (idle : w.busy = false) (fresh : Fresh w.session) (live : (player? w.session).isSome) :
    CountsFromOne (aloof react) w := by
  intro later rest
  have inside (c : PageCall) : Follows
      (fun m => (∃ a, m = .act a) ∨ ∃ s ∈ later, s.lifeMove? = some m) (aloof react c) :=
    follows_aloof react c
  obtain ⟨moves, kinds, led⟩ := follows_stepAll inside (fun a => .inl ⟨a, rfl⟩) later
    (fun s there m life => .inr ⟨s, there, life⟩) w
  have logged : events (stepAll (aloof react) later) w = rest.events := rfl
  have first := freshOr_runAll moves fresh
  rw [led.session_eq, logged, FreshOr] at first
  constructor
  · intro e ticked
    rw [ticked] at first
    exact first
  · intro unticked lasting now
    rw [unticked] at first
    have lives : (player? (runAll moves w.session).value).isSome := by
      refine isSome_player?_runAll (fun m there stop => ?_) live
      obtain ⟨a, act⟩ | ⟨s, taken, life⟩ := kinds m there
      · rw [stop] at act
        cases act
      · exact lasting s taken (stop ▸ life)
    rw [led.session_eq] at lives
    exact result_tick_of_fresh _ (led.busy_eq.trans idle) first lives now

/-! ## The life of the sessions -/

/-- **Sessions live one at a time, and once.**  Take any page that never calls
back from inside a call of the widget, whatever else it does there, and take any
steps on it.  They have led to a widget `w`, and this is what holds.

All the sessions that were started, one for each start that was answered, have
ended once each, but for the one that is live, if there is one.  While a session
is replaced the new one is there before the old one ends.

* A start from an image that is too small throws, and nothing at all changes.
* Any other start succeeds.  It ends the session that was live, and the first
  tick after it has number 1.
* A shutdown returns true just when a start has succeeded since the last
  shutdown that has returned true; it throws just when no start has ever
  succeeded; otherwise it returns false.  It ends the session that was live.
* No other step starts or ends a session. -/
theorem sessions_live_once (react : PageCall → Page → Page) (page : Page)
    (steps : List PageStep) :
    let notify := aloof react
    let ran := (stepAll notify steps).run { page }
    let history : List Exchange := steps.zip ran.value.1
    let w := ran.value.2
    Accounted history ran.events w ∧
      (∀ viewer, w.session = some viewer →
        viewer.session.releases = if viewer.session.isLive then 0 else 1) ∧
      (∀ rom debug, rom.size < PatternCore.minimumRom →
        ∃ reason, (step notify (.export (.init rom debug))).run w =
          pure (.thrown (.session (.cartridge reason)), w)) ∧
      (∀ rom debug, PatternCore.minimumRom ≤ rom.size →
        let started := (step notify (.export (.init rom debug))).run w
        started.value.1 = .returned .unit ∧
          started.landmarks = .sessionStarted rom.size :: ending w.session ∧
          CountsFromOne notify started.value.2) ∧
      (∀ s : PageStep, s.lifeMove? = none →
        let done := (step notify s).run w
        (player? done.value.2.session).isSome = (player? w.session).isSome ∧
          ∀ e ∈ done.landmarks, e.isTick = true) ∧
      let stopped := (step notify (.export .shutdown)).run w
      (stopped.value.1 = .returned (.bool true) ↔ Exchange.Standing history) ∧
        (stopped.value.1 = .thrown .notStarted ↔ ∀ x ∈ history, x.starts = false) ∧
        (stopped.value.1 = .returned (.bool true) ∨ stopped.value.1 = .thrown .notStarted ∨
          stopped.value.1 = .returned (.bool false)) ∧
        stopped.landmarks = ending w.session := by
  intro notify ran history w
  have account : Accounted history ran.events w :=
    (accounted_opened page).stepAll react steps
  have idle := account.idle
  refine ⟨account, ?_, ?_, ?_, ?_, ?_⟩
  · intro viewer there
    obtain rfl | ⟨player, rfl, -⟩ := account.begun viewer there <;> rfl
  · intro rom debug small
    obtain ⟨reason, refused⟩ := PatternCore.load_of_small small
    have thrown := run_init_of_refused notify idle refused debug
    refine ⟨reason, ?_⟩
    show (init notify rom debug).run w >>=
      (fun result => pure (answer (fun _ => .unit) result.1, result.2)) = _
    rw [thrown]
    rfl
  · intro rom debug large started
    obtain ⟨busy, lived⟩ := lived_step react idle (.export (.init rom debug))
    obtain ⟨answered, logged, left⟩ := lived_start_inv large lived
    have there : started.value.2.session = _ := left
    refine ⟨answered, ?_, countsFromOne_of_fresh react busy ?_ ?_⟩
    · show (events (step notify _) w).filter Event.isLandmark = _
      rw [logged, List.filter_append, filter_isLandmark_ending]
      rfl
    · rw [there]
      rintro player ⟨⟩
      rfl
    · rw [there]
      rfl
  · intro s lasting done
    obtain ⟨-, lived⟩ := lived_of_lasting react w lasting
    have same := lived.isSome_player?_iff
    simp only [exchange_of_lasting lasting, Bool.false_eq_true, false_or, and_true] at same
    exact ⟨Bool.eq_iff_iff.mpr same, lived_lasting_inv lasting lived⟩
  · intro stopped
    obtain ⟨-, lived⟩ := lived_step react idle (.export .shutdown)
    obtain ⟨logged, answered⟩ := lived_shutdown_inv lived
    have landmarks : stopped.landmarks = ending w.session := by
      show (events (step notify _) w).filter Event.isLandmark = _
      rw [logged, filter_isLandmark_ending]
    have found : stopped.value.1 = _ := answered
    rw [found, ← account.live_iff, ← account.never_iff, landmarks]
    rcases w.session with _ | ⟨_ | player, releases⟩
    · simp [player?]
    · simp [player?, Session.isLive]
    · simp [player?, Session.isLive]

end WidgetM

end HandheldHost
