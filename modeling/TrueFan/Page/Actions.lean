/-
# What the page lets a user do

Whatever arrives and is clicked in whatever order, the page has one command on its way at a
time, and while it has, all its controls are locked. Between commands the controls follow the
status that was drawn last. So a command is only ever sent on the word of that status, and it
is one that the core does not refuse for what it asks.
-/

import TrueFan.Core.Deployment
import TrueFan.Page.Dashboard

namespace TrueFan

open Python Foundations

namespace Dashboard

variable (conversions : Conversions)

section Update

variable (enabled : Bool) (reason safetyState : Json) (page : Dashboard)

/-- A control is locked while a command is on its way, and where the status allows none;
there the emergency button is not if the status is hot. -/
@[simp]
theorem disabled_update (control : PageControl) :
    ((updateControlAvailability enabled reason safetyState page).controls control).disabled =
      (page.actionInFlight || !enabled && !(safetyState.isText "hot" && isEmergency control)) := by
  simp only [updateControlAvailability]
  cases enabled <;> cases page.actionInFlight <;> cases safetyState.isText "hot" <;>
    cases isEmergency control <;> rfl

end Update

/-- `safety.state || "unknown"`. -/
def stateOf (data : List (String × Json)) : Json :=
  (Json.get (Json.get data "safety").membersOf "state").orOther (.str "unknown")

theorem state_of_draw {thresholds : Json} {data : List (String × Json)} {drawing : Drawing}
    (h : draw conversions thresholds data = .ok drawing) : drawing.state = stateOf data := by
  obtain ⟨_, _, h⟩ := bind_except_eq_ok h
  obtain ⟨_, _, h⟩ := bind_except_eq_ok h
  obtain ⟨_, _, h⟩ := bind_except_eq_ok h
  obtain ⟨_, _, h⟩ := bind_except_eq_ok h
  obtain ⟨_, _, h⟩ := bind_except_eq_ok h
  obtain ⟨_, _, h⟩ := bind_except_eq_ok h
  obtain ⟨_, _, h⟩ := bind_except_eq_ok h
  obtain ⟨_, _, h⟩ := bind_except_eq_ok h
  obtain ⟨_, _, h⟩ := bind_except_eq_ok h
  obtain ⟨_, _, h⟩ := bind_except_eq_ok h
  obtain ⟨_, _, h⟩ := bind_except_eq_ok h
  obtain ⟨_, _, h⟩ := bind_except_eq_ok h
  cases h
  rfl

/-- What is drawn of the status that stands in for one that failed to arrive. -/
def noDrawing : Drawing where
  state := .str "sensor-failure"
  reason := .str "status unavailable"
  duty := none
  mode := .str "unknown"
  agentOnline := false
  backend := .str "unknown"
  maxDrive := none
  cpu := none
  nvme := none
  avgDrive := none
  drives := []
  fans := []

/-- Drawing it never throws. -/
theorem draw_unavailable (thresholds : Json) :
    draw conversions thresholds unavailable = .ok noDrawing := rfl

/-- The status that `poll` draws in the end. -/
def polledStatus (arrival : Option Json) (page : Dashboard) : List (String × Json) :=
  match arrival with
  | none => unavailable
  | some payload =>
      match draw conversions (adopt page.thresholds payload.membersOf) payload.membersOf with
      | .ok _ => payload.membersOf
      | .error _ => unavailable

/-- A poll draws one status, and lets the controls follow it. -/
theorem poll_eq (arrival : Option Json) (page : Dashboard) :
    ∃ before thresholds drawing,
      draw conversions (adopt before (polledStatus conversions arrival page))
        (polledStatus conversions arrival page) = .ok drawing ∧
      poll conversions arrival page = shown drawing (polledStatus conversions arrival page)
        { page with thresholds } := by
  cases arrival with
  | none => exact ⟨page.thresholds, page.thresholds, noDrawing, rfl, rfl⟩
  | some payload =>
      rw [poll, render, polledStatus]
      dsimp only
      cases hdraw : draw conversions (adopt page.thresholds payload.membersOf)
        payload.membersOf with
      | ok drawing => exact ⟨page.thresholds, _, drawing, hdraw, rfl⟩
      | error thrown => exact ⟨page.thresholds, _, noDrawing, rfl, rfl⟩

/-! ## What the page keeps -/

/-- The controls of the page are at most what the status drawn last allows, and exactly that
if no command is on its way. -/
structure Follows (last : Option (List (String × Json))) (page : Dashboard) : Prop where
  inFlight : page.actionInFlight = page.waits.isSome
  allowed : page.serverAllowsControl = last.any allows
  busy : page.actionInFlight = true → ∀ control, (page.controls control).disabled = true
  locked : ∀ data, last = some data → allows data = false → ∀ control,
    (page.controls control).disabled = false →
      isEmergency control = true ∧ (stateOf data).isText "hot" = true
  unlocked : ∀ data, last = some data → allows data = true → page.actionInFlight = false →
    ∀ control, (page.controls control).disabled = false

variable {last : Option (List (String × Json))} {page : Dashboard}

theorem follows_loaded (saved : List Char) : Follows none (loaded saved) where
  inFlight := rfl
  allowed := rfl
  busy := nofun
  locked := nofun
  unlocked := nofun

/-- Drawing a status lets the controls follow it. -/
theorem Follows.poll (follows : Follows last page) (arrival : Option Json) :
    Follows (some (polledStatus conversions arrival page)) (poll conversions arrival page) := by
  obtain ⟨before, thresholds, drawing, hdraw, hpoll⟩ := poll_eq conversions arrival page
  have hstate := state_of_draw conversions hdraw
  rw [hpoll]
  generalize polledStatus conversions arrival page = data at hstate
  refine ⟨follows.inFlight, rfl, fun hbusy control => ?_, ?_, ?_⟩
  · have hbusy : page.actionInFlight = true := hbusy
    simp [shown, hbusy]
  · rintro _ ⟨⟩ hallows control hopen
    simp [shown, hallows, hstate] at hopen
    exact ⟨hopen.2.2, hopen.2.1⟩
  · rintro _ ⟨⟩ hallows hidle control
    have hidle : page.actionInFlight = false := hidle
    simp [shown, hallows, hidle]

/-- The end of a command gives the controls back as the status drawn last allows. -/
theorem follows_finish (allowed : page.serverAllowsControl = last.any allows) :
    Follows last (finish page) where
  inFlight := rfl
  allowed := allowed
  busy := nofun
  locked := by
    rintro data rfl hallows control hopen
    simp [finish, allowed, hallows, Json.isText] at hopen
  unlocked := by
    rintro data rfl hallows - control
    simp [finish, allowed, hallows]

/-- A change that leaves the controls and the command alone. -/
theorem Follows.congr (follows : Follows last page) {changed : Dashboard}
    (inFlight : changed.actionInFlight = page.actionInFlight)
    (waits : changed.waits.isSome = page.waits.isSome)
    (allowed : changed.serverAllowsControl = page.serverAllowsControl)
    (controls : changed.controls = page.controls) : Follows last changed where
  inFlight := by rw [inFlight, waits, follows.inFlight]
  allowed := allowed.trans follows.allowed
  busy := by
    rw [inFlight, controls]
    exact follows.busy
  locked := by
    rw [controls]
    exact follows.locked
  unlocked := by
    rw [inFlight, controls]
    exact follows.unlocked

/-- A click begins nothing while a command is on its way; otherwise a command is sent, or what
was thrown instead is shown. -/
theorem runAction_cases (button : PageButton) (page : Dashboard) :
    (page.actionInFlight = true ∧ runAction button page = (none, page)) ∨
      (page.actionInFlight = false ∧ ∃ thrown,
        runAction button page = (none, fail thrown page.begun)) ∨
      (page.actionInFlight = false ∧ ∃ sent, page.post button = .ok sent ∧
        runAction button page = (some sent, { page.begun with waits := some .answer })) := by
  cases hflight : page.actionInFlight with
  | true => exact .inl ⟨rfl, by rw [runAction, if_pos hflight]⟩
  | false =>
      have hpost : page.begun.post button = page.post button := rfl
      rw [runAction, if_neg (by simp [hflight]), hpost]
      cases page.post button with
      | error thrown => exact .inr (.inl ⟨rfl, thrown, rfl⟩)
      | ok sent => exact .inr (.inr ⟨rfl, sent, rfl, rfl⟩)

/-- Nothing of the page that a command or a drawing changes was changed, and it does not say of
more duties than before that they are in force. -/
structure Untouched (page after : Dashboard) : Prop where
  actionInFlight : after.actionInFlight = page.actionInFlight
  waits : after.waits = page.waits
  serverAllowsControl : after.serverAllowsControl = page.serverAllowsControl
  controls : after.controls = page.controls
  drawing : after.drawing = page.drawing
  notice : ∀ {requested effective verified},
    after.notice = .applied requested effective verified →
      page.notice = .applied requested effective verified

theorem Untouched.refl (page : Dashboard) : page.Untouched page :=
  ⟨rfl, rfl, rfl, rfl, rfl, id⟩

/-- The event is not one that the page waits for. -/
def Unheeded (page : Dashboard) : DashboardEvent → Prop
  | .polled _ => page.polls = 0
  | .answered _ => page.waits ≠ some .answer
  | .refreshed _ => page.waits ≠ some .refresh
  | _ => True

/-- What one event does: a click runs its action, an answer or a status that the page waits for
is taken up, and everything else leaves the page untouched. -/
theorem step_cases {page after : Dashboard} {event : DashboardEvent}
    {sent : Option (Core.Route × ApiRequest)} (h : step conversions page event = (sent, after)) :
    (∃ button, event = .clicked button ∧ (page.controls (.button button)).disabled = false ∧
      Dashboard.runAction button page = (sent, after)) ∨
    (∃ answer, event = .answered answer ∧ page.waits = some .answer ∧ sent = none ∧
      after = Dashboard.resume conversions answer page) ∨
    (∃ arrival, event = .polled arrival ∧ page.polls ≠ 0 ∧ sent = none ∧
      after = { Dashboard.poll conversions arrival page with polls := page.polls - 1 }) ∨
    (∃ arrival, event = .refreshed arrival ∧ page.waits = some .refresh ∧ sent = none ∧
      after = finish (Dashboard.poll conversions arrival page)) ∨
    (sent = none ∧ page.Untouched after ∧ page.Unheeded event) := by
  cases event with
  | interval =>
      cases h
      exact .inr (.inr (.inr (.inr ⟨rfl, ⟨rfl, rfl, rfl, rfl, rfl, id⟩, trivial⟩)))
  | polled arrival =>
      rw [Dashboard.step] at h
      split at h
      next hpolls =>
        cases h
        exact .inr (.inr (.inr (.inr ⟨rfl, .refl page, hpolls⟩)))
      next hpolls =>
        cases h
        exact .inr (.inr (.inl ⟨arrival, rfl, hpolls, rfl, rfl⟩))
  | slid duty =>
      rw [Dashboard.step] at h
      split at h
      · cases h
        exact .inr (.inr (.inr (.inr ⟨rfl, .refl page, trivial⟩)))
      · cases h
        exact .inr (.inr (.inr (.inr ⟨rfl, ⟨rfl, rfl, rfl, rfl, rfl, id⟩, trivial⟩)))
  | chose ttl =>
      rw [Dashboard.step] at h
      split at h
      · cases h
        exact .inr (.inr (.inr (.inr ⟨rfl, .refl page, trivial⟩)))
      · cases h
        exact .inr (.inr (.inr (.inr ⟨rfl, ⟨rfl, rfl, rfl, rfl, rfl, id⟩, trivial⟩)))
  | saved value =>
      cases h
      refine .inr (.inr (.inr (.inr ⟨rfl, ⟨rfl, rfl, rfl, rfl, rfl, fun hnotice => ?_⟩, trivial⟩)))
      -- the line is about the token then
      dsimp only at hnotice
      split at hnotice
      · cases hnotice
      · cases hnotice
  | clicked button =>
      rw [Dashboard.step] at h
      split at h
      next =>
        cases h
        exact .inr (.inr (.inr (.inr ⟨rfl, .refl page, trivial⟩)))
      next hopen => exact .inl ⟨button, rfl, Bool.eq_false_of_not_eq_true hopen, h⟩
  | answered answer =>
      rw [Dashboard.step] at h
      split at h
      next hwaits =>
        cases h
        exact .inr (.inl ⟨answer, rfl, hwaits, rfl, rfl⟩)
      next hwaits =>
        cases h
        exact .inr (.inr (.inr (.inr ⟨rfl, .refl page, hwaits⟩)))
  | refreshed arrival =>
      rw [Dashboard.step] at h
      split at h
      next hwaits =>
        cases h
        exact .inr (.inr (.inr (.inl ⟨arrival, rfl, hwaits, rfl, rfl⟩)))
      next hwaits =>
        cases h
        exact .inr (.inr (.inr (.inr ⟨rfl, .refl page, hwaits⟩)))

theorem Follows.runAction (follows : Follows last page) (button : PageButton) :
    Follows last (runAction button page).2 := by
  rcases runAction_cases button page with ⟨-, h⟩ | ⟨-, thrown, h⟩ | ⟨-, sent, -, h⟩
  · rw [h]
    exact follows
  · rw [h]
    exact follows_finish follows.allowed
  · rw [h]
    refine ⟨rfl, follows.allowed, fun _ control => ?_, ?_, nofun⟩
    · simp [begun]
    · rintro data - - control hopen
      simp [begun] at hopen

theorem Follows.resume (follows : Follows last page) (waits : page.waits = some .answer)
    (answer : Option PageAnswer) : Follows last (resume conversions answer page) := by
  rw [Dashboard.resume]
  split
  · exact follows_finish follows.allowed
  · split
    · exact follows_finish follows.allowed
    · refine follows.congr rfl ?_ rfl rfl
      rw [waits]
      rfl

/-- The status that was drawn last, after one more event. -/
def noteDrawn (last : Option (List (String × Json)))
    (record : Record Dashboard DashboardEvent (Option (Core.Route × ApiRequest))) :
    Option (List (String × Json)) :=
  match record.event with
  | .polled arrival =>
      if record.before.polls = 0 then last
      else some (polledStatus conversions arrival record.before)
  | .refreshed arrival =>
      if record.before.waits = some .refresh then
        some (polledStatus conversions arrival record.before)
      else last
  | _ => last

/-- The status that was drawn last in a history. -/
def lastDrawn
    (history : List (Record Dashboard DashboardEvent (Option (Core.Route × ApiRequest)))) :
    Option (List (String × Json)) :=
  history.foldl (noteDrawn conversions) none

/-- An event that is not waited for draws nothing. -/
theorem noteDrawn_of_unheeded {event : DashboardEvent} (unheeded : page.Unheeded event)
    (sent : Option (Core.Route × ApiRequest)) (after : Dashboard) :
    noteDrawn conversions last ⟨page, event, sent, after⟩ = last := by
  cases event with
  | polled arrival => exact if_pos unheeded
  | refreshed arrival => exact if_neg unheeded
  | _ => rfl

theorem Follows.step (follows : Follows last page) (event : DashboardEvent) :
    Follows
      (noteDrawn conversions last
        ⟨page, event, (step conversions page event).1, (step conversions page event).2⟩)
      (step conversions page event).2 := by
  cases hstep : Dashboard.step conversions page event with
  | mk sent after =>
      rcases step_cases conversions hstep with ⟨button, rfl, -, hrun⟩ |
        ⟨answer, rfl, hwaits, -, rfl⟩ | ⟨arrival, rfl, hpolls, -, rfl⟩ |
        ⟨arrival, rfl, hwaits, -, rfl⟩ | ⟨-, untouched, unheeded⟩
      · have hfollows := follows.runAction button
        rwa [hrun] at hfollows
      · exact follows.resume conversions hwaits answer
      · dsimp only [noteDrawn]
        rw [if_neg hpolls]
        exact (follows.poll conversions arrival).congr rfl rfl rfl rfl
      · dsimp only [noteDrawn]
        rw [if_pos hwaits]
        exact follows_finish (follows.poll conversions arrival).allowed
      · rw [noteDrawn_of_unheeded conversions unheeded]
        exact follows.congr untouched.actionInFlight (congrArg Option.isSome untouched.waits)
          untouched.serverAllowsControl untouched.controls

/-- In any history the page follows the status it drew last. -/
theorem Follows.finalState (follows : Follows last page) (events : List DashboardEvent) :
    Follows ((records (Dashboard.step conversions) page events).foldl (noteDrawn conversions) last)
      (finalState (Dashboard.step conversions) page events) := by
  induction events generalizing page last with
  | nil => exact follows
  | cons event rest ih => exact ih (follows.step conversions event)

/-- At any cut of a history the page follows the status drawn before it. -/
theorem follows_before {saved : List Char} {events : List DashboardEvent}
    {earlier later : List (Record Dashboard DashboardEvent (Option (Core.Route × ApiRequest)))}
    {record : Record Dashboard DashboardEvent (Option (Core.Route × ApiRequest))}
    (h : records (step conversions) (loaded saved) events = earlier ++ record :: later) :
    Follows (lastDrawn conversions earlier) record.before := by
  obtain ⟨first, hfirst, hbefore⟩ := before_of_records_eq_append_cons (step conversions) h
  rw [hbefore, lastDrawn, ← hfirst]
  exact (follows_loaded saved).finalState conversions first

@[simp]
theorem waits_poll (arrival : Option Json) (page : Dashboard) :
    (poll conversions arrival page).waits = page.waits := by
  obtain ⟨before, thresholds, drawing, -, hpoll⟩ := poll_eq conversions arrival page
  rw [hpoll]
  rfl

@[simp]
theorem waits_finish (page : Dashboard) : (finish page).waits = none := rfl

/-- What sends a command is a click on a button that is not locked, with no command on its
way; and then its answer is waited for. -/
theorem step_of_sent {page after : Dashboard} {event : DashboardEvent}
    {sent : Core.Route × ApiRequest} (h : step conversions page event = (some sent, after)) :
    ∃ button, event = .clicked button ∧ (page.controls (.button button)).disabled = false ∧
      page.actionInFlight = false ∧ page.post button = .ok sent ∧
      after.waits = some .answer := by
  rcases step_cases conversions h with ⟨button, hevent, hopen, hrun⟩ | ⟨_, -, -, hnone, -⟩ |
    ⟨_, -, -, hnone, -⟩ | ⟨_, -, -, hnone, -⟩ | ⟨hnone, -, -⟩
  · rcases runAction_cases button page with ⟨-, hrun'⟩ | ⟨-, thrown, hrun'⟩ |
      ⟨hidle, command, hpost, hrun'⟩
    · cases hrun'.symm.trans hrun
    · cases hrun'.symm.trans hrun
    · cases hrun'.symm.trans hrun
      exact ⟨button, hevent, hopen, hidle, hpost, rfl⟩
  all_goals cases hnone

/-- The record of a command being sent. -/
def sends (record : Record Dashboard DashboardEvent (Option (Core.Route × ApiRequest))) : Bool :=
  record.outcome.isSome

/-- The record of a command being answered, or failing to be. -/
def settles (record : Record Dashboard DashboardEvent (Option (Core.Route × ApiRequest))) :
    Bool :=
  match record.event with
  | .answered _ => record.before.waits = some .answer
  | _ => false

/-- The number of commands on their way. -/
def outstanding (page : Dashboard) : ℕ := if page.waits = some .answer then 1 else 0

/-- A step takes up the commands it sends, and lays down those that are answered. -/
theorem outstanding_step {last : Option (List (String × Json))} {page : Dashboard}
    (follows : Follows last page) (event : DashboardEvent) :
    (if settles ⟨page, event, (step conversions page event).1, (step conversions page event).2⟩
        then 1 else 0) + outstanding (step conversions page event).2 =
      outstanding page +
        if sends ⟨page, event, (step conversions page event).1, (step conversions page event).2⟩
        then 1 else 0 := by
  have hidle (hflight : page.actionInFlight = false) : page.waits = none := by
    simpa [hflight] using follows.inFlight.symm
  cases hstep : step conversions page event with
  | mk sent after =>
      rcases step_cases conversions hstep with ⟨button, rfl, -, hrun⟩ |
        ⟨answer, rfl, hwaits, rfl, rfl⟩ | ⟨arrival, rfl, -, rfl, rfl⟩ |
        ⟨arrival, rfl, hwaits, rfl, rfl⟩ | ⟨rfl, untouched, unheeded⟩
      · rcases runAction_cases button page with ⟨-, hrun'⟩ | ⟨hflight, thrown, hrun'⟩ |
          ⟨hflight, command, -, hrun'⟩
        · cases hrun'.symm.trans hrun
          simp [settles, sends, outstanding]
        · cases hrun'.symm.trans hrun
          simp [settles, sends, outstanding, fail, hidle hflight]
        · cases hrun'.symm.trans hrun
          simp [settles, sends, outstanding, hidle hflight]
      · have hafter : (resume conversions answer page).waits ≠ some .answer := by
          rw [resume]
          split
          · simp [fail]
          · split <;> simp [fail]
        simp [settles, sends, outstanding, hwaits, hafter]
      · simp [settles, sends, outstanding]
      · simp [settles, sends, outstanding, hwaits]
      · have hsettles : settles ⟨page, event, none, after⟩ = false := by
          cases event with
          | answered answer => exact decide_eq_false unheeded
          | _ => rfl
        simp [hsettles, sends, outstanding, untouched.waits]

/-- In any history of polls, clicks, answers and failures the page has at most one command on
its way: all it sent but that one have been answered or have failed. While it has one, or polls
after it, every control is locked; and nothing else locks the page for good. -/
theorem one_command_at_a_time (saved : List Char) (events : List DashboardEvent) :
    (records (step conversions) (loaded saved) events).countP sends =
        (records (step conversions) (loaded saved) events).countP settles +
          outstanding (finalState (step conversions) (loaded saved) events) ∧
      ((finalState (step conversions) (loaded saved) events).actionInFlight = true ↔
        (finalState (step conversions) (loaded saved) events).waits ≠ none) ∧
      ((finalState (step conversions) (loaded saved) events).waits ≠ none → ∀ control,
        ((finalState (step conversions) (loaded saved) events).controls control).disabled =
          true) := by
  have hbalance := countP_balance (step conversions) (fun page => ∃ last, Follows last page)
    outstanding sends settles
    (fun page event ⟨_, follows⟩ => ⟨_, follows.step conversions event⟩)
    (fun page event ⟨_, follows⟩ => outstanding_step conversions follows event)
    ⟨none, follows_loaded saved⟩ events
  have follows := (follows_loaded saved).finalState conversions events
  have hflight : (finalState (step conversions) (loaded saved) events).actionInFlight = true ↔
      (finalState (step conversions) (loaded saved) events).waits ≠ none := by
    rw [follows.inFlight, Option.isSome_iff_ne_none]
  refine ⟨?_, hflight, fun hwaits => follows.busy (hflight.mpr hwaits)⟩
  have hnone : outstanding (loaded saved) = 0 := rfl
  omega

/-- In any history, between commands every control but the emergency button is unlocked exactly
if the status drawn last allows control; the emergency button is unlocked if it does, and locked
if it does not and the status is not hot. -/
theorem controls_follow_status (saved : List Char) (events : List DashboardEvent) :
    ∀ data, lastDrawn conversions (records (step conversions) (loaded saved) events) = some data →
      (finalState (step conversions) (loaded saved) events).waits = none → ∀ control,
        (allows data = true →
          ((finalState (step conversions) (loaded saved) events).controls control).disabled =
            false) ∧
        (allows data = false → (isEmergency control && (stateOf data).isText "hot") = false →
          ((finalState (step conversions) (loaded saved) events).controls control).disabled =
            true) := by
  intro data hdata hwaits control
  have follows := (follows_loaded saved).finalState conversions events
  have hidle : (finalState (step conversions) (loaded saved) events).actionInFlight = false := by
    rw [follows.inFlight, hwaits]
    rfl
  refine ⟨fun hallows => follows.unlocked data hdata hallows hidle control, fun hallows hcold => ?_⟩
  by_contra hopen
  obtain ⟨hemergency, hhot⟩ := follows.locked data hdata hallows control
    (Bool.eq_false_of_not_eq_true hopen)
  simp [hemergency, hhot] at hcold

/-- Conversions that yield nothing of interest. -/
def noConversions : Conversions := ⟨fun _ => "", fun _ => .nan⟩

/-- A status that allows control. -/
def allowing : Json := .object [("pwm_control_enabled", .bool true)]

theorem controls_follow_status_of_allowing :
    ((finalState (step noConversions) (loaded []) [.polled (some allowing)]).controls
      .slider).disabled = false :=
  (controls_follow_status noConversions [] [.polled (some allowing)] _ rfl rfl .slider).1 rfl

/-! ## What is sent -/

/-- The command a button stands for. -/
def command (page : Dashboard) : PageButton → AgentCall
  | .apply => .requestControl page.duty.1 page.ttl.seconds
  | .profile profile => .requestProfile profile.name page.ttl.seconds

theorem seconds_bounds (ttl : PageTtl) : 1 ≤ ttl.seconds ∧ ttl.seconds ≤ 900 := by
  cases ttl <;> decide

theorem inRange_command (page : Dashboard) (button : PageButton) :
    Core.InRange (page.command button) := by
  cases button with
  | apply => exact .requestControl page.duty.2 (seconds_bounds page.ttl)
  | profile profile =>
      refine .requestProfile ?_ (seconds_bounds page.ttl)
      cases profile <;> decide

theorem controlVerdict_request (page : Dashboard) :
    Core.controlVerdict (page.request .apply) = .passesOn (page.command .apply) := by
  have hduty : Core.integerBetween 22 100 (.int page.duty.1) = some page.duty.1 :=
    if_pos page.duty.2
  have httl : Core.integerBetween 1 900 (.int page.ttl.seconds) = some page.ttl.seconds :=
    if_pos (seconds_bounds page.ttl)
  have hbody : Core.validatedControlBody (page.request .apply) =
      .ok (page.duty.1, page.ttl.seconds) := by
    rw [Core.validatedControlBody_of_members rfl]
    have hget : Json.get [("duty_percent", Json.int page.duty.1),
        ("ttl_seconds", .int page.ttl.seconds)] "duty_percent" = .int page.duty.1 := rfl
    have hgetOr : Json.getOr [("duty_percent", Json.int page.duty.1),
        ("ttl_seconds", .int page.ttl.seconds)] "ttl_seconds" (.int 300) =
        .int page.ttl.seconds := rfl
    rw [hget, hduty, hgetOr, httl]
    rfl
  rw [Core.controlVerdict, hbody, command]

theorem profileVerdict_request (page : Dashboard) (profile : PageProfile) :
    Core.profileVerdict profile.name (page.request (.profile profile)) =
      .passesOn (page.command (.profile profile)) := by
  have httl : Core.integerBetween 1 900 (.int page.ttl.seconds) = some page.ttl.seconds :=
    if_pos (seconds_bounds page.ttl)
  have hknown : profile.name ∈ ["quiet", "cooling", "emergency"] := by
    cases profile <;> decide
  have hbody : Core.bodyMembers (page.request (.profile profile)) =
      .ok [("ttl_seconds", .int page.ttl.seconds)] := rfl
  rw [Core.profileVerdict, if_pos hknown, hbody, command]
  simp [Json.getOr, httl]

/-- With write access the route passes the command of the button on: its request is never
refused for what it asks. -/
theorem verdict_request {Remote : Type} (lower : String → String) (core : Core Remote)
    (page : Dashboard) (button : PageButton) :
    (route button).verdict lower core (page.request button) =
      core.checked (page.request button) (.passesOn (page.command button)) := by
  cases button with
  | apply => rw [route, Core.Route.verdict, controlVerdict_request]
  | profile profile => rw [route, Core.Route.verdict, profileVerdict_request]

/-- What the request asks for is the command of the button. -/
theorem command_request (lower : String → String) (page : Dashboard) (button : PageButton) :
    (route button).command lower (page.request button) = some (page.command button) := by
  cases button with
  | apply =>
      rw [route, Core.Route.command, controlVerdict_request]
      rfl
  | profile profile =>
      rw [route, Core.Route.command, profileVerdict_request]
      rfl

theorem post_eq_ok {button : PageButton} {sent : Core.Route × ApiRequest}
    (h : page.post button = .ok sent) :
    page.token ≠ [] ∧ sent = (route button, page.request button) := by
  rw [post] at h
  split at h
  · cases h
  next htoken =>
    split at h
    · exact ⟨htoken, (Except.ok.inj h).symm⟩
    · cases h

/-- The status allows the button: any, or the emergency one while it is hot. -/
def Permits (data : List (String × Json)) (button : PageButton) : Prop :=
  allows data = true ∨ button = .profile .emergency ∧ (stateOf data).isText "hot" = true

/-- The page is as it was loaded, with its buttons open on no status's word, or the status drawn
last allows the button. -/
def Warranted (last : Option (List (String × Json))) (button : PageButton) : Prop :=
  last = none ∨ ∃ data, last = some data ∧ Permits data button

theorem Follows.warranted (follows : Follows last page) {button : PageButton}
    (hopen : (page.controls (.button button)).disabled = false) : Warranted last button := by
  cases last with
  | none => exact .inl rfl
  | some data =>
      refine .inr ⟨data, rfl, ?_⟩
      cases hallows : allows data with
      | true => exact .inl hallows
      | false =>
          obtain ⟨hemergency, hhot⟩ := follows.locked data rfl hallows _ hopen
          exact .inr ⟨by simpa [isEmergency] using hemergency, hhot⟩

/-- In any history a command is sent only by a click on a button that is enabled, with no other
command on its way, and before a status was drawn or on the word of the one drawn last; it
carries the token, and to whoever has write access it is one the core passes on. -/
theorem sends_permitted (saved : List Char) (events : List DashboardEvent)
    (earlier later : List (Record Dashboard DashboardEvent (Option (Core.Route × ApiRequest))))
    (record : Record Dashboard DashboardEvent (Option (Core.Route × ApiRequest)))
    (history : records (step conversions) (loaded saved) events = earlier ++ record :: later)
    (sent : Core.Route × ApiRequest) (sending : record.outcome = some sent) :
    ∃ button, record.event = .clicked button ∧
      (record.before.controls (.button button)).disabled = false ∧ record.before.waits = none ∧
      Warranted (lastDrawn conversions earlier) button ∧ record.before.token ≠ [] ∧
      Core.InRange (record.before.command button) ∧
      ∀ {Remote : Type} (lower : String → String) (core : Core Remote),
        sent.1.verdict lower core sent.2 =
          core.checked sent.2 (.passesOn (record.before.command button)) := by
  have follows := follows_before conversions history
  have hmem : record ∈ records (step conversions) (loaded saved) events := by
    rw [history]
    exact List.mem_append_right _ List.mem_cons_self
  have hstep := step_of_mem_records (step conversions) hmem
  rw [sending] at hstep
  obtain ⟨button, hevent, hopen, hidle, hpost, -⟩ := step_of_sent conversions hstep
  have hwaits : record.before.waits = none := by
    simpa [hidle] using follows.inFlight.symm
  obtain ⟨htoken, rfl⟩ := post_eq_ok hpost
  exact ⟨button, hevent, hopen, hwaits, follows.warranted hopen, htoken, inRange_command _ button,
    fun lower core => verdict_request lower core record.before button⟩

/-- A click on the button that applies a duty, once the status allows it. -/
def allowedClick : List DashboardEvent := [.polled (some allowing), .clicked .apply]

theorem sends_permitted_of_allowedClick :
    ∃ first second,
      records (step noConversions) (loaded "token".toList) allowedClick = [first, second] ∧
        Permits allowing.membersOf .apply := by
  refine ⟨_, _, rfl, ?_⟩
  obtain ⟨button, hevent, -, -, hwarranted, -⟩ := sends_permitted noConversions "token".toList
    allowedClick [_] [] _ rfl _ rfl
  cases hevent
  rcases hwarranted with hnone | ⟨data, hdata, hpermits⟩
  · cases hnone
  · cases hdata
    exact hpermits

end Dashboard

end TrueFan
