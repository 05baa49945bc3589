/-
# The dashboard

The page polls the status of the core, draws it, and offers the controls the status allows; a
button posts a command and the page then polls once more. Requests, answers and clicks come in
any order: polls overlap each other and the command, of which there is one at a time.

One event of the model is one task of the browser together with the microtasks it leaves, so
whatever the script does between two waits is one step. Texts that only explain (titles,
badges, the clock) are kept as what they are made from.
-/

import TrueFan.Core.Server
import TrueFan.Page.Values
import TrueFan.Policy.State

namespace TrueFan

open Python

/-- The profiles the page has a button for. -/
inductive PageProfile
  | quiet
  | cooling
  | emergency
  deriving DecidableEq, Repr

/-- `data-profile` of the button. -/
def PageProfile.name : PageProfile → String
  | .quiet => "quiet"
  | .cooling => "cooling"
  | .emergency => "emergency"

/-- The buttons that post a command. -/
inductive PageButton
  | apply
  | profile (profile : PageProfile)
  deriving DecidableEq, Repr

/-- The controls that are locked and unlocked together. -/
inductive PageControl
  | slider
  | ttl
  | button (button : PageButton)
  deriving DecidableEq, Repr

/-- The lifetimes the page offers. -/
inductive PageTtl
  | oneMinute
  | fiveMinutes
  | tenMinutes
  | fifteenMinutes
  deriving DecidableEq, Repr

/-- The value of the option. -/
def PageTtl.seconds : PageTtl → ℤ
  | .oneMinute => 60
  | .fiveMinutes => 300
  | .tenMinutes => 600
  | .fifteenMinutes => 900

/-- The colour of a temperature. -/
inductive Tier
  | cool
  | warm
  | hot
  deriving DecidableEq, Repr

/-- What a control says on hovering: why it is locked, or that it alone is not. -/
inductive ControlTitle
  | locked (reason : Json)
  | onlyAccepted

/-- A control as the page shows it. -/
structure ControlView where
  disabled : Bool
  title : Option ControlTitle

/-- A temperature card: nothing, or a number and its colour. -/
abbrev Card := Option (FiniteFloat × Tier)

/-- A row of the drives: the name, the number it shows if it is finite, and the colour. -/
structure DriveRow where
  name : Json
  value : PyFloat
  tier : Tier

/-- What is drawn of a status. -/
structure Drawing where
  state : Json
  reason : Json
  duty : Option FiniteFloat
  mode : Json
  agentOnline : Bool
  backend : Json
  maxDrive : Card
  cpu : Card
  nvme : Card
  avgDrive : Card
  drives : List DriveRow
  fans : List (String × Json)

/-- The line below the controls. -/
inductive Notice
  | none
  | tokenActive
  | tokenCleared
  | applying
  | applied (requested effective : Json) (verified : Bool)
  | failed (thrown : Thrown)

/-- What `runAction` waits for: the answer to its command, or the poll after it. -/
inductive PageWait
  | answer
  | refresh
  deriving DecidableEq, Repr

/-- An answer to a command: its status code, and its body, an empty object if that is no JSON. -/
structure PageAnswer where
  statusCode : ℤ
  body : Json

/-- The page. -/
structure Dashboard where
  thresholds : Json
  drawing : Option Drawing
  serverAllowsControl : Bool
  actionInFlight : Bool
  controls : PageControl → ControlView
  token : List Char
  duty : DutyPercent
  ttl : PageTtl
  notice : Notice
  waits : Option PageWait
  polls : ℕ

/-- What can happen to the page. A status or an answer that fails to arrive, in whatever way,
is none. -/
inductive DashboardEvent
  | interval
  | polled (arrival : Option Json)
  | slid (duty : DutyPercent)
  | chose (ttl : PageTtl)
  | saved (value : List Char)
  | clicked (button : PageButton)
  | answered (answer : Option PageAnswer)
  | refreshed (arrival : Option Json)

namespace Dashboard

/-- `DEFAULT_THRESHOLDS`. -/
def defaultThresholds : List (String × Json) :=
  [("max_drive_c", .object [("warm", .int 46), ("hot", .int 50)]),
    ("cpu_c", .object [("warm", .int 61), ("hot", .int 70)]),
    ("board_c", .object [("warm", .int 55), ("hot", .int 70)]),
    ("nvme_c", .object [("warm", .int 60), ("hot", .int 75)])]

/-- What `trim` takes away. -/
def isBlank (c : Char) : Bool :=
  c.toNat ∈ [0x09, 0x0a, 0x0b, 0x0c, 0x0d, 0x20, 0xa0, 0x1680, 0x2028, 0x2029, 0x202f, 0x205f,
    0x3000, 0xfeff] || (0x2000 ≤ c.toNat && c.toNat ≤ 0x200a)

/-- `value.trim()`. -/
def trim (value : List Char) : List Char :=
  ((value.dropWhile isBlank).reverse.dropWhile isBlank).reverse

/-- Where the slider stands in the document. -/
theorem slider_mem_range : (22 : ℤ) ≤ 50 ∧ (50 : ℤ) ≤ 100 := by decide

/-- The page once its script has run and asked for a first status: the controls are as the
document has them, and the token is one this tab saved before, or empty. -/
def loaded (saved : List Char) : Dashboard where
  thresholds := .object defaultThresholds
  drawing := none
  serverAllowsControl := false
  actionInFlight := false
  controls _ := ⟨false, none⟩
  token := trim saved
  duty := ⟨50, slider_mem_range⟩
  ttl := .fiveMinutes
  notice := .none
  waits := none
  polls := 1

/-! ## Drawing -/

section Draw

variable (conversions : Conversions)

/-- `tier`. -/
def tier (thresholds : Json) (sensorKey : String) (value : PyFloat) : Except Thrown Tier := do
  let bounds := ((Json.get thresholds.membersOf sensorKey).orOther
    (Json.get defaultThresholds sensorKey)).membersOf
  let hot ← conversions.memberNumber bounds "hot"
  if PyFloat.lt hot value then return .hot
  else
    let warm ← conversions.memberNumber bounds "warm"
    if PyFloat.le warm value then return .warm
    else return .cool

/-- `temperature`. -/
def temperature (thresholds : Json) (sensorKey : String) (value : Json) : Except Thrown Card := do
  match ← conversions.finiteNumber value with
  | none => return none
  | some x => return some (x, ← tier conversions thresholds sensorKey (.finite x))

/-- The members of a drive; reading one of null throws. -/
def driveMembers : Json → Except Thrown (List (String × Json))
  | .null => .error .typeError
  | drive => .ok drive.membersOf

/-- `/^nvme/i.test(d.name || "")`. -/
def isNvme (drive : Json) : Except Thrown Bool := do
  let name ← conversions.toText ((Json.get (← driveMembers drive) "name").orOther (.str ""))
  return "nvme".toList.isPrefixOf (lowerAscii name.toList)

/-- `Number(drive.temperature_c)`. -/
def driveNumber (drive : Json) : Except Thrown PyFloat := do
  conversions.memberNumber (← driveMembers drive) "temperature_c"

/-- A sum of the script. -/
def plus : PyFloat → PyFloat → PyFloat
  | .finite first, .finite second => .ofRat (first.value + second.value)
  | .finite _, second => second
  | first, .finite _ => first
  | .posInf, .posInf => .posInf
  | .negInf, .negInf => .negInf
  | _, _ => .nan

/-- The mean temperature of the spinning drives. -/
def averageDrive (drives : List Json) : Except Thrown (Option PyFloat) := do
  let named ← drives.mapM fun drive => return (drive, ← isNvme conversions drive)
  let numbers ← ((named.filter fun drive => !drive.2).map Prod.fst).mapM (driveNumber conversions)
  let finite := numbers.filter fun number => number matches .finite _
  if finite.isEmpty then return none
  return some ((finite.foldl plus PyFloat.zero).divNat finite.length)

/-- `telemetryRow` of a drive. -/
def driveRow (thresholds : Json) (drive : Json) : Except Thrown DriveRow := do
  let value ← driveNumber conversions drive
  let name := (Json.get (← driveMembers drive) "name").orOther (.str "unknown")
  let _ ← conversions.toText name
  return ⟨name, value, ← tier conversions thresholds "max_drive_c" value⟩

/-- The card of the mean, which is a number or nothing. -/
def averageCard (thresholds : Json) : Option PyFloat → Except Thrown Card
  | some (.finite x) =>
      return some (x, ← tier conversions thresholds "max_drive_c" (.finite x))
  | _ => return none

/-- What `render` draws before it turns to the controls. -/
def draw (thresholds : Json) (data : List (String × Json)) : Except Thrown Drawing := do
  let backend := (Json.get data "backend").membersOf
  let safety := (Json.get data "safety").membersOf
  let temperatures := (Json.get backend "temperatures").membersOf
  let state := (Json.get safety "state").orOther (.str "unknown")
  let _ ← conversions.toText state
  let reason := (Json.get safety "reason").orOther (.str "Awaiting safety evaluation")
  let _ ← conversions.toText reason
  let duty ← conversions.finiteNumber (Json.get backend "duty_percent")
  let mode := (Json.get backend "mode").orOther (.str "unknown")
  let _ ← conversions.toText mode
  let name := (Json.get backend "backend").orOther (.str "unknown")
  let _ ← conversions.toText name
  let maxDrive ← temperature conversions thresholds "max_drive_c"
    (Json.get temperatures "max_drive_c")
  let cpu ← temperature conversions thresholds "cpu_c" (Json.get temperatures "cpu_c")
  let nvme ← temperature conversions thresholds "nvme_c" (Json.get temperatures "nvme_c")
  let drives := (Json.get data "drives").arrayItems
  let avgDrive ← averageCard conversions thresholds (← averageDrive conversions drives)
  let rows ← drives.mapM (driveRow conversions thresholds)
  let fans := (Json.get backend "fan_rpms").entries
  let _ ← fans.mapM fun fan => conversions.toText fan.2
  return { state, reason, duty, mode, agentOnline := (Json.get data "agent_available").holds,
           backend := name, maxDrive, cpu, nvme, avgDrive, drives := rows, fans }

end Draw

/-- `isEmergency`. -/
def isEmergency (control : PageControl) : Bool := control = .button (.profile .emergency)

/-- `updateControlAvailability`. -/
def updateControlAvailability (enabled : Bool) (reason safetyState : Json) (page : Dashboard) :
    Dashboard :=
  let disabled := !enabled || page.actionInFlight
  let hotLocked := disabled && safetyState.isText "hot" && !page.actionInFlight
  { page with
    serverAllowsControl := enabled
    controls := fun control =>
      if disabled && !(hotLocked && isEmergency control) then ⟨true, some (.locked reason)⟩
      else if hotLocked && isEmergency control then ⟨false, some .onlyAccepted⟩
      else ⟨false, none⟩ }

/-- The thresholds the page goes by after a status: those it brings, if it brings any. -/
def adopt (thresholds : Json) (data : List (String × Json)) : Json :=
  match Json.get data "thresholds" with
  | .object [] => thresholds
  | .object members => .object members
  | .array [] => thresholds
  | .array items => .array items
  | _ => thresholds

/-- The status allows control. -/
def allows (data : List (String × Json)) : Bool :=
  (Json.get data "pwm_control_enabled").isTrue &&
    !(Json.get (Json.get data "safety").membersOf "controls_locked").isTrue

/-- Why the controls are locked. -/
def lockReason (data : List (String × Json)) : Json :=
  let safety := (Json.get data "safety").membersOf
  if (Json.get safety "controls_locked").isTrue then (Json.get safety "reason").orOther (.str "")
  else .str "Agent offline"

/-- `render` of a drawing that succeeded. -/
def shown (drawing : Drawing) (data : List (String × Json)) (page : Dashboard) : Dashboard :=
  updateControlAvailability (allows data) (lockReason data) drawing.state
    { page with drawing := some drawing }

/-- The status `poll` draws if it got none, or could not draw it. -/
def unavailable : List (String × Json) :=
  [("agent_available", .bool false), ("pwm_control_enabled", .bool false), ("backend", .object []),
    ("safety", .object [("state", .str "sensor-failure"), ("reason", .str "status unavailable"),
      ("controls_locked", .bool true)]),
    ("drives", .array [])]

/-- `render`, which has taken the thresholds over before it throws. -/
def render (conversions : Conversions) (payload : Json) (page : Dashboard) :
    Except Thrown Unit × Dashboard :=
  let data := payload.membersOf
  let page := { page with thresholds := adopt page.thresholds data }
  match draw conversions page.thresholds data with
  | .ok drawing => (.ok (), shown drawing data page)
  | .error thrown => (.error thrown, page)

/-- `poll` from the arrival of its status on. -/
def poll (conversions : Conversions) (arrival : Option Json) (page : Dashboard) : Dashboard :=
  match arrival with
  | none => (render conversions (.object unavailable) page).2
  | some payload =>
      match render conversions payload page with
      | (.ok _, page) => page
      | (.error _, page) => (render conversions (.object unavailable) page).2

/-! ## Commands -/

/-- `fetch` takes the header: one byte for each character, and no line ends or zeros. -/
def isHeaderValue (value : List Char) : Bool :=
  value.all fun c => c.toNat < 256 && c != '\n' && c != '\r' && c.toNat != 0

/-- The route a button posts to. -/
def route : PageButton → Core.Route
  | .apply => .apiControl
  | .profile profile => .apiProfile profile.name

/-- The request it posts. -/
def request (page : Dashboard) : PageButton → ApiRequest
  | .apply =>
      ⟨Core.bearer ++ page.token,
        .object [("duty_percent", .int page.duty.1), ("ttl_seconds", .int page.ttl.seconds)]⟩
  | .profile _ => ⟨Core.bearer ++ page.token, .object [("ttl_seconds", .int page.ttl.seconds)]⟩

/-- `post` up to its request: what is sent, or thrown. -/
def post (page : Dashboard) (button : PageButton) : Except Thrown (Core.Route × ApiRequest) :=
  if page.token = [] then .error (.error "Enter the UI write token for this tab first.")
  else if isHeaderValue page.token then .ok (route button, page.request button)
  else .error .typeError

/-- The message of a refused command. -/
def refusal (conversions : Conversions) (answer : PageAnswer) : Thrown :=
  let message := Json.get (Json.get answer.body.membersOf "error").membersOf "message"
  if message.holds then
    match conversions.toText message with
    | .ok text => .error text
    | .error thrown => thrown
  else .error ("Control request failed (HTTP " ++ toString answer.statusCode ++ ")")

/-- `post` from its answer on. -/
def settle (conversions : Conversions) : Option PageAnswer → Except Thrown Json
  | none => .error .typeError
  | some answer =>
      if 200 ≤ answer.statusCode ∧ answer.statusCode < 300 then
        if answer.body.isNull then .error .typeError
        else if (Json.get answer.body.membersOf "ok").isTrue then
          .ok ((Json.get answer.body.membersOf "data").orOther (.object []))
        else .error (refusal conversions answer)
      else .error (refusal conversions answer)

/-- The line about a command that succeeded. -/
def appliedNotice (conversions : Conversions) (result : Json) : Except Thrown Notice := do
  let requested := Json.get result.membersOf "requested_duty"
  let effective := Json.get result.membersOf "effective_duty"
  let _ ← conversions.toText requested
  let _ ← conversions.toText effective
  return .applied requested effective
    (Json.get (Json.get result.membersOf "readback").membersOf "verified").isTrue

/-- `finally` of `runAction`. -/
def finish (page : Dashboard) : Dashboard :=
  updateControlAvailability page.serverAllowsControl (.str "Controls locked") (.str "")
    { page with actionInFlight := false, waits := none }

/-- `catch` and `finally` of `runAction`. -/
def fail (thrown : Thrown) (page : Dashboard) : Dashboard :=
  finish { page with notice := .failed thrown }

/-- How `runAction` begins. -/
def begun (page : Dashboard) : Dashboard :=
  { updateControlAvailability page.serverAllowsControl (.str "Applying override") (.str "")
      { page with actionInFlight := true } with
    notice := .applying }

/-- `runAction` up to the request of its action. -/
def runAction (button : PageButton) (page : Dashboard) :
    Option (Core.Route × ApiRequest) × Dashboard :=
  if page.actionInFlight then (none, page)
  else
    match page.begun.post button with
    | .error thrown => (none, fail thrown page.begun)
    | .ok sent => (some sent, { page.begun with waits := some .answer })

/-- `runAction` from the answer to its command on. -/
def resume (conversions : Conversions) (answer : Option PageAnswer) (page : Dashboard) :
    Dashboard :=
  match settle conversions answer with
  | .error thrown => fail thrown page
  | .ok result =>
      match appliedNotice conversions result with
      | .error thrown => fail thrown page
      | .ok notice => { page with notice, waits := some .refresh }

/-- One task of the browser, and the command it sends. A control that is disabled gets no
events, and nothing arrives that is not waited for. -/
def step (conversions : Conversions) (page : Dashboard) :
    DashboardEvent → Option (Core.Route × ApiRequest) × Dashboard
  | .interval => (none, { page with polls := page.polls + 1 })
  | .polled arrival =>
      if page.polls = 0 then (none, page)
      else (none, { poll conversions arrival page with polls := page.polls - 1 })
  | .slid duty =>
      if (page.controls .slider).disabled then (none, page) else (none, { page with duty })
  | .chose ttl => if (page.controls .ttl).disabled then (none, page) else (none, { page with ttl })
  | .saved value =>
      (none, { page with token := trim value, notice := if trim value = [] then .tokenCleared
        else .tokenActive })
  | .clicked button =>
      if (page.controls (.button button)).disabled then (none, page) else runAction button page
  | .answered answer =>
      if page.waits = some .answer then (none, resume conversions answer page) else (none, page)
  | .refreshed arrival =>
      if page.waits = some .refresh then (none, finish (poll conversions arrival page))
      else (none, page)

end Dashboard

end TrueFan
