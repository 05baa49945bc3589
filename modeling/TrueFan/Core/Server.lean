/-
# The core's write routes

The core serves the dashboard and passes commands on to the control agent. Four routes
can make it do so, each with checks of its own: a command for a duty, a command for a
profile, and the two legacy routes that put a raw value or an old profile name in the
path. Routing and the decoding of the body are the web framework's; what reaches a
route is a path segment, the authorization header and a decoded body.

Lowering a text is left open: nothing here depends on what it does.
-/

import TrueFan.Duty
import TrueFan.Python.Effect
import TrueFan.Python.Json
import TrueFan.Python.Text

namespace TrueFan

open Python

/-- The exceptions a route raises or lets pass. -/
inductive CoreFailure
  | osError
  | valueError (message : String)
  | unicodeDecodeError (message : String)
  | typeError
  | attributeError
  | agentError
  deriving DecidableEq, Repr

/-- A call of the control agent. -/
inductive AgentCall
  | requestControl (dutyPercent ttlSeconds : ℤ)
  | requestProfile (profile : String) (ttlSeconds : ℤ)
  deriving DecidableEq, Repr

/-- What the client of the agent returns. -/
structure AgentResponse where
  ok : Bool
  statusCode : ℤ
  data : Json

/-- The envelope a route answers with. -/
structure ApiResponse where
  ok : Bool
  error : Json
  data : Json
  statusCode : ℤ

/-- What a route gets to see of a request. -/
structure ApiRequest where
  authorization : List Char
  body : Json

/-- The surroundings of the core: the variable that names the token file, empty if it is
not set, what reading a file comes to, and the agent behind its client. -/
structure Core (Agent : Type) where
  tokenFile : List Char
  readText : List Char → Except CoreFailure (List Char)
  agent : AgentCall → EStateM CoreFailure Agent AgentResponse

namespace Core

variable {Agent : Type}

/-- `_read_secret_file` of the UI write token. -/
def readSecretFile (core : Core Agent) : Except CoreFailure (Option (List Char)) :=
  let path := strip core.tokenFile
  if path = [] then .ok none
  else
    match core.readText path with
    | .ok content => .ok (if strip content = [] then none else some (strip content))
    | .error .osError => .ok none
    | .error error => .error error

/-- `secrets.compare_digest` of two texts, which takes ASCII only. -/
def compareDigest (presented expected : List Char) : Except CoreFailure Bool :=
  if (presented ++ expected).all fun c => c.toNat < 128 then .ok (presented = expected)
  else .error .typeError

/-- A refusal: code, message and status code. -/
structure Denial where
  code : String
  message : String
  statusCode : ℤ

/-- What the authorization header begins with. -/
def bearer : List Char := "Bearer ".toList

/-- `_require_write_access`: the refusal, unless access is allowed. -/
def requireWriteAccess (core : Core Agent) (request : ApiRequest) :
    Except CoreFailure (Option Denial) :=
  if bearer.isPrefixOf request.authorization = false then
    .ok (some ⟨"missing_token", "Missing Bearer token", 401⟩)
  else
    match core.readSecretFile with
    | .error error => .error error
    | .ok none =>
        .ok (some ⟨"write_auth_unavailable", "UI write authorization is not configured", 503⟩)
    | .ok (some expected) =>
        match compareDigest (strip (request.authorization.drop bearer.length)) expected with
        | .error error => .error error
        | .ok false => .ok (some ⟨"invalid_token", "Invalid token", 403⟩)
        | .ok true => .ok none

/-- `_api_result`. -/
def apiResult (ok : Bool) (error data : Json) (statusCode : ℤ) : ApiResponse where
  ok
  error
  data := if ok then data else .null
  statusCode

/-- `_error`. -/
def errorOf (code message : Json) : Json := .object [("code", code), ("message", message)]

/-- The answer to a request that is refused. -/
def failed (code message : String) (statusCode : ℤ) : ApiResponse :=
  apiResult false (errorOf (.str code) (.str message)) .null statusCode

/-- `status_code or otherwise`. -/
def statusOr (statusCode otherwise : ℤ) : ℤ := if statusCode = 0 then otherwise else statusCode

/-- `_proxy_agent`. -/
def proxyAgent (response : AgentResponse) : ApiResponse :=
  let unavailable := failed "control_agent_unavailable"
    "Control agent unavailable; monitoring-only mode" (statusOr response.statusCode 503)
  match if response.data.truthy then response.data else .object [] with
  | .object envelope =>
      if response.ok && (Json.get envelope "ok").isTrue then
        apiResult true .null (Json.get envelope "data") (statusOr response.statusCode 200)
      else
        match Json.get envelope "error" with
        | .object agentError =>
            apiResult false
              (errorOf (Json.getOr agentError "code" (.str "agent_error"))
                (Json.getOr agentError "message" (.str "Control request failed")))
              .null (statusOr response.statusCode 503)
        | _ => unavailable
  | _ => unavailable

/-- The value, if it is an integer between the bounds; a boolean is none. -/
def integerBetween (low high : ℤ) : Json → Option ℤ
  | .int value => if low ≤ value ∧ value ≤ high then some value else none
  | _ => none

/-- `request.get_json(silent=True) or {}`, of which a member is then asked for. -/
def bodyMembers (request : ApiRequest) : Except CoreFailure (List (String × Json)) :=
  match if request.body.truthy then request.body else .object [] with
  | .object members => .ok members
  | _ => .error .attributeError

/-- `_validated_control_body`. -/
def validatedControlBody (request : ApiRequest) : Except CoreFailure (ℤ × ℤ) := do
  let body ← bodyMembers request
  match integerBetween 22 100 (Json.get body "duty_percent") with
  | none => throw (.valueError "duty_percent must be an integer from 22 to 100")
  | some duty =>
      match integerBetween 1 900 (Json.getOr body "ttl_seconds" (.int 300)) with
      | none => throw (.valueError "ttl_seconds must be an integer from 1 to 900")
      | some ttl => return (duty, ttl)

theorem validatedControlBody_of_members {request : ApiRequest} {body : List (String × Json)}
    (h : bodyMembers request = .ok body) :
    validatedControlBody request =
      match integerBetween 22 100 (Json.get body "duty_percent") with
      | none => throw (.valueError "duty_percent must be an integer from 22 to 100")
      | some duty =>
          match integerBetween 1 900 (Json.getOr body "ttl_seconds" (.int 300)) with
          | none => throw (.valueError "ttl_seconds must be an integer from 1 to 900")
          | some ttl => return (duty, ttl) := by
  rw [validatedControlBody, h]
  rfl

abbrev Method (Agent α : Type) := EStateM CoreFailure Agent α

/-- Pass a call on to the agent. -/
def forward (core : Core Agent) (call : AgentCall) : Method Agent ApiResponse := do
  return proxyAgent (← core.agent call)

/-- What a route comes to before it asks the agent: it answers by itself, passes a command on, or
raises. -/
inductive Verdict
  | answers (response : ApiResponse)
  | passesOn (call : AgentCall)
  | raises (error : CoreFailure)

/-- The command a verdict passes on. -/
def Verdict.command : Verdict → Option AgentCall
  | .passesOn call => some call
  | .answers _ => none
  | .raises _ => none

/-- What follows from the verdict. -/
def Verdict.run (core : Core Agent) : Verdict → Method Agent ApiResponse
  | .answers response => return response
  | .passesOn call => core.forward call
  | .raises error => throw error

/-- How every route begins: without write access it ends there. -/
def checked (core : Core Agent) (request : ApiRequest) (rest : Verdict) : Verdict :=
  match core.requireWriteAccess request with
  | .error error => .raises error
  | .ok (some denial) => .answers (failed denial.code denial.message denial.statusCode)
  | .ok none => rest

/-- `api_control` behind the check of access. -/
def controlVerdict (request : ApiRequest) : Verdict :=
  match validatedControlBody request with
  | .ok (duty, ttl) => .passesOn (.requestControl duty ttl)
  | .error (.valueError message) => .answers (failed "invalid_request" message 400)
  | .error error => .raises error

/-- `api_profile` behind the check of access. -/
def profileVerdict (profile : String) (request : ApiRequest) : Verdict :=
  if profile ∈ ["quiet", "cooling", "emergency"] then
    match bodyMembers request with
    | .ok body =>
        match integerBetween 1 900 (Json.getOr body "ttl_seconds" (.int 300)) with
        | some ttl => .passesOn (.requestProfile profile ttl)
        | none =>
            .answers (failed "invalid_request" "ttl_seconds must be an integer from 1 to 900" 400)
    | .error error => .raises error
  else .answers (failed "unknown_profile" "Unknown profile" 400)

/-- `set_pwm` behind the check of access. -/
def pwmVerdict (value : String) : Verdict :=
  match (parseInt value.toList).filter fun raw => decide (0 ≤ raw ∧ raw ≤ 255) with
  | none => .answers (failed "invalid_request" "PWM must be from 0 to 255" 400)
  | some raw =>
      .passesOn (.requestControl (max 22 (min 100 (roundQuotient (raw * 100) 255))) 300)

/-- The old profile names. -/
def aliases : List (String × String) :=
  [("quiet", "quiet"), ("cool", "cooling"), ("cooling", "cooling"), ("aggressive", "emergency"),
    ("emergency", "emergency")]

/-- The routes that can reach the agent with a command. -/
inductive Route
  | apiControl
  | apiProfile (profile : String)
  | setPwm (value : String)
  | setProfile (profile : String)

/-- What `api_control`, `api_profile`, `set_pwm` and `set_profile` come to. -/
def Route.verdict (lower : String → String) (core : Core Agent) (request : ApiRequest) :
    Route → Verdict
  | .apiControl => core.checked request (controlVerdict request)
  | .apiProfile profile => core.checked request (profileVerdict profile request)
  | .setPwm value => core.checked request (pwmVerdict value)
  | .setProfile profile =>
      match aliases.lookup (lower profile) with
      | none => .answers (failed "unknown_profile" "Unknown profile" 400)
      | some mapped => core.checked request (profileVerdict mapped request)

/-- The command a request to a route asks for, whoever it is from. -/
def Route.command (lower : String → String) (request : ApiRequest) : Route → Option AgentCall
  | .apiControl => (controlVerdict request).command
  | .apiProfile profile => (profileVerdict profile request).command
  | .setPwm value => (pwmVerdict value).command
  | .setProfile profile =>
      (aliases.lookup (lower profile)).bind fun mapped => (profileVerdict mapped request).command

/-- The handler of a route. -/
def Route.handler (lower : String → String) (core : Core Agent) (request : ApiRequest)
    (route : Route) : Method Agent ApiResponse :=
  (route.verdict lower core request).run core

/-- A request as the application answers it: `handle_unexpected_error` takes what a route
lets pass. -/
def post (lower : String → String) (core : Core Agent) (route : Route) (request : ApiRequest) :
    Method Agent ApiResponse := fun agent =>
  match route.handler lower core request agent with
  | .ok response after => .ok response after
  | .error _ after => .ok (failed "internal_error" "Internal Server Error" 500) after

/-- A call that goes to the agent and leaves the record alone. -/
def unrecorded {α : Type} (method : Method Agent α) : Method (Agent × List AgentCall) α :=
  zoom Prod.fst (fun agent state => (agent, state.2)) method

/-- The core with a record of the calls of its agent, oldest first. -/
def recorded (core : Core Agent) : Core (Agent × List AgentCall) where
  tokenFile := core.tokenFile
  readText := core.readText
  agent call := do
    modify fun state => (state.1, state.2 ++ [call])
    unrecorded (core.agent call)

/-! ## What a route can have the agent do -/

/-- The header carries the content of the token file, which is not empty. -/
structure Authorised (core : Core Agent) (request : ApiRequest) : Prop where
  scheme : bearer <+: request.authorization
  token : ∃ content, core.readText (strip core.tokenFile) = .ok content ∧ strip content ≠ [] ∧
    strip (request.authorization.drop bearer.length) = strip content

/-- The command is one the agent may be asked for. -/
inductive InRange : AgentCall → Prop
  | requestControl {dutyPercent ttlSeconds : ℤ} (duty : 22 ≤ dutyPercent ∧ dutyPercent ≤ 100)
      (ttl : 1 ≤ ttlSeconds ∧ ttlSeconds ≤ 900) : InRange (.requestControl dutyPercent ttlSeconds)
  | requestProfile {profile : String} {ttlSeconds : ℤ}
      (known : profile ∈ ["quiet", "cooling", "emergency"])
      (ttl : 1 ≤ ttlSeconds ∧ ttlSeconds ≤ 900) : InRange (.requestProfile profile ttlSeconds)

/-- A command that is passed on is on record. -/
theorem recorded_forward (core : Core Agent) (call : AgentCall) (agent : Agent) :
    core.recorded.forward call (agent, []) =
      match core.agent call agent with
      | .ok answer after => .ok (proxyAgent answer) (after, [call])
      | .error error after => .error error (after, [call]) := by
  show (do return proxyAgent (← unrecorded (core.agent call)) : Method _ ApiResponse)
    (agent, [] ++ [call]) = _
  rw [unrecorded, bind_apply, zoom]
  dsimp only
  cases core.agent call agent with
  | ok answer after => rfl
  | error error after => rfl

/-- A command is passed on only in range and where the guard holds; an answer is a refusal with
one of the status codes of its own. -/
def Verdict.Sound (guard : Prop) : Verdict → Prop
  | .answers response => response.ok = false ∧ response.statusCode ∈ [400, 401, 403, 503]
  | .passesOn call => guard ∧ InRange call
  | .raises _ => True

theorem sound_failed {guard : Prop} (code message : String) {statusCode : ℤ}
    (h : statusCode ∈ [400, 401, 403, 503]) :
    Verdict.Sound guard (.answers (failed code message statusCode)) :=
  ⟨rfl, h⟩

theorem compareDigest_eq_true {presented expected : List Char}
    (h : compareDigest presented expected = .ok true) : presented = expected := by
  rw [compareDigest] at h
  split at h
  · exact of_decide_eq_true (Except.ok.inj h)
  · cases h

/-- A secret that was read is the content of the file, and not empty. -/
theorem readSecretFile_eq_some {core : Core Agent} {secret : List Char}
    (h : core.readSecretFile = .ok (some secret)) :
    ∃ content, core.readText (strip core.tokenFile) = .ok content ∧ strip content ≠ [] ∧
      secret = strip content := by
  rw [readSecretFile] at h
  split at h
  · cases h
  · split at h
    next content hread =>
      by_cases hempty : strip content = []
      · rw [if_pos hempty] at h
        cases h
      · rw [if_neg hempty] at h
        cases h
        exact ⟨content, hread, hempty, rfl⟩
    next => cases h
    next => cases h

/-- Access is allowed only to a request that is authorised. -/
theorem authorised_of_requireWriteAccess {core : Core Agent} {request : ApiRequest}
    (h : core.requireWriteAccess request = .ok none) : core.Authorised request := by
  rw [requireWriteAccess] at h
  split at h
  · cases h
  next hscheme =>
    split at h
    next => cases h
    next => cases h
    next expected hsecret =>
      split at h
      next => cases h
      next => cases h
      next hequal =>
        obtain ⟨content, hread, hne, rfl⟩ := readSecretFile_eq_some hsecret
        constructor
        · exact List.isPrefixOf_iff_prefix.mp (eq_true_of_ne_false hscheme)
        · exact ⟨content, hread, hne, compareDigest_eq_true hequal⟩

/-- A denial has a status code of its own. -/
theorem statusCode_of_requireWriteAccess {core : Core Agent} {request : ApiRequest}
    {denial : Denial} (h : core.requireWriteAccess request = .ok (some denial)) :
    denial.statusCode ∈ [400, 401, 403, 503] := by
  rw [requireWriteAccess] at h
  split at h
  next =>
    cases h
    decide
  next =>
    split at h
    next => cases h
    next =>
      cases h
      decide
    next =>
      split at h
      next => cases h
      next =>
        cases h
        decide
      next => cases h

/-- A verdict behind the access check is guarded by it. -/
theorem sound_checked (core : Core Agent) {request : ApiRequest} {rest : Verdict}
    (h : rest.Sound True) : (core.checked request rest).Sound (core.Authorised request) := by
  rw [checked]
  cases hcheck : core.requireWriteAccess request with
  | error error => exact trivial
  | ok denial =>
      cases denial with
      | some denial => exact sound_failed _ _ (statusCode_of_requireWriteAccess hcheck)
      | none =>
          cases rest with
          | answers response => exact h
          | passesOn call => exact ⟨authorised_of_requireWriteAccess hcheck, h.2⟩
          | raises error => exact trivial

theorem integerBetween_eq_some {low high value : ℤ} {json : Json}
    (h : integerBetween low high json = some value) : low ≤ value ∧ value ≤ high := by
  cases json with
  | int number =>
      rw [integerBetween] at h
      split at h
      next hrange =>
        cases h
        exact hrange
      next => cases h
  | _ => cases h

theorem validatedControlBody_eq_ok {request : ApiRequest} {duty ttl : ℤ}
    (h : validatedControlBody request = .ok (duty, ttl)) :
    (22 ≤ duty ∧ duty ≤ 100) ∧ (1 ≤ ttl ∧ ttl ≤ 900) := by
  cases hbody : bodyMembers request with
  | error error =>
      rw [validatedControlBody, hbody] at h
      cases h
  | ok body =>
      rw [validatedControlBody_of_members hbody] at h
      split at h
      next => cases h
      next duty' hduty =>
        split at h
        next => cases h
        next ttl' httl =>
          cases h
          exact ⟨integerBetween_eq_some hduty, integerBetween_eq_some httl⟩

theorem sound_controlVerdict (request : ApiRequest) : (controlVerdict request).Sound True := by
  rw [controlVerdict]
  split
  next duty ttl hbody =>
    obtain ⟨hduty, httl⟩ := validatedControlBody_eq_ok hbody
    exact ⟨trivial, .requestControl hduty httl⟩
  next => exact sound_failed _ _ (by decide)
  next => exact trivial

theorem sound_profileVerdict (profile : String) (request : ApiRequest) :
    (profileVerdict profile request).Sound True := by
  rw [profileVerdict]
  split
  next hknown =>
    split
    next body hbody =>
      split
      next ttl httl => exact ⟨trivial, .requestProfile hknown (integerBetween_eq_some httl)⟩
      next => exact sound_failed _ _ (by decide)
    next => exact trivial
  next => exact sound_failed _ _ (by decide)

theorem sound_pwmVerdict (value : String) : (pwmVerdict value).Sound True := by
  rw [pwmVerdict]
  split
  next => exact sound_failed _ _ (by decide)
  next raw hraw =>
    have hduty : 22 ≤ max 22 (min 100 (roundQuotient (raw * 100) 255)) ∧
        max 22 (min 100 (roundQuotient (raw * 100) 255)) ≤ 100 :=
      ⟨le_max_left _ _, max_le (by decide) (min_le_left _ _)⟩
    exact ⟨trivial, .requestControl hduty (by decide)⟩

/-- Only an authorised request is passed on, and only in range. -/
theorem sound_verdict (lower : String → String) (core : Core Agent) (request : ApiRequest)
    (route : Route) : (route.verdict lower core request).Sound (core.Authorised request) := by
  cases route with
  | apiControl => exact core.sound_checked (sound_controlVerdict request)
  | apiProfile profile => exact core.sound_checked (sound_profileVerdict profile request)
  | setPwm value => exact core.sound_checked (sound_pwmVerdict value)
  | setProfile profile =>
      rw [Route.verdict]
      cases aliases.lookup (lower profile) with
      | none => exact sound_failed _ _ (by decide)
      | some mapped => exact core.sound_checked (sound_profileVerdict mapped request)

theorem command_of_checked {core : Core Agent} {request : ApiRequest} {rest : Verdict}
    {call : AgentCall} (h : (core.checked request rest).command = some call) :
    rest.command = some call := by
  rw [checked] at h
  split at h
  · cases h
  · cases h
  · exact h

/-- What is passed on is what the request asks for. -/
theorem command_of_verdict {lower : String → String} {core : Core Agent} {request : ApiRequest}
    {route : Route} {call : AgentCall}
    (h : (route.verdict lower core request).command = some call) :
    route.command lower request = some call := by
  cases route with
  | apiControl => exact command_of_checked h
  | apiProfile profile => exact command_of_checked h
  | setPwm value => exact command_of_checked h
  | setProfile profile =>
      rw [Route.verdict] at h
      rw [Route.command]
      cases hlookup : aliases.lookup (lower profile) with
      | none =>
          rw [hlookup] at h
          cases h
      | some mapped =>
          rw [hlookup] at h
          exact command_of_checked h

/-- What is done of a sound verdict: at most one command, in range and guarded. -/
theorem calls_run (core : Core Agent) {guard : Prop} {verdict : Verdict}
    (sound : verdict.Sound guard) (agent : Agent) :
    (resultState (verdict.run core.recorded (agent, []))).2 = [] ∨
      ∃ call, (resultState (verdict.run core.recorded (agent, []))).2 = [call] ∧ guard ∧
        InRange call := by
  cases verdict with
  | answers response => exact .inl rfl
  | raises error => exact .inl rfl
  | passesOn call =>
      refine .inr ⟨call, ?_, sound.1, sound.2⟩
      rw [Verdict.run, recorded_forward]
      cases core.agent call agent with
      | ok answer after => rfl
      | error error after => rfl

/-- Whatever is posted to whichever route, the agent gets at most one command, and only
one in range for a request that is authorised. -/
theorem post_guarded (lower : String → String) (core : Core Agent) (route : Route)
    (request : ApiRequest) (agent : Agent) :
    (resultState (core.recorded.post lower route request (agent, []))).2 = [] ∨
      ∃ call, (resultState (core.recorded.post lower route request (agent, []))).2 = [call] ∧
        core.Authorised request ∧ InRange call := by
  have hstate : resultState (core.recorded.post lower route request (agent, [])) =
      resultState ((route.verdict lower core request).run core.recorded (agent, [])) := by
    have hverdict : route.handler lower core.recorded request =
        (route.verdict lower core request).run core.recorded := rfl
    rw [post, hverdict]
    cases (route.verdict lower core request).run core.recorded (agent, []) with
    | ok response after => rfl
    | error error after => rfl
  rw [hstate]
  exact core.calls_run (core.sound_verdict lower request route) agent

/-- A core whose token file holds a secret and a line end, with an agent out of reach. -/
def unreachable : Core Unit where
  tokenFile := "/run/secrets/ui".toList
  readText _ := .ok "secret\n".toList
  agent _ := return ⟨false, 0, .object []⟩

example :
    (resultState (unreachable.recorded.post id (.setProfile "cool")
      ⟨"Bearer secret".toList, .object [("ttl_seconds", .int 60)]⟩ ((), []))).2 =
        [.requestProfile "cooling" 60] := by
  decide

end Core

end TrueFan
