/-
# The endpoints of the agent

What the agent answers over HTTP: it checks the token first, has the control service do
what is asked for, and wraps what that returns or raises. An answer that carries data has
them as a member of the envelope.
-/

import TrueFan.Core.Server
import TrueFan.Service.Basic

namespace TrueFan

open Python

/-- The names of the modes. -/
def Mode.name : Mode → String
  | .manual => "manual"
  | .auto => "auto"
  | .unknown => "unknown"

/-- The names of the states of a decision. -/
def SafetyState.name : SafetyState → String
  | .hot => "hot"
  | .sensorFailure => "sensor-failure"
  | .cooling => "cooling"
  | .normal => "normal"

/-- An integer that may be `None`. -/
def jsonOfInt (value : Option ℤ) : Json := (value.map Json.int).getD .null

/-- The members of a mutation result. -/
def MutationResult.members (result : MutationResult) : List (String × Json) :=
  [("requested_duty", result.requestedDuty),
    ("effective_duty", .int result.effectiveDuty),
    ("reason", .str result.reason),
    ("safety_state", .str result.safetyState.name),
    ("mode", .str result.mode.name),
    ("readback", .object [
      ("verified", .bool result.readback.verified),
      ("duty_percent", jsonOfInt result.readback.dutyPercent),
      ("pwm", jsonOfInt result.readback.pwm)]),
    ("override_expires_at",
      (result.overrideExpiresAt.map fun expiry => Json.float (.finite expiry)).getD .null)] ++
    (result.profile.map fun profile => ("profile", Json.str profile)).toList

namespace Agent

variable {Hardware : Type}

/-- An answer. -/
structure HttpReply where
  statusCode : ℤ
  body : Json

/-- `_result` of data. -/
def resultOf (data : Json) : Json :=
  .object [("ok", .bool true), ("error", .null), ("data", data)]

/-- `_result` of an error. -/
def errorResult (code message : String) : Json :=
  .object [("ok", .bool false),
    ("error", .object [("code", .str code), ("message", .str message)]), ("data", .null)]

/-- What `require_token` comes to if nothing is wrong with the comparison. -/
inductive TokenCheck
  | admitted
  | refused (statusCode : ℤ) (detail : String)
  deriving DecidableEq, Repr

/-- `require_token`. -/
def requireToken (expectedToken : Option (List Char)) (authorization : List Char) :
    Except Failure TokenCheck :=
  let expected := expectedToken.getD []
  if Core.bearer.isPrefixOf authorization = false then .ok (.refused 401 "Missing Bearer token")
  else if expected = [] then .ok (.refused 403 "Invalid token")
  else
    match Core.compareDigest (strip (authorization.drop Core.bearer.length)) expected with
    | .error _ => .error .typeError
    | .ok false => .ok (.refused 403 "Invalid token")
    | .ok true => .ok .admitted

/-- The answer to what an endpoint returned, or to what it raised. -/
def answer : Except Failure Json → HttpReply
  | .ok body => ⟨200, body⟩
  | .error (.safetyLocked message) => ⟨409, errorResult "safety_locked" message⟩
  | .error (.valueError message) =>
      ⟨400, errorResult
        (if message ∈ ["duty_out_of_range", "ttl_out_of_range", "unknown_profile"] then message
        else "invalid_request")
        "Invalid control request"⟩
  | .error (.unicodeDecodeError _) => ⟨400, errorResult "invalid_request" "Invalid control request"⟩
  | .error _ => ⟨500, errorResult "internal_error" "Internal control-agent error"⟩

/-- `(data.get("readback") or {}).get("pwm", pwm)`. -/
def readbackPwm (data : List (String × Json)) (pwm : ℤ) : Json :=
  match Json.orElse (Json.get data "readback") (.object []) with
  | .object readback => Json.getOr readback "pwm" (.int pwm)
  | _ => .null

/-- The data of an answer of `set_pwm`. -/
def pwmData (result : MutationResult) (pwm : ℤ) : List (String × Json) :=
  result.members ++ [("pwm", readbackPwm result.members pwm)]

/-- `set_pwm`. -/
def setPwm (backend : FanBackend Hardware) (clock : Clock) (pwm ttlSeconds : ℤ) :
    ControlService.Method Hardware Json := do
  let result ← ControlService.requestDuty backend clock (.int (pwmToPercent pwm)) (.int ttlSeconds)
  return resultOf (.object (pwmData result pwm))

/-- The endpoints the core's PWM functions ask, with the members of the body. -/
inductive Endpoint
  | status
  | setPwm (pwm ttlSeconds : ℤ)

/-- The application: its backend, its token, how a snapshot is rendered, which fails on
floats that JSON lacks, and what the web framework answers to a body out of range. -/
structure App (Hardware : Type) where
  backend : FanBackend Hardware
  expectedToken : Option (List Char)
  renderStatus : StatusPayload → Except Failure Json
  invalidBody : Json

/-- Have the service do something, and answer. -/
def serve (method : ControlService.Method Hardware Json) (service : ControlService Hardware) :
    HttpReply × ControlService Hardware :=
  match method service with
  | .ok body after => (answer (.ok body), after)
  | .error error after => (answer (.error error), after)

/-- What an endpoint answers to a request with the authorization. -/
def App.handle (app : App Hardware) (clock : Clock) (authorization : List Char)
    (endpoint : Endpoint) (service : ControlService Hardware) :
    HttpReply × ControlService Hardware :=
  match requireToken app.expectedToken authorization with
  | .error error => (answer (.error error), service)
  | .ok (.refused statusCode detail) => (⟨statusCode, .object [("detail", .str detail)]⟩, service)
  | .ok .admitted =>
      match endpoint with
      | .status =>
          serve (do
            let payload ← ControlService.status app.backend clock
            return resultOf (← ofExcept (app.renderStatus payload))) service
      | .setPwm pwm ttlSeconds =>
          if (0 ≤ pwm ∧ pwm ≤ 255) ∧ (1 ≤ ttlSeconds ∧ ttlSeconds ≤ 900) then
            serve (setPwm app.backend clock pwm ttlSeconds) service
          else (⟨422, app.invalidBody⟩, service)

/-- The data of an answer carry the raw value that was read back. -/
theorem get_pwmData (result : MutationResult) (pwm : ℤ) :
    Json.get (pwmData result pwm) "pwm" = jsonOfInt result.readback.pwm := by
  rw [pwmData, readbackPwm, MutationResult.members]
  cases result.profile with
  | none => rfl
  | some profile => rfl

theorem answer_error_statusCode (error : Failure) : 400 ≤ (answer (.error error)).statusCode := by
  cases error <;> simp [answer]

/-- A refusal is an error. -/
theorem le_statusCode_of_refused {expectedToken : Option (List Char)} {authorization : List Char}
    {statusCode : ℤ} {detail : String}
    (h : requireToken expectedToken authorization = .ok (.refused statusCode detail)) :
    400 ≤ statusCode := by
  rw [requireToken] at h
  split at h
  next =>
    cases h
    decide
  next =>
    split at h
    next =>
      cases h
      decide
    next =>
      split at h
      next => cases h
      next =>
        cases h
        decide
      next => cases h

/-- An answer that is no error is to a request that was carried out. -/
theorem handle_setPwm_of_success {app : App Hardware} {clock : Clock} {authorization : List Char}
    {pwm ttlSeconds : ℤ} {service after : ControlService Hardware} {reply : HttpReply}
    (h : app.handle clock authorization (.setPwm pwm ttlSeconds) service = (reply, after))
    (hsuccess : reply.statusCode < 400) :
    ∃ result, ControlService.requestDuty app.backend clock (.int (pwmToPercent pwm))
        (.int ttlSeconds) service = .ok result after ∧
      reply = ⟨200, resultOf (.object (pwmData result pwm))⟩ := by
  have herror (error : Failure) (hreply : answer (.error error) = reply) : False := by
    have hcode := answer_error_statusCode error
    rw [hreply] at hcode
    omega
  rw [App.handle] at h
  split at h
  next error _ => exact (herror error (congrArg Prod.fst h)).elim
  next statusCode detail hrefused =>
    cases h
    exact absurd hsuccess (not_lt.mpr (le_statusCode_of_refused hrefused))
  next =>
    split at h
    next =>
      rw [serve] at h
      split at h
      next body after' hset =>
        cases h
        obtain ⟨result, between, hrequest, hset⟩ := bind_eq_ok hset
        cases hset
        exact ⟨result, hrequest, rfl⟩
      next error _ _ => exact (herror error (congrArg Prod.fst h)).elim
    next =>
      cases h
      exact absurd hsuccess (not_lt.mpr (by decide : (400 : ℤ) ≤ 422))

end Agent

end TrueFan
