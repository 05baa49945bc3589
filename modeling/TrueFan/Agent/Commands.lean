/-
# The commands of the agent

The endpoints the core's write routes go to: one takes a duty, the other a profile. Like the
other endpoints they check the token first and the body after it, and have the control service
do the rest.
-/

import TrueFan.Agent.Endpoints
import TrueFan.Service.Run

namespace TrueFan

open Python

namespace Agent

variable {Hardware : Type}

/-- `control`. -/
def control (backend : FanBackend Hardware) (clock : Clock) (dutyPercent ttlSeconds : ℤ) :
    ControlService.Method Hardware Json := do
  let result ← ControlService.requestDuty backend clock (.int dutyPercent) (.int ttlSeconds)
  return resultOf (.object result.members)

/-- `profile`. -/
def profile (backend : FanBackend Hardware) (clock : Clock) (name : String) (ttlSeconds : ℤ) :
    ControlService.Method Hardware Json := do
  let result ← ControlService.requestProfile backend clock name (.int ttlSeconds)
  return resultOf (.object result.members)

/-- What an endpoint does with a body: one out of range is the web framework's to refuse. -/
def App.perform (app : App Hardware) (clock : Clock) :
    AgentCall → ControlService Hardware → HttpReply × ControlService Hardware
  | .requestControl dutyPercent ttlSeconds =>
      if (22 ≤ dutyPercent ∧ dutyPercent ≤ 100) ∧ (1 ≤ ttlSeconds ∧ ttlSeconds ≤ 900) then
        serve (control app.backend clock dutyPercent ttlSeconds)
      else fun service => (⟨422, app.invalidBody⟩, service)
  | .requestProfile name ttlSeconds =>
      if 1 ≤ ttlSeconds ∧ ttlSeconds ≤ 900 then
        serve (profile app.backend clock name ttlSeconds)
      else fun service => (⟨422, app.invalidBody⟩, service)

/-- What an endpoint answers to a command with the authorization. -/
def App.command (app : App Hardware) (clock : Clock) (authorization : List Char)
    (call : AgentCall) (service : ControlService Hardware) :
    HttpReply × ControlService Hardware :=
  match requireToken app.expectedToken authorization with
  | .error error => (answer (.error error), service)
  | .ok (.refused statusCode detail) => (⟨statusCode, .object [("detail", .str detail)]⟩, service)
  | .ok .admitted => app.perform clock call service

end Agent

/-- The event of the service a command comes to. -/
def AgentCall.event (Hardware : Type) (clock : Clock) : AgentCall → ServiceEvent Hardware
  | .requestControl dutyPercent ttlSeconds =>
      .requestDuty clock (.int dutyPercent) (.int ttlSeconds)
  | .requestProfile profile ttlSeconds => .requestProfile clock profile (.int ttlSeconds)

/-- The command an event of the service is, if it is one. -/
def ServiceEvent.call {Hardware : Type} : ServiceEvent Hardware → Option AgentCall
  | .requestDuty _ (.int dutyPercent) (.int ttlSeconds) =>
      some (.requestControl dutyPercent ttlSeconds)
  | .requestProfile _ profile (.int ttlSeconds) => some (.requestProfile profile ttlSeconds)
  | _ => none

@[simp]
theorem AgentCall.call_event (Hardware : Type) (clock : Clock) (call : AgentCall) :
    (call.event Hardware clock).call = some call := by
  cases call <;> rfl

namespace Agent

variable {Hardware : Type}

/-- The answer to a command that was carried out or refused by the service. -/
def replyTo : ServiceOutcome → HttpReply
  | .answered result => ⟨200, resultOf (.object result.members)⟩
  | .raised error => answer (.error error)
  | .published _ | .started | .disturbed => ⟨500, .null⟩

/-- Code, text and status of the answer to what was raised. -/
def denialOf : Failure → Core.Denial
  | .safetyLocked message => ⟨"safety_locked", message, 409⟩
  | .valueError message =>
      ⟨if message ∈ ["duty_out_of_range", "ttl_out_of_range", "unknown_profile"] then message
        else "invalid_request", "Invalid control request", 400⟩
  | .unicodeDecodeError _ => ⟨"invalid_request", "Invalid control request", 400⟩
  | _ => ⟨"internal_error", "Internal control-agent error", 500⟩

theorem answer_error_eq (error : Failure) :
    answer (.error error) =
      ⟨(denialOf error).statusCode,
        errorResult (denialOf error).code (denialOf error).message⟩ := by
  cases error <;> rfl

theorem le_statusCode_denialOf (error : Failure) : 400 ≤ (denialOf error).statusCode := by
  cases error <;> simp [denialOf]

/-- Serving what a request returns is answering its outcome. -/
theorem serve_answered (method : ControlService.Method Hardware MutationResult)
    (service : ControlService Hardware) :
    serve (do
        let result ← method
        return resultOf (.object result.members)) service =
      (replyTo (ControlService.outcome .answered (method service)).1,
        (ControlService.outcome .answered (method service)).2) := by
  rw [serve, bind_apply]
  cases method service with
  | ok result after => rfl
  | error error after => rfl

/-- A command in range is one event of the service, and the answer is to its outcome. -/
theorem perform_eq (app : App Hardware) (clock : Clock) {call : AgentCall}
    (hrange : Core.InRange call) (service : ControlService Hardware) :
    app.perform clock call service =
      (replyTo (ControlService.step app.backend service (call.event Hardware clock)).1,
        (ControlService.step app.backend service (call.event Hardware clock)).2) := by
  cases hrange with
  | requestControl hduty httl =>
      rw [App.perform, if_pos ⟨hduty, httl⟩]
      exact serve_answered _ service
  | requestProfile hknown httl =>
      rw [App.perform, if_pos httl]
      exact serve_answered _ service

theorem command_of_admitted {app : App Hardware} {authorization : List Char}
    (hadmitted : requireToken app.expectedToken authorization = .ok .admitted) (clock : Clock)
    (call : AgentCall) (service : ControlService Hardware) :
    app.command clock authorization call service = app.perform clock call service := by
  rw [App.command, hadmitted]

/-- A command that is not admitted leaves the service alone, and its answer is an error
without an error object. -/
theorem command_of_not_admitted {app : App Hardware} {authorization : List Char}
    (hadmitted : requireToken app.expectedToken authorization ≠ .ok .admitted) (clock : Clock)
    (call : AgentCall) (service : ControlService Hardware) :
    ∃ reply, app.command clock authorization call service = (reply, service) ∧
      400 ≤ reply.statusCode := by
  rw [App.command]
  cases hcheck : requireToken app.expectedToken authorization with
  | error error => exact ⟨_, rfl, answer_error_statusCode error⟩
  | ok check =>
      cases check with
      | admitted => exact absurd hcheck hadmitted
      | refused statusCode detail => exact ⟨_, rfl, le_statusCode_of_refused hcheck⟩

end Agent

end TrueFan
