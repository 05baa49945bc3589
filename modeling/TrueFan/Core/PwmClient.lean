/-
# PWM commands from the core

The core's PWM functions ask the agent whether it is there, have it set a raw value and
return what they find under `pwm` in the answer. They look for it in the envelope, and
the agent puts it into the data, one level down.
-/

import TrueFan.Agent.Endpoints
import TrueFan.Hwmon.Tick

namespace TrueFan

open Python Foundations

/-- What becomes of a request on its way: it is delivered and answered, it is refused, or
it is delivered and the answer is lost. -/
inductive Delivery
  | delivered
  | refused
  | lost
  deriving DecidableEq, Repr

/-- What the client returns of a request. -/
structure ClientResult where
  ok : Bool
  statusCode : ℤ
  data : Json
  error : String

/-- The exceptions of the PWM functions. -/
inductive PwmFailure
  | readOnlyMode (message : String)
  | runtimeError (message : String)
  | lets (error : CoreFailure)
  deriving DecidableEq, Repr

/-- The core's client of the agent: the variables that name its token file and its mode,
empty if they are not set, what reading a file comes to, the agent at the other end, and
the way there. -/
structure PwmClient (Hardware : Type) where
  tokenFile : List Char
  mode : List Char
  readText : List Char → Except CoreFailure (List Char)
  app : Agent.App Hardware
  delivery : Agent.Endpoint → Delivery

namespace PwmClient

variable {Hardware : Type}

abbrev Method (Hardware α : Type) := EStateM PwmFailure (ControlService Hardware) α

/-- `_result`. -/
def resultOf (ok : Bool) (statusCode : ℤ) (data : Json) (error : String) : ClientResult where
  ok
  statusCode
  data := Json.orElse data (.object [])
  error

/-- `_read_agent_token`. -/
def readAgentToken (client : PwmClient Hardware) : Except CoreFailure (List Char) :=
  let path := strip client.tokenFile
  if path = [] then .ok []
  else
    match client.readText path with
    | .ok content => .ok (strip content)
    | .error .osError => .ok []
    | .error error => .error error

/-- The authorization `_build_headers` puts into the headers, empty for none. -/
def authorization (client : PwmClient Hardware) : Except CoreFailure (List Char) := do
  let token ← client.readAgentToken
  return if token = [] then [] else Core.bearer ++ token

/-- `_request`. -/
def request (client : PwmClient Hardware) (clock : Clock) (endpoint : Agent.Endpoint) :
    Method Hardware ClientResult := fun service =>
  match client.authorization with
  | .error error => .error (.lets error) service
  | .ok authorization =>
      let (reply, after) := client.app.handle clock authorization endpoint service
      match client.delivery endpoint with
      | .refused => .ok (resultOf false 0 (.object []) "connection_failed") service
      | .lost => .ok (resultOf false 0 (.object []) "connection_failed") after
      | .delivered =>
          if reply.statusCode < 400 then .ok (resultOf true reply.statusCode reply.body "") after
          else
            .ok (resultOf false reply.statusCode reply.body
              ("HTTP " ++ toString reply.statusCode)) after

/-- `get_agent_health`, as far as it is looked at: `online`. -/
def agentOnline (client : PwmClient Hardware) (clock : Clock) : Method Hardware Bool := do
  return (← client.request clock .status).ok

/-- `set_pwm` of the client. -/
def agentSetPwm (client : PwmClient Hardware) (clock : Clock) (pwm : ℤ) :
    Method Hardware ClientResult :=
  client.request clock (.setPwm pwm 300)

/-- The PWM function, with the exception it raises and the message of one without an error
text. The clock shows one time at the first request and another at the second. -/
def setPwmWith (client : PwmClient Hardware) (failure : String → PwmFailure) (otherwise : String)
    (now later : Clock) (pwm : ℤ) : Method Hardware Json := do
  if ← client.agentOnline now then
    let response ← client.agentSetPwm later pwm
    if response.ok then
      match Json.orElse response.data (.object []) with
      | .object data => return Json.getOr data "pwm" (.int pwm)
      | _ => throw (.lets .attributeError)
    else throw (failure (if response.error = "" then otherwise else response.error))
  else throw (failure "Control agent unavailable; monitoring-only mode")

/-- `fan.set_pwm`. -/
def fanSetPwm (client : PwmClient Hardware) (now later : Clock) (pwm : ℤ) : Method Hardware Json :=
  client.setPwmWith .runtimeError "Failed to set PWM via control agent" now later pwm

/-- `control.set_pwm`. -/
def controlSetPwm (client : PwmClient Hardware) (now later : Clock) (pwm : ℤ) :
    Method Hardware Json :=
  if lowerAscii (strip client.mode) = "read-only".toList then
    throw (.readOnlyMode "TRUEFAN_MODE is read-only; PWM writes are disabled")
  else client.setPwmWith .readOnlyMode "Failed to set PWM" now later pwm

variable {client : PwmClient Hardware} {now later : Clock} {pwm : ℤ}
  {service after : ControlService Hardware}

/-- The agent answers the command with the data of a request it carries out. -/
def Answers (client : PwmClient Hardware) (later : Clock) (pwm : ℤ)
    (service after : ControlService Hardware) (result : MutationResult) : Prop :=
  ∃ authorization, client.authorization = .ok authorization ∧
    client.app.handle later authorization (.setPwm pwm 300) service =
      (⟨200, Agent.resultOf (.object (Agent.pwmData result pwm))⟩, after) ∧
    ControlService.requestDuty client.app.backend later (.int (pwmToPercent pwm)) (.int 300)
      service = .ok result after

/-- A successful answer to a command is the agent's, to a request it carried out. -/
theorem agentSetPwm_of_ok {response : ClientResult}
    (h : client.agentSetPwm later pwm service = .ok response after) (hok : response.ok = true) :
    ∃ result, client.Answers later pwm service after result ∧
      response.data = Agent.resultOf (.object (Agent.pwmData result pwm)) := by
  rw [agentSetPwm, request] at h
  split at h
  next => cases h
  next authorization hauthorization =>
    cases hhandle : client.app.handle later authorization (.setPwm pwm 300) service with
    | mk reply after' =>
        rw [hhandle] at h
        dsimp only at h
        split at h
        next =>
          cases h
          cases hok
        next =>
          cases h
          cases hok
        next =>
          split at h
          next hsuccess =>
            cases h
            obtain ⟨result, hrequest, rfl⟩ := Agent.handle_setPwm_of_success hhandle hsuccess
            exact ⟨result, ⟨authorization, hauthorization, hhandle, hrequest⟩, rfl⟩
          next =>
            cases h
            cases hok

/-- What is returned is what was asked for: the envelope has no `pwm` of its own. -/
theorem setPwmWith_eq_ok {failure : String → PwmFailure} {otherwise : String} {value : Json}
    (h : client.setPwmWith failure otherwise now later pwm service = .ok value after) :
    value = .int pwm ∧ ∃ result,
      client.Answers later pwm (resultState (client.agentOnline now service)) after result := by
  rw [setPwmWith] at h
  obtain ⟨online, between, honline, h⟩ := bind_eq_ok h
  rw [honline, resultState_ok]
  split at h
  next =>
    obtain ⟨response, commanded, hresponse, h⟩ := bind_eq_ok h
    by_cases hok : response.ok = true
    · rw [if_pos hok] at h
      obtain ⟨result, hanswers, hdata⟩ := agentSetPwm_of_ok hresponse hok
      rw [hdata] at h
      cases h
      exact ⟨rfl, result, hanswers⟩
    · rw [if_neg hok] at h
      cases h
  next => cases h

theorem jsonOfInt_eq_int_iff {value : Option ℤ} {number : ℤ} :
    Json.int number = jsonOfInt value ↔ value = some number := by
  cases value with
  | none => exact iff_of_false nofun nofun
  | some other => exact ⟨fun h => by cases h; rfl, fun h => by cases h; rfl⟩

/-- Commanded to the duty the table has for its status and the request, the hardware reads
back the raw value. -/
def ReadsBack (backend : FanBackend Hardware) (service : ControlService Hardware)
    (requested raw : ℤ) : Prop :=
  ∃ before hardware readback after, backend.status service.hardware = .ok before hardware ∧
    backend.setDutyPercent
        (before.band.duty service.policy.state.previousHot before.dutyPercent (some requested))
        hardware = .ok readback after ∧
    readback.pwm = some raw

/-- The read-back of an answer is what the hardware reads back. -/
theorem readback_pwm_iff {result : MutationResult}
    (h : client.Answers later pwm service after result) (raw : ℤ) :
    result.readback.pwm = some raw ↔
      ReadsBack client.app.backend service (pwmToPercent pwm) raw := by
  obtain ⟨-, -, -, hrequest⟩ := h
  obtain ⟨before, hardware, decision, policy, readback, hstatus, hoverride, -, hset, rfl⟩ :=
    ControlService.requestDuty_eq_ok hrequest
  obtain ⟨duty, ttl, hduty, httl⟩ := SafetyPolicy.valid_of_requestOverride_eq_ok hoverride
  have hrequested : pwmToPercent pwm = duty.val :=
    Json.int.inj (SafetyPolicy.validDuty_eq_some_iff.mp hduty)
  rw [SafetyPolicy.effectiveDuty_of_requestOverride hduty httl hoverride, ← hrequested] at hset
  constructor
  · exact fun hraw => ⟨before, hardware, readback, _, hstatus, hset, hraw⟩
  · rintro ⟨before', hardware', readback', after', hstatus', hset', hraw⟩
    cases hstatus.symm.trans hstatus'
    cases hset.symm.trans hset'
    exact hraw

/-- What a PWM function returns is the raw value read back that the agent put into its
answer exactly if the hardware reads back what was asked for. -/
theorem returns_readback_iff {value : Json}
    (h : client.controlSetPwm now later pwm service = .ok value after ∨
      client.fanSetPwm now later pwm service = .ok value after) :
    ∃ result,
      client.Answers later pwm (resultState (client.agentOnline now service)) after result ∧
      (value = Json.get (Agent.pwmData result pwm) "pwm" ↔
        ReadsBack client.app.backend (resultState (client.agentOnline now service))
          (pwmToPercent pwm) pwm) := by
  have hvalue : value = .int pwm ∧ ∃ result,
      client.Answers later pwm (resultState (client.agentOnline now service)) after result := by
    rcases h with hcontrol | hfan
    · rw [controlSetPwm] at hcontrol
      split at hcontrol
      next => cases hcontrol
      next => exact setPwmWith_eq_ok hcontrol
    · exact setPwmWith_eq_ok hfan
  obtain ⟨rfl, result, hanswers⟩ := hvalue
  refine ⟨result, hanswers, ?_⟩
  rw [Agent.get_pwmData, jsonOfInt_eq_int_iff]
  exact readback_pwm_iff hanswers pwm

/-- A client of an agent on a tree with one channel, with the token the agent expects. -/
def oneChannelClient : PwmClient (FileTree × Unit) where
  tokenFile := "/run/secrets/agent".toList
  mode := []
  readText _ := .ok "token\n".toList
  app := {
    backend := (HwmonPwmBackend.ofReader HwmonPwmBackend.insertionOrder
      HwmonPwmBackend.coolReader).toFanBackend
    expectedToken := some "token".toList
    renderStatus := fun _ => .ok (.object [])
    invalidBody := .null }
  delivery _ := .delivered

/-- The agent's service at its start. -/
def oneChannelService : ControlService (FileTree × Unit) :=
  .init (HwmonPwmBackend.automaticTree, ()) (.fresh fun _ => .stored)

/-- The raw value of 50% is returned as it is read back. -/
theorem returns_readback_of_half :
    ∃ value after, oneChannelClient.controlSetPwm (.ofInt 100) (.ofInt 101) 128
        oneChannelService = .ok value after ∧
      ∃ result,
        oneChannelClient.Answers (.ofInt 101) 128
          (resultState (oneChannelClient.agentOnline (.ofInt 100) oneChannelService)) after
          result ∧
        (value = Json.get (Agent.pwmData result 128) "pwm" ↔
          ReadsBack oneChannelClient.app.backend
            (resultState (oneChannelClient.agentOnline (.ofInt 100) oneChannelService))
            (pwmToPercent 128) 128) := by
  have hreturned : (returned (oneChannelClient.controlSetPwm (.ofInt 100) (.ofInt 101) 128
      oneChannelService)).isSome = true := by
    decide +kernel
  obtain ⟨value, after, hset⟩ := returned_isSome_iff.mp hreturned
  exact ⟨value, after, hset, returns_readback_iff (.inl hset)⟩

/-- A raw value of 10 is returned, where the agent answers that 56 was read back. -/
theorem not_returns_readback_below_minimum :
    ¬ ∀ (client : PwmClient (FileTree × Unit)) (now later : Clock) (pwm : ℤ)
        (service after : ControlService (FileTree × Unit)) (value : Json)
        (result : MutationResult), 0 ≤ pwm ∧ pwm ≤ 255 →
      client.controlSetPwm now later pwm service = .ok value after →
      client.Answers later pwm (resultState (client.agentOnline now service)) after result →
      value = Json.get (Agent.pwmData result pwm) "pwm" := by
  intro hall
  have hreturned : (returned (oneChannelClient.controlSetPwm (.ofInt 100) (.ofInt 101) 10
      oneChannelService)).isSome = true := by
    decide +kernel
  obtain ⟨value, after, hset⟩ := returned_isSome_iff.mp hreturned
  have hbranch := hset
  rw [controlSetPwm, if_neg (by decide)] at hbranch
  obtain ⟨rfl, result, hanswers⟩ := setPwmWith_eq_ok hbranch
  have hequal := hall _ _ _ _ _ _ _ result (by decide) hset hanswers
  obtain ⟨-, -, -, hrequest⟩ := hanswers
  have hread : (returned (ControlService.requestDuty oneChannelClient.app.backend (.ofInt 101)
      (.int (pwmToPercent 10)) (.int 300)
      (resultState (oneChannelClient.agentOnline (.ofInt 100) oneChannelService)))).map
        (fun result => result.readback.pwm) = some (some 56) := by
    decide +kernel
  rw [hrequest, returned_ok, Option.map_some, Option.some.injEq] at hread
  rw [Agent.get_pwmData, jsonOfInt_eq_int_iff, hread] at hequal
  cases hequal

end PwmClient

end TrueFan
