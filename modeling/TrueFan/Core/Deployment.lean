/-
# Core, client, agent and service together

A command reaches the service on a long way: a route of the core checks it, the core's client
sends it, a network may refuse it or lose the answer, and the agent checks it once more. The
policy loop of the agent ticks in between, its process restarts, and others change the
hardware. Here the whole way is one step, and a history is any interleaving of such steps.

As far as the service can tell there is no way at all: a history of the deployment is a
history of the service in which a request is asked for once or not at all. What a client is
told is what became of its request.
-/

import TrueFan.Agent.Commands
import TrueFan.Core.PwmClient
import TrueFan.Foundations.Simulation

namespace TrueFan

open Python Foundations

/-- A core with its client and the agent: the variable that names the token file of the
routes, how a text is lowered, and the client. -/
structure Deployment (Hardware : Type) where
  uiTokenFile : List Char
  lower : String → String
  client : PwmClient Hardware

/-- One thing that happens to a deployment: a request to a route of the core, with the time
at the agent and what becomes of the command on its way, or something at the agent. -/
inductive DeploymentEvent (Hardware : Type)
  | post (route : Core.Route) (request : ApiRequest) (clock : Clock) (delivery : Delivery)
  | atAgent (event : ServiceEvent Hardware)

/-- How it ends. -/
inductive DeploymentOutcome
  | responded (response : ApiResponse)
  | atAgent (outcome : ServiceOutcome)

namespace Deployment

variable {Hardware : Type}

/-- What a route gets of the client's result. -/
def responseOf (result : ClientResult) : AgentResponse :=
  ⟨result.ok, result.statusCode, result.data⟩

/-- What the client returns of an answer that reached it. -/
def received (reply : Agent.HttpReply) : ClientResult :=
  if reply.statusCode < 400 then PwmClient.resultOf true reply.statusCode reply.body ""
  else
    PwmClient.resultOf false reply.statusCode reply.body ("HTTP " ++ toString reply.statusCode)

/-- What it returns if none did. -/
def unanswered : ClientResult := PwmClient.resultOf false 0 (.object []) "connection_failed"

/-- `request_control` and `request_profile` of the client. -/
def send (deployment : Deployment Hardware) (clock : Clock) (delivery : Delivery)
    (call : AgentCall) : Core.Method (ControlService Hardware) AgentResponse := fun service =>
  match deployment.client.authorization with
  | .error error => .error error service
  | .ok authorization =>
      let (reply, after) := deployment.client.app.command clock authorization call service
      match delivery with
      | .refused => .ok (responseOf unanswered) service
      | .lost => .ok (responseOf unanswered) after
      | .delivered => .ok (responseOf (received reply)) after

/-- The core, while the agent shows the time and the network does this to a command. -/
def core (deployment : Deployment Hardware) (clock : Clock) (delivery : Delivery) :
    Core (ControlService Hardware) where
  tokenFile := deployment.uiTokenFile
  readText := deployment.client.readText
  agent := deployment.send clock delivery

/-- The answer to an unexpected error. -/
def internalError : ApiResponse := Core.failed "internal_error" "Internal Server Error" 500

/-- What an event comes to. -/
def step (deployment : Deployment Hardware) (service : ControlService Hardware) :
    DeploymentEvent Hardware → DeploymentOutcome × ControlService Hardware
  | .post route request clock delivery =>
      match Core.post deployment.lower (deployment.core clock delivery) route request service with
      | .ok response after => (.responded response, after)
      | .error _ after => (.responded internalError, after)
  | .atAgent event =>
      let (outcome, after) := ControlService.step deployment.client.app.backend service event
      (.atAgent outcome, after)

/-- The agent admits what the client sends. -/
def admits (deployment : Deployment Hardware) : Bool :=
  match deployment.client.authorization with
  | .error _ => false
  | .ok authorization =>
      match Agent.requireToken deployment.client.app.expectedToken authorization with
      | .ok .admitted => true
      | _ => false

/-- What a request comes to at the service: the command its route passes on, if it gets to
the agent and is admitted there. -/
def requested (deployment : Deployment Hardware) (route : Core.Route) (request : ApiRequest)
    (clock : Clock) (delivery : Delivery) : Option (ServiceEvent Hardware) :=
  if delivery ≠ .refused ∧ deployment.admits = true then
    (route.verdict deployment.lower (deployment.core clock delivery) request).command.map
      (AgentCall.event Hardware clock)
  else none

/-- What an event comes to at the service. -/
def counterpart (deployment : Deployment Hardware) :
    DeploymentEvent Hardware → Option (ServiceEvent Hardware)
  | .post route request clock delivery => deployment.requested route request clock delivery
  | .atAgent event => some event

variable {deployment : Deployment Hardware}

theorem admits_iff :
    deployment.admits = true ↔ ∃ authorization,
      deployment.client.authorization = .ok authorization ∧
      Agent.requireToken deployment.client.app.expectedToken authorization = .ok .admitted := by
  rw [admits]
  cases deployment.client.authorization with
  | error error => simp
  | ok authorization =>
      cases hcheck : Agent.requireToken deployment.client.app.expectedToken authorization with
      | error error => simp [hcheck]
      | ok check => cases check <;> simp [hcheck]

/-- A command the agent admits is an event of its service, if it gets there. -/
theorem send_of_admitted (hadmits : deployment.admits = true) (clock : Clock)
    (delivery : Delivery) {call : AgentCall} (hrange : Core.InRange call)
    (service : ControlService Hardware) :
    deployment.send clock delivery call service =
      let (outcome, after) :=
        ControlService.step deployment.client.app.backend service (call.event Hardware clock)
      match delivery with
      | .refused => .ok (responseOf unanswered) service
      | .lost => .ok (responseOf unanswered) after
      | .delivered => .ok (responseOf (received (Agent.replyTo outcome))) after := by
  obtain ⟨authorization, hauthorization, hcheck⟩ := admits_iff.mp hadmits
  rw [send, hauthorization]
  dsimp only
  rw [Agent.command_of_admitted hcheck, Agent.perform_eq _ clock hrange]

/-- A command the agent does not admit changes nothing, and no answer to it is a success. -/
theorem send_of_not_admitted (hadmits : deployment.admits = false) (clock : Clock)
    (delivery : Delivery) (call : AgentCall) (service : ControlService Hardware) :
    (∃ error, deployment.send clock delivery call service = .error error service) ∨
      ∃ response, deployment.send clock delivery call service = .ok response service ∧
        response.ok = false := by
  rw [send]
  cases hauthorization : deployment.client.authorization with
  | error error => exact .inl ⟨error, rfl⟩
  | ok authorization =>
      have hcheck : Agent.requireToken deployment.client.app.expectedToken authorization ≠
          .ok .admitted := by
        intro hcheck
        have htrue := admits_iff.mpr ⟨authorization, hauthorization, hcheck⟩
        rw [hadmits] at htrue
        cases htrue
      obtain ⟨reply, hcommand, hreply⟩ :=
        Agent.command_of_not_admitted hcheck clock call service
      dsimp only
      rw [hcommand]
      cases delivery with
      | delivered =>
          refine .inr ⟨_, rfl, ?_⟩
          rw [received, if_neg (not_lt.mpr hreply)]
          rfl
      | refused => exact .inr ⟨_, rfl, rfl⟩
      | lost => exact .inr ⟨_, rfl, rfl⟩

/-! ## What the core answers -/

/-- The answer if the agent gave none. -/
def unavailable : ApiResponse :=
  Core.failed "control_agent_unavailable" "Control agent unavailable; monitoring-only mode" 503

/-- What the core makes of the outcome of a request. -/
def relayed (outcome : ServiceOutcome) : ApiResponse :=
  Core.proxyAgent (responseOf (received (Agent.replyTo outcome)))

/-- The data of an accepted request come through as they are. -/
theorem relayed_answered (result : MutationResult) :
    relayed (.answered result) = Core.apiResult true .null (.object result.members) 200 := rfl

theorem received_of_error {reply : Agent.HttpReply} (h : 400 ≤ reply.statusCode) :
    received reply =
      PwmClient.resultOf false reply.statusCode reply.body
        ("HTTP " ++ toString reply.statusCode) :=
  if_neg (not_lt.mpr h)

/-- So do the code, the text and the status of what was raised. -/
theorem relayed_raised (error : Failure) :
    relayed (.raised error) =
      Core.failed (Agent.denialOf error).code (Agent.denialOf error).message
        (Agent.denialOf error).statusCode := by
  have hcode := Agent.le_statusCode_denialOf error
  have hstatus (otherwise : ℤ) : Core.statusOr (Agent.denialOf error).statusCode otherwise =
      (Agent.denialOf error).statusCode :=
    if_neg (by omega)
  rw [relayed, Agent.replyTo, Agent.answer_error_eq, received_of_error hcode]
  show Core.apiResult false _ .null (Core.statusOr (Agent.denialOf error).statusCode 503) = _
  rw [hstatus]
  rfl

/-- What is not ok at the agent is not ok at the core. -/
theorem proxyAgent_ok_of_not_ok {response : AgentResponse} (h : response.ok = false) :
    (Core.proxyAgent response).ok = false := by
  rw [Core.proxyAgent]
  split
  next envelope _ =>
    rw [h, Bool.false_and, if_neg Bool.false_ne_true]
    split
    · rfl
    · rfl
  next => rfl

/-- A request to a route, by the verdict of the route. -/
theorem step_post (route : Core.Route) (request : ApiRequest) (clock : Clock)
    (delivery : Delivery) (service : ControlService Hardware) :
    deployment.step service (.post route request clock delivery) =
      match route.verdict deployment.lower (deployment.core clock delivery) request with
      | .answers response => (.responded response, service)
      | .raises _ => (.responded internalError, service)
      | .passesOn call =>
          match deployment.send clock delivery call service with
          | .ok response after => (.responded (Core.proxyAgent response), after)
          | .error _ after => (.responded internalError, after) := by
  rw [step, Core.post, Core.Route.handler]
  cases route.verdict deployment.lower (deployment.core clock delivery) request with
  | answers response => rfl
  | raises error => rfl
  | passesOn call =>
      dsimp only
      rw [Core.Verdict.run, Core.forward, bind_apply]
      have hagent : (deployment.core clock delivery).agent call service =
          deployment.send clock delivery call service := rfl
      rw [hagent]
      cases deployment.send clock delivery call service with
      | ok response after => rfl
      | error error after => rfl

/-- What becomes of a request: nothing is asked of the service and the client is told that it
failed; or one thing is asked, and the client is told how that ended, or that no answer came. -/
inductive Settled (deployment : Deployment Hardware) (service : ControlService Hardware)
    (delivery : Delivery) (event : Option (ServiceEvent Hardware)) :
    DeploymentOutcome → ControlService Hardware → Prop
  | kept {response : ApiResponse} (nothing : event = none) (failed : response.ok = false) :
      Settled deployment service delivery event (.responded response) service
  | told {asked : ServiceEvent Hardware} (something : event = some asked)
      (delivered : delivery = .delivered) :
      Settled deployment service delivery event
        (.responded (relayed
          (ControlService.step deployment.client.app.backend service asked).1))
        (ControlService.step deployment.client.app.backend service asked).2
  | lost {asked : ServiceEvent Hardware} (something : event = some asked)
      (lost : delivery = .lost) :
      Settled deployment service delivery event (.responded unavailable)
        (ControlService.step deployment.client.app.backend service asked).2

/-- Every request is settled. -/
theorem settled_post (deployment : Deployment Hardware) (route : Core.Route)
    (request : ApiRequest) (clock : Clock) (delivery : Delivery)
    (service : ControlService Hardware) :
    Settled deployment service delivery (deployment.requested route request clock delivery)
      (deployment.step service (.post route request clock delivery)).1
      (deployment.step service (.post route request clock delivery)).2 := by
  have hsound := Core.sound_verdict deployment.lower (deployment.core clock delivery) request route
  rw [step_post, requested]
  cases hverdict : Core.Route.verdict deployment.lower (deployment.core clock delivery) request
      route with
  | answers response =>
      rw [hverdict] at hsound
      exact .kept (by simp [Core.Verdict.command]) hsound.1
  | raises error => exact .kept (by simp [Core.Verdict.command]) rfl
  | passesOn call =>
      rw [hverdict] at hsound
      simp only [Core.Verdict.command, Option.map_some]
      cases hadmits : deployment.admits with
      | true =>
          simp only [send_of_admitted hadmits clock delivery hsound.2, and_true]
          cases delivery with
          | delivered => exact .told (if_pos (by decide)) rfl
          | refused => exact .kept (if_neg (by decide)) rfl
          | lost => exact .lost (if_pos (by decide)) rfl
      | false =>
          rcases send_of_not_admitted hadmits clock delivery call service with
            ⟨error, hsend⟩ | ⟨response, hsend, hok⟩
          · simp only [hsend]
            exact .kept (by simp) rfl
          · simp only [hsend]
            exact .kept (by simp) (proxyAgent_ok_of_not_ok hok)

/-- A request leaves what the event it comes to leaves. -/
theorem Settled.after_eq {service after : ControlService Hardware} {delivery : Delivery}
    {event : Option (ServiceEvent Hardware)} {outcome : DeploymentOutcome}
    (settled : Settled deployment service delivery event outcome after) :
    after = event.elim service fun asked =>
      (ControlService.step deployment.client.app.backend service asked).2 := by
  cases settled with
  | kept nothing failed => rw [nothing, Option.elim_none]
  | told something delivered => rw [something, Option.elim_some]
  | lost something lost => rw [something, Option.elim_some]

theorem relayed_ok_iff (outcome : ServiceOutcome) :
    (relayed outcome).ok = true ↔ ∃ result, outcome = .answered result := by
  cases outcome with
  | answered result => exact iff_of_true rfl ⟨result, rfl⟩
  | raised error =>
      rw [relayed_raised]
      simp [Core.failed, Core.apiResult]
  | published payload => exact iff_of_false Bool.false_ne_true (by simp)
  | started => exact iff_of_false Bool.false_ne_true (by simp)
  | disturbed => exact iff_of_false Bool.false_ne_true (by simp)

/-- The service accepted a request, and these are the data of its answer. -/
def Accepted (deployment : Deployment Hardware) (service : ControlService Hardware)
    (event : Option (ServiceEvent Hardware)) (response : ApiResponse) : Prop :=
  ∃ asked result, event = some asked ∧
    (ControlService.step deployment.client.app.backend service asked).1 = .answered result ∧
    response = Core.apiResult true .null (.object result.members) 200

/-- The service raised, and this is what the client is told. -/
def Raised (deployment : Deployment Hardware) (service : ControlService Hardware)
    (event : Option (ServiceEvent Hardware)) (response : ApiResponse) : Prop :=
  ∀ asked error, event = some asked →
    (ControlService.step deployment.client.app.backend service asked).1 = .raised error →
    response = Core.failed (Agent.denialOf error).code (Agent.denialOf error).message
      (Agent.denialOf error).statusCode

theorem Settled.truthful {service after : ControlService Hardware} {delivery : Delivery}
    {event : Option (ServiceEvent Hardware)} {outcome : DeploymentOutcome}
    (settled : Settled deployment service delivery event outcome after) :
    ∃ response, outcome = .responded response ∧
      (response.ok = true ↔
        delivery = .delivered ∧ deployment.Accepted service event response) ∧
      (delivery = .delivered → deployment.Raised service event response) := by
  cases settled with
  | @kept response nothing failed =>
      refine ⟨response, rfl, iff_of_false (by simp [failed]) ?_, fun _ asked error hasked => ?_⟩
      · rintro ⟨-, asked, result, hasked, -⟩
        rw [nothing] at hasked
        cases hasked
      · rw [nothing] at hasked
        cases hasked
  | @told asked something delivered =>
      refine ⟨_, rfl, ?_, fun _ asked' error hasked hraised => ?_⟩
      · rw [relayed_ok_iff]
        constructor
        · rintro ⟨result, hresult⟩
          exact ⟨delivered, asked, result, something, hresult, by rw [hresult, relayed_answered]⟩
        · rintro ⟨-, asked', result, hasked, hresult, -⟩
          rw [something] at hasked
          cases hasked
          exact ⟨result, hresult⟩
      · rw [something] at hasked
        cases hasked
        rw [hraised, relayed_raised]
  | @lost asked something lost =>
      refine ⟨_, rfl, iff_of_false Bool.false_ne_true ?_, fun delivered => ?_⟩
      · rintro ⟨delivered, -⟩
        rw [lost] at delivered
        cases delivered
      · rw [lost] at delivered
        cases delivered

/-! ## Histories -/

/-- A request that is not authorised comes to nothing. -/
theorem requested_of_not_authorised {route : Core.Route} {request : ApiRequest} {clock : Clock}
    {delivery : Delivery} (h : ¬ (deployment.core clock delivery).Authorised request) :
    deployment.requested route request clock delivery = none := by
  have hsound := Core.sound_verdict deployment.lower (deployment.core clock delivery) request route
  rw [requested]
  cases hverdict : Core.Route.verdict deployment.lower (deployment.core clock delivery) request
      route with
  | answers response => simp [Core.Verdict.command]
  | raises error => simp [Core.Verdict.command]
  | passesOn call =>
      rw [hverdict] at hsound
      exact absurd hsound.1 h

theorem step_eq_counterpart (service : ControlService Hardware)
    (event : DeploymentEvent Hardware) :
    (deployment.step service event).2 = (deployment.counterpart event).elim service fun asked =>
      (ControlService.step deployment.client.app.backend service asked).2 := by
  cases event with
  | post route request clock delivery =>
      exact (settled_post deployment route request clock delivery service).after_eq
  | atAgent event => rfl

/-- As far as the service goes, a request happens to it once or not at all. -/
theorem refinement (deployment : Deployment Hardware) :
    Refinement deployment.step (ControlService.step deployment.client.app.backend) id
      deployment.counterpart where
  moves {service event asked} h := by
    rw [id, step_eq_counterpart, h, Option.elim_some, id]
  rests {service event} h := by
    rw [id, step_eq_counterpart, h, Option.elim_none, id]

/-- Whatever is posted, refused or lost on the way, the deployment leaves its service as a
history of the service alone does, in which each authorised, well-formed and admitted request
that got through is asked for exactly once, in order, and no other. -/
theorem finalState_eq_service (deployment : Deployment Hardware)
    (service : ControlService Hardware) (events : List (DeploymentEvent Hardware)) :
    finalState deployment.step service events =
      finalState (ControlService.step deployment.client.app.backend) service
        (events.filterMap deployment.counterpart) :=
  deployment.refinement.view_finalState service events

/-- In any history a client is told that its request succeeded exactly if it did and the
answer came through, and then with the service's own data; and if the service raised and the
answer came through, it is told what the service raised. -/
theorem posts_truthful (deployment : Deployment Hardware) (service : ControlService Hardware)
    (events : List (DeploymentEvent Hardware)) :
    ∀ record ∈ records deployment.step service events,
      ∀ route request clock delivery, record.event = .post route request clock delivery →
        ∃ response, record.outcome = .responded response ∧
          (response.ok = true ↔ delivery = .delivered ∧ deployment.Accepted record.before
            (deployment.requested route request clock delivery) response) ∧
          (delivery = .delivered → deployment.Raised record.before
            (deployment.requested route request clock delivery) response) := by
  intro record hmem route request clock delivery hevent
  have hstep := step_of_mem_records deployment.step hmem
  rw [hevent] at hstep
  have hsettled := settled_post deployment route request clock delivery record.before
  rw [hstep] at hsettled
  exact hsettled.truthful

/-- The agent on a tree with one channel, behind a core that shares its token. -/
def oneChannel : Deployment (FileTree × Unit) where
  uiTokenFile := "/run/secrets/ui".toList
  lower := id
  client := PwmClient.oneChannelClient

/-- An authorised command for half duty, the answer to which comes through. -/
def halfDuty : DeploymentEvent (FileTree × Unit) :=
  .post .apiControl ⟨"Bearer token".toList, .object [("duty_percent", .int 50)]⟩
    (.ofInt 0) .delivered

theorem posts_truthful_of_halfDuty :
    ∃ response, (oneChannel.step PwmClient.oneChannelService halfDuty).1 = .responded response ∧
      (response.ok = true ↔ Delivery.delivered = .delivered ∧
        oneChannel.Accepted PwmClient.oneChannelService
          (oneChannel.requested .apiControl
            ⟨"Bearer token".toList, .object [("duty_percent", .int 50)]⟩
            (.ofInt 0) .delivered) response) ∧
      (Delivery.delivered = .delivered → oneChannel.Raised PwmClient.oneChannelService
        (oneChannel.requested .apiControl
          ⟨"Bearer token".toList, .object [("duty_percent", .int 50)]⟩
          (.ofInt 0) .delivered) response) :=
  posts_truthful oneChannel PwmClient.oneChannelService [halfDuty] _ (List.mem_singleton.mpr rfl)
    _ _ _ _ rfl

/-- Requests that are not authorised can be left out of a history, with all others that come
to nothing: every other request finds the service, is answered and leaves the service as if
they had never been posted. -/
theorem records_without_refused (deployment : Deployment Hardware)
    (service : ControlService Hardware) (events : List (DeploymentEvent Hardware)) :
    (∀ route request clock delivery, ¬ (deployment.core clock delivery).Authorised request →
      deployment.counterpart (.post route request clock delivery) = none) ∧
    (records deployment.step service events).filter
        (fun record => !(deployment.counterpart record.event).isNone) =
      records deployment.step service
        (events.filter fun event => !(deployment.counterpart event).isNone) := by
  have hrests (service : ControlService Hardware) (event : DeploymentEvent Hardware)
      (hevent : (fun event => (deployment.counterpart event).isNone) event = true) :
      (deployment.step service event).2 = service :=
    deployment.refinement.rests (Option.isNone_iff_eq_none.mp hevent)
  exact ⟨fun _ _ _ _ => requested_of_not_authorised,
    records_filter_of_hidden hrests service events⟩

end Deployment

end TrueFan
