/-
# The status of the core

The core's status starts from a default that locks the controls, asks the agent, and puts what
the agent answers in its place. Whatever comes back, from whomever, the controls are offered
only on the word of an agent that answered with data; anything that goes wrong on the way,
also in the middle of the data, leaves the default.

What the core reads of its own surroundings does not depend on the agent and is given; so is
what sorting makes of drives whose temperatures have no order.
-/

import TrueFan.Agent.StatusDict
import TrueFan.Core.PwmClient
import TrueFan.Foundations.Dictionary

namespace TrueFan

open Python Foundations

/-- What `get_profile`, `get_uptime`, `get_cpu_load`, `get_smart_capabilities`,
`get_sensors_data`, `read_fan_rpms` and `time.time` come to, and sorting of drives some of
whose temperatures are no numbers. -/
structure StatusSources where
  profile : String
  uptime : String
  load : String
  smartAvailable : Bool
  sensors : Json
  fanRpms : List (String × Json)
  now : FiniteFloat
  unordered : List (String × Json) → Except CoreFailure (List (String × Json))

namespace Core

/-- `DEFAULT_SYSTEM`. -/
def defaultSystem : List (String × Json) :=
  [("profile", .str "unknown"), ("uptime", .str "0h 0m"), ("load", .str "0.00 / 0.00 / 0.00")]

/-- `DEFAULT_SENSORS`. -/
def defaultSensors : Json :=
  .array (["cpu", "nvme", "hdd"].map fun name =>
    .object [("name", .str name), ("value", .float (.finite (.ofInt 0)))])

/-- The safety decision shown without an agent. -/
def lockedSafety : List (String × Json) :=
  [("state", .str "unknown"), ("effective_duty", .null),
    ("reason", .str "control_agent_unavailable"), ("controls_locked", .bool true),
    ("override_expires_at", .null)]

/-- The backend shown without an agent. -/
def unknownBackend : List (String × Json) :=
  [("backend", .str "unknown"), ("mode", .str "unknown"), ("duty_percent", .null), ("pwm", .null),
    ("fan_rpms", .object []), ("temperatures", .object []), ("sensor_ok", .bool false),
    ("error", errorOf (.str "agent_unavailable") (.str "Control agent is unavailable"))]

/-- `_default_status`. -/
def defaultStatus : List (String × Json) :=
  defaultSystem ++
    [("pwm", .null), ("mode", .str "monitoring-only"), ("agent_available", .bool false),
      ("pwm_control_enabled", .bool false),
      ("agent", .object [("online", .bool false), ("status_code", .int 0),
        ("error", .str "uninitialized"), ("last_refresh_epoch", .null)]),
      ("sensors", defaultSensors),
      ("capabilities", .object [("smart_available", .bool true)]),
      ("fan", .object []), ("fan_rpms", .object []), ("temperatures", .object []),
      ("drives", .array []),
      ("backend", .object unknownBackend),
      ("safety", .object lockedSafety),
      ("control", .object [("min_duty_percent", .int 22), ("max_duty_percent", .int 100),
        ("default_ttl_seconds", .int 300), ("max_ttl_seconds", .int 900)]),
      ("system", .object defaultSystem)]

/-- `_agent_payload`. -/
def agentPayload (response : ClientResult) : Option (List (String × Json)) :=
  if response.ok then
    match Json.orElse response.data (.object []) with
    | .object envelope =>
        if (Json.get envelope "ok").isTrue then
          match Json.get envelope "data" with
          | .object data => some data
          | _ => none
        else none
    | _ => none
  else none

/-- `value or {}`, of which members are then asked for. -/
def membersOrNone (value : Json) : Except CoreFailure (List (String × Json)) :=
  match Json.orElse value (.object []) with
  | .object members => .ok members
  | _ => .error .attributeError

/-- `_legacy_sensors`. -/
def legacySensors (temperatures : List (String × Json)) : Json :=
  .array ([("cpu", "cpu_c"), ("board", "board_c"), ("hdd", "max_drive_c"),
    ("nvme", "nvme_c")].filterMap fun sensor =>
      if (Json.get temperatures sensor.2).isNull then none
      else some (.object [("name", .str sensor.1), ("value", Json.get temperatures sensor.2)]))

/-- A number by its value, of which a boolean is one. -/
def numberOf : Json → Option ℚ
  | .int value => some value
  | .bool value => some (if value then 1 else 0)
  | .float (.finite x) => some x.value
  | _ => none

/-- The drive is at least as hot. -/
def atLeastAsHot (first second : String × Json) : Bool :=
  decide ((numberOf second.2).getD 0 ≤ (numberOf first.2).getD 0)

/-- `sorted(drives.items(), key=..., reverse=True)`, which keeps equals in their order. -/
def hottestFirst (sources : StatusSources) (drives : List (String × Json)) :
    Except CoreFailure (List (String × Json)) :=
  if drives.all fun drive => (numberOf drive.2).isSome then .ok (drives.mergeSort atLeastAsHot)
  else sources.unordered drives

/-- The entry of a drive. -/
def driveEntry (drive : String × Json) : Json :=
  .object [("name", .str drive.1), ("temperature_c", drive.2)]

/-- What the agent's data put into the status. -/
def agentUpdates (sources : StatusSources) (data : List (String × Json)) :
    Except CoreFailure (List (String × Json)) := do
  let backend ← membersOrNone (Json.get data "backend")
  let temperatures ← membersOrNone (Json.get backend "temperatures")
  let fanRpms := Json.orElse (Json.get backend "fan_rpms") (.object [])
  let drives ← membersOrNone (Json.get temperatures "drives_c")
  let ordered ← hottestFirst sources drives
  return [("mode", .str "full-control"), ("agent_available", .bool true),
    ("pwm_control_enabled", .bool true), ("pwm", Json.get backend "pwm"),
    ("backend", .object backend),
    ("safety", Json.orElse (Json.get data "safety") (.object [])),
    ("temperatures", .object temperatures),
    ("thresholds", Json.orElse (Json.get data "thresholds") (.object [])),
    ("drives", .array (ordered.map driveEntry)),
    ("fan", fanRpms), ("fan_rpms", fanRpms), ("sensors", legacySensors temperatures)]

/-- The part of the status that does not depend on what the data of the agent are. -/
def ownStatus (sources : StatusSources) (response : ClientResult) : List (String × Json) :=
  let system := [("profile", Json.str sources.profile), ("uptime", .str sources.uptime),
    ("load", .str sources.load)]
  let online := (agentPayload response).isSome
  assignAll defaultStatus (system ++
    [("system", .object system),
      ("capabilities", .object [("smart_available", .bool sources.smartAvailable)]),
      ("agent", .object [("online", .bool online), ("status_code", .int response.statusCode),
        ("error", .str (if online then ""
          else if response.error = "" then "invalid_response" else response.error)),
        ("last_refresh_epoch", .float (.finite sources.now))])])

/-- `_build_status_payload`, given what the client returned of the agent's status. -/
def buildStatusPayload (sources : StatusSources) (response : ClientResult) :
    Except CoreFailure (List (String × Json)) :=
  match agentPayload response with
  | none =>
      .ok (assignAll (ownStatus sources response)
        [("sensors", sources.sensors), ("fan", .object sources.fanRpms),
          ("fan_rpms", .object sources.fanRpms)])
  | some data => do
      return assignAll (ownStatus sources response) (← agentUpdates sources data)

/-- `status`, given what the client returned, if it did: whatever is raised, there is an
answer. -/
def statusPayload (sources : StatusSources) (response : Option ClientResult) :
    List (String × Json) :=
  match response with
  | none => defaultStatus
  | some response =>
      match buildStatusPayload sources response with
      | .ok payload => payload
      | .error _ => defaultStatus

/-- A request for the status, which asks the agent. -/
def status {Hardware : Type} (sources : StatusSources) (client : PwmClient Hardware)
    (clock : Clock) (service : ControlService Hardware) :
    List (String × Json) × ControlService Hardware :=
  (statusPayload sources (returned (client.request clock .status service)),
    resultState (client.request clock .status service))

end Core

theorem Python.Json.get_assign (name key : String) (value : Json) (members : List (String × Json)) :
    Json.get (assign key value members) name =
      if name = key then value else Json.get members name := by
  induction members with
  | nil =>
      rw [assign]
      by_cases h : name = key
      · rw [if_pos h, h, Json.get_cons_self]
      · rw [if_neg h, Json.get_cons_of_ne h]
  | cons member rest ih =>
      obtain ⟨first, held⟩ := member
      rw [assign]
      by_cases hfirst : first = key
      · rw [if_pos hfirst]
        by_cases h : name = key
        · rw [if_pos h, h, Json.get_cons_self]
        · rw [if_neg h, Json.get_cons_of_ne h, Json.get_cons_of_ne (hfirst ▸ h)]
      · rw [if_neg hfirst]
        by_cases h : name = first
        · rw [h, Json.get_cons_self, Json.get_cons_self, if_neg hfirst]
        · rw [Json.get_cons_of_ne h, Json.get_cons_of_ne h, ih]

/-- A name holds what it was assigned last. -/
theorem Python.Json.get_assignAll (members updates : List (String × Json)) (name : String) :
    Json.get (assignAll members updates) name =
      (updates.reverse.lookup name).getD (Json.get members name) := by
  induction updates using List.reverseRecOn with
  | nil => rfl
  | append_singleton updates item ih =>
      rw [assignAll_append_singleton, Json.get_assign, ih, List.reverse_append,
        List.reverse_singleton, List.singleton_append, List.lookup_cons]
      by_cases h : name = item.1
      · simp [h]
      · simp [h, beq_eq_false_iff_ne.mpr h]

namespace Core

/-- The status says that nothing can be controlled. -/
structure Locked (payload : List (String × Json)) : Prop where
  mode : Json.get payload "mode" = .str "monitoring-only"
  agentAvailable : Json.get payload "agent_available" = .bool false
  pwmControlEnabled : Json.get payload "pwm_control_enabled" = .bool false
  safety : Json.get payload "safety" = .object lockedSafety
  backend : Json.get payload "backend" = .object unknownBackend
  drives : Json.get payload "drives" = .array []

theorem locked_defaultStatus : Locked defaultStatus := by
  constructor <;> rfl

theorem locked_of_no_data (sources : StatusSources) (response : ClientResult) :
    Locked (assignAll (ownStatus sources response)
      [("sensors", sources.sensors), ("fan", .object sources.fanRpms),
        ("fan_rpms", .object sources.fanRpms)]) := by
  constructor <;> rfl

/-- What the status holds of the data of an agent. -/
structure Shows (payload : List (String × Json)) (agentBackend readings : List (String × Json))
    (agentSafety agentThresholds : Json) (ordered : List (String × Json)) : Prop where
  mode : Json.get payload "mode" = .str "full-control"
  agentAvailable : Json.get payload "agent_available" = .bool true
  pwmControlEnabled : Json.get payload "pwm_control_enabled" = .bool true
  backend : Json.get payload "backend" = .object agentBackend
  temperatures : Json.get payload "temperatures" = .object readings
  safety : Json.get payload "safety" = Json.orElse agentSafety (.object [])
  thresholds : Json.get payload "thresholds" = Json.orElse agentThresholds (.object [])
  pwm : Json.get payload "pwm" = Json.get agentBackend "pwm"
  drives : Json.get payload "drives" = .array (ordered.map driveEntry)

/-- Data that come through are shown. -/
theorem shows_of_agentUpdates {sources : StatusSources} {data updates : List (String × Json)}
    (response : ClientResult) (h : agentUpdates sources data = .ok updates) :
    ∃ backend temperatures drives ordered,
      membersOrNone (Json.get data "backend") = .ok backend ∧
      membersOrNone (Json.get backend "temperatures") = .ok temperatures ∧
      membersOrNone (Json.get temperatures "drives_c") = .ok drives ∧
      hottestFirst sources drives = .ok ordered ∧
      Shows (assignAll (ownStatus sources response) updates) backend temperatures
        (Json.get data "safety") (Json.get data "thresholds") ordered := by
  obtain ⟨backend, hbackend, h⟩ := bind_except_eq_ok h
  obtain ⟨temperatures, htemperatures, h⟩ := bind_except_eq_ok h
  obtain ⟨drives, hdrives, h⟩ := bind_except_eq_ok h
  obtain ⟨ordered, hordered, h⟩ := bind_except_eq_ok h
  cases h
  refine ⟨backend, temperatures, drives, ordered, hbackend, htemperatures, hdrives, hordered, ?_⟩
  constructor <;> (rw [Json.get_assignAll]; rfl)

/-- The client returned an answer with data that can be shown. -/
def Answered (sources : StatusSources) (response : Option ClientResult)
    (updates : List (String × Json)) : Prop :=
  ∃ answer data, response = some answer ∧ agentPayload answer = some data ∧
    agentUpdates sources data = .ok updates

theorem statusPayload_cases (sources : StatusSources) (response : Option ClientResult) :
    (∃ answer data updates, response = some answer ∧ agentPayload answer = some data ∧
      agentUpdates sources data = .ok updates ∧
      statusPayload sources response = assignAll (ownStatus sources answer) updates) ∨
    (¬ ∃ updates, Answered sources response updates) ∧
      Locked (statusPayload sources response) := by
  cases response with
  | none =>
      refine .inr ⟨?_, locked_defaultStatus⟩
      rintro ⟨updates, answer, data, hnone, -⟩
      cases hnone
  | some answer =>
      rw [statusPayload, buildStatusPayload]
      cases hdata : agentPayload answer with
      | none =>
          refine .inr ⟨?_, locked_of_no_data sources answer⟩
          rintro ⟨updates, answer', data, hanswer, hsome, -⟩
          cases hanswer
          rw [hdata] at hsome
          cases hsome
      | some data =>
          dsimp only
          cases hupdates : agentUpdates sources data with
          | ok updates => exact .inl ⟨answer, data, updates, rfl, hdata, hupdates, rfl⟩
          | error error =>
              refine .inr ⟨?_, locked_defaultStatus⟩
              rintro ⟨updates, answer', data', hanswer, hsome, hok⟩
              cases hanswer
              rw [hdata] at hsome
              cases hsome
              rw [hupdates] at hok
              cases hok

/-- Whatever the client returned or raised, the controls are offered exactly if an answer with
data came through whole; otherwise the status is locked. -/
theorem offered_iff_answered (sources : StatusSources) (response : Option ClientResult) :
    (Json.get (statusPayload sources response) "pwm_control_enabled" = .bool true ↔
      ∃ updates, Answered sources response updates) ∧
    (Json.get (statusPayload sources response) "pwm_control_enabled" ≠ .bool true →
      Locked (statusPayload sources response)) := by
  rcases statusPayload_cases sources response with
    ⟨answer, data, updates, hanswer, hdata, hupdates, hpayload⟩ | ⟨hnone, hlocked⟩
  · obtain ⟨backend, temperatures, drives, ordered, -, -, -, -, hshows⟩ :=
      shows_of_agentUpdates answer hupdates
    rw [hpayload]
    exact ⟨iff_of_true hshows.pwmControlEnabled ⟨updates, answer, data, hanswer, hdata, hupdates⟩,
      fun hne => absurd hshows.pwmControlEnabled hne⟩
  · refine ⟨iff_of_false ?_ hnone, fun _ => hlocked⟩
    rw [hlocked.pwmControlEnabled]
    simp

/-! ## An agent's status through the core -/

section Relay

variable {Hardware : Type} {client : PwmClient Hardware} {clock : Clock}
  {service after : ControlService Hardware} {snapshot : StatusPayload}

/-- The client's request for a status gets to an agent that admits it, and the answer back. -/
def Reaches (client : PwmClient Hardware) (authorization : List Char) : Prop :=
  client.delivery .status = .delivered ∧ client.authorization = .ok authorization ∧
    Agent.requireToken client.app.expectedToken authorization = .ok .admitted

/-- The data of a successful answer are the agent's. -/
theorem agentPayload_resultOf (data : List (String × Json)) :
    agentPayload (PwmClient.resultOf true 200 (Agent.resultOf (.object data)) "") = some data := rfl

theorem agentPayload_of_not_ok {response : ClientResult} (h : response.ok = false) :
    agentPayload response = none := by
  rw [agentPayload, h]
  rfl

/-- The agent's answer to an admitted request for a status. -/
theorem handle_status {app : Agent.App Hardware} {authorization : List Char}
    (hcheck : Agent.requireToken app.expectedToken authorization = .ok .admitted) :
    app.handle clock authorization .status service =
      Agent.serve (do
        let payload ← ControlService.status app.backend clock
        return Agent.resultOf (← ofExcept (app.renderStatus payload))) service := by
  rw [Agent.App.handle, hcheck]

/-- An answer that is no error is to an admitted request, and from a snapshot. -/
theorem handle_status_of_success {app : Agent.App Hardware} {authorization : List Char}
    {reply : Agent.HttpReply} (h : app.handle clock authorization .status service = (reply, after))
    (hsuccess : reply.statusCode < 400) :
    Agent.requireToken app.expectedToken authorization = .ok .admitted ∧
      ∃ snapshot body, ControlService.status app.backend clock service =
          .ok snapshot after ∧
        app.renderStatus snapshot = .ok body := by
  have herror (error : Failure) (hreply : Agent.answer (.error error) = reply) : False := by
    have hcode := Agent.answer_error_statusCode error
    rw [hreply] at hcode
    omega
  cases hcheck : Agent.requireToken app.expectedToken authorization with
  | error error =>
      rw [Agent.App.handle, hcheck] at h
      exact (herror error (congrArg Prod.fst h)).elim
  | ok check =>
      cases check with
      | refused statusCode detail =>
          rw [Agent.App.handle, hcheck] at h
          cases h
          exact absurd hsuccess (not_lt.mpr (Agent.le_statusCode_of_refused hcheck))
      | admitted =>
          rw [handle_status hcheck, Agent.serve] at h
          split at h
          next answer served hserved =>
            cases h
            obtain ⟨snapshot, between, hstatus, hrest⟩ := bind_eq_ok hserved
            obtain ⟨body, rendered, hrender, hreturn⟩ := bind_eq_ok hrest
            obtain ⟨hbody, rfl⟩ := ofExcept_eq_ok hrender
            cases hreturn
            exact ⟨rfl, snapshot, body, hstatus, hbody⟩
          next error _ _ => exact (herror error (congrArg Prod.fst h)).elim

/-- What an admitted request for a status leaves does not depend on its being rendered. -/
theorem handle_status_snd {app : Agent.App Hardware} {authorization : List Char}
    (hcheck : Agent.requireToken app.expectedToken authorization = .ok .admitted) :
    (app.handle clock authorization .status service).2 =
      resultState (ControlService.status app.backend clock service) := by
  rw [handle_status hcheck, Agent.serve]
  cases hstatus : ControlService.status app.backend clock service with
  | error error after => rw [bind_of_error hstatus, resultState_error]
  | ok payload after =>
      rw [bind_of_ok hstatus]
      cases app.renderStatus payload with
      | error error => rfl
      | ok body => rfl

/-- A snapshot that can be rendered reaches the core. -/
theorem request_status_of_ok {authorization : List Char} (reaches : Reaches client authorization)
    (hstatus : ControlService.status client.app.backend clock service = .ok snapshot after)
    {body : Json} (hrender : client.app.renderStatus snapshot = .ok body) :
    client.request clock .status service =
      .ok (PwmClient.resultOf true 200 (Agent.resultOf body) "") after := by
  obtain ⟨hdelivered, hauthorization, hcheck⟩ := reaches
  rw [PwmClient.request, hauthorization]
  dsimp only
  rw [handle_status hcheck, Agent.serve, bind_of_ok hstatus, hrender, hdelivered]
  rfl

/-- Data that reach the core come from a snapshot of the agent's service. -/
theorem exists_snapshot_of_agentPayload {answer : ClientResult} {data : List (String × Json)}
    (hrequest : client.request clock .status service = .ok answer after)
    (hdata : agentPayload answer = some data) :
    ∃ authorization snapshot body, Reaches client authorization ∧
      ControlService.status client.app.backend clock service = .ok snapshot after ∧
      client.app.renderStatus snapshot = .ok body := by
  have hok : answer.ok = true := by
    by_contra hnot
    rw [agentPayload_of_not_ok (Bool.eq_false_of_not_eq_true hnot)] at hdata
    cases hdata
  rw [PwmClient.request] at hrequest
  cases hauthorization : client.authorization with
  | error error =>
      rw [hauthorization] at hrequest
      cases hrequest
  | ok authorization =>
      rw [hauthorization] at hrequest
      dsimp only at hrequest
      cases hhandle : client.app.handle clock authorization .status service with
      | mk reply handled =>
          rw [hhandle] at hrequest
          dsimp only at hrequest
          cases hdelivery : client.delivery .status with
          | refused =>
              rw [hdelivery] at hrequest
              cases hrequest
              cases hok
          | lost =>
              rw [hdelivery] at hrequest
              cases hrequest
              cases hok
          | delivered =>
              rw [hdelivery] at hrequest
              dsimp only at hrequest
              split at hrequest
              next hsuccess =>
                cases hrequest
                obtain ⟨hcheck, snapshot, body, hstatus, hrender⟩ :=
                  handle_status_of_success hhandle hsuccess
                exact ⟨authorization, snapshot, body, ⟨hdelivery, hauthorization, hcheck⟩, hstatus,
                  hrender⟩
              next =>
                cases hrequest
                cases hok

/-- The drives of a snapshot, as the items of a dictionary. -/
def driveItems (snapshot : StatusPayload) : List (String × Json) :=
  snapshot.backend.temperatures.drivesC.map fun drive => (drive.1, .float drive.2)

theorem membersOrNone_object (members : List (String × Json)) :
    membersOrNone (.object members) = .ok members := by
  cases members with
  | nil => rfl
  | cons member rest => rfl

/-- Finite temperatures are put in order. -/
theorem hottestFirst_driveItems (sources : StatusSources)
    (finite : snapshot.backend.temperatures.AllFinite) :
    hottestFirst sources (driveItems snapshot) =
      .ok ((driveItems snapshot).mergeSort atLeastAsHot) := by
  apply if_pos
  rw [driveItems, List.all_map, List.all_eq_true]
  intro drive hdrive
  obtain ⟨x, hx⟩ := finite.drivesC drive hdrive
  simp [hx, numberOf]

theorem pairwise_mergeSort_atLeastAsHot (drives : List (String × Json)) :
    (drives.mergeSort atLeastAsHot).Pairwise fun first second => atLeastAsHot first second := by
  apply List.pairwise_mergeSort
  · intro first second third
    simp only [atLeastAsHot, decide_eq_true_eq]
    exact fun hfirst hsecond => hsecond.trans hfirst
  · intro first second
    simp only [atLeastAsHot, Bool.or_eq_true, decide_eq_true_eq]
    exact le_total _ _

/-- The data of a snapshot come through whole. -/
theorem agentUpdates_of_snapshot (sources : StatusSources)
    (finite : snapshot.backend.temperatures.AllFinite) (response : ClientResult) :
    ∃ updates, agentUpdates sources snapshot.toDict = .ok updates ∧
      Shows (assignAll (ownStatus sources response) updates) snapshot.backend.toDict
        snapshot.backend.temperatures.toDict (.object snapshot.safety.toDict)
        (.object (thresholdsDict snapshot.thresholds))
        ((driveItems snapshot).mergeSort atLeastAsHot) := by
  have hbackend : membersOrNone (Json.get snapshot.toDict "backend") =
      .ok snapshot.backend.toDict := membersOrNone_object _
  have htemperatures : membersOrNone (Json.get snapshot.backend.toDict "temperatures") =
      .ok snapshot.backend.temperatures.toDict := membersOrNone_object _
  have hdrives : membersOrNone (Json.get snapshot.backend.temperatures.toDict "drives_c") =
      .ok (driveItems snapshot) := membersOrNone_object _
  have hreturns : ∃ updates, agentUpdates sources snapshot.toDict = .ok updates := by
    rw [agentUpdates, bind_except_of_ok hbackend, bind_except_of_ok htemperatures]
    dsimp only
    rw [bind_except_of_ok hdrives, bind_except_of_ok (hottestFirst_driveItems sources finite)]
    exact ⟨_, rfl⟩
  obtain ⟨updates, hupdates⟩ := hreturns
  refine ⟨updates, hupdates, ?_⟩
  obtain ⟨backend, temperatures, drives, ordered, hbackend', htemperatures', hdrives', hordered,
    hshows⟩ := shows_of_agentUpdates response hupdates
  cases hbackend.symm.trans hbackend'
  cases htemperatures.symm.trans htemperatures'
  cases hdrives.symm.trans hdrives'
  cases (hottestFirst_driveItems sources finite).symm.trans hordered
  exact hshows

/-- The core shows the snapshot as it is, with the drives in the order of their temperatures,
hottest first. -/
def ShowsSnapshot (payload : List (String × Json)) (snapshot : StatusPayload) : Prop :=
  ∃ ordered, ordered.Perm (driveItems snapshot) ∧
    ordered.Pairwise (fun first second => atLeastAsHot first second) ∧
    Shows payload snapshot.backend.toDict snapshot.backend.temperatures.toDict
      (.object snapshot.safety.toDict) (.object (thresholdsDict snapshot.thresholds)) ordered

/-- A snapshot that can be rendered and reaches the core is what the status is made of. -/
theorem status_of_snapshot (rendered : client.app.renderStatus = Agent.renderStatus)
    (sources : StatusSources) {authorization : List Char} (reaches : Reaches client authorization)
    (hstatus : ControlService.status client.app.backend clock service = .ok snapshot after)
    (finite : snapshot.backend.temperatures.AllFinite) :
    ∃ answer updates, agentUpdates sources snapshot.toDict = .ok updates ∧
      (status sources client clock service).1 = assignAll (ownStatus sources answer) updates ∧
      ShowsSnapshot (status sources client clock service).1 snapshot := by
  have hrender : client.app.renderStatus snapshot = .ok (.object snapshot.toDict) := by
    rcases Agent.renderStatus_eq snapshot with ⟨hrender, -⟩ | ⟨-, hnot⟩
    · rw [rendered, hrender]
    · exact absurd finite hnot
  have hrequest := request_status_of_ok reaches hstatus hrender
  obtain ⟨updates, hupdates, hshows⟩ := agentUpdates_of_snapshot sources finite
    (PwmClient.resultOf true 200 (Agent.resultOf (.object snapshot.toDict)) "")
  have hpayload : (status sources client clock service).1 = assignAll (ownStatus sources
      (PwmClient.resultOf true 200 (Agent.resultOf (.object snapshot.toDict)) "")) updates := by
    rw [status, hrequest, returned_ok, statusPayload, buildStatusPayload, agentPayload_resultOf]
    dsimp only
    rw [hupdates]
    rfl
  rw [hpayload]
  exact ⟨_, updates, hupdates, rfl, _, List.mergeSort_perm _ _,
    pairwise_mergeSort_atLeastAsHot _, hshows⟩

/-- Controls that are offered are offered on the word of a finite snapshot. -/
theorem exists_snapshot_of_offered (rendered : client.app.renderStatus = Agent.renderStatus)
    {sources : StatusSources}
    (hoffered : Json.get (status sources client clock service).1 "pwm_control_enabled" =
      .bool true) :
    ∃ authorization snapshot after, Reaches client authorization ∧
      ControlService.status client.app.backend clock service = .ok snapshot after ∧
      snapshot.backend.temperatures.AllFinite := by
  rcases statusPayload_cases sources (returned (client.request clock .status service)) with
    ⟨answer, data, updates, hanswer, hdata, -, -⟩ | ⟨-, hlocked⟩
  · obtain ⟨after, hrequest⟩ := returned_eq_some_iff.mp hanswer
    obtain ⟨authorization, snapshot, body, reaches, hstatus, hrender⟩ :=
      exists_snapshot_of_agentPayload hrequest hdata
    refine ⟨authorization, snapshot, after, reaches, hstatus, ?_⟩
    rcases Agent.renderStatus_eq snapshot with ⟨-, finite⟩ | ⟨⟨message, herror⟩, -⟩
    · exact finite
    · rw [rendered, herror] at hrender
      cases hrender
  · rw [status, hlocked.pwmControlEnabled] at hoffered
    cases hoffered

end Relay

/-- The client of an agent on a tree with one channel, whose snapshots are rendered. -/
def renderingClient : PwmClient (FileTree × Unit) :=
  { PwmClient.oneChannelClient with
    app := { PwmClient.oneChannelClient.app with renderStatus := Agent.renderStatus } }

/-- A core with nothing of its own to show. -/
def bareSources : StatusSources where
  profile := "quiet"
  uptime := "1h 0m"
  load := "0.10 / 0.10 / 0.10"
  smartAvailable := true
  sensors := .array []
  fanRpms := []
  now := .ofInt 0
  unordered drives := .ok drives

theorem status_renderingClient :
    ∃ snapshot after, ControlService.status renderingClient.app.backend
        (.ofInt 1) PwmClient.oneChannelService = .ok snapshot after ∧
      snapshot.backend.temperatures.AllFinite := by
  have htemperatures : (returned (ControlService.status renderingClient.app.backend
      (.ofInt 1) PwmClient.oneChannelService)).map
        (fun snapshot => decide (snapshot.backend.temperatures =
          { emptyTemperatures with cpuC := degrees 40, maxDriveC := degrees 30 })) =
      some true := by
    decide +kernel
  obtain ⟨snapshot, hsnapshot, hreadings⟩ := Option.map_eq_some_iff.mp htemperatures
  obtain ⟨after, hstatus⟩ := returned_eq_some_iff.mp hsnapshot
  refine ⟨snapshot, after, hstatus, ?_⟩
  rw [of_decide_eq_true hreadings]
  constructor <;> simp [FiniteReading, emptyTemperatures, degrees]

theorem reaches_renderingClient : Reaches renderingClient "Bearer token".toList :=
  ⟨rfl, by decide, by decide⟩

end Core

end TrueFan
