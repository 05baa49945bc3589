/-
# The agent on the AST2600 board regulates sixteen channels

With a controller that applies commands the backend obeys, whatever the channels hold and
whether or not the sources answer, so the whole agent is a regulator of sixteen channels. What
the regulator goes by are then the values in the two replies, and the row of the safety table
they fall into can be read off the lists of values.
-/

import TrueFan.Ast2600.Device
import TrueFan.Ast2600.Sensors
import TrueFan.Ast2600.Tick
import TrueFan.Service.Regulator

namespace TrueFan

open Python Foundations

namespace Bmc

instance (bmc : Bmc) : Decidable bmc.Percentages := inferInstanceAs (Decidable (∀ _, _))

/-- The channels as the client can read them: a byte that is no percentage hides all of them. -/
def plant : Plant Bmc where
  mode bmc := if bmc.Percentages then bmc.mode else .unknown
  known bmc := if bmc.Percentages then bmc.duty else none
  command percent bmc := (bmc.step (.setDutyPercent percent)).2

variable {bmc : Bmc} {duty : ℤ}

theorem percentages_of_inPlace (h : plant.InPlace bmc duty) : bmc.Percentages := by
  by_contra hnot
  have hmode : (if bmc.Percentages then bmc.mode else .unknown) = .manual := h.1
  rw [if_neg hnot] at hmode
  cases hmode

theorem manualAt_of_inPlace (h : plant.InPlace bmc duty) : bmc.ManualAt duty := by
  have hpercentages := percentages_of_inPlace h
  have hmode : (if bmc.Percentages then bmc.mode else .unknown) = .manual := h.1
  have hknown : (if bmc.Percentages then bmc.duty else none) = some duty := h.2
  rw [if_pos hpercentages] at hmode hknown
  intro channel
  exact ⟨mode_eq_manual_iff.mp hmode channel, duty_eq_some_iff.mp hknown channel⟩

theorem known_le_hundred (h : plant.known bmc = some duty) : duty ≤ 100 := by
  have hknown : (if bmc.Percentages then bmc.duty else none) = some duty := h
  by_cases hpercentages : bmc.Percentages
  · rw [if_pos hpercentages] at hknown
    rw [← duty_eq_some_iff.mp hknown 0]
    exact_mod_cast hpercentages 0
  · rw [if_neg hpercentages] at hknown
    cases hknown

end Bmc

/-! ## The backend obeys -/

namespace Ast2600Ipmi.Applies

variable {Link : Type} {ipmi : Ast2600Ipmi Link} {channels : Link → Bmc}

/-- Where a byte is no percentage the status raises, and the channels stay as they are. -/
theorem status_illegible (applies : ipmi.Applies channels) {link : Link}
    (illegible : ¬ (channels link).Percentages) :
    ∃ error after, ipmi.status link = .error error after ∧ channels after = channels link := by
  obtain ⟨between, hmode, hsame⟩ := applies.readMode link
  obtain ⟨text, after, hrun, hsame', hprints⟩ := applies.duties between
  have hparse := parseBytes_of_printsBytes hprints (by simp)
  rw [hsame] at hsame' hparse
  have hrange : (((List.ofFn fun i => (channels link i).duty).map fun byte =>
      (byte.val : ℤ)).any fun value => value < 0 || 100 < value) = true := by
    obtain ⟨channel, hchannel⟩ := not_forall.mp illegible
    rw [List.any_map, List.any_eq_true]
    refine ⟨(channels link channel).duty, List.mem_ofFn.mpr ⟨channel, rfl⟩, ?_⟩
    simp only [Function.comp_apply, Bool.or_eq_true, decide_eq_true_eq]
    omega
  have hduty : ipmi.readDutyPercent between =
      .error (.backendCommandError "ipmi_invalid_duty") after := by
    have hvalues : (ofExcept (parseBytes ((some text).getD "")) :
        EStateM Failure Link (List ℤ)) after =
          .ok ((List.ofFn fun i => (channels link i).duty).map fun byte => (byte.val : ℤ))
            after := by
      rw [Option.getD_some, hparse]
      rfl
    rw [Ast2600Ipmi.readDutyPercent, bind_of_ok (raw_of_run hrun), bind_of_ok hvalues]
    dsimp only
    rw [if_pos hrange]
    rfl
  refine ⟨.backendCommandError "ipmi_invalid_duty", after, ?_, hsame'⟩
  rw [Ast2600Ipmi.status, bind_of_ok hmode, bind_of_error hduty]

end Ast2600Ipmi.Applies

namespace Ast2600Backend

section

variable {Link Sensors : Type} {backend : Ast2600Backend Link Sensors} {channels : Link → Bmc}

/-- What the sources come to, one asked after the other. -/
def readings (backend : Ast2600Backend Link Sensors) (sensors : Sensors) : Sensed where
  cpuC := (returned (backend.redfish sensors)).bind RedfishReading.cpuC
  maxDriveC := (returned (backend.truenas (resultState (backend.redfish sensors)))).bind
    TrueNasReading.maxDriveC

/-- What a call goes by: where the channels cannot be read, the sources are not asked. -/
def sensed (backend : Ast2600Backend Link Sensors) (channels : Link → Bmc)
    (hardware : Link × Sensors) : Sensed :=
  if (channels hardware.1).Percentages then backend.readings hardware.2 else ⟨none, none⟩

/-- The band of an enriched status is that of the readings. -/
theorem band_enriched (status : BackendStatus) (redfish : Option RedfishReading)
    (truenas : Option TrueNasReading) :
    (enriched status redfish truenas).band =
      (Sensed.mk (redfish.bind RedfishReading.cpuC)
        (truenas.bind TrueNasReading.maxDriveC)).band := by
  dsimp only [BackendStatus.band, Sensed.band, BackendStatus.Hot, enriched]
  congr 1
  cases redfish with
  | none => rfl
  | some thermal =>
      cases truenas with
      | none =>
          dsimp only [Option.bind_some]
          cases thermal.cpuC with
          | none => rfl
          | some cpu => rfl
      | some drives =>
          dsimp only [Option.bind_some]
          cases thermal.cpuC with
          | none => rfl
          | some cpu =>
              cases drives.maxDriveC with
              | none => rfl
              | some drive => rfl

theorem attempt_onSensors_eq {α : Type} (method : EStateM Failure Sensors α)
    (hardware : Link × Sensors) :
    attempt (onSensors method) hardware =
      .ok (returned (method hardware.2)) (hardware.1, resultState (method hardware.2)) := by
  unfold attempt onSensors zoom
  cases method hardware.2 with
  | ok value sensors => rfl
  | error error sensors => rfl

/-- Enriching asks the two sources one after the other. -/
theorem enrich_eq (backend : Ast2600Backend Link Sensors) (status : BackendStatus)
    (hardware : Link × Sensors) :
    ∃ sensors, backend.enrich status hardware =
      .ok (enriched status (returned (backend.redfish hardware.2))
        (returned (backend.truenas (resultState (backend.redfish hardware.2)))))
        (hardware.1, sensors) := by
  refine ⟨resultState (backend.truenas (resultState (backend.redfish hardware.2))), ?_⟩
  rw [enrich, bind_of_ok (attempt_onSensors_eq backend.redfish hardware),
    bind_of_ok (attempt_onSensors_eq backend.truenas _)]
  rfl

theorem enrich_onLink_of_ok (backend : Ast2600Backend Link Sensors)
    {method : EStateM Failure Link BackendStatus} {hardware : Link × Sensors}
    {reported : BackendStatus} {link : Link}
    (h : method hardware.1 = .ok reported link) :
    ∃ sensors, (do backend.enrich (← onLink method) :
        EStateM Failure (Link × Sensors) BackendStatus) hardware =
      .ok (enriched reported (returned (backend.redfish hardware.2))
        (returned (backend.truenas (resultState (backend.redfish hardware.2)))))
        (link, sensors) := by
  obtain ⟨sensors, henrich⟩ := enrich_eq backend reported (link, hardware.2)
  refine ⟨sensors, ?_⟩
  have hlink : onLink method hardware = .ok reported (link, hardware.2) := zoom_of_ok h
  rw [bind_of_ok hlink, henrich]

/-- With a controller that applies commands the backend obeys, over all sixteen channels. -/
theorem obeys (backend : Ast2600Backend Link Sensors) (applies : backend.ipmi.Applies channels) :
    Obeys backend.toFanBackend Bmc.plant (fun hardware => channels hardware.1)
      (backend.sensed channels) where
  status := by
    intro hardware
    by_cases hpercentages : (channels hardware.1).Percentages
    · obtain ⟨reported, link, hreported, hsame, hreport⟩ := applies.status hpercentages
      obtain ⟨hmode, hduty⟩ := Prod.mk.inj hreport
      obtain ⟨sensors, hcall⟩ := enrich_onLink_of_ok backend hreported
      refine ⟨_, _, bind_of_ok (attempt_of_ok hcall), hsame, ?_, ?_, ?_⟩
      · show reported.mode = if _ then _ else _
        rw [if_pos hpercentages, hmode]
      · show reported.dutyPercent = if _ then _ else _
        rw [if_pos hpercentages, hduty]
      · rw [band_enriched, sensed, if_pos hpercentages]
        rfl
    · obtain ⟨error, link, hreported, hsame⟩ := applies.status_illegible hpercentages
      have hlink : onLink backend.ipmi.status hardware = .error error (link, hardware.2) :=
        zoom_of_error hreported
      have hcall : (do backend.enrich (← onLink backend.ipmi.status) :
          EStateM Failure (Link × Sensors) BackendStatus) hardware =
            .error error (link, hardware.2) := bind_of_error hlink
      have hattempt : attempt (do backend.enrich (← onLink backend.ipmi.status) :
          EStateM Failure (Link × Sensors) BackendStatus) hardware =
            .ok none (link, hardware.2) := by
        rw [attempt, hcall]
      refine ⟨unreadable, _, bind_of_ok hattempt, hsame, ?_, ?_, ?_⟩
      · show Mode.unknown = if _ then _ else _
        rw [if_neg hpercentages]
      · show none = if _ then _ else _
        rw [if_neg hpercentages]
      · rw [sensed, if_neg hpercentages]
        rfl
  command := by
    intro percent hardware
    obtain ⟨readback, link, hset, hstep⟩ := applies.setDutyPercent hardware.1 percent
    obtain ⟨sensors, hcall⟩ := enrich_onLink_of_ok backend hset
    exact ⟨_, _, hcall, (Prod.mk.inj hstep).2⟩

/-- On a controller that acknowledges every command and answers every read, the agent is a regulator
of sixteen channels: every history of its service, with requests, restarts and other hands on the
controller, is read off a history of the regulator, with what is decided at each event, what the
channels hold and what is remembered. -/
theorem histories_regulate (applies : backend.ipmi.Applies channels)
    {service : ControlService (Link × Sensors)} (durable : service.policy.Durable)
    (events : List (ServiceEvent (Link × Sensors))) :
    ∃ regulated : List (RegulatorEvent Bmc),
      records (Regulator.step Bmc.plant)
          (service.regulator fun hardware => channels hardware.1) regulated =
        (records (ControlService.step backend.toFanBackend) service events).filterMap
          (Record.project (ControlService.regulator fun hardware => channels hardware.1)
            (ControlService.regulatorEvent (fun hardware => channels hardware.1)
              (backend.sensed channels)) ServiceOutcome.effectiveDuty) ∧
      finalState (Regulator.step Bmc.plant)
          (service.regulator fun hardware => channels hardware.1) regulated =
        (finalState (ControlService.step backend.toFanBackend) service events).regulator
          fun hardware => channels hardware.1 :=
  (ControlService.regulates (obeys backend applies)).records_eq durable events

/-- A blind agent ticks, restarts after another hand set all channels to 10%, and ticks. -/
theorem histories_regulate_blind :
    ∃ regulated : List (RegulatorEvent Bmc),
      records (Regulator.step Bmc.plant)
          ⟨fun _ => ⟨0, 40⟩, (SafetyPolicy.fresh fun _ => .stored).state⟩ regulated =
        (records (ControlService.step simulatedBlind.toFanBackend)
          (.init (fun _ => ⟨0, 40⟩, ()) (.fresh fun _ => .stored))
          [.tick (.ofInt 100), .disturb fun _ => (fun _ => ⟨2, 10⟩, ()), .restart,
            .tick (.ofInt 105)]).filterMap
          (Record.project (ControlService.regulator Prod.fst)
            (ControlService.regulatorEvent Prod.fst (simulatedBlind.sensed id))
            ServiceOutcome.effectiveDuty) ∧
      finalState (Regulator.step Bmc.plant)
          ⟨fun _ => ⟨0, 40⟩, (SafetyPolicy.fresh fun _ => .stored).state⟩ regulated =
        (finalState (ControlService.step simulatedBlind.toFanBackend)
          (.init (fun _ => ⟨0, 40⟩, ()) (.fresh fun _ => .stored))
          [.tick (.ofInt 100), .disturb fun _ => (fun _ => ⟨2, 10⟩, ()), .restart,
            .tick (.ofInt 105)]).regulator Prod.fst := by
  have durable : (ControlService.init ((fun _ => ⟨0, 40⟩ : Bmc), ())
      (.fresh fun _ => .stored)).policy.Durable := ⟨fun _ => rfl, rfl⟩
  exact @histories_regulate Bmc Unit simulatedBlind id Ast2600Ipmi.applies_simulated _ durable _

end

end Ast2600Backend

/-! ## What the replies say -/

/-- Every value is at most the bound. -/
def AllAtMost (values : List PyFloat) (bound : ℤ) : Prop :=
  ∀ value ∈ values, atMost value bound = true

instance (values : List PyFloat) (bound : ℤ) : Decidable (AllAtMost values bound) :=
  inferInstanceAs (Decidable (∀ value ∈ values, _))

open Classical in
/-- The row of the table that the CPU values and the drive values fall into. -/
noncomputable def bandOf (cpu drives : List PyFloat) : Band :=
  if Exceeds cpu hotCpuC ∨ Exceeds drives hotDriveC then .hot
  else if cpu = [] ∨ drives = [] then .failed
  else if AllAtMost cpu recoverCpuC ∧ AllAtMost drives recoverDriveC then .recovered
  else .warm

theorem maxOf_eq_none_iff {values : List PyFloat} : PyFloat.maxOf values = none ↔ values = [] := by
  cases values with
  | nil => exact iff_of_true rfl rfl
  | cons value rest => exact iff_of_false nofun nofun

theorem atMost_of_le {value greatest : PyFloat} {bound : ℤ}
    (hle : PyFloat.le value greatest = true) (hbound : atMost greatest bound = true) :
    atMost value bound = true := by
  cases greatest with
  | finite y =>
      cases value with
      | finite x =>
          have hxy : x.value ≤ y.value := by simpa [PyFloat.le, PyFloat.lt] using hle
          exact decide_eq_true (hxy.trans (of_decide_eq_true hbound))
      | posInf => cases hle
      | negInf => rfl
      | nan => cases hle
  | posInf => cases hbound
  | negInf =>
      cases value with
      | finite x => cases hle
      | posInf => cases hle
      | negInf => rfl
      | nan => cases hle
  | nan => cases hbound

/-- The maximum of numbers is at most a bound exactly if all of them are. -/
theorem atMost_maxOf_iff {values : List PyFloat} (nan : .nan ∉ values) {greatest : PyFloat}
    (hmax : PyFloat.maxOf values = some greatest) (bound : ℤ) :
    atMost greatest bound = true ↔ AllAtMost values bound := by
  have hmaximum := PyFloat.isMaximum_maxOf fun value hvalue => ne_of_mem_of_not_mem hvalue nan
  rw [hmax] at hmaximum
  obtain ⟨hmem, hle⟩ := hmaximum
  constructor
  · intro hbound value hvalue
    exact atMost_of_le (hle value hvalue) hbound
  · intro hall
    exact hall greatest hmem

/-- The band of the two maxima is the row the values fall into. -/
theorem band_maxOf {cpu drives : List PyFloat} (hcpu : .nan ∉ cpu) (hdrives : .nan ∉ drives) :
    (Sensed.mk (PyFloat.maxOf cpu) (PyFloat.maxOf drives)).band = bandOf cpu drives := by
  have hhot : (isHot (PyFloat.maxOf cpu) hotCpuC || isHot (PyFloat.maxOf drives) hotDriveC) =
      true ↔ Exceeds cpu hotCpuC ∨ Exceeds drives hotDriveC := by
    rw [Bool.or_eq_true, isHot_maxOf_iff hcpu, isHot_maxOf_iff hdrives]
  rw [Sensed.band, bandOf]
  by_cases hexceeds : Exceeds cpu hotCpuC ∨ Exceeds drives hotDriveC
  · rw [if_pos (hhot.mpr hexceeds), if_pos hexceeds]
  · rw [if_neg fun h => hexceeds (hhot.mp h), if_neg hexceeds]
    cases hcpuMax : PyFloat.maxOf cpu with
    | none => rw [if_pos (.inl (maxOf_eq_none_iff.mp hcpuMax))]
    | some greatest =>
        cases hdriveMax : PyFloat.maxOf drives with
        | none => rw [if_pos (.inr (maxOf_eq_none_iff.mp hdriveMax))]
        | some hottest =>
            have hne : ¬ (cpu = [] ∨ drives = []) := by
              rintro (rfl | rfl)
              · cases hcpuMax
              · cases hdriveMax
            have hcool : (atMost hottest recoverDriveC && atMost greatest recoverCpuC) = true ↔
                AllAtMost cpu recoverCpuC ∧ AllAtMost drives recoverDriveC := by
              rw [Bool.and_eq_true, atMost_maxOf_iff hcpu hcpuMax,
                atMost_maxOf_iff hdrives hdriveMax, and_comm]
            rw [if_neg hne]
            exact if_congr hcool rfl rfl

namespace Ast2600Backend

section

variable {Link Web Socket : Type} (str : Json → List Char) (lower : List Char → List Char)

/-- The two sources reply with the temperatures and the drives, everything in the replies is in
the range of floats, and nothing is a float that is no number. -/
structure Replies (redfish : RedfishThermalClient Web)
    (truenas : TrueNasTemperatureClient Socket) (sensors : Web × Socket)
    (temperatures : List Json) (drives : List (String × Json)) : Prop where
  thermal : ∃ payload fans after, redfish.read sensors.1 = .ok (.object payload) after ∧
    Redfish.Lists payload "Temperatures" temperatures ∧ Redfish.Lists payload "Fans" fans ∧
    Redfish.Fits str temperatures fans
  answers : ∃ after, truenas.Answers sensors.2 after drives
  nodup : (drives.map Prod.fst).Nodup
  sized : ∀ entry ∈ drives, ¬ Oversized entry.2
  cpu : .nan ∉ temperatures.filterMap (Redfish.cpuValue str lower)
  drive : .nan ∉ drives.filterMap (TrueNasTemperatureClient.groupValue lower false)

variable {str lower} {ipmi : Ast2600Ipmi Link} {redfish : RedfishThermalClient Web}
  {truenas : TrueNasTemperatureClient Socket} {channels : Link → Bmc}

/-- The readings are the maxima of the values in the replies. -/
theorem readings_of_replies {sensors : Web × Socket} {temperatures : List Json}
    {drives : List (String × Json)}
    (replies : Replies str lower redfish truenas sensors temperatures drives) :
    (ofClients str lower ipmi redfish truenas).readings sensors =
      ⟨PyFloat.maxOf (temperatures.filterMap (Redfish.cpuValue str lower)),
        PyFloat.maxOf (drives.filterMap (TrueNasTemperatureClient.groupValue lower false))⟩ := by
  obtain ⟨web, socket⟩ := sensors
  obtain ⟨payload, fans, web', hread, htemperatures, hfans, fits⟩ := replies.thermal
  obtain ⟨socket', answers⟩ := replies.answers
  have hthermal := RedfishThermalClient.fetch_of_object str lower hread
  rw [Redfish.parse_eq htemperatures hfans, if_pos fits] at hthermal
  have hdrives : truenas.fetch lower socket = _ :=
    TrueNasTemperatureClient.fetch_of_answers answers
  rw [TrueNasTemperatureClient.temperaturesOf_eq lower replies.nodup, if_pos replies.sized]
    at hdrives
  have hweb : onWeb (redfish.fetch str lower) (web, socket) = .ok _ (web', socket) :=
    zoom_of_ok hthermal
  have hsocket : onSocket (truenas.fetch lower) (web', socket) = .ok _ (web', socket') :=
    zoom_of_ok hdrives
  dsimp only [readings, ofClients]
  rw [hweb, resultState_ok, hsocket]
  rfl

/-- A tick of the regulator, on the channels: they end in manual mode at the duty decided on,
or, in the failed row, possibly at its clamp. -/
theorem manualAt_step_tick (regulator : Regulator Bmc) (now : Clock) (sensed : Sensed) {duty : ℤ}
    (h : (regulator.step Bmc.plant (.tick now sensed)).1 = some duty) :
    (regulator.step Bmc.plant (.tick now sensed)).2.held.ManualAt duty ∨
      sensed.band = .failed ∧
        (regulator.step Bmc.plant (.tick now sensed)).2.held.ManualAt (clampPercent duty) := by
  have hduty : sensed.band.duty regulator.memory.previousHot (Bmc.plant.known regulator.held)
      ((regulator.memory.liveOverride now).map fun override => override.dutyPercent.val) =
        duty := Option.some.inj h
  have hrange := Band.duty_mem_range_iff sensed.band regulator.memory.previousHot
    (fun percent (hknown : Bmc.plant.known regulator.held = some percent) =>
      Bmc.known_le_hundred hknown) (regulator.memory.liveOverride now)
  dsimp only [Regulator.step]
  rw [hduty] at hrange ⊢
  by_cases hplace : Bmc.plant.InPlace regulator.held duty
  · rw [if_pos hplace]
    exact .inl (Bmc.manualAt_of_inPlace hplace)
  · rw [if_neg hplace]
    have hmanual : (Bmc.plant.command duty regulator.held).ManualAt (clampPercent duty) :=
      Bmc.manualAt_allManual duty
    by_cases hfailed : sensed.band = .failed
    · exact .inr ⟨hfailed, hmanual⟩
    · obtain ⟨hmin, hmax⟩ := hrange.mpr fun hstarved => hfailed hstarved.1
      rw [clampPercent_of_mem hmin hmax] at hmanual
      exact .inl hmanual

/-- On such a controller, in every history, a tick that finds legible channels and gets two replies
publishes the duty of the row their values fall into, leaves the latch and the override as that
row says, and leaves all channels in manual mode at the duty, or in the failed row at its clamp. -/
theorem tick_follows_replies (applies : ipmi.Applies channels)
    {service : ControlService (Link × Web × Socket)} (durable : service.policy.Durable)
    (events : List (ServiceEvent (Link × Web × Socket))) :
    ∀ record ∈ records (ControlService.step (ofClients str lower ipmi redfish truenas).toFanBackend)
        service events, ∀ clock, record.event = .tick clock →
      (channels record.before.hardware.1).Percentages → ∀ temperatures drives,
      Replies str lower redfish truenas record.before.hardware.2 temperatures drives →
      ∃ payload, record.outcome = .published payload ∧
        let row := bandOf (temperatures.filterMap (Redfish.cpuValue str lower))
          (drives.filterMap (TrueNasTemperatureClient.groupValue lower false))
        let memory := record.before.policy.state
        payload.safety.effectiveDuty = row.duty memory.previousHot
            (channels record.before.hardware.1).duty
            ((memory.liveOverride clock).map fun override => override.dutyPercent.val) ∧
          record.after.policy.state =
            ⟨row.nextLatch memory.previousHot, memory.liveOverride clock⟩ ∧
          ((channels record.after.hardware.1).ManualAt payload.safety.effectiveDuty ∨
            row = .failed ∧ (channels record.after.hardware.1).ManualAt
              (clampPercent payload.safety.effectiveDuty)) := by
  intro record hmem clock hevent hpercentages temperatures drives replies
  have hdurable := records_invariant _ (ControlService.step_durable
    (ofClients str lower ipmi redfish truenas).toFanBackend) durable events record hmem
  have hstep := step_of_mem_records _ hmem
  rw [hevent, ControlService.step] at hstep
  obtain ⟨payload, after, htick, hregulates⟩ := ControlService.tick_regulates
    (obeys (ofClients str lower ipmi redfish truenas) applies) hdurable clock
  rw [htick] at hstep
  obtain ⟨houtcome, hafter⟩ := Prod.mk.inj hstep
  have hsensed : (ofClients str lower ipmi redfish truenas).sensed channels
      record.before.hardware =
        ⟨PyFloat.maxOf (temperatures.filterMap (Redfish.cpuValue str lower)),
          PyFloat.maxOf (drives.filterMap
            (TrueNasTemperatureClient.groupValue lower false))⟩ := by
    rw [sensed, if_pos hpercentages, readings_of_replies replies]
  have hrow := band_maxOf replies.cpu replies.drive
  rw [hsensed] at hregulates
  have hduty := congrArg Prod.fst hregulates
  have hregulator := congrArg Prod.snd hregulates
  have hmanual := manualAt_step_tick _ _ _ hduty.symm
  rw [← hregulator, hrow] at hmanual
  refine ⟨payload, houtcome.symm, ?_, ?_, ?_⟩
  · have hknown : Bmc.plant.known (channels record.before.hardware.1) =
        (channels record.before.hardware.1).duty := if_pos hpercentages
    rw [← hrow, ← hknown]
    exact Option.some.inj hduty
  · rw [← hafter, ← hrow]
    exact congrArg Regulator.memory hregulator
  · rw [← hafter]
    exact hmanual

end

/-- A board in good health with one drive at 51 degrees. -/
def hotDrive : Ast2600Backend Bmc (Unit × List Json) :=
  ofClients Redfish.textOf (List.map Char.toLower) Ast2600Ipmi.simulated
    ⟨return .object [("Temperatures", .array Redfish.healthyTemperatures), ("Fans", .null)]⟩
    TrueNasTemperatureClient.scripted

theorem replies_hotDrive :
    Replies Redfish.textOf (List.map Char.toLower)
      ⟨return .object [("Temperatures", .array Redfish.healthyTemperatures), ("Fans", .null)]⟩
      TrueNasTemperatureClient.scripted ((), TrueNasTemperatureClient.script [("sda", .int 51)])
      Redfish.healthyTemperatures [("sda", .int 51)] where
  thermal := by
    refine ⟨_, [], (), rfl, .list _ rfl, .null rfl, ?_⟩
    decide +kernel
  answers := ⟨_, TrueNasTemperatureClient.answers_script _⟩
  nodup := by decide
  sized := by decide +kernel
  cpu := by decide +kernel
  drive := by decide +kernel

/-- It takes one tick from 40% to full speed. -/
theorem tick_follows_replies_hotDrive :
    ∃ payload after, ControlService.step hotDrive.toFanBackend
        (.init ((fun _ => ⟨2, 40⟩ : Bmc), (), TrueNasTemperatureClient.script [("sda", .int 51)])
          (.fresh fun _ => .stored)) (.tick (.ofInt 100)) = (.published payload, after) ∧
      payload.safety.effectiveDuty = 100 ∧ after.hardware.1.ManualAt 100 := by
  have durable : (ControlService.init ((fun _ => ⟨2, 40⟩ : Bmc), ((),
      TrueNasTemperatureClient.script [("sda", .int 51)]))
      (.fresh fun _ => .stored)).policy.Durable := ⟨fun _ => rfl, rfl⟩
  obtain ⟨payload, houtcome, hduty, -, hmanual⟩ :=
    tick_follows_replies Ast2600Ipmi.applies_simulated durable [.tick (.ofInt 100)] _
      List.mem_cons_self _ rfl (by decide) _ _ replies_hotDrive
  have hrow : bandOf
      (Redfish.healthyTemperatures.filterMap
        (Redfish.cpuValue Redfish.textOf (List.map Char.toLower)))
      ([("sda", Json.int 51)].filterMap
        (TrueNasTemperatureClient.groupValue (List.map Char.toLower) false)) = .hot := by
    apply if_pos
    right
    refine ⟨by decide +kernel, .ofInt 51, by decide +kernel, ?_⟩
    decide +kernel
  rw [hrow] at hduty hmanual
  have hfull : payload.safety.effectiveDuty = 100 := hduty
  refine ⟨payload, _, Prod.ext houtcome rfl, hfull, ?_⟩
  rw [hfull] at hmanual
  rcases hmanual with hmanual | ⟨hfailed, -⟩
  · exact hmanual
  · cases hfailed

end Ast2600Backend

end TrueFan
