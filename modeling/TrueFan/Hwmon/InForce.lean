/-
# What one channel keeps

On a machine with one PWM channel a tick omits the write where the channel already reads as the
duty, and that may be wrong: a channel that holds less than the minimum reads as the minimum, and
one under automatic control reads as under manual control. Commands never bring the channel there,
also where they raise half way, and no restart does. So from the first command that returned, or
from a channel that was found in order, every duty that is reported is in force.
-/

import TrueFan.Hwmon.Tick
import TrueFan.Service.Parts

namespace TrueFan

open Python Foundations

/-- The tree has the one channel, which holds a byte; and where that is asked for, the byte reads
as what it stands for and the channel is under manual control. -/
def Keeps (ordered : Prop) (pwm : Path) (tree : FileTree) : Prop :=
  ∃ raw, OneChannel tree pwm raw ∧ (ordered → ManualControl tree pwm ∧ 55 ≤ raw.val)

variable {tree after : FileTree} {pwm : Path} {raw : Fin 256} {ordered : Prop}

theorem readInt_eq_some_iff {number : ℤ} :
    readInt tree pwm = some number ↔
      FileTree.Readable tree.layout pwm ∧ storedInt tree pwm = some number := by
  constructor
  · intro h
    refine ⟨?_, storedInt_of_readInt h⟩
    rw [readInt] at h
    split at h
    next text hread => exact (FileTree.read_eq_ok_iff.mp hread).1
    next => cases h
  · rintro ⟨readable, hstored⟩
    rw [storedInt] at hstored
    split at hstored
    next text hcontent =>
      rw [readInt, FileTree.read_eq_ok_iff.mpr ⟨readable, hcontent⟩]
      exact hstored
    next => cases hstored

/-- What a channel is depends on the layout and on what it holds. -/
theorem OneChannel.congr {raw' : Fin 256} (one : OneChannel tree pwm raw)
    (layout : after.layout = tree.layout) (holds : storedInt after pwm = some (raw'.val : ℤ)) :
    OneChannel after pwm raw' where
  discovered := by rw [layout, one.discovered]
  reads := by
    rw [readInt_eq_some_iff, layout]
    exact ⟨(readInt_eq_some_iff.mp one.reads).1, holds⟩
  apart := by rw [layout]; exact one.apart

/-- Another hand leaves the channel alone: the files are the same, and the channel and its enable
file hold what they held. Any file may begin or cease to refuse writes. -/
structure Spares (pwm : Path) (tree after : FileTree) : Prop where
  layout : after.layout = tree.layout
  channel : after.stored pwm = tree.stored pwm
  enable : after.stored (enablePath pwm) = tree.stored (enablePath pwm)

theorem ManualControl.congr (manual : ManualControl tree pwm) (layout : after.layout = tree.layout)
    (enable : after.stored (enablePath pwm) = tree.stored (enablePath pwm)) :
    ManualControl after pwm := by
  intro hfile
  rw [layout] at hfile
  have hone := manual hfile
  rwa [storedInt, ← enable] at hone

theorem Keeps.loose (keeps : Keeps ordered pwm tree) : Keeps False pwm tree := by
  obtain ⟨raw, one, -⟩ := keeps
  exact ⟨raw, one, nofun⟩

theorem Keeps.spared (keeps : Keeps ordered pwm tree) (spares : Spares pwm tree after) :
    Keeps ordered pwm after := by
  obtain ⟨raw, one, horder⟩ := keeps
  have hholds : storedInt after pwm = some (raw.val : ℤ) := by
    rw [storedInt, spares.channel]
    exact storedInt_of_readInt one.reads
  refine ⟨raw, one.congr spares.layout hholds, fun hordered => ?_⟩
  exact ⟨(horder hordered).1.congr spares.layout spares.enable, (horder hordered).2⟩

/-- The raw value of a duty in range is a byte that reads as that duty. -/
theorem percentToPwm_byte (percent : ℤ) :
    ∃ raw : Fin 256, percentToPwm (clampPercent percent) = (raw.val : ℤ) ∧ 55 ≤ raw.val := by
  have hmin := minimum_le_clampPercent percent
  have hmax := clampPercent_le_maximum percent
  have hall : ∀ duty : Fin 101, 22 ≤ duty.val →
      55 ≤ percentToPwm duty.val ∧ percentToPwm duty.val < 256 := by
    decide +kernel
  generalize clampPercent percent = duty at hmin hmax
  lift duty to ℕ using by omega
  obtain ⟨hlow, hhigh⟩ := hall ⟨duty, by omega⟩ (by exact_mod_cast hmin)
  dsimp only at hlow hhigh
  refine ⟨⟨(percentToPwm duty).toNat, by omega⟩, ?_, ?_⟩
  · show percentToPwm duty = ((percentToPwm duty).toNat : ℤ)
    omega
  · show 55 ≤ (percentToPwm duty).toNat
    omega

theorem preserves_writeText {property : FileTree → Prop} {path : Path} {text : List Char}
    (h : ∀ {tree after}, property tree → tree.write path text = some after → property after) :
    Preserves property (writeText path text) := by
  intro tree hproperty
  rw [writeText]
  split
  next after hwrite => exact h hproperty hwrite
  next => exact hproperty

/-- Enabling manual control keeps the channel, whether the write succeeds or not. -/
theorem preserves_writeEnable : Preserves (Keeps ordered pwm) (writeEnable pwm) := by
  intro tree keeps
  obtain ⟨raw, one, horder⟩ := keeps
  rw [writeEnable, get_bind_apply]
  split
  next hfile =>
    rw [writeText]
    split
    next after hwrite =>
      rw [resultState_ok]
      have hlayout := FileTree.layout_of_write hfile hwrite
      have hholds : storedInt after pwm = some (raw.val : ℤ) := by
        rw [storedInt, FileTree.stored_of_write_of_ne hfile hwrite one.apart.symm]
        exact storedInt_of_readInt one.reads
      refine ⟨raw, one.congr hlayout hholds, fun hordered => ⟨fun _ => ?_, (horder hordered).2⟩⟩
      rw [storedInt, FileTree.stored_of_write hfile hwrite]
      decide
    next => exact ⟨raw, one, horder⟩
  next => exact ⟨raw, one, horder⟩

/-- Storing the raw value of a duty keeps the channel, whether the write succeeds or not. -/
theorem preserves_writeChannel (percent : ℤ) :
    Preserves (Keeps ordered pwm)
      (writeText pwm (printInt (percentToPwm (clampPercent percent)))) := by
  apply preserves_writeText
  rintro tree after ⟨raw, one, horder⟩ hwrite
  have hfile := isFile_of_readInt one.reads
  have hlayout := FileTree.layout_of_write hfile hwrite
  obtain ⟨raw', hraw, hlow⟩ := percentToPwm_byte percent
  have hholds : storedInt after pwm = some (raw'.val : ℤ) := by
    rw [storedInt, FileTree.stored_of_write hfile hwrite, ← hraw]
    exact parseInt_printInt_percentToPwm (minimum_le_clampPercent percent)
      (clampPercent_le_maximum percent)
  refine ⟨raw', one.congr hlayout hholds, fun hordered => ⟨?_, hlow⟩⟩
  exact (horder hordered).1.congr hlayout (FileTree.stored_of_write_of_ne hfile hwrite one.apart)

namespace HwmonPwmBackend

variable {Sensors : Type} {order : IterationOrder}
  {sensorReader : FileTree → EStateM Failure Sensors HwmonSensors}

/-- A write to the channels that were discovered keeps the one channel. -/
theorem keeps_writePwmValue (percent : ℤ) (keeps : Keeps ordered pwm tree) :
    Keeps ordered pwm (resultState (writePwmValue order (percentToPwm (clampPercent percent))
      (discoverPwmFiles tree.layout) tree)) := by
  have hdiscovered : discoverPwmFiles tree.layout = [pwm] := by
    obtain ⟨raw, one, -⟩ := keeps
    exact one.discovered
  rw [writePwmValue, get_bind_apply]
  cases htarget : pwmTarget order tree.layout (discoverPwmFiles tree.layout) with
  | none => exact keeps
  | some target =>
      have htargets := targets_of_pwmTarget htarget
      rw [hdiscovered] at htargets
      obtain rfl := target_eq_of_discovered hdiscovered htargets
      dsimp only
      split
      · have hwrite : Preserves (Keeps ordered target) (do
            writeEnable target
            writeText target (printInt (percentToPwm (clampPercent percent)))
            return some target) :=
          .bind preserves_writeEnable fun _ => .bind (preserves_writeChannel percent) fun _ =>
            .pure _
        obtain ⟨raw, one, -⟩ := id keeps
        rw [purePath_of_plain one.plain]
        exact hwrite tree keeps
      · exact keeps

/-- A status changes no file, also where the reader of the sensors raises. -/
theorem tree_status (backend : HwmonPwmBackend Sensors) (hardware : FileTree × Sensors) :
    (resultState (backend.status hardware)).1 = hardware.1 := by
  rw [HwmonPwmBackend.status, get_bind_apply, bind_apply]
  have hsensors := resultState_zoom Prod.snd
    (fun sensors (hardware : FileTree × Sensors) => (hardware.1, sensors))
    (backend.sensorReader hardware.1) hardware
  cases h : onSensors (backend.sensorReader hardware.1) hardware with
  | ok sensors between =>
      rw [onSensors] at h
      rw [h, resultState_ok] at hsensors
      rw [hsensors]
      rfl
  | error error between =>
      rw [onSensors] at h
      rw [h, resultState_error] at hsensors
      rw [hsensors]
      rfl

theorem preserves_status (backend : HwmonPwmBackend Sensors) :
    Preserves (fun hardware => Keeps ordered pwm hardware.1) backend.status := by
  intro hardware keeps
  rw [tree_status]
  exact keeps

/-- A command keeps the channel wherever it gets to. -/
theorem preserves_setDutyPercent (percent : ℤ) :
    Preserves (fun hardware => Keeps ordered pwm hardware.1)
      ((ofReader order sensorReader).setDutyPercent percent) := by
  intro hardware keeps
  have hwrite : Keeps ordered pwm (resultState (writePwmValue order
      (percentToPwm (clampPercent percent)) (discoverPwmFiles hardware.1.layout) hardware.1)) :=
    keeps_writePwmValue percent keeps
  have hbetween : resultState (onTree ((ofReader order sensorReader).write
      (percentToPwm (clampPercent percent))
      ((ofReader order sensorReader).discover hardware.1.layout)) hardware) =
        (resultState (writePwmValue order (percentToPwm (clampPercent percent))
          (discoverPwmFiles hardware.1.layout) hardware.1), hardware.2) :=
    resultState_zoom ..
  rw [HwmonPwmBackend.setDutyPercent, get_bind_apply, bind_apply]
  cases h : onTree ((ofReader order sensorReader).write (percentToPwm (clampPercent percent))
      ((ofReader order sensorReader).discover hardware.1.layout)) hardware with
  | error error between =>
      rw [h, resultState_error] at hbetween
      rw [hbetween]
      exact hwrite
  | ok result between =>
      rw [h, resultState_ok] at hbetween
      rw [hbetween]
      cases result with
      | none => exact hwrite
      | some target =>
          refine Preserves.bind (preserves_status _) (fun status => ?_) (_, hardware.2) hwrite
          dsimp only
          split
          · exact .bind (.throw _) fun _ => .pure _
          · exact .bind (.pure _) fun _ => .pure _

/-! ## Duties in force -/

variable {clock : Clock} {service finished : ControlService (FileTree × Sensors)}

/-- A command that returned leaves the channel in order at the duty. -/
theorem settles_of_setDutyPercent {percent : ℤ} {hardware commanded : FileTree × Sensors}
    {readback : BackendStatus} (keeps : Keeps False pwm hardware.1) (hmin : 22 ≤ percent)
    (hmax : percent ≤ 100)
    (h : (ofReader order sensorReader).setDutyPercent percent hardware = .ok readback commanded) :
    SettledAt commanded.1 pwm percent := by
  obtain ⟨raw, one, -⟩ := keeps
  obtain ⟨tree, sensors⟩ := hardware
  exact settledAt_of_setDutyPercent one hmin hmax h

/-- A channel that is settled at a duty from the minimum on is in order. -/
theorem keeps_of_settledAt {duty : ℤ} (keeps : Keeps False pwm tree) (hmin : 22 ≤ duty)
    (settled : SettledAt tree pwm duty) : Keeps True pwm tree := by
  obtain ⟨raw, one, -⟩ := keeps
  obtain ⟨manual, number, hstored, hpercent⟩ := settled
  obtain rfl := Option.some.inj ((storedInt_of_readInt one.reads).symm.trans hstored)
  refine ⟨raw, one, fun _ => ⟨manual, (rawPercent_byte raw).2.mp ?_⟩⟩
  rwa [hpercent]

/-- A tick that returns leaves a channel that was in order settled at the duty it publishes. -/
theorem settles_of_tick {payload : StatusPayload} (keeps : Keeps True pwm service.hardware.1)
    (h : ControlService.tick (ofReader order sensorReader).toFanBackend clock service =
      .ok payload finished) :
    22 ≤ payload.safety.effectiveDuty ∧
      SettledAt finished.hardware.1 pwm payload.safety.effectiveDuty := by
  obtain ⟨raw, one, horder⟩ := keeps
  obtain ⟨before, hardware, hstatus, hasked, hcommand⟩ := ControlService.tick_eq_ok h
  obtain ⟨htree, -, hknown⟩ := status_of_oneChannel one hstatus
  have hrange := duty_mem_range before.band service.policy.state.previousHot raw
    (service.policy.state.liveOverride clock)
  rw [← hknown, ← hasked] at hrange
  refine ⟨hrange.1, ?_⟩
  rcases hcommand with ⟨hplace, hafter⟩ | ⟨-, hset⟩
  · have hduty : pwmToPercent raw.val = payload.safety.effectiveDuty :=
      Option.some.inj (hknown.symm.trans hplace.2)
    rw [hafter, htree, ← hduty]
    exact (settledAt_reading_iff one).mpr (horder trivial)
  · rw [← htree] at one
    exact settles_of_setDutyPercent ⟨raw, one, nofun⟩ hrange.1 hrange.2 hset

/-- A request that returns leaves the channel settled at the duty it answers, whatever it found. -/
theorem settles_of_requestDuty {dutyPercent ttlSeconds : Json} {result : MutationResult}
    (keeps : Keeps False pwm service.hardware.1)
    (h : ControlService.requestDuty (ofReader order sensorReader).toFanBackend clock dutyPercent
      ttlSeconds service = .ok result finished) :
    22 ≤ result.effectiveDuty ∧ SettledAt finished.hardware.1 pwm result.effectiveDuty := by
  obtain ⟨raw, one, -⟩ := keeps
  obtain ⟨before, hardware, decision, policy, readback, hstatus, hrequest, -, hset, rfl⟩ :=
    ControlService.requestDuty_eq_ok h
  obtain ⟨htree, -, hknown⟩ := status_of_oneChannel one hstatus
  obtain ⟨duty, ttl, hduty, httl⟩ := SafetyPolicy.valid_of_requestOverride_eq_ok hrequest
  have hrange := duty_mem_range before.band service.policy.state.previousHot raw
    (some ⟨duty, .float (SafetyPolicy.expiresAt clock ttl)⟩)
  rw [Option.map_some, ← hknown,
    ← SafetyPolicy.effectiveDuty_of_requestOverride hduty httl hrequest] at hrange
  rw [← htree] at one
  exact ⟨hrange.1, settles_of_setDutyPercent ⟨raw, one, nofun⟩ hrange.1 hrange.2 hset⟩

/-! ## Histories -/

/-- The event is not another hand that touches the channel. -/
def LeavesChannel (pwm : Path) (event : ServiceEvent (FileTree × Sensors)) : Prop :=
  ∀ change, event = .disturb change → ∀ hardware, Spares pwm hardware.1 (change hardware).1

/-- The duty that was reported at the event, if one was, is at least the minimum and in force
after it: the channel is under manual control, and what it holds stands for that duty. -/
def InForce (pwm : Path) (record : ControlService.ServiceRecord (FileTree × Sensors)) : Prop :=
  ∀ duty, record.outcome.effectiveDuty = some duty →
    22 ≤ duty ∧ SettledAt record.after.hardware.1 pwm duty

/-- No event makes less of the channel. -/
theorem keeps_step {event : ServiceEvent (FileTree × Sensors)} (leaves : LeavesChannel pwm event)
    (keeps : Keeps ordered pwm service.hardware.1) :
    Keeps ordered pwm (ControlService.step (ofReader order sensorReader).toFanBackend service
      event).2.hardware.1 := by
  have kept : ControlService.KeptByParts (ofReader order sensorReader).toFanBackend
      fun service => Keeps ordered pwm service.hardware.1 :=
    @ControlService.keptByParts_hardware _ _
      (fun hardware : FileTree × Sensors => Keeps ordered pwm hardware.1) (preserves_status _)
      preserves_setDutyPercent
  exact kept.step (fun change hevent => keeps.spared (leaves change hevent service.hardware))
    keeps

/-- What a request or a tick reports is in force: for a request whatever it found, for a tick if
the channel was in order. -/
theorem settles_of_step {event : ServiceEvent (FileTree × Sensors)} {duty : ℤ}
    (hduty : (ControlService.step (ofReader order sensorReader).toFanBackend service
      event).1.effectiveDuty = some duty)
    (keeps : Keeps (∃ payload, (ControlService.step (ofReader order sensorReader).toFanBackend
      service event).1 = .published payload) pwm service.hardware.1) :
    22 ≤ duty ∧ SettledAt (ControlService.step (ofReader order sensorReader).toFanBackend service
      event).2.hardware.1 pwm duty := by
  cases event with
  | tick clock =>
      obtain ⟨payload, after, htick, hpublished⟩ :=
        ControlService.outcome_effectiveDuty_eq_some hduty
      have hstep : ControlService.step (ofReader order sensorReader).toFanBackend service
          (.tick clock) = (.published payload, after) := by
        rw [ControlService.step, htick]
        rfl
      rw [hstep] at keeps ⊢
      cases hpublished
      obtain ⟨raw, one, horder⟩ := keeps
      exact settles_of_tick ⟨raw, one, fun _ => horder ⟨payload, rfl⟩⟩ htick
  | requestDuty clock dutyPercent ttlSeconds =>
      obtain ⟨result, after, hrequest, hanswered⟩ :=
        ControlService.outcome_effectiveDuty_eq_some hduty
      rw [ControlService.step, hrequest]
      cases hanswered
      exact settles_of_requestDuty keeps.loose hrequest
  | requestProfile clock profile ttlSeconds =>
      obtain ⟨result, after, hrequest, hanswered⟩ :=
        ControlService.outcome_effectiveDuty_eq_some hduty
      obtain ⟨percent, answer, -, hanswer, rfl⟩ := ControlService.requestProfile_eq_ok hrequest
      rw [ControlService.step, hrequest]
      cases hanswered
      have hsettled := settles_of_requestDuty keeps.loose hanswer
      exact hsettled
  | restart =>
      rw [ControlService.step_restart] at hduty
      split at hduty
      · cases hduty
      · cases hduty
  | disturb change => cases hduty

section Histories

variable {events : List (ServiceEvent (FileTree × Sensors))}

theorem keeps_finalState (leaves : ∀ event ∈ events, LeavesChannel pwm event)
    (keeps : Keeps ordered pwm service.hardware.1) :
    Keeps ordered pwm (finalState (ControlService.step (ofReader order sensorReader).toFanBackend)
      service events).hardware.1 := by
  induction events generalizing service with
  | nil => exact keeps
  | cons event rest ih =>
      rw [List.forall_mem_cons] at leaves
      exact ih leaves.2 (keeps_step leaves.1 keeps)

/-- From a channel in order on, everything reported is in force. -/
theorem inForce_of_ordered (leaves : ∀ event ∈ events, LeavesChannel pwm event)
    (keeps : Keeps True pwm service.hardware.1) :
    ∀ record ∈ records (ControlService.step (ofReader order sensorReader).toFanBackend) service
      events, InForce pwm record := by
  induction events generalizing service with
  | nil => exact List.forall_mem_nil _
  | cons event rest ih =>
      rw [List.forall_mem_cons] at leaves
      rw [records_cons, List.forall_mem_cons]
      refine ⟨fun duty hduty => ?_, ih leaves.2 (keeps_step leaves.1 keeps)⟩
      obtain ⟨raw, one, horder⟩ := keeps
      exact settles_of_step hduty ⟨raw, one, fun _ => horder trivial⟩

/-- From the first answered request on, what is reported is in force. In any history on one
channel that no other hand touches, whatever writes raise and whatever restarts come between: once
a request was answered, or the channel was found settled at a duty from the minimum on, every duty
that a tick publishes or a request answers is in force. -/
theorem reported_in_force (one : OneChannel service.hardware.1 pwm raw)
    (leaves : ∀ event ∈ events, LeavesChannel pwm event)
    {earlier later : List (ControlService.ServiceRecord (FileTree × Sensors))}
    {record : ControlService.ServiceRecord (FileTree × Sensors)}
    (h : records (ControlService.step (ofReader order sensorReader).toFanBackend) service events =
      earlier ++ record :: later)
    (established : (∃ result, record.outcome = .answered result) ∨
      ∃ duty, 22 ≤ duty ∧ SettledAt record.before.hardware.1 pwm duty) :
    ∀ next ∈ record :: later, InForce pwm next := by
  obtain ⟨first, second, rfl, -, hsecond⟩ := exists_of_records_eq_append _ h
  have hfirst (event) (hmem : event ∈ first) : LeavesChannel pwm event :=
    leaves event (List.mem_append_left _ hmem)
  have hrest (event) (hmem : event ∈ second) : LeavesChannel pwm event :=
    leaves event (List.mem_append_right _ hmem)
  have hloose : Keeps False pwm (finalState (ControlService.step
      (ofReader order sensorReader).toFanBackend) service first).hardware.1 :=
    keeps_finalState hfirst ⟨raw, one, nofun⟩
  generalize finalState _ service first = between at hsecond hloose
  cases second with
  | nil => cases hsecond
  | cons event rest =>
      rw [records_cons] at hsecond
      obtain ⟨rfl, rfl⟩ := List.cons.inj hsecond
      rw [List.forall_mem_cons] at hrest
      rcases established with ⟨result, hanswered⟩ | ⟨duty, hmin, hsettled⟩
      · -- the request itself brings the channel into order
        have hreported (duty : ℤ) (hduty : (ControlService.step
            (ofReader order sensorReader).toFanBackend between event).1.effectiveDuty = some duty) :
            22 ≤ duty ∧ SettledAt (ControlService.step (ofReader order sensorReader).toFanBackend
              between event).2.hardware.1 pwm duty := by
          obtain ⟨raw, one, -⟩ := hloose
          refine settles_of_step hduty ⟨raw, one, ?_⟩
          rintro ⟨payload, hpublished⟩
          cases hanswered.symm.trans hpublished
        have hduty : (ControlService.step (ofReader order sensorReader).toFanBackend between
            event).1.effectiveDuty = some result.effectiveDuty :=
          congrArg ServiceOutcome.effectiveDuty hanswered
        obtain ⟨hmin, hsettled⟩ := hreported _ hduty
        rw [List.forall_mem_cons]
        exact ⟨hreported, inForce_of_ordered hrest.2
          (keeps_of_settledAt (keeps_step hrest.1 hloose) hmin hsettled)⟩
      · exact inForce_of_ordered (List.forall_mem_cons.mpr hrest)
          (keeps_of_settledAt hloose hmin hsettled)

end Histories

/-- A stopped channel that reads as the minimum is brought to 50% by a request, and is there after
a restart and a tick. -/
theorem reported_in_force_of_stopped :
    ∃ history, history = records
        (ControlService.step (ofReader insertionOrder coolReader).toFanBackend)
        (.init (stoppedTree, ()) (.fresh fun _ => .stored))
        [.requestDuty (.ofInt 100) (.int 50) .null, .restart, .tick (.ofInt 105)] ∧
      history.map (fun record => record.outcome.effectiveDuty) = [some 50, none, some 50] ∧
      history.Forall (InForce pwm1) := by
  have hduty : (ControlService.step (ofReader insertionOrder coolReader).toFanBackend
      (.init (stoppedTree, ()) (.fresh fun _ => .stored))
      (.requestDuty (.ofInt 100) (.int 50) .null)).1.effectiveDuty = some 50 := by
    decide +kernel
  obtain ⟨result, after, hrequest, -⟩ := ControlService.outcome_effectiveDuty_eq_some hduty
  have hcut : records (ControlService.step (ofReader insertionOrder coolReader).toFanBackend)
      (.init (stoppedTree, ()) (.fresh fun _ => .stored))
      [.requestDuty (.ofInt 100) (.int 50) .null, .restart, .tick (.ofInt 105)] =
        [] ++ _ :: _ := rfl
  refine ⟨_, rfl, by decide +kernel, List.forall_iff_forall_mem.mpr ?_⟩
  refine reported_in_force oneChannel_stoppedTree (fun event hmem change hevent => ?_) hcut
    (.inl ⟨result, ?_⟩)
  · rw [hevent] at hmem
    simp at hmem
  · show (ControlService.outcome .answered _).1 = _
    rw [hrequest]
    rfl

end HwmonPwmBackend

end TrueFan
