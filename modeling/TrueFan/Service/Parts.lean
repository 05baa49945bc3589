/-
# What the parts of a call keep, the service keeps

Every call of the service is made of a few parts: calls of the backend and of the policy, the
publishing of a status and a line of the log. A property of the service that each part keeps,
also where it raises, is kept by every event, unless another hand at the hardware breaks it.
-/

import TrueFan.Service.Run

namespace TrueFan

open Python Foundations

namespace ControlService

variable {Hardware : Type} {backend : FanBackend Hardware}

/-- Each part of a call keeps the property, and so does a start. -/
structure KeptByParts (backend : FanBackend Hardware) (property : ControlService Hardware → Prop) :
    Prop where
  status : Preserves property (onBackend backend.status)
  command : ∀ percent, Preserves property (onBackend (backend.setDutyPercent percent))
  policy : ∀ {α : Type} (method : SafetyPolicy.Method α), Preserves property (onPolicy method)
  publish : ∀ status safety, Preserves property (publishStatus status safety)
  log : ∀ before decision readback, Preserves property (logTransition before decision readback)
  failed : ∀ {service} code, property service → property { service with lastStatusError := code }
  started : ∀ {service} policy, property service → property (init service.hardware policy)

namespace KeptByParts

variable {property : ControlService Hardware → Prop} (kept : KeptByParts backend property)
include kept

theorem requestDuty (clock : Clock) (dutyPercent ttlSeconds : Json) :
    Preserves property (requestDuty backend clock dutyPercent ttlSeconds) :=
  .bind kept.status fun _ => .bind (kept.policy _) fun _ => .bind (kept.command _) fun _ =>
    .bind (kept.publish _ _) fun _ => .pure _

theorem requestProfile (clock : Clock) (profile : String) (ttlSeconds : Json) :
    Preserves property (requestProfile backend clock profile ttlSeconds) := by
  rw [ControlService.requestProfile]
  cases profiles.lookup profile with
  | none => exact .throw _
  | some duty => exact .bind (kept.requestDuty _ _ _) fun _ => .pure _

theorem refresh (clock : Clock) : Preserves property (refresh backend clock) := by
  refine .bind kept.status fun before => .bind (kept.policy _) fun decision => ?_
  split
  · exact .bind (.pure _) fun _ => .bind (kept.log _ _ _) fun _ => kept.publish _ _
  · exact .bind (kept.command _) fun _ => .bind (kept.log _ _ _) fun _ => kept.publish _ _

theorem tick (clock : Clock) : Preserves property (tick backend clock) := by
  intro service hproperty
  have hrefresh := kept.refresh clock service hproperty
  rw [ControlService.tick]
  cases h : ControlService.refresh backend clock service with
  | ok payload after =>
      rw [h] at hrefresh
      exact hrefresh
  | error error after =>
      rw [h] at hrefresh
      exact kept.failed _ hrefresh

/-- An event keeps what the parts keep, and another hand, if it is one. -/
theorem step {service : ControlService Hardware} {event : ServiceEvent Hardware}
    (disturbed : ∀ change, event = .disturb change →
      property { service with hardware := change service.hardware })
    (hproperty : property service) : property (step backend service event).2 := by
  cases event with
  | tick clock =>
      rw [ControlService.step, outcome_snd]
      exact kept.tick clock service hproperty
  | requestDuty clock dutyPercent ttlSeconds =>
      rw [ControlService.step, outcome_snd]
      exact kept.requestDuty _ _ _ service hproperty
  | requestProfile clock profile ttlSeconds =>
      rw [ControlService.step, outcome_snd]
      exact kept.requestProfile _ _ _ service hproperty
  | restart =>
      rw [step_restart]
      cases SafetyPolicy.init service.policy.store with
      | ok policy => exact kept.started policy hproperty
      | error error => exact hproperty
  | disturb change => exact disturbed change rfl

end KeptByParts

/-- A property of the hardware is kept by the parts if the backend keeps it. -/
theorem keptByParts_hardware {property : Hardware → Prop}
    (hstatus : Preserves property backend.status)
    (hcommand : ∀ percent, Preserves property (backend.setDutyPercent percent)) :
    KeptByParts backend fun service => property service.hardware where
  status service hproperty := by
    rw [onBackend, resultState_zoom]
    exact hstatus service.hardware hproperty
  command percent service hproperty := by
    rw [onBackend, resultState_zoom]
    exact hcommand percent service.hardware hproperty
  policy method service hproperty := by
    rw [onPolicy, resultState_zoom]
    exact hproperty
  publish _ _ _ hproperty := hproperty
  log before decision readback service hproperty := by
    show property (if _ then service else _ : ControlService Hardware).hardware
    split
    · exact hproperty
    · exact hproperty
  failed _ hproperty := hproperty
  started _ hproperty := hproperty

end ControlService

end TrueFan
