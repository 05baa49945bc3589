/-
# The statuses that are given out

A status is the cached snapshot, or that of a tick made for it. Either brings the thresholds
of the policy: a snapshot gets them when it is published, and nothing else is ever cached.
-/

import TrueFan.Service.Parts

namespace TrueFan

open Python Foundations

namespace ControlService

variable {Hardware : Type} {backend : FanBackend Hardware} {service after : ControlService Hardware}

/-- The snapshot that is cached, if there is one, brings the thresholds of the policy. -/
def Bounded (service : ControlService Hardware) : Prop :=
  ∀ payload, service.lastStatus = some payload → payload.thresholds = TrueFan.thresholds

theorem bounded_init (hardware : Hardware) (policy : SafetyPolicy) :
    Bounded (init hardware policy) := by
  intro payload h
  cases h

theorem keptByParts_bounded (backend : FanBackend Hardware) :
    KeptByParts backend (@Bounded Hardware) where
  status service hbounded := by
    rw [onBackend, resultState_zoom]
    exact hbounded
  command percent service hbounded := by
    rw [onBackend, resultState_zoom]
    exact hbounded
  policy method service hbounded := by
    rw [onPolicy, resultState_zoom]
    exact hbounded
  publish status safety service _ payload hpayload := by
    cases hpayload
    rfl
  log before decision readback service hbounded := by
    show Bounded (if _ then service else _ : ControlService Hardware)
    split
    · exact hbounded
    · exact hbounded
  failed _ hbounded := hbounded
  started _ _ := bounded_init _ _

theorem bounded_step (event : ServiceEvent Hardware) (hbounded : Bounded service) :
    Bounded (step backend service event).2 :=
  (keptByParts_bounded backend).step (fun _ _ => hbounded) hbounded

/-- In any history what is cached brings the thresholds of the policy. -/
theorem bounded_finalState (backend : FanBackend Hardware) (hardware : Hardware)
    (policy : SafetyPolicy) (events : List (ServiceEvent Hardware)) :
    Bounded (finalState (step backend) (init hardware policy) events) :=
  finalState_invariant (step backend) (fun _ event => bounded_step event)
    (bounded_init hardware policy) events

/-- A status is the cached one, or that of a tick if none is cached. -/
theorem status_eq_ok {clock : Clock} {snapshot : StatusPayload}
    (h : status backend clock service = .ok snapshot after) :
    (service.lastStatus = some snapshot ∧ after = service) ∨
      (service.lastStatus = none ∧ tick backend clock service = .ok snapshot after) := by
  rw [status] at h
  obtain ⟨cached, between, hcached, hrest⟩ := bind_eq_ok h
  rw [cachedStatus, get_bind_apply] at hcached
  cases herror : service.lastStatusError with
  | some code =>
      rw [herror] at hcached
      cases hcached
  | none =>
      rw [herror] at hcached
      cases hlast : service.lastStatus with
      | some payload =>
          rw [hlast] at hcached
          cases hcached
          cases hrest
          exact .inl ⟨rfl, rfl⟩
      | none =>
          rw [hlast] at hcached
          cases hcached
          exact .inr ⟨rfl, hrest⟩

/-- There is neither a status nor an error that a request for the status would be given. -/
def uncached (service : ControlService Hardware) : Bool :=
  service.lastStatusError.isNone && service.lastStatus.isNone

/-- A request for the status ticks if nothing is cached, and changes nothing otherwise. -/
theorem resultState_status (backend : FanBackend Hardware) (clock : Clock)
    (service : ControlService Hardware) :
    resultState (status backend clock service) =
      if service.uncached then resultState (tick backend clock service) else service := by
  rw [status, bind_apply, cachedStatus, get_bind_apply, uncached]
  cases service.lastStatusError with
  | some code => rfl
  | none =>
      cases service.lastStatus with
      | some payload => rfl
      | none => rfl

theorem thresholds_of_refresh {clock : Clock} {snapshot : StatusPayload}
    (h : refresh backend clock service = .ok snapshot after) :
    snapshot.thresholds = TrueFan.thresholds := by
  rw [refresh] at h
  obtain ⟨before, _, -, h⟩ := bind_eq_ok h
  obtain ⟨decision, _, -, h⟩ := bind_eq_ok h
  dsimp only at h
  split at h
  · obtain ⟨readback, _, -, h⟩ := bind_eq_ok h
    obtain ⟨_, _, -, h⟩ := bind_eq_ok h
    cases h
    rfl
  · obtain ⟨readback, _, -, h⟩ := bind_eq_ok h
    obtain ⟨_, _, -, h⟩ := bind_eq_ok h
    cases h
    rfl

/-- A status that is given out brings the thresholds of the policy. -/
theorem thresholds_of_status {clock : Clock} {snapshot : StatusPayload}
    (hbounded : Bounded service) (h : status backend clock service = .ok snapshot after) :
    snapshot.thresholds = TrueFan.thresholds := by
  rcases status_eq_ok h with ⟨hcached, -⟩ | ⟨-, hticked⟩
  · exact hbounded snapshot hcached
  · exact thresholds_of_refresh (tick_eq_ok_iff.mp hticked)

end ControlService

end TrueFan
