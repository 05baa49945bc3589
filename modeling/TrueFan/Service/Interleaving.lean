/-
# Calls that overlap

Ticks and requests run in threads of their own. What a call does under the service
lock is one step; a tick that raised has one more to do after it released the lock,
the publication of its error, and anything may come in between. A request that raised
publishes nothing. The status served once every call is done is compared here with
how the last critical section ended. Calls of which none overlaps another are a history
of the service, step by step.
-/

import TrueFan.Foundations.Run
import TrueFan.Service.Recorded
import TrueFan.Service.Run

namespace TrueFan

open Python Foundations

/-- The calls that may overlap, each with the time it would read in its critical section. -/
inductive ServiceCall
  | tick (clock : Clock)
  | requestDuty (clock : Clock) (dutyPercent ttlSeconds : Json)
  | requestProfile (clock : Clock) (profile : String) (ttlSeconds : Json)

/-- How a critical section ends: it returns, or the request is refused, or a state-file
write raises, or the backend does. -/
inductive SectionEnd
  | completed
  | refused
  | storeFailed
  | backendFailed
  deriving DecidableEq, Repr

namespace ControlService

variable {Hardware : Type}

/-- What readers of the status see. -/
def snapshot (service : ControlService Hardware) : Option StatusPayload × Option String :=
  (service.lastStatus, service.lastStatusError)

/-- The end of a section that has a duty left to command. -/
def commandEnding (backend : FanBackend Hardware) (duty : ℤ) (hardware : Hardware) : SectionEnd :=
  match backend.setDutyPercent duty hardware with
  | .ok _ _ => .completed
  | .error _ _ => .backendFailed

/-- The end of a tick's section. -/
def tickEnding (backend : FanBackend Hardware) (clock : Clock)
    (service : ControlService Hardware) : SectionEnd :=
  match backend.status service.hardware with
  | .error _ _ => .backendFailed
  | .ok before hardware =>
      match SafetyPolicy.evaluate clock before none none service.policy with
      | .error _ _ => .storeFailed
      | .ok decision _ =>
          if InPlace before decision.effectiveDuty then .completed
          else commandEnding backend decision.effectiveDuty hardware

/-- The end of a request's section. -/
def requestEnding (backend : FanBackend Hardware) (clock : Clock) (dutyPercent ttlSeconds : Json)
    (service : ControlService Hardware) : SectionEnd :=
  match backend.status service.hardware with
  | .error _ _ => .backendFailed
  | .ok before hardware =>
      match SafetyPolicy.requestOverride clock before dutyPercent ttlSeconds service.policy with
      | .error .osError _ => .storeFailed
      | .error _ _ => .refused
      | .ok decision _ => commandEnding backend decision.effectiveDuty hardware

/-- A section with this end that came out so: if it returned, readers see what it published,
and if it raised, they see what they saw before. -/
def Shows {α : Type} (before : ControlService Hardware) (ending : SectionEnd) :
    EStateM.Result Failure (ControlService Hardware) α → Prop
  | .ok _ after => ending = .completed ∧ ∃ payload, after.snapshot = (some payload, none)
  | .error _ after => ending ≠ .completed ∧ after.snapshot = before.snapshot

section Shows

variable {α : Type} {before : ControlService Hardware} {ending : SectionEnd}
  {result : EStateM.Result Failure (ControlService Hardware) α}

theorem Shows.replaced (h : Shows before ending result) (hending : ending = .completed) :
    ∃ payload, (resultState result).snapshot = (some payload, none) := by
  cases result with
  | ok value after => exact h.2
  | error error after => exact absurd hending h.1

theorem Shows.kept (h : Shows before ending result) (hending : ending ≠ .completed) :
    (resultState result).snapshot = before.snapshot := by
  cases result with
  | ok value after => exact absurd h.1 hending
  | error error after => exact h.2

end Shows

theorem shows_tick (backend : FanBackend Hardware) (clock : Clock)
    (service : ControlService Hardware) :
    Shows service (tickEnding backend clock service) (refresh backend clock service) := by
  rw [tickEnding]
  cases hstatus : backend.status service.hardware with
  | error error hardware =>
      rw [refresh_of_status_error hstatus]
      exact ⟨nofun, rfl⟩
  | ok before hardware =>
      dsimp only
      cases hevaluate : SafetyPolicy.evaluate clock before none none service.policy with
      | error error policy =>
          rw [refresh_of_evaluate_error hstatus hevaluate]
          exact ⟨nofun, rfl⟩
      | ok decision policy =>
          rw [refresh_of_evaluate_ok hstatus hevaluate]
          dsimp only
          split
          · exact ⟨rfl, _, rfl⟩
          · rw [commandEnding]
            cases backend.setDutyPercent decision.effectiveDuty hardware with
            | ok readback commanded => exact ⟨rfl, _, rfl⟩
            | error error commanded => exact ⟨nofun, rfl⟩

theorem shows_request (backend : FanBackend Hardware) (clock : Clock)
    (dutyPercent ttlSeconds : Json) (service : ControlService Hardware) :
    Shows service (requestEnding backend clock dutyPercent ttlSeconds service)
      (requestDuty backend clock dutyPercent ttlSeconds service) := by
  rw [requestEnding]
  cases hstatus : backend.status service.hardware with
  | error error hardware =>
      rw [requestDuty_of_status_error hstatus]
      exact ⟨nofun, rfl⟩
  | ok before hardware =>
      dsimp only
      cases hrequest : SafetyPolicy.requestOverride clock before dutyPercent ttlSeconds
          service.policy with
      | error error policy =>
          rw [requestDuty_of_refused hstatus hrequest]
          cases error with
          | osError => exact ⟨nofun, rfl⟩
          | _ => exact ⟨nofun, rfl⟩
      | ok decision policy =>
          rw [requestDuty_of_accepted hstatus hrequest]
          dsimp only
          rw [commandEnding]
          cases backend.setDutyPercent decision.effectiveDuty hardware with
          | ok readback commanded => exact ⟨rfl, _, rfl⟩
          | error error commanded => exact ⟨nofun, rfl⟩

theorem cachedStatus_of_some {service : ControlService Hardware} {code : String}
    (h : service.lastStatusError = some code) :
    cachedStatus service = .error (.runtimeError code) service := by
  rw [cachedStatus, get_bind_apply, h]
  rfl

theorem cachedStatus_of_none {service : ControlService Hardware}
    (h : service.lastStatusError = none) :
    cachedStatus service = .ok service.lastStatus service := by
  rw [cachedStatus, get_bind_apply, h]
  rfl

end ControlService

open ControlService

variable {Hardware : Type}

namespace ServiceCall

/-- How its critical section ends. A profile is looked up before the hardware is read. -/
def ending (backend : FanBackend Hardware) (service : ControlService Hardware) :
    ServiceCall → SectionEnd
  | .tick clock => tickEnding backend clock service
  | .requestDuty clock dutyPercent ttlSeconds =>
      requestEnding backend clock dutyPercent ttlSeconds service
  | .requestProfile clock profile ttlSeconds =>
      match profiles.lookup profile with
      | none => .refused
      | some duty => requestEnding backend clock (.int duty) ttlSeconds service

/-- What it does under the lock. -/
def underLock (backend : FanBackend Hardware) (service : ControlService Hardware) :
    ServiceCall → ControlService Hardware
  | .tick clock => resultState (refresh backend clock service)
  | .requestDuty clock dutyPercent ttlSeconds =>
      resultState (ControlService.requestDuty backend clock dutyPercent ttlSeconds service)
  | .requestProfile clock profile ttlSeconds =>
      resultState (ControlService.requestProfile backend clock profile ttlSeconds service)

/-- The event it is if nothing else is in flight. -/
def event : ServiceCall → ServiceEvent Hardware
  | .tick clock => .tick clock
  | .requestDuty clock dutyPercent ttlSeconds => .requestDuty clock dutyPercent ttlSeconds
  | .requestProfile clock profile ttlSeconds => .requestProfile clock profile ttlSeconds

/-- Only a tick catches what its section raises. -/
def Catches : ServiceCall → Prop
  | .tick _ => True
  | .requestDuty _ _ _ => False
  | .requestProfile _ _ _ => False

instance : DecidablePred Catches
  | .tick _ => .isTrue trivial
  | .requestDuty _ _ _ => .isFalse id
  | .requestProfile _ _ _ => .isFalse id

theorem shows_profile (backend : FanBackend Hardware) (service : ControlService Hardware)
    (clock : Clock) (profile : String) (ttlSeconds : Json) :
    Shows service ((requestProfile clock profile ttlSeconds).ending backend service)
      (ControlService.requestProfile backend clock profile ttlSeconds service) := by
  rw [ending]
  cases hprofile : profiles.lookup profile with
  | none =>
      rw [requestProfile_of_unknown hprofile]
      exact ⟨nofun, rfl⟩
  | some duty =>
      have hshows := shows_request backend clock (.int duty) ttlSeconds service
      rw [requestProfile_of_known hprofile]
      cases hrequest : ControlService.requestDuty backend clock (.int duty) ttlSeconds
          service with
      | ok result after =>
          rw [hrequest] at hshows
          exact hshows
      | error error after =>
          rw [hrequest] at hshows
          exact hshows

/-- With nothing else in flight, a tick publishes at once what its section raised. -/
theorem step_event (backend : FanBackend Hardware) (service : ControlService Hardware)
    (call : ServiceCall) :
    (step backend service call.event).2 =
      if call.Catches ∧ call.ending backend service ≠ .completed then
        { call.underLock backend service with lastStatusError := some "status_refresh_failed" }
      else call.underLock backend service := by
  cases call with
  | tick clock =>
      have hshows := shows_tick backend clock service
      rw [event, step, outcome_snd, underLock, ending, ControlService.tick]
      cases hrefresh : refresh backend clock service with
      | ok payload after =>
          rw [hrefresh] at hshows
          rw [if_neg fun hraises => hraises.2 hshows.1]
      | error error after =>
          rw [hrefresh] at hshows
          rw [if_pos ⟨trivial, hshows.1⟩]
          rfl
  | requestDuty clock dutyPercent ttlSeconds =>
      rw [event, step, outcome_snd]
      exact (if_neg fun hraises => hraises.1).symm
  | requestProfile clock profile ttlSeconds =>
      rw [event, step, outcome_snd]
      exact (if_neg fun hraises => hraises.1).symm

theorem snapshot_of_completed {backend : FanBackend Hardware} {service : ControlService Hardware}
    {call : ServiceCall} (h : call.ending backend service = .completed) :
    ∃ payload, (call.underLock backend service).snapshot = (some payload, none) := by
  cases call with
  | tick clock => exact (shows_tick backend clock service).replaced h
  | requestDuty clock dutyPercent ttlSeconds =>
      exact (shows_request backend clock dutyPercent ttlSeconds service).replaced h
  | requestProfile clock profile ttlSeconds =>
      exact (shows_profile backend service clock profile ttlSeconds).replaced h

theorem snapshot_of_not_completed {backend : FanBackend Hardware}
    {service : ControlService Hardware} {call : ServiceCall}
    (h : call.ending backend service ≠ .completed) :
    (call.underLock backend service).snapshot = service.snapshot := by
  cases call with
  | tick clock => exact (shows_tick backend clock service).kept h
  | requestDuty clock dutyPercent ttlSeconds =>
      exact (shows_request backend clock dutyPercent ttlSeconds service).kept h
  | requestProfile clock profile ttlSeconds =>
      exact (shows_profile backend service clock profile ttlSeconds).kept h

end ServiceCall

/-- How far a call has come. -/
inductive Progress
  | waiting
  | unwinding
  | finished
  deriving DecidableEq, Repr

/-- What one step of a call was. -/
inductive Moment
  | locked (call : ServiceCall) (ending : SectionEnd)
  | marked
  | idle

/-- The moment is a critical section that was not a refused request. -/
def Moment.Counts : Moment → Prop
  | .locked _ ending => ending ≠ .refused
  | .marked => False
  | .idle => False

/-- The moment is a critical section that returned. -/
def Moment.Completes : Moment → Prop
  | .locked _ ending => ending = .completed
  | .marked => False
  | .idle => False

instance : DecidablePred Moment.Counts
  | .locked _ ending => inferInstanceAs (Decidable (ending ≠ .refused))
  | .marked => .isFalse id
  | .idle => .isFalse id

instance : DecidablePred Moment.Completes
  | .locked _ ending => inferInstanceAs (Decidable (ending = .completed))
  | .marked => .isFalse id
  | .idle => .isFalse id

theorem Moment.counts_of_completes {moment : Moment} (h : moment.Completes) : moment.Counts := by
  cases moment with
  | locked call ending =>
      intro hrefused
      rw [Completes, hrefused] at h
      cases h
  | marked => cases h
  | idle => cases h

/-- The service with its calls in flight. -/
structure Underway (ι Hardware : Type) where
  service : ControlService Hardware
  progress : ι → Progress

namespace Underway

variable {ι : Type}

/-- No call has taken the lock yet. -/
def start (service : ControlService Hardware) : Underway ι Hardware where
  service
  progress := fun _ => .waiting

variable [DecidableEq ι]

/-- One step of a call: its critical section; then, for a tick that raised, the
publication of its error. -/
def advance (backend : FanBackend Hardware) (calls : ι → ServiceCall)
    (underway : Underway ι Hardware) (i : ι) : Moment × Underway ι Hardware :=
  match underway.progress i with
  | .waiting =>
      let ending := (calls i).ending backend underway.service
      let next := if (calls i).Catches ∧ ending ≠ .completed then .unwinding else .finished
      (.locked (calls i) ending,
        { service := (calls i).underLock backend underway.service
          progress := Function.update underway.progress i next })
  | .unwinding =>
      (.marked,
        { service := { underway.service with lastStatusError := some "status_refresh_failed" }
          progress := Function.update underway.progress i .finished })
  | .finished => (.idle, underway)

abbrev Step (ι Hardware : Type) := Record (Underway ι Hardware) ι Moment

/-- The record is the last critical section of a run that was not a refused request, and
`later` is the rest of the run. -/
def IsLastSection (run : List (Step ι Hardware)) (record : Step ι Hardware)
    (later : List (Step ι Hardware)) : Prop :=
  (∃ earlier, run = earlier ++ record :: later) ∧ record.outcome.Counts ∧
    ∀ next ∈ later, ¬ next.outcome.Counts

/-- The status served in the end reflects a section with this end. -/
def Reflects (backend : FanBackend Hardware) (left final : ControlService Hardware) :
    SectionEnd → Prop
  | .completed => ∃ payload, left.lastStatus = some payload ∧
      ∀ clock, status backend clock final = .ok payload final
  | .backendFailed =>
      ∀ clock, status backend clock final = .error (.runtimeError "status_refresh_failed") final
  | .refused => True
  | .storeFailed => True

/-- The status served at the end of a run reflects the last hardware operation. -/
def StatusReflectsLast (backend : FanBackend Hardware) (calls : ι → ServiceCall)
    (service : ControlService Hardware) (schedule : List ι) : Prop :=
  ∀ record later call ending,
    IsLastSection (records (advance backend calls) (start service) schedule) record later →
    record.outcome = .locked call ending →
    Reflects backend record.after.service
      (finalState (advance backend calls) (start service) schedule).service ending

/-- Readers get an error. -/
def Failed (underway : Underway ι Hardware) : Prop :=
  underway.service.lastStatusError = some "status_refresh_failed"

/-- Readers get the payload. -/
def Shown (payload : StatusPayload) (underway : Underway ι Hardware) : Prop :=
  underway.service.snapshot = (some payload, none)

/-- The call has raised and not published that yet. -/
def Unwinds (i : ι) (underway : Underway ι Hardware) : Prop := underway.progress i = .unwinding

/-- The error readers get was there from the start or published by a tick, and no section
has returned since. -/
def ErrorStands (service : ControlService Hardware) (run : List (Step ι Hardware)) : Prop :=
  (service.lastStatusError = some "status_refresh_failed" ∧
      ∀ record ∈ run, ¬ record.outcome.Completes) ∨
    ∃ earlier record later, run = earlier ++ record :: later ∧ record.outcome = .marked ∧
      ∀ next ∈ later, ¬ next.outcome.Completes

/-- No error is published after the section it is older than, and a request that ended in
an exception of the backend finds the error published by some tick. -/
structure Orderly (service : ControlService Hardware) (run : List (Step ι Hardware)) : Prop where
  unmarked : ∀ record later call, IsLastSection run record later →
    record.outcome = .locked call .completed → ∀ next ∈ later, next.outcome ≠ .marked
  marked : ∀ record later call, IsLastSection run record later →
    record.outcome = .locked call .backendFailed → ¬ call.Catches → ErrorStands service run

section OneStep

variable {backend : FanBackend Hardware} {calls : ι → ServiceCall}
  {underway after : Underway ι Hardware} {moment : Moment} {i j : ι}

theorem snapshot_of_completes (h : advance backend calls underway i = (moment, after))
    (hmoment : moment.Completes) : ∃ payload, after.service.snapshot = (some payload, none) := by
  rw [advance] at h
  split at h
  next =>
    cases h
    exact ServiceCall.snapshot_of_completed hmoment
  next =>
    cases h
    cases hmoment
  next =>
    cases h
    cases hmoment

theorem snapshot_of_marked (h : advance backend calls underway i = (.marked, after)) :
    after.service.snapshot =
      (underway.service.lastStatus, some "status_refresh_failed") := by
  rw [advance] at h
  split at h
  next => cases h
  next =>
    cases h
    rfl
  next => cases h

theorem snapshot_of_neither (h : advance backend calls underway i = (moment, after))
    (hmoment : ¬ moment.Completes) (hmarked : moment ≠ .marked) :
    after.service.snapshot = underway.service.snapshot := by
  rw [advance] at h
  split at h
  next =>
    cases h
    exact ServiceCall.snapshot_of_not_completed hmoment
  next =>
    cases h
    exact absurd rfl hmarked
  next =>
    cases h
    rfl

/-- Only a section that returns takes the error away. -/
theorem error_of_not_completes (h : advance backend calls underway i = (moment, after))
    (hmoment : ¬ moment.Completes)
    (herror : underway.Failed) : after.Failed := by
  by_cases hmarked : moment = .marked
  · subst hmarked
    exact congrArg Prod.snd (snapshot_of_marked h)
  · exact (congrArg Prod.snd (snapshot_of_neither h hmoment hmarked)).trans herror

theorem not_completes_of_error (h : advance backend calls underway i = (moment, after))
    (herror : after.Failed) : ¬ moment.Completes := by
  intro hmoment
  obtain ⟨payload, hsnapshot⟩ := snapshot_of_completes h hmoment
  have hnone : after.service.lastStatusError = none := congrArg Prod.snd hsnapshot
  rw [Failed, hnone] at herror
  cases herror

/-- Only a publication brings the error. -/
theorem marked_of_error (h : advance backend calls underway i = (moment, after))
    (hbefore : ¬ underway.Failed) (herror : after.Failed) : moment = .marked := by
  by_contra hmarked
  have hkept := snapshot_of_neither h (not_completes_of_error h herror) hmarked
  exact hbefore ((congrArg Prod.snd hkept).symm.trans herror)

/-- A tick whose section raised is on its way to publish that. -/
theorem unwinding_of_locked {call : ServiceCall} {ending : SectionEnd}
    (h : advance backend calls underway i = (.locked call ending, after))
    (hcatches : call.Catches) (hending : ending ≠ .completed) :
    after.progress i = .unwinding := by
  rw [advance] at h
  split at h
  next =>
    cases h
    show Function.update _ i _ i = _
    rw [Function.update_self]
    exact if_pos ⟨hcatches, hending⟩
  next => cases h
  next => cases h

/-- And stays so until it does. -/
theorem unwinding_of_unmarked (h : advance backend calls underway i = (moment, after))
    (hmarked : moment ≠ .marked) (hunwinding : underway.progress j = .unwinding) :
    after.progress j = .unwinding := by
  rw [advance] at h
  split at h
  next hwaiting =>
    have hother : j ≠ i := by
      intro heq
      rw [heq, hwaiting] at hunwinding
      cases hunwinding
    cases h
    exact (Function.update_of_ne hother _ _).trans hunwinding
  next =>
    cases h
    exact absurd rfl hmarked
  next =>
    cases h
    exact hunwinding

end OneStep

/-! ## Runs -/

section Runs

omit [DecidableEq ι] in
theorem mem_of_cut {run earlier later : List (Step ι Hardware)} {record : Step ι Hardware}
    (h : run = earlier ++ record :: later) : ∀ next ∈ record :: later, next ∈ run := by
  intro next hnext
  rw [h]
  exact List.mem_append_right earlier hnext

variable {backend : FanBackend Hardware} {calls : ι → ServiceCall}
  {service : ControlService Hardware} {schedule : List ι}

theorem errorStands_iff :
    ErrorStands service (records (advance backend calls) (start service) schedule) ↔
      (finalState (advance backend calls) (start service) schedule).Failed := by
  have kept : ∀ record ∈ records (advance backend calls) (start service) schedule,
      ¬ record.outcome.Completes → record.before.Failed → record.after.Failed :=
    fun record hmem => error_of_not_completes (step_of_mem_records _ hmem)
  constructor
  · rintro (⟨hstart, hrun⟩ | ⟨earlier, record, later, hrun, hmarked, hlater⟩)
    · apply finalState_invariant_of_preserved (advance backend calls) hstart
      intro record hmem
      exact kept record hmem (hrun record hmem)
    · have hmem := mem_of_cut hrun
      have hstep := step_of_mem_records (advance backend calls) (hmem record List.mem_cons_self)
      rw [hmarked] at hstep
      have hpublished : record.after.Failed := congrArg Prod.snd (snapshot_of_marked hstep)
      apply finalState_of_cut (advance backend calls) hrun hpublished
      intro next hnext
      exact kept next (hmem next (List.mem_cons_of_mem record hnext)) (hlater next hnext)
  · intro hfinal
    rcases held_since (advance backend calls) hfinal with
      ⟨hstart, hheld⟩ | ⟨earlier, record, later, hrun, hbefore, hafter, hheld⟩
    · refine .inl ⟨hstart, fun record hmem => ?_⟩
      exact not_completes_of_error (step_of_mem_records _ hmem) (hheld record hmem)
    · have hmem := mem_of_cut hrun
      refine .inr ⟨earlier, record, later, hrun, ?_, fun next hnext => ?_⟩
      · exact marked_of_error (step_of_mem_records _ (hmem record List.mem_cons_self)) hbefore
          hafter
      · exact not_completes_of_error
          (step_of_mem_records _ (hmem next (List.mem_cons_of_mem record hnext)))
          (hheld next hnext)

omit [DecidableEq ι] in
/-- The status raises for its readers, and changes nothing, exactly if the error is there. -/
theorem status_failed_iff (backend : FanBackend Hardware) {underway : Underway ι Hardware}
    (clock : Clock) :
    status backend clock underway.service =
        .error (.runtimeError "status_refresh_failed") underway.service ↔
      underway.Failed := by
  constructor
  · intro h
    by_contra hfailed
    cases herror : underway.service.lastStatusError with
    | some code =>
        rw [status, bind_of_error (cachedStatus_of_some herror)] at h
        cases h
        exact hfailed herror
    | none =>
        rw [status, bind_of_ok (cachedStatus_of_none herror)] at h
        cases hlast : underway.service.lastStatus with
        | some payload =>
            rw [hlast] at h
            cases h
        | none =>
            -- a tick that raises leaves the error behind
            rw [hlast] at h
            have hleft : tick backend clock underway.service =
              .error (.runtimeError "status_refresh_failed") underway.service := h
            rw [tick] at hleft
            cases hrefresh : refresh backend clock underway.service with
            | ok payload after =>
                rw [hrefresh] at hleft
                cases hleft
            | error error after =>
                rw [hrefresh, EStateM.Result.error.injEq] at hleft
                rw [Failed, ← hleft.2] at hfailed
                exact hfailed rfl
  · intro hfailed
    rw [status, bind_of_error (cachedStatus_of_some hfailed)]

/-- The status is the published one once the error is gone. -/
theorem status_of_snapshot {final : ControlService Hardware} {payload : StatusPayload}
    (h : final.snapshot = (some payload, none)) (clock : Clock) :
    status backend clock final = .ok payload final := by
  have hcached : cachedStatus final = .ok (some payload) final := by
    rw [cachedStatus_of_none (congrArg Prod.snd h)]
    exact congrArg (EStateM.Result.ok · final) (congrArg Prod.fst h)
  rw [status, bind_of_ok hcached]
  rfl

omit [DecidableEq ι] in
/-- An error published after the last section stands. -/
theorem errorStands_of_last {run later : List (Step ι Hardware)} {record next : Step ι Hardware}
    (hlast : IsLastSection run record later) (hnext : next ∈ later)
    (hmarked : next.outcome = .marked) : ErrorStands service run := by
  obtain ⟨⟨earlier, hrun⟩, -, hlater⟩ := hlast
  obtain ⟨between, rest, rfl⟩ := List.append_of_mem hnext
  refine .inr ⟨earlier ++ record :: between, next, rest, ?_, hmarked, ?_⟩
  · rw [hrun, List.append_assoc, List.cons_append]
  · intro final hfinal hcompletes
    apply hlater final (List.mem_append_right _ (List.mem_cons_of_mem _ hfinal))
    exact Moment.counts_of_completes hcompletes

/-- A tick that is done has published what its section raised. -/
theorem exists_marked_of_finished {earlier later : List (Step ι Hardware)}
    {record : Step ι Hardware} {call : ServiceCall} {ending : SectionEnd}
    (hrun : records (advance backend calls) (start service) schedule = earlier ++ record :: later)
    (hstep : advance backend calls record.before record.event =
      (.locked call ending, record.after))
    (hcatches : call.Catches) (hending : ending ≠ .completed)
    (finished : (finalState (advance backend calls) (start service) schedule).progress
      record.event = .finished) :
    ∃ next ∈ later, next.outcome = .marked := by
  have hmem := mem_of_cut hrun
  by_contra hnone
  have kept : ∀ next ∈ later, Unwinds record.event next.before →
      Unwinds record.event next.after := by
    intro next hnext
    apply unwinding_of_unmarked
      (step_of_mem_records _ (hmem next (List.mem_cons_of_mem record hnext)))
    intro hmarked
    exact hnone ⟨next, hnext, hmarked⟩
  have hunwinds : Unwinds record.event
      (finalState (advance backend calls) (start service) schedule) :=
    finalState_of_cut _ hrun (unwinding_of_locked hstep hcatches hending) kept
  rw [Unwinds, finished] at hunwinds
  cases hunwinds

/-- What the last section published is still shown if no error was published after it. -/
theorem shown_of_unmarked {record : Step ι Hardware} {later : List (Step ι Hardware)}
    {payload : StatusPayload}
    (hlast : IsLastSection (records (advance backend calls) (start service) schedule) record later)
    (hpublished : Shown payload record.after)
    (unmarked : ∀ next ∈ later, next.outcome ≠ .marked) :
    Shown payload (finalState (advance backend calls) (start service) schedule) := by
  obtain ⟨⟨earlier, hrun⟩, -, hlater⟩ := hlast
  have hmem := mem_of_cut hrun
  have kept : ∀ next ∈ later, Shown payload next.before → Shown payload next.after := by
    intro next hnext hshown
    have hstep := step_of_mem_records (advance backend calls)
      (hmem next (List.mem_cons_of_mem record hnext))
    have hnot : ¬ next.outcome.Completes := fun hcompletes =>
      hlater next hnext (Moment.counts_of_completes hcompletes)
    exact (snapshot_of_neither hstep hnot (unmarked next hnext)).trans hshown
  exact finalState_of_cut _ hrun hpublished kept

/-- Once every call is done, the status reflects the last hardware operation exactly if
no error was published after a newer section returned, and one stands where a request
ended in an exception of the backend. -/
theorem statusReflectsLast_iff_orderly
    (finished : ∀ i, (finalState (advance backend calls) (start service) schedule).progress i =
      .finished) :
    StatusReflectsLast backend calls service schedule ↔
      Orderly service (records (advance backend calls) (start service) schedule) := by
  constructor
  · intro reflects
    constructor
    · intro record later call hlast hcompleted next hnext hmarked
      obtain ⟨payload, -, hstatus⟩ := reflects record later call .completed hlast hcompleted
      have hraises := (status_failed_iff backend (.ofInt 0)).mpr
        (errorStands_iff.mp (errorStands_of_last hlast hnext hmarked))
      rw [hstatus] at hraises
      cases hraises
    · intro record later call hlast hraised _
      have hstatus := reflects record later call .backendFailed hlast hraised
      exact errorStands_iff.mpr ((status_failed_iff backend (.ofInt 0)).mp (hstatus _))
  · intro orderly record later call ending hlast houtcome
    have hrun := hlast.1
    obtain ⟨earlier, hrun⟩ := hrun
    have hstep := step_of_mem_records (advance backend calls)
      (mem_of_cut hrun record List.mem_cons_self)
    rw [houtcome] at hstep
    cases ending with
    | refused => trivial
    | storeFailed => trivial
    | completed =>
        obtain ⟨payload, hpublished⟩ := snapshot_of_completes hstep rfl
        have hshown := shown_of_unmarked hlast hpublished
          (orderly.unmarked record later call hlast houtcome)
        exact ⟨payload, congrArg Prod.fst hpublished, status_of_snapshot hshown⟩
    | backendFailed =>
        intro clock
        apply (status_failed_iff backend clock).mpr
        apply errorStands_iff.mp
        by_cases hcatches : call.Catches
        · obtain ⟨next, hnext, hmarked⟩ :=
            exists_marked_of_finished hrun hstep hcatches (by decide) (finished _)
          exact errorStands_of_last hlast hnext hmarked
        · exact orderly.marked record later call hlast houtcome hcatches

/-- A call that nothing overlaps does in its steps what its event does to the service. -/
theorem finalState_alone {underway : Underway ι Hardware} {i : ι}
    (hwaiting : underway.progress i = .waiting) :
    finalState (advance backend calls) underway [i, i] =
      ⟨(step backend underway.service (calls i).event).2,
        Function.update underway.progress i .finished⟩ := by
  rw [finalState_cons, finalState_cons, finalState_nil, ServiceCall.step_event]
  by_cases hraises : (calls i).Catches ∧ (calls i).ending backend underway.service ≠ .completed
  · have hfirst : (advance backend calls underway i).2 =
        ⟨(calls i).underLock backend underway.service,
          Function.update underway.progress i .unwinding⟩ := by
      simp [advance, hwaiting, hraises]
    rw [if_pos hraises, hfirst, advance]
    simp only [Function.update_self, Function.update_idem]
  · have hfirst : (advance backend calls underway i).2 =
        ⟨(calls i).underLock backend underway.service,
          Function.update underway.progress i .finished⟩ := by
      simp [advance, hwaiting, hraises]
    rw [if_neg hraises, hfirst, advance]
    simp only [Function.update_self]

/-- Calls that come one after the other are a history of the service. -/
theorem service_of_serial {underway : Underway ι Hardware} {order : List ι}
    (nodup : order.Nodup) (hwaiting : ∀ i ∈ order, underway.progress i = .waiting) :
    (finalState (advance backend calls) underway (order.flatMap fun i => [i, i])).service =
      finalState (step backend) underway.service (order.map fun i => (calls i).event) := by
  induction order generalizing underway with
  | nil => rfl
  | cons i rest ih =>
      obtain ⟨hfresh, hrest⟩ := List.nodup_cons.mp nodup
      show (finalState (advance backend calls)
        (finalState (advance backend calls) underway [i, i]) _).service = _
      rw [finalState_alone (hwaiting i List.mem_cons_self)]
      apply ih hrest
      intro j hj
      have hother : j ≠ i := fun heq => hfresh (heq ▸ hj)
      exact (Function.update_of_ne hother _ _).trans (hwaiting j (List.mem_cons_of_mem i hj))

end Runs

/-- A tick and a request for half duty. -/
def tickAndRequest : Bool → ServiceCall
  | true => .tick (.ofInt 100)
  | false => .requestDuty (.ofInt 105) (.int 50) .null

/-- A service at the given duty whose every command raises. -/
def brokenAt (duty : ℤ) : ControlService FakeHardware :=
  init ⟨readingStatus (degrees 45) (degrees 35) (some duty), true⟩
    (SafetyPolicy.fresh fun _ => .stored)

/-- The tick and then the request raise in their sections, and the tick publishes that
last: the status raises as it should. -/
theorem statusReflectsLast_brokenAt :
    StatusReflectsLast fakeBackend tickAndRequest (brokenAt 30) [true, false, true] := by
  apply (statusReflectsLast_iff_orderly (by decide)).mpr
  have hrun : ∀ record ∈ records (advance fakeBackend tickAndRequest) (start (brokenAt 30))
      [true, false, true], ¬ record.outcome.Completes := by
    decide
  constructor
  · intro record later call hlast hcompleted
    obtain ⟨earlier, hcut⟩ := hlast.1
    apply absurd _ (hrun record (mem_of_cut hcut record List.mem_cons_self))
    rw [hcompleted]
    rfl
  · intro record later call _ _ _
    have hfailed : (finalState (advance fakeBackend tickAndRequest) (start (brokenAt 30))
        [true, false, true]).service.lastStatusError = some "status_refresh_failed" := by
      decide
    exact errorStands_iff.mpr hfailed

/-- The duty is in place for the tick, so only the request raises: what the tick published
is still served. -/
theorem not_statusReflectsLast_of_failed_request :
    ¬ ∀ (Hardware ι : Type) [DecidableEq ι] (backend : FanBackend Hardware)
        (calls : ι → ServiceCall) (service : ControlService Hardware) (schedule : List ι),
      (∀ i, (finalState (advance backend calls) (start service) schedule).progress i =
        .finished) →
      StatusReflectsLast backend calls service schedule := by
  intro hall
  have hreflects := hall FakeHardware Bool fakeBackend tickAndRequest (brokenAt 22) [true, false]
    (by decide)
  have hraises := hreflects _ [] _ .backendFailed ⟨⟨[_], rfl⟩, by decide, List.forall_mem_nil _⟩ rfl
  have hfailed := (status_failed_iff fakeBackend (.ofInt 0)).mp (hraises _)
  have hnone : (finalState (advance fakeBackend tickAndRequest) (start (brokenAt 22))
      [true, false]).service.lastStatusError = none := by
    decide
  rw [Failed, hnone] at hfailed
  cases hfailed

end Underway

end TrueFan
