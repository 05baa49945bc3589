/-
# Where an override comes from

The manual candidate of an evaluation is whatever the override slot holds by
then. The slot is replaced by accepted requests, emptied by evaluations that find
it expired, and written and reloaded in between. Seen as a lease, its content at
any time is the last accepted request if that has not run out: nothing else ever
fills the slot, and what left it does not come back.
-/

import TrueFan.Foundations.Lease
import TrueFan.Policy.Run

namespace TrueFan

open Python Foundations

namespace ControlState

/-- The override slot as a lease. -/
def slot (state : ControlState) : Option (Lease DutyPercent Clock) :=
  state.override.map Override.toLease

/-- The live override is the lease in force. -/
theorem map_liveOverride (now : Clock) (state : ControlState) :
    (state.liveOverride now).map Override.toLease = inForce now state.slot := by
  rw [liveOverride, slot, inForce]
  cases state.override with
  | none => rfl
  | some override =>
      by_cases h : now < override.expiry
      · simp [Option.filter, Override.toLease, h]
      · simp [Option.filter, Override.toLease, h]

theorem slot_evaluated (now : Clock) (status : BackendStatus) (state : ControlState) :
    (state.evaluated now status).slot = inForce now state.slot :=
  map_liveOverride now state

theorem slot_granted (now : Clock) (status : BackendStatus) (duty : DutyPercent)
    (ttl : TtlSeconds) (state : ControlState) :
    (state.granted now status duty ttl).slot =
      some ⟨duty, SafetyPolicy.expiresAt now ttl⟩ := rfl

end ControlState

namespace SafetyPolicy

/-- The manual candidate of an evaluation at `now` that carries no request of its
own: the duty and the expiry of the override it finds active. -/
def candidateAt (now : Clock) (policy : SafetyPolicy) : Option (DutyPercent × Clock) :=
  ((returned (activeOverride now policy)).join).map fun override =>
    (override.dutyPercent, override.expiry)

/-- The call was a request for `duty` at `start` with lifetime `ttl`, and it was
answered with a decision. -/
def Accepted (record : PolicyRecord) (start : Clock) (duty : DutyPercent) (ttl : TtlSeconds) :
    Prop :=
  record.event.asked = some (start, duty, ttl) ∧ ∃ decision, record.outcome = .decided decision

/-- What a call is for the override slot. -/
def leaseEvent (event : PolicyEvent) (outcome : PolicyOutcome) : LeaseEvent DutyPercent Clock :=
  match event.evaluation, event.asked, outcome with
  | none, _, _ => .idle
  | some _, some (start, duty, ttl), .decided _ => .grant start ⟨duty, expiresAt start ttl⟩
  | some (now, _), _, _ => .observe now

theorem evaluation_of_asked {event : PolicyEvent} {start : Clock} {duty : DutyPercent}
    {ttl : TtlSeconds} (h : event.asked = some (start, duty, ttl)) :
    ∃ status, event.evaluation = some (start, status) := by
  cases event with
  | evaluate clock status requestedDuty now => cases h
  | restart => cases h
  | request clock status dutyPercent ttlSeconds =>
      simp only [PolicyEvent.asked] at h
      split at h
      next _ _ hduty httl =>
        cases h
        exact ⟨status, PolicyEvent.evaluation_of_valid hduty httl start status⟩
      next => cases h

theorem granted_leaseEvent_iff {record : PolicyRecord} {lease : Lease DutyPercent Clock} :
    (leaseEvent record.event record.outcome).granted = some lease ↔
      ∃ start ttl, Accepted record start lease.value ttl ∧ lease.expiry = expiresAt start ttl := by
  constructor
  · intro h
    unfold leaseEvent at h
    split at h
    next => cases h
    next _ start duty ttl decision hevaluation hasked houtcome =>
      cases h
      exact ⟨start, ttl, ⟨hasked, decision, houtcome⟩, rfl⟩
    next => cases h
  · rintro ⟨start, ttl, ⟨hasked, decision, houtcome⟩, hexpiry⟩
    obtain ⟨status, hevaluation⟩ := evaluation_of_asked hasked
    unfold leaseEvent
    rw [hevaluation, hasked, houtcome, LeaseEvent.granted, ← hexpiry]

theorem granted_leaseEvent_eq_none_iff {record : PolicyRecord} :
    (leaseEvent record.event record.outcome).granted = none ↔
      ∀ start duty ttl, ¬ Accepted record start duty ttl := by
  constructor
  · intro hnone start duty ttl haccepted
    have hsome : (leaseEvent record.event record.outcome).granted =
        some ⟨duty, expiresAt start ttl⟩ :=
      granted_leaseEvent_iff.mpr ⟨start, ttl, haccepted, rfl⟩
    rw [hnone] at hsome
    cases hsome
  · intro hrefused
    by_contra hne
    obtain ⟨lease, hsome⟩ := Option.ne_none_iff_exists'.mp hne
    obtain ⟨start, ttl, haccepted, -⟩ := granted_leaseEvent_iff.mp hsome
    exact hrefused start lease.value ttl haccepted

/-- The last grant of a history is its last accepted request. -/
theorem lastGrant_eq_some_iff_lastAccepted {history : List PolicyRecord}
    {lease : Lease DutyPercent Clock} :
    lastGrant none (history.map fun record => leaseEvent record.event record.outcome) =
        some lease ↔
      ∃ earlier record later start ttl, history = earlier ++ record :: later ∧
        Accepted record start lease.value ttl ∧
        (∀ record ∈ later, ∀ start duty ttl, ¬ Accepted record start duty ttl) ∧
        lease.expiry = expiresAt start ttl := by
  rw [lastGrant_eq_some_iff]
  constructor
  · rintro (⟨hnone, -⟩ | ⟨earlier, event, later, hsplit, hgrant, hlater⟩)
    · cases hnone
    · obtain ⟨earlier, rest, rfl, rfl, hrest⟩ := List.map_eq_append_iff.mp hsplit
      obtain ⟨record, later, rfl, rfl, rfl⟩ := List.map_eq_cons_iff.mp hrest
      obtain ⟨start, ttl, haccepted, hexpiry⟩ := granted_leaseEvent_iff.mp hgrant
      refine ⟨earlier, record, later, start, ttl, rfl, haccepted, ?_, hexpiry⟩
      intro other hother
      exact granted_leaseEvent_eq_none_iff.mp (hlater _ (List.mem_map_of_mem hother))
  · rintro ⟨earlier, record, later, start, ttl, rfl, haccepted, hlater, hexpiry⟩
    refine .inr ⟨_, _, _, List.map_append,
      granted_leaseEvent_iff.mpr ⟨start, ttl, haccepted, hexpiry⟩, ?_⟩
    intro event hevent
    obtain ⟨other, hother, rfl⟩ := List.mem_map.mp hevent
    exact granted_leaseEvent_eq_none_iff.mpr (hlater other hother)

theorem leaseEvent_by {event : PolicyEvent} {outcome : PolicyOutcome} {now : Clock}
    (past : ∀ time status, event.evaluation = some (time, status) → time ≤ now) :
    (leaseEvent event outcome).By now := by
  unfold leaseEvent
  split
  next => trivial
  next _ start duty ttl decision hevaluation hasked =>
    obtain ⟨status, hstart⟩ := evaluation_of_asked hasked
    exact past start status hstart
  next time status hevaluation _ => exact past time status hevaluation

/-- Every change moves the slot as its lease event does. -/
theorem Change.slot {state after : ControlState} {event : PolicyEvent}
    {outcome : PolicyOutcome} (change : Change state event outcome after) :
    after.slot = leaseStep state.slot (leaseEvent event outcome) := by
  unfold leaseEvent
  cases change with
  | idle unevaluated =>
      rw [unevaluated]
      rfl
  | evaluated evaluation refused =>
      rw [evaluation, ControlState.slot_evaluated]
      rcases refused with hasked | ⟨error, rfl⟩
      · rw [hasked]
        rfl
      · cases event.asked <;> rfl
  | granted evaluation asked =>
      rw [evaluation, asked, ControlState.slot_granted]
      rfl

/-- The slot after a history is the lease slot run over that history. -/
theorem slot_finalState {policy : SafetyPolicy} (durable : policy.Durable)
    (events : List PolicyEvent) :
    (finalState step policy events).state.slot =
      leaseRun policy.state.slot ((records step policy events).map fun record =>
        leaseEvent record.event record.outcome) := by
  induction events generalizing policy with
  | nil => rfl
  | cons event rest ih =>
      obtain ⟨hchange, hnext⟩ := step_change durable event
      rw [finalState_cons, ih hnext, hchange.slot]
      rfl

theorem candidateAt_eq {now : Clock} {policy : SafetyPolicy} (durable : policy.Durable) :
    candidateAt now policy = (policy.state.liveOverride now).map fun override =>
      (override.dutyPercent, override.expiry) := by
  obtain ⟨after, hsettle, -, -⟩ := durable.settle (policy.state.dropExpired now)
  have hactive : activeOverride now policy = .ok (policy.state.liveOverride now) after := by
    rw [activeOverride_apply, bind_of_ok hsettle]
    rfl
  rw [candidateAt, hactive]
  rfl

theorem candidateAt_eq_some_iff {now : Clock} {policy : SafetyPolicy} (durable : policy.Durable)
    {duty : DutyPercent} {expiry : Clock} :
    candidateAt now policy = some (duty, expiry) ↔
      inForce now policy.state.slot = some ⟨duty, expiry⟩ := by
  rw [candidateAt_eq durable, ← ControlState.map_liveOverride]
  cases policy.state.liveOverride now with
  | none => simp
  | some override => simp [Override.toLease]

/-- An evaluation at `now` without a request of its own answers from the table
with the candidate at `now`. -/
theorem evaluate_candidateAt {policy : SafetyPolicy} (durable : policy.Durable) (now : Clock)
    (status : BackendStatus) :
    ∃ decision after, evaluate now status none none policy = .ok decision after ∧
      decision.effectiveDuty = status.band.duty policy.state.previousHot status.dutyPercent
        ((candidateAt now policy).map fun candidate => candidate.1.val) ∧
      decision.overrideExpiresAt = (candidateAt now policy).map Prod.snd := by
  obtain ⟨after, heq, -, -⟩ := durable.evaluate now status none none
  refine ⟨_, after, heq, ?_⟩
  rw [candidateAt_eq durable]
  constructor
  · rw [Option.map_map]
    rfl
  · rw [Option.map_map]
    rfl

/-- The candidate at `now` is the last accepted request, unless that has run out.
After any history up to `now` from a first start, an evaluation without a request
of its own finds the duty `duty` with expiry `expiry` exactly when the last request
answered with a decision was one for `duty`, and `expiry`, its time plus its
lifetime, lies ahead. -/
theorem candidateAt_iff_lastAccepted {outcomes : ℕ → WriteOutcome}
    (writes : ∀ attempt, outcomes attempt = .stored) (events : List PolicyEvent) (now : Clock)
    (past : ∀ event ∈ events, ∀ time status, event.evaluation = some (time, status) → time ≤ now) :
    (∀ duty expiry,
      candidateAt now (finalState step (fresh outcomes) events) = some (duty, expiry) ↔
        ∃ earlier record later start ttl,
          records step (fresh outcomes) events = earlier ++ record :: later ∧
          Accepted record start duty ttl ∧
          (∀ record ∈ later, ∀ start duty ttl, ¬ Accepted record start duty ttl) ∧
          expiry = expiresAt start ttl ∧ now < expiry) ∧
    ∀ status, ∃ decision after,
      evaluate now status none none (finalState step (fresh outcomes) events) =
        .ok decision after ∧
      decision.effectiveDuty =
        status.band.duty (finalState step (fresh outcomes) events).state.previousHot
          status.dutyPercent
          ((candidateAt now (finalState step (fresh outcomes) events)).map fun candidate =>
            candidate.1.val) ∧
      decision.overrideExpiresAt =
        (candidateAt now (finalState step (fresh outcomes) events)).map Prod.snd := by
  have hdurable : (fresh outcomes).Durable := ⟨writes, synced_of_init (init_fresh outcomes)⟩
  have hfinal : (finalState step (fresh outcomes) events).Durable :=
    finalState_invariant step step_durable hdurable events
  have hpast : ∀ event ∈ (records step (fresh outcomes) events).map
      (fun record => leaseEvent record.event record.outcome), event.By now := by
    intro event hmem
    obtain ⟨record, hrecord, rfl⟩ := List.mem_map.mp hmem
    exact leaseEvent_by (past record.event (event_mem_of_mem_records step hrecord))
  have hslot : inForce now (finalState step (fresh outcomes) events).state.slot =
      inForce now (lastGrant none ((records step (fresh outcomes) events).map fun record =>
        leaseEvent record.event record.outcome)) := by
    rw [slot_finalState hdurable]
    exact inForce_leaseRun _ hpast rfl
  refine ⟨fun duty expiry => ?_, evaluate_candidateAt hfinal now⟩
  rw [candidateAt_eq_some_iff hfinal, hslot, inForce_eq_some_iff,
    lastGrant_eq_some_iff_lastAccepted]
  constructor
  · rintro ⟨⟨earlier, record, later, start, ttl, hsplit, haccepted, hlater, hexpiry⟩, hlive⟩
    exact ⟨earlier, record, later, start, ttl, hsplit, haccepted, hlater, hexpiry, hlive⟩
  · rintro ⟨earlier, record, later, start, ttl, hsplit, haccepted, hlater, hexpiry, hlive⟩
    exact ⟨⟨earlier, record, later, start, ttl, hsplit, haccepted, hlater, hexpiry⟩, hlive⟩

/-- A request for 50% at time 100 with 300 seconds to live is still the candidate
at 399, after a restart in between. -/
theorem candidateAt_after_restart :
    candidateAt (.ofInt 399) (finalState step (fresh fun _ => .stored)
      [.request (.ofInt 100) (readingStatus (degrees 45) (degrees 35) (some 22))
        (.int 50) (.int 300), .restart]) =
      some (⟨50, by decide⟩, .ofInt 400) := by
  refine ((candidateAt_iff_lastAccepted (fun _ => rfl) _ _ ?past).1 _ _).mpr
    ⟨[], _, [_], .ofInt 100, ⟨300, by decide⟩, rfl, ⟨rfl, _, rfl⟩, ?superseded,
      by decide +kernel, by decide⟩
  case past =>
    intro event hevent time status heq
    rcases List.mem_pair.mp hevent with rfl | rfl
    · cases heq
      decide
    · cases heq
  case superseded =>
    intro record hrecord start duty ttl haccepted
    rw [List.mem_singleton.mp hrecord] at haccepted
    cases haccepted.1

end SafetyPolicy

end TrueFan
