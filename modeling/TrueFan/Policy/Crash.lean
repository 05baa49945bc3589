/-
# Deaths of the process

A policy whose process may die at any file operation of a save is a policy whose saves only
succeed or raise. Where the process dies, that policy goes on to the end of the call, without
storing anything more, and is then restarted; whether the save at which the process died counts
as one that succeeded depends on whether the state file had been replaced. Nobody hears what
that call comes to.
-/

import TrueFan.Policy.Disk

namespace TrueFan

open Python Foundations

/-- Sorting the members of a dictionary keeps what it holds. -/
theorem ControlStateStore.Holds.sorted {state : StateDict} {control : ControlState}
    (h : ControlStateStore.Holds state control) :
    ControlStateStore.Holds state.sorted control := by
  obtain ⟨previousHot, held⟩ := state
  obtain ⟨latched, override⟩ := control
  obtain ⟨hhot, hoverride⟩ := h
  refine ⟨hhot, ?_⟩
  cases hoverride with
  | none => exact .none
  | some hrepresents => exact .some hrepresents.sorted

namespace Codec

/-- Dictionaries that are written and read back, among them all that the policy makes of one of
them, and the overrides it may be asked for. -/
structure Family (codec : Codec) where
  mem : StateDict → Prop
  grants : DutyPercent → Clock → Prop
  normal : ∀ {state}, mem state → state.Normal
  round : ∀ {state}, mem state → codec.RoundTrips state
  sorted : ∀ {state}, mem state → mem state.sorted
  latch : ∀ {state}, mem state → ∀ previousHot, mem { state with previousHot }
  drop : ∀ {state}, mem state → mem { state with override := none }
  grant : ∀ {state}, mem state → ∀ {duty expiry}, grants duty expiry →
    mem { state with override := some (StateDict.requestedOverride duty expiry) }

/-- A save replaces the state file or leaves it alone, also if there is no name for a temporary
file. -/
theorem save_target (codec : Codec) (state : StateDict) {run : SaveRun} {directory : Directory}
    (exclusive : (directory.temps run.suffix).isSome → run.ending .create = .raises) :
    (∃ after, codec.save run state directory = .ok () after ∧
      after.target = some (codec.text state)) ∨
    (∃ after, codec.save run state directory = .error .raised after ∧
      after.target = directory.target) ∨
    ∃ after, codec.save run state directory = .error .died after ∧
      (after.target = directory.target ∨ after.target = some (codec.text state)) := by
  cases htemp : directory.temps run.suffix with
  | none =>
      rcases save_cases codec state htemp with
        ⟨after, hsave, rfl⟩ | ⟨after, hsave, htarget, -⟩ | ⟨after, hsave, hleft⟩
      · exact .inl ⟨_, hsave, rfl⟩
      · exact .inr (.inl ⟨after, hsave, htarget⟩)
      · exact .inr (.inr ⟨after, hsave, hleft⟩)
  | some text =>
      have hcreate : run.ending .create = .raises := exclusive (by rw [htemp]; rfl)
      rw [save, SaveRun.touch, hcreate]
      cases run.ending .makeDirectory with
      | finishes => exact .inr (.inl ⟨directory, rfl, rfl⟩)
      | raises => exact .inr (.inl ⟨directory, rfl, rfl⟩)
      | dies => exact .inr (.inr ⟨directory, rfl, .inl rfl⟩)

end Codec

namespace SafetyPolicy

/-- The memory and the file of a policy. -/
abbrev Core := ControlState × StateFile

/-- The policy with this memory and this file, after so many writes. -/
def place (core : Core) (attempts : ℕ) (outcomes : ℕ → WriteOutcome) : SafetyPolicy where
  state := core.1
  store := ⟨core.2, attempts, outcomes⟩

theorem save_stored (core : Core) :
    ComesTo place save core [.stored] (.ok ()) (core.1, .document core.1.toJson) := by
  intro outcomes attempts hdecides
  rw [save, zoom, ControlStateStore.save, place]
  dsimp only
  rw [hdecides.1]
  rfl

theorem save_raised (core : Core) :
    ComesTo place save core [.raised] (.error .osError) core := by
  intro outcomes attempts hdecides
  rw [save, zoom, ControlStateStore.save, place]
  dsimp only
  rw [hdecides.1]
  rfl

theorem setOverride_comesTo (override : Option Override) (core : Core) :
    ComesTo place (setOverride override) core [] (.ok ())
      ({ core.1 with override }, core.2) :=
  fun _ _ _ => rfl

theorem setPreviousHot_comesTo (previousHot : Bool) (core : Core) :
    ComesTo place (setPreviousHot previousHot) core [] (.ok ())
      ({ core.1 with previousHot }, core.2) :=
  fun _ _ _ => rfl

/-- The method can get to its end with the file as it was. -/
abbrev CanKeepFile {α : Type} (method : Method α) : Prop := CanKeep Prod.snd place method

theorem save_canKeep : CanKeepFile save :=
  fun core => ⟨[.raised], .error .osError, core, save_raised core, rfl⟩

theorem setOverride_canKeep (override : Option Override) : CanKeepFile (setOverride override) :=
  fun core => ⟨[], .ok (), _, setOverride_comesTo override core, rfl⟩

theorem setPreviousHot_canKeep (previousHot : Bool) : CanKeepFile (setPreviousHot previousHot) :=
  fun core => ⟨[], .ok (), _, setPreviousHot_comesTo previousHot core, rfl⟩

/-- A change that is written before a value is returned. -/
theorem write_canKeep {α : Type} {change : Method Unit} (hchange : CanKeepFile change) (value : α) :
    CanKeepFile (do change; save; return value) :=
  hchange.bind fun _ => save_canKeep.bind fun _ => .pure value

theorem updateLatch_canKeep (latched next : Bool) :
    CanKeepFile (object.updateLatch latched next) := by
  rw [PolicyObject.updateLatch]
  by_cases hsame : latched = next
  · rw [if_neg (not_not.mpr hsame)]
    exact .pure _
  · rw [if_pos hsame]
    exact (setPreviousHot_canKeep next).bind fun _ => save_canKeep

theorem fromTable_canKeep (status : BackendStatus) (requestedDuty : Option ℤ)
    (override : Option Override) : CanKeepFile (object.fromTable status requestedDuty override) :=
  CanKeep.get_bind
    (fun core => do
      object.updateLatch core.1.previousHot (status.band.nextLatch core.1.previousHot)
      return tableDecision core.1.previousHot status requestedDuty override)
    (fun _ _ _ => rfl) fun _ => (updateLatch_canKeep _ _).bind fun _ => .pure _

end SafetyPolicy

namespace DiskPolicy

/-! ## A policy that is followed -/

variable {codec : Codec} (family : codec.Family)

/-- The next process comes up with what the file of the policy stands for. -/
def Survives (policy : DiskPolicy) (file : StateFile) : Prop :=
  ∃ state control, codec.load policy.directory = .ok state ∧ family.mem state ∧
    ControlStateStore.loadFile file = .ok control ∧ ControlStateStore.Holds state control

/-- The dictionary holds what the policy has in memory, and the next process comes up with what
the file stands for. -/
structure Related (policy : DiskPolicy) (core : SafetyPolicy.Core) : Prop where
  mem : family.mem policy.state
  holds : ControlStateStore.Holds policy.state core.1
  survives : policy.Survives family core.2

/-- The method is followed by one of the policy. -/
abbrev IsFollowed {α β : Type} (method : Method α) (other : SafetyPolicy.Method β)
    (agree : α → β → Prop) : Prop :=
  Follows SafetyPolicy.place Prod.snd (Related family) (Survives family) method other agree

variable {family} (runs : SaveRuns)

theorem survives_of_target {policy : DiskPolicy} {core : SafetyPolicy.Core}
    (h : policy.Related family core) {directory : Directory}
    (htarget : directory.target = policy.directory.target) (saves : ℕ) :
    Survives family { policy with directory, saves } core.2 := by
  obtain ⟨state, control, hload, hrest⟩ := h.survives
  refine ⟨state, control, ?_, hrest⟩
  rw [← hload, Codec.load, Codec.load, Codec.stateFile_of_target htarget]

theorem survives_of_text {policy : DiskPolicy} {core : SafetyPolicy.Core}
    (h : policy.Related family core) {directory : Directory}
    (htarget : directory.target = some (codec.text policy.state)) (saves : ℕ) :
    Survives family { policy with directory, saves } (.document core.1.toJson) := by
  have hnormal := family.normal h.mem
  refine ⟨policy.state.sorted, core.1, ?_, family.sorted h.mem,
    ControlStateStore.loadFile_toJson core.1, h.holds.sorted⟩
  rw [Codec.load, Codec.stateFile_of_text (family.round h.mem) htarget,
    ControlStateStore.loadDict_sortKeys hnormal]

theorem save_isFollowed :
    IsFollowed family (save codec runs) SafetyPolicy.save fun _ _ => True := by
  intro policy core h
  rw [FollowsAt, save]
  rcases Codec.save_target codec policy.state (runs.exclusive policy.saves policy.directory) with
    ⟨after, hsave, htarget⟩ | ⟨after, hsave, htarget⟩ | ⟨after, hsave, htarget | htarget⟩
  · rw [hsave]
    exact ⟨_, _, _, SafetyPolicy.save_stored core, trivial, h.mem, h.holds,
      survives_of_text h htarget _⟩
  · rw [hsave]
    exact ⟨_, _, _, SafetyPolicy.save_raised core, rfl, h.mem, h.holds,
      survives_of_target h htarget _⟩
  · rw [hsave]
    exact ⟨_, _, _, SafetyPolicy.save_raised core, survives_of_target h htarget _⟩
  · rw [hsave]
    exact ⟨_, _, _, SafetyPolicy.save_stored core, survives_of_text h htarget _⟩

theorem setPreviousHot_isFollowed (previousHot : Bool) :
    IsFollowed family (setPreviousHot previousHot) (SafetyPolicy.setPreviousHot previousHot)
      fun _ _ => True :=
  fun _ core h => ⟨[], .ok (), _, SafetyPolicy.setPreviousHot_comesTo previousHot core, trivial,
    family.latch h.mem previousHot, ⟨rfl, h.holds.2⟩, h.survives⟩

theorem updateLatch_isFollowed (latched next : Bool) :
    IsFollowed family ((object codec runs).updateLatch latched next)
      (SafetyPolicy.object.updateLatch latched next) fun _ _ => True := by
  rw [PolicyObject.updateLatch, PolicyObject.updateLatch]
  by_cases hsame : latched = next
  · rw [if_neg (not_not.mpr hsame), if_neg (not_not.mpr hsame)]
    exact .pure trivial
  · rw [if_pos hsame, if_pos hsame]
    exact (setPreviousHot_isFollowed next).bind (fun _ _ _ => save_isFollowed runs)
      fun _ => SafetyPolicy.save_canKeep

theorem fromTable_isFollowed (status : BackendStatus) (requestedDuty : Option ℤ)
    (override : Option Override) :
    IsFollowed family ((object codec runs).fromTable status requestedDuty override)
      (SafetyPolicy.object.fromTable status requestedDuty override) Eq := by
  refine Follows.get_bind
    (fun core => do
      SafetyPolicy.object.updateLatch core.1.previousHot
        (status.band.nextLatch core.1.previousHot)
      return tableDecision core.1.previousHot status requestedDuty override)
    (fun _ _ _ => rfl) fun policy core h => ?_
  have hlatch : (object codec runs).previousHot policy = core.1.previousHot := h.holds.1
  rw [hlatch]
  exact (updateLatch_isFollowed runs _ _).bind (fun _ _ _ => .pure rfl) (fun _ => .pure _)
    policy core h

theorem setOverride_isFollowed {held : Option (List (String × Json))}
    {override : Option Override} (hheld : Option.Rel Represents held override)
    (hmem : ∀ {state}, family.mem state → family.mem { state with override := held }) :
    IsFollowed family (setOverride held) (SafetyPolicy.setOverride override) fun _ _ => True :=
  fun _ core h => ⟨[], .ok (), _, SafetyPolicy.setOverride_comesTo override core, trivial,
    hmem h.mem, ⟨h.holds.1, hheld⟩, h.survives⟩

theorem activeOverride_isFollowed (now : Clock) :
    IsFollowed family (activeOverride codec runs now) (SafetyPolicy.activeOverride now)
      (Option.Rel Represents) := by
  refine Follows.get_bind
    (fun core =>
      core.1.override.elim (return none) fun override =>
        if override.expiry ≤ now then do
          SafetyPolicy.setOverride none
          SafetyPolicy.save
          return none
        else return some override)
    (fun core _ _ => ?_) fun policy core h => ?_
  · obtain ⟨⟨previousHot, override⟩, file⟩ := core
    cases override with
    | none => rfl
    | some override => rfl
  have hheld : Option.Rel Represents ((object codec runs).override policy) core.1.override :=
    h.holds.2
  generalize (object codec runs).override policy = held at hheld ⊢
  generalize core.1.override = override at hheld ⊢
  cases hheld with
  | none => exact Follows.pure .none policy core h
  | @some members override hrepresents =>
      dsimp only [Option.elim_some]
      rw [(readsAs_of_represents codec runs hrepresents).expiry, PolicyObject.lift, pure_bind]
      by_cases hexpired : override.expiry ≤ now
      · rw [if_pos hexpired, if_pos hexpired]
        exact (setOverride_isFollowed .none family.drop).bind
          (fun _ _ _ => (save_isFollowed runs).bind (fun _ _ _ => .pure .none) fun _ => .pure _)
          (fun _ => SafetyPolicy.save_canKeep.bind fun _ => .pure _) policy core h
      · rw [if_neg hexpired, if_neg hexpired]
        exact Follows.pure (.some hrepresents) policy core h

theorem evaluate_isFollowed (clock : Clock) (status : BackendStatus) (requestedDuty : Option ℤ)
    (now : Option Clock) :
    IsFollowed family (evaluate codec runs clock status requestedDuty now)
      (SafetyPolicy.evaluate clock status requestedDuty now) Eq := by
  obtain ⟨rest, hevaluate, hrest⟩ :=
    (object codec runs).evaluate_eq clock status requestedDuty now
  rw [evaluate, hevaluate, SafetyPolicy.evaluate_eq]
  refine (activeOverride_isFollowed runs _).bind (fun held override hheld => ?_) fun override =>
    SafetyPolicy.fromTable_canKeep status requestedDuty override
  have hreads : Option.Rel (object codec runs).ReadsAs held override := by
    cases hheld with
    | none => exact .none
    | some hrepresents => exact .some (readsAs_of_represents codec runs hrepresents)
  rw [hrest hreads]
  exact fromTable_isFollowed runs status requestedDuty override

theorem requestOverride_isFollowed (clock : Clock) (status : BackendStatus)
    (dutyPercent ttlSeconds : Json)
    (hasked : ∀ duty ttl, SafetyPolicy.validDuty dutyPercent = some duty →
      SafetyPolicy.validTtl ttlSeconds = some ttl →
      family.grants duty (SafetyPolicy.expiresAt clock ttl)) :
    IsFollowed family (requestOverride codec runs clock status dutyPercent ttlSeconds)
      (SafetyPolicy.requestOverride clock status dutyPercent ttlSeconds) Eq := by
  rw [requestOverride, SafetyPolicy.requestOverride, PolicyObject.requestOverride,
    PolicyObject.requestOverride]
  cases hduty : SafetyPolicy.validDuty dutyPercent with
  | none => exact .throw _ _
  | some duty =>
      cases httl : SafetyPolicy.validTtl ttlSeconds with
      | none => exact .throw _ _
      | some ttl =>
          have hgrant := hasked duty ttl hduty httl
          refine (evaluate_isFollowed runs clock status _ _).bind ?_ fun decision => ?_
          case refine_2 =>
            cases SafetyPolicy.refusal status duty.val decision with
            | some error => exact .throw error
            | none => exact SafetyPolicy.write_canKeep (SafetyPolicy.setOverride_canKeep _) _
          rintro decision _ rfl
          cases SafetyPolicy.refusal status duty.val decision with
          | some error => exact .throw _ _
          | none =>
              refine (setOverride_isFollowed
                (.some (StateDict.represents_requestedOverride duty _))
                fun hmem => family.grant hmem hgrant).bind (fun _ _ _ => ?_)
                fun _ => SafetyPolicy.save_canKeep.bind fun _ => .pure _
              exact (save_isFollowed runs).bind (fun _ _ _ => .pure rfl) fun _ => .pure _

/-- The dictionary and the directory are those of the policy. -/
def Mirrors (family : codec.Family) (policy : DiskPolicy) (other : SafetyPolicy) : Prop :=
  policy.Related family (other.state, other.store.file)

/-- What an event comes to for the policy, with these decisions: the same, or, where the process
dies, anything and a restart. -/
def Plays (outcome : DiskOutcome) (event : PolicyEvent) (core : SafetyPolicy.Core)
    (decisions : List WriteOutcome) (after : SafetyPolicy.Core) : Prop :=
  ∀ environment n, Decides environment n decisions →
    match outcome with
    | .lived outcome =>
        SafetyPolicy.step (SafetyPolicy.place core n environment) event =
          (outcome, SafetyPolicy.place after (n + decisions.length) environment)
    | .died =>
        SafetyPolicy.step
            (SafetyPolicy.step (SafetyPolicy.place core n environment) event).2 .restart =
          (.started, SafetyPolicy.place after (n + decisions.length) environment)

theorem restart_of_survives {policy : DiskPolicy} {file : StateFile}
    (h : policy.Survives family file) :
    ∃ started control, init codec policy.directory policy.saves = .ok started ∧
      started.Related family (control, file) ∧ ControlStateStore.loadFile file = .ok control := by
  obtain ⟨state, control, hload, hmem, hfile, hholds⟩ := h
  refine ⟨⟨state, policy.directory, policy.saves⟩, control, ?_, ?_, hfile⟩
  · rw [init, hload]
    rfl
  · exact ⟨hmem, hholds, state, control, hload, hmem, hfile, hholds⟩

theorem step_restart_place {core : SafetyPolicy.Core} {control : ControlState}
    (h : ControlStateStore.loadFile core.2 = .ok control) (n : ℕ)
    (environment : ℕ → WriteOutcome) :
    SafetyPolicy.step (SafetyPolicy.place core n environment) .restart =
      (.started, SafetyPolicy.place (control, core.2) n environment) := by
  rw [SafetyPolicy.step_restart, SafetyPolicy.init, ControlStateStore.load, SafetyPolicy.place]
  dsimp only
  rw [h]
  rfl

/-- A call that is followed by one of the policy makes an event that is. -/
theorem outcome_plays {method : Method SafetyDecision} {other : SafetyPolicy.Method SafetyDecision}
    (hfollowed : IsFollowed family method other Eq) {event : PolicyEvent}
    (hevent : ∀ policy, SafetyPolicy.step policy event = SafetyPolicy.outcome (other policy))
    {policy : DiskPolicy} {core : SafetyPolicy.Core} (h : policy.Related family core) :
    ∃ decisions after, Plays (outcome codec (method policy)).1 event core decisions after ∧
      (outcome codec (method policy)).2.Related family after := by
  obtain ⟨decisions, ending, after, hcomes, hends⟩ := hfollowed policy core h
  cases hrun : method policy with
  | ok decision policy' =>
      rw [hrun] at hends
      cases ending with
      | error error => exact hends.elim
      | ok decision' =>
          obtain ⟨rfl, hafter⟩ := hends
          refine ⟨decisions, after, fun environment n hdecides => ?_, hafter⟩
          exact (hevent _).trans (congrArg SafetyPolicy.outcome (hcomes environment n hdecides))
  | error halt policy' =>
      rw [hrun] at hends
      cases halt with
      | raises error =>
          cases ending with
          | ok decision => exact hends.elim
          | error error' =>
              obtain ⟨rfl, hafter⟩ := hends
              refine ⟨decisions, after, fun environment n hdecides => ?_, hafter⟩
              exact (hevent _).trans (congrArg SafetyPolicy.outcome (hcomes environment n hdecides))
      | dies =>
          have hsurvives : policy'.Survives family after.2 := by
            cases ending <;> exact hends
          obtain ⟨started, control, hinit, hrelated, hfile⟩ := restart_of_survives hsurvives
          refine ⟨decisions, (control, after.2), fun environment n hdecides => ?_, ?_⟩
          · dsimp only [outcome]
            rw [hevent, hcomes environment n hdecides]
            cases ending with
            | ok decision => exact step_restart_place hfile _ environment
            | error error => exact step_restart_place hfile _ environment
          · have hrestart : policy'.restart codec = some started := by
              rw [restart, hinit]
              rfl
            show ((policy'.restart codec).getD policy').Related family _
            rw [hrestart]
            exact hrelated

/-- Every event is one of the policy, or one in which it dies and is restarted. -/
theorem step_plays {policy : DiskPolicy} {core : SafetyPolicy.Core}
    (h : policy.Related family core) (event : PolicyEvent)
    (hasked : ∀ clock duty ttl, event.asked = some (clock, duty, ttl) →
      family.grants duty (SafetyPolicy.expiresAt clock ttl)) :
    ∃ decisions after, Plays (step codec runs policy event).1 event core decisions after ∧
      (step codec runs policy event).2.Related family after := by
  cases event with
  | evaluate clock status requestedDuty now =>
      exact outcome_plays (evaluate_isFollowed runs clock status requestedDuty now)
        (fun _ => rfl) h
  | request clock status dutyPercent ttlSeconds =>
      have hasks (duty : DutyPercent) (ttl : TtlSeconds)
          (hduty : SafetyPolicy.validDuty dutyPercent = some duty)
          (httl : SafetyPolicy.validTtl ttlSeconds = some ttl) :
          family.grants duty (SafetyPolicy.expiresAt clock ttl) :=
        hasked clock duty ttl (PolicyEvent.asked_of_valid hduty httl clock status)
      exact outcome_plays (requestOverride_isFollowed runs clock status _ _ hasks)
        (fun _ => rfl) h
  | restart =>
      obtain ⟨started, control, hinit, hrelated, hfile⟩ := restart_of_survives h.survives
      have hstep : step codec runs policy .restart = (.lived .started, started) := by
        rw [step, hinit]
      rw [hstep]
      refine ⟨[], (control, core.2), fun environment n _ => ?_, hrelated⟩
      exact step_restart_place hfile n environment

/-! ## Histories -/

abbrev DiskRecord := Record DiskPolicy PolicyEvent DiskOutcome

/-- The records of a policy on its disk, retold as those of a policy. An event in which the
process died is that event, with an outcome that nobody has heard, and a restart. -/
inductive Retold (family : codec.Family) : List DiskRecord → List SafetyPolicy.PolicyRecord → Prop
  | nothing : Retold family [] []
  | lived {before after before' after' event outcome rest rest'}
      (found : Mirrors family before before') (left : Mirrors family after after')
      (later : Retold family rest rest') :
      Retold family (⟨before, event, .lived outcome, after⟩ :: rest)
        (⟨before', event, outcome, after'⟩ :: rest')
  | died {before after before' between after' event unheard rest rest'}
      (found : Mirrors family before before') (left : Mirrors family after after')
      (later : Retold family rest rest') :
      Retold family (⟨before, event, .died, after⟩ :: rest)
        (⟨before', event, unheard, between⟩ :: ⟨between, .restart, .started, after'⟩ :: rest')

theorem records_retold {policy : DiskPolicy} {core : SafetyPolicy.Core}
    (h : policy.Related family core) {events : List PolicyEvent}
    (hasked : ∀ event ∈ events, ∀ clock duty ttl, event.asked = some (clock, duty, ttl) →
      family.grants duty (SafetyPolicy.expiresAt clock ttl)) :
    ∃ decisions events', ∀ environment n, Decides environment n decisions →
      Retold family (records (step codec runs) policy events)
        (records SafetyPolicy.step (SafetyPolicy.place core n environment) events') := by
  induction events generalizing policy core with
  | nil => exact ⟨[], [], fun _ _ _ => .nothing⟩
  | cons event rest ih =>
      obtain ⟨decisions, after, hplays, hafter⟩ :=
        step_plays runs h event (hasked event List.mem_cons_self)
      obtain ⟨later, events', hretold⟩ :=
        ih hafter fun event' hmem => hasked event' (List.mem_cons_of_mem event hmem)
      rw [records_cons]
      rw [Plays] at hplays
      cases houtcome : (step codec runs policy event).1 with
      | lived outcome =>
          rw [houtcome] at hplays
          refine ⟨decisions ++ later, event :: events', fun environment n hdecides => ?_⟩
          obtain ⟨hdecides, hlater⟩ := decides_append.mp hdecides
          rw [records_cons, hplays environment n hdecides]
          exact .lived h hafter (hretold environment _ hlater)
      | died =>
          rw [houtcome] at hplays
          refine ⟨decisions ++ later, event :: .restart :: events',
            fun environment n hdecides => ?_⟩
          obtain ⟨hdecides, hlater⟩ := decides_append.mp hdecides
          rw [records_cons, records_cons, hplays environment n hdecides]
          exact .died h hafter (hretold environment _ hlater)

/-- A process that came up is an image of a policy that did, with the same file. -/
theorem related_of_init {directory : Directory} {saves : ℕ} {policy : DiskPolicy}
    (started : init codec directory saves = .ok policy) (known : family.mem policy.state) :
    ∃ control, policy.Related family (control, codec.stateFile directory) ∧
      ControlStateStore.loadFile (codec.stateFile directory) = .ok control := by
  obtain ⟨state, hload, heq⟩ := bind_except_eq_ok started
  cases heq
  rcases ControlStateStore.loadDict_loadFile (codec.stateFile directory) with
    ⟨dict, control, hdict, hfile, hholds⟩ | ⟨error, herror, -⟩
  · cases hload.symm.trans hdict
    exact ⟨control, ⟨known, hholds, state, control, hload, known, hfile, hholds⟩, hfile⟩
  · cases hload.symm.trans herror

/-- Every history of a policy on its disk, in which the process may die at any file operation of
any save, is a history of the policy whose saves succeed or raise: it starts from the same file,
hears the same events and gives the same answers, where the process lived to give one, and from
then on has the same in memory and comes up with the same. -/
theorem histories_retold (family : codec.Family) {directory : Directory} {saves : ℕ}
    {policy : DiskPolicy} (started : init codec directory saves = .ok policy)
    (known : family.mem policy.state) (events : List PolicyEvent)
    (asked : ∀ event ∈ events, ∀ clock duty ttl, event.asked = some (clock, duty, ttl) →
      family.grants duty (SafetyPolicy.expiresAt clock ttl)) :
    ∃ outcomes start events',
      SafetyPolicy.init ⟨codec.stateFile directory, 0, outcomes⟩ = .ok start ∧
      Retold family (records (step codec runs) policy events)
        (records SafetyPolicy.step start events') := by
  obtain ⟨control, hrelated, hfile⟩ := related_of_init started known
  obtain ⟨decisions, events', hretold⟩ := records_retold runs hrelated asked
  obtain ⟨outcomes, hdecides⟩ := exists_decides WriteOutcome.stored decisions
  refine ⟨outcomes, SafetyPolicy.place (control, codec.stateFile directory) 0 outcomes, events',
    ?_, hretold outcomes 0 hdecides⟩
  rw [SafetyPolicy.init, ControlStateStore.load, hfile]
  rfl

end DiskPolicy

namespace SaveRuns

/-- Saves that go as listed, but for the creation of a file under a name that one has. -/
def ofRuns (runs : ℕ → SaveRun) : SaveRuns where
  run attempt directory :=
    { runs attempt with
      ending := fun operation =>
        if operation = .create ∧ (directory.temps (runs attempt).suffix).isSome then .raises
        else (runs attempt).ending operation }
  exclusive _ _ htaken := if_pos ⟨rfl, htaken⟩

end SaveRuns

/-- A directory without files. -/
def Directory.empty : Directory := ⟨none, fun _ => none⟩

namespace Codec

/-- The text of the state without an incident and an override. -/
def calmText : List Char :=
  "\x7b\"override\":null,\"previous_hot\":false,\"version\":1\x7d".toList

/-- What `json` makes of the states without an override. -/
def bareStates : Codec where
  encode
    | .object members =>
        if (Json.get members "previous_hot").truthy then incidentText else calmText
    | _ => []
  decode text :=
    if text = incidentText ++ ['\n'] then .ok incident.toJson.sortKeys
    else if text = calmText ++ ['\n'] then .ok (StateDict.toJson ⟨false, none⟩).sortKeys
    else .error (.valueError "Expecting value")

theorem roundTrips_bareStates (previousHot : Bool) : bareStates.RoundTrips ⟨previousHot, none⟩ := by
  cases previousHot with
  | true =>
      have htext : bareStates.text ⟨true, none⟩ = incidentText ++ ['\n'] := rfl
      rw [RoundTrips, htext, bareStates]
      dsimp only
      rw [if_pos rfl]
      rfl
  | false =>
      have hother : calmText ++ ['\n'] ≠ incidentText ++ ['\n'] := by decide
      have htext : bareStates.text ⟨false, none⟩ = calmText ++ ['\n'] := rfl
      rw [RoundTrips, htext, bareStates]
      dsimp only
      rw [if_neg hother, if_pos rfl]

/-- Without overrides there are only these two. -/
def withoutOverrides : bareStates.Family where
  mem state := state.override = none
  grants _ _ := False
  normal h := by
    intro members hmembers
    cases h.symm.trans hmembers
  round {state} h := by
    obtain ⟨previousHot, override⟩ := state
    cases h
    exact roundTrips_bareStates previousHot
  sorted h := congrArg (Option.map _) h
  latch h _ := h
  drop _ := rfl
  grant _ _ _ h := h.elim

end Codec

namespace DiskPolicy

/-- The process dies at its first `os.fsync`; all later saves go through. -/
def diesFirst (attempt : ℕ) : SaveRun where
  suffix := List.replicate 8 (if attempt = 0 then 'k' else 'x')
  ending operation := if attempt = 0 ∧ operation = .fsync then .dies else .finishes
  left _ := []

/-- An evaluation of a hot processor. -/
def hotEvaluation : PolicyEvent :=
  .evaluate (.ofInt 100)
    (readingStatus (degrees 90) (degrees 40) (some 22)) none none

theorem init_empty :
    init Codec.bareStates .empty 0 = .ok ⟨⟨false, none⟩, .empty, 0⟩ := rfl

theorem nothing_asked : ∀ event ∈ [hotEvaluation, hotEvaluation, .restart], ∀ clock duty ttl,
    event.asked = some (clock, duty, ttl) →
      Codec.withoutOverrides.grants duty (SafetyPolicy.expiresAt clock ttl) := by
  simp [hotEvaluation, PolicyEvent.asked]

/-- An incident is opened in a process that dies while it is saved, and opened again. -/
theorem histories_retold_of_death :
    (step Codec.bareStates (SaveRuns.ofRuns diesFirst) ⟨⟨false, none⟩, .empty, 0⟩
      hotEvaluation).1 = .died ∧
    ∃ outcomes start events',
      SafetyPolicy.init ⟨Codec.bareStates.stateFile .empty, 0, outcomes⟩ = .ok start ∧
      Retold Codec.withoutOverrides
        (records (step Codec.bareStates (SaveRuns.ofRuns diesFirst)) ⟨⟨false, none⟩, .empty, 0⟩
          [hotEvaluation, hotEvaluation, .restart])
        (records SafetyPolicy.step start events') := by
  constructor
  · decide +kernel
  · exact histories_retold (SaveRuns.ofRuns diesFirst) Codec.withoutOverrides init_empty rfl _
      nothing_asked

end DiskPolicy

end TrueFan
