/-
# A hotter machine is cooled no less

Two machines tick on the same clock over backends that hold and report what they are
told. The second one starts with at least the duty, the latch and the override of the
first and is at no step cooler, and the same sensors work on both. `Below` is the
relation that survives every pair of branches the two can take: hot against sensor
failure, cooling against normal, an override against none.
-/

import TrueFan.Service.Faithful
import TrueFan.Service.Run

namespace TrueFan

open Python Foundations

/-- Both readings are absent, or both are finite and the first is no higher. -/
inductive ReadingLe : Option PyFloat → Option PyFloat → Prop
  | absent : ReadingLe none none
  | finite {low high : FiniteFloat} (le : low ≤ high) :
      ReadingLe (some (.finite low)) (some (.finite high))

/-- The same sensors work in both statuses, and the first is nowhere hotter. -/
structure Cooler (first second : BackendStatus) : Prop where
  sensorOk : first.sensorOk = second.sensorOk
  cpuC : ReadingLe first.temperatures.cpuC second.temperatures.cpuC
  maxDriveC : ReadingLe first.temperatures.maxDriveC second.temperatures.maxDriveC

/-- The second override asks for as much and for as long, if there is a first. -/
def Covers (second first : Option Override) : Prop :=
  ∀ stored, first = some stored → ∃ other, second = some other ∧
    stored.dutyPercent.val ≤ other.dutyPercent.val ∧ stored.expiry ≤ other.expiry

namespace ReadingLe

/-- What makes the lower reading hot makes the higher one hot. -/
theorem hot_mono {first second : Option PyFloat} (h : ReadingLe first second) {threshold : ℤ}
    (hhot : isHot first threshold = true) : isHot second threshold = true := by
  cases h with
  | absent => exact hhot
  | @finite low high le =>
      have hlow : (threshold : ℚ) < low.value := of_decide_eq_true hhot
      exact decide_eq_true (hlow.trans_le le)

/-- A bound the higher reading keeps to the lower one keeps to. -/
theorem atMost_mono {first second : PyFloat} (h : ReadingLe (some first) (some second)) {bound : ℤ}
    (hcool : atMost second bound = true) : atMost first bound = true := by
  cases h with
  | @finite low high le =>
      have hhigh : high.value ≤ bound := of_decide_eq_true hcool
      exact decide_eq_true (le_trans le hhigh)

end ReadingLe

/-- The bands a cooler and a hotter status with the same sensors can be in. -/
inductive Band.Cooler : Band → Band → Prop
  | same (band) : Cooler band band
  | hot (band) : Cooler band .hot
  | warm : Cooler .recovered .warm

theorem Cooler.hot_mono {first second : BackendStatus} (h : Cooler first second)
    (hhot : first.Hot) : second.Hot := by
  rw [BackendStatus.Hot, Bool.or_eq_true] at hhot ⊢
  exact hhot.imp h.cpuC.hot_mono h.maxDriveC.hot_mono

theorem Cooler.band {first second : BackendStatus} (h : Cooler first second) :
    first.band.Cooler second.band := by
  by_cases hhot : second.Hot
  · rw [BackendStatus.band_of_hot hhot]
    exact .hot _
  have hhot' : ¬ first.Hot := fun hfirst => hhot (h.hot_mono hfirst)
  have hcpu := h.cpuC
  have hdrive := h.maxDriveC
  rw [BackendStatus.band, BackendStatus.band, if_neg hhot, if_neg hhot', h.sensorOk]
  generalize first.temperatures.cpuC = cpu, second.temperatures.cpuC = cpu' at hcpu ⊢
  generalize first.temperatures.maxDriveC = drive, second.temperatures.maxDriveC = drive'
    at hdrive ⊢
  cases second.sensorOk with
  | false => exact .same .failed
  | true =>
      cases hcpu with
      | absent => exact .same .failed
      | finite hcpu =>
          cases hdrive with
          | absent => exact .same .failed
          | finite hdrive =>
              dsimp only
              split
              next =>
                split
                · exact .same .recovered
                · exact .warm
              next hwarm =>
                rw [if_neg]
                · exact .same .warm
                · intro hcool
                  rw [Bool.and_eq_true] at hcool hwarm
                  exact hwarm (hcool.imp (ReadingLe.finite hdrive).atMost_mono
                    (ReadingLe.finite hcpu).atMost_mono)

namespace Band

/-- In the cooling band the table asks for the larger of half duty and what it would ask
for otherwise. -/
theorem duty_warm_latched (known : Option ℤ) (override : Option Override) :
    Band.warm.duty true known (override.map fun override => override.dutyPercent.val) =
      max 50 ((override.map fun override => override.dutyPercent.val).getD 22) := by
  cases override with
  | none => rfl
  | some override =>
      have hne : override.dutyPercent.val ≠ 0 := by
        have := override.dutyPercent.property.1
        omega
      show max 50 (SafetyPolicy.orFifty (some override.dutyPercent.val)) =
        max 50 override.dutyPercent.val
      rw [SafetyPolicy.orFifty, if_neg hne]

theorem nextLatch_mono {first second : Band} (h : first.Cooler second) {low high : Bool}
    (hlatch : low = true → high = true) :
    first.nextLatch low = true → second.nextLatch high = true := by
  cases h with
  | same =>
      cases first with
      | hot => exact id
      | failed => exact hlatch
      | recovered => exact id
      | warm => exact hlatch
  | hot => exact fun _ => rfl
  | warm => exact nofun

end Band

namespace Covers

theorem refl (override : Option Override) : Covers override override :=
  fun stored h => ⟨stored, h, le_rfl, le_rfl⟩

theorem getD_le {first second : Option Override} (h : Covers second first) :
    (first.map fun override => override.dutyPercent.val).getD 22 ≤
      (second.map fun override => override.dutyPercent.val).getD 22 := by
  cases first with
  | none =>
      cases second with
      | none => exact le_rfl
      | some other => exact other.dutyPercent.property.1
  | some stored =>
      obtain ⟨other, rfl, hduty, -⟩ := h stored rfl
      exact hduty

/-- What covers an override still covers it once both are looked at the same time. -/
theorem liveOverride {first second : ControlState} (h : Covers second.override first.override)
    (now : Clock) : Covers (second.liveOverride now) (first.liveOverride now) := by
  intro stored hlive
  obtain ⟨hstored, hnow⟩ := Option.filter_eq_some_iff.mp hlive
  obtain ⟨other, hother, hduty, hexpiry⟩ := h stored hstored
  refine ⟨other, ?_, hduty, hexpiry⟩
  exact Option.filter_eq_some_iff.mpr
    ⟨hother, decide_eq_true ((of_decide_eq_true hnow).trans_le hexpiry)⟩

end Covers

/-- A hotter band, a later latch, a higher known duty and a covering override make the
table ask for no less. -/
theorem Band.duty_mono {first second : Band} (h : first.Cooler second) {latch latch' : Bool}
    (hlatch : latch = true → latch' = true) {low high : ℤ} (hmin : 22 ≤ low) (hduty : low ≤ high)
    (hmax : high ≤ 100) {override other : Option Override} (hcovers : Covers other override) :
    first.duty latch (some low) (override.map fun override => override.dutyPercent.val) ≤
      second.duty latch' (some high) (other.map fun override => override.dutyPercent.val) := by
  have hasked := hcovers.getD_le
  have hwarm : (override.map fun override => override.dutyPercent.val).getD 22 ≤
      Band.warm.duty latch' (some high) (other.map fun override => override.dutyPercent.val) := by
    cases latch' with
    | false => exact hasked
    | true =>
        rw [duty_warm_latched]
        exact hasked.trans (le_max_right _ _)
  cases h with
  | hot => exact (duty_mem_range_of_known first latch hmin (hduty.trans hmax) override).2
  | warm => exact hwarm
  | same =>
      cases first with
      | hot => exact le_rfl
      | recovered => exact hasked
      | failed =>
          cases override with
          | none => exact hduty.trans (known_le_duty_failed latch' (some high) _)
          | some stored =>
              obtain ⟨other, rfl, hle, -⟩ := hcovers stored rfl
              exact max_le_max hduty hle
      | warm =>
          cases latch with
          | false => exact hwarm
          | true =>
              rw [hlatch rfl, duty_warm_latched, duty_warm_latched]
              exact max_le_max le_rfl hasked

/-! ## The loop -/

/-- The backend is faithful, and reads and commands go through. -/
structure Obedient {Hardware : Type} (backend : FanBackend Hardware)
    (held : Hardware → FanState) : Prop extends Faithful backend held where
  reads : ∀ hardware, ∃ status after, backend.status hardware = .ok status after
  obeys : ∀ percent hardware, ∃ readback after,
    backend.setDutyPercent percent hardware = .ok readback after

namespace ControlService

variable {Hardware : Type} {backend : FanBackend Hardware} {held : Hardware → FanState}

/-- Both machines are in manual mode at a duty in range; the second has at least the duty,
the latch and the override of the first. -/
structure Below (held : Hardware → FanState)
    (services : ControlService Hardware × ControlService Hardware) : Prop where
  duty : ∃ low high, held services.1.hardware = ⟨.manual, some low⟩ ∧
    held services.2.hardware = ⟨.manual, some high⟩ ∧ 22 ≤ low ∧ low ≤ high ∧ high ≤ 100
  latch : services.1.policy.state.previousHot = true → services.2.policy.state.previousHot = true
  override : Covers services.2.policy.state.override services.1.policy.state.override

/-- Both machines tick at the same time, or something changes that they do not hold. -/
inductive Paired (held : Hardware → FanState) :
    ServiceEvent Hardware × ServiceEvent Hardware → Prop
  | ticks (clock) : Paired held (.tick clock, .tick clock)
  | changes {change change' : Hardware → Hardware}
      (steady : ∀ hardware, held (change hardware) = held hardware)
      (steady' : ∀ hardware, held (change' hardware) = held hardware) :
      Paired held (.disturb change, .disturb change')

/-- At a tick the first machine reads the cooler status. -/
def ReadsCooler (backend : FanBackend Hardware)
    (services : ControlService Hardware × ControlService Hardware)
    (event : ServiceEvent Hardware) : Prop :=
  ∀ clock first second, event = .tick clock → readStatus backend services.1 = some first →
    readStatus backend services.2 = some second → Cooler first second

/-- The state-file writes of a tick succeed. -/
def TickWrites (backend : FanBackend Hardware) (service : ControlService Hardware)
    (event : ServiceEvent Hardware) : Prop :=
  ∀ clock before, event = .tick clock → readStatus backend service = some before →
    service.policy.EvaluationWrites clock before

/-- Where its state-file writes succeed, a tick over an obedient backend at a duty in range
leaves the hardware at the row of the table. -/
theorem step_tick_of_obedient (obedient : Obedient backend held)
    {service : ControlService Hardware} {before : BackendStatus} {clock : Clock} {known : ℤ}
    (hheld : held service.hardware = ⟨.manual, some known⟩) (hmin : 22 ≤ known)
    (hmax : known ≤ 100) (hread : readStatus backend service = some before)
    (writes : service.policy.EvaluationWrites clock before) :
    held (step backend service (.tick clock)).2.hardware = ⟨.manual, some
        (before.band.duty service.policy.state.previousHot (some known)
          ((service.policy.state.liveOverride clock).map fun override =>
            override.dutyPercent.val))⟩ ∧
      (step backend service (.tick clock)).2.policy.state =
        service.policy.state.evaluated clock before := by
  obtain ⟨hardware, hstatus⟩ := returned_eq_some_iff.mp hread
  have hreturns := SafetyPolicy.evaluate_returns_iff clock before none none service.policy
  obtain ⟨decision, policy, hevaluate⟩ := hreturns.mpr writes
  have hticked : ∃ payload after, tick backend clock service = .ok payload after := by
    have hrefresh := refresh_of_evaluate_ok hstatus hevaluate
    split at hrefresh
    · exact ⟨_, _, tick_eq_ok_iff.mpr hrefresh⟩
    · obtain ⟨readback, commanded, hset⟩ := obedient.obeys decision.effectiveDuty hardware
      rw [hset] at hrefresh
      exact ⟨_, _, tick_eq_ok_iff.mpr hrefresh⟩
  obtain ⟨payload, after, htick⟩ := hticked
  obtain ⟨before', read, stored, hbefore, hstate, hstores, hstored⟩ :=
    held_of_tick obedient.toFaithful htick
  rw [hstatus] at hbefore
  cases hbefore
  have hknown := (obedient.reported hstatus).2
  rw [hheld] at hknown
  rw [hknown] at hstores
  obtain ⟨hlow, hhigh⟩ := Band.duty_mem_range_of_known before.band
    service.policy.state.previousHot hmin hmax (service.policy.state.liveOverride clock)
  show held (outcome _ _).2.hardware = _ ∧ (outcome _ _).2.policy.state = _
  rw [outcome_snd, htick, resultState_ok, hstored, hstores.eq_of_mem hlow hhigh]
  exact ⟨rfl, hstate⟩

/-- A paired step on a cooler and a hotter machine leaves the first below the second. -/
theorem below_of_step (obedient : Obedient backend held)
    {services : ControlService Hardware × ControlService Hardware}
    {events : ServiceEvent Hardware × ServiceEvent Hardware} (paired : Paired held events)
    (hotter : ReadsCooler backend services events.1)
    (writes : TickWrites backend services.1 events.1 ∧ TickWrites backend services.2 events.2)
    (below : Below held services) :
    Below held (sideBySide (step backend) (step backend) services events).2 := by
  obtain ⟨low, high, hlow, hhigh, hmin, hle, hmax⟩ := below.duty
  cases paired with
  | changes steady steady' =>
      exact ⟨⟨low, high, (steady _).trans hlow, (steady' _).trans hhigh, hmin, hle, hmax⟩,
        below.latch, below.override⟩
  | ticks clock =>
      obtain ⟨first, hardware, hfirst⟩ := obedient.reads services.1.hardware
      obtain ⟨second, hardware', hsecond⟩ := obedient.reads services.2.hardware
      have hread : readStatus backend services.1 = some first := by rw [readStatus, hfirst]; rfl
      have hread' : readStatus backend services.2 = some second := by rw [readStatus, hsecond]; rfl
      have hband := (hotter clock first second rfl hread hread').band
      have hlive := below.override.liveOverride clock
      obtain ⟨hheld, hstate⟩ := step_tick_of_obedient obedient hlow hmin (hle.trans hmax) hread
        (writes.1 clock first rfl hread)
      obtain ⟨hheld', hstate'⟩ := step_tick_of_obedient obedient hhigh (hmin.trans hle) hmax hread'
        (writes.2 clock second rfl hread')
      refine ⟨⟨_, _, hheld, hheld', ?_, ?_, ?_⟩, ?_, ?_⟩
      · exact (Band.duty_mem_range_of_known _ _ hmin (hle.trans hmax) _).1
      · exact Band.duty_mono hband below.latch hmin hle hmax hlive
      · exact (Band.duty_mem_range_of_known _ _ (hmin.trans hle) hmax _).2
      · show (step backend services.1 (.tick clock)).2.policy.state.previousHot = true →
          (step backend services.2 (.tick clock)).2.policy.state.previousHot = true
        rw [hstate, hstate']
        exact Band.nextLatch_mono hband below.latch
      · show Covers (step backend services.2 (.tick clock)).2.policy.state.override
          (step backend services.1 (.tick clock)).2.policy.state.override
        rw [hstate, hstate']
        exact hlive

/-- Two machines on one clock, the first below the second at the start and the cooler one
at every tick: while the state-file writes of the ticks succeed, the fans of the second run
at least as fast as those of the first. -/
theorem duty_le_of_hotter (obedient : Obedient backend held)
    {first second : ControlService Hardware}
    {events : List (ServiceEvent Hardware × ServiceEvent Hardware)}
    (start : Below held (first, second)) (paired : ∀ pair ∈ events, Paired held pair)
    (hotter : ∀ record ∈ records (sideBySide (step backend) (step backend)) (first, second) events,
      ReadsCooler backend record.before record.event.1)
    (writes : ∀ record ∈ records (sideBySide (step backend) (step backend)) (first, second) events,
      TickWrites backend record.before.1 record.event.1 ∧
        TickWrites backend record.before.2 record.event.2) :
    ∃ low high,
      (held (finalState (step backend) first (events.map Prod.fst)).hardware).dutyPercent =
        some low ∧
      (held (finalState (step backend) second (events.map Prod.snd)).hardware).dutyPercent =
        some high ∧
      low ≤ high := by
  have hbelow : Below held
      (finalState (sideBySide (step backend) (step backend)) (first, second) events) := by
    apply finalState_invariant_of_preserved _ start
    intro record hmem hbefore
    have hstep := below_of_step obedient (paired record.event (event_mem_of_mem_records _ hmem))
      (hotter record hmem) (writes record hmem) hbefore
    rwa [step_of_mem_records _ hmem] at hstep
  obtain ⟨low, high, hlow, hhigh, -, hle, -⟩ := hbelow.duty
  rw [finalState_sideBySide_fst] at hlow
  rw [finalState_sideBySide_snd] at hhigh
  exact ⟨low, high, congrArg FanState.dutyPercent hlow, congrArg FanState.dutyPercent hhigh, hle⟩

/-- A backend that stores its status as it is told and never fails. -/
def obedientBackend : FanBackend BackendStatus where
  status := get
  setDutyPercent percent := do
    modify fun current => { current with
      mode := .manual
      dutyPercent := some percent
      pwm := some (percentToPwm percent) }
    get
  setAuto := throw (.runtimeError "not used")

def statusHeld (current : BackendStatus) : FanState := ⟨current.mode, current.dutyPercent⟩

theorem obedient_obedientBackend : Obedient obedientBackend statusHeld where
  reading _ := rfl
  reported := by
    intro current after status h
    cases h
    exact ⟨rfl, rfl⟩
  commanded := by
    intro percent current after readback h
    cases h
    exact ⟨percent, rfl, .inl rfl⟩
  failed := by
    intro percent current after error h
    cases h
  reads current := ⟨current, current, rfl⟩
  obeys percent current := ⟨_, _, rfl⟩

/-- The readings of a machine change. -/
def warmed (cpu drive : Option PyFloat) (current : BackendStatus) : BackendStatus :=
  { current with temperatures := { emptyTemperatures with cpuC := cpu, maxDriveC := drive } }

/-- A machine at 22% with the given processor temperature. -/
def machine (cpu : Option PyFloat) (policy : SafetyPolicy) : ControlService BackendStatus :=
  init (readingStatus cpu (degrees 30) (some 22)) policy

theorem below_machine (cpu cpu' : Option PyFloat) (policy : SafetyPolicy) :
    Below statusHeld (machine cpu policy, machine cpu' policy) where
  duty := ⟨22, 22, rfl, rfl, le_rfl, le_rfl, by decide⟩
  latch := id
  override := Covers.refl _

/-- One machine stays cool, the other is hot once and then in the cooling band. -/
theorem duty_le_after_incident :
    ∃ low high,
      (statusHeld (finalState (step obedientBackend)
        (machine (degrees 40) (SafetyPolicy.fresh fun _ => .stored))
        [.tick (.ofInt 100), .disturb (warmed (degrees 41) (degrees 30)),
          .tick (.ofInt 105)]).hardware).dutyPercent = some low ∧
      (statusHeld (finalState (step obedientBackend)
        (machine (degrees 90) (SafetyPolicy.fresh fun _ => .stored))
        [.tick (.ofInt 100), .disturb (warmed (degrees 65) (degrees 30)),
          .tick (.ofInt 105)]).hardware).dutyPercent = some high ∧
      low ≤ high := by
  have paired : ∀ pair ∈ [((.tick (.ofInt 100), .tick (.ofInt 100)) :
        ServiceEvent BackendStatus × ServiceEvent BackendStatus),
      (.disturb (warmed (degrees 41) (degrees 30)), .disturb (warmed (degrees 65) (degrees 30))),
      (.tick (.ofInt 105), .tick (.ofInt 105))], Paired statusHeld pair := by
    simp only [List.forall_mem_cons]
    exact ⟨.ticks _, .changes (fun _ => rfl) fun _ => rfl, .ticks _, List.forall_mem_nil _⟩
  apply duty_le_of_hotter obedient_obedientBackend (below_machine _ _ _) paired
  · simp only [records_cons, List.forall_mem_cons]
    refine ⟨?_, ?_, ?_, List.forall_mem_nil _⟩
    · intro clock first second _ hfirst hsecond
      cases hfirst
      cases hsecond
      exact ⟨rfl, .finite (by decide), .finite (by decide)⟩
    · intro clock first second htick
      cases htick
    · intro clock first second _ hfirst hsecond
      cases hfirst
      cases hsecond
      exact ⟨rfl, .finite (by decide), .finite (by decide)⟩
  · simp only [records_cons, List.forall_mem_cons]
    have writes (service : ControlService BackendStatus) (event : ServiceEvent BackendStatus)
        (hstored : service.policy.WritesSucceed) : TickWrites obedientBackend service event :=
      fun clock before _ _ => ⟨fun _ => hstored _, fun _ => hstored _⟩
    refine ⟨⟨?_, ?_⟩, ⟨?_, ?_⟩, ⟨?_, ?_⟩, List.forall_mem_nil _⟩
    all_goals exact writes _ _ fun _ => rfl

/-- Both machines are at 22% with an override of half duty stored, and no state-file write
succeeds: the cool one goes to half duty and the hot one stays. -/
theorem not_duty_le_of_failed_write :
    ¬ ∀ (Hardware : Type) (backend : FanBackend Hardware) (held : Hardware → FanState)
        (first second : ControlService Hardware)
        (events : List (ServiceEvent Hardware × ServiceEvent Hardware)),
      Obedient backend held → Below held (first, second) → (∀ pair ∈ events, Paired held pair) →
      (∀ record ∈ records (sideBySide (step backend) (step backend)) (first, second) events,
        ReadsCooler backend record.before record.event.1) →
      ∃ low high,
        (held (finalState (step backend) first (events.map Prod.fst)).hardware).dutyPercent =
          some low ∧
        (held (finalState (step backend) second (events.map Prod.snd)).hardware).dutyPercent =
          some high ∧
        low ≤ high := by
  intro hall
  have paired : ∀ pair ∈ [((.tick (.ofInt 100), .tick (.ofInt 100)) :
      ServiceEvent BackendStatus × ServiceEvent BackendStatus)], Paired statusHeld pair :=
    List.forall_mem_singleton.mpr (.ticks _)
  apply absurd (hall BackendStatus obedientBackend statusHeld
    (machine (degrees 40)
      ⟨⟨false, some ⟨⟨50, by decide⟩, .float (.ofInt 400)⟩⟩, .fresh fun _ => .raised⟩)
    (machine (degrees 90)
      ⟨⟨false, some ⟨⟨50, by decide⟩, .float (.ofInt 400)⟩⟩, .fresh fun _ => .raised⟩)
    [(.tick (.ofInt 100), .tick (.ofInt 100))] obedient_obedientBackend (below_machine _ _ _)
    paired ?_)
  · rintro ⟨low, high, hlow, hhigh, hle⟩
    have hfifty : some 50 = some low := hlow
    have hstill : some 22 = some high := hhigh
    cases hfifty
    cases hstill
    exact absurd hle (by decide)
  · rw [records_cons, records_nil, List.forall_mem_singleton]
    intro clock first second _ hfirst hsecond
    cases hfirst
    cases hsecond
    exact ⟨rfl, .finite (by decide), .finite (by decide)⟩

end ControlService

end TrueFan
