/-
# What the page shows of the agent

A snapshot of the agent goes through the core and the web framework, which sorts the names of
what it sends, and is drawn. Drawing it never throws, and the page then shows the snapshot: its
state and duty, and its temperatures in the colours of the bounds it brings, so that a card is
hot exactly if the policy itself takes the reading for hot. The controls are unlocked exactly
if the policy does not lock them.
-/

import TrueFan.Core.Status
import TrueFan.Page.Actions
import TrueFan.Python.SortedJson
import TrueFan.Service.Snapshots

namespace TrueFan

open Python Foundations

namespace Python.Json

theorem lookup_sortByKey_sortMembers (members : List (String × Json)) (name : String) :
    (sortByKey (sortMembers members)).lookup name = (members.lookup name).map sortKeys := by
  rw [lookup_sortByKey]
  induction members with
  | nil => rfl
  | cons entry rest ih =>
      obtain ⟨other, value⟩ := entry
      rw [sortMembers, List.lookup_cons, List.lookup_cons]
      cases name == other with
      | true => rfl
      | false => exact ih

@[simp]
theorem membersOf_sortKeys_object (members : List (String × Json)) :
    (object members).sortKeys.membersOf = sortByKey (sortMembers members) := by
  rw [sortKeys_object]
  rfl

/-- A member of a sorted value is the sorted member. -/
@[simp]
theorem get_membersOf_sortKeys (value : Json) (name : String) :
    get value.sortKeys.membersOf name = (get value.membersOf name).sortKeys := by
  cases value with
  | object members =>
      rw [membersOf_sortKeys_object]
      exact get_sortByKey_sortMembers members name
  | array items => rw [sortKeys]; rfl
  | _ => rfl

theorem sortItems_eq_map (items : List Json) : sortItems items = items.map sortKeys := by
  induction items with
  | nil => rw [sortItems, List.map_nil]
  | cons item rest ih => rw [sortItems, ih, List.map_cons]

@[simp]
theorem holds_sortKeys (value : Json) : value.sortKeys.holds = value.holds := by
  cases value with
  | array items => rw [sortKeys]; rfl
  | object members => rw [sortKeys_object]; rfl
  | _ => rfl

@[simp]
theorem isTrue_sortKeys (value : Json) : value.sortKeys.isTrue = value.isTrue := by
  cases value with
  | array items => rw [sortKeys]; rfl
  | object members => rw [sortKeys_object]; rfl
  | _ => rfl

end Python.Json

/-- If no step throws, the steps together do not, and each result is as its step left it. -/
theorem exists_mapM_ok {ε α β : Type} (f : α → Except ε β) (property : α → β → Prop)
    (items : List α) (h : ∀ item ∈ items, ∃ result, f item = .ok result ∧ property item result) :
    ∃ results, items.mapM f = .ok results ∧ items.Forall₂ property results := by
  induction items with
  | nil => exact ⟨[], rfl, .nil⟩
  | cons item rest ih =>
      obtain ⟨result, hresult, hproperty⟩ := h item List.mem_cons_self
      obtain ⟨results, hresults, hproperties⟩ :=
        ih fun other hother => h other (List.mem_cons_of_mem _ hother)
      refine ⟨result :: results, ?_, .cons hproperty hproperties⟩
      rw [List.mapM_cons, bind_except_of_ok hresult, bind_except_of_ok hresults]
      rfl

namespace Dashboard

variable {conversions : Conversions}

/-- The colour of a number between the bounds. -/
def colour (warm hot : ℤ) (x : FiniteFloat) : Tier :=
  if (hot : ℚ) < x.value then .hot else if (warm : ℚ) ≤ x.value then .warm else .cool

/-- The card shows the reading in its colour, and nothing if there is none. -/
def Coloured (warm hot : ℤ) (reading : Option PyFloat) (card : Card) : Prop :=
  match reading with
  | some (.finite x) => card = some (x, colour warm hot x)
  | _ => card = none

theorem colour_eq_hot_iff {warm hot : ℤ} {x : FiniteFloat} :
    colour warm hot x = .hot ↔ (hot : ℚ) < x.value := by
  rw [colour]
  split
  next hhot => simp [hhot]
  next hnot => split <;> simp [hnot]

/-- A card is hot exactly if the policy takes the reading for hot. -/
theorem Coloured.hot_iff {warm hot : ℤ} {reading : Option PyFloat} {card : Card}
    (h : Coloured warm hot reading card) :
    (∃ x, card = some (x, .hot)) ↔ isHot reading hot = true := by
  cases reading with
  | none =>
      have hcard : card = none := h
      simp [hcard, isHot]
  | some value =>
      cases value with
      | finite x =>
          have hcard : card = some (x, colour warm hot x) := h
          simp [hcard, isHot, colour_eq_hot_iff]
      | _ =>
          have hcard : card = none := h
          simp [hcard, isHot]

/-- The bounds of a sensor, as the agent sends them. -/
def boundsOf (warm hot : ℤ) : Json := .object [("warm", .int warm), ("hot", .int hot)]

theorem memberNumber_sorted (keeps : conversions.Keeps) {members : List (String × Json)}
    {name : String} {n : ℤ} (small : FiniteFloat.Small n)
    (h : members.lookup name = some (.int n)) :
    conversions.memberNumber (Json.object members).sortKeys.membersOf name =
      .ok (.finite (.ofInt n small)) := by
  rw [Json.membersOf_sortKeys_object, Conversions.memberNumber, Json.lookup_sortByKey_sortMembers,
    h]
  exact congrArg Except.ok (keeps.int n small)

theorem lt_finite_iff {first second : FiniteFloat} :
    PyFloat.lt (.finite first) (.finite second) = true ↔ first.value < second.value :=
  decide_eq_true_iff

theorem le_finite_iff {first second : FiniteFloat} :
    PyFloat.le (.finite first) (.finite second) = true ↔ first.value ≤ second.value := by
  show (!decide (second.value < first.value)) = true ↔ _
  rw [Bool.not_eq_true', decide_eq_false_iff_not, not_lt]

/-- Between the bounds the agent sends there is a colour for every number. -/
theorem tier_sorted (keeps : conversions.Keeps) {bounds : Json} {key : String} {warm hot : ℤ}
    (hwarm : FiniteFloat.Small warm) (hhot : FiniteFloat.Small hot)
    (hbounds : Json.get bounds.membersOf key = (boundsOf warm hot).sortKeys) (value : PyFloat) :
    ∃ shade, tier conversions bounds key value = .ok shade ∧
      ∀ x, value = .finite x → shade = colour warm hot x := by
  have hother (other : Json) : (boundsOf warm hot).sortKeys.orOther other =
      (boundsOf warm hot).sortKeys := by
    rw [Json.orOther, Json.holds_sortKeys]
    rfl
  have hlookup : [("warm", Json.int warm), ("hot", .int hot)].lookup "warm" = some (.int warm) :=
    rfl
  have hlookup' : [("warm", Json.int warm), ("hot", .int hot)].lookup "hot" = some (.int hot) :=
    rfl
  have hlow := memberNumber_sorted keeps hwarm hlookup
  have hhigh := memberNumber_sorted keeps hhot hlookup'
  rw [tier, hbounds, hother, boundsOf, bind_except_of_ok hhigh]
  split
  next habove =>
    refine ⟨.hot, rfl, ?_⟩
    rintro x rfl
    exact (if_pos (lt_finite_iff.mp habove)).symm
  next hnot =>
    rw [bind_except_of_ok hlow]
    split
    next hwarmer =>
      refine ⟨.warm, rfl, ?_⟩
      rintro x rfl
      rw [lt_finite_iff, FiniteFloat.ofInt_value] at hnot
      rw [le_finite_iff, FiniteFloat.ofInt_value] at hwarmer
      rw [colour, if_neg hnot]
      exact (if_pos hwarmer).symm
    next hcooler =>
      refine ⟨.cool, rfl, ?_⟩
      rintro x rfl
      rw [lt_finite_iff, FiniteFloat.ofInt_value] at hnot
      rw [le_finite_iff, FiniteFloat.ofInt_value] at hcooler
      rw [colour, if_neg hnot]
      exact (if_neg hcooler).symm

theorem finiteNumber_float (keeps : conversions.Keeps) (x : FiniteFloat) :
    conversions.finiteNumber (.float (.finite x)) = .ok (some x) :=
  congrArg (fun number => Except.ok (Conversions.finitePart number)) (keeps.float (.finite x))

/-- A finite reading is put on its card. -/
theorem temperature_reading (keeps : conversions.Keeps) {bounds : Json} {key : String}
    {warm hot : ℤ} (hwarm : FiniteFloat.Small warm) (hhot : FiniteFloat.Small hot)
    (hbounds : Json.get bounds.membersOf key = (boundsOf warm hot).sortKeys)
    {reading : Option PyFloat} (finite : FiniteReading reading) :
    ∃ card, temperature conversions bounds key (jsonOfReading reading) = .ok card ∧
      Coloured warm hot reading card := by
  cases reading with
  | none => exact ⟨none, rfl, rfl⟩
  | some value =>
      obtain ⟨x, rfl⟩ := finite value rfl
      obtain ⟨shade, htier, hshade⟩ := tier_sorted keeps hwarm hhot hbounds (.finite x)
      refine ⟨some (x, shade), ?_, ?_⟩
      · have hnumber : conversions.finiteNumber (jsonOfReading (some (.finite x))) = .ok (some x) :=
          finiteNumber_float keeps x
        rw [temperature, bind_except_of_ok hnumber]
        dsimp only
        rw [bind_except_of_ok htier]
        rfl
      · rw [Coloured, hshade x rfl]

/-- The row shows the drive: its name if it has one, its temperature, and the colour of that. -/
def RowShows (drive : String × Json) (row : DriveRow) : Prop :=
  row.name = (Json.str drive.1).orOther (.str "unknown") ∧
    ∃ x, drive.2 = .float (.finite x) ∧ row.value = .finite x ∧ row.tier = colour 46 50 x

theorem converts_orOther_str (text other : String) :
    ((Json.str text).orOther (.str other)).converts = true := by
  rw [Json.orOther]
  split <;> rfl

theorem toText_orOther_str (text other : String) :
    conversions.toText ((Json.str text).orOther (.str other)) =
      .ok (conversions.text ((Json.str text).orOther (.str other))) :=
  if_pos (converts_orOther_str text other)

section Drives

variable {drive : String × Json} {x : FiniteFloat}

theorem driveMembers_driveEntry (drive : String × Json) :
    driveMembers (Core.driveEntry drive).sortKeys =
      .ok (Core.driveEntry drive).sortKeys.membersOf := by
  rw [Core.driveEntry, Json.sortKeys_object]
  rfl

theorem get_name_driveEntry (drive : String × Json) :
    Json.get (Core.driveEntry drive).sortKeys.membersOf "name" = .str drive.1 := by
  rw [Json.get_membersOf_sortKeys]
  rfl

theorem driveNumber_driveEntry (keeps : conversions.Keeps) (h : drive.2 = .float (.finite x)) :
    driveNumber conversions (Core.driveEntry drive).sortKeys = .ok (.finite x) := by
  have hlookup : ([("name", Json.str drive.1), ("temperature_c", drive.2)] :
      List (String × Json)).lookup "temperature_c" = some drive.2 := rfl
  rw [driveNumber, bind_except_of_ok (driveMembers_driveEntry drive), Core.driveEntry,
    Json.membersOf_sortKeys_object, Conversions.memberNumber,
    Json.lookup_sortByKey_sortMembers, hlookup, h]
  exact congrArg Except.ok (keeps.float (.finite x))

theorem exists_isNvme (conversions : Conversions) (drive : String × Json) :
    ∃ nvme, isNvme conversions (Core.driveEntry drive).sortKeys = .ok nvme := by
  rw [isNvme, bind_except_of_ok (driveMembers_driveEntry drive), get_name_driveEntry,
    bind_except_of_ok (toText_orOther_str drive.1 "")]
  exact ⟨_, rfl⟩

/-- A row is drawn of every drive with a temperature. -/
theorem driveRow_driveEntry (keeps : conversions.Keeps) {bounds : Json}
    (hbounds : Json.get bounds.membersOf "max_drive_c" = (boundsOf 46 50).sortKeys)
    (h : drive.2 = .float (.finite x)) :
    ∃ row, driveRow conversions bounds (Core.driveEntry drive).sortKeys = .ok row ∧
      RowShows drive row := by
  obtain ⟨shade, htier, hshade⟩ :=
    tier_sorted keeps (by decide) (by decide) hbounds (.finite x)
  rw [driveRow, bind_except_of_ok (driveNumber_driveEntry keeps h),
    bind_except_of_ok (driveMembers_driveEntry drive), get_name_driveEntry,
    bind_except_of_ok (toText_orOther_str drive.1 "unknown"), bind_except_of_ok htier]
  exact ⟨_, rfl, rfl, x, h, rfl, hshade x rfl⟩

/-- The drives have a mean, or none of them spins. -/
theorem exists_averageDrive (keeps : conversions.Keeps) {drives : List (String × Json)}
    (h : ∀ drive ∈ drives, ∃ x, drive.2 = .float (.finite x)) :
    ∃ mean, averageDrive conversions
      (drives.map fun drive => (Core.driveEntry drive).sortKeys) = .ok mean := by
  obtain ⟨named, hnamed, hpairs⟩ := exists_mapM_ok
    (fun drive => do return (drive, ← isNvme conversions drive))
    (fun drive pair => drive = Prod.fst pair)
    (drives.map fun drive => (Core.driveEntry drive).sortKeys) (by
      simp only [List.forall_mem_map]
      intro drive _
      obtain ⟨nvme, hnvme⟩ := exists_isNvme conversions drive
      rw [bind_except_of_ok hnvme]
      exact ⟨_, rfl, rfl⟩)
  have hentries : (drives.map fun drive => (Core.driveEntry drive).sortKeys) =
      named.map Prod.fst := by
    rw [← List.forall₂_eq_eq_eq, List.forall₂_map_right_iff]
    exact hpairs
  obtain ⟨numbers, hnumbers, -⟩ := exists_mapM_ok (driveNumber conversions) (fun _ _ => True)
    ((named.filter fun drive => !drive.2).map Prod.fst) (by
      intro entry hentry
      have hmem : entry ∈ named.map Prod.fst :=
        (List.filter_sublist.map Prod.fst).subset hentry
      rw [← hentries] at hmem
      obtain ⟨drive, hdrive, rfl⟩ := List.mem_map.mp hmem
      obtain ⟨x, hx⟩ := h drive hdrive
      exact ⟨_, driveNumber_driveEntry keeps hx, trivial⟩)
  rw [averageDrive, bind_except_of_ok hnamed, bind_except_of_ok hnumbers]
  dsimp only
  split
  · exact ⟨_, rfl⟩
  · exact ⟨_, rfl⟩

end Drives

/-- The mean has a card. -/
theorem exists_averageCard (keeps : conversions.Keeps) {bounds : Json}
    (hbounds : Json.get bounds.membersOf "max_drive_c" = (boundsOf 46 50).sortKeys)
    (mean : Option PyFloat) : ∃ card, averageCard conversions bounds mean = .ok card := by
  cases mean with
  | none => exact ⟨none, rfl⟩
  | some value =>
      cases value with
      | finite x =>
          obtain ⟨shade, htier, -⟩ := tier_sorted keeps (by decide) (by decide) hbounds (.finite x)
          refine ⟨some (x, shade), ?_⟩
          rw [averageCard, bind_except_of_ok htier]
          rfl
      | _ => exact ⟨none, rfl⟩

/-! ## A snapshot on the page -/

theorem finiteNumber_jsonOfInt (keeps : conversions.Keeps) (duty : Option ℤ) :
    ∃ number, conversions.finiteNumber (jsonOfInt duty) = .ok number ∧
      (∀ n (small : FiniteFloat.Small n), duty = some n → number = some (.ofInt n small)) ∧
      (duty = none → number = none) := by
  cases duty with
  | none => exact ⟨none, rfl, (fun _ _ h => nomatch h), fun _ => rfl⟩
  | some n =>
      refine ⟨_, rfl, fun m small h => ?_, fun h => nomatch h⟩
      cases h
      exact congrArg Conversions.finitePart (keeps.int n small)

theorem sortKeys_jsonOfInt (value : Option ℤ) : (jsonOfInt value).sortKeys = jsonOfInt value := by
  cases value <;> rfl

theorem sortKeys_jsonOfReading (reading : Option PyFloat) :
    (jsonOfReading reading).sortKeys = jsonOfReading reading := by
  cases reading <;> rfl

/-- Thresholds with a sensor in them are taken over. -/
theorem adopt_of_get {before : Json} {data members : List (String × Json)} (name : String)
    (h : Json.get data "thresholds" = (Json.object members).sortKeys)
    (hname : (Json.get members name).isNull = false) :
    adopt before data = (Json.object members).sortKeys := by
  have hget := Json.get_sortByKey_sortMembers members name
  rw [Json.sortKeys_object] at h ⊢
  cases hsorted : sortByKey (Json.sortMembers members) with
  | nil =>
      rw [hsorted] at hget
      cases hvalue : Json.get members name with
      | null =>
          rw [hvalue] at hname
          cases hname
      | array items =>
          rw [hvalue, Json.sortKeys] at hget
          cases hget
      | object inner =>
          rw [hvalue, Json.sortKeys_object] at hget
          cases hget
      | _ =>
          rw [hvalue] at hget
          cases hget
  | cons first rest =>
      rw [hsorted] at h
      rw [adopt, h]

section Snapshot

variable {snapshot : StatusPayload} {payload ordered : List (String × Json)}

/-- The core's status as it comes over the web. -/
abbrev sent (payload : List (String × Json)) : List (String × Json) :=
  sortByKey (Json.sortMembers payload)

theorem get_sent (payload : List (String × Json)) (name : String) :
    Json.get (sent payload) name = (Json.get payload name).sortKeys :=
  Json.get_sortByKey_sortMembers payload name

/-- The core's status shows a snapshot that the policy's thresholds go with, its readings
finite and its drives in some order. -/
structure Relays (payload : List (String × Json)) (snapshot : StatusPayload)
    (ordered : List (String × Json)) : Prop where
  shows : Core.Shows payload snapshot.backend.toDict snapshot.backend.temperatures.toDict
    (.object snapshot.safety.toDict) (.object (thresholdsDict snapshot.thresholds)) ordered
  bounds : snapshot.thresholds = TrueFan.thresholds
  finite : snapshot.backend.temperatures.AllFinite
  permuted : ordered.Perm (Core.driveItems snapshot)

namespace Relays

theorem get_backend (relays : Relays payload snapshot ordered) (name : String) :
    Json.get (Json.get (sent payload) "backend").membersOf name =
      (Json.get snapshot.backend.toDict name).sortKeys := by
  rw [get_sent, relays.shows.backend, Json.get_membersOf_sortKeys]
  rfl

theorem get_safety (relays : Relays payload snapshot ordered) (name : String) :
    Json.get (Json.get (sent payload) "safety").membersOf name =
      (Json.get snapshot.safety.toDict name).sortKeys := by
  rw [get_sent, relays.shows.safety, Json.get_membersOf_sortKeys]
  rfl

theorem get_temperatures (relays : Relays payload snapshot ordered) (name : String) :
    Json.get (Json.get (Json.get (sent payload) "backend").membersOf "temperatures").membersOf
      name = (Json.get snapshot.backend.temperatures.toDict name).sortKeys := by
  rw [relays.get_backend, Json.get_membersOf_sortKeys]
  rfl

theorem adopt_sent (relays : Relays payload snapshot ordered) (before : Json) :
    adopt before (sent payload) = (Json.object (thresholdsDict TrueFan.thresholds)).sortKeys := by
  have hthresholds : Json.get (sent payload) "thresholds" =
      (Json.object (thresholdsDict TrueFan.thresholds)).sortKeys := by
    rw [get_sent, relays.shows.thresholds, relays.bounds]
    rfl
  exact adopt_of_get "cpu_c" hthresholds rfl

/-- The page goes by the bounds of the policy. -/
theorem get_adopt (relays : Relays payload snapshot ordered) (before : Json) (key : String)
    (warm hot : ℤ) (h : Json.get (thresholdsDict TrueFan.thresholds) key = boundsOf warm hot) :
    Json.get (adopt before (sent payload)).membersOf key = (boundsOf warm hot).sortKeys := by
  rw [relays.adopt_sent, Json.get_membersOf_sortKeys]
  exact congrArg Json.sortKeys h

theorem drives_sent (relays : Relays payload snapshot ordered) :
    (Json.get (sent payload) "drives").arrayItems =
      ordered.map fun drive => (Core.driveEntry drive).sortKeys := by
  rw [get_sent, relays.shows.drives, Json.sortKeys, Json.sortItems_eq_map]
  exact List.map_map

theorem number_of_mem (relays : Relays payload snapshot ordered) {drive : String × Json}
    (hdrive : drive ∈ ordered) : ∃ x, drive.2 = .float (.finite x) := by
  obtain ⟨item, hitem, rfl⟩ := List.mem_map.mp (relays.permuted.mem_iff.mp hdrive)
  obtain ⟨x, hx⟩ := relays.finite.drivesC item hitem
  exact ⟨x, congrArg Json.float hx⟩

theorem fans_sent (relays : Relays payload snapshot ordered) :
    (Json.get (Json.get (sent payload) "backend").membersOf "fan_rpms").entries.Perm
      (snapshot.backend.fanRpms.map fun fan => (fan.1, Json.int fan.2)) := by
  have hfans : Json.get (Json.get (sent payload) "backend").membersOf "fan_rpms" =
      .object (sortByKey (snapshot.backend.fanRpms.map fun fan => (fan.1, Json.int fan.2))) := by
    rw [relays.get_backend, BackendStatus.toDict]
    show (Json.object _).sortKeys = _
    rw [Json.sortKeys_object, Json.sortMembers_eq_map, List.map_map]
    rfl
  rw [hfans]
  exact (Json.entries_object_perm _).trans (List.perm_insertionSort _ _)

/-- The status allows control exactly if the snapshot does not lock it. -/
theorem allows_sent (relays : Relays payload snapshot ordered) :
    allows (sent payload) = !snapshot.safety.controlsLocked := by
  have henabled : (Json.get (sent payload) "pwm_control_enabled").isTrue = true := by
    rw [get_sent, relays.shows.pwmControlEnabled]
    rfl
  have hlocked : (Json.get (Json.get (sent payload) "safety").membersOf
      "controls_locked").isTrue = snapshot.safety.controlsLocked := by
    rw [relays.get_safety, Json.isTrue_sortKeys]
    rfl
  rw [allows, henabled, hlocked, Bool.true_and]

/-- The page takes the status for hot exactly if the snapshot is. -/
theorem stateOf_sent (relays : Relays payload snapshot ordered) :
    (stateOf (sent payload)).isText "hot" = decide (snapshot.safety.state = .hot) := by
  have hstate : Json.get (Json.get (sent payload) "safety").membersOf "state" =
      .str snapshot.safety.state.name := relays.get_safety "state"
  rw [stateOf, hstate]
  cases snapshot.safety.state <;> rfl

end Relays

/-- The drawing shows the snapshot, with the drives in this order. -/
structure Depicts (snapshot : StatusPayload) (ordered : List (String × Json))
    (drawing : Drawing) : Prop where
  state : drawing.state = .str snapshot.safety.state.name
  mode : drawing.mode = .str snapshot.backend.mode.name
  agentOnline : drawing.agentOnline = true
  duty : ∀ n (small : FiniteFloat.Small n), snapshot.backend.dutyPercent = some n →
    drawing.duty = some (.ofInt n small)
  noDuty : snapshot.backend.dutyPercent = none → drawing.duty = none
  maxDrive : Coloured 46 50 snapshot.backend.temperatures.maxDriveC drawing.maxDrive
  cpu : Coloured 61 70 snapshot.backend.temperatures.cpuC drawing.cpu
  nvme : Coloured 60 75 snapshot.backend.temperatures.nvmeC drawing.nvme
  drives : ordered.Forall₂ RowShows drawing.drives
  fans : drawing.fans.Perm (snapshot.backend.fanRpms.map fun fan => (fan.1, Json.int fan.2))

theorem stateName_orOther (state : SafetyState) (other : Json) :
    (Json.str state.name).orOther other = .str state.name := by
  cases state <;> rfl

theorem modeName_orOther (mode : Mode) (other : Json) :
    (Json.str mode.name).orOther other = .str mode.name := by
  cases mode <;> rfl

/-- Drawing the status of a snapshot does not throw, and shows the snapshot. -/
theorem draw_of_relays (keeps : conversions.Keeps) (relays : Relays payload snapshot ordered)
    (before : Json) :
    ∃ drawing, draw conversions (adopt before (sent payload)) (sent payload) = .ok drawing ∧
      Depicts snapshot ordered drawing := by
  have hdriveBounds := relays.get_adopt before "max_drive_c" 46 50 rfl
  have hcpuBounds := relays.get_adopt before "cpu_c" 61 70 rfl
  have hnvmeBounds := relays.get_adopt before "nvme_c" 60 75 rfl
  obtain ⟨duty, hduty, hsome, hnone⟩ := finiteNumber_jsonOfInt keeps snapshot.backend.dutyPercent
  obtain ⟨maxDrive, hmaxDrive, hmaxDriveShown⟩ :=
    temperature_reading keeps (by decide) (by decide) hdriveBounds relays.finite.maxDriveC
  obtain ⟨cpu, hcpu, hcpuShown⟩ :=
    temperature_reading keeps (by decide) (by decide) hcpuBounds relays.finite.cpuC
  obtain ⟨nvme, hnvme, hnvmeShown⟩ :=
    temperature_reading keeps (by decide) (by decide) hnvmeBounds relays.finite.nvmeC
  obtain ⟨mean, hmean⟩ := exists_averageDrive keeps fun _ => relays.number_of_mem
  obtain ⟨avgDrive, havgDrive⟩ := exists_averageCard keeps hdriveBounds mean
  obtain ⟨rows, hrows, hrowsShown⟩ := exists_mapM_ok
    (driveRow conversions (adopt before (sent payload)) ∘
      fun drive => (Core.driveEntry drive).sortKeys)
    RowShows ordered (by
      intro drive hdrive
      obtain ⟨x, hx⟩ := relays.number_of_mem hdrive
      exact driveRow_driveEntry keeps hdriveBounds hx)
  obtain ⟨texts, htexts, -⟩ := exists_mapM_ok (fun fan => conversions.toText fan.2)
    (fun _ _ => True)
    (Json.get (Json.get (sent payload) "backend").membersOf "fan_rpms").entries (by
      intro fan hfan
      obtain ⟨item, -, rfl⟩ := List.mem_map.mp (relays.fans_sent.mem_iff.mp hfan)
      exact ⟨_, rfl, trivial⟩)
  have hstate : Json.get (Json.get (sent payload) "safety").membersOf "state" =
      .str snapshot.safety.state.name := relays.get_safety "state"
  have hreason : Json.get (Json.get (sent payload) "safety").membersOf "reason" =
      .str snapshot.safety.reason := relays.get_safety "reason"
  have hmode : Json.get (Json.get (sent payload) "backend").membersOf "mode" =
      .str snapshot.backend.mode.name := relays.get_backend "mode"
  have hname : Json.get (Json.get (sent payload) "backend").membersOf "backend" =
      .str snapshot.backend.backend := relays.get_backend "backend"
  have honline : (Json.get (sent payload) "agent_available").holds = true := by
    rw [get_sent, relays.shows.agentAvailable]
    rfl
  rw [draw]
  dsimp only
  rw [hstate, hreason, hmode, hname, honline,
    (relays.get_backend "duty_percent").trans (sortKeys_jsonOfInt snapshot.backend.dutyPercent),
    (relays.get_temperatures "max_drive_c").trans
      (sortKeys_jsonOfReading snapshot.backend.temperatures.maxDriveC),
    (relays.get_temperatures "cpu_c").trans
      (sortKeys_jsonOfReading snapshot.backend.temperatures.cpuC),
    (relays.get_temperatures "nvme_c").trans
      (sortKeys_jsonOfReading snapshot.backend.temperatures.nvmeC),
    relays.drives_sent, List.mapM_map]
  -- no step of the drawing throws
  rw [bind_except_of_ok (toText_orOther_str _ _), bind_except_of_ok (toText_orOther_str _ _),
    bind_except_of_ok hduty, bind_except_of_ok (toText_orOther_str _ _),
    bind_except_of_ok (toText_orOther_str _ _), bind_except_of_ok hmaxDrive,
    bind_except_of_ok hcpu, bind_except_of_ok hnvme, bind_except_of_ok hmean,
    bind_except_of_ok havgDrive, bind_except_of_ok hrows, bind_except_of_ok htexts]
  refine ⟨_, rfl, ?_⟩
  exact
    { state := stateName_orOther snapshot.safety.state _
      mode := modeName_orOther snapshot.backend.mode _
      agentOnline := rfl
      duty := hsome
      noDuty := hnone
      maxDrive := hmaxDriveShown
      cpu := hcpuShown
      nvme := hnvmeShown
      drives := hrowsShown
      fans := relays.fans_sent }

/-- Once the status of a snapshot has arrived the page shows it, and its controls are unlocked
exactly if the snapshot's are, the emergency button also while it is hot. -/
theorem poll_of_relays (keeps : conversions.Keeps) (relays : Relays payload snapshot ordered)
    (page : Dashboard) :
    (∃ drawing,
      (poll conversions (some (Json.object payload).sortKeys) page).drawing = some drawing ∧
        Depicts snapshot ordered drawing) ∧
      (page.actionInFlight = false → ∀ control,
        ((poll conversions (some (Json.object payload).sortKeys) page).controls control).disabled =
          (snapshot.safety.controlsLocked &&
            !(decide (snapshot.safety.state = .hot) && isEmergency control))) := by
  obtain ⟨drawing, hdraw, depicts⟩ := draw_of_relays keeps relays page.thresholds
  have hpoll : poll conversions (some (Json.object payload).sortKeys) page =
      shown drawing (sent payload)
        { page with thresholds := adopt page.thresholds (sent payload) } := by
    rw [poll, render, Json.membersOf_sortKeys_object]
    dsimp only
    rw [hdraw]
  rw [hpoll]
  refine ⟨⟨drawing, rfl, depicts⟩, fun hidle control => ?_⟩
  have hhot : drawing.state.isText "hot" = decide (snapshot.safety.state = .hot) := by
    rw [depicts.state]
    cases snapshot.safety.state <;> rfl
  simp [shown, relays.allows_sent, hhot, hidle]

end Snapshot

/-! ## On the way to the page -/

/-- The core's status as it arrives at the page: names sorted, and none if it is no JSON, for
a float in it that JSON lacks. -/
def arrived (payload : List (String × Json)) : Option Json :=
  if (Json.object payload).compliant then some (Json.object payload).sortKeys else none

end Dashboard

namespace Python.Json

theorem membersCompliant_assign {name : String} {value : Json} {members : List (String × Json)}
    (hvalue : value.compliant = true) (hmembers : membersCompliant members = true) :
    membersCompliant (assign name value members) = true := by
  induction members with
  | nil => simp [assign, hvalue]
  | cons member rest ih =>
      obtain ⟨other, held⟩ := member
      simp only [membersCompliant_cons, Bool.and_eq_true] at hmembers
      rw [assign]
      split
      · simp [hvalue, hmembers.2]
      · simp [hmembers.1, ih hmembers.2]

theorem membersCompliant_assignAll {members updates : List (String × Json)}
    (hmembers : membersCompliant members = true) (hupdates : membersCompliant updates = true) :
    membersCompliant (assignAll members updates) = true := by
  induction updates using List.reverseRecOn with
  | nil => exact hmembers
  | append_singleton updates item ih =>
      rw [membersCompliant_iff, List.forall_mem_append] at hupdates
      rw [assignAll_append_singleton]
      exact membersCompliant_assign (hupdates.2 item (List.mem_singleton_self item))
        (ih ((membersCompliant_iff updates).mpr hupdates.1))

theorem compliant_get {members : List (String × Json)} (h : membersCompliant members = true)
    (name : String) : (get members name).compliant = true := by
  induction members with
  | nil => rfl
  | cons member rest ih =>
      obtain ⟨other, value⟩ := member
      simp only [membersCompliant_cons, Bool.and_eq_true] at h
      by_cases hname : name = other
      · rw [hname, get_cons_self]
        exact h.1
      · rw [get_cons_of_ne hname]
        exact ih h.2

theorem itemsCompliant_iff (items : List Json) :
    itemsCompliant items = true ↔ ∀ item ∈ items, item.compliant = true := by
  induction items with
  | nil => simp [itemsCompliant]
  | cons item rest ih => simp [itemsCompliant, ih]

theorem compliant_orElse {value other : Json} (hvalue : value.compliant = true)
    (hother : other.compliant = true) : (value.orElse other).compliant = true := by
  rw [orElse]
  split
  · exact hvalue
  · exact hother

end Python.Json

namespace Core

theorem compliant_ownStatus (sources : StatusSources) (response : ClientResult) :
    Json.membersCompliant (ownStatus sources response) = true := by
  apply Json.membersCompliant_assignAll
  · decide
  · simp [Json.compliant]

theorem compliant_agentUpdates {sources : StatusSources} {snapshot : StatusPayload}
    (finite : snapshot.backend.temperatures.AllFinite) {updates : List (String × Json)}
    (h : agentUpdates sources snapshot.toDict = .ok updates) :
    Json.membersCompliant updates = true := by
  have hbackend := (compliant_backend_iff snapshot.backend).mpr finite
  have htemperatures := (compliant_temperatures_iff snapshot.backend.temperatures).mpr finite
  have hnothing : (Json.object []).compliant = true := rfl
  obtain ⟨backend, hbackend', h⟩ := bind_except_eq_ok h
  obtain ⟨temperatures, htemperatures', h⟩ := bind_except_eq_ok h
  obtain ⟨drives, hdrives', h⟩ := bind_except_eq_ok h
  obtain ⟨ordered, hordered, h⟩ := bind_except_eq_ok h
  cases (membersOrNone_object snapshot.backend.toDict).symm.trans hbackend'
  cases (membersOrNone_object snapshot.backend.temperatures.toDict).symm.trans htemperatures'
  cases (membersOrNone_object (driveItems snapshot)).symm.trans hdrives'
  cases (hottestFirst_driveItems sources finite).symm.trans hordered
  have hdrives : Json.itemsCompliant
      (((driveItems snapshot).mergeSort atLeastAsHot).map driveEntry) = true := by
    rw [Json.itemsCompliant_iff, List.forall_mem_map]
    intro drive hdrive
    obtain ⟨item, hitem, rfl⟩ := List.mem_map.mp (List.mem_mergeSort.mp hdrive)
    obtain ⟨x, hx⟩ := finite.drivesC item hitem
    simp [driveEntry, hx, Json.compliant]
  have hsensors : (legacySensors snapshot.backend.temperatures.toDict).compliant = true := by
    rw [legacySensors, Json.compliant, Json.itemsCompliant_iff]
    intro item hitem
    obtain ⟨sensor, -, hsensor⟩ := List.mem_filterMap.mp hitem
    split at hsensor
    · cases hsensor
    · cases hsensor
      simp [Json.compliant, Json.compliant_get htemperatures]
  have hdata : Json.membersCompliant snapshot.toDict = true := by
    simp [StatusPayload.toDict, Json.compliant, hbackend, compliant_safety, compliant_thresholds]
  have hfans := Json.compliant_orElse (Json.compliant_get hbackend "fan_rpms") hnothing
  have hsafety := Json.compliant_orElse (Json.compliant_get hdata "safety") hnothing
  have hthresholds := Json.compliant_orElse (Json.compliant_get hdata "thresholds") hnothing
  cases h
  simp only [Json.membersCompliant_cons, Json.membersCompliant_nil, hfans, hsafety, hthresholds,
    hsensors, Json.compliant_get hbackend, Json.compliant_object, hbackend, htemperatures]
  simp [Json.compliant, hdrives]

end Core

namespace Dashboard

section Agent

variable {Hardware : Type} {client : PwmClient Hardware} {snapshot : StatusPayload}

/-- What the page shows of a snapshot of the agent. -/
structure ShowsAgent (snapshot : StatusPayload) (ordered : List (String × Json))
    (drawing : Drawing) : Prop extends Depicts snapshot ordered drawing where
  permuted : ordered.Perm (Core.driveItems snapshot)
  sorted : ordered.Pairwise fun first second => Core.atLeastAsHot first second
  cpuHot : (∃ x, drawing.cpu = some (x, .hot)) ↔
    isHot snapshot.backend.temperatures.cpuC hotCpuC = true
  driveHot : (∃ x, drawing.maxDrive = some (x, .hot)) ↔
    isHot snapshot.backend.temperatures.maxDriveC hotDriveC = true

theorem Depicts.showsAgent {ordered : List (String × Json)} {drawing : Drawing}
    (depicts : Depicts snapshot ordered drawing)
    (permuted : ordered.Perm (Core.driveItems snapshot))
    (sorted : ordered.Pairwise fun first second => Core.atLeastAsHot first second) :
    ShowsAgent snapshot ordered drawing :=
  ⟨depicts, permuted, sorted, depicts.cpu.hot_iff, depicts.maxDrive.hot_iff⟩

/-- Whatever the agent's service went through since it started: if its status comes through
and its readings are finite, the page shows that status, drives hottest first. The cards of
the processor and the drives are hot exactly if the policy takes their readings for hot, and
without a command on its way the controls are locked exactly if the policy locks them, but for
the emergency button while it is hot. -/
theorem page_shows_agent (keeps : conversions.Keeps)
    (rendered : client.app.renderStatus = Agent.renderStatus) (hardware : Hardware)
    (policy : SafetyPolicy) (events : List (ServiceEvent Hardware)) (sources : StatusSources)
    (clock : Clock) {authorization : List Char} (reaches : Core.Reaches client authorization)
    {after : ControlService Hardware}
    (status : ControlService.status client.app.backend clock
      (finalState (ControlService.step client.app.backend) (.init hardware policy) events) =
        .ok snapshot after)
    (finite : snapshot.backend.temperatures.AllFinite) (page : Dashboard) :
    (∃ ordered drawing,
      (poll conversions (arrived (Core.status sources client clock
        (finalState (ControlService.step client.app.backend) (.init hardware policy) events)).1)
          page).drawing = some drawing ∧ ShowsAgent snapshot ordered drawing) ∧
      (page.actionInFlight = false → ∀ control,
        ((poll conversions (arrived (Core.status sources client clock
          (finalState (ControlService.step client.app.backend) (.init hardware policy) events)).1)
            page).controls control).disabled =
          (snapshot.safety.controlsLocked &&
            !(decide (snapshot.safety.state = .hot) && isEmergency control))) := by
  obtain ⟨answer, updates, hupdates, hpayload, ordered, permuted, sorted, shows⟩ :=
    Core.status_of_snapshot rendered sources reaches status finite
  have bounds := ControlService.thresholds_of_status
    (ControlService.bounded_finalState client.app.backend hardware policy events) status
  have relays : Relays _ snapshot ordered := ⟨shows, bounds, finite, permuted⟩
  have hcompliant : (Json.object (Core.status sources client clock
      (finalState (ControlService.step client.app.backend) (.init hardware policy)
        events)).1).compliant = true := by
    rw [Json.compliant_object, hpayload]
    exact Json.membersCompliant_assignAll (Core.compliant_ownStatus sources answer)
      (Core.compliant_agentUpdates finite hupdates)
  obtain ⟨⟨drawing, hdrawing, depicts⟩, hcontrols⟩ := poll_of_relays keeps relays page
  rw [arrived, if_pos hcompliant]
  exact ⟨⟨ordered, drawing, hdrawing, depicts.showsAgent permuted sorted⟩, hcontrols⟩

end Agent

/-- Conversions of texts and numbers. -/
def plainConversions : Conversions where
  text
    | .str text => text
    | _ => ""
  number
    | .float x => x
    | .int n => if small : FiniteFloat.Small n then .finite (.ofInt n small) else .nan
    | _ => .nan

theorem keeps_plainConversions : plainConversions.Keeps where
  text _ := rfl
  float _ := rfl
  int _ small := dif_pos small

/-- A page next to that agent shows a status. -/
theorem page_shows_agent_of_oneChannel :
    ∃ drawing, (poll plainConversions (arrived (Core.status Core.bareSources Core.renderingClient
      (.ofInt 1) PwmClient.oneChannelService).1) (loaded [])).drawing =
        some drawing := by
  obtain ⟨snapshot, after, hstatus, finite⟩ := Core.status_renderingClient
  obtain ⟨⟨ordered, drawing, hdrawing, -⟩, -⟩ := page_shows_agent keeps_plainConversions rfl
    (HwmonPwmBackend.automaticTree, ()) (.fresh fun _ => .stored) [] Core.bareSources _
    Core.reaches_renderingClient hstatus finite (loaded [])
  exact ⟨drawing, hdrawing⟩

end Dashboard

end TrueFan
