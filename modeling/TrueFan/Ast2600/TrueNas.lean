/-
# The TrueNAS source

The client logs in over a socket, asks for the temperatures of the disks and makes a
dictionary of those that are numbers; of the drives and of the NVMe disks it reports the
maximum. The socket and what is behind it are a state of their own.

Lowering a text is left open: nothing here depends on what it does.
-/

import TrueFan.Ast2600.Backend
import TrueFan.Ast2600.Conversion
import TrueFan.Foundations.Dictionary

namespace TrueFan

open Python Foundations

/-- `TrueNasTemperatureClient`: the credentials, the connector and the methods of the
socket it returns. What `recv` yields is decoded here. -/
structure TrueNasTemperatureClient (Socket : Type) where
  username : String
  password : String
  connect : EStateM Failure Socket Unit
  send : Json → EStateM Failure Socket Unit
  recv : EStateM Failure Socket Json
  close : EStateM Failure Socket Unit

namespace TrueNasTemperatureClient

variable {Socket : Type}

/-- `_rpc`. -/
def rpc (client : TrueNasTemperatureClient Socket) (requestId : ℤ) (method : String)
    (params : Json) : EStateM Failure Socket Json := do
  client.send (.object [("jsonrpc", .str "2.0"), ("id", .int requestId), ("method", .str method),
    ("params", params)])
  match ← attempt client.recv with
  | some (.object response) =>
      if !Json.equalsInt requestId (Json.get response "id") then
        throw (.sensorError "truenas_invalid_response")
      else if !(Json.get response "error").isNull then throw (.sensorError "truenas_rpc_failed")
      else
        match response.lookup "result" with
        | none => throw (.sensorError "truenas_invalid_response")
        | some result => return result
  | _ => throw (.sensorError "truenas_invalid_response")

/-- What the login is asked with. -/
def credentials (client : TrueNasTemperatureClient Socket) : Json :=
  .array [.object [("mechanism", .str "PASSWORD_PLAIN"), ("username", .str client.username),
    ("password", .str client.password)]]

/-- `auth_succeeded`. -/
def authSucceeded : Json → Bool
  | .bool value => value
  | .object result =>
      match Json.get result "response_type" with
      | .str text => text = "SUCCESS"
      | _ => false
  | _ => false

/-- The part of `fetch` that talks to the socket. -/
def session (client : TrueNasTemperatureClient Socket) : EStateM Failure Socket Json := do
  let authResult ← client.rpc 1 "auth.login_ex" client.credentials
  if !authSucceeded authResult then throw (.sensorError "truenas_auth_failed")
  client.rpc 2 "disk.temperatures" (.array [.array []])

/-- One round of the loop over the temperatures. -/
def takeDrive (drives : List (String × PyFloat)) (entry : String × Json) :
    Except Failure (List (String × PyFloat)) := do
  match ← convert entry.2 with
  | some value => return assign entry.1 value drives
  | none => return drives

section

variable (lower : List Char → List Char)

/-- `"nvme" in name.lower()`. -/
def isNvme (name : String) : Bool := occursIn "nvme".toList (lower name.toList)

/-- The part of `fetch` that evaluates the result object. -/
def temperaturesOf (temperatures : List (String × Json)) : Except Failure TrueNasReading := do
  let drives ← temperatures.foldlM takeDrive []
  let hddValues := (drives.filter fun drive => !isNvme lower drive.1).map Prod.snd
  let nvmeValues := (drives.filter fun drive => isNvme lower drive.1).map Prod.snd
  return {
    drivesC := drives
    maxDriveC := PyFloat.maxOf hddValues
    nvmeC := PyFloat.maxOf nvmeValues }

/-- `fetch`. -/
def fetch (client : TrueNasTemperatureClient Socket) : EStateM Failure Socket TrueNasReading := do
  match ← attempt client.connect with
  | none => throw (.sensorError "truenas_connect_failed")
  | some _ =>
      match ← andFinally client.session client.close with
      | .object temperatures => ofExcept (temperaturesOf lower temperatures)
      | _ => throw (.sensorError "truenas_invalid_temperatures")

/-- The dictionary entry of an entry of the result object, if it makes one. -/
def driveOf (entry : String × Json) : Option (String × PyFloat) :=
  (taken entry.2).map fun value => (entry.1, value)

/-- The value of an entry in the group of NVMe disks or of the other drives. -/
def groupValue (nvme : Bool) (entry : String × Json) : Option PyFloat :=
  if isNvme lower entry.1 = nvme then taken entry.2 else none

omit lower in
theorem driveOf_of_taken {entry : String × Json} {value : PyFloat}
    (h : taken entry.2 = some value) : driveOf entry = some (entry.1, value) := by
  rw [driveOf, h]
  rfl

omit lower in
theorem driveOf_of_not_taken {entry : String × Json} (h : taken entry.2 = none) :
    driveOf entry = none := by
  rw [driveOf, h]
  rfl

theorem foldl_drives (temperatures : List (String × Json)) (drives : List (String × PyFloat)) :
    temperatures.foldl (fun drives entry => (taken entry.2).elim drives fun value =>
        assign entry.1 value drives) drives =
      assignAll drives (temperatures.filterMap driveOf) := by
  induction temperatures generalizing drives with
  | nil => rfl
  | cons entry rest ih =>
      rw [List.foldl_cons, ih]
      cases hvalue : taken entry.2 with
      | none =>
          rw [List.filterMap_cons_none (driveOf_of_not_taken hvalue)]
          rfl
      | some value =>
          rw [List.filterMap_cons_some (driveOf_of_taken hvalue)]
          rfl

theorem groupValues_eq (nvme : Bool) (temperatures : List (String × Json)) :
    ((temperatures.filterMap driveOf).filter fun drive => isNvme lower drive.1 == nvme).map
        Prod.snd = temperatures.filterMap (groupValue lower nvme) := by
  rw [List.filter_filterMap, List.map_filterMap]
  congr 1
  funext entry
  rw [driveOf, groupValue]
  cases taken entry.2 with
  | none => simp
  | some value =>
      by_cases hgroup : isNvme lower entry.1 = nvme
      · simp [Option.filter, hgroup]
      · simp [Option.filter, hgroup]

omit lower in
theorem keys_drives_sublist (temperatures : List (String × Json)) :
    ((temperatures.filterMap driveOf).map Prod.fst).Sublist (temperatures.map Prod.fst) := by
  induction temperatures with
  | nil => exact .slnil
  | cons entry rest ih =>
      cases hvalue : taken entry.2 with
      | none =>
          rw [List.filterMap_cons_none (driveOf_of_not_taken hvalue)]
          exact ih.cons entry.1
      | some value =>
          rw [List.filterMap_cons_some (driveOf_of_taken hvalue)]
          exact ih.cons_cons entry.1

/-- The result object makes a dictionary of its numbers unless one of them is too large. -/
theorem temperaturesOf_eq {temperatures : List (String × Json)}
    (nodup : (temperatures.map Prod.fst).Nodup) :
    temperaturesOf lower temperatures =
      if ∀ entry ∈ temperatures, ¬ Oversized entry.2 then
        .ok {
          drivesC := temperatures.filterMap driveOf
          maxDriveC := PyFloat.maxOf (temperatures.filterMap (groupValue lower false))
          nvmeC := PyFloat.maxOf (temperatures.filterMap (groupValue lower true)) }
      else .error .overflowError := by
  have hstep (drives : List (String × PyFloat)) (entry : String × Json) :
      takeDrive drives entry =
        if ¬ Oversized entry.2 then
          .ok ((taken entry.2).elim drives fun value => assign entry.1 value drives)
        else .error .overflowError := by
    rw [takeDrive, bind_convert]
    cases taken entry.2 with
    | none => rfl
    | some value => rfl
  have hkeys : ((temperatures.filterMap driveOf).map Prod.fst).Nodup :=
    nodup.sublist (keys_drives_sublist temperatures)
  rw [temperaturesOf, foldlM_eq_ite hstep, foldl_drives, assignAll_of_nodup hkeys,
    ← groupValues_eq, ← groupValues_eq]
  split
  · simp only [beq_false, beq_true]
    rfl
  · rfl

/-- What a reading owes to the entries of a result object: each finite value is listed and
is no greater than the maximum of its group, and the maxima are those of every other
order of the entries. -/
structure Unmasked (temperatures : List (String × Json)) (reading : TrueNasReading) : Prop where
  listed : ∀ entry ∈ temperatures, ∀ x, IsFinite entry.2 x →
    (entry.1, .finite x) ∈ reading.drivesC
  drives : ∀ entry ∈ temperatures, ∀ x, IsFinite entry.2 x → isNvme lower entry.1 = false →
    ∃ greatest, reading.maxDriveC = some greatest ∧ PyFloat.le (.finite x) greatest = true
  nvme : ∀ entry ∈ temperatures, ∀ x, IsFinite entry.2 x → isNvme lower entry.1 = true →
    ∃ greatest, reading.nvmeC = some greatest ∧ PyFloat.le (.finite x) greatest = true
  unordered : ∀ other : List (String × Json), other.Perm temperatures →
    ∃ again, temperaturesOf lower other = .ok again ∧ again.maxDriveC = reading.maxDriveC ∧
      again.nvmeC = reading.nvmeC

/-- No value is an integer beyond the range of floats, and in neither group are values that
are not a number mixed with numbers. -/
def Clean (temperatures : List (String × Json)) : Prop :=
  (∀ entry ∈ temperatures, ¬ Oversized entry.2) ∧
    ∀ nvme, PyFloat.Uniform (temperatures.filterMap (groupValue lower nvme))

variable {lower}

theorem mem_groupValues {temperatures : List (String × Json)} {entry : String × Json}
    (hentry : entry ∈ temperatures) {x : FiniteFloat} (hfinite : IsFinite entry.2 x) {nvme : Bool}
    (hgroup : isNvme lower entry.1 = nvme) :
    .finite x ∈ temperatures.filterMap (groupValue lower nvme) := by
  apply List.mem_filterMap.mpr
  refine ⟨entry, hentry, ?_⟩
  rw [groupValue, if_pos hgroup]
  exact taken_of_isFinite hfinite

/-- Nothing in a result object masks anything else exactly if it is clean. -/
theorem unmasked_iff_clean {temperatures : List (String × Json)}
    (nodup : (temperatures.map Prod.fst).Nodup) :
    (∃ reading, temperaturesOf lower temperatures = .ok reading ∧
      Unmasked lower temperatures reading) ↔ Clean lower temperatures := by
  have hother {other : List (String × Json)} (perm : other.Perm temperatures) :=
    temperaturesOf_eq lower ((perm.map Prod.fst).nodup_iff.mpr nodup)
  rw [temperaturesOf_eq lower nodup]
  constructor
  · rintro ⟨reading, hreading, hunmasked⟩
    split at hreading
    next hsize =>
      cases hreading
      refine ⟨hsize, fun nvme => (PyFloat.uniform_filterMap_iff _ _).mpr fun other perm => ?_⟩
      obtain ⟨again, hagain, hdrives, hnvme⟩ := hunmasked.unordered other perm
      rw [hother perm, if_pos fun entry hentry => hsize entry (perm.mem_iff.mp hentry)] at hagain
      cases hagain
      cases nvme with
      | false => exact hdrives
      | true => exact hnvme
    next => cases hreading
  · rintro ⟨hsize, huniform⟩
    rw [if_pos hsize]
    refine ⟨_, rfl, ?_, ?_, ?_, ?_⟩
    · intro entry hentry x hfinite
      exact List.mem_filterMap.mpr ⟨entry, hentry, driveOf_of_taken (taken_of_isFinite hfinite)⟩
    · intro entry hentry x hfinite hgroup
      exact PyFloat.le_maxOf_of_uniform (huniform false) (mem_groupValues hentry hfinite hgroup)
    · intro entry hentry x hfinite hgroup
      exact PyFloat.le_maxOf_of_uniform (huniform true) (mem_groupValues hentry hfinite hgroup)
    · intro other perm
      rw [hother perm, if_pos fun entry hentry => hsize entry (perm.mem_iff.mp hentry)]
      exact ⟨_, rfl, (PyFloat.uniform_filterMap_iff _ _).mp (huniform false) other perm,
        (PyFloat.uniform_filterMap_iff _ _).mp (huniform true) other perm⟩

/-! ## Fetching -/

/-- The connection is made, the login succeeds, and the result object is the answer to the
second call. -/
def Answers (client : TrueNasTemperatureClient Socket) (socket after : Socket)
    (temperatures : List (String × Json)) : Prop :=
  ∃ connected loggedIn read authResult, client.connect socket = .ok () connected ∧
    client.rpc 1 "auth.login_ex" client.credentials connected = .ok authResult loggedIn ∧
    authSucceeded authResult = true ∧
    client.rpc 2 "disk.temperatures" (.array [.array []]) loggedIn =
      .ok (.object temperatures) read ∧
    client.close read = .ok () after

/-- After a successful login, fetching is evaluating the result object. -/
theorem fetch_of_answers {client : TrueNasTemperatureClient Socket} {socket after : Socket}
    {temperatures : List (String × Json)} (answers : client.Answers socket after temperatures) :
    client.fetch lower socket =
      (ofExcept (temperaturesOf lower temperatures) : EStateM Failure Socket TrueNasReading)
        after := by
  obtain ⟨connected, loggedIn, read, authResult, hconnect, hlogin, hsucceeded, hread, hclose⟩ :=
    answers
  have hsession : client.session connected = .ok (.object temperatures) read := by
    rw [session, bind_of_ok hlogin, hsucceeded]
    exact hread
  rw [fetch, bind_of_ok (attempt_of_ok hconnect)]
  dsimp only
  rw [bind_of_ok (andFinally_of_ok hsession hclose)]

/-- After a successful login, the entries of the result object are kept from masking one
another exactly if the object is clean. -/
theorem fetch_unmasked_iff {client : TrueNasTemperatureClient Socket} {socket after : Socket}
    {temperatures : List (String × Json)} (answers : client.Answers socket after temperatures)
    (nodup : (temperatures.map Prod.fst).Nodup) :
    (∃ reading left, client.fetch lower socket = .ok reading left ∧
      Unmasked lower temperatures reading) ↔ Clean lower temperatures := by
  rw [← unmasked_iff_clean nodup, fetch_of_answers answers]
  constructor
  · rintro ⟨reading, left, h, hunmasked⟩
    exact ⟨reading, (ofExcept_eq_ok h).1, hunmasked⟩
  · rintro ⟨reading, h, hunmasked⟩
    rw [h]
    exact ⟨reading, after, rfl, hunmasked⟩

end

/-- A client whose socket holds the replies it is still going to receive. -/
def scripted : TrueNasTemperatureClient (List Json) where
  username := "reader"
  password := "secret"
  connect := return ()
  send _ := return ()
  recv
    | [] => .error .osError []
    | reply :: replies => .ok reply replies
  close := return ()

/-- A successful login, then the result object. -/
def script (temperatures : List (String × Json)) : List Json :=
  [.object [("id", .int 1), ("result", .bool true)],
    .object [("id", .int 2), ("result", .object temperatures)]]

theorem answers_script (temperatures : List (String × Json)) :
    scripted.Answers (script temperatures) [] temperatures :=
  ⟨_, _, _, .bool true, rfl, rfl, rfl, rfl, rfl⟩

/-- One drive, and one NVMe disk whose temperature is no number. -/
def driveAndBadNvme : List (String × Json) := [("sda", .int 39), ("nvme0n1", .float .nan)]

theorem fetch_unmasked_driveAndBadNvme :
    ∃ reading left, scripted.fetch id (script driveAndBadNvme) = .ok reading left ∧
      Unmasked id driveAndBadNvme reading := by
  apply (fetch_unmasked_iff (answers_script driveAndBadNvme) (by decide)).mpr
  constructor
  · decide +kernel
  · intro nvme
    cases nvme with
    | false => decide +kernel
    | true => decide +kernel

/-- An integer with four hundred zeros keeps every other drive from being seen. -/
theorem not_unmasked_of_oversized :
    ¬ ∀ (lower : List Char → List Char) (Socket : Type)
        (client : TrueNasTemperatureClient Socket) (socket after : Socket)
        (temperatures : List (String × Json)), client.Answers socket after temperatures →
      (temperatures.map Prod.fst).Nodup →
      ∃ reading left, client.fetch lower socket = .ok reading left ∧
        Unmasked lower temperatures reading := by
  intro hall
  obtain ⟨reading, left, hfetch, -⟩ := hall id (List Json) scripted _ []
    [("sda", .int (10 ^ 400)), ("sdb", .int 40)] (answers_script _) (by decide)
  rw [fetch_of_answers (answers_script _)] at hfetch
  have hreading := (ofExcept_eq_ok hfetch).1
  rw [temperaturesOf_eq id (by decide), if_neg (by decide +kernel)] at hreading
  cases hreading

end TrueNasTemperatureClient

end TrueFan
