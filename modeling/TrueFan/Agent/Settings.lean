/-
# The settings of the agent and its policy loop

At its start the agent reads its settings from the environment and from the files that
hold its secrets, and then ticks for ever, sleeping between two ticks for as long as the
settings say. A tick may raise what it likes; the sleep is not protected. The comparisons
that bound the interval let pass what is in no relation to any bound.
-/

import TrueFan.Backend
import TrueFan.Python.Float

namespace TrueFan

open Python

namespace Agent

/-- The environment of the process: its variables, and what reading a file comes to. -/
structure Environment where
  get : String → Option (List Char)
  readText : List Char → Except Failure (List Char)

/-- `ConfigError`. -/
def configError (message : String) : Failure := .runtimeError message

/-- `read_secret_file`. -/
def readSecretFile (name : String) (environ : Environment) : Except Failure (List Char) :=
  let path := strip ((environ.get name).getD [])
  if path = [] then .error (configError (name ++ " is required"))
  else
    match environ.readText path with
    | .error .osError => .error (configError (name ++ " could not be read"))
    | .error error => .error error
    | .ok content =>
        if strip content = [] then .error (configError (name ++ " is empty"))
        else .ok (strip content)

/-- `_required`. -/
def required (name : String) (environ : Environment) : Except Failure (List Char) :=
  let value := strip ((environ.get name).getD [])
  if value = [] then .error (configError (name ++ " is required")) else .ok value

/-- `_bool`. -/
def boolOf (name : String) (environ : Environment) (default : Bool) : Except Failure Bool :=
  match environ.get name with
  | none => .ok default
  | some raw =>
      let normalized := lowerAscii (strip raw)
      if normalized ∈ ["1", "true", "yes", "on"].map String.toList then .ok true
      else if normalized ∈ ["0", "false", "no", "off"].map String.toList then .ok false
      else .error (configError (name ++ " must be true or false"))

/-- `Settings`. -/
structure Settings where
  backend : List Char
  agentToken : List Char
  statePath : List Char := "/data/control-state.json".toList
  policyIntervalSeconds : PyFloat := .finite (.ofInt 5)
  bmcHost : Option (List Char) := none
  bmcUser : Option (List Char) := none
  bmcPassword : Option (List Char) := none
  bmcVerifyTls : Bool := true
  truenasHost : Option (List Char) := none
  truenasUser : Option (List Char) := none
  truenasPassword : Option (List Char) := none
  truenasVerifyTls : Bool := true
  deriving DecidableEq

/-- The text of the interval. -/
def intervalText (environ : Environment) : List Char :=
  (environ.get "TRUEFAN_POLICY_INTERVAL_SECONDS").getD ['5']

/-- The interval, in the range that is allowed. -/
def readInterval (environ : Environment) : Except Failure PyFloat :=
  match parseFloat (intervalText environ) with
  | none => .error (configError "TRUEFAN_POLICY_INTERVAL_SECONDS must be numeric")
  | some interval =>
      if interval.le .zero || PyFloat.lt (.finite (.ofInt 60)) interval then
        .error (configError "TRUEFAN_POLICY_INTERVAL_SECONDS is out of range")
      else .ok interval

/-- `Settings.from_env`. -/
def fromEnv (environ : Environment) : Except Failure Settings := do
  let backend := lowerAscii (strip ((environ.get "TRUEFAN_BACKEND").getD "hwmon_pwm".toList))
  if backend ∉ ["hwmon_pwm", "ast2600_ipmi"].map String.toList then
    throw (configError "TRUEFAN_BACKEND must be hwmon_pwm or ast2600_ipmi")
  let interval ← readInterval environ
  let settings : Settings := {
    backend
    agentToken := ← readSecretFile "TRUEFAN_AGENT_SECRET_FILE" environ
    statePath := (environ.get "CONTROL_STATE_PATH").getD "/data/control-state.json".toList
    policyIntervalSeconds := interval }
  if backend = "ast2600_ipmi".toList then
    return {
      settings with
      bmcHost := some (← required "BMC_HOST" environ)
      bmcUser := some (← readSecretFile "BMC_USER_FILE" environ)
      bmcPassword := some (← readSecretFile "BMC_PASSWORD_FILE" environ)
      bmcVerifyTls := ← boolOf "BMC_TLS_VERIFY" environ true
      truenasHost := some (← required "TRUENAS_HOST" environ)
      truenasUser := some (← readSecretFile "TRUENAS_USER_FILE" environ)
      truenasPassword := some (← readSecretFile "TRUENAS_PASSWORD_FILE" environ)
      truenasVerifyTls := ← boolOf "TRUENAS_TLS_VERIFY" environ true }
  else return settings

/-- What became of a tick: it returned, or it raised an `Exception`. -/
abbrev TickOutcome := Except Failure Unit

/-- `policy_loop` over the outcomes of its ticks, oldest first: it comes to the next tick,
or an exception ends it. -/
def policyLoop (sleep : PyFloat → Except Failure Unit) (interval : PyFloat) :
    List TickOutcome → Except Failure Unit
  | [] => .ok ()
  | outcome :: later => do
      match outcome with
      | .ok () => pure ()
      | .error _ => pure () -- the failure is logged
      sleep interval
      policyLoop sleep interval later

/-- `asyncio.sleep`: it returns for every positive number of seconds and takes no float
that is not a number. -/
structure Sleeps (sleep : PyFloat → Except Failure Unit) : Prop where
  positive : ∀ x : FiniteFloat, 0 < x.value → sleep (.finite x) = .ok ()
  nan : ∃ message, sleep .nan = .error (.valueError message)

/-! ## The loop -/

variable {environ : Environment} {settings : Settings} {interval : PyFloat}
  {sleep : PyFloat → Except Failure Unit}

theorem readInterval_eq_ok (h : readInterval environ = .ok interval) :
    parseFloat (intervalText environ) = some interval ∧
      interval.le .zero = false ∧ PyFloat.lt (.finite (.ofInt 60)) interval = false := by
  rw [readInterval] at h
  split at h
  next => cases h
  next value hvalue =>
    split at h
    next => cases h
    next hrange =>
      cases h
      rw [Bool.not_eq_true, Bool.or_eq_false_iff] at hrange
      exact ⟨hvalue, hrange⟩

/-- What was accepted is a number in the range, or no number. -/
theorem mem_range_of_readInterval (h : readInterval environ = .ok interval)
    (hnumber : interval ≠ .nan) :
    ∃ x : FiniteFloat, interval = .finite x ∧ 0 < x.value ∧ x.value ≤ 60 := by
  obtain ⟨-, hlow, hhigh⟩ := readInterval_eq_ok h
  cases interval with
  | finite x =>
      have hzero : (FiniteFloat.ofInt 0).value = 0 := Int.cast_zero
      have hsixty : (FiniteFloat.ofInt 60).value = 60 := Int.cast_ofNat 60
      refine ⟨x, rfl, ?_, ?_⟩
      · simpa [PyFloat.le, PyFloat.lt, PyFloat.zero, hzero] using hlow
      · simpa [PyFloat.lt, hsixty] using hhigh
  | posInf => cases hhigh
  | negInf => cases hlow
  | nan => exact absurd rfl hnumber

/-- Accepted settings have an accepted interval. -/
theorem readInterval_of_fromEnv (h : fromEnv environ = .ok settings) :
    readInterval environ = .ok settings.policyIntervalSeconds := by
  rw [fromEnv] at h
  split at h
  next => cases h
  next =>
    obtain ⟨interval, hinterval, h⟩ := bind_except_eq_ok h
    obtain ⟨token, -, h⟩ := bind_except_eq_ok h
    rw [hinterval]
    dsimp only at h
    split at h
    next =>
      obtain ⟨_, -, h⟩ := bind_except_eq_ok h
      obtain ⟨_, -, h⟩ := bind_except_eq_ok h
      obtain ⟨_, -, h⟩ := bind_except_eq_ok h
      obtain ⟨_, -, h⟩ := bind_except_eq_ok h
      obtain ⟨_, -, h⟩ := bind_except_eq_ok h
      obtain ⟨_, -, h⟩ := bind_except_eq_ok h
      obtain ⟨_, -, h⟩ := bind_except_eq_ok h
      obtain ⟨_, -, h⟩ := bind_except_eq_ok h
      cases h
      rfl
    next =>
      cases h
      rfl

/-- One turn of the loop ends with the sleep, whatever became of the tick. -/
theorem policyLoop_cons (outcome : TickOutcome) (later : List TickOutcome) :
    policyLoop sleep interval (outcome :: later) =
      sleep interval >>= fun _ => policyLoop sleep interval later := by
  cases outcome with
  | ok => rfl
  | error error => rfl

/-- A loop whose sleep returns always comes to the next tick. -/
theorem policyLoop_of_sleep (h : sleep interval = .ok ()) (outcomes : List TickOutcome) :
    policyLoop sleep interval outcomes = .ok () := by
  induction outcomes with
  | nil => rfl
  | cons outcome later ih =>
      rw [policyLoop_cons, h]
      exact ih

/-- With accepted settings the loop comes to the next tick after every tick exactly if the
text of the interval does not spell what is no number, and exactly then the interval is a
number in the range. -/
theorem policyLoop_goes_on_iff (sleeps : Sleeps sleep) (h : fromEnv environ = .ok settings) :
    ((∀ outcomes, policyLoop sleep settings.policyIntervalSeconds outcomes = .ok ()) ↔
        parseFloat (intervalText environ) ≠ some .nan) ∧
      ((∃ x : FiniteFloat, settings.policyIntervalSeconds = .finite x ∧
          0 < x.value ∧ x.value ≤ 60) ↔
        parseFloat (intervalText environ) ≠ some .nan) := by
  have hinterval := readInterval_of_fromEnv h
  rw [(readInterval_eq_ok hinterval).1, Ne, Option.some.injEq]
  by_cases hnumber : settings.policyIntervalSeconds = .nan
  · obtain ⟨message, hsleep⟩ := sleeps.nan
    rw [hnumber]
    constructor
    · apply iff_of_false _ (not_not.mpr rfl)
      intro hall
      have hended := hall [.ok ()]
      rw [policyLoop_cons, hsleep] at hended
      cases hended
    · apply iff_of_false _ (not_not.mpr rfl)
      rintro ⟨x, hfinite, -⟩
      cases hfinite
  · obtain ⟨x, hfinite, hlow, hhigh⟩ := mem_range_of_readInterval hinterval hnumber
    refine ⟨iff_of_true ?_ hnumber, iff_of_true ⟨x, hfinite, hlow, hhigh⟩ hnumber⟩
    apply policyLoop_of_sleep
    rw [hfinite]
    exact sleeps.positive x hlow

/-- `asyncio.sleep` for the intervals that are accepted. -/
def asyncioSleep : PyFloat → Except Failure Unit
  | .nan => .error (.valueError "Invalid delay: NaN (not a number)")
  | _ => .ok ()

theorem sleeps_asyncioSleep : Sleeps asyncioSleep where
  positive _ _ := rfl
  nan := ⟨_, rfl⟩

/-- An environment with a token file and the interval. -/
def environmentOf (interval : String) : Environment where
  get name :=
    if name = "TRUEFAN_POLICY_INTERVAL_SECONDS" then some interval.toList
    else if name = "TRUEFAN_AGENT_SECRET_FILE" then some "/run/secrets/agent".toList
    else none
  readText _ := .ok "token\n".toList

/-- The settings these are accepted as. -/
def settingsOf (interval : PyFloat) : Settings where
  backend := "hwmon_pwm".toList
  agentToken := "token".toList
  policyIntervalSeconds := interval

/-- With an interval of half a second the loop goes on for ever. -/
theorem policyLoop_goes_on_half :
    ∃ settings, fromEnv (environmentOf "0.5") = .ok settings ∧
      (∀ outcomes, policyLoop asyncioSleep settings.policyIntervalSeconds outcomes = .ok ()) ∧
      ∃ x : FiniteFloat, settings.policyIntervalSeconds = .finite x ∧
        0 < x.value ∧ x.value ≤ 60 := by
  have haccepted : fromEnv (environmentOf "0.5") = .ok (settingsOf (.ofRat (1 / 2))) := by
    decide +kernel
  have hnumber : parseFloat (intervalText (environmentOf "0.5")) ≠ some .nan := by
    decide +kernel
  obtain ⟨hloop, hrange⟩ := policyLoop_goes_on_iff sleeps_asyncioSleep haccepted
  exact ⟨_, haccepted, hloop.mpr hnumber, hrange.mpr hnumber⟩

/-- An interval of `nan` is accepted, and the loop does not come to a second tick. -/
theorem not_policyLoop_goes_on_nan :
    ¬ ∀ environ settings, fromEnv environ = .ok settings →
      ∀ outcomes, policyLoop asyncioSleep settings.policyIntervalSeconds outcomes = .ok () := by
  intro hall
  have haccepted : fromEnv (environmentOf "nan") = .ok (settingsOf .nan) := by decide +kernel
  have hstopped := hall _ _ haccepted [.ok ()]
  cases hstopped

end Agent

end TrueFan
