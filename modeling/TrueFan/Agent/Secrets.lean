/-
# Secrets do not show

The settings hold five secrets, each the content of a file. Whether the settings are accepted,
what a refusal says and all that `repr` shows of settings that were accepted depends on the
variables alone, and of the files on whether they can be read and are blank. A file that is no
text is the exception: nothing takes what its decoder says, which names a byte of the file.
-/

import TrueFan.Agent.Settings

namespace TrueFan

open Python

namespace Agent

/-- The settings as `repr` shows them: without the fields it leaves out. -/
def Settings.shown (settings : Settings) : Settings :=
  { settings with
    agentToken := []
    bmcUser := none
    bmcPassword := none
    truenasUser := none
    truenasPassword := none }

/-- The variables are the same, and the same files can be read and are blank; reading any other
raises the same. -/
structure SameButSecrets (first second : Environment) : Prop where
  get : first.get = second.get
  files : ∀ path, Alike (fun content content' => strip content = [] ↔ strip content' = [])
    (first.readText path) (second.readText path)

/-- What `ConfigError` says of a variable that names a file. -/
def secretMessages (name : String) : List String :=
  [name ++ " is required", name ++ " could not be read", name ++ " is empty"]

/-- All that `ConfigError` ever says. -/
def messages : List String :=
  ["TRUEFAN_BACKEND must be hwmon_pwm or ast2600_ipmi",
    "TRUEFAN_POLICY_INTERVAL_SECONDS must be numeric",
    "TRUEFAN_POLICY_INTERVAL_SECONDS is out of range",
    "BMC_HOST is required", "TRUENAS_HOST is required",
    "BMC_TLS_VERIFY must be true or false", "TRUENAS_TLS_VERIFY must be true or false"] ++
  ["TRUEFAN_AGENT_SECRET_FILE", "BMC_USER_FILE", "BMC_PASSWORD_FILE", "TRUENAS_USER_FILE",
    "TRUENAS_PASSWORD_FILE"].flatMap secretMessages

/-- It is a refusal with one of these messages, or what reading a file raised. -/
def Expected (environ : Environment) (error : Failure) : Prop :=
  (∃ message ∈ messages, error = configError message) ∨
    ∃ path, environ.readText path = .error error ∧ error ≠ .osError

variable {first second environ : Environment}

theorem readSecretFile_alike (h : SameButSecrets first second) (name : String) :
    Alike (fun _ _ => True) (readSecretFile name first) (readSecretFile name second) := by
  have hfile := h.files (strip ((second.get name).getD []))
  rw [readSecretFile, readSecretFile, h.get]
  split
  next => rfl
  next =>
    cases hread : first.readText (strip ((second.get name).getD [])) with
    | error error =>
        rw [hread] at hfile
        cases hread' : second.readText (strip ((second.get name).getD [])) with
        | ok content' =>
            rw [hread'] at hfile
            exact hfile.elim
        | error error' =>
            rw [hread'] at hfile
            cases hfile
            cases error <;> rfl
    | ok content =>
        rw [hread] at hfile
        cases hread' : second.readText (strip ((second.get name).getD [])) with
        | error error' =>
            rw [hread'] at hfile
            exact hfile.elim
        | ok content' =>
            rw [hread'] at hfile
            dsimp only
            by_cases hblank : strip content = []
            · rw [if_pos hblank, if_pos (hfile.mp hblank)]
              rfl
            · rw [if_neg hblank, if_neg fun hblank' => hblank (hfile.mpr hblank')]
              trivial

/-- The variables alone say what is required, what is true and how long the interval is. -/
theorem alike_of_get {α : Type} (read : Environment → Except Failure α)
    (hread : ∀ environ readText, read { environ with readText } = read environ)
    (h : SameButSecrets first second) : Alike Eq (read first) (read second) := by
  have hsame : { second with readText := first.readText } = first := by
    rw [← h.get]
  rw [← hsame, hread]
  exact .refl _

theorem fromEnv_alike (h : SameButSecrets first second) :
    Alike (fun settings settings' => settings.shown = settings'.shown)
      (fromEnv first) (fromEnv second) := by
  have hsecret := readSecretFile_alike h
  rw [fromEnv, fromEnv, h.get]
  split
  next => rfl
  next =>
    refine (alike_of_get readInterval (fun _ _ => rfl) h).bind ?_
    rintro interval _ rfl
    refine (hsecret _).bind fun _ _ _ => ?_
    dsimp only
    split
    next =>
      refine (alike_of_get (required "BMC_HOST") (fun _ _ => rfl) h).bind ?_
      rintro bmcHost _ rfl
      refine (hsecret _).bind fun _ _ _ => (hsecret _).bind fun _ _ _ => ?_
      refine (alike_of_get (fun environ => boolOf "BMC_TLS_VERIFY" environ true)
        (fun _ _ => rfl) h).bind ?_
      rintro bmcVerifyTls _ rfl
      refine (alike_of_get (required "TRUENAS_HOST") (fun _ _ => rfl) h).bind ?_
      rintro truenasHost _ rfl
      refine (hsecret _).bind fun _ _ _ => (hsecret _).bind fun _ _ _ => ?_
      refine (alike_of_get (fun environ => boolOf "TRUENAS_TLS_VERIFY" environ true)
        (fun _ _ => rfl) h).bind ?_
      rintro truenasVerifyTls _ rfl
      rfl
    next => rfl

theorem readSecretFile_expected {name : String}
    (hname : ∀ text ∈ secretMessages name, text ∈ messages) :
    RaisesOnly (Expected environ) (readSecretFile name environ) := by
  have hrefusal {text : String} (htext : text ∈ secretMessages name) :
      Expected environ (configError text) :=
    .inl ⟨text, hname text htext, rfl⟩
  rw [readSecretFile]
  split
  next => exact .error (hrefusal (by simp [secretMessages]))
  next =>
    split
    next => exact .error (hrefusal (by simp [secretMessages]))
    next hother hread => exact .error (.inr ⟨_, hread, fun hos => hother hos⟩)
    next =>
      split
      next => exact .error (hrefusal (by simp [secretMessages]))
      next => exact .ok _

theorem required_expected {name : String} (hname : name ++ " is required" ∈ messages) :
    RaisesOnly (Expected environ) (required name environ) := by
  rw [required]
  split
  next => exact .error (.inl ⟨_, hname, rfl⟩)
  next => exact .ok _

theorem boolOf_expected {name : String} (hname : name ++ " must be true or false" ∈ messages)
    (default : Bool) : RaisesOnly (Expected environ) (boolOf name environ default) := by
  rw [boolOf]
  split
  next => exact .ok _
  next =>
    dsimp only
    split
    next => exact .ok _
    next =>
      split
      next => exact .ok _
      next => exact .error (.inl ⟨_, hname, rfl⟩)

theorem readInterval_expected : RaisesOnly (Expected environ) (readInterval environ) := by
  rw [readInterval]
  split
  next => exact .error (.inl ⟨_, by decide, rfl⟩)
  next =>
    split
    next => exact .error (.inl ⟨_, by decide, rfl⟩)
    next => exact .ok _

theorem fromEnv_expected : RaisesOnly (Expected environ) (fromEnv environ) := by
  rw [fromEnv]
  split
  next => exact .error (.inl ⟨_, by decide, rfl⟩)
  next =>
    refine readInterval_expected.bind fun _ =>
      (readSecretFile_expected (by decide)).bind fun _ => ?_
    dsimp only
    split
    next =>
      exact (required_expected (by decide)).bind fun _ =>
        (readSecretFile_expected (by decide)).bind fun _ =>
          (readSecretFile_expected (by decide)).bind fun _ =>
            (boolOf_expected (by decide) true).bind fun _ =>
              (required_expected (by decide)).bind fun _ =>
                (readSecretFile_expected (by decide)).bind fun _ =>
                  (readSecretFile_expected (by decide)).bind fun _ =>
                    (boolOf_expected (by decide) true).bind fun _ => .ok _
    next => exact .ok _

/-- With the same variables, and files that are as readable and as blank, the settings are refused
alike, or they are accepted and `repr` shows the same; and a refusal says one of a few texts, or
it is what reading a file raised and is no `OSError`. -/
theorem fromEnv_conceals (h : SameButSecrets first second) :
    Alike (fun settings settings' => settings.shown = settings'.shown)
        (fromEnv first) (fromEnv second) ∧
      RaisesOnly (Expected first) (fromEnv first) :=
  ⟨fromEnv_alike h, fromEnv_expected⟩

/-- The environment of half a second with another token. -/
def otherToken : Environment :=
  { environmentOf "0.5" with readText := fun _ => .ok "another\n".toList }

/-- Settings with two tokens show the same. -/
theorem fromEnv_conceals_tokens :
    Alike (fun settings settings' => settings.shown = settings'.shown)
        (fromEnv (environmentOf "0.5")) (fromEnv otherToken) ∧
      RaisesOnly (Expected (environmentOf "0.5")) (fromEnv (environmentOf "0.5")) := by
  apply fromEnv_conceals
  constructor
  · rfl
  · intro path
    show strip "token\n".toList = [] ↔ strip "another\n".toList = []
    decide

end Agent

end TrueFan
