/-
# The container of the agent

A shell script starts the container, and a small program asks it for its health. The script
looks at the files of the secrets before the agent does, and the program reads the file of the
token after it; both take the path from the variable as it stands, which the agent strips. The
shell also takes a slash or a dot at the end of a path for a directory, which `Path` drops.

Where no path of a secret has blanks around it or ends that way the three agree: what the agent
accepts, the script lets start, and the program is let in by the agent, so that it reports what
the service says.
-/

import TrueFan.Agent.Settings
import TrueFan.Core.Status

namespace TrueFan

open Python

namespace Agent

/-- The path does not end in a slash or a dot, which the shell would take for a directory. -/
def NamesFile (path : List Char) : Prop := path.getLast? ≠ some '/' ∧ path.getLast? ≠ some '.'

/-- A container: its environment, and what the shell finds of a path, `[ -r path ]` and
`[ -s path ]`. A regular file with a text in it is found to be both; what is read from a pipe
is in no file of any size, so secrets are taken to lie in regular files. -/
structure Container where
  environ : Environment
  readable : List Char → Bool
  sized : List Char → Bool
  tests : ∀ {path content}, NamesFile path → environ.readText path = .ok content →
    content ≠ [] → readable path = true ∧ sized path = true

/-- What the script comes to. -/
inductive Launch
  | exits (code : ℕ) (message : String)
  | core
  | agent
  deriving DecidableEq, Repr

/-- Whom the health check asks, with the authorization it presents. -/
inductive Probe
  | core
  | agent (authorization : List Char)
  deriving DecidableEq

namespace Container

variable (container : Container)

/-- `${name:-default}`. -/
def expand (name : String) (default : List Char) : List Char :=
  let value := (container.environ.get name).getD []
  if value = [] then default else value

/-- The test of `require_secret_file`. -/
def secretAvailable (name : String) : Bool :=
  let path := container.expand name []
  path ≠ [] && container.readable path && container.sized path

/-- `require_secret_file` of one name after the other. -/
def requireSecretFiles (names : List String) (launch : Launch) : Launch :=
  match names.find? fun name => !container.secretAvailable name with
  | some name => .exits 1 ("[truefan] required secret file is unavailable: " ++ name)
  | none => launch

def bmcSecrets : List String :=
  ["BMC_USER_FILE", "BMC_PASSWORD_FILE", "TRUENAS_USER_FILE", "TRUENAS_PASSWORD_FILE"]

/-- The names of all secrets of the agent. -/
def secretNames : List String := "TRUEFAN_AGENT_SECRET_FILE" :: bmcSecrets

/-- `entrypoint.sh`. -/
def entrypoint : Launch :=
  let component := container.expand "TRUEFAN_COMPONENT" "truefan-core".toList
  if component = "truefan-core".toList then
    container.requireSecretFiles ["CONTROL_AGENT_TOKEN_FILE", "TRUEFAN_UI_WRITE_TOKEN_FILE"] .core
  else if component = "truefan-control".toList then
    container.requireSecretFiles
      ("TRUEFAN_AGENT_SECRET_FILE" ::
        if container.expand "TRUEFAN_BACKEND" "hwmon_pwm".toList = "ast2600_ipmi".toList then
          bmcSecrets
        else [])
      .agent
  else .exits 2 "[truefan] TRUEFAN_COMPONENT must be truefan-core or truefan-control"

/-- The request of `healthcheck.py`, unless it exits before it. -/
def probe : Option Probe :=
  if (container.environ.get "TRUEFAN_COMPONENT").getD "truefan-core".toList =
      "truefan-control".toList then
    match container.environ.get "TRUEFAN_AGENT_SECRET_FILE" with
    | none => none
    | some path =>
        match container.environ.readText path with
        | .error _ => none -- what is not caught ends the program as well
        | .ok content => some (.agent (Core.bearer ++ strip content))
  else some .core

/-- `response.status == 200 and isinstance(payload, dict)`; an error is raised. -/
def wellAnswered (reply : HttpReply) : Bool :=
  reply.statusCode = 200 &&
    match reply.body with
    | .object _ => true
    | _ => false

variable {Hardware : Type}

/-- Whether `healthcheck.py` exits with 0 next to an agent that answers within its three seconds.
`send` is what becomes of the value of a header, which the library may refuse. -/
def healthcheck (send : List Char → Option (List Char)) (app : App Hardware) (clock : Clock)
    (service : ControlService Hardware) : Bool × ControlService Hardware :=
  match container.probe with
  | some (.agent authorization) =>
      match send authorization with
      | none => (false, service)
      | some received =>
          let (reply, after) := app.handle clock received .status service
          (wellAnswered reply, after)
  | _ => (false, service)

end Container

variable {environ : Environment} {settings : Settings}

/-- A secret that was read is what a file holds, and not blank. -/
theorem readSecretFile_eq_ok {name : String} {value : List Char}
    (h : readSecretFile name environ = .ok value) :
    ∃ content, environ.readText (strip ((environ.get name).getD [])) = .ok content ∧
      strip ((environ.get name).getD []) ≠ [] ∧ strip content ≠ [] ∧ strip content = value := by
  rw [readSecretFile] at h
  split at h
  next => cases h
  next hpath =>
    split at h
    next => cases h
    next => cases h
    next content hread =>
      split at h
      next => cases h
      next hblank =>
        cases h
        exact ⟨content, hread, hpath, hblank, rfl⟩

/-- Accepted settings hold the token; and for the board all other secrets were read. -/
theorem secrets_of_fromEnv (h : fromEnv environ = .ok settings) :
    readSecretFile "TRUEFAN_AGENT_SECRET_FILE" environ = .ok settings.agentToken ∧
      (environ.get "TRUEFAN_BACKEND" = some "ast2600_ipmi".toList →
        ∀ name ∈ Container.bmcSecrets, ∃ value, readSecretFile name environ = .ok value) := by
  rw [fromEnv] at h
  split at h
  next => cases h
  next =>
    obtain ⟨interval, -, h⟩ := bind_except_eq_ok h
    obtain ⟨token, htoken, h⟩ := bind_except_eq_ok h
    rw [htoken]
    dsimp only at h
    split at h
    next =>
      obtain ⟨_, -, h⟩ := bind_except_eq_ok h
      obtain ⟨bmcUser, hbmcUser, h⟩ := bind_except_eq_ok h
      obtain ⟨bmcPassword, hbmcPassword, h⟩ := bind_except_eq_ok h
      obtain ⟨_, -, h⟩ := bind_except_eq_ok h
      obtain ⟨_, -, h⟩ := bind_except_eq_ok h
      obtain ⟨truenasUser, htruenasUser, h⟩ := bind_except_eq_ok h
      obtain ⟨truenasPassword, htruenasPassword, h⟩ := bind_except_eq_ok h
      obtain ⟨_, -, h⟩ := bind_except_eq_ok h
      cases h
      refine ⟨rfl, fun _ => ?_⟩
      rw [Container.bmcSecrets, List.forall_mem_cons, List.forall_mem_cons, List.forall_mem_cons,
        List.forall_mem_singleton]
      exact ⟨⟨bmcUser, hbmcUser⟩, ⟨bmcPassword, hbmcPassword⟩, ⟨truenasUser, htruenasUser⟩,
        ⟨truenasPassword, htruenasPassword⟩⟩
    next hother =>
      cases h
      refine ⟨rfl, fun hbackend => absurd ?_ hother⟩
      rw [hbackend]
      decide

namespace Container

variable {container : Container}

/-- The paths of the secrets have no blanks around them, and name files. -/
def Plain (environ : Environment) : Prop :=
  ∀ name ∈ secretNames, ∀ path, environ.get name = some path → strip path = path ∧ NamesFile path

theorem strip_getD (plain : Plain environ) {name : String} (hname : name ∈ secretNames) :
    strip ((environ.get name).getD []) = (environ.get name).getD [] := by
  cases h : environ.get name with
  | none => rfl
  | some path => exact (plain name hname path h).1

/-- A secret the agent reads is available to the script. -/
theorem secretAvailable_of_readSecretFile (plain : Plain container.environ) {name : String}
    (hname : name ∈ secretNames) {value : List Char}
    (h : readSecretFile name container.environ = .ok value) :
    container.secretAvailable name = true := by
  obtain ⟨content, hread, hpath, hblank, -⟩ := readSecretFile_eq_ok h
  rw [strip_getD plain hname] at hread hpath
  have hfile : NamesFile ((container.environ.get name).getD []) := by
    cases hget : container.environ.get name with
    | none =>
        rw [hget] at hpath
        exact absurd rfl hpath
    | some path => exact (plain name hname path hget).2
  have hcontent : content ≠ [] := by
    rintro rfl
    exact hblank rfl
  have htests := container.tests hfile hread hcontent
  have hexpand : container.expand name [] = (container.environ.get name).getD [] := by
    rw [expand]
    split
    next hempty => exact hempty.symm
    next => rfl
  rw [secretAvailable, hexpand, htests.1, htests.2]
  simpa using hpath

theorem requireSecretFiles_of_available {names : List String} {launch : Launch}
    (h : ∀ name ∈ names, container.secretAvailable name = true) :
    container.requireSecretFiles names launch = launch := by
  have hnone : names.find? (fun name => !container.secretAvailable name) = none := by
    rw [List.find?_eq_none]
    intro name hname
    rw [h name hname]
    exact Bool.false_ne_true
  rw [requireSecretFiles, hnone]

/-- What the agent accepts, the script lets start. -/
theorem entrypoint_of_accepted (plain : Plain container.environ)
    (component : container.environ.get "TRUEFAN_COMPONENT" = some "truefan-control".toList)
    (accepted : fromEnv container.environ = .ok settings) : container.entrypoint = .agent := by
  obtain ⟨htoken, hothers⟩ := secrets_of_fromEnv accepted
  have hcomponent : container.expand "TRUEFAN_COMPONENT" "truefan-core".toList =
      "truefan-control".toList := by
    rw [expand, component]
    rfl
  rw [entrypoint, hcomponent]
  apply requireSecretFiles_of_available
  intro name hname
  rcases List.mem_cons.mp hname with rfl | hname
  · exact secretAvailable_of_readSecretFile plain List.mem_cons_self htoken
  · split at hname
    next hbackend =>
      have hget : container.environ.get "TRUEFAN_BACKEND" = some "ast2600_ipmi".toList := by
        rw [expand] at hbackend
        cases hget : container.environ.get "TRUEFAN_BACKEND" with
        | none =>
            rw [hget] at hbackend
            exact absurd hbackend (by decide)
        | some value =>
            rw [hget] at hbackend
            dsimp only [Option.getD_some] at hbackend
            split at hbackend
            next => exact absurd hbackend (by decide)
            next => rw [hbackend]
      obtain ⟨value, hvalue⟩ := hothers hget name hname
      exact secretAvailable_of_readSecretFile plain (List.mem_cons_of_mem _ hname) hvalue
    next => cases hname

/-- The health check presents the token the agent was started with. -/
theorem probe_of_accepted (plain : Plain container.environ)
    (component : container.environ.get "TRUEFAN_COMPONENT" = some "truefan-control".toList)
    (accepted : fromEnv container.environ = .ok settings) :
    container.probe = some (.agent (Core.bearer ++ settings.agentToken)) := by
  obtain ⟨content, hread, hpath, -, htoken⟩ :=
    readSecretFile_eq_ok (secrets_of_fromEnv accepted).1
  rw [strip_getD plain List.mem_cons_self] at hread hpath
  rw [probe, component, Option.getD_some, if_pos rfl]
  cases hget : container.environ.get "TRUEFAN_AGENT_SECRET_FILE" with
  | none =>
      rw [hget] at hpath
      exact absurd rfl hpath
  | some path =>
      rw [hget, Option.getD_some] at hread
      dsimp only
      rw [hread]
      dsimp only
      rw [htoken]

end Container

/-- A secret is not empty, and has no blanks around it. -/
theorem strip_of_readSecretFile {name : String} {value : List Char}
    (h : readSecretFile name environ = .ok value) : value ≠ [] ∧ strip value = value := by
  obtain ⟨content, -, -, hblank, rfl⟩ := readSecretFile_eq_ok h
  exact ⟨hblank, strip_strip content⟩

/-! ## Health -/

/-- A printable character of ASCII. -/
def Printable (c : Char) : Prop := 32 ≤ c.toNat ∧ c.toNat < 127

theorem printable_iff_all {text : List Char} :
    (∀ c ∈ text, Printable c) ↔ text.all (fun c => 32 ≤ c.toNat && c.toNat < 127) = true := by
  simp [Printable]

/-- The client and the server of HTTP between them: printable text without blanks around it
arrives as it was sent. -/
def Sends (send : List Char → Option (List Char)) : Prop :=
  ∀ value, (∀ c ∈ value, Printable c) → strip value = value → send value = some value

/-- The agent lets in who presents its token. -/
theorem requireToken_bearer {token : List Char} (hne : token ≠ []) (hstrip : strip token = token)
    (printable : ∀ c ∈ token, Printable c) :
    requireToken (some token) (Core.bearer ++ token) = .ok .admitted := by
  have hascii : ((token ++ token).all fun c => decide (c.toNat < 128)) = true := by
    rw [List.all_append, Bool.and_self, List.all_eq_true]
    intro c hc
    have hc := (printable c hc).2
    exact decide_eq_true (by omega)
  have hcompare : Core.compareDigest token token = .ok true := by
    rw [Core.compareDigest, if_pos hascii, decide_eq_true rfl]
  have hbearer : Core.bearer.isPrefixOf (Core.bearer ++ token) = true :=
    List.isPrefixOf_iff_prefix.mpr (List.prefix_append _ _)
  rw [requireToken, Option.getD_some, if_neg (by simp [hbearer]), if_neg hne,
    List.drop_left, hstrip, hcompare]

theorem strip_bearer {token : List Char} (hne : token ≠ []) (hstrip : strip token = token) :
    strip (Core.bearer ++ token) = Core.bearer ++ token := by
  rw [strip_eq_self_iff]
  intro h
  rw [List.head_append_of_ne_nil (by decide : Core.bearer ≠ []),
    List.getLast_append_of_ne_nil h hne]
  exact ⟨by decide, (strip_eq_self_iff.mp hstrip hne).2⟩

namespace Container

variable {container : Container} {Hardware : Type} {send : List Char → Option (List Char)}
  {app : App Hardware} {clock : Clock} {service : ControlService Hardware}

/-- An answer is well if it is to an admitted request, and of a snapshot that is rendered. -/
theorem wellAnswered_iff (rendered : app.renderStatus = renderStatus) {authorization : List Char}
    (admitted : requireToken app.expectedToken authorization = .ok .admitted) :
    wellAnswered (app.handle clock authorization .status service).1 = true ↔
      ∃ snapshot after, ControlService.status app.backend clock service = .ok snapshot after ∧
        snapshot.backend.temperatures.AllFinite := by
  constructor
  · intro hwell
    cases hhandle : app.handle clock authorization .status service with
    | mk reply after =>
        rw [hhandle, wellAnswered, Bool.and_eq_true, decide_eq_true_eq] at hwell
        have hsuccess : reply.statusCode < 400 := by
          rw [hwell.1]
          decide
        obtain ⟨-, snapshot, body, hstatus, hrender⟩ :=
          Core.handle_status_of_success hhandle hsuccess
        refine ⟨snapshot, after, hstatus, ?_⟩
        rcases renderStatus_eq snapshot with ⟨-, finite⟩ | ⟨⟨message, herror⟩, -⟩
        · exact finite
        · rw [rendered, herror] at hrender
          cases hrender
  · rintro ⟨snapshot, after, hstatus, finite⟩
    rcases renderStatus_eq snapshot with ⟨hrender, -⟩ | ⟨-, hnot⟩
    · rw [Core.handle_status admitted, serve, bind_of_ok hstatus, rendered, hrender]
      rfl
    · exact absurd finite hnot

/-- A container of the agent, with a token file. -/
def ofToken : Container where
  environ := {
    environmentOf "0.5" with
    get := fun name =>
      if name = "TRUEFAN_COMPONENT" then some "truefan-control".toList
      else (environmentOf "0.5").get name }
  readable _ := true
  sized _ := true
  tests _ _ _ := ⟨rfl, rfl⟩

theorem plain_ofToken : Plain ofToken.environ := by
  intro name _ path h
  dsimp only [ofToken, environmentOf] at h
  split_ifs at h
  all_goals
    cases h
    exact ⟨by decide +kernel, by decide +kernel, by decide +kernel⟩

/-- The header goes through if nothing in it is a control character. -/
def sendPrintable (value : List Char) : Option (List Char) :=
  if value.all fun c => 32 ≤ c.toNat && c.toNat < 127 then some value else none

theorem sends_sendPrintable : Sends sendPrintable := by
  intro value printable _
  exact if_pos (printable_iff_all.mp printable)

end Container

end Agent

end TrueFan
