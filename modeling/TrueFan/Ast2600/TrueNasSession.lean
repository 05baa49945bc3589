/-
# The session with TrueNAS, call by call

Whatever the connector and the socket do, and wherever they raise, the calls the client makes of
them follow one protocol: it connects, logs in, asks for the temperatures only after a reply
that says the login succeeded, and closes the socket it opened once, last, on every way out. It
returns a reading only after the whole exchange, and what it raises is a text of its own unless
sending or closing raised it.

The calls are watched by a client that keeps a log of them with what came of each.
-/

import TrueFan.Ast2600.TrueNas

namespace TrueFan

open Python Foundations

/-- A call of the connector or the socket, and what came of it. -/
inductive SocketCall
  | connect (connected : Bool)
  | send (message : Json) (sent : Bool)
  | recv (reply : Option Json)
  | close (closed : Bool)

/-- A method that keeps a log of its calls. -/
def watching {Socket α : Type} (call : Option α → SocketCall) (method : EStateM Failure Socket α) :
    EStateM Failure (Socket × List SocketCall) α := fun state =>
  match method state.1 with
  | .ok value socket => .ok value (socket, state.2 ++ [call (some value)])
  | .error error socket => .error error (socket, state.2 ++ [call none])

namespace TrueNasTemperatureClient

variable {Socket : Type}

/-- The client with a log of the calls it makes, oldest first. -/
def watched (client : TrueNasTemperatureClient Socket) :
    TrueNasTemperatureClient (Socket × List SocketCall) where
  username := client.username
  password := client.password
  connect := watching (fun connected => .connect connected.isSome) client.connect
  send message := watching (fun sent => .send message sent.isSome) (client.send message)
  recv := watching .recv client.recv
  close := watching (fun closed => .close closed.isSome) client.close

/-- The request of `_rpc`. -/
def request (requestId : ℤ) (method : String) (params : Json) : Json :=
  .object [("jsonrpc", .str "2.0"), ("id", .int requestId), ("method", .str method),
    ("params", params)]

/-- What `_rpc` makes of a reply. -/
def resultOf (requestId : ℤ) : Json → Except Failure Json
  | .object response =>
      if !Json.equalsInt requestId (Json.get response "id") then
        .error (.sensorError "truenas_invalid_response")
      else if !(Json.get response "error").isNull then .error (.sensorError "truenas_rpc_failed")
      else
        match response.lookup "result" with
        | none => .error (.sensorError "truenas_invalid_response")
        | some result => .ok result
  | _ => .error (.sensorError "truenas_invalid_response")

def loginRequest (client : TrueNasTemperatureClient Socket) : Json :=
  request 1 "auth.login_ex" client.credentials

def disksRequest : Json := request 2 "disk.temperatures" (.array [.array []])

/-- The reply says that the login succeeded. -/
def LoggedIn (reply : Json) : Prop :=
  ∃ authResult, resultOf 1 reply = .ok authResult ∧ authSucceeded authResult = true

/-- The texts the client raises. -/
def texts : List String :=
  ["truenas_connect_failed", "truenas_invalid_response", "truenas_rpc_failed",
    "truenas_auth_failed", "truenas_invalid_temperatures"]

/-- The error is one of the client's own, or the one of a value beyond the range of floats. -/
def Sanitized (error : Failure) : Prop :=
  (∃ text ∈ texts, error = .sensorError text) ∨ error = .overflowError

/-- The exchange on an open socket, up to the call at which it ended. -/
inductive Exchange (login : Json) : List SocketCall → Prop
  | loginUnsent : Exchange login [.send login false]
  | loginRefused {reply : Option Json} (refused : ∀ answer ∈ reply, ¬ LoggedIn answer) :
      Exchange login [.send login true, .recv reply]
  | disksUnsent {reply : Json} (loggedIn : LoggedIn reply) :
      Exchange login [.send login true, .recv (some reply), .send disksRequest false]
  | asked {reply : Json} (loggedIn : LoggedIn reply) (answer : Option Json) :
      Exchange login
        [.send login true, .recv (some reply), .send disksRequest true, .recv answer]

/-- All calls of one fetch. -/
inductive Session (login : Json) : List SocketCall → Prop
  | unconnected : Session login [.connect false]
  | closed {calls : List SocketCall} (exchange : Exchange login calls) (closed : Bool) :
      Session login (.connect true :: calls ++ [.close closed])

section

variable (client : TrueNasTemperatureClient Socket)

theorem rpc_eq (requestId : ℤ) (method : String) (params : Json) :
    client.rpc requestId method params = (do
      client.send (request requestId method params)
      match ← attempt client.recv with
      | some reply => ofExcept (resultOf requestId reply)
      | none => throw (.sensorError "truenas_invalid_response")) := by
  rw [rpc]
  apply bind_congr
  intro _
  apply bind_congr
  intro received
  cases received with
  | none => rfl
  | some reply =>
      cases reply with
      | object response =>
          dsimp only [resultOf]
          split
          · rfl
          · split
            · rfl
            · cases response.lookup "result" with
              | none => rfl
              | some result => rfl
      | _ => rfl

/-- A call of the watched client: it could not be sent, or no reply came, or the reply decides
how it ends. -/
theorem rpc_watched (requestId : ℤ) (method : String) (params : Json) (socket : Socket)
    (calls : List SocketCall) :
    (∃ error after, client.watched.rpc requestId method params (socket, calls) =
      .error error (after, calls ++ [.send (request requestId method params) false])) ∨
    (∃ after, client.watched.rpc requestId method params (socket, calls) =
      .error (.sensorError "truenas_invalid_response")
        (after, calls ++ [.send (request requestId method params) true, .recv none])) ∨
    ∃ reply after, client.watched.rpc requestId method params (socket, calls) =
      (ofExcept (resultOf requestId reply) : EStateM Failure (Socket × List SocketCall) Json)
        (after, calls ++ [.send (request requestId method params) true, .recv (some reply)]) := by
  rw [rpc_eq]
  cases hsend : client.send (request requestId method params) socket with
  | error error after =>
      have hwatched : client.watched.send (request requestId method params) (socket, calls) =
          .error error
            (after, calls ++ [.send (request requestId method params) false]) := by
        simp only [watched, watching, hsend]
        rfl
      exact .inl ⟨error, after, bind_of_error hwatched⟩
  | ok done between =>
      have hwatched : client.watched.send (request requestId method params) (socket, calls) =
          .ok done (between, calls ++ [.send (request requestId method params) true]) := by
        simp only [watched, watching, hsend]
        rfl
      right
      rw [bind_of_ok hwatched]
      cases hrecv : client.recv between with
      | error error after =>
          have hreceived : attempt client.watched.recv
              (between, calls ++ [.send (request requestId method params) true]) = .ok none
                (after, calls ++ [.send (request requestId method params) true, .recv none]) := by
            simp only [attempt, watched, watching, hrecv, List.append_assoc,
              List.singleton_append]
          rw [bind_of_ok hreceived]
          exact .inl ⟨after, rfl⟩
      | ok reply after =>
          have hreceived : attempt client.watched.recv
              (between, calls ++ [.send (request requestId method params) true]) =
                .ok (some reply)
                  (after, calls ++
                    [.send (request requestId method params) true, .recv (some reply)]) := by
            simp only [attempt, watched, watching, hrecv, List.append_assoc,
              List.singleton_append]
          rw [bind_of_ok hreceived]
          exact .inr ⟨reply, after, rfl⟩

/-- What is made of a reply raises only the client's own texts. -/
theorem text_of_resultOf {requestId : ℤ} {reply : Json} {error : Failure}
    (h : resultOf requestId reply = .error error) : ∃ text ∈ texts, error = .sensorError text := by
  have hinvalid : ∃ text ∈ texts, Failure.sensorError "truenas_invalid_response" =
      .sensorError text := ⟨_, by decide, rfl⟩
  cases reply with
  | object response =>
      dsimp only [resultOf] at h
      split at h
      next =>
        cases h
        exact hinvalid
      next =>
        split at h
        next =>
          cases h
          exact ⟨"truenas_rpc_failed", by decide, rfl⟩
        next =>
          split at h
          next =>
            cases h
            exact hinvalid
          next => cases h
  | _ =>
      cases h
      exact hinvalid

/-- What an exchange owes to its result: a value is the result of the answer to the second
request, and an error is one of the client's own texts unless a message could not be sent. -/
structure Exchanged (client : TrueNasTemperatureClient Socket) (calls made : List SocketCall)
    (result : EStateM.Result Failure (Socket × List SocketCall) Json) : Prop where
  log : (resultState result).2 = calls ++ made
  exchange : Exchange client.loginRequest made
  value : ∀ value after, result = .ok value after → ∃ reply answer,
    made = [.send client.loginRequest true, .recv (some reply), .send disksRequest true,
      .recv (some answer)] ∧ LoggedIn reply ∧ resultOf 2 answer = .ok value
  error : ∀ error after, result = .error error after →
    (∃ text ∈ texts, error = .sensorError text) ∨ ∃ message, .send message false ∈ made

theorem exchanged_error {calls made : List SocketCall} {error : Failure}
    {after : Socket × List SocketCall} (log : after.2 = calls ++ made)
    (exchange : Exchange client.loginRequest made)
    (hreason : (∃ text ∈ texts, error = .sensorError text) ∨
      ∃ message, .send message false ∈ made) :
    client.Exchanged calls made (.error error after) where
  log := log
  exchange := exchange
  value _ _ heq := by cases heq
  error _ _ heq := by
    cases heq
    exact hreason

/-- The second request, made after a login that succeeded. -/
theorem disks_watched {reply : Json} (loggedIn : LoggedIn reply) (socket : Socket)
    (calls : List SocketCall) :
    ∃ made, client.Exchanged calls made
      (client.watched.rpc 2 "disk.temperatures" (.array [.array []])
        (socket, calls ++ [.send client.loginRequest true, .recv (some reply)])) := by
  rcases client.rpc_watched 2 "disk.temperatures" (.array [.array []]) socket
      (calls ++ [.send client.loginRequest true, .recv (some reply)]) with
    ⟨error, after, h⟩ | ⟨after, h⟩ | ⟨answer, after, h⟩
  · rw [h]
    exact ⟨_, client.exchanged_error (List.append_assoc _ _ _) (.disksUnsent loggedIn)
      (.inr ⟨disksRequest, List.mem_append_right _ List.mem_cons_self⟩)⟩
  · rw [h]
    exact ⟨_, client.exchanged_error (List.append_assoc _ _ _) (.asked loggedIn none)
      (.inl ⟨"truenas_invalid_response", by decide, rfl⟩)⟩
  · rw [h]
    cases hresult : resultOf 2 answer with
    | error error =>
        exact ⟨_, client.exchanged_error (List.append_assoc _ _ _) (.asked loggedIn (some answer))
          (.inl (text_of_resultOf hresult))⟩
    | ok result =>
        refine ⟨_, List.append_assoc _ _ _, .asked loggedIn (some answer), fun _ _ heq => ?_,
          nofun⟩
        cases heq
        exact ⟨reply, answer, rfl, loggedIn, hresult⟩

/-- The part of a fetch on an open socket is an exchange. -/
theorem session_watched (socket : Socket) (calls : List SocketCall) :
    ∃ made, client.Exchanged calls made (client.watched.session (socket, calls)) := by
  rw [session]
  rcases client.rpc_watched 1 "auth.login_ex" client.credentials socket calls with
    ⟨error, after, h⟩ | ⟨after, h⟩ | ⟨reply, after, h⟩
  · have hlogin : client.watched.rpc 1 "auth.login_ex" client.watched.credentials
        (socket, calls) = .error error (after, calls ++ [.send client.loginRequest false]) := h
    rw [bind_of_error hlogin]
    exact ⟨_, client.exchanged_error rfl .loginUnsent (.inr ⟨_, List.mem_cons_self⟩)⟩
  · have hlogin : client.watched.rpc 1 "auth.login_ex" client.watched.credentials
        (socket, calls) = .error (.sensorError "truenas_invalid_response")
          (after, calls ++ [.send client.loginRequest true, .recv none]) := h
    rw [bind_of_error hlogin]
    exact ⟨_, client.exchanged_error rfl (.loginRefused fun _ h => by cases h)
      (.inl ⟨"truenas_invalid_response", by decide, rfl⟩)⟩
  · have hlogin : client.watched.rpc 1 "auth.login_ex" client.watched.credentials
        (socket, calls) =
          (ofExcept (resultOf 1 reply) : EStateM Failure (Socket × List SocketCall) Json)
            (after, calls ++ [.send client.loginRequest true, .recv (some reply)]) := h
    cases hresult : resultOf 1 reply with
    | error error =>
        have hrefused : ∀ answer ∈ some reply, ¬ LoggedIn answer := by
          rintro answer hanswer ⟨authResult, hok, -⟩
          cases hanswer
          rw [hresult] at hok
          cases hok
        rw [hresult] at hlogin
        rw [bind_of_error hlogin]
        exact ⟨_, client.exchanged_error rfl (.loginRefused hrefused)
          (.inl (text_of_resultOf hresult))⟩
    | ok authResult =>
        rw [hresult] at hlogin
        rw [bind_of_ok hlogin]
        cases hsucceeded : authSucceeded authResult with
        | true => exact client.disks_watched ⟨authResult, hresult, hsucceeded⟩ after calls
        | false =>
            have hrefused : ∀ answer ∈ some reply, ¬ LoggedIn answer := by
              rintro answer hanswer ⟨other, hok, htrue⟩
              cases hanswer
              rw [hresult] at hok
              cases hok
              rw [hsucceeded] at htrue
              cases htrue
            exact ⟨_, client.exchanged_error rfl (.loginRefused hrefused)
              (.inl ⟨"truenas_auth_failed", by decide, rfl⟩)⟩

omit client in
theorem shadows_watching {α : Type} (call : Option α → SocketCall)
    (method : EStateM Failure Socket α) : Shadows Prod.fst (watching call method) method := by
  intro state
  rw [watching]
  cases method state.1 with
  | ok value socket => rfl
  | error error socket => rfl

theorem shadows_rpc (requestId : ℤ) (method : String) (params : Json) :
    Shadows Prod.fst (client.watched.rpc requestId method params)
      (client.rpc requestId method params) := by
  have hsend : Shadows Prod.fst (client.watched.send (request requestId method params))
      (client.send (request requestId method params)) :=
    shadows_watching (fun sent => .send (request requestId method params) sent.isSome) _
  have hrecv : Shadows Prod.fst client.watched.recv client.recv := shadows_watching _ _
  rw [rpc_eq, rpc_eq]
  apply hsend.bind
  intro _
  apply hrecv.attempt.bind
  intro received
  cases received with
  | none => exact .throw _
  | some reply => exact .ofExcept _

theorem shadows_session : Shadows Prod.fst client.watched.session client.session := by
  apply (client.shadows_rpc 1 "auth.login_ex" client.credentials).bind
  intro authResult
  cases authSucceeded authResult with
  | true => exact client.shadows_rpc 2 "disk.temperatures" (.array [.array []])
  | false => exact .throw _

/-- The watched client does what the client does. -/
theorem shadows_fetch (lower : List Char → List Char) :
    Shadows Prod.fst (client.watched.fetch lower) (client.fetch lower) := by
  have hconnect : Shadows Prod.fst client.watched.connect client.connect :=
    shadows_watching (fun connected => .connect connected.isSome) _
  have hclose : Shadows Prod.fst client.watched.close client.close :=
    shadows_watching (fun closed => .close closed.isSome) _
  apply hconnect.attempt.bind
  intro connected
  cases connected with
  | none => exact .throw _
  | some _ =>
      apply (client.shadows_session.andFinally hclose).bind
      intro result
      cases result with
      | object temperatures => exact .ofExcept _
      | _ => exact .throw _

/-! ## A fetch -/

/-- Evaluating a result object raises only for a value beyond the range of floats. -/
theorem overflow_of_temperaturesOf {lower : List Char → List Char}
    {temperatures : List (String × Json)} {error : Failure}
    (h : temperaturesOf lower temperatures = .error error) : error = .overflowError := by
  have hstep (drives : List (String × PyFloat)) (entry : String × Json) :
      takeDrive drives entry =
        if ¬ Oversized entry.2 then
          .ok ((taken entry.2).elim drives fun value => assign entry.1 value drives)
        else .error .overflowError := by
    rw [takeDrive, bind_convert]
    cases taken entry.2 with
    | none => rfl
    | some value => rfl
  rw [temperaturesOf, foldlM_eq_ite hstep] at h
  split at h
  next => cases h
  next =>
    cases h
    rfl

/-- What a fetch owes to its calls: they are a session, a reading is that of the whole exchange
on a socket that could be closed, and an error is one of the client's own unless sending or
closing raised it. -/
structure Orderly (lower : List Char → List Char)
    (result : EStateM.Result Failure (Socket × List SocketCall) TrueNasReading) : Prop where
  session : Session client.loginRequest (resultState result).2
  reading : ∀ reading after, result = .ok reading after → ∃ reply answer temperatures,
    after.2 = [.connect true, .send client.loginRequest true, .recv (some reply),
      .send disksRequest true, .recv (some answer), .close true] ∧
    LoggedIn reply ∧ resultOf 2 answer = .ok (.object temperatures) ∧
    temperaturesOf lower temperatures = .ok reading
  raised : ∀ error after, result = .error error after →
    Sanitized error ∨ (∃ message, .send message false ∈ after.2) ∨ .close false ∈ after.2

theorem close_watched (socket : Socket) (calls : List SocketCall) :
    (∃ after, client.watched.close (socket, calls) =
      .ok () (after, calls ++ [.close true])) ∨
    ∃ error after, client.watched.close (socket, calls) =
      .error error (after, calls ++ [.close false]) := by
  cases h : client.close socket with
  | ok done after =>
      left
      refine ⟨after, ?_⟩
      simp only [watched, watching, h]
      rfl
  | error error after =>
      right
      refine ⟨error, after, ?_⟩
      simp only [watched, watching, h]
      rfl

/-- A fetch that raised is orderly if the session was, and the error has its reason. -/
theorem orderly_error {lower : List Char → List Char} {error : Failure}
    {after : Socket × List SocketCall} (session : Session client.loginRequest after.2)
    (hreason : Sanitized error ∨ (∃ message, .send message false ∈ after.2) ∨
      .close false ∈ after.2) :
    client.Orderly lower (.error error after) where
  session := session
  reading _ _ heq := by cases heq
  raised _ _ heq := by
    cases heq
    exact hreason

/-- What comes after an exchange: the socket is closed, and the result is evaluated. -/
theorem orderly_of_exchanged (lower : List Char → List Char) {state : Socket × List SocketCall}
    {made : List SocketCall} (exchanged : client.Exchanged [.connect true] made
      (client.watched.session state)) :
    client.Orderly lower ((do
      match ← andFinally client.watched.session client.watched.close with
      | .object temperatures => ofExcept (temperaturesOf lower temperatures)
      | _ => throw (.sensorError "truenas_invalid_temperatures") :
        EStateM Failure (Socket × List SocketCall) TrueNasReading) state) := by
  have hclosed (closed : Bool) :
      Session client.loginRequest (.connect true :: made ++ [.close closed]) :=
    .closed exchanged.exchange closed
  obtain ⟨between, hbetween⟩ :
      ∃ between, resultState (client.watched.session state) = (between, .connect true :: made) :=
    ⟨_, Prod.ext rfl exchanged.log⟩
  rcases client.close_watched between (.connect true :: made) with
    ⟨after, hclose⟩ | ⟨error, after, hclose⟩
  · cases hsession : client.watched.session state with
    | error error between' =>
        rw [hsession, resultState_error] at hbetween
        subst hbetween
        rw [bind_of_error (andFinally_of_error hsession hclose)]
        apply client.orderly_error (hclosed true)
        rcases exchanged.error _ _ hsession with htext | ⟨message, hmem⟩
        · exact .inl (.inl htext)
        · exact .inr (.inl ⟨message, List.mem_append_left _ (List.mem_cons_of_mem _ hmem)⟩)
    | ok value between' =>
        rw [hsession, resultState_ok] at hbetween
        subst hbetween
        rw [bind_of_ok (andFinally_of_ok hsession hclose)]
        obtain ⟨reply, answer, hmade, hloggedIn, hanswer⟩ := exchanged.value _ _ hsession
        cases hvalue : value with
        | object temperatures =>
            rw [hvalue] at hanswer
            dsimp only
            cases hreading : temperaturesOf lower temperatures with
            | error error =>
                apply client.orderly_error (hclosed true)
                exact .inl (.inr (overflow_of_temperaturesOf hreading))
            | ok reading =>
                refine ⟨hclosed true, ?_, ?_⟩
                · intro reading after heq
                  cases heq
                  refine ⟨reply, answer, temperatures, ?_, hloggedIn, hanswer, hreading⟩
                  rw [hmade]
                  rfl
                · intro error after heq
                  cases heq
        | _ =>
            apply client.orderly_error (hclosed true)
            exact .inl (.inl ⟨"truenas_invalid_temperatures", by decide, rfl⟩)
  · have hlast : client.watched.close (resultState (client.watched.session state)) =
        .error error (after, .connect true :: made ++ [.close false]) := by
      rw [hbetween]
      exact hclose
    rw [bind_of_error (andFinally_of_last_error hlast)]
    apply client.orderly_error (hclosed false)
    exact .inr (.inr (List.mem_append_right _ List.mem_cons_self))

/-- Every fetch is a session, whatever the connector and the socket do. -/
theorem fetch_orderly (lower : List Char → List Char) (socket : Socket) :
    mapState Prod.fst (client.watched.fetch lower (socket, [])) = client.fetch lower socket ∧
      client.Orderly lower (client.watched.fetch lower (socket, [])) := by
  refine ⟨client.shadows_fetch lower (socket, []), ?_⟩
  rw [fetch]
  cases hconnect : client.connect socket with
  | error error after =>
      have hattempt : attempt client.watched.connect (socket, []) =
          .ok none (after, [.connect false]) := by
        simp only [attempt, watched, watching, hconnect]
        rfl
      rw [bind_of_ok hattempt]
      refine ⟨.unconnected, ?_, ?_⟩
      · intro reading after heq
        cases heq
      · intro error after heq
        cases heq
        exact .inl (.inl ⟨"truenas_connect_failed", by decide, rfl⟩)
  | ok done after =>
      have hattempt : attempt client.watched.connect (socket, []) =
          .ok (some done) (after, [.connect true]) := by
        simp only [attempt, watched, watching, hconnect]
        rfl
      rw [bind_of_ok hattempt]
      obtain ⟨made, exchanged⟩ := client.session_watched after [.connect true]
      exact client.orderly_of_exchanged lower exchanged

end

end TrueNasTemperatureClient

end TrueFan
