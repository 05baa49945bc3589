/-
# Bad input at the token checks and the body validators

The core and the agent compare the token a header presents with the configured one, and
the core asks the body for its members. The comparison takes ASCII only, and only an
object has members: exactly where one of the two is missing, a request that should be
refused, or accepted, ends in an exception instead.
-/

import TrueFan.Agent.Endpoints

namespace TrueFan

open Python

/-- What a header presents behind its scheme. -/
def presented (header : List Char) : List Char := strip (header.drop Core.bearer.length)

/-- The header carries the token. -/
def Carries (token header : List Char) : Prop :=
  Core.bearer <+: header ∧ presented header = token

/-- If the header presents a text, the comparison with the token takes it. -/
def Comparable (token header : List Char) : Prop :=
  Core.bearer <+: header → ∀ c ∈ presented header ++ token, c.toNat < 128

/-- The body has members, or reads as none. -/
def ObjectBody (body : Json) : Prop := body.truthy = true → ∃ members, body = .object members

/-- The comparison of ASCII texts tells whether they are equal. -/
theorem compareDigest_of_ascii {first second : List Char}
    (h : ∀ c ∈ first ++ second, c.toNat < 128) :
    Core.compareDigest first second = .ok (decide (first = second)) := by
  rw [Core.compareDigest]
  apply if_pos
  rw [List.all_eq_true]
  exact fun c hc => decide_eq_true (h c hc)

theorem compareDigest_of_not_ascii {first second : List Char}
    (h : ¬ ∀ c ∈ first ++ second, c.toNat < 128) :
    Core.compareDigest first second = .error .typeError := by
  rw [Core.compareDigest]
  apply if_neg
  rw [List.all_eq_true]
  exact fun hall => h fun c hc => of_decide_eq_true (hall c hc)

namespace Agent

/-- The agent's check admits, or refuses with one of its own answers. -/
def Decides (expectedToken header : List Char) : Prop :=
  ∃ check, requireToken (some expectedToken) header = .ok check ∧
    (check = .admitted ∨ ∃ statusCode detail, check = .refused statusCode detail ∧
      (statusCode = 401 ∨ statusCode = 403))

/-- The agent's check, given a token that is not empty. -/
theorem requireToken_eq {token header : List Char} (hne : token ≠ []) :
    requireToken (some token) header =
      if Core.bearer <+: header then
        match Core.compareDigest (presented header) token with
        | .error _ => .error .typeError
        | .ok false => .ok (.refused 403 "Invalid token")
        | .ok true => .ok .admitted
      else .ok (.refused 401 "Missing Bearer token") := by
  rw [requireToken, Option.getD_some]
  by_cases hscheme : Core.bearer <+: header
  · have hstarts := List.isPrefixOf_iff_prefix.mpr hscheme
    rw [if_pos hscheme, if_neg (by rw [hstarts]; decide), if_neg hne]
    rfl
  · have hstarts := Bool.eq_false_of_not_eq_true (mt List.isPrefixOf_iff_prefix.mp hscheme)
    rw [if_neg hscheme, if_pos hstarts]

/-- The agent's check decides, and admits exactly the headers that carry the token, exactly
if the comparison takes what the header presents. -/
theorem decides_iff_comparable {token header : List Char} (hne : token ≠ []) :
    (Decides token header ∧
      (requireToken (some token) header = .ok .admitted ↔ Carries token header)) ↔
      Comparable token header := by
  rw [Decides, requireToken_eq hne, Comparable, Carries]
  by_cases hscheme : Core.bearer <+: header
  · rw [if_pos hscheme, imp_iff_right hscheme, and_iff_right hscheme]
    by_cases hascii : ∀ c ∈ presented header ++ token, c.toNat < 128
    · rw [compareDigest_of_ascii hascii]
      by_cases hequal : presented header = token
      · rw [decide_eq_true hequal]
        exact iff_of_true ⟨⟨_, rfl, .inl rfl⟩, iff_of_true rfl hequal⟩ hascii
      · rw [decide_eq_false hequal]
        exact iff_of_true ⟨⟨_, rfl, .inr ⟨403, _, rfl, .inr rfl⟩⟩, iff_of_false nofun hequal⟩
          hascii
    · rw [compareDigest_of_not_ascii hascii]
      apply iff_of_false _ hascii
      rintro ⟨⟨_, hcheck, -⟩, -⟩
      cases hcheck
  · rw [if_neg hscheme]
    apply iff_of_true _ fun h => absurd h hscheme
    exact ⟨⟨_, rfl, .inr ⟨401, _, rfl, .inl rfl⟩⟩,
      iff_of_false nofun fun h => hscheme h.1⟩

end Agent

namespace Core

variable {Remote : Type}

/-- The client's call of the agent returns. -/
def Returns (core : Core Remote) (agent : Remote) (call : AgentCall) : Prop :=
  ∃ answer after, core.agent call agent = .ok answer after

/-- The route ends in a response: it has the agent do one command in range and answers with what
the client returns of that, or it refuses with one of its own answers and has the agent do
nothing. -/
def Settles (core : Core Remote) (agent : Remote)
    (method : Method (Remote × List AgentCall) ApiResponse) : Prop :=
  (∃ call answer after, InRange call ∧ core.agent call agent = .ok answer after ∧
    method (agent, []) = .ok (proxyAgent answer) (after, [call])) ∨
    ∃ response, method (agent, []) = .ok response (agent, []) ∧ response.ok = false ∧
      response.statusCode ∈ [400, 401, 403, 503]

variable {core : Core Remote} {agent : Remote} {token : List Char} {request : ApiRequest}
  {verdict : Verdict}

/-- A verdict that does not raise, and whose command, if it passes one on, is returned from. -/
def Verdict.Ends (core : Core Remote) (agent : Remote) (verdict : Verdict) : Prop :=
  (∀ error, verdict ≠ .raises error) ∧ ∀ call, verdict.command = some call → core.Returns agent call

/-- What follows from a sound verdict settles exactly if that ends. -/
theorem settles_run_iff {guard : Prop} (sound : verdict.Sound guard) :
    core.Settles agent (verdict.run core.recorded) ↔ verdict.Ends core agent := by
  cases verdict with
  | answers response =>
      apply iff_of_true
      · exact .inr ⟨response, rfl, sound.1, sound.2⟩
      · exact ⟨nofun, nofun⟩
  | raises error =>
      apply iff_of_false
      · rintro (⟨call, answer, after, -, -, h⟩ | ⟨response, h, -⟩)
        · cases h
        · cases h
      · exact fun h => h.1 error rfl
  | passesOn call =>
      constructor
      · intro hsettles
        refine ⟨nofun, ?_⟩
        rintro _ ⟨⟩
        rw [Settles, Verdict.run, recorded_forward] at hsettles
        cases hagent : core.agent call agent with
        | ok answer after => exact ⟨answer, after, hagent⟩
        | error error after =>
            rw [hagent] at hsettles
            rcases hsettles with ⟨_, answer, after, -, -, h⟩ | ⟨response, h, -⟩
            · cases h
            · cases h
      · rintro ⟨-, hreturns⟩
        obtain ⟨answer, after, hagent⟩ := hreturns call rfl
        refine .inl ⟨call, answer, after, sound.2, hagent, ?_⟩
        rw [Verdict.run, recorded_forward, hagent]

/-- The core's check, given a token. -/
theorem requireWriteAccess_eq (htoken : core.readSecretFile = .ok (some token)) :
    core.requireWriteAccess request =
      if bearer <+: request.authorization then
        match compareDigest (presented request.authorization) token with
        | .error error => .error error
        | .ok false => .ok (some ⟨"invalid_token", "Invalid token", 403⟩)
        | .ok true => .ok none
      else .ok (some ⟨"missing_token", "Missing Bearer token", 401⟩) := by
  rw [requireWriteAccess, htoken]
  by_cases hscheme : bearer <+: request.authorization
  · have hstarts := List.isPrefixOf_iff_prefix.mpr hscheme
    rw [if_pos hscheme, if_neg (by rw [hstarts]; decide)]
    rfl
  · have hstarts := Bool.eq_false_of_not_eq_true (mt List.isPrefixOf_iff_prefix.mp hscheme)
    rw [if_neg hscheme, if_pos hstarts]

theorem ends_answers (response : ApiResponse) : (Verdict.answers response).Ends core agent := by
  constructor
  · intro error h
    cases h
  · intro call h
    cases h

/-- A refusal does not admit. -/
theorem refused_ne_admitted (error : ApiError) :
    (.ok (some error) : Except CoreFailure (Option ApiError)) ≠ .ok none := by
  intro h
  cases h

/-- A verdict behind the check ends, and the check admits exactly the headers that carry the
token, exactly if the comparison takes what the header presents and the verdict ends for headers
that carry the token. -/
theorem ends_checked_iff (htoken : core.readSecretFile = .ok (some token)) :
    ((core.checked request verdict).Ends core agent ∧
        (core.requireWriteAccess request = .ok none ↔ Carries token request.authorization)) ↔
      Comparable token request.authorization ∧
        (Carries token request.authorization → verdict.Ends core agent) := by
  rw [checked, requireWriteAccess_eq htoken, Comparable, Carries]
  by_cases hscheme : bearer <+: request.authorization
  · rw [if_pos hscheme, imp_iff_right hscheme, and_iff_right hscheme]
    by_cases hascii : ∀ c ∈ presented request.authorization ++ token, c.toNat < 128
    · rw [compareDigest_of_ascii hascii, and_iff_right hascii]
      by_cases hequal : presented request.authorization = token
      · rw [decide_eq_true hequal, imp_iff_right hequal]
        exact and_iff_left (iff_of_true rfl hequal)
      · rw [decide_eq_false hequal]
        exact iff_of_true ⟨ends_answers _, iff_of_false (refused_ne_admitted _) hequal⟩
          fun h => absurd h hequal
    · rw [compareDigest_of_not_ascii hascii]
      apply iff_of_false
      · exact fun h => h.1.1 .typeError rfl
      · exact fun h => hascii h.1
  · rw [if_neg hscheme]
    apply iff_of_true
    · exact ⟨ends_answers _, iff_of_false (refused_ne_admitted _) fun h => hscheme h.1⟩
    · exact ⟨fun h => absurd h hscheme, fun h => absurd h.1 hscheme⟩

theorem bodyMembers_of_objectBody (h : ObjectBody request.body) :
    ∃ members, bodyMembers request = .ok members := by
  rw [bodyMembers]
  by_cases htruthy : request.body.truthy = true
  · obtain ⟨members, hbody⟩ := h htruthy
    rw [if_pos htruthy, hbody]
    exact ⟨members, rfl⟩
  · rw [if_neg htruthy]
    exact ⟨[], rfl⟩

theorem bodyMembers_of_not_objectBody (h : ¬ ObjectBody request.body) :
    bodyMembers request = .error .attributeError := by
  rw [ObjectBody, Classical.not_imp] at h
  obtain ⟨htruthy, hobject⟩ := h
  rw [bodyMembers, if_pos htruthy]
  split
  next members hbody => exact absurd ⟨members, hbody⟩ hobject
  next => rfl

/-- A body with members is refused only by a value error. -/
theorem valueError_of_validatedControlBody {members : List (String × Json)} {error : CoreFailure}
    (hmembers : bodyMembers request = .ok members)
    (h : validatedControlBody request = .error error) : ∃ message, error = .valueError message := by
  rw [validatedControlBody_of_members hmembers] at h
  split at h
  next =>
    cases h
    exact ⟨_, rfl⟩
  next =>
    split at h
    next =>
      cases h
      exact ⟨_, rfl⟩
    next => cases h

/-- The verdict on a profile raises nothing unless the profile exists and the body has no
members. -/
theorem raises_profileVerdict_iff {profile : String} :
    (∀ error, profileVerdict profile request ≠ .raises error) ↔
      (profile ∈ ["quiet", "cooling", "emergency"] → ObjectBody request.body) := by
  rw [profileVerdict]
  by_cases hknown : profile ∈ ["quiet", "cooling", "emergency"]
  · rw [if_pos hknown, imp_iff_right hknown]
    by_cases hbody : ObjectBody request.body
    · obtain ⟨members, hmembers⟩ := bodyMembers_of_objectBody hbody
      rw [hmembers]
      apply iff_of_true _ hbody
      dsimp only
      split
      · intro error h
        cases h
      · intro error h
        cases h
    · rw [bodyMembers_of_not_objectBody hbody]
      exact iff_of_false (fun h => h .attributeError rfl) hbody
  · rw [if_neg hknown]
    apply iff_of_true _ fun h => absurd h hknown
    intro error h
    cases h

/-- The verdict on a duty raises nothing unless the body has no members. -/
theorem raises_controlVerdict_iff :
    (∀ error, controlVerdict request ≠ .raises error) ↔ ObjectBody request.body := by
  rw [controlVerdict]
  by_cases hbody : ObjectBody request.body
  · apply iff_of_true _ hbody
    split
    next =>
      intro error h
      cases h
    next =>
      intro error h
      cases h
    next error hother hinvalid =>
      obtain ⟨members, hmembers⟩ := bodyMembers_of_objectBody hbody
      obtain ⟨message, rfl⟩ := valueError_of_validatedControlBody hmembers hinvalid
      exact absurd rfl (hother message)
  · have hinvalid : validatedControlBody request = .error .attributeError := by
      rw [validatedControlBody, bodyMembers_of_not_objectBody hbody]
      rfl
    rw [hinvalid]
    exact iff_of_false (fun h => h .attributeError rfl) hbody

end Core

end TrueFan
