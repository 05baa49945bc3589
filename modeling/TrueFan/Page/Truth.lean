/-
# What the page says is so

In any history of a tab, what the page says of a command is what became of the last one it
sent: if it says that a duty is in force, the service carried the command out and the hardware
read that duty back. What it draws of the agent is a snapshot the agent had, and the controls it
offers are the ones the policy left open in such a snapshot.
-/

import TrueFan.Page.Tab
import TrueFan.Service.Accepted

namespace TrueFan

open Python Foundations

namespace BrowserTab

variable {Hardware : Type}

abbrev TabRecord (Hardware : Type) := Record (BrowserTab Hardware) (TabEvent Hardware) Passage

section Page

variable {conversions : Conversions} {page after : Dashboard} {requested effective : Json}
  {verified : Bool}

@[simp]
theorem notice_poll (arrival : Option Json) (page : Dashboard) :
    (Dashboard.poll conversions arrival page).notice = page.notice := by
  obtain ⟨before, thresholds, drawing, -, hpoll⟩ := Dashboard.poll_eq conversions arrival page
  rw [hpoll]
  rfl

/-- The page says that a duty is in force if it said so before and sent nothing since, or got an
answer that says so. -/
theorem notice_step {event : DashboardEvent} {sent : Option Command}
    (h : Dashboard.step conversions page event = (sent, after))
    (stated : after.notice = .applied requested effective verified) :
    (sent = none ∧ page.notice = .applied requested effective verified) ∨
      ∃ answer result, event = .answered answer ∧
        Dashboard.settle conversions answer = .ok result ∧
        Dashboard.appliedNotice conversions result =
          .ok (.applied requested effective verified) := by
  rcases Dashboard.step_cases conversions h with ⟨button, -, -, hrun⟩ |
    ⟨answer, hevent, -, -, rfl⟩ | ⟨arrival, -, -, hnone, rfl⟩ | ⟨arrival, -, -, hnone, rfl⟩ |
    ⟨hnone, untouched, -⟩
  · rcases Dashboard.runAction_cases button page with ⟨-, hrun'⟩ | ⟨-, thrown, hrun'⟩ |
      ⟨-, command, -, hrun'⟩
    · cases hrun'.symm.trans hrun
      exact .inl ⟨rfl, stated⟩
    · cases hrun'.symm.trans hrun
      cases stated
    · cases hrun'.symm.trans hrun
      cases stated
  · rw [Dashboard.resume] at stated
    split at stated
    · cases stated
    next result hsettle =>
      split at stated
      · cases stated
      next notice hnotice =>
        cases stated
        exact .inr ⟨answer, result, hevent, hsettle, hnotice⟩
  · exact .inl ⟨hnone, (notice_poll arrival page).symm.trans stated⟩
  · exact .inl ⟨hnone, (notice_poll arrival page).symm.trans stated⟩
  · exact .inl ⟨hnone, untouched.notice stated⟩

/-- An answer that is cut short is no success. -/
theorem settle_cut (answer : PageAnswer) (result : Json) :
    Dashboard.settle conversions (some answer.cut) ≠ .ok result := by
  rw [Dashboard.settle]
  split
  · exact fun h => by cases h
  · exact fun h => by cases h

end Page

/-! ## The last command -/

/-- The page sent a command in this step. -/
def Sends (record : TabRecord Hardware) : Prop := ∃ command, record.outcome = .sent command

/-- The page sent the command last, in the one step, and the core answered it in the other. -/
structure Exchanged (history since : List (TabRecord Hardware)) (click serve : TabRecord Hardware)
    (command : Command) (outcome : DeploymentOutcome) : Prop where
  last : LastOf Sends history since click
  sent : click.outcome = .sent command
  mem : serve ∈ since
  served : serve.outcome = .served command outcome

/-- The command was sent last. -/
def SentLast (history : List (TabRecord Hardware)) (command : Command) : Prop :=
  ∃ since click, LastOf Sends history since click ∧ click.outcome = .sent command

/-- The command that was sent last has been answered with this outcome. -/
def AnsweredLast (history : List (TabRecord Hardware)) (outcome : DeploymentOutcome) : Prop :=
  ∃ since click serve command, Exchanged history since click serve command outcome

variable {history : List (TabRecord Hardware)} {next : TabRecord Hardware} {command : Command}
  {outcome : DeploymentOutcome}

theorem SentLast.concat (h : SentLast history command) (quiet : ¬ Sends next) :
    SentLast (history ++ [next]) command := by
  obtain ⟨since, click, last, sent⟩ := h
  exact ⟨since ++ [next], click, last.concat quiet, sent⟩

theorem AnsweredLast.concat (h : AnsweredLast history outcome) (quiet : ¬ Sends next) :
    AnsweredLast (history ++ [next]) outcome := by
  obtain ⟨since, click, serve, command, exchanged⟩ := h
  exact ⟨since ++ [next], click, serve, command, exchanged.last.concat quiet, exchanged.sent,
    List.mem_append_left _ exchanged.mem, exchanged.served⟩

theorem SentLast.answered (h : SentLast history command)
    (served : next.outcome = .served command outcome) :
    AnsweredLast (history ++ [next]) outcome := by
  obtain ⟨since, click, last, sent⟩ := h
  have quiet : ¬ Sends next := by
    rintro ⟨other, hother⟩
    cases served.symm.trans hother
  exact ⟨since ++ [next], click, next, command, last.concat quiet, sent,
    List.mem_append_right _ (List.mem_singleton_self next), served⟩

/-- Every exchange is about the command that was sent last, and so is what the page says. -/
structure Accounted (conversions : Conversions) (history : List (TabRecord Hardware))
    (tab : BrowserTab Hardware) : Prop where
  posted : ∀ command, tab.exchange = some (.posted command) → SentLast history command
  answered : ∀ answer, tab.exchange = some (.answered answer) →
    ∃ outcome, answer = answerOf outcome ∧ AnsweredLast history outcome
  applied : ∀ requested effective verified,
    tab.page.notice = .applied requested effective verified →
      ∃ outcome result, AnsweredLast history outcome ∧
        Dashboard.settle conversions (answerOf outcome) = .ok result ∧
        Dashboard.appliedNotice conversions result = .ok (.applied requested effective verified)

section Accounted

variable {conversions : Conversions} {deployment : Deployment Hardware}
  {tab changed : BrowserTab Hardware}

theorem accounted_opened (saved : List Char) (service : ControlService Hardware) :
    Accounted conversions [] (opened saved service) where
  posted _ h := by cases h
  answered _ h := by cases h
  applied _ _ _ h := by cases h

/-- A step that sends nothing and leaves the exchange and the page's word alone. -/
theorem Accounted.concat (accounted : Accounted conversions history tab) (quiet : ¬ Sends next)
    (exchange : changed.exchange = tab.exchange ∨ changed.exchange = none)
    (notice : ∀ requested effective verified,
      changed.page.notice = .applied requested effective verified →
        tab.page.notice = .applied requested effective verified) :
    Accounted conversions (history ++ [next]) changed where
  posted command h := by
    rcases exchange with hsame | hnone
    · exact (accounted.posted command (hsame ▸ h)).concat quiet
    · rw [hnone] at h
      cases h
  answered answer h := by
    rcases exchange with hsame | hnone
    · obtain ⟨outcome, hanswer, hlast⟩ := accounted.answered answer (hsame ▸ h)
      exact ⟨outcome, hanswer, hlast.concat quiet⟩
    · rw [hnone] at h
      cases h
  applied requested effective verified h := by
    obtain ⟨outcome, result, hlast, hsettle, hnotice⟩ :=
      accounted.applied requested effective verified (notice _ _ _ h)
    exact ⟨outcome, result, hlast.concat quiet, hsettle, hnotice⟩

/-- The end of an exchange, with an answer that is the core's or no success. -/
theorem Accounted.answer (accounted : Accounted conversions history tab) (quiet : ¬ Sends next)
    {answer : Option PageAnswer}
    (source : (∃ outcome, answer = answerOf outcome ∧ AnsweredLast history outcome) ∨
      ∀ result, Dashboard.settle conversions answer ≠ .ok result)
    (hpage : changed.page = (Dashboard.step conversions tab.page (.answered answer)).2)
    (hnone : changed.exchange = none) : Accounted conversions (history ++ [next]) changed where
  posted command h := by
    rw [hnone] at h
    cases h
  answered answer h := by
    rw [hnone] at h
    cases h
  applied requested effective verified h := by
    rw [hpage] at h
    rcases notice_step Prod.mk.eta.symm h with
      ⟨-, hbefore⟩ | ⟨answer', result, hevent, hsettle, hnotice⟩
    · obtain ⟨outcome, result, hlast, hsettle, hnotice⟩ :=
        accounted.applied requested effective verified hbefore
      exact ⟨outcome, result, hlast.concat quiet, hsettle, hnotice⟩
    · cases hevent
      rcases source with ⟨outcome, rfl, hlast⟩ | hfails
      · exact ⟨outcome, result, hlast.concat quiet, hsettle, hnotice⟩
      · exact absurd hsettle (hfails result)

/-- A step of the page that is no answer and sends nothing changes nothing it says. -/
theorem notice_of_step {event : DashboardEvent} {page : Dashboard}
    (unanswered : ∀ answer, event ≠ .answered answer) (requested effective : Json)
    (verified : Bool)
    (h : (Dashboard.step conversions page event).2.notice =
      .applied requested effective verified) :
    page.notice = .applied requested effective verified := by
  rcases notice_step Prod.mk.eta.symm h with ⟨-, hbefore⟩ | ⟨answer, result, hevent, -⟩
  · exact hbefore
  · exact absurd hevent (unanswered answer)

theorem Accounted.step (accounted : Accounted conversions history tab)
    (event : TabEvent Hardware) :
    Accounted conversions
      (history ++ [⟨tab, event, (step conversions deployment tab event).1,
        (step conversions deployment tab event).2⟩])
      (step conversions deployment tab event).2 := by
  have hquiet {event : TabEvent Hardware} {changed : BrowserTab Hardware} :
      ¬ Sends (⟨tab, event, .none, changed⟩ : TabRecord Hardware) := by
    rintro ⟨command, hcommand⟩
    cases hcommand
  have hkept {event : TabEvent Hardware} :
      Accounted conversions (history ++ [⟨tab, event, .none, tab⟩]) tab :=
    accounted.concat hquiet (.inl rfl) fun _ _ _ h => h
  cases event with
  | onPage event =>
      have hunanswered (answer : Option PageAnswer) : event.1 ≠ .answered answer := by
        intro h
        have hlocal := event.2
        rw [h] at hlocal
        cases hlocal
      rw [BrowserTab.step]
      split
      next page hpage =>
        exact accounted.concat hquiet (.inl rfl) fun requested effective verified h =>
          notice_of_step hunanswered requested effective verified (by rw [hpage]; exact h)
      next command page hpage =>
        refine ⟨fun other hother => ?_, fun _ h => (by cases h), fun _ _ _ h => ?_⟩
        · cases hother
          exact ⟨[], _, lastOf_concat _ ⟨command, rfl⟩, rfl⟩
        · rcases notice_step hpage h with ⟨hnone, -⟩ | ⟨answer, _, hevent, -⟩
          · cases hnone
          · exact absurd hevent (hunanswered answer)
  | serves clock delivery =>
      rw [BrowserTab.step]
      split
      next command hexchange =>
        refine ⟨fun _ h => (by cases h), fun answer h => ?_,
          fun requested effective verified h => ?_⟩
        · cases h
          exact ⟨_, rfl, (accounted.posted command hexchange).answered rfl⟩
        · obtain ⟨outcome, result, hlast, hsettle, hnotice⟩ :=
            accounted.applied requested effective verified h
          refine ⟨outcome, result, hlast.concat ?_, hsettle, hnotice⟩
          rintro ⟨other, hother⟩
          cases hother
      next => exact hkept
  | answers whole =>
      rw [BrowserTab.step]
      split
      next answer hexchange =>
        refine accounted.answer hquiet ?_ rfl rfl
        cases whole with
        | true => exact .inl (accounted.answered answer hexchange)
        | false =>
            refine .inr fun result h => ?_
            cases answer with
            | none => cases h
            | some answer => exact settle_cut answer result h
      next => exact hkept
  | breaks =>
      rw [BrowserTab.step]
      split
      next exchange hexchange =>
        exact accounted.answer hquiet (.inr fun result h => by cases h) rfl rfl
      next => exact hkept
  | servesStray index clock delivery =>
      rw [BrowserTab.step]
      split
      next command hcommand =>
        refine accounted.concat ?_ (.inl rfl) fun _ _ _ h => h
        rintro ⟨other, hother⟩
        cases hother
      next => exact hkept
  | loses index =>
      rw [BrowserTab.step]
      split
      next command hcommand =>
        refine accounted.concat ?_ (.inl rfl) fun _ _ _ h => h
        rintro ⟨other, hother⟩
        cases hother
      next => exact hkept
  | reports poll sources clock delivery =>
      rw [BrowserTab.step]
      split
      · exact accounted.concat hquiet (.inl (by simp)) (by simp)
      · exact hkept
  | fails poll =>
      rw [BrowserTab.step]
      split
      · exact accounted.concat hquiet (.inl (by simp)) (by simp)
      · exact hkept
  | arrives index =>
      rw [BrowserTab.step]
      split
      · exact accounted.concat hquiet (.inl rfl) (notice_of_step fun _ h => by cases h)
      · exact hkept
  | refreshes =>
      rw [BrowserTab.step]
      split
      · exact accounted.concat hquiet (.inl rfl) (notice_of_step fun _ h => by cases h)
      · exact hkept
  | elsewhere event => exact accounted.concat hquiet (.inl rfl) fun _ _ _ h => h

end Accounted

/-! ## What a success stands for -/

/-- The answer is to a command for the duty, no less is in force, and the hardware read what is
in force back. -/
structure InForce (duty : ℤ) (result : MutationResult) : Prop where
  requested : result.requestedDuty = .int duty
  requested_le : duty ≤ result.effectiveDuty
  mem_range : 22 ≤ result.effectiveDuty ∧ result.effectiveDuty ≤ 100
  verified : result.readback.verified = true
  readback : result.readback.dutyPercent = some result.effectiveDuty

/-- The duty a command asks for. -/
def callDuty : AgentCall → Option ℤ
  | .requestControl dutyPercent _ => some dutyPercent
  | .requestProfile profile _ => profiles.lookup profile

section InForce

variable {backend : FanBackend Hardware} {clock : Clock} {result : MutationResult}
  {service after : ControlService Hardware}

theorem inForce_of_requestDuty (real : RealBackend backend) {duty : ℤ} {ttlSeconds : Json}
    (h : ControlService.requestDuty backend clock (.int duty) ttlSeconds service =
      .ok result after) : InForce duty result := by
  obtain ⟨before, hardware, decision, policy, readback, commanded, hstatus, hrequest, hset, rfl,
    -⟩ := ControlService.requestDuty_eq_published h
  obtain ⟨asked, lifetime, hduty, httl⟩ := SafetyPolicy.valid_of_requestOverride_eq_ok hrequest
  have hasked : duty = asked.val := Json.int.inj (SafetyPolicy.validDuty_eq_some_iff.mp hduty)
  obtain ⟨hkept, hmin, hmax⟩ := ControlService.duty_of_accepted hduty httl
    (fun known => real.verifying.reported hstatus) hrequest
  obtain ⟨hmanual, hreadback⟩ := real.verifying.commanded hset
  rw [clampPercent_of_mem hmin hmax] at hreadback
  exact ⟨rfl, hasked ▸ hkept, ⟨hmin, hmax⟩, decide_eq_true ⟨hmanual, hreadback⟩, hreadback⟩

/-- A command that the service accepts is in force. -/
theorem inForce_of_answered (real : RealBackend backend) {call : AgentCall}
    (h : ControlService.step backend service (call.event Hardware clock) =
      (.answered result, after)) :
    ∃ duty, callDuty call = some duty ∧ InForce duty result := by
  cases call with
  | requestControl duty ttl =>
      rw [AgentCall.event, ControlService.step] at h
      cases hrequest : ControlService.requestDuty backend clock (.int duty) (.int ttl) service with
      | error error between =>
          rw [hrequest] at h
          cases h
      | ok answer between =>
          rw [hrequest] at h
          cases h
          exact ⟨duty, rfl, inForce_of_requestDuty real hrequest⟩
  | requestProfile profile ttl =>
      rw [AgentCall.event, ControlService.step] at h
      cases hrequest : ControlService.requestProfile backend clock profile (.int ttl) service with
      | error error between =>
          rw [hrequest] at h
          cases h
      | ok answer between =>
          rw [hrequest] at h
          cases h
          obtain ⟨duty, inner, hprofile, hduty, rfl⟩ :=
            ControlService.requestProfile_eq_ok hrequest
          obtain ⟨requested, requested_le, mem_range, verified, readback⟩ :=
            inForce_of_requestDuty real hduty
          exact ⟨duty, hprofile, requested, requested_le, mem_range, verified, readback⟩

end InForce

section Answer

variable {conversions : Conversions} {deployment : Deployment Hardware}

/-- Only an answer that is a success settles as one, and with its own data. -/
theorem settle_answerOf {response : ApiResponse} {result : Json}
    (h : Dashboard.settle conversions (answerOf (.responded response)) = .ok result) :
    response.ok = true ∧ result = response.data.sortKeys.orOther (.object []) := by
  rw [answerOf, Dashboard.settle] at h
  split at h
  · split at h
    · cases h
    · split at h
      next hok =>
        rw [Dashboard.arrived] at h hok
        split at h
        next hcompliant =>
          rw [if_pos hcompliant] at hok
          simp only [Option.getD_some, Json.get_membersOf_sortKeys, Json.isTrue_sortKeys] at hok
          simp only [Option.getD_some, Json.get_membersOf_sortKeys] at h
          exact ⟨hok, (Except.ok.inj h).symm⟩
        next hcompliant =>
          rw [if_neg hcompliant] at hok
          cases hok
      next => cases h
  · cases h

/-- The numbers that are shown of a success are those of the service. -/
theorem appliedNotice_members {result : MutationResult} {requested effective : Json}
    {verified : Bool}
    (h : Dashboard.appliedNotice conversions
      ((Json.object result.members).sortKeys.orOther (.object [])) =
        .ok (.applied requested effective verified)) :
    requested = result.requestedDuty.sortKeys ∧ effective = .int result.effectiveDuty ∧
      verified = result.readback.verified := by
  have hholds : (Json.object result.members).sortKeys.orOther (.object []) =
      (Json.object result.members).sortKeys := if_pos (by rw [Json.holds_sortKeys]; rfl)
  rw [hholds] at h
  obtain ⟨_, -, h⟩ := bind_except_eq_ok h
  obtain ⟨_, -, h⟩ := bind_except_eq_ok h
  simp only [Json.get_membersOf_sortKeys] at h
  cases h
  exact ⟨rfl, rfl, Json.isTrue_sortKeys _⟩

/-- A command that gets to the service as an event is the one its route passes on. -/
theorem requested_of_passesOn {command : Command} {call : AgentCall} {clock : Clock}
    {delivery : Delivery} {asked : ServiceEvent Hardware}
    (hverdict : command.1.verdict deployment.lower (deployment.core clock delivery) command.2 =
      (deployment.core clock delivery).checked command.2 (.passesOn call))
    (h : deployment.requested command.1 command.2 clock delivery = some asked) :
    asked = call.event Hardware clock := by
  rw [Deployment.requested] at h
  split at h
  · rw [hverdict, Core.checked] at h
    split at h
    · cases h
    · cases h
    · cases h
      rfl
  · cases h

variable {command : Command}

/-- A command of the page that gets to the core and is answered with a success was carried out
by the service, and the numbers shown are the service's. -/
theorem answered_of_settle {page : Dashboard} {button : PageButton} (hpost : page.post button =
      .ok command) {clock : Clock} {delivery : Delivery} {outcome : DeploymentOutcome}
    {service after : ControlService Hardware}
    (hstep : deployment.step service (.post command.1 command.2 clock delivery) = (outcome, after))
    {shown requested effective : Json} {verified : Bool}
    (hsettle : Dashboard.settle conversions (answerOf outcome) = .ok shown)
    (hnotice : Dashboard.appliedNotice conversions shown =
      .ok (.applied requested effective verified)) :
    ∃ result, ControlService.step deployment.client.app.backend service
        ((page.command button).event Hardware clock) = (.answered result, after) ∧
      requested = result.requestedDuty.sortKeys ∧ effective = .int result.effectiveDuty ∧
      verified = result.readback.verified := by
  have hsettled := Deployment.settled_post deployment command.1 command.2 clock delivery service
  rw [hstep] at hsettled
  obtain ⟨response, houtcome, htruthful, -⟩ := hsettled.truthful
  have houtcome : outcome = .responded response := houtcome
  subst houtcome
  obtain ⟨hok, rfl⟩ := settle_answerOf hsettle
  obtain ⟨-, asked, result, hrequested, hanswered, rfl⟩ := htruthful.mp hok
  have hverdict : command.1.verdict deployment.lower (deployment.core clock delivery) command.2 =
      (deployment.core clock delivery).checked command.2 (.passesOn (page.command button)) := by
    obtain ⟨-, rfl⟩ := Dashboard.post_eq_ok hpost
    exact Dashboard.verdict_request deployment.lower (deployment.core clock delivery) page button
  have hafter := hsettled.after_eq
  rw [hrequested, Option.elim_some] at hafter
  cases requested_of_passesOn hverdict hrequested
  exact ⟨result, Prod.ext hanswered hafter.symm, appliedNotice_members hnotice⟩

end Answer

/-- In any history of a tab: if the page says that a duty is in force, then the command of its
last click was carried out by the service since, for the duty the page says was requested; the
duty it says is in force is no less and was read back from the hardware, and the page says so.
It never says that a duty is not verified. -/
theorem applied_in_force (conversions : Conversions) (deployment : Deployment Hardware)
    (real : RealBackend deployment.client.app.backend) (saved : List Char)
    (service : ControlService Hardware) (events : List (TabEvent Hardware))
    {requested effective : Json} {verified : Bool}
    (stated : (finalState (step conversions deployment) (opened saved service) events).page.notice =
      .applied requested effective verified) :
    ∃ since click serve button clock result duty,
      LastOf Sends (records (step conversions deployment) (opened saved service) events) since
        click ∧
      click.event = .click button ∧ serve ∈ since ∧
      ControlService.step deployment.client.app.backend serve.before.service
        ((click.before.page.command button).event Hardware clock) =
          (.answered result, serve.after.service) ∧
      callDuty (click.before.page.command button) = some duty ∧ InForce duty result ∧
      requested = .int duty ∧ effective = .int result.effectiveDuty ∧ verified = true := by
  have accounted : Accounted conversions
      (records (step conversions deployment) (opened saved service) events)
      (finalState (step conversions deployment) (opened saved service) events) :=
    records_accounted (step conversions deployment) (fun _ _ event h => h.step event)
      (accounted_opened saved service) events
  obtain ⟨outcome, shown, ⟨since, click, serve, command, exchanged⟩, hsettle, hnotice⟩ :=
    accounted.applied requested effective verified stated
  obtain ⟨earlier, hcut⟩ := exchanged.last.cut
  have hclick := step_of_mem_records (step conversions deployment)
    (hcut ▸ List.mem_append_right earlier List.mem_cons_self)
  have hserve := step_of_mem_records (step conversions deployment)
    (hcut ▸ List.mem_append_right earlier (List.mem_cons_of_mem click exchanged.mem))
  rw [exchanged.sent] at hclick
  rw [exchanged.served] at hserve
  obtain ⟨button, hevent, -, hpost⟩ := step_of_sent hclick
  obtain ⟨clock, delivery, -, hposted⟩ := step_of_served hserve
  obtain ⟨result, hanswered, hrequested, heffective, hverified⟩ :=
    answered_of_settle hpost hposted hsettle hnotice
  obtain ⟨duty, hduty, inForce⟩ := inForce_of_answered real hanswered
  rw [inForce.requested] at hrequested
  rw [inForce.verified] at hverified
  exact ⟨since, click, serve, button, clock, result, duty, exchanged.last, hevent, exchanged.mem,
    hanswered, hduty, inForce, hrequested, heffective, hverified⟩

/-- The page says that a duty is in force. -/
def isApplied : Notice → Bool
  | .applied _ _ _ => true
  | _ => false

/-- A click on the button that applies half duty, next to an agent on a tree with one channel. -/
def appliedClick : List (TabEvent (FileTree × Unit)) :=
  [.click .apply, .serves (.ofInt 0) .delivered,
    .answers true]

theorem applied_in_force_of_appliedClick :
    ∃ duty result, InForce duty result ∧
      (finalState (step Dashboard.plainConversions Deployment.oneChannel)
        (opened "token".toList PwmClient.oneChannelService) appliedClick).page.notice =
          .applied (.int duty) (.int result.effectiveDuty) true := by
  have happlied : isApplied (finalState (step Dashboard.plainConversions Deployment.oneChannel)
      (opened "token".toList PwmClient.oneChannelService) appliedClick).page.notice = true := by
    decide +kernel
  cases hnotice : (finalState (step Dashboard.plainConversions Deployment.oneChannel)
      (opened "token".toList PwmClient.oneChannelService) appliedClick).page.notice with
  | applied requested effective verified =>
      obtain ⟨_, _, _, _, _, result, duty, -, -, -, -, -, inForce, rfl, rfl, rfl⟩ :=
        applied_in_force Dashboard.plainConversions Deployment.oneChannel (.hwmon _)
          "token".toList PwmClient.oneChannelService appliedClick hnotice
      exact ⟨duty, result, inForce, rfl⟩
  | _ =>
      rw [hnotice] at happlied
      cases happlied

end BrowserTab

end TrueFan
