/-
# A tab of the browser, and what it talks to

The page asks the core for statuses and posts commands to it, and the core asks the agent. A
request is on its way, gets to the core, is answered there, and the answer is on its way back;
requests and answers overtake each other, and any of them may be lost. A command whose
connection breaks may still get to the core. Meanwhile the agent ticks and restarts, others
change the hardware, and other clients post commands of their own.

A history of a tab is any interleaving of all that. Every click is accounted for in it: the
service got what the button stood for, once, or the command came to nothing or is on its way.
-/

import TrueFan.Page.Shown

namespace TrueFan

open Python Foundations

/-- A command: the route it is posted to, and the request. -/
abbrev Command := Core.Route × ApiRequest

/-- The command the page waits for: not at the core yet, or answered by it. -/
inductive Exchange
  | posted (command : Command)
  | answered (answer : Option PageAnswer)

/-- What is left of a command that is no longer waited for. -/
def Exchange.stray : Exchange → List Command
  | .posted command => [command]
  | .answered _ => []

/-- An answer of which only the head arrived. -/
def PageAnswer.cut (answer : PageAnswer) : PageAnswer := { answer with body := .object [] }

/-- The two ways the page polls: by itself, and after a command. -/
inductive PagePoll
  | regular
  | refresh
  deriving DecidableEq, Repr

/-- The event is the user's, or the timer's. -/
def DashboardEvent.isLocal : DashboardEvent → Bool
  | .interval => true
  | .polled _ => false
  | .slid _ => true
  | .chose _ => true
  | .saved _ => true
  | .clicked _ => true
  | .answered _ => false
  | .refreshed _ => false

abbrev LocalEvent := {event : DashboardEvent // event.isLocal = true}

/-- A page, the service it is about, and what is on its way between them: the command that is
waited for, commands that no longer are, and statuses. -/
structure BrowserTab (Hardware : Type) where
  page : Dashboard
  service : ControlService Hardware
  exchange : Option Exchange
  strays : List Command
  statuses : List (Option Json)
  refreshed : Option (Option Json)

/-- What can happen to a tab: something on the page; the command gets to the core, with the time
at the agent and what becomes of it on the way there, its answer gets back, whole or cut short,
or its connection breaks; a command that is not waited for gets to the core, or is lost; a poll is
answered or fails, and its status arrives; or something else happens to the core and its agent. -/
inductive TabEvent (Hardware : Type)
  | onPage (event : LocalEvent)
  | serves (clock : Clock) (delivery : Delivery)
  | answers (whole : Bool)
  | breaks
  | servesStray (index : ℕ) (clock : Clock) (delivery : Delivery)
  | loses (index : ℕ)
  | reports (poll : PagePoll) (sources : StatusSources) (clock : Clock) (delivery : Delivery)
  | fails (poll : PagePoll)
  | arrives (index : ℕ)
  | refreshes
  | elsewhere (event : DeploymentEvent Hardware)

/-- A click on a button. -/
def TabEvent.click {Hardware : Type} (button : PageButton) : TabEvent Hardware :=
  .onPage ⟨.clicked button, rfl⟩

/-- What becomes of a command in a step, if anything does. -/
inductive Passage
  | sent (command : Command)
  | served (command : Command) (outcome : DeploymentOutcome)
  | lost (command : Command)
  | none

namespace BrowserTab

variable {Hardware : Type}

/-- A tab that was just opened, with the token it saved before. -/
def opened (saved : List Char) (service : ControlService Hardware) : BrowserTab Hardware where
  page := .loaded saved
  service
  exchange := none
  strays := []
  statuses := []
  refreshed := none

/-- The envelope of an answer. -/
def envelope (response : ApiResponse) : List (String × Json) :=
  [("ok", .bool response.ok), ("error", response.error), ("data", response.data)]

/-- An answer of the core as it arrives at the page. -/
def answerOf : DeploymentOutcome → Option PageAnswer
  | .responded response =>
      some ⟨response.statusCode, (Dashboard.arrived (envelope response)).getD (.object [])⟩
  | .atAgent _ => none

/-- The page waits for a status that is not answered yet. -/
def awaits (tab : BrowserTab Hardware) : PagePoll → Bool
  | .regular => tab.statuses.length < tab.page.polls
  | .refresh => tab.page.waits = some .refresh && tab.refreshed.isNone

/-- A status is on its way to the page, or the news that there is none. -/
def report (tab : BrowserTab Hardware) (arrival : Option Json) : PagePoll → BrowserTab Hardware
  | .regular => { tab with statuses := tab.statuses ++ [arrival] }
  | .refresh => { tab with refreshed := some arrival }

section Report

variable {tab : BrowserTab Hardware} (arrival : Option Json) (poll : PagePoll)

@[simp]
theorem page_report : (tab.report arrival poll).page = tab.page := by
  cases poll <;> rfl

@[simp]
theorem exchange_report : (tab.report arrival poll).exchange = tab.exchange := by
  cases poll <;> rfl

@[simp]
theorem strays_report : (tab.report arrival poll).strays = tab.strays := by
  cases poll <;> rfl

@[simp]
theorem service_report : (tab.report arrival poll).service = tab.service := by
  cases poll <;> rfl

end Report

section Step

variable (conversions : Conversions) (deployment : Deployment Hardware)

/-- The core gets a command. -/
def post (clock : Clock) (delivery : Delivery) (command : Command)
    (service : ControlService Hardware) : DeploymentOutcome × ControlService Hardware :=
  deployment.step service (.post command.1 command.2 clock delivery)

/-- The core gets a request for a status. -/
def status (sources : StatusSources) (clock : Clock) (delivery : Delivery)
    (service : ControlService Hardware) : List (String × Json) × ControlService Hardware :=
  Core.status sources { deployment.client with delivery := fun _ => delivery } clock service

/-- One step of a tab. What is not on its way does not arrive. -/
def step (tab : BrowserTab Hardware) : TabEvent Hardware → Passage × BrowserTab Hardware
  | .onPage event =>
      match Dashboard.step conversions tab.page event with
      | (none, page) => (.none, { tab with page })
      | (some command, page) =>
          (.sent command, { tab with page, exchange := some (.posted command) })
  | .serves clock delivery =>
      match tab.exchange with
      | some (.posted command) =>
          let (outcome, service) := post deployment clock delivery command tab.service
          (.served command outcome,
            { tab with service, exchange := some (.answered (answerOf outcome)) })
      | _ => (.none, tab)
  | .answers whole =>
      match tab.exchange with
      | some (.answered answer) =>
          let arrived := if whole then answer else answer.map PageAnswer.cut
          (.none, { tab with
            page := (Dashboard.step conversions tab.page (.answered arrived)).2
            exchange := none })
      | _ => (.none, tab)
  | .breaks =>
      match tab.exchange with
      | some exchange =>
          (.none, { tab with
            page := (Dashboard.step conversions tab.page (.answered none)).2
            exchange := none
            strays := tab.strays ++ exchange.stray })
      | none => (.none, tab)
  | .servesStray index clock delivery =>
      match tab.strays[index]? with
      | some command =>
          let (outcome, service) := post deployment clock delivery command tab.service
          (.served command outcome, { tab with service, strays := tab.strays.eraseIdx index })
      | none => (.none, tab)
  | .loses index =>
      match tab.strays[index]? with
      | some command => (.lost command, { tab with strays := tab.strays.eraseIdx index })
      | none => (.none, tab)
  | .reports poll sources clock delivery =>
      if tab.awaits poll then
        let (payload, service) := status deployment sources clock delivery tab.service
        (.none, { tab with service }.report (Dashboard.arrived payload) poll)
      else (.none, tab)
  | .fails poll => if tab.awaits poll then (.none, tab.report none poll) else (.none, tab)
  | .arrives index =>
      match tab.statuses[index]? with
      | some arrival =>
          (.none, { tab with
            page := (Dashboard.step conversions tab.page (.polled arrival)).2
            statuses := tab.statuses.eraseIdx index })
      | none => (.none, tab)
  | .refreshes =>
      match tab.refreshed with
      | some arrival =>
          (.none, { tab with
            page := (Dashboard.step conversions tab.page (.refreshed arrival)).2
            refreshed := none })
      | none => (.none, tab)
  | .elsewhere event => (.none, { tab with service := (deployment.step tab.service event).2 })

end Step

/-! ## The service behind the tab -/

section Service

variable {conversions : Conversions} {deployment : Deployment Hardware}

/-- What a request for a status comes to at the service: a tick, if it gets to an agent that
admits it and has nothing cached. -/
def polled (deployment : Deployment Hardware) (clock : Clock) (delivery : Delivery)
    (service : ControlService Hardware) : Option (ServiceEvent Hardware) :=
  if (delivery ≠ .refused ∧ deployment.admits = true) ∧ service.uncached = true then
    some (.tick clock)
  else none

/-- What a step of a tab comes to at the service. -/
def asked (deployment : Deployment Hardware) (tab : BrowserTab Hardware) :
    TabEvent Hardware → Option (ServiceEvent Hardware)
  | .serves clock delivery =>
      match tab.exchange with
      | some (.posted command) => deployment.requested command.1 command.2 clock delivery
      | _ => none
  | .servesStray index clock delivery =>
      (tab.strays[index]?).bind fun command =>
        deployment.requested command.1 command.2 clock delivery
  | .reports poll _ clock delivery =>
      if tab.awaits poll then polled deployment clock delivery tab.service else none
  | .elsewhere event => deployment.counterpart event
  | _ => none

/-- The event happens to the service, if there is one. -/
def served (deployment : Deployment Hardware) (service : ControlService Hardware)
    (event : Option (ServiceEvent Hardware)) : ControlService Hardware :=
  event.elim service fun asked =>
    (ControlService.step deployment.client.app.backend service asked).2

theorem service_post (clock : Clock) (delivery : Delivery) (command : Command)
    (service : ControlService Hardware) :
    (post deployment clock delivery command service).2 =
      served deployment service (deployment.requested command.1 command.2 clock delivery) :=
  Deployment.step_eq_counterpart service (.post command.1 command.2 clock delivery)

/-- An agent that is asked for a status ticks if it admits the request and has nothing cached. -/
theorem service_handle_status {authorization : List Char}
    (hauthorization : deployment.client.authorization = .ok authorization) (clock : Clock)
    (service : ControlService Hardware) :
    (deployment.client.app.handle clock authorization .status service).2 =
      served deployment service (polled deployment clock .delivered service) := by
  have hticked : (ControlService.step deployment.client.app.backend service (.tick clock)).2 =
      resultState (ControlService.tick deployment.client.app.backend clock service) :=
    ControlService.outcome_snd _ _
  rw [polled, Deployment.admits, hauthorization]
  cases hcheck : Agent.requireToken deployment.client.app.expectedToken authorization with
  | error error =>
      rw [Agent.App.handle, hcheck]
      simp [served, hcheck]
  | ok check =>
      cases check with
      | refused statusCode detail =>
          rw [Agent.App.handle, hcheck]
          simp [served, hcheck]
      | admitted =>
          rw [Core.handle_status_snd hcheck, ControlService.resultState_status]
          cases service.uncached with
          | true => simp [served, hcheck, hticked]
          | false => simp [served]

theorem service_status (sources : StatusSources) (clock : Clock) (delivery : Delivery)
    (service : ControlService Hardware) :
    (status deployment sources clock delivery service).2 =
      served deployment service (polled deployment clock delivery service) := by
  have hstatus : (status deployment sources clock delivery service).2 = resultState
      (PwmClient.request { deployment.client with delivery := fun _ => delivery } clock .status
        service) := rfl
  have hsame : PwmClient.authorization { deployment.client with delivery := fun _ => delivery } =
      deployment.client.authorization := rfl
  rw [hstatus, PwmClient.request, hsame]
  cases hauthorization : deployment.client.authorization with
  | error error =>
      have hadmits : deployment.admits = false := by rw [Deployment.admits, hauthorization]
      simp [polled, hadmits, served]
  | ok authorization =>
      have hhandle := service_handle_status hauthorization clock service
      dsimp only
      cases delivery with
      | refused => simp [polled, served]
      | lost =>
          have hlost : polled deployment clock .lost service =
              polled deployment clock .delivered service := by simp [polled]
          rw [hlost]
          exact hhandle
      | delivered =>
          dsimp only
          split
          · exact hhandle
          · exact hhandle

/-- Whatever happens to a tab, its service goes through what is asked of it. -/
theorem service_step (tab : BrowserTab Hardware) (event : TabEvent Hardware) :
    (step conversions deployment tab event).2.service =
      served deployment tab.service (asked deployment tab event) := by
  cases event with
  | onPage event =>
      rw [step]
      split
      · rfl
      · rfl
  | serves clock delivery =>
      rw [step, asked]
      split
      · exact service_post clock delivery _ tab.service
      · rfl
  | answers whole =>
      rw [step]
      split
      · rfl
      · rfl
  | breaks =>
      rw [step]
      split
      · rfl
      · rfl
  | servesStray index clock delivery =>
      rw [step, asked]
      split
      next command hcommand =>
        rw [hcommand]
        exact service_post clock delivery command tab.service
      next hnone =>
        rw [hnone]
        rfl
  | loses index =>
      rw [step]
      split
      · rfl
      · rfl
  | reports poll sources clock delivery =>
      rw [step, asked]
      split
      · rw [service_report]
        exact service_status sources clock delivery tab.service
      · rfl
  | fails poll =>
      rw [step]
      split
      · rw [service_report]
        rfl
      · rfl
  | arrives index =>
      rw [step]
      split
      · rfl
      · rfl
  | refreshes =>
      rw [step]
      split
      · rfl
      · rfl
  | elsewhere event => exact Deployment.step_eq_counterpart tab.service event

/-- What every step of the service keeps is kept by everything that happens to the tab. -/
theorem invariant_step (invariant : ControlService Hardware → Prop)
    (preserved : ∀ service event, invariant service →
      invariant (ControlService.step deployment.client.app.backend service event).2)
    {tab : BrowserTab Hardware} (h : invariant tab.service) (event : TabEvent Hardware) :
    invariant (step conversions deployment tab event).2.service := by
  rw [service_step]
  cases asked deployment tab event with
  | none => exact h
  | some event => exact preserved tab.service event h

end Service

section Passage

variable {conversions : Conversions} {deployment : Deployment Hardware}

/-- What becomes of commands in a step: nothing; a click sent one; one was posted to the
deployment; or one was lost. -/
theorem passage_cases (conversions : Conversions) (deployment : Deployment Hardware)
    (tab : BrowserTab Hardware) (event : TabEvent Hardware) :
    (step conversions deployment tab event).1 = .none ∨
      (∃ onPage command page, event = .onPage onPage ∧
        Dashboard.step conversions tab.page onPage.1 = (some command, page) ∧
        (step conversions deployment tab event).1 = .sent command) ∨
      (∃ command clock delivery outcome,
        (step conversions deployment tab event).1 = .served command outcome ∧
        asked deployment tab event = deployment.requested command.1 command.2 clock delivery ∧
        deployment.step tab.service (.post command.1 command.2 clock delivery) =
          (outcome, (step conversions deployment tab event).2.service)) ∨
      ∃ command, (step conversions deployment tab event).1 = .lost command := by
  cases event with
  | onPage event =>
      rw [step]
      split
      next page hpage => exact .inl rfl
      next command page hpage => exact .inr (.inl ⟨event, command, page, rfl, hpage, rfl⟩)
  | serves clock delivery =>
      rw [step]
      split
      next command hexchange =>
        refine .inr (.inr (.inl ⟨command, clock, delivery, _, rfl, ?_, rfl⟩))
        rw [asked, hexchange]
      next => exact .inl rfl
  | answers whole =>
      rw [step]
      split <;> exact .inl rfl
  | breaks =>
      rw [step]
      split <;> exact .inl rfl
  | servesStray index clock delivery =>
      rw [step]
      split
      next command hcommand =>
        refine .inr (.inr (.inl ⟨command, clock, delivery, _, rfl, ?_, rfl⟩))
        rw [asked, hcommand]
        rfl
      next => exact .inl rfl
  | loses index =>
      rw [step]
      split
      next command hcommand => exact .inr (.inr (.inr ⟨command, rfl⟩))
      next => exact .inl rfl
  | reports poll sources clock delivery =>
      rw [step]
      split <;> exact .inl rfl
  | fails poll =>
      rw [step]
      split <;> exact .inl rfl
  | arrives index =>
      rw [step]
      split <;> exact .inl rfl
  | refreshes =>
      rw [step]
      split <;> exact .inl rfl
  | elsewhere event => exact .inl rfl

variable {tab after : BrowserTab Hardware} {event : TabEvent Hardware} {command : Command}

/-- A step that brings a command to the core is a request to the deployment. -/
theorem step_of_served {outcome : DeploymentOutcome}
    (h : step conversions deployment tab event = (.served command outcome, after)) :
    ∃ clock delivery,
      asked deployment tab event = deployment.requested command.1 command.2 clock delivery ∧
      deployment.step tab.service (.post command.1 command.2 clock delivery) =
        (outcome, after.service) := by
  have hcases := passage_cases conversions deployment tab event
  rw [h] at hcases
  rcases hcases with hnone | ⟨_, _, _, -, -, hsent⟩ |
    ⟨_, clock, delivery, _, hserved, hasked, hpost⟩ | ⟨_, hlost⟩
  · cases hnone
  · cases hsent
  · cases hserved
    exact ⟨clock, delivery, hasked, hpost⟩
  · cases hlost

/-- A step that sends a command is a click on a button that is not locked. -/
theorem step_of_sent (h : step conversions deployment tab event = (.sent command, after)) :
    ∃ button, event = .click button ∧
      (tab.page.controls (.button button)).disabled = false ∧
      tab.page.post button = .ok command := by
  have hcases := passage_cases conversions deployment tab event
  rw [h] at hcases
  rcases hcases with hnone | ⟨⟨onPage, hlocal⟩, _, _, rfl, hstep, hsent⟩ |
    ⟨_, _, _, _, hserved, -⟩ | ⟨_, hlost⟩
  · cases hnone
  · cases hsent
    obtain ⟨button, rfl, hopen, -, hpost, -⟩ := Dashboard.step_of_sent conversions hstep
    exact ⟨button, rfl, hopen, hpost⟩
  · cases hserved
  · cases hlost

end Passage

/-! ## Commands on their way -/

/-- The command of a step that sent one. -/
def sentIn
    (record : Record (BrowserTab Hardware) (TabEvent Hardware) Passage) : Multiset Command :=
  match record.outcome with
  | .sent command => {command}
  | _ => 0

/-- The command of a step that brought one to the core. -/
def servedIn
    (record : Record (BrowserTab Hardware) (TabEvent Hardware) Passage) : Multiset Command :=
  match record.outcome with
  | .served command _ => {command}
  | _ => 0

/-- The command of a step that lost one. -/
def lostIn
    (record : Record (BrowserTab Hardware) (TabEvent Hardware) Passage) : Multiset Command :=
  match record.outcome with
  | .lost command => {command}
  | _ => 0

/-- The commands that have not got to the core yet. -/
def onTheWay (tab : BrowserTab Hardware) : Multiset Command :=
  ((tab.exchange.map Exchange.stray).getD [] ++ tab.strays : List Command)

/-- The page waits for an answer exactly while there is an exchange. -/
structure Coupled (tab : BrowserTab Hardware) : Prop where
  follows : ∃ last, Dashboard.Follows last tab.page
  exchange : (if tab.exchange.isSome then 1 else 0) = Dashboard.outstanding tab.page

theorem coupled_opened (saved : List Char) (service : ControlService Hardware) :
    Coupled (opened saved service) where
  follows := ⟨none, Dashboard.follows_loaded saved⟩
  exchange := rfl

section Step

variable {conversions : Conversions} {deployment : Deployment Hardware} {tab : BrowserTab Hardware}

/-- The page follows whatever happens to it. -/
theorem Coupled.follows_step (coupled : Coupled tab) (conversions : Conversions)
    (event : DashboardEvent) :
    ∃ last, Dashboard.Follows last (Dashboard.step conversions tab.page event).2 := by
  obtain ⟨last, follows⟩ := coupled.follows
  exact ⟨_, follows.step conversions event⟩

/-- A step on the page that is not an answer leaves it waiting for one as before, or sends a
command. -/
theorem Coupled.outstanding_step (coupled : Coupled tab) (conversions : Conversions)
    {event : DashboardEvent} (unanswered : ∀ answer, event ≠ .answered answer) :
    Dashboard.outstanding (Dashboard.step conversions tab.page event).2 =
      Dashboard.outstanding tab.page +
        if (Dashboard.step conversions tab.page event).1.isSome then 1 else 0 := by
  obtain ⟨last, follows⟩ := coupled.follows
  have hstep := Dashboard.outstanding_step conversions follows event
  have hsettles : Dashboard.settles ⟨tab.page, event, (Dashboard.step conversions tab.page event).1,
      (Dashboard.step conversions tab.page event).2⟩ = false := by
    cases event with
    | answered answer => exact absurd rfl (unanswered answer)
    | _ => rfl
  rw [hsettles, if_neg Bool.false_ne_true, zero_add] at hstep
  exact hstep

/-- Only a click sends. -/
theorem step_eq_none {page : Dashboard} {event : DashboardEvent}
    (h : ∀ button, event ≠ .clicked button) : (Dashboard.step conversions page event).1 = none := by
  cases hstep : Dashboard.step conversions page event with
  | mk sent after =>
      cases sent with
      | none => rfl
      | some command =>
          obtain ⟨button, hevent, -⟩ := Dashboard.step_of_sent conversions hstep
          exact absurd hevent (h button)

/-- A step on the page that neither answers nor sends. -/
theorem Coupled.step_page (coupled : Coupled tab) {event : DashboardEvent}
    (unanswered : ∀ answer, event ≠ .answered answer)
    (unsent : (Dashboard.step conversions tab.page event).1 = none) {changed : BrowserTab Hardware}
    (hpage : changed.page = (Dashboard.step conversions tab.page event).2)
    (hexchange : changed.exchange = tab.exchange) : Coupled changed where
  follows := hpage ▸ coupled.follows_step conversions event
  exchange := by
    rw [hpage, hexchange, coupled.outstanding_step conversions unanswered, unsent,
      coupled.exchange]
    rfl

/-- An answer ends the exchange. -/
theorem Coupled.step_answered (coupled : Coupled tab) (hexchange : tab.exchange.isSome = true)
    {answer : Option PageAnswer} {changed : BrowserTab Hardware}
    (hpage : changed.page = (Dashboard.step conversions tab.page (.answered answer)).2)
    (hnone : changed.exchange = none) : Coupled changed where
  follows := hpage ▸ coupled.follows_step conversions _
  exchange := by
    obtain ⟨last, follows⟩ := coupled.follows
    have hstep := Dashboard.outstanding_step conversions follows (.answered answer)
    have hone : Dashboard.outstanding tab.page = 1 := by
      rw [← coupled.exchange, hexchange]
      rfl
    have hwaits : tab.page.waits = some .answer := by
      by_contra hnot
      rw [Dashboard.outstanding, if_neg hnot] at hone
      cases hone
    have hunsent : (Dashboard.step conversions tab.page (.answered answer)).1 = none :=
      step_eq_none fun _ h => by cases h
    rw [hunsent, hone] at hstep
    rw [hpage, hnone]
    simp [Dashboard.settles, Dashboard.sends, hwaits] at hstep
    exact hstep.symm

theorem Coupled.congr (coupled : Coupled tab) {changed : BrowserTab Hardware}
    (hpage : changed.page = tab.page) (hexchange : changed.exchange.isSome = tab.exchange.isSome) :
    Coupled changed where
  follows := hpage ▸ coupled.follows
  exchange := by rw [hpage, hexchange, coupled.exchange]

theorem Coupled.step (coupled : Coupled tab) (event : TabEvent Hardware) :
    Coupled (step conversions deployment tab event).2 := by
  cases event with
  | onPage event =>
      have hunanswered (answer : Option PageAnswer) : event.1 ≠ .answered answer := by
        intro h
        have hlocal := event.2
        rw [h] at hlocal
        cases hlocal
      rw [BrowserTab.step]
      split
      next page hpage =>
        exact coupled.step_page hunanswered (congrArg Prod.fst hpage)
          (congrArg Prod.snd hpage).symm rfl
      next command page hpage =>
        obtain ⟨button, -, -, -, -, hwaits⟩ := Dashboard.step_of_sent conversions hpage
        have hfollows := coupled.follows_step conversions event.1
        rw [hpage] at hfollows
        exact ⟨hfollows, (if_pos hwaits).symm⟩
  | serves clock delivery =>
      rw [BrowserTab.step]
      split
      next command hexchange => exact coupled.congr rfl (by rw [hexchange]; rfl)
      next => exact coupled
  | answers whole =>
      rw [BrowserTab.step]
      split
      next answer hexchange => exact coupled.step_answered (by rw [hexchange]; rfl) rfl rfl
      next => exact coupled
  | breaks =>
      rw [BrowserTab.step]
      split
      next exchange hexchange => exact coupled.step_answered (by rw [hexchange]; rfl) rfl rfl
      next => exact coupled
  | servesStray index clock delivery =>
      rw [BrowserTab.step]
      split
      · exact coupled.congr rfl rfl
      · exact coupled
  | loses index =>
      rw [BrowserTab.step]
      split
      · exact coupled.congr rfl rfl
      · exact coupled
  | reports poll sources clock delivery =>
      rw [BrowserTab.step]
      split
      · exact coupled.congr (by simp) (by simp)
      · exact coupled
  | fails poll =>
      rw [BrowserTab.step]
      split
      · exact coupled.congr (by simp) (by simp)
      · exact coupled
  | arrives index =>
      rw [BrowserTab.step]
      split
      · exact coupled.step_page (fun _ h => by cases h) (step_eq_none fun _ h => by cases h) rfl
          rfl
      · exact coupled
  | refreshes =>
      rw [BrowserTab.step]
      split
      · exact coupled.step_page (fun _ h => by cases h) (step_eq_none fun _ h => by cases h) rfl
          rfl
      · exact coupled
  | elsewhere event => exact coupled.congr rfl rfl

/-- No exchange is under way when a command is sent. -/
theorem Coupled.exchange_of_sent (coupled : Coupled tab) {event : DashboardEvent}
    {command : Command} {page : Dashboard}
    (h : Dashboard.step conversions tab.page event = (some command, page)) :
    tab.exchange = none := by
  obtain ⟨last, follows⟩ := coupled.follows
  obtain ⟨button, -, -, hidle, -, -⟩ := Dashboard.step_of_sent conversions h
  have hwaits : tab.page.waits = none := by
    simpa [hidle] using follows.inFlight.symm
  have hnone := coupled.exchange
  rw [Dashboard.outstanding, hwaits] at hnone
  simpa using hnone

theorem coe_eraseIdx {commands : List Command} {index : ℕ} {command : Command}
    (h : commands[index]? = some command) :
    ({command} + (commands.eraseIdx index : List Command) : Multiset Command) = commands := by
  obtain ⟨hindex, rfl⟩ := List.getElem?_eq_some_iff.mp h
  exact Multiset.coe_eq_coe.mpr (List.getElem_cons_eraseIdx_perm hindex)

/-- What gets to the core in a step or is lost, and what is on its way after it, was on its way
before it or is sent in it. -/
theorem onTheWay_step (coupled : Coupled tab) (event : TabEvent Hardware) :
    servedIn ⟨tab, event, (step conversions deployment tab event).1,
          (step conversions deployment tab event).2⟩ +
        lostIn ⟨tab, event, (step conversions deployment tab event).1,
          (step conversions deployment tab event).2⟩ +
        onTheWay (step conversions deployment tab event).2 =
      onTheWay tab + sentIn ⟨tab, event, (step conversions deployment tab event).1,
        (step conversions deployment tab event).2⟩ := by
  have hstray (strays : List Command) (index : ℕ) (command : Command)
      (h : strays[index]? = some command) (pending : List Command) :
      ({command} + (pending ++ strays.eraseIdx index : List Command) : Multiset Command) =
        (pending ++ strays : List Command) := by
    rw [← Multiset.coe_add, ← Multiset.coe_add, ← coe_eraseIdx h]
    abel
  cases event with
  | onPage event =>
      rw [step]
      split
      next page hpage => simp [servedIn, lostIn, sentIn, onTheWay]
      next command page hpage =>
        have hnone := coupled.exchange_of_sent hpage
        simp only [servedIn, lostIn, sentIn, onTheWay, hnone, zero_add, Option.map_some,
          Option.map_none, Option.getD_some, Option.getD_none, Exchange.stray, List.nil_append]
        rw [add_comm]
        rfl
  | serves clock delivery =>
      rw [step]
      split
      next command hexchange =>
        simp only [servedIn, lostIn, sentIn, onTheWay, hexchange, add_zero, Option.map_some,
          Option.getD_some, Exchange.stray, List.nil_append]
        rfl
      next => simp [servedIn, lostIn, sentIn, onTheWay]
  | answers whole =>
      rw [step]
      split
      next answer hexchange =>
        simp [servedIn, lostIn, sentIn, onTheWay, hexchange, Exchange.stray]
      next => simp [servedIn, lostIn, sentIn, onTheWay]
  | breaks =>
      rw [step]
      split
      next exchange hexchange =>
        simp only [servedIn, lostIn, sentIn, onTheWay, hexchange, add_zero, zero_add,
          Option.map_none, Option.map_some, Option.getD_none, Option.getD_some, List.nil_append]
        exact Multiset.coe_eq_coe.mpr List.perm_append_comm
      next => simp [servedIn, lostIn, sentIn, onTheWay]
  | servesStray index clock delivery =>
      rw [step]
      split
      next command hcommand =>
        simp only [servedIn, lostIn, sentIn, onTheWay, add_zero]
        exact hstray _ _ _ hcommand _
      next => simp [servedIn, lostIn, sentIn, onTheWay]
  | loses index =>
      rw [step]
      split
      next command hcommand =>
        simp only [servedIn, lostIn, sentIn, onTheWay, add_zero, zero_add]
        exact hstray _ _ _ hcommand _
      next => simp [servedIn, lostIn, sentIn, onTheWay]
  | reports poll sources clock delivery =>
      rw [step]
      split
      · simp [servedIn, lostIn, sentIn, onTheWay]
      · simp [servedIn, lostIn, sentIn, onTheWay]
  | fails poll =>
      rw [step]
      split
      · simp [servedIn, lostIn, sentIn, onTheWay]
      · simp [servedIn, lostIn, sentIn, onTheWay]
  | arrives index =>
      rw [step]
      split
      · simp [servedIn, lostIn, sentIn, onTheWay]
      · simp [servedIn, lostIn, sentIn, onTheWay]
  | refreshes =>
      rw [step]
      split
      · simp [servedIn, lostIn, sentIn, onTheWay]
      · simp [servedIn, lostIn, sentIn, onTheWay]
  | elsewhere event => simp [step, servedIn, lostIn, sentIn, onTheWay]

end Step

/-! ## What clicks come to -/

/-- The calls that commands ask for. -/
def calls (deployment : Deployment Hardware) (commands : Multiset Command) : Multiset AgentCall :=
  commands.filterMap fun command => command.1.command deployment.lower command.2

/-- The call of a step in which a click sent a command: what the button stood for. -/
def clicked (record : Record (BrowserTab Hardware) (TabEvent Hardware) Passage) :
    Multiset AgentCall :=
  match record.outcome with
  | .sent _ =>
      match record.event with
      | .onPage ⟨.clicked button, _⟩ => {record.before.page.command button}
      | _ => 0
  | _ => 0

/-- The call that the service got in a step from a command of the page. -/
def executed (deployment : Deployment Hardware)
    (record : Record (BrowserTab Hardware) (TabEvent Hardware) Passage) : Multiset AgentCall :=
  match record.outcome with
  | .served _ _ =>
      (((asked deployment record.before record.event).bind ServiceEvent.call).toList :
        List AgentCall)
  | _ => 0

/-- The call of a command that was lost in a step, or that got to the core and came to nothing. -/
def wasted (deployment : Deployment Hardware)
    (record : Record (BrowserTab Hardware) (TabEvent Hardware) Passage) : Multiset AgentCall :=
  match record.outcome with
  | .served command _ =>
      if (asked deployment record.before record.event).isNone then calls deployment {command} else 0
  | .lost command => calls deployment {command}
  | _ => 0

section Calls

variable {conversions : Conversions} {deployment : Deployment Hardware} {tab : BrowserTab Hardware}

@[simp]
theorem calls_zero : calls deployment 0 = 0 := rfl

theorem calls_add (first second : Multiset Command) :
    calls deployment (first + second) = calls deployment first + calls deployment second :=
  Multiset.filterMap_add _ _ _

theorem calls_singleton (command : Command) :
    calls deployment {command} =
      ((command.1.command deployment.lower command.2).toList : List AgentCall) := by
  rw [calls, ← Multiset.coe_singleton, Multiset.filterMap_coe]
  cases h : command.1.command deployment.lower command.2 <;> simp [h]

/-- The service gets what a command asks for, if anything. -/
theorem requested_cases (deployment : Deployment Hardware) (command : Command) (clock : Clock)
    (delivery : Delivery) :
    deployment.requested command.1 command.2 clock delivery = none ∨
      ∃ event, deployment.requested command.1 command.2 clock delivery = some event ∧
        event.call = command.1.command deployment.lower command.2 := by
  cases hrequested : deployment.requested command.1 command.2 clock delivery with
  | none => exact .inl rfl
  | some event =>
      refine .inr ⟨event, rfl, ?_⟩
      rw [Deployment.requested] at hrequested
      split at hrequested
      · obtain ⟨call, hcall, rfl⟩ := Option.map_eq_some_iff.mp hrequested
        rw [AgentCall.call_event, Core.command_of_verdict hcall]
      · cases hrequested

/-- In a step every call of a command is accounted for. -/
theorem calls_step (coupled : Coupled tab) (event : TabEvent Hardware) :
    executed deployment ⟨tab, event, (step conversions deployment tab event).1,
          (step conversions deployment tab event).2⟩ +
        wasted deployment ⟨tab, event, (step conversions deployment tab event).1,
          (step conversions deployment tab event).2⟩ +
        calls deployment (onTheWay (step conversions deployment tab event).2) =
      calls deployment (onTheWay tab) + clicked ⟨tab, event,
        (step conversions deployment tab event).1, (step conversions deployment tab event).2⟩ := by
  have hconserved := congrArg (calls deployment)
    (@onTheWay_step Hardware conversions deployment tab coupled event)
  rw [calls_add, calls_add, calls_add] at hconserved
  cases hstep : step conversions deployment tab event with
  | mk passage after =>
      rw [hstep] at hconserved
      cases passage with
      | none => exact hconserved
      | sent command =>
          obtain ⟨button, rfl, -, hpost⟩ := step_of_sent hstep
          obtain ⟨-, rfl⟩ := Dashboard.post_eq_ok hpost
          refine hconserved.trans (congrArg (_ + ·) ?_)
          show calls deployment {(Dashboard.route button, tab.page.request button)} =
            {tab.page.command button}
          rw [calls_singleton, Dashboard.command_request]
          rfl
      | served command outcome =>
          obtain ⟨clock, delivery, hasked, -⟩ := step_of_served hstep
          rw [executed, wasted]
          dsimp only
          rw [hasked]
          refine Eq.trans (congrArg (· + _) ?_) hconserved
          rcases requested_cases deployment command clock delivery with
            hnone | ⟨event, hsome, hcall⟩
          · simp [hnone, servedIn, lostIn]
          · simp [hsome, hcall, servedIn, lostIn, calls_singleton]
      | lost command => exact hconserved

end Calls

/-- In any history of a tab the service goes through what is asked of it, and every click that
sent a command is accounted for: the service got the call its button stood for, once, or the
command was lost or came to nothing, or it is still on its way. The service gets no other call
from the page. -/
theorem clicks_accounted (conversions : Conversions) (deployment : Deployment Hardware)
    (saved : List Char) (service : ControlService Hardware) (events : List (TabEvent Hardware)) :
    (finalState (step conversions deployment) (opened saved service) events).service =
        finalState (ControlService.step deployment.client.app.backend) service
          ((records (step conversions deployment) (opened saved service) events).filterMap
            fun record => asked deployment record.before record.event) ∧
      ((records (step conversions deployment) (opened saved service) events).map clicked).sum =
        ((records (step conversions deployment) (opened saved service) events).map
            (executed deployment)).sum +
          ((records (step conversions deployment) (opened saved service) events).map
            (wasted deployment)).sum +
          calls deployment (onTheWay
            (finalState (step conversions deployment) (opened saved service) events)) := by
  refine ⟨view_finalState_of_step (fun tab event => service_step tab event) _ events, ?_⟩
  have hbalance := sum_balance (step conversions deployment) Coupled
    (fun tab => calls deployment (onTheWay tab)) clicked
    (fun record => executed deployment record + wasted deployment record)
    (fun _ event coupled => coupled.step event) (fun _ event coupled => calls_step coupled event)
    (coupled_opened saved service) events
  have hnone : calls deployment (onTheWay (opened saved service)) = 0 := rfl
  rw [hnone, zero_add] at hbalance
  rw [← hbalance, List.sum_map_add]

end BrowserTab

end TrueFan
