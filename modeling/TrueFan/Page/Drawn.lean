/-
# What the page draws is so

A status takes its time to the page, and another may overtake it. Still, whatever the page
draws in any history of a tab is the status that stands in for a missing one, the status of a
core that has no answer of the agent, or a snapshot that the agent's service gave out in that
history. So no command is sent but on the word of a snapshot in which the policy left the
controls open, once anything was drawn.
-/

import TrueFan.Page.Truth

namespace TrueFan

open Python Foundations

namespace Dashboard

/-- What is drawn of it. -/
def lockedDrawing : Drawing where
  state := .str "unknown"
  reason := .str "control_agent_unavailable"
  duty := none
  mode := .str "unknown"
  agentOnline := false
  backend := .str "unknown"
  maxDrive := none
  cpu := none
  nvme := none
  avgDrive := none
  drives := []
  fans := []

section Locked

variable {payload : List (String × Json)}

theorem allows_sent_of_locked (locked : Core.Locked payload) : allows (sent payload) = false := by
  have henabled : (Json.get (sent payload) "pwm_control_enabled").isTrue = false := by
    rw [get_sent, locked.pwmControlEnabled]
    rfl
  rw [allows, henabled]
  rfl

theorem draw_of_locked (conversions : Conversions) (thresholds : Json)
    (locked : Core.Locked payload) :
    draw conversions thresholds (sent payload) = .ok lockedDrawing := by
  have hbackend (name : String) : Json.get (Json.get (sent payload) "backend").membersOf name =
      (Json.get Core.unknownBackend name).sortKeys := by
    rw [get_sent, locked.backend, Json.get_membersOf_sortKeys]
    rfl
  have hsafety (name : String) : Json.get (Json.get (sent payload) "safety").membersOf name =
      (Json.get Core.lockedSafety name).sortKeys := by
    rw [get_sent, locked.safety, Json.get_membersOf_sortKeys]
    rfl
  have htemperatures (name : String) : Json.get
      (Json.get (Json.get (sent payload) "backend").membersOf "temperatures").membersOf name =
        .null := by
    rw [hbackend, Json.get_membersOf_sortKeys]
    rfl
  have hdrives : (Json.get (sent payload) "drives").arrayItems = [] := by
    rw [get_sent, locked.drives, Json.sortKeys]
    rfl
  have honline : (Json.get (sent payload) "agent_available").holds = false := by
    rw [get_sent, locked.agentAvailable]
    rfl
  have hfans : (Json.get (Json.get (sent payload) "backend").membersOf "fan_rpms").entries =
      [] := by
    rw [hbackend]
    show (Json.object []).sortKeys.entries = []
    rw [Json.sortKeys_object]
    rfl
  have hstate : Json.get (Json.get (sent payload) "safety").membersOf "state" =
      .str "unknown" := hsafety "state"
  have hreason : Json.get (Json.get (sent payload) "safety").membersOf "reason" =
      .str "control_agent_unavailable" := hsafety "reason"
  have hduty : Json.get (Json.get (sent payload) "backend").membersOf "duty_percent" = .null :=
    hbackend "duty_percent"
  have hmode : Json.get (Json.get (sent payload) "backend").membersOf "mode" = .str "unknown" :=
    hbackend "mode"
  have hname : Json.get (Json.get (sent payload) "backend").membersOf "backend" =
      .str "unknown" := hbackend "backend"
  rw [draw]
  dsimp only
  rw [hstate, hreason, hduty, hmode, hname, hdrives, honline, hfans, htemperatures, htemperatures,
    htemperatures]
  rfl

theorem not_hot_of_locked (locked : Core.Locked payload) :
    (stateOf (sent payload)).isText "hot" = false := by
  have hstate := state_of_draw plainConversions
    (draw_of_locked plainConversions .null locked)
  rw [← hstate]
  rfl

end Locked

end Dashboard

namespace BrowserTab

variable {Hardware : Type}

/-- The client, with this becoming of its requests. -/
abbrev clientOn (deployment : Deployment Hardware) (delivery : Delivery) : PwmClient Hardware :=
  { deployment.client with delivery := fun _ => delivery }

/-- The core's status is that of no agent, or shows a snapshot of the agent's service. -/
theorem status_cases {deployment : Deployment Hardware}
    (rendered : deployment.client.app.renderStatus = Agent.renderStatus) (sources : StatusSources)
    (clock : Clock) (delivery : Delivery) {service : ControlService Hardware}
    (bounded : ControlService.Bounded service) :
    Core.Locked (status deployment sources clock delivery service).1 ∨
      ∃ snapshot after ordered,
        ControlService.status deployment.client.app.backend clock service = .ok snapshot after ∧
        ordered.Pairwise (fun first second => Core.atLeastAsHot first second) ∧
        Dashboard.Relays (status deployment sources clock delivery service).1 snapshot ordered := by
  have hrendered : (clientOn deployment delivery).app.renderStatus = Agent.renderStatus := rendered
  by_cases hoffered : Json.get (status deployment sources clock delivery service).1
      "pwm_control_enabled" = .bool true
  · obtain ⟨authorization, snapshot, after, reaches, hstatus, finite⟩ :=
      Core.exists_snapshot_of_offered hrendered hoffered
    obtain ⟨_, _, -, -, ordered, permuted, sorted, shows⟩ :=
      Core.status_of_snapshot hrendered sources reaches hstatus finite
    exact .inr ⟨snapshot, after, ordered, hstatus, sorted, shows,
      ControlService.thresholds_of_status bounded hstatus, finite, permuted⟩
  · rcases Core.statusPayload_cases sources
      (returned ((clientOn deployment delivery).request clock .status service)) with
      ⟨answer, data, updates, -, -, hupdates, hpayload⟩ | ⟨-, locked⟩
    · obtain ⟨_, _, _, _, -, -, -, -, shows⟩ := Core.shows_of_agentUpdates answer hupdates
      rw [← hpayload] at shows
      exact absurd shows.pwmControlEnabled hoffered
    · exact .inl locked

/-! ## Where a drawing comes from -/

/-- The core answered a poll with this status in a step of the history. -/
def Reported (deployment : Deployment Hardware) (history : List (TabRecord Hardware))
    (payload : Json) : Prop :=
  ∃ record ∈ history, ∃ poll sources clock delivery,
    record.event = .reports poll sources clock delivery ∧
    Dashboard.arrived (status deployment sources clock delivery record.before.service).1 =
      some payload

/-- What is drawn, if anything is, is drawn of this status, and it stands in for one or was
reported. -/
structure Draws (conversions : Conversions) (deployment : Deployment Hardware)
    (history : List (TabRecord Hardware)) (last : Option (List (String × Json)))
    (drawing : Option Drawing) : Prop where
  nothing : last = none → drawing = none
  something : ∀ data, last = some data →
    (data = Dashboard.unavailable ∨
      ∃ payload, Reported deployment history payload ∧ data = payload.membersOf) ∧
    ∃ before drawn, drawing = some drawn ∧
      Dashboard.draw conversions (Dashboard.adopt before data) data = .ok drawn

/-- Every status on its way to the page was reported, and so was the one it follows. -/
structure Informed (conversions : Conversions) (deployment : Deployment Hardware)
    (history : List (TabRecord Hardware)) (tab : BrowserTab Hardware) : Prop where
  statuses : ∀ payload, some payload ∈ tab.statuses → Reported deployment history payload
  refreshed : ∀ payload, tab.refreshed = some (some payload) →
    Reported deployment history payload
  drawn : ∃ last, Dashboard.Follows last tab.page ∧
    Draws conversions deployment history last tab.page.drawing

section Informed

variable {conversions : Conversions} {deployment : Deployment Hardware}
  {history : List (TabRecord Hardware)} {next : TabRecord Hardware}
  {tab changed : BrowserTab Hardware}

theorem Reported.concat {payload : Json} (h : Reported deployment history payload) :
    Reported deployment (history ++ [next]) payload := by
  obtain ⟨record, hmem, hreport⟩ := h
  exact ⟨record, List.mem_append_left _ hmem, hreport⟩

theorem Draws.concat {last : Option (List (String × Json))} {drawing : Option Drawing}
    (draws : Draws conversions deployment history last drawing) :
    Draws conversions deployment (history ++ [next]) last drawing where
  nothing := draws.nothing
  something data hdata := by
    obtain ⟨hsource, hdrawn⟩ := draws.something data hdata
    refine ⟨?_, hdrawn⟩
    rcases hsource with hstand | ⟨payload, hreported, hpayload⟩
    · exact .inl hstand
    · exact .inr ⟨payload, hreported.concat, hpayload⟩

theorem informed_opened (saved : List Char) (service : ControlService Hardware) :
    Informed conversions deployment [] (opened saved service) where
  statuses _ h := by cases h
  refreshed _ h := by cases h
  drawn := ⟨none, Dashboard.follows_loaded saved, fun _ => rfl, fun _ h => by cases h⟩

/-- A step that brings no status to the page. -/
theorem Informed.concat (informed : Informed conversions deployment history tab)
    (statuses : ∀ payload, some payload ∈ changed.statuses → some payload ∈ tab.statuses ∨
      Reported deployment (history ++ [next]) payload)
    (refreshed : ∀ payload, changed.refreshed = some (some payload) →
      tab.refreshed = some (some payload) ∨ Reported deployment (history ++ [next]) payload)
    (follows : ∀ last, Dashboard.Follows last tab.page → Dashboard.Follows last changed.page)
    (drawing : changed.page.drawing = tab.page.drawing) :
    Informed conversions deployment (history ++ [next]) changed where
  statuses payload h := by
    rcases statuses payload h with hbefore | hreported
    · exact (informed.statuses payload hbefore).concat
    · exact hreported
  refreshed payload h := by
    rcases refreshed payload h with hbefore | hreported
    · exact (informed.refreshed payload hbefore).concat
    · exact hreported
  drawn := by
    obtain ⟨last, hfollows, hdraws⟩ := informed.drawn
    exact ⟨last, follows last hfollows, drawing ▸ hdraws.concat⟩

/-- A step that leaves the page and the statuses alone. -/
theorem Informed.congr (informed : Informed conversions deployment history tab)
    (statuses : changed.statuses = tab.statuses) (refreshed : changed.refreshed = tab.refreshed)
    (page : changed.page = tab.page) :
    Informed conversions deployment (history ++ [next]) changed :=
  informed.concat (fun _ h => .inl (statuses ▸ h)) (fun _ h => .inl (refreshed ▸ h))
    (fun _ h => page ▸ h) (page ▸ rfl)

/-- Drawing a status that was reported, or failed to arrive. -/
theorem draws_poll {arrival : Option Json} (page : Dashboard)
    (source : ∀ payload, arrival = some payload → Reported deployment history payload) :
    Draws conversions deployment history (some (Dashboard.polledStatus conversions arrival page))
      (Dashboard.poll conversions arrival page).drawing where
  nothing h := by cases h
  something data hdata := by
    cases hdata
    obtain ⟨before, thresholds, drawing, hdraw, hpoll⟩ :=
      Dashboard.poll_eq conversions arrival page
    refine ⟨?_, before, drawing, by rw [hpoll]; rfl, hdraw⟩
    cases arrival with
    | none => exact .inl rfl
    | some payload =>
        rw [Dashboard.polledStatus]
        split
        · exact .inr ⟨payload, source payload rfl, rfl⟩
        · exact .inl rfl

/-- A step of the page to which no status comes draws nothing. -/
theorem drawing_step {page : Dashboard} {event : DashboardEvent}
    (unpolled : ∀ arrival, event ≠ .polled arrival) (unrefreshed : ∀ arrival,
      event ≠ .refreshed arrival) :
    (Dashboard.step conversions page event).2.drawing = page.drawing := by
  cases hstep : Dashboard.step conversions page event with
  | mk sent after =>
      rcases Dashboard.step_cases conversions hstep with ⟨button, -, -, hrun⟩ |
        ⟨answer, -, -, -, rfl⟩ | ⟨arrival, hevent, -⟩ | ⟨arrival, hevent, -⟩ | ⟨-, untouched, -⟩
      · rcases Dashboard.runAction_cases button page with ⟨-, hrun'⟩ | ⟨-, thrown, hrun'⟩ |
          ⟨-, command, -, hrun'⟩
        all_goals
          cases hrun'.symm.trans hrun
          rfl
      · rw [Dashboard.resume]
        split
        · rfl
        · split <;> rfl
      · exact absurd hevent (unpolled arrival)
      · exact absurd hevent (unrefreshed arrival)
      · exact untouched.drawing

/-- Such a step follows the status that was drawn before it. -/
theorem follows_step {last : Option (List (String × Json))} {page : Dashboard}
    {event : DashboardEvent} (unpolled : ∀ arrival, event ≠ .polled arrival)
    (unrefreshed : ∀ arrival, event ≠ .refreshed arrival) (follows : Dashboard.Follows last page) :
    Dashboard.Follows last (Dashboard.step conversions page event).2 := by
  have hstep := follows.step conversions event
  cases event with
  | polled arrival => exact absurd rfl (unpolled arrival)
  | refreshed arrival => exact absurd rfl (unrefreshed arrival)
  | _ => exact hstep

/-- So does a step of a tab in which only that happens to the page. -/
theorem Informed.step_page (informed : Informed conversions deployment history tab)
    {event : DashboardEvent} (unpolled : ∀ arrival, event ≠ .polled arrival)
    (unrefreshed : ∀ arrival, event ≠ .refreshed arrival)
    (statuses : changed.statuses = tab.statuses) (refreshed : changed.refreshed = tab.refreshed)
    (page : changed.page = (Dashboard.step conversions tab.page event).2) :
    Informed conversions deployment (history ++ [next]) changed :=
  informed.concat (fun _ h => .inl (statuses ▸ h)) (fun _ h => .inl (refreshed ▸ h))
    (fun _ h => page ▸ follows_step unpolled unrefreshed h)
    (page ▸ drawing_step unpolled unrefreshed)

theorem Informed.step (informed : Informed conversions deployment history tab)
    (event : TabEvent Hardware) :
    Informed conversions deployment
      (history ++ [⟨tab, event, (step conversions deployment tab event).1,
        (step conversions deployment tab event).2⟩])
      (step conversions deployment tab event).2 := by
  cases event with
  | onPage event =>
      have hunpolled (arrival : Option Json) : event.1 ≠ .polled arrival := by
        intro h
        have hlocal := event.2
        rw [h] at hlocal
        cases hlocal
      have hunrefreshed (arrival : Option Json) : event.1 ≠ .refreshed arrival := by
        intro h
        have hlocal := event.2
        rw [h] at hlocal
        cases hlocal
      rw [BrowserTab.step]
      split
      next page hpage =>
        exact informed.step_page hunpolled hunrefreshed rfl rfl (congrArg Prod.snd hpage).symm
      next command page hpage =>
        exact informed.step_page hunpolled hunrefreshed rfl rfl (congrArg Prod.snd hpage).symm
  | serves clock delivery =>
      rw [BrowserTab.step]
      split <;> exact informed.congr rfl rfl rfl
  | answers whole =>
      rw [BrowserTab.step]
      split
      · exact informed.step_page (fun _ h => by cases h) (fun _ h => by cases h) rfl rfl rfl
      · exact informed.congr rfl rfl rfl
  | breaks =>
      rw [BrowserTab.step]
      split
      · exact informed.step_page (fun _ h => by cases h) (fun _ h => by cases h) rfl rfl rfl
      · exact informed.congr rfl rfl rfl
  | servesStray index clock delivery =>
      rw [BrowserTab.step]
      split <;> exact informed.congr rfl rfl rfl
  | loses index =>
      rw [BrowserTab.step]
      split <;> exact informed.congr rfl rfl rfl
  | reports poll sources clock delivery =>
      rw [BrowserTab.step]
      split
      next =>
        refine informed.concat (fun payload h => ?_) (fun payload h => ?_)
          (fun _ h => by rwa [page_report]) (by rw [page_report])
        · cases poll with
          | regular =>
              rcases List.mem_append.mp h with hbefore | hnew
              · exact .inl hbefore
              · exact .inr ⟨_, List.mem_append_right _ (List.mem_singleton_self _), _, _, _, _, rfl,
                  (List.mem_singleton.mp hnew).symm⟩
          | refresh => exact .inl h
        · cases poll with
          | regular => exact .inl h
          | refresh =>
              exact .inr ⟨_, List.mem_append_right _ (List.mem_singleton_self _), _, _, _, _, rfl,
                Option.some.inj h⟩
      next => exact informed.congr rfl rfl rfl
  | fails poll =>
      rw [BrowserTab.step]
      split
      next =>
        refine informed.concat (fun payload h => ?_) (fun payload h => ?_)
          (fun _ h => by rwa [page_report]) (by rw [page_report])
        · cases poll with
          | regular => simpa [report] using Or.inl h
          | refresh => exact .inl h
        · cases poll with
          | regular => exact .inl h
          | refresh => cases h
      next => exact informed.congr rfl rfl rfl
  | arrives index =>
      rw [BrowserTab.step]
      split
      next arrival harrival =>
        have hsource (payload : Json) (h : arrival = some payload) :
            Reported deployment history payload :=
          informed.statuses payload (h ▸ List.mem_of_getElem? harrival)
        obtain ⟨last, follows, draws⟩ := informed.drawn
        refine ⟨fun payload h => ?_, fun payload h => (informed.refreshed payload h).concat, ?_⟩
        · exact (informed.statuses payload (List.mem_of_mem_eraseIdx h)).concat
        · have hfollows := follows.step conversions (.polled arrival)
          by_cases hpolls : tab.page.polls = 0
          · refine ⟨last, ?_, ?_⟩
            · simpa only [Dashboard.noteDrawn, if_pos hpolls] using hfollows
            · simpa only [Dashboard.step, if_pos hpolls] using draws.concat
          · refine ⟨some (Dashboard.polledStatus conversions arrival tab.page), ?_, ?_⟩
            · simpa only [Dashboard.noteDrawn, if_neg hpolls] using hfollows
            · simpa only [Dashboard.step, if_neg hpolls] using
                (draws_poll tab.page hsource).concat
      next => exact informed.congr rfl rfl rfl
  | refreshes =>
      rw [BrowserTab.step]
      split
      next arrival harrival =>
        have hsource (payload : Json) (h : arrival = some payload) :
            Reported deployment history payload :=
          informed.refreshed payload (h ▸ harrival)
        obtain ⟨last, follows, draws⟩ := informed.drawn
        refine ⟨fun payload h => (informed.statuses payload h).concat,
          (fun payload h => by cases h), ?_⟩
        have hfollows := follows.step conversions (.refreshed arrival)
        by_cases hwaits : tab.page.waits = some .refresh
        · refine ⟨some (Dashboard.polledStatus conversions arrival tab.page), ?_, ?_⟩
          · simpa only [Dashboard.noteDrawn, if_pos hwaits] using hfollows
          · simp only [Dashboard.step, if_pos hwaits]
            exact (draws_poll tab.page hsource).concat
        · refine ⟨last, ?_, ?_⟩
          · simpa only [Dashboard.noteDrawn, if_neg hwaits] using hfollows
          · simpa only [Dashboard.step, if_neg hwaits] using draws.concat
      next => exact informed.congr rfl rfl rfl
  | elsewhere event => exact informed.congr rfl rfl rfl

/-! ## The word of the policy -/

/-- The agent's service gave the snapshot out to a poll in a step of the history. -/
def GaveOut (deployment : Deployment Hardware) (history : List (TabRecord Hardware))
    (snapshot : StatusPayload) : Prop :=
  ∃ record ∈ history, ∃ poll sources clock delivery after,
    record.event = .reports poll sources clock delivery ∧
    ControlService.status deployment.client.app.backend clock record.before.service =
      .ok snapshot after

/-- A status that was reported is that of no agent, or shows a snapshot that was given out. -/
theorem Reported.cases (rendered : deployment.client.app.renderStatus = Agent.renderStatus)
    (bounded : ∀ record ∈ history, ControlService.Bounded record.before.service) {payload : Json}
    (reported : Reported deployment history payload) :
    ∃ members, payload.membersOf = Dashboard.sent members ∧
      (Core.Locked members ∨ ∃ snapshot ordered, GaveOut deployment history snapshot ∧
        ordered.Pairwise (fun first second => Core.atLeastAsHot first second) ∧
        Dashboard.Relays members snapshot ordered) := by
  obtain ⟨record, hmem, poll, sources, clock, delivery, hevent, harrived⟩ := reported
  rw [Dashboard.arrived] at harrived
  split at harrived
  next hcompliant =>
    cases harrived
    refine ⟨_, Json.membersOf_sortKeys_object _, ?_⟩
    rcases status_cases rendered sources clock delivery (bounded record hmem) with locked |
      ⟨snapshot, after, ordered, hstatus, sorted, relays⟩
    · exact .inl locked
    · exact .inr ⟨snapshot, ordered,
        ⟨record, hmem, poll, sources, clock, delivery, after, hevent, hstatus⟩, sorted, relays⟩
  next => cases harrived

/-- What is drawn is that of a missing status, of no agent, or a snapshot that was given out. -/
theorem Draws.cases (keeps : conversions.Keeps)
    (rendered : deployment.client.app.renderStatus = Agent.renderStatus)
    (bounded : ∀ record ∈ history, ControlService.Bounded record.before.service)
    {last : Option (List (String × Json))} {drawing : Drawing}
    (draws : Draws conversions deployment history last (some drawing)) :
    drawing = Dashboard.noDrawing ∨ drawing = Dashboard.lockedDrawing ∨
      ∃ snapshot ordered, GaveOut deployment history snapshot ∧
        Dashboard.ShowsAgent snapshot ordered drawing := by
  cases last with
  | none => cases draws.nothing rfl
  | some data =>
      obtain ⟨hsource, before, drawn, hdrawing, hdraw⟩ := draws.something data rfl
      cases hdrawing
      rcases hsource with rfl | ⟨payload, reported, rfl⟩
      · rw [Dashboard.draw_unavailable] at hdraw
        exact .inl (Except.ok.inj hdraw).symm
      · obtain ⟨members, hmembers, hcases⟩ := reported.cases rendered bounded
        rw [hmembers] at hdraw
        rcases hcases with locked | ⟨snapshot, ordered, gaveOut, sorted, relays⟩
        · rw [Dashboard.draw_of_locked conversions _ locked] at hdraw
          exact .inr (.inl (Except.ok.inj hdraw).symm)
        · obtain ⟨shown, hshown, depicts⟩ := Dashboard.draw_of_relays keeps relays before
          cases hshown.symm.trans hdraw
          exact .inr (.inr ⟨snapshot, ordered, gaveOut,
            depicts.showsAgent relays.permuted sorted⟩)

/-- A status that allows a button shows a snapshot that was given out, in which the policy left
the controls open, or which is hot and the button the emergency one. -/
theorem Draws.word (rendered : deployment.client.app.renderStatus = Agent.renderStatus)
    (bounded : ∀ record ∈ history, ControlService.Bounded record.before.service)
    {last : Option (List (String × Json))} {drawing : Option Drawing}
    (draws : Draws conversions deployment history last drawing) {button : PageButton}
    (warranted : Dashboard.Warranted last button) :
    drawing = none ∨ ∃ snapshot, GaveOut deployment history snapshot ∧
      (snapshot.safety.controlsLocked = false ∨
        button = .profile .emergency ∧ snapshot.safety.state = .hot) := by
  rcases warranted with rfl | ⟨data, rfl, hpermits⟩
  · exact .inl (draws.nothing rfl)
  · obtain ⟨hsource, -⟩ := draws.something data rfl
    rcases hsource with rfl | ⟨payload, reported, rfl⟩
    · rcases hpermits with hallows | ⟨-, hhot⟩
      · cases hallows
      · cases hhot
    · obtain ⟨members, hmembers, hcases⟩ := reported.cases rendered bounded
      rw [hmembers] at hpermits
      rcases hcases with locked | ⟨snapshot, ordered, gaveOut, -, relays⟩
      · rw [Dashboard.Permits, Dashboard.allows_sent_of_locked locked,
          Dashboard.not_hot_of_locked locked] at hpermits
        rcases hpermits with hallows | ⟨-, hhot⟩
        · cases hallows
        · cases hhot
      · rw [Dashboard.Permits, relays.allows_sent, relays.stateOf_sent] at hpermits
        refine .inr ⟨snapshot, gaveOut, ?_⟩
        rcases hpermits with hallows | ⟨hemergency, hhot⟩
        · exact .inl (by simpa using hallows)
        · exact .inr ⟨hemergency, of_decide_eq_true hhot⟩

/-- In any history of a tab the service's snapshots bring the policy's thresholds. -/
theorem bounded_records (conversions : Conversions) (deployment : Deployment Hardware)
    (saved : List Char) {service : ControlService Hardware}
    (bounded : ControlService.Bounded service) (events : List (TabEvent Hardware)) :
    ∀ record ∈ records (step conversions deployment) (opened saved service) events,
      ControlService.Bounded record.before.service := by
  have preserved (tab : BrowserTab Hardware) (event : TabEvent Hardware)
      (h : ControlService.Bounded tab.service) :
      ControlService.Bounded (step conversions deployment tab event).2.service :=
    invariant_step ControlService.Bounded (fun _ event => ControlService.bounded_step event) h event
  exact records_invariant (step conversions deployment) preserved bounded events

theorem informed_finalState (conversions : Conversions) (deployment : Deployment Hardware)
    (saved : List Char) (service : ControlService Hardware) (events : List (TabEvent Hardware)) :
    Informed conversions deployment
      (records (step conversions deployment) (opened saved service) events)
      (finalState (step conversions deployment) (opened saved service) events) :=
  records_accounted (step conversions deployment) (fun _ _ event h => h.step event)
    (informed_opened saved service) events

end Informed

section History

variable {conversions : Conversions} {deployment : Deployment Hardware}

/-- Whatever overtakes what, is lost or broken off: what a tab has drawn, at the end of any
history with an agent in any state its service can get into, is that of a missing status, that
of a core without an agent, or shows a snapshot that the service gave out in that history. -/
theorem drawn_given_out (keeps : conversions.Keeps)
    (rendered : deployment.client.app.renderStatus = Agent.renderStatus) (saved : List Char)
    (hardware : Hardware) (policy : SafetyPolicy) (before : List (ServiceEvent Hardware))
    (events : List (TabEvent Hardware)) :
    ∀ drawing, (finalState (step conversions deployment) (opened saved
        (finalState (ControlService.step deployment.client.app.backend) (.init hardware policy)
          before)) events).page.drawing = some drawing →
      drawing = Dashboard.noDrawing ∨ drawing = Dashboard.lockedDrawing ∨
        ∃ snapshot ordered,
          GaveOut deployment (records (step conversions deployment) (opened saved
            (finalState (ControlService.step deployment.client.app.backend)
              (.init hardware policy) before)) events) snapshot ∧
          Dashboard.ShowsAgent snapshot ordered drawing := by
  intro drawing hdrawing
  obtain ⟨last, -, draws⟩ := (informed_finalState conversions deployment saved
    (finalState (ControlService.step deployment.client.app.backend) (.init hardware policy)
      before) events).drawn
  rw [hdrawing] at draws
  exact draws.cases keeps rendered (bounded_records conversions deployment saved
    (ControlService.bounded_finalState _ hardware policy before) events)

/-- An agent on a tree with one channel, whose snapshots are rendered. -/
def rendering : Deployment (FileTree × Unit) :=
  { Deployment.oneChannel with client := Core.renderingClient }

/-- A poll of it, and a click once its status arrived. -/
def polledClick : List (TabEvent (FileTree × Unit)) :=
  [.reports .regular Core.bareSources (.ofInt 1) .delivered, .arrives 0,
    .click .apply]

theorem drawn_given_out_of_polledClick :
    ∃ drawing, (finalState (step Dashboard.plainConversions rendering)
        (opened "token".toList PwmClient.oneChannelService) polledClick).page.drawing =
          some drawing ∧
      (drawing = Dashboard.noDrawing ∨ drawing = Dashboard.lockedDrawing ∨
        ∃ snapshot ordered, GaveOut rendering (records (step Dashboard.plainConversions rendering)
            (opened "token".toList PwmClient.oneChannelService) polledClick) snapshot ∧
          Dashboard.ShowsAgent snapshot ordered drawing) := by
  have hdrawn : (finalState (step Dashboard.plainConversions rendering)
      (opened "token".toList PwmClient.oneChannelService) polledClick).page.drawing.isSome =
        true := by
    decide +kernel
  obtain ⟨drawing, hdrawing⟩ := Option.isSome_iff_exists.mp hdrawn
  exact ⟨drawing, hdrawing, drawn_given_out Dashboard.keeps_plainConversions rfl "token".toList
    (HwmonPwmBackend.automaticTree, ()) (.fresh fun _ => .stored) [] polledClick drawing hdrawing⟩

/-- In such a history a command is sent only by a click, before anything was drawn or on the
word of a snapshot that the service gave out before in that history: one in which the policy
left the controls open, or a hot one if the click is on the emergency button. -/
theorem sends_given_out (rendered : deployment.client.app.renderStatus = Agent.renderStatus)
    (saved : List Char) (hardware : Hardware) (policy : SafetyPolicy)
    (before : List (ServiceEvent Hardware)) (events : List (TabEvent Hardware))
    (earlier later : List (TabRecord Hardware)) (record : TabRecord Hardware)
    (history : records (step conversions deployment) (opened saved
        (finalState (ControlService.step deployment.client.app.backend) (.init hardware policy)
          before)) events = earlier ++ record :: later)
    (command : Command) (sending : record.outcome = .sent command) :
    ∃ button, record.event = .click button ∧
      (record.before.page.drawing = none ∨ ∃ snapshot, GaveOut deployment earlier snapshot ∧
        (snapshot.safety.controlsLocked = false ∨
          button = .profile .emergency ∧ snapshot.safety.state = .hot)) := by
  have hrecord := step_of_mem_records (step conversions deployment)
    (history ▸ List.mem_append_right earlier List.mem_cons_self)
  rw [sending] at hrecord
  obtain ⟨button, hevent, hopen, -⟩ := step_of_sent hrecord
  obtain ⟨first, rfl, hbefore⟩ :=
    before_of_records_eq_append_cons (step conversions deployment) history
  obtain ⟨last, follows, draws⟩ := (informed_finalState conversions deployment saved
    (finalState (ControlService.step deployment.client.app.backend) (.init hardware policy)
      before) first).drawn
  rw [← hbefore] at follows draws
  exact ⟨button, hevent, draws.word rendered (bounded_records conversions deployment saved
    (ControlService.bounded_finalState _ hardware policy before) first)
    (follows.warranted hopen)⟩

/-- A command was sent. -/
def isSent : Passage → Bool
  | .sent _ => true
  | _ => false

theorem isSent_iff {passage : Passage} :
    isSent passage = true ↔ ∃ command, passage = .sent command := by
  cases passage <;> simp [isSent]

theorem sends_given_out_of_polledClick :
    ∃ first second third,
      records (step Dashboard.plainConversions rendering)
          (opened "token".toList PwmClient.oneChannelService) polledClick =
        [first, second, third] ∧
      (third.before.page.drawing = none ∨ ∃ snapshot, GaveOut rendering [first, second] snapshot ∧
        (snapshot.safety.controlsLocked = false ∨ snapshot.safety.state = .hot)) := by
  refine ⟨_, _, _, rfl, ?_⟩
  have hsent : ∀ record ∈ (records (step Dashboard.plainConversions rendering)
      (opened "token".toList PwmClient.oneChannelService) polledClick)[2]?,
        isSent record.outcome = true := by
    decide +kernel
  obtain ⟨command, hcommand⟩ := isSent_iff.mp (hsent _ rfl)
  obtain ⟨button, -, hword⟩ := sends_given_out rfl "token".toList
    (HwmonPwmBackend.automaticTree, ()) (.fresh fun _ => .stored) [] polledClick [_, _] []
    _ rfl command hcommand
  exact hword.imp_right fun ⟨snapshot, gaveOut, h⟩ => ⟨snapshot, gaveOut, h.imp_right And.right⟩

end History

end BrowserTab

end TrueFan
