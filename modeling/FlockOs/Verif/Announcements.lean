import FlockOs.Lib.Runs
import FlockOs.Scheduling
import FlockOs.Verif.NotificationFanout
import Mathlib.Logic.Relation

/-!
# The lifecycle of an announcement

A schedule checks the transition of a draft whatever is stored, so a published announcement goes
back to scheduled; runs that schedule only drafts move forward. A publish always raises at its
fan-out, before anything is emitted.
-/

namespace FlockOs.Scheduling

open Lib Notifications

/-- A schedule passes its checks and the save. -/
structure Schedulable (site : Site) (doc : Announcement) : Prop where
  /-- The scope, with a due time. -/
  valid : validateAnnouncementScope doc.schedule site.gateway = .ok ()
  /-- The author. -/
  author : site.authorScopeGuard (doc.branch.getD "") = .ok ()
  /-- The framework. -/
  framework : site.frameworkChecks doc.schedule = .ok ()

/-- A validated announcement has a tenant. -/
theorem organization_of_valid {doc : Announcement} {gateway : SchedulingGateway}
    (valid : validateAnnouncementScope doc gateway = .ok ()) :
    ∃ organization, truthy doc.organization = some organization := by
  unfold validateAnnouncementScope at valid
  cases named : truthy doc.organization with
  | none =>
    rw [named] at valid
    cases valid
  | some organization => exact ⟨organization, rfl⟩

/-- A tenant that is set is kept. -/
theorem branchOrganizationDefault_eq (site : Site) {doc : Announcement} {organization : String}
    (named : truthy doc.organization = some organization) :
    branchOrganizationDefault site doc = doc := by
  rw [branchOrganizationDefault, named]

/-- A save of a validated announcement stores it where the framework lets it. -/
theorem save_run (site : Site) {doc : Announcement}
    (valid : validateAnnouncementScope doc site.gateway = .ok ()) (board : Board) :
    (site.frameworkChecks doc = .ok () ∧
      save site doc board = .ok doc { board with announcement := doc }) ∨
    ∃ raised, site.frameworkChecks doc = .error raised ∧
      save site doc board = .error raised board := by
  obtain ⟨_, named⟩ := organization_of_valid valid
  have ran : save site doc board = (Exec.ofExcept (site.frameworkChecks doc) >>= fun _ =>
      modify (fun board => { board with announcement := doc }) >>= fun _ => pure doc :
        Exec Error Board Announcement) board := by
    rw [save, branchOrganizationDefault_eq site named, valid]
    rfl
  rw [ran]
  cases framework : site.frameworkChecks doc with
  | ok _ => exact .inl ⟨rfl, rfl⟩
  | error raised => exact .inr ⟨raised, rfl, rfl⟩

/-- The board after a schedule is announced, before the save. -/
def Board.announced (board : Board) (site : Site) : Board :=
  { board with outbox := { board.outbox with
      publishedEvents := board.outbox.publishedEvents ++
        [scheduledEvent site board.announcement.schedule] } }

/-- A schedule that passes its checks stores the announcement as scheduled; any other raises and
stores nothing. -/
theorem schedule_run (site : Site) (board : Board) :
    (Schedulable site board.announcement ∧ ∃ summary, scheduleAnnouncement site board =
      .ok summary { board.announced site with announcement := board.announcement.schedule }) ∨
    (¬ Schedulable site board.announcement ∧ ∃ raised failed,
      scheduleAnnouncement site board = .error raised failed ∧
        (failed = board ∨ failed = board.announced site)) := by
  let doc := board.announcement.schedule
  have ran : scheduleAnnouncement site board =
      (Exec.ofExcept (validateAnnouncementScope doc site.gateway) >>= fun _ =>
        Exec.ofExcept (site.authorScopeGuard (board.announcement.branch.getD "")) >>= fun _ =>
          Exec.ofExcept (validateStatusTransition .draft .scheduled) >>= fun _ =>
            onOutbox (emit (scheduledEvent site doc)) >>= fun _ =>
              save site doc >>= fun doc =>
                pure ⟨doc.name, doc.status, ((doc.scheduledAt.map site.datetimeText).getD "None")⟩ :
        Exec Error Board ScheduleSummary) board := by
    rw [scheduleAnnouncement, Exec.bind_run_ok (Exec.get_run board)]
    rfl
  cases valid : validateAnnouncementScope doc site.gateway with
  | error raised =>
    rw [valid] at ran
    refine .inr ⟨fun passes => ?_, raised, board, ran, .inl rfl⟩
    have passed := passes.valid
    rw [valid] at passed
    cases passed
  | ok _ =>
    cases author : site.authorScopeGuard (board.announcement.branch.getD "") with
    | error raised =>
      rw [valid, author] at ran
      refine .inr ⟨fun passes => ?_, raised, board, ran, .inl rfl⟩
      have passed := passes.author
      rw [author] at passed
      cases passed
    | ok _ =>
      rw [valid, author] at ran
      have later : scheduleAnnouncement site board = (save site doc >>= fun doc =>
          pure ⟨doc.name, doc.status, ((doc.scheduledAt.map site.datetimeText).getD "None")⟩ :
            Exec Error Board ScheduleSummary) (board.announced site) := ran
      rcases save_run site valid (board.announced site) with
        ⟨framework, saved⟩ | ⟨raised, framework, saved⟩
      · left
        refine ⟨⟨valid, author, framework⟩, ⟨doc.name, doc.status,
          ((doc.scheduledAt.map site.datetimeText).getD "None")⟩, ?_⟩
        rw [later]
        exact Exec.bind_run_ok saved _
      · refine .inr ⟨fun passes => ?_, raised, board.announced site, ?_, .inr rfl⟩
        · have passed := passes.framework
          rw [framework] at passed
          cases passed
        · rw [later]
          exact Exec.bind_run_error saved _

/-- A publish raises, and leaves the board as it was. -/
theorem publish_raises (site : Site) (board : Board) :
    ∃ raised, publishAnnouncement site board = .error raised board := by
  let doc : Announcement :=
    { board.announcement with status := some .published, publishedAt := some site.now }
  have ran : publishAnnouncement site board =
      (Exec.ofExcept (validateAnnouncementScope board.announcement site.gateway) >>= fun _ =>
        Exec.ofExcept (site.authorScopeGuard (board.announcement.branch.getD "")) >>= fun _ =>
          Exec.ofExcept (validateStatusTransition board.announcement.current .publishing) >>=
            fun _ => Exec.ofExcept (validateStatusTransition .publishing .published) >>= fun _ =>
              Exec.ofExcept (resolveAudienceBranches (doc.branch.getD "") site.gateway) >>=
                fun branches =>
                  onOutbox (fanoutScopedNotification none none (scopeOf doc) (pushOf doc)) >>=
                    finishPublish site doc branches : Exec Error Board PublishSummary) board := by
    rw [publishAnnouncement, Exec.bind_run_ok (Exec.get_run board)]
  rw [ran]
  cases validateAnnouncementScope board.announcement site.gateway with
  | error raised => exact ⟨raised, rfl⟩
  | ok _ =>
    cases site.authorScopeGuard (board.announcement.branch.getD "") with
    | error raised => exact ⟨raised, rfl⟩
    | ok _ =>
      cases validateStatusTransition board.announcement.current .publishing with
      | error raised => exact ⟨raised, rfl⟩
      | ok _ =>
        cases resolveAudienceBranches (doc.branch.getD "") site.gateway with
        | error raised => exact ⟨raised, rfl⟩
        | ok branches => exact ⟨_, rfl⟩

/-- One transition of the lifecycle. -/
def Moves (current target : AnnouncementStatus) : Prop :=
  target ∈ announcementTransitions current

/-- A transition can be tested. -/
instance (current target : AnnouncementStatus) : Decidable (Moves current target) :=
  inferInstanceAs (Decidable (target ∈ announcementTransitions current))

/-- The status that a call stores is reachable from the stored one. -/
def Forward (board : Board) (call : Call) : Prop :=
  Relation.ReflTransGen Moves board.announcement.current (board.perform call).announcement.current

/-- A schedule that passes its checks is made on a draft or a scheduled announcement. -/
def SchedulesEarly (board : Board) : Call → Prop
  | .schedule site => Schedulable site board.announcement →
    board.announcement.current = .draft ∨ board.announcement.current = .scheduled
  | .publish _ => True

/-- How often announcements were fanned out. -/
def sentCount (board : Board) : Nat :=
  board.outbox.publishedEvents.countP fun event => decide (event.name = Events.notificationSent)

/-- Nothing moves to a draft. -/
theorem eq_draft_of_reaches {current : AnnouncementStatus}
    (reached : Relation.ReflTransGen Moves current .draft) : current = .draft := by
  cases reached.cases_tail with
  | inl same => exact same.symm
  | inr step =>
    obtain ⟨before, _, move⟩ := step
    cases before <;> exact absurd move (by decide)

/-- Only a draft and what is scheduled already move to scheduled. -/
theorem reaches_scheduled_iff {current : AnnouncementStatus} :
    Relation.ReflTransGen Moves current .scheduled ↔ current = .draft ∨ current = .scheduled := by
  constructor
  · intro reached
    cases reached.cases_tail with
    | inl same => exact .inr same.symm
    | inr step =>
      obtain ⟨before, earlier, move⟩ := step
      have draft : before = .draft := by
        cases before
        · rfl
        all_goals exact absurd move (by decide)
      rw [draft] at earlier
      exact .inl (eq_draft_of_reaches earlier)
  · intro early
    cases early with
    | inl draft =>
      have move : Moves .draft .scheduled := by decide
      exact draft ▸ .single move
    | inr same => exact same ▸ .refl

/-- A call moves forward exactly when it schedules early. -/
theorem forward_iff (board : Board) (call : Call) :
    Forward board call ↔ SchedulesEarly board call := by
  cases call with
  | schedule site =>
    rw [Forward, Board.perform, Exec.after]
    rcases schedule_run site board with
      ⟨passes, summary, ran⟩ | ⟨refused, raised, failed, ran, left⟩
    · rw [ran]
      exact reaches_scheduled_iff.trans ⟨fun early _ => early, fun early => early passes⟩
    · rw [ran]
      have same : failed.announcement = board.announcement := by
        rcases left with same | same
        · rw [same]
        · rw [same]
          rfl
      constructor
      · exact fun _ passes => absurd passes refused
      · intro _
        show Relation.ReflTransGen Moves _ failed.announcement.current
        rw [same]
  | publish site =>
    obtain ⟨raised, ran⟩ := publish_raises site board
    rw [Forward, Board.perform, Exec.after, ran]
    exact iff_of_true .refl trivial

/-- No call fans an announcement out. -/
theorem sentCount_perform (board : Board) (call : Call) :
    sentCount (board.perform call) = sentCount board := by
  have quiet (site : Site) : sentCount (board.announced site) = sentCount board := by
    rw [sentCount, Board.announced, List.countP_append]
    rfl
  cases call with
  | schedule site =>
    rw [Board.perform, Exec.after]
    rcases schedule_run site board with ⟨_, summary, ran⟩ | ⟨_, raised, failed, ran, left⟩
    · rw [ran]
      exact quiet site
    · rw [ran]
      rcases left with same | same
      · rw [same]
      · rw [same]
        exact quiet site
  | publish site =>
    obtain ⟨raised, ran⟩ := publish_raises site board
    rw [Board.perform, Exec.after, ran]

/-- A run moves an announcement forward and fans it out at most once exactly when its schedules are
early. -/
theorem forward_once_iff (board : Board) (calls : List Call) :
    (EveryCall Board.perform Forward board calls ∧
      sentCount (runAll Board.perform board calls) ≤ sentCount board + 1) ↔
    EveryCall Board.perform SchedulesEarly board calls := by
  have same : Forward = SchedulesEarly :=
    funext fun board => funext fun call => propext (forward_iff board call)
  have quiet : sentCount (runAll Board.perform board calls) = sentCount board :=
    runAll_invariant (fun later => sentCount later = sentCount board)
      (fun later call held => (sentCount_perform later call).trans held) calls board rfl
  rw [same, quiet]
  exact and_iff_left (Nat.le_succ _)

/-- An announcement may be published: it is a draft or scheduled, with a valid scope and an author
in scope. -/
structure Publishable (site : Site) (doc : Announcement) : Prop where
  /-- The status. -/
  early : doc.current = .draft ∨ doc.current = .scheduled
  /-- The scope. -/
  valid : validateAnnouncementScope doc site.gateway = .ok ()
  /-- The author. -/
  author : site.authorScopeGuard (doc.branch.getD "") = .ok ()

/-- An announcement was published: it is stored so, and fanned out and announced once, over the
gateway that the notifications use. -/
structure PublishedOver (gateway : NotificationFanoutGateway) (board next : Board) : Prop where
  /-- The stored status. -/
  status : next.announcement.status = some .published
  /-- The events. -/
  emitted : ∃ audience added,
    resolveScopedAudience (scopeOf board.announcement) gateway = .ok audience ∧
    next.outbox.publishedEvents = board.outbox.publishedEvents ++ added ∧
    (added.filter fun event => event.name = Events.notificationSent) =
      [sentEvent (scopeOf board.announcement) audience (pushOf board.announcement)] ∧
    added.countP (fun event => decide (event.name = Events.announcementPublished)) = 1

/-- No announcement that may be published is: a publish always raises, and emits nothing. -/
theorem publish_never (gateway : NotificationFanoutGateway) (site : Site) (board : Board) :
    (Publishable site board.announcement →
      ¬ ∃ summary next, publishAnnouncement site board = .ok summary next ∧
        PublishedOver gateway board next) ∧
    ∃ raised, publishAnnouncement site board = .error raised board := by
  have ⟨raised, ran⟩ := publish_raises site board
  refine ⟨fun _ => ?_, raised, ran⟩
  intro ⟨summary, next, returned, _⟩
  rw [ran] at returned
  cases returned

/-- An announcement to a district. -/
def picnic (status : AnnouncementStatus) : Announcement where
  name := "ANN-00001"
  subject := "Picnic"
  organization := some "Flock"
  branch := some "Hill"
  status := some status
  scheduledAt := some 5

/-- A call over the districts, by an author in scope. -/
def picnicSite : Site where
  gateway := frappeSchedulingGateway hillTables Trees.districts
  authorScopeGuard := fun _ => .ok ()
  now := 1
  datetimeText := toString

/-- The published picnic goes back to scheduled. -/
theorem picnic_goes_back :
    ((Board.mk (picnic .published) {}).perform (.schedule picnicSite)).announcement.status =
        some .scheduled ∧
      ¬ EveryCall Board.perform Forward ⟨picnic .published, {}⟩ [.schedule picnicSite] := by
  have stored : ((Board.mk (picnic .published) {}).perform
      (.schedule picnicSite)).announcement.status = some .scheduled := by decide
  refine ⟨stored, fun every => ?_⟩
  have forward := every.1
  rw [Forward, Announcement.current, Announcement.current, stored] at forward
  cases reaches_scheduled_iff.mp forward with
  | inl draft => cases draft
  | inr scheduled => cases scheduled

/-- The picnic that may be published is not. -/
theorem picnic_unpublished :
    Publishable picnicSite (picnic .draft) ∧
      ¬ ∃ summary next,
        publishAnnouncement picnicSite ⟨picnic .draft, {}⟩ = .ok summary next ∧
          PublishedOver (frappeNotificationFanoutGateway hillTables Trees.districts)
            ⟨picnic .draft, {}⟩ next :=
  have may : Publishable picnicSite (picnic .draft) := ⟨.inl rfl, rfl, rfl⟩
  ⟨may, (publish_never _ picnicSite ⟨picnic .draft, {}⟩).1 may⟩

/-- The fan-out is called without its gateway. -/
theorem picnic_raises :
    Publishable picnicSite (picnic .draft) ∧
      publishAnnouncement picnicSite ⟨picnic .draft, {}⟩ = .error (.type
        "fanout_scoped_notification() missing 1 required keyword-only argument: 'gateway'")
        ⟨picnic .draft, {}⟩ ∧
      ¬ ∃ summary next, publishAnnouncement picnicSite ⟨picnic .draft, {}⟩ = .ok summary next := by
  have ran : publishAnnouncement picnicSite ⟨picnic .draft, {}⟩ = .error (.type
      "fanout_scoped_notification() missing 1 required keyword-only argument: 'gateway'")
      ⟨picnic .draft, {}⟩ := rfl
  refine ⟨⟨.inl rfl, rfl, rfl⟩, ran, ?_⟩
  intro ⟨summary, next, returned⟩
  rw [ran] at returned
  cases returned

end FlockOs.Scheduling
