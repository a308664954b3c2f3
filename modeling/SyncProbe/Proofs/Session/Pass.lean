import SyncProbe.Proofs.Session.Steps

/-!
# A run as one pass over what it meets

What a run comes to is decided by the first incident that ends it, and reported with the sizes of
the messages before that one. `Session.Comes` says this without running anything: it cuts the
incidents at the first message and at the incident that decides.

Results:
1. `outcome_eq_iff`: a run comes to exactly what `Comes` says.
2. `awaitState_filter`: pings, pongs and pieces of messages have no part in it.
3. `run_is_pass`: both, and the interrupt before there is a connection.
-/

namespace SyncProbe

open WebSocket (Message)

namespace Session

variable {session : Session} {received : Received} {quiet : Nat}

/-! ## What a run comes to -/

/-- `session.Comes incidents outcome`: the incidents lead to the outcome.

* `waits`, `decidedEarly`: no message comes before the incident that decides, however long it takes.
* `decided`: the first message has come, and `heard` holds all others before the verdict.
* `expired`, `runsOut`: no verdict comes in time, while something else is still to come, or not. -/
inductive Comes (session : Session) : List Incident → Outcome → Prop
  | waits {before : List Incident} : Silent before → Comes session before .pending
  | decidedEarly {before after : List Incident} {next : Incident} {verdict : Verdict} :
      Silent before → next.verdict? = some verdict →
      Comes session (before ++ next :: after) (session.earlyOutcome verdict)
  | decided {before heard after : List Incident} {first next : Incident} {message : Message}
      {verdict : Verdict} :
      Silent before → first.message? = some message → session.Listens 0 heard →
      next.verdict? = some verdict →
      Comes session (before ++ first :: (heard ++ next :: after))
        (session.lateOutcome ⟨messageSize message, heard.filterMap Incident.size?⟩ verdict)
  | expired {before heard after : List Incident} {first next : Incident} {message : Message} :
      Silent before → first.message? = some message → session.Listens 0 heard →
      next.Expires session.idleTimeout (heard.foldl Incident.clock 0) →
      Comes session (before ++ first :: (heard ++ next :: after))
        (session.reportOf ⟨messageSize message, heard.filterMap Incident.size?⟩ .idleTimeout)
  | runsOut {before heard : List Incident} {first : Incident} {message : Message} :
      Silent before → first.message? = some message → session.Listens 0 heard →
      Comes session (before ++ first :: heard)
        (session.reportOf ⟨messageSize message, heard.filterMap Incident.size?⟩ .idleTimeout)

/-- Incidents are silent, or there is a first one that is not. -/
theorem silent_or_first (incidents : List Incident) :
    Silent incidents ∨ ∃ before next after, incidents = before ++ next :: after ∧ Silent before ∧
      ((∃ message, next.message? = some message) ∨ ∃ verdict, next.verdict? = some verdict) := by
  induction incidents with
  | nil => exact Or.inl fun incident member => absurd member List.not_mem_nil
  | cons next rest ih =>
    cases arrives : next.message? with
    | some message =>
      exact Or.inr ⟨[], next, rest, rfl, fun incident member => absurd member List.not_mem_nil,
        Or.inl ⟨message, arrives⟩⟩
    | none =>
      cases decides : next.verdict? with
      | some verdict =>
        exact Or.inr ⟨[], next, rest, rfl, fun incident member => absurd member List.not_mem_nil,
          Or.inr ⟨verdict, decides⟩⟩
      | none =>
        have first : ∀ incident ∈ [next], incident.message? = none ∧ incident.verdict? = none := by
          intro incident member
          rw [List.mem_singleton.mp member]
          exact ⟨arrives, decides⟩
        rcases ih with silent | ⟨before, other, after, rfl, silent, ends⟩
        · exact Or.inl (List.forall_mem_append.mpr ⟨first, silent⟩)
        · exact Or.inr ⟨next :: before, other, after, rfl,
            List.forall_mem_append.mpr ⟨first, silent⟩, ends⟩

/-- Listening goes on through all incidents, or there is a first one that ends it. -/
theorem listens_or_first (session : Session) (quiet : Nat) (incidents : List Incident) :
    session.Listens quiet incidents ∨
    ∃ heard next after, incidents = heard ++ next :: after ∧ session.Listens quiet heard ∧
      ((∃ verdict, next.verdict? = some verdict) ∨
        next.Expires session.idleTimeout (heard.foldl Incident.clock quiet)) := by
  induction incidents generalizing quiet with
  | nil => exact Or.inl listens_nil
  | cons next rest ih =>
    cases decides : next.verdict? with
    | some verdict =>
      exact Or.inr ⟨[], next, rest, rfl, listens_nil, Or.inl ⟨verdict, decides⟩⟩
    | none =>
      by_cases expires : next.Expires session.idleTimeout quiet
      · exact Or.inr ⟨[], next, rest, rfl, listens_nil, Or.inr expires⟩
      · rcases ih (next.clock quiet) with listens | ⟨heard, other, after, rfl, listens, ends⟩
        · exact Or.inl (listens_cons_iff.mpr ⟨⟨decides, expires⟩, listens⟩)
        · exact Or.inr ⟨next :: heard, other, after, rfl,
            listens_cons_iff.mpr ⟨⟨decides, expires⟩, listens⟩, ends⟩

/-- After the first message, the report grows by the sizes of the messages heard. -/
theorem outcome_heard {before heard : List Incident} {first : Incident} {message : Message}
    (silent : Silent before) (arrives : first.message? = some message)
    (listens : session.Listens 0 heard) (rest : List Incident) :
    (session.awaitState (before ++ first :: (heard ++ rest))).outcome =
      (session.listen ⟨messageSize message, heard.filterMap Incident.size?⟩
        (heard.foldl Incident.clock 0) rest).outcome := by
  rw [awaitState_append silent, Course.following_outcome, awaitState_message arrives,
    Course.following_outcome, listen_append listens, Course.following_outcome, Received.hear,
    List.nil_append]

theorem outcome_of_comes {incidents : List Incident} {outcome : Outcome}
    (comes : session.Comes incidents outcome) :
    (session.awaitState incidents).outcome = outcome := by
  cases comes with
  | waits silent =>
    rw [← List.append_nil incidents, awaitState_append silent, Course.following_outcome,
      awaitState_nil]
  | decidedEarly silent decides =>
    rw [awaitState_append silent, Course.following_outcome, awaitState_verdict decides]
  | decided silent arrives listens decides =>
    rw [outcome_heard silent arrives listens, listen_verdict decides]
  | expired silent arrives listens expires =>
    rw [outcome_heard silent arrives listens, listen_expired expires]
  | runsOut silent arrives listens =>
    have course := outcome_heard silent arrives listens []
    rw [List.append_nil] at course
    rw [course, listen_nil]

theorem comes_total (session : Session) (incidents : List Incident) :
    ∃ outcome, session.Comes incidents outcome := by
  rcases silent_or_first incidents with silent | ⟨before, next, after, rfl, silent, ends⟩
  · exact ⟨_, .waits silent⟩
  · rcases ends with ⟨message, arrives⟩ | ⟨verdict, decides⟩
    · rcases listens_or_first session 0 after with
        listens | ⟨heard, other, behind, rfl, listens, ⟨verdict, decides⟩ | expires⟩
      · exact ⟨_, .runsOut silent arrives listens⟩
      · exact ⟨_, .decided silent arrives listens decides⟩
      · exact ⟨_, .expired silent arrives listens expires⟩
    · exact ⟨_, .decidedEarly silent decides⟩

theorem outcome_eq_iff {incidents : List Incident} {outcome : Outcome} :
    (session.run (.connected incidents)).outcome = outcome ↔ session.Comes incidents outcome := by
  show (session.awaitState incidents).outcome = outcome ↔ _
  constructor
  · rintro rfl
    obtain ⟨outcome, comes⟩ := comes_total session incidents
    rw [outcome_of_comes comes]
    exact comes
  · exact outcome_of_comes

/-! ## What has no part in it -/

/-- The events and the outcome are the same, whatever frames are sent. -/
def Agree (course course' : Course) : Prop :=
  course.events = course'.events ∧ course.outcome = course'.outcome

theorem agree_following {course course' : Course} (agree : Agree course course')
    (events : List Event) (sent sent' : List Outgoing) :
    Agree (course.following events sent) (course'.following events sent') :=
  ⟨congrArg (events ++ ·) agree.1, agree.2⟩

/-- What ends the listening does so whatever comes behind it. -/
theorem listen_ends {next : Incident}
    (ends : next.verdict? ≠ none ∨ next.Expires session.idleTimeout quiet)
    (rest rest' : List Incident) :
    session.listen received quiet (next :: rest) =
      session.listen received quiet (next :: rest') := by
  cases next with
  | interrupted | ended => rfl
  | passed milliseconds =>
    rcases ends with decides | overdue
    · exact absurd rfl decides
    · have overdue : session.idleTimeout ≤ quiet + milliseconds := overdue
      rw [listen, listen, if_pos overdue, if_pos overdue]
  | signal received =>
    cases received with
    | closed | failed => rfl
    | message | ping | pong | piece =>
      rcases ends with decides | overdue
      · exact absurd rfl decides
      · cases overdue

theorem awaitState_ends {next : Incident} (decides : next.verdict? ≠ none)
    (rest rest' : List Incident) :
    session.awaitState (next :: rest) = session.awaitState (next :: rest') := by
  cases next with
  | interrupted | ended => rfl
  | passed => exact absurd rfl decides
  | signal received =>
    cases received with
    | closed | failed => rfl
    | message | ping | pong | piece => exact absurd rfl decides

theorem listen_filter (incidents : List Incident) :
    Agree (session.listen received quiet (incidents.filter fun next => ! isControl next))
      (session.listen received quiet incidents) := by
  induction incidents generalizing received quiet with
  | nil => exact ⟨rfl, rfl⟩
  | cons next rest ih =>
    by_cases control : isControl next = true
    · -- Left out, it moves neither the clock nor the sizes.
      obtain ⟨noMessage, undecided, inTime, clock⟩ := isControl_cases control
      rw [List.filter_cons_of_neg (by simp [control]), listen_step undecided (inTime _ _),
        hear_of_no_message noMessage, told_of_no_message noMessage, clock]
      exact ⟨ih.1, ih.2⟩
    · -- Kept, it ends the listening on both sides or goes on to what is left of them.
      rw [List.filter_cons_of_pos (by simp [control])]
      by_cases ends : next.verdict? ≠ none ∨ next.Expires session.idleTimeout quiet
      · rw [listen_ends ends _ rest]
        exact ⟨rfl, rfl⟩
      · obtain ⟨undecided, inTime⟩ := not_or.mp ends
        have undecided : next.verdict? = none := Decidable.not_not.mp undecided
        rw [listen_step undecided inTime, listen_step undecided inTime]
        exact agree_following ih _ _ _

theorem awaitState_filter (session : Session) (incidents : List Incident) :
    Agree (session.awaitState (incidents.filter fun next => ! isControl next))
      (session.awaitState incidents) := by
  induction incidents with
  | nil => exact ⟨rfl, rfl⟩
  | cons next rest ih =>
    by_cases control : isControl next = true
    · obtain ⟨noMessage, undecided, _, _⟩ := isControl_cases control
      rw [List.filter_cons_of_neg (by simp [control]), awaitState_step noMessage undecided]
      exact ⟨ih.1, ih.2⟩
    · rw [List.filter_cons_of_pos (by simp [control])]
      cases arrives : next.message? with
      | some message =>
        rw [awaitState_message arrives, awaitState_message arrives]
        exact agree_following (listen_filter rest) _ _ _
      | none =>
        cases decides : next.verdict? with
        | some verdict =>
          rw [awaitState_ends (by rw [decides]; exact Option.some_ne_none _) _ rest]
          exact ⟨rfl, rfl⟩
        | none =>
          rw [awaitState_step arrives decides, awaitState_step arrives decides]
          exact agree_following ih _ _ _

/-- A run comes to what its first end decides, with the sizes of the messages before it. Pings,
pongs and pieces of messages change neither the events nor the outcome. An interrupt before there is
a connection is one before the first message. -/
theorem run_is_pass (session : Session) (incidents : List Incident) :
    (∀ outcome, (session.run (.connected incidents)).outcome = outcome ↔
      session.Comes incidents outcome) ∧
    (session.run (.connected (incidents.filter fun next => ! isControl next))).events =
      (session.run (.connected incidents)).events ∧
    (session.run (.connected (incidents.filter fun next => ! isControl next))).outcome =
      (session.run (.connected incidents)).outcome ∧
    (session.run .interrupted).outcome = session.earlyOutcome .interrupted := by
  obtain ⟨events, outcome⟩ := awaitState_filter session incidents
  exact ⟨fun outcome => outcome_eq_iff, congrArg (Event.connected session.endpoint :: ·) events,
    outcome, rfl⟩

end Session

end SyncProbe
