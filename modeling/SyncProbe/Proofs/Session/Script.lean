import SyncProbe.Proofs.Session.Steps

/-!
# Scripts

A script tells at which time each thing occurs on a connection. Between two of them time passes and
nothing else happens, and after the last one there is only time.

Results:
1. `outcome_runScript`: what a run of a script comes to, by a recursion on the script that compares
   each moment with the time of the last message.
2. `times_message`, `sizes_message`: the messages of a script, one at a time.
-/

namespace SyncProbe

open WebSocket (Message Signal)

/-! ## Scripts -/

/-- What occurs at a time. -/
inductive Occurrence where
  | signal (received : Signal)
  | ended
  | interrupted

def Occurrence.incident : Occurrence → Incident
  | .signal received => .signal received
  | .ended => .ended
  | .interrupted => .interrupted

/-- Something that occurs, with its time in milliseconds since the connection was made. -/
structure Moment where
  time : Nat
  occurrence : Occurrence

namespace Moment

def message? (moment : Moment) : Option Message :=
  moment.occurrence.incident.message?

def verdict? (moment : Moment) : Option Verdict :=
  moment.occurrence.incident.verdict?

/-- The time of the last message, after the moment. -/
def mark (last : Nat) (moment : Moment) : Nat :=
  match moment.message? with
  | some _ => moment.time
  | none => last

end Moment

namespace Script

/-- Time never goes back. -/
def Ordered (script : List Moment) : Prop :=
  script.Pairwise fun earlier later => earlier.time ≤ later.time

/-- What a run meets of a script after the time `now`. -/
def incidents : Nat → List Moment → List Incident
  | _, [] => []
  | now, moment :: script =>
    .passed (moment.time - now) :: moment.occurrence.incident :: incidents moment.time script

/-- The times of the messages. -/
def times (script : List Moment) : List Nat :=
  script.filterMap fun moment => moment.message?.map fun _ => moment.time

/-- The sizes of the messages. -/
def sizes (script : List Moment) : List Nat :=
  script.filterMap fun moment => moment.message?.map messageSize

/-! ## Messages and their times -/

variable {moment : Moment} {script : List Moment}

theorem times_message {message : Message} (arrives : moment.message? = some message)
    (script : List Moment) : times (moment :: script) = moment.time :: times script := by
  rw [times, List.filterMap_cons_some (by rw [arrives]; rfl)]
  rfl

theorem times_other (noMessage : moment.message? = none) (script : List Moment) :
    times (moment :: script) = times script := by
  rw [times, List.filterMap_cons_none (by rw [noMessage]; rfl)]
  rfl

theorem sizes_message {message : Message} (arrives : moment.message? = some message)
    (script : List Moment) : sizes (moment :: script) = messageSize message :: sizes script := by
  rw [sizes, List.filterMap_cons_some (by rw [arrives]; rfl)]
  rfl

theorem sizes_other (noMessage : moment.message? = none) (script : List Moment) :
    sizes (moment :: script) = sizes script := by
  rw [sizes, List.filterMap_cons_none (by rw [noMessage]; rfl)]
  rfl

theorem le_of_mem_times {bound time : Nat} (ahead : ∀ moment ∈ script, bound ≤ moment.time)
    (member : time ∈ times script) : bound ≤ time := by
  obtain ⟨moment, among, same⟩ := List.mem_filterMap.mp member
  obtain ⟨message, _, rfl⟩ := Option.map_eq_some_iff.mp same
  exact ahead moment among

theorem ahead_of_ordered (ordered : Ordered (moment :: script)) :
    ∀ other ∈ moment :: script, moment.time ≤ other.time := by
  intro other member
  rcases List.mem_cons.mp member with rfl | member
  · exact Nat.le_refl _
  · exact (List.pairwise_cons.mp ordered).1 other member

theorem ordered_iff : Ordered script ↔ (script.map Moment.time).Pairwise (· ≤ ·) :=
  List.pairwise_map.symm

/-- Only the times matter to the order. -/
theorem ordered_of_times {script' : List Moment} (ordered : Ordered script)
    (same : script'.map Moment.time = script.map Moment.time) : Ordered script' := by
  rw [ordered_iff] at ordered ⊢
  rw [same]
  exact ordered

end Script

namespace Session

open Script

/-- Runs the probe on a connection that brings what a script says. -/
def runScript (session : Session) (script : List Moment) : Course :=
  session.run (.connected (incidents 0 script))

/-- What listening comes to, with the time of the last message at hand. -/
def listenScript (session : Session) : Received → Nat → List Moment → Outcome
  | received, _, [] => session.reportOf received .idleTimeout
  | received, last, moment :: script =>
    if session.idleTimeout ≤ moment.time - last then session.reportOf received .idleTimeout
    else
      match moment.verdict? with
      | some verdict => session.lateOutcome received verdict
      | none =>
        session.listenScript (received.hear [moment.occurrence.incident]) (moment.mark last) script

/-- What the wait for the first message comes to. -/
def awaitScript (session : Session) : List Moment → Outcome
  | [] => .pending
  | moment :: script =>
    match moment.message? with
    | some message => session.listenScript ⟨messageSize message, []⟩ moment.time script
    | none =>
      match moment.verdict? with
      | some verdict => session.earlyOutcome verdict
      | none => session.awaitScript script

variable {session : Session} {received : Received} {last now : Nat} {script : List Moment}

/-! ## Scripts and incidents -/

theorem occurrence_in_time (occurrence : Occurrence) (timeout quiet : Nat) :
    ¬ occurrence.incident.Expires timeout quiet := by
  cases occurrence <;> exact id

/-- The time since the last message is the clock of a listening run. -/
theorem clock_incident (moment : Moment) (last : Nat) :
    moment.occurrence.incident.clock (moment.time - last) = moment.time - moment.mark last := by
  obtain ⟨time, occurrence⟩ := moment
  cases occurrence with
  | ended | interrupted => rfl
  | signal received =>
    cases received with
    | message => exact (Nat.sub_self time).symm
    | ping | pong | piece | closed | failed => rfl

theorem mark_le (moment : Moment) (before : last ≤ moment.time) :
    moment.mark last ≤ moment.time := by
  unfold Moment.mark
  split
  · exact Nat.le_refl _
  · exact before

theorem listen_incidents (ordered : Ordered script) (past : last ≤ now)
    (ahead : ∀ moment ∈ script, now ≤ moment.time) :
    (session.listen received (now - last) (incidents now script)).outcome =
      session.listenScript received last script := by
  induction script generalizing received last now with
  | nil => rfl
  | cons moment script ih =>
    obtain ⟨later, ordered⟩ := List.pairwise_cons.mp ordered
    have soon : now ≤ moment.time := ahead moment (by simp)
    -- The run adds the time up in parts, and the script has it whole.
    have elapsed : now - last + (moment.time - now) = moment.time - last := by omega
    rw [incidents, listenScript]
    split
    · next overdue =>
      exact listen_expired (by rw [← elapsed] at overdue; exact overdue) _
    · next within =>
      have inTime : ¬ (Incident.passed (moment.time - now)).Expires session.idleTimeout
          (now - last) := by rw [← elapsed] at within; exact within
      rw [listen_step rfl inTime, Course.following_outcome, Incident.clock, elapsed,
        Received.hear, List.filterMap_cons_none rfl, List.filterMap_nil, List.append_nil]
      split
      · next verdict decides => exact listen_verdict decides _
      · next undecided =>
        rw [listen_step undecided (occurrence_in_time _ _ _), Course.following_outcome,
          clock_incident]
        exact ih ordered (mark_le moment (Nat.le_trans past soon)) later

theorem awaitState_incidents (ordered : Ordered script) :
    (session.awaitState (incidents now script)).outcome = session.awaitScript script := by
  induction script generalizing now with
  | nil => rfl
  | cons moment script ih =>
    obtain ⟨later, ordered⟩ := List.pairwise_cons.mp ordered
    rw [incidents, awaitState_step rfl rfl, Course.following_outcome, awaitScript]
    split
    · next message arrives =>
      rw [awaitState_message arrives, Course.following_outcome, ← Nat.sub_self moment.time]
      exact listen_incidents ordered (Nat.le_refl _) later
    · next noMessage =>
      split
      · next verdict decides => exact awaitState_verdict decides _
      · next undecided =>
        rw [awaitState_step noMessage undecided, Course.following_outcome]
        exact ih ordered

theorem outcome_runScript (ordered : Ordered script) :
    (session.runScript script).outcome = session.awaitScript script :=
  awaitState_incidents ordered

/-! ## One moment -/

theorem listenScript_overdue {moment : Moment} (overdue : session.idleTimeout ≤ moment.time - last)
    (script : List Moment) :
    session.listenScript received last (moment :: script) =
      session.reportOf received .idleTimeout := by
  rw [listenScript, if_pos overdue]

theorem listenScript_verdict {moment : Moment} {verdict : Verdict}
    (within : ¬ session.idleTimeout ≤ moment.time - last)
    (decides : moment.verdict? = some verdict) (script : List Moment) :
    session.listenScript received last (moment :: script) =
      session.lateOutcome received verdict := by
  rw [listenScript, if_neg within, decides]

theorem listenScript_message {moment : Moment} {message : Message}
    (within : ¬ session.idleTimeout ≤ moment.time - last)
    (arrives : moment.message? = some message) (script : List Moment) :
    session.listenScript received last (moment :: script) =
      session.listenScript ⟨received.initial, received.updates ++ [messageSize message]⟩
        moment.time script := by
  have undecided : moment.verdict? = none := verdict_of_message arrives
  have size : moment.occurrence.incident.size? = some (messageSize message) :=
    congrArg (Option.map messageSize) arrives
  rw [listenScript, if_neg within, undecided, Moment.mark, arrives, Received.hear,
    List.filterMap_cons_some size, List.filterMap_nil]

theorem listenScript_other {moment : Moment}
    (within : ¬ session.idleTimeout ≤ moment.time - last) (noMessage : moment.message? = none)
    (undecided : moment.verdict? = none) (script : List Moment) :
    session.listenScript received last (moment :: script) =
      session.listenScript received last script := by
  rw [listenScript, if_neg within, undecided, Moment.mark, noMessage]
  simp only [hear_of_no_message (show moment.occurrence.incident.message? = none from noMessage)]

end Session

end SyncProbe
