import Mathlib.Data.List.Chain
import SyncProbe.Proofs.Session.Script

/-!
# When the idle timeout runs out

Results:
1. `outcome_of_idles`, `idles_of_outcome`: the idle timeout ends a run exactly after a message that
   is followed by neither a message nor a verdict within the timeout, where every message before it
   was followed by the next one in time.
2. `verdict_counts_iff`: a verdict ends the run exactly if it is the first one, and no message waits
   for the next one or for the verdict as long as the timeout.
3. `awaitScript_filter`: pings, pongs and pieces of messages extend no wait.
4. `idle_timeout_exact`: all of these, and that the wait for the first message has no bound.
-/

namespace SyncProbe

open WebSocket (Message)

namespace Script

open Session

/-! ## Waits -/

/-- Every time but the first comes less than the timeout after the one before it. -/
def Brisk (timeout : Nat) (times : List Nat) : Prop :=
  times.IsChain fun earlier later => later - earlier < timeout

/-- The message number `k` is the last one in time: the ones before it were followed in time by the
next one, and it is followed neither by a message nor by a verdict before the timeout is over. -/
structure Idles (timeout : Nat) (times : List Nat) (script : List Moment) (k : Nat) : Prop where
  brisk : Brisk timeout (times.take (k + 1))
  quiet : ∃ last, times[k]? = some last ∧
    (∀ next, times[k + 1]? = some next → last + timeout ≤ next) ∧
    ∀ moment ∈ script, moment.verdict? ≠ none → last + timeout ≤ moment.time

/-- A verdict at the time is reached: nothing before it is a verdict, and neither a message nor the
verdict comes as late as the timeout after the message before it. -/
def Reaches (timeout : Nat) (times : List Nat) (before : List Moment) (time : Nat) : Prop :=
  (∀ moment ∈ before, moment.verdict? = none) ∧ Brisk timeout (times ++ [time])

variable {timeout last k : Nat} {moment : Moment} {script : List Moment}

theorem brisk_cons_iff {next : Nat} {times : List Nat} :
    Brisk timeout (last :: next :: times) ↔ next - last < timeout ∧ Brisk timeout (next :: times) :=
  List.isChain_cons_cons

/-- After a gap as long as the timeout there is no later message that counts. -/
theorem idles_zero (far : ∀ moment ∈ script, last + timeout ≤ moment.time)
    (idles : Idles timeout (last :: times script) script k) : k = 0 := by
  cases k with
  | zero => rfl
  | succ k =>
    obtain ⟨brisk, _, found, _⟩ := idles
    cases others : times script with
    | nil =>
      rw [others] at found
      cases found
    | cons next later =>
      have late : last + timeout ≤ next := le_of_mem_times far (by rw [others]; simp)
      rw [others, List.take_succ_cons, List.take_succ_cons, brisk_cons_iff] at brisk
      exact absurd brisk.1 (by omega)

theorem idles_of_far (far : ∀ moment ∈ script, last + timeout ≤ moment.time) :
    Idles timeout (last :: times script) script 0 := by
  refine ⟨List.isChain_singleton last, last, rfl, ?_, fun moment member _ => far moment member⟩
  intro next found
  exact le_of_mem_times far (List.mem_of_getElem? found)

theorem idles_message {message : Message} (arrives : moment.message? = some message)
    (within : moment.time - last < timeout) :
    Idles timeout (last :: times (moment :: script)) (moment :: script) (k + 1) ↔
      Idles timeout (moment.time :: times script) script k := by
  have undecided : moment.verdict? = none := verdict_of_message arrives
  rw [times_message arrives]
  constructor
  · rintro ⟨brisk, latest, found, next, quiet⟩
    refine ⟨?_, latest, found, next, fun other member => quiet other (by simp [member])⟩
    rw [List.take_succ_cons, List.take_succ_cons, brisk_cons_iff] at brisk
    exact brisk.2
  · rintro ⟨brisk, latest, found, next, quiet⟩
    refine ⟨?_, latest, found, next, ?_⟩
    · rw [List.take_succ_cons, List.take_succ_cons, brisk_cons_iff]
      exact ⟨within, brisk⟩
    · intro other member decides
      rcases List.mem_cons.mp member with rfl | member
      · exact absurd undecided decides
      · exact quiet other member decides

theorem idles_other {times : List Nat} (undecided : moment.verdict? = none) :
    Idles timeout times (moment :: script) k ↔ Idles timeout times script k := by
  constructor
  · rintro ⟨brisk, latest, found, next, quiet⟩
    exact ⟨brisk, latest, found, next, fun other member => quiet other (by simp [member])⟩
  · rintro ⟨brisk, latest, found, next, quiet⟩
    refine ⟨brisk, latest, found, next, ?_⟩
    intro other member decides
    rcases List.mem_cons.mp member with rfl | member
    · exact absurd undecided decides
    · exact quiet other member decides

end Script

namespace Session

open Script

variable {session : Session} {received : Received} {last k : Nat} {script : List Moment}

/-! ## The timeout -/

/-- The message that idles is the last one counted. The induction is on the script, and what it
keeps is that all moments left come at or after the last message. -/
theorem listenScript_of_idles (positive : 0 < session.idleTimeout) (ordered : Ordered script)
    (ahead : ∀ moment ∈ script, last ≤ moment.time)
    (idles : Idles session.idleTimeout (last :: times script) script k) :
    session.listenScript received last script =
      session.reportOf ⟨received.initial, received.updates ++ (sizes script).take k⟩
        .idleTimeout := by
  induction script generalizing received last k with
  | nil =>
    show session.reportOf received _ = _
    rw [sizes, List.filterMap_nil, List.take_nil, List.append_nil]
  | cons moment script ih =>
    have later := ahead_of_ordered ordered
    have ordered' : Ordered script := (List.pairwise_cons.mp ordered).2
    by_cases overdue : session.idleTimeout ≤ moment.time - last
    · have far : ∀ other ∈ moment :: script, last + session.idleTimeout ≤ other.time := by
        intro other member
        have := later other member
        omega
      rw [listenScript_overdue overdue, idles_zero far idles, List.take_zero, List.append_nil]
    have within : moment.time - last < session.idleTimeout := Nat.lt_of_not_le overdue
    cases arrives : moment.message? with
    | some message =>
      cases k with
      | zero =>
        -- The last message would be followed in time by this one.
        obtain ⟨_, latest, found, next, _⟩ := idles
        cases found
        have late := next moment.time (by rw [times_message arrives]; rfl)
        omega
      | succ k =>
        have idles' := (idles_message arrives within).mp idles
        rw [listenScript_message overdue arrives, sizes_message arrives, List.take_succ_cons,
          ih ordered' (fun other member => later other (by simp [member])) idles',
          List.append_assoc, List.singleton_append]
    | none =>
      rw [times_other arrives] at idles
      cases decides : moment.verdict? with
      | some verdict =>
        -- The message that idles comes no sooner than the last one, and the verdict is too soon.
        obtain ⟨_, latest, found, _, quiet⟩ := idles
        have late := quiet moment (by simp) (by rw [decides]; exact Option.some_ne_none _)
        have after : last ≤ latest := by
          rcases List.mem_cons.mp (List.mem_of_getElem? found) with rfl | member
          · exact Nat.le_refl _
          · exact le_of_mem_times (fun other member => ahead other (by simp [member])) member
        omega
      | none =>
        rw [listenScript_other overdue arrives decides, sizes_other arrives,
          ih ordered' (fun other member => ahead other (by simp [member]))
            ((idles_other decides).mp idles)]

theorem reportOf_ending {ending : Ending} {report : Report}
    (same : session.reportOf received ending = .reported report) : report.ending = ending := by
  cases same
  rfl

/-- No verdict reads like the timeout. -/
theorem lateOutcome_ending {verdict : Verdict} {report : Report}
    (same : session.lateOutcome received verdict = .reported report) :
    report.ending ≠ .idleTimeout := by
  cases verdict with
  | interrupted =>
    rw [reportOf_ending same]
    exact Ending.noConfusion
  | closed reason =>
    cases reason <;> rw [reportOf_ending same] <;> exact Ending.noConfusion
  | failed => cases same

theorem idles_of_listenScript {report : Report} (positive : 0 < session.idleTimeout)
    (ordered : Ordered script)
    (outcome : session.listenScript received last script = .reported report)
    (idle : report.ending = .idleTimeout) :
    ∃ k, Idles session.idleTimeout (last :: times script) script k := by
  induction script generalizing received last with
  | nil => exact ⟨0, idles_of_far fun moment member => absurd member List.not_mem_nil⟩
  | cons moment script ih =>
    have later := ahead_of_ordered ordered
    have ordered' : Ordered script := (List.pairwise_cons.mp ordered).2
    by_cases overdue : session.idleTimeout ≤ moment.time - last
    · -- The last message idles, since what is left comes no sooner than this moment.
      refine ⟨0, idles_of_far fun other member => ?_⟩
      have := later other member
      omega
    have within : moment.time - last < session.idleTimeout := Nat.lt_of_not_le overdue
    cases arrives : moment.message? with
    | some message =>
      rw [listenScript_message overdue arrives] at outcome
      obtain ⟨k, idles⟩ := ih ordered' outcome
      exact ⟨k + 1, (idles_message arrives within).mpr idles⟩
    | none =>
      cases decides : moment.verdict? with
      | some verdict =>
        rw [listenScript_verdict overdue decides] at outcome
        exact absurd idle (lateOutcome_ending outcome)
      | none =>
        rw [listenScript_other overdue arrives decides] at outcome
        obtain ⟨k, idles⟩ := ih ordered' outcome
        rw [times_other arrives]
        exact ⟨k, (idles_other decides).mpr idles⟩

theorem outcome_of_idles (positive : 0 < session.idleTimeout) (ordered : Ordered script)
    (idles : Idles session.idleTimeout (times script) script k) :
    ∃ initial updates, sizes script = initial :: updates ∧
      session.awaitScript script = session.reportOf ⟨initial, updates.take k⟩ .idleTimeout := by
  induction script with
  | nil =>
    obtain ⟨_, _, found, _⟩ := idles
    cases found
  | cons moment script ih =>
    have later := ahead_of_ordered ordered
    have ordered' : Ordered script := (List.pairwise_cons.mp ordered).2
    rw [awaitScript]
    cases arrives : moment.message? with
    | some message =>
      rw [times_message arrives, idles_other (verdict_of_message arrives)] at idles
      refine ⟨messageSize message, sizes script, sizes_message arrives script, ?_⟩
      exact listenScript_of_idles positive ordered'
        (fun other member => later other (by simp [member])) idles
    | none =>
      cases decides : moment.verdict? with
      | some verdict =>
        obtain ⟨_, latest, found, _, quiet⟩ := idles
        have late := quiet moment (by simp) (by rw [decides]; exact Option.some_ne_none _)
        have after := le_of_mem_times later (List.mem_of_getElem? found)
        omega
      | none =>
        rw [times_other arrives, idles_other decides] at idles
        rw [sizes_other arrives]
        exact ih ordered' idles

theorem earlyOutcome_ending {verdict : Verdict} {report : Report}
    (same : session.earlyOutcome verdict = .reported report) : report.ending ≠ .idleTimeout := by
  cases verdict with
  | interrupted =>
    cases same
    exact Ending.noConfusion
  | closed | failed => cases same

theorem idles_of_outcome {report : Report} (positive : 0 < session.idleTimeout)
    (ordered : Ordered script) (outcome : session.awaitScript script = .reported report)
    (idle : report.ending = .idleTimeout) :
    ∃ k, Idles session.idleTimeout (times script) script k := by
  induction script with
  | nil => cases outcome
  | cons moment script ih =>
    have ordered' : Ordered script := (List.pairwise_cons.mp ordered).2
    rw [awaitScript] at outcome
    cases arrives : moment.message? with
    | some message =>
      rw [arrives] at outcome
      obtain ⟨k, idles⟩ := idles_of_listenScript positive ordered' outcome idle
      rw [times_message arrives]
      exact ⟨k, (idles_other (verdict_of_message arrives)).mpr idles⟩
    | none =>
      rw [arrives] at outcome
      cases decides : moment.verdict? with
      | some verdict =>
        rw [decides] at outcome
        exact absurd idle (earlyOutcome_ending outcome)
      | none =>
        rw [decides] at outcome
        obtain ⟨k, idles⟩ := ih ordered' outcome
        rw [times_other arrives]
        exact ⟨k, (idles_other decides).mpr idles⟩

/-! ## Verdicts -/

variable {before after : List Moment} {moment : Moment} {time : Nat}

/-- The next thing that counts comes no sooner than any other moment. -/
theorem within_of_brisk {timeout : Nat} (brisk : Brisk timeout (last :: (times before ++ [time])))
    (ahead : ∀ other ∈ before, moment.time ≤ other.time) (soon : moment.time ≤ time) :
    moment.time - last < timeout := by
  cases others : times before with
  | nil =>
    rw [others, List.nil_append, brisk_cons_iff] at brisk
    omega
  | cons next later =>
    rw [others, List.cons_append, brisk_cons_iff] at brisk
    have present : next ∈ times before := by
      rw [others]
      exact List.mem_cons_self
    have := le_of_mem_times ahead present
    omega

theorem reaches_cons {timeout : Nat} {times : List Nat} :
    Reaches timeout times (moment :: before) time ↔
      moment.verdict? = none ∧ Reaches timeout times before time := by
  rw [Reaches, Reaches, List.forall_mem_cons, and_assoc]

theorem listenScript_of_reaches {occurrence : Occurrence} {verdict : Verdict}
    (ordered : Ordered (before ++ ⟨time, occurrence⟩ :: after))
    (reaches : Reaches session.idleTimeout (last :: times before) before time)
    (decides : occurrence.incident.verdict? = some verdict) :
    session.listenScript received last (before ++ ⟨time, occurrence⟩ :: after) =
      session.lateOutcome ⟨received.initial, received.updates ++ sizes before⟩ verdict := by
  induction before generalizing received last with
  | nil =>
    have within : ¬ session.idleTimeout ≤ (Moment.mk time occurrence).time - last :=
      Nat.not_le_of_lt (brisk_cons_iff.mp reaches.2).1
    rw [sizes, List.filterMap_nil, List.append_nil]
    exact listenScript_verdict within decides after
  | cons moment before ih =>
    obtain ⟨undecided, reaches⟩ := reaches_cons.mp reaches
    have ordered' : Ordered (before ++ ⟨time, occurrence⟩ :: after) :=
      (List.pairwise_cons.mp ordered).2
    have later := (List.pairwise_cons.mp ordered).1
    have ahead : ∀ other ∈ before, moment.time ≤ other.time :=
      fun other member => later other (by simp [member])
    have soon : moment.time ≤ time := later ⟨time, occurrence⟩ (by simp)
    cases arrives : moment.message? with
    | some message =>
      rw [times_message arrives] at reaches
      obtain ⟨within, brisk⟩ := brisk_cons_iff.mp reaches.2
      rw [List.cons_append, listenScript_message (Nat.not_le_of_lt within) arrives,
        ih ordered' ⟨reaches.1, brisk⟩, sizes_message arrives, List.append_assoc,
        List.singleton_append]
    | none =>
      rw [times_other arrives] at reaches
      have within := within_of_brisk reaches.2 ahead soon
      rw [List.cons_append, listenScript_other (Nat.not_le_of_lt within) arrives undecided,
        ih ordered' reaches, sizes_other arrives]

/-- A verdict that is not reached is as good as any other one. -/
theorem listenScript_of_not_reaches {occurrence occurrence' : Occurrence}
    (unreached : ¬ Reaches session.idleTimeout (last :: times before) before time) :
    session.listenScript received last (before ++ ⟨time, occurrence⟩ :: after) =
      session.listenScript received last (before ++ ⟨time, occurrence'⟩ :: after) := by
  induction before generalizing received last with
  | nil =>
    by_cases overdue : session.idleTimeout ≤ time - last
    · exact (listenScript_overdue overdue after).trans (listenScript_overdue overdue after).symm
    · have brisk : Brisk session.idleTimeout [last, time] :=
        brisk_cons_iff.mpr ⟨Nat.lt_of_not_le overdue, List.isChain_singleton time⟩
      exact absurd ⟨fun other member => absurd member List.not_mem_nil, brisk⟩ unreached
  | cons moment before ih =>
    rw [List.cons_append, List.cons_append]
    by_cases overdue : session.idleTimeout ≤ moment.time - last
    · rw [listenScript_overdue overdue, listenScript_overdue overdue]
    cases decides : moment.verdict? with
    | some verdict =>
      rw [listenScript_verdict overdue decides, listenScript_verdict overdue decides]
    | none =>
      cases arrives : moment.message? with
      | some message =>
        rw [listenScript_message overdue arrives, listenScript_message overdue arrives]
        refine ih fun reaches => unreached (reaches_cons.mpr ⟨decides, reaches.1, ?_⟩)
        rw [times_message arrives, List.cons_append, List.cons_append, brisk_cons_iff]
        exact ⟨Nat.lt_of_not_le overdue, reaches.2⟩
      | none =>
        rw [listenScript_other overdue arrives decides, listenScript_other overdue arrives decides]
        refine ih fun reaches => unreached (reaches_cons.mpr ⟨decides, ?_⟩)
        rw [times_other arrives]
        exact reaches

theorem awaitScript_of_reaches {occurrence : Occurrence} {verdict : Verdict} {initial : Nat}
    {updates : List Nat} (ordered : Ordered (before ++ ⟨time, occurrence⟩ :: after))
    (counted : sizes before = initial :: updates)
    (reaches : Reaches session.idleTimeout (times before) before time)
    (decides : occurrence.incident.verdict? = some verdict) :
    session.awaitScript (before ++ ⟨time, occurrence⟩ :: after) =
      session.lateOutcome ⟨initial, updates⟩ verdict := by
  induction before with
  | nil => cases counted
  | cons moment before ih =>
    obtain ⟨undecided, reaches⟩ := reaches_cons.mp reaches
    have ordered' : Ordered (before ++ ⟨time, occurrence⟩ :: after) :=
      (List.pairwise_cons.mp ordered).2
    rw [List.cons_append, awaitScript]
    cases arrives : moment.message? with
    | some message =>
      rw [sizes_message arrives] at counted
      rw [times_message arrives] at reaches
      obtain ⟨rfl, rfl⟩ := List.cons.inj counted
      exact listenScript_of_reaches ordered' reaches decides
    | none =>
      rw [sizes_other arrives] at counted
      rw [times_other arrives] at reaches
      rw [undecided]
      exact ih ordered' counted reaches

theorem awaitScript_of_not_reaches {occurrence occurrence' : Occurrence}
    (some : sizes before ≠ [])
    (unreached : ¬ Reaches session.idleTimeout (times before) before time) :
    session.awaitScript (before ++ ⟨time, occurrence⟩ :: after) =
      session.awaitScript (before ++ ⟨time, occurrence'⟩ :: after) := by
  induction before with
  | nil => exact absurd rfl some
  | cons moment before ih =>
    rw [List.cons_append, List.cons_append, awaitScript, awaitScript]
    cases arrives : moment.message? with
    | some message =>
      refine listenScript_of_not_reaches fun reaches => unreached ?_
      rw [times_message arrives]
      exact reaches_cons.mpr ⟨verdict_of_message arrives, reaches⟩
    | none =>
      cases decides : moment.verdict? with
      | some verdict => rfl
      | none =>
        rw [sizes_other arrives] at some
        refine ih some fun reaches => unreached (reaches_cons.mpr ⟨decides, ?_⟩)
        rw [times_other arrives]
        exact reaches

/-- The run ends with whatever verdict comes at the time, between what comes before and after: it is
this verdict that decides, and not one before it or the timeout. -/
def EndsAt (session : Session) (before after : List Moment) (time : Nat) (received : Received) :
    Prop :=
  ∀ occurrence verdict, occurrence.incident.verdict? = some verdict →
    (session.runScript (before ++ ⟨time, occurrence⟩ :: after)).outcome =
      session.lateOutcome received verdict

/-- Behind a first message, the run ends with a verdict exactly if the verdict is reached. -/
theorem verdict_counts_iff {initial : Nat} {updates : List Nat}
    (ordered : Ordered (before ++ moment :: after)) (counted : sizes before = initial :: updates) :
    session.EndsAt before after moment.time ⟨initial, updates⟩ ↔
      Reaches session.idleTimeout (times before) before moment.time := by
  have ordered' (occurrence : Occurrence) :
      Ordered (before ++ ⟨moment.time, occurrence⟩ :: after) :=
    ordered_of_times ordered (by simp)
  constructor
  · intro counts
    refine Classical.byContradiction fun unreached => ?_
    have some : sizes before ≠ [] := by
      rw [counted]
      exact List.cons_ne_nil _ _
    -- Were it not reached, an interrupt and an error in its place would come to the same.
    have same : session.awaitScript (before ++ ⟨moment.time, .interrupted⟩ :: after) =
        session.awaitScript (before ++ ⟨moment.time, .signal (.failed .utf8)⟩ :: after) :=
      awaitScript_of_not_reaches some unreached
    rw [← outcome_runScript (ordered' _), ← outcome_runScript (ordered' _),
      counts .interrupted .interrupted rfl, counts (.signal (.failed .utf8)) _ rfl] at same
    cases same
  · intro reaches occurrence verdict decides
    rw [outcome_runScript (ordered' occurrence)]
    exact awaitScript_of_reaches (ordered' occurrence) counted reaches decides

/-! ## What extends no wait -/

/-- Whether a ping, a pong or a piece of a message comes. -/
def controlMoment (moment : Moment) : Bool :=
  isControl moment.occurrence.incident

/-- A script that starts later. -/
def delayed (delay : Nat) (script : List Moment) : List Moment :=
  script.map fun moment => { moment with time := moment.time + delay }

theorem listenScript_of_far
    (far : ∀ moment ∈ script, session.idleTimeout ≤ moment.time - last) :
    session.listenScript received last script = session.reportOf received .idleTimeout := by
  cases script with
  | nil => rfl
  | cons moment script => exact listenScript_overdue (far moment (by simp)) script

theorem listenScript_filter (ordered : Ordered script) :
    session.listenScript received last (script.filter fun moment => ! controlMoment moment) =
      session.listenScript received last script := by
  induction script generalizing received last with
  | nil => rfl
  | cons moment script ih =>
    have ordered' : Ordered script := (List.pairwise_cons.mp ordered).2
    by_cases overdue : session.idleTimeout ≤ moment.time - last
    · -- Whether the moment is left out or not, the next one is as late.
      have far : ∀ other ∈ moment :: script, session.idleTimeout ≤ other.time - last := by
        intro other member
        have := ahead_of_ordered ordered other member
        omega
      rw [listenScript_of_far far, listenScript_of_far fun other member =>
        far other (List.mem_of_mem_filter member)]
    by_cases control : controlMoment moment = true
    · obtain ⟨noMessage, undecided, _, _⟩ := isControl_cases control
      rw [List.filter_cons_of_neg (by simp [control]),
        listenScript_other overdue noMessage undecided, ih ordered']
    · rw [List.filter_cons_of_pos (by simp [control]), listenScript, listenScript, if_neg overdue,
        if_neg overdue]
      split
      · rfl
      · exact ih ordered'

theorem awaitScript_filter (ordered : Ordered script) :
    session.awaitScript (script.filter fun moment => ! controlMoment moment) =
      session.awaitScript script := by
  induction script with
  | nil => rfl
  | cons moment script ih =>
    have ordered' : Ordered script := (List.pairwise_cons.mp ordered).2
    by_cases control : controlMoment moment = true
    · obtain ⟨noMessage, undecided, _, _⟩ := isControl_cases control
      have noMessage : moment.message? = none := noMessage
      have undecided : moment.verdict? = none := undecided
      rw [List.filter_cons_of_neg (by simp [control]), ih ordered', awaitScript, noMessage,
        undecided]
    · rw [List.filter_cons_of_pos (by simp [control]), awaitScript, awaitScript]
      split
      · exact listenScript_filter ordered'
      · split
        · rfl
        · exact ih ordered'

theorem listenScript_delayed (delay : Nat) :
    session.listenScript received (last + delay) (delayed delay script) =
      session.listenScript received last script := by
  induction script generalizing received last with
  | nil => rfl
  | cons moment script ih =>
    have mark : Moment.mark (last + delay) { moment with time := moment.time + delay } =
        moment.mark last + delay := by
      simp only [Moment.mark, Moment.message?]
      cases moment.occurrence.incident.message? <;> rfl
    rw [delayed, List.map_cons, listenScript, listenScript, mark]
    simp only [Nat.add_sub_add_right, Moment.verdict?]
    split
    · rfl
    · split
      · rfl
      · exact ih

theorem awaitScript_delayed (delay : Nat) (script : List Moment) :
    session.awaitScript (delayed delay script) = session.awaitScript script := by
  induction script with
  | nil => rfl
  | cons moment script ih =>
    rw [delayed, List.map_cons, awaitScript, awaitScript]
    simp only [Moment.message?, Moment.verdict?]
    split
    · exact listenScript_delayed delay
    · split
      · rfl
      · exact ih

theorem awaitScript_silent
    (silent : ∀ moment ∈ script, moment.message? = none ∧ moment.verdict? = none) :
    session.awaitScript script = .pending := by
  induction script with
  | nil => rfl
  | cons moment script ih =>
    obtain ⟨⟨noMessage, undecided⟩, silent⟩ := List.forall_mem_cons.mp silent
    rw [awaitScript, noMessage, undecided]
    exact ih silent

/-- On every script, the idle timeout ends the run exactly if a message idles, and the report then
counts the messages up to that one. Any other end decides the run exactly if it is reached. Pings,
pongs and pieces of messages extend no wait. The first message may come as late as it likes, and a
run to which none comes, nor a verdict, never ends. -/
theorem idle_timeout_exact (session : Session) (script : List Moment)
    (positive : 0 < session.idleTimeout) (ordered : Ordered script) :
    ((∃ report, (session.runScript script).outcome = .reported report ∧
        report.ending = .idleTimeout) ↔
      ∃ k, Idles session.idleTimeout (times script) script k) ∧
    (∀ k, Idles session.idleTimeout (times script) script k →
      ∃ initial updates, sizes script = initial :: updates ∧
        (session.runScript script).outcome =
          session.reportOf ⟨initial, updates.take k⟩ .idleTimeout) ∧
    (∀ before moment after initial updates, script = before ++ moment :: after →
      sizes before = initial :: updates →
      (session.EndsAt before after moment.time ⟨initial, updates⟩ ↔
        Reaches session.idleTimeout (times before) before moment.time)) ∧
    (session.runScript (script.filter fun moment => ! controlMoment moment)).outcome =
      (session.runScript script).outcome ∧
    (∀ delay, (session.runScript (delayed delay script)).outcome =
      (session.runScript script).outcome) ∧
    ((∀ moment ∈ script, moment.message? = none ∧ moment.verdict? = none) →
      (session.runScript script).outcome = .pending) := by
  rw [outcome_runScript ordered]
  refine ⟨⟨?_, ?_⟩, ?_, ?_, ?_, ?_, awaitScript_silent⟩
  · rintro ⟨report, outcome, idle⟩
    exact idles_of_outcome positive ordered outcome idle
  · rintro ⟨k, idles⟩
    obtain ⟨initial, updates, _, outcome⟩ := outcome_of_idles positive ordered idles
    exact ⟨_, outcome, rfl⟩
  · intro k idles
    exact outcome_of_idles positive ordered idles
  · rintro before moment after initial updates rfl counted
    exact verdict_counts_iff ordered counted
  · rw [outcome_runScript (ordered.filter _)]
    exact awaitScript_filter ordered
  · intro delay
    have ordered' : Ordered (delayed delay script) :=
      List.pairwise_map.mpr (ordered.imp fun le => Nat.add_le_add_right le delay)
    rw [outcome_runScript ordered']
    exact awaitScript_delayed delay script

/-- Two messages in time, with a ping, a piece and a pong behind them, and a close when the timeout
is just over. -/
def quietScript : List Moment :=
  [⟨5000, .signal (.message (.text "é"))⟩, ⟨5050, .signal (.ping [])⟩,
    ⟨5099, .signal (.message (.binary [1, 2, 3]))⟩, ⟨5150, .signal .piece⟩,
    ⟨5190, .signal (.pong [])⟩, ⟨5199, .signal (.closed none)⟩]

def quietSession : Session where
  endpoint := ⟨"ws", none, .rooted [""], none, none⟩
  idleTimeout := 100
  inspect := false

theorem idle_timeout_exact_quietScript :
    0 < quietSession.idleTimeout ∧ Ordered quietScript ∧
      Idles quietSession.idleTimeout (times quietScript) quietScript 1 ∧
      (quietSession.runScript quietScript).outcome =
        quietSession.reportOf ⟨2, [3]⟩ .idleTimeout := by
  have positive : 0 < quietSession.idleTimeout := by decide
  have ordered : Ordered quietScript := by
    unfold Ordered
    decide
  have idles : Idles quietSession.idleTimeout (times quietScript) quietScript 1 := by
    refine ⟨?_, 5099, rfl, ?_, by decide⟩
    · unfold Brisk
      decide
    · intro next found
      cases found
  obtain ⟨initial, updates, counted, outcome⟩ :=
    (idle_timeout_exact quietSession quietScript positive ordered).2.1 1 idles
  cases counted
  exact ⟨positive, ordered, idles, outcome⟩

end Session

end SyncProbe
