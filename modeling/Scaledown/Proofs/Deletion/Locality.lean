/-
This file follows one host through the rounds of a drain with local answers.
-/

import Scaledown.Proofs.Deletion.Ending
import Scaledown.Proofs.Session.Locality

namespace Scaledown

open Compute Deletion

/-- Only a throttled submission is repeated. -/
def isThrottled : Option Outcome → Bool
  | some (.throttled _) => true
  | _ => false

/-- An outcome that is missing counts as a failure. -/
def recordedOutcome (outcome : Option Outcome) : Outcome :=
  outcome.getD (.failed "no outcome returned")

namespace LocalAnswers

variable (answers : LocalAnswers)

theorem exists_unthrottled (host : String) (start : Nat) :
    ∃ time, start ≤ time ∧ isThrottled (answers.outcome host time) = false := by
  obtain ⟨bound, ended⟩ := answers.throttlingEnds host
  refine ⟨max start bound, le_max_left _ _, ?_⟩
  have settled := ended (max start bound) (le_max_right _ _)
  match found : answers.outcome host (max start bound) with
  | some (.throttled message) => exact absurd found (settled message)
  | some (.accepted _) | some (.failed _) | none => rfl

/-- A host is submitted until its outcome is not throttled, and this outcome stands. -/
def settledOutcome (host : String) : Outcome :=
  recordedOutcome (answers.outcome host (Nat.find (answers.exists_unthrottled host 0)))

/-- The first outcome that is not throttled stands. -/
theorem settledOutcome_eq {host : String} {time : Nat}
    (before : ∀ earlier < time, isThrottled (answers.outcome host earlier) = true)
    (settled : isThrottled (answers.outcome host time) = false) :
    answers.settledOutcome host = recordedOutcome (answers.outcome host time) := by
  have first : Nat.find (answers.exists_unthrottled host 0) = time := by
    refine (Nat.find_eq_iff _).2 ⟨⟨Nat.zero_le _, settled⟩, fun earlier less found => ?_⟩
    rw [before earlier less] at found
    cases found.2
  rw [settledOutcome, first]

/-- A settled operation was accepted in one of the submissions. -/
theorem exists_accepted {host : String} {operation : Operation}
    (settled : answers.settledOutcome host = .accepted operation) :
    ∃ time, answers.outcome host time = some (.accepted operation) := by
  unfold settledOutcome at settled
  cases found : answers.outcome host (Nat.find (answers.exists_unthrottled host 0)) with
  | none =>
    rw [found] at settled
    cases settled
  | some outcome =>
    rw [found] at settled
    exact ⟨_, found.trans (congrArg some settled)⟩

end LocalAnswers

theorem isThrottled_eq_true_iff (outcome : Option Outcome) :
    isThrottled outcome = true ↔ ∃ message, recordedOutcome outcome = .throttled message := by
  match outcome with
  | some (.throttled message) => simp [isThrottled, recordedOutcome]
  | some (.accepted operation) => simp [isThrottled, recordedOutcome]
  | some (.failed message) => simp [isThrottled, recordedOutcome]
  | none => simp [isThrottled, recordedOutcome]

namespace Deletion

variable {outcome : String → Nat → Option Outcome} {before : List Event}

theorem timesSubmitted_submissions (submissions : List Submission) (host : String) :
    timesSubmitted (submissions.map Submission.event) host =
      (hostsOf (requestsOf submissions)).count host := by
  rw [timesSubmitted, List.flatMap_map, hostsOf, requestsOf, List.map_flatMap]
  rfl

/-- Each request of a batch has the outcome of its host, or it is left out. -/
def answerByHost (outcome : String → Option Outcome) (batch : List DeleteRequest) :
    BatchOutcome :=
  batch.filterMap fun request =>
    (outcome request.hostname).map fun own => (request.hostname, own)

/-- A host finds its own outcome in the answer to a batch. -/
theorem find?_answerByHost (outcome : String → Option Outcome) (batch : List DeleteRequest)
    (host : String) :
    (answerByHost outcome batch).find? host =
      if host ∈ hostsOf batch then outcome host else none := by
  induction batch with
  | nil => rfl
  | cons request batch ih =>
    unfold answerByHost at ih ⊢
    by_cases same : request.hostname = host
    · subst same
      cases found : outcome request.hostname with
      | none => simpa [hostsOf, found] using ih
      | some own => simp [hostsOf, found, Table.find?]
    · have members : host ∈ hostsOf (request :: batch) ↔ host ∈ hostsOf batch := by
        simp [hostsOf, Ne.symm same]
      cases found : outcome request.hostname with
      | none => simpa [members, found] using ih
      | some own => simpa [members, found, Table.find?, same] using ih

/-- The verdicts of one round are the local outcomes of its distinct hosts. -/
theorem verdictsOf_local {submissions : List Submission} {count : Nat}
    (distinct : (hostsOf (requestsOf submissions)).Nodup)
    (fresh : ∀ host ∈ hostsOf (requestsOf submissions), timesSubmitted before host = count)
    (given : Justified (GivesOutcomes outcome) before (submissions.map Submission.event)) :
    ∀ verdict ∈ verdictsOf submissions,
      verdict.2 = recordedOutcome (outcome verdict.1.hostname count) := by
  induction submissions generalizing before with
  | nil => simp [verdictsOf]
  | cons submission submissions ih =>
    obtain ⟨batch, answer⟩ := submission
    obtain ⟨first, rest⟩ := given.of_cons
    have apart : (hostsOf batch ++ hostsOf (requestsOf submissions)).Nodup := by
      simpa [requestsOf, hostsOf] using distinct
    obtain ⟨batchDistinct, restDistinct, disjoint⟩ := List.nodup_append.1 apart
    obtain ⟨outcomes, rfl, own⟩ := first batchDistinct
    intro verdict inside
    rw [verdictsOf, List.flatMap_cons, List.mem_append] at inside
    rcases inside with here | later
    · obtain ⟨request, asked, rfl⟩ := List.mem_map.1 here
      have host : request.hostname ∈ hostsOf batch := List.mem_map_of_mem asked
      have counted := fresh request.hostname (by
        simp only [requestsOf, hostsOf, List.flatMap_cons, List.map_append, List.mem_append]
        exact .inl host)
      change (outcomes.find? request.hostname).getD _ = _
      rw [own request.hostname host, counted]
      rfl
    · refine ih restDistinct (fun host held => ?_) rest verdict later
      have outside : host ∉ hostsOf batch := fun inBatch => disjoint host inBatch host held rfl
      have counted := fresh host (by
        simp only [requestsOf, hostsOf, List.flatMap_cons, List.map_append, List.mem_append]
        exact .inr held)
      have one := timesSubmitted_submissions [⟨batch, .ok outcomes⟩] host
      rw [timesSubmitted_append, counted]
      simpa [requestsOf, List.count_eq_zero_of_not_mem outside] using one

/-- A throttled host was submitted once more in its round. -/
theorem timesSubmitted_throttledOf {submissions : List Submission} {count : Nat}
    (distinct : (hostsOf (requestsOf submissions)).Nodup)
    (fresh : ∀ host ∈ hostsOf (requestsOf submissions), timesSubmitted before host = count) :
    ∀ host ∈ hostsOf (throttledOf submissions),
      timesSubmitted (before ++ submissions.map Submission.event) host = count + 1 := by
  intro host inside
  have asked := ((throttledOf_sublist submissions).map DeleteRequest.hostname).subset inside
  rw [timesSubmitted_append, fresh host asked, timesSubmitted_submissions,
    List.count_eq_one_of_mem distinct asked]

/-- The verdict of a throttled host is its local outcome. -/
theorem isThrottled_of_mem_throttledOf {submissions : List Submission} {count : Nat}
    (verdicts : ∀ verdict ∈ verdictsOf submissions,
      verdict.2 = recordedOutcome (outcome verdict.1.hostname count))
    {request : DeleteRequest} (inside : request ∈ throttledOf submissions) :
    isThrottled (outcome request.hostname count) = true := by
  obtain ⟨message, refused⟩ := (mem_throttledOf_iff _ _).1 inside
  exact (isThrottled_eq_true_iff _).2 ⟨message, (verdicts _ refused).symm⟩

namespace Rounds

variable {limit : Nat} {pending left : List DeleteRequest} {rounds : List (List Submission)}

/-- A host of a later round has been submitted once in each earlier one. -/
theorem verdicts_local (made : Rounds limit pending rounds left) {count : Nat}
    (distinct : (hostsOf pending).Nodup)
    (fresh : ∀ host ∈ hostsOf pending, timesSubmitted before host = count)
    (given : Justified (GivesOutcomes outcome) before (rounds.flatten.map Submission.event)) :
    ∀ (k : Nat) (round : List Submission), rounds[k]? = some round →
      ∀ verdict ∈ verdictsOf round,
        verdict.2 = recordedOutcome (outcome verdict.1.hostname (count + k)) := by
  induction made generalizing before count with
  | start => simp
  | @round pending left submissions rest _ cut _ ih =>
    have covers := requestsOf_eq cut
    rw [List.flatten_cons, List.map_append] at given
    obtain ⟨first, others⟩ := given.of_append
    rw [← covers] at distinct fresh
    intro k round present
    cases k with
    | zero =>
      obtain rfl : submissions = round := by simpa using present
      exact verdictsOf_local distinct fresh first
    | succ k =>
      have kept := (throttledOf_sublist submissions).map DeleteRequest.hostname
      have again := timesSubmitted_throttledOf distinct fresh
      have next := ih (kept.nodup distinct) again others k round (by simpa using present)
      rwa [Nat.add_assoc, Nat.add_comm 1 k] at next

variable {answers : LocalAnswers}

/-- The last outcome of each host that is not throttled is the settled one. -/
theorem settledOutcome_eq (made : Rounds limit pending rounds left)
    (distinct : (hostsOf pending).Nodup)
    (fresh : ∀ host ∈ hostsOf pending, timesSubmitted before host = 0)
    (given : Justified answers.Gives before (rounds.flatten.map Submission.event))
    {round : List Submission} (inside : round ∈ rounds) {verdict : Verdict}
    (recorded : verdict ∈ verdictsOf round)
    (settled : ∀ message, verdict.2 ≠ .throttled message) :
    answers.settledOutcome verdict.1.hostname = verdict.2 := by
  have verdicts := made.verdicts_local distinct fresh (given.mono answers.givesOutcomes)
  obtain ⟨k, present⟩ := List.mem_iff_getElem?.1 inside
  have own := verdicts k round present verdict recorded
  rw [Nat.zero_add] at own
  rw [own]
  refine answers.settledOutcome_eq (fun earlier less => ?_) ?_
  · obtain ⟨past, held⟩ : ∃ past, rounds[earlier]? = some past := by
      have bound := (List.getElem?_eq_some_iff.1 present).1
      exact ⟨_, List.getElem?_eq_getElem (Nat.lt_trans less bound)⟩
    have requested : verdict.1 ∈ requestsOf round := by
      rw [← map_fst_verdictsOf]
      exact List.mem_map_of_mem recorded
    have throttled := (made.throttled_of_resubmitted less held present).subset requested
    have outcomes := verdicts earlier past held
    rw [Nat.zero_add] at outcomes
    exact isThrottled_of_mem_throttledOf outcomes throttled
  · rw [← Bool.not_eq_true, isThrottled_eq_true_iff]
    rintro ⟨message, refused⟩
    exact settled message (own.trans refused)

/-- An accepted host has its settled operation. -/
theorem settledOutcome_of_accepted (made : Rounds limit pending rounds left)
    (distinct : (hostsOf pending).Nodup)
    (fresh : ∀ host ∈ hostsOf pending, timesSubmitted before host = 0)
    (given : Justified answers.Gives before (rounds.flatten.map Submission.event))
    {host : String} {operation : Operation}
    (inside : (host, operation) ∈ rounds.flatMap acceptedOf) :
    answers.settledOutcome host = .accepted operation := by
  obtain ⟨round, present, accepted⟩ := List.mem_flatMap.1 inside
  obtain ⟨verdict, recorded, found⟩ := List.mem_filterMap.1 accepted
  obtain ⟨rfl, outcome⟩ := Verdict.accepted?_eq_some.1 found
  rw [← outcome]
  exact made.settledOutcome_eq distinct fresh given present recorded (by simp [outcome])

theorem settledOutcome_of_failed (made : Rounds limit pending rounds left)
    (distinct : (hostsOf pending).Nodup)
    (fresh : ∀ host ∈ hostsOf pending, timesSubmitted before host = 0)
    (given : Justified answers.Gives before (rounds.flatten.map Submission.event))
    {host message : String} (inside : (host, message) ∈ rounds.flatMap failedOf) :
    answers.settledOutcome host = .failed message := by
  obtain ⟨round, present, failed⟩ := List.mem_flatMap.1 inside
  obtain ⟨verdict, recorded, found⟩ := List.mem_filterMap.1 failed
  obtain ⟨rfl, outcome⟩ := Verdict.failed?_eq_some.1 found
  rw [← outcome]
  exact made.settledOutcome_eq distinct fresh given present recorded (by simp [outcome])

end Rounds

variable {World : Type} {collaborators : Collaborators World} {answers : LocalAnswers}
  {world : World} {session : Session World}

/-- Each of these hosts was submitted equally often, and for none of them so many submissions
more are throttled. -/
def CalmSoon (collaborators : Collaborators World) (answers : LocalAnswers) (world : World)
    (needed : Nat) (pending : List DeleteRequest) (session : Session World) : Prop :=
  ∃ events count, Performs collaborators (.start world) events session ∧
    ∀ host ∈ hostsOf pending, timesSubmitted events host = count ∧
      ∃ time, count ≤ time ∧ time < count + needed ∧
        isThrottled (answers.outcome host time) = false

/-- A round with local answers brings its throttled hosts nearer to their settled outcomes. -/
theorem calmSoon_nearer (here : HostLocal collaborators answers world) :
    RoundsComeNearer collaborators (CalmSoon collaborators answers world) := by
  rintro needed round start rested distinct ⟨events, count, reached, soon⟩ performed throttled
  have fresh := fun host inside => (soon host inside).1
  have verdicts := verdictsOf_local distinct fresh
    ((here.justified (reached.trans performed)).of_append.2.mono answers.givesOutcomes)
  have again := timesSubmitted_throttledOf distinct fresh
  have kept := (throttledOf_sublist round).map DeleteRequest.hostname
  have later : ∀ host ∈ hostsOf (throttledOf round), ∃ time, count + 1 ≤ time ∧
      time < count + needed ∧ isThrottled (answers.outcome host time) = false := by
    intro host inside
    obtain ⟨-, time, start, before, settled⟩ := soon host (kept.subset inside)
    obtain ⟨request, throttled, rfl⟩ := List.mem_map.1 inside
    have differs : time ≠ count := by
      rintro rfl
      rw [isThrottled_of_mem_throttledOf verdicts throttled] at settled
      cases settled
    exact ⟨time, by omega, before, settled⟩
  obtain ⟨request, inside⟩ := List.exists_mem_of_ne_nil _ throttled
  obtain ⟨first, start, before, -⟩ := later request.hostname (List.mem_map_of_mem inside)
  refine ⟨needed - 1, by omega, _, count + 1, reached.trans performed, fun host inside => ?_⟩
  obtain ⟨time, start, before, settled⟩ := later host inside
  exact ⟨again host inside, time, start, by omega, settled⟩

/-- Hosts that were never submitted are settled after as many rounds as the most throttled one
needs. -/
theorem calmSoon_of_fresh (answers : LocalAnswers) {events : List Event}
    (reached : Performs collaborators (.start world) events session)
    {requests : List DeleteRequest}
    (fresh : ∀ host ∈ hostsOf requests, timesSubmitted events host = 0) :
    ∃ needed, CalmSoon collaborators answers world needed requests session := by
  let settles := fun host => Nat.find (answers.exists_unthrottled host 0)
  refine ⟨(hostsOf requests).toFinset.sup settles + 1, events, 0, reached, fun host inside => ?_⟩
  have bound : settles host ≤ (hostsOf requests).toFinset.sup settles :=
    Finset.le_sup (List.mem_toFinset.2 inside)
  exact ⟨fresh host inside, settles host, Nat.zero_le _, by omega,
    (Nat.find_spec (answers.exists_unthrottled host 0)).2⟩

end Deletion

end Scaledown
