/-
This file shows that the batches and the pauses of a drain do not change its result.
-/

import Scaledown.Proofs.Deletion.Locality

namespace Scaledown

open Compute Deletion

/-- The outcome of a submission depends on its host and on the earlier submissions of this host,
and no host is throttled for ever. -/
structure HostOutcomes where
  /-- A request may be left out of the answer. -/
  outcome : String → Nat → Option Outcome
  throttlingEnds : ∀ host, ∃ time, isThrottled (outcome host time) = false

namespace HostOutcomes

variable (answers : HostOutcomes)

/-- So many submissions of the host are throttled before one is not. -/
def throttlings (host : String) : Nat :=
  Nat.find (answers.throttlingEnds host)

/-- The first outcome that is not throttled stands. -/
def settled (host : String) : Outcome :=
  recordedOutcome (answers.outcome host (answers.throttlings host))

/-- This is the verdict of a request that was throttled so many times. -/
def verdictAfter (count : Nat) (request : DeleteRequest) : Verdict :=
  (request, recordedOutcome (answers.outcome request.hostname count))

/-- These requests are submitted after so many rounds. -/
def pendingAfter (count : Nat) (requests : List DeleteRequest) : List DeleteRequest :=
  requests.filter fun request => count ≤ answers.throttlings request.hostname

/-- These requests are settled in the round after so many rounds. -/
def settledAfter (count : Nat) (requests : List DeleteRequest) : List DeleteRequest :=
  requests.filter fun request => answers.throttlings request.hostname = count

/-- A submission is throttled exactly when it comes before the one that stands. -/
theorem isThrottled_iff {host : String} {count : Nat} (reached : count ≤ answers.throttlings host) :
    isThrottled (answers.outcome host count) = true ↔ count < answers.throttlings host := by
  constructor
  · intro throttled
    refine Nat.lt_of_le_of_ne reached ?_
    rintro rfl
    have calm : isThrottled (answers.outcome host (answers.throttlings host)) = false :=
      Nat.find_spec (answers.throttlingEnds host)
    rw [throttled] at calm
    cases calm
  · intro early
    simpa using Nat.find_min (answers.throttlingEnds host) early

theorem exists_verdictAfter_eq_throttled {count : Nat} {request : DeleteRequest}
    (early : count < answers.throttlings request.hostname) :
    ∃ message, answers.verdictAfter count request = (request, .throttled message) := by
  have throttled := (answers.isThrottled_iff early.le).2 early
  obtain ⟨message, refused⟩ := (isThrottled_eq_true_iff _).1 throttled
  exact ⟨message, by rw [verdictAfter, refused]⟩

theorem throttled?_verdictAfter_eq_none {count : Nat} {request : DeleteRequest}
    (settled : answers.throttlings request.hostname = count) :
    (answers.verdictAfter count request).throttled? = none := by
  cases found : (answers.verdictAfter count request).throttled? with
  | none => rfl
  | some other =>
    obtain ⟨message, refused⟩ := Verdict.throttled?_eq_some.1 found
    have throttled := (isThrottled_eq_true_iff _).2 ⟨message, congrArg Prod.snd refused⟩
    have early := (answers.isThrottled_iff settled.ge).1 throttled
    omega

/-- The throttled requests of a round are those of the next one. -/
theorem filterMap_throttled? (count : Nat) (requests : List DeleteRequest) :
    ((answers.pendingAfter count requests).map (answers.verdictAfter count)).filterMap
        Verdict.throttled? = answers.pendingAfter (count + 1) requests := by
  induction requests with
  | nil => rfl
  | cons request requests ih =>
    unfold pendingAfter at ih ⊢
    rcases Nat.lt_trichotomy (answers.throttlings request.hostname) count with past | now | later
    · rw [List.filter_cons_of_neg (by simpa using past),
        List.filter_cons_of_neg (by simp; omega), ih]
    · rw [List.filter_cons_of_pos (by simp [now]), List.filter_cons_of_neg (by simp; omega),
        List.map_cons,
        List.filterMap_cons_none (answers.throttled?_verdictAfter_eq_none now), ih]
    · obtain ⟨message, refused⟩ := answers.exists_verdictAfter_eq_throttled later
      rw [List.filter_cons_of_pos (by simpa using later.le),
        List.filter_cons_of_pos (by simpa using later), List.map_cons, refused,
        List.filterMap_cons_some (Verdict.throttled?_eq_some.2 ⟨message, rfl⟩), ih]

/-- What is picked from a round without its throttled requests is picked from its settled ones. -/
theorem filterMap_verdictAfter {α : Type} (pick : Verdict → Option α)
    (skips : ∀ request message, pick (request, .throttled message) = none) (count : Nat)
    (requests : List DeleteRequest) :
    ((answers.pendingAfter count requests).map (answers.verdictAfter count)).filterMap pick =
      (answers.settledAfter count requests).filterMap fun request =>
        pick (request, answers.settled request.hostname) := by
  induction requests with
  | nil => rfl
  | cons request requests ih =>
    unfold pendingAfter settledAfter at ih ⊢
    rcases Nat.lt_trichotomy (answers.throttlings request.hostname) count with past | now | later
    · rw [List.filter_cons_of_neg (by simpa using past),
        List.filter_cons_of_neg (by simpa using past.ne), ih]
    · have stands : answers.verdictAfter count request =
          (request, answers.settled request.hostname) := by
        rw [verdictAfter, settled, now]
      rw [List.filter_cons_of_pos (by simp [now]), List.filter_cons_of_pos (by simp [now]),
        List.map_cons, List.filterMap_cons, List.filterMap_cons, stands, ih]
    · obtain ⟨message, refused⟩ := answers.exists_verdictAfter_eq_throttled later
      rw [List.filter_cons_of_pos (by simpa using later.le),
        List.filter_cons_of_neg (by simpa using later.ne'), List.map_cons, refused,
        List.filterMap_cons_none (skips _ _), ih]

/-- The requests in the order of the rounds that settle them, as a summary keeps them. -/
def settledWithin {α : Type} (pick : Verdict → Option α) (rounds : Nat)
    (requests : List DeleteRequest) : List α :=
  (List.range rounds).flatMap fun count =>
    (answers.settledAfter count requests).filterMap fun request =>
      pick (request, answers.settled request.hostname)

/-- A drain makes one round more than its most throttled host is throttled. -/
def roundsOf (requests : List DeleteRequest) : Nat :=
  if requests = [] then 0 else 1 + (hostsOf requests).toFinset.sup answers.throttlings

theorem pendingAfter_eq_nil_iff (count : Nat) (requests : List DeleteRequest) :
    answers.pendingAfter count requests = [] ↔ answers.roundsOf requests ≤ count := by
  by_cases nothing : requests = []
  · simp [pendingAfter, roundsOf, nothing]
  · have nonempty : (hostsOf requests).toFinset.Nonempty := by
      rw [List.toFinset_nonempty_iff, hostsOf, Ne, List.map_eq_nil_iff]
      exact nothing
    rw [roundsOf, if_neg nothing, Nat.one_add_le_iff, ← Finset.sup'_eq_sup nonempty,
      Finset.sup'_lt_iff]
    simp [pendingAfter, hostsOf]

theorem throttlings_lt_roundsOf {requests : List DeleteRequest} :
    ∀ request ∈ requests, answers.throttlings request.hostname < answers.roundsOf requests := by
  have nothing := (answers.pendingAfter_eq_nil_iff (answers.roundsOf requests) requests).2 le_rfl
  simpa [pendingAfter] using nothing

theorem mem_settledWithin {α : Type} (pick : Verdict → Option α) (requests : List DeleteRequest)
    (entry : α) :
    entry ∈ answers.settledWithin pick (answers.roundsOf requests) requests ↔
      ∃ request ∈ requests, pick (request, answers.settled request.hostname) = some entry := by
  simp only [settledWithin, settledAfter, List.mem_flatMap, List.mem_range, List.mem_filterMap,
    List.mem_filter, decide_eq_true_eq]
  constructor
  · rintro ⟨count, -, request, ⟨inside, -⟩, picked⟩
    exact ⟨request, inside, picked⟩
  · rintro ⟨request, inside, picked⟩
    exact ⟨_, answers.throttlings_lt_roundsOf request inside, request, ⟨inside, rfl⟩, picked⟩

/-- One host comes before another when it is throttled less often, or equally often and its
request comes first. -/
def precedes (requests : List DeleteRequest) (one other : String) : Prop :=
  toLex (answers.throttlings one, (hostsOf requests).idxOf one) <
    toLex (answers.throttlings other, (hostsOf requests).idxOf other)

section Order

variable {α : Type} {pick : Verdict → Option (String × α)}
  (named : ∀ {verdict entry}, pick verdict = some entry → verdict.1.hostname = entry.1)
include named

/-- A host that is settled in a round was throttled in all rounds before. -/
theorem throttlings_of_settled {requests : List DeleteRequest} {count : Nat}
    {entry : String × α}
    (inside : entry ∈ (answers.settledAfter count requests).filterMap fun request =>
      pick (request, answers.settled request.hostname)) :
    answers.throttlings entry.1 = count := by
  obtain ⟨request, settled, picked⟩ := List.mem_filterMap.1 inside
  rw [← named picked]
  exact of_decide_eq_true (List.mem_filter.1 settled).2

/-- Settled entries stand in the order of their throttlings and positions. -/
theorem pairwise_settledWithin {requests : List DeleteRequest} (rounds : Nat)
    (distinct : (hostsOf requests).Nodup) :
    ((answers.settledWithin pick rounds requests).map Prod.fst).Pairwise
      (answers.precedes requests) := by
  have positions : (hostsOf requests).Pairwise fun one other =>
      (hostsOf requests).idxOf one < (hostsOf requests).idxOf other := by
    rw [List.pairwise_iff_getElem]
    intro i j first second before
    rwa [distinct.idxOf_getElem, distinct.idxOf_getElem]
  rw [List.pairwise_map, settledWithin, List.pairwise_flatMap]
  constructor
  · -- within a round the requests keep their order
    intro count _
    rw [List.pairwise_filterMap, settledAfter]
    refine ((List.pairwise_map.1 positions).filter _).imp_of_mem ?_
    intro first second inFirst inSecond before one picked other pickedToo
    have same := of_decide_eq_true (List.mem_filter.1 inFirst).2
    have sameToo := of_decide_eq_true (List.mem_filter.1 inSecond).2
    rw [precedes, ← named picked, ← named pickedToo, Prod.Lex.toLex_lt_toLex]
    exact .inr ⟨same.trans sameToo.symm, before⟩
  · -- a later round settles hosts that were throttled more often
    refine List.pairwise_lt_range.imp fun {count later} before => ?_
    intro one inOne other inOther
    rw [precedes, Prod.Lex.toLex_lt_toLex, answers.throttlings_of_settled named inOne,
      answers.throttlings_of_settled named inOther]
    exact .inl before

theorem nodup_settledWithin {requests : List DeleteRequest} (rounds : Nat)
    (distinct : (hostsOf requests).Nodup) :
    ((answers.settledWithin pick rounds requests).map Prod.fst).Nodup := by
  refine (answers.pairwise_settledWithin named rounds distinct).imp fun before same => ?_
  rw [same] at before
  exact lt_irrefl _ before

end Order

end HostOutcomes

/-- The provider answers every batch of distinct hosts, and each request has the outcome that its
host has after so many submissions. -/
def SubmitsByHost {World : Type} (collaborators : Collaborators World) (answers : HostOutcomes)
    (session : Session World) : Prop :=
  ∀ ⦃events later⦄, Performs collaborators session events later →
    ∀ batch, (hostsOf batch).Nodup → ∃ outcomes after,
      collaborators.provider.deleteInstances later.time batch later.world =
          some (.ok outcomes, after) ∧
        ∀ host ∈ hostsOf batch,
          outcomes.find? host = answers.outcome host (timesSubmitted events host)

namespace SubmitsByHost

variable {World : Type} {collaborators : Collaborators World} {answers : HostOutcomes}
  {session last : Session World}

theorem answersDeletes (here : SubmitsByHost collaborators answers session) :
    AnswersDeletes collaborators session := by
  intro events later performed batch distinct
  obtain ⟨outcomes, after, replied, -⟩ := here performed batch distinct
  exact ⟨_, after, replied⟩

theorem justified (here : SubmitsByHost collaborators answers session) {events : List Event}
    (performed : Performs collaborators session events last) :
    Justified (GivesOutcomes answers.outcome) [] events := by
  refine performed.justified fun {before middle event world} reached answered => ?_
  cases event with
  | deleteInstances batch answer =>
    intro distinct
    obtain ⟨outcomes, after, replied, own⟩ := here reached batch distinct
    obtain ⟨rfl, -⟩ := Prod.mk.inj (Option.some.inj (answered.symm.trans replied))
    exact ⟨outcomes, rfl, own⟩
  | _ => trivial

end SubmitsByHost

namespace HostOutcomes

variable (answers : HostOutcomes)

/-- These collaborators answer nothing but batches, out of the list of the hosts that were
submitted before. -/
def collaborators : Collaborators (List String) where
  provider := {
    deleteInstances := fun _ batch submitted =>
      some (.ok (answerByHost (fun host => answers.outcome host (submitted.count host)) batch),
        submitted ++ hostsOf batch)
    waitOperation := fun _ _ _ => none
    listInstances := fun _ _ _ _ => none
    deleteResourcePolicy := fun _ _ _ _ => none }
  scheduler := { expandHostlist := fun _ _ => none, updateNodes := fun _ _ _ _ => none }
  accelerator := { delete := fun _ _ _ => none }

theorem submitted_performs {session last : Session (List String)} {events : List Event}
    (performed : Performs answers.collaborators session events last) :
    last.world = session.world ++ events.flatMap Event.submitted := by
  induction performed with
  | nothing => simp
  | sleep _ _ ih => exact ih
  | @call session last event events world answered rest ih =>
    cases event with
    | deleteInstances batch answer =>
      obtain ⟨-, rfl⟩ := Prod.mk.inj (Option.some.inj answered)
      simp [ih, Session.record, Event.submitted, hostsOf]
    | _ => cases answered

theorem submitsByHost : SubmitsByHost answers.collaborators answers (.start []) := by
  intro events later performed batch distinct
  refine ⟨_, _, rfl, fun host inside => ?_⟩
  rw [find?_answerByHost, if_pos inside, answers.submitted_performs performed]
  rfl

end HostOutcomes

namespace Deletion

namespace Rounds

variable {answers : HostOutcomes} {limit : Nat} {requests left : List DeleteRequest}
  {rounds : List (List Submission)}

/-- Each round submits what is pending after the rounds before it, and every request has the
verdict of its host after so many submissions. -/
theorem verdictsOf_byHost (made : Rounds limit requests rounds left)
    (distinct : (hostsOf requests).Nodup)
    (given : Justified (GivesOutcomes answers.outcome) []
      (rounds.flatten.map Submission.event)) {k : Nat} {round : List Submission}
    (present : rounds[k]? = some round) :
    verdictsOf round = (answers.pendingAfter k requests).map (answers.verdictAfter k) := by
  have fresh : ∀ host ∈ hostsOf requests, timesSubmitted [] host = 0 := fun _ _ => rfl
  have joined : ∀ {k round}, rounds[k]? = some round →
      requestsOf round = answers.pendingAfter k requests →
      verdictsOf round = (answers.pendingAfter k requests).map (answers.verdictAfter k) := by
    intro k round present covers
    have verdicts := made.verdicts_local distinct fresh given k round present
    rw [Nat.zero_add] at verdicts
    rw [← covers, ← map_fst_verdictsOf, List.map_map]
    conv_lhs => rw [← List.map_id (verdictsOf round)]
    apply List.map_congr_left
    intro verdict recorded
    exact Prod.ext rfl (verdicts verdict recorded)
  induction k generalizing round with
  | zero =>
    apply joined present
    rw [made.requestsOf_getElem?.1 round present]
    simp [HostOutcomes.pendingAfter]
  | succ k ih =>
    obtain ⟨earlier, before⟩ : ∃ earlier, rounds[k]? = some earlier := by
      have bound := (List.getElem?_eq_some_iff.1 present).1
      exact ⟨_, List.getElem?_eq_getElem (Nat.lt_of_succ_lt bound)⟩
    apply joined present
    rw [made.requestsOf_getElem?.2 k earlier round before present, throttledOf, ih before,
      answers.filterMap_throttled?]

theorem left_byHost (made : Rounds limit requests rounds left)
    (distinct : (hostsOf requests).Nodup)
    (given : Justified (GivesOutcomes answers.outcome) []
      (rounds.flatten.map Submission.event)) :
    left = answers.pendingAfter rounds.length requests := by
  rw [made.left_eq]
  cases last : rounds.getLast? with
  | none =>
    obtain rfl := List.getLast?_eq_none_iff.1 last
    simp [HostOutcomes.pendingAfter]
  | some round =>
    have present := last
    rw [List.getLast?_eq_getElem?] at present
    have verdicts := made.verdictsOf_byHost distinct given present
    have some : rounds.length - 1 + 1 = rounds.length := by
      have bound := (List.getElem?_eq_some_iff.1 present).1
      omega
    rw [Option.map_some, Option.getD_some, throttledOf, verdicts,
      answers.filterMap_throttled?, some]

/-- A drain that leaves nothing has made as many rounds as its most throttled host needs. -/
theorem length_byHost (made : Rounds limit requests rounds [])
    (distinct : (hostsOf requests).Nodup)
    (given : Justified (GivesOutcomes answers.outcome) []
      (rounds.flatten.map Submission.event)) :
    rounds.length = answers.roundsOf requests := by
  have settled := (answers.pendingAfter_eq_nil_iff _ _).1 (made.left_byHost distinct given).symm
  refine Nat.le_antisymm (Nat.le_of_not_lt fun beyond => ?_) settled
  -- a round after the last one needed would have nothing to submit
  have present := List.getElem?_eq_getElem beyond
  have verdicts := made.verdictsOf_byHost distinct given present
  rw [(answers.pendingAfter_eq_nil_iff _ _).2 le_rfl, List.map_nil] at verdicts
  have empty : requestsOf rounds[answers.roundsOf requests] = [] := by
    rw [← map_fst_verdictsOf, verdicts, List.map_nil]
  exact made.requestsOf_ne_nil _ (List.getElem_mem beyond) empty

/-- The entries of all rounds are those of the settled requests in the order of their rounds. -/
theorem flatMap_byHost {α : Type} (pick : Verdict → Option α)
    (skips : ∀ request message, pick (request, .throttled message) = none)
    (made : Rounds limit requests rounds left) (distinct : (hostsOf requests).Nodup)
    (given : Justified (GivesOutcomes answers.outcome) []
      (rounds.flatten.map Submission.event)) :
    rounds.flatMap (fun round => (verdictsOf round).filterMap pick) =
      answers.settledWithin pick rounds.length requests := by
  rw [List.flatMap_def, HostOutcomes.settledWithin, List.flatMap_def]
  congr 1
  apply List.ext_getElem (by simp)
  intro k inside _
  have bound : k < rounds.length := by simpa using inside
  have present := List.getElem?_eq_getElem bound
  simp only [List.getElem_map, List.getElem_range, made.verdictsOf_byHost distinct given present,
    answers.filterMap_verdictAfter pick skips]

end Rounds

/-- What a drain reports when the outcome of each request depends on its host alone. -/
structure Reports (answers : HostOutcomes) (requests : List DeleteRequest)
    (operations : List (String × Operation)) (failed : Table String) (rounds : Nat) : Prop where
  empty : requests = [] → rounds = 0
  longest : requests ≠ [] → rounds = 1 + (hostsOf requests).toFinset.sup answers.throttlings
  accepted : ∀ host operation, (host, operation) ∈ operations ↔
    host ∈ hostsOf requests ∧ answers.settled host = .accepted operation
  refused : ∀ host message, failed.find? host = some message ↔
    host ∈ hostsOf requests ∧ answers.settled host = .failed message
  ordered : (operations.map Prod.fst).Pairwise (answers.precedes requests)

theorem reports_settledWithin {answers : HostOutcomes} {requests : List DeleteRequest}
    (distinct : (hostsOf requests).Nodup) :
    Reports answers requests
      (answers.settledWithin Verdict.accepted? (answers.roundsOf requests) requests)
      (answers.settledWithin Verdict.failed? (answers.roundsOf requests) requests)
      (answers.roundsOf requests) where
  empty nothing := if_pos nothing
  longest nonempty := if_neg nonempty
  accepted host operation := by
    rw [answers.mem_settledWithin, hostsOf, List.mem_map]
    simp only [Verdict.accepted?_eq_some]
    constructor
    · rintro ⟨request, inside, rfl, accepted⟩
      exact ⟨⟨request, inside, rfl⟩, accepted⟩
    · rintro ⟨⟨request, inside, rfl⟩, accepted⟩
      exact ⟨request, inside, rfl, accepted⟩
  refused host message := by
    have apart := answers.nodup_settledWithin (fun failed => (Verdict.failed?_eq_some.1 failed).1)
      (answers.roundsOf requests) distinct
    rw [Table.find?_eq_some_iff apart, answers.mem_settledWithin, hostsOf, List.mem_map]
    simp only [Verdict.failed?_eq_some]
    constructor
    · rintro ⟨request, inside, rfl, refused⟩
      exact ⟨⟨request, inside, rfl⟩, refused⟩
    · rintro ⟨⟨request, inside, rfl⟩, refused⟩
      exact ⟨request, inside, rfl, refused⟩
  ordered := answers.pairwise_settledWithin
    (fun accepted => (Verdict.accepted?_eq_some.1 accepted).1) _ distinct

variable {World : Type} {collaborators : Collaborators World} {session : Session World}

/-- One node is throttled twice and one once, and one is left out of every answer. -/
def unevenAnswers : HostOutcomes where
  outcome host time :=
    if host = "node-0" ∧ time < 2 ∨ host = "node-2" ∧ time = 0 then
      some (.throttled "quota exceeded")
    else if host = "node-1" then none
    else some (.accepted (.pending host))
  throttlingEnds host := by
    refine ⟨2, ?_⟩
    rw [if_neg (by omega)]
    split <;> rfl

def unevenRequests : List DeleteRequest :=
  ["node-0", "node-1", "node-2", "node-3"].map (⟨·, "zone-a"⟩)

end Deletion

end Scaledown
