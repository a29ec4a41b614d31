/-
This file describes a drain by its rounds.
-/

import Scaledown.Deletion.Drain
import Scaledown.Proofs.Deletion.Round

namespace Scaledown.Deletion

open Compute

/-- Each round submits what is pending in batches and leaves what it throttled. -/
inductive Rounds (limit : Nat) :
    List DeleteRequest → List (List Submission) → List DeleteRequest → Prop where
  | start (pending : List DeleteRequest) : Rounds limit pending [] pending
  | round {pending left : List DeleteRequest} {submissions : List Submission}
      {rest : List (List Submission)} (nonempty : pending ≠ [])
      (cut : submissions.map Submission.batch = batches limit pending)
      (later : Rounds limit (throttledOf submissions) rest left) :
      Rounds limit pending (submissions :: rest) left

namespace Rounds

variable {limit : Nat} {pending left : List DeleteRequest} {rounds : List (List Submission)}

/-- No round has a request that was not pending at the start. -/
theorem requestsOf_sublist (made : Rounds limit pending rounds left) :
    ∀ round ∈ rounds, (requestsOf round).Sublist pending := by
  induction made with
  | start => simp
  | @round pending left submissions rest _ cut _ ih =>
    have covers := requestsOf_eq cut
    intro round inside
    rcases List.mem_cons.1 inside with rfl | inside
    · rw [covers]
    · exact (ih round inside).trans (covers ▸ throttledOf_sublist submissions)

/-- No round is made without requests. -/
theorem requestsOf_ne_nil (made : Rounds limit pending rounds left) :
    ∀ round ∈ rounds, requestsOf round ≠ [] := by
  induction made with
  | start => simp
  | round nonempty cut _ ih =>
    intro round inside
    rcases List.mem_cons.1 inside with rfl | inside
    · rwa [requestsOf_eq cut]
    · exact ih round inside

/-- The rounds of a drain that leaves nothing have exactly the pending requests. -/
theorem mem_requestsOf_flatten (made : Rounds limit pending rounds [])
    (request : DeleteRequest) : request ∈ requestsOf rounds.flatten ↔ request ∈ pending := by
  rw [requestsOf, List.mem_flatMap]
  constructor
  · rintro ⟨submission, inside, held⟩
    obtain ⟨round, inRounds, inRound⟩ := List.mem_flatten.1 inside
    exact (made.requestsOf_sublist round inRounds).subset
      (List.mem_flatMap.2 ⟨submission, inRound, held⟩)
  · intro inside
    cases made with
    | start => cases inside
    | @round _ _ submissions rest _ cut _ =>
      rw [← requestsOf_eq cut] at inside
      obtain ⟨submission, inRound, held⟩ := List.mem_flatMap.1 inside
      exact ⟨submission, List.mem_flatten.2 ⟨_, List.mem_cons_self, inRound⟩, held⟩

/-- A request of a later round was throttled in each earlier one. -/
theorem throttled_of_resubmitted (made : Rounds limit pending rounds left) {i j : Nat}
    (before : i < j) {earlier later : List Submission} (first : rounds[i]? = some earlier)
    (second : rounds[j]? = some later) : (requestsOf later).Sublist (throttledOf earlier) := by
  induction made generalizing i j with
  | start => simp at first
  | @round pending left submissions rest _ _ made ih =>
    obtain ⟨j, rfl⟩ := Nat.exists_eq_succ_of_ne_zero (Nat.ne_zero_of_lt before)
    rw [List.getElem?_cons_succ] at second
    cases i with
    | zero =>
      obtain rfl : submissions = earlier := by simpa using first
      exact made.requestsOf_sublist later (List.mem_of_getElem? second)
    | succ i => exact ih (Nat.lt_of_succ_lt_succ before) (by simpa using first) second

/-- The first round has the pending requests, and every other one what was throttled before. -/
theorem requestsOf_getElem? (made : Rounds limit pending rounds left) :
    (∀ round, rounds[0]? = some round → requestsOf round = pending) ∧
      ∀ (k : Nat) (earlier later : List Submission), rounds[k]? = some earlier →
        rounds[k + 1]? = some later → requestsOf later = throttledOf earlier := by
  induction made with
  | start => simp
  | @round pending left submissions rest _ cut _ ih =>
    refine ⟨fun round first => ?_, fun k earlier later first second => ?_⟩
    · obtain rfl : submissions = round := by simpa using first
      exact requestsOf_eq cut
    · rw [List.getElem?_cons_succ] at second
      cases k with
      | zero =>
        obtain rfl : submissions = earlier := by simpa using first
        exact ih.1 later second
      | succ k => exact ih.2 k earlier later (by simpa using first) second

/-- A round throttles nothing exactly when nothing is left and it is the last one. -/
theorem throttledOf_eq_nil_iff (made : Rounds limit pending rounds left) {k : Nat}
    {round : List Submission} (present : rounds[k]? = some round) :
    throttledOf round = [] ↔ left = [] ∧ k + 1 = rounds.length := by
  induction made generalizing k with
  | start => simp at present
  | @round pending left submissions rest _ _ made ih =>
    cases k with
    | zero =>
      obtain rfl : submissions = round := by simpa using present
      cases made with
      | start => simp
      | round nonempty => simp [nonempty]
    | succ k => simpa using ih (by simpa using present)

/-- What is left was throttled in the last round, or there was no round. -/
theorem left_eq (made : Rounds limit pending rounds left) :
    left = (rounds.getLast?.map throttledOf).getD pending := by
  induction made with
  | start => rfl
  | @round pending left submissions rest _ _ _ ih =>
    rw [ih]
    cases rest with
    | nil => rfl
    | cons next rest => simp only [List.getLast?_cons, Option.map_some, Option.getD_some]

/-- Every pending host is accepted or failed in one of the rounds, or it is left. -/
theorem divide (made : Rounds limit pending rounds left) :
    ((rounds.flatMap acceptedOf).map Prod.fst ++ (rounds.flatMap failedOf).map Prod.fst ++
      hostsOf left).Perm (hostsOf pending) := by
  induction made with
  | start => simp
  | @round pending left submissions rest _ cut _ ih =>
    have head := verdicts_divide submissions
    rw [requestsOf_eq cut] at head
    rw [List.perm_iff_count] at head ih ⊢
    intro host
    have one := head host
    have others := ih host
    simp only [List.flatMap_cons, List.map_append, List.count_append] at one others ⊢
    omega

/-- The accepted hosts were pending, and none of them is accepted twice. -/
theorem accepted_hosts (made : Rounds limit pending rounds left)
    (distinct : (hostsOf pending).Nodup) :
    ((rounds.flatMap acceptedOf).map Prod.fst).Nodup ∧
      (rounds.flatMap acceptedOf).map Prod.fst ⊆ hostsOf pending := by
  have divided := made.divide
  rw [List.append_assoc] at divided
  exact ⟨(List.nodup_append.1 (divided.nodup_iff.2 distinct)).1,
    fun _ inside => divided.subset (List.mem_append_left _ inside)⟩

end Rounds

namespace Summary

/-- The summary of a drain joins the outcomes of its rounds. -/
def ofRounds (rounds : List (List Submission)) : Summary where
  operations := rounds.flatMap acceptedOf
  failed := rounds.flatMap failedOf
  rounds := rounds.length
  batchSizes := rounds.flatten.map fun submission => submission.batch.length

/-- A round with new failures is joined at the end. -/
theorem add_ofSubmissions {rounds : List (List Submission)} {submissions : List Submission}
    (distinct : ((rounds.flatMap failedOf).map Prod.fst ++
      (failedOf submissions).map Prod.fst).Nodup) :
    (ofRounds rounds).add (.ofSubmissions submissions) = ofRounds (rounds ++ [submissions]) := by
  have joined : (ofRounds rounds).failed.putAll (failedOf submissions) =
      (ofRounds rounds).failed ++ failedOf submissions :=
    Table.putAll_eq_append distinct
  simp only [add, Round.ofSubmissions, joined]
  simp [ofRounds]

end Summary

/-- The known requests of the throttled hosts are the throttled requests themselves. -/
theorem filterMap_find?_hostsOf {known : Table DeleteRequest} {requests : List DeleteRequest}
    (same : ∀ request ∈ requests, known.find? request.hostname = some request) :
    (hostsOf requests).filterMap known.find? = requests := by
  induction requests with
  | nil => rfl
  | cons request requests ih =>
    have head := same request List.mem_cons_self
    have tail := ih fun other inside => same other (List.mem_cons_of_mem _ inside)
    simpa [hostsOf, head] using tail

/-- Distinct hosts are known by their own requests. -/
theorem find?_requestTable {requests : List DeleteRequest}
    (distinct : (hostsOf requests).Nodup) :
    ∀ request ∈ requests, (requestTable requests).find? request.hostname = some request := by
  let entries := requests.map fun request => (request.hostname, request)
  have keys : entries.map Prod.fst = hostsOf requests := by
    simp [entries, hostsOf, Function.comp_def]
  have listed : requestTable requests = entries := by
    have fresh : (Table.keys ([] : Table DeleteRequest) ++ entries.map Prod.fst).Nodup := by
      rwa [keys]
    exact Table.putAll_eq_append fresh
  intro request inside
  rw [listed, Table.find?_eq_some_iff (by rwa [Table.keys, keys])]
  exact List.mem_map.2 ⟨request, inside, rfl⟩

variable {World : Type} (collaborators : Collaborators World)

/-- The failures of a round and its throttled hosts are distinct and new. -/
theorem nodup_failed_append_throttled {limit : Nat} {past : List String}
    {pending : List DeleteRequest} {submissions : List Submission}
    (cut : submissions.map Submission.batch = batches limit pending)
    (distinct : (past ++ hostsOf pending).Nodup) :
    (past ++ ((failedOf submissions).map Prod.fst ++ hostsOf (throttledOf submissions))).Nodup := by
  have divided := verdicts_divide submissions
  rw [requestsOf_eq cut] at divided
  have whole := (divided.append_left past).nodup_iff.2 distinct
  have turned : (past ++ ((acceptedOf submissions).map Prod.fst ++
      ((failedOf submissions).map Prod.fst ++ hostsOf (throttledOf submissions)))).Nodup := by
    refine (List.Perm.append_left past ?_).nodup_iff.1 whole
    rw [List.append_assoc]
    exact List.Perm.append_left _ List.perm_append_comm
  exact ((List.sublist_append_right _ _).append_left past).nodup turned

/-- After a round the drain returns, or it pauses and goes on with what was throttled. -/
theorem drainRounds_succ {pacing : Pacing} {known : Table DeleteRequest} (patience : Nat)
    {pending : List DeleteRequest} {earlier : List (List Submission)}
    {submissions : List Submission} {session middle : Session World}
    (submitted : submit collaborators pacing pending session =
      some (.ofSubmissions submissions, middle))
    (same : ∀ request ∈ throttledOf submissions,
      known.find? request.hostname = some request)
    (distinct : ((earlier.flatMap failedOf).map Prod.fst ++
      ((failedOf submissions).map Prod.fst ++ hostsOf (throttledOf submissions))).Nodup) :
    drainRounds collaborators pacing known (patience + 1) pending (.ofRounds earlier) session =
      if throttledOf submissions = [] then some (.ofRounds (earlier ++ [submissions]), middle)
      else drainRounds collaborators pacing known patience (throttledOf submissions)
        (.ofRounds (earlier ++ [submissions]))
        (middle.later (min pacing.pause.millis Step.longestSleep.millis)) := by
  have queued : (Round.ofSubmissions submissions).retry.hosts =
      hostsOf (throttledOf submissions) :=
    RetryQueue.hosts_pushAll .empty (List.nodup_append.1 (List.nodup_append.1 distinct).2.1).2.1
  have empty : (Round.ofSubmissions submissions).retry.isEmpty =
      decide (throttledOf submissions = []) := by
    rw [RetryQueue.isEmpty, queued]
    cases throttledOf submissions <;> rfl
  have next : (Round.ofSubmissions submissions).retry.drain.1.filterMap known.find? =
      throttledOf submissions := by
    rw [RetryQueue.drain, queued, filterMap_find?_hostsOf same]
  have failed : ((earlier.flatMap failedOf).map Prod.fst ++
      (failedOf submissions).map Prod.fst).Nodup :=
    ((List.sublist_append_left _ _).append_left _).nodup distinct
  rw [drainRounds]
  change (submit collaborators pacing pending session).bind _ = _
  rw [submitted, Option.bind_some]
  simp only [Summary.add_ofSubmissions failed, empty, next, decide_eq_true_eq]
  split
  · rfl
  · rfl

/-- A drain makes rounds until nothing is left, or it is out of patience, or a batch of its next
round is never answered. -/
theorem drainRounds_rounds (pacing : Pacing) {known : Table DeleteRequest} (patience : Nat)
    {pending : List DeleteRequest} (earlier : List (List Submission)) (session : Session World)
    (nonempty : pending ≠ [])
    (same : ∀ request ∈ pending, known.find? request.hostname = some request)
    (distinct : ((earlier.flatMap failedOf).map Prod.fst ++ hostsOf pending).Nodup) :
    ∃ rounds left last, Rounds pacing.limit pending rounds left ∧
      Performs collaborators session (rounds.flatten.map Submission.event) last ∧
      (drainRounds collaborators pacing known patience pending (.ofRounds earlier) session =
          some (.ofRounds (earlier ++ rounds), last) ∧ left = [] ∨
        drainRounds collaborators pacing known patience pending (.ofRounds earlier) session =
          none ∧ left ≠ [] ∧
          (rounds.length = patience ∨
            rounds.length < patience ∧ submit collaborators pacing left last = none)) := by
  induction patience generalizing pending earlier session with
  | zero =>
    exact ⟨[], pending, session, .start pending, .nothing session,
      .inr ⟨rfl, nonempty, .inl rfl⟩⟩
  | succ patience ih =>
    cases submitted : submit collaborators pacing pending session with
    | none =>
      refine ⟨[], pending, session, .start pending, .nothing session, .inr ⟨?_, nonempty, ?_⟩⟩
      · rw [drainRounds]
        change (submit collaborators pacing pending session).bind _ = none
        rw [submitted, Option.bind_none]
      · exact .inr ⟨Nat.succ_pos patience, submitted⟩
    | some reached =>
      obtain ⟨round, middle⟩ := reached
      obtain ⟨submissions, cut, performed, rfl⟩ :=
        submit_performs (List.nodup_append.1 distinct).2.1 submitted
      have fresh := nodup_failed_append_throttled cut distinct
      have kept : ∀ request ∈ throttledOf submissions,
          known.find? request.hostname = some request := by
        intro request inside
        exact same request (requestsOf_eq cut ▸ (throttledOf_sublist submissions).subset inside)
      have step := drainRounds_succ collaborators patience submitted kept fresh
      by_cases finished : throttledOf submissions = []
      · rw [if_pos finished] at step
        refine ⟨[submissions], [], middle, .round nonempty cut ?_, by simpa using performed, ?_⟩
        · rw [finished]
          exact .start []
        · exact .inl ⟨step, rfl⟩
      · rw [if_neg finished] at step
        have joined : (((earlier ++ [submissions]).flatMap failedOf).map Prod.fst ++
            hostsOf (throttledOf submissions)).Nodup := by
          simpa [List.append_assoc] using fresh
        obtain ⟨rounds, left, last, made, rest, result⟩ :=
          ih _ (middle.later _) finished kept joined
        refine ⟨submissions :: rounds, left, last, .round nonempty cut made, ?_, ?_⟩
        · simpa using performed.trans (.sleep _ rest)
        · rw [step]
          simpa [Nat.succ_lt_succ_iff] using result

/-- A drain of distinct hosts makes rounds until nothing is left, or it is out of patience, or a
batch of its next round is never answered. -/
theorem drain_rounds (pacing : Pacing) (patience : Nat) {requests : List DeleteRequest}
    (session : Session World) (distinct : (hostsOf requests).Nodup) :
    ∃ rounds left last, Rounds pacing.limit requests rounds left ∧
      Performs collaborators session (rounds.flatten.map Submission.event) last ∧
      (drain collaborators pacing patience requests session = some (.ofRounds rounds, last) ∧
          left = [] ∨
        drain collaborators pacing patience requests session = none ∧ left ≠ [] ∧
          (rounds.length = patience ∨
            rounds.length < patience ∧ submit collaborators pacing left last = none)) := by
  by_cases nothing : requests = []
  · refine ⟨[], [], session, ?_, .nothing session, .inl ⟨?_, rfl⟩⟩
    · rw [nothing]
      exact .start []
    · rw [drain, if_pos nothing]
      rfl
  · rw [drain, if_neg nothing]
    exact drainRounds_rounds collaborators pacing patience [] session nothing
      (find?_requestTable distinct) (by simpa using distinct)

/-- A drain that returns gives the same result with more patience. -/
theorem drainRounds_of_le {pacing : Pacing} {known : Table DeleteRequest} {patience more : Nat}
    (enough : patience ≤ more) {pending : List DeleteRequest} {earlier : Summary}
    {session : Session World} {result : Summary × Session World}
    (done : drainRounds collaborators pacing known patience pending earlier session =
      some result) :
    drainRounds collaborators pacing known more pending earlier session = some result := by
  induction patience generalizing more pending earlier session with
  | zero => cases done
  | succ patience ih =>
    obtain ⟨more, rfl⟩ := Nat.exists_eq_succ_of_ne_zero (Nat.ne_zero_of_lt enough)
    rw [drainRounds, Step.bind_eq_some] at done ⊢
    obtain ⟨round, middle, submitted, done⟩ := done
    refine ⟨round, middle, submitted, ?_⟩
    split at done
    · rename_i finished
      rwa [if_pos finished]
    · rename_i throttled
      rw [if_neg throttled, Step.bind_eq_some]
      rw [Step.bind_eq_some] at done
      obtain ⟨_, rested, slept, done⟩ := done
      exact ⟨_, rested, slept, ih (Nat.le_of_succ_le_succ enough) done⟩

theorem drain_of_le {pacing : Pacing} {patience more : Nat} (enough : patience ≤ more)
    {requests : List DeleteRequest} {session : Session World} {result : Summary × Session World}
    (done : drain collaborators pacing patience requests session = some result) :
    drain collaborators pacing more requests session = some result := by
  by_cases nothing : requests = []
  · rw [drain, if_pos nothing] at done ⊢
    exact done
  · rw [drain, if_neg nothing] at done ⊢
    exact drainRounds_of_le collaborators enough done

theorem rounds_le_of_drainRounds {pacing : Pacing} {known : Table DeleteRequest} {patience : Nat}
    {pending : List DeleteRequest} {earlier summary : Summary} {session last : Session World}
    (done : drainRounds collaborators pacing known patience pending earlier session =
      some (summary, last)) : summary.rounds ≤ earlier.rounds + patience := by
  induction patience generalizing pending earlier session with
  | zero => cases done
  | succ patience ih =>
    rw [drainRounds, Step.bind_eq_some] at done
    obtain ⟨round, middle, -, done⟩ := done
    have counted : (earlier.add round).rounds = earlier.rounds + 1 := rfl
    split at done
    · obtain ⟨rfl, -⟩ := Step.pure_eq_some.1 done
      omega
    · rw [Step.bind_eq_some] at done
      obtain ⟨_, rested, -, done⟩ := done
      have later := ih done
      omega

/-- The counter of a drain never passes the patience of its caller. -/
theorem rounds_le_patience {pacing : Pacing} {patience : Nat} {requests : List DeleteRequest}
    {summary : Summary} {session last : Session World}
    (done : drain collaborators pacing patience requests session = some (summary, last)) :
    summary.rounds ≤ patience := by
  by_cases nothing : requests = []
  · rw [drain, if_pos nothing] at done
    obtain ⟨rfl, -⟩ := Step.pure_eq_some.1 done
    exact Nat.zero_le patience
  · rw [drain, if_neg nothing] at done
    have counted := rounds_le_of_drainRounds collaborators done
    rwa [show Summary.empty.rounds = 0 from rfl, Nat.zero_add] at counted

/-- A drain that returns has left nothing. -/
theorem drain_performs {collaborators : Collaborators World} {pacing : Pacing} {patience : Nat}
    {requests : List DeleteRequest} {summary : Summary} {session last : Session World}
    (distinct : (hostsOf requests).Nodup)
    (done : drain collaborators pacing patience requests session = some (summary, last)) :
    ∃ rounds, Rounds pacing.limit requests rounds [] ∧
      Performs collaborators session (rounds.flatten.map Submission.event) last ∧
      summary = .ofRounds rounds := by
  obtain ⟨rounds, left, final, made, performed, ⟨returned, rfl⟩ | ⟨unfinished, -⟩⟩ :=
    drain_rounds collaborators pacing patience session distinct
  · obtain ⟨rfl, rfl⟩ := Prod.mk.inj (Option.some.inj (returned.symm.trans done))
    exact ⟨rounds, made, performed, rfl⟩
  · rw [unfinished] at done
    cases done

end Scaledown.Deletion
