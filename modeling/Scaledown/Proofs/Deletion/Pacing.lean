/-
This file shows when a drain submits its batches and how full they are.
-/

import Scaledown.Proofs.Deletion.Drain
import Scaledown.Proofs.Session.Pace
import Scaledown.Simulation.Script

namespace Scaledown.Deletion

open Compute

/-- A full batch holds this many requests. -/
def fullSize (limit : Nat) : Nat :=
  max limit 1

theorem fullSize_pos (limit : Nat) : 0 < fullSize limit :=
  Nat.lt_of_lt_of_le Nat.one_pos (Nat.le_max_right limit 1)

section Batches

variable {α : Type} (limit : Nat) (requests : List α)

theorem batches_cons {requests : List α} (nonempty : requests ≠ []) :
    batches limit requests = requests.take (fullSize limit) ::
      batches limit (requests.drop (fullSize limit)) := by
  rw [batches, if_neg nonempty, fullSize]

theorem length_of_mem_batches :
    ∀ batch ∈ batches limit requests, 1 ≤ batch.length ∧ batch.length ≤ fullSize limit := by
  have positive := fullSize_pos limit
  fun_induction batches limit requests with
  | case1 => simp
  | case2 requests nonempty ih =>
    intro batch inside
    rcases List.mem_cons.1 inside with rfl | later
    · have some := List.length_pos_iff.2 nonempty
      rw [← fullSize, List.length_take]
      omega
    · exact ih batch later

/-- Only the last batch has fewer requests than fit. -/
theorem length_of_mem_dropLast_batches :
    ∀ batch ∈ (batches limit requests).dropLast, batch.length = fullSize limit := by
  fun_induction batches limit requests with
  | case1 => simp
  | case2 requests nonempty ih =>
    intro batch inside
    by_cases whole : requests.drop (fullSize limit) = []
    · have single : batches limit (requests.drop (fullSize limit)) = [] := by
        rw [whole, batches, if_pos rfl]
      rw [← fullSize, single] at inside
      cases inside
    · rw [← fullSize] at inside ih
      have more : batches limit (requests.drop (fullSize limit)) ≠ [] := by
        rw [batches_cons limit whole]
        exact List.cons_ne_nil _ _
      rw [List.dropLast_cons_of_ne_nil more] at inside
      rcases List.mem_cons.1 inside with rfl | later
      · have beyond := List.length_pos_iff.2 whole
        rw [List.length_drop] at beyond
        rw [List.length_take]
        omega
      · exact ih batch later

/-- The number of batches is the number of requests over the limit, rounded up. -/
theorem length_batches :
    (batches limit requests).length =
      (requests.length + fullSize limit - 1) / fullSize limit := by
  have positive := fullSize_pos limit
  fun_induction batches limit requests with
  | case1 =>
    have below : ([] : List α).length + fullSize limit - 1 < fullSize limit := by
      rw [List.length_nil]
      omega
    rw [Nat.div_eq_of_lt below, List.length_nil]
  | case2 requests nonempty ih =>
    have some := List.length_pos_iff.2 nonempty
    rw [← fullSize] at ih ⊢
    have whole : requests.length + fullSize limit - 1 =
        requests.length - 1 + fullSize limit := by omega
    rw [List.length_cons, ih, List.length_drop, whole, Nat.add_div_right _ positive]
    by_cases full : fullSize limit ≤ requests.length
    · have rest : requests.length - fullSize limit + fullSize limit - 1 =
          requests.length - 1 := by omega
      rw [rest]
    · have rest : requests.length - fullSize limit + fullSize limit - 1 =
          fullSize limit - 1 := by omega
      rw [rest, Nat.div_eq_of_lt (by omega), Nat.div_eq_of_lt (by omega)]

end Batches

/-- The first round has all requests to submit, and each later one what was throttled before. -/
def pendingAt (requests : List DeleteRequest) (rounds : List (List Submission)) :
    Nat → List DeleteRequest
  | 0 => requests
  | k + 1 => (rounds[k]?.map throttledOf).getD []

/-- A round submits what is pending in as few batches as the limit allows, all of them full but
the last one. -/
structure Packed (limit : Nat) (pending : List DeleteRequest) (round : List Submission) :
    Prop where
  covers : requestsOf round = pending
  sizes : ∀ submission ∈ round,
    1 ≤ submission.batch.length ∧ submission.batch.length ≤ fullSize limit
  full : ∀ submission ∈ round.dropLast, submission.batch.length = fullSize limit
  calls : round.length = (pending.length + fullSize limit - 1) / fullSize limit

theorem Packed.of_batches {limit : Nat} {pending : List DeleteRequest}
    {round : List Submission} (cut : round.map Submission.batch = batches limit pending) :
    Packed limit pending round where
  covers := requestsOf_eq cut
  sizes submission inside :=
    length_of_mem_batches limit pending _ (cut ▸ List.mem_map_of_mem inside)
  full submission inside := by
    apply length_of_mem_dropLast_batches limit pending
    rw [← cut, ← List.map_dropLast]
    exact List.mem_map_of_mem inside
  calls := by rw [← length_batches, ← cut, List.length_map]

theorem Rounds.packed {limit : Nat} {requests left : List DeleteRequest}
    {rounds : List (List Submission)} (made : Rounds limit requests rounds left) {k : Nat}
    {round : List Submission} (present : rounds[k]? = some round) :
    Packed limit (pendingAt requests rounds k) round := by
  induction made generalizing k with
  | start => simp at present
  | @round pending left submissions rest _ cut _ ih =>
    cases k with
    | zero =>
      obtain rfl : submissions = round := by simpa using present
      exact .of_batches cut
    | succ k =>
      have later := ih (by simpa using present)
      cases k with
      | zero => exact later
      | succ k => exact later

variable {World : Type} {collaborators : Collaborators World} {session last : Session World}

/-- A pause lasts as long as it is set, and never longer than thirty years of 365 days. -/
def Pacing.sleepMillis (pacing : Pacing) : Nat :=
  min pacing.pause.millis 946080000000

theorem submitBatch_paced {batch : List DeleteRequest} {round next : Round} (pause : Nat)
    (done : submitBatch collaborators batch round session = some (next, last)) :
    ∃ call, Paced pause session last [call] := by
  simp only [submitBatch, Step.bind_eq_some] at done
  obtain ⟨answer, middle, asked, settled⟩ := done
  obtain ⟨world, -, rfl⟩ := Step.call_eq_some_iff.1 asked
  refine ⟨.deleteInstances batch answer, ?_⟩
  cases answer <;>
    · obtain ⟨-, rfl⟩ := Step.pure_eq_some.1 settled
      exact .call _ _ _

theorem submitPaused_paced {pacing : Pacing} {rest : List (List DeleteRequest)}
    {round next : Round} {start : Session World} {former : List Event}
    (paced : Paced pacing.sleepMillis start session former) (begun : former ≠ [])
    (done : submitPaused collaborators pacing.pause rest round session = some (next, last)) :
    ∃ calls, calls ≠ [] ∧ Paced pacing.sleepMillis start last calls := by
  induction rest generalizing round session former with
  | nil =>
    obtain ⟨-, rfl⟩ := Step.pure_eq_some.1 done
    exact ⟨former, begun, paced⟩
  | cons batch rest ih =>
    simp only [submitPaused, Step.bind_eq_some] at done
    obtain ⟨_, rested, slept, later, middle, submitted, done⟩ := done
    obtain ⟨-, rfl⟩ := Prod.mk.inj (Option.some.inj slept)
    obtain ⟨call, called⟩ := submitBatch_paced pacing.sleepMillis submitted
    exact ih (paced.trans called begun (List.cons_ne_nil _ _)) (by simp) done

/-- The batches of a round keep the pace. -/
theorem submit_paced {pacing : Pacing} {requests : List DeleteRequest} {round : Round}
    (nonempty : requests ≠ [])
    (done : submit collaborators pacing requests session = some (round, last)) :
    ∃ calls, calls ≠ [] ∧ Paced pacing.sleepMillis session last calls := by
  rw [submit, batches_cons pacing.limit nonempty] at done
  simp only [Step.bind_eq_some] at done
  obtain ⟨first, middle, submitted, done⟩ := done
  obtain ⟨call, called⟩ := submitBatch_paced pacing.sleepMillis submitted
  exact submitPaused_paced called (List.cons_ne_nil _ _) done

/-- The pause before a round stands for the pause that its first batch does not have, so the pace
is kept from round to round. -/
theorem drainRounds_paced {pacing : Pacing} {known : Table DeleteRequest} {patience : Nat}
    {pending : List DeleteRequest} {earlier : List (List Submission)} {summary : Summary}
    (nonempty : pending ≠ [])
    (same : ∀ request ∈ pending, known.find? request.hostname = some request)
    (distinct : ((earlier.flatMap failedOf).map Prod.fst ++ hostsOf pending).Nodup)
    (done : drainRounds collaborators pacing known patience pending (.ofRounds earlier) session =
      some (summary, last)) :
    ∃ calls, calls ≠ [] ∧ Paced pacing.sleepMillis session last calls := by
  induction patience generalizing pending earlier session with
  | zero => cases done
  | succ patience ih =>
    cases submitted : submit collaborators pacing pending session with
    | none =>
      rw [drainRounds] at done
      change (submit collaborators pacing pending session).bind _ = _ at done
      rw [submitted] at done
      cases done
    | some reached =>
      obtain ⟨round, middle⟩ := reached
      obtain ⟨submissions, cut, -, rfl⟩ :=
        submit_performs (List.nodup_append.1 distinct).2.1 submitted
      obtain ⟨former, begun, paced⟩ := submit_paced nonempty submitted
      have fresh := nodup_failed_append_throttled cut distinct
      have kept : ∀ request ∈ throttledOf submissions,
          known.find? request.hostname = some request := by
        intro request inside
        exact same request (requestsOf_eq cut ▸ (throttledOf_sublist submissions).subset inside)
      rw [drainRounds_succ collaborators patience submitted kept fresh] at done
      by_cases finished : throttledOf submissions = []
      · rw [if_pos finished] at done
        obtain ⟨-, rfl⟩ := Prod.mk.inj (Option.some.inj done)
        exact ⟨former, begun, paced⟩
      · rw [if_neg finished] at done
        obtain ⟨latter, continued, later⟩ :=
          ih finished kept (by simpa [List.append_assoc] using fresh) done
        exact ⟨former ++ latter, by simp [begun], paced.trans later begun continued⟩

/-- The first node is throttled once, and the second batch is refused as a whole. -/
def refusing : Simulation.World where
  provider := ⟨[none, some (.rejected 503 "backend error")],
    [("node-0", [.outcome (.throttled "rate limit exceeded")])], [], [], []⟩
  scheduler := ⟨none, none, []⟩
  accelerator := []

def nodeRequests (count : Nat) : List DeleteRequest :=
  (List.range count).map fun index => ⟨"node-" ++ Nat.repr index, "zone-a"⟩

/-- This provider accepts every request. -/
def accepting : Simulation.World :=
  ⟨⟨[], [], [], [], []⟩, ⟨none, none, []⟩, []⟩

end Scaledown.Deletion
