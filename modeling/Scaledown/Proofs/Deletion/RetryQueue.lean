/-
This file shows that the list and the set of the retry queue stay in step.
-/

import Mathlib.Data.List.DropRight
import Mathlib.Tactic
import Scaledown.Deletion.RetryQueue

namespace Scaledown.Deletion.RetryQueue

variable {queue : RetryQueue} {host : String}

theorem contains_eq_true_iff : queue.contains host = true ↔ host ∈ queue.seen := by
  rw [contains, List.contains_iff_mem]

theorem push_of_mem (known : host ∈ queue.seen) : queue.push host = (false, queue) := by
  rw [push, if_pos (List.contains_iff_mem.2 known)]

theorem push_of_not_mem (fresh : host ∉ queue.seen) :
    queue.push host = (true, ⟨queue.hosts ++ [host], queue.seen.insert host⟩) := by
  rw [push, if_neg (mt List.contains_iff_mem.1 fresh)]

/-- A user of the queue pushes a host, looks at what is in it, or takes all of it out. -/
inductive Request where
  | push (hostname : String)
  | contains (hostname : String)
  | hostnames
  | size
  | isEmpty
  | drain
  deriving DecidableEq

inductive Answer where
  | truth (value : Bool)
  | number (value : Nat)
  | listing (hostnames : List String)
  deriving DecidableEq

/-- Only a push and a drain change the queue. -/
def carryOut (queue : RetryQueue) : Request → Answer × RetryQueue
  | .push hostname => (.truth (queue.push hostname).1, (queue.push hostname).2)
  | .contains hostname => (.truth (queue.contains hostname), queue)
  | .hostnames => (.listing queue.hosts, queue)
  | .size => (.number queue.size, queue)
  | .isEmpty => (.truth queue.isEmpty, queue)
  | .drain => (.listing queue.drain.1, queue.drain.2)

/-- The requests are carried out one after another. -/
def after (queue : RetryQueue) (requests : List Request) : RetryQueue :=
  requests.foldl (fun reached request => (reached.carryOut request).2) queue

/-- The answers to such requests are all that a user learns of the queue. -/
def answers : RetryQueue → List Request → List Answer
  | _, [] => []
  | queue, request :: requests =>
    (queue.carryOut request).1 :: answers (queue.carryOut request).2 requests

/-- No host is listed twice, and the listed hosts are the seen ones. -/
structure InStep (queue : RetryQueue) : Prop where
  nodup : queue.hosts.Nodup
  mem_seen : ∀ host, host ∈ queue.hosts ↔ host ∈ queue.seen

namespace InStep

theorem empty : RetryQueue.empty.InStep :=
  ⟨List.nodup_nil, fun _ => Iff.rfl⟩

theorem push (inStep : queue.InStep) (host : String) : (queue.push host).2.InStep := by
  by_cases known : host ∈ queue.seen
  · rwa [push_of_mem known]
  · have fresh : host ∉ queue.hosts := mt (inStep.mem_seen host).1 known
    rw [push_of_not_mem known]
    constructor
    · exact inStep.nodup.append (List.nodup_singleton host) (by simpa using fresh)
    · intro other
      rw [List.mem_append, List.mem_singleton, List.mem_insert_iff, inStep.mem_seen, or_comm]

theorem carryOut (inStep : queue.InStep) (request : Request) :
    (queue.carryOut request).2.InStep := by
  cases request with
  | push hostname => exact inStep.push hostname
  | drain => exact .empty
  | contains _ | hostnames | size | isEmpty => exact inStep

variable {other : RetryQueue}

/-- The answer and the next list depend on the present list alone. -/
theorem carryOut_eq (inStep : queue.InStep) (otherInStep : other.InStep)
    (same : queue.hosts = other.hosts) (request : Request) :
    (queue.carryOut request).1 = (other.carryOut request).1 ∧
      (queue.carryOut request).2.hosts = (other.carryOut request).2.hosts := by
  have seen : ∀ host, host ∈ queue.seen ↔ host ∈ other.seen := fun host => by
    rw [← inStep.mem_seen, same, otherInStep.mem_seen]
  cases request with
  | push hostname =>
    by_cases known : hostname ∈ queue.seen
    · simp only [RetryQueue.carryOut, push_of_mem known, push_of_mem ((seen hostname).1 known),
        same, and_self]
    · simp only [RetryQueue.carryOut, push_of_not_mem known,
        push_of_not_mem (mt (seen hostname).2 known), same, and_self]
  | contains hostname =>
    refine ⟨congrArg Answer.truth (Bool.eq_iff_iff.2 ?_), same⟩
    rw [contains_eq_true_iff, contains_eq_true_iff, seen]
  | hostnames | size | isEmpty =>
    simp only [RetryQueue.carryOut, RetryQueue.size, RetryQueue.isEmpty, same, and_self]
  | drain => exact ⟨congrArg Answer.listing same, rfl⟩

/-- Queues with the same list answer alike for ever, in whatever way their sets are held. -/
theorem answers_eq (inStep : queue.InStep) (otherInStep : other.InStep)
    (same : queue.hosts = other.hosts) (requests : List Request) :
    queue.answers requests = other.answers requests := by
  induction requests generalizing queue other with
  | nil => rfl
  | cons request requests ih =>
    obtain ⟨answer, hosts⟩ := inStep.carryOut_eq otherInStep same request
    rw [answers, answers, answer,
      ih (inStep.carryOut request) (otherInStep.carryOut request) hosts]

end InStep

section Filling

variable {hostnames : List String}

/-- The hosts are pushed one after another. -/
def pushAll (queue : RetryQueue) (hostnames : List String) : RetryQueue :=
  hostnames.foldl (fun filled hostname => (filled.push hostname).2) queue

@[simp] theorem pushAll_nil (queue : RetryQueue) : queue.pushAll [] = queue := rfl

@[simp] theorem pushAll_cons (queue : RetryQueue) (hostname : String) (hostnames : List String) :
    queue.pushAll (hostname :: hostnames) = (queue.push hostname).2.pushAll hostnames := rfl

theorem pushAll_append (queue : RetryQueue) (former latter : List String) :
    queue.pushAll (former ++ latter) = (queue.pushAll former).pushAll latter :=
  List.foldl_append

/-- Distinct hosts that do not wait yet are listed in their order behind the others. -/
theorem hosts_pushAll (inStep : queue.InStep) (distinct : (queue.hosts ++ hostnames).Nodup) :
    (queue.pushAll hostnames).hosts = queue.hosts ++ hostnames := by
  induction hostnames generalizing queue with
  | nil => simp
  | cons host hostnames ih =>
    have fresh : host ∉ queue.hosts := fun held =>
      (List.nodup_append.1 distinct).2.2 host held host List.mem_cons_self rfl
    have next := inStep.push host
    rw [pushAll_cons]
    rw [push_of_not_mem (mt (inStep.mem_seen host).2 fresh)] at next ⊢
    rw [ih next (by simpa using distinct), List.append_assoc, List.singleton_append]

end Filling

def Request.pushed? : Request → Option String
  | push hostname => some hostname
  | _ => none

/-- These hosts were pushed after the last drain, each of them as often as it was pushed. -/
def pushedSinceDrain (requests : List Request) : List String :=
  (requests.rtakeWhile (· ≠ .drain)).filterMap Request.pushed?

theorem pushedSinceDrain_concat (requests : List Request) (request : Request) :
    pushedSinceDrain (requests ++ [request]) =
      match request with
      | .push hostname => pushedSinceDrain requests ++ [hostname]
      | .drain => []
      | _ => pushedSinceDrain requests := by
  cases request <;> simp [pushedSinceDrain, Request.pushed?]

/-- The queue lists the pushed hosts, each of them once and in the order of their first push. -/
structure Keeps (queue : RetryQueue) (pushed : List String) : Prop extends queue.InStep where
  mem_pushed : ∀ host, host ∈ queue.hosts ↔ host ∈ pushed
  order : queue.hosts.Pairwise fun former latter => pushed.idxOf former < pushed.idxOf latter

namespace Keeps

variable {pushed : List String}

theorem empty : RetryQueue.empty.Keeps [] where
  toInStep := .empty
  mem_pushed := fun _ => Iff.rfl
  order := .nil

/-- One more push moves no first push. -/
theorem order_concat (keeps : queue.Keeps pushed) (host : String) :
    queue.hosts.Pairwise fun former latter =>
      (pushed ++ [host]).idxOf former < (pushed ++ [host]).idxOf latter := by
  refine keeps.order.imp_of_mem fun {former latter} first second before => ?_
  rwa [List.idxOf_append_of_mem ((keeps.mem_pushed former).1 first),
    List.idxOf_append_of_mem ((keeps.mem_pushed latter).1 second)]

theorem push (keeps : queue.Keeps pushed) (host : String) :
    (queue.push host).2.Keeps (pushed ++ [host]) := by
  by_cases known : host ∈ queue.seen
  · have again : host ∈ pushed := (keeps.mem_pushed host).1 ((keeps.mem_seen host).2 known)
    rw [push_of_mem known]
    refine ⟨keeps.toInStep, fun other => ?_, keeps.order_concat host⟩
    rw [keeps.mem_pushed, List.mem_append, List.mem_singleton]
    exact ⟨.inl, fun held => held.elim id fun same => same ▸ again⟩
  · have first : host ∉ pushed := fun held =>
      known ((keeps.mem_seen host).1 ((keeps.mem_pushed host).2 held))
    have inStep := keeps.toInStep.push host
    rw [push_of_not_mem known] at inStep ⊢
    refine ⟨inStep, fun other => ?_, ?_⟩
    · rw [List.mem_append, List.mem_append, keeps.mem_pushed]
    · refine List.pairwise_append.2
        ⟨keeps.order_concat host, List.pairwise_singleton _ host, fun former held latter new => ?_⟩
      have earlier := (keeps.mem_pushed former).1 held
      rw [List.mem_singleton.1 new, List.idxOf_append_of_mem earlier,
        List.idxOf_append_of_notMem first]
      exact Nat.lt_add_right _ (List.idxOf_lt_length_of_mem earlier)

/-- A request leaves the queue with what was pushed up to and including it. -/
theorem carryOut {requests : List Request} (keeps : queue.Keeps (pushedSinceDrain requests))
    (request : Request) :
    (queue.carryOut request).2.Keeps (pushedSinceDrain (requests ++ [request])) := by
  rw [pushedSinceDrain_concat]
  cases request with
  | push hostname => exact keeps.push hostname
  | drain => exact .empty
  | contains _ | hostnames | size | isEmpty => exact keeps

theorem after (requests : List Request) :
    (RetryQueue.empty.after requests).Keeps (pushedSinceDrain requests) := by
  induction requests using List.reverseRecOn with
  | nil => exact .empty
  | append_singleton requests request ih =>
    rw [RetryQueue.after, List.foldl_concat]
    exact ih.carryOut request

end Keeps

/-- The queue tells the pushed hosts from all others, and a drained queue is as good as a new
one. -/
structure Serves (queue : RetryQueue) (pushed : List String) : Prop where
  contains : ∀ host, queue.contains host = true ↔ host ∈ pushed
  fresh : ∀ host, (queue.push host).1 = true ↔ host ∉ queue.hosts
  append : ∀ host, host ∉ queue.hosts → (queue.push host).2.hosts = queue.hosts ++ [host]
  unchanged : ∀ host, host ∈ queue.hosts → (queue.push host).2 = queue
  size : queue.size = queue.hosts.length
  isEmpty : queue.isEmpty = true ↔ queue.hosts = []
  drain : queue.drain.1 = queue.hosts
  renewed : ∀ later, queue.drain.2.answers later = empty.answers later

theorem Keeps.serves {pushed : List String} (keeps : queue.Keeps pushed) :
    queue.Serves pushed where
  contains := fun host => by rw [contains_eq_true_iff, ← keeps.mem_seen, keeps.mem_pushed]
  fresh := by
    intro host
    rw [keeps.mem_seen]
    by_cases known : host ∈ queue.seen
    · simp [push_of_mem known, known]
    · simp [push_of_not_mem known, known]
  append := by
    intro host absent
    rw [push_of_not_mem (mt (keeps.mem_seen host).2 absent)]
  unchanged := by
    intro host listed
    rw [push_of_mem ((keeps.mem_seen host).1 listed)]
  size := rfl
  isEmpty := List.isEmpty_iff
  drain := rfl
  -- What is left of the set after a drain does not matter, as long as it agrees with the list.
  renewed := (keeps.toInStep.carryOut .drain).answers_eq .empty rfl

/-- After any requests, a queue that was new at first lists what was pushed since the last drain,
and it answers accordingly. -/
theorem retryQueue_keeps_first_pushes (requests : List Request) :
    (empty.after requests).Keeps (pushedSinceDrain requests) ∧
      (empty.after requests).Serves (pushedSinceDrain requests) :=
  ⟨.after requests, (Keeps.after requests).serves⟩

end Scaledown.Deletion.RetryQueue
