/-
This file holds the throttled hosts that wait for the next round.
-/

namespace Scaledown.Deletion

/-- The hosts are kept in the order of their first push. The same hosts are seen as a set, which
answers whether a host waits already and whose own order means nothing. -/
structure RetryQueue where
  hosts : List String
  seen : List String
  deriving DecidableEq, Repr

namespace RetryQueue

def empty : RetryQueue := ⟨[], []⟩

def contains (queue : RetryQueue) (hostname : String) : Bool :=
  queue.seen.contains hostname

def size (queue : RetryQueue) : Nat :=
  queue.hosts.length

def isEmpty (queue : RetryQueue) : Bool :=
  queue.hosts.isEmpty

/-- A host that was seen already is not queued again. -/
def push (queue : RetryQueue) (hostname : String) : Bool × RetryQueue :=
  if queue.seen.contains hostname then (false, queue)
  else (true, ⟨queue.hosts ++ [hostname], queue.seen.insert hostname⟩)

/-- This function takes all hosts out of the queue and forgets that they were seen. -/
def drain (queue : RetryQueue) : List String × RetryQueue :=
  (queue.hosts, { queue with hosts := [], seen := [] })

end RetryQueue

end Scaledown.Deletion
