/-
This file describes calls that are made at a pace, each one a pause after the one before it.
-/

import Scaledown.Proofs.Session.Trace

namespace Scaledown

/-- These calls and no others are made, each one a pause after the one before it. The first call
comes at once, and the last one comes at the end. -/
structure Paced {World : Type} (pause : Nat) (first last : Session World)
    (calls : List Event) : Prop where
  history : last.history = first.history ++
    calls.mapIdx fun index call => ⟨first.time + index * pause, call⟩
  time : last.time = first.time + (calls.length - 1) * pause

namespace Paced

variable {World : Type} {pause : Nat} {first middle last : Session World}
  {former latter : List Event}

theorem nil (pause : Nat) (session : Session World) : Paced pause session session [] where
  history := (List.append_nil _).symm
  time := by simp

theorem call (session : Session World) (event : Event) (world : World) :
    Paced pause session (session.record event world) [event] where
  history := by simp [Session.record]
  time := by simp [Session.record]

theorem append_nil (one : Paced pause first middle former) (two : Paced pause middle last []) :
    Paced pause first last former where
  history := by rw [two.history, one.history, List.mapIdx_nil, List.append_nil]
  time := by rw [two.time, one.time, List.length_nil, Nat.zero_sub, Nat.zero_mul, Nat.add_zero]

/-- Two parts with a pause in between keep the pace. -/
theorem trans (one : Paced pause first middle former)
    (two : Paced pause (middle.later pause) last latter) (begun : former ≠ [])
    (continued : latter ≠ []) : Paced pause first last (former ++ latter) := by
  have before := List.length_pos_iff.2 begun
  have after := List.length_pos_iff.2 continued
  have resumed : (middle.later pause).time = first.time + former.length * pause := by
    have whole : former.length - 1 + 1 = former.length := Nat.sub_add_cancel before
    calc (middle.later pause).time = middle.time + pause := rfl
      _ = first.time + (former.length - 1 + 1) * pause := by rw [one.time]; ring
      _ = first.time + former.length * pause := by rw [whole]
  constructor
  · rw [two.history, resumed]
    change middle.history ++ _ = _
    rw [one.history, List.mapIdx_append, List.append_assoc]
    congr 3
    funext index call
    congr 1
    ring
  · have split : (former ++ latter).length - 1 = former.length + (latter.length - 1) := by
      rw [List.length_append]
      omega
    rw [two.time, resumed, split]
    ring

/-- The paced calls are the calls of the session in order. -/
theorem events_eq (paced : Paced pause first last former) :
    last.events = first.events ++ former := by
  rw [Session.events, paced.history, List.map_append]
  congr 1
  apply List.ext_getElem <;> simp

end Paced

end Scaledown
