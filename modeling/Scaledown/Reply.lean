/-
This file holds the answers of the outside world.
-/

namespace Scaledown

/-- A collaborator answers out of its world and changes it, or it never answers. -/
abbrev Reply (World α : Type) := StateT World Option α

/-- A part of the world answers a question that leaves the rest of the world as it is. -/
def Reply.onPart {World Part α : Type} (part : World → Part) (update : World → Part → World)
    (answer : Reply Part α) : Reply World α := fun world => do
  let (value, left) ← answer (part world)
  return (value, update world left)

end Scaledown
