/-
This file holds the values of JSON texts.
-/

namespace Scaledown

/-- A JSON string is ill-formed when an escape names one half of a surrogate pair only. -/
abbrev JsonText := Option String

/-- A number keeps its spelling, and an object keeps every member in order. -/
inductive Json where
  | null
  | boolean (value : Bool)
  | number (spelling : String)
  | string (value : JsonText)
  | array (items : List Json)
  | object (members : List (JsonText × Json))
  deriving Inhabited

end Scaledown
