/-
This file builds a JSON value from its tokens with a stack of open containers.
-/

import Scaledown.Json.Token

namespace Scaledown.Json

/-- An open container holds what came before, in reverse order. -/
inductive Frame where
  | items (before : List Json)
  | members (before : List (JsonText × Json)) (key : JsonText)

/-- The place decides which tokens may come next. -/
inductive Place where
  | value (stack : List Frame)
  | firstItem (stack : List Frame)
  | firstKey (stack : List Frame)
  | key (stack : List Frame) (before : List (JsonText × Json))
  | colon (stack : List Frame) (before : List (JsonText × Json)) (key : JsonText)
  | complete (stack : List Frame) (value : Json)

/-- This function starts a value. -/
def startValue (stack : List Frame) : Token → Option Place
  | .null => some (.complete stack .null)
  | .boolean value => some (.complete stack (.boolean value))
  | .number spelling => some (.complete stack (.number spelling))
  | .string value => some (.complete stack (.string value))
  | .openBracket => some (.firstItem stack)
  | .openBrace => some (.firstKey stack)
  | _ => none

/-- This function goes on after a complete value. -/
def continueAfter (value : Json) : List Frame → Token → Option Place
  | .items before :: stack, .comma => some (.value (.items (value :: before) :: stack))
  | .items before :: stack, .closeBracket =>
    some (.complete stack (.array (value :: before).reverse))
  | .members before key :: stack, .comma => some (.key stack ((key, value) :: before))
  | .members before key :: stack, .closeBrace =>
    some (.complete stack (.object ((key, value) :: before).reverse))
  | _, _ => none

/-- This function moves from one place to the next by one token. -/
def step : Place → Token → Option Place
  | .value stack, token => startValue stack token
  | .firstItem stack, .closeBracket => some (.complete stack (.array []))
  | .firstItem stack, token => startValue (.items [] :: stack) token
  | .firstKey stack, .closeBrace => some (.complete stack (.object []))
  | .firstKey stack, .string key => some (.colon stack [] key)
  | .key stack before, .string key => some (.colon stack before key)
  | .colon stack before key, .colon => some (.value (.members before key :: stack))
  | .complete stack value, token => continueAfter value stack token
  | _, _ => none

/-- A row of tokens is a value when all containers are closed at its end. -/
def ofTokens? (tokens : List Token) : Option Json := do
  match ← tokens.foldlM step (.value []) with
  | .complete [] value => some value
  | _ => none

/-- This function reads a whole text as one value. -/
def ofText? (text : String) : Option Json := do
  ofTokens? (← tokens? text.toList)

end Scaledown.Json
