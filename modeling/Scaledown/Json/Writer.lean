/-
This file writes JSON values as compact texts.
-/

import Scaledown.Json.Token

namespace Scaledown.Json

/-- A control character without a letter of its own is written with its code. -/
def escape (c : Char) : List Char :=
  if c = '"' then ['\\', '"']
  else if c = '\\' then ['\\', '\\']
  else if c = '\x08' then ['\\', 'b']
  else if c = '\x0c' then ['\\', 'f']
  else if c = '\n' then ['\\', 'n']
  else if c = '\r' then ['\\', 'r']
  else if c = '\t' then ['\\', 't']
  else if c.toNat < 0x20 then
    ['\\', 'u', '0', '0', Nat.digitChar (c.toNat / 16), Nat.digitChar (c.toNat % 16)]
  else [c]

/-- An ill-formed string is written as one half of a surrogate pair. -/
def quoted : JsonText → List Char
  | some text => '"' :: (text.toList.flatMap escape ++ ['"'])
  | none => ['"', '\\', 'u', 'd', '8', '0', '0', '"']

namespace Token

def spelling : Token → List Char
  | openBrace => ['{']
  | closeBrace => ['}']
  | openBracket => ['[']
  | closeBracket => [']']
  | colon => [':']
  | comma => [',']
  | null => ['n', 'u', 'l', 'l']
  | boolean true => ['t', 'r', 'u', 'e']
  | boolean false => ['f', 'a', 'l', 's', 'e']
  | number spelling => spelling.toList
  | string value => quoted value

end Token

mutual

def tokens : Json → List Token
  | .null => [.null]
  | .boolean value => [.boolean value]
  | .number spelling => [.number spelling]
  | .string value => [.string value]
  | .array [] => [.openBracket, .closeBracket]
  | .array (item :: items) => .openBracket :: (item.tokens ++ laterItems items)
  | .object [] => [.openBrace, .closeBrace]
  | .object ((key, value) :: members) =>
    .openBrace :: .string key :: .colon :: (value.tokens ++ laterMembers members)

/-- A comma stands before every item but the first. -/
def laterItems : List Json → List Token
  | [] => [.closeBracket]
  | item :: items => .comma :: (item.tokens ++ laterItems items)

def laterMembers : List (JsonText × Json) → List Token
  | [] => [.closeBrace]
  | (key, value) :: members =>
    .comma :: .string key :: .colon :: (value.tokens ++ laterMembers members)

end

def ofString (text : String) : Json :=
  .string (some text)

/-- A missing value is written as the null value. -/
def ofOption {α : Type} (write : α → Json) : Option α → Json
  | none => .null
  | some value => write value

/-- A value is written without spaces. -/
def text (json : Json) : String :=
  String.ofList (json.tokens.flatMap Token.spelling)

end Scaledown.Json
