/-
This file reads addresses from texts.
-/

import Scaledown.Text.Blank
import Scaledown.Url.Basic
import Scaledown.Url.Host
import Scaledown.Url.Path

namespace Scaledown.Url

open Text

/-- Controls and spaces around an address do not count, nor do line ends and tabs within it. -/
def cleaned (text : List Char) : List Char :=
  (trimBy (fun c => c.toNat ≤ 0x20) text).filter fun c => !"\t\n\r".toList.contains c

def isSchemeCharacter (c : Char) : Bool :=
  c.isAlphanum || "+-.".toList.contains c

/-- A scheme is a letter, some letters, digits and signs, and a colon. -/
def cutScheme? (text : List Char) : Option (String × List Char) := do
  let (scheme, rest) ← cutFirst? [':'] text
  let initial ← scheme.head?
  if initial.isAlpha ∧ scheme.all isSchemeCharacter then some (String.ofList (lower scheme), rest)
  else none

/-- This function cuts an optional part off after its sign. -/
def cutMarked (sign : Char) (text : List Char) : List Char × Option (List Char) :=
  match cutFirst? [sign] text with
  | some (front, part) => (front, some part)
  | none => (text, none)

/-- A port is a number of sixteen bits, and the usual one is left out. -/
def port? (scheme : String) (text : List Char) : Option (Option Nat) :=
  if text = [] then some none
  else do
    let number ← (digitsAfter maxWord16 0 text).toOption
    return if usualPort? scheme = some number then none else some number

/-- The host ends before the first colon outside of brackets. -/
def takeHost : Bool → List Char → List Char
  | _, [] => []
  | inBrackets, c :: text =>
    if c = ':' ∧ !inBrackets then []
    else c :: takeHost (c == '[' || (inBrackets && c != ']')) text

/-- The password starts after the first colon. -/
def readCredentials (text : List Char) : Credentials :=
  let (name, password) := (cutFirst? [':'] text).getD (text, [])
  let written := fun part => String.ofList (percentEncode keepsCredentials part)
  ⟨written name, written password⟩

/-- These parts of an address stand between its scheme and its query. -/
structure Middle where
  credentials : Credentials
  host : Option String
  port : Option Nat
  path : String

/-- A host must follow after credentials, and before a port or in a web address. A backslash
after the port belongs to the path. -/
def middle? (scheme : String) (authority path : List Char) (isFollowed : Bool) :
    Option Middle := do
  let special := isSpecial scheme
  let (user, address) := match cutLast? '@' authority with
    | some (user, address) => (some user, address)
    | none => (none, authority)
  if user = some [] ∧ address = [] ∧ isFollowed then none
  let credentials := readCredentials (user.getD [])
  let hostText := takeHost false address
  let portText := (address.drop hostText.length).drop 1
  let needsHost := special ∨ hostText.length < address.length ∨ credentials ≠ .none
  if hostText = [] ∧ needsHost then none
  return {
    credentials := credentials
    host := ← host? special hostText
    port := ← port? scheme (portText.takeWhile (· != '\\'))
    path := normalPath special (portText.dropWhile (· != '\\') ++ path) }

/-- The authority ends before the next slash. -/
def cutAuthority (special : Bool) (text : List Char) : List Char × List Char :=
  (text.takeWhile fun c => !isSlash special c, text.dropWhile fun c => !isSlash special c)

/-- A path that starts at a drive leaves no host. -/
def localFile (host : String) (path : List Char) : Middle :=
  let (normal, startsAtDrive) := filePath path
  ⟨.none, some (if startsAtDrive then "" else host), none, normal⟩

/-- A file has its host between two slashes and a third one. A drive is no host, and files of this
host need not name it. -/
def fileMiddle? (text : List Char) : Option Middle :=
  match text with
  | first :: second :: rest =>
    if isSlash true first ∧ isSlash true second then do
      let (hostText, path) := cutAuthority true rest
      if isDrive hostText then return localFile "" rest
      if hostText = [] then return localFile "" path
      let host ← host? true hostText
      if host = "localhost" then return localFile "" path
      return localFile host (dropSlash true path)
    else some (localFile "" (dropSlash true text))
  | _ => some (localFile "" (dropSlash true text))

/-- A web address has its host after any number of slashes. Another address has its host after two
slashes, or no host. -/
def otherMiddle? (scheme : String) (text : List Char) (isFollowed : Bool) : Option Middle :=
  let special := isSpecial scheme
  let authority := if special then some (text.dropWhile (isSlash true))
    else dropStart? "//".toList text
  match authority with
  | some rest =>
    let (authority, path) := cutAuthority special rest
    middle? scheme authority path (path != [] || isFollowed)
  | none =>
    let path := if text.head? = some '/' then normalPath false text
      else String.ofList (percentEncode isPlain text)
    some ⟨.none, none, none, path⟩

/-- An address without a scheme means nothing on its own. -/
def ofText? (text : String) : Option Url := do
  let (scheme, rest) ← cutScheme? (cleaned text.toList)
  let (beforeFragment, fragment) := cutMarked '#' rest
  let (body, query) := cutMarked '?' beforeFragment
  let middle ← if scheme = "file" then fileMiddle? body
    else otherMiddle? scheme body (query.isSome || fragment.isSome)
  let keeps := if isSpecial scheme then keepsSpecialQuery else keepsQuery
  return {
    scheme := scheme
    credentials := middle.credentials
    host := middle.host
    port := middle.port
    path := middle.path
    query := query.map fun part => String.ofList (percentEncode keeps part)
    fragment := fragment.map fun part => String.ofList (percentEncode keepsFragment part) }

/-- Credentials are read from escapes, and then they are no part of the address any more. -/
def withoutCredentials (url : Url) : Url :=
  let isReadable := fun text : String => (ofBytes? (percentDecode text.toList)).isSome
  let ⟨name, password⟩ := url.credentials
  let keepsPassword := name = "" ∧ !isReadable password
  if !isReadable name ∨ keepsPassword then url else { url with credentials := .none }

/-- One pair of a query is a name, an equals sign and a value. -/
def pair (entry : String × String) : List Char :=
  pairText entry.1 ++ '=' :: pairText entry.2

/-- The pairs follow an older query after an ampersand. -/
def withPairs (url : Url) (entries : List (String × String)) : Url :=
  let older := match url.query with
    | none => []
    | some query => if query = "" then [] else [query.toList]
  { url with query := some (String.ofList (['&'].intercalate (older ++ entries.map pair))) }

end Scaledown.Url
