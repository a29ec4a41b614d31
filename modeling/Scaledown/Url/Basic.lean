/-
This file holds addresses of resources in their normal form.
-/

import Scaledown.Text.Decimal

namespace Scaledown

/-- A name and a password may stand in front of a host, and empty ones are left out. -/
structure Credentials where
  name : String
  password : String
  deriving DecidableEq, Repr

namespace Credentials

def none : Credentials := ⟨"", ""⟩

def text (credentials : Credentials) : String :=
  if credentials = none then ""
  else if credentials.password = "" then credentials.name ++ "@"
  else credentials.name ++ ":" ++ credentials.password ++ "@"

end Credentials

/-- The host is written as it stands between the slashes and the port. -/
structure Url where
  scheme : String
  credentials : Credentials
  /-- An address without slashes in front has no host, and a host may be empty. -/
  host : Option String
  port : Option Nat
  path : String
  query : Option String
  fragment : Option String
  deriving DecidableEq, Repr

namespace Url

def hasHost (url : Url) : Bool :=
  match url.host with
  | some host => host != ""
  | none => false

/-- A path with two slashes in front must not look like a host. -/
def authority (url : Url) : String :=
  match url.host with
  | some host =>
    "//" ++ url.credentials.text ++ host ++
      match url.port with
      | some port => ":" ++ Nat.repr port
      | none => ""
  | none => if "//".toList.isPrefixOf url.path.toList then "/." else ""

/-- This function writes an optional part after its sign. -/
def marked (sign : String) : Option String → String
  | some text => sign ++ text
  | none => ""

def text (url : Url) : String :=
  url.scheme ++ ":" ++ url.authority ++ url.path ++ marked "?" url.query ++
    marked "#" url.fragment

/-- These schemes share the rules of web addresses, and some have a usual port. -/
def specialSchemes : List (String × Option Nat) :=
  [("http", some 80), ("https", some 443), ("ws", some 80), ("wss", some 443),
   ("ftp", some 21), ("file", none)]

def isSpecial (scheme : String) : Bool :=
  specialSchemes.any fun entry => entry.1 == scheme

def usualPort? (scheme : String) : Option Nat := do
  let (_, port) ← specialSchemes.find? fun entry => entry.1 == scheme
  port

end Url

end Scaledown
