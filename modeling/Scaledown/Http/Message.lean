/-
This file holds requests to web servers and their answers.
-/

import Scaledown.Url.Reader

namespace Scaledown.Http

inductive Method where
  | get
  | post
  | delete
  deriving DecidableEq, Repr

def Method.name : Method → String
  | get => "GET"
  | post => "POST"
  | delete => "DELETE"

/-- The names of headers are in small letters. -/
structure Request where
  method : Method
  url : Url
  headers : List (String × String)
  body : Option String
  deriving DecidableEq, Repr

/-- A body that breaks off before its end is missing. -/
structure Response where
  status : Nat
  contentType : Option String
  body : Option (List UInt8)
  deriving DecidableEq, Repr

def Response.succeeded (response : Response) : Bool :=
  200 ≤ response.status && response.status < 300

/-- A request or its answer fails for one of these causes. -/
inductive Fault where
  | unbuildable
  | unsupported (url : Url)
  | unanswered (url : Url)
  | unreadable
  deriving DecidableEq, Repr

def Fault.message : Fault → String
  | unbuildable => "builder error"
  | unsupported url => "builder error for url (" ++ url.text ++ ")"
  | unanswered url => "error sending request for url (" ++ url.text ++ ")"
  | unreadable => "error decoding response body"

/-- Controls other than the tab cannot stand in a header. -/
def isHeaderText (text : String) : Bool :=
  text.toList.all fun c => (0x20 ≤ c.toNat && c.toNat != 0x7F) || c == '\t'

/-- A request line holds addresses of less than this many characters. -/
def addressLimit : Nat := 65535

/-- These signs of a host cannot stand in a request line. -/
def isUnsent (c : Char) : Bool :=
  "\"\x60\x7b\x7d".toList.contains c

/-- A request needs an address of a web server and headers that can be written. -/
def Request.build (method : Method) (address : String) (query : List (String × String))
    (headers : List (String × String)) (body : Option String) : Except Fault Request := do
  let some parsed := Url.ofText? address | throw .unbuildable
  if !parsed.hasHost then throw (.unsupported parsed)
  if !headers.all fun header => isHeaderText header.2 then throw .unbuildable
  let target := parsed.withoutCredentials
  let url := if query = [] then target else target.withPairs query
  if url.scheme ≠ "http" ∧ url.scheme ≠ "https" then throw (.unsupported url)
  if addressLimit ≤ url.text.length ∨ (url.host.getD "").toList.any isUnsent then
    throw (.unsupported url)
  return ⟨method, url, headers, body⟩

end Scaledown.Http
