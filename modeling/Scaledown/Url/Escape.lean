/-
This file tells which characters stand for themselves in the parts of an address.
-/

import Scaledown.Text.Percent

namespace Scaledown.Url

/-- Only visible ASCII characters and the space can stand for themselves. -/
def isPlain (c : Char) : Bool :=
  0x20 ≤ c.toNat && c.toNat ≤ 0x7E

def keepsFragment (c : Char) : Bool :=
  isPlain c && !" \"<>\x60".toList.contains c

def keepsPath (c : Char) : Bool :=
  keepsFragment c && !"#?\x7b\x7d".toList.contains c

/-- These characters stand for themselves in names and passwords. -/
def keepsCredentials (c : Char) : Bool :=
  keepsPath c && !"/:;=@[\\]^|".toList.contains c

def keepsQuery (c : Char) : Bool :=
  isPlain c && !" \"#<>".toList.contains c

/-- A web address escapes the single quote in its query. -/
def keepsSpecialQuery (c : Char) : Bool :=
  keepsQuery c && c != '\''

/-- These characters stand for themselves in the pairs of a query. -/
def keepsPair (c : Char) : Bool :=
  c.isAlphanum || "*-._".toList.contains c

/-- A pair writes a space as a plus sign. -/
def pairText (text : String) : List Char :=
  text.toList.flatMap fun c =>
    if c = ' ' then ['+'] else Text.percentEncode keepsPair [c]

end Scaledown.Url
