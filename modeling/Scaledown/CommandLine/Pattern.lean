/-
This file tells which texts are patterns of the values of fields.
-/

import Scaledown.Text.Alphanumeric
import Scaledown.Text.Case
import Scaledown.Text.Hex

namespace Scaledown.CommandLine.Pattern

open Text

/-- The flags of a pattern fold the case of letters, pass over blanks or read bytes instead of
characters. -/
structure Flags where
  foldsCase : Bool
  skipsBlanks : Bool
  readsBytes : Bool
  deriving DecidableEq, Repr

namespace Flags

def usual : Flags := ⟨false, false, false⟩

/-- A flag is switched on or off, and the other flags matter for matching only. -/
def switch (on : Bool) (flags : Flags) : Char → Flags
  | 'i' => { flags with foldsCase := on }
  | 'x' => { flags with skipsBlanks := on }
  | 'u' => { flags with readsBytes := !on }
  | _ => flags

/-- The flags after a dash are switched off. -/
def apply (flags : Flags) (items : List Char) : Flags :=
  let (on, off) := (cutFirst? ['-'] items).getD (items, [])
  off.foldl (switch false) (on.foldl (switch true) flags)

/-- This function passes over blanks, and over comments up to the ends of their lines. -/
def passBlanks (inComment : Bool) : List Char → List Char
  | [] => []
  | c :: text =>
    if inComment then passBlanks (c != '\n') text
    else if isBlank c then passBlanks false text
    else if c = '#' then passBlanks true text
    else c :: text

def pass (flags : Flags) (text : List Char) : List Char :=
  if flags.skipsBlanks then passBlanks false text else text

end Flags

/-- Each flag is written at most once, and a dash is not the last of them. -/
def areFlags (items : List Char) : Bool :=
  items.all "imsUuxR-".toList.contains && items.eraseDups.length == items.length &&
    items.getLast? != some '-'

/-- A piece of a pattern is a character, a set of characters or a position in the text. -/
inductive Piece where
  | character (c : Char)
  | set
  | position
  deriving DecidableEq, Repr

/-- Some letters after a backslash stand for controls. -/
def controls : List (Char × Char) :=
  [('a', '\x07'), ('f', '\x0c'), ('n', '\n'), ('r', '\r'), ('t', '\t'), ('v', '\x0b')]

/-- This function reads so many hexadecimal digits after those of a value. -/
def digits? (flags : Flags) : Nat → Nat → List Char → Option (Nat × List Char)
  | 0, value, text => some (value, text)
  | _ + 1, _, [] => none
  | count + 1, value, c :: text => do
    digits? flags count (value * 16 + (← hexDigit? c)) (flags.pass text)

/-- The letters `x`, `u` and `U` have two, four and eight digits after them. -/
def digitCount? : Char → Option Nat
  | 'x' => some 2
  | 'u' => some 4
  | 'U' => some 8
  | _ => none

/-- A single byte must not be half of a character. -/
def numbered? (flags : Flags) (count : Nat) (text : List Char) : Option (Piece × List Char) := do
  let (code, rest) ← digits? flags count 0 (flags.pass text)
  if flags.readsBytes ∧ count = 2 ∧ 0x80 ≤ code then none
  return (.character (← character? code), rest)

/-- A backslash stands before a sign, a control, a number, a position or a set. The sets of digits,
blanks and letters and the bounds of words are known for bytes only. -/
def escape? (flags : Flags) : List Char → Option (Piece × List Char)
  | [] => none
  | c :: rest =>
    if let some count := digitCount? c then numbered? flags count rest
    else if let some control := controls.lookup c then some (.character control, rest)
    else if c = 'A' ∨ c = 'z' then some (.position, rest)
    else if "bB<>".toList.contains c then
      if flags.readsBytes then some (.position, rest) else none
    else if "dsw".toList.contains c then
      if flags.readsBytes then some (.set, rest) else none
    else if c.toNat < 0x80 && !c.isAlphanum then some (.character c, rest)
    else none

def isMember (flags : Flags) : Piece → Bool
  | .character c => !flags.readsBytes || c.toNat < 0x80
  | .set => true
  | .position => false

/-- A member of a class is no position, and among bytes it is in ASCII. -/
def member? (flags : Flags) (text : List Char) : Option (Piece × List Char) := do
  let (piece, rest) ← match text with
    | [] => none
    | '\\' :: rest => escape? flags rest
    | c :: rest => some (.character c, rest)
  if isMember flags piece then some (piece, rest) else none

/-- A dash between two characters makes a range, which must not be empty. -/
def range? (flags : Flags) (text : List Char) : Option (List Char) := do
  let (first, afterFirst) ← member? flags text
  match flags.pass afterFirst with
  | '-' :: afterDash =>
    let rest := flags.pass afterDash
    if rest.head? = some ']' ∨ rest.head? = some '-' then return '-' :: afterDash
    let (last, afterLast) ← member? flags rest
    match first, last with
    | .character low, .character high => if low ≤ high then return afterLast else none
    | _, _ => none
  | rest => return rest

def classNames : List String :=
  ["alnum", "alpha", "ascii", "blank", "cntrl", "digit", "graph", "lower", "print", "punct",
   "space", "upper", "word", "xdigit"]

/-- A named class stands between colons, and its complement has a caret in front. -/
def namedClass? (text : List Char) : Option (Bool × List Char) := do
  let inner ← dropStart? "[:".toList text
  let named := dropStart? ['^'] inner
  let (name, rest) ← cutFirst? [':'] (named.getD inner)
  let closed ← dropStart? [']'] rest
  if classNames.contains (String.ofList name) then some (named.isSome, closed) else none

/-- A class may start with a caret, with dashes and with a bracket that does not close it. A
complement among bytes would hold halves of characters. -/
def openClass? (flags : Flags) (text : List Char) : Option (List Char) := do
  let inner := flags.pass text
  let negated := dropStart? ['^'] inner
  if negated.isSome ∧ flags.readsBytes then none
  let start := flags.pass (negated.getD inner)
  let rest := flags.pass (start.dropWhile fun c => c == '-')
  match start, rest with
  | ']' :: afterBracket, _ => return afterBracket
  | _, [] => none
  | _, _ => return rest

/-- Two signs between sets make their common part, difference or symmetric difference. -/
def operator? (text : List Char) : Option (List Char) :=
  dropStart? "&&".toList text <|> dropStart? "--".toList text <|> dropStart? "~~".toList text

/-- This function reads one step of a class and counts the open brackets. -/
def classStep? (flags : Flags) (opened : Nat) (text : List Char) : Option (Nat × List Char) :=
  match namedClass? text with
  | some (negated, rest) => if negated ∧ flags.readsBytes then none else some (opened, rest)
  | none =>
    match text with
    | '[' :: rest => (openClass? flags rest).map fun inner => (opened + 1, inner)
    | ']' :: rest => some (opened - 1, rest)
    | _ => ((operator? text).or (range? flags text)).map fun rest => (opened, rest)

/-- No class needs more steps than it has characters. -/
def classRest? (flags : Flags) : Nat → Nat → List Char → Option (List Char)
  | _, 0, text => some text
  | 0, _, _ => none
  | steps + 1, opened, text => do
    let (opened, rest) ← classStep? flags opened (flags.pass text)
    classRest? flags steps opened rest

/-- Classes of characters whose case is folded are not known. -/
def class? (flags : Flags) (text : List Char) : Option (List Char) := do
  if flags.foldsCase ∧ !flags.readsBytes then none
  classRest? flags text.length 1 (← openClass? flags text)

/-- A piece outside of classes is a dot, an anchor, an escape or a character. A byte of any value
could be half of a character, and characters whose case is folded are not known. -/
def piece? (flags : Flags) (text : List Char) : Option (List Char) := do
  match text with
  | [] => none
  | '.' :: rest => if flags.readsBytes then none else return rest
  | '^' :: rest => return rest
  | '$' :: rest => return rest
  | _ =>
    let (piece, rest) ← match text with
      | '\\' :: rest => escape? flags rest
      | c :: rest => some (.character c, rest)
      | [] => none
    match piece with
    | .character _ => if flags.foldsCase ∧ !flags.readsBytes then none else return rest
    | _ => return rest

/-- A name starts with a letter or an underscore. -/
def isName (name : List Char) : Bool :=
  match name with
  | [] => false
  | c :: rest =>
    (c == '_' || isLetter c) && rest.all fun c => "_.[]".toList.contains c || isAlphanumeric c

/-- An item of a sequence is a switch of flags, or it can be repeated and has a depth. -/
abbrev Item := Option Nat

/-- A sequence holds its items from the last to the first, after some alternatives. -/
structure Sequence where
  flags : Flags
  alternatives : List Nat
  items : List Item
  deriving DecidableEq, Repr

namespace Sequence

def start (flags : Flags) : Sequence := ⟨flags, [], []⟩

/-- Two parts are one level deeper than the deeper one of them. -/
def joinedDepth : List Nat → Nat
  | [] => 0
  | [depth] => depth
  | depths => depths.foldl max 0 + 1

def itemsDepth (sequence : Sequence) : Nat :=
  joinedDepth (sequence.items.map fun item => item.getD 0)

def depth (sequence : Sequence) : Nat :=
  joinedDepth (sequence.itemsDepth :: sequence.alternatives)

def add (sequence : Sequence) (item : Item) : Sequence :=
  { sequence with items := item :: sequence.items }

def alternative (sequence : Sequence) : Sequence :=
  { sequence with alternatives := sequence.itemsDepth :: sequence.alternatives, items := [] }

/-- Only an item that can match something is repeated. -/
def repeat? (sequence : Sequence) : Option Sequence :=
  match sequence.items with
  | some depth :: items => some { sequence with items := some (depth + 1) :: items }
  | _ => none

end Sequence

/-- A reader knows the sequence it is in, the sequences around it and the names of groups. -/
structure Reader where
  current : Sequence
  around : List Sequence
  names : List (List Char)
  deriving DecidableEq, Repr

namespace Reader

def start : Reader := ⟨.start .usual, [], []⟩

def openGroup (reader : Reader) (flags : Flags) : Reader :=
  { reader with current := .start flags, around := reader.current :: reader.around }

/-- The names of groups differ. -/
def openNamed? (reader : Reader) (text : List Char) : Option (Reader × List Char) := do
  let (name, rest) ← cutFirst? ['>'] text
  if isName name ∧ name ∉ reader.names then
    some ({ reader.openGroup reader.current.flags with names := name :: reader.names }, rest)
  else none

/-- Flags stand for themselves or for the group that follows after a colon. -/
def switch? (reader : Reader) (text : List Char) : Option (Reader × List Char) :=
  let isFlag := fun c => c != ':' && c != ')'
  let items := text.takeWhile isFlag
  let flags := reader.current.flags.apply items
  if !areFlags items then none
  else
    match text.dropWhile isFlag with
    | ':' :: rest => some (reader.openGroup flags, rest)
    | _ :: rest =>
      if items = [] then none
      else
        some ({ reader with current := { reader.current.add none with flags := flags } }, rest)
    | [] => none

def group? (reader : Reader) (text : List Char) : Option (Reader × List Char) :=
  match dropStart? "?P<".toList text <|> dropStart? "?<".toList text with
  | some rest => reader.openNamed? rest
  | none =>
    match text with
    | '?' :: rest => reader.switch? rest
    | _ => some (reader.openGroup reader.current.flags, text)

/-- A group is one item of the sequence around it. -/
def close? (reader : Reader) : Option Reader :=
  match reader.around with
  | [] => none
  | outer :: around =>
    some { reader with current := outer.add (some (reader.current.depth + 1)), around := around }

def addItem (reader : Reader) (depth : Nat) (rest : List Char) : Reader × List Char :=
  ({ reader with current := reader.current.add (some depth) }, rest)

/-- A brace starts a count, and no count is closed within the braces of a field. -/
def step? (reader : Reader) (text : List Char) : Option (Reader × List Char) :=
  let flags := reader.current.flags
  match text with
  | '(' :: rest => reader.group? (flags.pass rest)
  | ')' :: rest => reader.close?.map fun closed => (closed, rest)
  | '|' :: rest => some ({ reader with current := reader.current.alternative }, rest)
  | '[' :: rest => (class? flags rest).map (reader.addItem 1)
  | '\x7b' :: _ => none
  | c :: rest =>
    if "?*+".toList.contains c then
      reader.current.repeat?.map fun repeated =>
        ({ reader with current := repeated }, (dropStart? ['?'] rest).getD rest)
    else (piece? flags text).map (reader.addItem 0)
  | [] => none

/-- A pattern is nested at most so deep. -/
def depthLimit : Nat := 250

/-- At the end every group is closed. -/
def isDone (reader : Reader) : Bool :=
  reader.around.isEmpty && reader.current.depth ≤ depthLimit

/-- No pattern needs more steps than it has characters. -/
def accepts : Nat → Reader → List Char → Bool
  | steps, reader, text =>
    match steps, reader.current.flags.pass text with
    | _, [] => reader.isDone
    | 0, _ => false
    | steps + 1, rest =>
      match reader.step? rest with
      | some (reader, rest) => accepts steps reader rest
      | none => false

end Reader

/-- A text is a pattern when a reader can read all of it. -/
def isPattern (text : List Char) : Bool :=
  Reader.start.accepts text.length text

end Scaledown.CommandLine.Pattern
