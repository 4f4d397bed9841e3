import RegisterTransfer.Toml.Quoted
import RegisterTransfer.Toml.Scalar

/-!
# TOML documents

A document is read line by line: a key with its value, or the header of a table. Arrays and tables between braces
may go on over several lines. A document with a mistake anywhere has no members at all.
-/

namespace RegisterTransfer.Toml

/-! ## Blanks and comments -/

def skipBlanks (cs : List Char) : List Char := cs.dropWhile isBlank

/-- Leave out the text of a comment and the end of its line. -/
def skipComment : List Char → Option (List Char)
  | [] => some []
  | '\n' :: rest => some rest
  | '\r' :: '\n' :: rest => some rest
  | c :: rest => if isPlain c then skipComment rest else .none

/-- Leave out blanks, comments and line ends; `inComment` tells whether a comment has begun. -/
def skipLines (inComment : Bool) : List Char → Option (List Char)
  | [] => some []
  | '\n' :: rest => skipLines false rest
  | '\r' :: '\n' :: rest => skipLines false rest
  | c :: rest =>
    if inComment then if isPlain c then skipLines true rest else .none
    else if isBlank c then skipLines false rest
    else if c = '#' then skipLines true rest
    else some (c :: rest)

/-- Nothing but blanks and a comment up to the end of a line. -/
def endLine (cs : List Char) : Option (List Char) :=
  match skipBlanks cs with
  | [] => some []
  | '\n' :: rest => some rest
  | '\r' :: '\n' :: rest => some rest
  | '#' :: rest => skipComment rest
  | _ => .none

/-! ## Keys -/

def isKeyChar (c : Char) : Bool :=
  ('a' ≤ c && c ≤ 'z') || ('A' ≤ c && c ≤ 'Z') || ('0' ≤ c && c ≤ '9') || c = '_' || c = '-'

/-- One part of a key, bare or quoted. -/
def keyPart (cs : List Char) : Option (String × List Char) :=
  match quotedLine? cs with
  | some found => some found
  | .none =>
    let bare := cs.takeWhile isKeyChar
    if bare.isEmpty then .none else some (String.ofList bare, cs.dropWhile isKeyChar)

/-- The most parts of a dotted key, and the most arrays and tables around a value. -/
def nestingLimit : Nat := 80

/-- Up to `count` parts of a dotted key, with blanks around the dots. -/
def keyParts : Nat → List Char → Option (List String × List Char)
  | 0, _ => .none
  | count + 1, cs => do
    let (part, rest) ← keyPart (skipBlanks cs)
    match skipBlanks rest with
    | '.' :: rest => do
      let (parts, rest) ← keyParts count rest
      return (part :: parts, rest)
    | rest => return ([part], rest)

def keyPath (cs : List Char) : Option (List String × List Char) := keyParts nestingLimit cs

/-! ## Values -/

/-- Whether a character may belong to a scalar without quotes, if only to a wrong one. -/
def isScalarChar (c : Char) : Bool :=
  !(isBlank c || c = '\r' || c = '\n' || c = '#' || c = '=' || c = ',' || c = '[' || c = ']' || c = '\x7b' ||
    c = '\x7d')

/-- Whether a scalar goes on with a word behind blanks, which is neither a comment nor quoted text. -/
def continues (cs : List Char) : Bool :=
  cs.head?.any fun c ↦ isScalarChar c && c != '\x22' && c != '\x27'

/-- The characters of a scalar without quotes, and the rest. All words up to a mark or the end of the line belong to
it, together with the blanks between them, as in a date and a time. -/
def scalarText : Nat → List Char → List Char × List Char
  | 0, cs => ([], cs)
  | fuel + 1, cs =>
    let (word, rest) := cs.span isScalarChar
    let (blanks, behind) := rest.span isBlank
    if !blanks.isEmpty && continues behind then
      let (words, rest) := scalarText fuel behind
      (word ++ blanks ++ words, rest)
    else (word, rest)

/-- The items of an array up to the closing bracket; lines may end between them, and a comma may follow the last
one. -/
def arrayItems (item : List Char → Option (Value × List Char)) :
    Nat → List Char → Option (List Value × List Char)
  | 0, _ => .none
  | fuel + 1, cs => do
    match ← skipLines false cs with
    | ']' :: rest => return ([], rest)
    | cs => do
      let (value, rest) ← item cs
      match ← skipLines false rest with
      | ',' :: rest => do
        let (values, rest) ← arrayItems item fuel rest
        return (value :: values, rest)
      | ']' :: rest => return ([value], rest)
      | _ => .none

/-- The members of a table up to the closing brace; lines may end between all of their parts, and a comma may
follow the last one. -/
def inlineMembers (item : List Char → Option (Value × List Char)) :
    Nat → Members → List Char → Option (Members × List Char)
  | 0, _, _ => .none
  | fuel + 1, members, cs => do
    match ← skipLines false cs with
    | '\x7d' :: rest => return (members, rest)
    | cs => do
      let (key, rest) ← keyPath cs
      match ← skipLines false rest with
      | '=' :: rest => do
        let (value, rest) ← item (← skipLines false rest)
        let members ← members.assign value key
        match ← skipLines false rest with
        | ',' :: rest => inlineMembers item fuel members rest
        | '\x7d' :: rest => return (members, rest)
        | _ => .none
      | _ => .none

/-- A value and the rest; `depth` bounds the nesting of arrays and tables. -/
def value (depth : Nat) (cs : List Char) : Option (Value × List Char) :=
  match cs with
  | '\x22' :: _ | '\x27' :: _ => (quoted? cs).map fun found ↦ (.string found.1, found.2)
  | '[' :: rest =>
    match depth with
    | 0 => .none
    | depth + 1 =>
      (arrayItems (value depth) (rest.length + 1) rest).map fun found ↦ (.array found.1, found.2)
  | '\x7b' :: rest =>
    match depth with
    | 0 => .none
    | depth + 1 =>
      (inlineMembers (value depth) (rest.length + 1) [] rest).map fun found ↦
        (.table .inline found.1, found.2)
  | _ =>
    let (text, rest) := scalarText cs.length cs
    (scalar? text).map fun found ↦ (found, rest)

/-! ## Lines -/

inductive Line
  | member (key : List String) (value : Value)
  | header (path : List String)
  | element (path : List String)

/-- A key, an equals sign and a value. -/
def memberLine (cs : List Char) : Option (Line × List Char) := do
  let (key, rest) ← keyPath cs
  match rest with
  | '=' :: rest => do
    let (found, rest) ← value nestingLimit (skipBlanks rest)
    return (.member key found, rest)
  | _ => .none

def oneLine (cs : List Char) : Option (Line × List Char) :=
  match cs with
  | '[' :: '[' :: rest => do
    let (path, rest) ← keyPath rest
    match rest with
    | ']' :: ']' :: rest => return (.element path, rest)
    | _ => .none
  | '[' :: rest => do
    let (path, rest) ← keyPath rest
    match rest with
    | ']' :: rest => return (.header path, rest)
    | _ => .none
  | cs => memberLine cs

def allLines : Nat → List Char → Option (List Line)
  | 0, _ => .none
  | fuel + 1, cs => do
    match ← skipLines false cs with
    | [] => return []
    | cs => do
      let (line, rest) ← oneLine cs
      return line :: (← allLines fuel (← endLine rest))

/-- Enter a line into the members so far; `path` names the table that the last header has opened. -/
def enterLine (state : List String × Members) : Line → Option (List String × Members)
  | .member key found => do return (state.1, ← state.2.assignIn key found state.1)
  | .header path => do return (path, ← state.2.descend Members.openTable path)
  | .element path => do return (path, ← state.2.descend Members.openElement path)

def enterLines : List String × Members → List Line → Option Members
  | state, [] => some state.2
  | state, line :: rest => do enterLines (← enterLine state line) rest

/-- The members of a document. A byte order mark at its start does not count. -/
def document (text : String) : Option Members := do
  let cs := text.toList
  let cs := if cs.head? = some '\ufeff' then cs.tail else cs
  enterLines ([], []) (← allLines (cs.length + 1) cs)

end RegisterTransfer.Toml
