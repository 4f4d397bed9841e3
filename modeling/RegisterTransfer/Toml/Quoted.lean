/-!
# Quoted text

Text between double quotes may hold escapes, text between single quotes holds none. Between three quotes it may
span lines: a line end right behind the opening quotes does not count, and one or two quotes may stand directly
in front of the closing ones.
-/

namespace RegisterTransfer.Toml

/-- Whether a character may stand in quoted text or a comment as it is. -/
def isPlain (c : Char) : Bool := c = '\t' || (' ' ≤ c && c ≠ '\x7f')

def isBlank (c : Char) : Bool := c = ' ' || c = '\t'

/-- Where a reader of quoted text stands: between characters, behind a backslash, inside of a code point with
some digits to come, or in the blanks that a backslash at the end of a line takes away. -/
inductive Escape
  | none
  | backslash
  | code (remaining value : Nat)
  /-- Behind a backslash and blanks, with the line end still to come. -/
  | lineEnd
  | blanks

/-- The character of a short escape. -/
def shortEscape : Char → Option Char
  | 'b' => some '\x08'
  | 't' => some '\t'
  | 'n' => some '\n'
  | 'f' => some '\x0c'
  | 'r' => some '\r'
  | 'e' => some '\x1b'
  | '\x22' => some '\x22'
  | '\\' => some '\\'
  | _ => none

/-- How many digits of a code point follow a letter behind a backslash. -/
def codeLength? : Char → Option Nat
  | 'x' => some 2
  | 'u' => some 4
  | 'U' => some 8
  | _ => none

def hexValue? (c : Char) : Option Nat :=
  if '0' ≤ c && c ≤ '9' then some (c.toNat - '0'.toNat)
  else if 'a' ≤ c && c ≤ 'f' then some (c.toNat - 'a'.toNat + 10)
  else if 'A' ≤ c && c ≤ 'F' then some (c.toNat - 'A'.toNat + 10)
  else .none

/-- The character of a code point, which may not be half of a surrogate pair. -/
def charOfCode? (code : Nat) : Option Char :=
  if code < 0xd800 || (0xe000 ≤ code && code < 0x110000) then some (Char.ofNat code) else .none

/-- Text behind a double quote up to the closing one, and the rest. Text so far is held last character first. -/
def basicText : Escape → List Char → List Char → Option (List Char × List Char)
  | _, _, [] => .none
  | .none, text, c :: rest =>
    if c = '\x22' then some (text.reverse, rest)
    else if c = '\\' then basicText .backslash text rest
    else if isPlain c then basicText .none (c :: text) rest
    else .none
  | .backslash, text, c :: rest =>
    match codeLength? c, shortEscape c with
    | some count, _ => basicText (.code count 0) text rest
    | .none, some escaped => basicText .none (escaped :: text) rest
    | .none, .none => .none
  | .code 0 _, _, _ :: _ => .none
  | .code (remaining + 1) value, text, c :: rest =>
    match hexValue? c with
    | .none => .none
    | some digit =>
      let value := value * 16 + digit
      if remaining = 0 then
        match charOfCode? value with
        | some escaped => basicText .none (escaped :: text) rest
        | .none => .none
      else basicText (.code remaining value) text rest
  | .lineEnd, _, _ :: _ => .none
  | .blanks, _, _ :: _ => .none

/-- Text behind a single quote up to the closing one, and the rest. -/
def literalText : List Char → List Char → Option (List Char × List Char)
  | _, [] => .none
  | text, c :: rest =>
    if c = '\x27' then some (text.reverse, rest)
    else if isPlain c then literalText (c :: text) rest
    else .none

/-- The rest behind closing quotes, if there are three of them at the front, and the quotes before them that
belong to the text. -/
def closing? (quote : Char) (cs : List Char) : Option (List Char × List Char) :=
  let run := (cs.takeWhile fun c ↦ c == quote).length
  if run < 3 then .none
  else
    let kept := min (run - 3) 2
    some (List.replicate kept quote, cs.drop (kept + 3))

/-- Text behind three double quotes up to the closing three, and the rest. -/
def basicLines : Escape → List Char → List Char → Option (List Char × List Char)
  | _, _, [] => .none
  | .none, text, c :: rest =>
    match closing? '\x22' (c :: rest) with
    | some (kept, rest) => some (text.reverse ++ kept, rest)
    | .none =>
      if c = '\\' then basicLines .backslash text rest
      else if isPlain c || c = '\n' then basicLines .none (c :: text) rest
      else if c = '\r' && rest.head? == some '\n' then basicLines .none (c :: text) rest
      else .none
  | .backslash, text, c :: rest =>
    if isBlank c then basicLines .lineEnd text rest
    else if c = '\n' then basicLines .blanks text rest
    else if c = '\r' && rest.head? == some '\n' then basicLines .lineEnd text rest
    else
      match codeLength? c, shortEscape c with
      | some count, _ => basicLines (.code count 0) text rest
      | .none, some escaped => basicLines .none (escaped :: text) rest
      | .none, .none => .none
  | .code 0 _, _, _ :: _ => .none
  | .code (remaining + 1) value, text, c :: rest =>
    match hexValue? c with
    | .none => .none
    | some digit =>
      let value := value * 16 + digit
      if remaining = 0 then
        match charOfCode? value with
        | some escaped => basicLines .none (escaped :: text) rest
        | .none => .none
      else basicLines (.code remaining value) text rest
  | .lineEnd, text, c :: rest =>
    if isBlank c then basicLines .lineEnd text rest
    else if c = '\n' then basicLines .blanks text rest
    else if c = '\r' && rest.head? == some '\n' then basicLines .lineEnd text rest
    else .none
  | .blanks, text, c :: rest =>
    if isBlank c || c = '\n' then basicLines .blanks text rest
    else if c = '\r' && rest.head? == some '\n' then basicLines .blanks text rest
    else
      match closing? '\x22' (c :: rest) with
      | some (kept, rest) => some (text.reverse ++ kept, rest)
      | .none =>
        if c = '\\' then basicLines .backslash text rest
        else if isPlain c then basicLines .none (c :: text) rest
        else .none

/-- Text behind three single quotes up to the closing three, and the rest. -/
def literalLines : List Char → List Char → Option (List Char × List Char)
  | _, [] => .none
  | text, c :: rest =>
    match closing? '\x27' (c :: rest) with
    | some (kept, rest) => some (text.reverse ++ kept, rest)
    | .none =>
      if isPlain c || c = '\n' then literalLines (c :: text) rest
      else if c = '\r' && rest.head? == some '\n' then literalLines (c :: text) rest
      else .none

/-- Leave out a line end at the front. -/
def skipLineEnd : List Char → List Char
  | '\n' :: rest => rest
  | '\r' :: '\n' :: rest => rest
  | cs => cs

/-- Quoted text on one line, and the rest. -/
def quotedLine? : List Char → Option (String × List Char)
  | '\x22' :: rest => (basicText .none [] rest).map fun found ↦ (String.ofList found.1, found.2)
  | '\x27' :: rest => (literalText [] rest).map fun found ↦ (String.ofList found.1, found.2)
  | _ => .none

/-- Quoted text on one or several lines, and the rest. -/
def quoted? : List Char → Option (String × List Char)
  | '\x22' :: '\x22' :: '\x22' :: rest =>
    (basicLines .none [] (skipLineEnd rest)).map fun found ↦ (String.ofList found.1, found.2)
  | '\x27' :: '\x27' :: '\x27' :: rest =>
    (literalLines [] (skipLineEnd rest)).map fun found ↦ (String.ofList found.1, found.2)
  | cs => quotedLine? cs

end RegisterTransfer.Toml
