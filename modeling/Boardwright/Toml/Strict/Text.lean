import Boardwright.Toml.Token

/-!
# Blanks, comments, strings and keys of a strict document

A strict document holds no control characters, and its lines end with a line feed that a carriage
return may precede.  Each reader takes the characters in front of it and answers what it read and
what is left, or nothing if the text is malformed.
-/

namespace Boardwright.Toml.Strict

/-- Characters that may not stand in a document. -/
def isControl (c : Char) : Bool :=
  (c.toNat < 0x20 && c != '\t' && c != '\n' && c != '\r') || c.toNat = 0x7f

def skipBlanks (cs : List Char) : List Char := cs.dropWhile isBlank

/-- What follows a line break. -/
def afterBreak? : List Char → Option (List Char)
  | '\n' :: cs => some cs
  | '\r' :: '\n' :: cs => some cs
  | _ => none

/-- What follows a comment, from behind its mark on.  The line break is left. -/
def afterComment? : List Char → Option (List Char)
  | [] => some []
  | '\n' :: cs => some ('\n' :: cs)
  | '\r' :: '\n' :: cs => some ('\r' :: '\n' :: cs)
  | c :: cs => if c = '\r' || isControl c then none else afterComment? cs

/-- Skips blanks, and the comment that may follow them. -/
def endOfLine? (cs : List Char) : Option (List Char) :=
  match skipBlanks cs with
  | '#' :: cs => afterComment? cs
  | cs => some cs

/-- Skips blanks, comments and line breaks. -/
def skipLines : Nat → List Char → Option (List Char)
  | 0, _ => none
  | fuel + 1, cs => do
    let cs ← endOfLine? cs
    match cs with
    | '\n' :: _ | '\r' :: _ => skipLines fuel (← afterBreak? cs)
    | _ => some cs

/-! ## Strings -/

/-- The character of a one-letter escape. -/
def letterEscape? (c : Char) : Option Char :=
  if c = '"' || c = '\\' then some c
  else if c = 'b' then some (Char.ofNat 8)
  else if c = 't' then some '\t'
  else if c = 'n' then some '\n'
  else if c = 'f' then some (Char.ofNat 12)
  else if c = 'r' then some '\r'
  else if c = 'e' then some (Char.ofNat 27)
  else none

/-- The character with a number of `count` hexadecimal digits. -/
def numbered? (count : Nat) (cs : List Char) : Option (Char × List Char) := do
  if (cs.take count).length < count then none
  else
    let n ← hexNumber? (cs.take count)
    if n.isValidChar then some (Char.ofNat n, cs.drop count) else none

/-- An escaped character, from behind the backslash on. -/
def escape? : List Char → Option (Char × List Char)
  | [] => none
  | c :: cs =>
    if c = 'u' then numbered? 4 cs
    else if c = 'U' then numbered? 8 cs
    else (letterEscape? c).map (·, cs)

/-- The rest of a string in double quotes. -/
def basicString : Nat → List Char → Option (List Char × List Char)
  | 0, _ => none
  | _, [] => none
  | fuel + 1, c :: cs =>
    if c = '"' then some ([], cs)
    else if c = '\n' || c = '\r' || isControl c then none
    else if c = '\\' then do
      let (c, cs) ← escape? cs
      Read.cons c (basicString fuel cs)
    else Read.cons c (basicString fuel cs)

/-- The rest of a string in single quotes. -/
def literalString : List Char → Option (List Char × List Char)
  | [] => none
  | c :: cs =>
    if c = '\x27' then some ([], cs)
    else if c = '\n' || c = '\r' || isControl c then none
    else Read.cons c (literalString cs)

/-- White space over any number of lines. -/
def skipWhite : List Char → List Char
  | '\r' :: '\n' :: cs => skipWhite cs
  | c :: cs => if isBlank c || c = '\n' then skipWhite cs else c :: cs
  | [] => []

/-- What follows a run of quotes that ends a long string.  Of three to five quotes the last three
end it, and those before them belong to it. -/
def closing? (quote : Char) (cs : List Char) : Option (List Char × List Char) :=
  let run := cs.takeWhile (· = quote)
  if run.length ≤ 5 then some (run.drop 3, cs.drop run.length) else none

/-- The rest of a long string in double quotes.  A backslash at the end of a line joins it with the
next line that is not blank. -/
def longBasicString : Nat → List Char → Option (List Char × List Char)
  | 0, _ => none
  | _, [] => none
  | fuel + 1, c :: cs =>
    if c = '"' then match cs with
      | '"' :: '"' :: _ => closing? c (c :: cs)
      | '"' :: cs => Read.cons c (Read.cons c (longBasicString fuel cs))
      | _ => Read.cons c (longBasicString fuel cs)
    else if c = '\\' then match afterBreak? (skipBlanks cs) with
      | some cs => longBasicString fuel (skipWhite cs)
      | none => do
        let (c, cs) ← escape? cs
        Read.cons c (longBasicString fuel cs)
    else if isControl c || (c = '\r' && cs.head? != some '\n') then none
    else Read.cons c (longBasicString fuel cs)

/-- The rest of a long string in single quotes. -/
def longLiteralString : Nat → List Char → Option (List Char × List Char)
  | 0, _ => none
  | _, [] => none
  | fuel + 1, c :: cs =>
    if c = '\x27' then match cs with
      | '\x27' :: '\x27' :: _ => closing? c (c :: cs)
      | '\x27' :: cs => Read.cons c (Read.cons c (longLiteralString fuel cs))
      | _ => Read.cons c (longLiteralString fuel cs)
    else if isControl c || (c = '\r' && cs.head? != some '\n') then none
    else Read.cons c (longLiteralString fuel cs)

/-- A string of any form, from its first quote on. -/
def stringValue? (cs : List Char) : Option (List Char × List Char) :=
  match cs with
  | '"' :: '"' :: '"' :: cs => longBasicString (cs.length + 1) (dropBreak cs)
  | '"' :: cs => basicString (cs.length + 1) cs
  | '\x27' :: '\x27' :: '\x27' :: cs => longLiteralString (cs.length + 1) (dropBreak cs)
  | '\x27' :: cs => literalString cs
  | _ => none

/-! ## Keys -/

/-- One part of a key. -/
def keyPart (cs : List Char) : Option (String × List Char) := do
  let (text, rest) ← match cs with
    | '"' :: cs => basicString (cs.length + 1) cs
    | '\x27' :: cs => literalString cs
    | c :: _ => if isBare c then some (cs.takeWhile isBare, cs.dropWhile isBare) else none
    | [] => none
  return (String.ofList text, rest)

/-- The parts of a key, which dots divide.  The blanks behind the key are skipped. -/
def key : Nat → List Char → Option (List String × List Char)
  | 0, _ => none
  | fuel + 1, cs => do
    let (part, rest) ← keyPart cs
    match skipBlanks rest with
    | '.' :: rest => do
      let (parts, rest) ← key fuel (skipBlanks rest)
      return (part :: parts, rest)
    | rest => return ([part], rest)

end Boardwright.Toml.Strict
