/-!
# TOML tokens

The scanner works in two modes.  Between statements it expects keys and headers; after an equals
sign, and inside arrays, it expects values.  Open brackets decide which mode follows a comma or a
line break.  Keys and headers keep their written form; `Toml.splitKey` takes them apart.  The
brackets of a header are those of an array, so an empty pair of them is a value where one is due.
-/

namespace Boardwright.Toml

inductive Token where
  | key (text : List Char)
  | equals
  | comma
  /-- What stands between the brackets of a header. -/
  | name (text : List Char)
  | arrayHeader (name : List Char)
  | openArray
  | closeArray
  | openTable
  | closeTable
  | string (text : List Char)
  | boolean (value : Bool)
  | integer (text : List Char)
  | real (text : List Char)
  | infinite (negative : Bool)
  | undefined
  | date (text : List Char)
  | time (text : List Char)
  | offset (text : List Char)
  deriving DecidableEq, Repr

/-- A token and the line on which it starts. -/
structure Lexeme where
  line : Nat
  token : Token
  deriving DecidableEq, Repr

def isBlank (c : Char) : Bool := c = ' ' || c = '\t'

def isBare (c : Char) : Bool := c.isAlphanum || c = '_' || c = '-'

def hexValue? (c : Char) : Option Nat :=
  if c.isDigit then some (c.toNat - 48)
  else if 'a' ≤ c && c ≤ 'f' then some (c.toNat - 87)
  else if 'A' ≤ c && c ≤ 'F' then some (c.toNat - 55)
  else none

/-- The number written by hexadecimal digits. -/
def hexNumber? (digits : List Char) : Option Nat :=
  digits.foldl (fun n c => do return 16 * (← n) + (← hexValue? c)) (some 0)

/-- The character with a number, or the replacement character where there is none. -/
def charOf (n : Nat) : Char := if n.isValidChar then Char.ofNat n else Char.ofNat 0xfffd

/-- The character of a one-letter escape. -/
def shortEscape? (c : Char) : Option Char :=
  if c = '"' then some '"'
  else if c = 'n' then some '\n'
  else if c = 'b' then some (Char.ofNat 8)
  else if c = 'f' then some (Char.ofNat 12)
  else if c = '/' then some '/'
  else if c = 't' then some '\t'
  else if c = 'r' then some '\r'
  else if c = '\\' then some '\\'
  else none

/-- Puts a character in front of a text that was read. -/
def Read.cons (c : Char) (r : Option (List Char × List Char)) : Option (List Char × List Char) :=
  r.map fun (text, rest) => (c :: text, rest)

/-- The rest of a string in double quotes and what follows it.  A long string ends with three
quotes.  A backslash before white space skips it; `skipping` is set while that goes on. -/
def stringBody (long newlines : Bool) (skipping : Bool) :
    List Char → Option (List Char × List Char)
  | [] => none
  | c :: cs =>
    if skipping && (c = ' ' || c = '\t' || c = '\r' || c = '\n') then
      stringBody long newlines true cs
    else if c = '"' then
      if long then match cs with
        | '"' :: '"' :: rest => some ([], rest)
        | _ => Read.cons c (stringBody long newlines false cs)
      else some ([], cs)
    else if c = '\\' then match cs with
      | [] => none
      | e :: cs =>
        if e = ' ' || e = '\t' || e = '\r' || e = '\n' then stringBody long newlines true cs
        else if e = 'u' then match cs with
          | a :: b :: c :: d :: cs => do
            let n ← hexNumber? [a, b, c, d]
            Read.cons (charOf n) (stringBody long newlines false cs)
          | _ => none
        else if e = 'U' then match cs with
          | a :: b :: c :: d :: e :: f :: g :: h :: cs => do
            let n ← hexNumber? [a, b, c, d, e, f, g, h]
            Read.cons (charOf n) (stringBody long newlines false cs)
          | _ => none
        else do
          let c ← shortEscape? e
          Read.cons c (stringBody long newlines false cs)
    else if c.toNat < 0x20 && c != '\t' && !(newlines && (c = '\n' || c = '\r')) then none
    else Read.cons c (stringBody long newlines false cs)

/-- The rest of a string in single quotes and what follows it. -/
def literalBody (long : Bool) : List Char → Option (List Char × List Char)
  | [] => none
  | c :: cs =>
    if c = '\x27' then
      if long then match cs with
        | '\x27' :: '\x27' :: rest => some ([], rest)
        | _ => Read.cons c (literalBody long cs)
      else some ([], cs)
    else Read.cons c (literalBody long cs)

/-- A long string does not begin with the line break that follows its opening. -/
def dropBreak : List Char → List Char
  | '\r' :: '\n' :: cs => cs
  | '\n' :: cs => cs
  | cs => cs

/-- A string value, from behind its first quote on. -/
def quotedString (cs : List Char) : Option (List Char × List Char) :=
  match cs with
  | '"' :: '"' :: cs => stringBody true true false (dropBreak cs)
  | cs => stringBody false false false cs

def literalString (cs : List Char) : Option (List Char × List Char) :=
  match cs with
  | '\x27' :: '\x27' :: cs => literalBody true (dropBreak cs)
  | cs => literalBody false cs

/-- A key up to its end, with its quotes, and what follows it.  A quoted part is already
unescaped.  Blanks end a key unless a dot follows them; around such a dot they are kept, the first
one before it as a space. -/
def keyText : Nat → List Char → Option (List Char × List Char)
  | 0, _ => none
  | _ + 1, [] => some ([], [])
  | fuel + 1, c :: cs =>
    if c = '=' then some ([], c :: cs)
    else if c = '"' then do
      let (part, rest) ← stringBody false true false cs
      let (text, rest) ← keyText fuel rest
      return ('"' :: part ++ '"' :: text, rest)
    else if c = '\x27' then do
      let (part, rest) ← literalBody false cs
      let (text, rest) ← keyText fuel rest
      return ('\x27' :: part ++ '\x27' :: text, rest)
    else if isBlank c then
      match cs.dropWhile isBlank with
      | '.' :: rest => do
        let (text, after) ← keyText fuel (rest.dropWhile isBlank)
        return (' ' :: cs.takeWhile isBlank ++ '.' :: rest.takeWhile isBlank ++ text, after)
      | rest => some ([], rest)
    else if c = '.' || isBare c then Read.cons c (keyText fuel cs)
    else none

/-- The rest of a decimal number.  Answers its text, whether it is real, and what follows. -/
def numberBody (point exponent digit : Bool) : List Char → Option (List Char × Bool × List Char)
  | [] => if digit then some ([], point || exponent, []) else none
  | c :: cs =>
    let add (r : Option (List Char × Bool × List Char)) :=
      r.map fun (text, rest) => (c :: text, rest)
    if c = '.' then
      if point || !digit || !(cs.head?.any Char.isDigit) then none
      else add (numberBody true exponent digit cs)
    else if c = 'e' || c = 'E' then
      match cs with
      | [] => add (numberBody point true digit [])
      | s :: rest =>
        if s = '+' || s = '-' then
          (numberBody point true digit rest).map fun (text, rest) => (c :: s :: text, rest)
        else add (numberBody point true digit (s :: rest))
    else if c.isDigit then add (numberBody point exponent true cs)
    else if c = '_' then add (numberBody point exponent digit cs)
    else if digit then some ([], point || exponent, c :: cs)
    else none

/-- Whether a character may stand in a number after one of the base marks `x`, `o` and `b`. -/
def digitOf? (mark : Char) : Option (Char → Bool) :=
  if mark = 'x' then some fun c => (hexValue? c).isSome || c = '_'
  else if mark = 'o' then some fun c => ('0' ≤ c && c ≤ '7') || c = '_'
  else if mark = 'b' then some fun c => c = '0' || c = '1' || c = '_'
  else none

/-- A decimal number with its sign, or a signed special number. -/
def signedNumber (cs : List Char) : Option (Token × List Char) :=
  let (sign, body) := match cs with
    | c :: rest => if c = '+' || c = '-' then ([c], rest) else ([], cs)
    | [] => ([], [])
  match sign, body with
  | [s], 'i' :: 'n' :: 'f' :: rest => some (.infinite (s = '-'), rest)
  | [_], 'n' :: 'a' :: 'n' :: rest => some (.undefined, rest)
  | _, _ => do
    let (text, isReal, rest) ← numberBody false false false body
    return (if isReal then .real (sign ++ text) else .integer (sign ++ text), rest)

/-- A number in any base. -/
def number (cs : List Char) : Option (Token × List Char) :=
  match cs with
  | '0' :: mark :: rest =>
    match digitOf? mark with
    | some isDigit =>
      let digits := rest.takeWhile isDigit
      if digits.isEmpty then none
      else some (.integer ('0' :: mark :: digits), rest.dropWhile isDigit)
    | none => if mark.isAlpha then none else signedNumber cs
  | _ => signedNumber cs

/-- Two digits. -/
def twoDigits : List Char → Option (List Char × List Char)
  | a :: b :: rest => if a.isDigit && b.isDigit then some ([a, b], rest) else none
  | _ => none

/-- A given character. -/
def exactly (c : Char) : List Char → Option (List Char)
  | d :: rest => if d = c then some rest else none
  | [] => none

/-- Minutes, seconds and a fraction of a second. -/
def minutes (cs : List Char) : Option (List Char × List Char) := do
  let (mm, cs) ← twoDigits cs
  let cs ← exactly ':' cs
  let (ss, cs) ← twoDigits cs
  let text := mm ++ ':' :: ss
  match cs with
  | '.' :: rest =>
    let fraction := rest.takeWhile Char.isDigit
    if fraction.isEmpty then none
    else some (text ++ '.' :: fraction, rest.dropWhile Char.isDigit)
  | _ => some (text, cs)

/-- A time of day. -/
def timeOfDay (cs : List Char) : Option (List Char × List Char) := do
  let (hh, cs) ← twoDigits cs
  let cs ← exactly ':' cs
  let (text, cs) ← minutes cs
  return (hh ++ ':' :: text, cs)

/-- The distance from universal time, if one is given. -/
def zone (cs : List Char) : Option (Option (List Char) × List Char) :=
  match cs with
  | 'Z' :: rest => some (some ['Z'], rest)
  | c :: rest =>
    if c = '+' || c = '-' then do
      let (hh, rest) ← twoDigits rest
      let rest ← exactly ':' rest
      let (mm, rest) ← twoDigits rest
      return (some (c :: hh ++ ':' :: mm), rest)
    else some (none, cs)
  | [] => some (none, cs)

/-- A date, and the time of day and zone that may follow it. -/
def dateAndTime (cs : List Char) : Option (List Token × List Char) := do
  let (century, cs) ← twoDigits cs
  let (year, cs) ← twoDigits cs
  let cs ← exactly '-' cs
  let (month, cs) ← twoDigits cs
  let cs ← exactly '-' cs
  let (day, cs) ← twoDigits cs
  let date := Token.date (century ++ year ++ '-' :: month ++ '-' :: day)
  let withTime (cs : List Char) : Option (List Token × List Char) := do
    let (time, cs) ← timeOfDay cs
    let (offset, cs) ← zone cs
    return ([date, .time time] ++ (offset.map Token.offset).toList, cs)
  match cs with
  | [] => some ([date], [])
  | 'T' :: rest => withTime rest
  | ' ' :: rest => if (twoDigits rest).isSome then withTime rest else some ([date], cs)
  | _ => none

/-- A value that starts with a digit: a time, a date or a number. -/
def digitValue (cs : List Char) : Option (List Token × List Char) :=
  match cs with
  | a :: b :: ':' :: _ =>
    if a.isDigit && b.isDigit then (timeOfDay cs).map fun (text, rest) => ([.time text], rest)
    else (number cs).map fun (token, rest) => ([token], rest)
  | a :: b :: c :: d :: '-' :: _ =>
    if a.isDigit && b.isDigit && c.isDigit && d.isDigit then dateAndTime cs
    else (number cs).map fun (token, rest) => ([token], rest)
  | _ => (number cs).map fun (token, rest) => ([token], rest)

/-- A header, from behind its first bracket on.  An empty pair of brackets has no name. -/
def headerOf (cs : List Char) : Option (List Token × List Char) :=
  let name (cs : List Char) := cs.takeWhile fun c => c != ']' && c != '['
  let rest (cs : List Char) := cs.dropWhile fun c => c != ']' && c != '['
  match cs with
  | '[' :: cs => match name cs, rest cs with
    | [], _ => none
    | name, ']' :: ']' :: rest => some ([.arrayHeader name], rest)
    | _, _ => none
  | cs => match name cs, rest cs with
    | [], ']' :: rest => some ([.openArray, .closeArray], rest)
    | name, ']' :: rest => some ([.openArray, .name name, .closeArray], rest)
    | _, _ => none

inductive Bracket where
  | square
  | curly
  deriving DecidableEq, Repr

inductive Mode where
  | statement
  | value
  deriving DecidableEq, Repr

/-- The line reached after reading `before` up to `after`. -/
def lineAfter (line : Nat) (before after : List Char) : Nat :=
  line + (before.take (before.length - after.length)).count '\n'

def skipComment (cs : List Char) : List Char := cs.dropWhile (· != '\n')

/-- A word at the start of a value. -/
def keyword? : List Char → Option (Token × List Char)
  | 't' :: 'r' :: 'u' :: 'e' :: rest => some (.boolean true, rest)
  | 'f' :: 'a' :: 'l' :: 's' :: 'e' :: rest => some (.boolean false, rest)
  | 'i' :: 'n' :: 'f' :: rest => some (.infinite false, rest)
  | 'n' :: 'a' :: 'n' :: rest => some (.undefined, rest)
  | _ => none

/-- The tokens of a text.  Every round reads at least one character. -/
def scan : Nat → Mode → List Bracket → Nat → List Char → Option (List Lexeme)
  | 0, _, _, _, _ => none
  | _ + 1, _, _, _, [] => some []
  | fuel + 1, .statement, stack, line, c :: cs =>
    if c = '}' then match stack with
      | .curly :: stack => (scan fuel .value stack line cs).map (⟨line, .closeTable⟩ :: ·)
      | _ => none
    else if c = '[' then do
      let (tokens, rest) ← headerOf cs
      let lexemes ← scan fuel .statement stack (lineAfter line cs rest) rest
      return tokens.map (⟨line, ·⟩) ++ lexemes
    else if c = '#' then scan fuel .statement stack line (skipComment cs)
    else if c = '=' then (scan fuel .value stack line cs).map (⟨line, .equals⟩ :: ·)
    else if c = '\n' then scan fuel .statement stack (line + 1) cs
    else if c = '\r' || isBlank c then scan fuel .statement stack line cs
    else do
      let (text, rest) ← keyText (cs.length + 2) (c :: cs)
      let lexemes ← scan fuel .statement stack (lineAfter line (c :: cs) rest) rest
      return ⟨line, .key text⟩ :: lexemes
  | fuel + 1, .value, stack, line, c :: cs =>
    if c = '.' then none
    else if c = '=' then (scan fuel .value stack line cs).map (⟨line, .equals⟩ :: ·)
    else if c = '[' then
      (scan fuel .value (.square :: stack) line cs).map (⟨line, .openArray⟩ :: ·)
    else if c = ']' then match stack with
      | .square :: stack => (scan fuel .value stack line cs).map (⟨line, .closeArray⟩ :: ·)
      | _ => none
    else if c = '{' then
      (scan fuel .statement (.curly :: stack) line cs).map (⟨line, .openTable⟩ :: ·)
    else if c = '}' then match stack with
      | .curly :: stack => (scan fuel .value stack line cs).map (⟨line, .closeTable⟩ :: ·)
      | _ => none
    else if c = '#' then scan fuel .value stack line (skipComment cs)
    else if c = '"' then do
      let (text, rest) ← quotedString cs
      let lexemes ← scan fuel .value stack (lineAfter line cs rest) rest
      return ⟨line, .string text⟩ :: lexemes
    else if c = '\x27' then do
      let (text, rest) ← literalString cs
      let lexemes ← scan fuel .value stack (lineAfter line cs rest) rest
      return ⟨line, .string text⟩ :: lexemes
    else if c = ',' then
      let mode := if stack.head? = some .curly then Mode.statement else .value
      (scan fuel mode stack line cs).map (⟨line, .comma⟩ :: ·)
    else if c = '\n' || c = '\r' then
      let mode := if stack.head? = some .square then Mode.value else .statement
      scan fuel mode stack (if c = '\n' then line + 1 else line) cs
    else match keyword? (c :: cs) with
      | some (token, rest) => (scan fuel .value stack line rest).map (⟨line, token⟩ :: ·)
      | none =>
        if isBlank c then scan fuel .value stack line cs
        else if c = '+' || c = '-' then do
          let (token, rest) ← signedNumber (c :: cs)
          let lexemes ← scan fuel .value stack line rest
          return ⟨line, token⟩ :: lexemes
        else if c.isDigit then do
          let (tokens, rest) ← digitValue (c :: cs)
          let lexemes ← scan fuel .value stack line rest
          return tokens.map (⟨line, ·⟩) ++ lexemes
        else none

/-- The tokens of a document, or nothing if it is malformed. -/
def tokens (cs : List Char) : Option (List Lexeme) :=
  scan (cs.length + 1) .statement [] 1 cs

end Boardwright.Toml
