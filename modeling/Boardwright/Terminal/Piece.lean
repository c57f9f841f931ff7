import Boardwright.Terminal.Columns
import Boardwright.Terminal.Pen
import Boardwright.Text.Split

/-!
# Pieces of a text for a terminal

A piece is a cluster, a control character or a control sequence.  Sequences that set the pen or a
link are recognised; a sequence that is broken off ends before the character that breaks it.
-/

namespace Boardwright.Terminal

/-- A link behind the text: its parameters and its address. -/
structure Link where
  parameters : String := ""
  address : String := ""
  deriving DecidableEq, Repr, Inhabited

/-- What a piece does to the text behind it. -/
inductive Effect where
  | none
  | pen (codes : List Code)
  | link (link : Link)
  deriving DecidableEq, Repr

structure Piece where
  text : List Char
  columns : Nat := 0
  effect : Effect := .none
  deriving DecidableEq, Repr

/-- The codes of a control sequence.  A missing code is zero; a sequence may also have no codes. -/
def codesOf (text : List Char) : List Code :=
  let number (digits : List Char) : Nat := digits.foldl (fun n c => 10 * n + (c.toNat - 48)) 0
  let rec read (digits : List Char) : List Char → List Code
    | [] => [⟨number digits, false⟩]
    | c :: cs =>
      if c = ';' || c = ':' then ⟨number digits, c = ':'⟩ :: read [] cs
      else read (digits ++ [c]) cs
  if text.isEmpty then [] else read [] text

/-- The end of a string in a control sequence: what belongs to it, and what follows.  A bell ends
only strings for the operating system. -/
def stringEnd (system : Bool) : List Char → List Char × List Char
  | [] => ([], [])
  | '\x1b' :: '\\' :: cs => (['\x1b', '\\'], cs)
  | c :: cs =>
    if c = '\x18' || c = '\x1a' || c = '\x1b' then ([], c :: cs)
    else if (system && c = '\x07') || (String.utf8EncodeChar c).contains 0x9c then ([c], cs)
    else
      let (text, rest) := stringEnd system cs
      (c :: text, rest)

/-- The link that a string for the operating system sets. -/
def linkOf? (text : List Char) : Option Link :=
  let data := text.takeWhile fun c => c != '\x07' && c != '\x1b'
  let digits := data.takeWhile Char.isDigit
  let number := digits.foldl (fun n c => 10 * n + (c.toNat - 48)) 0
  match Text.split ';' (String.ofList data) with
  | [_, parameters, address] =>
    if !digits.isEmpty && number = 8 then some { parameters, address } else none
  | _ => none

/-- The rest of a sequence behind its introduction `lead`.  In one for a device a string follows. -/
def sequencePiece (lead : List Char) (plain device : Bool) (cs : List Char) : Piece × List Char :=
  let between (first last : Char) (c : Char) : Bool := first ≤ c && c ≤ last
  let marks := cs.takeWhile (between '<' '?')
  let cs := cs.drop marks.length
  let codes := cs.takeWhile fun c => c.isDigit || c = ';' || c = ':'
  let cs := cs.drop codes.length
  let inner := cs.takeWhile (between ' ' '/')
  let text := lead ++ marks ++ codes ++ inner
  match cs.drop inner.length with
  | [] => ({ text }, [])
  | c :: rest =>
    if !between '@' '~' c then ({ text }, c :: rest)
    else if device then
      let (body, rest) := stringEnd false rest
      ({ text := text ++ c :: body }, rest)
    else
      let sets := plain && c = 'm' && marks.isEmpty && inner.isEmpty
      ({ text := text ++ [c], effect := if sets then .pen (codesOf codes) else .none }, rest)

/-- The rest of an escape sequence, of which `lead` was read. -/
def escapePiece (lead : List Char) : List Char → Piece × List Char
  | [] => ({ text := lead }, [])
  | c :: cs =>
    let direct := lead.length = 1
    let text := lead ++ [c]
    if c = '[' then sequencePiece text direct false cs
    else if c = 'P' then sequencePiece text direct direct cs
    else if c = ']' || c = 'X' || c = '^' || c = '_' then
      let system := direct && c = ']'
      let (body, rest) := stringEnd system cs
      let effect := if system then ((linkOf? body).map Effect.link).getD .none else .none
      ({ text := text ++ body, effect }, rest)
    else if ' ' ≤ c && c ≤ '/' then escapePiece text cs
    else if '0' ≤ c && c ≤ '~' then ({ text }, cs)
    else ({ text := lead }, c :: cs)

/-- The first piece of a text, and what follows it. -/
def piece (c : Char) (cs : List Char) : Piece × List Char :=
  if c = '\x1b' then escapePiece [c] cs
  else if c.toNat < 0x80 then ({ text := [c], columns := if ' ' ≤ c && c ≤ '~' then 1 else 0 }, cs)
  else
    let (text, columns, rest) := cluster c cs
    ({ text, columns }, rest)

/-- The pieces of a text.  Each takes at least one character. -/
def piecesFrom : Nat → List Char → List Piece
  | 0, _ => []
  | _, [] => []
  | fuel + 1, c :: cs =>
    let (first, rest) := piece c cs
    first :: piecesFrom fuel rest

def pieces (text : List Char) : List Piece := piecesFrom text.length text

end Boardwright.Terminal
