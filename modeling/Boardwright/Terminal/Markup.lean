import Boardwright.Text.Split

/-!
# Messages without colour

Messages may hold markup: tags between angle brackets, of which the closing one is empty, and
sequences that choose colours.  Where colours are not wanted, markup is left out.
-/

namespace Boardwright.Terminal

/-- Whether a text occurs in another one. -/
def occurs (part : List Char) : List Char → Bool
  | [] => part.isEmpty
  | c :: cs => part.isPrefixOf (c :: cs) || occurs part cs

/-- What follows a tag, from behind its opening bracket on. -/
def afterTag? (cs : List Char) : Option (List Char) :=
  let inside (c : Char) : Bool := c.isAlphanum || c = '_' || c = '=' || c = ',' || c = ';'
  let body := match cs with
    | '/' :: rest => rest
    | _ => cs
  match body.dropWhile inside with
  | '>' :: rest => some rest
  | _ => none

/-- What follows a sequence for colours, from behind the escape on. -/
def afterColor? (cs : List Char) : Option (List Char) :=
  let inside (c : Char) : Bool := c.isDigit || c = ';' || c = '?'
  match cs with
  | '[' :: rest =>
    match rest.takeWhile inside, rest.dropWhile inside with
    | _ :: _, 'm' :: rest => some rest
    | _, _ => none
  | _ => none

/-- The text without what follows `mark` in the way that `after?` says, and without that mark. -/
def without (mark : Char) (after? : List Char → Option (List Char)) : Nat → List Char → List Char
  | 0, cs => cs
  | _, [] => []
  | fuel + 1, c :: cs =>
    match if c = mark then after? cs else none with
    | some rest => without mark after? fuel rest
    | none => c :: without mark after? fuel cs

/-- The text without tags.  There is none unless one is closed. -/
def dropTags (cs : List Char) : List Char :=
  if occurs "</>".toList cs then without '<' afterTag? cs.length cs else cs

/-- A line without sequences for colours.  There is none unless colours are reset. -/
def dropColors (line : List Char) : List Char :=
  if occurs "[0m".toList line then without '\x1b' afterColor? line.length line else line

/-- A message without markup.  Dropping a tag can make another one, so it is done several times. -/
def plain (text : String) : String :=
  let lines := Text.splitChars '\n' (dropTags (dropTags text.toList))
  let clean := ['\n'].intercalate (lines.map dropColors)
  String.ofList (dropTags (dropTags (dropTags clean)))

end Boardwright.Terminal
