import Boardwright.Toml.Token

/-!
# TOML keys

A key is a dotted sequence of parts.  A part is a bare word or stands between quotes.
-/

namespace Boardwright.Toml

/-- The parts of a written key, front to back. -/
def keyParts : Nat → List Char → Option (List String)
  | 0, _ => none
  | fuel + 1, cs =>
    match cs.dropWhile isBlank with
    | [] => some []
    | c :: rest =>
      if isBare c then
        let name := String.ofList ((c :: rest).takeWhile isBare)
        let more (cs : List Char) : Option (List String) := match cs with
          | [] => some [name]
          | d :: _ => if d = '.' then (keyParts fuel cs).map (name :: ·) else none
        match (c :: rest).dropWhile isBare with
        | [] => some [name]
        | d :: after => if isBlank d then more (after.dropWhile isBlank) else more (d :: after)
      else if c = '"' || c = '\x27' then
        match rest.dropWhile (· != c) with
        | [] => none
        | _ :: after => (keyParts fuel after).map (String.ofList (rest.takeWhile (· != c)) :: ·)
      else if c = '.' then
        match rest with
        | [] => none
        | d :: _ =>
          if isBare d || d = '"' || d = '\x27' || d = ' ' then keyParts fuel rest else none
      else none

/-- The parts of a written key.  There is at least one. -/
def splitKey (text : List Char) : Option (List String) :=
  match keyParts (text.length + 1) text with
  | some [] => none
  | parts => parts

end Boardwright.Toml
