import Boardwright.Text.Quoted

/-!
# JSON documents

A document keeps its members in the order in which they were added.  `Json.pretty` is the written
form of generated files: two blanks per level, one member per line, and every character that could
end a script or a line in a browser written by its number.
-/

namespace Boardwright

inductive Json where
  | null
  | bool (value : Bool)
  | number (value : Int)
  | string (value : String)
  | array (items : List Json)
  | object (members : List (String × Json))
  deriving Repr, Inhabited

namespace Json

/-- The written form of one character of a string. -/
def escape (c : Char) : List Char :=
  let n := c.toNat
  if n = 0x22 || n = 0x5c then ['\\', c]
  else if n = 0x08 then ['\\', 'b']
  else if n = 0x0c then ['\\', 'f']
  else if n = 0x0a then ['\\', 'n']
  else if n = 0x0d then ['\\', 'r']
  else if n = 0x09 then ['\\', 't']
  else if n < 0x20 || n = 0x3c || n = 0x3e || n = 0x26 || n = 0x2028 || n = 0x2029 then
    ['\\', 'u'] ++ Text.hex 4 n
  else [c]

def encodeString (s : String) : String :=
  "\"" ++ String.ofList (s.toList.flatMap escape) ++ "\""

/-- A line break followed by the indentation of a level. -/
def newline (level : Nat) : String :=
  "\n" ++ String.ofList (List.replicate (2 * level) ' ')

mutual

/-- The written form of a value that starts on a line of the given level. -/
def prettyAt (level : Nat) : Json → String
  | null => "null"
  | bool true => "true"
  | bool false => "false"
  | number n => toString n
  | string s => encodeString s
  | array [] => "[]"
  | array (x :: xs) =>
    "[" ++ newline (level + 1) ++ prettyAt (level + 1) x ++ prettyItems (level + 1) xs ++
      newline level ++ "]"
  | object [] => "\x7b\x7d"
  | object ((k, v) :: ms) =>
    "\x7b" ++ newline (level + 1) ++ encodeString k ++ ": " ++ prettyAt (level + 1) v ++
      prettyMembers (level + 1) ms ++ newline level ++ "\x7d"

def prettyItems (level : Nat) : List Json → String
  | [] => ""
  | x :: xs => "," ++ newline level ++ prettyAt level x ++ prettyItems level xs

def prettyMembers (level : Nat) : List (String × Json) → String
  | [] => ""
  | (k, v) :: ms =>
    "," ++ newline level ++ encodeString k ++ ": " ++ prettyAt level v ++ prettyMembers level ms

end

/-- The document over several lines, without a final line break. -/
def pretty (j : Json) : String := prettyAt 0 j

/-- A member that is left out when its list is empty. -/
def listMember (key : String) (items : List Json) : List (String × Json) :=
  if items.isEmpty then [] else [(key, array items)]

/-- A member that is left out when its text is empty. -/
def textMember (key value : String) : List (String × Json) :=
  if value.isEmpty then [] else [(key, string value)]

/-- A member that is only written when it holds. -/
def flagMember (key : String) (value : Bool) : List (String × Json) :=
  if value then [(key, bool true)] else []

def strings (items : List String) : List Json := items.map string

end Json

end Boardwright
