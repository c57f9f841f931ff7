import Boardwright.Text.Split
import Boardwright.Toml.Value

/-!
# Lenient readings

Settings are read leniently: an item counts as a text, a list of texts or a truth value if there is
an obvious way to take it as one.
-/

namespace Boardwright.Toml

namespace Real

/-- The number as it is held, with the fewest digits. -/
def text : Real → String
  | finite negative size => (if negative then "-" else "") ++ (Binary.nearest size).shortest.positional
  | infinite negative => if negative then "-Inf" else "+Inf"
  | undefined => "NaN"

/-- Whether the number is held as zero. -/
def isZero : Real → Bool
  | finite _ size => (Binary.nearest size).mantissa == 0
  | _ => false

end Real

namespace Item

/-- Scalars have a text. -/
def text? : Item → Option String
  | string s => some s
  | integer n => some (toString n.toInt)
  | unsigned n => some (toString n)
  | real r => some r.text
  | boolean b => some (if b then "1" else "0")
  | _ => none

/-- A text is a list with commas between its parts, and any other scalar a list of one. -/
def texts? : Item → Option (List String)
  | string s => some (if s = "" then [] else Text.split ',' s)
  | array items => items.mapM text?
  | table t => if t.entries.isEmpty then some [] else none
  | item => item.text?.map ([·])

/-- The truth value that a word stands for. -/
def truth? (word : String) : Option Bool :=
  if ["1", "t", "T", "TRUE", "true", "True"].contains word then some true
  else if ["0", "f", "F", "FALSE", "false", "False"].contains word then some false
  else none

/-- Numbers are true unless they are zero. -/
def boolean? : Item → Option Bool
  | boolean b => some b
  | integer n => some (n != 0)
  | unsigned n => some (n != 0)
  | real r => some !r.isZero
  | string s => if s = "" then some false else truth? s
  | _ => none

end Item

end Boardwright.Toml
