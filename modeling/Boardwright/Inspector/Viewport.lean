import Boardwright.Terminal.Block

/-!
# A window on a text

A window shows some lines of a text, from an offset on.  The offset stays between the top and the
last place at which the window is full, except that it does not move when the window is resized.
-/

namespace Boardwright

structure Viewport where
  width : Nat := 80
  height : Nat := 20
  lines : List String := []
  /-- The number of lines above the window. -/
  offset : Nat := 0
  deriving DecidableEq, Repr, Inhabited

namespace Viewport

/-- The lines of a text; a line may also end in a carriage return and a line feed. -/
def linesOf (text : String) : List String :=
  Text.split '\n' (String.ofList (Text.unifyEnds text.toList))

/-- Shows a text from its top. -/
def display (v : Viewport) (text : String) : Viewport :=
  { v with lines := linesOf text, offset := 0 }

/-- The offset at which the last line is at the bottom. -/
def bottom (v : Viewport) : Nat := v.lines.length - v.height

/-- Moves the window down, unless it is at the bottom. -/
def down (v : Viewport) (count : Nat) : Viewport :=
  if v.bottom ≤ v.offset || count = 0 then v
  else { v with offset := min (v.offset + count) v.bottom }

/-- Moves the window up, unless it is at the top. -/
def up (v : Viewport) (count : Nat) : Viewport :=
  if v.offset = 0 || count = 0 then v
  else { v with offset := min (v.offset - count) v.bottom }

/-- Moves the window by lines, half its height or its height. -/
def press (v : Viewport) (key : String) : Viewport :=
  match key with
  | "pgdown" | "f" | " " => v.down v.height
  | "pgup" | "b" => v.up v.height
  | "d" | "ctrl+d" => v.down (v.height / 2)
  | "u" | "ctrl+u" => v.up (v.height / 2)
  | "down" | "j" => v.down 1
  | "up" | "k" => v.up 1
  | _ => v

/-- The lines in the window. -/
def visible (v : Viewport) : List String := (v.lines.drop v.offset).take v.height

/-- The window with its lines. -/
def render (v : Viewport) : String :=
  Terminal.window v.width v.height (Text.join "\n" v.visible)

/-- How much of the text lies above, in percent.  A text that fits is seen to its end. -/
def percent (v : Viewport) : Float :=
  if v.lines.length ≤ v.height then 100
  else
    let part := v.offset.toFloat / (v.lines.length - v.height).toFloat
    min 1 part * 100

/-- The nearest whole number; a half goes to the even neighbour. -/
def toWhole (x : Float) : Nat :=
  let low := x.floor.toUInt64.toNat
  let rest := x - x.floor
  if rest < 0.5 || (rest == 0.5 && low % 2 = 0) then low else low + 1

end Viewport

end Boardwright
