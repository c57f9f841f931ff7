import Boardwright.Terminal.Wrap

/-!
# Blocks of lines

Text is shown as a block: its lines are filled up with blanks until all are equally wide.
-/

namespace Boardwright.Terminal

/-- The text with four blanks for each tab. -/
def expandTabs (cs : List Char) : List Char :=
  cs.flatMap fun c => if c = '\t' then [' ', ' ', ' ', ' '] else [c]

/-- The lines of a text as they are shown. -/
def shownText (text : String) : List Char := Text.unifyEnds (expandTabs text.toList)

/-- The lines, each filled up to the given width or to the widest of them. -/
def fill (width : Nat) (lines : List (List Char)) : List (List Char) :=
  let width := lines.foldl (fun n line => max n (columns line)) width
  lines.map fun line => line ++ List.replicate (width - columns line) ' '

/-- A text that is shown as a block.  A single line is not filled. -/
def block (text : String) : String :=
  match Text.splitChars '\n' (shownText text) with
  | [line] => String.ofList line
  | lines => String.ofList (['\n'].intercalate (fill 0 lines))

/-- A window of fixed size with a text in it.  Lines that do not fit are wrapped, and what is still
too much is cut off. -/
def window (width height : Nat) (text : String) : String :=
  let lines := Text.splitChars '\n' (wrap width (shownText text))
  let lines := lines ++ List.replicate (height - lines.length) []
  let lines := if lines.length = 1 && width = 0 then lines else fill width lines
  let lines := if width = 0 then lines else lines.map (cut width)
  String.ofList (['\n'].intercalate (lines.take height))

end Boardwright.Terminal
