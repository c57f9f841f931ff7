import Boardwright.Terminal.Piece

/-!
# Wrapping lines

Lines that are too long are broken between words, or inside a word that does not fit into a line by
itself.  The pen and the link are put down before each line break and taken up behind it.
-/

namespace Boardwright.Terminal

/-- A text while it is wrapped.  The word and the blanks in front of it are not yet placed. -/
structure Wrap where
  /-- What was placed, last part first. -/
  done : List (List Char) := []
  word : List Char := []
  blanks : List Char := []
  /-- Columns used in the last line, and those of the word. -/
  used : Nat := 0
  wordColumns : Nat := 0
  /-- The pen and the link behind the word, and behind what was placed. -/
  pen : Pen := {}
  link : Link := {}
  placedPen : Pen := {}
  placedLink : Link := {}
  deriving Inhabited

/-- The sequence that sets a link. -/
def Link.sequence (l : Link) : List Char :=
  ("\x1b]8;" ++ l.parameters ++ ";" ++ l.address ++ "\x07").toList

namespace Wrap

def addBlanks (w : Wrap) : Wrap :=
  { w with done := w.blanks :: w.done, used := w.used + w.blanks.length, blanks := [] }

def addWord (w : Wrap) : Wrap :=
  if w.word.isEmpty then w
  else
    let w := { w with placedPen := w.pen, placedLink := w.link }.addBlanks
    { w with done := w.word :: w.done, used := w.used + w.wordColumns, word := [], wordColumns := 0 }

/-- Blanks at the end of a line are kept if they fit. -/
def endBlanks (w : Wrap) (limit : Nat) : Wrap :=
  if w.wordColumns != 0 then w
  else if limit < w.used + w.blanks.length then { w with used := 0, blanks := [] }
  else { w with done := w.blanks :: w.done, blanks := [] }

def breakLine (w : Wrap) : Wrap :=
  let hasPen := !w.placedPen.isPlain
  let hasLink := w.placedLink != {}
  let noLink : Link := {}
  let text := (if hasPen then "\x1b[m".toList else []) ++
    (if hasLink then noLink.sequence else []) ++ ['\n'] ++
    (if hasLink then w.placedLink.sequence else []) ++
    (if hasPen then w.placedPen.sequence else [])
  { w with done := text :: w.done, used := 0, blanks := [] }

/-- Adds a piece that takes no column. -/
def addEmpty (w : Wrap) (limit : Nat) (p : Piece) : Wrap :=
  if p.text = ['\t'] then
    let w := w.addWord
    { w with blanks := w.blanks ++ p.text }
  else if p.text = ['\n'] then ((w.endBlanks limit).addWord).breakLine
  else
    let w := match p.effect with
      | .none => w
      | .pen codes => { w with pen := w.pen.apply codes }
      | .link link => { w with link }
    { w with word := w.word ++ p.text }

/-- Adds a piece to the word, which is broken if it gets too long. -/
def addToWord (w : Wrap) (limit : Nat) (p : Piece) : Wrap :=
  let w := if limit < w.wordColumns + p.columns then w.addWord else w
  let w := { w with word := w.word ++ p.text, wordColumns := w.wordColumns + p.columns }
  if limit < w.used + w.wordColumns + w.blanks.length then w.breakLine else w

/-- Adds a piece.  A line may also be broken behind a hyphen. -/
def add (limit : Nat) (w : Wrap) (p : Piece) : Wrap :=
  if p.columns = 0 then w.addEmpty limit p
  else if p.text = [' '] then
    let w := w.addWord
    { w with blanks := w.blanks ++ p.text }
  else if p.text = ['-'] then
    let w := w.addBlanks
    if w.used + w.wordColumns + p.columns ≤ limit then
      let w := w.addWord
      { w with done := p.text :: w.done, used := w.used + p.columns }
    else w.addToWord limit p
  else w.addToWord limit p

/-- The wrapped text. -/
def finish (w : Wrap) (limit : Nat) : List Char :=
  let w := (w.endBlanks limit).addWord
  let noLink : Link := {}
  w.done.reverse.flatten ++ (if w.placedLink = {} then [] else noLink.sequence) ++
    (if w.placedPen.isPlain then [] else "\x1b[m".toList)

end Wrap

/-- A text with lines of at most `limit` columns.  Without a limit it stays as it is. -/
def wrap (limit : Nat) (text : List Char) : List Char :=
  if limit = 0 then text else (((pieces text).foldl (Wrap.add limit) {}).finish limit)

end Boardwright.Terminal
