import Boardwright.Text.Cluster
import Boardwright.Text.Wide

/-!
# Columns on a terminal

How many columns a text takes.  A cluster takes as many as its characters, with two exceptions:
pictographs are as wide as their last presentation sign says, and flags and syllables as wide as
their first character.  Control sequences take none; `Mode` tells where in one the terminal is.
-/

namespace Boardwright.Terminal

open Text (Binding Joint inRanges)

/-! ## Clusters -/

def charColumns (c : Char) : Nat :=
  match Binding.of c with
  | .control | .extend | .joiner => 0
  | .regional => 2
  | .pictograph => if inRanges Text.emojiRanges c then 2 else 1
  | _ =>
    if c.toNat = 0x2e3a then 3
    else if c.toNat = 0x2e3b then 4
    else if inRanges Text.wideRanges c then 2
    else 1

/-- The columns of a cluster, given its first character and the others. -/
def clusterColumns (first : Char) (others : List Char) : Nat :=
  match Binding.of first with
  | .pictograph => others.foldl (fun n c =>
      if c.toNat = 0xfe0e then 1 else if c.toNat = 0xfe0f then 2 else n) (charColumns first)
  | .regional | .leading => charColumns first
  | _ => others.foldl (fun n c => n + charColumns c) (charColumns first)

/-- The first cluster of a text, its columns and what follows it. -/
def cluster (c : Char) (cs : List Char) : List Char × Nat × List Char :=
  let (others, rest) := (Joint.next .plain (.of c)).followers cs
  (c :: others, clusterColumns c others, rest)

/-! ## Control sequences -/

/-- Where in a control sequence the terminal is. -/
inductive Mode where
  /-- Outside. -/
  | ground
  | escape
  | escapeIntermediate
  | sequenceEntry
  | sequenceParameter
  | sequenceIntermediate
  | deviceEntry
  | deviceParameter
  | deviceIntermediate
  /-- In a string for a device. -/
  | deviceString
  /-- In a string for the operating system, which a bell ends. -/
  | systemString
  /-- In a string of any other kind. -/
  | otherString
  deriving DecidableEq, Repr

namespace Mode

/-- What starts with a byte that is no character of its own. -/
def opening (b : Nat) : Mode :=
  if b = 0x90 then .deviceEntry
  else if b = 0x9b then .sequenceEntry
  else if b = 0x9d then .systemString
  else if b = 0x98 || b = 0x9e || b = 0x9f then .otherString
  else .ground

/-- The mode behind an escape and a byte of ASCII. -/
def afterEscape (b : Nat) : Mode :=
  if b < 0x20 || b = 0x7f then .escape
  else if b < 0x30 then .escapeIntermediate
  else if b = 0x50 then .deviceEntry
  else if b = 0x5b then .sequenceEntry
  else if b = 0x5d then .systemString
  else if b = 0x58 || b = 0x5e || b = 0x5f then .otherString
  else .ground

/-- The mode behind one more byte. -/
def next (m : Mode) (b : Nat) : Mode :=
  let isString := m = .deviceString || m = .systemString || m = .otherString
  if b = 0x18 || b = 0x1a then .ground
  else if b = 0x1b then if m = .deviceEntry then .deviceString else .escape
  else if isString then
    if b = 0x9c || (b = 0x07 && m = .systemString) then .ground
    else if m = .otherString && 0x80 ≤ b then opening b
    else m
  else if 0x80 ≤ b then opening b
  else match m with
    | .escape => afterEscape b
    | .deviceEntry =>
      if 0x08 ≤ b && b ≤ 0x0d then .deviceString
      else if b < 0x20 || b = 0x7f then m
      else if b < 0x30 then .deviceIntermediate
      else if b < 0x40 then .deviceParameter
      else .deviceString
    | .deviceParameter =>
      if b < 0x20 || b = 0x7f then m
      else if b < 0x30 then .deviceIntermediate
      else if b < 0x40 then m
      else .deviceString
    | .deviceIntermediate => if b < 0x30 || b = 0x7f then m else .deviceString
    | .escapeIntermediate => if b < 0x30 || b = 0x7f then m else .ground
    | .sequenceEntry | .sequenceParameter =>
      if b < 0x20 || b = 0x7f then m
      else if b < 0x30 then .sequenceIntermediate
      else if b < 0x40 then .sequenceParameter
      else .ground
    | .sequenceIntermediate => if b < 0x30 || b = 0x7f then m else .ground
    | _ => m

/-- Whether characters above ASCII are passed on byte by byte, so that they are not seen. -/
def hides (m : Mode) : Bool := m = .deviceString || m = .systemString

/-- The mode behind a character whose bytes are passed on. -/
def nextChar (m : Mode) (c : Char) : Mode :=
  (String.utf8EncodeChar c).foldl (fun m b => m.next b.toNat) m

/-- Whether a character of ASCII is seen. -/
def shows (m : Mode) (c : Char) : Bool := m = .ground && ' ' ≤ c && c ≤ '~'

/-- Whether a character of ASCII is a command of its own. -/
def commands (m : Mode) (c : Char) : Bool :=
  let n := c.toNat
  if n = 0x1b then false
  else match m with
    | .ground => n < 0x20 || n = 0x7f
    | .escape | .escapeIntermediate | .sequenceEntry | .sequenceParameter
    | .sequenceIntermediate => n < 0x20
    | .deviceEntry | .deviceParameter | .deviceIntermediate => n = 0x18 || n = 0x1a
    | _ => false

end Mode

/-- The columns of a text that starts in the given mode.  Each round reads at least one
character. -/
def columnsFrom : Nat → Mode → List Char → Nat
  | 0, _, _ => 0
  | _, _, [] => 0
  | fuel + 1, m, c :: cs =>
    if c.toNat < 0x80 then (if m.shows c then 1 else 0) + columnsFrom fuel (m.next c.toNat) cs
    else if m.hides then columnsFrom fuel (m.nextChar c) cs
    else
      let (_, width, rest) := cluster c cs
      width + columnsFrom fuel .ground rest

/-- The columns of a line. -/
def columns (line : List Char) : Nat := columnsFrom line.length .ground line

/-- The part of a line that fits into a number of columns.  Control sequences are kept, also those
behind that part; once a character does not fit, `full` is set. -/
def cutFrom (width : Nat) : Nat → Mode → Nat → Bool → List Char → List Char
  | 0, _, _, _, _ => []
  | _, _, _, _, [] => []
  | fuel + 1, m, used, full, c :: cs =>
    if c.toNat < 0x80 then
      if m.shows c then
        if full || used = width then cutFrom width fuel m used true cs
        else c :: cutFrom width fuel m (used + 1) full cs
      else if full && m.commands c then cutFrom width fuel m used full cs
      else c :: cutFrom width fuel (m.next c.toNat) used full cs
    else if m.hides then c :: cutFrom width fuel (m.nextChar c) used full cs
    else
      let (text, size, rest) := cluster c cs
      if full || width < used + size then cutFrom width fuel m used true rest
      else text ++ cutFrom width fuel .ground (used + size) full rest

/-- A line without what does not fit into a number of columns. -/
def cut (width : Nat) (line : List Char) : List Char :=
  if columns line ≤ width then line else cutFrom width line.length .ground 0 false line

end Boardwright.Terminal
