import Boardwright.Text.GraphemeBreak

/-!
# Clusters

A cluster is what a reader takes for one character: a letter with its marks, a syllable, a flag of
two letters or several pictographs that are joined.  Whether a character still belongs to a cluster
depends on the last characters of it, of which `Joint` keeps what matters.
-/

namespace Boardwright.Text

def inRanges (ranges : List (Nat × Nat)) (c : Char) : Bool :=
  ranges.any fun (first, last) => first ≤ c.toNat && c.toNat ≤ last

/-- How a character binds to its neighbours. -/
inductive Binding where
  | other
  | control
  | extend
  | joiner
  | spacing
  | prepend
  | regional
  | pictograph
  | leading
  | vowel
  | trailing
  /-- A syllable that can take a trailing consonant. -/
  | openSyllable
  | closedSyllable
  deriving DecidableEq, Repr

def Binding.of (c : Char) : Binding :=
  let n := c.toNat
  let within (first last : Nat) : Bool := first ≤ n && n ≤ last
  if n < 0x80 then if n < 0x20 || n = 0x7f then .control else .other
  else if n = 0x200d then .joiner
  else if within 0x1100 0x115f || within 0xa960 0xa97c then .leading
  else if within 0x1160 0x11a7 || within 0xd7b0 0xd7c6 then .vowel
  else if within 0x11a8 0x11ff || within 0xd7cb 0xd7fb then .trailing
  else if within 0xac00 0xd7a3 then
    if (n - 0xac00) % 28 = 0 then .openSyllable else .closedSyllable
  else if within 0x1f1e6 0x1f1ff then .regional
  else if inRanges controlRanges c then .control
  else if inRanges extendRanges c then .extend
  else if inRanges spacingRanges c then .spacing
  else if inRanges prependRanges c then .prepend
  else if inRanges pictographRanges c then .pictograph
  else .other

/-- The end of a cluster, as far as it matters for what follows. -/
inductive Joint where
  | plain
  | control
  | prepend
  | leading
  | openSyllable
  | closedSyllable
  | pictograph
  | joinedPictograph
  | oneRegional
  | twoRegionals
  deriving DecidableEq, Repr

namespace Joint

/-- Whether a character with the given binding still belongs to the cluster. -/
def admits (j : Joint) (b : Binding) : Bool :=
  if j = .control || b = .control then false
  else match b with
    | .extend | .joiner | .spacing => true
    | .leading | .closedSyllable => j = .leading || j = .prepend
    | .openSyllable => j = .leading || j = .prepend
    | .vowel => j = .leading || j = .openSyllable || j = .prepend
    | .trailing => j = .openSyllable || j = .closedSyllable || j = .prepend
    | .pictograph => j = .joinedPictograph || j = .prepend
    | .regional => j = .oneRegional || j = .prepend
    | _ => j = .prepend

/-- The end of a cluster, or of a new one, after one more character. -/
def next (j : Joint) : Binding → Joint
  | .control => .control
  | .prepend => .prepend
  | .leading => .leading
  | .vowel | .openSyllable => .openSyllable
  | .trailing | .closedSyllable => .closedSyllable
  | .pictograph => .pictograph
  | .extend => if j = .pictograph then .pictograph else .plain
  | .joiner => if j = .pictograph then .joinedPictograph else .plain
  | .regional => if j = .oneRegional then .twoRegionals else .oneRegional
  | .spacing | .other => .plain

/-- The characters that still belong to a cluster, and those behind it. -/
def followers (j : Joint) : List Char → List Char × List Char
  | [] => ([], [])
  | c :: cs =>
    if j.admits (.of c) then
      let (more, rest) := followers (j.next (.of c)) cs
      (c :: more, rest)
    else ([], c :: cs)

end Joint

end Boardwright.Text
