/-!
# Cutting and joining text

Text is cut at every occurrence of one separator character, so that joining the parts with the
separator gives the text back.
-/

namespace Boardwright.Text

/-- The pieces of a character list between separators.  There is always at least one piece. -/
def splitChars (sep : Char) : List Char → List (List Char)
  | [] => [[]]
  | c :: cs =>
    if c = sep then [] :: splitChars sep cs
    else match splitChars sep cs with
      | piece :: pieces => (c :: piece) :: pieces
      | [] => [[c]]

/-- The parts of `s` between occurrences of `sep`. -/
def split (sep : Char) (s : String) : List String :=
  (splitChars sep s.toList).map String.ofList

/-- The parts with `sep` written between neighbours. -/
def join (sep : String) : List String → String
  | [] => ""
  | [part] => part
  | part :: parts => part ++ sep ++ join sep parts

/-- The text with every occurrence of one character replaced by another. -/
def replaceChar (old new : Char) (s : String) : String :=
  String.ofList (s.toList.map fun c => if c = old then new else c)

/-- A line feed for each carriage return with a line feed. -/
def unifyEnds : List Char → List Char
  | '\r' :: '\n' :: cs => '\n' :: unifyEnds cs
  | c :: cs => c :: unifyEnds cs
  | [] => []

/-- The text in upper case, for letters of the Latin alphabet. -/
def upper (s : String) : String := String.ofList (s.toList.map Char.toUpper)

/-- The text with blanks in front, so that it has at least `width` characters. -/
def padLeft (width : Nat) (s : String) : String :=
  String.ofList (List.replicate (width - s.length) ' ') ++ s

/-- The text with blanks behind, so that it has at least `width` characters. -/
def padRight (width : Nat) (s : String) : String :=
  s ++ String.ofList (List.replicate (width - s.length) ' ')

/-- Without carriage returns the ends of lines are as they should be. -/
theorem unifyEnds_eq_self {cs : List Char} (h : '\r' ∉ cs) : unifyEnds cs = cs := by
  induction cs with
  | nil => rfl
  | cons c cs ih =>
    rw [List.mem_cons, not_or] at h
    rw [unifyEnds, ih h.2]
    rintro _ rfl
    exact absurd rfl h.1

theorem splitChars_ne_nil (sep : Char) (cs : List Char) : splitChars sep cs ≠ [] := by
  induction cs with
  | nil => simp [splitChars]
  | cons c cs ih =>
    rw [splitChars]
    split
    · simp
    · split <;> simp

end Boardwright.Text
