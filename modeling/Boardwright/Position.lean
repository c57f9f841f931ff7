/-!
# Source positions
-/

namespace Boardwright

/-- A place in a board description.  Without a file the place is unknown; line zero stands for the
whole file. -/
structure Pos where
  file : String := ""
  line : Int := 0
  deriving DecidableEq, Repr, Inhabited

end Boardwright
