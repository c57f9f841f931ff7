import Boardwright.Text.Split

/-!
# Slash-separated paths

Paths are cleaned by looking at their text only: empty and `.` components vanish, `..` removes the
component before it, and a rooted path never climbs above its root.
-/

namespace Boardwright.Path

def isRooted (path : String) : Bool := path.toList.head? == some '/'

/-- Adds one component to the components kept so far, innermost first. -/
def keep (rooted : Bool) (kept : List String) (part : String) : List String :=
  if part = "" || part = "." then kept
  else if part = ".." then
    match kept with
    | [] => if rooted then [] else [".."]
    | last :: rest => if last = ".." then ".." :: kept else rest
  else part :: kept

/-- The components that remain after cleaning, outermost first. -/
def components (path : String) : List String :=
  ((Text.split '/' path).foldl (keep (isRooted path)) []).reverse

/-- The shortest path that means the same as `path`.  A path without components is `.`. -/
def clean (path : String) : String :=
  let body := Text.join "/" (components path)
  if isRooted path then "/" ++ body
  else if body = "" then "." else body

/-- The non-empty parts joined by slashes and cleaned; no part at all gives the empty path. -/
def join (parts : List String) : String :=
  match parts.filter (· != "") with
  | [] => ""
  | parts => clean (Text.join "/" parts)

/-- The directory that holds the last component. -/
def parent (path : String) : String :=
  clean (String.ofList (path.toList.reverse.dropWhile (· != '/')).reverse)

end Boardwright.Path
