import Boardwright.Artifact
import Boardwright.Inspector.Viewport

/-!
# The inspector

A terminal dialogue to look through artifacts.  It shows either the list of all artifacts, with one
of them selected, or the selected artifact in a window.
-/

namespace Boardwright

structure Inspector where
  title : String
  items : List Artifact
  /-- The selected artifact. -/
  selected : Nat := 0
  /-- The selected artifact is open. -/
  viewing : Bool := false
  viewport : Viewport := {}
  deriving DecidableEq, Repr, Inhabited

namespace Inspector

/-- What reaches the inspector from the terminal. -/
inductive Message where
  | resize (width height : Nat)
  | key (name : String)
  deriving DecidableEq, Repr

/-- Whether a message ends the dialogue. -/
def Message.quits : Message → Bool
  | key name => name == "q" || name == "ctrl+c"
  | _ => false

/-- A key while the list is shown. -/
def pressInList (i : Inspector) (key : String) : Inspector :=
  match key with
  | "up" | "k" => { i with selected := i.selected - 1 }
  | "down" | "j" => if i.selected + 1 < i.items.length then { i with selected := i.selected + 1 } else i
  | "enter" =>
    match i.items[i.selected]? with
    | some a => { i with viewing := true, viewport := i.viewport.display a.body }
    | none => i
  | _ => i

/-- A key while an artifact is shown. -/
def pressInView (i : Inspector) (key : String) : Inspector :=
  match key with
  | "esc" => { i with viewing := false }
  | _ => { i with viewport := i.viewport.press key }

/-- The inspector after a message.  Title, blank line and help take four lines of the terminal. -/
def update (i : Inspector) (m : Message) : Inspector :=
  match m with
  | .resize width height => { i with viewport := { i.viewport with width, height := max (height - 4) 1 } }
  | .key name =>
    if m.quits then i
    else if i.viewing then i.pressInView name
    else i.pressInList name

/-! ## What is seen -/

/-- One line of the list.  The selected one is a block as a whole, and of any other one the backend
and the path are. -/
def listLine (selected : Bool) (a : Artifact) : String :=
  let backend := Text.padRight 8 a.backend
  (if selected then Terminal.block ("> " ++ backend ++ " " ++ a.path)
    else "  " ++ Terminal.block backend ++ " " ++ Terminal.block a.path) ++ "\n"

def listView (i : Inspector) : String :=
  let rows := i.items.mapIdx fun n a => listLine (n = i.selected) a
  (if i.items.isEmpty then "No artifacts generated.\n" else "") ++ String.join rows ++
    "\n↑/↓ select • enter open • q quit"

/-- The open artifact with a line of help below it. -/
def artifactView (i : Inspector) : String :=
  let path := (i.items[i.selected]?.map (·.path)).getD ""
  let percent := Text.padLeft 3 (toString (Viewport.toWhole i.viewport.percent))
  i.viewport.render ++ "\n" ++
    Terminal.block (path ++ " • " ++ percent ++ "% • ↑/↓ scroll • esc back • q quit")

/-- The screen. -/
def view (i : Inspector) : String :=
  " Board Inspector  " ++ i.title ++ "\n\n" ++ if i.viewing then i.artifactView else i.listView

end Inspector

end Boardwright
