import Boardwright.Inspector
import Boardwright.Proofs.Paths

/-!
# Runs of the inspector

The inspector is driven by messages, and nothing is assumed about them: any keys and
any sizes, in any order, also behind the key that ends the dialogue.  `Faithful` is
what holds of it all along.

* `pressInList_faithful` and `pressInView_faithful` are about a key in either state,
  `update_faithful` is about a message and `run_faithful` about any number of them.
* `update_viewing` and `run_viewing` say what stays as long as an artifact is open.
* `view_of_shows`: the screen shows the path of the artifact whose body is in the
  window.  The text that stands in for the path of no artifact is never used.

`shows_selected_artifact` is the result.
-/

namespace Boardwright

namespace Viewport

/-- All the text that the window is on. -/
def content (v : Viewport) : String := Text.join "\n" v.lines

theorem down_lines (v : Viewport) (count : Nat) : (v.down count).lines = v.lines := by
  unfold down
  split
  · rfl
  · rfl

theorem up_lines (v : Viewport) (count : Nat) : (v.up count).lines = v.lines := by
  unfold up
  split
  · rfl
  · rfl

/-- Keys move the window and leave the text as it is. -/
theorem press_lines (v : Viewport) (key : String) : (v.press key).lines = v.lines := by
  unfold press
  split
  any_goals exact down_lines ..
  any_goals exact up_lines ..
  rfl

/-- What is displayed is the text, but for the ends of its lines. -/
theorem content_display (v : Viewport) (text : String) :
    (v.display text).content = String.ofList (Text.unifyEnds text.toList) :=
  Text.join_split '\n' _

end Viewport

namespace Inspector

/-- The inspector after some messages. -/
def run (i : Inspector) (messages : List Message) : Inspector := messages.foldl update i

/-- The screen with an artifact open. -/
def openView (i : Inspector) (a : Artifact) : String :=
  " Board Inspector  " ++ i.title ++ "\n\n" ++
    (i.viewport.render ++ "\n" ++ Terminal.block (a.path ++ " • " ++
      Text.padLeft 3 (toString (Viewport.toWhole i.viewport.percent)) ++
      "% • ↑/↓ scroll • esc back • q quit"))

/-- The artifact is the selected one, and the window is on its body. -/
structure Shows (i : Inspector) (a : Artifact) : Prop where
  selected : i.items[i.selected]? = some a
  content : i.viewport.content = String.ofList (Text.unifyEnds a.body.toList)

theorem view_of_shows {i : Inspector} {a : Artifact} (h : i.Shows a) (hviewing : i.viewing = true) :
    i.view = i.openView a := by
  unfold view openView artifactView
  rw [if_pos hviewing, h.selected]
  rfl

/-- The selection is one of the artifacts, unless there is none, and an open artifact is the
selected one. -/
structure Faithful (items : List Artifact) (i : Inspector) : Prop where
  kept : i.items = items
  selected : i.selected < items.length ∨ items = [] ∧ i.selected = 0
  shows : i.viewing = true → ∃ a, i.Shows a

section Step

variable {items : List Artifact} {i : Inspector}

theorem start_faithful (title : String) (items : List Artifact) :
    Faithful items { title, items } where
  kept := rfl
  selected := by
    cases items with
    | nil => exact .inr ⟨rfl, rfl⟩
    | cons a items => exact .inl (Nat.zero_lt_succ _)
  shows hopen := by cases hopen

theorem select_faithful (h : Faithful items i) (hviewing : i.viewing = false) {n : Nat}
    (hn : n < items.length ∨ items = [] ∧ n = 0) : Faithful items { i with selected := n } := by
  refine ⟨h.kept, hn, fun hopen => ?_⟩
  rw [hviewing] at hopen
  cases hopen

theorem pressInList_faithful (h : Faithful items i) (hviewing : i.viewing = false) (key : String) :
    Faithful items (i.pressInList key) := by
  have hup : Faithful items { i with selected := i.selected - 1 } := by
    apply select_faithful h hviewing
    rcases h.selected with hlt | ⟨hnone, hzero⟩
    · left
      omega
    · exact .inr ⟨hnone, by omega⟩
  have hdown : Faithful items
      (if i.selected + 1 < i.items.length then { i with selected := i.selected + 1 } else i) := by
    split
    · next hlt =>
      rw [h.kept] at hlt
      exact select_faithful h hviewing (.inl hlt)
    · exact h
  unfold pressInList
  split
  · exact hup
  · exact hup
  · exact hdown
  · exact hdown
  · -- Only here an artifact is opened, and it is the selected one.
    split
    · next a ha =>
      exact ⟨h.kept, h.selected, fun _ => ⟨a, ha, Viewport.content_display ..⟩⟩
    · exact h
  · exact h

theorem pressInView_faithful (h : Faithful items i) (hviewing : i.viewing = true) (key : String) :
    Faithful items (i.pressInView key) := by
  obtain ⟨a, ha⟩ := h.shows hviewing
  unfold pressInView
  split
  · exact ⟨h.kept, h.selected, fun hopen => by cases hopen⟩
  · refine ⟨h.kept, h.selected, fun _ => ⟨a, ha.selected, ?_⟩⟩
    show Text.join "\n" (i.viewport.press key).lines = _
    rw [Viewport.press_lines]
    exact ha.content

theorem update_key (i : Inspector) (name : String) :
    i.update (.key name) =
      if (Message.key name).quits then i
      else if i.viewing then i.pressInView name
      else i.pressInList name := rfl

theorem update_faithful (h : Faithful items i) (m : Message) : Faithful items (i.update m) := by
  cases m with
  | resize width height =>
    refine ⟨h.kept, h.selected, fun hopen => ?_⟩
    obtain ⟨a, ha⟩ := h.shows hopen
    exact ⟨a, ha.selected, ha.content⟩
  | key name =>
    rw [update_key]
    split
    · exact h
    · split
      · next hviewing => exact pressInView_faithful h hviewing name
      · next hviewing => exact pressInList_faithful h (Bool.eq_false_iff.2 hviewing) name

/-- While an artifact is open, a message changes neither the selection nor the text. -/
theorem update_viewing (hviewing : i.viewing = true) (m : Message) :
    (i.update m).selected = i.selected ∧ (i.update m).viewport.lines = i.viewport.lines := by
  cases m with
  | resize width height => exact ⟨rfl, rfl⟩
  | key name =>
    rw [update_key, if_pos hviewing]
    split
    · exact ⟨rfl, rfl⟩
    · unfold pressInView
      split
      · exact ⟨rfl, rfl⟩
      · exact ⟨rfl, Viewport.press_lines ..⟩

end Step

/-! ## Any number of messages -/

theorem run_faithful {items : List Artifact} {i : Inspector} (h : Faithful items i)
    (messages : List Message) : Faithful items (i.run messages) := by
  induction messages generalizing i with
  | nil => exact h
  | cons m messages ih => exact ih (update_faithful h m)

/-- As long as an artifact is open, the selection and the text stay the same.  The last of the
messages may close it. -/
theorem run_viewing {i : Inspector} {messages : List Message}
    (h : ∀ n < messages.length, (i.run (messages.take n)).viewing = true) :
    (i.run messages).selected = i.selected ∧
      (i.run messages).viewport.lines = i.viewport.lines := by
  induction messages generalizing i with
  | nil => exact ⟨rfl, rfl⟩
  | cons m messages ih =>
    obtain ⟨hselected, hlines⟩ := update_viewing (h 0 (Nat.zero_lt_succ _)) m
    obtain ⟨hselected', hlines'⟩ := ih fun n hn => h (n + 1) (Nat.succ_lt_succ hn)
    exact ⟨hselected'.trans hselected, hlines'.trans hlines⟩

/-- Whatever messages have come, the selected artifact is one of the list, or there is none and
the selection is the first place.  An artifact is open only if there is one; then it is the
selected one, its body is in the window, as it is if it has no carriage returns, and its path
below.  As long as it is open the selection and the text in the window do not change. -/
theorem shows_selected_artifact (title : String) (items : List Artifact)
    (messages : List Message) :
    let i : Inspector := run { title, items } messages
    (i.selected < items.length ∨ items = [] ∧ i.selected = 0) ∧
      (i.viewing = true →
        ∃ a, items[i.selected]? = some a ∧
          i.viewport.content = String.ofList (Text.unifyEnds a.body.toList) ∧
          ('\r' ∉ a.body.toList → i.viewport.content = a.body) ∧
          i.view = i.openView a) ∧
      ∀ more,
        (∀ n < more.length, (i.run (more.take n)).viewing = true) →
        (i.run more).selected = i.selected ∧
          (i.run more).viewport.lines = i.viewport.lines := by
  intro i
  have h : Faithful items i := run_faithful (start_faithful title items) messages
  refine ⟨h.selected, fun hviewing => ?_, fun more hmore => run_viewing hmore⟩
  obtain ⟨a, ha⟩ := h.shows hviewing
  have hselected := ha.selected
  rw [h.kept] at hselected
  refine ⟨a, hselected, ha.content, fun hplain => ?_, view_of_shows ha hviewing⟩
  rw [ha.content, Text.unifyEnds_eq_self hplain, String.ofList_toList]

/-- Two artifacts; the second one has lines with different ends. -/
def twoArtifacts : List Artifact := [
  { backend := "sdk", path := "app/constants.ir.json", body := "constants" },
  { backend := "xps", path := "system.mhs", body := "BEGIN\r\nEND\n" }]

theorem shows_selected_artifact_second :
    let i : Inspector := run { title := "board.toml", items := twoArtifacts }
      [.key "down", .key "j", .key "enter"]
    (∃ a, twoArtifacts[i.selected]? = some a ∧ i.viewport.content = "BEGIN\nEND\n" ∧
        i.view = i.openView a) ∧
      (i.run [.key "up", .resize 40 10, .key "k", .key "esc"]).selected = 1 := by
  intro i
  obtain ⟨-, hview, hstays⟩ := shows_selected_artifact "board.toml" twoArtifacts
    [.key "down", .key "j", .key "enter"]
  constructor
  · obtain ⟨a, ha, -, -, hscreen⟩ := hview (by decide)
    exact ⟨a, ha, by decide, hscreen⟩
  · have hselected : i.selected = 1 := by decide
    exact (hstays [.key "up", .resize 40 10, .key "k", .key "esc"] (by decide)).1.trans hselected

end Inspector

end Boardwright
