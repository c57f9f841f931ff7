import Mathlib.Data.List.Infix

/-!
# How texts begin and end

Generated lines are recognised by how they begin, generated names also by how
they end.  The lemmas here settle both for a text that is put together from a
fixed piece and an unknown one, so that only fixed pieces have to be compared.
-/

namespace Boardwright.Text

/-- Whether a line begins with a text. -/
def begins (start line : String) : Bool := start.toList.isPrefixOf line.toList

/-- Whether a line ends with a text. -/
def ends (last line : String) : Bool := last.toList.isSuffixOf line.toList

/-- The lines that begin with one of some texts. -/
def linesFrom (starts lines : List String) : List String :=
  lines.filter fun line => starts.any (begins · line)

@[simp] theorem begins_self_append (start rest : String) : begins start (start ++ rest) = true := by
  unfold begins
  rw [List.isPrefixOf_iff_prefix, String.toList_append]
  exact List.prefix_append ..

@[simp] theorem ends_append_self (first last : String) : ends last (first ++ last) = true := by
  unfold ends
  rw [List.isSuffixOf_iff_suffix, String.toList_append]
  exact List.suffix_append ..

/-- A line whose first piece differs from a text does not begin with that text. -/
theorem not_begins_append {start head : String}
    (h : start.toList.take head.toList.length ≠ head.toList.take start.toList.length)
    (rest : String) : begins start (head ++ rest) = false := by
  rw [Bool.eq_false_iff]
  intro hbegins
  unfold begins at hbegins
  rw [List.isPrefixOf_iff_prefix, String.toList_append] at hbegins
  obtain ⟨tail, htail⟩ := hbegins
  -- Both sides are cut to the length of the shorter of the two pieces.
  have hcut := congrArg (List.take (min start.toList.length head.toList.length)) htail
  rw [List.take_append_of_le_length (by omega), List.take_append_of_le_length (by omega)] at hcut
  rcases Nat.le_total start.toList.length head.toList.length with hle | hle
  · rw [Nat.min_eq_left hle] at hcut
    apply h
    rw [List.take_of_length_le hle, ← hcut, List.take_length]
  · rw [Nat.min_eq_right hle] at hcut
    apply h
    rw [List.take_of_length_le hle, hcut, List.take_length]

/-- A text whose first piece differs from another text is not that text. -/
theorem append_ne {text head : String}
    (h : text.toList.take head.toList.length ≠ head.toList.take text.toList.length)
    (rest : String) : head ++ rest ≠ text := by
  intro heq
  have hnot := not_begins_append h rest
  have hself : begins text text = true := List.isPrefixOf_iff_prefix.2 List.prefix_rfl
  rw [heq, hself] at hnot
  cases hnot

theorem linesFrom_append (starts lines lines' : List String) :
    linesFrom starts (lines ++ lines') = linesFrom starts lines ++ linesFrom starts lines' :=
  List.filter_append ..

theorem linesFrom_flatMap {α : Type} (starts : List String) (f : α → List String) (as : List α) :
    linesFrom starts (as.flatMap f) = as.flatMap fun a => linesFrom starts (f a) :=
  List.filter_flatMap

/-- Lines that all begin as asked for are all kept. -/
theorem linesFrom_eq_self {starts lines : List String}
    (h : ∀ line ∈ lines, starts.any (begins · line) = true) : linesFrom starts lines = lines :=
  List.filter_eq_self.2 h

theorem linesFrom_eq_nil {starts lines : List String}
    (h : ∀ line ∈ lines, starts.any (begins · line) = false) : linesFrom starts lines = [] :=
  List.filter_eq_nil_iff.2 fun line hline => by simp [h line hline]

/-- Of the lines that begin in some ways, those that begin in one of them. -/
theorem linesFrom_linesFrom {start : String} {starts : List String} (h : start ∈ starts)
    (lines : List String) :
    linesFrom [start] (linesFrom starts lines) = linesFrom [start] lines := by
  unfold linesFrom
  rw [List.filter_filter]
  refine List.filter_congr fun line _ => ?_
  rw [Bool.and_eq_left_iff_imp]
  intro hstart
  simp only [List.any_cons, List.any_nil, Bool.or_false] at hstart
  exact List.any_eq_true.2 ⟨start, h, hstart⟩

/-- A longer start is rarer. -/
theorem begins_of_begins_append {start more line : String}
    (h : begins (start ++ more) line = true) : begins start line = true := by
  unfold begins at h ⊢
  rw [List.isPrefixOf_iff_prefix, String.toList_append] at h
  rw [List.isPrefixOf_iff_prefix]
  exact (List.prefix_append ..).trans h

/-! ## Numbers in texts -/

theorem not_mem_number (n : Nat) {mark : Char} (hmark : mark.isDigit = false) :
    mark ∉ (toString n).toList := by
  rw [Nat.toString_eq_ofList_toDigits, String.toList_ofList]
  intro hmem
  have hdigit := Nat.isDigit_of_mem_toDigits (by decide) (by decide) hmem
  rw [hmark] at hdigit
  cases hdigit

/-- The digits in front are those of the number. -/
theorem takeWhile_number (n : Nat) {mark : Char} (hmark : mark.isDigit = false)
    (rest : List Char) :
    ((toString n).toList ++ mark :: rest).takeWhile Char.isDigit = Nat.toDigits 10 n := by
  rw [Nat.toString_eq_ofList_toDigits, String.toList_ofList, List.takeWhile_append_of_pos,
    List.takeWhile_cons_of_neg (by simp [hmark]), List.append_nil]
  intro c hc
  exact Nat.isDigit_of_mem_toDigits (by decide) (by decide) hc

/-- A number with a mark behind it can be read off the front of a text. -/
theorem number_inj {i j : Nat} {mark : Char} (hmark : mark.isDigit = false)
    {rest rest' : List Char}
    (h : (toString i).toList ++ mark :: rest = (toString j).toList ++ mark :: rest') : i = j := by
  have hdigits := congrArg (List.takeWhile Char.isDigit) h
  rw [takeWhile_number i hmark, takeWhile_number j hmark] at hdigits
  have hvalue := congrArg (fun digits => Nat.ofDigitChars 10 digits 0) hdigits
  simpa only [Nat.ofDigitChars_ten_toDigits] using hvalue

/-! ## Texts around a mark -/

/-- A text is cut in one way at the first mark. -/
theorem cut_inj {mark : Char} {head head' rest rest' : List Char} (hhead : mark ∉ head)
    (hhead' : mark ∉ head') (h : head ++ mark :: rest = head' ++ mark :: rest') :
    head = head' ∧ rest = rest' := by
  rcases List.append_eq_append_iff.1 h with ⟨mid, hmid, hrest⟩ | ⟨mid, hmid, hrest⟩
  · cases mid with
    | nil => exact ⟨by rw [hmid, List.append_nil], (List.cons.inj hrest).2⟩
    | cons c mid =>
      obtain ⟨rfl, -⟩ := List.cons.inj hrest
      exact absurd (by simp [hmid]) hhead'
  · cases mid with
    | nil => exact ⟨by rw [hmid, List.append_nil], (List.cons.inj hrest).2.symm⟩
    | cons c mid =>
      obtain ⟨rfl, -⟩ := List.cons.inj hrest
      exact absurd (by simp [hmid]) hhead

end Boardwright.Text
