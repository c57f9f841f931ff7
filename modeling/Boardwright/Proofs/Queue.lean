import Boardwright.Server.Queue
import Mathlib.Data.List.Basic

/-!
# The ring as a list

`Queue.toList` is what a queue holds, oldest word first.  Each operation is
described by what it does to that list: a push appends a word unless the queue
is full (`toList_push`), a look returns the first word (`peek_eq`), and taking
removes it (`toList_take`).

All of this needs the ring to be in order: `Queue.Valid` bounds its size and its
head.  Every operation keeps it.  A queue without capacity is valid, too, so no
lemma asks for a cell to exist.
-/

namespace Boardwright.Server.Queue

variable {q : Queue}

/-- The size is within the capacity, and the head within the cells, if any. -/
structure Valid (q : Queue) : Prop where
  size_le : q.size ≤ q.capacity
  head_lt : 0 < q.capacity → q.head < q.capacity

/-- The index `offset` cells behind the head, wrapped at most once. -/
theorem wrapped {head offset capacity : Nat} (hhead : head < capacity)
    (hoffset : offset ≤ capacity) :
    (head + offset) % capacity =
      if head + offset < capacity then head + offset else head + offset - capacity := by
  split
  · exact Nat.mod_eq_of_lt ‹_›
  · rw [Nat.mod_eq_sub_mod (by omega), Nat.mod_eq_of_lt (by omega)]

/-- The word `i` places behind the oldest. -/
def word (q : Queue) (i : Nat) : UInt32 := q.items.getD ((q.head + i) % q.capacity) 0

theorem Valid.index_lt (h : q.Valid) {i : Nat} (hi : i < q.size) :
    (q.head + i) % q.capacity < q.items.length :=
  Nat.mod_lt _ (Nat.lt_of_lt_of_le (Nat.zero_lt_of_lt hi) h.size_le)

theorem Valid.toList_eq (h : q.Valid) : q.toList = (List.range q.size).map q.word := by
  unfold toList
  rw [← List.filterMap_eq_map]
  refine List.filterMap_congr fun i hi => ?_
  have hlt := h.index_lt (List.mem_range.1 hi)
  simp [word, List.getElem?_eq_getElem hlt]

theorem Valid.length_toList (h : q.Valid) : q.toList.length = q.size := by
  rw [h.toList_eq, List.length_map, List.length_range]

/-! ## A fresh queue -/

theorem empty_valid (capacity : Nat) : (empty capacity).Valid where
  size_le := Nat.zero_le _
  head_lt h := h

/-! ## Adding a word -/

theorem push_fst (q : Queue) (w : UInt32) : (q.push w).1 = !q.isFull := by
  unfold push
  cases q.isFull <;> rfl

theorem push_of_full (h : q.isFull = true) (w : UInt32) : (q.push w).2 = q := by
  simp [push, h]

@[simp] theorem capacity_push (q : Queue) (w : UInt32) : (q.push w).2.capacity = q.capacity := by
  unfold push
  split
  · rfl
  · exact List.length_set

theorem Valid.push (h : q.Valid) (w : UInt32) : (q.push w).2.Valid := by
  have hcapacity := capacity_push q w
  obtain ⟨hsize, hhead⟩ := h
  constructor
  · rw [hcapacity]
    unfold Queue.push
    split
    · exact hsize
    · rename_i hfull
      have hne : q.size ≠ q.capacity := by simpa [isFull] using hfull
      show q.size + 1 ≤ q.capacity
      omega
  · rw [hcapacity]
    unfold Queue.push
    split
    · exact hhead
    · exact hhead

/-- Writing behind the last word leaves the words in front alone. -/
theorem Valid.word_set (h : q.Valid) (hroom : q.size < q.capacity) (w : UInt32) {i : Nat}
    (hi : i ≤ q.size) :
    ({ q with items := q.items.set q.tail w, size := q.size + 1 } : Queue).word i =
      if i = q.size then w else q.word i := by
  have hhead := h.head_lt (Nat.zero_lt_of_lt hroom)
  have htail := wrapped hhead (Nat.le_of_lt hroom)
  have hindex := wrapped hhead (Nat.le_trans hi h.size_le)
  have hlt : q.tail < q.items.length := Nat.mod_lt _ (Nat.zero_lt_of_lt hroom)
  show (q.items.set q.tail w).getD ((q.head + i) % (q.items.set q.tail w).length) 0 =
    if i = q.size then w else q.items.getD ((q.head + i) % q.items.length) 0
  rw [List.length_set, List.getD_eq_getElem?_getD, List.getD_eq_getElem?_getD, List.getElem?_set]
  by_cases heq : i = q.size
  · subst heq
    rw [if_pos (show q.tail = (q.head + q.size) % q.items.length from rfl), if_pos hlt, if_pos rfl]
    rfl
  · have hdiffer : q.tail ≠ (q.head + i) % q.items.length := by
      unfold tail
      unfold capacity at htail hindex hroom hhead ⊢
      rw [htail, hindex]
      split <;> split <;> omega
    rw [if_neg heq, if_neg hdiffer]

/-- A push appends the word, if there is room. -/
theorem Valid.toList_push (h : q.Valid) (w : UInt32) :
    (q.push w).2.toList = q.toList ++ if (q.push w).1 then [w] else [] := by
  have hpushed := h.push w
  rw [hpushed.toList_eq, h.toList_eq]
  cases hfull : q.isFull with
  | true => simp [Queue.push, hfull]
  | false =>
    have hne : q.size ≠ q.capacity := by simpa [isFull] using hfull
    have hroom : q.size < q.capacity := Nat.lt_of_le_of_ne h.size_le hne
    simp only [Queue.push, hfull, Bool.false_eq_true, if_false, if_true]
    rw [List.range_succ, List.map_append, List.map_singleton, h.word_set hroom w (Nat.le_refl _),
      if_pos rfl]
    refine congrArg (· ++ [w]) (List.map_congr_left fun i hi => ?_)
    have hlt := List.mem_range.1 hi
    rw [h.word_set hroom w (Nat.le_of_lt hlt), if_neg (Nat.ne_of_lt hlt)]

/-! ## The oldest word -/

/-- A look finds the first word. -/
theorem Valid.peek_eq (h : q.Valid) : q.peek = q.toList.head? := by
  rw [h.toList_eq]
  unfold peek
  by_cases hsize : q.size = 0
  · simp [hsize]
  · have hpos : 0 < q.size := Nat.pos_of_ne_zero hsize
    have hhead := h.head_lt (Nat.lt_of_lt_of_le hpos h.size_le)
    rw [if_neg hsize, List.head?_map, List.head?_range, if_neg hsize, Option.map_some]
    unfold word
    rw [Nat.add_zero, Nat.mod_eq_of_lt hhead, List.getD_eq_getElem?_getD,
      List.getElem?_eq_getElem hhead]
    rfl

theorem size_pos_of_peek {w : UInt32} (hpeek : q.peek = some w) : 0 < q.size := by
  apply Nat.pos_of_ne_zero
  intro hzero
  simp [peek, hzero] at hpeek

theorem take_of_peek {w : UInt32} (hpeek : q.peek = some w) :
    q.take = (some w, { q with head := (q.head + 1) % q.capacity, size := q.size - 1 }) := by
  unfold take
  rw [hpeek]

@[simp] theorem capacity_take (q : Queue) : q.take.2.capacity = q.capacity := by
  unfold take
  split <;> rfl

theorem Valid.take (h : q.Valid) : q.take.2.Valid := by
  have hcapacity := capacity_take q
  obtain ⟨hsize, hhead⟩ := h
  constructor
  · rw [hcapacity]
    unfold Queue.take
    split
    · exact hsize
    · show q.size - 1 ≤ q.capacity
      omega
  · rw [hcapacity]
    unfold Queue.take
    split
    · exact hhead
    · exact Nat.mod_lt _

/-- Taking removes the first word. -/
theorem Valid.toList_take (h : q.Valid) : q.take.2.toList = q.toList.tail := by
  have htaken := h.take
  rw [htaken.toList_eq, h.toList_eq]
  cases hpeek : q.peek with
  | none =>
    have hempty : (List.range q.size).map q.word = [] := by
      rw [← h.toList_eq, ← List.head?_eq_none_iff, ← h.peek_eq, hpeek]
    simp [Queue.take, hpeek, hempty]
  | some w =>
    have hsize : q.size ≠ 0 := by
      intro hzero
      simp [peek, hzero] at hpeek
    obtain ⟨n, hn⟩ := Nat.exists_eq_succ_of_ne_zero hsize
    rw [take_of_peek hpeek, hn, List.range_succ_eq_map]
    simp only [List.map_cons, List.map_map, List.tail_cons, Nat.succ_eq_add_one,
      Nat.add_sub_cancel]
    refine List.map_congr_left fun i _ => ?_
    simp only [word, Function.comp, capacity]
    rw [Nat.mod_add_mod, Nat.add_assoc, Nat.add_comm 1 i]

end Boardwright.Server.Queue
