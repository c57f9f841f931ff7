import Boardwright.Proofs.Queue

/-!
# A ring that answers like a list

All that a caller sees of a queue are its answers, and the queue that a caller has
in mind is a list of words with a bound on its length.

* `Request` is what can be asked of either, `answer` is what the ring answers and
  `listAnswer` what the list does.  `serve` collects the replies to one request
  after the other.
* `Represents` ties a ring to the list that it stands for.  `Represents.answer`
  is the step: both answer alike and go on standing for each other.
  `Represents.serve` is the run.
* A ring works with indices and remainders, which may go wrong.  `Checked.answer`
  is the same work with a guard in front of every access and every remainder; what
  a guard stops at is a `Hazard`.  `Valid.checked_answer` says that a ring in
  order meets none.

`ring_answers_as_list` puts these together for every sequence of requests to a
fresh ring.
-/

namespace Boardwright.Server

namespace Queue

/-! ## Requests and replies -/

/-- What can be asked of a queue. -/
inductive Request where
  | push (word : UInt32)
  | peek
  | take
  | size
  | full
  deriving DecidableEq, Repr

inductive Reply where
  | flag (value : Bool)
  | word (value : Option UInt32)
  | count (value : Nat)
  deriving DecidableEq, Repr

/-- The replies to some requests, one after the other, and what is left behind. -/
def serve {σ : Type} (answer : σ → Request → Reply × σ) : List Request → σ → List Reply × σ
  | [], s => ([], s)
  | request :: requests, s =>
    let (reply, s) := answer s request
    let (replies, s) := serve answer requests s
    (reply :: replies, s)

def answer (q : Queue) : Request → Reply × Queue
  | .push word => (.flag (q.push word).1, (q.push word).2)
  | .peek => (.word q.peek, q)
  | .take => (.word q.take.1, q.take.2)
  | .size => (.count q.size, q)
  | .full => (.flag q.isFull, q)

/-! ## The list in mind -/

/-- The answers of a list of words, oldest first.  A word is refused exactly when
the list is as long as it may be. -/
def listAnswer (capacity : Nat) (words : List UInt32) : Request → Reply × List UInt32
  | .push word =>
    if words.length = capacity then (.flag false, words) else (.flag true, words ++ [word])
  | .peek => (.word words.head?, words)
  | .take => (.word words.head?, words.tail)
  | .size => (.count words.length, words)
  | .full => (.flag (words.length == capacity), words)

/-- A ring in order that holds the words of a list, and no more than `capacity`. -/
structure Represents (capacity : Nat) (q : Queue) (words : List UInt32) : Prop where
  valid : q.Valid
  capacity_eq : q.capacity = capacity
  toList_eq : q.toList = words

namespace Represents

variable {capacity : Nat} {q : Queue} {words : List UInt32}

theorem empty (capacity : Nat) : Represents capacity (Queue.empty capacity) [] where
  valid := empty_valid capacity
  capacity_eq := List.length_replicate
  toList_eq := rfl

theorem size_eq (h : Represents capacity q words) : q.size = words.length := by
  rw [← h.toList_eq, h.valid.length_toList]

theorem isFull_eq (h : Represents capacity q words) :
    q.isFull = (words.length == capacity) := by
  unfold isFull
  rw [h.size_eq, h.capacity_eq]

theorem push (h : Represents capacity q words) (word : UInt32) :
    (q.answer (.push word)).1 = (listAnswer capacity words (.push word)).1 ∧
      Represents capacity (q.answer (.push word)).2 (listAnswer capacity words (.push word)).2 := by
  have hfull := h.isFull_eq
  have hpushed := h.valid.toList_push word
  have hcapacity := (capacity_push q word).trans h.capacity_eq
  simp only [answer, listAnswer]
  rw [push_fst, h.toList_eq] at hpushed
  rw [push_fst]
  by_cases hlength : words.length = capacity
  · rw [hlength, beq_self_eq_true] at hfull
    rw [hfull] at hpushed ⊢
    rw [if_pos hlength]
    exact ⟨rfl, h.valid.push word, hcapacity, hpushed.trans (List.append_nil words)⟩
  · rw [beq_false_of_ne hlength] at hfull
    rw [hfull] at hpushed ⊢
    rw [if_neg hlength]
    exact ⟨rfl, h.valid.push word, hcapacity, hpushed⟩

theorem take (h : Represents capacity q words) :
    (q.answer .take).1 = (listAnswer capacity words .take).1 ∧
      Represents capacity (q.answer .take).2 (listAnswer capacity words .take).2 := by
  have hword : q.take.1 = q.peek := by
    unfold Queue.take
    cases q.peek <;> rfl
  refine ⟨?_, h.valid.take, (capacity_take q).trans h.capacity_eq, ?_⟩
  · show Reply.word q.take.1 = .word words.head?
    rw [hword, h.valid.peek_eq, h.toList_eq]
  · show q.take.2.toList = words.tail
    rw [h.valid.toList_take, h.toList_eq]

/-- A ring and its list give the same reply to a request, and the one still stands
for the other behind it. -/
theorem answer (h : Represents capacity q words) (request : Request) :
    (q.answer request).1 = (listAnswer capacity words request).1 ∧
      Represents capacity (q.answer request).2 (listAnswer capacity words request).2 := by
  cases request with
  | push word => exact h.push word
  | peek =>
    refine ⟨?_, h⟩
    show Reply.word q.peek = .word words.head?
    rw [h.valid.peek_eq, h.toList_eq]
  | take => exact h.take
  | size =>
    refine ⟨?_, h⟩
    show Reply.count q.size = .count words.length
    rw [h.size_eq]
  | full =>
    refine ⟨?_, h⟩
    show Reply.flag q.isFull = .flag (words.length == capacity)
    rw [h.isFull_eq]

theorem serve (h : Represents capacity q words) (requests : List Request) :
    (Queue.serve Queue.answer requests q).1 =
        (Queue.serve (listAnswer capacity) requests words).1 ∧
      Represents capacity (Queue.serve Queue.answer requests q).2
        (Queue.serve (listAnswer capacity) requests words).2 := by
  induction requests generalizing q words with
  | nil => exact ⟨rfl, h⟩
  | cons request requests ih =>
    obtain ⟨hreply, hnext⟩ := h.answer request
    obtain ⟨hreplies, hlast⟩ := ih hnext
    simp only [Queue.serve]
    exact ⟨by rw [hreply, hreplies], hlast⟩

end Represents

/-! ## Guarded work -/

/-- What work on a ring can stumble over. -/
inductive Hazard where
  /-- A cell that the ring does not have. -/
  | noCell (index : Nat)
  /-- A remainder of a division by zero. -/
  | divisionByZero
  /-- A size below zero. -/
  | noWord
  deriving DecidableEq, Repr

namespace Checked

def remainder (n divisor : Nat) : Except Hazard Nat :=
  if divisor = 0 then .error .divisionByZero else .ok (n % divisor)

def read (cells : List UInt32) (index : Nat) : Except Hazard UInt32 :=
  if h : index < cells.length then .ok (cells.get ⟨index, h⟩) else .error (.noCell index)

def write (cells : List UInt32) (index : Nat) (word : UInt32) : Except Hazard (List UInt32) :=
  if index < cells.length then .ok (cells.set index word) else .error (.noCell index)

def decrease (size : Nat) : Except Hazard Nat :=
  if size = 0 then .error .noWord else .ok (size - 1)

def push (q : Queue) (word : UInt32) : Except Hazard (Bool × Queue) :=
  if q.isFull then .ok (false, q)
  else do
    let index ← remainder (q.head + q.size) q.capacity
    let items ← write q.items index word
    return (true, { q with items, size := q.size + 1 })

def peek (q : Queue) : Except Hazard (Option UInt32) :=
  if q.size = 0 then .ok none else return some (← read q.items q.head)

def take (q : Queue) : Except Hazard (Option UInt32 × Queue) := do
  match ← peek q with
  | none => return (none, q)
  | some word =>
    let head ← remainder (q.head + 1) q.capacity
    let size ← decrease q.size
    return (some word, { q with head, size })

def answer (q : Queue) : Request → Except Hazard (Reply × Queue)
  | .push word => return (← push q word).map .flag id
  | .peek => return (.word (← peek q), q)
  | .take => return (← take q).map .word id
  | .size => return (.count q.size, q)
  | .full => return (.flag q.isFull, q)

/-- The replies to some requests, unless there is a hazard. -/
def serve : List Request → Queue → Except Hazard (List Reply × Queue)
  | [], q => return ([], q)
  | request :: requests, q => do
    let (reply, q) ← answer q request
    let (replies, q) ← serve requests q
    return (reply :: replies, q)

theorem remainder_eq {n divisor : Nat} (h : divisor ≠ 0) : remainder n divisor = .ok (n % divisor) :=
  if_neg h

theorem write_eq {cells : List UInt32} {index : Nat} (h : index < cells.length) (word : UInt32) :
    write cells index word = .ok (cells.set index word) := if_pos h

theorem decrease_eq {size : Nat} (h : size ≠ 0) : decrease size = .ok (size - 1) := if_neg h

end Checked

namespace Valid

variable {q : Queue}

theorem checked_push (h : q.Valid) (word : UInt32) : Checked.push q word = .ok (q.push word) := by
  unfold Checked.push Queue.push
  split
  · rfl
  · rename_i hfull
    have hne : q.size ≠ q.capacity := by simpa [isFull] using hfull
    have hsize := h.size_le
    have hcapacity : q.capacity ≠ 0 := by omega
    have htail : (q.head + q.size) % q.capacity < q.items.length :=
      Nat.mod_lt _ (Nat.pos_of_ne_zero hcapacity)
    rw [Checked.remainder_eq hcapacity]
    show (Checked.write q.items _ word >>= _) = _
    rw [Checked.write_eq htail]
    rfl

theorem checked_peek (h : q.Valid) : Checked.peek q = .ok q.peek := by
  unfold Checked.peek Queue.peek
  split
  · rfl
  · rename_i hsize
    have hle := h.size_le
    have hhead : q.head < q.items.length := h.head_lt (by omega)
    rw [List.getElem?_eq_getElem hhead]
    unfold Checked.read
    rw [dif_pos hhead]
    rfl

theorem checked_take (h : q.Valid) : Checked.take q = .ok q.take := by
  unfold Checked.take Queue.take
  rw [h.checked_peek]
  cases hpeek : q.peek with
  | none => rfl
  | some word =>
    have hpos := size_pos_of_peek hpeek
    have hle := h.size_le
    show (Checked.remainder (q.head + 1) q.capacity >>= _) = _
    rw [Checked.remainder_eq (by omega)]
    show (Checked.decrease q.size >>= _) = _
    rw [Checked.decrease_eq (by omega)]
    rfl

/-- A ring in order answers every request without a hazard. -/
theorem checked_answer (h : q.Valid) (request : Request) :
    Checked.answer q request = .ok (q.answer request) := by
  cases request with
  | push word =>
    show (Checked.push q word >>= _) = _
    rw [h.checked_push]
    rfl
  | peek =>
    show (Checked.peek q >>= _) = _
    rw [h.checked_peek]
    rfl
  | take =>
    show (Checked.take q >>= _) = _
    rw [h.checked_take]
    rfl
  | size => rfl
  | full => rfl

-- A ring that is not in order does meet one.
example : Checked.answer { items := [], size := 1 } (.push 7) = .error .divisionByZero := rfl

end Valid

theorem Represents.checked_serve {capacity : Nat} {q : Queue} {words : List UInt32}
    (h : Represents capacity q words) (requests : List Request) :
    Checked.serve requests q = .ok (Queue.serve Queue.answer requests q) := by
  induction requests generalizing q words with
  | nil => rfl
  | cons request requests ih =>
    show (Checked.answer q request >>= _) = _
    rw [h.valid.checked_answer]
    show (Checked.serve requests (q.answer request).2 >>= _) = _
    rw [ih (h.answer request).2]
    rfl

/-! ## A fresh ring -/

/-- A ring of any capacity, none included, answers every sequence of requests as
the bounded list does, and holds the same words behind it.  Its size is never
above the capacity, its head always within the cells if there are any, and none
of its work meets a hazard.  The sequence is arbitrary, so all of this holds
behind each of its requests. -/
theorem ring_answers_as_list (capacity : Nat) (requests : List Request) :
    let ring := serve answer requests (empty capacity)
    let list := serve (listAnswer capacity) requests []
    ring.1 = list.1 ∧ ring.2.toList = list.2 ∧
      ring.2.capacity = capacity ∧ ring.2.size ≤ capacity ∧
      (0 < capacity → ring.2.head < capacity) ∧
      Checked.serve requests (empty capacity) = .ok ring := by
  intro ring list
  have hstart := Represents.empty capacity
  obtain ⟨hreplies, hvalid, hcapacity, hwords⟩ := hstart.serve requests
  have hsize : ring.2.size ≤ ring.2.capacity := hvalid.size_le
  have hhead : 0 < ring.2.capacity → ring.2.head < ring.2.capacity := hvalid.head_lt
  rw [show ring.2.capacity = capacity from hcapacity] at hsize hhead
  exact ⟨hreplies, hwords, hcapacity, hsize, hhead, hstart.checked_serve requests⟩

end Queue

end Boardwright.Server
