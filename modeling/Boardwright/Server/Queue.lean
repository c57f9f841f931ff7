/-!
# Bounded word queues

A queue keeps 32-bit words in a ring: `items` has one cell per word of capacity, the oldest word
sits at `head`, and the `size` words in use follow it, wrapping at the end.
-/

namespace Boardwright.Server

structure Queue where
  items : List UInt32
  head : Nat := 0
  size : Nat := 0
  deriving DecidableEq, Repr, Inhabited

namespace Queue

/-- An empty queue for up to `capacity` words. -/
def empty (capacity : Nat) : Queue := { items := List.replicate capacity 0 }

def capacity (q : Queue) : Nat := q.items.length

def isFull (q : Queue) : Bool := q.size == q.capacity

/-- The cell that the next word goes to. -/
def tail (q : Queue) : Nat := (q.head + q.size) % q.capacity

/-- Appends a word and answers whether there was room for it. -/
def push (q : Queue) (word : UInt32) : Bool × Queue :=
  if q.isFull then (false, q)
  else (true, { q with items := q.items.set q.tail word, size := q.size + 1 })

/-- The oldest word. -/
def peek (q : Queue) : Option UInt32 :=
  if q.size = 0 then none else q.items[q.head]?

/-- Removes the oldest word. -/
def take (q : Queue) : Option UInt32 × Queue :=
  match q.peek with
  | none => (none, q)
  | some word => (some word, { q with head := (q.head + 1) % q.capacity, size := q.size - 1 })

/-- The words in the queue, oldest first. -/
def toList (q : Queue) : List UInt32 :=
  (List.range q.size).filterMap fun i => q.items[(q.head + i) % q.capacity]?

end Queue

end Boardwright.Server
