import Boardwright.Server.Queue

/-!
# The server loop

The embedded server moves words between host and hardware.  Each step receives what the host
sent, offers the queued words of every host-write stream to the hardware, and sends the host what
every host-read stream has to offer.  A host-read stream in polling mode is only read while it has
credit.

The words for the host pass through one buffer that all host-read streams share.  It is filled
with the words of a stream, sent, and emptied for the next stream.

The loop meets the outside through `Surroundings`, whose answers may depend on everything that
happened before.  A step returns the trace of its dealings with them.

Words and credit reach the server while it receives, in any number and order, and between two
rounds, when `deliver` and `addCredit` are called directly.  They do not reach it from inside the
other calls: a host that keeps the inbox and uses it while it is polled or sent words, or hardware
that does so while it is written or read, is not covered.  Nor is a host that keeps the words it
was sent without copying them, as the buffer is used again.
-/

namespace Boardwright.Server

/-- A host-read stream. -/
structure Outlet where
  /-- Words per flush. -/
  capacity : Int
  polling : Bool := false
  /-- Words that may still be read in polling mode. -/
  credit : Int64 := 0
  deriving DecidableEq, Repr, Inhabited

structure Machine where
  /-- Software queues of the host-write streams. -/
  inlets : List Queue
  outlets : List Outlet
  /-- Words on their way to the host, of whichever host-read stream is served. -/
  buffer : List UInt32 := []
  deriving DecidableEq, Repr, Inhabited

/-- What the host sends during one reception: words for streams and credit for streams, until it
is done.  It hears whether a word found room before it goes on. -/
inductive Inbound (ε : Type) where
  | done (next : ε)
  | deliver (stream : Int) (word : UInt32) (next : Bool → Inbound ε)
  | credit (stream : Int) (amount : Int64) (next : Inbound ε)

/-- Host and hardware, as a state and its reactions. -/
structure Surroundings (ε : Type) where
  /-- The host's pending messages. -/
  receive : ε → Inbound ε
  /-- Offers a word to a host-write stream of the hardware; it may be refused. -/
  write : ε → Nat → UInt32 → Bool × ε
  /-- Asks a host-read stream of the hardware for a word. -/
  read : ε → Nat → Option UInt32 × ε
  /-- Tells the host that a host-write stream has room again. -/
  poll : ε → Nat → ε
  /-- Sends the words of a host-read stream to the host. -/
  flush : ε → Nat → List UInt32 → ε

/-- One dealing with the surroundings. -/
inductive Event where
  | delivered (stream : Int) (word : UInt32) (accepted : Bool)
  | credited (stream : Int) (amount : Int64)
  | written (stream : Nat) (word : UInt32) (accepted : Bool)
  | polled (stream : Nat)
  | read (stream : Nat) (word : Option UInt32)
  | flushed (stream : Nat) (words : List UInt32)
  deriving DecidableEq, Repr

/-- Counts of one step. -/
structure Stats where
  written : Nat := 0
  read : Nat := 0
  polls : Nat := 0
  deriving DecidableEq, Repr, Inhabited

namespace Stats

def ofTrace (trace : List Event) : Stats where
  written := trace.countP fun | .written _ _ accepted => accepted | _ => false
  read := trace.countP fun | .read _ word => word.isSome | _ => false
  polls := trace.countP fun | .polled _ => true | _ => false

end Stats

namespace Machine

/-- A machine with empty queues of the given capacities. -/
def new (inlets : List Nat) (outlets : List Outlet) : Machine :=
  { inlets := inlets.map Queue.empty, outlets }

/-- The index of a stream, if there is such a stream. -/
def index? (stream : Int) (count : Nat) : Option Nat :=
  if 0 ≤ stream && stream < count then some stream.toNat else none

/-- Queues a word for a host-write stream.  Unknown streams take nothing. -/
def deliver (m : Machine) (stream : Int) (word : UInt32) : Bool × Machine :=
  match index? stream m.inlets.length with
  | none => (false, m)
  | some i => match m.inlets[i]? with
    | none => (false, m)
    | some q =>
      let (accepted, q) := q.push word
      (accepted, { m with inlets := m.inlets.set i q })

/-- Adds credit to a host-read stream.  Unknown streams take none. -/
def addCredit (m : Machine) (stream : Int) (amount : Int64) : Machine :=
  match index? stream m.outlets.length with
  | none => m
  | some i =>
    { m with outlets := m.outlets.modify i fun o => { o with credit := o.credit + amount } }

variable {ε : Type}

/-- Takes in everything the host sends. -/
def receive (m : Machine) : Inbound ε → Machine × ε × List Event
  | .done e => (m, e, [])
  | .deliver stream word next =>
    let (accepted, m) := m.deliver stream word
    let (m, e, trace) := m.receive (next accepted)
    (m, e, .delivered stream word accepted :: trace)
  | .credit stream amount next =>
    let (m, e, trace) := (m.addCredit stream amount).receive next
    (m, e, .credited stream amount :: trace)

/-- Offers up to `n` words of a queue to the hardware.  A queue that was full is polled for once
its first word is gone. -/
def drain (s : Surroundings ε) (stream : Nat) : Nat → Queue → ε → Queue × ε × List Event
  | 0, q, e => (q, e, [])
  | n + 1, q, e =>
    match q.peek with
    | none => (q, e, [])
    | some word =>
      match s.write e stream word with
      | (false, e) => (q, e, [.written stream word false])
      | (true, e) =>
        let q := q.take.2
        if q.size + 1 = q.capacity then
          let (q, e, trace) := drain s stream n q (s.poll e stream)
          (q, e, .written stream word true :: .polled stream :: trace)
        else
          let (q, e, trace) := drain s stream n q e
          (q, e, .written stream word true :: trace)

/-- Drains every queue, from stream `stream` on. -/
def drainAll (s : Surroundings ε) : Nat → List Queue → ε → List Queue × ε × List Event
  | _, [], e => ([], e, [])
  | stream, q :: qs, e =>
    let (q, e, trace) := drain s stream q.capacity q e
    let (qs, e, rest) := drainAll s (stream + 1) qs e
    (q :: qs, e, trace ++ rest)

/-- Reads up to `n` words of a stream into the buffer.  In polling mode each costs one credit. -/
def fetch (s : Surroundings ε) (stream : Nat) :
    Nat → Outlet → List UInt32 → ε → (Outlet × List UInt32) × ε × List Event
  | 0, o, buffer, e => ((o, buffer), e, [])
  | n + 1, o, buffer, e =>
    if o.polling && !decide (0 < o.credit) then ((o, buffer), e, [])
    else match s.read e stream with
      | (none, e) => ((o, buffer), e, [.read stream none])
      | (some word, e) =>
        let o := if o.polling then { o with credit := o.credit - 1 } else o
        let (served, e, trace) := fetch s stream n o (buffer ++ [word]) e
        (served, e, .read stream (some word) :: trace)

/-- Reads and flushes every stream, from stream `stream` on.  The buffer is emptied behind each. -/
def fetchAll (s : Surroundings ε) :
    Nat → List Outlet → List UInt32 → ε → (List Outlet × List UInt32) × ε × List Event
  | _, [], buffer, e => (([], buffer), e, [])
  | stream, o :: os, buffer, e =>
    let ((o, buffer), e, trace) := fetch s stream o.capacity.toNat o buffer e
    let ((os, after), e, rest) := fetchAll s (stream + 1) os [] (s.flush e stream buffer)
    ((o :: os, after), e, trace ++ .flushed stream buffer :: rest)

/-- One round of the loop. -/
def step (s : Surroundings ε) (m : Machine) (e : ε) : Machine × ε × List Event :=
  let (m, e, received) := m.receive (s.receive e)
  let (inlets, e, drained) := drainAll s 0 m.inlets e
  let ((outlets, buffer), e, fetched) := fetchAll s 0 m.outlets m.buffer e
  ({ inlets, outlets, buffer }, e, received ++ drained ++ fetched)

/-- Rounds of the loop, one after the other. -/
def run (s : Surroundings ε) : Nat → Machine → ε → Machine × ε × List Event
  | 0, m, e => (m, e, [])
  | n + 1, m, e =>
    let (m, e, trace) := m.step s e
    let (m, e, rest) := run s n m e
    (m, e, trace ++ rest)

end Machine

end Boardwright.Server
