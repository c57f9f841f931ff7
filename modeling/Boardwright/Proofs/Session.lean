import Boardwright.Server.Loop
import Mathlib.Data.List.Basic

/-!
# Sessions with a server

A server works in rounds.  Between two of them words and credit may also be
handed to it directly.  A session is any sequence of both; `run_eq_session` says
that rounds alone are one.

A trace is written by the server, about itself.  `Surroundings.recording` are
surroundings that keep their own record of the calls on them, and `observed` is
what they have on record after a session.  Recording changes nothing, and the
record is the trace (`session_recording`), so that results about sessions are
stated of the record and proved of the trace.

* `Event.phase` is the part of a round that an event belongs to.  Each part
  shows events of its own kind only.
* `Throughout` is for what holds of an event because of the events in front.
* `Lawful` is the induction, packaged once: a relation between two machines and
  the trace between them holds of every session if it composes and if each part
  of a round keeps to it.
-/

namespace Boardwright.Server

/-! ## Events by phase -/

/-- The parts of a round. -/
inductive Phase where
  | receiving
  | writing
  | reading
  deriving DecidableEq

def Event.phase : Event → Phase
  | .delivered .. => .receiving
  | .credited .. => .receiving
  | .written .. => .writing
  | .polled _ => .writing
  | .read .. => .reading
  | .flushed .. => .reading

/-! ## Events and the ones in front of them -/

/-- Every event of a trace, with the events in front of it, is as demanded. -/
def Throughout (P : List Event → Event → Prop) (trace : List Event) : Prop :=
  ∀ before event after, trace = before ++ event :: after → P before event

namespace Throughout

variable {P : List Event → Event → Prop} {trace trace' : List Event}

theorem of_mem (h : ∀ event ∈ trace, ∀ before, P before event) : Throughout P trace := by
  intro before event after hsplit
  exact h event (by simp [hsplit]) before

theorem nil : Throughout P [] := of_mem (by simp)

theorem append (h : Throughout P trace)
    (h' : Throughout (fun before => P (trace ++ before)) trace') :
    Throughout P (trace ++ trace') := by
  intro before event after hsplit
  rcases List.append_eq_append_iff.1 hsplit with ⟨rest, rfl, hrest⟩ | ⟨rest, hrest, hafter⟩
  · exact h' rest event after hrest
  · -- The event is in the first part, unless that ends right in front of it.
    cases rest with
    | nil =>
      rw [List.append_nil] at hrest
      subst hrest
      have hfirst : P (trace ++ []) event := h' [] event after hafter.symm
      rwa [List.append_nil] at hfirst
    | cons first rest =>
      obtain ⟨rfl, -⟩ := List.cons.inj hafter
      exact h before event rest hrest

theorem cons {event : Event} (h : P [] event)
    (h' : Throughout (fun before => P (event :: before)) trace) :
    Throughout P (event :: trace) := by
  have hevent : Throughout P [event] := by
    intro before event' after hsplit
    cases before with
    | nil =>
      obtain ⟨rfl, -⟩ := List.cons.inj hsplit
      exact h
    | cons first before => simp at hsplit
  exact hevent.append h'

end Throughout

namespace Machine

variable {ε : Type} (s : Surroundings ε)

/-! ## Sessions -/

/-- What can be asked of a machine: a round, or to take what somebody else hands it. -/
inductive Action (ε : Type) where
  | round
  | inbox (send : ε → Inbound ε)

def act (m : Machine) (e : ε) : Action ε → Machine × ε × List Event
  | .round => m.step s e
  | .inbox send => m.receive (send e)

/-- One action after the other, with the trace of all. -/
def session : List (Action ε) → Machine → ε → Machine × ε × List Event
  | [], m, e => (m, e, [])
  | action :: actions, m, e =>
    let (m, e, trace) := m.act s e action
    let (m, e, rest) := session actions m e
    (m, e, trace ++ rest)

/-- Rounds of the loop are a session. -/
theorem run_eq_session (n : Nat) (m : Machine) (e : ε) :
    run s n m e = session s (List.replicate n .round) m e := by
  induction n generalizing m e with
  | zero => rfl
  | succ n ih =>
    simp only [List.replicate_succ, run, session, act, ih]

end Machine

/-! ## Records of the surroundings -/

/-- Messages that are written down when they are sent, with the answer that is heard. -/
def Inbound.recording {ε : Type} (log : List Event) : Inbound ε → Inbound (ε × List Event)
  | .done e => .done (e, log)
  | .deliver stream word next => .deliver stream word fun accepted =>
    (next accepted).recording (log ++ [.delivered stream word accepted])
  | .credit stream amount next =>
    .credit stream amount (next.recording (log ++ [.credited stream amount]))

namespace Surroundings

variable {ε : Type} (s : Surroundings ε)

/-- Surroundings that write down every call, with their answer. -/
def recording : Surroundings (ε × List Event) where
  receive e := (s.receive e.1).recording e.2
  write e stream word :=
    let (accepted, next) := s.write e.1 stream word
    (accepted, next, e.2 ++ [.written stream word accepted])
  read e stream :=
    let (word, next) := s.read e.1 stream
    (word, next, e.2 ++ [.read stream word])
  poll e stream := (s.poll e.1 stream, e.2 ++ [.polled stream])
  flush e stream words := (s.flush e.1 stream words, e.2 ++ [.flushed stream words])

variable (e : ε) (log : List Event) (stream : Nat)

@[simp] theorem recording_receive :
    s.recording.receive (e, log) = (s.receive e).recording log := rfl

@[simp] theorem recording_write (word : UInt32) :
    s.recording.write (e, log) stream word = ((s.write e stream word).1, (s.write e stream word).2,
      log ++ [.written stream word (s.write e stream word).1]) := rfl

@[simp] theorem recording_read :
    s.recording.read (e, log) stream = ((s.read e stream).1, (s.read e stream).2,
      log ++ [.read stream (s.read e stream).1]) := rfl

@[simp] theorem recording_poll :
    s.recording.poll (e, log) stream = (s.poll e stream, log ++ [.polled stream]) := rfl

@[simp] theorem recording_flush (words : List UInt32) :
    s.recording.flush (e, log) stream words =
      (s.flush e stream words, log ++ [.flushed stream words]) := rfl

end Surroundings

namespace Machine

variable {ε : Type} (s : Surroundings ε)

def Action.recording : Action ε → Action (ε × List Event)
  | .round => .round
  | .inbox send => .inbox fun e => (send e.1).recording e.2

/-- What host and hardware see of a session: the calls on them, by their own record. -/
def observed (actions : List (Action ε)) (m : Machine) (e : ε) : List Event :=
  (session s.recording (actions.map Action.recording) m (e, [])).2.1.2

/-- An outcome with the record of surroundings whose record was `log` before. -/
def recorded {α : Type} (log : List Event) (outcome : α × ε × List Event) :
    α × (ε × List Event) × List Event :=
  (outcome.1, (outcome.2.1, log ++ outcome.2.2), outcome.2.2)

theorem receive_recording (inbound : Inbound ε) (m : Machine) (log : List Event) :
    m.receive (inbound.recording log) = recorded log (m.receive inbound) := by
  induction inbound generalizing m log with
  | done e => simp [receive, Inbound.recording, recorded]
  | deliver stream word next ih => simp [receive, Inbound.recording, recorded, ih]
  | credit stream amount next ih => simp [receive, Inbound.recording, recorded, ih]

theorem drain_recording (stream n : Nat) (q : Queue) (e : ε) (log : List Event) :
    drain s.recording stream n q (e, log) = recorded log (drain s stream n q e) := by
  induction n generalizing q e log with
  | zero => simp [drain, recorded]
  | succ n ih =>
    unfold drain
    cases q.peek with
    | none => simp [recorded]
    | some word =>
      rcases hwrite : s.write e stream word with ⟨_ | _, e'⟩
      · simp [hwrite, recorded]
      · simp only [Surroundings.recording_write, hwrite]
        split
        · simp [ih, recorded]
        · simp [ih, recorded]

theorem drainAll_recording (first : Nat) (qs : List Queue) (e : ε) (log : List Event) :
    drainAll s.recording first qs (e, log) = recorded log (drainAll s first qs e) := by
  induction qs generalizing first e log with
  | nil => simp [drainAll, recorded]
  | cons q qs ih => simp [drainAll, drain_recording, ih, recorded]

theorem fetch_recording (stream n : Nat) (o : Outlet) (buffer : List UInt32) (e : ε)
    (log : List Event) :
    fetch s.recording stream n o buffer (e, log) = recorded log (fetch s stream n o buffer e) := by
  induction n generalizing o buffer e log with
  | zero => simp [fetch, recorded]
  | succ n ih =>
    unfold fetch
    split
    · simp [recorded]
    · rcases hread : s.read e stream with ⟨_ | word, e'⟩
      · simp [hread, recorded]
      · simp [hread, ih, recorded]

theorem fetchAll_recording (first : Nat) (os : List Outlet) (buffer : List UInt32) (e : ε)
    (log : List Event) :
    fetchAll s.recording first os buffer (e, log) =
      recorded log (fetchAll s first os buffer e) := by
  induction os generalizing first buffer e log with
  | nil => simp [fetchAll, recorded]
  | cons o os ih =>
    simp [fetchAll, fetch_recording, ih, recorded]

theorem step_recording (m : Machine) (e : ε) (log : List Event) :
    m.step s.recording (e, log) = recorded log (m.step s e) := by
  simp [step, receive_recording, drainAll_recording, fetchAll_recording, recorded]

/-- Recording changes nothing, and the record is the trace. -/
theorem session_recording (actions : List (Action ε)) (m : Machine) (e : ε) (log : List Event) :
    session s.recording (actions.map Action.recording) m (e, log) =
      recorded log (session s actions m e) := by
  induction actions generalizing m e log with
  | nil => simp [session, recorded]
  | cons action actions ih =>
    have hact : m.act s.recording (e, log) action.recording = recorded log (m.act s e action) := by
      cases action with
      | round => exact step_recording s m e log
      | inbox send => exact receive_recording (send e) m log
    simp [session, hact, recorded, ih]

theorem observed_eq (actions : List (Action ε)) (m : Machine) (e : ε) :
    observed s actions m e = (session s actions m e).2.2 := by
  rw [observed, session_recording]
  rfl

/-- What is seen of one round. -/
theorem observed_round (m : Machine) (e : ε) : observed s [.round] m e = (m.step s e).2.2 := by
  rw [observed_eq]
  exact List.append_nil _

/-! ## The events of each part of a round -/

theorem receive_phase (inbound : Inbound ε) (m : Machine) :
    ∀ event ∈ (m.receive inbound).2.2, event.phase = .receiving := by
  induction inbound generalizing m with
  | done e => simp [receive]
  | deliver stream word next ih =>
    exact List.forall_mem_cons.2 ⟨rfl, ih _ _⟩
  | credit stream amount next ih =>
    exact List.forall_mem_cons.2 ⟨rfl, ih _⟩

theorem drain_phase (stream n : Nat) (q : Queue) (e : ε) :
    ∀ event ∈ (drain s stream n q e).2.2, event.phase = .writing := by
  induction n generalizing q e with
  | zero => simp [drain]
  | succ n ih =>
    unfold drain
    split
    · simp
    · split
      · simp [Event.phase]
      · simp only
        split
        · exact List.forall_mem_cons.2 ⟨rfl, List.forall_mem_cons.2 ⟨rfl, ih _ _⟩⟩
        · exact List.forall_mem_cons.2 ⟨rfl, ih _ _⟩

theorem drainAll_phase (first : Nat) (qs : List Queue) (e : ε) :
    ∀ event ∈ (drainAll s first qs e).2.2, event.phase = .writing := by
  induction qs generalizing first e with
  | nil => simp [drainAll]
  | cons q qs ih =>
    exact List.forall_mem_append.2 ⟨drain_phase s first q.capacity q e, ih _ _⟩

theorem fetch_phase (stream n : Nat) (o : Outlet) (buffer : List UInt32) (e : ε) :
    ∀ event ∈ (fetch s stream n o buffer e).2.2, event.phase = .reading := by
  induction n generalizing o buffer e with
  | zero => simp [fetch]
  | succ n ih =>
    unfold fetch
    split
    · simp
    · split
      · simp [Event.phase]
      · exact List.forall_mem_cons.2 ⟨rfl, ih _ _ _⟩

theorem fetchAll_phase (first : Nat) (os : List Outlet) (buffer : List UInt32) (e : ε) :
    ∀ event ∈ (fetchAll s first os buffer e).2.2, event.phase = .reading := by
  induction os generalizing first buffer e with
  | nil => simp [fetchAll]
  | cons o os ih =>
    refine List.forall_mem_append.2 ⟨fetch_phase s first o.capacity.toNat o buffer e, ?_⟩
    exact List.forall_mem_cons.2 ⟨rfl, ih _ _ _⟩

/-! ## The parts of a round -/

/-- The server when everything that the host sent was taken in. -/
def received (m : Machine) (e : ε) : Machine × ε × List Event := m.receive (s.receive e)

/-- The queues when the hardware has taken what it wanted. -/
def drained (m : Machine) (e : ε) : List Queue × ε × List Event :=
  drainAll s 0 (m.received s e).1.inlets (m.received s e).2.1

/-- The host-read streams and the buffer when everything was read and sent. -/
def fetched (m : Machine) (e : ε) : (List Outlet × List UInt32) × ε × List Event :=
  fetchAll s 0 (m.received s e).1.outlets (m.received s e).1.buffer (m.drained s e).2.1

theorem step_eq (m : Machine) (e : ε) :
    m.step s e = ({
        inlets := (m.drained s e).1
        outlets := (m.fetched s e).1.1
        buffer := (m.fetched s e).1.2 },
      (m.fetched s e).2.1,
      (m.received s e).2.2 ++ (m.drained s e).2.2 ++ (m.fetched s e).2.2) := rfl

theorem received_phase (m : Machine) (e : ε) :
    ∀ event ∈ (m.received s e).2.2, event.phase = .receiving := receive_phase (s.receive e) m

theorem drained_phase (m : Machine) (e : ε) :
    ∀ event ∈ (m.drained s e).2.2, event.phase = .writing := drainAll_phase s 0 _ _

theorem fetched_phase (m : Machine) (e : ε) :
    ∀ event ∈ (m.fetched s e).2.2, event.phase = .reading := fetchAll_phase s 0 _ _ _

/-! ## Relations along a session -/

/-- `R` relates a machine, a later one and the trace between them whatever part
of a round comes next. -/
structure Lawful (R : Machine → Machine → List Event → Prop) : Prop where
  refl : ∀ m, R m m []
  trans : ∀ {m m' m'' trace trace'}, R m m' trace → R m' m'' trace' → R m m'' (trace ++ trace')
  deliver : ∀ m stream word,
    R m (m.deliver stream word).2 [.delivered stream word (m.deliver stream word).1]
  credit : ∀ m stream amount, R m (m.addCredit stream amount) [.credited stream amount]
  drain : ∀ m e,
    R m { m with inlets := (drainAll s 0 m.inlets e).1 } (drainAll s 0 m.inlets e).2.2
  fetch : ∀ m e, R m
    { m with
      outlets := (fetchAll s 0 m.outlets m.buffer e).1.1
      buffer := (fetchAll s 0 m.outlets m.buffer e).1.2 }
    (fetchAll s 0 m.outlets m.buffer e).2.2

namespace Lawful

variable {s} {R : Machine → Machine → List Event → Prop}

theorem receive (h : Lawful s R) (inbound : Inbound ε) (m : Machine) :
    R m (m.receive inbound).1 (m.receive inbound).2.2 := by
  induction inbound generalizing m with
  | done e => exact h.refl m
  | deliver stream word next ih => exact h.trans (h.deliver m stream word) (ih _ _)
  | credit stream amount next ih => exact h.trans (h.credit m stream amount) (ih _)

theorem step (h : Lawful s R) (m : Machine) (e : ε) : R m (m.step s e).1 (m.step s e).2.2 :=
  h.trans (h.trans (h.receive (s.receive e) m) (h.drain _ _)) (h.fetch _ _)

theorem act (h : Lawful s R) (m : Machine) (e : ε) (action : Action ε) :
    R m (m.act s e action).1 (m.act s e action).2.2 := by
  cases action with
  | round => exact h.step m e
  | inbox send => exact h.receive (send e) m

theorem session (h : Lawful s R) (actions : List (Action ε)) (m : Machine) (e : ε) :
    R m (session s actions m e).1 (session s actions m e).2.2 := by
  induction actions generalizing m e with
  | nil => exact h.refl m
  | cons action actions ih => exact h.trans (h.act m e action) (ih _ _)

end Lawful

end Machine

end Boardwright.Server
