import Boardwright.Proofs.Numbering
import Mathlib.Data.List.Induction

/-!
# Runs of the allocator

Counters are asked for streams and for identifiers of GPIO devices, in any order and any number of
times, and observers subscribe in between.  This file says what such a run amounts to.

There are four groups.

* Requests.  `serve` answers one request, `after` and `replies` are a whole run.  An allocation is
  what an observer hears of, so the allocations of a run are what somebody hears who subscribed
  before it.
* Allocations.  `Makes` is what a request does to the counters, given the allocations that it makes.
  `serve_makes` is the step and `after_makes` the run; `numbered_after` and `observed_after` read
  off it how allocations are numbered and who hears of them.
* Sides.  Host-write and host-read are served alike.  `Tallied` says what one side has counted, and
  `tallied_after` that every run keeps it.
* Independence.  Counters that agree where a request looks give the same reply, so requests that
  count elsewhere can be left out: `replies_without`.
-/

namespace Boardwright

namespace Counters

/-! ## Requests -/

/-- What can be asked of counters. -/
inductive Request where
  | streams (owner : String) (direction : Direction)
  | gpio (owner : String) (direction : Direction)
  | subscribe
  deriving DecidableEq, Repr

namespace Request

def isStreams : Request → Bool
  | streams .. => true
  | _ => false

def isGpio : Request → Bool
  | gpio .. => true
  | _ => false

end Request

/-- What counters answer. -/
inductive Reply where
  | streams (streams : Streams) (faults : List Fault)
  | gpio (ids : GpioIds)
  | subscribed
  deriving Repr

namespace Reply

def streams? : Reply → Option (Streams × List Fault)
  | streams s faults => some (s, faults)
  | _ => none

def gpio? : Reply → Option GpioIds
  | gpio ids => some ids
  | _ => none

def faults : Reply → List Fault
  | streams _ faults => faults
  | _ => []

end Reply

/-- Answers one request. -/
def serve (c : Counters) : Request → Reply × Counters
  | .streams owner d =>
    let answer := c.allocateStreams owner d
    (.streams answer.1 answer.2.1, answer.2.2)
  | .gpio owner d =>
    let answer := c.allocateGpio owner d
    (.gpio answer.1, answer.2)
  | .subscribe => (.subscribed, c.subscribe)

/-- The counters after some requests. -/
def after (c : Counters) (requests : List Request) : Counters :=
  requests.foldl (fun c r => (c.serve r).2) c

/-- The replies to some requests, in order. -/
def replies (c : Counters) : List Request → List Reply
  | [] => []
  | r :: requests => (c.serve r).1 :: (c.serve r).2.replies requests

/-- What an observer was told, oldest first. -/
def heard (c : Counters) (observer : Nat) : List Allocation :=
  c.notices.filterMap fun n => if n.observer = observer then some n.allocation else none

/-- The allocations that some requests to new counters make: what an observer hears of them that
was there before. -/
def allocations (requests : List Request) : List Allocation :=
  (({} : Counters).subscribe.after requests).heard 0

theorem after_cons (c : Counters) (r : Request) (requests : List Request) :
    c.after (r :: requests) = (c.serve r).2.after requests := rfl

theorem after_append (c : Counters) (requests requests' : List Request) :
    c.after (requests ++ requests') = (c.after requests).after requests' :=
  List.foldl_append

theorem replies_append (c : Counters) (requests requests' : List Request) :
    c.replies (requests ++ requests') =
      c.replies requests ++ (c.after requests).replies requests' := by
  induction requests generalizing c with
  | nil => rfl
  | cons r requests ih =>
    rw [List.cons_append, replies, ih]
    rfl

/-! ## Allocations -/

/-- The next allocation of a category. -/
def next (c : Counters) (k : Category) (owner : String) : Allocation :=
  ⟨owner, UInt8.ofNat (c.count k), k⟩

/-- The allocations of one half of a request for streams. -/
def madeBySide (c : Counters) (port stream : Category) (owner : String) (asked : Bool) :
    List Allocation :=
  if asked then
    c.next port owner :: if c.count stream < 16 then [c.next stream owner] else []
  else []

/-- The allocations of a request. -/
def madeBy (c : Counters) : Request → List Allocation
  | .streams owner d =>
    c.madeBySide .portIn .streamMaster owner d.isMaster ++
      c.madeBySide .portOut .streamSlave owner d.isSlave
  | .gpio owner d =>
    (if d.isMaster then [c.next .gpi owner] else []) ++
      if d.isSlave then [c.next .gpo owner] else []
  | .subscribe => []

/-- The allocations of some requests. -/
def madeByAll (c : Counters) : List Request → List Allocation
  | [] => []
  | r :: requests => c.madeBy r ++ (c.serve r).2.madeByAll requests

/-- Some allocations were made, and some observers joined.  The allocations are numbered from the
counters on, are counted, and are told to everybody who was there; somebody who is not there yet
has heard nothing new. -/
structure Makes (made : List Allocation) (joined : Nat) (c c' : Counters) : Prop where
  numbers : ∀ k, (made.filter (·.category = k)).map Allocation.id =
    (List.range' (c.count k) (made.countP (·.category = k))).map UInt8.ofNat
  counts : ∀ k, c'.count k = c.count k + made.countP (·.category = k)
  observers : c'.observers = c.observers + joined
  heard : ∀ i < c.observers, c'.heard i = c.heard i ++ made
  unheard : ∀ i, c'.observers ≤ i → c'.heard i = c.heard i

namespace Makes

variable {made made' : List Allocation} {joined joined' : Nat} {c c' c'' : Counters}

theorem refl (c : Counters) : Makes [] 0 c c where
  numbers _ := rfl
  counts _ := rfl
  observers := rfl
  heard _ _ := (List.append_nil _).symm
  unheard _ _ := rfl

theorem trans (h : Makes made joined c c') (h' : Makes made' joined' c' c'') :
    Makes (made ++ made') (joined + joined') c c'' where
  numbers k := by
    rw [List.filter_append, List.map_append, h.numbers, h'.numbers, h.counts, ← List.map_append,
      List.countP_append, ← List.range'_append_1]
  counts k := by rw [h'.counts, h.counts, List.countP_append, Nat.add_assoc]
  observers := by rw [h'.observers, h.observers, Nat.add_assoc]
  heard i hi := by
    have hi' : i < c'.observers := by
      rw [h.observers]
      omega
    rw [h'.heard i hi', h.heard i hi, List.append_assoc]
  unheard i hi := by
    have hi' : c'.observers ≤ i := by
      rw [h'.observers] at hi
      omega
    rw [h'.unheard i hi, h.unheard i hi']

end Makes

/-- Of what everybody is told each observer hears once. -/
theorem heard_notify (c : Counters) (a : Allocation) (i : Nat) :
    (c.notify a).heard i = c.heard i ++ if i < c.observers then [a] else [] := by
  have honce : ((List.range c.observers).map fun observer => Notice.mk observer a).filterMap
      (fun n => if n.observer = i then some n.allocation else none) =
        if i < c.observers then [a] else [] := by
    induction c.observers with
    | zero => rfl
    | succ n ih =>
      rw [List.range_succ, List.map_append, List.filterMap_append, ih]
      by_cases hi : n = i
      · simp [hi]
      · have hlt : i < n ↔ i < n + 1 := by omega
        simp [hi, hlt]
  unfold heard
  rw [← honce]
  exact List.filterMap_append

theorem bump_silent (c : Counters) (k : Category) :
    (c.bump k).observers = c.observers ∧ ∀ i, (c.bump k).heard i = c.heard i := by
  cases k <;> exact ⟨rfl, fun _ => rfl⟩

theorem take_makes (c : Counters) (k : Category) (owner : String) :
    Makes [c.next k owner] 0 c (c.take k owner).2 := by
  obtain ⟨hobservers, hheard⟩ := bump_silent c k
  have hnotify : ∀ i, (c.take k owner).2.heard i =
      c.heard i ++ if i < c.observers then [c.next k owner] else [] := by
    intro i
    rw [← hheard, ← hobservers]
    exact heard_notify (c.bump k) (c.next k owner) i
  constructor
  · intro j
    by_cases hj : k = j
    · simp [next, hj]
    · simp [next, hj]
  · intro j
    rw [count_take, List.countP_singleton]
    by_cases hj : k = j
    · simp [next, hj]
    · simp [next, hj, Ne.symm hj]
  · exact hobservers
  · intro i hi
    rw [hnotify, if_pos hi]
  · intro i hi
    have hlate : ¬ i < c.observers := by
      rw [← hobservers]
      exact Nat.not_lt.2 hi
    rw [hnotify, if_neg hlate, List.append_nil]

theorem madeBySide_congr {c c' : Counters} {port stream : Category}
    (hport : c.count port = c'.count port) (hstream : c.count stream = c'.count stream)
    (owner : String) (asked : Bool) :
    c.madeBySide port stream owner asked = c'.madeBySide port stream owner asked := by
  unfold madeBySide next
  rw [hport, hstream]

theorem allocateSide_makes (c : Counters) {port stream : Category} (role owner : String)
    (asked : Bool) (hne : stream ≠ port) :
    Makes (c.madeBySide port stream owner asked) 0 c
      (c.allocateSide port stream role owner asked).2.2 := by
  cases asked with
  | false => exact .refl c
  | true =>
    have hport := take_makes c port owner
    have hkeep : (c.take port owner).2.count stream = c.count stream := by
      rw [count_take, if_neg hne, Nat.add_zero]
    have hnext : (c.take port owner).2.next stream owner = c.next stream owner := by
      rw [next, next, hkeep]
    unfold madeBySide allocateSide takeStream streamLimit
    by_cases h16 : c.count stream < 16
    · have hstream := take_makes (c.take port owner).2 stream owner
      rw [hnext] at hstream
      simpa [hkeep, h16] using hport.trans hstream
    · simpa [hkeep, h16] using hport

theorem allocateStreams_makes (c : Counters) (owner : String) (d : Direction) :
    Makes (c.madeBy (.streams owner d)) 0 c (c.allocateStreams owner d).2.2 := by
  have hne : Category.streamMaster ≠ .portIn ∧ Category.streamSlave ≠ .portOut := by decide
  have hwrite := allocateSide_makes c hostWrite owner d.isMaster hne.1
  obtain ⟨-, -, hcount⟩ := allocateSide_spec c hostWrite owner d.isMaster hne.1
  generalize hhalf : (c.allocateSide .portIn .streamMaster hostWrite owner d.isMaster).2.2 = half
    at hwrite hcount
  have hread := allocateSide_makes half hostRead owner d.isSlave hne.2
  -- The second half counts where the first one did not.
  have hsame : half.madeBySide .portOut .streamSlave owner d.isSlave =
      c.madeBySide .portOut .streamSlave owner d.isSlave :=
    madeBySide_congr (by simp [hcount]) (by simp [hcount]) owner d.isSlave
  rw [hsame] at hread
  subst hhalf
  exact hwrite.trans hread

theorem allocateGpio_makes (c : Counters) (owner : String) (d : Direction) :
    Makes (c.madeBy (.gpio owner d)) 0 c (c.allocateGpio owner d).2 := by
  have hinput := take_makes c .gpi owner
  have houtput := take_makes c .gpo owner
  have hboth := take_makes (c.take .gpi owner).2 .gpo owner
  have hnext : (c.take .gpi owner).2.next .gpo owner = c.next .gpo owner := by
    rw [next, next, count_take]
    rfl
  rw [hnext] at hboth
  simp only [madeBy, allocateGpio]
  cases d.isMaster <;> cases d.isSlave
  · exact .refl c
  · exact houtput
  · exact hinput
  · exact hinput.trans hboth

/-- What one request does. -/
theorem serve_makes (c : Counters) (r : Request) :
    Makes (c.madeBy r) (if r = .subscribe then 1 else 0) c (c.serve r).2 := by
  cases r with
  | streams owner d => exact allocateStreams_makes c owner d
  | gpio owner d => exact allocateGpio_makes c owner d
  | subscribe =>
    constructor
    · exact fun _ => rfl
    · intro k
      cases k <;> rfl
    · rfl
    · exact fun _ _ => (List.append_nil _).symm
    · exact fun _ _ => rfl

theorem after_makes (c : Counters) (requests : List Request) :
    Makes (c.madeByAll requests) (requests.countP (· = .subscribe)) c (c.after requests) := by
  induction requests generalizing c with
  | nil => exact .refl c
  | cons r requests ih =>
    have hstep := (serve_makes c r).trans (ih (c.serve r).2)
    rw [List.countP_cons, Nat.add_comm]
    simpa [madeByAll, after_cons] using hstep

/-- What is allocated depends on the counts alone. -/
theorem madeBy_congr {c c' : Counters} (h : ∀ k, c.count k = c'.count k) (r : Request) :
    c.madeBy r = c'.madeBy r := by
  cases r with
  | streams owner d =>
    simp only [madeBy]
    rw [madeBySide_congr (h .portIn) (h _), madeBySide_congr (h .portOut) (h _)]
  | gpio owner d => simp only [madeBy, next, h]
  | subscribe => rfl

theorem madeByAll_congr {c c' : Counters} (h : ∀ k, c.count k = c'.count k)
    (requests : List Request) : c.madeByAll requests = c'.madeByAll requests := by
  induction requests generalizing c c' with
  | nil => rfl
  | cons r requests ih =>
    have hstep : ∀ k, (c.serve r).2.count k = (c'.serve r).2.count k := by
      intro k
      rw [(serve_makes c r).counts, (serve_makes c' r).counts, h, madeBy_congr h]
    rw [madeByAll, madeByAll, madeBy_congr h, ih hstep]

theorem madeByAll_append (c : Counters) (requests requests' : List Request) :
    c.madeByAll (requests ++ requests') =
      c.madeByAll requests ++ (c.after requests).madeByAll requests' := by
  induction requests generalizing c with
  | nil => rfl
  | cons r requests ih =>
    rw [List.cons_append, madeByAll, ih, ← List.append_assoc]
    rfl

/-- Somebody who subscribed first hears what is allocated, and changes nothing about it. -/
theorem allocations_eq (requests : List Request) :
    allocations requests = ({} : Counters).madeByAll requests := by
  have hcounts : ∀ k, ({} : Counters).subscribe.count k = ({} : Counters).count k := by
    intro k
    cases k <;> rfl
  rw [← madeByAll_congr hcounts]
  exact (after_makes ({} : Counters).subscribe requests).heard 0 Nat.zero_lt_one

/-! ## Sides -/

end Counters

namespace Side

open Counters (Request Reply hostWrite hostRead)

def other : Side → Side
  | write => read
  | read => write

/-- The category that counts every request, served or not. -/
def port : Side → Category
  | write => .portIn
  | read => .portOut

/-- The category of the streams. -/
def stream : Side → Category
  | write => .streamMaster
  | read => .streamSlave

def role : Side → String
  | write => hostWrite
  | read => hostRead

def isAskedBy (side : Side) : Request → Bool
  | .streams _ d => side.asked d
  | _ => false

/-- The stream of this side that a reply grants. -/
def granted? (side : Side) : Reply → Option UInt8
  | .streams s _ => side.id? s
  | _ => none

end Side

namespace Counters

/-- Whether a fault reports that the streams of a role are exhausted, whoever asked. -/
def isShortage (role : String) (f : Fault) : Bool :=
  f.first?.map (·.1.detail) == (exhausted role "").first?.map (·.1.detail)

theorem isShortage_self (role owner : String) : isShortage role (exhausted role owner) = true :=
  beq_self_eq_true _

theorem isShortage_other (side : Side) (owner : String) :
    isShortage side.role (exhausted side.other.role owner) = false := by
  cases side <;> rfl

/-- One side of a request for streams, whatever the other side asks for. -/
theorem allocateStreams_side (c : Counters) (owner : String) (d : Direction) (side : Side) :
    side.id? (c.allocateStreams owner d).1 =
        (if side.asked d ∧ c.count side.stream < 16 then
          some (UInt8.ofNat (c.count side.stream)) else none) ∧
      (c.allocateStreams owner d).2.1.countP (isShortage side.role) =
        (if side.asked d ∧ ¬ c.count side.stream < 16 then 1 else 0) ∧
      (c.allocateStreams owner d).2.2.count side.port =
        c.count side.port + (if side.asked d then 1 else 0) ∧
      (c.allocateStreams owner d).2.2.count side.stream =
        c.count side.stream + if side.asked d ∧ c.count side.stream < 16 then 1 else 0 := by
  obtain ⟨hstreams, hfaults, hcount⟩ := allocateStreams_spec c owner d
  have hself := isShortage_self side.role owner
  have hother := isShortage_other side owner
  rw [hstreams, hfaults, hcount, hcount, List.countP_append]
  cases side with
  | write =>
    simp only [Side.role, Side.other] at hself hother
    refine ⟨rfl, ?_, ?_, ?_⟩
    · show _ = if d.isMaster ∧ ¬ c.count .streamMaster < 16 then 1 else 0
      split <;> split <;> simp [Side.role, hself, hother]
    · show _ = c.count .portIn + if d.isMaster then 1 else 0
      simp [Side.port]
    · show _ = c.count .streamMaster + if d.isMaster ∧ c.count .streamMaster < 16 then 1 else 0
      simp [Side.stream]
  | read =>
    simp only [Side.role, Side.other] at hself hother
    refine ⟨rfl, ?_, ?_, ?_⟩
    · show _ = if d.isSlave ∧ ¬ c.count .streamSlave < 16 then 1 else 0
      split <;> split <;> simp [Side.role, hself, hother]
    · show _ = c.count .portOut + if d.isSlave then 1 else 0
      simp [Side.port]
    · show _ = c.count .streamSlave + if d.isSlave ∧ c.count .streamSlave < 16 then 1 else 0
      simp [Side.stream]

/-- Devices are counted apart from streams. -/
theorem allocateGpio_side (c : Counters) (owner : String) (d : Direction) (side : Side) :
    (c.allocateGpio owner d).2.count side.port = c.count side.port ∧
      (c.allocateGpio owner d).2.count side.stream = c.count side.stream := by
  obtain ⟨-, -, hcount⟩ := allocateGpio_spec c owner d
  rw [hcount, hcount]
  cases side <;> simp [Side.port, Side.stream]

/-- What one side has counted, granted and refused. -/
structure Tallied (side : Side) (requests : List Request) (replies : List Reply) (c : Counters) :
    Prop where
  ports : c.count side.port = requests.countP side.isAskedBy
  streams : c.count side.stream = min (c.count side.port) 16
  granted : replies.filterMap side.granted? = (List.range (c.count side.stream)).map UInt8.ofNat
  shortages : c.count side.stream + (replies.flatMap Reply.faults).countP (isShortage side.role) =
    c.count side.port

namespace Tallied

variable {side : Side} {requests : List Request} {replies : List Reply} {c c' : Counters}

/-- A request that asks for no stream of the side. -/
theorem aside (h : Tallied side requests replies c) {r : Request} {reply : Reply}
    (hr : side.isAskedBy r = false) (hreply : side.granted? reply = none)
    (hfaults : reply.faults.countP (isShortage side.role) = 0)
    (hport : c'.count side.port = c.count side.port)
    (hstream : c'.count side.stream = c.count side.stream) :
    Tallied side (requests ++ [r]) (replies ++ [reply]) c' := by
  constructor
  · rw [hport, h.ports, List.countP_append, List.countP_singleton, hr]
    rfl
  · rw [hport, hstream, h.streams]
  · rw [hstream, ← h.granted, List.filterMap_append, List.filterMap_cons_none hreply]
    exact List.append_nil _
  · rw [hport, hstream, ← h.shortages, List.flatMap_append, List.flatMap_singleton,
      List.countP_append, hfaults, Nat.add_zero]

/-- A request that gets the next stream. -/
theorem grant (h : Tallied side requests replies c) (hfree : c.count side.stream < 16) {r : Request}
    {reply : Reply} (hr : side.isAskedBy r = true)
    (hreply : side.granted? reply = some (UInt8.ofNat (c.count side.stream)))
    (hfaults : reply.faults.countP (isShortage side.role) = 0)
    (hport : c'.count side.port = c.count side.port + 1)
    (hstream : c'.count side.stream = c.count side.stream + 1) :
    Tallied side (requests ++ [r]) (replies ++ [reply]) c' := by
  have hstreams := h.streams
  have hshortages := h.shortages
  constructor
  · rw [hport, h.ports, List.countP_append, List.countP_singleton, if_pos hr]
  · omega
  · rw [hstream, List.range_succ, List.map_append, ← h.granted, List.filterMap_append,
      List.filterMap_cons_some hreply]
    rfl
  · rw [List.flatMap_append, List.flatMap_singleton, List.countP_append, hfaults]
    omega

/-- A request that comes too late. -/
theorem refuse (h : Tallied side requests replies c) (hfull : ¬ c.count side.stream < 16)
    {r : Request} {reply : Reply} (hr : side.isAskedBy r = true)
    (hreply : side.granted? reply = none)
    (hfaults : reply.faults.countP (isShortage side.role) = 1)
    (hport : c'.count side.port = c.count side.port + 1)
    (hstream : c'.count side.stream = c.count side.stream) :
    Tallied side (requests ++ [r]) (replies ++ [reply]) c' := by
  have hstreams := h.streams
  have hshortages := h.shortages
  constructor
  · rw [hport, h.ports, List.countP_append, List.countP_singleton, if_pos hr]
  · omega
  · rw [hstream, ← h.granted, List.filterMap_append, List.filterMap_cons_none hreply]
    exact List.append_nil _
  · rw [List.flatMap_append, List.flatMap_singleton, List.countP_append, hfaults]
    omega

theorem step (h : Tallied side requests replies c) (r : Request) :
    Tallied side (requests ++ [r]) (replies ++ [(c.serve r).1]) (c.serve r).2 := by
  cases r with
  | streams owner d =>
    obtain ⟨hid, hfaults, hport, hstream⟩ := allocateStreams_side c owner d side
    cases hasked : side.asked d with
    | false =>
      simp only [hasked, Bool.false_eq_true, false_and, if_false] at hid hfaults hport hstream
      exact h.aside hasked hid hfaults hport hstream
    | true =>
      by_cases hfree : c.count side.stream < 16
      · simp only [hasked, hfree, not_true, and_true, and_false, if_true, if_false]
          at hid hfaults hport hstream
        exact h.grant hfree hasked hid hfaults hport hstream
      · simp only [hasked, hfree, not_false_eq_true, and_true, and_false, if_true, if_false]
          at hid hfaults hport hstream
        exact h.refuse hfree hasked hid hfaults hport hstream
  | gpio owner d =>
    obtain ⟨hport, hstream⟩ := allocateGpio_side c owner d side
    exact h.aside rfl rfl rfl hport hstream
  | subscribe =>
    have hkeep : ∀ k, c.subscribe.count k = c.count k := by
      intro k
      cases k <;> rfl
    exact h.aside rfl rfl rfl (hkeep _) (hkeep _)

end Tallied

theorem tallied_after (side : Side) (requests : List Request) :
    Tallied side requests (({} : Counters).replies requests) (({} : Counters).after requests) := by
  induction requests using List.reverseRecOn with
  | nil => cases side <;> constructor <;> rfl
  | append_singleton requests r ih =>
    rw [replies_append, after_append]
    exact ih.step r

/-! ## Independence -/

/-- Two counters have counted the same in some categories. -/
def AgreeOn (keep : Category → Prop) (c c' : Counters) : Prop :=
  ∀ k, keep k → c.count k = c'.count k

/-- Requests that count elsewhere can be left out: the other replies stay the same. -/
theorem replies_without {τ : Type} (keep : Category → Prop) {dropped : Request → Bool}
    {view : Reply → Option τ}
    (hdropped : ∀ r, dropped r = true → ∀ c : Counters,
      view (c.serve r).1 = none ∧ AgreeOn keep c (c.serve r).2)
    (hkept : ∀ r, dropped r = false → ∀ c c' : Counters, AgreeOn keep c c' →
      view (c.serve r).1 = view (c'.serve r).1 ∧ AgreeOn keep (c.serve r).2 (c'.serve r).2)
    (requests : List Request) {c c' : Counters} (h : AgreeOn keep c c') :
    (c.replies (requests.filter fun r => !dropped r)).filterMap view =
      (c'.replies requests).filterMap view := by
  induction requests generalizing c c' with
  | nil => rfl
  | cons r requests ih =>
    cases hr : dropped r with
    | true =>
      obtain ⟨hview, hagree⟩ := hdropped r hr c'
      rw [List.filter_cons_of_neg (by simp [hr]), replies, List.filterMap_cons_none hview]
      exact ih fun k hk => (h k hk).trans (hagree k hk)
    | false =>
      obtain ⟨hview, hagree⟩ := hkept r hr c c' h
      rw [List.filter_cons_of_pos (by simp [hr]), replies, replies, List.filterMap_cons,
        List.filterMap_cons, hview, ih hagree]

/-- What streams are granted does not depend on devices. -/
theorem streams_without_gpio (requests : List Request) :
    (({} : Counters).replies (requests.filter fun r => !r.isGpio)).filterMap Reply.streams? =
      (({} : Counters).replies requests).filterMap Reply.streams? := by
  refine replies_without (fun k => k ≠ .gpi ∧ k ≠ .gpo) (fun r hr c => ?_)
    (fun r hr c c' h => ?_) requests fun _ _ => rfl
  · cases r with
    | gpio owner d =>
      refine ⟨rfl, fun k hk => ?_⟩
      show _ = (c.allocateGpio owner d).2.count k
      rw [(allocateGpio_spec c owner d).2.2]
      simp [hk.1, hk.2]
    | _ => cases hr
  · cases r with
    | gpio owner d => cases hr
    | subscribe => exact ⟨rfl, h⟩
    | streams owner d =>
      obtain ⟨hstreams, hfaults, hcount⟩ := allocateStreams_spec c owner d
      obtain ⟨hstreams', hfaults', hcount'⟩ := allocateStreams_spec c' owner d
      have hmaster : c.count .streamMaster = c'.count .streamMaster := h _ (by decide)
      have hslave : c.count .streamSlave = c'.count .streamSlave := h _ (by decide)
      rw [hmaster, hslave] at hstreams hfaults hcount
      constructor
      · show some ((c.allocateStreams owner d).1, (c.allocateStreams owner d).2.1) =
          some ((c'.allocateStreams owner d).1, (c'.allocateStreams owner d).2.1)
        rw [hstreams, hfaults, hstreams', hfaults']
      · intro k hk
        show (c.allocateStreams owner d).2.2.count k = (c'.allocateStreams owner d).2.2.count k
        rw [hcount, hcount', h k hk]

/-- The identifiers of devices do not depend on streams. -/
theorem gpio_without_streams (requests : List Request) :
    (({} : Counters).replies (requests.filter fun r => !r.isStreams)).filterMap Reply.gpio? =
      (({} : Counters).replies requests).filterMap Reply.gpio? := by
  refine replies_without (fun k => k = .gpi ∨ k = .gpo) (fun r hr c => ?_)
    (fun r hr c c' h => ?_) requests fun _ _ => rfl
  · cases r with
    | streams owner d =>
      refine ⟨rfl, fun k hk => ?_⟩
      show _ = (c.allocateStreams owner d).2.2.count k
      rw [(allocateStreams_spec c owner d).2.2]
      rcases hk with rfl | rfl <;> simp
    | _ => cases hr
  · cases r with
    | streams owner d => cases hr
    | subscribe => exact ⟨rfl, h⟩
    | gpio owner d =>
      obtain ⟨hinput, houtput, hcount⟩ := allocateGpio_spec c owner d
      obtain ⟨hinput', houtput', hcount'⟩ := allocateGpio_spec c' owner d
      have hgpi : c.count .gpi = c'.count .gpi := h _ (by decide)
      have hgpo : c.count .gpo = c'.count .gpo := h _ (by decide)
      rw [hgpi] at hinput
      rw [hgpo] at houtput
      constructor
      · show some (c.allocateGpio owner d).1 = some (c'.allocateGpio owner d).1
        rcases hids : (c.allocateGpio owner d).1 with ⟨input, output⟩
        rcases hids' : (c'.allocateGpio owner d).1 with ⟨input', output'⟩
        rw [hids] at hinput houtput
        rw [hids'] at hinput' houtput'
        simp only at hinput houtput hinput' houtput'
        rw [hinput, houtput, hinput', houtput']
      · intro k hk
        show (c.allocateGpio owner d).2.count k = (c'.allocateGpio owner d).2.count k
        rw [hcount, hcount', h k hk]

/-! ## Every run -/

/-- What some requests to new counters amount to, given the replies and the counters after them. -/
structure Lawful (requests : List Request) (replies : List Reply) (c : Counters) : Prop where
  /-- Each category has its allocations numbered from zero, modulo 256, and counted. -/
  numbered : ∀ k, ((allocations requests).filter (·.category = k)).map (·.id.toNat) =
    (List.range (c.count k)).map (· % 256)
  /-- The streams of a side are granted in order, without a gap. -/
  granted : ∀ side : Side,
    (replies.filterMap side.granted?).map UInt8.toNat = List.range (c.count side.stream)
  /-- Every request is counted; the first sixteen get a stream. -/
  limited : ∀ side : Side, c.count side.port = requests.countP side.isAskedBy ∧
    c.count side.stream = min (c.count side.port) 16
  /-- A request that is counted without a stream was reported. -/
  reported : ∀ side : Side,
    c.count side.stream + (replies.flatMap Reply.faults).countP (isShortage side.role) =
      c.count side.port
  /-- A request for both streams gets the one that there is. -/
  spared : ∀ (side : Side) (owner : String), c.count side.stream = 16 →
    c.count side.other.stream < 16 →
      side.id? (c.allocateStreams owner .dual).1 = none ∧
      side.other.id? (c.allocateStreams owner .dual).1 =
        some (UInt8.ofNat (c.count side.other.stream)) ∧
      (c.allocateStreams owner .dual).2.1 = [exhausted side.role owner]
  /-- Whoever subscribes now hears of all later allocations, once and in order. -/
  observed : ∀ later, allocations (requests ++ .subscribe :: later) =
    allocations requests ++ (({} : Counters).after (requests ++ .subscribe :: later)).heard
      (requests.countP (· = .subscribe))
  /-- Without the requests for devices the streams are the same. -/
  streamsAlone : (({} : Counters).replies (requests.filter fun r => !r.isGpio)).filterMap
    Reply.streams? = replies.filterMap Reply.streams?
  /-- Without the requests for streams the devices are the same. -/
  gpioAlone : (({} : Counters).replies (requests.filter fun r => !r.isStreams)).filterMap
    Reply.gpio? = replies.filterMap Reply.gpio?

theorem numbered_after (requests : List Request) (k : Category) :
    ((allocations requests).filter (·.category = k)).map (·.id.toNat) =
      (List.range ((({} : Counters).after requests).count k)).map (· % 256) := by
  have hmakes := after_makes {} requests
  have hzero : ({} : Counters).count k = 0 := by cases k <;> rfl
  have hids := congrArg (List.map UInt8.toNat) (hmakes.numbers k)
  rw [List.map_map, List.map_map] at hids
  rw [allocations_eq, hmakes.counts k, hzero, Nat.zero_add, List.range_eq_range']
  rw [hzero] at hids
  refine hids.trans (List.map_congr_left fun n _ => ?_)
  exact UInt8.toNat_ofNat'

theorem granted_after (side : Side) (requests : List Request) :
    ((({} : Counters).replies requests).filterMap side.granted?).map UInt8.toNat =
      List.range ((({} : Counters).after requests).count side.stream) := by
  have htally := tallied_after side requests
  have hlimit := htally.streams
  rw [htally.granted, List.map_map]
  refine (List.map_congr_left fun n hn => ?_).trans (List.map_id _)
  have hlt := List.mem_range.1 hn
  show (UInt8.ofNat n).toNat = n
  rw [UInt8.toNat_ofNat']
  omega

/-- A side without streams left takes nothing from the other. -/
theorem dual_spared (c : Counters) (side : Side) (owner : String) (hfull : c.count side.stream = 16)
    (hfree : c.count side.other.stream < 16) :
    side.id? (c.allocateStreams owner .dual).1 = none ∧
      side.other.id? (c.allocateStreams owner .dual).1 =
        some (UInt8.ofNat (c.count side.other.stream)) ∧
      (c.allocateStreams owner .dual).2.1 = [exhausted side.role owner] := by
  have hdual : Direction.dual.isMaster = true ∧ Direction.dual.isSlave = true := by decide
  obtain ⟨hstreams, hfaults, -⟩ := allocateStreams_spec c owner .dual
  rw [hstreams, hfaults, hdual.1, hdual.2]
  cases side with
  | write =>
    simp only [Side.stream, Side.other] at hfull hfree
    simp [Side.id?, Side.other, Side.stream, Side.role, hfull, hfree]
  | read =>
    simp only [Side.stream, Side.other] at hfull hfree
    simp [Side.id?, Side.other, Side.stream, Side.role, hfull, hfree]

theorem observed_after (requests later : List Request) :
    allocations (requests ++ .subscribe :: later) =
      allocations requests ++ (({} : Counters).after (requests ++ .subscribe :: later)).heard
        (requests.countP (· = .subscribe)) := by
  have hbefore := after_makes {} requests
  have hjoined : (({} : Counters).after requests).observers = requests.countP (· = .subscribe) := by
    rw [hbefore.observers]
    exact Nat.zero_add _
  -- The new observer has heard nothing so far, and hears all the rest.
  have hsilent : (({} : Counters).after requests).subscribe.heard
      (requests.countP (· = .subscribe)) = [] := hbefore.unheard _ (Nat.le_of_eq hjoined)
  have hrest := (after_makes (({} : Counters).after requests).subscribe later).heard
    (requests.countP (· = .subscribe)) (by rw [← hjoined]; exact Nat.lt_succ_self _)
  rw [hsilent] at hrest
  rw [allocations_eq, allocations_eq, madeByAll_append, after_append]
  show _ ++ ([] ++ _) = _ ++ ((({} : Counters).after requests).subscribe.after later).heard _
  rw [hrest]
  rfl

/-- Every run of requests to new counters, of whatever owners and directions, numbers, counts,
grants, reports and tells as it should. -/
theorem allocator_runs_lawful (requests : List Request) :
    Lawful requests (({} : Counters).replies requests) (({} : Counters).after requests) where
  numbered := numbered_after requests
  granted side := granted_after side requests
  limited side := ⟨(tallied_after side requests).ports, (tallied_after side requests).streams⟩
  reported side := (tallied_after side requests).shortages
  spared side owner := dual_spared _ side owner
  observed := observed_after requests
  streamsAlone := streams_without_gpio requests
  gpioAlone := gpio_without_streams requests

/-- An observer, a device and as many streams to write to as there are. -/
def crowdedRequests : List Request :=
  .subscribe :: .gpio "leds" .output :: List.replicate 16 (.streams "a" .input)

theorem allocator_runs_lawful_crowded :
    (({} : Counters).after crowdedRequests).count .streamMaster = 16 ∧
      (({} : Counters).after crowdedRequests).count .streamSlave < 16 ∧
      ((({} : Counters).after crowdedRequests).allocateStreams "b" .dual).1.slave = some 0 ∧
      ((({} : Counters).after crowdedRequests).allocateStreams "b" .dual).2.1 =
        [exhausted hostWrite "b"] := by
  have hfull : (({} : Counters).after crowdedRequests).count .streamMaster = 16 := by decide +kernel
  have hnone : (({} : Counters).after crowdedRequests).count .streamSlave = 0 := by decide +kernel
  have hfree : (({} : Counters).after crowdedRequests).count .streamSlave < 16 := by
    rw [hnone]
    decide
  obtain ⟨-, hslave, hfaults⟩ :=
    (allocator_runs_lawful crowdedRequests).spared .write "b" hfull hfree
  refine ⟨hfull, hfree, hslave.trans ?_, hfaults⟩
  show some (UInt8.ofNat ((({} : Counters).after crowdedRequests).count .streamSlave)) = some 0
  rw [hnone]
  rfl

end Counters

end Boardwright
