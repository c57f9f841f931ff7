import Boardwright.Counters

/-!
# Which identifiers a walk hands out

The counters of a walk are a running state.  This file says what they stand
for: how many of the devices and bindings passed so far asked for an
identifier.

There are three groups.

* Positions.  `Place` is a binding with its instance, `eachAfter` goes through
  a list and shows every element together with the ones in front of it, and
  `Board.asks` says whether a binding asks for a stream.
* The counters.  `count_take` is the one fact about an allocation; the lemmas
  behind it say what each half of `allocateStreams` answers and counts.
* The invariant.  `Counters.Passed` ties the counters to the devices and
  bindings that were passed.  `Passed.gpio`, `Passed.skip` and `Passed.cpu` are
  its steps.
-/

namespace Boardwright

/-! ## Elements with the ones in front of them -/

section EachAfter

variable {α β γ : Type}

/-- What `f` makes of each element and the elements in front of it, in order. -/
def eachAfter (f : List α → α → List β) (as : List α) : List β :=
  as.zipIdx.flatMap fun (a, i) => f (as.take i) a

@[simp] theorem eachAfter_nil (f : List α → α → List β) : eachAfter f [] = [] := rfl

theorem eachAfter_cons (f : List α → α → List β) (a : α) (as : List α) :
    eachAfter f (a :: as) = f [] a ++ eachAfter (fun l => f (a :: l)) as := by
  unfold eachAfter
  rw [List.zipIdx_cons, List.flatMap_cons, List.zipIdx_succ, List.flatMap_map]
  rfl

theorem eachAfter_append (f : List α → α → List β) (as bs : List α) :
    eachAfter f (as ++ bs) = eachAfter f as ++ eachAfter (fun l => f (as ++ l)) bs := by
  induction as generalizing f with
  | nil => rfl
  | cons a as ih =>
    rw [List.cons_append, eachAfter_cons, eachAfter_cons, ih, List.append_assoc]
    rfl

/-- Going through the parts of a list is going through the list. -/
theorem eachAfter_flatMap (g : α → List β) (f : List β → β → List γ) (as : List α) :
    eachAfter f (as.flatMap g) =
      eachAfter (fun l a => eachAfter (fun before => f (l.flatMap g ++ before)) (g a)) as := by
  induction as generalizing f with
  | nil => rfl
  | cons a as ih =>
    rw [List.flatMap_cons, eachAfter_append, eachAfter_cons, ih]
    simp only [List.flatMap_nil, List.nil_append, List.flatMap_cons, List.append_assoc]

theorem flatMap_eachAfter (f : List α → α → List β) (g : β → List γ) (as : List α) :
    (eachAfter f as).flatMap g = eachAfter (fun l a => (f l a).flatMap g) as := by
  unfold eachAfter
  rw [List.flatMap_assoc]

theorem map_eachAfter (f : List α → α → List β) (g : β → γ) (as : List α) :
    (eachAfter f as).map g = eachAfter (fun l a => (f l a).map g) as := by
  unfold eachAfter
  rw [List.map_flatMap]

theorem eachAfter_congr_of_split {f g : List α → α → List β} {as : List α}
    (h : ∀ front a back, as = front ++ a :: back → f front a = g front a) :
    eachAfter f as = eachAfter g as := by
  induction as generalizing f g with
  | nil => rfl
  | cons a as ih =>
    rw [eachAfter_cons, eachAfter_cons, h [] a as rfl]
    rw [ih fun front x back hsplit => h (a :: front) x back (by rw [hsplit, List.cons_append])]

theorem eachAfter_congr {f g : List α → α → List β} {as : List α}
    (h : ∀ l, ∀ a ∈ as, f l a = g l a) : eachAfter f as = eachAfter g as :=
  eachAfter_congr_of_split fun front a _ hsplit => h front a (by simp [hsplit])

/-- Without a look at the elements in front, this is `flatMap`. -/
theorem eachAfter_const (f : α → List β) (as : List α) :
    eachAfter (fun _ => f) as = as.flatMap f := by
  induction as with
  | nil => rfl
  | cons a as ih => rw [eachAfter_cons, ih, List.flatMap_cons]

theorem filter_eachAfter (f : List α → α → List β) (keep : β → Bool) (as : List α) :
    (eachAfter f as).filter keep = eachAfter (fun l a => (f l a).filter keep) as := by
  unfold eachAfter
  rw [List.filter_flatMap]

/-- Each element next to its one result. -/
theorem zip_eachAfter (f : List α → α → β) (as : List α) :
    as.zip (eachAfter (fun l a => [f l a]) as) = eachAfter (fun l a => [(a, f l a)]) as := by
  induction as generalizing f with
  | nil => rfl
  | cons a as ih =>
    rw [eachAfter_cons, eachAfter_cons, List.singleton_append, List.zip_cons_cons, ih]
    rfl

theorem length_eachAfter_singleton (f : List α → α → β) (as : List α) :
    (eachAfter (fun l a => [f l a]) as).length = as.length := by
  induction as generalizing f with
  | nil => rfl
  | cons a as ih =>
    rw [eachAfter_cons, List.length_append, ih, List.length_cons, Nat.add_comm]
    rfl

/-- One element and what it stands behind. -/
theorem eachAfter_split (f : List α → α → List β) (front : List α) (a : α) (back : List α) :
    eachAfter f (front ++ a :: back) =
      eachAfter f front ++ f front a ++ eachAfter (fun l => f (front ++ a :: l)) back := by
  rw [eachAfter_append, eachAfter_cons, List.append_nil, List.append_assoc]

theorem mem_eachAfter {f : List α → α → List β} {as : List α} {x : β} :
    x ∈ eachAfter f as ↔ ∃ front a back, as = front ++ a :: back ∧ x ∈ f front a := by
  constructor
  · intro hx
    obtain ⟨⟨a, i⟩, hmem, hx⟩ := List.mem_flatMap.1 hx
    obtain ⟨hi, ha⟩ := List.mem_zipIdx' hmem
    refine ⟨as.take i, a, as.drop (i + 1), ?_, hx⟩
    rw [ha, List.getElem_cons_drop, List.take_append_drop]
  · rintro ⟨front, a, back, rfl, hx⟩
    rw [eachAfter_split]
    simp [hx]

end EachAfter

/-! ## Sides -/

/-- The two kinds of streams: those that the host writes to, and those that it reads. -/
inductive Side where
  | write
  | read
  deriving DecidableEq, Repr

namespace Side

/-- Whether a direction asks for a stream of this side. -/
def asked : Side → Direction → Bool
  | write => Direction.isMaster
  | read => Direction.isSlave

def id? : Side → Streams → Option UInt8
  | write => Streams.master
  | read => Streams.slave

end Side

/-! ## Bindings in order -/

/-- A binding with the instance that it belongs to. -/
structure Place where
  inst : Instance
  binding : Binding

/-- The bindings of an instance, in order. -/
def Instance.places (i : Instance) : List Place := i.bindings.map (Place.mk i)

namespace Board

/-- Every binding of the board, instance by instance. -/
def places (b : Board) : List Place := b.instances.flatMap Instance.places

/-- The port that a binding names, if the core of the instance is declared and
has it. -/
def port? (b : Board) (p : Place) : Option Port :=
  (b.findCore? p.inst.core).bind (·.findPort? p.binding.port)

/-- The port of a CPU binding. -/
def cpuPort? (b : Board) (p : Place) : Option Port :=
  if p.binding.cpu?.isSome then b.port? p else none

/-- Whether a binding asks for a stream of the side that `side` tells from the
direction of a port. -/
def asks (b : Board) (side : Direction → Bool) (p : Place) : Bool :=
  (b.cpuPort? p).any (side ·.direction)

/-- The stream of one side for a binding behind the bindings `earlier`: the
number of those that asked before, as long as it is below sixteen. -/
def stream? (b : Board) (side : Direction → Bool) (earlier : List Place) (p : Place) :
    Option UInt8 :=
  let asked := earlier.countP (b.asks side)
  if b.asks side p ∧ asked < 16 then some (UInt8.ofNat asked) else none

/-- Both streams for a binding behind the bindings `earlier`. -/
def streamsAfter (b : Board) (earlier : List Place) (p : Place) : Streams where
  master := b.stream? Direction.isMaster earlier p
  slave := b.stream? Direction.isSlave earlier p

/-- What is reported for one side of a binding behind the bindings `earlier`:
it asks for a stream, and sixteen are gone. -/
def shortage (b : Board) (side : Direction → Bool) (role owner : String) (earlier : List Place)
    (p : Place) : List Fault :=
  if b.asks side p ∧ 16 ≤ earlier.countP (b.asks side) then [Counters.exhausted role owner] else []

theorem id?_streamsAfter (b : Board) (side : Side) (earlier : List Place) (p : Place) :
    side.id? (b.streamsAfter earlier p) = b.stream? side.asked earlier p := by
  cases side <;> rfl

theorem mem_of_place {b : Board} {front back : List Place} {p : Place}
    (h : b.places = front ++ p :: back) :
    p.inst ∈ b.instances ∧ p.binding ∈ p.inst.bindings := by
  have hp : p ∈ b.places := by simp [h]
  obtain ⟨inst, hinst, hplace⟩ := List.mem_flatMap.1 hp
  obtain ⟨binding, hbinding, rfl⟩ := List.mem_map.1 hplace
  exact ⟨hinst, hbinding⟩

theorem asks_of_cpuPort {b : Board} {p : Place} {port : Port} (hp : b.cpuPort? p = some port)
    (side : Direction → Bool) : b.asks side p = side port.direction := by
  unfold asks
  rw [hp]
  rfl

theorem asks_of_no_cpuPort {b : Board} {p : Place} (hp : b.cpuPort? p = none)
    (side : Direction → Bool) : b.asks side p = false := by
  unfold asks
  rw [hp]
  rfl

end Board

/-! ## What an allocation counts -/

namespace Counters

@[simp] theorem count_notify (c : Counters) (a : Allocation) (k : Category) :
    (c.notify a).count k = c.count k := by
  cases k <;> rfl

theorem count_bump (c : Counters) (j k : Category) :
    (c.bump j).count k = c.count k + if k = j then 1 else 0 := by
  cases j <;> cases k <;> rfl

/-- An allocation counts in its own category only. -/
theorem count_take (c : Counters) (j k : Category) (owner : String) :
    (c.take j owner).2.count k = c.count k + if k = j then 1 else 0 := by
  simp only [take, count_notify, count_bump]

theorem takeStream_fst (c : Counters) (j : Category) (owner : String) :
    (c.takeStream j owner).1 = if c.count j < 16 then some (UInt8.ofNat (c.count j)) else none := by
  unfold takeStream streamLimit
  split
  · rfl
  · rfl

theorem count_takeStream (c : Counters) (j k : Category) (owner : String) :
    (c.takeStream j owner).2.count k =
      c.count k + if k = j ∧ c.count j < 16 then 1 else 0 := by
  unfold takeStream streamLimit
  split
  · rename_i h
    simp only [count_take, h, and_true]
  · rename_i h
    simp only [h, and_false, if_false, Nat.add_zero]

/-- One half of an allocation, for either side: a port is counted and, as long
as there are any, a stream is taken. -/
def allocateSide (c : Counters) (port stream : Category) (role owner : String) (asked : Bool) :
    Option UInt8 × List Fault × Counters :=
  if asked then
    match (c.take port owner).2.takeStream stream owner with
    | (some id, c) => (some id, [], c)
    | (none, c) => (none, [exhausted role owner], c)
  else (none, [], c)

theorem allocateMaster_eq (c : Counters) (owner : String) (d : Direction) :
    c.allocateMaster owner d = c.allocateSide .portIn .streamMaster hostWrite owner d.isMaster :=
  rfl

theorem allocateSlave_eq (c : Counters) (owner : String) (d : Direction) :
    c.allocateSlave owner d = c.allocateSide .portOut .streamSlave hostRead owner d.isSlave :=
  rfl

/-- The stream, the faults and the counts of one half of an allocation. -/
theorem allocateSide_spec (c : Counters) {port stream : Category} (role owner : String)
    (asked : Bool) (hne : stream ≠ port) :
    (c.allocateSide port stream role owner asked).1 =
        (if asked ∧ c.count stream < 16 then some (UInt8.ofNat (c.count stream)) else none) ∧
      (c.allocateSide port stream role owner asked).2.1 =
        (if asked ∧ ¬ c.count stream < 16 then [exhausted role owner] else []) ∧
      ∀ k, (c.allocateSide port stream role owner asked).2.2.count k =
        c.count k + (if k = port ∧ asked then 1 else 0) +
          if k = stream ∧ asked ∧ c.count stream < 16 then 1 else 0 := by
  unfold allocateSide
  cases asked with
  | false => simp
  | true =>
    have hkeep : (c.take port owner).2.count stream = c.count stream := by
      rw [count_take, if_neg hne, Nat.add_zero]
    have hfst := takeStream_fst (c.take port owner).2 stream owner
    have hcount := fun k => count_takeStream (c.take port owner).2 stream k owner
    simp only [hkeep, count_take] at hfst hcount
    rcases htake : (c.take port owner).2.takeStream stream owner with ⟨id?, c'⟩
    simp only [htake] at hfst hcount
    by_cases h16 : c.count stream < 16
    · rw [if_pos h16] at hfst
      subst hfst
      simp [h16, hcount]
    · rw [if_neg h16] at hfst
      subst hfst
      simp [h16, hcount]

/-- The streams, the faults and the counts of an allocation.  Each side is served
by what is left of its own category. -/
theorem allocateStreams_spec (c : Counters) (owner : String) (d : Direction) :
    (c.allocateStreams owner d).1 =
        { master := if d.isMaster ∧ c.count .streamMaster < 16 then
            some (UInt8.ofNat (c.count .streamMaster)) else none
          slave := if d.isSlave ∧ c.count .streamSlave < 16 then
            some (UInt8.ofNat (c.count .streamSlave)) else none } ∧
      (c.allocateStreams owner d).2.1 =
        (if d.isMaster ∧ ¬ c.count .streamMaster < 16 then [exhausted hostWrite owner] else []) ++
          (if d.isSlave ∧ ¬ c.count .streamSlave < 16 then [exhausted hostRead owner] else []) ∧
      ∀ k, (c.allocateStreams owner d).2.2.count k =
        c.count k + (if k = .portIn ∧ d.isMaster then 1 else 0) +
          (if k = .streamMaster ∧ d.isMaster ∧ c.count .streamMaster < 16 then 1 else 0) +
          (if k = .portOut ∧ d.isSlave then 1 else 0) +
          if k = .streamSlave ∧ d.isSlave ∧ c.count .streamSlave < 16 then 1 else 0 := by
  obtain ⟨hid, hfault, hcount⟩ := allocateSide_spec c hostWrite owner d.isMaster
    (show Category.streamMaster ≠ .portIn by decide)
  rw [← allocateMaster_eq] at hid hfault hcount
  -- The host-read half starts from the counters that the host-write half left.
  rcases hm : c.allocateMaster owner d with ⟨mid, mfaults, c₁⟩
  rw [hm] at hid hfault
  simp only [hm] at hcount
  obtain ⟨hid', hfault', hcount'⟩ := allocateSide_spec c₁ hostRead owner d.isSlave
    (show Category.streamSlave ≠ .portOut by decide)
  have hkeep : c₁.count .streamSlave = c.count .streamSlave := by simp [hcount]
  rw [← allocateSlave_eq, hkeep] at hid' hfault' hcount'
  rcases hs : c₁.allocateSlave owner d with ⟨sid, sfaults, c₂⟩
  rw [hs] at hid' hfault'
  simp only [hs] at hcount'
  have hall : c.allocateStreams owner d =
      ({ master := mid, slave := sid }, mfaults ++ sfaults, c₂) := by
    unfold allocateStreams
    rw [hm]
    simp only [hs]
  rw [hall]
  refine ⟨?_, ?_, fun k => ?_⟩
  · rw [← hid, ← hid']
  · rw [← hfault, ← hfault']
  · simp only [hcount', hcount]

/-- The identifiers of a GPIO device and what they count. -/
theorem allocateGpio_spec (c : Counters) (owner : String) (d : Direction) :
    (c.allocateGpio owner d).1.input =
        (if d.isMaster then some (UInt8.ofNat (c.count .gpi)) else none) ∧
      (c.allocateGpio owner d).1.output =
        (if d.isSlave then some (UInt8.ofNat (c.count .gpo)) else none) ∧
      ∀ k, (c.allocateGpio owner d).2.count k =
        c.count k + (if k = .gpi ∧ d.isMaster then 1 else 0) +
          if k = .gpo ∧ d.isSlave then 1 else 0 := by
  unfold allocateGpio
  cases hm : d.isMaster <;> cases hs : d.isSlave
  · simp
  · refine ⟨rfl, rfl, fun k => ?_⟩
    simp [count_take]
  · refine ⟨rfl, rfl, fun k => ?_⟩
    simp [count_take]
  · refine ⟨rfl, rfl, fun k => ?_⟩
    simp [count_take]

/-! ## Counters along a walk -/

/-- The counters behind the given GPIO devices and bindings.  Ports are counted
without a limit, streams up to sixteen. -/
structure Passed (b : Board) (gpios : List Gpio) (earlier : List Place) (c : Counters) : Prop where
  gpi : c.count .gpi = gpios.countP (·.direction.isMaster)
  gpo : c.count .gpo = gpios.countP (·.direction.isSlave)
  portIn : c.count .portIn = earlier.countP (b.asks Direction.isMaster)
  portOut : c.count .portOut = earlier.countP (b.asks Direction.isSlave)
  master : c.count .streamMaster = min (earlier.countP (b.asks Direction.isMaster)) 16
  slave : c.count .streamSlave = min (earlier.countP (b.asks Direction.isSlave)) 16

namespace Passed

variable {b : Board} {gpios : List Gpio} {earlier : List Place} {c : Counters}

theorem start (b : Board) : Passed b [] [] {} := by
  constructor <;> rfl

/-- Passing a GPIO device. -/
theorem gpio (h : Passed b gpios [] c) (g : Gpio) :
    Passed b (gpios ++ [g]) [] (c.allocateGpio g.name g.direction).2 := by
  obtain ⟨-, -, hcount⟩ := allocateGpio_spec c g.name g.direction
  constructor <;> rw [hcount]
  · simp [h.gpi, List.countP_append, List.countP_singleton]
  · simp [h.gpo, List.countP_append, List.countP_singleton]
  · simp [h.portIn]
  · simp [h.portOut]
  · simp [h.master]
  · simp [h.slave]

/-- Passing a binding that asks for nothing. -/
theorem skip (h : Passed b gpios earlier c) {p : Place} (hp : b.cpuPort? p = none) :
    Passed b gpios (earlier ++ [p]) c := by
  have hasks := Board.asks_of_no_cpuPort hp
  constructor
  · exact h.gpi
  · exact h.gpo
  · simp [h.portIn, List.countP_append, hasks]
  · simp [h.portOut, List.countP_append, hasks]
  · simp [h.master, List.countP_append, hasks]
  · simp [h.slave, List.countP_append, hasks]

theorem skipAll (h : Passed b gpios earlier c) {ps : List Place}
    (hps : ∀ p ∈ ps, b.cpuPort? p = none) : Passed b gpios (earlier ++ ps) c := by
  induction ps generalizing earlier with
  | nil => rwa [List.append_nil]
  | cons p ps ih =>
    rw [← List.singleton_append, ← List.append_assoc]
    exact ih (h.skip (hps p (by simp))) fun q hq => hps q (by simp [hq])

/-- The stream of one side and the fault of that side, once the counter of its
streams is known. -/
private theorem side_answers {side : Direction → Bool} {p : Place} {n : Nat}
    (hn : n = min (earlier.countP (b.asks side)) 16) (role owner : String) :
    (if b.asks side p ∧ n < 16 then some (UInt8.ofNat n) else none) = b.stream? side earlier p ∧
      (if b.asks side p ∧ ¬ n < 16 then [exhausted role owner] else []) =
        b.shortage side role owner earlier p := by
  unfold Board.stream? Board.shortage
  by_cases h16 : earlier.countP (b.asks side) < 16
  · have heq : n = earlier.countP (b.asks side) := by omega
    rw [heq]
    exact ⟨rfl, by simp [h16]⟩
  · have hlt : ¬ n < 16 := by omega
    simp [hlt, h16, Nat.le_of_not_lt h16]

/-- A counter that stops at sixteen follows one that does not. -/
private theorem limited_succ (n : Nat) (asked : Bool) :
    min n 16 + (if asked ∧ min n 16 < 16 then 1 else 0) = min (n + if asked then 1 else 0) 16 := by
  cases asked with
  | false => simp
  | true =>
    by_cases h16 : n < 16
    · have hmin : min n 16 = n := by omega
      rw [hmin, if_pos ⟨rfl, h16⟩, if_pos rfl]
      omega
    · have hmin : min n 16 = 16 := by omega
      rw [hmin, if_neg fun hlt => Nat.lt_irrefl 16 hlt.2, if_pos rfl]
      omega

/-- Passing a CPU binding: the streams are the next in line, a side without any
left is reported, and both sides count on. -/
theorem cpu (h : Passed b gpios earlier c) {p : Place} {port : Port}
    (hp : b.cpuPort? p = some port) (owner : String) :
    (c.allocateStreams owner port.direction).1 = b.streamsAfter earlier p ∧
      (c.allocateStreams owner port.direction).2.1 =
        b.shortage Direction.isMaster hostWrite owner earlier p ++
          b.shortage Direction.isSlave hostRead owner earlier p ∧
      Passed b gpios (earlier ++ [p]) (c.allocateStreams owner port.direction).2.2 := by
  obtain ⟨hstreams, hfaults, hcount⟩ := allocateStreams_spec c owner port.direction
  rw [← Board.asks_of_cpuPort hp Direction.isMaster, ← Board.asks_of_cpuPort hp Direction.isSlave]
    at hstreams hfaults hcount
  obtain ⟨hmaster, hwrite⟩ := side_answers (p := p) h.master hostWrite owner
  obtain ⟨hslave, hread⟩ := side_answers (p := p) h.slave hostRead owner
  refine ⟨?_, ?_, ?_⟩
  · rw [hstreams, hmaster, hslave]
    rfl
  · rw [hfaults, hwrite, hread]
  · have hlen : ∀ side, (earlier ++ [p]).countP (b.asks side) =
        earlier.countP (b.asks side) + [p].countP (b.asks side) := fun _ => List.countP_append
    constructor <;> rw [hcount]
    · simp [h.gpi]
    · simp [h.gpo]
    · simp [h.portIn, hlen, List.countP_singleton]
    · simp [h.portOut, hlen, List.countP_singleton]
    · rw [hlen, List.countP_singleton, ← limited_succ, ← h.master]
      simp
    · rw [hlen, List.countP_singleton, ← limited_succ, ← h.slave]
      simp

end Passed

end Counters

end Boardwright
