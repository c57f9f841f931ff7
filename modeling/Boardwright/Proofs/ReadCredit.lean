import Boardwright.Proofs.WordConservation

/-!
# Words and credit of the host-read streams

What the hardware gives on a stream is sent to the host in the same round, and
in polling mode every word costs one credit.  Both are read off the trace:
`readWords` are the words of a stream, `flushes` what was sent, and
`Outlet.settled` is a stream after a trace, its credit being the old one, the
credit that came and the words that were read.

All streams share one buffer.  What is sent for a stream is what the buffer held
before and the words of the stream, so nothing of another stream is sent only
because the buffer is empty whenever a stream has its turn.

* `fetch_fetched` is the loop of one stream, `fetchAll_fetched` that of all.  They
  are for any buffer: what was in it goes out with the first stream, and each
  stream leaves an empty buffer to the next.
* `settled_lawful` keeps the books along a session: the streams of a machine are
  the settled ones, a stream in polling mode is asked for a word only while its
  books show credit, and the buffer is empty between two rounds.
-/

namespace Boardwright.Server

/-! ## What a trace shows of a stream -/

namespace Event

/-- The word that the hardware gave on a stream. -/
def readFrom? (stream : Nat) : Event → Option UInt32
  | .read source word => if source = stream then word else none
  | _ => none

/-- What was sent to the host, and for which stream. -/
def flush? : Event → Option (Nat × List UInt32)
  | .flushed stream words => some (stream, words)
  | _ => none

/-- The credit that a stream gets. -/
def creditTo (stream : Nat) : Event → Int64
  | .credited target amount => if target = stream then amount else 0
  | _ => 0

end Event

/-- The words that the hardware gave on a stream, in order. -/
def readWords (stream : Nat) (trace : List Event) : List UInt32 :=
  trace.filterMap (Event.readFrom? stream)

/-- What was sent to the host, stream by stream. -/
def flushes (trace : List Event) : List (Nat × List UInt32) := trace.filterMap Event.flush?

/-- The credit that a stream gets in all. -/
def creditTotal (stream : Nat) (trace : List Event) : Int64 :=
  trace.foldr (fun event total => event.creditTo stream + total) 0

section Traces

variable {stream : Nat} {trace trace' : List Event}

@[simp] theorem readWords_nil : readWords stream [] = [] := rfl

theorem readWords_read (word : UInt32) :
    readWords stream (.read stream (some word) :: trace) = word :: readWords stream trace := by
  simp [readWords, Event.readFrom?]

@[simp] theorem creditTotal_nil : creditTotal stream [] = 0 := rfl

@[simp] theorem readWords_append :
    readWords stream (trace ++ trace') = readWords stream trace ++ readWords stream trace' :=
  List.filterMap_append

@[simp] theorem flushes_append : flushes (trace ++ trace') = flushes trace ++ flushes trace' :=
  List.filterMap_append

@[simp] theorem creditTotal_cons (event : Event) :
    creditTotal stream (event :: trace) = event.creditTo stream + creditTotal stream trace := rfl

@[simp] theorem creditTotal_append :
    creditTotal stream (trace ++ trace') =
      creditTotal stream trace + creditTotal stream trace' := by
  induction trace with
  | nil => simp
  | cons event trace ih =>
    rw [List.cons_append, creditTotal_cons, creditTotal_cons, ih, Int64.add_assoc]

theorem creditTotal_eq_zero (h : ∀ event ∈ trace, event.creditTo stream = 0) :
    creditTotal stream trace = 0 := by
  induction trace with
  | nil => rfl
  | cons event trace ih =>
    rw [creditTotal_cons, h event (by simp), ih fun event' h' => h event' (by simp [h'])]
    rfl

theorem readWords_of_phase (h : ∀ event ∈ trace, event.phase ≠ .reading) :
    readWords stream trace = [] := by
  apply List.filterMap_eq_nil_iff.2
  intro event hevent
  cases event with
  | read source word => exact absurd rfl (h _ hevent)
  | _ => rfl

theorem flushes_of_phase (h : ∀ event ∈ trace, event.phase ≠ .reading) : flushes trace = [] := by
  apply List.filterMap_eq_nil_iff.2
  intro event hevent
  cases event with
  | flushed target words => exact absurd rfl (h _ hevent)
  | _ => rfl

theorem creditTotal_of_phase (h : ∀ event ∈ trace, event.phase ≠ .receiving) :
    creditTotal stream trace = 0 := by
  apply creditTotal_eq_zero
  intro event hevent
  cases event with
  | credited target amount => exact absurd rfl (h _ hevent)
  | _ => rfl

/-- Neither was the hardware asked for a word of the stream, nor did the stream
get credit. -/
def Untouched (stream : Nat) (trace : List Event) : Prop :=
  ∀ event ∈ trace, (∀ word, event ≠ .read stream word) ∧ event.creditTo stream = 0

namespace Untouched

theorem append (h : Untouched stream trace) (h' : Untouched stream trace') :
    Untouched stream (trace ++ trace') := List.forall_mem_append.2 ⟨h, h'⟩

/-- Writing concerns no host-read stream. -/
theorem of_writing (h : ∀ event ∈ trace, event.phase = .writing) : Untouched stream trace := by
  intro event hevent
  have hphase := h event hevent
  cases event with
  | credited target amount => cases hphase
  | read source word => cases hphase
  | _ => exact ⟨by simp, rfl⟩

theorem readWords_eq (h : Untouched stream trace) : readWords stream trace = [] := by
  apply List.filterMap_eq_nil_iff.2
  intro event hevent
  cases event with
  | read source word =>
    have hne : source ≠ stream := by
      rintro rfl
      exact (h _ hevent).1 word rfl
    simp [Event.readFrom?, hne]
  | _ => rfl

theorem creditTotal_eq (h : Untouched stream trace) : creditTotal stream trace = 0 :=
  creditTotal_eq_zero fun event hevent => (h event hevent).2

end Untouched

end Traces

/-! ## The books of a stream -/

namespace Outlet

/-- A stream behind a trace. -/
def settled (o : Outlet) (stream : Nat) (trace : List Event) : Outlet :=
  { o with credit := o.credit + creditTotal stream trace -
      if o.polling then Int64.ofNat (readWords stream trace).length else 0 }

variable {o : Outlet} {stream : Nat} {trace trace' : List Event}

theorem settled_append : o.settled stream (trace ++ trace') =
    (o.settled stream trace).settled stream trace' := by
  obtain ⟨capacity, polling, credit⟩ := o
  unfold settled
  congr 1
  simp only [creditTotal_append, readWords_append, List.length_append, Int64.ofNat_add]
  cases polling <;> grind

theorem settled_eq_self (hread : readWords stream trace = [])
    (hcredit : creditTotal stream trace = 0) : o.settled stream trace = o := by
  obtain ⟨capacity, polling, credit⟩ := o
  unfold settled
  rw [hread, hcredit]
  cases polling <;> simp

theorem settled_untouched (h : Untouched stream trace) : o.settled stream trace = o :=
  settled_eq_self h.readWords_eq h.creditTotal_eq

/-- A word costs one credit in polling mode. -/
theorem settled_read (word : UInt32) : o.settled stream [.read stream (some word)] =
    if o.polling then { o with credit := o.credit - 1 } else o := by
  obtain ⟨capacity, polling, credit⟩ := o
  cases polling with
  | false => simp [settled, Event.creditTo]
  | true => simp [settled, Event.creditTo, readWords, Event.readFrom?]

theorem settled_credited (target : Int) (amount : Int64) :
    o.settled stream [.credited target amount] =
      if target = stream then { o with credit := o.credit + amount } else o := by
  obtain ⟨capacity, polling, credit⟩ := o
  have hread : ∀ target, readWords stream [.credited target amount] = [] := fun _ => rfl
  by_cases htarget : target = stream
  · cases polling <;> simp [settled, Event.creditTo, hread, htarget]
  · cases polling <;> simp [settled, Event.creditTo, hread, htarget]

@[simp] theorem settled_nil : o.settled stream [] = o := settled_untouched (by simp [Untouched])

/-- In polling mode the hardware is asked for a word only while there is credit. -/
def Funded (o : Outlet) (stream : Nat) (trace : List Event) : Prop :=
  o.polling = true → Throughout (fun before event => ∀ word, event = .read stream word →
    0 < (o.settled stream before).credit) trace

namespace Funded

theorem of_untouched (h : Untouched stream trace) : o.Funded stream trace := by
  intro _
  apply Throughout.of_mem
  intro event hevent before word heq
  exact absurd heq ((h event hevent).1 word)

theorem append (h : o.Funded stream trace) (h' : (o.settled stream trace).Funded stream trace') :
    o.Funded stream (trace ++ trace') := by
  intro hpolling
  refine (h hpolling).append ?_
  simp only [settled_append]
  exact h' hpolling

end Funded

end Outlet

namespace Machine

variable {ε : Type} (s : Surroundings ε)

/-! ## One stream -/

/-- Reading words of one stream into the buffer, with a limit for them. -/
structure Fetched (stream n : Nat) (o o' : Outlet) (buffer buffer' : List UInt32)
    (trace : List Event) : Prop where
  only : ∀ event ∈ trace, ∃ word, event = .read stream word
  buffered : buffer' = buffer ++ readWords stream trace
  limit : (readWords stream trace).length ≤ n
  outlet : o' = o.settled stream trace
  funded : o.Funded stream trace
  nonneg : 0 ≤ o.credit → 0 ≤ o'.credit

namespace Fetched

variable {stream n : Nat} {o o' : Outlet} {buffer buffer' : List UInt32} {trace : List Event}

/-- Nothing comes, asked for or not. -/
theorem nothing (honly : ∀ event ∈ trace, event = .read stream none)
    (hfunded : o.Funded stream trace) : Fetched stream n o o buffer buffer trace := by
  have hread : readWords stream trace = [] := by
    apply List.filterMap_eq_nil_iff.2
    intro event hevent
    simp [honly event hevent, Event.readFrom?]
  have hcredit : creditTotal stream trace = 0 := by
    apply creditTotal_eq_zero
    intro event hevent
    rw [honly event hevent]
    rfl
  exact ⟨fun event hevent => ⟨none, honly event hevent⟩, by rw [hread, List.append_nil],
    by rw [hread]; exact Nat.zero_le n, (Outlet.settled_eq_self hread hcredit).symm, hfunded, id⟩

/-- One more word in front. -/
theorem cons {word : UInt32} (hcredit : o.polling = true → 0 < o.credit)
    (h : Fetched stream n (o.settled stream [.read stream (some word)]) o' (buffer ++ [word])
      buffer' trace) :
    Fetched stream (n + 1) o o' buffer buffer' (.read stream (some word) :: trace) where
  only := List.forall_mem_cons.2 ⟨⟨_, rfl⟩, h.only⟩
  buffered := by
    rw [readWords_read, h.buffered, List.append_assoc]
    rfl
  limit := by
    rw [readWords_read]
    exact Nat.succ_le_succ h.limit
  outlet := by
    rw [h.outlet, ← Outlet.settled_append]
    rfl
  funded := by
    have hfirst : o.Funded stream [.read stream (some word)] := by
      intro hpolling
      refine .cons (fun _ _ => ?_) .nil
      rw [Outlet.settled_nil]
      exact hcredit hpolling
    exact hfirst.append h.funded
  nonneg hold := by
    refine h.nonneg ?_
    rw [Outlet.settled_read]
    cases hpolling : o.polling with
    | false => simpa using hold
    | true =>
      have hpos := hcredit hpolling
      show 0 ≤ o.credit - 1
      grind

end Fetched

theorem fetch_fetched (stream n : Nat) (o : Outlet) (buffer : List UInt32) (e : ε) :
    Fetched stream n o (fetch s stream n o buffer e).1.1 buffer (fetch s stream n o buffer e).1.2
      (fetch s stream n o buffer e).2.2 := by
  induction n generalizing o buffer e with
  | zero => exact .nothing (by simp [fetch]) (.of_untouched (by simp [fetch, Untouched]))
  | succ n ih =>
    unfold fetch
    split
    · exact .nothing (by simp) (.of_untouched (by simp [Untouched]))
    · rename_i hguard
      have hcredit : o.polling = true → 0 < o.credit := by
        intro hpolling
        simpa [hpolling] using hguard
      rcases hread : s.read e stream with ⟨_ | word, e'⟩
      · refine .nothing (by simp) fun hpolling => .cons (fun _ _ => ?_) .nil
        rw [Outlet.settled_nil]
        exact hcredit hpolling
      · have hrest := ih (o.settled stream [.read stream (some word)]) (buffer ++ [word]) e'
        rw [Outlet.settled_read] at hrest
        exact .cons hcredit (by rwa [Outlet.settled_read])

/-! ## All streams -/

/-- What a trace of reading does to one stream. -/
structure Served (stream : Nat) (o : Outlet) (trace : List Event) : Prop where
  limit : (readWords stream trace).length ≤ o.capacity.toNat
  funded : o.Funded stream trace
  nonneg : 0 ≤ o.credit → 0 ≤ (o.settled stream trace).credit

namespace Served

variable {stream : Nat} {o : Outlet} {trace trace' : List Event}

theorem behind (h : Served stream o trace') (huntouched : Untouched stream trace) :
    Served stream o (trace ++ trace') := by
  have hfunded := h.funded
  refine ⟨?_, ?_, ?_⟩
  · rw [readWords_append, huntouched.readWords_eq, List.nil_append]
    exact h.limit
  · refine (Outlet.Funded.of_untouched huntouched).append ?_
    rwa [Outlet.settled_untouched huntouched]
  · rw [Outlet.settled_append, Outlet.settled_untouched huntouched]
    exact h.nonneg

theorem inFront (h : Served stream o trace) (huntouched : Untouched stream trace') :
    Served stream o (trace ++ trace') := by
  refine ⟨?_, h.funded.append (.of_untouched huntouched), ?_⟩
  · rw [readWords_append, huntouched.readWords_eq, List.append_nil]
    exact h.limit
  · rw [Outlet.settled_append, Outlet.settled_untouched huntouched]
    exact h.nonneg

end Served

namespace Fetched

variable {stream : Nat} {o o' : Outlet} {buffer buffer' : List UInt32} {trace : List Event}

theorem served (h : Fetched stream o.capacity.toNat o o' buffer buffer' trace) :
    Served stream o trace := ⟨h.limit, h.funded, h.outlet ▸ h.nonneg⟩

/-- Reading and sending the words of one stream leaves the others alone. -/
theorem untouched {n i : Nat} (h : Fetched stream n o o' buffer buffer' trace) (hi : i ≠ stream) :
    Untouched i (trace ++ [.flushed stream buffer']) := by
  intro event hevent
  rcases List.mem_append.1 hevent with hread | hflush
  · obtain ⟨word, rfl⟩ := h.only event hread
    refine ⟨fun word' heq => ?_, rfl⟩
    injection heq with heq
    exact hi heq.symm
  · rw [List.mem_singleton.1 hflush]
    exact ⟨by simp, rfl⟩

theorem flushes_eq {n : Nat} (h : Fetched stream n o o' buffer buffer' trace) :
    flushes trace = [] := by
  apply List.filterMap_eq_nil_iff.2
  intro event hevent
  obtain ⟨word, rfl⟩ := h.only event hevent
  rfl

end Fetched

/-- Reading and sending the words of the streams from `first` on.  What the buffer
holds at first is sent with the words of the first stream. -/
structure AllFetched (first : Nat) (os os' : List Outlet) (buffer buffer' : List UInt32)
    (trace : List Event) : Prop where
  outlets : os' = os.mapIdx fun i o => o.settled (first + i) trace
  sent : flushes trace = (List.range os.length).map fun i =>
    (first + i, (if i = 0 then buffer else []) ++ readWords (first + i) trace)
  emptied : buffer' = if os.isEmpty then buffer else []
  served : ∀ (i : Nat) (o : Outlet), os[i]? = some o → Served (first + i) o trace
  earlier : ∀ i, i < first → Untouched i trace

/-- One more stream in front.  Every stream sees its own part of the trace only, and
the stream in front leaves an empty buffer to the others. -/
theorem AllFetched.cons {first : Nat} {o o' : Outlet} {os os' : List Outlet}
    {buffer buffer' after : List UInt32} {trace rest : List Event}
    (ho : Fetched first o.capacity.toNat o o' buffer buffer' trace)
    (hos : AllFetched (first + 1) os os' [] after rest) :
    AllFetched first (o :: os) (o' :: os') buffer after
      (trace ++ .flushed first buffer' :: rest) := by
  have hflushed : Untouched first [.flushed first buffer'] := by simp [Untouched, Event.creditTo]
  have hlater := hos.earlier first (by omega)
  have hfront : ∀ i, Untouched (first + 1 + i) (trace ++ [.flushed first buffer']) :=
    fun i => ho.untouched (by omega)
  rw [List.append_cons]
  have hsettled : o.settled first (trace ++ [.flushed first buffer'] ++ rest) = o' := by
    rw [Outlet.settled_append, Outlet.settled_untouched hlater, Outlet.settled_append,
      Outlet.settled_untouched hflushed]
    exact ho.outlet.symm
  have hothers : (fun i (o₁ : Outlet) =>
      o₁.settled (first + (i + 1)) (trace ++ [.flushed first buffer'] ++ rest)) =
        fun i o₁ => o₁.settled (first + 1 + i) rest := by
    funext i o₁
    rw [show first + (i + 1) = first + 1 + i by omega, Outlet.settled_append,
      Outlet.settled_untouched (hfront i)]
  have hwords : buffer ++ readWords first (trace ++ [.flushed first buffer'] ++ rest) =
      buffer' := by
    rw [readWords_append, readWords_append, hlater.readWords_eq, hflushed.readWords_eq,
      List.append_nil, List.append_nil]
    exact ho.buffered.symm
  refine ⟨?_, ?_, ?_, ?_, ?_⟩
  · rw [List.mapIdx_cons, Nat.add_zero, hsettled, hothers, hos.outlets]
  · rw [flushes_append, flushes_append, ho.flushes_eq, hos.sent, List.length_cons,
      List.range_succ_eq_map, List.map_cons, List.map_map]
    simp only [Nat.add_zero, if_true, hwords]
    refine congrArg ((first, buffer') :: ·) (List.map_congr_left fun i _ => ?_)
    rw [Function.comp, Nat.succ_eq_add_one, show first + (i + 1) = first + 1 + i by omega,
      readWords_append, (hfront i).readWords_eq, List.nil_append, ite_self,
      if_neg (Nat.succ_ne_zero i)]
  · rw [hos.emptied]
    simp
  · intro i o₁ ho₁
    cases i with
    | zero =>
      obtain rfl : o = o₁ := Option.some.inj ho₁
      exact (ho.served.inFront hflushed).inFront hlater
    | succ i =>
      rw [show first + (i + 1) = first + 1 + i by omega]
      exact (hos.served i o₁ ho₁).behind (hfront i)
  · intro i hi
    exact (ho.untouched (by omega)).append (hos.earlier i (by omega))

theorem fetchAll_fetched (first : Nat) (os : List Outlet) (buffer : List UInt32) (e : ε) :
    AllFetched first os (fetchAll s first os buffer e).1.1 buffer
      (fetchAll s first os buffer e).1.2 (fetchAll s first os buffer e).2.2 := by
  induction os generalizing first buffer e with
  | nil => exact ⟨rfl, rfl, rfl, by simp, by simp [fetchAll, Untouched]⟩
  | cons o os ih =>
    exact .cons (fetch_fetched s first o.capacity.toNat o buffer e) (ih (first + 1) [] _)

/-! ## Sessions -/

/-- The host-read streams follow the books, those that need credit are read on
credit only, and an empty buffer is empty again. -/
structure Settled (m m' : Machine) (trace : List Event) : Prop where
  buffer : m.buffer = [] → m'.buffer = []
  outlets : m'.outlets = m.outlets.mapIdx fun i o => o.settled i trace
  funded : ∀ (i : Nat) (o : Outlet), m.outlets[i]? = some o → o.Funded i trace

theorem Settled.untouched {m m' : Machine} {trace : List Event} (hbuffer : m'.buffer = m.buffer)
    (houtlets : m'.outlets = m.outlets) (h : ∀ i, Untouched i trace) : Settled m m' trace where
  buffer := by
    rw [hbuffer]
    exact id
  outlets := by
    rw [houtlets]
    simp only [Outlet.settled_untouched (h _)]
    exact (List.mapIdx_eq_iff.2 fun i => by simp).symm
  funded i o _ := .of_untouched (h i)

theorem Settled.trans {m m' m'' : Machine} {trace trace' : List Event} (h : Settled m m' trace)
    (h' : Settled m' m'' trace') : Settled m m'' (trace ++ trace') where
  buffer := h'.buffer ∘ h.buffer
  outlets := by
    rw [h'.outlets, h.outlets, List.mapIdx_mapIdx]
    simp only [Outlet.settled_append]
    rfl
  funded i o ho := by
    refine (h.funded i o ho).append (h'.funded i _ ?_)
    rw [h.outlets, List.getElem?_mapIdx, ho]
    rfl

theorem deliver_frame (m : Machine) (stream : Int) (word : UInt32) :
    (m.deliver stream word).2.buffer = m.buffer ∧
      (m.deliver stream word).2.outlets = m.outlets := by
  unfold deliver
  split
  · exact ⟨rfl, rfl⟩
  · split <;> exact ⟨rfl, rfl⟩

theorem addCredit_buffer (m : Machine) (stream : Int) (amount : Int64) :
    (m.addCredit stream amount).buffer = m.buffer := by
  unfold addCredit
  split <;> rfl

theorem addCredit_settled (m : Machine) (stream : Int) (amount : Int64) :
    Settled m (m.addCredit stream amount) [.credited stream amount] := by
  refine ⟨?_, ?_, fun i o _ _ => .cons (by simp) .nil⟩
  · rw [addCredit_buffer]
    exact id
  symm
  rw [List.mapIdx_eq_iff]
  intro i
  simp only [Outlet.settled_credited]
  unfold addCredit
  cases hindex : index? stream m.outlets.length with
  | none =>
    cases ho : m.outlets[i]? with
    | none => rfl
    | some o =>
      have hne : stream ≠ i := by
        intro heq
        have hlt := (List.getElem?_eq_some_iff.1 ho).1
        rw [index?_eq_some.2 ⟨heq, hlt⟩] at hindex
        cases hindex
      simp [hne]
  | some k =>
    obtain ⟨rfl, -⟩ := index?_eq_some.1 hindex
    rw [List.getElem?_modify]
    cases ho : m.outlets[i]? with
    | none => rfl
    | some o =>
      by_cases heq : k = i
      · simp [heq]
      · have hne : (k : Int) ≠ i := by omega
        simp [heq, hne]

theorem settled_lawful : Lawful s Settled where
  refl m := .untouched rfl rfl (by simp [Untouched])
  trans := Settled.trans
  deliver m stream word := by
    obtain ⟨hbuffer, houtlets⟩ := deliver_frame m stream word
    exact .untouched hbuffer houtlets (by simp [Untouched, Event.creditTo])
  credit := addCredit_settled
  drain m e := .untouched rfl rfl fun i => .of_writing (drainAll_phase s 0 m.inlets e)
  fetch m e := by
    have hfetched := fetchAll_fetched s 0 m.outlets m.buffer e
    refine ⟨fun hbuffer => ?_, ?_, fun i o ho => ?_⟩
    · show (fetchAll s 0 m.outlets m.buffer e).1.2 = []
      rw [hfetched.emptied, hbuffer, ite_self]
    · simpa using hfetched.outlets
    · simpa using (hfetched.served i o ho).funded

/-- Words are read in the last part of a round, credit comes in the first. -/
theorem step_parts (m : Machine) (e : ε) (i : Nat) :
    readWords i (m.step s e).2.2 = readWords i (m.fetched s e).2.2 ∧
      readWords i (m.received s e).2.2 = [] ∧
      flushes (m.step s e).2.2 = flushes (m.fetched s e).2.2 ∧
      creditTotal i (m.step s e).2.2 = creditTotal i (m.received s e).2.2 := by
  have hreceived : ∀ event ∈ (m.received s e).2.2, event.phase ≠ .reading := by
    intro event hevent
    simp [received_phase s m e event hevent]
  have hdrained : ∀ event ∈ (m.drained s e).2.2,
      event.phase ≠ .reading ∧ event.phase ≠ .receiving := by
    intro event hevent
    simp [drained_phase s m e event hevent]
  have hfetched : ∀ event ∈ (m.fetched s e).2.2, event.phase ≠ .receiving := by
    intro event hevent
    simp [fetched_phase s m e event hevent]
  have hwritten := fun event hevent => (hdrained event hevent).1
  have hwritten' := fun event hevent => (hdrained event hevent).2
  simp [step_eq, readWords_of_phase hreceived, readWords_of_phase hwritten,
    flushes_of_phase hreceived, flushes_of_phase hwritten, creditTotal_of_phase hwritten',
    creditTotal_of_phase hfetched]

/-- What a round does for the host-read streams if it starts with an empty buffer: it
sends each stream's words once, in order, and never more of them than fit; and
reading does not overdraw the credit that a stream has when everything was received. -/
theorem step_served {m : Machine} (hempty : m.buffer = []) (e : ε) :
    flushes (m.step s e).2.2 =
        (List.range m.outlets.length).map (fun i => (i, readWords i (m.step s e).2.2)) ∧
      ∀ (i : Nat) (o : Outlet), m.outlets[i]? = some o →
        (readWords i (m.step s e).2.2).length ≤ o.capacity.toNat ∧
        ∃ heard after, (m.received s e).1.outlets[i]? = some heard ∧
          (m.step s e).1.outlets[i]? = some after ∧
          heard.credit = o.credit + creditTotal i (m.step s e).2.2 ∧
          after.credit = (if o.polling then
            heard.credit - Int64.ofNat (readWords i (m.step s e).2.2).length else heard.credit) ∧
          (0 ≤ heard.credit → 0 ≤ after.credit) := by
  have hreceived : Settled m (m.received s e).1 (m.received s e).2.2 :=
    (settled_lawful s).receive (s.receive e) m
  have hfetched : AllFetched 0 (m.received s e).1.outlets (m.fetched s e).1.1
      (m.received s e).1.buffer (m.fetched s e).1.2 (m.fetched s e).2.2 :=
    fetchAll_fetched s 0 (m.received s e).1.outlets (m.received s e).1.buffer (m.drained s e).2.1
  constructor
  · rw [(step_parts s m e 0).2.2.1, hfetched.sent, hreceived.outlets, List.length_mapIdx,
      hreceived.buffer hempty]
    refine List.map_congr_left fun i _ => ?_
    rw [Nat.zero_add, (step_parts s m e i).1, ite_self, List.nil_append]
  · intro i o ho
    obtain ⟨hread, hnone, -, hcredit⟩ := step_parts s m e i
    have hquiet : creditTotal i (m.fetched s e).2.2 = 0 := by
      apply creditTotal_of_phase
      intro event hevent
      simp [fetched_phase s m e event hevent]
    have hheard : (m.received s e).1.outlets[i]? = some (o.settled i (m.received s e).2.2) := by
      rw [hreceived.outlets, List.getElem?_mapIdx, ho]
      rfl
    have hafter : (m.step s e).1.outlets[i]? =
        some ((o.settled i (m.received s e).2.2).settled i (m.fetched s e).2.2) := by
      rw [step_eq, hfetched.outlets, List.getElem?_mapIdx, hheard, Nat.zero_add]
      rfl
    have hserved := hfetched.served i _ hheard
    rw [Nat.zero_add] at hserved
    refine ⟨hread ▸ hserved.limit, _, _, hheard, hafter, ?_, ?_, hserved.nonneg⟩
    · rw [hcredit, Outlet.settled, hnone]
      simp
    · rw [hread]
      show (o.settled i (m.received s e).2.2).credit + creditTotal i (m.fetched s e).2.2 -
        (if o.polling then Int64.ofNat (readWords i (m.fetched s e).2.2).length else 0) = _
      rw [hquiet, Int64.add_zero]
      by_cases hpolling : o.polling = true
      · rw [if_pos hpolling, if_pos hpolling]
      · rw [if_neg hpolling, if_neg hpolling, Int64.sub_zero]

/-- The read side of the server keeps its books.  Whatever happened before and
whatever host and hardware do, the buffer that all streams share is empty between
two rounds, and a round sends the host, once for each stream and in the order of
the streams, exactly the words that it read on that stream, and no more of them
than the stream may send at once.  The credit of a stream is what it started with
and got since, less the words read in polling mode.  In polling mode no word is
asked for without credit, so that reading overdraws nothing; in the other mode
reading leaves the credit alone.  The calls are as host and hardware have them on
record. -/
theorem reads_settled (inlets : List Nat) (outlets : List Outlet) (actions : List (Action ε))
    (e : ε) :
    let past := session s actions (new inlets outlets) e
    let seen := observed s actions (new inlets outlets) e
    let round := past.1.step s past.2.1
    let now := observed s [.round] past.1 past.2.1
    past.1.buffer = [] ∧ round.1.buffer = [] ∧
      flushes now = (List.range outlets.length).map (fun i => (i, readWords i now)) ∧
      ∀ (i : Nat) (o : Outlet), outlets[i]? = some o →
        (readWords i now).length ≤ o.capacity.toNat ∧
        (∃ before heard after, past.1.outlets[i]? = some before ∧
          (past.1.received s past.2.1).1.outlets[i]? = some heard ∧
          round.1.outlets[i]? = some after ∧
          before.credit = o.credit + creditTotal i seen -
            (if o.polling then Int64.ofNat (readWords i seen).length else 0) ∧
          heard.credit = before.credit + creditTotal i now ∧
          after.credit = (if o.polling then
            heard.credit - Int64.ofNat (readWords i now).length else heard.credit) ∧
          (0 ≤ heard.credit → 0 ≤ after.credit)) ∧
        (o.polling = true → Throughout (fun before event => ∀ word, event = .read i word →
          0 < o.credit + creditTotal i before - Int64.ofNat (readWords i before).length)
            seen) := by
  intro past seen round now
  have hseen : seen = past.2.2 := observed_eq s actions (new inlets outlets) e
  have hnow : now = round.2.2 := observed_round s past.1 past.2.1
  have hpast : Settled (new inlets outlets) past.1 past.2.2 :=
    (settled_lawful s).session actions (new inlets outlets) e
  have hempty : past.1.buffer = [] := hpast.buffer rfl
  obtain ⟨hsent, hserved⟩ := step_served s hempty past.2.1
  have hlength : past.1.outlets.length = outlets.length := by
    rw [hpast.outlets, List.length_mapIdx]
    rfl
  rw [hseen, hnow]
  refine ⟨hempty, ((settled_lawful s).step past.1 past.2.1).buffer hempty,
    by rw [hsent, hlength], fun i o ho => ?_⟩
  have hbefore : past.1.outlets[i]? = some (o.settled i past.2.2) := by
    rw [hpast.outlets, List.getElem?_mapIdx, show (new inlets outlets).outlets[i]? = some o from ho]
    rfl
  obtain ⟨hlimit, heard, after, hheard, hafter, hgot, hspent, hnonneg⟩ := hserved i _ hbefore
  refine ⟨hlimit, ⟨_, heard, after, hbefore, hheard, hafter, rfl, hgot, hspent, hnonneg⟩,
    fun hpolling => ?_⟩
  have hfunded := hpast.funded i o ho hpolling
  simpa only [Outlet.settled, hpolling, if_true] using hfunded

/-- A host that gives the second stream two credits in every round, and hardware
that has as many words as its state says, on whatever stream it is asked. -/
def creditingHost : Surroundings Nat where
  receive e := .credit 1 2 (.done e)
  write e _ _ := (false, e)
  read e _ := if e = 0 then (none, 0) else (some (UInt32.ofNat e), e - 1)
  poll e _ := e
  flush e _ _ := e

/-- One stream that is read freely and one that is read on credit. -/
def mixedOutlets : List Outlet :=
  [{ capacity := 3 }, { capacity := 8, polling := true, credit := 1 }]

theorem reads_settled_mixed :
    let actions : List (Action Nat) := [.round, .inbox fun e => .credit 1 5 (.done e)]
    let past := session creditingHost actions (new [] mixedOutlets) 12
    let round := past.1.step creditingHost past.2.1
    let now := observed creditingHost [.round] past.1 past.2.1
    mixedOutlets[1]? = some { capacity := 8, polling := true, credit := 1 } ∧
      round.1.buffer = [] ∧
      flushes now = [(0, [6, 5, 4]), (1, [3, 2, 1])] ∧
      (readWords 1 now).length ≤ 8 ∧
      past.1.outlets.map (·.credit) = [0, 5] ∧
      ∃ after, round.1.outlets[1]? = some after ∧ after.credit = 5 + 2 - 3 := by
  intro actions past round now
  obtain ⟨-, hempty, hsent, hstreams⟩ := reads_settled creditingHost [] mixedOutlets actions 12
  obtain ⟨hlimit, ⟨before, heard, after, -, hheard, hafter, -, -, hspent, -⟩, -⟩ :=
    hstreams 1 _ rfl
  have hseven : heard.credit = 7 := by
    rw [← Option.some.inj hheard]
    decide
  refine ⟨rfl, hempty, hsent.trans (by decide), hlimit, by decide, after, hafter, ?_⟩
  rw [hspent, hseven]
  decide

end Machine

end Boardwright.Server
