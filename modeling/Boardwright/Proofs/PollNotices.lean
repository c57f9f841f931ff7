import Boardwright.Proofs.WordConservation

/-!
# Notices of room

A host whose word was refused waits for a notice that its stream has room again.
If the notice does not come, the host waits for ever; if it comes too often, the
host is disturbed for nothing.

* `drain_polls` counts the notices of one queue: one if the queue was full and a
  word left it, none otherwise.  `step_polls` carries that to a round.
* `hostWaits` is what the host knows of a stream: it was refused and has not
  been told about room since.  `informed_lawful` says that the queue of a stream
  for which the host waits is full, so that nothing is accepted for it.
-/

namespace Boardwright.Server

namespace Queue

variable {q : Queue}

/-- A queue is one short of its capacity right after a word was taken from the
full queue, and it is not full then. -/
theorem Valid.take_relieves (h : q.Valid) {w : UInt32} (hpeek : q.peek = some w) :
    (q.take.2.size + 1 = q.take.2.capacity ↔ q.isFull = true) ∧ q.take.2.isFull = false := by
  have hpos := size_pos_of_peek hpeek
  have hsize := h.size_le
  have htake : q.take.2.size = q.size - 1 := by rw [take_of_peek hpeek]
  have hcapacity := capacity_take q
  constructor
  · rw [htake, hcapacity, isFull, beq_iff_eq]
    omega
  · rw [isFull, htake, hcapacity, beq_eq_false_iff_ne]
    omega

end Queue

/-! ## What the host knows -/

/-- Whether the host waits for room on a stream when it has seen an event, and
waited before or not. -/
def Event.hostWaits (stream : Nat) (waits : Bool) : Event → Bool
  | .delivered target _ false => waits || decide (target = stream)
  | .polled target => waits && decide (target ≠ stream)
  | _ => waits

/-- Whether the host waits for room on a stream behind a trace: it was refused,
and it was not polled since. -/
def hostWaits (stream : Nat) (waits : Bool) (trace : List Event) : Bool :=
  trace.foldl (Event.hostWaits stream) waits

theorem hostWaits_append (stream : Nat) (waits : Bool) (trace trace' : List Event) :
    hostWaits stream waits (trace ++ trace') =
      hostWaits stream (hostWaits stream waits trace) trace' := List.foldl_append

theorem hostWaits_cons (stream : Nat) (waits : Bool) (event : Event) (trace : List Event) :
    hostWaits stream waits (event :: trace) =
      hostWaits stream (event.hostWaits stream waits) trace := rfl

theorem hostWaits_idle {stream : Nat} {trace : List Event}
    (h : ∀ event ∈ trace, ∀ waits, event.hostWaits stream waits = waits) (waits : Bool) :
    hostWaits stream waits trace = waits := by
  induction trace generalizing waits with
  | nil => rfl
  | cons event trace ih =>
    rw [hostWaits_cons, h event (by simp), ih fun event' h' => h event' (by simp [h'])]

/-- A host that waits goes on to wait as long as it is not polled. -/
theorem hostWaits_of_not_polled {stream : Nat} {trace : List Event}
    (h : .polled stream ∉ trace) : hostWaits stream true trace = true := by
  induction trace with
  | nil => rfl
  | cons event trace ih =>
    rw [List.mem_cons, not_or] at h
    obtain ⟨hevent, htrace⟩ := h
    have hstays : event.hostWaits stream true = true := by
      cases event with
      | delivered target word accepted => cases accepted <;> rfl
      | polled target =>
        have hne : target ≠ stream := by
          rintro rfl
          exact hevent rfl
        simp [Event.hostWaits, hne]
      | _ => rfl
    rw [hostWaits_cons, hstays, ih htrace]

/-- A host that waits behind a part of a round in which words are written has
waited before and was not polled. -/
theorem hostWaits_writing {stream : Nat} {waits : Bool} {trace : List Event}
    (h : ∀ event ∈ trace, event.phase = .writing) (hstill : hostWaits stream waits trace = true) :
    waits = true ∧ .polled stream ∉ trace := by
  induction trace generalizing waits with
  | nil => exact ⟨hstill, by simp⟩
  | cons event trace ih =>
    rw [hostWaits_cons] at hstill
    obtain ⟨hbefore, hnone⟩ := ih (fun event' h' => h event' (by simp [h'])) hstill
    cases event with
    | written target word accepted => exact ⟨hbefore, by simp [hnone]⟩
    | polled target =>
      rw [Event.hostWaits, Bool.and_eq_true, decide_eq_true_eq] at hbefore
      refine ⟨hbefore.1, ?_⟩
      simp [hnone, Ne.symm hbefore.2]
    | _ => cases h _ List.mem_cons_self

namespace Machine

variable {ε : Type} (s : Surroundings ε)

/-! ## Notices of one queue -/

theorem drain_capacity (stream n : Nat) (q : Queue) (e : ε) :
    (drain s stream n q e).1.capacity = q.capacity := by
  induction n generalizing q e with
  | zero => rfl
  | succ n ih =>
    unfold drain
    split
    · rfl
    · split
      · rfl
      · simp only
        split
        · exact (ih _ _).trans (Queue.capacity_take q)
        · exact (ih _ _).trans (Queue.capacity_take q)

/-- A queue that is drained is polled for once if it was full and the hardware
took a word, and else not at all. -/
theorem drain_polls (stream n : Nat) {q : Queue} (h : q.Valid) (e : ε) (i : Nat) :
    (drain s stream n q e).2.2.count (.polled i) =
      if i = stream ∧ q.isFull = true ∧ writtenWords stream (drain s stream n q e).2.2 ≠ []
      then 1 else 0 := by
  induction n generalizing q e with
  | zero => simp [drain]
  | succ n ih =>
    unfold drain
    cases hpeek : q.peek with
    | none => simp
    | some word =>
      obtain ⟨hrelief, hroom⟩ := h.take_relieves hpeek
      rcases hwrite : s.write e stream word with ⟨accepted, e'⟩
      cases accepted with
      | false => simp [hwrite, writtenWords_cons, Event.writtenTo?]
      | true =>
        -- Behind the first word the queue is not full, so no later word is polled for.
        have hlater : ∀ e, (drain s stream n q.take.2 e).2.2.count (.polled i) = 0 := by
          intro e
          rw [ih h.take, hroom]
          simp
        simp only [hwrite]
        split
        · rename_i hfull
          rw [hrelief] at hfull
          by_cases hi : i = stream
          · subst hi
            simp [hlater, writtenWords_cons, Event.writtenTo?, hfull]
          · have hne : stream ≠ i := Ne.symm hi
            simp [hlater, hi, hne]
        · rename_i hfull
          rw [hrelief] at hfull
          simp [hlater, hfull]

/-! ## Notices of a round -/

/-- The queue of a stream has room for words in general, but not now. -/
def fullAt (qs : List Queue) (stream : Nat) : Bool :=
  (qs[stream]?).any fun q => 0 < q.capacity && q.isFull

theorem drainAll_capacities (first : Nat) (qs : List Queue) (e : ε) :
    (drainAll s first qs e).1.map Queue.capacity = qs.map Queue.capacity := by
  induction qs generalizing first e with
  | nil => rfl
  | cons q qs ih =>
    simp only [drainAll, List.map_cons, drain_capacity]
    rw [ih]

/-- The hardware takes no word from a queue that cannot hold any. -/
theorem drain_nothing {stream n : Nat} {q : Queue} (h : q.Valid) (hcapacity : q.capacity = 0)
    (e : ε) : writtenWords stream (drain s stream n q e).2.2 = [] := by
  have hsize : q.toList.length = 0 := by
    rw [h.length_toList]
    have hle := h.size_le
    omega
  have hwords := (drain_drained s stream n h e).words
  rw [List.eq_nil_of_length_eq_zero hsize] at hwords
  exact (List.append_eq_nil_iff.1 hwords.symm).1

/-- Each of the queues from `first` on is polled for as it is drained. -/
theorem drainAll_polls (first : Nat) {qs : List Queue} (h : ∀ q ∈ qs, q.Valid) (e : ε) (k : Nat) :
    (k < first → (drainAll s first qs e).2.2.count (.polled k) = 0) ∧
      (drainAll s first qs e).2.2.count (.polled (first + k)) =
        if fullAt qs k = true ∧ writtenWords (first + k) (drainAll s first qs e).2.2 ≠ []
        then 1 else 0 := by
  induction qs generalizing first e k with
  | nil => simp [drainAll, fullAt]
  | cons q qs ih =>
    have hvalid := h q (by simp)
    have hvalids : ∀ q' ∈ qs, q'.Valid := fun q' hq' => h q' (by simp [hq'])
    have hq := drain_polls s first q.capacity hvalid e
    have hdrained := drain_drained s first q.capacity hvalid e
    have hothers :=
      (drainAll_drained s (first + 1) hvalids (drain s first q.capacity q e).2.1).others
    have hqs := ih (first + 1) hvalids (drain s first q.capacity q e).2.1
    simp only [drainAll, List.count_append, writtenWords_append]
    refine ⟨fun hk => ?_, ?_⟩
    · rw [hq, (hqs k).1 (by omega), if_neg]
      rintro ⟨rfl, -⟩
      omega
    · cases k with
      | zero =>
        rw [Nat.add_zero, hq, (hqs first).1 (by omega), hothers first (by omega), List.append_nil]
        by_cases hcapacity : q.capacity = 0
        · simp [drain_nothing s hvalid hcapacity]
        · simp [fullAt, Nat.pos_of_ne_zero hcapacity]
      | succ k =>
        rw [show first + (k + 1) = first + 1 + k by omega, hq, (hqs k).2,
          hdrained.others (first + 1 + k) (by omega), List.nil_append, if_neg, Nat.zero_add]
        · rfl
        · rintro ⟨heq, -⟩
          omega

theorem count_polled_of_phase {trace : List Event} (h : ∀ event ∈ trace, event.phase ≠ .writing)
    (stream : Nat) : trace.count (.polled stream) = 0 := by
  apply List.count_eq_zero.2
  intro hmem
  exact h _ hmem rfl

/-- A round polls for a stream once if its queue was full when everything was
received and the hardware took a word from it, and else not at all. -/
theorem step_polls {m : Machine} (h : ∀ q ∈ m.inlets, q.Valid) (e : ε) (stream : Nat) :
    (m.step s e).2.2.count (.polled stream) =
      if fullAt (m.received s e).1.inlets stream = true ∧
        writtenWords stream (m.step s e).2.2 ≠ [] then 1 else 0 := by
  have hbefore : ∀ event ∈ (m.received s e).2.2, event.phase ≠ .writing := by
    intro event hevent
    simp [received_phase s m e event hevent]
  have hafter : ∀ event ∈ (m.fetched s e).2.2, event.phase ≠ .writing := by
    intro event hevent
    simp [fetched_phase s m e event hevent]
  have hvalid := ((moves_lawful s).receive (s.receive e) m h).valid
  have hpolls := (drainAll_polls s 0 hvalid (m.received s e).2.1 stream).2
  rw [Nat.zero_add] at hpolls
  simp only [step_eq, List.count_append, writtenWords_append, count_polled_of_phase hbefore,
    count_polled_of_phase hafter, writtenWords_of_phase hbefore, writtenWords_of_phase hafter,
    List.nil_append, List.append_nil, Nat.zero_add, Nat.add_zero]
  exact hpolls

/-! ## What the host knows is right -/

/-- Nothing more can be queued for a stream. -/
def Blocked (qs : List Queue) (stream : Nat) : Prop := ∀ q, qs[stream]? = some q → q.isFull = true

/-- What the host knows is right: it waits for a stream only while nothing can be
queued for it, and no word is accepted while it waits. -/
structure Informed (stream : Nat) (m m' : Machine) (trace : List Event) : Prop where
  valid : ∀ q ∈ m'.inlets, q.Valid
  capacities : m'.inlets.map Queue.capacity = m.inlets.map Queue.capacity
  accepted : ∀ waits, (waits = true → Blocked m.inlets stream) →
    Throughout (fun before event => ∀ word, event = .delivered stream word true →
      hostWaits stream waits before = false) trace
  blocked : ∀ waits, (waits = true → Blocked m.inlets stream) →
    hostWaits stream waits trace = true → Blocked m'.inlets stream

namespace Informed

variable {stream : Nat} {m m' m'' : Machine} {trace trace' : List Event}

theorem trans (h : Informed stream m m' trace) (h' : Informed stream m' m'' trace') :
    Informed stream m m'' (trace ++ trace') where
  valid := h'.valid
  capacities := h'.capacities.trans h.capacities
  accepted waits hwaits := by
    refine (h.accepted waits hwaits).append ?_
    simp only [hostWaits_append]
    exact h'.accepted _ (h.blocked waits hwaits)
  blocked waits hwaits := by
    rw [hostWaits_append]
    exact h'.blocked _ (h.blocked waits hwaits)

/-- Events that say nothing about room. -/
theorem idle (hvalid : ∀ q ∈ m.inlets, q.Valid) (hinlets : m'.inlets = m.inlets)
    (hidle : ∀ event ∈ trace, ∀ waits, event.hostWaits stream waits = waits)
    (hnone : ∀ event ∈ trace, event.phase = .reading ∨ ∃ i n, event = .credited i n) :
    Informed stream m m' trace where
  valid := by rwa [hinlets]
  capacities := by rw [hinlets]
  accepted waits _ := by
    apply Throughout.of_mem
    rintro event hevent before word rfl
    rcases hnone _ hevent with hphase | ⟨i, n, heq⟩
    · cases hphase
    · cases heq
  blocked waits hwaits hstill := by
    rw [hostWaits_idle hidle] at hstill
    rw [hinlets]
    exact hwaits hstill

end Informed

/-- A stream for which a word is refused has a full queue or none, and a word is
accepted only where there is room. -/
theorem deliver_informed (stream : Nat) {m : Machine} (h : ∀ q ∈ m.inlets, q.Valid) (target : Int)
    (word : UInt32) :
    Informed stream m (m.deliver target word).2
      [.delivered target word (m.deliver target word).1] := by
  have hvalid := (deliver_moves h target word).valid
  unfold deliver at hvalid ⊢
  cases hindex : index? target m.inlets.length with
  | none =>
    simp only [hindex] at hvalid
    refine ⟨hvalid, rfl, fun waits _ => .cons (by simp) .nil, fun waits hwaits hstill q hq => ?_⟩
    have hne : target ≠ stream := by
      intro heq
      obtain ⟨hlt, -⟩ := List.getElem?_eq_some_iff.1 hq
      rw [index?_eq_some.2 ⟨heq, hlt⟩] at hindex
      cases hindex
    have hold : waits = true := by simpa [hostWaits, Event.hostWaits, hne] using hstill
    exact hwaits hold q hq
  | some i =>
    obtain ⟨rfl, hi⟩ := index?_eq_some.1 hindex
    have hq := List.getElem?_eq_getElem hi
    simp only [hindex, hq] at hvalid ⊢
    have hpush := Queue.push_fst m.inlets[i] word
    have hcapacities : (m.inlets.set i (m.inlets[i].push word).2).map Queue.capacity =
        m.inlets.map Queue.capacity := by
      rw [List.map_set, Queue.capacity_push, ← List.getElem_map Queue.capacity (h := by simpa),
        List.set_getElem_self]
    -- A host that waits for this stream knows that the queue is full.
    have hknown : ∀ waits, (waits = true → Blocked m.inlets stream) → i = stream →
        m.inlets[i].isFull = false → waits = false := by
      rintro waits hwaits rfl hroom
      rw [Bool.eq_false_iff]
      intro hold
      rw [hwaits hold _ hq] at hroom
      cases hroom
    cases hfull : m.inlets[i].isFull with
    | true =>
      have hsame : m.inlets.set i (m.inlets[i].push word).2 = m.inlets := by
        rw [Queue.push_of_full hfull, List.set_getElem_self]
      rw [hfull, Bool.not_true] at hpush
      rw [hpush]
      refine ⟨hvalid, hcapacities, fun waits _ => .cons (by simp) .nil,
        fun waits hwaits hstill => ?_⟩
      rw [hsame]
      by_cases heq : i = stream
      · subst heq
        intro q hq'
        rw [Option.some.inj (hq'.symm.trans hq)]
        exact hfull
      · have hne : (i : Int) ≠ stream := by omega
        have hold : waits = true := by simpa [hostWaits, Event.hostWaits, hne] using hstill
        exact hwaits hold
    | false =>
      rw [hfull, Bool.not_false] at hpush
      rw [hpush]
      refine ⟨hvalid, hcapacities, fun waits hwaits => .cons ?_ .nil, fun waits hwaits hstill => ?_⟩
      · intro word' hevent
        injection hevent with htarget
        exact hknown waits hwaits (by omega) hfull
      · have hold : waits = true := hstill
        have hne : i ≠ stream := by
          intro heq
          rw [hknown waits hwaits heq hfull] at hold
          cases hold
        intro q hq'
        rw [List.getElem?_set_ne hne] at hq'
        exact hwaits hold q hq'

/-- Without a notice, no word is taken from a full queue. -/
theorem drainAll_of_not_polled {qs : List Queue} (h : ∀ q ∈ qs, q.Valid) (e : ε) {stream : Nat}
    (hblocked : Blocked qs stream) (hnone : .polled stream ∉ (drainAll s 0 qs e).2.2) :
    writtenWords stream (drainAll s 0 qs e).2.2 = [] := by
  have hpolls := (drainAll_polls s 0 h e stream).2
  have hwords := (drainAll_drained s 0 h e).words stream
  rw [Nat.zero_add] at hpolls hwords
  rw [List.count_eq_zero.2 hnone] at hpolls
  cases hq : qs[stream]? with
  | none =>
    rw [waiting, hq] at hwords
    exact (List.append_eq_nil_iff.1 hwords.symm).1
  | some q =>
    have hvalid := h q (List.mem_of_getElem? hq)
    by_cases hcapacity : q.capacity = 0
    · have hsize := hvalid.size_le
      have hempty : q.toList = [] := by
        rw [← List.length_eq_zero_iff, hvalid.length_toList]
        omega
      rw [waiting, hq, Option.map_some, hempty] at hwords
      exact (List.append_eq_nil_iff.1 hwords.symm).1
    · have hfull : fullAt qs stream = true := by
        simp [fullAt, hq, Nat.pos_of_ne_zero hcapacity, hblocked q hq]
      by_contra hwritten
      rw [if_pos ⟨hfull, hwritten⟩] at hpolls
      cases hpolls

/-- A queue from which no word was taken is as full as before. -/
theorem drain_informed (stream : Nat) {m : Machine} (h : ∀ q ∈ m.inlets, q.Valid) (e : ε) :
    Informed stream m { m with inlets := (drainAll s 0 m.inlets e).1 }
      (drainAll s 0 m.inlets e).2.2 := by
  have hdrained := drainAll_drained s 0 h e
  have hphase := drainAll_phase s 0 m.inlets e
  have hcapacities := drainAll_capacities s 0 m.inlets e
  refine ⟨hdrained.valid, hcapacities, fun waits _ => ?_, fun waits hwaits hstill q' hq' => ?_⟩
  · apply Throughout.of_mem
    rintro event hevent before word rfl
    cases hphase _ hevent
  · obtain ⟨hold, hnone⟩ := hostWaits_writing hphase hstill
    have hblocked := hwaits hold
    have hlt : stream < m.inlets.length := by
      rw [← hdrained.length]
      exact (List.getElem?_eq_some_iff.1 hq').1
    have hq := List.getElem?_eq_getElem hlt
    have hwords := hdrained.words stream
    rw [Nat.zero_add, drainAll_of_not_polled s h e hblocked hnone, List.nil_append, waiting, hq,
      waiting, hq'] at hwords
    -- The same words in a queue of the same capacity.
    have hsize : m.inlets[stream].size = q'.size := by
      rw [← (h _ (List.mem_of_getElem? hq)).length_toList,
        ← (hdrained.valid q' (List.mem_of_getElem? hq')).length_toList]
      exact congrArg List.length hwords
    have hcapacity : q'.capacity = m.inlets[stream].capacity := by
      have heq := congrArg (·[stream]?) hcapacities
      simpa [hq, hq'] using heq
    have hfull := hblocked _ hq
    rw [Queue.isFull, beq_iff_eq] at hfull ⊢
    rw [hcapacity, ← hfull, hsize]

theorem informed_lawful (stream : Nat) :
    Lawful s fun m m' trace => (∀ q ∈ m.inlets, q.Valid) → Informed stream m m' trace where
  refl m h := .idle h rfl (by simp) (by simp)
  trans h h' hvalid := (h hvalid).trans (h' (h hvalid).valid)
  deliver m target word h := deliver_informed stream h target word
  credit m target amount h := by
    refine .idle h (addCredit_inlets m target amount) ?_ ?_
    · simp [Event.hostWaits]
    · simp
  drain m e h := drain_informed s stream h e
  fetch m e h := by
    have hphase := fetchAll_phase s 0 m.outlets m.buffer e
    refine .idle h rfl (fun event hevent waits => ?_) fun event hevent => .inl (hphase event hevent)
    have hreading := hphase event hevent
    cases event with
    | delivered target word accepted => cases hreading
    | polled target => cases hreading
    | _ => rfl

theorem capacities_new (inlets : List Nat) (outlets : List Outlet) :
    (new inlets outlets).inlets.map Queue.capacity = inlets := by
  have hempty : Queue.capacity ∘ Queue.empty = id := by
    funext capacity
    exact List.length_replicate
  rw [new, List.map_map, hempty, List.map_id]

/-- No notice is lost and none is sent for nothing.  Whatever happened before and
whatever host and hardware do, a round polls for a stream exactly once if its
queue could hold words, was full when everything was received, and the hardware
took a word of the stream; otherwise it does not poll for it.  So between a word
that was refused and a later one that is accepted the host was polled.  All of
this is as host and hardware have it on record. -/
theorem polls_follow_relief (inlets : List Nat) (outlets : List Outlet)
    (actions : List (Action ε)) (e : ε) (stream : Nat) :
    let past := session s actions (new inlets outlets) e
    let seen := observed s actions (new inlets outlets) e
    let now := observed s [.round] past.1 past.2.1
    (past.1.received s past.2.1).1.inlets.map Queue.capacity = inlets ∧
      now.count (.polled stream) =
        (if fullAt (past.1.received s past.2.1).1.inlets stream = true ∧
          writtenWords stream now ≠ [] then 1 else 0) ∧
      ∀ before word between word' after,
        seen = before ++ .delivered stream word false ::
          (between ++ .delivered stream word' true :: after) →
        .polled stream ∈ between := by
  intro past seen now
  have hseen : seen = past.2.2 := observed_eq s actions (new inlets outlets) e
  have hnow : now = (past.1.step s past.2.1).2.2 := observed_round s past.1 past.2.1
  have hlawful := informed_lawful s stream
  have hpast : Informed stream (new inlets outlets) past.1 past.2.2 :=
    hlawful.session actions (new inlets outlets) e (new_valid inlets outlets)
  have hreceived := hlawful.receive (s.receive past.2.1) past.1 hpast.valid
  refine ⟨?_, ?_, ?_⟩
  · exact hreceived.capacities.trans (hpast.capacities.trans (capacities_new inlets outlets))
  · rw [hnow]
    exact step_polls s hpast.valid past.2.1 stream
  · intro before word between word' after hsplit
    rw [hseen] at hsplit
    by_contra hnone
    have hfree := hpast.accepted false (by simp) (before ++ .delivered stream word false :: between)
      (.delivered stream word' true) after (by simp [hsplit]) word' rfl
    have hrefused : ∀ waits, (Event.delivered stream word false).hostWaits stream waits = true := by
      simp [Event.hostWaits]
    rw [hostWaits_append, hostWaits_cons, hrefused, hostWaits_of_not_polled hnone] at hfree
    cases hfree

/-- A host that sends two words in every round, and hardware that takes as many
words as its state says. -/
def eagerHost : Surroundings Nat where
  receive e := .deliver 0 1 fun _ => .deliver 0 2 fun _ => .done e
  write e _ _ := (decide (0 < e), e - 1)
  read e _ := (none, e)
  poll e _ := e
  flush e _ _ := e

theorem polls_follow_relief_eager :
    observed eagerHost [.round, .round] (new [1] []) 1 =
        [.delivered 0 1 true, .delivered 0 2 false, .written 0 1 true, .polled 0,
          .delivered 0 1 true, .delivered 0 2 false, .written 0 1 false] ∧
      (observed eagerHost [.round] (new [1] []) 1).count (.polled 0) = 1 ∧
      .polled 0 ∈ [.written 0 1 true, Event.polled 0] :=
  ⟨rfl, (polls_follow_relief eagerHost [1] [] [] 1 0).2.1.trans (by decide),
    (polls_follow_relief eagerHost [1] [] [.round, .round] 1 0).2.2 [.delivered 0 1 true] 2 _ 1
      [.delivered 0 2 false, .written 0 1 false] rfl⟩

end Machine

end Boardwright.Server
