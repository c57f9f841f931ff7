import Boardwright.Proofs.Queue
import Boardwright.Proofs.Session

/-!
# Words on their way to the hardware

A word that the server takes from the host goes into the queue of its stream
and, some rounds later, to the hardware.  The trace of a run shows both ends.
`Machine.Moves` compares them over a part of a run: for each stream, what was in
the queue and what was delivered since is what was written since and what is in
the queue now.

Every part of a round moves words in this sense (`moves_lawful`), so a session
does, whatever host and hardware answer.
-/

namespace Boardwright.Server

/-! ## What a trace shows of a stream -/

namespace Event

/-- The word that the host got accepted for a stream. -/
def deliveredTo? (stream : Nat) : Event → Option UInt32
  | .delivered target word true => if target = stream then some word else none
  | _ => none

/-- The word that the hardware accepted on a stream. -/
def writtenTo? (stream : Nat) : Event → Option UInt32
  | .written target word true => if target = stream then some word else none
  | _ => none

end Event

/-- The words that the host got accepted for a stream, in order. -/
def deliveredWords (stream : Nat) (trace : List Event) : List UInt32 :=
  trace.filterMap (Event.deliveredTo? stream)

/-- The words that the hardware accepted on a stream, in order. -/
def writtenWords (stream : Nat) (trace : List Event) : List UInt32 :=
  trace.filterMap (Event.writtenTo? stream)

section Traces

variable {stream : Nat} {trace trace' : List Event}

@[simp] theorem deliveredWords_nil : deliveredWords stream [] = [] := rfl

@[simp] theorem writtenWords_nil : writtenWords stream [] = [] := rfl

@[simp] theorem deliveredWords_append :
    deliveredWords stream (trace ++ trace') =
      deliveredWords stream trace ++ deliveredWords stream trace' := List.filterMap_append

@[simp] theorem writtenWords_append :
    writtenWords stream (trace ++ trace') =
      writtenWords stream trace ++ writtenWords stream trace' := List.filterMap_append

theorem deliveredWords_cons (event : Event) :
    deliveredWords stream (event :: trace) =
      (event.deliveredTo? stream).toList ++ deliveredWords stream trace := by
  unfold deliveredWords
  rw [List.filterMap_cons]
  cases event.deliveredTo? stream <;> rfl

theorem writtenWords_cons (event : Event) :
    writtenWords stream (event :: trace) =
      (event.writtenTo? stream).toList ++ writtenWords stream trace := by
  unfold writtenWords
  rw [List.filterMap_cons]
  cases event.writtenTo? stream <;> rfl

theorem deliveredWords_of_phase (h : ∀ event ∈ trace, event.phase ≠ .receiving) :
    deliveredWords stream trace = [] := by
  apply List.filterMap_eq_nil_iff.2
  intro event hevent
  cases event with
  | delivered target word accepted => exact absurd rfl (h _ hevent)
  | _ => rfl

theorem writtenWords_of_phase (h : ∀ event ∈ trace, event.phase ≠ .writing) :
    writtenWords stream trace = [] := by
  apply List.filterMap_eq_nil_iff.2
  intro event hevent
  cases event with
  | written target word accepted => exact absurd rfl (h _ hevent)
  | _ => rfl

end Traces

namespace Machine

/-! ## Moving words -/

/-- The words that wait in the queue of a stream. -/
def waiting (qs : List Queue) (stream : Nat) : List UInt32 :=
  ((qs[stream]?).map Queue.toList).getD []

/-- From the queues `qs` to the queues `qs'`, no word was lost, made up or
overtaken on any stream. -/
structure Moves (qs qs' : List Queue) (trace : List Event) : Prop where
  length : qs'.length = qs.length
  valid : ∀ q ∈ qs', q.Valid
  words : ∀ stream, waiting qs stream ++ deliveredWords stream trace =
    writtenWords stream trace ++ waiting qs' stream

namespace Moves

variable {qs qs' qs'' : List Queue} {trace trace' : List Event}

/-- Nothing happens to words. -/
theorem quiet (h : ∀ q ∈ qs, q.Valid) (hdelivered : ∀ i, deliveredWords i trace = [])
    (hwritten : ∀ i, writtenWords i trace = []) : Moves qs qs trace where
  length := rfl
  valid := h
  words i := by
    rw [hdelivered, hwritten, List.append_nil, List.nil_append]

theorem trans (h : Moves qs qs' trace) (h' : Moves qs' qs'' trace') :
    Moves qs qs'' (trace ++ trace') where
  length := h'.length.trans h.length
  valid := h'.valid
  words i := by
    calc waiting qs i ++ deliveredWords i (trace ++ trace')
        = (waiting qs i ++ deliveredWords i trace) ++ deliveredWords i trace' := by
          rw [deliveredWords_append, List.append_assoc]
      _ = writtenWords i trace ++ (waiting qs' i ++ deliveredWords i trace') := by
          rw [h.words, List.append_assoc]
      _ = writtenWords i (trace ++ trace') ++ waiting qs'' i := by
          rw [h'.words, writtenWords_append, List.append_assoc]

end Moves

/-! ## Receiving -/

theorem waiting_set {qs : List Queue} {i : Nat} (hi : i < qs.length) (q : Queue) (stream : Nat) :
    waiting (qs.set i q) stream = if stream = i then q.toList else waiting qs stream := by
  unfold waiting
  rw [List.getElem?_set]
  by_cases heq : i = stream
  · subst heq
    simp [hi]
  · rw [if_neg heq, if_neg (Ne.symm heq)]

/-- A stream that has a queue is found under its number only. -/
theorem index?_eq_some {stream : Int} {count i : Nat} :
    index? stream count = some i ↔ stream = i ∧ i < count := by
  unfold index?
  split
  · rename_i h
    simp only [Bool.and_eq_true, decide_eq_true_eq] at h
    rw [Option.some.injEq]
    omega
  · rename_i h
    simp only [Bool.and_eq_true, decide_eq_true_eq] at h
    constructor
    · exact nofun
    · omega

/-- A delivery appends the word to the queue of its stream, or is refused. -/
theorem deliver_moves {m : Machine} (h : ∀ q ∈ m.inlets, q.Valid) (stream : Int) (word : UInt32) :
    Moves m.inlets (m.deliver stream word).2.inlets
      [.delivered stream word (m.deliver stream word).1] := by
  unfold deliver
  cases hindex : index? stream m.inlets.length with
  | none => exact .quiet h (fun _ => rfl) (fun _ => rfl)
  | some i =>
    obtain ⟨rfl, hi⟩ := index?_eq_some.1 hindex
    have hq := List.getElem?_eq_getElem hi
    have hvalid := h _ (List.getElem_mem hi)
    simp only [hq]
    refine ⟨List.length_set, fun q hmem => ?_, fun stream => ?_⟩
    · rcases List.mem_or_eq_of_mem_set hmem with hmem | rfl
      · exact h q hmem
      · exact hvalid.push word
    · rw [waiting_set hi, hvalid.toList_push word, deliveredWords_cons, writtenWords_cons]
      by_cases heq : stream = i
      · subst heq
        cases (m.inlets[stream].push word).1 with
        | true => simp [Event.deliveredTo?, Event.writtenTo?, waiting, hq]
        | false => simp [Event.deliveredTo?, Event.writtenTo?, waiting, hq]
      · have hne : (i : Int) ≠ stream := by omega
        cases (m.inlets[i].push word).1 with
        | true => simp [Event.deliveredTo?, Event.writtenTo?, heq, hne]
        | false => simp [Event.deliveredTo?, Event.writtenTo?, heq]

theorem addCredit_inlets (m : Machine) (stream : Int) (amount : Int64) :
    (m.addCredit stream amount).inlets = m.inlets := by
  unfold addCredit
  split <;> rfl

/-! ## Draining -/

variable {ε : Type} (s : Surroundings ε)

/-- Draining a queue writes the words that it takes, and concerns no other
stream. -/
structure Drained (stream : Nat) (q q' : Queue) (trace : List Event) : Prop where
  valid : q'.Valid
  words : q.toList = writtenWords stream trace ++ q'.toList
  others : ∀ i, i ≠ stream → writtenWords i trace = []
  delivered : ∀ i, deliveredWords i trace = []

theorem Drained.refused {stream : Nat} {q : Queue} (h : q.Valid) {trace : List Event}
    (hwritten : ∀ i, writtenWords i trace = []) (hdelivered : ∀ i, deliveredWords i trace = []) :
    Drained stream q q trace :=
  ⟨h, by rw [hwritten, List.nil_append], fun i _ => hwritten i, hdelivered⟩

/-- One more word in front. -/
theorem Drained.cons {stream : Nat} {q q' : Queue} {trace : List Event} {word : UInt32}
    (h : q.Valid) (hpeek : q.peek = some word) (hrest : Drained stream q.take.2 q' trace)
    {polls : List Event} (hpolls : polls = [] ∨ polls = [.polled stream]) :
    Drained stream q q' (.written stream word true :: (polls ++ trace)) := by
  have hword : q.toList = word :: q.take.2.toList := by
    rw [h.peek_eq] at hpeek
    rw [h.toList_take]
    exact (List.cons_head?_tail hpeek).symm
  have hquiet : ∀ i, writtenWords i polls = [] ∧ deliveredWords i polls = [] := by
    rcases hpolls with rfl | rfl <;> exact fun _ => ⟨rfl, rfl⟩
  refine ⟨hrest.valid, ?_, fun i hi => ?_, fun i => ?_⟩
  · rw [hword, writtenWords_cons, writtenWords_append, (hquiet _).1, hrest.words]
    simp [Event.writtenTo?]
  · rw [writtenWords_cons, writtenWords_append, (hquiet _).1, hrest.others i hi]
    simp [Event.writtenTo?, hi.symm]
  · rw [deliveredWords_cons, deliveredWords_append, (hquiet _).2, hrest.delivered]
    rfl

theorem drain_drained (stream n : Nat) {q : Queue} (h : q.Valid) (e : ε) :
    Drained stream q (drain s stream n q e).1 (drain s stream n q e).2.2 := by
  induction n generalizing q e with
  | zero => exact .refused h (fun _ => rfl) (fun _ => rfl)
  | succ n ih =>
    unfold drain
    cases hpeek : q.peek with
    | none => exact .refused h (fun _ => rfl) (fun _ => rfl)
    | some word =>
      rcases hwrite : s.write e stream word with ⟨accepted, e'⟩
      cases accepted with
      | false =>
        simp only [hwrite]
        exact .refused h (fun _ => rfl) (fun _ => rfl)
      | true =>
        simp only [hwrite]
        split
        · exact Drained.cons h hpeek (ih h.take _) (.inr rfl)
        · exact Drained.cons h hpeek (ih h.take _) (.inl rfl)

/-- Draining the queues of the streams from `first` on. -/
structure AllDrained (first : Nat) (qs qs' : List Queue) (trace : List Event) : Prop where
  length : qs'.length = qs.length
  valid : ∀ q ∈ qs', q.Valid
  words : ∀ i, waiting qs i = writtenWords (first + i) trace ++ waiting qs' i
  others : ∀ i, i < first → writtenWords i trace = []
  delivered : ∀ i, deliveredWords i trace = []

theorem drainAll_drained (first : Nat) {qs : List Queue} (h : ∀ q ∈ qs, q.Valid) (e : ε) :
    AllDrained first qs (drainAll s first qs e).1 (drainAll s first qs e).2.2 := by
  induction qs generalizing first e with
  | nil => exact ⟨rfl, nofun, fun _ => rfl, fun _ _ => rfl, fun _ => rfl⟩
  | cons q qs ih =>
    have hq := drain_drained s first q.capacity (h q (by simp)) e
    have hqs := ih (first + 1) (fun q' hq' => h q' (by simp [hq']))
      (drain s first q.capacity q e).2.1
    simp only [drainAll]
    refine ⟨?_, ?_, fun i => ?_, fun i hi => ?_, fun i => ?_⟩
    · rw [List.length_cons, List.length_cons, hqs.length]
    · intro q' hq'
      rcases List.mem_cons.1 hq' with rfl | hmem
      · exact hq.valid
      · exact hqs.valid q' hmem
    · rw [writtenWords_append]
      cases i with
      | zero =>
        rw [hqs.others (first + 0) (by omega), List.append_nil]
        exact hq.words
      | succ i =>
        rw [hq.others (first + (i + 1)) (by omega), List.nil_append,
          show first + (i + 1) = first + 1 + i by omega]
        exact hqs.words i
    · rw [writtenWords_append, hq.others i (by omega), hqs.others i (by omega), List.append_nil]
    · rw [deliveredWords_append, hq.delivered, hqs.delivered, List.append_nil]

theorem drainAll_moves {qs : List Queue} (h : ∀ q ∈ qs, q.Valid) (e : ε) :
    Moves qs (drainAll s 0 qs e).1 (drainAll s 0 qs e).2.2 := by
  have hdrained := drainAll_drained s 0 h e
  refine ⟨hdrained.length, hdrained.valid, fun i => ?_⟩
  rw [hdrained.delivered, List.append_nil, hdrained.words, Nat.zero_add]

/-! ## Sessions -/

theorem moves_lawful :
    Lawful s fun m m' trace => (∀ q ∈ m.inlets, q.Valid) → Moves m.inlets m'.inlets trace where
  refl m h := .quiet h (fun _ => rfl) (fun _ => rfl)
  trans h h' hvalid := (h hvalid).trans (h' (h hvalid).valid)
  deliver m stream word h := deliver_moves h stream word
  credit m stream amount h := by
    rw [addCredit_inlets]
    exact .quiet h (fun _ => rfl) (fun _ => rfl)
  drain m e h := drainAll_moves s h e
  fetch m e h := by
    have hphase := fetchAll_phase s 0 m.outlets m.buffer e
    refine .quiet h (fun i => ?_) (fun i => ?_)
    · exact deliveredWords_of_phase fun event hevent => by simp [hphase event hevent]
    · exact writtenWords_of_phase fun event hevent => by simp [hphase event hevent]

theorem new_valid (inlets : List Nat) (outlets : List Outlet) :
    ∀ q ∈ (new inlets outlets).inlets, q.Valid := by
  intro q hq
  obtain ⟨capacity, -, rfl⟩ := List.mem_map.1 hq
  exact Queue.empty_valid capacity

theorem waiting_new (inlets : List Nat) (outlets : List Outlet) (stream : Nat) :
    waiting (new inlets outlets).inlets stream = [] := by
  unfold waiting new
  rw [List.getElem?_map]
  cases inlets[stream]? <;> rfl

/-- After a session from the start, the words that the hardware accepted on a stream,
followed by those that wait in its queue, are the words that were accepted for it. -/
theorem session_conserves (inlets : List Nat) (outlets : List Outlet) (actions : List (Action ε))
    (e : ε) (stream : Fin inlets.length) :
    ∃ q, (session s actions (new inlets outlets) e).1.inlets[stream.val]? = some q ∧
      writtenWords stream (observed s actions (new inlets outlets) e) ++ q.toList =
        deliveredWords stream (observed s actions (new inlets outlets) e) := by
  have hmoves := (moves_lawful s).session actions (new inlets outlets) e (new_valid inlets outlets)
  have hstream : stream.val < (session s actions (new inlets outlets) e).1.inlets.length := by
    rw [hmoves.length.trans (List.length_map _)]
    exact stream.isLt
  have hq := List.getElem?_eq_getElem hstream
  refine ⟨_, hq, ?_⟩
  have hwords := hmoves.words stream
  rw [waiting_new, List.nil_append] at hwords
  rw [observed_eq, hwords, waiting, hq]
  rfl

/-- The server neither loses, duplicates nor reorders words on their way to the
hardware.  After any number of rounds and whatever host and hardware do, the
words that the hardware accepted on a stream, followed by those that wait in its
queue, are the words that were accepted from the host for it, as host and
hardware have it on record. -/
theorem words_conserved (inlets : List Nat) (outlets : List Outlet) (n : Nat) (e : ε)
    (stream : Fin inlets.length) :
    let seen := observed s (List.replicate n .round) (new inlets outlets) e
    seen = (run s n (new inlets outlets) e).2.2 ∧
      ∃ q, (run s n (new inlets outlets) e).1.inlets[stream.val]? = some q ∧
        writtenWords stream seen ++ q.toList = deliveredWords stream seen := by
  intro seen
  rw [run_eq_session]
  exact ⟨observed_eq s _ _ e, session_conserves s inlets outlets _ e stream⟩

end Machine

end Boardwright.Server
