import Boardwright.Proofs.ReadCredit

/-!
# A round leaves no work behind

A round goes on with a stream as long as there is something to do for it.  Only
the stream itself can end that: the hardware refuses a word of it, or has none
for it, or the stream has had its share.

* `offers` are the words that the hardware was offered on a stream with what
  became of them, and `answers` what it said when it was asked for words.
* `Offered` are the two ways in which the offers of a stream can end, `Stopped`
  the three ways for its reads.
* `drain_offers` and `fetch_stopped` are the loops of one stream.  The limit of
  the first one is the capacity, so it needs a queue in order to be out of the
  way.  `drainAll_offers` and `fetchAll_stopped` are for all streams, each of
  which sees its own part of the trace only.

`rounds_conserve_work` is the result for every round of every session.
-/

namespace Boardwright.Server

/-! ## The hardware's part in a trace -/

namespace Event

/-- A word that the hardware was offered on a stream, and whether it took it. -/
def offerOn? (stream : Nat) : Event → Option (UInt32 × Bool)
  | .written target word accepted => if target = stream then some (word, accepted) else none
  | _ => none

/-- What the hardware said when it was asked for a word of a stream. -/
def answerOn? (stream : Nat) : Event → Option (Option UInt32)
  | .read source word => if source = stream then some word else none
  | _ => none

end Event

/-- The words that the hardware was offered on a stream, in order. -/
def offers (stream : Nat) (trace : List Event) : List (UInt32 × Bool) :=
  trace.filterMap (Event.offerOn? stream)

/-- The answers of the hardware on a stream that it was asked for words, in order. -/
def answers (stream : Nat) (trace : List Event) : List (Option UInt32) :=
  trace.filterMap (Event.answerOn? stream)

section Traces

variable {stream : Nat} {trace trace' : List Event}

@[simp] theorem offers_append :
    offers stream (trace ++ trace') = offers stream trace ++ offers stream trace' :=
  List.filterMap_append

@[simp] theorem answers_append :
    answers stream (trace ++ trace') = answers stream trace ++ answers stream trace' :=
  List.filterMap_append

@[simp] theorem offers_nil : offers stream [] = [] := rfl

@[simp] theorem answers_nil : answers stream [] = [] := rfl

@[simp] theorem offers_written (target : Nat) (word : UInt32) (accepted : Bool) :
    offers stream (.written target word accepted :: trace) =
      if target = stream then (word, accepted) :: offers stream trace else offers stream trace := by
  unfold offers
  rw [List.filterMap_cons]
  by_cases htarget : target = stream
  · simp [Event.offerOn?, htarget]
  · simp [Event.offerOn?, htarget]

@[simp] theorem offers_polled (target : Nat) :
    offers stream (.polled target :: trace) = offers stream trace := rfl

@[simp] theorem answers_read (source : Nat) (word : Option UInt32) :
    answers stream (.read source word :: trace) =
      if source = stream then word :: answers stream trace else answers stream trace := by
  unfold answers
  rw [List.filterMap_cons]
  by_cases hsource : source = stream
  · simp [Event.answerOn?, hsource]
  · simp [Event.answerOn?, hsource]

@[simp] theorem answers_flushed (target : Nat) (words : List UInt32) :
    answers stream (.flushed target words :: trace) = answers stream trace := rfl

theorem offers_of_phase (h : ∀ event ∈ trace, event.phase ≠ .writing) : offers stream trace = [] := by
  apply List.filterMap_eq_nil_iff.2
  intro event hevent
  cases event with
  | written target word accepted => exact absurd rfl (h _ hevent)
  | _ => rfl

theorem answers_of_phase (h : ∀ event ∈ trace, event.phase ≠ .reading) :
    answers stream trace = [] := by
  apply List.filterMap_eq_nil_iff.2
  intro event hevent
  cases event with
  | read source word => exact absurd rfl (h _ hevent)
  | _ => rfl

theorem mem_offers {word : UInt32} {accepted : Bool} :
    (word, accepted) ∈ offers stream trace ↔ .written stream word accepted ∈ trace := by
  constructor
  · intro h
    obtain ⟨event, hevent, hoffer⟩ := List.mem_filterMap.1 h
    cases event with
    | written target word' accepted' =>
      by_cases htarget : target = stream
      · simp only [Event.offerOn?, htarget, if_true, Option.some.injEq, Prod.mk.injEq] at hoffer
        obtain ⟨rfl, rfl⟩ := hoffer
        rwa [← htarget]
      · simp [Event.offerOn?, htarget] at hoffer
    | _ => cases hoffer
  · intro h
    exact List.mem_filterMap.2 ⟨_, h, by simp [Event.offerOn?]⟩

theorem mem_answers {word : Option UInt32} :
    word ∈ answers stream trace ↔ .read stream word ∈ trace := by
  constructor
  · intro h
    obtain ⟨event, hevent, hanswer⟩ := List.mem_filterMap.1 h
    cases event with
    | read source word' =>
      by_cases hsource : source = stream
      · simp only [Event.answerOn?, hsource, if_true, Option.some.injEq] at hanswer
        rwa [← hanswer, ← hsource]
      · simp [Event.answerOn?, hsource] at hanswer
    | _ => cases hanswer
  · intro h
    exact List.mem_filterMap.2 ⟨_, h, by simp [Event.answerOn?]⟩

/-- The words of a stream are the answers that had one. -/
theorem readWords_eq_answers : readWords stream trace = (answers stream trace).filterMap id := by
  unfold readWords answers
  rw [List.filterMap_filterMap]
  congr 1
  funext event
  cases event with
  | read source word =>
    by_cases hsource : source = stream
    · simp [Event.readFrom?, Event.answerOn?, hsource]
    · simp [Event.readFrom?, Event.answerOn?, hsource]
  | _ => rfl

end Traces

/-! ## How a stream ends -/

/-- What became of the words that waited for the hardware: it took all of them, or
it refused one, and the words behind that one still wait with it. -/
inductive Offered : List UInt32 → List UInt32 → List (UInt32 × Bool) → Prop
  | all (words : List UInt32) : Offered words [] (words.map (·, true))
  | refused (taken : List UInt32) (word : UInt32) (rest : List UInt32) :
    Offered (taken ++ word :: rest) (word :: rest) (taken.map (·, true) ++ [(word, false)])

namespace Offered

variable {before after : List UInt32} {offers : List (UInt32 × Bool)}

/-- One more word in front. -/
theorem cons (h : Offered before after offers) (word : UInt32) :
    Offered (word :: before) after ((word, true) :: offers) := by
  cases h with
  | all => exact .all (word :: before)
  | refused taken refusal rest => exact .refused (word :: taken) refusal rest

theorem left (h : Offered before after offers) :
    after = [] ∨ ∃ word, (word, false) ∈ offers := by
  cases h with
  | all => exact .inl rfl
  | refused taken word rest => exact .inr ⟨word, by simp⟩

/-- Words that wait are not passed over. -/
theorem ne_nil (h : Offered before after offers) (hbefore : before ≠ []) : offers ≠ [] := by
  cases h with
  | all => simpa using hbefore
  | refused taken word rest => simp

end Offered

/-- Why the hardware was asked for no further word of a stream: there were as many
as may be sent at once, there is no credit left in polling mode, or the hardware
had no word. -/
inductive Stopped (limit : Nat) (o : Outlet) : List (Option UInt32) → Prop
  | full (words : List UInt32) (hlimit : words.length = limit) : Stopped limit o (words.map some)
  | poor (words : List UInt32) (hpolling : o.polling = true) (hcredit : o.credit ≤ 0) :
    Stopped limit o (words.map some)
  | dry (words : List UInt32) : Stopped limit o (words.map some ++ [none])

namespace Stopped

variable {limit : Nat} {o : Outlet} {answers : List (Option UInt32)}

/-- One more word in front. -/
theorem cons (h : Stopped limit o answers) (word : UInt32) :
    Stopped (limit + 1) o (some word :: answers) := by
  cases h with
  | full words hlimit => exact .full (word :: words) (congrArg (· + 1) hlimit)
  | poor words hpolling hcredit => exact .poor (word :: words) hpolling hcredit
  | dry words => exact .dry (word :: words)

theorem reason (h : Stopped limit o answers) :
    (answers.filterMap id).length = limit ∨ (o.polling = true ∧ o.credit ≤ 0) ∨
      none ∈ answers := by
  cases h with
  | full words hlimit => exact .inl (by simpa using hlimit)
  | poor words hpolling hcredit => exact .inr (.inl ⟨hpolling, hcredit⟩)
  | dry words => exact .inr (.inr (by simp))

/-- A stream that was not asked for had no share, or no credit. -/
theorem of_nil (h : Stopped limit o []) : limit = 0 ∨ o.polling = true ∧ o.credit ≤ 0 := by
  rcases h.reason with hlimit | hcredit | hnone
  · exact .inl hlimit.symm
  · exact .inr hcredit
  · cases hnone

end Stopped

namespace Machine

variable {ε : Type} (s : Surroundings ε)

/-! ## Offering words -/

/-- Draining one queue offers nothing on another stream. -/
theorem drain_others (stream n : Nat) (q : Queue) (e : ε) {i : Nat} (hi : i ≠ stream) :
    offers i (drain s stream n q e).2.2 = [] := by
  induction n generalizing q e with
  | zero => rfl
  | succ n ih =>
    unfold drain
    split
    · rfl
    · split
      · simp [hi.symm]
      · simp only
        split
        · simp [hi.symm, ih]
        · simp [hi.symm, ih]

/-- A queue is drained to the end unless the hardware refuses.  The limit does not
matter as long as it covers the words in the queue. -/
theorem drain_offers (stream n : Nat) {q : Queue} (h : q.Valid) (hn : q.size ≤ n) (e : ε) :
    Offered q.toList (drain s stream n q e).1.toList (offers stream (drain s stream n q e).2.2) := by
  induction n generalizing q e with
  | zero =>
    have hempty : q.toList = [] := by
      rw [← List.length_eq_zero_iff, h.length_toList]
      omega
    show Offered q.toList q.toList []
    rw [hempty]
    exact .all []
  | succ n ih =>
    have hpeeked := h.peek_eq
    unfold drain
    cases hpeek : q.peek with
    | none =>
      have hempty : q.toList = [] := by
        rw [← List.head?_eq_none_iff, ← hpeeked, hpeek]
      show Offered q.toList q.toList []
      rw [hempty]
      exact .all []
    | some word =>
      have hwords : q.toList = word :: q.take.2.toList := by
        rw [hpeek] at hpeeked
        rw [h.toList_take]
        exact (List.cons_head?_tail hpeeked.symm).symm
      have hsize : q.take.2.size ≤ n := by
        rw [Queue.take_of_peek hpeek]
        show q.size - 1 ≤ n
        omega
      rcases hwrite : s.write e stream word with ⟨accepted, e'⟩
      cases accepted with
      | false =>
        simp only [hwrite]
        rw [hwords]
        simpa using Offered.refused [] word q.take.2.toList
      | true =>
        simp only [hwrite]
        rw [hwords]
        split
        · simpa using (ih h.take hsize (s.poll e' stream)).cons word
        · simpa using (ih h.take hsize e').cons word

/-- Every queue is drained to the end unless the hardware refuses a word of its own
stream. -/
theorem drainAll_offers (first : Nat) {qs : List Queue} (h : ∀ q ∈ qs, q.Valid) (e : ε) :
    (∀ (i : Nat) (q : Queue), qs[i]? = some q →
      ∃ q', (drainAll s first qs e).1[i]? = some q' ∧
        Offered q.toList q'.toList (offers (first + i) (drainAll s first qs e).2.2)) ∧
      ∀ i, i < first → offers i (drainAll s first qs e).2.2 = [] := by
  induction qs generalizing first e with
  | nil => exact ⟨by simp, fun _ _ => rfl⟩
  | cons q qs ih =>
    have hvalid := h q (by simp)
    obtain ⟨hlater, hearlier⟩ := ih (first + 1) (fun q' hq' => h q' (by simp [hq']))
      (drain s first q.capacity q e).2.1
    simp only [drainAll, offers_append]
    refine ⟨fun i q₁ hq₁ => ?_, fun i hi => ?_⟩
    · cases i with
      | zero =>
        obtain rfl : q = q₁ := Option.some.inj hq₁
        refine ⟨_, rfl, ?_⟩
        rw [Nat.add_zero, hearlier first (by omega), List.append_nil]
        exact drain_offers s first q.capacity hvalid hvalid.size_le e
      | succ i =>
        obtain ⟨q', hq', hoffered⟩ := hlater i q₁ hq₁
        refine ⟨q', hq', ?_⟩
        rw [drain_others s first q.capacity q e (by omega), List.nil_append,
          show first + (i + 1) = first + 1 + i by omega]
        exact hoffered
    · rw [drain_others s first q.capacity q e (by omega), hearlier i (by omega), List.append_nil]

/-! ## Asking for words -/

theorem fetch_others (stream n : Nat) (o : Outlet) (buffer : List UInt32) (e : ε) {i : Nat}
    (hi : i ≠ stream) : answers i (fetch s stream n o buffer e).2.2 = [] := by
  apply List.filterMap_eq_nil_iff.2
  intro event hevent
  obtain ⟨word, rfl⟩ := (fetch_fetched s stream n o buffer e).only event hevent
  simp [Event.answerOn?, hi.symm]

/-- A stream is read until one of the three reasons to stop is there. -/
theorem fetch_stopped (stream n : Nat) (o : Outlet) (buffer : List UInt32) (e : ε) :
    Stopped n (fetch s stream n o buffer e).1.1
      (answers stream (fetch s stream n o buffer e).2.2) := by
  induction n generalizing o buffer e with
  | zero => exact .full [] rfl
  | succ n ih =>
    unfold fetch
    split
    · rename_i hguard
      simp only [Bool.and_eq_true, Bool.not_eq_true', decide_eq_false_iff_not, Int64.not_lt] at hguard
      exact .poor [] hguard.1 hguard.2
    · rcases hread : s.read e stream with ⟨_ | word, e'⟩
      · simpa using Stopped.dry []
      · simpa using (ih (if o.polling then { o with credit := o.credit - 1 } else o)
          (buffer ++ [word]) e').cons word

theorem fetchAll_stopped (first : Nat) (os : List Outlet) (buffer : List UInt32) (e : ε) :
    (∀ (i : Nat) (o : Outlet), os[i]? = some o →
      ∃ o', (fetchAll s first os buffer e).1.1[i]? = some o' ∧
        Stopped o.capacity.toNat o' (answers (first + i) (fetchAll s first os buffer e).2.2)) ∧
      ∀ i, i < first → answers i (fetchAll s first os buffer e).2.2 = [] := by
  induction os generalizing first buffer e with
  | nil => exact ⟨by simp, fun _ _ => rfl⟩
  | cons o os ih =>
    obtain ⟨hlater, hearlier⟩ := ih (first + 1) []
      (s.flush (fetch s first o.capacity.toNat o buffer e).2.1 first
        (fetch s first o.capacity.toNat o buffer e).1.2)
    simp only [fetchAll, answers_append, answers_flushed]
    refine ⟨fun i o₁ ho₁ => ?_, fun i hi => ?_⟩
    · cases i with
      | zero =>
        obtain rfl : o = o₁ := Option.some.inj ho₁
        refine ⟨_, rfl, ?_⟩
        rw [Nat.add_zero, hearlier first (by omega), List.append_nil]
        exact fetch_stopped s first o.capacity.toNat o buffer e
      | succ i =>
        obtain ⟨o', ho', hstopped⟩ := hlater i o₁ ho₁
        refine ⟨o', ho', ?_⟩
        rw [fetch_others s first o.capacity.toNat o buffer e (by omega), List.nil_append,
          show first + (i + 1) = first + 1 + i by omega]
        exact hstopped
    · rw [fetch_others s first o.capacity.toNat o buffer e (by omega), hearlier i (by omega),
        List.append_nil]

/-! ## Rounds -/

/-- A round offers words in its second part, and asks for words in its last. -/
theorem step_hardware (m : Machine) (e : ε) (i : Nat) :
    offers i (m.step s e).2.2 = offers i (m.drained s e).2.2 ∧
      answers i (m.step s e).2.2 = answers i (m.fetched s e).2.2 := by
  have hreceived := received_phase s m e
  have hdrained := drained_phase s m e
  have hfetched := fetched_phase s m e
  have hoffers : offers i (m.received s e).2.2 = [] ∧ offers i (m.fetched s e).2.2 = [] := by
    constructor
    · exact offers_of_phase fun event hevent => by simp [hreceived event hevent]
    · exact offers_of_phase fun event hevent => by simp [hfetched event hevent]
  have hanswers : answers i (m.received s e).2.2 = [] ∧ answers i (m.drained s e).2.2 = [] := by
    constructor
    · exact answers_of_phase fun event hevent => by simp [hreceived event hevent]
    · exact answers_of_phase fun event hevent => by simp [hdrained event hevent]
  simp [step_eq, hoffers, hanswers]

/-- A round empties the queue of a stream unless the hardware refuses a word of the
stream, and it passes no word over. -/
theorem step_offers {m : Machine} (h : ∀ q ∈ m.inlets, q.Valid) (e : ε) {i : Nat} {q : Queue}
    (hq : (m.received s e).1.inlets[i]? = some q) :
    ∃ q', (m.step s e).1.inlets[i]? = some q' ∧
      (q'.size = 0 ∨ ∃ word, .written i word false ∈ (m.step s e).2.2) ∧
      Offered q.toList q'.toList (offers i (m.step s e).2.2) ∧
      (q.size ≠ 0 → ∃ word accepted, .written i word accepted ∈ (m.step s e).2.2) := by
  have hvalid := ((moves_lawful s).receive (s.receive e) m h).valid
  obtain ⟨q', hq', hdrained⟩ := (drainAll_offers s 0 hvalid (m.received s e).2.1).1 i q hq
  rw [Nat.zero_add] at hdrained
  have hoffered : Offered q.toList q'.toList (offers i (m.step s e).2.2) := by
    rw [(step_hardware s m e i).1]
    exact hdrained
  refine ⟨q', hq', ?_, hoffered, fun hsize => ?_⟩
  · have hvalid' : q'.Valid := ((moves_lawful s).step m e h).valid q' (List.mem_of_getElem? hq')
    rcases hoffered.left with hempty | ⟨word, hword⟩
    · left
      rw [← hvalid'.length_toList, hempty]
      rfl
    · exact .inr ⟨word, mem_offers.1 hword⟩
  · have hwords : q.toList ≠ [] := by
      rwa [ne_eq, ← List.length_eq_zero_iff, (hvalid q (List.mem_of_getElem? hq)).length_toList]
    obtain ⟨⟨word, accepted⟩, hoffer⟩ := List.exists_mem_of_ne_nil _ (hoffered.ne_nil hwords)
    exact ⟨word, accepted, mem_offers.1 hoffer⟩

/-- A round reads a stream until there is a reason to stop, and it does not pass over
a stream that may be read. -/
theorem step_stopped (m : Machine) (e : ε) {i : Nat} {o : Outlet}
    (ho : (m.received s e).1.outlets[i]? = some o) :
    ∃ o', (m.step s e).1.outlets[i]? = some o' ∧
      ((readWords i (m.step s e).2.2).length = o.capacity.toNat ∨
        (o.polling = true ∧ o'.credit ≤ 0) ∨ .read i none ∈ (m.step s e).2.2) ∧
      Stopped o.capacity.toNat o' (answers i (m.step s e).2.2) ∧
      (0 < o.capacity → (o.polling = true → 0 < o.credit) →
        ∃ word, .read i word ∈ (m.step s e).2.2) := by
  have hbooks := fetchAll_fetched s 0 (m.received s e).1.outlets (m.received s e).1.buffer
    (m.drained s e).2.1
  obtain ⟨o', ho', hfetched⟩ := (fetchAll_stopped s 0 (m.received s e).1.outlets
    (m.received s e).1.buffer (m.drained s e).2.1).1 i o ho
  rw [Nat.zero_add] at hfetched
  have hstopped : Stopped o.capacity.toNat o' (answers i (m.step s e).2.2) := by
    rw [(step_hardware s m e i).2]
    exact hfetched
  have hsettled : o' = o.settled i (m.fetched s e).2.2 := by
    have hget := congrArg (·[i]?) hbooks.outlets
    simp only [ho', List.getElem?_mapIdx, ho, Option.map_some, Option.some.injEq, Nat.zero_add]
      at hget
    exact hget
  refine ⟨o', ho', ?_, hstopped, fun hcapacity hcredit => ?_⟩
  · rw [readWords_eq_answers]
    rcases hstopped.reason with hlimit | ⟨hpolling, hcredit⟩ | hnone
    · exact .inl hlimit
    · rw [hsettled] at hpolling
      exact .inr (.inl ⟨hpolling, hcredit⟩)
    · exact .inr (.inr (mem_answers.1 hnone))
  · by_cases hnone : answers i (m.step s e).2.2 = []
    · -- Nothing was asked for, so the credit is what it was when everything was received.
      have hsame : o' = o := by
        rw [hsettled]
        apply Outlet.settled_eq_self
        · rw [← (step_parts s m e i).1, readWords_eq_answers, hnone]
          rfl
        · exact creditTotal_of_phase fun event hevent => by simp [fetched_phase s m e event hevent]
      rw [hnone, hsame] at hstopped
      rcases hstopped.of_nil with hlimit | ⟨hpolling, hpoor⟩
      · omega
      · exact absurd (hcredit hpolling) (Int64.not_lt.2 hpoor)
    · obtain ⟨word, hword⟩ := List.exists_mem_of_ne_nil _ hnone
      exact ⟨word, mem_answers.1 hword⟩

/-- A round leaves no work behind on any stream, whatever happened before and
whatever host and hardware do.

The queue of a host-write stream is empty afterwards unless the hardware refused a
word of that very stream; in detail, its words were offered in order up to the
first refusal.  A host-read stream was read until it had all the words that it may
send at once, or its credit was used up in polling mode, or the hardware had no
word for it.  A stream with something to do gets its turn: its first word is
offered, or the hardware is asked for a word.  None of this depends on what the
hardware said on another stream.  What was offered and asked is as the hardware
has it on record. -/
theorem rounds_conserve_work (inlets : List Nat) (outlets : List Outlet)
    (actions : List (Action ε)) (e : ε) :
    let past := session s actions (new inlets outlets) e
    let heard := (past.1.received s past.2.1).1
    let round := past.1.step s past.2.1
    let now := observed s [.round] past.1 past.2.1
    (∀ i : Fin inlets.length, ∃ before after,
      heard.inlets[i.val]? = some before ∧ round.1.inlets[i.val]? = some after ∧
      (after.size = 0 ∨ ∃ word, .written i word false ∈ now) ∧
      Offered before.toList after.toList (offers i now) ∧
      (before.size ≠ 0 → ∃ word accepted, .written i word accepted ∈ now)) ∧
    ∀ i : Fin outlets.length, ∃ before after,
      heard.outlets[i.val]? = some before ∧ round.1.outlets[i.val]? = some after ∧
      ((readWords i now).length = (outlets.get i).capacity.toNat ∨
        ((outlets.get i).polling = true ∧ after.credit ≤ 0) ∨ .read i none ∈ now) ∧
      Stopped (outlets.get i).capacity.toNat after (answers i now) ∧
      (0 < (outlets.get i).capacity → ((outlets.get i).polling = true → 0 < before.credit) →
        ∃ word, .read i word ∈ now) := by
  intro past heard round now
  have hnow : now = round.2.2 := observed_round s past.1 past.2.1
  rw [hnow]
  have hpast := (moves_lawful s).session actions (new inlets outlets) e (new_valid inlets outlets)
  have hbooks : Settled (new inlets outlets) heard (past.2.2 ++ _) :=
    ((settled_lawful s).session actions (new inlets outlets) e).trans
      ((settled_lawful s).receive (s.receive past.2.1) past.1)
  refine ⟨fun i => ?_, fun i => ?_⟩
  · have hheard := hpast.trans ((moves_lawful s).receive (s.receive past.2.1) past.1 hpast.valid)
    have hi : i.val < heard.inlets.length := by
      rw [show heard.inlets.length = inlets.length from hheard.length.trans (List.length_map _)]
      exact i.isLt
    have hbefore := List.getElem?_eq_getElem hi
    obtain ⟨after, hafter, hoffered⟩ := step_offers s hpast.valid past.2.1 hbefore
    exact ⟨_, after, hbefore, hafter, hoffered⟩
  · have hi : (new inlets outlets).outlets[i.val]? = some (outlets.get i) :=
      List.getElem?_eq_getElem i.isLt
    have hbefore := congrArg (·[i.val]?) hbooks.outlets
    simp only [List.getElem?_mapIdx, hi, Option.map_some] at hbefore
    obtain ⟨after, hafter, hstopped⟩ := step_stopped s past.1 past.2.1 hbefore
    exact ⟨_, after, hbefore, hafter, hstopped⟩

end Machine

end Boardwright.Server
