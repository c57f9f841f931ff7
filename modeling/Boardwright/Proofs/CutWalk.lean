import Boardwright.Proofs.WalkOrder

/-!
# Walks that are cut short

A visitor may answer any of its calls with a fault.  The walk ends there, and up
to there it was the walk that it would have been without the fault.

* `Visitor.scripted` is a visitor that writes down what it is asked and that
  fails where a script says so.  `Visitor.logging` never fails, and
  `Visitor.failingAt` fails at one of its calls.
* `IsCut` says that one walk is the other one cut short.  `follow_failingAt` is
  the induction over the steps: as long as the call in question lies ahead, both
  visitors take the same steps.

`walk_cut_short` is the result for whole walks.
-/

namespace Boardwright

/-- The calls that a visitor got, each with the identifiers handed out by then. -/
abbrev CallLog := List (Counters × Call)

namespace Visitor

variable {σ : Type}

/-- The visitor that works as `v` does and writes down its calls.  Whether its `k`-th
call, counted from one, stops the walk is said by `fails k`. -/
def scripted (v : Visitor σ) (fails : Nat → Option Fault) : Visitor (CallLog × σ) where
  start := ([], v.start)
  visit b c call s :=
    let answer := v.visit b c call s.2
    { state := (s.1 ++ [(c, call)], answer.state)
      reports := answer.reports
      stop := fails (s.1.length + 1) }

/-- The visitor that writes down its calls and never fails. -/
def logging (v : Visitor σ) : Visitor (CallLog × σ) := v.scripted fun _ => none

/-- The visitor that writes down its calls and fails at the `n`-th. -/
def failingAt (v : Visitor σ) (n : Nat) (e : Fault) : Visitor (CallLog × σ) :=
  v.scripted fun k => if k = n then some e else none

end Visitor

/-- The walk `cut` is the walk `full` up to its `n`-th call, which was answered
with the fault `e`. -/
structure IsCut {σ : Type} (backend : String) (n : Nat) (e : Fault)
    (full cut : Progress (CallLog × σ)) : Prop where
  calls : cut.state.1 = full.state.1.take n
  /-- No identifier was handed out after the last call. -/
  counters : cut.state.1.getLast?.map Prod.fst = some cut.counters
  collected : cut.collected <+: full.collected
  /-- The fault is returned as a report of the backend, a fatal one if there was no
  report inside. -/
  abort : ∃ d cause, cut.abort = some (.report d cause) ∧ d.backend = backend ∧
    (e.first? = none → d.kind = .invariant ∧ (Fault.report d cause).isFatal = true)

namespace Visitor

variable {σ : Type} {v : Visitor σ} {backend : String} {b : Board} {n : Nat} {e : Fault}

/-! ## One call -/

theorem perform_logging (p : Progress (CallLog × σ)) (c : Counters) (pos : Pos) (call : Call) :
    v.logging.perform backend b p ⟨c, pos, .call call⟩ =
      { state := (p.state.1 ++ [(c, call)], (v.visit b c call p.state.2).state)
        collected := p.collected ++ entriesOf backend (v.visit b c call p.state.2).reports
        abort := none
        counters := c } := by
  rw [perform_call]
  rfl

/-- The call in question is written down, and it stops the walk. -/
theorem perform_failingAt_self {p : Progress (CallLog × σ)} (hn : p.state.1.length + 1 = n)
    (c : Counters) (pos : Pos) (call : Call) :
    (v.failingAt n e).perform backend b p ⟨c, pos, .call call⟩ =
      { v.logging.perform backend b p ⟨c, pos, .call call⟩ with
        abort := some (e.stopping backend pos) } := by
  rw [perform_logging, perform_call]
  simp only [failingAt, scripted, hn, if_true]
  rfl

/-- Every other step is the same for both visitors. -/
theorem perform_failingAt_other (v : Visitor σ) (backend : String) (b : Board) (e : Fault)
    {p : Progress (CallLog × σ)} (hn : p.state.1.length + 1 ≠ n) (s : Step) :
    (v.failingAt n e).perform backend b p s = v.logging.perform backend b p s := by
  obtain ⟨c, pos, action⟩ := s
  cases action with
  | call call =>
    rw [perform_logging, perform_call]
    simp only [failingAt, scripted, hn, if_false]
    rfl
  | report f => rfl
  | halt f => rfl

/-! ## All calls -/

/-- What was written down stays. -/
theorem follow_logging_grows (v : Visitor σ) (backend : String) (b : Board) (steps : List Step)
    (p : Progress (CallLog × σ)) :
    p.state.1 <+: (v.logging.follow backend b steps p).state.1 := by
  induction steps generalizing p with
  | nil => exact List.prefix_refl _
  | cons s steps ih =>
    have hstep : p.state.1 <+: (v.logging.perform backend b p s).state.1 := by
      obtain ⟨c, pos, action⟩ := s
      cases action with
      | call call =>
        rw [perform_logging]
        exact List.prefix_append ..
      | report f => exact List.prefix_refl _
      | halt f => exact List.prefix_refl _
    cases habort : (v.logging.perform backend b p s).abort with
    | some f =>
      rw [follow_cons_of_some habort]
      exact hstep
    | none =>
      rw [follow_cons_of_none habort]
      exact hstep.trans (ih _)

/-- The walk ends with the call in question. -/
theorem isCut_of_call {p : Progress (CallLog × σ)} (hn : p.state.1.length + 1 = n)
    (c : Counters) (pos : Pos) (call : Call) (steps : List Step) :
    IsCut backend n e (v.logging.follow backend b (⟨c, pos, .call call⟩ :: steps) p)
      ((v.failingAt n e).follow backend b (⟨c, pos, .call call⟩ :: steps) p) := by
  have hfull : (v.logging.perform backend b p ⟨c, pos, .call call⟩).abort = none := by
    rw [perform_logging]
  have hcut : ((v.failingAt n e).perform backend b p ⟨c, pos, .call call⟩).abort =
      some (e.stopping backend pos) := by
    rw [perform_failingAt_self hn]
  have hlog := follow_logging_grows v backend b steps
    (v.logging.perform backend b p ⟨c, pos, .call call⟩)
  have hcollected := follow_collected v.logging backend b steps
    (v.logging.perform backend b p ⟨c, pos, .call call⟩)
  rw [follow_cons_of_none hfull, follow_cons_of_some hcut, perform_failingAt_self hn]
  constructor
  · obtain ⟨rest, hrest⟩ := hlog
    rw [← hrest, perform_logging, List.take_left' (by simp [hn])]
  · simp [perform_logging]
  · exact hcollected
  · obtain ⟨d, cause, hreport, hbackend, hkind⟩ := e.stopping_report backend pos
    refine ⟨d, cause, by rw [hreport], hbackend, fun hnone => ⟨hkind hnone, ?_⟩⟩
    simp [Fault.isFatal, Fault.kind?, Fault.first?, hkind hnone]

/-- While the call in question lies ahead, both visitors take the same steps. -/
theorem follow_failingAt {steps : List Step} {p : Progress (CallLog × σ)} (hp : p.abort = none)
    (hahead : p.state.1.length < n)
    (hreached : n ≤ (v.logging.follow backend b steps p).state.1.length) :
    IsCut backend n e (v.logging.follow backend b steps p)
      ((v.failingAt n e).follow backend b steps p) := by
  induction steps generalizing p with
  | nil =>
    rw [follow] at hreached
    omega
  | cons s steps ih =>
    obtain ⟨c, pos, action⟩ := s
    cases action with
    | call call =>
      by_cases hn : p.state.1.length + 1 = n
      · exact isCut_of_call hn c pos call steps
      · have hstep : (v.logging.perform backend b p ⟨c, pos, .call call⟩).abort = none := by
          rw [perform_logging]
        have hsame := perform_failingAt_other v backend b e hn ⟨c, pos, .call call⟩
        rw [follow_cons_of_none hstep] at hreached ⊢
        rw [follow_cons_of_none (hsame ▸ hstep), hsame]
        refine ih hstep ?_ hreached
        simp only [perform_logging, List.length_append, List.length_singleton]
        omega
    | report f =>
      have hstep : (v.logging.perform backend b p ⟨c, pos, .report f⟩).abort = none := hp
      rw [follow_cons_of_none hstep] at hreached ⊢
      have hsame : (v.failingAt n e).perform backend b p ⟨c, pos, .report f⟩ =
          v.logging.perform backend b p ⟨c, pos, .report f⟩ := rfl
      rw [follow_cons_of_none (hsame ▸ hstep), hsame]
      exact ih hstep hahead hreached
    | halt f =>
      -- The board itself ends the walk here, so the call is never reached.
      have hstep : (v.logging.perform backend b p ⟨c, pos, .halt f⟩).abort =
          some (f.stopping backend pos) := rfl
      rw [follow_cons_of_some hstep] at hreached
      change n ≤ p.state.1.length at hreached
      omega

end Visitor

/-- A walk whose `n`-th call is answered with a fault makes exactly the first `n`
calls of the walk without it, with the same identifiers and settings.  It hands out
nothing afterwards, it has collected what the other walk had collected by then, and it
returns a report of the backend, which is fatal unless the fault brought a report of
its own. -/
theorem walk_cut_short {σ : Type} (v : Visitor σ) (backend : String) (b : Board) (n : Nat)
    (e : Fault) (hn : 0 < n) (hcalls : n ≤ (v.logging.walk backend b).state.1.length) :
    IsCut backend n e (v.logging.walk backend b) ((v.failingAt n e).walk backend b) :=
  Visitor.follow_failingAt rfl hn hcalls

theorem walk_cut_short_crowded :
    12 ≤ (Visitor.idle.logging.walk "client" crowdedBoard).state.1.length ∧
      IsCut "client" 12 (.plain "full") (Visitor.idle.logging.walk "client" crowdedBoard)
        ((Visitor.idle.failingAt 12 (.plain "full")).walk "client" crowdedBoard) :=
  ⟨by decide +kernel, walk_cut_short Visitor.idle "client" crowdedBoard 12 (.plain "full")
    (by decide) (by decide +kernel)⟩

end Boardwright
