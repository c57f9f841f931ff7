import Boardwright.Proofs.Traversal
import Boardwright.Walk.Visitor

/-!
# What a walk makes of its steps

A walk takes step after step until one of them stops it.  `perform_call`,
`perform_report` and `perform_halt` are what a single step does, and the lemmas
about `follow` carry that to all steps by induction on their list.

* `follow_unstopped` is for any visitor: a walk that was not stopped has made
  every call, and its collection has every fault of the board in it.
  `follow_accepted` says when no answer had a fault.
* `follow_stopped` is the other half: a walk that was stopped was stopped by one
  step, and up to there it was not.  `mem_collected` says where a collected
  fault comes from, whether the walk was stopped or not.
* `follow_unfailing` and `follow_silent` are for visitors that never stop a walk
  and never report anything.
* `Visitor.recording` writes down the calls that a visitor gets.  It disturbs
  nothing (`recording_walk`).
-/

namespace Boardwright

/-- The call of a step with the identifiers handed out so far. -/
def Step.visit? (s : Step) : Option (Counters × Call) := s.call?.map (s.counters, ·)

theorem filterMap_visit (steps : List Step) :
    (steps.filterMap Step.visit?).map Prod.snd = steps.filterMap Step.call? := by
  rw [List.map_filterMap]
  congr 1
  funext s
  simp [Step.visit?, Function.comp_def]

/-- The progress of a visitor whose state is a part of another one's. -/
def Progress.map {σ τ : Type} (f : σ → τ) (p : Progress σ) : Progress τ where
  state := f p.state
  collected := p.collected
  abort := p.abort
  counters := p.counters

/-! ## Faults that stop a walk -/

namespace Diagnostic

@[simp] theorem attributed_backend (d : Diagnostic) (backend : String) (pos : Pos) :
    (d.attributed backend pos).backend = backend := by
  unfold attributed
  split <;> rfl

@[simp] theorem attributed_kind (d : Diagnostic) (backend : String) (pos : Pos) :
    (d.attributed backend pos).kind = d.kind := by
  unfold attributed
  split <;> rfl

end Diagnostic

namespace Fault

variable {f : Fault} {backend : String} {pos : Pos}

theorem stopping_of_first {d : Diagnostic} {cause : Option Fault} (h : f.first? = some (d, cause)) :
    f.stopping backend pos = .report (d.attributed backend pos) cause := by
  simp [stopping, attributed, h]

theorem stopping_of_none (h : f.first? = none) :
    f.stopping backend pos =
      .report (Diagnostic.attributed { phase := .traverse, kind := .invariant
                                       detail := "backend aborted" } backend pos) (some f) := by
  simp [stopping, attributed, h, first?]

/-- Whatever stopped a walk, what is returned is a report in the name of the
backend.  Without a report inside the reason it is a fatal one. -/
theorem stopping_report (f : Fault) (backend : String) (pos : Pos) :
    ∃ d cause, f.stopping backend pos = .report d cause ∧ d.backend = backend ∧
      (f.first? = none → d.kind = .invariant) := by
  cases h : f.first? with
  | none => exact ⟨_, _, stopping_of_none h, by simp, fun _ => by simp⟩
  | some found =>
    obtain ⟨d, cause⟩ := found
    exact ⟨_, _, stopping_of_first h, by simp, nofun⟩

end Fault

namespace Visitor

variable {σ : Type} {v : Visitor σ} {backend : String} {b : Board}

/-- The visitor never stops a walk. -/
def Unfailing (v : Visitor σ) : Prop := ∀ b c call s, (v.visit b c call s).stop = none

/-- The visitor never reports a fault. -/
def Silent (v : Visitor σ) : Prop := ∀ b c call s, (v.visit b c call s).reports = []

/-- The state of a visitor after some calls. -/
def play (v : Visitor σ) (b : Board) (calls : List (Counters × Call)) (s : σ) : σ :=
  calls.foldl (fun s (c, call) => (v.visit b c call s).state) s

/-- What a list of reports adds to the collected faults. -/
def entriesOf (backend : String) (reports : List (Fault × Pos)) : List Fault :=
  reports.flatMap fun (f, pos) => Collector.entries backend f pos

/-! ## One step -/

theorem foldl_keep (reports : List (Fault × Pos)) (p : Progress σ) :
    reports.foldl (fun p (f, pos) => keep backend p f pos) p =
      { p with collected := p.collected ++ entriesOf backend reports } := by
  induction reports generalizing p with
  | nil => simp [entriesOf]
  | cons r reports ih =>
    rw [List.foldl_cons, ih]
    simp [keep, entriesOf]

theorem perform_call (p : Progress σ) (c : Counters) (pos : Pos) (call : Call) :
    v.perform backend b p { counters := c, pos, action := .call call } =
      { state := (v.visit b c call p.state).state
        collected := p.collected ++ entriesOf backend (v.visit b c call p.state).reports
        abort := (v.visit b c call p.state).stop.map (·.stopping backend pos)
        counters := c } := by
  simp only [perform, foldl_keep]

theorem perform_report (p : Progress σ) (c : Counters) (pos : Pos) (f : Fault) :
    v.perform backend b p { counters := c, pos, action := .report f } =
      { p with collected := p.collected ++ Collector.entries backend f pos, counters := c } := rfl

theorem perform_halt (p : Progress σ) (c : Counters) (pos : Pos) (f : Fault) :
    v.perform backend b p { counters := c, pos, action := .halt f } =
      { p with abort := some (f.stopping backend pos), counters := c } := rfl

/-! ## All steps -/

theorem follow_cons_of_none {s : Step} {steps : List Step} {p : Progress σ}
    (h : (v.perform backend b p s).abort = none) :
    v.follow backend b (s :: steps) p = v.follow backend b steps (v.perform backend b p s) := by
  rw [follow]
  simp [h]

theorem follow_cons_of_some {s : Step} {steps : List Step} {p : Progress σ} {f : Fault}
    (h : (v.perform backend b p s).abort = some f) :
    v.follow backend b (s :: steps) p = v.perform backend b p s := by
  rw [follow]
  simp [h]

/-- A walk that was not stopped took its first step without being stopped. -/
theorem perform_unstopped {s : Step} {steps : List Step} {p : Progress σ}
    (h : (v.follow backend b (s :: steps) p).abort = none) :
    (v.perform backend b p s).abort = none := by
  cases hstep : (v.perform backend b p s).abort with
  | none => rfl
  | some f =>
    rw [follow_cons_of_some hstep, hstep] at h
    cases h

theorem follow_append {steps steps' : List Step} {p : Progress σ}
    (h : (v.follow backend b steps p).abort = none) :
    v.follow backend b (steps ++ steps') p =
      v.follow backend b steps' (v.follow backend b steps p) := by
  induction steps generalizing p with
  | nil => rfl
  | cons s steps ih =>
    have hstep := perform_unstopped h
    rw [follow_cons_of_none hstep] at h
    rw [List.cons_append, follow_cons_of_none hstep, follow_cons_of_none hstep, ih h]

/-- What was collected stays. -/
theorem follow_collected (v : Visitor σ) (backend : String) (b : Board) (steps : List Step)
    (p : Progress σ) : p.collected <+: (v.follow backend b steps p).collected := by
  induction steps generalizing p with
  | nil => exact List.prefix_refl _
  | cons s steps ih =>
    have hstep : p.collected <+: (v.perform backend b p s).collected := by
      obtain ⟨c, pos, action⟩ := s
      cases action with
      | call call =>
        rw [perform_call]
        exact List.prefix_append ..
      | report f => exact List.prefix_append ..
      | halt f => exact List.prefix_refl _
    cases habort : (v.perform backend b p s).abort with
    | some f =>
      rw [follow_cons_of_some habort]
      exact hstep
    | none =>
      rw [follow_cons_of_none habort]
      exact hstep.trans (ih _)

/-- A walk that was not stopped has taken every step: it had no reason to give
up, it made every call, and it collected every fault of the board, perhaps among
others. -/
theorem follow_unstopped {steps : List Step} {p : Progress σ}
    (h : (v.follow backend b steps p).abort = none) :
    steps.filterMap Step.halt? = [] ∧
      (v.follow backend b steps p).state = v.play b (steps.filterMap Step.visit?) p.state ∧
      ∃ found, (v.follow backend b steps p).collected = p.collected ++ found ∧
        (entriesOf backend (steps.filterMap Step.report?)).Sublist found := by
  induction steps generalizing p with
  | nil => exact ⟨rfl, rfl, [], by simp [follow], .slnil⟩
  | cons s steps ih =>
    have hstep := perform_unstopped h
    rw [follow_cons_of_none hstep] at h ⊢
    obtain ⟨hhalts, hstate, found, hfound, hsub⟩ := ih h
    rw [hstate, hfound]
    obtain ⟨c, pos, action⟩ := s
    cases action with
    | call call =>
      rw [perform_call]
      refine ⟨hhalts, rfl, _ ++ found, List.append_assoc .., ?_⟩
      exact hsub.trans (List.sublist_append_right ..)
    | report f =>
      rw [perform_report]
      refine ⟨hhalts, rfl, _ ++ found, List.append_assoc .., ?_⟩
      exact (List.Sublist.refl _).append hsub
    | halt f =>
      rw [perform_halt] at hstep
      cases hstep

/-- A walk that was not stopped and that collected nothing got an answer without
a fault to every call. -/
theorem follow_accepted {steps : List Step} {p : Progress σ}
    (habort : (v.follow backend b steps p).abort = none)
    (hcollected : (v.follow backend b steps p).collected = []) :
    ∀ visit ∈ steps.filterMap Step.visit?, ∃ s, (v.visit b visit.1 visit.2 s).stop = none ∧
      entriesOf backend (v.visit b visit.1 visit.2 s).reports = [] := by
  induction steps generalizing p with
  | nil => simp
  | cons s steps ih =>
    have hstep := perform_unstopped habort
    rw [follow_cons_of_none hstep] at habort hcollected
    have hrest := ih habort hcollected
    obtain ⟨c, pos, action⟩ := s
    cases action with
    | call call =>
      obtain ⟨-, -, found, hfound, -⟩ := follow_unstopped habort
      rw [hcollected, perform_call] at hfound
      have hnothing := (List.append_eq_nil_iff.1 (List.append_eq_nil_iff.1 hfound.symm).1).2
      rw [perform_call] at hstep
      exact List.forall_mem_cons.2
        ⟨⟨p.state, Option.map_eq_none_iff.1 hstep, hnothing⟩, hrest⟩
    | report f => exact hrest
    | halt f => exact hrest

/-- A walk that was stopped was stopped by one step, and not before. -/
theorem follow_stopped {steps : List Step} {p : Progress σ} {f : Fault} (hp : p.abort = none)
    (h : (v.follow backend b steps p).abort = some f) :
    ∃ front s back, steps = front ++ s :: back ∧ (v.follow backend b front p).abort = none ∧
      v.follow backend b steps p = v.perform backend b (v.follow backend b front p) s := by
  induction steps generalizing p with
  | nil =>
    rw [follow, hp] at h
    cases h
  | cons s steps ih =>
    cases hstep : (v.perform backend b p s).abort with
    | some g => exact ⟨[], s, steps, rfl, hp, follow_cons_of_some hstep⟩
    | none =>
      rw [follow_cons_of_none hstep] at h
      obtain ⟨front, s', back, hsplit, hfront, hlast⟩ := ih hstep h
      refine ⟨s :: front, s', back, by rw [hsplit, List.cons_append], ?_, ?_⟩
      · rw [follow_cons_of_none hstep]
        exact hfront
      · rw [follow_cons_of_none hstep, follow_cons_of_none hstep]
        exact hlast

/-- A collected fault is one of the board or one that the answer to a call had. -/
theorem mem_collected {steps : List Step} {p : Progress σ} {f : Fault}
    (h : f ∈ (v.follow backend b steps p).collected) :
    f ∈ p.collected ∨ f ∈ entriesOf backend (steps.filterMap Step.report?) ∨
      ∃ front c call back, steps.filterMap Step.visit? = front ++ (c, call) :: back ∧
        f ∈ entriesOf backend (v.visit b c call (v.play b front p.state)).reports := by
  induction steps generalizing p with
  | nil => exact .inl h
  | cons s steps ih =>
    have hcases : f ∈ (v.perform backend b p s).collected ∨
        f ∈ (v.follow backend b steps (v.perform backend b p s)).collected := by
      cases hstep : (v.perform backend b p s).abort with
      | some g =>
        rw [follow_cons_of_some hstep] at h
        exact .inl h
      | none =>
        rw [follow_cons_of_none hstep] at h
        exact .inr h
    -- A fault is either new with this step or with a later one.
    have hlater : f ∈ (v.perform backend b p s).collected ∨
        f ∈ entriesOf backend (steps.filterMap Step.report?) ∨
        ∃ front c call back, steps.filterMap Step.visit? = front ++ (c, call) :: back ∧
          f ∈ entriesOf backend
            (v.visit b c call (v.play b front (v.perform backend b p s).state)).reports := by
      rcases hcases with hnow | hrest
      · exact .inl hnow
      · exact ih hrest
    obtain ⟨c, pos, action⟩ := s
    cases action with
    | call call =>
      rw [perform_call] at hlater
      rcases hlater with hnow | hboard | ⟨front, c', call', back, hsplit, hf⟩
      · rcases List.mem_append.1 hnow with hold | hnew
        · exact .inl hold
        · exact .inr (.inr ⟨[], c, call, _, rfl, hnew⟩)
      · exact .inr (.inl hboard)
      · refine .inr (.inr ⟨(c, call) :: front, c', call', back, ?_, hf⟩)
        show (c, call) :: steps.filterMap Step.visit? = _
        rw [hsplit, List.cons_append]
    | report g =>
      rw [perform_report] at hlater
      rcases hlater with hnow | hboard | hcall
      · rcases List.mem_append.1 hnow with hold | hnew
        · exact .inl hold
        · exact .inr (.inl (List.mem_append_left _ hnew))
      · exact .inr (.inl (List.mem_append_right _ hboard))
      · exact .inr (.inr hcall)
    | halt g => exact hlater

theorem follow_unfailing (hv : v.Unfailing) {steps : List Step}
    (hsteps : steps.filterMap Step.halt? = []) {p : Progress σ} (hp : p.abort = none) :
    (v.follow backend b steps p).abort = none := by
  induction steps generalizing p with
  | nil => exact hp
  | cons s steps ih =>
    obtain ⟨c, pos, action⟩ := s
    cases action with
    | call call =>
      have hstep : (v.perform backend b p ⟨c, pos, .call call⟩).abort = none := by
        rw [perform_call, hv]
        rfl
      rw [follow_cons_of_none hstep]
      exact ih hsteps hstep
    | report f =>
      have hstep : (v.perform backend b p ⟨c, pos, .report f⟩).abort = none := hp
      rw [follow_cons_of_none hstep]
      exact ih hsteps hstep
    | halt f => cases hsteps

theorem follow_silent (hv : v.Unfailing) (hsilent : v.Silent) {steps : List Step}
    (hsteps : steps.filterMap Step.halt? = []) {p : Progress σ} (hp : p.abort = none) :
    (v.follow backend b steps p).collected =
      p.collected ++ entriesOf backend (steps.filterMap Step.report?) := by
  induction steps generalizing p with
  | nil => simp [follow, entriesOf]
  | cons s steps ih =>
    obtain ⟨c, pos, action⟩ := s
    cases action with
    | call call =>
      have hstep : (v.perform backend b p ⟨c, pos, .call call⟩).abort = none := by
        rw [perform_call, hv]
        rfl
      rw [follow_cons_of_none hstep, ih hsteps hstep, perform_call, hsilent]
      show (p.collected ++ []) ++ _ = _
      rw [List.append_nil]
      rfl
    | report f =>
      have hstep : (v.perform backend b p ⟨c, pos, .report f⟩).abort = none := hp
      rw [follow_cons_of_none hstep, ih hsteps hstep, perform_report, List.append_assoc]
      rfl
    | halt f => cases hsteps

/-! ## A record of the calls -/

/-- The visitor that works as `v` does and writes down every call. -/
def recording (v : Visitor σ) : Visitor (List Call × σ) where
  start := ([], v.start)
  visit b c call s :=
    let answer := v.visit b c call s.2
    { state := (s.1 ++ [call], answer.state), reports := answer.reports, stop := answer.stop }

theorem recording_unfailing (hv : v.Unfailing) : v.recording.Unfailing :=
  fun b c call s => hv b c call s.2

theorem recording_perform (v : Visitor σ) (backend : String) (b : Board)
    (p : Progress (List Call × σ)) (s : Step) :
    (v.recording.perform backend b p s).map Prod.snd =
      v.perform backend b (p.map Prod.snd) s := by
  obtain ⟨c, pos, action⟩ := s
  cases action with
  | call call =>
    rw [perform_call, perform_call]
    rfl
  | report f => rfl
  | halt f => rfl

theorem recording_follow (steps : List Step) (p : Progress (List Call × σ)) :
    (v.recording.follow backend b steps p).map Prod.snd =
      v.follow backend b steps (p.map Prod.snd) := by
  induction steps generalizing p with
  | nil => rfl
  | cons s steps ih =>
    have hstep := recording_perform v backend b p s
    have habort : (v.recording.perform backend b p s).abort =
        (v.perform backend b (p.map Prod.snd) s).abort := by
      rw [← hstep]
      rfl
    cases h : (v.perform backend b (p.map Prod.snd) s).abort with
    | none =>
      rw [follow_cons_of_none h, follow_cons_of_none (habort.trans h), ih, hstep]
    | some f =>
      rw [follow_cons_of_some h, follow_cons_of_some (habort.trans h), hstep]

/-- Writing down the calls changes nothing about a walk. -/
theorem recording_walk (v : Visitor σ) (backend : String) (b : Board) :
    (v.recording.walk backend b).map Prod.snd = v.walk backend b :=
  recording_follow b.steps _

theorem recording_play (calls : List (Counters × Call)) (s : List Call × σ) :
    (v.recording.play b calls s).1 = s.1 ++ calls.map Prod.snd := by
  induction calls generalizing s with
  | nil => simp [play]
  | cons call calls ih =>
    show (v.recording.play b calls _).1 = _
    rw [ih]
    simp [recording]

end Visitor

end Boardwright
