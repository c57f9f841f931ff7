import Boardwright.Firmware
import Boardwright.Hardware
import Boardwright.Proofs.CombinedFaults
import Boardwright.Proofs.Visits

/-!
# What a failed run returns

A walk has two ways to fail.  It may go through and have collected faults, or it
may be stopped.  `Progress.problems` is what it has found in either case: the
faults that were collected and the fault that stopped it, in the order in which
they came up.

* `Visitor.walk_abort` says that the fault of a walk that was stopped is a single
  report.
* `Backend.run_error` tells the two ways apart.

`run_returns_every_problem_iff` is the result.  A run that was stopped returns one
fault, so it does not return what had been collected by then; `halfHeardBoard` is
a board on which something gets lost.
-/

namespace Boardwright

/-- What a walk has found, as single faults and in order. -/
def Progress.problems {σ : Type} (p : Progress σ) : List Fault :=
  (p.collected ++ p.abort.toList).flatMap Fault.flatten

namespace Visitor

variable {σ : Type} {v : Visitor σ} {backend : String} {b : Board} {f : Fault}

/-- Only a call or the board itself stops a walk, and either does so with a reason. -/
theorem perform_abort {p : Progress σ} {s : Step} (hp : p.abort = none)
    (h : (v.perform backend b p s).abort = some f) :
    ∃ reason, f = Fault.stopping reason backend s.pos := by
  obtain ⟨c, pos, action⟩ := s
  cases action with
  | call call =>
    rw [perform_call] at h
    obtain ⟨reason, -, hreason⟩ := Option.map_eq_some_iff.1 h
    exact ⟨reason, hreason.symm⟩
  | report g =>
    have hnone : (v.perform backend b p ⟨c, pos, .report g⟩).abort = none := hp
    rw [hnone] at h
    cases h
  | halt reason => exact ⟨reason, (Option.some_inj.1 h).symm⟩

/-- What stops a walk is returned as a single report. -/
theorem walk_abort (h : (v.walk backend b).abort = some f) :
    ∃ d cause, f = .report d cause ∧ d.backend = backend := by
  obtain ⟨front, s, back, -, hfront, hlast⟩ := follow_stopped rfl h
  have hstep : (v.perform backend b (v.follow backend b front { state := v.start }) s).abort =
      some f := by
    rw [← hlast]
    exact h
  obtain ⟨reason, rfl⟩ := perform_abort hfront hstep
  obtain ⟨d, cause, hreport, hbackend, -⟩ := reason.stopping_report backend s.pos
  exact ⟨d, cause, hreport, hbackend⟩

end Visitor

namespace Backend

variable {be : Backend} {b : Board} {f : Fault}

/-- A run fails with what stopped its walk or, if nothing did, with what was collected. -/
theorem run_error (h : be.run b = .error f) :
    (be.walk b).abort = some f ∨
      (be.walk b).abort = none ∧ (be.walk b).collected ≠ [] ∧ f = .run (be.walk b).collected := by
  unfold run at h
  cases habort : (be.walk b).abort with
  | some g =>
    simp only [habort, Except.error.injEq] at h
    exact .inl (by rw [h])
  | none =>
    simp only [habort] at h
    split at h
    · cases h
    · next hsome => exact .inr ⟨rfl, mt List.isEmpty_iff.2 hsome, (Except.error.inj h).symm⟩

end Backend

/-- A run that fails returns everything that was found if and only if nothing stopped it
or nothing had been collected before.  A run that went through returns exactly what was
found, in order; one that was stopped returns the fault that stopped it and nothing
else. -/
theorem run_returns_every_problem_iff (be : Backend) (b : Board) (f : Fault)
    (h : be.run b = .error f) :
    ((be.walk b).problems.Sublist f.flatten ↔
        (be.walk b).abort = none ∨ (be.walk b).collected.flatMap Fault.flatten = []) ∧
      ((be.walk b).abort = none → f.flatten = (be.walk b).problems) ∧
      ∀ g, (be.walk b).abort = some g → f.flatten = [g] := by
  rcases Backend.run_error h with hstopped | ⟨hthrough, -, rfl⟩
  · obtain ⟨d, cause, rfl, -⟩ := Visitor.walk_abort hstopped
    have hproblems : (be.walk b).problems =
        (be.walk b).collected.flatMap Fault.flatten ++ [.report d cause] := by
      rw [Progress.problems, hstopped, List.flatMap_append]
      rfl
    rw [hproblems, hstopped]
    refine ⟨⟨fun hsub => .inr ?_, ?_⟩, nofun, ?_⟩
    · -- There is room for one fault only.
      have hlength := hsub.length_le
      have hone : (Fault.report d cause).flatten.length = 1 := rfl
      rw [List.length_append, List.length_singleton, hone] at hlength
      exact List.length_eq_zero_iff.1 (by omega)
    · rintro (hnone | hempty)
      · cases hnone
      · rw [hempty]
        exact List.Sublist.refl _
    · intro g hg
      rw [← Option.some_inj.1 hg]
      rfl
  · have hproblems : (be.walk b).problems = (be.walk b).collected.flatMap Fault.flatten := by
      rw [Progress.problems, hthrough, Option.toList_none, List.append_nil]
    rw [hproblems, Fault.flatten_run, hthrough]
    exact ⟨⟨fun _ => .inl rfl, fun _ => List.Sublist.refl _⟩, fun _ => rfl, nofun⟩

/-- A device that is not in the catalog in front of one that works both ways. -/
def halfHeardBoard : Board where
  gpios := [{ name := "lamps", direction := .input }, { name := "leds", direction := .dual }]

/-- For the project neither device is a reason to stop, so both faults are returned. -/
theorem run_returns_every_problem_iff_heard :
    ∃ f, (Backend.hardware {}).run halfHeardBoard = .error f ∧
      f.flatten = ((Backend.hardware {}).walk halfHeardBoard).problems ∧ f.flatten.length = 2 := by
  refine ⟨_, rfl, ?_, by decide +kernel⟩
  exact (run_returns_every_problem_iff (Backend.hardware {}) halfHeardBoard _ rfl).2.1 rfl

/-- The server gives up at the second device, and the first fault is not returned. -/
theorem halfHeard_not_returned :
    ∃ f, (Backend.firmware {}).run halfHeardBoard = .error f ∧
      ¬ ((Backend.firmware {}).walk halfHeardBoard).problems.Sublist f.flatten := by
  refine ⟨_, rfl, fun hsub => ?_⟩
  have hlength := hsub.length_le
  revert hlength
  decide +kernel

end Boardwright
