import Boardwright.Generate
import Boardwright.Host
import Boardwright.Proofs.CombinedFaults
import Boardwright.Proofs.FailedRuns

/-!
# Backends that run side by side

The backends of a board start and finish in some order, and the work may be called
off in between.  This module shows what of that order is left in the outcome:
nothing but whether some backend came too late.

There are three groups.

* The outcomes of all backends as one.  `AllOrNothing` says what that is, and
  `combine_allOrNothing` shows it of `combine`.  The fault of a run never is an
  empty combination (`Backend.run_parts`), so none gets lost.
* Steps.  `Session.Kept` is what no step takes away: a backend that runs goes on
  running, and a slot that holds the outcome of its backend goes on holding it.
* Runs.  `play_settled` follows one backend from its start to its finish, and
  `play_refused_iff` tells when a backend finds the work called off.

`generate_eq` is the outcome in one equation, and `generate_allOrNothing` what that means.
-/

namespace Boardwright

/-- The fault of a run is a report or the fault of a walk that went through, so it has a
part. -/
theorem Backend.run_parts {be : Backend} {b : Board} {f : Fault} (h : be.run b = .error f) :
    f.parts ≠ [] := by
  rcases run_error h with hstopped | ⟨-, -, rfl⟩
  · obtain ⟨d, cause, rfl, -⟩ := Visitor.walk_abort hstopped
    exact List.cons_ne_nil _ _
  · exact List.cons_ne_nil _ _

namespace Generate

/-! ## All outcomes as one -/

/-- The single faults of an outcome. -/
def faultsOf : Except Fault Result → List Fault
  | .error f => f.flatten
  | .ok _ => []

/-- All results in order if every run succeeds, and otherwise a fault that opens to the
faults of all runs that fail, in order. -/
structure AllOrNothing (runs : List (Except Fault Result)) (outcome : Except Fault (List Result)) :
    Prop where
  results : ∀ rs, outcome = .ok rs ↔ runs = rs.map .ok
  faults : ∀ f, outcome = .error f → f.flatten = runs.flatMap faultsOf

theorem combine_of_some {runs : List (Except Fault Result)} {f : Fault}
    (h : Fault.combine (runs.map fault?) = some f) : combine runs = .error f := by
  unfold combine
  rw [h]

theorem combine_of_none {runs : List (Except Fault Result)}
    (h : Fault.combine (runs.map fault?) = none) :
    combine runs = .ok (runs.filterMap Except.toOption) := by
  unfold combine
  rw [h]

theorem flatMap_faultsOf (runs : List (Except Fault Result)) :
    ((runs.map fault?).filterMap id).flatMap Fault.flatten = runs.flatMap faultsOf := by
  induction runs with
  | nil => rfl
  | cons r runs ih =>
    cases r with
    | error f =>
      show f.flatten ++ ((runs.map fault?).filterMap id).flatMap Fault.flatten =
        f.flatten ++ runs.flatMap faultsOf
      rw [ih]
    | ok _ => exact ih

theorem filterMap_toOption (rs : List Result) :
    (rs.map (Except.ok (ε := Fault))).filterMap Except.toOption = rs := by
  rw [List.filterMap_map]
  exact List.filterMap_some

/-- Without a fault there are results only. -/
theorem eq_map_ok {runs : List (Except Fault Result)} (h : ∀ r ∈ runs, fault? r = none) :
    runs = (runs.filterMap Except.toOption).map .ok := by
  induction runs with
  | nil => rfl
  | cons r runs ih =>
    have hrest := ih fun r' hr' => h r' (List.mem_cons_of_mem _ hr')
    cases r with
    | error f => exact absurd (h _ List.mem_cons_self) (Option.some_ne_none f)
    | ok result =>
      show Except.ok result :: runs = .ok result :: _
      rw [← hrest]

theorem combine_allOrNothing {runs : List (Except Fault Result)}
    (hruns : ∀ f, .error f ∈ runs → f.parts ≠ []) : AllOrNothing runs (combine runs) := by
  cases hcombine : Fault.combine (runs.map fault?) with
  | some f =>
    rw [combine_of_some hcombine]
    constructor
    · intro rs
      refine ⟨by simp, fun hrs => ?_⟩
      -- Of results alone nothing could have been combined.
      have hnone : Fault.combine (runs.map fault?) = none := by
        rw [Fault.combine_eq_none_iff, hrs, List.map_map, Fault.allParts]
        have hempty : (rs.map (fault? ∘ Except.ok)).filterMap id = [] := by
          rw [List.filterMap_map, List.filterMap_eq_nil_iff]
          intro r _
          rfl
        rw [hempty, List.flatMap_nil]
      rw [hnone] at hcombine
      cases hcombine
    · intro g hg
      obtain rfl : f = g := Except.error.inj hg
      rw [Fault.flatten_combine hcombine, flatMap_faultsOf]
  | none =>
    rw [combine_of_none hcombine]
    have hclean : ∀ r ∈ runs, fault? r = none := by
      intro r hr
      cases r with
      | ok _ => rfl
      | error f =>
        have hparts := (Fault.combine_eq_none_iff _).1 hcombine
        have hmem : f ∈ (runs.map fault?).filterMap id :=
          List.mem_filterMap.2 ⟨some f, List.mem_map.2 ⟨_, hr, rfl⟩, rfl⟩
        exact absurd (List.flatMap_eq_nil_iff.1 hparts f hmem) (hruns f hr)
    have hruns' := eq_map_ok hclean
    constructor
    · intro rs
      constructor
      · intro hrs
        rw [← Except.ok.inj hrs]
        exact hruns'
      · intro hrs
        rw [hrs, filterMap_toOption]
    · intro g hg
      cases hg

/-! ## Steps -/

namespace Session

variable {backends : List Backend} {b : Board} {s s' : Session} {i : Nat}

/-- The slot of a backend holds its own outcome. -/
def Settled (backends : List Backend) (b : Board) (s : Session) (i : Nat) : Prop :=
  s.slots[i]? = some ((backends[i]?).map (·.run b))

/-- What is never taken away as a session goes on from `s` to `s'`. -/
structure Kept (backends : List Backend) (b : Board) (s s' : Session) : Prop where
  cancelled : s.cancelled = true → s'.cancelled = true
  refused : s.refused = true → s'.refused = true
  running : ∀ i ∈ s.running, i ∈ s'.running
  size : s'.slots.length = s.slots.length
  settled : ∀ i, s.Settled backends b i → s'.Settled backends b i

theorem Kept.refl (s : Session) : Kept backends b s s :=
  ⟨id, id, fun _ => id, rfl, fun _ => id⟩

theorem Kept.trans {s'' : Session} (h : Kept backends b s s') (h' : Kept backends b s' s'') :
    Kept backends b s s'' where
  cancelled hs := h'.cancelled (h.cancelled hs)
  refused hs := h'.refused (h.refused hs)
  running i hi := h'.running i (h.running i hi)
  size := h'.size.trans h.size
  settled i hi := h'.settled i (h.settled i hi)

theorem step_start_eq (s : Session) (i : Nat) : s.step backends b (.start i) =
    if s.cancelled then { s with refused := true } else { s with running := i :: s.running } :=
  rfl

theorem step_finish_eq (s : Session) (i : Nat) : s.step backends b (.finish i) =
    if s.running.contains i then { s with slots := s.slots.set i ((backends[i]?).map (·.run b)) }
    else s :=
  rfl

theorem step_kept (backends : List Backend) (b : Board) (s : Session) (m : Moment) :
    Kept backends b s (s.step backends b m) := by
  cases m with
  | cancel => exact ⟨fun _ => rfl, id, fun _ => id, rfl, fun _ => id⟩
  | start j =>
    rw [step_start_eq]
    split
    · exact ⟨id, fun _ => rfl, fun _ => id, rfl, fun _ => id⟩
    · exact ⟨id, id, fun _ hi => List.mem_cons_of_mem _ hi, rfl, fun _ => id⟩
  | finish j =>
    rw [step_finish_eq]
    split
    · refine ⟨id, id, fun _ => id, List.length_set, fun i hi => ?_⟩
      -- The slot that is written is this one, with what it holds already, or another one.
      show (s.slots.set j _)[i]? = _
      by_cases hji : j = i
      · subst hji
        have hlt : j < s.slots.length := (List.getElem?_eq_some_iff.1 hi).1
        rw [List.getElem?_set_self hlt]
      · rw [List.getElem?_set_ne hji]
        exact hi
    · exact Kept.refl s

theorem step_start (h : s.cancelled = false) : i ∈ (s.step backends b (.start i)).running := by
  rw [step_start_eq, if_neg (by rw [h]; decide)]
  exact List.mem_cons_self

theorem step_finish (backends : List Backend) (b : Board) (hi : i ∈ s.running)
    (hlt : i < s.slots.length) : (s.step backends b (.finish i)).Settled backends b i := by
  rw [step_finish_eq, if_pos (List.contains_iff_mem.2 hi)]
  exact List.getElem?_set_self hlt

/-! ## Runs -/

/-- The session after all that happens. -/
def play (backends : List Backend) (b : Board) (moments : List Moment) (s : Session) : Session :=
  moments.foldl (step backends b) s

theorem play_append (front back : List Moment) (s : Session) :
    play backends b (front ++ back) s = play backends b back (play backends b front s) :=
  List.foldl_append

theorem play_kept (backends : List Backend) (b : Board) (moments : List Moment) (s : Session) :
    Kept backends b s (play backends b moments s) := by
  induction moments generalizing s with
  | nil => exact Kept.refl s
  | cons m moments ih => exact (step_kept backends b s m).trans (ih _)

/-- A backend that started is running, unless it found the work called off. -/
theorem play_started {moments : List Moment} (hstart : .start i ∈ moments)
    (h : (play backends b moments s).refused = false) :
    i ∈ (play backends b moments s).running := by
  obtain ⟨front, back, rfl⟩ := List.append_of_mem hstart
  rw [play_append] at h ⊢
  have hkept := play_kept backends b back
    ((play backends b front s).step backends b (.start i))
  cases hcancelled : (play backends b front s).cancelled with
  | false => exact hkept.running i (step_start hcancelled)
  | true =>
    have hrefused : ((play backends b front s).step backends b (.start i)).refused = true := by
      rw [step_start_eq, if_pos hcancelled]
    have hlast := hkept.refused hrefused
    exact absurd (hlast.symm.trans h) (by decide)

theorem play_finished {moments : List Moment} (hfinish : .finish i ∈ moments)
    (hi : i ∈ s.running) (hlt : i < s.slots.length) :
    (play backends b moments s).Settled backends b i := by
  obtain ⟨front, back, rfl⟩ := List.append_of_mem hfinish
  rw [play_append]
  have hfront := play_kept backends b front s
  have hsettled := step_finish backends b (hfront.running i hi) (hfront.size ▸ hlt)
  exact (play_kept backends b back _).settled i hsettled

/-- A backend that started and finished has its outcome in its slot. -/
theorem play_settled {moments : List Moment} (h : [.start i, .finish i].Sublist moments)
    (hlt : i < s.slots.length) (hrefused : (play backends b moments s).refused = false) :
    (play backends b moments s).Settled backends b i := by
  obtain ⟨front, back, rfl, hstart, hback⟩ := List.cons_sublist_iff.1 h
  have hfinish : .finish i ∈ back := List.singleton_sublist.1 hback
  rw [play_append] at hrefused ⊢
  have hfront : (play backends b front s).refused = false := by
    apply Bool.eq_false_iff.2
    intro hearly
    have hlast := (play_kept backends b back _).refused hearly
    exact absurd (hlast.symm.trans hrefused) (by decide)
  have hrunning := play_started hstart hfront
  have hsize := (play_kept backends b front s).size
  exact play_finished hfinish hrunning (hsize ▸ hlt)

/-- Someone finds the work called off if and only if someone starts after that. -/
theorem play_refused_iff (moments : List Moment) (s : Session) :
    (play backends b moments s).refused = true ↔
      s.refused = true ∨ (s.cancelled = true ∧ ∃ i, .start i ∈ moments) ∨
        ∃ i, [.cancel, .start i].Sublist moments := by
  induction moments generalizing s with
  | nil => simp [play]
  | cons m moments ih =>
    show (play backends b moments (s.step backends b m)).refused = true ↔ _
    rw [ih]
    cases m with
    | cancel =>
      have hsub (i : Nat) : [.cancel, .start i].Sublist (.cancel :: moments) ↔
          .start i ∈ moments := by
        rw [List.cons_sublist_cons, List.singleton_sublist]
      have hlate : (∃ i, [.cancel, .start i].Sublist moments) → ∃ i, .start i ∈ moments :=
        fun ⟨i, hi⟩ => ⟨i, hi.subset (by simp)⟩
      simp only [step, hsub, List.mem_cons, reduceCtorEq, false_or, true_and]
      grind
    | start j =>
      have hsub (i : Nat) : [.cancel, .start i].Sublist (.start j :: moments) ↔
          [.cancel, .start i].Sublist moments :=
        ⟨fun h => by cases h with | cons _ h => exact h, fun h => h.cons _⟩
      have hstart : ∃ i, Moment.start i ∈ Moment.start j :: moments := ⟨j, List.mem_cons_self⟩
      simp only [hsub, hstart, and_true, step]
      split
      · next hcancelled => simp [hcancelled]
      · next hcancelled => simp [hcancelled]
    | finish j =>
      have hsub (i : Nat) : [.cancel, .start i].Sublist (.finish j :: moments) ↔
          [.cancel, .start i].Sublist moments :=
        ⟨fun h => by cases h with | cons _ h => exact h, fun h => h.cons _⟩
      simp only [hsub, List.mem_cons, reduceCtorEq, false_or, step]
      split <;> rfl

end Session

/-! ## Schedules -/

/-- Every backend starts and later finishes. -/
def Complete (count : Nat) (moments : List Moment) : Prop :=
  ∀ i < count, [.start i, .finish i].Sublist moments

instance (count : Nat) (moments : List Moment) : Decidable (Complete count moments) :=
  inferInstanceAs (Decidable (∀ i < count, [Moment.start i, .finish i].Sublist moments))

/-- Some backend starts after the work was called off. -/
def CalledOff (moments : List Moment) : Prop :=
  ∃ i, [.cancel, .start i].Sublist moments

theorem not_calledOff {moments : List Moment} (h : .cancel ∉ moments) : ¬ CalledOff moments :=
  fun ⟨_, hsub⟩ => h (hsub.subset List.mem_cons_self)

theorem inTurn_complete (count : Nat) : Complete count (inTurn count) := by
  intro i hi
  have hmem : i ∈ List.range count := List.mem_range.2 hi
  exact List.sublist_flatten_of_mem (List.mem_map_of_mem hmem)

theorem cancel_not_mem_inTurn (count : Nat) : .cancel ∉ inTurn count := by
  simp [inTurn]

variable {backends : List Backend} {b : Board} {moments : List Moment}

/-- The session in front of all that happens. -/
def fresh (backends : List Backend) : Session := { slots := backends.map fun _ => none }

theorem during_eq (hsome : backends ≠ []) : during moments b backends =
    (Session.play backends b moments (fresh backends)).outcome := by
  unfold during
  rw [if_neg (mt List.isEmpty_iff.1 hsome)]
  rfl

theorem refused_iff : (Session.play backends b moments (fresh backends)).refused = true ↔
    CalledOff moments := by
  rw [Session.play_refused_iff]
  simp [fresh, CalledOff]

/-- Work that is not called off fills every slot. -/
theorem slots_of_complete (h : Complete backends.length moments) (hoff : ¬ CalledOff moments) :
    (Session.play backends b moments (fresh backends)).slots =
      (backends.map (·.run b)).map some := by
  have hrefused : (Session.play backends b moments (fresh backends)).refused = false :=
    Bool.eq_false_iff.2 (mt refused_iff.1 hoff)
  have hsize : (Session.play backends b moments (fresh backends)).slots.length =
      backends.length := by
    rw [(Session.play_kept backends b moments (fresh backends)).size]
    exact List.length_map _
  apply List.ext_getElem?
  intro i
  by_cases hi : i < backends.length
  · have hlt : i < (fresh backends).slots.length := by simpa [fresh] using hi
    have hsettled := Session.play_settled (b := b) (h i hi) hlt hrefused
    rw [hsettled]
    simp [List.getElem?_eq_getElem hi]
  · rw [List.getElem?_eq_none (by omega), List.getElem?_eq_none (by simpa using hi)]

theorem during_of_not_calledOff (hsome : backends ≠ []) (h : Complete backends.length moments)
    (hoff : ¬ CalledOff moments) :
    during moments b backends = combine (backends.map (·.run b)) := by
  have hrefused : ¬ (Session.play backends b moments (fresh backends)).refused = true :=
    mt refused_iff.1 hoff
  rw [during_eq hsome, Session.outcome, if_neg hrefused, slots_of_complete h hoff,
    List.filterMap_map]
  congr 1
  exact List.filterMap_some

theorem during_of_calledOff (hsome : backends ≠ []) (hoff : CalledOff moments) :
    during moments b backends = .error .cancelled := by
  rw [during_eq hsome, Session.outcome, if_pos (refused_iff.2 hoff)]

end Generate

theorem generate_eq {backends : List Backend} (b : Board) (hsome : backends ≠ []) :
    generate b backends = Generate.combine (backends.map (·.run b)) :=
  Generate.during_of_not_calledOff hsome (Generate.inTurn_complete _)
    (Generate.not_calledOff (Generate.cancel_not_mem_inTurn _))

theorem generate_allOrNothing {backends : List Backend} (b : Board) (hsome : backends ≠ []) :
    Generate.AllOrNothing (backends.map (·.run b)) (generate b backends) := by
  rw [generate_eq b hsome]
  apply Generate.combine_allOrNothing
  intro f hf
  obtain ⟨be, -, hrun⟩ := List.mem_map.1 hf
  exact Backend.run_parts hrun

/-- Every result comes from a run of one of the backends. -/
theorem run_of_generate {backends : List Backend} {b : Board} {results : List Result}
    (h : generate b backends = .ok results) {r : Result} (hr : r ∈ results) :
    ∃ be ∈ backends, be.run b = .ok r := by
  have hsome : backends ≠ [] := by
    rintro rfl
    cases h
  have hruns := ((generate_allOrNothing b hsome).results results).1 h
  have hrun : (.ok r : Except Fault Result) ∈ backends.map (·.run b) := by
    rw [hruns]
    exact List.mem_map_of_mem hr
  exact List.mem_map.1 hrun

/-- Running all backends gives all results in order if every run succeeds, and otherwise
the faults of all runs that fail, in order.  As long as nothing is called off, this is the
outcome whatever the order in which the backends start and finish.  Otherwise the outcome
is the same, or the work counts as cancelled; the latter is so exactly if some backend
starts too late. -/
theorem outcome_independent_of_schedule (b : Board) (backends : List Backend)
    (moments : List Generate.Moment) (hsome : backends ≠ [])
    (h : Generate.Complete backends.length moments) :
    Generate.AllOrNothing (backends.map (·.run b)) (generate b backends) ∧
      (.cancel ∉ moments → Generate.during moments b backends = generate b backends) ∧
      (¬ Generate.CalledOff moments →
        Generate.during moments b backends = generate b backends) ∧
      (Generate.CalledOff moments →
        Generate.during moments b backends = .error .cancelled) := by
  have hsame (hoff : ¬ Generate.CalledOff moments) :
      Generate.during moments b backends = generate b backends := by
    rw [generate_eq b hsome]
    exact Generate.during_of_not_calledOff hsome h hoff
  exact ⟨generate_allOrNothing b hsome, fun hcancel => hsame (Generate.not_calledOff hcancel), hsame,
    Generate.during_of_calledOff hsome⟩

/-- The three backends one across the other.  When the work is called off, the last of
them has just started. -/
def crossedMoments : List Generate.Moment :=
  [.start 2, .start 0, .finish 0, .start 1, .cancel, .finish 2, .finish 1]

/-- On a board that two of the backends refuse, their three faults come out. -/
theorem outcome_independent_of_schedule_crossed :
    Generate.Complete 3 crossedMoments ∧ ¬ Generate.CalledOff crossedMoments ∧
      ∃ f, Generate.during crossedMoments halfHeardBoard
          [.host {}, .firmware {}, .hardware {}] = .error f ∧
        f.flatten = [Backend.host {}, .firmware {}, .hardware {}].flatMap
          (fun be => Generate.faultsOf (be.run halfHeardBoard)) ∧
        f.flatten.length = 3 := by
  have hcomplete : Generate.Complete 3 crossedMoments := by decide
  have hoff : ¬ Generate.CalledOff crossedMoments := by
    simp [Generate.CalledOff, crossedMoments, List.sublist_cons_iff]
  obtain ⟨hwhole, -, hsame, -⟩ := outcome_independent_of_schedule halfHeardBoard
    [.host {}, .firmware {}, .hardware {}] crossedMoments (List.cons_ne_nil _ _) hcomplete
  refine ⟨hcomplete, hoff, _, (hsame hoff).trans rfl, ?_, by decide +kernel⟩
  rw [hwhole.faults _ rfl, List.flatMap_map]

end Boardwright
