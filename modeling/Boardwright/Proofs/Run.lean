import Boardwright.Backend
import Boardwright.Proofs.WalkOrder
import Mathlib.Data.List.Induction

/-!
# Successful runs

What a backend has seen when its run succeeds, and how to read a generated text
off the calls.

* `Backend.run_ok`: the board has no defects, every call of the traversal was
  answered, and nothing stopped the last one.  `Backend.run_accepts`: no answer
  had a fault.
* `Visitor.play_grows` is the induction over the calls: what each of them
  adds to a state, all of them add together.  `Visitor.advance_eachAfter` is the
  one over groups of calls.
* `Board.flatMap_inside` reduces the calls to those about one part of the board,
  for a list that the others do not contribute to.
* `Board.grants` is the one assignment of streams to CPU bindings.
  `flatMap_streamLog` says that a list to which only the streams of CPU bindings
  contribute follows it, whatever the backend writes for a stream.
  `streams_numbered` says that the numbers in it are without a gap.
-/

namespace Boardwright

namespace Board

/-- The calls of a traversal between the first and the last. -/
def inside (b : Board) : List Call :=
  .medium b.medium :: (eachAfter gpioCalls b.gpios ++ schedulerCalls b.scheduler ++
    b.cores.map .core ++ eachAfter b.instanceCalls b.instances)

theorem traversal_eq (b : Board) : b.traversal = .start :: b.inside ++ [.finish] := by
  simp [traversal, inside]

/-- The first and the last call come only once. -/
theorem inside_proper (b : Board) : ∀ call ∈ b.inside, call ≠ .start ∧ call ≠ .finish := by
  intro call hcall
  simp only [inside, List.mem_cons, List.mem_append, List.mem_map, mem_eachAfter] at hcall
  rcases hcall with rfl | (((⟨_, g, _, -, hmem⟩ | hmem) | ⟨core, -, rfl⟩) | ⟨_, inst, _, -, hmem⟩)
  · exact ⟨nofun, nofun⟩
  · unfold gpioCalls at hmem
    split at hmem <;> simp at hmem <;> subst hmem <;> exact ⟨nofun, nofun⟩
  · unfold schedulerCalls at hmem
    split at hmem <;> simp at hmem <;> subst hmem <;> exact ⟨nofun, nofun⟩
  · exact ⟨nofun, nofun⟩
  · unfold instanceCalls at hmem
    split at hmem
    · simp at hmem
    · simp only [List.cons_append, List.mem_cons, List.mem_append, mem_eachAfter,
        List.not_mem_nil, or_false] at hmem
      rcases hmem with rfl | ⟨_, p, _, -, hmem⟩ | rfl
      · exact ⟨nofun, nofun⟩
      · rw [← bindingCalls_isConnection, List.mem_filter] at hmem
        constructor
        · rintro rfl
          cases hmem.2
        · rintro rfl
          cases hmem.2
      · exact ⟨nofun, nofun⟩

/-- The last call is behind all others. -/
theorem ne_finish (b : Board) : ∀ call ∈ .start :: b.inside, call ≠ .finish := by
  intro call hcall
  rcases List.mem_cons.1 hcall with rfl | hinside
  · exact nofun
  · exact (b.inside_proper call hinside).2

end Board

/-! ## Calls by part of the board -/

/-- What a call can be about: the traversal itself or a part of the board. -/
inductive Part where
  | ends
  | medium
  | gpios
  | scheduler
  | cores
  | instances
  deriving DecidableEq

def Call.part : Call → Part
  | .start | .finish => .ends
  | .medium _ => .medium
  | .input .. | .output .. | .bidirectional .. => .gpios
  | .defaultScheduler _ | .userScheduler .. => .scheduler
  | .core _ => .cores
  | .enter _ | .axis _ | .link _ | .leave _ => .instances

namespace Board

/-- The calls about a part of the board. -/
def callsAbout (b : Board) : Part → List Call
  | .ends => []
  | .medium => [.medium b.medium]
  | .gpios => eachAfter gpioCalls b.gpios
  | .scheduler => schedulerCalls b.scheduler
  | .cores => b.cores.map .core
  | .instances => eachAfter b.instanceCalls b.instances

theorem inside_eq (b : Board) :
    b.inside = b.callsAbout .medium ++ b.callsAbout .gpios ++ b.callsAbout .scheduler ++
      b.callsAbout .cores ++ b.callsAbout .instances := by
  simp [inside, callsAbout]

theorem instanceCalls_part (b : Board) (earlier : List Instance) (inst : Instance) :
    ∀ call ∈ b.instanceCalls earlier inst, call.part = .instances := by
  intro call hcall
  unfold instanceCalls at hcall
  split at hcall
  · cases hcall
  · simp only [List.cons_append, List.mem_cons, List.mem_append, mem_eachAfter,
      List.not_mem_nil, or_false] at hcall
    rcases hcall with rfl | ⟨_, p, _, -, hmem⟩ | rfl
    · rfl
    · rw [← bindingCalls_isConnection, List.mem_filter] at hmem
      cases call with
      | axis a => rfl
      | link l => rfl
      | _ => cases hmem.2
    · rfl

theorem callsAbout_part (b : Board) (part : Part) :
    ∀ call ∈ b.callsAbout part, call.part = part := by
  intro call hcall
  cases part with
  | ends => cases hcall
  | medium =>
    rw [List.mem_singleton.1 hcall]
    rfl
  | gpios =>
    obtain ⟨earlier, g, _, -, hmem⟩ := mem_eachAfter.1 hcall
    unfold gpioCalls at hmem
    split at hmem <;> simp at hmem <;> subst hmem <;> rfl
  | scheduler =>
    replace hcall : call ∈ schedulerCalls b.scheduler := hcall
    unfold schedulerCalls at hcall
    split at hcall <;> simp at hcall <;> subst hcall <;> rfl
  | cores =>
    obtain ⟨core, -, rfl⟩ := List.mem_map.1 hcall
    rfl
  | instances =>
    obtain ⟨earlier, inst, _, -, hmem⟩ := mem_eachAfter.1 hcall
    exact b.instanceCalls_part earlier inst call hmem

/-- The medium comes first, and only once. -/
theorem inside_medium (b : Board) :
    ∃ calls, b.inside = .medium b.medium :: calls ∧
      ∀ call ∈ calls, call.part ≠ .ends ∧ call.part ≠ .medium := by
  refine ⟨_, rfl, fun call hcall => ?_⟩
  have hparts : ∃ part, part ≠ .ends ∧ part ≠ .medium ∧ call ∈ b.callsAbout part := by
    rcases List.mem_append.1 hcall with hcall | hcall
    · rcases List.mem_append.1 hcall with hcall | hcall
      · rcases List.mem_append.1 hcall with hcall | hcall
        · exact ⟨.gpios, nofun, nofun, hcall⟩
        · exact ⟨.scheduler, nofun, nofun, hcall⟩
      · exact ⟨.cores, nofun, nofun, hcall⟩
    · exact ⟨.instances, nofun, nofun, hcall⟩
  obtain ⟨part, hends, hmedium, hcall⟩ := hparts
  rw [b.callsAbout_part part call hcall]
  exact ⟨hends, hmedium⟩

/-- What only the calls about one part contribute to is contributed by them. -/
theorem flatMap_inside {τ : Type} {f : Call → List τ} {part : Part}
    (hf : ∀ call, call.part ≠ .ends → call.part ≠ part → f call = []) (b : Board) :
    b.inside.flatMap f = (b.callsAbout part).flatMap f := by
  have hends : (b.callsAbout .ends).flatMap f = [] := rfl
  have hother : ∀ other, other ≠ .ends → other ≠ part → (b.callsAbout other).flatMap f = [] := by
    intro other hproper hother
    rw [List.flatMap_eq_nil_iff]
    intro call hcall
    have hpart := b.callsAbout_part other call hcall
    exact hf call (hpart ▸ hproper) (hpart ▸ hother)
  rw [inside_eq]
  simp only [List.flatMap_append]
  cases part <;> simp only [hother, hends, ne_eq, reduceCtorEq, not_false_eq_true, List.append_nil,
    List.nil_append]

end Board

/-! ## One call after the other -/

namespace Visitor

variable {σ τ : Type} {v : Visitor σ} {backend : String} {b : Board}

/-- The counters matter to the last call only. -/
def CountsLast (v : Visitor σ) : Prop :=
  ∀ b c call s, call ≠ .finish → v.visit b c call s = v.visit b {} call s

/-- The state of a visitor after some calls, for which the counters do not
matter. -/
def advance (v : Visitor σ) (b : Board) (calls : List Call) (s : σ) : σ :=
  calls.foldl (fun s call => (v.visit b {} call s).state) s

theorem advance_cons (call : Call) (calls : List Call) (s : σ) :
    v.advance b (call :: calls) s = v.advance b calls (v.visit b {} call s).state := rfl

theorem advance_append (calls calls' : List Call) (s : σ) :
    v.advance b (calls ++ calls') s = v.advance b calls' (v.advance b calls s) :=
  List.foldl_append

theorem play_eq_advance (hv : v.CountsLast) {calls : List (Counters × Call)}
    (h : ∀ call ∈ calls.map Prod.snd, call ≠ .finish) (s : σ) :
    v.play b calls s = v.advance b (calls.map Prod.snd) s := by
  induction calls generalizing s with
  | nil => rfl
  | cons x calls ih =>
    obtain ⟨c, call⟩ := x
    show v.play b calls (v.visit b c call s).state = _
    rw [ih (fun call' hcall' => h call' (by simp [hcall'])), hv b c call s (h call (by simp))]
    rfl

/-- What every call adds and what adds up is added by all calls. -/
theorem play_grows {R : List τ → σ → σ → Prop} (refl : ∀ s, R [] s s)
    (trans : ∀ {added added' s s' s''}, R added s s' → R added' s' s'' → R (added ++ added') s s'')
    {add : Call → List τ} {calls : List (Counters × Call)}
    (step : ∀ x ∈ calls, ∀ s, R (add x.2) s (v.visit b x.1 x.2 s).state) (s : σ) :
    R ((calls.map Prod.snd).flatMap add) s (v.play b calls s) := by
  induction calls generalizing s with
  | nil => exact refl s
  | cons x calls ih =>
    have hrest := ih (fun x' hx' => step x' (by simp [hx'])) (v.visit b x.1 x.2 s).state
    exact trans (step x (by simp) s) hrest

theorem advance_eq_play (calls : List Call) (s : σ) :
    v.advance b calls s = v.play b (calls.map fun call => ({}, call)) s := by
  unfold advance play
  rw [List.foldl_map]

theorem advance_grows {R : List τ → σ → σ → Prop} (refl : ∀ s, R [] s s)
    (trans : ∀ {added added' s s' s''}, R added s s' → R added' s' s'' → R (added ++ added') s s'')
    {add : Call → List τ} {calls : List Call}
    (step : ∀ call ∈ calls, ∀ s, R (add call) s (v.visit b {} call s).state) (s : σ) :
    R (calls.flatMap add) s (v.advance b calls s) := by
  have hplay : ∀ x ∈ calls.map (fun call => (({} : Counters), call)), ∀ s,
      R (add x.2) s (v.visit b x.1 x.2 s).state := by
    intro x hx
    obtain ⟨call, hcall, rfl⟩ := List.mem_map.1 hx
    exact step call hcall
  have h := play_grows refl trans hplay s
  rw [← advance_eq_play, List.map_map] at h
  simpa [Function.comp_def] using h

/-- The same for calls that come in groups. -/
theorem advance_eachAfter {α : Type} {R : List τ → σ → σ → Prop} (refl : ∀ s, R [] s s)
    (trans : ∀ {added added' s s' s''}, R added s s' → R added' s' s'' → R (added ++ added') s s'')
    {group : List α → α → List Call} {add : List α → α → List τ} {as : List α}
    (step : ∀ before, ∀ a ∈ as, ∀ s, R (add before a) s (v.advance b (group before a) s)) (s : σ) :
    R (eachAfter add as) s (v.advance b (eachAfter group as) s) := by
  induction as generalizing group add s with
  | nil => exact refl s
  | cons a as ih =>
    have hrest := ih (fun before a' ha' => step (a :: before) a' (by simp [ha']))
      (v.advance b (group [] a) s)
    rw [eachAfter_cons, eachAfter_cons, advance_append]
    exact trans (step [] a (by simp) s) hrest

/-- A walk that was not stopped was not stopped halfway either. -/
theorem follow_append_unstopped {steps steps' : List Step} {p : Progress σ}
    (h : (v.follow backend b (steps ++ steps') p).abort = none) :
    v.follow backend b (steps ++ steps') p =
        v.follow backend b steps' (v.follow backend b steps p) ∧
      (steps ≠ [] → (v.follow backend b steps p).abort = none) := by
  induction steps generalizing p with
  | nil => exact ⟨rfl, fun hne => absurd rfl hne⟩
  | cons s steps ih =>
    have hstep := perform_unstopped h
    rw [List.cons_append, follow_cons_of_none hstep] at h ⊢
    rw [follow_cons_of_none hstep]
    obtain ⟨heq, hrest⟩ := ih h
    refine ⟨heq, fun _ => ?_⟩
    cases steps with
    | nil => exact hstep
    | cons s' steps => exact hrest (by simp)

end Visitor

/-! ## A run that succeeds -/

namespace Backend

variable {be : Backend} {b : Board} {r : Result}

theorem walk_of_run_ok (h : be.run b = .ok r) :
    (be.walk b).abort = none ∧ (be.walk b).collected = [] ∧ r = be.result (be.walk b).state := by
  unfold run at h
  cases habort : (be.walk b).abort with
  | some f => simp [habort] at h
  | none =>
    simp only [habort] at h
    split at h
    · rename_i hempty
      exact ⟨rfl, List.isEmpty_iff.1 hempty, (Except.ok.inj h).symm⟩
    · cases h

/-- The state of a backend when it has seen everything but the last call. -/
def lastState (be : Backend) (b : Board) : be.State :=
  be.visitor.advance b (.start :: b.inside) be.visitor.start

/-- The answer of a backend to the last call. -/
def lastAnswer (be : Backend) (b : Board) : Answer be.State :=
  be.visitor.visit b b.lastCounters .finish (be.lastState b)

/-- A run that succeeds is one over a board without defects.  Its result is read
off the answer to the last call, after all others. -/
theorem run_ok (hv : be.visitor.CountsLast) (h : be.run b = .ok r) :
    b.Walkable ∧ b.defects = [] ∧ (be.lastAnswer b).stop = none ∧
      r = be.result (be.lastAnswer b).state := by
  obtain ⟨habort, hcollected, hr⟩ := walk_of_run_ok h
  obtain ⟨hb, hdefects⟩ := Visitor.walk_clean habort hcollected
  -- The walk up to the last step, and that step.
  have hall := habort
  unfold walk Visitor.walk at hall
  rw [Board.steps_eq] at hall
  obtain ⟨hsplit, hfirst⟩ := Visitor.follow_append_unstopped hall
  have hbefore := hfirst (by simp [Board.stepsBeforeFinish])
  obtain ⟨-, hstate, -⟩ := Visitor.follow_unstopped hbefore
  have hcalls : (b.stepsBeforeFinish.filterMap Step.visit?).map Prod.snd = .start :: b.inside := by
    rw [filterMap_visit, (Board.stepsBeforeFinish_stretch hb).1.calls]
    simp [Board.inside]
  have hplay : be.visitor.play b (b.stepsBeforeFinish.filterMap Step.visit?) be.visitor.start =
      be.lastState b := by
    rw [Visitor.play_eq_advance hv (hcalls ▸ b.ne_finish), hcalls]
    rfl
  rw [hplay] at hstate
  have hlast := Visitor.perform_unstopped (hsplit ▸ hall)
  rw [Visitor.perform_call, hstate] at hlast
  refine ⟨hb, hdefects, Option.map_eq_none_iff.1 hlast, ?_⟩
  rw [hr]
  unfold walk Visitor.walk
  rw [Board.steps_eq, hsplit, Visitor.follow_cons_of_none (by
    rw [Visitor.perform_call, hstate]
    exact hlast), Visitor.perform_call, hstate]
  rfl

/-- In a run that succeeds no call was answered with a fault. -/
theorem run_accepts (hv : be.visitor.CountsLast) (h : be.run b = .ok r) {call : Call}
    (hcall : call ∈ b.inside) :
    ∃ s, (be.visitor.visit b {} call s).stop = none ∧
      Visitor.entriesOf be.name (be.visitor.visit b {} call s).reports = [] := by
  obtain ⟨habort, hcollected, -⟩ := walk_of_run_ok h
  obtain ⟨hb, -⟩ := run_ok hv h
  have hmem : call ∈ (b.steps.filterMap Step.visit?).map Prod.snd := by
    rw [filterMap_visit, b.steps_calls, Board.traversal_eq]
    simp [hcall]
  obtain ⟨⟨c, _⟩, hvisit, rfl⟩ := List.mem_map.1 hmem
  obtain ⟨s, hs⟩ := Visitor.follow_accepted habort hcollected _ hvisit
  rw [hv b c _ s (b.inside_proper _ hcall).2] at hs
  exact ⟨s, hs⟩

end Backend

/-! ## Streams by binding -/

/-- A CPU binding and the streams it gets. -/
abbrev Grant := CpuBinding × Streams

/-- The streams of one side, each with its binding, in order. -/
def streamsOn (side : Streams → Option UInt8) (grants : List Grant) : List (CpuBinding × UInt8) :=
  grants.filterMap fun (c, s) => (side s).map (c, ·)

theorem flatMap_streamsOn {τ : Type} (side : Streams → Option UInt8)
    (f : CpuBinding → UInt8 → List τ) (grants : List Grant) :
    (grants.flatMap fun (c, s) => (side s).toList.flatMap (f c)) =
      (streamsOn side grants).flatMap fun (c, id) => f c id := by
  induction grants with
  | nil => rfl
  | cons grant grants ih =>
    obtain ⟨c, s⟩ := grant
    unfold streamsOn at ih ⊢
    rw [List.flatMap_cons, ih]
    cases hside : side s with
    | none => simp [hside]
    | some id => simp [hside]

theorem map_streamsOn {τ : Type} (side : Streams → Option UInt8) (f : CpuBinding → UInt8 → τ)
    (grants : List Grant) :
    (grants.flatMap fun (c, s) => (side s).toList.map (f c)) =
      (streamsOn side grants).map fun (c, id) => f c id := by
  simpa only [List.map_eq_flatMap] using flatMap_streamsOn side (fun c id => [f c id]) grants

/-- What a call adds to a list that only the streams of CPU bindings add to. -/
def Call.streamLog {τ : Type} (f : PortSettings → Streams → List τ) : Call → List τ
  | .axis a => f a.settings a.streams
  | _ => []

namespace Board

variable {b : Board}

/-- The grant at a place behind the places `earlier`, unless it is a link. -/
def grantsAt (b : Board) (earlier : List Place) (p : Place) : List Grant :=
  p.binding.cpu?.toList.map (·, b.streamsAfter earlier p)

/-- The grants of an instance behind the instances `earlier`. -/
def grantsOf (b : Board) (earlier : List Instance) (inst : Instance) : List Grant :=
  eachAfter (fun before => b.grantsAt (earlier.flatMap Instance.places ++ before)) inst.places

/-- Every CPU binding with its streams, instance by instance. -/
def grants (b : Board) : List (List Grant) :=
  eachAfter (fun before inst => [b.grantsOf before inst]) b.instances

theorem grantsOf_bindings (earlier : List Instance) (inst : Instance) :
    (b.grantsOf earlier inst).map Prod.fst = inst.cpuBindings := by
  have hplace : ∀ earlier p, (b.grantsAt earlier p).map Prod.fst = p.binding.cpu?.toList := by
    intro earlier p
    simp [grantsAt, Function.comp_def]
  unfold grantsOf Instance.cpuBindings Instance.places
  simp only [map_eachAfter, hplace, eachAfter_const, List.flatMap_map]
  exact (List.filterMap_eq_flatMap_toList ..).symm

/-- The grants go through the CPU bindings of the board in order. -/
theorem grants_bindings (b : Board) :
    b.grants.map (List.map Prod.fst) = b.instances.map Instance.cpuBindings := by
  unfold grants
  simp only [map_eachAfter, List.map_cons, List.map_nil, grantsOf_bindings, eachAfter_const]
  exact (List.map_eq_flatMap ..).symm

theorem grants_flatten (b : Board) : b.grants.flatten = eachAfter b.grantsAt b.places := by
  unfold grants places
  rw [← List.flatMap_id, flatMap_eachAfter, eachAfter_flatMap]
  simp only [List.flatMap_cons, List.flatMap_nil, List.append_nil]
  rfl

theorem streamsAfter_of_no_port {p : Place} (h : b.port? p = none) (earlier : List Place) :
    b.streamsAfter earlier p = {} := by
  have hcpu : b.cpuPort? p = none := by
    unfold cpuPort?
    rw [h, ite_self]
  simp [streamsAfter, stream?, asks_of_no_cpuPort hcpu]

variable {τ : Type} {f : PortSettings → Streams → List τ}

/-- A binding adds what belongs to its streams, called for or not. -/
theorem bindingCalls_streamLog (hf : ∀ set, f set {} = []) (earlier : List Place) (p : Place) :
    (b.bindingCalls earlier p).flatMap (Call.streamLog f) =
      (b.grantsAt earlier p).flatMap fun (c, s) => f (b.settings c) s := by
  unfold bindingCalls grantsAt
  cases hport : b.port? p with
  | none =>
    rw [streamsAfter_of_no_port hport]
    simp [hf]
  | some port =>
    cases p.binding with
    | cpu binding =>
      simp only [axisCalls]
      split
      · rename_i hnone
        have hstreams : b.streamsAfter earlier p = {} := by
          rcases hs : b.streamsAfter earlier p with ⟨master, slave⟩
          rw [hs] at hnone
          obtain ⟨rfl, rfl⟩ := hnone
          rfl
        simp [hstreams, hf, Binding.cpu?]
      · simp [Call.streamLog, Binding.cpu?]
    | link binding =>
      have hlink : (b.linkCalls p port binding).flatMap (Call.streamLog f) = [] := by
        unfold linkCalls
        split
        · rfl
        · split
          · rfl
          · rfl
      simpa [Binding.cpu?] using hlink

/-- The calls for the bindings of an instance behind the instances `earlier`. -/
def connectionsOf (b : Board) (earlier : List Instance) (inst : Instance) : List Call :=
  eachAfter (fun before => b.bindingCalls (earlier.flatMap Instance.places ++ before)) inst.places

theorem instanceCalls_of_core (earlier : List Instance) {inst : Instance} {core : Core}
    (h : b.findCore? inst.core = some core) :
    b.instanceCalls earlier inst =
      .enter { inst, core, host := inst.hasCpuBinding } :: b.connectionsOf earlier inst ++
        [.leave { inst, core, host := inst.hasCpuBinding }] := by
  unfold instanceCalls
  rw [h]
  rfl

theorem connectionsOf_isConnection (earlier : List Instance) (inst : Instance) :
    ∀ call ∈ b.connectionsOf earlier inst, call.isConnection = true := by
  intro call hcall
  obtain ⟨_, p, _, -, hmem⟩ := mem_eachAfter.1 hcall
  rw [← bindingCalls_isConnection, List.mem_filter] at hmem
  exact hmem.2

/-- An instance that host software does not see has links only. -/
theorem connectionsOf_links (earlier : List Instance) {inst : Instance}
    (h : inst.hasCpuBinding = false) :
    ∀ call ∈ b.connectionsOf earlier inst, ∃ l, call = .link l := by
  intro call hcall
  obtain ⟨front, p, back, hsplit, hmem⟩ := mem_eachAfter.1 hcall
  have hp : p ∈ inst.places := by simp [hsplit]
  obtain ⟨binding, hbinding, rfl⟩ := List.mem_map.1 hp
  cases binding with
  | cpu c =>
    have hcpu := List.any_eq_false.1 h _ hbinding
    exact absurd rfl hcpu
  | link l =>
    unfold bindingCalls at hmem
    split at hmem
    · cases hmem
    · simp only [linkCalls] at hmem
      split at hmem
      · cases hmem
      · split at hmem
        · cases hmem
        · exact ⟨_, List.mem_singleton.1 hmem⟩

theorem connectionsOf_streamLog (hf : ∀ set, f set {} = []) (earlier : List Instance)
    (inst : Instance) :
    (b.connectionsOf earlier inst).flatMap (Call.streamLog f) =
      (b.grantsOf earlier inst).flatMap fun (c, s) => f (b.settings c) s := by
  unfold connectionsOf grantsOf
  rw [flatMap_eachAfter, flatMap_eachAfter]
  exact eachAfter_congr fun before p _ => bindingCalls_streamLog hf _ p

/-- What all calls add follows the grants. -/
theorem flatMap_streamLog (hf : ∀ set, f set {} = []) (b : Board) :
    b.inside.flatMap (Call.streamLog f) =
      b.grants.flatten.flatMap fun (c, s) => f (b.settings c) s := by
  have hconnections : ∀ calls : List Call, calls.flatMap (Call.streamLog f) =
      (calls.filter Call.isConnection).flatMap (Call.streamLog f) := by
    intro calls
    induction calls with
    | nil => rfl
    | cons call calls ih =>
      cases call <;> simp [Call.streamLog, Call.isConnection, List.filter_cons, ih]
  have hinside : b.inside.flatMap (Call.streamLog f) = b.traversal.flatMap (Call.streamLog f) := by
    rw [traversal_eq]
    simp [Call.streamLog]
  rw [hinside, hconnections, connections_traversal, grants_flatten, flatMap_eachAfter,
    flatMap_eachAfter]
  exact eachAfter_congr fun earlier p _ => bindingCalls_streamLog hf earlier p

/-! ## Numbers of streams -/

/-- Elements that ask are numbered in order, as long as there are numbers. -/
theorem eachAfter_numbers {α : Type} (asks : α → Bool) (limit : Nat) (as : List α) :
    eachAfter (fun earlier a =>
        if asks a ∧ earlier.countP asks < limit then [earlier.countP asks] else []) as =
      List.range (min (as.countP asks) limit) := by
  induction as using List.reverseRecOn with
  | nil => simp
  | append_singleton as a ih =>
    rw [eachAfter_split, ih, eachAfter_nil, List.append_nil, List.countP_append,
      List.countP_singleton]
    cases hasks : asks a with
    | false => simp
    | true =>
      by_cases hlimit : as.countP asks < limit
      · rw [if_pos ⟨rfl, hlimit⟩, if_pos rfl, Nat.min_eq_left (Nat.le_of_lt hlimit),
          Nat.min_eq_left hlimit, List.range_succ]
      · rw [if_neg fun h => hlimit h.2, if_pos rfl, List.append_nil]
        congr 1
        omega

/-- The streams of one side, as `pick` finds them, are numbered from zero on
without a gap. -/
theorem streams_numbered {side : Direction → Bool} {pick : Streams → Option UInt8}
    (hpick : ∀ earlier p, pick (b.streamsAfter earlier p) = b.stream? side earlier p) :
    (streamsOn pick b.grants.flatten).map Prod.snd =
      (List.range (min (b.places.countP (b.asks side)) 16)).map UInt8.ofNat := by
  rw [← map_streamsOn pick fun _ id => id, grants_flatten, flatMap_eachAfter, ← eachAfter_numbers,
    map_eachAfter]
  refine eachAfter_congr fun earlier p _ => ?_
  have hgrant : (b.grantsAt earlier p).flatMap (fun (_, s) => (pick s).toList.map id) =
      (b.stream? side earlier p).toList := by
    unfold grantsAt
    cases hcpu : p.binding.cpu? with
    | some binding => simp [hpick]
    | none =>
      have hport : b.cpuPort? p = none := by simp [cpuPort?, hcpu]
      simp [stream?, asks_of_no_cpuPort hport]
  refine hgrant.trans ?_
  unfold stream?
  simp only
  split
  · rfl
  · rfl

/-- How many streams of each side there are in the end. -/
theorem lastCounters_streams (hb : b.Walkable) :
    (streamsOn Streams.master b.grants.flatten).map Prod.snd =
        (List.range (b.lastCounters.count .streamMaster)).map UInt8.ofNat ∧
      (streamsOn Streams.slave b.grants.flatten).map Prod.snd =
        (List.range (b.lastCounters.count .streamSlave)).map UInt8.ofNat ∧
      b.lastCounters.count .streamMaster ≤ 16 ∧ b.lastCounters.count .streamSlave ≤ 16 := by
  obtain ⟨-, hpassed⟩ := stepsBeforeFinish_stretch hb
  rw [hpassed.master, hpassed.slave]
  exact ⟨streams_numbered fun _ _ => rfl, streams_numbered fun _ _ => rfl,
    Nat.min_le_right .., Nat.min_le_right ..⟩

end Board

end Boardwright
