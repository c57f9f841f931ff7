import Boardwright.Catalog
import Boardwright.Firmware.Medium
import Boardwright.Proofs.FailedRuns
import Boardwright.Proofs.Run

/-!
# The node behind a fault

A fault comes up without a place.  It gets one when it is reported or when it
stops the walk, and the place depends on who passes it on.  This file says which
node a fault is about and proves that the place is the one of that node.

* `Board.Blames` relates a node to its faults, without a walk.  `defects_blamed`
  says that the walk itself reports nothing else.
* `steps_placed`: a step that calls the backend carries the place of the node that
  it calls it for.  There is one lemma for every level of the walk.
* `Board.Explains` is what an answer has to satisfy, and `Backend.Explained` is
  that for all answers of a backend.

`Backend.run_attributed` puts them together: whatever a failed run returns is a
fault of a node, at the place of that node.
-/

namespace Boardwright

/-- A part of a board that a fault can be about. -/
inductive Node where
  | medium
  | gpio (g : Gpio)
  | inst (i : Instance)
  | binding (p : Place)

namespace Firmware

/-- The fault of an address that does not have the right number of parts. -/
def partFaults (mark : Char) (count : Nat) (key what address : String) : List Fault :=
  if (Text.split mark address).length = count then [] else [malformedAddress key what address]

/-- The faults of an option of the medium. -/
def addressFaults : MediumOption → List Fault
  | .mac address => partFaults ':' 6 "mac" "MAC address" address
  | .ip address => partFaults '.' 4 "ip" "IP address" address
  | .mask address => partFaults '.' 4 "mask" "network mask" address
  | .gateway address => partFaults '.' 4 "gw" "standard gateway" address
  | .port _ => []

end Firmware

namespace Board

/-- Where a node is declared. -/
def nodePos (b : Board) : Node → Pos
  | .medium => b.mediumPos
  | .gpio g => g.pos
  | .inst i => i.pos
  | .binding p => p.binding.pos

/-- The fault is one of the node. -/
inductive Blames (b : Board) : Node → Fault → Prop
  | address {option : MediumOption} {f : Fault} (hoption : option ∈ b.medium.options)
      (hf : f ∈ Firmware.addressFaults option) : Blames b .medium f
  | unknownDevice {g : Gpio} (hg : g ∈ b.gpios) (hdevice : Catalog.find? g.name = none) :
      Blames b (.gpio g) (.unknownDevice g.name)
  | bidirectional {g : Gpio} (hg : g ∈ b.gpios) (hdual : g.direction = .dual) :
      Blames b (.gpio g) (.bidirectionalGpio g.name)
  | noInterrupt {g : Gpio} {d : Device} (hg : g ∈ b.gpios) (hinput : g.direction = .input)
      (hdevice : Catalog.find? g.name = some d) (hnone : d.hasInterrupt = false) :
      Blames b (.gpio g)
        (.invariant .catalog ("input device " ++ d.name ++ " has no interrupt channel"))
  | wrongWay {g : Gpio} {d : Device} (hg : g ∈ b.gpios) (hdevice : Catalog.find? g.name = some d)
      (hway : g.direction ≠ if d.isInput then .input else .output) :
      Blames b (.gpio g)
        (.invariant .catalog ("device " ++ d.name ++ " declared " ++ g.direction.name))
  | undeclaredCore {i : Instance} (hi : i ∈ b.instances) (hcore : b.findCore? i.core = none) :
      Blames b (.inst i) (.missingCore i.name i.core)
  | binding {front back : List Place} {p : Place} {core : Core} {f : Fault}
      (hplace : b.places = front ++ p :: back) (hcore : b.findCore? p.inst.core = some core)
      (hf : f ∈ b.bindingFaults core front p) : Blames b (.binding p) f

/-- The fault is returned in the name of the backend and at the place of the node that
it is about. -/
def Attributes (b : Board) (backend : String) (e : Fault) : Prop :=
  ∃ node f, b.Blames node f ∧ e = f.attributed backend (b.nodePos node)

variable {b : Board} {backend : String} {node : Node} {f : Fault}

/-! ## Faults of nodes -/

theorem addressFaults_simple {option : MediumOption} (hf : f ∈ Firmware.addressFaults option) :
    ∃ d, f = .simple d ∧ d.pos = {} := by
  have hparts : ∀ mark count key what address,
      f ∈ Firmware.partFaults mark count key what address → ∃ d, f = .simple d ∧ d.pos = {} := by
    intro mark count key what address hmem
    unfold Firmware.partFaults at hmem
    split at hmem
    · cases hmem
    · exact ⟨_, List.mem_singleton.1 hmem, rfl⟩
  cases option with
  | port number => cases hf
  | _ => exact hparts _ _ _ _ _ hf

/-- No fault of a node has a place of its own, so each takes the place it is given. -/
theorem Blames.simple (h : b.Blames node f) : ∃ d, f = .simple d ∧ d.pos = {} := by
  cases h with
  | address _ hf => exact addressFaults_simple hf
  | binding _ _ hf => exact bindingFaults_simple hf
  | _ => exact ⟨_, rfl, rfl⟩

theorem Blames.entries (h : b.Blames node f) :
    ∀ e ∈ Collector.entries backend f (b.nodePos node), b.Attributes backend e := by
  intro e he
  have hblames := h
  obtain ⟨d, rfl, -⟩ := h.simple
  exact ⟨node, _, hblames, List.mem_singleton.1 he⟩

theorem Blames.stopping (h : b.Blames node f) :
    b.Attributes backend (f.stopping backend (b.nodePos node)) := by
  have hblames := h
  obtain ⟨d, rfl, -⟩ := h.simple
  exact ⟨node, _, hblames, rfl⟩

theorem Attributes.flatten {e : Fault} (h : b.Attributes backend e) : e.flatten = [e] := by
  obtain ⟨node, f, hblames, rfl⟩ := h
  obtain ⟨d, rfl, -⟩ := hblames.simple
  rfl

/-- The walk reports every defect at the node that it belongs to. -/
theorem defects_blamed {r : Fault × Pos} (hr : r ∈ b.defects) :
    ∃ node, b.Blames node r.1 ∧ r.2 = b.nodePos node := by
  obtain ⟨earlier, inst, later, hsplit, hmem⟩ := mem_eachAfter.1 hr
  have hinst : inst ∈ b.instances := by simp [hsplit]
  unfold instanceDefects at hmem
  cases hcore : b.findCore? inst.core with
  | none =>
    simp only [hcore, List.mem_singleton] at hmem
    subst hmem
    exact ⟨.inst inst, .undeclaredCore hinst hcore, rfl⟩
  | some core =>
    simp only [hcore] at hmem
    obtain ⟨before, p, after, hplaces, hmem⟩ := mem_eachAfter.1 hmem
    obtain ⟨f, hf, rfl⟩ := List.mem_map.1 hmem
    have hp : p ∈ inst.places := by simp [hplaces]
    obtain ⟨binding, -, rfl⟩ := List.mem_map.1 hp
    have hall : b.places = (earlier.flatMap Instance.places ++ before) ++
        ⟨inst, binding⟩ :: (after ++ later.flatMap Instance.places) := by
      simp [places, hsplit, hplaces]
    exact ⟨.binding ⟨inst, binding⟩, .binding hall hcore hf, rfl⟩

/-! ## Places of steps -/

/-- Where the node of a call is declared. -/
def callPos (b : Board) : Call → Pos
  | .start | .finish => b.pos
  | .medium _ => b.mediumPos
  | .input g _ | .output g _ | .bidirectional g _ _ => g.pos
  | .defaultScheduler s | .userScheduler s _ => s.pos
  | .core c => c.pos
  | .enter site | .leave site => site.inst.pos
  | .axis a => a.binding.pos
  | .link l => l.binding.pos

/-- A step that makes a call is at the place of the node of the call. -/
def Placed (b : Board) (s : Step) : Prop := ∀ call, s.action = .call call → s.pos = b.callPos call

theorem gpioStep_placed (c : Counters) (g : Gpio) : b.Placed (gpioStep c g) := by
  intro call hcall
  simp only [gpioStep, gpioAction] at hcall ⊢
  split at hcall
  · cases hcall
    rfl
  · cases hcall
    rfl
  · cases hcall
    rfl
  · cases hcall

theorem gpioSteps_placed (c : Counters) (gs : List Gpio) :
    ∀ s ∈ (gpioSteps c gs).1, b.Placed s := by
  induction gs generalizing c with
  | nil => simp [gpioSteps]
  | cons g gs ih =>
    exact List.forall_mem_cons.2 ⟨gpioStep_placed c g, ih (gpioStep c g).counters⟩

theorem axisSteps_placed (c : Counters) (inst : Instance) (port : Port) (binding : CpuBinding) :
    ∀ s ∈ (b.axisSteps c inst port binding).1, b.Placed s := by
  intro s hs call hcall
  simp only [axisSteps] at hs
  rcases List.mem_append.1 hs with hreport | hs
  · obtain ⟨f, -, rfl⟩ := List.mem_map.1 hreport
    cases hcall
  · split at hs
    · cases hs
    · obtain rfl := List.mem_singleton.1 hs
      cases hcall
      rfl

theorem linkAction_placed {inst : Instance} {port : Port} {binding : LinkBinding} {action : Action}
    (haction : b.linkAction? inst port binding = some action) (c : Counters) :
    b.Placed { counters := c, pos := binding.pos, action } := by
  intro call hcall
  obtain rfl : action = .call call := hcall
  unfold linkAction? at haction
  split at haction
  · cases haction
  · split at haction
    · cases haction
    · split at haction
      · cases haction
      · cases haction
        rfl

theorem bindingSteps_placed (c : Counters) (inst : Instance) (core : Core) (binding : Binding) :
    ∀ s ∈ (b.bindingSteps c inst core binding).1, b.Placed s := by
  unfold bindingSteps
  cases core.findPort? binding.port with
  | none =>
    intro s hs call hcall
    obtain rfl := List.mem_singleton.1 hs
    cases hcall
  | some port =>
    cases binding with
    | cpu binding => exact axisSteps_placed c inst port binding
    | link binding =>
      intro s hs
      obtain ⟨action, haction, rfl⟩ := List.mem_map.1 hs
      exact linkAction_placed (Option.mem_toList.1 haction) c

theorem bindingsSteps_placed (c : Counters) (inst : Instance) (core : Core)
    (bindings : List Binding) : ∀ s ∈ (b.bindingsSteps c inst core bindings).1, b.Placed s := by
  induction bindings generalizing c with
  | nil => simp [bindingsSteps]
  | cons binding bindings ih =>
    exact List.forall_mem_append.2 ⟨bindingSteps_placed c inst core binding, ih _⟩

theorem instanceSteps_placed (c : Counters) (inst : Instance) :
    ∀ s ∈ (b.instanceSteps c inst).1, b.Placed s := by
  intro s hs call hcall
  unfold instanceSteps at hs
  cases hcore : b.findCore? inst.core with
  | none =>
    simp only [hcore, List.mem_singleton] at hs
    subst hs
    cases hcall
  | some core =>
    simp only [hcore, List.cons_append, List.mem_cons, List.mem_append, List.not_mem_nil,
      or_false] at hs
    rcases hs with rfl | hs | rfl
    · cases hcall
      rfl
    · exact bindingsSteps_placed c inst core inst.bindings s hs call hcall
    · cases hcall
      rfl

theorem instancesSteps_placed (c : Counters) (insts : List Instance) :
    ∀ s ∈ (b.instancesSteps c insts).1, b.Placed s := by
  induction insts generalizing c with
  | nil => simp [instancesSteps]
  | cons inst insts ih =>
    exact List.forall_mem_append.2 ⟨instanceSteps_placed c inst, ih _⟩

theorem schedulerStep_placed (c : Counters) (s : Scheduler) :
    b.Placed { counters := c, pos := s.pos, action := schedulerAction s } := by
  intro call hcall
  simp only [schedulerAction] at hcall
  split at hcall
  · cases hcall
    rfl
  · cases hcall
    rfl
  · cases hcall

theorem steps_placed (b : Board) : ∀ s ∈ b.steps, b.Placed s := by
  have hcall : ∀ c call,
      b.Placed { counters := c, pos := b.callPos call, action := .call call } := by
    rintro c call _ ⟨⟩
    rfl
  rw [steps_eq, stepsBeforeFinish]
  simp only [List.forall_mem_append, List.forall_mem_singleton, List.forall_mem_map]
  exact ⟨⟨⟨⟨⟨⟨hcall _ .start, hcall _ (.medium b.medium)⟩, gpioSteps_placed _ _⟩,
    schedulerStep_placed _ _⟩, fun core _ => hcall _ (.core core)⟩, instancesSteps_placed _ _⟩,
    hcall _ .finish⟩

/-! ## Answers -/

/-- Whatever is wrong with the answer to a call is attributed. -/
structure Explains {σ : Type} (b : Board) (backend : String) (call : Call) (a : Answer σ) :
    Prop where
  reports : ∀ e ∈ Visitor.entriesOf backend a.reports, b.Attributes backend e
  stop : ∀ g, a.stop = some g → b.Attributes backend (g.stopping backend (b.callPos call))

/-- A call of the traversal is the last one or one of those before. -/
theorem traversal_split {front back : List Call} {call : Call}
    (h : b.traversal = front ++ call :: back) :
    (∃ rest, .start :: b.inside = front ++ call :: rest) ∨
      front = .start :: b.inside ∧ call = .finish := by
  rw [traversal_eq] at h
  rcases List.eq_nil_or_concat back with rfl | ⟨rest, last, rfl⟩
  · obtain ⟨hfront, hcall⟩ := List.append_inj' h rfl
    exact .inr ⟨hfront.symm, (List.singleton_inj.1 hcall).symm⟩
  · rw [List.concat_eq_append, ← List.cons_append, ← List.append_assoc] at h
    exact .inl ⟨rest, (List.append_inj' h rfl).1⟩

end Board

namespace Backend

variable {be : Backend} {b : Board}

/-- Whatever is wrong with an answer of the backend is attributed. -/
structure Explained (be : Backend) (b : Board) : Prop where
  calls : ∀ front call back, .start :: b.inside = front ++ call :: back →
    b.Explains be.name call
      (be.visitor.visit b {} call (be.visitor.advance b front be.visitor.start))
  last : ∀ c, b.Explains be.name .finish (be.visitor.visit b c .finish (be.lastState b))

/-- The answer to a call after the calls in front of it. -/
theorem Explained.answer (h : be.Explained b) (hv : be.visitor.CountsLast)
    {front back : List (Counters × Call)} {c : Counters} {call : Call}
    (hvisits : (front ++ (c, call) :: back).map Prod.snd = b.traversal) :
    b.Explains be.name call
      (be.visitor.visit b c call (be.visitor.play b front be.visitor.start)) := by
  rw [List.map_append, List.map_cons] at hvisits
  have hnever : ∀ call' ∈ front.map Prod.snd, call' ≠ .finish := by
    intro call' hcall'
    apply b.ne_finish
    rcases Board.traversal_split hvisits.symm with ⟨rest, hrest⟩ | ⟨hfront, -⟩
    · rw [hrest]
      exact List.mem_append_left _ hcall'
    · rw [← hfront]
      exact hcall'
  rw [Visitor.play_eq_advance hv hnever]
  rcases Board.traversal_split hvisits.symm with ⟨rest, hrest⟩ | ⟨hfront, rfl⟩
  · have hproper : call ≠ .finish := b.ne_finish call (by rw [hrest]; simp)
    rw [hv b c call _ hproper]
    exact h.calls _ call rest hrest
  · rw [hfront]
    exact h.last c

theorem walk_collected_attributed (h : be.Explained b) (hv : be.visitor.CountsLast)
    (hb : b.Walkable) : ∀ e ∈ (be.walk b).collected, b.Attributes be.name e := by
  intro e he
  rcases Visitor.mem_collected he with hstart | hdefect | ⟨front, c, call, back, hsplit, hentry⟩
  · cases hstart
  · rw [Visitor.steps_reports hb] at hdefect
    obtain ⟨⟨f, pos⟩, hr, hentry⟩ := List.mem_flatMap.1 hdefect
    obtain ⟨node, hblames, hpos⟩ := Board.defects_blamed hr
    obtain rfl : pos = b.nodePos node := hpos
    exact hblames.entries e hentry
  · have hvisits : (front ++ (c, call) :: back).map Prod.snd = b.traversal := by
      rw [← hsplit, filterMap_visit, b.steps_calls]
    exact (h.answer hv hvisits).reports e hentry

theorem walk_abort_attributed (h : be.Explained b) (hv : be.visitor.CountsLast)
    (hb : b.Walkable) {e : Fault} (he : (be.walk b).abort = some e) :
    b.Attributes be.name e := by
  obtain ⟨front, s, back, hsplit, hfront, hlast⟩ := Visitor.follow_stopped rfl he
  obtain ⟨-, hstate, -⟩ := Visitor.follow_unstopped hfront
  have hs : s ∈ b.steps := by simp [hsplit]
  have hstep : (be.visitor.perform be.name b
      (be.visitor.follow be.name b front { state := be.visitor.start }) s).abort = some e := by
    rw [← hlast]
    exact he
  have hplaced := b.steps_placed s hs
  have hhalt := List.filterMap_eq_nil_iff.1 (Visitor.steps_no_halt hb) s hs
  obtain ⟨c, pos, action⟩ := s
  cases action with
  | report f =>
    rw [Visitor.perform_report, hfront] at hstep
    cases hstep
  | halt f => cases hhalt
  | call call =>
    rw [Visitor.perform_call, hstate] at hstep
    obtain ⟨g, hg, rfl⟩ := Option.map_eq_some_iff.1 hstep
    have hvisits : (front.filterMap Step.visit? ++ (c, call) ::
        back.filterMap Step.visit?).map Prod.snd = b.traversal := by
      rw [← b.steps_calls, ← filterMap_visit, hsplit, List.filterMap_append]
      rfl
    obtain rfl : pos = b.callPos call := hplaced call rfl
    exact (h.answer hv hvisits).stop g hg

/-- What a failed run returns are faults of nodes, in the name of the backend and each at
the place of its node. -/
theorem run_attributed (h : be.Explained b) (hv : be.visitor.CountsLast) (hb : b.Walkable)
    {f : Fault} (hrun : be.run b = .error f) :
    f.flatten ≠ [] ∧ ∀ e ∈ f.flatten, b.Attributes be.name e := by
  rcases run_error hrun with hstopped | ⟨-, hsome, rfl⟩
  · have hattributes := walk_abort_attributed h hv hb hstopped
    rw [hattributes.flatten]
    exact ⟨List.cons_ne_nil _ _, List.forall_mem_singleton.2 hattributes⟩
  · have hattributes := walk_collected_attributed h hv hb
    have hflatten : (Fault.run (be.walk b).collected).flatten = (be.walk b).collected := by
      rw [Fault.flatten_run, List.flatMap_congr fun e he => (hattributes e he).flatten,
        List.flatMap_singleton']
    rw [hflatten]
    exact ⟨hsome, hattributes⟩

end Backend

end Boardwright
