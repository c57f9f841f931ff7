import Boardwright.Proofs.Numbering
import Boardwright.Walk.Plan

/-!
# The walk as a traversal

`Board.steps` is computed with counters that run along.  `Board.traversal` and
`Board.defects` say the same without them: which calls a walk makes and which
faults of the board it reports, node by node, where the identifiers of a node
are numbers of nodes in front of it.  This file proves that the steps do what
these two lists say.

`Stretch` is what a part of the steps does.  There is one lemma for every level
of the walk (`bindingSteps_stretch`, `bindingsSteps_stretch`,
`instanceSteps_stretch`, `instancesSteps_stretch`, `gpioSteps_stretch`), each
together with the step of `Counters.Passed` that belongs to it, and
`stepsBeforeFinish_stretch` is the whole but for the last call.  `steps_calls`
is about the calls alone and needs no condition on the board.
-/

namespace Boardwright

/-- One of the three directions that a declaration can give. -/
def Direction.Proper (d : Direction) : Prop := d = .input ∨ d = .output ∨ d = .dual

instance : DecidablePred Direction.Proper := fun d =>
  inferInstanceAs (Decidable (d = .input ∨ d = .output ∨ d = .dual))

/-- A link to an instance that the board does not declare. -/
def Fault.undeclaredPeer (inst port peer : String) : Fault :=
  .simple { phase := .traverse, kind := .structural, path := [inst, port]
            detail := "link to undeclared instance " ++ Text.quote peer }

/-! ## What is called -/

/-- The call for a GPIO device behind the devices `earlier`.  Its identifiers
are bytes and count the devices in front that work the same way. -/
def gpioCalls (earlier : List Gpio) (g : Gpio) : List Call :=
  let inputId := UInt8.ofNat (earlier.countP (·.direction.isMaster) % 256)
  let outputId := UInt8.ofNat (earlier.countP (·.direction.isSlave) % 256)
  match g.direction with
  | .input => [.input g inputId]
  | .output => [.output g outputId]
  | .dual => [.bidirectional g inputId outputId]
  | .other .. => []

def schedulerCalls (s : Scheduler) : List Call :=
  match s.code with
  | .default => [.defaultScheduler s]
  | .user lines => [.userScheduler s lines]
  | .missing => []

namespace Board

/-- The call for a CPU binding, unless it got no stream. -/
def axisCalls (b : Board) (earlier : List Place) (p : Place) (port : Port)
    (binding : CpuBinding) : List Call :=
  let streams := b.streamsAfter earlier p
  if streams.master = none ∧ streams.slave = none then []
  else [.axis { binding, port, inst := p.inst, streams, settings := b.settings binding }]

/-- The call for a link, if its other end is there. -/
def linkCalls (b : Board) (p : Place) (port : Port) (binding : LinkBinding) : List Call :=
  match b.findInstance? binding.peer with
  | none => []
  | some peer => match (b.findCore? peer.core).bind (·.findPort? binding.peerPort) with
    | none => []
    | some peerPort => [.link { binding, port, inst := p.inst, peer, peerPort }]

/-- The calls for a binding behind the bindings `earlier`: at most one. -/
def bindingCalls (b : Board) (earlier : List Place) (p : Place) : List Call :=
  match b.port? p with
  | none => []
  | some port => match p.binding with
    | .cpu binding => b.axisCalls earlier p port binding
    | .link binding => b.linkCalls p port binding

/-- The calls for an instance behind the instances `earlier`. -/
def instanceCalls (b : Board) (earlier : List Instance) (inst : Instance) : List Call :=
  match b.findCore? inst.core with
  | none => []
  | some core =>
    let site : Site := { inst, core, host := inst.hasCpuBinding }
    .enter site ::
      eachAfter (fun before => b.bindingCalls (earlier.flatMap Instance.places ++ before))
        inst.places ++ [.leave site]

/-- The calls of a walk, in order. -/
def traversal (b : Board) : List Call :=
  [.start, .medium b.medium] ++ eachAfter gpioCalls b.gpios ++ schedulerCalls b.scheduler ++
    b.cores.map .core ++ eachAfter b.instanceCalls b.instances ++ [.finish]

/-! ## What is reported -/

/-- The faults of a link: its peer is not declared, or the declared core of the
peer lacks the port.  A peer of an undeclared core is a fault of the peer. -/
def linkFaults (b : Board) (p : Place) (port : Port) (binding : LinkBinding) : List Fault :=
  match b.findInstance? binding.peer with
  | none => [.undeclaredPeer p.inst.name port.name binding.peer]
  | some peer => match b.findCore? peer.core with
    | none => []
    | some peerCore =>
      if (peerCore.findPort? binding.peerPort).isNone then
        [.missingPort peer.name peerCore.name binding.peerPort]
      else []

/-- The faults of a CPU binding: one for each side without a stream left. -/
def axisFaults (b : Board) (earlier : List Place) (p : Place) (port : Port) : List Fault :=
  let owner := p.inst.name ++ "." ++ port.name
  b.shortage Direction.isMaster Counters.hostWrite owner earlier p ++
    b.shortage Direction.isSlave Counters.hostRead owner earlier p

/-- The faults of a binding of an instance of `core`, behind the bindings
`earlier`. -/
def bindingFaults (b : Board) (core : Core) (earlier : List Place) (p : Place) : List Fault :=
  match core.findPort? p.binding.port with
  | none => [.missingPort p.inst.name core.name p.binding.port]
  | some port => match p.binding with
    | .cpu _ => b.axisFaults earlier p port
    | .link binding => b.linkFaults p port binding

/-- The faults of an instance behind the instances `earlier`, with the nodes
they belong to. -/
def instanceDefects (b : Board) (earlier : List Instance) (inst : Instance) :
    List (Fault × Pos) :=
  match b.findCore? inst.core with
  | none => [(.missingCore inst.name inst.core, inst.pos)]
  | some core =>
    eachAfter (fun before p =>
      (b.bindingFaults core (earlier.flatMap Instance.places ++ before) p).map (·, p.binding.pos))
      inst.places

/-- The faults of a board that a walk reports, in order. -/
def defects (b : Board) : List (Fault × Pos) := eachAfter b.instanceDefects b.instances

end Board

/-! ## What a part of the steps does -/

namespace Step

def call? (s : Step) : Option Call :=
  match s.action with
  | .call c => some c
  | _ => none

def report? (s : Step) : Option (Fault × Pos) :=
  match s.action with
  | .report f => some (f, s.pos)
  | _ => none

def halt? (s : Step) : Option Fault :=
  match s.action with
  | .halt f => some f
  | _ => none

end Step

/-- The calls and the reports of some steps, none of which gives up. -/
structure Stretch (steps : List Step) (calls : List Call) (reports : List (Fault × Pos)) :
    Prop where
  calls : steps.filterMap Step.call? = calls
  reports : steps.filterMap Step.report? = reports
  halts : steps.filterMap Step.halt? = []

namespace Stretch

variable {steps steps' : List Step} {calls calls' : List Call}
  {reports reports' : List (Fault × Pos)}

theorem nil : Stretch [] [] [] := ⟨rfl, rfl, rfl⟩

theorem append (h : Stretch steps calls reports) (h' : Stretch steps' calls' reports') :
    Stretch (steps ++ steps') (calls ++ calls') (reports ++ reports') := by
  constructor
  · rw [List.filterMap_append, h.calls, h'.calls]
  · rw [List.filterMap_append, h.reports, h'.reports]
  · rw [List.filterMap_append, h.halts, h'.halts, List.append_nil]

theorem call (c : Counters) (pos : Pos) (call : Call) :
    Stretch [{ counters := c, pos, action := .call call }] [call] [] := ⟨rfl, rfl, rfl⟩

theorem report (c : Counters) (pos : Pos) (f : Fault) :
    Stretch [{ counters := c, pos, action := .report f }] [] [(f, pos)] := ⟨rfl, rfl, rfl⟩

theorem reportAll (c : Counters) (pos : Pos) (fs : List Fault) :
    Stretch (fs.map fun f => { counters := c, pos, action := .report f }) []
      (fs.map (·, pos)) := by
  induction fs with
  | nil => exact nil
  | cons f fs ih => exact (report c pos f).append ih

theorem callAll {α : Type} (c : Counters) (pos : α → Pos) (call : α → Call) (as : List α) :
    Stretch (as.map fun a => { counters := c, pos := pos a, action := .call (call a) })
      (as.map call) [] := by
  induction as with
  | nil => exact nil
  | cons a as ih => exact (Stretch.call c (pos a) (call a)).append ih

end Stretch

namespace Board

open Counters (Passed)

variable {b : Board} {gpios : List Gpio} {earlier : List Place} {c : Counters} {inst : Instance}
  {core : Core}

theorem port_of_core (hcore : b.findCore? inst.core = some core) (binding : Binding) :
    b.port? ⟨inst, binding⟩ = core.findPort? binding.port := by
  unfold port?
  rw [hcore]
  rfl

/-! ## Bindings -/

theorem axisSteps_stretch (h : Passed b gpios earlier c) {port : Port} (binding : CpuBinding)
    (hport : b.port? ⟨inst, .cpu binding⟩ = some port) :
    Stretch (b.axisSteps c inst port binding).1
        (b.axisCalls earlier ⟨inst, .cpu binding⟩ port binding)
        ((b.axisFaults earlier ⟨inst, .cpu binding⟩ port).map (·, binding.pos)) ∧
      Passed b gpios (earlier ++ [⟨inst, .cpu binding⟩]) (b.axisSteps c inst port binding).2 := by
  have hcpu : b.cpuPort? ⟨inst, .cpu binding⟩ = some port := hport
  obtain ⟨hstreams, hfaults, hpassed⟩ := h.cpu hcpu (inst.name ++ "." ++ port.name)
  unfold axisSteps
  rcases halloc : c.allocateStreams (inst.name ++ "." ++ port.name) port.direction with
    ⟨streams, faults, c'⟩
  rw [halloc] at hstreams hfaults hpassed
  subst hstreams hfaults
  refine ⟨?_, hpassed⟩
  have hreports := Stretch.reportAll c' binding.pos
    (b.axisFaults earlier ⟨inst, .cpu binding⟩ port)
  rw [← List.nil_append (b.axisCalls _ _ _ _), ← List.append_nil (List.map _ (b.axisFaults _ _ _))]
  refine hreports.append ?_
  unfold axisCalls
  by_cases hnone : (b.streamsAfter earlier ⟨inst, .cpu binding⟩).master = none ∧
      (b.streamsAfter earlier ⟨inst, .cpu binding⟩).slave = none
  · simp only [hnone, Option.isNone_none, Bool.and_self, and_self, if_true]
    exact .nil
  · have hsome : ¬ ((b.streamsAfter earlier ⟨inst, .cpu binding⟩).master.isNone &&
        (b.streamsAfter earlier ⟨inst, .cpu binding⟩).slave.isNone) = true := by
      simpa using hnone
    simp only [hnone, hsome, if_false]
    exact .call ..

theorem linkSteps_stretch (inst : Instance) (port : Port) (binding : LinkBinding) :
    Stretch ((b.linkAction? inst port binding).toList.map fun action =>
        { counters := c, pos := binding.pos, action })
      (b.linkCalls ⟨inst, .link binding⟩ port binding)
      ((b.linkFaults ⟨inst, .link binding⟩ port binding).map (·, binding.pos)) := by
  unfold linkAction? linkCalls linkFaults
  cases b.findInstance? binding.peer with
  | none => exact .report ..
  | some peer =>
    cases hcore : b.findCore? peer.core with
    | none =>
      simp only [hcore, Option.bind_none]
      exact .nil
    | some peerCore =>
      simp only [hcore, Option.bind_some]
      cases peerCore.findPort? binding.peerPort with
      | none => exact .report ..
      | some peerPort => exact .call ..

/-- One binding of an instance of a declared core. -/
theorem bindingSteps_stretch (h : Passed b gpios earlier c)
    (hcore : b.findCore? inst.core = some core) (binding : Binding) :
    Stretch (b.bindingSteps c inst core binding).1 (b.bindingCalls earlier ⟨inst, binding⟩)
        ((b.bindingFaults core earlier ⟨inst, binding⟩).map (·, binding.pos)) ∧
      Passed b gpios (earlier ++ [⟨inst, binding⟩]) (b.bindingSteps c inst core binding).2 := by
  have hport := port_of_core hcore binding
  unfold bindingSteps bindingCalls bindingFaults
  rw [hport]
  cases hfind : core.findPort? binding.port with
  | none =>
    refine ⟨.report .., h.skip ?_⟩
    unfold cpuPort?
    rw [hport, hfind, ite_self]
  | some port =>
    rw [hfind] at hport
    cases binding with
    | cpu binding => exact axisSteps_stretch h binding hport
    | link binding => exact ⟨linkSteps_stretch inst port binding, h.skip rfl⟩

/-- The bindings of an instance, one after the other. -/
theorem bindingsSteps_stretch (hcore : b.findCore? inst.core = some core)
    (bindings : List Binding) (h : Passed b gpios earlier c) :
    Stretch (b.bindingsSteps c inst core bindings).1
        (eachAfter (fun before => b.bindingCalls (earlier ++ before))
          (bindings.map (Place.mk inst)))
        (eachAfter (fun before p =>
          (b.bindingFaults core (earlier ++ before) p).map (·, p.binding.pos))
          (bindings.map (Place.mk inst))) ∧
      Passed b gpios (earlier ++ bindings.map (Place.mk inst))
        (b.bindingsSteps c inst core bindings).2 := by
  induction bindings generalizing c earlier with
  | nil => exact ⟨.nil, by rwa [List.map_nil, List.append_nil]⟩
  | cons binding bindings ih =>
    obtain ⟨hstep, hpassed⟩ := bindingSteps_stretch h hcore binding
    obtain ⟨hrest, hlast⟩ := ih hpassed
    simp only [List.append_assoc, List.singleton_append] at hrest hlast
    simp only [List.map_cons, eachAfter_cons, List.append_nil]
    exact ⟨hstep.append hrest, hlast⟩

/-! ## Instances -/

theorem instanceSteps_stretch {earlier : List Instance} (inst : Instance)
    (h : Passed b gpios (earlier.flatMap Instance.places) c) :
    Stretch (b.instanceSteps c inst).1 (b.instanceCalls earlier inst)
        (b.instanceDefects earlier inst) ∧
      Passed b gpios ((earlier ++ [inst]).flatMap Instance.places) (b.instanceSteps c inst).2 := by
  rw [List.flatMap_append, List.flatMap_singleton]
  unfold instanceSteps instanceCalls instanceDefects
  cases hcore : b.findCore? inst.core with
  | none =>
    -- The bindings are passed as well: without a core none of them asks for a stream.
    refine ⟨.report .., h.skipAll fun p hp => ?_⟩
    obtain ⟨binding, -, rfl⟩ := List.mem_map.1 hp
    unfold cpuPort? port?
    rw [hcore, Option.bind_none, ite_self]
  | some core =>
    obtain ⟨hbindings, hpassed⟩ := bindingsSteps_stretch hcore inst.bindings h
    refine ⟨?_, hpassed⟩
    have hleave := hbindings.append
      (Stretch.call (b.bindingsSteps c inst core inst.bindings).2 inst.pos
        (.leave { inst, core, host := inst.hasCpuBinding }))
    have hall := (Stretch.call c inst.pos
      (.enter { inst, core, host := inst.hasCpuBinding })).append hleave
    rwa [List.nil_append, List.append_nil, ← List.append_assoc, ← List.append_assoc] at hall

theorem instancesSteps_stretch (insts : List Instance) {earlier : List Instance}
    (h : Passed b gpios (earlier.flatMap Instance.places) c) :
    Stretch (b.instancesSteps c insts).1
        (eachAfter (fun before => b.instanceCalls (earlier ++ before)) insts)
        (eachAfter (fun before => b.instanceDefects (earlier ++ before)) insts) ∧
      Passed b gpios ((earlier ++ insts).flatMap Instance.places)
        (b.instancesSteps c insts).2 := by
  induction insts generalizing c earlier with
  | nil => exact ⟨.nil, by rwa [List.append_nil]⟩
  | cons inst insts ih =>
    obtain ⟨hstep, hpassed⟩ := instanceSteps_stretch inst h
    obtain ⟨hrest, hlast⟩ := ih hpassed
    simp only [List.append_assoc, List.singleton_append] at hrest hlast
    simp only [eachAfter_cons, List.append_nil]
    exact ⟨hstep.append hrest, hlast⟩

/-! ## GPIO devices and the whole board -/

theorem gpioStep_stretch (h : Passed b gpios [] c) {g : Gpio} (hg : g.direction.Proper) :
    Stretch [gpioStep c g] (gpioCalls gpios g) [] := by
  obtain ⟨hinput, houtput, -⟩ := Counters.allocateGpio_spec c g.name g.direction
  rw [h.gpi] at hinput
  rw [h.gpo] at houtput
  unfold gpioStep gpioCalls
  rcases halloc : c.allocateGpio g.name g.direction with ⟨⟨input, output⟩, c'⟩
  rw [halloc] at hinput houtput
  subst hinput houtput
  have hmod : ∀ n : Nat, UInt8.ofNat (n % 256) = UInt8.ofNat n := fun n => UInt8.ofNat_mod_size
  rcases hg with hd | hd | hd
  all_goals
    simp only [gpioAction, hd, hmod]
    exact .call ..

theorem gpioSteps_stretch (gs : List Gpio) (hgs : ∀ g ∈ gs, g.direction.Proper)
    (h : Passed b gpios [] c) :
    Stretch (gpioSteps c gs).1 (eachAfter (fun before => gpioCalls (gpios ++ before)) gs) [] ∧
      Passed b (gpios ++ gs) [] (gpioSteps c gs).2 := by
  induction gs generalizing c gpios with
  | nil => exact ⟨.nil, by rwa [List.append_nil]⟩
  | cons g gs ih =>
    have hstep := gpioStep_stretch h (hgs g (by simp))
    obtain ⟨hrest, hlast⟩ := ih (fun g' hg' => hgs g' (by simp [hg'])) (h.gpio g)
    simp only [List.append_assoc, List.singleton_append] at hrest hlast
    simp only [eachAfter_cons, List.append_nil]
    exact ⟨hstep.append hrest, hlast⟩

theorem gpioStep_proper {g : Gpio} (h : (gpioStep c g).halt? = none) : g.direction.Proper := by
  cases hd : g.direction with
  | input => exact .inl rfl
  | output => exact .inr (.inl rfl)
  | dual => exact .inr (.inr rfl)
  | other code _ => simp [gpioStep, gpioAction, hd, Step.halt?] at h

theorem gpioSteps_proper {gs : List Gpio} (h : ∀ s ∈ (gpioSteps c gs).1, s.halt? = none) :
    ∀ g ∈ gs, g.direction.Proper := by
  induction gs generalizing c with
  | nil => simp
  | cons g gs ih =>
    intro g' hg'
    rcases List.mem_cons.1 hg' with rfl | htail
    · exact gpioStep_proper (h (gpioStep c g') (by simp [gpioSteps]))
    · have hrest : ∀ s ∈ (gpioSteps (gpioStep c g).counters gs).1, s.halt? = none := fun s hs =>
        h s (by simp [gpioSteps, hs])
      exact ih hrest g' htail

theorem schedulerStep_stretch (c : Counters) {s : Scheduler} (hs : s.code ≠ .missing) :
    Stretch [{ counters := c, pos := s.pos, action := schedulerAction s }]
      (schedulerCalls s) [] := by
  unfold schedulerAction schedulerCalls
  cases hcode : s.code with
  | default => exact .call ..
  | user lines => exact .call ..
  | missing => exact absurd hcode hs

/-- A board that a walk gets to the end of. -/
structure Walkable (b : Board) : Prop where
  scheduler : b.scheduler.code ≠ .missing
  gpios : ∀ g ∈ b.gpios, g.direction.Proper

/-- The counters at the end of a walk. -/
def lastCounters (b : Board) : Counters :=
  (b.instancesSteps (gpioSteps {} b.gpios).2 b.instances).2

/-- The steps of a walk without the last, which is the call to finish. -/
def stepsBeforeFinish (b : Board) : List Step :=
  let gpios := gpioSteps {} b.gpios
  [{ counters := {}, pos := b.pos, action := .call .start }] ++
    [{ counters := {}, pos := b.mediumPos, action := .call (.medium b.medium) }] ++ gpios.1 ++
    [{ counters := gpios.2, pos := b.scheduler.pos, action := schedulerAction b.scheduler }] ++
    b.cores.map (fun core =>
      { counters := gpios.2, pos := core.pos, action := .call (.core core) }) ++
    (b.instancesSteps gpios.2 b.instances).1

theorem steps_eq (b : Board) : b.steps = b.stepsBeforeFinish ++
    [{ counters := b.lastCounters, pos := b.pos, action := .call .finish }] := by
  simp [steps, stepsBeforeFinish, lastCounters]

/-- What a walk does before it finishes, and the counters it has then. -/
theorem stepsBeforeFinish_stretch (hb : b.Walkable) :
    Stretch b.stepsBeforeFinish
        ([.start, .medium b.medium] ++ eachAfter gpioCalls b.gpios ++ schedulerCalls b.scheduler ++
          b.cores.map .core ++ eachAfter b.instanceCalls b.instances)
        b.defects ∧
      Passed b b.gpios b.places b.lastCounters := by
  obtain ⟨hgpios, hpassed⟩ := gpioSteps_stretch b.gpios hb.gpios (Passed.start b)
  have hnone : Passed b b.gpios (([] : List Instance).flatMap Instance.places)
      (gpioSteps {} b.gpios).2 := hpassed
  obtain ⟨hinsts, hlast⟩ := instancesSteps_stretch b.instances hnone
  refine ⟨?_, hlast⟩
  have hstart := (Stretch.call {} b.pos .start).append
    (.call {} b.mediumPos (.medium b.medium))
  have hcores := Stretch.callAll (gpioSteps {} b.gpios).2 Core.pos .core b.cores
  have hscheduler := schedulerStep_stretch (gpioSteps {} b.gpios).2 hb.scheduler
  exact (((hstart.append hgpios).append hscheduler).append hcores).append hinsts

/-- Where a device has no direction the walk gives up, and there is no call. -/
theorem gpioSteps_calls (gs : List Gpio) (h : Passed b gpios [] c) :
    (gpioSteps c gs).1.filterMap Step.call? =
        eachAfter (fun before => gpioCalls (gpios ++ before)) gs ∧
      Passed b (gpios ++ gs) [] (gpioSteps c gs).2 := by
  induction gs generalizing c gpios with
  | nil => exact ⟨rfl, by rwa [List.append_nil]⟩
  | cons g gs ih =>
    have hstep : [gpioStep c g].filterMap Step.call? = gpioCalls gpios g := by
      cases hd : g.direction with
      | other code _ => simp [gpioStep, gpioAction, gpioCalls, Step.call?, hd]
      | _ => exact (gpioStep_stretch h (by simp [hd, Direction.Proper])).calls
    obtain ⟨hrest, hlast⟩ := ih (h.gpio g)
    simp only [List.append_assoc, List.singleton_append] at hrest hlast
    refine ⟨?_, hlast⟩
    rw [eachAfter_cons, List.append_nil, ← hstep, ← hrest, ← List.filterMap_append]
    rfl

/-- The calls of all steps are the traversal, even if a walk does not get to the end. -/
theorem steps_calls (b : Board) : b.steps.filterMap Step.call? = b.traversal := by
  obtain ⟨hgpios, hpassed⟩ := gpioSteps_calls b.gpios (Passed.start b)
  have hnone : Passed b b.gpios (([] : List Instance).flatMap Instance.places)
      (gpioSteps {} b.gpios).2 := hpassed
  obtain ⟨hinsts, -⟩ := instancesSteps_stretch b.instances hnone
  have hcores := (Stretch.callAll (gpioSteps {} b.gpios).2 Core.pos .core b.cores).calls
  have hscheduler : [({ counters := (gpioSteps {} b.gpios).2, pos := b.scheduler.pos
                        action := schedulerAction b.scheduler } : Step)].filterMap Step.call? =
      schedulerCalls b.scheduler := by
    unfold schedulerAction schedulerCalls
    cases b.scheduler.code with
    | _ => rfl
  rw [steps_eq, stepsBeforeFinish]
  simp only [List.filterMap_append, hgpios, hscheduler, hcores, hinsts.calls]
  rfl

/-- A walk whose steps never give up is one over a walkable board. -/
theorem walkable_of_steps (h : b.steps.filterMap Step.halt? = []) : b.Walkable := by
  have hnone : ∀ s ∈ b.steps, s.halt? = none := List.filterMap_eq_nil_iff.1 h
  rw [steps_eq] at hnone
  constructor
  · intro hcode
    have hstep := hnone { counters := (gpioSteps {} b.gpios).2, pos := b.scheduler.pos
                          action := schedulerAction b.scheduler } (by simp [stepsBeforeFinish])
    simp [Step.halt?, schedulerAction, hcode] at hstep
  · have hgpios : ∀ s ∈ (gpioSteps {} b.gpios).1, s.halt? = none := fun s hs =>
      hnone s (by simp [stepsBeforeFinish, hs])
    exact gpioSteps_proper hgpios

end Board

end Boardwright
