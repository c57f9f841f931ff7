import Boardwright.Walk.Call

/-!
# The walk over a board

What a walk does depends on the board alone: which calls are made with which identifiers, which
faults of the board are reported and where the walk has to stop.  `Board.steps` is that plan.
Identifiers are handed out in the order of the walk.
-/

namespace Boardwright

inductive Action where
  /-- Calls the backend. -/
  | call (c : Call)
  /-- Reports a recoverable fault of the board. -/
  | report (f : Fault)
  /-- Gives up: the board is not one that can be walked. -/
  | halt (f : Fault)
  deriving Repr

/-- One step of a walk, with the identifiers handed out so far. -/
structure Step where
  counters : Counters
  /-- The node that faults of this step belong to. -/
  pos : Pos
  action : Action
  deriving Repr

namespace Board

/-- The medium's own place, or that of the board. -/
def mediumPos (b : Board) : Pos := b.medium.pos?.getD b.pos

/-- The call for a GPIO device. -/
def gpioAction (g : Gpio) (ids : GpioIds) : Action :=
  match g.direction, ids.input, ids.output with
  | .input, some id, _ => .call (.input g id)
  | .output, _, some id => .call (.output g id)
  | .dual, some inputId, some outputId => .call (.bidirectional g inputId outputId)
  | _, _, _ => .halt (.invariant .traverse
      ("gpio " ++ g.name ++ " has direction " ++ toString g.direction.code.toNat))

def gpioStep (c : Counters) (g : Gpio) : Step :=
  let (ids, c) := c.allocateGpio g.name g.direction
  { counters := c, pos := g.pos, action := gpioAction g ids }

/-- The steps of the GPIO devices and the counters behind them. -/
def gpioSteps (c : Counters) : List Gpio → List Step × Counters
  | [] => ([], c)
  | g :: gs =>
    let step := gpioStep c g
    let (steps, c) := gpioSteps step.counters gs
    (step :: steps, c)

def schedulerAction (s : Scheduler) : Action :=
  match s.code with
  | .default => .call (.defaultScheduler s)
  | .user lines => .call (.userScheduler s lines)
  | .missing => .halt (.invariant .schedule "unknown scheduler code <nil>")

/-- A CPU binding to a port.  Without any stream there is no call. -/
def axisSteps (b : Board) (c : Counters) (inst : Instance) (port : Port) (binding : CpuBinding) :
    List Step × Counters :=
  let (streams, faults, c) := c.allocateStreams (inst.name ++ "." ++ port.name) port.direction
  let step (action : Action) : Step := { counters := c, pos := binding.pos, action }
  let calls :=
    if streams.master.isNone && streams.slave.isNone then []
    else [step (.call (.axis { binding, port, inst, streams, settings := b.settings binding }))]
  (faults.map (fun f => step (.report f)) ++ calls, c)

/-- The action for a link from a port.  A link to an instance of an undeclared core has none; that
instance is reported for itself. -/
def linkAction? (b : Board) (inst : Instance) (port : Port) (binding : LinkBinding) :
    Option Action :=
  match b.findInstance? binding.peer with
  | none => some (.report (.simple { phase := .traverse, kind := .structural
                                     path := [inst.name, port.name]
                                     detail := "link to undeclared instance " ++
                                       Text.quote binding.peer }))
  | some peer => match b.findCore? peer.core with
    | none => none
    | some peerCore => match peerCore.findPort? binding.peerPort with
      | none => some (.report (.missingPort peer.name peerCore.name binding.peerPort))
      | some peerPort => some (.call (.link { binding, port, inst, peer, peerPort }))

def bindingSteps (b : Board) (c : Counters) (inst : Instance) (core : Core) (binding : Binding) :
    List Step × Counters :=
  match core.findPort? binding.port with
  | none =>
    ([{ counters := c, pos := binding.pos
        action := .report (.missingPort inst.name core.name binding.port) }], c)
  | some port => match binding with
    | .cpu binding => b.axisSteps c inst port binding
    | .link binding =>
      let action := b.linkAction? inst port binding
      (action.toList.map fun action => { counters := c, pos := binding.pos, action }, c)

def bindingsSteps (b : Board) (c : Counters) (inst : Instance) (core : Core) :
    List Binding → List Step × Counters
  | [] => ([], c)
  | binding :: bindings =>
    let (steps, c) := b.bindingSteps c inst core binding
    let (rest, c) := b.bindingsSteps c inst core bindings
    (steps ++ rest, c)

def instanceSteps (b : Board) (c : Counters) (inst : Instance) : List Step × Counters :=
  match b.findCore? inst.core with
  | none =>
    ([{ counters := c, pos := inst.pos
        action := .report (.missingCore inst.name inst.core) }], c)
  | some core =>
    let site : Site := { inst, core, host := inst.hasCpuBinding }
    let (steps, after) := b.bindingsSteps c inst core inst.bindings
    ({ counters := c, pos := inst.pos, action := .call (.enter site) } :: steps ++
      [{ counters := after, pos := inst.pos, action := .call (.leave site) }], after)

def instancesSteps (b : Board) (c : Counters) : List Instance → List Step × Counters
  | [] => ([], c)
  | inst :: insts =>
    let (steps, c) := b.instanceSteps c inst
    let (rest, c) := b.instancesSteps c insts
    (steps ++ rest, c)

/-- The whole walk: medium, GPIO devices, scheduler, cores and instances, each in the order of
declaration. -/
def steps (b : Board) : List Step :=
  let (gpios, c) := gpioSteps {} b.gpios
  let (instances, last) := b.instancesSteps c b.instances
  { counters := {}, pos := b.pos, action := .call .start } ::
    { counters := {}, pos := b.mediumPos, action := .call (.medium b.medium) } ::
    gpios ++
    { counters := c, pos := b.scheduler.pos, action := schedulerAction b.scheduler } ::
    b.cores.map (fun core => { counters := c, pos := core.pos, action := .call (.core core) }) ++
    instances ++ [{ counters := last, pos := b.pos, action := .call .finish }]

end Board

end Boardwright
