import Boardwright.Proofs.FirmwareConstants

/-!
# The board support package

Every device of the server, and every queue and width adapter of a stream, gets a
driver.  `supportBlocks` is what a call adds to the package, `visit_supports` the
step, `lastState_supports` the run, and `run_support` reads the package off the
finished server.
-/

namespace Boardwright.Firmware

open Descriptor (Block)

/-! ## What a call adds -/

/-- The driver and the library of a network medium. -/
def networkBlocks : List Block :=
  [driver "emaclite" Platform.ethernetDriver Platform.ethernetDevice, networkLibrary]

def mediumSupport : Medium → List Block
  | .ethernet _ _ => networkBlocks
  | .ethernetLite _ _ => networkBlocks
  | _ => []

def deviceDriver (d : Device) : Block := driver "gpio" Platform.gpioDriver d.supportInst

/-- The driver of an input device, which needs an interrupt. -/
def inputSupport (g : Gpio) : List Block :=
  match Catalog.find? g.name with
  | none => []
  | some d => if d.hasInterrupt then [deviceDriver d] else []

/-- The driver of an output device. -/
def outputSupport (g : Gpio) : List Block :=
  match Catalog.find? g.name with
  | none => []
  | some d => [deviceDriver d]

/-- The drivers for the streams of a CPU binding. -/
def streamSupport (set : PortSettings) (s : Streams) : List Block :=
  s.master.toList.flatMap (fun id => streamDrivers ("m" ++ idText id) set) ++
    s.slave.toList.flatMap (fun id => streamDrivers ("s" ++ idText id) set)

/-- The blocks that a call adds to the package. -/
def supportBlocks : Call → List Block
  | .medium m => mediumSupport m
  | .input g _ => inputSupport g
  | .output g _ => outputSupport g
  | .axis a => streamSupport a.settings a.streams
  | _ => []

/-- A package gets some blocks. -/
def Supports (blocks : List Block) (s s' : State) : Prop :=
  s'.support = s.support.addBlocks blocks

theorem Supports.nothing {s s' : State} (h : s'.support = s.support) : Supports [] s s' := by
  simp [Supports, h, Descriptor.addBlocks]

theorem Supports.trans {blocks blocks' : List Block} {s s' s'' : State}
    (h : Supports blocks s s') (h' : Supports blocks' s' s'') :
    Supports (blocks ++ blocks') s s'' := by
  unfold Supports at h h' ⊢
  rw [h', h]
  simp [Descriptor.addBlocks]

theorem addMedium_supports (o : Options) (m : Medium) (s : State) :
    Supports (mediumSupport m) s (addMedium o m s).state := by
  have hethernet : ∀ options pos, Supports networkBlocks s (addEthernet o options pos s).state := by
    intro options pos
    simp only [addEthernet, defineOptions_eq]
    rfl
  cases m with
  | ethernet options pos => exact hethernet options pos
  | ethernetLite options pos => exact hethernet options pos
  | _ => exact .nothing rfl

theorem addInput_supports (o : Options) (g : Gpio) (id : UInt8) (s : State) :
    Supports (inputSupport g) s (addInput o g id s).state := by
  unfold addInput inputSupport
  cases Catalog.find? g.name with
  | none => exact .nothing rfl
  | some d =>
    simp only
    split
    · rfl
    · exact .nothing rfl

theorem addOutput_supports (o : Options) (g : Gpio) (id : UInt8) (s : State) :
    Supports (outputSupport g) s (addOutput o g id s).state := by
  unfold addOutput outputSupport
  cases Catalog.find? g.name with
  | none => exact .nothing rfl
  | some d => rfl

theorem addAxis_supports (a : Axis) (s : State) :
    Supports (streamSupport a.settings a.streams) s (addAxis a s) := by
  unfold Supports addAxis streamSupport
  rcases a.streams.master with _ | master <;> rcases a.streams.slave with _ | slave
  all_goals simp [addMaster, addSlave]

/-- Every call but the last adds its blocks to the package. -/
theorem visit_supports (o : Options) (b : Board) (c : Counters) {call : Call}
    (hcall : call ≠ .finish) (s : State) :
    Supports (supportBlocks call) s (visit o b c call s).state := by
  cases call with
  | start =>
    show Supports [] s (defineDefaults b s)
    rw [defineDefaults_eq]
    exact .nothing rfl
  | medium m => exact addMedium_supports o m s
  | input g id => exact addInput_supports o g id s
  | output g id => exact addOutput_supports o g id s
  | axis a => exact addAxis_supports a s
  | finish => exact absurd rfl hcall
  | _ => exact .nothing rfl

/-- The package before the last call. -/
theorem lastState_supports (o : Options) (b : Board) :
    ((Backend.firmware o).lastState b).support =
      baseSupport.addBlocks (b.inside.flatMap supportBlocks) := by
  have hrun : Supports ((.start :: b.inside).flatMap supportBlocks) (start o)
      ((Backend.firmware o).lastState b) := by
    refine Visitor.advance_grows (fun s => Supports.nothing rfl) Supports.trans ?_ (start o)
    intro call hcall s
    exact visit_supports o b {} (b.ne_finish call hcall) s
  exact hrun

/-! ## The finished package -/

theorem finish_support {o : Options} {c : Counters} {s : State}
    (hs : s.produced = { backend := name }) (hstop : (finish o c s).stop = none) :
    (finish o c s).state.produced.findDescriptor? "system.mss" =
      some { name := "system.mss", dir := o.dir, descriptor := s.support } := by
  obtain ⟨scheduler, -, hproduced⟩ := finish_ok hstop
  simp [hproduced, Result.findDescriptor?, hs]

/-- The package of a server: what every server needs, and what the calls added. -/
theorem run_support {o : Options} {b : Board} {server : Result}
    (h : (Backend.firmware o).run b = .ok server) :
    ∃ file, server.findDescriptor? "system.mss" = some file ∧
      file.descriptor = baseSupport.addBlocks (b.inside.flatMap supportBlocks) := by
  obtain ⟨-, -, hstop, rfl⟩ := Backend.run_ok (visitor_countsLast o) h
  exact ⟨_, finish_support (lastState_grows o b).produced hstop, lastState_supports o b⟩

end Boardwright.Firmware
