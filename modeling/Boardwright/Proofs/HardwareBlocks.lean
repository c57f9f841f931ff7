import Boardwright.Proofs.HardwareStreams

/-!
# The blocks of the system

The system descriptor is made of the base system and of what the calls add to
it: `callBlocks` is that addition, and `mediumBlocks` the base system once the
medium is known.  The processor, the interrupt controller and the instances come
behind all of these.

`visit_blocks` is the step, `lastState_blocks` the run, and `run_blocks` reads
the blocks off the finished descriptor.
-/

namespace Boardwright.Hardware

open Descriptor (Line Block Value)

/-! ## What a call adds -/

/-- The base system with the medium.  The UART is there in any case; as the medium
it gets an interrupt. -/
def mediumBlocks : Medium → List Block
  | .uart _ => [dataMemory, instructionMemory, debugModule, timer, externalMemory,
      console.add [.port "Interrupt" (.ident (Platform.uart ++ "_Interrupt"))]]
  | .ethernet _ _ => baseSystem.blocks ++ [ethernetBlock]
  | .ethernetLite _ _ => baseSystem.blocks ++ [ethernetBlock]
  | _ => baseSystem.blocks

theorem addMedium_blocks (m : Medium) :
    (addMedium m (begin {})).state.system.blocks = mediumBlocks m := by
  cases m <;> rfl

/-- The block of a device that is declared the way it works. -/
def deviceBlocks (g : Gpio) (input : Bool) : List Block :=
  match Catalog.find? g.name with
  | none => []
  | some d => if d.isInput = input then [d.block] else []

/-- The stages of a stream from the processor to the core. -/
def writeStages (group : String) (set : PortSettings) : List Block :=
  (if 0 < set.hwQueue then [queueBlock (group ++ "_queue") set.hwQueue group (group ++ "_queue")]
    else []) ++
  if set.bitWidth != PortSettings.defaultBitWidth then
    [resizerBlock (group ++ "_mux") PortSettings.defaultBitWidth set.bitWidth
      (if 0 < set.hwQueue then group ++ "_queue" else group) (group ++ "_mux")]
  else []

/-- The stages of a stream from the core to the processor. -/
def readStages (group : String) (set : PortSettings) : List Block :=
  (if 0 < set.hwQueue then [queueBlock (group ++ "_queue") set.hwQueue (group ++ "_queue") group]
    else []) ++
  if set.bitWidth != PortSettings.defaultBitWidth then
    [resizerBlock (group ++ "_mux") set.bitWidth PortSettings.defaultBitWidth (group ++ "_mux")
      (if 0 < set.hwQueue then group ++ "_queue" else group)]
  else []

/-- The stages of the streams of a CPU binding. -/
def streamStages (set : PortSettings) (s : Streams) : List Block :=
  s.master.toList.flatMap (fun id => writeStages ("m" ++ idText id) set) ++
    s.slave.toList.flatMap (fun id => readStages ("s" ++ idText id) set)

/-- The blocks that a call adds to the base system. -/
def callBlocks : Call → List Block
  | .input g _ => deviceBlocks g true
  | .output g _ => deviceBlocks g false
  | .axis a => streamStages a.settings a.streams
  | _ => []

theorem writeChain_blocks (o : Options) (group : String) (set : PortSettings) (s : State) :
    (writeChain o group set s).2.system.blocks = s.system.blocks ++ writeStages group set := by
  simp only [writeChain, writeStages]
  split
  · split
    · exact List.append_assoc ..
    · rfl
  · split
    · rfl
    · exact (List.append_nil _).symm

theorem readChain_blocks (o : Options) (group : String) (set : PortSettings) (s : State) :
    (readChain o group set s).2.system.blocks = s.system.blocks ++ readStages group set := by
  simp only [readChain, readStages]
  split
  · split
    · exact List.append_assoc ..
    · rfl
  · split
    · rfl
    · exact (List.append_nil _).symm

theorem attach_system (inst : Instance) (interface net : String) (s : State) :
    (attach inst interface net s).system = s.system := by
  obtain ⟨instances, heq⟩ := attach_frame inst interface net s
  rw [heq]

theorem addMaster_blocks (o : Options) (a : Axis) (id : UInt8) (s : State) :
    (addMaster o a id s).system.blocks =
      s.system.blocks ++ writeStages ("m" ++ idText id) a.settings := by
  simp only [addMaster]
  rw [attach_system, writeChain_blocks]
  rfl

theorem addSlave_blocks (o : Options) (a : Axis) (id : UInt8) (s : State) :
    (addSlave o a id s).system.blocks =
      s.system.blocks ++ readStages ("s" ++ idText id) a.settings := by
  simp only [addSlave]
  rw [attach_system, readChain_blocks]
  rfl

theorem addAxis_blocks (o : Options) (a : Axis) (s : State) :
    (addAxis o a s).system.blocks = s.system.blocks ++ streamStages a.settings a.streams := by
  unfold addAxis streamStages
  rcases a.streams.master with _ | master <;> rcases a.streams.slave with _ | slave
  all_goals simp [addMaster_blocks, addSlave_blocks]

theorem addGpio_blocks (g : Gpio) (input : Bool) (s : State) :
    (addGpio g input s).state.system.blocks = s.system.blocks ++ deviceBlocks g input := by
  unfold addGpio deviceBlocks
  cases Catalog.find? g.name with
  | none => exact (List.append_nil _).symm
  | some d =>
    simp only
    split
    · rfl
    · exact (List.append_nil _).symm

/-- A call about anything but the medium adds its blocks behind the others. -/
theorem visit_blocks (o : Options) (b : Board) (c : Counters) {call : Call}
    (hends : call.part ≠ .ends) (hmedium : call.part ≠ .medium) (s : State) :
    (visit o b c call s).state.system.blocks = s.system.blocks ++ callBlocks call := by
  cases call with
  | start => exact absurd rfl hends
  | finish => exact absurd rfl hends
  | medium m => exact absurd rfl hmedium
  | input g id => exact addGpio_blocks g true s
  | output g id => exact addGpio_blocks g false s
  | axis a => exact addAxis_blocks o a s
  | link l =>
    simp only [visit, addLink, attach_system]
    exact (List.append_nil _).symm
  | enter site =>
    obtain ⟨instances, heq⟩ := addInstance_frame site.inst.name site.core.name s
    simp only [visit, heq]
    exact (List.append_nil _).symm
  | _ => exact (List.append_nil _).symm

/-- What all calls add behind the medium, from what each of them adds with its
blocks. -/
theorem lastState_of_step (o : Options) (b : Board) {R : List Block → State → State → Prop}
    (refl : ∀ s, R [] s s)
    (trans : ∀ {added added' s s' s''}, R added s s' → R added' s' s'' → R (added ++ added') s s'')
    (step : ∀ call : Call, call.part ≠ .ends → call.part ≠ .medium → ∀ s,
      R (callBlocks call) s (visit o b {} call s).state) :
    R (b.inside.flatMap callBlocks) (addMedium b.medium (begin {})).state
      ((Backend.hardware o).lastState b) := by
  obtain ⟨calls, hinside, hcalls⟩ := b.inside_medium
  have hrun := Visitor.advance_grows (v := visitor o) (b := b) refl trans
    (fun call hcall s => step call (hcalls call hcall).1 (hcalls call hcall).2 s)
    (addMedium b.medium (begin {})).state
  unfold Backend.lastState
  rw [hinside]
  exact hrun

/-- The system before the last call. -/
theorem lastState_blocks (o : Options) (b : Board) :
    ((Backend.hardware o).lastState b).system.blocks =
      mediumBlocks b.medium ++ b.inside.flatMap callBlocks := by
  rw [← addMedium_blocks]
  exact lastState_of_step o b (R := fun blocks s s' => s'.system.blocks = s.system.blocks ++ blocks)
    (fun s => (List.append_nil _).symm)
    (fun h h' => by rw [h', h, List.append_assoc])
    (fun call hends hmedium s => visit_blocks o b {} hends hmedium s)

/-- The kinds of hardware that come in front of the processor. -/
def frontKinds : List String := [
  "lmb_bram_if_cntlr", "mdm", "axi_timer", "axi_v6_ddrx", "axi_uartlite", "axi_ethernetlite",
  "axi_gpio", "queue", "resizer"]

/-- What holds of the base system and of what a medium changes in it holds with
any medium. -/
theorem forall_mediumBlocks {P : Block → Prop} (hbase : ∀ block ∈ baseSystem.blocks, P block)
    (huart : P (console.add [.port "Interrupt" (.ident (Platform.uart ++ "_Interrupt"))]))
    (hethernet : P ethernetBlock) (m : Medium) : ∀ block ∈ mediumBlocks m, P block := by
  have hnetwork : ∀ block ∈ baseSystem.blocks ++ [ethernetBlock], P block :=
    List.forall_mem_append.2 ⟨hbase, List.forall_mem_singleton.2 hethernet⟩
  cases m with
  | uart pos =>
    simp only [mediumBlocks, baseSystem, List.forall_mem_cons] at hbase ⊢
    tauto
  | ethernet options pos => exact hnetwork
  | ethernetLite options pos => exact hnetwork
  | _ => exact hbase

theorem mediumBlocks_kinds (m : Medium) : ∀ block ∈ mediumBlocks m, block.name ∈ frontKinds :=
  forall_mediumBlocks (by decide) (by decide) (by decide) m

@[simp] theorem queueBlock_name (inst : String) (depth : Int64) (source target : String) :
    (queueBlock inst depth source target).name = "queue" := rfl

@[simp] theorem queueBlock_instanceName (inst : String) (depth : Int64) (source target : String) :
    (queueBlock inst depth source target).instanceName = inst := rfl

@[simp] theorem resizerBlock_name (inst : String) (inWidth outWidth : Int64)
    (source target : String) :
    (resizerBlock inst inWidth outWidth source target).name = "resizer" := rfl

@[simp] theorem resizerBlock_instanceName (inst : String) (inWidth outWidth : Int64)
    (source target : String) :
    (resizerBlock inst inWidth outWidth source target).instanceName = inst := rfl

/-- A block is a queue or a resizer of a stream, by its name. -/
inductive IsStage (group : String) : Block → Prop
  | queue (depth : Int64) (source target : String) :
    IsStage group (queueBlock (group ++ "_queue") depth source target)
  | resizer (inWidth outWidth : Int64) (source target : String) :
    IsStage group (resizerBlock (group ++ "_mux") inWidth outWidth source target)

theorem isStage_of_mem_writeStages {group : String} {set : PortSettings} {block : Block}
    (h : block ∈ writeStages group set) : IsStage group block := by
  rcases List.mem_append.1 h with h | h
  · rw [List.mem_singleton.1 (List.mem_ite_nil_right.1 h).2]
    exact .queue ..
  · rw [List.mem_singleton.1 (List.mem_ite_nil_right.1 h).2]
    exact .resizer ..

theorem isStage_of_mem_readStages {group : String} {set : PortSettings} {block : Block}
    (h : block ∈ readStages group set) : IsStage group block := by
  rcases List.mem_append.1 h with h | h
  · rw [List.mem_singleton.1 (List.mem_ite_nil_right.1 h).2]
    exact .queue ..
  · rw [List.mem_singleton.1 (List.mem_ite_nil_right.1 h).2]
    exact .resizer ..

theorem isStage_of_mem_streamStages {set : PortSettings} {s : Streams} {block : Block}
    (h : block ∈ streamStages set s) : ∃ group, IsStage group block := by
  rcases List.mem_append.1 h with h | h
  · obtain ⟨id, -, h⟩ := List.mem_flatMap.1 h
    exact ⟨_, isStage_of_mem_writeStages h⟩
  · obtain ⟨id, -, h⟩ := List.mem_flatMap.1 h
    exact ⟨_, isStage_of_mem_readStages h⟩

theorem deviceBlocks_kinds (g : Gpio) (input : Bool) :
    ∀ block ∈ deviceBlocks g input, block.name = "axi_gpio" := by
  intro block hblock
  unfold deviceBlocks at hblock
  split at hblock
  · cases hblock
  · rw [List.mem_singleton.1 (List.mem_ite_nil_right.1 hblock).2]
    rfl

theorem front_kinds (b : Board) :
    ∀ block ∈ mediumBlocks b.medium ++ b.inside.flatMap callBlocks, block.name ∈ frontKinds := by
  have hgpio : "axi_gpio" ∈ frontKinds := by decide
  have hstages : "queue" ∈ frontKinds ∧ "resizer" ∈ frontKinds := by decide
  intro block hblock
  rcases List.mem_append.1 hblock with hblock | hblock
  · exact mediumBlocks_kinds b.medium block hblock
  · obtain ⟨call, -, hblock⟩ := List.mem_flatMap.1 hblock
    cases call with
    | input g id =>
      rw [deviceBlocks_kinds g true block hblock]
      exact hgpio
    | output g id =>
      rw [deviceBlocks_kinds g false block hblock]
      exact hgpio
    | axis a =>
      obtain ⟨group, hstage⟩ := isStage_of_mem_streamStages hblock
      cases hstage with
      | queue depth source target => exact hstages.1
      | resizer inWidth outWidth source target => exact hstages.2
    | _ => cases hblock

/-- No block in front of the processor is of another kind. -/
theorem front_name_ne (kind : String) (hkind : kind ∉ frontKinds) (b : Board) :
    ∀ block ∈ mediumBlocks b.medium ++ b.inside.flatMap callBlocks, block.name ≠ kind := by
  intro block hblock heq
  apply hkind
  rw [← heq]
  exact front_kinds b block hblock

/-! ## The finished system -/

theorem finish_system (o : Options) (b : Board) (c : Counters) {s : State}
    (hproduced : s.produced = { backend := name }) :
    ∃ (file : DescriptorFile) (lines : List Line),
      (finish o b c s).produced.findDescriptor? "system.mhs" = some file ∧
      file.descriptor.blocks = s.system.blocks ++
        s.processor.add lines :: interruptController s.interrupts :: instanceBlocks b s ∧
      ∀ line ∈ lines, line.kind = .parameter := by
  refine ⟨{ name := "system.mhs", dir := o.dir, descriptor := (finish o b c s).system }, _, ?_, rfl,
    ?_⟩
  · simp [finish, hproduced, Result.findDescriptor?]
  · simp [Line.parameter]

/-- The system of a project: what was there before the last call, then the
processor with all its streams, the interrupt controller and the instances. -/
theorem run_system {o : Options} {b : Board} {project : Result}
    (h : (Backend.hardware o).run b = .ok project) :
    ∃ (file : DescriptorFile) (lines : List Line),
      project.findDescriptor? "system.mhs" = some file ∧
      file.descriptor.blocks = mediumBlocks b.medium ++ b.inside.flatMap callBlocks ++
        processor.add (b.inside.flatMap processorLines ++ lines) ::
          interruptController ((Backend.hardware o).lastState b).interrupts ::
            instanceBlocks b ((Backend.hardware o).lastState b) ∧
      ∀ line ∈ lines, line.kind = .parameter := by
  obtain ⟨-, -, -, rfl⟩ := Backend.run_ok (visitor_countsLast o) h
  have hgrows := lastState_grows o b
  obtain ⟨file, lines, hfile, hblocks, hlines⟩ :=
    finish_system o b b.lastCounters hgrows.produced
  refine ⟨file, lines, hfile, ?_, hlines⟩
  rw [hblocks, lastState_blocks, hgrows.processor, Descriptor.Block.add_add]
  rfl

/-- The blocks of a project: the base system, what the calls added, and the
processor with everything that comes last. -/
theorem run_blocks {o : Options} {b : Board} {project : Result}
    (h : (Backend.hardware o).run b = .ok project) :
    ∃ (file : DescriptorFile) (lines : List Line) (nets : List Value) (instances : List Block),
      project.findDescriptor? "system.mhs" = some file ∧
      file.descriptor.blocks = mediumBlocks b.medium ++ b.inside.flatMap callBlocks ++
        processor.add lines :: interruptController nets :: instances := by
  obtain ⟨file, lines, hfile, hblocks, -⟩ := run_system h
  exact ⟨file, _, _, _, hfile, hblocks⟩

/-! ## Devices that a project accepts -/

theorem device_of_accepted {g : Gpio} {input : Bool} {s : State}
    (hstop : (addGpio g input s).stop = none)
    (hreports : Visitor.entriesOf name (addGpio g input s).reports = []) :
    ∃ d, Catalog.find? g.name = some d ∧ d.isInput = input := by
  unfold addGpio at hstop hreports
  cases hd : Catalog.find? g.name with
  | none =>
    rw [hd] at hreports
    cases hreports
  | some d =>
    rw [hd] at hstop
    simp only at hstop
    split at hstop
    · exact ⟨d, rfl, ‹_›⟩
    · cases hstop

/-- The devices of a project are in the catalog, and declared the way they work. -/
theorem run_devices {o : Options} {b : Board} {project : Result}
    (h : (Backend.hardware o).run b = .ok project) :
    (∀ g id, .input g id ∈ b.inside → ∃ d, Catalog.find? g.name = some d ∧ d.isInput = true) ∧
      ∀ g id, .output g id ∈ b.inside → ∃ d, Catalog.find? g.name = some d ∧ d.isInput = false := by
  constructor
  · intro g id hcall
    obtain ⟨s, hstop, hreports⟩ := Backend.run_accepts (visitor_countsLast o) h hcall
    exact device_of_accepted hstop hreports
  · intro g id hcall
    obtain ⟨s, hstop, hreports⟩ := Backend.run_accepts (visitor_countsLast o) h hcall
    exact device_of_accepted hstop hreports

end Boardwright.Hardware
