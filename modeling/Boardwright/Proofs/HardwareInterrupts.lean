import Boardwright.Proofs.HardwareWiring

/-!
# Interrupts

The nets of interrupts are collected while blocks are added, and the interrupt
controller gets what was collected.  `Block.interrupts` reads the sources off a
block instead: the nets on its interrupt ports.

`Raises` says that a call collects what the blocks that it adds have on their
interrupt ports, and leaves the blocks of instances without any.  `visit_raises`
is the step and `lastState_raises` the run; `interrupt_sources_wired_in_order`
compares the controller with all blocks of the finished system.
-/

namespace Boardwright

namespace Descriptor

/-- The names of ports that raise interrupts. -/
def interruptPorts : List String := ["Interrupt", "IP2INTC_Irpt"]

/-- What a line assigns to interrupt ports. -/
def Line.interrupts (l : Line) : List Value :=
  if l.kind = .port then
    (l.assignments.filter fun a => interruptPorts.contains a.name).map (·.value)
  else []

/-- What a block has on its interrupt ports, in order. -/
def Block.interrupts (b : Block) : List Value := b.lines.flatMap Line.interrupts

theorem Block.interrupts_add (b : Block) (lines : List Line) :
    (b.add lines).interrupts = b.interrupts ++ lines.flatMap Line.interrupts :=
  List.flatMap_append

theorem Line.interrupts_bus (name : String) (value : Value) : (bus name value).interrupts = [] :=
  rfl

theorem flatMap_interrupts_of_no_port {lines : List Line} (h : ∀ line ∈ lines, line.kind ≠ .port) :
    lines.flatMap Line.interrupts = [] :=
  List.flatMap_eq_nil_iff.2 fun line hline => if_neg (h line hline)

end Descriptor

namespace Hardware

open Descriptor (Line Block Value flatMap_interrupts_of_no_port)

/-! ## The sources in a block -/

theorem device_interrupts (d : Device) :
    d.block.interrupts = if d.hasInterrupt then [.ident d.interruptNet] else [] := by
  unfold Block.interrupts Device.block
  cases d.isInput <;> cases d.hasInterrupt <;> rfl

theorem streamStages_interrupts (set : PortSettings) (s : Streams) :
    (streamStages set s).flatMap Block.interrupts = [] := by
  refine List.flatMap_eq_nil_iff.2 fun block hblock => ?_
  obtain ⟨group, hstage⟩ := isStage_of_mem_streamStages hblock
  cases hstage with
  | queue depth source target => rfl
  | resizer inWidth outWidth source target => rfl

theorem processorLines_kind (b : Board) :
    ∀ line ∈ b.inside.flatMap processorLines, line.kind = .busInterface := by
  intro line hline
  obtain ⟨call, -, hline⟩ := List.mem_flatMap.1 hline
  cases call with
  | axis a =>
    rcases List.mem_append.1 hline with hline | hline
    · obtain ⟨id, -, rfl⟩ := List.mem_map.1 hline
      rfl
    · obtain ⟨id, -, rfl⟩ := List.mem_map.1 hline
      rfl
  | _ => cases hline

/-! ## What a call collects -/

/-- The instances have no interrupts. -/
def Quiet (s : State) : Prop := ∀ entry ∈ s.instances, entry.2.interrupts = []

/-- The sources in the blocks that were added are collected, in order, and no
instance became one. -/
structure Raises (added : List Block) (s s' : State) : Prop where
  interrupts : s'.interrupts = s.interrupts ++ added.flatMap Block.interrupts
  quiet : Quiet s → Quiet s'

namespace Raises

variable {added added' : List Block} {s s' s'' : State}

/-- Blocks were added that are not instances. -/
theorem front (hinterrupts : s'.interrupts = s.interrupts ++ added.flatMap Block.interrupts)
    (hinstances : s'.instances = s.instances) : Raises added s s' where
  interrupts := hinterrupts
  quiet hs := by
    unfold Quiet
    rwa [hinstances]

theorem aside (hinterrupts : s'.interrupts = s.interrupts)
    (hinstances : s'.instances = s.instances) : Raises [] s s' :=
  front (hinterrupts.trans (List.append_nil _).symm) hinstances

theorem refl (s : State) : Raises [] s s := aside rfl rfl

theorem trans (h : Raises added s s') (h' : Raises added' s' s'') :
    Raises (added ++ added') s s'' where
  interrupts := by rw [h'.interrupts, h.interrupts, List.flatMap_append, List.append_assoc]
  quiet hs := h'.quiet (h.quiet hs)

/-- An instance gets a block without interrupts. -/
theorem put {name : String} {block : Block} (hblock : Quiet s → block.interrupts = []) :
    Raises [] s { s with instances := putBlock name block s.instances } where
  interrupts := (List.append_nil _).symm
  quiet hs := by
    intro entry hentry
    rcases mem_putBlock hentry with rfl | hentry
    · exact hblock hs
    · exact hs entry hentry

end Raises

theorem addInstance_raises (inst core : String) (s : State) :
    Raises [] s (addInstance inst core s) := by
  unfold addInstance
  split
  · exact .refl s
  · exact .put fun _ => rfl

theorem blockOf_quiet {s : State} (hs : Quiet s) (inst core : String) :
    (blockOf inst core s).interrupts = [] := by
  unfold blockOf
  cases hblock : s.instances.lookup inst with
  | none => rfl
  | some block => exact hs _ (mem_of_lookup hblock)

theorem attach_raises (inst : Instance) (interface net : String) (s : State) :
    Raises [] s (attach inst interface net s) := by
  simp only [attach]
  have hadd := addInstance_raises inst.name inst.core s
  split
  · exact hadd
  · refine hadd.trans (.put fun hs => ?_)
    rw [Block.interrupts_add, blockOf_quiet hs, List.flatMap_singleton, Line.interrupts_bus]
    rfl

theorem writeChain_interrupts (o : Options) (group : String) (set : PortSettings) (s : State) :
    (writeChain o group set s).2.interrupts = s.interrupts := by
  simp only [writeChain]
  split <;> split <;> rfl

theorem readChain_interrupts (o : Options) (group : String) (set : PortSettings) (s : State) :
    (readChain o group set s).2.interrupts = s.interrupts := by
  simp only [readChain]
  split <;> split <;> rfl

theorem addMaster_raises (o : Options) (a : Axis) (id : UInt8) (s : State) :
    Raises [] s (addMaster o a id s) := by
  have hchain : Raises [] s (writeChain o ("m" ++ idText id) a.settings
      (connect ("M" ++ idText id ++ "_AXIS") ("m" ++ idText id) s)).2 :=
    .aside (writeChain_interrupts ..) (writeChain_end ..).2
  exact hchain.trans (attach_raises ..)

theorem addSlave_raises (o : Options) (a : Axis) (id : UInt8) (s : State) :
    Raises [] s (addSlave o a id s) := by
  have hchain : Raises [] s (readChain o ("s" ++ idText id) a.settings
      (connect ("S" ++ idText id ++ "_AXIS") ("s" ++ idText id) s)).2 :=
    .aside (readChain_interrupts ..) (readChain_end ..).2
  exact hchain.trans (attach_raises ..)

/-- The stages of streams are there, and none of them is a source. -/
theorem addAxis_raises (o : Options) (a : Axis) (s : State) :
    Raises (streamStages a.settings a.streams) s (addAxis o a s) := by
  have hnone : Raises [] s (addAxis o a s) := by
    unfold addAxis
    cases a.streams.master with
    | none =>
      cases a.streams.slave with
      | none => exact .refl s
      | some slave => exact addSlave_raises o a slave s
    | some master =>
      have hmaster := addMaster_raises o a master s
      cases a.streams.slave with
      | none => exact hmaster
      | some slave => exact hmaster.trans (addSlave_raises o a slave _)
  exact ⟨by rw [streamStages_interrupts]; exact hnone.interrupts, hnone.quiet⟩

theorem addGpio_raises (g : Gpio) (input : Bool) (s : State) :
    Raises (deviceBlocks g input) s (addGpio g input s).state := by
  refine .front ?_ (addGpio_instances g input s)
  unfold addGpio deviceBlocks
  cases Catalog.find? g.name with
  | none => exact (List.append_nil _).symm
  | some d =>
    simp only
    split
    · rw [List.flatMap_singleton, device_interrupts]
    · exact (List.append_nil _).symm

theorem visit_raises (o : Options) (b : Board) (c : Counters) {call : Call}
    (hends : call.part ≠ .ends) (hmedium : call.part ≠ .medium) (s : State) :
    Raises (callBlocks call) s (visit o b c call s).state := by
  cases call with
  | start => exact absurd rfl hends
  | finish => exact absurd rfl hends
  | medium m => exact absurd rfl hmedium
  | input g id => exact addGpio_raises g true s
  | output g id => exact addGpio_raises g false s
  | enter site => exact addInstance_raises site.inst.name site.core.name s
  | axis a => exact addAxis_raises o a s
  | link l =>
    simp only [visit, addLink]
    exact (attach_raises ..).trans (attach_raises ..)
  | _ => exact .aside rfl rfl

/-- The base system has the timer as its source, and the medium adds its own. -/
theorem addMedium_interrupts (m : Medium) :
    (addMedium m (begin {})).state.interrupts = (mediumBlocks m).flatMap Block.interrupts := by
  cases m <;> rfl

/-- What is collected before the last call. -/
theorem lastState_raises (o : Options) (b : Board) :
    ((Backend.hardware o).lastState b).interrupts =
        (mediumBlocks b.medium ++ b.inside.flatMap callBlocks).flatMap Block.interrupts ∧
      Quiet ((Backend.hardware o).lastState b) := by
  have hrun := lastState_of_step o b (R := Raises) .refl .trans
    (fun call hends hmedium s => visit_raises o b {} hends hmedium s)
  constructor
  · rw [List.flatMap_append, ← addMedium_interrupts]
    exact hrun.interrupts
  · apply hrun.quiet
    intro entry hentry
    rw [addMedium_instances] at hentry
    cases hentry

/-! ## The finished system -/

theorem processor_interrupts (b : Board) {lines : List Line}
    (hlines : ∀ line ∈ lines, line.kind = .parameter) :
    (processor.add (b.inside.flatMap processorLines ++ lines)).interrupts = [] := by
  have hnone : (b.inside.flatMap processorLines ++ lines).flatMap Line.interrupts = [] := by
    refine flatMap_interrupts_of_no_port fun line hline => ?_
    rcases List.mem_append.1 hline with hline | hline
    · rw [processorLines_kind b line hline]
      decide
    · rw [hlines line hline]
      decide
  rw [Block.interrupts_add, hnone]
  rfl

theorem instanceBlocks_interrupts {b : Board} {s : State} (hs : Quiet s) :
    (instanceBlocks b s).flatMap Block.interrupts = [] := by
  refine List.flatMap_eq_nil_iff.2 fun block hblock => ?_
  obtain ⟨inst, -, hblock⟩ := List.mem_filterMap.1 hblock
  exact hs _ (mem_of_lookup hblock)

/-- The first block that is an interrupt controller serves, in order, the nets
that all blocks of the system have on their interrupt ports, and no others. -/
theorem interrupt_sources_wired_in_order (o : Options) (b : Board) {project : Result}
    (h : (Backend.hardware o).run b = .ok project) :
    ∃ (system : DescriptorFile) (front : List Block) (controller : Block) (back : List Block)
      (nets : List Value),
      project.findDescriptor? "system.mhs" = some system ∧
      system.descriptor.blocks = front ++ controller :: back ∧
      (∀ block ∈ front, block.name ≠ "axi_intc") ∧ controller.name = "axi_intc" ∧
      controller.lookup? .port "INTR" = some (.concat nets) ∧
      nets = system.descriptor.blocks.flatMap Block.interrupts := by
  obtain ⟨system, lines, hsystem, hblocks, hlines⟩ := run_system h
  obtain ⟨hcollected, hquiet⟩ := lastState_raises o b
  have hsources : system.descriptor.blocks.flatMap Block.interrupts =
      ((Backend.hardware o).lastState b).interrupts := by
    rw [hblocks, List.flatMap_append, List.flatMap_cons, List.flatMap_cons,
      processor_interrupts b hlines, instanceBlocks_interrupts hquiet, hcollected]
    exact List.append_nil _
  rw [List.append_cons] at hblocks
  refine ⟨system, _, _, _, _, hsystem, hblocks, ?_, rfl, rfl, hsources.symm⟩
  intro block hblock
  rcases List.mem_append.1 hblock with hblock | hblock
  · exact front_name_ne "axi_intc" (by decide) b block hblock
  · rw [List.mem_singleton.1 hblock]
    show "microblaze" ≠ "axi_intc"
    decide

/-- A board with a device that is declared twice, one without interrupts, and a
stream with stages between the devices and the instances. -/
def deskBoard : Board where
  medium := .uart {}
  gpios := [
    { name := "switches", direction := .input },
    { name := "leds", direction := .output },
    { name := "buttons", direction := .input },
    { name := "switches", direction := .input }]
  cores := [{ name := "filter", ports := [{ name := "Interrupt", direction := .dual }] }]
  instances := [{ name := "f", core := "filter", bindings := [
    .cpu { port := "Interrupt", options := [.bitWidth 8] }] }]

theorem interrupt_sources_wired_in_order_desk :
    ∃ (project : Result) (system : DescriptorFile) (controller : Block) (nets : List Value),
      (Backend.hardware {}).run deskBoard = .ok project ∧
      project.findDescriptor? "system.mhs" = some system ∧
      controller ∈ system.descriptor.blocks ∧ controller.name = "axi_intc" ∧
      controller.lookup? .port "INTR" = some (.concat nets) ∧
      nets = [.ident "axi_timer_0_Interrupt", .ident "RS232_Uart_1_Interrupt",
        .ident "DIP_Switches_8Bits_IP2INTC_Irpt", .ident "Push_Buttons_5Bits_IP2INTC_Irpt",
        .ident "DIP_Switches_8Bits_IP2INTC_Irpt"] := by
  obtain ⟨project, hproject, hsources⟩ : ∃ project,
      (Backend.hardware {}).run deskBoard = .ok project ∧
      ∀ system, project.findDescriptor? "system.mhs" = some system →
        system.descriptor.blocks.flatMap Block.interrupts = [.ident "axi_timer_0_Interrupt",
          .ident "RS232_Uart_1_Interrupt", .ident "DIP_Switches_8Bits_IP2INTC_Irpt",
          .ident "Push_Buttons_5Bits_IP2INTC_Irpt", .ident "DIP_Switches_8Bits_IP2INTC_Irpt"] := by
    refine ⟨_, rfl, fun system hsystem => ?_⟩
    rw [← Option.some.inj hsystem]
    rfl
  obtain ⟨system, front, controller, back, nets, hsystem, hblocks, -, hname, hport, hnets⟩ :=
    interrupt_sources_wired_in_order {} deskBoard hproject
  refine ⟨project, system, controller, nets, hproject, hsystem, ?_, hname, hport, ?_⟩
  · simp [hblocks]
  · rw [hnets, hsources system hsystem]

end Hardware

end Boardwright
