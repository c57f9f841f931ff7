import Boardwright.Proofs.FirmwareSupport
import Boardwright.Proofs.HardwareBlocks
import Boardwright.Text.Case

/-!
# Drivers and hardware

The board support package names the hardware that its drivers are for, but it is
generated apart from the hardware.  The theorem here says that the two fit:
every name in the package is the one of a block of the system, and the adapters
of the streams are listed in the order in which the system has them.

The argument goes call by call.  `genericNames_call` compares what one call adds
to the package and to the system; for the names, `refers_call` finds the block
that the same call adds to the system.
-/

namespace Boardwright

/-! ## Names in lower case -/

namespace Text

theorem lower_append (a b : String) : lower (a ++ b) = lower a ++ lower b := by
  simp [lower, String.ofList_append]

theorem lowerChar_digit {c : Char} (hc : c.isDigit = true) : lowerChar c = c := by
  have hrange : 48 ≤ c.toNat ∧ c.toNat ≤ 57 := by
    simpa [Char.isDigit, UInt32.le_iff_toNat_le] using hc
  have hascii : c.toNat < 0x80 := by omega
  have hnone : ¬ (65 ≤ c.toNat ∧ c.toNat ≤ 90) := by omega
  unfold lowerChar
  rw [if_pos hascii]
  unfold Char.toLower
  split
  · rename_i hcapital
    exact absurd (by simpa [UInt32.le_iff_toNat_le] using hcapital) hnone
  · rfl

/-- Numbers have no capital letters. -/
theorem lower_number (n : Nat) : lower (toString n) = toString n := by
  unfold lower
  rw [Nat.toString_eq_ofList_toDigits, String.toList_ofList]
  congr 1
  refine (List.map_congr_left fun c hc => ?_).trans (List.map_id _)
  exact lowerChar_digit (Nat.isDigit_of_mem_toDigits (by decide) (by decide) hc)

end Text

/-! ## What a descriptor assigns -/

namespace Descriptor

/-- The values that some lines assign to a name, as written. -/
def assigned (name : String) (lines : List Line) : List String :=
  lines.flatMap fun l => (l.assignments.filter (·.name == name)).map (·.value.text)

/-- Every line of a descriptor, in the header and in the blocks. -/
def allLines (d : Descriptor) : List Line := d.header ++ d.blocks.flatMap Block.lines

/-- A driver without functions of its own. -/
def Block.isGeneric (b : Block) : Bool :=
  b.name == "DRIVER" && assigned "DRIVER_NAME" b.lines == ["generic"]

/-- A queue or a width adapter. -/
def Block.isAdapter (b : Block) : Bool := b.name == "queue" || b.name == "resizer"

/-- The hardware that some blocks are for. -/
def driverNames (blocks : List Block) : List String :=
  blocks.flatMap fun b => assigned "HW_INSTANCE" b.lines

/-- The hardware of the generic drivers, in order. -/
def genericNames (blocks : List Block) : List String :=
  driverNames (blocks.filter Block.isGeneric)

/-- The names of the adapters, in order. -/
def adapterNames (blocks : List Block) : List String :=
  (blocks.filter Block.isAdapter).map Block.instanceName

theorem assigned_allLines (d : Descriptor) :
    assigned "HW_INSTANCE" d.allLines =
      assigned "HW_INSTANCE" d.header ++ driverNames d.blocks := by
  simp [assigned, allLines, driverNames, List.flatMap_assoc]

theorem driverNames_append (blocks blocks' : List Block) :
    driverNames (blocks ++ blocks') = driverNames blocks ++ driverNames blocks' :=
  List.flatMap_append

theorem driverNames_flatMap {α : Type} (f : α → List Block) (as : List α) :
    driverNames (as.flatMap f) = as.flatMap fun a => driverNames (f a) :=
  List.flatMap_assoc

theorem genericNames_append (blocks blocks' : List Block) :
    genericNames (blocks ++ blocks') = genericNames blocks ++ genericNames blocks' := by
  rw [genericNames, List.filter_append, driverNames_append]
  rfl

theorem adapterNames_append (blocks blocks' : List Block) :
    adapterNames (blocks ++ blocks') = adapterNames blocks ++ adapterNames blocks' := by
  simp [adapterNames]

theorem genericNames_flatMap {α : Type} (f : α → List Block) (as : List α) :
    genericNames (as.flatMap f) = as.flatMap fun a => genericNames (f a) := by
  rw [genericNames, List.filter_flatMap, driverNames_flatMap]
  rfl

theorem adapterNames_flatMap {α : Type} (f : α → List Block) (as : List α) :
    adapterNames (as.flatMap f) = as.flatMap fun a => adapterNames (f a) := by
  rw [adapterNames, List.filter_flatMap, List.map_flatMap]
  rfl

theorem mem_of_adapterNames {blocks : List Block} {value : String}
    (h : value ∈ adapterNames blocks) :
    ∃ block ∈ blocks, block.instanceName = value := by
  obtain ⟨block, hblock, hvalue⟩ := List.mem_map.1 h
  exact ⟨block, (List.mem_filter.1 hblock).1, hvalue⟩

end Descriptor

open Descriptor

/-! ## One call -/

theorem isGeneric_driver (name version inst : String) :
    (Firmware.driver name version inst).isGeneric = (name == "generic") := by
  simp [Block.isGeneric, Firmware.driver, assigned, Line.parameter, Value.text]

theorem assigned_driver (name version inst : String) :
    assigned "HW_INSTANCE" (Firmware.driver name version inst).lines = [inst] := by
  simp [Firmware.driver, assigned, Line.parameter, Value.text]

/-- The adapters that a stream needs. -/
def adaptersOf (group : String) (set : PortSettings) : List String :=
  (if 0 < set.hwQueue then [group ++ "_queue"] else []) ++
    if set.bitWidth != PortSettings.defaultBitWidth then [group ++ "_mux"] else []

theorem driverNames_streamDrivers (group : String) (set : PortSettings) :
    driverNames (Firmware.streamDrivers group set) = adaptersOf group set := by
  unfold Firmware.streamDrivers adaptersOf
  rw [driverNames_append]
  congr 1
  · split <;> simp [driverNames, assigned_driver]
  · split <;> simp [driverNames, assigned_driver]

/-- The drivers of adapters are generic ones. -/
theorem genericNames_streamDrivers (group : String) (set : PortSettings) :
    genericNames (Firmware.streamDrivers group set) = adaptersOf group set := by
  have hgeneric : ∀ block ∈ Firmware.streamDrivers group set, block.isGeneric = true := by
    intro block hblock
    unfold Firmware.streamDrivers at hblock
    rcases List.mem_append.1 hblock with hblock | hblock
    all_goals
      split at hblock
      · rw [List.mem_singleton.1 hblock, isGeneric_driver]
        rfl
      · cases hblock
  rw [genericNames, List.filter_eq_self.2 hgeneric, driverNames_streamDrivers]

theorem adapterNames_writeStages (group : String) (set : PortSettings) :
    adapterNames (Hardware.writeStages group set) = adaptersOf group set := by
  unfold Hardware.writeStages adaptersOf
  rw [adapterNames_append]
  congr 1
  · split <;> rfl
  · split <;> rfl

theorem adapterNames_readStages (group : String) (set : PortSettings) :
    adapterNames (Hardware.readStages group set) = adaptersOf group set := by
  unfold Hardware.readStages adaptersOf
  rw [adapterNames_append]
  congr 1
  · split <;> rfl
  · split <;> rfl

theorem genericNames_streams (set : PortSettings) (s : Streams) :
    genericNames (Firmware.streamSupport set s) = adapterNames (Hardware.streamStages set s) := by
  unfold Firmware.streamSupport Hardware.streamStages
  simp only [genericNames_append, adapterNames_append, genericNames_flatMap, adapterNames_flatMap,
    genericNames_streamDrivers, adapterNames_writeStages, adapterNames_readStages]

/-- A device has a driver of its own, and is no adapter. -/
theorem genericNames_device (d : Device) :
    genericNames [Firmware.deviceDriver d] = [] ∧ adapterNames [d.block] = [] := by
  simp [genericNames, driverNames, adapterNames, Firmware.deviceDriver, isGeneric_driver,
    Block.isAdapter, Device.block]

/-- A call adds the same adapters to the package and to the system. -/
theorem genericNames_call (call : Call) :
    genericNames (Firmware.supportBlocks call) = adapterNames (Hardware.callBlocks call) := by
  have hdevice : ∀ g input, adapterNames (Hardware.deviceBlocks g input) = [] := by
    intro g input
    unfold Hardware.deviceBlocks
    split
    · rfl
    · split
      · exact (genericNames_device _).2
      · rfl
  cases call with
  | axis a => exact genericNames_streams a.settings a.streams
  | medium m =>
    have hnetwork : genericNames Firmware.networkBlocks = [] := by decide
    cases m with
    | ethernet options pos => exact hnetwork
    | ethernetLite options pos => exact hnetwork
    | _ => rfl
  | input g id =>
    show genericNames (Firmware.inputSupport g) = adapterNames (Hardware.deviceBlocks g true)
    rw [hdevice]
    unfold Firmware.inputSupport
    split
    · rfl
    · split
      · exact (genericNames_device _).1
      · rfl
  | output g id =>
    show genericNames (Firmware.outputSupport g) = adapterNames (Hardware.deviceBlocks g false)
    rw [hdevice]
    unfold Firmware.outputSupport
    split
    · rfl
    · exact (genericNames_device _).1
  | _ => rfl

/-! ## Names that refer to blocks -/

/-- The value is the name of one of the blocks, in lower case. -/
def Refers (blocks : List Block) (value : String) : Prop :=
  ∃ block ∈ blocks, value = Text.lower block.instanceName

theorem Refers.mono {blocks blocks' : List Block} {value : String} (h : Refers blocks value)
    (hsub : blocks ⊆ blocks') : Refers blocks' value := by
  obtain ⟨block, hblock, hvalue⟩ := h
  exact ⟨block, hsub hblock, hvalue⟩

/-- The names of adapters are in lower case already. -/
theorem lower_adapter {letter : String} (hletter : Text.lower letter = letter) {n : Nat}
    {set : PortSettings} {value : String}
    (hvalue : value ∈ adaptersOf (letter ++ toString n) set) : Text.lower value = value := by
  have hlast : Text.lower "_queue" = "_queue" ∧ Text.lower "_mux" = "_mux" := by decide +kernel
  have hcases : value = letter ++ toString n ++ "_queue" ∨
      value = letter ++ toString n ++ "_mux" := by
    unfold adaptersOf at hvalue
    rcases List.mem_append.1 hvalue with hvalue | hvalue
    · left
      split at hvalue
      · exact List.mem_singleton.1 hvalue
      · cases hvalue
    · right
      split at hvalue
      · exact List.mem_singleton.1 hvalue
      · cases hvalue
  rcases hcases with rfl | rfl
  · rw [Text.lower_append, Text.lower_append, hletter, Text.lower_number, hlast.1]
  · rw [Text.lower_append, Text.lower_append, hletter, Text.lower_number, hlast.2]

/-- Every driver for a stream is for one of its stages. -/
theorem streams_refer (set : PortSettings) (s : Streams) :
    ∀ value ∈ driverNames (Firmware.streamSupport set s),
      Refers (Hardware.streamStages set s) value := by
  have hletters : Text.lower "m" = "m" ∧ Text.lower "s" = "s" := by decide +kernel
  intro value hvalue
  unfold Firmware.streamSupport at hvalue
  unfold Hardware.streamStages
  rw [driverNames_append, driverNames_flatMap, driverNames_flatMap] at hvalue
  simp only [driverNames_streamDrivers, List.mem_append, List.mem_flatMap] at hvalue
  rcases hvalue with ⟨id, hid, hvalue⟩ | ⟨id, hid, hvalue⟩
  · have hlower := lower_adapter hletters.1 hvalue
    rw [← adapterNames_writeStages] at hvalue
    obtain ⟨block, hblock, hname⟩ := mem_of_adapterNames hvalue
    refine ⟨block, ?_, by rw [hname, hlower]⟩
    exact List.mem_append_left _ (List.mem_flatMap.2 ⟨id, hid, hblock⟩)
  · have hlower := lower_adapter hletters.2 hvalue
    rw [← adapterNames_readStages] at hvalue
    obtain ⟨block, hblock, hname⟩ := mem_of_adapterNames hvalue
    refine ⟨block, ?_, by rw [hname, hlower]⟩
    exact List.mem_append_right _ (List.mem_flatMap.2 ⟨id, hid, hblock⟩)

/-- The driver of a device is for its block. -/
theorem device_refers {d : Device} (hd : d ∈ Catalog.devices) :
    ∀ value ∈ driverNames [Firmware.deviceDriver d], Refers [d.block] value := by
  have hcatalog : ∀ d ∈ Catalog.devices, d.supportInst = Text.lower d.inst := by decide +kernel
  intro value hvalue
  rw [driverNames, List.flatMap_singleton, Firmware.deviceDriver, assigned_driver] at hvalue
  rw [List.mem_singleton.1 hvalue, hcatalog d hd]
  exact ⟨d.block, List.mem_singleton_self _, rfl⟩

/-- The drivers of a medium are for blocks that the medium brings along. -/
theorem medium_refers (m : Medium) :
    ∀ value ∈ driverNames (Firmware.mediumSupport m), Refers (Hardware.mediumBlocks m) value := by
  have hnetwork : ∀ value ∈ driverNames Firmware.networkBlocks,
      Refers (Hardware.baseSystem.blocks ++ [Hardware.ethernetBlock]) value := by
    have hnames : driverNames Firmware.networkBlocks = [Platform.ethernetDevice] := by decide
    intro value hvalue
    rw [hnames] at hvalue
    rw [List.mem_singleton.1 hvalue]
    exact ⟨Hardware.ethernetBlock, by simp, by decide +kernel⟩
  cases m with
  | ethernet options pos => exact hnetwork
  | ethernetLite options pos => exact hnetwork
  | _ => exact nofun

/-- A call inside the walk adds drivers only for blocks that it adds to the
system, too, once the system has accepted its device. -/
theorem call_refers {o : Hardware.Options} {b : Board} {project : Result}
    (h : (Backend.hardware o).run b = .ok project) {call : Call} (hcall : call ∈ b.inside)
    (hmedium : call.part ≠ .medium) :
    ∀ value ∈ driverNames (Firmware.supportBlocks call),
      Refers (Hardware.callBlocks call) value := by
  obtain ⟨hinputs, houtputs⟩ := Hardware.run_devices h
  cases call with
  | medium m => exact absurd rfl hmedium
  | axis a => exact streams_refer a.settings a.streams
  | input g id =>
    obtain ⟨d, hd, hinput⟩ := hinputs g id hcall
    have hsupport :
        driverNames (Firmware.inputSupport g) ⊆ driverNames [Firmware.deviceDriver d] := by
      simp only [Firmware.inputSupport, hd]
      split
      · exact List.Subset.refl _
      · exact List.nil_subset _
    have hblocks : Hardware.deviceBlocks g true = [d.block] := by
      simp [Hardware.deviceBlocks, hd, hinput]
    intro value hvalue
    show Refers (Hardware.deviceBlocks g true) value
    rw [hblocks]
    exact device_refers (List.mem_of_find?_eq_some hd) value (hsupport hvalue)
  | output g id =>
    obtain ⟨d, hd, hinput⟩ := houtputs g id hcall
    have hsupport : Firmware.outputSupport g = [Firmware.deviceDriver d] := by
      simp [Firmware.outputSupport, hd]
    have hblocks : Hardware.deviceBlocks g false = [d.block] := by
      simp [Hardware.deviceBlocks, hd, hinput]
    show ∀ value ∈ driverNames (Firmware.outputSupport g),
      Refers (Hardware.deviceBlocks g false) value
    rw [hsupport, hblocks]
    exact device_refers (List.mem_of_find?_eq_some hd)
  | _ => exact nofun

/-- The hardware that is there whatever the medium is. -/
def baseHardware : List String := [
  Platform.dataController, Platform.instructionController, Platform.debugModule, Platform.timer,
  Platform.memory, Platform.uart]

theorem mediumBlocks_names (m : Medium) :
    baseHardware <+: (Hardware.mediumBlocks m).map Block.instanceName := by
  cases m with
  | ethernet options pos => exact ⟨[Platform.ethernetLite], rfl⟩
  | ethernetLite options pos => exact ⟨[Platform.ethernetLite], rfl⟩
  | _ => exact ⟨[], rfl⟩

/-- The drivers that every package has are for the processor, for the interrupt
controller and for the base system. -/
theorem base_refers (m : Medium) (lines : List Line) (nets : List Value) :
    ∀ value ∈ driverNames Firmware.baseSupport.blocks,
      Refers (Hardware.mediumBlocks m ++
        [Hardware.processor.add lines, Hardware.interruptController nets]) value := by
  have hcases : ∀ value ∈ driverNames Firmware.baseSupport.blocks,
      value = Platform.processor ∨ value = Platform.interruptController ∨
        ∃ inst ∈ baseHardware, value = Text.lower inst := by
    decide +kernel
  have hlower : Text.lower Platform.processor = Platform.processor ∧
      Text.lower Platform.interruptController = Platform.interruptController := by
    decide +kernel
  intro value hvalue
  rcases hcases value hvalue with rfl | rfl | ⟨inst, hinst, rfl⟩
  · refine ⟨Hardware.processor.add lines, by simp, ?_⟩
    rw [Block.instanceName_add (by decide)]
    exact hlower.1.symm
  · exact ⟨Hardware.interruptController nets, by simp, hlower.2.symm⟩
  · obtain ⟨block, hblock, rfl⟩ := List.mem_map.1 ((mediumBlocks_names m).subset hinst)
    exact ⟨block, List.mem_append_left _ hblock, rfl⟩

/-! ## The package and the system -/

/-- No block in front of the processor is of its kind. -/
theorem front_names (b : Board) :
    ∀ block ∈ Hardware.mediumBlocks b.medium ++ b.inside.flatMap Hardware.callBlocks,
      block.name ≠ "microblaze" :=
  Hardware.front_name_ne "microblaze" (by decide) b

/-- The package refers to hardware that exists.  Its generic drivers are for the
queues and width adapters in front of the processor, all of them and in the same
order; and whatever hardware it names is a block of the system, in lower case. -/
theorem support_refers_to_hardware (b : Board) (firmwareOptions : Firmware.Options)
    (hardwareOptions : Hardware.Options) {server project : Result}
    (hserver : (Backend.firmware firmwareOptions).run b = .ok server)
    (hproject : (Backend.hardware hardwareOptions).run b = .ok project) :
    ∃ package system, server.findDescriptor? "system.mss" = some package ∧
      project.findDescriptor? "system.mhs" = some system ∧
      (∃ front processor back, system.descriptor.blocks = front ++ processor :: back ∧
        processor.name = "microblaze" ∧ (∀ block ∈ front, block.name ≠ "microblaze") ∧
        genericNames package.descriptor.blocks = adapterNames front) ∧
      ∀ value ∈ assigned "HW_INSTANCE" package.descriptor.allLines,
        ∃ block ∈ system.descriptor.blocks, value = Text.lower block.instanceName := by
  obtain ⟨package, hpackage, hsupport⟩ := Firmware.run_support hserver
  obtain ⟨system, lines, nets, instances, hsystem, hblocks⟩ := Hardware.run_blocks hproject
  refine ⟨package, system, hpackage, hsystem, ⟨_, _, _, hblocks, rfl, front_names b, ?_⟩, ?_⟩
  · -- Both lists are made up call by call; the fixed parts have no adapters.
    have hbase : genericNames Firmware.baseSupport.blocks = [] := by decide
    have hmedium : adapterNames (Hardware.mediumBlocks b.medium) = [] := by
      cases b.medium <;> rfl
    rw [hsupport, addBlocks, genericNames_append, genericNames_flatMap, hbase, adapterNames_append,
      adapterNames_flatMap, hmedium]
    simp only [genericNames_call]
  · intro value hvalue
    have hheader : assigned "HW_INSTANCE" Firmware.baseSupport.header = [] := by decide
    rw [hsupport, assigned_allLines, addBlocks, hheader, List.nil_append, driverNames_append,
      driverNames_flatMap] at hvalue
    show Refers system.descriptor.blocks value
    rw [hblocks]
    rcases List.mem_append.1 hvalue with hvalue | hvalue
    · refine (base_refers b.medium lines nets value hvalue).mono fun block hblock => ?_
      simp only [List.mem_append, List.mem_cons, List.not_mem_nil, or_false] at hblock ⊢
      tauto
    · obtain ⟨call, hcall, hvalue⟩ := List.mem_flatMap.1 hvalue
      obtain ⟨calls, hinside, hcalls⟩ := b.inside_medium
      rw [hinside] at hcall
      rcases List.mem_cons.1 hcall with rfl | hcall
      · refine (medium_refers b.medium value hvalue).mono fun block hblock => ?_
        exact List.mem_append_left _ (List.mem_append_left _ hblock)
      · have hmem : call ∈ b.inside := hinside ▸ List.mem_cons_of_mem _ hcall
        refine (call_refers hproject hmem (hcalls call hcall).2 value hvalue).mono ?_
        intro block hblock
        refine List.mem_append_left _ (List.mem_append_right _ ?_)
        exact List.mem_flatMap.2 ⟨call, hmem, hblock⟩

/-- A board on the network with devices both ways, whose streams need queues and
other widths. -/
def adaptedBoard : Board where
  medium := .ethernetLite [] {}
  gpios := [{ name := "buttons", direction := .input }, { name := "leds", direction := .output }]
  cores := [{ name := "mixer", ports := [
    { name := "io", direction := .dual },
    { name := "level", direction := .input }] }]
  instances := [{ name := "stage", core := "mixer", bindings := [
    .cpu { port := "io", options := [.hwQueue 4, .bitWidth 16] },
    .cpu { port := "level", options := [.hwQueue 2] }] }]

theorem support_refers_to_hardware_adapted :
    ∃ server project package system, (Backend.firmware {}).run adaptedBoard = .ok server ∧
      (Backend.hardware {}).run adaptedBoard = .ok project ∧
      server.findDescriptor? "system.mss" = some package ∧
      project.findDescriptor? "system.mhs" = some system ∧
      genericNames package.descriptor.blocks =
        ["m0_queue", "m0_mux", "s0_queue", "s0_mux", "m1_queue"] ∧
      ∃ block ∈ system.descriptor.blocks,
        "push_buttons_5bits" = Text.lower block.instanceName := by
  have hserver : ∃ server, (Backend.firmware {}).run adaptedBoard = .ok server := ⟨_, rfl⟩
  have hproject : ∃ project, (Backend.hardware {}).run adaptedBoard = .ok project := ⟨_, rfl⟩
  obtain ⟨server, hserver⟩ := hserver
  obtain ⟨project, hproject⟩ := hproject
  obtain ⟨package, system, hpackage, hsystem, -, hrefers⟩ :=
    support_refers_to_hardware adaptedBoard {} {} hserver hproject
  refine ⟨server, project, package, system, hserver, hproject, hpackage, hsystem, ?_, ?_⟩
  · obtain rfl := Except.ok.inj hserver
    obtain rfl := Option.some.inj hpackage
    decide
  · refine hrefers _ ?_
    obtain rfl := Except.ok.inj hserver
    obtain rfl := Option.some.inj hpackage
    decide

end Boardwright
