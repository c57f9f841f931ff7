import Boardwright.Hardware
import Boardwright.Proofs.Affix
import Boardwright.Proofs.Run

/-!
# The streams of the processor

The processor has one bus interface for every stream.  `Grows` says what a call
does to the processor and to the rest of the system: it adds lines to the one
and never another processor to the other.  `visit_grows` is the step,
`lastState_grows` the whole run, and `follows_grants` reads the interfaces off
the finished descriptor.
-/

namespace Boardwright

namespace Descriptor

/-- The names of the bus interfaces of a block. -/
def Block.interfaces (b : Block) : List String :=
  b.lines.flatMap fun l => if l.kind = .busInterface then l.assignments.map (·.name) else []

theorem Block.interfaces_add (b : Block) (lines : List Line) :
    (b.add lines).interfaces = b.interfaces ++ Block.interfaces { name := "", lines } :=
  List.flatMap_append

theorem Block.add_add (b : Block) (lines lines' : List Line) :
    (b.add lines).add lines' = b.add (lines ++ lines') := by
  simp [Block.add]

theorem Block.lookup?_add (b : Block) (lines : List Line) (kind : Kind) (name : String) :
    (b.add lines).lookup? kind name =
      (b.lookup? kind name).or (Block.lookup? { name := "", lines } kind name) :=
  List.findSome?_append

/-- A block that is known by a name keeps it when lines are added. -/
theorem Block.instanceName_add {b : Block} (h : b.instanceName ≠ "") (lines : List Line) :
    (b.add lines).instanceName = b.instanceName := by
  unfold instanceName at h ⊢
  rw [lookup?_add]
  cases hfound : b.lookup? .parameter "INSTANCE" with
  | none =>
    rw [hfound] at h
    exact absurd rfl h
  | some value => rfl

/-- No block of the descriptor is the one of `inst`. -/
def Lacks (d : Descriptor) (inst : String) : Prop := ∀ block ∈ d.blocks, block.instanceName ≠ inst

instance (d : Descriptor) (inst : String) : Decidable (d.Lacks inst) :=
  inferInstanceAs (Decidable (∀ block ∈ d.blocks, block.instanceName ≠ inst))

theorem Lacks.replace {d : Descriptor} {inst : String} (h : d.Lacks inst) {block : Block}
    (hblock : block.instanceName ≠ inst) (index : Nat) : (d.replace index block).Lacks inst := by
  intro block' hmem
  rcases List.mem_or_eq_of_mem_set hmem with hmem | rfl
  · exact h block' hmem
  · exact hblock

/-- The first block of an instance, when the blocks in front are of others. -/
theorem find?_addBlocks {d : Descriptor} {inst : String} (h : d.Lacks inst) {block : Block}
    (hblock : block.instanceName = inst) (rest : List Block) :
    (d.addBlocks (block :: rest)).find? inst = some (block, d.blocks.length) := by
  unfold find? addBlocks
  rw [List.zipIdx_append, List.find?_append, List.find?_eq_none.2, Option.none_or,
    List.zipIdx_cons, List.find?_cons_of_pos (by simp [hblock])]
  · simp
  · intro entry hentry
    have hmem := List.fst_mem_of_mem_zipIdx hentry
    simp [h entry.1 hmem]

end Descriptor

namespace Hardware

open Descriptor (Line Block)

/-! ## What a call adds to the processor -/

/-- The line that connects the processor to a stream. -/
def streamLine (side group : String) (id : UInt8) : Line :=
  .bus (side ++ idText id ++ "_AXIS") (.ident (group ++ idText id))

/-- The lines for the streams of a CPU binding. -/
def streamLines (s : Streams) : List Line :=
  s.master.toList.map (streamLine "M" "m") ++ s.slave.toList.map (streamLine "S" "s")

/-- The lines that a call adds to the processor. -/
def processorLines : Call → List Line := Call.streamLog fun _ s => streamLines s

/-- The processor got some lines, and the rest of the system no processor. -/
structure Grows (lines : List Line) (s s' : State) : Prop where
  processor : s'.processor = s.processor.add lines
  system : s.system.Lacks Platform.processor → s'.system.Lacks Platform.processor
  produced : s'.produced = s.produced

namespace Grows

variable {lines lines' : List Line} {s s' s'' : State}

/-- Nothing happens to the processor and the system. -/
theorem aside (hprocessor : s'.processor = s.processor) (hsystem : s'.system = s.system)
    (hproduced : s'.produced = s.produced) : Grows [] s s' where
  processor := by simp [hprocessor, Block.add]
  system hs := by rwa [hsystem]
  produced := hproduced

theorem refl (s : State) : Grows [] s s := .aside rfl rfl rfl

/-- The system gets a block, which is not another processor. -/
theorem block {block : Block} (hblock : block.instanceName ≠ Platform.processor)
    (hprocessor : s'.processor = s.processor)
    (hblocks : s'.system.blocks = s.system.blocks ++ [block])
    (hproduced : s'.produced = s.produced) : Grows [] s s' where
  processor := by simp [hprocessor, Block.add]
  system hs := by
    intro block' hmem
    rw [hblocks] at hmem
    rcases List.mem_append.1 hmem with hold | hnew
    · exact hs block' hold
    · rw [List.mem_singleton.1 hnew]
      exact hblock
  produced := hproduced

theorem trans (h : Grows lines s s') (h' : Grows lines' s' s'') :
    Grows (lines ++ lines') s s'' where
  processor := by
    rw [h'.processor, h.processor, Block.add_add]
  system hs := h'.system (h.system hs)
  produced := h'.produced.trans h.produced

end Grows

/-! ## Instances and adapters -/

theorem addInstance_frame (inst core : String) (s : State) :
    ∃ instances, addInstance inst core s = { s with instances } := by
  unfold addInstance
  split
  · exact ⟨s.instances, rfl⟩
  · exact ⟨_, rfl⟩

/-- Attaching an interface changes the blocks of instances only. -/
theorem attach_frame (inst : Instance) (interface net : String) (s : State) :
    ∃ instances, attach inst interface net s = { s with instances } := by
  obtain ⟨instances, hinst⟩ := addInstance_frame inst.name inst.core s
  simp only [attach, hinst]
  split
  · exact ⟨instances, rfl⟩
  · exact ⟨_, rfl⟩

theorem addInstance_grows (inst core : String) (s : State) :
    Grows [] s (addInstance inst core s) := by
  obtain ⟨instances, heq⟩ := addInstance_frame inst core s
  rw [heq]
  exact .aside rfl rfl rfl

theorem attach_grows (inst : Instance) (interface net : String) (s : State) :
    Grows [] s (attach inst interface net s) := by
  obtain ⟨instances, heq⟩ := attach_frame inst interface net s
  rw [heq]
  exact .aside rfl rfl rfl

/-- The instance names of adapters end in a word of their own. -/
theorem adapter_name {group last : String}
    (hlast : last.toList.getLast? ≠ Platform.processor.toList.getLast?) (hne : last.toList ≠ []) :
    group ++ last ≠ Platform.processor := by
  intro heq
  apply hlast
  rw [← heq, String.toList_append, List.getLast?_append_of_ne_nil _ hne]

theorem addQueue_grows (o : Options) (group : String) (depth : Int64) (source target : String)
    (s : State) : Grows [] s (addQueue o (group ++ "_queue") depth source target s) :=
  .block (adapter_name (by decide) (by decide)) rfl rfl rfl

theorem addResizer_grows (o : Options) (group : String) (inWidth outWidth : Int64)
    (source target : String) (s : State) :
    Grows [] s (addResizer o (group ++ "_mux") inWidth outWidth source target s) :=
  .block (adapter_name (by decide) (by decide)) rfl rfl rfl

theorem writeChain_grows (o : Options) (group : String) (set : PortSettings) (s : State) :
    Grows [] s (writeChain o group set s).2 := by
  simp only [writeChain]
  split
  · split
    · exact (addQueue_grows o group ..).trans (addResizer_grows o group ..)
    · exact addResizer_grows o group ..
  · split
    · exact addQueue_grows o group ..
    · exact .refl s

theorem readChain_grows (o : Options) (group : String) (set : PortSettings) (s : State) :
    Grows [] s (readChain o group set s).2 := by
  simp only [readChain]
  split
  · split
    · exact (addQueue_grows o group ..).trans (addResizer_grows o group ..)
    · exact addResizer_grows o group ..
  · split
    · exact addQueue_grows o group ..
    · exact .refl s

/-! ## Calls -/

theorem connect_grows (interface net : String) (s : State) :
    Grows [.bus interface (.ident net)] s (connect interface net s) := ⟨rfl, id, rfl⟩

theorem addMaster_grows (o : Options) (a : Axis) (id : UInt8) (s : State) :
    Grows [streamLine "M" "m" id] s (addMaster o a id s) :=
  ((connect_grows ..).trans (writeChain_grows ..)).trans (attach_grows ..)

theorem addSlave_grows (o : Options) (a : Axis) (id : UInt8) (s : State) :
    Grows [streamLine "S" "s" id] s (addSlave o a id s) :=
  ((connect_grows ..).trans (readChain_grows ..)).trans (attach_grows ..)

theorem addAxis_grows (o : Options) (a : Axis) (s : State) :
    Grows (streamLines a.streams) s (addAxis o a s) := by
  unfold addAxis streamLines
  cases a.streams.master with
  | none =>
    cases a.streams.slave with
    | none => exact .refl s
    | some slave => exact addSlave_grows o a slave s
  | some master =>
    have hmaster := addMaster_grows o a master s
    cases a.streams.slave with
    | none => exact hmaster
    | some slave => exact hmaster.trans (addSlave_grows o a slave _)

theorem addLink_grows (l : Link) (s : State) : Grows [] s (addLink l s) := by
  simp only [addLink]
  exact (attach_grows ..).trans (attach_grows ..)

theorem addGpio_grows (g : Gpio) (input : Bool) (s : State) :
    Grows [] s (addGpio g input s).state := by
  have hdevices : ∀ d ∈ Catalog.devices, d.block.instanceName ≠ Platform.processor := by decide
  unfold addGpio
  split
  · exact .refl s
  · rename_i d hd
    split
    · exact .block (hdevices d (List.mem_of_find?_eq_some hd)) rfl rfl rfl
    · exact .refl s

theorem addUart_grows (s : State) : Grows [] s (addUart s).state := by
  unfold addUart
  split
  · exact .refl s
  · rename_i block index hfound
    -- The block that gets another line is the UART's, and stays so.
    have hname : block.instanceName = Platform.uart := by
      simpa using List.find?_some hfound
    have huart : Platform.uart ≠ "" ∧ Platform.uart ≠ Platform.processor := by decide
    refine ⟨by simp [Block.add], fun hs => hs.replace ?_ index, rfl⟩
    rw [Block.instanceName_add (by rw [hname]; exact huart.1), hname]
    exact huart.2

theorem addMedium_grows (m : Medium) (s : State) : Grows [] s (addMedium m s).state := by
  have hblock : ethernetBlock.instanceName ≠ Platform.processor := by decide
  have hethernet : Grows [] s (addEthernet s) := .block hblock rfl rfl rfl
  cases m with
  | none => exact .refl s
  | uart pos => exact addUart_grows s
  | ethernet options pos => exact hethernet
  | ethernetLite options pos => exact hethernet
  | pcie pos => exact .refl s

/-- What a call inside the walk does to the processor. -/
theorem visit_grows (o : Options) (b : Board) (c : Counters) {call : Call} (hstart : call ≠ .start)
    (hfinish : call ≠ .finish) (s : State) :
    Grows (processorLines call) s (visit o b c call s).state := by
  cases call with
  | start => exact absurd rfl hstart
  | medium m => exact addMedium_grows m s
  | input g id => exact addGpio_grows g true s
  | output g id => exact addGpio_grows g false s
  | bidirectional g inputId outputId => exact .refl s
  | defaultScheduler scheduler => exact .refl s
  | userScheduler scheduler lines => exact .refl s
  | core core => exact .aside rfl rfl rfl
  | enter site => exact addInstance_grows site.inst.name site.core.name s
  | axis a => exact addAxis_grows o a s
  | link l => exact addLink_grows l s
  | leave site => exact .refl s
  | finish => exact absurd rfl hfinish

theorem visitor_countsLast (o : Options) : (visitor o).CountsLast := by
  intro b c call s hcall
  cases call with
  | finish => exact absurd rfl hcall
  | _ => rfl

/-- The project before the last call, seen from the base system. -/
theorem lastState_grows (o : Options) (b : Board) :
    Grows (b.inside.flatMap processorLines) (begin {}) ((Backend.hardware o).lastState b) :=
  Visitor.advance_grows Grows.refl Grows.trans
    (fun call hcall s =>
      visit_grows o b {} (b.inside_proper call hcall).1 (b.inside_proper call hcall).2 s)
    (begin {})

/-! ## The finished system -/

/-- The name is one of a stream interface: a letter, an identifier and the name
of the protocol. -/
def isStream (side name : String) : Bool := Text.begins side name && Text.ends "_AXIS" name

theorem isStream_self (side : String) (id : UInt8) :
    isStream side (side ++ idText id ++ "_AXIS") = true := by
  unfold isStream
  rw [Text.ends_append_self, String.append_assoc, Text.begins_self_append]
  rfl

theorem isStream_other {side other : String}
    (h : side.toList.take other.toList.length ≠ other.toList.take side.toList.length) (id : UInt8) :
    isStream side (other ++ idText id ++ "_AXIS") = false := by
  unfold isStream
  rw [String.append_assoc, Text.not_begins_append h]
  rfl

/-- The project connects the processor as assigned: it has the interfaces of the
host-write and of the host-read streams, each in order. -/
def Follows (grants : List (List Grant)) (project : Result) : Prop :=
  ∃ file block index, project.findDescriptor? "system.mhs" = some file ∧
    file.descriptor.find? "microblaze_0" = some (block, index) ∧
    block.interfaces.filter (isStream "M") =
      (streamsOn Streams.master grants.flatten).map
        (fun (_, id) => "M" ++ toString id.toNat ++ "_AXIS") ∧
    block.interfaces.filter (isStream "S") =
      (streamsOn Streams.slave grants.flatten).map
        (fun (_, id) => "S" ++ toString id.toNat ++ "_AXIS")

/-- The interfaces for the streams of a CPU binding. -/
def streamNames (s : Streams) : List String :=
  s.master.toList.map ("M" ++ idText · ++ "_AXIS") ++
    s.slave.toList.map ("S" ++ idText · ++ "_AXIS")

/-- The interfaces of the processor when all calls were made. -/
theorem interfaces_processor (b : Board) :
    (processor.add (b.inside.flatMap processorLines)).interfaces =
      processor.interfaces ++ b.grants.flatten.flatMap fun (_, s) => streamNames s := by
  have hlines : ∀ s, Block.interfaces { name := "", lines := streamLines s } = streamNames s := by
    rintro ⟨_ | master, _ | slave⟩ <;> rfl
  have hgrants : b.inside.flatMap processorLines =
      b.grants.flatten.flatMap fun (_, s) => streamLines s := b.flatMap_streamLog fun _ => rfl
  rw [Block.interfaces_add, hgrants]
  unfold Block.interfaces at hlines ⊢
  rw [List.flatMap_assoc]
  simp only [hlines]

/-- The two letters tell the streams of a CPU binding apart. -/
theorem filter_streamNames (s : Streams) :
    (streamNames s).filter (isStream "M") = s.master.toList.map ("M" ++ idText · ++ "_AXIS") ∧
      (streamNames s).filter (isStream "S") = s.slave.toList.map ("S" ++ idText · ++ "_AXIS") := by
  have hM : ∀ id, isStream "M" ("S" ++ idText id ++ "_AXIS") = false := isStream_other (by decide)
  have hS : ∀ id, isStream "S" ("M" ++ idText id ++ "_AXIS") = false := isStream_other (by decide)
  rcases s with ⟨_ | master, _ | slave⟩ <;> simp [streamNames, isStream_self, hM, hS]

theorem finish_follows {o : Options} {b : Board} {c : Counters} {s : State}
    (hgrows : Grows (b.inside.flatMap processorLines) (begin {}) s) :
    Follows b.grants (finish o b c s).produced := by
  have hproduced : s.produced = { backend := name } := hgrows.produced
  have hsystem : s.system.Lacks Platform.processor :=
    hgrows.system (show baseSystem.Lacks Platform.processor by decide)
  have hprocessor : s.processor = processor.add (b.inside.flatMap processorLines) :=
    hgrows.processor
  have hinterfaces : (finish o b c s).processor.interfaces =
      processor.interfaces ++ b.grants.flatten.flatMap fun (_, s) => streamNames s := by
    simp only [finish]
    rw [Block.interfaces_add, hprocessor, interfaces_processor]
    exact List.append_nil _
  have hname : (finish o b c s).processor.instanceName = Platform.processor := by
    simp only [finish]
    rw [hprocessor, Block.add_add, Block.instanceName_add (by decide)]
    rfl
  refine ⟨{ name := "system.mhs", dir := o.dir, descriptor := (finish o b c s).system },
    (finish o b c s).processor, s.system.blocks.length, ?_, ?_, ?_, ?_⟩
  · simp [finish, hproduced, Result.findDescriptor?]
  · exact Descriptor.find?_addBlocks hsystem hname _
  · rw [hinterfaces, List.filter_append, List.filter_flatMap]
    simp only [(filter_streamNames _).1]
    exact map_streamsOn Streams.master (fun _ id => "M" ++ idText id ++ "_AXIS") b.grants.flatten
  · rw [hinterfaces, List.filter_append, List.filter_flatMap]
    simp only [(filter_streamNames _).2]
    exact map_streamsOn Streams.slave (fun _ id => "S" ++ idText id ++ "_AXIS") b.grants.flatten

theorem follows_grants {o : Options} {b : Board} {r : Result}
    (h : (Backend.hardware o).run b = .ok r) : Follows b.grants r := by
  obtain ⟨-, -, -, rfl⟩ := Backend.run_ok (visitor_countsLast o) h
  exact finish_follows (lastState_grows o b)

end Hardware

end Boardwright
