import Boardwright.Proofs.HardwareBlocks
import Boardwright.Proofs.Lookup

/-!
# How instances are wired

The block of an instance has one bus interface for each of its ports that is
connected.  Bindings ask for connections in the order of the walk, and the first
one to ask for an interface gets it.

* `Board.connections` is everything that is asked for, read off the calls of the
  walk, and `Board.firstNet?` the net that is asked for first.
* `Wires` is what a call does to the blocks of instances: interfaces that are
  attached stay so, and others get the first net that the call has for them.
  `visit_wires` is the step and `lastState_wires` the run.
* `run_wiring` finds the blocks of the instances at the end of the system and
  says that each interface is on its first net.

`bindings_realised_iff_first_come` draws the conclusion: a system connects every
binding as its call says if and only if each of them comes first.
-/

namespace Boardwright

namespace Descriptor

/-- The net that a bus interface of a block is attached to. -/
def Block.net? (b : Block) (interface : String) : Option String :=
  (b.lookup? .busInterface interface).map Value.text

theorem Block.net?_add_bus (b : Block) (interface net name : String) :
    (b.add [.bus interface (.ident net)]).net? name =
      (b.net? name).or (if name = interface then some net else none) := by
  have hline : Block.lookup? { name := "", lines := [.bus interface (.ident net)] } .busInterface
      name = if name = interface then some (.ident net) else none := by
    by_cases hname : name = interface
    · simp [lookup?, Line.bus, hname]
    · simp [lookup?, Line.bus, hname, Ne.symm hname]
  unfold net?
  rw [lookup?_add, Option.map_or, hline]
  split <;> rfl

/-- An interface that is not attached is not named. -/
theorem Block.not_mem_interfaces {b : Block} {name : String}
    (h : b.lookup? .busInterface name = none) : name ∉ b.interfaces := by
  intro hmem
  obtain ⟨line, hline, hname⟩ := List.mem_flatMap.1 hmem
  have hnone := List.findSome?_eq_none_iff.1 h line hline
  by_cases hkind : line.kind = .busInterface
  · rw [if_pos hkind, Option.map_eq_none_iff, List.find?_eq_none] at hnone
    rw [if_pos hkind] at hname
    obtain ⟨assignment, hassignment, rfl⟩ := List.mem_map.1 hname
    exact hnone assignment hassignment (by simp)
  · rw [if_neg hkind] at hname
    cases hname

end Descriptor

namespace Hardware

open Descriptor (Line Block Value)

/-! ## What is asked for -/

/-- A bus interface of an instance, by the names of both. -/
abbrev Interface := String × String

/-- What an interface is to be attached to. -/
structure Connection where
  net : String
  /-- The port that a link is named after; none for a stream. -/
  sender : Option Interface := none
  deriving DecidableEq, Repr

/-- The net of a stream on the side of the core, behind all its adapters. -/
def chainEnd (group : String) (set : PortSettings) : String :=
  if set.bitWidth != PortSettings.defaultBitWidth then group ++ "_mux"
  else if 0 < set.hwQueue then group ++ "_queue"
  else group

/-- The net that is named after a port. -/
def portNet (port : Interface) : String := port.1 ++ "_" ++ port.2

/-- The end of a link that sends. -/
def sender (l : Link) : Interface :=
  if receives l then (l.peer.name, l.peerPort.name) else (l.inst.name, l.port.name)

/-- The end of a link that receives. -/
def receiver (l : Link) : Interface :=
  if receives l then (l.inst.name, l.port.name) else (l.peer.name, l.peerPort.name)

def linkConnection (l : Link) : Connection :=
  { net := portNet (sender l), sender := some (sender l) }

/-- What the streams of a CPU binding ask for: the one to the core, then the one
from the core. -/
def streamConnections (a : Axis) : List (Interface × Connection) :=
  a.streams.master.toList.map (fun id =>
    ((a.inst.name, receivingInterface a.port),
      { net := chainEnd ("m" ++ idText id) a.settings })) ++
  a.streams.slave.toList.map fun id =>
    ((a.inst.name, sendingInterface a.port), { net := chainEnd ("s" ++ idText id) a.settings })

/-- What a call asks for, in order. -/
def callConnections : Call → List (Interface × Connection)
  | .axis a => streamConnections a
  | .link l => [(sender l, linkConnection l), (receiver l, linkConnection l)]
  | _ => []

/-- The instances that a call enters. -/
def callInstances : Call → List String
  | .enter site => [site.inst.name]
  | _ => []

end Hardware

namespace Board

open Hardware (Interface Connection)

/-- Everything that the bindings of a board ask for, in the order of the walk. -/
def connections (b : Board) : List (Interface × Connection) :=
  b.traversal.flatMap Hardware.callConnections

/-- The net that is asked for first, for an interface of an instance. -/
def firstNet? (b : Board) (inst : Instance) (interface : String) : Option String :=
  (b.connections.lookup (inst.name, interface)).map Connection.net

/-- No interface is asked for on two nets. -/
def Agreeing (b : Board) : Prop :=
  ∀ x ∈ b.connections, ∀ y ∈ b.connections, x.1 = y.1 → x.2.net = y.2.net

instance (b : Board) : Decidable b.Agreeing :=
  inferInstanceAs
    (Decidable (∀ x ∈ b.connections, ∀ y ∈ b.connections, x.1 = y.1 → x.2.net = y.2.net))

/-! ## The bindings behind the calls -/

section Calls

variable {b : Board} {front : List Place} {p : Place}

theorem place_of_call {call : Call} (hcall : call ∈ b.traversal)
    (hconnection : call.isConnection = true) :
    ∃ front p back, b.places = front ++ p :: back ∧ call ∈ b.bindingCalls front p := by
  have hmem := List.mem_filter.2 ⟨hcall, hconnection⟩
  rw [connections_traversal] at hmem
  exact mem_eachAfter.1 hmem

theorem axis_of_binding {a : Axis} (h : .axis a ∈ b.bindingCalls front p) :
    p = ⟨a.inst, .cpu a.binding⟩ ∧ b.port? p = some a.port ∧
      a.streams = b.streamsAfter front p := by
  obtain ⟨inst, binding⟩ := p
  unfold bindingCalls at h
  cases hport : b.port? ⟨inst, binding⟩ with
  | none =>
    rw [hport] at h
    cases h
  | some port =>
    rw [hport] at h
    cases binding with
    | cpu c =>
      simp only [axisCalls] at h
      split at h
      · cases h
      · obtain rfl := Call.axis.inj (List.mem_singleton.1 h)
        exact ⟨rfl, rfl, rfl⟩
    | link l =>
      simp only [linkCalls] at h
      split at h
      · cases h
      · split at h
        · cases h
        · cases List.mem_singleton.1 h

theorem link_of_binding {l : Link} (h : .link l ∈ b.bindingCalls front p) :
    p = ⟨l.inst, .link l.binding⟩ ∧ b.port? p = some l.port ∧
      b.findInstance? l.binding.peer = some l.peer ∧
      (b.findCore? l.peer.core).bind (·.findPort? l.binding.peerPort) = some l.peerPort := by
  obtain ⟨inst, binding⟩ := p
  unfold bindingCalls at h
  cases hport : b.port? ⟨inst, binding⟩ with
  | none =>
    rw [hport] at h
    cases h
  | some port =>
    rw [hport] at h
    cases binding with
    | cpu c =>
      simp only [axisCalls] at h
      split at h
      · cases h
      · cases List.mem_singleton.1 h
    | link binding =>
      simp only [linkCalls] at h
      split at h
      · cases h
      · rename_i peer hpeer
        split at h
        · cases h
        · rename_i peerPort hpeerPort
          obtain rfl := Call.link.inj (List.mem_singleton.1 h)
          exact ⟨rfl, rfl, hpeer, hpeerPort⟩

end Calls

theorem connections_inside (b : Board) :
    b.connections = b.inside.flatMap Hardware.callConnections := by
  unfold connections
  rw [traversal_eq]
  simp [Hardware.callConnections]

end Board

namespace Hardware

open Descriptor (Line Block Value)

/-! ## Blocks under their names -/

theorem lookup_putBlock (name other : String) (block : Block) (blocks : List (String × Block)) :
    (putBlock name block blocks).lookup other =
      if other = name then some block else blocks.lookup other := by
  induction blocks with
  | nil => exact lookup_cons_ite ..
  | cons entry blocks ih =>
    obtain ⟨key, old⟩ := entry
    simp only [putBlock]
    by_cases hkey : key = name
    · simp only [hkey, beq_self_eq_true, if_true, lookup_cons_ite]
      split <;> rfl
    · simp only [beq_iff_eq, hkey, if_false, lookup_cons_ite, ih]
      by_cases hother : other = key
      · rw [if_pos hother, if_neg fun heq => hkey (hother.symm.trans heq), if_pos hother]
      · rw [if_neg hother, if_neg hother]

theorem mem_putBlock {name : String} {block : Block} {blocks : List (String × Block)}
    {entry : String × Block} (h : entry ∈ putBlock name block blocks) :
    entry = (name, block) ∨ entry ∈ blocks := by
  induction blocks with
  | nil => exact .inl (List.mem_singleton.1 h)
  | cons old blocks ih =>
    simp only [putBlock] at h
    split at h
    · rcases List.mem_cons.1 h with rfl | hold
      · exact .inl rfl
      · exact .inr (List.mem_cons_of_mem _ hold)
    · rcases List.mem_cons.1 h with rfl | hold
      · exact .inr List.mem_cons_self
      · exact (ih hold).imp_right (List.mem_cons_of_mem _)

/-- The net of an interface in a project under construction. -/
def State.net? (s : State) (t : Interface) : Option String :=
  (s.instances.lookup t.1).bind (·.net? t.2)

/-- A block is known by its name and has each interface once. -/
structure Tidy (name : String) (block : Block) : Prop where
  inst : block.lookup? .parameter "INSTANCE" = some (.ident name)
  interfaces : block.interfaces.Nodup

theorem Tidy.instanceName {name : String} {block : Block} (h : Tidy name block) :
    block.instanceName = name := by
  unfold Block.instanceName
  rw [h.inst]
  rfl

theorem freshBlock_tidy (inst core : String) : Tidy inst (freshBlock inst core) :=
  ⟨rfl, List.nodup_nil⟩

theorem Tidy.attach {name interface : String} {block : Block} (h : Tidy name block)
    (hnone : block.lookup? .busInterface interface = none) (net : String) :
    Tidy name (block.add [.bus interface (.ident net)]) where
  inst := by rw [Block.lookup?_add, h.inst, Option.some_or]
  interfaces := by
    rw [Block.interfaces_add]
    refine List.nodup_append.2
      ⟨h.interfaces, List.nodup_cons.2 ⟨List.not_mem_nil, List.nodup_nil⟩, ?_⟩
    intro old hold new hnew heq
    rw [heq, List.mem_singleton.1 hnew] at hold
    exact Block.not_mem_interfaces hnone hold

/-! ## What a call does to the blocks of instances -/

/-- The instances in `names` have blocks, and interfaces that were free got what
`asked` has for them first. -/
structure Attaches (names : List String) (asked : List (Interface × Connection)) (s s' : State) :
    Prop where
  nets : ∀ t, s'.net? t = (s.net? t).or ((asked.lookup t).map Connection.net)
  present : ∀ name, (s.instances.lookup name).isSome ∨ name ∈ names →
    (s'.instances.lookup name).isSome
  tidy : (∀ entry ∈ s.instances, Tidy entry.1 entry.2) →
    ∀ entry ∈ s'.instances, Tidy entry.1 entry.2

namespace Attaches

variable {names names' : List String} {asked asked' : List (Interface × Connection)}
  {s s' s'' : State}

theorem aside (h : s'.instances = s.instances) : Attaches [] [] s s' where
  nets t := by
    unfold State.net?
    rw [h]
    exact Option.or_none.symm
  present name hname := by
    rw [h]
    exact hname.resolve_right List.not_mem_nil
  tidy hs := by rwa [h]

theorem trans (h : Attaches names asked s s') (h' : Attaches names' asked' s' s'') :
    Attaches (names ++ names') (asked ++ asked') s s'' where
  nets t := by
    rw [h'.nets, h.nets, List.lookup_append, Option.map_or, Option.or_assoc]
  present name hname := by
    refine h'.present name ?_
    rcases hname with hold | hname
    · exact .inl (h.present name (.inl hold))
    · rcases List.mem_append.1 hname with hname | hname
      · exact .inl (h.present name (.inr hname))
      · exact .inr hname
  tidy hs := h'.tidy (h.tidy hs)

/-- Which instances have got blocks is forgotten. -/
theorem forget (h : Attaches names asked s s') : Attaches [] asked s s' where
  nets := h.nets
  present name hname := h.present name (.inl (hname.resolve_right List.not_mem_nil))
  tidy := h.tidy

/-- With the first part of a call aside. -/
theorem after (h : s'.instances = s.instances) (h' : Attaches names asked s' s'') :
    Attaches names asked s s'' := by
  have := (aside h).trans h'
  rwa [List.nil_append, List.nil_append] at this

end Attaches

/-- An instance that has a block keeps it. -/
theorem addInstance_of_block {inst : String} {s : State} {block : Block}
    (h : s.instances.lookup inst = some block) (core : String) : addInstance inst core s = s := by
  unfold addInstance
  rw [h, if_pos Option.isSome_some]

theorem blockOf_of_block {inst : String} {s : State} {block : Block}
    (h : s.instances.lookup inst = some block) (core : String) : blockOf inst core s = block := by
  unfold blockOf
  rw [h, Option.getD_some]

theorem addInstance_attaches (inst core : String) (s : State) :
    Attaches [inst] [] s (addInstance inst core s) := by
  cases hold : s.instances.lookup inst with
  | some block =>
    rw [addInstance_of_block hold]
    refine ⟨fun t => Option.or_none.symm, fun name hname => ?_, id⟩
    rcases hname with hname | hname
    · exact hname
    · rw [List.mem_singleton.1 hname, hold]
      rfl
  | none =>
    unfold addInstance
    rw [hold, if_neg (by simp)]
    refine ⟨fun t => ?_, fun name hname => ?_, fun hs entry hentry => ?_⟩
    · unfold State.net?
      simp only [lookup_putBlock]
      by_cases ht : t.1 = inst
      · rw [if_pos ht, ht, hold]
        rfl
      · rw [if_neg ht]
        exact Option.or_none.symm
    · simp only [lookup_putBlock]
      by_cases heq : name = inst
      · rw [if_pos heq]
        rfl
      · rw [if_neg heq]
        exact hname.resolve_right fun hmem => heq (List.mem_singleton.1 hmem)
    · rcases mem_putBlock hentry with rfl | hentry
      · exact freshBlock_tidy inst core
      · exact hs entry hentry

/-- Attaching an interface of an instance that has a block. -/
theorem attach_of_block {inst : Instance} {s : State} {block : Block}
    (hblock : s.instances.lookup inst.name = some block) (interface net : String)
    (sender : Option Interface) :
    Attaches [] [((inst.name, interface), { net, sender })] s (attach inst interface net s) := by
  simp only [attach, addInstance_of_block hblock, blockOf_of_block hblock]
  cases hused : block.lookup? .busInterface interface with
  | some value =>
    rw [if_pos Option.isSome_some]
    refine ⟨fun t => ?_, fun name hname => hname.resolve_right List.not_mem_nil, id⟩
    rw [lookup_cons_ite]
    by_cases ht : t = (inst.name, interface)
    · have hnet : s.net? t = some value.text := by
        simp [State.net?, ht, hblock, Block.net?, hused]
      rw [hnet, Option.some_or]
    · rw [if_neg ht]
      exact Option.or_none.symm
  | none =>
    rw [if_neg (by simp)]
    refine ⟨fun t => ?_, fun name hname => ?_, fun hs entry hentry => ?_⟩
    · obtain ⟨name, other⟩ := t
      simp only [State.net?, lookup_putBlock, lookup_cons_ite, Prod.mk.injEq, List.lookup_nil]
      by_cases hname : name = inst.name
      · simp only [hname, if_true, hblock, Option.bind_some, Block.net?_add_bus, true_and]
        split <;> rfl
      · simp [hname]
    · simp only [lookup_putBlock]
      split
      · rfl
      · exact hname.resolve_right List.not_mem_nil
    · rcases mem_putBlock hentry with rfl | hentry
      · exact (hs _ (mem_of_lookup hblock)).attach hused net
      · exact hs entry hentry

theorem attach_attaches (inst : Instance) (interface net : String) (sender : Option Interface)
    (s : State) :
    Attaches [] [((inst.name, interface), { net, sender })] s (attach inst interface net s) := by
  have hadd := addInstance_attaches inst.name inst.core s
  obtain ⟨block, hblock⟩ := Option.isSome_iff_exists.1 (hadd.present inst.name (.inr (by simp)))
  -- The first half of `attach` makes the block, and is idle once the block is there.
  have hagain : attach inst interface net (addInstance inst.name inst.core s) =
      attach inst interface net s := by
    simp only [attach, addInstance_of_block hblock]
  have h := hadd.trans (attach_of_block hblock interface net sender)
  rw [hagain] at h
  exact h.forget

theorem writeChain_end (o : Options) (group : String) (set : PortSettings) (s : State) :
    (writeChain o group set s).1 = chainEnd group set ∧
      (writeChain o group set s).2.instances = s.instances := by
  simp only [writeChain, chainEnd]
  split <;> split <;> exact ⟨rfl, rfl⟩

theorem readChain_end (o : Options) (group : String) (set : PortSettings) (s : State) :
    (readChain o group set s).1 = chainEnd group set ∧
      (readChain o group set s).2.instances = s.instances := by
  simp only [readChain, chainEnd]
  split <;> split <;> exact ⟨rfl, rfl⟩

theorem addMaster_attaches (o : Options) (a : Axis) (id : UInt8) (s : State) :
    Attaches [] [((a.inst.name, receivingInterface a.port),
      { net := chainEnd ("m" ++ idText id) a.settings })] s (addMaster o a id s) := by
  obtain ⟨hnet, hinstances⟩ := writeChain_end o ("m" ++ idText id) a.settings
    (connect ("M" ++ idText id ++ "_AXIS") ("m" ++ idText id) s)
  simp only [addMaster, hnet]
  exact .after hinstances (attach_attaches ..)

theorem addSlave_attaches (o : Options) (a : Axis) (id : UInt8) (s : State) :
    Attaches [] [((a.inst.name, sendingInterface a.port),
      { net := chainEnd ("s" ++ idText id) a.settings })] s (addSlave o a id s) := by
  obtain ⟨hnet, hinstances⟩ := readChain_end o ("s" ++ idText id) a.settings
    (connect ("S" ++ idText id ++ "_AXIS") ("s" ++ idText id) s)
  simp only [addSlave, hnet]
  exact .after hinstances (attach_attaches ..)

theorem addAxis_attaches (o : Options) (a : Axis) (s : State) :
    Attaches [] (streamConnections a) s (addAxis o a s) := by
  unfold addAxis streamConnections
  cases a.streams.master with
  | none =>
    cases a.streams.slave with
    | none => exact .aside rfl
    | some slave => exact addSlave_attaches o a slave s
  | some master =>
    have hmaster := addMaster_attaches o a master s
    cases a.streams.slave with
    | none => exact hmaster
    | some slave => exact hmaster.trans (addSlave_attaches o a slave _)

theorem addLink_attaches (l : Link) (s : State) :
    Attaches [] (callConnections (.link l)) s (addLink l s) := by
  simp only [addLink, callConnections, linkConnection, sender, receiver]
  cases receives l with
  | true => exact (attach_attaches l.peer ..).trans (attach_attaches l.inst ..)
  | false => exact (attach_attaches l.inst ..).trans (attach_attaches l.peer ..)

/-- What some calls do to the blocks of instances. -/
def Wires (calls : List Call) : State → State → Prop :=
  Attaches (calls.flatMap callInstances) (calls.flatMap callConnections)

theorem Wires.trans {calls calls' : List Call} {s s' s'' : State} (h : Wires calls s s')
    (h' : Wires calls' s' s'') : Wires (calls ++ calls') s s'' := by
  unfold Wires
  rw [List.flatMap_append, List.flatMap_append]
  exact Attaches.trans h h'

/-- A call that is not about instances. -/
theorem Wires.aside {call : Call} {s s' : State} (h : s'.instances = s.instances)
    (hi : callInstances call = []) (hc : callConnections call = []) : Wires [call] s s' := by
  unfold Wires
  rw [List.flatMap_singleton, List.flatMap_singleton, hi, hc]
  exact Attaches.aside h

theorem addMedium_instances (m : Medium) (s : State) :
    (addMedium m s).state.instances = s.instances := by
  cases m with
  | uart pos =>
    simp only [addMedium, addUart]
    split <;> rfl
  | _ => rfl

theorem addGpio_instances (g : Gpio) (input : Bool) (s : State) :
    (addGpio g input s).state.instances = s.instances := by
  unfold addGpio
  split
  · rfl
  · split <;> rfl

theorem visit_wires (o : Options) (b : Board) (c : Counters) (call : Call) (s : State) :
    Wires [call] s (visit o b c call s).state := by
  cases call with
  | medium m => exact .aside (addMedium_instances m s) rfl rfl
  | input g id => exact .aside (addGpio_instances g true s) rfl rfl
  | output g id => exact .aside (addGpio_instances g false s) rfl rfl
  | enter site => exact addInstance_attaches site.inst.name site.core.name s
  | axis a =>
    unfold Wires
    rw [List.flatMap_singleton, List.flatMap_singleton]
    exact addAxis_attaches o a s
  | link l => exact addLink_attaches l s
  | _ => exact .aside rfl rfl rfl

/-- The blocks of instances before the last call. -/
theorem lastState_wires (o : Options) (b : Board) :
    Wires (.start :: b.inside) {} ((Backend.hardware o).lastState b) := by
  rw [← List.flatMap_singleton' (.start :: b.inside)]
  exact Visitor.advance_grows (R := Wires) (fun s => Attaches.aside rfl) Wires.trans
    (fun call _ s => visit_wires o b {} call s) {}

/-! ## The finished system -/

theorem enter_mem_inside {b : Board} {inst : Instance} {core : Core} (hinst : inst ∈ b.instances)
    (hcore : b.findCore? inst.core = some core) :
    .enter { inst, core, host := inst.hasCpuBinding } ∈ b.inside := by
  obtain ⟨front, back, hsplit⟩ := List.append_of_mem hinst
  rw [Board.inside_eq]
  refine List.mem_append_right _ (mem_eachAfter.2 ⟨front, inst, back, hsplit, ?_⟩)
  rw [Board.instanceCalls_of_core front hcore]
  exact List.mem_cons_self

theorem mem_entered {b : Board} {inst : Instance} (hinst : inst ∈ b.instances)
    (hcore : (b.findCore? inst.core).isSome) :
    inst.name ∈ (.start :: b.inside).flatMap callInstances := by
  obtain ⟨core, hcore⟩ := Option.isSome_iff_exists.1 hcore
  have hinside := enter_mem_inside hinst hcore
  exact List.mem_flatMap.2 ⟨_, List.mem_cons_of_mem _ hinside, List.mem_singleton_self _⟩

theorem finish_wiring (o : Options) {b : Board} (c : Counters) {s : State}
    (hproduced : s.produced = { backend := name }) (hwires : Wires (.start :: b.inside) {} s)
    (hcores : ∀ inst ∈ b.instances, (b.findCore? inst.core).isSome) :
    ∃ (system : DescriptorFile) (front blocks : List Block),
      (finish o b c s).produced.findDescriptor? "system.mhs" = some system ∧
      system.descriptor.blocks = front ++ blocks ∧
      List.Forall₂ (fun inst block => Tidy inst.name block ∧ ∀ i, block.net? i = b.firstNet? inst i)
        b.instances blocks := by
  refine ⟨{ name := "system.mhs", dir := o.dir, descriptor := (finish o b c s).system },
    s.system.blocks ++ [(finish o b c s).processor, interruptController s.interrupts],
    instanceBlocks b s, ?_, ?_, ?_⟩
  · simp [finish, hproduced, Result.findDescriptor?]
  · simp [finish, Descriptor.addBlocks]
  · unfold instanceBlocks
    rw [List.filterMap_eq_flatMap_toList, ← eachAfter_const]
    refine forall₂_eachAfter fun front inst back hsplit => ?_
    have hinst : inst ∈ b.instances := by simp [hsplit]
    obtain ⟨block, hblock⟩ := Option.isSome_iff_exists.1
      (hwires.present inst.name (.inr (mem_entered hinst (hcores inst hinst))))
    refine ⟨block, by rw [hblock]; rfl, hwires.tidy (by simp) _ (mem_of_lookup hblock), fun i => ?_⟩
    have hnets := hwires.nets (inst.name, i)
    rw [List.flatMap_cons, show callConnections .start = [] from rfl, List.nil_append,
      ← Board.connections_inside] at hnets
    unfold Board.firstNet?
    simpa [State.net?, hblock] using hnets

/-- The last blocks of a system are those of the instances, in order, with every
interface on the net that was asked for first. -/
theorem run_wiring {o : Options} {b : Board} {project : Result}
    (h : (Backend.hardware o).run b = .ok project) :
    ∃ (system : DescriptorFile) (front blocks : List Block),
      project.findDescriptor? "system.mhs" = some system ∧
      system.descriptor.blocks = front ++ blocks ∧
      List.Forall₂ (fun inst block => Tidy inst.name block ∧ ∀ i, block.net? i = b.firstNet? inst i)
        b.instances blocks := by
  obtain ⟨-, hdefects, -, rfl⟩ := Backend.run_ok (visitor_countsLast o) h
  exact finish_wiring o b.lastCounters (lastState_grows o b).produced (lastState_wires o b)
    (Board.cores_of_no_defects hdefects)

/-! ## Bindings that are realised -/

/-- A call is answered by the nets of interfaces: the ports of a CPU binding are
on the last nets of its streams, and both ends of a link on the same net. -/
def Realised (net? : Instance → String → Option String) : Call → Prop
  | .axis a =>
    (∀ id ∈ a.streams.master, net? a.inst (receivingInterface a.port) =
      some (chainEnd ("m" ++ idText id) a.settings)) ∧
    ∀ id ∈ a.streams.slave, net? a.inst (sendingInterface a.port) =
      some (chainEnd ("s" ++ idText id) a.settings)
  | .link l => (net? l.inst l.port.name).isSome ∧
      net? l.inst l.port.name = net? l.peer l.peerPort.name
  | _ => True

instance (net? : Instance → String → Option String) : DecidablePred (Realised net?)
  | .axis _ => inferInstanceAs (Decidable (_ ∧ _))
  | .link _ => inferInstanceAs (Decidable (_ ∧ _))
  | .start | .medium _ | .input .. | .output .. | .bidirectional .. | .defaultScheduler _
  | .userScheduler .. | .core _ | .enter _ | .leave _ | .finish => inferInstanceAs (Decidable True)

/-- The net of an interface, read off the block of its instance. -/
def blockNet? (own : List (Instance × Block)) (inst : Instance) (interface : String) :
    Option String :=
  (own.lookup inst).bind (·.net? interface)

/-- Only the interfaces of the board's own instances matter. -/
theorem realised_congr {b : Board} {net? net?' : Instance → String → Option String}
    (h : ∀ inst ∈ b.instances, ∀ i, net? inst i = net?' inst i) {call : Call}
    (hcall : call ∈ b.traversal) : Realised net? call ↔ Realised net?' call := by
  cases call with
  | axis a =>
    obtain ⟨front, p, back, hplace, hbinding⟩ := Board.place_of_call hcall rfl
    obtain ⟨rfl, -⟩ := Board.axis_of_binding hbinding
    have hinst := h a.inst (Board.mem_of_place hplace).1
    simp only [Realised, hinst]
  | link l =>
    obtain ⟨front, p, back, hplace, hbinding⟩ := Board.place_of_call hcall rfl
    obtain ⟨rfl, -, hpeer, -⟩ := Board.link_of_binding hbinding
    have hinst := h l.inst (Board.mem_of_place hplace).1
    have hother := h l.peer (List.mem_of_find?_eq_some hpeer)
    simp only [Realised, hinst, hother]
  | _ => exact Iff.rfl

theorem mem_connections {b : Board} {call : Call} (hcall : call ∈ b.traversal)
    {x : Interface × Connection} (hx : x ∈ callConnections call) : x ∈ b.connections :=
  List.mem_flatMap.2 ⟨call, hcall, hx⟩

/-- Without a dispute the first net is any net that is asked for. -/
theorem firstNet_of_agreeing {b : Board} (hb : b.Agreeing) {inst : Instance} {i : String}
    {c : Connection} (h : ((inst.name, i), c) ∈ b.connections) :
    b.firstNet? inst i = some c.net := by
  unfold Board.firstNet?
  cases hfirst : b.connections.lookup (inst.name, i) with
  | none => simpa using List.lookup_eq_none_iff.1 hfirst _ h
  | some first =>
    have hnet : first.net = c.net := hb _ (mem_of_lookup hfirst) _ h rfl
    rw [Option.map_some, hnet]

theorem realised_of_agreeing {b : Board} (hb : b.Agreeing) {call : Call}
    (hcall : call ∈ b.traversal) : Realised b.firstNet? call := by
  cases call with
  | axis a =>
    constructor
    · intro id hid
      refine firstNet_of_agreeing (c := { net := _ }) hb (mem_connections hcall ?_)
      exact List.mem_append_left _ (List.mem_map.2 ⟨id, Option.mem_toList.2 hid, rfl⟩)
    · intro id hid
      refine firstNet_of_agreeing (c := { net := _ }) hb (mem_connections hcall ?_)
      exact List.mem_append_right _ (List.mem_map.2 ⟨id, Option.mem_toList.2 hid, rfl⟩)
  | link l =>
    have hends : ((l.inst.name, l.port.name), linkConnection l) ∈ callConnections (.link l) ∧
        ((l.peer.name, l.peerPort.name), linkConnection l) ∈ callConnections (.link l) := by
      simp only [callConnections, sender, receiver]
      cases receives l <;> simp
    have hinst := firstNet_of_agreeing hb (mem_connections hcall hends.1)
    have hpeer := firstNet_of_agreeing hb (mem_connections hcall hends.2)
    exact ⟨by rw [hinst]; rfl, hinst.trans hpeer.symm⟩
  | _ => trivial

/-- The blocks of the instances tell the first nets. -/
theorem blockNet_eq {b : Board} {blocks : List Block}
    (h : List.Forall₂ (fun inst block => Tidy inst.name block ∧
      ∀ i, block.net? i = b.firstNet? inst i) b.instances blocks) {inst : Instance}
    (hinst : inst ∈ b.instances) (i : String) :
    blockNet? (b.instances.zip blocks) inst i = b.firstNet? inst i := by
  generalize b.instances = insts at h hinst
  induction h with
  | nil => cases hinst
  | @cons other block insts blocks hhead htail ih =>
    unfold blockNet? at ih ⊢
    rw [List.zip_cons_cons, lookup_cons_ite]
    by_cases heq : inst = other
    · rw [if_pos heq, heq]
      exact hhead.2 i
    · rw [if_neg heq]
      exact ih ((List.mem_cons.1 hinst).resolve_left heq)

/-- What the blocks connect is settled by the board. -/
theorem realised_iff_firstNet {b : Board} {blocks : List Block}
    (h : List.Forall₂ (fun inst block => Tidy inst.name block ∧
      ∀ i, block.net? i = b.firstNet? inst i) b.instances blocks) :
    (∀ call ∈ b.traversal, Realised (blockNet? (b.instances.zip blocks)) call) ↔
      ∀ call ∈ b.traversal, Realised b.firstNet? call :=
  forall₂_congr fun _ hcall =>
    realised_congr (fun _ hinst i => blockNet_eq h hinst i) hcall

/-- The blocks of the instances stand at the end of the system, in order and with
every interface once.  They connect every binding of the board as its call says if
and only if each call finds its interfaces first taken by the nets that it wants;
so they do if no two bindings want one interface on different nets. -/
theorem bindings_realised_iff_first_come (o : Options) (b : Board) {project : Result}
    (h : (Backend.hardware o).run b = .ok project) :
    ∃ (system : DescriptorFile) (front blocks : List Block),
      project.findDescriptor? "system.mhs" = some system ∧
      system.descriptor.blocks = front ++ blocks ∧
      List.Forall₂ (fun inst block => block.instanceName = inst.name ∧ block.interfaces.Nodup)
        b.instances blocks ∧
      ((∀ call ∈ b.traversal, Realised (blockNet? (b.instances.zip blocks)) call) ↔
        ∀ call ∈ b.traversal, Realised b.firstNet? call) ∧
      (b.Agreeing → ∀ call ∈ b.traversal, Realised (blockNet? (b.instances.zip blocks)) call) := by
  obtain ⟨system, front, blocks, hsystem, hblocks, hwired⟩ := run_wiring h
  have hiff := realised_iff_firstNet hwired
  refine ⟨system, front, blocks, hsystem, hblocks, ?_, hiff, ?_⟩
  · exact hwired.imp fun inst block h => ⟨h.1.instanceName, h.1.interfaces⟩
  · intro hagree
    exact hiff.2 fun call hcall => realised_of_agreeing hagree hcall

/-- A board with streams of every kind.  The link between the two dual ports is
declared from both ends, each of which would name the net after itself. -/
def meshedBoard : Board where
  cores := [{ name := "node", ports := [
    { name := "east", direction := .dual },
    { name := "load", direction := .input },
    { name := "io", direction := .dual }] }]
  instances := [
    { name := "left", core := "node", bindings := [
      .link { port := "east", peer := "right", peerPort := "east" },
      .cpu { port := "load", options := [.bitWidth 8] },
      .cpu { port := "io", options := [.hwQueue 0] }] },
    { name := "right", core := "node", bindings := [
      .link { port := "east", peer := "left", peerPort := "east" },
      .cpu { port := "io" }] }]

theorem bindings_realised_iff_first_come_meshed :
    ∃ (project : Result) (system : DescriptorFile) (front blocks : List Block),
      (Backend.hardware {}).run meshedBoard = .ok project ∧
      project.findDescriptor? "system.mhs" = some system ∧
      system.descriptor.blocks = front ++ blocks ∧
      ¬ meshedBoard.Agreeing ∧
      ∀ call ∈ meshedBoard.traversal,
        Realised (blockNet? (meshedBoard.instances.zip blocks)) call := by
  have hproject : ∃ project, (Backend.hardware {}).run meshedBoard = .ok project := ⟨_, rfl⟩
  obtain ⟨project, hproject⟩ := hproject
  obtain ⟨system, front, blocks, hsystem, hblocks, -, hiff, -⟩ :=
    bindings_realised_iff_first_come {} meshedBoard hproject
  exact ⟨project, system, front, blocks, hproject, hsystem, hblocks, by decide +kernel,
    hiff.2 (by decide +kernel)⟩

/-- Two instances send to one port of a third. -/
def fanInBoard : Board where
  cores := [
    { name := "source", ports := [{ name := "o", direction := .output }] },
    { name := "sink", ports := [{ name := "i", direction := .input }] }]
  instances := [
    { name := "a", core := "source", bindings := [
      .link { port := "o", peer := "c", peerPort := "i" }] },
    { name := "b", core := "source", bindings := [
      .link { port := "o", peer := "c", peerPort := "i" }] },
    { name := "c", core := "sink" }]

/-- The second link finds the receiving port taken and is lost without a report. -/
theorem fanIn_not_realised :
    ∃ (project : Result) (system : DescriptorFile) (front blocks : List Block),
      (Backend.hardware {}).run fanInBoard = .ok project ∧
      project.findDescriptor? "system.mhs" = some system ∧
      system.descriptor.blocks = front ++ blocks ∧
      List.Forall₂ (fun inst block => block.instanceName = inst.name) fanInBoard.instances blocks ∧
      ¬ ∀ call ∈ fanInBoard.traversal,
        Realised (blockNet? (fanInBoard.instances.zip blocks)) call := by
  have hproject : ∃ project, (Backend.hardware {}).run fanInBoard = .ok project := ⟨_, rfl⟩
  obtain ⟨project, hproject⟩ := hproject
  obtain ⟨system, front, blocks, hsystem, hblocks, hwired⟩ := run_wiring hproject
  refine ⟨project, system, front, blocks, hproject, hsystem, hblocks, ?_, ?_⟩
  · exact hwired.imp fun inst block h => h.1.instanceName
  · rw [realised_iff_firstNet hwired]
    decide +kernel

end Hardware

end Boardwright
