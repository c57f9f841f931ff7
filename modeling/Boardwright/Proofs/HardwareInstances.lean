import Boardwright.Proofs.HardwareWiring

/-!
# The blocks of instances, call by call

The block of an instance is made by the first call that has to do with the
instance, be it the one that enters it or a link from elsewhere, and later calls
add to it.  `HardwareWiring` reads the finished blocks off a board; here any calls
may come in any order.

* An interface that is attached is not touched again: `attach_of_net`.  So a link
  that both its ends declare is joined once, and `link_joined_from_either_end` says
  that it does not matter which of them comes first.
* `Records` is what a call does to the list of blocks: an instance that has none
  gets one, of the core that the call names.  `visit_records` is the step,
  `play_records` the run, and `lastState_records` the run over a board.

`instance_blocks_settled_by_first_call` puts this together with the nets.
-/

namespace Boardwright

/-- A link as its other end declares it, in a binding of its own. -/
def Link.fromPeer (l : Link) (binding : LinkBinding) : Link where
  binding
  port := l.peerPort
  inst := l.peer
  peer := l.inst
  peerPort := l.port

namespace Hardware

open Descriptor (Line Block Value)

/-! ## Attaching again -/

/-- An interface that is attached stays as it is. -/
theorem attach_of_net {inst : Instance} {interface : String} {s : State}
    (h : (s.net? (inst.name, interface)).isSome) (net : String) :
    attach inst interface net s = s := by
  unfold State.net? at h
  cases hblock : s.instances.lookup inst.name with
  | none =>
    rw [hblock] at h
    cases h
  | some block =>
    rw [hblock] at h
    have hused : (block.lookup? .busInterface interface).isSome := by
      simpa [Block.net?] using h
    simp only [attach, addInstance_of_block hblock, blockOf_of_block hblock]
    exact if_pos hused

/-! ## Links from either end -/

section Links

variable {l : Link} {s : State}

theorem addLink_of_nets (h : (s.net? (l.inst.name, l.port.name)).isSome)
    (hpeer : (s.net? (l.peer.name, l.peerPort.name)).isSome) : addLink l s = s := by
  simp only [addLink]
  cases receives l with
  | true =>
    show attach l.inst l.port.name _ (attach l.peer l.peerPort.name _ s) = s
    rw [attach_of_net hpeer, attach_of_net h]
  | false =>
    show attach l.peer l.peerPort.name _ (attach l.inst l.port.name _ s) = s
    rw [attach_of_net h, attach_of_net hpeer]

/-- Both ends of a link that were free are on the net of its sender. -/
theorem addLink_net? (l : Link) (s : State) (t : Interface) :
    (addLink l s).net? t =
      (s.net? t).or (if t = sender l ∨ t = receiver l then some (portNet (sender l)) else none) := by
  rw [(addLink_attaches l s).nets]
  congr 1
  simp only [callConnections, lookup_cons_ite, List.lookup_nil]
  by_cases hsender : t = sender l
  · simp [hsender, linkConnection]
  · by_cases hreceiver : t = receiver l
    · simp [hreceiver, linkConnection]
    · simp [hsender, hreceiver]

theorem ends_of_link (l : Link) :
    ((l.inst.name, l.port.name) = sender l ∨ (l.inst.name, l.port.name) = receiver l) ∧
      ((l.peer.name, l.peerPort.name) = sender l ∨ (l.peer.name, l.peerPort.name) = receiver l) := by
  unfold sender receiver
  cases receives l <;> simp

/-- Of two ports that differ in their directions, the same one receives, whichever
declares the link. -/
theorem receives_fromPeer (hport : l.port.direction.Proper) (hpeer : l.peerPort.direction.Proper)
    (hdiffer : l.port.direction ≠ l.peerPort.direction) (binding : LinkBinding) :
    receives (l.fromPeer binding) = !receives l := by
  simp only [receives, Link.fromPeer]
  rcases hport with hport | hport | hport <;> rcases hpeer with hpeer | hpeer | hpeer
  all_goals simp_all

theorem sender_of_differ (hport : l.port.direction.Proper) (hpeer : l.peerPort.direction.Proper)
    (hdiffer : l.port.direction ≠ l.peerPort.direction) :
    sender l = if l.port.direction.isSlave && l.peerPort.direction.isMaster
      then (l.inst.name, l.port.name) else (l.peer.name, l.peerPort.name) := by
  unfold sender receives
  rcases hport with hport | hport | hport <;> rcases hpeer with hpeer | hpeer | hpeer
  all_goals simp_all [Direction.isSlave, Direction.isMaster]

theorem addLink_fromPeer (hport : l.port.direction.Proper) (hpeer : l.peerPort.direction.Proper)
    (hdiffer : l.port.direction ≠ l.peerPort.direction) (binding : LinkBinding) (s : State) :
    addLink (l.fromPeer binding) s = addLink l s := by
  simp only [addLink, receives_fromPeer hport hpeer hdiffer]
  cases receives l <;> rfl

/-- A link that has been joined is not joined again from its other end. -/
theorem addLink_fromPeer_addLink (l : Link) (binding : LinkBinding) (s : State) :
    addLink (l.fromPeer binding) (addLink l s) = addLink l s := by
  have hattached : ∀ t, t = sender l ∨ t = receiver l → ((addLink l s).net? t).isSome := by
    intro t ht
    rw [addLink_net?, if_pos ht]
    cases s.net? t <;> rfl
  obtain ⟨hinst, hpeer⟩ := ends_of_link l
  apply addLink_of_nets
  · exact hattached _ hpeer
  · exact hattached _ hinst

end Links

/-- It does not matter which end declares a link.  When one end has declared it, the
same link declared by the other end as well changes nothing, whatever the project
looked like before.  If the ports differ in their directions, each declaration alone
has the same effect, too: the net is named after the same end, the one whose port can
send to the other's, and both ends are on it unless they were attached before. -/
theorem link_joined_from_either_end (o : Options) (b : Board) (c c' : Counters) (l : Link)
    (binding : LinkBinding) (hport : l.port.direction.Proper)
    (hpeer : l.peerPort.direction.Proper) (s : State) :
    let once := (visit o b c (.link l) s).state
    visit o b c' (.link (l.fromPeer binding)) once = { state := once } ∧
      (∀ t, once.net? t = (s.net? t).or
        (if t = sender l ∨ t = receiver l then some (portNet (sender l)) else none)) ∧
      (l.port.direction ≠ l.peerPort.direction →
        visit o b c' (.link (l.fromPeer binding)) s = { state := once } ∧
        sender (l.fromPeer binding) = sender l ∧ receiver (l.fromPeer binding) = receiver l ∧
        sender l = if l.port.direction.isSlave && l.peerPort.direction.isMaster
          then (l.inst.name, l.port.name) else (l.peer.name, l.peerPort.name)) := by
  show visit o b c' (.link (l.fromPeer binding)) (addLink l s) = { state := addLink l s } ∧ _
  refine ⟨?_, addLink_net? l s, fun hdiffer => ?_⟩
  · show ({ state := addLink (l.fromPeer binding) (addLink l s) } : Answer State) = _
    rw [addLink_fromPeer_addLink]
  · refine ⟨?_, ?_, ?_, sender_of_differ hport hpeer hdiffer⟩
    · show ({ state := addLink (l.fromPeer binding) s } : Answer State) = { state := addLink l s }
      rw [addLink_fromPeer hport hpeer hdiffer]
    · simp only [sender, receives_fromPeer hport hpeer hdiffer]
      cases receives l <;> rfl
    · simp only [receiver, receives_fromPeer hport hpeer hdiffer]
      cases receives l <;> rfl

/-- A link between an output and a dual port of one instance, whose dual port is
taken already. -/
def loopLink : Link where
  binding := { port := "out", peer := "loop", peerPort := "both" }
  port := { name := "out", direction := .output }
  inst := { name := "loop", core := "ring" }
  peer := { name := "loop", core := "ring" }
  peerPort := { name := "both", direction := .dual }

theorem link_joined_from_either_end_loop :
    let s := attach loopLink.inst "both" "elsewhere" {}
    let once := (visit {} {} {} (.link loopLink) s).state
    once ≠ s ∧ once.net? ("loop", "out") = some "loop_out" ∧
      once.net? ("loop", "both") = some "elsewhere" ∧
      visit {} {} {} (.link (loopLink.fromPeer { port := "both", peer := "loop", peerPort := "out" }))
        once = { state := once } ∧
      visit {} {} {} (.link (loopLink.fromPeer { port := "both", peer := "loop", peerPort := "out" }))
        s = { state := once } := by
  intro s once
  obtain ⟨hagain, hnets, hmirror⟩ := link_joined_from_either_end {} {} {} {} loopLink
    { port := "both", peer := "loop", peerPort := "out" } (by decide) (by decide) s
  have hout : once.net? ("loop", "out") = some "loop_out" := hnets _
  have hboth : once.net? ("loop", "both") = some "elsewhere" := hnets _
  refine ⟨?_, hout, hboth, hagain, (hmirror (by decide)).1⟩
  intro heq
  rw [heq] at hout
  revert hout
  decide

/-! ## Which instances have blocks -/

theorem keys_putBlock (name : String) (block : Block) (blocks : List (String × Block)) :
    (putBlock name block blocks).map Prod.fst =
      if name ∈ blocks.map Prod.fst then blocks.map Prod.fst
      else blocks.map Prod.fst ++ [name] := by
  induction blocks with
  | nil => rfl
  | cons entry blocks ih =>
    simp only [putBlock]
    by_cases hkey : entry.1 = name
    · simp [hkey]
    · have hne : name ≠ entry.1 := fun heq => hkey heq.symm
      simp only [beq_iff_eq, hkey, if_false, List.map_cons, ih, List.mem_cons, hne, false_or]
      split <;> rfl

theorem nodup_putBlock {blocks : List (String × Block)} (h : (blocks.map Prod.fst).Nodup)
    (name : String) (block : Block) : ((putBlock name block blocks).map Prod.fst).Nodup := by
  rw [keys_putBlock]
  split
  · exact h
  · rw [← List.concat_eq_append]
    exact h.concat ‹_›

/-- The core of an instance, as its block has it. -/
def State.core? (s : State) (inst : String) : Option String :=
  (s.instances.lookup inst).map Block.name

theorem core?_putBlock (s : State) (name : String) (block : Block) (inst : String) :
    ({ s with instances := putBlock name block s.instances } : State).core? inst =
      if inst = name then some block.name else s.core? inst := by
  simp only [State.core?, lookup_putBlock]
  split <;> rfl

/-- What a call has to do with, in order: instances and their cores. -/
def callSites : Call → List (String × String)
  | .enter site => [(site.inst.name, site.core.name)]
  | .axis a => (streamConnections a).map fun _ => (a.inst.name, a.inst.core)
  | .link l =>
    if receives l then [(l.peer.name, l.peer.core), (l.inst.name, l.inst.core)]
    else [(l.inst.name, l.inst.core), (l.peer.name, l.peer.core)]
  | _ => []

/-- Instances that had no block got one of the core that `sites` has for them first,
and none got a second one. -/
structure Records (sites : List (String × String)) (s s' : State) : Prop where
  cores : ∀ inst, s'.core? inst = (s.core? inst).or (sites.lookup inst)
  distinct : (s.instances.map Prod.fst).Nodup → (s'.instances.map Prod.fst).Nodup

namespace Records

variable {sites sites' : List (String × String)} {s s' s'' : State}

theorem aside (h : s'.instances = s.instances) : Records [] s s' where
  cores inst := by
    unfold State.core?
    rw [h]
    exact Option.or_none.symm
  distinct hs := by rwa [h]

theorem trans (h : Records sites s s') (h' : Records sites' s' s'') :
    Records (sites ++ sites') s s'' where
  cores inst := by
    rw [h'.cores, h.cores, List.lookup_append, Option.or_assoc]
  distinct hs := h'.distinct (h.distinct hs)

theorem after (h : s'.instances = s.instances) (h' : Records sites s' s'') :
    Records sites s s'' :=
  (aside h).trans h'

end Records

theorem addInstance_records (inst core : String) (s : State) :
    Records [(inst, core)] s (addInstance inst core s) := by
  cases hold : s.instances.lookup inst with
  | some block =>
    rw [addInstance_of_block hold]
    refine ⟨fun name => ?_, id⟩
    rw [lookup_cons_ite]
    by_cases hname : name = inst
    · have hcore : s.core? name = some block.name := by simp [State.core?, hname, hold]
      rw [hcore, Option.some_or]
    · rw [if_neg hname]
      exact Option.or_none.symm
  | none =>
    unfold addInstance
    rw [hold, if_neg (by simp)]
    refine ⟨fun name => ?_, fun hs => nodup_putBlock hs inst _⟩
    rw [core?_putBlock, lookup_cons_ite]
    by_cases hname : name = inst
    · have hcore : s.core? name = none := by simp [State.core?, hname, hold]
      rw [if_pos hname, if_pos hname, hcore]
      rfl
    · rw [if_neg hname, if_neg hname]
      exact Option.or_none.symm

/-- A block that gets more lines stays a block of its core. -/
theorem putBlock_records {inst : String} {s : State} {block : Block}
    (hblock : s.instances.lookup inst = some block) (lines : List Line) :
    Records [] s { s with instances := putBlock inst (block.add lines) s.instances } where
  cores name := by
    rw [core?_putBlock, List.lookup_nil, Option.or_none]
    split
    · rename_i hname
      simp only [State.core?, hname, hblock]
      rfl
    · rfl
  distinct hs := nodup_putBlock hs _ _

theorem attach_records (inst : Instance) (interface net : String) (s : State) :
    Records [(inst.name, inst.core)] s (attach inst interface net s) := by
  have hadd := addInstance_records inst.name inst.core s
  obtain ⟨block, hblock⟩ := Option.isSome_iff_exists.1
    ((addInstance_attaches inst.name inst.core s).present inst.name (.inr (by simp)))
  simp only [attach, blockOf_of_block hblock]
  split
  · exact hadd
  · exact hadd.trans (putBlock_records hblock _)

theorem addMaster_records (o : Options) (a : Axis) (id : UInt8) (s : State) :
    Records [(a.inst.name, a.inst.core)] s (addMaster o a id s) := by
  obtain ⟨-, hinstances⟩ := writeChain_end o ("m" ++ idText id) a.settings
    (connect ("M" ++ idText id ++ "_AXIS") ("m" ++ idText id) s)
  simp only [addMaster]
  exact .after hinstances (attach_records ..)

theorem addSlave_records (o : Options) (a : Axis) (id : UInt8) (s : State) :
    Records [(a.inst.name, a.inst.core)] s (addSlave o a id s) := by
  obtain ⟨-, hinstances⟩ := readChain_end o ("s" ++ idText id) a.settings
    (connect ("S" ++ idText id ++ "_AXIS") ("s" ++ idText id) s)
  simp only [addSlave]
  exact .after hinstances (attach_records ..)

theorem addAxis_records (o : Options) (a : Axis) (s : State) :
    Records (callSites (.axis a)) s (addAxis o a s) := by
  simp only [addAxis, callSites, streamConnections]
  cases a.streams.master with
  | none =>
    cases a.streams.slave with
    | none => exact .aside rfl
    | some slave => exact addSlave_records o a slave s
  | some master =>
    have hmaster := addMaster_records o a master s
    cases a.streams.slave with
    | none => exact hmaster
    | some slave => exact hmaster.trans (addSlave_records o a slave _)

theorem addLink_records (l : Link) (s : State) :
    Records (callSites (.link l)) s (addLink l s) := by
  simp only [addLink, callSites]
  cases receives l with
  | true => exact (attach_records l.peer ..).trans (attach_records l.inst ..)
  | false => exact (attach_records l.inst ..).trans (attach_records l.peer ..)

theorem visit_records (o : Options) (b : Board) (c : Counters) (call : Call) (s : State) :
    Records (callSites call) s (visit o b c call s).state := by
  cases call with
  | medium m => exact .aside (addMedium_instances m s)
  | input g id => exact .aside (addGpio_instances g true s)
  | output g id => exact .aside (addGpio_instances g false s)
  | enter site => exact addInstance_records site.inst.name site.core.name s
  | axis a => exact addAxis_records o a s
  | link l => exact addLink_records l s
  | _ => exact .aside rfl

/-- The blocks that any calls leave. -/
theorem play_records (o : Options) (b : Board) (calls : List (Counters × Call)) (s : State) :
    Records ((calls.map Prod.snd).flatMap callSites) s ((visitor o).play b calls s) :=
  Visitor.play_grows (fun _ => .aside rfl) Records.trans
    (fun x _ s => visit_records o b x.1 x.2 s) s

theorem play_wires (o : Options) (b : Board) (calls : List (Counters × Call)) (s : State) :
    Wires (calls.map Prod.snd) s ((visitor o).play b calls s) := by
  rw [← List.flatMap_singleton' (calls.map Prod.snd)]
  exact Visitor.play_grows (R := Wires) (fun _ => Attaches.aside rfl) Wires.trans
    (fun x _ s => visit_wires o b x.1 x.2 s) s

/-- The blocks before the last call of a board. -/
theorem lastState_records (o : Options) (b : Board) :
    Records ((.start :: b.inside).flatMap callSites) {} ((Backend.hardware o).lastState b) :=
  Visitor.advance_grows (fun _ => .aside rfl) Records.trans
    (fun call _ s => visit_records o b {} call s) {}

end Hardware

/-! ## The instances of a board -/

namespace Board

open Hardware (callSites)

variable {b : Board}

theorem site_of_enter {site : Site} (h : .enter site ∈ b.inside) :
    site.inst ∈ b.instances ∧ b.findCore? site.inst.core = some site.core := by
  have hpart : ∀ part, .enter site ∈ b.callsAbout part → part = .instances :=
    fun part hmem => (b.callsAbout_part part _ hmem).symm
  have hmem : .enter site ∈ b.callsAbout .instances := by
    rw [inside_eq] at h
    simp only [List.mem_append] at h
    rcases h with (((h | h) | h) | h) | h
    · cases hpart _ h
    · cases hpart _ h
    · cases hpart _ h
    · cases hpart _ h
    · exact h
  obtain ⟨earlier, inst, back, hsplit, hmem⟩ := mem_eachAfter.1 hmem
  cases hcore : b.findCore? inst.core with
  | none =>
    unfold instanceCalls at hmem
    rw [hcore] at hmem
    cases hmem
  | some core =>
    rw [instanceCalls_of_core earlier hcore] at hmem
    rcases List.mem_append.1 hmem with hmem | hmem
    · rcases List.mem_cons.1 hmem with heq | hmem
      · obtain rfl := Call.enter.inj heq
        exact ⟨by simp [hsplit], hcore⟩
      · cases connectionsOf_isConnection earlier inst _ hmem
    · cases List.mem_singleton.1 hmem

theorem name_of_findCore {name : String} {core : Core} (h : b.findCore? name = some core) :
    core.name = name := by
  simpa using List.find?_some h

/-- Whatever a call has to do with is an instance of the board, with its own core. -/
theorem instance_of_site {name core : String} (h : (name, core) ∈ b.inside.flatMap callSites) :
    ∃ inst ∈ b.instances, name = inst.name ∧ core = inst.core := by
  obtain ⟨call, hcall, hsite⟩ := List.mem_flatMap.1 h
  have htraversal : call ∈ b.traversal := by
    rw [traversal_eq]
    simp [hcall]
  cases call with
  | enter site =>
    obtain ⟨hinst, hcore⟩ := site_of_enter hcall
    obtain ⟨rfl, rfl⟩ := Prod.mk.inj (List.mem_singleton.1 hsite)
    exact ⟨site.inst, hinst, rfl, name_of_findCore hcore⟩
  | axis a =>
    obtain ⟨front, p, back, hplace, hbinding⟩ := place_of_call htraversal rfl
    obtain ⟨rfl, -⟩ := axis_of_binding hbinding
    obtain ⟨_, -, heq⟩ := List.mem_map.1 hsite
    obtain ⟨rfl, rfl⟩ := Prod.mk.inj heq
    exact ⟨a.inst, (mem_of_place hplace).1, rfl, rfl⟩
  | link l =>
    obtain ⟨front, p, back, hplace, hbinding⟩ := place_of_call htraversal rfl
    obtain ⟨rfl, -, hpeer, -⟩ := link_of_binding hbinding
    have hends : (name = l.inst.name ∧ core = l.inst.core) ∨
        (name = l.peer.name ∧ core = l.peer.core) := by
      simp only [callSites] at hsite
      split at hsite
      · simpa [or_comm] using hsite
      · simpa using hsite
    rcases hends with hsite | hsite
    · exact ⟨l.inst, (mem_of_place hplace).1, hsite⟩
    · exact ⟨l.peer, List.mem_of_find?_eq_some hpeer, hsite⟩
  | _ => cases hsite

end Board

namespace Hardware

open Descriptor (Line Block Value)

/-- With names that differ, the block of an instance is of the instance's core, also if
a link from elsewhere made it. -/
theorem lastState_core? {o : Options} {b : Board} (hnames : (b.instances.map Instance.name).Nodup)
    {inst : Instance} (hinst : inst ∈ b.instances) (hcore : (b.findCore? inst.core).isSome) :
    ((Backend.hardware o).lastState b).core? inst.name = some inst.core := by
  rw [(lastState_records o b).cores]
  show (b.inside.flatMap callSites).lookup inst.name = some inst.core
  apply lookup_of_agreeing
  · obtain ⟨core, hcore⟩ := Option.isSome_iff_exists.1 hcore
    refine List.mem_flatMap.2 ⟨_, enter_mem_inside hinst hcore, ?_⟩
    simp [callSites, Board.name_of_findCore hcore]
  · intro other hother
    obtain ⟨inst', hinst', hname, rfl⟩ := Board.instance_of_site hother
    rw [List.inj_on_of_nodup_map hnames hinst hinst' hname]

/-- Each instance has one block in the end, in the order of the board. -/
theorem lastState_instanceBlocks {o : Options} {b : Board}
    (hnames : (b.instances.map Instance.name).Nodup)
    (hcores : ∀ inst ∈ b.instances, (b.findCore? inst.core).isSome) :
    (instanceBlocks b ((Backend.hardware o).lastState b)).map
        (fun block => (block.instanceName, block.name)) =
      b.instances.map fun inst => (inst.name, inst.core) := by
  unfold instanceBlocks
  rw [List.map_filterMap, ← List.filterMap_eq_map]
  refine List.filterMap_congr fun inst hinst => ?_
  obtain ⟨block, hblock, hcore⟩ := Option.map_eq_some_iff.1
    (lastState_core? (o := o) hnames hinst (hcores inst hinst))
  have htidy : Tidy inst.name block :=
    (lastState_wires o b).tidy (by simp) _ (mem_of_lookup hblock)
  rw [hblock, Option.map_some, htidy.instanceName, hcore]
  rfl

/-- An instance has at most one block, however its calls come.  The block is of the core
that the first call for the instance has, and each of its interfaces stands in it once,
on the net that was asked for first; no later call moves it.  So if the instances of a
board differ in their names, the system of its project ends with one block for each of
them, in order and of its own core. -/
theorem instance_blocks_settled_by_first_call (o : Options) :
    (∀ (b : Board) (calls later : List (Counters × Call)),
      let s := (visitor o).play b calls (visitor o).start
      (s.instances.map Prod.fst).Nodup ∧
      (∀ inst, s.core? inst = ((calls.map Prod.snd).flatMap callSites).lookup inst) ∧
      (∀ t, s.net? t = (((calls.map Prod.snd).flatMap callConnections).lookup t).map
        Connection.net) ∧
      (∀ entry ∈ s.instances, entry.2.instanceName = entry.1 ∧ entry.2.interfaces.Nodup ∧
        s.core? entry.1 = some entry.2.name ∧ ∀ i, s.net? (entry.1, i) = entry.2.net? i) ∧
      ∀ t net, s.net? t = some net → ((visitor o).play b later s).net? t = some net) ∧
    ∀ (b : Board) (project : Result), (b.instances.map Instance.name).Nodup →
      (Backend.hardware o).run b = .ok project →
      ∃ (system : DescriptorFile) (front : List Block) (lines : List Line) (nets : List Value)
        (blocks : List Block),
        project.findDescriptor? "system.mhs" = some system ∧
        system.descriptor.blocks =
          front ++ processor.add lines :: interruptController nets :: blocks ∧
        blocks.map (fun block => (block.instanceName, block.name)) =
          b.instances.map fun inst => (inst.name, inst.core) := by
  constructor
  · intro b calls later s
    have hrecords := play_records o b calls (visitor o).start
    have hwires := play_wires o b calls (visitor o).start
    have hdistinct := hrecords.distinct List.nodup_nil
    refine ⟨hdistinct, hrecords.cores, hwires.nets, fun entry hentry => ?_, fun t net hnet => ?_⟩
    · have htidy := hwires.tidy (by simp [visitor]) entry hentry
      have hblock : s.instances.lookup entry.1 = some entry.2 := lookup_of_mem_nodup hdistinct hentry
      refine ⟨htidy.instanceName, htidy.interfaces, ?_, fun i => ?_⟩
      · simp [State.core?, hblock]
      · simp [State.net?, hblock]
    · rw [(play_wires o b later s).nets, hnet, Option.some_or]
  · intro b project hnames h
    obtain ⟨-, hdefects, -⟩ := Backend.run_ok (visitor_countsLast o) h
    obtain ⟨system, lines, hsystem, hblocks, -⟩ := run_system h
    exact ⟨system, _, _, _, _, hsystem, hblocks,
      lastState_instanceBlocks hnames (Board.cores_of_no_defects hdefects)⟩

/-- The links of `fanInBoard`. -/
def fanInLink (source : String) : Link where
  binding := { port := "o", peer := "c", peerPort := "i" }
  port := { name := "o", direction := .output }
  inst := { name := source, core := "source" }
  peer := { name := "c", core := "sink" }
  peerPort := { name := "i", direction := .input }

theorem instance_blocks_settled_by_first_call_fanIn :
    ((visitor {}).play {} [({}, .link (fanInLink "a"))] {}).core? "c" = some "sink" ∧
    ((visitor {}).play {} [({}, .link (fanInLink "a")), ({}, .link (fanInLink "b"))] {}).net?
      ("c", "i") = some "a_o" ∧
    ∃ (project : Result) (system : DescriptorFile) (front : List Block) (lines : List Line)
      (nets : List Value) (blocks : List Block),
      (Backend.hardware {}).run fanInBoard = .ok project ∧
      project.findDescriptor? "system.mhs" = some system ∧
      system.descriptor.blocks = front ++ processor.add lines :: interruptController nets :: blocks ∧
      blocks.map (fun block => (block.instanceName, block.name)) =
        [("a", "source"), ("b", "source"), ("c", "sink")] := by
  obtain ⟨hcalls, hboard⟩ := instance_blocks_settled_by_first_call {}
  obtain ⟨-, hcores, hnets, -, hlater⟩ := hcalls {} [({}, .link (fanInLink "a"))]
    [({}, .link (fanInLink "b"))]
  have hproject : ∃ project, (Backend.hardware {}).run fanInBoard = .ok project := ⟨_, rfl⟩
  obtain ⟨project, hproject⟩ := hproject
  obtain ⟨system, front, lines, nets, blocks, hsystem, hblocks, hnames⟩ :=
    hboard fanInBoard project (by decide) hproject
  exact ⟨hcores "c", hlater ("c", "i") "a_o" (hnets ("c", "i")), project, system, front, lines, nets,
    blocks, hproject, hsystem, hblocks, hnames⟩

end Hardware

end Boardwright
