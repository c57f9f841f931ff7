import Boardwright.Proofs.HardwareNets
import Mathlib.Data.List.Nodup

/-!
# Chains of adapters

A stream leads from the processor to a core or back, through a queue and a
resizer if its settings ask for them.  The two ways are built by mirrored code, in
the same order of blocks but in opposite directions.

* `adapterEnds?` reads off a block what it receives and what it sends, a net and
  a width each, and `AdapterPath` lines such blocks up.  `stages_join` says that the
  stages of a stream are a path between the processor and the core.
* `chainBlocks` finds the blocks of a stream by their names.  `chainBlocks_front`
  says that these are its stages, whatever else is in the system: names tell the
  streams apart, and no two streams have one number.
* `processor_net?` finds the net of a stream on the processor.

`adapter_chains_are_paths` puts these together.
-/

namespace Boardwright

namespace Descriptor

/-- The number that a parameter of a block is set to. -/
def Block.number? (b : Block) (name : String) : Option Int :=
  match b.lookup? .parameter name with
  | some (.number n) => some n
  | _ => none

/-- An interface that is not named is not attached. -/
theorem Block.lookup?_of_not_mem_interfaces {b : Block} {name : String} (h : name ∉ b.interfaces) :
    b.lookup? .busInterface name = none := by
  refine List.findSome?_eq_none_iff.2 fun line hline => ?_
  split
  · rename_i hkind
    rw [Option.map_eq_none_iff, List.find?_eq_none]
    intro assignment hassignment heq
    apply h
    refine List.mem_flatMap.2 ⟨line, hline, ?_⟩
    rw [if_pos hkind, ← beq_iff_eq.1 heq]
    exact List.mem_map_of_mem hassignment
  · rfl

end Descriptor

namespace Hardware

open Descriptor (Line Block Value)

/-! ## Paths of adapters -/

/-- A net with the number of bits that it carries at a time. -/
structure Signal where
  net : String
  width : Int
  deriving DecidableEq, Repr

/-- What an adapter receives and what it sends.  A queue has one width for both,
a resizer one for each. -/
def adapterEnds? (block : Block) : Option (Signal × Signal) := do
  let source ← block.net? "S_AXIS"
  let target ← block.net? "M_AXIS"
  if block.name = "queue" then
    let width ← block.number? "C_WIDTH"
    return (⟨source, width⟩, ⟨target, width⟩)
  else if block.name = "resizer" then
    let inWidth ← block.number? "C_IN_WIDTH"
    let outWidth ← block.number? "C_OUT_WIDTH"
    return (⟨source, inWidth⟩, ⟨target, outWidth⟩)
  else none

/-- Adapters in a row, each of which receives what the one before it sends. -/
inductive AdapterPath : Signal → List Block → Signal → Prop
  | nil (x : Signal) : AdapterPath x [] x
  | cons {x y z : Signal} {block : Block} {blocks : List Block}
    (hends : adapterEnds? block = some (x, y)) (hrest : AdapterPath y blocks z) :
    AdapterPath x (block :: blocks) z

theorem AdapterPath.append {x y z : Signal} {blocks blocks' : List Block}
    (h : AdapterPath x blocks y) (h' : AdapterPath y blocks' z) :
    AdapterPath x (blocks ++ blocks') z := by
  induction h with
  | nil x => exact h'
  | cons hends _ ih => exact .cons hends (ih h')

@[simp] theorem queueBlock_net? (inst : String) (depth : Int64) (source target : String) :
    (queueBlock inst depth source target).net? "S_AXIS" = some source ∧
      (queueBlock inst depth source target).net? "M_AXIS" = some target := ⟨rfl, rfl⟩

@[simp] theorem resizerBlock_net? (inst : String) (inWidth outWidth : Int64)
    (source target : String) :
    (resizerBlock inst inWidth outWidth source target).net? "S_AXIS" = some source ∧
      (resizerBlock inst inWidth outWidth source target).net? "M_AXIS" = some target := ⟨rfl, rfl⟩

theorem defaultBitWidth_toInt : PortSettings.defaultBitWidth.toInt = 32 := by decide

theorem queue_path (inst : String) (depth : Int64) (source target : String) :
    AdapterPath ⟨source, 32⟩ [queueBlock inst depth source target] ⟨target, 32⟩ := by
  rw [← defaultBitWidth_toInt]
  exact .cons rfl (.nil _)

theorem resizer_path (inst : String) (inWidth outWidth : Int64) (source target : String) :
    AdapterPath ⟨source, inWidth.toInt⟩ [resizerBlock inst inWidth outWidth source target]
      ⟨target, outWidth.toInt⟩ :=
  .cons rfl (.nil _)

end Hardware

/-! ## The two ways of a stream -/

namespace Side

open Hardware
open Descriptor (Line Block)

/-- The interface of the processor. -/
def interface : Side → UInt8 → String
  | write, id => "M" ++ toString id.toNat ++ "_AXIS"
  | read, id => "S" ++ toString id.toNat ++ "_AXIS"

/-- The net at the processor, which the whole chain is named after. -/
def group : Side → UInt8 → String
  | write, id => "m" ++ toString id.toNat
  | read, id => "s" ++ toString id.toNat

/-- The net that is offered to the core. -/
def offered (o : Options) : Side → String → PortSettings → State → String
  | write, group, set, s => (writeChain o group set s).1
  | read, group, set, s => (readChain o group set s).1

/-- The blocks are a path from the processor to the core, or back. -/
def Joins : Side → Signal → List Block → Signal → Prop
  | write, cpu, blocks, core => AdapterPath cpu blocks core
  | read, cpu, blocks, core => AdapterPath core blocks.reverse cpu

def stages : Side → String → PortSettings → List Block
  | write => writeStages
  | read => readStages

theorem group_of_marked {side side' : Side} {id id' : UInt8} {rest rest' : List Char}
    (h : (side.group id).toList ++ '_' :: rest = (side'.group id').toList ++ '_' :: rest') :
    side = side' ∧ id = id' := by
  cases side <;> cases side'
  · exact ⟨rfl, (Hardware.group_of_marked h rfl).2⟩
  · exact absurd (Hardware.group_of_marked h (by decide)).1 (by decide)
  · exact absurd (Hardware.group_of_marked h (by decide)).1 (by decide)
  · exact ⟨rfl, (Hardware.group_of_marked h rfl).2⟩

theorem chainNets_inj {side side' : Side} {id id' : UInt8} {set set' : PortSettings} {net : String}
    (h : net ∈ chainNets (side.group id) set) (h' : net ∈ chainNets (side'.group id') set') :
    side = side' ∧ id = id' := by
  obtain ⟨rest, hrest⟩ := chainNets_marked h
  obtain ⟨rest', hrest'⟩ := chainNets_marked h'
  exact group_of_marked (hrest.symm.trans hrest')

theorem interface_inj {side side' : Side} {id id' : UInt8}
    (h : side.interface id = side'.interface id') : side = side' ∧ id = id' := by
  have hmark : ∀ text : String, (text ++ "_AXIS").toList = text.toList ++ '_' :: "AXIS".toList :=
    fun _ => String.toList_append
  have hlists := congrArg String.toList h
  cases side <;> cases side' <;> simp only [interface, hmark] at hlists
  · exact ⟨rfl, (Hardware.group_of_marked hlists rfl).2⟩
  · exact absurd (Hardware.group_of_marked hlists (by decide)).1 (by decide)
  · exact absurd (Hardware.group_of_marked hlists (by decide)).1 (by decide)
  · exact ⟨rfl, (Hardware.group_of_marked hlists rfl).2⟩

theorem isStage_of_mem {side : Side} {group : String} {set : PortSettings} {block : Block}
    (h : block ∈ side.stages group set) : IsStage group block := by
  cases side
  · exact isStage_of_mem_writeStages h
  · exact isStage_of_mem_readStages h

theorem offered_eq (o : Options) (side : Side) (group : String) (set : PortSettings) (s : State) :
    side.offered o group set s = chainEnd group set := by
  cases side
  · exact (writeChain_end o group set s).1
  · exact (readChain_end o group set s).1

/-- The line of the processor for a stream. -/
def line (side : Side) (id : UInt8) : Line :=
  .bus (side.interface id) (.ident (side.group id))

theorem line_kind (side : Side) (id : UInt8) : (side.line id).kind = .busInterface := rfl

theorem line_lookup (side side' : Side) (id id' : UInt8) :
    ((side'.line id').assignments.find? (·.name == side.interface id)).map (·.value) =
      if side' = side ∧ id' = id then some (.ident (side.group id)) else none := by
  split
  · rename_i hsame
    obtain ⟨rfl, rfl⟩ := hsame
    simp [line, Line.bus]
  · rename_i hother
    have hname : side'.interface id' ≠ side.interface id := fun heq => hother (interface_inj heq)
    simp [line, Line.bus, hname]

end Side

namespace Hardware

open Descriptor (Line Block)

/-! ## The stages of a stream -/

section Stages

variable (group : String) (set : PortSettings)

theorem writeStages_path :
    AdapterPath ⟨group, 32⟩ (writeStages group set)
      ⟨chainEnd group set, set.bitWidth.toInt⟩ := by
  have hqueue : AdapterPath ⟨group, 32⟩
      (if 0 < set.hwQueue then
        [queueBlock (group ++ "_queue") set.hwQueue group (group ++ "_queue")] else [])
      ⟨if 0 < set.hwQueue then group ++ "_queue" else group, 32⟩ := by
    split
    · exact queue_path ..
    · exact .nil _
  refine hqueue.append ?_
  unfold chainEnd
  by_cases hwidth : set.bitWidth = PortSettings.defaultBitWidth
  · simp only [hwidth, bne_self_eq_false, if_neg Bool.false_ne_true, defaultBitWidth_toInt]
    exact .nil _
  · simp only [bne_iff_ne.2 hwidth, if_true, ← defaultBitWidth_toInt]
    exact resizer_path ..

theorem readStages_path :
    AdapterPath ⟨chainEnd group set, set.bitWidth.toInt⟩ (readStages group set).reverse
      ⟨group, 32⟩ := by
  have hqueue : AdapterPath ⟨if 0 < set.hwQueue then group ++ "_queue" else group, 32⟩
      (List.reverse (if 0 < set.hwQueue then
        [queueBlock (group ++ "_queue") set.hwQueue (group ++ "_queue") group] else []))
      ⟨group, 32⟩ := by
    split
    · exact queue_path ..
    · exact .nil _
  unfold readStages chainEnd
  rw [List.reverse_append]
  refine AdapterPath.append ?_ hqueue
  by_cases hwidth : set.bitWidth = PortSettings.defaultBitWidth
  · simp only [hwidth, bne_self_eq_false, if_neg Bool.false_ne_true, defaultBitWidth_toInt]
    exact .nil _
  · simp only [bne_iff_ne.2 hwidth, if_true, ← defaultBitWidth_toInt]
    exact resizer_path ..

/-- The stages of a stream lead from the processor to the core, or back. -/
theorem stages_join (side : Side) :
    side.Joins ⟨group, 32⟩ (side.stages group set) ⟨chainEnd group set, set.bitWidth.toInt⟩ := by
  cases side
  · exact writeStages_path group set
  · exact readStages_path group set

/-- There is a queue if one is asked for, then a resizer if the width is another. -/
theorem stages_names (side : Side) :
    (side.stages group set).map (fun block => (block.name, block.instanceName)) =
      (if 0 < set.hwQueue then [("queue", group ++ "_queue")] else []) ++
        if set.bitWidth ≠ 32 then [("resizer", group ++ "_mux")] else [] := by
  cases side <;> by_cases hqueue : 0 < set.hwQueue <;> by_cases hwidth : set.bitWidth = 32 <;>
    simp [Side.stages, writeStages, readStages, PortSettings.defaultBitWidth, hqueue, hwidth]

theorem queue_width {side : Side} {block : Block} (h : block ∈ side.stages group set)
    (hqueue : block.name = "queue") : block.number? "C_WIDTH" = some 32 := by
  cases Side.isStage_of_mem h with
  | queue depth source target => rfl
  | resizer inWidth outWidth source target => simp at hqueue

end Stages

/-! ## The blocks of a stream -/

/-- The blocks that are named as the queue or the resizer of a stream. -/
def chainBlocks (group : String) (blocks : List Block) : List Block :=
  blocks.filter fun block => [group ++ "_queue", group ++ "_mux"].contains block.instanceName

theorem chainBlocks_append (group : String) (blocks blocks' : List Block) :
    chainBlocks group (blocks ++ blocks') = chainBlocks group blocks ++ chainBlocks group blocks' :=
  List.filter_append ..

theorem chainBlocks_flatMap {α : Type} (group : String) (f : α → List Block) (as : List α) :
    chainBlocks group (as.flatMap f) = as.flatMap fun a => chainBlocks group (f a) :=
  List.filter_flatMap

/-- Blocks whose names end otherwise belong to no stream. -/
theorem chainBlocks_eq_nil (group : String) {blocks : List Block}
    (h : ∀ block ∈ blocks, Text.ends "_queue" block.instanceName = false ∧
      Text.ends "_mux" block.instanceName = false) : chainBlocks group blocks = [] := by
  refine List.filter_eq_nil_iff.2 fun block hblock hnamed => ?_
  obtain ⟨hqueue, hmux⟩ := h block hblock
  simp only [List.contains_eq_mem, List.mem_cons, List.not_mem_nil, or_false,
    decide_eq_true_eq] at hnamed
  rcases hnamed with hnamed | hnamed
  · rw [hnamed, Text.ends_append_self] at hqueue
    cases hqueue
  · rw [hnamed, Text.ends_append_self] at hmux
    cases hmux

theorem chainBlocks_medium (group : String) (m : Medium) :
    chainBlocks group (mediumBlocks m) = [] :=
  chainBlocks_eq_nil group (forall_mediumBlocks (by decide) (by decide) (by decide) m)

theorem chainBlocks_device (group : String) (g : Gpio) (input : Bool) :
    chainBlocks group (deviceBlocks g input) = [] := by
  have hdevices : ∀ d ∈ Catalog.devices, Text.ends "_queue" d.block.instanceName = false ∧
      Text.ends "_mux" d.block.instanceName = false := by decide
  refine chainBlocks_eq_nil group fun block hblock => ?_
  unfold deviceBlocks at hblock
  split at hblock
  · cases hblock
  · rename_i d hd
    rw [List.mem_singleton.1 (List.mem_ite_nil_right.1 hblock).2]
    exact hdevices d (List.mem_of_find?_eq_some hd)

/-- The name of a stage shows its group in front of an underscore. -/
theorem IsStage.instanceName_toList {group : String} {block : Block} (h : IsStage group block) :
    ∃ rest, block.instanceName.toList = group.toList ++ '_' :: rest := by
  cases h with
  | queue depth source target => exact ⟨_, String.toList_append⟩
  | resizer inWidth outWidth source target => exact ⟨_, String.toList_append⟩

theorem IsStage.named {group : String} {block : Block} (h : IsStage group block) :
    [group ++ "_queue", group ++ "_mux"].contains block.instanceName = true := by
  cases h with
  | queue depth source target => simp
  | resizer inWidth outWidth source target => simp

/-- The stages of one stream, among those of another or of itself. -/
theorem chainBlocks_stages (side side' : Side) (id id' : UInt8) (set : PortSettings) :
    chainBlocks (side.group id) (side'.stages (side'.group id') set) =
      if side' = side ∧ id' = id then side'.stages (side'.group id') set else [] := by
  split
  · rename_i hsame
    obtain ⟨rfl, rfl⟩ := hsame
    exact List.filter_eq_self.2 fun block hblock => (Side.isStage_of_mem hblock).named
  · rename_i hother
    refine List.filter_eq_nil_iff.2 fun block hblock hnamed => hother ?_
    obtain ⟨rest, hrest⟩ := (Side.isStage_of_mem hblock).instanceName_toList
    simp only [List.contains_eq_mem, List.mem_cons, List.not_mem_nil, or_false,
      decide_eq_true_eq] at hnamed
    rcases hnamed with hnamed | hnamed
    · rw [hnamed, String.toList_append] at hrest
      exact Side.group_of_marked hrest.symm
    · rw [hnamed, String.toList_append] at hrest
      exact Side.group_of_marked hrest.symm

theorem toList_flatMap_ite {α β : Type} [DecidableEq α] (found : Option α) (a : α) (p : Prop)
    [Decidable p] (f : α → List β) :
    (found.toList.flatMap fun x => if p ∧ x = a then f x else []) =
      if p ∧ found = some a then f a else [] := by
  cases found with
  | none => simp
  | some x =>
    rw [Option.toList_some, List.flatMap_singleton]
    by_cases hx : x = a
    · simp [hx]
    · simp [hx]

/-- What a CPU binding contributes to the blocks of a stream: everything if the
stream is its own, else nothing. -/
theorem chainBlocks_streamStages (side : Side) (id : UInt8) (set : PortSettings) (s : Streams) :
    chainBlocks (side.group id) (streamStages set s) =
      if side.id? s = some id then side.stages (side.group id) set else [] := by
  have hwrite : ∀ id', chainBlocks (side.group id) (writeStages ("m" ++ idText id') set) =
      if .write = side ∧ id' = id then writeStages ("m" ++ idText id') set else [] :=
    fun id' => chainBlocks_stages side .write id id' set
  have hread : ∀ id', chainBlocks (side.group id) (readStages ("s" ++ idText id') set) =
      if .read = side ∧ id' = id then readStages ("s" ++ idText id') set else [] :=
    fun id' => chainBlocks_stages side .read id id' set
  unfold streamStages
  rw [chainBlocks_append, chainBlocks_flatMap, chainBlocks_flatMap]
  simp only [hwrite, hread, toList_flatMap_ite]
  cases side with
  | write =>
    by_cases hid : s.master = some id <;> simp [Side.id?, Side.stages, Side.group, idText, hid]
  | read =>
    by_cases hid : s.slave = some id <;> simp [Side.id?, Side.stages, Side.group, idText, hid]

/-! ## Who has a stream -/

/-- The CPU binding of a call, if it has the stream. -/
def holder (side : Side) (id : UInt8) : Call → List Axis
  | .axis a => if side.id? a.streams = some id then [a] else []
  | _ => []

/-- The numbers of the streams of one side. -/
def numbersOf (side : Side) (calls : List Call) : List UInt8 :=
  calls.flatMap (Call.streamLog fun _ s => (side.id? s).toList)

theorem length_holders (side : Side) (id : UInt8) (calls : List Call) :
    (calls.flatMap (holder side id)).length = (numbersOf side calls).count id := by
  unfold numbersOf
  induction calls with
  | nil => rfl
  | cons call calls ih =>
    rw [List.flatMap_cons, List.flatMap_cons, List.length_append, List.count_append, ih]
    congr 1
    cases call with
    | axis a =>
      simp only [Call.streamLog, holder]
      cases side.id? a.streams with
      | none => rfl
      | some other =>
        by_cases hid : other = id
        · simp [hid]
        · simp [hid]
    | _ => rfl

/-- No number is given to two streams. -/
theorem numbersOf_nodup (side : Side) (b : Board) : (numbersOf side b.inside).Nodup := by
  have hnumbers : numbersOf side b.inside =
      (List.range (min (b.places.countP (b.asks side.asked)) 16)).map UInt8.ofNat := by
    have hlog := b.flatMap_streamLog (f := fun _ s => (side.id? s).toList.map fun id => id)
      fun _ => by cases side <;> rfl
    rw [map_streamsOn side.id? fun _ id => id] at hlog
    rw [← Board.streams_numbered (b.id?_streamsAfter side)]
    unfold numbersOf
    simpa using hlog
  rw [hnumbers]
  refine List.Nodup.map_on ?_ List.nodup_range
  intro i hi j hj heq
  rw [List.mem_range] at hi hj
  have hnat := congrArg UInt8.toNat heq
  rw [UInt8.toNat_ofNat', UInt8.toNat_ofNat'] at hnat
  omega

/-- A stream has one binding. -/
theorem holders_eq {b : Board} {a : Axis} (ha : .axis a ∈ b.inside) {side : Side} {id : UInt8}
    (hid : side.id? a.streams = some id) : b.inside.flatMap (holder side id) = [a] := by
  have hmem : a ∈ b.inside.flatMap (holder side id) := by
    refine List.mem_flatMap.2 ⟨.axis a, ha, ?_⟩
    simp [holder, hid]
  have hlength : (b.inside.flatMap (holder side id)).length ≤ 1 := by
    rw [length_holders]
    exact List.nodup_iff_count_le_one.1 (numbersOf_nodup side b) id
  obtain ⟨other, hother⟩ := List.length_eq_one_iff.1
    (Nat.le_antisymm hlength (List.length_pos_of_mem hmem))
  rw [hother] at hmem ⊢
  rw [List.mem_singleton.1 hmem]

theorem chainBlocks_call (side : Side) (id : UInt8) (call : Call) :
    chainBlocks (side.group id) (callBlocks call) =
      (holder side id call).flatMap fun a => side.stages (side.group id) a.settings := by
  cases call with
  | input g _ => exact chainBlocks_device _ g true
  | output g _ => exact chainBlocks_device _ g false
  | axis a =>
    simp only [callBlocks, holder, chainBlocks_streamStages]
    split
    · exact (List.flatMap_singleton ..).symm
    · rfl
  | _ => rfl

/-- The blocks of a stream in front of the processor are its stages. -/
theorem chainBlocks_front {b : Board} {a : Axis} (ha : .axis a ∈ b.inside) {side : Side}
    {id : UInt8} (hid : side.id? a.streams = some id) :
    chainBlocks (side.group id) (mediumBlocks b.medium ++ b.inside.flatMap callBlocks) =
      side.stages (side.group id) a.settings := by
  rw [chainBlocks_append, chainBlocks_medium, chainBlocks_flatMap, List.nil_append]
  simp only [chainBlocks_call]
  rw [← List.flatMap_assoc, holders_eq ha hid, List.flatMap_singleton]

/-! ## The nets of a stream -/

/-- The nets of a chain: the one at the processor and those of its blocks. -/
def netsOf (group : String) (blocks : List Block) : List String :=
  group :: blocks.flatMap fun block =>
    (block.net? "S_AXIS").toList ++ (block.net? "M_AXIS").toList

theorem netsOf_stages (side : Side) (group : String) (set : PortSettings) :
    netsOf group (side.stages group set) ⊆ chainNets group set := by
  cases side <;> by_cases hqueue : 0 < set.hwQueue <;>
    by_cases hwidth : set.bitWidth = PortSettings.defaultBitWidth <;>
    simp [netsOf, chainNets, Side.stages, writeStages, readStages, hqueue, hwidth]

theorem mem_streamLines {s : Streams} {line : Line} :
    line ∈ streamLines s ↔ ∃ side id, Side.id? side s = some id ∧ line = side.line id := by
  unfold streamLines
  rw [List.mem_append, List.mem_map, List.mem_map]
  constructor
  · rintro (⟨id, hid, rfl⟩ | ⟨id, hid, rfl⟩)
    · exact ⟨.write, id, Option.mem_toList.1 hid, rfl⟩
    · exact ⟨.read, id, Option.mem_toList.1 hid, rfl⟩
  · rintro ⟨side, id, hid, rfl⟩
    cases side with
    | write => exact .inl ⟨id, Option.mem_toList.2 hid, rfl⟩
    | read => exact .inr ⟨id, Option.mem_toList.2 hid, rfl⟩

/-- The lines of the processor for streams have no other net under the name of one. -/
theorem processorLines_lookup {b : Board} {a : Axis} (ha : .axis a ∈ b.inside) {side : Side}
    {id : UInt8} (hid : side.id? a.streams = some id) :
    Block.lookup? { name := "", lines := b.inside.flatMap processorLines } .busInterface
      (side.interface id) = some (.ident (side.group id)) := by
  have hlines : ∀ line ∈ b.inside.flatMap processorLines,
      ∃ side' id', line = Side.line side' id' := by
    intro line hline
    obtain ⟨call, -, hline⟩ := List.mem_flatMap.1 hline
    cases call with
    | axis a =>
      obtain ⟨side', id', -, rfl⟩ := mem_streamLines.1 hline
      exact ⟨side', id', rfl⟩
    | _ => cases hline
  have hown : side.line id ∈ b.inside.flatMap processorLines :=
    List.mem_flatMap.2 ⟨.axis a, ha, mem_streamLines.2 ⟨side, id, hid, rfl⟩⟩
  -- All lines with this name are equal, so it does not matter which one is found.
  cases hfound : Block.lookup? { name := "", lines := b.inside.flatMap processorLines }
      .busInterface (side.interface id) with
  | none =>
    have hnone := List.findSome?_eq_none_iff.1 hfound _ hown
    rw [if_pos (Side.line_kind side id), Side.line_lookup, if_pos ⟨rfl, rfl⟩] at hnone
    cases hnone
  | some value =>
    obtain ⟨line, hline, hvalue⟩ := List.exists_of_findSome?_eq_some hfound
    obtain ⟨side', id', rfl⟩ := hlines line hline
    rw [if_pos (Side.line_kind side' id'), Side.line_lookup] at hvalue
    split at hvalue
    · exact hvalue.symm
    · cases hvalue

/-- The processor is connected to its streams under their numbers. -/
theorem processor_net? {b : Board} {a : Axis} (ha : .axis a ∈ b.inside) {side : Side} {id : UInt8}
    (hid : side.id? a.streams = some id) (lines : List Line) :
    (processor.add (b.inside.flatMap processorLines ++ lines)).net? (side.interface id) =
      some (side.group id) := by
  have hends : ∀ name ∈ processor.interfaces, Text.ends "_AXIS" name = false := by decide
  have hfree : side.interface id ∉ processor.interfaces := by
    intro hmem
    have hname := hends _ hmem
    cases side with
    | write => simp [Side.interface] at hname
    | read => simp [Side.interface] at hname
  unfold Block.net?
  rw [← Block.add_add, Block.lookup?_add, Block.lookup?_add,
    Block.lookup?_of_not_mem_interfaces hfree, processorLines_lookup ha hid]
  rfl

/-! ## The finished system -/

/-- A stream of a system: the blocks in front of the processor that bear its name
are its queue and its resizer, as far as its settings ask for them, and lead from
the processor to the net that is offered to the core, or back. -/
structure Chain (o : Options) (cpu : Block) (front : List Block) (side : Side) (id : UInt8)
    (set : PortSettings) : Prop where
  start : cpu.net? (side.interface id) = some (side.group id)
  blocks : (chainBlocks (side.group id) front).map (fun block => (block.name, block.instanceName)) =
    (if 0 < set.hwQueue then [("queue", side.group id ++ "_queue")] else []) ++
      if set.bitWidth ≠ 32 then [("resizer", side.group id ++ "_mux")] else []
  path : ∀ s, side.Joins ⟨side.group id, 32⟩ (chainBlocks (side.group id) front)
    ⟨side.offered o (side.group id) set s, set.bitWidth.toInt⟩
  queue : ∀ block ∈ chainBlocks (side.group id) front, block.name = "queue" →
    block.number? "C_WIDTH" = some 32

theorem chain_of_stream (o : Options) {b : Board} {a : Axis} (ha : .axis a ∈ b.inside)
    {side : Side} {id : UInt8} (hid : side.id? a.streams = some id) (lines : List Line) :
    Chain o (processor.add (b.inside.flatMap processorLines ++ lines))
      (mediumBlocks b.medium ++ b.inside.flatMap callBlocks) side id a.settings := by
  -- What is found by name in the descriptor is what the settings ask for.
  have hstages := chainBlocks_front ha hid
  constructor
  · exact processor_net? ha hid lines
  · rw [hstages]
    exact stages_names (side.group id) a.settings side
  · intro s
    rw [hstages, Side.offered_eq]
    exact stages_join (side.group id) a.settings side
  · intro block hblock
    rw [hstages] at hblock
    exact queue_width (side.group id) a.settings hblock

/-- Streams with a net in common are one. -/
theorem stream_of_net {b : Board} {a a' : Axis} (ha : .axis a ∈ b.inside)
    (ha' : .axis a' ∈ b.inside) {side side' : Side} {id id' : UInt8}
    (hid : side.id? a.streams = some id) (hid' : side'.id? a'.streams = some id')
    {net : String} (hnet : net ∈ netsOf (side.group id) (side.stages (side.group id) a.settings))
    (hnet' : net ∈ netsOf (side'.group id') (side'.stages (side'.group id') a'.settings)) :
    a = a' ∧ side = side' ∧ id = id' := by
  obtain ⟨rfl, rfl⟩ := Side.chainNets_inj (netsOf_stages _ _ _ hnet) (netsOf_stages _ _ _ hnet')
  refine ⟨?_, rfl, rfl⟩
  have hholders := (holders_eq ha hid).symm.trans (holders_eq ha' hid')
  exact (List.cons.inj hholders).1

theorem axis_inside {b : Board} {a : Axis} (h : .axis a ∈ b.traversal) : .axis a ∈ b.inside := by
  rw [Board.traversal_eq] at h
  simpa using h

/-- The streams of a system lead through chains of adapters.  In front of the
processor each stream has its queue and its resizer and no other blocks, and these
lead from its net on the processor to the net that is offered to the core, or back;
the width changes at the resizer only, and the queue is on the processor's side of
it.  Two streams have no net in common. -/
theorem adapter_chains_are_paths (o : Options) (b : Board) {project : Result}
    (h : (Backend.hardware o).run b = .ok project) :
    ∃ (system : DescriptorFile) (front : List Block) (cpu : Block) (back : List Block),
      project.findDescriptor? "system.mhs" = some system ∧
      system.descriptor.blocks = front ++ cpu :: back ∧
      cpu.name = "microblaze" ∧ (∀ block ∈ front, block.name ≠ "microblaze") ∧
      (∀ a side id, .axis a ∈ b.traversal → Side.id? side a.streams = some id →
        Chain o cpu front side id a.settings) ∧
      ∀ a a' side side' id id', .axis a ∈ b.traversal → .axis a' ∈ b.traversal →
        Side.id? side a.streams = some id → Side.id? side' a'.streams = some id' →
        ∀ net ∈ netsOf (side.group id) (chainBlocks (side.group id) front),
          net ∈ netsOf (side'.group id') (chainBlocks (side'.group id') front) →
          a = a' ∧ side = side' ∧ id = id' := by
  obtain ⟨system, lines, hsystem, hblocks, -⟩ := run_system h
  refine ⟨system, _, _, _, hsystem, hblocks, rfl, front_name_ne "microblaze" (by decide) b, ?_, ?_⟩
  · intro a side id ha hid
    exact chain_of_stream o (axis_inside ha) hid lines
  · intro a a' side side' id id' ha ha' hid hid' net hnet hnet'
    rw [chainBlocks_front (axis_inside ha) hid] at hnet
    rw [chainBlocks_front (axis_inside ha') hid'] at hnet'
    exact stream_of_net (axis_inside ha) (axis_inside ha') hid hid' hnet hnet'

/-- A board with streams both ways, with a queue, with a resizer and with both. -/
def trunkBoard : Board where
  cores := [{ name := "codec", ports := [
    { name := "io", direction := .dual },
    { name := "level", direction := .input },
    { name := "tap", direction := .output }] }]
  instances := [{ name := "c", core := "codec", bindings := [
    .cpu { port := "io", options := [.hwQueue 4, .bitWidth 16] },
    .cpu { port := "level", options := [.hwQueue 2] },
    .cpu { port := "tap", options := [.hwQueue 0, .bitWidth 8] }] }]

theorem adapter_chains_are_paths_trunk :
    ∃ (project : Result) (system : DescriptorFile) (front : List Block) (cpu : Block)
      (back : List Block), (Backend.hardware {}).run trunkBoard = .ok project ∧
      project.findDescriptor? "system.mhs" = some system ∧
      system.descriptor.blocks = front ++ cpu :: back ∧
      cpu.net? "M0_AXIS" = some "m0" ∧
      (chainBlocks "m0" front).map (fun block => (block.name, block.instanceName)) =
        [("queue", "m0_queue"), ("resizer", "m0_mux")] ∧
      AdapterPath ⟨"m0", 32⟩ (chainBlocks "m0" front) ⟨"m0_mux", 16⟩ ∧
      cpu.net? "S1_AXIS" = some "s1" ∧
      (chainBlocks "s1" front).map (fun block => (block.name, block.instanceName)) =
        [("resizer", "s1_mux")] ∧
      AdapterPath ⟨"s1_mux", 8⟩ (chainBlocks "s1" front).reverse ⟨"s1", 32⟩ := by
  obtain ⟨project, hproject⟩ : ∃ project, (Backend.hardware {}).run trunkBoard = .ok project :=
    ⟨_, rfl⟩
  obtain ⟨io, hio, hmaster, hset⟩ : ∃ a, .axis a ∈ trunkBoard.traversal ∧
      Side.write.id? a.streams = some 0 ∧
      a.settings = { hwQueue := 4, swQueue := 1024, bitWidth := 16 } :=
    ⟨_, List.mem_of_getElem? (i := 5) rfl, rfl, rfl⟩
  obtain ⟨tap, htap, hslave, hset'⟩ : ∃ a, .axis a ∈ trunkBoard.traversal ∧
      Side.read.id? a.streams = some 1 ∧
      a.settings = { hwQueue := 0, swQueue := 1024, bitWidth := 8 } :=
    ⟨_, List.mem_of_getElem? (i := 7) rfl, rfl, rfl⟩
  obtain ⟨system, front, cpu, back, hsystem, hblocks, -, -, hchains, -⟩ :=
    adapter_chains_are_paths {} trunkBoard hproject
  have hwrite := hchains io .write 0 hio hmaster
  have hread := hchains tap .read 1 htap hslave
  rw [hset] at hwrite
  rw [hset'] at hread
  exact ⟨project, system, front, cpu, back, hproject, hsystem, hblocks, hwrite.start, hwrite.blocks,
    hwrite.path {}, hread.start, hread.blocks, hread.path {}⟩

end Hardware

end Boardwright
