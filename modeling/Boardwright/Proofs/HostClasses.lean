import Boardwright.Proofs.HostObjects
import Boardwright.Proofs.SoundBoard

/-!
# Classes of the host API and the objects made from them

The constructor of a class has parameters by the directions of the ports; the
object of the class has arguments by the streams that were granted.  On a board
without a defect both come from one list, the slots of the ports.

* `Board.boundPorts` is the list of ports that host software reaches on an
  instance, with their streams, and `connectionsOf_ports` finds it in the calls.
* `Ported` is what some ports add to a class; `addPorts_ported` is the run over
  the connections of an instance.
* A port is served if it has exactly the streams that it asks for.  Then the
  arguments for it are the numbers of its slots: `arguments_of_served`.
* `Builds` is what a call adds to the classes, and `lastState_builds` the run.

`classes_fit_objects` puts a class and an object next to every instance with a CPU
binding, and collects the arguments of all objects by side.
-/

namespace Boardwright

/-! ## Ports that host software reaches -/

/-- The port and the streams of a CPU binding that is called for. -/
def Call.boundPorts : Call → List (Port × Streams)
  | .axis a => [(a.port, a.streams)]
  | _ => []

/-- A port has one of the three directions and exactly the streams that it asks for. -/
structure Served (x : Port × Streams) : Prop where
  proper : x.1.direction.Proper
  master : x.2.master.isSome = x.1.direction.isMaster
  slave : x.2.slave.isSome = x.1.direction.isSlave

/-- Three ways to be served, one for each direction. -/
theorem Served.streams {p : Port} {s : Streams} (h : Served (p, s)) :
    (p.direction = .input ∧ ∃ id, s = { master := some id }) ∨
      (p.direction = .output ∧ ∃ id, s = { slave := some id }) ∨
      p.direction = .dual ∧ ∃ id id', s = { master := some id, slave := some id' } := by
  obtain ⟨master, slave⟩ := s
  obtain ⟨hproper, hmaster, hslave⟩ := h
  rcases hproper with hd | hd | hd
  · rw [hd] at hmaster hslave
    obtain ⟨id, rfl⟩ := Option.isSome_iff_exists.1 hmaster
    obtain rfl := Option.isNone_iff_eq_none.1 (Option.isSome_eq_false_iff.1 hslave)
    exact .inl ⟨hd, id, rfl⟩
  · rw [hd] at hmaster hslave
    obtain rfl := Option.isNone_iff_eq_none.1 (Option.isSome_eq_false_iff.1 hmaster)
    obtain ⟨id, rfl⟩ := Option.isSome_iff_exists.1 hslave
    exact .inr (.inl ⟨hd, id, rfl⟩)
  · rw [hd] at hmaster hslave
    obtain ⟨id, rfl⟩ := Option.isSome_iff_exists.1 hmaster
    obtain ⟨id', rfl⟩ := Option.isSome_iff_exists.1 hslave
    exact .inr (.inr ⟨hd, id, id', rfl⟩)

namespace Board

/-- The ports of the given grants of an instance, as far as they have one of the three
directions. -/
def boundPorts (b : Board) (inst : Instance) (grants : List Grant) : List (Port × Streams) :=
  grants.flatMap fun (c, s) =>
    ((b.port? ⟨inst, .cpu c⟩).filter fun port => decide port.direction.Proper).toList.map (·, s)

/-- Every instance that host software sees, with the grants of its CPU bindings. -/
def hosted (b : Board) : List (Instance × List Grant) :=
  (b.instances.zip b.grants).filter fun (inst, _) => inst.hasCpuBinding

section Places

variable {b : Board} {front back : List Place} {p : Place}

/-- A CPU binding is called for if its port has one of the three directions. -/
theorem bindingCalls_ports (h : b.Sound) (hsplit : b.places = front ++ p :: back) :
    (b.bindingCalls front p).flatMap Call.boundPorts =
      b.boundPorts p.inst (b.grantsAt front p) := by
  obtain ⟨port, hport⟩ := Option.isSome_iff_exists.1 (h.ports p (by simp [hsplit]))
  obtain ⟨inst, binding⟩ := p
  unfold bindingCalls
  rw [hport]
  cases binding with
  | link l =>
    simp only [linkCalls]
    split
    · rfl
    · split <;> rfl
  | cpu c =>
    have hcpu : b.cpuPort? ⟨inst, .cpu c⟩ = some port := hport
    obtain ⟨hmaster, hslave⟩ := h.streams_isSome hsplit hcpu
    simp only [axisCalls]
    by_cases hproper : port.direction.Proper
    · have hsome : ¬ ((b.streamsAfter front ⟨inst, .cpu c⟩).master = none ∧
          (b.streamsAfter front ⟨inst, .cpu c⟩).slave = none) := by
        rintro ⟨hnone, hnone'⟩
        rw [hnone] at hmaster
        rw [hnone'] at hslave
        rcases hproper with hd | hd | hd
        · rw [hd] at hmaster
          cases hmaster
        · rw [hd] at hslave
          cases hslave
        · rw [hd] at hmaster
          cases hmaster
      rw [if_neg hsome]
      simp [boundPorts, grantsAt, Binding.cpu?, hport, hproper, Option.filter, Call.boundPorts]
    · have hother : port.direction.isMaster = false ∧ port.direction.isSlave = false := by
        cases hd : port.direction with
        | input => exact absurd (.inl hd) hproper
        | output => exact absurd (.inr (.inl hd)) hproper
        | dual => exact absurd (.inr (.inr hd)) hproper
        | other name => exact ⟨rfl, rfl⟩
      rw [hother.1, Option.isSome_eq_false_iff, Option.isNone_iff_eq_none] at hmaster
      rw [hother.2, Option.isSome_eq_false_iff, Option.isNone_iff_eq_none] at hslave
      rw [if_pos ⟨hmaster, hslave⟩]
      simp [boundPorts, grantsAt, Binding.cpu?, hport, hproper]

theorem boundPorts_served (h : b.Sound) (hsplit : b.places = front ++ p :: back) :
    ∀ x ∈ b.boundPorts p.inst (b.grantsAt front p), Served x := by
  intro x hx
  obtain ⟨⟨c, s⟩, hgrant, hx⟩ := List.mem_flatMap.1 hx
  obtain ⟨port, hport, rfl⟩ := List.mem_map.1 hx
  obtain ⟨hport, hproper⟩ := Option.filter_eq_some_iff.1 (Option.mem_toList.1 hport)
  obtain ⟨c', hc, hpair⟩ := List.mem_map.1 hgrant
  obtain ⟨rfl, rfl⟩ := Prod.mk.inj hpair
  obtain ⟨inst, binding⟩ := p
  cases binding with
  | link l => cases hc
  | cpu c =>
    obtain rfl := Option.some.inj (Option.mem_toList.1 hc)
    have hcpu : b.cpuPort? ⟨inst, .cpu c⟩ = some port := hport
    obtain ⟨hmaster, hslave⟩ := h.streams_isSome hsplit hcpu
    exact ⟨of_decide_eq_true hproper, hmaster, hslave⟩

end Places

section Instances

variable {b : Board} {earlier later : List Instance} {inst : Instance}

theorem inst_of_place {before after : List Place} {p : Place}
    (h : inst.places = before ++ p :: after) : p.inst = inst := by
  have hp : p ∈ inst.places := by simp [h]
  obtain ⟨binding, -, rfl⟩ := List.mem_map.1 hp
  rfl

/-- The bindings around one of an instance. -/
theorem places_of_instance (hinst : b.instances = earlier ++ inst :: later)
    {before after : List Place} {p : Place} (hplace : inst.places = before ++ p :: after) :
    b.places = earlier.flatMap Instance.places ++ before ++
      p :: (after ++ later.flatMap Instance.places) := by
  unfold places
  rw [hinst, List.flatMap_append, List.flatMap_cons, hplace]
  simp only [List.append_assoc, List.cons_append]

/-- The calls for an instance bring its ports, in the order of the bindings. -/
theorem connectionsOf_ports (h : b.Sound) (hinst : b.instances = earlier ++ inst :: later) :
    (b.connectionsOf earlier inst).flatMap Call.boundPorts =
      b.boundPorts inst (b.grantsOf earlier inst) := by
  unfold connectionsOf grantsOf boundPorts
  rw [flatMap_eachAfter, flatMap_eachAfter]
  refine eachAfter_congr_of_split fun before p after hplace => ?_
  have hp := inst_of_place hplace
  have hcalls := bindingCalls_ports h (places_of_instance hinst hplace)
  rw [hp] at hcalls
  exact hcalls

theorem served_of_instance (h : b.Sound) (hinst : b.instances = earlier ++ inst :: later) :
    ∀ x ∈ b.boundPorts inst (b.grantsOf earlier inst), Served x := by
  intro x hx
  obtain ⟨grant, hgrant, hx⟩ := List.mem_flatMap.1 hx
  obtain ⟨before, p, after, hplace, hgrant⟩ := mem_eachAfter.1 hgrant
  have hp := inst_of_place hplace
  refine boundPorts_served h (places_of_instance hinst hplace) x ?_
  rw [hp]
  exact List.mem_flatMap.2 ⟨grant, hgrant, hx⟩

/-- What belongs to the streams of an instance can be read off its ports: a binding
without a port of a proper direction has no stream. -/
theorem flatMap_boundPorts {τ : Type} {f : Streams → List τ} (hf : f {} = []) (h : b.Sound)
    (hinst : b.instances = earlier ++ inst :: later) :
    (b.boundPorts inst (b.grantsOf earlier inst)).flatMap (fun (_, s) => f s) =
      (b.grantsOf earlier inst).flatMap fun (_, s) => f s := by
  rw [← connectionsOf_ports h hinst, List.flatMap_assoc]
  refine Eq.trans ?_ (connectionsOf_streamLog (f := fun _ => f) (fun _ => hf) earlier inst)
  refine List.flatMap_congr fun call _ => ?_
  cases call with
  | axis a => exact List.append_nil _
  | _ => rfl

end Instances

end Board

/-! ## What a port adds to a class -/

namespace Host

open Source (Attribute Module Parameter)

/-- A class got a member, an initialisation, a deletion and its parameters for each of some
ports. -/
structure Ported (ports : List (Port × Streams)) (cls cls' : Source.Class) : Prop where
  name : cls'.name = cls.name
  members : cls'.attributes = cls.attributes ++ ports.map fun (p, _) => portMember cls.name p
  params : cls'.constructor.params =
    cls.constructor.params ++ ports.flatMap fun (p, _) => (portParameters p).map Prod.fst
  inits : cls'.constructor.inits = cls.constructor.inits ++
    ports.map fun (p, _) => { name := p.name, args := [portExpression p] }
  deletes : cls'.destructor.body.lines =
    cls.destructor.body.lines ++ ports.map fun (p, _) => "delete " ++ p.name ++ ";"

namespace Ported

variable {ports ports' : List (Port × Streams)} {cls cls' cls'' : Source.Class}

theorem refl (cls : Source.Class) : Ported [] cls cls := by
  constructor
  · rfl
  all_goals exact (List.append_nil _).symm

theorem trans (h : Ported ports cls cls') (h' : Ported ports' cls' cls'') :
    Ported (ports ++ ports') cls cls'' := by
  constructor
  · exact h'.name.trans h.name
  · rw [h'.members, h.members, h.name, List.map_append, List.append_assoc]
  · rw [h'.params, h.params, List.flatMap_append, List.append_assoc]
  · rw [h'.inits, h.inits, List.map_append, List.append_assoc]
  · rw [h'.deletes, h.deletes, List.map_append, List.append_assoc]

end Ported

theorem addPort_ported (p : Port) (streams : Streams) (scope : Scope) :
    Ported [(p, streams)] scope.cls (addPort p streams scope).cls := by
  have hparams :
      ((portParameters p).foldl (fun c x => c.addParam x.1 x.2) scope.cls.constructor).params =
        scope.cls.constructor.params ++ (portParameters p).map Prod.fst ∧
      ((portParameters p).foldl (fun c x => c.addParam x.1 x.2) scope.cls.constructor).inits =
        scope.cls.constructor.inits := by
    unfold portParameters
    split
    · exact ⟨List.append_assoc .., rfl⟩
    · exact ⟨rfl, rfl⟩
  constructor
  · rfl
  · rfl
  · exact hparams.1.trans (congrArg _ (List.append_nil _).symm)
  · exact congrArg (· ++ _) hparams.2
  · rfl

/-- The connections of an instance add the ports that they are about. -/
theorem addPorts_ported (calls : List Call) (scope : Scope) :
    Ported (calls.flatMap Call.boundPorts) scope.cls (addPorts calls scope).cls := by
  induction calls generalizing scope with
  | nil => exact .refl _
  | cons call calls ih =>
    rw [List.flatMap_cons]
    cases call with
    | axis a => exact (addPort_ported a.port a.streams scope).trans (ih _)
    | _ => exact ih scope

/-! ## Slots -/

/-- A parameter of a constructor, with the stream that it stands for. -/
structure Slot where
  name : String
  /-- Whether the host writes to the stream. -/
  writes : Bool
  id : Option UInt8

/-- The slots of a port: the one to write to, then the one to read from. -/
def slots : Port × Streams → List Slot
  | (p, s) => match p.direction with
    | .input => [{ name := p.name, writes := true, id := s.master }]
    | .output => [{ name := p.name, writes := false, id := s.slave }]
    | .dual => [
        { name := p.name ++ "_in", writes := true, id := s.master },
        { name := p.name ++ "_out", writes := false, id := s.slave }]
    | .other .. => []

/-- What the member for a port is: its class, its remark and the expression that
constructs it from the parameters of the port. -/
structure Member where
  type : String
  remark : String
  expression : String

def memberOf (p : Port) : Member :=
  match p.direction with
  | .input => ⟨"in", "An in-going AXI-Stream port.", "new in(" ++ p.name ++ ")"⟩
  | .output => ⟨"out", "An out-going AXI-Stream port.", "new out(" ++ p.name ++ ")"⟩
  | .dual => ⟨"dual", "A bi-directional AXI-Stream port.",
      "new dual(" ++ p.name ++ "_in, " ++ p.name ++ "_out)"⟩
  | .other .. => ⟨"", "", ""⟩

/-- The stream of one side. -/
def onSide (writes : Bool) (s : Streams) : Option UInt8 := if writes then s.master else s.slave

/-- The arguments of an object for the slots of one side. -/
def argumentsOn (writes : Bool) (ports : List (Port × Streams)) (object : Attribute) :
    List String :=
  ((ports.flatMap slots).zip (arguments object)).filterMap fun (slot, arg) =>
    if slot.writes = writes then some arg else none

section Served

variable {p : Port} {s : Streams}

/-- The parameters of a port are its slots. -/
theorem parameters_of_served (h : Served (p, s)) :
    ((portParameters p).map Prod.fst).map Parameter.name = (slots (p, s)).map Slot.name := by
  unfold portParameters slots
  rcases h.streams with ⟨hd, -⟩ | ⟨hd, -⟩ | ⟨hd, -⟩ <;> simp [hd]

/-- The member for a port and its initialisation. -/
theorem member_of_served (h : Served (p, s)) (cls : String) :
    portMember cls p = {
      doc := { lines := [(memberOf p).remark,
        "Communicate with the #" ++ cls ++ " core through this port."] }
      modifiers := ["public"]
      type := .pointerTo (memberOf p).type
      name := p.name
      init := some (.expression "" [.quoted "component.h", .quoted "port.h"]) } ∧
      portExpression p = (memberOf p).expression := by
  unfold portMember portExpression memberOf
  rcases h.streams with ⟨hd, -⟩ | ⟨hd, -⟩ | ⟨hd, -⟩ <;>
    simp [hd, portType, portDoc, componentHeader, portHeader]

/-- The arguments for a port are the numbers of its slots. -/
theorem arguments_of_served (h : Served (p, s)) :
    (streamArguments s).map some =
      (slots (p, s)).map fun slot => slot.id.map fun id => toString id.toNat := by
  unfold slots
  rcases h.streams with ⟨hd, id, rfl⟩ | ⟨hd, id, rfl⟩ | ⟨hd, id, id', rfl⟩ <;>
    simp [hd, streamArguments, idText]

/-- The slots of one side are the stream of that side. -/
theorem slotsOn_of_served (h : Served (p, s)) (writes : Bool) :
    (slots (p, s)).filterMap
        (fun slot => if slot.writes = writes then slot.id.map (fun id => toString id.toNat)
          else none) =
      (onSide writes s).toList.map idText := by
  unfold slots
  rcases h.streams with ⟨hd, id, rfl⟩ | ⟨hd, id, rfl⟩ | ⟨hd, id, id', rfl⟩ <;>
    cases writes <;> simp [hd, onSide, idText]

end Served

/-- An element is kept with its partner if it is kept at all. -/
theorem filterMap_zip_of_map {α β : Type} {f : α → Option β} {as : List α} {bs : List β}
    (h : bs.map some = as.map f) (keep : α → Prop) [DecidablePred keep] :
    (as.zip bs).filterMap (fun (a, x) => if keep a then some x else none) =
      as.filterMap fun a => if keep a then f a else none := by
  induction as generalizing bs with
  | nil => rfl
  | cons a as ih =>
    cases bs with
    | nil => cases h
    | cons x bs =>
      obtain ⟨hhead, htail⟩ := List.cons.inj h
      rw [List.zip_cons_cons, List.filterMap_cons, List.filterMap_cons, ih htail]
      simp only
      split <;> simp_all

/-! ## One class and one object -/

/-- A class and an object belong to an instance with some ports.  The class lists the ports in
order.  There is one argument for each parameter, and it is the number of the stream that the
parameter stands for. -/
structure Agrees (inst : Instance) (ports : List (Port × Streams)) (cls : Source.Class)
    (object : Attribute) : Prop where
  className : cls.name = inst.name
  objectName : object.name = inst.name
  objectType : object.type = .named ("class " ++ inst.name)
  members : cls.attributes = ports.map fun (p, _) => {
    doc := { lines := [(memberOf p).remark,
      "Communicate with the #" ++ inst.name ++ " core through this port."] }
    modifiers := ["public"]
    type := .pointerTo (memberOf p).type
    name := p.name
    init := some (.expression "" [.quoted "component.h", .quoted "port.h"]) }
  inits : cls.constructor.inits =
    ports.map fun (p, _) => { name := p.name, args := [(memberOf p).expression] }
  deletes : cls.destructor.body.lines = ports.map fun (p, _) => "delete " ++ p.name ++ ";"
  params : cls.constructor.params.map Parameter.name = (ports.flatMap slots).map Slot.name
  args : (arguments object).map some =
    (ports.flatMap slots).map fun slot => slot.id.map fun id => toString id.toNat

theorem Agrees.argumentsOn {inst : Instance} {ports : List (Port × Streams)} {cls : Source.Class}
    {object : Attribute} (h : Agrees inst ports cls object) (hports : ∀ x ∈ ports, Served x)
    (writes : Bool) :
    argumentsOn writes ports object =
      ports.flatMap fun (_, s) => (onSide writes s).toList.map idText := by
  unfold Host.argumentsOn
  rw [filterMap_zip_of_map h.args (fun slot => slot.writes = writes), List.filterMap_flatMap]
  exact List.flatMap_congr fun x hx => slotsOn_of_served (hports x hx) writes

section Instances

variable {b : Board} {earlier later : List Instance} {inst : Instance}

/-- The object of an instance. -/
def instanceObject (b : Board) (earlier : List Instance) (inst : Instance) : Attribute :=
  objectOf inst.name ((b.grantsOf earlier inst).flatMap fun (_, s) => streamArguments s)

theorem instance_ported (h : b.Sound) (hinst : b.instances = earlier ++ inst :: later) :
    Ported (b.boundPorts inst (b.grantsOf earlier inst)) (emptyClass inst.name)
      (instanceScope b earlier inst).cls := by
  rw [← Board.connectionsOf_ports h hinst]
  exact addPorts_ported (b.connectionsOf earlier inst) { cls := emptyClass inst.name }

theorem instance_agrees (h : b.Sound) (hinst : b.instances = earlier ++ inst :: later) :
    Agrees inst (b.boundPorts inst (b.grantsOf earlier inst)) (instanceScope b earlier inst).cls
      (instanceObject b earlier inst) := by
  have hserved := Board.served_of_instance h hinst
  have hported := instance_ported h hinst
  constructor
  · exact hported.name
  · rfl
  · rfl
  · have hmembers : (instanceScope b earlier inst).cls.attributes = _ := hported.members
    rw [hmembers]
    exact List.map_congr_left fun x hx => (member_of_served (hserved x hx) inst.name).1
  · have hinits : (instanceScope b earlier inst).cls.constructor.inits = _ := hported.inits
    rw [hinits]
    refine List.map_congr_left ?_
    rintro ⟨p, s⟩ hx
    show Source.MemberInit.mk p.name [portExpression p] = _
    rw [(member_of_served (hserved (p, s) hx) inst.name).2]
  · exact hported.deletes
  · have hparams : (instanceScope b earlier inst).cls.constructor.params = _ := hported.params
    rw [hparams, List.map_append, List.map_flatMap, List.map_flatMap]
    exact List.flatMap_congr fun x hx => parameters_of_served (hserved x hx)
  · have hargs := Board.flatMap_boundPorts (f := streamArguments) rfl h hinst
    unfold instanceObject
    rw [arguments_objectOf, ← hargs, List.map_flatMap, List.map_flatMap]
    exact List.flatMap_congr fun x hx => arguments_of_served (hserved x hx)

/-- The arguments of one side are the streams of that side. -/
theorem instance_argumentsOn (h : b.Sound) (hinst : b.instances = earlier ++ inst :: later)
    (writes : Bool) :
    argumentsOn writes (b.boundPorts inst (b.grantsOf earlier inst))
        (instanceObject b earlier inst) =
      (b.grantsOf earlier inst).flatMap fun (_, s) =>
        (onSide writes s).toList.map idText := by
  rw [(instance_agrees h hinst).argumentsOn (Board.served_of_instance h hinst) writes]
  have hnone : (onSide writes {}).toList.map idText = [] := by cases writes <;> rfl
  exact Board.flatMap_boundPorts (f := fun s => (onSide writes s).toList.map idText) hnone h hinst

end Instances

/-! ## All classes and objects -/

/-- The components got some classes, and the constants stayed the same. -/
structure Builds (added : List Source.Class) (s s' : State) : Prop where
  classes : s'.components.classes = s.components.classes ++ added
  constants : s'.constants = s.constants

namespace Builds

variable {added added' : List Source.Class} {s s' s'' : State}

theorem refl (s : State) : Builds [] s s := ⟨(List.append_nil _).symm, rfl⟩

theorem trans (h : Builds added s s') (h' : Builds added' s' s'') :
    Builds (added ++ added') s s'' where
  classes := by rw [h'.classes, h.classes, List.append_assoc]
  constants := h'.constants.trans h.constants

end Builds

variable {b : Board}

theorem visit_builds (b : Board) (c : Counters) {call : Call} (hfront : isFront call = true)
    (hstart : call ≠ .start) (s : State) : Builds [] s (visit b c call s).state := by
  cases call with
  | start => exact absurd rfl hstart
  | medium m =>
    simp only [visit, addMedium]
    cases connection? m with
    | none => exact .refl s
    | some text => exact ⟨(List.append_nil _).symm, rfl⟩
  | input g id => exact ⟨(List.append_nil _).symm, rfl⟩
  | output g id => exact ⟨(List.append_nil _).symm, rfl⟩
  | bidirectional g inputId outputId => exact ⟨(List.append_nil _).symm, rfl⟩
  | defaultScheduler scheduler => exact .refl s
  | userScheduler scheduler lines => exact .refl s
  | core core => exact .refl s
  | _ => cases hfront

/-- The class of an instance, if host software sees it. -/
def instanceClasses (b : Board) (earlier : List Instance) (inst : Instance) : List Source.Class :=
  if inst.hasCpuBinding then [(instanceScope b earlier inst).cls] else []

theorem advance_builds (o : Options) (earlier : List Instance) {inst : Instance}
    (hcore : (b.findCore? inst.core).isSome) (s : State) :
    Builds (instanceClasses b earlier inst) s
      ((visitor o).advance b (b.instanceCalls earlier inst) s) := by
  obtain ⟨core, hcore⟩ := Option.isSome_iff_exists.1 hcore
  unfold instanceClasses
  cases hhost : inst.hasCpuBinding with
  | true =>
    rw [advance_hosted o earlier hcore hhost]
    exact ⟨rfl, rfl⟩
  | false =>
    rw [advance_unhosted o earlier hcore hhost]
    exact .refl s

theorem lastState_builds (o : Options)
    (hcores : ∀ inst ∈ b.instances, (b.findCore? inst.core).isSome) :
    Builds (eachAfter (instanceClasses b) b.instances) (defineDefaults b (start o))
      ((Backend.host o).lastState b) := by
  have hfront : ∀ call ∈ (frontCalls b).tail, ∀ s,
      Builds [] s ((visitor o).visit b {} call s).state := by
    intro call hcall s
    have hinside : call ∈ b.inside := by
      simp only [frontCalls, List.tail_cons, Board.inside, List.mem_cons, List.mem_append]
        at hcall ⊢
      tauto
    refine visit_builds b {} (frontCalls_isFront b call (List.mem_of_mem_tail hcall)) ?_ s
    exact (b.inside_proper call hinside).1
  have hnone : (frontCalls b).tail.flatMap (fun _ => ([] : List Source.Class)) = [] := by simp
  have hbefore := Visitor.advance_grows Builds.refl Builds.trans hfront (defineDefaults b (start o))
  have hinsts := Visitor.advance_eachAfter Builds.refl Builds.trans
    (fun earlier inst hinst s => advance_builds o earlier (hcores inst hinst) s)
    ((visitor o).advance b (frontCalls b).tail (defineDefaults b (start o)))
  rw [← Visitor.advance_append] at hinsts
  rw [hnone] at hbefore
  exact hbefore.trans hinsts

/-- Every instance that host software sees, behind those in front of it. -/
def hostedAt (b : Board) : List (List Instance × Instance) :=
  eachAfter (fun earlier inst => if inst.hasCpuBinding then [(earlier, inst)] else []) b.instances

theorem split_of_hostedAt {x : List Instance × Instance} (hx : x ∈ hostedAt b) :
    ∃ later, b.instances = x.1 ++ x.2 :: later := by
  obtain ⟨front, inst, back, hsplit, hmem⟩ := mem_eachAfter.1 hx
  split at hmem
  · rw [List.mem_singleton.1 hmem]
    exact ⟨back, hsplit⟩
  · cases hmem

theorem flatMap_hostedAt {τ : Type} (f : List Instance → Instance → List τ) :
    (hostedAt b).flatMap (fun (earlier, inst) => f earlier inst) =
      eachAfter (fun earlier inst => if inst.hasCpuBinding then f earlier inst else [])
        b.instances := by
  unfold hostedAt
  rw [flatMap_eachAfter]
  refine eachAfter_congr fun earlier inst _ => ?_
  split
  · exact List.append_nil _
  · rfl

theorem map_hostedAt {τ : Type} (f : List Instance → Instance → τ) :
    (hostedAt b).map (fun (earlier, inst) => f earlier inst) =
      eachAfter (fun earlier inst => if inst.hasCpuBinding then [f earlier inst] else [])
        b.instances := by
  rw [List.map_eq_flatMap]
  exact flatMap_hostedAt fun earlier inst => [f earlier inst]

theorem hosted_eq (b : Board) :
    b.hosted = (hostedAt b).map fun (earlier, inst) => (inst, b.grantsOf earlier inst) := by
  unfold Board.hosted
  rw [zip_grants, filter_eachAfter,
    map_hostedAt fun earlier inst => (inst, b.grantsOf earlier inst)]
  refine eachAfter_congr fun earlier inst _ => ?_
  cases hhost : inst.hasCpuBinding with
  | true => simp [hhost]
  | false => simp [hhost]

theorem cpuBindings_unhosted {inst : Instance} (h : inst.hasCpuBinding = false) :
    inst.cpuBindings = [] := by
  unfold Instance.cpuBindings
  rw [List.filterMap_eq_nil_iff]
  intro binding hbinding
  have hnone := List.any_eq_false.1 h binding hbinding
  simpa using hnone

/-- An instance without a CPU binding has no grant. -/
theorem grantsOf_unhosted {inst : Instance} (h : inst.hasCpuBinding = false)
    (earlier : List Instance) : b.grantsOf earlier inst = [] := by
  have hbindings := cpuBindings_unhosted h
  rw [← Board.grantsOf_bindings (b := b) earlier] at hbindings
  exact List.map_eq_nil_iff.1 hbindings

/-- The instances that host software sees have all grants. -/
theorem flatMap_hosted_grants {τ : Type} (f : Grant → List τ) :
    (hostedAt b).flatMap (fun (earlier, inst) => (b.grantsOf earlier inst).flatMap f) =
      b.grants.flatten.flatMap f := by
  rw [flatMap_hostedAt fun earlier inst => (b.grantsOf earlier inst).flatMap f, ← List.flatMap_id,
    List.flatMap_assoc]
  unfold Board.grants
  rw [flatMap_eachAfter]
  refine eachAfter_congr fun earlier inst _ => ?_
  cases hhost : inst.hasCpuBinding with
  | true => simp
  | false => simp [grantsOf_unhosted hhost]

theorem idText_ofNat {n : Nat} (hn : n ≤ 16) :
    ((List.range n).map UInt8.ofNat).map idText = (List.range n).map toString := by
  rw [List.map_map]
  refine List.map_congr_left fun i hi => ?_
  have hlt := List.mem_range.1 hi
  have hmod : i % 256 = i := Nat.mod_eq_of_lt (by omega)
  show toString (UInt8.ofNat i).toNat = toString i
  rw [UInt8.toNat_ofNat', hmod]

/-- The streams of one side, one after the other. -/
theorem flatMap_side (hb : b.Walkable) :
    (b.grants.flatten.flatMap fun (_, s) => s.master.toList.map idText) =
        (List.range (b.lastCounters.count .streamMaster)).map toString ∧
      (b.grants.flatten.flatMap fun (_, s) => s.slave.toList.map idText) =
        (List.range (b.lastCounters.count .streamSlave)).map toString := by
  obtain ⟨hmaster, hslave, hmasters, hslaves⟩ := Board.lastCounters_streams hb
  constructor
  · rw [map_streamsOn Streams.master fun _ id => idText id, ← idText_ofNat hmasters, ← hmaster,
      List.map_map]
    rfl
  · rw [map_streamsOn Streams.slave fun _ id => idText id, ← idText_ofNat hslaves, ← hslave,
      List.map_map]
    rfl

/-- What is counted is defined behind constants that do not depend on the options. -/
theorem defineCounts_definitions {c : Counters} {s : State} {o : Options}
    (hs : s.constants = (defineDefaults b (start o)).constants) :
    (defineCounts c s).constants.definitions =
      (defineCounts c (defineDefaults b (start o))).constants.definitions := by
  simp only [defineCounts, State.define, Module.addDefinition, hs]

/-- The numbers of streams are among the constants. -/
theorem defineCounts_found {c : Counters} {s : State} {o : Options}
    (hs : s.constants = (defineDefaults b (start o)).constants) :
    ((defineCounts c s).constants.findDefinition? "IN_PORT_COUNT").map (·.value) =
        some (toString (c.count .streamMaster)) ∧
      ((defineCounts c s).constants.findDefinition? "OUT_PORT_COUNT").map (·.value) =
        some (toString (c.count .streamSlave)) := by
  unfold Module.findDefinition?
  rw [defineCounts_definitions hs]
  exact ⟨rfl, rfl⟩

/-- The class and the object of every instance that host software sees. -/
def hostedPairs (b : Board) : List (Source.Class × Attribute) :=
  (hostedAt b).map fun (earlier, inst) =>
    ((instanceScope b earlier inst).cls, instanceObject b earlier inst)

theorem hostedPairs_agree (h : b.Sound) :
    List.Forall₂ (fun (inst, grants) (cls, object) =>
      Agrees inst (b.boundPorts inst grants) cls object) b.hosted (hostedPairs b) := by
  unfold hostedPairs
  rw [hosted_eq, List.forall₂_map_left_iff, List.forall₂_map_right_iff, List.forall₂_same]
  intro x hx
  obtain ⟨later, hsplit⟩ := split_of_hostedAt hx
  exact instance_agrees h hsplit

theorem hostedPairs_argumentsOn (h : b.Sound) (writes : Bool) :
    ((b.hosted.zip (hostedPairs b)).flatMap fun ((inst, grants), (_, object)) =>
        argumentsOn writes (b.boundPorts inst grants) object) =
      b.grants.flatten.flatMap fun (_, s) =>
        (onSide writes s).toList.map idText := by
  unfold hostedPairs
  rw [hosted_eq, List.zip_map', List.flatMap_map, ← flatMap_hosted_grants]
  refine List.flatMap_congr fun x hx => ?_
  obtain ⟨later, hsplit⟩ := split_of_hostedAt hx
  exact instance_argumentsOn h hsplit writes

/-- The pairs are what the components have, behind the objects of the medium and the devices. -/
theorem lastState_pairs (o : Options) (hb : b.Walkable)
    (hcores : ∀ inst ∈ b.instances, (b.findCore? inst.core).isSome) :
    ((Backend.host o).lastState b).components.classes = (hostedPairs b).map Prod.fst ∧
      ((Backend.host o).lastState b).components.attributes.drop (frontCount b) =
        (hostedPairs b).map Prod.snd := by
  have hclasses : ((Backend.host o).lastState b).components.classes =
      eachAfter (instanceClasses b) b.instances := (lastState_builds o hcores).classes
  have hattributes : ((Backend.host o).lastState b).components.attributes =
      (frontCalls b).flatMap objects ++ eachAfter (instanceObjects b) b.instances :=
    (lastState_grows o hcores).attributes
  unfold hostedPairs
  rw [List.map_map, List.map_map]
  constructor
  · rw [hclasses]
    exact (map_hostedAt fun earlier inst => (instanceScope b earlier inst).cls).symm
  · rw [hattributes, ← frontCalls_objects hb, List.drop_left]
    exact (map_hostedAt (instanceObject b)).symm

/-- Classes and objects of the host API fit.  Behind the objects of the medium and the devices
there are one class and one object for each instance with a CPU binding, in order, which agree
on its ports.  All arguments for streams to write to, and all for streams to read from, are the
numbers up to the constants that count them. -/
theorem classes_fit_objects (o : Options) (b : Board) {api : Result}
    (h : (Backend.host o).run b = .ok api) :
    ∃ (constants components : Module) (pairs : List (Source.Class × Attribute))
      (inlets outlets : Nat),
      api.findModule? "constants" = some constants ∧
      api.findModule? "components" = some components ∧
      components.classes = pairs.map Prod.fst ∧
      components.attributes.drop (frontCount b) = pairs.map Prod.snd ∧
      List.Forall₂ (fun (inst, grants) (cls, object) =>
        Agrees inst (b.boundPorts inst grants) cls object) b.hosted pairs ∧
      (constants.findDefinition? "IN_PORT_COUNT").map (·.value) = some (toString inlets) ∧
      (constants.findDefinition? "OUT_PORT_COUNT").map (·.value) = some (toString outlets) ∧
      ((b.hosted.zip pairs).flatMap fun ((inst, grants), (_, object)) =>
        argumentsOn true (b.boundPorts inst grants) object) =
          (List.range inlets).map toString ∧
      ((b.hosted.zip pairs).flatMap fun ((inst, grants), (_, object)) =>
        argumentsOn false (b.boundPorts inst grants) object) =
          (List.range outlets).map toString := by
  obtain ⟨hb, hdefects, -, rfl⟩ := Backend.run_ok (visitor_countsLast o) h
  have hsound := Board.defects_eq_nil_iff.1 hdefects
  have hgrows := lastState_grows o hsound.cores
  obtain ⟨hconstants, hcomponents⟩ :=
    finish_modules (c := b.lastCounters) hgrows.produced hgrows.constants hgrows.components
  obtain ⟨hclasses, hobjects⟩ := lastState_pairs o hb hsound.cores
  obtain ⟨hinlets, houtlets⟩ :=
    defineCounts_found (c := b.lastCounters) (lastState_builds o hsound.cores).constants
  obtain ⟨hmasters, hslaves⟩ := flatMap_side hb
  exact ⟨_, _, hostedPairs b, _, _, hconstants, hcomponents, hclasses, hobjects,
    hostedPairs_agree hsound, hinlets, houtlets,
    (hostedPairs_argumentsOn hsound true).trans hmasters,
    (hostedPairs_argumentsOn hsound false).trans hslaves⟩

/-- A board with ports of each direction, bound in an order of their own, next to an instance
that host software does not see and to a device. -/
def mixedBoard : Board where
  medium := .uart {}
  gpios := [{ name := "leds", direction := .output }]
  cores := [{ name := "mixer", ports := [
    { name := "a", direction := .input },
    { name := "io", direction := .dual },
    { name := "sum", direction := .output }] }]
  instances := [
    { name := "first", core := "mixer", bindings := [
      .cpu { port := "sum" }, .cpu { port := "io" },
      .link { port := "a", peer := "hidden", peerPort := "sum" }] },
    { name := "hidden", core := "mixer" },
    { name := "second", core := "mixer", bindings := [
      .cpu { port := "io" }, .cpu { port := "a" }] }]

theorem classes_fit_objects_mixed :
    ∃ (api : Result) (components : Module) (pairs : List (Source.Class × Attribute)),
      (Backend.host {}).run mixedBoard = .ok api ∧
      api.findModule? "components" = some components ∧
      components.classes = pairs.map Prod.fst ∧
      List.Forall₂ (fun (inst, grants) (cls, object) =>
        Agrees inst (mixedBoard.boundPorts inst grants) cls object) mixedBoard.hosted pairs ∧
      mixedBoard.hosted.map (fun (inst, grants) =>
        (inst.name, ((mixedBoard.boundPorts inst grants).flatMap slots).map fun slot =>
          (slot.name, slot.id))) =
        [("first", [("sum", some 0), ("io_in", some 0), ("io_out", some 1)]),
          ("second", [("io_in", some 1), ("io_out", some 2), ("a", some 2)])] := by
  have hrun : ∃ api, (Backend.host {}).run mixedBoard = .ok api := ⟨_, rfl⟩
  obtain ⟨api, hrun⟩ := hrun
  obtain ⟨-, components, pairs, -, -, -, hcomponents, hclasses, -, hagree, -⟩ :=
    classes_fit_objects {} mixedBoard hrun
  exact ⟨api, components, pairs, hrun, hcomponents, hclasses, hagree, by decide +kernel⟩

end Host

end Boardwright
