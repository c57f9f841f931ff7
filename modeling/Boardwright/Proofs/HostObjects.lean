import Boardwright.Host
import Boardwright.Proofs.Run

/-!
# The objects of the host API

Three kinds of calls add to the components of the host API.  The medium and the
devices are objects at once (`visit_grows`).  An instance becomes a class and an
object only when it is left: `advance_hosted` is all its calls together, from
the empty class that is opened to the finished one, and `advance_unhosted` says
that an instance without a CPU binding leaves nothing behind.
`advance_instances` goes through all instances, and `follows_grants` reads the
arguments of the objects off a successful run.
-/

namespace Boardwright.Host

open Source (Attribute Module)

/-! ## Devices -/

/-- The objects that a call adds at once. -/
def objects : Call → List Attribute
  | .medium m => (connection? m).toList.map mediumObject
  | .input g id => [gpioObject g [id]]
  | .output g id => [gpioObject g [id]]
  | .bidirectional g inputId outputId => [gpioObject g [inputId, outputId]]
  | _ => []

/-- The components got some objects, and no class was opened or closed. -/
structure Grows (added : List Attribute) (s s' : State) : Prop where
  attributes : s'.components.attributes = s.components.attributes ++ added
  components : s'.components.name = s.components.name
  constants : s'.constants.name = s.constants.name
  scopes : s'.scopes = s.scopes
  produced : s'.produced = s.produced

namespace Grows

variable {added added' : List Attribute} {s s' s'' : State}

theorem refl (s : State) : Grows [] s s := ⟨(List.append_nil _).symm, rfl, rfl, rfl, rfl⟩

theorem trans (h : Grows added s s') (h' : Grows added' s' s'') :
    Grows (added ++ added') s s'' where
  attributes := by
    rw [h'.attributes, h.attributes, List.append_assoc]
  components := h'.components.trans h.components
  constants := h'.constants.trans h.constants
  scopes := h'.scopes.trans h.scopes
  produced := h'.produced.trans h.produced

end Grows

/-- The calls outside of instances, but for the last. -/
def isFront : Call → Bool
  | .enter _ | .axis _ | .link _ | .leave _ | .finish => false
  | _ => true

theorem visit_grows (b : Board) (c : Counters) {call : Call} (hcall : isFront call = true)
    (s : State) : Grows (objects call) s (visit b c call s).state := by
  cases call with
  | start => exact ⟨(List.append_nil _).symm, rfl, rfl, rfl, rfl⟩
  | medium m =>
    simp only [visit, addMedium, objects]
    cases connection? m with
    | none => exact .refl s
    | some text => exact ⟨rfl, rfl, rfl, rfl, rfl⟩
  | input g id => exact ⟨rfl, rfl, rfl, rfl, rfl⟩
  | output g id => exact ⟨rfl, rfl, rfl, rfl, rfl⟩
  | bidirectional g inputId outputId => exact ⟨rfl, rfl, rfl, rfl, rfl⟩
  | defaultScheduler scheduler => exact .refl s
  | userScheduler scheduler lines => exact .refl s
  | core core => exact .refl s
  | _ => cases hcall

theorem advance_front (o : Options) (b : Board) {calls : List Call}
    (hcalls : ∀ call ∈ calls, isFront call = true) (s : State) :
    Grows (calls.flatMap objects) s ((visitor o).advance b calls s) :=
  Visitor.advance_grows Grows.refl Grows.trans
    (fun call hcall s => visit_grows b {} (hcalls call hcall) s) s

/-! ## Instances -/

/-- The class under construction after some connections. -/
def addPorts (calls : List Call) (scope : Scope) : Scope :=
  calls.foldl (fun scope call => match call with
    | .axis a => addPort a.port a.streams scope
    | _ => scope) scope

theorem addPorts_args (calls : List Call) (scope : Scope) :
    (addPorts calls scope).args =
      scope.args ++ calls.flatMap (Call.streamLog fun _ s => streamArguments s) := by
  induction calls generalizing scope with
  | nil => exact (List.append_nil _).symm
  | cons call calls ih =>
    show (addPorts calls _).args = _
    rw [ih, List.flatMap_cons, ← List.append_assoc]
    cases call with
    | axis a => rfl
    | _ => exact congrArg (· ++ _) (List.append_nil _).symm

/-- Within an open class the connections go to that class. -/
theorem advance_connections (o : Options) (b : Board) {calls : List Call}
    (hcalls : ∀ call ∈ calls, call.isConnection = true) {s : State} {scope : Scope}
    {rest : ScopeStack} (hs : s.scopes = scope :: rest) :
    (visitor o).advance b calls s = { s with scopes := addPorts calls scope :: rest } := by
  induction calls generalizing s scope with
  | nil =>
    show s = { s with scopes := scope :: rest }
    rw [← hs]
  | cons call calls ih =>
    rw [Visitor.advance_cons]
    have hrest : ∀ call ∈ calls, call.isConnection = true := fun call' hcall' =>
      hcalls call' (by simp [hcall'])
    cases call with
    | axis a =>
      have hstep : ((visitor o).visit b {} (.axis a) s).state =
          { s with scopes := addPort a.port a.streams scope :: rest } := by
        simp only [visitor, visit, addAxis, hs]
        rfl
      rw [hstep, ih hrest rfl]
      rfl
    | link l => exact ih hrest hs
    | _ => cases hcalls _ List.mem_cons_self

/-- Links alone change nothing. -/
theorem advance_links (o : Options) (b : Board) {calls : List Call}
    (hcalls : ∀ call ∈ calls, ∃ l, call = .link l) (s : State) :
    (visitor o).advance b calls s = s := by
  induction calls with
  | nil => rfl
  | cons call calls ih =>
    obtain ⟨l, rfl⟩ := hcalls call (by simp)
    exact ih fun call' hcall' => hcalls call' (by simp [hcall'])

/-- The finished class of an instance behind the instances `earlier`, with the
arguments of its object. -/
def instanceScope (b : Board) (earlier : List Instance) (inst : Instance) : Scope :=
  addPorts (b.connectionsOf earlier inst) { cls := emptyClass inst.name }

theorem instanceScope_args (b : Board) (earlier : List Instance) (inst : Instance) :
    (instanceScope b earlier inst).args =
      (b.grantsOf earlier inst).flatMap fun (_, s) => streamArguments s := by
  unfold instanceScope
  rw [addPorts_args, List.nil_append]
  exact Board.connectionsOf_streamLog (fun _ => rfl) earlier inst

/-- The host API with a finished class and its object. -/
def addObject (name : String) (scope : Scope) (s : State) : State :=
  let components := s.components.addClass scope.cls
  { s with components := components.addAttribute (objectOf name scope.args) }

variable {b : Board} {inst : Instance} {core : Core}

/-- An instance with a CPU binding leaves its class and its object behind. -/
theorem advance_hosted (o : Options) (earlier : List Instance)
    (hcore : b.findCore? inst.core = some core) (hhost : inst.hasCpuBinding = true) (s : State) :
    (visitor o).advance b (b.instanceCalls earlier inst) s =
      addObject inst.name (instanceScope b earlier inst) s := by
  rw [Board.instanceCalls_of_core earlier hcore, hhost, Visitor.advance_append,
    Visitor.advance_cons (.enter _)]
  have henter : ((visitor o).visit b {} (.enter { inst, core, host := true }) s).state =
      { s with scopes := { cls := emptyClass inst.name } :: s.scopes } := rfl
  rw [henter, advance_connections o b (Board.connectionsOf_isConnection earlier inst) rfl]
  rfl

theorem advance_unhosted (o : Options) (earlier : List Instance)
    (hcore : b.findCore? inst.core = some core) (hhost : inst.hasCpuBinding = false) (s : State) :
    (visitor o).advance b (b.instanceCalls earlier inst) s = s := by
  rw [Board.instanceCalls_of_core earlier hcore, hhost, Visitor.advance_append,
    Visitor.advance_cons (.enter _)]
  have henter : ((visitor o).visit b {} (.enter { inst, core, host := false }) s).state = s := rfl
  rw [henter, advance_links o b (Board.connectionsOf_links earlier hhost)]
  rfl

/-- The object of an instance, if host software sees it. -/
def instanceObjects (b : Board) (earlier : List Instance) (inst : Instance) : List Attribute :=
  if inst.hasCpuBinding then
    [objectOf inst.name ((b.grantsOf earlier inst).flatMap fun (_, s) => streamArguments s)]
  else []

theorem advance_instance (o : Options) (earlier : List Instance)
    (hcore : (b.findCore? inst.core).isSome) (s : State) :
    Grows (instanceObjects b earlier inst) s
      ((visitor o).advance b (b.instanceCalls earlier inst) s) := by
  obtain ⟨core, hcore⟩ := Option.isSome_iff_exists.1 hcore
  unfold instanceObjects
  cases hhost : inst.hasCpuBinding with
  | true =>
    rw [advance_hosted o earlier hcore hhost, ← instanceScope_args]
    exact ⟨rfl, rfl, rfl, rfl, rfl⟩
  | false =>
    rw [advance_unhosted o earlier hcore hhost]
    exact .refl s

theorem advance_instances (o : Options) (insts : List Instance)
    (hcores : ∀ inst ∈ insts, (b.findCore? inst.core).isSome) (s : State) :
    Grows (eachAfter (instanceObjects b) insts) s
      ((visitor o).advance b (eachAfter b.instanceCalls insts) s) :=
  Visitor.advance_eachAfter Grows.refl Grows.trans
    (fun earlier inst hinst s => advance_instance o earlier (hcores inst hinst) s) s

/-! ## The finished API -/

/-- The calls in front of the instances. -/
def frontCalls (b : Board) : List Call :=
  .start :: .medium b.medium :: (eachAfter gpioCalls b.gpios ++ schedulerCalls b.scheduler ++
    b.cores.map .core)

theorem frontCalls_isFront (b : Board) : ∀ call ∈ frontCalls b, isFront call = true := by
  intro call hcall
  simp only [frontCalls, List.mem_cons, List.mem_append, List.mem_map, mem_eachAfter] at hcall
  rcases hcall with rfl | rfl | ((⟨_, g, _, -, hmem⟩ | hmem) | ⟨core, -, rfl⟩)
  · rfl
  · rfl
  · unfold gpioCalls at hmem
    split at hmem <;> simp at hmem <;> subst hmem <;> rfl
  · unfold schedulerCalls at hmem
    split at hmem <;> simp at hmem <;> subst hmem <;> rfl
  · rfl

/-- The identifiers of a device behind the devices `earlier`: as an input, then as
an output. -/
def deviceIds (earlier : List Gpio) (g : Gpio) : List UInt8 :=
  (if g.direction.isMaster then [UInt8.ofNat (earlier.countP (·.direction.isMaster) % 256)]
    else []) ++
  if g.direction.isSlave then [UInt8.ofNat (earlier.countP (·.direction.isSlave) % 256)] else []

theorem gpioCalls_objects (earlier : List Gpio) {g : Gpio} (hg : g.direction.Proper) :
    (gpioCalls earlier g).flatMap objects = [gpioObject g (deviceIds earlier g)] := by
  unfold gpioCalls deviceIds
  rcases hg with hd | hd | hd
  all_goals
    rw [hd]
    rfl

/-- One object for the medium, if host software can open it, and one for each
device. -/
theorem flatMap_frontCalls (hb : b.Walkable) :
    (frontCalls b).flatMap objects =
      (connection? b.medium).toList.map mediumObject ++
        eachAfter (fun earlier g => [gpioObject g (deviceIds earlier g)]) b.gpios := by
  have hgpios : (eachAfter gpioCalls b.gpios).flatMap objects =
      eachAfter (fun earlier g => [gpioObject g (deviceIds earlier g)]) b.gpios := by
    rw [flatMap_eachAfter]
    exact eachAfter_congr fun earlier g hg => gpioCalls_objects earlier (hb.gpios g hg)
  have hscheduler : (schedulerCalls b.scheduler).flatMap objects = [] := by
    unfold schedulerCalls
    split <;> rfl
  have hcores : (b.cores.map Call.core).flatMap objects = [] := by
    simp [List.flatMap_map, objects]
  simp only [frontCalls, List.flatMap_cons, List.flatMap_append, hscheduler, hcores, objects,
    List.append_nil, List.nil_append, hgpios]

/-- How many objects stand in front of those of the instances: one for a medium that
host software can open, and one for each device. -/
def frontCount (b : Board) : Nat :=
  (match b.medium with
    | .none => 0
    | .uart _ => 1
    | .ethernet .. => 1
    | .ethernetLite .. => 1
    | .pcie _ => 0) + b.gpios.length

theorem frontCalls_objects (hb : b.Walkable) :
    ((frontCalls b).flatMap objects).length = frontCount b := by
  rw [flatMap_frontCalls hb, List.length_append, List.length_map, length_eachAfter_singleton]
  unfold frontCount
  cases b.medium <;> rfl

/-- The arguments that an object is constructed from. -/
def arguments (object : Attribute) : List String :=
  match object.init with
  | some (.arguments args _) => args.getD []
  | _ => []

theorem arguments_objectOf (inst : String) (args : List String) :
    arguments (objectOf inst args) = args := by
  cases args <;> rfl

theorem visitor_countsLast (o : Options) : (visitor o).CountsLast := by
  intro b c call s hcall
  cases call with
  | finish => exact absurd rfl hcall
  | _ => rfl

theorem lastState_grows (o : Options)
    (hcores : ∀ inst ∈ b.instances, (b.findCore? inst.core).isSome) :
    Grows ((frontCalls b).flatMap objects ++ eachAfter (instanceObjects b) b.instances) (start o)
      ((Backend.host o).lastState b) := by
  have hfront := advance_front o b (frontCalls_isFront b) (start o)
  have hinsts := advance_instances o b.instances hcores
    ((visitor o).advance b (frontCalls b) (start o))
  rw [← Visitor.advance_append] at hinsts
  exact hfront.trans hinsts

/-- The host API treats the streams as assigned: behind the objects of the
medium and the devices it has one for each instance with a CPU binding, whose
arguments are the streams of its bindings, the one to write to in front of the one
to read from. -/
def Follows (b : Board) (grants : List (List Grant)) (api : Result) : Prop :=
  ∃ m, api.findModule? "components" = some m ∧
    (m.attributes.drop (frontCount b)).map
        (fun object => (object.name, object.type, arguments object)) =
      ((b.instances.zip grants).filter fun (inst, _) => inst.hasCpuBinding).map
        fun (inst, gs) => (inst.name, .named ("class " ++ inst.name), gs.flatMap fun (_, s) =>
          s.master.toList.map (fun id => toString id.toNat) ++
            s.slave.toList.map fun id => toString id.toNat)

theorem zip_grants (b : Board) :
    b.instances.zip b.grants =
      eachAfter (fun before inst => [(inst, b.grantsOf before inst)]) b.instances :=
  zip_eachAfter b.grantsOf b.instances

/-- The two modules are found by their names. -/
theorem finish_modules {c : Counters} {s : State} (hproduced : s.produced = { backend := name })
    (hconstants : s.constants.name = "constants") (hcomponents : s.components.name = "components") :
    (finish c s).produced.findModule? "constants" = some (defineCounts c s).constants ∧
      (finish c s).produced.findModule? "components" = some s.components := by
  constructor <;> simp [finish, defineCounts, State.define, Module.addDefinition,
    Result.findModule?, hproduced, hconstants, hcomponents]

theorem finish_follows (o : Options) {c : Counters} {s : State} (hb : b.Walkable)
    (hgrows : Grows ((frontCalls b).flatMap objects ++ eachAfter (instanceObjects b) b.instances)
      (start o) s) : Follows b b.grants (finish c s).produced := by
  have hproduced : s.produced = { backend := name } := hgrows.produced
  have hconstants : s.constants.name = "constants" := hgrows.constants
  have hcomponents : s.components.name = "components" := hgrows.components
  have hattributes : s.components.attributes =
      (frontCalls b).flatMap objects ++ eachAfter (instanceObjects b) b.instances :=
    hgrows.attributes
  refine ⟨s.components, (finish_modules hproduced hconstants hcomponents).2, ?_⟩
  rw [hattributes, ← frontCalls_objects hb, List.drop_left, zip_grants, filter_eachAfter,
    map_eachAfter, map_eachAfter]
  refine eachAfter_congr fun before inst _ => ?_
  unfold instanceObjects
  cases hhost : inst.hasCpuBinding with
  | true =>
    simp only [hhost, if_true, List.map_cons, List.map_nil, List.filter_cons_of_pos,
      List.filter_nil, arguments_objectOf]
    rfl
  | false => simp [hhost]

theorem follows_grants {o : Options} {r : Result} (h : (Backend.host o).run b = .ok r) :
    Follows b b.grants r := by
  obtain ⟨hb, hdefects, -, rfl⟩ := Backend.run_ok (visitor_countsLast o) h
  exact finish_follows o hb (lastState_grows o (Board.cores_of_no_defects hdefects))

end Boardwright.Host
