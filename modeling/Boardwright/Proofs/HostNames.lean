import Boardwright.Proofs.HostClasses
import Mathlib.Data.List.Nodup
import Mathlib.Data.List.Pairwise

/-!
# Names in the classes of the host API

A class has a member for each port that host software reaches, under the name of
the port.  The constructor has a parameter under the same name for a port that
works one way, and two for a port that works both ways, whose names are made from
that of the port.  Nothing keeps these apart from the names of other ports.

* `Clash` is the one way in which parameters of two ports get the same name:
  `disjoint_parameterNames_iff` for two ports, `nodup_parameterNames_iff` for a list.
* `Board.hostPorts` are the ports of a class, and `class_names` is about one class.

`parameter_names_distinct_iff` is the result for all classes of a run.
-/

namespace Boardwright

/-- The ports of an instance that host software reaches, in the order of the bindings. -/
def Board.hostPorts (b : Board) (inst : Instance) : List Port :=
  inst.cpuBindings.filterMap fun c =>
    (b.port? ⟨inst, .cpu c⟩).filter fun port => decide port.direction.Proper

namespace Host

open Source (Attribute Module Parameter)

/-! ## Two ports -/

/-- The names of the constructor parameters of a port. -/
def parameterNames (p : Port) : List String := (portParameters p).map fun x => x.1.name

theorem parameterNames_dual {p : Port} (h : p.direction = .dual) :
    parameterNames p = [p.name ++ "_in", p.name ++ "_out"] := by
  simp [parameterNames, portParameters, h]

theorem parameterNames_single {p : Port} (h : p.direction ≠ .dual) :
    parameterNames p = [p.name] := by
  simp [parameterNames, portParameters, h]

theorem in_ne_out (first first' : String) : first ++ "_in" ≠ first' ++ "_out" := by
  intro h
  have hlast := congrArg (fun text => text.toList.reverse.take 1) h
  simp at hlast

theorem nodup_parameterNames (p : Port) : (parameterNames p).Nodup := by
  by_cases hp : p.direction = .dual
  · rw [parameterNames_dual hp]
    simp
  · rw [parameterNames_single hp]
    exact List.nodup_singleton _

/-- A port is called like a parameter of a port that works both ways. -/
def Clash (p q : Port) : Prop :=
  p.direction = .dual ∧ q.direction ≠ .dual ∧ (q.name = p.name ++ "_in" ∨ q.name = p.name ++ "_out")

instance (p q : Port) : Decidable (Clash p q) :=
  inferInstanceAs (Decidable (_ ∧ _ ∧ (_ ∨ _)))

variable {p q : Port}

theorem disjoint_of_dual_single (hp : p.direction = .dual) (hq : q.direction ≠ .dual) :
    List.Disjoint (parameterNames p) (parameterNames q) ↔ ¬ Clash p q := by
  rw [parameterNames_dual hp, parameterNames_single hq, List.disjoint_singleton]
  simp [Clash, hp, hq]

/-- Two ports of different names share a parameter only if they clash. -/
theorem disjoint_parameterNames_iff (hne : p.name ≠ q.name) :
    List.Disjoint (parameterNames p) (parameterNames q) ↔ ¬ Clash p q ∧ ¬ Clash q p := by
  by_cases hp : p.direction = .dual
  · have hclash : ¬ Clash q p := fun h => h.2.1 hp
    by_cases hq : q.direction = .dual
    · have hclash' : ¬ Clash p q := fun h => h.2.1 hq
      rw [parameterNames_dual hp, parameterNames_dual hq]
      simp [hclash, hclash', hne.symm, in_ne_out, (in_ne_out _ _).symm]
    · rw [disjoint_of_dual_single hp hq]
      exact ⟨fun h => ⟨h, hclash⟩, And.left⟩
  · have hclash : ¬ Clash p q := fun h => hp h.1
    by_cases hq : q.direction = .dual
    · rw [List.disjoint_comm, disjoint_of_dual_single hq hp]
      exact ⟨fun h => ⟨hclash, h⟩, And.right⟩
    · have hclash' : ¬ Clash q p := fun h => hq h.1
      rw [parameterNames_single hp, parameterNames_single hq, List.disjoint_singleton,
        List.mem_singleton]
      exact iff_of_true hne.symm ⟨hclash, hclash'⟩

/-! ## A list of ports -/

/-- Some port is called like a parameter of another. -/
def Clashing (ports : List Port) : Prop := ∃ p ∈ ports, ∃ q ∈ ports, Clash p q

instance (ports : List Port) : Decidable (Clashing ports) :=
  inferInstanceAs (Decidable (∃ p ∈ ports, ∃ q ∈ ports, Clash p q))

theorem nodup_parameterNames_iff {ports : List Port} (hnames : (ports.map Port.name).Nodup) :
    (ports.flatMap parameterNames).Nodup ↔ ¬ Clashing ports := by
  have hpairs : ports.Pairwise fun p q => p.name ≠ q.name := List.pairwise_map.1 hnames
  rw [List.nodup_flatMap]
  constructor
  · rintro ⟨-, hdisjoint⟩ ⟨p, hp, q, hq, hclash⟩
    have hne : p ≠ q := by
      rintro rfl
      exact hclash.2.1 hclash.1
    have hsymm : Std.Symm (Function.onFun List.Disjoint parameterNames) :=
      ⟨fun _ _ h => List.disjoint_symm h⟩
    exact (disjoint_of_dual_single hclash.1 hclash.2.1).1 (hdisjoint.forall hp hq hne) hclash
  · intro hopen
    refine ⟨fun p _ => nodup_parameterNames p, hpairs.imp_of_mem fun hp hq hne => ?_⟩
    exact (disjoint_parameterNames_iff hne).2
      ⟨fun h => hopen ⟨_, hp, _, hq, h⟩, fun h => hopen ⟨_, hq, _, hp, h⟩⟩

/-! ## One class -/

section Instances

variable {b : Board} {earlier later : List Instance} {inst : Instance}

theorem boundPorts_ports (b : Board) (earlier : List Instance) (inst : Instance) :
    (b.boundPorts inst (b.grantsOf earlier inst)).map Prod.fst = b.hostPorts inst := by
  unfold Board.boundPorts Board.hostPorts
  rw [← b.grantsOf_bindings earlier inst, List.filterMap_map, List.map_flatMap,
    List.filterMap_eq_flatMap_toList]
  refine List.flatMap_congr fun grant _ => ?_
  rw [List.map_map]
  exact List.map_id _

theorem port_name {c : CpuBinding} {port : Port} (h : b.port? ⟨inst, .cpu c⟩ = some port) :
    port.name = c.port := by
  obtain ⟨core, -, hfind⟩ := Option.bind_eq_some_iff.1 h
  have hname := List.find?_some hfind
  exact eq_of_beq hname

/-- A port has the name under which it is bound. -/
theorem hostPorts_names (b : Board) (inst : Instance) :
    ((b.hostPorts inst).map Port.name).Sublist (inst.cpuBindings.map (·.port)) := by
  unfold Board.hostPorts
  induction inst.cpuBindings with
  | nil => exact .slnil
  | cons c bindings ih =>
    rw [List.filterMap_cons]
    split
    · exact ih.cons _
    · next port hport =>
      rw [List.map_cons, List.map_cons, port_name (Option.filter_eq_some_iff.1 hport).1]
      exact ih.cons_cons _

/-- If each port is bound once, the members of a class have different names, and its parameters
do unless two ports clash. -/
theorem class_names (h : b.Sound) (hinst : b.instances = earlier ++ inst :: later)
    (hbound : (inst.cpuBindings.map (·.port)).Nodup) :
    ((instanceScope b earlier inst).cls.attributes.map Attribute.name).Nodup ∧
      (((instanceScope b earlier inst).cls.constructor.params.map Parameter.name).Nodup ↔
        ¬ Clashing (b.hostPorts inst)) := by
  have hnames := hbound.sublist (hostPorts_names b inst)
  obtain ⟨-, hmembers, hparams, -, -⟩ := instance_ported h hinst
  have hports := boundPorts_ports b earlier inst
  constructor
  · have hattributes : (instanceScope b earlier inst).cls.attributes.map Attribute.name =
        (b.hostPorts inst).map Port.name := by
      rw [hmembers, ← hports, List.map_append, List.map_map, List.map_map]
      rfl
    rw [hattributes]
    exact hnames
  · have hparameters : (instanceScope b earlier inst).cls.constructor.params.map Parameter.name =
        (b.hostPorts inst).flatMap parameterNames := by
      rw [hparams, ← hports, List.map_append, List.map_flatMap, List.flatMap_map]
      refine List.flatMap_congr fun x _ => ?_
      exact List.map_map
    rw [hparameters]
    exact nodup_parameterNames_iff hnames

end Instances

/-! ## All classes -/

/-- The classes of a finished API are those of the components. -/
theorem finish_classes {c : Counters} {s : State} (hproduced : s.produced = { backend := name })
    (hconstants : s.constants.classes = []) :
    (finish c s).produced.modules.flatMap Module.classes = s.components.classes := by
  simp [finish, defineCounts, State.define, Module.addDefinition, hproduced, hconstants]

theorem run_classes {o : Options} {b : Board} {api : Result}
    (h : (Backend.host o).run b = .ok api) :
    b.Sound ∧ api.modules.flatMap Module.classes = eachAfter (instanceClasses b) b.instances := by
  obtain ⟨-, hdefects, -, rfl⟩ := Backend.run_ok (visitor_countsLast o) h
  have hsound := Board.defects_eq_nil_iff.1 hdefects
  have hbuilds := lastState_builds o hsound.cores
  have hconstants : ((Backend.host o).lastState b).constants.classes = [] := by
    rw [hbuilds.constants]
    rfl
  refine ⟨hsound, ?_⟩
  exact (finish_classes (lastState_grows o hsound.cores).produced hconstants).trans hbuilds.classes

/-- Only an instance with a CPU binding has ports that host software reaches. -/
theorem hasCpuBinding_of_clashing {b : Board} {inst : Instance}
    (h : Clashing (b.hostPorts inst)) : inst.hasCpuBinding = true := by
  rw [← Bool.not_eq_false]
  intro hhost
  obtain ⟨p, hp, -⟩ := h
  rw [Board.hostPorts, cpuBindings_unhosted hhost] at hp
  cases hp

/-- On a board whose instances bind each port to the CPU at most once, the attributes of every
class that a run generates have different names.  The parameters of its constructor do if and
only if no port of the class is called like a port of the class that works both ways, with
`_in` or `_out` behind it. -/
theorem parameter_names_distinct_iff (o : Options) (b : Board) {api : Result}
    (h : (Backend.host o).run b = .ok api)
    (hbound : ∀ inst ∈ b.instances, (inst.cpuBindings.map (·.port)).Nodup) :
    (∀ cls ∈ api.modules.flatMap Module.classes,
      (cls.attributes.map Attribute.name).Nodup ∧
        ∃ inst ∈ b.instances, cls.name = inst.name ∧
          ((cls.constructor.params.map Parameter.name).Nodup ↔
            ¬ Clashing (b.hostPorts inst))) ∧
    ((∀ cls ∈ api.modules.flatMap Module.classes,
      (cls.constructor.params.map Parameter.name).Nodup) ↔
        ∀ inst ∈ b.instances, ¬ Clashing (b.hostPorts inst)) := by
  obtain ⟨hsound, hclasses⟩ := run_classes h
  rw [hclasses]
  have hclass : ∀ cls ∈ eachAfter (instanceClasses b) b.instances,
      (cls.attributes.map Attribute.name).Nodup ∧
        ∃ inst ∈ b.instances, cls.name = inst.name ∧
          ((cls.constructor.params.map Parameter.name).Nodup ↔
            ¬ Clashing (b.hostPorts inst)) := by
    intro cls hcls
    obtain ⟨earlier, inst, later, hsplit, hmem⟩ := mem_eachAfter.1 hcls
    unfold instanceClasses at hmem
    split at hmem
    · obtain rfl := List.mem_singleton.1 hmem
      have hinst : inst ∈ b.instances := by simp [hsplit]
      obtain ⟨hattributes, hparameters⟩ := class_names hsound hsplit (hbound inst hinst)
      exact ⟨hattributes, inst, hinst, (instance_agrees hsound hsplit).className, hparameters⟩
    · cases hmem
  refine ⟨hclass, fun hall inst hinst hclashing => ?_, fun hopen cls hcls => ?_⟩
  · -- The class of an instance whose ports clash is one of those generated.
    obtain ⟨earlier, later, hsplit⟩ := List.append_of_mem hinst
    have hcls : (instanceScope b earlier inst).cls ∈ eachAfter (instanceClasses b) b.instances := by
      refine mem_eachAfter.2 ⟨earlier, inst, later, hsplit, ?_⟩
      unfold instanceClasses
      rw [if_pos (hasCpuBinding_of_clashing hclashing)]
      exact List.mem_singleton.2 rfl
    exact (class_names hsound hsplit (hbound inst hinst)).2.1 (hall _ hcls) hclashing
  · obtain ⟨-, inst, hinst, -, hparameters⟩ := hclass cls hcls
    exact hparameters.2 (hopen inst hinst)

theorem parameter_names_distinct_iff_mixed :
    ∃ api, (Backend.host {}).run mixedBoard = .ok api ∧
      ∀ cls ∈ api.modules.flatMap Module.classes,
        (cls.constructor.params.map Parameter.name).Nodup := by
  have hrun : ∃ api, (Backend.host {}).run mixedBoard = .ok api := ⟨_, rfl⟩
  obtain ⟨api, hrun⟩ := hrun
  exact ⟨api, hrun, (parameter_names_distinct_iff {} mixedBoard hrun (by decide)).2.2 (by decide)⟩

/-- A port that works both ways next to one that is called like its way in. -/
def clashingBoard : Board where
  cores := [{ name := "mixer", ports := [
    { name := "p", direction := .dual },
    { name := "p_in", direction := .input }] }]
  instances := [
    { name := "first", core := "mixer", bindings := [
      .cpu { port := "p" }, .cpu { port := "p_in" }] }]

theorem clashingBoard_parameters_repeat :
    (∀ core ∈ clashingBoard.cores, (core.ports.map Port.name).Nodup) ∧
      (∀ inst ∈ clashingBoard.instances, (inst.cpuBindings.map (·.port)).Nodup) ∧
      ∃ api, (Backend.host {}).run clashingBoard = .ok api ∧
        ¬ ∀ cls ∈ api.modules.flatMap Module.classes,
          (cls.constructor.params.map Parameter.name).Nodup :=
  ⟨by decide, by decide, _, rfl, by decide +kernel⟩

end Host

end Boardwright
