import Boardwright.Proofs.Requirements
import Boardwright.Proofs.SupportPackage

/-!
# Manifests

A manifest is a map from destinations to sources that remembers the order in which
the destinations came in.  The backends add to it again and again: the sources of
a driver for every device, those of a queue for every stream that has one.

* One addition.  `add_dests` is what happens to the destinations, which are merged
  the way headers are, and `mem_add` what happens to the entries.
* Additions one after the other.  `addAll_dests` and `mem_addAll` are the same for
  any list of additions.  The entries are the latest ones (`Deployment.IsLatest`).
* Runs of the backends.  `deployments` is what a call adds, `visit_deploy` the step,
  `lastState_deploy` the run, and `run_deploy` reads the manifest off the result.

`manifests_ordered_and_distinct` is the result.
-/

namespace Boardwright

/-- No later deployment in the list has the same destination. -/
def Deployment.IsLatest (d : Deployment) (ds : List Deployment) : Prop :=
  ∃ front back, ds = front ++ d :: back ∧ ∀ e ∈ back, e.dest ≠ d.dest

theorem Deployment.IsLatest.mem {d : Deployment} {ds : List Deployment} (h : d.IsLatest ds) :
    d ∈ ds := by
  obtain ⟨front, back, rfl, -⟩ := h
  simp

theorem Deployment.isLatest_concat {d last : Deployment} {ds : List Deployment} :
    d.IsLatest (ds ++ [last]) ↔ d = last ∨ d.IsLatest ds ∧ d.dest ≠ last.dest := by
  constructor
  · rintro ⟨front, back, hds, hback⟩
    rcases back.eq_nil_or_concat with rfl | ⟨back, e, rfl⟩
    · exact .inl (List.singleton_inj.1 (List.append_inj' hds rfl).2).symm
    · rw [List.concat_eq_append, ← List.cons_append, ← List.append_assoc] at hds
      obtain ⟨rfl, hlast⟩ := List.append_inj' hds rfl
      obtain rfl := List.singleton_inj.1 hlast
      refine .inr ⟨⟨front, back, rfl, fun e he => hback e (by simp [he])⟩, ?_⟩
      exact (hback last (by simp)).symm
  · rintro (rfl | ⟨⟨front, back, rfl, hback⟩, hlast⟩)
    · exact ⟨ds, [], rfl, by simp⟩
    · refine ⟨front, back ++ [last], by simp, fun e he => ?_⟩
      rcases List.mem_append.1 he with he | he
      · exact hback e he
      · rw [List.mem_singleton.1 he]
        exact hlast.symm

namespace Manifest

/-! ## One addition -/

theorem add_dests (m : Manifest) (source dest : String) :
    (m.add source dest).map (·.dest) = Source.merge (m.map (·.dest)) [dest] := by
  induction m with
  | nil => rfl
  | cons d m ih =>
    rw [add]
    by_cases hd : d.dest = dest
    · simp [hd, Source.merge]
    · have hne : (dest == d.dest) = false := by simpa using Ne.symm hd
      rw [if_neg (by simpa using hd), List.map_cons, ih]
      simp only [Source.merge, List.map_cons, List.contains_cons, hne, Bool.false_or]
      split <;> rfl

/-- The new entry takes the place of the one with its destination. -/
theorem mem_add {m : Manifest} (hm : (m.map (·.dest)).Nodup) {source dest : String}
    {d : Deployment} :
    d ∈ m.add source dest ↔ d = { source, dest } ∨ d ∈ m ∧ d.dest ≠ dest := by
  induction m with
  | nil => simp [add]
  | cons first m ih =>
    obtain ⟨hfirst, hm⟩ := List.nodup_cons.1 hm
    rw [add]
    by_cases hdest : first.dest = dest
    · have hgone : d = first → d.dest = dest := by
        rintro rfl
        exact hdest
      have hrest : d ∈ m → d.dest ≠ dest := by
        intro hd heq
        exact hfirst (List.mem_map.2 ⟨d, hd, heq.trans hdest.symm⟩)
      rw [if_pos (by simpa using hdest), List.mem_cons, List.mem_cons]
      grind
    · have hkept : d = first → d.dest ≠ dest := by
        rintro rfl
        exact hdest
      rw [if_neg (by simpa using hdest), List.mem_cons, ih hm, List.mem_cons]
      grind

/-! ## Additions one after the other -/

@[simp] theorem addAll_nil (m : Manifest) : m.addAll [] = m := rfl

theorem addAll_append (m : Manifest) (ds ds' : List Deployment) :
    m.addAll (ds ++ ds') = (m.addAll ds).addAll ds' :=
  List.foldl_append

theorem addAll_concat (m : Manifest) (ds : List Deployment) (d : Deployment) :
    m.addAll (ds ++ [d]) = (m.addAll ds).add d.source d.dest :=
  addAll_append m ds [d]

theorem addAll_dests (m : Manifest) (ds : List Deployment) :
    (m.addAll ds).map (·.dest) = Source.merge (m.map (·.dest)) (ds.map (·.dest)) := by
  induction ds generalizing m with
  | nil => rfl
  | cons d ds ih =>
    show (addAll (m.add d.source d.dest) ds).map (·.dest) = _
    rw [ih, add_dests]
    rfl

theorem addAll_nil_dests (ds : List Deployment) :
    (addAll [] ds).map (·.dest) = (ds.map (·.dest)).eraseDups := by
  rw [addAll_dests]
  exact Source.merge_eraseDups [] _

theorem nodup_addAll_nil (ds : List Deployment) : ((addAll [] ds).map (·.dest)).Nodup := by
  rw [addAll_nil_dests]
  exact Source.nodup_eraseDups _

/-- The entries are the latest additions. -/
theorem mem_addAll {ds : List Deployment} {d : Deployment} :
    d ∈ addAll [] ds ↔ d.IsLatest ds := by
  induction ds using List.reverseRecOn with
  | nil => simp [addAll, Deployment.IsLatest]
  | append_singleton ds last ih =>
    rw [addAll_concat, mem_add (nodup_addAll_nil ds), ih, Deployment.isLatest_concat]

example : addAll [] [⟨"a/gpio.h", "gpio.h"⟩, ⟨"a/gpio.c", "gpio.c"⟩, ⟨"b/gpio.h", "gpio.h"⟩] =
    [⟨"b/gpio.h", "gpio.h"⟩, ⟨"a/gpio.c", "gpio.c"⟩] := by decide

end Manifest

/-! ## Runs of the backends -/

namespace Firmware

/-- The driver of the medium, which has the same name for every medium. -/
def mediumSource (o : Options) (file : String) : Deployment where
  source := o.template file
  dest := Path.join [o.src, "medium", "medium.c"]

/-- The driver that all devices share. -/
def deviceSources (o : Options) : List Deployment :=
  ["gpio.h", "gpio.c"].map fun file =>
    { source := o.template file, dest := Path.join [Path.join [o.src, "components"], file] }

/-- What a call adds to the manifest of the server. -/
def deployments (o : Options) : Call → List Deployment
  | .medium (.uart _) => [mediumSource o "uart.c"]
  | .medium (.ethernet _ _) => [mediumSource o "ethernet.c"]
  | .medium (.ethernetLite _ _) => [mediumSource o "ethernet.c"]
  | .input g _ => if (Catalog.find? g.name).any (·.hasInterrupt) then deviceSources o else []
  | .output g _ => if (Catalog.find? g.name).isSome then deviceSources o else []
  | _ => []

theorem visit_deploy (o : Options) (b : Board) (c : Counters) (call : Call) (s : State) :
    (visit o b c call s).state.deploy = s.deploy.addAll (deployments o call) := by
  cases call with
  | start =>
    show (defineDefaults b s).deploy = _
    rw [defineDefaults_eq]
    rfl
  | medium m =>
    have hethernet (options : List MediumOption) (pos : Pos) :
        (addEthernet o options pos s).state.deploy =
          s.deploy.addAll [mediumSource o "ethernet.c"] := by
      simp only [addEthernet, defineOptions_eq]
      rfl
    cases m with
    | ethernet options pos => exact hethernet options pos
    | ethernetLite options pos => exact hethernet options pos
    | _ => rfl
  | input g id =>
    simp only [visit, addInput, deployments]
    cases Catalog.find? g.name with
    | none => rfl
    | some d =>
      simp only [Option.any_some]
      split <;> rfl
  | output g id =>
    simp only [visit, addOutput, deployments]
    cases Catalog.find? g.name with
    | none => rfl
    | some d => rfl
  | axis a =>
    simp only [visit, addAxis]
    cases a.streams.master <;> cases a.streams.slave <;> rfl
  | finish =>
    simp only [visit, finish]
    split <;> rfl
  | _ => rfl

theorem lastState_deploy (o : Options) (b : Board) :
    ((Backend.firmware o).lastState b).deploy =
      Manifest.addAll [] ((.start :: b.inside).flatMap (deployments o)) :=
  Visitor.advance_grows (R := fun ds (s s' : State) => s'.deploy = s.deploy.addAll ds)
    (fun _ => rfl) (fun h h' => by rw [h', h, Manifest.addAll_append])
    (fun call _ s => visit_deploy o b {} call s) (start o)

/-- The manifest of a server: what the calls added. -/
theorem run_deploy {o : Options} {b : Board} {server : Result}
    (h : (Backend.firmware o).run b = .ok server) :
    server.deploy = Manifest.addAll [] (b.traversal.flatMap (deployments o)) := by
  obtain ⟨-, -, hstop, rfl⟩ := Backend.run_ok (visitor_countsLast o) h
  obtain ⟨scheduler, -, hproduced⟩ := finish_ok hstop
  have hdeploy : ((Backend.firmware o).result ((Backend.firmware o).lastAnswer b).state).deploy =
      ((Backend.firmware o).lastState b).deploy := congrArg Result.deploy hproduced
  rw [hdeploy, lastState_deploy, Board.traversal_eq, List.flatMap_append]
  simp [deployments]

end Firmware

namespace Hardware

/-- The sources of a peripheral core. -/
def coreSource (o : Options) (core version : String) : Deployment where
  source := Path.join [o.templates, "pcores", Platform.coreDir core version]
  dest := Path.join [o.dir, "pcores", Platform.coreDir core version]

/-- The cores that the adapters of a stream are made from. -/
def adapterSources (o : Options) (set : PortSettings) : List Deployment :=
  (if 0 < set.hwQueue then [coreSource o "queue" Platform.queueCore] else []) ++
    if set.bitWidth != PortSettings.defaultBitWidth then
      [coreSource o "resizer" Platform.resizerCore]
    else []

/-- What a call adds to the manifest of the project. -/
def deployments (o : Options) : Call → List Deployment
  | .core core => [coreSource o core.name Platform.userCore]
  | .axis a => (a.streams.master.toList ++ a.streams.slave.toList).flatMap fun _ =>
      adapterSources o a.settings
  | _ => []

theorem writeChain_deploy (o : Options) (group : String) (set : PortSettings) (s : State) :
    (writeChain o group set s).2.deploy = s.deploy.addAll (adapterSources o set) := by
  simp only [writeChain, adapterSources]
  split <;> split <;> rfl

theorem readChain_deploy (o : Options) (group : String) (set : PortSettings) (s : State) :
    (readChain o group set s).2.deploy = s.deploy.addAll (adapterSources o set) := by
  simp only [readChain, adapterSources]
  split <;> split <;> rfl

theorem attach_deploy (inst : Instance) (interface net : String) (s : State) :
    (attach inst interface net s).deploy = s.deploy := by
  obtain ⟨instances, heq⟩ := attach_frame inst interface net s
  rw [heq]

theorem addAxis_deploy (o : Options) (a : Axis) (s : State) :
    (addAxis o a s).deploy = s.deploy.addAll (deployments o (.axis a)) := by
  have hmaster (id : UInt8) (s : State) :
      (addMaster o a id s).deploy = s.deploy.addAll (adapterSources o a.settings) := by
    simp only [addMaster, attach_deploy, writeChain_deploy]
    rfl
  have hslave (id : UInt8) (s : State) :
      (addSlave o a id s).deploy = s.deploy.addAll (adapterSources o a.settings) := by
    simp only [addSlave, attach_deploy, readChain_deploy]
    rfl
  simp only [addAxis, deployments]
  rcases a.streams.master with _ | master <;> rcases a.streams.slave with _ | slave
  all_goals simp [hmaster, hslave, Manifest.addAll_append]

theorem visit_deploy (o : Options) (b : Board) (c : Counters) (call : Call) (s : State) :
    (visit o b c call s).state.deploy = s.deploy.addAll (deployments o call) := by
  cases call with
  | medium m =>
    cases m with
    | uart pos =>
      simp only [visit, addMedium, addUart]
      split <;> rfl
    | _ => rfl
  | input g id =>
    simp only [visit, addGpio]
    split
    · rfl
    · split <;> rfl
  | output g id =>
    simp only [visit, addGpio]
    split
    · rfl
    · split <;> rfl
  | enter site =>
    obtain ⟨instances, heq⟩ := addInstance_frame site.inst.name site.core.name s
    simp only [visit, heq]
    rfl
  | axis a => exact addAxis_deploy o a s
  | link l =>
    simp only [visit, addLink, attach_deploy]
    rfl
  | _ => rfl

theorem lastState_deploy (o : Options) (b : Board) :
    ((Backend.hardware o).lastState b).deploy =
      Manifest.addAll [] ((.start :: b.inside).flatMap (deployments o)) :=
  Visitor.advance_grows (R := fun ds (s s' : State) => s'.deploy = s.deploy.addAll ds)
    (fun _ => rfl) (fun h h' => by rw [h', h, Manifest.addAll_append])
    (fun call _ s => visit_deploy o b {} call s) {}

/-- The manifest of a project: what the calls added. -/
theorem run_deploy {o : Options} {b : Board} {project : Result}
    (h : (Backend.hardware o).run b = .ok project) :
    project.deploy = Manifest.addAll [] (b.traversal.flatMap (deployments o)) := by
  obtain ⟨-, -, -, rfl⟩ := Backend.run_ok (visitor_countsLast o) h
  have hdeploy : ((Backend.hardware o).result ((Backend.hardware o).lastAnswer b).state).deploy =
      ((Backend.hardware o).lastState b).deploy := rfl
  rw [hdeploy, lastState_deploy, Board.traversal_eq, List.flatMap_append]
  simp [deployments]

end Hardware

/-- A manifest is a map in order of insertion: after any additions to the empty one, its
destinations are pairwise different and stand in the order of their first additions, and its entries
are the latest ones.  The manifests of servers and projects come about so, from what the calls of the
walk add, and their destinations are different, too. -/
theorem manifests_ordered_and_distinct :
    (∀ ds : List Deployment,
      (Manifest.addAll [] ds).map (·.dest) = (ds.map (·.dest)).eraseDups ∧
        ((Manifest.addAll [] ds).map (·.dest)).Nodup ∧
        ((Manifest.addAll [] ds).map (·.dest)).Pairwise
          (fun x y => (ds.map (·.dest)).idxOf x < (ds.map (·.dest)).idxOf y) ∧
        ∀ d, d ∈ Manifest.addAll [] ds ↔ d.IsLatest ds) ∧
      (∀ (o : Firmware.Options) (b : Board) (server : Result),
        (Backend.firmware o).run b = .ok server →
          server.deploy = Manifest.addAll [] (b.traversal.flatMap (Firmware.deployments o)) ∧
            (server.deploy.map (·.dest)).Nodup) ∧
      ∀ (o : Hardware.Options) (b : Board) (project : Result),
        (Backend.hardware o).run b = .ok project →
          project.deploy = Manifest.addAll [] (b.traversal.flatMap (Hardware.deployments o)) ∧
            (project.deploy.map (·.dest)).Nodup := by
  refine ⟨fun ds => ⟨Manifest.addAll_nil_dests ds, Manifest.nodup_addAll_nil ds, ?_,
    fun d => Manifest.mem_addAll⟩, fun o b server h => ?_, fun o b project h => ?_⟩
  · rw [Manifest.addAll_nil_dests]
    exact Source.pairwise_idxOf_eraseDups _
  · have hdeploy := Firmware.run_deploy h
    exact ⟨hdeploy, hdeploy ▸ Manifest.nodup_addAll_nil _⟩
  · have hdeploy := Hardware.run_deploy h
    exact ⟨hdeploy, hdeploy ▸ Manifest.nodup_addAll_nil _⟩

/-- Two devices share a driver, and three streams the core of the queue. -/
theorem manifests_ordered_and_distinct_adapted :
    ∃ server project, (Backend.firmware {}).run adaptedBoard = .ok server ∧
      (Backend.hardware {}).run adaptedBoard = .ok project ∧
      (adaptedBoard.traversal.flatMap (Firmware.deployments {})).length = 5 ∧
      server.deploy.map (·.dest) = ["server/src/medium/medium.c",
        "server/src/components/gpio.h", "server/src/components/gpio.c"] ∧
      (server.deploy.map (·.dest)).Nodup ∧
      (adaptedBoard.traversal.flatMap (Hardware.deployments {})).length = 6 ∧
      project.deploy.map (·.dest) = ["project/pcores/mixer_v1_00_a",
        "project/pcores/queue_v1_00_a", "project/pcores/resizer_v1_00_a"] ∧
      (project.deploy.map (·.dest)).Nodup := by
  have hserver : ∃ server, (Backend.firmware {}).run adaptedBoard = .ok server := ⟨_, rfl⟩
  have hproject : ∃ project, (Backend.hardware {}).run adaptedBoard = .ok project := ⟨_, rfl⟩
  obtain ⟨server, hserver⟩ := hserver
  obtain ⟨project, hproject⟩ := hproject
  obtain ⟨-, hservers, hprojects⟩ := manifests_ordered_and_distinct
  obtain ⟨hdeploy, hnodup⟩ := hservers {} adaptedBoard server hserver
  obtain ⟨hdeploy', hnodup'⟩ := hprojects {} adaptedBoard project hproject
  refine ⟨server, project, hserver, hproject, by decide, ?_, hnodup, by decide, ?_, hnodup'⟩
  · rw [hdeploy]
    decide +kernel
  · rw [hdeploy']
    decide +kernel

end Boardwright
