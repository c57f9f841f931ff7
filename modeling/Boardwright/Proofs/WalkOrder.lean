import Boardwright.Proofs.Visits
import Mathlib.Data.List.Forall2

/-!
# Order and completeness of a walk

Two results about every walk over a board that can be walked to its end.

* `walk_calls_in_order`: the calls that a visitor gets are `Board.traversal`.
* `walk_reports_every_defect`: what a walk collects are `Board.defects`, and a
  binding that is neither called for nor reported is a link to an instance
  whose core is not declared, which is reported for itself.

The second one needs to know that a binding without a fault has its call;
`bindingCalls_of_no_faults` is that fact, and `connections_traversal` carries it from a
binding to the whole walk.
-/

namespace Boardwright

/-! ## Connections -/

/-- Whether a call connects a binding. -/
def Call.isConnection : Call → Bool
  | .axis _ => true
  | .link _ => true
  | _ => false

/-- The call connects the binding. -/
def Call.Connects (p : Place) : Call → Prop
  | .axis a => p = ⟨a.inst, .cpu a.binding⟩
  | .link l => p = ⟨l.inst, .link l.binding⟩
  | _ => False

theorem eachAfter_eq_nil {α β : Type} {f : List α → α → List β} {as : List α} :
    eachAfter f as = [] ↔ ∀ front a back, as = front ++ a :: back → f front a = [] := by
  simp only [List.eq_nil_iff_forall_not_mem, mem_eachAfter]
  constructor
  · intro h front a back hsplit x hx
    exact h x ⟨front, a, back, hsplit, hx⟩
  · rintro h x ⟨front, a, back, hsplit, hx⟩
    exact h front a back hsplit x hx

/-- One result for each element, related to it. -/
theorem forall₂_eachAfter {α β : Type} {R : α → β → Prop} {f : List α → α → List β} {as : List α}
    (h : ∀ front a back, as = front ++ a :: back → ∃ x, f front a = [x] ∧ R a x) :
    List.Forall₂ R as (eachAfter f as) := by
  induction as generalizing f with
  | nil => exact .nil
  | cons a as ih =>
    obtain ⟨x, hx, hR⟩ := h [] a as rfl
    rw [eachAfter_cons, hx]
    refine .cons hR (ih fun front a' back hsplit => ?_)
    exact h (a :: front) a' back (by rw [hsplit]; rfl)

namespace Board

variable {b : Board} {core : Core} {earlier : List Place} {p : Place}

theorem axisCalls_isConnection (earlier : List Place) (p : Place) (port : Port)
    (binding : CpuBinding) :
    (b.axisCalls earlier p port binding).filter Call.isConnection =
      b.axisCalls earlier p port binding := by
  simp only [axisCalls]
  split
  · rfl
  · rfl

theorem linkCalls_isConnection (p : Place) (port : Port) (binding : LinkBinding) :
    (b.linkCalls p port binding).filter Call.isConnection = b.linkCalls p port binding := by
  unfold linkCalls
  split
  · rfl
  · split
    · rfl
    · rfl

theorem bindingCalls_isConnection (earlier : List Place) (p : Place) :
    (b.bindingCalls earlier p).filter Call.isConnection = b.bindingCalls earlier p := by
  unfold bindingCalls
  cases b.port? p with
  | none => rfl
  | some port =>
    cases p.binding with
    | cpu binding => exact axisCalls_isConnection earlier p port binding
    | link binding => exact linkCalls_isConnection p port binding

theorem gpioCalls_noConnection (earlier : List Gpio) (g : Gpio) :
    (gpioCalls earlier g).filter Call.isConnection = [] := by
  unfold gpioCalls
  cases g.direction <;> rfl

theorem instanceCalls_connections (earlier : List Instance) (inst : Instance) :
    (b.instanceCalls earlier inst).filter Call.isConnection =
      eachAfter (fun before => b.bindingCalls (earlier.flatMap Instance.places ++ before))
        inst.places := by
  unfold instanceCalls
  cases hcore : b.findCore? inst.core with
  | none =>
    have hnone : ∀ before, ∀ p ∈ inst.places,
        b.bindingCalls (earlier.flatMap Instance.places ++ before) p = [] := by
      intro before p hp
      obtain ⟨binding, -, rfl⟩ := List.mem_map.1 hp
      unfold bindingCalls port?
      rw [hcore]
      rfl
    rw [eachAfter_congr hnone, eachAfter_const]
    simp
  | some core =>
    simp only [List.cons_append, List.filter_cons, List.filter_append, filter_eachAfter,
      bindingCalls_isConnection, Call.isConnection]
    simp

/-- The calls of a walk that connect a binding, binding by binding. -/
theorem connections_traversal (b : Board) :
    b.traversal.filter Call.isConnection = eachAfter b.bindingCalls b.places := by
  have hscheduler : (schedulerCalls b.scheduler).filter Call.isConnection = [] := by
    unfold schedulerCalls
    split <;> rfl
  have hcores : (b.cores.map Call.core).filter Call.isConnection = [] := by
    simp [List.filter_map, Function.comp_def, Call.isConnection]
  have hgpios : (eachAfter gpioCalls b.gpios).filter Call.isConnection = [] := by
    rw [filter_eachAfter, eachAfter_congr fun l g _ => gpioCalls_noConnection l g, eachAfter_const]
    simp
  unfold traversal places
  simp only [List.filter_append, hscheduler, hcores, hgpios, filter_eachAfter,
    instanceCalls_connections, eachAfter_flatMap]
  simp [Call.isConnection]

/-! ## Bindings without a call -/

/-- Every port of a declared core has one of the three directions. -/
def PortsProper (b : Board) : Prop := ∀ core ∈ b.cores, ∀ port ∈ core.ports, port.direction.Proper

instance (b : Board) : Decidable b.PortsProper :=
  inferInstanceAs (Decidable (∀ core ∈ b.cores, ∀ port ∈ core.ports, port.direction.Proper))

theorem PortsProper.find {port : Port} {name : String} (h : b.PortsProper)
    (hcore : b.findCore? p.inst.core = some core) (hport : core.findPort? name = some port) :
    port.direction.Proper :=
  h core (List.mem_of_find?_eq_some hcore) port (List.mem_of_find?_eq_some hport)

/-- A CPU binding that is not short of a stream gets one. -/
theorem axisCalls_of_no_faults {port : Port} {binding : CpuBinding}
    (hport : b.port? ⟨p.inst, .cpu binding⟩ = some port) (hproper : port.direction.Proper)
    (hfaults : b.axisFaults earlier ⟨p.inst, .cpu binding⟩ port = []) :
    ∃ call, b.axisCalls earlier ⟨p.inst, .cpu binding⟩ port binding = [call] ∧
      call.Connects ⟨p.inst, .cpu binding⟩ := by
  have hcpu : b.cpuPort? ⟨p.inst, .cpu binding⟩ = some port := hport
  have hasks := asks_of_cpuPort hcpu
  obtain ⟨hmaster, hslave⟩ := List.append_eq_nil_iff.1 hfaults
  have hsome : ¬ ((b.streamsAfter earlier ⟨p.inst, .cpu binding⟩).master = none ∧
      (b.streamsAfter earlier ⟨p.inst, .cpu binding⟩).slave = none) := by
    rintro ⟨hno, hno'⟩
    simp only [shortage, hasks, ite_eq_right_iff, reduceCtorEq, imp_false, not_and,
      Nat.not_le] at hmaster hslave
    simp only [streamsAfter, stream?, hasks, ite_eq_right_iff, reduceCtorEq, imp_false,
      not_and, Nat.not_lt] at hno hno'
    -- A side that is asked for has streams left and none left at once.
    rcases hproper with hd | hd | hd
    · have hask : port.direction.isMaster = true := by rw [hd]; rfl
      have := hmaster hask
      have := hno hask
      omega
    · have hask : port.direction.isSlave = true := by rw [hd]; rfl
      have := hslave hask
      have := hno' hask
      omega
    · have hask : port.direction.isMaster = true := by rw [hd]; rfl
      have := hmaster hask
      have := hno hask
      omega
  refine ⟨_, if_neg hsome, rfl⟩

/-- A link without a fault is called for, unless the core of its peer is not
declared. -/
theorem linkCalls_of_no_faults {port : Port} {binding : LinkBinding}
    (hfaults : b.linkFaults p port binding = []) :
    (∃ call, b.linkCalls p port binding = [call] ∧ call.Connects ⟨p.inst, .link binding⟩) ∨
      ∃ peer, b.findInstance? binding.peer = some peer ∧ b.findCore? peer.core = none := by
  unfold linkFaults at hfaults
  unfold linkCalls
  cases hpeer : b.findInstance? binding.peer with
  | none => simp [hpeer] at hfaults
  | some peer =>
    cases hcore : b.findCore? peer.core with
    | none => exact .inr ⟨peer, rfl, hcore⟩
    | some peerCore =>
      cases hport : peerCore.findPort? binding.peerPort with
      | none => simp [hpeer, hcore, hport] at hfaults
      | some peerPort =>
        simp only [hcore, Option.bind_some, hport]
        exact .inl ⟨_, rfl, rfl⟩

/-- A binding without a fault has exactly one call, unless it is a link to an
instance of an undeclared core. -/
theorem bindingCalls_of_no_faults (hports : b.PortsProper)
    (hcore : b.findCore? p.inst.core = some core) (hfaults : b.bindingFaults core earlier p = []) :
    (∃ call, b.bindingCalls earlier p = [call] ∧ call.Connects p) ∨
      ∃ link peer, p.binding = .link link ∧ b.findInstance? link.peer = some peer ∧
        b.findCore? peer.core = none := by
  obtain ⟨inst, binding⟩ := p
  have hport := port_of_core hcore binding
  unfold bindingFaults at hfaults
  unfold bindingCalls
  rw [hport]
  cases hfind : core.findPort? binding.port with
  | none => simp [hfind] at hfaults
  | some port =>
    rw [hfind] at hport
    simp only [hfind] at hfaults
    have hproper := hports.find hcore hfind
    cases binding with
    | cpu binding => exact .inl (axisCalls_of_no_faults hport hproper hfaults)
    | link binding =>
      rcases linkCalls_of_no_faults hfaults with hcall | ⟨peer, hpeer, hnone⟩
      · exact .inl hcall
      · exact .inr ⟨binding, peer, rfl, hpeer, hnone⟩

/-! ## Boards without a defect -/

/-- What is reported for a binding of a declared core. -/
def placeDefects (b : Board) (earlier : List Place) (p : Place) : List (Fault × Pos) :=
  match b.findCore? p.inst.core with
  | none => []
  | some core => (b.bindingFaults core earlier p).map (·, p.binding.pos)

theorem instanceDefects_of_core (earlier : List Instance) {inst : Instance}
    (hcore : b.findCore? inst.core = some core) :
    b.instanceDefects earlier inst =
      eachAfter (fun before => b.placeDefects (earlier.flatMap Instance.places ++ before))
        inst.places := by
  unfold instanceDefects
  rw [hcore]
  refine eachAfter_congr fun before p hp => ?_
  obtain ⟨binding, -, rfl⟩ := List.mem_map.1 hp
  simp only [placeDefects, hcore]

/-- With every core declared the defects are those of the bindings. -/
theorem defects_of_cores (h : ∀ inst ∈ b.instances, (b.findCore? inst.core).isSome) :
    b.defects = eachAfter b.placeDefects b.places := by
  unfold defects places
  rw [eachAfter_flatMap]
  refine eachAfter_congr fun earlier inst hinst => ?_
  obtain ⟨core, hcore⟩ := Option.isSome_iff_exists.1 (h inst hinst)
  exact instanceDefects_of_core earlier hcore

theorem missingCore_mem_defects {inst : Instance} (hinst : inst ∈ b.instances)
    (hcore : b.findCore? inst.core = none) :
    (Fault.missingCore inst.name inst.core, inst.pos) ∈ b.defects := by
  obtain ⟨front, back, hsplit⟩ := List.append_of_mem hinst
  refine mem_eachAfter.2 ⟨front, inst, back, hsplit, ?_⟩
  simp [instanceDefects, hcore]

theorem cores_of_no_defects (h : b.defects = []) :
    ∀ inst ∈ b.instances, (b.findCore? inst.core).isSome := by
  intro inst hinst
  cases hcore : b.findCore? inst.core with
  | none =>
    have := missingCore_mem_defects hinst hcore
    simp [h] at this
  | some core => rfl

/-- Without a defect every binding has exactly one call. -/
theorem connections_of_no_defects (hports : b.PortsProper) (h : b.defects = []) :
    List.Forall₂ (fun p call => call.Connects p) b.places
      (b.traversal.filter Call.isConnection) := by
  have hcores := cores_of_no_defects h
  rw [connections_traversal]
  refine forall₂_eachAfter fun front p back hsplit => ?_
  have hp : p ∈ b.places := by simp [hsplit]
  obtain ⟨inst, hinst, hplace⟩ := List.mem_flatMap.1 hp
  obtain ⟨binding, -, rfl⟩ := List.mem_map.1 hplace
  obtain ⟨core, hcore⟩ := Option.isSome_iff_exists.1 (hcores inst hinst)
  have hnone : b.placeDefects front ⟨inst, binding⟩ = [] := by
    rw [defects_of_cores hcores] at h
    exact eachAfter_eq_nil.1 h front _ back hsplit
  have hfaults : b.bindingFaults core front ⟨inst, binding⟩ = [] := by
    simpa [placeDefects, hcore] using hnone
  rcases bindingCalls_of_no_faults hports hcore hfaults with hcall | ⟨link, peer, -, hpeer, hno⟩
  · exact hcall
  · have := hcores peer (List.mem_of_find?_eq_some hpeer)
    simp [hno] at this

/-! ## Defects as they are collected -/

theorem bindingFaults_simple {f : Fault} (hf : f ∈ b.bindingFaults core earlier p) :
    ∃ d, f = .simple d ∧ d.pos = {} := by
  have hshort : ∀ side role owner, f ∈ b.shortage side role owner earlier p →
      ∃ d, f = .simple d ∧ d.pos = {} := by
    intro side role owner hmem
    unfold shortage at hmem
    split at hmem
    · exact ⟨_, List.mem_singleton.1 hmem, rfl⟩
    · simp at hmem
  unfold bindingFaults at hf
  split at hf
  · exact ⟨_, List.mem_singleton.1 hf, rfl⟩
  · split at hf
    · rcases List.mem_append.1 hf with hmem | hmem
      · exact hshort _ _ _ hmem
      · exact hshort _ _ _ hmem
    · unfold linkFaults at hf
      split at hf
      · exact ⟨_, List.mem_singleton.1 hf, rfl⟩
      · split at hf
        · simp at hf
        · split at hf
          · exact ⟨_, List.mem_singleton.1 hf, rfl⟩
          · simp at hf

/-- Every defect is a single report, which has no place of its own. -/
theorem defects_simple {r : Fault × Pos} (hr : r ∈ b.defects) :
    ∃ d, r.1 = .simple d ∧ d.pos = {} := by
  obtain ⟨front, inst, back, -, hmem⟩ := mem_eachAfter.1 hr
  unfold instanceDefects at hmem
  split at hmem
  · exact ⟨_, congrArg Prod.fst (List.mem_singleton.1 hmem), rfl⟩
  · obtain ⟨before, p, after, -, hmem⟩ := mem_eachAfter.1 hmem
    obtain ⟨f, hf, rfl⟩ := List.mem_map.1 hmem
    exact bindingFaults_simple hf

/-- The defects in the name of a backend. -/
def attributedDefects (b : Board) (backend : String) : List Fault :=
  b.defects.map fun (f, pos) => f.attributed backend pos

theorem entriesOf_defects (b : Board) (backend : String) :
    Visitor.entriesOf backend b.defects = b.attributedDefects backend := by
  have hentries : ∀ r ∈ b.defects,
      Collector.entries backend r.1 r.2 = [r.1.attributed backend r.2] := by
    intro r hr
    obtain ⟨d, hd, -⟩ := defects_simple hr
    rw [hd]
    rfl
  unfold Visitor.entriesOf attributedDefects
  rw [← List.flatMap_singleton' (List.map _ b.defects), List.flatMap_map]
  exact List.flatMap_congr fun r hr => hentries r hr

end Board

/-! ## The calls of a walk -/

namespace Visitor

variable {σ : Type} {v : Visitor σ} {b : Board}

theorem steps_no_halt (hb : b.Walkable) : b.steps.filterMap Step.halt? = [] := by
  rw [Board.steps_eq, List.filterMap_append, (Board.stepsBeforeFinish_stretch hb).1.halts]
  rfl

theorem steps_reports (hb : b.Walkable) : b.steps.filterMap Step.report? = b.defects := by
  rw [Board.steps_eq, List.filterMap_append, (Board.stepsBeforeFinish_stretch hb).1.reports]
  exact List.append_nil _

/-- A walk that was not stopped and that collected nothing was over a board without defects. -/
theorem walk_clean {backend : String} (habort : (v.walk backend b).abort = none)
    (hcollected : (v.walk backend b).collected = []) : b.Walkable ∧ b.defects = [] := by
  obtain ⟨hhalts, -, found, hfound, hsub⟩ := follow_unstopped habort
  have hb : b.Walkable := Board.walkable_of_steps hhalts
  -- The defects are collected in any case.
  have hnil : found = [] := by
    rw [show found = (v.walk backend b).collected from hfound.symm, hcollected]
  rw [hnil, steps_reports hb, Board.entriesOf_defects] at hsub
  exact ⟨hb, List.map_eq_nil_iff.1 (List.sublist_nil.1 hsub)⟩

theorem recorded_calls (backend : String) (hv : v.Unfailing) (hb : b.Walkable) :
    (v.recording.walk backend b).state.1 = b.traversal := by
  have habort : (v.recording.walk backend b).abort = none :=
    follow_unfailing (recording_unfailing hv) (steps_no_halt hb) rfl
  obtain ⟨-, hstate, -⟩ := follow_unstopped habort
  unfold walk
  rw [hstate, recording_play, filterMap_visit, b.steps_calls]
  rfl

end Visitor

/-- A visitor that never stops a walk gets exactly the calls of the traversal,
in its order and with its identifiers. -/
theorem walk_calls_in_order {σ : Type} (v : Visitor σ) (backend : String) (b : Board)
    (hv : v.Unfailing) (hcode : b.scheduler.code ≠ .missing)
    (hgpios : ∀ g ∈ b.gpios, g.direction.Proper) :
    (v.recording.walk backend b).state.1 = b.traversal ∧
      (v.recording.walk backend b).map Prod.snd = v.walk backend b :=
  ⟨Visitor.recorded_calls backend hv ⟨hcode, hgpios⟩, Visitor.recording_walk v backend b⟩

/-- A board with devices of each direction, bindings of each sort, an undeclared
core and more streams than there are. -/
def crowdedBoard : Board where
  gpios := [
    { name := "buttons", direction := .input },
    { name := "leds", direction := .output },
    { name := "panel", direction := .dual }]
  cores := [{ name := "adder", ports := [
    { name := "a", direction := .input },
    { name := "sum", direction := .output },
    { name := "io", direction := .dual }] }]
  instances := [
    { name := "left", core := "adder", bindings := [
      .cpu { port := "a" }, .cpu { port := "io" }, .cpu { port := "carry" },
      .link { port := "sum", peer := "right", peerPort := "a" }] },
    { name := "lost", core := "divider", bindings := [.cpu { port := "a" }] },
    { name := "right", core := "adder", bindings := [
      .link { port := "sum", peer := "lost", peerPort := "a" },
      .link { port := "a", peer := "nobody", peerPort := "sum" }] ++
      List.replicate 16 (.cpu { port := "io" }) }]

theorem walk_calls_in_order_crowded :
    crowdedBoard.scheduler.code ≠ .missing ∧ (∀ g ∈ crowdedBoard.gpios, g.direction.Proper) ∧
      (Visitor.idle.recording.walk "client" crowdedBoard).state.1 = crowdedBoard.traversal ∧
      crowdedBoard.traversal.length = 30 :=
  ⟨by decide, by decide,
    (walk_calls_in_order Visitor.idle "client" crowdedBoard (fun _ _ _ _ => rfl) (by decide)
      (by decide)).1,
    by decide⟩

/-- A visitor that stops nothing and reports nothing collects exactly the defects
of the board.  Without any, every binding has been connected by exactly one call.
A binding of a declared core that is neither called for nor reported is a link to
an instance of an undeclared core, and that instance is reported. -/
theorem walk_reports_every_defect {σ : Type} (v : Visitor σ) (backend : String) (b : Board)
    (hv : v.Unfailing) (hsilent : v.Silent) (hcode : b.scheduler.code ≠ .missing)
    (hgpios : ∀ g ∈ b.gpios, g.direction.Proper) (hports : b.PortsProper) :
    (v.walk backend b).collected = b.attributedDefects backend ∧
      (v.recording.walk backend b).state.1 = b.traversal ∧
      ((v.walk backend b).collected = [] →
        List.Forall₂ (fun p call => call.Connects p) b.places
          ((v.recording.walk backend b).state.1.filter Call.isConnection)) ∧
      ∀ inst ∈ b.instances, ∀ core, b.findCore? inst.core = some core →
        ∀ binding ∈ inst.bindings, ∀ earlier,
          b.bindingCalls earlier ⟨inst, binding⟩ = [] →
          b.bindingFaults core earlier ⟨inst, binding⟩ = [] →
          ∃ link peer, binding = .link link ∧ b.findInstance? link.peer = some peer ∧
            b.findCore? peer.core = none ∧
            (Fault.missingCore peer.name peer.core).attributed backend peer.pos ∈
              (v.walk backend b).collected := by
  have hb : b.Walkable := ⟨hcode, hgpios⟩
  have hcollected : (v.walk backend b).collected = b.attributedDefects backend := by
    unfold Visitor.walk
    rw [Visitor.follow_silent hv hsilent (Visitor.steps_no_halt hb) rfl, Visitor.steps_reports hb,
      Board.entriesOf_defects]
    rfl
  have hcalls := Visitor.recorded_calls backend hv hb
  refine ⟨hcollected, hcalls, ?_, ?_⟩
  · intro hnone
    rw [hcollected] at hnone
    rw [hcalls]
    exact Board.connections_of_no_defects hports (List.map_eq_nil_iff.1 hnone)
  · intro inst _ core hcore binding _ earlier hno hfaults
    rcases Board.bindingCalls_of_no_faults hports hcore hfaults with
      ⟨call, hcall, -⟩ | ⟨link, peer, hlink, hpeer, hnone⟩
    · rw [hno] at hcall
      cases hcall
    · refine ⟨link, peer, hlink, hpeer, hnone, ?_⟩
      rw [hcollected]
      have hmem := Board.missingCore_mem_defects (List.mem_of_find?_eq_some hpeer) hnone
      exact List.mem_map_of_mem hmem

theorem walk_reports_every_defect_crowded :
    crowdedBoard.PortsProper ∧
      (Visitor.idle.walk "client" crowdedBoard).collected =
        crowdedBoard.attributedDefects "client" ∧
      (crowdedBoard.attributedDefects "client").length = 6 :=
  ⟨by decide,
    (walk_reports_every_defect Visitor.idle "client" crowdedBoard (fun _ _ _ _ => rfl)
      (fun _ _ _ _ => rfl) (by decide) (by decide) (by decide)).1,
    by decide⟩

end Boardwright
