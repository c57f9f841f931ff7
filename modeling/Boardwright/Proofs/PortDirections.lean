import Boardwright.Proofs.SoundBoard

/-!
# Directions that are none

A declaration may give a GPIO device or a port a code that stands for no direction.
A walk deals with the two in different ways.

* `Visitor.walk_stops_at_device`: it gives up at the first such device and names it.
* `Board.axisSteps_of_improper`: it passes over a CPU binding to such a port.  There
  is no stream to ask for, so there is nothing to report and nobody to call.

What is left of such a port after a walk is that its binding was never called for,
and `Board.connected_iff_proper` says that this tells it from all others.
`directions_noticed_iff` is the result.
-/

namespace Boardwright

/-- A device whose direction is none. -/
def Fault.undirectedDevice (g : Gpio) : Fault :=
  .invariant .traverse ("gpio " ++ g.name ++ " has direction " ++ toString g.direction.code.toNat)

/-- A direction asks for a stream if and only if it is one of the three. -/
theorem Direction.proper_iff (d : Direction) :
    d.Proper ↔ d.isMaster = true ∨ d.isSlave = true := by
  cases d <;> simp [Proper, isMaster, isSlave]

/-! ## Devices -/

namespace Board

theorem gpioStep_of_improper {c : Counters} {g : Gpio} (hg : ¬ g.direction.Proper) :
    gpioStep c g =
      { counters := (c.allocateGpio g.name g.direction).2, pos := g.pos
        action := .halt (.undirectedDevice g) } := by
  cases hd : g.direction with
  | other code _ => simp [gpioStep, gpioAction, Fault.undirectedDevice, hd]
  | _ => exact absurd (by simp [hd, Direction.Proper]) hg

theorem gpioSteps_append (c : Counters) (front back : List Gpio) :
    (gpioSteps c (front ++ back)).1 =
      (gpioSteps c front).1 ++ (gpioSteps (gpioSteps c front).2 back).1 := by
  induction front generalizing c with
  | nil => rfl
  | cons g front ih =>
    show gpioStep c g :: (gpioSteps (gpioStep c g).counters (front ++ back)).1 = _
    rw [ih]
    rfl

/-- The step of a device, and that those in front do not give up if the devices there have
directions. -/
theorem steps_of_gpio {b : Board} {front back : List Gpio} {g : Gpio}
    (hsplit : b.gpios = front ++ g :: back) (hfront : ∀ g' ∈ front, g'.direction.Proper) :
    ∃ before c rest, b.steps = before ++ gpioStep c g :: rest ∧
      before.filterMap Step.halt? = [] := by
  refine ⟨{ counters := {}, pos := b.pos, action := .call .start } ::
    { counters := {}, pos := b.mediumPos, action := .call (.medium b.medium) } ::
    (gpioSteps {} front).1, (gpioSteps {} front).2, ?rest, ?split, ?halts⟩
  case split =>
    rw [steps_eq, stepsBeforeFinish, hsplit, gpioSteps_append]
    simp only [gpioSteps, List.append_assoc, List.cons_append, List.nil_append]
    rfl
  case halts => exact (gpioSteps_stretch front hfront (Counters.Passed.start b)).1.halts

end Board

theorem Visitor.walk_stops_at_device {σ : Type} {v : Visitor σ} {b : Board} {front back : List Gpio}
    {g : Gpio} (hv : v.Unfailing) (backend : String) (hsplit : b.gpios = front ++ g :: back)
    (hfront : ∀ g' ∈ front, g'.direction.Proper) (hg : ¬ g.direction.Proper) :
    (v.walk backend b).abort = some ((Fault.undirectedDevice g).attributed backend g.pos) := by
  obtain ⟨before, c, rest, hsteps, hbefore⟩ := Board.steps_of_gpio hsplit hfront
  have hthrough : (v.follow backend b before { state := v.start }).abort = none :=
    follow_unfailing hv hbefore rfl
  have hstop : ∀ p : Progress σ, (v.perform backend b p (Board.gpioStep c g)).abort =
      some ((Fault.undirectedDevice g).attributed backend g.pos) := by
    intro p
    rw [Board.gpioStep_of_improper hg, perform_halt]
    rfl
  unfold walk
  rw [hsteps, follow_append hthrough, follow_cons_of_some (hstop _), hstop]

/-! ## Ports -/

theorem Call.Connects.unique {call : Call} {p p' : Place} (h : call.Connects p)
    (h' : call.Connects p') : p = p' := by
  cases call with
  | axis a => exact Eq.trans h (Eq.symm h')
  | link l => exact Eq.trans h (Eq.symm h')
  | _ => exact absurd h id

theorem Call.Connects.isConnection {call : Call} {p : Place} (h : call.Connects p) :
    call.isConnection = true := by
  cases call with
  | axis a => rfl
  | link l => rfl
  | _ => exact absurd h id

namespace Board

variable {b : Board}

theorem mem_places_of_cpuBinding {inst : Instance} {binding : CpuBinding}
    (hinst : inst ∈ b.instances) (hbinding : binding ∈ inst.cpuBindings) :
    ⟨inst, .cpu binding⟩ ∈ b.places := by
  obtain ⟨bound, hbound, hcpu⟩ := List.mem_filterMap.1 hbinding
  refine List.mem_flatMap.2 ⟨inst, hinst, List.mem_map.2 ⟨bound, hbound, ?_⟩⟩
  cases bound with
  | cpu binding' => rw [Option.some_inj.1 hcpu]
  | link binding' => cases hcpu

theorem axisSteps_of_improper (c : Counters) (inst : Instance) {port : Port} (binding : CpuBinding)
    (h : ¬ port.direction.Proper) : b.axisSteps c inst port binding = ([], c) := by
  rw [Direction.proper_iff, not_or] at h
  simp [axisSteps, Counters.allocateStreams, Counters.allocateMaster, Counters.allocateSlave, h.1,
    h.2]

theorem connects_of_mem {earlier : List Place} {p : Place} {call : Call}
    (h : call ∈ b.bindingCalls earlier p) : call.Connects p := by
  obtain ⟨inst, binding⟩ := p
  unfold bindingCalls at h
  split at h
  · cases h
  · cases binding with
    | cpu binding =>
      simp only [axisCalls] at h
      split at h
      · cases h
      · rw [List.mem_singleton.1 h]
        rfl
    | link binding =>
      simp only [linkCalls] at h
      split at h
      · cases h
      · split at h
        · cases h
        · rw [List.mem_singleton.1 h]
          rfl

theorem mem_traversal_iff {call : Call} {p : Place} (h : call.Connects p) :
    call ∈ b.traversal ↔ call ∈ eachAfter b.bindingCalls b.places := by
  rw [← connections_traversal, List.mem_filter, and_iff_left h.isConnection]

/-- On a sound board a CPU binding is called for if and only if its port has a direction. -/
theorem bindingCalls_eq_nil_iff (hsound : b.Sound) {front back : List Place} {p : Place}
    (hsplit : b.places = front ++ p :: back) {port : Port} (hport : b.cpuPort? p = some port) :
    b.bindingCalls front p = [] ↔ ¬ port.direction.Proper := by
  obtain ⟨hmaster, hslave⟩ := hsound.streams_isSome hsplit hport
  obtain ⟨inst, binding⟩ := p
  cases binding with
  | link binding => cases hport
  | cpu binding =>
    have hport' : b.port? ⟨inst, .cpu binding⟩ = some port := hport
    rw [Direction.proper_iff, ← hmaster, ← hslave]
    simp [bindingCalls, hport', axisCalls]

/-- The same for the whole walk: the bindings without a call are those to ports without a
direction. -/
theorem connected_iff_proper (hsound : b.Sound) {p : Place} (hp : p ∈ b.places) {port : Port}
    (hport : b.cpuPort? p = some port) :
    (∃ call ∈ b.traversal, call.Connects p) ↔ port.direction.Proper := by
  constructor
  · rintro ⟨call, hmem, h⟩
    rw [mem_traversal_iff h] at hmem
    obtain ⟨front, p', back, hsplit, hcall⟩ := mem_eachAfter.1 hmem
    obtain rfl := (connects_of_mem hcall).unique h
    by_contra hproper
    rw [(bindingCalls_eq_nil_iff hsound hsplit hport).2 hproper] at hcall
    cases hcall
  · intro hproper
    obtain ⟨front, back, hsplit⟩ := List.append_of_mem hp
    have hsome := mt (bindingCalls_eq_nil_iff hsound hsplit hport).1 (not_not_intro hproper)
    obtain ⟨call, hcall⟩ := List.exists_mem_of_ne_nil _ hsome
    have h := connects_of_mem hcall
    exact ⟨call, (mem_traversal_iff h).2 (mem_eachAfter.2 ⟨front, p, back, hsplit, hcall⟩), h⟩

end Board

/-- A walk stops at the first device without a direction and names it.  So after a walk that was
not stopped and that collected nothing every device has a direction.  Every CPU binding has found
its port then, and the port has a direction if and only if the binding was called for: without a
direction the walk passes over it, with no step and no number handed out. -/
theorem directions_noticed_iff {σ : Type} (v : Visitor σ) (backend : String) (b : Board)
    (hv : v.Unfailing) :
    (∀ front g back, b.gpios = front ++ g :: back → (∀ g' ∈ front, g'.direction.Proper) →
      ¬ g.direction.Proper →
      (v.walk backend b).abort = some ((Fault.undirectedDevice g).attributed backend g.pos)) ∧
    ((v.walk backend b).abort = none → (v.walk backend b).collected = [] →
      (∀ g ∈ b.gpios, g.direction.Proper) ∧
        ∀ inst ∈ b.instances, ∀ binding ∈ inst.cpuBindings,
          ∃ port, b.port? ⟨inst, .cpu binding⟩ = some port ∧
            (port.direction.Proper ↔
              ∃ call ∈ (v.recording.walk backend b).state.1,
                call.Connects ⟨inst, .cpu binding⟩)) ∧
    ∀ c inst port binding, ¬ port.direction.Proper →
      b.axisSteps c inst port binding = ([], c) := by
  refine ⟨fun front g back hsplit => Visitor.walk_stops_at_device hv backend hsplit, ?_,
    fun c inst port binding => Board.axisSteps_of_improper c inst binding⟩
  intro habort hcollected
  obtain ⟨hb, hdefects⟩ := Visitor.walk_clean habort hcollected
  have hsound := Board.defects_eq_nil_iff.1 hdefects
  refine ⟨hb.gpios, fun inst hinst binding hbinding => ?_⟩
  have hplace := Board.mem_places_of_cpuBinding hinst hbinding
  obtain ⟨port, hport⟩ := Option.isSome_iff_exists.1 (hsound.ports _ hplace)
  refine ⟨port, hport, ?_⟩
  rw [Visitor.recorded_calls backend hv hb]
  exact (Board.connected_iff_proper hsound hplace hport).symm

/-- A board with one device and one port that host software reaches. -/
def gaugeBoard (device port : Direction) : Board where
  gpios := [{ name := "leds", direction := device }]
  cores := [{ name := "gauge", ports := [{ name := "level", direction := port }] }]
  instances := [{ name := "tank", core := "gauge", bindings := [.cpu { port := "level" }] }]

theorem directions_noticed_iff_gauge :
    (Visitor.idle.walk "client" (gaugeBoard (.other 7) .dual)).abort =
        some ((Fault.undirectedDevice { name := "leds", direction := .other 7 }).attributed
          "client" {}) ∧
      (Visitor.idle.walk "client" (gaugeBoard .output .dual)).collected = [] ∧
      ∀ inst ∈ (gaugeBoard .output .dual).instances, ∀ binding ∈ inst.cpuBindings,
        ∃ call ∈ (Visitor.idle.recording.walk "client" (gaugeBoard .output .dual)).state.1,
          call.Connects ⟨inst, .cpu binding⟩ := by
  have hidle : Visitor.idle.Unfailing := fun _ _ _ _ => rfl
  obtain ⟨hstops, -, -⟩ :=
    directions_noticed_iff Visitor.idle "client" (gaugeBoard (.other 7) .dual) hidle
  obtain ⟨-, hclean, -⟩ :=
    directions_noticed_iff Visitor.idle "client" (gaugeBoard .output .dual) hidle
  refine ⟨hstops [] _ [] rfl (by simp) (by decide), rfl, fun inst hinst binding hbinding => ?_⟩
  obtain ⟨port, hport, hiff⟩ := (hclean rfl rfl).2 inst hinst binding hbinding
  have hproper : (gaugeBoard .output .dual).PortsProper := by decide
  obtain ⟨core, hcore, hfind⟩ := Option.bind_eq_some_iff.1 hport
  exact hiff.1 (hproper core (List.mem_of_find?_eq_some hcore) port
    (List.mem_of_find?_eq_some hfind))

/-- Host software is to read a port without a direction, and a walk finds nothing wrong. -/
theorem gaugeBoard_unnoticed :
    Visitor.idle.Unfailing ∧
      (Visitor.idle.walk "client" (gaugeBoard .output (.other 7))).abort = none ∧
      (Visitor.idle.walk "client" (gaugeBoard .output (.other 7))).collected = [] ∧
      ¬ ∀ inst ∈ (gaugeBoard .output (.other 7)).instances, ∀ binding ∈ inst.cpuBindings,
        ∀ port, (gaugeBoard .output (.other 7)).port? ⟨inst, .cpu binding⟩ = some port →
          port.direction.Proper := by
  refine ⟨fun _ _ _ _ => rfl, rfl, rfl, fun h => ?_⟩
  exact absurd (h _ List.mem_cons_self _ List.mem_cons_self _ rfl) (by decide)

end Boardwright
