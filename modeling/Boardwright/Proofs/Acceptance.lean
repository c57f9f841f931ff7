import Boardwright.Proofs.Blame
import Boardwright.Proofs.FirmwareConstants
import Boardwright.Proofs.HardwareBlocks
import Boardwright.Proofs.HostScopes
import Boardwright.Proofs.SoundBoard

/-!
# What each backend accepts

A run succeeds if the board has no defect and no call is answered with a fault.
`Board.Sound` says the first without a walk, and this file the second, for each
backend.

* `Visitor.Accepts` says that a visitor answers a list of calls without a fault.
  `Backend.run_of_accepts` is the converse of `Backend.run_ok`.
* For the host API no call can fail.  There is always a class under construction
  when a port is added or an instance is left: `Host.visit_balanced`.
* For the server and the project `visit_quiet_iff` says what they demand of a call,
  `Board.forall_inside_iff` collects it, and what is left are the interrupt of the
  console and the scheduler, which are there.

`runs_succeed_iff` is the result for all three.
-/

namespace Boardwright

namespace Board

/-- A demand on the calls that the scheduler, the cores and the instances meet in any
case is one on the medium and on the devices. -/
theorem forall_inside_iff {demand : Call → Prop} {fits : Gpio → Prop}
    (hdemand : ∀ call, call.part ≠ .medium → call.part ≠ .gpios → demand call)
    (hfits : ∀ earlier g, g.direction.Proper →
      ((∀ call ∈ gpioCalls earlier g, demand call) ↔ fits g))
    {b : Board} (hb : b.Walkable) :
    (∀ call ∈ b.inside, demand call) ↔ demand (.medium b.medium) ∧ ∀ g ∈ b.gpios, fits g := by
  have hgpios : (∀ call ∈ eachAfter gpioCalls b.gpios, demand call) ↔ ∀ g ∈ b.gpios, fits g := by
    constructor
    · intro h g hg
      obtain ⟨front, back, hsplit⟩ := List.append_of_mem hg
      refine (hfits front g (hb.gpios g hg)).1 fun call hcall => h call ?_
      exact mem_eachAfter.2 ⟨front, g, back, hsplit, hcall⟩
    · intro h call hcall
      obtain ⟨front, g, back, hsplit, hcall⟩ := mem_eachAfter.1 hcall
      have hg : g ∈ b.gpios := by simp [hsplit]
      exact (hfits front g (hb.gpios g hg)).2 (h g hg) call hcall
  have hrest : ∀ part, part ≠ .medium → part ≠ .gpios →
      ∀ call ∈ b.callsAbout part, demand call := by
    intro part hmedium hgpio call hcall
    have hpart := b.callsAbout_part part call hcall
    exact hdemand call (hpart ▸ hmedium) (hpart ▸ hgpio)
  rw [← hgpios, inside_eq]
  simp only [List.forall_mem_append]
  constructor
  · rintro ⟨⟨⟨⟨hmedium, hdevices⟩, -⟩, -⟩, -⟩
    exact ⟨hmedium _ (List.mem_singleton.2 rfl), hdevices⟩
  · rintro ⟨hmedium, hdevices⟩
    refine ⟨⟨⟨⟨?_, hdevices⟩, hrest .scheduler ?_ ?_⟩, hrest .cores ?_ ?_⟩, hrest .instances ?_ ?_⟩
    · intro call hcall
      rw [List.mem_singleton.1 hcall]
      exact hmedium
    all_goals decide

end Board

/-! ## Answers without a fault -/

namespace Visitor

variable {σ : Type} {v : Visitor σ} {backend : String} {b : Board}

/-- The answer neither stops a walk nor reports anything. -/
def Quiet (backend : String) (a : Answer σ) : Prop :=
  a.stop = none ∧ entriesOf backend a.reports = []

/-- One call after the other is answered without a fault. -/
def Accepts (v : Visitor σ) (backend : String) (b : Board) : List Call → σ → Prop
  | [], _ => True
  | call :: calls, s => Quiet backend (v.visit b {} call s) ∧
      v.Accepts backend b calls (v.visit b {} call s).state

theorem accepts_append {calls calls' : List Call} {s : σ} :
    v.Accepts backend b (calls ++ calls') s ↔
      v.Accepts backend b calls s ∧ v.Accepts backend b calls' (v.advance b calls s) := by
  induction calls generalizing s with
  | nil => exact ⟨fun h => ⟨trivial, h⟩, And.right⟩
  | cons call calls ih =>
    simp only [List.cons_append, Accepts, ih, and_assoc]
    rfl

theorem accepts_of_quiet {calls : List Call}
    (h : ∀ call ∈ calls, ∀ s, Quiet backend (v.visit b {} call s)) (s : σ) :
    v.Accepts backend b calls s := by
  induction calls generalizing s with
  | nil => trivial
  | cons call calls ih =>
    exact ⟨h call (by simp) s, ih (fun call' hcall' => h call' (by simp [hcall'])) _⟩

/-- Steps that are calls only, all of them answered without a fault. -/
theorem follow_accepts (hv : v.CountsLast) {steps : List Step}
    (hreports : steps.filterMap Step.report? = []) (hhalts : steps.filterMap Step.halt? = [])
    (hcalls : ∀ call ∈ steps.filterMap Step.call?, call ≠ .finish) {p : Progress σ}
    (hp : p.abort = none) (h : v.Accepts backend b (steps.filterMap Step.call?) p.state) :
    (v.follow backend b steps p).abort = none ∧
      (v.follow backend b steps p).collected = p.collected ∧
      (v.follow backend b steps p).state = v.advance b (steps.filterMap Step.call?) p.state := by
  induction steps generalizing p with
  | nil => exact ⟨hp, rfl, rfl⟩
  | cons s steps ih =>
    obtain ⟨c, pos, action⟩ := s
    cases action with
    | call call =>
      obtain ⟨⟨hstop, hnothing⟩, hrest⟩ := h
      rw [← hv b c call p.state (hcalls call List.mem_cons_self)] at hstop hnothing hrest
      have hstep : (v.perform backend b p ⟨c, pos, .call call⟩).abort = none := by
        rw [perform_call, hstop]
        rfl
      rw [follow_cons_of_none hstep]
      obtain ⟨habort, hcollected, hstate⟩ := ih hreports hhalts
        (fun call' hcall' => hcalls call' (List.mem_cons_of_mem _ hcall')) hstep
        (by rw [perform_call]; exact hrest)
      refine ⟨habort, ?_, ?_⟩
      · rw [hcollected, perform_call, hnothing, List.append_nil]
      · rw [hstate, perform_call, hv b c call p.state (hcalls call List.mem_cons_self)]
        rfl
    | report f => cases hreports
    | halt f => cases hhalts

end Visitor

namespace Backend

/-- A run over a board without a defect succeeds if no call is answered with a fault. -/
theorem run_of_accepts {be : Backend} {b : Board} (hv : be.visitor.CountsLast) (hb : b.Walkable)
    (hsound : b.Sound)
    (haccepts : be.visitor.Accepts be.name b (.start :: b.inside) be.visitor.start)
    (hlast : Visitor.Quiet be.name (be.lastAnswer b)) : ∃ r, be.run b = .ok r := by
  have hstretch := (Board.stepsBeforeFinish_stretch hb).1
  have hcalls : b.stepsBeforeFinish.filterMap Step.call? = .start :: b.inside := by
    rw [hstretch.calls]
    simp [Board.inside]
  rw [← hcalls] at haccepts
  obtain ⟨habort, hcollected, hstate⟩ := Visitor.follow_accepts (p := { state := be.visitor.start })
    hv (hstretch.reports.trans (Board.defects_eq_nil_iff.2 hsound)) hstretch.halts
    (hcalls ▸ b.ne_finish) rfl haccepts
  -- The walk up to the last step, and that step.
  have hwalk : (be.walk b).abort = none ∧ (be.walk b).collected = [] := by
    have hstop : (be.visitor.perform be.name b
        (be.visitor.follow be.name b b.stepsBeforeFinish { state := be.visitor.start })
        ⟨b.lastCounters, b.pos, .call .finish⟩).abort = none := by
      rw [Visitor.perform_call, hstate, hcalls]
      exact Option.map_eq_none_iff.2 hlast.1
    unfold walk Visitor.walk
    rw [Board.steps_eq, Visitor.follow_append habort, Visitor.follow_cons_of_none hstop]
    refine ⟨hstop, ?_⟩
    rw [Visitor.follow, Visitor.perform_call, hstate, hcalls, hcollected]
    exact hlast.2
  refine ⟨be.result (be.walk b).state, ?_⟩
  simp [run, hwalk.1, hwalk.2]

end Backend

/-! ## The host API -/

namespace Host

variable {b : Board}

theorem accepts_nested (o : Options) (b : Board) {calls : List Call}
    {before after : Option Instance} (h : Nested before calls after) {laid : List Scope} {s : State}
    (hs : Balanced before laid s) : (visitor o).Accepts name b calls s := by
  induction h generalizing laid s with
  | nil => trivial
  | cons hcall _ ih =>
    obtain ⟨⟨hstop, hreports⟩, hnext⟩ := visit_balanced b {} hcall hs
    exact ⟨⟨hstop, congrArg (Visitor.entriesOf name) hreports⟩, ih hnext⟩

/-- Up to the last call nothing is wrong with any board, be it sound or not. -/
theorem accepts_calls (o : Options) (b : Board) :
    (visitor o).Accepts name b (.start :: b.inside) (start o) :=
  accepts_nested o b (.cons (.outside (by decide)) b.inside_nested) (balanced_start o)

theorem run_succeeds_iff (o : Options) (hb : b.Walkable) :
    (∃ r, (Backend.host o).run b = .ok r) ↔ b.Sound := by
  constructor
  · rintro ⟨r, h⟩
    exact Board.defects_eq_nil_iff.1 (Backend.run_ok (visitor_countsLast o) h).2.1
  · intro hsound
    exact Backend.run_of_accepts (visitor_countsLast o) hb hsound (accepts_calls o b) ⟨rfl, rfl⟩

end Host

/-! ## The server -/

namespace Firmware

/-- An address has the right number of parts. -/
def WellFormed : MediumOption → Prop
  | .mac address => (Text.split ':' address).length = 6
  | .ip address | .mask address | .gateway address => (Text.split '.' address).length = 4
  | .port _ => True

instance : DecidablePred WellFormed
  | .mac _ | .ip _ | .mask _ | .gateway _ => inferInstanceAs (Decidable (_ = _))
  | .port _ => inferInstanceAs (Decidable True)

/-- A device that the server can drive: it works one way only, and as an input it has an
interrupt. -/
def Supported (g : Gpio) : Prop :=
  ∃ d, Catalog.find? g.name = some d ∧ g.direction ≠ .dual ∧
    (g.direction = .input → d.hasInterrupt = true)

instance : DecidablePred Supported := fun g =>
  inferInstanceAs (Decidable (∃ d ∈ Catalog.find? g.name, g.direction ≠ .dual ∧
    (g.direction = .input → d.hasInterrupt = true)))

/-- What the server demands of a call. -/
def Demands : Call → Prop
  | .medium m => ∀ option ∈ m.options, WellFormed option
  | .input g _ => ∃ d, Catalog.find? g.name = some d ∧ d.hasInterrupt = true
  | .output g _ => ∃ d, Catalog.find? g.name = some d
  | .bidirectional .. => False
  | _ => True

theorem addressFaults_eq_nil_iff (option : MediumOption) :
    addressFaults option = [] ↔ WellFormed option := by
  have hparts : ∀ mark count key what address,
      partFaults mark count key what address = [] ↔ (Text.split mark address).length = count := by
    intro mark count key what address
    unfold partFaults
    split
    · next h => exact iff_of_true rfl h
    · next h => exact iff_of_false (List.cons_ne_nil _ _) h
  cases option with
  | port number => exact iff_of_true rfl trivial
  | _ => exact hparts ..

theorem defineOption_faults (s : State) (option : MediumOption) :
    (defineOption s option).2 = addressFaults option := by
  have hip : ∀ constant key what address,
      (defineIp constant key what address s).2 = partFaults '.' 4 key what address := by
    intro constant key what address
    simp only [defineIp, partFaults]
    split <;> rfl
  cases option with
  | mac address =>
    simp only [defineOption, defineMac, addressFaults, partFaults]
    split <;> rfl
  | ip address => exact hip ..
  | mask address => exact hip ..
  | gateway address => exact hip ..
  | port number => rfl

theorem defineOptions_faults (s : State) (options : List MediumOption) :
    (defineOptions s options).2 = options.flatMap addressFaults := by
  induction options generalizing s with
  | nil => rfl
  | cons option options ih =>
    show (defineOption s option).2 ++ (defineOptions (defineOption s option).1 options).2 = _
    rw [defineOption_faults, ih, List.flatMap_cons]

theorem addMedium_stop (o : Options) (m : Medium) (s : State) : (addMedium o m s).stop = none := by
  cases m <;> rfl

/-- Every fault of an address is reported, at the place of the medium.  A medium without
a place has no address. -/
theorem addMedium_entries (o : Options) (m : Medium) (pos : Pos) (s : State) :
    Visitor.entriesOf name (addMedium o m s).reports =
      (m.options.flatMap addressFaults).map (·.attributed name (m.pos?.getD pos)) := by
  have hreports : (addMedium o m s).reports =
      (m.options.flatMap addressFaults).map (·, m.pos?.getD pos) := by
    cases m with
    | ethernet options pos =>
      exact congrArg (List.map (·, pos)) (defineOptions_faults _ options)
    | ethernetLite options pos =>
      exact congrArg (List.map (·, pos)) (defineOptions_faults _ options)
    | _ => rfl
  rw [hreports, Visitor.entriesOf, List.flatMap_map, List.map_eq_flatMap]
  refine List.flatMap_congr fun f hf => ?_
  obtain ⟨option, -, hfault⟩ := List.mem_flatMap.1 hf
  obtain ⟨d, rfl, -⟩ := Board.addressFaults_simple hfault
  rfl

theorem addMedium_quiet_iff (o : Options) (m : Medium) (s : State) :
    Visitor.Quiet name (addMedium o m s) ↔ ∀ option ∈ m.options, WellFormed option := by
  rw [Visitor.Quiet, and_iff_right (addMedium_stop o m s), addMedium_entries o m {} s,
    List.map_eq_nil_iff, List.flatMap_eq_nil_iff]
  simp only [addressFaults_eq_nil_iff]

theorem addInput_quiet_iff (o : Options) (g : Gpio) (id : UInt8) (s : State) :
    Visitor.Quiet name (addInput o g id s) ↔
      ∃ d, Catalog.find? g.name = some d ∧ d.hasInterrupt = true := by
  unfold addInput
  cases Catalog.find? g.name with
  | none => exact iff_of_false (fun h => nomatch h.2) nofun
  | some d =>
    simp only [Option.some.injEq, exists_eq_left']
    split
    · rename_i h
      exact iff_of_true ⟨rfl, rfl⟩ h
    · rename_i h
      exact iff_of_false (fun h => nomatch h.1) h

theorem addOutput_quiet_iff (o : Options) (g : Gpio) (id : UInt8) (s : State) :
    Visitor.Quiet name (addOutput o g id s) ↔ ∃ d, Catalog.find? g.name = some d := by
  unfold addOutput
  cases Catalog.find? g.name with
  | none => exact iff_of_false (fun h => nomatch h.2) nofun
  | some d => exact iff_of_true ⟨rfl, rfl⟩ ⟨d, rfl⟩

theorem visit_quiet_iff (o : Options) (b : Board) (c : Counters) {call : Call}
    (hcall : call ≠ .finish) (s : State) :
    Visitor.Quiet name (visit o b c call s) ↔ Demands call := by
  cases call with
  | medium m => exact addMedium_quiet_iff o m s
  | input g id => exact addInput_quiet_iff o g id s
  | output g id => exact addOutput_quiet_iff o g id s
  | bidirectional g inputId outputId => exact iff_of_false (fun h => nomatch h.1) nofun
  | finish => exact absurd rfl hcall
  | _ => exact iff_of_true ⟨rfl, rfl⟩ trivial

theorem supported_iff (earlier : List Gpio) (g : Gpio) (hg : g.direction.Proper) :
    (∀ call ∈ gpioCalls earlier g, Demands call) ↔ Supported g := by
  unfold gpioCalls Supported
  rcases hg with hd | hd | hd <;> simp [hd, Demands]

/-- A scheduler that is not missing can be generated. -/
theorem module_ok (dir : String) {code : Code} (hcode : code ≠ .missing) (inlets outlets : Int) :
    ∃ m, Server.Schedule.module dir code inlets outlets = .ok m := by
  cases code with
  | default => exact ⟨_, rfl⟩
  | user lines => exact ⟨_, rfl⟩
  | missing => exact absurd rfl hcode

theorem finish_quiet (o : Options) (c : Counters) {s : State} (hs : s.scheduler ≠ .missing) :
    Visitor.Quiet name (finish o c s) := by
  have hcode : (complete c s).scheduler ≠ .missing := hs
  obtain ⟨m, hm⟩ := module_ok o.src hcode (c.count .streamMaster) (c.count .streamSlave)
  simp only [finish, hm]
  exact ⟨rfl, rfl⟩

theorem run_succeeds_iff (o : Options) {b : Board} (hb : b.Walkable) :
    (∃ r, (Backend.firmware o).run b = .ok r) ↔
      b.Sound ∧ (∀ g ∈ b.gpios, Supported g) ∧ ∀ option ∈ b.medium.options, WellFormed option := by
  have hdemands : (∀ call ∈ b.inside, Demands call) ↔
      (∀ option ∈ b.medium.options, WellFormed option) ∧ ∀ g ∈ b.gpios, Supported g := by
    refine Board.forall_inside_iff (fun call hmedium hgpios => ?_) supported_iff hb
    cases call with
    | medium m => exact absurd rfl hmedium
    | input g id => exact absurd rfl hgpios
    | output g id => exact absurd rfl hgpios
    | bidirectional g inputId outputId => exact absurd rfl hgpios
    | _ => trivial
  rw [and_comm (a := ∀ g ∈ b.gpios, Supported g), ← hdemands]
  constructor
  · rintro ⟨r, h⟩
    refine ⟨Board.defects_eq_nil_iff.1 (Backend.run_ok (visitor_countsLast o) h).2.1, ?_⟩
    intro call hcall
    obtain ⟨s, hquiet⟩ := Backend.run_accepts (visitor_countsLast o) h hcall
    exact (visit_quiet_iff o b {} (b.inside_proper call hcall).2 s).1 hquiet
  · rintro ⟨hsound, hcalls⟩
    refine Backend.run_of_accepts (visitor_countsLast o) hb hsound ⟨⟨rfl, rfl⟩, ?_⟩ ?_
    · refine Visitor.accepts_of_quiet (fun call hcall s => ?_) _
      exact (visit_quiet_iff o b {} (b.inside_proper call hcall).2 s).2 (hcalls call hcall)
    · refine finish_quiet o b.lastCounters ?_
      rw [(lastState_configures o b).2]
      exact hb.scheduler

end Firmware

/-! ## The hardware project -/

namespace Hardware

/-- A device of the catalog that is declared the way it works. -/
def Fits (g : Gpio) : Prop :=
  ∃ d, Catalog.find? g.name = some d ∧ g.direction = if d.isInput then .input else .output

instance : DecidablePred Fits := fun g =>
  inferInstanceAs (Decidable (∃ d ∈ Catalog.find? g.name,
    g.direction = if d.isInput then .input else .output))

/-- What the project demands of a call. -/
def Demands : Call → Prop
  | .input g _ => ∃ d, Catalog.find? g.name = some d ∧ d.isInput = true
  | .output g _ => ∃ d, Catalog.find? g.name = some d ∧ d.isInput = false
  | .bidirectional .. => False
  | _ => True

theorem addGpio_quiet {g : Gpio} {input : Bool} (s : State)
    (h : ∃ d, Catalog.find? g.name = some d ∧ d.isInput = input) :
    Visitor.Quiet name (addGpio g input s) := by
  obtain ⟨d, hd, hinput⟩ := h
  simp only [addGpio, hd, hinput, if_true]
  exact ⟨rfl, rfl⟩

theorem addGpio_quiet_iff (g : Gpio) (input : Bool) (s : State) :
    Visitor.Quiet name (addGpio g input s) ↔
      ∃ d, Catalog.find? g.name = some d ∧ d.isInput = input :=
  ⟨fun h => device_of_accepted h.1 h.2, addGpio_quiet s⟩

theorem visit_quiet_iff (o : Options) (b : Board) (c : Counters) {call : Call}
    (hcall : call.part ≠ .medium) (s : State) :
    Visitor.Quiet name (visit o b c call s) ↔ Demands call := by
  cases call with
  | medium m => exact absurd rfl hcall
  | input g id => exact addGpio_quiet_iff g true s
  | output g id => exact addGpio_quiet_iff g false s
  | bidirectional g inputId outputId => exact iff_of_false (fun h => nomatch h.2) nofun
  | _ => exact iff_of_true ⟨rfl, rfl⟩ trivial

/-- The console is in the base system, so its interrupt can be wired. -/
theorem addMedium_quiet (m : Medium) : Visitor.Quiet name (addMedium m (begin {})) := by
  cases m with
  | uart pos => exact ⟨rfl, rfl⟩
  | _ => exact ⟨rfl, rfl⟩

theorem fits_iff (earlier : List Gpio) (g : Gpio) (hg : g.direction.Proper) :
    (∀ call ∈ gpioCalls earlier g, Demands call) ↔ Fits g := by
  unfold gpioCalls Fits
  rcases hg with hd | hd | hd
  · simp [hd, Demands]
  · simp [hd, Demands]
  · have honeway : ∀ d : Device, Direction.dual ≠ if d.isInput then .input else .output := by
      intro d
      split <;> nofun
    simp [hd, Demands, honeway]

theorem run_succeeds_iff (o : Options) {b : Board} (hb : b.Walkable) :
    (∃ r, (Backend.hardware o).run b = .ok r) ↔ b.Sound ∧ ∀ g ∈ b.gpios, Fits g := by
  have hdemands : (∀ call ∈ b.inside, Demands call) ↔ True ∧ ∀ g ∈ b.gpios, Fits g := by
    refine Board.forall_inside_iff (fun call _ hgpios => ?_) fits_iff hb
    cases call with
    | input g id => exact absurd rfl hgpios
    | output g id => exact absurd rfl hgpios
    | bidirectional g inputId outputId => exact absurd rfl hgpios
    | _ => trivial
  rw [← true_and (∀ g ∈ b.gpios, Fits g), ← hdemands]
  obtain ⟨calls, hinside, hcalls⟩ := b.inside_medium
  constructor
  · rintro ⟨r, h⟩
    refine ⟨Board.defects_eq_nil_iff.1 (Backend.run_ok (visitor_countsLast o) h).2.1, ?_⟩
    intro call hcall
    obtain ⟨s, hquiet⟩ := Backend.run_accepts (visitor_countsLast o) h hcall
    by_cases hmedium : call.part = .medium
    · cases call with
      | medium m => trivial
      | _ => cases hmedium
    · exact (visit_quiet_iff o b {} hmedium s).1 hquiet
  · rintro ⟨hsound, hdemanded⟩
    refine Backend.run_of_accepts (visitor_countsLast o) hb hsound ⟨⟨rfl, rfl⟩, ?_⟩ ⟨rfl, rfl⟩
    rw [hinside] at hdemanded ⊢
    refine ⟨addMedium_quiet b.medium, Visitor.accepts_of_quiet (fun call hcall s => ?_) _⟩
    exact (visit_quiet_iff o b {} (hcalls call hcall).2 s).2
      (hdemanded call (List.mem_cons_of_mem _ hcall))

end Hardware

/-! ## All three -/

/-- What it takes for each run to succeed.  A walk finds nothing to report if and only if
the board is sound, and then the host API can be generated.  The server also needs devices
that it can drive and addresses that it can read, and the project needs devices that are
declared the way they work. -/
theorem runs_succeed_iff (host : Host.Options) (firmware : Firmware.Options)
    (hardware : Hardware.Options) (b : Board) (hcode : b.scheduler.code ≠ .missing)
    (hgpios : ∀ g ∈ b.gpios, g.direction.Proper) :
    (b.defects = [] ↔ b.Sound) ∧
      ((∃ api, (Backend.host host).run b = .ok api) ↔ b.Sound) ∧
      ((∃ server, (Backend.firmware firmware).run b = .ok server) ↔
        b.Sound ∧ (∀ g ∈ b.gpios, Firmware.Supported g) ∧
          ∀ option ∈ b.medium.options, Firmware.WellFormed option) ∧
      ((∃ project, (Backend.hardware hardware).run b = .ok project) ↔
        b.Sound ∧ ∀ g ∈ b.gpios, Hardware.Fits g) :=
  have hb : b.Walkable := ⟨hcode, hgpios⟩
  ⟨Board.defects_eq_nil_iff, Host.run_succeeds_iff host hb,
    Firmware.run_succeeds_iff firmware hb, Hardware.run_succeeds_iff hardware hb⟩

/-- A board that has all its streams in use.  The buttons are declared as an output. -/
def fullBoard : Board where
  medium := .ethernet [.mac "00:0a:35:01:02:03", .ip "10.0.0.2", .port 8844] {}
  gpios := [{ name := "buttons", direction := .output }, { name := "leds", direction := .output }]
  cores := [{ name := "node", ports := [
    { name := "io", direction := .dual },
    { name := "next", direction := .output },
    { name := "prev", direction := .input }] }]
  instances := [
    { name := "left", core := "node", bindings :=
      .link { port := "next", peer := "right", peerPort := "prev" } ::
        List.replicate 16 (.cpu { port := "io" }) },
    { name := "right", core := "node", bindings := [
      .link { port := "next", peer := "left", peerPort := "prev" }] }]

/-- The server drives the buttons both ways, the project does not. -/
theorem runs_succeed_iff_full :
    fullBoard.scheduler.code ≠ .missing ∧ (∀ g ∈ fullBoard.gpios, g.direction.Proper) ∧
      (∃ api, (Backend.host {}).run fullBoard = .ok api) ∧
      (∃ server, (Backend.firmware {}).run fullBoard = .ok server) ∧
      ¬ ∃ project, (Backend.hardware {}).run fullBoard = .ok project := by
  have hcode : fullBoard.scheduler.code ≠ .missing := by decide
  have hgpios : ∀ g ∈ fullBoard.gpios, g.direction.Proper := by decide
  have hsound : fullBoard.Sound := Board.defects_eq_nil_iff.1 (by decide +kernel)
  obtain ⟨-, hhost, hfirmware, hhardware⟩ := runs_succeed_iff {} {} {} fullBoard hcode hgpios
  refine ⟨hcode, hgpios, hhost.2 hsound, hfirmware.2 ⟨hsound, by decide, by decide +kernel⟩, ?_⟩
  intro h
  exact absurd (hhardware.1 h).2 (by decide)

end Boardwright
