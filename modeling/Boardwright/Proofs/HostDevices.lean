import Boardwright.Proofs.Acceptance
import Boardwright.Proofs.HostClasses
import Mathlib.Data.List.Nodup

/-!
# The identifiers of devices

Host software tells devices apart by their identifiers, which count the devices in front that work
the same way.  The counters have no limit, but an identifier is a byte, so identifiers repeat after
256 devices.

* `inputArguments` and `outputArguments` are the identifiers in the generated objects, and
  `run_devices` says what they are: the numbers of the devices modulo 256.
* `nodup_mod_iff` says when these are different.

`device_ids_distinct_iff` is the result: identifiers are always below the constant that counts the
devices, and they are pairwise different exactly on boards with at most 256 devices of a kind.
-/

namespace Boardwright.Host

open Source (Attribute Module)

/-! ## Numbers modulo 256 -/

theorem nodup_mod_iff (n : Nat) : ((List.range n).map (· % 256)).Nodup ↔ n ≤ 256 := by
  constructor
  · intro hnodup
    by_contra hmany
    -- The first number comes again at 256.
    have heq : 0 = 256 := List.inj_on_of_nodup_map hnodup (List.mem_range.2 (by omega))
      (List.mem_range.2 (by omega)) rfl
    omega
  · intro hfew
    have hsame : (List.range n).map (· % 256) = List.range n := by
      refine (List.map_congr_left fun i hi => ?_).trans (List.map_id _)
      have hlt := List.mem_range.1 hi
      exact Nat.mod_eq_of_lt (by omega)
    rw [hsame]
    exact List.nodup_range

theorem mod_lt_of_mem {n id : Nat} (h : id ∈ (List.range n).map (· % 256)) : id < n := by
  obtain ⟨i, hi, rfl⟩ := List.mem_map.1 h
  have hlt := List.mem_range.1 hi
  have hle := Nat.mod_le i 256
  omega

/-- Elements of a kind, each with the number of those in front. -/
theorem eachAfter_counts {α : Type} (kind : α → Bool) (as : List α) :
    eachAfter (fun earlier a => if kind a then [earlier.countP kind] else []) as =
      List.range (as.countP kind) := by
  have hnumbers := Board.eachAfter_numbers kind (as.countP kind) as
  rw [Nat.min_self] at hnumbers
  rw [← hnumbers]
  refine eachAfter_congr_of_split fun front a back hsplit => ?_
  cases ha : kind a with
  | false => simp
  | true =>
    have hlt : front.countP kind < as.countP kind := by
      rw [hsplit, List.countP_append, List.countP_cons_of_pos ha]
      omega
    simp [hlt]

/-! ## The objects of devices -/

/-- The objects of the devices, which stand behind the one of the medium. -/
def deviceObjects (b : Board) (components : Module) : List Attribute :=
  (components.attributes.drop (connection? b.medium).toList.length).take b.gpios.length

/-- What devices are called as inputs: the first argument of each that is one. -/
def inputArguments (b : Board) (components : Module) : List String :=
  (b.gpios.zip (deviceObjects b components)).flatMap fun x =>
    if x.1.direction.isMaster then (arguments x.2).head?.toList else []

/-- What devices are called as outputs: the last argument of each that is one. -/
def outputArguments (b : Board) (components : Module) : List String :=
  (b.gpios.zip (deviceObjects b components)).flatMap fun x =>
    if x.1.direction.isSlave then (arguments x.2).getLast?.toList else []

variable {b : Board} {components : Module}

theorem arguments_gpioObject (g : Gpio) (ids : List UInt8) :
    arguments (gpioObject g ids) = ids.map idText := rfl

theorem idText_mod (n : Nat) : idText (UInt8.ofNat (n % 256)) = toString (n % 256) := by
  show toString (UInt8.ofNat (n % 256)).toNat = _
  rw [UInt8.toNat_ofNat']
  congr 1
  omega

theorem lastState_devices (o : Options) (hb : b.Walkable)
    (hcores : ∀ inst ∈ b.instances, (b.findCore? inst.core).isSome) :
    deviceObjects b ((Backend.host o).lastState b).components =
      eachAfter (fun earlier g => [gpioObject g (deviceIds earlier g)]) b.gpios := by
  have hattributes : ((Backend.host o).lastState b).components.attributes =
      (frontCalls b).flatMap objects ++ eachAfter (instanceObjects b) b.instances :=
    (lastState_grows o hcores).attributes
  have hlength := length_eachAfter_singleton (fun earlier g => gpioObject g (deviceIds earlier g))
    b.gpios
  unfold deviceObjects
  rw [hattributes, flatMap_frontCalls hb, List.append_assoc, List.drop_left' (List.length_map _),
    List.take_left' hlength]

theorem inputArguments_eq (h : deviceObjects b components =
      eachAfter (fun earlier g => [gpioObject g (deviceIds earlier g)]) b.gpios) :
    inputArguments b components =
      ((List.range (b.gpios.countP (·.direction.isMaster))).map (· % 256)).map toString := by
  unfold inputArguments
  rw [h, zip_eachAfter, flatMap_eachAfter, ← eachAfter_counts, map_eachAfter, map_eachAfter]
  refine eachAfter_congr fun earlier g _ => ?_
  cases hg : g.direction.isMaster with
  | false => simp [hg]
  | true => simp [hg, arguments_gpioObject, deviceIds, idText_mod]

theorem outputArguments_eq (h : deviceObjects b components =
      eachAfter (fun earlier g => [gpioObject g (deviceIds earlier g)]) b.gpios) :
    outputArguments b components =
      ((List.range (b.gpios.countP (·.direction.isSlave))).map (· % 256)).map toString := by
  unfold outputArguments
  rw [h, zip_eachAfter, flatMap_eachAfter, ← eachAfter_counts, map_eachAfter, map_eachAfter]
  refine eachAfter_congr fun earlier g _ => ?_
  cases hg : g.direction.isSlave with
  | false => simp [hg]
  | true => simp [hg, arguments_gpioObject, deviceIds, idText_mod]

/-- The numbers of devices are among the constants. -/
theorem defineCounts_devices {c : Counters} {s : State} {o : Options}
    (hs : s.constants = (defineDefaults b (start o)).constants) :
    ((defineCounts c s).constants.findDefinition? "GPI_COUNT").map (·.value) =
        some (toString (c.count .gpi)) ∧
      ((defineCounts c s).constants.findDefinition? "GPO_COUNT").map (·.value) =
        some (toString (c.count .gpo)) := by
  unfold Module.findDefinition?
  rw [defineCounts_definitions hs]
  exact ⟨rfl, rfl⟩

/-! ## The finished API -/

/-- The object of a device: its name, and one argument for each way in which it works. -/
structure Stands (g : Gpio) (object : Attribute) : Prop where
  name : object.name = "gpio_" ++ g.name
  arguments : (arguments object).length =
    g.direction.isMaster.toNat + g.direction.isSlave.toNat

/-- What a successful run says about devices: one object for each, identifiers that count modulo
256, and constants that count. -/
theorem run_devices {o : Options} {api : Result} (h : (Backend.host o).run b = .ok api) :
    ∃ constants components : Module,
      api.findModule? "constants" = some constants ∧
      api.findModule? "components" = some components ∧
      List.Forall₂ Stands b.gpios (deviceObjects b components) ∧
      inputArguments b components =
        ((List.range (b.gpios.countP (·.direction.isMaster))).map (· % 256)).map toString ∧
      outputArguments b components =
        ((List.range (b.gpios.countP (·.direction.isSlave))).map (· % 256)).map toString ∧
      (constants.findDefinition? "GPI_COUNT").map (·.value) =
        some (toString (b.gpios.countP (·.direction.isMaster))) ∧
      (constants.findDefinition? "GPO_COUNT").map (·.value) =
        some (toString (b.gpios.countP (·.direction.isSlave))) := by
  obtain ⟨hb, hdefects, -, rfl⟩ := Backend.run_ok (visitor_countsLast o) h
  have hcores := Board.cores_of_no_defects hdefects
  have hgrows := lastState_grows o hcores
  obtain ⟨hconstants, hcomponents⟩ :=
    finish_modules (c := b.lastCounters) hgrows.produced hgrows.constants hgrows.components
  have hdevices := lastState_devices o hb hcores
  obtain ⟨hinputs, houtputs⟩ :=
    defineCounts_devices (c := b.lastCounters) (lastState_builds o hcores).constants
  obtain ⟨-, hpassed⟩ := Board.stepsBeforeFinish_stretch hb
  rw [hpassed.gpi] at hinputs
  rw [hpassed.gpo] at houtputs
  refine ⟨_, _, hconstants, hcomponents, ?_, inputArguments_eq hdevices,
    outputArguments_eq hdevices, hinputs, houtputs⟩
  rw [hdevices]
  refine forall₂_eachAfter fun front g back hsplit => ⟨_, rfl, rfl, ?_⟩
  rw [arguments_gpioObject, deviceIds]
  cases g.direction.isMaster <;> cases g.direction.isSlave <;> rfl

/-- Identifiers of devices.  In the objects of a successful run those of the inputs, and those of
the outputs, are below the constants that count the devices.  They are pairwise different if and
only if there are at most 256 of them. -/
theorem device_ids_distinct_iff (o : Options) (b : Board) {api : Result}
    (h : (Backend.host o).run b = .ok api) :
    ∃ (constants components : Module) (inputs outputs : List Nat),
      api.findModule? "constants" = some constants ∧
      api.findModule? "components" = some components ∧
      List.Forall₂ Stands b.gpios (deviceObjects b components) ∧
      inputArguments b components = inputs.map toString ∧
      outputArguments b components = outputs.map toString ∧
      (constants.findDefinition? "GPI_COUNT").map (·.value) = some (toString inputs.length) ∧
      (constants.findDefinition? "GPO_COUNT").map (·.value) = some (toString outputs.length) ∧
      (∀ id ∈ inputs, id < inputs.length) ∧ (∀ id ∈ outputs, id < outputs.length) ∧
      (inputs.Nodup ↔ b.gpios.countP (·.direction.isMaster) ≤ 256) ∧
      (outputs.Nodup ↔ b.gpios.countP (·.direction.isSlave) ≤ 256) := by
  obtain ⟨constants, components, hconstants, hcomponents, hstands, hinputs, houtputs, hgpi, hgpo⟩ :=
    run_devices h
  have hlength : ∀ n, ((List.range n).map (· % 256)).length = n := by simp
  refine ⟨constants, components, _, _, hconstants, hcomponents, hstands, hinputs, houtputs, ?_, ?_,
    ?_, ?_, nodup_mod_iff _, nodup_mod_iff _⟩
  · rw [hlength, hgpi]
  · rw [hlength, hgpo]
  · intro id hid
    rw [hlength]
    exact mod_lt_of_mem hid
  · intro id hid
    rw [hlength]
    exact mod_lt_of_mem hid

/-- A board with devices of each direction and an object in front of theirs. -/
def panelBoard : Board where
  medium := .uart {}
  gpios := [
    { name := "buttons", direction := .input },
    { name := "header", direction := .dual },
    { name := "leds", direction := .output },
    { name := "switches", direction := .input }]

theorem device_ids_distinct_iff_panel :
    ∃ (api : Result) (constants components : Module) (inputs outputs : List Nat),
      (Backend.host {}).run panelBoard = .ok api ∧
      api.findModule? "constants" = some constants ∧
      api.findModule? "components" = some components ∧
      inputArguments panelBoard components = inputs.map toString ∧
      outputArguments panelBoard components = outputs.map toString ∧
      (constants.findDefinition? "GPI_COUNT").map (·.value) = some (toString inputs.length) ∧
      inputs.Nodup ∧ outputs.Nodup := by
  have hrun : ∃ api, (Backend.host {}).run panelBoard = .ok api := ⟨_, rfl⟩
  obtain ⟨api, hrun⟩ := hrun
  obtain ⟨constants, components, inputs, outputs, hconstants, hcomponents, -, hinputs, houtputs,
    hgpi, -, -, -, hin, hout⟩ := device_ids_distinct_iff {} panelBoard hrun
  exact ⟨api, constants, components, inputs, outputs, hrun, hconstants, hcomponents, hinputs,
    houtputs, hgpi, hin.2 (by decide), hout.2 (by decide)⟩

/-- One device more than there are identifiers, each with a name of its own. -/
def longBoard : Board where
  gpios := (List.range 257).map fun i => { name := "d" ++ toString i, direction := .input }

theorem longBoard_run : ∃ api, (Backend.host {}).run longBoard = .ok api := by
  have hproper : ∀ g ∈ longBoard.gpios, g.direction.Proper := by
    intro g hg
    obtain ⟨i, -, rfl⟩ := List.mem_map.1 hg
    exact .inl rfl
  have hempty : longBoard.instances = [] ∧ longBoard.places = [] := ⟨rfl, rfl⟩
  refine (run_succeeds_iff {} ⟨by decide, hproper⟩).2 ?_
  constructor <;> simp [hempty]

theorem longBoard_names : (longBoard.gpios.map Gpio.name).Nodup := by
  have hnames : longBoard.gpios.map Gpio.name = (List.range 257).map ("d" ++ toString ·) := by
    simp [longBoard]
  have hinj : Function.Injective fun i : Nat => "d" ++ toString i := by
    intro i j h
    have hlists := congrArg String.toList h
    simp only [String.toList_append] at hlists
    have hmarked : (toString i).toList ++ '_' :: [] = (toString j).toList ++ '_' :: [] := by
      rw [List.append_cancel_left hlists]
    exact Text.number_inj (by decide) hmarked
  rw [hnames]
  exact List.nodup_range.map hinj

/-- The last device is called like the first. -/
theorem longBoard_ids_repeat :
    ∃ (api : Result) (components : Module), (Backend.host {}).run longBoard = .ok api ∧
      api.findModule? "components" = some components ∧
      List.Forall₂ Stands longBoard.gpios (deviceObjects longBoard components) ∧
      (longBoard.gpios.map Gpio.name).Nodup ∧
      ¬ (inputArguments longBoard components).Nodup := by
  obtain ⟨api, hrun⟩ := longBoard_run
  obtain ⟨-, components, -, hcomponents, hstands, hinputs, -⟩ := run_devices hrun
  refine ⟨api, components, hrun, hcomponents, hstands, longBoard_names, ?_⟩
  intro hnodup
  have hcount : longBoard.gpios.countP (·.direction.isMaster) = 257 := by decide +kernel
  rw [hinputs, hcount] at hnodup
  have hfew := (nodup_mod_iff 257).1 (List.Nodup.of_map _ hnodup)
  omega

end Boardwright.Host
