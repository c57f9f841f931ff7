import Boardwright.Proofs.Attribution

/-!
# Directions of devices

A device of the catalog is an input or an output, and a board says which one it
takes it for.  The hardware project compares the two.  The server does not: for an
input it asks for an interrupt, and for an output it asks for nothing.

* `hasInterrupt_eq_isInput`: the devices with an interrupt are the inputs, so that
  the server does find out when an output is declared as an input.
* `Gpio.DrivesInput` is what it does not find out, and `direction_iff_not_drivesInput`
  says that this is all.
* `blames_of_server`: if a server can be made, this is also all that is left to
  blame anything on the board for.

So the two agree on every board without such a device, and on a board with one only
the server can be made.  `directions_agree_iff` is the result.
-/

namespace Boardwright

/-- An input that is declared as an output. -/
def Gpio.DrivesInput (g : Gpio) : Prop :=
  g.direction = .output ∧ ∃ d, Catalog.find? g.name = some d ∧ d.isInput = true

instance : DecidablePred Gpio.DrivesInput := fun g =>
  inferInstanceAs (Decidable (_ ∧ ∃ d ∈ Catalog.find? g.name, d.isInput = true))

namespace Catalog

variable {name : String} {d : Device}

theorem name_of_find (h : find? name = some d) : d.name = name := by
  simpa using List.find?_some h

/-- In the catalog, the devices with an interrupt are the inputs. -/
theorem hasInterrupt_eq_isInput (h : find? name = some d) : d.hasInterrupt = d.isInput := by
  have hall : ∀ d ∈ devices, d.hasInterrupt = d.isInput := by decide
  exact hall d (List.mem_of_find?_eq_some h)

end Catalog

namespace Firmware

variable {g : Gpio}

/-- What a device that the server can drive may be declared as. -/
theorem Supported.direction (hg : g.direction.Proper) (h : Supported g) :
    ∃ d, Catalog.find? g.name = some d ∧
      (g.direction = .input ∧ d.isInput = true ∨ g.direction = .output) := by
  obtain ⟨d, hdevice, hdual, hinput⟩ := h
  refine ⟨d, hdevice, ?_⟩
  rcases hg with hd | hd | hd
  · rw [Catalog.hasInterrupt_eq_isInput hdevice] at hinput
    exact .inl ⟨hd, hinput hd⟩
  · exact .inr hd
  · exact absurd hd hdual

/-- The direction is that of the device, unless the device is an input and driven. -/
theorem direction_iff_not_drivesInput {d : Device} (hdevice : Catalog.find? g.name = some d)
    (h : g.direction = .input ∧ d.isInput = true ∨ g.direction = .output) :
    (g.direction = if d.isInput then .input else .output) ↔ ¬ g.DrivesInput := by
  have hdrives : g.DrivesInput ↔ g.direction = .output ∧ d.isInput = true := by
    simp [Gpio.DrivesInput, hdevice]
  rw [hdrives]
  rcases h with ⟨hin, hinput⟩ | hout
  · simp [hin, hinput]
  · simp [hout]

/-- Where a server can be made, what is left to blame are driven inputs. -/
theorem blames_of_server {b : Board} (hb : b.Walkable) (hsound : b.Sound)
    (hsupported : ∀ g ∈ b.gpios, Supported g)
    (hwell : ∀ option ∈ b.medium.options, WellFormed option) {node : Node} {f : Fault}
    (h : b.Blames node f) :
    ∃ g ∈ b.gpios, g.DrivesInput ∧ node = .gpio g ∧
      f = .invariant .catalog ("device " ++ g.name ++ " declared " ++ g.direction.name) := by
  cases h with
  | address hoption hf =>
    rw [(addressFaults_eq_nil_iff _).2 (hwell _ hoption)] at hf
    cases hf
  | unknownDevice hg hnone =>
    obtain ⟨d, hdevice, -⟩ := hsupported _ hg
    rw [hnone] at hdevice
    cases hdevice
  | bidirectional hg hdual =>
    obtain ⟨d, -, hone, -⟩ := hsupported _ hg
    exact absurd hdual hone
  | noInterrupt hg hinput hdevice hnone =>
    obtain ⟨d, hdevice', -, hinterrupt⟩ := hsupported _ hg
    rw [hdevice, Option.some_inj] at hdevice'
    rw [hdevice', hinterrupt hinput] at hnone
    cases hnone
  | @wrongWay g d hg hdevice hway =>
    obtain ⟨d', hdevice', hdirection⟩ := (hsupported g hg).direction (hb.gpios g hg)
    obtain rfl : d = d' := Option.some_inj.1 (hdevice.symm.trans hdevice')
    have hdrives : g.DrivesInput := by
      by_contra hnot
      exact hway ((direction_iff_not_drivesInput hdevice hdirection).2 hnot)
    exact ⟨g, hg, hdrives, rfl, by rw [Catalog.name_of_find hdevice]⟩
  | undeclaredCore hi hnone =>
    have hcore := hsound.cores _ hi
    rw [hnone] at hcore
    cases hcore
  | binding hplace hcore hf =>
    rw [hsound.bindingFaults hplace hcore] at hf
    cases hf

end Firmware

/-- On a board from which a server can be made, a device is declared with the direction that
it has in the catalog unless it is an input that is driven.  The hardware project can be made
from the board if and only if there is no such device.  If it cannot, then whatever
is returned is about one. -/
theorem directions_agree_iff (o : Firmware.Options) (o' : Hardware.Options) (b : Board)
    (server : Result) (h : (Backend.firmware o).run b = .ok server) :
    (∀ g ∈ b.gpios, ∃ d, Catalog.find? g.name = some d ∧
      ((g.direction = if d.isInput then .input else .output) ↔ ¬ g.DrivesInput)) ∧
    ((∃ project, (Backend.hardware o').run b = .ok project) ↔ ∀ g ∈ b.gpios, ¬ g.DrivesInput) ∧
    ∀ f, (Backend.hardware o').run b = .error f → f.flatten ≠ [] ∧
      ∀ e ∈ f.flatten, ∃ g ∈ b.gpios, g.DrivesInput ∧
        e = (Fault.invariant .catalog
          ("device " ++ g.name ++ " declared " ++ g.direction.name)).attributed
            Hardware.name g.pos := by
  have hb := (Backend.run_ok (Firmware.visitor_countsLast o) h).1
  obtain ⟨hsound, hsupported, hwell⟩ := (Firmware.run_succeeds_iff o hb).1 ⟨server, h⟩
  have hdirections : ∀ g ∈ b.gpios, ∃ d, Catalog.find? g.name = some d ∧
      ((g.direction = if d.isInput then .input else .output) ↔ ¬ g.DrivesInput) := by
    intro g hg
    obtain ⟨d, hdevice, hdirection⟩ := (hsupported g hg).direction (hb.gpios g hg)
    exact ⟨d, hdevice, Firmware.direction_iff_not_drivesInput hdevice hdirection⟩
  refine ⟨hdirections, ?_, ?_⟩
  · rw [Hardware.run_succeeds_iff o' hb, and_iff_right hsound]
    refine forall₂_congr fun g hg => ?_
    obtain ⟨d, hdevice, hiff⟩ := hdirections g hg
    rw [← hiff]
    simp [Hardware.Fits, hdevice]
  · intro f hrun
    obtain ⟨hsome, hattributed⟩ := Backend.run_attributed (Hardware.explained o' hb)
      (Hardware.visitor_countsLast o') hb hrun
    refine ⟨hsome, fun e he => ?_⟩
    obtain ⟨node, fault, hblames, rfl⟩ := hattributed e he
    obtain ⟨g, hg, hdrives, rfl, rfl⟩ :=
      Firmware.blames_of_server hb hsound hsupported hwell hblames
    exact ⟨g, hg, hdrives, rfl⟩

/-- A board with an output and with an input, which may be declared as something else. -/
def switchBoard (switches : Direction) : Board where
  gpios := [
    { name := "leds", direction := .output },
    { name := "switches", direction := switches }]

theorem directions_agree_iff_switches :
    ∃ server project, (Backend.firmware {}).run (switchBoard .input) = .ok server ∧
      (Backend.hardware {}).run (switchBoard .input) = .ok project := by
  have hrun : ∃ server, (Backend.firmware {}).run (switchBoard .input) = .ok server := ⟨_, rfl⟩
  obtain ⟨server, hserver⟩ := hrun
  obtain ⟨-, hiff, -⟩ := directions_agree_iff {} {} (switchBoard .input) server hserver
  obtain ⟨project, hproject⟩ := hiff.2 (by decide)
  exact ⟨server, project, hserver, hproject⟩

/-- A server is made that drives the switches, from a board that is no use for the project. -/
theorem driven_switches_accepted :
    (∃ server, (Backend.firmware {}).run (switchBoard .output) = .ok server) ∧
      (∃ f, (Backend.hardware {}).run (switchBoard .output) = .error f ∧
        f.text = "[catalog/xps] invariant: device switches declared out") ∧
      ∃ g ∈ (switchBoard .output).gpios, g.direction = .output ∧
        ∃ d, Catalog.find? g.name = some d ∧ d.isInput = true :=
  ⟨⟨_, rfl⟩, ⟨_, rfl, by decide⟩, ⟨_, List.mem_cons_of_mem _ List.mem_cons_self, rfl, _, rfl, rfl⟩⟩

end Boardwright
