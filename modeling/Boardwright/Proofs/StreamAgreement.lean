import Boardwright.Proofs.FirmwareStreams
import Boardwright.Proofs.HardwareStreams
import Boardwright.Proofs.HostObjects

/-!
# One numbering of streams

Host software, server and hardware are generated by three backends that never
see each other's results.  They have to mean the same stream by the same number,
or words end up at the wrong port.  The theorem here says that they do: one
assignment of streams to CPU bindings accounts for all three results.
-/

namespace Boardwright

/-- The three results for one board agree about its streams: one assignment of
streams to the CPU bindings, in order, is followed by the arguments of the host
objects, by the cases and queues of the server, and by the interfaces of the
processor. -/
theorem stream_ids_agree (b : Board) (hostOptions : Host.Options)
    (firmwareOptions : Firmware.Options) (hardwareOptions : Hardware.Options)
    {api server project : Result} (hapi : (Backend.host hostOptions).run b = .ok api)
    (hserver : (Backend.firmware firmwareOptions).run b = .ok server)
    (hproject : (Backend.hardware hardwareOptions).run b = .ok project) :
    ∃ grants : List (List Grant),
      grants.map (List.map Prod.fst) = b.instances.map Instance.cpuBindings ∧
      Host.Follows b grants api ∧ Firmware.Follows b grants server ∧
      Hardware.Follows grants project :=
  ⟨b.grants, b.grants_bindings, Host.follows_grants hapi, Firmware.follows_grants hserver,
    Hardware.follows_grants hproject⟩

/-- A board with two host instances, a link, a dual port, devices and a queue of
its own size. -/
def pairedBoard : Board where
  medium := .uart {}
  gpios := [
    { name := "buttons", direction := .input },
    { name := "leds", direction := .output }]
  cores := [{ name := "adder", ports := [
    { name := "a", direction := .input },
    { name := "sum", direction := .output },
    { name := "io", direction := .dual }] }]
  instances := [
    { name := "left", core := "adder", bindings := [
      .cpu { port := "a" }, .link { port := "sum", peer := "right", peerPort := "a" },
      .cpu { port := "io" }] },
    { name := "right", core := "adder", bindings := [
      .cpu { port := "io", options := [.swQueue 5] }, .cpu { port := "sum" }] }]

theorem stream_ids_agree_paired :
    ∃ api server project, (Backend.host {}).run pairedBoard = .ok api ∧
      (Backend.firmware {}).run pairedBoard = .ok server ∧
      (Backend.hardware {}).run pairedBoard = .ok project ∧
      ∃ grants : List (List Grant),
        grants.map (List.map Prod.fst) = pairedBoard.instances.map Instance.cpuBindings ∧
        Host.Follows pairedBoard grants api ∧ Firmware.Follows pairedBoard grants server ∧
        Hardware.Follows grants project :=
  ⟨_, _, _, rfl, rfl, rfl, stream_ids_agree pairedBoard {} {} {} rfl rfl rfl⟩

end Boardwright
