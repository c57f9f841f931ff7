import Boardwright.Catalog
import Boardwright.Hardware.State

/-!
# Devices in hardware

GPIO devices and the transport medium.  Both are led out of the system and wired to the interrupt
controller.
-/

namespace Boardwright.Hardware

open Descriptor (Line Block)

/-- Adds a device of the catalog, which must be declared the way it works. -/
def addGpio (g : Gpio) (input : Bool) (s : State) : Answer State :=
  match Catalog.find? g.name with
  | none => { state := s, reports := [(.unknownDevice g.name, g.pos)] }
  | some d =>
    if d.isInput = input then
      { state := { s with
          system := (s.system.addLine d.externalPort).addBlocks [d.block]
          interrupts := s.interrupts ++ (if d.hasInterrupt then [.ident d.interruptNet] else [])
          constraints := s.constraints ++ d.constraints } }
    else
      { state := s
        stop := some (.invariant .catalog
          ("device " ++ d.name ++ " declared " ++ g.direction.name)) }

/-- Wires the interrupt of the console UART, which the system has anyway. -/
def addUart (s : State) : Answer State :=
  match s.system.find? Platform.uart with
  | none =>
    { state := s
      stop := some (.invariant .traverse ("base system has no " ++ Platform.uart)) }
  | some (block, index) =>
    let net := Platform.uart ++ "_Interrupt"
    { state := { s with
        system := s.system.replace index (block.add [.port "Interrupt" (.ident net)])
        interrupts := s.interrupts ++ [.ident net] } }

/-- The net of the Ethernet interrupt. -/
def ethernetInterrupt : String := Platform.ethernetLite ++ "_IP2INTC_Irpt"

def ethernetPorts : List Line :=
  let port (suffix direction : String) := externalPort (Platform.ethernetLite ++ suffix) direction
  [port "_TX_CLK" "I",
   port "_RX_CLK" "I",
   (port "_TXD" "O").also "VEC" (.range 3 0),
   (port "_RXD" "I").also "VEC" (.range 3 0),
   port "_TX_EN" "O",
   port "_RX_DV" "I",
   port "_PHY_RST_N" "O"]

def ethernetBlock : Block :=
  let net (suffix : String) : Descriptor.Value := .ident (Platform.ethernetLite ++ suffix)
  peripheral "axi_ethernetlite" Platform.ethernetLite Platform.ethernetCore
    (windowLines Platform.ethernetLite ++ [
      .parameter "C_INCLUDE_INTERNAL_LOOPBACK" (.number 0),
      .bus "S_AXI" (.ident Platform.liteBus),
      .port "S_AXI_ACLK" (.ident Platform.clockNet),
      .port "IP2INTC_Irpt" (.ident ethernetInterrupt),
      .port "PHY_tx_clk" (net "_TX_CLK"),
      .port "PHY_rx_clk" (net "_RX_CLK"),
      .port "PHY_tx_data" (net "_TXD"),
      .port "PHY_rx_data" (net "_RXD"),
      .port "PHY_tx_en" (net "_TX_EN"),
      .port "PHY_dv" (net "_RX_DV"),
      .port "PHY_rst_n" (net "_PHY_RST_N")])

def addEthernet (s : State) : State :=
  { s with
    system := { header := s.system.header ++ ethernetPorts
                blocks := s.system.blocks ++ [ethernetBlock] }
    interrupts := s.interrupts ++ [.ident ethernetInterrupt] }

def addMedium (m : Medium) (s : State) : Answer State :=
  match m with
  | .none => { state := s }
  | .uart _ => addUart s
  | .ethernet _ _ => { state := addEthernet s }
  | .ethernetLite _ _ => { state := addEthernet s }
  | .pcie _ => { state := s }

end Boardwright.Hardware
