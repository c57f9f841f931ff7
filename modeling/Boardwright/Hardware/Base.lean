import Boardwright.Descriptor
import Boardwright.Platform

/-!
# The base system

The part of the hardware project that is the same for every board: clocking, local memory, debug
module, timer, external memory, the console UART and the processor.
-/

namespace Boardwright.Hardware

open Descriptor (Line Block Value)

/-- The lines that place an instance in memory. -/
def addressLines (inst base high : String) : List Line :=
  let window := (Platform.window? inst).getD ⟨"", ""⟩
  [.parameter base (.address window.base), .parameter high (.address window.high)]

def windowLines (inst : String) : List Line := addressLines inst "C_BASEADDR" "C_HIGHADDR"

/-- A block for one instance of a hardware core. -/
def peripheral (kind inst version : String) (lines : List Line) : Block where
  name := kind
  lines := .parameter "INSTANCE" (.ident inst) :: .parameter "HW_VER" (.ident version) :: lines

/-- A line that leads a net out of the system. -/
def externalPort (name direction : String) : Line :=
  (Line.port name (.ident name)).also "DIR" (.ident direction)

def dataMemory : Block :=
  peripheral "lmb_bram_if_cntlr" Platform.dataController Platform.bramControllerCore
    (windowLines Platform.dataController ++ [
      .bus "SLMB" (.ident Platform.dataBus),
      .bus "BRAM_PORT" (.ident "microblaze_0_bram_block_portA")])

def instructionMemory : Block :=
  peripheral "lmb_bram_if_cntlr" Platform.instructionController Platform.bramControllerCore
    (windowLines Platform.instructionController ++ [
      .bus "SLMB" (.ident Platform.instructionBus),
      .bus "BRAM_PORT" (.ident "microblaze_0_bram_block_portB")])

def debugModule : Block :=
  peripheral "mdm" Platform.debugModule Platform.debugCore
    (windowLines Platform.debugModule ++ [
      .parameter "C_INTERCONNECT" (.number 2),
      .bus "S_AXI" (.ident Platform.liteBus),
      .bus "MBDEBUG_0" (.ident Platform.debugBus),
      .port "S_AXI_ACLK" (.ident Platform.clockNet)])

/-- The net of the timer's interrupt. -/
def timerInterrupt : String := Platform.timer ++ "_Interrupt"

def timer : Block :=
  peripheral "axi_timer" Platform.timer Platform.timerCore
    (windowLines Platform.timer ++ [
      .parameter "C_COUNT_WIDTH" (.number 32),
      .bus "S_AXI" (.ident Platform.liteBus),
      .port "S_AXI_ACLK" (.ident Platform.clockNet),
      .port "Interrupt" (.ident timerInterrupt)])

def externalMemory : Block :=
  peripheral "axi_v6_ddrx" Platform.memory Platform.memoryCore
    (addressLines Platform.memory "C_S_AXI_BASEADDR" "C_S_AXI_HIGHADDR" ++ [
      .bus "S_AXI" (.ident "axi4_0"),
      .port "ui_clk" (.ident Platform.clockNet)])

def console : Block :=
  peripheral "axi_uartlite" Platform.uart Platform.uartCore
    (windowLines Platform.uart ++ [
      .parameter "C_BAUDRATE" (.number 9600),
      .bus "S_AXI" (.ident Platform.liteBus),
      .port "S_AXI_ACLK" (.ident Platform.clockNet),
      .port "RX" (.ident (Platform.uart ++ "_sin")),
      .port "TX" (.ident (Platform.uart ++ "_sout"))])

/-- Everything but the processor and its interrupt controller, which come last. -/
def baseSystem : Descriptor where
  header := [
    .parameter "VERSION" (.ident Platform.hardwareVersion),
    (externalPort Platform.resetPort "I").also "SIGIS" (.ident "RST"),
    (externalPort Platform.clockPort "I").also "SIGIS" (.ident "CLK"),
    externalPort (Platform.uart ++ "_sin") "I",
    externalPort (Platform.uart ++ "_sout") "O"]
  blocks := [dataMemory, instructionMemory, debugModule, timer, externalMemory, console]

/-- The processor before streams are connected. -/
def processor : Block :=
  peripheral "microblaze" Platform.processor Platform.processorCore [
    .parameter "C_INTERCONNECT" (.number 2),
    .parameter "C_USE_BARREL" (.number 1),
    .parameter "C_USE_EXTENDED_FSL_INSTR" (.number 1),
    .parameter "C_DEBUG_ENABLED" (.number 1),
    .bus "DLMB" (.ident Platform.dataBus),
    .bus "ILMB" (.ident Platform.instructionBus),
    .bus "M_AXI_DP" (.ident Platform.liteBus),
    .bus "DEBUG" (.ident Platform.debugBus),
    .bus "INTERRUPT" (.ident Platform.interruptBus),
    .port "MB_RESET" (.ident Platform.resetNet),
    .port "CLK" (.ident Platform.clockNet)]

/-- The interrupt controller with the nets that it serves. -/
def interruptController (nets : List Value) : Block :=
  peripheral "axi_intc" Platform.interruptController Platform.interruptCore
    (windowLines Platform.interruptController ++ [
      .bus "S_AXI" (.ident Platform.liteBus),
      .bus "INTERRUPT" (.ident Platform.interruptBus),
      .port "S_AXI_ACLK" (.ident Platform.clockNet),
      .port "INTR" (.concat nets)])

end Boardwright.Hardware
