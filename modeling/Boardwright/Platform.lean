import Boardwright.Text.Split

/-!
# The base system

Names, versions and addresses of everything that is on the board whatever it is used for: the
processor, its memories, controllers, clocks and buses.
-/

namespace Boardwright.Platform

/-! ## Board support versions -/

def supportVersion : String := "2.2.0"
def osName : String := "standalone"
def osVersion : String := "3.08.a"
def cpuDriver : String := "1.14.a"
def bramDriver : String := "3.01.a"
def interruptDriver : String := "2.05.a"
def timerDriver : String := "2.04.a"
def memoryDriver : String := "2.00.a"
def uartDriver : String := "2.00.a"
def ethernetDriver : String := "3.03.a"
def gpioDriver : String := "3.00.a"
def genericDriver : String := "1.00.a"
def networkLibrary : String := "lwip140"
def networkLibraryVersion : String := "1.03.a"
def protocolVersion : String := "1"

/-! ## Hardware versions -/

def hardwareVersion : String := "2.1.0"
def processorCore : String := "8.40.a"
def interruptCore : String := "1.03.a"
def bramControllerCore : String := "3.10.c"
def debugCore : String := "2.10.a"
def timerCore : String := "1.03.a"
def memoryCore : String := "1.06.a"
def uartCore : String := "1.02.a"
def ethernetCore : String := "1.01.b"
def gpioCore : String := "1.01.b"
def queueCore : String := "1.00.a"
def resizerCore : String := "1.00.a"
def userCore : String := "1.00.a"

/-! ## Instances, nets and buses -/

def processor : String := "microblaze_0"
def interruptController : String := "microblaze_0_intc"
def timer : String := "axi_timer_0"
def debugModule : String := "debug_module"
def dataController : String := "microblaze_0_d_bram_ctrl"
def instructionController : String := "microblaze_0_i_bram_ctrl"
def uart : String := "RS232_Uart_1"
def ethernetLite : String := "Ethernet_Lite"
def memory : String := "DDR3_SDRAM"
/-- The memory, UART and Ethernet instances as the board support package spells them. -/
def memoryDevice : String := "ddr3_sdram"
def stdioDevice : String := "rs232_uart_1"
def ethernetDevice : String := "ethernet_lite"
def dataBus : String := "microblaze_0_dlmb"
def instructionBus : String := "microblaze_0_ilmb"
def debugBus : String := "microblaze_0_debug"
def interruptBus : String := "microblaze_0_interrupt"
def liteBus : String := "axi4lite_0"
def clockNet : String := "clk_100_0000MHzMMCM0"
def resetNet : String := "proc_sys_reset_0_Peripheral_aresetn"
def clockPort : String := "CLK"
def resetPort : String := "RESET"

/-! ## Addresses -/

/-- First and last address of a memory-mapped instance. -/
structure Window where
  base : String
  high : String
  deriving DecidableEq, Repr, Inhabited

def windows : List (String × Window) := [
  (dataController, ⟨"0x00000000", "0x0000ffff"⟩),
  (instructionController, ⟨"0x00000000", "0x0000ffff"⟩),
  (debugModule, ⟨"0x41400000", "0x4140ffff"⟩),
  (interruptController, ⟨"0x41200000", "0x4120ffff"⟩),
  (timer, ⟨"0x41c00000", "0x41c0ffff"⟩),
  (uart, ⟨"0x40600000", "0x4060ffff"⟩),
  (ethernetLite, ⟨"0x40e00000", "0x40e0ffff"⟩),
  (memory, ⟨"0xc0000000", "0xc7ffffff"⟩)]

def window? (inst : String) : Option Window := windows.lookup inst

/-- The directory of a peripheral core, such as `queue_v1_00_a`. -/
def coreDir (core version : String) : String :=
  core ++ "_v" ++ Text.replaceChar '.' '_' version

end Boardwright.Platform
