import Boardwright.Descriptor
import Boardwright.Platform
import Boardwright.Text.Quoted

/-!
# GPIO devices

The catalog knows the general-purpose IO devices of the board, how they are instantiated and to
which pins they connect.
-/

namespace Boardwright

structure Device where
  /-- The name that boards use. -/
  name : String
  /-- The name of the hardware instance. -/
  inst : String
  /-- The name of the instance in the board support package. -/
  supportInst : String
  /-- The macro that identifies the device. -/
  idMacro : String
  /-- The macro of the interrupt channel; none for a device without interrupts. -/
  channelMacro : String := ""
  base : String
  high : String
  ioStandard : String
  pins : List String := []
  width : Int64
  isInput : Bool := false
  deriving DecidableEq, Repr, Inhabited

namespace Device

open Descriptor (Line Block)

def hasInterrupt (d : Device) : Bool := d.channelMacro != ""

/-- The net that connects the pins. -/
def net (d : Device) : String := d.inst ++ (if d.isInput then "_TRI_I" else "_TRI_O")

/-- The net that carries the interrupt. -/
def interruptNet (d : Device) : String := d.inst ++ "_IP2INTC_Irpt"

/-- The line that leads the device out of the system. -/
def externalPort (d : Device) : Line :=
  ((Line.port d.net (.ident d.net)).also "DIR" (.ident (if d.isInput then "I" else "O"))).also "VEC"
    (.range (d.width - 1).toInt 0)

/-- The block that instantiates the device. -/
def block (d : Device) : Block where
  name := "axi_gpio"
  lines := [
    .parameter "INSTANCE" (.ident d.inst),
    .parameter "HW_VER" (.ident Platform.gpioCore),
    .parameter "C_GPIO_WIDTH" (.number d.width.toInt),
    .parameter "C_ALL_INPUTS" (.number (if d.isInput then 1 else 0)),
    .parameter "C_INTERRUPT_PRESENT" (.number (if d.hasInterrupt then 1 else 0)),
    .parameter "C_IS_DUAL" (.number 0),
    .parameter "C_BASEADDR" (.address d.base),
    .parameter "C_HIGHADDR" (.address d.high),
    .bus "S_AXI" (.ident Platform.liteBus),
    .port "S_AXI_ACLK" (.ident Platform.clockNet),
    .port (if d.isInput then "GPIO_IO_I" else "GPIO_IO_O") (.ident d.net)] ++
    if d.hasInterrupt then [.port "IP2INTC_Irpt" (.ident d.interruptNet)] else []

/-- The constraints that tie the net to its pins. -/
def constraints (d : Device) : List String :=
  d.pins.zipIdx.map fun (pin, i) =>
    "NET " ++ d.net ++ "[" ++ toString i ++ "] LOC = " ++ Text.quote pin ++ "  |  IOSTANDARD = " ++
      Text.quote d.ioStandard ++ ";"

end Device

namespace Catalog

/-- The devices, by name. -/
def devices : List Device := [
  { name := "buttons"
    inst := "Push_Buttons_5Bits"
    supportInst := "push_buttons_5bits"
    idMacro := "XPAR_PUSH_BUTTONS_5BITS_DEVICE_ID"
    channelMacro := "XPAR_MICROBLAZE_0_INTC_PUSH_BUTTONS_5BITS_IP2INTC_IRPT_INTR"
    base := "0x40000000"
    high := "0x4000ffff"
    ioStandard := "LVCMOS15"
    pins := ["G26", "A19", "G17", "A18", "H17"]
    width := 5
    isInput := true },
  { name := "leds"
    inst := "LEDs_8Bits"
    supportInst := "leds_8bits"
    idMacro := "XPAR_LEDS_8BITS_DEVICE_ID"
    base := "0x40020000"
    high := "0x4002ffff"
    ioStandard := "LVCMOS25"
    pins := ["AC22", "AC24", "AE22", "AE23", "AB23", "AG23", "AE24", "AD24"]
    width := 8 },
  { name := "switches"
    inst := "DIP_Switches_8Bits"
    supportInst := "dip_switches_8bits"
    idMacro := "XPAR_DIP_SWITCHES_8BITS_DEVICE_ID"
    channelMacro := "XPAR_MICROBLAZE_0_INTC_DIP_SWITCHES_8BITS_IP2INTC_IRPT_INTR"
    base := "0x40040000"
    high := "0x4004ffff"
    ioStandard := "LVCMOS15"
    pins := ["D22", "C22", "L21", "L20", "C18", "B18", "K22", "K21"]
    width := 8
    isInput := true }]

/-- The device of a name. -/
def find? (name : String) : Option Device := devices.find? (·.name == name)

def names : List String := devices.map (·.name)

end Catalog

end Boardwright
