import Boardwright.Catalog
import Boardwright.Firmware.State

/-!
# GPIO devices of the server

Input devices raise interrupts, which the server forwards to the host or handles with code of the
board.  Output devices are only initialised.  No device works both ways.
-/

namespace Boardwright.Firmware

open Source (Procedure)

/-- Leaves the initialisation when the driver call before failed. -/
def statusCheck (action device : String) : List String := [
  "if(status != XST_SUCCESS) \x7b",
  "    loopy_print(\"ERROR " ++ action ++ " " ++ device ++ ": %d\\n\", status);",
  "    return;",
  "\x7d"]

/-- What an interrupt handler does apart from clearing the interrupt. -/
def callbackLines (g : Gpio) : List String :=
  match g.callback with
  | .user lines => "// user-defined callback code" :: lines
  | _ => [
      "// transmit gpi state change to host",
      "send_gpio(gpi_" ++ g.name ++ ", gpio_read(gpi_" ++ g.name ++ "));"]

def handlerBody (g : Gpio) : Source.Code where
  lines := ["XGpio *GpioPtr = (XGpio *)CallbackRef;", ""] ++ callbackLines g ++
    ["", "// Clear the Interrupt", "XGpio_InterruptClear(GpioPtr, GPIO_CHANNEL1);"]
  includes := [gpioHeader]
  forwardDecls := ["int gpio_read(int target)", "int gpio_write(int target, int val)"]

/-- The interrupt handler of an input device. -/
def handler (g : Gpio) : Procedure where
  returns := .void
  name := "GpioHandler_" ++ g.name
  doc := { lines := [
    "Interrupt handler of the " ++ g.name ++ " component.",
    "Forwards state changes to the host and clears the interrupt."] }
  params := [{ type := .pointerTo "void", name := "CallbackRef" }]
  modifiers := ["private"]
  body := handlerBody g

def inputInit (g : Gpio) (d : Device) : List String :=
  let target := "&gpi_components[gpi_" ++ g.name ++ "]"
  ["", "// initialise " ++ g.name,
   "status = XGpio_Initialize(" ++ target ++ ", " ++ d.idMacro ++ ");"] ++
  statusCheck "initialising" g.name ++
  ["XGpio_SetDataDirection(" ++ target ++ ", GPIO_CHANNEL1, 0xFFFFFFFF);",
   "status = GpioIntrSetup(" ++ target ++ ", " ++ d.idMacro ++ ", " ++ d.channelMacro ++
     ", GPIO_CHANNEL1, GpioHandler_" ++ g.name ++ ");"] ++
  statusCheck "connecting interrupt of" g.name

def outputInit (g : Gpio) (d : Device) : List String :=
  let target := "&gpo_components[gpo_" ++ g.name ++ "]"
  ["", "// initialise " ++ g.name,
   "status = XGpio_Initialize(" ++ target ++ ", " ++ d.idMacro ++ ");"] ++
  statusCheck "initialising" g.name ++
  ["XGpio_SetDataDirection(" ++ target ++ ", GPIO_CHANNEL1, 0x0);"]

/-- Extends the initialisation. -/
def addInit (lines : List String) (s : State) : State :=
  let code := (Source.Code.ofLines lines).needs [gpioHeader, parametersHeader, constantsHeader]
  { s with init := s.init.addCode code }

/-- Deploys the shared driver sources and registers a device. -/
def addDriver (o : Options) (d : Device) (s : State) : State :=
  let dir := Path.join [o.src, "components"]
  { s with
    deploy := (s.deploy.add (o.template "gpio.h") (Path.join [dir, "gpio.h"])).add
      (o.template "gpio.c") (Path.join [dir, "gpio.c"])
    support := s.support.addBlocks [driver "gpio" Platform.gpioDriver d.supportInst] }

/-- Gives a device its number. -/
def addNumber (label kind : String) (g : Gpio) (id : UInt8) (s : State) : State :=
  { s with components := s.components.addDefinition {
      doc := { lines := [label ++ " ID of the " ++ g.name ++ " component"] }
      name := kind ++ g.name
      value := toString id.toNat } }

def addInput (o : Options) (g : Gpio) (id : UInt8) (s : State) : Answer State :=
  match Catalog.find? g.name with
  | none => { state := s, reports := [(.unknownDevice g.name, g.pos)] }
  | some d =>
    if d.hasInterrupt then
      let s := addNumber "GPI" "gpi_" g id s
      let s := { s with components := s.components.addProcedure (handler g) }
      { state := addDriver o d (addInit (inputInit g d) s) }
    else
      { state := s
        stop := some (.invariant .catalog
          ("input device " ++ d.name ++ " has no interrupt channel")) }

def addOutput (o : Options) (g : Gpio) (id : UInt8) (s : State) : Answer State :=
  match Catalog.find? g.name with
  | none => { state := s, reports := [(.unknownDevice g.name, g.pos)] }
  | some d =>
    { state := addDriver o d (addInit (outputInit g d) (addNumber "GPO" "gpo_" g id s)) }

end Boardwright.Firmware
