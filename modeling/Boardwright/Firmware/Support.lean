import Boardwright.Descriptor
import Boardwright.Platform

/-!
# The board support package

The descriptor of the software that the server is linked with: operating system, processor and a
driver for every device.
-/

namespace Boardwright.Firmware

open Descriptor (Block)

/-- A driver for a hardware instance. -/
def driver (name version inst : String) : Block where
  name := "DRIVER"
  lines := [
    .parameter "DRIVER_NAME" (.ident name),
    .parameter "DRIVER_VER" (.ident version),
    .parameter "HW_INSTANCE" (.ident inst)]

def operatingSystem : Block where
  name := "OS"
  lines := [
    .parameter "OS_NAME" (.ident Platform.osName),
    .parameter "OS_VER" (.ident Platform.osVersion),
    .parameter "PROC_INSTANCE" (.ident Platform.processor),
    .parameter "STDIN" (.ident Platform.stdioDevice),
    .parameter "STDOUT" (.ident Platform.stdioDevice)]

def processor : Block where
  name := "PROCESSOR"
  lines := [
    .parameter "DRIVER_NAME" (.ident "cpu"),
    .parameter "DRIVER_VER" (.ident Platform.cpuDriver),
    .parameter "HW_INSTANCE" (.ident Platform.processor)]

/-- The library for network media. -/
def networkLibrary : Block where
  name := "LIBRARY"
  lines := [
    .parameter "LIBRARY_NAME" (.ident Platform.networkLibrary),
    .parameter "LIBRARY_VER" (.ident Platform.networkLibraryVersion),
    .parameter "PROC_INSTANCE" (.ident Platform.processor)]

/-- What every server needs. -/
def baseSupport : Descriptor where
  header := [.parameter "VERSION" (.ident Platform.supportVersion)]
  blocks := [
    operatingSystem,
    processor,
    driver "tmrctr" Platform.timerDriver Platform.timer,
    driver "v6_ddrx" Platform.memoryDriver Platform.memoryDevice,
    driver "bram" Platform.bramDriver Platform.dataController,
    driver "bram" Platform.bramDriver Platform.instructionController,
    driver "intc" Platform.interruptDriver Platform.interruptController,
    driver "uartlite" Platform.uartDriver Platform.debugModule,
    driver "uartlite" Platform.uartDriver Platform.stdioDevice]

end Boardwright.Firmware
