import Boardwright.Backend
import Boardwright.Firmware.Support
import Boardwright.Path

/-!
# The embedded server under construction
-/

namespace Boardwright.Firmware

open Source (Include Module Procedure)

def name : String := "sdk"

structure Options where
  /-- The root of the generated project. -/
  dir : String := "server"
  /-- Where the driver sources are. -/
  templates : String := "templates/server"
  deriving DecidableEq, Repr, Inhabited

namespace Options

/-- Options in which an empty directory stands for the usual one. -/
def ofDirs (dir templates : String) : Options :=
  let usual : Options := {}
  { dir := if dir = "" then usual.dir else dir
    templates := if templates = "" then usual.templates else templates }

/-- The directory of the sources. -/
def src (o : Options) : String := Path.join [o.dir, "src"]

def template (o : Options) (file : String) : String := Path.join [o.templates, file]

end Options

structure State where
  /-- The scheduling policy, once it is known. -/
  scheduler : Code := .missing
  constants : Module
  components : Module
  init : Procedure
  write : Procedure
  read : Procedure
  support : Descriptor := baseSupport
  deploy : Manifest := []
  produced : Result := { backend := name }
  deriving Repr, Inhabited

namespace State

def define (s : State) (name value doc : String) (needs : List Include) : State :=
  { s with constants := s.constants.addDefinition { doc := { lines := [doc] }, name, value, needs } }

end State

def fslHeader : Include := .quoted "fsl.h"
def constantsHeader : Include := .quoted "../constants.h"
def ioHeader : Include := .quoted "../io.h"
def gpioHeader : Include := .quoted "gpio.h"
def parametersHeader : Include := .quoted "xparameters.h"

end Boardwright.Firmware
