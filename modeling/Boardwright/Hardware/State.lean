import Boardwright.Backend
import Boardwright.Hardware.Base
import Boardwright.Path

/-!
# The hardware project under construction
-/

namespace Boardwright.Hardware

open Descriptor (Block Value)

def name : String := "xps"

structure Options where
  /-- The root of the generated project. -/
  dir : String := "project"
  /-- Where the sources of peripheral cores are. -/
  templates : String := "templates/project"
  deriving DecidableEq, Repr, Inhabited

/-- Options in which an empty directory stands for the usual one. -/
def Options.ofDirs (dir templates : String) : Options :=
  let usual : Options := {}
  { dir := if dir = "" then usual.dir else dir
    templates := if templates = "" then usual.templates else templates }

structure State where
  system : Descriptor := {}
  processor : Block := { name := "" }
  /-- Nets of interrupts. -/
  interrupts : List Value := []
  /-- Blocks of instances, by the name of the instance. -/
  instances : List (String × Block) := []
  constraints : List String := []
  deploy : Manifest := []
  produced : Result := { backend := name }
  deriving Repr, Inhabited

/-- Deploys the sources of a peripheral core. -/
def deployCore (o : Options) (core version : String) (s : State) : State :=
  let dir := Platform.coreDir core version
  { s with deploy :=
      s.deploy.add (Path.join [o.templates, "pcores", dir]) (Path.join [o.dir, "pcores", dir]) }

end Boardwright.Hardware
