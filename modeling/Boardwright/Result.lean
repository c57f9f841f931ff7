import Boardwright.Descriptor
import Boardwright.Source.Module

/-!
# Results

A backend produces source modules, descriptors, plain text files and a manifest of template files
to deploy.
-/

namespace Boardwright

/-- A template file or directory and where it goes. -/
structure Deployment where
  source : String
  dest : String
  deriving DecidableEq, Repr, Inhabited

/-- Deployments with pairwise different destinations. -/
abbrev Manifest := List Deployment

namespace Manifest

/-- Deploys `source` to `dest`.  A destination that is already there keeps its place and gets the
new source. -/
def add (m : Manifest) (source dest : String) : Manifest :=
  match m with
  | [] => [{ source, dest }]
  | d :: ds => if d.dest == dest then { source, dest } :: ds else d :: Manifest.add ds source dest

/-- Deploys several sources, one after the other. -/
def addAll (m : Manifest) (ds : List Deployment) : Manifest :=
  ds.foldl (fun m d => m.add d.source d.dest) m

end Manifest

structure DescriptorFile where
  name : String
  dir : String
  descriptor : Descriptor := {}
  deriving Repr, Inhabited

structure TextFile where
  name : String
  dir : String
  lines : List String := []
  deriving DecidableEq, Repr, Inhabited

structure Result where
  backend : String := ""
  modules : List Source.Module := []
  descriptors : List DescriptorFile := []
  texts : List TextFile := []
  deploy : Manifest := []
  deriving Repr, Inhabited

namespace Result

def findModule? (r : Result) (name : String) : Option Source.Module :=
  r.modules.find? (·.name == name)

def findDescriptor? (r : Result) (name : String) : Option DescriptorFile :=
  r.descriptors.find? (·.name == name)

end Result

end Boardwright
