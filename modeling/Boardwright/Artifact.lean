import Boardwright.Path
import Boardwright.Result
import Boardwright.Source.Encode
import Boardwright.Source.Outline

/-!
# Artifacts

What a result amounts to outside: files with their contents below an output root, and entries to
look at in the inspector.  Both list modules, descriptors, texts and deployments, in this order.
-/

namespace Boardwright

/-- A generated file below the output root. -/
structure OutputFile where
  path : String
  content : String
  deriving DecidableEq, Repr, Inhabited

/-- An entry of the inspector. -/
structure Artifact where
  backend : String
  path : String
  body : String
  deriving DecidableEq, Repr, Inhabited

/-- Modules are stored under their name with this ending. -/
def moduleSuffix : String := ".ir.json"

namespace Result

def modulePath (m : Source.Module) : String := Path.join [m.dir, m.name ++ moduleSuffix]

def descriptorPath (d : DescriptorFile) : String := Path.join [d.dir, d.name]

def textPath (t : TextFile) : String := Path.join [t.dir, t.name]

/-- The files that are generated, in the order in which they are written. -/
def files (r : Result) : List OutputFile :=
  r.modules.map (fun m => { path := modulePath m, content := m.toJson.pretty ++ "\n" }) ++
    r.descriptors.map (fun d => { path := descriptorPath d, content := d.descriptor.text }) ++
    r.texts.map fun t => { path := textPath t, content := String.join (t.lines.map (· ++ "\n")) }

/-- The paths of everything that is written, relative to the output root.  A deployed directory
appears as such. -/
def paths (r : Result) : List String :=
  r.modules.map modulePath ++ r.descriptors.map descriptorPath ++ r.texts.map textPath ++
    r.deploy.map fun d => Path.clean d.dest

/-- The entry that stands for all deployments. -/
def manifestArtifact (r : Result) : List Artifact :=
  if r.deploy.isEmpty then []
  else [{ backend := r.backend, path := "deploy manifest"
          body := String.join (r.deploy.map fun d => d.source ++ " -> " ++ d.dest ++ "\n") }]

/-- What the inspector shows of a result. -/
def artifacts (r : Result) : List Artifact :=
  r.modules.map (fun m => { backend := r.backend, path := modulePath m, body := m.outline }) ++
    r.descriptors.map (fun d =>
      { backend := r.backend, path := descriptorPath d, body := d.descriptor.text }) ++
    r.texts.map (fun t =>
      { backend := r.backend, path := textPath t, body := Text.join "\n" t.lines }) ++
    r.manifestArtifact

end Result

end Boardwright
