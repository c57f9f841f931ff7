import Boardwright.Proofs.Manifests
import Boardwright.Proofs.Publication
import Boardwright.Proofs.Schedules

/-!
# Writes that fail

A write that fails publishes nothing, as long as no path of the results leaves the staging
directory.

* Destinations.  A directory may be deployed to the root itself, and then a copy of the root could
  get into the staging directory.  No backend does so: `EndsInName` is for paths that end in a name,
  and every destination is made from one.
* Runs of the backends.  `deployments_named` is this for what a call of the walk adds to the manifest, and
  `Backend.IsKnown.deploy_named` is what follows for the result.
* Failing.  The results of a run are then fit for `Output.writeVia_error`.  A board with a single
  core shows why the paths have to stay: there a directory with `..` leaves files behind.
-/

namespace Boardwright

/-! ## Destinations -/

namespace Text

/-- A text that is put behind another one without a slash extends its last part. -/
theorem splitChars_extend {sep : Char} {cs ds : List Char} (h : sep ∉ ds) :
    ∃ front last, splitChars sep cs = front ++ [last] ∧
      splitChars sep (cs ++ ds) = front ++ [last ++ ds] := by
  induction cs with
  | nil => exact ⟨[], [], rfl, splitChars_of_not_mem h⟩
  | cons c cs ih =>
    obtain ⟨front, last, hcs, hall⟩ := ih
    rw [List.cons_append, splitChars, splitChars, hcs, hall]
    by_cases hc : c = sep
    · rw [if_pos hc, if_pos hc]
      exact ⟨[] :: front, last, rfl, rfl⟩
    · rw [if_neg hc, if_neg hc]
      cases front with
      | nil => exact ⟨[], c :: last, rfl, rfl⟩
      | cons first front => exact ⟨(c :: first) :: front, last, rfl, rfl⟩

theorem split_extend (a : String) {b : String} (h : '/' ∉ b.toList) :
    ∃ front last, split '/' (a ++ b) = front ++ [last ++ b] := by
  obtain ⟨front, last, -, hall⟩ : ∃ front last, splitChars '/' a.toList = front ++ [last] ∧ _ :=
    splitChars_extend h
  refine ⟨front.map String.ofList, String.ofList last, ?_⟩
  rw [split, String.toList_append, hall, List.map_append, List.map_singleton,
    String.ofList_append, String.ofList_toList]

end Text

namespace Path

/-- The last part of a path is a name. -/
def EndsInName (path : String) : Prop :=
  ∃ front name, Text.split '/' path = front ++ [name] ∧ IsName name

theorem EndsInName.components_ne_nil {path : String} (h : EndsInName path) :
    components path ≠ [] := by
  obtain ⟨front, name, hsplit, hname⟩ := h
  rw [components, hsplit, List.foldl_append]
  show (keep (isRooted path) _ name).reverse ≠ []
  rw [keep_name _ _ hname]
  simp

/-- A path that was joined to others still ends in its name. -/
theorem EndsInName.joined {path : String} (h : EndsInName path) (dirs : List String) :
    components (join (dirs ++ [path])) ≠ [] := by
  have hne : path ≠ "" := by
    obtain ⟨front, name, hsplit, hname⟩ := h
    rintro rfl
    have hlast := congrArg List.getLast? hsplit
    rw [List.getLast?_concat] at hlast
    exact hname.notEmpty (Option.some_inj.1 hlast).symm
  have hfilter : (dirs ++ [path]).filter (· != "") = dirs.filter (· != "") ++ [path] := by
    rw [List.filter_append]
    simp [hne]
  have hends : EndsInName (Text.join "/" (dirs.filter (· != "") ++ [path])) := by
    by_cases hdirs : dirs.filter (· != "") = []
    · rw [hdirs]
      exact h
    · obtain ⟨front, name, hsplit, hname⟩ := h
      rw [Text.join_append "/" hdirs (by simp)]
      refine ⟨Text.split '/' (Text.join "/" (dirs.filter (· != ""))) ++ front, name, ?_, hname⟩
      rw [Text.split_append]
      show _ ++ Text.split '/' path = _
      rw [hsplit, List.append_assoc]
  have hjoin : join (dirs ++ [path]) = clean (Text.join "/" (dirs.filter (· != "") ++ [path])) := by
    unfold join
    rw [hfilter]
    split
    · next hnil => simp at hnil
    · rfl
  rw [hjoin, components_clean]
  exact hends.components_ne_nil

end Path

/-- What is deployed has a name of its own below the root. -/
def Deployment.Named (d : Deployment) : Prop := Path.components d.dest ≠ []

/-- All deployments of a manifest are named. -/
def Manifest.Named (m : Manifest) : Prop := ∀ d ∈ m, d.Named

theorem Manifest.named_addAll {ds : List Deployment} (h : ∀ d ∈ ds, d.Named) :
    Manifest.Named (Manifest.addAll [] ds) :=
  fun d hd => h d (Manifest.mem_addAll.1 hd).mem

theorem endsInName_of_no_slash {name : String} (hslash : '/' ∉ name.toList)
    (hname : Path.IsName name) : Path.EndsInName name :=
  ⟨[], name, Text.split_of_not_mem hslash, hname⟩

theorem Platform.coreDir_endsInName (core : String) {version : String}
    (h : '/' ∉ (Text.replaceChar '.' '_' version).toList) :
    Path.EndsInName (Platform.coreDir core version) := by
  have hslash : '/' ∉ ("_v" ++ Text.replaceChar '.' '_' version).toList := by
    rw [String.toList_append]
    intro hmem
    rcases List.mem_append.1 hmem with hmem | hmem
    · exact absurd hmem (by decide)
    · exact h hmem
  obtain ⟨front, last, hsplit⟩ := Text.split_extend core hslash
  refine ⟨front, _, by rw [Platform.coreDir, String.append_assoc]; exact hsplit, ?_⟩
  have hne (part : String) (hpart : '_' ∉ part.toList) :
      last ++ ("_v" ++ Text.replaceChar '.' '_' version) ≠ part := by
    rintro rfl
    rw [String.toList_append, String.toList_append] at hpart
    exact hpart (List.mem_append_right _ (List.mem_append_left _ (by decide)))
  exact ⟨hne _ (by decide), hne _ (by decide), hne _ (by decide)⟩

/-! ## Runs of the backends -/

/-- What every call keeps holds at the end of a walk. -/
theorem Visitor.walk_state {σ : Type} {v : Visitor σ} {I : σ → Prop} (backend : String) (b : Board)
    (hstart : I v.start) (hvisit : ∀ c call s, I s → I (v.visit b c call s).state) :
    I (v.walk backend b).state := by
  have hfollow (steps : List Step) (p : Progress σ) (hp : I p.state) :
      I (v.follow backend b steps p).state := by
    induction steps generalizing p with
    | nil => exact hp
    | cons step steps ih =>
      have hstep : I (v.perform backend b p step).state := by
        obtain ⟨c, pos, action⟩ := step
        cases action with
        | report f =>
          rw [perform_report]
          exact hp
        | halt f =>
          rw [perform_halt]
          exact hp
        | call call =>
          rw [perform_call]
          exact hvisit c call p.state hp
      rw [follow]
      split
      · exact hstep
      · exact ih _ hstep
  exact hfollow _ _ hstart

namespace Firmware

theorem deployments_named (o : Options) (call : Call) : ∀ d ∈ deployments o call, d.Named := by
  have hnamed (dirs : List String) (file source : String) (hslash : '/' ∉ file.toList)
      (hfile : Path.IsName file) :
      Deployment.Named { source, dest := Path.join (dirs ++ [file]) } :=
    (endsInName_of_no_slash hslash hfile).joined dirs
  have hmedium (file : String) : (mediumSource o file).Named :=
    hnamed [o.src, "medium"] "medium.c" _ (by decide) ⟨by decide, by decide, by decide⟩
  have hdevice : ∀ d ∈ deviceSources o, d.Named := by
    have hdir := hnamed [Path.join [o.src, "components"]]
    exact List.forall_mem_cons.2 ⟨hdir "gpio.h" _ (by decide) ⟨by decide, by decide, by decide⟩,
      List.forall_mem_singleton.2 (hdir "gpio.c" _ (by decide) ⟨by decide, by decide, by decide⟩)⟩
  intro d hd
  cases call with
  | medium m =>
    cases m with
    | uart pos => exact List.mem_singleton.1 hd ▸ hmedium "uart.c"
    | ethernet options pos => exact List.mem_singleton.1 hd ▸ hmedium "ethernet.c"
    | ethernetLite options pos => exact List.mem_singleton.1 hd ▸ hmedium "ethernet.c"
    | _ => cases hd
  | input g id => exact hdevice d (List.mem_ite_nil_right.1 hd).2
  | output g id => exact hdevice d (List.mem_ite_nil_right.1 hd).2
  | _ => cases hd

end Firmware

namespace Hardware

theorem coreSource_named (o : Options) (core : String) {version : String}
    (hversion : '/' ∉ (Text.replaceChar '.' '_' version).toList) :
    (coreSource o core version).Named :=
  (Platform.coreDir_endsInName core hversion).joined [o.dir, "pcores"]

theorem deployments_named (o : Options) (call : Call) : ∀ d ∈ deployments o call, d.Named := by
  intro d hd
  cases call with
  | core core => exact List.mem_singleton.1 hd ▸ coreSource_named o core.name (by decide)
  | axis a =>
    obtain ⟨id, -, hd⟩ := List.mem_flatMap.1 hd
    rcases List.mem_append.1 hd with hd | hd
    · rw [List.mem_singleton.1 (List.mem_ite_nil_right.1 hd).2]
      exact coreSource_named o "queue" (by decide)
    · rw [List.mem_singleton.1 (List.mem_ite_nil_right.1 hd).2]
      exact coreSource_named o "resizer" (by decide)
  | _ => cases hd

end Hardware

namespace Host

/-- Nothing is ever deployed. -/
theorem visit_deploy {s : State} (b : Board) (c : Counters) (call : Call)
    (h : s.produced.deploy = []) : (visit b c call s).state.produced.deploy = [] := by
  cases call with
  | medium m =>
    show (addMedium m s).produced.deploy = []
    unfold addMedium
    split <;> exact h
  | enter site =>
    show (enter site s).state.produced.deploy = []
    unfold enter
    split <;> exact h
  | axis a =>
    show (addAxis a s).state.produced.deploy = []
    unfold addAxis
    split <;> exact h
  | leave site =>
    show (leave site s).state.produced.deploy = []
    unfold leave
    split
    · split <;> exact h
    · exact h
  | _ => exact h

end Host

/-- The backends that there are. -/
inductive Backend.IsKnown : Backend → Prop
  | host (o : Host.Options) : IsKnown (.host o)
  | firmware (o : Firmware.Options) : IsKnown (.firmware o)
  | hardware (o : Hardware.Options) : IsKnown (.hardware o)

theorem Backend.IsKnown.deploy_named {be : Backend} {b : Board} {r : Result} (h : be.IsKnown)
    (hrun : be.run b = .ok r) : r.deploy.Named := by
  -- Whatever the calls of a walk add, one by one.
  have hcalls (f : Call → List Deployment) (hf : ∀ call, ∀ d ∈ f call, d.Named) :
      Manifest.Named (Manifest.addAll [] (b.traversal.flatMap f)) := by
    refine Manifest.named_addAll fun d hd => ?_
    obtain ⟨call, -, hd⟩ := List.mem_flatMap.1 hd
    exact hf call d hd
  cases h with
  | host o =>
    obtain ⟨-, -, rfl⟩ := Backend.walk_of_run_ok hrun
    have hnone := Visitor.walk_state (I := fun s : Host.State => s.produced.deploy = []) Host.name b
      (v := Host.visitor o) rfl fun c call s hs => Host.visit_deploy b c call hs
    show ((Host.visitor o).walk Host.name b).state.produced.deploy.Named
    rw [hnone]
    exact fun d hd => absurd hd List.not_mem_nil
  | firmware o =>
    rw [Firmware.run_deploy hrun]
    exact hcalls _ (Firmware.deployments_named o)
  | hardware o =>
    rw [Hardware.run_deploy hrun]
    exact hcalls _ (Hardware.deployments_named o)

/-! ## Failing -/

/-- A write that fails publishes nothing: every file is as before, and no staging directory
remains.  This is for all results that the backends can have for a board, as long as their paths
do not leave the staging directory. -/
theorem failed_write_publishes_nothing (t t' : FileTree) (root : String) (b : Board)
    (backends : List Backend) (results : List Result) (f : Fault) (ht : t.WellFormed)
    (hknown : ∀ be ∈ backends, be.IsKnown) (hgenerate : generate b backends = .ok results)
    (hfiles : ∀ r ∈ results, ∀ f ∈ r.files,
      Output.StaysIn (Output.stagePath root (Output.stageNumber t root results)) f.path)
    (hdests : ∀ r ∈ results, ∀ d ∈ r.deploy,
      Output.StaysIn (Output.stagePath root (Output.stageNumber t root results)) d.dest)
    (h : (Output.write root results).run t = (.error f, t')) :
    (∀ loc, t'.content? loc = t.content? loc) ∧
      ∀ loc, t.place root ++ [Output.stageName (Output.stageNumber t root results)] <+: loc →
        t'.get? loc = none := by
  have hnew := Output.unmentioned_of_not_mem (Output.stageNumber_new t root results)
  have hconfined (r : Result) (hr : r ∈ results) : Output.Confined t
      (Output.stagePath root (Output.stageNumber t root results)) root r := by
    obtain ⟨be, hbe, hrun⟩ := run_of_generate hgenerate hr
    exact ⟨hfiles r hr, hdests r hr, fun d hd =>
      .inl ((hknown be hbe).deploy_named hrun d hd)⟩
  rw [Output.write_run] at h
  have hsame := Output.writeVia_error ht hnew hconfined h
  exact ⟨fun loc => (hsame loc).1, fun loc hstage => (hsame loc).2 (hstage.subset (by simp))⟩

/-- A board with one core. -/
def soleCoreBoard : Board := { cores := [{ name := "c" }] }

def soleCoreResults (dir : String) : List Result :=
  (generate soleCoreBoard [.hardware { dir }]).toOption.getD []

theorem generate_soleCore (dir : String)
    (h : (generate soleCoreBoard [.hardware { dir }]).isOk = true) :
    generate soleCoreBoard [.hardware { dir }] = .ok (soleCoreResults dir) := by
  unfold soleCoreResults
  cases hrun : generate soleCoreBoard [.hardware { dir }] with
  | error f =>
    rw [hrun] at h
    cases h
  | ok results => rfl

/-- Output of an earlier run. -/
def earlierOutput : FileTree where
  entries := [
    (["out"], .directory),
    (["out", "project"], .directory),
    (["out", "project", "system.mhs"], .file "earlier")]

/-- The template of the core is missing when two files have been written, and the earlier output is
still there afterwards. -/
theorem failed_write_publishes_nothing_missing_template :
    ∃ results f t', generate soleCoreBoard [.hardware { dir := "project" }] = .ok results ∧
      (Output.write "out" results).run earlierOutput = (.error f, t') ∧
      t'.content? ["out", "project", "system.mhs"] = some "earlier" ∧
      t'.content? ["out", "project", "data", "system.ucf"] = none := by
  have hgenerate := generate_soleCore "project" (by decide +kernel)
  obtain ⟨f, hwrite⟩ := Job.run_of_not_isOk (t := earlierOutput)
    (Output.write "out" (soleCoreResults "project")) (by decide +kernel)
  obtain ⟨hsame, -⟩ := failed_write_publishes_nothing earlierOutput _ "out" soleCoreBoard _ _ f
    (by decide +kernel) (by simpa using Backend.IsKnown.hardware _) hgenerate (by decide +kernel)
    (by decide +kernel) hwrite
  exact ⟨_, f, _, hgenerate, hwrite, hsame _, hsame _⟩

/-- A directory that climbs out of the staging directory: the same failure leaves files behind. -/
theorem failed_write_climbed :
    ∃ results f t', generate soleCoreBoard [.hardware { dir := "../x" }] = .ok results ∧
      (Output.write "out" results).run {} = (.error f, t') ∧
      ∃ content, t'.content? ["out", "x", "data", "system.ucf"] = some content := by
  obtain ⟨f, hwrite⟩ := Job.run_of_not_isOk (t := {})
    (Output.write "out" (soleCoreResults "../x")) (by decide +kernel)
  exact ⟨_, f, _, generate_soleCore "../x" (by decide +kernel), hwrite,
    Option.isSome_iff_exists.1 (by decide +kernel)⟩

end Boardwright
