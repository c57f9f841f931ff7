import Boardwright.Firmware
import Boardwright.Proofs.Affix
import Boardwright.Proofs.Run

/-!
# The streams of the server

What the server is built from, call by call, and what its procedures say about
streams in the end.

* `Frame` is what the calls leave alone that only define constants or deploy
  drivers.
* `Grows` is what calls add: lines to the initialisation and to the two stream
  procedures, and interrupt handlers.  `visit_grows` is the step and
  `lastState_grows` the whole run.
* `follows_grants` reads the cases and the queues off a successful run.
-/

namespace Boardwright.Firmware

open Source (Procedure Module)
open Text (begins linesFrom)

/-! ## Constants and drivers -/

/-- `s'` differs from `s` at most in the constants, the drivers and the choice
of a scheduler. -/
structure Frame (s s' : State) : Prop where
  constants : s'.constants.name = s.constants.name
  components : s'.components = s.components
  init : s'.init = s.init
  write : s'.write = s.write
  read : s'.read = s.read
  produced : s'.produced = s.produced

namespace Frame

variable {s s' s'' : State}

theorem refl (s : State) : Frame s s := ⟨rfl, rfl, rfl, rfl, rfl, rfl⟩

theorem trans (h : Frame s s') (h' : Frame s' s'') : Frame s s'' where
  constants := h'.constants.trans h.constants
  components := h'.components.trans h.components
  init := h'.init.trans h.init
  write := h'.write.trans h.write
  read := h'.read.trans h.read
  produced := h'.produced.trans h.produced

theorem define (s : State) (name value doc : String) (needs : List Source.Include) :
    Frame s (s.define name value doc needs) := ⟨rfl, rfl, rfl, rfl, rfl, rfl⟩

theorem deployMedium (o : Options) (file : String) (s : State) :
    Frame s (deployMedium o file s) := ⟨rfl, rfl, rfl, rfl, rfl, rfl⟩

theorem schedule (s : State) (code : Code) : Frame s { s with scheduler := code } :=
  ⟨rfl, rfl, rfl, rfl, rfl, rfl⟩

end Frame

theorem defineDefaults_frame (b : Board) (s : State) : Frame s (defineDefaults b s) := by
  unfold defineDefaults
  cases b.debug <;> exact ⟨rfl, rfl, rfl, rfl, rfl, rfl⟩

theorem defineParts_frame (name what mark : String) (parts : List String) (s : State) :
    Frame s (defineParts name what mark parts s) := by
  unfold defineParts
  generalize (parts.zip ordinals).zipIdx = numbered
  induction numbered generalizing s with
  | nil => exact .refl s
  | cons part numbered ih => exact (Frame.define s ..).trans (ih _)

theorem defineMac_frame (address : String) (s : State) : Frame s (defineMac address s).1 := by
  simp only [defineMac]
  split
  · exact defineParts_frame ..
  · exact .refl s

theorem defineIp_frame (name key what address : String) (s : State) :
    Frame s (defineIp name key what address s).1 := by
  simp only [defineIp]
  split
  · exact defineParts_frame ..
  · exact .refl s

theorem defineOption_frame (s : State) (option : MediumOption) :
    Frame s (defineOption s option).1 := by
  cases option with
  | mac address => exact defineMac_frame address s
  | ip address => exact defineIp_frame ..
  | mask address => exact defineIp_frame ..
  | gateway address => exact defineIp_frame ..
  | port number => exact .define s ..

theorem defineOptions_frame (s : State) (options : List MediumOption) :
    Frame s (defineOptions s options).1 := by
  induction options generalizing s with
  | nil => exact .refl s
  | cons option options ih => exact (defineOption_frame s option).trans (ih _)

theorem addEthernet_frame (o : Options) (options : List MediumOption) (pos : Pos) (s : State) :
    Frame s (addEthernet o options pos s).state := by
  have hoptions := defineOptions_frame (deployMedium o "ethernet.c" s) options
  have h := (Frame.deployMedium o "ethernet.c" s).trans hoptions
  exact ⟨h.constants, h.components, h.init, h.write, h.read, h.produced⟩

theorem addMedium_frame (o : Options) (m : Medium) (s : State) :
    Frame s (addMedium o m s).state := by
  cases m with
  | none => exact .refl s
  | uart pos => exact .deployMedium o "uart.c" s
  | ethernet options pos => exact addEthernet_frame o options pos s
  | ethernetLite options pos => exact addEthernet_frame o options pos s
  | pcie pos => exact .refl s

/-! ## What a call adds -/

/-- The interrupt handlers that a call adds. -/
def handlers : Call → List Procedure
  | .input g _ => match Catalog.find? g.name with
    | some d => if d.hasInterrupt then [handler g] else []
    | none => []
  | _ => []

/-- The lines that the streams of a CPU binding add to the initialisation. -/
def streamInit (set : PortSettings) (streams : Streams) : List String :=
  streams.master.toList.map (queueLine · set) ++ streams.slave.toList.flatMap (outletLines · set)

/-- The lines that a call adds to the initialisation. -/
def initLines : Call → List String
  | .input g _ => match Catalog.find? g.name with
    | some d => if d.hasInterrupt then inputInit g d else []
    | none => []
  | .output g _ => match Catalog.find? g.name with
    | some d => outputInit g d
    | none => []
  | .axis a => streamInit a.settings a.streams
  | _ => []

/-- The cases that a call adds to writing. -/
def writeCases : Call → List String := Call.streamLog fun _ s => s.master.toList.map writeCase

/-- The cases that a call adds to reading. -/
def readCases : Call → List String := Call.streamLog fun _ s => s.slave.toList.map readCase

/-- What the server gets by some calls. -/
structure Grows (calls : List Call) (s s' : State) : Prop where
  constants : s'.constants.name = s.constants.name
  components : s'.components.name = s.components.name
  procedures : s'.components.procedures = s.components.procedures ++ calls.flatMap handlers
  init : s'.init.name = s.init.name
  initLines : s'.init.body.lines = s.init.body.lines ++ calls.flatMap initLines
  write : s'.write.name = s.write.name
  writeLines : s'.write.body.lines = s.write.body.lines ++ calls.flatMap writeCases
  read : s'.read.name = s.read.name
  readLines : s'.read.body.lines = s.read.body.lines ++ calls.flatMap readCases
  produced : s'.produced = s.produced

theorem Grows.refl (s : State) : Grows [] s s :=
  ⟨rfl, rfl, by simp, rfl, by simp, rfl, by simp, rfl, by simp, rfl⟩

theorem Grows.trans {calls calls' : List Call} {s s' s'' : State} (h : Grows calls s s')
    (h' : Grows calls' s' s'') : Grows (calls ++ calls') s s'' where
  constants := h'.constants.trans h.constants
  components := h'.components.trans h.components
  procedures := by
    rw [h'.procedures, h.procedures, List.flatMap_append, List.append_assoc]
  init := h'.init.trans h.init
  initLines := by
    rw [h'.initLines, h.initLines, List.flatMap_append, List.append_assoc]
  write := h'.write.trans h.write
  writeLines := by
    rw [h'.writeLines, h.writeLines, List.flatMap_append, List.append_assoc]
  read := h'.read.trans h.read
  readLines := by
    rw [h'.readLines, h.readLines, List.flatMap_append, List.append_assoc]
  produced := h'.produced.trans h.produced

@[simp] theorem ofLines_lines (lines : List String) : (Source.Code.ofLines lines).lines = lines :=
  rfl

@[simp] theorem addCode_lines (p : Procedure) (code : Source.Code) :
    (p.addCode code).body.lines = p.body.lines ++ code.lines := rfl

@[simp] theorem addLines_lines (p : Procedure) (lines : List String) :
    (p.addLines lines).body.lines = p.body.lines ++ lines := rfl

@[simp] theorem needs_lines (c : Source.Code) (includes : List Source.Include) :
    (c.needs includes).lines = c.lines := rfl

/-- A call within a frame adds nothing. -/
theorem Frame.grows {s s' : State} (h : Frame s s') {call : Call} (hh : handlers call = [])
    (hi : Firmware.initLines call = []) (hw : writeCases call = []) (hr : readCases call = []) :
    Grows [call] s s' := by
  obtain ⟨hc, hcomponents, hinit, hwrite, hread, hproduced⟩ := h
  constructor
  all_goals simp only [hc, hcomponents, hinit, hwrite, hread, hproduced, hh, hi, hw, hr,
    List.flatMap_cons, List.flatMap_nil, List.append_nil]

theorem addInput_grows (o : Options) (g : Gpio) (id : UInt8) (s : State) :
    Grows [.input g id] s (addInput o g id s).state := by
  unfold addInput
  cases hd : Catalog.find? g.name with
  | none =>
    refine (Frame.refl s).grows ?_ ?_ rfl rfl
    · simp only [handlers, hd]
    · simp only [initLines, hd]
  | some d =>
    cases hinterrupt : d.hasInterrupt with
    | false =>
      simp only [hinterrupt, Bool.false_eq_true, if_false]
      refine (Frame.refl s).grows ?_ ?_ rfl rfl
      · simp [handlers, hd, hinterrupt]
      · simp [initLines, hd, hinterrupt]
    | true =>
      simp only [hinterrupt, if_true]
      constructor
      case procedures =>
        simp only [List.flatMap_cons, handlers, hd, hinterrupt, if_true]
        rfl
      case initLines =>
        simp [initLines, hd, hinterrupt, addDriver, addInit, addNumber]
      case writeLines => exact (List.append_nil _).symm
      case readLines => exact (List.append_nil _).symm
      all_goals rfl

theorem addOutput_grows (o : Options) (g : Gpio) (id : UInt8) (s : State) :
    Grows [.output g id] s (addOutput o g id s).state := by
  unfold addOutput
  cases hd : Catalog.find? g.name with
  | none =>
    refine (Frame.refl s).grows rfl ?_ rfl rfl
    simp only [initLines, hd]
  | some d =>
    constructor
    case procedures => exact (List.append_nil _).symm
    case initLines =>
      simp [initLines, hd, addDriver, addInit, addNumber]
    case writeLines => exact (List.append_nil _).symm
    case readLines => exact (List.append_nil _).symm
    all_goals rfl

theorem addAxis_grows (a : Axis) (s : State) : Grows [.axis a] s (addAxis a s) := by
  unfold addAxis
  rcases hm : a.streams.master with _ | master
  all_goals
    rcases hs : a.streams.slave with _ | slave
    all_goals
      constructor
      case procedures => exact (List.append_nil _).symm
      case initLines => simp [initLines, streamInit, hm, hs, addMaster, addSlave]
      case writeLines => simp [writeCases, Call.streamLog, hm, addMaster, addSlave]
      case readLines => simp [readCases, Call.streamLog, hs, addMaster, addSlave]
      all_goals rfl

/-- Every call but the last adds what it is said to add. -/
theorem visit_grows (o : Options) (b : Board) (c : Counters) {call : Call} (hcall : call ≠ .finish)
    (s : State) : Grows [call] s (visit o b c call s).state := by
  cases call with
  | start => exact (defineDefaults_frame b s).grows rfl rfl rfl rfl
  | medium m => exact (addMedium_frame o m s).grows rfl rfl rfl rfl
  | input g id => exact addInput_grows o g id s
  | output g id => exact addOutput_grows o g id s
  | bidirectional g inputId outputId => exact (Frame.refl s).grows rfl rfl rfl rfl
  | defaultScheduler scheduler => exact (Frame.schedule s scheduler.code).grows rfl rfl rfl rfl
  | userScheduler scheduler lines => exact (Frame.schedule s scheduler.code).grows rfl rfl rfl rfl
  | core core => exact (Frame.refl s).grows rfl rfl rfl rfl
  | enter site => exact (Frame.refl s).grows rfl rfl rfl rfl
  | axis a => exact addAxis_grows a s
  | link l => exact (Frame.refl s).grows rfl rfl rfl rfl
  | leave site => exact (Frame.refl s).grows rfl rfl rfl rfl
  | finish => exact absurd rfl hcall

theorem visitor_countsLast (o : Options) : (visitor o).CountsLast := by
  intro b c call s hcall
  cases call with
  | finish => exact absurd rfl hcall
  | _ => rfl

/-- The server before the last call. -/
theorem lastState_grows (o : Options) (b : Board) :
    Grows (.start :: b.inside) (start o) ((Backend.firmware o).lastState b) := by
  rw [← List.flatMap_singleton' (.start :: b.inside)]
  exact Visitor.advance_grows Grows.refl Grows.trans
    (fun call hcall s => visit_grows o b {} (b.ne_finish call hcall) s) (start o)

/-! ## The finished server -/

/-- A server that is not given up got a scheduler.  Its result is what was
completed, together with that. -/
theorem finish_ok {o : Options} {c : Counters} {s : State} (h : (finish o c s).stop = none) :
    ∃ scheduler, Server.Schedule.module o.src s.scheduler (c.count .streamMaster)
        (c.count .streamSlave) = .ok scheduler ∧
      (finish o c s).state.produced = { s.produced with
        modules := s.produced.modules ++
          [(complete c s).constants, (complete c s).components, scheduler]
        descriptors := s.produced.descriptors ++
          [{ name := "system.mss", dir := o.dir, descriptor := s.support }]
        deploy := s.deploy } := by
  unfold finish at h ⊢
  cases hm : Server.Schedule.module o.src (complete c s).scheduler (c.count .streamMaster)
      (c.count .streamSlave) with
  | error f => simp [hm] at h
  | ok scheduler =>
    refine ⟨scheduler, hm, ?_⟩
    simp only [hm]
    rfl

/-- The components are found by their name. -/
theorem finish_components {o : Options} {c : Counters} {s : State}
    (hs : s.produced = { backend := name }) (hname : s.constants.name = "constants")
    (hcomponents : s.components.name = "components") (h : (finish o c s).stop = none) :
    (finish o c s).state.produced.findModule? "components" = some (complete c s).components := by
  have hconstants : (complete c s).constants.name = "constants" := hname
  have hmodule : (complete c s).components.name = "components" := hcomponents
  obtain ⟨scheduler, -, hproduced⟩ := finish_ok h
  simp [hproduced, Result.findModule?, hs, hconstants, hmodule]

theorem complete_procedures (c : Counters) (s : State) :
    (complete c s).components.procedures = s.components.procedures ++
      [s.init, resetProcedure, s.write.addLines writeTail, s.read.addLines readTail] := by
  simp [complete, Module.addProcedure, defineCounts, State.define]

/-- An interrupt handler is named after its device. -/
theorem handlers_named {call : Call} {p : Procedure} (hp : p ∈ handlers call) :
    ∃ device, p.name = "GpioHandler_" ++ device := by
  cases call with
  | input g id =>
    simp only [handlers] at hp
    split at hp
    · split at hp
      · rw [List.mem_singleton.1 hp]
        exact ⟨g.name, rfl⟩
      · cases hp
    · cases hp
  | _ => cases hp

/-- A name that is not of an interrupt handler is looked for behind the handlers. -/
theorem find_behind_handlers {wanted : String}
    (hwanted : wanted.toList.take "GpioHandler_".toList.length ≠
      "GpioHandler_".toList.take wanted.toList.length) (calls : List Call) (rest : List Procedure) :
    (calls.flatMap handlers ++ rest).find? (·.name == wanted) = rest.find? (·.name == wanted) := by
  rw [List.find?_append, List.find?_eq_none.2, Option.none_or]
  intro p hp heq
  obtain ⟨call, -, hp⟩ := List.mem_flatMap.1 hp
  obtain ⟨device, hdevice⟩ := handlers_named hp
  rw [beq_iff_eq, hdevice] at heq
  exact Text.append_ne hwanted device heq

/-- The procedures about streams are found by their names. -/
theorem complete_finds {o : Options} {b : Board} {s : State}
    (hgrows : Grows (.start :: b.inside) (start o) s) (c : Counters) :
    (complete c s).components.findProcedure? "init_components" = some s.init ∧
      (complete c s).components.findProcedure? "axi_write" = some (s.write.addLines writeTail) ∧
      (complete c s).components.findProcedure? "axi_read" = some (s.read.addLines readTail) := by
  have hprocedures : (complete c s).components.procedures = b.inside.flatMap handlers ++
      [s.init, resetProcedure, s.write.addLines writeTail, s.read.addLines readTail] := by
    rw [complete_procedures, hgrows.procedures]
    rfl
  have hinit : s.init.name = "init_components" := hgrows.init
  have hwrite : s.write.name = "axi_write" := hgrows.write
  have hread : s.read.name = "axi_read" := hgrows.read
  refine ⟨?_, ?_, ?_⟩
  · rw [Module.findProcedure?, hprocedures, find_behind_handlers (by decide)]
    simp [hinit]
  · rw [Module.findProcedure?, hprocedures, find_behind_handlers (by decide)]
    simp [hinit, hwrite, resetProcedure, Procedure.addLines, Procedure.addCode]
  · rw [Module.findProcedure?, hprocedures, find_behind_handlers (by decide)]
    simp [hinit, hwrite, hread, resetProcedure, Procedure.addLines, Procedure.addCode]

/-! ## Lines about streams -/

/-- How the lines begin that set up a host-read stream. -/
def outletStarts : List String := ["outQueueCap[", "isPolling[", "pollCount["]

/-- How the lines begin that set up a stream. -/
def streamStarts : List String := "inQueue[" :: outletStarts

/-- How the lines begin that set up a device. -/
def deviceStarts : List String := [
  "// initialise ", "status = XGpio_Initialize(", "status = GpioIntrSetup(",
  "XGpio_SetDataDirection(", "if(status != XST_SUCCESS) \x7b", "    loopy_print(\"ERROR ",
  "    return;", "\x7d"]

/-- A line that sets up a device, or an empty one. -/
def DeviceLine (line : String) : Prop :=
  line = "" ∨ ∃ start ∈ deviceStarts, ∃ rest, line = start ++ rest

theorem statusCheck_lines (action device : String) :
    ∀ line ∈ statusCheck action device, DeviceLine line := by
  intro line hline
  right
  simp only [statusCheck, List.mem_cons, List.not_mem_nil, or_false, String.append_assoc] at hline
  rcases hline with rfl | rfl | rfl | rfl
  · exact ⟨"if(status != XST_SUCCESS) \x7b", by decide, "", rfl⟩
  · exact ⟨"    loopy_print(\"ERROR ", by decide, _, rfl⟩
  · exact ⟨"    return;", by decide, "", rfl⟩
  · exact ⟨"\x7d", by decide, "", rfl⟩

theorem inputInit_lines (g : Gpio) (d : Device) : ∀ line ∈ inputInit g d, DeviceLine line := by
  intro line hline
  simp only [inputInit, List.mem_append, List.mem_cons, List.not_mem_nil, or_false,
    String.append_assoc] at hline
  rcases hline with (((rfl | rfl | rfl) | hcheck) | (rfl | rfl)) | hcheck
  · exact .inl rfl
  · exact .inr ⟨"// initialise ", by decide, _, rfl⟩
  · exact .inr ⟨"status = XGpio_Initialize(", by decide, _, rfl⟩
  · exact statusCheck_lines _ _ line hcheck
  · exact .inr ⟨"XGpio_SetDataDirection(", by decide, _, rfl⟩
  · exact .inr ⟨"status = GpioIntrSetup(", by decide, _, rfl⟩
  · exact statusCheck_lines _ _ line hcheck

theorem outputInit_lines (g : Gpio) (d : Device) : ∀ line ∈ outputInit g d, DeviceLine line := by
  intro line hline
  simp only [outputInit, List.mem_append, List.mem_cons, List.not_mem_nil, or_false,
    String.append_assoc] at hline
  rcases hline with ((rfl | rfl | rfl) | hcheck) | rfl
  · exact .inl rfl
  · exact .inr ⟨"// initialise ", by decide, _, rfl⟩
  · exact .inr ⟨"status = XGpio_Initialize(", by decide, _, rfl⟩
  · exact statusCheck_lines _ _ line hcheck
  · exact .inr ⟨"XGpio_SetDataDirection(", by decide, _, rfl⟩

/-- No line for a device reads as one for a stream. -/
theorem linesFrom_device {starts lines : List String} (hstarts : starts ⊆ streamStarts)
    (hlines : ∀ line ∈ lines, DeviceLine line) : linesFrom starts lines = [] := by
  have hempty : ∀ start ∈ streamStarts, begins start "" = false := by decide
  have hdiffer : ∀ start ∈ streamStarts, ∀ head ∈ deviceStarts,
      start.toList.take head.toList.length ≠ head.toList.take start.toList.length := by
    decide +kernel
  apply Text.linesFrom_eq_nil
  intro line hline
  rw [List.any_eq_false]
  intro start hstart
  rw [Bool.not_eq_true]
  rcases hlines line hline with rfl | ⟨head, hhead, rest, rfl⟩
  · exact hempty start (hstarts hstart)
  · exact Text.not_begins_append (hdiffer start (hstarts hstart) head hhead) rest

/-- The lines about streams that a call adds, for some of the ways in which they
begin. -/
theorem linesFrom_initLines {starts : List String} (hstarts : starts ⊆ streamStarts) (call : Call) :
    linesFrom starts (initLines call) =
      Call.streamLog (fun set s => linesFrom starts (streamInit set s)) call := by
  cases call with
  | input g id =>
    simp only [initLines]
    split
    · split
      · exact linesFrom_device hstarts (inputInit_lines g _)
      · rfl
    · rfl
  | output g id =>
    simp only [initLines]
    split
    · exact linesFrom_device hstarts (outputInit_lines g _)
    · rfl
  | _ => rfl

theorem queueLine_start (id : UInt8) (set : PortSettings) :
    ∃ rest, queueLine id set = "inQueue[" ++ rest := by
  simp only [queueLine, String.append_assoc]
  exact ⟨_, rfl⟩

theorem outletLines_start (id : UInt8) (set : PortSettings) :
    ∀ line ∈ outletLines id set, ∃ start ∈ outletStarts, ∃ rest, line = start ++ rest := by
  intro line hline
  simp only [outletLines, List.mem_cons, List.not_mem_nil, or_false, String.append_assoc] at hline
  rcases hline with rfl | rfl | rfl
  · exact ⟨"outQueueCap[", by decide, _, rfl⟩
  · exact ⟨"isPolling[", by decide, _, rfl⟩
  · exact ⟨"pollCount[", by decide, _, rfl⟩

theorem linesFrom_queues (set : PortSettings) (s : Streams) :
    linesFrom ["inQueue["] (streamInit set s) = s.master.toList.map (queueLine · set) := by
  unfold streamInit
  rw [Text.linesFrom_append, Text.linesFrom_eq_self, Text.linesFrom_eq_nil, List.append_nil]
  · intro line hline
    obtain ⟨id, -, hline⟩ := List.mem_flatMap.1 hline
    obtain ⟨start, hstart, rest, rfl⟩ := outletLines_start id set line hline
    have hdiffer : ∀ start ∈ outletStarts, "inQueue[".toList.take start.toList.length ≠
        start.toList.take "inQueue[".toList.length := by decide
    simp [Text.not_begins_append (hdiffer start hstart)]
  · intro line hline
    obtain ⟨id, -, rfl⟩ := List.mem_map.1 hline
    obtain ⟨rest, hrest⟩ := queueLine_start id set
    simp [hrest]

theorem linesFrom_outlets (set : PortSettings) (s : Streams) :
    linesFrom outletStarts (streamInit set s) =
      s.slave.toList.flatMap (outletLines · set) := by
  unfold streamInit
  rw [Text.linesFrom_append, Text.linesFrom_eq_nil, Text.linesFrom_eq_self, List.nil_append]
  · intro line hline
    obtain ⟨id, -, hline⟩ := List.mem_flatMap.1 hline
    obtain ⟨start, hstart, rest, rfl⟩ := outletLines_start id set line hline
    exact List.any_eq_true.2 ⟨start, hstart, Text.begins_self_append start rest⟩
  · intro line hline
    obtain ⟨id, -, rfl⟩ := List.mem_map.1 hline
    obtain ⟨rest, hrest⟩ := queueLine_start id set
    have hdiffer : ∀ start ∈ outletStarts, start.toList.take "inQueue[".toList.length ≠
        "inQueue[".toList.take start.toList.length := by decide
    rw [hrest, List.any_eq_false]
    intro start hstart
    rw [Bool.not_eq_true]
    exact Text.not_begins_append (hdiffer start hstart) rest

/-- A number in two places, with a blank in front of a single digit. -/
def twoPlaces (n : Nat) : String := (if n < 10 then " " else "") ++ toString n

theorem padLeft_two (n : Nat) : Text.padLeft 2 (toString n) = twoPlaces n := by
  have hlength : (toString n).length = (Nat.toDigits 10 n).length := by
    rw [← String.length_toList]
    exact congrArg List.length Nat.toList_repr
  have hone : (toString n).length ≤ 1 ↔ n < 10 := by
    rw [hlength]
    exact Nat.length_toDigits_le_iff (by decide) (by decide)
  have hpos : 0 < (toString n).length := by
    rw [hlength]
    exact Nat.length_toDigits_pos
  unfold Text.padLeft twoPlaces
  by_cases hn : n < 10
  · rw [if_pos hn, show 2 - (toString n).length = 1 by omega]
    rfl
  · rw [if_neg hn, show 2 - (toString n).length = 0 by omega]
    rfl

theorem writeCase_eq (id : UInt8) : writeCase id =
    "case " ++ twoPlaces id.toNat ++ ": putfslx(val, " ++ twoPlaces id.toNat ++
      ", FSL_NONBLOCKING); break;" := by
  rw [← padLeft_two]
  rfl

theorem readCase_eq (id : UInt8) : readCase id =
    "case " ++ twoPlaces id.toNat ++ ": getfslx(*val, " ++ twoPlaces id.toNat ++
      ", FSL_NONBLOCKING); break;" := by
  rw [← padLeft_two]
  rfl

theorem writeCase_start (id : UInt8) : ∃ rest, writeCase id = "case " ++ rest := by
  simp only [writeCase, String.append_assoc]
  exact ⟨_, rfl⟩

theorem readCase_start (id : UInt8) : ∃ rest, readCase id = "case " ++ rest := by
  simp only [readCase, String.append_assoc]
  exact ⟨_, rfl⟩

/-- The cases of a stream procedure, between the lines that it has anyway. -/
theorem linesFrom_cases {head last : List String} (hhead : linesFrom ["case "] head = [])
    (hlast : linesFrom ["case "] last = []) {f : UInt8 → String}
    (hf : ∀ id, ∃ rest, f id = "case " ++ rest) {side : Streams → Option UInt8}
    (hside : side {} = none) (b : Board) :
    linesFrom ["case "] (head ++
        b.inside.flatMap (Call.streamLog fun _ s => (side s).toList.map f) ++ last) =
      (streamsOn side b.grants.flatten).map fun (_, id) => f id := by
  rw [Text.linesFrom_append, Text.linesFrom_append, hhead, hlast, List.append_nil, List.nil_append,
    b.flatMap_streamLog fun _ => by rw [hside]; rfl]
  simp only [map_streamsOn side fun _ id => f id]
  apply Text.linesFrom_eq_self
  intro line hline
  obtain ⟨⟨binding, id⟩, -, rfl⟩ := List.mem_map.1 hline
  obtain ⟨rest, hrest⟩ := hf id
  simp [hrest]

/-- The lines about streams in the initialisation. -/
theorem linesFrom_init {starts : List String} (hstarts : starts ⊆ streamStarts) (b : Board) :
    linesFrom starts (initProcedure.body.lines ++ b.inside.flatMap initLines) =
      b.grants.flatten.flatMap fun (binding, s) =>
        linesFrom starts (streamInit (b.settings binding) s) := by
  have hhead : linesFrom starts initProcedure.body.lines = [] := by
    apply Text.linesFrom_eq_nil
    have hnone : ∀ start ∈ streamStarts, begins start "int status;" = false := by decide
    intro line hline
    rw [List.mem_singleton.1 hline, List.any_eq_false]
    intro start hstart
    rw [hnone start (hstarts hstart)]
    exact Bool.false_ne_true
  rw [Text.linesFrom_append, hhead, List.nil_append, Text.linesFrom_flatMap]
  simp only [linesFrom_initLines hstarts]
  exact b.flatMap_streamLog fun _ => rfl

/-- The server treats the streams as assigned: its stream procedures have one
case for each, and its initialisation sets up each with the settings of its
binding. -/
def Follows (b : Board) (grants : List (List Grant)) (server : Result) : Prop :=
  ∃ m init write read, server.findModule? "components" = some m ∧
    m.findProcedure? "init_components" = some init ∧
    m.findProcedure? "axi_write" = some write ∧
    m.findProcedure? "axi_read" = some read ∧
    linesFrom ["case "] write.body.lines =
      (streamsOn Streams.master grants.flatten).map (fun (_, id) =>
        "case " ++ twoPlaces id.toNat ++ ": putfslx(val, " ++ twoPlaces id.toNat ++
          ", FSL_NONBLOCKING); break;") ∧
    linesFrom ["case "] read.body.lines =
      (streamsOn Streams.slave grants.flatten).map (fun (_, id) =>
        "case " ++ twoPlaces id.toNat ++ ": getfslx(*val, " ++ twoPlaces id.toNat ++
          ", FSL_NONBLOCKING); break;") ∧
    linesFrom ["inQueue["] init.body.lines =
      (streamsOn Streams.master grants.flatten).map (fun (binding, id) =>
        "inQueue[" ++ toString id.toNat ++ "] = createQueue(" ++
          toString (b.settings binding).swQueueWords.toInt ++ ");") ∧
    linesFrom ["outQueueCap[", "isPolling[", "pollCount["] init.body.lines =
      (streamsOn Streams.slave grants.flatten).flatMap (fun (binding, id) => [
        "outQueueCap[" ++ toString id.toNat ++ "] = " ++
          toString (b.settings binding).swQueueWords.toInt ++ ";",
        "isPolling[" ++ toString id.toNat ++ "] = " ++
          (if (b.settings binding).polling then "1" else "0") ++ ";",
        "pollCount[" ++ toString id.toNat ++ "] = " ++
          toString (b.settings binding).pollWords.toInt ++ ";"])

theorem finish_follows {o : Options} {b : Board} {c : Counters} {s : State}
    (hgrows : Grows (.start :: b.inside) (start o) s) (hstop : (finish o c s).stop = none) :
    Follows b b.grants (finish o c s).state.produced := by
  have hfind := finish_components hgrows.produced hgrows.constants hgrows.components hstop
  obtain ⟨hinit, hwrite, hread⟩ := complete_finds hgrows c
  have hwriteHead : linesFrom ["case "] writeProcedure.body.lines = [] := by decide +kernel
  have hreadHead : linesFrom ["case "] readProcedure.body.lines = [] := by decide +kernel
  refine ⟨_, s.init, s.write.addLines writeTail, s.read.addLines readTail, hfind, hinit, hwrite,
    hread, ?_, ?_, ?_, ?_⟩
  · rw [addLines_lines, hgrows.writeLines]
    refine (linesFrom_cases hwriteHead (by decide +kernel) writeCase_start rfl b).trans ?_
    simp only [writeCase_eq]
  · rw [addLines_lines, hgrows.readLines]
    refine (linesFrom_cases hreadHead (by decide +kernel) readCase_start rfl b).trans ?_
    simp only [readCase_eq]
  · rw [hgrows.initLines]
    refine (linesFrom_init (by decide) b).trans ?_
    simp only [linesFrom_queues]
    exact map_streamsOn Streams.master (fun binding id => queueLine id (b.settings binding)) _
  · rw [hgrows.initLines]
    refine (linesFrom_init (List.subset_cons_self ..) b).trans ?_
    simp only [linesFrom_outlets]
    exact flatMap_streamsOn Streams.slave (fun binding id => outletLines id (b.settings binding)) _

theorem follows_grants {o : Options} {b : Board} {r : Result}
    (h : (Backend.firmware o).run b = .ok r) : Follows b b.grants r := by
  obtain ⟨-, -, hstop, rfl⟩ := Backend.run_ok (visitor_countsLast o) h
  exact finish_follows (lastState_grows o b) hstop

end Boardwright.Firmware
