import Boardwright.Proofs.FirmwareStreams

/-!
# The constants and the scheduler of the server

The server is configured in three places: by the board at the start, by the
addresses of its medium, and by the numbers that are known only in the end.
This file lists the constants of each, as `defaultConstants`, `mediumConstants`
and `countConstants`.  What the medium defines is one equation about the state
(`defineOptions_eq`), so that everything else about the state is kept by
definition.

`visit_configures` says what a call does to the constants and to the choice of
the scheduler, `lastState_configures` what all of them do, and `run_modules`
reads the modules off a successful run.
-/

namespace Boardwright.Firmware

open Source (Definition Module)

/-! ## Constants in a row -/

/-- A server with further constants. -/
def State.defineAll (s : State) (ds : List Definition) : State :=
  { s with constants := { s.constants with definitions := s.constants.definitions ++ ds } }

namespace State

@[simp] theorem defineAll_nil (s : State) : s.defineAll [] = s := by
  simp [defineAll]

@[simp] theorem defineAll_defineAll (s : State) (ds ds' : List Definition) :
    (s.defineAll ds).defineAll ds' = s.defineAll (ds ++ ds') := by
  simp [defineAll]

theorem define_eq (s : State) (name value doc : String) (needs : List Source.Include) :
    s.define name value doc needs =
      s.defineAll [{ doc := { lines := [doc] }, name, value, needs }] := rfl

theorem foldl_defineAll {α : Type} (f : α → Definition) (as : List α) (s : State) :
    as.foldl (fun s a => s.defineAll [f a]) s = s.defineAll (as.map f) := by
  induction as generalizing s with
  | nil => simp
  | cons a as ih => rw [List.foldl_cons, ih, defineAll_defineAll, List.map_cons,
      List.singleton_append]

end State

/-! ## What is defined -/

/-- The constants that every server has. -/
def defaultConstants (b : Board) : List Definition := [
  { doc := { lines := ["Indicates, if additional messages should be logged on the console."] }
    name := "DEBUG"
    value := if b.debug then "1" else "0" },
  { doc := { lines := [
      if b.debug then "With the chosen debug level, debug output will be sent over the JTAG cable."
      else "With disabled debugging, calls to the print method are simply removed."] }
    name := "loopy_print(...)"
    value := if b.debug then "xil_printf(__VA_ARGS__)" else ""
    needs := if b.debug then [.bracket "stdio.h"] else [] },
  { doc := { lines := ["Maximal size of out-going software queues."] }
    name := "MAX_OUT_SW_QUEUE_SIZE"
    value := toString b.maxSwQueue.toInt },
  { doc := { lines := ["Denotes protocol version, that should be used for sending messages."] }
    name := "PROTO_VERSION"
    value := Platform.protocolVersion }]

theorem defineDefaults_eq (b : Board) (s : State) :
    defineDefaults b s = s.defineAll (defaultConstants b) := by
  unfold defineDefaults defaultConstants
  cases b.debug
  all_goals simp only [Bool.false_eq_true, if_false, if_true, State.define_eq,
    State.defineAll_defineAll, List.cons_append, List.nil_append]

/-- One constant for each part of an address. -/
def partConstants (name what mark : String) (parts : List String) : List Definition :=
  (parts.zip ordinals).mapIdx fun i (part, ordinal) =>
    { doc := { lines := ["The " ++ ordinal ++ " 8 bits of the " ++ what ++ " of this board."] }
      name := name ++ "_" ++ toString (i + 1)
      value := mark ++ part }

theorem defineParts_eq (name what mark : String) (parts : List String) (s : State) :
    defineParts name what mark parts s = s.defineAll (partConstants name what mark parts) := by
  unfold defineParts partConstants
  rw [List.mapIdx_eq_zipIdx_map]
  exact State.foldl_defineAll (fun x : (String × String) × Nat => _) _ s

/-- The constants for an address of `count` parts. -/
def addressConstants (name what mark : String) (separator : Char) (count : Nat)
    (address : String) : List Definition :=
  let parts := Text.split separator address
  if parts.length = count then partConstants name what mark parts else []

def optionConstants : MediumOption → List Definition
  | .mac address => addressConstants "MAC" "MAC address" "0x" ':' 6 address
  | .ip address => addressConstants "IP" "IP address" "" '.' 4 address
  | .mask address => addressConstants "MASK" "network mask" "" '.' 4 address
  | .gateway address => addressConstants "GW" "standard gateway" "" '.' 4 address
  | .port number => [{
      doc := { lines := ["The port for this boards TCP-connection."] }
      name := "PORT"
      value := toString number.toInt }]

theorem defineIp_eq (name key what address : String) (s : State) :
    (defineIp name key what address s).1 =
      s.defineAll (addressConstants name what "" '.' 4 address) := by
  simp only [defineIp, addressConstants]
  split
  · exact defineParts_eq ..
  · exact (State.defineAll_nil s).symm

theorem defineOption_eq (s : State) (option : MediumOption) :
    (defineOption s option).1 = s.defineAll (optionConstants option) := by
  cases option with
  | mac address =>
    simp only [defineOption, defineMac, optionConstants, addressConstants]
    split
    · exact defineParts_eq ..
    · exact (State.defineAll_nil s).symm
  | ip address => exact defineIp_eq ..
  | mask address => exact defineIp_eq ..
  | gateway address => exact defineIp_eq ..
  | port number => rfl

/-- The options of a medium only define constants. -/
theorem defineOptions_eq (s : State) (options : List MediumOption) :
    (defineOptions s options).1 = s.defineAll (options.flatMap optionConstants) := by
  induction options generalizing s with
  | nil => exact (State.defineAll_nil s).symm
  | cons option options ih =>
    show (defineOptions (defineOption s option).1 options).1 = _
    rw [ih, defineOption_eq, State.defineAll_defineAll, List.flatMap_cons]

def mediumConstants : Medium → List Definition
  | .ethernet options _ => options.flatMap optionConstants
  | .ethernetLite options _ => options.flatMap optionConstants
  | _ => []

theorem mediumConstants_eq (m : Medium) :
    mediumConstants m = m.options.flatMap optionConstants := by
  cases m <;> rfl

/-- The constants of a medium are named after its addresses, or after its port. -/
def mediumHeads : List String := ["MAC_", "IP_", "MASK_", "GW_", "PORT"]

theorem addressConstants_named {name what mark address : String} {separator : Char} {count : Nat}
    {d : Definition} (hd : d ∈ addressConstants name what mark separator count address) :
    ∃ rest, d.name = name ++ "_" ++ rest := by
  simp only [addressConstants] at hd
  split at hd
  · obtain ⟨i, hi, rfl⟩ := List.mem_mapIdx.1 hd
    exact ⟨_, rfl⟩
  · cases hd

theorem mediumConstants_named {m : Medium} {d : Definition} (hd : d ∈ mediumConstants m) :
    ∃ head ∈ mediumHeads, ∃ rest, d.name = head ++ rest := by
  rw [mediumConstants_eq] at hd
  obtain ⟨option, -, hd⟩ := List.mem_flatMap.1 hd
  cases option with
  | mac address => exact ⟨"MAC_", by decide, addressConstants_named hd⟩
  | ip address => exact ⟨"IP_", by decide, addressConstants_named hd⟩
  | mask address => exact ⟨"MASK_", by decide, addressConstants_named hd⟩
  | gateway address => exact ⟨"GW_", by decide, addressConstants_named hd⟩
  | port number =>
    rw [List.mem_singleton.1 hd]
    exact ⟨"PORT", by decide, "", rfl⟩

/-- The constants that are known in the end. -/
def countConstants (c : Counters) : List Definition := [
  { doc := { lines := ["Number of in-going stream interfaces."] }
    name := "IN_STREAM_COUNT"
    value := toString (c.count .streamMaster) },
  { doc := { lines := ["Number of out-going stream interfaces."] }
    name := "OUT_STREAM_COUNT"
    value := toString (c.count .streamSlave) },
  { doc := { lines := ["Number of gpi components"] }
    name := "gpi_count"
    value := toString (c.count .gpi) },
  { doc := { lines := ["Number of gpo components"] }
    name := "gpo_count"
    value := toString (c.count .gpo) }]

theorem defineCounts_eq (c : Counters) (s : State) :
    defineCounts c s = s.defineAll (countConstants c) := by
  simp only [defineCounts, countConstants, State.define_eq, State.defineAll_defineAll,
    List.cons_append, List.nil_append]

/-! ## What a call configures -/

/-- The constants that a call defines. -/
def callConstants (b : Board) : Call → List Definition
  | .start => defaultConstants b
  | .medium m => mediumConstants m
  | _ => []

/-- The scheduler that a call chooses. -/
def callScheduler : Call → List Code
  | .defaultScheduler s => [s.code]
  | .userScheduler s _ => [s.code]
  | _ => []

/-- What some calls configure. -/
structure Configures (b : Board) (calls : List Call) (s s' : State) : Prop where
  constants :
    s'.constants.definitions = s.constants.definitions ++ calls.flatMap (callConstants b)
  scheduler : s'.scheduler = (calls.flatMap callScheduler).getLast?.getD s.scheduler

namespace Configures

variable {b : Board} {calls calls' : List Call} {s s' s'' : State}

theorem refl (s : State) : Configures b [] s s := ⟨(List.append_nil _).symm, rfl⟩

theorem trans (h : Configures b calls s s') (h' : Configures b calls' s' s'') :
    Configures b (calls ++ calls') s s'' where
  constants := by
    rw [h'.constants, h.constants, List.flatMap_append, List.append_assoc]
  scheduler := by
    rw [h'.scheduler, h.scheduler, List.flatMap_append, List.getLast?_append]
    cases (calls'.flatMap callScheduler).getLast? with
    | none => rfl
    | some code => rfl

/-- A call that configures nothing. -/
theorem nothing {call : Call} (hconstants : s'.constants = s.constants)
    (hscheduler : s'.scheduler = s.scheduler) (hc : callConstants b call = [])
    (hs : callScheduler call = []) : Configures b [call] s s' := by
  constructor
  · rw [hconstants, List.flatMap_singleton, hc, List.append_nil]
  · rw [hscheduler, List.flatMap_singleton, hs]
    rfl

end Configures

theorem addMedium_configures (o : Options) (b : Board) (m : Medium) (s : State) :
    Configures b [.medium m] s (addMedium o m s).state := by
  have hethernet : ∀ options pos, (addEthernet o options pos s).state.constants.definitions =
        s.constants.definitions ++ options.flatMap optionConstants ∧
      (addEthernet o options pos s).state.scheduler = s.scheduler := by
    intro options pos
    simp only [addEthernet, defineOptions_eq]
    exact ⟨rfl, rfl⟩
  cases m with
  | ethernet options pos =>
    obtain ⟨hconstants, hscheduler⟩ := hethernet options pos
    exact ⟨hconstants.trans (by simp [callConstants, mediumConstants]), hscheduler⟩
  | ethernetLite options pos =>
    obtain ⟨hconstants, hscheduler⟩ := hethernet options pos
    exact ⟨hconstants.trans (by simp [callConstants, mediumConstants]), hscheduler⟩
  | _ => exact .nothing rfl rfl rfl rfl

theorem addInput_configures (o : Options) (b : Board) (g : Gpio) (id : UInt8) (s : State) :
    Configures b [.input g id] s (addInput o g id s).state := by
  unfold addInput
  cases Catalog.find? g.name with
  | none => exact .nothing rfl rfl rfl rfl
  | some d => cases hinterrupt : d.hasInterrupt <;>
      simp only [hinterrupt, Bool.false_eq_true, if_false, if_true] <;>
      exact .nothing rfl rfl rfl rfl

theorem addOutput_configures (o : Options) (b : Board) (g : Gpio) (id : UInt8) (s : State) :
    Configures b [.output g id] s (addOutput o g id s).state := by
  unfold addOutput
  cases Catalog.find? g.name with
  | none => exact .nothing rfl rfl rfl rfl
  | some d => exact .nothing rfl rfl rfl rfl

theorem addAxis_configures (b : Board) (a : Axis) (s : State) :
    Configures b [.axis a] s (addAxis a s) := by
  unfold addAxis
  cases a.streams.master <;> cases a.streams.slave <;> exact .nothing rfl rfl rfl rfl

/-- Only the start, the medium and the scheduler configure anything. -/
theorem visit_configures (o : Options) (b : Board) (c : Counters) {call : Call}
    (hcall : call ≠ .finish) (s : State) : Configures b [call] s (visit o b c call s).state := by
  cases call with
  | start =>
    constructor
    · show (defineDefaults b s).constants.definitions = _
      rw [defineDefaults_eq, List.flatMap_singleton]
      rfl
    · show (defineDefaults b s).scheduler = _
      rw [defineDefaults_eq]
      rfl
  | medium m => exact addMedium_configures o b m s
  | input g id => exact addInput_configures o b g id s
  | output g id => exact addOutput_configures o b g id s
  | axis a => exact addAxis_configures b a s
  | defaultScheduler scheduler => exact ⟨(List.append_nil _).symm, rfl⟩
  | userScheduler scheduler lines => exact ⟨(List.append_nil _).symm, rfl⟩
  | finish => exact absurd rfl hcall
  | _ => exact .nothing rfl rfl rfl rfl

theorem flatMap_callScheduler (b : Board) :
    (b.inside.flatMap callScheduler).getLast?.getD .missing = b.scheduler.code := by
  have hother : ∀ call : Call, call.part ≠ .ends → call.part ≠ .scheduler →
      callScheduler call = [] := by
    intro call _ hpart
    cases call with
    | defaultScheduler s => exact absurd rfl hpart
    | userScheduler s lines => exact absurd rfl hpart
    | _ => rfl
  rw [Board.flatMap_inside hother]
  simp only [Board.callsAbout, schedulerCalls]
  cases hcode : b.scheduler.code with
  | default => simp [callScheduler, hcode]
  | user lines => simp [callScheduler, hcode]
  | missing => rfl

theorem flatMap_callConstants (b : Board) :
    b.inside.flatMap (callConstants b) = mediumConstants b.medium := by
  have hother : ∀ call : Call, call.part ≠ .ends → call.part ≠ .medium →
      callConstants b call = [] := by
    intro call hends hpart
    cases call with
    | start => exact absurd rfl hends
    | medium m => exact absurd rfl hpart
    | _ => rfl
  rw [Board.flatMap_inside hother]
  exact List.flatMap_singleton ..

/-- The configuration before the last call. -/
theorem lastState_configures (o : Options) (b : Board) :
    ((Backend.firmware o).lastState b).constants.definitions =
        defaultConstants b ++ mediumConstants b.medium ∧
      ((Backend.firmware o).lastState b).scheduler = b.scheduler.code := by
  have h : Configures b ((.start :: b.inside).flatMap ([·])) (start o)
      ((Backend.firmware o).lastState b) :=
    Visitor.advance_grows Configures.refl Configures.trans
      (fun call hcall s => visit_configures o b {} (b.ne_finish call hcall) s) (start o)
  rw [List.flatMap_singleton'] at h
  constructor
  · rw [h.constants, List.flatMap_cons, flatMap_callConstants]
    rfl
  · rw [h.scheduler, List.flatMap_cons, ← flatMap_callScheduler]
    rfl

/-! ## The finished server -/

/-- A module defines a name once, with the given value. -/
def Defines (m : Module) (name value : String) : Prop :=
  (m.definitions.filter (·.name == name)).map (·.value) = [value]

theorem complete_constants (c : Counters) (s : State) :
    (complete c s).constants = (s.defineAll (countConstants c)).constants := by
  rw [← defineCounts_eq]
  rfl

/-- The modules of a server: its constants, the components that the calls made
up, and its scheduler. -/
theorem run_modules {o : Options} {b : Board} {server : Result}
    (h : (Backend.firmware o).run b = .ok server) :
    ∃ (s : State) (constants scheduler : Module), Grows (.start :: b.inside) (start o) s ∧
      server.modules = [constants, (complete b.lastCounters s).components, scheduler] ∧
      constants.name = "constants" ∧
      constants.definitions =
        defaultConstants b ++ mediumConstants b.medium ++ countConstants b.lastCounters ∧
      Server.Schedule.module o.src b.scheduler.code (b.lastCounters.count .streamMaster)
        (b.lastCounters.count .streamSlave) = .ok scheduler := by
  obtain ⟨-, -, hstop, rfl⟩ := Backend.run_ok (visitor_countsLast o) h
  obtain ⟨hconstants, hscheduler⟩ := lastState_configures o b
  have hgrows := lastState_grows o b
  obtain ⟨scheduler, hmodule, hproduced⟩ := finish_ok hstop
  have hmodules := congrArg Result.modules hproduced
  rw [hgrows.produced] at hmodules
  refine ⟨(Backend.firmware o).lastState b, _, scheduler, hgrows, hmodules, ?_, ?_,
    hscheduler ▸ hmodule⟩
  · exact (congrArg Module.name (complete_constants ..)).trans hgrows.constants
  · refine (congrArg Module.definitions (complete_constants ..)).trans ?_
    exact congrArg (· ++ countConstants b.lastCounters) hconstants

/-- The medium defines nothing under a name that begins in another way than its own. -/
theorem mediumConstants_filter {wanted : String}
    (hwanted : ∀ head ∈ mediumHeads,
      wanted.toList.take head.toList.length ≠ head.toList.take wanted.toList.length)
    (m : Medium) : (mediumConstants m).filter (·.name == wanted) = [] := by
  rw [List.filter_eq_nil_iff]
  intro d hd heq
  obtain ⟨head, hhead, rest, hname⟩ := mediumConstants_named hd
  rw [beq_iff_eq, hname] at heq
  exact Text.append_ne (hwanted head hhead) rest heq

/-- The numbers of streams are defined once each. -/
theorem defines_counts {m : Module} {b : Board} {c : Counters}
    (h : m.definitions = defaultConstants b ++ mediumConstants b.medium ++ countConstants c) :
    Defines m "IN_STREAM_COUNT" (toString (c.count .streamMaster)) ∧
      Defines m "OUT_STREAM_COUNT" (toString (c.count .streamSlave)) := by
  constructor
  · rw [Defines, h, List.filter_append, List.filter_append, mediumConstants_filter (by decide)]
    rfl
  · rw [Defines, h, List.filter_append, List.filter_append, mediumConstants_filter (by decide)]
    rfl

/-- The size of the largest queue is defined once. -/
theorem defines_largest {m : Module} {b : Board} {c : Counters}
    (h : m.definitions = defaultConstants b ++ mediumConstants b.medium ++ countConstants c) :
    Defines m "MAX_OUT_SW_QUEUE_SIZE" (toString b.maxSwQueue.toInt) := by
  rw [Defines, h, List.filter_append, List.filter_append, mediumConstants_filter (by decide)]
  rfl

end Boardwright.Firmware
