import Boardwright.Proofs.FirmwareConstants

/-!
# The stream tables of the server

The server goes through its streams by number, from zero up to a constant.  What
it finds under a number is spread over four procedures that grow while the board
is walked, whereas the constants are defined in the end.  This file proves that
they fit: there is one entry for every number below the constant and none above.

`Fills` says so about the tables that the initialisation sets, and `Chooses` about
the cases of the two stream procedures.
-/

namespace Boardwright.Firmware

open Source (Procedure Module)
open Text (begins linesFrom)

/-! ## Entries of a table -/

/-- How the line begins that sets an entry of a table. -/
def entry (table : String) (i : Nat) : String := table ++ "[" ++ toString i ++ "] = "

/-- The number of an entry can be read off its line. -/
theorem begins_entry (table value rest : String) (i j : Nat) :
    begins (entry table i ++ value) (entry table j ++ value ++ rest) = decide (i = j) := by
  by_cases heq : i = j
  · subst heq
    simp
  · rw [decide_eq_false heq, Bool.eq_false_iff]
    intro hbegins
    unfold begins entry at hbegins
    rw [List.isPrefixOf_iff_prefix] at hbegins
    obtain ⟨tail, htail⟩ := hbegins
    simp only [String.toList_append, List.append_assoc] at htail
    have hnumbers := List.append_cancel_left (List.append_cancel_left htail)
    exact heq (Text.number_inj (show ']'.isDigit = false by decide) hnumbers)

/-- Some lines set every entry of a table below `n` once, to something that
begins with `value`, and say nothing else about the table. -/
structure Fills (table value : String) (n : Nat) (lines : List String) : Prop where
  once : ∀ i, lines.countP (begins (entry table i ++ value)) = if i < n then 1 else 0
  only : lines.countP (begins (table ++ "[")) = n

/-- A table is filled by its entries in a row. -/
theorem Fills.of_range {table value : String} {n : Nat} {lines : List String} {rest : Nat → String}
    (h : linesFrom [table ++ "["] lines =
      (List.range n).map fun i => entry table i ++ value ++ rest i) :
    Fills table value n lines := by
  have hlines : lines.filter (begins (table ++ "[")) =
      (List.range n).map fun i => entry table i ++ value ++ rest i := by
    rw [← h]
    simp [linesFrom]
  constructor
  · intro i
    -- Lines that set the entry are lines about the table.
    have hlonger : lines.countP (begins (entry table i ++ value)) =
        (lines.filter (begins (table ++ "["))).countP (begins (entry table i ++ value)) := by
      rw [List.countP_filter]
      refine List.countP_congr fun line _ => ?_
      rw [Bool.and_eq_true, iff_self_and]
      intro hline
      unfold entry at hline
      simp only [String.append_assoc] at hline
      rw [← String.append_assoc] at hline
      exact Text.begins_of_begins_append hline
    rw [hlonger, hlines, List.countP_map, ← List.count_range]
    refine List.countP_congr fun j _ => ?_
    rw [Function.comp_apply, begins_entry, decide_eq_true_iff, beq_iff_eq]
    exact eq_comm
  · rw [List.countP_eq_length_filter, hlines, List.length_map, List.length_range]

/-- Numbered streams fill a table with what their bindings say. -/
theorem Fills.of_streams {table value : String} {n : Nat} {lines : List String}
    {streams : List (CpuBinding × UInt8)} {f : CpuBinding → String}
    (hstreams : streams.map Prod.snd = (List.range n).map UInt8.ofNat) (hn : n ≤ 16)
    (h : linesFrom [table ++ "["] lines =
      streams.map fun (binding, id) => entry table id.toNat ++ value ++ f binding) :
    Fills table value n lines := by
  have hlength : streams.length = n := by simpa using congrArg List.length hstreams
  let rest (i : Nat) : String := (streams[i]?.map fun (binding, _) => f binding).getD ""
  refine @Fills.of_range table value n lines rest ?_
  rw [h]
  refine List.ext_getElem (by simp [hlength]) fun i hi hi' => ?_
  have hlt : i < streams.length := by simpa using hi
  have hid : streams[i].2 = UInt8.ofNat i := by
    have hget := List.getElem_of_eq hstreams (by simpa using hlt)
    simpa using hget
  have hnat : streams[i].2.toNat = i := by
    rw [hid, UInt8.toNat_ofNat']
    exact Nat.mod_eq_of_lt (by omega)
  simp [rest, hlt, hnat]

/-! ## The tables of the initialisation -/

theorem queueLine_eq (id : UInt8) (set : PortSettings) :
    queueLine id set =
      entry "inQueue" id.toNat ++ "createQueue(" ++ (toString set.swQueueWords.toInt ++ ");") := by
  simp only [queueLine, entry, idText, String.append_assoc]
  rfl

/-- The tables about host-read streams, with what they are set to. -/
def outletTables : List (String × (PortSettings → String)) := [
  ("outQueueCap", fun set => toString set.swQueueWords.toInt),
  ("isPolling", fun set => if set.polling then "1" else "0"),
  ("pollCount", fun set => toString set.pollWords.toInt)]

theorem outletLines_eq (id : UInt8) (set : PortSettings) :
    outletLines id set =
      outletTables.map fun (table, value) => entry table id.toNat ++ "" ++ (value set ++ ";") := by
  simp only [outletLines, outletTables, entry, idText, List.map_cons, List.map_nil,
    String.append_assoc, String.append_empty]
  rfl

theorem linesFrom_outlet {table : String} {value : PortSettings → String}
    (h : (table, value) ∈ outletTables) (id : UInt8) (set : PortSettings) :
    linesFrom [table ++ "["] (outletLines id set) =
      [entry table id.toNat ++ "" ++ (value set ++ ";")] := by
  have hdiffer : ∀ one ∈ outletTables.map Prod.fst, ∀ other ∈ outletTables.map Prod.fst,
      one ≠ other → (one ++ "[").toList.take (other ++ "[").toList.length ≠
        (other ++ "[").toList.take (one ++ "[").toList.length := by
    decide +kernel
  have hbegins : ∀ other text, other ∈ outletTables.map Prod.fst →
      begins (table ++ "[") (entry other id.toNat ++ text) = decide (other = table) := by
    intro other text hother
    simp only [entry, String.append_assoc]
    rw [← @String.append_assoc other]
    by_cases heq : other = table
    · rw [heq, Text.begins_self_append, decide_eq_true rfl]
    · rw [Text.not_begins_append, decide_eq_false heq]
      exact hdiffer table (List.mem_map_of_mem h) other hother (Ne.symm heq)
  have hfilter : linesFrom [table ++ "["] (outletLines id set) =
      (outletTables.filter fun (other, _) => other = table).map fun (other, value) =>
        entry other id.toNat ++ "" ++ (value set ++ ";") := by
    rw [outletLines_eq, linesFrom, List.filter_map]
    congr 1
    refine List.filter_congr fun (other, value) hother => ?_
    rw [Function.comp_apply, List.any_cons, List.any_nil, Bool.or_false]
    show begins (table ++ "[") (entry other id.toNat ++ "" ++ (value set ++ ";")) = _
    rw [String.append_assoc]
    exact hbegins other _ (List.mem_map_of_mem hother)
  rw [hfilter]
  simp only [outletTables, List.mem_cons, Prod.mk.injEq, List.not_mem_nil, or_false] at h
  rcases h with ⟨rfl, rfl⟩ | ⟨rfl, rfl⟩ | ⟨rfl, rfl⟩ <;> rfl

/-- What the initialisation says about a table that the streams of one side have a line
for each. -/
theorem linesFrom_table {b : Board} {side : Streams → Option UInt8} {table value : String}
    {f : PortSettings → String} (hstart : table ++ "[" ∈ streamStarts)
    (hlines : ∀ set s, linesFrom [table ++ "["] (streamInit set s) =
      (side s).toList.map fun id => entry table id.toNat ++ value ++ f set) :
    linesFrom [table ++ "["] (initProcedure.body.lines ++ b.inside.flatMap initLines) =
      (streamsOn side b.grants.flatten).map fun (binding, id) =>
        entry table id.toNat ++ value ++ f (b.settings binding) := by
  rw [linesFrom_init (by simpa using hstart)]
  simp only [hlines]
  exact map_streamsOn side
    (fun binding id => entry table id.toNat ++ value ++ f (b.settings binding)) _

/-- The initialisation fills such a table. -/
theorem Fills.of_init {b : Board} {side : Streams → Option UInt8} {n : Nat}
    (hstreams : (streamsOn side b.grants.flatten).map Prod.snd = (List.range n).map UInt8.ofNat)
    (hn : n ≤ 16) {table value : String} {f : PortSettings → String}
    (hstart : table ++ "[" ∈ streamStarts)
    (hlines : ∀ set s, linesFrom [table ++ "["] (streamInit set s) =
      (side s).toList.map fun id => entry table id.toNat ++ value ++ f set) :
    Fills table value n (initProcedure.body.lines ++ b.inside.flatMap initLines) :=
  Fills.of_streams (f := fun binding => f (b.settings binding)) hstreams hn
    (linesFrom_table hstart hlines)

theorem linesFrom_queue (set : PortSettings) (s : Streams) :
    linesFrom ["inQueue" ++ "["] (streamInit set s) = s.master.toList.map fun id =>
      entry "inQueue" id.toNat ++ "createQueue(" ++ (toString set.swQueueWords.toInt ++ ");") := by
  rw [show "inQueue" ++ "[" = "inQueue[" by rfl, linesFrom_queues]
  simp only [queueLine_eq]

theorem linesFrom_outletTable {table : String} {value : PortSettings → String}
    (h : (table, value) ∈ outletTables) (set : PortSettings) (s : Streams) :
    linesFrom [table ++ "["] (streamInit set s) =
      s.slave.toList.map fun id => entry table id.toNat ++ "" ++ (value set ++ ";") := by
  have hstart : ∀ table ∈ outletTables.map Prod.fst, table ++ "[" ∈ outletStarts := by decide
  rw [← Text.linesFrom_linesFrom (hstart table (List.mem_map_of_mem h)), linesFrom_outlets,
    Text.linesFrom_flatMap]
  simp only [linesFrom_outlet h]
  exact (List.map_eq_flatMap ..).symm

/-! ## The scheduling loops -/

/-- Some lines run a loop through streams, known by its first line, if and only
if there are any. -/
structure Loops (head : String) (loop : List String) (n : Nat) (lines : List String) : Prop where
  head : head ∈ lines ↔ 0 < n
  loop : loop <:+: lines ↔ 0 < n

/-- A loop is there if and only if its head is. -/
theorem Loops.of_optional {head : String} {loop front back : List String} {n : Nat}
    (hhead : head ∈ loop) (hfront : head ∉ front) (hback : head ∉ back) :
    Loops head loop n (front ++ (if 0 < n then loop else []) ++ back) := by
  by_cases hn : 0 < n
  · rw [if_pos hn]
    exact ⟨by simp [hhead, hn], iff_of_true ⟨front, back, rfl⟩ hn⟩
  · rw [if_neg hn, List.append_nil]
    have habsent : head ∉ front ++ back := by
      simp [hfront, hback]
    exact ⟨iff_of_false habsent hn, iff_of_false (fun h => habsent (h.subset hhead)) hn⟩

def inHead : String := "    for(pid = 0; pid < IN_STREAM_COUNT; pid++) \x7b"

def outHead : String := "    for(pid = 0; pid < OUT_STREAM_COUNT; pid++) \x7b"

open Server.Schedule in
theorem defaultLoop_loops (n m : Nat) :
    Loops inHead writeLoop n (defaultLoop n m).lines ∧
      Loops outHead readLoop m (defaultLoop n m).lines := by
  have hlines : (defaultLoop n m).lines = loopHead ++ (if 0 < n then writeLoop else []) ++
      (if 0 < m then readLoop else []) ++ ["\x7d"] := by
    simp only [← Int.natCast_pos]
    rfl
  have hin : inHead ∉ loopHead ∧ inHead ∈ writeLoop ∧ inHead ∉ readLoop ∧ inHead ∉ ["\x7d"] := by
    simp [inHead, loopHead, writeLoop, readLoop]
  have hout : outHead ∉ loopHead ∧ outHead ∉ writeLoop ∧ outHead ∈ readLoop := by
    simp [outHead, loopHead, writeLoop, readLoop]
  rw [hlines]
  constructor
  · rw [List.append_assoc (loopHead ++ _)]
    refine .of_optional hin.2.1 hin.1 (List.not_mem_append ?_ hin.2.2.2)
    split
    · exact hin.2.2.1
    · exact List.not_mem_nil
  · refine .of_optional hout.2.2 (List.not_mem_append hout.1 ?_) (by simp [outHead])
    split
    · exact hout.2.1
    · exact List.not_mem_nil

/-- The scheduler module with the default loop. -/
theorem module_default {dir : String} {n m : Nat} {scheduler : Module}
    (h : Server.Schedule.module dir .default n m = .ok scheduler) :
    scheduler.name = "scheduler" ∧ ∃ schedule,
      scheduler.findProcedure? "schedule" = some schedule ∧
      schedule.body.lines = (Server.Schedule.defaultLoop n m).lines := by
  obtain rfl := Except.ok.inj h
  exact ⟨rfl, _, rfl, rfl⟩

/-! ## The tables and the constants -/

/-- What is said of the streams of one side is said of their numbers. -/
theorem map_numbered {b : Board} {side : Streams → Option UInt8} {n : Nat}
    (hstreams : (streamsOn side b.grants.flatten).map Prod.snd = (List.range n).map UInt8.ofNat)
    (f : UInt8 → String) :
    (streamsOn side b.grants.flatten).map (fun (_, id) => f id) =
      (List.range n).map fun i => f (UInt8.ofNat i) :=
  calc
    _ = ((streamsOn side b.grants.flatten).map Prod.snd).map f := List.map_map.symm
    _ = (List.range n).map fun i => f (UInt8.ofNat i) := by
      rw [hstreams, List.map_map]
      rfl

/-- A procedure chooses between the numbers below `n`: between its head and its end it
has one line for each, in order, and no other case. -/
structure Chooses (head last : List String) (line : Nat → String) (n : Nat)
    (lines : List String) : Prop where
  whole : lines = head ++ (List.range n).map line ++ last
  cases : linesFrom ["case "] lines = (List.range n).map line

/-- The cases that the calls add, between a head and an end without cases. -/
theorem Chooses.of_calls {b : Board} {side : Streams → Option UInt8} {n : Nat}
    (hstreams : (streamsOn side b.grants.flatten).map Prod.snd = (List.range n).map UInt8.ofNat)
    (hn : n ≤ 16) (hside : side {} = none) {f : UInt8 → String} {line : Nat → String}
    (hline : ∀ id, f id = line id.toNat) (hcase : ∀ id, ∃ rest, f id = "case " ++ rest)
    {head last : List String} (hhead : linesFrom ["case "] head = [])
    (hlast : linesFrom ["case "] last = []) :
    Chooses head last line n
      (head ++ b.inside.flatMap (Call.streamLog fun _ s => (side s).toList.map f) ++ last) := by
  have hnumbered : (streamsOn side b.grants.flatten).map (fun (_, id) => f id) =
      (List.range n).map line := by
    rw [map_numbered hstreams]
    refine List.map_congr_left fun i hi => ?_
    have hlt := List.mem_range.1 hi
    rw [hline, UInt8.toNat_ofNat', Nat.mod_eq_of_lt (by omega)]
  constructor
  · rw [b.flatMap_streamLog fun _ => by rw [hside]; rfl, ← hnumbered]
    simp only [map_streamsOn side fun _ id => f id]
  · rw [linesFrom_cases hhead hlast hcase hside, hnumbered]

/-- The tables of a server fit its constants.  With `n` the number of host-write
streams as defined and `m` that of the host-read streams, writing has the cases
below `n` and reading those below `m`, in order and between what the procedures
have anyway; the initialisation sets the queues below `n` and the tables of the
host-read streams below `m`; and the default scheduler has a loop for either side
that has streams. -/
theorem tables_cover_streams (o : Options) (b : Board) {server : Result}
    (h : (Backend.firmware o).run b = .ok server) :
    ∃ (constants components : Module) (init write read : Procedure) (n m : Nat),
      server.findModule? "constants" = some constants ∧
      server.findModule? "components" = some components ∧
      components.findProcedure? "init_components" = some init ∧
      components.findProcedure? "axi_write" = some write ∧
      components.findProcedure? "axi_read" = some read ∧
      Defines constants "IN_STREAM_COUNT" (toString n) ∧ n ≤ 16 ∧
      Defines constants "OUT_STREAM_COUNT" (toString m) ∧ m ≤ 16 ∧
      Chooses writeProcedure.body.lines writeTail (fun i =>
        "case " ++ twoPlaces i ++ ": putfslx(val, " ++ twoPlaces i ++
          ", FSL_NONBLOCKING); break;") n write.body.lines ∧
      Chooses readProcedure.body.lines readTail (fun i =>
        "case " ++ twoPlaces i ++ ": getfslx(*val, " ++ twoPlaces i ++
          ", FSL_NONBLOCKING); break;") m read.body.lines ∧
      Fills "inQueue" "createQueue(" n init.body.lines ∧
      (∀ table ∈ ["outQueueCap", "isPolling", "pollCount"], Fills table "" m init.body.lines) ∧
      (b.scheduler.code = .default → ∃ scheduler schedule,
        server.findModule? "scheduler" = some scheduler ∧
        scheduler.findProcedure? "schedule" = some schedule ∧
        Loops inHead Server.Schedule.writeLoop n schedule.body.lines ∧
        Loops outHead Server.Schedule.readLoop m schedule.body.lines) := by
  obtain ⟨hb, -⟩ := Backend.run_ok (visitor_countsLast o) h
  obtain ⟨hmaster, hslave, hn, hm⟩ := Board.lastCounters_streams hb
  obtain ⟨s, constants, scheduler, hgrows, hmodules, hname, hdefinitions, hscheduler⟩ :=
    run_modules h
  have hcomponents : (complete b.lastCounters s).components.name = "components" :=
    hgrows.components
  obtain ⟨hinit, hwrite, hread⟩ := complete_finds hgrows b.lastCounters
  obtain ⟨hin, hout⟩ := defines_counts hdefinitions
  refine ⟨constants, _, s.init, _, _, b.lastCounters.count .streamMaster,
    b.lastCounters.count .streamSlave, ?_, ?_, hinit, hwrite, hread, hin, hn, hout, hm, ?_, ?_, ?_,
    ?_, ?_⟩
  · simp [Result.findModule?, hmodules, hname]
  · simp [Result.findModule?, hmodules, hname, hcomponents]
  · rw [addLines_lines, hgrows.writeLines]
    exact .of_calls hmaster hn rfl writeCase_eq writeCase_start (by decide +kernel)
      (by decide +kernel)
  · rw [addLines_lines, hgrows.readLines]
    exact .of_calls hslave hm rfl readCase_eq readCase_start (by decide +kernel)
      (by decide +kernel)
  · rw [hgrows.initLines]
    exact Fills.of_init hmaster hn (by decide) linesFrom_queue
  · intro table htable
    obtain ⟨⟨_, value⟩, houtlet, rfl⟩ : ∃ outlet ∈ outletTables, outlet.1 = table :=
      List.mem_map.1 htable
    have hstart : ∀ outlet ∈ outletTables.map Prod.fst, outlet ++ "[" ∈ streamStarts := by decide
    rw [hgrows.initLines]
    exact Fills.of_init hslave hm (hstart _ htable) (linesFrom_outletTable houtlet)
  · intro hdefault
    rw [hdefault] at hscheduler
    obtain ⟨hscheduled, schedule, hschedule, hlines⟩ := module_default hscheduler
    refine ⟨scheduler, schedule, ?_, hschedule, ?_⟩
    · simp [Result.findModule?, hmodules, hname, hcomponents, hscheduled]
    · rw [hlines]
      exact defaultLoop_loops ..

/-- A board on the network, with a device between its streams and a link. -/
def networkedBoard : Board where
  medium := .ethernet [.mac "02:00:00:00:00:01", .ip "10.0.0.2", .port 8844] {}
  gpios := [{ name := "switches", direction := .input }]
  cores := [{ name := "filter", ports := [
    { name := "samples", direction := .input },
    { name := "result", direction := .output },
    { name := "control", direction := .dual }] }]
  instances := [
    { name := "first", core := "filter", bindings := [
      .cpu { port := "samples" },
      .link { port := "result", peer := "last", peerPort := "samples" }] },
    { name := "last", core := "filter", bindings := [
      .cpu { port := "control", options := [.poll 3] }] }]

theorem tables_cover_streams_networked :
    ∃ (server : Result) (constants : Module) (n m : Nat),
      (Backend.firmware {}).run networkedBoard = .ok server ∧
      server.findModule? "constants" = some constants ∧
      Defines constants "IN_STREAM_COUNT" (toString n) ∧ toString n = "2" ∧
      Defines constants "OUT_STREAM_COUNT" (toString m) ∧ toString m = "1" ∧
      networkedBoard.scheduler.code = .default ∧ ∃ scheduler schedule,
        server.findModule? "scheduler" = some scheduler ∧
        scheduler.findProcedure? "schedule" = some schedule ∧
        Loops inHead Server.Schedule.writeLoop n schedule.body.lines ∧
        Loops outHead Server.Schedule.readLoop m schedule.body.lines := by
  have hrun : ∃ server, (Backend.firmware {}).run networkedBoard = .ok server := ⟨_, rfl⟩
  obtain ⟨server, hserver⟩ := hrun
  obtain ⟨constants, components, init, write, read, n, m, hconstants, -, -, -, -, hin, -, hout, -,
    -, -, -, -, hloops⟩ := tables_cover_streams {} networkedBoard hserver
  obtain rfl := Except.ok.inj hserver
  obtain rfl := Option.some.inj hconstants
  exact ⟨_, _, n, m, rfl, rfl, hin, (List.cons.inj hin).1.symm, hout, (List.cons.inj hout).1.symm,
    rfl, hloops rfl⟩

end Boardwright.Firmware
