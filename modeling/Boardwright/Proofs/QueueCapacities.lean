import Boardwright.Proofs.FirmwareTables

/-!
# The capacities of the software queues

The server sends what it has read from a stream out of one buffer, whose size is a
constant.  The constant is computed before the walk, from the bindings as they are
declared, and the capacities of the queues are written during the walk, for the
bindings that got a stream.  This file proves that no capacity exceeds the
constant.

* `Board.queueSizes` are the sizes that the constant is chosen from.  It is one of
  them (`maxSwQueue_mem`), and none is larger (`le_maxSwQueue`).  Sizes are compared
  as words, so it does not matter whether a product wrapped.
* `capacityLine` is a line that gives a queue its capacity.  `capacityLine_inj` says
  that the number of the queue and the capacity can be read off it.
* `capacity_of_binding`: a line of the initialisation about the queues of a side
  gives one of them the capacity of a CPU binding.

`queue_capacities_bounded` is the result for both sides.
-/

namespace Boardwright

namespace Board

/-! ## The largest queue -/

/-- The sizes of queues on a board: the one that holds for the whole board, and that of
each CPU binding, in words. -/
def queueSizes (b : Board) : List Int64 :=
  b.swQueue :: b.cpuBindings.map fun binding => (b.settings binding).swQueueWords

section Larger

variable {α : Type} (size : α → Int64)

/-- Keeping the larger of two numbers, element by element, ends with one of them. -/
theorem foldl_larger_mem (as : List α) (start : Int64) :
    as.foldl (fun m a => if m < size a then size a else m) start ∈ start :: as.map size := by
  induction as generalizing start with
  | nil => exact List.mem_singleton.2 rfl
  | cons a as ih =>
    rw [List.foldl_cons, List.map_cons]
    rcases List.mem_cons.1 (ih (if start < size a then size a else start)) with hkept | hlater
    · rw [hkept]
      split
      · exact List.mem_cons_of_mem _ List.mem_cons_self
      · exact List.mem_cons_self
    · exact List.mem_cons_of_mem _ (List.mem_cons_of_mem _ hlater)

/-- It ends with a number that is at least as large as each of them. -/
theorem le_foldl_larger (as : List α) (start : Int64) :
    ∀ n ∈ start :: as.map size,
      n ≤ as.foldl (fun m a => if m < size a then size a else m) start := by
  induction as generalizing start with
  | nil =>
    intro n hn
    rw [List.mem_singleton.1 hn]
    exact Int64.le_refl start
  | cons a as ih =>
    have hnext := ih (if start < size a then size a else start)
    have hboth : start ≤ (if start < size a then size a else start) ∧
        size a ≤ (if start < size a then size a else start) := by
      split
      · next hlt => exact ⟨Int64.le_of_lt hlt, Int64.le_refl _⟩
      · next hle => exact ⟨Int64.le_refl _, Int64.not_lt.1 hle⟩
    rw [List.foldl_cons, List.map_cons]
    intro n hn
    rcases List.mem_cons.1 hn with rfl | hn
    · exact Int64.le_trans hboth.1 (hnext _ List.mem_cons_self)
    · rcases List.mem_cons.1 hn with rfl | hn
      · exact Int64.le_trans hboth.2 (hnext _ List.mem_cons_self)
      · exact hnext n (List.mem_cons_of_mem _ hn)

end Larger

variable (b : Board)

theorem maxSwQueue_mem : b.maxSwQueue ∈ b.queueSizes :=
  foldl_larger_mem (fun binding => (b.settings binding).swQueueWords) b.cpuBindings b.swQueue

theorem le_maxSwQueue : ∀ n ∈ b.queueSizes, n ≤ b.maxSwQueue :=
  le_foldl_larger (fun binding => (b.settings binding).swQueueWords) b.cpuBindings b.swQueue

/-- A stream belongs to a CPU binding of the board. -/
theorem streamsOn_binding {side : Streams → Option UInt8} {x : CpuBinding × UInt8}
    (hx : x ∈ streamsOn side b.grants.flatten) : x.1 ∈ b.cpuBindings := by
  obtain ⟨⟨binding, s⟩, hgrant, hside⟩ := List.mem_filterMap.1 hx
  obtain ⟨id, -, rfl⟩ := Option.map_eq_some_iff.1 hside
  have hbindings : b.grants.flatten.map Prod.fst = b.cpuBindings := by
    rw [List.map_flatten, grants_bindings]
    exact List.flatMap_def.symm
  rw [← hbindings]
  exact List.mem_map_of_mem hgrant

end Board

namespace Firmware

open Source (Procedure Module)
open Text (begins linesFrom)

/-! ## Lines that give a capacity -/

/-- How a line gives a queue its capacity. -/
structure CapacityForm where
  table : String
  before : String
  after : String

/-- The queue of a host-write stream is created with its capacity. -/
def inletForm : CapacityForm := { table := "inQueue", before := "createQueue(", after := ");" }

/-- The capacity of the queue of a host-read stream is written down. -/
def outletForm : CapacityForm := { table := "outQueueCap", before := "", after := ";" }

/-- The line that gives the `i`-th queue a capacity. -/
def capacityLine (form : CapacityForm) (i : Nat) (capacity : String) : String :=
  entry form.table i ++ form.before ++ (capacity ++ form.after)

theorem capacityLine_inj {form : CapacityForm} {i j : Nat} {capacity capacity' : String}
    (h : capacityLine form i capacity = capacityLine form j capacity') :
    i = j ∧ capacity = capacity' := by
  have hchars := congrArg String.toList h
  simp only [capacityLine, entry, String.toList_append, List.append_assoc] at hchars
  have hnumber := List.append_cancel_left (List.append_cancel_left hchars)
  obtain rfl : i = j := Text.number_inj (show ']'.isDigit = false by decide) hnumber
  have hbehind := List.append_cancel_left (List.append_cancel_left hnumber)
  have hcapacity := List.append_cancel_right (List.append_cancel_left hbehind)
  exact ⟨rfl, String.toList_inj.1 hcapacity⟩

theorem begins_capacityLine (form : CapacityForm) (i : Nat) (capacity : String) :
    begins (form.table ++ "[") (capacityLine form i capacity) = true := by
  simp only [capacityLine, entry, String.append_assoc]
  rw [← @String.append_assoc form.table]
  exact Text.begins_self_append ..

/-- The streams of a side set up their queues in a form. -/
structure CapacityForm.Serves (form : CapacityForm) (side : Streams → Option UInt8) : Prop where
  start : form.table ++ "[" ∈ streamStarts
  lines : ∀ set s, linesFrom [form.table ++ "["] (streamInit set s) =
    (side s).toList.map fun id => capacityLine form id.toNat (toString set.swQueueWords.toInt)

theorem inletForm_serves : inletForm.Serves Streams.master := ⟨by decide, linesFrom_queue⟩

theorem outletForm_serves : outletForm.Serves Streams.slave :=
  ⟨by decide, linesFrom_outletTable (by simp [outletTables, outletForm])⟩

/-- Whatever the initialisation says about the queues of a side gives one of them the
capacity of a CPU binding. -/
theorem capacity_of_binding {form : CapacityForm} {side : Streams → Option UInt8}
    (hform : form.Serves side) {b : Board} {line : String}
    (hline : line ∈ initProcedure.body.lines ++ b.inside.flatMap initLines)
    (hbegins : begins (form.table ++ "[") line = true) :
    ∃ i, ∃ binding ∈ b.cpuBindings,
      line = capacityLine form i (toString (b.settings binding).swQueueWords.toInt) := by
  have hmem : line ∈ linesFrom [form.table ++ "["]
      (initProcedure.body.lines ++ b.inside.flatMap initLines) :=
    List.mem_filter.2 ⟨hline, by simp [hbegins]⟩
  rw [linesFrom_table hform.start hform.lines] at hmem
  obtain ⟨x, hx, rfl⟩ := List.mem_map.1 hmem
  exact ⟨x.2.toNat, x.1, b.streamsOn_binding hx, rfl⟩

/-- The queues of a side keep to a bound: every line about them gives one of them its
capacity, and a capacity is the numeral of a word that is not above the bound. -/
structure CapacityForm.Within (form : CapacityForm) (largest : Int64) (lines : List String) :
    Prop where
  only : ∀ line ∈ lines, begins (form.table ++ "[") line = true →
    ∃ i capacity, line = capacityLine form i capacity
  bounded : ∀ i capacity, capacityLine form i capacity ∈ lines →
    ∃ n : Int64, capacity = toString n.toInt ∧ n ≤ largest

theorem CapacityForm.Serves.within {form : CapacityForm} {side : Streams → Option UInt8}
    (hform : form.Serves side) (b : Board) :
    form.Within b.maxSwQueue (initProcedure.body.lines ++ b.inside.flatMap initLines) := by
  constructor
  · intro line hline hbegins
    obtain ⟨i, binding, -, rfl⟩ := capacity_of_binding hform hline hbegins
    exact ⟨i, _, rfl⟩
  · intro i capacity hline
    obtain ⟨j, binding, hbinding, heq⟩ :=
      capacity_of_binding hform hline (begins_capacityLine form i capacity)
    refine ⟨(b.settings binding).swQueueWords, (capacityLine_inj heq).2, b.le_maxSwQueue _ ?_⟩
    exact List.mem_cons_of_mem _
      (List.mem_map_of_mem (f := fun binding => (b.settings binding).swQueueWords) hbinding)

/-- No queue of a server is larger than the constant for the largest one.  The constant
is a word, either the size of queues on the whole board or the capacity of a CPU
binding. -/
theorem queue_capacities_bounded (o : Options) (b : Board) {server : Result}
    (h : (Backend.firmware o).run b = .ok server) :
    ∃ (constants components : Module) (init : Procedure) (largest : Int64),
      server.findModule? "constants" = some constants ∧
      server.findModule? "components" = some components ∧
      components.findProcedure? "init_components" = some init ∧
      Defines constants "MAX_OUT_SW_QUEUE_SIZE" (toString largest.toInt) ∧
      (largest = b.swQueue ∨
        ∃ binding ∈ b.cpuBindings, largest = (b.settings binding).swQueueWords) ∧
      inletForm.Within largest init.body.lines ∧ outletForm.Within largest init.body.lines := by
  obtain ⟨s, constants, scheduler, hgrows, hmodules, hname, hdefinitions, -⟩ := run_modules h
  have hcomponents : (complete b.lastCounters s).components.name = "components" :=
    hgrows.components
  obtain ⟨hinit, -, -⟩ := complete_finds hgrows b.lastCounters
  refine ⟨constants, _, s.init, b.maxSwQueue, ?_, ?_, hinit, defines_largest hdefinitions, ?_, ?_,
    ?_⟩
  · simp [Result.findModule?, hmodules, hname]
  · simp [Result.findModule?, hmodules, hname, hcomponents]
  · rcases List.mem_cons.1 b.maxSwQueue_mem with hboard | hmem
    · exact .inl hboard
    · obtain ⟨binding, hbinding, heq⟩ := List.mem_map.1 hmem
      exact .inr ⟨binding, hbinding, heq.symm⟩
  · rw [hgrows.initLines]
    exact inletForm_serves.within b
  · rw [hgrows.initLines]
    exact outletForm_serves.within b

/-- A board with a queue whose size in words wraps around, and with one that is larger
than those of the whole board. -/
def wrappedBoard : Board where
  options := [.swQueue 100]
  cores := [{ name := "tap", ports := [
    { name := "wide", direction := .output },
    { name := "deep", direction := .dual }] }]
  instances := [{ name := "probe", core := "tap", bindings := [
    .cpu { port := "wide", options := [.swQueue 4611686018427387904, .bitWidth 64] },
    .cpu { port := "deep", options := [.bitWidth 80] }] }]

theorem queue_capacities_bounded_wrapped :
    ∃ (server : Result) (constants components : Module) (init : Procedure) (largest : Int64),
      (Backend.firmware {}).run wrappedBoard = .ok server ∧
      server.findModule? "constants" = some constants ∧
      server.findModule? "components" = some components ∧
      components.findProcedure? "init_components" = some init ∧
      Defines constants "MAX_OUT_SW_QUEUE_SIZE" (toString largest.toInt) ∧
      toString largest.toInt = "300" ∧
      capacityLine outletForm 0 "-9223372036854775808" ∈ init.body.lines ∧
      ∃ n : Int64, "-9223372036854775808" = toString n.toInt ∧ n ≤ largest := by
  have hrun : ∃ server, (Backend.firmware {}).run wrappedBoard = .ok server := ⟨_, rfl⟩
  obtain ⟨server, hserver⟩ := hrun
  obtain ⟨constants, components, init, largest, hconstants, hcomponents, hinit, hlargest, -, -,
    hwithin⟩ := queue_capacities_bounded {} wrappedBoard hserver
  obtain rfl := Except.ok.inj hserver
  obtain rfl := Option.some.inj hconstants
  obtain rfl := Option.some.inj hcomponents
  obtain rfl := Option.some.inj hinit
  refine ⟨_, _, _, _, largest, rfl, rfl, rfl, rfl, hlargest, (List.cons.inj hlargest).1.symm, ?_,
    hwithin.bounded 0 _ ?_⟩
  all_goals decide +kernel

end Firmware

end Boardwright
