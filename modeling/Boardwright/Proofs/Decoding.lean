import Boardwright.Board.Decode
import Boardwright.Proofs.WalkOrder

/-!
# What a board is read from

Reading a board goes on after a fault, with a substitute for what could not be
read.  An accepted board has no substitute in it: `BoardFrom` relates it, entry
by entry, to the table that it was read from.

There are three groups.

* Readings.  `Reading.bind_faults` says that nothing that is found is lost, and
  `Reading.forall₂_each` lifts what holds of one element to a list.
* Entries.  For each sort of entry a lemma says what a reading without a fault
  has found: `string_clean`, `natural_clean`, `flag_clean`, `direction_clean`.
* Nodes.  `GpioFrom`, `PortFrom`, `CoreFrom`, `BindingFrom` and `InstanceFrom` are
  what it means for a node to come from a table, and `board_clean` puts them
  together.

`decode_keeps_every_entry` is the result, with two consequences: no number in
the board is negative, and the board can be walked to its end.
-/

namespace Boardwright

/-! ## Readings -/

namespace Reading

variable {α β : Type}

@[simp] theorem pure_faults (a : α) : (pure a : Reading α).faults = [] := rfl

@[simp] theorem pure_value (a : α) : (pure a : Reading α).value = a := rfl

@[simp] theorem bind_faults (r : Reading α) (f : α → Reading β) :
    (r >>= f).faults = r.faults ++ (f r.value).faults := rfl

@[simp] theorem bind_value (r : Reading α) (f : α → Reading β) :
    (r >>= f).value = (f r.value).value := rfl

/-- Elements that were read one by one, all without a fault. -/
theorem forall₂_each {R : α → β → Prop} {f : α → Reading β}
    (hf : ∀ a, (f a).faults = [] → R a (f a).value) {as : List α} (h : (each f as).faults = []) :
    List.Forall₂ R as (each f as).value := by
  induction as with
  | nil => exact .nil
  | cons a as ih =>
    simp only [each, bind_faults, pure_faults, List.append_nil, List.append_eq_nil_iff] at h
    exact .cons (hf a h.1) (ih h.2)

end Reading

/-- Optional results that are all there. -/
theorem forall₂_filterMap {α β : Type} {R : α → β → Prop} {as : List α} {os : List (Option β)}
    (h : List.Forall₂ (fun a o => ∃ b, o = some b ∧ R a b) as os) :
    List.Forall₂ R as (os.filterMap id) := by
  induction h with
  | nil => exact .nil
  | cons hhead _ ih =>
    obtain ⟨b, rfl, hR⟩ := hhead
    exact .cons hR ih

/-- Every right element is related to a left one. -/
theorem mem_of_forall₂ {α β : Type} {R : α → β → Prop} {as : List α} {bs : List β}
    (h : List.Forall₂ R as bs) : ∀ b ∈ bs, ∃ a ∈ as, R a b := by
  induction h with
  | nil => nofun
  | cons hhead _ ih =>
    rintro b (_ | ⟨_, hb⟩)
    · exact ⟨_, List.mem_cons_self, hhead⟩
    · obtain ⟨a, ha, hR⟩ := ih b hb
      exact ⟨a, List.mem_cons_of_mem _ ha, hR⟩

/-- The number that a setting gives. -/
def Setting.number? : Setting → Option Int64
  | .debug => none
  | .hwQueue n | .swQueue n | .bitWidth n | .poll n => some n

/-- The number that a medium option gives. -/
def MediumOption.number? : MediumOption → Option Int64
  | .port n => some n
  | _ => none

/-- The queue sizes, bit widths, poll counts and port numbers of a board. -/
def Board.numbers (b : Board) : List Int64 :=
  (b.options ++ b.cpuBindings.flatMap CpuBinding.options).filterMap Setting.number? ++
    b.medium.options.filterMap MediumOption.number?

namespace Board.Decode

open Toml (Table Item)

variable {file : String} {t : Table} {key : String}

/-! ## Entries -/

/-- The table gives the text under the key.  No entry stands for the empty text. -/
def Written (t : Table) (key text : String) : Prop :=
  t.get? key = some (.string text) ∨ t.get? key = none ∧ text = ""

/-- The table spells the direction out. -/
def Spelled (t : Table) (d : Direction) : Prop :=
  t.get? "direction" = some (.string d.name) ∧ d.Proper

/-- The tables under a key, in order. -/
def tablesAt (t : Table) (key : String) : List Table :=
  match t.get? key with
  | some (.tables ts) => ts
  | some (.table sub) => [sub]
  | _ => []

theorem string_clean (h : (string file t key).faults = []) :
    t.get? key = (string file t key).value.map .string := by
  unfold string at h ⊢
  split at h
  · assumption
  · assumption
  · cases h

theorem written_of_clean (h : (string file t key).faults = []) :
    Written t key ((string file t key).value.getD "") := by
  have hitem := string_clean h
  cases hvalue : (string file t key).value with
  | none => exact .inr ⟨by rw [hitem, hvalue]; rfl, rfl⟩
  | some text => exact .inl (by rw [hitem, hvalue]; rfl)

theorem natural_clean (h : (natural file t key).faults = []) :
    ∀ n ∈ (natural file t key).value, 0 ≤ n := by
  unfold natural at h ⊢
  split at h
  · nofun
  · split at h
    · cases h
    · rename_i n _ hn
      intro m hm
      obtain rfl : n = m := by simpa [hn] using hm
      exact Int64.not_lt.1 hn
  · cases h

theorem flag_clean (h : (flag file t key).faults = []) :
    (flag file t key).value = true ↔ t.get? key = some (.boolean true) := by
  unfold flag at h ⊢
  split at h
  · simp_all
  · simp_all
  · cases h

theorem tables_value (file : String) (t : Table) (key : String) :
    (tables file t key).value = tablesAt t key := by
  unfold tables tablesAt
  split <;> simp_all [Reading.fail]

/-- A word that is written is there. -/
theorem Written.get {word : String} (h : Written t key word) (hword : word ≠ "") :
    t.get? key = some (.string word) := by
  rcases h with hitem | ⟨-, hempty⟩
  · exact hitem
  · exact absurd hempty hword

theorem direction_clean {path : List String} (h : (direction file t path).faults = []) :
    Spelled t (direction file t path).value := by
  unfold direction at h ⊢
  simp only [Reading.bind_faults, Reading.bind_value, List.append_eq_nil_iff] at h ⊢
  obtain ⟨hword, hdirection⟩ := h
  have hwritten := written_of_clean hword
  by_cases hin : (string file t "direction").value.getD "" = "in"
  · rw [if_pos hin]
    exact ⟨(hin ▸ hwritten).get (by decide), .inl rfl⟩
  rw [if_neg hin] at hdirection ⊢
  by_cases hout : (string file t "direction").value.getD "" = "out"
  · rw [if_pos hout]
    exact ⟨(hout ▸ hwritten).get (by decide), .inr (.inl rfl)⟩
  rw [if_neg hout] at hdirection ⊢
  by_cases hdual : (string file t "direction").value.getD "" = "dual"
  · rw [if_pos hdual]
    exact ⟨(hdual ▸ hwritten).get (by decide), .inr (.inr rfl)⟩
  rw [if_neg hdual] at hdirection
  cases hdirection

/-- Settings that are made of numbers get none that is negative. -/
theorem settings_clean {keys : List (String × (Int64 → Setting))}
    (hkeys : ∀ k ∈ keys, ∀ n, (k.2 n).number? = some n)
    (h : (settings file t keys).faults = []) :
    ∀ n ∈ (settings file t keys).value.filterMap Setting.number?, 0 ≤ n := by
  unfold settings at h ⊢
  simp only [Reading.bind_faults, Reading.bind_value, Reading.pure_faults, Reading.pure_value,
    List.append_nil, List.mem_filterMap] at h ⊢
  have hall := Reading.forall₂_each
    (R := fun k o => ∀ s ∈ o, ∃ n : Int64, 0 ≤ n ∧ s = k.2 n) (fun k hk => ?_) h
  · rintro n ⟨s, ⟨o, ho, hs⟩, hn⟩
    obtain ⟨k, hk, hR⟩ := mem_of_forall₂ hall o ho
    obtain ⟨m, hm, rfl⟩ := hR s hs
    rw [hkeys k hk, Option.some_inj] at hn
    exact hn ▸ hm
  · intro s hs
    obtain ⟨n, hn, rfl⟩ := Option.map_eq_some_iff.1 hs
    exact ⟨n, natural_clean (List.append_eq_nil_iff.1 hk).1 n hn, rfl⟩

theorem mediumOptions_clean (h : (mediumOptions file t).faults = []) :
    ∀ n ∈ (mediumOptions file t).value.filterMap MediumOption.number?, 0 ≤ n := by
  simp only [mediumOptions, Reading.bind_faults, List.append_eq_nil_iff] at h
  obtain ⟨-, -, -, -, hport, -⟩ := h
  intro n hn
  obtain ⟨option, hoption, hnumber⟩ := List.mem_filterMap.1 hn
  simp only [mediumOptions, Reading.bind_value, Reading.pure_value, List.mem_filterMap, id_eq,
    exists_eq_right, List.mem_cons, List.not_mem_nil, or_false, eq_comm (a := some option),
    Option.map_eq_some_iff] at hoption
  rcases hoption with ⟨_, _, rfl⟩ | ⟨_, _, rfl⟩ | ⟨_, _, rfl⟩ | ⟨_, _, rfl⟩ | ⟨m, hm, rfl⟩
  case inr.inr.inr.inr =>
    obtain rfl : m = n := Option.some_inj.1 hnumber
    exact natural_clean hport m hm
  all_goals cases hnumber

theorem code_value (file : String) (t : Table) (key : String) :
    (code file t key).value ≠ .missing := by
  unfold code
  simp only [Reading.bind_value]
  split <;> nofun

/-! ## Nodes -/

/-- The table gives the name and the direction of a node. -/
structure Declares (file : String) (t : Table) (name : String) (d : Direction) (pos : Pos) :
    Prop where
  name : Written t "name" name
  direction : Spelled t d
  pos : pos = place file t "name"

/-- A core comes from a table, with one port for each of its port tables. -/
structure CoreFrom (file : String) (t : Table) (c : Core) : Prop where
  name : Written t "name" c.name
  ports : List.Forall₂ (fun sub p => Declares file sub p.name p.direction p.pos)
    (tablesAt t "port") c.ports
  pos : c.pos = place file t "name"

/-- A binding comes from a table.  It is one to the CPU if the table says so and names
no peer, and a link if the table names a peer and does not say so. -/
structure BindingFrom (file : String) (t : Table) (b : Binding) : Prop where
  port : Written t "port" b.port
  cpu : (∃ c, b = .cpu c) ↔ t.get? "cpu" = some (.boolean true) ∧ t.get? "peer" = none
  link : (∃ l, b = .link l) ↔ t.get? "peer" ≠ none ∧ t.get? "cpu" ≠ some (.boolean true)
  peer : ∀ l, b = .link l →
    t.get? "peer" = some (.string l.peer) ∧ Written t "peer_port" l.peerPort
  numbers : ∀ c, b = .cpu c → ∀ n ∈ c.options.filterMap Setting.number?, 0 ≤ n
  pos : b.pos = place file t "port"

/-- An instance comes from a table, with one binding for each of its bind tables. -/
structure InstanceFrom (file : String) (t : Table) (i : Instance) : Prop where
  name : Written t "name" i.name
  core : Written t "core" i.core
  bindings : List.Forall₂ (BindingFrom file) (tablesAt t "bind") i.bindings
  pos : i.pos = place file t "name"

/-- A medium comes from a table. -/
structure MediumFrom (file : String) (t : Table) (m : Medium) : Prop where
  kind : t.get? "kind" = some (.string m.name) ∨ m = .none ∧ Written t "kind" ""
  numbers : ∀ n ∈ m.options.filterMap MediumOption.number?, 0 ≤ n
  pos : ∀ pos, m.pos? = some pos → pos = place file t "kind"

/-- A board comes from a table: node by node, and in the same order. -/
structure BoardFrom (file : String) (t : Table) (b : Board) : Prop where
  medium : ∀ sub, tablesAt t "medium" = [sub] → MediumFrom file sub b.medium
  noMedium : (∀ sub, tablesAt t "medium" ≠ [sub]) → b.medium = .none
  scheduler : b.scheduler.code ≠ .missing
  numbers : ∀ n ∈ b.options.filterMap Setting.number?, 0 ≤ n
  gpios : List.Forall₂ (fun sub g => Declares file sub g.name g.direction g.pos)
    (tablesAt t "gpio") b.gpios
  cores : List.Forall₂ (CoreFrom file) (tablesAt t "core") b.cores
  instances : List.Forall₂ (InstanceFrom file) (tablesAt t "instance") b.instances

theorem gpio_clean (h : (gpio file t).faults = []) :
    Declares file t (gpio file t).value.name (gpio file t).value.direction
      (gpio file t).value.pos := by
  simp only [gpio, Reading.bind_faults, List.append_eq_nil_iff] at h
  obtain ⟨hname, hdirection, -⟩ := h
  exact ⟨written_of_clean hname, direction_clean hdirection, rfl⟩

theorem port_clean {core : String} (h : (port file core t).faults = []) :
    Declares file t (port file core t).value.name (port file core t).value.direction
      (port file core t).value.pos := by
  simp only [port, Reading.bind_faults, List.append_eq_nil_iff] at h
  obtain ⟨hname, hdirection, -⟩ := h
  exact ⟨written_of_clean hname, direction_clean hdirection, rfl⟩

theorem core_clean (h : (core file t).faults = []) : CoreFrom file t (core file t).value := by
  simp only [core, Reading.bind_faults, tables_value, List.append_eq_nil_iff] at h
  obtain ⟨hname, -, hports, -⟩ := h
  have hvalue : (core file t).value.ports = (Reading.each
      (port file ((string file t "name").value.getD "")) (tablesAt t "port")).value := by
    rw [← tables_value file]
    rfl
  refine ⟨written_of_clean hname, ?_, rfl⟩
  rw [hvalue]
  exact Reading.forall₂_each (fun _ => port_clean) hports

theorem binding_clean {owner : String} (h : (binding file owner t).faults = []) :
    ∃ b, (binding file owner t).value = some b ∧ BindingFrom file t b := by
  unfold binding at h ⊢
  simp only [Reading.bind_faults, Reading.bind_value, List.append_eq_nil_iff] at h ⊢
  obtain ⟨hport, hflag, hpeer, hkind⟩ := h
  have hcpu := flag_clean hflag
  have hitem := string_clean hpeer
  cases hc : (flag file t "cpu").value with
  | true =>
    have hset := hcpu.1 hc
    cases hp : (string file t "peer").value with
    | some peer =>
      simp only [hc, hp] at hkind
      cases hkind
    | none =>
      simp only [hc, hp, Reading.bind_faults, List.append_eq_nil_iff] at hkind
      rw [hp] at hitem
      refine ⟨_, rfl, written_of_clean hport, ?_, ?_, nofun, ?_, rfl⟩
      · exact ⟨fun _ => ⟨hset, hitem⟩, fun _ => ⟨_, rfl⟩⟩
      · exact ⟨nofun, fun h => absurd hset h.2⟩
      · rintro c ⟨⟩
        exact settings_clean (by simp [Setting.number?]) hkind.1
  | false =>
    have hunset : t.get? "cpu" ≠ some (.boolean true) := by
      rw [Ne, ← hcpu, hc]
      decide
    cases hp : (string file t "peer").value with
    | some peer =>
      simp only [hc, hp, Reading.bind_faults, List.append_eq_nil_iff] at hkind
      rw [hp] at hitem
      refine ⟨_, rfl, written_of_clean hport, ?_, ?_, ?_, nofun, rfl⟩
      · exact ⟨nofun, fun h => absurd h.1 hunset⟩
      · exact ⟨fun _ => ⟨by rw [hitem]; nofun, hunset⟩, fun _ => ⟨_, rfl⟩⟩
      · rintro l ⟨⟩
        exact ⟨hitem, written_of_clean hkind.1⟩
    | none =>
      simp only [hc, hp] at hkind
      cases hkind

theorem inst_clean (h : (inst file t).faults = []) : InstanceFrom file t (inst file t).value := by
  simp only [inst, Reading.bind_faults, tables_value, List.append_eq_nil_iff] at h
  obtain ⟨hname, hcore, -, hbindings, -⟩ := h
  have hvalue : (inst file t).value.bindings = (Reading.each
      (binding file ((string file t "name").value.getD "")) (tablesAt t "bind")).value.filterMap
        id := by
    rw [← tables_value file]
    rfl
  refine ⟨written_of_clean hname, written_of_clean hcore, ?_, rfl⟩
  rw [hvalue]
  exact forall₂_filterMap (Reading.forall₂_each (fun _ => binding_clean) hbindings)

/-- The kinds of media are told apart by name.  Only a kind that is not known is refused. -/
theorem mediumOf_clean (h : (mediumOf file t).faults = []) :
    MediumFrom file t (mediumOf file t).value := by
  simp only [mediumOf, Reading.bind_faults, List.append_eq_nil_iff] at h
  obtain ⟨hkind, hoptions, hknown⟩ := h
  have hwritten := written_of_clean hkind
  have hnumbers := mediumOptions_clean hoptions
  simp only [mediumOf, Reading.bind_value]
  generalize (string file t "kind").value.getD "" = kind at hwritten hknown ⊢
  generalize (mediumOptions file t).value = options at hnumbers hknown ⊢
  by_cases hnone : (kind = "" || kind = "none") = true
  · rw [if_pos hnone]
    refine ⟨?_, nofun, nofun⟩
    rcases Bool.or_eq_true _ _ ▸ hnone with hempty | hnamed
    · exact .inr ⟨rfl, of_decide_eq_true hempty ▸ hwritten⟩
    · exact .inl ((of_decide_eq_true hnamed ▸ hwritten).get (by decide))
  rw [if_neg hnone] at hknown ⊢
  by_cases huart : kind = "uart"
  · rw [if_pos huart]
    exact ⟨.inl ((huart ▸ hwritten).get (by decide)), nofun, by rintro _ ⟨⟩; rfl⟩
  rw [if_neg huart] at hknown ⊢
  by_cases hethernet : kind = "ethernet"
  · rw [if_pos hethernet]
    exact ⟨.inl ((hethernet ▸ hwritten).get (by decide)), hnumbers, by rintro _ ⟨⟩; rfl⟩
  rw [if_neg hethernet] at hknown ⊢
  by_cases hlite : kind = "ethernet_lite"
  · rw [if_pos hlite]
    exact ⟨.inl ((hlite ▸ hwritten).get (by decide)), hnumbers, by rintro _ ⟨⟩; rfl⟩
  rw [if_neg hlite] at hknown ⊢
  by_cases hpcie : kind = "pcie"
  · rw [if_pos hpcie]
    exact ⟨.inl ((hpcie ▸ hwritten).get (by decide)), nofun, by rintro _ ⟨⟩; rfl⟩
  rw [if_neg hpcie] at hknown
  cases hknown

theorem scheduler_value (file : String) (ts : List Table) :
    (scheduler file ts).value.code ≠ .missing := by
  unfold scheduler
  split
  · simp only [Reading.bind_value, Reading.pure_value]
    exact code_value file _ "code"
  · nofun

theorem board_clean (h : (board file t).faults = []) : BoardFrom file t (board file t).value := by
  simp only [board, Reading.bind_faults, tables_value, List.append_eq_nil_iff] at h
  obtain ⟨-, hqueues, -, hmedium, -, -, -, hgpios, -, hcores, -, hinstances, -⟩ := h
  simp only [board, Reading.bind_value, Reading.pure_value, tables_value]
  constructor
  · intro sub hsub
    rw [hsub] at hmedium ⊢
    exact mediumOf_clean hmedium
  · intro hnone
    show (medium file (tablesAt t "medium")).value = .none
    unfold medium
    split
    · exact absurd ‹_› (hnone _)
    · rfl
  · exact scheduler_value file (tablesAt t "scheduler")
  · rw [List.filterMap_append]
    intro n hn
    rcases List.mem_append.1 hn with hdebug | hqueue
    · split at hdebug
      · cases hdebug
      · cases hdebug
    · exact settings_clean (by simp [Setting.number?]) hqueues n hqueue
  · exact Reading.forall₂_each (fun _ => gpio_clean) hgpios
  · exact Reading.forall₂_each (fun _ => core_clean) hcores
  · exact Reading.forall₂_each (fun _ => inst_clean) hinstances

namespace BoardFrom

variable {b : Board}

theorem medium_numbers (h : BoardFrom file t b) :
    ∀ n ∈ b.medium.options.filterMap MediumOption.number?, 0 ≤ n := by
  by_cases hone : ∃ sub, tablesAt t "medium" = [sub]
  · obtain ⟨sub, hsub⟩ := hone
    exact (h.medium sub hsub).numbers
  · rw [h.noMedium (not_exists.1 hone)]
    nofun

theorem binding_numbers (h : BoardFrom file t b) {c : CpuBinding} (hc : c ∈ b.cpuBindings) :
    ∀ n ∈ c.options.filterMap Setting.number?, 0 ≤ n := by
  obtain ⟨i, hi, hcpu⟩ := List.mem_flatMap.1 hc
  obtain ⟨binding, hbinding, hkind⟩ := List.mem_filterMap.1 hcpu
  obtain ⟨_, -, hinst⟩ := mem_of_forall₂ h.instances i hi
  obtain ⟨_, -, hfrom⟩ := mem_of_forall₂ hinst.bindings binding hbinding
  cases binding with
  | cpu c' =>
    obtain rfl : c' = c := Option.some_inj.1 hkind
    exact hfrom.numbers c' rfl
  | link l => cases hkind

theorem numbers_nonneg (h : BoardFrom file t b) : ∀ n ∈ b.numbers, 0 ≤ n := by
  intro n hn
  rw [Board.numbers, List.filterMap_append, List.mem_append, List.mem_append] at hn
  rcases hn with (hboard | hbinding) | hmedium
  · exact h.numbers n hboard
  · obtain ⟨s, hs, hnumber⟩ := List.mem_filterMap.1 hbinding
    obtain ⟨c, hc, hoption⟩ := List.mem_flatMap.1 hs
    exact h.binding_numbers hc n (List.mem_filterMap.2 ⟨s, hoption, hnumber⟩)
  · exact h.medium_numbers n hmedium

theorem walkable (h : BoardFrom file t b) : b.Walkable := by
  constructor
  · exact h.scheduler
  · intro g hg
    obtain ⟨sub, -, hsub⟩ := mem_of_forall₂ h.gpios g hg
    exact hsub.direction.2

end BoardFrom

end Board.Decode

namespace Board

open Decode (BoardFrom)

variable {file : String} {t : Toml.Table} {b : Board}

theorem board_of_ok (h : ofTable file t = .ok b) :
    (Decode.board file t).faults = [] ∧ (Decode.board file t).value = b := by
  simp only [ofTable] at h
  split at h
  · next hclean => exact ⟨List.isEmpty_iff.1 hclean, Except.ok.inj h⟩
  · cases h

theorem boardFrom_of_ok (h : ofTable file t = .ok b) : BoardFrom file t b := by
  obtain ⟨hclean, rfl⟩ := board_of_ok h
  exact Decode.board_clean hclean

end Board

/-- A board that is accepted has one device for each device table, one core for each
core table with one port for each port table, and one instance for each instance table
with one binding for each bind table, in order and as written.  None of its numbers is
negative.  No step of its walk gives up, so a visitor that never fails gets to the
end. -/
theorem decode_keeps_every_entry (file : String) (t : Toml.Table) (b : Board)
    (h : Board.ofTable file t = .ok b) :
    Board.Decode.BoardFrom file t b ∧ (∀ n ∈ b.numbers, 0 ≤ n) ∧
      b.steps.filterMap Step.halt? = [] ∧
      ∀ (σ : Type) (v : Visitor σ) (backend : String), v.Unfailing →
        (v.walk backend b).abort = none := by
  have hfrom := Board.boardFrom_of_ok h
  have hsteps := Visitor.steps_no_halt hfrom.walkable
  exact ⟨hfrom, hfrom.numbers_nonneg, hsteps,
    fun σ v backend hv => Visitor.follow_unfailing hv hsteps rfl⟩

/-- A board on Ethernet with two devices and two instances in a row, one that the host
writes to and one that it reads from. -/
def chainTable : Toml.Table where
  entries := [
    ("hwqueue", 1, .integer 32),
    ("medium", 2, .table { line := 2, entries := [
      ("kind", 3, .string "ethernet"), ("port", 4, .integer 8844)] }),
    ("gpio", 5, .tables [
      { line := 5, entries := [("name", 6, .string "leds"), ("direction", 7, .string "out")] },
      { line := 8, entries := [("name", 9, .string "keys"), ("direction", 10, .string "in")] }]),
    ("core", 11, .table { line := 11, entries := [
      ("name", 12, .string "adder"),
      ("port", 13, .tables [
        { line := 13, entries := [("name", 14, .string "x"), ("direction", 15, .string "in")] },
        { line := 16, entries := [("name", 17, .string "y"),
                                  ("direction", 18, .string "out")] }])] }),
    ("instance", 19, .tables [
      { line := 19, entries := [
        ("name", 20, .string "first"), ("core", 21, .string "adder"),
        ("bind", 22, .tables [
          { line := 22, entries := [
            ("port", 23, .string "x"), ("cpu", 24, .boolean true), ("poll", 25, .integer 4)] },
          { line := 26, entries := [
            ("port", 27, .string "y"), ("peer", 28, .string "last"),
            ("peer_port", 29, .string "x")] }])] },
      { line := 30, entries := [
        ("name", 31, .string "last"), ("core", 32, .string "adder"),
        ("bind", 33, .tables [
          { line := 33, entries := [("port", 34, .string "y"), ("cpu", 35, .boolean true)] }])] }])]

/-- The board in `chainTable`. -/
def chainBoard : Board where
  medium := .ethernet [.port 8844] { file := "chain.toml", line := 3 }
  options := [.hwQueue 32]
  gpios := [
    { name := "leds", direction := .output, pos := { file := "chain.toml", line := 6 } },
    { name := "keys", direction := .input, pos := { file := "chain.toml", line := 9 } }]
  cores := [
    { name := "adder", pos := { file := "chain.toml", line := 12 }
      ports := [
        { name := "x", direction := .input, pos := { file := "chain.toml", line := 14 } },
        { name := "y", direction := .output, pos := { file := "chain.toml", line := 17 } }] }]
  instances := [
    { name := "first", core := "adder", pos := { file := "chain.toml", line := 20 }
      bindings := [
        .cpu { port := "x", options := [.poll 4], pos := { file := "chain.toml", line := 23 } },
        .link { port := "y", peer := "last", peerPort := "x"
                pos := { file := "chain.toml", line := 27 } }] },
    { name := "last", core := "adder", pos := { file := "chain.toml", line := 31 }
      bindings := [.cpu { port := "y", pos := { file := "chain.toml", line := 34 } }] }]
  pos := { file := "chain.toml", line := 1 }

theorem decode_keeps_every_entry_chain :
    Board.ofTable "chain.toml" chainTable = .ok chainBoard ∧
      Board.Decode.BoardFrom "chain.toml" chainTable chainBoard ∧
      (∀ n ∈ chainBoard.numbers, 0 ≤ n) ∧ chainBoard.steps.filterMap Step.halt? = [] ∧
      ∀ (σ : Type) (v : Visitor σ) (backend : String), v.Unfailing →
        (v.walk backend chainBoard).abort = none :=
  have hread : Board.ofTable "chain.toml" chainTable = .ok chainBoard := by rfl
  ⟨hread, decode_keeps_every_entry "chain.toml" chainTable chainBoard hread⟩

end Boardwright
