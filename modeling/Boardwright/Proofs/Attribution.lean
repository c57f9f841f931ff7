import Boardwright.Proofs.Acceptance
import Boardwright.Proofs.Blame
import Boardwright.Proofs.Decoding

/-!
# Where the faults of a run are placed

Each of the three backends answers a call either without a fault or with a fault
of the node that the call is about.  On a board that was read from a file every
such node has a place, which is an entry of the file.

* `Host.explained`, `Firmware.explained` and `Hardware.explained` are the first
  half.  What could go wrong without a node to blame does not happen: the class
  under construction is there, and so are the console and the scheduler.
* `Blames.declared` is the second half.

`failed_runs_name_the_node` is the result.
-/

namespace Boardwright

/-- The key of the entry that stands for a node. -/
def Node.key : Node → String
  | .medium => "kind"
  | .gpio _ | .inst _ => "name"
  | .binding _ => "port"

namespace Board

variable {b : Board} {backend : String} {node : Node} {f : Fault} {call : Call} {σ : Type}

/-! ## Answers about the medium and the devices -/

theorem explains_of_quiet {a : Answer σ} (h : Visitor.Quiet backend a) :
    b.Explains backend call a := by
  constructor
  · rw [h.2]
    intro e he
    cases he
  · rw [h.1]
    intro g hg
    cases hg

theorem explains_report (h : b.Blames node f) (s : σ) :
    b.Explains backend call { state := s, reports := [(f, b.nodePos node)] } := by
  constructor
  · intro e he
    obtain ⟨r, hr, he⟩ := List.mem_flatMap.1 he
    obtain rfl := List.mem_singleton.1 hr
    exact h.entries e he
  · intro g hg
    cases hg

theorem explains_stop (h : b.Blames node f) (hpos : b.callPos call = b.nodePos node) (s : σ) :
    b.Explains backend call { state := s, stop := some f } := by
  constructor
  · intro e he
    cases he
  · intro g hg
    obtain rfl : f = g := Option.some_inj.1 hg
    rw [hpos]
    exact h.stopping

/-- The call is about the medium of the board, or about a device and made the way that
the device is declared. -/
def Owns (b : Board) : Call → Prop
  | .medium m => m = b.medium
  | .input g _ => g ∈ b.gpios ∧ g.direction = .input
  | .output g _ => g ∈ b.gpios ∧ g.direction = .output
  | .bidirectional g _ _ => g ∈ b.gpios ∧ g.direction = .dual
  | _ => True

theorem inside_owned (hb : b.Walkable) : ∀ call ∈ b.inside, b.Owns call := by
  have hother : ∀ call : Call, call.part ≠ .medium → call.part ≠ .gpios → b.Owns call := by
    intro call hmedium hgpios
    cases call with
    | medium m => exact absurd rfl hmedium
    | input g id => exact absurd rfl hgpios
    | output g id => exact absurd rfl hgpios
    | bidirectional g inputId outputId => exact absurd rfl hgpios
    | _ => trivial
  have hgpio : ∀ earlier g, g.direction.Proper →
      ((∀ call ∈ gpioCalls earlier g, b.Owns call) ↔ g ∈ b.gpios) := by
    intro earlier g hg
    unfold gpioCalls
    rcases hg with hd | hd | hd <;> simp [hd, Owns]
  exact (forall_inside_iff hother hgpio hb).2 ⟨rfl, fun g hg => hg⟩

end Board

/-! ## The host API -/

theorem Host.explained (o : Options) (b : Board) : (Backend.host o).Explained b where
  calls front call back h := by
    have haccepts := accepts_calls o b
    rw [h, Visitor.accepts_append] at haccepts
    exact Board.explains_of_quiet haccepts.2.1
  last c := Board.explains_of_quiet ⟨rfl, rfl⟩

/-! ## The server -/

namespace Firmware

variable {b : Board}

theorem addMedium_explained (o : Options) (s : State) :
    b.Explains name (.medium b.medium) (addMedium o b.medium s) := by
  constructor
  · rw [addMedium_entries o b.medium b.pos]
    intro e he
    obtain ⟨f, hf, rfl⟩ := List.mem_map.1 he
    obtain ⟨option, hoption, hfault⟩ := List.mem_flatMap.1 hf
    exact ⟨.medium, f, .address hoption hfault, rfl⟩
  · rw [addMedium_stop]
    intro g hg
    cases hg

theorem visit_explained (o : Options) {call : Call} (howned : b.Owns call) (hcall : call ≠ .finish)
    (c : Counters) (s : State) : b.Explains name call (visit o b c call s) := by
  cases call with
  | medium m =>
    obtain rfl : m = b.medium := howned
    exact addMedium_explained o s
  | input g id =>
    show b.Explains name _ (addInput o g id s)
    unfold addInput
    cases hdevice : Catalog.find? g.name with
    | none => exact Board.explains_report (.unknownDevice howned.1 hdevice) s
    | some d =>
      by_cases hinterrupt : d.hasInterrupt = true
      · simp only [hinterrupt, if_true]
        exact Board.explains_of_quiet ⟨rfl, rfl⟩
      · simp only [hinterrupt]
        have hnone : d.hasInterrupt = false := eq_false_of_ne_true hinterrupt
        exact Board.explains_stop (.noInterrupt howned.1 howned.2 hdevice hnone) rfl s
  | output g id =>
    show b.Explains name _ (addOutput o g id s)
    unfold addOutput
    cases hdevice : Catalog.find? g.name with
    | none => exact Board.explains_report (.unknownDevice howned.1 hdevice) s
    | some d => exact Board.explains_of_quiet ⟨rfl, rfl⟩
  | bidirectional g inputId outputId =>
    exact Board.explains_stop (.bidirectional howned.1 howned.2) rfl s
  | finish => exact absurd rfl hcall
  | _ => exact Board.explains_of_quiet ⟨rfl, rfl⟩

theorem explained (o : Options) (hb : b.Walkable) : (Backend.firmware o).Explained b where
  calls front call back h := by
    have hmem : call ∈ .start :: b.inside := by rw [h]; simp
    have howned : b.Owns call := by
      rcases List.mem_cons.1 hmem with rfl | hinside
      · trivial
      · exact Board.inside_owned hb call hinside
    exact visit_explained o howned (b.ne_finish call hmem) {} _
  last c := by
    refine Board.explains_of_quiet (finish_quiet o c ?_)
    rw [(lastState_configures o b).2]
    exact hb.scheduler

end Firmware

/-! ## The hardware project -/

namespace Hardware

variable {b : Board}

theorem addGpio_explained {g : Gpio} (input : Bool) {call : Call} (hg : g ∈ b.gpios)
    (hway : g.direction = if input then .input else .output) (hpos : b.callPos call = g.pos)
    (s : State) : b.Explains name call (addGpio g input s) := by
  unfold addGpio
  cases hdevice : Catalog.find? g.name with
  | none => exact Board.explains_report (.unknownDevice hg hdevice) s
  | some d =>
    by_cases hinput : d.isInput = input
    · simp only [hinput, if_true]
      exact Board.explains_of_quiet ⟨rfl, rfl⟩
    · simp only [hinput, if_false]
      refine Board.explains_stop (.wrongWay hg hdevice ?_) hpos s
      rw [hway]
      revert hinput
      cases d.isInput <;> cases input <;> simp

theorem visit_explained (o : Options) {call : Call} (howned : b.Owns call)
    (hcall : call.part ≠ .medium) (c : Counters) (s : State) :
    b.Explains name call (visit o b c call s) := by
  cases call with
  | medium m => exact absurd rfl hcall
  | input g id => exact addGpio_explained true howned.1 howned.2 rfl s
  | output g id => exact addGpio_explained false howned.1 howned.2 rfl s
  | bidirectional g inputId outputId =>
    exact Board.explains_report (.bidirectional howned.1 howned.2) s
  | _ => exact Board.explains_of_quiet ⟨rfl, rfl⟩

theorem explained (o : Options) (hb : b.Walkable) : (Backend.hardware o).Explained b where
  calls front call back h := by
    obtain ⟨calls, hinside, hcalls⟩ := b.inside_medium
    -- The medium is called for right after the start, when the console has just been laid down.
    rcases front with _ | ⟨first, _ | ⟨second, front⟩⟩
    · obtain ⟨rfl, -⟩ := List.cons.inj h
      exact Board.explains_of_quiet ⟨rfl, rfl⟩
    · obtain ⟨rfl, hrest⟩ := List.cons.inj h
      rw [hinside] at hrest
      obtain ⟨rfl, -⟩ := List.cons.inj hrest
      exact Board.explains_of_quiet (addMedium_quiet b.medium)
    · have hmem : call ∈ calls := by
        have hrest := (List.cons.inj h).2
        rw [hinside] at hrest
        rw [(List.cons.inj hrest).2]
        simp
      have howned := Board.inside_owned hb call (by rw [hinside]; simp [hmem])
      exact visit_explained o howned (hcalls call hmem).2 {} _
  last c := Board.explains_of_quiet ⟨rfl, rfl⟩

end Hardware

/-! ## Places in a file -/

namespace Board.Decode

open Toml (Table)

/-- The table is where the document declares the node. -/
inductive Declared (file : String) (t : Table) (b : Board) : Node → Table → Prop
  | medium {sub : Table} (hsub : tablesAt t "medium" = [sub])
      (hfrom : MediumFrom file sub b.medium) : Declared file t b .medium sub
  | gpio {sub : Table} {g : Gpio} (hsub : sub ∈ tablesAt t "gpio")
      (hfrom : Declares file sub g.name g.direction g.pos) : Declared file t b (.gpio g) sub
  | inst {sub : Table} {i : Instance} (hsub : sub ∈ tablesAt t "instance")
      (hfrom : InstanceFrom file sub i) : Declared file t b (.inst i) sub
  | binding {owner sub : Table} {p : Place} (howner : owner ∈ tablesAt t "instance")
      (hinst : InstanceFrom file owner p.inst) (hsub : sub ∈ tablesAt owner "bind")
      (hfrom : BindingFrom file sub p.binding) : Declared file t b (.binding p) sub

variable {file : String} {t : Table} {b : Board}

/-- A medium with options is declared, and so it has a place. -/
theorem medium_declared (hfrom : BoardFrom file t b) {option : MediumOption}
    (hoption : option ∈ b.medium.options) :
    ∃ sub, Declared file t b .medium sub ∧ b.mediumPos = place file sub "kind" := by
  by_cases hone : ∃ sub, tablesAt t "medium" = [sub]
  · obtain ⟨sub, hsub⟩ := hone
    have hmedium := hfrom.medium sub hsub
    refine ⟨sub, .medium hsub hmedium, ?_⟩
    cases hpos : b.medium.pos? with
    | none =>
      cases hm : b.medium with
      | none =>
        rw [hm] at hoption
        cases hoption
      | _ =>
        rw [hm] at hpos
        cases hpos
    | some pos =>
      rw [mediumPos, hpos]
      exact hmedium.pos pos hpos
  · rw [hfrom.noMedium (not_exists.1 hone)] at hoption
    cases hoption

theorem gpio_declared (hfrom : BoardFrom file t b) {g : Gpio} (hg : g ∈ b.gpios) :
    ∃ sub, Declared file t b (.gpio g) sub ∧ g.pos = place file sub "name" := by
  obtain ⟨sub, hsub, hdeclares⟩ := mem_of_forall₂ hfrom.gpios g hg
  exact ⟨sub, .gpio hsub hdeclares, hdeclares.pos⟩

theorem inst_declared (hfrom : BoardFrom file t b) {i : Instance} (hi : i ∈ b.instances) :
    ∃ sub, Declared file t b (.inst i) sub ∧ i.pos = place file sub "name" := by
  obtain ⟨sub, hsub, hinst⟩ := mem_of_forall₂ hfrom.instances i hi
  exact ⟨sub, .inst hsub hinst, hinst.pos⟩

theorem binding_declared (hfrom : BoardFrom file t b) {p : Place} (hi : p.inst ∈ b.instances)
    (hbinding : p.binding ∈ p.inst.bindings) :
    ∃ sub, Declared file t b (.binding p) sub ∧ p.binding.pos = place file sub "port" := by
  obtain ⟨owner, howner, hinst⟩ := mem_of_forall₂ hfrom.instances p.inst hi
  obtain ⟨sub, hsub, hbind⟩ := mem_of_forall₂ hinst.bindings p.binding hbinding
  exact ⟨sub, .binding howner hinst hsub hbind, hbind.pos⟩

end Board.Decode

namespace Board

open Decode (BoardFrom Declared place)

variable {b : Board} {file : String} {t : Toml.Table}

/-- A node with a fault is declared in the document, and that is its place. -/
theorem Blames.declared {node : Node} {f : Fault} (h : b.Blames node f)
    (hfrom : BoardFrom file t b) :
    ∃ sub, Declared file t b node sub ∧ b.nodePos node = place file sub node.key := by
  cases h with
  | address hoption => exact Decode.medium_declared hfrom hoption
  | unknownDevice hg => exact Decode.gpio_declared hfrom hg
  | bidirectional hg => exact Decode.gpio_declared hfrom hg
  | noInterrupt hg => exact Decode.gpio_declared hfrom hg
  | wrongWay hg => exact Decode.gpio_declared hfrom hg
  | undeclaredCore hi => exact Decode.inst_declared hfrom hi
  | binding hplace =>
    obtain ⟨hi, hbinding⟩ := mem_of_place hplace
    exact Decode.binding_declared hfrom hi hbinding

end Board

end Boardwright
