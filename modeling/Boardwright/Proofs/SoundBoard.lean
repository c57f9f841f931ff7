import Boardwright.Proofs.WalkOrder
import Mathlib.Data.List.Induction

/-!
# Boards without a defect

`Board.Sound` says in terms of the board what `Board.defects` finds out along a
walk, and `Board.defects_eq_nil_iff` that the two agree.  The streams are counted
once for the whole board here and binding by binding there; `countP_le_iff` goes
from one to the other.  On a sound board every side of a CPU binding that asks for
a stream gets one: `Board.Sound.streams_isSome`.
-/

namespace Boardwright

/-- A list has at most `n` elements of a kind if each of them has fewer in front. -/
theorem countP_le_iff {α : Type} {kind : α → Bool} {as : List α} {n : Nat} :
    as.countP kind ≤ n ↔
      ∀ front a back, as = front ++ a :: back → kind a = true → front.countP kind < n := by
  constructor
  · rintro h front a back rfl ha
    rw [List.countP_append, List.countP_cons_of_pos ha] at h
    omega
  · intro h
    -- From the end: the last element of the kind has all others in front.
    induction as using List.reverseRecOn with
    | nil => exact Nat.zero_le n
    | append_singleton as a ih =>
      rw [List.countP_append, List.countP_singleton]
      by_cases ha : kind a = true
      · have hlast := h as a [] rfl ha
        rw [if_pos ha]
        omega
      · rw [if_neg ha]
        refine ih fun front a' back hsplit => h front a' (back ++ [a]) ?_
        rw [hsplit, List.append_assoc, List.cons_append]

namespace Board

/-- The port at the other end of a link. -/
def peerPort? (b : Board) (l : LinkBinding) : Option Port :=
  (b.findInstance? l.peer).bind fun peer =>
    (b.findCore? peer.core).bind (·.findPort? l.peerPort)

/-- Everything that the board refers to is declared, and there are streams for all
its CPU bindings. -/
structure Sound (b : Board) : Prop where
  cores : ∀ inst ∈ b.instances, (b.findCore? inst.core).isSome
  ports : ∀ p ∈ b.places, (b.port? p).isSome
  links : ∀ p ∈ b.places, ∀ l, p.binding = .link l → (b.peerPort? l).isSome
  masters : b.places.countP (b.asks Direction.isMaster) ≤ 16
  slaves : b.places.countP (b.asks Direction.isSlave) ≤ 16

section Defects

variable {b : Board} {core : Core} {earlier : List Place} {p : Place}

theorem shortage_eq_nil_iff {side : Direction → Bool} {role owner : String} :
    b.shortage side role owner earlier p = [] ↔
      (b.asks side p = true → earlier.countP (b.asks side) < 16) := by
  unfold shortage
  split
  · rename_i h
    simp only [List.cons_ne_nil, false_iff]
    intro hfew
    exact absurd (hfew h.1) (Nat.not_lt.2 h.2)
  · rename_i h
    simp only [true_iff]
    intro hasks
    exact Nat.not_le.1 fun hmany => h ⟨hasks, hmany⟩

theorem linkFaults_eq_nil_iff (hcores : ∀ inst ∈ b.instances, (b.findCore? inst.core).isSome)
    {port : Port} {l : LinkBinding} :
    b.linkFaults p port l = [] ↔ (b.peerPort? l).isSome := by
  unfold linkFaults peerPort?
  cases hpeer : b.findInstance? l.peer with
  | none => simp
  | some peer =>
    obtain ⟨peerCore, hcore⟩ :=
      Option.isSome_iff_exists.1 (hcores peer (List.mem_of_find?_eq_some hpeer))
    simp only [hcore, Option.bind_some]
    cases peerCore.findPort? l.peerPort <;> simp

/-- A binding of a declared core is without a fault if its port is there, the other
end of a link is there, too, and there is a stream left for each side that asks. -/
theorem bindingFaults_eq_nil_iff (hcores : ∀ inst ∈ b.instances, (b.findCore? inst.core).isSome)
    (hcore : b.findCore? p.inst.core = some core) :
    b.bindingFaults core earlier p = [] ↔
      (b.port? p).isSome ∧ (∀ l, p.binding = .link l → (b.peerPort? l).isSome) ∧
        (b.asks Direction.isMaster p = true → earlier.countP (b.asks Direction.isMaster) < 16) ∧
        (b.asks Direction.isSlave p = true → earlier.countP (b.asks Direction.isSlave) < 16) := by
  obtain ⟨inst, binding⟩ := p
  have hport := port_of_core hcore binding
  unfold bindingFaults
  rw [hport]
  cases hfind : core.findPort? binding.port with
  | none => simp
  | some port =>
    cases binding with
    | cpu binding =>
      simp only [axisFaults, List.append_eq_nil_iff, shortage_eq_nil_iff, Option.isSome_some,
        reduceCtorEq, false_implies, implies_true, true_and]
    | link l =>
      have hasks := asks_of_no_cpuPort (b := b) (p := ⟨inst, .link l⟩) rfl
      simp only [linkFaults_eq_nil_iff hcores, hasks, Option.isSome_some, Binding.link.injEq,
        forall_eq', Bool.false_eq_true, false_implies, and_true, true_and]

/-- Nothing is wrong with a binding of a sound board. -/
theorem Sound.bindingFaults {front back : List Place} (h : b.Sound)
    (hsplit : b.places = front ++ p :: back) (hcore : b.findCore? p.inst.core = some core) :
    b.bindingFaults core front p = [] := by
  have hp : p ∈ b.places := by simp [hsplit]
  exact (bindingFaults_eq_nil_iff h.cores hcore).2 ⟨h.ports p hp, h.links p hp,
    countP_le_iff.1 h.masters front p back hsplit, countP_le_iff.1 h.slaves front p back hsplit⟩

theorem defects_eq_nil_iff : b.defects = [] ↔ b.Sound := by
  constructor
  · intro h
    have hcores := cores_of_no_defects h
    have hplace : ∀ front p back, b.places = front ++ p :: back →
        (b.port? p).isSome ∧ (∀ l, p.binding = .link l → (b.peerPort? l).isSome) ∧
          (b.asks Direction.isMaster p = true → front.countP (b.asks Direction.isMaster) < 16) ∧
          (b.asks Direction.isSlave p = true → front.countP (b.asks Direction.isSlave) < 16) := by
      intro front p back hsplit
      rw [defects_of_cores hcores, eachAfter_eq_nil] at h
      obtain ⟨core, hcore⟩ := Option.isSome_iff_exists.1 (hcores p.inst (mem_of_place hsplit).1)
      have hfaults := h front p back hsplit
      simp only [placeDefects, hcore, List.map_eq_nil_iff] at hfaults
      exact (bindingFaults_eq_nil_iff hcores hcore).1 hfaults
    have hmem : ∀ p ∈ b.places, ∃ front back, b.places = front ++ p :: back :=
      fun p hp => List.append_of_mem hp
    constructor
    · exact hcores
    · intro p hp
      obtain ⟨front, back, hsplit⟩ := hmem p hp
      exact (hplace front p back hsplit).1
    · intro p hp
      obtain ⟨front, back, hsplit⟩ := hmem p hp
      exact (hplace front p back hsplit).2.1
    · exact countP_le_iff.2 fun front p back hsplit => (hplace front p back hsplit).2.2.1
    · exact countP_le_iff.2 fun front p back hsplit => (hplace front p back hsplit).2.2.2
  · intro h
    rw [defects_of_cores h.cores, eachAfter_eq_nil]
    intro front p back hsplit
    obtain ⟨core, hcore⟩ := Option.isSome_iff_exists.1 (h.cores p.inst (mem_of_place hsplit).1)
    simp only [placeDefects, hcore, h.bindingFaults hsplit hcore, List.map_nil]

/-- On a sound board the streams of a binding are those that its port asks for. -/
theorem Sound.streams_isSome {front back : List Place} (h : b.Sound)
    (hsplit : b.places = front ++ p :: back) {port : Port} (hport : b.cpuPort? p = some port) :
    (b.streamsAfter front p).master.isSome = port.direction.isMaster ∧
      (b.streamsAfter front p).slave.isSome = port.direction.isSlave := by
  have hside : ∀ side, b.places.countP (b.asks side) ≤ 16 →
      (b.stream? side front p).isSome = side port.direction := by
    intro side hcount
    have hfew := countP_le_iff.1 hcount front p back hsplit
    rw [← asks_of_cpuPort hport side]
    unfold stream?
    cases hasks : b.asks side p with
    | false => rfl
    | true => rw [if_pos ⟨rfl, hfew hasks⟩, Option.isSome_some]
  exact ⟨hside _ h.masters, hside _ h.slaves⟩

end Defects

end Board

end Boardwright
