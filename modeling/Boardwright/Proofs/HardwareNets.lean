import Boardwright.Proofs.HardwareWiring
import Mathlib.Data.List.Forall2
import Mathlib.Logic.Relation

/-!
# Nets that join what nobody joined

All nets of a system share one space of names.  The nets of a stream are named
after its number, the net of a link after the port that sends, its instance first.
Interfaces on one net are joined, so names that coincide join what the board keeps
apart.

* `Board.Linked` is the connection that the board declares: chains of links.
* A stream has its nets for itself: `chainEnd_inj` reads its side and its number off
  the net, and `interface_of_stream` finds the one interface behind them.
* A link joins its two ends, `linked_ends`, and puts them on the net of its sender.

`nets_isolated_iff_names_apart` puts these together: there is no other connection
if and only if no two links that the board keeps apart have senders of one name,
and none has the name of a net of a stream.
-/

namespace Boardwright

namespace Hardware

/-- The nets of a stream, from the processor on. -/
def chainNets (group : String) (set : PortSettings) : List String :=
  group :: (if 0 < set.hwQueue then [group ++ "_queue"] else []) ++
    if set.bitWidth != PortSettings.defaultBitWidth then [group ++ "_mux"] else []

/-- The nets of the streams of a CPU binding. -/
def streamNets (set : PortSettings) (s : Streams) : List String :=
  s.master.toList.flatMap (fun id => chainNets ("m" ++ idText id) set) ++
    s.slave.toList.flatMap fun id => chainNets ("s" ++ idText id) set

end Hardware

namespace Board

open Hardware (Interface Connection portNet)

/-- The nets of all streams of a board. -/
def streamNets (b : Board) : List String :=
  b.traversal.flatMap (Call.streamLog Hardware.streamNets)

/-- A binding of the board links one port to another. -/
def Declares (b : Board) (x y : Interface) : Prop :=
  ∃ inst ∈ b.instances, ∃ l, .link l ∈ inst.bindings ∧
    x = (inst.name, l.port) ∧ y = (l.peer, l.peerPort)

/-- A chain of links, in either direction, leads from one port to another. -/
def Linked (b : Board) : Interface → Interface → Prop := Relation.EqvGen b.Declares

/-- The sender of the link that attaches an interface; none if a stream does, or
nothing. -/
def linkSender? (b : Board) (x : Interface) : Option Interface :=
  (b.connections.lookup x).bind Connection.sender

/-- The nets of links bear names that keep them apart. -/
structure NamesApart (b : Board) : Prop where
  links : ∀ x y s t, b.linkSender? x = some s → b.linkSender? y = some t →
    portNet s = portNet t → b.Linked s t
  streams : ∀ x s, b.linkSender? x = some s → portNet s ∉ b.streamNets

/-- No instance has an underscore in its name or is called like a net of a stream. -/
def PlainNames (b : Board) : Prop :=
  ∀ inst ∈ b.instances, '_' ∉ inst.name.toList ∧ inst.name ∉ b.streamNets

instance (b : Board) : Decidable b.PlainNames :=
  inferInstanceAs
    (Decidable (∀ inst ∈ b.instances, '_' ∉ inst.name.toList ∧ inst.name ∉ b.streamNets))

/-! ## The streams -/

section Streams

variable {b : Board} {side : Direction → Bool} {id : UInt8}

/-- A place further on has another stream. -/
theorem stream_ne_of_later {front mid : List Place} {p p' : Place}
    (h : b.stream? side front p = some id) : b.stream? side (front ++ p :: mid) p' ≠ some id := by
  intro h'
  simp only [stream?] at h h'
  split at h
  · rename_i hp
    split at h'
    · rename_i hp'
      have hid := Option.some.inj (h.trans h'.symm)
      have hcount : (front ++ p :: mid).countP (b.asks side) =
          front.countP (b.asks side) + mid.countP (b.asks side) + 1 := by
        rw [List.countP_append, List.countP_cons_of_pos hp.1, Nat.add_assoc]
      have hnat := congrArg UInt8.toNat hid
      rw [UInt8.toNat_ofNat', UInt8.toNat_ofNat'] at hnat
      omega
    · cases h'
  · cases h

/-- The place that a stream was granted to. -/
theorem place_of_stream {front back front' back' : List Place} {p p' : Place}
    (hplace : b.places = front ++ p :: back) (hplace' : b.places = front' ++ p' :: back')
    (h : b.stream? side front p = some id) (h' : b.stream? side front' p' = some id) : p = p' := by
  rcases List.append_eq_append_iff.1 (hplace.symm.trans hplace') with
    ⟨mid, hfront, hmid⟩ | ⟨mid, hfront, hmid⟩
  · cases mid with
    | nil => exact (List.cons.inj hmid).1
    | cons q mid =>
      obtain ⟨rfl, -⟩ := List.cons.inj hmid
      rw [hfront] at h'
      exact absurd h' (stream_ne_of_later h)
  · cases mid with
    | nil => exact (List.cons.inj hmid).1.symm
    | cons q mid =>
      obtain ⟨rfl, -⟩ := List.cons.inj hmid
      rw [hfront] at h
      exact absurd h (stream_ne_of_later h')

/-- Calls with the same stream are about the same port of the same instance. -/
theorem port_of_stream {pick : Streams → Option UInt8}
    (hpick : ∀ earlier p, pick (b.streamsAfter earlier p) = b.stream? side earlier p)
    {a a' : Axis} (ha : .axis a ∈ b.traversal) (ha' : .axis a' ∈ b.traversal)
    (h : pick a.streams = some id) (h' : pick a'.streams = some id) :
    a.inst = a'.inst ∧ a.port = a'.port := by
  obtain ⟨front, p, back, hplace, hbinding⟩ := place_of_call ha rfl
  obtain ⟨front', p', back', hplace', hbinding'⟩ := place_of_call ha' rfl
  obtain ⟨hp, hport, hstreams⟩ := axis_of_binding hbinding
  obtain ⟨hp', hport', hstreams'⟩ := axis_of_binding hbinding'
  rw [hstreams, hpick] at h
  rw [hstreams', hpick] at h'
  obtain rfl := place_of_stream hplace hplace' h h'
  rw [hport] at hport'
  refine ⟨?_, Option.some.inj hport'⟩
  rw [hp] at hp'
  exact (Place.mk.inj hp').1

end Streams

/-! ## The links -/

/-- A call of a link stands for a binding of the board. -/
theorem declares_of_link {b : Board} {l : Link} (h : .link l ∈ b.traversal) :
    b.Declares (l.inst.name, l.port.name) (l.peer.name, l.peerPort.name) := by
  obtain ⟨front, p, back, hplace, hbinding⟩ := place_of_call h rfl
  obtain ⟨rfl, hport, hpeer, hpeerPort⟩ := link_of_binding hbinding
  obtain ⟨hinst, hmem⟩ := mem_of_place hplace
  refine ⟨l.inst, hinst, l.binding, hmem, ?_, ?_⟩
  · obtain ⟨core, -, hfind⟩ := Option.bind_eq_some_iff.1 hport
    have hname := List.find?_some hfind
    simp only [beq_iff_eq] at hname
    rw [hname]
    rfl
  · obtain ⟨core, -, hfind⟩ := Option.bind_eq_some_iff.1 hpeerPort
    have hname := List.find?_some hfind
    have hpeerName := List.find?_some hpeer
    simp only [beq_iff_eq] at hname hpeerName
    rw [hname, hpeerName]

theorem linked_ends {b : Board} {l : Link} (h : .link l ∈ b.traversal) :
    b.Linked (Hardware.sender l) (Hardware.receiver l) := by
  have hdeclares := Relation.EqvGen.rel _ _ (declares_of_link h)
  unfold Hardware.sender Hardware.receiver
  cases Hardware.receives l with
  | false => exact hdeclares
  | true => exact hdeclares.symm

end Board

namespace Hardware

open Descriptor (Block)

/-! ## Names of nets -/

theorem portNet_toList (port : Interface) :
    (portNet port).toList = port.1.toList ++ '_' :: port.2.toList := by
  unfold portNet
  rw [String.toList_append, String.toList_append, List.append_assoc]
  rfl

/-- A net of a stream is its group, alone or in front of an underscore. -/
theorem chainNets_toList {group : String} {set : PortSettings} {net : String}
    (h : net ∈ chainNets group set) :
    net = group ∨ ∃ rest, net.toList = group.toList ++ '_' :: rest := by
  unfold chainNets at h
  rcases List.mem_append.1 h with h | h
  · rcases List.mem_cons.1 h with h | h
    · exact .inl h
    · split at h
      · obtain rfl := List.mem_singleton.1 h
        exact .inr ⟨_, String.toList_append⟩
      · cases h
  · split at h
    · obtain rfl := List.mem_singleton.1 h
      exact .inr ⟨_, String.toList_append⟩
    · cases h

theorem getLast?_chainNets (group : String) (set : PortSettings) :
    (chainNets group set).getLast? = some (chainEnd group set) := by
  by_cases hwidth : set.bitWidth = PortSettings.defaultBitWidth <;>
    by_cases hqueue : 0 < set.hwQueue <;> simp [chainEnd, chainNets, hwidth, hqueue]

theorem group_mem (group : String) (set : PortSettings) : group ∈ chainNets group set :=
  List.mem_append_left _ List.mem_cons_self

/-- With an underscore behind it, every net of a stream shows its group. -/
theorem chainNets_marked {group : String} {set : PortSettings} {net : String}
    (h : net ∈ chainNets group set) :
    ∃ rest, net.toList ++ ['_'] = group.toList ++ '_' :: rest := by
  rcases chainNets_toList h with h | ⟨rest, h⟩
  · exact ⟨[], by rw [h]⟩
  · exact ⟨rest ++ ['_'], by rw [h, List.append_assoc, List.cons_append]⟩

/-- The side and the number of a stream can be read off its group in front of an
underscore. -/
theorem group_of_marked {side side' : String} {id id' : UInt8} {rest rest' : List Char}
    (h : (side ++ idText id).toList ++ '_' :: rest = (side' ++ idText id').toList ++ '_' :: rest')
    (hlength : side.toList.length = side'.toList.length) : side = side' ∧ id = id' := by
  rw [String.toList_append, String.toList_append, List.append_assoc, List.append_assoc] at h
  obtain ⟨hside, hnumber⟩ := List.append_inj h hlength
  exact ⟨String.toList_inj.1 hside, UInt8.toNat_inj.1 (Text.number_inj (by decide) hnumber)⟩

theorem chainEnd_mem (group : String) (set : PortSettings) :
    chainEnd group set ∈ chainNets group set :=
  List.mem_of_getLast? (getLast?_chainNets group set)

/-- The side and the number of a stream can be read off its last net. -/
theorem chainEnd_inj {side side' : String} {id id' : UInt8} {set set' : PortSettings}
    (h : chainEnd (side ++ idText id) set = chainEnd (side' ++ idText id') set')
    (hlength : side.toList.length = side'.toList.length) :
    side = side' ∧ id = id' := by
  obtain ⟨rest, hrest⟩ := chainNets_marked (chainEnd_mem (side ++ idText id) set)
  obtain ⟨rest', hrest'⟩ := chainNets_marked (chainEnd_mem (side' ++ idText id') set')
  rw [h] at hrest
  exact group_of_marked (hrest.symm.trans hrest') hlength

theorem portNet_inj {s t : Interface} (hs : '_' ∉ s.1.toList) (ht : '_' ∉ t.1.toList)
    (h : portNet s = portNet t) : s = t := by
  have hlists := congrArg String.toList h
  rw [portNet_toList, portNet_toList] at hlists
  obtain ⟨hinst, hport⟩ := Text.cut_inj hs ht hlists
  exact Prod.ext (String.toList_inj.1 hinst) (String.toList_inj.1 hport)

theorem idText_plain (id : UInt8) : '_' ∉ (idText id).toList :=
  Text.not_mem_number id.toNat (by decide)

/-- A port whose net is one of a stream belongs to an instance of that name. -/
theorem group_of_portNet {s : Interface} {group : String} {set : PortSettings}
    (hs : '_' ∉ s.1.toList) (hgroup : '_' ∉ group.toList) (h : portNet s ∈ chainNets group set) :
    s.1 = group := by
  have hlist := portNet_toList s
  rcases chainNets_toList h with hnet | ⟨rest, hnet⟩
  · rw [hnet] at hlist
    exact absurd (by simp [hlist]) hgroup
  · rw [hnet] at hlist
    exact String.toList_inj.1 (Text.cut_inj hgroup hs hlist).1.symm

theorem group_plain {side : String} (hside : '_' ∉ side.toList) (id : UInt8) :
    '_' ∉ (side ++ idText id).toList := by
  rw [String.toList_append, List.mem_append]
  rintro (hmem | hmem)
  · exact hside hmem
  · exact idText_plain id hmem

/-- If the port of an instance has a net of a stream, then so has the instance. -/
theorem streamNets_of_portNet {s : Interface} (hs : '_' ∉ s.1.toList) {set : PortSettings}
    {streams : Streams} (h : portNet s ∈ streamNets set streams) :
    s.1 ∈ streamNets set streams := by
  rcases List.mem_append.1 h with h | h
  · obtain ⟨id, hid, hnet⟩ := List.mem_flatMap.1 h
    refine List.mem_append_left _ (List.mem_flatMap.2 ⟨id, hid, ?_⟩)
    rw [group_of_portNet hs (group_plain (by decide) id) hnet]
    exact group_mem ..
  · obtain ⟨id, hid, hnet⟩ := List.mem_flatMap.1 h
    refine List.mem_append_right _ (List.mem_flatMap.2 ⟨id, hid, ?_⟩)
    rw [group_of_portNet hs (group_plain (by decide) id) hnet]
    exact group_mem ..

/-! ## What is behind an interface -/

/-- A stream of the board, with the interface that it leads to and its last net. -/
inductive StreamEnd (b : Board) : String → UInt8 → Interface → String → Prop
  | write {a : Axis} {id : UInt8} (h : .axis a ∈ b.traversal) (hid : a.streams.master = some id) :
    StreamEnd b "m" id (a.inst.name, receivingInterface a.port)
      (chainEnd ("m" ++ idText id) a.settings)
  | read {a : Axis} {id : UInt8} (h : .axis a ∈ b.traversal) (hid : a.streams.slave = some id) :
    StreamEnd b "s" id (a.inst.name, sendingInterface a.port)
      (chainEnd ("s" ++ idText id) a.settings)

section Behind

variable {b : Board} {x y s : Interface} {net : String}

theorem StreamEnd.net_mem {side : String} {id : UInt8} (h : StreamEnd b side id x net) :
    net ∈ b.streamNets := by
  cases h with
  | @write a _ h hid =>
    refine List.mem_flatMap.2 ⟨.axis a, h, List.mem_append_left _ ?_⟩
    exact List.mem_flatMap.2 ⟨id, Option.mem_toList.2 hid, chainEnd_mem ..⟩
  | @read a _ h hid =>
    refine List.mem_flatMap.2 ⟨.axis a, h, List.mem_append_right _ ?_⟩
    exact List.mem_flatMap.2 ⟨id, Option.mem_toList.2 hid, chainEnd_mem ..⟩

/-- Streams with one last net lead to one interface. -/
theorem interface_of_stream {side side' : String} {id id' : UInt8}
    (h : StreamEnd b side id x net) (h' : StreamEnd b side' id' y net) : x = y := by
  generalize hnet : net = net' at h'
  cases h with
  | write ha hid =>
    cases h' with
    | write ha' hid' =>
      obtain ⟨-, rfl⟩ := chainEnd_inj hnet rfl
      obtain ⟨hinst, hport⟩ := Board.port_of_stream (fun _ _ => rfl) ha ha' hid hid'
      rw [hinst, hport]
    | read ha' hid' => exact absurd (chainEnd_inj hnet (by decide)).1 (by decide)
  | read ha hid =>
    cases h' with
    | write ha' hid' => exact absurd (chainEnd_inj hnet (by decide)).1 (by decide)
    | read ha' hid' =>
      obtain ⟨-, rfl⟩ := chainEnd_inj hnet rfl
      obtain ⟨hinst, hport⟩ := Board.port_of_stream (fun _ _ => rfl) ha ha' hid hid'
      rw [hinst, hport]

/-- Every connection comes from a link or from a stream. -/
theorem connection_cases {c : Connection} (h : (x, c) ∈ b.connections) :
    (∃ l, .link l ∈ b.traversal ∧ c = linkConnection l ∧ (x = sender l ∨ x = receiver l)) ∨
      c.sender = none ∧ ∃ side id, StreamEnd b side id x c.net := by
  obtain ⟨call, hcall, hmem⟩ := List.mem_flatMap.1 h
  cases call with
  | link l =>
    refine .inl ⟨l, hcall, ?_⟩
    rcases List.mem_cons.1 hmem with hfirst | hrest
    · obtain ⟨rfl, rfl⟩ := Prod.mk.inj hfirst
      exact ⟨rfl, .inl rfl⟩
    · obtain ⟨rfl, rfl⟩ := Prod.mk.inj (List.mem_singleton.1 hrest)
      exact ⟨rfl, .inr rfl⟩
  | axis a =>
    refine .inr ?_
    rcases List.mem_append.1 hmem with hmaster | hslave
    · obtain ⟨id, hid, hpair⟩ := List.mem_map.1 hmaster
      obtain ⟨rfl, rfl⟩ := Prod.mk.inj hpair
      exact ⟨rfl, "m", id, .write hcall (Option.mem_toList.1 hid)⟩
    · obtain ⟨id, hid, hpair⟩ := List.mem_map.1 hslave
      obtain ⟨rfl, rfl⟩ := Prod.mk.inj hpair
      exact ⟨rfl, "s", id, .read hcall (Option.mem_toList.1 hid)⟩
  | _ => cases hmem

/-- An interface that a link attaches is an end of a link with that sender. -/
theorem link_of_linkSender (h : b.linkSender? x = some s) :
    (b.connections.lookup x).map Connection.net = some (portNet s) ∧
      ∃ l, .link l ∈ b.traversal ∧ s = sender l ∧ (x = sender l ∨ x = receiver l) := by
  obtain ⟨c, hc, hsender⟩ := Option.bind_eq_some_iff.1 h
  rcases connection_cases (mem_of_lookup hc) with ⟨l, hl, rfl, hend⟩ | ⟨hnone, -⟩
  · obtain rfl := Option.some.inj hsender
    exact ⟨by rw [hc]; rfl, l, hl, rfl, hend⟩
  · rw [hnone] at hsender
    cases hsender

theorem linked_linkSender (h : b.linkSender? x = some s) : b.Linked x s := by
  obtain ⟨-, l, hl, rfl, rfl | rfl⟩ := link_of_linkSender h
  · exact .refl _
  · exact (Board.linked_ends hl).symm

/-- Both ends of a link belong to instances of the board. -/
theorem instance_of_end {l : Link} (h : .link l ∈ b.traversal)
    (hx : x = sender l ∨ x = receiver l) :
    ∃ inst ∈ b.instances, x.1 = inst.name := by
  obtain ⟨front, p, back, hplace, hbinding⟩ := Board.place_of_call h rfl
  obtain ⟨rfl, -, hpeer, -⟩ := Board.link_of_binding hbinding
  have hinst := (Board.mem_of_place hplace).1
  have hother := List.mem_of_find?_eq_some hpeer
  unfold sender receiver at hx
  rcases hx with rfl | rfl <;> split
  · exact ⟨_, hother, rfl⟩
  · exact ⟨_, hinst, rfl⟩
  · exact ⟨_, hinst, rfl⟩
  · exact ⟨_, hother, rfl⟩

/-- An attached interface is on the net of a link that reaches it or of its stream. -/
theorem firstNet_cases {inst : Instance} {i : String} (h : b.firstNet? inst i = some net) :
    (∃ s, b.linkSender? (inst.name, i) = some s ∧ net = portNet s) ∨
      b.linkSender? (inst.name, i) = none ∧ ∃ side id, StreamEnd b side id (inst.name, i) net := by
  obtain ⟨c, hc, rfl⟩ := Option.map_eq_some_iff.1 h
  have hsender : b.linkSender? (inst.name, i) = c.sender := by
    unfold Board.linkSender?
    rw [hc]
    rfl
  rw [hsender]
  rcases connection_cases (mem_of_lookup hc) with ⟨l, hl, rfl, -⟩ | hstream
  · exact .inl ⟨sender l, rfl, rfl⟩
  · exact .inr hstream

end Behind

/-! ## Isolation -/

/-- The blocks of the instances are joined as the board declares and not otherwise:
interfaces on one net are linked, and those of links are not on nets of streams. -/
structure Isolated (b : Board) (own : List (Instance × Block)) : Prop where
  joined : ∀ x ∈ own, ∀ y ∈ own, ∀ i j net, x.2.net? i = some net → y.2.net? j = some net →
    b.Linked (x.1.name, i) (y.1.name, j)
  apart : ∀ x ∈ own, ∀ i net, x.2.net? i = some net → (b.linkSender? (x.1.name, i)).isSome →
    net ∉ b.streamNets

section Isolation

variable {b : Board} {blocks : List Block}

/-- The blocks of the instances, each beside its instance, show the first nets. -/
theorem nets_of_wired (h : List.Forall₂ (fun inst block => Tidy inst.name block ∧
      ∀ i, block.net? i = b.firstNet? inst i) b.instances blocks) :
    ∀ x ∈ b.instances.zip blocks, ∀ i, x.2.net? i = b.firstNet? x.1 i := fun _ hx =>
  ((List.forall₂_iff_zip.1 h).2 hx).2

theorem isolated_of_namesApart
    (hnets : ∀ x ∈ b.instances.zip blocks, ∀ i, x.2.net? i = b.firstNet? x.1 i)
    (hapart : b.NamesApart) : Isolated b (b.instances.zip blocks) := by
  constructor
  · intro x hx y hy i j net hxnet hynet
    rw [hnets x hx] at hxnet
    rw [hnets y hy] at hynet
    rcases firstNet_cases hxnet with ⟨s, hs, rfl⟩ | ⟨-, side, id, hxend⟩
    · rcases firstNet_cases hynet with ⟨t, ht, heq⟩ | ⟨-, side, id, hyend⟩
      · have hst := hapart.links _ _ s t hs ht heq
        exact ((linked_linkSender hs).trans _ _ _ hst).trans _ _ _ (linked_linkSender ht).symm
      · exact absurd hyend.net_mem (hapart.streams _ s hs)
    · rcases firstNet_cases hynet with ⟨t, ht, rfl⟩ | ⟨-, side', id', hyend⟩
      · exact absurd hxend.net_mem (hapart.streams _ t ht)
      · rw [interface_of_stream hxend hyend]
        exact .refl _
  · intro x hx i net hxnet hlink
    rw [hnets x hx] at hxnet
    rcases firstNet_cases hxnet with ⟨s, hs, rfl⟩ | ⟨hnone, -⟩
    · exact hapart.streams _ s hs
    · rw [hnone] at hlink
      cases hlink

/-- An interface that a link attaches is found on a block. -/
theorem block_of_linkSender
    (hnets : ∀ x ∈ b.instances.zip blocks, ∀ i, x.2.net? i = b.firstNet? x.1 i)
    (hlength : b.instances.length = blocks.length) {x s : Interface}
    (h : b.linkSender? x = some s) :
    ∃ y ∈ b.instances.zip blocks, (y.1.name, x.2) = x ∧ y.2.net? x.2 = some (portNet s) := by
  obtain ⟨hnet, l, hl, -, hend⟩ := link_of_linkSender h
  obtain ⟨inst, hinst, hname⟩ := instance_of_end hl hend
  rw [← List.map_fst_zip (Nat.le_of_eq hlength)] at hinst
  obtain ⟨y, hy, rfl⟩ := List.mem_map.1 hinst
  have hx : (y.1.name, x.2) = x := by rw [← hname]
  refine ⟨y, hy, hx, ?_⟩
  rw [hnets y hy, Board.firstNet?, hx]
  exact hnet

theorem namesApart_of_isolated
    (hnets : ∀ x ∈ b.instances.zip blocks, ∀ i, x.2.net? i = b.firstNet? x.1 i)
    (hlength : b.instances.length = blocks.length)
    (hisolated : Isolated b (b.instances.zip blocks)) : b.NamesApart := by
  constructor
  · intro x y s t hs ht heq
    obtain ⟨u, hu, hux, hunet⟩ := block_of_linkSender hnets hlength hs
    obtain ⟨v, hv, hvy, hvnet⟩ := block_of_linkSender hnets hlength ht
    have hxy := hisolated.joined u hu v hv x.2 y.2 (portNet s) hunet (by rw [hvnet, heq])
    rw [hux, hvy] at hxy
    exact ((linked_linkSender hs).symm.trans _ _ _ hxy).trans _ _ _ (linked_linkSender ht)
  · intro x s hs
    obtain ⟨u, hu, hux, hunet⟩ := block_of_linkSender hnets hlength hs
    refine hisolated.apart u hu x.2 _ hunet ?_
    rw [hux, hs]
    rfl

theorem namesApart_of_plainNames (h : b.PlainNames) : b.NamesApart := by
  have hplain : ∀ {x s}, b.linkSender? x = some s →
      '_' ∉ s.1.toList ∧ s.1 ∉ b.streamNets := by
    intro x s hs
    obtain ⟨-, l, hl, rfl, -⟩ := link_of_linkSender hs
    obtain ⟨inst, hinst, hname⟩ := instance_of_end hl (.inl rfl)
    rw [hname]
    exact h inst hinst
  constructor
  · intro x y s t hs ht heq
    rw [portNet_inj (hplain hs).1 (hplain ht).1 heq]
    exact .refl _
  · intro x s hs hmem
    apply (hplain hs).2
    obtain ⟨call, hcall, hnet⟩ := List.mem_flatMap.1 hmem
    refine List.mem_flatMap.2 ⟨call, hcall, ?_⟩
    cases call with
    | axis a => exact streamNets_of_portNet (hplain hs).1 hnet
    | _ => cases hnet

/-- The blocks of the instances stand at the end of the system.  They are joined
only as the board declares if and only if the names of the board keep the nets of
its links apart; so they are if its instances have plain names. -/
theorem nets_isolated_iff_names_apart (o : Options) (b : Board) {project : Result}
    (h : (Backend.hardware o).run b = .ok project) :
    ∃ (system : DescriptorFile) (front blocks : List Block),
      project.findDescriptor? "system.mhs" = some system ∧
      system.descriptor.blocks = front ++ blocks ∧
      List.Forall₂ (fun inst block => block.instanceName = inst.name) b.instances blocks ∧
      (Isolated b (b.instances.zip blocks) ↔ b.NamesApart) ∧
      (b.PlainNames → Isolated b (b.instances.zip blocks)) := by
  obtain ⟨system, front, blocks, hsystem, hblocks, hwired⟩ := run_wiring h
  have hnets := nets_of_wired hwired
  refine ⟨system, front, blocks, hsystem, hblocks, ?_, ⟨?_, ?_⟩, ?_⟩
  · exact hwired.imp fun inst block h => h.1.instanceName
  · exact namesApart_of_isolated hnets hwired.length_eq
  · exact isolated_of_namesApart hnets
  · intro hplain
    exact isolated_of_namesApart hnets (namesApart_of_plainNames hplain)

end Isolation

/-- A ring of two instances, each with a stream of its own. -/
def ringBoard : Board where
  cores := [{ name := "node", ports := [
    { name := "next_out", direction := .output },
    { name := "prev_in", direction := .input },
    { name := "io", direction := .dual }] }]
  instances := [
    { name := "left", core := "node", bindings := [
      .link { port := "next_out", peer := "right", peerPort := "prev_in" },
      .cpu { port := "io", options := [.bitWidth 8, .hwQueue 4] }] },
    { name := "right", core := "node", bindings := [
      .link { port := "next_out", peer := "left", peerPort := "prev_in" },
      .cpu { port := "io" }] }]

theorem nets_isolated_iff_names_apart_ring :
    ∃ (project : Result) (system : DescriptorFile) (front blocks : List Block),
      (Backend.hardware {}).run ringBoard = .ok project ∧
      project.findDescriptor? "system.mhs" = some system ∧
      system.descriptor.blocks = front ++ blocks ∧
      Isolated ringBoard (ringBoard.instances.zip blocks) := by
  have hproject : ∃ project, (Backend.hardware {}).run ringBoard = .ok project := ⟨_, rfl⟩
  obtain ⟨project, hproject⟩ := hproject
  obtain ⟨system, front, blocks, hsystem, hblocks, -, -, hisolated⟩ :=
    nets_isolated_iff_names_apart {} ringBoard hproject
  exact ⟨project, system, front, blocks, hproject, hsystem, hblocks, hisolated (by decide +kernel)⟩

/-- Two links between four instances.  The port "c" of "a_b" sends on the same net
as the port "b_c" of "a". -/
def shortedBoard : Board where
  cores := [
    { name := "left", ports := [{ name := "c", direction := .output }] },
    { name := "right", ports := [{ name := "b_c", direction := .output }] },
    { name := "sink", ports := [{ name := "i", direction := .input }] }]
  instances := [
    { name := "a_b", core := "left", bindings := [
      .link { port := "c", peer := "x", peerPort := "i" }] },
    { name := "a", core := "right", bindings := [
      .link { port := "b_c", peer := "y", peerPort := "i" }] },
    { name := "x", core := "sink" },
    { name := "y", core := "sink" }]

/-- No link leads from the first pair of instances to the second. -/
theorem shortedBoard_linked {x y : Interface} (h : shortedBoard.Linked x y) :
    x.1 ∈ ["a_b", "x"] ↔ y.1 ∈ ["a_b", "x"] := by
  induction h with
  | rel x y h =>
    obtain ⟨inst, hinst, l, hl, rfl, rfl⟩ := h
    simp only [shortedBoard, List.mem_cons, List.not_mem_nil, or_false] at hinst
    rcases hinst with rfl | rfl | rfl | rfl
    · cases List.mem_singleton.1 hl
      decide
    · cases List.mem_singleton.1 hl
      decide
    · cases hl
    · cases hl
  | refl x => exact Iff.rfl
  | symm x y _ ih => exact ih.symm
  | trans x y z _ _ ih ih' => exact ih.trans ih'

theorem shorted_not_isolated :
    (shortedBoard.instances.map Instance.name).Nodup ∧
      (∀ core ∈ shortedBoard.cores, (core.ports.map Port.name).Nodup) ∧
      ∃ (project : Result) (system : DescriptorFile) (front blocks : List Block),
        (Backend.hardware {}).run shortedBoard = .ok project ∧
        project.findDescriptor? "system.mhs" = some system ∧
        system.descriptor.blocks = front ++ blocks ∧
        List.Forall₂ (fun inst block => block.instanceName = inst.name)
          shortedBoard.instances blocks ∧
        ¬ Isolated shortedBoard (shortedBoard.instances.zip blocks) := by
  refine ⟨by decide, by decide, ?_⟩
  have hproject : ∃ project, (Backend.hardware {}).run shortedBoard = .ok project := ⟨_, rfl⟩
  obtain ⟨project, hproject⟩ := hproject
  obtain ⟨system, front, blocks, hsystem, hblocks, hwired⟩ := run_wiring hproject
  refine ⟨project, system, front, blocks, hproject, hsystem, hblocks, ?_, ?_⟩
  · exact hwired.imp fun inst block h => h.1.instanceName
  · intro hisolated
    have hapart := namesApart_of_isolated (nets_of_wired hwired) hwired.length_eq hisolated
    have hlinked := hapart.links ("a_b", "c") ("a", "b_c") ("a_b", "c") ("a", "b_c")
      (by decide +kernel) (by decide +kernel) rfl
    have hpair : "a" ∈ ["a_b", "x"] := (shortedBoard_linked hlinked).1 (by decide)
    exact absurd hpair (by decide)

end Hardware

end Boardwright
