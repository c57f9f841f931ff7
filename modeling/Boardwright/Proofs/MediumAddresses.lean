import Boardwright.Proofs.Attribution
import Boardwright.Proofs.Paths

/-!
# Addresses of the medium

An address of an Ethernet medium is cut at its separators, and each part becomes
a constant of the server.  `AddressFormat` is what the sorts of addresses differ
in, so that everything is said once for all of them.

* `Splits` relates an address to its parts, and `splits_iff` says that there is at
  most one way to cut it.
* `Written` is what an address of the format should look like: every part stands for
  a byte.  `isConstant_iff_written` says that the constants are bytes if and only if
  the address is written so.
* `medium_reported`: an address that cannot be cut is among the faults of a walk,
  whatever happens later.

Only the number of parts is looked at.  So a server can be made from an address that
is not `Written`, with constants that are no numbers; `letteredBoard` has one.
-/

namespace Boardwright

namespace Firmware

/-- A digit of a hexadecimal number, in either case. -/
def isHexDigit (c : Char) : Bool := "0123456789abcdefABCDEF".toList.contains c

/-- One or two hexadecimal digits. -/
def IsHexByte (part : String) : Prop :=
  (part.length = 1 ∨ part.length = 2) ∧ part.toList.all isHexDigit = true

instance : DecidablePred IsHexByte := fun _ => inferInstanceAs (Decidable (_ ∧ _ = true))

/-- A decimal numeral of at most 255. -/
def IsOctet (part : String) : Prop := ∃ n < 256, part = toString n

theorem IsHexByte.separator {part : String} (h : IsHexByte part) : ':' ∉ part.toList :=
  fun hmem => absurd (List.all_eq_true.1 h.2 _ hmem) (by decide)

theorem IsOctet.separator {part : String} (h : IsOctet part) : '.' ∉ part.toList := by
  obtain ⟨n, -, rfl⟩ := h
  exact Text.not_mem_number n (by decide)

/-- A way to write addresses: a number of parts with separators in between, one part for
each byte. -/
structure AddressFormat where
  /-- What the constants are named after. -/
  name : String
  /-- The key of the option. -/
  key : String
  what : String
  /-- What stands in front of a part in its constant. -/
  mark : String
  separator : Char
  count : Nat
  /-- The parts that stand for a byte. -/
  IsByte : String → Prop
  count_pos : 0 < count
  count_le : count ≤ ordinals.length
  clean : ∀ part, IsByte part → separator ∉ part.toList

namespace AddressFormat

def mac : AddressFormat where
  name := "MAC"
  key := "mac"
  what := "MAC address"
  mark := "0x"
  separator := ':'
  count := 6
  IsByte := IsHexByte
  count_pos := by decide
  count_le := by decide
  clean _ := IsHexByte.separator

/-- An address of the internet protocol. -/
def internet (name key what : String) : AddressFormat where
  name
  key
  what
  mark := ""
  separator := '.'
  count := 4
  IsByte := IsOctet
  count_pos := by decide
  count_le := by decide
  clean _ := IsOctet.separator

variable (format : AddressFormat) {address : String} {parts : List String}

/-- The parts between the separators of an address, if there are as many as there should
be. -/
structure Splits (address : String) (parts : List String) : Prop where
  length : parts.length = format.count
  clean : ∀ part ∈ parts, format.separator ∉ part.toList
  joined : Text.join (String.singleton format.separator) parts = address

/-- The address is made of bytes. -/
def Written (address : String) : Prop :=
  ∃ bytes, bytes.length = format.count ∧ (∀ byte ∈ bytes, format.IsByte byte) ∧
    Text.join (String.singleton format.separator) bytes = address

/-- The names and values of the constants for some parts. -/
def constants (parts : List String) : List (String × String) :=
  parts.mapIdx fun i part => (format.name ++ "_" ++ toString (i + 1), format.mark ++ part)

/-- The value of a constant stands for a byte. -/
def IsConstant (value : String) : Prop := ∃ byte, value = format.mark ++ byte ∧ format.IsByte byte

/-! ## Parts -/

/-- There is one way to cut an address. -/
theorem splits_iff :
    format.Splits address parts ↔
      Text.split format.separator address = parts ∧ parts.length = format.count := by
  constructor
  · intro h
    have hsome : parts ≠ [] := by
      rintro rfl
      exact absurd h.length.symm format.count_pos.ne'
    refine ⟨?_, h.length⟩
    rw [← h.joined, Text.split_join_singleton hsome h.clean]
  · rintro ⟨rfl, hlength⟩
    exact ⟨hlength, fun part hpart => (Text.mem_split hpart).1, Text.join_split _ _⟩

theorem splits_split_iff :
    (∃ parts, format.Splits address parts) ↔
      (Text.split format.separator address).length = format.count := by
  simp only [splits_iff, exists_eq_left']

variable {format}

theorem Splits.unique {parts' : List String} (h : format.Splits address parts)
    (h' : format.Splits address parts') : parts = parts' := by
  rw [← (format.splits_iff.1 h).1, (format.splits_iff.1 h').1]

theorem isConstant_mark (part : String) :
    format.IsConstant (format.mark ++ part) ↔ format.IsByte part := by
  constructor
  · rintro ⟨byte, heq, hbyte⟩
    obtain rfl : part = byte := by simpa using heq
    exact hbyte
  · exact fun h => ⟨part, rfl, h⟩

theorem forall_mem_constants {p : String → Prop} :
    (∀ constant ∈ format.constants parts, p constant.2) ↔
      ∀ part ∈ parts, p (format.mark ++ part) := by
  constructor
  · intro h part hpart
    obtain ⟨i, hi, rfl⟩ := List.getElem_of_mem hpart
    exact h _ (List.mem_mapIdx.2 ⟨i, hi, rfl⟩)
  · intro h constant hconstant
    obtain ⟨i, hi, rfl⟩ := List.mem_mapIdx.1 hconstant
    exact h _ (List.getElem_mem hi)

/-- The constants of an address are bytes if and only if the address is made of bytes. -/
theorem isConstant_iff_written (h : format.Splits address parts) :
    (∀ constant ∈ format.constants parts, format.IsConstant constant.2) ↔
      format.Written address := by
  rw [forall_mem_constants]
  simp only [isConstant_mark]
  constructor
  · exact fun hbytes => ⟨parts, h.length, hbytes, h.joined⟩
  · rintro ⟨bytes, hlength, hbytes, hjoined⟩
    -- Bytes have no separator in them, so they are the parts.
    have hsplits : format.Splits address bytes :=
      ⟨hlength, fun byte hbyte => format.clean byte (hbytes byte hbyte), hjoined⟩
    rw [h.unique hsplits]
    exact hbytes

end AddressFormat

/-! ## Options -/

/-- The address that an option gives, and its format. -/
def address? : MediumOption → Option (AddressFormat × String)
  | .mac address => some (.mac, address)
  | .ip address => some (.internet "IP" "ip" "IP address", address)
  | .mask address => some (.internet "MASK" "mask" "network mask", address)
  | .gateway address => some (.internet "GW" "gw" "standard gateway", address)
  | .port _ => none

theorem partConstants_pairs (name what mark : String) {parts : List String}
    (hlength : parts.length ≤ ordinals.length) :
    (partConstants name what mark parts).map (fun d => (d.name, d.value)) =
      parts.mapIdx fun i part => (name ++ "_" ++ toString (i + 1), mark ++ part) := by
  unfold partConstants
  refine List.ext_getElem ?_ fun i _ _ => ?_
  · simp only [List.length_map, List.length_mapIdx, List.length_zip]
    exact Nat.min_eq_left hlength
  · simp

section Option

variable {option : MediumOption} {format : AddressFormat} {address : String}
  (h : address? option = some (format, address))

include h

theorem wellFormed_iff_splits : WellFormed option ↔ ∃ parts, format.Splits address parts := by
  rw [format.splits_split_iff]
  cases option with
  | port number => cases h
  | _ =>
    cases h
    rfl

theorem addressFaults_of_not_splits (hsplits : ¬ ∃ parts, format.Splits address parts) :
    addressFaults option = [malformedAddress format.key format.what address] := by
  rw [format.splits_split_iff] at hsplits
  cases option with
  | port number => cases h
  | _ =>
    cases h
    exact if_neg hsplits

theorem optionConstants_of_splits {parts : List String} (hsplits : format.Splits address parts) :
    (optionConstants option).map (fun d => (d.name, d.value)) = format.constants parts := by
  obtain ⟨rfl, hlength⟩ := format.splits_iff.1 hsplits
  have hoption : optionConstants option =
      partConstants format.name format.what format.mark (Text.split format.separator address) := by
    cases option with
    | port number => cases h
    | _ =>
      cases h
      exact if_pos hlength
  rw [hoption]
  exact partConstants_pairs _ _ _ (hlength.le.trans format.count_le)

end Option

/-- The constants of an address stand in a row. -/
theorem constants_infix {b : Board} {m : Source.Module} {c : Counters} {option : MediumOption}
    {format : AddressFormat} {address : String} {parts : List String}
    (h : m.definitions = defaultConstants b ++ mediumConstants b.medium ++ countConstants c)
    (hoption : option ∈ b.medium.options) (haddress : address? option = some (format, address))
    (hsplits : format.Splits address parts) :
    format.constants parts <:+: m.definitions.map (fun d => (d.name, d.value)) := by
  have hmedium : optionConstants option <:+: mediumConstants b.medium := by
    rw [mediumConstants_eq, List.flatMap]
    exact List.infix_of_mem_flatten (List.mem_map_of_mem hoption)
  rw [← optionConstants_of_splits haddress hsplits, h]
  exact (hmedium.trans (List.infix_append _ _ _)).map _

/-! ## Reports -/

/-- The fault of an address is collected when the medium is called for, and stays. -/
theorem medium_reported (o : Options) (b : Board) {option : MediumOption} {f : Fault}
    (hoption : option ∈ b.medium.options) (hf : f ∈ addressFaults option) :
    f.attributed name b.mediumPos ∈ ((Backend.firmware o).walk b).collected := by
  -- The medium comes second.
  obtain ⟨rest, hsteps⟩ : ∃ rest, b.steps = ⟨{}, b.pos, .call .start⟩ ::
      ⟨{}, b.mediumPos, .call (.medium b.medium)⟩ :: rest := ⟨_, rfl⟩
  generalize hp : (visitor o).perform name b { state := start o } ⟨{}, b.pos, .call .start⟩ = p
  have hstart : p.abort = none := by
    rw [← hp, Visitor.perform_call]
    rfl
  have hmedium : ((visitor o).perform name b p
      ⟨{}, b.mediumPos, .call (.medium b.medium)⟩).abort = none := by
    rw [Visitor.perform_call]
    exact Option.map_eq_none_iff.2 (addMedium_stop o b.medium p.state)
  have hwalk : (Backend.firmware o).walk b = (visitor o).follow name b rest
      ((visitor o).perform name b p ⟨{}, b.mediumPos, .call (.medium b.medium)⟩) := by
    show (visitor o).follow name b b.steps { state := start o } = _
    rw [hsteps, Visitor.follow_cons_of_none (hp ▸ hstart), hp, Visitor.follow_cons_of_none hmedium]
  rw [hwalk]
  refine (Visitor.follow_collected _ _ _ _ _).subset ?_
  rw [Visitor.perform_call]
  refine List.mem_append_right _ ?_
  show _ ∈ Visitor.entriesOf name (addMedium o b.medium p.state).reports
  rw [addMedium_entries o b.medium b.pos]
  exact List.mem_map_of_mem (List.mem_flatMap.2 ⟨option, hoption, hf⟩)

/-- Every address of a server that was made has been cut into its parts, which are defined
one after the other and make up the address when they are joined.  They are bytes if and
only if the address is made of bytes.  An address that has another number of parts is
reported at the place of its medium, and the run fails. -/
theorem addresses_defined_or_reported (o : Options) (b : Board) (option : MediumOption)
    (hoption : option ∈ b.medium.options) (format : AddressFormat) (address : String)
    (haddress : address? option = some (format, address)) :
    (∀ server, (Backend.firmware o).run b = .ok server →
      ∃ constants parts, server.findModule? "constants" = some constants ∧
        format.Splits address parts ∧
        format.constants parts <:+: constants.definitions.map (fun d => (d.name, d.value)) ∧
        ((∀ constant ∈ format.constants parts, format.IsConstant constant.2) ↔
          format.Written address)) ∧
    ((¬ ∃ parts, format.Splits address parts) →
      ∃ f, (Backend.firmware o).run b = .error f ∧
        (malformedAddress format.key format.what address).attributed name b.mediumPos ∈
          ((Backend.firmware o).walk b).collected ∧
        (((Backend.firmware o).walk b).abort = none →
          (malformedAddress format.key format.what address).attributed name b.mediumPos ∈
            f.flatten)) := by
  have hwell : ∀ server, (Backend.firmware o).run b = .ok server → WellFormed option := by
    intro server h
    obtain ⟨calls, hinside, -⟩ := b.inside_medium
    obtain ⟨s, hquiet⟩ := Backend.run_accepts (visitor_countsLast o) h
      (show .medium b.medium ∈ b.inside by rw [hinside]; exact List.mem_cons_self)
    exact (addMedium_quiet_iff o b.medium s).1 hquiet option hoption
  constructor
  · intro server h
    obtain ⟨parts, hsplits⟩ := (wellFormed_iff_splits haddress).1 (hwell server h)
    obtain ⟨s, constants, scheduler, -, hmodules, hname, hdefinitions, -⟩ := run_modules h
    refine ⟨constants, parts, ?_, hsplits, ?_, format.isConstant_iff_written hsplits⟩
    · simp [Result.findModule?, hmodules, hname]
    · exact constants_infix hdefinitions hoption haddress hsplits
  · intro hsplits
    have hfault : malformedAddress format.key format.what address ∈ addressFaults option := by
      rw [addressFaults_of_not_splits haddress hsplits]
      exact List.mem_singleton_self _
    have hreported := medium_reported o b hoption hfault
    cases hrun : (Backend.firmware o).run b with
    | ok server => exact absurd ((wellFormed_iff_splits haddress).1 (hwell server hrun)) hsplits
    | error f =>
      refine ⟨f, rfl, hreported, fun hthrough => ?_⟩
      rcases Backend.run_error hrun with hstopped | ⟨-, -, rfl⟩
      · rw [hthrough] at hstopped
        cases hstopped
      · rw [Fault.flatten_run]
        exact List.mem_flatMap.2 ⟨_, hreported, List.mem_singleton_self _⟩

/-- A board on a network, with an address of each sort. -/
def networkBoard : Board where
  medium := .ethernet [.mac "00:0a:35:1:2:FF", .ip "192.168.1.10", .mask "255.255.255.0",
    .gateway "192.168.1.1", .port 8844] {}

/-- A board whose address lacks a part. -/
def shortBoard : Board where
  medium := .ethernetLite [.ip "192.168.1"] {}

/-- A board whose address has letters for digits. -/
def letteredBoard : Board where
  medium := .ethernet [.mac "zz:00:00:00:00:01"] {}

theorem addresses_defined_or_reported_network :
    (∃ server constants, (Backend.firmware {}).run networkBoard = .ok server ∧
      server.findModule? "constants" = some constants ∧
      ∃ parts, AddressFormat.mac.Splits "00:0a:35:1:2:FF" parts ∧
        AddressFormat.mac.constants parts <:+:
          constants.definitions.map (fun d => (d.name, d.value)) ∧
        ∀ constant ∈ AddressFormat.mac.constants parts,
          AddressFormat.mac.IsConstant constant.2) ∧
    ∃ f, (Backend.firmware {}).run shortBoard = .error f ∧
      (malformedAddress "ip" "IP address" "192.168.1").attributed name {} ∈ f.flatten := by
  constructor
  · obtain ⟨hok, -⟩ := addresses_defined_or_reported {} networkBoard (.mac "00:0a:35:1:2:FF")
      (by decide) .mac "00:0a:35:1:2:FF" rfl
    have hrun : ∃ server, (Backend.firmware {}).run networkBoard = .ok server := ⟨_, rfl⟩
    obtain ⟨server, hserver⟩ := hrun
    obtain ⟨constants, parts, hconstants, hsplits, hinfix, hbytes⟩ := hok server hserver
    refine ⟨server, constants, hserver, hconstants, parts, hsplits, hinfix, hbytes.2 ?_⟩
    have hbyte : ∀ byte ∈ ["00", "0a", "35", "1", "2", "FF"], IsHexByte byte := by decide
    exact ⟨_, rfl, hbyte, by decide⟩
  · obtain ⟨-, herror⟩ := addresses_defined_or_reported {} shortBoard (.ip "192.168.1")
      (by decide) (.internet "IP" "ip" "IP address") "192.168.1" rfl
    obtain ⟨f, hrun, -, hreported⟩ := herror (by rw [AddressFormat.splits_split_iff]; decide)
    exact ⟨f, hrun, hreported rfl⟩

/-- A server is made from an address that is not made of bytes. -/
theorem lettered_address_defined :
    ∃ server constants, (Backend.firmware {}).run letteredBoard = .ok server ∧
      server.findModule? "constants" = some constants ∧
      ("MAC_1", "0xzz") ∈ constants.definitions.map (fun d => (d.name, d.value)) ∧
      ¬ AddressFormat.mac.IsConstant "0xzz" ∧
      ¬ AddressFormat.mac.Written "zz:00:00:00:00:01" := by
  have hletters : ¬ AddressFormat.mac.IsConstant "0xzz" :=
    mt (AddressFormat.isConstant_mark "zz").1 (show ¬ IsHexByte "zz" by decide)
  have hsplits : AddressFormat.mac.Splits "zz:00:00:00:00:01"
      ["zz", "00", "00", "00", "00", "01"] :=
    (AddressFormat.splits_iff _).2 (by decide)
  refine ⟨_, _, rfl, rfl, by decide +kernel, hletters, fun hwritten => hletters ?_⟩
  exact (AddressFormat.isConstant_iff_written hsplits).2 hwritten ("MAC_1", "0xzz") (by decide)

end Firmware

end Boardwright
