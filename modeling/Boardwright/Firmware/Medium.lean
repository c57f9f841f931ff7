import Boardwright.Firmware.State
import Boardwright.Text.Quoted

/-!
# The medium of the server

A driver for the medium is deployed.  The addresses of an Ethernet medium become constants, one per
byte; an address that does not have the right number of parts is reported.
-/

namespace Boardwright.Firmware

/-- Words for the parts of an address. -/
def ordinals : List String := ["first ", "second", "third ", "fourth", "fifth ", "sixth "]

/-- One constant for each part of an address. -/
def defineParts (name what mark : String) (parts : List String) (s : State) : State :=
  (parts.zip ordinals).zipIdx.foldl (fun s ((part, ordinal), i) =>
    s.define (name ++ "_" ++ toString (i + 1)) (mark ++ part)
      ("The " ++ ordinal ++ " 8 bits of the " ++ what ++ " of this board.") []) s

/-- A malformed part of the medium. -/
def malformedAddress (key what address : String) : Fault :=
  .invalidInput .traverse ["medium", key] ("malformed " ++ what ++ " " ++ Text.quote address)

/-- Defines the six bytes of a MAC address. -/
def defineMac (address : String) (s : State) : State × List Fault :=
  let parts := Text.split ':' address
  if parts.length = 6 then (defineParts "MAC" "MAC address" "0x" parts s, [])
  else (s, [malformedAddress "mac" "MAC address" address])

/-- Defines the four bytes of an internet address. -/
def defineIp (name key what address : String) (s : State) : State × List Fault :=
  let parts := Text.split '.' address
  if parts.length = 4 then (defineParts name what "" parts s, [])
  else (s, [malformedAddress key what address])

def defineOption (s : State) : MediumOption → State × List Fault
  | .mac address => defineMac address s
  | .ip address => defineIp "IP" "ip" "IP address" address s
  | .mask address => defineIp "MASK" "mask" "network mask" address s
  | .gateway address => defineIp "GW" "gw" "standard gateway" address s
  | .port number =>
    (s.define "PORT" (toString number.toInt) "The port for this boards TCP-connection." [], [])

def defineOptions (s : State) : List MediumOption → State × List Fault
  | [] => (s, [])
  | option :: options =>
    let (s, faults) := defineOption s option
    let (s, rest) := defineOptions s options
    (s, faults ++ rest)

def deployMedium (o : Options) (file : String) (s : State) : State :=
  { s with deploy := s.deploy.add (o.template file) (Path.join [o.src, "medium", "medium.c"]) }

def addEthernet (o : Options) (options : List MediumOption) (pos : Pos) (s : State) :
    Answer State :=
  let (s, faults) := defineOptions (deployMedium o "ethernet.c" s) options
  let blocks := [driver "emaclite" Platform.ethernetDriver Platform.ethernetDevice, networkLibrary]
  { state := { s with support := s.support.addBlocks blocks }
    reports := faults.map (·, pos) }

def addMedium (o : Options) (m : Medium) (s : State) : Answer State :=
  match m with
  | .none => { state := s }
  | .uart _ => { state := deployMedium o "uart.c" s }
  | .ethernet options pos => addEthernet o options pos s
  | .ethernetLite options pos => addEthernet o options pos s
  | .pcie _ => { state := s }

end Boardwright.Firmware
