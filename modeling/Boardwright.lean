import Boardwright.Text.Template
import Boardwright.Json
import Boardwright.Path
import Boardwright.Board.Settings
import Boardwright.Counters
import Boardwright.Server.Loop
import Boardwright.Toml.Parser
import Boardwright.Board.Decode
import Boardwright.Collector
import Boardwright.Source.Encode
import Boardwright.Source.Outline
import Boardwright.Catalog
import Boardwright.Backend
import Boardwright.Scope
import Boardwright.Firmware
import Boardwright.Hardware
import Boardwright.Host
import Boardwright.Artifact
import Boardwright.Generate
import Boardwright.Board.Load
import Boardwright.Output
import Boardwright.Configuration.Load
import Boardwright.Command
import Boardwright.Inspector
import Boardwright.Main
import Boardwright.Proofs.StreamAgreement
import Boardwright.Proofs.PollNotices
import Boardwright.Proofs.ReadCredit
import Boardwright.Proofs.FirmwareTables
import Boardwright.Proofs.SupportPackage
import Boardwright.Proofs.HardwareNets
import Boardwright.Proofs.Acceptance
import Boardwright.Proofs.HostClasses
import Boardwright.Proofs.CutWalk
import Boardwright.Proofs.Decoding
import Boardwright.Proofs.FailedRuns
import Boardwright.Proofs.Blame
import Boardwright.Proofs.Attribution
import Boardwright.Proofs.Declarations
import Boardwright.Proofs.Schedules
import Boardwright.Proofs.FileTrees
import Boardwright.Proofs.Jobs
import Boardwright.Proofs.Staging
import Boardwright.Proofs.Publication
import Boardwright.Proofs.FailedWrites
import Boardwright.Proofs.Writes
import Boardwright.Proofs.AllocatorRuns
import Boardwright.Proofs.HostDevices
import Boardwright.Proofs.HardwareInterrupts
import Boardwright.Proofs.AdapterChains
import Boardwright.Proofs.QueueRefinement
import Boardwright.Proofs.WorkConservation
import Boardwright.Proofs.HardwareInstances
import Boardwright.Proofs.QueueCapacities
import Boardwright.Proofs.WordArithmetic
import Boardwright.Proofs.MediumAddresses
import Boardwright.Proofs.DeviceDirections
import Boardwright.Proofs.FatalFaults
import Boardwright.Proofs.HostScopes
import Boardwright.Proofs.HostNames
import Boardwright.Proofs.InspectorRuns
import Boardwright.Proofs.PortDirections
import Boardwright.Proofs.Requirements
import Boardwright.Proofs.DescriptorText
import Boardwright.Proofs.Fragments
import Boardwright.Proofs.Manifests
