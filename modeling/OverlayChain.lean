import OverlayChain.Main
import OverlayChain.Memory.Bound
import OverlayChain.Session.Basic
import OverlayChain.Proofs.Loader.Containment
import OverlayChain.Proofs.FileSystem
import OverlayChain.Proofs.Clone.Options
import OverlayChain.Proofs.Loader.Cycle
import OverlayChain.Proofs.Loader.Frame
import OverlayChain.Proofs.Loader.Length
import OverlayChain.Proofs.Session.Frame
import OverlayChain.Proofs.Session.Release
import OverlayChain.Proofs.Memory.Built
import OverlayChain.Proofs.Memory.Children
import OverlayChain.Proofs.Memory.History
import OverlayChain.Proofs.Memory.Separation
import OverlayChain.Proofs.Overlay.Frame
import OverlayChain.Proofs.Overlay.Rules
import OverlayChain.Proofs.Overlay.Success
import OverlayChain.Proofs.Overlay.Noninterference
import OverlayChain.Proofs.Overlay.Reading
import OverlayChain.Proofs.Overlay.Termination
import OverlayChain.Proofs.Overlay.Reflection
import OverlayChain.Proofs.Overlay.Walk
import OverlayChain.Proofs.Remote.Query
import OverlayChain.Proofs.Remote.Spelling
import OverlayChain.Proofs.Url.Server
import OverlayChain.Proofs.Remote.Segments
import OverlayChain.Proofs.Remote.Server
import OverlayChain.Proofs.Memory.Roots
import OverlayChain.Proofs.Overlay.Relocation
import OverlayChain.Proofs.Session.Twins
import OverlayChain.Proofs.Path.Normal
import OverlayChain.Proofs.Disk.Canonical
import OverlayChain.Proofs.Clone.Ending
import OverlayChain.Proofs.Remote.Acceptance
import OverlayChain.Proofs.Text.Pattern
import OverlayChain.Proofs.Validator
import OverlayChain.Proofs.Remote.Offsets
import OverlayChain.Proofs.Remote.Decomposition
