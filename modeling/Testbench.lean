import Testbench.Main
import Testbench.Sample.Folder
import Testbench.Sample.Output
import Testbench.Proofs.Json.Shape
import Testbench.Proofs.Cache.Table
import Testbench.Proofs.Cache.Coherence
import Testbench.Proofs.Parsing.Activity
import Testbench.Proofs.Parsing.Freshness
import Testbench.Proofs.Workspace.Restart
import Testbench.Proofs.Files.Walk
import Testbench.Proofs.Parsing.Address
import Testbench.Proofs.Cache.Forgetting
import Testbench.Proofs.Cache.Overlap
import Testbench.Proofs.Environment.Suppression
import Testbench.Proofs.Parsing.Sharing
import Testbench.Proofs.Workspace.Disposal
import Testbench.Proofs.Environment.Creation
import Testbench.Proofs.Workspace.Roots
import Testbench.Proofs.Workspace.Spellings
import Testbench.Proofs.Environment.Knowing
import Testbench.Proofs.Listing.Browsing
import Testbench.Proofs.Lens.Sessions
import Testbench.Proofs.Dispatch.Sending
import Testbench.Proofs.Outline.Format
import Testbench.Proofs.Cache.Loading
import Testbench.Proofs.TerminalLine
import Testbench.Proofs.Parsing.Failure
import Testbench.Proofs.Listing.Single
import Testbench.Proofs.Dispatch.Naming
import Testbench.Proofs.Dispatch.Cursor
import Testbench.Proofs.Environment.Adoption
import Testbench.Proofs.Environment.Placement
import Testbench.Proofs.Environment.Failure
import Testbench.Proofs.Environment.Consent
import Testbench.Proofs.Environment.Requirements
import Testbench.Proofs.CommandLine.Printout
import Testbench.Proofs.CommandLine.Target
import Testbench.Proofs.Host.Delivery
import Testbench.Proofs.Environment.Checking
import Testbench.Proofs.Parsing.Output
import Testbench.Proofs.Invocation
import Testbench.Proofs.Settings.Expanding
import Testbench.Proofs.Files.Upward
import Testbench.Proofs.Listing.Idle
