import Imlp.Codec.BitErrors
import Imlp.Codec.Bursts
import Imlp.Codec.Grammar
import Imlp.Codec.Hex
import Imlp.Server.Checked
import Imlp.Codec.Ieee
import Imlp.Server.Contract
import Imlp.Server.History
import Imlp.Server.Isolation
import Imlp.Server.Delivery
import Imlp.Server.Observation
import Imlp.Client
import Imlp.Client.Calls
import Imlp.Client.Acceptance
import Imlp.Client.Discipline
import Imlp.Client.Correlation
import Imlp.Client.Metrics
import Imlp.Client.Simulation
import Imlp.System
import Imlp.System.Refinement
import Imlp.System.Faultless
import Imlp.System.FaultScript
import Imlp.System.Trace
import Imlp.System.Network
import Imlp.System.Audit
import Imlp.System.Quiet
import Imlp.System.WriteScript
import Imlp.System.Observation
import Imlp.Cli
import Imlp.Cli.Numerals
import Imlp.Cli.Inspect
import Imlp.Cli.Commands
import Imlp.Cli.ExitCodes
import Imlp.Cli.Printout
import Imlp.Benchmark
