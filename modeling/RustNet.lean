import RustNet.Std.Net
import RustNet.Std.BTreeMap
import RustNet.Std.HashMap
import RustNet.Std.Text
import RustNet.Std.NetParse
import RustNet.Std.Display
import RustNet.Network.Reassembler
import RustNet.Network.Types
import RustNet.Network.Merge
import RustNet.Network.Monitor
import RustNet.Network.Linux
import RustNet.Network.GetConnections
import RustNet.Network.NetworkMonitor
import RustNet.Network.ProcessLookup
import RustNet.Spec.Coverage
import RustNet.Spec.ReassemblerInvariant
import RustNet.Spec.Reassembly
import RustNet.Spec.MergeCorrect
import RustNet.Spec.CaptureCorrect
import RustNet.Spec.ConnectionList
import RustNet.Spec.MonitorRuns
import RustNet.Spec.AddrRoundTrip
import RustNet.Spec.SocketTables
import RustNet.Spec.ProcessLookup
import RustNet.App
import RustNet.Spec.AppInvariant
import RustNet.Spec.AppOrder
import RustNet.Spec.AppView
import RustNet.Spec.FlowKeys
