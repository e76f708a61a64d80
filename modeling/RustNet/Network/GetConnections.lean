import Mathlib.Data.List.Sort
import RustNet.Network.Linux

/-!
# The monitor's connection list

`NetworkMonitor::get_connections` of `network/mod.rs`: the platform list, then each active
captured flow not listed yet, optionally the process lookup, sorted by last activity, newest
first, and optionally without the connections between two loopback addresses.

The capture map is the one `process_packets` leaves (it never returns an error; its panics are
the subject of `CaptureCorrect`). Its entries are visited in the map's iteration order, which is
the order of the model's entry list. The process lookup is an argument.
-/

namespace RustNet.Network.Monitor

open Linux

/-- The flow identity `get_connections` compares: protocol and both addresses. -/
structure FlowIdentity where
  protocol : Protocol
  localAddr : SocketAddr
  remoteAddr : SocketAddr
deriving DecidableEq, Repr

/-- The flow identity of a connection. -/
def Connection.identity (c : Connection) : FlowIdentity :=
  ⟨c.protocol, c.localAddr, c.remoteAddr⟩

/-- The capture loop: append `conn` if it is active and no listed connection has its protocol
and addresses. -/
def addCaptured (now : Nat) (connections : List Connection) (conn : Connection) :
    List Connection :=
  let listed := connections.any fun c =>
    c.protocol == conn.protocol && c.localAddr == conn.localAddr && c.remoteAddr == conn.remoteAddr
  if !listed && conn.isActive now then connections ++ [conn] else connections

/-- The process lookup of `get_connections` for a connection without a pid. -/
def withProcess (lookup : Connection → Option Process) (conn : Connection) : Connection :=
  if conn.pid.isNone then
    match lookup conn with
    | some process => { conn with pid := some process.pid, processName := some process.name }
    | none => conn
  else conn

/-- `get_connections`, after `process_packets`. -/
def getConnections (now : Nat) (capture : ConnMap) (ss netstat : CommandOutput)
    (localIp : IpAddr) (collectProcessInfo filterLocalhost : Bool)
    (lookup : Connection → Option Process) : List Connection :=
  let connections := getPlatformConnections now ss netstat localIp
  let connections := capture.toList.foldl (fun cs entry => addCaptured now cs entry.2) connections
  let connections := if collectProcessInfo then connections.map (withProcess lookup)
    else connections
  let connections := connections.insertionSort fun a b => b.lastActivity ≤ a.lastActivity
  if filterLocalhost then
    connections.filter fun conn => !(conn.localAddr.ip.isLoopback && conn.remoteAddr.ip.isLoopback)
  else connections

end RustNet.Network.Monitor
