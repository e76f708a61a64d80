import RustNet.Network.GetConnections

/-!
# The monitor over time

`NetworkMonitor` as the UI drives it: every call of `get_connections` first runs
`process_packets`, which reads the capture at most once every 100 ms and files the frames of one
poll into the map of captured flows, and then builds the list from the platform snapshot and
that map (`Monitor.getConnections`). The map is the only state that lives from one call to the
next, with the instant of the last poll.

`SystemTime` and `Instant` are one clock here, read as nanoseconds. What a call reads from the
outside is a `Tick`: the clock, the frames the poll gets (each with the clock reading at which it
is handled), the outputs of `ss` and `netstat`, the interface address and the process lookup.
Opening the capture device is not modelled: `new` is the monitor once it has succeeded.
-/

namespace RustNet.Network.Monitor

open Linux

/-- `NetworkMonitor`, with the fields `get_connections` reads and writes. -/
structure NetworkMonitor where
  connections : ConnMap
  collectProcessInfo : Bool
  filterLocalhost : Bool
  lastPacketCheck : Nat

/-- What one call of `get_connections` reads from the outside. -/
structure Tick where
  now : Nat
  frames : List (Nat × List UInt8)
  ss : CommandOutput
  netstat : CommandOutput
  localIp : IpAddr
  lookup : Connection → Option Process

namespace NetworkMonitor

/-- One millisecond of the clock. -/
def millisecond : Nat := 1000000

/-- `NetworkMonitor::new` after the capture is open: an empty map, and a last poll 200 ms ago,
so that the first call polls. `Instant - Duration` panics before the clock has run 200 ms. -/
def new (filterLocalhost : Bool) (now : Nat) : Option NetworkMonitor :=
  if now < 200 * millisecond then none
  else some ⟨.empty, false, filterLocalhost, now - 200 * millisecond⟩

/-- `process_packets`: nothing within 100 ms of the last poll; otherwise at most 100 frames of the
capture, stopping at the first panic. -/
def processPackets (self : NetworkMonitor) (now : Nat) (frames : List (Nat × List UInt8)) :
    Option NetworkMonitor :=
  if now - self.lastPacketCheck < 100 * millisecond then some self
  else
    (processFrames (frames.take 100) self.connections).map fun connections =>
      { self with lastPacketCheck := now, connections := connections }

/-- `get_connections`: `process_packets`, then the list built from the snapshot and the map. -/
def getConnections (self : NetworkMonitor) (tick : Tick) :
    Option (NetworkMonitor × List Connection) :=
  (self.processPackets tick.now tick.frames).map fun self =>
    (self, Monitor.getConnections tick.now self.connections tick.ss tick.netstat tick.localIp
      self.collectProcessInfo self.filterLocalhost tick.lookup)

/-- A run of calls of `get_connections`, stopping at the first panic. -/
def run : List Tick → NetworkMonitor → Option NetworkMonitor
  | [], self => some self
  | tick :: ticks, self => (self.getConnections tick).bind fun r => r.1.run ticks

end NetworkMonitor

end RustNet.Network.Monitor
