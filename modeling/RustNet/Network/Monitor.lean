import RustNet.Std.Display
import RustNet.Std.HashMap

/-!
# The capture side of the network monitor

The model of `network/mod.rs` up to packet capture: the monitor's `Connection` record, its
map of captured flows keyed by the formatted flow key, and `process_single_packet`, the closure
that `process_packets` applies to each captured frame.

A frame is a list of bytes. The closure's slices and indexing panic out of bounds; they are
modelled by `sliceFrom` and `xs[i]?`, and a panic is `none`. `parseFrame` is the closure's
header walk (up to the TCP flags byte), `processSinglePacket` its map update. The closure reads
the clock for `last_activity`; the reading is the `now` argument.
-/

namespace RustNet.Network.Monitor

/-- `Protocol` of `network/mod.rs`. -/
inductive Protocol where
  | tcp | udp
deriving DecidableEq, Repr

/-- `ConnectionState`. -/
inductive ConnectionState where
  | established | synSent | synReceived | finWait1 | finWait2 | timeWait | closeWait | lastAck
  | listen | closing | reset | unknown
deriving DecidableEq, Repr

/-- `{:?}` of `Protocol`: the variant's name. -/
def Protocol.debug : Protocol → List Char
  | .tcp => "TCP".toList
  | .udp => "UDP".toList

/-- `{:?}` of `ConnectionState`: the variant's name. -/
def ConnectionState.debug : ConnectionState → List Char
  | .established => "Established".toList
  | .synSent => "SynSent".toList
  | .synReceived => "SynReceived".toList
  | .finWait1 => "FinWait1".toList
  | .finWait2 => "FinWait2".toList
  | .timeWait => "TimeWait".toList
  | .closeWait => "CloseWait".toList
  | .lastAck => "LastAck".toList
  | .listen => "Listen".toList
  | .closing => "Closing".toList
  | .reset => "Reset".toList
  | .unknown => "Unknown".toList

/-- `Connection` of `network/mod.rs`; counters are exact below `2^64`, times are nanoseconds. -/
structure Connection where
  protocol : Protocol
  localAddr : SocketAddr
  remoteAddr : SocketAddr
  state : ConnectionState
  pid : Option UInt32
  processName : Option String
  bytesSent : Nat
  bytesReceived : Nat
  packetsSent : Nat
  packetsReceived : Nat
  createdAt : Nat
  lastActivity : Nat
deriving DecidableEq, Repr

/-- `Connection::new`, at the clock reading `now`. -/
def Connection.new (protocol : Protocol) (localAddr remoteAddr : SocketAddr)
    (state : ConnectionState) (now : Nat) : Connection :=
  ⟨protocol, localAddr, remoteAddr, state, none, none, 0, 0, 0, 0, now, now⟩

/-- `Connection::idle_time`: the time since the last activity, zero if the clock is behind. -/
def Connection.idleTime (c : Connection) (now : Nat) : Nat := now - c.lastActivity

/-- `Connection::is_active`: idle for less than 60 seconds. -/
def Connection.isActive (c : Connection) (now : Nat) : Bool := c.idleTime now < 60 * 1000000000

/-- `Process`, with the fields the Linux lookups fill in. -/
structure Process where
  pid : UInt32
  name : String
deriving DecidableEq, Repr

/-- The capture map's key `format!("{:?}:{}-{:?}:{}", protocol, local_addr, protocol,
remote_addr)`, by the values it prints. -/
structure ConnKey where
  protocol : Protocol
  localAddr : SocketAddr
  remoteAddr : SocketAddr
deriving DecidableEq, Repr

/-- The key of a flow; `Display` drops the flow label of a V6 address. -/
def connKey (protocol : Protocol) (localAddr remoteAddr : SocketAddr) : ConnKey :=
  ⟨protocol, localAddr.shown, remoteAddr.shown⟩

/-- The key `process_packets` formats for a flow, `format!("{:?}:{}-{:?}:{}", Protocol::TCP,
local_addr, Protocol::TCP, remote_addr)` and its UDP twin. -/
def flowKeyText (protocol : Protocol) (localAddr remoteAddr : SocketAddr) : List Char :=
  flowKeyFormat protocol.debug localAddr remoteAddr

/-- The key a record's own fields format to. -/
def Connection.flowKey (c : Connection) : ConnKey := connKey c.protocol c.localAddr c.remoteAddr

@[simp] theorem Connection.flowKey_new (protocol : Protocol) (localAddr remoteAddr : SocketAddr)
    (state : ConnectionState) (now : Nat) :
    (Connection.new protocol localAddr remoteAddr state now).flowKey =
      connKey protocol localAddr remoteAddr := rfl

/-- The monitor's map of captured flows. -/
abbrev ConnMap := HashMap ConnKey Connection

/-! ## `process_single_packet` -/

/-- `&xs[start..]`, which panics (`none`) when `start` is past the end. -/
def sliceFrom (xs : List UInt8) (start : Nat) : Option (List UInt8) :=
  if start ≤ xs.length then some (xs.drop start) else none

/-- The direction heuristic: a source in `10/8`, `172.16/12`, `192.168/16` or `127/8` is local. -/
def isOutgoingSource : IpAddr → Bool
  | .v4 ip => ip.a == 10 || (ip.a == 172 && ip.b ≥ 16 && ip.b ≤ 31) ||
      (ip.a == 192 && ip.b == 168) || ip.a == 127
  | .v6 _ => false

/-- The connection state read off the TCP flags byte. -/
def stateOfFlags (flags : UInt8) : ConnectionState :=
  if flags = 0x02 then .synSent
  else if flags = 0x12 then .synReceived
  else if flags = 0x10 then .established
  else if flags = 0x01 then .finWait1
  else if flags = 0x11 then .finWait2
  else if flags = 0x04 then .reset
  else if flags = 0x14 then .closing
  else .established

/-- A big-endian port from two bytes. -/
def portOf (hi lo : UInt8) : UInt16 := (hi.toUInt16 <<< 8) ||| lo.toUInt16

/-- What the header walk of `process_single_packet` makes of a frame. -/
inductive FrameOutcome where
  /-- An early `return`, or a protocol other than TCP and UDP. -/
  | ignored
  | tcp (srcIp dstIp : IpAddr) (srcPort dstPort : UInt16) (isOutgoing : Bool)
      (state : ConnectionState)
  | udp (srcIp dstIp : IpAddr) (srcPort dstPort : UInt16) (isOutgoing : Bool)
deriving DecidableEq

/-- The four bytes at `i` as an IPv4 address: `IpAddr::from([xs[i], .., xs[i + 3]])`. -/
def ipv4At (xs : List UInt8) (i : Nat) : Option IpAddr :=
  match xs[i]?, xs[i + 1]?, xs[i + 2]?, xs[i + 3]? with
  | some a, some b, some c, some d => some (.v4 ⟨a, b, c, d⟩)
  | _, _, _, _ => none

/-- The big-endian port at `i`: `((xs[i] as u16) << 8) | xs[i + 1] as u16`. -/
def portAt (xs : List UInt8) (i : Nat) : Option UInt16 :=
  match xs[i]?, xs[i + 1]? with
  | some hi, some lo => some (portOf hi lo)
  | _, _ => none

theorem ipv4At_isSome {xs : List UInt8} {i : Nat} (h : i + 3 < xs.length) :
    (ipv4At xs i).isSome := by
  simp [ipv4At, List.getElem?_eq_getElem (by omega : i < xs.length),
    List.getElem?_eq_getElem (by omega : i + 1 < xs.length),
    List.getElem?_eq_getElem (by omega : i + 2 < xs.length), List.getElem?_eq_getElem h]

theorem portAt_isSome {xs : List UInt8} {i : Nat} (h : i + 1 < xs.length) :
    (portAt xs i).isSome := by
  simp [portAt, List.getElem?_eq_getElem (by omega : i < xs.length), List.getElem?_eq_getElem h]

/-- The transport part of the header walk: length checks, ports and, for TCP, the flags. -/
def parseTransport (protocol : UInt8) (srcIp dstIp : IpAddr) (transportData : List UInt8) :
    Option FrameOutcome :=
  if transportData.length < 8 then some .ignored
  else
    let isOutgoing := isOutgoingSource srcIp
    if protocol = 6 then
      if transportData.length < 20 then some .ignored
      else
        (portAt transportData 0).bind fun srcPort =>
        (portAt transportData 2).bind fun dstPort =>
        transportData[13]?.map fun flags =>
          .tcp srcIp dstIp srcPort dstPort isOutgoing (stateOfFlags flags)
    else if protocol = 17 then
      (portAt transportData 0).bind fun srcPort =>
      (portAt transportData 2).map fun dstPort =>
        .udp srcIp dstIp srcPort dstPort isOutgoing
    else some .ignored

/-- The transport part never panics: its length checks cover every index it reads. -/
theorem parseTransport_isSome (protocol : UInt8) (srcIp dstIp : IpAddr) (t : List UInt8) :
    (parseTransport protocol srcIp dstIp t).isSome := by
  unfold parseTransport
  split_ifs with h8 h6 h20
  · rfl
  · rfl
  all_goals
    obtain ⟨s, hs⟩ := Option.isSome_iff_exists.mp (portAt_isSome (by omega : 0 + 1 < t.length))
    obtain ⟨d, hd⟩ := Option.isSome_iff_exists.mp (portAt_isSome (by omega : 2 + 1 < t.length))
  · simp [hs, hd, List.getElem?_eq_getElem (by omega : 13 < t.length)]
  · simp [hs, hd]
  · rfl

/-- The header walk of `process_single_packet`: Ethernet and IPv4 length checks, the version,
protocol and addresses, and the slice at the header length `4 * IHL`; `none` when a slice or an
index is out of bounds. -/
def parseFrame (data : List UInt8) : Option FrameOutcome :=
  if data.length < 14 then some .ignored
  else
    (sliceFrom data 14).bind fun ipData =>
    if ipData.length < 20 then some .ignored
    else
      ipData[0]?.bind fun versionIhl =>
      if versionIhl >>> 4 != 4 then some .ignored
      else
        ipData[9]?.bind fun protocol =>
        (ipv4At ipData 12).bind fun srcIp =>
        (ipv4At ipData 16).bind fun dstIp =>
        (sliceFrom ipData ((versionIhl &&& 0x0F).toNat * 4)).bind fun transportData =>
        parseTransport protocol srcIp dstIp transportData

/-- `(local_addr, remote_addr)`: the source is local for an outgoing packet. -/
def endpoints (srcIp dstIp : IpAddr) (srcPort dstPort : UInt16) (isOutgoing : Bool) :
    SocketAddr × SocketAddr :=
  if isOutgoing then (.new srcIp srcPort, .new dstIp dstPort)
  else (.new dstIp dstPort, .new srcIp srcPort)

/-- The update both branches make to a record for one packet of `len` bytes. -/
def countPacket (now : Nat) (isOutgoing : Bool) (len : Nat) (conn : Connection) : Connection :=
  let conn := { conn with lastActivity := now }
  if isOutgoing then
    { conn with packetsSent := conn.packetsSent + 1, bytesSent := conn.bytesSent + len }
  else
    { conn with packetsReceived := conn.packetsReceived + 1,
                bytesReceived := conn.bytesReceived + len }

@[simp] theorem flowKey_countPacket (now : Nat) (isOutgoing : Bool) (len : Nat)
    (conn : Connection) : (countPacket now isOutgoing len conn).flowKey = conn.flowKey := by
  cases isOutgoing <;> rfl

/-- `process_single_packet`: create or update the flow's record; `none` is a panic. -/
def processSinglePacket (now : Nat) (data : List UInt8) (connections : ConnMap) :
    Option ConnMap :=
  (parseFrame data).map fun
    | .ignored => connections
    | .tcp srcIp dstIp srcPort dstPort isOutgoing state =>
      let (localAddr, remoteAddr) := endpoints srcIp dstIp srcPort dstPort isOutgoing
      let key := connKey .tcp localAddr remoteAddr
      match connections.get? key with
      | some _ =>
        connections.modify key fun conn =>
          { countPacket now isOutgoing data.length conn with state := state }
      | none =>
        connections.insert key
          (countPacket now isOutgoing data.length (.new .tcp localAddr remoteAddr state now))
    | .udp srcIp dstIp srcPort dstPort isOutgoing =>
      let (localAddr, remoteAddr) := endpoints srcIp dstIp srcPort dstPort isOutgoing
      let key := connKey .udp localAddr remoteAddr
      match connections.get? key with
      | some _ => connections.modify key (countPacket now isOutgoing data.length)
      | none =>
        connections.insert key
          (countPacket now isOutgoing data.length (.new .udp localAddr remoteAddr .unknown now))

/-- `process_packets` over the frames one poll reads: at most 100, stopping at the first
panic. Frames come with the clock reading at which each is handled. -/
def processFrames : List (Nat × List UInt8) → ConnMap → Option ConnMap
  | [], connections => some connections
  | (now, data) :: rest, connections =>
    (processSinglePacket now data connections).bind (processFrames rest)

end RustNet.Network.Monitor
