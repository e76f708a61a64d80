import RustNet.Network.Types

/-!
# Merging packets into connections

The model of `network/merge.rs`: the TCP state machine `update_tcp_state`, the creation of a
connection from its first packet, the merge of each later packet, and the record-level merges.

`update_tcp_state` is a `match` whose arms carry `if is_outgoing` / `if !is_outgoing` guards; a
failed guard falls through to the later arms. The model matches on `is_outgoing` as a sixth
discriminant, which keeps the arms in the source's order with the same fall-through.
-/

namespace RustNet.Network.Merge

open RustNet.Network.Types

/-- `update_tcp_state`: the RFC 793 transitions driven by observed flags and direction. -/
def updateTcpState (currentState : TcpState) (flags : TcpFlags) (isOutgoing : Bool) : TcpState :=
  match currentState, flags.syn, flags.ack, flags.fin, flags.rst, isOutgoing with
  -- Connection establishment - three-way handshake
  | .unknown, true, false, false, false, false => .synReceived
  | .unknown, true, false, false, false, true => .synSent
  | .listen, true, false, false, false, false => .synReceived
  | .listen, true, false, false, false, true => .synSent
  | .synSent, true, true, false, false, false => .established
  | .synReceived, false, true, false, false, true => .established
  | .unknown, false, true, false, false, _ => .established
  -- Connection termination - normal close
  | .established, false, _, true, false, true => .finWait1
  | .established, false, _, true, false, false => .closeWait
  | .finWait1, false, true, false, false, false => .finWait2
  | .finWait1, false, _, true, false, false => .closing
  | .finWait2, false, _, true, false, false => .timeWait
  | .closeWait, false, _, true, false, true => .lastAck
  | .lastAck, false, true, false, false, false => .closed
  | .closing, false, true, false, false, false => .timeWait
  -- Connection reset
  | _, _, _, _, true, _ => .closed
  -- Keep current state if no state transition
  | currentState, _, _, _, _, _ => currentState

/-- `merge_dpi_info`: install the DPI result only if the connection has none yet. -/
def mergeDpiInfo (conn : Connection) (dpiResult : DpiResult) : Connection :=
  match conn.dpiInfo with
  | none => { conn with dpiInfo := some ⟨dpiResult.application⟩ }
  | some _ => conn

/-- `merge_packet_into_connection`. The TCP state computed from the flags is overwritten by the
parser's `protocol_state` on the line after the `if`, as in the source. -/
def mergePacketIntoConnection (conn : Connection) (parsed : ParsedPacket) (now : Nat) :
    Connection :=
  let conn := { conn with lastActivity := now }
  let conn :=
    if parsed.isOutgoing then
      { conn with packetsSent := conn.packetsSent + 1,
                  bytesSent := conn.bytesSent + parsed.packetLen }
    else
      { conn with packetsReceived := conn.packetsReceived + 1,
                  bytesReceived := conn.bytesReceived + parsed.packetLen }
  let conn :=
    match parsed.tcpFlags with
    | some flags =>
      let currentTcpState := match conn.protocolState with
        | .tcp state => state
        | _ => .unknown
      { conn with protocolState := .tcp (updateTcpState currentTcpState flags parsed.isOutgoing) }
    | none => { conn with protocolState := parsed.protocolState }
  let conn := { conn with protocolState := parsed.protocolState }
  match parsed.dpiResult with
  | some dpiResult => mergeDpiInfo conn dpiResult
  | none => conn

/-- `create_connection_from_packet`: for TCP the state is computed from `Unknown` and the
flags; otherwise it is the parser's. -/
def createConnectionFromPacket (parsed : ParsedPacket) (now : Nat) : Connection :=
  let conn := Connection.new parsed.protocol parsed.localAddr parsed.remoteAddr
    parsed.protocolState now
  let conn :=
    match parsed.tcpFlags with
    | some tcpFlags =>
      { conn with protocolState := .tcp (updateTcpState .unknown tcpFlags parsed.isOutgoing) }
    | none => { conn with protocolState := parsed.protocolState }
  let conn :=
    if parsed.isOutgoing then
      { conn with packetsSent := 1, bytesSent := parsed.packetLen }
    else
      { conn with packetsReceived := 1, bytesReceived := parsed.packetLen }
  let conn :=
    match parsed.dpiResult with
    | some dpiResult => { conn with dpiInfo := some ⟨dpiResult.application⟩ }
    | none => conn
  { conn with createdAt := now, lastActivity := now }

/-- `enrich_with_process_info`. -/
def enrichWithProcessInfo (conn : Connection) (pid : UInt32) (processName : String) :
    Connection :=
  { conn with pid := some pid, processName := some processName }

/-- `enrich_with_service_name`. -/
def enrichWithServiceName (conn : Connection) (serviceName : String) : Connection :=
  { conn with serviceName := some serviceName }

/-- `merge_connections`: fill process and service identity from `secondary` where `primary`
lacks it, take the larger counters, the earlier creation, the later activity, and keep the
first DPI classification. -/
def mergeConnections (primary secondary : Connection) : Connection :=
  let primary :=
    if primary.pid.isNone ∧ secondary.pid.isSome then
      { primary with pid := secondary.pid, processName := secondary.processName }
    else primary
  let primary :=
    if primary.serviceName.isNone ∧ secondary.serviceName.isSome then
      { primary with serviceName := secondary.serviceName }
    else primary
  let primary := { primary with
    bytesSent := max primary.bytesSent secondary.bytesSent
    bytesReceived := max primary.bytesReceived secondary.bytesReceived
    packetsSent := max primary.packetsSent secondary.packetsSent
    packetsReceived := max primary.packetsReceived secondary.packetsReceived }
  let primary :=
    if secondary.createdAt < primary.createdAt then
      { primary with createdAt := secondary.createdAt }
    else primary
  let primary :=
    if secondary.lastActivity > primary.lastActivity then
      { primary with lastActivity := secondary.lastActivity }
    else primary
  match secondary.dpiInfo with
  | some secondaryDpi =>
    match primary.dpiInfo with
    | none => { primary with dpiInfo := some secondaryDpi }
    | some _ => primary
  | none => primary

/-- `connections_match`. -/
def connectionsMatch (a b : Connection) : Bool :=
  a.protocol == b.protocol && a.localAddr == b.localAddr && a.remoteAddr == b.remoteAddr

/-- `connection_matches_packet`. -/
def connectionMatchesPacket (conn : Connection) (parsed : ParsedPacket) : Bool :=
  conn.protocol == parsed.protocol && conn.localAddr == parsed.localAddr &&
    conn.remoteAddr == parsed.remoteAddr

/-! ## One merge step -/

/-- Everything one merge does: the clock, one counter pair, the parser's protocol state, and the
DPI result if none is installed yet. -/
theorem mergePacketIntoConnection_eq (conn : Connection) (parsed : ParsedPacket) (now : Nat) :
    mergePacketIntoConnection conn parsed now =
      { conn with
        lastActivity := now
        packetsSent := conn.packetsSent + if parsed.isOutgoing then 1 else 0
        bytesSent := conn.bytesSent + if parsed.isOutgoing then parsed.packetLen else 0
        packetsReceived := conn.packetsReceived + if !parsed.isOutgoing then 1 else 0
        bytesReceived := conn.bytesReceived + if !parsed.isOutgoing then parsed.packetLen else 0
        protocolState := parsed.protocolState
        dpiInfo := conn.dpiInfo.or (parsed.dpiResult.map fun d => ⟨d.application⟩) } := by
  unfold mergePacketIntoConnection mergeDpiInfo
  cases parsed.isOutgoing <;> cases parsed.tcpFlags <;> cases parsed.dpiResult <;>
    cases conn.dpiInfo <;> rfl

/-- The connection created from a first packet. -/
theorem createConnectionFromPacket_eq (parsed : ParsedPacket) (now : Nat) :
    createConnectionFromPacket parsed now =
      { protocol := parsed.protocol
        localAddr := parsed.localAddr
        remoteAddr := parsed.remoteAddr
        remoteHost := none
        protocolState := match parsed.tcpFlags with
          | some flags => .tcp (updateTcpState .unknown flags parsed.isOutgoing)
          | none => parsed.protocolState
        pid := none
        processName := none
        bytesSent := if parsed.isOutgoing then parsed.packetLen else 0
        bytesReceived := if !parsed.isOutgoing then parsed.packetLen else 0
        packetsSent := if parsed.isOutgoing then 1 else 0
        packetsReceived := if !parsed.isOutgoing then 1 else 0
        createdAt := now
        lastActivity := now
        serviceName := none
        dpiInfo := parsed.dpiResult.map fun d => ⟨d.application⟩ } := by
  unfold createConnectionFromPacket
  cases parsed.isOutgoing <;> cases parsed.tcpFlags <;> cases parsed.dpiResult <;> rfl

/-! ## One record merge -/

/-- An `if` between two records is the record of the field-wise `if`s; rewriting with it keeps
the staged updates of `merge_connections` from copying each stage into the next. -/
theorem ite_connection (c : Prop) [Decidable c] (x y : Connection) :
    (if c then x else y) =
      ⟨if c then x.protocol else y.protocol, if c then x.localAddr else y.localAddr,
        if c then x.remoteAddr else y.remoteAddr, if c then x.remoteHost else y.remoteHost,
        if c then x.protocolState else y.protocolState, if c then x.pid else y.pid,
        if c then x.processName else y.processName, if c then x.bytesSent else y.bytesSent,
        if c then x.bytesReceived else y.bytesReceived, if c then x.packetsSent else y.packetsSent,
        if c then x.packetsReceived else y.packetsReceived, if c then x.createdAt else y.createdAt,
        if c then x.lastActivity else y.lastActivity, if c then x.serviceName else y.serviceName,
        if c then x.dpiInfo else y.dpiInfo⟩ := by
  split <;> rfl

/-- "Use the secondary's value if the primary has none" is `Option.or`. -/
theorem ite_isNone_isSome {α : Type} (o p : Option α) :
    (if o.isNone = true ∧ p.isSome = true then p else o) = o.or p := by
  cases o <;> cases p <;> rfl

/-- Everything `merge_connections` does: the process pair of `secondary` when `primary` has no
pid and `secondary` has one, the first service name and DPI result present, the larger counters,
the earlier creation and the later activity; every other field is `primary`'s. -/
theorem mergeConnections_eq (primary secondary : Connection) :
    mergeConnections primary secondary =
      { primary with
        pid := primary.pid.or secondary.pid
        processName := if primary.pid.isNone ∧ secondary.pid.isSome then secondary.processName
          else primary.processName
        serviceName := primary.serviceName.or secondary.serviceName
        bytesSent := max primary.bytesSent secondary.bytesSent
        bytesReceived := max primary.bytesReceived secondary.bytesReceived
        packetsSent := max primary.packetsSent secondary.packetsSent
        packetsReceived := max primary.packetsReceived secondary.packetsReceived
        createdAt := min primary.createdAt secondary.createdAt
        lastActivity := max primary.lastActivity secondary.lastActivity
        dpiInfo := primary.dpiInfo.or secondary.dpiInfo } := by
  have hmin : (if secondary.createdAt < primary.createdAt then secondary.createdAt
      else primary.createdAt) = min primary.createdAt secondary.createdAt := by
    split <;> omega
  have hmax : (if secondary.lastActivity > primary.lastActivity then secondary.lastActivity
      else primary.lastActivity) = max primary.lastActivity secondary.lastActivity := by
    split <;> omega
  unfold mergeConnections
  simp only [ite_connection, ite_self, ite_isNone_isSome, hmin, hmax]
  cases secondary.dpiInfo <;> cases primary.dpiInfo <;> rfl

end RustNet.Network.Merge
