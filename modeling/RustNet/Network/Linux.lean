import RustNet.Std.NetParse
import RustNet.Network.Monitor

/-!
# Connections from `ss` and `netstat`

The model of `network/linux.rs` as `get_connections` uses it: the connections listed by
`ss -tupn`, then those listed by `netstat -tupn`, and sample connections when neither listed any;
with `parse_addr` of `network/mod.rs`, which both parsers use for their address columns.

A command's result is an argument: it could not be run, it exited unsuccessfully, or it printed
a text. Each `Connection::new` reads the clock; the model gives them all one reading `now`, which
bears on the order of the final list only. The local address of the samples comes from the
network interfaces and is an argument as well: `local_ip_address` returns the first IPv4 address
of an interface that is up and not loopback, and `192.168.1.100` when there is none, so it never
returns `None` and the `if let Some` of `get_connections_from_pcap` always takes its branch.
-/

namespace RustNet.Network.Linux

open Monitor Text NetParse

/-- What running `ss -tupn` or `netstat -tupn` gives. -/
inductive CommandOutput where
  /-- `Command::output` returned an error. -/
  | failedToRun
  /-- The command exited with an unsuccessful status. -/
  | failed
  | success (stdout : List Char)

/-- `NetworkMonitor::parse_addr` of `network/mod.rs`: a socket address, or a bare port on
`127.0.0.1`. -/
def parseAddr (addrStr : List Char) : Option SocketAddr :=
  let addrStr := trim addrStr
  match parseSocketAddr addrStr with
  | some addr => some addr
  | none =>
    if addrStr.contains ':' then parseSocketAddr addrStr
    else (parseU16 addrStr).map fun port => .v4 ⟨127, 0, 0, 1⟩ port

/-- The protocol column both parsers match: `tcp`, `tcp6`, `udp` or `udp6`. -/
def protocolOf (word : List Char) : Option Protocol :=
  if word = "tcp".toList ∨ word = "tcp6".toList then some .tcp
  else if word = "udp".toList ∨ word = "udp6".toList then some .udp
  else none

/-! ## `ss -tupn` -/

/-- The `State` column of `ss`; `UNCONN` is normal for UDP. -/
def ssState (protocol : Protocol) (word : List Char) : ConnectionState :=
  if word = "ESTAB".toList then .established
  else if word = "LISTEN".toList then .listen
  else if word = "TIME-WAIT".toList then .timeWait
  else if word = "CLOSE-WAIT".toList then .closeWait
  else if word = "SYN-SENT".toList then .synSent
  else if word = "SYN-RECV".toList then .synReceived
  else if word = "FIN-WAIT-1".toList then .finWait1
  else if word = "FIN-WAIT-2".toList then .finWait2
  else if word = "LAST-ACK".toList then .lastAck
  else if word = "CLOSING".toList then .closing
  else if word = "UNCONN".toList ∧ protocol = .udp then .established
  else .unknown

/-- The pid and process name in the `users:(("name",pid=N,fd=M))` column; the name is read
only once a pid is. -/
def ssProcess (processInfo : List Char) : Option (UInt32 × Option (List Char)) := do
  let pidStart ← find "pid=".toList processInfo
  let pidPart := processInfo.drop (pidStart + 4)
  let pidEnd ← find [','] pidPart
  let pid ← parseU32 (pidPart.take pidEnd)
  some (pid, (find "users:((\"".toList processInfo).bind fun nameStart =>
    let candidate := processInfo.drop (nameStart + 9)
    (find ['"'] candidate).map fun nameEnd =>
      trimEndMatches '"' (trimStartMatches "(\"".toList (candidate.take nameEnd)))

/-- The connection one line of `ss` output lists: `Netid State Recv-Q Send-Q Local Peer
Process`. -/
def ssConnection (now : Nat) (line : List Char) : Option Connection :=
  let fields := splitWhitespace line
  if fields.length < 5 then none
  else
    (protocolOf (fields.getD 0 [])).bind fun protocol =>
    let state := ssState protocol (if fields.length > 1 then fields.getD 1 [] else [])
    if fields.length < 6 then none
    else
      match parseAddr (fields.getD 4 []), parseAddr (fields.getD 5 []) with
      | some localAddr, some remoteAddr =>
        let conn := Connection.new protocol localAddr remoteAddr state now
        if fields.length ≥ 7 then
          match ssProcess (fields.getD 6 []) with
          | some (pid, name) =>
            some { conn with pid := some pid, processName := name.map String.mk }
          | none => some conn
        else some conn
      | _, _ => none

/-- `get_connections_from_ss`: append the connections of every line after the header; `none` is
the `Err` of a command that could not be run. -/
def getConnectionsFromSs (now : Nat) (output : CommandOutput) (connections : List Connection) :
    Option (List Connection) :=
  match output with
  | .failedToRun => none
  | .failed => some connections
  | .success text => some (connections ++ ((lines text).drop 1).filterMap (ssConnection now))

/-! ## `netstat -tupn` -/

/-- The `State` column of `netstat`. -/
def netstatState (word : List Char) : ConnectionState :=
  if word = "ESTABLISHED".toList then .established
  else if word = "LISTENING".toList ∨ word = "LISTEN".toList then .listen
  else if word = "TIME_WAIT".toList then .timeWait
  else if word = "CLOSE_WAIT".toList then .closeWait
  else if word = "SYN_SENT".toList then .synSent
  else if word = "SYN_RECEIVED".toList ∨ word = "SYN_RECV".toList then .synReceived
  else if word = "FIN_WAIT_1".toList then .finWait1
  else if word = "FIN_WAIT_2".toList then .finWait2
  else if word = "LAST_ACK".toList then .lastAck
  else if word = "CLOSING".toList then .closing
  else .unknown

/-- The connection one line of `netstat` output lists: `Proto Recv-Q Send-Q Local Foreign State
PID/Program`; the address columns are read as 1 and 2. -/
def netstatConnection (now : Nat) (line : List Char) : Option Connection :=
  let fields := splitWhitespace line
  if fields.length < 5 then none
  else
    (protocolOf (toLowercase (fields.getD 0 []))).bind fun protocol =>
    let state := if fields.length > 5 then netstatState (fields.getD 5 []) else .unknown
    match parseAddr (fields.getD 1 []), parseAddr (fields.getD 2 []) with
    | some localAddr, some remoteAddr =>
      let conn := Connection.new protocol localAddr remoteAddr state now
      if fields.length > 6 ∧ fields.getD 6 [] ≠ "-".toList then
        let parts := splitOn '/' (fields.getD 6 [])
        match parseU32 (parts.getD 0 []) with
        | some pid =>
          let name := parts.getD 1 []
          some { conn with
            pid := some pid
            processName :=
              if parts.length > 1 ∧ name ≠ [] ∧ name ≠ "-".toList then some (String.mk name)
              else none }
        | none => some conn
      else some conn
    | _, _ => none

/-- `get_connections_from_netstat`: append the connections of every line after the two header
lines; `none` is the `Err` of a command that could not be run. -/
def getConnectionsFromNetstat (now : Nat) (output : CommandOutput)
    (connections : List Connection) : Option (List Connection) :=
  match output with
  | .failedToRun => none
  | .failed => some connections
  | .success text => some (connections ++ ((lines text).drop 2).filterMap (netstatConnection now))

/-! ## Samples and the platform list -/

/-- The connections `get_connections_from_pcap` adds for a port of `common_ports`. -/
def pcapSamples (now : Nat) (localIp : IpAddr) (port : UInt16) : List Connection :=
  let remoteAddr := SocketAddr.new (.v4 ⟨8, 8, 8, 8⟩) port
  let localAddr := SocketAddr.new localIp (10000 + port)
  Connection.new .tcp localAddr remoteAddr .established now ::
    if port = 53 then [Connection.new .udp localAddr remoteAddr .established now] else []

/-- `get_connections_from_pcap`: sample connections to `8.8.8.8` from the local address. -/
def getConnectionsFromPcap (now : Nat) (localIp : IpAddr) (connections : List Connection) :
    List Connection :=
  connections ++ [80, 443, 22, 53].flatMap (pcapSamples now localIp)

/-- `get_platform_connections`: the `ss` list, then the `netstat` list appended, errors only
logged; the samples when both are empty. -/
def getPlatformConnections (now : Nat) (ss netstat : CommandOutput) (localIp : IpAddr) :
    List Connection :=
  let connections := (getConnectionsFromSs now ss []).getD []
  let connections := (getConnectionsFromNetstat now netstat connections).getD connections
  if connections.isEmpty then getConnectionsFromPcap now localIp connections else connections

end RustNet.Network.Linux
