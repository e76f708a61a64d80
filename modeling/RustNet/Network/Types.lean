import RustNet.Std.Display
import RustNet.Network.Reassembler

/-!
# Connection records of the DPI layer

The data model of `network/types.rs` that `network/merge.rs` works on: protocols, the TCP state
machine's states, protocol and application classifications, the QUIC record with its version
names, and the per-flow `Connection` with its keys.
The packet record `ParsedPacket`, its `TcpFlags` and `DpiResult` come from the parser and DPI
modules; they are modelled with the fields `merge.rs` and its tests construct.

Counters are `u64` in the source and `Nat` here; the two agree as long as a counter stays below
`2^64`, where `+=` does not wrap. `SystemTime`s and `Instant`s are nanosecond counts. Left out as
read by no modelled function: the floating-point rate fields, `rtt_estimate`, and the two
`Instant`s of `DpiInfo`, which are dead code.
-/

namespace RustNet.Network.Types

/-- `Protocol` of `types.rs`. -/
inductive Protocol where
  | tcp | udp | icmp | arp
deriving DecidableEq, Repr

/-- `TcpState`. -/
inductive TcpState where
  | listen | synSent | synReceived | established | finWait1 | finWait2
  | closeWait | lastAck | timeWait | closing | closed | unknown
deriving DecidableEq, Repr

/-- `ArpOperation`. -/
inductive ArpOperation where
  | request | reply
deriving DecidableEq, Repr

/-- `ProtocolState`. -/
inductive ProtocolState where
  | tcp (state : TcpState)
  | udp
  | icmp (icmpType icmpCode : UInt8)
  | arp (operation : ArpOperation)
deriving DecidableEq, Repr

/-- `HttpVersion`. -/
inductive HttpVersion where
  | http10 | http11 | http2
deriving DecidableEq, Repr

/-- `HttpInfo`. -/
structure HttpInfo where
  version : HttpVersion
  method : Option String
  host : Option String
  path : Option String
  statusCode : Option UInt16
  userAgent : Option String
deriving DecidableEq, Repr

/-- `HttpsInfo`. -/
structure HttpsInfo where
  tlsInfo : Option TlsInfo
deriving DecidableEq, Repr

/-- `DnsQueryType`: the named record types, and `other` for any other code. -/
inductive DnsQueryType where
  | a | ns | cname | soa | ptr | hinfo | mx | txt | rp | afsdb | sig | key | aaaa | loc | srv
  | naptr | kx | cert | dname | apl | ds | sshfp | ipseckey | rrsig | nsec | dnskey | dhcid
  | nsec3 | nsec3param | tlsa | smimea | hip | cds | cdnskey | openpgpkey | csync | zonemd
  | svcb | https | eui48 | eui64 | tkey | tsig | uri | caa | ta | dlv
  | other (code : UInt16)
deriving DecidableEq, Repr

/-- `DnsInfo`. -/
structure DnsInfo where
  queryName : Option String
  queryType : Option DnsQueryType
  responseIps : List IpAddr
  isResponse : Bool
deriving DecidableEq, Repr

/-- `QuicPacketType`. -/
inductive QuicPacketType where
  | initial | zeroRtt | handshake | retry | versionNegotiation | oneRtt | unknown
deriving DecidableEq, Repr

/-- `QuicConnectionState`. -/
inductive QuicConnectionState where
  | initial | handshaking | connected | draining | closed | unknown
deriving DecidableEq, Repr

/-- `QuicInfo`, with the flow's reassembler stored inside it. -/
structure QuicInfo where
  versionString : Option String
  packetType : QuicPacketType
  connectionId : List UInt8
  connectionIdHex : Option String
  connectionState : QuicConnectionState
  tlsInfo : Option TlsInfo
  hasCryptoFrame : Bool
  cryptoReassembler : Option CryptoFrameReassembler
deriving DecidableEq

/-- `quic_version_to_string`: the name of a known QUIC version; `0xff0000NN` is draft `NN`. -/
def quicVersionToString (version : UInt32) : Option String :=
  if version = 0x00000001 then some "v1"
  else if version = 0x6b3343cf then some "v2"
  else if version = 0xff00001d then some "draft-29"
  else if version = 0xff00001c then some "draft-28"
  else if version = 0xff00001b then some "draft-27"
  else if version = 0x51303530 then some "Q050"
  else if version = 0x54303530 then some "T050"
  else if version >>> 8 = 0xff0000 then
    some ("draft-" ++ String.mk (displayNat (version &&& 0xff).toNat))
  else none

/-- `QuicInfo::new`. -/
def QuicInfo.new (version : UInt32) : QuicInfo where
  versionString := quicVersionToString version
  packetType := .unknown
  connectionId := []
  connectionIdHex := none
  connectionState := .unknown
  tlsInfo := none
  hasCryptoFrame := false
  cryptoReassembler := none

/-- `QuicInfo::ensure_reassembler`, at the clock reading `now` of `Instant::now()`. -/
def QuicInfo.ensureReassembler (info : QuicInfo) (now : Nat) : QuicInfo :=
  if info.cryptoReassembler.isNone then
    { info with cryptoReassembler := some (CryptoFrameReassembler.new now) }
  else info

/-- `ApplicationProtocol`. -/
inductive ApplicationProtocol where
  | http (info : HttpInfo)
  | https (info : HttpsInfo)
  | dns (info : DnsInfo)
  | ssh
  | quic (info : QuicInfo)
deriving DecidableEq

/-- `DpiInfo`: the application classification of a flow. -/
structure DpiInfo where
  application : ApplicationProtocol
deriving DecidableEq

/-- `Connection` of `types.rs`. -/
structure Connection where
  protocol : Protocol
  localAddr : SocketAddr
  remoteAddr : SocketAddr
  remoteHost : Option String
  protocolState : ProtocolState
  pid : Option UInt32
  processName : Option String
  bytesSent : Nat
  bytesReceived : Nat
  packetsSent : Nat
  packetsReceived : Nat
  createdAt : Nat
  lastActivity : Nat
  serviceName : Option String
  dpiInfo : Option DpiInfo
deriving DecidableEq

/-- `Connection::new`: zero counters, both timestamps at the clock reading `now`. -/
def Connection.new (protocol : Protocol) (localAddr remoteAddr : SocketAddr)
    (state : ProtocolState) (now : Nat) : Connection where
  protocol := protocol
  localAddr := localAddr
  remoteAddr := remoteAddr
  remoteHost := none
  protocolState := state
  pid := none
  processName := none
  bytesSent := 0
  bytesReceived := 0
  packetsSent := 0
  packetsReceived := 0
  createdAt := now
  lastActivity := now
  serviceName := none
  dpiInfo := none

/-- `{:?}` of `Protocol`: the variant's name. -/
def Protocol.debug : Protocol → List Char
  | .tcp => "TCP".toList
  | .udp => "UDP".toList
  | .icmp => "ICMP".toList
  | .arp => "ARP".toList

/-- `Connection::key`. -/
def Connection.key (c : Connection) : List Char :=
  flowKeyFormat c.protocol.debug c.localAddr c.remoteAddr

/-- `Connection::is_active`: last activity less than 300 seconds ago; a clock behind the last
activity counts as no time. -/
def Connection.isActive (c : Connection) (now : Nat) : Bool :=
  now - c.lastActivity < 300 * 1000000000

/-- `Connection::is_potential_quic`: UDP, with port 443 at either end. -/
def Connection.isPotentialQuic (c : Connection) : Bool :=
  c.protocol == .udp && (c.localAddr.port == 443 || c.remoteAddr.port == 443)

/-- `Connection::quic_key`: `QUIC:<connection id>:<local>-<remote>` for a UDP connection with a
connection ID, `key()` otherwise. -/
def Connection.quicKey (c : Connection) (connectionIdHex : Option String) : List Char :=
  if c.protocol = .udp then
    match connectionIdHex with
    | some connId =>
      "QUIC:".toList ++ connId.data ++ ':' :: c.localAddr.display ++ '-' :: c.remoteAddr.display
    | none => c.key
  else c.key

/-- `TcpFlags` of the packet parser. -/
structure TcpFlags where
  syn : Bool
  ack : Bool
  fin : Bool
  rst : Bool
  psh : Bool
  urg : Bool
deriving DecidableEq, Repr

/-- `DpiResult` of the DPI layer: the application it recognised. -/
structure DpiResult where
  application : ApplicationProtocol
deriving DecidableEq

/-- `ParsedPacket` of the packet parser. -/
structure ParsedPacket where
  connectionKey : String
  protocol : Protocol
  localAddr : SocketAddr
  remoteAddr : SocketAddr
  protocolState : ProtocolState
  tcpFlags : Option TcpFlags
  isOutgoing : Bool
  packetLen : Nat
  dpiResult : Option DpiResult
deriving DecidableEq

end RustNet.Network.Types
