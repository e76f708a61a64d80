import Mathlib.Data.List.Basic

/-!
# Socket addresses

The parts of `std::net` that the connection tracker stores and compares: IPv4 and IPv6
addresses and the socket addresses built from them.

Rust's `SocketAddrV6` carries a flow label and a scope id beside the address and the port.
`PartialEq` compares all four, but `Display` prints `[ip]:port` or `[ip%scope]:port` and drops
the flow label. Keys that the source builds with `format!` therefore see `SocketAddr.shown`, the
address with its flow label cleared; the rendering of `shown` is injective, so a formatted key
is modelled by the values it is formatted from.
-/

namespace RustNet

/-- `std::net::Ipv4Addr`, by its four octets. -/
structure Ipv4Addr where
  a : UInt8
  b : UInt8
  c : UInt8
  d : UInt8
deriving DecidableEq, Repr

/-- `std::net::Ipv6Addr`, by its eight 16-bit segments. -/
structure Ipv6Addr where
  segments : List UInt16
  length_segments : segments.length = 8
deriving DecidableEq, Repr

/-- `std::net::IpAddr`. -/
inductive IpAddr where
  | v4 (ip : Ipv4Addr)
  | v6 (ip : Ipv6Addr)
deriving DecidableEq, Repr

/-- `std::net::SocketAddr`: a V6 address also carries `flowinfo` and `scope_id`. -/
inductive SocketAddr where
  | v4 (ip : Ipv4Addr) (port : UInt16)
  | v6 (ip : Ipv6Addr) (port : UInt16) (flowinfo scopeId : UInt32)
deriving DecidableEq, Repr

namespace Ipv4Addr

/-- `Ipv4Addr::new`. -/
def new (a b c d : UInt8) : Ipv4Addr := ⟨a, b, c, d⟩

/-- `Ipv4Addr::is_loopback`: `127.0.0.0/8`. -/
def isLoopback (ip : Ipv4Addr) : Bool := ip.a == 127

/-- `Ipv4Addr::is_unspecified`: `0.0.0.0`. -/
def isUnspecified (ip : Ipv4Addr) : Bool := ip == ⟨0, 0, 0, 0⟩

end Ipv4Addr

namespace Ipv6Addr

/-- `::1`. -/
def localhost : Ipv6Addr := ⟨[0, 0, 0, 0, 0, 0, 0, 1], rfl⟩

/-- `Ipv6Addr::is_loopback`: exactly `::1`. -/
def isLoopback (ip : Ipv6Addr) : Bool := ip == localhost

/-- `Ipv6Addr::is_unspecified`: exactly `::`. -/
def isUnspecified (ip : Ipv6Addr) : Bool := ip.segments == [0, 0, 0, 0, 0, 0, 0, 0]

end Ipv6Addr

namespace IpAddr

/-- `IpAddr::is_loopback`. -/
def isLoopback : IpAddr → Bool
  | v4 ip => ip.isLoopback
  | v6 ip => ip.isLoopback

/-- `IpAddr::is_unspecified`. -/
def isUnspecified : IpAddr → Bool
  | v4 ip => ip.isUnspecified
  | v6 ip => ip.isUnspecified

end IpAddr

namespace SocketAddr

/-- `SocketAddr::new`: a V6 address gets flow label and scope id `0`. -/
def new : IpAddr → UInt16 → SocketAddr
  | .v4 ip, port => v4 ip port
  | .v6 ip, port => v6 ip port 0 0

/-- `SocketAddr::ip`. -/
def ip : SocketAddr → IpAddr
  | v4 ip _ => .v4 ip
  | v6 ip _ _ _ => .v6 ip

/-- `SocketAddr::port`. -/
def port : SocketAddr → UInt16
  | v4 _ port => port
  | v6 _ port _ _ => port

/-- What `Display` prints of a socket address: everything but the flow label. -/
def shown : SocketAddr → SocketAddr
  | v4 ip port => v4 ip port
  | v6 ip port _ scopeId => v6 ip port 0 scopeId

@[simp] theorem ip_new (ip : IpAddr) (port : UInt16) : (new ip port).ip = ip := by
  cases ip <;> rfl

@[simp] theorem port_new (ip : IpAddr) (port : UInt16) : (new ip port).port = port := by
  cases ip <;> rfl

/-- A V4 socket address is printed as it is. -/
@[simp] theorem shown_v4 (ip : Ipv4Addr) (port : UInt16) : (v4 ip port).shown = v4 ip port := rfl

end SocketAddr

end RustNet
