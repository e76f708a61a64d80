import RustNet.Std.Net

/-!
# Printing integers and addresses

`Display` of what the sources print with `format!`: an unsigned integer in decimal (`{}`) or in
hexadecimal (`{:x}`, `{:X}`), an IPv4 address as four decimal octets, an IPv6 address in the
standard library's short form, and a socket address. The sources never ask for a width or a
precision, so the padding branches of the standard library are left out.

The IPv6 form is the one of `core::net`: an IPv4-mapped address is printed `::ffff:a.b.c.d`;
otherwise the first longest run of at least two zero segments is printed `::`, and every other
segment in `{:x}`, separated by `:`.
-/

namespace RustNet

/-- `{}` of an unsigned integer: its decimal digits, without leading zeros. -/
def displayNat (n : Nat) : List Char := Nat.toDigits 10 n

/-- `{:x}` of an unsigned integer: lowercase hexadecimal, without leading zeros. -/
def lowerHex (n : Nat) : List Char := Nat.toDigits 16 n

/-- `{:X}` of an unsigned integer: uppercase hexadecimal, without leading zeros. -/
def upperHex (n : Nat) : List Char := (Nat.toDigits 16 n).map Char.toUpper

namespace Ipv4Addr

/-- `Display for Ipv4Addr`: `a.b.c.d`. -/
def display (ip : Ipv4Addr) : List Char :=
  displayNat ip.a.toNat ++ '.' :: displayNat ip.b.toNat ++ '.' :: displayNat ip.c.toNat ++
    '.' :: displayNat ip.d.toNat

end Ipv4Addr

namespace Ipv6Addr

/-- `Ipv6Addr::to_ipv4_mapped`: the last two segments of `::ffff:a.b.c.d`, read as octets. -/
def toIpv4Mapped (ip : Ipv6Addr) : Option Ipv4Addr :=
  match ip.segments with
  | [s0, s1, s2, s3, s4, s5, g, h] =>
    if [s0, s1, s2, s3, s4, s5] = [0, 0, 0, 0, 0, 0xffff] then
      some ⟨.ofNat (g.toNat / 256), .ofNat (g.toNat % 256), .ofNat (h.toNat / 256),
        .ofNat (h.toNat % 256)⟩
    else none
  | _ => none

/-- A run of segments: where it starts and how many segments it has. -/
structure Span where
  start : Nat
  len : Nat
deriving DecidableEq, Repr

/-- The loop of `Display` that finds the zero run to compress, from segment `i` on: `longest` is
the first longest run seen so far, `current` the run the last segments belong to. -/
def zeroSpanAux : Nat → Span → Span → List UInt16 → Span
  | _, longest, _, [] => longest
  | i, longest, current, segment :: segments =>
    if segment = 0 then
      let current : Span := ⟨if current.len = 0 then i else current.start, current.len + 1⟩
      zeroSpanAux (i + 1) (if current.len > longest.len then current else longest) current
        segments
    else zeroSpanAux (i + 1) longest ⟨0, 0⟩ segments

/-- The run of zero segments that `Display` compresses. -/
def zeroSpan (ip : Ipv6Addr) : Span := zeroSpanAux 0 ⟨0, 0⟩ ⟨0, 0⟩ ip.segments

/-- `fmt_subslice`: the segments in `{:x}`, separated by `:`. -/
def fmtSubslice : List UInt16 → List Char
  | [] => []
  | first :: tail =>
    lowerHex first.toNat ++ tail.flatMap fun segment => ':' :: lowerHex segment.toNat

/-- `Display for Ipv6Addr`. -/
def display (ip : Ipv6Addr) : List Char :=
  match ip.toIpv4Mapped with
  | some ipv4 => "::ffff:".toList ++ ipv4.display
  | none =>
    let zeroes := ip.zeroSpan
    if zeroes.len > 1 then
      fmtSubslice (ip.segments.take zeroes.start) ++ ':' :: ':' ::
        fmtSubslice (ip.segments.drop (zeroes.start + zeroes.len))
    else fmtSubslice ip.segments

end Ipv6Addr

namespace SocketAddr

/-- `Display for SocketAddr`: `ip:port`, `[ip]:port`, or `[ip%scope]:port` with a scope id; the
flow label is not printed. -/
def display : SocketAddr → List Char
  | v4 ip port => ip.display ++ ':' :: displayNat port.toNat
  | v6 ip port _ scopeId =>
    '[' :: ip.display ++ (if scopeId = 0 then [] else '%' :: displayNat scopeId.toNat) ++
      ']' :: ':' :: displayNat port.toNat

end SocketAddr

/-- The flow key `format!("{:?}:{}-{:?}:{}", protocol, local_addr, protocol, remote_addr)` that
`network/types.rs` and `network/mod.rs` both build, given what `{:?}` prints for the protocol. -/
def flowKeyFormat (protocol : List Char) (localAddr remoteAddr : SocketAddr) : List Char :=
  protocol ++ ':' :: localAddr.display ++ '-' :: protocol ++ ':' :: remoteAddr.display

end RustNet
