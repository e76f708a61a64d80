import RustNet.Std.Net
import RustNet.Std.Text

/-!
# Parsing socket addresses

`SocketAddr::from_str`, after the parser of `core::net`: an IPv4 address and a port, or a
bracketed IPv6 address with an optional `%scope` and a port; the whole string must be consumed.

The source parser reads bytes and backtracks with `read_atomically`; here a reader takes the rest
of the input and returns the value and the new rest, so a failed reader consumes nothing. A
non-ASCII character is never a digit or a separator, so it fails the parse over bytes and over
characters alike.
-/

namespace RustNet.NetParse

/-- A reader: on success, the value read and the rest of the input. -/
abbrev Reader (α : Type) := List Char → Option (α × List Char)

/-- `read_given_char`. -/
def readGivenChar (c : Char) : Reader Unit
  | d :: rest => if d = c then some ((), rest) else none
  | [] => none

/-- `char::to_digit(radix)` for radix 10 and 16. -/
def toDigit (radix : Nat) (c : Char) : Option Nat :=
  if c.isDigit then some (c.toNat - '0'.toNat)
  else if radix = 16 ∧ 'a' ≤ c ∧ c ≤ 'f' then some (c.toNat - 'a'.toNat + 10)
  else if radix = 16 ∧ 'A' ≤ c ∧ c ≤ 'F' then some (c.toNat - 'A'.toNat + 10)
  else none

/-- The run of digits `read_number` consumes. -/
def readDigits (radix : Nat) : List Char → List Nat × List Char
  | c :: cs =>
    match toDigit radix c with
    | some d => let r := readDigits radix cs; (d :: r.1, r.2)
    | none => ([], c :: cs)
  | [] => ([], [])

/-- `read_number`: one or more digits, at most `maxDigits` of them, a value at most `max` (the
checked arithmetic of the target type), and no leading zero unless allowed or alone. -/
def readNumber (radix : Nat) (maxDigits : Option Nat) (allowZeroPrefix : Bool) (max : Nat) :
    Reader Nat := fun s =>
  let (digits, rest) := readDigits radix s
  let value := digits.foldl (fun n d => n * radix + d) 0
  if digits.isEmpty then none
  else if maxDigits.any (digits.length > ·) then none
  else if value > max then none
  else if !allowZeroPrefix && digits.head? = some 0 && digits.length > 1 then none
  else some (value, rest)

/-- `read_ipv4_addr`: four decimal octets separated by `.`, no octal-looking leading zero. -/
def readIpv4Addr : Reader Ipv4Addr := fun s => do
  let (a, s) ← readNumber 10 (some 3) false 255 s
  let ((), s) ← readGivenChar '.' s
  let (b, s) ← readNumber 10 (some 3) false 255 s
  let ((), s) ← readGivenChar '.' s
  let (c, s) ← readNumber 10 (some 3) false 255 s
  let ((), s) ← readGivenChar '.' s
  let (d, s) ← readNumber 10 (some 3) false 255 s
  some (⟨a.toUInt8, b.toUInt8, c.toUInt8, d.toUInt8⟩, s)

/-- `read_separator`: the separator, except before the first element. -/
def readSeparator (first : Bool) (sep : Char) : Reader Unit := fun s =>
  if first then some ((), s) else readGivenChar sep s

/-- `read_groups` over `limit` slots: colon-separated hex groups; in a slot before the last an
embedded IPv4 address fills two groups and ends the chunk. Returns the groups, whether an IPv4
address ended them, and the rest. -/
def readGroups : (limit : Nat) → (first : Bool) → List Char → List Nat × Bool × List Char
  | 0, _, s => ([], false, s)
  | n + 1, first, s =>
    let ipv4 := if 1 ≤ n then
        (readSeparator first ':' s).bind fun (_, s) => readIpv4Addr s
      else none
    match ipv4 with
    | some (ip, rest) =>
      ([ip.a.toNat * 256 + ip.b.toNat, ip.c.toNat * 256 + ip.d.toNat], true, rest)
    | none =>
      match (readSeparator first ':' s).bind fun (_, s) => readNumber 16 (some 4) true 0xFFFF s with
      | some (g, rest) =>
        let r := readGroups n false rest
        (g :: r.1, r.2.1, r.2.2)
      | none => ([], false, s)

/-- An address from its eight groups. -/
def ipv6OfGroups (groups : List Nat) : Ipv6Addr :=
  ⟨((groups ++ List.replicate 8 0).take 8).map UInt16.ofNat, by simp⟩

/-- `read_ipv6_addr`: eight groups, or a head and a tail around `::`, which stands for at least
one zero group; an embedded IPv4 address may only end the address. -/
def readIpv6Addr : Reader Ipv6Addr := fun s =>
  let (head, headIpv4, s) := readGroups 8 true s
  if head.length = 8 then some (ipv6OfGroups head, s)
  else if headIpv4 then none
  else do
    let ((), s) ← readGivenChar ':' s
    let ((), s) ← readGivenChar ':' s
    let (tail, _, s) := readGroups (8 - (head.length + 1)) true s
    some (ipv6OfGroups (head ++ List.replicate (8 - head.length - tail.length) 0 ++ tail), s)

/-- `read_port`: `:` and a decimal `u16`, leading zeros allowed. -/
def readPort : Reader UInt16 := fun s => do
  let ((), s) ← readGivenChar ':' s
  let (port, s) ← readNumber 10 none true 65535 s
  some (port.toUInt16, s)

/-- `read_scope_id`: `%` and a decimal `u32`. -/
def readScopeId : Reader UInt32 := fun s => do
  let ((), s) ← readGivenChar '%' s
  let (scope, s) ← readNumber 10 none true 4294967295 s
  some (scope.toUInt32, s)

/-- `read_socket_addr_v4`. -/
def readSocketAddrV4 : Reader SocketAddr := fun s => do
  let (ip, s) ← readIpv4Addr s
  let (port, s) ← readPort s
  some (.v4 ip port, s)

/-- `read_socket_addr_v6`: the flow label is 0; a missing scope id is 0. -/
def readSocketAddrV6 : Reader SocketAddr := fun s => do
  let ((), s) ← readGivenChar '[' s
  let (ip, s) ← readIpv6Addr s
  let (scopeId, s) := (readScopeId s).getD (0, s)
  let ((), s) ← readGivenChar ']' s
  let (port, s) ← readPort s
  some (.v6 ip port 0 scopeId, s)

/-- `SocketAddr::from_str`: a V4 socket address, else a V6 one, and nothing left over. -/
def parseSocketAddr (s : List Char) : Option SocketAddr :=
  match (readSocketAddrV4 s).orElse fun _ => readSocketAddrV6 s with
  | some (addr, []) => some addr
  | _ => none

end RustNet.NetParse
