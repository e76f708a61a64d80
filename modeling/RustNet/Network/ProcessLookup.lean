import RustNet.Std.Display
import RustNet.Network.Linux

/-!
# Process lookup

`get_linux_process_for_connection` of `network/linux.rs`: the process that owns a connection's
socket, from `ss -p` filtered on the connection's local port, else from `netstat -tupn`, else
from `/proc/net/tcp` or `/proc/net/udp` and the descriptors under `/proc/<pid>/fd`.

What the lookup reads from the system is an argument (`ProcessSources`): the outputs of the two
commands, the contents of the two `/proc/net` tables, the link targets of the descriptors of each
numbered directory of `/proc` that could be read, and the contents of `/proc/<pid>/comm`. Every
`format!` of the source is the `Display` model of `Std/Display.lean`. `get_connections` takes
the lookup as its argument `lookup`; this module is what stands there on Linux.
-/

namespace RustNet.Network.Linux

open Monitor Text

/-- `get_process_name_by_pid`: `/proc/<pid>/comm`, trimmed. -/
def getProcessNameByPid (comm : UInt32 → Option (List Char)) (pid : UInt32) :
    Option (List Char) :=
  (comm pid).map trim

/-- The name `format!("process-{}", pid)`. -/
def processPlaceholder (pid : UInt32) : List Char := "process-".toList ++ displayNat pid.toNat

/-! ## `ss -p` -/

/-- The pid `try_ss_command` reads from a line: after the first `pid=`, up to the next `,`. -/
def ssLinePid (line : List Char) : Option UInt32 := do
  let pidStart ← find "pid=".toList line
  let pidPart := line.drop (pidStart + 4)
  let pidEnd ← find [','] pidPart
  parseU32 (pidPart.take pidEnd)

/-- The name `try_ss_command` reads from a line: after `users:(`, up to the next `,`, without
a leading `("` and trailing `"`; `process-<pid>` if either is missing. -/
def ssLineName (line : List Char) (pid : UInt32) : List Char :=
  match find "users:(".toList line with
  | some nameStart =>
    let namePart := line.drop (nameStart + 7)
    match find [','] namePart with
    | some nameEnd => trimEndMatches '"' (trimStartMatches "(\"".toList (namePart.take nameEnd))
    | none => processPlaceholder pid
  | none => processPlaceholder pid

/-- The loop of `try_ss_command` over the lines after the header: the first line that holds
`:<local port>` and `:<remote port>` decides, with its pid or with nothing. -/
def trySsLines (localPort remotePort : UInt16) : List (List Char) → Option Process
  | [] => none
  | line :: rest =>
    if contains (':' :: displayNat localPort.toNat) line &&
        contains (':' :: displayNat remotePort.toNat) line then
      (ssLinePid line).map fun pid => ⟨pid, String.mk (ssLineName line pid)⟩
    else trySsLines localPort remotePort rest

/-- `try_ss_command`, given what `ss -t|-u -p -n sport :<local port>` printed. -/
def trySsCommand (connection : Connection) (output : CommandOutput) : Option Process :=
  match output with
  | .success text =>
    trySsLines connection.localAddr.port connection.remoteAddr.port ((lines text).drop 1)
  | _ => none

/-! ## `netstat -tupn` -/

/-- The protocol test of `try_netstat_command`, ignoring ASCII case. -/
def netstatMatchesProtocol (protocol : Protocol) (word : List Char) : Bool :=
  match protocol with
  | .tcp => eqIgnoreAsciiCase word "tcp".toList || eqIgnoreAsciiCase word "tcp6".toList
  | .udp => eqIgnoreAsciiCase word "udp".toList || eqIgnoreAsciiCase word "udp6".toList

/-- The test of `try_netstat_command` on the columns of a line: the protocol, and columns 1 and
2 holding the printed address or `:<port>`. -/
def netstatLineMatches (connection : Connection) (fields : List (List Char)) : Bool :=
  netstatMatchesProtocol connection.protocol (fields.getD 0 []) &&
    (contains connection.localAddr.display (fields.getD 1 []) ||
      contains (':' :: displayNat connection.localAddr.port.toNat) (fields.getD 1 [])) &&
    (contains connection.remoteAddr.display (fields.getD 2 []) ||
      contains (':' :: displayNat connection.remoteAddr.port.toNat) (fields.getD 2 []))

/-- The loop of `try_netstat_command` over the lines after the two headers: lines of fewer than
five columns are skipped; the first line that matches decides, with the pid in column 6 or with
nothing. -/
def tryNetstatLines (connection : Connection) (comm : UInt32 → Option (List Char)) :
    List (List Char) → Option Process
  | [] => none
  | line :: rest =>
    let fields := splitWhitespace line
    if fields.length < 5 then tryNetstatLines connection comm rest
    else if netstatLineMatches connection fields then
      if fields.length > 6 ∧ fields.getD 6 [] ≠ "-".toList then
        (parseU32 (fields.getD 6 [])).map fun pid =>
          ⟨pid, String.mk ((getProcessNameByPid comm pid).getD (processPlaceholder pid))⟩
      else none
    else tryNetstatLines connection comm rest

/-- `try_netstat_command`, given what `netstat -tupn` printed. -/
def tryNetstatCommand (connection : Connection) (output : CommandOutput)
    (comm : UInt32 → Option (List Char)) : Option Process :=
  match output with
  | .success text => tryNetstatLines connection comm ((lines text).drop 2)
  | _ => none

/-! ## `/proc/net` -/

/-- `format!("{:X}", u32::from_be_bytes(ip.octets()))`. -/
def procAddrHex (ip : Ipv4Addr) : List Char :=
  upperHex (((ip.a.toNat * 256 + ip.b.toNat) * 256 + ip.c.toNat) * 256 + ip.d.toNat)

/-- The test of `try_proc_parsing` on the `local_address` column: the part after the last `:` is
the port it built, and the part before it the address it built or `00000000`. -/
def procLocalMatches (localAddr localPort column : List Char) : Bool :=
  match rfind ':' column with
  | some colonPos =>
    column.drop (colonPos + 1) == localPort &&
      (column.take colonPos == localAddr || column.take colonPos == "00000000".toList)
  | none => false

/-- The scan of `/proc`: the first process with a descriptor linked to `socket:[<inode>]`, and
then its name, which may be missing; `none` when no descriptor is. -/
def scanProcFds (procs : List (UInt32 × List (List Char))) (comm : UInt32 → Option (List Char))
    (inode : List Char) : Option (Option Process) :=
  (procs.find? fun p => p.2.any (contains ("socket:[".toList ++ inode ++ "]".toList))).map
    fun p => (getProcessNameByPid comm p.1).map fun name => ⟨p.1, String.mk name⟩

/-- The line-selection loop of `try_proc_parsing` over the lines after the header: lines of
fewer than ten columns are skipped; for a line whose `local_address` matches, the scan for its
inode decides if it finds a descriptor, and the loop goes on otherwise. -/
def tryProcLines (localAddr localPort : List Char)
    (scan : List Char → Option (Option Process)) : List (List Char) → Option Process
  | [] => none
  | line :: rest =>
    let fields := splitWhitespace line
    if fields.length < 10 then tryProcLines localAddr localPort scan rest
    else if procLocalMatches localAddr localPort (fields.getD 1 []) then
      match scan (fields.getD 9 []) with
      | some result => result
      | none => tryProcLines localAddr localPort scan rest
    else tryProcLines localAddr localPort scan rest

/-- `try_proc_parsing`, given the contents of `/proc/net/tcp` and `/proc/net/udp`: nothing for
an IPv6 connection. -/
def tryProcParsing (connection : Connection) (procNet : Protocol → Option (List Char))
    (procs : List (UInt32 × List (List Char))) (comm : UInt32 → Option (List Char)) :
    Option Process :=
  match connection.localAddr.ip, procNet connection.protocol with
  | .v4 ip, some contents =>
    tryProcLines (procAddrHex ip) (upperHex connection.localAddr.port.toNat)
      (scanProcFds procs comm) ((lines contents).drop 1)
  | _, _ => none

/-! ## The lookup -/

/-- What the process lookup reads from the system. -/
structure ProcessSources where
  /-- What `ss -t|-u -p -n sport :<port>` prints, by protocol and port. -/
  ss : Protocol → UInt16 → CommandOutput
  netstat : CommandOutput
  /-- `/proc/net/tcp` and `/proc/net/udp`, if they could be read. -/
  procNet : Protocol → Option (List Char)
  /-- Each numbered directory of `/proc` with the link targets of its descriptors. -/
  procs : List (UInt32 × List (List Char))
  /-- `/proc/<pid>/comm`, if it could be read. -/
  comm : UInt32 → Option (List Char)

/-- `get_linux_process_for_connection`: `ss`, then `netstat`, then `/proc`. -/
def getLinuxProcessForConnection (connection : Connection) (sources : ProcessSources) :
    Option Process :=
  (trySsCommand connection (sources.ss connection.protocol connection.localAddr.port)).orElse
    fun _ => (tryNetstatCommand connection sources.netstat sources.comm).orElse
      fun _ => tryProcParsing connection sources.procNet sources.procs sources.comm

end RustNet.Network.Linux
