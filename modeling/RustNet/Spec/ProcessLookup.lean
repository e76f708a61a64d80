import RustNet.Network.ProcessLookup
import RustNet.Spec.SocketTables

/-!
# What the process lookup attributes

`try_ss_command` takes the first line after the header that holds `:<local port>` and
`:<remote port>` as substrings, anywhere in the line: `:5000` is found in `:50000`, so a line of
another flow of the same local port is taken for the connection's, with that flow's pid.

`try_proc_parsing` compares the `local_address` column of `/proc/net/tcp` with `{:X}` of the
address read as a big-endian `u32` and `{:X}` of the port, with no padding. The kernel prints the
address as a little-endian `u32` in `%08X` and the port in `%04X`: the port strings differ for
every port below `0x1000`, so for such a port no line of a kernel table is ever selected.

## Key results

- `getLinuxProcessForConnection_source`: every process the lookup returns is named by one of
  its sources (`SsNames`, `NetstatNames`, `ProcNames`), pid and name;
- `trySsLines_sound`: what `try_ss_command` returns comes from a line that holds both port
  substrings, with the pid of that line;
- `trySsCommand_other_flow`: a connection is attributed to the process of another flow;
- `procLocalMatches_kernel_low_port`, `tryProcParsing_kernel_low_port`: for a local port below
  `0x1000`, no line of a kernel table is selected and the lookup finds nothing;
- `tryProcParsing_misses_kernel_line`: the socket of `127.0.0.1:80` is not found.
-/

namespace RustNet.Network.Linux

open Monitor Text

/-! ## `ss -p` -/

/-- What the loop of `try_ss_command` returns is read off a line that holds both port
substrings: that line's pid, and its name. -/
theorem trySsLines_eq_some {localPort remotePort : UInt16} {ls : List (List Char)} {p : Process}
    (h : trySsLines localPort remotePort ls = some p) :
    ∃ line ∈ ls, contains (':' :: displayNat localPort.toNat) line = true ∧
      contains (':' :: displayNat remotePort.toNat) line = true ∧ ssLinePid line = some p.pid ∧
      p.name = String.mk (ssLineName line p.pid) := by
  induction ls with
  | nil => cases h
  | cons line rest ih =>
    rw [trySsLines] at h
    split_ifs at h with hm
    · obtain ⟨pid, hpid, rfl⟩ := Option.map_eq_some'.mp h
      rw [Bool.and_eq_true] at hm
      exact ⟨line, List.mem_cons_self _ _, hm.1, hm.2, hpid, rfl⟩
    · exact (ih h).imp fun _ ⟨hl, hl'⟩ => ⟨List.mem_cons_of_mem _ hl, hl'⟩

/-- What `try_ss_command` returns comes from a line after the header that holds both port
substrings, with that line's pid. -/
theorem trySsLines_sound {localPort remotePort : UInt16} {ls : List (List Char)} {p : Process}
    (h : trySsLines localPort remotePort ls = some p) :
    ∃ line ∈ ls, contains (':' :: displayNat localPort.toNat) line = true ∧
      contains (':' :: displayNat remotePort.toNat) line = true ∧ ssLinePid line = some p.pid :=
  let ⟨line, hl, h₁, h₂, h₃, _⟩ := trySsLines_eq_some h
  ⟨line, hl, h₁, h₂, h₃⟩

/-- What `ss -t -p -n sport :22` prints on a host with two SSH sessions: one from
`10.0.0.3:50000`, served by pid 100, and one from `10.0.0.2:5000`, served by pid 200. -/
def ssSportOutput : List Char :=
  unlines ["State Recv-Q Send-Q Local Address:Port Peer Address:Port Process".toList,
    "ESTAB 0 0 10.0.0.1:22 10.0.0.3:50000 users:((\"sshd\",pid=100,fd=4))".toList,
    "ESTAB 0 0 10.0.0.1:22 10.0.0.2:5000 users:((\"sshd\",pid=200,fd=4))".toList]

/-- The session from `10.0.0.2:5000` is attributed to pid 100, whose only line has another peer:
`:5000` is a substring of `:50000`. -/
theorem trySsCommand_other_flow :
    let c : Connection :=
      Connection.new .tcp (.v4 ⟨10, 0, 0, 1⟩ 22) (.v4 ⟨10, 0, 0, 2⟩ 5000) .established 0
    trySsCommand c (.success ssSportOutput) = some ⟨100, "sshd"⟩ ∧
      ∀ line ∈ (lines ssSportOutput).drop 1, ssLinePid line = some 100 →
        parseAddr ((splitWhitespace line).getD 4 []) ≠ some c.remoteAddr := by
  decide

/-! ## `/proc/net` -/

/-- `%0<w>X`: uppercase hexadecimal, padded with zeros to `w` digits. -/
def hexPadded (w n : Nat) : List Char := List.replicate (w - (upperHex n).length) '0' ++ upperHex n

/-- The `local_address` column the kernel prints in `/proc/net/tcp` for an IPv4 endpoint: the
octets read as a little-endian `u32` in `%08X`, `:`, and the port in `%04X`. -/
def kernelLocalAddress (ip : Ipv4Addr) (port : UInt16) : List Char :=
  hexPadded 8 (((ip.d.toNat * 256 + ip.c.toNat) * 256 + ip.b.toNat) * 256 + ip.a.toNat) ++
    ':' :: hexPadded 4 port.toNat

theorem rfind_eq_none {c : Char} {t : List Char} (h : c ∉ t) : rfind c t = none := by
  induction t with
  | nil => rfl
  | cons d t ih =>
    simp only [List.mem_cons, not_or] at h
    simp [rfind, ih h.2, Ne.symm h.1]

theorem rfind_append_cons {c : Char} {t : List Char} (h : c ∉ t) :
    ∀ u : List Char, rfind c (u ++ c :: t) = some u.length
  | [] => by simp [rfind, rfind_eq_none h]
  | d :: u => by simp [rfind, rfind_append_cons h u]

theorem colon_not_mem_upperHex (n : Nat) : ':' ∉ upperHex n := fun h => by
  obtain ⟨c, hc, heq⟩ := List.mem_map.mp h
  obtain ⟨d, hd, rfl⟩ := mem_toDigits (by decide) hc
  exact (by decide : ∀ d < 16, (Nat.digitChar d).toUpper ≠ ':') d hd heq

theorem colon_not_mem_hexPadded (w n : Nat) : ':' ∉ hexPadded w n := by
  simp only [hexPadded, List.mem_append, List.mem_replicate, not_or, not_and]
  exact ⟨fun _ => by decide, colon_not_mem_upperHex n⟩

/-- For a local port below `0x1000` the port `try_proc_parsing` builds has fewer than four
digits, and no `local_address` column of the kernel matches. -/
theorem procLocalMatches_kernel_low_port (ip ip' : Ipv4Addr) {port : UInt16} (port' : UInt16)
    (hport : port.toNat < 0x1000) :
    procLocalMatches (procAddrHex ip) (upperHex port.toNat) (kernelLocalAddress ip' port') =
      false := by
  have hlen : (upperHex port.toNat).length < 4 := by
    have := toDigits_length_le (b := 16) (e := 3) (by decide) (by decide) hport
    simp only [upperHex, List.length_map]
    omega
  have hpad : 4 ≤ (hexPadded 4 port'.toNat).length := by
    simp only [hexPadded, List.length_append, List.length_replicate]
    omega
  have hne : hexPadded 4 port'.toNat ≠ upperHex port.toNat := fun h => by rw [h] at hpad; omega
  unfold procLocalMatches kernelLocalAddress
  generalize hexPadded 8 _ = a
  rw [rfind_append_cons (colon_not_mem_hexPadded 4 port'.toNat)]
  dsimp only
  rw [List.drop_append, List.drop_one, List.tail_cons]
  simp [hne]

/-- A `/proc/net` table in the kernel's format: after the header, every line of at least ten
columns holds the kernel's `local_address` of some endpoint in column 1. -/
def KernelTable (contents : List Char) : Prop :=
  ∀ line ∈ (lines contents).drop 1, 10 ≤ (splitWhitespace line).length →
    ∃ ip port, (splitWhitespace line).getD 1 [] = kernelLocalAddress ip port

theorem tryProcLines_kernel_low_port (ip : Ipv4Addr) {port : UInt16} (hport : port.toNat < 0x1000)
    (scan : List Char → Option (Option Process)) :
    ∀ ls : List (List Char), (∀ line ∈ ls, 10 ≤ (splitWhitespace line).length →
      ∃ ip' port', (splitWhitespace line).getD 1 [] = kernelLocalAddress ip' port') →
      tryProcLines (procAddrHex ip) (upperHex port.toNat) scan ls = none
  | [], _ => rfl
  | line :: ls, h => by
    have ih := tryProcLines_kernel_low_port ip hport scan ls
      fun l hl => h l (List.mem_cons_of_mem _ hl)
    rw [tryProcLines]
    split_ifs with h10 hm
    · exact ih
    · obtain ⟨ip', port', hcol⟩ := h line (List.mem_cons_self _ _) (by omega)
      rw [hcol, procLocalMatches_kernel_low_port ip ip' port' hport] at hm
      cases hm
    · exact ih

/-- For an IPv4 connection whose local port is below `0x1000`, `try_proc_parsing` finds nothing
in a table of the kernel's format, whatever the processes hold. -/
theorem tryProcParsing_kernel_low_port {c : Connection} {ip : Ipv4Addr}
    (hip : c.localAddr.ip = .v4 ip) (hport : c.localAddr.port.toNat < 0x1000)
    {procNet : Protocol → Option (List Char)}
    (hkernel : ∀ contents, procNet c.protocol = some contents → KernelTable contents)
    (procs : List (UInt32 × List (List Char))) (comm : UInt32 → Option (List Char)) :
    tryProcParsing c procNet procs comm = none := by
  unfold tryProcParsing
  rw [hip]
  cases hnet : procNet c.protocol with
  | none => rfl
  | some contents => exact tryProcLines_kernel_low_port ip hport _ _ (hkernel contents hnet)

/-- The `/proc/net/tcp` of a host with one socket, listening on `127.0.0.1:80`, inode 12345. -/
def procNetTcpListen : List Char :=
  unlines ["  sl  local_address rem_address   st tx_queue rx_queue tr tm->when retrnsmt   uid  timeout inode".toList,
    unwords ["0:".toList, kernelLocalAddress ⟨127, 0, 0, 1⟩ 80, kernelLocalAddress ⟨0, 0, 0, 0⟩ 0,
      "0A".toList, "00000000:00000000".toList, "00:00000000".toList, "00000000".toList,
      "0".toList, "0".toList, "12345".toList, "1".toList, "0000000000000000".toList,
      "100".toList, "0".toList, "0".toList, "10".toList, "0".toList]]

/-- The socket of a server on `127.0.0.1:80` is in the table, under the kernel's encoding of its
endpoint, and the scan of `/proc` finds its process; `try_proc_parsing` still finds nothing,
since it looks for `7F000001:50`. -/
theorem tryProcParsing_misses_kernel_line :
    let c : Connection :=
      Connection.new .tcp (.v4 ⟨127, 0, 0, 1⟩ 80) (.v4 ⟨0, 0, 0, 0⟩ 0) .listen 0
    let procs : List (UInt32 × List (List Char)) := [(1234, ["socket:[12345]".toList])]
    (splitWhitespace ((lines procNetTcpListen).getD 1 [])).getD 1 [] =
        kernelLocalAddress ⟨127, 0, 0, 1⟩ 80 ∧
      scanProcFds procs (fun _ => some "nginx\n".toList)
          ((splitWhitespace ((lines procNetTcpListen).getD 1 [])).getD 9 []) =
        some (some ⟨1234, "nginx"⟩) ∧
      tryProcParsing c (fun _ => some procNetTcpListen) procs (fun _ => some "nginx\n".toList) =
        none := by
  decide

/-! ## Where an attributed process comes from -/

/-- What the loop of `try_netstat_command` returns is read off a line that matches the
connection: the pid of column 6, and the name in `/proc/<pid>/comm` or `process-<pid>`. -/
theorem tryNetstatLines_eq_some {c : Connection} {comm : UInt32 → Option (List Char)}
    {ls : List (List Char)} {p : Process} (h : tryNetstatLines c comm ls = some p) :
    ∃ line ∈ ls, netstatLineMatches c (splitWhitespace line) = true ∧
      parseU32 ((splitWhitespace line).getD 6 []) = some p.pid ∧
      p.name = String.mk ((getProcessNameByPid comm p.pid).getD (processPlaceholder p.pid)) := by
  induction ls with
  | nil => cases h
  | cons line rest ih =>
    rw [tryNetstatLines] at h
    split_ifs at h with h5 hm h6
    · exact (ih h).imp fun _ ⟨hl, hl'⟩ => ⟨List.mem_cons_of_mem _ hl, hl'⟩
    · obtain ⟨pid, hpid, rfl⟩ := Option.map_eq_some'.mp h
      exact ⟨line, List.mem_cons_self _ _, hm, hpid, rfl⟩
    · exact (ih h).imp fun _ ⟨hl, hl'⟩ => ⟨List.mem_cons_of_mem _ hl, hl'⟩

/-- The scan of `/proc` finds a process only through a descriptor linked to the inode's socket,
and names it by its `comm`. -/
theorem scanProcFds_eq_some {procs : List (UInt32 × List (List Char))}
    {comm : UInt32 → Option (List Char)} {inode : List Char} {p : Process}
    (h : scanProcFds procs comm inode = some (some p)) :
    ∃ fds, (p.pid, fds) ∈ procs ∧
      fds.any (contains ("socket:[".toList ++ inode ++ "]".toList)) = true ∧
      getProcessNameByPid comm p.pid = some p.name.data := by
  obtain ⟨⟨pid, fds⟩, hfind, hp⟩ := Option.map_eq_some'.mp h
  obtain ⟨name, hname, rfl⟩ := Option.map_eq_some'.mp hp
  have hany := List.find?_some hfind
  exact ⟨fds, List.mem_of_find?_eq_some hfind, hany, hname⟩

/-- What the loop of `try_proc_parsing` returns comes from a line whose `local_address` matches,
through the scan for that line's inode. -/
theorem tryProcLines_eq_some {localAddr localPort : List Char}
    {scan : List Char → Option (Option Process)} {ls : List (List Char)} {p : Process}
    (h : tryProcLines localAddr localPort scan ls = some p) :
    ∃ line ∈ ls, procLocalMatches localAddr localPort ((splitWhitespace line).getD 1 []) = true ∧
      scan ((splitWhitespace line).getD 9 []) = some (some p) := by
  induction ls with
  | nil => cases h
  | cons line rest ih =>
    rw [tryProcLines] at h
    split_ifs at h with h10 hm
    · exact (ih h).imp fun _ ⟨hl, hl'⟩ => ⟨List.mem_cons_of_mem _ hl, hl'⟩
    · split at h
      · rename_i hscan
        exact ⟨line, List.mem_cons_self _ _, hm, h ▸ hscan⟩
      · exact (ih h).imp fun _ ⟨hl, hl'⟩ => ⟨List.mem_cons_of_mem _ hl, hl'⟩
    · exact (ih h).imp fun _ ⟨hl, hl'⟩ => ⟨List.mem_cons_of_mem _ hl, hl'⟩

/-- The output of `ss` names `p` for `c`: a line after the header holds both port substrings,
with `p`'s pid and name. -/
def SsNames (c : Connection) (output : CommandOutput) (p : Process) : Prop :=
  ∃ text, output = .success text ∧ ∃ line ∈ (lines text).drop 1,
    contains (':' :: displayNat c.localAddr.port.toNat) line = true ∧
    contains (':' :: displayNat c.remoteAddr.port.toNat) line = true ∧
    ssLinePid line = some p.pid ∧ p.name = String.mk (ssLineName line p.pid)

/-- The output of `netstat` names `p` for `c`: a line after the headers matches `c`, with `p`'s
pid in column 6; the name is the process's `comm`, or `process-<pid>` without one. -/
def NetstatNames (c : Connection) (output : CommandOutput) (comm : UInt32 → Option (List Char))
    (p : Process) : Prop :=
  ∃ text, output = .success text ∧ ∃ line ∈ (lines text).drop 2,
    netstatLineMatches c (splitWhitespace line) = true ∧
    parseU32 ((splitWhitespace line).getD 6 []) = some p.pid ∧
    p.name = String.mk ((getProcessNameByPid comm p.pid).getD (processPlaceholder p.pid))

/-- `/proc` names `p` for the IPv4 connection `c`: a line of the protocol's table after the
header has a matching `local_address`, and `p`'s directory holds a descriptor on that line's
socket inode; the name is `p`'s `comm`. -/
def ProcNames (c : Connection) (procNet : Protocol → Option (List Char))
    (procs : List (UInt32 × List (List Char))) (comm : UInt32 → Option (List Char))
    (p : Process) : Prop :=
  ∃ ip contents, c.localAddr.ip = .v4 ip ∧ procNet c.protocol = some contents ∧
    ∃ line ∈ (lines contents).drop 1,
      procLocalMatches (procAddrHex ip) (upperHex c.localAddr.port.toNat)
        ((splitWhitespace line).getD 1 []) = true ∧
      ∃ fds, (p.pid, fds) ∈ procs ∧
        fds.any (contains ("socket:[".toList ++ (splitWhitespace line).getD 9 [] ++
          "]".toList)) = true ∧
        getProcessNameByPid comm p.pid = some p.name.data

theorem trySsCommand_eq_some {c : Connection} {output : CommandOutput} {p : Process}
    (h : trySsCommand c output = some p) : SsNames c output p := by
  cases output with
  | success text => exact ⟨text, rfl, trySsLines_eq_some h⟩
  | _ => cases h

theorem tryNetstatCommand_eq_some {c : Connection} {output : CommandOutput}
    {comm : UInt32 → Option (List Char)} {p : Process}
    (h : tryNetstatCommand c output comm = some p) : NetstatNames c output comm p := by
  cases output with
  | success text => exact ⟨text, rfl, tryNetstatLines_eq_some h⟩
  | _ => cases h

theorem tryProcParsing_eq_some {c : Connection} {procNet : Protocol → Option (List Char)}
    {procs : List (UInt32 × List (List Char))} {comm : UInt32 → Option (List Char)} {p : Process}
    (h : tryProcParsing c procNet procs comm = some p) : ProcNames c procNet procs comm p := by
  unfold tryProcParsing at h
  split at h
  · rename_i ip contents hip hnet
    obtain ⟨line, hl, hm, hscan⟩ := tryProcLines_eq_some h
    exact ⟨ip, contents, hip, hnet, line, hl, hm, scanProcFds_eq_some hscan⟩
  · cases h

/-- A process the Linux lookup attributes to a connection is named by one of its three sources,
in the order they are tried: `ss`, then `netstat`, then `/proc`. The lookup never makes up a
pid or a name. -/
theorem getLinuxProcessForConnection_source {c : Connection} {sources : ProcessSources}
    {p : Process} (h : getLinuxProcessForConnection c sources = some p) :
    SsNames c (sources.ss c.protocol c.localAddr.port) p ∨
      NetstatNames c sources.netstat sources.comm p ∨
      ProcNames c sources.procNet sources.procs sources.comm p := by
  rcases (Option.orElse_eq_some' _ _ _).mp h with hss | ⟨-, h⟩
  · exact .inl (trySsCommand_eq_some hss)
  rcases (Option.orElse_eq_some' _ _ _).mp h with hnet | ⟨-, hproc⟩
  · exact .inr (.inl (tryNetstatCommand_eq_some hnet))
  · exact .inr (.inr (tryProcParsing_eq_some hproc))

/-- The session from `10.0.0.3:50000` to the SSH server is attributed to `sshd`, pid 100, by
its `ss` line. -/
theorem getLinuxProcessForConnection_source_sshd :
    SsNames (Connection.new .tcp (.v4 ⟨10, 0, 0, 1⟩ 22) (.v4 ⟨10, 0, 0, 3⟩ 50000) .established 0)
        (.success ssSportOutput) ⟨100, "sshd"⟩ ∨
      NetstatNames (Connection.new .tcp (.v4 ⟨10, 0, 0, 1⟩ 22) (.v4 ⟨10, 0, 0, 3⟩ 50000)
        .established 0) .failed (fun _ => none) ⟨100, "sshd"⟩ ∨
      ProcNames (Connection.new .tcp (.v4 ⟨10, 0, 0, 1⟩ 22) (.v4 ⟨10, 0, 0, 3⟩ 50000)
        .established 0) (fun _ => none) [] (fun _ => none) ⟨100, "sshd"⟩ :=
  @getLinuxProcessForConnection_source _
    ⟨fun _ _ => .success ssSportOutput, .failed, fun _ => none, [], fun _ => none⟩ _ (by decide)

end RustNet.Network.Linux
