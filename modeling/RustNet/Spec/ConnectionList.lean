import RustNet.Network.GetConnections
import RustNet.Spec.CaptureCorrect

/-!
# Flow identities in the connection list

`get_connections` adds a captured flow only when no listed connection has its protocol and
addresses, and then only looks up processes, sorts and filters, none of which changes a flow
identity. So the list holds a flow twice exactly when the platform list does: every duplicate
comes from `ss` and `netstat`. Those two lists are appended with no such check, and the `netstat`
parser reads the queue columns `Recv-Q` and `Send-Q` where the addresses are meant to be:
`parse_addr` takes a bare number for a port on `127.0.0.1`, so every `netstat` line with empty
queues lists the one flow `127.0.0.1:0 → 127.0.0.1:0`.

When no line of either output parses, `get_platform_connections` falls back to
`get_connections_from_pcap`, which reads no capture: it makes up connections from the local
address to `8.8.8.8`.

## Key results

- `mem_getPlatformConnections`: a connection of the platform list is parsed from a line of the
  `ss` or the `netstat` output, or, when no line of either parses, is one of those samples;
- `getConnections_without_sources`: with `ss` listing nothing, no `netstat` and nothing
  captured, the result is five connections to `8.8.8.8`;
- `getConnections_flows`: the result's flows are the platform list's and the active captured
  ones, less loopback pairs when filtering, newest first;
- `getConnections_count`: a listed flow occurs as often in the result as in the platform list,
  unless the localhost filter drops it;
- `getConnections_nodup`: a platform list without a repeated flow gives a result without one;
- `netstatConnection_empty_queues`: every `netstat` line with empty queues lists
  `127.0.0.1:0 → 127.0.0.1:0`;
- `netstat_count_le_getConnections`: a flow occurs in the result at least as often as the
  `netstat` output lists it;
- `getConnections_netstat_duplicate`: with a `netstat` output of two established connections,
  the result holds `127.0.0.1:0 → 127.0.0.1:0` at least twice, whatever `ss` printed, whatever
  the capture map, the clock and the process lookup;
- `getConnections_listed_counters`: a flow the platform lists is returned with zero counters,
  and `getConnections_listed_flow_counters`: a captured SYN that `ss` also lists loses its
  packet and byte counts.
-/

namespace RustNet.Network.Monitor

open Linux Text

/-! ## The capture loop -/

/-- One step of the capture loop leaves the list alone, or appends a flow it does not hold. -/
theorem addCaptured_cases (now : Nat) (cs : List Connection) (c : Connection) :
    addCaptured now cs c = cs ∨
      (c.identity ∉ cs.map Connection.identity ∧ addCaptured now cs c = cs ++ [c]) := by
  unfold addCaptured
  dsimp only
  split
  · rename_i h
    refine .inr ⟨?_, rfl⟩
    simp only [Bool.and_eq_true, Bool.not_eq_true', List.any_eq_false, beq_iff_eq] at h
    simp only [List.mem_map, not_exists, not_and, Connection.identity, FlowIdentity.mk.injEq]
    exact fun c' hc' h1 h2 h3 => h.1 c' hc' ⟨⟨h1, h2⟩, h3⟩
  · exact .inl rfl

/-- The capture loop keeps the count of every flow the list already holds. -/
theorem count_foldl_addCaptured (now : Nat) (entries : List (ConnKey × Connection))
    (cs : List Connection) {x : FlowIdentity}
    (hx : x ∈ cs.map Connection.identity) :
    ((entries.foldl (fun cs e => addCaptured now cs e.2) cs).map Connection.identity).count x =
      (cs.map Connection.identity).count x := by
  induction entries generalizing cs with
  | nil => rfl
  | cons e entries ih =>
    rw [List.foldl_cons]
    rcases addCaptured_cases now cs e.2 with h | ⟨hn, h⟩ <;> rw [h]
    · exact ih cs hx
    · have hne : e.2.identity ≠ x := fun heq => hn (heq ▸ hx)
      rw [ih _ (by simp [hx]), List.map_append, List.count_append]
      simp [List.count_cons, hne]

/-- The capture loop adds no repeated flow. -/
theorem nodup_foldl_addCaptured (now : Nat) (entries : List (ConnKey × Connection))
    (cs : List Connection) (h : (cs.map Connection.identity).Nodup) :
    ((entries.foldl (fun cs e => addCaptured now cs e.2) cs).map Connection.identity).Nodup := by
  induction entries generalizing cs with
  | nil => exact h
  | cons e entries ih =>
    rw [List.foldl_cons]
    rcases addCaptured_cases now cs e.2 with h' | ⟨hn, h'⟩ <;> rw [h']
    · exact ih cs h
    · refine ih _ ?_
      rw [List.map_append, List.map_singleton, ← List.concat_eq_append]
      exact h.concat hn

/-- The capture loop's step on flow identities: those of the list, and the connection's if it
is active. -/
theorem mem_identities_addCaptured {now : Nat} {cs : List Connection} {c : Connection}
    {x : FlowIdentity} :
    x ∈ (addCaptured now cs c).map Connection.identity ↔
      x ∈ cs.map Connection.identity ∨ (c.isActive now = true ∧ c.identity = x) := by
  unfold addCaptured
  dsimp only
  split
  · rename_i h
    simp only [Bool.and_eq_true] at h
    simp only [List.map_append, List.mem_append, List.map_singleton, List.mem_singleton, h.2,
      true_and, eq_comm]
  · rename_i h
    refine ⟨.inl, ?_⟩
    rintro (hx | ⟨ha, rfl⟩)
    · exact hx
    · -- not appended although active: a listed connection has the flow
      simp only [ha, Bool.and_true, Bool.not_eq_true', Bool.not_eq_false, List.any_eq_true,
        Bool.and_eq_true, beq_iff_eq] at h
      obtain ⟨c', hc', ⟨h1, h2⟩, h3⟩ := h
      exact List.mem_map.mpr ⟨c', hc', by simp [Connection.identity, h1, h2, h3]⟩

/-- The flows after the capture loop: those of the list, and those of the active entries. -/
theorem mem_identities_foldl_addCaptured {now : Nat} {entries : List (ConnKey × Connection)}
    {cs : List Connection} {x : FlowIdentity} :
    x ∈ (entries.foldl (fun cs e => addCaptured now cs e.2) cs).map Connection.identity ↔
      x ∈ cs.map Connection.identity ∨ ∃ e ∈ entries, e.2.isActive now = true ∧ e.2.identity = x := by
  induction entries generalizing cs with
  | nil => simp
  | cons e entries ih =>
    rw [List.foldl_cons, ih, mem_identities_addCaptured]
    simp only [List.mem_cons, exists_eq_or_imp, or_assoc]

/-! ## Lookup, sort and filter -/

theorem identity_withProcess (lookup : Connection → Option Process) (c : Connection) :
    (withProcess lookup c).identity = c.identity := by
  unfold withProcess
  split
  · split <;> rfl
  · rfl

/-- What `get_connections` does after the capture loop, on flow identities: a permutation, then
the localhost filter. -/
theorem getConnections_identities (now : Nat) (capture : ConnMap) (ss netstat : CommandOutput)
    (localIp : IpAddr) (collectProcessInfo filterLocalhost : Bool)
    (lookup : Connection → Option Process) :
    ∃ l, (l.Perm ((capture.toList.foldl (fun cs e => addCaptured now cs e.2)
        (getPlatformConnections now ss netstat localIp)).map Connection.identity)) ∧
      (getConnections now capture ss netstat localIp collectProcessInfo filterLocalhost
          lookup).map Connection.identity =
        if filterLocalhost then
          l.filter fun x => !(x.localAddr.ip.isLoopback && x.remoteAddr.ip.isLoopback)
        else l := by
  let captured := capture.toList.foldl (fun cs e => addCaptured now cs e.2)
    (getPlatformConnections now ss netstat localIp)
  let looked := if collectProcessInfo then captured.map (withProcess lookup) else captured
  have hlooked : looked.map Connection.identity = captured.map Connection.identity := by
    by_cases hc : collectProcessInfo <;> simp [looked, hc, Function.comp_def, identity_withProcess]
  let sorted := looked.insertionSort fun a b => b.lastActivity ≤ a.lastActivity
  refine ⟨sorted.map Connection.identity, ?_, ?_⟩
  · rw [← hlooked]
    exact (List.perm_insertionSort _ looked).map _
  · show (if filterLocalhost then _ else sorted).map _ = _
    split
    · rw [List.filter_map]; rfl
    · rfl

/-- A flow the platform list holds occurs as often in the result, unless the localhost filter
drops it. -/
theorem getConnections_count (now : Nat) (capture : ConnMap) (ss netstat : CommandOutput)
    (localIp : IpAddr) (collectProcessInfo filterLocalhost : Bool)
    (lookup : Connection → Option Process) {x : FlowIdentity}
    (hx : x ∈ (getPlatformConnections now ss netstat localIp).map Connection.identity)
    (hkeep : filterLocalhost = true →
      ¬(x.localAddr.ip.isLoopback ∧ x.remoteAddr.ip.isLoopback)) :
    ((getConnections now capture ss netstat localIp collectProcessInfo filterLocalhost
        lookup).map Connection.identity).count x =
      ((getPlatformConnections now ss netstat localIp).map Connection.identity).count x := by
  obtain ⟨l, hl, heq⟩ := getConnections_identities now capture ss netstat localIp
    collectProcessInfo filterLocalhost lookup
  rw [heq, ← count_foldl_addCaptured now capture.toList _ hx, ← hl.count_eq]
  split
  · rename_i hf
    exact List.count_filter (by simpa [imp_iff_not_or] using hkeep hf)
  · rfl

/-- The result repeats no flow if the platform list repeats none. -/
theorem getConnections_nodup (now : Nat) (capture : ConnMap) (ss netstat : CommandOutput)
    (localIp : IpAddr) (collectProcessInfo filterLocalhost : Bool)
    (lookup : Connection → Option Process)
    (h : ((getPlatformConnections now ss netstat localIp).map Connection.identity).Nodup) :
    ((getConnections now capture ss netstat localIp collectProcessInfo filterLocalhost
        lookup).map Connection.identity).Nodup := by
  obtain ⟨l, hl, heq⟩ := getConnections_identities now capture ss netstat localIp
    collectProcessInfo filterLocalhost lookup
  have hnd : l.Nodup := hl.nodup_iff.mpr (nodup_foldl_addCaptured now capture.toList _ h)
  rw [heq]
  split
  · exact hnd.filter _
  · exact hnd

/-- The flows `get_connections` reports are the flows of the platform list and those of the
active captured entries, less the ones between two loopback addresses when `filter_localhost` is
set; and the list is ordered by last activity, newest first. No active captured flow is lost. -/
theorem getConnections_flows (now : Nat) (capture : ConnMap) (ss netstat : CommandOutput)
    (localIp : IpAddr) (collectProcessInfo filterLocalhost : Bool)
    (lookup : Connection → Option Process) :
    (∀ x, x ∈ (getConnections now capture ss netstat localIp collectProcessInfo filterLocalhost
        lookup).map Connection.identity ↔
      (x ∈ (getPlatformConnections now ss netstat localIp).map Connection.identity ∨
        ∃ e ∈ capture.toList, e.2.isActive now = true ∧ e.2.identity = x) ∧
      (filterLocalhost = true →
        ¬(x.localAddr.ip.isLoopback = true ∧ x.remoteAddr.ip.isLoopback = true))) ∧
    (getConnections now capture ss netstat localIp collectProcessInfo filterLocalhost
        lookup).Sorted fun a b => b.lastActivity ≤ a.lastActivity := by
  refine ⟨fun x => ?_, ?_⟩
  · obtain ⟨l, hl, heq⟩ := getConnections_identities now capture ss netstat localIp
      collectProcessInfo filterLocalhost lookup
    rw [heq, ← mem_identities_foldl_addCaptured, ← hl.mem_iff]
    cases filterLocalhost
    · simp
    · simp only [if_true, List.mem_filter, Bool.not_eq_true', Bool.and_eq_false_iff]
      cases x.localAddr.ip.isLoopback <;> simp
  · have : IsTotal Connection fun a b => b.lastActivity ≤ a.lastActivity :=
      ⟨fun a b => le_total b.lastActivity a.lastActivity⟩
    have : IsTrans Connection fun a b => b.lastActivity ≤ a.lastActivity :=
      ⟨fun _ _ _ h₁ h₂ => le_trans h₂ h₁⟩
    unfold getConnections
    dsimp only
    split
    · exact (List.sorted_insertionSort _ _).filter _
    · exact List.sorted_insertionSort _ _

/-! ## Where the platform list comes from -/

/-- The lines of a command's output after its `headers` header lines; none when the command
failed or could not be run. -/
def bodyLines (output : CommandOutput) (headers : Nat) : List (List Char) :=
  match output with
  | .success text => (lines text).drop headers
  | _ => []

/-- The platform list is what the `ss` lines list and then what the `netstat` lines list, or,
when both list nothing, the samples of `get_connections_from_pcap`. -/
theorem getPlatformConnections_eq (now : Nat) (ss netstat : CommandOutput)
    (localIp : IpAddr) :
    getPlatformConnections now ss netstat localIp =
      if (bodyLines ss 1).filterMap (ssConnection now) ++
          (bodyLines netstat 2).filterMap (netstatConnection now) = [] then
        getConnectionsFromPcap now localIp []
      else (bodyLines ss 1).filterMap (ssConnection now) ++
        (bodyLines netstat 2).filterMap (netstatConnection now) := by
  have hss : (getConnectionsFromSs now ss []).getD [] =
      (bodyLines ss 1).filterMap (ssConnection now) := by
    cases ss <;> rfl
  have hnet : ∀ cs, (getConnectionsFromNetstat now netstat cs).getD cs =
      cs ++ (bodyLines netstat 2).filterMap (netstatConnection now) := by
    intro cs; cases netstat <;> simp [getConnectionsFromNetstat, bodyLines]
  simp only [getPlatformConnections, hss, hnet, List.isEmpty_iff]
  split_ifs with h
  · rw [h]
  · rfl

/-- A connection of the platform list is parsed from a line of the `ss` output after its header
or from a line of the `netstat` output after its two headers; or no line of either parses and
it is one of the samples `get_connections_from_pcap` makes up from the local address. -/
theorem mem_getPlatformConnections {now : Nat} {ss netstat : CommandOutput}
    {localIp : IpAddr} {c : Connection} :
    c ∈ getPlatformConnections now ss netstat localIp ↔
      ((∃ line ∈ bodyLines ss 1, ssConnection now line = some c) ∨
        ∃ line ∈ bodyLines netstat 2, netstatConnection now line = some c) ∨
      ((∀ line ∈ bodyLines ss 1, ssConnection now line = none) ∧
        (∀ line ∈ bodyLines netstat 2, netstatConnection now line = none) ∧
        c ∈ [80, 443, 22, 53].flatMap (pcapSamples now localIp)) := by
  rw [getPlatformConnections_eq]
  split
  · rename_i h
    rw [List.append_eq_nil, List.filterMap_eq_nil_iff, List.filterMap_eq_nil_iff] at h
    have hparsed : ¬((∃ line ∈ bodyLines ss 1, ssConnection now line = some c) ∨
        ∃ line ∈ bodyLines netstat 2, netstatConnection now line = some c) := by
      rintro (⟨line, hl, hc⟩ | ⟨line, hl, hc⟩)
      · rw [h.1 line hl] at hc; cases hc
      · rw [h.2 line hl] at hc; cases hc
    simp only [getConnectionsFromPcap, List.nil_append]
    exact ⟨fun hc => .inr ⟨h.1, h.2, hc⟩, fun hc => (hc.resolve_left hparsed).2.2⟩
  · rename_i h
    rw [List.append_eq_nil, List.filterMap_eq_nil_iff, List.filterMap_eq_nil_iff] at h
    simp only [List.mem_append, List.mem_filterMap]
    exact ⟨.inl, fun h' => h'.resolve_right fun ⟨hss, hnet, _⟩ => h ⟨hss, hnet⟩⟩

/-- What `ss -tupn` prints on a host with no socket to list: its header line. -/
def ssHeaderOnly : List Char :=
  "Netid State Recv-Q Send-Q Local Address:Port Peer Address:Port Process\n".toList

/-- On a host where `ss` lists no socket and `netstat` is not installed, with nothing captured,
`get_connections` returns five connections to `8.8.8.8` that no source reported: the samples
`get_connections_from_pcap` makes up from the local address. -/
theorem getConnections_without_sources :
    bodyLines (.success ssHeaderOnly) 1 = [] ∧
      (getConnections 0 .empty (.success ssHeaderOnly) .failedToRun
          (.v4 ⟨192, 168, 1, 10⟩) false false fun _ => none).map Connection.identity =
        [⟨.tcp, .v4 ⟨192, 168, 1, 10⟩ 10080, .v4 ⟨8, 8, 8, 8⟩ 80⟩,
          ⟨.tcp, .v4 ⟨192, 168, 1, 10⟩ 10443, .v4 ⟨8, 8, 8, 8⟩ 443⟩,
          ⟨.tcp, .v4 ⟨192, 168, 1, 10⟩ 10022, .v4 ⟨8, 8, 8, 8⟩ 22⟩,
          ⟨.tcp, .v4 ⟨192, 168, 1, 10⟩ 10053, .v4 ⟨8, 8, 8, 8⟩ 53⟩,
          ⟨.udp, .v4 ⟨192, 168, 1, 10⟩ 10053, .v4 ⟨8, 8, 8, 8⟩ 53⟩] := by
  decide

/-! ## The clock -/

/-- A connection with both its times set to `now`: what a later reading of the clock changes in
a connection the parsers build. -/
def stamp (now : Nat) (c : Connection) : Connection :=
  { c with createdAt := now, lastActivity := now }

@[simp] theorem identity_stamp (now : Nat) (c : Connection) : (stamp now c).identity = c.identity :=
  rfl

/-- The clock only stamps the times of what a `netstat` line lists. -/
theorem netstatConnection_stamp (now : Nat) (line : List Char) :
    netstatConnection now line = (netstatConnection 0 line).map (stamp now) := by
  unfold netstatConnection
  dsimp only
  split
  · rfl
  · rw [Option.map_bind]
    congr 1
    funext protocol
    split
    · split
      · split <;> rfl
      · rfl
    · rfl

/-- The flows a `netstat` output lists do not depend on the clock. -/
theorem netstatLines_identity (now : Nat) (text : List Char) :
    (((lines text).drop 2).filterMap (netstatConnection now)).map Connection.identity =
      (((lines text).drop 2).filterMap (netstatConnection 0)).map Connection.identity := by
  rw [show netstatConnection now = fun line => (netstatConnection 0 line).map (stamp now) from
    funext (netstatConnection_stamp now), ← List.map_filterMap, List.map_map]
  rfl

/-! ## Flows listed by `netstat` -/

/-- A `netstat` line lists the flow that its protocol column and its columns 1 and 2 name. -/
theorem netstatConnection_identity (now : Nat) (line : List Char) {protocol : Protocol}
    {localAddr remoteAddr : SocketAddr} (hlen : 5 ≤ (splitWhitespace line).length)
    (hp : protocolOf (toLowercase ((splitWhitespace line).getD 0 [])) = some protocol)
    (hl : parseAddr ((splitWhitespace line).getD 1 []) = some localAddr)
    (hr : parseAddr ((splitWhitespace line).getD 2 []) = some remoteAddr) :
    (netstatConnection now line).map Connection.identity =
      some ⟨protocol, localAddr, remoteAddr⟩ := by
  unfold netstatConnection
  dsimp only
  rw [if_neg (by omega), hp, Option.some_bind]
  simp only [hl, hr]
  split_ifs <;> (try split) <;> rfl

/-- Columns 1 and 2 of what `netstat -tupn` prints are `Recv-Q` and `Send-Q`: every line with
empty queues lists the flow `127.0.0.1:0 → 127.0.0.1:0`. -/
theorem netstatConnection_empty_queues (now : Nat) (line : List Char) {protocol : Protocol}
    (hlen : 5 ≤ (splitWhitespace line).length)
    (hp : protocolOf (toLowercase ((splitWhitespace line).getD 0 [])) = some protocol)
    (hrecv : (splitWhitespace line).getD 1 [] = ['0'])
    (hsend : (splitWhitespace line).getD 2 [] = ['0']) :
    (netstatConnection now line).map Connection.identity =
      some ⟨protocol, .v4 ⟨127, 0, 0, 1⟩ 0, .v4 ⟨127, 0, 0, 1⟩ 0⟩ :=
  netstatConnection_identity now line hlen hp (by rw [hrecv]; decide) (by rw [hsend]; decide)

/-- With a `netstat` output that lists a connection, the platform list is the `ss` list and then
the `netstat` list. -/
theorem getPlatformConnections_netstat (now : Nat) (ss : CommandOutput) (text : List Char)
    (localIp : IpAddr)
    (h : ((lines text).drop 2).filterMap (netstatConnection now) ≠ []) :
    getPlatformConnections now ss (.success text) localIp =
      (getConnectionsFromSs now ss []).getD [] ++
        ((lines text).drop 2).filterMap (netstatConnection now) := by
  simp [getPlatformConnections, getConnectionsFromNetstat, h]

/-- A flow occurs in the result at least as often as the `netstat` output lists it, unless the
localhost filter drops it. -/
theorem netstat_count_le_getConnections (now : Nat) (capture : ConnMap) (ss : CommandOutput)
    (text : List Char) (localIp : IpAddr) (collectProcessInfo filterLocalhost : Bool)
    (lookup : Connection → Option Process) {x : FlowIdentity}
    (hx : x ∈ (((lines text).drop 2).filterMap (netstatConnection now)).map Connection.identity)
    (hkeep : filterLocalhost = true →
      ¬(x.localAddr.ip.isLoopback ∧ x.remoteAddr.ip.isLoopback)) :
    ((((lines text).drop 2).filterMap (netstatConnection now)).map Connection.identity).count x ≤
      ((getConnections now capture ss (.success text) localIp collectProcessInfo filterLocalhost
        lookup).map Connection.identity).count x := by
  have hplatform := getPlatformConnections_netstat now ss text localIp
    (by rintro h; simp [h] at hx)
  have hmem : x ∈ (getPlatformConnections now ss (.success text) localIp).map
      Connection.identity := by
    rw [hplatform, List.map_append]
    exact List.mem_append_right _ hx
  rw [getConnections_count now capture ss _ localIp collectProcessInfo filterLocalhost lookup
    hmem hkeep, hplatform, List.map_append, List.count_append]
  omega

/-- What `netstat -tupn` prints for two established TCP connections of two programs. -/
def netstatTwoFlows : List Char :=
  ("Active Internet connections (w/o servers)\n" ++
    "Proto Recv-Q Send-Q Local Address           Foreign Address         State       " ++
    "PID/Program name\n" ++
    "tcp        0      0 10.0.0.1:1234           10.0.0.2:80             ESTABLISHED 789/curl\n" ++
    "tcp        0      0 10.0.0.1:1235           10.0.0.3:443            ESTABLISHED 790/wget\n"
    ).toList

theorem getConnections_netstat_duplicate (now : Nat) (capture : ConnMap) (ss : CommandOutput)
    (localIp : IpAddr) (collectProcessInfo : Bool) (lookup : Connection → Option Process) :
    2 ≤ ((getConnections now capture ss (.success netstatTwoFlows) localIp collectProcessInfo
        false lookup).map Connection.identity).count
      ⟨.tcp, .v4 ⟨127, 0, 0, 1⟩ 0, .v4 ⟨127, 0, 0, 1⟩ 0⟩ := by
  -- both lines list the queue columns `0 0` as their addresses
  have hlisted : (((lines netstatTwoFlows).drop 2).filterMap (netstatConnection now)).map
      Connection.identity = [⟨.tcp, .v4 ⟨127, 0, 0, 1⟩ 0, .v4 ⟨127, 0, 0, 1⟩ 0⟩,
        ⟨.tcp, .v4 ⟨127, 0, 0, 1⟩ 0, .v4 ⟨127, 0, 0, 1⟩ 0⟩] := by
    rw [netstatLines_identity]; decide
  have hle := @netstat_count_le_getConnections now capture ss netstatTwoFlows localIp
    collectProcessInfo false lookup ⟨.tcp, .v4 ⟨127, 0, 0, 1⟩ 0, .v4 ⟨127, 0, 0, 1⟩ 0⟩
    (by simp [hlisted]) (fun h => nomatch h)
  rw [hlisted] at hle
  simpa using hle

/-! ## Counters of a flow both sources see -/

/-- A connection as the table parsers and the samples build it: `Connection::new` at `now`, with
at most a pid and a process name filled in. -/
def FromTable (now : Nat) (c : Connection) : Prop :=
  ∃ protocol localAddr remoteAddr state pid processName,
    c = { Connection.new protocol localAddr remoteAddr state now with
      pid := pid
      processName := processName }

/-- What an `ss` line lists is a table entry. -/
theorem ssConnection_fromTable {now : Nat} {line : List Char} {c : Connection}
    (h : ssConnection now line = some c) : FromTable now c := by
  unfold ssConnection at h
  dsimp only at h
  split at h
  · cases h
  obtain ⟨protocol, -, h⟩ := Option.bind_eq_some.mp h
  split at h
  · cases h
  split at h
  · split at h
    · split at h <;> cases h <;> exact ⟨_, _, _, _, _, _, rfl⟩
    · cases h; exact ⟨_, _, _, _, none, none, rfl⟩
  · cases h

/-- What a `netstat` line lists is a table entry. -/
theorem netstatConnection_fromTable {now : Nat} {line : List Char} {c : Connection}
    (h : netstatConnection now line = some c) : FromTable now c := by
  unfold netstatConnection at h
  dsimp only at h
  split at h
  · cases h
  obtain ⟨protocol, -, h⟩ := Option.bind_eq_some.mp h
  split at h
  · split at h
    · split at h <;> cases h <;> exact ⟨_, _, _, _, _, _, rfl⟩
    · cases h; exact ⟨_, _, _, _, none, none, rfl⟩
  · cases h

theorem FromTable.new {now : Nat} (protocol : Protocol) (localAddr remoteAddr : SocketAddr)
    (state : ConnectionState) :
    FromTable now (Connection.new protocol localAddr remoteAddr state now) :=
  ⟨_, _, _, _, none, none, rfl⟩

/-- Every connection of the platform list is a table entry: its counters are zero. -/
theorem getPlatformConnections_fromTable {now : Nat} {ss netstat : CommandOutput}
    {localIp : IpAddr} {c : Connection}
    (hc : c ∈ getPlatformConnections now ss netstat localIp) : FromTable now c := by
  rcases mem_getPlatformConnections.mp hc with (⟨_, -, h⟩ | ⟨_, -, h⟩) | ⟨-, -, hc⟩
  · exact ssConnection_fromTable h
  · exact netstatConnection_fromTable h
  · obtain ⟨port, -, hc⟩ := List.mem_flatMap.mp hc
    simp only [pcapSamples, List.mem_cons] at hc
    split at hc <;> simp only [List.mem_singleton, List.not_mem_nil, or_false] at hc <;>
      rcases hc with rfl | rfl <;> exact FromTable.new _ _ _ _

/-- After the capture loop, a connection is one the list held, or a captured one whose flow it
did not hold. -/
theorem mem_foldl_addCaptured {now : Nat} {entries : List (ConnKey × Connection)}
    {cs : List Connection} {c : Connection}
    (hc : c ∈ entries.foldl (fun cs e => addCaptured now cs e.2) cs) :
    c ∈ cs ∨ c.identity ∉ cs.map Connection.identity := by
  induction entries generalizing cs with
  | nil => exact .inl hc
  | cons e entries ih =>
    rw [List.foldl_cons] at hc
    rcases addCaptured_cases now cs e.2 with h | ⟨hn, h⟩ <;> rw [h] at hc
    · exact ih hc
    · rcases ih hc with hc | hc
      · rcases List.mem_append.mp hc with hc | hc
        · exact .inl hc
        · rw [List.mem_singleton.mp hc]; exact .inr hn
      · exact .inr fun h' => hc (by rw [List.map_append]; exact List.mem_append_left _ h')

/-- The process lookup fills in the pid and the process name only. -/
theorem withProcess_eq (lookup : Connection → Option Process) (c : Connection) :
    ∃ pid processName,
      withProcess lookup c = { c with pid := pid, processName := processName } := by
  unfold withProcess
  split
  · split
    · exact ⟨_, _, rfl⟩
    · exact ⟨c.pid, c.processName, rfl⟩
  · exact ⟨c.pid, c.processName, rfl⟩

/-- A connection of the result is one of the capture loop's, with at most a pid and a process
name filled in. -/
theorem mem_getConnections {now : Nat} {capture : ConnMap} {ss netstat : CommandOutput}
    {localIp : IpAddr} {collectProcessInfo filterLocalhost : Bool}
    {lookup : Connection → Option Process} {c : Connection}
    (hc : c ∈ getConnections now capture ss netstat localIp collectProcessInfo filterLocalhost
      lookup) :
    ∃ c₀ ∈ capture.toList.foldl (fun cs e => addCaptured now cs e.2)
        (getPlatformConnections now ss netstat localIp),
      ∃ pid processName, c = { c₀ with pid := pid, processName := processName } := by
  unfold getConnections at hc
  dsimp only at hc
  have hsorted : ∀ {l : List Connection},
      c ∈ (l.insertionSort fun a b => b.lastActivity ≤ a.lastActivity) → c ∈ l :=
    fun h => (List.perm_insertionSort _ _).mem_iff.mp h
  have hc' := hsorted (by split at hc <;> [exact (List.mem_filter.mp hc).1; exact hc])
  split at hc'
  · obtain ⟨c₀, h₀, rfl⟩ := List.mem_map.mp hc'
    exact ⟨c₀, h₀, withProcess_eq lookup c₀⟩
  · exact ⟨c, hc', c.pid, c.processName, rfl⟩

/-- A flow the platform lists is returned with the platform's zero counters: the snapshot's
entry survives, and the captured record with the flow's packets is dropped. -/
theorem getConnections_listed_counters {now : Nat} {capture : ConnMap}
    {ss netstat : CommandOutput} {localIp : IpAddr}
    {collectProcessInfo filterLocalhost : Bool} {lookup : Connection → Option Process}
    {c : Connection}
    (hc : c ∈ getConnections now capture ss netstat localIp collectProcessInfo filterLocalhost
      lookup)
    (hlisted :
      c.identity ∈ (getPlatformConnections now ss netstat localIp).map Connection.identity) :
    c.packetsSent = 0 ∧ c.packetsReceived = 0 ∧ c.bytesSent = 0 ∧ c.bytesReceived = 0 := by
  obtain ⟨c₀, h₀, pid, processName, rfl⟩ := mem_getConnections hc
  rcases mem_foldl_addCaptured h₀ with h₀ | h₀
  · obtain ⟨_, _, _, _, _, _, rfl⟩ := getPlatformConnections_fromTable h₀
    exact ⟨rfl, rfl, rfl, rfl⟩
  · exact absurd hlisted h₀

/-- What `ss -tupn` prints for the flow `10.0.0.5:54000 → 8.8.8.8:80`. -/
def ssSynFlow : List Char :=
  ("Netid State Recv-Q Send-Q Local Address:Port Peer Address:Port Process\n" ++
    "tcp   ESTAB 0      0      10.0.0.5:54000     8.8.8.8:80\n").toList

/-- The capture map holds the SYN to `8.8.8.8:80` as one packet of 54 bytes sent; `ss` lists the
same flow; `get_connections` returns it with no packets and no bytes. -/
theorem getConnections_listed_flow_counters :
    ((processFrames [(0, synFrame)] .empty).getD .empty).toList.map
        (fun e => (e.2.identity, e.2.isActive 0, e.2.packetsSent, e.2.bytesSent)) =
        [(⟨.tcp, .v4 ⟨10, 0, 0, 5⟩ 54000, .v4 ⟨8, 8, 8, 8⟩ 80⟩, true, 1, 54)] ∧
      (getConnections 0 ((processFrames [(0, synFrame)] .empty).getD .empty) (.success ssSynFlow)
          .failed (.v4 ⟨10, 0, 0, 5⟩) false false fun _ => none).map
          (fun c => (c.identity, c.packetsSent, c.bytesSent)) =
        [(⟨.tcp, .v4 ⟨10, 0, 0, 5⟩ 54000, .v4 ⟨8, 8, 8, 8⟩ 80⟩, 0, 0)] := by
  decide

end RustNet.Network.Monitor
