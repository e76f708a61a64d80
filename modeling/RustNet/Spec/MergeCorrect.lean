import Mathlib
import RustNet.Network.Merge

/-!
# Runs of packet merges

A flow's connection record is built by `create_connection_from_packet` on its first packet and
`merge_packet_into_connection` on each later one. Over any such run:

- `mergeRun_eq`: the counters are the per-direction counts and byte sums of the run, the
  timestamps are the first and last packet times, and `dpi_info` is the first DPI result
  (`merge_dpi_info` never replaces one);
- `mergeRun_protocolState`: after two or more packets the protocol state is the parser's state
  of the last packet, whatever the flags say: the state computed by `update_tcp_state` is
  overwritten in the same call.

`tcpRun_forward`: `update_tcp_state`, applied segment after segment, never moves a connection to
an earlier phase of RFC 793, and any RST closes it for good.

Records of one flow from several sources are combined by `merge_connections`;
`mergeConnections_assoc`: the result does not depend on how the merges are grouped.
-/

namespace RustNet.Network.Merge

open RustNet.Network.Types

/-- The record after the first packet and the merges of the later ones. -/
def mergeRun (first : ParsedPacket × Nat) (rest : List (ParsedPacket × Nat)) : Connection :=
  rest.foldl (fun conn pt => mergePacketIntoConnection conn pt.1 pt.2)
    (createConnectionFromPacket first.1 first.2)

/-- The merges of a list of packets into any record add up the list. -/
theorem foldl_merge_eq (conn : Connection) (rest : List (ParsedPacket × Nat)) :
    let c := rest.foldl (fun conn pt => mergePacketIntoConnection conn pt.1 pt.2) conn
    c.packetsSent = conn.packetsSent + rest.countP (·.1.isOutgoing) ∧
      c.packetsReceived = conn.packetsReceived + rest.countP (!·.1.isOutgoing) ∧
      c.bytesSent =
        conn.bytesSent + (rest.map fun pt => if pt.1.isOutgoing then pt.1.packetLen else 0).sum ∧
      c.bytesReceived =
        conn.bytesReceived + (rest.map fun pt => if !pt.1.isOutgoing then pt.1.packetLen else 0).sum ∧
      c.createdAt = conn.createdAt ∧
      c.lastActivity = (rest.getLast?.map (·.2)).getD conn.lastActivity ∧
      c.protocolState = (rest.getLast?.map (·.1.protocolState)).getD conn.protocolState ∧
      c.dpiInfo =
        conn.dpiInfo.or ((rest.findSome? (·.1.dpiResult)).map fun d => ⟨d.application⟩) := by
  induction rest generalizing conn with
  | nil => simp
  | cons pt rest ih =>
    obtain ⟨h1, h2, h3, h4, h5, h6, h7, h8⟩ := ih (mergePacketIntoConnection conn pt.1 pt.2)
    rw [List.foldl_cons]
    generalize List.foldl _ (mergePacketIntoConnection conn pt.1 pt.2) rest = c at h1 h2 h3 h4 h5 h6 h7 h8 ⊢
    simp only [mergePacketIntoConnection_eq] at h1 h2 h3 h4 h5 h6 h7 h8
    refine ⟨?_, ?_, ?_, ?_, h5, ?_, ?_, ?_⟩
    · rw [h1, List.countP_cons]; omega
    · rw [h2, List.countP_cons]; omega
    · rw [h3, List.map_cons, List.sum_cons]; omega
    · rw [h4, List.map_cons, List.sum_cons]; omega
    · rw [h6, List.getLast?_cons]; cases rest.getLast? <;> rfl
    · rw [h7, List.getLast?_cons]; cases rest.getLast? <;> rfl
    · rw [h8, List.findSome?_cons]
      cases pt.1.dpiResult <;> cases conn.dpiInfo <;> rfl

/-- Nondecreasing timestamps end no earlier than they start. -/
theorem head_le_getLast_of_chain {first : ParsedPacket × Nat} {rest : List (ParsedPacket × Nat)}
    (h : (first :: rest).Chain' (fun a b => a.2 ≤ b.2)) :
    first.2 ≤ ((first :: rest).getLast (List.cons_ne_nil _ _)).2 := by
  induction rest generalizing first with
  | nil => exact Nat.le_refl _
  | cons x rest ih =>
    rw [List.getLast_cons (List.cons_ne_nil _ _)]
    exact Nat.le_trans (List.chain'_cons.mp h).1 (ih (List.chain'_cons.mp h).2)

private theorem getLast_cons_eq_getD (first : ParsedPacket × Nat) (rest : List (ParsedPacket × Nat)) :
    (first :: rest).getLast (List.cons_ne_nil _ _) = rest.getLast?.getD first :=
  Option.some.inj ((List.getLast?_eq_getLast _ _).symm.trans List.getLast?_cons)

/-- A TCP packet of the flow `10.0.0.5:54000 → 8.8.8.8:80`, with the parser-reported state
`Tcp(Unknown)` of the source's tests. -/
def tcpPacket (flags : TcpFlags) (isOutgoing : Bool) (packetLen : Nat) : ParsedPacket where
  connectionKey := "test"
  protocol := .tcp
  localAddr := .v4 ⟨10, 0, 0, 5⟩ 54000
  remoteAddr := .v4 ⟨8, 8, 8, 8⟩ 80
  protocolState := .tcp .unknown
  tcpFlags := some flags
  isOutgoing := isOutgoing
  packetLen := packetLen
  dpiResult := none

/-- The SYN flags. -/
def synFlags : TcpFlags := ⟨true, false, false, false, false, false⟩

/-- The SYN+ACK flags. -/
def synAckFlags : TcpFlags := ⟨true, true, false, false, false, false⟩

/-- Over every run of one flow's packets with nondecreasing timestamps, the record counts each
direction's packets and bytes, spans the first to the last timestamp, and keeps the first DPI
result. -/
theorem mergeRun_eq (first : ParsedPacket × Nat) (rest : List (ParsedPacket × Nat))
    (hmono : (first :: rest).Chain' (fun a b => a.2 ≤ b.2)) :
    (mergeRun first rest).packetsSent = (first :: rest).countP (·.1.isOutgoing) ∧
      (mergeRun first rest).packetsReceived =
        (first :: rest).length - (mergeRun first rest).packetsSent ∧
      1 ≤ (mergeRun first rest).packetsSent + (mergeRun first rest).packetsReceived ∧
      (mergeRun first rest).bytesSent =
        ((first :: rest).map fun pt => if pt.1.isOutgoing then pt.1.packetLen else 0).sum ∧
      (mergeRun first rest).bytesReceived =
        ((first :: rest).map fun pt => if !pt.1.isOutgoing then pt.1.packetLen else 0).sum ∧
      (mergeRun first rest).createdAt = first.2 ∧
      (mergeRun first rest).lastActivity = ((first :: rest).getLast (List.cons_ne_nil _ _)).2 ∧
      (mergeRun first rest).createdAt ≤ (mergeRun first rest).lastActivity ∧
      (mergeRun first rest).dpiInfo =
        ((first :: rest).findSome? (·.1.dpiResult)).map fun d => ⟨d.application⟩ := by
  obtain ⟨h1, h2, h3, h4, h5, h6, -, h8⟩ :=
    foldl_merge_eq (createConnectionFromPacket first.1 first.2) rest
  simp only [mergeRun]
  generalize List.foldl _ (createConnectionFromPacket first.1 first.2) rest = c at h1 h2 h3 h4 h5 h6 h8 ⊢
  simp only [createConnectionFromPacket_eq] at h1 h2 h3 h4 h5 h6 h8
  have hcount : rest.countP (·.1.isOutgoing) + rest.countP (!·.1.isOutgoing) = rest.length := by
    rw [List.length_eq_countP_add_countP (·.1.isOutgoing)]; simp
  have hone : (if first.1.isOutgoing then 1 else 0) + (if !first.1.isOutgoing then 1 else 0) = 1 := by
    cases first.1.isOutgoing <;> rfl
  have hlast : (rest.getLast?.map (·.2)).getD first.2 =
      ((first :: rest).getLast (List.cons_ne_nil _ _)).2 := by
    rw [getLast_cons_eq_getD]; cases rest.getLast? <;> rfl
  have hle := head_le_getLast_of_chain hmono
  refine ⟨?_, ?_, ?_, ?_, ?_, h5, h6.trans hlast, ?_, ?_⟩
  · rw [h1, List.countP_cons]; omega
  · rw [h1, h2, List.length_cons]; omega
  · rw [h1, h2]; omega
  · rw [h3, List.map_cons, List.sum_cons]
  · rw [h4, List.map_cons, List.sum_cons]
  · rw [h5, h6, hlast]; exact hle
  · rw [h8, List.findSome?_cons]; cases first.1.dpiResult <;> rfl

/-- The bounds over an outbound SYN followed by an inbound SYN+ACK. -/
theorem mergeRun_eq_handshake :
    let first := (tcpPacket synFlags true 60, 0)
    let rest := [(tcpPacket synAckFlags false 60, 1)]
    (mergeRun first rest).packetsSent = (first :: rest).countP (·.1.isOutgoing) ∧
      (mergeRun first rest).packetsReceived =
        (first :: rest).length - (mergeRun first rest).packetsSent ∧
      1 ≤ (mergeRun first rest).packetsSent + (mergeRun first rest).packetsReceived ∧
      (mergeRun first rest).bytesSent =
        ((first :: rest).map fun pt => if pt.1.isOutgoing then pt.1.packetLen else 0).sum ∧
      (mergeRun first rest).bytesReceived =
        ((first :: rest).map fun pt => if !pt.1.isOutgoing then pt.1.packetLen else 0).sum ∧
      (mergeRun first rest).createdAt = first.2 ∧
      (mergeRun first rest).lastActivity = ((first :: rest).getLast (List.cons_ne_nil _ _)).2 ∧
      (mergeRun first rest).createdAt ≤ (mergeRun first rest).lastActivity ∧
      (mergeRun first rest).dpiInfo =
        ((first :: rest).findSome? (·.1.dpiResult)).map fun d => ⟨d.application⟩ :=
  mergeRun_eq _ _ (List.chain'_pair.mpr (by decide))

/-! ## The protocol state after a merge -/

/-- After two or more packets the record holds the parser's state of the last packet: the TCP
state computed from the flags does not survive the merge. -/
theorem mergeRun_protocolState (first : ParsedPacket × Nat) (rest : List (ParsedPacket × Nat))
    (h : rest ≠ []) : (mergeRun first rest).protocolState = (rest.getLast h).1.protocolState := by
  rw [mergeRun, (foldl_merge_eq _ rest).2.2.2.2.2.2.1, List.getLast?_eq_getLast _ h]
  rfl

/-- Outbound SYN, then inbound SYN+ACK: `update_tcp_state` reaches `Established`, but the record
holds the parser's `Tcp(Unknown)`. -/
theorem mergeRun_synAck_state :
    updateTcpState (updateTcpState .unknown synFlags true) synAckFlags false = .established ∧
      (mergeRun (tcpPacket synFlags true 60, 0) [(tcpPacket synAckFlags false 60, 1)]).protocolState =
        .tcp .unknown := by
  decide

/-! ## The TCP state machine

`update_tcp_state` moves a connection through the phases of RFC 793 in one direction only:
no handshake seen (`Unknown`, `Listen`), half of it (`SynSent`, `SynReceived`), `Established`,
one FIN (`FinWait1`, `CloseWait`), the second FIN or its ACK pending (`FinWait2`, `Closing`,
`LastAck`), `TimeWait`, and `Closed`. -/

/-- The phase of a TCP state in the order of RFC 793. -/
def tcpPhase : TcpState → Nat
  | .unknown | .listen => 0
  | .synSent | .synReceived => 1
  | .established => 2
  | .finWait1 | .closeWait => 3
  | .finWait2 | .closing | .lastAck => 4
  | .timeWait => 5
  | .closed => 6

/-- `update_tcp_state` applied to the segments of a flow in order, each with its flags and
whether it was outgoing. -/
def tcpRun (state : TcpState) (segments : List (TcpFlags × Bool)) : TcpState :=
  segments.foldl (fun state seg => updateTcpState state seg.1 seg.2) state

@[simp] theorem tcpRun_cons (state : TcpState) (seg : TcpFlags × Bool)
    (segments : List (TcpFlags × Bool)) :
    tcpRun state (seg :: segments) = tcpRun (updateTcpState state seg.1 seg.2) segments :=
  rfl

/-- `update_tcp_state` reads four of the six flags. -/
theorem updateTcpState_flags (state : TcpState) (flags : TcpFlags) (isOutgoing : Bool) :
    updateTcpState state flags isOutgoing =
      updateTcpState state ⟨flags.syn, flags.ack, flags.fin, flags.rst, false, false⟩ isOutgoing :=
  rfl

/-- One segment leaves the state as it is, or moves it to a later phase. -/
theorem updateTcpState_advances (state : TcpState) (flags : TcpFlags) (isOutgoing : Bool) :
    updateTcpState state flags isOutgoing = state ∨
      tcpPhase state < tcpPhase (updateTcpState state flags isOutgoing) := by
  rw [updateTcpState_flags]
  generalize flags.syn = syn, flags.ack = ack, flags.fin = fin, flags.rst = rst
  revert syn ack fin rst isOutgoing
  cases state <;> decide

/-- A segment with RST closes the connection from every state. -/
theorem updateTcpState_rst {flags : TcpFlags} (h : flags.rst = true) (state : TcpState)
    (isOutgoing : Bool) : updateTcpState state flags isOutgoing = .closed := by
  rw [updateTcpState_flags, h]
  generalize flags.syn = syn, flags.ack = ack, flags.fin = fin
  revert syn ack fin isOutgoing
  cases state <;> decide

theorem tcpPhase_le_closed (state : TcpState) : tcpPhase state ≤ tcpPhase .closed := by
  cases state <;> decide

/-- `Closed` is final. -/
theorem tcpRun_closed (segments : List (TcpFlags × Bool)) : tcpRun .closed segments = .closed := by
  induction segments with
  | nil => rfl
  | cons seg rest ih =>
    rw [tcpRun_cons]
    rcases updateTcpState_advances .closed seg.1 seg.2 with h | h
    · rwa [h]
    · exact absurd h (Nat.not_lt.mpr (tcpPhase_le_closed _))

/-- Over every sequence of segments `update_tcp_state` never moves a connection back: the state
stays or reaches a later phase, so a state once left is never entered again; and once a segment
with RST has been seen the connection is `Closed` for good. -/
theorem tcpRun_forward (state : TcpState) (segments : List (TcpFlags × Bool)) :
    (tcpRun state segments = state ∨ tcpPhase state < tcpPhase (tcpRun state segments)) ∧
      ((∃ seg ∈ segments, seg.1.rst = true) → tcpRun state segments = .closed) := by
  induction segments generalizing state with
  | nil => exact ⟨.inl rfl, fun ⟨_, h, _⟩ => nomatch h⟩
  | cons seg rest ih =>
    obtain ⟨ih_forward, ih_rst⟩ := ih (updateTcpState state seg.1 seg.2)
    rw [tcpRun_cons]
    refine ⟨?_, fun ⟨seg', hmem, hrst⟩ => ?_⟩
    · rcases updateTcpState_advances state seg.1 seg.2 with h | h
      · rwa [h] at ih_forward ⊢
      · rcases ih_forward with h' | h'
        · exact .inr (h'.symm ▸ h)
        · exact .inr (h.trans h')
    · rcases List.mem_cons.mp hmem with rfl | hmem
      · rw [updateTcpState_rst hrst, tcpRun_closed]
      · exact ih_rst ⟨seg', hmem, hrst⟩

/-! ## Merging records -/

/-- Combining the records of one flow from several sources gives one record however the merges
are grouped: the process pair comes from the first record with a pid (from the first record
when none has one), the service name and the DPI result from the first that has one, the counters and the last activity are the largest and
the creation time the earliest; every field the merge does not combine is the first record's. -/
theorem mergeConnections_assoc (a b c : Connection) :
    mergeConnections (mergeConnections a b) c = mergeConnections a (mergeConnections b c) ∧
      (mergeConnections a (mergeConnections b c)).protocol = a.protocol ∧
      (mergeConnections a (mergeConnections b c)).localAddr = a.localAddr ∧
      (mergeConnections a (mergeConnections b c)).remoteAddr = a.remoteAddr ∧
      (mergeConnections a (mergeConnections b c)).remoteHost = a.remoteHost ∧
      (mergeConnections a (mergeConnections b c)).protocolState = a.protocolState := by
  refine ⟨?_, by simp only [mergeConnections_eq, and_self]⟩
  simp only [mergeConnections_eq, Option.or_assoc, Nat.max_assoc, Nat.min_assoc]
  -- the process name follows the first pid present, whichever pair is merged first
  cases a.pid <;> cases b.pid <;> cases c.pid <;> rfl

end RustNet.Network.Merge
