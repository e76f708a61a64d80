import Mathlib
import RustNet.Network.Monitor

/-!
# The capture handler

What `process_single_packet` does over every frame and every run of frames.

The header walk reads the IPv4 header length `IHL` from the frame and slices the IP packet at
`4 * IHL`; its length checks bound the frame from below by 34 bytes but do not bound `4 * IHL`.
Every other slice and index is covered by a check before it.

Over a run of frames on which the handler does not panic, the capture map is exactly the tally of
the accepted frames: one record for each flow key with an accepted frame and none for any other
key, each keyed by the tuple it was built from, each counting its flow's packets and bytes per
direction.

## Key results

- `parseFrame_eq_none_iff`: the handler panics exactly on an IPv4 frame of at least 34 bytes
  whose header length exceeds the IP packet;
- `processSinglePacket_ihl_overrun`: a 34-byte frame with `IHL = 15` makes it panic;
- `Tracks.step`, `Tracks.handled`: one frame, and then any run of frames, keeps the map the
  exact tally of the frames handled so far;
- `processFrames_tally`: from the empty map, the map is the tally of the run;
- `processSinglePacket_changes`: the map changes only for a frame that passes every check of the
  handler, and `processSinglePacket_ihl_zero`: a frame with `IHL = 0` passes them;
- `frameFlow_isSome_iff`: the frames counted are exactly the IPv4 TCP and UDP frames that pass
  the length checks;
- `endpoints_swap_iff`: a frame and its mirror image are filed under one key exactly when one
  address is private and the other not, or the two endpoints coincide, and
  `swapped_frames_two_entries`: two public endpoints make two entries.
-/

namespace RustNet.Network.Monitor

/-! ## Panics -/

/-- The handler panics exactly when its own header walk does. -/
theorem processSinglePacket_eq_none_iff (now : Nat) (data : List UInt8) (connections : ConnMap) :
    processSinglePacket now data connections = none ↔ parseFrame data = none :=
  Option.map_eq_none'

/-- The header walk panics exactly on an IPv4 frame of at least 34 bytes whose header length
`4 * IHL` exceeds the `|data| - 14` bytes of the IP packet: the slice `&ip_data[ip_header_len..]`
is the only one its checks do not cover. -/
theorem parseFrame_eq_none_iff (data : List UInt8) :
    parseFrame data = none ↔ 34 ≤ data.length ∧ ∃ v : UInt8, data[14]? = some v ∧
      v >>> 4 = 4 ∧ data.length - 14 < (v &&& 0x0F).toNat * 4 := by
  unfold parseFrame
  by_cases h14 : data.length < 14
  · simp only [h14, if_true]
    exact iff_of_false (Option.some_ne_none _) fun h => absurd h.1 (by omega)
  have hs : sliceFrom data 14 = some (data.drop 14) := by simp [sliceFrom]; omega
  simp only [h14, if_false, hs, Option.some_bind, List.length_drop]
  by_cases h20 : data.length - 14 < 20
  · simp only [h20, if_true]
    exact iff_of_false (Option.some_ne_none _) fun h => absurd h.1 (by omega)
  have h0 : (data.drop 14)[0]? = some (data.get ⟨14, by omega⟩) := by simp
  have hv : data[14]? = some (data.get ⟨14, by omega⟩) := by simp
  simp only [h20, if_false, h0, Option.some_bind, hv]
  generalize data.get ⟨14, by omega⟩ = v
  have h9 : ((data.drop 14)[9]?).isSome := by rw [List.getElem?_eq_getElem (by simp; omega)]; rfl
  obtain ⟨p, hp⟩ := Option.isSome_iff_exists.mp h9
  obtain ⟨a, ha⟩ := Option.isSome_iff_exists.mp
    (ipv4At_isSome (by simp; omega : 12 + 3 < (data.drop 14).length))
  obtain ⟨b, hb⟩ := Option.isSome_iff_exists.mp
    (ipv4At_isSome (by simp; omega : 16 + 3 < (data.drop 14).length))
  simp only [hp, ha, hb, Option.some_bind, sliceFrom, List.length_drop, Option.some.injEq,
    exists_eq_left']
  by_cases hver : v >>> 4 = 4
  · simp only [hver, bne_self_eq_false, Bool.false_eq_true, if_false, true_and]
    by_cases hl : (v &&& 15).toNat * 4 ≤ data.length - 14
    · obtain ⟨o, ho⟩ := Option.isSome_iff_exists.mp (parseTransport_isSome p a b
        ((data.drop 14).drop ((v &&& 15).toNat * 4)))
      simp only [hl, if_true, Option.some_bind, ho]
      exact iff_of_false (Option.some_ne_none o) fun h => by omega
    · simp only [hl, if_false, Option.none_bind, true_iff]; omega
  · simp [hver]

/-- A poll panics exactly when one of its frames does. -/
theorem processFrames_eq_none_iff (frames : List (Nat × List UInt8)) (m : ConnMap) :
    processFrames frames m = none ↔ ∃ fr ∈ frames, parseFrame fr.2 = none := by
  induction frames generalizing m with
  | nil => simp [processFrames]
  | cons fr frames ih =>
    obtain ⟨now, data⟩ := fr
    cases h : processSinglePacket now data m with
    | none => simp [processFrames, h, (processSinglePacket_eq_none_iff now data m).mp h]
    | some m' =>
      have hp : parseFrame data ≠ none := fun h' => by
        rw [(processSinglePacket_eq_none_iff now data m).mpr h'] at h
        cases h
      simp [processFrames, h, ih m', hp]

/-- A 34-byte IPv4 frame with `IHL = 15`: the header length 60 runs past the 20 bytes of the IP
packet, and the handler panics whatever the map and the clock. -/
theorem processSinglePacket_ihl_overrun (now : Nat) (connections : ConnMap) :
    processSinglePacket now (List.replicate 14 0 ++ [0x4F] ++ List.replicate 19 0) connections =
      none :=
  rfl

/-! ## What the handler accepts -/

/-- A transport part that is not ignored is TCP with 20 bytes or UDP with 8. -/
theorem parseTransport_accepted {protocol : UInt8} {srcIp dstIp : IpAddr} {t : List UInt8}
    {o : FrameOutcome} (h : parseTransport protocol srcIp dstIp t = some o)
    (ho : o ≠ .ignored) :
    protocol = 6 ∧ 20 ≤ t.length ∨ protocol = 17 ∧ 8 ≤ t.length := by
  unfold parseTransport at h
  split_ifs at h with h8 h6 h20 h17 <;>
    first
    | (cases h; exact absurd rfl ho)
    | exact .inl ⟨h6, by omega⟩
    | exact .inr ⟨h17, by omega⟩

/-- A frame the header walk does not ignore is IPv4, at least 34 bytes long, with a header length
that fits, and TCP with 20 transport bytes or UDP with 8. -/
theorem parseFrame_accepted {data : List UInt8} {o : FrameOutcome} (h : parseFrame data = some o)
    (ho : o ≠ .ignored) :
    34 ≤ data.length ∧ ∃ v p : UInt8, data[14]? = some v ∧ v >>> 4 = 4 ∧
      data[23]? = some p ∧
      (v &&& 0x0F).toNat * 4 ≤ data.length - 14 ∧
      (p = 6 ∧ 20 ≤ data.length - 14 - (v &&& 0x0F).toNat * 4 ∨
        p = 17 ∧ 8 ≤ data.length - 14 - (v &&& 0x0F).toNat * 4) := by
  unfold parseFrame at h
  by_cases h14 : data.length < 14
  · rw [if_pos h14] at h; cases h; exact absurd rfl ho
  rw [if_neg h14] at h
  have hs : sliceFrom data 14 = some (data.drop 14) := by simp [sliceFrom]; omega
  simp only [hs, Option.some_bind, List.length_drop] at h
  by_cases h20 : data.length - 14 < 20
  · rw [if_pos h20] at h; cases h; exact absurd rfl ho
  rw [if_neg h20] at h
  obtain ⟨v, hv, h⟩ := Option.bind_eq_some.mp h
  by_cases hver : (v >>> 4 != 4) = true
  · rw [if_pos hver] at h; cases h; exact absurd rfl ho
  rw [if_neg hver] at h
  obtain ⟨p, hp, h⟩ := Option.bind_eq_some.mp h
  obtain ⟨a, -, h⟩ := Option.bind_eq_some.mp h
  obtain ⟨b, -, h⟩ := Option.bind_eq_some.mp h
  obtain ⟨t, ht, h⟩ := Option.bind_eq_some.mp h
  simp only [sliceFrom] at ht
  split_ifs at ht with hl
  cases ht
  simp only [List.getElem?_drop] at hv hp
  refine ⟨by omega, v, p, hv, by simpa only [Bool.not_eq_true, bne_eq_false_iff_eq] using hver,
    hp, by rwa [List.length_drop] at hl, ?_⟩
  rcases parseTransport_accepted h ho with ⟨hp6, ht⟩ | ⟨hp17, ht⟩ <;>
    simp only [List.length_drop] at ht
  · exact .inl ⟨hp6, by omega⟩
  · exact .inr ⟨hp17, by omega⟩

/-- The handler changes the map only for a frame that passes every check it makes; none of them
bounds `IHL` from below. -/
theorem processSinglePacket_changes {now : Nat} {data : List UInt8} {m m' : ConnMap}
    (h : processSinglePacket now data m = some m') (hne : m' ≠ m) :
    34 ≤ data.length ∧ ∃ v p : UInt8, data[14]? = some v ∧ v >>> 4 = 4 ∧
      data[23]? = some p ∧
      (v &&& 0x0F).toNat * 4 ≤ data.length - 14 ∧
      (p = 6 ∧ 20 ≤ data.length - 14 - (v &&& 0x0F).toNat * 4 ∨
        p = 17 ∧ 8 ≤ data.length - 14 - (v &&& 0x0F).toNat * 4) := by
  obtain ⟨o, ho, rfl⟩ := Option.map_eq_some'.mp h
  refine parseFrame_accepted ho ?_
  rintro rfl
  exact hne rfl

/-- A UDP frame whose version byte is `0x40`: version 4 and `IHL = 0`. The header length 0 puts
the UDP header at the start of the IP header, and the handler files the frame. -/
def ihlZeroFrame : List UInt8 :=
  List.replicate 14 (0 : UInt8) ++
    [0x40, 0, 0, 20, 0, 0, 0, 0, 64, 17, 0, 0, 10, 0, 0, 1, 8, 8, 8, 8]

theorem processSinglePacket_ihl_zero :
    ihlZeroFrame[14]? = some 0x40 ∧
      (processSinglePacket 0 ihlZeroFrame .empty).map (·.toList.length) = some 1 := by
  decide

/-! ## The tally of a run -/

/-- The flow key and direction an outcome is counted under; `none` for an ignored frame. -/
def FrameOutcome.flow? : FrameOutcome → Option (ConnKey × Bool)
  | .ignored => none
  | .tcp srcIp dstIp srcPort dstPort isOutgoing _ =>
    some (connKey .tcp (endpoints srcIp dstIp srcPort dstPort isOutgoing).1
      (endpoints srcIp dstIp srcPort dstPort isOutgoing).2, isOutgoing)
  | .udp srcIp dstIp srcPort dstPort isOutgoing =>
    some (connKey .udp (endpoints srcIp dstIp srcPort dstPort isOutgoing).1
      (endpoints srcIp dstIp srcPort dstPort isOutgoing).2, isOutgoing)

/-- The flow key and direction of an accepted frame: IPv4, TCP or UDP, past the length checks. -/
def frameFlow? (data : List UInt8) : Option (ConnKey × Bool) :=
  (parseFrame data).bind FrameOutcome.flow?

/-- A transport part of TCP with 20 bytes or of UDP with 8 is filed under a flow. -/
theorem parseTransport_flow {protocol : UInt8} (srcIp dstIp : IpAddr) {t : List UInt8}
    (h : protocol = 6 ∧ 20 ≤ t.length ∨ protocol = 17 ∧ 8 ≤ t.length) :
    ((parseTransport protocol srcIp dstIp t).bind FrameOutcome.flow?).isSome := by
  obtain ⟨s, hs⟩ := Option.isSome_iff_exists.mp (portAt_isSome (by omega : 0 + 1 < t.length))
  obtain ⟨d, hd⟩ := Option.isSome_iff_exists.mp (portAt_isSome (by omega : 2 + 1 < t.length))
  have h8 : ¬t.length < 8 := by omega
  rcases h with ⟨rfl, ht⟩ | ⟨rfl, -⟩
  · simp [parseTransport, h8, show ¬t.length < 20 by omega, hs, hd,
      List.getElem?_eq_getElem (by omega : 13 < t.length), FrameOutcome.flow?]
  · simp [parseTransport, h8, hs, hd, FrameOutcome.flow?]

/-- The frames the tally counts are exactly those that pass every check of the header walk:
IPv4, at least 34 bytes, a header length that fits the IP packet, and TCP with 20 transport bytes
or UDP with 8. The forward direction is `parseFrame_accepted`; backwards, the walk takes each
check in its order. -/
theorem frameFlow_isSome_iff (data : List UInt8) :
    (frameFlow? data).isSome ↔ 34 ≤ data.length ∧ ∃ v p : UInt8, data[14]? = some v ∧
      v >>> 4 = 4 ∧ data[23]? = some p ∧ (v &&& 0x0F).toNat * 4 ≤ data.length - 14 ∧
      (p = 6 ∧ 20 ≤ data.length - 14 - (v &&& 0x0F).toNat * 4 ∨
        p = 17 ∧ 8 ≤ data.length - 14 - (v &&& 0x0F).toNat * 4) := by
  refine ⟨fun h => ?_, fun ⟨h34, v, p, hv, hver, hp, hl, ht⟩ => ?_⟩
  · obtain ⟨_, hf⟩ := Option.isSome_iff_exists.mp h
    obtain ⟨o, ho, hflow⟩ := Option.bind_eq_some.mp hf
    exact parseFrame_accepted ho (by rintro rfl; cases hflow)
  · have hs : sliceFrom data 14 = some (data.drop 14) := by simp [sliceFrom]; omega
    have h0 : (data.drop 14)[0]? = some v := by rw [List.getElem?_drop]; exact hv
    have h9 : (data.drop 14)[9]? = some p := by rw [List.getElem?_drop]; exact hp
    obtain ⟨a, ha⟩ := Option.isSome_iff_exists.mp
      (ipv4At_isSome (by simp; omega : 12 + 3 < (data.drop 14).length))
    obtain ⟨b, hb⟩ := Option.isSome_iff_exists.mp
      (ipv4At_isSome (by simp; omega : 16 + 3 < (data.drop 14).length))
    have hl' : sliceFrom (data.drop 14) ((v &&& 0x0F).toNat * 4) =
        some ((data.drop 14).drop ((v &&& 0x0F).toNat * 4)) := by
      simp only [sliceFrom, List.length_drop, if_pos hl]
    simp only [frameFlow?, parseFrame, if_neg (by omega : ¬data.length < 14), hs, Option.some_bind,
      List.length_drop, if_neg (by omega : ¬data.length - 14 < 20), h0, hver, bne_self_eq_false,
      Bool.false_eq_true, if_false, h9, ha, hb, hl', Option.bind_assoc]
    refine parseTransport_flow a b ?_
    simpa only [List.length_drop] using ht

/-- The frames of a run accepted under key `k` in direction `out`. -/
def framesOf (frames : List (Nat × List UInt8)) (k : ConnKey) (out : Bool) : List (List UInt8) :=
  (frames.map Prod.snd).filter fun data => frameFlow? data = some (k, out)

theorem framesOf_eq_nil_iff {frames : List (Nat × List UInt8)} {k : ConnKey} {out : Bool} :
    framesOf frames k out = [] ↔ ∀ fr ∈ frames, frameFlow? fr.2 ≠ some (k, out) := by
  simp only [framesOf, List.filter_eq_nil_iff, List.mem_map, Prod.exists, exists_eq_right,
    decide_eq_true_eq, forall_exists_index, Prod.forall]
  exact ⟨fun h a b hab => h b a hab, fun h b a hab => h a b hab⟩

theorem framesOf_append (frames : List (Nat × List UInt8)) (now : Nat) (data : List UInt8)
    (k : ConnKey) (out : Bool) :
    framesOf (frames ++ [(now, data)]) k out =
      framesOf frames k out ++ if frameFlow? data = some (k, out) then [data] else [] := by
  simp only [framesOf, List.map_append, List.filter_append, List.map_cons, List.map_nil]
  split <;> simp [List.filter_singleton, *]

/-- The counters of `c` are the packet counts and byte sums of the frames under `k`. -/
def Counts (c : Connection) (frames : List (Nat × List UInt8)) (k : ConnKey) : Prop :=
  c.packetsSent = (framesOf frames k true).length ∧
    c.packetsReceived = (framesOf frames k false).length ∧
    c.bytesSent = ((framesOf frames k true).map List.length).sum ∧
    c.bytesReceived = ((framesOf frames k false).map List.length).sum

/-- Counting one more accepted frame of the flow keeps the counters exact. -/
theorem counts_countPacket {c : Connection} {frames : List (Nat × List UInt8)} {k : ConnKey}
    {data : List UInt8} {out : Bool} (hc : Counts c frames k)
    (hf : frameFlow? data = some (k, out)) (now t : Nat) :
    Counts (countPacket now out data.length c) (frames ++ [(t, data)]) k := by
  obtain ⟨h1, h2, h3, h4⟩ := hc
  cases out <;> simp [Counts, countPacket, framesOf_append, hf, h1, h2, h3, h4, List.sum_append]

/-- A fresh record is exact for a flow with no frames yet. -/
theorem counts_new {frames : List (Nat × List UInt8)} {k : ConnKey}
    (h : ∀ out, framesOf frames k out = []) (protocol : Protocol) (l r : SocketAddr)
    (state : ConnectionState) (now : Nat) : Counts (.new protocol l r state now) frames k := by
  simp [Counts, Connection.new, h]

/-- The map is the tally of `frames`: no record for a key without accepted frames, and for each
other key a record built from that key, counting its frames. -/
structure Tracks (frames : List (Nat × List UInt8)) (m : ConnMap) : Prop where
  absent : ∀ k, m.get? k = none → ∀ out, framesOf frames k out = []
  present : ∀ k c, m.get? k = some c → c.flowKey = k ∧ ∃ out, framesOf frames k out ≠ []
  counts : ∀ k c, m.get? k = some c → Counts c frames k

theorem tracks_empty : Tracks [] HashMap.empty :=
  ⟨fun _ _ _ => rfl, fun _ _ h => by simp at h, fun _ _ h => by simp at h⟩

/-- An ignored frame leaves the map and the tally alone. -/
theorem Tracks.ignored {frames : List (Nat × List UInt8)} {m : ConnMap} {data : List UInt8}
    (ht : Tracks frames m) (hf : frameFlow? data = none) (now : Nat) :
    Tracks (frames ++ [(now, data)]) m := by
  have h : ∀ k out, framesOf (frames ++ [(now, data)]) k out = framesOf frames k out := by
    simp [framesOf_append, hf]
  exact ⟨by simpa only [h] using ht.absent, by simpa only [h] using ht.present,
    by simpa only [Counts, h] using ht.counts⟩

/-- An accepted frame of key `k₀`: the map changes at `k₀` only, to a record of that key that
counts the frame. -/
theorem Tracks.update {frames : List (Nat × List UInt8)} {m m' : ConnMap} {data : List UInt8}
    {k₀ : ConnKey} {out : Bool} {now : Nat} (ht : Tracks frames m)
    (hf : frameFlow? data = some (k₀, out)) (c' : Connection)
    (hget : ∀ k, m'.get? k = if k = k₀ then some c' else m.get? k)
    (hkey : c'.flowKey = k₀) (hc : Counts c' (frames ++ [(now, data)]) k₀) :
    Tracks (frames ++ [(now, data)]) m' := by
  have hother : ∀ k, k ≠ k₀ → ∀ out,
      framesOf (frames ++ [(now, data)]) k out = framesOf frames k out := by
    intro k hk out'
    simp [framesOf_append, hf, Ne.symm hk]
  refine ⟨fun k hk => ?_, fun k c hk => ?_, fun k c hk => ?_⟩ <;> rw [hget] at hk <;>
    split at hk
  · cases hk
  · rename_i hne; simpa only [hother k hne] using ht.absent k hk
  · rename_i he; subst he; cases hk
    exact ⟨hkey, out, by simp [framesOf_append, hf]⟩
  · rename_i hne; simpa only [hother k hne] using ht.present k c hk
  · rename_i he; subst he; cases hk; exact hc
  · rename_i hne; simpa only [Counts, hother k hne] using ht.counts k c hk

/-- The step: one frame handled without a panic keeps the map the tally of the frames so far. -/
theorem Tracks.step {frames : List (Nat × List UInt8)} {m m' : ConnMap} {now : Nat}
    {data : List UInt8} (ht : Tracks frames m) (hs : processSinglePacket now data m = some m') :
    Tracks (frames ++ [(now, data)]) m' := by
  cases hp : parseFrame data with
  | none => simp [processSinglePacket, hp] at hs
  | some o =>
    have hf : frameFlow? data = o.flow? := by simp [frameFlow?, hp]
    cases o <;>
      simp only [processSinglePacket, hp, Option.map_some', Option.some.injEq,
        FrameOutcome.flow?] at hs hf
    case ignored => subst hs; exact ht.ignored hf now
    case tcp srcIp dstIp srcPort dstPort isOutgoing state =>
      generalize endpoints srcIp dstIp srcPort dstPort isOutgoing = lr at hf hs
      obtain ⟨l, r⟩ := lr
      subst hs
      cases hg : m.get? (connKey .tcp l r) with
      | none =>
        exact ht.update hf _ (fun k => by simp [hg]) (by simp)
          (counts_countPacket (counts_new (ht.absent _ hg) .tcp l r state now) hf now now)
      | some c =>
        exact ht.update hf { countPacket now isOutgoing data.length c with state := state }
          (fun k => by simp [hg]) ((flowKey_countPacket ..).trans (ht.present _ c hg).1)
          (counts_countPacket (ht.counts _ c hg) hf now now)
    case udp srcIp dstIp srcPort dstPort isOutgoing =>
      generalize endpoints srcIp dstIp srcPort dstPort isOutgoing = lr at hf hs
      obtain ⟨l, r⟩ := lr
      subst hs
      cases hg : m.get? (connKey .udp l r) with
      | none =>
        exact ht.update hf _ (fun k => by simp [hg]) (by simp)
          (counts_countPacket (counts_new (ht.absent _ hg) .udp l r .unknown now) hf now now)
      | some c =>
        exact ht.update hf _ (fun k => by simp [hg])
          ((flowKey_countPacket ..).trans (ht.present _ c hg).1)
          (counts_countPacket (ht.counts _ c hg) hf now now)

/-- The run: frames handled without a panic keep the map the tally of everything handled. -/
theorem Tracks.handled {frames done : List (Nat × List UInt8)} {m m' : ConnMap}
    (ht : Tracks done m) (h : processFrames frames m = some m') : Tracks (done ++ frames) m' := by
  induction frames generalizing done m with
  | nil => cases h; simpa using ht
  | cons fr rest ih =>
    obtain ⟨m₁, h₁, h'⟩ := Option.bind_eq_some.mp h
    simpa using ih (ht.step h₁) h'

/-- A run of frames on which the handler does not panic is handled to the end. -/
theorem Tracks.run {frames done : List (Nat × List UInt8)} {m : ConnMap} (ht : Tracks done m)
    (hsafe : ∀ fr ∈ frames, (parseFrame fr.2).isSome) :
    ∃ m', processFrames frames m = some m' ∧ Tracks (done ++ frames) m' := by
  obtain ⟨m', hm'⟩ := Option.ne_none_iff_exists'.mp fun h => by
    obtain ⟨fr, hfr, hn⟩ := (processFrames_eq_none_iff frames m).mp h
    simpa [hn] using hsafe fr hfr
  exact ⟨m', hm', ht.handled hm'⟩

/-- From the empty map, a run of frames on which the handler does not panic leaves a record for
each flow key with an accepted frame and for no other key; each record is keyed by its own
protocol and addresses and counts its flow's frames and bytes in each direction. -/
theorem processFrames_tally (frames : List (Nat × List UInt8))
    (hsafe : ∀ fr ∈ frames, (parseFrame fr.2).isSome) :
    ∃ m, processFrames frames HashMap.empty = some m ∧
      (∀ k, (m.get? k).isSome ↔ ∃ fr ∈ frames, ∃ out, frameFlow? fr.2 = some (k, out)) ∧
      ∀ k c, m.get? k = some c →
        connKey c.protocol c.localAddr c.remoteAddr = k ∧
        c.packetsSent = (framesOf frames k true).length ∧
        c.packetsReceived = (framesOf frames k false).length ∧
        c.bytesSent = ((framesOf frames k true).map List.length).sum ∧
        c.bytesReceived = ((framesOf frames k false).map List.length).sum := by
  obtain ⟨m, hm, ht⟩ := tracks_empty.run hsafe
  rw [List.nil_append] at ht
  refine ⟨m, hm, fun k => ?_, fun k c hc => ⟨(ht.present k c hc).1, ht.counts k c hc⟩⟩
  cases hk : m.get? k with
  | none => simpa using fun fr hfr out => framesOf_eq_nil_iff.mp (ht.absent k hk out) fr hfr
  | some c =>
    obtain ⟨out, hne⟩ := (ht.present k c hk).2
    refine iff_of_true rfl (Classical.byContradiction fun h => hne ?_)
    exact framesOf_eq_nil_iff.mpr fun fr hfr hf => h ⟨fr, hfr, out, hf⟩

/-- An outgoing TCP SYN from `10.0.0.5:54000` to `8.8.8.8:80` behind a zeroed Ethernet header. -/
def synFrame : List UInt8 :=
  List.replicate 14 0 ++
    [0x45, 0, 0, 40, 0, 0, 0, 0, 64, 6, 0, 0, 10, 0, 0, 5, 8, 8, 8, 8] ++
    [0xD2, 0xF0, 0, 80, 0, 0, 0, 0, 0, 0, 0, 0, 0x50, 0x02, 0xFF, 0xFF, 0, 0, 0, 0]

/-- The tally over a run of one SYN frame. -/
theorem processFrames_tally_syn :
    let frames := [(0, synFrame)]
    (∀ fr ∈ frames, (parseFrame fr.2).isSome) ∧
    ∃ m, processFrames frames HashMap.empty = some m ∧
      (∀ k, (m.get? k).isSome ↔ ∃ fr ∈ frames, ∃ out, frameFlow? fr.2 = some (k, out)) ∧
      ∀ k c, m.get? k = some c →
        connKey c.protocol c.localAddr c.remoteAddr = k ∧
        c.packetsSent = (framesOf frames k true).length ∧
        c.packetsReceived = (framesOf frames k false).length ∧
        c.bytesSent = ((framesOf frames k true).map List.length).sum ∧
        c.bytesReceived = ((framesOf frames k false).map List.length).sum :=
  ⟨by decide, processFrames_tally _ (by decide)⟩

/-! ## Direction -/

/-- `SocketAddr::new` is injective. -/
theorem socketAddr_new_inj {a b : IpAddr} {p q : UInt16} :
    SocketAddr.new a p = SocketAddr.new b q ↔ a = b ∧ p = q := by
  cases a <;> cases b <;> simp [SocketAddr.new]

/-- A frame and its mirror image (addresses and ports swapped) get the same endpoints exactly when
the heuristic calls one address local and the other not, or both endpoints are the same. -/
theorem endpoints_swap_iff (src dst : IpAddr) (srcPort dstPort : UInt16) :
    endpoints dst src dstPort srcPort (isOutgoingSource dst) =
        endpoints src dst srcPort dstPort (isOutgoingSource src) ↔
      isOutgoingSource src ≠ isOutgoingSource dst ∨ (src = dst ∧ srcPort = dstPort) := by
  unfold endpoints
  cases isOutgoingSource src <;> cases isOutgoingSource dst <;>
    simp [socketAddr_new_inj, eq_comm, and_comm]

/-- A UDP frame from `src:srcPort` to `dst:dstPort` behind a zeroed Ethernet header. -/
def udpFrame (src dst : Ipv4Addr) (srcPort dstPort : UInt16) : List UInt8 :=
  List.replicate 14 (0 : UInt8) ++
    [0x45, 0, 0, 28, 0, 0, 0, 0, 64, 17, 0, 0, src.a, src.b, src.c, src.d,
      dst.a, dst.b, dst.c, dst.d] ++
    [(srcPort >>> 8).toUInt8, srcPort.toUInt8, (dstPort >>> 8).toUInt8, dstPort.toUInt8, 0, 8, 0, 0]

/-- A DNS answer from `8.8.8.8:53` to `1.1.1.1:5060` and its mirror image: both addresses are
public, so the heuristic calls both frames incoming, and they make two entries. -/
theorem swapped_frames_two_entries :
    (frameFlow? (udpFrame ⟨8, 8, 8, 8⟩ ⟨1, 1, 1, 1⟩ 53 5060)).isSome ∧
      (frameFlow? (udpFrame ⟨1, 1, 1, 1⟩ ⟨8, 8, 8, 8⟩ 5060 53)).isSome ∧
      (frameFlow? (udpFrame ⟨8, 8, 8, 8⟩ ⟨1, 1, 1, 1⟩ 53 5060)).map Prod.fst ≠
        (frameFlow? (udpFrame ⟨1, 1, 1, 1⟩ ⟨8, 8, 8, 8⟩ 5060 53)).map Prod.fst ∧
      (processFrames [(0, udpFrame ⟨8, 8, 8, 8⟩ ⟨1, 1, 1, 1⟩ 53 5060),
        (1, udpFrame ⟨1, 1, 1, 1⟩ ⟨8, 8, 8, 8⟩ 5060 53)] .empty).map (·.toList.length) =
        some 2 := by
  decide

end RustNet.Network.Monitor
