import RustNet.Std.BTreeMap

/-!
# CRYPTO frame reassembly

The model of `CryptoFrameReassembler` from `network/types.rs`: it buffers the CRYPTO frame
fragments of one QUIC flow, keyed by stream offset, so that a TLS ClientHello split over several
Initial packets can be read back as one contiguous prefix.

Stream offsets are `u64` in the source. Every operation here adds an offset and a fragment
length; the callers keep `offset + data.len()` below `2^64`, so the sums are exact and offsets
are modelled by `Nat`. `Instant`s are nanosecond counts, and an operation that reads the clock
takes the reading as its `now` argument.

The two loops of the source are structural recursions over the fragments in key order:
`updateContiguousOffset.go` (the sweep that advances `contiguous_offset`) and
`getContiguousData.go` (the walk that copies the covered prefix out).
-/

namespace RustNet.Network

/-- `TlsVersion`. -/
inductive TlsVersion where
  | ssl3 | tls10 | tls11 | tls12 | tls13
deriving DecidableEq, Repr

/-- `TlsInfo`: what the DPI layer extracts from a ClientHello. -/
structure TlsInfo where
  version : Option TlsVersion
  sni : Option String
  alpn : List String
  cipherSuite : Option UInt16
deriving DecidableEq, Repr

/-- `TlsInfo::new`: nothing extracted yet. -/
def TlsInfo.new : TlsInfo := ⟨none, none, [], none⟩

/-- A stored fragment: its stream offset and its bytes. -/
abbrev Fragment := Nat × List UInt8

/-- `CryptoFrameReassembler`. -/
structure CryptoFrameReassembler where
  /-- Fragments indexed by offset, iterated in key order. -/
  fragments : BTreeMap (List UInt8)
  /-- Highest contiguous byte reassembled from offset 0. -/
  contiguousOffset : Nat
  hasCompleteTlsInfo : Bool
  cachedTlsInfo : Option TlsInfo
  maxBufferSize : Nat
  currentBufferSize : Nat
  /-- Timestamp of the last update, in nanoseconds. -/
  lastUpdate : Nat
deriving DecidableEq

namespace CryptoFrameReassembler

/-- `CryptoFrameReassembler::new`, with a 64 KiB buffer limit. -/
def new (now : Nat) : CryptoFrameReassembler where
  fragments := .empty
  contiguousOffset := 0
  hasCompleteTlsInfo := false
  cachedTlsInfo := none
  maxBufferSize := 64 * 1024
  currentBufferSize := 0
  lastUpdate := now

/-- The loop of `update_contiguous_offset`: walk the fragments in key order from `current`,
extend over every fragment that starts at or before it, and `break` at the first gap. -/
def updateContiguousOffset.go (current : Nat) : List Fragment → Nat
  | [] => current
  | (offset, data) :: rest =>
    if offset ≤ current then
      let fragmentEnd := offset + data.length
      go (if fragmentEnd > current then fragmentEnd else current) rest
    else current

/-- `update_contiguous_offset`. -/
def updateContiguousOffset (r : CryptoFrameReassembler) : CryptoFrameReassembler :=
  { r with contiguousOffset := updateContiguousOffset.go r.contiguousOffset r.fragments.toList }

/-- The scan of `add_fragment` over the stored fragments: the loop returns `Ok(())` at the first
fragment that is an exact duplicate (same start and end) or that overlaps `[offset, dataEnd)`. -/
def overlapsStored (offset dataEnd : Nat) (fragments : List Fragment) : Bool :=
  fragments.any fun (fragOffset, fragData) =>
    let fragEnd := fragOffset + fragData.length
    (offset == fragOffset && dataEnd == fragEnd) ||
      (decide (offset < fragEnd) && decide (dataEnd > fragOffset))

/-- `add_fragment`: the result and the reassembler afterwards. -/
def addFragment (r : CryptoFrameReassembler) (now offset : Nat) (data : List UInt8) :
    Except String Unit × CryptoFrameReassembler :=
  if r.currentBufferSize + data.length > r.maxBufferSize then
    (.error "Fragment would exceed maximum buffer size", r)
  else
    let r := { r with lastUpdate := now }
    let dataEnd := offset + data.length
    if overlapsStored offset dataEnd r.fragments.toList then (.ok (), r)
    else
      let r := { r with
        currentBufferSize := r.currentBufferSize + data.length
        fragments := r.fragments.insert offset data }
      (.ok (), r.updateContiguousOffset)

/-- The loop of `get_contiguous_data`: copy each fragment's part beyond `currentOffset`, and
stop once `currentOffset` reaches `contiguousOffset`. A fragment past a gap is skipped, not a
reason to stop. -/
def getContiguousData.go (contiguousOffset : Nat) (currentOffset : Nat) (result : List UInt8) :
    List Fragment → List UInt8
  | [] => result
  | (offset, data) :: rest =>
    let (result, currentOffset) :=
      if offset ≤ currentOffset then
        let skip := currentOffset - offset
        if skip < data.length then (result ++ data.drop skip, offset + data.length)
        else (result, currentOffset)
      else (result, currentOffset)
    if currentOffset ≥ contiguousOffset then result
    else go contiguousOffset currentOffset result rest

/-- `get_contiguous_data`. -/
def getContiguousData (r : CryptoFrameReassembler) : Option (List UInt8) :=
  if r.contiguousOffset = 0 then none
  else
    let result := getContiguousData.go r.contiguousOffset 0 [] r.fragments.toList
    if result.isEmpty then none else some result

/-- `is_stale`: more than 30 whole seconds since the last update. -/
def isStale (r : CryptoFrameReassembler) (now : Nat) : Bool :=
  (now - r.lastUpdate) / 1000000000 > 30

/-- `clear_fragments`: drops the fragments and the buffered size, and nothing else. -/
def clearFragments (r : CryptoFrameReassembler) : CryptoFrameReassembler :=
  { r with fragments := r.fragments.clear, currentBufferSize := 0 }

/-- `set_complete_tls_info`. -/
def setCompleteTlsInfo (r : CryptoFrameReassembler) (tlsInfo : TlsInfo) :
    CryptoFrameReassembler :=
  { r with hasCompleteTlsInfo := true, cachedTlsInfo := some tlsInfo }

/-- `get_cached_tls_info`. -/
def getCachedTlsInfo (r : CryptoFrameReassembler) : Option TlsInfo :=
  if r.hasCompleteTlsInfo then r.cachedTlsInfo else none

/-- `get_fragments`. -/
def getFragments (r : CryptoFrameReassembler) : BTreeMap (List UInt8) := r.fragments

/-! ## The three outcomes of `add_fragment` -/

/-- Every call of `add_fragment` is rejected for size, accepted without change (duplicate or
overlap), or stores the fragment and re-sweeps the contiguous offset. -/
theorem addFragment_cases (r : CryptoFrameReassembler) (now offset : Nat) (data : List UInt8) :
    (r.maxBufferSize < r.currentBufferSize + data.length ∧
      r.addFragment now offset data = (.error "Fragment would exceed maximum buffer size", r)) ∨
    (r.currentBufferSize + data.length ≤ r.maxBufferSize ∧
      overlapsStored offset (offset + data.length) r.fragments.toList = true ∧
      r.addFragment now offset data = (.ok (), { r with lastUpdate := now })) ∨
    (r.currentBufferSize + data.length ≤ r.maxBufferSize ∧
      overlapsStored offset (offset + data.length) r.fragments.toList = false ∧
      r.addFragment now offset data = (.ok (), updateContiguousOffset
        { r with lastUpdate := now, currentBufferSize := r.currentBufferSize + data.length,
                 fragments := r.fragments.insert offset data })) := by
  unfold addFragment
  by_cases hsize : r.currentBufferSize + data.length > r.maxBufferSize
  · exact .inl ⟨hsize, if_pos hsize⟩
  · rw [if_neg hsize]
    cases hov : overlapsStored offset (offset + data.length) r.fragments.toList
    · exact .inr (.inr ⟨by omega, rfl, by simp [hov]⟩)
    · exact .inr (.inl ⟨by omega, rfl, by simp [hov]⟩)

/-- No fragment is overlapped or duplicated exactly when each stored one ends at or before
`offset`, or starts at or after `dataEnd`, and is not the same interval. -/
theorem overlapsStored_eq_false {offset dataEnd : Nat} {fragments : List Fragment} :
    overlapsStored offset dataEnd fragments = false ↔
      ∀ fr ∈ fragments, ¬(offset = fr.1 ∧ dataEnd = fr.1 + fr.2.length) ∧
        (fr.1 + fr.2.length ≤ offset ∨ dataEnd ≤ fr.1) := by
  simp only [overlapsStored, List.any_eq_false]
  refine forall_congr' fun fr => imp_congr_right fun _ => ?_
  simp only [Bool.or_eq_true, Bool.and_eq_true, beq_iff_eq, decide_eq_true_eq, not_or, not_and]
  omega

@[simp] theorem fragments_clearFragments (r : CryptoFrameReassembler) :
    r.clearFragments.fragments.toList = [] := rfl

@[simp] theorem contiguousOffset_clearFragments (r : CryptoFrameReassembler) :
    r.clearFragments.contiguousOffset = r.contiguousOffset := rfl

end CryptoFrameReassembler

end RustNet.Network
