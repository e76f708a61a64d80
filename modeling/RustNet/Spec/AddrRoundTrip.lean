import Mathlib.Data.Nat.Digits
import RustNet.Std.Display
import RustNet.Network.Linux

/-!
# Reading back a printed address

`parse_addr` reads every socket address that `Display` prints: it gives back the address with its
flow label cleared, which is all that `Display` prints. So the printed form of `SocketAddr.shown`
is injective, as `Std/Net.lean` takes it to be.

The proof follows the readers of `SocketAddr::from_str`, one lemma for each printed piece with
the rest of the input free: a number, an IPv4 address, a colon-separated run of IPv6 groups, an
IPv6 address and a socket address. What the rest may start with is each lemma's hypothesis.
The one fact about the `::` form is that `Display` compresses a run of zero segments
(`zeroSpan_run`).

## Key results

- `toDigits_eq_digits`: `Nat.toDigits` prints Mathlib's `Nat.digits`, most significant first;
- `readNumber_toDigits`: `read_number` reads a printed number back;
- `readIpv6Addr_display`: `read_ipv6_addr` reads every printed IPv6 address back;
- `parseSocketAddr_display`, `parseAddr_display`: `SocketAddr::from_str` and `parse_addr` read
  every printed socket address back, without its flow label;
- `display_eq_display_iff`: two socket addresses print alike exactly when they agree but for the
  flow label;
- `display_subset_addrChars`: a printed socket address has only hex digits and `.:[]%`.
-/

namespace RustNet

/-! ## Digits -/

theorem toDigitsCore_eq_digits {b : Nat} (hb : 2 ≤ b) :
    ∀ (fuel n : Nat) (ds : List Char), n < fuel → 0 < n →
      Nat.toDigitsCore b fuel n ds = (Nat.digits b n).reverse.map Nat.digitChar ++ ds
  | 0, _, _, h, _ => absurd h (Nat.not_lt_zero _)
  | fuel + 1, n, ds, h, hn => by
    have hq : n / b < n := Nat.div_lt_self hn (by omega)
    rw [Nat.toDigitsCore, Nat.digits_def' (by omega) hn]
    by_cases h0 : n / b = 0
    · simp [h0]
    · have hpos : 0 < n / b := Nat.pos_of_ne_zero h0
      rw [if_neg h0, toDigitsCore_eq_digits hb fuel (n / b) _ (by omega) hpos]
      simp

/-- `Nat.toDigits` prints Mathlib's `Nat.digits`, most significant first, and `0` for zero. -/
theorem toDigits_eq_digits {b : Nat} (hb : 2 ≤ b) (n : Nat) :
    Nat.toDigits b n = (if n = 0 then [0] else (Nat.digits b n).reverse).map Nat.digitChar := by
  by_cases h0 : n = 0
  · simp [h0, Nat.toDigits, Nat.toDigitsCore]
  · rw [if_neg h0, Nat.toDigits, toDigitsCore_eq_digits hb _ _ _ (by omega) (by omega),
      List.append_nil]

theorem toDigits_length_le {b e n : Nat} (hb : 2 ≤ b) (he : 0 < e) (hn : n < b ^ e) :
    (Nat.toDigits b n).length ≤ e :=
  Nat.toDigitsCore_length b hb _ n e hn he

theorem mem_toDigits {b n : Nat} {c : Char} (hb : 2 ≤ b) (h : c ∈ Nat.toDigits b n) :
    ∃ d < b, Nat.digitChar d = c := by
  rw [toDigits_eq_digits hb, List.mem_map] at h
  obtain ⟨d, hd, rfl⟩ := h
  refine ⟨d, ?_, rfl⟩
  split_ifs at hd
  · rw [List.mem_singleton.mp hd]; omega
  · exact Nat.digits_lt_base hb (List.mem_reverse.mp hd)

/-- Reading the printed digits back, most significant first, gives the number. -/
theorem foldl_digits_reverse (b n : Nat) :
    (Nat.digits b n).reverse.foldl (fun acc d => acc * b + d) 0 = n := by
  conv_rhs => rw [← Nat.ofDigits_digits b n]
  rw [List.foldl_reverse, Nat.ofDigits_eq_foldr]
  congr 1
  funext x y
  rw [Nat.cast_id, Nat.mul_comm, Nat.add_comm]

@[simp] theorem toUInt8_toNat (a : UInt8) : a.toNat.toUInt8 = a :=
  UInt8.eq_of_toBitVec_eq (by simp [Nat.toUInt8, UInt8.ofNat, UInt8.toNat, BitVec.ofNat_toNat])

@[simp] theorem toUInt16_toNat (a : UInt16) : a.toNat.toUInt16 = a :=
  UInt16.eq_of_toBitVec_eq (by simp [UInt16.ofNat, UInt16.toNat])

@[simp] theorem toUInt32_toNat (a : UInt32) : a.toNat.toUInt32 = a :=
  UInt32.eq_of_toBitVec_eq (by simp [UInt32.ofNat, UInt32.toNat])

/-! ## The characters of a printed address -/

/-- The characters `Display` uses for an address: hex digits and `.:[]%`. -/
def addrChars : List Char := "0123456789abcdef.:[]%".toList

theorem toDigits_subset_addrChars {b : Nat} (hb : 2 ≤ b) (hb16 : b ≤ 16) (n : Nat) :
    Nat.toDigits b n ⊆ addrChars := by
  intro c hc
  obtain ⟨d, hd, rfl⟩ := mem_toDigits hb hc
  have key : ∀ d < 16, Nat.digitChar d ∈ addrChars := by decide
  exact key d (by omega)

theorem Ipv4Addr.display_subset (ip : Ipv4Addr) : ip.display ⊆ addrChars := by
  have hn := toDigits_subset_addrChars (b := 10) (by decide) (by decide)
  simp only [Ipv4Addr.display, displayNat, List.append_subset, List.cons_subset, hn, and_true,
    true_and]
  decide

theorem Ipv6Addr.fmtSubslice_subset (gs : List UInt16) : Ipv6Addr.fmtSubslice gs ⊆ addrChars := by
  have hx := toDigits_subset_addrChars (b := 16) (by decide) (by decide)
  cases gs with
  | nil => exact List.nil_subset _
  | cons g gs =>
    refine List.append_subset.mpr ⟨hx _, fun c hc => ?_⟩
    obtain ⟨g, -, hc⟩ := List.mem_flatMap.mp hc
    rcases List.mem_cons.mp hc with rfl | hc
    · decide
    · exact hx _ hc

theorem Ipv6Addr.display_subset (ip : Ipv6Addr) : ip.display ⊆ addrChars := by
  unfold Ipv6Addr.display
  split
  · exact List.append_subset.mpr ⟨by decide, Ipv4Addr.display_subset _⟩
  · dsimp only
    split_ifs
    · simp only [List.append_subset, List.cons_subset, fmtSubslice_subset, and_true, true_and]
      decide
    · exact fmtSubslice_subset _

theorem display_subset_addrChars (a : SocketAddr) : a.display ⊆ addrChars := by
  have hn := toDigits_subset_addrChars (b := 10) (by decide) (by decide)
  cases a with
  | v4 ip port =>
    simp only [SocketAddr.display, displayNat, List.append_subset, List.cons_subset,
      ip.display_subset, hn, and_true, true_and]
    decide
  | v6 ip port flowinfo scopeId =>
    simp only [SocketAddr.display]
    split_ifs <;>
    simp only [displayNat, List.append_subset, List.cons_subset, ip.display_subset, hn,
      List.nil_subset, and_true, true_and] <;>
    decide

/-! ## The zero run `Display` compresses -/

/-- The loop keeps its longest run a run of zeros of the segments seen, and its current run one
that ends at the last segment seen. -/
theorem zeroSpanAux_run (rest pre : List UInt16) (longest current : Ipv6Addr.Span)
    (hl : ∃ a b, pre = a ++ List.replicate longest.len 0 ++ b ∧ a.length = longest.start)
    (hc : current.len = 0 ∨
      ∃ a, pre = a ++ List.replicate current.len 0 ∧ a.length = current.start) :
    ∃ a b, pre ++ rest =
        a ++ List.replicate (Ipv6Addr.zeroSpanAux pre.length longest current rest).len 0 ++ b ∧
      a.length = (Ipv6Addr.zeroSpanAux pre.length longest current rest).start := by
  induction rest generalizing pre longest current with
  | nil => simpa [Ipv6Addr.zeroSpanAux] using hl
  | cons s rest ih =>
    have hlen : pre.length + 1 = (pre ++ [s]).length := by simp
    rw [Ipv6Addr.zeroSpanAux, List.append_cons pre s rest, hlen]
    by_cases hs : s = 0
    · subst hs
      rw [if_pos rfl]
      dsimp only
      generalize hcur : (⟨if current.len = 0 then pre.length else current.start,
        current.len + 1⟩ : Ipv6Addr.Span) = cur
      have hc' : ∃ a, pre ++ [0] = a ++ List.replicate cur.len 0 ∧ a.length = cur.start := by
        subst hcur
        rcases hc with h0 | ⟨a, rfl, ha⟩
        · exact ⟨pre, by simp [h0], by simp [h0]⟩
        · refine ⟨a, by simp [List.replicate_succ'], ?_⟩
          by_cases h0 : current.len = 0 <;> simp [h0, ha]
      refine ih _ _ _ ?_ (.inr hc')
      split_ifs
      · obtain ⟨a, ha, ha'⟩ := hc'
        exact ⟨a, [], by simpa using ha, ha'⟩
      · obtain ⟨a, b, rfl, ha⟩ := hl
        exact ⟨a, b ++ [0], by simp, ha⟩
    · rw [if_neg hs]
      refine ih _ _ _ ?_ (.inl rfl)
      obtain ⟨a, b, rfl, ha⟩ := hl
      exact ⟨a, b ++ [s], by simp, ha⟩

/-- The run `Display` compresses is a run of zero segments. -/
theorem zeroSpan_run (ip : Ipv6Addr) :
    ∃ a b, ip.segments = a ++ List.replicate ip.zeroSpan.len 0 ++ b ∧
      a.length = ip.zeroSpan.start := by
  simpa using zeroSpanAux_run ip.segments [] ⟨0, 0⟩ ⟨0, 0⟩ ⟨[], [], rfl, rfl⟩ (.inl rfl)

namespace NetParse

/-! ## Numbers -/

theorem toDigit_digitChar {radix d : Nat} (hr : radix = 10 ∨ radix = 16) (hd : d < radix) :
    toDigit radix (Nat.digitChar d) = some d := by
  have key : ∀ d : Fin 16, toDigit 16 (Nat.digitChar d) = some d ∧
      (d.val < 10 → toDigit 10 (Nat.digitChar d) = some d) := by decide
  rcases hr with rfl | rfl
  · exact (key ⟨d, by omega⟩).2 hd
  · exact (key ⟨d, hd⟩).1

theorem toDigit_ten_eq_none {c : Char} (h : toDigit 16 c = none) : toDigit 10 c = none := by
  unfold toDigit at h ⊢
  by_cases hd : c.isDigit <;> simp_all

theorem head_toDigit_cons {radix : Nat} {c : Char} {t : List Char} (h : toDigit radix c = none) :
    ∀ d ∈ (c :: t).head?, toDigit radix d = none := by
  simpa using h

theorem readDigits_digitChars {radix : Nat} (hr : radix = 10 ∨ radix = 16) {ds : List Nat}
    (hds : ∀ d ∈ ds, d < radix) {rest : List Char}
    (hrest : ∀ c ∈ rest.head?, toDigit radix c = none) :
    readDigits radix (ds.map Nat.digitChar ++ rest) = (ds, rest) := by
  induction ds with
  | nil =>
    cases rest with
    | nil => rfl
    | cons c cs => simp [readDigits, hrest c rfl]
  | cons d ds ih =>
    simp only [List.mem_cons, forall_eq_or_imp] at hds
    simp [readDigits, toDigit_digitChar hr hds.1, ih hds.2]

/-- `read_number` reads a printed number back, up to the first character that is not a digit. -/
theorem readNumber_toDigits {radix : Nat} (hr : radix = 10 ∨ radix = 16) {maxDigits : Option Nat}
    {allowZeroPrefix : Bool} {max n : Nat} (hn : n ≤ max)
    (hlen : ∀ m ∈ maxDigits, (Nat.toDigits radix n).length ≤ m) {rest : List Char}
    (hrest : ∀ c ∈ rest.head?, toDigit radix c = none) :
    readNumber radix maxDigits allowZeroPrefix max (Nat.toDigits radix n ++ rest) =
      some (n, rest) := by
  have hb : 2 ≤ radix := by omega
  rw [toDigits_eq_digits hb] at hlen ⊢
  have hds : ∀ d ∈ (if n = 0 then [0] else (Nat.digits radix n).reverse), d < radix := by
    split_ifs
    · simp only [List.mem_singleton, forall_eq]; omega
    · exact fun d hd => Nat.digits_lt_base (by omega) (List.mem_reverse.mp hd)
  unfold readNumber
  rw [readDigits_digitChars hr hds hrest]
  dsimp only
  by_cases h0 : n = 0
  · subst h0
    cases maxDigits with
    | none => simp_all
    | some m => simp_all; omega
  · have hne : Nat.digits radix n ≠ [] := Nat.digits_ne_nil_iff_ne_zero.mpr h0
    have hhead : (Nat.digits radix n).getLast? ≠ some 0 := by
      rw [List.getLast?_eq_getLast _ hne]
      simpa using Nat.getLast_digit_ne_zero radix h0
    have hmax : ¬ n > max := by omega
    have hdig : ¬ (Option.any (fun x => decide ((Nat.digits radix n).reverse.length > x))
        maxDigits = true) := by
      cases maxDigits <;> simp_all
    rw [if_neg h0] at hlen ⊢
    simp only [foldl_digits_reverse]
    rw [if_neg (by simpa using hne), if_neg hdig, if_neg hmax, if_neg (by simp [hhead])]

/-- With no digit in front, `read_number` fails. -/
theorem readNumber_eq_none {radix : Nat} {maxDigits : Option Nat} {allowZeroPrefix : Bool}
    {max : Nat} {s : List Char} (h : ∀ c ∈ s.head?, toDigit radix c = none) :
    readNumber radix maxDigits allowZeroPrefix max s = none := by
  have hd : readDigits radix s = ([], s) := by
    cases s with
    | nil => rfl
    | cons c cs => simp [readDigits, h c rfl]
  simp [readNumber, hd]

theorem readDigits_suffix (radix : Nat) : ∀ s : List Char, (readDigits radix s).2 <:+ s
  | [] => List.suffix_refl _
  | c :: cs => by
    unfold readDigits
    split
    · exact (readDigits_suffix radix cs).trans (List.suffix_cons _ _)
    · exact List.suffix_refl _

theorem readNumber_suffix {radix : Nat} {maxDigits : Option Nat} {allowZeroPrefix : Bool}
    {max v : Nat} {s r : List Char}
    (h : readNumber radix maxDigits allowZeroPrefix max s = some (v, r)) : r <:+ s := by
  have hs := readDigits_suffix radix s
  unfold readNumber at h
  generalize readDigits radix s = p at h hs
  obtain ⟨digits, rest⟩ := p
  dsimp only at h
  split_ifs at h
  cases h
  exact hs

/-! ## IPv4 addresses -/

theorem readNumber_octet (o : UInt8) {rest : List Char}
    (hrest : ∀ c ∈ rest.head?, toDigit 10 c = none) :
    readNumber 10 (some 3) false 255 (displayNat o.toNat ++ rest) = some (o.toNat, rest) := by
  have ho : o.toNat < 256 := o.toNat_lt_size
  refine readNumber_toDigits (.inl rfl) (by omega) (fun m hm => ?_) hrest
  simp only [Option.mem_def, Option.some.injEq] at hm
  subst hm
  exact toDigits_length_le (by decide) (by decide) (by omega)

theorem readIpv4Addr_display (ip : Ipv4Addr) {rest : List Char}
    (hrest : ∀ c ∈ rest.head?, toDigit 10 c = none) :
    readIpv4Addr (ip.display ++ rest) = some (ip, rest) := by
  have hdot : toDigit 10 '.' = none := by decide
  simp only [readIpv4Addr, Ipv4Addr.display, List.append_assoc, List.cons_append,
    readNumber_octet _ (head_toDigit_cons hdot), readNumber_octet _ hrest, readGivenChar,
    Option.bind_eq_bind, Option.some_bind, if_pos, toUInt8_toNat]

/-- An IPv4 address is read only where a `.` follows its first number. -/
theorem readIpv4Addr_eq_none {s : List Char} (hdot : '.' ∉ s) : readIpv4Addr s = none := by
  unfold readIpv4Addr
  cases h1 : readNumber 10 (some 3) false 255 s with
  | none => rfl
  | some r =>
    obtain ⟨a, t⟩ := r
    have ht := readNumber_suffix h1
    cases t with
    | nil => rfl
    | cons d t =>
      have hd : d ≠ '.' := fun hd => hdot (ht.subset (by simp [hd]))
      simp [readGivenChar, hd]

/-- With no digit in front, no IPv4 address is read. -/
theorem readIpv4Addr_eq_none_of_head {s : List Char} (h : ∀ c ∈ s.head?, toDigit 10 c = none) :
    readIpv4Addr s = none := by
  simp [readIpv4Addr, readNumber_eq_none h]

/-! ## IPv6 groups -/

theorem dot_not_mem_lowerHex (n : Nat) : '.' ∉ lowerHex n := fun h => by
  obtain ⟨d, hd, heq⟩ := mem_toDigits (by decide) h
  have key : ∀ d < 16, Nat.digitChar d ≠ '.' := by decide
  exact key d hd heq

theorem readNumber_group (g : UInt16) {rest : List Char}
    (hrest : ∀ c ∈ rest.head?, toDigit 16 c = none) :
    readNumber 16 (some 4) true 0xFFFF (lowerHex g.toNat ++ rest) = some (g.toNat, rest) := by
  have hg : g.toNat < 65536 := g.toNat_lt_size
  refine readNumber_toDigits (.inr rfl) (by omega) (fun m hm => ?_) hrest
  simp only [Option.mem_def, Option.some.injEq] at hm
  subst hm
  exact toDigits_length_le (by decide) (by decide) (by omega)

/-- Where the rest gives no separator and group, the groups end. -/
theorem readGroups_stop {n : Nat} {first : Bool} {s : List Char}
    (h : ∀ t, readSeparator first ':' s = some ((), t) → ∀ c ∈ t.head?, toDigit 16 c = none) :
    readGroups n first s = ([], false, s) := by
  cases n with
  | zero => rfl
  | succ n =>
    unfold readGroups
    cases hsep : readSeparator first ':' s with
    | none => simp [hsep]
    | some r =>
      obtain ⟨⟨⟩, t⟩ := r
      have ht := h t hsep
      simp [hsep, readIpv4Addr_eq_none_of_head (fun c hc => toDigit_ten_eq_none (ht c hc)),
        readNumber_eq_none ht]

/-- One group, with its separator unless it is the first. -/
theorem readGroups_group {n : Nat} (first : Bool) (g : UInt16) {s : List Char}
    (hv4 : readIpv4Addr (lowerHex g.toNat ++ s) = none)
    (hs : ∀ c ∈ s.head?, toDigit 16 c = none) :
    readGroups (n + 1) first ((if first then [] else [':']) ++ lowerHex g.toNat ++ s) =
      (g.toNat :: (readGroups n false s).1, (readGroups n false s).2) := by
  have hsep : readSeparator first ':' ((if first then [] else [':']) ++ lowerHex g.toNat ++ s) =
      some ((), lowerHex g.toNat ++ s) := by
    cases first <;> simp [readSeparator, readGivenChar]
  rw [readGroups.eq_2]
  simp only [hsep, Option.some_bind, hv4, ite_self, readNumber_group g hs]

/-- Groups with their separators before a rest without `.` hold no `.`, and start with no
digit. -/
theorem colonGroups_append (gs : List UInt16) {s : List Char} (hdot : '.' ∉ s)
    (hs : ∀ c ∈ s.head?, toDigit 16 c = none) :
    '.' ∉ (gs.flatMap fun g => ':' :: lowerHex g.toNat) ++ s ∧
      ∀ c ∈ ((gs.flatMap fun g => ':' :: lowerHex g.toNat) ++ s).head?, toDigit 16 c = none := by
  refine ⟨?_, ?_⟩
  · simp only [List.mem_append, List.mem_flatMap, List.mem_cons, not_or, not_exists, not_and]
    exact ⟨fun g _ => ⟨by decide, dot_not_mem_lowerHex _⟩, hdot⟩
  · cases gs with
    | nil => simpa using hs
    | cons => simp only [List.flatMap_cons, List.cons_append]; exact head_toDigit_cons rfl

theorem dot_not_mem_fmtSubslice (gs : List UInt16) : '.' ∉ Ipv6Addr.fmtSubslice gs := by
  cases gs with
  | nil => simp [Ipv6Addr.fmtSubslice]
  | cons g gs =>
    have := (colonGroups_append gs (s := []) (by simp) (by simp)).1
    rw [List.append_nil] at this
    exact List.not_mem_append (dot_not_mem_lowerHex _) this

/-- The groups after the first: each is read with its separator. -/
theorem readGroups_colonGroups (gs : List UInt16) {n : Nat} (hn : gs.length ≤ n)
    {s : List Char} (hdot : '.' ∉ s) (hs : ∀ c ∈ s.head?, toDigit 16 c = none) :
    readGroups n false ((gs.flatMap fun g => ':' :: lowerHex g.toNat) ++ s) =
      (gs.map UInt16.toNat ++ (readGroups (n - gs.length) false s).1,
        (readGroups (n - gs.length) false s).2) := by
  induction gs generalizing n with
  | nil => rfl
  | cons g gs ih =>
    obtain ⟨m, rfl⟩ : ∃ m, n = m + 1 := ⟨n - 1, by simp at hn; omega⟩
    obtain ⟨hdot', hs'⟩ := colonGroups_append gs hdot hs
    have hv4 := readIpv4Addr_eq_none (List.not_mem_append (dot_not_mem_lowerHex g.toNat) hdot')
    have key := readGroups_group (n := m) false g hv4 hs'
    simp only [Bool.false_eq_true, ↓reduceIte, List.singleton_append, List.cons_append,
      List.nil_append, List.append_assoc] at key
    simp only [List.flatMap_cons, List.cons_append, List.append_assoc, key,
      ih (Nat.le_of_succ_le_succ hn), List.length_cons, Nat.add_sub_add_right, List.map_cons]

/-- `fmt_subslice` is read back group by group, up to where the rest stops the reader. -/
theorem readGroups_fmtSubslice (gs : List UInt16) {n : Nat} (hn : gs.length ≤ n) {s : List Char}
    (hdot : '.' ∉ s) (hs : ∀ c ∈ s.head?, toDigit 16 c = none)
    (hstop : readGroups (n - gs.length) gs.isEmpty s = ([], false, s)) :
    readGroups n true (Ipv6Addr.fmtSubslice gs ++ s) = (gs.map UInt16.toNat, false, s) := by
  cases gs with
  | nil => simpa using hstop
  | cons g gs =>
    obtain ⟨m, rfl⟩ : ∃ m, n = m + 1 := ⟨n - 1, by simp at hn; omega⟩
    obtain ⟨hdot', hs'⟩ := colonGroups_append gs hdot hs
    have hv4 := readIpv4Addr_eq_none (List.not_mem_append (dot_not_mem_lowerHex g.toNat) hdot')
    have key := readGroups_group (n := m) true g hv4 hs'
    simp only [↓reduceIte, List.nil_append] at key
    rw [Ipv6Addr.fmtSubslice, List.append_assoc, key,
      readGroups_colonGroups gs (Nat.le_of_succ_le_succ hn) hdot hs]
    simp only [List.isEmpty_cons, List.length_cons, Nat.add_sub_add_right] at hstop
    simp [hstop]

/-- A rest that starts with neither a digit nor `:` stops the groups. -/
theorem readGroups_stop_rest {n : Nat} {first : Bool} {rest : List Char}
    (hrest : ∀ c ∈ rest.head?, toDigit 16 c = none ∧ c ≠ ':') :
    readGroups n first rest = ([], false, rest) :=
  readGroups_stop fun t ht => by
    cases first
    · cases rest with
      | nil => simp [readSeparator, readGivenChar] at ht
      | cons c cs =>
        have hc := (hrest c rfl).2
        simp [readSeparator, readGivenChar, hc] at ht
    · simp only [readSeparator, ↓reduceIte, Option.some.injEq, Prod.mk.injEq, true_and] at ht
      subst ht
      exact fun c hc => (hrest c hc).1

/-- `::` stops the groups. -/
theorem readGroups_stop_colons {n : Nat} {first : Bool} {s : List Char} :
    readGroups n first (':' :: ':' :: s) = ([], false, ':' :: ':' :: s) :=
  readGroups_stop fun t ht => by
    cases first <;> simp only [readSeparator, readGivenChar, ↓reduceIte, Option.some.injEq,
      Prod.mk.injEq, true_and, Bool.false_eq_true] at ht <;> subst ht <;>
      exact head_toDigit_cons (by decide)

/-! ## IPv6 addresses -/

theorem ipv6OfGroups_segments (ip : Ipv6Addr) :
    ipv6OfGroups (ip.segments.map UInt16.toNat) = ip := by
  obtain ⟨segments, hlen⟩ := ip
  simp only [ipv6OfGroups, Ipv6Addr.mk.injEq]
  rw [List.take_append_of_le_length (by simp [hlen]), List.take_of_length_le (by simp [hlen]),
    List.map_map]
  conv_rhs => rw [← List.map_id segments]
  exact List.map_congr_left fun g _ => toUInt16_toNat g

/-- The segments of an IPv4-mapped address. -/
theorem segments_of_toIpv4Mapped {ip : Ipv6Addr} {v4 : Ipv4Addr}
    (h : ip.toIpv4Mapped = some v4) :
    ip.segments.map UInt16.toNat = [0, 0, 0, 0, 0, 0xffff, v4.a.toNat * 256 + v4.b.toNat,
      v4.c.toNat * 256 + v4.d.toNat] := by
  obtain ⟨segments, hlen⟩ := ip
  unfold Ipv6Addr.toIpv4Mapped at h
  dsimp only at h ⊢
  split at h
  · rename_i g k
    split_ifs at h with h6
    cases h
    simp only [List.cons.injEq, and_true] at h6
    obtain ⟨rfl, rfl, rfl, rfl, rfl, rfl⟩ := h6
    have hg : g.toNat < 65536 := g.toNat_lt_size
    have hk : k.toNat < 65536 := k.toNat_lt_size
    simp only [UInt8.toNat_ofNat_of_lt (show g.toNat / 256 < 256 by omega),
      UInt8.toNat_ofNat_of_lt (show g.toNat % 256 < 256 by omega),
      UInt8.toNat_ofNat_of_lt (show k.toNat / 256 < 256 by omega),
      UInt8.toNat_ofNat_of_lt (show k.toNat % 256 < 256 by omega),
      Nat.div_add_mod' g.toNat 256, Nat.div_add_mod' k.toNat 256]
    rfl
  · cases h

/-- The IPv4-mapped form is read as five zero groups, `ffff` and the two groups of the IPv4
address. -/
theorem readIpv6Addr_mapped (v4 : Ipv4Addr) {rest : List Char}
    (hrest : ∀ c ∈ rest.head?, toDigit 10 c = none) :
    readIpv6Addr ("::ffff:".toList ++ v4.display ++ rest) =
      some (ipv6OfGroups [0, 0, 0, 0, 0, 0xffff, v4.a.toNat * 256 + v4.b.toNat,
        v4.c.toNat * 256 + v4.d.toNat], rest) := by
  have hffff : ['f', 'f', 'f', 'f'] = lowerHex (0xffff : UInt16).toNat := by decide
  have hgroup := readGroups_group (n := 6) true (s := ':' :: (v4.display ++ rest))
    0xffff (readIpv4Addr_eq_none_of_head (by rw [← hffff]; exact head_toDigit_cons (by decide)))
    (head_toDigit_cons (by decide))
  have hv4 : readGroups 6 false (':' :: (v4.display ++ rest)) =
      ([v4.a.toNat * 256 + v4.b.toNat, v4.c.toNat * 256 + v4.d.toNat], true, rest) := by
    rw [readGroups.eq_2]
    simp [readSeparator, readGivenChar, readIpv4Addr_display v4 hrest]
  simp only [↓reduceIte, List.nil_append, ← hffff, hv4, List.cons_append] at hgroup
  rw [show "::ffff:".toList = [':', ':', 'f', 'f', 'f', 'f', ':'] from rfl]
  simp only [readIpv6Addr, List.cons_append, List.nil_append, readGroups_stop_colons,
    List.length_nil, readGivenChar]
  simp [hgroup]

/-- `read_ipv6_addr` reads every printed IPv6 address back, before a rest that holds no `.` and
starts with neither a digit nor `:`. -/
theorem readIpv6Addr_display (ip : Ipv6Addr) {rest : List Char} (hdot : '.' ∉ rest)
    (hrest : ∀ c ∈ rest.head?, toDigit 16 c = none ∧ c ≠ ':') :
    readIpv6Addr (ip.display ++ rest) = some (ip, rest) := by
  have hs : ∀ c ∈ rest.head?, toDigit 16 c = none := fun c hc => (hrest c hc).1
  have hlen := ip.length_segments
  unfold Ipv6Addr.display
  split
  · rename_i v4 hmap
    rw [readIpv6Addr_mapped v4 (fun c hc => toDigit_ten_eq_none (hs c hc)),
      ← segments_of_toIpv4Mapped hmap, ipv6OfGroups_segments]
  · dsimp only
    split_ifs with hspan
    · obtain ⟨a, b, hseg, ha⟩ := zeroSpan_run ip
      have hab : a.length + ip.zeroSpan.len + b.length = 8 := by
        rw [hseg] at hlen; simpa [Nat.add_assoc] using hlen
      have hpre : ip.segments.take ip.zeroSpan.start = a := by
        rw [hseg, List.append_assoc, List.take_left' ha]
      have hpost : ip.segments.drop (ip.zeroSpan.start + ip.zeroSpan.len) = b := by
        rw [hseg, List.append_assoc, ← ha, List.drop_append,
          List.drop_left' (List.length_replicate _ _)]
      have hhead := readGroups_fmtSubslice a (n := 8) (by omega)
        (s := ':' :: ':' :: (Ipv6Addr.fmtSubslice b ++ rest))
        (by simp [dot_not_mem_fmtSubslice, hdot]) (head_toDigit_cons (by decide))
        readGroups_stop_colons
      have htail := readGroups_fmtSubslice b (n := 8 - (a.length + 1)) (by omega) hdot hs
        (readGroups_stop_rest hrest)
      have hzeros : 8 - a.length - b.length = ip.zeroSpan.len := by omega
      rw [hpre, hpost, List.append_assoc, List.cons_append, List.cons_append]
      simp only [readIpv6Addr, hhead, htail, List.length_map, readGivenChar, ↓reduceIte,
        show a.length ≠ 8 by omega, Bool.false_eq_true, Option.bind_eq_bind, Option.some_bind,
        hzeros]
      conv_rhs => rw [← ipv6OfGroups_segments ip, hseg]
      simp
    · have h8 := readGroups_fmtSubslice ip.segments (n := 8) (by rw [hlen]) hdot hs
        (by rw [hlen]; rfl)
      simp only [readIpv6Addr, h8, List.length_map, hlen, ↓reduceIte, ipv6OfGroups_segments]

/-! ## Socket addresses -/

theorem readPort_display (port : UInt16) {rest : List Char}
    (hrest : ∀ c ∈ rest.head?, toDigit 10 c = none) :
    readPort (':' :: displayNat port.toNat ++ rest) = some (port, rest) := by
  have hp : port.toNat < 65536 := port.toNat_lt_size
  have h : readNumber 10 none true 65535 (displayNat port.toNat ++ rest) =
      some (port.toNat, rest) :=
    readNumber_toDigits (.inl rfl) (by omega) (fun _ h => by simp at h) hrest
  simp [readPort, readGivenChar, h]

theorem readScopeId_display (scopeId : UInt32) {rest : List Char}
    (hrest : ∀ c ∈ rest.head?, toDigit 10 c = none) :
    readScopeId ('%' :: displayNat scopeId.toNat ++ rest) = some (scopeId, rest) := by
  have hs : scopeId.toNat < 4294967296 := scopeId.toNat_lt_size
  have h : readNumber 10 none true 4294967295 (displayNat scopeId.toNat ++ rest) =
      some (scopeId.toNat, rest) :=
    readNumber_toDigits (.inl rfl) (by omega) (fun _ h => by simp at h) hrest
  simp [readScopeId, readGivenChar, h]

theorem dot_not_mem_displayNat (n : Nat) : '.' ∉ displayNat n := fun h => by
  obtain ⟨d, hd, heq⟩ := mem_toDigits (by decide) h
  have key : ∀ d < 10, Nat.digitChar d ≠ '.' := by decide
  exact key d hd heq

/-- `SocketAddr::from_str` reads every printed socket address back, without its flow label. -/
theorem parseSocketAddr_display (a : SocketAddr) : parseSocketAddr a.display = some a.shown := by
  have hport (port : UInt16) : readPort (':' :: displayNat port.toNat) = some (port, []) := by
    have h : readPort (':' :: displayNat port.toNat ++ []) = some (port, []) :=
      readPort_display port (by simp)
    simpa using h
  cases a with
  | v4 ip port =>
    have hip : readIpv4Addr (ip.display ++ ':' :: displayNat port.toNat) =
        some (ip, ':' :: displayNat port.toNat) :=
      readIpv4Addr_display ip (head_toDigit_cons (by decide))
    simp [parseSocketAddr, readSocketAddrV4, SocketAddr.display, hip, hport, Option.orElse]
  | v6 ip port flowinfo scopeId =>
    have hbracket : readIpv4Addr (SocketAddr.display (.v6 ip port flowinfo scopeId)) = none :=
      readIpv4Addr_eq_none_of_head (head_toDigit_cons (by decide))
    have hv6 : readSocketAddrV6 (SocketAddr.display (.v6 ip port flowinfo scopeId)) =
        some (.v6 ip port 0 scopeId, []) := by
      by_cases h0 : scopeId = 0
      · have hip : readIpv6Addr (ip.display ++ ']' :: ':' :: displayNat port.toNat) =
            some (ip, ']' :: ':' :: displayNat port.toNat) :=
          readIpv6Addr_display ip (by simp [dot_not_mem_displayNat]) (by simp; decide)
        simp [readSocketAddrV6, SocketAddr.display, h0, readGivenChar, hip, readScopeId, hport]
      · have hip : readIpv6Addr (ip.display ++ '%' :: (displayNat scopeId.toNat ++
            ']' :: ':' :: displayNat port.toNat)) = some (ip, '%' :: (displayNat scopeId.toNat ++
            ']' :: ':' :: displayNat port.toNat)) :=
          readIpv6Addr_display ip (by simp [dot_not_mem_displayNat]) (by simp; decide)
        have hscope : readScopeId ('%' :: displayNat scopeId.toNat ++
            ']' :: ':' :: displayNat port.toNat) =
              some (scopeId, ']' :: ':' :: displayNat port.toNat) :=
          readScopeId_display scopeId (head_toDigit_cons (by decide))
        simp only [List.cons_append] at hscope
        simp [readSocketAddrV6, SocketAddr.display, h0, readGivenChar, hip, hscope, hport]
    simp [parseSocketAddr, readSocketAddrV4, hbracket, hv6, Option.orElse, SocketAddr.shown]

end NetParse

namespace Text

theorem dropWhile_eq_self {p : Char → Bool} {s : List Char} (h : ∀ c ∈ s, p c = false) :
    s.dropWhile p = s := by
  cases s with
  | nil => rfl
  | cons c cs => exact List.dropWhile_cons_of_neg (by simp [h c (List.mem_cons_self c cs)])

/-- `trim` leaves a string without whitespace alone. -/
theorem trim_eq_self {s : List Char} (h : ∀ c ∈ s, isWhitespace c = false) : trim s = s := by
  unfold trim
  rw [dropWhile_eq_self h, dropWhile_eq_self (fun c hc => h c (List.mem_reverse.mp hc)),
    List.reverse_reverse]

theorem isWhitespace_of_mem_addrChars : ∀ c ∈ addrChars, isWhitespace c = false := by decide

end Text

open NetParse Text in
/-- `parse_addr` reads every printed socket address back, without its flow label. -/
theorem parseAddr_display (a : SocketAddr) : Network.Linux.parseAddr a.display = some a.shown := by
  rw [Network.Linux.parseAddr, trim_eq_self fun c hc =>
    isWhitespace_of_mem_addrChars c (display_subset_addrChars a hc)]
  simp [parseSocketAddr_display]

/-- Two socket addresses print alike exactly when they agree but for the flow label. -/
theorem display_eq_display_iff (a b : SocketAddr) : a.display = b.display ↔ a.shown = b.shown := by
  constructor
  · intro h
    have := NetParse.parseSocketAddr_display a
    rwa [h, NetParse.parseSocketAddr_display, Option.some.injEq, eq_comm] at this
  · intro h
    have hshown : ∀ c : SocketAddr, c.shown.display = c.display := by
      intro c; cases c <;> rfl
    rw [← hshown a, h, hshown]


end RustNet
