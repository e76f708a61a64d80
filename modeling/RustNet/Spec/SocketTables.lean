import RustNet.Spec.AddrRoundTrip
import RustNet.Spec.ConnectionList

/-!
# Socket tables printed and read back

What the `ss` and `netstat` parsers make of the tables the two commands print. A socket entry is
printed the way `ss -tupn` and `netstat -tupn` print it: its netid, its queue columns, its local
and remote addresses through `Display`, the word for its state, and its process.

`get_connections_from_ss` reads such a table back: every entry gives one connection, in order,
with the protocol, the addresses, the state, the pid and the name it was printed from. The proof
composes the round trip of `parse_addr` with the splitting of the text into lines and words and
with the `find` arithmetic of the Process column.

`get_connections_from_netstat` reads the address columns at indices 1 and 2, which hold the
queues `Recv-Q` and `Send-Q`: every entry of a printed table comes back as the flow
`127.0.0.1:0 → 127.0.0.1:0`.

## Key results

- `splitWhitespace_unwords`, `lines_unlines`: words joined by spaces and lines ended by `\n` are
  split back;
- `ssProcess_ssUsers`: the Process column gives back the pid and the name;
- `ssConnection_ssLine`: a printed `ss` line gives back its entry;
- `getConnectionsFromSs_ssText`: a printed `ss` table gives back its entries, in order;
- `netstatConnection_netstatLine`, `getConnectionsFromNetstat_netstatText`: every line of a
  printed `netstat` table lists `127.0.0.1:0 → 127.0.0.1:0`, and
  `getConnectionsFromNetstat_loses_addresses`: a table of one established connection.
-/

namespace RustNet.Text

/-! ## Words and lines -/

/-- Words separated by single spaces. -/
def unwords : List (List Char) → List Char
  | [] => []
  | w :: ws => w ++ ws.flatMap (' ' :: ·)

/-- Lines, each ended by `\n`. -/
def unlines (ls : List (List Char)) : List Char := ls.flatMap (· ++ ['\n'])

/-- A run without whitespace extends the current word. -/
theorem splitWhitespaceAux_word {w : List Char} (hw : ∀ c ∈ w, isWhitespace c = false)
    (rest cur : List Char) :
    splitWhitespaceAux (w ++ rest) cur = splitWhitespaceAux rest (w.reverse ++ cur) := by
  induction w generalizing cur with
  | nil => rfl
  | cons c w ih =>
    simp only [List.mem_cons, forall_eq_or_imp] at hw
    simp [splitWhitespaceAux, hw.1, ih hw.2]

/-- A word without whitespace, nonempty. -/
def IsWord (w : List Char) : Prop := w ≠ [] ∧ ∀ c ∈ w, isWhitespace c = false

theorem splitWhitespaceAux_words {ws : List (List Char)} (hws : ∀ w ∈ ws, IsWord w)
    {cur : List Char} (hcur : cur ≠ []) :
    splitWhitespaceAux (ws.flatMap (' ' :: ·)) cur = cur.reverse :: ws := by
  induction ws generalizing cur with
  | nil => simp [splitWhitespaceAux, hcur]
  | cons w ws ih =>
    obtain ⟨hw, hws⟩ := List.forall_mem_cons.mp hws
    have hsp : isWhitespace ' ' = true := by decide
    rw [List.flatMap_cons, List.cons_append, splitWhitespaceAux, if_pos hsp,
      if_neg (by simpa using hcur), splitWhitespaceAux_word hw.2, List.append_nil,
      ih hws (by simpa using hw.1), List.reverse_reverse]

/-- Words joined by single spaces are split back. -/
theorem splitWhitespace_unwords {ws : List (List Char)} (hws : ∀ w ∈ ws, IsWord w) :
    splitWhitespace (unwords ws) = ws := by
  cases ws with
  | nil => rfl
  | cons w ws =>
    obtain ⟨hw, hws⟩ := List.forall_mem_cons.mp hws
    rw [unwords, splitWhitespace, splitWhitespaceAux_word hw.2, List.append_nil,
      splitWhitespaceAux_words hws (by simpa using hw.1), List.reverse_reverse]

theorem mem_unwords {ws : List (List Char)} {c : Char} (h : c ∈ unwords ws) :
    c = ' ' ∨ ∃ w ∈ ws, c ∈ w := by
  cases ws with
  | nil => cases h
  | cons w ws =>
    rcases List.mem_append.mp h with h | h
    · exact .inr ⟨w, List.mem_cons_self _ _, h⟩
    · obtain ⟨w', hw', h⟩ := List.mem_flatMap.mp h
      rcases List.mem_cons.mp h with h | h
      · exact .inl h
      · exact .inr ⟨w', List.mem_cons_of_mem _ hw', h⟩

/-- Words hold no line break. -/
theorem not_mem_unwords {ws : List (List Char)} (hws : ∀ w ∈ ws, IsWord w) {c : Char}
    (hc : isWhitespace c = true) (hsp : c ≠ ' ') : c ∉ unwords ws := fun h => by
  rcases mem_unwords h with h | ⟨w, hw, h⟩
  · exact hsp h
  · rw [(hws w hw).2 c h] at hc
    cases hc

theorem linesAux_line {l : List Char} (hl : '\n' ∉ l) (rest cur : List Char) :
    linesAux (l ++ rest) cur = linesAux rest (l.reverse ++ cur) := by
  induction l generalizing cur with
  | nil => rfl
  | cons c l ih =>
    simp only [List.mem_cons, not_or] at hl
    simp [linesAux, Ne.symm hl.1, ih hl.2]

/-- Lines ended by `\n` are split back, each without a `\r` it ends with. -/
theorem lines_unlines {ls : List (List Char)} (hls : ∀ l ∈ ls, '\n' ∉ l) :
    lines (unlines ls) = ls.map fun l => stripCr l.reverse := by
  unfold lines unlines
  induction ls with
  | nil => rfl
  | cons l ls ih =>
    obtain ⟨hl, hls⟩ := List.forall_mem_cons.mp hls
    rw [List.flatMap_cons, List.append_assoc, linesAux_line hl, List.singleton_append,
      List.append_nil, linesAux, if_pos rfl, ih hls, List.map_cons]

theorem stripCr_reverse {l : List Char} (hl : '\r' ∉ l) : stripCr l.reverse = l := by
  unfold stripCr
  split
  · rename_i rest h
    exact absurd (List.mem_reverse.mp (h ▸ List.mem_cons_self _ _)) hl
  · exact List.reverse_reverse l

/-! ## Finding a pattern -/

theorem prefix_of_isPrefixOf_append_cons {pat u t : List Char} {c : Char} (hc : c ∉ pat)
    (h : pat <+: u ++ c :: t) : pat <+: u := by
  induction pat generalizing u with
  | nil => exact List.nil_prefix
  | cons p ps ih =>
    cases u with
    | nil =>
      rw [List.nil_append, List.cons_prefix_cons] at h
      exact absurd (h.1 ▸ List.mem_cons_self _ _) hc
    | cons x u =>
      rw [List.cons_append, List.cons_prefix_cons] at h
      exact List.cons_prefix_cons.mpr ⟨h.1, ih (fun h' => hc (List.mem_cons_of_mem _ h')) h.2⟩

theorem find_cons (pat : List Char) (x : Char) (s : List Char) :
    find pat (x :: s) = if pat <+: x :: s then some 0 else (find pat s).map (· + 1) := by
  simp [find]

/-- Before a character the pattern does not hold, and past a part that does not hold the
pattern, the pattern is looked for after that character. -/
theorem find_append_cons {pat u t : List Char} {c : Char} (hc : c ∉ pat)
    (hu : ¬pat <:+: u) : find pat (u ++ c :: t) = (find pat t).map (· + (u.length + 1)) := by
  induction u with
  | nil =>
    have hp : ¬pat <+: c :: t := fun h =>
      hu (prefix_of_isPrefixOf_append_cons hc (by simpa using h)).isInfix
    rw [List.nil_append, find_cons, if_neg hp]
    rfl
  | cons x u ih =>
    have hp : ¬pat <+: x :: (u ++ c :: t) := fun h =>
      hu (prefix_of_isPrefixOf_append_cons hc (by simpa using h)).isInfix
    have hu' : ¬pat <:+: u := fun h => hu (h.trans (List.suffix_cons x u).isInfix)
    rw [List.cons_append, find_cons, if_neg hp, ih hu', Option.map_map, List.length_cons]
    congr 1

theorem find_append_self (pat t : List Char) : find pat (pat ++ t) = some 0 := by
  unfold find
  split
  · rename_i h
    simp [List.append_eq_nil.mp h]
  · rename_i h
    simp [← h]

theorem find_singleton_append {c : Char} {u : List Char} (hc : c ∉ u) (t : List Char) :
    find [c] (u ++ c :: t) = some u.length := by
  induction u with
  | nil => exact find_append_self [c] t
  | cons x u ih =>
    simp only [List.mem_cons, not_or] at hc
    rw [List.cons_append, find_cons, if_neg (by simp [hc.1]), ih hc.2]
    rfl

/-! ## Numbers -/

theorem foldl_digitsValue {ds : List Nat} (hds : ∀ d ∈ ds, d < 10) (acc : Nat) :
    (ds.map Nat.digitChar).foldl (fun n c => n * 10 + (c.toNat - '0'.toNat)) acc =
      ds.foldl (fun n d => n * 10 + d) acc := by
  have key : ∀ d < 10, (Nat.digitChar d).toNat - '0'.toNat = d := by decide
  induction ds generalizing acc with
  | nil => rfl
  | cons d ds ih =>
    obtain ⟨hd, hds⟩ := List.forall_mem_cons.mp hds
    simp only [List.map_cons, List.foldl_cons, key d hd, ih hds]

/-- The unsigned `FromStr` reads a printed number back. -/
theorem parseUnsigned_displayNat {max n : Nat} (hn : n ≤ max) :
    parseUnsigned max (displayNat n) = some n := by
  have hds : ∀ d ∈ (if n = 0 then [0] else (Nat.digits 10 n).reverse), d < 10 := by
    split_ifs
    · simp
    · exact fun d hd => Nat.digits_lt_base (by omega) (List.mem_reverse.mp hd)
  have hvalue : digitsValue (displayNat n) = n := by
    rw [digitsValue, displayNat, toDigits_eq_digits (by omega), foldl_digitsValue hds]
    split_ifs with h0
    · simp [h0]
    · exact foldl_digits_reverse 10 n
  have hdigit : ∀ c ∈ displayNat n, c.isDigit = true := fun c hc => by
    obtain ⟨d, hd, rfl⟩ := mem_toDigits (by omega) hc
    have key : ∀ d < 10, (Nat.digitChar d).isDigit = true := by decide
    exact key d hd
  have hne : displayNat n ≠ [] := by
    rw [displayNat, toDigits_eq_digits (by omega)]
    split_ifs <;> simp_all [Nat.digits_ne_nil_iff_ne_zero]
  have hplus : ∀ rest, displayNat n ≠ '+' :: rest := fun rest h =>
    absurd (hdigit '+' (h ▸ List.mem_cons_self _ _)) (by decide)
  unfold parseUnsigned
  split
  · rename_i rest h; exact absurd h (hplus rest)
  · simp [hne, List.all_eq_true.mpr hdigit, hvalue, hn]

theorem parseU32_displayNat (pid : UInt32) : parseU32 (displayNat pid.toNat) = some pid := by
  have hp : pid.toNat < 4294967296 := pid.toNat_lt_size
  simp [parseU32, parseUnsigned_displayNat (show pid.toNat ≤ 4294967295 by omega)]

end RustNet.Text

namespace RustNet.Text

/-- A pattern that starts with another character is looked for after it. -/
theorem find_cons_of_not_mem {pat t : List Char} {c : Char} (hc : c ∉ pat) (hp : pat ≠ []) :
    find pat (c :: t) = (find pat t).map (· + 1) := by
  obtain ⟨p, ps, rfl⟩ := List.exists_cons_of_ne_nil hp
  have hpc : p ≠ c := fun h => hc (h ▸ List.mem_cons_self _ _)
  rw [find_cons, if_neg (by simp [hpc])]

theorem trimStartMatches_eq_self {pat s : List Char} (h : ¬pat <+: s) :
    trimStartMatches pat s = s := by
  unfold trimStartMatches
  cases s.length with
  | zero => rfl
  | succ n => simp [trimStartMatchesAux, h]

theorem trimEndMatches_of_not_mem {c : Char} {s : List Char} (h : c ∉ s) :
    trimEndMatches c s = s := by
  unfold trimEndMatches
  rw [dropWhile_eq_self fun d hd => by
    simp only [decide_eq_false_iff_not]
    rintro rfl
    exact h (List.mem_reverse.mp hd), List.reverse_reverse]

end RustNet.Text

namespace RustNet.Network.Linux

open Monitor Text NetParse

/-! ## Socket entries -/

/-- A socket as `ss` and `netstat` list it. -/
structure SocketEntry where
  protocol : Protocol
  localAddr : SocketAddr
  remoteAddr : SocketAddr
  state : ConnectionState
  process : Option (UInt32 × List Char)

/-- The connection an entry stands for: `Connection::new` with the entry's process. -/
def SocketEntry.toConnection (e : SocketEntry) (now : Nat) : Connection :=
  { Connection.new e.protocol e.localAddr e.remoteAddr e.state now with
    pid := e.process.map Prod.fst
    processName := e.process.map fun p => String.mk p.2 }

/-- The netid column. -/
def protocolWord : Protocol → List Char
  | .tcp => "tcp".toList
  | .udp => "udp".toList

theorem protocolOf_protocolWord (p : Protocol) : protocolOf (protocolWord p) = some p := by
  cases p <;> rfl

theorem isWord_protocolWord (p : Protocol) : IsWord (protocolWord p) := by
  cases p <;> exact ⟨by decide, by decide⟩

theorem isWord_display (a : SocketAddr) : IsWord a.display := by
  refine ⟨?_, fun c hc => isWhitespace_of_mem_addrChars c (display_subset_addrChars a hc)⟩
  cases a <;> simp [SocketAddr.display]

theorem isWord_displayNat (n : Nat) : IsWord (displayNat n) := by
  refine ⟨?_, fun c hc => isWhitespace_of_mem_addrChars c
    (toDigits_subset_addrChars (by decide) (by decide) n hc)⟩
  rw [displayNat, toDigits_eq_digits (by decide)]
  split_ifs with h0
  · simp
  · simpa using Nat.digits_ne_nil_iff_ne_zero.mpr h0

/-! ## `ss -tupn` -/

/-- The word `ss` prints in its State column, for the states that have one. -/
def ssStateWord : ConnectionState → Option (List Char)
  | .established => some "ESTAB".toList
  | .listen => some "LISTEN".toList
  | .timeWait => some "TIME-WAIT".toList
  | .closeWait => some "CLOSE-WAIT".toList
  | .synSent => some "SYN-SENT".toList
  | .synReceived => some "SYN-RECV".toList
  | .finWait1 => some "FIN-WAIT-1".toList
  | .finWait2 => some "FIN-WAIT-2".toList
  | .lastAck => some "LAST-ACK".toList
  | .closing => some "CLOSING".toList
  | .reset | .unknown => none

/-- The words the parser of the State column gives a state of their own. -/
def ssTableWords : List (List Char) :=
  ["ESTAB", "LISTEN", "TIME-WAIT", "CLOSE-WAIT", "SYN-SENT", "SYN-RECV", "FIN-WAIT-1",
    "FIN-WAIT-2", "LAST-ACK", "CLOSING", "UNCONN"].map String.toList

/-- A word the State column may hold for a state: the state's own word, or, for `Unknown`, a word
outside the table. -/
def SsStateToken (state : ConnectionState) (token : List Char) : Prop :=
  ssStateWord state = some token ∨ state = .unknown ∧ IsWord token ∧ token ∉ ssTableWords

theorem ssState_of_token {state : ConnectionState} {token : List Char}
    (h : SsStateToken state token) (protocol : Protocol) : ssState protocol token = state := by
  rcases h with h | ⟨rfl, -, hnot⟩
  · cases state <;> simp only [ssStateWord, Option.some.injEq, reduceCtorEq] at h <;> subst h <;>
      cases protocol <;> decide
  · simp [ssTableWords] at hnot
    simp [ssState, hnot]

theorem isWord_of_ssStateToken {state : ConnectionState} {token : List Char}
    (h : SsStateToken state token) : IsWord token := by
  rcases h with h | ⟨-, h, -⟩
  · cases state <;> simp only [ssStateWord, Option.some.injEq, reduceCtorEq] at h <;> subst h <;>
      exact ⟨by decide, by decide⟩
  · exact h

/-- The Process column of `ss`: `users:(("name",pid=N,fd=F))`. -/
def ssUsers (pid : UInt32) (name : List Char) (fd : Nat) : List Char :=
  "users:((\"".toList ++ name ++ "\",pid=".toList ++ displayNat pid.toNat ++ ",fd=".toList ++
    displayNat fd ++ "))".toList

/-- The columns of a line of `ss -tupn`, with the word in its State column and the descriptor
in its Process column. -/
def ssWords (e : SocketEntry) (token : List Char) (fd : Nat) : List (List Char) :=
  [protocolWord e.protocol, token, ['0'], ['0'], e.localAddr.display, e.remoteAddr.display] ++
    (e.process.map fun p => ssUsers p.1 p.2 fd).toList

/-- A line of `ss -tupn`. -/
def ssLine (e : SocketEntry) (token : List Char) (fd : Nat) : List Char :=
  unwords (ssWords e token fd)

/-- A row of an `ss` table: an entry, the word in its State column, its descriptor. -/
structure SsRow where
  entry : SocketEntry
  token : List Char
  fd : Nat

/-- What `ss -tupn` prints: a header line, then one line per row. -/
def ssText (header : List Char) (rows : List SsRow) : List Char :=
  unlines (header :: rows.map fun r => ssLine r.entry r.token r.fd)

/-- A name the Process column of `ss` delimits: no whitespace, no `"` and no `pid=` in it. -/
def SsName (name : List Char) : Prop :=
  (∀ c ∈ name, isWhitespace c = false) ∧ '"' ∉ name ∧ ¬"pid=".toList <:+: name

/-- A row `ss` prints whole: addresses without a flow label, a State word for its state, and a
name the Process column delimits. -/
structure SsRow.Printable (r : SsRow) : Prop where
  localAddr : r.entry.localAddr.shown = r.entry.localAddr
  remoteAddr : r.entry.remoteAddr.shown = r.entry.remoteAddr
  token : SsStateToken r.entry.state r.token
  name : ∀ p ∈ r.entry.process, SsName p.2

theorem isWord_ssUsers (pid : UInt32) {name : List Char}
    (hname : ∀ c ∈ name, isWhitespace c = false) (fd : Nat) : IsWord (ssUsers pid name fd) := by
  refine ⟨by simp [ssUsers], fun c hc => ?_⟩
  simp only [ssUsers, List.mem_append] at hc
  rcases hc with (((((hc | hc) | hc) | hc) | hc) | hc) | hc
  · exact (by decide : ∀ c ∈ "users:((\"".toList, isWhitespace c = false) c hc
  · exact hname c hc
  · exact (by decide : ∀ c ∈ "\",pid=".toList, isWhitespace c = false) c hc
  · exact (isWord_displayNat _).2 c hc
  · exact (by decide : ∀ c ∈ ",fd=".toList, isWhitespace c = false) c hc
  · exact (isWord_displayNat _).2 c hc
  · exact (by decide : ∀ c ∈ "))".toList, isWhitespace c = false) c hc

theorem isWord_ssWords {r : SsRow} (hr : r.Printable) :
    ∀ w ∈ ssWords r.entry r.token r.fd, IsWord w := by
  intro w hw
  simp only [ssWords, List.cons_append, List.nil_append, List.mem_cons] at hw
  rcases hw with rfl | rfl | rfl | rfl | rfl | rfl | hw
  · exact isWord_protocolWord _
  · exact isWord_of_ssStateToken hr.token
  · exact ⟨by decide, by decide⟩
  · exact ⟨by decide, by decide⟩
  · exact isWord_display _
  · exact isWord_display _
  · cases hp : r.entry.process with
    | none => simp [hp] at hw
    | some p =>
      simp only [hp, Option.map_some', Option.toList_some, List.mem_singleton] at hw
      subst hw
      exact isWord_ssUsers _ (hr.name p hp).1 _

/-- The Process column gives back the pid and the name. -/
theorem ssProcess_ssUsers (pid : UInt32) {name : List Char} (hname : SsName name) (fd : Nat) :
    ssProcess (ssUsers pid name fd) = some (pid, some name) := by
  obtain ⟨-, hquote, hpid⟩ := hname
  have hdigits : ',' ∉ displayNat pid.toNat := fun h => by
    obtain ⟨d, hd, heq⟩ := mem_toDigits (by decide) h
    exact (by decide : ∀ d < 10, Nat.digitChar d ≠ ',') d hd heq
  have hform : ssUsers pid name fd = "users:((".toList ++ '"' :: (name ++ '"' :: ',' ::
      ("pid=".toList ++ (displayNat pid.toNat ++ ',' :: ("fd=".toList ++ displayNat fd ++
        "))".toList)))) := by
    simp only [ssUsers, List.append_assoc]; rfl
  have hpidStart : find "pid=".toList (ssUsers pid name fd) = some (name.length + 11) := by
    rw [hform, find_append_cons (by decide) (by decide), find_append_cons (by decide) hpid,
      find_cons_of_not_mem (by decide) (by decide), find_append_self]
    have h8 : "users:((".toList.length = 8 := rfl
    simp only [Option.map_some', Option.some.injEq, h8]
    omega
  have hpidPart : (ssUsers pid name fd).drop (name.length + 11 + 4) =
      displayNat pid.toNat ++ ',' :: ("fd=".toList ++ displayNat fd ++ "))".toList) := by
    have h9 : "users:((\"".toList.length = 9 := rfl
    have h6 : "\",pid=".toList.length = 6 := rfl
    have hsplit : ssUsers pid name fd = ("users:((\"".toList ++ name ++ "\",pid=".toList) ++
        (displayNat pid.toNat ++ ',' :: ("fd=".toList ++ displayNat fd ++ "))".toList)) := by
      simp only [ssUsers, List.append_assoc]; rfl
    rw [hsplit]
    exact List.drop_left' (by simp only [List.length_append, h9, h6]; omega)
  have hnameStart : find "users:((\"".toList (ssUsers pid name fd) = some 0 := by
    simp only [ssUsers, List.append_assoc]
    exact find_append_self _ _
  have hcandidate : (ssUsers pid name fd).drop (0 + 9) = name ++ '"' :: (',' ::
      ("pid=".toList ++ (displayNat pid.toNat ++ ',' :: ("fd=".toList ++ displayNat fd ++
        "))".toList)))) := by
    rw [hform]; rfl
  have htrim : trimEndMatches '"' (trimStartMatches "(\"".toList name) = name := by
    rw [trimStartMatches_eq_self (fun h => hquote (h.subset (by decide))),
      trimEndMatches_of_not_mem hquote]
  simp only [ssProcess, hpidStart, Option.bind_eq_bind, Option.some_bind, hpidPart,
    find_singleton_append hdigits, List.take_left, parseU32_displayNat, hnameStart,
    hcandidate, find_singleton_append hquote, Option.some_bind, Option.map_some', htrim]

/-- A printed `ss` line gives back its entry. -/
theorem ssConnection_ssLine (now : Nat) {r : SsRow} (hr : r.Printable) :
    ssConnection now (ssLine r.entry r.token r.fd) = some (r.entry.toConnection now) := by
  have hwords := isWord_ssWords hr
  obtain ⟨⟨protocol, localAddr, remoteAddr, state, process⟩, token, fd⟩ := r
  obtain ⟨hl, hrm, htok, hname⟩ := hr
  rw [ssLine, ssConnection, splitWhitespace_unwords hwords]
  cases process with
  | none =>
    simp [ssWords, protocolOf_protocolWord, ssState_of_token htok, parseAddr_display, hl, hrm,
      SocketEntry.toConnection, Connection.new]
  | some p =>
    simp [ssWords, protocolOf_protocolWord, ssState_of_token htok, parseAddr_display, hl, hrm,
      ssProcess_ssUsers p.1 (hname p rfl), SocketEntry.toConnection, Connection.new]

theorem filterMap_eq_map_of_some {α β : Type} {f : α → Option β} {g : α → β} :
    ∀ {l : List α}, (∀ a ∈ l, f a = some (g a)) → l.filterMap f = l.map g
  | [], _ => rfl
  | a :: l, h => by
    rw [List.filterMap_cons, h a (List.mem_cons_self _ _),
      filterMap_eq_map_of_some fun b hb => h b (List.mem_cons_of_mem _ hb), List.map_cons]

/-- A printed `ss` table gives back its entries, in order. -/
theorem getConnectionsFromSs_ssText (now : Nat) {header : List Char} (hheader : '\n' ∉ header)
    {rows : List SsRow} (hrows : ∀ r ∈ rows, r.Printable) (connections : List Connection) :
    getConnectionsFromSs now (.success (ssText header rows)) connections =
      some (connections ++ rows.map fun r => r.entry.toConnection now) := by
  have hbreak (r : SsRow) (hr : r.Printable) (c : Char) (hc : isWhitespace c = true)
      (hsp : c ≠ ' ') : c ∉ ssLine r.entry r.token r.fd :=
    not_mem_unwords (isWord_ssWords hr) hc hsp
  have hlines : ∀ l ∈ header :: rows.map fun r => ssLine r.entry r.token r.fd, '\n' ∉ l := by
    simp only [List.mem_cons, List.mem_map, forall_eq_or_imp, forall_exists_index, and_imp,
      forall_apply_eq_imp_iff₂]
    exact ⟨hheader, fun r hr => hbreak r (hrows r hr) '\n' (by decide) (by decide)⟩
  rw [getConnectionsFromSs, ssText, lines_unlines hlines, List.map_cons, List.drop_one,
    List.tail_cons, List.map_map]
  rw [List.filterMap_map]
  congr 2
  exact filterMap_eq_map_of_some fun r hr => by
    simp only [Function.comp_apply,
      stripCr_reverse (hbreak r (hrows r hr) '\r' (by decide) (by decide)),
      ssConnection_ssLine now (hrows r hr)]

/-- A table of one connection of `curl` is read back whole. -/
theorem getConnectionsFromSs_ssText_curl :
    let r : SsRow := ⟨⟨.tcp, .v4 ⟨10, 0, 0, 5⟩ 54000, .v4 ⟨8, 8, 8, 8⟩ 80, .established,
      some (4242, "curl".toList)⟩, "ESTAB".toList, 3⟩
    ('\n' ∉ "Netid State Recv-Q Send-Q Local Address:Port Peer Address:Port Process".toList ∧
      r.Printable) ∧
    getConnectionsFromSs 0 (.success (ssText
        "Netid State Recv-Q Send-Q Local Address:Port Peer Address:Port Process".toList [r])) [] =
      some [r.entry.toConnection 0] :=
  have hr : SsRow.Printable ⟨⟨.tcp, .v4 ⟨10, 0, 0, 5⟩ 54000, .v4 ⟨8, 8, 8, 8⟩ 80, .established,
      some (4242, "curl".toList)⟩, "ESTAB".toList, 3⟩ :=
    ⟨rfl, rfl, .inl rfl, fun _ hp => by cases hp; exact ⟨by decide, by decide, by decide⟩⟩
  ⟨⟨by decide, hr⟩, getConnectionsFromSs_ssText 0 (by decide)
    (fun _ h => by rw [List.mem_singleton.mp h]; exact hr) []⟩

/-! ## `netstat -tupn` -/

/-- The PID/Program name column of `netstat`: `pid/name`, or `-` without a process. -/
def netstatProgram : Option (UInt32 × List Char) → List Char
  | some p => displayNat p.1.toNat ++ '/' :: p.2
  | none => ['-']

/-- The columns of a line of `netstat -tupn`, with the word in its State column. -/
def netstatWords (e : SocketEntry) (token : List Char) : List (List Char) :=
  [protocolWord e.protocol, ['0'], ['0'], e.localAddr.display, e.remoteAddr.display, token,
    netstatProgram e.process]

/-- A line of `netstat -tupn`. -/
def netstatLine (e : SocketEntry) (token : List Char) : List Char := unwords (netstatWords e token)

/-- A row of a `netstat` table: an entry and the word in its State column. -/
structure NetstatRow where
  entry : SocketEntry
  token : List Char

/-- What `netstat -tupn` prints: two header lines, then one line per row. -/
def netstatText (header₁ header₂ : List Char) (rows : List NetstatRow) : List Char :=
  unlines (header₁ :: header₂ :: rows.map fun r => netstatLine r.entry r.token)

/-- A row `netstat` prints whole: a State word, and a process name without whitespace. -/
structure NetstatRow.Printable (r : NetstatRow) : Prop where
  token : IsWord r.token
  name : ∀ p ∈ r.entry.process, ∀ c ∈ p.2, isWhitespace c = false

theorem isWord_netstatWords {r : NetstatRow} (hr : r.Printable) :
    ∀ w ∈ netstatWords r.entry r.token, IsWord w := by
  intro w hw
  simp only [netstatWords, List.mem_cons, List.not_mem_nil, or_false] at hw
  rcases hw with rfl | rfl | rfl | rfl | rfl | rfl | rfl
  · exact isWord_protocolWord _
  · exact ⟨by decide, by decide⟩
  · exact ⟨by decide, by decide⟩
  · exact isWord_display _
  · exact isWord_display _
  · exact hr.token
  · cases hp : r.entry.process with
    | none => exact ⟨by decide, by decide⟩
    | some p =>
      refine ⟨by simp [netstatProgram], fun c hc => ?_⟩
      simp only [netstatProgram, List.mem_append, List.mem_cons] at hc
      rcases hc with hc | rfl | hc
      · exact (isWord_displayNat _).2 c hc
      · decide
      · exact hr.name p hp c hc

/-- Every printed `netstat` line lists the flow `127.0.0.1:0 → 127.0.0.1:0`: the parser reads
the queue columns as the addresses. -/
theorem netstatConnection_netstatLine (now : Nat) {r : NetstatRow} (hr : r.Printable) :
    (netstatConnection now (netstatLine r.entry r.token)).map Connection.identity =
      some ⟨r.entry.protocol, .v4 ⟨127, 0, 0, 1⟩ 0, .v4 ⟨127, 0, 0, 1⟩ 0⟩ := by
  have hsplit := splitWhitespace_unwords (isWord_netstatWords hr)
  have hlower : toLowercase (protocolWord r.entry.protocol) = protocolWord r.entry.protocol := by
    cases r.entry.protocol <;> rfl
  refine netstatConnection_empty_queues now _ ?_ ?_ ?_ ?_ <;> rw [netstatLine, hsplit] <;>
    simp [netstatWords, hlower, protocolOf_protocolWord]

/-- Every entry of a printed `netstat` table comes back as the flow
`127.0.0.1:0 → 127.0.0.1:0`, in order. -/
theorem getConnectionsFromNetstat_netstatText (now : Nat) {header₁ header₂ : List Char}
    (hheader₁ : '\n' ∉ header₁) (hheader₂ : '\n' ∉ header₂) {rows : List NetstatRow}
    (hrows : ∀ r ∈ rows, r.Printable) (connections : List Connection) :
    (getConnectionsFromNetstat now (.success (netstatText header₁ header₂ rows))
        connections).map (·.map Connection.identity) =
      some (connections.map Connection.identity ++
        rows.map fun r => ⟨r.entry.protocol, .v4 ⟨127, 0, 0, 1⟩ 0, .v4 ⟨127, 0, 0, 1⟩ 0⟩) := by
  have hbreak (r : NetstatRow) (hr : r.Printable) (c : Char) (hc : isWhitespace c = true)
      (hsp : c ≠ ' ') : c ∉ netstatLine r.entry r.token :=
    not_mem_unwords (isWord_netstatWords hr) hc hsp
  have hlines : ∀ l ∈ header₁ :: header₂ :: rows.map fun r => netstatLine r.entry r.token,
      '\n' ∉ l := by
    simp only [List.mem_cons, List.mem_map, forall_eq_or_imp, forall_exists_index, and_imp,
      forall_apply_eq_imp_iff₂]
    exact ⟨hheader₁, hheader₂,
      fun r hr => hbreak r (hrows r hr) '\n' (by decide) (by decide)⟩
  rw [getConnectionsFromNetstat, netstatText, lines_unlines hlines, List.map_cons, List.map_cons,
    List.drop_succ_cons, List.drop_one, List.tail_cons, List.map_map, Option.map_some',
    List.map_append, List.map_filterMap, List.filterMap_map]
  congr 2
  exact filterMap_eq_map_of_some fun r hr => by
    simp only [Function.comp_apply,
      stripCr_reverse (hbreak r (hrows r hr) '\r' (by decide) (by decide)),
      netstatConnection_netstatLine now (hrows r hr)]

/-- A `netstat` table of one established connection comes back as a connection from
`127.0.0.1:0` to `127.0.0.1:0`. -/
theorem getConnectionsFromNetstat_loses_addresses :
    let r : NetstatRow := ⟨⟨.tcp, .v4 ⟨10, 0, 0, 5⟩ 54000, .v4 ⟨93, 184, 216, 34⟩ 443,
      .established, some (4242, "curl".toList)⟩, "ESTABLISHED".toList⟩
    (getConnectionsFromNetstat 0 (.success (netstatText
        "Active Internet connections (w/o servers)".toList
        "Proto Recv-Q Send-Q Local Address Foreign Address State PID/Program name".toList [r]))
        []).map (·.map Connection.identity) =
      some [⟨.tcp, .v4 ⟨127, 0, 0, 1⟩ 0, .v4 ⟨127, 0, 0, 1⟩ 0⟩] ∧
    r.entry.localAddr ≠ .v4 ⟨127, 0, 0, 1⟩ 0 :=
  ⟨getConnectionsFromNetstat_netstatText 0 (by decide) (by decide)
    (fun _ hr => by
      rw [List.mem_singleton.mp hr]
      exact ⟨⟨by decide, by decide⟩, fun p hp => by cases hp; decide⟩) [],
    by decide⟩

end RustNet.Network.Linux
