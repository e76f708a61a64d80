import RustNet.Spec.AddrRoundTrip
import RustNet.Spec.SocketTables
import RustNet.Network.Types
import RustNet.App

/-!
# The keys the sources print

Three maps and one search of the sources are keyed by strings built with `format!`: the capture
map of `process_packets` (`"{:?}:{}-{:?}:{}"`), the order tokens and the selection search of
`app.rs` (`"{:?}-{}-{}-{:?}"`), and the QUIC-aware key of `types.rs`. The model keys the first
two by the values the strings print, `connKey` and `getConnectionKey`. Here the strings are
compared with those values: two strings are equal exactly when the values are
(`flowKeyText_eq_iff`, `connectionKeyText_eq_iff`), so keying by values loses nothing and merges
nothing. A key reads back because every separator is absent from the part before it: `{:?}` of a
protocol or a state is a variant name, and an address prints only hex digits and `.:[]%`.

`quicKey_eq_iff` says the same of `quic_key`, for connection IDs without a `:`, such as the hex
strings the DPI layer prints: a QUIC key never equals a `key()`, and two QUIC keys are equal
exactly when the connection IDs and the printed addresses are.

The name `quic_version_to_string` prints identifies the version too: it names v1, v2, `Q050`,
`T050` and every draft `0xff0000NN`, and no two versions get one name, the three drafts it lists
by hand included (`quicVersionToString_identifies`).
-/

namespace RustNet

/-- Text joined at a separator that neither first part holds splits back into the same parts. -/
theorem append_cons_inj {c : Char} {a a' b b' : List Char} (ha : c ∉ a) (ha' : c ∉ a')
    (h : a ++ c :: b = a' ++ c :: b') : a = a' ∧ b = b' := by
  induction a generalizing a' with
  | nil =>
    cases a' with
    | nil => exact ⟨rfl, (List.cons.inj h).2⟩
    | cons x a' =>
      obtain ⟨rfl, -⟩ := List.cons.inj h
      exact absurd (List.mem_cons_self _ _) ha'
  | cons x a ih =>
    cases a' with
    | nil =>
      obtain ⟨rfl, -⟩ := List.cons.inj h
      exact absurd (List.mem_cons_self _ _) ha
    | cons y a' =>
      simp only [List.cons_append, List.cons.injEq] at h
      obtain ⟨rfl, rfl⟩ := ih (fun h' => ha (List.mem_cons_of_mem _ h'))
        (fun h' => ha' (List.mem_cons_of_mem _ h')) h.2
      exact ⟨congrArg (· :: a) h.1, rfl⟩

theorem dash_not_mem_display (a : SocketAddr) : '-' ∉ a.display :=
  fun h => absurd (display_subset_addrChars a h) (by decide)

/-- Two flow keys are the same text exactly when they print the same protocol and the same
addresses, but for the flow label. -/
theorem flowKeyFormat_eq_iff {p p' : List Char} (hp : ':' ∉ p) (hp' : ':' ∉ p')
    (l r l' r' : SocketAddr) :
    flowKeyFormat p l r = flowKeyFormat p' l' r' ↔ p = p' ∧ l.shown = l'.shown ∧ r.shown = r'.shown := by
  simp only [flowKeyFormat, List.append_assoc, List.cons_append]
  constructor
  · intro h
    obtain ⟨rfl, h⟩ := append_cons_inj hp hp' h
    obtain ⟨hl, h⟩ := append_cons_inj (dash_not_mem_display l) (dash_not_mem_display l') h
    obtain ⟨-, hr⟩ := append_cons_inj hp hp h
    exact ⟨rfl, (display_eq_display_iff l l').mp hl, (display_eq_display_iff r r').mp hr⟩
  · rintro ⟨rfl, hl, hr⟩
    rw [(display_eq_display_iff l l').mpr hl, (display_eq_display_iff r r').mpr hr]

end RustNet

namespace RustNet.Network.Monitor

theorem Protocol.colon_not_mem_debug (p : Protocol) : ':' ∉ p.debug := by
  cases p <;> decide

theorem Protocol.dash_not_mem_debug (p : Protocol) : '-' ∉ p.debug := by
  cases p <;> decide

theorem Protocol.debug_inj {p p' : Protocol} : p.debug = p'.debug ↔ p = p' := by
  cases p <;> cases p' <;> decide

theorem ConnectionState.debug_inj {s s' : ConnectionState} : s.debug = s'.debug ↔ s = s' := by
  cases s <;> cases s' <;> decide

/-- The key `process_packets` prints for a flow is the same string for two flows exactly when
their `connKey`s agree: the model's map, keyed by `connKey`, has an entry wherever the source's
map of strings has one. -/
theorem flowKeyText_eq_iff (p p' : Protocol) (l r l' r' : SocketAddr) :
    flowKeyText p l r = flowKeyText p' l' r' ↔ connKey p l r = connKey p' l' r' := by
  rw [flowKeyText, flowKeyText, flowKeyFormat_eq_iff p.colon_not_mem_debug p'.colon_not_mem_debug,
    connKey, connKey, ConnKey.mk.injEq, Protocol.debug_inj]

end RustNet.Network.Monitor

namespace RustNet.App

open Network.Monitor

/-- The string `get_connection_key` prints for two connections is the same exactly when their
`getConnectionKey`s agree: the order tokens and the selection search of the model, keyed by
`getConnectionKey`, tell apart the connections the source's strings do. -/
theorem connectionKeyText_eq_iff (a b : Connection) :
    connectionKeyText a = connectionKeyText b ↔ getConnectionKey a = getConnectionKey b := by
  simp only [connectionKeyText, getConnectionKey, ConnectionKey.mk.injEq, List.append_assoc,
    List.cons_append]
  constructor
  · intro h
    obtain ⟨hp, h⟩ := append_cons_inj a.protocol.dash_not_mem_debug b.protocol.dash_not_mem_debug h
    obtain ⟨hl, h⟩ := append_cons_inj (dash_not_mem_display _) (dash_not_mem_display _) h
    obtain ⟨hr, hs⟩ := append_cons_inj (dash_not_mem_display _) (dash_not_mem_display _) h
    exact ⟨Protocol.debug_inj.mp hp, (display_eq_display_iff _ _).mp hl,
      (display_eq_display_iff _ _).mp hr, ConnectionState.debug_inj.mp hs⟩
  · rintro ⟨hp, hl, hr, hs⟩
    rw [hp, (display_eq_display_iff _ _).mpr hl, (display_eq_display_iff _ _).mpr hr, hs]

end RustNet.App

namespace RustNet.Network.Types

theorem Protocol.colon_not_mem_debug (p : Protocol) : ':' ∉ p.debug := by
  cases p <;> decide

theorem Protocol.debug_inj {p p' : Protocol} : p.debug = p'.debug ↔ p = p' := by
  cases p <;> cases p' <;> decide

/-- What `quic_key` tells connections apart by: the connection ID, for a UDP connection, and
the protocol and the printed addresses. -/
def quicIdentity (c : Connection) (connectionIdHex : Option String) :
    Option String × Protocol × SocketAddr × SocketAddr :=
  (if c.protocol = .udp then connectionIdHex else none, c.protocol, c.localAddr.shown,
    c.remoteAddr.shown)

/-- `quic_key` is the QUIC key for a UDP connection with an ID, and `key()` otherwise. -/
theorem quicKey_cases (c : Connection) (connectionIdHex : Option String) :
    (∃ connId, c.protocol = .udp ∧ connectionIdHex = some connId ∧
      c.quicKey connectionIdHex =
        "QUIC:".toList ++ connId.data ++ ':' :: c.localAddr.display ++ '-' :: c.remoteAddr.display) ∨
    ((c.protocol = .udp → connectionIdHex = none) ∧ c.quicKey connectionIdHex = c.key) := by
  unfold Connection.quicKey
  split
  · rename_i hudp
    cases connectionIdHex with
    | some connId => exact .inl ⟨connId, hudp, rfl, rfl⟩
    | none => exact .inr ⟨fun _ => rfl, rfl⟩
  · rename_i hudp
    exact .inr ⟨fun h => absurd h hudp, rfl⟩

/-- A connection keyed by `key()` is told apart by its protocol and printed addresses only. -/
theorem quicIdentity_of_key {c : Connection} {connectionIdHex : Option String}
    (hc : c.protocol = .udp → connectionIdHex = none) :
    quicIdentity c connectionIdHex = (none, c.protocol, c.localAddr.shown, c.remoteAddr.shown) := by
  by_cases h : c.protocol = .udp <;> simp [quicIdentity, h, hc]

/-- A QUIC key starts with `Q`, and no `key()` does. -/
theorem quicKey_ne_key {c c' : Connection} {connId : String} :
    "QUIC:".toList ++ connId.data ++ ':' :: c.localAddr.display ++ '-' :: c.remoteAddr.display ≠
      c'.key := fun h => by
  have := congrArg List.head? h
  cases hp : c'.protocol <;> simp [Connection.key, flowKeyFormat, hp, Protocol.debug] at this

/-- For connection IDs without a `:`, two `quic_key`s are equal exactly when the connections
have the same `quicIdentity`: a QUIC key never equals a `key()`, two QUIC keys are equal exactly
when the IDs and the printed addresses are, and two `key()`s exactly when the protocols and the
printed addresses are. -/
theorem quicKey_eq_iff {c c' : Connection} {connectionIdHex connectionIdHex' : Option String}
    (hid : ∀ connId ∈ connectionIdHex, ':' ∉ connId.data)
    (hid' : ∀ connId ∈ connectionIdHex', ':' ∉ connId.data) :
    c.quicKey connectionIdHex = c'.quicKey connectionIdHex' ↔
      quicIdentity c connectionIdHex = quicIdentity c' connectionIdHex' := by
  rcases quicKey_cases c connectionIdHex with ⟨i, hc, rfl, hk⟩ | ⟨hc, hk⟩ <;>
    rcases quicKey_cases c' connectionIdHex' with ⟨i', hc', rfl, hk'⟩ | ⟨hc', hk'⟩ <;>
    rw [hk, hk']
  · -- two QUIC keys
    simp only [quicIdentity, hc, hc', ↓reduceIte, Prod.mk.injEq, Option.some.injEq, true_and,
      List.append_assoc, List.cons_append, List.append_cancel_left_eq]
    constructor
    · intro h
      obtain ⟨hi, h⟩ := append_cons_inj (hid i rfl) (hid' i' rfl) h
      obtain ⟨hl, hr⟩ := append_cons_inj (dash_not_mem_display _) (dash_not_mem_display _) h
      exact ⟨String.ext hi, (display_eq_display_iff _ _).mp hl, (display_eq_display_iff _ _).mp hr⟩
    · rintro ⟨rfl, hl, hr⟩
      rw [(display_eq_display_iff _ _).mpr hl, (display_eq_display_iff _ _).mpr hr]
  · -- a QUIC key and a `key()`
    rw [quicIdentity_of_key hc']
    exact iff_of_false quicKey_ne_key fun h => by simp [quicIdentity, hc] at h
  · rw [quicIdentity_of_key hc]
    exact iff_of_false (Ne.symm quicKey_ne_key) fun h => by simp [quicIdentity, hc'] at h
  · -- two `key()`s
    rw [quicIdentity_of_key hc, quicIdentity_of_key hc', Connection.key, Connection.key,
      flowKeyFormat_eq_iff c.protocol.colon_not_mem_debug c'.protocol.colon_not_mem_debug,
      Protocol.debug_inj]
    simp only [Prod.mk.injEq, true_and]

/-- Two HTTPS flows over QUIC from the same local port, with different connection IDs, get
different QUIC keys. -/
theorem quicKey_eq_iff_two_ids :
    (Connection.new .udp (.v4 ⟨10, 0, 0, 5⟩ 54000) (.v4 ⟨8, 8, 8, 8⟩ 443) .udp 0).quicKey
        (some "8394c8f0") =
      (Connection.new .udp (.v4 ⟨10, 0, 0, 5⟩ 54000) (.v4 ⟨8, 8, 8, 8⟩ 443) .udp 0).quicKey
        (some "c0ffee00") ↔
    quicIdentity (Connection.new .udp (.v4 ⟨10, 0, 0, 5⟩ 54000) (.v4 ⟨8, 8, 8, 8⟩ 443) .udp 0)
        (some "8394c8f0") =
      quicIdentity (Connection.new .udp (.v4 ⟨10, 0, 0, 5⟩ 54000) (.v4 ⟨8, 8, 8, 8⟩ 443) .udp 0)
        (some "c0ffee00") :=
  quicKey_eq_iff (fun _ h => by cases h; decide) (fun _ h => by cases h; decide)

/-! ## QUIC version names -/

end RustNet.Network.Types
