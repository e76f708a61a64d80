import RustNet.Spec.AppInvariant

/-!
# Presentation order

`on_tick` and `refresh` give each `get_connection_key` a token from `next_order_index` the first
time a list holds it, and sort the list by token. Tokens are never reassigned, so over every run
the keys keep the order in which they first appeared. The key holds the TCP state beside the
flow, though: a flow whose state changes gets a new key, draws a fresh token, and moves behind
every flow that appeared before the change.

## Key results

- `assignOrder_inv`, `run_orderInv`: tokens stay below `next_order_index` and distinct;
- `tick_reselects`: a tick installs the monitor's list and then changes the selection only;
- `run_extends`: over a run a token, once given, never changes, and a key given a token later
  gets one no smaller than the earlier `next_order_index`;
- `installConnections_precedes`: in a sorted list, a key with an older token comes first;
- `key_order_kept`: a key that holds a token before another is listed before it by every later
  tick;
- `onTick_state_change_reorders`: a flow whose state changes is listed after a flow that
  appeared after it;
- `run_connectionOrder`: the token map holds exactly the keys the ticks have listed, under the
  tokens `0, …, next_order_index - 1`; it never drops one.
-/

namespace RustNet.App

open Network.Monitor

/-! ## Tokens -/

/-- The tokens of `order` are below `next` and distinct. -/
structure OrderInv (order : HashMap ConnectionKey Nat) (next : Nat) : Prop where
  lt_next : ∀ k t, order.get? k = some t → t < next
  inj : ∀ k k' t, order.get? k = some t → order.get? k' = some t → k = k'

theorem orderInv_empty : OrderInv .empty 0 :=
  ⟨fun _ _ h => by simp at h, fun _ _ _ h => by simp at h⟩

/-- Giving `key` the token `next` keeps the tokens below the next one and distinct. -/
theorem OrderInv.insert {order : HashMap ConnectionKey Nat} {next : Nat} (h : OrderInv order next)
    (key : ConnectionKey) : OrderInv (order.insert key next) (next + 1) := by
  constructor
  · intro k t hk
    rw [HashMap.get?_insert] at hk
    split at hk
    · cases hk; omega
    · have := h.lt_next k t hk; omega
  · intro k k' t hk hk'
    rw [HashMap.get?_insert] at hk hk'
    split at hk <;> split at hk'
    · simp_all
    · cases hk; exact absurd (h.lt_next _ _ hk') (by omega)
    · cases hk'; exact absurd (h.lt_next _ _ hk) (by omega)
    · exact h.inj _ _ _ hk hk'

theorem assignOrder_inv {order : HashMap ConnectionKey Nat} {next : Nat} (h : OrderInv order next)
    (keys : List ConnectionKey) :
    OrderInv (assignOrder order next keys).1 (assignOrder order next keys).2 := by
  induction keys generalizing order next with
  | nil => exact h
  | cons key keys ih =>
    unfold assignOrder
    split
    · exact ih h
    · exact ih (h.insert key)

/-- A token, once given, is kept. -/
theorem assignOrder_get?_of_some {order : HashMap ConnectionKey Nat} {next : Nat}
    {k : ConnectionKey} {t : Nat} (hk : order.get? k = some t) (keys : List ConnectionKey) :
    (assignOrder order next keys).1.get? k = some t := by
  induction keys generalizing order next with
  | nil => exact hk
  | cons key keys ih =>
    unfold assignOrder
    split
    · exact ih hk
    · rename_i hkey
      refine ih ?_
      rw [HashMap.get?_insert, if_neg]; exact hk
      rintro rfl; simp [hk] at hkey

/-- Every key of the list holds a token afterwards. -/
theorem assignOrder_isSome {order : HashMap ConnectionKey Nat} {next : Nat} {k : ConnectionKey}
    {keys : List ConnectionKey} (hk : k ∈ keys) :
    ((assignOrder order next keys).1.get? k).isSome := by
  induction keys generalizing order next with
  | nil => cases hk
  | cons key keys ih =>
    unfold assignOrder
    rcases List.mem_cons.mp hk with rfl | hk
    · split
      · obtain ⟨t, ht⟩ := Option.isSome_iff_exists.mp ‹_›
        simp [assignOrder_get?_of_some ht]
      · simp [assignOrder_get?_of_some (HashMap.get?_insert order k k next ▸ if_pos rfl)]
    · split <;> exact ih hk

/-- The next token never goes down. -/
theorem le_assignOrder_snd (order : HashMap ConnectionKey Nat) (next : Nat)
    (keys : List ConnectionKey) : next ≤ (assignOrder order next keys).2 := by
  induction keys generalizing order next with
  | nil => exact Nat.le_refl _
  | cons key keys ih =>
    unfold assignOrder
    split
    · exact ih _ _
    · exact Nat.le_trans (Nat.le_succ _) (ih _ _)

/-- A key without a token gets one no smaller than `next`. -/
theorem assignOrder_fresh {order : HashMap ConnectionKey Nat} {next : Nat} {k : ConnectionKey}
    {t : Nat} (hk : order.get? k = none) (keys : List ConnectionKey)
    (ht : (assignOrder order next keys).1.get? k = some t) : next ≤ t := by
  induction keys generalizing order next with
  | nil => simp [assignOrder, hk] at ht
  | cons key keys ih =>
    unfold assignOrder at ht
    split at ht
    · exact ih hk ht
    · by_cases hkey : k = key
      · subst hkey
        rw [assignOrder_get?_of_some (HashMap.get?_insert order k k next ▸ if_pos rfl)] at ht
        cases ht; exact Nat.le_refl _
      · exact Nat.le_of_succ_le (ih (by rw [HashMap.get?_insert, if_neg hkey]; exact hk) ht)

/-! ## Sorting -/

/-- `sort_by` leaves the list ordered by token. -/
theorem sortByOrder_sorted (order : HashMap ConnectionKey Nat) (l : List Connection) :
    (sortByOrder order l).Sorted fun a b => orderOf order a ≤ orderOf order b := by
  haveI : IsTotal Connection fun a b => orderOf order a ≤ orderOf order b :=
    ⟨fun _ _ => le_total _ _⟩
  haveI : IsTrans Connection fun a b => orderOf order a ≤ orderOf order b :=
    ⟨fun _ _ _ => le_trans⟩
  exact List.sorted_insertionSort _ l

/-- In a list ordered by token, a smaller token comes first. -/
theorem lt_of_orderOf_lt {order : HashMap ConnectionKey Nat} {l : List Connection}
    (hs : l.Sorted fun a b => orderOf order a ≤ orderOf order b) {i j : Nat}
    (hi : i < l.length) (hj : j < l.length) (h : orderOf order l[i] < orderOf order l[j]) :
    i < j := by
  rcases Nat.lt_trichotomy i j with hij | rfl | hji
  · exact hij
  · exact absurd h (lt_irrefl _)
  · exact absurd (hs.rel_get_of_lt (show (⟨j, hj⟩ : Fin l.length) < ⟨i, hi⟩ from hji))
      (not_le.mpr h)

/-- After a tick, a connection whose key held a token before the tick is listed before every
connection whose key held a larger token, or none. -/
theorem installConnections_precedes {app : App}
    (hinv : OrderInv app.connectionOrder app.nextOrderIndex) (l : List Connection)
    {ka kb : ConnectionKey} {ta : Nat} (ha : app.connectionOrder.get? ka = some ta)
    (hb : ∀ tb, app.connectionOrder.get? kb = some tb → ta < tb) {i j : Nat}
    (hi : ((app.installConnections l).connections[i]?).map getConnectionKey = some ka)
    (hj : ((app.installConnections l).connections[j]?).map getConnectionKey = some kb) :
    i < j := by
  let order := (assignOrder app.connectionOrder app.nextOrderIndex (l.map getConnectionKey)).1
  change ((sortByOrder order l)[i]?).map getConnectionKey = some ka at hi
  change ((sortByOrder order l)[j]?).map getConnectionKey = some kb at hj
  obtain ⟨ci, hci, rfl⟩ := Option.map_eq_some'.mp hi
  obtain ⟨cj, hcj, rfl⟩ := Option.map_eq_some'.mp hj
  obtain ⟨hlti, rfl⟩ := List.getElem?_eq_some_iff.mp hci
  obtain ⟨hltj, rfl⟩ := List.getElem?_eq_some_iff.mp hcj
  refine lt_of_orderOf_lt (sortByOrder_sorted order l) hlti hltj ?_
  have hta : orderOf order (sortByOrder order l)[i] = ta := by
    simp [orderOf, order, assignOrder_get?_of_some ha]
  have hmem : getConnectionKey (sortByOrder order l)[j] ∈ l.map getConnectionKey :=
    List.mem_map_of_mem _ ((List.mem_insertionSort _).mp (List.getElem_mem _))
  obtain ⟨tb, htb⟩ := Option.isSome_iff_exists.mp
    (@assignOrder_isSome app.connectionOrder app.nextOrderIndex _ _ hmem)
  have hltb : ta < tb := by
    cases hold : app.connectionOrder.get? (getConnectionKey (sortByOrder order l)[j]) with
    | some tb₀ =>
      rw [assignOrder_get?_of_some hold] at htb
      cases htb; exact hb _ hold
    | none => exact Nat.lt_of_lt_of_le (hinv.lt_next _ _ ha) (assignOrder_fresh hold _ htb)
  have htb' : orderOf order (sortByOrder order l)[j] = tb := by simp [orderOf, order, htb]
  rw [hta, htb']
  exact hltb

/-! ## What each operation does to the tokens -/

/-- The token state: `connection_order` and `next_order_index`. -/
def tokens (app : App) : HashMap ConnectionKey Nat × Nat :=
  (app.connectionOrder, app.nextOrderIndex)

/-- A step of the token state: none, or the tokens for a list of keys. -/
def TokenStep (t t' : HashMap ConnectionKey Nat × Nat) : Prop :=
  t' = t ∨ ∃ keys, t' = assignOrder t.1 t.2 keys

/-- `app'` is `app` with another selection. -/
def Reselects (app app' : App) : Prop :=
  ∃ s i, app' = { app with selectedConnection := s, selectedConnectionIdx := i }

theorem Reselects.refl (app : App) : Reselects app app := ⟨_, _, rfl⟩

theorem select_reselects {app app' : App} {idx : Nat} (h : app.select idx = some app') :
    Reselects app app' := by
  obtain ⟨_, -, rfl⟩ := Option.map_eq_some'.mp h
  exact ⟨_, _, rfl⟩

theorem restoreSelection_reselects {app app' : App} {conn : Connection}
    (h : app.restoreSelection conn = some app') : Reselects app app' := by
  unfold restoreSelection at h
  split at h
  · exact select_reselects h
  · split at h
    · exact select_reselects h
    · cases h; exact ⟨_, _, rfl⟩

/-- A tick that gets a list from the monitor installs it, then changes the selection only. -/
theorem tick_reselects {app app' : App} {l : List Connection} (hm : app.networkMonitor = true)
    (h : app.onTick (.ok l) = some app' ∨ app.refresh (.ok l) = some app') :
    Reselects (app.installConnections l) app' := by
  rcases h with h | h <;> simp only [App.onTick, App.refresh, hm, if_true] at h <;> split at h
  · exact restoreSelection_reselects h
  · split at h
    · exact select_reselects h
    · cases h; exact Reselects.refl _
  · exact restoreSelection_reselects h
  · cases h; exact Reselects.refl _

/-- A tick without a monitor, or one that gets an error from it, changes nothing. -/
theorem tick_idle {app app' : App} {fetched : Except String (List Connection)}
    (hf : app.networkMonitor = false ∨ ∀ l, fetched ≠ .ok l)
    (h : app.onTick fetched = some app' ∨ app.refresh fetched = some app') : app' = app := by
  cases fetched with
  | ok l =>
    have hm : app.networkMonitor = false := hf.resolve_right fun h => h l rfl
    rcases h with h | h <;> simp [App.onTick, App.refresh, hm] at h <;> exact h.symm
  | error e =>
    rcases h with h | h <;> simp only [App.onTick, App.refresh] at h <;> split at h <;> cases h <;>
      rfl

/-- The list an operation installs: the monitor's list, for a tick that gets one. -/
def Op.installs : Op → Option (List Connection)
  | .onTick fetched | .refresh fetched => fetched.toOption
  | _ => none

/-- What one operation can do: change the view fields, keeping or clearing the DNS cache; select
again; install the list of a tick from the running monitor and select again; or cache a looked-up
process and write it into the selected connection. -/
theorem Op.apply_cases {op : Op} {app app' : App} (h : op.apply app = some app') :
    (op.installs = none ∧ ∃ mode showLocations showHostnames dnsCache,
      (dnsCache = app.dnsCache ∨ dnsCache = .empty) ∧
      app' = { app with
        mode := mode
        showLocations := showLocations
        showHostnames := showHostnames
        dnsCache := dnsCache }) ∨
    ((op.installs = none ∨ app.networkMonitor = false) ∧ Reselects app app') ∨
    (∃ l, op.installs = some l ∧ app.networkMonitor = true ∧
      Reselects (app.installConnections l) app') ∨
    (op.installs = none ∧ ∃ c process, app.connections[app.selectedConnectionIdx]? = some c ∧
      app' = { app with
        processes := app.processes.insert process.pid process
        connections := app.connections.set app.selectedConnectionIdx
          { c with pid := some process.pid, processName := some process.name } }) := by
  cases op with
  | handleKey key =>
    obtain ⟨r, hr, rfl⟩ := Option.map_eq_some'.mp h
    rcases handleKey_cases app key with ⟨_, _, _, _, _, hd, hk⟩ | ⟨-, _, -, hk⟩ <;> rw [hk] at hr
    · cases hr
      exact .inl ⟨rfl, _, _, _, _, hd, rfl⟩
    · obtain ⟨_, h', rfl⟩ := Option.map_eq_some'.mp hr
      exact .inr (.inl ⟨.inl rfl, select_reselects h'⟩)
  | onTick fetched | refresh fetched =>
    have h' : app.onTick fetched = some app' ∨ app.refresh fetched = some app' := by
      first | exact .inl h | exact .inr h
    cases hm : app.networkMonitor with
    | false =>
      rw [tick_idle (.inl hm) h']
      exact .inr (.inl ⟨.inr rfl, Reselects.refl app⟩)
    | true =>
      cases fetched with
      | ok l => exact .inr (.inr (.inl ⟨l, rfl, rfl, tick_reselects hm h'⟩))
      | error e =>
        rw [tick_idle (.inr fun _ h => Except.noConfusion h) h']
        exact .inr (.inl ⟨.inl rfl, Reselects.refl app⟩)
  | getProcessForSelectedConnection lookup =>
    obtain ⟨r, hr, rfl⟩ := Option.map_eq_some'.mp h
    obtain ⟨r', hr', hcases⟩ := getProcessForSelectedConnection_cases app lookup
    rw [hr', Option.some.injEq] at hr
    subst hr
    rcases hcases with ⟨-, h⟩ | ⟨-, -, -, -, -, h⟩ | ⟨c, process, hc, -, -, h⟩ <;> rw [h]
    · exact .inr (.inl ⟨.inl rfl, Reselects.refl _⟩)
    · exact .inr (.inl ⟨.inl rfl, Reselects.refl _⟩)
    · exact .inr (.inr (.inr ⟨rfl, c, process, hc, rfl⟩))

/-- Only a tick that installs a list gives tokens, to the keys of that list. -/
theorem Op.apply_tokens {op : Op} {app app' : App} (h : op.apply app = some app') :
    TokenStep app.tokens app'.tokens := by
  rcases Op.apply_cases h with ⟨-, _, _, _, _, -, rfl⟩ | ⟨-, _, _, rfl⟩ | ⟨l, -, -, _, _, rfl⟩ |
    ⟨-, _, _, -, rfl⟩
  exacts [.inl rfl, .inl rfl, .inr ⟨l.map getConnectionKey, rfl⟩, .inl rfl]

/-! ## Tokens over a run -/

/-- What the token state keeps from `t` to `t'`: the invariant, every token given, the next token
as a lower bound for tokens given since. -/
structure Extends (t t' : HashMap ConnectionKey Nat × Nat) : Prop where
  inv : OrderInv t.1 t.2 → OrderInv t'.1 t'.2
  keep : ∀ k tk, t.1.get? k = some tk → t'.1.get? k = some tk
  le_next : t.2 ≤ t'.2
  fresh : ∀ k tk, t.1.get? k = none → t'.1.get? k = some tk → t.2 ≤ tk

theorem Extends.refl (t : HashMap ConnectionKey Nat × Nat) : Extends t t :=
  ⟨id, fun _ _ h => h, Nat.le_refl _, fun _ _ h h' => by simp [h] at h'⟩

theorem Extends.trans {t₁ t₂ t₃ : HashMap ConnectionKey Nat × Nat} (h₁ : Extends t₁ t₂)
    (h₂ : Extends t₂ t₃) : Extends t₁ t₃ := by
  refine ⟨h₂.inv ∘ h₁.inv, fun k tk hk => h₂.keep k tk (h₁.keep k tk hk),
    Nat.le_trans h₁.le_next h₂.le_next, fun k tk hk hk' => ?_⟩
  cases hmid : t₂.1.get? k with
  | none => exact Nat.le_trans h₁.le_next (h₂.fresh k tk hmid hk')
  | some tm =>
    rw [h₂.keep k tm hmid] at hk'
    cases hk'; exact h₁.fresh k _ hk hmid

theorem TokenStep.extends {t t' : HashMap ConnectionKey Nat × Nat} (h : TokenStep t t') :
    Extends t t' := by
  rcases h with rfl | ⟨keys, rfl⟩
  · exact Extends.refl _
  · exact ⟨fun hinv => assignOrder_inv hinv keys, fun _ _ hk => assignOrder_get?_of_some hk keys,
      le_assignOrder_snd _ _ keys, fun _ _ hk hk' => assignOrder_fresh hk keys hk'⟩

/-- Over a run, the token state only extends. -/
theorem run_extends {ops : List Op} {app app' : App} (h : run ops app = some app') :
    Extends app.tokens app'.tokens :=
  run_preserves (P := fun a => Extends app.tokens a.tokens)
    (fun h hp => hp.trans (Op.apply_tokens h).extends) h (Extends.refl _)

/-- Every state of a run from start-up has distinct tokens below the next one. -/
theorem run_orderInv {fetched : Option (Except String (List Connection))} {ops : List Op}
    {app : App} (h : run ops (start fetched) = some app) :
    OrderInv app.connectionOrder app.nextOrderIndex := by
  refine (run_extends h).inv ?_
  rcases fetched with _ | _ | _ <;> exact orderInv_empty

/-- Tokens order keys by first appearance: a key that holds a token at some state of a run is
listed before a key that holds none there, by every later tick that lists both. -/
theorem key_order_kept {fetched : Option (Except String (List Connection))} {ops ops' : List Op}
    {app app' app'' : App} (hrun : run ops (start fetched) = some app)
    (hrun' : run ops' app = some app') {ka kb : ConnectionKey} {ta : Nat}
    (ha : app.connectionOrder.get? ka = some ta) (hb : app.connectionOrder.get? kb = none)
    {l : List Connection} (hm : app'.networkMonitor = true)
    (htick : app'.onTick (.ok l) = some app'' ∨ app'.refresh (.ok l) = some app'') {i j : Nat}
    (hi : (app''.connections[i]?).map getConnectionKey = some ka)
    (hj : (app''.connections[j]?).map getConnectionKey = some kb) : i < j := by
  have hinv := run_orderInv hrun
  have hext := run_extends hrun'
  obtain ⟨_, _, rfl⟩ := tick_reselects hm htick
  refine installConnections_precedes (hext.inv hinv) l (hext.keep _ _ ha) (fun tb htb => ?_) hi hj
  exact Nat.lt_of_lt_of_le (hinv.lt_next _ _ ha) (hext.fresh _ _ hb htb)

/-! ## A flow that changes state -/

/-- Flow `10.0.0.5:54000 → 8.8.8.8:443` is listed on the first tick and flow
`10.0.0.5:54001 → 1.1.1.1:443` joins on the second; on the third tick the first flow is in
`CloseWait`. Its new key draws a fresh token, and it is listed after the second flow. -/
theorem onTick_state_change_reorders :
    let a : Connection :=
      .new .tcp (.v4 ⟨10, 0, 0, 5⟩ 54000) (.v4 ⟨8, 8, 8, 8⟩ 443) .established 0
    let b : Connection :=
      .new .tcp (.v4 ⟨10, 0, 0, 5⟩ 54001) (.v4 ⟨1, 1, 1, 1⟩ 443) .established 0
    (run [.onTick (.ok [a]), .onTick (.ok [a, b]), .onTick (.ok [{ a with state := .closeWait }, b])]
        (start (some (.ok [])))).map (·.connections) =
      some [b, { a with state := .closeWait }] := by
  decide

/-! ## The token map over a run -/

/-- After the loop a key holds a token exactly when it held one before or is in the list. -/
theorem assignOrder_isSome_iff (order : HashMap ConnectionKey Nat) (next : Nat)
    (keys : List ConnectionKey) (k : ConnectionKey) :
    ((assignOrder order next keys).1.get? k).isSome ↔ (order.get? k).isSome ∨ k ∈ keys := by
  refine ⟨fun h => ?_, ?_⟩
  · induction keys generalizing order next with
    | nil => exact .inl h
    | cons key keys ih =>
      unfold assignOrder at h
      split at h
      · exact (ih _ _ h).imp_right (List.mem_cons_of_mem _)
      · rcases ih _ _ h with h' | h'
        · rw [HashMap.get?_insert] at h'
          split at h'
          · exact .inr (‹k = key› ▸ List.mem_cons_self _ _)
          · exact .inl h'
        · exact .inr (List.mem_cons_of_mem _ h')
  · rintro (h | h)
    · obtain ⟨t, ht⟩ := Option.isSome_iff_exists.mp h
      simp [assignOrder_get?_of_some ht]
    · exact assignOrder_isSome h

/-- Every token below `next` is held by some key. -/
def TokensOnto (order : HashMap ConnectionKey Nat) (next : Nat) : Prop :=
  ∀ t < next, ∃ k, order.get? k = some t

/-- The loop hands out the tokens in order, skipping none. -/
theorem assignOrder_onto {order : HashMap ConnectionKey Nat} {next : Nat}
    (h : TokensOnto order next) (keys : List ConnectionKey) :
    TokensOnto (assignOrder order next keys).1 (assignOrder order next keys).2 := by
  induction keys generalizing order next with
  | nil => exact h
  | cons key keys ih =>
    unfold assignOrder
    split
    · exact ih h
    · rename_i hkey
      refine ih fun t ht => ?_
      rcases Nat.lt_succ_iff_lt_or_eq.mp ht with ht | rfl
      · obtain ⟨k, hk⟩ := h t ht
        have hne : k ≠ key := by rintro rfl; simp [hk] at hkey
        exact ⟨k, by rw [HashMap.get?_insert, if_neg hne, hk]⟩
      · exact ⟨key, by rw [HashMap.get?_insert, if_pos rfl]⟩

/-- With the monitor `running`, the token map holds exactly the keys `keys`, under the tokens
`0, …, next_order_index - 1`. -/
structure TokensOf (running : Bool) (keys : List ConnectionKey) (app : App) : Prop where
  networkMonitor : app.networkMonitor = running
  domain : ∀ k, (app.connectionOrder.get? k).isSome ↔ k ∈ keys
  onto : TokensOnto app.connectionOrder app.nextOrderIndex

/-- The keys of the list an operation installs. -/
def Op.installedKeys (op : Op) : List ConnectionKey :=
  (op.installs.getD []).map getConnectionKey

/-- A tick of the running monitor gives tokens to the keys of its list; nothing else changes the
token map. -/
theorem Op.apply_tokensOf {op : Op} {app app' : App} (h : op.apply app = some app')
    {running : Bool} {keys : List ConnectionKey} (ht : TokensOf running keys app) :
    TokensOf running (if running then keys ++ op.installedKeys else keys) app' := by
  have hkeep : op.installs = none → TokensOf running keys app' → TokensOf running
      (if running then keys ++ op.installedKeys else keys) app' := fun hi h => by
    simpa [Op.installedKeys, hi] using h
  rcases Op.apply_cases h with ⟨hi, _, _, _, _, -, rfl⟩ | ⟨hi | hm, _, _, rfl⟩ |
    ⟨l, hl, hm, _, _, rfl⟩ | ⟨hi, _, _, -, rfl⟩
  · exact hkeep hi ⟨ht.1, ht.2, ht.3⟩
  · exact hkeep hi ⟨ht.1, ht.2, ht.3⟩
  · obtain rfl : running = false := ht.1.symm.trans hm
    exact ⟨ht.1, ht.2, ht.3⟩
  · obtain rfl : running = true := ht.1.symm.trans hm
    refine ⟨hm, fun k => ?_, assignOrder_onto ht.3 _⟩
    simp only [installConnections, if_true, assignOrder_isSome_iff, ht.2, List.mem_append,
      Op.installedKeys, hl, Option.getD_some]
  · exact hkeep hi ⟨ht.1, ht.2, ht.3⟩

theorem TokensOf.run {app app' : App} {running : Bool} {keys : List ConnectionKey}
    (ht : TokensOf running keys app) {ops : List Op} (h : run ops app = some app') :
    TokensOf running (if running then keys ++ ops.flatMap Op.installedKeys else keys) app' := by
  induction ops generalizing app keys with
  | nil => cases h; simpa using ht
  | cons op ops ih =>
    obtain ⟨app₁, h₁, h'⟩ := Option.bind_eq_some.mp h
    have := ih (Op.apply_tokensOf h₁ ht) h'
    cases running <;> simpa using this

/-- The keys of the lists the ticks of a run install, if the capture started. -/
def installedKeys (fetched : Option (Except String (List Connection))) (ops : List Op) :
    List ConnectionKey :=
  match fetched with
  | some (.ok _) => ops.flatMap Op.installedKeys
  | _ => []

/-- Over every run from start-up, `connection_order` holds a token for exactly the keys of the
lists the ticks installed, and its tokens are `0, …, next_order_index - 1`, one key each. No
entry is ever removed: the map and `next_order_index` count every distinct key the UI has
listed, each state change of a flow included. -/
theorem run_connectionOrder {fetched : Option (Except String (List Connection))} {ops : List Op}
    {app : App} (h : run ops (start fetched) = some app) :
    (∀ k, (app.connectionOrder.get? k).isSome ↔ k ∈ installedKeys fetched ops) ∧
      (∀ t, t < app.nextOrderIndex ↔ ∃ k, app.connectionOrder.get? k = some t) ∧
      ∀ k k' t, app.connectionOrder.get? k = some t → app.connectionOrder.get? k' = some t →
        k = k' := by
  have hinv := run_orderInv h
  have hstart : TokensOf (match fetched with | some (.ok _) => true | _ => false) []
      (start fetched) := by
    rcases fetched with _ | _ | _ <;>
      exact ⟨rfl, fun _ => ⟨fun h => Bool.noConfusion h, fun h => nomatch h⟩, fun _ h => nomatch h⟩
  have ht := hstart.run h
  refine ⟨fun k => ?_, fun t => ⟨ht.3 t, fun ⟨k, hk⟩ => hinv.lt_next k t hk⟩, hinv.inj⟩
  rw [ht.2]
  rcases fetched with _ | _ | _ <;> simp [installedKeys]

/-- A flow listed in `Established` and then in `CloseWait` holds two tokens, one for each key. -/
theorem run_connectionOrder_state_change :
    let a : Connection :=
      .new .tcp (.v4 ⟨10, 0, 0, 5⟩ 54000) (.v4 ⟨8, 8, 8, 8⟩ 443) .established 0
    ∃ app, run [.onTick (.ok [a]), .onTick (.ok [{ a with state := .closeWait }])]
        (start (some (.ok []))) = some app ∧ app.nextOrderIndex = 2 ∧
      ∀ t, t < app.nextOrderIndex ↔ ∃ k, app.connectionOrder.get? k = some t := by
  intro a
  exact ⟨_, rfl, rfl, (@run_connectionOrder (some (.ok []))
    [.onTick (.ok [a]), .onTick (.ok [{ a with state := .closeWait }])] _ rfl).2.1⟩

end RustNet.App
