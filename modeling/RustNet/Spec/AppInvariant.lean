import RustNet.App

/-!
# The selection invariant of the UI

A run of the UI starts from `App::new`, optionally followed by `start_capture`, and goes on with
key presses, ticks, refreshes and process lookups in any order, with any lists from the
monitor. Over every such run the selection stays consistent with the list:

- nothing selected means index 0;
- a selection means the index is in range and the connection listed there has the selected
  connection's key.

Every handler indexes the list only where this makes the index valid, so no run panics.

## Key results

- `SelectionOk.handleKey`, `SelectionOk.onTick`, `SelectionOk.refresh`,
  `SelectionOk.getProcessForSelectedConnection`: each operation keeps the invariant and does
  not panic;
- `run_selectionOk`: every run from start-up ends in a state with the invariant;
- `tick_restores_key`: a tick restores a selection whose key the new list holds, and
  `onTick_selects_other_flow`: a selected flow whose state changes loses the selection.
-/

namespace RustNet.App

open Network.Monitor

/-! ## Runs -/

/-- The operations of the UI loop after start-up, each with the monitor's answers it reads. -/
inductive Op where
  | handleKey (key : KeyEvent)
  | onTick (fetched : Except String (List Connection))
  | refresh (fetched : Except String (List Connection))
  | getProcessForSelectedConnection (lookup : Connection → Option Process)

/-- One operation; `none` is a panic. -/
def Op.apply : Op → App → Option App
  | .handleKey key, app => (app.handleKey key).map Prod.fst
  | .onTick fetched, app => app.onTick fetched
  | .refresh fetched, app => app.refresh fetched
  | .getProcessForSelectedConnection lookup, app =>
    (app.getProcessForSelectedConnection lookup).map Prod.snd

/-- A run of operations, stopping at the first panic. -/
def run : List Op → App → Option App
  | [], app => some app
  | op :: ops, app => (op.apply app).bind (run ops)

/-- `App::new`, then `start_capture` if it is called. -/
def start : Option (Except String (List Connection)) → App
  | none => new
  | some fetched => new.startCapture fetched

/-- What every operation keeps, every run keeps. -/
theorem run_preserves {P : App → Prop}
    (hstep : ∀ {op : Op} {app app' : App}, op.apply app = some app' → P app → P app')
    {ops : List Op} {app app' : App} (h : run ops app = some app') (hp : P app) : P app' := by
  induction ops generalizing app with
  | nil => cases h; exact hp
  | cons op ops ih =>
    obtain ⟨app₁, h₁, h'⟩ := Option.bind_eq_some.mp h
    exact ih h' (hstep h₁ hp)

/-! ## The invariant -/

/-- Nothing selected at index 0, or the connection at the selected index has the selected
connection's key. -/
def SelectionOk (app : App) : Prop :=
  match app.selectedConnection with
  | none => app.selectedConnectionIdx = 0
  | some s =>
    (app.connections[app.selectedConnectionIdx]?).map getConnectionKey = some (getConnectionKey s)

/-- Under the invariant the index is in range, or zero. -/
theorem SelectionOk.idx {app : App} (h : SelectionOk app) :
    app.selectedConnectionIdx = 0 ∨ app.selectedConnectionIdx < app.connections.length := by
  unfold SelectionOk at h
  split at h
  · exact .inl h
  · rename_i s _
    cases hc : app.connections[app.selectedConnectionIdx]? with
    | none => rw [hc] at h; cases h
    | some c => exact .inr (List.getElem?_eq_some_iff.mp hc).1

/-- Selecting an index in range succeeds and establishes the invariant. -/
theorem select_ok {app : App} {idx : Nat} (h : idx < app.connections.length) :
    ∃ app', app.select idx = some app' ∧ SelectionOk app' ∧
      app'.connections = app.connections := by
  simp [select, List.getElem?_eq_getElem h, SelectionOk]

/-! ## Each operation keeps it -/

/-- The Down and Up keys select an index in range; the other keys leave the selection alone. -/
theorem SelectionOk.handleKey {app : App} (h : SelectionOk app) (key : KeyEvent) :
    ∃ r, app.handleKey key = some r ∧ SelectionOk r.1 := by
  rcases handleKey_cases app key with ⟨_, _, _, _, _, -, hk⟩ | ⟨hne, idx, hidx, hk⟩
  · exact ⟨_, hk, h⟩
  · have hlen := List.length_pos.mpr hne
    have hlt : idx < app.connections.length := by
      rcases hidx with rfl | rfl
      · exact Nat.mod_lt _ hlen
      · have := h.idx; split <;> omega
    obtain ⟨app', h', hok, -⟩ := select_ok hlt
    exact ⟨_, by rw [hk, h']; rfl, hok⟩

/-- Restoring a selection succeeds and establishes the invariant, whatever the list. -/
theorem restoreSelection_ok (app : App) (conn : Connection) :
    ∃ app', app.restoreSelection conn = some app' ∧ SelectionOk app' := by
  unfold restoreSelection
  split
  · rename_i idx hidx
    obtain ⟨app', h', hok, -⟩ := select_ok (List.findIdx?_eq_some_iff_getElem.mp hidx).1
    exact ⟨app', h', hok⟩
  · split
    · rename_i hne
      obtain ⟨app', h', hok, -⟩ :=
        select_ok (List.length_pos.mpr (by simpa using hne) : 0 < app.connections.length)
      exact ⟨app', h', hok⟩
    · exact ⟨_, rfl, rfl⟩

/-- `on_tick` restores a selection, or selects the first connection, or keeps index 0. -/
theorem SelectionOk.onTick {app : App} (h : SelectionOk app)
    (fetched : Except String (List Connection)) :
    ∃ app', app.onTick fetched = some app' ∧ SelectionOk app' := by
  unfold App.onTick
  split
  · split
    · exact ⟨app, rfl, h⟩
    · rename_i newConnections
      dsimp only
      split
      · exact restoreSelection_ok _ _
      · rename_i hsel
        split
        · rename_i hne
          obtain ⟨app', h', hok, -⟩ := select_ok (List.length_pos.mpr (by simp_all) :
            0 < (app.installConnections newConnections).connections.length)
          exact ⟨app', h', hok⟩
        · refine ⟨_, rfl, ?_⟩
          simpa [SelectionOk, hsel] using h
  · exact ⟨app, rfl, h⟩

/-- `refresh` restores a selection, or leaves nothing selected at index 0. -/
theorem SelectionOk.refresh {app : App} (h : SelectionOk app)
    (fetched : Except String (List Connection)) :
    ∃ app', app.refresh fetched = some app' ∧ SelectionOk app' := by
  unfold App.refresh
  split
  · split
    · exact ⟨app, rfl, h⟩
    · dsimp only
      split
      · exact restoreSelection_ok _ _
      · rename_i hsel
        refine ⟨_, rfl, ?_⟩
        simpa [SelectionOk, hsel] using h
  · exact ⟨app, rfl, h⟩

/-- What the lookup can do: answer nothing; answer from the cache the process of the selected
connection's pid; or answer the monitor's process for the selected connection, cache it under its
pid and write its pid and name into the connection. It never panics. -/
theorem getProcessForSelectedConnection_cases (app : App)
    (lookup : Connection → Option Process) :
    ∃ r, app.getProcessForSelectedConnection lookup = some r ∧
      ((r.1 = none ∧ r.2 = app) ∨
        (∃ c pid, app.connections[app.selectedConnectionIdx]? = some c ∧ c.pid = some pid ∧
          app.processes.get? pid = r.1 ∧ r.2 = app) ∨
        (∃ c process, app.connections[app.selectedConnectionIdx]? = some c ∧
          lookup c = some process ∧ r.1 = some process ∧
          r.2 = { app with
            processes := app.processes.insert process.pid process
            connections := app.connections.set app.selectedConnectionIdx
              { c with pid := some process.pid, processName := some process.name } })) := by
  unfold App.getProcessForSelectedConnection
  split
  · exact ⟨_, rfl, .inl ⟨rfl, rfl⟩⟩
  rename_i hin
  have hlt : app.selectedConnectionIdx < app.connections.length := by simp at hin; omega
  have hget := List.getElem?_eq_getElem hlt
  simp only [hget, Option.some_bind]
  split
  · rename_i process hcache
    obtain ⟨pid, hpid, hproc⟩ := Option.bind_eq_some.mp hcache
    exact ⟨_, rfl, .inr (.inl ⟨_, pid, rfl, hpid, hproc, rfl⟩)⟩
  split
  · split
    · rename_i process hlookup
      simp only [hlt, if_true, hget, Option.some_bind, HashMap.get?_insert, if_true,
        Option.map_some']
      exact ⟨_, rfl, .inr (.inr ⟨_, process, rfl, hlookup, rfl, rfl⟩)⟩
    · exact ⟨_, rfl, .inl ⟨rfl, rfl⟩⟩
  · exact ⟨_, rfl, .inl ⟨rfl, rfl⟩⟩

/-- The lookup keeps the invariant: the connection it writes into keeps its key. -/
theorem SelectionOk.getProcessForSelectedConnection {app : App} (h : SelectionOk app)
    (lookup : Connection → Option Process) :
    ∃ r, app.getProcessForSelectedConnection lookup = some r ∧ SelectionOk r.2 := by
  obtain ⟨r, hr, ⟨-, h'⟩ | ⟨-, -, -, -, -, h'⟩ | ⟨c, process, hc, -, -, h'⟩⟩ :=
    getProcessForSelectedConnection_cases app lookup
  · exact ⟨r, hr, h' ▸ h⟩
  · exact ⟨r, hr, h' ▸ h⟩
  · refine ⟨r, hr, ?_⟩
    rw [h']
    revert h
    unfold SelectionOk
    have hlt := (List.getElem?_eq_some_iff.mp hc).1
    split <;> simp_all [List.getElem?_set, getConnectionKey]

/-! ## Every run keeps it -/

/-- One operation keeps the invariant and does not panic. -/
theorem SelectionOk.apply {app : App} (h : SelectionOk app) (op : Op) :
    ∃ app', op.apply app = some app' ∧ SelectionOk app' := by
  cases op with
  | handleKey key =>
    obtain ⟨r, hr, hok⟩ := h.handleKey key
    exact ⟨r.1, by simp [Op.apply, hr], hok⟩
  | onTick fetched => exact h.onTick fetched
  | refresh fetched => exact h.refresh fetched
  | getProcessForSelectedConnection lookup =>
    obtain ⟨r, hr, hok⟩ := h.getProcessForSelectedConnection lookup
    exact ⟨r.2, by simp [Op.apply, hr], hok⟩

/-- A run of operations keeps the invariant and does not panic. -/
theorem SelectionOk.run {app : App} (h : SelectionOk app) (ops : List Op) :
    ∃ app', App.run ops app = some app' ∧ SelectionOk app' := by
  induction ops generalizing app with
  | nil => exact ⟨app, rfl, h⟩
  | cons op ops ih =>
    obtain ⟨app₁, h₁, hok₁⟩ := h.apply op
    obtain ⟨app', h', hok'⟩ := ih hok₁
    exact ⟨app', by simp [App.run, h₁, h'], hok'⟩

theorem selectionOk_start (fetched : Option (Except String (List Connection))) :
    SelectionOk (start fetched) := by
  rcases fetched with _ | _ | _ <;> rfl

/-- Every run from `App::new`, with or without `start_capture`, through any key presses, ticks,
refreshes and process lookups with any answers from the monitor, ends without a panic in a
state where nothing selected means index 0, and a selection means an index in range whose
connection has the selected connection's key. -/
theorem run_selectionOk (fetched : Option (Except String (List Connection))) (ops : List Op) :
    ∃ app, run ops (start fetched) = some app ∧
      match app.selectedConnection with
      | none => app.selectedConnectionIdx = 0
      | some s => ∃ h : app.selectedConnectionIdx < app.connections.length,
          getConnectionKey app.connections[app.selectedConnectionIdx] = getConnectionKey s := by
  obtain ⟨app, hrun, hok⟩ := (selectionOk_start fetched).run ops
  refine ⟨app, hrun, ?_⟩
  unfold SelectionOk at hok
  cases hs : app.selectedConnection <;> simp only [hs] at hok ⊢
  · exact hok
  · obtain ⟨c, hc, hkey⟩ := Option.map_eq_some'.mp hok
    obtain ⟨hlt, hc⟩ := List.getElem?_eq_some_iff.mp hc
    exact ⟨hlt, hc ▸ hkey⟩

/-! ## Restoring the selection -/

/-- When the list holds a connection with the key of `conn`, the selection moves to the first
such connection, at its index. -/
theorem restoreSelection_found {app : App} {conn : Connection}
    (h : ∃ c ∈ app.connections, getConnectionKey c = getConnectionKey conn) :
    ∃ app' c, app.restoreSelection conn = some app' ∧ app'.selectedConnection = some c ∧
      getConnectionKey c = getConnectionKey conn ∧
      app'.connections[app'.selectedConnectionIdx]? = some c := by
  obtain ⟨c₀, hc₀, hk₀⟩ := h
  have hfind : (app.findConnectionIndex conn).isSome := by
    unfold findConnectionIndex
    rw [List.findIdx?_isSome]
    exact List.any_eq_true.mpr ⟨c₀, hc₀, by simpa using hk₀⟩
  obtain ⟨idx, hidx⟩ := Option.isSome_iff_exists.mp hfind
  obtain ⟨hlt, hkey, -⟩ := List.findIdx?_eq_some_iff_getElem.mp hidx
  exact ⟨{ app with selectedConnection := some app.connections[idx], selectedConnectionIdx := idx },
    app.connections[idx], by simp [restoreSelection, hidx, select, hlt], rfl,
    of_decide_eq_true hkey, by simp⟩

/-- A tick restores a selection whose key the monitor's list still holds. -/
theorem tick_restores_key {app app' : App} {l : List Connection} {conn : Connection}
    (hm : app.networkMonitor = true) (hsel : app.selectedConnection = some conn)
    (hl : ∃ c ∈ l, getConnectionKey c = getConnectionKey conn)
    (h : app.onTick (.ok l) = some app' ∨ app.refresh (.ok l) = some app') :
    ∃ c, app'.selectedConnection = some c ∧ getConnectionKey c = getConnectionKey conn ∧
      app'.connections[app'.selectedConnectionIdx]? = some c := by
  obtain ⟨c, hc, hk⟩ := hl
  obtain ⟨app'', c', h'', hs⟩ := @restoreSelection_found (app.installConnections l) conn
    ⟨c, (List.perm_insertionSort _ l).mem_iff.mpr hc, hk⟩
  rcases h with h | h <;> simp only [App.onTick, App.refresh, hm, hsel, if_true, h''] at h <;>
    cases h <;> exact ⟨c', hs⟩

/-- The first tick lists flow `10.0.0.5:54000 → 8.8.8.8:443` and flow
`10.0.0.5:54001 → 1.1.1.1:443`, and selects the first. On the next tick the first flow is in
`CloseWait`: its key is new, the lookup by key fails, and the selection moves to the other flow,
now listed first. -/
theorem onTick_selects_other_flow :
    let a : Connection :=
      .new .tcp (.v4 ⟨10, 0, 0, 5⟩ 54000) (.v4 ⟨8, 8, 8, 8⟩ 443) .established 0
    let b : Connection :=
      .new .tcp (.v4 ⟨10, 0, 0, 5⟩ 54001) (.v4 ⟨1, 1, 1, 1⟩ 443) .established 0
    let app := run [.onTick (.ok [a, b])] (start (some (.ok [])))
    app.bind (·.selectedConnection) = some a ∧
      (app.bind (·.onTick (.ok [{ a with state := .closeWait }, b]))).bind
        (·.selectedConnection) = some b := by
  decide

end RustNet.App
