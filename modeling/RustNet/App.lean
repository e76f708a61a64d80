import Mathlib
import RustNet.Network.Monitor

/-!
# The application state

The model of `app.rs`: the state of the terminal UI, its key handlers, `on_tick` and `refresh`,
which replace the connection list by the monitor's latest and order it by the tokens of
`connection_order`, and the on-demand process lookup.

Where the source calls the monitor, the result is an argument: the list `get_connections`
returns (or its error), and the answer of `get_platform_process_for_connection`. The monitor
itself is `network_monitor.is_some()`. Left out as read by no modelled function: the
configuration and the i18n tables. Indices and order tokens are `usize`
in the source and `Nat` here; a token reaches `2^64` only after as many distinct keys. A panic
is `none`.
-/

namespace RustNet

open Network.Monitor

/-- `Action`. -/
inductive Action where
  | quit | refresh
deriving DecidableEq, Repr

/-- `ViewMode`. -/
inductive ViewMode where
  | overview | connectionDetails | processDetails | help
deriving DecidableEq, Repr

/-- The key codes the handlers tell apart; `other` is every code they ignore. -/
inductive KeyCode where
  | char (c : Char) | up | down | enter | esc | other
deriving DecidableEq, Repr

/-- A key event: its code, and whether its modifiers contain `CONTROL`. -/
structure KeyEvent where
  code : KeyCode
  control : Bool
deriving DecidableEq, Repr

/-- The string `get_connection_key` formats, `"{:?}-{}-{}-{:?}"` of the protocol, the two
addresses and the state, by the values it prints. -/
structure ConnectionKey where
  protocol : Protocol
  localAddr : SocketAddr
  remoteAddr : SocketAddr
  state : ConnectionState
deriving DecidableEq, Repr

/-- `App`, without the configuration and the i18n tables. -/
structure App where
  mode : ViewMode
  networkMonitor : Bool
  connections : List Connection
  processes : HashMap UInt32 Process
  selectedConnection : Option Connection
  selectedConnectionIdx : Nat
  showLocations : Bool
  showHostnames : Bool
  connectionOrder : HashMap ConnectionKey Nat
  nextOrderIndex : Nat
  dnsCache : HashMap IpAddr String

namespace App

/-- `App::new`. -/
def new : App where
  mode := .overview
  networkMonitor := false
  connections := []
  processes := .empty
  selectedConnection := none
  selectedConnectionIdx := 0
  showLocations := true
  showHostnames := false
  connectionOrder := .empty
  nextOrderIndex := 0
  dnsCache := .empty

/-- `start_capture`: install the monitor and its first list, unsorted; on an error (from
`NetworkMonitor::new` or `get_connections`) nothing has changed yet. -/
def startCapture (app : App) (fetched : Except String (List Connection)) : App :=
  match fetched with
  | .ok connections => { app with connections := connections, networkMonitor := true }
  | .error _ => app

/-- `get_connection_key`. -/
def getConnectionKey (conn : Connection) : ConnectionKey :=
  ⟨conn.protocol, conn.localAddr.shown, conn.remoteAddr.shown, conn.state⟩

/-- The string `get_connection_key` formats, `format!("{:?}-{}-{}-{:?}", protocol, local_addr,
remote_addr, state)`. -/
def connectionKeyText (conn : Connection) : List Char :=
  conn.protocol.debug ++ '-' :: conn.localAddr.display ++ '-' :: conn.remoteAddr.display ++
    '-' :: conn.state.debug

/-- `find_connection_index`: the first listed connection with the key of `selected`. -/
def findConnectionIndex (app : App) (selected : Connection) : Option Nat :=
  app.connections.findIdx? fun conn => getConnectionKey conn = getConnectionKey selected

/-- Select the connection at `idx`: `selected_connection = Some(connections[idx].clone())` and
`selected_connection_idx = idx`, as each handler writes them. -/
def select (app : App) (idx : Nat) : Option App :=
  app.connections[idx]?.map fun conn =>
    { app with selectedConnection := some conn, selectedConnectionIdx := idx }

/-! ## Keys -/

/-- `handle_overview_keys`. -/
def handleOverviewKeys (app : App) (key : KeyEvent) : Option (App × Option Action) :=
  match key.code with
  | .char 'q' => some (app, some .quit)
  | .char 'c' => some (app, if key.control then some .quit else none)
  | .char 'r' => some (app, some .refresh)
  | .down =>
    if app.connections.isEmpty then some (app, none)
    else (app.select ((app.selectedConnectionIdx + 1) % app.connections.length)).map (·, none)
  | .up =>
    if app.connections.isEmpty then some (app, none)
    else
      let idx := if app.selectedConnectionIdx = 0 then app.connections.length - 1
        else app.selectedConnectionIdx - 1
      (app.select idx).map (·, none)
  | .enter =>
    some (if app.connections.isEmpty then app else { app with mode := .connectionDetails }, none)
  | .char 'h' => some ({ app with mode := .help }, none)
  | .char 'l' => some ({ app with showLocations := !app.showLocations }, none)
  | .char 'd' =>
    let app := { app with showHostnames := !app.showHostnames }
    some (if app.showHostnames then app else { app with dnsCache := .empty }, none)
  | _ => some (app, none)

/-- `handle_details_keys`. -/
def handleDetailsKeys (app : App) (key : KeyEvent) : App :=
  match key.code with
  | .esc | .char 'q' => { app with mode := .overview }
  | .char 'p' => { app with mode := .processDetails }
  | _ => app

/-- `handle_process_keys`. -/
def handleProcessKeys (app : App) (key : KeyEvent) : App :=
  match key.code with
  | .esc | .char 'q' => { app with mode := .connectionDetails }
  | _ => app

/-- `handle_help_keys`. -/
def handleHelpKeys (app : App) (key : KeyEvent) : App :=
  match key.code with
  | .esc | .char 'q' | .char 'h' => { app with mode := .overview }
  | _ => app

/-- `handle_key`: dispatch on the view mode. -/
def handleKey (app : App) (key : KeyEvent) : Option (App × Option Action) :=
  match app.mode with
  | .overview => app.handleOverviewKeys key
  | .connectionDetails => some (app.handleDetailsKeys key, none)
  | .processDetails => some (app.handleProcessKeys key, none)
  | .help => some (app.handleHelpKeys key, none)

/-- What a key can do: change the view fields only, or select the next or the previous index
of a nonempty list. -/
theorem handleKey_cases (app : App) (key : KeyEvent) :
    (∃ mode showLocations showHostnames dnsCache action,
      (dnsCache = app.dnsCache ∨ dnsCache = .empty) ∧
      app.handleKey key = some ({ app with
        mode := mode
        showLocations := showLocations
        showHostnames := showHostnames
        dnsCache := dnsCache }, action)) ∨
    (app.connections ≠ [] ∧ ∃ idx,
      (idx = (app.selectedConnectionIdx + 1) % app.connections.length ∨
        idx = if app.selectedConnectionIdx = 0 then app.connections.length - 1
          else app.selectedConnectionIdx - 1) ∧
      app.handleKey key = (app.select idx).map (·, none)) := by
  unfold handleKey
  split
  · unfold handleOverviewKeys
    split
    case h_4 | h_5 =>
      split
      · exact .inl ⟨_, _, _, _, _, .inl rfl, rfl⟩
      · rename_i hne
        exact .inr ⟨mt List.isEmpty_iff.mpr hne, _,
          by first | exact .inl rfl | exact .inr rfl, rfl⟩
    all_goals
      try dsimp only
      (try split) <;>
        first | exact .inl ⟨_, _, _, _, _, .inl rfl, rfl⟩ | exact .inl ⟨_, _, _, _, _, .inr rfl, rfl⟩
  all_goals
    first
    | unfold handleDetailsKeys
    | unfold handleProcessKeys
    | unfold handleHelpKeys
    split <;> exact .inl ⟨_, _, _, _, _, .inl rfl, rfl⟩

/-! ## Ticks -/

/-- `usize::MAX`, the token of a key without one. -/
def usizeMax : Nat := 2 ^ 64 - 1

/-- The `connection_order` loop: a fresh token for each key not seen before, in list order. -/
def assignOrder (order : HashMap ConnectionKey Nat) (next : Nat) :
    List ConnectionKey → HashMap ConnectionKey Nat × Nat
  | [] => (order, next)
  | key :: keys =>
    if (order.get? key).isSome then assignOrder order next keys
    else assignOrder (order.insert key next) (next + 1) keys

/-- The token `sort_by` compares: `connection_order.get(&key).unwrap_or(&usize::MAX)`. -/
def orderOf (order : HashMap ConnectionKey Nat) (conn : Connection) : Nat :=
  (order.get? (getConnectionKey conn)).getD usizeMax

/-- `sort_by` on the tokens. The sort is stable, and a stable sort by one key has one result,
which insertion sort computes. -/
def sortByOrder (order : HashMap ConnectionKey Nat) (connections : List Connection) :
    List Connection :=
  connections.insertionSort fun a b => orderOf order a ≤ orderOf order b

/-- What `on_tick` and `refresh` both do with the monitor's list: tokens for its new keys, then
the list sorted by token. -/
def installConnections (app : App) (newConnections : List Connection) : App :=
  let assigned :=
    assignOrder app.connectionOrder app.nextOrderIndex (newConnections.map getConnectionKey)
  { app with connectionOrder := assigned.1, nextOrderIndex := assigned.2,
             connections := sortByOrder assigned.1 newConnections }

@[simp] theorem selectedConnection_installConnections (app : App) (l : List Connection) :
    (app.installConnections l).selectedConnection = app.selectedConnection := rfl

@[simp] theorem selectedConnectionIdx_installConnections (app : App) (l : List Connection) :
    (app.installConnections l).selectedConnectionIdx = app.selectedConnectionIdx := rfl

/-- What both do when a connection was selected: select it again where its key is listed, else
the first connection, else nothing. -/
def restoreSelection (app : App) (conn : Connection) : Option App :=
  match app.findConnectionIndex conn with
  | some idx => app.select idx
  | none =>
    if !app.connections.isEmpty then app.select 0
    else some { app with selectedConnectionIdx := 0, selectedConnection := none }

/-- `on_tick`; with no connection selected it selects the first one. -/
def onTick (app : App) (fetched : Except String (List Connection)) : Option App :=
  let selected := app.selectedConnection
  if app.networkMonitor then
    match fetched with
    | .error _ => some app
    | .ok newConnections =>
      let app := app.installConnections newConnections
      match selected with
      | some conn => app.restoreSelection conn
      | none =>
        if !app.connections.isEmpty && app.selectedConnection.isNone then app.select 0
        else some app
  else some app

/-- `refresh`: `on_tick` without the branch that selects a first connection. -/
def refresh (app : App) (fetched : Except String (List Connection)) : Option App :=
  let selected := app.selectedConnection
  if app.networkMonitor then
    match fetched with
    | .error _ => some app
    | .ok newConnections =>
      let app := app.installConnections newConnections
      match selected with
      | some conn => app.restoreSelection conn
      | none => some app
  else some app

/-! ## Process lookup -/

/-- `get_process_for_selected_connection`: the cached process of the selected connection's
pid, else the monitor's answer `lookup`, which is cached and written into the selected
connection. -/
def getProcessForSelectedConnection (app : App) (lookup : Connection → Option Process) :
    Option (Option Process × App) :=
  if app.connections.isEmpty || app.selectedConnectionIdx ≥ app.connections.length then
    some (none, app)
  else
    app.connections[app.selectedConnectionIdx]?.bind fun connection =>
    match connection.pid.bind app.processes.get? with
    | some process => some (some process, app)
    | none =>
      if app.networkMonitor then
        match lookup connection with
        | some process =>
          let pid := process.pid
          let app := { app with processes := app.processes.insert pid process }
          if app.selectedConnectionIdx < app.connections.length then
            app.connections[app.selectedConnectionIdx]?.bind fun conn =>
            (app.processes.get? pid).map fun cached =>
              let conn := { conn with pid := some pid, processName := some cached.name }
              (some process,
                { app with connections := app.connections.set app.selectedConnectionIdx conn })
          else some (some process, app)
        | none => some (none, app)
      else some (none, app)

/-! ## Addresses -/

/-- `format_socket_addr`: with `show_hostnames`, the cached host name of the address, else
`localhost` for a loopback and `*` for an unspecified address, before the port; otherwise the
address as `Display` prints it. -/
def formatSocketAddr (app : App) (addr : SocketAddr) : List Char :=
  if app.showHostnames then
    let ip := addr.ip
    match app.dnsCache.get? ip with
    | some hostname => hostname.toList ++ ':' :: displayNat addr.port.toNat
    | none =>
      if ip.isLoopback then "localhost:".toList ++ displayNat addr.port.toNat
      else if ip.isUnspecified then "*:".toList ++ displayNat addr.port.toNat
      else addr.display
  else addr.display

end App

end RustNet
