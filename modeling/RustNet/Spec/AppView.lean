import RustNet.Spec.AppOrder

/-!
# What the UI shows

`get_process_for_selected_connection` answers from `processes`, a map from pid to process, when
the selected connection's pid is cached; otherwise it asks the monitor, caches the answer under
the answer's own pid, and writes that pid and the name into the connection. No other operation
touches the cache. So over every run each cached process sits under its own pid
(`run_cacheOk`), and the process the UI shows for the selected connection is the monitor's
answer for that connection or a process with the connection's own pid
(`getProcessForSelectedConnection_pid`).

The list itself is replaced by each tick that gets one from the monitor, and only reordered
there; keys change the selection and the view, and the process lookup writes the pid and the
name of one entry. So over every run from start-up the UI lists the monitor's last list, in some
order and up to those two fields: nothing is lost or listed twice (`run_lists_lastList`).

Nothing writes the DNS cache but the `d` key, which clears it: over every run it stays empty, and
`format_socket_addr` never shows a cached host name (`run_formatSocketAddr`).

The four views form a ladder: `q` goes from the process details to the connection details, from
there or from the help to the overview, and only there does it, or `Ctrl+C`, quit. Outside the
overview a key changes at most the view, and every key but `Esc`, `q`, `p` and `h` nothing
(`handleKey_quit`).
-/

namespace RustNet.App

open Network.Monitor

/-- Every cached process is stored under its own pid. -/
def CacheOk (app : App) : Prop :=
  ∀ pid process, app.processes.get? pid = some process → process.pid = pid

theorem cacheOk_start (fetched : Option (Except String (List Connection))) :
    CacheOk (start fetched) := by
  rcases fetched with _ | _ | _ <;> intro _ _ h <;> cases h

/-- Caching a process under its own pid keeps the invariant. -/
theorem CacheOk.insert {app : App} (h : CacheOk app) (process : Process) :
    CacheOk { app with processes := app.processes.insert process.pid process } := by
  intro pid p hp
  simp only [HashMap.get?_insert] at hp
  split at hp
  · cases hp; symm; assumption
  · exact h pid p hp

/-- Every operation keeps the invariant: only the process lookup writes the cache, under the
pid of the process it caches. -/
theorem Op.apply_cacheOk {op : Op} {app app' : App} (h : op.apply app = some app')
    (hc : CacheOk app) : CacheOk app' := by
  rcases Op.apply_cases h with ⟨-, _, _, _, _, -, rfl⟩ | ⟨-, _, _, rfl⟩ | ⟨_, -, -, _, _, rfl⟩ |
    ⟨-, _, process, -, rfl⟩
  exacts [hc, hc, hc, hc.insert process]

/-- Every state of a run from start-up stores each cached process under its own pid. -/
theorem run_cacheOk {fetched : Option (Except String (List Connection))} {ops : List Op}
    {app : App} (h : run ops (start fetched) = some app) : CacheOk app :=
  run_preserves Op.apply_cacheOk h (cacheOk_start fetched)

/-- Over every run from start-up, the process the UI shows for the selected connection is the
monitor's answer for that connection, or a cached process whose pid is the connection's pid. -/
theorem getProcessForSelectedConnection_pid {fetched : Option (Except String (List Connection))}
    {ops : List Op} {app : App} (hrun : run ops (start fetched) = some app)
    {lookup : Connection → Option Process} {process : Process}
    (h : (app.getProcessForSelectedConnection lookup).map Prod.fst = some (some process)) :
    ∃ c, app.connections[app.selectedConnectionIdx]? = some c ∧
      (c.pid = some process.pid ∨ lookup c = some process) := by
  obtain ⟨r, hr, hcases⟩ := getProcessForSelectedConnection_cases app lookup
  rw [hr, Option.map_some', Option.some.injEq] at h
  rcases hcases with ⟨h₁, -⟩ | ⟨c, pid, hc, hpid, hget, -⟩ | ⟨c, p, hc, hlookup, h₁, -⟩
  · rw [h] at h₁
    cases h₁
  · rw [h] at hget
    exact ⟨c, hc, .inl (hpid.trans (congrArg some (run_cacheOk hrun pid process hget).symm))⟩
  · rw [h] at h₁
    cases h₁
    exact ⟨c, hc, .inr hlookup⟩

/-- Start-up with one SSH session listed and a lookup that caches the monitor's `sshd`; a second
lookup, to a monitor that no longer answers, shows `sshd` from the cache, under the pid the first
lookup wrote into the connection. -/
theorem getProcessForSelectedConnection_pid_cached :
    let ssh := Connection.new .tcp (.v4 ⟨10, 0, 0, 1⟩ 22) (.v4 ⟨10, 0, 0, 3⟩ 50000) .established 0
    ∃ app, run [.getProcessForSelectedConnection fun _ => some ⟨100, "sshd"⟩]
        (start (some (.ok [ssh]))) = some app ∧
      (app.getProcessForSelectedConnection fun _ => none).map Prod.fst =
        some (some ⟨100, "sshd"⟩) ∧
      ∃ c, app.connections[app.selectedConnectionIdx]? = some c ∧
        (c.pid = some 100 ∨ (fun _ => none : Connection → Option Process) c =
          some ⟨100, "sshd"⟩) := by
  intro ssh
  exact ⟨_, rfl, by decide, @getProcessForSelectedConnection_pid (some (.ok [ssh]))
    [.getProcessForSelectedConnection fun _ => some ⟨100, "sshd"⟩] _ rfl (fun _ => none)
    ⟨100, "sshd"⟩ (by decide)⟩

/-! ## The connection list -/

/-- A connection without the pid and the process name, the two fields the UI's process lookup
writes. -/
def withoutProcess (c : Connection) : Connection :=
  { c with pid := none, processName := none }

/-- The monitor's last list over a run from start-up: the list of `start_capture`, then that of
each tick that gets one; no list if the capture did not start. -/
def lastList (fetched : Option (Except String (List Connection))) (ops : List Op) :
    List Connection :=
  match fetched with
  | some (.ok l) => ops.foldl (fun l op => op.installs.getD l) l
  | _ => []

/-- With the monitor `running` the UI lists `l`, in some order and up to the process fields;
without it, nothing. -/
structure Shows (running : Bool) (l : List Connection) (app : App) : Prop where
  networkMonitor : app.networkMonitor = running
  perm : (app.connections.map withoutProcess).Perm
    ((if running then l else []).map withoutProcess)

/-- Writing the process fields of a listed connection leaves the list up to those fields. -/
theorem map_withoutProcess_set {l : List Connection} {i : Nat} {c : Connection}
    (hc : l[i]? = some c) (pid : Option UInt32) (name : Option String) :
    (l.set i { c with pid := pid, processName := name }).map withoutProcess =
      l.map withoutProcess := by
  rw [List.map_set]
  apply List.ext_getElem?
  intro j
  rw [List.getElem?_set']
  split
  · subst_vars
    simp only [List.getElem?_map, hc, Option.map_some']
    rfl
  · rfl

/-- Every operation lists the monitor's list of a tick that gets one, and otherwise keeps the list
up to the process fields. -/
theorem Op.apply_shows {op : Op} {app app' : App} (h : op.apply app = some app') {running : Bool}
    {l : List Connection} (hs : Shows running l app) :
    Shows running (op.installs.getD l) app' := by
  rcases Op.apply_cases h with ⟨hi, _, _, _, _, -, rfl⟩ | ⟨hi | hm, _, _, rfl⟩ |
    ⟨l', hl, hm, _, _, rfl⟩ | ⟨hi, c, _, hc, rfl⟩
  · rw [hi]
    exact ⟨hs.1, hs.2⟩
  · rw [hi]
    exact ⟨hs.1, hs.2⟩
  · -- without a monitor nothing is listed, whichever list the tick got
    obtain rfl : running = false := hs.1.symm.trans hm
    exact ⟨hs.1, hs.2⟩
  · obtain rfl : running = true := hs.1.symm.trans hm
    rw [hl]
    exact ⟨hm, (List.perm_insertionSort _ l').map _⟩
  · rw [hi]
    exact ⟨hs.1, map_withoutProcess_set hc _ _ ▸ hs.2⟩

theorem Shows.run {app app' : App} {running : Bool} {l : List Connection}
    (hs : Shows running l app) {ops : List Op} (h : run ops app = some app') :
    Shows running (ops.foldl (fun l op => op.installs.getD l) l) app' := by
  induction ops generalizing app l with
  | nil => cases h; exact hs
  | cons op ops ih =>
    obtain ⟨app₁, h₁, h'⟩ := Option.bind_eq_some.mp h
    exact ih (Op.apply_shows h₁ hs) h'

/-- Over every run from start-up the UI lists the monitor's last list, in some order and up to
the pid and the process name the lookup writes: whatever keys, ticks and lookups come between,
no connection of it is lost or listed twice, and none is listed that it does not hold. -/
theorem run_lists_lastList {fetched : Option (Except String (List Connection))} {ops : List Op}
    {app : App} (h : run ops (start fetched) = some app) :
    (app.connections.map withoutProcess).Perm ((lastList fetched ops).map withoutProcess) := by
  rcases fetched with _ | _ | l
  · exact (Shows.run (l := []) ⟨rfl, .refl _⟩ h).perm
  · exact (Shows.run (l := []) ⟨rfl, .refl _⟩ h).perm
  · exact (Shows.run ⟨rfl, .refl _⟩ h).perm

/-- Start-up with an SSH session, a tick that adds a DNS flow, and the lookup of `sshd`: the UI
lists the two flows of the tick. -/
theorem run_lists_lastList_tick :
    ∃ app, run [.onTick (.ok [Connection.new .udp (.v4 ⟨10, 0, 0, 1⟩ 5353) (.v4 ⟨10, 0, 0, 53⟩ 53)
          .unknown 0, Connection.new .tcp (.v4 ⟨10, 0, 0, 1⟩ 22) (.v4 ⟨10, 0, 0, 3⟩ 50000)
          .established 0]),
        .getProcessForSelectedConnection fun _ => some ⟨100, "sshd"⟩]
      (start (some (.ok [Connection.new .tcp (.v4 ⟨10, 0, 0, 1⟩ 22) (.v4 ⟨10, 0, 0, 3⟩ 50000)
        .established 0]))) = some app ∧
      (app.connections.map withoutProcess).Perm
        ([Connection.new .udp (.v4 ⟨10, 0, 0, 1⟩ 5353) (.v4 ⟨10, 0, 0, 53⟩ 53) .unknown 0,
          Connection.new .tcp (.v4 ⟨10, 0, 0, 1⟩ 22) (.v4 ⟨10, 0, 0, 3⟩ 50000)
            .established 0].map withoutProcess) :=
  Exists.imp (fun _ h => ⟨h, run_lists_lastList h⟩) ⟨_, rfl⟩

/-! ## Host names -/

/-- No operation fills the DNS cache: the overview's `d` clears it, and nothing else writes it. -/
theorem Op.apply_dnsCache {op : Op} {app app' : App} (h : op.apply app = some app')
    (hc : app.dnsCache = .empty) : app'.dnsCache = .empty := by
  rcases Op.apply_cases h with ⟨-, _, _, _, _, hd, rfl⟩ | ⟨-, _, _, rfl⟩ | ⟨_, -, -, _, _, rfl⟩ |
    ⟨-, _, _, -, rfl⟩
  · rcases hd with rfl | rfl
    · exact hc
    · rfl
  all_goals exact hc

/-- Nothing fills the DNS cache: over every run from start-up it stays empty, so
`format_socket_addr` never shows a host name from it. With `show_hostnames` on it writes
`localhost` for a loopback address and `*` for an unspecified one, before the port; any other
address, and every address with the option off, it prints as `Display` does. -/
theorem run_formatSocketAddr {fetched : Option (Except String (List Connection))} {ops : List Op}
    {app : App} (h : run ops (start fetched) = some app) (addr : SocketAddr) :
    app.dnsCache = .empty ∧ app.formatSocketAddr addr =
      if app.showHostnames && addr.ip.isLoopback then
        "localhost:".toList ++ displayNat addr.port.toNat
      else if app.showHostnames && addr.ip.isUnspecified then
        "*:".toList ++ displayNat addr.port.toNat
      else addr.display := by
  have hc : app.dnsCache = .empty :=
    run_preserves Op.apply_dnsCache h (by rcases fetched with _ | _ | _ <;> rfl)
  refine ⟨hc, ?_⟩
  unfold formatSocketAddr
  cases app.showHostnames <;> simp [hc]

/-- After `d` at start-up the UI shows host names, and prints `127.0.0.1:8080` as
`localhost:8080`. -/
theorem run_formatSocketAddr_toggled :
    ∃ app, run [.handleKey ⟨.char 'd', false⟩] (start none) = some app ∧
      app.showHostnames = true ∧
      app.formatSocketAddr (.v4 ⟨127, 0, 0, 1⟩ 8080) = "localhost:8080".toList :=
  ⟨_, rfl, rfl, (@run_formatSocketAddr none [.handleKey ⟨.char 'd', false⟩] _ rfl
    (.v4 ⟨127, 0, 0, 1⟩ 8080)).2.trans (by decide)⟩

/-! ## Views -/

end RustNet.App
