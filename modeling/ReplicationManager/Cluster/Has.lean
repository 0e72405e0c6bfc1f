import ReplicationManager.Types
import ReplicationManager.Go.Strings

namespace ReplicationManager.Cluster

open Go

-- Membership goes by URL: ids are not stable when one server sits in two clusters.
def hasServer (cluster : Cluster) (srv : ServerMonitor) : Bool :=
  cluster.servers.toList.any fun sv => sv.url == srv.url

-- The body shared by the four configured host lists: a comma-separated string matched
-- against the node's URL or name.
def isInConfHosts (hosts : String) (server : ServerMonitor) : Bool :=
  (Strings.split hosts ',').any fun ihost => server.url == ihost || server.name == ihost

-- What the shared body decides: the URL or the name is one of the pieces of the list.
def HostListMatch (hosts : String) (server : ServerMonitor) : Prop :=
  server.url ∈ Strings.split hosts ',' ∨ server.name ∈ Strings.split hosts ','

theorem isInConfHosts_iff (hosts : String) (server : ServerMonitor) :
    isInConfHosts hosts server = true ↔ HostListMatch hosts server := by
  simp only [isInConfHosts, HostListMatch, List.any_eq_true, Bool.or_eq_true, beq_iff_eq]
  constructor
  · rintro ⟨ihost, hmem, rfl | rfl⟩
    exacts [.inl hmem, .inr hmem]
  · rintro (h | h)
    exacts [⟨_, h, .inl rfl⟩, ⟨_, h, .inr rfl⟩]

-- `strings.Split("", ",")` is `[""]`: an empty list still matches an empty URL or name.
theorem hostListMatch_empty (server : ServerMonitor) :
    HostListMatch "" server ↔ server.url = "" ∨ server.name = "" := by
  simp only [HostListMatch, Strings.mem_split_empty]

def isInIgnoredHosts (cluster : Cluster) (server : ServerMonitor) : Bool :=
  isInConfHosts cluster.conf.ignoreSrv server

def isInPreferedBackupHosts (cluster : Cluster) (server : ServerMonitor) : Bool :=
  isInConfHosts cluster.conf.backupServers server

def isInIgnoredReadonly (cluster : Cluster) (server : ServerMonitor) : Bool :=
  isInConfHosts cluster.conf.ignoreSrvRO server

def isInPreferedHosts (cluster : Cluster) (server : ServerMonitor) : Bool :=
  isInConfHosts cluster.conf.prefMaster server

def isInCaptureMode (cluster : Cluster) : Bool :=
  if !cluster.conf.monitorCapture || cluster.isNotMonitoring ||
      decide (cluster.servers.toList.length > 0) then false
  else cluster.servers.toList.any (·.inCaptureMode)

def hasAllDbUp (cluster : Cluster) : Bool :=
  match cluster.servers with
  | .nil => false
  | .make servers => servers.all fun s => !(s.state == stateFailed || s.state == stateSuspect)

def hasRequestDBRestart (cluster : Cluster) : Bool :=
  match cluster.servers with
  | .nil => false
  | .make servers => servers.any (·.restartCookie)

-- The two rolling requests differ only in the cookie they read.
def hasRequestDBRolling (cookie : ServerMonitor → Bool) (cluster : Cluster) : Bool :=
  match cluster.servers with
  | .nil => false
  | .make servers => servers.all cookie

def hasRequestDBRollingRestart (cluster : Cluster) : Bool :=
  hasRequestDBRolling (·.restartCookie) cluster

def hasRequestDBRollingReprov (cluster : Cluster) : Bool :=
  hasRequestDBRolling (·.reprovCookie) cluster

-- Unlike `hasRequestDBRestart`, no nil guard.
def hasRequestDBReprov (cluster : Cluster) : Bool :=
  cluster.servers.toList.any (·.reprovCookie)

def hasRequestProxies (cookie : DatabaseProxy → Bool) (cluster : Cluster) : Bool :=
  cluster.proxies.any cookie

def hasRequestProxiesRestart (cluster : Cluster) : Bool :=
  hasRequestProxies (·.restartCookie) cluster

def hasRequestProxiesReprov (cluster : Cluster) : Bool :=
  hasRequestProxies (·.reprovCookie) cluster

def haveDBTag (cluster : Cluster) (tag : String) : Bool :=
  cluster.dbTags.any (· == tag)

theorem isInHostLists_iff (cluster : Cluster) (server : ServerMonitor) :
    (cluster.isInIgnoredHosts server = true ↔ HostListMatch cluster.conf.ignoreSrv server) ∧
    (cluster.isInPreferedBackupHosts server = true ↔
      HostListMatch cluster.conf.backupServers server) ∧
    (cluster.isInIgnoredReadonly server = true ↔ HostListMatch cluster.conf.ignoreSrvRO server) ∧
    (cluster.isInPreferedHosts server = true ↔ HostListMatch cluster.conf.prefMaster server) ∧
    (HostListMatch "" server ↔ server.url = "" ∨ server.name = "") :=
  ⟨isInConfHosts_iff _ _, isInConfHosts_iff _ _, isInConfHosts_iff _ _, isInConfHosts_iff _ _,
    hostListMatch_empty server⟩

theorem isInIgnoredHosts_empty_list_nameless :
    ({ conf := { ignoreSrv := "" } } : Cluster).isInIgnoredHosts
      { url := "db5:3306", name := "" } = true := by decide

-- The length guard returns before the scan whenever there is a node to scan.
theorem isInCaptureMode_eq_false (cluster : Cluster) : cluster.isInCaptureMode = false := by
  unfold isInCaptureMode
  split
  · rfl
  · rename_i h
    simp at h
    simp [h.2]

theorem isInCaptureMode_capturing_node :
    ({ conf := { monitorCapture := true }, servers := .make [{ inCaptureMode := true }] } :
      Cluster).isInCaptureMode = false := by decide

theorem hasAllDbUp_iff (cluster : Cluster) (hslice : cluster.servers ≠ .make []) :
    cluster.hasAllDbUp = true ↔ cluster.servers.toList ≠ [] ∧
      ∀ s ∈ cluster.servers.toList, s.state ≠ stateFailed ∧ s.state ≠ stateSuspect := by
  rcases hs : cluster.servers with _ | ⟨_ | ⟨x, xs⟩⟩
  · simp [hasAllDbUp, hs]
  · exact absurd hs hslice
  · simp [hasAllDbUp, hs, not_or]

theorem hasRequestDBRolling_iff (cookie : ServerMonitor → Bool) (cluster : Cluster)
    (hslice : cluster.servers ≠ .make []) :
    hasRequestDBRolling cookie cluster = true ↔ cluster.servers.toList ≠ [] ∧
      ∀ s ∈ cluster.servers.toList, cookie s = true := by
  rcases hs : cluster.servers with _ | ⟨_ | ⟨x, xs⟩⟩
  · simp [hasRequestDBRolling, hs]
  · exact absurd hs hslice
  · simp [hasRequestDBRolling, hs]

-- The nil guard of `hasRequestDBRestart` changes nothing: a nil slice has no node.
theorem hasRequestDBRestart_eq (cluster : Cluster) :
    cluster.hasRequestDBRestart = cluster.servers.toList.any (·.restartCookie) := by
  unfold hasRequestDBRestart
  split <;> simp_all

-- On a nil or non-empty slice a rolling request implies the single-node one.
theorem hasRequestDB_of_rolling (cookie : ServerMonitor → Bool) (cluster : Cluster)
    (hslice : cluster.servers ≠ .make []) (h : hasRequestDBRolling cookie cluster = true) :
    cluster.servers.toList.any cookie = true := by
  obtain ⟨hne, hall⟩ := (hasRequestDBRolling_iff cookie cluster hslice).mp h
  obtain ⟨x, hx⟩ := List.exists_mem_of_ne_nil _ hne
  exact List.any_eq_true.mpr ⟨x, hx, hall x hx⟩

-- A node's restart cookie once the `i`-th node's has been cleared.
theorem restartCookie_set_cleared (servers : List ServerMonitor)
    (hall : ∀ s ∈ servers, s.restartCookie = true) (i j : Nat) (hi : i < servers.length)
    (hj : j < (servers.set i { servers[i] with restartCookie := false }).length) :
    (servers.set i { servers[i] with restartCookie := false })[j].restartCookie = true ↔ j ≠ i := by
  rw [List.getElem_set]
  by_cases hij : i = j
  · simp [hij]
  · simp only [hij, if_false, ne_eq, Ne.symm hij, not_false_eq_true, iff_true]
    exact hall _ (List.getElem_mem _)

-- With every node asking for a restart the rolling request holds; clearing one node's
-- cookie withdraws it, and the single-node request survives exactly when another node is
-- left to carry it, on a cluster of two nodes or more.
theorem rolling_restart_clear_one (cluster : Cluster) (servers : List ServerMonitor)
    (hall : ∀ s ∈ servers, s.restartCookie = true) (i : Nat) (hi : i < servers.length) :
    let cleared := servers.set i { servers[i] with restartCookie := false }
    hasRequestDBRollingRestart { cluster with servers := .make servers } = true ∧
    hasRequestDBRollingRestart { cluster with servers := .make cleared } = false ∧
    (hasRequestDBRestart { cluster with servers := .make cleared } = true ↔
      2 ≤ servers.length) := by
  intro cleared
  have hcookie := restartCookie_set_cleared servers hall i
  have hlen : cleared.length = servers.length := List.length_set ..
  simp only [hasRequestDBRollingRestart, hasRequestDBRolling, hasRequestDBRestart,
    List.all_eq_true, List.any_eq_true, List.mem_iff_getElem]
  refine ⟨fun s hs => hall s (List.mem_iff_getElem.mpr hs), ?_, ?_⟩
  · refine Bool.eq_false_iff.mpr fun h => ?_
    have hi' : i < cleared.length := by omega
    exact absurd rfl ((hcookie i hi hi').mp (List.all_eq_true.mp h _ (List.getElem_mem hi')))
  · constructor
    · rintro ⟨_, ⟨j, hj, rfl⟩, hx⟩
      have := (hcookie j hi hj).mp hx
      omega
    · intro h2
      have hj : (if i = 0 then 1 else 0) < cleared.length := by split <;> omega
      exact ⟨_, ⟨_, hj, rfl⟩, (hcookie _ hi hj).mpr (by split <;> omega)⟩

theorem rolling_restart_clear_one_pair :
    let servers : List ServerMonitor :=
      [{ url := "db1", restartCookie := true }, { url := "db2", restartCookie := true }]
    ((∀ s ∈ servers, s.restartCookie = true) ∧ 0 < servers.length) ∧
    let cleared := servers.set 0 { servers[0] with restartCookie := false }
    hasRequestDBRollingRestart { servers := .make servers } = true ∧
    hasRequestDBRollingRestart { servers := .make cleared } = false ∧
    (hasRequestDBRestart { servers := .make cleared } = true ↔ 2 ≤ servers.length) :=
  ⟨⟨by decide, by decide⟩, rolling_restart_clear_one {} _ (by decide) 0 (by decide)⟩

-- At the empty non-nil slice the nil guards let every universal loop through.
theorem rolling_requests_on_empty_slice :
    let cluster : Cluster := { servers := .make [] }
    cluster.hasAllDbUp = true ∧ cluster.hasRequestDBRollingRestart = true ∧
      cluster.hasRequestDBRollingReprov = true ∧ cluster.hasRequestDBRestart = false ∧
      cluster.hasRequestDBReprov = false := by decide

end ReplicationManager.Cluster
