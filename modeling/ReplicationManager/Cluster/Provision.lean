import ReplicationManager.Types

namespace ReplicationManager.Cluster

open Go

section Scan

variable {α : Type} (hasCookie running : α → Bool) (setCookie : α → α) (logLine : α → String)

-- One loop of `IsProvisioned`, over the nodes or over the proxies: whether every member
-- had a cookie or was reachable, the members after the cookie writes, and the log lines.
-- The first member with neither ends the loop and the call.
def provisionScan : List α → Bool × List α × List String
  | [] => (true, [], [])
  | x :: xs =>
      if hasCookie x then
        let r := provisionScan xs
        (r.1, x :: r.2.1, r.2.2)
      else if running x then
        let r := provisionScan xs
        (r.1, setCookie x :: r.2.1, logLine x :: r.2.2)
      else (false, x :: xs, [])

-- What the loop does to the members: the longest prefix in which each member has a
-- cookie or is running gets its missing cookies; from the first other member on, nothing
-- changes.
def provisionPrefix (xs : List α) : List α :=
  (xs.takeWhile fun x => hasCookie x || running x).map
      (fun x => if hasCookie x then x else setCookie x) ++
    xs.dropWhile fun x => hasCookie x || running x

theorem provisionPrefix_cons (x : α) (xs : List α) :
    provisionPrefix hasCookie running setCookie (x :: xs) =
      if hasCookie x then x :: provisionPrefix hasCookie running setCookie xs
      else if running x then setCookie x :: provisionPrefix hasCookie running setCookie xs
      else x :: xs := by
  by_cases hc : hasCookie x <;> by_cases hr : running x <;>
    simp [provisionPrefix, List.takeWhile_cons, List.dropWhile_cons, hc, hr]

theorem length_provisionPrefix (xs : List α) :
    (provisionPrefix hasCookie running setCookie xs).length = xs.length := by
  induction xs with
  | nil => rfl
  | cons x xs ih =>
      rw [provisionPrefix_cons]
      split_ifs <;> simp [ih]

theorem provisionScan_fst (xs : List α) :
    (provisionScan hasCookie running setCookie logLine xs).1 =
      xs.all fun x => hasCookie x || running x := by
  induction xs with
  | nil => rfl
  | cons x xs ih =>
      by_cases hc : hasCookie x <;> by_cases hr : running x <;> simp [provisionScan, hc, hr, ih]

theorem provisionScan_members (xs : List α) :
    (provisionScan hasCookie running setCookie logLine xs).2.1 =
      provisionPrefix hasCookie running setCookie xs := by
  induction xs with
  | nil => rfl
  | cons x xs ih =>
      rw [provisionPrefix_cons]
      by_cases hc : hasCookie x <;> by_cases hr : running x <;> simp [provisionScan, hc, hr, ih]

-- A fleet where every member already has its cookie is left as it is.
theorem provisionScan_of_cookies (xs : List α) (hall : ∀ x ∈ xs, hasCookie x = true) :
    provisionScan hasCookie running setCookie logLine xs = (true, xs, []) := by
  induction xs with
  | nil => rfl
  | cons x xs ih =>
      simp only [List.mem_cons, forall_eq_or_imp] at hall
      simp [provisionScan, hall.1, ih hall.2]

-- Whatever does not read the cookie sees the members as they were.
theorem map_provisionPrefix {β : Type} (f : α → β) (hf : ∀ x, f (setCookie x) = f x)
    (xs : List α) : (provisionPrefix hasCookie running setCookie xs).map f = xs.map f := by
  induction xs with
  | nil => rfl
  | cons x xs ih =>
      rw [provisionPrefix_cons]
      split_ifs <;> simp [ih, hf]

variable {hasCookie running setCookie}
variable (hset : ∀ x, hasCookie (setCookie x) = true)
include hset

-- When every member is provisioned or running, every member ends with a cookie.
theorem cookie_of_mem_provisionPrefix {xs : List α}
    (hready : (xs.all fun x => hasCookie x || running x) = true) :
    ∀ y ∈ provisionPrefix hasCookie running setCookie xs, hasCookie y = true := by
  induction xs with
  | nil => simp [provisionPrefix]
  | cons x xs ih =>
      simp only [List.all_cons, Bool.and_eq_true] at hready
      rw [provisionPrefix_cons]
      by_cases hc : hasCookie x <;> by_cases hr : running x <;>
        simp_all

-- A second scan over the result finds every member of the prefix provisioned: it writes
-- nothing, logs nothing and returns the same answer.
theorem provisionScan_provisionPrefix (xs : List α) :
    provisionScan hasCookie running setCookie logLine
        (provisionPrefix hasCookie running setCookie xs) =
      (xs.all fun x => hasCookie x || running x,
        provisionPrefix hasCookie running setCookie xs, []) := by
  induction xs with
  | nil => rfl
  | cons x xs ih =>
      rw [provisionPrefix_cons]
      by_cases hc : hasCookie x <;> by_cases hr : running x <;>
        simp [provisionScan, hc, hr, ih, hset]

-- No cookie is ever removed.
theorem provisionPrefix_keeps_cookie (xs : List α) :
    List.Forall₂ (fun a b => hasCookie a = true → hasCookie b = true) xs
      (provisionPrefix hasCookie running setCookie xs) := by
  induction xs with
  | nil => exact .nil
  | cons x xs ih =>
      rw [provisionPrefix_cons]
      by_cases hc : hasCookie x <;> by_cases hr : running x <;>
        simp only [hc, hr, ite_true, ite_false, Bool.false_eq_true]
      all_goals first
        | exact .cons (fun h => h) ih
        | exact .cons (fun _ => hset x) ih
        | exact List.forall₂_same.mpr fun _ _ h => h

end Scan

def ServerMonitor.setProvisionCookie (db : ServerMonitor) : ServerMonitor :=
  { db with provisionCookie := true }

def DatabaseProxy.setProvisionCookie (px : DatabaseProxy) : DatabaseProxy :=
  { px with provisionCookie := true }

section IsProvisioned

-- `IsRunning` reads the health state that the failover state machine writes; `running`
-- is that machine's classification of the states.
variable (running : String → Bool)

def provisionServers : List ServerMonitor → Bool × List ServerMonitor × List String :=
  provisionScan (·.provisionCookie) (fun db => running db.state)
    ServerMonitor.setProvisionCookie (fun db => "Can DB Connect creating cookie state:" ++ db.state)

def provisionProxies : List DatabaseProxy → Bool × List DatabaseProxy × List String :=
  provisionScan (·.provisionCookie) (fun px => running px.state)
    DatabaseProxy.setProvisionCookie (fun px => "Can Proxy Connect creating cookie state:" ++ px.state)

-- The answer, the cluster after the cookie writes, and the log lines.
def isProvisioned (cluster : Cluster) : Bool × Cluster × List String :=
  if cluster.conf.provOrchestrator = constOrchestratorOnPremise then (true, cluster, [])
  else if cluster.conf.hosts = "" then (false, cluster, [])
  else
    let db := provisionServers running cluster.servers.toList
    let cluster := { cluster with servers := cluster.servers.setElems db.2.1 }
    if !db.1 then (false, cluster, db.2.2)
    else
      let px := provisionProxies running cluster.proxies
      (px.1, { cluster with proxies := px.2.1 }, db.2.2 ++ px.2.2)

-- The members whose cookies the call leaves set, stated without the loop.
def provisionedServers (servers : List ServerMonitor) : List ServerMonitor :=
  provisionPrefix (·.provisionCookie) (fun db => running db.state)
    ServerMonitor.setProvisionCookie servers

def provisionedProxies (proxies : List DatabaseProxy) : List DatabaseProxy :=
  provisionPrefix (·.provisionCookie) (fun px => running px.state)
    DatabaseProxy.setProvisionCookie proxies

-- Outside the fleet scan the call writes nothing: on-premise answers true, and an empty
-- host list answers false.
theorem isProvisioned_of_unmanaged (cluster : Cluster) :
    (cluster.conf.provOrchestrator = constOrchestratorOnPremise →
      isProvisioned running cluster = (true, cluster, [])) ∧
    (cluster.conf.provOrchestrator ≠ constOrchestratorOnPremise → cluster.conf.hosts = "" →
      isProvisioned running cluster = (false, cluster, [])) :=
  ⟨fun h => by simp [isProvisioned, h], fun h hh => by simp [isProvisioned, h, hh]⟩

theorem provisionServers_fst (servers : List ServerMonitor) :
    (provisionServers running servers).1 =
      servers.all fun db => db.provisionCookie || running db.state :=
  provisionScan_fst _ _ _ _ servers

theorem provisionServers_members (servers : List ServerMonitor) :
    (provisionServers running servers).2.1 = provisionedServers running servers :=
  provisionScan_members _ _ _ _ servers

theorem provisionServers_provisionedServers (servers : List ServerMonitor) :
    provisionServers running (provisionedServers running servers) =
      (servers.all fun db => db.provisionCookie || running db.state,
        provisionedServers running servers, []) :=
  provisionScan_provisionPrefix _ (fun _ => rfl) servers

theorem provisionProxies_fst (proxies : List DatabaseProxy) :
    (provisionProxies running proxies).1 =
      proxies.all fun px => px.provisionCookie || running px.state :=
  provisionScan_fst _ _ _ _ proxies

theorem provisionProxies_members (proxies : List DatabaseProxy) :
    (provisionProxies running proxies).2.1 = provisionedProxies running proxies :=
  provisionScan_members _ _ _ _ proxies

theorem provisionProxies_provisionedProxies (proxies : List DatabaseProxy) :
    provisionProxies running (provisionedProxies running proxies) =
      (proxies.all fun px => px.provisionCookie || running px.state,
        provisionedProxies running proxies, []) :=
  provisionScan_provisionPrefix _ (fun _ => rfl) proxies

theorem isProvisioned_spec (cluster : Cluster)
    (hprem : cluster.conf.provOrchestrator ≠ constOrchestratorOnPremise)
    (hhosts : cluster.conf.hosts ≠ "") :
    let after := (isProvisioned running cluster).2.1
    ((isProvisioned running cluster).1 = true ↔
      (∀ db ∈ cluster.servers.toList, db.provisionCookie = true ∨ running db.state = true) ∧
      ∀ px ∈ cluster.proxies, px.provisionCookie = true ∨ running px.state = true) ∧
    after = { cluster with
      servers := cluster.servers.setElems (provisionedServers running cluster.servers.toList)
      proxies :=
        if cluster.servers.toList.all fun db => db.provisionCookie || running db.state
        then provisionedProxies running cluster.proxies else cluster.proxies } ∧
    List.Forall₂ (fun a b => a.provisionCookie = true → b.provisionCookie = true)
      cluster.servers.toList after.servers.toList ∧
    List.Forall₂ (fun a b => a.provisionCookie = true → b.provisionCookie = true)
      cluster.proxies after.proxies ∧
    isProvisioned running after = ((isProvisioned running cluster).1, after, []) := by
  have hlen : (provisionedServers running cluster.servers.toList).length =
      cluster.servers.toList.length := length_provisionPrefix _ _ _ _
  have hkdb : List.Forall₂ (fun a b : ServerMonitor => a.provisionCookie = true → b.provisionCookie = true)
      cluster.servers.toList (provisionedServers running cluster.servers.toList) :=
    provisionPrefix_keeps_cookie (fun _ => rfl) _
  have hkpx : List.Forall₂ (fun a b : DatabaseProxy => a.provisionCookie = true → b.provisionCookie = true)
      cluster.proxies (provisionedProxies running cluster.proxies) :=
    provisionPrefix_keeps_cookie (fun _ => rfl) _
  by_cases hdb : (cluster.servers.toList.all fun db => db.provisionCookie || running db.state) = true
  · simp [isProvisioned, hprem, hhosts, provisionServers_fst, provisionServers_members, hdb,
      provisionProxies_fst, provisionProxies_members, GoSlice.toList_setElems _ _ hlen, hkdb, hkpx,
      provisionServers_provisionedServers, provisionProxies_provisionedProxies]
    exact fun _ => by simpa using hdb
  · simp [isProvisioned, hprem, hhosts, provisionServers_fst, provisionServers_members, hdb,
      GoSlice.toList_setElems _ _ hlen, hkdb, List.forall₂_same,
      provisionServers_provisionedServers]
    exact fun h => absurd (by simpa using h) hdb

end IsProvisioned

theorem isProvisioned_spec_fleet :
    let running : String → Bool := (· == "Running")
    let cluster : Cluster :=
      { conf := { provOrchestrator := "opensvc", hosts := "db1,db2" }
        servers := .make [{ url := "db1", state := "Running" }, { url := "db2", state := "Failed" }]
        proxies := [{ state := "Running" }] }
    (cluster.conf.provOrchestrator ≠ constOrchestratorOnPremise ∧ cluster.conf.hosts ≠ "") ∧
    let after := (isProvisioned running cluster).2.1
    ((isProvisioned running cluster).1 = true ↔
      (∀ db ∈ cluster.servers.toList, db.provisionCookie = true ∨ running db.state = true) ∧
      ∀ px ∈ cluster.proxies, px.provisionCookie = true ∨ running px.state = true) ∧
    after = { cluster with
      servers := cluster.servers.setElems (provisionedServers running cluster.servers.toList)
      proxies :=
        if cluster.servers.toList.all fun db => db.provisionCookie || running db.state
        then provisionedProxies running cluster.proxies else cluster.proxies } ∧
    List.Forall₂ (fun a b => a.provisionCookie = true → b.provisionCookie = true)
      cluster.servers.toList after.servers.toList ∧
    List.Forall₂ (fun a b => a.provisionCookie = true → b.provisionCookie = true)
      cluster.proxies after.proxies ∧
    isProvisioned running after = ((isProvisioned running cluster).1, after, []) :=
  ⟨⟨by decide, by decide⟩, isProvisioned_spec _ _ (by decide) (by decide)⟩

end ReplicationManager.Cluster
