import ReplicationManager.Cluster.Has
import ReplicationManager.Cluster.Provision
import ReplicationManager.Server.Replication
import ReplicationManager.Server.Config

namespace ReplicationManager.Cluster

open Go

-- What the failover state machine reads from the aggregate layer in one tick. Nodes are
-- identified by URL, so a resolved sibling is read as its URL.
structure Decisions where
  hasAllDbUp : Bool
  hasRequestDBRestart : Bool
  hasRequestDBRollingRestart : Bool
  hasRequestDBRollingReprov : Bool
  hasRequestDBReprov : Bool
  hasRequestProxiesRestart : Bool
  hasRequestProxiesReprov : Bool
  isInCaptureMode : Bool
  hasServer : ServerMonitor → Bool
  isInIgnoredHosts : ServerMonitor → Bool
  isInPreferedBackupHosts : ServerMonitor → Bool
  isInIgnoredReadonly : ServerMonitor → Bool
  isInPreferedHosts : ServerMonitor → Bool
  haveDBTag : String → Bool
  isFilterInTags : ServerMonitor → String → Bool
  sibling : ServerMonitor → Option String

def decisions (cluster : Cluster) : Decisions where
  hasAllDbUp := cluster.hasAllDbUp
  hasRequestDBRestart := cluster.hasRequestDBRestart
  hasRequestDBRollingRestart := cluster.hasRequestDBRollingRestart
  hasRequestDBRollingReprov := cluster.hasRequestDBRollingReprov
  hasRequestDBReprov := cluster.hasRequestDBReprov
  hasRequestProxiesRestart := cluster.hasRequestProxiesRestart
  hasRequestProxiesReprov := cluster.hasRequestProxiesReprov
  isInCaptureMode := cluster.isInCaptureMode
  hasServer srv := cluster.hasServer srv
  isInIgnoredHosts server := cluster.isInIgnoredHosts server
  isInPreferedBackupHosts server := cluster.isInPreferedBackupHosts server
  isInIgnoredReadonly server := cluster.isInIgnoredReadonly server
  isInPreferedHosts server := cluster.isInPreferedHosts server
  haveDBTag tag := cluster.haveDBTag tag
  isFilterInTags server filter := server.isFilterInTags cluster filter
  sibling server := (server.getSibling cluster).map (·.url)

-- The cluster with every provision cookie cleared: what is left once the cookies
-- `IsProvisioned` writes are ignored.
def ServerMonitor.forgetProvision (db : ServerMonitor) : ServerMonitor :=
  { db with provisionCookie := false }

def DatabaseProxy.forgetProvision (px : DatabaseProxy) : DatabaseProxy :=
  { px with provisionCookie := false }

def forgetProvision (cluster : Cluster) : Cluster :=
  { cluster with
    servers := cluster.servers.map ServerMonitor.forgetProvision
    proxies := cluster.proxies.map DatabaseProxy.forgetProvision }

@[simp] theorem siblingCandidate_forgetProvision (server : ServerMonitor) (m : UInt64)
    (sl : ServerMonitor) :
    server.siblingCandidate m { sl with provisionCookie := false } =
      server.siblingCandidate m sl :=
  rfl

theorem getSibling_forgetProvision (server : ServerMonitor) (cluster : Cluster) :
    server.getSibling cluster.forgetProvision =
      (server.getSibling cluster).map ServerMonitor.forgetProvision := by
  unfold ServerMonitor.getSibling
  split <;> simp [forgetProvision, List.find?_map, Function.comp_def, ServerMonitor.forgetProvision]

-- No decision reads a provision cookie.
theorem decisions_forgetProvision (cluster : Cluster) :
    decisions cluster.forgetProvision = decisions cluster := by
  simp only [decisions, getSibling_forgetProvision, Option.map_map]
  rcases hs : cluster.servers with _ | servers <;>
    simp [forgetProvision, hs, GoSlice.map, hasAllDbUp, hasRequestDBRestart,
      hasRequestDBRollingRestart, hasRequestDBRollingReprov, hasRequestDBRolling,
      hasRequestDBReprov, hasRequestProxiesRestart, hasRequestProxiesReprov, hasRequestProxies,
      isInCaptureMode, hasServer, isInIgnoredHosts, isInPreferedBackupHosts, isInIgnoredReadonly,
      isInPreferedHosts, haveDBTag, ServerMonitor.isFilterInTags, getDatabaseTags,
      Function.comp_def, ServerMonitor.forgetProvision, DatabaseProxy.forgetProvision]

-- `IsProvisioned` changes nothing but provision cookies.
theorem forgetProvision_isProvisioned (running : String → Bool) (cluster : Cluster) :
    (isProvisioned running cluster).2.1.forgetProvision = cluster.forgetProvision := by
  have hdb := GoSlice.map_setElems ServerMonitor.forgetProvision cluster.servers
    (map_provisionPrefix (·.provisionCookie) (fun db => running db.state)
      ServerMonitor.setProvisionCookie ServerMonitor.forgetProvision (fun _ => rfl) _)
  have hpx := map_provisionPrefix (·.provisionCookie) (fun px => running px.state)
    DatabaseProxy.setProvisionCookie DatabaseProxy.forgetProvision (fun _ => rfl) cluster.proxies
  unfold isProvisioned
  split_ifs
  · rfl
  · rfl
  · dsimp only
    split <;> simp [forgetProvision, provisionServers_members, provisionProxies_members,
      provisionedServers, provisionedProxies, hdb, hpx]

-- The cookie writes of `IsProvisioned`, the one side effect of the aggregate layer, are
-- invisible in everything the failover state machine reads from it.
theorem decisions_isProvisioned (running : String → Bool) (cluster : Cluster) :
    decisions (isProvisioned running cluster).2.1 = decisions cluster := by
  rw [← decisions_forgetProvision, forgetProvision_isProvisioned, decisions_forgetProvision]

end ReplicationManager.Cluster
