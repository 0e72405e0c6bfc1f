import ReplicationManager.Types
import ReplicationManager.Go.Strings

namespace ReplicationManager.ServerMonitor

open Go

-- The loop of `GetProcessListReplicationLongQuery`: a busy replication worker whose query runs
-- longer than `FailMaxDelay` returns that query, when it is known; any other entry, a worker
-- whose `Info` is NULL included, goes on to the next.
def longQueryScan (conf : Config) : List Processlist → String
  | [] => ""
  | q :: qs =>
      if Strings.hasPrefix q.command "Slave_worker" && q.state.valid &&
          !Strings.hasPrefix q.state.string "Waiting" then
        if q.time.valid && conf.failMaxDelay != -1 &&
            q.time.float64 > Float.ofInt conf.failMaxDelay.toInt then
          if q.info.valid then q.info.string else longQueryScan conf qs
        else longQueryScan conf qs
      else longQueryScan conf qs

def getProcessListReplicationLongQuery (server : ServerMonitor) (cluster : Cluster) : String :=
  if !cluster.conf.monitorProcessList then "" else longQueryScan cluster.conf server.fullProcessList

-- What makes an entry end the scan.
def longReplicationQuery (conf : Config) (q : Processlist) : Bool :=
  (Strings.hasPrefix q.command "Slave_worker" && q.state.valid &&
      !Strings.hasPrefix q.state.string "Waiting") &&
    (q.time.valid && conf.failMaxDelay != -1 &&
      q.time.float64 > Float.ofInt conf.failMaxDelay.toInt) &&
    q.info.valid

theorem longQueryScan_eq (conf : Config) (l : List Processlist) :
    longQueryScan conf l = ((l.find? (longReplicationQuery conf)).map (·.info.string)).getD "" := by
  induction l with
  | nil => rfl
  | cons q qs ih =>
      rw [longQueryScan, List.find?_cons, longReplicationQuery]
      cases Strings.hasPrefix q.command "Slave_worker" && q.state.valid &&
          !Strings.hasPrefix q.state.string "Waiting" <;>
        cases q.time.valid && conf.failMaxDelay != -1 &&
          q.time.float64 > Float.ofInt conf.failMaxDelay.toInt <;>
        cases q.info.valid <;> simp [ih]

-- The query returned is that of the first entry that qualifies, read in the order of the
-- process list; with `FailMaxDelay` at -1 no entry qualifies.
theorem getProcessListReplicationLongQuery_eq (server : ServerMonitor) (cluster : Cluster) :
    getProcessListReplicationLongQuery server cluster =
      (if cluster.conf.monitorProcessList then
        ((server.fullProcessList.find? (longReplicationQuery cluster.conf)).map
          (·.info.string)).getD ""
      else "") ∧
    (cluster.conf.failMaxDelay = -1 → getProcessListReplicationLongQuery server cluster = "") := by
  rw [getProcessListReplicationLongQuery, longQueryScan_eq]
  refine ⟨by cases cluster.conf.monitorProcessList <;> rfl, fun hoff => ?_⟩
  have hnone : server.fullProcessList.find? (longReplicationQuery cluster.conf) = none :=
    List.find?_eq_none.mpr fun q _ => by simp [longReplicationQuery, hoff]
  simp [hnone]

end ReplicationManager.ServerMonitor
