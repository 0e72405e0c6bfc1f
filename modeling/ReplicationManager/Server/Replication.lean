import ReplicationManager.Types

namespace ReplicationManager.ServerMonitor

open Go

-- `GetSlaveStatus(name)`: the first channel of that name. A nil list of channels and an
-- empty one fail alike, so the model keeps a plain list.
def getSlaveStatus (server : ServerMonitor) (name : String) : Except String SlaveStatus :=
  match server.replications.find? (·.connectionName == name) with
  | some ss => .ok ss
  | none => .error "Empty replications channels"

-- Falls back to the live channels only when the last-seen slice is nil, not when empty.
def getSlaveStatusLastSeen (server : ServerMonitor) (name : String) :
    Except String SlaveStatus :=
  match server.lastSeenReplications with
  | .nil => server.getSlaveStatus name
  | .make replications =>
      match replications.find? (·.connectionName == name) with
      | some ss => .ok ss
      | none => .error "Empty replications channels"

def getReplicationServerID (server : ServerMonitor) : UInt64 :=
  match server.getSlaveStatus server.replicationSourceName with
  | .error _ => 0
  | .ok ss => ss.masterServerID

def getReplicationDelay (server : ServerMonitor) : BitVec 64 :=
  match server.getSlaveStatus server.replicationSourceName with
  | .error _ => 0
  | .ok ss => if ss.secondsBehindMaster.valid = false then 0 else ss.secondsBehindMaster.int64

def getReplicationMasterHost (server : ServerMonitor) : String :=
  match server.getSlaveStatus server.replicationSourceName with
  | .error _ => ""
  | .ok ss => ss.masterHost

def getReplicationMasterPort (server : ServerMonitor) : String :=
  match server.getSlaveStatus server.replicationSourceName with
  | .error _ => "3306"
  | .ok ss => ss.masterPort

def getReplicationUsingGtid (server : ServerMonitor) : String :=
  if server.mariaDB then
    match server.getSlaveStatus server.replicationSourceName with
    | .error _ => "No"
    | .ok ss => ss.usingGtid
  else if server.haveMySQLGTID then "Yes" else "No"

def isReplicationUsingGtidStrict (server : ServerMonitor) : Bool :=
  if server.mariaDB then mapIndex server.serverVariables "GTID_STRICT_MODE" == "ON" else true

-- The body of the scan in `GetSibling`: `sl` reports upstream `m` and is not `server`.
def siblingCandidate (server : ServerMonitor) (m : UInt64) (sl : ServerMonitor) : Bool :=
  match sl.getSlaveStatus sl.replicationSourceName with
  | .error _ => false
  | .ok sssib => sssib.masterServerID == m && sl.serverID != server.serverID

-- `server.ClusterGroup` is the cluster passed in.
def getSibling (server : ServerMonitor) (cluster : Cluster) : Option ServerMonitor :=
  match server.getSlaveStatus server.replicationSourceName with
  | .error _ => none
  | .ok ssserver => cluster.servers.toList.find? (siblingCandidate server ssserver.masterServerID)

-- `ss` is the first record of channel `name` in `records`.
def FirstRecord (records : List SlaveStatus) (name : String) (ss : SlaveStatus) : Prop :=
  ss.connectionName = name ∧
    ∃ pre post, records = pre ++ ss :: post ∧ ∀ r ∈ pre, r.connectionName ≠ name

-- A node replicates from upstream `m`: the first record of its own channel reports `m`.
def ReportsUpstream (sl : ServerMonitor) (m : UInt64) : Prop :=
  ∃ r, FirstRecord sl.replications sl.replicationSourceName r ∧ r.masterServerID = m

def SameUpstream (a b : ServerMonitor) : Prop :=
  ∃ m, ReportsUpstream a m ∧ ReportsUpstream b m

theorem getSlaveStatus_eq_ok_iff (server : ServerMonitor) (name : String) (ss : SlaveStatus) :
    server.getSlaveStatus name = .ok ss ↔ FirstRecord server.replications name ss := by
  have h : server.getSlaveStatus name = .ok ss ↔
      server.replications.find? (·.connectionName == name) = some ss := by
    unfold getSlaveStatus
    cases server.replications.find? (·.connectionName == name) <;> simp
  simp [h, List.find?_eq_some, FirstRecord]

-- The lookup fails exactly when no record has the name, and its error names no channel.
theorem getSlaveStatus_eq_error_iff (server : ServerMonitor) (name e : String) :
    server.getSlaveStatus name = .error e ↔
      e = "Empty replications channels" ∧ ∀ r ∈ server.replications, r.connectionName ≠ name := by
  unfold getSlaveStatus
  cases hss : server.replications.find? (·.connectionName == name) with
  | some ss =>
      simp only [reduceCtorEq, false_iff, not_and, not_forall, not_not]
      exact fun _ => ⟨ss, List.mem_of_find?_eq_some hss, by simpa using List.find?_some hss⟩
  | none =>
      have hall : ∀ r ∈ server.replications, r.connectionName ≠ name := by simpa using hss
      rw [Except.error.injEq]
      exact ⟨fun h => ⟨h.symm, hall⟩, fun h => h.1.symm⟩

-- Only a node that is not MariaDB answers "Yes" or "No" by itself. A MariaDB node answers
-- with its channel's own `Using_Gtid` text (the server reports `No`, `Current_Pos` or
-- `Slave_Pos`), and "No" when the channel is not found.
theorem getReplicationUsingGtid_spec (server : ServerMonitor) :
    (server.mariaDB = false →
      server.getReplicationUsingGtid = if server.haveMySQLGTID then "Yes" else "No") ∧
    (server.mariaDB = true → ∀ ss, FirstRecord server.replications server.replicationSourceName ss →
      server.getReplicationUsingGtid = ss.usingGtid) ∧
    (server.mariaDB = true →
      (∀ ss ∈ server.replications, ss.connectionName ≠ server.replicationSourceName) →
      server.getReplicationUsingGtid = "No") := by
  refine ⟨fun h => by simp [getReplicationUsingGtid, h], fun h ss hss => ?_, fun h hnone => ?_⟩
  · simp [getReplicationUsingGtid, h, (getSlaveStatus_eq_ok_iff _ _ _).mpr hss]
  · simp [getReplicationUsingGtid, h,
      (getSlaveStatus_eq_error_iff _ _ "Empty replications channels").mpr ⟨rfl, hnone⟩]

example :
    ({ mariaDB := true, replications := [{ usingGtid := "Slave_Pos" }] } : ServerMonitor).getReplicationUsingGtid =
      "Slave_Pos" := by
  decide

-- The last-seen lookup falls back to the live channels only for a nil slice: an empty
-- non-nil one fails even when a live channel of that name exists.
theorem getSlaveStatusLastSeen_eq (server : ServerMonitor) (name : String) :
    (server.lastSeenReplications = .nil →
      server.getSlaveStatusLastSeen name = server.getSlaveStatus name) ∧
    (server.lastSeenReplications = .make [] →
      server.getSlaveStatusLastSeen name = .error "Empty replications channels") :=
  ⟨fun h => by simp [getSlaveStatusLastSeen, h], fun h => by simp [getSlaveStatusLastSeen, h]⟩

theorem reportsUpstream_iff (sl : ServerMonitor) (m : UInt64) :
    ReportsUpstream sl m ↔
      ∃ ss, sl.getSlaveStatus sl.replicationSourceName = .ok ss ∧ ss.masterServerID = m := by
  simp only [ReportsUpstream, getSlaveStatus_eq_ok_iff]

theorem siblingCandidate_iff (server : ServerMonitor) (m : UInt64) (sl : ServerMonitor) :
    siblingCandidate server m sl = true ↔ ReportsUpstream sl m ∧ sl.serverID ≠ server.serverID := by
  rw [reportsUpstream_iff]
  unfold siblingCandidate
  cases sl.getSlaveStatus sl.replicationSourceName <;> simp

theorem getSibling_of_ok {server : ServerMonitor} {ss : SlaveStatus} (cluster : Cluster)
    (h : server.getSlaveStatus server.replicationSourceName = .ok ss) :
    server.getSibling cluster = cluster.servers.toList.find? (siblingCandidate server ss.masterServerID) := by
  simp [getSibling, h]

theorem getSibling_spec (cluster : Cluster) (a : ServerMonitor) :
    ((∀ r ∈ a.replications, r.connectionName ≠ a.replicationSourceName) →
      a.getSibling cluster = none) ∧
    ∀ m, ReportsUpstream a m →
      let Sibling := fun sl : ServerMonitor => ReportsUpstream sl m ∧ sl.serverID ≠ a.serverID
      (∀ b, a.getSibling cluster = some b ↔ Sibling b ∧
        ∃ pre post, cluster.servers.toList = pre ++ b :: post ∧ ∀ x ∈ pre, ¬Sibling x) ∧
      (a.getSibling cluster = none ↔ ∀ sl ∈ cluster.servers.toList, ¬Sibling sl) ∧
      a.getSibling cluster ≠ some a := by
  refine ⟨fun hnone => ?_, fun m hm => ?_⟩
  · simp [getSibling, (getSlaveStatus_eq_error_iff a _ _).mpr ⟨rfl, hnone⟩]
  · obtain ⟨ss, hss, rfl⟩ := (reportsUpstream_iff a m).mp hm
    have hfind := getSibling_of_ok cluster hss
    have hsome : ∀ b, a.getSibling cluster = some b ↔ (ReportsUpstream b ss.masterServerID ∧
        b.serverID ≠ a.serverID) ∧ ∃ pre post, cluster.servers.toList = pre ++ b :: post ∧
          ∀ x ∈ pre, ¬(ReportsUpstream x ss.masterServerID ∧ x.serverID ≠ a.serverID) := by
      intro b
      simp only [hfind, List.find?_eq_some, siblingCandidate_iff, Bool.not_eq_true',
        Bool.eq_false_iff, ne_eq]
    refine ⟨hsome, by simp [hfind, siblingCandidate_iff], fun hself => ?_⟩
    exact ((hsome a).mp hself).1.2 rfl

-- A node reports one upstream at most: the first record of its channel.
theorem reportsUpstream_unique {sl : ServerMonitor} {m m' : UInt64} (h : ReportsUpstream sl m)
    (h' : ReportsUpstream sl m') : m = m' := by
  obtain ⟨ss, hss, rfl⟩ := (reportsUpstream_iff sl m).mp h
  obtain ⟨ss', hss', rfl⟩ := (reportsUpstream_iff sl m').mp h'
  cases hss.symm.trans hss'
  rfl

-- Once `b`'s upstream is known, the scan of `b` looks for the other nodes of that upstream.
theorem siblingCandidate_iff_sameUpstream {b : ServerMonitor} {m : UInt64}
    (hb : ReportsUpstream b m) (y : ServerMonitor) :
    siblingCandidate b m y = true ↔ SameUpstream b y ∧ y.serverID ≠ b.serverID := by
  rw [siblingCandidate_iff]
  exact ⟨fun ⟨hy, hne⟩ => ⟨⟨m, hb, hy⟩, hne⟩,
    fun ⟨⟨m', hb', hy⟩, hne⟩ => ⟨reportsUpstream_unique hb hb' ▸ hy, hne⟩⟩

-- The scan keeps the first candidate in list order: `b`'s sibling is a node of the list on
-- `b`'s upstream, and it is `a` exactly when no candidate of `b` comes before `a`.
theorem getSibling_converse (cluster : Cluster) (a b : ServerMonitor)
    (ha : a ∈ cluster.servers.toList) (h : a.getSibling cluster = some b) :
    let Candidate := fun y : ServerMonitor => SameUpstream b y ∧ y.serverID ≠ b.serverID
    ∃ c, b.getSibling cluster = some c ∧ c ∈ cluster.servers.toList ∧ Candidate c ∧
      (c = a ↔ ∃ pre post, cluster.servers.toList = pre ++ a :: post ∧ ∀ x ∈ pre, ¬Candidate x) := by
  intro Candidate
  cases hsa : a.getSlaveStatus a.replicationSourceName with
  | error e => simp [getSibling, hsa] at h
  | ok ssa =>
      have hma : ReportsUpstream a ssa.masterServerID := (reportsUpstream_iff a _).mpr ⟨ssa, hsa, rfl⟩
      rw [getSibling_of_ok cluster hsa] at h
      obtain ⟨hmb, hba⟩ := (siblingCandidate_iff a _ b).mp (List.find?_some h)
      obtain ⟨ssb, hsb, hssb⟩ := (reportsUpstream_iff b _).mp hmb
      have hcand := siblingCandidate_iff_sameUpstream ((reportsUpstream_iff b _).mpr ⟨ssb, hsb, rfl⟩)
      -- `a` is a candidate of `b`, so the scan of `b` finds one
      have ha' := (hcand a).mpr ⟨⟨_, (reportsUpstream_iff b _).mpr ⟨ssb, hsb, rfl⟩, hssb ▸ hma⟩,
        Ne.symm hba⟩
      obtain ⟨c, hc⟩ := Option.isSome_iff_exists.mp (List.find?_isSome.mpr ⟨a, ha, ha'⟩)
      refine ⟨c, getSibling_of_ok cluster hsb ▸ hc, List.mem_of_find?_eq_some hc,
        (hcand c).mp (List.find?_some hc), ?_⟩
      rw [← Option.some_inj, ← hc, List.find?_eq_some]
      simp only [ha', true_and, Bool.not_eq_true', Bool.eq_false_iff, ne_eq, hcand, Candidate]

theorem getSibling_converse_two_replicas :
    let channel : List SlaveStatus := [{ masterServerID := 7 }]
    let nodeA : ServerMonitor := { url := "db1", serverID := 1, replications := channel }
    let nodeB : ServerMonitor := { url := "db2", serverID := 2, replications := channel }
    let cluster : Cluster := { servers := .make [nodeA, nodeB] }
    (nodeA ∈ cluster.servers.toList ∧ nodeA.getSibling cluster = some nodeB) ∧
    let Candidate := fun y : ServerMonitor => SameUpstream nodeB y ∧ y.serverID ≠ nodeB.serverID
    ∃ c, nodeB.getSibling cluster = some c ∧ c ∈ cluster.servers.toList ∧ Candidate c ∧
      (c = nodeA ↔ ∃ pre post, cluster.servers.toList = pre ++ nodeA :: post ∧
        ∀ x ∈ pre, ¬Candidate x) :=
  ⟨⟨List.mem_cons_self _ _, rfl⟩, getSibling_converse _ _ _ (List.mem_cons_self _ _) rfl⟩

theorem getSibling_three_replicas :
    let channel : List SlaveStatus := [{ masterServerID := 7 }]
    let nodeA : ServerMonitor := { url := "db1", serverID := 1, replications := channel }
    let nodeB : ServerMonitor := { url := "db2", serverID := 2, replications := channel }
    let nodeC : ServerMonitor := { url := "db3", serverID := 3, replications := channel }
    let cluster : Cluster := { servers := .make [nodeA, nodeB, nodeC] }
    nodeC.getSibling cluster = some nodeA ∧ nodeA.getSibling cluster = some nodeB ∧
      nodeB ≠ nodeC :=
  ⟨rfl, rfl, fun h => absurd (congrArg ServerMonitor.serverID h) (by decide)⟩

theorem getReplicationDelay_spec (server : ServerMonitor) :
    (∀ ss, FirstRecord server.replications server.replicationSourceName ss →
      server.getReplicationDelay =
        if ss.secondsBehindMaster.valid then ss.secondsBehindMaster.int64 else 0) ∧
    ((∀ r ∈ server.replications, r.connectionName ≠ server.replicationSourceName) →
      server.getReplicationDelay = 0) ∧
    (server.getReplicationDelay.toInt < 0 ↔
      ∃ ss, FirstRecord server.replications server.replicationSourceName ss ∧
        ss.secondsBehindMaster.valid = true ∧ ss.secondsBehindMaster.int64.toInt < 0) := by
  have h0 : (0 : BitVec 64).toInt = 0 := rfl
  cases hs : server.getSlaveStatus server.replicationSourceName with
  | error e =>
      have hno : ∀ ss, ¬FirstRecord server.replications server.replicationSourceName ss :=
        fun ss h => by simp [(getSlaveStatus_eq_ok_iff server _ ss).mpr h] at hs
      simp [getReplicationDelay, hs, hno, h0, ((getSlaveStatus_eq_error_iff server _ _).mp hs).2]
  | ok ss =>
      have huniq : ∀ ss', FirstRecord server.replications server.replicationSourceName ss' ↔
          ss' = ss := fun ss' => by rw [← getSlaveStatus_eq_ok_iff, hs, Except.ok.injEq, eq_comm]
      have hsome : ¬∀ r ∈ server.replications, r.connectionName ≠ server.replicationSourceName :=
        fun hall => by simp [(getSlaveStatus_eq_error_iff server _ _).mpr ⟨rfl, hall⟩] at hs
      cases hv : ss.secondsBehindMaster.valid <;> simp [getReplicationDelay, hs, hv, huniq, hsome, h0]

theorem getReplicationDelay_negative :
    ({ replications := [{ secondsBehindMaster := { int64 := -1, valid := true } }] } :
      ServerMonitor).getReplicationDelay.toInt = -1 := by decide

end ReplicationManager.ServerMonitor
