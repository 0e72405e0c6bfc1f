import Mathlib.Data.List.AList
import Mathlib.Data.BitVec
import ReplicationManager.Go.Builtin

namespace ReplicationManager

open Go

/-- Modelled from the spec: the `stateFailed` node state, whose value is defined outside
the sources. -/
def stateFailed : String := "Failed"

/-- Modelled from the spec: the `stateSuspect` node state, whose value is defined outside
the sources. -/
def stateSuspect : String := "Suspect"

/-- Modelled from the spec: `config.ConstOrchestratorOnPremise`, the provisioning backend
value that leaves provisioning to the operator. -/
def constOrchestratorOnPremise : String := "onpremise"

-- `sql.NullInt64`; `int64` is the 64-bit two's complement word.
structure NullInt64 where
  int64 : BitVec 64 := 0
  valid : Bool := false
  deriving DecidableEq, Repr

-- `dbhelper.SlaveStatus`: one replication channel as a node reports it. Of the nullable
-- strings the code reads only `.String`, so those fields are plain strings here.
structure SlaveStatus where
  connectionName : String := ""
  masterHost : String := ""
  masterPort : String := ""
  masterServerID : UInt64 := 0
  secondsBehindMaster : NullInt64 := {}
  usingGtid : String := ""
  deriving DecidableEq, Repr

-- `sql.NullString`
structure NullString where
  string : String := ""
  valid : Bool := false
  deriving DecidableEq, Repr

-- `sql.NullFloat64`; a Go `float64` is an IEEE double, as Lean's `Float` is.
structure NullFloat64 where
  float64 : Float := 0
  valid : Bool := false
  deriving Repr

-- `dbhelper.Processlist`, the columns the replication scan reads.
structure Processlist where
  command : String := ""
  state : NullString := {}
  time : NullFloat64 := {}
  info : NullString := {}
  deriving Repr

-- One event of the node's slow-query log buffer.
structure SlowLogEntry where
  query : String := ""
  digest : String := ""
  db : String := ""
  timestamp : String := ""
  deriving DecidableEq, Repr

-- `dbhelper.PFSQuery`, the fields the slow-log aggregation fills outside its float timings.
structure PFSQuery where
  digest : String := ""
  digestText : String := ""
  query : String := ""
  schemaName : String := ""
  lastSeen : String := ""
  execCount : Nat := 0
  deriving DecidableEq, Repr

-- `dbhelper.Variable`
structure Variable where
  variableName : String
  value : String
  deriving DecidableEq, Repr

-- `ConstTLSCurrentConfig`, `ConstTLSOldConfig`, `ConstTLSNoConfig`
inductive TLSConfig where
  | current
  | old
  | none
  deriving DecidableEq, Repr

-- The fields of `ServerMonitor` the modelled functions read. The three cookies are files
-- in the node's data directory; the model keeps whether each one exists.
structure ServerMonitor where
  url : String := ""
  name : String := ""
  state : String := ""
  serverID : UInt64 := 0
  replicationSourceName : String := ""
  replications : List SlaveStatus := []
  lastSeenReplications : GoSlice SlaveStatus := .nil
  inCaptureMode : Bool := false
  isCompute : Bool := false
  provisionCookie : Bool := false
  restartCookie : Bool := false
  reprovCookie : Bool := false
  -- `Variables`, a command keyword in Lean
  serverVariables : AList (fun _ : String => String) := ∅
  status : AList (fun _ : String => String) := ∅
  prevStatus : AList (fun _ : String => String) := ∅
  engineInnoDB : AList (fun _ : String => String) := ∅
  slowLogBuffer : List SlowLogEntry := []
  tlsConfigUsed : TLSConfig := .current
  dsn : String := ""
  datadir : String := ""
  slapOSDatadir : String := ""
  fullProcessList : List Processlist := []
  -- `IsMariaDB()`, read from the node's version outside the sources
  mariaDB : Bool := false
  haveMySQLGTID : Bool := false

-- A proxy behind the `DatabaseProxy` interface, through the methods the cluster calls.
structure DatabaseProxy where
  state : String := ""
  provisionCookie : Bool := false
  restartCookie : Bool := false
  reprovCookie : Bool := false
  deriving DecidableEq, Repr

-- `config.Config`, the settings the modelled functions read.
structure Config where
  provOrchestrator : String := ""
  hosts : String := ""
  ignoreSrv : String := ""
  backupServers : String := ""
  ignoreSrvRO : String := ""
  prefMaster : String := ""
  monitorCapture : Bool := false
  masterSlavePgStream : Bool := false
  masterSlavePgLogical : Bool := false
  monitorProcessList : Bool := false
  failMaxDelay : BitVec 64 := 0
  deriving DecidableEq, Repr

-- A variable of a ruleset of the cluster's database module. Its `Class` is a keyword in
-- Lean, hence `variableClass`.
structure RuleVariable where
  variableClass : String := ""
  value : String := ""
  deriving DecidableEq, Repr

-- `Variables` is a command keyword in Lean, hence `ruleVariables`.
structure Ruleset where
  name : String := ""
  filter : String := ""
  ruleVariables : List RuleVariable := []
  deriving DecidableEq, Repr

-- The database module of the cluster, through its rulesets.
structure DBModule where
  rulesets : List Ruleset := []
  deriving DecidableEq, Repr

structure Cluster where
  conf : Config := {}
  servers : GoSlice ServerMonitor := .nil
  proxies : List DatabaseProxy := []
  isNotMonitoring : Bool := false
  dbTags : List String := []
  haveDBTLSCert : Bool := false
  dbModule : DBModule := {}

end ReplicationManager
