import ReplicationManager.Go.Builtin
import ReplicationManager.Go.Strings
import ReplicationManager.Go.Strconv
import ReplicationManager.Types
import ReplicationManager.Cluster.Has
import ReplicationManager.Cluster.Provision
import ReplicationManager.Cluster.Monitor
import ReplicationManager.Cluster.Interleaving
import ReplicationManager.Server.Replication
import ReplicationManager.Server.Status
import ReplicationManager.Server.SlowLog
import ReplicationManager.Server.SlowLogTable
import ReplicationManager.Server.Connection
import ReplicationManager.Server.Metrics
import ReplicationManager.Server.ProcessList
import ReplicationManager.Server.Variables
import ReplicationManager.Server.Config
import ReplicationManager.Server.DynamicConfig
import ReplicationManager.Cluster.Decisions
