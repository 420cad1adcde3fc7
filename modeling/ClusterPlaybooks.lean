import ClusterPlaybooks.Ansible.Outline
import ClusterPlaybooks.Ansible.History
import ClusterPlaybooks.Text.ConfigFile
import ClusterPlaybooks.Text.LooseVersion
import ClusterPlaybooks.Service.Modules
import ClusterPlaybooks.Text.Address
import ClusterPlaybooks.ZooKeeper.Templates
import ClusterPlaybooks.Service.Roles
import ClusterPlaybooks.ZooKeeper.Playbooks
import ClusterPlaybooks.Service.RollingUpdate
import ClusterPlaybooks.ZooKeeper.QuorumTls
import ClusterPlaybooks.ZooKeeper.MtlsRerun
import ClusterPlaybooks.ZooKeeper.MtlsUpload
import ClusterPlaybooks.ZooKeeper.QuorumSasl
import ClusterPlaybooks.ZooKeeper.KeyStores
import ClusterPlaybooks.ZooKeeper.StoreSupply
import ClusterPlaybooks.ZooKeeper.StoreHistories
import ClusterPlaybooks.ZooKeeper.Identity
import ClusterPlaybooks.Kafka.Templates
import ClusterPlaybooks.Kafka.Playbooks
import ClusterPlaybooks.Service.Availability
import ClusterPlaybooks.Cluster.RollingRuns
import ClusterPlaybooks.Ansible.Progress
import ClusterPlaybooks.Service.ConfigUpdate
import ClusterPlaybooks.Service.RefusedUpdate
import ClusterPlaybooks.Ansible.Outcomes
import ClusterPlaybooks.Service.InterruptedUpdate
import ClusterPlaybooks.Cluster.ConfigUpdates
import ClusterPlaybooks.Service.LiveLink
import ClusterPlaybooks.Cluster.OldVersions
import ClusterPlaybooks.Ansible.Completion
import ClusterPlaybooks.Kafka.Downgrade
import ClusterPlaybooks.ZooKeeper.MigrationsTogether
import ClusterPlaybooks.Ansible.Lockstep
import ClusterPlaybooks.Ansible.Scripts
import ClusterPlaybooks.Mysql.GroupReplication
import ClusterPlaybooks.Mysql.GroupRepair
import ClusterPlaybooks.Text.Shell
import ClusterPlaybooks.Consul.ReadPool
import ClusterPlaybooks.Consul.MysqlChecks
import ClusterPlaybooks.Consul.RedisChecks
import ClusterPlaybooks.Mysql.KeepalivedCheck
import ClusterPlaybooks.Text.ByteOrder
import ClusterPlaybooks.Mysql.BinlogServer
import ClusterPlaybooks.Mysql.PrimaryPartition
import ClusterPlaybooks.Service.Decommission
import ClusterPlaybooks.Cluster.Decommission
import ClusterPlaybooks.Mysql.ServerId
import ClusterPlaybooks.Text.LineEdits
import ClusterPlaybooks.ZooKeeper.BrokerRole
import ClusterPlaybooks.Kafka.ConsumerGroups
import ClusterPlaybooks.Kafka.JmxCollector
import ClusterPlaybooks.Cluster.Leftovers
import ClusterPlaybooks.Ansible.RunOnce
import ClusterPlaybooks.Mongodb.ReplicaSet
import ClusterPlaybooks.Arith.Intervals
import ClusterPlaybooks.Mysql.GtidCount
import ClusterPlaybooks.Mysql.MyCnf
import ClusterPlaybooks.Mysql.ClusterAddress
import ClusterPlaybooks.Relational.Table
import ClusterPlaybooks.Text.Perl
import ClusterPlaybooks.Proxysql.GaleraCheck
import ClusterPlaybooks.Proxysql.Placement
import ClusterPlaybooks.Proxysql.Settling
import ClusterPlaybooks.Arith.RunningBest
import ClusterPlaybooks.Proxysql.Failover
import ClusterPlaybooks.Proxysql.Retries
import ClusterPlaybooks.Process.Stepping
import ClusterPlaybooks.Mha.OnlineChange
import ClusterPlaybooks.Mha.Failover
import ClusterPlaybooks.Ansible.Handlers
import ClusterPlaybooks.Roles.Services
import ClusterPlaybooks.Hadoop.Installs
import ClusterPlaybooks.Mysql.InitScript
import ClusterPlaybooks.Mysql.StartMysql
import ClusterPlaybooks.Text.Paths
