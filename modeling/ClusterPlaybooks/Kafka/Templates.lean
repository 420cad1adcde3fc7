import ClusterPlaybooks.Text.ConfigFile

/-!
# Configuration templates of Kafka

The three templates of the {lit}`configure` role, line by line and without the
licence comment at the top of two of them.  Variables keep their inventory names;
a variable with a default in the template is optional.
-/

namespace ClusterPlaybooks
namespace Kafka

open Text

/-! ## Variables -/

/-- Hosts are known by their inventory names. -/
abbrev Host := String

/-- What the templates read about a host. -/
structure HostVars where
  ansibleFqdn : String
  kafkaBrokerRackId : Option String
deriving DecidableEq, Repr

/-- The inventory. -/
structure Inventory where
  clusterNodes : List Host
  nodup_nodes : clusterNodes.Nodup
  clusterAddNodes : List Host
  nodup_added : clusterAddNodes.Nodup
  localhost : Host
  hostvars : Host → HostVars

/-- The hosts of {lit}`clusterNodes:clusterAddNodes`; a host of both groups is listed once. -/
def Inventory.hosts (inv : Inventory) : List Host :=
  inv.clusterNodes ++ inv.clusterAddNodes.filter fun h => decide (h ∉ inv.clusterNodes)

/-- The pattern lists no host twice. -/
theorem Inventory.nodup_hosts (inv : Inventory) : inv.hosts.Nodup := by
  rw [Inventory.hosts, List.nodup_append]
  refine ⟨inv.nodup_nodes, inv.nodup_added.filter _, ?_⟩
  rintro h hnode k hadded rfl
  have hnot := (List.mem_filter.mp hadded).2
  exact of_decide_eq_true hnot hnode

/-- The files the {lit}`configure` role writes. -/
inductive KafkaFile where
  | brokerProperties
  | log4jProperties
  | serverStart
deriving DecidableEq, Repr

/-- The group variables. -/
structure Vars where
  javaVersion : Nat
  useSystemFirewall : Bool
  kafkaInstallDir : String
  kafkaDataDir : String
  kafkaLogDir : String
  kafkaGcLogs : Bool
  kafkaGcLogsLocation : String
  kafkaGcLogFileCount : String
  kafkaGcLogFileSize : String
  kafkaXms : String
  kafkaXmx : String
  kafkaPort : String
  kafkaJmxPort : String
  kafkaZookeeperAddressString : String
  kafkaZookeeperConnectionTimeoutMs : Option String
  kafkaClusterName : String
  kafkaVersion : String
  kafkaScalaVersion : String
  kafkaOldVersion : Option String
  kafkaOldScalaVersion : Option String
  /-- the files in the archive at {lit}`kafkaTarLocation` -/
  archive : KafkaFile → Option ConfigFile
  kafkaDefaultReplicationFactor : Option String
  kafkaMinInsyncReplicas : Option String
  kafkaBackgroundThread : Option String
  kafkaMessagesMaxBytes : Option String
  kafkaReplicaFetchMaxBytes : Option String
  kafkaQuededMaxRequests : Option String
  kafkaNumReplicaFetchers : Option String
  kafkaNumNetworkThreads : Option String
  kafkaNumIoThreads : Option String
  kafkaSocketSendBufferBytes : Option String
  kafkaSocetReceiveBufferBytes : Option String
  kafkaSocetRequestMaxBytes : Option String
  kafkaNumPartitions : Option String
  kafkaNumRecoveryThreadsPerDataDir : Option String
  kafkaOffsetsTopicReplicationFactor : Option String
  kafkaTransactionStateLogReplicationFactor : Option String
  kafkaTransactionStateLogMinIsr : Option String
  kafkaLogFlushIntervalMessages : Option String
  kafkaLogFlushIntervalMs : Option String
  kafkaLogRetentionHours : Option String
  kafkaLogSegmentBytes : Option String
  kafkalogRetentionCheckIntervalMs : Option String
  kafkaGroupInitRebalanceDelayMs : Option String

/-- The directory of a version. -/
def Vars.dirOf (v : Vars) (scala version : String) : String :=
  v.kafkaInstallDir ++ "/kafka_" ++ scala ++ "-" ++ version

/-- The version directory the playbooks work on. -/
def Vars.versionDir (v : Vars) : String :=
  v.dirOf v.kafkaScalaVersion v.kafkaVersion

/-! ## kafka-broker.properties -/

/-- The settings of the whole cluster. -/
def clusterSettings (inv : Inventory) (v : Vars) (h : Host) : ConfigFile :=
  [.text "############################# Cluster Wide Settings #############################",
    .entry "delete.topic.enable" "true",
    .entry "auto.create.topics.enable" "false",
    .text "",
    .entry "port" v.kafkaPort,
    .entry "host.name" (inv.hostvars h).ansibleFqdn,
    .text "",
    .entry "cluster.name" v.kafkaClusterName,
    .entry "broker.id.generation.enable" "true",
    .text "",
    .entry "broker.rack" ((inv.hostvars h).kafkaBrokerRackId.getD "1"),
    .text "",
    .entry "background.threads" (v.kafkaBackgroundThread.getD "10"),
    .entry "message.max.bytes" (v.kafkaMessagesMaxBytes.getD "1000012"),
    .entry "replica.fetch.max.bytes" (v.kafkaReplicaFetchMaxBytes.getD "2000000"),
    .entry "queued.max.requests" (v.kafkaQuededMaxRequests.getD "500"),
    .entry "num.replica.fetchers" (v.kafkaNumReplicaFetchers.getD "1"),
    .entry "default.replication.factor" (v.kafkaDefaultReplicationFactor.getD "3"),
    .entry "min.insync.replicas" (v.kafkaMinInsyncReplicas.getD "0"),
    .text ""]

/-- The settings of the socket server. -/
def socketServerSettings (v : Vars) : ConfigFile :=
  [.text "############################# Socket Server Settings #############################",
    .text "",
    .text "# The address the socket server listens on. It will get the value returned from",
    .text "# java.net.InetAddress.getCanonicalHostName() if not configured.",
    .text "#   FORMAT:",
    .text "#     listeners = listener_name://host_name:port",
    .text "#   EXAMPLE:",
    .text "#     listeners = PLAINTEXT://your.host.name:9092",
    .text ("listeners = PLAINTEXT://:" ++ v.kafkaPort),
    .text "",
    .text ("# Hostname and port the broker will advertise to producers and consumers. " ++
      "If not set,"),
    .text ("# it uses the value for \"listeners\" if configured.  Otherwise, it will use " ++
      "the value"),
    .text "# returned from java.net.InetAddress.getCanonicalHostName().",
    .text ("advertised.listeners = PLAINTEXT://:" ++ v.kafkaPort),
    .text "",
    .text ("# Maps listener names to security protocols, the default is for them to be the " ++
      "same. See the config documentation for more details"),
    .text ("#listener.security.protocol.map=PLAINTEXT:PLAINTEXT,SSL:SSL," ++
      "SASL_PLAINTEXT:SASL_PLAINTEXT,SASL_SSL:SASL_SSL"),
    .text "",
    .text ("# The number of threads that the server uses for receiving requests from the " ++
      "network and sending responses to the network"),
    .entry "num.network.threads" (v.kafkaNumNetworkThreads.getD "3"),
    .text "",
    .text ("# The number of threads that the server uses for processing requests, which may " ++
      "include disk I/O"),
    .entry "num.io.threads" (v.kafkaNumIoThreads.getD "8"),
    .text "",
    .text "# The send buffer (SO_SNDBUF) used by the socket server",
    .entry "socket.send.buffer.bytes" (v.kafkaSocketSendBufferBytes.getD "102400"),
    .text "",
    .text "# The receive buffer (SO_RCVBUF) used by the socket server",
    .entry "socket.receive.buffer.bytes" (v.kafkaSocetReceiveBufferBytes.getD "102400"),
    .text "",
    .text ("# The maximum size of a request that the socket server will accept (protection " ++
      "against OOM)"),
    .entry "socket.request.max.bytes" (v.kafkaSocetRequestMaxBytes.getD "104857600"),
    .text "",
    .text ""]

/-- The settings of the data logs and of the internal topics. -/
def logSettings (v : Vars) : ConfigFile :=
  [.text "############################# Log Basics #############################",
    .text "",
    .text "# A comma separated list of directories under which to store log files",
    .text ("log.dir = " ++ v.kafkaDataDir),
    .text ("log.dirs = " ++ v.kafkaDataDir),
    .text "",
    .text "# The default number of log partitions per topic. More partitions allow greater",
    .text "# parallelism for consumption, but this will also result in more files across",
    .text "# the brokers.",
    .entry "num.partitions" (v.kafkaNumPartitions.getD "1"),
    .text "",
    .text ("# The number of threads per data directory to be used for log recovery at startup " ++
      "and flushing at shutdown."),
    .text ("# This value is recommended to be increased for installations with data dirs " ++
      "located in RAID array."),
    .entry "num.recovery.threads.per.data.dir"
      (v.kafkaNumRecoveryThreadsPerDataDir.getD "1"),
    .text "",
    .text "############################# Internal Topic Settings  #############################",
    .text ("# The replication factor for the group metadata internal topics " ++
      "\"__consumer_offsets\" and \"__transaction_state\""),
    .text ("# For anything other than development testing, a value greater than 1 is " ++
      "recommended for to ensure availability such as 3."),
    .text "",
    .entry "offsets.topic.replication.factor"
      (v.kafkaOffsetsTopicReplicationFactor.getD "1"),
    .entry "transaction.state.log.replication.factor"
      (v.kafkaTransactionStateLogReplicationFactor.getD "1"),
    .entry "transaction.state.log.min.isr" (v.kafkaTransactionStateLogMinIsr.getD "1"),
    .text ""]

/-- The flush and retention policies of the data logs. -/
def logPolicies (v : Vars) : ConfigFile :=
  [.text "############################# Log Flush Policy #############################",
    .text "",
    .text ("# Messages are immediately written to the filesystem but by default we only " ++
      "fsync() to sync"),
    .text ("# the OS cache lazily. The following configurations control the flush of data " ++
      "to disk."),
    .text "# There are a few important trade-offs here:",
    .text ("#    1. Durability: Unflushed data may be lost if you are not using " ++
      "replication."),
    .text ("#    2. Latency: Very large flush intervals may lead to latency spikes when the " ++
      "flush does occur as there will be a lot of data to flush."),
    .text ("#    3. Throughput: The flush is generally the most expensive operation, and a " ++
      "small flush interval may lead to excessive seeks."),
    .text ("# The settings below allow one to configure the flush policy to flush data after " ++
      "a period of time or"),
    .text ("# every N messages (or both). This can be done globally and overridden on a " ++
      "per-topic basis."),
    .text "",
    .text "# The number of messages to accept before forcing a flush of data to disk",
    .entry "log.flush.interval.messages" (v.kafkaLogFlushIntervalMessages.getD "10000"),
    .text "",
    .text "# The maximum amount of time a message can sit in a log before we force a flush",
    .entry "log.flush.interval.ms" (v.kafkaLogFlushIntervalMs.getD "1000"),
    .text "",
    .text "############################# Log Retention Policy #############################",
    .text "",
    .text ("# The following configurations control the disposal of log segments. The policy " ++
      "can"),
    .text ("# be set to delete segments after a period of time, or after a given size has " ++
      "accumulated."),
    .text ("# A segment will be deleted whenever *either* of these criteria are met. Deletion " ++
      "always happens"),
    .text "# from the end of the log.",
    .text "",
    .text "# The minimum age of a log file to be eligible for deletion due to age",
    .entry "log.retention.hours" (v.kafkaLogRetentionHours.getD "168"),
    .text "",
    .text ("# A size-based retention policy for logs. Segments are pruned from the log unless " ++
      "the remaining"),
    .text ("# segments drop below log.retention.bytes. Functions independently of " ++
      "log.retention.hours."),
    .text "#log.retention.bytes=1073741824",
    .text "",
    .text ("# The maximum size of a log segment file. When this size is reached a new log " ++
      "segment will be created."),
    .entry "log.segment.bytes" (v.kafkaLogSegmentBytes.getD "1073741824"),
    .text "",
    .text ("# The interval at which log segments are checked to see if they can be deleted " ++
      "according"),
    .text "# to the retention policies",
    .entry "log.retention.check.interval.ms"
      (v.kafkalogRetentionCheckIntervalMs.getD "300000"),
    .text ""]

/-- The connection to ZooKeeper and the group coordinator. -/
def zookeeperSettings (v : Vars) : ConfigFile :=
  [.text "############################# Zookeeper #############################",
    .text "",
    .text "# Zookeeper connection string (see zookeeper docs for details).",
    .text "# This is a comma separated host:port pairs, each corresponding to a zk",
    .text "# server. e.g. \"127.0.0.1:3000,127.0.0.1:3001,127.0.0.1:3002\".",
    .text "# You can also append an optional chroot string to the urls to specify the",
    .text "# root directory for all kafka znodes.",
    .text ("zookeeper.connect = " ++ v.kafkaZookeeperAddressString),
    .text "",
    .text "# Timeout in ms for connecting to zookeeper",
    .entry "zookeeper.connection.timeout.ms"
      (v.kafkaZookeeperConnectionTimeoutMs.getD "6000"),
    .text "",
    .text "",
    .text "############################# Group Coordinator Settings #############################",
    .text "",
    .text ("# The following configuration specifies the time, in milliseconds, that the " ++
      "GroupCoordinator will delay the initial consumer rebalance."),
    .text ("# The rebalance will be further delayed by the value of " ++
      "group.initial.rebalance.delay.ms as new members join the group, up to a maximum of " ++
      "max.poll.interval.ms."),
    .text "# The default value for this is 3 seconds.",
    .text ("# We override this to 0 here as it makes for a better out-of-the-box experience " ++
      "for development and testing."),
    .text ("# However, in production environments the default value of 3 seconds is more " ++
      "suitable as this will help to avoid unnecessary, and potentially expensive, " ++
      "rebalances during application startup."),
    .entry "group.initial.rebalance.delay.ms"
      (v.kafkaGroupInitRebalanceDelayMs.getD "0")]

/-- The template {lit}`kafka-broker.properties`. -/
def brokerProperties (inv : Inventory) (v : Vars) (h : Host) : ConfigFile :=
  clusterSettings inv v h ++ socketServerSettings v ++ logSettings v ++ logPolicies v ++
    zookeeperSettings v

/-! ## log4j.properties -/

/-- The five lines of an appender that starts a new file every hour. -/
def dailyRollingFileAppender (appender file : String) : ConfigFile :=
  [.entry ("log4j.appender." ++ appender) "org.apache.log4j.DailyRollingFileAppender",
    .entry ("log4j.appender." ++ appender ++ ".DatePattern") "'.'yyyy-MM-dd-HH",
    .entry ("log4j.appender." ++ appender ++ ".File") file,
    .entry ("log4j.appender." ++ appender ++ ".layout") "org.apache.log4j.PatternLayout",
    .entry ("log4j.appender." ++ appender ++ ".layout.ConversionPattern")
      "[%d] %p %m (%c)%n"]

/-- The appenders of the logging configuration. -/
def log4jAppenders (v : Vars) : ConfigFile :=
  [.text ("# Unspecified loggers and loggers with additivity=true output to server.log and " ++
      "stdout"),
    .text ("# Note that INFO only applies to unspecified loggers, the log level of the child " ++
      "logger is used otherwise"),
    .entry "log4j.rootLogger" "INFO, stdout, kafkaAppender",
    .text "",
    .entry "log4j.appender.stdout" "org.apache.log4j.ConsoleAppender",
    .entry "log4j.appender.stdout.layout" "org.apache.log4j.PatternLayout",
    .entry "log4j.appender.stdout.layout.ConversionPattern" "[%d] %p %m (%c)%n",
    .text ""] ++
  dailyRollingFileAppender "kafkaAppender" (v.kafkaLogDir ++ "/server.log") ++
  [.entry "log4j.appender.kafkaAppender.MaxFileSize" "50MB",
    .entry "log4j.appender.kafkaAppender.MaxBackupIndex" "7",
    .text ""] ++
  dailyRollingFileAppender "stateChangeAppender" (v.kafkaLogDir ++ "/state-change.log") ++
  .text "" ::
  dailyRollingFileAppender "requestAppender" (v.kafkaLogDir ++ "/kafka-request.log") ++
  .text "" ::
  dailyRollingFileAppender "cleanerAppender" (v.kafkaLogDir ++ "/log-cleaner.log") ++
  .text "" ::
  dailyRollingFileAppender "controllerAppender" (v.kafkaLogDir ++ "/controller.log") ++
  .text "" ::
  dailyRollingFileAppender "authorizerAppender" (v.kafkaLogDir ++ "/kafka-authorizer.log") ++
  [.text ""]

/-- The loggers of the logging configuration. -/
def log4jLoggers : ConfigFile :=
  [.text "# Change the two lines below to adjust ZK client logging",
    .entry "log4j.logger.org.I0Itec.zkclient.ZkClient" "INFO",
    .entry "log4j.logger.org.apache.zookeeper" "INFO",
    .text "",
    .text ("# Change the two lines below to adjust the general broker logging level (output " ++
      "to server.log and stdout)"),
    .entry "log4j.logger.kafka" "INFO",
    .entry "log4j.logger.org.apache.kafka" "INFO",
    .text "",
    .text "# Change to DEBUG or TRACE to enable request logging",
    .entry "log4j.logger.kafka.request.logger" "WARN, requestAppender",
    .entry "log4j.additivity.kafka.request.logger" "false",
    .text "",
    .text ("# Uncomment the lines below and change " ++
      "log4j.logger.kafka.network.RequestChannel$ to TRACE for additional output"),
    .text "# related to the handling of requests",
    .text "#log4j.logger.kafka.network.Processor=TRACE, requestAppender",
    .text "#log4j.logger.kafka.server.KafkaApis=TRACE, requestAppender",
    .text "#log4j.additivity.kafka.server.KafkaApis=false",
    .entry "log4j.logger.kafka.network.RequestChannel$" "WARN, requestAppender",
    .entry "log4j.additivity.kafka.network.RequestChannel$" "false",
    .text "",
    .entry "log4j.logger.kafka.controller" "TRACE, controllerAppender",
    .entry "log4j.additivity.kafka.controller" "false",
    .text "",
    .entry "log4j.logger.kafka.log.LogCleaner" "INFO, cleanerAppender",
    .entry "log4j.additivity.kafka.log.LogCleaner" "false",
    .text "",
    .entry "log4j.logger.state.change.logger" "TRACE, stateChangeAppender",
    .entry "log4j.additivity.state.change.logger" "false",
    .text "",
    .text ("# Access denials are logged at INFO level, change to DEBUG to also log allowed " ++
      "accesses"),
    .entry "log4j.logger.kafka.authorizer.logger" "INFO, authorizerAppender",
    .entry "log4j.additivity.kafka.authorizer.logger" "false"]

/-- The template {lit}`log4j.properties`. -/
def log4jProperties (v : Vars) : ConfigFile :=
  log4jAppenders v ++ log4jLoggers

/-! ## kafka-server-start.sh -/

/-- The options for the log of the garbage collector; they depend on the Java version. -/
def gcLogOptions (v : Vars) : ConfigFile :=
  if v.kafkaGcLogs then
    if v.javaVersion > 9 then
      [.entry "export KAFKA_GC_LOG_OPTS" ("\"-Xlog:gc*:file=" ++ v.kafkaGcLogsLocation ++
        "/kafkaServer-gc.log:time,tags:filecount=" ++ v.kafkaGcLogFileCount ++ ",filesize=" ++
        v.kafkaGcLogFileSize ++ "\"")]
    else
      [.entry "export KAFKA_GC_LOG_OPTS" ("\"-Xloggc:" ++ v.kafkaGcLogsLocation ++
        "/kafkaServer-gc.log -verbose:gc -XX:+PrintGCDetails -XX:+PrintGCDateStamps " ++
        "-XX:+PrintGCTimeStamps -XX:+UseGCLogFileRotation -XX:NumberOfGCLogFiles=" ++
        v.kafkaGcLogFileCount ++ " -XX:GCLogFileSize=" ++ v.kafkaGcLogFileSize ++ "\"")]
  else []

/-- The template {lit}`kafka-server-start.sh`. -/
def serverStart (v : Vars) : ConfigFile :=
  [.text "#!/bin/bash",
    .text "",
    .text "if [ $# -lt 1 ];",
    .text "then",
    .text "        echo \"USAGE: $0 [-daemon] server.properties [--override property=value]*\"",
    .text "        exit 1",
    .text "fi",
    .entry "base_dir" "$(dirname $0)",
    .text "",
    .text "if [ \"x$KAFKA_LOG4J_OPTS\" = \"x\" ]; then",
    .entry "    export KAFKA_LOG4J_OPTS"
      "\"-Dlog4j.configuration=file:$base_dir/../config/log4j.properties\"",
    .text "fi",
    .text "",
    .text "if [ \"x$KAFKA_HEAP_OPTS\" = \"x\" ]; then",
    .entry "    export KAFKA_HEAP_OPTS"
      ("\"-Xmx" ++ v.kafkaXmx ++ " -Xms" ++ v.kafkaXms ++ "\""),
    .text "fi",
    .text "",
    .entry "EXTRA_ARGS" "$\x7bEXTRA_ARGS-'-name kafkaServer -loggc'\x7d",
    .text "",
    .entry "COMMAND" "$1",
    .text "case $COMMAND in",
    .text "  -daemon)",
    .entry "    EXTRA_ARGS" "\"-daemon \"$EXTRA_ARGS",
    .text "    shift",
    .text "    ;;",
    .text "  *)",
    .text "    ;;",
    .text "esac",
    .text "",
    .text "# java use IPv4 stack",
    .entry "export KAFKA_IPV4_STACK_OPTS" "\"-Djava.net.preferIPv4Stack=true\"",
    .text "",
    .text "# kafka OOM settings",
    .entry "export KAFKA_OOM_OPTS"
      ("\"-XX:+HeapDumpOnOutOfMemoryError -XX:HeapDumpPath=" ++ v.kafkaLogDir ++ " \""),
    .text "",
    .text "# kafka gc logs settings"] ++
  gcLogOptions v ++
  [.text "",
    .text "# kafka jmx settings",
    .entry "export KAFKA_JMX_OPTS" ("\"-Djava.rmi.server.hostname=0.0.0.0 " ++
      "-Dcom.sun.management.jmxremote.local.only=false " ++
      "-Dcom.sun.management.jmxremote.rmi.port=" ++ v.kafkaJmxPort ++
      " -Dcom.sun.management.jmxremote.port=" ++ v.kafkaJmxPort ++
      " -Dcom.sun.management.jmxremote=true " ++
      "-Dcom.sun.management.jmxremote.authenticate=false " ++
      "-Dcom.sun.management.jmxremote.ssl=false\""),
    .entry "export KAFKA_JMX_OPTS" "\"$KAFKA_JMX_OPTS $KAFKA_IPV4_STACK_OPTS\"",
    .text "",
    .entry "export JMX_PORT" v.kafkaJmxPort,
    .text "",
    .text "# aggregate opts",
    .entry "export KAFKA_HEAP_OPTS" "\"$KAFKA_HEAP_OPTS $KAFKA_OOM_OPTS\"",
    .text "",
    .text "exec $base_dir/kafka-run-class.sh $EXTRA_ARGS kafka.Kafka \"$@\""]

/-- Render a template for a host. -/
def render (inv : Inventory) (v : Vars) : KafkaFile → Host → Option ConfigFile
  | .brokerProperties, h => some (brokerProperties inv v h)
  | .log4jProperties, _ => some (log4jProperties v)
  | .serverStart, _ => some (serverStart v)

end Kafka
end ClusterPlaybooks
