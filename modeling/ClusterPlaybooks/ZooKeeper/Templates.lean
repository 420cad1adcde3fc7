import ClusterPlaybooks.Text.Address
import ClusterPlaybooks.Text.ConfigFile
import ClusterPlaybooks.Text.LooseVersion

/-!
# Configuration templates of ZooKeeper

The templates of the {lit}`configure` role, line by line.  Rendering fails when
an expression of the template has no value.  Variables keep their inventory
names; a variable with a default in the template is optional.

ZooKeeper reads a setting of {lit}`zoo.cfg` as on when its value is the word
true in any case.

Main results:

- Theorem {lit}`zooCfg_tls`: the quorum encryption a rendered {lit}`zoo.cfg` asks for.
- Theorem {lit}`zooCfg_stores`: the key store and the trust store it names.
- Theorem {lit}`zooCfg_sasl`: the quorum authentication a rendered
  {lit}`zoo.cfg` asks for.
-/

namespace ClusterPlaybooks
namespace ZooKeeper

open Text

/-! ## Variables -/

/-- Hosts are known by their inventory names. -/
abbrev Host := String

/-- What the templates read about a host. -/
structure HostVars where
  ansibleHost : String
  ansibleFqdn : String
  zookeeperMyId : Option Int
deriving DecidableEq, Repr

/-- The inventory. -/
structure Inventory where
  clusterNodes : List Host
  nodup : clusterNodes.Nodup
  localhost : Host
  hostvars : Host → HostVars

/-- The files the {lit}`configure` role writes. -/
inductive ConfFile where
  | zooCfg
  | log4jProperties
  | javaEnv
  | jaasConf
  | myid
deriving DecidableEq, Repr

/-- The group variables. -/
structure Vars where
  systemUpgradeRequired : Bool
  useSystemFirewall : Bool
  zookeeperInstallDir : String
  zookeeperDataDir : String
  zookeeperLogDir : String
  zookeeperVersion : String
  zookeeperOldVersion : Option String
  /-- the files in the archive at {lit}`zookeeperTarLocation` -/
  archive : ConfFile → Option ConfigFile
  zookeeperUserGeneratedMyId : Bool
  zookeeperQuorumAuthEnableSasl : Bool
  zookeeperQuorumCnxnThreadsSize : String
  zookeeperQuorumUsername : String
  zookeeperQuorumPassword : String
  zookeeperSslQuorum : Bool
  zookeeperPortUnification : Option String
  zookeeperSecureClientPort : String
  zookeeperSslQuorumReloadCertFiles : Option String
  zookeeperSslQuorumProtocol : Option String
  zookeeperSslQuorumKeystorePassword : String
  zookeeperSslQuorumTruststorePassword : String
  zookeeperSslQuorumHostnameVerification : Option String
  zookeeperSslQuorumKeystoreLocation : String
  zookeeperSslQuorumTruststoreLocation : String
  /-- the destinations in {lit}`zookeeperCopyFiles` -/
  zookeeperCopyFiles : Option (List String)
  zookeeperAdminPortUnification : Option String
  zookeeperXms : String
  zookeeperXmx : String
  zookeeperJvmFlags : Option String
  /-- the text {lit}`default(omit)` puts in place of an undefined variable -/
  omitted : String
  zookeeperJmxEnabled : Bool
  zookeeperJmxPort : String
  zookeeperTickTime : String
  zookeeperInitLimit : String
  zookeeperSyncLimit : String
  zookeeperMaxClientCnxns : String
  zookeeperClientPort : String
  zookeeperAutoPurgeSnapRetainCount : Option String
  zookeeperAutoPurgeIntervalHour : Option String
  zookeeperPrometheusExporterEnabled : Bool
  zookeeperPrometheusExporterHttpPort : String

/-- The version directory the playbooks work on. -/
def Vars.versionDir (v : Vars) : String :=
  v.zookeeperInstallDir ++ "/zookeeper-" ++ v.zookeeperVersion

/-! ## zoo.cfg -/

/-- The general settings at the top of {lit}`zoo.cfg`. -/
def generalSettings (v : Vars) : ConfigFile :=
  [.text "# The number of milliseconds of each tick",
    .entry "tickTime" v.zookeeperTickTime,
    .text "",
    .text "# The number of ticks that the initial",
    .text "# synchronization phase can take",
    .entry "initLimit" v.zookeeperInitLimit,
    .text "",
    .text "# The number of ticks that can pass between",
    .text "# sending a request and getting an acknowledgement",
    .entry "syncLimit" v.zookeeperSyncLimit,
    .text "",
    .text "# the directory where the snapshot is stored.",
    .text "# do not use /tmp for storage, /tmp here is just",
    .text "# example sakes.",
    .entry "dataDir" v.zookeeperDataDir,
    .text "",
    .text "# the port at which the clients will connect",
    .entry "clientPort" v.zookeeperClientPort,
    .text "",
    .text "# the maximum number of client connections.",
    .text "# increase this if you need to handle more clients",
    .entry "maxClientCnxns" v.zookeeperMaxClientCnxns,
    .text "",
    .text "# whitelist all four letter commands so splunk can get stats",
    .entry "4lw.commands.whitelist" "*",
    .text "#",
    .text "# Be sure to read the maintenance section of the",
    .text "# administrator guide before turning on autopurge.",
    .text "#",
    .text "# http://zookeeper.apache.org/doc/current/zookeeperAdmin.html#sc_maintenance",
    .text "#",
    .text "# The number of snapshots to retain in dataDir",
    .entry "autopurge.snapRetainCount" (v.zookeeperAutoPurgeSnapRetainCount.getD "3"),
    .text "",
    .text "# Purge task interval in hours",
    .text "# Set to \"0\" to disable auto purge feature",
    .entry "autopurge.purgeInterval" (v.zookeeperAutoPurgeIntervalHour.getD "1"),
    .text ""]

/-- The address and the identifier of a host in the server list. -/
def serverOf (inv : Inventory) (v : Vars) (h : Host) : Option (String × Nat) :=
  if v.zookeeperUserGeneratedMyId then
    (inv.hostvars h).zookeeperMyId.map fun id => ((inv.hostvars h).ansibleFqdn, id.natAbs)
  else
    let ip := if isIpv4 h then h else (inv.hostvars h).ansibleHost
    (lastOctet ip).map fun id => (ip, id)

/-- The line of a server. -/
def serverLine (server : String × Nat) : Line :=
  .entry ("server." ++ toString server.2) (server.1 ++ ":2888:3888")

/-- The server list. -/
def serverList (inv : Inventory) (v : Vars) : Option ConfigFile :=
  let title := if v.zookeeperUserGeneratedMyId
    then "# ansible autogenerated server list with FQDN and User Defined MyID"
    else "# ansible autogenerated server list with IP Addresses"
  (inv.clusterNodes.mapM (serverOf inv v)).map fun servers =>
    .text title :: servers.map serverLine

/-- The metrics exporter. -/
def metricsProvider (v : Vars) : ConfigFile :=
  if v.zookeeperPrometheusExporterEnabled then
    [.text "## Metrics Providers",
      .text "#",
      .text "# https://prometheus.io Metrics Exporter",
      .entry "metricsProvider.className"
        "org.apache.zookeeper.metrics.prometheus.PrometheusMetricsProvider",
      .entry "metricsProvider.httpPort" v.zookeeperPrometheusExporterHttpPort,
      .entry "metricsProvider.exportJvmInfo" "true"]
  else []

/-- The quorum authentication block. -/
def saslBlock (v : Vars) : ConfigFile :=
  if v.zookeeperQuorumAuthEnableSasl then
    [.text "# SASL Mutual Authentication",
      .text ("# Ref: https://cwiki.apache.org/confluence/display/ZOOKEEPER/" ++
        "Server-Server+mutual+authentication"),
      .entry "quorum.auth.enableSasl" "true",
      .entry "quorum.auth.learnerRequireSasl" "true",
      .entry "quorum.auth.serverRequireSasl" "true",
      .entry "quorum.cnxn.threads.size" v.zookeeperQuorumCnxnThreadsSize,
      .entry "quorum.auth.learner.saslLoginContext" "QuorumLearner",
      .entry "quorum.auth.server.saslLoginContext" "QuorumServer"]
  else []

/-- The settings of the quorum encryption block. -/
def sslSettings (v : Vars) : ConfigFile :=
  [.text "# Quorun with MTLS",
    .text "# Ref: https://zookeeper.apache.org/doc/r3.8.0/zookeeperAdmin.html#Quorum+TLS",
    .entry "sslQuorum" "true",
    .entry "portUnification" (v.zookeeperPortUnification.getD "false"),
    .entry "secureClientPort" v.zookeeperSecureClientPort,
    .entry "serverCnxnFactory" "org.apache.zookeeper.server.NettyServerCnxnFactory",
    .entry "ssl.quorum.keyStore.location" v.zookeeperSslQuorumKeystoreLocation,
    .entry "ssl.quorum.keyStore.password" v.zookeeperSslQuorumKeystorePassword,
    .entry "ssl.quorum.trustStore.location" v.zookeeperSslQuorumTruststoreLocation,
    .entry "ssl.quorum.trustStore.password" v.zookeeperSslQuorumTruststorePassword,
    .entry "ssl.quorum.hostnameVerification"
      (v.zookeeperSslQuorumHostnameVerification.getD "true"),
    .entry "ssl.quorum.protocol" (v.zookeeperSslQuorumProtocol.getD "TLSv1.2"),
    .entry "sslQuorumReloadCertFiles" (v.zookeeperSslQuorumReloadCertFiles.getD "false")]

/-- The quorum encryption block; the version is only looked at when encryption is on. -/
def sslBlock (v : Vars) : Option ConfigFile :=
  if v.zookeeperSslQuorum then
    (versionGe v.zookeeperVersion "3.5.5").map fun ge => if ge then sslSettings v else []
  else some []

/-- The template {lit}`zoo.cfg`. -/
def zooCfg (inv : Inventory) (v : Vars) : Option ConfigFile := do
  let servers ← serverList inv v
  let ssl ← sslBlock v
  return generalSettings v ++ servers ++ [.text ""] ++ metricsProvider v ++ [.text ""] ++
    saslBlock v ++ [.text ""] ++ ssl ++
    [.text "", .entry "admin.portUnification" (v.zookeeperAdminPortUnification.getD "false")]

/-! ## The other files -/

/-- The template {lit}`java.env`. -/
def javaEnv (v : Vars) : ConfigFile :=
  [.entry "export JVMFLAGS" ("\"-Xmx" ++ v.zookeeperXmx ++ " -Xms" ++ v.zookeeperXms ++ " " ++
      v.zookeeperJvmFlags.getD v.omitted ++ "\""),
    .text ""] ++
  (if v.zookeeperJmxEnabled then [.entry "export JMXPORT" v.zookeeperJmxPort] else []) ++
  [.text ""] ++
  (if v.zookeeperQuorumAuthEnableSasl then
    [.text "# sasl + Digest-MD5 mutual auth",
      .entry "export JVMFLAGS" ("\"$JVMFLAGS -Djava.security.auth.login.config=" ++
        v.zookeeperInstallDir ++ "/zookeeper/conf/jaas.conf\"")]
  else [])

/-- The template {lit}`jaas.conf`. -/
def jaasConf (v : Vars) : ConfigFile :=
  [.text "QuorumServer \x7b",
    .text "       org.apache.zookeeper.server.auth.DigestLoginModule required",
    .entry ("       user_" ++ v.zookeeperQuorumUsername)
      ("\"" ++ v.zookeeperQuorumPassword ++ "\";"),
    .text "\x7d;",
    .text " ",
    .text "QuorumLearner \x7b",
    .text "       org.apache.zookeeper.server.auth.DigestLoginModule required",
    .entry "       username" ("\"" ++ v.zookeeperQuorumUsername ++ "\""),
    .entry "       password" ("\"" ++ v.zookeeperQuorumPassword ++ "\";"),
    .text "\x7d;"]

/-- The template {lit}`log4j.properties`. -/
def log4jProperties (v : Vars) : ConfigFile :=
  [.text "# Define some default values that can be overridden by system properties",
    .entry "zookeeper.root.logger" "INFO, CONSOLE",
    .entry "zookeeper.console.threshold" "INFO",
    .entry "zookeeper.log.dir" v.zookeeperLogDir,
    .entry "zookeeper.log.file" "zookeeper.log",
    .entry "zookeeper.log.threshold" "DEBUG",
    .entry "zookeeper.tracelog.dir" v.zookeeperLogDir,
    .entry "zookeeper.tracelog.file" "zookeeper_trace.log",
    .text "",
    .text "#",
    .text "# ZooKeeper Logging Configuration",
    .text "#",
    .text "",
    .text "# Format is \"<default threshold> (, <appender>)+",
    .text "",
    .text "# DEFAULT: console appender only",
    .entry "log4j.rootLogger" "$\x7bzookeeper.root.logger\x7d",
    .text "",
    .text "# Example with rolling log file",
    .text "#log4j.rootLogger=DEBUG, CONSOLE, ROLLINGFILE",
    .text "",
    .text "# Example with rolling log file and tracing",
    .text "#log4j.rootLogger=TRACE, CONSOLE, ROLLINGFILE, TRACEFILE",
    .text "",
    .text "#",
    .text "# Log INFO level and above messages to the console",
    .text "#",
    .entry "log4j.appender.CONSOLE" "org.apache.log4j.ConsoleAppender",
    .entry "log4j.appender.CONSOLE.Threshold" "$\x7bzookeeper.console.threshold\x7d",
    .entry "log4j.appender.CONSOLE.layout" "org.apache.log4j.PatternLayout",
    .entry "log4j.appender.CONSOLE.layout.ConversionPattern"
      "%d\x7bISO8601\x7d [myid:%X\x7bmyid\x7d] - %-5p [%t:%C\x7b1\x7d@%L] - %m%n",
    .text "",
    .text "#",
    .text "# Add ROLLINGFILE to rootLogger to get log file output",
    .text "#    Log DEBUG level and above messages to a log file",
    .entry "log4j.appender.ROLLINGFILE" "org.apache.log4j.RollingFileAppender",
    .entry "log4j.appender.ROLLINGFILE.Threshold" "$\x7bzookeeper.log.threshold\x7d",
    .entry "log4j.appender.ROLLINGFILE.File"
      "$\x7bzookeeper.log.dir\x7d/$\x7bzookeeper.log.file\x7d",
    .text "",
    .text "# Max log file size of 10MB",
    .entry "log4j.appender.ROLLINGFILE.MaxFileSize" "10MB",
    .text "# uncomment the next line to limit number of backup files",
    .text "#log4j.appender.ROLLINGFILE.MaxBackupIndex=10",
    .text "",
    .entry "log4j.appender.ROLLINGFILE.layout" "org.apache.log4j.PatternLayout",
    .entry "log4j.appender.ROLLINGFILE.layout.ConversionPattern"
      "%d\x7bISO8601\x7d [myid:%X\x7bmyid\x7d] - %-5p [%t:%C\x7b1\x7d@%L] - %m%n",
    .text "",
    .text "",
    .text "#",
    .text "# Add TRACEFILE to rootLogger to get log file output",
    .text "#    Log DEBUG level and above messages to a log file",
    .entry "log4j.appender.TRACEFILE" "org.apache.log4j.FileAppender",
    .entry "log4j.appender.TRACEFILE.Threshold" "TRACE",
    .entry "log4j.appender.TRACEFILE.File"
      "$\x7bzookeeper.tracelog.dir\x7d/$\x7bzookeeper.tracelog.file\x7d",
    .text "",
    .entry "log4j.appender.TRACEFILE.layout" "org.apache.log4j.PatternLayout",
    .text "### Notice we are including log4j's NDC here (%x)",
    .entry "log4j.appender.TRACEFILE.layout.ConversionPattern"
      "%d\x7bISO8601\x7d [myid:%X\x7bmyid\x7d] - %-5p [%t:%C\x7b1\x7d@%L][%x] - %m%n"]

/-- The template {lit}`myid`. -/
def myid (inv : Inventory) (h : Host) : Option ConfigFile :=
  (lastOctet (inv.hostvars h).ansibleHost).map fun id => [.text (toString id)]

/-- Render a template for a host. -/
def render (inv : Inventory) (v : Vars) : ConfFile → Host → Option ConfigFile
  | .zooCfg, _ => zooCfg inv v
  | .log4jProperties, _ => some (log4jProperties v)
  | .javaEnv, _ => some (javaEnv v)
  | .jaasConf, _ => some (jaasConf v)
  | .myid, h => myid inv h

/-! ## Settings ZooKeeper reads -/

/-- The word true, in any case. -/
def isTrue (value : String) : Bool :=
  value.toList.map Char.toLower == "true".toList

/-- A setting is on. -/
def flag (key : String) (f : ConfigFile) : Bool :=
  (lookup key f).any isTrue

/-- The two settings of quorum encryption. -/
structure Tls where
  sslQuorum : Bool
  portUnification : Bool
deriving DecidableEq, Repr

/-- The three settings of quorum authentication. -/
structure Sasl where
  enableSasl : Bool
  learnerRequireSasl : Bool
  serverRequireSasl : Bool
deriving DecidableEq, Repr

/-- Quorum encryption as set in a {lit}`zoo.cfg`. -/
def tls (f : ConfigFile) : Tls where
  sslQuorum := flag "sslQuorum" f
  portUnification := flag "portUnification" f

/-- Quorum authentication as set in a {lit}`zoo.cfg`. -/
def sasl (f : ConfigFile) : Sasl where
  enableSasl := flag "quorum.auth.enableSasl" f
  learnerRequireSasl := flag "quorum.auth.learnerRequireSasl" f
  serverRequireSasl := flag "quorum.auth.serverRequireSasl" f

/-! ## What a rendered file asks for -/

/-- A rendered {lit}`zoo.cfg` consists of its blocks. -/
theorem zooCfg_eq_some {inv : Inventory} {v : Vars} {f : ConfigFile}
    (hf : zooCfg inv v = some f) :
    ∃ servers ssl, serverList inv v = some servers ∧ sslBlock v = some ssl ∧
      f = generalSettings v ++ servers ++ [.text ""] ++ metricsProvider v ++ [.text ""] ++
        saslBlock v ++ [.text ""] ++ ssl ++
        [.text "", .entry "admin.portUnification"
          (v.zookeeperAdminPortUnification.getD "false")] := by
  simp only [zooCfg, Option.bind_eq_bind, Option.bind_eq_some_iff] at hf
  rcases hf with ⟨servers, hservers, ssl, hssl, hf⟩
  exact ⟨servers, ssl, hservers, hssl, (Option.some.inj hf).symm⟩

/-- A key that does not start like the key of a server line. -/
def NoServerKey (key : String) : Prop :=
  "server.".toList.isPrefixOf key.toList = false

instance (key : String) : Decidable (NoServerKey key) :=
  inferInstanceAs (Decidable (_ = _))

/-- The server list sets nothing but servers. -/
theorem lookup_serverList {inv : Inventory} {v : Vars} {servers : ConfigFile} {key : String}
    (hservers : serverList inv v = some servers) (hkey : NoServerKey key) :
    lookup key servers = none := by
  rcases Option.map_eq_some_iff.mp hservers with ⟨ss, _, rfl⟩
  apply lookup_eq_none
  intro l hl
  rcases List.mem_cons.mp hl with rfl | hl
  · rfl
  · rcases List.mem_map.mp hl with ⟨server, _, rfl⟩
    have hne : "server." ++ toString server.2 ≠ key := by
      rintro rfl
      simp [NoServerKey] at hkey
    exact if_neg hne

/-- The settings of a rendered {lit}`zoo.cfg` come from its blocks, the last one first. -/
theorem lookup_zooCfg {inv : Inventory} {v : Vars} {f : ConfigFile} {key : String}
    (hf : zooCfg inv v = some f) (hkey : NoServerKey key)
    (hadmin : key ≠ "admin.portUnification") :
    ∃ ssl, sslBlock v = some ssl ∧
      lookup key f = (lookup key ssl).or ((lookup key (saslBlock v)).or
        ((lookup key (metricsProvider v)).or (lookup key (generalSettings v)))) := by
  rcases zooCfg_eq_some hf with ⟨servers, ssl, hservers, hssl, rfl⟩
  refine ⟨ssl, hssl, ?_⟩
  simp [lookup_append, lookup_serverList hservers hkey, Line.valueOf, hadmin.symm,
    Option.or_assoc]

/-- The encryption block is there when encryption is on and the version knows it. -/
theorem sslBlock_eq_some {v : Vars} {ssl : ConfigFile} (hssl : sslBlock v = some ssl) :
    ssl = if v.zookeeperSslQuorum = true ∧ versionGe v.zookeeperVersion "3.5.5" = some true
      then sslSettings v else [] := by
  unfold sslBlock at hssl
  split at hssl
  · rename_i hon
    rcases Option.map_eq_some_iff.mp hssl with ⟨ge, hge, rfl⟩
    simp [hon, hge]
  · rename_i hoff
    simpa [hoff] using hssl.symm

/-- The keys that name the key store and the trust store of the quorum. -/
def storeKeys : List String :=
  ["ssl.quorum.keyStore.location", "ssl.quorum.trustStore.location"]

/-- No block but the encryption block has a say in the encryption settings. -/
theorem lookup_zooCfg_ssl {inv : Inventory} {v : Vars} {f : ConfigFile} {key : String}
    (hf : zooCfg inv v = some f) (hkey : key ∈ "sslQuorum" :: "portUnification" :: storeKeys) :
    lookup key f =
      if v.zookeeperSslQuorum = true ∧ versionGe v.zookeeperVersion "3.5.5" = some true
      then lookup key (sslSettings v) else none := by
  have hserver : NoServerKey key := by
    revert key
    decide
  have hadmin : key ≠ "admin.portUnification" := by
    revert key
    decide
  have hothers : lookup key (saslBlock v) = none ∧ lookup key (metricsProvider v) = none ∧
      lookup key (generalSettings v) = none := by
    simp only [storeKeys, List.mem_cons, List.not_mem_nil, or_false] at hkey
    rw [saslBlock, metricsProvider]
    rcases hkey with rfl | rfl | rfl | rfl <;> split <;> split <;>
      simp [generalSettings, Line.valueOf]
  rcases lookup_zooCfg hf hserver hadmin with ⟨ssl, hssl, heq⟩
  rw [heq, hothers.1, hothers.2.1, hothers.2.2, sslBlock_eq_some hssl]
  split <;> simp

/-- The quorum encryption a rendered {lit}`zoo.cfg` asks for. -/
theorem zooCfg_tls {inv : Inventory} {v : Vars} {f : ConfigFile} (hf : zooCfg inv v = some f) :
    tls f = if v.zookeeperSslQuorum = true ∧ versionGe v.zookeeperVersion "3.5.5" = some true
      then ⟨true, isTrue (v.zookeeperPortUnification.getD "false")⟩ else ⟨false, false⟩ := by
  rw [tls, flag, flag, lookup_zooCfg_ssl hf (by simp), lookup_zooCfg_ssl hf (by simp)]
  split
  · simp [sslSettings, Line.valueOf, isTrue]
  · rfl

/-- The stores a rendered {lit}`zoo.cfg` names. -/
theorem zooCfg_stores {inv : Inventory} {v : Vars} {f : ConfigFile}
    (hf : zooCfg inv v = some f) :
    storeKeys.map (lookup · f) =
      if v.zookeeperSslQuorum = true ∧ versionGe v.zookeeperVersion "3.5.5" = some true
      then [some v.zookeeperSslQuorumKeystoreLocation,
        some v.zookeeperSslQuorumTruststoreLocation]
      else [none, none] := by
  simp only [storeKeys, List.map_cons, List.map_nil]
  rw [lookup_zooCfg_ssl hf (by simp [storeKeys]), lookup_zooCfg_ssl hf (by simp [storeKeys])]
  split
  · simp [sslSettings, Line.valueOf]
  · rfl

/-- The quorum authentication a rendered {lit}`zoo.cfg` asks for: all of it or none. -/
theorem zooCfg_sasl {inv : Inventory} {v : Vars} {f : ConfigFile} (hf : zooCfg inv v = some f) :
    sasl f = ⟨v.zookeeperQuorumAuthEnableSasl, v.zookeeperQuorumAuthEnableSasl,
      v.zookeeperQuorumAuthEnableSasl⟩ := by
  have hblock : ∀ key ∈ ["quorum.auth.enableSasl", "quorum.auth.learnerRequireSasl",
      "quorum.auth.serverRequireSasl"], flag key f = v.zookeeperQuorumAuthEnableSasl := by
    intro key hkey
    have hserver : NoServerKey key := by
      revert key
      decide
    have hadmin : key ≠ "admin.portUnification" := by
      revert key
      decide
    rcases lookup_zooCfg hf hserver hadmin with ⟨ssl, hssl, heq⟩
    simp only [List.mem_cons, List.not_mem_nil, or_false] at hkey
    rw [flag, heq, sslBlock_eq_some hssl, saslBlock, metricsProvider]
    rcases hkey with rfl | rfl | rfl <;> split <;> split <;> split <;>
      simp_all [generalSettings, sslSettings, Line.valueOf, isTrue]
  rw [sasl, hblock _ (by simp), hblock _ (by simp), hblock _ (by simp)]

end ZooKeeper
end ClusterPlaybooks
