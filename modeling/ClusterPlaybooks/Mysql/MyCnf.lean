import ClusterPlaybooks.Mysql.ServerId
import ClusterPlaybooks.Text.LineEdits

/-!
# The configuration file of a MySQL instance

The template {lit}`my.cnf` is a list of blocks of lines, some of them with a condition.  A line
is a text with values in it.  The setups of group replication and of XtraDB clusters look for
keys in the rendered file.  The values stand between characters that no key has, so a key that is
in no value and in no piece of the template is in no line.

Main results:

- Theorem {lit}`occurs_render`: a key that is in no piece of a line and in no value is not in the
  rendered line.
- Theorems {lit}`occurs_outerLines` and {lit}`occurs_serverLines`: no key is in a rendered line,
  apart from the lines to edit.
- Theorem {lit}`isHeader_render`: no line of the server section begins another section.
-/

namespace ClusterPlaybooks
namespace MyCnf

open Text

/-! ## Variables -/

/-- The variables of the template that are texts. -/
inductive TextVar where
  | mysqlUser
  | mysqlSock
  | mysqlPortdir
  | mysqlBasedir
  | mysqlDatadir
  | ansibleHost
  | readOnly
  | mysqlInnodbBufferPoolSize
  | masterInfoRepository
  | groupReplicationGroupName
  | wsrepProviderOptins
  | wsrepSlaveThreads
  | wsrepClusterName
  | wsrepSstMethod
  | wsrepSstAuthUser
  | wsrepSstAuthPwd
deriving DecidableEq, Repr

/-- The values of {lit}`mysql_branch`. -/
inductive Branch where
  | mysql
  | pxc
  | percona
  | mariadb
deriving DecidableEq, Repr

/-- The variables of the template, and the port of the group. -/
structure Vars where
  text : TextVar → List Char
  mysqlPort : Nat
  inventoryHostname : String
  mysqlVersion : List Char
  mysqlBranch : Branch
  mysqlPlugins : List (List Char × List Char)
  tokudb : Bool
  gtid : Bool
  semiReplication : Bool
  groupReplication : Bool
  groupSeedPort : Nat

/-- What is put into a line. -/
inductive Value where
  | text (x : TextVar)
  | mysqlPort
  | serverId
  | plugins
  | groupSeedPort
deriving DecidableEq, Repr

/-- The text of a value. -/
def Vars.value (v : Vars) : Value → List Char
  | .text x => v.text x
  | .mysqlPort => Nat.toDigits 10 v.mysqlPort
  | .serverId => Mysql.serverId v.mysqlPort v.inventoryHostname
  | .plugins => v.mysqlPlugins.flatMap fun p => p.1 ++ '=' :: (p.2 ++ [';'])
  | .groupSeedPort => Nat.toDigits 10 v.groupSeedPort

/-- The conditions in the template. -/
inductive Cond where
  | always
  | tokudb
  | version8
  | notVersion8
  | plugins
  | gtid
  | notGtid
  | semiReplication
  | groupReplication
  | pxc
deriving DecidableEq, Repr

/-- {lit}`mysql_version.startswith("8.")`. -/
def Vars.isVersion8 (v : Vars) : Bool :=
  ['8', '.'].isPrefixOf v.mysqlVersion

/-- Whether a condition holds. -/
def Cond.holds (v : Vars) : Cond → Bool
  | .always => true
  | .tokudb => v.tokudb
  | .version8 => v.isVersion8
  | .notVersion8 => !v.isVersion8
  | .plugins => !v.mysqlPlugins.isEmpty
  | .gtid => v.gtid
  | .notGtid => !v.gtid
  | .semiReplication => v.semiReplication
  | .groupReplication => v.groupReplication && v.gtid
  | .pxc => v.mysqlBranch == .pxc

/-! ## The template -/

/-- A line: a text, and values with the texts that follow them. -/
structure Line where
  first : String
  rest : List (Value × String)

instance : Coe String Line :=
  ⟨fun s => ⟨s, []⟩⟩

/-- A line with a comment sign before it. -/
def commented (l : Line) : Line :=
  { l with first := "#" ++ l.first }

/-- Lines with a condition. -/
structure Block where
  cond : Cond
  lines : List Line

/-- The blocks before the section {lit}`[mysqld]`. -/
def clientBlocks : List Block :=
  [⟨.always,
      ["[client]", ⟨"user            = ", [(.text .mysqlUser, "")]⟩,
       ⟨"port            = ", [(.mysqlPort, "")]⟩, ⟨"socket          = ", [(.text .mysqlSock, "")]⟩,
       "default-character-set = utf8mb4", "", "[mysqld_safe]", "open-files-limit = 8192",
       "log-error = error.log", ⟨"pid-file  = ", [(.text .mysqlPortdir, "/mysqld.pid")]⟩]⟩,
    ⟨.tokudb,
      ["malloc-lib = /usr/lib64/libjemalloc.so.1"]⟩,
    ⟨.always,
      [""]⟩]

/-- The first line of the server section. -/
def mysqldHeader : String :=
  "[mysqld]"

/-- The blocks of the server section before the one for group replication. -/
def serverBlocks : List Block :=
  [⟨.always,
      [⟨"user            = ", [(.text .mysqlUser, "")]⟩, ⟨"port            = ", [(.mysqlPort, "")]⟩,
       ⟨"socket          = ", [(.text .mysqlSock, "")]⟩,
       ⟨"basedir         = ", [(.text .mysqlBasedir, "")]⟩,
       ⟨"datadir         = ", [(.text .mysqlDatadir, "")]⟩,
       ⟨"tmpdir          = ", [(.text .mysqlPortdir, "/tmp")]⟩]⟩,
    ⟨.always,
      ["", "###### server ####################", ⟨"server-id = ", [(.serverId, "")]⟩,
       "log_timestamps = SYSTEM", "back_log = 600", "max_connections = 2000",
       "max_connect_errors = 3000", "default-storage-engine = InnoDB",
       ⟨"pid-file = ", [(.text .mysqlPortdir, "/mysqld.pid")]⟩,
       "sql_mode = NO_ENGINE_SUBSTITUTION,STRICT_TRANS_TABLES", "table_open_cache = 2048",
       "external-locking = FALSE", "max_allowed_packet = 24M", "ft_min_word_len = 4",
       "thread_stack = 512K", "key_buffer_size = 32M", "bulk_insert_buffer_size = 64M",
       "skip-name-resolve = 1", "transaction_isolation = READ-COMMITTED", "event_scheduler = ON",
       "log_bin_trust_function_creators = 1", ⟨"#bind_address = ", [(.text .ansibleHost, "")]⟩,
       ⟨"#read_only = ", [(.text .readOnly, "")]⟩]⟩,
    ⟨.version8,
      ["default_authentication_plugin = mysql_native_password"]⟩,
    ⟨.always,
      ["", "###### character ####################", "character-set-client-handshake = FALSE",
       "character-set-server = utf8mb4", "collation-server = utf8mb4_unicode_ci",
       "init_connect = 'SET NAMES utf8mb4'"]⟩,
    ⟨.always,
      ["", "##### Order By/Group By ##########", "tmp_table_size = 128M", "read_buffer_size = 2M",
       "read_rnd_buffer_size = 16M", "sort_buffer_size = 8M", "join_buffer_size = 8M",
       "thread_cache_size = 100", "max_heap_table_size = 128M", "",
       "###### select ####################"]⟩,
    ⟨.notVersion8,
      ["query_cache_type = 0"]⟩,
    ⟨.always,
      ["", "###### myisam ####################", "myisam_sort_buffer_size = 128M",
       "myisam_max_sort_file_size = 10G", "myisam_repair_threads = 1", "",
       "###### innodb ####################",
       ⟨"innodb_buffer_pool_size = ", [(.text .mysqlInnodbBufferPoolSize, "")]⟩,
       "innodb_buffer_pool_instances = 1", "#innodb_data_file_path = ibdata1:256M:autoextend",
       "innodb_thread_concurrency = 0", "innodb_max_dirty_pages_pct = 80",
       "#innodb_lock_wait_timeout = 120", "innodb_file_per_table = 1", "innodb_open_files = 10240",
       "table_open_cache = 10240"]⟩,
    ⟨.always,
      ["", "###### innodb log ################", "innodb_log_buffer_size = 16M",
       "innodb_log_file_size = 32M", "innodb_log_files_in_group = 3",
       "innodb_autoextend_increment = 32", "innodb_flush_log_at_trx_commit = 2",
       "#innodb_undo_directory = undolog", "#innodb_undo_tablespaces = 128", "",
       "###### innodb io ####################", "innodb_write_io_threads = 8",
       "innodb_read_io_threads = 8", "innodb_io_capacity = 400", "innodb_io_capacity_max = 800",
       "#innodb_max_purge_lag = 0", "#innodb_max_purge_lag_delay = 0"]⟩,
    ⟨.always,
      ["", "###### logs ##################", "slow-query-log = on",
       "slow_query_log_file = slow.log", "long_query_time = 1", "log-error = error.log",
       "log_error_verbosity=3", "general_log = 0", "general_log_file = general.log", ""]⟩,
    ⟨.plugins,
      ["###### mysql_plugins #####################", ⟨"plugin_load=\"", [(.plugins, "\"")]⟩]⟩,
    ⟨.always,
      ["", "###### gtid #####################"]⟩,
    ⟨.gtid,
      ["gtid_mode = on", "enforce_gtid_consistency = 1"]⟩,
    ⟨.notGtid,
      ["gtid_mode = off", "enforce_gtid_consistency = 0"]⟩,
    ⟨.always,
      ["", "###### replication #####################", "sync_binlog = 0", "binlog_format = ROW",
       "binlog_checksum = NONE", "binlog_cache_size = 10M", "max_binlog_size = 900M",
       "max_binlog_cache_size = 50M", "skip_slave_start = 1",
       ⟨"log-bin = ", [(.text .mysqlPortdir, "/logs/mysql-bin")]⟩, "expire_logs_days = 10",
       "log_slave_updates = ON", ⟨"master_info_repository = ", [(.text .masterInfoRepository, "")]⟩,
       ⟨"relay_log_info_repository = ", [(.text .masterInfoRepository, "")]⟩, "",
       "# 合并30个事务或0.001秒钟的事务", "#binlog_group_commit_sync_delay = 1000",
       "#binlog_group_commit_sync_no_delay_count = 30", "#slave_parallel_type = 'logical_clock'",
       "#slave_parallel_workers = 4", "",
       ⟨"relay-log=", [(.text .mysqlPortdir, "/logs/relay-bin")]⟩,
       "relay-log-index = relay-bin.index", "relay_log_purge = 1", "relay_log_recovery = 1",
       "max_relay_log_size = 900M", ""]⟩,
    ⟨.semiReplication,
      ["##### semi replication #####################", "rpl_semi_sync_master_enabled = 1",
       "rpl_semi_sync_master_wait_point = AFTER_SYNC         #AFTER_SYNC|AFTER_COMMIT",
       "rpl_semi_sync_master_timeout = 1000                  # 1 second 无响应转成异步",
       "rpl_semi_sync_slave_enabled = 1"]⟩,
    ⟨.always,
      [""]⟩]

/-- The lines for group replication before those that are edited. -/
def groupHead : List Line :=
  ["##### group replication #####################", "transaction_write_set_extraction = XXHASH64",
   ⟨"group_replication_group_name = '", [(.text .groupReplicationGroupName, "'")]⟩,
   "group_replication_start_on_boot = off"]

/-- The address of the host, which the setup of group replication edits. -/
def localDefault : Line :=
  "group_replication_local_address = 'node1:33061'"

/-- The addresses of all hosts, which the setup of group replication edits. -/
def seedsDefault : Line :=
  "group_replication_group_seeds = 'node1:33061,node2:33061,node3:33061'"

/-- The lines for group replication after them. -/
def groupTail : List Line :=
  ["group_replication_bootstrap_group = off", "group_replication_single_primary_mode = off",
   "group_replication_enforce_update_everywhere_checks = true",
   "group_replication_auto_increment_increment = 5", "",
   ⟨"report_host = ", [(.text .ansibleHost, "")]⟩, ⟨"report_port = ", [(.mysqlPort, "")]⟩]

/-- The first lines for XtraDB clusters. -/
def wsrepIntro : List Line :=
  ["##### Writeset replication #####################", "innodb_locks_unsafe_for_binlog = 1",
   "innodb_autoinc_lock_mode = 2", ""]

/-- The settings of the cluster before the address, which are commented out. -/
def wsrepHead : List Line :=
  [⟨"wsrep_provider = ", [(.text .mysqlBasedir, "/lib/libgalera_smm.so")]⟩,
   ⟨"wsrep_provider_options = \"", [(.text .wsrepProviderOptins, "\"")]⟩,
   ⟨"wsrep_slave_threads = ", [(.text .wsrepSlaveThreads, "")]⟩]

/-- The address of the cluster, which is commented out and edited by the setup. -/
def wsrepAddress : Line :=
  "wsrep_cluster_address = 'gcomm://node1,node2,node3'"

/-- The settings of the cluster after the address, which are commented out. -/
def wsrepTail : List Line :=
  [⟨"wsrep_node_address = ", [(.text .ansibleHost, "")]⟩,
   ⟨"wsrep_cluster_name = ", [(.text .wsrepClusterName, "")]⟩,
   ⟨"wsrep_sst_method = ", [(.text .wsrepSstMethod, "")]⟩,
   ⟨"wsrep_sst_auth = ", [(.text .wsrepSstAuthUser, ":"), (.text .wsrepSstAuthPwd, "")]⟩]

/-- The blocks after those for clusters. -/
def restBlocks : List Block :=
  [⟨.always,
      [""]⟩,
    ⟨.tokudb,
      ["#tokudb_commit_sync     = ON", "#tokudb_cache_size      = 128M",
       "#tokudb_directio        = ON", "#tokudb_commit_sync     = OFF",
       "#tokudb_row_format      = tokudb_fast", "#tokudb_read_block_size = 128K",
       "#tokudb_read_buf_size   = 128K", "#tokudb_write_status_frequency = 1",
       "#tokudb_read_status_frequency  = 1"]⟩,
    ⟨.always,
      ["", "[mysqldump]", "quick", "max_allowed_packet = 24M", "", "[mysql]", "no-auto-rehash",
       "default-character-set = utf8mb4", "", "[myisamchk]", "key_buffer_size = 512M",
       "sort_buffer_size = 512M", "read_buffer = 8M", "write_buffer = 8M", "", "[mysqlhotcopy]",
       "interactive-timeout"]⟩]

/-- The block for group replication. -/
def groupBlock : Block where
  cond := .groupReplication
  lines := groupHead ++ localDefault :: seedsDefault :: groupTail

/-- The block for XtraDB clusters. -/
def wsrepBlock : Block where
  cond := .pxc
  lines := wsrepIntro ++ (wsrepHead.map commented ++
    commented wsrepAddress :: wsrepTail.map commented)

/-- The template {lit}`my.cnf`. -/
def template : List Block :=
  clientBlocks ++ (⟨.always, [mysqldHeader]⟩ :: (serverBlocks ++
    (groupBlock :: ⟨.always, [""]⟩ :: wsrepBlock :: restBlocks)))

/-! ## Rendering -/

/-- The values of a line with the texts that follow them. -/
def renderRest (v : Vars) : List (Value × String) → List Char
  | [] => []
  | (x, s) :: rest => v.value x ++ (s.toList ++ renderRest v rest)

/-- A rendered line. -/
def Line.render (v : Vars) (l : Line) : List Char :=
  l.first.toList ++ renderRest v l.rest

/-- A rendered block. -/
def Block.render (v : Vars) (b : Block) : List (List Char) :=
  if b.cond.holds v then b.lines.map (Line.render v) else []

/-- The rendered file; a value with a line break makes several lines of one. -/
def myCnf (v : Vars) : TextFile :=
  (template.flatMap (Block.render v)).flatMap (List.splitOn '\n')

/-! ## Keys -/

/-- The key {lit}`group_replication_local_address`. -/
def localKey : List Char :=
  "group_replication_local_address".toList

/-- The key {lit}`group_replication_group_seeds`. -/
def seedsKey : List Char :=
  "group_replication_group_seeds".toList

/-- The key {lit}`wsrep_cluster_address`. -/
def addressKey : List Char :=
  "wsrep_cluster_address".toList

/-- The beginning of the settings of a cluster. -/
def wsrepKey : List Char :=
  "wsrep_".toList

/-- What the setups look for. -/
def searchKeys : List (List Char) :=
  [localKey, seedsKey, addressKey, '#' :: wsrepKey]

/-- What the setups look for, and the line break. -/
def keys : List (List Char) :=
  ['\n'] :: searchKeys

/-- A text is in no value. -/
def ValuesFree (k : List Char) (v : Vars) : Prop :=
  (∀ x, occurs k (v.text x) = false) ∧
    ∀ p ∈ v.mysqlPlugins, occurs k p.1 = false ∧ occurs k p.2 = false

/-- The first key is one of the keys. -/
theorem localKey_mem : localKey ∈ searchKeys :=
  List.mem_cons_self

/-- The second key is one of the keys. -/
theorem seedsKey_mem : seedsKey ∈ searchKeys :=
  List.mem_cons_of_mem _ List.mem_cons_self

/-- The third key is one of the keys. -/
theorem addressKey_mem : addressKey ∈ searchKeys :=
  List.mem_cons_of_mem _ (List.mem_cons_of_mem _ List.mem_cons_self)

/-- The commented beginning is one of the keys. -/
theorem wsrepKey_mem : '#' :: wsrepKey ∈ searchKeys :=
  List.mem_cons_of_mem _ (List.mem_cons_of_mem _ (List.mem_cons_of_mem _ List.mem_cons_self))

/-- The characters between which values stand. -/
def isBreak (c : Char) : Bool :=
  [' ', '=', '/', '"', ':', ';', '\''].contains c

/-- What the values need of a text that is looked for. -/
structure Searchable (k : List Char) : Prop where
  ne_nil : k ≠ []
  noBreak : ∀ c ∈ k, isBreak c = false
  mark : ∃ c ∈ k, c.isAlphanum = false

/-- No key is in the text. -/
def okText (ks : List (List Char)) (w : List Char) : Bool :=
  ks.all fun k => !occurs k w

/-- A value may follow the text. -/
def endsInBreak (w : List Char) : Bool :=
  w.getLast?.any isBreak

/-- The text may follow a value. -/
def startsInBreak (w : List Char) : Bool :=
  w.head?.all isBreak

/-- Values stand between breaks, and no key is in a text between them. -/
def Chained (ks : List (List Char)) : List Char → List (Value × String) → Prop
  | _, [] => True
  | w, (_, s) :: rest =>
      endsInBreak w = true ∧ startsInBreak s.toList = true ∧ okText ks s.toList = true ∧
        Chained ks s.toList rest

/-- No key is in a piece of the line, and values stand between breaks. -/
def Checked (ks : List (List Char)) (l : Line) : Prop :=
  okText ks l.first.toList = true ∧ Chained ks l.first.toList l.rest

section Render

variable {v : Vars} {k w : List Char} {ks : List (List Char)} {l : Line}

/-- The keys have an underscore. -/
theorem underscore_mem : ∀ k ∈ searchKeys, '_' ∈ k := by
  unfold searchKeys localKey seedsKey addressKey wsrepKey
  simp

/-- The keys can be looked for. -/
theorem searchable_keys : ∀ k ∈ keys, Searchable k := by
  have hbreak : keys.all (fun k => k.all fun c => !isBreak c) = true := by
    unfold keys searchKeys localKey seedsKey addressKey wsrepKey
    rw [String.toList_ofList, String.toList_ofList, String.toList_ofList, String.toList_ofList]
    decide
  intro k hk
  have hall := List.all_eq_true.mp hbreak k hk
  have hmem : ∃ c ∈ k, c.isAlphanum = false := by
    rcases List.mem_cons.mp hk with rfl | hk
    · exact ⟨'\n', by simp, rfl⟩
    · exact ⟨'_', underscore_mem k hk, rfl⟩
  constructor
  · rcases hmem with ⟨c, hc, _⟩
    exact List.ne_nil_of_mem hc
  · intro c hc
    simpa using List.all_eq_true.mp hall c hc
  · exact hmem

/-- The texts that the setups look for can be looked for. -/
theorem searchable (hk : k ∈ searchKeys) : Searchable k :=
  searchable_keys k (List.mem_cons_of_mem _ hk)

/-- A text between two breaks is found only in one of the parts. -/
theorem occurs_break (hk : Searchable k) {c : Char} (hc : isBreak c = true) (a b : List Char) :
    occurs k (a ++ c :: b) = (occurs k a || occurs k b) := by
  apply occurs_append_cons hk.ne_nil
  intro hmem
  rw [hk.noBreak c hmem] at hc
  cases hc

/-- A text that is found is not made of letters and digits only. -/
theorem occurs_of_isAlphanum (hk : Searchable k) (hw : ∀ c ∈ w, c.isAlphanum = true) :
    occurs k w = false := by
  rcases hk.mark with ⟨c, hc, hmark⟩
  apply occurs_eq_false hc
  intro hmem
  rw [hw c hmem] at hmark
  cases hmark

/-- Digits are letters or digits. -/
theorem isAlphanum_of_mem_toDigits {n : Nat} : ∀ c ∈ Nat.toDigits 10 n, c.isAlphanum = true := by
  intro c hc
  have hdigit := List.all_eq_true.mp (all_isDigit_toDigits n) c hc
  simp [Char.isAlphanum, hdigit]

/-- The last part of a name consists of digits. -/
theorem isDigit_of_lastPart {name part : List Char} (hpart : Mysql.lastPart name = some part) :
    ∀ c ∈ part, c.isDigit = true := by
  induction name with
  | nil => cases hpart
  | cons d name ih =>
      rw [Mysql.lastPart] at hpart
      split at hpart
      · cases hpart
        exact fun c hc => List.mem_takeWhile_imp hc
      · exact ih hpart

/-- The identifier of a server consists of letters and digits. -/
theorem isAlphanum_of_mem_serverId {port : Nat} {name : String} :
    ∀ c ∈ Mysql.serverId port name, c.isAlphanum = true := by
  intro c hc
  rcases List.mem_append.mp hc with hport | hpart
  · exact isAlphanum_of_mem_toDigits c hport
  · cases hname : Mysql.lastPart name.toList with
    | none =>
        have hnone : ∀ c ∈ ['N', 'o', 'n', 'e'], c.isAlphanum = true := by simp
        rw [hname] at hpart
        exact hnone c (by simpa using hpart)
    | some part =>
        rw [hname] at hpart
        simp [Char.isAlphanum, isDigit_of_lastPart hname c hpart]

/-- A text that is in no name of a plugin is not in their list. -/
theorem occurs_plugins (hk : Searchable k) {ps : List (List Char × List Char)}
    (hps : ∀ p ∈ ps, occurs k p.1 = false ∧ occurs k p.2 = false) :
    occurs k (ps.flatMap fun p => p.1 ++ '=' :: (p.2 ++ [';'])) = false := by
  induction ps with
  | nil => simp [occurs, hk.ne_nil]
  | cons p ps ih =>
      rw [List.forall_mem_cons] at hps
      rw [List.flatMap_cons, List.append_assoc, List.cons_append, List.append_assoc,
        List.singleton_append, occurs_break hk rfl, occurs_break hk rfl, hps.1.1, hps.1.2,
        ih hps.2]
      rfl

/-- A text that is in no value is in none of the texts made of the values. -/
theorem occurs_value (hk : Searchable k) (hv : ValuesFree k v) (x : Value) :
    occurs k (v.value x) = false := by
  cases x with
  | text x => exact hv.1 x
  | mysqlPort => exact occurs_of_isAlphanum hk isAlphanum_of_mem_toDigits
  | serverId => exact occurs_of_isAlphanum hk isAlphanum_of_mem_serverId
  | groupSeedPort => exact occurs_of_isAlphanum hk isAlphanum_of_mem_toDigits
  | plugins => exact occurs_plugins hk hv.2

/-- The key is in no value behind the text. -/
theorem occurs_renderRest (hk : Searchable k) (hmem : k ∈ ks) (hv : ValuesFree k v)
    {rest : List (Value × String)} (hw : occurs k w = false) (hrest : Chained ks w rest) :
    occurs k (w ++ renderRest v rest) = false := by
  induction rest generalizing w with
  | nil => simpa [renderRest] using hw
  | cons xs rest ih =>
      rcases xs with ⟨x, s⟩
      rcases hrest with ⟨hends, hstarts, hok, hrest⟩
      have hs : occurs k s.toList = false := by
        simpa using List.all_eq_true.mp hok k hmem
      have htail := ih hs hrest
      -- a break ends the text before the value
      rcases List.eq_nil_or_concat w with rfl | ⟨p, c, hconcat⟩
      · cases hends
      · rw [List.concat_eq_append] at hconcat
        subst hconcat
        have hc : isBreak c = true := by simpa [endsInBreak] using hends
        have hp : occurs k p = false :=
          occurs_part_eq_false (List.prefix_append p [c]).isInfix hw
        -- a break begins the text after it, or the line ends with the value
        have hvalue : occurs k (v.value x ++ (s.toList ++ renderRest v rest)) = false := by
          cases hchars : s.toList with
          | nil =>
              cases rest with
              | nil => simpa [renderRest] using occurs_value hk hv x
              | cons y rest =>
                  rw [hchars] at hrest
                  cases hrest.1
          | cons d cs =>
              have hd : isBreak d = true := by simpa [startsInBreak, hchars] using hstarts
              rw [hchars, List.cons_append] at htail
              rw [List.cons_append, occurs_break hk hd, occurs_value hk hv x,
                occurs_part_eq_false (List.suffix_cons d _).isInfix htail]
              rfl
        rw [renderRest, List.append_assoc, List.singleton_append, occurs_break hk hc, hp, hvalue]
        rfl

/-- A key that is in no piece of a line and in no value is not in the rendered line. -/
theorem occurs_render (hk : Searchable k) (hmem : k ∈ ks) (hv : ValuesFree k v)
    (hl : Checked ks l) : occurs k (l.render v) = false := by
  have hfirst : occurs k l.first.toList = false := by
    simpa using List.all_eq_true.mp hl.1 k hmem
  exact occurs_renderRest hk hmem hv hfirst hl.2

/-- In a line without values nothing is found that is not in its text. -/
theorem occurs_render_static (hmem : k ∈ ks) (hrest : l.rest = []) (hl : Checked ks l) :
    occurs k (l.render v) = false := by
  rw [Line.render, hrest, renderRest, List.append_nil]
  simpa using List.all_eq_true.mp hl.1 k hmem

/-- A line without values is checked by its text. -/
theorem checked_plain (hw : okText ks w = true) : Checked ks ⟨String.ofList w, []⟩ := by
  rw [Checked, String.toList_ofList]
  exact ⟨hw, trivial⟩

/-- A line with one value is checked by the texts before and after it. -/
theorem checked_value {w' : List Char} {x : Value}
    (hw : (okText ks w && endsInBreak w) = true) (hw' : (startsInBreak w' && okText ks w') = true) :
    Checked ks ⟨String.ofList w, [(x, String.ofList w')]⟩ := by
  rw [Bool.and_eq_true] at hw hw'
  simp only [Checked, Chained, String.toList_ofList]
  exact ⟨hw.1, hw.2, hw'.1, hw'.2, trivial⟩

/-- A line with two values is checked by the texts around them. -/
theorem checked_values {w' w'' : List Char} {x y : Value}
    (hw : (okText ks w && endsInBreak w) = true)
    (hw' : (startsInBreak w' && okText ks w' && endsInBreak w') = true)
    (hw'' : (startsInBreak w'' && okText ks w'') = true) :
    Checked ks ⟨String.ofList w, [(x, String.ofList w'), (y, String.ofList w'')]⟩ := by
  rw [Bool.and_eq_true] at hw hw' hw''
  rw [Bool.and_eq_true] at hw'
  simp only [Checked, Chained, String.toList_ofList]
  exact ⟨hw.1, hw.2, hw'.1.1, hw'.1.2, hw'.2, hw''.1, hw''.2, trivial⟩

end Render

/-! ## The lines of the template -/

/-- The lines outside of the server section. -/
def outerLines : List Line :=
  clientBlocks.flatMap Block.lines ++ restBlocks.flatMap Block.lines

/-- The lines of the server section that are not edited, without their comment signs. -/
def serverLines : List Line :=
  serverBlocks.flatMap Block.lines ++
    (groupHead ++ (groupTail ++ (wsrepIntro ++ (wsrepHead ++ wsrepTail))))

/-- No key is in a piece of the lines outside of the server section. -/
theorem checked_outerLines : ∀ l ∈ outerLines, Checked keys l := by
  unfold keys searchKeys localKey seedsKey addressKey wsrepKey
  rw [String.toList_ofList, String.toList_ofList, String.toList_ofList, String.toList_ofList]
  unfold outerLines clientBlocks restBlocks
  simp only [List.flatMap_cons, List.flatMap_nil, List.cons_append, List.nil_append]
  -- one line after the other; the literals are taken as lists of characters
  repeat
    refine List.forall_mem_cons.mpr ⟨?_, ?_⟩
    · first
      | exact checked_plain (by decide +kernel)
      | exact checked_value (by decide +kernel) (by decide +kernel)
  simp

/-- No key and no opening bracket is in a piece of the lines of the server section. -/
theorem checked_serverLines : ∀ l ∈ serverLines, Checked (['['] :: keys) l := by
  unfold keys searchKeys localKey seedsKey addressKey wsrepKey
  rw [String.toList_ofList, String.toList_ofList, String.toList_ofList, String.toList_ofList]
  unfold serverLines serverBlocks groupHead groupTail wsrepIntro wsrepHead wsrepTail
  simp only [List.flatMap_cons, List.flatMap_nil, List.cons_append, List.nil_append]
  repeat
    refine List.forall_mem_cons.mpr ⟨?_, ?_⟩
    · first
      | exact checked_plain (by decide +kernel)
      | exact checked_value (by decide +kernel) (by decide +kernel)
      | exact checked_values (by decide +kernel) (by decide +kernel) (by decide +kernel)
  simp

/-! ## Rendered lines -/

section Lines

variable {v : Vars} {k : List Char} {l : Line} {m : List Char}

/-- A line that begins a section. -/
def isHeader (m : List Char) : Bool :=
  m.head? == some '['

/-- The rendered lines of some blocks. -/
def rendered (v : Vars) (bs : List Block) : List (List Char) :=
  bs.flatMap (Block.render v)

/-- A line with a comment sign is rendered with the sign. -/
theorem render_commented (l : Line) : (commented l).render v = '#' :: l.render v := by
  simp [Line.render, commented]

/-- A rendered line of some blocks comes from a line of theirs. -/
theorem exists_of_mem_rendered {bs : List Block} (hm : m ∈ rendered v bs) :
    ∃ l ∈ bs.flatMap Block.lines, l.render v = m := by
  rcases List.mem_flatMap.mp hm with ⟨b, hb, hmb⟩
  unfold Block.render at hmb
  split at hmb
  · rcases List.mem_map.mp hmb with ⟨l, hl, rfl⟩
    exact ⟨l, List.mem_flatMap.mpr ⟨b, hb, hl⟩, rfl⟩
  · cases hmb

/-- No key is in a rendered line outside of the server section. -/
theorem occurs_outerLines (hk : k ∈ keys) (hv : ValuesFree k v) (hl : l ∈ outerLines) :
    occurs k (l.render v) = false :=
  occurs_render (searchable_keys k hk) hk hv (checked_outerLines l hl)

/-- No key is in a rendered line of the server section, if it is not edited. -/
theorem occurs_serverLines (hk : k ∈ keys) (hv : ValuesFree k v) (hl : l ∈ serverLines) :
    occurs k (l.render v) = false :=
  occurs_render (searchable_keys k hk) (List.mem_cons_of_mem _ hk) hv (checked_serverLines l hl)

/-- A line without an opening bracket in its pieces does not begin a section. -/
theorem isHeader_render {ks : List (List Char)} (hks : ['['] ∈ ks) (hl : Checked ks l) :
    isHeader (l.render v) = false := by
  rcases hl with ⟨hfirst, hrest⟩
  have hbracket : occurs ['['] l.first.toList = false := by
    simpa using List.all_eq_true.mp hfirst ['['] hks
  unfold Line.render isHeader
  cases hchars : l.first.toList with
  | nil =>
      cases hvalues : l.rest with
      | nil => rfl
      | cons x rest =>
          rw [hchars, hvalues] at hrest
          cases hrest.1
  | cons c cs =>
      have hne : c ≠ '[' := by
        rintro rfl
        rw [hchars] at hbracket
        simp [occurs] at hbracket
      simp [hne]

/-- The first line of the server section has no key. -/
theorem occurs_mysqldHeader (hk : k ∈ keys) : occurs k mysqldHeader.toList = false := by
  have hok : okText keys mysqldHeader.toList = true := by
    unfold keys searchKeys localKey seedsKey addressKey wsrepKey mysqldHeader
    rw [String.toList_ofList, String.toList_ofList, String.toList_ofList, String.toList_ofList,
      String.toList_ofList]
    decide +kernel
  simpa using List.all_eq_true.mp hok k hk

/-- An empty line has no key. -/
theorem occurs_nil (hk : k ∈ keys) : occurs k [] = false := by
  simp [occurs, (searchable_keys k hk).ne_nil]

/-- The default address of the host has its own key only. -/
theorem checked_localDefault :
    Checked ([['['], ['\n'], seedsKey] ++ [addressKey, '#' :: wsrepKey]) localDefault := by
  unfold seedsKey addressKey wsrepKey localDefault
  rw [String.toList_ofList, String.toList_ofList, String.toList_ofList]
  exact checked_plain (by decide +kernel)

/-- The default addresses of all hosts have their own key only. -/
theorem checked_seedsDefault :
    Checked ([['['], ['\n'], localKey] ++ [addressKey, '#' :: wsrepKey]) seedsDefault := by
  unfold localKey addressKey wsrepKey seedsDefault
  rw [String.toList_ofList, String.toList_ofList, String.toList_ofList]
  exact checked_plain (by decide +kernel)

/-- The default address of the cluster has its own key only. -/
theorem checked_wsrepAddress :
    Checked ([['['], ['\n'], '#' :: wsrepKey] ++ [localKey, seedsKey]) wsrepAddress := by
  unfold localKey seedsKey wsrepKey wsrepAddress
  rw [String.toList_ofList, String.toList_ofList, String.toList_ofList]
  exact checked_plain (by decide +kernel)

end Lines

end MyCnf
end ClusterPlaybooks
