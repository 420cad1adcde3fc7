import ClusterPlaybooks.Process.Stepping
import Mathlib.Data.List.Induction
import Mathlib.Logic.Function.Basic

/-!
# Repeated runs of the Hadoop, Hive and Spark roles

The roles unpack an archive and put it in its place with a shell command: Hadoop makes the link
{lit}`current` with {lit}`ln -s`, Hive and Spark rename the unpacked directory with {lit}`mv`.
Both commands put their first argument inside the second one if that is a directory already, and
fail if it is there.  The tasks for the configuration come after that.  The playbooks set all the
variables {lit}`install_...` and {lit}`config_...`, so every run has both parts.

Main results:

- Theorem {lit}`hadoop_keeps_first_version`: the link stays with the first version, and the
  versions of the runs tell which of them get to the configuration and which reset it.
- Theorem {lit}`hive_configured_twice`: two runs for a version of Hive get to its configuration.
- Theorem {lit}`spark_configured_once`: for a version of Spark the first run with each archive
  does, and writes it where Spark does not look for it.
-/

namespace ClusterPlaybooks
namespace Hadoop

open Process

variable {V W C : Type} [DecidableEq V] [DecidableEq W]

/-- A run of a role: the version, and what the template of the configuration renders to. -/
structure RoleRun (V C : Type) where
  version : V
  site : C

/-! ## Hadoop -/

/-- The directory {lit}`hadoop_path`. -/
structure Home (V C : Type) where
  /-- The files in {lit}`etc/hadoop` of the versions that are unpacked. -/
  etc : V → Option C
  /-- The version that the link {lit}`current` points to, if it is there. -/
  current : Option V
  /-- The links inside the directory that it points to, by the versions they point to. -/
  inside : List V

/-- Nothing is installed. -/
def Home.empty : Home V C where
  etc := fun _ => none
  current := none
  inside := []

/-- The files in {lit}`current/etc/hadoop`. -/
def Home.inUse (s : Home V C) : Option C :=
  s.current.bind s.etc

/-- The archive of a version is unpacked, over the files that are there. -/
def Home.unpack (archive : V → C) (v : V) (s : Home V C) : Home V C :=
  { s with etc := Function.update s.etc v (some (archive v)) }

/-- The command {lit}`ln -s` for a version, {lit}`none` if it fails. -/
def Home.link (v : V) (s : Home V C) : Option (Home V C) :=
  match s.current with
  | none => some { s with current := some v }
  | some _ => if v ∈ s.inside then none else some { s with inside := v :: s.inside }

/-- The tasks of {lit}`config_hadoop.yml`, which copy to {lit}`current/etc/hadoop`. -/
def Home.configHadoop (c : C) (s : Home V C) : Home V C :=
  match s.current with
  | none => s
  | some v => { s with etc := Function.update s.etc v (some c) }

/-- A run of the role {lit}`hadoop`: if the link cannot be made, the archive has been unpacked. -/
def hadoop (archive : V → C) (s : Home V C) (r : RoleRun V C) : Home V C :=
  match (s.unpack archive r.version).link r.version with
  | none => s.unpack archive r.version
  | some s' => s'.configHadoop r.site

/-- A run whose link is there fails after the archive was unpacked. -/
theorem hadoop_of_mem {archive : V → C} {s : Home V C} {v : V} {r : RoleRun V C}
    (hcurrent : s.current = some v) (hmem : r.version ∈ s.inside) :
    hadoop archive s r = s.unpack archive r.version := by
  simp [hadoop, Home.unpack, Home.link, hcurrent, hmem]

/-- Another one makes the link inside the directory, and goes on. -/
theorem hadoop_of_notMem {archive : V → C} {s : Home V C} {v : V} {r : RoleRun V C}
    (hcurrent : s.current = some v) (hmem : r.version ∉ s.inside) :
    hadoop archive s r = Home.configHadoop r.site
      { s.unpack archive r.version with inside := r.version :: s.inside } := by
  simp [hadoop, Home.unpack, Home.link, hcurrent, hmem]

/-- The tasks for the configuration leave the links alone, and their files are in use. -/
theorem Home.configHadoop_of_current {c : C} {s : Home V C} {v : V}
    (hcurrent : s.current = some v) :
    (s.configHadoop c).current = some v ∧ (s.configHadoop c).inside = s.inside ∧
      (s.configHadoop c).inUse = some c := by
  unfold Home.configHadoop Home.inUse
  simp [hcurrent]

/-- Unpacking changes what is in use exactly if it is for the version that is linked. -/
theorem Home.inUse_unpack {archive : V → C} {s : Home V C} {v : V}
    (hcurrent : s.current = some v) (w : V) :
    (s.unpack archive w).inUse = if w = v then some (archive v) else s.inUse := by
  unfold Home.inUse Home.unpack
  by_cases hw : w = v
  · simp [hcurrent, hw]
  · simp [hcurrent, hw, Function.update_of_ne (Ne.symm hw)]

/-- After the first run, the link points to its version, and the links inside are those of the
later versions. -/
theorem hadoop_runs (archive : V → C) (r : RoleRun V C) (rs : List (RoleRun V C)) :
    (run (hadoop archive) Home.empty (r :: rs)).current = some r.version ∧
    ∀ v, v ∈ (run (hadoop archive) Home.empty (r :: rs)).inside ↔ v ∈ rs.map RoleRun.version := by
  induction rs using List.reverseRecOn with
  | nil => simp [hadoop, Home.empty, Home.unpack, Home.link, Home.configHadoop]
  | append_singleton rs r' ih =>
      obtain ⟨hcurrent, hinside⟩ := ih
      rw [← List.cons_append, run_append, run_cons, run_nil]
      generalize run (hadoop archive) Home.empty (r :: rs) = s at hcurrent hinside
      by_cases hmem : r'.version ∈ s.inside
      · rw [hadoop_of_mem hcurrent hmem]
        refine ⟨hcurrent, fun v => (hinside v).trans ?_⟩
        rw [List.map_append, List.mem_append]
        refine ⟨Or.inl, ?_⟩
        rintro (hold | hnew)
        · exact hold
        · rw [List.map_singleton, List.mem_singleton] at hnew
          rw [hnew]
          exact (hinside _).mp hmem
      · rw [hadoop_of_notMem hcurrent hmem]
        have hlinks := Home.configHadoop_of_current (c := r'.site)
          (s := { s.unpack archive r'.version with inside := r'.version :: s.inside }) hcurrent
        refine ⟨hlinks.1, fun v => ?_⟩
        rw [hlinks.2.1, List.mem_cons, hinside, List.map_append, List.mem_append,
          List.map_singleton, List.mem_singleton]
        exact Or.comm

/-- What is at the path {lit}`conf` of an installation. -/
inductive Conf (C : Type) where
  | missing
  /-- A directory, with the file that the role has copied to it. -/
  | directory (site : Option C)
  /-- A file in the place of the directory. -/
  | file (site : C)
deriving DecidableEq

/-- A directory for a version of Hive or Spark. -/
structure Installation (W C : Type) where
  /-- The files of the archive are in the directory. -/
  unpacked : Bool
  /-- The directories of archives that are in the directory, as they were unpacked.  Besides the
  version their names have what {lit}`W` stands for. -/
  nested : List W
  conf : Conf C
deriving DecidableEq

/-- The directories of the versions. -/
abbrev Installations (V W C : Type) := V → Option (Installation W C)

/-- The path of the logs of Spark is below the directory of the version. -/
def createSparkPath (v : V) (s : Installations V W C) : Installations V W C :=
  match s v with
  | none => Function.update s v (some ⟨false, [], .missing⟩)
  | some _ => s

/-- The tasks {lit}`Unzip Hive` and {lit}`Unzip Spark`, {lit}`none` if they fail. -/
def unzip (v : V) (w : W) (s : Installations V W C) : Option (Installations V W C) :=
  match s v with
  | none => some (Function.update s v (some ⟨true, [], .directory none⟩))
  | some d =>
      if w ∈ d.nested then none
      else some (Function.update s v (some { d with nested := w :: d.nested }))

/-- A template is copied to the path {lit}`conf`, or into it if it is a directory. -/
def Conf.copy (c : C) : Conf C → Conf C
  | .directory _ => .directory (some c)
  | _ => .file c

/-- The tasks {lit}`Copy Hive Site` and {lit}`Copy spark default conf`. -/
def copySite (v : V) (c : C) (s : Installations V W C) : Installations V W C :=
  Function.update s v ((s v).map fun d => { d with conf := d.conf.copy c })

/-- A run of the role {lit}`hive`, where the version tells the archive. -/
def hive (s : Installations V Unit C) (r : RoleRun V C) : Installations V Unit C :=
  match unzip r.version () s with
  | none => s
  | some s' => copySite r.version r.site s'

/-- A run of the role {lit}`spark`, where the archive is also told by {lit}`hadoop_spa_version`. -/
structure SparkRun (V W C : Type) extends RoleRun V C where
  hadoopSpaVersion : W

/-- A run of the role {lit}`spark`. -/
def spark (s : Installations V W C) (r : SparkRun V W C) : Installations V W C :=
  match unzip r.version r.hadoopSpaVersion (createSparkPath r.version s) with
  | none => createSparkPath r.version s
  | some s' => copySite r.version r.site s'

/-- The configurations of the runs for a version. -/
def sitesFor (v : V) (rs : List (RoleRun V C)) : List C :=
  (rs.filter (fun r => r.version = v)).map RoleRun.site

/-- The directory of a version of Hive after runs with these configurations. -/
def hiveAfter : List C → Option (Installation Unit C)
  | [] => none
  | [c] => some ⟨true, [], .directory (some c)⟩
  | _ :: c :: _ => some ⟨true, [()], .directory (some c)⟩

/-- The runs with an archive that neither an earlier one nor the list has. -/
def newArchives (seen : List W) : List (SparkRun V W C) → List (SparkRun V W C)
  | [] => []
  | r :: rs =>
      if r.hadoopSpaVersion ∈ seen then newArchives seen rs
      else r :: newArchives (r.hadoopSpaVersion :: seen) rs

/-- The directory of a version of Spark after these runs for it. -/
def sparkAfter (rs : List (SparkRun V W C)) : Option (Installation W C) :=
  (newArchives [] rs).getLast?.map fun r =>
    ⟨false, ((newArchives [] rs).map SparkRun.hadoopSpaVersion).reverse, .file r.site⟩

/-- A step for one version leaves the others alone. -/
theorem unzip_of_ne {s s' : Installations V W C} {v v' : V} {w : W} (hv : v' ≠ v)
    (hunzip : unzip v w s = some s') : s' v' = s v' := by
  unfold unzip at hunzip
  split at hunzip
  · cases hunzip
    exact Function.update_of_ne hv _ _
  · split at hunzip
    · cases hunzip
    · cases hunzip
      exact Function.update_of_ne hv _ _

/-- A run for one version leaves the others alone. -/
theorem hive_of_ne {s : Installations V Unit C} {r : RoleRun V C} {v : V} (hv : v ≠ r.version) :
    hive s r v = s v := by
  unfold hive
  cases hunzip : unzip r.version () s with
  | none => rfl
  | some s' => exact (Function.update_of_ne hv _ _).trans (unzip_of_ne hv hunzip)

theorem spark_of_ne {s : Installations V W C} {r : SparkRun V W C} {v : V}
    (hv : v ≠ r.version) : spark s r v = s v := by
  have hpath : createSparkPath r.version s v = s v := by
    unfold createSparkPath
    cases s r.version with
    | none => exact Function.update_of_ne hv _ _
    | some d => rfl
  unfold spark
  cases hunzip : unzip r.version r.hadoopSpaVersion (createSparkPath r.version s) with
  | none => exact hpath
  | some s' =>
      exact (Function.update_of_ne hv _ _).trans ((unzip_of_ne hv hunzip).trans hpath)

/-- A run of Hive for a version that has had these configurations. -/
theorem hive_self {s : Installations V Unit C} {r : RoleRun V C} {cs : List C}
    (hs : s r.version = hiveAfter cs) : hive s r r.version = hiveAfter (cs ++ [r.site]) := by
  match cs with
  | [] => simp [hive, unzip, hs, hiveAfter, copySite, Conf.copy]
  | [c] => simp [hive, unzip, hs, hiveAfter, copySite, Conf.copy]
  | _ :: c :: _ => simp [hive, unzip, hs, hiveAfter]

omit [DecidableEq V] in
/-- One run more has a new archive, or not. -/
theorem newArchives_append (seen : List W) (rs : List (SparkRun V W C)) (r : SparkRun V W C) :
    newArchives seen (rs ++ [r]) = newArchives seen rs ++
      if r.hadoopSpaVersion ∈ seen ∨
          r.hadoopSpaVersion ∈ (newArchives seen rs).map SparkRun.hadoopSpaVersion then []
      else [r] := by
  induction rs generalizing seen with
  | nil => by_cases hseen : r.hadoopSpaVersion ∈ seen <;> simp [newArchives, hseen]
  | cons r' rs ih =>
      by_cases hseen : r'.hadoopSpaVersion ∈ seen
      · simp only [List.cons_append, newArchives, if_pos hseen, ih]
      · simp only [List.cons_append, newArchives, if_neg hseen, ih, List.map_cons, List.mem_cons,
          or_assoc, or_left_comm]

/-- A run of Spark with an archive that is there. -/
theorem spark_of_mem {s : Installations V W C} {r : SparkRun V W C} {d : Installation W C}
    (hs : s r.version = some d) (hmem : r.hadoopSpaVersion ∈ d.nested) :
    spark s r r.version = some d := by
  simp [spark, createSparkPath, unzip, hs, hmem]

/-- A run of Spark with another archive. -/
theorem spark_of_notMem {s : Installations V W C} {r : SparkRun V W C} {d : Installation W C}
    (hs : s r.version = some d) (hmem : r.hadoopSpaVersion ∉ d.nested) :
    spark s r r.version =
      some { d with nested := r.hadoopSpaVersion :: d.nested, conf := d.conf.copy r.site } := by
  simp [spark, createSparkPath, unzip, hs, hmem, copySite]

/-- A run of Spark for a version that has had these runs. -/
theorem spark_self {s : Installations V W C} {r : SparkRun V W C} {rs : List (SparkRun V W C)}
    (hs : s r.version = sparkAfter rs) : spark s r r.version = sparkAfter (rs ++ [r]) := by
  have hmore := newArchives_append [] rs r
  simp only [List.not_mem_nil, false_or] at hmore
  unfold sparkAfter at hs ⊢
  rw [hmore]
  rcases (newArchives [] rs).eq_nil_or_concat with hnil | ⟨before, last, hconcat⟩
  · simp [spark, createSparkPath, unzip, hs, hnil, copySite, Conf.copy]
  · rw [hconcat, List.concat_eq_append] at hs ⊢
    rw [List.getLast?_concat, Option.map_some] at hs
    by_cases hold : r.hadoopSpaVersion ∈ (before ++ [last]).map SparkRun.hadoopSpaVersion
    · rw [if_pos hold, List.append_nil, List.getLast?_concat, Option.map_some,
        spark_of_mem hs (List.mem_reverse.mpr hold)]
    · rw [if_neg hold, List.getLast?_concat, Option.map_some,
        spark_of_notMem hs fun hmem => hold (List.mem_reverse.mp hmem)]
      simp [Conf.copy]

omit [DecidableEq W] in
/-- A role whose run for a version is told by the runs for it. -/
theorem run_eq_after {R : Type} {version : R → V}
    {role : Installations V W C → R → Installations V W C}
    {a : List R → Option (Installation W C)} (hnil : a [] = none)
    (hne : ∀ s r v, v ≠ version r → role s r v = s v)
    (hself : ∀ s r rs, s (version r) = a rs → role s r (version r) = a (rs ++ [r]))
    (rs : List R) (v : V) :
    run role (fun _ => none) rs v = a (rs.filter fun r => version r = v) := by
  induction rs using List.reverseRecOn with
  | nil => exact hnil.symm
  | append_singleton rs r ih =>
      rw [run_append, run_cons, run_nil, List.filter_append]
      by_cases hv : v = version r
      · subst hv
        rw [hself _ r _ ih]
        simp
      · rw [hne _ r v hv, ih]
        simp [Ne.symm hv]

/--
Over any runs of the Hive role, the directory of a version has the configuration of the second
run for it, or of the first if there is no other; the third and all later ones change nothing.
-/
theorem hive_configured_twice (rs : List (RoleRun V C)) (v : V) :
    run hive (fun _ => none) rs v = hiveAfter (sitesFor v rs) := by
  refine run_eq_after (a := fun rs => hiveAfter (rs.map RoleRun.site)) rfl
    (fun _ _ _ hv => hive_of_ne hv) (fun s r rs hs => ?_) rs v
  rw [List.map_append]
  exact hive_self hs

/--
Over any runs of the Spark role, the directory of a version has the files of its archives one
level too deep, and a file with the configuration of the last run with a new archive in the place
of the directory for configurations; a run with an archive that an earlier one had changes nothing.
-/
theorem spark_configured_once (rs : List (SparkRun V W C)) (v : V) :
    run spark (fun _ => none) rs v = sparkAfter (rs.filter fun r => r.version = v) :=
  run_eq_after (a := sparkAfter) rfl (fun _ _ _ hv => spark_of_ne hv)
    (fun _ _ _ hs => spark_self hs) rs v

end Hadoop
end ClusterPlaybooks
