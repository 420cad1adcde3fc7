import ClusterPlaybooks.Mysql.MyCnf

/-!
# The addresses of a cluster in the configuration file

The setup of group replication writes the address of the host and the addresses of all hosts of
the group into {lit}`my.cnf`.  The setup of an XtraDB cluster removes the comment signs of the
cluster settings and writes the address of the cluster.  Both write a list in which every
address is followed by a comma, and remove the last comma afterwards.

Main results:

- Theorem {lit}`setupMgr_append` and theorem {lit}`setupPxc_append`: what the tasks of a setup make
  of a file with the lines they look for.
- Theorem {lit}`myCnf_group` and theorem {lit}`myCnf_pxc`: the rendered file has these lines.
- Theorem {lit}`setups_exact`: the setups change the lines they should, and a later run replaces
  an earlier one.
-/

namespace ClusterPlaybooks
namespace MyCnf

open Text

/-! ## The setups -/

/-- The name of a node. -/
structure NodeName where
  text : List Char
  ne_nil : text ≠ []
  chars : text.all (fun c => c.isAlphanum || c == '.' || c == '-') = true

/-- The address of a node in a group. -/
def seed (v : Vars) (n : NodeName) : List Char :=
  n.text ++ ':' :: Nat.toDigits 10 v.groupSeedPort

/-- The line with the address of the host. -/
def localAddress : Line :=
  ⟨"group_replication_local_address = '", [(.text .ansibleHost, ":"), (.groupSeedPort, "'")]⟩

/-- The tasks that edit the file for group replication. -/
def setupMgr (v : Vars) (nodes : List NodeName) (f : TextFile) : TextFile :=
  (setLine (occurs seedsKey)
    ("group_replication_group_seeds = '".toList ++
      ((nodes.flatMap fun n => seed v n ++ [',']) ++ ['\'']))
    (setLine (occurs localKey) (localAddress.render v) f)).map (trimAfter seedsKey)

/-- The tasks that edit the file for an XtraDB cluster. -/
def setupPxc (nodes : List NodeName) (f : TextFile) : TextFile :=
  (setLine (occurs addressKey)
    ("wsrep_cluster_address = 'gcomm://".toList ++
      ((nodes.flatMap fun n => n.text ++ [',']) ++ ['\'']))
    (f.map (uncomment wsrepKey))).map (trimAfter addressKey)

/-! ## What the setups are for -/

/-- The addresses of all nodes of a group, separated by commas. -/
def seeds (v : Vars) (nodes : List NodeName) : List Char :=
  [','].intercalate (nodes.map (seed v))

/-- The line with the addresses of all nodes. -/
def seedsLine (v : Vars) (nodes : List NodeName) : List Char :=
  "group_replication_group_seeds = '".toList ++ (seeds v nodes ++ ['\''])

/-- The names of all nodes of a cluster, separated by commas. -/
def members (nodes : List NodeName) : List Char :=
  [','].intercalate (nodes.map NodeName.text)

/-- The line with the address of the cluster. -/
def addressLine (nodes : List NodeName) : List Char :=
  "wsrep_cluster_address = 'gcomm://".toList ++ (members nodes ++ ['\''])

/-- What becomes of a line for group replication. -/
def mgrEdit (v : Vars) (nodes : List NodeName) (m : List Char) : List Char :=
  if occurs localKey m then localAddress.render v
  else if occurs seedsKey m then seedsLine v nodes
  else m

/-- What becomes of a line for an XtraDB cluster. -/
def pxcEdit (nodes : List NodeName) (m : List Char) : List Char :=
  if occurs addressKey m then addressLine nodes
  else if ('#' :: wsrepKey).isPrefixOf m then m.drop 1
  else m

/-- The section of the first line of this text: the last line before it that begins a section. -/
def sectionOf (m : List Char) (f : TextFile) : Option (List Char) :=
  ((f.takeWhile (· ≠ m)).filter isHeader).getLast?

/--
The file is edited line by line, and each key is in exactly one line, the given one, which is in
the server section.
-/
structure Exact (f f' : TextFile) (edit : List Char → List Char)
    (set : List (List Char × List Char)) : Prop where
  edited : f' = f.map edit
  single : ∀ p ∈ set, f'.filter (occurs p.1) = [p.2]
  inSection : ∀ p ∈ set, sectionOf p.2 f' = some mysqldHeader.toList

/-- A list neither begins nor ends with a comma. -/
def NoOuterComma (w : List Char) : Prop :=
  w.head? ≠ some ',' ∧ w.getLast? ≠ some ','

/-- The setup of group replication is exact, and only its last run counts. -/
def MgrExact (v : Vars) (f : TextFile) : Prop :=
  ∀ nodes, nodes ≠ [] →
    Exact f (setupMgr v nodes f) (mgrEdit v nodes)
      [(localKey, localAddress.render v), (seedsKey, seedsLine v nodes)] ∧
    NoOuterComma (seeds v nodes) ∧
    ∀ runs : List (List NodeName), (∀ r ∈ runs, r ≠ []) →
      (runs ++ [nodes]).foldl (fun g r => setupMgr v r g) f = setupMgr v nodes f

/-- The setup of an XtraDB cluster is exact, and only its last run counts. -/
def PxcExact (f : TextFile) : Prop :=
  ∀ nodes, nodes ≠ [] →
    Exact f (setupPxc nodes f) (pxcEdit nodes) [(addressKey, addressLine nodes)] ∧
    (∀ m ∈ setupPxc nodes f, occurs ('#' :: wsrepKey) m = false) ∧
    NoOuterComma (members nodes) ∧
    ∀ runs : List (List NodeName), (∀ r ∈ runs, r ≠ []) →
      (runs ++ [nodes]).foldl (fun g r => setupPxc r g) f = setupPxc nodes f

/-! ## Lists of addresses -/

section Addresses

variable {v : Vars} {nodes : List NodeName} {k : List Char} {c : Char}

/-- Parts that are each followed by a comma are separated by commas and followed by one. -/
theorem flatMap_comma {α : Type} (part : α → List Char) {xs : List α} (hxs : xs ≠ []) :
    (xs.flatMap fun x => part x ++ [',']) = [','].intercalate (xs.map part) ++ [','] := by
  cases xs with
  | nil => exact absurd rfl hxs
  | cons x xs =>
      rw [List.map_cons, intercalate_cons, List.flatMap_cons]
      induction xs generalizing x with
      | nil => simp
      | cons y xs ih =>
          rw [List.flatMap_cons, List.map_cons, List.flatMap_cons, ih y (by simp)]
          simp

/-- A list of parts without commas neither begins nor ends with a comma. -/
theorem noOuterComma_intercalate {parts : List (List Char)} (hne : parts ≠ [])
    (hparts : ∀ w ∈ parts, w ≠ [] ∧ ',' ∉ w) : NoOuterComma ([','].intercalate parts) := by
  cases parts with
  | nil => exact absurd rfl hne
  | cons part parts =>
      constructor
      · rw [intercalate_cons, List.head?_append_of_ne_nil _ (hparts part List.mem_cons_self).1]
        exact fun hhead => (hparts part List.mem_cons_self).2 (List.mem_of_mem_head? hhead)
      · induction parts generalizing part with
        | nil =>
            rw [List.intercalate_singleton]
            exact fun hlast => (hparts part List.mem_cons_self).2 (List.mem_of_getLast? hlast)
        | cons w parts ih =>
            have hparts' := fun u hu => hparts u (List.mem_cons_of_mem part hu)
            have hnil : [','].intercalate (w :: parts) ≠ [] := by
              rw [intercalate_cons]
              simp [(hparts' w List.mem_cons_self).1]
            rw [List.intercalate_cons_cons, List.getLast?_append_of_ne_nil _ hnil]
            exact ih w (by simp) hparts'

/-- Other characters do not occur in the name of a node. -/
theorem notMem_node (hc : (c.isAlphanum || c == '.' || c == '-') = false) (n : NodeName) :
    c ∉ n.text := by
  intro hmem
  have hchar := List.all_eq_true.mp n.chars c hmem
  rw [hc] at hchar
  cases hchar

/-- Nor do they occur in its address, apart from the colon. -/
theorem notMem_seed (hc : (c.isAlphanum || c == '.' || c == '-') = false) (hcolon : c ≠ ':')
    (n : NodeName) : c ∉ seed v n := by
  have hdigit : c.isDigit = false := by
    simp only [Char.isAlphanum, Bool.or_eq_false_iff] at hc
    exact hc.1.1.2
  rw [seed, List.mem_append, List.mem_cons]
  rintro (hmem | heq | hmem)
  · exact notMem_node hc n hmem
  · exact hcolon heq
  · exact notMem_toDigits hdigit _ hmem

/-- A list of addresses neither begins nor ends with a comma. -/
theorem noOuterComma_seeds (hnodes : nodes ≠ []) : NoOuterComma (seeds v nodes) := by
  apply noOuterComma_intercalate (by simpa using hnodes)
  intro w hw
  rcases List.mem_map.mp hw with ⟨n, _, rfl⟩
  exact ⟨by simp [seed], notMem_seed rfl (by decide) n⟩

/-- A list of names neither begins nor ends with a comma. -/
theorem noOuterComma_members (hnodes : nodes ≠ []) : NoOuterComma (members nodes) := by
  apply noOuterComma_intercalate (by simpa using hnodes)
  intro w hw
  rcases List.mem_map.mp hw with ⟨n, _, rfl⟩
  exact ⟨n.ne_nil, notMem_node rfl n⟩

/-- The text before the addresses begins with its key. -/
theorem seedsText_eq :
    "group_replication_group_seeds = '".toList = seedsKey ++ [' ', '=', ' ', '\''] := by
  unfold seedsKey
  rw [String.toList_ofList, String.toList_ofList]
  rfl

/-- The text before the address of the cluster begins with its key. -/
theorem addressText_eq :
    "wsrep_cluster_address = 'gcomm://".toList =
      addressKey ++ [' ', '=', ' ', '\'', 'g', 'c', 'o', 'm', 'm', ':', '/', '/'] := by
  unfold addressKey
  rw [String.toList_ofList, String.toList_ofList]
  rfl

/-- The text before the address of the host begins with its key. -/
theorem localText_eq :
    "group_replication_local_address = '".toList = localKey ++ [' ', '=', ' ', '\''] := by
  unfold localKey
  rw [String.toList_ofList, String.toList_ofList]
  rfl

/-- The last comma of the list of addresses is removed. -/
theorem trimAfter_seeds (hnodes : nodes ≠ []) :
    trimAfter seedsKey ("group_replication_group_seeds = '".toList ++
      ((nodes.flatMap fun n => seed v n ++ [',']) ++ ['\''])) = seedsLine v nodes := by
  have htrim := trimAfter_append (searchable seedsKey_mem).ne_nil
    ([' ', '=', ' ', '\''] ++ seeds v nodes)
  unfold seedsLine
  rw [flatMap_comma (seed v) hnodes, seedsText_eq]
  simpa [commaQuote, seeds] using htrim

/-- The last comma of the list of names is removed. -/
theorem trimAfter_members (hnodes : nodes ≠ []) :
    trimAfter addressKey ("wsrep_cluster_address = 'gcomm://".toList ++
      ((nodes.flatMap fun n => n.text ++ [',']) ++ ['\''])) = addressLine nodes := by
  have htrim := trimAfter_append (searchable addressKey_mem).ne_nil
    ([' ', '=', ' ', '\'', 'g', 'c', 'o', 'm', 'm', ':', '/', '/'] ++ members nodes)
  unfold addressLine
  rw [flatMap_comma NodeName.text hnodes, addressText_eq]
  simpa [commaQuote, members] using htrim

end Addresses

/-! ## The new lines -/

section NewLines

variable {v : Vars} {nodes : List NodeName} {k : List Char}

/-- The line with the address of the host has its key. -/
theorem occurs_localKey : occurs localKey (localAddress.render v) = true := by
  rw [occurs_iff, localAddress, Line.render, localText_eq, List.append_assoc]
  exact (List.prefix_append localKey _).isInfix

/-- Its pieces have no other key and no opening bracket. -/
theorem checked_localAddress : Checked [['['], seedsKey] localAddress := by
  unfold seedsKey localAddress
  rw [String.toList_ofList]
  exact checked_values (by decide +kernel) (by decide +kernel) (by decide +kernel)

/-- It does not have the key of the other line. -/
theorem occurs_localAddress (hv : ValuesFree seedsKey v) :
    occurs seedsKey (localAddress.render v) = false :=
  occurs_render (searchable seedsKey_mem) (List.mem_cons_of_mem _ List.mem_cons_self) hv
    checked_localAddress

/-- The line with the addresses of all nodes has its key. -/
theorem occurs_seedsKey : occurs seedsKey (seedsLine v nodes) = true := by
  unfold seedsLine
  rw [occurs_iff, seedsText_eq, List.append_assoc]
  exact (List.prefix_append seedsKey _).isInfix

/-- The line with the address of the cluster has its key. -/
theorem occurs_addressKey : occurs addressKey (addressLine nodes) = true := by
  unfold addressLine
  rw [occurs_iff, addressText_eq, List.append_assoc]
  exact (List.prefix_append addressKey _).isInfix

/-- The line with the addresses of all nodes does not have the key of the host. -/
theorem occurs_seedsLine : occurs localKey (seedsLine v nodes) = false := by
  have hkey : occurs localKey seedsKey = false := by
    unfold localKey seedsKey
    rw [String.toList_ofList, String.toList_ofList]
    decide +kernel
  have hmark : '_' ∈ localKey := by
    unfold localKey
    simp
  have hseeds : '_' ∉ seeds v nodes := by
    apply notMem_intercalate (by simp)
    intro w hw
    rcases List.mem_map.mp hw with ⟨n, _, rfl⟩
    exact notMem_seed rfl (by decide) n
  have hrest : occurs localKey (['=', ' ', '\''] ++ (seeds v nodes ++ ['\''])) = false :=
    occurs_eq_false hmark (by simp [hseeds])
  have hsplit : seedsLine v nodes =
      seedsKey ++ ' ' :: (['=', ' ', '\''] ++ (seeds v nodes ++ ['\''])) := by
    unfold seedsLine
    rw [seedsText_eq, List.append_assoc]
    rfl
  rw [hsplit, occurs_break (searchable localKey_mem) rfl, hkey, hrest]
  rfl

/-- The line with the address of the cluster is not commented out. -/
theorem occurs_addressLine : occurs ('#' :: wsrepKey) (addressLine nodes) = false := by
  have hkey : '#' ∉ addressKey := by
    unfold addressKey
    simp
  have hmembers : '#' ∉ members nodes := by
    apply notMem_intercalate (by simp)
    intro w hw
    rcases List.mem_map.mp hw with ⟨n, _, rfl⟩
    exact notMem_node rfl n
  apply occurs_eq_false List.mem_cons_self
  unfold addressLine
  rw [addressText_eq]
  simp [hkey, hmembers]

end NewLines

/-! ## The setups on files with the lines they look for -/

section Setups

variable {v : Vars} {nodes : List NodeName} {a b : TextFile} {l l' : List Char}

/-- What the setup of group replication makes of a file with its two lines. -/
theorem setupMgr_append (hnodes : nodes ≠ []) (hv : ValuesFree seedsKey v)
    (ha : ∀ m ∈ a, occurs seedsKey m = false)
    (hb : ∀ m ∈ b, occurs localKey m = false ∧ occurs seedsKey m = false)
    (hl : occurs localKey l = true) (hl' : occurs localKey l' = false)
    (hseeds : occurs seedsKey l' = true) :
    setupMgr v nodes (a ++ l :: l' :: b) =
      a ++ localAddress.render v :: seedsLine v nodes :: b := by
  have hafter : ∀ m ∈ l' :: b, occurs localKey m = false :=
    List.forall_mem_cons.mpr ⟨hl', fun m hm => (hb m hm).1⟩
  have hlocal : occurs seedsKey (localAddress.render v) = false :=
    occurs_localAddress hv
  have hbefore : ∀ m ∈ a ++ [localAddress.render v], trimAfter seedsKey m = m := by
    intro m hm
    apply trimAfter_of_not_occurs
    rcases List.mem_append.mp hm with hm | hm
    · exact ha m hm
    · rw [List.mem_singleton.mp hm]
      exact hlocal
  have hbehind : ∀ m ∈ b, trimAfter seedsKey m = m := fun m hm =>
    trimAfter_of_not_occurs (hb m hm).2
  have hsplit : a ++ localAddress.render v :: l' :: b =
      (a ++ [localAddress.render v]) ++ l' :: b := by
    simp
  unfold setupMgr
  rw [setLine_append hl hafter, hsplit, setLine_append hseeds fun m hm => (hb m hm).2,
    List.map_append, List.map_cons, trimAfter_seeds hnodes, map_eq_self hbefore,
    map_eq_self hbehind, List.append_assoc, List.singleton_append]

/-- What the setup of an XtraDB cluster makes of a file with its line. -/
theorem setupPxc_append (hnodes : nodes ≠ [])
    (ha : ∀ m ∈ a, occurs addressKey (uncomment wsrepKey m) = false)
    (hb : ∀ m ∈ b, occurs addressKey (uncomment wsrepKey m) = false)
    (hl : occurs addressKey (uncomment wsrepKey l) = true) :
    setupPxc nodes (a ++ l :: b) =
      a.map (uncomment wsrepKey) ++ addressLine nodes :: b.map (uncomment wsrepKey) := by
  have hkeep : ∀ f : TextFile, (∀ m ∈ f, occurs addressKey (uncomment wsrepKey m) = false) →
      ∀ m ∈ f.map (uncomment wsrepKey), occurs addressKey m = false := by
    intro f hf m hm
    rcases List.mem_map.mp hm with ⟨n, hn, rfl⟩
    exact hf n hn
  unfold setupPxc
  rw [List.map_append, List.map_cons, setLine_append hl (hkeep b hb), List.map_append,
    List.map_cons, trimAfter_members hnodes,
    map_eq_self fun m hm => trimAfter_of_not_occurs (hkeep a ha m hm),
    map_eq_self fun m hm => trimAfter_of_not_occurs (hkeep b hb m hm)]

end Setups

/-! ## Sections -/

/-- The section of a line is the last one that begins before it. -/
theorem sectionOf_append {m h : List Char} {a d b : TextFile} (hne : ∀ n ∈ a ++ h :: d, n ≠ m)
    (hh : isHeader h = true) (hd : ∀ n ∈ d, isHeader n = false) :
    sectionOf m (a ++ h :: (d ++ m :: b)) = some h := by
  have htake : (a ++ h :: (d ++ m :: b)).takeWhile (· ≠ m) = a ++ h :: d := by
    have hsplit : a ++ h :: (d ++ m :: b) = (a ++ h :: d) ++ m :: b := by simp
    rw [hsplit, List.takeWhile_append_of_pos (by simpa using hne)]
    simp
  have hnone : d.filter isHeader = [] := by
    rw [List.filter_eq_nil_iff]
    intro n hn
    rw [hd n hn]
    simp
  rw [sectionOf, htake, List.filter_append, List.filter_cons_of_pos hh, hnone]
  simp

/-! ## Files of broken lines -/

section Broken

variable {k m : List Char} {ls ls' : List (List Char)}

/-- The lines of a file from rendered lines, which may have line breaks. -/
def broken (ls : List (List Char)) : TextFile :=
  ls.flatMap (List.splitOn '\n')

/-- Two lists of rendered lines. -/
theorem broken_append (ls ls' : List (List Char)) : broken (ls ++ ls') = broken ls ++ broken ls' :=
  List.flatMap_append

/-- A text that is in no rendered line is in no line of the file. -/
theorem occurs_broken (hls : ∀ n ∈ ls, occurs k n = false) :
    ∀ m ∈ broken ls, occurs k m = false := by
  intro m hm
  rcases List.mem_flatMap.mp hm with ⟨n, hn, hmn⟩
  exact occurs_part_eq_false (infix_of_mem_splitOn hmn) (hls n hn)

/-- A line without a line break stays one line. -/
theorem splitOn_of_not_occurs (hm : occurs ['\n'] m = false) : m.splitOn '\n' = [m] := by
  apply List.splitOn_eq_singleton
  intro hmem
  rw [Bool.eq_false_iff, Ne, occurs_iff] at hm
  exact hm (List.singleton_infix_iff _ _ |>.mpr hmem)

/-- Rendered lines without line breaks are the lines of the file. -/
theorem broken_eq_self (hls : ∀ n ∈ ls, occurs ['\n'] n = false) : broken ls = ls := by
  induction ls with
  | nil => rfl
  | cons n ls ih =>
      rw [List.forall_mem_cons] at hls
      rw [broken, List.flatMap_cons, splitOn_of_not_occurs hls.1]
      exact congrArg (n :: ·) (ih hls.2)

end Broken

/-! ## The rendered file -/

section Rendered

variable {v : Vars} {k n : List Char}

/-- The lines of the server section before the address of the host. -/
def mgrServer (v : Vars) : List (List Char) :=
  rendered v serverBlocks ++ groupHead.map (Line.render v)

/-- The lines after the addresses of all hosts. -/
def mgrAfter (v : Vars) : List (List Char) :=
  groupTail.map (Line.render v) ++ [] :: (wsrepBlock.render v ++ rendered v restBlocks)

/-- The lines of the server section before the address of the cluster. -/
def pxcServer (v : Vars) : List (List Char) :=
  rendered v serverBlocks ++ (groupBlock.render v ++ [] ::
    (wsrepIntro.map (Line.render v) ++ wsrepHead.map fun l => '#' :: l.render v))

/-- The lines after the address of the cluster. -/
def pxcAfter (v : Vars) : List (List Char) :=
  (wsrepTail.map fun l => '#' :: l.render v) ++ rendered v restBlocks

/-- The lines before the server section and its first line. -/
def clientLines (v : Vars) : List (List Char) :=
  rendered v clientBlocks ++ [mysqldHeader.toList]

/-- The rendered block for XtraDB clusters. -/
theorem render_wsrepBlock (hpxc : v.mysqlBranch = .pxc) :
    wsrepBlock.render v = wsrepIntro.map (Line.render v) ++
      ((wsrepHead.map fun l => '#' :: l.render v) ++
        ('#' :: wsrepAddress.render v) :: wsrepTail.map fun l => '#' :: l.render v) := by
  have hcond : wsrepBlock.cond.holds v = true := by
    simp [wsrepBlock, Cond.holds, hpxc]
  rw [Block.render, if_pos hcond]
  simp [wsrepBlock, render_commented, Function.comp_def]

/-- The rendered template. -/
theorem rendered_template :
    rendered v template = clientLines v ++ (rendered v serverBlocks ++ (groupBlock.render v ++
      [] :: (wsrepBlock.render v ++ rendered v restBlocks))) := by
  have hheader : (⟨.always, [mysqldHeader]⟩ : Block).render v = [mysqldHeader.toList] := by
    simp [Block.render, Cond.holds, Line.render, renderRest]
  have hblank : (⟨.always, [""]⟩ : Block).render v = [[]] := by
    simp [Block.render, Cond.holds, Line.render, renderRest]
  simp only [template, rendered, clientLines, List.flatMap_append, List.flatMap_cons, hheader,
    hblank, List.append_assoc, List.cons_append, List.nil_append]

/-- The default addresses of a group are single lines. -/
theorem broken_addresses :
    broken [localDefault.render v, seedsDefault.render v] =
      [localDefault.render v, seedsDefault.render v] := by
  apply broken_eq_self
  rw [List.forall_mem_cons, List.forall_mem_singleton]
  exact ⟨occurs_render_static (List.mem_cons_of_mem _ List.mem_cons_self) rfl checked_localDefault,
    occurs_render_static (List.mem_cons_of_mem _ List.mem_cons_self) rfl checked_seedsDefault⟩

/-- The file with group replication. -/
theorem myCnf_group (hgroup : v.groupReplication = true) (hgtid : v.gtid = true) :
    myCnf v = broken (clientLines v ++ mgrServer v) ++
      localDefault.render v :: seedsDefault.render v :: broken (mgrAfter v) := by
  have hcond : groupBlock.cond.holds v = true := by
    simp [groupBlock, Cond.holds, hgroup, hgtid]
  have hrender : groupBlock.render v = groupHead.map (Line.render v) ++
      ([localDefault.render v, seedsDefault.render v] ++ groupTail.map (Line.render v)) := by
    rw [Block.render, if_pos hcond]
    simp [groupBlock]
  have hlines : rendered v template = (clientLines v ++ mgrServer v) ++
      ([localDefault.render v, seedsDefault.render v] ++ mgrAfter v) := by
    rw [rendered_template, hrender, mgrServer, mgrAfter]
    simp only [List.append_assoc, List.cons_append, List.nil_append]
  show broken (rendered v template) = _
  rw [hlines, broken_append, broken_append _ (mgrAfter v), broken_addresses]
  rfl

/-- The file with an XtraDB cluster. -/
theorem rendered_pxc (hpxc : v.mysqlBranch = .pxc) :
    rendered v template =
      (clientLines v ++ pxcServer v) ++ ('#' :: wsrepAddress.render v) :: pxcAfter v := by
  rw [rendered_template, render_wsrepBlock hpxc, pxcServer, pxcAfter]
  simp only [List.append_assoc, List.cons_append]

/-- A rendered line before the server section has no key. -/
theorem occurs_clientLines (hk : k ∈ keys) (hv : ValuesFree k v) (hn : n ∈ clientLines v) :
    occurs k n = false := by
  rcases List.mem_append.mp hn with hn | hn
  · rcases exists_of_mem_rendered hn with ⟨l, hl, rfl⟩
    exact occurs_outerLines hk hv (List.mem_append_left _ hl)
  · rw [List.mem_singleton.mp hn]
    exact occurs_mysqldHeader hk

/-- A rendered line after the server section has no key. -/
theorem occurs_restLines (hk : k ∈ keys) (hv : ValuesFree k v) (hn : n ∈ rendered v restBlocks) :
    occurs k n = false := by
  rcases exists_of_mem_rendered hn with ⟨l, hl, rfl⟩
  exact occurs_outerLines hk hv (List.mem_append_right _ hl)

end Rendered

/-! ## Lines of the server section -/

section Server

variable {v : Vars} {k n : List Char}

/-- A rendered line of the server section that is not edited. -/
def Plain (v : Vars) (n : List Char) : Prop :=
  n = [] ∨ ∃ l ∈ serverLines, l.render v = n

/-- A rendered line that is commented out. -/
def Commented (v : Vars) (n : List Char) : Prop :=
  ∃ l ∈ wsrepHead ++ wsrepTail, '#' :: l.render v = n

/-- The blocks before the one for group replication have plain lines. -/
theorem plain_serverBlocks (hn : n ∈ rendered v serverBlocks) : Plain v n := by
  rcases exists_of_mem_rendered hn with ⟨l, hl, rfl⟩
  exact Or.inr ⟨l, List.mem_append_left _ hl, rfl⟩

/-- Other lines of the section are plain. -/
theorem plain_map {ls : List Line} (hls : ls ⊆ serverLines) (hn : n ∈ ls.map (Line.render v)) :
    Plain v n := by
  rcases List.mem_map.mp hn with ⟨l, hl, rfl⟩
  exact Or.inr ⟨l, hls hl, rfl⟩

/-- The lines for group replication before the addresses are in the section. -/
theorem groupHead_subset : groupHead ⊆ serverLines := by
  intro l hl
  simp [serverLines, hl]

/-- The lines for group replication after the addresses are in the section. -/
theorem groupTail_subset : groupTail ⊆ serverLines := by
  intro l hl
  simp [serverLines, hl]

/-- The first lines for XtraDB clusters are in the section. -/
theorem wsrepIntro_subset : wsrepIntro ⊆ serverLines := by
  intro l hl
  simp [serverLines, hl]

/-- The settings of the cluster are in the section. -/
theorem wsrep_subset : wsrepHead ++ wsrepTail ⊆ serverLines := by
  intro l hl
  rcases List.mem_append.mp hl with hl | hl
  · simp [serverLines, hl]
  · simp [serverLines, hl]

/-- A plain line has no key. -/
theorem occurs_plain (hk : k ∈ keys) (hv : ValuesFree k v) (hn : Plain v n) :
    occurs k n = false := by
  rcases hn with rfl | ⟨l, hl, rfl⟩
  · exact occurs_nil hk
  · exact occurs_serverLines hk hv hl

/-- A plain line begins no section. -/
theorem isHeader_plain (hn : Plain v n) : isHeader n = false := by
  rcases hn with rfl | ⟨l, hl, rfl⟩
  · rfl
  · exact isHeader_render List.mem_cons_self (checked_serverLines l hl)

/-- The lines before the address of the host are plain. -/
theorem plain_mgrServer (hn : n ∈ mgrServer v) : Plain v n := by
  rcases List.mem_append.mp hn with hn | hn
  · exact plain_serverBlocks hn
  · exact plain_map groupHead_subset hn

/-- A comment sign is not part of the other keys. -/
theorem sharp_notMem : ∀ k ∈ [localKey, seedsKey, addressKey, ['\n']], '#' ∉ k := by
  have hsign : [localKey, seedsKey, addressKey, ['\n']].all (fun k => !k.contains '#') = true := by
    unfold localKey seedsKey addressKey
    rw [String.toList_ofList, String.toList_ofList, String.toList_ofList]
    decide +kernel
  intro k hk
  simpa using List.all_eq_true.mp hsign k hk

/-- The other keys are not found across a comment sign. -/
theorem occurs_comment (hk : k ∈ keys) (hsharp : k ∈ [localKey, seedsKey, addressKey, ['\n']])
    (w : List Char) : occurs k ('#' :: w) = occurs k w := by
  have hsplit : occurs k ([] ++ '#' :: w) = (occurs k [] || occurs k w) :=
    occurs_append_cons (searchable_keys k hk).ne_nil (sharp_notMem k hsharp)
  rwa [List.nil_append, occurs_nil hk, Bool.false_or] at hsplit

/-- A line that is commented out has none of the other keys. -/
theorem occurs_commented (hk : k ∈ keys) (hsharp : k ∈ [localKey, seedsKey, addressKey, ['\n']])
    (hv : ValuesFree k v) (hn : Commented v n) : occurs k n = false := by
  rcases hn with ⟨l, hl, rfl⟩
  rw [occurs_comment hk hsharp]
  exact occurs_serverLines hk hv (wsrep_subset hl)

/-- The lines of the block for group replication. -/
theorem mem_groupBlock (hn : n ∈ groupBlock.render v) :
    Plain v n ∨ n = localDefault.render v ∨ n = seedsDefault.render v := by
  unfold Block.render at hn
  split at hn
  · rcases List.mem_map.mp hn with ⟨l, hl, rfl⟩
    rcases List.mem_append.mp hl with hl | hl
    · exact Or.inl (plain_map groupHead_subset (List.mem_map_of_mem hl))
    · rcases List.mem_cons.mp hl with rfl | hl
      · exact Or.inr (Or.inl rfl)
      · rcases List.mem_cons.mp hl with rfl | hl
        · exact Or.inr (Or.inr rfl)
        · exact Or.inl (plain_map groupTail_subset (List.mem_map_of_mem hl))
  · cases hn

/-- The lines of the block for XtraDB clusters. -/
theorem mem_wsrepBlock (hn : n ∈ wsrepBlock.render v) :
    Plain v n ∨ Commented v n ∨ n = '#' :: wsrepAddress.render v := by
  have hcommented : ∀ {ls : List Line}, ls ⊆ wsrepHead ++ wsrepTail →
      ∀ l ∈ ls.map commented, Commented v (l.render v) := by
    intro ls hls l hl
    rcases List.mem_map.mp hl with ⟨l', hl', rfl⟩
    exact ⟨l', hls hl', (render_commented l').symm⟩
  unfold Block.render at hn
  split at hn
  · rcases List.mem_map.mp hn with ⟨l, hl, rfl⟩
    rcases List.mem_append.mp hl with hl | hl
    · exact Or.inl (plain_map wsrepIntro_subset (List.mem_map_of_mem hl))
    · rcases List.mem_append.mp hl with hl | hl
      · exact Or.inr (Or.inl (hcommented (List.subset_append_left _ _) l hl))
      · rcases List.mem_cons.mp hl with rfl | hl
        · exact Or.inr (Or.inr (render_commented wsrepAddress))
        · exact Or.inr (Or.inl (hcommented (List.subset_append_right _ _) l hl))
  · cases hn

end Server

/-! ## Group replication -/

section Mgr

variable {v : Vars} {nodes : List NodeName} {k m n : List Char}

/-- The keys of group replication. -/
theorem mem_keys_of_mgr (hk : k ∈ [localKey, seedsKey]) :
    k ∈ keys ∧ k ∈ [localKey, seedsKey, addressKey, ['\n']] := by
  rcases List.mem_cons.mp hk with rfl | hk
  · exact ⟨List.mem_cons_of_mem _ localKey_mem, List.mem_cons_self⟩
  · rw [List.mem_singleton.mp hk]
    exact ⟨List.mem_cons_of_mem _ seedsKey_mem, List.mem_cons_of_mem _ List.mem_cons_self⟩

/-- The lines before the addresses have no key. -/
theorem occurs_mgrBefore (hk : k ∈ [localKey, seedsKey]) (hv : ValuesFree k v)
    (hm : m ∈ broken (clientLines v ++ mgrServer v)) : occurs k m = false := by
  have hkeys := (mem_keys_of_mgr hk).1
  apply occurs_broken (fun n hn => ?_) m hm
  rcases List.mem_append.mp hn with hn | hn
  · exact occurs_clientLines hkeys hv hn
  · exact occurs_plain hkeys hv (plain_mgrServer hn)

/-- The lines after the addresses have no key. -/
theorem occurs_mgrAfter (hk : k ∈ [localKey, seedsKey]) (hv : ValuesFree k v)
    (hm : m ∈ broken (mgrAfter v)) : occurs k m = false := by
  rcases mem_keys_of_mgr hk with ⟨hkeys, hsharp⟩
  apply occurs_broken (fun n hn => ?_) m hm
  rcases List.mem_append.mp hn with hn | hn
  · exact occurs_plain hkeys hv (plain_map groupTail_subset hn)
  · rcases List.mem_cons.mp hn with rfl | hn
    · exact occurs_nil hkeys
    · rcases List.mem_append.mp hn with hn | hn
      · rcases mem_wsrepBlock hn with hplain | hcommented | haddress
        · exact occurs_plain hkeys hv hplain
        · exact occurs_commented hkeys hsharp hv hcommented
        · rw [haddress, occurs_comment hkeys hsharp]
          exact occurs_render_static (List.mem_append_right _ hk) rfl checked_wsrepAddress
      · exact occurs_restLines hkeys hv hn

/-- The default address of the host has its key. -/
theorem occurs_localDefault : occurs localKey (localDefault.render v) = true := by
  have hfound : occurs localKey localDefault.first.toList = true := by
    unfold localKey localDefault
    rw [String.toList_ofList, String.toList_ofList]
    decide +kernel
  rwa [← List.append_nil localDefault.first.toList] at hfound

/-- The default addresses of all hosts have their key. -/
theorem occurs_seedsDefault : occurs seedsKey (seedsDefault.render v) = true := by
  have hfound : occurs seedsKey seedsDefault.first.toList = true := by
    unfold seedsKey seedsDefault
    rw [String.toList_ofList, String.toList_ofList]
    decide +kernel
  rwa [← List.append_nil seedsDefault.first.toList] at hfound

/-- A file with the two lines between the other lines of the rendered file. -/
def MgrShape (v : Vars) (f : TextFile) : Prop :=
  ∃ l l', f = broken (clientLines v ++ mgrServer v) ++ l :: l' :: broken (mgrAfter v) ∧
    occurs localKey l = true ∧ occurs localKey l' = false ∧ occurs seedsKey l' = true

/-- The rendered file is one. -/
theorem mgrShape_myCnf (hgroup : v.groupReplication = true) (hgtid : v.gtid = true) :
    MgrShape v (myCnf v) := by
  refine ⟨_, _, myCnf_group hgroup hgtid, occurs_localDefault, ?_, occurs_seedsDefault⟩
  exact occurs_render_static (by simp) rfl checked_seedsDefault

/-- The setup gives the same file for all of them. -/
theorem setupMgr_shape (hlocal : ValuesFree localKey v) (hseeds : ValuesFree seedsKey v)
    (hnodes : nodes ≠ []) {f : TextFile} (hf : MgrShape v f) :
    setupMgr v nodes f = broken (clientLines v ++ mgrServer v) ++
      localAddress.render v :: seedsLine v nodes :: broken (mgrAfter v) := by
  rcases hf with ⟨l, l', rfl, hl, hl', hl''⟩
  apply setupMgr_append hnodes hseeds _ _ hl hl' hl''
  · exact fun m hm => occurs_mgrBefore (List.mem_cons_of_mem _ List.mem_cons_self) hseeds hm
  · exact fun m hm => ⟨occurs_mgrAfter List.mem_cons_self hlocal hm,
      occurs_mgrAfter (List.mem_cons_of_mem _ List.mem_cons_self) hseeds hm⟩

/-- The lines before the addresses are no addresses. -/
theorem ne_of_mem_mgrBefore {w : List Char} (hk : k ∈ [localKey, seedsKey]) (hv : ValuesFree k v)
    (hw : occurs k w = true) (hm : m ∈ broken (clientLines v ++ mgrServer v)) : m ≠ w := by
  rintro rfl
  rw [occurs_mgrBefore hk hv hm] at hw
  cases hw

/-- Without line breaks in the values, the lines before the addresses are the rendered ones. -/
theorem broken_mgrBefore (hline : ValuesFree ['\n'] v) :
    broken (clientLines v ++ mgrServer v) =
      rendered v clientBlocks ++ mysqldHeader.toList :: mgrServer v := by
  have hfree : ∀ n ∈ clientLines v ++ mgrServer v, occurs ['\n'] n = false := by
    intro n hn
    rcases List.mem_append.mp hn with hn | hn
    · exact occurs_clientLines List.mem_cons_self hline hn
    · exact occurs_plain List.mem_cons_self hline (plain_mgrServer hn)
  rw [broken_eq_self hfree, clientLines, List.append_assoc, List.singleton_append]

/-- The first line of the server section begins a section. -/
theorem isHeader_mysqldHeader : isHeader mysqldHeader.toList = true := by
  unfold mysqldHeader
  rw [String.toList_ofList]
  rfl

/-- The address of the host begins no section. -/
theorem isHeader_localAddress : isHeader (localAddress.render v) = false :=
  isHeader_render List.mem_cons_self checked_localAddress

/-- The two edited lines are in the server section. -/
theorem sectionOf_addresses (hlocal : ValuesFree localKey v) (hseeds : ValuesFree seedsKey v)
    (hline : ValuesFree ['\n'] v) {f : TextFile}
    (hf : f = broken (clientLines v ++ mgrServer v) ++
      localAddress.render v :: seedsLine v nodes :: broken (mgrAfter v)) :
    sectionOf (localAddress.render v) f = some mysqldHeader.toList ∧
      sectionOf (seedsLine v nodes) f = some mysqldHeader.toList := by
  have hserver : ∀ n ∈ mgrServer v, isHeader n = false := fun n hn =>
    isHeader_plain (plain_mgrServer hn)
  have hlocalNe : ∀ n ∈ broken (clientLines v ++ mgrServer v), n ≠ localAddress.render v :=
    fun n hn => ne_of_mem_mgrBefore List.mem_cons_self hlocal occurs_localKey hn
  have hseedsNe : ∀ n ∈ broken (clientLines v ++ mgrServer v), n ≠ seedsLine v nodes :=
    fun n hn => ne_of_mem_mgrBefore (List.mem_cons_of_mem _ List.mem_cons_self) hseeds
      occurs_seedsKey hn
  rw [broken_mgrBefore hline] at hf hlocalNe hseedsNe
  constructor
  · rw [hf, List.append_assoc, List.cons_append]
    exact sectionOf_append hlocalNe isHeader_mysqldHeader hserver
  · have hsplit : f = rendered v clientBlocks ++ mysqldHeader.toList ::
        ((mgrServer v ++ [localAddress.render v]) ++ seedsLine v nodes :: broken (mgrAfter v)) := by
      simp [hf]
    rw [hsplit]
    apply sectionOf_append _ isHeader_mysqldHeader
    · intro n hn
      rcases List.mem_append.mp hn with hn | hn
      · exact hserver n hn
      · rw [List.mem_singleton.mp hn]
        exact isHeader_localAddress
    · intro n hn
      rw [← List.cons_append, ← List.append_assoc] at hn
      rcases List.mem_append.mp hn with hn | hn
      · exact hseedsNe n hn
      · rw [List.mem_singleton.mp hn]
        intro heq
        have hkey : occurs seedsKey (seedsLine v nodes) = true := occurs_seedsKey
        rw [← heq, occurs_localAddress hseeds] at hkey
        cases hkey

/-- The other lines have none of the two keys. -/
theorem mgr_free (hlocal : ValuesFree localKey v) (hseeds : ValuesFree seedsKey v) :
    (∀ m ∈ broken (clientLines v ++ mgrServer v),
      occurs localKey m = false ∧ occurs seedsKey m = false) ∧
    ∀ m ∈ broken (mgrAfter v), occurs localKey m = false ∧ occurs seedsKey m = false := by
  have hseedsKey : seedsKey ∈ [localKey, seedsKey] := List.mem_cons_of_mem _ List.mem_cons_self
  constructor
  · exact fun m hm => ⟨occurs_mgrBefore List.mem_cons_self hlocal hm,
      occurs_mgrBefore hseedsKey hseeds hm⟩
  · exact fun m hm => ⟨occurs_mgrAfter List.mem_cons_self hlocal hm,
      occurs_mgrAfter hseedsKey hseeds hm⟩

/-- The setup edits every line on its own. -/
theorem setupMgr_eq_map (hlocal : ValuesFree localKey v) (hseeds : ValuesFree seedsKey v)
    (hnodes : nodes ≠ []) {f : TextFile} (hf : MgrShape v f) :
    setupMgr v nodes f = f.map (mgrEdit v nodes) := by
  rcases mgr_free hlocal hseeds with ⟨hbefore, hafter⟩
  have hkeep : ∀ m, occurs localKey m = false ∧ occurs seedsKey m = false →
      mgrEdit v nodes m = m := by
    rintro m ⟨hm, hm'⟩
    simp [mgrEdit, hm, hm']
  rw [setupMgr_shape hlocal hseeds hnodes hf]
  rcases hf with ⟨l, l', rfl, hl, hl', hl''⟩
  have heditl : mgrEdit v nodes l = localAddress.render v := if_pos hl
  have heditl' : mgrEdit v nodes l' = seedsLine v nodes := by
    simp [mgrEdit, hl', hl'']
  rw [List.map_append, List.map_cons, List.map_cons, heditl, heditl',
    map_eq_self fun m hm => hkeep m (hbefore m hm), map_eq_self fun m hm => hkeep m (hafter m hm)]

/-- After the setup each of the two keys is in one line. -/
theorem setupMgr_single (hlocal : ValuesFree localKey v) (hseeds : ValuesFree seedsKey v)
    (hnodes : nodes ≠ []) {f : TextFile} (hf : MgrShape v f) :
    (setupMgr v nodes f).filter (occurs localKey) = [localAddress.render v] ∧
      (setupMgr v nodes f).filter (occurs seedsKey) = [seedsLine v nodes] := by
  rcases mgr_free hlocal hseeds with ⟨hbefore, hafter⟩
  rw [setupMgr_shape hlocal hseeds hnodes hf]
  constructor
  · apply filter_eq_single occurs_localKey fun m hm => (hbefore m hm).1
    exact List.forall_mem_cons.mpr ⟨occurs_seedsLine, fun m hm => (hafter m hm).1⟩
  · rw [← List.singleton_append, ← List.append_assoc]
    apply filter_eq_single occurs_seedsKey _ fun m hm => (hafter m hm).2
    intro m hm
    rcases List.mem_append.mp hm with hm | hm
    · exact (hbefore m hm).2
    · rw [List.mem_singleton.mp hm]
      exact occurs_localAddress hseeds

/-- Of several runs of the setup only the last one counts. -/
theorem setupMgr_runs (hlocal : ValuesFree localKey v) (hseeds : ValuesFree seedsKey v)
    (hnodes : nodes ≠ []) {f : TextFile} (hf : MgrShape v f) {runs : List (List NodeName)}
    (hruns : ∀ r ∈ runs, r ≠ []) :
    (runs ++ [nodes]).foldl (fun g r => setupMgr v r g) f = setupMgr v nodes f := by
  apply foldl_last (setupMgr v) _ _ hruns hnodes hf
  · intro r g hr hg
    exact ⟨_, _, setupMgr_shape hlocal hseeds hr hg, occurs_localKey, occurs_seedsLine,
      occurs_seedsKey⟩
  · intro r g g' hr hg hg'
    rw [setupMgr_shape hlocal hseeds hr hg, setupMgr_shape hlocal hseeds hr hg']

/-- The setup of group replication is exact on the rendered file. -/
theorem mgrExact_myCnf (hgroup : v.groupReplication = true) (hgtid : v.gtid = true)
    (hlocal : ValuesFree localKey v) (hseeds : ValuesFree seedsKey v)
    (hline : ValuesFree ['\n'] v) : MgrExact v (myCnf v) := by
  intro nodes hnodes
  have hshape := mgrShape_myCnf hgroup hgtid
  have hsingle := setupMgr_single hlocal hseeds hnodes hshape
  have hsection := sectionOf_addresses hlocal hseeds hline
    (setupMgr_shape hlocal hseeds hnodes hshape)
  refine ⟨⟨setupMgr_eq_map hlocal hseeds hnodes hshape, ?_, ?_⟩, noOuterComma_seeds hnodes,
    fun runs hruns => setupMgr_runs hlocal hseeds hnodes hshape hruns⟩
  · rw [List.forall_mem_cons, List.forall_mem_singleton]
    exact hsingle
  · rw [List.forall_mem_cons, List.forall_mem_singleton]
    exact hsection

end Mgr

/-! ## XtraDB clusters -/

section Pxc

variable {v : Vars} {nodes : List NodeName} {m n : List Char} {f : TextFile}

/-- A line without the key that begins with a comment sign, if it is commented out. -/
def Settled (m : List Char) : Prop :=
  occurs addressKey m = false ∧ (occurs ('#' :: wsrepKey) m = false ∨
    ∃ w, m = '#' :: w ∧ wsrepKey <+: w ∧ occurs ('#' :: wsrepKey) w = false)

/-- The first comment sign of a settled line is removed, and the line is edited so. -/
theorem uncomment_settled (nodes : List NodeName) (hm : Settled m) :
    occurs addressKey (uncomment wsrepKey m) = false ∧
      occurs ('#' :: wsrepKey) (uncomment wsrepKey m) = false ∧
      pxcEdit nodes m = uncomment wsrepKey m := by
  rcases hm with ⟨haddress, hfree | ⟨w, rfl, hw, hfree⟩⟩
  · have hfront : ('#' :: wsrepKey).isPrefixOf m = false := by
      rw [Bool.eq_false_iff, Ne, List.isPrefixOf_iff_prefix]
      intro hfront
      rw [Bool.eq_false_iff, Ne, occurs_iff] at hfree
      exact hfree hfront.isInfix
    rw [uncomment_of_not_occurs hfree]
    exact ⟨haddress, hfree, by simp [pxcEdit, haddress, hfront]⟩
  · have hfront : ('#' :: wsrepKey).isPrefixOf ('#' :: w) = true :=
      List.isPrefixOf_iff_prefix.mpr (List.cons_prefix_cons.mpr ⟨rfl, hw⟩)
    have hsame : occurs addressKey ('#' :: w) = occurs addressKey w :=
      occurs_comment (List.mem_cons_of_mem _ addressKey_mem)
        (List.mem_cons_of_mem _ (List.mem_cons_of_mem _ List.mem_cons_self)) w
    rw [uncomment_comment hw, ← hsame]
    refine ⟨haddress, hfree, ?_⟩
    rw [pxcEdit, haddress, hfront]
    rfl

/-- A line with neither of the texts is settled. -/
theorem settled_of_free (hm : ∀ k ∈ [addressKey, '#' :: wsrepKey], occurs k m = false) :
    Settled m :=
  ⟨hm _ List.mem_cons_self, Or.inl (hm _ (List.mem_cons_of_mem _ List.mem_cons_self))⟩

/-- The texts are keys. -/
theorem mem_keys_of_pxc {k : List Char} (hk : k ∈ [addressKey, '#' :: wsrepKey]) : k ∈ keys := by
  rcases List.mem_cons.mp hk with rfl | hk
  · exact List.mem_cons_of_mem _ addressKey_mem
  · rw [List.mem_singleton.mp hk]
    exact List.mem_cons_of_mem _ wsrepKey_mem

/-- The settings of the cluster begin with the same text. -/
theorem prefix_wsrep {l : Line} (hl : l ∈ wsrepHead ++ wsrepTail) : wsrepKey <+: l.render v := by
  have hall : ∀ l ∈ wsrepHead ++ wsrepTail, wsrepKey.isPrefixOf l.first.toList = true := by
    unfold wsrepKey wsrepHead wsrepTail
    rw [String.toList_ofList]
    simp only [List.cons_append, List.nil_append, List.forall_mem_cons]
    refine ⟨?_, ?_, ?_, ?_, ?_, ?_, ?_, by simp⟩ <;> rw [String.toList_ofList] <;> rfl
  exact (List.isPrefixOf_iff_prefix.mp (hall l hl)).trans (List.prefix_append _ _)

/-- The kinds of lines in the server section before the address of the cluster. -/
theorem mem_pxcServer (hn : n ∈ pxcServer v) :
    Plain v n ∨ Commented v n ∨ n = localDefault.render v ∨ n = seedsDefault.render v := by
  rcases List.mem_append.mp hn with hn | hn
  · exact Or.inl (plain_serverBlocks hn)
  · rcases List.mem_append.mp hn with hn | hn
    · rcases mem_groupBlock hn with hn | hn
      · exact Or.inl hn
      · exact Or.inr (Or.inr hn)
    · rcases List.mem_cons.mp hn with hn | hn
      · exact Or.inl (Or.inl hn)
      · rcases List.mem_append.mp hn with hn | hn
        · exact Or.inl (plain_map wsrepIntro_subset hn)
        · rcases List.mem_map.mp hn with ⟨l, hl, hn⟩
          exact Or.inr (Or.inl ⟨l, List.mem_append_left _ hl, hn⟩)

section Free

variable (hv : ∀ k ∈ [addressKey, '#' :: wsrepKey], ValuesFree k v)
include hv

/-- The plain lines are settled. -/
theorem settled_plain (hn : Plain v n) : Settled n :=
  settled_of_free fun k hk => occurs_plain (mem_keys_of_pxc hk) (hv k hk) hn

/-- The lines that are commented out are settled. -/
theorem settled_commented (hn : Commented v n) : Settled n := by
  constructor
  · exact occurs_commented (List.mem_cons_of_mem _ addressKey_mem)
      (List.mem_cons_of_mem _ (List.mem_cons_of_mem _ List.mem_cons_self))
      (hv _ List.mem_cons_self) hn
  · rcases hn with ⟨l, hl, rfl⟩
    exact Or.inr ⟨_, rfl, prefix_wsrep hl, occurs_serverLines
      (List.mem_cons_of_mem _ wsrepKey_mem)
      (hv _ (List.mem_cons_of_mem _ List.mem_cons_self)) (wsrep_subset hl)⟩

/-- The lines of the server section before the address are settled. -/
theorem settled_pxcServer (hn : n ∈ pxcServer v) : Settled n := by
  rcases mem_pxcServer hn with hplain | hcommented | hlocal | hseeds
  · exact settled_plain hv hplain
  · exact settled_commented hv hcommented
  · rw [hlocal]
    exact settled_of_free fun k hk =>
      occurs_render_static (List.mem_append_right _ hk) rfl checked_localDefault
  · rw [hseeds]
    exact settled_of_free fun k hk =>
      occurs_render_static (List.mem_append_right _ hk) rfl checked_seedsDefault

/-- The lines before the server section are settled. -/
theorem settled_clientLines (hn : n ∈ clientLines v) : Settled n :=
  settled_of_free fun k hk => occurs_clientLines (mem_keys_of_pxc hk) (hv k hk) hn

/-- The lines after the address are settled. -/
theorem settled_pxcAfter (hn : n ∈ pxcAfter v) : Settled n := by
  rcases List.mem_append.mp hn with hn | hn
  · rcases List.mem_map.mp hn with ⟨l, hl, rfl⟩
    exact settled_commented hv ⟨l, List.mem_append_right _ hl, rfl⟩
  · exact settled_of_free fun k hk => occurs_restLines (mem_keys_of_pxc hk) (hv k hk) hn

/-- The lines before the address are settled. -/
theorem settled_pxcBefore (hn : n ∈ clientLines v ++ pxcServer v) : Settled n := by
  rcases List.mem_append.mp hn with hn | hn
  · exact settled_clientLines hv hn
  · exact settled_pxcServer hv hn

end Free

/-- Removing the comment signs of settled lines once is enough. -/
theorem uncomment_map {ls : TextFile} (hls : ∀ n ∈ ls, Settled n) :
    (ls.map (uncomment wsrepKey)).map (uncomment wsrepKey) = ls.map (uncomment wsrepKey) := by
  apply map_eq_self
  intro m hm
  rcases List.mem_map.mp hm with ⟨n, hn, rfl⟩
  exact uncomment_of_not_occurs (uncomment_settled [] (hls n hn)).2.1

/-- Files that differ from the rendered file in comment signs and in the line with the address. -/
def PxcShape (v : Vars) (f : TextFile) : Prop :=
  ∃ a l b, f = a ++ l :: b ∧ occurs addressKey (uncomment wsrepKey l) = true ∧
    a.map (uncomment wsrepKey) = (clientLines v ++ pxcServer v).map (uncomment wsrepKey) ∧
    b.map (uncomment wsrepKey) = (pxcAfter v).map (uncomment wsrepKey)

/-- The default address of the cluster has its key. -/
theorem occurs_wsrepAddress : occurs addressKey (wsrepAddress.render v) = true := by
  have hfound : occurs addressKey wsrepAddress.first.toList = true := by
    unfold addressKey wsrepAddress
    rw [String.toList_ofList, String.toList_ofList]
    decide +kernel
  rwa [← List.append_nil wsrepAddress.first.toList] at hfound

/-- The default address of the cluster loses its comment sign. -/
theorem uncomment_wsrepAddress :
    uncomment wsrepKey ('#' :: wsrepAddress.render v) = wsrepAddress.render v := by
  apply uncomment_comment
  have hfront : wsrepKey.isPrefixOf wsrepAddress.first.toList = true := by
    unfold wsrepKey wsrepAddress
    rw [String.toList_ofList, String.toList_ofList]
    rfl
  exact (List.isPrefixOf_iff_prefix.mp hfront).trans (List.prefix_append _ _)

section Setup

variable (hv : ∀ k ∈ [addressKey, '#' :: wsrepKey], ValuesFree k v)
include hv

/-- The setup gives the same file for all of them. -/
theorem setupPxc_shape (hnodes : nodes ≠ []) (hf : PxcShape v f) :
    setupPxc nodes f = (clientLines v ++ pxcServer v).map (uncomment wsrepKey) ++
      addressLine nodes :: (pxcAfter v).map (uncomment wsrepKey) := by
  have hfree : ∀ {ls ls' : TextFile}, ls.map (uncomment wsrepKey) = ls'.map (uncomment wsrepKey) →
      (∀ n ∈ ls', Settled n) → ∀ m ∈ ls, occurs addressKey (uncomment wsrepKey m) = false := by
    intro ls ls' heq hls m hm
    have hmem : uncomment wsrepKey m ∈ ls'.map (uncomment wsrepKey) :=
      heq ▸ List.mem_map_of_mem hm
    rcases List.mem_map.mp hmem with ⟨n, hn, hsame⟩
    rw [← hsame]
    exact (uncomment_settled [] (hls n hn)).1
  rcases hf with ⟨a, l, b, rfl, hl, ha, hb⟩
  rw [setupPxc_append hnodes (hfree ha fun n hn => settled_pxcBefore hv hn)
    (hfree hb fun n hn => settled_pxcAfter hv hn) hl, ha, hb]

/-- The file after the setup is again such a file. -/
theorem pxcShape_setupPxc (hnodes : nodes ≠ []) (hf : PxcShape v f) :
    PxcShape v (setupPxc nodes f) := by
  refine ⟨_, _, _, setupPxc_shape hv hnodes hf, ?_, ?_, ?_⟩
  · rw [uncomment_of_not_occurs occurs_addressLine]
    exact occurs_addressKey
  · exact uncomment_map fun n hn => settled_pxcBefore hv hn
  · exact uncomment_map fun n hn => settled_pxcAfter hv hn

/-- Of several runs of the setup only the last one counts. -/
theorem setupPxc_runs (hnodes : nodes ≠ []) (hf : PxcShape v f) {runs : List (List NodeName)}
    (hruns : ∀ r ∈ runs, r ≠ []) :
    (runs ++ [nodes]).foldl (fun g r => setupPxc r g) f = setupPxc nodes f := by
  apply foldl_last setupPxc _ _ hruns hnodes hf
  · exact fun r g hr hg => pxcShape_setupPxc hv hr hg
  · intro r g g' hr hg hg'
    rw [setupPxc_shape hv hr hg, setupPxc_shape hv hr hg']

/-- Every line of the file after the setup, apart from the address, is an uncommented line. -/
theorem setupPxc_free (hnodes : nodes ≠ []) (hf : PxcShape v f) :
    (∀ m ∈ setupPxc nodes f, occurs ('#' :: wsrepKey) m = false) ∧
      (setupPxc nodes f).filter (occurs addressKey) = [addressLine nodes] := by
  have hfree : ∀ {ls : TextFile}, (∀ n ∈ ls, Settled n) → ∀ m ∈ ls.map (uncomment wsrepKey),
      occurs addressKey m = false ∧ occurs ('#' :: wsrepKey) m = false := by
    intro ls hls m hm
    rcases List.mem_map.mp hm with ⟨n, hn, rfl⟩
    have huncomment := uncomment_settled [] (hls n hn)
    exact ⟨huncomment.1, huncomment.2.1⟩
  have hbefore := hfree fun n hn => settled_pxcBefore hv hn
  have hafter := hfree fun n hn => settled_pxcAfter hv hn
  rw [setupPxc_shape hv hnodes hf]
  constructor
  · intro m hm
    rcases List.mem_append.mp hm with hm | hm
    · exact (hbefore m hm).2
    · rcases List.mem_cons.mp hm with rfl | hm
      · exact occurs_addressLine
      · exact (hafter m hm).2
  · exact filter_eq_single occurs_addressKey (fun m hm => (hbefore m hm).1)
      fun m hm => (hafter m hm).1

end Setup

/-- The lines of the section begin no other section, with or without their comment signs. -/
theorem isHeader_pxcServer (hv : ∀ k ∈ [addressKey, '#' :: wsrepKey], ValuesFree k v)
    (hn : n ∈ pxcServer v) : isHeader (uncomment wsrepKey n) = false := by
  have hkeep : occurs ('#' :: wsrepKey) n = false → isHeader n = false →
      isHeader (uncomment wsrepKey n) = false := by
    intro hfree hheader
    rwa [uncomment_of_not_occurs hfree]
  have hsecond : '#' :: wsrepKey ∈ [addressKey, '#' :: wsrepKey] :=
    List.mem_cons_of_mem _ List.mem_cons_self
  rcases mem_pxcServer hn with hplain | ⟨l, hl, hcommented⟩ | hlocal | hseeds
  · exact hkeep (occurs_plain (mem_keys_of_pxc hsecond) (hv _ hsecond) hplain)
      (isHeader_plain hplain)
  · rw [← hcommented, uncomment_comment (prefix_wsrep hl)]
    exact isHeader_render List.mem_cons_self (checked_serverLines l (wsrep_subset hl))
  · rw [hlocal] at hkeep ⊢
    exact hkeep (occurs_render_static (List.mem_append_right _ hsecond) rfl checked_localDefault)
      (isHeader_render List.mem_cons_self checked_localDefault)
  · rw [hseeds] at hkeep ⊢
    exact hkeep (occurs_render_static (List.mem_append_right _ hsecond) rfl checked_seedsDefault)
      (isHeader_render List.mem_cons_self checked_seedsDefault)

/-- The file with an XtraDB cluster, if no value has a line break. -/
theorem myCnf_pxc (hpxc : v.mysqlBranch = .pxc) (hline : ValuesFree ['\n'] v) :
    myCnf v = (clientLines v ++ pxcServer v) ++ ('#' :: wsrepAddress.render v) :: pxcAfter v := by
  have hkey : ['\n'] ∈ keys := List.mem_cons_self
  have hsharp : ['\n'] ∈ [localKey, seedsKey, addressKey, ['\n']] := by simp
  have hstatic : ∀ {ks : List (List Char)} {l : Line}, l.rest = [] →
      Checked (['['] :: ['\n'] :: ks) l → occurs ['\n'] (l.render v) = false := fun hrest hl =>
    occurs_render_static (List.mem_cons_of_mem _ List.mem_cons_self) hrest hl
  show broken (rendered v template) = _
  rw [rendered_pxc hpxc]
  apply broken_eq_self
  intro n hn
  rcases List.mem_append.mp hn with hn | hn
  · rcases List.mem_append.mp hn with hn | hn
    · exact occurs_clientLines hkey hline hn
    · rcases mem_pxcServer hn with hplain | hcommented | hlocal | hseeds
      · exact occurs_plain hkey hline hplain
      · exact occurs_commented hkey hsharp hline hcommented
      · rw [hlocal]
        exact hstatic rfl checked_localDefault
      · rw [hseeds]
        exact hstatic rfl checked_seedsDefault
  · rcases List.mem_cons.mp hn with haddress | hn
    · rw [haddress, occurs_comment hkey hsharp]
      exact hstatic rfl checked_wsrepAddress
    · rcases List.mem_append.mp hn with hn | hn
      · rcases List.mem_map.mp hn with ⟨l, hl, rfl⟩
        exact occurs_commented hkey hsharp hline ⟨l, List.mem_append_right _ hl, rfl⟩
      · exact occurs_restLines hkey hline hn

/-- The rendered file has the shape the setup expects. -/
theorem pxcShape_myCnf (hpxc : v.mysqlBranch = .pxc) (hline : ValuesFree ['\n'] v) :
    PxcShape v (myCnf v) := by
  refine ⟨_, _, _, myCnf_pxc hpxc hline, ?_, rfl, rfl⟩
  rw [uncomment_wsrepAddress]
  exact occurs_wsrepAddress

/-- The setup edits every line of the rendered file on its own. -/
theorem setupPxc_eq_map (hpxc : v.mysqlBranch = .pxc)
    (hv : ∀ k ∈ [addressKey, '#' :: wsrepKey], ValuesFree k v) (hline : ValuesFree ['\n'] v)
    (hnodes : nodes ≠ []) : setupPxc nodes (myCnf v) = (myCnf v).map (pxcEdit nodes) := by
  have hedit : ∀ {ls : TextFile}, (∀ n ∈ ls, Settled n) →
      ls.map (pxcEdit nodes) = ls.map (uncomment wsrepKey) := fun hls =>
    List.map_congr_left fun n hn => (uncomment_settled nodes (hls n hn)).2.2
  have haddress : pxcEdit nodes ('#' :: wsrepAddress.render v) = addressLine nodes := by
    have hfound : occurs addressKey ('#' :: wsrepAddress.render v) = true := by
      rw [occurs_comment (List.mem_cons_of_mem _ addressKey_mem)
        (List.mem_cons_of_mem _ (List.mem_cons_of_mem _ List.mem_cons_self))]
      exact occurs_wsrepAddress
    exact if_pos hfound
  rw [setupPxc_shape hv hnodes (pxcShape_myCnf hpxc hline), myCnf_pxc hpxc hline,
    List.map_append (f := pxcEdit nodes), List.map_cons, haddress,
    hedit fun n hn => settled_pxcBefore hv hn, hedit fun n hn => settled_pxcAfter hv hn]

/-- The address of the cluster is in the server section. -/
theorem sectionOf_address (hv : ∀ k ∈ [addressKey, '#' :: wsrepKey], ValuesFree k v)
    (b : TextFile) :
    sectionOf (addressLine nodes) ((clientLines v ++ pxcServer v).map (uncomment wsrepKey) ++
      addressLine nodes :: b) = some mysqldHeader.toList := by
  have hheader : uncomment wsrepKey mysqldHeader.toList = mysqldHeader.toList :=
    uncomment_of_not_occurs (occurs_mysqldHeader (List.mem_cons_of_mem _ wsrepKey_mem))
  have hlines : (clientLines v ++ pxcServer v).map (uncomment wsrepKey) =
      (rendered v clientBlocks).map (uncomment wsrepKey) ++
        mysqldHeader.toList :: (pxcServer v).map (uncomment wsrepKey) := by
    simp [clientLines, hheader]
  have hne : ∀ m ∈ (clientLines v ++ pxcServer v).map (uncomment wsrepKey),
      m ≠ addressLine nodes := by
    rintro m hm rfl
    rcases List.mem_map.mp hm with ⟨n, hn, hsame⟩
    have hfree := (uncomment_settled nodes (settled_pxcBefore hv hn)).1
    rw [hsame, occurs_addressKey] at hfree
    cases hfree
  rw [hlines] at hne ⊢
  rw [List.append_assoc, List.cons_append]
  apply sectionOf_append hne isHeader_mysqldHeader
  intro m hm
  rcases List.mem_map.mp hm with ⟨n, hn, rfl⟩
  exact isHeader_pxcServer hv hn

/-- The setup of an XtraDB cluster is exact on the rendered file. -/
theorem pxcExact_myCnf (hpxc : v.mysqlBranch = .pxc)
    (hv : ∀ k ∈ [addressKey, '#' :: wsrepKey], ValuesFree k v) (hline : ValuesFree ['\n'] v) :
    PxcExact (myCnf v) := by
  intro nodes hnodes
  have hshape := pxcShape_myCnf hpxc hline
  rcases setupPxc_free hv hnodes hshape with ⟨hfree, hsingle⟩
  refine ⟨⟨setupPxc_eq_map hpxc hv hline hnodes, ?_, ?_⟩, hfree, noOuterComma_members hnodes,
    fun runs hruns => setupPxc_runs hv hnodes hshape hruns⟩
  · rw [List.forall_mem_singleton]
    exact hsingle
  · rw [List.forall_mem_singleton, setupPxc_shape hv hnodes hshape]
    exact sectionOf_address hv _

end Pxc

/-! ## Both setups -/

/--
If no value has one of the texts that the setups look for, or a line break, then both setups
change exactly the lines they should, and of several runs only the last one counts.
-/
theorem setups_exact (v : Vars) (hfree : ∀ k ∈ searchKeys, ValuesFree k v)
    (hline : ValuesFree ['\n'] v) :
    (v.groupReplication = true → v.gtid = true → MgrExact v (myCnf v)) ∧
      (v.mysqlBranch = .pxc → PxcExact (myCnf v)) := by
  constructor
  · intro hgroup hgtid
    exact mgrExact_myCnf hgroup hgtid (hfree _ localKey_mem) (hfree _ seedsKey_mem) hline
  · intro hpxc
    apply pxcExact_myCnf hpxc _ hline
    exact fun k hk => hfree k (List.mem_cons_of_mem _ (List.mem_cons_of_mem _ hk))

/-- Variables of which all texts are the given one, apart from the name of the group. -/
def sampleVars (value groupName : List Char) : Vars where
  text := fun x => if x = .groupReplicationGroupName then groupName else value
  mysqlPort := 7706
  inventoryHostname := "192.168.56.11"
  mysqlVersion := ['5', '.', '7', '.', '2', '2']
  mysqlBranch := .pxc
  mysqlPlugins := []
  tokudb := false
  gtid := true
  semiReplication := false
  groupReplication := true
  groupSeedPort := 33081

/-- A key is in no text without its mark. -/
theorem valuesFree_sampleVars {k value groupName : List Char} {c : Char} (hc : c ∈ k)
    (hvalue : c ∉ value) (hname : c ∉ groupName) : ValuesFree k (sampleVars value groupName) := by
  constructor
  · intro x
    apply occurs_eq_false hc
    simp only [sampleVars]
    split
    · exact hname
    · exact hvalue
  · intro p hp
    cases hp

/-- Both setups are exact for values without underscores and line breaks. -/
theorem setups_exact_letters :
    MgrExact (sampleVars ['a'] ['b']) (myCnf (sampleVars ['a'] ['b'])) ∧
      PxcExact (myCnf (sampleVars ['a'] ['b'])) := by
  have hexact := setups_exact (sampleVars ['a'] ['b'])
    (fun k hk => valuesFree_sampleVars (underscore_mem k hk) (by decide) (by decide))
    (valuesFree_sampleVars List.mem_cons_self (by decide) (by decide))
  exact ⟨hexact.1 rfl rfl, hexact.2 rfl⟩

/-- A name of a group with a line break, and a second line that looks like a section. -/
def brokenName : List Char :=
  ['x', '\n', '[', 'y', ']']

/-- With this name a line before the addresses begins another section. -/
theorem broken_groupHead : ∃ a d : TextFile,
    broken (groupHead.map (Line.render (sampleVars ['a'] brokenName))) =
      a ++ ['[', 'y', ']', '\''] :: d ∧ ∀ n ∈ d, isHeader n = false := by
  refine ⟨(broken (groupHead.map (Line.render (sampleVars ['a'] brokenName)))).take 3,
    (broken (groupHead.map (Line.render (sampleVars ['a'] brokenName)))).drop 4, ?_, ?_⟩
  · decide +kernel
  · decide +kernel

/-- The name of the only node. -/
def sampleNode : NodeName where
  text := ['n', '1']
  ne_nil := by simp
  chars := by decide

/--
A value with a line break can begin a section before the addresses, which are then not in the
server section.
-/
theorem setupMgr_other_section :
    (∀ k ∈ commaQuote :: searchKeys, ValuesFree k (sampleVars ['a'] brokenName)) ∧
      sectionOf (localAddress.render (sampleVars ['a'] brokenName))
        (setupMgr (sampleVars ['a'] brokenName) [sampleNode]
          (myCnf (sampleVars ['a'] brokenName))) = some ['[', 'y', ']', '\''] ∧
      ¬MgrExact (sampleVars ['a'] brokenName) (myCnf (sampleVars ['a'] brokenName)) := by
  have hfree : ∀ k ∈ searchKeys, ValuesFree k (sampleVars ['a'] brokenName) := fun k hk =>
    valuesFree_sampleVars (underscore_mem k hk) (by decide) (by decide)
  have hcomma : ValuesFree commaQuote (sampleVars ['a'] brokenName) :=
    valuesFree_sampleVars List.mem_cons_self (by decide) (by decide)
  have hsection : sectionOf (localAddress.render (sampleVars ['a'] brokenName))
      (setupMgr (sampleVars ['a'] brokenName) [sampleNode]
        (myCnf (sampleVars ['a'] brokenName))) = some ['[', 'y', ']', '\''] := by
    rcases broken_groupHead with ⟨a, d, hbroken, hd⟩
    have hne : ∀ m ∈ broken (clientLines (sampleVars ['a'] brokenName) ++
        mgrServer (sampleVars ['a'] brokenName)),
          m ≠ localAddress.render (sampleVars ['a'] brokenName) := fun m hm =>
      ne_of_mem_mgrBefore List.mem_cons_self (hfree _ localKey_mem) occurs_localKey hm
    rw [setupMgr_shape (hfree _ localKey_mem) (hfree _ seedsKey_mem) (by simp)
      (mgrShape_myCnf rfl rfl)]
    rw [mgrServer, ← List.append_assoc, broken_append, hbroken, ← List.append_assoc] at hne ⊢
    rw [List.append_assoc, List.cons_append]
    exact sectionOf_append hne rfl hd
  refine ⟨List.forall_mem_cons.mpr ⟨hcomma, hfree⟩, hsection, ?_⟩
  intro hexact
  have hserver := (hexact [sampleNode] (by simp)).1.inSection _ List.mem_cons_self
  rw [hsection] at hserver
  unfold mysqldHeader at hserver
  rw [String.toList_ofList] at hserver
  simp at hserver

end MyCnf
end ClusterPlaybooks
