import ReplicationManager.Cluster.Has
import ReplicationManager.Go.Strings

namespace ReplicationManager

open Go
open scoped List

-- `GetDatabaseTags` is outside the sources: the model takes the tag set of the cluster's
-- database nodes, the `DBTags` list that `HaveDBTag` reads, which may be empty.
def Cluster.getDatabaseTags (cluster : Cluster) : List String := cluster.dbTags

namespace ServerMonitor

-- The spider test sits inside the loop over the tags, so it is made once per tag.
def isFilterInTags (server : ServerMonitor) (cluster : Cluster) (filter : String) : Bool :=
  cluster.getDatabaseTags.any fun tag =>
    Strings.hasSuffix filter tag || (server.isCompute && Strings.contains filter "spider")

theorem isFilterInTags_iff (server : ServerMonitor) (cluster : Cluster) (filter : String)
    (htags : cluster.getDatabaseTags ≠ []) :
    server.isFilterInTags cluster filter = true ↔
      (∃ tag ∈ cluster.getDatabaseTags, tag.toList <:+ filter.toList) ∨
        (server.isCompute = true ∧ "spider".toList <:+: filter.toList) := by
  obtain ⟨t, ht⟩ := List.exists_mem_of_ne_nil _ htags
  simp only [isFilterInTags, Strings.hasSuffix, Strings.contains, List.any_eq_true,
    Bool.or_eq_true, Bool.and_eq_true, decide_eq_true_eq]
  constructor
  · rintro ⟨tag, hmem, hs | hc⟩
    exacts [.inl ⟨tag, hmem, hs⟩, .inr hc]
  · rintro (⟨tag, hmem, hs⟩ | hc)
    exacts [⟨tag, hmem, .inl hs⟩, ⟨t, ht, .inr hc⟩]

theorem isFilterInTags_no_tags (server : ServerMonitor) (cluster : Cluster) (filter : String)
    (htags : cluster.getDatabaseTags = []) : server.isFilterInTags cluster filter = false := by
  simp [isFilterInTags, htags]

theorem isFilterInTags_spider_without_tags :
    ({ isCompute := true } : ServerMonitor).isFilterInTags { dbTags := [] } "spider" = false := by
  decide

-- The `File` and `Link` records `GetDatabaseConfig` unmarshals from a variable's value.
structure ConfigFile where
  path : String := ""
  content : String := ""
  deriving DecidableEq, Repr

structure ConfigLink where
  symlink : String := ""
  target : String := ""
  deriving DecidableEq, Repr

-- What the call does under the node's `init` directory: its `os.Create` calls (the path, and
-- the content then given to `WriteString`), its `os.Symlink` calls (target and path), and
-- whether the data directory is handed to the container user. The code only logs or ignores
-- the errors of these calls, so which calls it makes does not depend on how they end; what
-- the file system keeps of them is `configOnDisk`. The tarball download, the directory
-- creation, the certificate copies and the final archive are left out.
structure ConfigOutput where
  files : List (String × String)
  symlinks : List (String × String)
  chownData : Bool
  deriving DecidableEq, Repr

-- The placeholder a ruleset path uses for the node's `init` directory.
def podDir : String := "%%ENV:SVC_CONF_ENV_BASE_DIR%%/%%ENV:POD%%"

def genericRuleset : String := "mariadb.svc.mrm.db.cnf.generic"

section Config

-- `json.Unmarshal` into a `File` or a `Link`: its error is not checked, so a value it cannot
-- read leaves the zero record. `misc.ExtractKey(_, server.GetEnv())` fills in the node's
-- environment keys. The two orchestrator constants are not in the sources.
variable (unmarshalFile : String → ConfigFile) (unmarshalLink : String → ConfigLink)
  (extractKey : String → String) (constOrchestratorLocalhost constOrchestratorSlapOS : String)

-- The content written for a selected file.
def renderConfig (server : ServerMonitor) (cluster : Cluster) (content : String) : String :=
  let content := extractKey content
  let orchestrator := cluster.conf.provOrchestrator
  let content :=
    if server.isFilterInTags cluster "docker" && orchestrator != constOrchestratorLocalhost then
      if server.isFilterInTags cluster "wsrep" then
        -- a Galera node keeps no customised system file
        if Strings.contains content "./.system" then "" else content
      else Strings.replace content "./.system" "/var/lib/mysql/.system"
    else content
  if orchestrator = constOrchestratorLocalhost then
    let content :=
      Strings.replace content "includedir .." ("includedir " ++ server.datadir ++ "/init")
    Strings.replace content "../etc/mysql" (server.datadir ++ "/init/etc/mysql")
  else if orchestrator = constOrchestratorSlapOS then
    let content :=
      Strings.replace content "includedir .." ("includedir " ++ server.slapOSDatadir ++ "/")
    let content := Strings.replace content "../etc/mysql" (server.slapOSDatadir ++ "/etc/mysql")
    Strings.replace content "./.system" (server.slapOSDatadir ++ "/var/lib/mysql/.system")
  else content

-- Where the file of a variable is written.
def configPath (server : ServerMonitor) (v : RuleVariable) : String :=
  Strings.replace (unmarshalFile v.value).path podDir (server.datadir ++ "/init")

-- Whether a ruleset applies to this node; both loops make this test.
def rulesetSelected (server : ServerMonitor) (cluster : Cluster) (rule : Ruleset) : Bool :=
  server.isFilterInTags cluster rule.filter || rule.name == genericRuleset

-- The file written for a variable whose path is not empty.
def configFileTarget (server : ServerMonitor) (cluster : Cluster) (rule : Ruleset)
    (v : RuleVariable) : Option (String × String) :=
  let fpath := configPath unmarshalFile server v
  if fpath.toList.getLast? != some '/' && rulesetSelected server cluster rule then
    some (fpath, renderConfig extractKey constOrchestratorLocalhost constOrchestratorSlapOS
      server cluster (unmarshalFile v.value).content)
  else none

-- One variable of the first loop. `fpath[len(fpath)-1:]` is evaluated before the ruleset is
-- looked at, and on an empty path it panics: the error.
def configFileWrite (server : ServerMonitor) (cluster : Cluster) (rule : Ruleset)
    (v : RuleVariable) : Except Unit (Option (String × String)) :=
  if configPath unmarshalFile server v = "" then .error ()
  else .ok (configFileTarget unmarshalFile extractKey constOrchestratorLocalhost
    constOrchestratorSlapOS server cluster rule v)

-- The variables the first loop visits, in order.
def configFileVariables (rulesets : List Ruleset) : List (Ruleset × RuleVariable) :=
  rulesets.flatMap fun rule =>
    if Strings.contains rule.name "mariadb.svc.mrm.db.cnf" then
      (rule.ruleVariables.filter fun v =>
        v.variableClass == "file" || v.variableClass == "fileprop").map (rule, ·)
    else []

-- The first loop. A panic ends the call; its error holds the files written before it.
def writeConfigFiles (server : ServerMonitor) (cluster : Cluster) :
    List (Ruleset × RuleVariable) → Except (List (String × String)) (List (String × String))
  | [] => .ok []
  | (rule, v) :: rest =>
      match configFileWrite unmarshalFile extractKey constOrchestratorLocalhost
          constOrchestratorSlapOS server cluster rule v with
      | .error () => .error []
      | .ok w =>
          match writeConfigFiles server cluster rest with
          | .ok ws => .ok (w.toList ++ ws)
          | .error ws => .error (w.toList ++ ws)

-- The symlink loop, over the rulesets whose name contains the generic one.
def configSymlinks (server : ServerMonitor) (cluster : Cluster) (rulesets : List Ruleset) :
    List (String × String) :=
  rulesets.flatMap fun rule =>
    if Strings.contains rule.name genericRuleset then
      (rule.ruleVariables.filter (·.variableClass == "symlink")).filterMap fun v =>
        if rulesetSelected server cluster rule then
          let f := unmarshalLink v.value
          some (f.target, Strings.replace f.symlink podDir (server.datadir ++ "/init"))
        else none
    else []

-- `server.ClusterGroup` is the cluster passed in.
def getDatabaseConfig (server : ServerMonitor) (cluster : Cluster) :
    Except (List (String × String)) ConfigOutput :=
  match writeConfigFiles unmarshalFile extractKey constOrchestratorLocalhost
      constOrchestratorSlapOS server cluster (configFileVariables cluster.dbModule.rulesets) with
  | .error written => .error written
  | .ok files =>
      .ok { files := files
            symlinks := configSymlinks unmarshalLink server cluster cluster.dbModule.rulesets
            chownData := cluster.haveDBTag "docker" }

-- The first loop writes the selected files in order, unless a variable's path is empty:
-- then it stops there, having written the selected files before it.
theorem writeConfigFiles_eq (server : ServerMonitor) (cluster : Cluster)
    (pairs : List (Ruleset × RuleVariable)) :
    writeConfigFiles unmarshalFile extractKey constOrchestratorLocalhost constOrchestratorSlapOS
        server cluster pairs =
      if pairs.all (fun p => configPath unmarshalFile server p.2 != "") then
        .ok (pairs.filterMap fun p => configFileTarget unmarshalFile extractKey
          constOrchestratorLocalhost constOrchestratorSlapOS server cluster p.1 p.2)
      else
        .error ((pairs.takeWhile fun p => configPath unmarshalFile server p.2 != "").filterMap
          fun p => configFileTarget unmarshalFile extractKey constOrchestratorLocalhost
            constOrchestratorSlapOS server cluster p.1 p.2) := by
  induction pairs with
  | nil => rfl
  | cons p rest ih =>
      obtain ⟨rule, v⟩ := p
      by_cases hpath : configPath unmarshalFile server v = ""
      · simp [writeConfigFiles, configFileWrite, hpath]
      · cases ht : configFileTarget unmarshalFile extractKey constOrchestratorLocalhost
            constOrchestratorSlapOS server cluster rule v <;>
          by_cases hall : (rest.all fun p => configPath unmarshalFile server p.2 != "") = true <;>
          simp [writeConfigFiles, configFileWrite, hpath, ih, ht, hall, List.takeWhile_cons]

-- Dropping the elements whose contribution is empty does not change a `flatMap`.
private theorem flatMap_filter_of_nil {α β : Type} (g : α → List β) (p : α → Bool)
    (hg : ∀ x, p x = false → g x = []) (l : List α) : l.flatMap g = (l.filter p).flatMap g := by
  induction l with
  | nil => rfl
  | cons x l ih =>
      cases hx : p x
      · simp [List.filter_cons, hx, hg x hx, ih]
      · simp [List.filter_cons, hx, ih]

-- On a container node under an orchestrator other than localhost and SlapOS, no written
-- file keeps a relative `./.system` path: a Galera node's file holding one is emptied, any
-- other node's is rewritten to the absolute path, which holds no relative one.
theorem renderConfig_docker (server : ServerMonitor) (cluster : Cluster) (content : String)
    (hdocker : server.isFilterInTags cluster "docker" = true)
    (hloc : cluster.conf.provOrchestrator ≠ constOrchestratorLocalhost)
    (hslap : cluster.conf.provOrchestrator ≠ constOrchestratorSlapOS) :
    Strings.contains (renderConfig extractKey constOrchestratorLocalhost constOrchestratorSlapOS
      server cluster content) "./.system" = false := by
  have hrep := Strings.contains_replace (extractKey content) "./.system" "/var/lib/mysql/.system"
    (by decide) (by decide) (by decide) (by decide) (by decide)
  simp only [renderConfig, hdocker, hloc, hslap, bne_iff_ne, ne_eq, not_false_eq_true,
    decide_True, Bool.true_and, if_true, if_false]
  split_ifs with hwsrep hsys
  · decide
  · simpa using hsys
  · exact hrep

theorem path_of_configFileTarget {server : ServerMonitor} {cluster : Cluster} {rule : Ruleset}
    {v : RuleVariable} {f : String × String}
    (h : configFileTarget unmarshalFile extractKey constOrchestratorLocalhost
      constOrchestratorSlapOS server cluster rule v = some f) :
    f.1 = configPath unmarshalFile server v := by
  simp only [configFileTarget] at h
  split at h
  · cases h
    rfl
  · cases h

theorem content_of_configFileTarget {server : ServerMonitor} {cluster : Cluster} {rule : Ruleset}
    {v : RuleVariable} {f : String × String}
    (h : configFileTarget unmarshalFile extractKey constOrchestratorLocalhost
      constOrchestratorSlapOS server cluster rule v = some f) :
    f.2 = renderConfig extractKey constOrchestratorLocalhost constOrchestratorSlapOS server cluster
      (unmarshalFile v.value).content := by
  simp only [configFileTarget] at h
  split at h
  · cases h
    rfl
  · cases h

-- What a container node's files hold, outside the localhost and SlapOS orchestrators: on a
-- Galera node (tagged `wsrep`) a file whose content names `./.system` is written empty and any
-- other as it is; on any other node every `./.system` is rewritten to
-- `/var/lib/mysql/.system`. Either way no file keeps a relative `./.system` path.
theorem getDatabaseConfig_docker (server : ServerMonitor) (cluster : Cluster)
    (hdocker : server.isFilterInTags cluster "docker" = true)
    (hloc : cluster.conf.provOrchestrator ≠ constOrchestratorLocalhost)
    (hslap : cluster.conf.provOrchestrator ≠ constOrchestratorSlapOS) (out : ConfigOutput)
    (hout : getDatabaseConfig unmarshalFile unmarshalLink extractKey constOrchestratorLocalhost
      constOrchestratorSlapOS server cluster = .ok out) :
    ∀ f ∈ out.files, ∃ p ∈ configFileVariables cluster.dbModule.rulesets,
      let content := extractKey (unmarshalFile p.2.value).content
      f.1 = configPath unmarshalFile server p.2 ∧
      f.2 = (if server.isFilterInTags cluster "wsrep" then
          (if Strings.contains content "./.system" then "" else content)
        else Strings.replace content "./.system" "/var/lib/mysql/.system") ∧
      Strings.contains f.2 "./.system" = false := by
  simp only [getDatabaseConfig, writeConfigFiles_eq] at hout
  split_ifs at hout
  cases hout
  intro f hf
  obtain ⟨p, hp, hfp⟩ := List.mem_filterMap.mp hf
  have hcontent := content_of_configFileTarget unmarshalFile extractKey constOrchestratorLocalhost
    constOrchestratorSlapOS hfp
  refine ⟨p, hp, path_of_configFileTarget unmarshalFile extractKey constOrchestratorLocalhost
    constOrchestratorSlapOS hfp, ?_, hcontent ▸ renderConfig_docker extractKey
      constOrchestratorLocalhost constOrchestratorSlapOS server cluster _ hdocker hloc hslap⟩
  rw [hcontent]
  simp only [renderConfig, hdocker, hloc, hslap, bne_iff_ne, ne_eq, not_false_eq_true,
    decide_True, Bool.true_and, if_true, if_false]

theorem getDatabaseConfig_docker_opensvc :
    let unmarshalFile : String → ConfigFile :=
      fun v => { path := v, content := "datadir = ./.system/data" }
    let unmarshalLink : String → ConfigLink := fun v => { symlink := v, target := v }
    let server : ServerMonitor := { datadir := "/data" }
    let cluster : Cluster :=
      { conf := { provOrchestrator := "opensvc" }, dbTags := ["docker"]
        dbModule := { rulesets := [{ name := genericRuleset, ruleVariables :=
          [{ variableClass := "file", value := podDir ++ "/etc/mysql/my.cnf" }] }] } }
    let out : ConfigOutput :=
      { files := [("/data/init/etc/mysql/my.cnf", "datadir = /var/lib/mysql/.system/data")]
        symlinks := [], chownData := true }
    (server.isFilterInTags cluster "docker" = true ∧
      cluster.conf.provOrchestrator ≠ "localhost" ∧ cluster.conf.provOrchestrator ≠ "slapos" ∧
      getDatabaseConfig unmarshalFile unmarshalLink id "localhost" "slapos" server cluster =
        .ok out) ∧
    ∀ f ∈ out.files, ∃ p ∈ configFileVariables cluster.dbModule.rulesets,
      let content := id (unmarshalFile p.2.value).content
      f.1 = configPath unmarshalFile server p.2 ∧
      f.2 = (if server.isFilterInTags cluster "wsrep" then
          (if Strings.contains content "./.system" then "" else content)
        else Strings.replace content "./.system" "/var/lib/mysql/.system") ∧
      Strings.contains f.2 "./.system" = false := by
  intro unmarshalFile unmarshalLink server cluster out
  exact ⟨⟨by decide, by decide, by decide, rfl⟩,
    getDatabaseConfig_docker unmarshalFile unmarshalLink id "localhost" "slapos" server cluster
      (by decide) (by decide) (by decide) out rfl⟩

section Generic

variable {server : ServerMonitor} {cluster : Cluster}
  (hsel : ∀ rule, rulesetSelected server cluster rule = (rule.name == genericRuleset))
include hsel

-- When only the generic rulesets are selected, the others write no file ...
theorem filterMap_configFileVariables_generic (rulesets : List Ruleset) :
    (configFileVariables rulesets).filterMap (fun p => configFileTarget unmarshalFile extractKey
        constOrchestratorLocalhost constOrchestratorSlapOS server cluster p.1 p.2) =
      (configFileVariables (rulesets.filter (·.name == genericRuleset))).filterMap
        (fun p => configFileTarget unmarshalFile extractKey constOrchestratorLocalhost
          constOrchestratorSlapOS server cluster p.1 p.2) := by
  simp only [configFileVariables, List.filterMap_flatMap]
  refine flatMap_filter_of_nil _ _ (fun rule hg => ?_) rulesets
  have hnone : ∀ v, configFileTarget unmarshalFile extractKey constOrchestratorLocalhost
      constOrchestratorSlapOS server cluster rule v = none := fun v => by
    simp [configFileTarget, hsel, hg]
  split <;> simp [List.filterMap_map, Function.comp_def, hnone]

-- ... and make no symlink.
theorem configSymlinks_generic (rulesets : List Ruleset) :
    configSymlinks unmarshalLink server cluster rulesets =
      configSymlinks unmarshalLink server cluster (rulesets.filter (·.name == genericRuleset)) :=
  flatMap_filter_of_nil _ _ (fun rule hg => by simp [hsel, hg]) rulesets

end Generic

-- Without database tags no ruleset is selected by its filter: whatever the node (a spider
-- compute node included), the files and symlinks are those of the generic rulesets alone.
theorem getDatabaseConfig_untagged (server : ServerMonitor) (cluster : Cluster)
    (htags : cluster.dbTags = []) (out : ConfigOutput)
    (hout : getDatabaseConfig unmarshalFile unmarshalLink extractKey constOrchestratorLocalhost
      constOrchestratorSlapOS server cluster = .ok out) :
    let generic := cluster.dbModule.rulesets.filter (·.name == genericRuleset)
    out.files = (configFileVariables generic).filterMap (fun p => configFileTarget unmarshalFile
      extractKey constOrchestratorLocalhost constOrchestratorSlapOS server cluster p.1 p.2) ∧
    out.symlinks = configSymlinks unmarshalLink server cluster generic := by
  have hsel : ∀ rule, rulesetSelected server cluster rule = (rule.name == genericRuleset) :=
    fun rule => by simp [rulesetSelected, isFilterInTags_no_tags server cluster _ htags]
  simp only [getDatabaseConfig, writeConfigFiles_eq] at hout
  -- a panicking call has no output, so the first loop went through
  split_ifs at hout
  cases hout
  exact ⟨filterMap_configFileVariables_generic unmarshalFile extractKey
      constOrchestratorLocalhost constOrchestratorSlapOS hsel _,
    configSymlinks_generic unmarshalLink hsel _⟩

theorem getDatabaseConfig_untagged_spider :
    let unmarshalFile : String → ConfigFile := fun v => { path := v, content := "[mysqld]" }
    let unmarshalLink : String → ConfigLink := fun v => { symlink := v, target := v }
    let server : ServerMonitor := { isCompute := true, datadir := "/data" }
    let cluster : Cluster :=
      { dbModule := { rulesets := [
          { name := genericRuleset, ruleVariables :=
              [{ variableClass := "file", value := podDir ++ "/etc/mysql/my.cnf" }] },
          { name := "mariadb.svc.mrm.db.cnf.spider", filter := "spider", ruleVariables :=
              [{ variableClass := "file", value := podDir ++ "/etc/mysql/spider.cnf" }] }] } }
    let out : ConfigOutput :=
      { files := [("/data/init/etc/mysql/my.cnf", "[mysqld]")], symlinks := []
        chownData := false }
    (cluster.dbTags = [] ∧
      getDatabaseConfig unmarshalFile unmarshalLink id "localhost" "slapos" server cluster =
        .ok out) ∧
    let generic := cluster.dbModule.rulesets.filter (·.name == genericRuleset)
    out.files = (configFileVariables generic).filterMap (fun p => configFileTarget unmarshalFile
      id "localhost" "slapos" server cluster p.1 p.2) ∧
    out.symlinks = configSymlinks unmarshalLink server cluster generic :=
  ⟨⟨rfl, rfl⟩, getDatabaseConfig_untagged _ _ _ _ _ _ _ rfl _ rfl⟩

end Config

end ServerMonitor

end ReplicationManager
