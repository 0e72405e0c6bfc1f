import ReplicationManager.Server.Config

namespace ReplicationManager.ServerMonitor

open Go

section DynamicConfig

-- `os.Open` followed by a `bufio.Scanner`: the lines of a file, none when it cannot be
-- opened. `regexp.Compile`: the match of the compiled expression, none on an error, which
-- the code ignores and so leaves a nil `*Regexp`.
variable (unmarshalLink : String → ConfigLink) (readLines : String → Option (List String))
  (compile : String → Option (String → Bool))

-- The files the loop opens, in order: the targets of the symlink variables of the selected
-- generic rulesets whose filter contains `filter`.
def dynamicConfigFiles (server : ServerMonitor) (cluster : Cluster) (filter : String) :
    List String :=
  cluster.dbModule.rulesets.flatMap fun rule =>
    if Strings.contains rule.name genericRuleset then
      (rule.ruleVariables.filter (·.variableClass == "symlink")).filterMap fun v =>
        if rulesetSelected server cluster rule && (filter == "" || Strings.contains rule.filter filter)
        then some (server.datadir ++ "/init/etc/mysql/conf.d/" ++ (unmarshalLink v.value).target)
        else none
    else []

-- One scanned line: `mydynamicconf + strings.Split(scanner.Text(), ":")[1]` on a match.
-- `MatchString` on a nil expression panics, and so does the index of a line without a colon.
def dynamicConfigLine (regexp : Option (String → Bool)) (mydynamicconf line : String) :
    Except Unit String :=
  match regexp with
  | none => .error ()
  | some matchString =>
      if matchString line then
        match Strings.split line ':' with
        | _ :: field :: _ => .ok (mydynamicconf ++ field)
        | _ => .error ()
      else .ok mydynamicconf

-- One file: skipped when it cannot be opened, scanned line by line otherwise.
def dynamicConfigFile (cmd mydynamicconf path : String) : Except Unit String :=
  match readLines path with
  | none => .ok mydynamicconf
  | some lines => lines.foldlM (dynamicConfigLine (compile cmd)) mydynamicconf

def getDatabaseDynamicConfig (server : ServerMonitor) (cluster : Cluster) (filter cmd : String) :
    Except Unit String :=
  (dynamicConfigFiles unmarshalLink server cluster filter).foldlM
    (dynamicConfigFile readLines compile cmd) ""

-- What a line adds to the output once the call does not panic.
def dynamicLineValue (matchString : String → Bool) (line : String) : String :=
  if matchString line then (Strings.split line ':').getD 1 "" else ""

-- A line panics on its own: whatever the output so far, exactly when the expression did not
-- compile or the line matches without a colon.
theorem dynamicConfigLine_eq_error_iff (regexp : Option (String → Bool))
    (mydynamicconf line : String) :
    dynamicConfigLine regexp mydynamicconf line = .error () ↔
      regexp = none ∨ ∃ m, regexp = some m ∧ m line = true ∧ ':' ∉ line.toList := by
  rw [← Strings.two_le_length_split_iff]
  cases regexp with
  | none => simp [dynamicConfigLine]
  | some m =>
      simp only [dynamicConfigLine, reduceCtorEq, Option.some.injEq, exists_eq_left', false_or]
      rcases Strings.split line ':' with _ | ⟨_, _ | ⟨_, _⟩⟩ <;> by_cases hm : m line <;> simp [hm]

theorem dynamicConfigLine_eq_ok (m : String → Bool) (mydynamicconf line : String)
    (hcolon : m line = true → ':' ∈ line.toList) :
    dynamicConfigLine (some m) mydynamicconf line = .ok (mydynamicconf ++ dynamicLineValue m line) := by
  rw [← Strings.two_le_length_split_iff] at hcolon
  simp only [dynamicConfigLine, dynamicLineValue]
  generalize Strings.split line ':' = fields at hcolon ⊢
  rcases fields with _ | ⟨_, _ | ⟨_, _⟩⟩ <;> by_cases hm : m line <;> simp_all

-- A file panics exactly when one of its lines does.
theorem dynamicConfigFile_eq_error_iff (cmd mydynamicconf path : String) :
    dynamicConfigFile readLines compile cmd mydynamicconf path = .error () ↔
      ∃ line ∈ (readLines path).getD [], compile cmd = none ∨
        ∃ m, compile cmd = some m ∧ m line = true ∧ ':' ∉ line.toList := by
  unfold dynamicConfigFile
  cases readLines path with
  | none => simp
  | some lines => exact foldlM_eq_error_iff _ _ (dynamicConfigLine_eq_error_iff _) _ _

theorem dynamicConfigFile_eq_ok (cmd : String) (m : String → Bool) (hm : compile cmd = some m)
    (mydynamicconf path : String)
    (hcolon : ∀ line ∈ (readLines path).getD [], m line = true → ':' ∈ line.toList) :
    dynamicConfigFile readLines compile cmd mydynamicconf path =
      .ok (((readLines path).getD []).foldl (fun acc line => acc ++ dynamicLineValue m line)
        mydynamicconf) := by
  unfold dynamicConfigFile
  cases hread : readLines path with
  | none => rfl
  | some lines =>
      rw [hm]
      exact foldlM_eq_ok _ _ _ _ fun acc line hline =>
        dynamicConfigLine_eq_ok m acc line (hcolon line (by simpa [hread] using hline))

-- The files the reader opens are the targets of the symlinks the generator makes for the
-- rulesets whose filter contains `filter` (all of them for an empty one), in the same order,
-- read under `conf.d`.
theorem dynamicConfigFiles_eq (server : ServerMonitor) (cluster : Cluster) (filter : String) :
    dynamicConfigFiles unmarshalLink server cluster filter =
      (configSymlinks unmarshalLink server cluster (cluster.dbModule.rulesets.filter
          fun rule => filter == "" || Strings.contains rule.filter filter)).map
        fun link => server.datadir ++ "/init/etc/mysql/conf.d/" ++ link.1 := by
  unfold dynamicConfigFiles configSymlinks
  induction cluster.dbModule.rulesets with
  | nil => rfl
  | cons rule rules ih =>
      simp only [List.flatMap_cons, List.filter_cons]
      cases (filter == "" || Strings.contains rule.filter filter) <;>
        simp only [if_true, Bool.false_eq_true, if_false, List.flatMap_cons, List.map_append, ih] <;>
        cases Strings.contains rule.name genericRuleset <;> simp [List.map_filterMap, apply_ite]

-- The files the call opens are the targets, under `conf.d`, of the symlinks `GetDatabaseConfig`
-- makes for the rulesets whose filter contains `filter`, in order. The call panics exactly
-- when a line of one of them panics. Otherwise it returns the values of the lines, file after
-- file and line after line: for each matching line, its text between the first colon and the
-- next one.
theorem getDatabaseDynamicConfig_spec (server : ServerMonitor) (cluster : Cluster)
    (filter cmd : String) :
    let lines := (dynamicConfigFiles unmarshalLink server cluster filter).flatMap
      fun path => (readLines path).getD []
    dynamicConfigFiles unmarshalLink server cluster filter =
      (configSymlinks unmarshalLink server cluster (cluster.dbModule.rulesets.filter
          fun rule => filter == "" || Strings.contains rule.filter filter)).map
        (fun link => server.datadir ++ "/init/etc/mysql/conf.d/" ++ link.1) ∧
    (getDatabaseDynamicConfig unmarshalLink readLines compile server cluster filter cmd =
        .error () ↔
      ∃ line ∈ lines, compile cmd = none ∨
        ∃ m, compile cmd = some m ∧ m line = true ∧ ':' ∉ line.toList) ∧
    ∀ m, compile cmd = some m → (∀ line ∈ lines, m line = true → ':' ∈ line.toList) →
      getDatabaseDynamicConfig unmarshalLink readLines compile server cluster filter cmd =
        .ok (String.join (lines.map (dynamicLineValue m))) := by
  intro lines
  refine ⟨dynamicConfigFiles_eq unmarshalLink server cluster filter, ?_, fun m hm hcolon => ?_⟩
  · rw [getDatabaseDynamicConfig,
      foldlM_eq_error_iff _ _ (dynamicConfigFile_eq_error_iff readLines compile cmd)]
    simp only [lines, List.mem_flatMap]
    exact ⟨fun ⟨p, hp, l, hl, h⟩ => ⟨l, ⟨p, hp, hl⟩, h⟩, fun ⟨l, ⟨p, hp, hl⟩, h⟩ => ⟨p, hp, l, hl, h⟩⟩
  · simp only [getDatabaseDynamicConfig, String.join, lines, List.flatMap, List.foldl_map,
      List.foldl_flatten]
    exact foldlM_eq_ok _ _ _ _ fun acc path hpath =>
      dynamicConfigFile_eq_ok readLines compile cmd m hm acc path fun line hline =>
        hcolon line (List.mem_flatMap.mpr ⟨path, hpath, hline⟩)

example :
    let cluster : Cluster :=
      { dbModule := { rulesets := [{ name := genericRuleset, ruleVariables :=
          [{ variableClass := "symlink", value := "innodb.cnf" }] }] } }
    let readLines : String → Option (List String) := fun path =>
      if path = "/data/init/etc/mysql/conf.d/innodb.cnf" then
        some ["innodb_buffer_pool_size:1G", "# tuned"]
      else none
    getDatabaseDynamicConfig (fun v => { symlink := v, target := v }) readLines
        (fun cmd => some fun line => Strings.contains line cmd) { datadir := "/data" } cluster
        "" "innodb" = .ok "1G" := rfl

end DynamicConfig

end ReplicationManager.ServerMonitor
