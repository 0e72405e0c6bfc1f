import ReplicationManager.Types
import ReplicationManager.Go.Strings
import Mathlib.Data.String.Basic

namespace ReplicationManager.ServerMonitor

open Go

-- A metric of `GetDatabaseMetrics`, named `<prefix>.<host>.<metric>[.<sub>...]`.
structure Metric where
  name : String
  value : String
  deriving DecidableEq, Repr

-- The label set `{instance="<host>"}` of an exposition line.
def instanceLabel (host : String) : String :=
  String.singleton '{' ++ "instance=\"" ++ host ++ "\"" ++ String.singleton '}'

-- One exposition line; none where Go indexes past the fields of the name and panics.
def prometheusLine (m : Metric) : Option String :=
  match Strings.split m.name '.' with
  | _ :: host :: metric :: rest =>
      if metric = "pfs" then
        match rest with
        | sub :: _ => some (metric ++ "_" ++ sub ++ instanceLabel host ++ " " ++ m.value ++ "\n")
        | [] => none
      else some (metric ++ instanceLabel host ++ " " ++ m.value ++ "\n")
  | _ => none

-- `metrics` is what `GetDatabaseMetrics` returns; a panic ends the whole call.
def getPrometheusMetrics (metrics : List Metric) : Option String :=
  metrics.foldl (fun acc m => acc.bind fun s => (prometheusLine m).map (s ++ ·)) (some "")

-- The fields a name needs: host and metric, and a sub-metric under `pfs`.
def wellNamed (m : Metric) : Bool :=
  match Strings.split m.name '.' with
  | _ :: _ :: metric :: rest => metric != "pfs" || !rest.isEmpty
  | _ => false

theorem prometheusLine_isSome (m : Metric) : (prometheusLine m).isSome = wellNamed m := by
  unfold prometheusLine wellNamed
  rcases Strings.split m.name '.' with _ | ⟨pre, _ | ⟨host, _ | ⟨metric, rest⟩⟩⟩ <;> try rfl
  by_cases hpfs : metric = "pfs" <;> cases rest <;> simp [hpfs]

private theorem foldl_line_none (metrics : List Metric) :
    metrics.foldl (fun acc m => acc.bind fun s => (prometheusLine m).map (s ++ ·)) none = none := by
  induction metrics with
  | nil => rfl
  | cons m ms ih => exact ih

private theorem foldl_line_some (metrics : List Metric) (s : String) :
    metrics.foldl (fun acc m => acc.bind fun s => (prometheusLine m).map (s ++ ·)) (some s) =
      if metrics.all fun m => (prometheusLine m).isSome
      then some (s ++ String.join (metrics.filterMap prometheusLine)) else none := by
  induction metrics generalizing s with
  | nil => simp [String.join]
  | cons m ms ih =>
      cases hm : prometheusLine m with
      | none => simp [hm, foldl_line_none]
      | some line =>
          simp only [List.foldl_cons, Option.some_bind, hm, Option.map_some', ih, List.all_cons,
            Option.isSome_some, Bool.true_and, List.filterMap_cons]
          split <;> simp [String.join_eq, String.append_assoc, String.ext_iff]

-- The text exists exactly when every name is well formed, and is then the lines in order.
theorem getPrometheusMetrics_eq (metrics : List Metric) :
    getPrometheusMetrics metrics =
      if metrics.all wellNamed then some (String.join (metrics.filterMap prometheusLine))
      else none := by
  simp only [getPrometheusMetrics, foldl_line_some, String.empty_append, prometheusLine_isSome]

-- A name is well formed when Go's `v[2]`, and `v[3]` under `pfs`, exist.
theorem wellNamed_iff (m : Metric) :
    wellNamed m = true ↔ 3 ≤ (Strings.split m.name '.').length ∧
      ((Strings.split m.name '.').getD 2 "" = "pfs" → 4 ≤ (Strings.split m.name '.').length) := by
  unfold wellNamed
  rcases Strings.split m.name '.' with _ | ⟨pre, _ | ⟨host, _ | ⟨metric, _ | ⟨sub, rest⟩⟩⟩⟩ <;>
    simp [Nat.succ_le_succ_iff]

-- A well-named metric's line, in terms of Go's fields `v[i]`.
theorem prometheusLine_eq {m : Metric} (h : wellNamed m = true) :
    let v := Strings.split m.name '.'
    prometheusLine m = some ((if v.getD 2 "" = "pfs" then "pfs_" ++ v.getD 3 "" else v.getD 2 "") ++
      instanceLabel (v.getD 1 "") ++ " " ++ m.value ++ "\n") := by
  unfold prometheusLine
  unfold wellNamed at h
  generalize Strings.split m.name '.' = v at h ⊢
  rcases v with _ | ⟨pre, _ | ⟨host, _ | ⟨metric, rest⟩⟩⟩
  · simp at h
  · simp at h
  · simp at h
  · by_cases hpfs : metric = "pfs" <;> cases rest <;> simp_all [String.append_assoc]

-- Lines ending in a line break, joined, are the lines joined by line breaks and a last empty one.
private theorem join_lines {α : Type} (f : α → String) (xs : List α) :
    ['\n'].intercalate ((xs.map f ++ [""]).map String.toList) =
      (String.join (xs.map fun x => f x ++ "\n")).toList := by
  rw [String.join_eq]
  induction xs with
  | nil => rfl
  | cons x xs ih =>
      cases xs with
      | nil => simp [List.intercalate, String.toList]
      | cons y ys =>
          simp only [List.map_cons, List.cons_append, List.intercalate, List.intersperse_cons₂,
            List.flatten_cons] at ih ⊢
          rw [ih]
          simp [String.toList]

-- The exposition text. Go's `v := strings.Split(m.Name, ".")` and its fields `v[i]`, a missing
-- field read as "": the call panics exactly when a name lacks its host or metric field, or a
-- `pfs` metric its sub-metric. Otherwise the text holds, in order, one line per metric:
-- `<metric>{instance="<host>"} <value>`, with `pfs_<sub>` for a `pfs` metric. It has exactly
-- these lines when no name or value holds a line break.
theorem getPrometheusMetrics_lines (metrics : List Metric) :
    let v := fun m : Metric => Strings.split m.name '.'
    let line := fun m : Metric =>
      (if (v m).getD 2 "" = "pfs" then "pfs_" ++ (v m).getD 3 "" else (v m).getD 2 "") ++
        instanceLabel ((v m).getD 1 "") ++ " " ++ m.value
    ((getPrometheusMetrics metrics).isSome = true ↔
      ∀ m ∈ metrics, 3 ≤ (v m).length ∧ ((v m).getD 2 "" = "pfs" → 4 ≤ (v m).length)) ∧
    ∀ s, getPrometheusMetrics metrics = some s →
      s = String.join (metrics.map fun m => line m ++ "\n") ∧
      ((∀ m ∈ metrics, '\n' ∉ m.name.toList ∧ '\n' ∉ m.value.toList) →
        Strings.split s '\n' = metrics.map line ++ [""]) := by
  intro v line
  rw [getPrometheusMetrics_eq]
  refine ⟨?_, fun s hs => ?_⟩
  · split_ifs with hall <;> simp_all [List.all_eq_true, wellNamed_iff]
  split_ifs at hs with hall
  cases hs
  -- every line is the one `prometheusLine` gives
  have hlines : metrics.filterMap prometheusLine = metrics.map fun m => line m ++ "\n" :=
    List.filterMap_eq_map_iff_forall_eq_some.mpr fun m hm =>
      prometheusLine_eq (List.all_eq_true.mp hall m hm)
  refine ⟨by rw [hlines], fun hnl => ?_⟩
  rw [hlines, Strings.split_eq_iff]
  refine ⟨by simp, fun f hf => ?_, join_lines line metrics⟩
  -- no line holds a line break: its fields come from the name, the rest is literal text
  have hfield : ∀ m ∈ metrics, ∀ i : Nat, '\n' ∉ ((v m)[i]?.getD "").data := fun m hm i hc => by
    cases hx : (v m)[i]? with
    | none => simp [hx] at hc
    | some x =>
        rw [hx, Option.getD_some] at hc
        exact (hnl m hm).1 (Strings.mem_of_mem_split (List.getElem?_mem hx) hc)
  simp only [List.mem_append, List.mem_map, List.mem_singleton] at hf
  rcases hf with ⟨m, hm, rfl⟩ | rfl
  · have hvalue : '\n' ∉ m.value.data := (hnl m hm).2
    simp only [line, instanceLabel, String.toList, String.data_append, List.mem_append, not_or]
    split_ifs <;> simp [hfield m hm, hvalue, String.singleton]
  · decide

theorem getPrometheusMetrics_lines_two :
    let metrics : List Metric :=
      [⟨"mysql.db1.threads_running", "4"⟩, ⟨"mysql.db1.pfs.select", "9"⟩]
    let v := fun m : Metric => Strings.split m.name '.'
    let line := fun m : Metric =>
      (if (v m).getD 2 "" = "pfs" then "pfs_" ++ (v m).getD 3 "" else (v m).getD 2 "") ++
        instanceLabel ((v m).getD 1 "") ++ " " ++ m.value
    (∀ m ∈ metrics, '\n' ∉ m.name.toList ∧ '\n' ∉ m.value.toList) ∧
    ∀ s, getPrometheusMetrics metrics = some s → Strings.split s '\n' = metrics.map line ++ [""] :=
  ⟨by decide, fun s hs => ((getPrometheusMetrics_lines _).2 s hs).2 (by decide)⟩

example :
    getPrometheusMetrics [⟨"mysql.db1.threads_running", "4"⟩, ⟨"mysql.db1.pfs.select", "9"⟩] =
      some ("threads_running" ++ instanceLabel "db1" ++ " 4\npfs_select" ++ instanceLabel "db1" ++
        " 9\n") ∧
    getPrometheusMetrics [⟨"mysql.db1.pfs", "1"⟩] = none := by
  decide

end ReplicationManager.ServerMonitor
