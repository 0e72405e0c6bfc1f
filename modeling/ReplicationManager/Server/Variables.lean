import Mathlib.Data.List.Sort
import Mathlib.Data.String.Basic
import ReplicationManager.Types

namespace ReplicationManager.ServerMonitor

open Go
open scoped List

-- The row of one entry of a `map[string]string`.
def toVariable (e : Σ _ : String, String) : Variable := ⟨e.1, e.2⟩

-- The body shared by `GetVariables`, `GetStatus` and `GetInnoDBStatus`: one row appended to a
-- nil slice per entry of the map, then the slice sorted in place. Go ranges over the map in no
-- fixed order; the model takes the order of its entries.
def variableList (sortVariables : List Variable → List Variable)
    (m : AList (fun _ : String => String)) : GoSlice Variable :=
  let rows := m.entries.foldl (fun rows e => rows.append (toVariable e)) GoSlice.nil
  rows.setElems (sortVariables rows.toList)

def getVariables (sortVariables : List Variable → List Variable) (server : ServerMonitor) :
    GoSlice Variable :=
  variableList sortVariables server.serverVariables

def getStatus (sortVariables : List Variable → List Variable) (server : ServerMonitor) :
    GoSlice Variable :=
  variableList sortVariables server.status

def getInnoDBStatus (sortVariables : List Variable → List Variable) (server : ServerMonitor) :
    GoSlice Variable :=
  variableList sortVariables server.engineInnoDB

-- `sort.Sort(dbhelper.VariableSorter(..))`, outside the sources: rows with distinct names come
-- out permuted into ascending name order.
def SortsByName (sortVariables : List Variable → List Variable) : Prop :=
  ∀ rows : List Variable, (rows.map (·.variableName)).Nodup →
    sortVariables rows ~ rows ∧ (sortVariables rows).Sorted (·.variableName < ·.variableName)

-- `List.mergeSort` on names is such a sort.
theorem sortsByName_mergeSort :
    SortsByName fun rows => rows.mergeSort fun a b => decide (a.variableName ≤ b.variableName) := by
  intro rows hnodup
  have hperm := List.mergeSort_perm rows fun a b => decide (a.variableName ≤ b.variableName)
  have hle := @List.sorted_mergeSort _ (fun a b => decide (a.variableName ≤ b.variableName))
    (fun a b c hab hbc => by simpa using le_trans (by simpa using hab) (by simpa using hbc))
    (fun a b => by simpa using le_total a.variableName b.variableName) rows
  have hne : (rows.mergeSort fun a b => decide (a.variableName ≤ b.variableName)).Pairwise
      fun a b => a.variableName ≠ b.variableName :=
    List.pairwise_map.mp ((hperm.map Variable.variableName).nodup_iff.mpr hnodup)
  exact ⟨hperm, (hle.and hne).imp fun h => lt_of_le_of_ne (by simpa using h.1) h.2⟩

theorem variableList_eq (sortVariables : List Variable → List Variable)
    (m : AList (fun _ : String => String)) :
    variableList sortVariables m =
      if m.entries.isEmpty then .nil else .make (sortVariables (m.entries.map toVariable)) := by
  simp only [variableList, GoSlice.foldl_append]
  split_ifs <;> simp [GoSlice.setElems]

-- The names of the rows are the keys of the map, so no two are equal.
theorem nodup_names (m : AList (fun _ : String => String)) :
    ((m.entries.map toVariable).map (·.variableName)).Nodup := by
  simpa [toVariable, Function.comp_def, List.NodupKeys, List.keys] using m.nodupKeys

-- Whatever order Go ranges over the map in, and whichever sort by name is used, the rows are
-- the same: one per entry, in ascending name order. An empty map gives a nil slice.
theorem variableList_spec (sort₁ sort₂ : List Variable → List Variable)
    (h₁ : SortsByName sort₁) (h₂ : SortsByName sort₂) (m₁ m₂ : AList (fun _ : String => String))
    (hm : m₁.entries ~ m₂.entries) :
    (variableList sort₁ m₁ = .nil ↔ m₁.entries = []) ∧
      (variableList sort₁ m₁).toList ~ m₁.entries.map toVariable ∧
      (variableList sort₁ m₁).toList.Sorted (·.variableName < ·.variableName) ∧
      variableList sort₁ m₁ = variableList sort₂ m₂ := by
  haveI : IsAntisymm Variable (·.variableName < ·.variableName) :=
    ⟨fun _ _ hab hba => absurd (hab.trans hba) (lt_irrefl _)⟩
  obtain ⟨hperm₁, hsorted₁⟩ := h₁ _ (nodup_names m₁)
  obtain ⟨hperm₂, hsorted₂⟩ := h₂ _ (nodup_names m₂)
  have hempty : m₁.entries.isEmpty = m₂.entries.isEmpty := by
    have hlen := hm.length_eq
    cases h₁' : m₁.entries <;> cases h₂' : m₂.entries <;> simp_all
  rw [variableList_eq, variableList_eq, ← hempty]
  cases h : m₁.entries.isEmpty
  · have hsame := List.eq_of_perm_of_sorted (hperm₁.trans ((hm.map _).trans hperm₂.symm))
      hsorted₁ hsorted₂
    simp_all [List.isEmpty_iff]
  · simp_all [List.isEmpty_iff]

theorem variableList_spec_mergeSort :
    let byName : List Variable → List Variable := fun rows =>
      rows.mergeSort fun a b => decide (a.variableName ≤ b.variableName)
    let m₁ : AList (fun _ : String => String) :=
      ⟨[⟨"Uptime", "42"⟩, ⟨"Threads_connected", "3"⟩], List.nodupKeys_iff_pairwise.mpr (by decide)⟩
    let m₂ : AList (fun _ : String => String) :=
      ⟨[⟨"Threads_connected", "3"⟩, ⟨"Uptime", "42"⟩], List.nodupKeys_iff_pairwise.mpr (by decide)⟩
    (SortsByName byName ∧ SortsByName byName ∧ m₁.entries ~ m₂.entries) ∧
      (variableList byName m₁ = .nil ↔ m₁.entries = []) ∧
      (variableList byName m₁).toList ~ m₁.entries.map toVariable ∧
      (variableList byName m₁).toList.Sorted (·.variableName < ·.variableName) ∧
      variableList byName m₁ = variableList byName m₂ :=
  ⟨⟨sortsByName_mergeSort, sortsByName_mergeSort, by decide⟩,
    variableList_spec _ _ sortsByName_mergeSort sortsByName_mergeSort _ _ (by decide)⟩

end ReplicationManager.ServerMonitor
