import ReplicationManager.Types
import ReplicationManager.Go.Strconv

namespace ReplicationManager.ServerMonitor

open Go Strconv

-- One turn of the loop of `GetStatusDelta`, for the key `k` holding `v` now.
def statusDeltaEntry (server : ServerMonitor) (k v : String) : Option Variable :=
  match parseInt v with
  | none => none
  | some i1 =>
      match parseInt (mapIndex server.prevStatus k) with
      | none => none
      | some i2 => if i2 - i1 != 0 then some ⟨k, formatInt (i1 - i2)⟩ else none

-- Go ranges over the map in no fixed order; the model takes the order of its entries.
def getStatusDelta (server : ServerMonitor) : List Variable :=
  server.status.entries.filterMap fun e => server.statusDeltaEntry e.1 e.2

theorem statusDeltaEntry_eq_some (server : ServerMonitor) (k v : String) (r : Variable) :
    server.statusDeltaEntry k v = some r ↔ ∃ a b, parseInt v = some a ∧
      parseInt (mapIndex server.prevStatus k) = some b ∧ a ≠ b ∧ r = ⟨k, formatInt (a - b)⟩ := by
  unfold statusDeltaEntry
  cases parseInt v with
  | none => simp
  | some a =>
      cases parseInt (mapIndex server.prevStatus k) with
      | none => simp
      | some b =>
          by_cases hab : a = b
          · subst hab
            simp
          · have hba : (b - a != 0) = true := bne_iff_ne.mpr (sub_ne_zero.mpr (Ne.symm hab))
            simp only [hba, if_true, Option.some.injEq]
            simp [eq_comm, hab]

theorem formatInt_sub (a b : BitVec 64) :
    formatInt (a - b) = toString ((a.toInt - b.toInt).bmod (2 ^ 64)) := by
  rw [formatInt, BitVec.toInt_sub]

-- A filterMap whose outputs name their inputs' keys lists a sub-list of the keys.
private theorem filterMap_map_sublist {α β κ : Type} (f : α → Option β) (name : β → κ)
    (key : α → κ) (hkey : ∀ a b, f a = some b → name b = key a) (l : List α) :
    List.Sublist ((l.filterMap f).map name) (l.map key) := by
  induction l with
  | nil => exact .slnil
  | cons a l ih =>
      cases hfa : f a with
      | none => simpa [List.filterMap_cons, hfa] using ih.cons (key a)
      | some b => simpa [List.filterMap_cons, hfa, hkey a b hfa] using ih.cons₂ (key a)

theorem mem_getStatusDelta {server : ServerMonitor} {r : Variable}
    (hr : r ∈ server.getStatusDelta) :
    ∃ a b, parseInt (mapIndex server.status r.variableName) = some a ∧
      parseInt (mapIndex server.prevStatus r.variableName) = some b ∧
        r.value = formatInt (a - b) := by
  obtain ⟨e, he, hr⟩ := List.mem_filterMap.mp hr
  obtain ⟨a, b, ha, hb, -, rfl⟩ := (statusDeltaEntry_eq_some server _ _ r).mp hr
  exact ⟨a, b, (mapIndex_of_mem he).symm ▸ ha, hb, rfl⟩

theorem getStatusDelta_spec (server : ServerMonitor) :
    (server.getStatusDelta.map (·.variableName)).Nodup ∧
    (∀ k, k ∈ server.getStatusDelta.map (·.variableName) ↔
      ∃ a b, parseInt (mapIndex server.status k) = some a ∧
        parseInt (mapIndex server.prevStatus k) = some b ∧ a ≠ b) ∧
    ∀ r ∈ server.getStatusDelta, ∃ a b, parseInt (mapIndex server.status r.variableName) = some a ∧
      parseInt (mapIndex server.prevStatus r.variableName) = some b ∧
        r.value = toString ((a.toInt - b.toInt).bmod (2 ^ 64)) := by
  have hname : ∀ (e : Σ _ : String, String) r, server.statusDeltaEntry e.1 e.2 = some r →
      r.variableName = e.1 := fun e r h => by
    obtain ⟨a, b, -, -, -, rfl⟩ := (statusDeltaEntry_eq_some server _ _ r).mp h
    rfl
  refine ⟨(filterMap_map_sublist _ _ _ hname _).nodup server.status.keys_nodup, fun k => ?_,
    fun r hr => ?_⟩
  · simp only [getStatusDelta, List.mem_map, List.mem_filterMap, statusDeltaEntry_eq_some]
    constructor
    · rintro ⟨r, ⟨e, he, a, b, ha, hb, hab, rfl⟩, rfl⟩
      exact ⟨a, b, mapIndex_of_mem he ▸ ha, hb, hab⟩
    · rintro ⟨a, b, ha, hb, hab⟩
      have hk : k ∈ server.status := by
        by_contra hk
        simp [mapIndex, AList.lookup_eq_none.mpr hk, parseInt] at ha
      obtain ⟨v, hv⟩ := Option.isSome_iff_exists.mp (AList.lookup_isSome.mpr hk)
      have hmem := AList.mem_lookup_iff.mp hv
      refine ⟨_, ⟨⟨k, v⟩, hmem, a, b, mapIndex_of_mem hmem ▸ ha, hb, hab, rfl⟩, rfl⟩
  · obtain ⟨a, b, ha, hb, hv⟩ := mem_getStatusDelta hr
    exact ⟨a, b, ha, hb, hv.trans (formatInt_sub a b)⟩

theorem getStatusDelta_wraps :
    ({ status := [⟨"Bytes_sent", "9223372036854775807"⟩].toAList
       prevStatus := [⟨"Bytes_sent", "-1"⟩].toAList } : ServerMonitor).getStatusDelta =
      [⟨"Bytes_sent", "-9223372036854775808"⟩] ∧
    toString ((9223372036854775807 : Int) - -1) = "9223372036854775808" := by
  decide

-- Each delta is printed so that `strconv.ParseInt` reads back the int64 difference itself.
theorem getStatusDelta_value_parses (server : ServerMonitor) :
    ∀ r ∈ server.getStatusDelta, ∃ a b, parseInt (mapIndex server.status r.variableName) = some a ∧
      parseInt (mapIndex server.prevStatus r.variableName) = some b ∧
        parseInt r.value = some (a - b) := fun r hr => by
  obtain ⟨a, b, ha, hb, hv⟩ := mem_getStatusDelta hr
  exact ⟨a, b, ha, hb, hv ▸ parseInt_formatInt (a - b)⟩

theorem getStatusDelta_value_parses_wrapped :
    let server : ServerMonitor :=
      { status := [⟨"Bytes_sent", "9223372036854775807"⟩].toAList
        prevStatus := [⟨"Bytes_sent", "-1"⟩].toAList }
    let r : Variable := ⟨"Bytes_sent", "-9223372036854775808"⟩
    r ∈ server.getStatusDelta ∧ ∃ a b, parseInt (mapIndex server.status r.variableName) = some a ∧
      parseInt (mapIndex server.prevStatus r.variableName) = some b ∧
        parseInt r.value = some (a - b) :=
  ⟨by decide, getStatusDelta_value_parses _ _ (by decide)⟩

-- What a consumer of the rows reads for key `k`: the value of its row, parsed back, and 0 when
-- the key has no row.
def reportedDelta (rows : List Variable) (k : String) : BitVec 64 :=
  match rows.find? (·.variableName == k) with
  | some r => (parseInt r.value).getD 0
  | none => 0

-- The rows of successive monitoring ticks: each tick polls the status afresh, and the poll
-- before it becomes `PrevStatus` (the rotation itself is outside the sources).
def statusDeltaRun (server : ServerMonitor) (prev : AList (fun _ : String => String)) :
    List (AList (fun _ : String => String)) → List (List Variable)
  | [] => []
  | status :: polls =>
      { server with prevStatus := prev, status }.getStatusDelta :: statusDeltaRun server status polls

-- The value a poll holds for `k`, read as `GetStatusDelta` reads it.
def polledValue (status : AList (fun _ : String => String)) (k : String) : BitVec 64 :=
  (parseInt (mapIndex status k)).getD 0

-- A key whose value parses is one of the map's keys.
theorem mem_of_parseInt_mapIndex {m : AList (fun _ : String => String)} {k : String}
    {a : BitVec 64} (ha : parseInt (mapIndex m k) = some a) :
    ∃ v, (⟨k, v⟩ : Σ _ : String, String) ∈ m.entries := by
  cases hl : m.lookup k with
  | none => simp [mapIndex, hl, parseInt] at ha
  | some v => exact ⟨v, AList.mem_lookup_iff.mp hl⟩

-- One tick: the consumer reads back the exact int64 difference of the two polls, also when
-- they are equal and the key has no row.
theorem reportedDelta_getStatusDelta (server : ServerMonitor) (k : String) (a b : BitVec 64)
    (ha : parseInt (mapIndex server.status k) = some a)
    (hb : parseInt (mapIndex server.prevStatus k) = some b) :
    reportedDelta server.getStatusDelta k = a - b := by
  unfold reportedDelta
  cases hfind : server.getStatusDelta.find? (·.variableName == k) with
  | some r =>
      have hname : r.variableName = k := by simpa using List.find?_some hfind
      obtain ⟨a', b', ha', hb', hv⟩ := mem_getStatusDelta (List.mem_of_find?_eq_some hfind)
      rw [hname, ha, Option.some.injEq] at ha'
      rw [hname, hb, Option.some.injEq] at hb'
      show (parseInt r.value).getD 0 = a - b
      rw [hv, parseInt_formatInt, ← ha', ← hb']
      rfl
  | none =>
      -- a key whose values differ has a row
      refine (sub_eq_zero_of_eq (by_contra fun hab => ?_)).symm
      obtain ⟨v, hmem⟩ := mem_of_parseInt_mapIndex ha
      have hrow : (⟨k, formatInt (a - b)⟩ : Variable) ∈ server.getStatusDelta :=
        List.mem_filterMap.mpr ⟨_, hmem, (statusDeltaEntry_eq_some server k v _).mpr
          ⟨a, b, mapIndex_of_mem hmem ▸ ha, hb, hab, rfl⟩⟩
      exact absurd (List.find?_eq_none.mp hfind _ hrow) (by simp)

-- Over every sequence of polls in which `k` parses each time, the deltas the ticks report for
-- `k` add up, in int64 arithmetic, to the change from the first poll to the last: no change
-- is lost or counted twice, wrap-around included.
theorem statusDeltaRun_sum (server : ServerMonitor) (k : String)
    (prev : AList (fun _ : String => String)) (polls : List (AList (fun _ : String => String)))
    (hparse : ∀ status ∈ prev :: polls, (parseInt (mapIndex status k)).isSome = true) :
    ((statusDeltaRun server prev polls).map (reportedDelta · k)).sum =
      polledValue ((polls.getLast?).getD prev) k - polledValue prev k := by
  induction polls generalizing prev with
  | nil => simp [statusDeltaRun]
  | cons status polls ih =>
      have hvalue : ∀ s ∈ prev :: status :: polls, parseInt (mapIndex s k) = some (polledValue s k) :=
        fun s hs => by
          obtain ⟨v, hv⟩ := Option.isSome_iff_exists.mp (hparse s hs)
          simp [polledValue, hv]
      have hstep := reportedDelta_getStatusDelta { server with prevStatus := prev, status } k
        _ _ (hvalue status (by simp)) (hvalue prev (by simp))
      have hrest := ih status fun s hs => hparse s (List.mem_cons_of_mem _ hs)
      simp only [statusDeltaRun, List.map_cons, List.sum_cons, hstep, hrest, List.getLast?_cons]
      exact sub_add_sub_cancel' _ _ _

theorem statusDeltaRun_sum_wrapping :
    let poll := fun v : String => [(⟨"Bytes_sent", v⟩ : Σ _ : String, String)].toAList
    let polls := [poll "9223372036854775807", poll "9223372036854775807", poll "-9223372036854775808"]
    (∀ status ∈ poll "0" :: polls,
      (parseInt (mapIndex status "Bytes_sent")).isSome = true) ∧
    ((statusDeltaRun {} (poll "0") polls).map (reportedDelta · "Bytes_sent")).sum =
      polledValue ((polls.getLast?).getD (poll "0")) "Bytes_sent" - polledValue (poll "0") "Bytes_sent" :=
  ⟨by decide, statusDeltaRun_sum {} "Bytes_sent" _ _ (by decide)⟩

-- A poll where `k` does not parse (a failed `SHOW STATUS` leaves an empty map) takes the
-- change across it out of both ticks around it.
example :
    let poll := fun v : String => [(⟨"Com_select", v⟩ : Σ _ : String, String)].toAList
    ((statusDeltaRun {} (poll "10") [∅, poll "15"]).map (reportedDelta · "Com_select")).sum = 0 := by
  decide

end ReplicationManager.ServerMonitor
