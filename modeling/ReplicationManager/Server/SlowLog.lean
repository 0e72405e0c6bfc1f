import ReplicationManager.Types

namespace ReplicationManager.ServerMonitor

open Go

-- `dbhelper.GetQueryDigest`, outside the sources, normalises a query text.
variable (getQueryDigest : String → String)

-- One event of the first loop of `GetPFSStatementsSlowLog` on the digest-keyed map. The
-- float timings it also updates are not modelled.
def slowLogStep (queries : AList (fun _ : String => PFSQuery)) (s : SlowLogEntry) :
    AList (fun _ : String => PFSQuery) :=
  if s.query != "" then
    match queries.lookup s.digest with
    | some val => queries.insert s.digest { val with execCount := val.execCount + 1 }
    | none =>
        queries.insert s.digest
          { digestText := getQueryDigest s.query, digest := s.digest, query := s.query,
            lastSeen := s.timestamp, execCount := 1 }
  else queries

def slowPFSQueries (buffer : List SlowLogEntry) : AList (fun _ : String => PFSQuery) :=
  buffer.foldl (slowLogStep getQueryDigest) ∅

-- The last loop: a counter runs over every row and only the first 50 are appended.
def limitStep (acc : Nat × List PFSQuery) (v : PFSQuery) : Nat × List PFSQuery :=
  (acc.1 + 1, if acc.1 < 50 then acc.2 ++ [v] else acc.2)

def limitRows (rows : List PFSQuery) : List PFSQuery :=
  (rows.foldl limitStep (0, [])).2

-- The second loop: the map's values, in the order of its entries.
def slowPFSRows (buffer : List SlowLogEntry) : List PFSQuery :=
  (slowPFSQueries getQueryDigest buffer).entries.map (·.2)

-- `sortRows` is what `sort.Sort(dbhelper.PFSQuerySorter(rows))` does to the collected rows;
-- the map's iteration order is folded into it.
def getPFSStatementsSlowLog (sortRows : List PFSQuery → List PFSQuery) (server : ServerMonitor) :
    List PFSQuery :=
  limitRows (sortRows (slowPFSRows getQueryDigest server.slowLogBuffer))

-- `GetSlowLog`: one row per event with a query, then the same sort.
def getSlowLog (sortRows : List PFSQuery → List PFSQuery) (server : ServerMonitor) :
    List PFSQuery :=
  sortRows (server.slowLogBuffer.filterMap fun s =>
    if s.query != "" then
      some { digestText := getQueryDigest s.query, digest := s.digest, query := s.query,
             lastSeen := s.timestamp, execCount := 1, schemaName := s.db }
    else none)

-- The digest lookups `GetQueryFromPFSDigest` and `GetQueryFromSlowLogDigest`: the schema and
-- text of the first record, in range order, with that digest. Both fail with the same text.
def queryFromDigest {β : Type} (digestOf schemaOf queryOf : β → String) (records : List β)
    (digest : String) : Except String (String × String) :=
  match records.find? (digestOf · == digest) with
  | some v => .ok (schemaOf v, queryOf v)
  | none => .error "Query digest not found in PFS"

-- `GetQueryFromSlowLogDigest`: over the buffer, the event's `Db` as the schema.
def getQueryFromSlowLogDigest (server : ServerMonitor) (digest : String) :
    Except String (String × String) :=
  queryFromDigest (·.digest) (·.db) (·.query) server.slowLogBuffer digest

-- `server.PFSQueries`, the statement map the performance-schema collector fills outside the
-- sources, is passed in. `GetPFSStatements`: its values in the order of its entries, sorted.
def getPFSStatements (sortRows : List PFSQuery → List PFSQuery)
    (pfsQueries : AList (fun _ : String => PFSQuery)) : List PFSQuery :=
  sortRows (pfsQueries.entries.map (·.2))

-- `GetQueryFromPFSDigest`: over the same values, in the same order.
def getQueryFromPFSDigest (pfsQueries : AList (fun _ : String => PFSQuery)) (digest : String) :
    Except String (String × String) :=
  queryFromDigest (·.digest) (·.schemaName) (·.query) (pfsQueries.entries.map (·.2)) digest

-- The digests of the events with a query, in buffer order.
def slowDigests (buffer : List SlowLogEntry) : List String :=
  (buffer.filter (·.query != "")).map (·.digest)

-- What the digest map holds after a prefix of the buffer.
structure Aggregates (queries : AList (fun _ : String => PFSQuery)) (buffer : List SlowLogEntry) :
    Prop where
  mem_iff : ∀ d, d ∈ queries ↔ d ∈ slowDigests buffer
  lookup_eq : ∀ d v, queries.lookup d = some v →
    v.digest = d ∧ v.execCount = (slowDigests buffer).count d

theorem slowDigests_append_singleton (buffer : List SlowLogEntry) (s : SlowLogEntry) :
    slowDigests (buffer ++ [s]) =
      if s.query != "" then slowDigests buffer ++ [s.digest] else slowDigests buffer := by
  by_cases h : s.query != "" <;> simp [slowDigests, List.filter_append, h]

-- What one event does to the map: an event with a query stores at its digest the row it
-- had there with one more event, or a new row; no other key changes.
theorem lookup_slowLogStep (queries : AList (fun _ : String => PFSQuery)) (s : SlowLogEntry)
    (d : String) :
    (slowLogStep getQueryDigest queries s).lookup d =
      if s.query != "" && d == s.digest then
        some ((queries.lookup s.digest).elim
          { digestText := getQueryDigest s.query, digest := s.digest, query := s.query,
            lastSeen := s.timestamp, execCount := 1 }
          fun val => { val with execCount := val.execCount + 1 })
      else queries.lookup d := by
  rw [slowLogStep]
  by_cases hq : s.query != ""
  · rcases eq_or_ne d s.digest with rfl | hd <;> cases hl : queries.lookup s.digest <;>
      simp [hq, hl, AList.lookup_insert_ne, *]
  · simp [hq]

theorem aggregates_slowLogStep {queries : AList (fun _ : String => PFSQuery)}
    {buffer : List SlowLogEntry} (hagg : Aggregates queries buffer) (s : SlowLogEntry) :
    Aggregates (slowLogStep getQueryDigest queries s) (buffer ++ [s]) := by
  refine ⟨fun d => ?_, fun d v hv => ?_⟩
  · rw [← AList.lookup_isSome, lookup_slowLogStep, slowDigests_append_singleton]
    by_cases hq : s.query != "" <;> by_cases hd : d = s.digest <;>
      simp [hq, hd, AList.lookup_isSome, hagg.mem_iff]
  · rw [lookup_slowLogStep] at hv
    rw [slowDigests_append_singleton]
    by_cases hq : s.query != "" <;> by_cases hd : d = s.digest
    · -- the event's own digest: its row counts one more event
      subst hd
      simp only [hq, beq_self_eq_true, Bool.and_self, if_true, Option.some.injEq] at hv
      subst hv
      cases hl : queries.lookup s.digest with
      | some val =>
          obtain ⟨hd, hc⟩ := hagg.lookup_eq _ _ hl
          simp [hq, hd, hc, List.count_append]
      | none =>
          have hnot : s.digest ∉ slowDigests buffer :=
            fun h => AList.lookup_eq_none.mp hl ((hagg.mem_iff _).mpr h)
          simp [hq, List.count_eq_zero_of_not_mem hnot]
    all_goals simpa [hq, hd, List.count_append] using hagg.lookup_eq d v (by simpa [hq, hd] using hv)

-- The text of the first event of digest `d` that has a query: the one a new map entry takes.
def firstQuery (buffer : List SlowLogEntry) (d : String) : Option String :=
  (buffer.find? fun s => s.query != "" && s.digest == d).map (·.query)

def FirstQueries (queries : AList (fun _ : String => PFSQuery)) (buffer : List SlowLogEntry) :
    Prop :=
  ∀ d v, queries.lookup d = some v → some v.query = firstQuery buffer d

-- Events after the first one with a query never change it.
theorem firstQuery_append_of_ne_none {buffer : List SlowLogEntry} {d : String}
    (h : firstQuery buffer d ≠ none) (rest : List SlowLogEntry) :
    firstQuery (buffer ++ rest) d = firstQuery buffer d := by
  unfold firstQuery at *
  cases hf : buffer.find? fun s => s.query != "" && s.digest == d with
  | none => simp [hf] at h
  | some v => simp [List.find?_append, hf]

theorem firstQueries_slowLogStep {queries : AList (fun _ : String => PFSQuery)}
    {buffer : List SlowLogEntry} (hagg : Aggregates queries buffer)
    (hfq : FirstQueries queries buffer) (s : SlowLogEntry) :
    FirstQueries (slowLogStep getQueryDigest queries s) (buffer ++ [s]) := by
  -- a key already in the map keeps the text it was given
  have hold : ∀ d v, queries.lookup d = some v →
      some v.query = firstQuery (buffer ++ [s]) d := fun d v hv => by
    rw [hfq d v hv, firstQuery_append_of_ne_none (hfq d v hv ▸ Option.some_ne_none _)]
  intro d v hv
  rw [lookup_slowLogStep] at hv
  by_cases hq : s.query != "" <;> by_cases hd : d = s.digest
  · -- the event's own digest: a new row takes the event's text, an old one keeps its own
    subst hd
    simp only [hq, beq_self_eq_true, Bool.and_self, if_true, Option.some.injEq] at hv
    subst hv
    cases hl : queries.lookup s.digest with
    | some val => exact hold _ val hl
    | none =>
        have hnone : firstQuery buffer s.digest = none := by
          simp only [firstQuery, Option.map_eq_none', List.find?_eq_none, Bool.and_eq_true,
            beq_iff_eq, not_and]
          intro x hx hxq hxd
          exact AList.lookup_eq_none.mp hl ((hagg.mem_iff _).mpr
            (List.mem_map.mpr ⟨x, List.mem_filter.mpr ⟨hx, hxq⟩, hxd⟩))
        simp only [firstQuery] at hnone ⊢
        simp [List.find?_append, Option.map_eq_none'.mp hnone, hq]
  all_goals exact hold d v (by simpa [hq, hd] using hv)

-- Both invariants hold of the map after every prefix of the buffer.
theorem invariants_foldl (rest : List SlowLogEntry) :
    ∀ {queries : AList (fun _ : String => PFSQuery)} {buffer : List SlowLogEntry},
      Aggregates queries buffer → FirstQueries queries buffer →
        Aggregates (rest.foldl (slowLogStep getQueryDigest) queries) (buffer ++ rest) ∧
          FirstQueries (rest.foldl (slowLogStep getQueryDigest) queries) (buffer ++ rest) := by
  induction rest with
  | nil => exact fun hagg hfq => by simpa using And.intro hagg hfq
  | cons s rest ih =>
      intro queries buffer hagg hfq
      simpa using ih (aggregates_slowLogStep getQueryDigest hagg s)
        (firstQueries_slowLogStep getQueryDigest hagg hfq s)

theorem aggregates_empty : Aggregates ∅ [] :=
  ⟨fun d => by simp [slowDigests, AList.not_mem_empty], fun d v h => by simp at h⟩

theorem aggregates_slowPFSQueries (buffer : List SlowLogEntry) :
    Aggregates (slowPFSQueries getQueryDigest buffer) buffer := by
  simpa using (invariants_foldl getQueryDigest buffer aggregates_empty
    (fun d v hv => by simp at hv)).1

theorem firstQueries_slowPFSQueries (buffer : List SlowLogEntry) :
    FirstQueries (slowPFSQueries getQueryDigest buffer) buffer := by
  simpa using (invariants_foldl getQueryDigest buffer aggregates_empty
    (fun d v hv => by simp at hv)).2

theorem foldl_limitStep (rows : List PFSQuery) (i : Nat) (acc : List PFSQuery) :
    rows.foldl limitStep (i, acc) = (i + rows.length, acc ++ rows.take (50 - i)) := by
  induction rows generalizing i acc with
  | nil => simp
  | cons v rows ih =>
      rw [List.foldl_cons, limitStep, ih]
      by_cases hi : i < 50
      · have h50 : 50 - i = 50 - (i + 1) + 1 := by omega
        simp [hi, h50, Nat.add_assoc, Nat.add_comm 1]
      · have h50 : 50 - i = 0 := by omega
        simp [hi, h50, show 50 - (i + 1) = 0 by omega, Nat.add_assoc, Nat.add_comm 1]

theorem limitRows_eq_take (rows : List PFSQuery) : limitRows rows = rows.take 50 := by
  simp [limitRows, foldl_limitStep]

-- Each collected row is the aggregate of its digest.
theorem mem_slowPFSRows {buffer : List SlowLogEntry} {r : PFSQuery}
    (hr : r ∈ slowPFSRows getQueryDigest buffer) :
    r.digest ∈ slowDigests buffer ∧ r.execCount = (slowDigests buffer).count r.digest := by
  have hagg := aggregates_slowPFSQueries getQueryDigest buffer
  obtain ⟨e, he, rfl⟩ := List.mem_map.mp hr
  obtain ⟨hdig, hcount⟩ := hagg.lookup_eq e.1 e.2 (Option.mem_def.mp (AList.mem_lookup_iff.mpr he))
  refine ⟨?_, hdig ▸ hcount⟩
  rw [hdig, ← hagg.mem_iff, AList.mem_keys]
  exact List.mem_map_of_mem _ he

-- The collected rows carry each distinct digest of the buffer once.
theorem slowPFSRows_digests_perm (buffer : List SlowLogEntry) :
    List.Perm ((slowPFSRows getQueryDigest buffer).map (·.digest)) (slowDigests buffer).dedup := by
  have hagg := aggregates_slowPFSQueries getQueryDigest buffer
  have hkeys : (slowPFSRows getQueryDigest buffer).map (·.digest) =
      (slowPFSQueries getQueryDigest buffer).keys := by
    simp only [slowPFSRows, List.map_map, AList.keys, List.keys]
    exact List.map_congr_left fun e he =>
      (hagg.lookup_eq e.1 e.2 (Option.mem_def.mp (AList.mem_lookup_iff.mpr he))).1
  rw [hkeys]
  exact (List.perm_ext_iff_of_nodup (AList.keys_nodup _) (List.nodup_dedup _)).mpr fun d => by
    rw [← AList.mem_keys, hagg.mem_iff, List.mem_dedup]

theorem getPFSStatementsSlowLog_eq_take (sortRows : List PFSQuery → List PFSQuery)
    (server : ServerMonitor) : getPFSStatementsSlowLog getQueryDigest sortRows server =
      (sortRows (slowPFSRows getQueryDigest server.slowLogBuffer)).take 50 :=
  limitRows_eq_take _

theorem getPFSStatementsSlowLog_spec (sortRows : List PFSQuery → List PFSQuery)
    (hsort : ∀ rows, List.Perm (sortRows rows) rows) (server : ServerMonitor) :
    let rows := getPFSStatementsSlowLog getQueryDigest sortRows server
    let digests := slowDigests server.slowLogBuffer
    rows.length = min 50 digests.dedup.length ∧ (rows.map (·.digest)).Nodup ∧
      ∀ r ∈ rows, r.digest ∈ digests ∧ r.execCount = digests.count r.digest := by
  have hperm := hsort (slowPFSRows getQueryDigest server.slowLogBuffer)
  have hdigests := (hperm.map (·.digest)).trans (slowPFSRows_digests_perm _ _)
  have hrows := getPFSStatementsSlowLog_eq_take getQueryDigest sortRows server
  refine ⟨?_, ?_, fun r hr => ?_⟩
  · rw [hrows, List.length_take, ← hdigests.length_eq, List.length_map]
  · rw [hrows, List.map_take]
    exact (List.take_sublist _ _).nodup (hdigests.nodup_iff.mpr (List.nodup_dedup _))
  · rw [hrows] at hr
    exact mem_slowPFSRows getQueryDigest (hperm.mem_iff.mp (List.mem_of_mem_take hr))

theorem getPFSStatementsSlowLog_spec_buffer :
    let server : ServerMonitor :=
      { slowLogBuffer := [{ query := "select 1", digest := "d1" },
          { query := "select 2", digest := "d2" }, { query := "select 1", digest := "d1" },
          { query := "", digest := "d3" }] }
    (∀ rows : List PFSQuery, List.Perm (id rows) rows) ∧
    let rows := getPFSStatementsSlowLog id id server
    let digests := slowDigests server.slowLogBuffer
    rows.length = min 50 digests.dedup.length ∧ (rows.map (·.digest)).Nodup ∧
      ∀ r ∈ rows, r.digest ∈ digests ∧ r.execCount = digests.count r.digest :=
  ⟨fun rows => List.Perm.refl rows,
    getPFSStatementsSlowLog_spec id id (fun rows => List.Perm.refl rows) _⟩

-- The first element passing `p` is also the first passing `q` and `p`, when it passes `q`.
private theorem find?_and_of_find? {α : Type} {p : α → Bool} (q : α → Bool) {l : List α} {v : α}
    (h : l.find? p = some v) (hq : q v = true) : l.find? (fun x => q x && p x) = some v := by
  induction l with
  | nil => simp at h
  | cons a l ih =>
      by_cases hp : p a
      · simp only [List.find?_cons, hp] at h ⊢
        cases h
        simp [hq]
      · simp only [List.find?_cons, hp, Bool.and_false] at h ⊢
        exact ih h

theorem query_of_mem_slowPFSRows {buffer : List SlowLogEntry} {r : PFSQuery}
    (hr : r ∈ slowPFSRows getQueryDigest buffer) : some r.query = firstQuery buffer r.digest := by
  obtain ⟨e, he, rfl⟩ := List.mem_map.mp hr
  have hl := Option.mem_def.mp (AList.mem_lookup_iff.mpr he)
  rw [((aggregates_slowPFSQueries getQueryDigest buffer).lookup_eq _ _ hl).1]
  exact firstQueries_slowPFSQueries getQueryDigest buffer _ _ hl

-- A row's query text is never empty: it is taken from an event that has one.
theorem query_ne_empty_of_mem_slowPFSRows {buffer : List SlowLogEntry} {r : PFSQuery}
    (hr : r ∈ slowPFSRows getQueryDigest buffer) : r.query ≠ "" := by
  have h := query_of_mem_slowPFSRows getQueryDigest hr
  cases hf : buffer.find? fun s => s.query != "" && s.digest == r.digest with
  | none => simp [firstQuery, hf] at h
  | some w =>
      simp only [firstQuery, hf, Option.map_some', Option.some.injEq] at h
      have hw := List.find?_some hf
      simp only [Bool.and_eq_true, bne_iff_ne, ne_eq] at hw
      exact h ▸ hw.1

-- Explaining a row of the aggregated view looks its digest up again in the buffer: the
-- lookup always finds the first event of that digest, and returns the row's query text
-- exactly when that event has one; otherwise the explanation is asked for an empty query.
theorem getQueryFromSlowLogDigest_of_row (sortRows : List PFSQuery → List PFSQuery)
    (hsort : ∀ rows, List.Perm (sortRows rows) rows) (server : ServerMonitor) :
    ∀ r ∈ getPFSStatementsSlowLog getQueryDigest sortRows server, ∃ v,
      server.slowLogBuffer.find? (·.digest == r.digest) = some v ∧
      server.getQueryFromSlowLogDigest r.digest = .ok (v.db, v.query) ∧
        (v.query = r.query ↔ v.query ≠ "") := by
  intro r hr
  rw [getPFSStatementsSlowLog_eq_take] at hr
  have hrow := (hsort _).mem_iff.mp (List.mem_of_mem_take hr)
  have hne := query_ne_empty_of_mem_slowPFSRows getQueryDigest hrow
  obtain ⟨x, hx, hxd⟩ := List.mem_map.mp (mem_slowPFSRows getQueryDigest hrow).1
  cases hv : server.slowLogBuffer.find? (·.digest == r.digest) with
  | none =>
      have := List.find?_eq_none.mp hv x (List.mem_filter.mp hx).1
      simp [hxd] at this
  | some v =>
      refine ⟨v, rfl, by simp [getQueryFromSlowLogDigest, queryFromDigest, hv], fun h => h ▸ hne,
        fun hq => ?_⟩
      have hfirst := find?_and_of_find? (fun s => s.query != "") hv (by simpa using hq)
      have := query_of_mem_slowPFSRows getQueryDigest hrow
      simp only [firstQuery, hfirst, Option.map_some', Option.some.injEq] at this
      exact this.symm

theorem getQueryFromSlowLogDigest_of_row_empty_first :
    let server : ServerMonitor :=
      { slowLogBuffer := [{ query := "", digest := "d1", db := "app" },
          { query := "select 1", digest := "d1", db := "app" }] }
    (∀ rows : List PFSQuery, List.Perm (id rows) rows) ∧
    ∀ r ∈ getPFSStatementsSlowLog id id server, ∃ v,
      server.slowLogBuffer.find? (·.digest == r.digest) = some v ∧
      server.getQueryFromSlowLogDigest r.digest = .ok (v.db, v.query) ∧
        (v.query = r.query ↔ v.query ≠ "") :=
  ⟨fun rows => List.Perm.refl rows,
    getQueryFromSlowLogDigest_of_row id id (fun rows => List.Perm.refl rows) _⟩

-- There the row shows the query, and its explanation is asked for the empty one.
example :
    let server : ServerMonitor :=
      { slowLogBuffer := [{ query := "", digest := "d1", db := "app" },
          { query := "select 1", digest := "d1", db := "app" }] }
    (getPFSStatementsSlowLog id id server).map (·.query) = ["select 1"] ∧
      server.getQueryFromSlowLogDigest "d1" = .ok ("app", "") :=
  ⟨by decide, rfl⟩

section Lookup

variable {β : Type} (digestOf schemaOf queryOf : β → String)

-- A record whose digest no other record shares is the one the lookup answers with.
theorem queryFromDigest_of_mem {records : List β} (hnodup : (records.map digestOf).Nodup)
    {v : β} (hv : v ∈ records) :
    queryFromDigest digestOf schemaOf queryOf records (digestOf v) =
      .ok (schemaOf v, queryOf v) := by
  have hfound : (records.find? (digestOf · == digestOf v)).isSome = true :=
    List.find?_isSome.mpr ⟨v, hv, beq_self_eq_true _⟩
  obtain ⟨w, hw⟩ := Option.isSome_iff_exists.mp hfound
  have hdigest : digestOf w = digestOf v := by simpa using List.find?_some hw
  rw [queryFromDigest, hw,
    List.inj_on_of_nodup_map hnodup (List.mem_of_find?_eq_some hw) hv hdigest]

-- With no digest shared, the answer does not depend on the order the records are ranged in.
theorem queryFromDigest_perm {records records' : List β} (hperm : List.Perm records' records)
    (hnodup : (records.map digestOf).Nodup) (digest : String) :
    queryFromDigest digestOf schemaOf queryOf records' digest =
      queryFromDigest digestOf schemaOf queryOf records digest := by
  by_cases h : ∃ v ∈ records, digestOf v = digest
  · obtain ⟨v, hv, rfl⟩ := h
    have hnodup' := (hperm.map digestOf).nodup_iff.mpr hnodup
    rw [queryFromDigest_of_mem _ _ _ hnodup hv,
      queryFromDigest_of_mem _ _ _ hnodup' (hperm.mem_iff.mpr hv)]
  · push_neg at h
    have hnone : ∀ l : List β, List.Perm l records → l.find? (digestOf · == digest) = none :=
      fun l hl => List.find?_eq_none.mpr fun x hx => by simpa using h x (hl.mem_iff.mp hx)
    simp only [queryFromDigest, hnone records' hperm, hnone records (.refl _)]

end Lookup

-- A map whose keys are its statements' digests holds no digest twice.
theorem nodup_pfsDigests {pfsQueries : AList (fun _ : String => PFSQuery)}
    (hkeys : ∀ e ∈ pfsQueries.entries, e.2.digest = e.1) :
    ((pfsQueries.entries.map (·.2)).map (·.digest)).Nodup := by
  have hdigests : (pfsQueries.entries.map (·.2)).map (·.digest) = pfsQueries.keys := by
    rw [List.map_map]
    exact List.map_congr_left hkeys
  exact hdigests ▸ pfsQueries.nodupKeys

-- Every statement `GetPFSStatements` lists can be explained by its digest: on a map keyed by
-- digest, `GetQueryFromPFSDigest` gives back that statement's schema and text, in whichever
-- order Go ranges over the map.
theorem getQueryFromPFSDigest_of_statement (sortRows : List PFSQuery → List PFSQuery)
    (hsort : ∀ rows, List.Perm (sortRows rows) rows)
    (pfsQueries : AList (fun _ : String => PFSQuery))
    (hkeys : ∀ e ∈ pfsQueries.entries, e.2.digest = e.1) :
    ∀ r ∈ getPFSStatements sortRows pfsQueries, ∀ ranged : AList (fun _ : String => PFSQuery),
      List.Perm ranged.entries pfsQueries.entries →
        getQueryFromPFSDigest ranged r.digest = .ok (r.schemaName, r.query) := by
  intro r hr ranged hranged
  have hnodup := nodup_pfsDigests hkeys
  rw [getQueryFromPFSDigest, queryFromDigest_perm _ _ _ (hranged.map _) hnodup]
  exact queryFromDigest_of_mem _ _ _ hnodup ((hsort _).mem_iff.mp hr)

theorem getQueryFromPFSDigest_of_statement_reranged :
    let pfsQueries : AList (fun _ : String => PFSQuery) :=
      [⟨"d1", { digest := "d1", schemaName := "app", query := "select 1" }⟩,
        ⟨"d2", { digest := "d2", schemaName := "bi", query := "select 2" }⟩].toAList
    ((∀ rows : List PFSQuery, List.Perm (id rows) rows) ∧
      ∀ e ∈ pfsQueries.entries, e.2.digest = e.1) ∧
    ∀ r ∈ getPFSStatements id pfsQueries, ∀ ranged : AList (fun _ : String => PFSQuery),
      List.Perm ranged.entries pfsQueries.entries →
        getQueryFromPFSDigest ranged r.digest = .ok (r.schemaName, r.query) :=
  ⟨⟨fun rows => List.Perm.refl rows, by decide⟩,
    getQueryFromPFSDigest_of_statement id (fun rows => List.Perm.refl rows) _ (by decide)⟩

-- Under keys that are not the digests two statements may share one, and the lookup answers
-- with whichever of them Go ranges over first.
theorem getQueryFromPFSDigest_shared_digest :
    let a : PFSQuery := { digest := "d1", schemaName := "app", query := "select 1" }
    let b : PFSQuery := { digest := "d1", schemaName := "bi", query := "select 2" }
    getQueryFromPFSDigest [⟨"k1", a⟩, ⟨"k2", b⟩].toAList "d1" = .ok ("app", "select 1") ∧
      getQueryFromPFSDigest [⟨"k2", b⟩, ⟨"k1", a⟩].toAList "d1" = .ok ("bi", "select 2") :=
  ⟨rfl, rfl⟩

-- The first event of digest `d` that has a query.
def firstEvent (buffer : List SlowLogEntry) (d : String) : Option SlowLogEntry :=
  buffer.find? fun s => s.query != "" && s.digest == d

-- The row the first loop holds for the digest of `s` after `n` events, `s` being the first.
def slowLogRow (s : SlowLogEntry) (n : Nat) : PFSQuery :=
  { digestText := getQueryDigest s.query, digest := s.digest, query := s.query,
    lastSeen := s.timestamp, execCount := n }

-- Every row of the map is built from the first event of its digest: only its count moves.
def RowsFromFirst (queries : AList (fun _ : String => PFSQuery)) (buffer : List SlowLogEntry) :
    Prop :=
  ∀ d v, queries.lookup d = some v → ∃ e, firstEvent buffer d = some e ∧
    v = slowLogRow getQueryDigest e ((slowDigests buffer).count d)

theorem firstEvent_eq_none_iff (buffer : List SlowLogEntry) (d : String) :
    firstEvent buffer d = none ↔ d ∉ slowDigests buffer := by
  simp only [firstEvent, slowDigests, List.find?_eq_none, Bool.and_eq_true, bne_iff_ne, ne_eq,
    beq_iff_eq, not_and, List.mem_map, List.mem_filter, not_exists]
  exact ⟨fun h x ⟨hx, hq⟩ hd => h x hx (by simpa using hq) hd,
    fun h x hx hq hd => h x ⟨hx, by simpa using hq⟩ hd⟩

theorem rowsFromFirst_slowLogStep {queries : AList (fun _ : String => PFSQuery)}
    {buffer : List SlowLogEntry} (hagg : Aggregates queries buffer)
    (hrows : RowsFromFirst getQueryDigest queries buffer) (s : SlowLogEntry) :
    RowsFromFirst getQueryDigest (slowLogStep getQueryDigest queries s) (buffer ++ [s]) := by
  -- a digest that has its first event keeps it
  have hkeep : ∀ d e, firstEvent buffer d = some e → firstEvent (buffer ++ [s]) d = some e :=
    fun d e h => by simp only [firstEvent] at h ⊢; simp [List.find?_append, h]
  intro d v hv
  rw [lookup_slowLogStep] at hv
  rw [slowDigests_append_singleton]
  by_cases hq : s.query != "" <;> by_cases hd : d = s.digest
  · -- the event's own digest: an old row counts one more event, a new one starts from it
    subst hd
    simp only [hq, beq_self_eq_true, Bool.and_self, if_true, Option.some.injEq] at hv
    subst hv
    cases hl : queries.lookup s.digest with
    | some val =>
        obtain ⟨e, he, rfl⟩ := hrows _ val hl
        exact ⟨e, hkeep _ _ he, by simp [slowLogRow, hq, List.count_append]⟩
    | none =>
        have hnot : s.digest ∉ slowDigests buffer :=
          fun h => AList.lookup_eq_none.mp hl ((hagg.mem_iff _).mpr h)
        have hnone := (firstEvent_eq_none_iff buffer s.digest).mpr hnot
        simp only [firstEvent] at hnone
        refine ⟨s, by simp [firstEvent, List.find?_append, hnone, hq], ?_⟩
        simp [slowLogRow, hq, List.count_eq_zero_of_not_mem hnot]
  all_goals
    obtain ⟨e, he, rfl⟩ := hrows d v (by simpa [hq, hd] using hv)
    exact ⟨e, hkeep _ _ he, by simp [hq, hd, List.count_append]⟩

theorem rowsFromFirst_foldl (rest : List SlowLogEntry) :
    ∀ {queries : AList (fun _ : String => PFSQuery)} {buffer : List SlowLogEntry},
      Aggregates queries buffer → RowsFromFirst getQueryDigest queries buffer →
        RowsFromFirst getQueryDigest (rest.foldl (slowLogStep getQueryDigest) queries)
          (buffer ++ rest) := by
  induction rest with
  | nil => exact fun _ h => by simpa using h
  | cons s rest ih =>
      intro queries buffer hagg hrows
      simpa using ih (aggregates_slowLogStep getQueryDigest hagg s)
        (rowsFromFirst_slowLogStep getQueryDigest hagg hrows s)

-- Each row of the aggregated view is the row of the first event of its digest, with the
-- digest's event count: its `Last_seen` is the timestamp of the first event, never updated,
-- its query and digest text are the first event's, and its `Schema_name` is left empty.
theorem getPFSStatementsSlowLog_rows (sortRows : List PFSQuery → List PFSQuery)
    (hsort : ∀ rows, List.Perm (sortRows rows) rows) (server : ServerMonitor) :
    ∀ r ∈ getPFSStatementsSlowLog getQueryDigest sortRows server, ∃ e,
      firstEvent server.slowLogBuffer r.digest = some e ∧
        r = slowLogRow getQueryDigest e ((slowDigests server.slowLogBuffer).count r.digest) := by
  intro r hr
  rw [getPFSStatementsSlowLog_eq_take] at hr
  obtain ⟨x, hx, rfl⟩ := List.mem_map.mp ((hsort _).mem_iff.mp (List.mem_of_mem_take hr))
  have hl := Option.mem_def.mp (AList.mem_lookup_iff.mpr hx)
  have hrows := rowsFromFirst_foldl getQueryDigest server.slowLogBuffer aggregates_empty
    (fun d v hv => by simp at hv)
  simp only [List.nil_append] at hrows
  obtain ⟨e, he, hv⟩ := hrows x.1 x.2 hl
  rw [((aggregates_slowPFSQueries getQueryDigest _).lookup_eq _ _ hl).1]
  exact ⟨e, he, hv⟩

theorem getPFSStatementsSlowLog_rows_first_seen :
    let server : ServerMonitor :=
      { slowLogBuffer := [{ query := "select 1", digest := "d1", timestamp := "1700000000" },
          { query := "select 1", digest := "d1", timestamp := "1700000600" }] }
    (∀ rows : List PFSQuery, List.Perm (id rows) rows) ∧
    ∀ r ∈ getPFSStatementsSlowLog id id server, ∃ e,
      firstEvent server.slowLogBuffer r.digest = some e ∧
        r = slowLogRow id e ((slowDigests server.slowLogBuffer).count r.digest) :=
  ⟨fun rows => List.Perm.refl rows,
    getPFSStatementsSlowLog_rows id id (fun rows => List.Perm.refl rows) _⟩

-- There the one row's `Last_seen` is the earlier of the two timestamps.
example :
    (getPFSStatementsSlowLog id id
      { slowLogBuffer := [{ query := "select 1", digest := "d1", timestamp := "1700000000" },
          { query := "select 1", digest := "d1", timestamp := "1700000600" }] }).map (·.lastSeen) =
      ["1700000000"] := by
  decide

-- The per-event rows of `GetSlowLog` carry the buffer's digests of events with a query.
theorem getSlowLog_digests_perm (sortRows : List PFSQuery → List PFSQuery)
    (hsort : ∀ rows, List.Perm (sortRows rows) rows) (server : ServerMonitor) :
    List.Perm ((getSlowLog getQueryDigest sortRows server).map (·.digest))
      (slowDigests server.slowLogBuffer) := by
  refine ((hsort _).map _).trans (List.Perm.of_eq ?_)
  induction server.slowLogBuffer with
  | nil => rfl
  | cons s rest ih =>
      by_cases hq : s.query != "" <;> simp_all [slowDigests, List.filter_cons]

-- The aggregated view agrees with the per-event view of the same buffer, whatever order either
-- sort leaves: each aggregated row counts the per-event rows of its digest, and under the
-- 50-row cut every digest of the per-event view has its row.
theorem getPFSStatementsSlowLog_counts_getSlowLog
    (sortRows sortEvents : List PFSQuery → List PFSQuery)
    (hsort : ∀ rows, List.Perm (sortRows rows) rows)
    (hsortEvents : ∀ rows, List.Perm (sortEvents rows) rows) (server : ServerMonitor) :
    let rows := getPFSStatementsSlowLog getQueryDigest sortRows server
    let events := (getSlowLog getQueryDigest sortEvents server).map (·.digest)
    (∀ r ∈ rows, r.digest ∈ events ∧ r.execCount = events.count r.digest) ∧
      (events.dedup.length ≤ 50 → List.Perm (rows.map (·.digest)) events.dedup) := by
  have hevents := getSlowLog_digests_perm getQueryDigest sortEvents hsortEvents server
  have hperm := hsort (slowPFSRows getQueryDigest server.slowLogBuffer)
  have hdigests := ((hperm.map (·.digest)).trans (slowPFSRows_digests_perm _ _)).trans
    hevents.dedup.symm
  have hrows := getPFSStatementsSlowLog_eq_take getQueryDigest sortRows server
  refine ⟨fun r hr => ?_, fun hlen => ?_⟩
  · rw [hrows] at hr
    obtain ⟨hmem, hcount⟩ :=
      mem_slowPFSRows getQueryDigest (hperm.mem_iff.mp (List.mem_of_mem_take hr))
    exact ⟨hevents.mem_iff.mpr hmem, hcount.trans (hevents.count_eq _).symm⟩
  · have hcut := hdigests.length_eq
    rw [List.length_map] at hcut
    rw [hrows, List.take_of_length_le (by omega)]
    exact hdigests

theorem getPFSStatementsSlowLog_counts_getSlowLog_buffer :
    let server : ServerMonitor :=
      { slowLogBuffer := [{ query := "select 1", digest := "d1" },
          { query := "select 2", digest := "d2" }, { query := "select 1", digest := "d1" },
          { query := "", digest := "d3" }] }
    (∀ rows : List PFSQuery, List.Perm (id rows) rows) ∧
    let rows := getPFSStatementsSlowLog id id server
    let events := (getSlowLog id id server).map (·.digest)
    (∀ r ∈ rows, r.digest ∈ events ∧ r.execCount = events.count r.digest) ∧
      (events.dedup.length ≤ 50 → List.Perm (rows.map (·.digest)) events.dedup) :=
  ⟨fun rows => List.Perm.refl rows, getPFSStatementsSlowLog_counts_getSlowLog id id id
    (fun rows => List.Perm.refl rows) (fun rows => List.Perm.refl rows) _⟩

end ReplicationManager.ServerMonitor
