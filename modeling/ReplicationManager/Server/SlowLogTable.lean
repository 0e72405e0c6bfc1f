import ReplicationManager.Go.Strings
import ReplicationManager.Go.Strconv

namespace ReplicationManager.ServerMonitor

open Go Strconv
open scoped List

-- A row of `mysql.slow_log` with the columns `GetSlowLogTable` prints. `Query_time` and
-- `Lock_time` are printed with `%s` and stand for the text printed; the integer columns are
-- printed with `%d`.
structure LogSlow where
  startTime : BitVec 64 := 0
  userHost : String := ""
  queryTime : String := ""
  lockTime : String := ""
  rowsSent : BitVec 64 := 0
  rowsExamined : BitVec 64 := 0
  db : String := ""
  sqlText : String := ""
  threadId : BitVec 64 := 0
  rowsAffected : BitVec 64 := 0
  deriving DecidableEq, Repr

-- `strings.Replace(strings.Replace(s.Sql_text.String, "\r\n", " ", -1), "\n", " ", -1)`
def sqlOneLine (sql : String) : String :=
  Strings.replace (Strings.replace sql "\r\n" " ") "\n" " "

-- The `fmt.Fprintf` of one row into the file.
def slowLogEntry (s : LogSlow) : String :=
  "# User@Host: " ++ s.userHost ++ "\n# Thread_id: " ++ formatInt s.threadId ++ "  Schema: " ++
    s.db ++ "  QC_hit: No\n# Query_time: " ++ s.queryTime ++ "  Lock_time: " ++ s.lockTime ++
    "  Rows_sent: " ++ formatInt s.rowsSent ++ "  Rows_examined: " ++
    formatInt s.rowsExamined ++ "\n# Rows_affected: " ++ formatInt s.rowsAffected ++
    "\nSET timestamp=" ++ formatInt s.startTime ++ ";\n" ++ sqlOneLine s.sqlText ++ ";\n"

theorem newline_not_mem_sqlOneLine (sql : String) : '\n' ∉ (sqlOneLine sql).toList := by
  have h := Strings.contains_replace (Strings.replace sql "\r\n" " ") "\n" " " (by decide)
    (by decide) (by decide) (fun k hk hk0 => absurd hk (show ¬ k < 1 by omega))
    (fun k hk hk0 => absurd hk (show ¬ k < 1 by omega))
  intro hmem
  obtain ⟨s, t, hst⟩ := List.append_of_mem hmem
  have hinfix : ['\n'] <:+: (sqlOneLine sql).toList := ⟨s, t, by rw [hst]; simp⟩
  simp [Strings.contains, sqlOneLine] at h hinfix
  exact h hinfix

theorem newline_not_mem_formatInt (i : BitVec 64) : '\n' ∉ (formatInt i).toList := fun h =>
  by rcases mem_formatInt i _ h with h | h <;> revert h <;> decide

-- Whatever the query text, an entry is six lines: the SQL's own line breaks are flattened
-- into its one line, as long as the text columns printed raw have none.
theorem slowLogEntry_lines (s : LogSlow) (huser : '\n' ∉ s.userHost.toList)
    (hdb : '\n' ∉ s.db.toList) (hquery : '\n' ∉ s.queryTime.toList)
    (hlock : '\n' ∉ s.lockTime.toList) :
    Strings.split (slowLogEntry s) '\n' =
      ["# User@Host: " ++ s.userHost,
       "# Thread_id: " ++ formatInt s.threadId ++ "  Schema: " ++ s.db ++ "  QC_hit: No",
       "# Query_time: " ++ s.queryTime ++ "  Lock_time: " ++ s.lockTime ++ "  Rows_sent: " ++
         formatInt s.rowsSent ++ "  Rows_examined: " ++ formatInt s.rowsExamined,
       "# Rows_affected: " ++ formatInt s.rowsAffected,
       "SET timestamp=" ++ formatInt s.startTime ++ ";",
       sqlOneLine s.sqlText ++ ";",
       ""] := by
  have hint := newline_not_mem_formatInt
  have hsql := newline_not_mem_sqlOneLine s.sqlText
  simp only [String.toList] at huser hdb hquery hlock hint hsql
  rw [Strings.split_eq_iff]
  refine ⟨by simp, ?_, ?_⟩
  · -- no line holds a line break: the literals by evaluation, the columns by hypothesis
    simp only [List.mem_cons, List.mem_singleton, forall_eq_or_imp, forall_eq, String.toList,
      String.data_append, List.mem_append, not_or, List.not_mem_nil, huser, hdb, hquery, hlock,
      hint, hsql, not_false_eq_true, and_true, true_and, false_implies, implies_true]
    simp
  · -- joined back with line breaks, the lines give the entry
    simp only [slowLogEntry, List.intercalate, String.toList, String.data_append, List.map_cons,
      List.map_nil, List.intersperse_cons_cons, List.intersperse_single, List.flatten_cons,
      List.flatten_nil, List.append_nil, List.append_assoc, List.singleton_append]
    rfl

theorem slowLogEntry_lines_multiline :
    let s : LogSlow :=
      { userHost := "app[app] @ web1 []", db := "shop", queryTime := "12", lockTime := "0"
        sqlText := "SELECT *\r\nFROM orders\nWHERE id = 7" }
    ('\n' ∉ s.userHost.toList ∧ '\n' ∉ s.db.toList ∧ '\n' ∉ s.queryTime.toList ∧
      '\n' ∉ s.lockTime.toList) ∧
    Strings.split (slowLogEntry s) '\n' =
      ["# User@Host: " ++ s.userHost,
       "# Thread_id: " ++ formatInt s.threadId ++ "  Schema: " ++ s.db ++ "  QC_hit: No",
       "# Query_time: " ++ s.queryTime ++ "  Lock_time: " ++ s.lockTime ++ "  Rows_sent: " ++
         formatInt s.rowsSent ++ "  Rows_examined: " ++ formatInt s.rowsExamined,
       "# Rows_affected: " ++ formatInt s.rowsAffected,
       "SET timestamp=" ++ formatInt s.startTime ++ ";",
       sqlOneLine s.sqlText ++ ";",
       ""] :=
  ⟨⟨by decide, by decide, by decide, by decide⟩,
    slowLogEntry_lines _ (by decide) (by decide) (by decide) (by decide)⟩

example : sqlOneLine "SELECT *\r\nFROM orders\nWHERE id = 7" = "SELECT * FROM orders WHERE id = 7" := by
  decide

-- The bytes `fmt.Fprintf` writes for one row. No proof looks inside them.
@[irreducible] def entryBytes (s : LogSlow) : List UInt8 := (slowLogEntry s).toUTF8.data.toList

-- What reaches the file of one row's entry: all of it, or only the first `n` bytes when the
-- write fails there (a full disk). `Fprintf`'s error is discarded.
def writtenBytes (s : LogSlow) : Option Nat → List UInt8
  | none => entryBytes s
  | some n => (entryBytes s).take n

-- `f.Truncate(0)` once `log_slow_query.log` has grown past 100000000 bytes. Its error is
-- discarded: a truncation that fails leaves the file as it is.
def rotateSlowLog (truncates : Bool) (file : List UInt8) : List UInt8 :=
  if file.length > 100000000 && truncates then [] else file

-- What the database and the monitor share: the table `mysql.slow_log`, the bytes of the file
-- `<datadir>/log/log_slow_query.log`, and whether a call of `GetSlowLogTable` has made its
-- SELECT and not yet its TRUNCATE. A call that returns before its SELECT (in failover, logs
-- not in system tables, node down, file not opened) changes none of them.
structure SlowLogSystem where
  table : List LogSlow
  file : List UInt8
  pending : Bool
  deriving Repr

-- How the statements of a call end, none of which the code checks. The SELECT delivers the
-- first `read` rows (all of them when it succeeds; its error is only logged); the `n`-th
-- `Fprintf` stops short where `shortWrites` says so; `f.Truncate(0)` succeeds when `rotates`.
-- Those are read at the SELECT; `truncates`, whether the final `TRUNCATE mysql.slow_log` of
-- `ExecQueryNoBinLog` succeeds, is read at the TRUNCATE.
structure SlowLogOutcome where
  read : Nat
  shortWrites : List (Option Nat) := []
  rotates : Bool := true
  truncates : Bool := true
  deriving Repr

-- The two parties: the database logs slow queries while the monitor's calls run one after
-- the other, each through its next statement.
inductive SlowLogEvent where
  | logged (row : LogSlow)
  | monitor (outcome : SlowLogOutcome)
  deriving Repr

-- The loop over the rows the SELECT delivered: each row meets the next write outcome, a whole
-- write once they run out.
def printRows : List LogSlow → List (Option Nat) → List (LogSlow × List UInt8)
  | [], _ => []
  | s :: rows, [] => (s, writtenBytes s none) :: printRows rows []
  | s :: rows, cut :: cuts => (s, writtenBytes s cut) :: printRows rows cuts

-- One event, with the rows it prints and the bytes of each that reach the file. The SELECT's
-- error is only logged, so the TRUNCATE follows it whatever the SELECT delivered.
def slowLogTableStep (sys : SlowLogSystem) :
    SlowLogEvent → SlowLogSystem × List (LogSlow × List UInt8)
  | .logged row => ({ sys with table := sys.table ++ [row] }, [])
  | .monitor o =>
      if sys.pending then
        ({ sys with table := if o.truncates then [] else sys.table, pending := false }, [])
      else
        let writes := printRows (sys.table.take o.read) o.shortWrites
        ({ sys with
            file := rotateSlowLog o.rotates sys.file ++ (writes.map (·.2)).flatten
            pending := true }, writes)

def slowLogTableRun (sys : SlowLogSystem) :
    List SlowLogEvent → SlowLogSystem × List (LogSlow × List UInt8)
  | [] => (sys, [])
  | e :: es =>
      let step := slowLogTableStep sys e
      let rest := slowLogTableRun step.1 es
      (rest.1, step.2 ++ rest.2)

-- A condition on every step of a run, in the state the step starts from.
def EveryStep (P : SlowLogSystem → SlowLogEvent → Prop) :
    SlowLogSystem → List SlowLogEvent → Prop
  | _, [] => True
  | sys, e :: es => P sys e ∧ EveryStep P (slowLogTableStep sys e).1 es

-- The rows the database logs along a run.
def loggedRows (events : List SlowLogEvent) : List LogSlow :=
  events.filterMap fun
    | .logged row => some row
    | .monitor _ => none

-- The rows a later call can still write, when TRUNCATEs succeed: none while a call is between
-- its SELECT and its TRUNCATE, since the TRUNCATE deletes the whole table.
def unwritten (sys : SlowLogSystem) : List LogSlow :=
  if sys.pending then [] else sys.table

-- Every TRUNCATE succeeds.
def TruncateHolds (sys : SlowLogSystem) : SlowLogEvent → Prop
  | .logged _ => True
  | .monitor o => sys.pending = true → o.truncates = true

-- A step that loses nothing: no query is logged between a SELECT and its TRUNCATE, and every
-- SELECT delivers the whole table.
def QuietStep (sys : SlowLogSystem) : SlowLogEvent → Prop
  | .logged _ => sys.pending = false
  | .monitor o => sys.pending = false → sys.table.length ≤ o.read

theorem loggedRows_cons (e : SlowLogEvent) (es : List SlowLogEvent) :
    loggedRows (e :: es) = loggedRows [e] ++ loggedRows es := by
  cases e <;> rfl

@[simp] theorem printRows_rows (rows : List LogSlow) :
    ∀ cuts, (printRows rows cuts).map (·.1) = rows := by
  induction rows with
  | nil => intro _; rfl
  | cons s rows ih => rintro (_ | ⟨cut, cuts⟩) <;> simp [printRows, ih]

-- A printed row's bytes are the start of its entry, all of it unless its write failed.
theorem printRows_prefix (rows : List LogSlow) :
    ∀ cuts, ∀ w ∈ printRows rows cuts, w.2 <+: entryBytes w.1 := by
  induction rows with
  | nil => intro _ _ h; exact nomatch h
  | cons s rows ih =>
      rintro (_ | ⟨cut, cuts⟩) w hw <;> rcases List.mem_cons.mp hw with rfl | hw
      · exact List.prefix_refl _
      · exact ih [] w hw
      · cases cut <;> simp [writtenBytes, List.take_prefix]
      · exact ih cuts w hw

theorem printRows_whole (rows : List LogSlow) :
    ∀ cuts : List (Option Nat), (∀ c ∈ cuts, c = none) →
      (printRows rows cuts).map (·.2) = rows.map entryBytes := by
  induction rows with
  | nil => intro _ _; rfl
  | cons s rows ih =>
      rintro (_ | ⟨cut, cuts⟩) hcuts
      · simp [printRows, writtenBytes, ih [] (by simp)]
      · obtain rfl := hcuts cut (List.mem_cons_self _ _)
        simp [printRows, writtenBytes, ih cuts fun c hc => hcuts c (List.mem_cons_of_mem _ hc)]

-- Each step prints rows it takes from the unwritten ones or from the one it logs, and, when
-- its TRUNCATE succeeds, a quiet step loses none of them.
theorem slowLogTableStep_sublist (sys : SlowLogSystem) (e : SlowLogEvent)
    (htrunc : TruncateHolds sys e) :
    (slowLogTableStep sys e).2.map (·.1) ++ unwritten (slowLogTableStep sys e).1 <+
      unwritten sys ++ loggedRows [e] := by
  cases e with
  | logged row => cases h : sys.pending <;> simp [slowLogTableStep, unwritten, loggedRows, h]
  | monitor o =>
      cases h : sys.pending
      · simp [slowLogTableStep, unwritten, loggedRows, h, List.take_sublist]
      · simp [slowLogTableStep, unwritten, loggedRows, h, htrunc h]

theorem slowLogTableStep_quiet (sys : SlowLogSystem) (e : SlowLogEvent)
    (htrunc : TruncateHolds sys e) (hq : QuietStep sys e) :
    (slowLogTableStep sys e).2.map (·.1) ++ unwritten (slowLogTableStep sys e).1 =
      unwritten sys ++ loggedRows [e] := by
  cases e with
  | logged row => simp_all [QuietStep, slowLogTableStep, unwritten, loggedRows]
  | monitor o =>
      cases h : sys.pending
      · simp_all [QuietStep, slowLogTableStep, unwritten, loggedRows, List.take_of_length_le]
      · simp [slowLogTableStep, unwritten, loggedRows, h, htrunc h]

-- Over every interleaving in which each TRUNCATE succeeds, the monitor prints each logged row
-- at most once, in the order it was logged, and loses none when the run is quiet: the rows
-- printed and those still to be printed are then exactly the rows logged. A failed TRUNCATE
-- leaves the printed rows in the table, and the next call prints them again.
theorem slowLogTableRun_accounting (sys : SlowLogSystem) (events : List SlowLogEvent)
    (htrunc : EveryStep TruncateHolds sys events) :
    let run := slowLogTableRun sys events
    run.2.map (·.1) ++ unwritten run.1 <+ unwritten sys ++ loggedRows events ∧
      (EveryStep QuietStep sys events →
        run.2.map (·.1) ++ unwritten run.1 = unwritten sys ++ loggedRows events) := by
  induction events generalizing sys with
  | nil => simp [slowLogTableRun, loggedRows]
  | cons e es ih =>
      obtain ⟨hsub, hquiet⟩ := ih (slowLogTableStep sys e).1 htrunc.2
      have hstep := slowLogTableStep_sublist sys e htrunc.1
      have hstepq := slowLogTableStep_quiet sys e htrunc.1
      simp only [slowLogTableRun, loggedRows_cons e es, EveryStep, List.map_append] at hsub hquiet ⊢
      generalize slowLogTableStep sys e = step at *
      generalize slowLogTableRun step.1 es = rest at *
      refine ⟨?_, fun hq => ?_⟩
      · calc step.2.map (·.1) ++ rest.2.map (·.1) ++ unwritten rest.1
            = step.2.map (·.1) ++ (rest.2.map (·.1) ++ unwritten rest.1) := List.append_assoc _ _ _
          _ <+ step.2.map (·.1) ++ (unwritten step.1 ++ loggedRows es) := hsub.append_left _
          _ = step.2.map (·.1) ++ unwritten step.1 ++ loggedRows es := (List.append_assoc _ _ _).symm
          _ <+ unwritten sys ++ loggedRows [e] ++ loggedRows es := hstep.append_right _
          _ = unwritten sys ++ (loggedRows [e] ++ loggedRows es) := List.append_assoc _ _ _
      · rw [List.append_assoc, hquiet hq.2, ← List.append_assoc, hstepq hq.1, List.append_assoc]

theorem slowLogTableRun_accounting_late_query :
    let sys : SlowLogSystem := { table := [{ sqlText := "SELECT 1" }], file := [], pending := false }
    let events : List SlowLogEvent :=
      [.monitor { read := 1 }, .logged { sqlText := "SELECT 2" }, .monitor { read := 0 }]
    EveryStep TruncateHolds sys events ∧
    let run := slowLogTableRun sys events
    run.2.map (·.1) ++ unwritten run.1 <+ unwritten sys ++ loggedRows events ∧
      (EveryStep QuietStep sys events →
        run.2.map (·.1) ++ unwritten run.1 = unwritten sys ++ loggedRows events) := by
  intro sys events
  have htrunc : EveryStep TruncateHolds sys events :=
    ⟨fun h => absurd h (by decide), trivial, fun _ => rfl, trivial⟩
  exact ⟨htrunc, slowLogTableRun_accounting _ _ htrunc⟩

-- Two calls over one row, the first one's TRUNCATE failing: the row is printed twice.
example :
    let sys : SlowLogSystem := { table := [{ sqlText := "SELECT 1" }], file := [], pending := false }
    let events : List SlowLogEvent :=
      [.monitor { read := 1 }, .monitor { read := 0, truncates := false },
        .monitor { read := 1 }, .monitor { read := 0 }]
    (slowLogTableRun sys events).2.map (·.1) = [{ sqlText := "SELECT 1" }, { sqlText := "SELECT 1" }] :=
  rfl

-- No SELECT of the run finds the file past the rotation size with a truncation that succeeds.
def RotationFreeStep (sys : SlowLogSystem) : SlowLogEvent → Prop
  | .logged _ => True
  | .monitor o => sys.pending = false → sys.file.length ≤ 100000000 ∨ o.rotates = false

-- No write of the run stops short.
def WholeWrites (sys : SlowLogSystem) : SlowLogEvent → Prop
  | .logged _ => True
  | .monitor o => sys.pending = false → ∀ c ∈ o.shortWrites, c = none

theorem file_slowLogTableStep (sys : SlowLogSystem) (e : SlowLogEvent)
    (hrot : RotationFreeStep sys e) :
    (slowLogTableStep sys e).1.file = sys.file ++ ((slowLogTableStep sys e).2.map (·.2)).flatten := by
  cases e with
  | logged row => simp [slowLogTableStep]
  | monitor o =>
      cases h : sys.pending
      · have hkeep : rotateSlowLog o.rotates sys.file = sys.file := by
          rcases hrot h with hsize | hno
          · simp [rotateSlowLog, Nat.not_lt.mpr hsize]
          · simp [rotateSlowLog, hno]
        simp [slowLogTableStep, h, hkeep]
      · simp [slowLogTableStep, h]

theorem whole_slowLogTableStep (sys : SlowLogSystem) (e : SlowLogEvent)
    (hwhole : WholeWrites sys e) :
    (slowLogTableStep sys e).2.map (·.2) = (slowLogTableStep sys e).2.map (entryBytes ·.1) := by
  cases e with
  | logged row => rfl
  | monitor o =>
      cases h : sys.pending
      · simp only [slowLogTableStep, h, Bool.false_eq_true, if_false]
        rw [printRows_whole _ _ (hwhole h)]
        conv_lhs => rw [← printRows_rows (sys.table.take o.read) o.shortWrites]
        rw [List.map_map]
        rfl
      · simp [slowLogTableStep, h]

-- Outside rotations the file holds, after what it held, the bytes of the rows printed over
-- the run, in the order printed: the rows the accounting counts are those the file receives,
-- each as a whole entry when no write of the run stops short.
theorem slowLogTableRun_file (sys : SlowLogSystem) (events : List SlowLogEvent)
    (hrot : EveryStep RotationFreeStep sys events) :
    let run := slowLogTableRun sys events
    run.1.file = sys.file ++ (run.2.map (·.2)).flatten ∧
      (EveryStep WholeWrites sys events →
        run.1.file = sys.file ++ (run.2.map (entryBytes ·.1)).flatten) := by
  induction events generalizing sys with
  | nil => simp [slowLogTableRun]
  | cons e es ih =>
      obtain ⟨hfile, hwhole⟩ := ih _ hrot.2
      simp only [slowLogTableRun, List.map_append, List.flatten_append, EveryStep] at hfile hwhole ⊢
      refine ⟨by rw [hfile, file_slowLogTableStep sys e hrot.1, List.append_assoc], fun hw => ?_⟩
      rw [hwhole hw.2, file_slowLogTableStep sys e hrot.1, whole_slowLogTableStep sys e hw.1,
        List.append_assoc]

theorem slowLogTableRun_file_late_query :
    let sys : SlowLogSystem := { table := [{ sqlText := "SELECT 1" }], file := [], pending := false }
    let events : List SlowLogEvent :=
      [.monitor { read := 1 }, .logged { sqlText := "SELECT 2" }, .monitor { read := 0 }]
    EveryStep RotationFreeStep sys events ∧
    let run := slowLogTableRun sys events
    run.1.file = sys.file ++ (run.2.map (·.2)).flatten ∧
      (EveryStep WholeWrites sys events →
        run.1.file = sys.file ++ (run.2.map (entryBytes ·.1)).flatten) := by
  intro sys events
  -- the one SELECT finds an empty file; the second monitor event is the TRUNCATE
  have hrot : EveryStep RotationFreeStep sys events :=
    ⟨fun _ => .inl (by decide), trivial, fun h => absurd h (by decide), trivial⟩
  exact ⟨hrot, slowLogTableRun_file _ _ hrot⟩

-- A step keeps the file a sequence of what was printed: a rotation drops all before the
-- SELECT, and the rows the step prints are appended after the others.
theorem file_slowLogTableStep_entries (sys : SlowLogSystem) (e : SlowLogEvent)
    (kept : List (LogSlow × List UInt8)) (hfile : sys.file = (kept.map (·.2)).flatten) :
    ∃ kept', kept' <:+ kept ++ (slowLogTableStep sys e).2 ∧
      (slowLogTableStep sys e).1.file = (kept'.map (·.2)).flatten := by
  cases e with
  | logged row => exact ⟨kept, by simp [slowLogTableStep], hfile⟩
  | monitor o =>
      cases h : sys.pending
      · let writes := printRows (sys.table.take o.read) o.shortWrites
        by_cases hrot : sys.file.length > 100000000 ∧ o.rotates = true
        · exact ⟨writes, by simp [slowLogTableStep, h, writes, List.suffix_append],
            by simp [slowLogTableStep, h, rotateSlowLog, hrot, writes]⟩
        · have hkeep : rotateSlowLog o.rotates sys.file = sys.file := by
            simp only [rotateSlowLog, Bool.and_eq_true, decide_eq_true_eq]
            exact if_neg hrot
          exact ⟨kept ++ writes, by simp [slowLogTableStep, h, writes],
            by simp [slowLogTableStep, h, hkeep, ← hfile, writes]⟩
      · exact ⟨kept, by simp [slowLogTableStep, h], by simp [slowLogTableStep, h, hfile]⟩

-- Over every interleaving, rotations and failed writes included, the file holds what the
-- last rows printed left of their entries, in the order printed, after the rows it held as
-- long as no rotation happened: each piece is its row's entry, cut short only where that
-- row's write failed. No piece is reordered or mixed with another.
theorem slowLogTableRun_file_entries (sys : SlowLogSystem) (events : List SlowLogEvent)
    (kept : List (LogSlow × List UInt8)) (hfile : sys.file = (kept.map (·.2)).flatten) :
    let run := slowLogTableRun sys events
    (∃ kept', kept' <:+ kept ++ run.2 ∧ run.1.file = (kept'.map (·.2)).flatten) ∧
      ∀ w ∈ run.2, w.2 <+: entryBytes w.1 := by
  induction events generalizing sys kept with
  | nil => exact ⟨⟨kept, by simp [slowLogTableRun], hfile⟩, by simp [slowLogTableRun]⟩
  | cons e es ih =>
      obtain ⟨kept₁, hsuffix₁, hfile₁⟩ := file_slowLogTableStep_entries sys e kept hfile
      obtain ⟨⟨kept', hsuffix, hfile'⟩, hrest⟩ := ih _ kept₁ hfile₁
      obtain ⟨pre, hpre⟩ := hsuffix₁
      -- the pieces one step prints are starts of their entries
      have hstep : ∀ w ∈ (slowLogTableStep sys e).2, w.2 <+: entryBytes w.1 := by
        cases e with
        | logged row => simp [slowLogTableStep]
        | monitor o =>
            cases h : sys.pending
            · simpa [slowLogTableStep, h] using printRows_prefix _ o.shortWrites
            · simp [slowLogTableStep, h]
      refine ⟨⟨kept', hsuffix.trans ⟨pre, ?_⟩, hfile'⟩, fun w hw => ?_⟩
      · rw [← List.append_assoc, hpre, List.append_assoc]
        rfl
      · rcases List.mem_append.mp hw with hw | hw
        exacts [hstep w hw, hrest w hw]

theorem slowLogTableRun_file_entries_short_write :
    let sys : SlowLogSystem := { table := [{ sqlText := "SELECT 1" }], file := [], pending := false }
    let events : List SlowLogEvent :=
      [.monitor { read := 1, shortWrites := [some 10] }, .logged { sqlText := "SELECT 2" },
        .monitor { read := 0 }]
    sys.file = (([] : List (LogSlow × List UInt8)).map (·.2)).flatten ∧
    let run := slowLogTableRun sys events
    (∃ kept', kept' <:+ [] ++ run.2 ∧ run.1.file = (kept'.map (·.2)).flatten) ∧
      ∀ w ∈ run.2, w.2 <+: entryBytes w.1 :=
  ⟨rfl, slowLogTableRun_file_entries _ _ [] rfl⟩

theorem slowLogTableRun_append (sys : SlowLogSystem) (es es' : List SlowLogEvent) :
    slowLogTableRun sys (es ++ es') =
      ((slowLogTableRun (slowLogTableRun sys es).1 es').1,
        (slowLogTableRun sys es).2 ++ (slowLogTableRun (slowLogTableRun sys es).1 es').2) := by
  induction es generalizing sys with
  | nil => rfl
  | cons e es ih => simp [slowLogTableRun, ih]

-- While a call waits for its TRUNCATE, logged queries only pile up in the table.
theorem slowLogTableRun_logged_pending (table : List LogSlow) (file : List UInt8)
    (late : List LogSlow) :
    slowLogTableRun { table, file, pending := true } (late.map .logged) =
      ({ table := table ++ late, file, pending := true }, []) := by
  induction late generalizing table with
  | nil => simp [slowLogTableRun]
  | cons row late ih => simp [slowLogTableRun, slowLogTableStep, ih]

-- One call, its SELECT and its TRUNCATE with queries logged in between. It prints the rows its
-- SELECT delivered and ends with no statement pending. When its TRUNCATE succeeds the table is
-- empty, and the rows the SELECT did not deliver and the queries logged meanwhile are deleted
-- unprinted. When it fails nothing is deleted: the table still holds the rows printed, which
-- the next call prints again, and the queries logged meanwhile.
theorem getSlowLogTable_loses_rows (sys : SlowLogSystem) (hidle : sys.pending = false)
    (select truncate : SlowLogOutcome) (late : List LogSlow) :
    let events := .monitor select :: late.map .logged ++ [.monitor truncate]
    let run := slowLogTableRun sys events
    run.2.map (·.1) = sys.table.take select.read ∧ run.1.pending = false ∧
      (truncate.truncates = true → run.1.table = [] ∧
        unwritten sys ++ loggedRows events =
          run.2.map (·.1) ++ unwritten run.1 ++ (sys.table.drop select.read ++ late)) ∧
      (truncate.truncates = false → run.1.table = sys.table ++ late) := by
  intro events run
  have hrun : run =
      ({ table := if truncate.truncates then [] else sys.table ++ late
         file := rotateSlowLog select.rotates sys.file ++
           ((printRows (sys.table.take select.read) select.shortWrites).map (·.2)).flatten
         pending := false }, printRows (sys.table.take select.read) select.shortWrites) := by
    simp only [run, events, List.cons_append, slowLogTableRun, slowLogTableStep, hidle]
    simp [slowLogTableRun_append, slowLogTableRun_logged_pending, slowLogTableRun,
      slowLogTableStep]
  have hlogged : loggedRows events = late := by
    simp [events, loggedRows, List.filterMap_append, List.filterMap_map, Function.comp_def]
  simp only [hrun, hlogged, unwritten, hidle, printRows_rows, true_and]
  refine ⟨fun ht => ?_, fun ht => by simp [ht]⟩
  simp [ht, ← List.append_assoc, List.take_append_drop]

theorem getSlowLogTable_loses_rows_late_query :
    let sys : SlowLogSystem := { table := [{ sqlText := "SELECT 1" }], file := [], pending := false }
    let select : SlowLogOutcome := { read := 1 }
    let truncate : SlowLogOutcome := { read := 0 }
    let late : List LogSlow := [{ sqlText := "SELECT 2" }]
    let events := .monitor select :: late.map .logged ++ [.monitor truncate]
    let run := slowLogTableRun sys events
    sys.pending = false ∧ run.2.map (·.1) = sys.table.take select.read ∧ run.1.pending = false ∧
      (truncate.truncates = true → run.1.table = [] ∧
        unwritten sys ++ loggedRows events =
          run.2.map (·.1) ++ unwritten run.1 ++ (sys.table.drop select.read ++ late)) ∧
      (truncate.truncates = false → run.1.table = sys.table ++ late) :=
  ⟨rfl, getSlowLogTable_loses_rows _ rfl _ _ _⟩

end ReplicationManager.ServerMonitor
