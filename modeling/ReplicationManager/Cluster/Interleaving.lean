import ReplicationManager.Cluster.Has

namespace ReplicationManager.Cluster

open Go

-- The aggregate loops take no lock. `range` copies the slice once, and each test of the loop
-- body reads the record its pointer points to at that moment, while the monitor of each node
-- goes on rewriting that node's record. The model interleaves the loop's turns with
-- whole-record writes. The nil guards read the slice before the loop and take no part in it.

-- What runs beside a loop: its next turn, or the monitor of node `i` rewriting that node.
inductive FleetEvent (α : Type)
  | turn
  | write (i : Nat) (f : α → α)

def FleetEvent.isTurn {α : Type} : FleetEvent α → Bool
  | .turn => true
  | .write _ _ => false

-- A loop under way: the records as the monitors have them now, the node it is at, the test of
-- the condition it evaluates next, its answer once it has returned (true when a test held),
-- and, for the proofs, each evaluation with the fleet as it stood then.
structure ScanState (α : Type) where
  fleet : List α
  pos : Nat
  test : Nat
  result : Option Bool
  reads : List (Nat × Nat × List α)

def scanStart {α : Type} (fleet : List α) : ScanState α := ⟨fleet, 0, 0, none, []⟩

section Scan

variable {α : Type} (tests : List (α → Bool))

-- `for _, s := range xs { if t₀(s) || t₁(s) || ... { return } }`. A turn evaluates one test
-- of the condition on the node's record as it is then; after the last test the loop moves on.
def scanStep (st : ScanState α) : FleetEvent α → ScanState α
  | .write i f => { st with fleet := st.fleet.modify f i }
  | .turn =>
      match st.result, st.fleet[st.pos]?, tests[st.test]? with
      | some _, _, _ => st
      | none, none, _ => { st with result := some false }
      | none, some _, none => { st with pos := st.pos + 1, test := 0 }
      | none, some s, some t =>
          if t s then
            { st with result := some true, reads := st.reads ++ [(st.pos, st.test, st.fleet)] }
          else { st with test := st.test + 1, reads := st.reads ++ [(st.pos, st.test, st.fleet)] }

def scanRun (st : ScanState α) (events : List (FleetEvent α)) : ScanState α :=
  events.foldl (scanStep tests) st

-- Every state a run passes through, the first included.
def scanTrace : ScanState α → List (FleetEvent α) → List (ScanState α)
  | st, [] => [st]
  | st, e :: es => st :: scanTrace (scanStep tests st e) es

-- The fleet at every moment of a run.
def instants (st : ScanState α) (events : List (FleetEvent α)) : List (List α) :=
  (scanTrace tests st events).map (·.fleet)

-- What the loop computes when nothing runs beside it.
def scanAny (xs : List α) : Bool :=
  xs.any fun s => tests.any (· s)

-- Test `j` was evaluated on node `i`, on the fleet as it stood at some evaluation, with the
-- given outcome.
def TestRead (reads : List (Nat × Nat × List α)) (i j : Nat) (b : Bool) : Prop :=
  ∃ fl s t, (i, j, fl) ∈ reads ∧ fl[i]? = some s ∧ tests[j]? = some t ∧ t s = b

-- What a loop under way has established about the `n` nodes of its slice.
structure ScanInv (n : Nat) (st : ScanState α) : Prop where
  length_fleet : st.fleet.length = n
  pos_le : st.pos ≤ n
  test_le : st.test ≤ tests.length
  passed : ∀ i < st.pos, ∀ j < tests.length, TestRead tests st.reads i j false
  onNode : ∀ j < st.test, TestRead tests st.reads st.pos j false
  stopped : st.result = some true → ∃ i j, TestRead tests st.reads i j true
  through : st.result = some false → st.pos = n

-- What a turn can do: nothing once the loop has answered; answer false past the last node;
-- move to the next node after the last test; or evaluate the next test on the node as it is
-- now, record the evaluation, and answer true when the test holds or go on to the next one.
theorem scanStep_turn_cases (st : ScanState α) :
    (st.result.isSome = true ∧ scanStep tests st .turn = st) ∨
    (st.result = none ∧ st.fleet[st.pos]? = none ∧
      scanStep tests st .turn = { st with result := some false }) ∨
    (st.result = none ∧ st.pos < st.fleet.length ∧ tests[st.test]? = none ∧
      scanStep tests st .turn = { st with pos := st.pos + 1, test := 0 }) ∨
    ∃ s t, st.result = none ∧ st.fleet[st.pos]? = some s ∧ tests[st.test]? = some t ∧
      scanStep tests st .turn =
        if t s then
          { st with result := some true, reads := st.reads ++ [(st.pos, st.test, st.fleet)] }
        else
          { st with test := st.test + 1, reads := st.reads ++ [(st.pos, st.test, st.fleet)] } := by
  rcases hr : st.result with _ | r
  · rcases hf : st.fleet[st.pos]? with _ | s
    · exact .inr (.inl ⟨rfl, rfl, by simp [scanStep, hr, hf]⟩)
    · rcases ht : tests[st.test]? with _ | t
      · exact .inr (.inr (.inl ⟨rfl, (List.getElem?_eq_some_iff.mp hf).1, rfl,
          by simp [scanStep, hr, hf, ht]⟩))
      · exact .inr (.inr (.inr ⟨s, t, rfl, rfl, rfl, by simp [scanStep, hr, hf, ht]⟩))
  · exact .inl ⟨rfl, by simp [scanStep, hr]⟩

-- The loop never writes a record.
theorem scanStep_turn_fleet (st : ScanState α) : (scanStep tests st .turn).fleet = st.fleet := by
  rcases scanStep_turn_cases tests st with ⟨-, heq⟩ | ⟨-, -, heq⟩ | ⟨-, -, -, heq⟩ |
      ⟨s, t, -, -, -, heq⟩ <;> rw [heq]
  split <;> rfl

variable {tests}

theorem TestRead.append {reads : List (Nat × Nat × List α)} {i j : Nat} {b : Bool}
    (h : TestRead tests reads i j b) (r : List (Nat × Nat × List α)) :
    TestRead tests (reads ++ r) i j b := by
  obtain ⟨fl, s, t, hmem, hs, ht, hb⟩ := h
  exact ⟨fl, s, t, List.mem_append_left _ hmem, hs, ht, hb⟩

theorem scanStart_inv (fleet : List α) : ScanInv tests fleet.length (scanStart fleet) where
  length_fleet := rfl
  pos_le := Nat.zero_le _
  test_le := Nat.zero_le _
  passed := fun _ h => absurd h (Nat.not_lt_zero _)
  onNode := fun _ h => absurd h (Nat.not_lt_zero _)
  stopped := fun h => nomatch h
  through := fun h => nomatch h

-- One event keeps what the loop has established.
theorem scanStep_inv {n : Nat} {st : ScanState α} (h : ScanInv tests n st) :
    ∀ e, ScanInv tests n (scanStep tests st e)
  | .write i f =>
      { h with length_fleet := (List.length_modify f i st.fleet).trans h.length_fleet }
  | .turn => by
      have := h.length_fleet
      have := h.pos_le
      rcases scanStep_turn_cases tests st with ⟨-, heq⟩ | ⟨-, hf, heq⟩ | ⟨hr, hpos, ht, heq⟩ |
          ⟨s, t, hr, hf, ht, heq⟩ <;> rw [heq]
      · exact h
      · -- past the last node: the loop runs through
        have := List.getElem?_eq_none_iff.mp hf
        exact ⟨h.length_fleet, h.pos_le, h.test_le, h.passed, h.onNode, fun h => (nomatch h),
          fun _ => show st.pos = n by omega⟩
      · -- after the last test the loop moves to the next node
        have htest : st.test = tests.length :=
          Nat.le_antisymm h.test_le (List.getElem?_eq_none_iff.mp ht)
        refine ⟨h.length_fleet, show st.pos + 1 ≤ n by omega, Nat.zero_le _, fun i hi j hj => ?_,
          fun _ hj => absurd hj (Nat.not_lt_zero _), fun h => (nomatch hr.symm.trans h),
          fun h => (nomatch hr.symm.trans h)⟩
        rcases Nat.lt_succ_iff_lt_or_eq.mp hi with hi | rfl
        · exact h.passed i hi j hj
        · exact h.onNode j (htest ▸ hj)
      · -- the test is evaluated on the node as it is now
        have hnew : ∀ b, t s = b →
            TestRead tests (st.reads ++ [(st.pos, st.test, st.fleet)]) st.pos st.test b :=
          fun b hb => ⟨st.fleet, s, t, List.mem_append_right _ (List.mem_singleton_self _),
            hf, ht, hb⟩
        have hpassed := fun i hi j hj => (h.passed i hi j hj).append [(st.pos, st.test, st.fleet)]
        cases hts : t s
        · -- it fails: the loop goes on to the next test
          refine ⟨h.length_fleet, h.pos_le, (List.getElem?_eq_some_iff.mp ht).1, hpassed,
            fun j hj => ?_, fun h => (nomatch hr.symm.trans h), fun h => (nomatch hr.symm.trans h)⟩
          rcases Nat.lt_succ_iff_lt_or_eq.mp hj with hj | rfl
          · exact (h.onNode j hj).append _
          · exact hnew false hts
        · -- it holds: the loop returns
          exact ⟨h.length_fleet, h.pos_le, h.test_le, hpassed, fun j hj => (h.onNode j hj).append _,
            fun _ => ⟨_, _, hnew true hts⟩, fun h => nomatch h⟩

theorem scanRun_inv {n : Nat} (events : List (FleetEvent α)) :
    ∀ {st : ScanState α}, ScanInv tests n st → ScanInv tests n (scanRun tests st events) := by
  induction events with
  | nil => exact id
  | cons e es ih => exact fun h => ih (scanStep_inv h e)

-- Every evaluation the loop records saw the fleet as it stood at some moment of the run.
theorem scanStep_reads (st : ScanState α) (e : FleetEvent α) :
    ∀ r ∈ (scanStep tests st e).reads, r ∈ st.reads ∨ r.2.2 = st.fleet := by
  cases e with
  | write i f => exact fun r hr => .inl hr
  | turn =>
      rcases scanStep_turn_cases tests st with ⟨-, heq⟩ | ⟨-, -, heq⟩ | ⟨-, -, -, heq⟩ |
          ⟨s, t, -, -, -, heq⟩ <;> rw [heq]
      all_goals first | exact fun r hr => .inl hr | split <;> simp +contextual [or_imp]

theorem scanRun_reads (events : List (FleetEvent α)) :
    ∀ (st : ScanState α), ∀ r ∈ (scanRun tests st events).reads,
      r ∈ st.reads ∨ r.2.2 ∈ instants tests st events := by
  induction events with
  | nil => exact fun st r hr => .inl hr
  | cons e es ih =>
      intro st r hr
      rcases ih (scanStep tests st e) r hr with hr | hr
      · rcases scanStep_reads st e r hr with hr | hr
        · exact .inl hr
        · exact .inr (List.mem_cons.mpr (.inl hr))
      · exact .inr (List.mem_cons_of_mem _ hr)

-- Once the loop has returned, nothing changes its answer.
theorem scanStep_result_isSome (st : ScanState α) (e : FleetEvent α)
    (h : st.result.isSome = true) : (scanStep tests st e).result.isSome = true := by
  cases e with
  | write i f => exact h
  | turn =>
      rcases scanStep_turn_cases tests st with ⟨-, heq⟩ | ⟨hr, -⟩ | ⟨hr, -⟩ | ⟨s, t, hr, -⟩
      · rw [heq]; exact h
      all_goals simp [hr] at h

-- How far a loop with no answer is from one: every turn takes one off.
def scanLeft (tests : List (α → Bool)) (n : Nat) (st : ScanState α) : Nat :=
  (n - st.pos) * (tests.length + 1) + (tests.length - st.test)

-- A turn with no answer yet gives the answer or moves the loop on by one evaluation.
theorem scanStep_turn_progress {n : Nat} {st : ScanState α} (h : ScanInv tests n st)
    (hr : st.result = none) :
    (scanStep tests st .turn).result.isSome = true ∨
      scanLeft tests n (scanStep tests st .turn) + 1 ≤ scanLeft tests n st := by
  have := h.length_fleet
  have := h.test_le
  rcases scanStep_turn_cases tests st with ⟨h', -⟩ | ⟨-, -, heq⟩ | ⟨-, hpos, ht, heq⟩ |
      ⟨s, t, -, -, ht, heq⟩
  · simp [hr] at h'
  · exact .inl (by rw [heq]; rfl)
  · -- the next node: one test fewer than a whole node's worth
    have := List.getElem?_eq_none_iff.mp ht
    have hsub : n - st.pos = n - (st.pos + 1) + 1 := by omega
    refine .inr ?_
    rw [heq, scanLeft, scanLeft, hsub, Nat.add_mul]
    simp only [Nat.sub_zero]
    omega
  · have := (List.getElem?_eq_some_iff.mp ht).1
    rw [heq]
    split
    · exact .inl rfl
    · exact .inr (by simp only [scanLeft]; omega)

theorem scanRun_progress {n : Nat} (events : List (FleetEvent α)) :
    ∀ {st : ScanState α}, ScanInv tests n st →
      (st.result.isSome = true ∨ scanLeft tests n st < events.countP FleetEvent.isTurn) →
      (scanRun tests st events).result.isSome = true := by
  induction events with
  | nil => intro st _ h; simpa using h
  | cons e es ih =>
      intro st hinv h
      refine ih (scanStep_inv hinv e) ?_
      rcases h with h | h
      · exact .inl (scanStep_result_isSome st e h)
      · cases e with
        | write i f =>
            exact .inr (by simpa [List.countP_cons, FleetEvent.isTurn, scanStep, scanLeft] using h)
        | turn =>
            cases hr : st.result with
            | some r => exact .inl (scanStep_result_isSome st _ (by simp [hr]))
            | none =>
                rcases scanStep_turn_progress hinv hr with h' | h'
                · exact .inl h'
                · simp only [List.countP_cons, FleetEvent.isTurn, if_true] at h
                  exact .inr (by omega)

-- With no write, every moment of the run sees the fleet the loop started on.
theorem instants_of_turns (events : List (FleetEvent α)) (hturns : ∀ e ∈ events, e.isTurn = true) :
    ∀ (st : ScanState α), ∀ fl ∈ instants tests st events, fl = st.fleet := by
  induction events with
  | nil => simp [instants, scanTrace]
  | cons e es ih =>
      intro st fl hfl
      cases e with
      | write i f => exact absurd (hturns _ (List.mem_cons_self _ _)) (by simp [FleetEvent.isTurn])
      | turn =>
          rcases List.mem_cons.mp hfl with rfl | hfl
          · rfl
          · exact scanStep_turn_fleet tests st ▸
              ih (fun e he => hturns e (List.mem_cons_of_mem _ he)) _ fl hfl

-- Run from the start, every evaluation the loop records saw a moment of the run.
theorem testRead_instants {fleet : List α} {events : List (FleetEvent α)} {i j : Nat} {b : Bool}
    (h : TestRead tests (scanRun tests (scanStart fleet) events).reads i j b) :
    ∃ fl ∈ instants tests (scanStart fleet) events, ∃ s t,
      fl[i]? = some s ∧ tests[j]? = some t ∧ t s = b := by
  obtain ⟨fl, s, t, hmem, hs, ht, hb⟩ := h
  rcases scanRun_reads events (scanStart fleet) _ hmem with h | h
  · exact absurd h (List.not_mem_nil _)
  · exact ⟨fl, h, s, t, hs, ht, hb⟩

-- An early return: the fleet as it stood at the evaluation that returned makes the plain
-- loop return too.
theorem scanRun_stopped (fleet : List α) (events : List (FleetEvent α))
    (hr : (scanRun tests (scanStart fleet) events).result = some true) :
    ∃ fl ∈ instants tests (scanStart fleet) events, scanAny tests fl = true := by
  obtain ⟨i, j, hread⟩ := (scanRun_inv events (scanStart_inv fleet)).stopped hr
  obtain ⟨fl, hfl, s, t, hs, ht, hb⟩ := testRead_instants hread
  exact ⟨fl, hfl, List.any_eq_true.mpr
    ⟨s, List.getElem?_mem hs, List.any_eq_true.mpr ⟨t, List.getElem?_mem ht, hb⟩⟩⟩

-- Running through: each test was false for each node at the moment it was evaluated.
theorem scanRun_through (fleet : List α) (events : List (FleetEvent α))
    (hr : (scanRun tests (scanStart fleet) events).result = some false) :
    ∀ i < fleet.length, ∀ j (hj : j < tests.length),
      ∃ fl ∈ instants tests (scanStart fleet) events, ∃ s, fl[i]? = some s ∧ tests[j] s = false := by
  intro i hi j hj
  have hinv : ScanInv tests fleet.length _ := scanRun_inv events (scanStart_inv fleet)
  obtain ⟨fl, hfl, s, t, hs, ht, hb⟩ :=
    testRead_instants (hinv.passed i (hinv.through hr ▸ hi) j hj)
  rw [List.getElem?_eq_getElem hj, Option.some.injEq] at ht
  exact ⟨fl, hfl, s, hs, ht ▸ hb⟩

theorem scanRun_isSome (fleet : List α) (events : List (FleetEvent α))
    (hturns : (fleet.length + 1) * (tests.length + 1) ≤ events.countP FleetEvent.isTurn) :
    (scanRun tests (scanStart fleet) events).result.isSome = true := by
  refine scanRun_progress events (scanStart_inv fleet) (.inr ?_)
  calc scanLeft tests fleet.length (scanStart fleet)
      = fleet.length * (tests.length + 1) + tests.length := by simp [scanLeft, scanStart]
    _ < (fleet.length + 1) * (tests.length + 1) := by rw [Nat.succ_mul]; omega
    _ ≤ _ := hturns

-- Without writes the answer is the plain loop's.
theorem scanRun_quiet (fleet : List α) (events : List (FleetEvent α))
    (hquiet : ∀ e ∈ events, e.isTurn = true) (r : Bool)
    (hr : (scanRun tests (scanStart fleet) events).result = some r) : r = scanAny tests fleet := by
  have hsame : ∀ fl ∈ instants tests (scanStart fleet) events, fl = (scanStart fleet).fleet :=
    instants_of_turns events hquiet _
  cases r with
  | true =>
      obtain ⟨fl, hfl, hany⟩ := scanRun_stopped fleet events hr
      exact (hsame fl hfl ▸ hany).symm
  | false =>
      refine (Bool.eq_false_iff.mpr fun hany => ?_).symm
      obtain ⟨s, hs, hany⟩ := List.any_eq_true.mp hany
      obtain ⟨t, ht, hts⟩ := List.any_eq_true.mp hany
      obtain ⟨i, hi, rfl⟩ := List.getElem_of_mem hs
      obtain ⟨j, hj, rfl⟩ := List.getElem_of_mem ht
      obtain ⟨fl, hfl, s', hs', hb⟩ := scanRun_through fleet events hr i hi j hj
      obtain rfl : fleet[i] = s' := by simpa [hsame fl hfl, scanStart, hi] using hs'
      exact absurd hts (by simp [hb])

end Scan

-- The tests of each aggregate loop's condition, one per read of the record. `HasAllDbUp`
-- reads `s.State` twice.
def hasAllDbUpTests : List (ServerMonitor → Bool) :=
  [fun s => s.state == stateFailed, fun s => s.state == stateSuspect]

-- On a slice that is not nil every aggregate loop is a scan: `HasAllDbUp` and the rolling
-- requests answer that no test held, the others that one did.
theorem aggregate_scans (cluster : Cluster) (servers : List ServerMonitor) (srv : ServerMonitor)
    (cookie : ServerMonitor → Bool) (proxyCookie : DatabaseProxy → Bool) :
    let c := { cluster with servers := .make servers }
    c.hasAllDbUp = !scanAny hasAllDbUpTests servers ∧
    c.hasRequestDBRestart = scanAny [(·.restartCookie)] servers ∧
    hasRequestDBRolling cookie c = !scanAny [fun s => !cookie s] servers ∧
    c.hasRequestDBReprov = scanAny [(·.reprovCookie)] servers ∧
    c.hasServer srv = scanAny [fun sv => sv.url == srv.url] servers ∧
    hasRequestProxies proxyCookie cluster = scanAny [proxyCookie] cluster.proxies := by
  simp [scanAny, hasAllDbUpTests, hasAllDbUp, hasRequestDBRestart, hasRequestDBRolling,
    hasRequestDBReprov, hasServer, hasRequestProxies, List.all_eq_not_any_not]

-- A loop run beside the monitors answers within `(n + 1) * (m + 1)` turns whatever they
-- write. An early return is justified by one moment of the run; running through says less,
-- since the moments may differ from test to test and from node to node. Without writes the
-- answer is the plain loop's. The aggregate loops of the sources are such scans.
theorem scanRun_answer {α : Type} (tests : List (α → Bool)) (fleet : List α)
    (events : List (FleetEvent α)) :
    let run := scanRun tests (scanStart fleet) events
    let seen := instants tests (scanStart fleet) events
    ((fleet.length + 1) * (tests.length + 1) ≤ events.countP FleetEvent.isTurn →
      run.result.isSome = true) ∧
    (run.result = some true → ∃ fl ∈ seen, scanAny tests fl = true) ∧
    (run.result = some false → ∀ i < fleet.length, ∀ j (hj : j < tests.length),
      ∃ fl ∈ seen, ∃ s, fl[i]? = some s ∧ tests[j] s = false) ∧
    ((∀ e ∈ events, e.isTurn = true) → ∀ r, run.result = some r → r = scanAny tests fleet) ∧
    ∀ (cluster : Cluster) (servers : List ServerMonitor) (srv : ServerMonitor)
      (cookie : ServerMonitor → Bool) (proxyCookie : DatabaseProxy → Bool),
      let c := { cluster with servers := .make servers }
      c.hasAllDbUp = !scanAny hasAllDbUpTests servers ∧
      c.hasRequestDBRestart = scanAny [(·.restartCookie)] servers ∧
      hasRequestDBRolling cookie c = !scanAny [fun s => !cookie s] servers ∧
      c.hasRequestDBReprov = scanAny [(·.reprovCookie)] servers ∧
      c.hasServer srv = scanAny [fun sv => sv.url == srv.url] servers ∧
      hasRequestProxies proxyCookie cluster = scanAny [proxyCookie] cluster.proxies :=
  ⟨scanRun_isSome fleet events, scanRun_stopped fleet events, scanRun_through fleet events,
    scanRun_quiet fleet events, aggregate_scans⟩

-- `HasAllDbUp` on a slice that is not nil, run beside the monitors.
def hasAllDbUpInterleaved (servers : List ServerMonitor)
    (events : List (FleetEvent ServerMonitor)) : Option Bool :=
  (scanRun hasAllDbUpTests (scanStart servers) events).result.map (!·)

-- A one-node cluster whose node is down at every moment: `Suspect` when the first test reads
-- it, `Failed` when the second does. The loop runs through and `HasAllDbUp` answers true.
theorem scanRun_answer_down_node :
    let node : ServerMonitor := { url := "db1", state := stateSuspect }
    let events : List (FleetEvent ServerMonitor) :=
      [.turn, .write 0 fun s => { s with state := stateFailed }, .turn, .turn, .turn]
    let run := scanRun hasAllDbUpTests (scanStart [node]) events
    let seen := instants hasAllDbUpTests (scanStart [node]) events
    (run.result = some false → ∀ i < [node].length, ∀ j (hj : j < hasAllDbUpTests.length),
      ∃ fl ∈ seen, ∃ s, fl[i]? = some s ∧ hasAllDbUpTests[j] s = false) ∧
    hasAllDbUpInterleaved [node] events = some true ∧
    ∀ fl ∈ seen, hasAllDbUp { servers := .make fl } = false :=
  ⟨(scanRun_answer hasAllDbUpTests _ _).2.2.1, by decide, by decide⟩

end ReplicationManager.Cluster
