import ReplicationManager.Cluster.Provision

namespace ReplicationManager.Cluster

open Go

-- What the failover state machine may do between two monitoring ticks: move health
-- states, never the configuration, the fleet's size or a provision cookie.
structure StatesOnly (before after : Cluster) : Prop where
  conf_eq : after.conf = before.conf
  servers_cookies :
    after.servers.toList.map (·.provisionCookie) = before.servers.toList.map (·.provisionCookie)
  proxies_cookies : after.proxies.map (·.provisionCookie) = before.proxies.map (·.provisionCookie)

-- Provisioning is settled: either not this system's job, or every member has its cookie.
def Provisioned (cluster : Cluster) : Prop :=
  cluster.conf.provOrchestrator = constOrchestratorOnPremise ∨
    (cluster.conf.hosts ≠ "" ∧ (∀ db ∈ cluster.servers.toList, db.provisionCookie = true) ∧
      ∀ px ∈ cluster.proxies, px.provisionCookie = true)

section Run

variable (running : String → Bool)

-- Successive ticks: the state machine moves, then the aggregate layer asks.
def provisionRun : List (Cluster → Cluster) → Cluster → List Bool × Cluster
  | [], cluster => ([], cluster)
  | move :: rest, cluster =>
      let tick := isProvisioned running (move cluster)
      let run := provisionRun rest tick.2.1
      (tick.1 :: run.1, run.2)

private theorem all_of_map_eq {β : Type} {f : β → Bool} {l l' : List β}
    (h : l'.map f = l.map f) (hall : ∀ x ∈ l, f x = true) : ∀ x ∈ l', f x = true := by
  intro x hx
  obtain ⟨y, hy, hfy⟩ := List.mem_map.mp (h ▸ List.mem_map_of_mem f hx)
  exact hfy ▸ hall y hy

theorem provisioned_of_statesOnly {before after : Cluster} (hstates : StatesOnly before after)
    (hprov : Provisioned before) : Provisioned after := by
  unfold Provisioned at *
  rw [hstates.conf_eq]
  exact hprov.imp_right fun ⟨hh, hdb, hpx⟩ =>
    ⟨hh, all_of_map_eq hstates.servers_cookies hdb, all_of_map_eq hstates.proxies_cookies hpx⟩

-- A settled cluster answers true and is left as it is.
theorem isProvisioned_of_provisioned {cluster : Cluster} (hprov : Provisioned cluster) :
    isProvisioned running cluster = (true, cluster, []) := by
  rcases hprov with hprem | ⟨hh, hdb, hpx⟩
  · simp [isProvisioned, hprem]
  · by_cases hprem : cluster.conf.provOrchestrator = constOrchestratorOnPremise
    · simp [isProvisioned, hprem]
    · simp [isProvisioned, hprem, hh, provisionServers, provisionProxies,
        provisionScan_of_cookies _ _ _ _ _ hdb, provisionScan_of_cookies _ _ _ _ _ hpx,
        GoSlice.setElems_toList]

-- A true answer settles the cluster it leaves behind.
theorem provisioned_of_isProvisioned {cluster : Cluster}
    (htrue : (isProvisioned running cluster).1 = true) :
    Provisioned (isProvisioned running cluster).2.1 := by
  by_cases hprem : cluster.conf.provOrchestrator = constOrchestratorOnPremise
  · simp [isProvisioned, hprem, Provisioned]
  by_cases hh : cluster.conf.hosts = ""
  · simp [isProvisioned, hprem, hh] at htrue
  have hlen : (provisionedServers running cluster.servers.toList).length =
      cluster.servers.toList.length := length_provisionPrefix _ _ _ _
  simp only [isProvisioned, hprem, hh, if_false, provisionServers_fst, provisionServers_members,
    provisionProxies_fst, provisionProxies_members] at htrue ⊢
  by_cases hdb : (cluster.servers.toList.all fun db => db.provisionCookie || running db.state) = true
  · simp only [hdb, Bool.not_true, Bool.false_eq_true, if_false] at htrue ⊢
    exact .inr ⟨hh, by simpa [GoSlice.toList_setElems _ _ hlen] using
        cookie_of_mem_provisionPrefix (fun _ => rfl) hdb,
      cookie_of_mem_provisionPrefix (fun _ => rfl) htrue⟩
  · simp [hdb] at htrue

-- From a settled cluster every tick answers true, and the cluster stays settled.
theorem provisionRun_of_provisioned (moves : List (Cluster → Cluster))
    (hmoves : ∀ move ∈ moves, ∀ cluster, StatesOnly cluster (move cluster)) {cluster : Cluster}
    (hprov : Provisioned cluster) :
    (∀ b ∈ (provisionRun running moves cluster).1, b = true) ∧
      Provisioned (provisionRun running moves cluster).2 := by
  induction moves generalizing cluster with
  | nil => exact ⟨by simp [provisionRun], hprov⟩
  | cons move rest ih =>
      have hmoved := provisioned_of_statesOnly (hmoves move (.head _) cluster) hprov
      have hrest := ih (fun m hm => hmoves m (.tail _ hm)) hmoved
      simp only [provisionRun, isProvisioned_of_provisioned running hmoved, List.mem_cons]
      exact ⟨fun b hb => hb.elim id (hrest.1 b), hrest.2⟩

-- Over any run of ticks in which the state machine only moves health states, the answers
-- of `IsProvisioned` never go from true back to false, and once one is true every member has
-- its provision cookie to the end of the run (or provisioning is on premise): the cookies a
-- true answer leaves keep every later answer true, whatever becomes of the nodes' reachability.
theorem provisionRun_monotone (moves : List (Cluster → Cluster))
    (hmoves : ∀ move ∈ moves, ∀ cluster, StatesOnly cluster (move cluster)) (cluster : Cluster) :
    let run := provisionRun running moves cluster
    run.1.Pairwise (fun a b => a = true → b = true) ∧ (true ∈ run.1 → Provisioned run.2) := by
  induction moves generalizing cluster with
  | nil => exact ⟨.nil, by simp [provisionRun]⟩
  | cons move rest ih =>
      have hrest : ∀ m ∈ rest, ∀ c, StatesOnly c (m c) := fun m hm => hmoves m (.tail _ hm)
      -- a true tick settles the cluster it leaves, and the rest of the run keeps it settled
      have hsettled := fun htrue : (isProvisioned running (move cluster)).1 = true =>
        provisionRun_of_provisioned running rest hrest (provisioned_of_isProvisioned running htrue)
      obtain ⟨hpair, hfinal⟩ := ih hrest (isProvisioned running (move cluster)).2.1
      simp only [provisionRun, List.mem_cons]
      refine ⟨.cons (fun b hb htrue => (hsettled htrue).1 b hb) hpair, ?_⟩
      rintro (htrue | hin)
      exacts [(hsettled htrue.symm).2, hfinal hin]

end Run

theorem provisionRun_node_fails_later :
    let fail : Cluster → Cluster := fun c =>
      { c with servers := c.servers.setElems (c.servers.toList.map fun db => { db with state := "Failed" }) }
    let moves : List (Cluster → Cluster) := [fun c => c, fail]
    let cluster : Cluster :=
      { conf := { hosts := "db1" }, servers := .make [{ url := "db1", state := "Running" }] }
    (∀ move ∈ moves, ∀ c, StatesOnly c (move c)) ∧
      let run := provisionRun (· == "Running") moves cluster
      run.1.Pairwise (fun a b => a = true → b = true) ∧ (true ∈ run.1 → Provisioned run.2) := by
  intro fail moves cluster
  have hmoves : ∀ move ∈ moves, ∀ c, StatesOnly c (move c) := by
    simp only [moves, List.mem_cons, List.mem_singleton, forall_eq_or_imp, forall_eq,
      List.not_mem_nil, false_imp_iff, implies_true, and_true]
    refine ⟨fun c => ⟨rfl, rfl, rfl⟩, fun c => ⟨rfl, ?_, rfl⟩⟩
    simp [fail, GoSlice.toList_setElems _ _ (List.length_map _ _)]
  exact ⟨hmoves, provisionRun_monotone _ _ hmoves _⟩

end ReplicationManager.Cluster
