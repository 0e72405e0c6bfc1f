import ReplicationManager.Types

namespace ReplicationManager.ServerMonitor

-- One call of `sqlx.Connect(driver, dsn)`.
structure ConnAttempt where
  driver : String
  dsn : String
  deriving DecidableEq, Repr

-- What `GetNewDBConn` hands back and raises: the attempts in order, whether the returned
-- error is nil, the lifetime set on the returned connection, and the cluster state code.
structure ConnResult where
  attempts : List ConnAttempt
  connected : Bool
  maxLifetime : Option Nat := none
  alert : Option String := none
  deriving DecidableEq, Repr

section Connection

-- `SetDSN` is outside the sources; `dsnFor c` is the DSN it builds for this node under the
-- TLS configuration `c` (nothing else of the node changes during a call). `connect` is the
-- network's answer to one attempt.
variable (dsnFor : TLSConfig → String)

def setDSN (server : ServerMonitor) : ServerMonitor :=
  { server with dsn := dsnFor server.tlsConfigUsed }

def getNewDBConn (connect : String → String → Bool) (cluster : Cluster) (server : ServerMonitor) : ConnResult × ServerMonitor :=
  if cluster.conf.masterSlavePgStream || cluster.conf.masterSlavePgLogical then
    ({ attempts := [⟨"postgres", server.dsn⟩], connected := connect "postgres" server.dsn }, server)
  else
    let first : ConnAttempt := ⟨"mysql", server.dsn⟩
    if connect "mysql" server.dsn || !cluster.haveDBTLSCert then
      ({ attempts := [first], connected := connect "mysql" server.dsn }, server)
    else
      -- the key may be mid-rotation: try the old certificate
      let old := setDSN dsnFor { server with tlsConfigUsed := .old }
      if connect "mysql" old.dsn then
        ({ attempts := [first, ⟨"mysql", old.dsn⟩], connected := true, maxLifetime := some 3595,
           alert := some "ERR00080" },
          setDSN dsnFor { old with tlsConfigUsed := .current })
      else
        let noCert := setDSN dsnFor { old with tlsConfigUsed := .none }
        ({ attempts := [first, ⟨"mysql", old.dsn⟩, ⟨"mysql", noCert.dsn⟩],
           connected := connect "mysql" noCert.dsn },
          setDSN dsnFor { noCert with tlsConfigUsed := .current })

-- The node after a fallback: back on the current configuration and its DSN.
def resetTLS (server : ServerMonitor) : ServerMonitor :=
  { server with tlsConfigUsed := .current, dsn := dsnFor .current }

-- Everything one call can do.
theorem getNewDBConn_cases (connect : String → String → Bool) (cluster : Cluster)
    (server : ServerMonitor) :
    let pg := cluster.conf.masterSlavePgStream || cluster.conf.masterSlavePgLogical
    let first : ConnAttempt := ⟨"mysql", server.dsn⟩
    let old : ConnAttempt := ⟨"mysql", dsnFor .old⟩
    let noCert : ConnAttempt := ⟨"mysql", dsnFor .none⟩
    (pg = true ∧ getNewDBConn dsnFor connect cluster server =
      ({ attempts := [⟨"postgres", server.dsn⟩], connected := connect "postgres" server.dsn },
        server)) ∨
    (pg = false ∧ (connect "mysql" server.dsn = true ∨ cluster.haveDBTLSCert = false) ∧
      getNewDBConn dsnFor connect cluster server =
        ({ attempts := [first], connected := connect "mysql" server.dsn }, server)) ∨
    (pg = false ∧ connect "mysql" server.dsn = false ∧ cluster.haveDBTLSCert = true ∧
      connect "mysql" old.dsn = true ∧ getNewDBConn dsnFor connect cluster server =
        ({ attempts := [first, old], connected := true, maxLifetime := some 3595,
           alert := some "ERR00080" }, resetTLS dsnFor server)) ∨
    (pg = false ∧ connect "mysql" server.dsn = false ∧ cluster.haveDBTLSCert = true ∧
      connect "mysql" old.dsn = false ∧ getNewDBConn dsnFor connect cluster server =
        ({ attempts := [first, old, noCert], connected := connect "mysql" noCert.dsn },
          resetTLS dsnFor server)) := by
  intro pg first old noCert
  cases hpg : pg <;> simp only [pg] at hpg
  · cases hf : connect "mysql" server.dsn <;> cases ht : cluster.haveDBTLSCert <;>
      cases ho : connect "mysql" (dsnFor .old) <;>
      simp [getNewDBConn, setDSN, resetTLS, hpg, hf, ht, ho, first, old, noCert]
  · exact .inl ⟨rfl, by simp [getNewDBConn, hpg]⟩

-- The ladder stops at the first attempt that connects, and the call connects exactly when
-- one of its attempts does; the rotation alert is raised exactly when the old certificate
-- rescues a failed first attempt.
theorem getNewDBConn_attempts (connect : String → String → Bool) (cluster : Cluster)
    (server : ServerMonitor) :
    let r := (getNewDBConn dsnFor connect cluster server).1
    r.connected = r.attempts.any (fun a => connect a.driver a.dsn) ∧
    (r.attempts.dropLast.all fun a => !connect a.driver a.dsn) = true ∧
    (r.alert = some "ERR00080" ↔
      (cluster.conf.masterSlavePgStream || cluster.conf.masterSlavePgLogical) = false ∧
      connect "mysql" server.dsn = false ∧ cluster.haveDBTLSCert = true ∧
      connect "mysql" (dsnFor .old) = true) := by
  rcases getNewDBConn_cases dsnFor connect cluster server with
    ⟨hpg, h⟩ | ⟨hpg, hf, h⟩ | ⟨hpg, hf, ht, ho, h⟩ | ⟨hpg, hf, ht, ho, h⟩
  · simp only [h, hpg]
    simp
  · simp only [h, hpg]
    rcases hf with hf | hf <;> simp [hf]
  · simp [h, hpg, hf, ht, ho]
  · simp [h, hpg, hf, ht, ho]

-- The state a node must be in for its next call to start from the current certificate.
def OnCurrentTLS (server : ServerMonitor) : Prop :=
  server.tlsConfigUsed = .current ∧ server.dsn = dsnFor .current

-- One call starts from the DSN the node holds and leaves the node on the current
-- configuration whenever it held it: a fallback is never kept.
theorem getNewDBConn_onCurrentTLS (connect : String → String → Bool) (cluster : Cluster)
    {server : ServerMonitor} (hcur : OnCurrentTLS dsnFor server) :
    ((getNewDBConn dsnFor connect cluster server).1.attempts.head?.map (·.dsn) =
      some (dsnFor .current)) ∧ OnCurrentTLS dsnFor (getNewDBConn dsnFor connect cluster server).2 := by
  obtain ⟨htls, hdsn⟩ := hcur
  rcases getNewDBConn_cases dsnFor connect cluster server with
    ⟨-, h⟩ | ⟨-, -, h⟩ | ⟨-, -, -, -, h⟩ | ⟨-, -, -, -, h⟩ <;>
    simp [h, hdsn, htls, OnCurrentTLS, resetTLS]

-- Successive monitoring ticks, each meeting its own network answers.
def reconnectRun (cluster : Cluster) :
    List (String → String → Bool) → ServerMonitor → List ConnResult × ServerMonitor
  | [], server => ([], server)
  | connect :: rest, server =>
      let step := getNewDBConn dsnFor connect cluster server
      let run := reconnectRun cluster rest step.2
      (step.1 :: run.1, run.2)

theorem reconnectRun_onCurrentTLS (cluster : Cluster) (answers : List (String → String → Bool))
    {server : ServerMonitor} (hcur : OnCurrentTLS dsnFor server) :
    (∀ r ∈ (reconnectRun dsnFor cluster answers server).1,
      r.attempts.head?.map (·.dsn) = some (dsnFor .current)) ∧
    OnCurrentTLS dsnFor (reconnectRun dsnFor cluster answers server).2 := by
  induction answers generalizing server with
  | nil => exact ⟨by simp [reconnectRun], hcur⟩
  | cons connect rest ih =>
      obtain ⟨hhead, hnext⟩ := getNewDBConn_onCurrentTLS dsnFor connect cluster hcur
      obtain ⟨hrest, hlast⟩ := ih hnext
      refine ⟨fun r hr => ?_, hlast⟩
      simp only [reconnectRun, List.mem_cons] at hr
      rcases hr with rfl | hr
      exacts [hhead, hrest r hr]

theorem reconnectRun_after_old_certificate :
    let dsnFor : TLSConfig → String := fun
      | .current => "cur"
      | .old => "old"
      | .none => "plain"
    let server : ServerMonitor := { dsn := "cur" }
    let answers : List (String → String → Bool) :=
      [fun _ dsn => dsn == "old", fun _ dsn => dsn == "cur"]
    let cluster : Cluster := { haveDBTLSCert := true }
    OnCurrentTLS dsnFor server ∧
    (∀ r ∈ (reconnectRun dsnFor cluster answers server).1,
      r.attempts.head?.map (·.dsn) = some (dsnFor .current)) ∧
    OnCurrentTLS dsnFor (reconnectRun dsnFor cluster answers server).2 :=
  ⟨⟨rfl, rfl⟩, reconnectRun_onCurrentTLS _ _ _ ⟨rfl, rfl⟩⟩

end Connection

end ReplicationManager.ServerMonitor
