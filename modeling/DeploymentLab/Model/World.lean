import DeploymentLab.Model.Handler

/-!
# Handlers at work on one database

Any number of handlers share the database, its clock and the providers. Every ledger call is
one transaction and every provider call one answer, and each is three moves of the machine:
the handler issues the call, the call is executed, the handler goes on with the outcome. The
environment moves the clock, signals the handlers, changes tasks and leases, and lets a
provider act on its own.
-/

namespace DeploymentLab

open Interaction Relational

/-- What is observed of a run, newest first. -/
inductive Event (ρ : Type)
  | started (i : ℕ) (now : Timestamp)
  | issued (i : ℕ) (now : Timestamp) (e : Effect)
  | executed (i : ℕ) (now : Timestamp) (e : Effect) (outcome : Outcome e)
  | ended (i : ℕ) (result : Except Exn ρ)

structure World (S ρ : Type) where
  database : Database
  now : Timestamp
  context : ℕ → HandlerView
  provider : S
  log : List (Event ρ)

/-- A model of the providers: what a call does when it is issued, what it does and answers
when it is executed, and what a provider does by itself. `M` resolves its choices. -/
structure Provider (S M : Type) where
  issue : Database → Effect → S → S
  respond : M → Timestamp → (e : Effect) → S → Option (Outcome e × S)
  act : M → Timestamp → S → Option S

inductive Choice (M : Type)
  | identifiers (row history : UUID)
  | respond (m : M)
  | clock (now : Timestamp)
  | context (i : ℕ) (view : HandlerView)
  | tasks (tasks : Table Task) (taskAttempts : Table TaskAttempt)
  | act (m : M)

namespace Effect

def isTransaction : Effect → Bool
  | .record _ | .reserveOrGet _ | .transition _ | .revise _ | .reconciliationDelaySeconds _ => true
  | _ => false

end Effect

namespace Database

/-- The outcome of a transaction and the database it leaves. -/
def settle {α : Type} (db : Database) : Except Exn (α × Database) → Except Exn α × Database
  | .ok (a, db') => (.ok a, db')
  | .error x => (.error x, db)

/-- Execute one transaction of the evidence store or of the ledger. -/
def execute [Runtime] (maximumBytes : ℕ) (db : Database) (now : Timestamp)
    (row history : UUID) : (e : Effect) → Option (Outcome e × Database)
  | .record request =>
    some (db.settle (SourceArtifactRepository.record maximumBytes db now row request))
  | .reserveOrGet request =>
    some (db.settle (ExternalActionRepository.reserveOrGet db now row history request))
  | .transition request =>
    some (db.settle (ExternalActionRepository.transition db now history request))
  | .revise request =>
    some (db.settle (ExternalActionRepository.revise db now history request))
  | .reconciliationDelaySeconds actionId =>
    some (.ok (ExternalActionRepository.reconciliationDelaySeconds db now actionId), db)
  | _ => none

end Database

variable {S M J ρ : Type}

/-- The parameters of a machine of handlers: the jobs it runs, how its clock may move, whether
it runs one handler at a time, and the size limit of the evidence store. -/
structure Setup (J ρ : Type) where
  job : J → Handler ρ
  tick : Timestamp → Timestamp → Bool := fun _ _ => true
  exclusive : Bool := false
  maximumBytes : ℕ := 65536

def machine [Runtime] (setup : Setup J ρ) (providers : Provider S M) :
    Machine handlerSignature ρ J (World S ρ) (Choice M) where
  view i w := w.context i
  exec i e c w :=
    match c with
    | .identifiers row history =>
      if w.database.unused row && w.database.unused history then
        (w.database.execute setup.maximumBytes w.now row history e).map fun (outcome, db) =>
          (outcome, { w with database := db, log := .executed i w.now e outcome :: w.log })
      else none
    | .respond m =>
      if e.isTransaction then none
      else (providers.respond m w.now e w.provider).map fun (outcome, provider) =>
        (outcome, { w with provider, log := .executed i w.now e outcome :: w.log })
    | _ => none
  observe i
    | .issued e, w =>
      { w with
        provider := providers.issue w.database e w.provider
        log := .issued i w.now e :: w.log }
    | .returned _ _, w => w
  finish i result w := { w with log := .ended i result :: w.log }
  env c w :=
    match c with
    | .clock now => if setup.tick w.now now then some { w with now } else none
    | .context i view => some { w with context := Function.update w.context i view }
    | .tasks tasks taskAttempts =>
      some { w with database := { w.database with tasks, taskAttempts } }
    | .act m => (providers.act m w.now w.provider).map fun provider => { w with provider }
    | _ => none
  job := setup.job
  spawn i _ w := some { w with log := .started i w.now :: w.log }
  mayStart t n := !setup.exclusive || (List.range n).all fun k => !(t k).active

/-- The world before any handler has started. -/
def World.initial (db : Database) (now : Timestamp) (provider : S) : World S ρ where
  database := db
  now := now
  context := fun _ => {}
  provider := provider
  log := []

/-- Providers that may answer every call with any answer, or raise any error of their own. -/
def anyProvider : Provider Unit ((e : Effect) → Outcome e) where
  issue _ _ s := s
  respond m _ e s := some (m e, s)
  act _ _ _ := none

/-! ## A small world to try the model on -/

namespace Sample

/-- A host for text in ASCII, with the SHA-256 digests of the texts in question. -/
@[reducible] def host (digests : List (String × Digest)) : Runtime where
  sha256 s := (digests.lookup s).getD 0
  casefold s := String.ofList (s.toList.map Char.toLower)
  lower s := String.ofList (s.toList.map Char.toLower)
  nfkc s := s
  ipv6Address _ := false

/-- A host on which no text has a digest of its own. -/
@[reducible] def asciiHost : Runtime := host []

def fence (n : ℕ) : ExecutionFence where
  taskId := BitVec.ofNat 128 n
  attemptId := BitVec.ofNat 128 (n + 10)
  attemptNumber := 1
  workerId := "worker"
  leaseTokenHash := BitVec.ofNat 256 n

def runningTask (n : ℕ) : Task where
  id := (fence n).taskId
  idempotencyKey := toString n
  requestFingerprint := 0
  taskType := "deployment_context_sync"
  taskInput := .dict []
  status := .running
  attemptCount := 1
  workerId := some "worker"
  leaseTokenHash := some (fence n).leaseTokenHash
  leaseExpiresAt := some 1000000000
  lastHeartbeatAt := some 0
  createdAt := 0
  updatedAt := 0

def runningAttempt (n : ℕ) : TaskAttempt where
  id := (fence n).attemptId
  taskId := (fence n).taskId
  attemptNumber := 1
  workerId := "worker"
  leaseTokenHash := (fence n).leaseTokenHash
  status := .running
  startedAt := 0
  lastHeartbeatAt := 0

/-- Four tasks are running, and nothing has been done yet. -/
def database : Database where
  tasks := ⟨[runningTask 1, runningTask 2, runningTask 3, runningTask 4], by decide⟩
  taskAttempts :=
    ⟨[runningAttempt 1, runningAttempt 2, runningAttempt 3, runningAttempt 4], by decide⟩

end Sample

end DeploymentLab
