import SpotSettlement.Store.Records

namespace SpotSettlement.Store

/-! # The relay of the outbox

Dispatchers take rows in batches under a lease, and report what became of each.  A lease that runs
out returns the row.
-/

def leasedBefore (cutoff : Instant) (row : OutboxRow) : Bool :=
  row.status == .processing &&
    (match row.processingStartedAt with
      | some start => start < cutoff
      | none => false)

/-- Returns the leases that have run out; tells how many. -/
def reclaimStale (lease : Duration) (now : Instant) : Work Nat := do
  let store ← get
  let stale := leasedBefore (now.before lease)
  set { store with
    outbox := store.outbox.map fun row => if stale row then row.reclaim now else row }
  return (store.outbox.filter stale).length

/-- Whether a row may be claimed at a moment. -/
def claimable (now : Instant) (row : OutboxRow) : Bool :=
  row.status.isClaimable && row.nextAttemptAt ≤ now

/-- Leases the first rows that may be claimed, at most so many, and gives them. -/
def claimRows (now : Instant) : Nat → List OutboxRow → List OutboxRow × List OutboxRow
  | _, [] => ([], [])
  | 0, rows => ([], rows)
  | limit + 1, row :: rest =>
    if claimable now row then
      let (claimed, rest) := claimRows now limit rest
      (row.markProcessing now :: claimed, row.markProcessing now :: rest)
    else
      let (claimed, rest) := claimRows now (limit + 1) rest
      (claimed, row :: rest)

def claimBatch (limit : Nat) (now : Instant) : Work (List OutboxRow) := do
  let store ← get
  let (claimed, outbox) := claimRows now limit store.outbox
  set { store with outbox }
  return claimed

def changeRow (id : String) (change : OutboxRow → OutboxRow) : List OutboxRow → List OutboxRow
  | [] => []
  | row :: rest => if row.id == id then change row :: rest else row :: changeRow id change rest

/-- Changes a row that must be there. -/
def changeOutbox (id : String) (change : OutboxRow → OutboxRow) : Work Unit := do
  let store ← get
  if (store.outboxRow? id).isNone then
    refuse (StoreError.notFound "outbox_event" id)
  set { store with outbox := changeRow id change store.outbox }

def markPublished (id : String) (now : Instant) : Work Unit :=
  changeOutbox id (·.markPublished now)

/-- Puts a row off until a moment. -/
def markFailed (id : String) (attempts : Nat) (nextAttemptAt : Instant) (error : String) :
    Work Unit :=
  changeOutbox id (·.markFailed attempts nextAttemptAt error)

def markDead (id : String) (attempts : Nat) (error : String) : Work Unit :=
  changeOutbox id (·.markDead attempts error)

/-- Queues rows again that were set aside: those named, or all; tells how many. -/
def requeueDead (ids : Option (List String)) (now : Instant) : Work Nat := do
  let store ← get
  let selected (row : OutboxRow) : Bool :=
    row.status == .dead &&
      (match ids with
        | some ids => ids.contains row.id
        | none => true)
  set { store with
    outbox := store.outbox.map fun row => if selected row then row.requeue now else row }
  return (store.outbox.filter selected).length

end SpotSettlement.Store
