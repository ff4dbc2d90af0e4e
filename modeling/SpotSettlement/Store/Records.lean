import SpotSettlement.Store.Basic

namespace SpotSettlement.Store

/-! # Executions, ledger and outbox rows in the store -/

/-- Whether the fill with this key is recorded. -/
def hasExecution (store : Store) (key : String × String × String) : Bool :=
  store.executions.any (·.key == key)

def appendExecution (execution : Execution) : Work Unit :=
  modify fun store => { store with executions := store.executions ++ [execution] }

/-- Adds an execution unless its fill is recorded; tells whether it was added. -/
def insertExecution (execution : Execution) : Work Bool := do
  if (← get).hasExecution execution.key then
    return false
  appendExecution execution
  return true

def executionsOf (store : Store) (orderId : String) : List Execution :=
  store.executions.filter (·.orderId == orderId)

def appendLedger (transaction : LedgerTransaction) : Work Unit :=
  modify fun store => { store with ledger := store.ledger ++ [transaction] }

def ledgerOf (store : Store) (correlationId : String) : List LedgerTransaction :=
  store.ledger.filter (·.correlationId == correlationId)

def appendOutbox (row : OutboxRow) : Work Unit :=
  modify fun store => { store with outbox := store.outbox ++ [row] }

def outboxOf (store : Store) (aggregateId : String) : List OutboxRow :=
  store.outbox.filter (·.aggregateId == aggregateId)

def outboxRow? (store : Store) (id : String) : Option OutboxRow :=
  store.outbox.find? (·.id == id)

end SpotSettlement.Store
