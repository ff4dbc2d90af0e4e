import SpotSettlement.Code

namespace SpotSettlement

/-! # Store errors

Why the store refuses an operation, and how that is worded.
-/

inductive StoreError where
  /-- The store failed, or a uniqueness rule was broken. -/
  | storage (problem : String)
  /-- A stored row is no value of its type. -/
  | corruptRow (table problem : String)
  /-- A row that must exist does not. -/
  | notFound (entity id : String)
  /-- A value has no stored form. -/
  | serialization (problem : String)
  deriving DecidableEq, Repr

def StoreError.message : StoreError → String
  | .storage problem => "storage error: " ++ problem
  | .corruptRow table problem => "corrupt row in " ++ table ++ ": " ++ problem
  | .notFound entity id => entity ++ " not found: " ++ id
  | .serialization problem => "serialization error: " ++ problem

/-- A row whose code is unknown is corrupt. -/
def StoreError.ofUnknownCode (unknown : UnknownCode) : StoreError :=
  .corruptRow unknown.noun unknown.message

end SpotSettlement
