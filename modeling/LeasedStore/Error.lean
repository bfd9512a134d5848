/-
Why an operation of a store fails.

Conflicts, taken ids and missing rows are outcomes that callers branch on, so each of them is a
cause of its own.

* `StoreError`: the causes;
* `StoreError.message`: their wording;
* `StoreError.isLeaseConflict`: did somebody else hold the lease, or nobody?
-/
import LeasedStore.Query.Operator
import LeasedStore.Database.Error

namespace LeasedStore

/-- The causes that callers do not branch on. -/
inductive Mishap where
  | unsupportedScheme (scheme : String)
  /-- The document of a column cannot be read. -/
  | undecodable (column : String) (fault : Json.Fault)
  | unknownState (code : Int64)
  | unknownType (entity text : String)
  | unreadableSettings (path : String)
  | malformedSettings
  deriving DecidableEq, Repr

/-- The wording of a mishap. -/
def Mishap.message : Mishap → String
  | unsupportedScheme s => "unsupported database scheme '" ++ s ++ "'"
  | undecodable column fault => "decode " ++ column ++ ": " ++ fault.message
  | unknownState code => "unknown state code " ++ Numeral.ofInt64 code
  | unknownType entity text => "unknown " ++ entity ++ " type '" ++ text ++ "'"
  | unreadableSettings path => "read HARBOR_STORE_CONFIG: " ++ path
  | malformedSettings => "parse store config yaml"

/-- Why an operation fails. -/
inductive StoreError where
  | duplicateId (id : String)
  | notFound (id : String)
  /-- The lease is not the caller's; who holds it, if anybody does. -/
  | leaseConflict (id : String) (holder : Option String)
  | invalidQuery (e : QueryError)
  | database (e : DatabaseError)
  | unexpected (m : Mishap)
  deriving DecidableEq, Repr

namespace StoreError

/-- The wording of an error. -/
def message : StoreError → String
  | duplicateId id => "duplicate id: " ++ id
  | notFound id => "not found: " ++ id
  | leaseConflict id (some holder) => "lease conflict on " ++ id ++ ": leased by " ++ holder
  | leaseConflict id none =>
    "lease conflict on " ++ id ++ ": caller holds no active lease"
  | invalidQuery e => "invalid query: " ++ e.message
  | database e => "database error: " ++ e.message
  | unexpected m => m.message

/-- Is the lease not the caller's? -/
def isLeaseConflict : StoreError → Bool
  | leaseConflict .. => true
  | _ => false

end StoreError

end LeasedStore
