/-
Overrides of settings, from a YAML document.

* `Overrides`: the values that a document gives, each of which may be absent;
* `Overrides.ofMapping?`: those of a mapping; keys that name no setting are left aside, but no
  setting may be given twice;
* `Overrides.ofText?`: those of a document, which may be empty.
-/
import LeasedStore.Yaml.Document
import LeasedStore.Yaml.Value

namespace LeasedStore

/-- What a document says about the settings. -/
structure Overrides where
  databaseUrl : Option String
  maxConnections : Option UInt32
  connectTimeoutMs : Option UInt64
  acquireTimeoutMs : Option UInt64
  leaseHolder : Option String
  leaseDurationMs : Option Int64
  queryPageSize : Option UInt32
  createSchema : Option Bool
  deriving DecidableEq, Repr

namespace Overrides

/-- A document that says nothing. -/
def none : Overrides := ⟨.none, .none, .none, .none, .none, .none, .none, .none⟩

/-- An unsigned word of 32 bits. -/
def uint32? (n : Yaml.Node) : Option UInt32 :=
  n.unsigned?.bind fun i => if i < UInt32.size then some i.toUInt32 else .none

/-- An unsigned word of 64 bits. -/
def uint64? (n : Yaml.Node) : Option UInt64 :=
  n.unsigned?.bind fun i => if i < UInt64.size then some i.toUInt64 else .none

/-- A signed word of 64 bits. -/
def int64? (n : Yaml.Node) : Option Int64 := n.signed?.bind Numeral.fitInt64?

/-- The value of a setting, absent if it is not given or null; the outer absence is that of a
document that gives it twice, or something that it cannot be. -/
def setting {α : Type} (members : List (String × Yaml.Node)) (key : String)
    (read? : Yaml.Node → Option α) : Option (Option α) :=
  match members.filter fun m => m.1 = key with
  | [] => some .none
  | [m] => m.2.given?.bind fun given => given.elim (some .none) fun n => (read? n).map some
  | _ => .none

/-- The members of a mapping, whose keys have to be scalars. -/
def namedMembers? (members : List (Yaml.Node × Yaml.Node)) : Option (List (String × Yaml.Node)) :=
  members.mapM fun m => m.1.text?.map fun key => (key, m.2)

/-- What a mapping says about the settings. -/
def ofMapping? (members : List (Yaml.Node × Yaml.Node)) : Option Overrides := do
  let members ← namedMembers? members
  let databaseUrl ← setting members "database_url" Yaml.Node.text?
  let maxConnections ← setting members "max_connections" uint32?
  let connectTimeoutMs ← setting members "connect_timeout_ms" uint64?
  let acquireTimeoutMs ← setting members "acquire_timeout_ms" uint64?
  let leaseHolder ← setting members "lease_holder" Yaml.Node.text?
  let leaseDurationMs ← setting members "lease_duration_ms" int64?
  let queryPageSize ← setting members "query_page_size" uint32?
  let createSchema ← setting members "create_schema" Yaml.Node.bool?
  return ⟨databaseUrl, maxConnections, connectTimeoutMs, acquireTimeoutMs, leaseHolder,
    leaseDurationMs, queryPageSize, createSchema⟩

/-- What a document says about the settings; nothing if it is empty. -/
def ofDocument? : Option Yaml.Node → Option Overrides
  | .none => some none
  | some (.scalar _ s) => if s.style = .plain ∧ s.text = "" then some none else .none
  | some (.mapping _ members) => ofMapping? members
  | some _ => .none

/-- What the document of a text says about the settings. -/
def ofText? (s : String) : Option Overrides := (Yaml.readDocument s).bind ofDocument?

end Overrides

end LeasedStore
