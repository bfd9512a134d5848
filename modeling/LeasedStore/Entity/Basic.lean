/-
Entities: values with an id that are kept as rows of a table.

* `Entity`: the schema of a type, the parameters of a value and the value of a row;
* `StateChange`: a state entered, or the error state with the detail of a failure;
* `StatefulEntity`: entities with a state and the instant since when they have it;
* `Role`: which side of a contract or transfer we are on;
* `nextStateCount`: how often in a row a state was entered.
-/
import LeasedStore.Sql.Schema
import LeasedStore.Database.Row
import LeasedStore.Query.Spec

namespace LeasedStore

/-- A type of values that are kept as rows of a table. -/
class Entity (α : Type) where
  schema : EntitySchema
  /-- The id of an entity. -/
  id : α → String
  /-- What the columns of its row are bound to, in their order. -/
  params : α → List Param
  /-- The entity of a row. -/
  ofRow : Row → Except StoreError α
  /-- The entity as a JSON object. -/
  toJson : α → Json
  /-- An entity from a document. -/
  decode : Json.Decoder α

/-- A change of state. -/
inductive StateChange (σ : Type) where
  | enter (state : σ)
  | fail (detail : String)
  deriving DecidableEq, Repr

/-- A type of entities with a state. -/
class StatefulEntity (α : Type) extends Entity α where
  State : Type
  /-- A state from its name. -/
  decodeState : Json.Decoder State
  /-- The entity after a change of its state at an instant. -/
  change : StateChange State → Int64 → α → α
  /-- The column of the instant since when an entity has its state. -/
  stateTimestampColumn : String

/-- The side of a contract or transfer. -/
inductive Role where
  | consumer | provider
  deriving DecidableEq, Repr

namespace Role

/-- The name of a side. -/
def name : Role → String
  | consumer => "CONSUMER"
  | provider => "PROVIDER"

/-- The names of the sides. -/
def table : List (String × Role) := [("CONSUMER", consumer), ("PROVIDER", provider)]

/-- The side that a text names; `entity` is what the error calls the entity. -/
def parse (entity text : String) : Except StoreError Role :=
  match table.lookup text with
  | some r => .ok r
  | none => .error (.unexpected (.unknownType entity text))

/-- A side from its name. -/
def decode : Json.Decoder Role := Json.Decoder.choice table (table.map Prod.fst)

/-- A side as its name. -/
def toJson (r : Role) : Json := .string r.name

end Role

/-- How often in a row a state was entered, after one more transition from the code of the current
one to that of the next: entering a state again counts on, any other one starts at one. -/
def nextStateCount (current next count : Int64) : Int64 :=
  if current = next then count + 1 else 1

/-- The state of a code, or the error that there is none. -/
def stateOfCode {σ : Type} (ofCode? : Int64 → Option σ) (code : Int64) : Except StoreError σ :=
  match ofCode? code with
  | some s => .ok s
  | none => .error (.unexpected (.unknownState code))

end LeasedStore
