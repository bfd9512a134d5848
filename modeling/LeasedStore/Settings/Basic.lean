/-
Settings, layer by layer: a default, above it an environment variable, above that an override.

A value that is of no use (blank, zero, negative, unreadable) does not disturb the layer below it.

* `Environment`: the variables that are set;
* `Holder`: the name under which leases are held, given or generated;
* `StoreSettings`: all settings;
* `StoreSettings.new`, `ofEnvironment`, `load`: the settings of a database address alone, of the
  environment, and of the environment with the overrides of a file.
-/
import LeasedStore.Error
import LeasedStore.Settings.Overrides
import LeasedStore.Text.Blank

namespace LeasedStore

/-! ### The environment -/

/-- The variables that are set; those whose value is no text have none. -/
abbrev Environment := List (String × Option String)

namespace Environment

/-- The value of a variable that is set to a text. -/
def text? (env : Environment) (name : String) : Option String := (env.lookup name).join

/-- The value of a variable that is set to a text other than blanks. -/
def visible? (env : Environment) (name : String) : Option String :=
  (env.text? name).filter fun s => !Text.isBlank s

/-- The value of a variable that is set to a positive number, or else a default. -/
def number {α : Type} [LT α] [DecidableLT α] [OfNat α 0] (env : Environment) (name : String)
    (read? : String → Option α) (default : α) : α :=
  (((env.text? name).bind read?).filter fun n => decide (0 < n)).getD default

end Environment

/-! ### Settings -/

/-- The name under which leases are held. -/
inductive Holder where
  | named (name : String)
  /-- A name that is made up, different each time. -/
  | generated
  deriving DecidableEq, Repr

/-- The name itself, whatever text makes a generated one different from all others. -/
def Holder.id (unique : String) : Holder → String
  | named name => name
  | generated => "harbor-" ++ unique

/-- The settings of the stores. -/
structure StoreSettings where
  url : String
  maxConnections : UInt32
  connectTimeoutMs : UInt64
  acquireTimeoutMs : UInt64
  holder : Holder
  leaseDurationMs : Int64
  queryPageSize : UInt32
  createSchema : Bool
  deriving DecidableEq, Repr

namespace StoreSettings

/-- The holder where no other name is given: the name of the host, or a generated one. -/
def defaultHolder (env : Environment) : Holder :=
  match env.visible? "HOSTNAME" with
  | some name => .named name
  | none => .generated

/-- The settings of a database address; of the environment only the name of the host matters. -/
def new (env : Environment) (url : String) : StoreSettings where
  url := url
  maxConnections := 10
  connectTimeoutMs := 5000
  acquireTimeoutMs := 5000
  holder := defaultHolder env
  leaseDurationMs := 60000
  queryPageSize := 50
  createSchema := true

/-- The settings where nothing is set. -/
def default (env : Environment) : StoreSettings := new env "sqlite://harbor.db?mode=rwc"

/-- The words for yes. -/
def yesWords : List String := ["1", "true", "yes"]

/-- The settings of an environment. -/
def ofEnvironment (env : Environment) : StoreSettings :=
  let d := default env
  { url := (env.text? "HARBOR_DATABASE_URL").getD d.url
    maxConnections := env.number "HARBOR_DB_MAX_CONNECTIONS" Numeral.uint32? d.maxConnections
    connectTimeoutMs :=
      env.number "HARBOR_DB_CONNECT_TIMEOUT_MS" Numeral.uint64? d.connectTimeoutMs
    acquireTimeoutMs :=
      env.number "HARBOR_DB_ACQUIRE_TIMEOUT_MS" Numeral.uint64? d.acquireTimeoutMs
    holder := ((env.visible? "HARBOR_LEASE_HOLDER").map Holder.named).getD d.holder
    leaseDurationMs := env.number "HARBOR_LEASE_DURATION_MS" Numeral.int64? d.leaseDurationMs
    queryPageSize := env.number "HARBOR_QUERY_PAGE_SIZE" Numeral.uint32? d.queryPageSize
    createSchema :=
      ((env.text? "HARBOR_CREATE_SCHEMA").map fun s => yesWords.contains s).getD d.createSchema }

/-- A positive override, or else what there was. -/
def positiveOr {α : Type} [LT α] [DecidableLT α] [OfNat α 0] (override : Option α) (other : α) :
    α :=
  (override.filter fun n => decide (0 < n)).getD other

/-- The settings with the overrides of a document. -/
def withOverrides (s : StoreSettings) (o : Overrides) : StoreSettings where
  url := o.databaseUrl.getD s.url
  maxConnections := positiveOr o.maxConnections s.maxConnections
  connectTimeoutMs := positiveOr o.connectTimeoutMs s.connectTimeoutMs
  acquireTimeoutMs := positiveOr o.acquireTimeoutMs s.acquireTimeoutMs
  holder := ((o.leaseHolder.filter fun h => !Text.isBlank h).map Holder.named).getD s.holder
  leaseDurationMs := positiveOr o.leaseDurationMs s.leaseDurationMs
  queryPageSize := positiveOr o.queryPageSize s.queryPageSize
  createSchema := o.createSchema.getD s.createSchema

/-- The settings of an environment, with the overrides of the file that it names, if it names one;
`read?` gives the text of a file that can be read. -/
def load (env : Environment) (read? : String → Option String) : Except StoreError StoreSettings :=
  match env.text? "HARBOR_STORE_CONFIG" with
  | none => .ok (ofEnvironment env)
  | some path =>
    match read? path with
    | none => .error (.unexpected (.unreadableSettings path))
    | some text =>
      match Overrides.ofText? text with
      | none => .error (.unexpected .malformedSettings)
      | some o => .ok ((ofEnvironment env).withOverrides o)

end StoreSettings

end LeasedStore
