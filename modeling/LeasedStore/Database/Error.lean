/-
What a database reports.

* `DatabaseError`: the causes;
* `DatabaseError.message`: their wording, result code included;
* `DatabaseError.isUniqueViolation`: was a row refused because its key is taken?
-/
import LeasedStore.Text.Numeral

namespace LeasedStore

/-- The types under which a database hands out values. -/
inductive ValueType where
  | text | bigInt | double
  deriving DecidableEq, Repr

/-- The name of a type in SQL. -/
def ValueType.sql : ValueType → String
  | text => "TEXT"
  | bigInt => "BIGINT"
  | double => "DOUBLE"

/-- The name of the type that a program reads such values as. -/
def ValueType.native : ValueType → String
  | text => "alloc::string::String"
  | bigInt => "i64"
  | double => "f64"

/-- The name of a type in front of a null of it. -/
def ValueType.nullName : ValueType → String
  | text => "Text"
  | bigInt => "BigInt"
  | double => "Double"

/-- Why a column does not give the value that was asked for. -/
inductive ColumnFault where
  /-- A value of one type where another is wanted. -/
  | mismatch (wanted found : ValueType)
  /-- A null where a value is wanted. -/
  | null (wanted : ValueType)
  deriving DecidableEq, Repr

/-- The wording of a column fault. -/
def ColumnFault.message : ColumnFault → String
  | mismatch wanted found =>
    "mismatched types; Rust type `" ++ wanted.native ++ "` is not compatible with SQL type `" ++
      found.sql ++ "`"
  | null wanted => "expected " ++ wanted.sql ++ ", got Null(" ++ wanted.nullName ++ ")"

/-- What a database reports. -/
inductive DatabaseError where
  | noSuchTable (table : String)
  | noSuchColumn (column : String)
  | malformedJson
  | badJsonPath (path : String)
  /-- A text that is no SQL, from some word on. -/
  | badSql (word : String)
  | tooManyPlaces
  | tooDeep
  | overlongPattern
  | uniqueViolation (table column : String)
  | notNullViolation (table column : String)
  | poolClosed
  | unreadableColumn (column : String) (fault : ColumnFault)
  | cannotOpen
  /-- Something other than a file is read as one. -/
  | diskFault
  | unknownFileSystem (name : String)
  /-- The file of a URI is on another machine. -/
  | badAuthority (name : String)
  | unknownMode (kind mode : String)
  | modeNotAllowed (kind mode : String)
  | nulInFileName
  /-- A database address that is no address. -/
  | badAddress (reason : String)
  deriving DecidableEq, Repr

namespace DatabaseError

/-- A report with its result code. -/
def coded (code : Nat) (text : String) : String :=
  "error returned from database: (code: " ++ Numeral.ofNat code ++ ") " ++ text

/-- A text between single quotes, those inside it doubled. -/
def sqlQuoted (s : String) : String :=
  String.ofList ('\'' :: (s.toList.flatMap fun c => if c = '\'' then [c, c] else [c]) ++ ['\''])

/-- The wording of a report. -/
def message : DatabaseError → String
  | noSuchTable t => coded 1 ("no such table: " ++ t)
  | noSuchColumn c => coded 1 ("no such column: " ++ c)
  | malformedJson => coded 1 "malformed JSON"
  | badJsonPath path => coded 1 ("bad JSON path: " ++ sqlQuoted path)
  | badSql word => coded 1 ("near \"" ++ word ++ "\": syntax error")
  | tooManyPlaces => coded 1 "too many SQL variables"
  | tooDeep => coded 1 "Expression tree is too large (maximum depth 1000)"
  | overlongPattern => coded 1 "LIKE or GLOB pattern too complex"
  | uniqueViolation t c => coded 1555 ("UNIQUE constraint failed: " ++ t ++ "." ++ c)
  | notNullViolation t c => coded 1299 ("NOT NULL constraint failed: " ++ t ++ "." ++ c)
  | poolClosed => "attempted to acquire a connection on a closed pool"
  | unreadableColumn c fault =>
    "error occurred while decoding column \"" ++ c ++ "\": " ++ fault.message
  | cannotOpen => coded 14 "unable to open database file"
  | diskFault => coded 266 "disk I/O error"
  | unknownFileSystem name => coded 1 ("no such vfs: " ++ name)
  | badAuthority name => coded 1 ("invalid uri authority: " ++ name)
  | unknownMode kind mode => coded 1 ("no such " ++ kind ++ " mode: " ++ mode)
  | modeNotAllowed kind mode => coded 3 (kind ++ " mode not allowed: " ++ mode)
  | nulInFileName =>
    "error communicating with database: filename passed to SQLite must not contain nul bytes"
  | badAddress reason => "error with configuration: " ++ reason

/-- Was a row refused because its key is taken? -/
def isUniqueViolation : DatabaseError → Bool
  | uniqueViolation .. => true
  | _ => false

end DatabaseError

end LeasedStore
