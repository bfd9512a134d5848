/-
Addresses of databases that live in memory or in a file.

* `Address`: the name of a file, how it is opened, and the options that its name is given;
* `Address.withParameters`: the parameters behind the question mark of an address;
* `Address.parse`: the address of a text, or what is wrong with it;
* `Address.openingName`: the name under which the file is opened;
* `Address.connect`: the dialect of a database that can be opened.
-/
import LeasedStore.Database.FileUri
import LeasedStore.Database.Url
import LeasedStore.Sql.Dialect
import LeasedStore.Text.Graphic

namespace LeasedStore

/-- The address of a database. -/
structure Address where
  /-- The name of the file, as bytes. -/
  name : List Nat
  isInMemory : Bool
  isReadOnly : Bool
  /-- Is a missing file created? -/
  isCreated : Bool
  isImmutable : Bool
  /-- The file system that is asked, if it is not the usual one. -/
  fileSystem : Option String
  deriving DecidableEq, Repr

namespace Address

/-- A refusal of a text. -/
def refuse {α : Type} (reason : String) : Except DatabaseError α := .error (.badAddress reason)

/-! ### Parameters -/

/-- The address with a parameter taken into account. -/
def withParameter (a : Address) (key value : String) : Except DatabaseError Address :=
  let unknown : Except DatabaseError Address :=
    refuse ("unknown value " ++ Text.shown value ++ " for `" ++ key ++ "`")
  match key with
  | "mode" =>
    match value with
    | "ro" => .ok { a with isReadOnly := true }
    | "rw" => .ok a
    | "rwc" => .ok { a with isCreated := true }
    | "memory" => .ok { a with isInMemory := true }
    | _ => unknown
  | "cache" => if ["private", "shared"].contains value then .ok a else unknown
  | "immutable" =>
    match value with
    | "true" | "1" => .ok { a with isImmutable := true }
    | "false" | "0" => .ok { a with isImmutable := false }
    | _ => unknown
  | "vfs" => .ok { a with fileSystem := some value }
  | _ => refuse ("unknown query parameter `" ++ key ++ "` while parsing connection URL")

/-- The text of a value of a form. -/
def formText (s : List Char) : String :=
  String.ofList (Text.Utf8.decodeLossy (Text.Percent.formDecode (Text.bytes s)))

/-- The address with some parameters taken into account, each a key and a value around the first
equals sign. -/
def withParameters (a : Address) : List (List Char) → Except DatabaseError Address
  | [] => .ok a
  | p :: rest =>
    if p.isEmpty then withParameters a rest
    else do
      let key := p.takeWhile (· ≠ '=')
      let a ← a.withParameter (formText key) (formText (p.drop (key.length + 1)))
      withParameters a rest

/-! ### Addresses -/

/-- A text without all occurrences of another one at its start. -/
def trimStarts (start : List Char) : Nat → List Char → List Char
  | 0, s => s
  | fuel + 1, s =>
    match stripStart? start s with
    | some rest => trimStarts start fuel rest
    | none => s

/-- The address in a normal form. -/
def ofNormal (url : List Char) : Except DatabaseError Address := do
  let s := trimStarts "sqlite://".toList url.length url
  let s := trimStarts "sqlite:".toList s.length s
  let database := s.takeWhile (· ≠ '?')
  let bytes := Text.Percent.decode (Text.bytes database)
  let isInMemory := database = ":memory:".toList
  match Text.Utf8.decode bytes with
  | .error flaw => refuse flaw.message
  | .ok _ =>
    withParameters ⟨bytes, isInMemory, false, false, false, none⟩
      (splitOn '&' (s.drop (database.length + 1)))

/-- The address of a text. -/
def parse (url : String) : Except DatabaseError Address := do
  let s := Url.bare url.toList
  let scheme := s.takeWhile (· ≠ ':')
  match (s.drop scheme.length).drop 1 |> Url.normalize with
  | .error f => refuse f.message
  | .ok rest =>
    if scheme.length = s.length then refuse Url.Fault.noScheme.message
    else ofNormal (scheme ++ ':' :: rest)

/-! ### Opening -/

/-- The options that are passed on with the name, as a form. -/
def options (a : Address) : List (List Nat) :=
  (if a.isImmutable then [Text.bytes "immutable=true".toList] else []) ++
    (a.fileSystem.toList.map fun v =>
      Text.bytes "vfs=".toList ++ Text.Percent.formEncode (Text.bytes v.toList))

/-- The name under which the file is opened: a URI where options are passed on. -/
def openingName (a : Address) : Except DatabaseError (List Nat) :=
  let name :=
    if a.options.isEmpty then a.name
    else
      Opening.uriStart ++ Text.Percent.encode a.name ++ '?'.toNat ::
        ['&'.toNat].intercalate a.options
  if name.contains 0 then .error .nulInFileName else .ok name

/-- How the file is accessed. -/
def access (a : Address) : Access :=
  if a.isReadOnly then .readOnly else if a.isCreated then .create else .readWrite

/-- Tries to open the database. -/
def attempt (a : Address) : Except DatabaseError Unit := do
  let name ← a.openingName
  let opening ← Opening.ofName ⟨[], a.access, a.isInMemory, none⟩ name
  opening.attempt

/-- The dialect of the database at an address, if it can be opened. -/
def connect (url : String) : Except StoreError Dialect := do
  let dialect ← Dialect.ofUrl url
  (do (← parse url).attempt : Except DatabaseError Unit).mapError StoreError.database
  return dialect

end Address

end LeasedStore
