/-
The file that a database engine opens for a name, which may be a URI.

* `Opening`: the name, as bytes, how the file may be accessed, and the file system that is asked;
* `Opening.ofName`: the opening that a name asks for; behind `file:` stand a path and options;
* `Opening.attempt`: can the database be opened, where no file exists yet?

Files can be created in the current directory and in that of temporary files.
-/
import LeasedStore.Database.Error
import LeasedStore.Sql.JsonPath
import LeasedStore.Sql.Mapping
import LeasedStore.Text.Percent
import LeasedStore.Text.Utf8

namespace LeasedStore

/-- How a file may be accessed. -/
inductive Access where
  /-- As what is in memory alone is. -/
  | unspecified
  | readOnly | readWrite
  /-- Read and written, and created if it is missing. -/
  | create
  deriving DecidableEq, Repr

/-- How much an access allows. -/
def Access.rank : Access → Nat
  | unspecified => 0
  | readOnly => 1
  | readWrite => 2
  | create => 6

/-- What is opened, and how. -/
structure Opening where
  name : List Nat
  access : Access
  isInMemory : Bool
  /-- The name of the file system that is asked, if it is not the usual one. -/
  fileSystem : Option (List Nat)
  deriving DecidableEq, Repr

namespace Opening

/-- Bytes as a text. -/
def textOf (bytes : List Nat) : String := String.ofList (Text.Utf8.decodeLossy bytes)

/-! ### Names that are URIs -/

/-- The bytes of a part of a URI, which ends at its first NUL. -/
def partOf (bytes : List Nat) : List Nat := (Text.Percent.decode bytes).takeWhile (· ≠ 0)

/-- The parts of some bytes between the occurrences of one. -/
def splitBytes (b : Nat) : List Nat → List (List Nat)
  | [] => [[]]
  | x :: rest =>
    match splitBytes b rest with
    | [] => [[x]]
    | part :: parts => if x = b then [] :: part :: parts else (x :: part) :: parts

/-- An option: its key and its value, around the first equals sign. -/
def optionOf (bytes : List Nat) : List Nat × List Nat :=
  let key := bytes.takeWhile (· ≠ '='.toNat)
  (partOf key, partOf (bytes.drop (key.length + 1)))

/-- The access of an option; none if the value is none. -/
def accessOf? (value : String) : Option (Access × Bool) :=
  match value with
  | "ro" => some (.readOnly, false)
  | "rw" => some (.readWrite, false)
  | "rwc" => some (.create, false)
  | "memory" => some (.unspecified, true)
  | _ => none

/-- The opening with an option taken into account.  An option may take access away but not give more
than there is; what is in memory can be accessed in all ways. -/
def withOption (o : Opening) (key value : List Nat) : Except DatabaseError Opening :=
  match textOf key with
  | "vfs" => .ok { o with fileSystem := some value }
  | "cache" =>
    if ["shared", "private"].contains (textOf value) then .ok o
    else .error (.unknownMode "cache" (textOf value))
  | "mode" =>
    match accessOf? (textOf value) with
    | none => .error (.unknownMode "access" (textOf value))
    | some (access, isInMemory) =>
      if !o.isInMemory && o.access.rank < access.rank then
        .error (.modeNotAllowed "access" (textOf value))
      else .ok { o with access := access, isInMemory := isInMemory }
  | _ => .ok o

/-- The opening with some options taken into account. -/
def withOptions (o : Opening) : List (List Nat × List Nat) → Except DatabaseError Opening
  | [] => .ok o
  | (key, value) :: rest => do
    let o ← if key.isEmpty then .ok o else o.withOption key value
    withOptions o rest

/-- The path of a URI behind its authority, which is empty or this machine. -/
def behindAuthority (bytes : List Nat) : Except DatabaseError (List Nat) :=
  let slash := '/'.toNat
  if bytes.take 2 = [slash, slash] then
    let authority := (bytes.drop 2).takeWhile (· ≠ slash)
    if authority.isEmpty || authority = Text.bytes "localhost".toList then
      .ok (bytes.drop (2 + authority.length))
    else .error (.badAuthority (textOf authority))
  else .ok bytes

/-- The opening that the text behind `file:` asks for. -/
def ofUri (o : Opening) (bytes : List Nat) : Except DatabaseError Opening := do
  let rest := (← behindAuthority bytes).takeWhile (· ≠ '#'.toNat)
  let path := rest.takeWhile (· ≠ '?'.toNat)
  let options := splitBytes '&'.toNat (rest.drop (path.length + 1))
  withOptions { o with name := partOf path } (options.map optionOf)

/-- The start of a name that is a URI. -/
def uriStart : List Nat := Text.bytes "file:".toList

/-- The opening that a name asks for, beside what is asked for already. -/
def ofName (o : Opening) (name : List Nat) : Except DatabaseError Opening :=
  if name.take uriStart.length = uriStart then ofUri o (name.drop uriStart.length)
  else .ok { o with name := name }

/-! ### Places -/

/-- A place in the tree of files: below the current directory, below the root, or elsewhere. -/
inductive Place where
  | here (path : List (List Nat))
  | root (path : List (List Nat))
  | elsewhere
  deriving DecidableEq, Repr

/-- The place one step further, the steps being given backwards; the root is its own parent. -/
def Place.step (p : Place) (name : List Nat) : Place :=
  if name.isEmpty || name = Text.bytes ['.'] then p
  else if name = Text.bytes ['.', '.'] then
    match p with
    | here (_ :: path) => here path
    | root path => root (path.drop 1)
    | _ => elsewhere
  else
    match p with
    | here path => here (name :: path)
    | root path => root (name :: path)
    | elsewhere => elsewhere

/-- The place of a path. -/
def placeOf (name : List Nat) : Place :=
  let start := if name.head? = some '/'.toNat then Place.root [] else .here []
  (splitBytes '/'.toNat name).foldl Place.step start

/-- The longest name of a file. -/
def maxName : Nat := 255

/-- The directory of temporary files. -/
def temporary : List Nat := Text.bytes "tmp".toList

/-- Can a file be opened at a path, where no file exists yet? -/
def attemptFile (access : Access) (name : List Nat) : Except DatabaseError Unit :=
  let file (n : List Nat) : Except DatabaseError Unit :=
    if access = .create && n.length ≤ maxName then .ok () else .error .cannotOpen
  let directory : Except DatabaseError Unit :=
    if access = .readOnly then .error .diskFault else .error .cannotOpen
  if (splitBytes '/'.toNat name).any fun n => maxName < n.length then .error .cannotOpen
  else
    match placeOf name with
    | .here [] => directory
    | .here [n] => file n
    | .root [n] => if n = temporary then directory else .error .cannotOpen
    | .root [n, parent] => if parent = temporary then file n else .error .cannotOpen
    | _ => .error .cannotOpen

/-! ### File systems -/

/-- The file systems of files on disk. -/
def diskSystems : List String := ["unix", "unix-none", "unix-dotfile", "unix-excl"]

/-- The file system of files in memory, and the longest name that it knows. -/
def memorySystem : String := "memdb"

/-- The longest name of a file in memory. -/
def maxMemoryName : Nat := 1016

/-- Can the database be opened, where no file exists yet?  A name is not looked at for what is in
memory, and a file without a name is a temporary one. -/
def attempt (o : Opening) : Except DatabaseError Unit :=
  let system := (o.fileSystem.map textOf).getD "unix"
  if !(memorySystem :: diskSystems).contains system then .error (.unknownFileSystem system)
  else if o.isInMemory || o.name.isEmpty || o.name = Text.bytes ":memory:".toList then .ok ()
  else if system = memorySystem then
    if o.name.length ≤ maxMemoryName then .ok () else .error .cannotOpen
  else attemptFile o.access o.name

end Opening

end LeasedStore
