/-
Texts in the syntax of URLs: what stands behind the scheme, in its normal form.

* `Url.Fault`: why a text is no URL, and the wording;
* `Url.isAddress6`: the hosts between brackets;
* `Url.authority`: user, host and port, as the normal form writes them;
* `Url.path`: a path, the steps to a parent and to the place itself taken;
* `Url.normalize`: a text without blanks around it and line ends in it, authority and path in their
  normal form, all else as it is.
-/
import LeasedStore.Sql.JsonPath
import LeasedStore.Sql.Mapping
import LeasedStore.Text.Numeral

namespace LeasedStore.Url

/-- Why a text is no URL. -/
inductive Fault where
  | noScheme
  | emptyHost
  | badPort
  | badAddress6
  | badHostCharacter
  deriving DecidableEq, Repr

/-- The wording of a fault. -/
def Fault.message : Fault → String
  | noScheme => "relative URL without a base"
  | emptyHost => "empty host"
  | badPort => "invalid port number"
  | badAddress6 => "invalid IPv6 address"
  | badHostCharacter => "invalid domain character"

/-- Does the character end an authority or a path? -/
def isQueryStart (c : Char) : Bool := c = '?' || c = '#'

/-! ### Hosts -/

/-- Is the text a group of an address of version 6? -/
def isGroup (s : List Char) : Bool :=
  !s.isEmpty && s.length ≤ 4 && s.all fun c =>
    c.isDigit || ('a' ≤ c && c ≤ 'f') || ('A' ≤ c && c ≤ 'F')

/-- Is the text a part of an address of version 4? -/
def isOctet (s : List Char) : Bool :=
  match Numeral.digits? s with
  | some n => n < 256 && (s.length = 1 || s.head? ≠ some '0')
  | none => false

/-- Is the text an address of version 4? -/
def isAddress4 (s : List Char) : Bool :=
  (splitOn '.' s).length = 4 && (splitOn '.' s).all isOctet

/-- The number of groups that stand between single colons, if all of them are groups; an address of
version 4 may stand in place of the last two. -/
def groupCount? (mayEndIn4 : Bool) (s : List Char) : Option Nat :=
  if s.isEmpty then some 0
  else
    let parts := splitOn ':' s
    if parts.all isGroup then some parts.length
    else if mayEndIn4 && parts.dropLast.all isGroup && isAddress4 (parts.getLastD []) then
      some (parts.length + 1)
    else none

/-- The texts around the first double colon, if there is one. -/
def splitDouble : List Char → List Char × Option (List Char)
  | ':' :: ':' :: rest => ([], some rest)
  | c :: rest => (c :: (splitDouble rest).1, (splitDouble rest).2)
  | [] => ([], none)

/-- Is the text an address of version 6: eight groups, or fewer around a double colon? -/
def isAddress6 (s : List Char) : Bool :=
  match splitDouble s with
  | (all, none) => groupCount? true all = some 8
  | (left, some right) =>
    match groupCount? false left, groupCount? true right with
    | some m, some n => m + n < 8
    | _, _ => false

/-- May the character not stand in the name of a host? -/
def isForbiddenInHost (c : Char) : Bool :=
  ['\x00', '\t', '\n', '\r', ' ', '#', '/', ':', '<', '>', '?', '@', '[', '\\', ']', '^',
    '|'].contains c

/-- The characters of a host, up to a colon outside of brackets. -/
def hostOf (inside : Bool) : List Char → List Char
  | [] => []
  | c :: rest =>
    if c = ':' && !inside then []
    else c :: hostOf (if c = '[' then true else if c = ']' then false else inside) rest

/-- Tests a host. -/
def checkHost (host : List Char) : Except Fault Unit :=
  match host with
  | '[' :: rest =>
    if rest.getLast? = some ']' && isAddress6 rest.dropLast then .ok () else .error .badAddress6
  | _ => if host.any isForbiddenInHost then .error .badHostCharacter else .ok ()

/-! ### Authorities -/

/-- The text in front of the last at sign, if there is one, and the text behind it. -/
def splitUser (s : List Char) : Option (List Char) × List Char :=
  let parts := splitOn '@' s
  if parts.length < 2 then (none, s)
  else
    let host := parts.getLastD []
    (some (s.take (s.length - host.length - 1)), host)

/-- A user and a password as the normal form writes them: only the first colon stays one, and none
stands behind the user if there is no password. -/
def userText (user : List Char) : List Char :=
  let name := user.takeWhile (· ≠ ':')
  let password := (user.drop (name.length + 1)).flatMap fun c =>
    if c = ':' then ['%', '3', 'A'] else [c]
  let text := if password.isEmpty then name else name ++ ':' :: password
  if text.isEmpty then [] else text ++ ['@']

/-- The port behind a colon as the normal form writes it; none if no digits are there. -/
def portText (digits : List Char) : Except Fault (List Char) :=
  if !digits.all Char.isDigit then .error .badPort
  else
    let n := Nat.ofDigitChars 10 digits 0
    if UInt16.size ≤ n then .error .badPort
    else .ok (if digits.isEmpty then [] else ':' :: (Numeral.ofNat n).toList)

/-- User, host and port as the normal form writes them, and what stands behind the port in front of
the path; the text is all that stands in front of the first slash, question mark or hash. -/
def authority (s : List Char) (isAtEnd : Bool) : Except Fault (List Char × List Char) := do
  let (user, hostAndPort) := splitUser s
  if user = some [] && hostAndPort.isEmpty && !isAtEnd then throw .emptyHost
  let user := userText (user.getD [])
  let host := hostOf false hostAndPort
  checkHost host
  let port := hostAndPort.drop host.length
  if host.isEmpty && !port.isEmpty then throw .emptyHost
  let digits := (port.drop 1).takeWhile (· ≠ '\\')
  let port' ← portText digits
  if host.isEmpty && !user.isEmpty then throw .emptyHost
  return (user ++ host ++ port', (port.drop 1).drop digits.length)

/-! ### Paths -/

/-- Is the segment a step to the place itself? -/
def isHere (segment : List Char) : Bool :=
  [".", "%2e"].contains (String.ofList (segment.map Char.toLower))

/-- Is the segment a step to the parent? -/
def isParent (segment : List Char) : Bool :=
  ["..", ".%2e", "%2e.", "%2e%2e"].contains (String.ofList (segment.map Char.toLower))

/-- Does the segment look like a drive, which has no parent? -/
def isDrive : List Char → Bool
  | [c, d] => c.isAlpha && (d = ':' || d = '|')
  | _ => false

/-- The segments behind those that were passed, the latest first, with all steps taken. -/
def walk (passed : List (List Char)) : List (List Char) → List (List Char)
  | [] => passed.reverse
  | segment :: rest =>
    let passed' :=
      if isParent segment then
        match passed with
        | [] => []
        | last :: earlier => if isDrive last then passed else earlier
      else if isHere segment then passed
      else segment :: passed
    -- a step at the end leads to the place itself, which has no name
    if rest.isEmpty && (isParent segment || isHere segment) then passed'.reverse ++ [[]]
    else walk passed' rest

/-- The path of the text behind its first slash. -/
def path (s : List Char) : List Char := '/' :: ['/'].intercalate (walk [] (splitOn '/' s))

/-! ### The normal form -/

/-- A text without the line ends and tabs in it and the blanks around it. -/
def bare (s : List Char) : List Char :=
  (((s.dropWhile (· ≤ ' ')).reverse.dropWhile (· ≤ ' ')).reverse).filter fun c =>
    !(['\t', '\n', '\r'].contains c)

/-- The normal form of the text behind a scheme. -/
def normalize (rest : List Char) : Except Fault (List Char) :=
  match rest with
  | '/' :: '/' :: rest => do
    let behind := rest.dropWhile fun c => c ≠ '/' && !isQueryStart c
    let (site, extra) ← authority (rest.take (rest.length - behind.length)) behind.isEmpty
    let place := extra ++ behind.takeWhile fun c => !isQueryStart c
    let path := match place with
      | [] => []
      | '/' :: s => path s
      | s => path s
    return '/' :: '/' :: (site ++ path ++ behind.dropWhile fun c => !isQueryStart c)
  | '/' :: rest =>
    let path := path (rest.takeWhile fun c => !isQueryStart c)
    -- a path that starts with two slashes would read as an authority
    let path := if path.take 2 = ['/', '/'] then '/' :: '.' :: path else path
    .ok (path ++ rest.dropWhile fun c => !isQueryStart c)
  | s => .ok s

end LeasedStore.Url
