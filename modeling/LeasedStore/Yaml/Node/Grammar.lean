/-
The nodes that tokens form.

* `Reading`: the tokens that are still to be read, and the names of nodes that were given so far;
* `Grammar.node`: a node;
* `Node.ofTokens?`: the one document of some tokens, which may be empty.
-/
import LeasedStore.Yaml.Node.Basic
import LeasedStore.Yaml.Token.Basic

namespace LeasedStore.Yaml

/-- The tokens that are still to be read, what handles stand for, and the labels of the names. -/
structure Reading where
  tokens : List Token
  handles : Handles
  names : List (String × Nat)

/-- Reading nodes; it fails on tokens that form none. -/
abbrev Grammar (α : Type) := StateT Reading Option α

/-- The place of a node, which says what it may be. -/
inductive Context where
  /-- Inside brackets: a scalar, or a collection in brackets. -/
  | flow
  /-- An item: any collection. -/
  | item
  /-- A key or a value: also a sequence whose items are not indented any further. -/
  | member
  deriving DecidableEq, Repr

/-- The name and the tag of a node. -/
structure Marks where
  anchor : Option String
  tag : Option Tag
  deriving DecidableEq, Repr

namespace Grammar

/-! ### Tokens -/

/-- The next token. -/
def peek : Grammar (Option Token) := do return (← get).tokens.head?

/-- Pass the next token. -/
def skip : Grammar Unit := modify fun r => { r with tokens := r.tokens.drop 1 }

/-- Pass the next token, which is the result. -/
def pass : Grammar (Option Token) := do
  let t ← peek
  skip
  return t

/-- Pass a comma. -/
def passComma : Grammar Unit := do
  if (← pass) = some .comma then return () else failure

/-! ### Names and tags -/

/-- The label of a name. -/
def labelOf (name : String) : Grammar Nat := do
  match (← get).names.lookup name with
  | some label => return label
  | none => failure

/-- The label of a node with a name; from here on the name refers to the node.  The label is the
number of the different names that were given before. -/
def newLabel (name : String) : Grammar Nat := do
  let names := (← get).names
  modify fun r => { r with names := (name, names.length) :: names.filter (·.1 ≠ name) }
  return names.length

/-- The name and the tag that come next, in either order. -/
def marks : Grammar Marks := do
  match (← get).tokens with
  | .anchor name :: .tag t :: _ => skip; skip; return ⟨some name, some t⟩
  | .tag t :: .anchor name :: _ => skip; skip; return ⟨some name, some t⟩
  | .anchor name :: _ => skip; return ⟨some name, none⟩
  | .tag t :: _ => skip; return ⟨none, some t⟩
  | _ => return ⟨none, none⟩

/-- The tag that is meant. -/
def resolve (t : Option Tag) : Grammar (Option String) := do
  match t with
  | none => return none
  | some t =>
    match t.resolve? (← get).handles with
    | some tag => return some tag
    | none => failure

/-! ### Nodes -/

/-- Does the token end an item? -/
def endsItem : Option Token → Bool
  | some .entry | some .collectionEnd => true
  | _ => false

/-- Does the token end a key or a value? -/
def endsMember : Option Token → Bool
  | some .key | some .value | some .collectionEnd => true
  | _ => false

/-- Does the token end an item inside brackets? -/
def endsFlowItem : Option Token → Bool
  | some .comma | some .closeBracket => true
  | _ => false

/-- Does the token end a key or a value inside braces? -/
def endsFlowMember : Option Token → Bool
  | some .comma | some .closeBrace => true
  | _ => false

mutual

/-- A node. -/
def node : Nat → Context → Grammar Node
  | 0, _ => failure
  | n + 1, context => do
    if let some (.reference name) ← peek then
      skip
      return .reference (← labelOf name)
    let m ← marks
    let tag ← resolve m.tag
    let label ← m.anchor.mapM newLabel
    match ← peek, context with
    | some .entry, .member => return .sequence label (← flushItems n)
    | some (.scalar style text), _ => skip; return .scalar label ⟨style, tag, text⟩
    | some .openBracket, _ => skip; return .sequence label (← flowItems n true)
    | some .openBrace, _ => skip; return .mapping label (← flowMembers n true)
    | some .sequenceStart, .item | some .sequenceStart, .member =>
      skip
      return .sequence label (← items n)
    | some .mappingStart, .item | some .mappingStart, .member =>
      skip
      return .mapping label (← members n)
    | _, _ =>
      if m = ⟨none, none⟩ then failure else return .scalar label ⟨.plain, tag, ""⟩

/-- A node, or none at all if the next token ends it. -/
def nodeUnless : Nat → (Option Token → Bool) → Context → Grammar Node
  | 0, _, _ => failure
  | n + 1, ends, context => do
    if ends (← peek) then return .empty else node n context

/-- The items of a sequence up to its end. -/
def items : Nat → Grammar (List Node)
  | 0 => failure
  | n + 1 => do
    match ← pass with
    | some .entry =>
      let item ← nodeUnless n endsItem .item
      return item :: (← items n)
    | some .collectionEnd => return []
    | _ => failure

/-- The items of a sequence that is not indented: all that come next. -/
def flushItems : Nat → Grammar (List Node)
  | 0 => failure
  | n + 1 => do
    if (← peek) = some .entry then
      skip
      let item ← nodeUnless n (fun t => endsItem t || endsMember t) .item
      return item :: (← flushItems n)
    else return []

/-- The members of a mapping up to its end. -/
def members : Nat → Grammar (List (Node × Node))
  | 0 => failure
  | n + 1 => do
    match ← pass with
    | some .key =>
      let key ← nodeUnless n endsMember .member
      let value ← valueUnless n endsMember .member
      return (key, value) :: (← members n)
    | some .collectionEnd => return []
    | _ => failure

/-- The value of a member, or none at all if no colon comes next or the token behind it ends it. -/
def valueUnless : Nat → (Option Token → Bool) → Context → Grammar Node
  | 0, _, _ => failure
  | n + 1, ends, context => do
    if (← peek) = some .value then
      skip
      nodeUnless n ends context
    else return .empty

/-- The items of a sequence up to its bracket; all but the first stand behind a comma. -/
def flowItems : Nat → (isFirst : Bool) → Grammar (List Node)
  | 0, _ => failure
  | n + 1, isFirst => do
    if (← peek) = some .closeBracket then
      skip
      return []
    if !isFirst then passComma
    match ← peek with
    | some .closeBracket =>
      skip
      return []
    | some .key =>
      skip
      let item ← pair n
      return item :: (← flowItems n false)
    | _ =>
      let item ← node n .flow
      return item :: (← flowItems n false)

/-- An item that is a mapping of one member without braces; an empty key takes the token behind it
with it. -/
def pair : Nat → Grammar Node
  | 0 => failure
  | n + 1 => do
    let t ← peek
    if t = some .value || endsFlowItem t then
      skip
      return .mapping none [(.empty, ← valueUnless n endsFlowItem .flow)]
    else
      let key ← node n .flow
      return .mapping none [(key, ← valueUnless n endsFlowItem .flow)]

/-- The members of a mapping up to its brace; all but the first stand behind a comma. -/
def flowMembers : Nat → (isFirst : Bool) → Grammar (List (Node × Node))
  | 0, _ => failure
  | n + 1, isFirst => do
    if (← peek) = some .closeBrace then
      skip
      return []
    if !isFirst then passComma
    match ← peek with
    | some .closeBrace =>
      skip
      return []
    | some .key =>
      skip
      let key ← nodeUnless n (fun t => t = some .value || endsFlowMember t) .flow
      let value ← valueUnless n endsFlowMember .flow
      return (key, value) :: (← flowMembers n false)
    | _ =>
      let key ← node n .flow
      return (key, .empty) :: (← flowMembers n false)

end

/-! ### Documents -/

/-- Is the token a directive, or the mark in front of a document? -/
def startsDocument : Token → Bool
  | .directive _ | .documentStart => true
  | _ => false

/-- What some directives say about handles; each handle and the version may be given once, and there
are two versions. -/
def handles? : (hasVersion : Bool) → Handles → List Directive → Option Handles
  | _, handles, [] => some handles
  | hasVersion, handles, .version major minor :: rest =>
    if !hasVersion && major = 1 && (minor = 1 || minor = 2) then handles? true handles rest
    else none
  | hasVersion, handles, .handle name meaning :: rest =>
    if (handles.lookup name).isSome then none
    else handles? hasVersion ((name, meaning) :: handles) rest

/-- The directive that a token is. -/
def directive? : Token → Option Directive
  | .directive d => some d
  | _ => none

/-- What stands behind the mark in front of a document. -/
def content (n : Nat) : Grammar Node :=
  nodeUnless n (fun t => t.all fun t => startsDocument t || t = .documentEnd) .item

/-- A document behind its directives, and all the marks behind it. -/
def document? (handles : Handles) (tokens : List Token) (read : Nat → Grammar Node) :
    Option Node := do
  let (root, r) ← (read (4 * tokens.length + 4)).run ⟨tokens, handles, []⟩
  if r.tokens.all (· = .documentEnd) then return root else none

end Grammar

/-- The one document of some tokens, none if there are no tokens.  Directives need a mark behind
them. -/
def Node.ofTokens? (tokens : List Token) : Option (Option Node) :=
  if tokens.isEmpty then some none
  else if tokens.head?.any Grammar.startsDocument then do
    let (directives, rest) := tokens.span fun t => (Grammar.directive? t).isSome
    let handles ← Grammar.handles? false [] (directives.filterMap Grammar.directive?)
    if rest.head? = some .documentStart then
      some <$> Grammar.document? handles (rest.drop 1) Grammar.content
    else none
  else some <$> Grammar.document? [] tokens fun n => Grammar.node n .item

end LeasedStore.Yaml
