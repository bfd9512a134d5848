/-
Counters of what the stores and lease managers did.

* `Counter`: leases acquired, leases refused and entities written, each by kind;
* `Counters`: how often each of them was counted;
* `Counter.series`: the name of a counter in the text format of its exporter.
-/
namespace LeasedStore

/-- How an entity is written. -/
inductive Mutation where
  | create | update | delete
  deriving DecidableEq, Repr

/-- The name of a way of writing. -/
def Mutation.name : Mutation → String
  | create => "create"
  | update => "update"
  | delete => "delete"

/-- What is counted, for each kind of entities. -/
inductive Counter where
  | leaseAcquired (kind : String)
  | leaseConflict (kind : String)
  | mutation (kind : String) (op : Mutation)
  deriving DecidableEq, Repr

/-- How often each counter was counted, as the list of all counts. -/
structure Counters where
  events : List Counter
  deriving DecidableEq, Repr

namespace Counters

/-- Nothing was counted. -/
def empty : Counters := ⟨[]⟩

/-- One more count. -/
def bump (cs : Counters) (c : Counter) : Counters := ⟨c :: cs.events⟩

/-- How often a counter was counted. -/
def get (cs : Counters) (c : Counter) : Nat := cs.events.count c

/-- The counters that were counted, each once. -/
def counted (cs : Counters) : List Counter := cs.events.eraseDups

end Counters

namespace Counter

/-! ### Names of series -/

/-- The text of a label inside its quotes.  Quotes, backslashes and line ends are escaped; a
backslash is held back until the next character shows whether it is already an escape. -/
def labelChars (held : Bool) : List Char → List Char
  | [] => if held then ['\\', '\\'] else []
  | '\n' :: rest => '\\' :: 'n' :: labelChars held rest
  | '"' :: rest => '\\' :: '"' :: labelChars false rest
  | '\\' :: rest =>
    if held then '\\' :: '\\' :: labelChars false rest else labelChars true rest
  | c :: rest =>
    if held then '\\' :: '\\' :: c :: labelChars false rest else c :: labelChars false rest

/-- A label with its value. -/
def label (name value : String) : String :=
  name ++ "=\"" ++ String.ofList (labelChars false value.toList) ++ "\""

/-- A name with its labels. -/
def seriesOf (name : String) (labels : List String) : String :=
  name ++ "\x7b" ++ ",".intercalate labels ++ "\x7d"

/-- The name of a counter with its labels. -/
def series : Counter → String
  | leaseAcquired kind => seriesOf "harbor_lease_acquired_total" [label "kind" kind]
  | leaseConflict kind => seriesOf "harbor_lease_conflicts_total" [label "kind" kind]
  | mutation kind op =>
    seriesOf "harbor_store_mutations_total" [label "kind" kind, label "op" op.name]

end Counter

end LeasedStore
