/-
Tokens of YAML: the smallest parts of a text that mean something.
-/
import LeasedStore.Yaml.Scalar.Basic
import LeasedStore.Yaml.Tag

namespace LeasedStore.Yaml

/-- A token. -/
inductive Token where
  | directive (d : Directive)
  | documentStart | documentEnd
  /-- Here starts a sequence or a mapping that is structured by columns. -/
  | sequenceStart | mappingStart
  /-- Here ends one. -/
  | collectionEnd
  /-- Here starts an item. -/
  | entry
  /-- Here starts a key, or a value. -/
  | key | value
  | openBracket | closeBracket | openBrace | closeBrace | comma
  | anchor (name : String)
  | reference (name : String)
  | tag (t : Tag)
  | scalar (style : Style) (text : String)
  deriving DecidableEq, Repr

end LeasedStore.Yaml
