/-
The document of a YAML text.

* `readDocument`: the one document of a text, which may be empty; none if the text is no YAML or has
  several documents.
-/
import LeasedStore.Yaml.Node.Grammar
import LeasedStore.Yaml.Token.Lexer

namespace LeasedStore.Yaml

/-- The one document of a text, references among its members being followed. -/
def readDocument (s : String) : Option (Option Node) := do
  let cs ← uniform? s
  let tokens ← Token.ofText? cs
  let root ← Node.ofTokens? tokens
  return root.map Node.unfolded

end LeasedStore.Yaml
