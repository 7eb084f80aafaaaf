import ServiceClient.Yaml.Layout
import ServiceClient.Yaml.Value

/-!
# YAML documents

A text holds at most one document, and that document is a table.
-/

namespace ServiceClient.Yaml

/-- The table of the document in a text; a text without a document holds an empty one. -/
def parse? (s : String) : Option Json := do
  let tokens ← Token.ofText? s.toList
  match ← Node.ofTokens? tokens with
  | none => return .object []
  | some root => root.rootTable?

end ServiceClient.Yaml
