import SupplyGraph.Template.Json
import SupplyGraph.Template.Yaml

/-!
The two text formats of template documents.
-/

namespace SupplyGraph.Template

inductive TextFormat where
  | json
  | yaml
deriving DecidableEq, Repr

namespace TextFormat

/-- The document that a text in the format holds. -/
def read? : TextFormat → String → Option Document
  | json, text => Document.ofJsonText? text
  | yaml, text => Document.ofYamlText? text

/-- How it is reported that a text in the format holds no document, up to the colon behind which the
decoder says what is wrong with the text; that detail is left out. -/
def failureMessage : TextFormat → String
  | json => "JSON decode error:"
  | yaml => "YAML decode error:"

end TextFormat

end SupplyGraph.Template
