import SupplyGraph.Template.Decoder
import SupplyGraph.Yaml.Reading

/-!
Template documents as YAML texts.
-/

namespace SupplyGraph

/-- The values of the format are nodes; they are read with a budget for aliases. -/
instance : Template.Format Yaml.Reading (Yaml.Node Nat) where
  refuse := failure
  text := Yaml.text
  flag := Yaml.flag
  integer := Yaml.integer
  present? := Yaml.present?
  items := Yaml.items
  members := Yaml.members

namespace Template

/-- The template document that a YAML text stands for. -/
def Document.ofYamlText? (text : String) : Option Document := do
  (← Yaml.Document.ofText? text).read (Document.decode Yaml.depthLimit)

end Template

end SupplyGraph
