import ColumnSearch.Yaml.Token

/-!
# YAML nodes

A node may be anchored by a name, and other places may refer to it. The nodes of a document as it is
written refer to names; how the references are understood is for the document to say.
-/

namespace ColumnSearch.Yaml

/-- A YAML node with references of the given type. -/
inductive Node (Link : Type) where
  | scalar (style : Style) (tag : Option Tag) (text : String)
  | sequence (items : List (Node Link))
  | mapping (fields : List (Node Link × Node Link))
  | anchored (name : String) (node : Node Link)
  | link (target : Link)
  deriving Repr

namespace Node

/-- The node of a value that is left out. -/
def absent {Link : Type} : Node Link :=
  scalar .plain none ""

/-- The node with an anchor if a name is given. -/
def withAnchor {Link : Type} (name : Option String) (node : Node Link) : Node Link :=
  name.elim node (anchored · node)

end Node

end ColumnSearch.Yaml
