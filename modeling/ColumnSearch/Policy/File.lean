import ColumnSearch.Policy.Json
import ColumnSearch.Storage
import ColumnSearch.Yaml.Document

/-!
# Policy files

A policy is kept in a JSON file, if its extension says so, and in a YAML file otherwise. YAML has a
mapping in place of the object; an empty document is the default policy.
-/

namespace ColumnSearch

namespace Policy

/-- The text of a scalar that denotes a value of the kind with the given tag: a plain one, or a
literal one that bears the tag. -/
def scalarText? (kind : String) : Yaml.Node Nat → Option String
  | .scalar .plain _ text => some text
  | .scalar .literal (some tag) text => if tag = Yaml.Tag.ofString kind then some text else none
  | _ => none

/-- The count a YAML node denotes. -/
def nodeCount? (node : Yaml.Node Nat) : Option UInt64 :=
  (scalarText? "tag:yaml.org,2002:int" node).bind Yaml.count?

/-- The flag a YAML node denotes. -/
def nodeFlag? (node : Yaml.Node Nat) : Option Bool :=
  (scalarText? "tag:yaml.org,2002:bool" node).bind Yaml.flag?

/-- The name a YAML node spells as a key. -/
def nodeName? : Yaml.Node Nat → Option String
  | .scalar _ _ text => some text
  | _ => none

/-- Reads a policy from a YAML document. -/
def ofYaml? (document : Yaml.Document) : Option Policy :=
  match document.root with
  | .scalar .plain _ "" => some {}
  | .mapping fields => do
    ofFields? nodeCount? nodeFlag? (← fields.mapM fun (key, value) =>
      (nodeName? (document.follow key)).map (·, document.follow value))
  | _ => none

/-- Reads a policy from YAML text. -/
def parseYaml? (s : String) : Option Policy :=
  (Yaml.Document.parse? s).bind ofYaml?

end Policy

/-- What is wrong with a policy file. -/
inductive PolicyFileError.Cause where
  | unreadable
  | invalidJson
  | invalidYaml
  deriving DecidableEq, Repr

/-- A policy file that cannot be used. -/
structure PolicyFileError where
  cause : PolicyFileError.Cause
  path : String
  deriving DecidableEq, Repr

/-- The wording of an error. -/
def PolicyFileError.message (error : PolicyFileError) : String :=
  match error.cause with
  | .unreadable => "failed to read config " ++ error.path
  | .invalidJson => "invalid JSON config " ++ error.path
  | .invalidYaml => "invalid YAML config " ++ error.path

namespace Policy

/-- The path of a policy file has the extension of JSON files, in any ASCII case. -/
def isJsonPath (path : String) : Bool :=
  (Path.extension? path).any fun extension => extension.toList.map Char.toLower = "json".toList

/-- Reads the policy file of the given path. -/
def load (storage : Storage) (path : String) : Except PolicyFileError Policy :=
  match storage.read path with
  | none => .error ⟨.unreadable, path⟩
  | some text =>
    if isJsonPath path then
      (parseJson? text).elim (.error ⟨.invalidJson, path⟩) .ok
    else
      (parseYaml? text).elim (.error ⟨.invalidYaml, path⟩) .ok

end Policy

end ColumnSearch
