import FieldQuery.Json.Text
import FieldQuery.Mapping
import FieldQuery.Yaml.Format

/-!
# Mapping profile texts

Mapping profiles are read from JSON or YAML.
-/

namespace FieldQuery

inductive ProfileError where
  | yaml
  | json
  deriving DecidableEq, Repr

def ProfileError.message : ProfileError → String
  | .yaml => "Invalid mapping profile YAML"
  | .json => "Invalid mapping profile JSON"

def MappingItem.memberNames : List String :=
  ["source_type", "source_property_path", "destination_type", "destination_property_path"]

/-- All four members are needed. -/
def MappingItem.ofFormat? {V : Type} (f : Format V) (v : V) : Option MappingItem := do
  let entries ← f.members? memberNames v
  let text? (name : String) : Option String := do f.text? (← entries.lookup name)
  return {
    sourceType := ← text? "source_type"
    sourcePath := ← text? "source_property_path"
    destinationType := ← text? "destination_type"
    destinationPath := ← text? "destination_property_path" }

namespace MappingProfile

def memberNames : List String := ["mappings"]

/-- Without mappings the profile is empty. -/
def ofFormat? {V : Type} (f : Format V) (v : V) : Option MappingProfile := do
  let entries ← f.members? memberNames v
  match entries.lookup "mappings" with
  | none => return empty
  | some list =>
    let items ← f.list? list
    return ⟨← items.mapM (MappingItem.ofFormat? f)⟩

def ofJson (text : String) : Except ProfileError MappingProfile :=
  match (JsonText.ofText? text).bind (ofFormat? JsonText.format) with
  | some p => .ok p
  | none => .error .json

/-- A text without any document is an empty profile. -/
def ofYaml (text : String) : Except ProfileError MappingProfile :=
  match Yaml.Document.ofText? text with
  | some none => .ok empty
  | some (some d) =>
    let inItem := d.aliasesInFields MappingItem.memberNames Yaml.Document.aliasesIn
    match ofFormat? d.format d.root with
    | some p =>
      if d.allows (d.aliasesInFields memberNames (d.aliasesInItems inItem) d.root) then .ok p
      else .error .yaml
    | none => .error .yaml
  | none => .error .yaml

end MappingProfile

end FieldQuery
