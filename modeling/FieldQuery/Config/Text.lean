import FieldQuery.Config
import FieldQuery.Json.Text
import FieldQuery.Text.Digits
import FieldQuery.Yaml.Format

/-!
# Configuration texts

Configuration is read from JSON, from YAML, or from environment variables. What is not given keeps
its default.
-/

namespace FieldQuery

inductive ConfigError where
  | yaml
  | json
  /-- The variable for the recursion level is no number. -/
  | level
  deriving DecidableEq, Repr

def ConfigError.message : ConfigError → String
  | .yaml => "Invalid query arguments YAML configuration"
  | .json => "Invalid query arguments JSON configuration"
  | .level => "Invalid QUERY_ARGS_MAX_RECURSION_LEVEL"

namespace Config

def memberNames : List String :=
  ["max_recursion_level", "support_list_graph_type", "order_by_argument", "page_argument",
    "page_size_argument"]

/-- The configuration with one member set; a name that is not known sets nothing. -/
def set? {V : Type} (f : Format V) (c : Config) (entry : String × V) : Option Config :=
  let (name, v) := entry
  if name = "max_recursion_level" then
    (f.natural? v).map fun n => { c with maxRecursionLevel := n }
  else if name = "support_list_graph_type" then
    (f.boolean? v).map fun b => { c with supportListGraphType := b }
  else if name = "order_by_argument" then
    (f.text? v).map fun s => { c with orderByArgument := s }
  else if name = "page_argument" then
    (f.text? v).map fun s => { c with pageArgument := s }
  else if name = "page_size_argument" then
    (f.text? v).map fun s => { c with pageSizeArgument := s }
  else some c

def ofFormat? {V : Type} (f : Format V) (v : V) : Option Config := do
  let entries ← f.members? memberNames v
  entries.foldlM (set? f) default

def ofJson (text : String) : Except ConfigError Config :=
  match (JsonText.ofText? text).bind (ofFormat? JsonText.format) with
  | some c => .ok c
  | none => .error .json

/-- A text without any document gives the defaults. -/
def ofYaml (text : String) : Except ConfigError Config :=
  match Yaml.Document.ofText? text with
  | some none => .ok default
  | some (some d) =>
    match ofFormat? d.format d.root with
    | some c =>
      if d.allows (d.aliasesInFields memberNames Yaml.Document.aliasesIn d.root) then .ok c
      else .error .yaml
    | none => .error .yaml
  | none => .error .yaml

/-- The variables that are set; lists are supported for `true` and `1` only. -/
def ofEnvironment (setting? : String → Option String) : Except ConfigError Config := do
  let level ← match setting? "QUERY_ARGS_MAX_RECURSION_LEVEL" with
    | none => .ok default.maxRecursionLevel
    | some text =>
      match Text.readNat? UInt64.size text.toList with
      | some n => .ok n
      | none => .error .level
  let lists := match setting? "QUERY_ARGS_SUPPORT_LIST_GRAPH_TYPE" with
    | some text => text = "true" || text = "1"
    | none => default.supportListGraphType
  return {
    maxRecursionLevel := level
    supportListGraphType := lists
    orderByArgument :=
      (setting? "QUERY_ARGS_ORDER_BY_ARGUMENT").getD default.orderByArgument
    pageArgument := (setting? "QUERY_ARGS_PAGE_ARGUMENT").getD default.pageArgument
    pageSizeArgument :=
      (setting? "QUERY_ARGS_PAGE_SIZE_ARGUMENT").getD default.pageSizeArgument }

end Config

end FieldQuery
