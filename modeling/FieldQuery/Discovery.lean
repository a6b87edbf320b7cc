import FieldQuery.Config
import FieldQuery.Mapping
import FieldQuery.Schema.ObjectType

/-!
# Discovery of arguments

A depth-first walk from an object type yields one filter for each leaf within reach. Types are
visited as often as they are met, so the level alone bounds the walk through types that refer to
themselves.
-/

namespace FieldQuery

/-- What discovery does with a field. -/
inductive FieldShape where
  | object (name : String)
  | listOfObject (name : String)
  | leaf
  deriving DecidableEq, Repr

structure Discovery where
  registry : Registry
  resolver : PathResolver
  config : Config

namespace Discovery

/-- A reference to a type that is not registered is a leaf. -/
def shape (d : Discovery) : GraphType → FieldShape
  | .object name => if d.registry.contains name then .object name else .leaf
  | .list element =>
    match element.nullable with
    | .object name => if d.registry.contains name then .listOfObject name else .leaf
    | _ => .leaf
  | _ => .leaf

/-- The names and steps that lead to the type being walked. -/
structure Trail where
  graphPath : String
  path : EntityPath

def Trail.root : Trail := ⟨"", .empty⟩

/-- The step through a field; null may stand there unless its type says otherwise. -/
def segment (d : Discovery) (model : String) (field : Field) (isList : Bool) : Segment :=
  ⟨d.resolver model field.name none, isList, !field.type.isNonNull⟩

def Trail.step (t : Trail) (field : Field) (s : Segment) : Trail :=
  ⟨t.graphPath ++ field.name, t.path.child s⟩

/-- The filter for the leaf at the end of a trail. -/
def leaf (t : Trail) (field : Field) : List Descriptor :=
  match Descriptor.filter t.graphPath t.path field.type.nullable field.type.isNonNull with
  | .ok d => [{ d with description := field.description }]
  | .error _ => []

/-- The declared fields of a registered type, each with the model behind the type. -/
def declared (d : Discovery) (typeName : String) : List (String × Field) :=
  match d.registry.resolve? typeName with
  | some object => object.fields.map (object.model, ·)
  | none => []

/-- The arguments of one field, with this many object levels still allowed below it. -/
def ofField (d : Discovery) (levels : Nat) (t : Trail) (model : String) (field : Field) :
    List Descriptor :=
  match d.shape field.type.nullable with
  | .leaf => leaf (t.step field (d.segment model field false)) field
  | .object name =>
    match levels with
    | 0 => []
    | levels + 1 =>
      let below := t.step field (d.segment model field false)
      (d.declared name).flatMap fun (model, field) => d.ofField levels below model field
  | .listOfObject name =>
    match levels, d.config.supportListGraphType with
    | levels + 1, true =>
      let below := t.step field (d.segment model field true)
      (d.declared name).flatMap fun (model, field) => d.ofField levels below model field
    | _, _ => []

/-- The arguments of a registered type; there are none if it is not registered. -/
def ofType (d : Discovery) (typeName : String) : ArgumentList where
  descriptors := (d.declared typeName).flatMap fun (model, field) =>
    d.ofField d.config.maxRecursionLevel .root model field
  names := d.config.names

/-- The arguments of a single field declared on a model. -/
def ofSingleField (d : Discovery) (model : String) (field : Field) : ArgumentList where
  descriptors := d.ofField d.config.maxRecursionLevel .root model field
  names := d.config.names

end Discovery

end FieldQuery
