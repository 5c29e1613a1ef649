import TaskQueQue.GatewayValues
import TaskQueQue.RequestRendering

/-!
# JSON Schema, for flat objects

The keywords a schema of a flat object needs. Each keyword constrains the values of
its own type only, and a length is a number of characters, not of code units.
-/

namespace JsonSchemas

open GatewayValues

inductive JsonType
  | string
  | integer
  | object

/-- An integer is a number without a fraction, whatever its size. -/
def JsonType.holds : JsonType → Json → Bool
  | .string, .str _ => true
  | .integer, .num value => decide (value.den = 1)
  | .object, .obj _ => true
  | _, _ => false

/-- The schema of a property. A pattern is a class of characters, repeated: `^[..]+$`. -/
structure ValueSchema where
  type : Option JsonType := none
  minimum : Option Int := none
  minLength : Option Nat := none
  maxLength : Option Nat := none
  pattern : Option (Char → Bool) := none
  enum : Option (List String) := none

def onNumber (value : Json) (check : ℚ → Bool) : Bool :=
  match value with
  | .num number => check number
  | _ => true

def onText (value : Json) (check : String → Bool) : Bool :=
  match value with
  | .str text => check text
  | _ => true

def ValueSchema.accepts (schema : ValueSchema) (value : Json) : Bool :=
  (schema.type.all fun type => type.holds value) &&
    (schema.minimum.all fun (least : Int) =>
      onNumber value fun number => decide ((least : ℚ) ≤ number)) &&
    (schema.minLength.all fun least => onText value fun text => decide (least ≤ text.length)) &&
    (schema.maxLength.all fun most => onText value fun text => decide (text.length ≤ most)) &&
    (schema.pattern.all fun allowed => onText value fun text =>
      !text.toList.isEmpty && text.toList.all allowed) &&
    schema.enum.all fun names =>
      match value with
      | .str text => names.contains text
      | _ => false

/-- The schema of an object without additional properties. -/
structure ObjectSchema where
  properties : List (String × ValueSchema)
  required : List String

def ObjectSchema.accepts (schema : ObjectSchema) (fields : List (String × Json)) : Bool :=
  (schema.required.all fun name => (fields.lookup name).isSome) &&
    fields.all fun entry => (schema.properties.lookup entry.1).any fun property =>
      property.accepts entry.2

/-! ### Fields by name -/

theorem lookup_isSome_iff {α : Type} {fields : List (String × α)} {name : String} :
    (fields.lookup name).isSome = true ↔ name ∈ fields.map Prod.fst := by
  induction fields with
  | nil => exact ⟨fun h => absurd h Bool.false_ne_true, fun h => absurd h List.not_mem_nil⟩
  | cons entry fields ih =>
    rw [List.lookup_cons, List.map_cons, List.mem_cons]
    cases same : name == entry.1 with
    | true => exact ⟨fun _ => Or.inl (eq_of_beq same), fun _ => rfl⟩
    | false =>
      rw [ih]
      exact ⟨Or.inr, fun mem => mem.resolve_left fun eq => by simp [eq] at same⟩

end JsonSchemas
