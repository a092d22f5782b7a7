import Mathlib.Data.Rat.Defs
import SandboxBenchmarks.Library.JsonText
import SandboxBenchmarks.Library.Keyed

/-!
# Reading fields of JSON values

Readers of one value, and of the required and optional fields of an object. A
reader answers with `none` where the value does not have its type.
-/

namespace JsonText

variable {α : Type}

/-- An array is an object without named fields. -/
def Value.fields? : Value → Option (List (String × Value))
  | .obj fields => some fields
  | .arr _ => some []
  | _ => none

def Value.string? : Value → Option String
  | .str s => some s
  | _ => none

/-- `string >= 1` -/
def Value.nonempty? (value : Value) : Option String := value.string?.filter (fun s => s ≠ "")

def Value.boolean? : Value → Option Bool
  | .bool b => some b
  | _ => none

def Value.number? : Value → Option ℚ
  | .num q => some q
  | _ => none

def Value.integer? (value : Value) : Option ℤ :=
  value.number?.bind (fun q => if q.den = 1 then some q.num else none)

/-- `number.integer >= 0` -/
def Value.natural? (value : Value) : Option ℕ :=
  value.integer?.bind (fun z => if 0 ≤ z then some z.toNat else none)

def Value.items? : Value → Option (List Value)
  | .arr items => some items
  | _ => none

/-- An array whose items all have a type. -/
def Value.array? (item : Value → Option α) (value : Value) : Option (List α) :=
  value.items?.bind (fun items => items.mapM item)

def required (fields : List (String × Value)) (key : String) (read : Value → Option α) : Option α :=
  (Keyed.get? fields key).bind read

/-- A field that may be missing, but not of another type. -/
def optional (fields : List (String × Value)) (key : String) (read : Value → Option α) :
    Option (Option α) :=
  match Keyed.get? fields key with
  | none => some none
  | some value => (read value).map some

end JsonText
