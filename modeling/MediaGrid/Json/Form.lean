import MediaGrid.Json.Source

/-!
# Reading typed forms

How the parts of typed values are taken from JSON text. A record is written as an object
with its parts by name, or as a list with its parts in order. Of an object, unknown fields
are ignored whatever they hold, and a part given twice is an error. A part may be required,
may be optional, or may have a default. A choice is written as its name, or as an object
whose only field is its name with `null`.
-/

namespace MediaGrid.Json

/-- The deepest nesting of lists and objects in what a form looks at. -/
def maxDepth : Nat := 127

namespace Source

/-- A text. -/
def text? : Source → Option String
  | .text value => value
  | _ => none

/-- A truth value. -/
def boolean? : Source → Option Bool
  | .boolean value => some value
  | _ => none

/-- A natural number of at most `limit`, written as an integer. -/
def natural? (limit : Nat) : Source → Option Nat
  | .number (some (.integer n)) => if 0 ≤ n ∧ n ≤ limit then some n.toNat else none
  | _ => none

/-- A double, from any number. -/
def real? : Source → Option Float
  | .number (some (.integer n)) =>
    some (if n < 0 then -(UInt64.ofNat n.natAbs).toFloat else (UInt64.ofNat n.toNat).toFloat)
  | .number (some (.real bits)) => some (Float.ofBits bits)
  | _ => none

/-- A list of values of one form. -/
def list? (read : Source → Option α) : Source → Option (List α)
  | .array items => items.mapM read
  | _ => none

/-- A value of a form, or `null` for none. -/
def nullable? (read : Source → Option α) : Source → Option (Option α)
  | .null => some none
  | source => (read source).map some

/-- The name of a choice. -/
def choice? : Source → Option String
  | .text value => value
  | .object [(key, .null)] => key
  | _ => none

mutual

/-- A value of any kind that stands inside `depth` lists and objects. -/
def value? : Nat → Source → Option Value
  | _, .null => some .null
  | _, .boolean b => some (.boolean b)
  | _, .number n => n.map .number
  | _, .text t => t.map .text
  | depth, .array items =>
    if depth < maxDepth then (values? (depth + 1) items).map .array else none
  | depth, .object fields =>
    if depth < maxDepth then (fieldsOnto? (depth + 1) Fields.empty fields).map (.object ·.entries)
    else none

/-- A list of values. -/
def values? : Nat → List Source → Option (List Value)
  | _, [] => some []
  | depth, item :: rest => do
    let value ← value? depth item
    let values ← values? depth rest
    return value :: values

/-- Named values set on fields read before them; the last of two of one name wins. -/
def fieldsOnto? : Nat → Fields → List (Option String × Source) → Option Fields
  | _, acc, [] => some acc
  | depth, acc, (key, source) :: rest => do
    let key ← key
    let value ← value? depth source
    fieldsOnto? depth (acc.set key value) rest

end

/-- An object of named values inside `depth` lists and objects. -/
def object? (depth : Nat) : Source → Option Fields
  | .object fields => if depth < maxDepth then fieldsOnto? (depth + 1) Fields.empty fields else none
  | _ => none

end Source

/-- The parts of a record as they were written. -/
structure Parts where
  /-- The known parts that are there, by name. -/
  entries : List (String × Source)
  /-- Whether the record was written as a list. -/
  positional : Bool

/-- Picks the known fields of an object. Every key has to be readable, and no known key may
come twice. -/
def knownFields (names : List String) :
    List (Option String × Source) → Option (List (String × Source))
  | [] => some []
  | (key, source) :: rest => do
    let key ← key
    let others ← knownFields names rest
    if key ∈ names then
      if others.any (·.1 == key) then none else return (key, source) :: others
    else return others

/-- The parts of a record with the given names. A list may stop early but not be longer. -/
def Source.parts? (names : List String) : Source → Option Parts
  | .object fields => (knownFields names fields).map (⟨·, false⟩)
  | .array items => if items.length ≤ names.length then some ⟨names.zip items, true⟩ else none
  | _ => none

namespace Parts

/-- The part of the given name, if it is there. -/
def get? (parts : Parts) (name : String) : Option Source :=
  (parts.entries.find? (·.1 == name)).map (·.2)

/-- A part that has to be there. -/
def required (parts : Parts) (name : String) (read : Source → Option α) : Option α :=
  parts.get? name >>= read

/-- A part that may be absent and then has the given value. -/
def orElse (parts : Parts) (name : String) (value : α) (read : Source → Option α) : Option α :=
  match parts.get? name with
  | none => some value
  | some source => read source

/-- A part that may be absent or `null`. -/
def optional (parts : Parts) (name : String) (read : Source → Option α) : Option (Option α) :=
  parts.orElse name none (Source.nullable? read)

/-- A part that may be `null`, and may be absent where parts are given by name. -/
def nullable (parts : Parts) (name : String) (read : Source → Option α) : Option (Option α) :=
  if parts.positional then parts.required name (Source.nullable? read)
  else parts.optional name read

end Parts

/-- A number as a value. -/
def ofNat (n : Nat) : Value := .number (.integer n)

/-- A value, or `null` for none. -/
def ofOption (write : α → Value) : Option α → Value
  | none => .null
  | some a => write a

/-- The field of a part that is left out when it is absent. -/
def presentField (name : String) (write : α → Value) : Option α → List (String × Value)
  | none => []
  | some a => [(name, write a)]

/-- A list of values. -/
def ofList (write : α → Value) (items : List α) : Value := .array (items.map write)

end MediaGrid.Json
