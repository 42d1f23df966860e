/-!
# Data values

The values of JSON. An object lists its fields in the order in which they are written.
Where a collection of named values is kept rather than written, its keys increase strictly:
the order makes equal contents equal values, and setting a field replaces an earlier one of
the same key.
-/

namespace MediaGrid.Json

/-- A number: an integer, or a double given by its bits. -/
inductive Number where
  /-- An integer. -/
  | integer (value : Int)
  /-- A double that is not written as an integer. -/
  | real (bits : UInt64)
  deriving DecidableEq, Repr

/-- A data value. -/
inductive Value where
  /-- The value `null`. -/
  | null
  /-- A truth value. -/
  | boolean (value : Bool)
  /-- A number. -/
  | number (value : Number)
  /-- A text. -/
  | text (value : String)
  /-- A list of values. -/
  | array (items : List Value)
  /-- An object: its keys with their values, in written order. -/
  | object (fields : List (String × Value))
  deriving Repr, Inhabited

mutual

/-- Decides whether two values are equal. -/
def Value.decideEq : (a b : Value) → Decidable (a = b)
  | .null, .null => isTrue rfl
  | .boolean a, .boolean b =>
    if h : a = b then isTrue (h ▸ rfl) else isFalse fun e => h (Value.boolean.inj e)
  | .number a, .number b =>
    if h : a = b then isTrue (h ▸ rfl) else isFalse fun e => h (Value.number.inj e)
  | .text a, .text b =>
    if h : a = b then isTrue (h ▸ rfl) else isFalse fun e => h (Value.text.inj e)
  | .array a, .array b =>
    match Value.decideEqItems a b with
    | isTrue h => isTrue (h ▸ rfl)
    | isFalse h => isFalse fun e => h (Value.array.inj e)
  | .object a, .object b =>
    match Value.decideEqFields a b with
    | isTrue h => isTrue (h ▸ rfl)
    | isFalse h => isFalse fun e => h (Value.object.inj e)
  | .null, .boolean _ | .null, .number _ | .null, .text _ | .null, .array _ | .null, .object _
  | .boolean _, .null | .boolean _, .number _ | .boolean _, .text _ | .boolean _, .array _
  | .boolean _, .object _ | .number _, .null | .number _, .boolean _ | .number _, .text _
  | .number _, .array _ | .number _, .object _ | .text _, .null | .text _, .boolean _
  | .text _, .number _ | .text _, .array _ | .text _, .object _ | .array _, .null
  | .array _, .boolean _ | .array _, .number _ | .array _, .text _ | .array _, .object _
  | .object _, .null | .object _, .boolean _ | .object _, .number _ | .object _, .text _
  | .object _, .array _ => isFalse nofun

/-- Decides whether two lists of values are equal. -/
def Value.decideEqItems : (a b : List Value) → Decidable (a = b)
  | [], [] => isTrue rfl
  | [], _ :: _ | _ :: _, [] => isFalse nofun
  | a :: as, b :: bs =>
    match Value.decideEq a b, Value.decideEqItems as bs with
    | isTrue h, isTrue t => isTrue (h ▸ t ▸ rfl)
    | isFalse h, _ => isFalse fun e => h (List.cons.inj e).1
    | _, isFalse t => isFalse fun e => t (List.cons.inj e).2

/-- Decides whether two lists of fields are equal. -/
def Value.decideEqFields : (a b : List (String × Value)) → Decidable (a = b)
  | [], [] => isTrue rfl
  | [], _ :: _ | _ :: _, [] => isFalse nofun
  | (k, a) :: as, (l, b) :: bs =>
    if hk : k = l then
      match Value.decideEq a b, Value.decideEqFields as bs with
      | isTrue h, isTrue t => isTrue (hk ▸ h ▸ t ▸ rfl)
      | isFalse h, _ => isFalse fun e => h (Prod.mk.inj (List.cons.inj e).1).2
      | _, isFalse t => isFalse fun e => t (List.cons.inj e).2
    else isFalse fun e => hk (Prod.mk.inj (List.cons.inj e).1).1

end

instance : DecidableEq Value := Value.decideEq

/-- Sets the field `key` in a list kept in increasing order of keys. -/
def setField (key : String) (value : Value) : List (String × Value) → List (String × Value)
  | [] => [(key, value)]
  | (k, v) :: rest =>
    if key < k then (key, value) :: (k, v) :: rest
    else if key = k then (key, value) :: rest
    else (k, v) :: setField key value rest

theorem key_of_mem_setField {key : String} {value : Value} {fields : List (String × Value)}
    {field : String × Value} (h : field ∈ setField key value fields) :
    field.1 = key ∨ field ∈ fields := by
  induction fields with
  | nil =>
    simp only [setField, List.mem_singleton] at h
    exact Or.inl (h ▸ rfl)
  | cons head rest ih =>
    obtain ⟨k, v⟩ := head
    simp only [setField] at h
    split at h
    · rcases List.mem_cons.mp h with rfl | h
      · exact Or.inl rfl
      · exact Or.inr h
    · split at h
      · rcases List.mem_cons.mp h with rfl | h
        · exact Or.inl rfl
        · exact Or.inr (List.mem_cons_of_mem _ h)
      · rcases List.mem_cons.mp h with rfl | h
        · exact Or.inr List.mem_cons_self
        · rcases ih h with h | h
          · exact Or.inl h
          · exact Or.inr (List.mem_cons_of_mem _ h)

theorem pairwise_setField {key : String} {value : Value} {fields : List (String × Value)}
    (h : fields.Pairwise (·.1 < ·.1)) : (setField key value fields).Pairwise (·.1 < ·.1) := by
  induction fields with
  | nil => simp [setField]
  | cons head rest ih =>
    obtain ⟨k, v⟩ := head
    obtain ⟨hhead, htail⟩ := List.pairwise_cons.mp h
    simp only [setField]
    split
    · rename_i hlt
      refine List.pairwise_cons.mpr ⟨fun field hm => ?_, h⟩
      rcases List.mem_cons.mp hm with rfl | hm
      · exact hlt
      · exact String.lt_trans hlt (hhead field hm)
    · split
      · rename_i heq
        subst heq
        exact List.pairwise_cons.mpr ⟨hhead, htail⟩
      · rename_i hlt hne
        have hkey : k < key := by
          rcases String.le_total k key with hle | hle
          · exact Decidable.byContradiction fun hn => hne
              (String.le_antisymm (String.not_lt.mp hn) hle)
          · exact absurd (String.le_antisymm hle (String.not_lt.mp hlt)) hne
        refine List.pairwise_cons.mpr ⟨fun field hm => ?_, ih htail⟩
        rcases key_of_mem_setField hm with hk | hm
        · rw [hk]; exact hkey
        · exact hhead field hm

/-- Named values in strictly increasing order of their keys. -/
structure Fields where
  /-- The keys with their values. -/
  entries : List (String × Value)
  /-- The keys increase strictly. -/
  ordered : entries.Pairwise (·.1 < ·.1)
  deriving DecidableEq

namespace Fields

/-- No fields. -/
def empty : Fields := ⟨[], .nil⟩

instance : Inhabited Fields := ⟨empty⟩

/-- Sets one field. -/
def set (fields : Fields) (key : String) (value : Value) : Fields :=
  ⟨setField key value fields.entries, pairwise_setField fields.ordered⟩

/-- The value of a field. -/
def get? (fields : Fields) (key : String) : Option Value :=
  (fields.entries.find? (·.1 == key)).map (·.2)

/-- The fields with every field of `update` set on them. -/
def overlay (fields update : Fields) : Fields :=
  update.entries.foldl (fun acc field => acc.set field.1 field.2) fields

/-- The fields that a list names, a later entry winning over an earlier one of its key. -/
def ofList (entries : List (String × Value)) : Fields :=
  entries.foldl (fun acc field => acc.set field.1 field.2) empty

end Fields

end MediaGrid.Json
