import IonRust.Element

/-!
# Serializing serde values

`ValueSerializer` writes one value of serde's data model to a `ValueWriter`.  It carries a list
of pending annotations.  `serialize_newtype_variant` pushes the variant onto it and serializes
the inner value with the same serializer; `Some` and a plain newtype struct pass the serializer
on as it is.  A tuple struct, a tuple variant and a struct variant push their own name or
variant before they write.  The elements and fields of a container are written by fresh
serializers with no pending annotations.

Most methods write through `with_annotations(self.annotations)`.  `serialize_bool`,
`serialize_f32`, the decimal tunnel of `serialize_newtype_struct`, `serialize_seq`,
`serialize_map` and `serialize_struct` write without it, and the annotations pending there are
lost, among them the variant of an enclosing newtype variant.
-/

namespace IonRust

/-- The widths of serde's integer types, one for each of `serialize_i8` … `serialize_u64`. -/
inductive IntegerWidth where
  | i8 | u8 | i16 | u16 | i32 | u32 | i64 | u64
  deriving DecidableEq, Repr

/-- A value of serde's data model, as a `Serialize` implementation hands it to the serializer.
A float is its text as Rust prints it. -/
inductive SerdeValue where
  | bool (v : Bool)
  | integer (width : IntegerWidth) (v : Int)
  | f32 (text : String)
  | f64 (text : String)
  | char (v : Char)
  | str (v : String)
  | bytes (v : List UInt8)
  | none
  | some (value : SerdeValue)
  | unit
  | unitStruct (name : String)
  | unitVariant (name : String) (variantIndex : Nat) (variant : String)
  | newtypeStruct (name : String) (value : SerdeValue)
  | newtypeVariant (name : String) (variantIndex : Nat) (variant : String) (value : SerdeValue)
  | seq (elements : List SerdeValue)
  | tuple (elements : List SerdeValue)
  | tupleStruct (name : String) (fields : List SerdeValue)
  | tupleVariant (name : String) (variantIndex : Nat) (variant : String)
      (fields : List SerdeValue)
  | map (entries : List (SerdeValue × SerdeValue))
  | struct (name : String) (fields : List (String × SerdeValue))
  | structVariant (name : String) (variantIndex : Nat) (variant : String)
      (fields : List (String × SerdeValue))

/-- A value written to a `ValueWriter`: its annotations, its Ion type, and what a container's
writer is given.  The payload of a scalar is left out. -/
inductive WrittenValue where
  | scalar (annotations : List String) (ionType : IonType)
  | list (annotations : List String) (elements : List WrittenValue)
  | struct (annotations : List String) (fields : List (String × WrittenValue))

def WrittenValue.annotations : WrittenValue → List String
  | .scalar annotations _ => annotations
  | .list annotations _ => annotations
  | .struct annotations _ => annotations

/-- The names of the newtype structs through which `Timestamp` and `Decimal` tunnel their
values, `TUNNELED_TIMESTAMP_TYPE_NAME` and `TUNNELED_DECIMAL_TYPE_NAME`.  A newtype struct of
either name is one of those two types. -/
structure TunneledTypeNames where
  timestamp : String
  decimal : String

/-! ## Map keys -/

/-- `key_must_be_a_string`. -/
def keyMustBeAString : IonError :=
  .encodingError "Ion does not support non-string keys for maps"

/-- `MapKeySerializer`: the text of a map key. -/
def mapKeyText : SerdeValue → Except IonError String
  | .str v => .ok v
  | .unitVariant _ _ variant => .ok variant
  | .newtypeStruct _ value => mapKeyText value
  | .some value => mapKeyText value
  | .integer _ v => .ok (toString v)
  | .f32 text => .ok text
  | .f64 text => .ok text
  | .char v => .ok (String.singleton v)
  | _ => .error keyMustBeAString

/-! ## The value serializer -/

namespace ValueSerializer

/-- `serialize_bool`: written with `value_writer.write`, without the pending annotations. -/
def serializeBool : WrittenValue :=
  .scalar [] .bool

/-- `serialize_i8` … `serialize_u64`. -/
def serializeInteger (annotations : List String) : WrittenValue :=
  .scalar annotations .int

/-- `serialize_f32`: written with `value_writer.write`, without the pending annotations. -/
def serializeF32 : WrittenValue :=
  .scalar [] .float

def serializeF64 (annotations : List String) : WrittenValue :=
  .scalar annotations .float

/-- `serialize_char` and `serialize_str`. -/
def serializeStr (annotations : List String) : WrittenValue :=
  .scalar annotations .string

def serializeBytes (annotations : List String) : WrittenValue :=
  .scalar annotations .blob

/-- `serialize_none`, which `serialize_unit` calls. -/
def serializeNone (annotations : List String) : WrittenValue :=
  .scalar annotations .null

/-- `serialize_unit_struct` and `serialize_unit_variant`: the name or variant as a symbol. -/
def serializeUnitStruct (annotations : List String) : WrittenValue :=
  .scalar annotations .symbol

/-- The two tunnels of `serialize_newtype_struct`: a timestamp is written with the pending
annotations, a decimal with `value_writer.write_decimal`, without them. -/
def serializeTunneled (tunneled : TunneledTypeNames) (annotations : List String) (name : String) :
    Option WrittenValue :=
  if name = tunneled.timestamp then some (.scalar annotations .timestamp)
  else if name = tunneled.decimal then some (.scalar [] .decimal)
  else none

variable (tunneled : TunneledTypeNames)

mutual

/-- `value.serialize(serializer)` for a `ValueSerializer` whose pending annotations are
`annotations`: the value it writes. -/
def serialize (annotations : List String) : SerdeValue → Except IonError WrittenValue
  | .bool _ => .ok serializeBool
  | .integer _ _ => .ok (serializeInteger annotations)
  | .f32 _ => .ok serializeF32
  | .f64 _ => .ok (serializeF64 annotations)
  | .char _ => .ok (serializeStr annotations)
  | .str _ => .ok (serializeStr annotations)
  | .bytes _ => .ok (serializeBytes annotations)
  | .none => .ok (serializeNone annotations)
  | .some value => serialize annotations value
  | .unit => .ok (serializeNone annotations)
  | .unitStruct _ => .ok (serializeUnitStruct annotations)
  | .unitVariant _ _ _ => .ok (serializeUnitStruct annotations)
  | .newtypeStruct name value =>
      match serializeTunneled tunneled annotations name with
      | some written => .ok written
      | none => serialize annotations value
  | .newtypeVariant _ _ variant value => serialize (annotations ++ [variant]) value
  | .seq elements => (serializeElements elements).map (.list [])
  | .tuple elements => (serializeElements elements).map (.list annotations)
  | .tupleStruct name fields => (serializeElements fields).map (.list (annotations ++ [name]))
  | .tupleVariant _ _ variant fields =>
      (serializeElements fields).map (.list (annotations ++ [variant]))
  | .map entries => (serializeEntries entries).map (.struct [])
  | .struct _ fields => (serializeFields fields).map (.struct [])
  | .structVariant _ _ variant fields =>
      (serializeFields fields).map (.struct (annotations ++ [variant]))

/-- The elements of a `SeqWriter`, each by a fresh serializer, up to the first error. -/
def serializeElements : List SerdeValue → Except IonError (List WrittenValue)
  | [] => .ok []
  | element :: rest => do
      let written ← serialize [] element
      let rest ← serializeElements rest
      pure (written :: rest)

/-- The entries of a `MapWriter`: `serialize_key` and then `serialize_value`. -/
def serializeEntries : List (SerdeValue × SerdeValue) → Except IonError (List (String × WrittenValue))
  | [] => .ok []
  | (key, value) :: rest => do
      let name ← mapKeyText key
      let written ← serialize [] value
      let rest ← serializeEntries rest
      pure ((name, written) :: rest)

/-- The fields of a struct or a struct variant, each by a fresh serializer over its
`field_writer`. -/
def serializeFields : List (String × SerdeValue) → Except IonError (List (String × WrittenValue))
  | [] => .ok []
  | (name, value) :: rest => do
      let written ← serialize [] value
      let rest ← serializeFields rest
      pure ((name, written) :: rest)

end

theorem serialize_newtypeStruct (annotations : List String) (name : String) (value : SerdeValue) :
    serialize tunneled annotations (.newtypeStruct name value) =
      match serializeTunneled tunneled annotations name with
      | some written => .ok written
      | none => serialize tunneled annotations value :=
  rfl

/-! ## The annotations of the written value -/

/-- The annotations the written value is meant to carry: the pending ones, with the variant of
each newtype variant on the way pushed, and then the name or variant that a tuple struct, a
tuple variant or a struct variant pushes. -/
def expectedAnnotations (annotations : List String) : SerdeValue → List String
  | .some value => expectedAnnotations annotations value
  | .newtypeStruct name value =>
      if name = tunneled.timestamp ∨ name = tunneled.decimal then annotations
      else expectedAnnotations annotations value
  | .newtypeVariant _ _ variant value => expectedAnnotations (annotations ++ [variant]) value
  | .tupleStruct name _ => annotations ++ [name]
  | .tupleVariant _ _ variant _ => annotations ++ [variant]
  | .structVariant _ _ variant _ => annotations ++ [variant]
  | _ => annotations

/-- The values whose writing drops the pending annotations: a bool, an `f32`, a tunnelled
decimal, a seq, a map or a struct, reached through `Some`, newtype structs and newtype
variants. -/
def dropsAnnotations : SerdeValue → Bool
  | .bool _ => true
  | .f32 _ => true
  | .seq _ => true
  | .map _ => true
  | .struct _ _ => true
  | .some value => dropsAnnotations value
  | .newtypeStruct name value =>
      if name = tunneled.timestamp then false
      else if name = tunneled.decimal then true
      else dropsAnnotations value
  | .newtypeVariant _ _ _ value => dropsAnnotations value
  | _ => false

theorem expectedAnnotations_newtypeStruct (annotations : List String) (name : String)
    (value : SerdeValue) :
    expectedAnnotations tunneled annotations (.newtypeStruct name value) =
      if name = tunneled.timestamp ∨ name = tunneled.decimal then annotations
      else expectedAnnotations tunneled annotations value :=
  rfl

theorem dropsAnnotations_newtypeStruct (name : String) (value : SerdeValue) :
    dropsAnnotations tunneled (.newtypeStruct name value) =
      if name = tunneled.timestamp then false
      else if name = tunneled.decimal then true
      else dropsAnnotations tunneled value :=
  rfl

theorem exists_eq_of_map_eq_ok {α : Type} {f : α → WrittenValue} {result : Except IonError α}
    {written : WrittenValue} (h : result.map f = .ok written) : ∃ a, written = f a := by
  cases result with
  | error e => cases h
  | ok a => exact ⟨a, (Except.ok.inj h).symm⟩

/-- The value written carries the pending annotations and what the value's shape pushes on
them, unless the shape is one whose method writes without annotations, which then carries
none. -/
theorem serialize_annotations (annotations : List String) :
    ∀ (value : SerdeValue) (written : WrittenValue),
      serialize tunneled annotations value = .ok written →
        written.annotations =
          if dropsAnnotations tunneled value then [] else expectedAnnotations tunneled annotations value
  | .some value, written, h => serialize_annotations annotations value written h
  | .newtypeStruct name value, written, h => by
      rw [serialize_newtypeStruct, serializeTunneled] at h
      rw [dropsAnnotations_newtypeStruct, expectedAnnotations_newtypeStruct]
      by_cases htimestamp : name = tunneled.timestamp
      · rw [if_pos htimestamp] at h
        cases h
        rw [if_pos htimestamp, if_pos (Or.inl htimestamp)]
        rfl
      · by_cases hdecimal : name = tunneled.decimal
        · rw [if_neg htimestamp, if_pos hdecimal] at h
          cases h
          rw [if_neg htimestamp, if_pos hdecimal]
          rfl
        · rw [if_neg htimestamp, if_neg hdecimal] at h
          rw [if_neg htimestamp, if_neg hdecimal,
            if_neg (show ¬(name = tunneled.timestamp ∨ name = tunneled.decimal) by tauto)]
          exact serialize_annotations annotations value written h
  | .newtypeVariant _ _ variant value, written, h =>
      serialize_annotations (annotations ++ [variant]) value written h
  | .seq _, _, h | .tuple _, _, h | .tupleStruct _ _, _, h | .tupleVariant _ _ _ _, _, h
  | .map _, _, h | .struct _ _, _, h | .structVariant _ _ _ _, _, h => by
      obtain ⟨_, rfl⟩ := exists_eq_of_map_eq_ok h
      rfl
  | .bool _, _, h | .integer _ _, _, h | .f32 _, _, h | .f64 _, _, h | .char _, _, h
  | .str _, _, h | .bytes _, _, h | .none, _, h | .unit, _, h | .unitStruct _, _, h
  | .unitVariant _ _ _, _, h => by
      cases h
      rfl

/-- `E::V(P(1))` for a tuple struct `P`: the written list carries the variant and then the
tuple struct's name. -/
theorem serialize_annotations_variant_of_tupleStruct :
    serialize ⟨"timestamp", "decimal"⟩ [] (.newtypeVariant "E" 0 "V" (.tupleStruct "P" [.integer .i32 1])) =
        .ok (.list ["V", "P"] [.scalar [] .int]) ∧
      (WrittenValue.list ["V", "P"] [.scalar [] .int]).annotations =
        if dropsAnnotations ⟨"timestamp", "decimal"⟩
            (.newtypeVariant "E" 0 "V" (.tupleStruct "P" [.integer .i32 1])) then []
        else expectedAnnotations ⟨"timestamp", "decimal"⟩ []
          (.newtypeVariant "E" 0 "V" (.tupleStruct "P" [.integer .i32 1])) :=
  ⟨rfl, serialize_annotations _ [] _ _ rfl⟩

/-- `E::V(true)`: the variant is pushed, but `serialize_bool` writes without it. -/
theorem newtypeVariant_bool_loses_variant :
    serialize tunneled [] (.newtypeVariant "E" 0 "V" (.bool true)) = .ok (.scalar [] .bool) ∧
      expectedAnnotations tunneled [] (.newtypeVariant "E" 0 "V" (.bool true)) = ["V"] :=
  ⟨rfl, rfl⟩

/-! ## Errors

The serializer itself fails only where `MapKeySerializer` refuses a key, and a tunnelled
newtype struct does not serialize its inner value. -/

mutual

/-- Every map key in the value is one that `MapKeySerializer` writes as text, the value inside a
tunnelled newtype struct apart. -/
def keysAreText : SerdeValue → Bool
  | .some value => keysAreText value
  | .newtypeStruct name value =>
      if name = tunneled.timestamp ∨ name = tunneled.decimal then true else keysAreText value
  | .newtypeVariant _ _ _ value => keysAreText value
  | .seq elements => elementsKeysAreText elements
  | .tuple elements => elementsKeysAreText elements
  | .tupleStruct _ fields => elementsKeysAreText fields
  | .tupleVariant _ _ _ fields => elementsKeysAreText fields
  | .map entries => entriesKeysAreText entries
  | .struct _ fields => fieldsKeysAreText fields
  | .structVariant _ _ _ fields => fieldsKeysAreText fields
  | _ => true

def elementsKeysAreText : List SerdeValue → Bool
  | [] => true
  | element :: rest => keysAreText element && elementsKeysAreText rest

def entriesKeysAreText : List (SerdeValue × SerdeValue) → Bool
  | [] => true
  | (key, value) :: rest =>
      (mapKeyText key).isOk && (keysAreText value && entriesKeysAreText rest)

def fieldsKeysAreText : List (String × SerdeValue) → Bool
  | [] => true
  | (_, value) :: rest => keysAreText value && fieldsKeysAreText rest

end

theorem keysAreText_newtypeStruct (name : String) (value : SerdeValue) :
    keysAreText tunneled (.newtypeStruct name value) =
      if name = tunneled.timestamp ∨ name = tunneled.decimal then true
      else keysAreText tunneled value :=
  rfl

/-- `x` fails exactly when `p` does not hold, and then with `key_must_be_a_string`. -/
def FailsOnKeysExactly {α : Type} (x : Except IonError α) (p : Bool) : Prop :=
  ∀ e, x = .error e ↔ p = false ∧ e = keyMustBeAString

namespace FailsOnKeysExactly

variable {α β : Type}

theorem ok (a : α) : FailsOnKeysExactly (.ok a : Except IonError α) true :=
  fun _ => ⟨nofun, nofun⟩

theorem keyError : FailsOnKeysExactly (.error keyMustBeAString : Except IonError α) false :=
  fun _ => ⟨fun h => ⟨rfl, (Except.error.inj h).symm⟩, fun h => h.2 ▸ rfl⟩

theorem check_of_ok {x : Except IonError α} {p : Bool} {a : α} (h : FailsOnKeysExactly x p)
    (hx : x = .ok a) : p = true := by
  by_contra hp
  have := (h keyMustBeAString).mpr ⟨by simpa using hp, rfl⟩
  rw [hx] at this
  cases this

/-- A step that fails as its check says, followed by steps that do, fails as both say. -/
theorem bind {x : Except IonError α} {f : α → Except IonError β} {p q : Bool}
    (hx : FailsOnKeysExactly x p) (hf : ∀ a, FailsOnKeysExactly (f a) q) :
    FailsOnKeysExactly (x >>= f) (p && q) := by
  rcases x with e | a
  · obtain ⟨rfl, rfl⟩ := (hx e).mp rfl
    exact keyError
  · rw [hx.check_of_ok rfl]
    exact hf a

theorem bind_pure {x : Except IonError α} {p : Bool} (g : α → β) (hx : FailsOnKeysExactly x p) :
    FailsOnKeysExactly (x >>= fun a => pure (g a)) p := by
  intro e
  rw [← hx e]
  rcases x with _ | _
  · exact ⟨fun h => by cases h; rfl, fun h => by cases h; rfl⟩
  · exact ⟨nofun, nofun⟩

theorem map {x : Except IonError α} {p : Bool} (g : α → β) (hx : FailsOnKeysExactly x p) :
    FailsOnKeysExactly (x.map g) p := by
  intro e
  rw [← hx e]
  rcases x with _ | _
  · exact ⟨fun h => by cases h; rfl, fun h => by cases h; rfl⟩
  · exact ⟨nofun, nofun⟩

end FailsOnKeysExactly

theorem mapKeyText_failsOnKeysExactly :
    ∀ key : SerdeValue, FailsOnKeysExactly (mapKeyText key) (mapKeyText key).isOk
  | .newtypeStruct _ value => mapKeyText_failsOnKeysExactly value
  | .some value => mapKeyText_failsOnKeysExactly value
  | .str _ | .unitVariant _ _ _ | .integer _ _ | .f32 _ | .f64 _ | .char _ => .ok _
  | .bool _ | .bytes _ | .none | .unit | .unitStruct _ | .newtypeVariant _ _ _ _ | .seq _
  | .tuple _ | .tupleStruct _ _ | .tupleVariant _ _ _ _ | .map _ | .struct _ _
  | .structVariant _ _ _ _ => .keyError

mutual

theorem serialize_failsOnKeysExactly (annotations : List String) :
    ∀ value : SerdeValue,
      FailsOnKeysExactly (serialize tunneled annotations value) (keysAreText tunneled value)
  | .some value => serialize_failsOnKeysExactly annotations value
  | .newtypeStruct name value => by
      rw [serialize_newtypeStruct, serializeTunneled, keysAreText_newtypeStruct]
      by_cases htimestamp : name = tunneled.timestamp
      · rw [if_pos htimestamp, if_pos (Or.inl htimestamp)]
        exact .ok _
      · by_cases hdecimal : name = tunneled.decimal
        · rw [if_neg htimestamp, if_pos hdecimal, if_pos (Or.inr hdecimal)]
          exact .ok _
        · rw [if_neg htimestamp, if_neg hdecimal, if_neg (by tauto)]
          exact serialize_failsOnKeysExactly annotations value
  | .newtypeVariant _ _ variant value => serialize_failsOnKeysExactly (annotations ++ [variant]) value
  | .seq elements => (serializeElements_failsOnKeysExactly elements).map _
  | .tuple elements => (serializeElements_failsOnKeysExactly elements).map _
  | .tupleStruct _ fields => (serializeElements_failsOnKeysExactly fields).map _
  | .tupleVariant _ _ _ fields => (serializeElements_failsOnKeysExactly fields).map _
  | .map entries => (serializeEntries_failsOnKeysExactly entries).map _
  | .struct _ fields => (serializeFields_failsOnKeysExactly fields).map _
  | .structVariant _ _ _ fields => (serializeFields_failsOnKeysExactly fields).map _
  | .bool _ | .integer _ _ | .f32 _ | .f64 _ | .char _ | .str _ | .bytes _ | .none | .unit
  | .unitStruct _ | .unitVariant _ _ _ => .ok _

theorem serializeElements_failsOnKeysExactly :
    ∀ elements : List SerdeValue,
      FailsOnKeysExactly (serializeElements tunneled elements)
        (elementsKeysAreText tunneled elements)
  | [] => .ok _
  | element :: rest =>
      (serialize_failsOnKeysExactly [] element).bind fun _ =>
        (serializeElements_failsOnKeysExactly rest).bind_pure _

theorem serializeEntries_failsOnKeysExactly :
    ∀ entries : List (SerdeValue × SerdeValue),
      FailsOnKeysExactly (serializeEntries tunneled entries) (entriesKeysAreText tunneled entries)
  | [] => .ok _
  | (key, value) :: rest =>
      (mapKeyText_failsOnKeysExactly key).bind fun _ =>
        (serialize_failsOnKeysExactly [] value).bind fun _ =>
          (serializeEntries_failsOnKeysExactly rest).bind_pure _

theorem serializeFields_failsOnKeysExactly :
    ∀ fields : List (String × SerdeValue),
      FailsOnKeysExactly (serializeFields tunneled fields) (fieldsKeysAreText tunneled fields)
  | [] => .ok _
  | (_, value) :: rest =>
      (serialize_failsOnKeysExactly [] value).bind fun _ =>
        (serializeFields_failsOnKeysExactly rest).bind_pure _

end

/-- A map keyed by a bool fails; keyed by an integer it is written. -/
example : serialize ⟨"timestamp", "decimal"⟩ [] (.map [(.bool true, .unit)]) = .error keyMustBeAString ∧
    serialize ⟨"timestamp", "decimal"⟩ [] (.map [(.integer .i8 1, .unit)]) =
      .ok (.struct [] [("1", .scalar [] .null)]) :=
  ⟨rfl, rfl⟩

end ValueSerializer

end IonRust
