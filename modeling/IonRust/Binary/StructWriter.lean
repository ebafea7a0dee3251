import IonRust.Element

/-!
# Field names of the binary 1.1 struct writer

`BinaryStructWriter_1_1` writes a struct's fields through a `BinaryContainerWriter_1_1`, into that
writer's child values buffer.  For a length-prefixed struct this is the struct's own body, which
`end` copies into the parent's buffer after the header.  For a delimited struct it is the parent's
buffer itself.  A field can reach the writer through `StructWriter::write`, through `write_all`,
through a `FieldWriter` from `field_writer`, or through the `AnnotatedFieldWriter` that one turns
into.  Every route calls `encode_field_name` once and then writes the value with
`make_value_writer`.

A length-prefixed struct starts with its names as `FlexUInt` symbol IDs, and keeps them so while
the names are positive symbol IDs.  The first other name writes the mode switch `0x01` and turns
the writer to `FlexSym` names for the rest of the struct.  A delimited struct writes every name as
a `FlexSym`.  Its `close` ends it with the `FlexSym` escape `0x01` and the delimited `END` opcode
`0xF0`.

`FlexUInt::write` and `FlexSym::encode_symbol` are not under src/.  They are the parameters
`flexUInt` and `flexSym`.  A field's value is the bytes its value writer writes.
-/

namespace IonRust

inductive ContainerEncodingKind where
  /-- `Delimited`: children go straight into the parent's buffer. -/
  | delimited (buffer : List UInt8)
  /-- `LengthPrefixed`: children go into a buffer of the container's own. -/
  | lengthPrefixed (typeCode flexLenTypeCode : UInt8) (parentBuffer childValuesBuffer : List UInt8)
  deriving DecidableEq, Repr

namespace ContainerEncodingKind

def targetBuffer : ContainerEncodingKind → List UInt8
  | .delimited buffer => buffer
  | .lengthPrefixed _ _ _ childValuesBuffer => childValuesBuffer

def extendTarget (bytes : List UInt8) : ContainerEncodingKind → ContainerEncodingKind
  | .delimited buffer => .delimited (buffer ++ bytes)
  | .lengthPrefixed typeCode flexLenTypeCode parentBuffer childValuesBuffer =>
    .lengthPrefixed typeCode flexLenTypeCode parentBuffer (childValuesBuffer ++ bytes)

@[simp] theorem targetBuffer_extendTarget (encoder : ContainerEncodingKind) (bytes : List UInt8) :
    (encoder.extendTarget bytes).targetBuffer = encoder.targetBuffer ++ bytes := by
  cases encoder <;> rfl

@[simp] theorem extendTarget_nil (encoder : ContainerEncodingKind) :
    encoder.extendTarget [] = encoder := by
  cases encoder <;> simp only [extendTarget, List.append_nil]

@[simp] theorem extendTarget_extendTarget (encoder : ContainerEncodingKind)
    (first second : List UInt8) :
    (encoder.extendTarget first).extendTarget second = encoder.extendTarget (first ++ second) := by
  cases encoder <;> simp only [extendTarget, List.append_assoc]

end ContainerEncodingKind

/-- `BinaryContainerWriter_1_1`, by its encoder.  Its allocator, configuration and macro table
are handed on to value writers and never read here. -/
structure BinaryContainerWriter where
  encoder : ContainerEncodingKind
  deriving DecidableEq, Repr

namespace BinaryContainerWriter

def newDelimited (startOpcode : UInt8) (buffer : List UInt8) : BinaryContainerWriter :=
  ⟨.delimited (buffer ++ [startOpcode])⟩

def newLengthPrefixed (typeCode flexLenTypeCode : UInt8) (buffer : List UInt8) :
    BinaryContainerWriter :=
  ⟨.lengthPrefixed typeCode flexLenTypeCode buffer []⟩

def childValuesBuffer (writer : BinaryContainerWriter) : List UInt8 :=
  writer.encoder.targetBuffer

/-- `BinaryContainerWriter_1_1::end`, by the parent's buffer once the container is in it.  A
length-prefixed container's header is `type_code | len` for a body of at most 15 bytes, and
`flex_len_type_code` followed by the length as a `FlexUInt` otherwise. -/
def endContainer (flexUInt : Nat → Except IonError (List UInt8))
    (writer : BinaryContainerWriter) : Except IonError (List UInt8) :=
  match writer.encoder with
  | .delimited buffer => .ok (buffer ++ [0xF0])
  | .lengthPrefixed typeCode flexLenTypeCode parentBuffer childValuesBuffer =>
    let encodedLength := childValuesBuffer.length
    let header : Except IonError (List UInt8) :=
      if encodedLength ≤ 15 then .ok [typeCode ||| UInt8.ofNat encodedLength]
      else (flexUInt encodedLength).map (flexLenTypeCode :: ·)
    header.map fun header => parentBuffer ++ header ++ childValuesBuffer

end BinaryContainerWriter

def RawSymbolRef.positiveSid? : RawSymbolRef → Option Nat
  | .symbolId sid => if 0 < sid then some sid else none
  | .text _ => none

theorem RawSymbolRef.positiveSid?_eq_some {name : RawSymbolRef} {sid : Nat} :
    name.positiveSid? = some sid ↔ name = .symbolId sid ∧ 0 < sid := by
  cases name with
  | symbolId n => by_cases h : 0 < n <;> simp [RawSymbolRef.positiveSid?, h] <;> omega
  | text _ => simp [RawSymbolRef.positiveSid?]

structure BinaryStructWriter where
  /-- `flex_uint_encoding`: names are written as `FlexUInt` symbol IDs while it holds. -/
  flexUIntEncoding : Bool
  containerWriter : BinaryContainerWriter
  deriving DecidableEq, Repr

def interleaveFields (nameBytes values : List (List UInt8)) : List UInt8 :=
  (List.zipWith (· ++ ·) nameBytes values).flatten

@[simp] theorem interleaveFields_nil (values : List (List UInt8)) :
    interleaveFields [] values = [] := rfl

@[simp] theorem interleaveFields_cons (name value : List UInt8) (names values : List (List UInt8)) :
    interleaveFields (name :: names) (value :: values) =
      name ++ value ++ interleaveFields names values := by
  simp only [interleaveFields, List.zipWith_cons_cons, List.flatten_cons, List.append_assoc]

namespace BinaryStructWriter

/-- `BinaryStructWriter_1_1::new_length_prefixed`: type codes `0xD0` and `0xFD`, names as
`FlexUInt`s to begin with. -/
def newLengthPrefixed (buffer : List UInt8) : BinaryStructWriter :=
  ⟨true, .newLengthPrefixed 0xD0 0xFD buffer⟩

/-- `BinaryStructWriter_1_1::new_delimited`: opcode `0xF3`, names as `FlexSym`s throughout. -/
def newDelimited (buffer : List UInt8) : BinaryStructWriter :=
  ⟨false, .newDelimited 0xF3 buffer⟩

def fieldsBuffer (writer : BinaryStructWriter) : List UInt8 :=
  writer.containerWriter.childValuesBuffer

def extendFields (writer : BinaryStructWriter) (bytes : List UInt8) : BinaryStructWriter :=
  { writer with containerWriter := ⟨writer.containerWriter.encoder.extendTarget bytes⟩ }

@[simp] theorem extendFields_flexUIntEncoding (writer : BinaryStructWriter) (bytes : List UInt8) :
    (writer.extendFields bytes).flexUIntEncoding = writer.flexUIntEncoding := rfl

@[simp] theorem fieldsBuffer_extendFields (writer : BinaryStructWriter) (bytes : List UInt8) :
    (writer.extendFields bytes).fieldsBuffer = writer.fieldsBuffer ++ bytes :=
  ContainerEncodingKind.targetBuffer_extendTarget _ _

@[simp] theorem fieldsBuffer_setFlexUIntEncoding (writer : BinaryStructWriter) (mode : Bool) :
    { writer with flexUIntEncoding := mode }.fieldsBuffer = writer.fieldsBuffer := rfl

@[simp] theorem extendFields_nil (writer : BinaryStructWriter) :
    writer.extendFields [] = writer := by
  simp only [extendFields, ContainerEncodingKind.extendTarget_nil]

@[simp] theorem extendFields_extendFields (writer : BinaryStructWriter)
    (first second : List UInt8) :
    (writer.extendFields first).extendFields second = writer.extendFields (first ++ second) := by
  simp only [extendFields, ContainerEncodingKind.extendTarget_extendTarget]

/-- The calls that write fields into a struct writer, each with the bytes its value writes. -/
inductive FieldWrite where
  /-- `StructWriter::write(name, value)`. -/
  | write (name : RawSymbolRef) (value : List UInt8)
  /-- `StructWriter::write_all(fields)`. -/
  | writeAll (fields : List (RawSymbolRef × List UInt8))
  /-- A value written through `field_writer(name)`. -/
  | fieldWriter (name : RawSymbolRef) (value : List UInt8)
  /-- A value written through `field_writer(name).with_annotations(..)`, with the annotations
  and the value that its value writer writes. -/
  | annotatedFieldWriter (name : RawSymbolRef) (annotatedValue : List UInt8)
  deriving DecidableEq, Repr

def FieldWrite.fields : FieldWrite → List (RawSymbolRef × List UInt8)
  | .write name value => [(name, value)]
  | .writeAll fields => fields
  | .fieldWriter name value => [(name, value)]
  | .annotatedFieldWriter name annotatedValue => [(name, annotatedValue)]

section Fields

variable (flexUInt : Nat → Except IonError (List UInt8)) (flexSym : RawSymbolRef → List UInt8)

/-- `encode_field_name`.  In `FlexUInt` mode a positive symbol ID is written as a `FlexUInt`;
any other name first writes the mode switch `0x01` and leaves that mode.  From then on, and in a
delimited struct throughout, the name is written as a `FlexSym`. -/
def encodeFieldName (writer : BinaryStructWriter) (name : RawSymbolRef) :
    Except IonError BinaryStructWriter :=
  match writer.flexUIntEncoding, name.positiveSid? with
  | true, some sid => (flexUInt sid).map writer.extendFields
  | true, none =>
    .ok ({ writer.extendFields [0x01] with flexUIntEncoding := false }.extendFields (flexSym name))
  | false, _ => .ok (writer.extendFields (flexSym name))

def write (writer : BinaryStructWriter) (name : RawSymbolRef) (value : List UInt8) :
    Except IonError BinaryStructWriter :=
  (encodeFieldName flexUInt flexSym writer name).map (·.extendFields value)

/-- `StructWriter::write_all`: `write` for each field in turn, up to the first error. -/
def writeAll (writer : BinaryStructWriter) :
    List (RawSymbolRef × List UInt8) → Except IonError BinaryStructWriter
  | [] => pure writer
  | (name, value) :: fields => do
    let writer ← write flexUInt flexSym writer name value
    writeAll writer fields

/-- A value written through the `FieldWriter` that `field_writer(name)` returns: each of its
value-writer methods calls `encode_field_name`, then writes the value with `make_value_writer`. -/
def FieldWriter.writeValue (writer : BinaryStructWriter) (name : RawSymbolRef)
    (value : List UInt8) : Except IonError BinaryStructWriter :=
  write flexUInt flexSym writer name value

/-- A value written through an `AnnotatedFieldWriter`: `encode_field_name`, then the annotations
and the value through `make_value_writer().with_annotations(..)`. -/
def AnnotatedFieldWriter.writeValue (writer : BinaryStructWriter) (name : RawSymbolRef)
    (annotatedValue : List UInt8) : Except IonError BinaryStructWriter :=
  write flexUInt flexSym writer name annotatedValue

def runCall (writer : BinaryStructWriter) : FieldWrite → Except IonError BinaryStructWriter
  | .write name value => write flexUInt flexSym writer name value
  | .writeAll fields => writeAll flexUInt flexSym writer fields
  | .fieldWriter name value => FieldWriter.writeValue flexUInt flexSym writer name value
  | .annotatedFieldWriter name annotatedValue =>
    AnnotatedFieldWriter.writeValue flexUInt flexSym writer name annotatedValue

def runCalls (writer : BinaryStructWriter) : List FieldWrite → Except IonError BinaryStructWriter
  | [] => pure writer
  | call :: calls => do
    let writer ← runCall flexUInt flexSym writer call
    runCalls writer calls

/-- `StructWriter::close` for the binary 1.1 struct writer, by the parent's buffer once the
struct is in it: a delimited struct first writes the `FlexSym` escape `0x01`. -/
def close (writer : BinaryStructWriter) : Except IonError (List UInt8) :=
  match writer.containerWriter.encoder with
  | .delimited _ => (writer.extendFields [0x01]).containerWriter.endContainer flexUInt
  | .lengthPrefixed .. => writer.containerWriter.endContainer flexUInt

/-! ### Each route is `write_all` of its fields -/

theorem writeAll_append (writer : BinaryStructWriter)
    (first second : List (RawSymbolRef × List UInt8)) :
    writeAll flexUInt flexSym writer (first ++ second) =
      writeAll flexUInt flexSym writer first >>= (writeAll flexUInt flexSym · second) := by
  induction first generalizing writer with
  | nil => rfl
  | cons field first ih =>
    simp only [List.cons_append, writeAll, List.append_eq, bind_assoc, ih]

theorem runCall_eq_writeAll (writer : BinaryStructWriter) (call : FieldWrite) :
    runCall flexUInt flexSym writer call = writeAll flexUInt flexSym writer call.fields := by
  cases call <;>
    simp only [runCall, FieldWrite.fields, writeAll, FieldWriter.writeValue,
      AnnotatedFieldWriter.writeValue, bind_pure]

theorem runCalls_eq_writeAll (writer : BinaryStructWriter) (calls : List FieldWrite) :
    runCalls flexUInt flexSym writer calls =
      writeAll flexUInt flexSym writer (calls.flatMap FieldWrite.fields) := by
  induction calls generalizing writer with
  | nil => rfl
  | cons call calls ih =>
    simp only [runCalls, List.flatMap_cons, writeAll_append, runCall_eq_writeAll, ih]

/-! ### One name in each mode -/

theorem encodeFieldName_of_flexSym (writer : BinaryStructWriter) (name : RawSymbolRef)
    (hmode : writer.flexUIntEncoding = false) :
    encodeFieldName flexUInt flexSym writer name = .ok (writer.extendFields (flexSym name)) := by
  simp only [encodeFieldName, hmode]

theorem encodeFieldName_of_positive (writer : BinaryStructWriter) (sid : Nat)
    (hmode : writer.flexUIntEncoding = true) (hsid : 0 < sid) :
    encodeFieldName flexUInt flexSym writer (.symbolId sid) =
      (flexUInt sid).map writer.extendFields := by
  simp only [encodeFieldName, hmode, RawSymbolRef.positiveSid?, hsid, if_true]

theorem encodeFieldName_switch (writer : BinaryStructWriter) (name : RawSymbolRef)
    (hmode : writer.flexUIntEncoding = true) (hname : name.positiveSid? = none) :
    encodeFieldName flexUInt flexSym writer name =
      .ok ({ writer with flexUIntEncoding := false }.extendFields (0x01 :: flexSym name)) := by
  simp [encodeFieldName, hmode, hname, extendFields]

/-! ### Whole runs -/

/-- The layout of a length-prefixed struct's names: `FlexUInt` for the longest prefix of
symbol IDs greater than 0, then `0x01` and the `FlexSym` of the first other name, then `FlexSym`
for every later name. -/
def nameBytesLayout : List RawSymbolRef → Except IonError (List (List UInt8))
  | [] => .ok []
  | name :: names =>
    match name with
    | .symbolId sid =>
      if 0 < sid then do
        let bytes ← flexUInt sid
        let rest ← nameBytesLayout names
        pure (bytes :: rest)
      else .ok ((0x01 :: flexSym name) :: names.map flexSym)
    | .text _ => .ok ((0x01 :: flexSym name) :: names.map flexSym)

/-- In `FlexSym` mode every field is its name's `FlexSym` and its value, and no call fails. -/
theorem writeAll_of_flexSym (writer : BinaryStructWriter)
    (fields : List (RawSymbolRef × List UInt8)) (hmode : writer.flexUIntEncoding = false) :
    writeAll flexUInt flexSym writer fields =
      .ok (writer.extendFields
        (interleaveFields ((fields.map Prod.fst).map flexSym) (fields.map Prod.snd))) := by
  induction fields generalizing writer with
  | nil => simp only [writeAll, List.map_nil, interleaveFields_nil, extendFields_nil]; rfl
  | cons field fields ih =>
    have hrest := ih (writer.extendFields (flexSym field.1 ++ field.2)) hmode
    simp [writeAll, write, encodeFieldName_of_flexSym _ _ _ _ hmode, Except.map, bind, Except.bind,
      hrest]

/-- In `FlexUInt` mode the names follow `nameBytesLayout`, each before its value, and the run
fails where `FlexUInt::write` first fails. -/
theorem writeAll_of_flexUInt (writer : BinaryStructWriter)
    (fields : List (RawSymbolRef × List UInt8)) (hmode : writer.flexUIntEncoding = true) :
    (writeAll flexUInt flexSym writer fields).map fieldsBuffer =
      (nameBytesLayout flexUInt flexSym (fields.map Prod.fst)).map
        fun nameBytes =>
          writer.fieldsBuffer ++ interleaveFields nameBytes (fields.map Prod.snd) := by
  induction fields generalizing writer with
  | nil => simp [writeAll, nameBytesLayout, Except.map]; rfl
  | cons field fields ih =>
    obtain ⟨name, value⟩ := field
    rcases hname : name.positiveSid? with _ | sid
    · -- the mode switch, and `FlexSym` from there on
      have hlayout : nameBytesLayout flexUInt flexSym (name :: fields.map Prod.fst) =
          .ok ((0x01 :: flexSym name) :: (fields.map Prod.fst).map flexSym) := by
        cases name with
        | symbolId sid => simp_all [nameBytesLayout, RawSymbolRef.positiveSid?]
        | text _ => rfl
      have hrest := writeAll_of_flexSym flexUInt flexSym
        ({ writer with flexUIntEncoding := false }.extendFields (0x01 :: (flexSym name ++ value)))
        fields rfl
      simp [writeAll, write, encodeFieldName_switch _ _ _ _ hmode hname, Except.map, bind,
        Except.bind, hlayout, hrest]
    · -- a positive symbol ID, still in `FlexUInt` mode
      obtain ⟨rfl, hsid⟩ := RawSymbolRef.positiveSid?_eq_some.mp hname
      rcases hwrite : flexUInt sid with e | bytes
      · simp [writeAll, write, encodeFieldName_of_positive _ _ _ _ hmode hsid, hwrite,
          nameBytesLayout, hsid, Except.map, bind, Except.bind]
      · have hrest := ih (writer.extendFields (bytes ++ value)) hmode
        rcases hnames : nameBytesLayout flexUInt flexSym (fields.map Prod.fst) with
          e | nameBytes <;>
          simp_all [writeAll, write, encodeFieldName_of_positive _ _ _ _ hmode hsid,
            nameBytesLayout, Except.map, bind, Except.bind, pure, Except.pure]

theorem close_of_delimited (writer : BinaryStructWriter) (buffer : List UInt8)
    (hencoder : writer.containerWriter.encoder = .delimited buffer) :
    close flexUInt writer = .ok (buffer ++ [0x01, 0xF0]) := by
  simp [close, hencoder, extendFields, ContainerEncodingKind.extendTarget,
    BinaryContainerWriter.endContainer]

theorem runCalls_newLengthPrefixed (parent : List UInt8) (calls : List FieldWrite) :
    (runCalls flexUInt flexSym (newLengthPrefixed parent) calls).map fieldsBuffer =
      (nameBytesLayout flexUInt flexSym ((calls.flatMap FieldWrite.fields).map Prod.fst)).map
        (interleaveFields · ((calls.flatMap FieldWrite.fields).map Prod.snd)) := by
  rw [runCalls_eq_writeAll, writeAll_of_flexUInt _ _ _ _ rfl]
  rfl

theorem runCalls_newDelimited_close (parent : List UInt8) (calls : List FieldWrite) :
    (runCalls flexUInt flexSym (newDelimited parent) calls).bind (close flexUInt) =
      .ok (parent ++ [0xF3] ++
        interleaveFields (((calls.flatMap FieldWrite.fields).map Prod.fst).map flexSym)
          ((calls.flatMap FieldWrite.fields).map Prod.snd) ++ [0x01, 0xF0]) := by
  rw [runCalls_eq_writeAll, writeAll_of_flexSym _ _ _ _ rfl]
  exact close_of_delimited flexUInt ((newDelimited parent).extendFields _) _ rfl

/-- Whichever routes the fields take, a length-prefixed struct's body holds its names as
`nameBytesLayout` lays them out, each before its value, and a delimited struct holds every name
as a `FlexSym` and ends with `0x01` and `0xF0`. -/
theorem runCalls_fieldNameBytes (parent : List UInt8) (calls : List FieldWrite) :
    (runCalls flexUInt flexSym (newLengthPrefixed parent) calls).map fieldsBuffer =
        (nameBytesLayout flexUInt flexSym ((calls.flatMap FieldWrite.fields).map Prod.fst)).map
          (interleaveFields · ((calls.flatMap FieldWrite.fields).map Prod.snd)) ∧
      (runCalls flexUInt flexSym (newDelimited parent) calls).bind (close flexUInt) =
        .ok (parent ++ [0xF3] ++
          interleaveFields (((calls.flatMap FieldWrite.fields).map Prod.fst).map flexSym)
            ((calls.flatMap FieldWrite.fields).map Prod.snd) ++ [0x01, 0xF0]) :=
  ⟨runCalls_newLengthPrefixed flexUInt flexSym parent calls,
    runCalls_newDelimited_close flexUInt flexSym parent calls⟩

/-- Symbol ID 4, inline text, then symbol ID 5: the switch comes before the text's `FlexSym`,
and the later symbol ID is a `FlexSym` too. -/
example : (runCalls (fun sid => .ok [UInt8.ofNat (2 * sid + 1)]) (fun _ => [0xEE])
    (newLengthPrefixed []) [.write (.symbolId 4) [0x60], .fieldWriter (.text "a") [0x61],
      .writeAll [(.symbolId 5, [0x62])]]).map fieldsBuffer =
    .ok [0x09, 0x60, 0x01, 0xEE, 0x61, 0xEE, 0x62] := rfl

end Fields

end BinaryStructWriter

end IonRust
