import IonRust.Binary.StructWriter
import IonRust.Binary.Sequence

/-!
# The binary 1.1 sequence writers, read back

`BinaryListWriter_1_1` and `BinarySExpWriter_1_1` write a list or an s-expression through a
`BinaryContainerWriter_1_1`, and differ only in the opcodes they hand it.  `write` encodes a value
into the container writer's child values buffer, and `close` is the container writer's `end`.  A
value writer's `write_list`, `write_sexp` and `write_struct` open such a writer on the buffer they
write to, `write_all` the values, and `close` it.

A value is written here as a tree: a scalar by the bytes its value writer's scalar method writes
(the scalar encodings of `BinaryValueWriter_1_1` are not under src/), and a container through these
writers and the struct writer of `Binary.StructWriter`.  Whether `list_writer()`, `sexp_writer()`
and `struct_writer()` open delimited or length-prefixed writers is the value writer's
configuration, the parameter `delimited`.

Writing a value appends bytes that do not depend on the buffer it is written to, so `write_all`
lays the children's own encodings end to end and fails with the first child that fails.  A
length-prefixed list is its header and that body, and a delimited list is its opcode, the body and
`0xF0`.  Read back with the sequence iterator of `Binary.Sequence`, through readers that meet its
contracts for that body, the bytes in the ranges it yields are the children's encodings, in order.
-/

namespace IonRust

namespace ContainerEncodingKind

/-- The encoder once a value writer on `target_buffer()` has left `buffer` there. -/
def setTarget (buffer : List UInt8) : ContainerEncodingKind → ContainerEncodingKind
  | .delimited _ => .delimited buffer
  | .lengthPrefixed typeCode flexLenTypeCode parentBuffer _ =>
    .lengthPrefixed typeCode flexLenTypeCode parentBuffer buffer

/-- The same encoder over a parent buffer that holds `buffer` before what it held. -/
def prefixed (buffer : List UInt8) : ContainerEncodingKind → ContainerEncodingKind
  | .delimited target => .delimited (buffer ++ target)
  | .lengthPrefixed typeCode flexLenTypeCode parentBuffer childValuesBuffer =>
    .lengthPrefixed typeCode flexLenTypeCode (buffer ++ parentBuffer) childValuesBuffer

@[simp] theorem targetBuffer_setTarget (encoder : ContainerEncodingKind) (buffer : List UInt8) :
    (encoder.setTarget buffer).targetBuffer = buffer := by
  cases encoder <;> rfl

@[simp] theorem setTarget_setTarget (encoder : ContainerEncodingKind) (first second : List UInt8) :
    (encoder.setTarget first).setTarget second = encoder.setTarget second := by
  cases encoder <;> rfl

@[simp] theorem setTarget_targetBuffer (encoder : ContainerEncodingKind) :
    encoder.setTarget encoder.targetBuffer = encoder := by
  cases encoder <;> rfl

@[simp] theorem setTarget_append (encoder : ContainerEncodingKind) (bytes : List UInt8) :
    encoder.setTarget (encoder.targetBuffer ++ bytes) = encoder.extendTarget bytes := by
  cases encoder <;> rfl

@[simp] theorem prefixed_extendTarget (encoder : ContainerEncodingKind)
    (buffer bytes : List UInt8) :
    (encoder.prefixed buffer).extendTarget bytes =
      (encoder.extendTarget bytes).prefixed buffer := by
  cases encoder <;> simp only [prefixed, extendTarget, List.append_assoc]

/-- A value written to the target of a prefixed encoder lands where it lands without the prefix. -/
theorem prefixed_setTarget (encoder : ContainerEncodingKind) (buffer bytes : List UInt8) :
    (encoder.prefixed buffer).setTarget ((encoder.prefixed buffer).targetBuffer ++ bytes) =
      (encoder.setTarget (encoder.targetBuffer ++ bytes)).prefixed buffer := by
  simp only [setTarget_append, prefixed_extendTarget]

end ContainerEncodingKind

namespace BinaryContainerWriter

/-- The header `end` writes before a length-prefixed body of `encodedLength` bytes. -/
def lengthPrefix (flexUInt : Nat → Except IonError (List UInt8))
    (typeCode flexLenTypeCode : UInt8) (encodedLength : Nat) : Except IonError (List UInt8) :=
  if encodedLength ≤ 15 then .ok [typeCode ||| UInt8.ofNat encodedLength]
  else (flexUInt encodedLength).map (flexLenTypeCode :: ·)

variable (flexUInt : Nat → Except IonError (List UInt8))

theorem endContainer_delimited (buffer : List UInt8) :
    endContainer flexUInt ⟨.delimited buffer⟩ = .ok (buffer ++ [0xF0]) := rfl

theorem endContainer_lengthPrefixed (typeCode flexLenTypeCode : UInt8)
    (parentBuffer childValuesBuffer : List UInt8) :
    endContainer flexUInt
        ⟨.lengthPrefixed typeCode flexLenTypeCode parentBuffer childValuesBuffer⟩ =
      (lengthPrefix flexUInt typeCode flexLenTypeCode childValuesBuffer.length).map
        (parentBuffer ++ · ++ childValuesBuffer) := rfl

/-- `end` of a prefixed container writes the prefix and then what it writes without it. -/
theorem endContainer_prefixed (encoder : ContainerEncodingKind) (buffer : List UInt8) :
    endContainer flexUInt ⟨encoder.prefixed buffer⟩ =
      (endContainer flexUInt ⟨encoder⟩).map (buffer ++ ·) := by
  cases encoder with
  | delimited target => simp [ContainerEncodingKind.prefixed, endContainer_delimited, Except.map]
  | lengthPrefixed typeCode flexLenTypeCode parentBuffer childValuesBuffer =>
    simp only [ContainerEncodingKind.prefixed, endContainer_lengthPrefixed]
    cases lengthPrefix flexUInt typeCode flexLenTypeCode childValuesBuffer.length <;>
      simp [Except.map]

end BinaryContainerWriter

/-- `BinaryListWriter_1_1` and `BinarySExpWriter_1_1`, by their container writer: the opcodes
they open it with are all that tells the two apart. -/
structure BinarySequenceWriter where
  containerWriter : BinaryContainerWriter
  deriving DecidableEq, Repr

namespace BinarySequenceWriter

/-- The container writer's `child_values_buffer()`, where `make_value_writer` writes. -/
def childValuesBuffer (writer : BinarySequenceWriter) : List UInt8 :=
  writer.containerWriter.childValuesBuffer

/-- The writer once a value writer on `child_values_buffer()` has left `buffer` there. -/
def setValues (writer : BinarySequenceWriter) (buffer : List UInt8) : BinarySequenceWriter :=
  ⟨⟨writer.containerWriter.encoder.setTarget buffer⟩⟩

/-- `SequenceWriter::close`: the container writer's `end`, by the parent's buffer once the
container is in it. -/
def close (flexUInt : Nat → Except IonError (List UInt8)) (writer : BinarySequenceWriter) :
    Except IonError (List UInt8) :=
  writer.containerWriter.endContainer flexUInt

end BinarySequenceWriter

/-- `BinaryListWriter_1_1::new_delimited`: `DELIMITED_LIST_OPCODE`. -/
def BinaryListWriter.newDelimited (buffer : List UInt8) : BinarySequenceWriter :=
  ⟨.newDelimited 0xF1 buffer⟩

/-- `BinaryListWriter_1_1::new_length_prefixed`: `LENGTH_PREFIXED_LIST_TYPE_CODE` and
`LENGTH_PREFIXED_FLEX_LEN_LIST_TYPE_CODE`. -/
def BinaryListWriter.newLengthPrefixed (buffer : List UInt8) : BinarySequenceWriter :=
  ⟨.newLengthPrefixed 0xB0 0xFB buffer⟩

/-- `BinarySExpWriter_1_1::new_delimited`: `DELIMITED_SEXP_OPCODE`. -/
def BinarySExpWriter.newDelimited (buffer : List UInt8) : BinarySequenceWriter :=
  ⟨.newDelimited 0xF2 buffer⟩

/-- `BinarySExpWriter_1_1::new_length_prefixed`: `LENGTH_PREFIXED_SEXP_TYPE_CODE` and
`LENGTH_PREFIXED_FLEX_LEN_SEXP_TYPE_CODE`. -/
def BinarySExpWriter.newLengthPrefixed (buffer : List UInt8) : BinarySequenceWriter :=
  ⟨.newLengthPrefixed 0xC0 0xFC buffer⟩

/-- The struct writer once a value writer on `fields_buffer()` has left `buffer` there. -/
def BinaryStructWriter.setFields (writer : BinaryStructWriter) (buffer : List UInt8) :
    BinaryStructWriter :=
  { writer with containerWriter := ⟨writer.containerWriter.encoder.setTarget buffer⟩ }

/-- A value as `write_as_ion` hands it to a value writer: a scalar, by the bytes the value
writer's scalar method writes, annotations included, or a list, an s-expression or a struct,
written with `write_list`, `write_sexp` or `write_struct`. -/
inductive ValueWrite where
  | scalar (bytes : List UInt8)
  | list (values : List ValueWrite)
  | sexp (values : List ValueWrite)
  | struct (fields : List (RawSymbolRef × ValueWrite))

section Tree

variable (flexUInt : Nat → Except IonError (List UInt8)) (flexSym : RawSymbolRef → List UInt8)
  (delimited : Bool)

/-- `list_writer()` of a value writer on `buffer`. -/
def listWriter (buffer : List UInt8) : BinarySequenceWriter :=
  if delimited then BinaryListWriter.newDelimited buffer
  else BinaryListWriter.newLengthPrefixed buffer

/-- `sexp_writer()` of a value writer on `buffer`. -/
def sexpWriter (buffer : List UInt8) : BinarySequenceWriter :=
  if delimited then BinarySExpWriter.newDelimited buffer
  else BinarySExpWriter.newLengthPrefixed buffer

/-- `struct_writer()` of a value writer on `buffer`. -/
def structWriter (buffer : List UInt8) : BinaryStructWriter :=
  if delimited then BinaryStructWriter.newDelimited buffer
  else BinaryStructWriter.newLengthPrefixed buffer

mutual

/-- `value.write_as_ion(value_writer)` for a value writer on `buffer`: that buffer once the value
is in it.  `write_list`, `write_sexp` and `write_struct` open the container's writer, `write_all`
its children and `close` it. -/
def ValueWrite.writeAsIon (buffer : List UInt8) : ValueWrite → Except IonError (List UInt8)
  | .scalar bytes => .ok (buffer ++ bytes)
  | .list values => do
    let list ← BinarySequenceWriter.writeAll (listWriter delimited buffer) values
    list.close flexUInt
  | .sexp values => do
    let sexp ← BinarySequenceWriter.writeAll (sexpWriter delimited buffer) values
    sexp.close flexUInt
  | .struct fields => do
    let strukt ← BinaryStructWriter.writeAllValues (structWriter delimited buffer) fields
    BinaryStructWriter.close flexUInt strukt

/-- `SequenceWriter::write_all`: `write` for each value in turn, up to the first error.  `write`
hands the value a value writer on the child values buffer. -/
def BinarySequenceWriter.writeAll (writer : BinarySequenceWriter) :
    List ValueWrite → Except IonError BinarySequenceWriter
  | [] => .ok writer
  | value :: values => do
    let buffer ← ValueWrite.writeAsIon writer.childValuesBuffer value
    BinarySequenceWriter.writeAll (writer.setValues buffer) values

/-- `StructWriter::write_all` over values that `write_as_ion` writes: for each field,
`encode_field_name`, then the value through `make_value_writer`, up to the first error. -/
def BinaryStructWriter.writeAllValues (writer : BinaryStructWriter) :
    List (RawSymbolRef × ValueWrite) → Except IonError BinaryStructWriter
  | [] => .ok writer
  | (name, value) :: fields => do
    let writer ← BinaryStructWriter.encodeFieldName flexUInt flexSym writer name
    let buffer ← ValueWrite.writeAsIon writer.fieldsBuffer value
    BinaryStructWriter.writeAllValues (writer.setFields buffer) fields

end

/-! ### Writing only appends -/

/-- The same sequence writer over a parent buffer that holds `buffer` before what it held. -/
def BinarySequenceWriter.prefixed (writer : BinarySequenceWriter) (buffer : List UInt8) :
    BinarySequenceWriter :=
  ⟨⟨writer.containerWriter.encoder.prefixed buffer⟩⟩

/-- The same struct writer over a parent buffer that holds `buffer` before what it held. -/
def BinaryStructWriter.prefixed (writer : BinaryStructWriter) (buffer : List UInt8) :
    BinaryStructWriter :=
  { writer with containerWriter := ⟨writer.containerWriter.encoder.prefixed buffer⟩ }

theorem listWriter_prefixed (buffer : List UInt8) :
    listWriter delimited buffer = (listWriter delimited []).prefixed buffer := by
  cases delimited <;> simp [listWriter, BinaryListWriter.newDelimited,
    BinaryListWriter.newLengthPrefixed, BinarySequenceWriter.prefixed,
    BinaryContainerWriter.newDelimited, BinaryContainerWriter.newLengthPrefixed,
    ContainerEncodingKind.prefixed]

theorem sexpWriter_prefixed (buffer : List UInt8) :
    sexpWriter delimited buffer = (sexpWriter delimited []).prefixed buffer := by
  cases delimited <;> simp [sexpWriter, BinarySExpWriter.newDelimited,
    BinarySExpWriter.newLengthPrefixed, BinarySequenceWriter.prefixed,
    BinaryContainerWriter.newDelimited, BinaryContainerWriter.newLengthPrefixed,
    ContainerEncodingKind.prefixed]

theorem structWriter_prefixed (buffer : List UInt8) :
    structWriter delimited buffer = (structWriter delimited []).prefixed buffer := by
  cases delimited <;> simp [structWriter, BinaryStructWriter.newDelimited,
    BinaryStructWriter.newLengthPrefixed, BinaryStructWriter.prefixed,
    BinaryContainerWriter.newDelimited, BinaryContainerWriter.newLengthPrefixed,
    ContainerEncodingKind.prefixed]

namespace BinarySequenceWriter

theorem setValues_prefixed (writer : BinarySequenceWriter) (buffer bytes : List UInt8) :
    (writer.prefixed buffer).setValues ((writer.prefixed buffer).childValuesBuffer ++ bytes) =
      (writer.setValues (writer.childValuesBuffer ++ bytes)).prefixed buffer := by
  simp only [setValues, prefixed, childValuesBuffer, BinaryContainerWriter.childValuesBuffer,
    ContainerEncodingKind.prefixed_setTarget]

theorem close_prefixed (writer : BinarySequenceWriter) (buffer : List UInt8) :
    (writer.prefixed buffer).close flexUInt = (writer.close flexUInt).map (buffer ++ ·) :=
  BinaryContainerWriter.endContainer_prefixed flexUInt _ _

end BinarySequenceWriter

namespace BinaryStructWriter

theorem setFields_prefixed (writer : BinaryStructWriter) (buffer bytes : List UInt8) :
    (writer.prefixed buffer).setFields ((writer.prefixed buffer).fieldsBuffer ++ bytes) =
      (writer.setFields (writer.fieldsBuffer ++ bytes)).prefixed buffer := by
  simp only [setFields, prefixed, fieldsBuffer, BinaryContainerWriter.childValuesBuffer,
    ContainerEncodingKind.prefixed_setTarget]

theorem extendFields_prefixed (writer : BinaryStructWriter) (buffer bytes : List UInt8) :
    (writer.prefixed buffer).extendFields bytes = (writer.extendFields bytes).prefixed buffer := by
  simp only [extendFields, prefixed, ContainerEncodingKind.prefixed_extendTarget]

theorem encodeFieldName_prefixed (writer : BinaryStructWriter) (buffer : List UInt8)
    (name : RawSymbolRef) :
    encodeFieldName flexUInt flexSym (writer.prefixed buffer) name =
      (encodeFieldName flexUInt flexSym writer name).map (·.prefixed buffer) := by
  have hmode : (writer.prefixed buffer).flexUIntEncoding = writer.flexUIntEncoding := rfl
  simp only [encodeFieldName, hmode]
  split
  · cases flexUInt _ <;> simp [Except.map, extendFields_prefixed]
  · simp [Except.map, extendFields, prefixed, ContainerEncodingKind.prefixed_extendTarget]
  · simp [Except.map, extendFields_prefixed]

theorem close_prefixed (writer : BinaryStructWriter) (buffer : List UInt8) :
    close flexUInt (writer.prefixed buffer) = (close flexUInt writer).map (buffer ++ ·) := by
  obtain ⟨mode, ⟨encoder⟩⟩ := writer
  cases encoder with
  | delimited target =>
    simp [close, prefixed, extendFields, ContainerEncodingKind.prefixed,
      ContainerEncodingKind.extendTarget, BinaryContainerWriter.endContainer, Except.map]
  | lengthPrefixed typeCode flexLenTypeCode parentBuffer childValuesBuffer =>
    exact BinaryContainerWriter.endContainer_prefixed flexUInt
      (.lengthPrefixed typeCode flexLenTypeCode parentBuffer childValuesBuffer) buffer

end BinaryStructWriter

mutual

theorem ValueWrite.writeAsIon_append (buffer : List UInt8) : ∀ value : ValueWrite,
    value.writeAsIon flexUInt flexSym delimited buffer =
      (value.writeAsIon flexUInt flexSym delimited []).map (buffer ++ ·)
  | .scalar bytes => rfl
  | .list values => by
    simp only [ValueWrite.writeAsIon]
    rw [listWriter_prefixed, BinarySequenceWriter.writeAll_prefixed]
    cases BinarySequenceWriter.writeAll flexUInt flexSym delimited (listWriter delimited [])
      values <;>
      simp [bind, Except.bind, Except.map, BinarySequenceWriter.close_prefixed]
  | .sexp values => by
    simp only [ValueWrite.writeAsIon]
    rw [sexpWriter_prefixed, BinarySequenceWriter.writeAll_prefixed]
    cases BinarySequenceWriter.writeAll flexUInt flexSym delimited (sexpWriter delimited [])
      values <;>
      simp [bind, Except.bind, Except.map, BinarySequenceWriter.close_prefixed]
  | .struct fields => by
    simp only [ValueWrite.writeAsIon]
    rw [structWriter_prefixed, BinaryStructWriter.writeAllValues_prefixed]
    cases BinaryStructWriter.writeAllValues flexUInt flexSym delimited (structWriter delimited [])
      fields <;> simp [bind, Except.bind, Except.map, BinaryStructWriter.close_prefixed]

theorem BinarySequenceWriter.writeAll_prefixed (writer : BinarySequenceWriter)
    (buffer : List UInt8) :
    ∀ values : List ValueWrite,
      BinarySequenceWriter.writeAll flexUInt flexSym delimited (writer.prefixed buffer) values =
        (BinarySequenceWriter.writeAll flexUInt flexSym delimited writer values).map
          (·.prefixed buffer)
  | [] => rfl
  | value :: values => by
    simp only [BinarySequenceWriter.writeAll]
    rw [ValueWrite.writeAsIon_append (writer.prefixed buffer).childValuesBuffer,
      ValueWrite.writeAsIon_append writer.childValuesBuffer]
    cases value.writeAsIon flexUInt flexSym delimited [] with
    | error e => rfl
    | ok bytes =>
      simp only [bind, Except.bind, Except.map, BinarySequenceWriter.setValues_prefixed]
      exact BinarySequenceWriter.writeAll_prefixed _ _ values

theorem BinaryStructWriter.writeAllValues_prefixed (writer : BinaryStructWriter)
    (buffer : List UInt8) : ∀ fields : List (RawSymbolRef × ValueWrite),
      BinaryStructWriter.writeAllValues flexUInt flexSym delimited (writer.prefixed buffer) fields =
        (BinaryStructWriter.writeAllValues flexUInt flexSym delimited writer fields).map
          (·.prefixed buffer)
  | [] => rfl
  | (name, value) :: fields => by
    simp only [BinaryStructWriter.writeAllValues]
    rw [BinaryStructWriter.encodeFieldName_prefixed]
    cases BinaryStructWriter.encodeFieldName flexUInt flexSym writer name with
    | error e => rfl
    | ok named =>
      simp only [bind, Except.bind, Except.map]
      rw [ValueWrite.writeAsIon_append (named.prefixed buffer).fieldsBuffer,
        ValueWrite.writeAsIon_append named.fieldsBuffer]
      cases value.writeAsIon flexUInt flexSym delimited [] with
      | error e => rfl
      | ok bytes =>
        simp only [Except.map, BinaryStructWriter.setFields_prefixed]
        exact BinaryStructWriter.writeAllValues_prefixed _ _ fields

end

/-! ### `write_all` lays the children end to end -/

namespace BinarySequenceWriter

@[simp] theorem childValuesBuffer_setValues (writer : BinarySequenceWriter) (buffer : List UInt8) :
    (writer.setValues buffer).childValuesBuffer = buffer :=
  ContainerEncodingKind.targetBuffer_setTarget _ _

@[simp] theorem setValues_setValues (writer : BinarySequenceWriter) (first second : List UInt8) :
    (writer.setValues first).setValues second = writer.setValues second := by
  simp only [setValues, ContainerEncodingKind.setTarget_setTarget]

@[simp] theorem setValues_childValuesBuffer (writer : BinarySequenceWriter) :
    writer.setValues writer.childValuesBuffer = writer := by
  simp [setValues, childValuesBuffer, BinaryContainerWriter.childValuesBuffer]

/-- `write_all` writes each child's own encoding after what the child values buffer held, and
fails with the first child that fails. -/
theorem writeAll_eq_mapM (writer : BinarySequenceWriter) (values : List ValueWrite) :
    writeAll flexUInt flexSym delimited writer values =
      (values.mapM (ValueWrite.writeAsIon flexUInt flexSym delimited [])).map
        fun encodings => writer.setValues (writer.childValuesBuffer ++ encodings.flatten) := by
  induction values generalizing writer with
  | nil =>
    rw [List.mapM_nil]
    simp [writeAll, Except.map, pure, Except.pure]
  | cons value values ih =>
    rw [writeAll, ValueWrite.writeAsIon_append, List.mapM_cons]
    cases value.writeAsIon flexUInt flexSym delimited [] with
    | error e => rfl
    | ok bytes =>
      simp only [bind, Except.bind, Except.map, ih]
      cases values.mapM (ValueWrite.writeAsIon flexUInt flexSym delimited []) <;>
        simp [pure, Except.pure, List.append_assoc]

/-- A length-prefixed list or s-expression: its header, then its children's encodings. -/
theorem writeAll_close_lengthPrefixed (typeCode flexLenTypeCode : UInt8) (parent : List UInt8)
    (values : List ValueWrite) :
    writeAll flexUInt flexSym delimited ⟨.newLengthPrefixed typeCode flexLenTypeCode parent⟩
        values >>= close flexUInt =
      values.mapM (ValueWrite.writeAsIon flexUInt flexSym delimited []) >>= fun encodings =>
        (BinaryContainerWriter.lengthPrefix flexUInt typeCode flexLenTypeCode
          encodings.flatten.length).map (parent ++ · ++ encodings.flatten) := by
  rw [writeAll_eq_mapM]
  cases values.mapM (ValueWrite.writeAsIon flexUInt flexSym delimited []) <;> rfl

/-- A delimited list or s-expression: its opcode, its children's encodings and `0xF0`. -/
theorem writeAll_close_delimited (opcode : UInt8) (parent : List UInt8)
    (values : List ValueWrite) :
    writeAll flexUInt flexSym delimited ⟨.newDelimited opcode parent⟩ values >>=
        close flexUInt =
      (values.mapM (ValueWrite.writeAsIon flexUInt flexSym delimited [])).map fun encodings =>
        parent ++ opcode :: encodings.flatten ++ [0xF0] := by
  rw [writeAll_eq_mapM]
  cases values.mapM (ValueWrite.writeAsIon flexUInt flexSym delimited []) <;>
    simp [bind, Except.bind, Except.map, close, setValues, childValuesBuffer,
      BinaryContainerWriter.newDelimited, BinaryContainerWriter.childValuesBuffer,
      ContainerEncodingKind.targetBuffer, ContainerEncodingKind.setTarget,
      BinaryContainerWriter.endContainer_delimited]

end BinarySequenceWriter

namespace BinaryStructWriter

@[simp] theorem fieldsBuffer_setFields (writer : BinaryStructWriter) (buffer : List UInt8) :
    (writer.setFields buffer).fieldsBuffer = buffer :=
  ContainerEncodingKind.targetBuffer_setTarget _ _

theorem setFields_append (writer : BinaryStructWriter) (bytes : List UInt8) :
    writer.setFields (writer.fieldsBuffer ++ bytes) = writer.extendFields bytes := by
  simp only [setFields, fieldsBuffer, BinaryContainerWriter.childValuesBuffer,
    ContainerEncodingKind.setTarget_append, extendFields]

/-- Over values that all write, `write_all` is the struct writer's `write_all` of
`Binary.StructWriter` over their encodings: each name, then that value's own encoding. -/
theorem writeAllValues_eq_writeAll (writer : BinaryStructWriter)
    (fields : List (RawSymbolRef × ValueWrite)) (encodings : List (List UInt8))
    (hencodings : fields.mapM (fun field => field.2.writeAsIon flexUInt flexSym delimited []) =
      .ok encodings) :
    writeAllValues flexUInt flexSym delimited writer fields =
      writeAll flexUInt flexSym writer ((fields.map Prod.fst).zip encodings) := by
  induction fields generalizing writer encodings with
  | nil =>
    rw [List.mapM_nil] at hencodings
    cases hencodings
    rfl
  | cons field fields ih =>
    obtain ⟨name, value⟩ := field
    rw [List.mapM_cons] at hencodings
    rcases hvalue : value.writeAsIon flexUInt flexSym delimited [] with e | bytes <;>
      rw [hvalue] at hencodings
    · cases hencodings
    rcases hrest : fields.mapM (fun field => field.2.writeAsIon flexUInt flexSym delimited []) with
      e | rest <;> simp only [hrest, bind, Except.bind, pure, Except.pure] at hencodings
    · cases hencodings
    cases hencodings
    simp only [writeAllValues, List.map_cons, List.zip_cons_cons, writeAll, write]
    cases encodeFieldName flexUInt flexSym writer name with
    | error e => rfl
    | ok named =>
      simp only [bind, Except.bind, Except.map]
      rw [ValueWrite.writeAsIon_append _ _ _ named.fieldsBuffer, hvalue]
      simp only [Except.map, setFields_append]
      exact ih _ rest hrest

theorem encoder_extendFields (writer : BinaryStructWriter) (bytes : List UInt8) :
    (writer.extendFields bytes).containerWriter.encoder =
      writer.containerWriter.encoder.setTarget (writer.extendFields bytes).fieldsBuffer := by
  simp [extendFields, fieldsBuffer, BinaryContainerWriter.childValuesBuffer]

/-- Naming a field changes only the fields buffer of the container being written. -/
theorem encoder_of_encodeFieldName {writer named : BinaryStructWriter} {name : RawSymbolRef}
    (h : encodeFieldName flexUInt flexSym writer name = .ok named) :
    named.containerWriter.encoder =
      writer.containerWriter.encoder.setTarget named.fieldsBuffer := by
  revert h
  unfold encodeFieldName
  cases writer.flexUIntEncoding <;> cases name.positiveSid? <;> intro h
  case true.some sid =>
    cases hflex : flexUInt sid <;> simp only [hflex, Except.map] at h <;> cases h
    exact encoder_extendFields _ _
  all_goals
    cases h
    simp [extendFields, fieldsBuffer, BinaryContainerWriter.childValuesBuffer]

/-- `write_all` changes only the fields buffer of the container being written. -/
theorem encoder_of_writeAll {writer written : BinaryStructWriter}
    {fields : List (RawSymbolRef × List UInt8)}
    (h : writeAll flexUInt flexSym writer fields = .ok written) :
    written.containerWriter.encoder =
      writer.containerWriter.encoder.setTarget written.fieldsBuffer := by
  induction fields generalizing writer with
  | nil => cases h; simp [fieldsBuffer, BinaryContainerWriter.childValuesBuffer]
  | cons field fields ih =>
    simp only [writeAll, write] at h
    rcases hname : encodeFieldName flexUInt flexSym writer field.1 with e | named <;>
      simp only [hname, Except.map, bind, Except.bind] at h
    · cases h
    rw [ih h, encoder_extendFields, encoder_of_encodeFieldName flexUInt flexSym hname,
      ContainerEncodingKind.setTarget_setTarget, ContainerEncodingKind.setTarget_setTarget]

end BinaryStructWriter

theorem mapM_ok_length {α β ε : Type} {f : α → Except ε β} :
    ∀ {xs : List α} {ys : List β}, xs.mapM f = .ok ys → ys.length = xs.length
  | [], ys, h => by rw [List.mapM_nil] at h; cases h; rfl
  | x :: xs, ys, h => by
    rw [List.mapM_cons] at h
    rcases hx : f x with e | y <;> rw [hx] at h
    · cases h
    rcases hxs : xs.mapM f with e | rest <;>
      simp only [hxs, bind, Except.bind, pure, Except.pure] at h
    · cases h
    cases h
    simp [mapM_ok_length hxs]

/-- What `write_struct` writes, once every field's value writes: length-prefixed, the header and
then the names as `nameBytesLayout` lays them out, each before its value's own encoding;
delimited, `0xF3`, each name's `FlexSym` before its value's own encoding, and `0x01 0xF0`. -/
theorem writeAsIon_struct (parent : List UInt8) (fields : List (RawSymbolRef × ValueWrite))
    (encodings : List (List UInt8))
    (hencodings : fields.mapM (fun field => field.2.writeAsIon flexUInt flexSym delimited []) =
      .ok encodings) :
    (ValueWrite.struct fields).writeAsIon flexUInt flexSym delimited parent =
      if delimited then
        .ok (parent ++ [0xF3] ++ interleaveFields ((fields.map Prod.fst).map flexSym) encodings ++
          [0x01, 0xF0])
      else
        (BinaryStructWriter.nameBytesLayout flexUInt flexSym (fields.map Prod.fst)).bind
          fun nameBytes =>
            (BinaryContainerWriter.lengthPrefix flexUInt 0xD0 0xFD
              (interleaveFields nameBytes encodings).length).map
              (parent ++ · ++ interleaveFields nameBytes encodings) := by
  have hlength := mapM_ok_length hencodings
  have hnames : ((fields.map Prod.fst).zip encodings).map Prod.fst = fields.map Prod.fst :=
    List.map_fst_zip _ _ (by simp [hlength])
  have hvalues : ((fields.map Prod.fst).zip encodings).map Prod.snd = encodings :=
    List.map_snd_zip _ _ (by simp [hlength])
  simp only [ValueWrite.writeAsIon]
  rw [BinaryStructWriter.writeAllValues_eq_writeAll _ _ _ _ _ _ hencodings]
  cases delimited with
  | true =>
    rw [if_pos rfl, BinaryStructWriter.writeAll_of_flexSym _ _ _ _ rfl, hnames, hvalues]
    exact BinaryStructWriter.close_of_delimited flexUInt
      ((structWriter true parent).extendFields
        (interleaveFields ((fields.map Prod.fst).map flexSym) encodings))
      (parent ++ [0xF3] ++ interleaveFields ((fields.map Prod.fst).map flexSym) encodings) rfl
  | false =>
    have hlayout := BinaryStructWriter.writeAll_of_flexUInt flexUInt flexSym
      (structWriter false parent) ((fields.map Prod.fst).zip encodings) rfl
    rw [hnames, hvalues] at hlayout
    rw [if_neg Bool.false_ne_true]
    rcases hwritten : BinaryStructWriter.writeAll flexUInt flexSym (structWriter false parent)
      ((fields.map Prod.fst).zip encodings) with e | written <;>
      rcases hnameBytes : BinaryStructWriter.nameBytesLayout flexUInt flexSym
        (fields.map Prod.fst) with e' | nameBytes <;>
      simp only [hwritten, hnameBytes, Except.map, Except.error.injEq, Except.ok.injEq] at hlayout
    · subst hlayout
      rfl
    · cases hlayout
    · cases hlayout
    · have hencoder : written.containerWriter.encoder =
          .lengthPrefixed 0xD0 0xFD parent (interleaveFields nameBytes encodings) := by
        rw [BinaryStructWriter.encoder_of_writeAll flexUInt flexSym hwritten, hlayout]
        rfl
      simp only [bind, Except.bind, BinaryStructWriter.close, BinaryContainerWriter.endContainer,
        hencoder]
      rfl

/-- `{$10: 2}` after one byte of a parent, delimited. -/
theorem writeAsIon_struct_oneField :
    (ValueWrite.struct [(.symbolId 10, .scalar [0x61, 0x02])]).writeAsIon
        (fun _ => .error .incomplete) (fun _ => [0xEE]) true [0x99] =
      .ok [0x99, 0xF3, 0xEE, 0x61, 0x02, 0x01, 0xF0] :=
  (writeAsIon_struct (fun _ => .error .incomplete) (fun _ => [0xEE]) true [0x99]
    [(.symbolId 10, .scalar [0x61, 0x02])] [[0x61, 0x02]] rfl).trans rfl

/-- A list holding `1`, an empty s-expression and `{$10: 2}`, written length-prefixed. -/
example : ValueWrite.writeAsIon (fun n => .ok [UInt8.ofNat (2 * n + 1)]) (fun _ => [0xEE]) false
    [0x99]
    (.list [.scalar [0x61, 0x01], .sexp [], .struct [(.symbolId 10, .scalar [0x61, 0x02])]]) =
    .ok [0x99, 0xB7, 0x61, 0x01, 0xC0, 0xD3, 0x15, 0x61, 0x02] := rfl

/-! ## Reading a written sequence back -/

/-- The bytes of `buffer` in `range`. -/
def ByteRange.slice (range : ByteRange) (buffer : List UInt8) : List UInt8 :=
  (buffer.drop range.start).take range.len

/-- The layout of a body that holds `encodings` end to end, with no padding. -/
def childLayout (encodings : List (List UInt8)) : List BodyChunk :=
  encodings.map fun encoding => .child encoding.length

@[simp] theorem childLayout_nil : childLayout [] = [] := rfl

@[simp] theorem childLayout_cons (encoding : List UInt8) (encodings : List (List UInt8)) :
    childLayout (encoding :: encodings) = .child encoding.length :: childLayout encodings := rfl

@[simp] theorem childLayout_length (encodings : List (List UInt8)) :
    (childLayout encodings).length = encodings.length :=
  List.length_map _ _

@[simp] theorem bodyWidth_childLayout (encodings : List (List UInt8)) :
    bodyWidth (childLayout encodings) = encodings.flatten.length := by
  induction encodings with
  | nil => rfl
  | cons encoding encodings ih => simp [BodyChunk.length, ih]

theorem padsOnlyAtEnd_childLayout (encodings : List (List UInt8)) :
    padsOnlyAtEnd (childLayout encodings) = true := by
  induction encodings with
  | nil => rfl
  | cons _ _ ih => exact ih

/-- Laid out after `before`, the children's ranges hold the children's encodings. -/
theorem childRanges_slice (before after : List UInt8) (encodings : List (List UInt8)) :
    (childRanges before.length (childLayout encodings)).map
        (·.slice (before ++ encodings.flatten ++ after)) = encodings := by
  induction encodings generalizing before with
  | nil => rfl
  | cons encoding encodings ih =>
    have hrest := ih (before ++ encoding)
    simp only [List.length_append, List.append_assoc] at hrest
    have hfirst : ByteRange.slice ⟨before.length, before.length + encoding.length⟩
        (before ++ (encoding ++ (encodings.flatten ++ after))) = encoding := by
      simp [ByteRange.slice, ByteRange.len]
    rw [childLayout_cons, childRanges]
    simp only [List.map_cons, List.flatten_cons, List.append_assoc, hfirst, hrest]

/-- How a reader takes a length-prefixed container's header apart, as the Ion 1.1 binary encoding
lays it out (the reader's opcode table is not under src/): an opcode whose high nibble is the type
code holds the body's length in its low nibble, and the flex-length opcode is followed by the
length as a `FlexUInt`, which `readFlexUInt` reads.  The result is the length and the bytes after
the header. -/
def readLengthPrefix (readFlexUInt : List UInt8 → Option (Nat × List UInt8))
    (typeCode flexLenTypeCode : UInt8) : List UInt8 → Option (Nat × List UInt8)
  | [] => none
  | opcode :: rest =>
    if opcode &&& 0xF0 = typeCode then some ((opcode &&& 0x0F).toNat, rest)
    else if opcode = flexLenTypeCode then readFlexUInt rest
    else none

/-- The type codes of the length-prefixed list, s-expression and struct leave the low nibble
free for a length up to 15, and their flex-length opcodes do not look like them. -/
theorem lengthNibbles {typeCode flexLenTypeCode : UInt8}
    (htypes : typeCode = 0xB0 ∧ flexLenTypeCode = 0xFB ∨
      typeCode = 0xC0 ∧ flexLenTypeCode = 0xFC ∨ typeCode = 0xD0 ∧ flexLenTypeCode = 0xFD)
    {length : Nat} (hlength : length ≤ 15) :
    (typeCode ||| UInt8.ofNat length) &&& 0xF0 = typeCode ∧
      ((typeCode ||| UInt8.ofNat length) &&& 0x0F).toNat = length ∧
      ¬flexLenTypeCode &&& 0xF0 = typeCode := by
  obtain ⟨length, hlt⟩ : ∃ n : Fin 16, n.val = length := ⟨⟨length, by omega⟩, rfl⟩
  subst hlt
  rcases htypes with ⟨rfl, rfl⟩ | ⟨rfl, rfl⟩ | ⟨rfl, rfl⟩ <;> revert length <;> decide

section ReadBack

variable (readFlexUInt : List UInt8 → Option (Nat × List UInt8))

/-- A header that `end` writes reads back as the length of the body after it. -/
theorem readLengthPrefix_lengthPrefix
    (hflex : ∀ n flex rest, flexUInt n = .ok flex →
      readFlexUInt (flex ++ rest) = some (n, rest))
    {typeCode flexLenTypeCode : UInt8}
    (htypes : typeCode = 0xB0 ∧ flexLenTypeCode = 0xFB ∨
      typeCode = 0xC0 ∧ flexLenTypeCode = 0xFC ∨ typeCode = 0xD0 ∧ flexLenTypeCode = 0xFD)
    {body header : List UInt8}
    (hheader : BinaryContainerWriter.lengthPrefix flexUInt typeCode flexLenTypeCode body.length =
      .ok header) :
    readLengthPrefix readFlexUInt typeCode flexLenTypeCode (header ++ body) =
      some (body.length, body) := by
  unfold BinaryContainerWriter.lengthPrefix at hheader
  split at hheader
  · -- the length in the opcode's low nibble
    rename_i hshort
    obtain ⟨hhigh, hlow, -⟩ := lengthNibbles htypes hshort
    cases hheader
    simp [readLengthPrefix, hhigh, hlow]
  · -- the flex-length opcode and a `FlexUInt`
    rename_i hlong
    obtain ⟨-, -, hflexLen⟩ := lengthNibbles htypes (Nat.zero_le 15)
    cases hflexed : flexUInt body.length with
    | error e => simp [hflexed, Except.map] at hheader
    | ok flex =>
      simp only [hflexed, Except.map, Except.ok.injEq] at hheader
      subst hheader
      simp [readLengthPrefix, hflexLen, hflex _ _ _ hflexed]

/-- What `write_list` and `write_sexp` write length-prefixed, read back: the header after the
parent's bytes gives the body's length, and the sequence iterator over the body, through any
readers that meet contract (1) for it, yields one range per child, holding that child's
encoding, in order, and then `None`. -/
theorem lengthPrefixed_readBack
    (hflex : ∀ n flex rest, flexUInt n = .ok flex →
      readFlexUInt (flex ++ rest) = some (n, rest))
    (parent : List UInt8) (value : ValueWrite) (values : List ValueWrite)
    (typeCode flexLenTypeCode : UInt8)
    (hvalue : value = .list values ∧ typeCode = 0xB0 ∧ flexLenTypeCode = 0xFB ∨
      value = .sexp values ∧ typeCode = 0xC0 ∧ flexLenTypeCode = 0xFC)
    (out : List UInt8) (hout : value.writeAsIon flexUInt flexSym false parent = .ok out) :
    ∃ encodings header,
      values.mapM (ValueWrite.writeAsIon flexUInt flexSym false []) = .ok encodings ∧
      out = parent ++ header ++ encodings.flatten ∧
      readLengthPrefix readFlexUInt typeCode flexLenTypeCode (out.drop parent.length) =
        some (encodings.flatten.length, encodings.flatten) ∧
      ∀ readers : BufferReaders,
        PeeksFirstChild readers.peekSequenceValueExpr (parent ++ header).length
          (childLayout encodings) →
        ((RawBinarySequenceIterator.new ⟨(parent ++ header).length, encodings.flatten.length⟩
            none).items readers (encodings.length + 1)).map
            (·.map (Except.map (·.slice out))) =
          some (encodings.map .ok) := by
  have hwrite : value.writeAsIon flexUInt flexSym false parent =
      values.mapM (ValueWrite.writeAsIon flexUInt flexSym false []) >>= fun encodings =>
        (BinaryContainerWriter.lengthPrefix flexUInt typeCode flexLenTypeCode
          encodings.flatten.length).map (parent ++ · ++ encodings.flatten) := by
    rcases hvalue with ⟨rfl, rfl, rfl⟩ | ⟨rfl, rfl, rfl⟩ <;>
      exact BinarySequenceWriter.writeAll_close_lengthPrefixed _ _ _ _ _ parent values
  rw [hwrite] at hout
  rcases hencodings : values.mapM (ValueWrite.writeAsIon flexUInt flexSym false []) with
    e | encodings <;> rw [hencodings] at hout
  · cases hout
  rcases hheader : BinaryContainerWriter.lengthPrefix flexUInt typeCode flexLenTypeCode
    encodings.flatten.length with e | header <;>
    simp only [bind, Except.bind, hheader, Except.map, Except.ok.injEq] at hout
  · cases hout
  subst hout
  refine ⟨encodings, header, rfl, rfl, ?_, fun readers hpeek => ?_⟩
  · rw [List.append_assoc, List.drop_left]
    exact readLengthPrefix_lengthPrefix flexUInt readFlexUInt hflex
      (by rcases hvalue with ⟨-, h⟩ | ⟨-, h⟩ <;> simp [h]) hheader
  · have hitems := RawBinarySequenceIterator.items_lengthPrefixed (childLayout encodings)
      (parent ++ header).length 0 (encodings.length + 1) (by simpa using hpeek)
      (padsOnlyAtEnd_childLayout encodings) (by simp)
    simp only [Nat.zero_add, bodyWidth_childLayout, Nat.add_zero] at hitems
    simp only [RawBinarySequenceIterator.new, hitems, Option.map_some', List.map_map]
    simpa using congrArg (List.map Except.ok) (childRanges_slice (parent ++ header) [] encodings)

/-- `[1]` after one byte of a parent, with a `FlexUInt` writer that fails, which so short a body
never calls. -/
theorem lengthPrefixed_readBack_oneInt :
    ∃ (encodings : List (List UInt8)) (header : List UInt8),
      [ValueWrite.scalar [0x61, 0x01]].mapM
          (ValueWrite.writeAsIon (fun _ => .error .incomplete) (fun _ => []) false []) =
        .ok encodings ∧
      ([0x99, 0xB2, 0x61, 0x01] : List UInt8) = [0x99] ++ header ++ encodings.flatten ∧
      readLengthPrefix (fun _ => none) 0xB0 0xFB (([0x99, 0xB2, 0x61, 0x01] : List UInt8).drop 1) =
        some (encodings.flatten.length, encodings.flatten) ∧
      ∀ readers : BufferReaders,
        PeeksFirstChild readers.peekSequenceValueExpr ([0x99] ++ header).length
          (childLayout encodings) →
        ((RawBinarySequenceIterator.new ⟨([0x99] ++ header).length, encodings.flatten.length⟩
            none).items readers (encodings.length + 1)).map
            (·.map (Except.map (·.slice [0x99, 0xB2, 0x61, 0x01]))) =
          some (encodings.map .ok) :=
  lengthPrefixed_readBack (fun _ => .error .incomplete) (fun _ => []) (fun _ => none)
    (fun _ _ _ h => by cases h) [0x99] (.list [.scalar [0x61, 0x01]]) [.scalar [0x61, 0x01]] 0xB0
    0xFB (.inl ⟨rfl, rfl, rfl⟩) [0x99, 0xB2, 0x61, 0x01] rfl

/-- What `write_list` and `write_sexp` write delimited, read back: the opcode, the body and
`0xF0` after the parent's bytes, and the sequence iterator over the body and its closing opcode,
through any readers that meet contracts (1) and (2) for it, yields one range per child, holding
that child's encoding, in order, and then `None`. -/
theorem delimited_readBack (parent : List UInt8) (value : ValueWrite) (values : List ValueWrite)
    (opcode : UInt8)
    (hvalue : value = .list values ∧ opcode = 0xF1 ∨ value = .sexp values ∧ opcode = 0xF2)
    (out : List UInt8) (hout : value.writeAsIon flexUInt flexSym true parent = .ok out) :
    ∃ encodings,
      values.mapM (ValueWrite.writeAsIon flexUInt flexSym true []) = .ok encodings ∧
      out = parent ++ opcode :: encodings.flatten ++ [0xF0] ∧
      ∀ readers : BufferReaders,
        PeeksFirstChild readers.peekSequenceValueExpr (parent.length + 1)
          (childLayout encodings) →
        PeeksOpcodes readers.peekOpcode (parent.length + 1) (childLayout encodings) →
        ((RawBinarySequenceIterator.new ⟨parent.length + 1, encodings.flatten.length + 1⟩
            (some (delimitedOffsetsOf (parent.length + 1) (childLayout encodings)))).items readers
            (encodings.length + 1)).map (·.map (Except.map (·.slice out))) =
          some (encodings.map .ok) := by
  have hwrite : value.writeAsIon flexUInt flexSym true parent =
      (values.mapM (ValueWrite.writeAsIon flexUInt flexSym true [])).map fun encodings =>
        parent ++ opcode :: encodings.flatten ++ [0xF0] := by
    rcases hvalue with ⟨rfl, rfl⟩ | ⟨rfl, rfl⟩ <;>
      exact BinarySequenceWriter.writeAll_close_delimited _ _ _ _ parent values
  rw [hwrite] at hout
  rcases hencodings : values.mapM (ValueWrite.writeAsIon flexUInt flexSym true []) with
    e | encodings <;> simp only [hencodings, Except.map, Except.ok.injEq] at hout
  · cases hout
  subst hout
  refine ⟨encodings, rfl, rfl, fun readers hpeek hopcodes => ?_⟩
  have hitems := RawBinarySequenceIterator.items_delimited
    ⟨parent.length + 1, encodings.flatten.length + 1⟩ 0 (childLayout encodings)
    (parent.length + 1)
    (encodings.length + 1) hpeek hopcodes le_rfl (by simp) (by simp)
  simp only [RawBinarySequenceIterator.new, hitems, Option.map_some', List.map_map]
  have hslices := childRanges_slice (parent ++ [opcode]) [0xF0] encodings
  simp only [List.length_append, List.length_singleton, List.append_assoc,
    List.singleton_append] at hslices
  simpa using congrArg (List.map Except.ok) hslices

/-- `(1)` after one byte of a parent, delimited. -/
theorem delimited_readBack_oneInt :
    ∃ encodings : List (List UInt8),
      [ValueWrite.scalar [0x61, 0x01]].mapM
          (ValueWrite.writeAsIon (fun _ => .error .incomplete) (fun _ => []) true []) =
        .ok encodings ∧
      [0x99, 0xF2, 0x61, 0x01, 0xF0] =
        ([0x99] : List UInt8) ++ 0xF2 :: encodings.flatten ++ [0xF0] ∧
      ∀ readers : BufferReaders,
        PeeksFirstChild readers.peekSequenceValueExpr 2 (childLayout encodings) →
        PeeksOpcodes readers.peekOpcode 2 (childLayout encodings) →
        ((RawBinarySequenceIterator.new ⟨2, encodings.flatten.length + 1⟩
            (some (delimitedOffsetsOf 2 (childLayout encodings)))).items readers
            (encodings.length + 1)).map
            (·.map (Except.map (·.slice [0x99, 0xF2, 0x61, 0x01, 0xF0]))) =
          some (encodings.map .ok) :=
  delimited_readBack (fun _ => .error .incomplete) (fun _ => []) [0x99]
    (.sexp [.scalar [0x61, 0x01]]) [.scalar [0x61, 0x01]] 0xF2 (.inr ⟨rfl, rfl⟩)
    [0x99, 0xF2, 0x61, 0x01, 0xF0] rfl

end ReadBack

end Tree

end IonRust
