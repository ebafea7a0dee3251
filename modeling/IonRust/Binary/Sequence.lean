import IonRust.PullLoop

/-!
# The binary 1.1 sequence iterator

`RawBinarySequenceIterator_1_1` reads the child expressions of a list or an s-expression.  A
length-prefixed container is read from a buffer holding its body: each call of `next`
consumes `bytes_to_skip` bytes, peeks the next child after any NOP padding, and keeps the
child's length as the bytes to skip on the next call.  A delimited container is read through
its `delimited_offsets`, the offsets of its children and then of its closing opcode: each call
peeks at the first offset and drops it.

The two readers of the buffer that `next` calls, `peek_sequence_value_expr` and
`peek_opcode`, are parameters here, held to the contracts the iterator relies on.  Those are
stated over a body laid out as child encodings and NOP padding.

The delimited path yields each child once and never panics.  The length-prefixed path skips a
child's length from where the previous call's buffer began, not from the child's end.  After
padding it lands short of the child's end, so a child that follows padding is yielded again.
After `None` it consumes the same length once more, past the end of the buffer.
-/

namespace IonRust

/-- `ImmutableBuffer`, by the absolute offset of its first byte and the number of bytes from
there to its end. -/
structure ImmutableBuffer where
  offset : Nat
  length : Nat
  deriving DecidableEq, Repr

/-- `ImmutableBuffer::consume`, which slices the buffer's data from `numBytes` on: `none` where
that slice panics, past the end of the data. -/
def ImmutableBuffer.consume (buffer : ImmutableBuffer) (numBytes : Nat) : Option ImmutableBuffer :=
  if numBytes ≤ buffer.length then some ⟨buffer.offset + numBytes, buffer.length - numBytes⟩
  else none

/-- The absolute byte range of an encoded expression, `HasRange::range`. -/
structure ByteRange where
  start : Nat
  stop : Nat
  deriving DecidableEq, Repr

def ByteRange.len (range : ByteRange) : Nat :=
  range.stop - range.start

/-- The opcode types, as far as `next` tells them apart. -/
inductive OpcodeType where
  | delimitedContainerClose
  /-- Any other opcode type. -/
  | other
  deriving DecidableEq, Repr

/-- The readers of a buffer that `next` calls: `peek_sequence_value_expr`, by the range of the
expression it finds, and `peek_opcode`, by the opcode's type. -/
structure BufferReaders where
  peekSequenceValueExpr : ImmutableBuffer → Except IonError (Option ByteRange)
  peekOpcode : ImmutableBuffer → Except IonError OpcodeType

/-- `RawBinarySequenceIterator_1_1`; a child expression is its byte range. -/
structure RawBinarySequenceIterator where
  source : ImmutableBuffer
  bytesToSkip : Nat
  delimitedOffsets : Option (List Nat)
  deriving DecidableEq, Repr

namespace RawBinarySequenceIterator

/-- `RawBinarySequenceIterator_1_1::new`. -/
def new (input : ImmutableBuffer) (delimitedOffsets : Option (List Nat)) :
    RawBinarySequenceIterator :=
  ⟨input, 0, delimitedOffsets⟩

variable (readers : BufferReaders)

/-- The delimited arm of `next` over the buffer from the first offset on: `None` at the closing
opcode, and otherwise the expression there, the offset dropped. -/
def readDelimited (it : RawBinarySequenceIterator) (input : ImmutableBuffer) (rest : List Nat) :
    Option (Option (Except IonError ByteRange) × RawBinarySequenceIterator) :=
  match readers.peekOpcode input with
  | .ok .delimitedContainerClose => some (none, it)
  | .ok .other =>
      match readers.peekSequenceValueExpr input with
      | .ok (some output) => some (some (.ok output), { it with delimitedOffsets := some rest })
      | .ok none => some (none, it)
      | .error e => some (some (.error e), it)
  | .error e => some (some (.error e), it)

/-- The delimited arm of `next` at the first of two or more offsets, where
`*offset - self.source.offset()` panics below the source's offset. -/
def nextDelimited (it : RawBinarySequenceIterator) (offset : Nat) (rest : List Nat) :
    Option (Option (Except IonError ByteRange) × RawBinarySequenceIterator) :=
  if offset < it.source.offset then none
  else
    match it.source.consume (offset - it.source.offset) with
    | none => none
    | some input => readDelimited readers it input rest

/-- `RawBinarySequenceIterator_1_1::next`: the item it returns and the iterator after it, or
`none` where it panics. -/
def next (it : RawBinarySequenceIterator) :
    Option (Option (Except IonError ByteRange) × RawBinarySequenceIterator) :=
  match it.delimitedOffsets with
  | some (offset :: next :: rest) => nextDelimited readers it offset (next :: rest)
  | some _ => some (none, it)
  | none =>
      match it.source.consume it.bytesToSkip with
      | none => none
      | some source =>
          match readers.peekSequenceValueExpr source with
          | .ok (some expr) => some (some (.ok expr), ⟨source, expr.len, none⟩)
          | .ok none => some (none, { it with source := source })
          | .error e => some (some (.error e), { it with source := source })

/-- The items of calls of `next` up to the first `None`: `none` when a call panics, or when
`fuel` calls do not reach `None`. -/
def items : Nat → RawBinarySequenceIterator → Option (List (Except IonError ByteRange))
  | 0, _ => none
  | fuel + 1, it =>
      match it.next readers with
      | none => none
      | some (none, _) => some []
      | some (some item, it) => (items fuel it).map (item :: ·)

/-- What `n` calls of `next` return, polling on after `None` and after errors: `none` when a
call panics. -/
def poll : Nat → RawBinarySequenceIterator → Option (List (Option (Except IonError ByteRange)))
  | 0, _ => some []
  | n + 1, it =>
      match it.next readers with
      | none => none
      | some (item, it) => (poll n it).map (item :: ·)

end RawBinarySequenceIterator

/-! ## Container bodies -/

/-- A stretch of a container body: NOP padding, or the encoding of one child expression, by
its length in bytes. -/
inductive BodyChunk where
  | nop (length : Nat)
  | child (length : Nat)
  deriving DecidableEq, Repr

def BodyChunk.length : BodyChunk → Nat
  | .nop length => length
  | .child length => length

def bodyWidth (chunks : List BodyChunk) : Nat :=
  (chunks.map BodyChunk.length).sum

@[simp] theorem bodyWidth_nil : bodyWidth [] = 0 := rfl

@[simp] theorem bodyWidth_cons (chunk : BodyChunk) (rest : List BodyChunk) :
    bodyWidth (chunk :: rest) = chunk.length + bodyWidth rest := by
  simp [bodyWidth]

@[simp] theorem bodyWidth_append (before rest : List BodyChunk) :
    bodyWidth (before ++ rest) = bodyWidth before + bodyWidth rest := by
  simp [bodyWidth]

/-- The ranges of the children of a body laid out from `offset`. -/
def childRanges : Nat → List BodyChunk → List ByteRange
  | _, [] => []
  | offset, .nop length :: rest => childRanges (offset + length) rest
  | offset, .child length :: rest => ⟨offset, offset + length⟩ :: childRanges (offset + length) rest

/-- The first child after any padding. -/
def firstChild : Nat → List BodyChunk → Option ByteRange
  | _, [] => none
  | offset, .nop length :: rest => firstChild (offset + length) rest
  | offset, .child length :: _ => some ⟨offset, offset + length⟩

/-- The contract on `peek_sequence_value_expr` at one boundary of the layout: over a buffer
holding at least the rest of the body, it returns the first child after any padding, or `None`
when only padding is left. -/
def PeeksAt (peek : ImmutableBuffer → Except IonError (Option ByteRange)) (offset : Nat)
    (chunks : List BodyChunk) : Prop :=
  ∀ length, bodyWidth chunks ≤ length → peek ⟨offset, length⟩ = .ok (firstChild offset chunks)

/-- Contract (1): the contract on `peek_sequence_value_expr` at every boundary of the layout. -/
def PeeksFirstChild (peek : ImmutableBuffer → Except IonError (Option ByteRange)) :
    Nat → List BodyChunk → Prop
  | offset, [] => PeeksAt peek offset []
  | offset, chunk :: rest =>
      PeeksAt peek offset (chunk :: rest) ∧ PeeksFirstChild peek (offset + chunk.length) rest

theorem PeeksFirstChild.peeksAt {peek : ImmutableBuffer → Except IonError (Option ByteRange)}
    {offset : Nat} {chunks : List BodyChunk} (h : PeeksFirstChild peek offset chunks) :
    PeeksAt peek offset chunks := by
  cases chunks with
  | nil => exact h
  | cons chunk rest => exact h.1

/-- The rest of a layout from `target` on, if `target` is one of its boundaries. -/
def suffixAt (target : Nat) : Nat → List BodyChunk → Option (List BodyChunk)
  | offset, [] => if offset = target then some [] else none
  | offset, chunk :: rest =>
      if offset = target then some (chunk :: rest) else suffixAt target (offset + chunk.length) rest

/-- Readers that read the layout laid out from `start`: at a boundary they find the first
child after the padding, or the closing opcode at the end; elsewhere the input is incomplete. -/
def layoutReaders (start : Nat) (chunks : List BodyChunk) : BufferReaders where
  peekSequenceValueExpr buffer :=
    match suffixAt buffer.offset start chunks with
    | some rest => .ok (firstChild buffer.offset rest)
    | none => .error .incomplete
  peekOpcode buffer :=
    match suffixAt buffer.offset start chunks with
    | some [] => .ok .delimitedContainerClose
    | some (_ :: _) => .ok .other
    | none => .error .incomplete

theorem suffixAt_append (start : Nat) {before : List BodyChunk} (rest : List BodyChunk)
    (hpos : ∀ chunk ∈ before, 0 < chunk.length) :
    suffixAt (start + bodyWidth before) start (before ++ rest) = some rest := by
  induction before generalizing start with
  | nil => cases rest <;> simp [suffixAt]
  | cons chunk before ih =>
    have hchunk := hpos chunk (List.mem_cons_self _ _)
    have := ih (start + chunk.length) fun c hc => hpos c (List.mem_cons_of_mem _ hc)
    rw [List.cons_append, suffixAt, if_neg (by simp; omega), ← this, bodyWidth_cons, Nat.add_assoc]

/-- The layout's own readers meet contract (1) when every chunk takes at least one byte. -/
theorem layoutReaders_peeksFirstChild (start : Nat) (chunks : List BodyChunk)
    (hpos : ∀ chunk ∈ chunks, 0 < chunk.length) :
    PeeksFirstChild (layoutReaders start chunks).peekSequenceValueExpr start chunks := by
  have hpeek : ∀ before rest, before ++ rest = chunks →
      PeeksAt (layoutReaders start chunks).peekSequenceValueExpr (start + bodyWidth before) rest := by
    intro before rest hsplit length _
    have hsuffix := suffixAt_append start rest fun c hc =>
      hpos c (hsplit ▸ List.mem_append_left _ hc)
    rw [hsplit] at hsuffix
    simp only [layoutReaders, hsuffix]
  suffices h : ∀ rest before, before ++ rest = chunks →
      PeeksFirstChild (layoutReaders start chunks).peekSequenceValueExpr
        (start + bodyWidth before) rest by
    simpa using h chunks [] rfl
  intro rest
  induction rest with
  | nil => exact fun before => hpeek before []
  | cons chunk rest ih =>
    intro before hsplit
    refine ⟨hpeek before _ hsplit, ?_⟩
    simpa [Nat.add_assoc] using ih (before ++ [chunk]) (by simp [← hsplit])

/-- The contract on `peek_opcode`: a child's opcode at each child's start, and the closing
opcode at the end of the body. -/
def PeeksOpcodes (peekOpcode : ImmutableBuffer → Except IonError OpcodeType) (start : Nat)
    (chunks : List BodyChunk) : Prop :=
  (∀ range ∈ childRanges start chunks, ∀ length, peekOpcode ⟨range.start, length⟩ = .ok .other) ∧
    ∀ length, peekOpcode ⟨start + bodyWidth chunks, length⟩ = .ok .delimitedContainerClose

theorem PeeksOpcodes.of_cons {peekOpcode : ImmutableBuffer → Except IonError OpcodeType}
    {start : Nat} {chunk : BodyChunk} {rest : List BodyChunk}
    (h : PeeksOpcodes peekOpcode start (chunk :: rest)) :
    PeeksOpcodes peekOpcode (start + chunk.length) rest := by
  obtain ⟨hchildren, hclose⟩ := h
  refine ⟨fun range hrange => hchildren range ?_, by simpa [Nat.add_assoc] using hclose⟩
  cases chunk <;> simp only [BodyChunk.length] at hrange <;> simp [childRanges, hrange]

/-- Contract (2): the `delimited_offsets` of a delimited body, its children's starts and then
the offset of its closing opcode. -/
def delimitedOffsetsOf (start : Nat) (chunks : List BodyChunk) : List Nat :=
  (childRanges start chunks).map ByteRange.start ++ [start + bodyWidth chunks]

def BodyChunk.isNop : BodyChunk → Bool
  | .nop _ => true
  | .child _ => false

/-- No padding comes before a child: padding only at the end of the body. -/
def padsOnlyAtEnd : List BodyChunk → Bool
  | [] => true
  | .nop _ :: rest => rest.all BodyChunk.isNop
  | .child _ :: rest => padsOnlyAtEnd rest

theorem childRanges_of_all_isNop :
    ∀ (offset : Nat) (chunks : List BodyChunk), chunks.all BodyChunk.isNop = true →
      childRanges offset chunks = [] ∧ firstChild offset chunks = none
  | _, [] => fun _ => ⟨rfl, rfl⟩
  | offset, .nop length :: rest => fun h => by
      simpa [childRanges, firstChild] using
        childRanges_of_all_isNop (offset + length) rest (by simpa [BodyChunk.isNop] using h)
  | _, .child _ :: _ => fun h => by simp [BodyChunk.isNop] at h

/-- Once a call returns `None`, every later call returns `None`. -/
def noneIsFinal {α : Type} : List (Option α) → Bool
  | [] => true
  | none :: rest => rest.all Option.isNone
  | some _ :: rest => noneIsFinal rest

/-! ## Bodies of the reader's tests -/

/-- The body of `B4 EA 61 01 EC`: `null.null`, `1` and a one-byte NOP. -/
def trailingPadding : List BodyChunk :=
  [.child 1, .child 2, .nop 1]

/-- The body of `B2 EC EA`: a one-byte NOP, then `null.null`. -/
def paddedNull : List BodyChunk :=
  [.nop 1, .child 1]

/-- The body of `B1 EA`, the test's `[null.null]`. -/
def justNull : List BodyChunk :=
  [.child 1]

namespace RawBinarySequenceIterator

variable {readers : BufferReaders}

/-! ## The length-prefixed path -/

theorem next_lengthPrefixed {offset skip : Nat} {chunks : List BodyChunk}
    (hpeek : PeeksAt readers.peekSequenceValueExpr (offset + skip) chunks) :
    (⟨⟨offset, skip + bodyWidth chunks⟩, skip, none⟩ : RawBinarySequenceIterator).next readers =
      match firstChild (offset + skip) chunks with
      | some expr => some (some (.ok expr), ⟨⟨offset + skip, bodyWidth chunks⟩, expr.len, none⟩)
      | none => some (none, ⟨⟨offset + skip, bodyWidth chunks⟩, skip, none⟩) := by
  simp only [next, ImmutableBuffer.consume, if_pos (Nat.le_add_right skip _),
    Nat.add_sub_cancel_left, hpeek _ le_rfl]
  cases firstChild (offset + skip) chunks <;> rfl

theorem items_lengthPrefixed :
    ∀ (chunks : List BodyChunk) (offset skip fuel : Nat),
      PeeksFirstChild readers.peekSequenceValueExpr (offset + skip) chunks →
      padsOnlyAtEnd chunks = true → chunks.length < fuel →
      (⟨⟨offset, skip + bodyWidth chunks⟩, skip, none⟩ : RawBinarySequenceIterator).items readers fuel =
        some ((childRanges (offset + skip) chunks).map .ok)
  | _, _, _, 0, _, _, hfuel => absurd hfuel (Nat.not_lt_zero _)
  | chunks, offset, skip, fuel + 1, hpeek, hpads, hfuel => by
      rw [items, next_lengthPrefixed hpeek.peeksAt]
      rcases chunks with _ | ⟨padding | length, rest⟩
      · rfl
      · obtain ⟨hranges, hfirst⟩ := childRanges_of_all_isNop (offset + skip + padding) rest
          (by simpa [padsOnlyAtEnd] using hpads)
        simp only [firstChild, hfirst, childRanges, hranges, List.map_nil]
      · have ih := items_lengthPrefixed rest (offset + skip) length fuel hpeek.2
          (by simpa [padsOnlyAtEnd] using hpads) (by simp at hfuel; omega)
        simp only [firstChild, childRanges, ByteRange.len, Nat.add_sub_cancel_left, List.map_cons,
          bodyWidth_cons, BodyChunk.length]
        rw [ih]
        rfl

/-- Without padding before a child, the length-prefixed path yields each child once, in order,
and then `None`. -/
theorem lengthPrefixed_items_of_padsOnlyAtEnd (readers : BufferReaders) (start : Nat)
    (chunks : List BodyChunk) (hpeek : PeeksFirstChild readers.peekSequenceValueExpr start chunks)
    (hpads : padsOnlyAtEnd chunks = true) :
    (new ⟨start, bodyWidth chunks⟩ none).items readers (chunks.length + 1) =
      some ((childRanges start chunks).map .ok) := by
  simpa [new] using items_lengthPrefixed chunks start 0 (chunks.length + 1) hpeek hpads
    (Nat.lt_succ_self _)

theorem lengthPrefixed_items_trailingPadding :
    PeeksFirstChild (layoutReaders 1 trailingPadding).peekSequenceValueExpr 1 trailingPadding ∧
      padsOnlyAtEnd trailingPadding = true ∧
      (new ⟨1, bodyWidth trailingPadding⟩ none).items
          (layoutReaders 1 trailingPadding) (trailingPadding.length + 1) =
        some ((childRanges 1 trailingPadding).map .ok) :=
  have hpeek := layoutReaders_peeksFirstChild 1 trailingPadding (by decide)
  ⟨hpeek, rfl, lengthPrefixed_items_of_padsOnlyAtEnd _ 1 _ hpeek rfl⟩

/-- Over the body of `B2 EC EA`, with readers that meet contract (1), the length-prefixed path
yields `null.null` twice: the second call skips the child's one byte from the start of the
body, which lands on the child again. -/
theorem lengthPrefixed_yields_padded_child_twice :
    PeeksFirstChild (layoutReaders 1 paddedNull).peekSequenceValueExpr 1 paddedNull ∧
      childRanges 1 paddedNull = [⟨2, 3⟩] ∧
      (new ⟨1, 2⟩ none).items (layoutReaders 1 paddedNull) 4 =
        some [.ok ⟨2, 3⟩, .ok ⟨2, 3⟩] :=
  ⟨layoutReaders_peeksFirstChild 1 paddedNull (by decide), rfl, rfl⟩

/-- Over the body of `B1 EA`, the length-prefixed path returns `null.null` and then `None`, and
the third call panics: it consumes the child's one byte again with no byte left. -/
theorem lengthPrefixed_panics_after_none :
    PeeksFirstChild (layoutReaders 1 justNull).peekSequenceValueExpr 1 justNull ∧
      (new ⟨1, 1⟩ none).poll (layoutReaders 1 justNull) 2 =
        some [some (.ok ⟨1, 2⟩), none] ∧
      (new ⟨1, 1⟩ none).poll (layoutReaders 1 justNull) 3 = none :=
  ⟨layoutReaders_peeksFirstChild 1 justNull (by decide), rfl, rfl⟩

/-! ## The delimited path -/

theorem next_of_two_offsets {it : RawBinarySequenceIterator} {offset : Nat} {rest : List Nat}
    (hoffsets : it.delimitedOffsets = some (offset :: rest)) (hrest : rest ≠ []) :
    it.next readers = nextDelimited readers it offset rest := by
  rcases rest with _ | ⟨second, rest⟩
  · exact absurd rfl hrest
  · simp [RawBinarySequenceIterator.next, hoffsets]

theorem nextDelimited_eq {it : RawBinarySequenceIterator} {offset : Nat} (rest : List Nat)
    (hstart : it.source.offset ≤ offset) (hend : offset ≤ it.source.offset + it.source.length) :
    nextDelimited readers it offset rest =
      readDelimited readers it ⟨offset, it.source.offset + it.source.length - offset⟩ rest := by
  have hinput : (⟨it.source.offset + (offset - it.source.offset),
      it.source.length - (offset - it.source.offset)⟩ : ImmutableBuffer) =
      ⟨offset, it.source.offset + it.source.length - offset⟩ := by
    congr 1 <;> omega
  simp only [nextDelimited, if_neg (Nat.not_lt.mpr hstart), ImmutableBuffer.consume,
    if_pos (show offset - it.source.offset ≤ it.source.length by omega), hinput]

theorem items_delimited (source : ImmutableBuffer) (skip : Nat) :
    ∀ (chunks : List BodyChunk) (start fuel : Nat),
      PeeksFirstChild readers.peekSequenceValueExpr start chunks →
      PeeksOpcodes readers.peekOpcode start chunks →
      source.offset ≤ start → start + bodyWidth chunks < source.offset + source.length →
      chunks.length < fuel →
      (⟨source, skip, some (delimitedOffsetsOf start chunks)⟩ : RawBinarySequenceIterator).items
          readers fuel =
        some ((childRanges start chunks).map .ok)
  | _, _, 0, _, _, _, _, hfuel => absurd hfuel (Nat.not_lt_zero _)
  | [], _, _ + 1, _, _, _, _, _ => rfl
  | .nop padding :: rest, start, fuel + 1, hpeek, hopcodes, hstart, hend, hfuel => by
      have ih := items_delimited source skip rest (start + padding) (fuel + 1) hpeek.2
        hopcodes.of_cons (by omega) (by simp [BodyChunk.length] at hend; omega)
        (by simp at hfuel; omega)
      simpa [delimitedOffsetsOf, childRanges, BodyChunk.length, Nat.add_assoc] using ih
  | .child length :: rest, start, fuel + 1, hpeek, hopcodes, hstart, hend, hfuel => by
      have hopcode := hopcodes.1 ⟨start, start + length⟩ (by simp [childRanges])
      have hchild := hpeek.peeksAt (source.offset + source.length - start) (by omega)
      have ih := items_delimited source skip rest (start + length) fuel hpeek.2 hopcodes.of_cons
        (by omega) (by simp [BodyChunk.length] at hend; omega) (by simp at hfuel; omega)
      simp only [delimitedOffsetsOf, childRanges, List.map_cons, List.cons_append, bodyWidth_cons,
        BodyChunk.length, Nat.add_assoc] at ih ⊢
      rw [items, next_of_two_offsets rfl (by simp),
        nextDelimited_eq _ hstart (show start ≤ source.offset + source.length by omega)]
      simp only [readDelimited, hopcode, hchild, firstChild]
      rw [ih]
      rfl

/-- Under contracts (1) and (2), the delimited path yields each child once, in order, and then
`None`, wherever the padding lies. -/
theorem delimited_items_eq_childRanges (readers : BufferReaders) (source : ImmutableBuffer)
    (start : Nat) (chunks : List BodyChunk)
    (hpeek : PeeksFirstChild readers.peekSequenceValueExpr start chunks)
    (hopcodes : PeeksOpcodes readers.peekOpcode start chunks) (hstart : source.offset ≤ start)
    (hend : start + bodyWidth chunks < source.offset + source.length) :
    (new source (some (delimitedOffsetsOf start chunks))).items readers (chunks.length + 1) =
      some ((childRanges start chunks).map .ok) :=
  items_delimited source 0 chunks start _ hpeek hopcodes hstart hend (Nat.lt_succ_self _)

/-- The same body, delimited (`F1 EC EA F0`), yields `null.null` once. -/
theorem delimited_items_paddedNull :
    PeeksFirstChild (layoutReaders 1 paddedNull).peekSequenceValueExpr 1 paddedNull ∧
      PeeksOpcodes (layoutReaders 1 paddedNull).peekOpcode 1 paddedNull ∧
      (new ⟨0, 4⟩ (some (delimitedOffsetsOf 1 paddedNull))).items
          (layoutReaders 1 paddedNull) (paddedNull.length + 1) =
        some ((childRanges 1 paddedNull).map .ok) :=
  have hpeek := layoutReaders_peeksFirstChild 1 paddedNull (by decide)
  have hopcodes : PeeksOpcodes (layoutReaders 1 paddedNull).peekOpcode 1 paddedNull := by
    simp [PeeksOpcodes, layoutReaders, paddedNull, childRanges, suffixAt, BodyChunk.length]
  ⟨hpeek, hopcodes, delimited_items_eq_childRanges _ ⟨0, 4⟩ 1 _ hpeek
    hopcodes (by decide) (by decide)⟩

/-- A delimited iterator whose remaining offsets all lie in its buffer. -/
def OffsetsInSource (it : RawBinarySequenceIterator) : Prop :=
  ∃ offsets, it.delimitedOffsets = some offsets ∧
    ∀ offset ∈ offsets, it.source.offset ≤ offset ∧ offset ≤ it.source.offset + it.source.length

/-- One call on the delimited path: it does not panic, keeps the offsets in the buffer, and a
call that returns `None` leaves the iterator as it was. -/
theorem next_of_offsetsInSource {it : RawBinarySequenceIterator} (h : OffsetsInSource it) :
    ∃ item it', it.next readers = some (item, it') ∧ OffsetsInSource it' ∧
      (item = none → it' = it) := by
  obtain ⟨offsets, hoffsets, hin⟩ := h
  rcases offsets with _ | ⟨offset, _ | ⟨next, rest⟩⟩
  · exact ⟨none, it, by simp [RawBinarySequenceIterator.next, hoffsets], ⟨_, hoffsets, hin⟩,
      fun _ => rfl⟩
  · exact ⟨none, it, by simp [RawBinarySequenceIterator.next, hoffsets], ⟨_, hoffsets, hin⟩,
      fun _ => rfl⟩
  · have hfirst := hin offset (List.mem_cons_self _ _)
    rw [next_of_two_offsets hoffsets (List.cons_ne_nil _ _), nextDelimited_eq _ hfirst.1 hfirst.2]
    have hsame : OffsetsInSource it := ⟨_, hoffsets, hin⟩
    have hrest : OffsetsInSource { it with delimitedOffsets := some (next :: rest) } :=
      ⟨_, rfl, fun o ho => hin o (List.mem_cons_of_mem _ ho)⟩
    unfold readDelimited
    split
    · exact ⟨none, it, rfl, hsame, fun _ => rfl⟩
    · split
      · exact ⟨_, _, rfl, hrest, fun h => nomatch h⟩
      · exact ⟨none, it, rfl, hsame, fun _ => rfl⟩
      · exact ⟨_, it, rfl, hsame, fun h => nomatch h⟩
    · exact ⟨_, it, rfl, hsame, fun h => nomatch h⟩

theorem poll_of_next_none {it : RawBinarySequenceIterator} (h : it.next readers = some (none, it)) :
    ∀ n, it.poll readers n = some (List.replicate n none)
  | 0 => rfl
  | n + 1 => by simp [poll, h, poll_of_next_none h n, List.replicate_succ]

/-- Every run of calls on the delimited path, while the offsets lie in the buffer: no call
panics, and once a call has returned `None` every later call returns `None`. -/
theorem poll_of_offsetsInSource :
    ∀ (n : Nat) (it : RawBinarySequenceIterator), OffsetsInSource it →
      ∃ results, it.poll readers n = some results ∧ noneIsFinal results = true
  | 0, _, _ => ⟨[], rfl, rfl⟩
  | n + 1, it, hit => by
      obtain ⟨item, it', hnext, hit', hnone⟩ := @next_of_offsetsInSource readers it hit
      rcases item with _ | item
      · obtain rfl := hnone rfl
        refine ⟨none :: List.replicate n none, by simp [poll, hnext, poll_of_next_none hnext], ?_⟩
        simp [noneIsFinal, List.all_eq_true]
      · obtain ⟨results, hpoll, hfinal⟩ := poll_of_offsetsInSource n it' hit'
        exact ⟨some item :: results, by simp [poll, hnext, hpoll], hfinal⟩

/-- On the delimited path, whatever the buffer's readers return, no call panics while the
offsets lie in the buffer, and once a call has returned `None` every later call returns `None`. -/
theorem delimited_poll_noneIsFinal (readers : BufferReaders) (source : ImmutableBuffer)
    (offsets : List Nat)
    (hin : ∀ offset ∈ offsets, source.offset ≤ offset ∧ offset ≤ source.offset + source.length)
    (n : Nat) :
    ∃ results, (new source (some offsets)).poll readers n = some results ∧
      noneIsFinal results = true :=
  poll_of_offsetsInSource n _ ⟨offsets, rfl, hin⟩

theorem delimited_poll_paddedNull :
    (∀ offset ∈ delimitedOffsetsOf 1 paddedNull, 0 ≤ offset ∧ offset ≤ 0 + 4) ∧
      ∃ results, (new ⟨0, 4⟩ (some (delimitedOffsetsOf 1 paddedNull))).poll
          (layoutReaders 1 paddedNull) 3 = some results ∧ noneIsFinal results = true :=
  ⟨by decide, delimited_poll_noneIsFinal _ ⟨0, 4⟩ _ (by decide) 3⟩

end RawBinarySequenceIterator

end IonRust
