import IonRust.Element

/-!
# Text and bytes clauses of the conformance DSL

`parse_text_exp` and `parse_bytes_exp` read the elements of a `text` or a `bytes` clause.  Both
take each element to some bytes and stop at the first element that fails, as a `collect` into a
`Result` does; the model returns the bytes of the result, and `none` where the code panics.

`parse_text_exp` takes a string as its UTF-8 bytes and an integer below 256 as the byte
`i as u8`, negative integers and those from 128 to 255 included, and makes a `String` of the
bytes without checking them.  On the other elements it returns the bytes of `clauseText`, the
text the clause spells with its strings and its ASCII code points.  `parse_bytes_exp` slices each string, spaces removed, two bytes at a time
from its start.  A slice panics past the end of an odd count and inside a character, and
`u8::from_str_radix` reads a leading `+`.  On a clause of integers in `0..=255` and of strings
that are runs of hexadecimal digit pairs it returns `clauseBytes`, the bytes those elements spell.
-/

namespace IonRust

/-- The `ConformanceErrorKind`s that the modelled DSL functions return. -/
inductive ConformanceErrorKind where
  | ionError (error : IonError)
  | expectedClause
  | expectedFragment
  | expectedModelValue
  | expectedFloatString
  | expectedAsciiCodepoint
  | expectedSymbolType
  | expectedInteger
  | expectedString
  | expectedTimestampPrecision
  | expectedTimestampOffset
  | invalidByte
  | invalidHexString
  | unexpectedContinuation
  deriving DecidableEq, Repr

/-- `iter.map(f).collect::<Result<Vec<_>, _>>()`: every result in order, or the first error;
`none` when `f` panics before an error ends the iteration. -/
def tryCollect {α β ε : Type} (f : α → Option (Except ε β)) :
    List α → Option (Except ε (List β))
  | [] => some (.ok [])
  | x :: xs =>
    match f x with
    | none => none
    | some (.error e) => some (.error e)
    | some (.ok y) => (tryCollect f xs).map (Except.map (y :: ·))

section TryCollect

variable {α β ε : Type} (f : α → Option (Except ε β))

@[simp] theorem tryCollect_nil : tryCollect f [] = some (.ok []) := rfl

theorem tryCollect_cons_ok {x : α} {y : β} (xs : List α) (h : f x = some (.ok y)) :
    tryCollect f (x :: xs) = (tryCollect f xs).map (Except.map (y :: ·)) := by
  rw [tryCollect, h]

theorem tryCollect_cons_error {x : α} {e : ε} (xs : List α) (h : f x = some (.error e)) :
    tryCollect f (x :: xs) = some (.error e) := by
  rw [tryCollect, h]

theorem tryCollect_map {γ : Type} (g : γ → α) (xs : List γ) :
    tryCollect f (xs.map g) = tryCollect (f ∘ g) xs := by
  induction xs with
  | nil => rfl
  | cons x xs ih => simp only [List.map_cons, tryCollect, Function.comp_apply, ih]

end TryCollect

/-- `as_bytes`: the UTF-8 encoding of a string. -/
def utf8Bytes (s : String) : List UInt8 :=
  s.toUTF8.data.toList

theorem utf8Bytes_eq (s : String) : utf8Bytes s = s.data.flatMap String.utf8EncodeChar :=
  rfl

theorem utf8Bytes_append (s t : String) : utf8Bytes (s ++ t) = utf8Bytes s ++ utf8Bytes t := by
  simp only [utf8Bytes_eq, String.data_append, List.flatMap_append]

/-- A character below 128 is its own one byte. -/
theorem utf8EncodeChar_ofNat {n : Nat} (h : n ≤ 127) :
    String.utf8EncodeChar (Char.ofNat n) = [UInt8.ofNat n] := by
  have hvalid : n.isValidChar := Or.inl (by omega)
  have hlt : n < 2 ^ 32 := by omega
  have hval : (Char.ofNat n).val = ⟨BitVec.ofNatLt n hlt⟩ := by
    simp only [Char.ofNat, dif_pos hvalid, Char.ofNatAux]
  have hle : (Char.ofNat n).val ≤ 0x7f := by
    rw [hval]
    exact h
  rw [String.utf8EncodeChar, if_pos hle, hval]
  rfl

/-- The byte `0x80` alone is not the UTF-8 encoding of any string. -/
theorem utf8Bytes_ne_continuation (t : String) : utf8Bytes t ≠ [0x80] := by
  rw [utf8Bytes_eq]
  rcases t with ⟨_ | ⟨c, cs⟩⟩
  · simp
  · intro h
    simp only [List.flatMap_cons] at h
    rw [String.utf8EncodeChar] at h
    split_ifs at h with hle
    · simp only [List.singleton_append, List.cons.injEq] at h
      have hbyte := congrArg UInt8.toNat h.1
      have hval : c.val.toNat ≤ 127 := hle
      have h128 : (UInt8.toBitVec 128).toNat = 128 := rfl
      simp only [UInt32.toUInt8, Nat.toUInt8, UInt8.toNat, UInt8.ofNat, BitVec.toNat_ofNat]
        at hbyte
      omega
    all_goals simp at h

/-- `i as u8`: the low byte of an integer. -/
def asU8 (i : Int) : UInt8 :=
  UInt8.ofNat (i % 256).toNat

/-! ## `parse_text_exp` -/

section Text

variable {Decimal Timestamp : Type}

/-- The closure `parse_text_exp` maps over its elements: a string's bytes, or the byte of an
integer below 256.  The `unwrap` panics on a null string. -/
def textBytes (v : Element Decimal Timestamp) :
    Option (Except ConformanceErrorKind (List UInt8)) :=
  match v.ionType with
  | .string => v.asString.map fun s => .ok (utf8Bytes s)
  | .int =>
    match v.asI64 with
    | some i => if i < 256 then some (.ok [asU8 i]) else some (.error .expectedAsciiCodepoint)
    | none => some (.error .expectedAsciiCodepoint)
  | _ => some (.error .expectedModelValue)

/-- `parse_text_exp`: the bytes of the `String` it builds, each piece made a `String` by
`from_utf8_unchecked`. -/
def parseTextExp (elems : List (Element Decimal Timestamp)) :
    Option (Except ConformanceErrorKind (List UInt8)) :=
  (tryCollect textBytes elems).map (Except.map List.flatten)

/-- The text a text clause spells: each string's text and the character of each integer in
`0..=127`, in order, and at the first other element its error. -/
def clauseText : List (Element Decimal Timestamp) → Except ConformanceErrorKind String
  | [] => .ok ""
  | .string s :: rest => (clauseText rest).map (s ++ ·)
  | .int i :: rest =>
    if 0 ≤ i ∧ i ≤ 127 then (clauseText rest).map ((Char.ofNat i.toNat).toString ++ ·)
    else .error .expectedAsciiCodepoint
  | .null .int :: _ => .error .expectedAsciiCodepoint
  | _ :: _ => .error .expectedModelValue

/-- The elements on which `parse_text_exp` departs from the text they spell: a null string, which
it unwraps, and an `i64` below 0 or from 128 to 255, which it takes as one byte. -/
def departsFromText : Element Decimal Timestamp → Bool
  | .null .string => true
  | .int i => fitsI64 i && (i < 0 || (128 ≤ i && i < 256))
  | _ => false

theorem textBytes_int_of_ascii {i : Int} (h : 0 ≤ i ∧ i ≤ 127) :
    textBytes (.int i : Element Decimal Timestamp) =
      some (.ok (utf8Bytes (Char.ofNat i.toNat).toString)) := by
  have hfits : fitsI64 i = true := by simp [fitsI64]; omega
  have hbyte : asU8 i = UInt8.ofNat i.toNat := by
    rw [asU8, Int.emod_eq_of_lt h.1 (by omega)]
  have hdata : (Char.ofNat i.toNat).toString.data = [Char.ofNat i.toNat] := rfl
  simp only [textBytes, Element.ionType, Element.asI64, hfits, if_true,
    show i < 256 by omega, hbyte, utf8Bytes_eq, hdata, List.flatMap_cons, List.flatMap_nil,
    List.append_nil, utf8EncodeChar_ofNat (n := i.toNat) (by omega)]

theorem textBytes_int_error {i : Int} (h : ¬(0 ≤ i ∧ i ≤ 127))
    (hout : departsFromText (.int i : Element Decimal Timestamp) = false) :
    textBytes (.int i : Element Decimal Timestamp) = some (.error .expectedAsciiCodepoint) := by
  simp only [departsFromText, Bool.and_eq_false_iff, Bool.or_eq_false_iff,
    decide_eq_false_iff_not, Bool.and_eq_false_iff] at hout
  simp only [textBytes, Element.ionType, Element.asI64]
  by_cases hfits : fitsI64 i = true
  · have : ¬ i < 256 := by
      rcases hout with hout | ⟨hneg, hhigh⟩
      · exact absurd hfits (by simpa using hout)
      · rcases hhigh with hhigh | hhigh <;> simp at hhigh <;> omega
    simp [hfits, this]
  · simp [hfits]

theorem parseTextExp_cons_ok {v : Element Decimal Timestamp} {piece : List UInt8}
    (rest : List (Element Decimal Timestamp)) (h : textBytes v = some (.ok piece)) :
    parseTextExp (v :: rest) = (parseTextExp rest).map (Except.map (piece ++ ·)) := by
  rw [parseTextExp, tryCollect_cons_ok _ rest h, parseTextExp]
  rcases tryCollect textBytes rest with _ | _ | _ <;> rfl

theorem parseTextExp_cons_error {v : Element Decimal Timestamp} {e : ConformanceErrorKind}
    (rest : List (Element Decimal Timestamp)) (h : textBytes v = some (.error e)) :
    parseTextExp (v :: rest) = some (.error e) := by
  rw [parseTextExp, tryCollect_cons_error _ rest h]
  rfl

/-- What one element gives `parse_text_exp` is what it gives `clauseText`: the bytes of its text,
or the same error. -/
theorem textBytes_agrees (v : Element Decimal Timestamp) (hv : departsFromText v = false) :
    (∃ text, textBytes v = some (.ok (utf8Bytes text)) ∧
        ∀ rest, clauseText (v :: rest) = (clauseText rest).map (text ++ ·)) ∨
      ∃ e, textBytes v = some (.error e) ∧ ∀ rest, clauseText (v :: rest) = .error e := by
  rcases v with ionType | _ | i | _ | _ | _ | _ | s | _ | _ | _ | _ | _
  case null =>
    cases ionType
    case string => exact absurd hv (by simp [departsFromText])
    case int => exact .inr ⟨_, rfl, fun _ => rfl⟩
    all_goals exact .inr ⟨_, rfl, fun _ => rfl⟩
  case int =>
    by_cases h : 0 ≤ i ∧ i ≤ 127
    · exact .inl ⟨_, textBytes_int_of_ascii h, fun _ => by rw [clauseText, if_pos h]⟩
    · exact .inr ⟨_, textBytes_int_error h hv, fun _ => by rw [clauseText, if_neg h]⟩
  case string => exact .inl ⟨s, rfl, fun _ => rfl⟩
  all_goals exact .inr ⟨_, rfl, fun _ => rfl⟩

/-- On every clause without a null string and without an `i64` below 0 or from 128 to 255,
`parse_text_exp` returns the UTF-8 bytes of the text the clause spells, or its error. -/
theorem parseTextExp_eq_clauseText :
    ∀ elems : List (Element Decimal Timestamp),
      (∀ v ∈ elems, departsFromText v = false) →
      parseTextExp elems = some ((clauseText elems).map utf8Bytes)
  | [], _ => rfl
  | v :: rest, hout => by
    have ih := parseTextExp_eq_clauseText rest fun w hw => hout w (List.mem_cons_of_mem v hw)
    rcases textBytes_agrees v (hout v (List.mem_cons_self v rest)) with
      ⟨text, hbytes, htext⟩ | ⟨e, hbytes, htext⟩
    · rw [parseTextExp_cons_ok rest hbytes, ih, htext]
      rcases clauseText rest with _ | rest
      · rfl
      · simp only [Option.map_some', Except.map, utf8Bytes_append]
    · rw [parseTextExp_cons_error rest hbytes, htext]
      rfl

theorem parseTextExp_eq_clauseText_ab :
    (∀ v ∈ [(.string "a" : Element Unit Unit), .int 98], departsFromText v = false) ∧
      parseTextExp [(.string "a" : Element Unit Unit), .int 98] =
        some ((clauseText [(.string "a" : Element Unit Unit), .int 98]).map utf8Bytes) :=
  ⟨by decide, parseTextExp_eq_clauseText _ (by decide)⟩

/-- `parse_text_exp` takes the integer 128 as the byte `0x80`, which is no string's UTF-8, and
fails on a boolean, whatever the integers of the clause. -/
theorem parseTextExp_takes_128_as_byte :
    parseTextExp [(.int 128 : Element Unit Unit)] = some (.ok [0x80]) ∧
      (∀ t : String, utf8Bytes t ≠ [0x80]) ∧
      parseTextExp [(.bool true : Element Unit Unit)] = some (.error .expectedModelValue) :=
  ⟨rfl, utf8Bytes_ne_continuation, rfl⟩

end Text

/-! ## `parse_bytes_exp` -/

/-- `(b as i8) >= -0x40`: an ASCII byte, or the first byte of a character. -/
def isCharStart (b : UInt8) : Bool :=
  b < 0x80 || 0xC0 ≤ b

/-- `str::is_char_boundary` on the bytes of a string. -/
def isCharBoundary (bytes : List UInt8) (index : Nat) : Bool :=
  index == 0 ||
    match bytes[index]? with
    | none => index == bytes.length
    | some b => isCharStart b

/-- `&hex[i..i + 2]`, which panics unless both ends are character boundaries of `hex`. -/
def sliceTwo (hex : List UInt8) (i : Nat) : Option (List UInt8) :=
  if isCharBoundary hex i && isCharBoundary hex (i + 2) then some ((hex.drop i).take 2) else none

/-- The kinds of `ParseIntError`. -/
inductive IntErrorKind where
  | empty
  | invalidDigit
  | posOverflow
  deriving DecidableEq, Repr

/-- `(c as char).to_digit(16)`. -/
def hexDigit? (c : UInt8) : Option Nat :=
  if 0x30 ≤ c ∧ c ≤ 0x39 then some (c.toNat - 0x30)
  else if 0x61 ≤ c ∧ c ≤ 0x66 then some (c.toNat - 0x61 + 10)
  else if 0x41 ≤ c ∧ c ≤ 0x46 then some (c.toNat - 0x41 + 10)
  else none

/-- The digit loop of `u8::from_str_radix(src, 16)`: every byte a digit, and the value below 256
after each one. -/
def accumulateHexDigits (acc : Nat) : List UInt8 → Except IntErrorKind UInt8
  | [] => .ok (UInt8.ofNat acc)
  | c :: rest =>
    match hexDigit? c with
    | none => .error .invalidDigit
    | some d =>
      if acc * 16 + d < 256 then accumulateHexDigits (acc * 16 + d) rest else .error .posOverflow

/-- `u8::from_str_radix(src, 16)` on the bytes of `src`: a lone sign is an invalid digit, and a
leading `+` is skipped. -/
def fromStrRadixHex : List UInt8 → Except IntErrorKind UInt8
  | [] => .error .empty
  | [c] => if c = 0x2B ∨ c = 0x2D then .error .invalidDigit else accumulateHexDigits 0 [c]
  | c :: rest => if c = 0x2B then accumulateHexDigits 0 rest else accumulateHexDigits 0 (c :: rest)

/-- `(0..len).step_by(2)`. -/
def evenIndices (len : Nat) : List Nat :=
  (List.range ((len + 1) / 2)).map (2 * ·)

/-- The `hex_bytes` of `parse_bytes_exp`: each two-byte slice of `hex` from the start, read as a
byte. -/
def hexBytes (hex : List UInt8) : Option (Except IntErrorKind (List UInt8)) :=
  tryCollect (fun i => (sliceTwo hex i).map fromStrRadixHex) (evenIndices hex.length)

/-- `replace(" ", "")`. -/
def removeSpaces (s : String) : String :=
  ⟨s.data.filter (· ≠ ' ')⟩

/-- Hexadecimal digits two at a time, as a string of a bytes clause spells its bytes. -/
def hexDigitPairs : List UInt8 → Option (List UInt8)
  | [] => some []
  | [_] => none
  | a :: b :: rest => do
    let x ← hexDigit? a
    let y ← hexDigit? b
    let bytes ← hexDigitPairs rest
    pure (UInt8.ofNat (x * 16 + y) :: bytes)

theorem hexDigit?_lt {c : UInt8} {d : Nat} (h : hexDigit? c = some d) :
    isCharStart c = true ∧ d < 16 := by
  have hascii : c.toNat < 0x80 → isCharStart c = true := fun hc => by
    simp only [isCharStart, Bool.or_eq_true, decide_eq_true_eq]
    exact .inl hc
  unfold hexDigit? at h
  split_ifs at h with h1 h2 h3 <;> cases h
  · have : c.toNat ≤ 0x39 := h1.2
    exact ⟨hascii (by omega), by omega⟩
  · have : 0x61 ≤ c.toNat ∧ c.toNat ≤ 0x66 := h2
    exact ⟨hascii (by omega), by omega⟩
  · have : 0x41 ≤ c.toNat ∧ c.toNat ≤ 0x46 := h3
    exact ⟨hascii (by omega), by omega⟩

/-- A run of digit pairs is ASCII: each of its bytes starts a character. -/
theorem hexDigitPairs_isCharStart :
    ∀ {hex bytes : List UInt8}, hexDigitPairs hex = some bytes →
      ∀ c ∈ hex, isCharStart c = true
  | [], _, _ => by simp
  | [_], _, h => by cases h
  | a :: b :: rest, bytes, h => by
    rcases hx : hexDigit? a with _ | x <;> rcases hy : hexDigit? b with _ | y <;>
      rcases hmore : hexDigitPairs rest with _ | more <;>
      simp only [hexDigitPairs, hx, hy, hmore, Option.bind_eq_bind, Option.none_bind,
        Option.some_bind, reduceCtorEq] at h
    intro c hc
    rcases List.mem_cons.mp hc with rfl | hc
    · exact (hexDigit?_lt hx).1
    rcases List.mem_cons.mp hc with rfl | hc
    · exact (hexDigit?_lt hy).1
    · exact hexDigitPairs_isCharStart hmore c hc

/-- On the bytes of an ASCII string every index up to its length is a character boundary. -/
theorem isCharBoundary_of_isCharStart {hex : List UInt8} (h : ∀ c ∈ hex, isCharStart c = true)
    (i : Nat) : isCharBoundary hex i = decide (i ≤ hex.length) := by
  unfold isCharBoundary
  rcases Nat.lt_or_ge i hex.length with hi | hi
  · simp only [List.getElem?_eq_getElem hi, h _ (List.getElem_mem hi), Bool.or_true]
    exact (decide_eq_true (Nat.le_of_lt hi)).symm
  · rw [List.getElem?_eq_none hi]
    rcases Nat.eq_or_lt_of_le hi with heq | hlt
    · simp [heq]
    · have hzero : (i == 0) = false := beq_eq_false_iff_ne.mpr (by omega)
      have hlen : (i == hex.length) = false := beq_eq_false_iff_ne.mpr (by omega)
      simp only [hzero, hlen, Bool.or_self]
      exact (decide_eq_false (by omega)).symm

theorem sliceTwo_cons_cons {a b : UInt8} {rest : List UInt8}
    (h : ∀ c ∈ a :: b :: rest, isCharStart c = true) (i : Nat) :
    sliceTwo (a :: b :: rest) (i + 2) = sliceTwo rest i := by
  have hrest : ∀ c ∈ rest, isCharStart c = true := fun c hc => h c (by simp [hc])
  simp only [sliceTwo, isCharBoundary_of_isCharStart h, isCharBoundary_of_isCharStart hrest,
    List.length_cons, List.drop_succ_cons]
  rw [decide_eq_decide.mpr (show i + 2 ≤ rest.length + 1 + 1 ↔ i ≤ rest.length by omega),
    decide_eq_decide.mpr
      (show i + 2 + 2 ≤ rest.length + 1 + 1 ↔ i + 2 ≤ rest.length by omega)]

theorem evenIndices_add_two (n : Nat) :
    evenIndices (n + 2) = 0 :: (evenIndices n).map (· + 2) := by
  rw [evenIndices, show (n + 2 + 1) / 2 = (n + 1) / 2 + 1 by omega, List.range_succ_eq_map,
    evenIndices, List.map_cons, List.map_map, List.map_map, Nat.mul_zero]
  rfl

theorem fromStrRadixHex_pair {a b : UInt8} {x y : Nat} (hx : hexDigit? a = some x)
    (hy : hexDigit? b = some y) : fromStrRadixHex [a, b] = .ok (UInt8.ofNat (x * 16 + y)) := by
  have ha : a ≠ 0x2B := by rintro rfl; simp [hexDigit?] at hx
  have hxl := (hexDigit?_lt hx).2
  have hyl := (hexDigit?_lt hy).2
  simp only [fromStrRadixHex, if_neg ha, accumulateHexDigits, hx, hy, Nat.zero_mul, Nat.zero_add,
    if_pos (show x < 256 by omega), if_pos (show x * 16 + y < 256 by omega)]

/-- A run of digit pairs is sliced and read pair by pair, with no panic. -/
theorem hexBytes_of_hexDigitPairs :
    ∀ {hex : List UInt8} {bytes : List UInt8}, hexDigitPairs hex = some bytes →
      hexBytes hex = some (.ok bytes)
  | [], _, h => by cases h; rfl
  | [_], _, h => by cases h
  | a :: b :: rest, bytes, h => by
    have hstart := hexDigitPairs_isCharStart h
    rcases hx : hexDigit? a with _ | x <;> rcases hy : hexDigit? b with _ | y <;>
      rcases hmore : hexDigitPairs rest with _ | more <;>
      simp only [hexDigitPairs, hx, hy, hmore, Option.bind_eq_bind, Option.none_bind,
        Option.some_bind, reduceCtorEq] at h
    cases h
    have hslice : sliceTwo (a :: b :: rest) 0 = some [a, b] := by
      simp [sliceTwo, isCharBoundary_of_isCharStart hstart]
    have hshift : (fun i => (sliceTwo (a :: b :: rest) i).map fromStrRadixHex) ∘ (· + 2) =
        fun i => (sliceTwo rest i).map fromStrRadixHex :=
      funext fun i => by simp only [Function.comp_apply, sliceTwo_cons_cons hstart]
    have hlen : (a :: b :: rest).length = rest.length + 2 := rfl
    rw [hexBytes, hlen, evenIndices_add_two,
      tryCollect_cons_ok _ _ (by rw [hslice, Option.map_some', fromStrRadixHex_pair hx hy]),
      tryCollect_map, hshift, ← hexBytes, hexBytes_of_hexDigitPairs hmore]
    rfl

section Bytes

variable {Decimal Timestamp : Type}

/-- One pass of the loop of `parse_bytes_exp`: the bytes an element adds. -/
def elementBytes (elem : Element Decimal Timestamp) :
    Option (Except ConformanceErrorKind (List UInt8)) :=
  match elem.ionType with
  | .int =>
    match elem.asI64 with
    | some i => if 0 ≤ i ∧ i ≤ 255 then some (.ok [asU8 i]) else some (.error .invalidByte)
    | none => some (.error .invalidByte)
  | .string =>
    match elem.asString with
    | none => some (.error .expectedString)
    | some s =>
      (hexBytes (utf8Bytes (removeSpaces s))).map fun
        | .error _ => .error .invalidHexString
        | .ok bytes => .ok bytes
  | _ => some (.error .invalidByte)

/-- `parse_bytes_exp`: its loop appends the bytes of each element and returns at the first
failure. -/
def parseBytesExp : List (Element Decimal Timestamp) →
    Option (Except ConformanceErrorKind (List UInt8))
  | [] => some (.ok [])
  | elem :: rest =>
    match elementBytes elem with
    | none => none
    | some (.error e) => some (.error e)
    | some (.ok bytes) => (parseBytesExp rest).map (Except.map (bytes ++ ·))

/-- The bytes a bytes clause spells: each integer in `0..=255` as its byte and each string,
spaces removed, as its digit pairs, in order; `none` at any other element. -/
def clauseBytes : List (Element Decimal Timestamp) → Option (List UInt8)
  | [] => some []
  | .int i :: rest => if 0 ≤ i ∧ i ≤ 255 then (clauseBytes rest).map (asU8 i :: ·) else none
  | .string s :: rest => do
    let bytes ← hexDigitPairs (utf8Bytes (removeSpaces s))
    let more ← clauseBytes rest
    pure (bytes ++ more)
  | _ :: _ => none

theorem elementBytes_of_clauseBytes {v : Element Decimal Timestamp}
    {rest : List (Element Decimal Timestamp)} {bytes : List UInt8}
    (h : clauseBytes (v :: rest) = some bytes) :
    ∃ piece more, elementBytes v = some (.ok piece) ∧ clauseBytes rest = some more ∧
      bytes = piece ++ more := by
  rcases v with _ | _ | i | _ | _ | _ | _ | s | _ | _ | _ | _ | _
  case int =>
    by_cases hi : 0 ≤ i ∧ i ≤ 255
    · rw [clauseBytes, if_pos hi] at h
      obtain ⟨more, hmore, rfl⟩ := Option.map_eq_some'.mp h
      have hfits : fitsI64 i = true := by simp [fitsI64]; omega
      exact ⟨[asU8 i], more, by simp [elementBytes, Element.ionType, Element.asI64, hfits, hi],
        hmore, rfl⟩
    · rw [clauseBytes, if_neg hi] at h
      cases h
  case string =>
    rcases hpairs : hexDigitPairs (utf8Bytes (removeSpaces s)) with _ | piece <;>
      rcases hmore : clauseBytes rest with _ | more <;>
      simp only [clauseBytes, hpairs, hmore, Option.bind_eq_bind, Option.none_bind,
        Option.some_bind, reduceCtorEq, Option.pure_def, Option.some.injEq] at h
    exact ⟨piece, more, by simp [elementBytes, Element.ionType, Element.asString,
      hexBytes_of_hexDigitPairs hpairs], rfl, h.symm⟩
  all_goals cases h

/-- On every clause of integers in `0..=255` and of strings that are runs of hexadecimal digit
pairs once spaces are removed, `parse_bytes_exp` returns the bytes the clause spells. -/
theorem parseBytesExp_eq_clauseBytes :
    ∀ (elems : List (Element Decimal Timestamp)) (bytes : List UInt8),
      clauseBytes elems = some bytes → parseBytesExp elems = some (.ok bytes)
  | [], _, h => by cases h; rfl
  | v :: rest, bytes, h => by
    obtain ⟨piece, more, hpiece, hmore, rfl⟩ := elementBytes_of_clauseBytes h
    simp only [parseBytesExp, hpiece, parseBytesExp_eq_clauseBytes rest more hmore]
    rfl

theorem parseBytesExp_eq_clauseBytes_intAndDigits :
    clauseBytes [(.int 1 : Element Unit Unit), .string "0a FF"] = some [1, 10, 255] ∧
      parseBytesExp [(.int 1 : Element Unit Unit), .string "0a FF"] = some (.ok [1, 10, 255]) :=
  ⟨rfl, parseBytesExp_eq_clauseBytes _ _ rfl⟩

/-- `parse_bytes_exp` panics on `(bytes "F")`, slicing past the end of its one digit, and on
`(bytes "aé")`, slicing inside the `é`; it reads `(bytes "+F")` as the byte 15. -/
theorem parseBytesExp_panics_on_odd_digits :
    parseBytesExp [(.string "F" : Element Unit Unit)] = none ∧
      parseBytesExp [(.string "aé" : Element Unit Unit)] = none ∧
      parseBytesExp [(.string "+F" : Element Unit Unit)] = some (.ok [15]) :=
  ⟨rfl, rfl, rfl⟩

end Bytes

end IonRust
