import IonRust.Conformance.Parse

/-!
# Document clauses

`parse_document_like` reads the body of a `document` or `then` clause: an optional name, then
fragments, then continuations.  Its loop reads fragments until `Fragment::try_from` answers
`ExpectedFragment`, and from that element on reads continuations.  It folds each into the
continuation it holds: the first is taken as it is, an `Each` or a `Then` followed by another
becomes `Extensions`, and `Extensions` grows.  The loop stops after the last element, or as soon
as the continuation it holds is not an extension; any elements after that are not read.

`Fragment::try_from`, `Clause::try_from`, `parse_continuation`, `Continuation::is_extension` and
the `DocumentLike` implementations are not under src/; they are parameters here.  The fold has
an arm for a continuation that is neither `None`, `Each`, `Then` nor `Extensions`, returning
`UnexpectedContinuation` ("We cannot mix continuations and extensions").  The loop never reaches
it, provided `is_extension` holds of no other variant: it goes on only while the continuation it
holds is an extension.  An expectation after an `Each` or a `Then` is accepted, as the last
member of `Extensions`.
-/

namespace IonRust

/-- `Continuation`, as far as `parse_document_like` tells its variants apart: `None`, `Each` and
`Then` with their bodies, `Extensions`, and every other variant, an expectation such as
`Produces` or `Denotes`, with its own. -/
inductive Continuation (Body : Type) where
  | none
  | each (body : Body)
  | then (body : Body)
  | extensions (continuations : List (Continuation Body))
  | expectation (body : Body)

/-- The continuations the fold extends: `Each`, `Then` and `Extensions`. -/
def Continuation.extendable {Body : Type} : Continuation Body → Bool
  | .each _ | .then _ | .extensions _ => true
  | _ => false

/-- The fold of `parse_document_like`: a continuation `c` added to the one held; `none` is the
`UnexpectedContinuation` arm. -/
def Continuation.extend {Body : Type} : Continuation Body → Continuation Body →
    Option (Continuation Body)
  | .none, c => some c
  | .each body, c => some (.extensions [.each body, c])
  | .then body, c => some (.extensions [.then body, c])
  | .extensions exts, c => some (.extensions (exts ++ [c]))
  | .expectation _, _ => Option.none

/-- What `parse_document_like` calls outside src/. -/
structure DocumentReaders (Decimal Timestamp Fragment Body : Type) where
  /-- `Fragment::try_from(seq)`. -/
  fragment : List (Element Decimal Timestamp) → Except ConformanceErrorKind Fragment
  /-- `Clause::try_from(seq)`. -/
  clause : List (Element Decimal Timestamp) → Except ConformanceErrorKind (Clause Decimal Timestamp)
  /-- `continuation::parse_continuation`. -/
  parseContinuation : Clause Decimal Timestamp → Except ConformanceErrorKind (Continuation Body)
  /-- `Continuation::is_extension`. -/
  isExtension : Continuation Body → Bool

/-- A `DocumentLike`: `T::default()`, `set_name`, `add_fragment` and `set_continuation`. -/
structure DocumentLike (T Fragment Body : Type) where
  default : T
  setName : T → String → T
  addFragment : T → Fragment → T
  setContinuation : T → Continuation Body → T

section Loop

variable {Decimal Timestamp Fragment Body T : Type}
  (readers : DocumentReaders Decimal Timestamp Fragment Body) (doc : DocumentLike T Fragment Body)

/-- The loop of `parse_document_like` once `handle_fragments` is false, from `sequence_idx` on,
with the continuation it holds: `none` is the `expect` on `Clause::try_from`. -/
def continuationsLoop (continuation : Continuation Body) (docLike : T) :
    List (Element Decimal Timestamp) → Option (Except ConformanceErrorKind T)
  | [] => some (.error .expectedClause)
  | element :: rest =>
    match element.asSequence with
    | none => some (.error .expectedClause)
    | some seq =>
      match readers.clause seq with
      | .error _ => none
      | .ok innerClause =>
        match readers.parseContinuation innerClause with
        | .error e => some (.error e)
        | .ok c =>
          match continuation.extend c with
          | none => some (.error .unexpectedContinuation)
          | some continuation =>
            if readers.isExtension continuation && !rest.isEmpty then
              continuationsLoop continuation docLike rest
            else some (.ok (doc.setContinuation docLike continuation))

/-- The loop of `parse_document_like` while `handle_fragments` is true, from `sequence_idx` on:
at the first element that is not a fragment it goes on without moving. -/
def fragmentsLoop (docLike : T) :
    List (Element Decimal Timestamp) → Option (Except ConformanceErrorKind T)
  | [] => some (.error .expectedClause)
  | element :: rest =>
    match element.asSequence with
    | none => some (.error .expectedClause)
    | some seq =>
      match readers.fragment seq with
      | .ok fragment => fragmentsLoop (doc.addFragment docLike fragment) rest
      | .error .expectedFragment => continuationsLoop readers doc .none docLike (element :: rest)
      | .error e => some (.error e)

/-- `parse_document_like` on the clause's body: a first element of type string is the name,
set if it has text, and the loop starts after it. -/
def parseDocumentLike : List (Element Decimal Timestamp) → Option (Except ConformanceErrorKind T)
  | first :: rest =>
    if first.ionType = .string then
      fragmentsLoop readers doc (first.asString.elim doc.default (doc.setName doc.default)) rest
    else fragmentsLoop readers doc doc.default (first :: rest)
  | [] => fragmentsLoop readers doc doc.default []

/-! ## The `UnexpectedContinuation` arm -/

/-- The continuation the loop holds: none yet, or one it extends. -/
def Continuation.Held {Body : Type} (continuation : Continuation Body) : Prop :=
  continuation = .none ∨ continuation.extendable = true

theorem Continuation.Held.extend_isSome {Body : Type} {continuation : Continuation Body}
    (h : continuation.Held) (c : Continuation Body) : (continuation.extend c).isSome := by
  rcases h with rfl | h
  · rfl
  · cases continuation <;> simp_all [extendable, extend]

section Held

variable (hext : ∀ c, readers.isExtension c = true → c.extendable = true)
  (hcontinuation : ∀ clause, readers.parseContinuation clause ≠ .error .unexpectedContinuation)
include hext hcontinuation

/-- The step of the loop keeps the continuation held extendable, so the fold never fails. -/
theorem continuationsLoop_ne_unexpectedContinuation :
    ∀ (elements : List (Element Decimal Timestamp)) (continuation : Continuation Body)
      (docLike : T), continuation.Held →
      continuationsLoop readers doc continuation docLike elements ≠
        some (.error .unexpectedContinuation)
  | [], _, _, _ => by simp [continuationsLoop]
  | element :: rest, continuation, docLike, hheld => by
    unfold continuationsLoop
    split
    · simp
    · split
      · simp
      · split
        · rename_i e hc
          simpa using fun h => hcontinuation _ (h ▸ hc)
        · rename_i c hc
          obtain ⟨next, hnext⟩ := Option.isSome_iff_exists.mp (hheld.extend_isSome c)
          simp only [hnext]
          split
          · exact continuationsLoop_ne_unexpectedContinuation rest next docLike
              (.inr (hext next (Bool.and_eq_true_iff.mp ‹_›).1))
          · simp

theorem fragmentsLoop_ne_unexpectedContinuation
    (hfragment : ∀ seq, readers.fragment seq ≠ .error .unexpectedContinuation) :
    ∀ (elements : List (Element Decimal Timestamp)) (docLike : T),
      fragmentsLoop readers doc docLike elements ≠ some (.error .unexpectedContinuation)
  | [], _ => by simp [fragmentsLoop]
  | element :: rest, docLike => by
    unfold fragmentsLoop
    split
    · simp
    · split
      · exact fragmentsLoop_ne_unexpectedContinuation hfragment rest _
      · exact continuationsLoop_ne_unexpectedContinuation readers doc hext hcontinuation _ _ _
          (.inl rfl)
      · rename_i e hne hf
        simpa using fun h => hfragment _ (h ▸ hf)

/-- `parse_document_like` never returns `UnexpectedContinuation` of its own: the arm of the fold
that rejects a continuation after an expectation is dead code. -/
theorem parseDocumentLike_ne_unexpectedContinuation
    (hfragment : ∀ seq, readers.fragment seq ≠ .error .unexpectedContinuation)
    (body : List (Element Decimal Timestamp)) :
    parseDocumentLike readers doc body ≠ some (.error .unexpectedContinuation) := by
  have hloop := fragmentsLoop_ne_unexpectedContinuation readers doc hext hcontinuation hfragment
  cases body with
  | nil => exact hloop _ _
  | cons first rest =>
    simp only [parseDocumentLike]
    split <;> exact hloop _ _

end Held

end Loop

/-- Readers of a body of clauses, none of them a fragment: an empty clause is an `Each`, any other
an expectation. -/
def eachThenExpectation : DocumentReaders Unit Unit Unit Unit where
  fragment _ := .error .expectedFragment
  clause seq := .ok ⟨.other, seq⟩
  parseContinuation clause := .ok (if clause.body.isEmpty then .each () else .expectation ())
  isExtension := Continuation.extendable

/-- A document that records its continuation. -/
def continuationRecorder : DocumentLike (Option (Continuation Unit)) Unit Unit where
  default := none
  setName docLike _ := docLike
  addFragment docLike _ := docLike
  setContinuation _ continuation := some continuation

/-- An expectation after an `Each` is taken into `Extensions`, not rejected. -/
example :
    parseDocumentLike eachThenExpectation continuationRecorder [.sexp [], .sexp [.bool true]] =
      some (.ok (some (.extensions [.each (), .expectation ()]))) := rfl

/-- `(each) (produces true)` with the readers above. -/
theorem parseDocumentLike_ne_unexpectedContinuation_eachThenExpectation :
    (∀ c, eachThenExpectation.isExtension c = true → c.extendable = true) ∧
      (∀ clause, eachThenExpectation.parseContinuation clause ≠ .error .unexpectedContinuation) ∧
      (∀ seq, eachThenExpectation.fragment seq ≠ .error .unexpectedContinuation) ∧
      parseDocumentLike eachThenExpectation continuationRecorder [.sexp [], .sexp [.bool true]] ≠
        some (.error .unexpectedContinuation) :=
  have hext : ∀ c, eachThenExpectation.isExtension c = true → c.extendable = true :=
    fun _ h => h
  have hcontinuation :
      ∀ clause, eachThenExpectation.parseContinuation clause ≠ .error .unexpectedContinuation :=
    fun _ => by simp [eachThenExpectation]
  have hfragment : ∀ seq, eachThenExpectation.fragment seq ≠ .error .unexpectedContinuation :=
    fun _ => by simp [eachThenExpectation]
  ⟨hext, hcontinuation, hfragment,
    parseDocumentLike_ne_unexpectedContinuation _ _ hext hcontinuation hfragment _⟩

end IonRust
