import IonRust.PullLoop

/-!
# The cache iterators of the text 1.1 reader

`RawTextSequenceCacheIterator`, `RawTextStructCacheIterator` and `TextEExpArgsIterator_1_1` walk a
slice of expressions that the reader has already parsed.  Their `next` is the same: the
expression at `index` and the index moved past it, or `None` at the end, where the index stays.
Here they are one iterator, `CacheIterator`, over the slice's element type.  Each yields the
slice in order, every expression as `Ok`, and then `None` on every later call.

`TextEExpArgsIterator_1_1` alone has a `size_hint`, which reports the length of the whole slice
however many arguments `next` has already returned.  `Iterator::size_hint` is to bound the
number of items still to come; after the first call of `next` on a non-empty slice the hint's
lower bound is above it.
-/

namespace IonRust

/-- A cache iterator: the slice of expressions and the index of the next one. -/
structure CacheIterator (α : Type) where
  exprs : List α
  index : Nat
  deriving DecidableEq, Repr

/-- `RawTextSequenceCacheIterator`, over the child expressions of a sequence. -/
abbrev RawTextSequenceCacheIterator (ValueExpr : Type) := CacheIterator ValueExpr

/-- `RawTextStructCacheIterator`, over the field expressions of a struct. -/
abbrev RawTextStructCacheIterator (FieldExpr : Type) := CacheIterator FieldExpr

/-- `TextEExpArgsIterator_1_1`, over the arguments of an e-expression. -/
abbrev TextEExpArgsIterator (EExpArg : Type) := CacheIterator EExpArg

namespace CacheIterator

variable {α : Type}

/-- `new`: at the start of the slice. -/
def new (exprs : List α) : CacheIterator α :=
  ⟨exprs, 0⟩

/-- `next`: `self.child_exprs.get(self.index)?`, then `self.index += 1`. -/
def next (it : CacheIterator α) : Option (Except IonError α) × CacheIterator α :=
  match it.exprs[it.index]? with
  | none => (none, it)
  | some expr => (some (.ok expr), { it with index := it.index + 1 })

/-- `next` as the one pass of its call. -/
def pass (it : CacheIterator α) : LoopStep α (CacheIterator α) :=
  .done it.next.1 it.next.2

/-- The expressions left. -/
def work (it : CacheIterator α) : Nat :=
  it.exprs.length - it.index

/-- What `n` calls of `next` return, and the iterator after them. -/
def poll : Nat → CacheIterator α → List (Option (Except IonError α)) × CacheIterator α
  | 0, it => ([], it)
  | n + 1, it =>
    let (item, it) := it.next
    let (items, it) := poll n it
    (item :: items, it)

theorem next_of_lt {it : CacheIterator α} (h : it.index < it.exprs.length) :
    it.next = (some (.ok it.exprs[it.index]), { it with index := it.index + 1 }) := by
  simp [next, List.getElem?_eq_getElem h]

theorem next_of_le {it : CacheIterator α} (h : it.exprs.length ≤ it.index) :
    it.next = (none, it) := by
  simp [next, List.getElem?_eq_none h]

theorem decreasing : LoopStep.Decreasing (@pass α) work where
  loop_lt h := by cases h
  done_lt {it} _ _ h := by
    simp only [pass, LoopStep.done.injEq] at h
    by_cases hlt : it.index < it.exprs.length
    · simp only [next_of_lt hlt] at h
      obtain ⟨-, rfl⟩ := h
      simp only [work]
      omega
    · simp [next_of_le (Nat.le_of_not_lt hlt)] at h

/-- The items still to come are the expressions from the index on, each `Ok`. -/
theorem results_eq (it : CacheIterator α) :
    LoopStep.results pass work it = (it.exprs.drop it.index).map .ok := by
  generalize hn : it.exprs.length - it.index = n
  induction n generalizing it with
  | zero =>
    rw [decreasing.results_of_done_none (show pass it = .done none it by
      simp [pass, next_of_le (show it.exprs.length ≤ it.index by omega)])]
    simp [List.drop_eq_nil_of_le (show it.exprs.length ≤ it.index by omega)]
  | succ n ih =>
    have hlt : it.index < it.exprs.length := by omega
    rw [decreasing.results_of_done_ok (show pass it =
        .done (some (.ok it.exprs[it.index])) { it with index := it.index + 1 } by
      simp [pass, next_of_lt hlt]), ih _ (by simp only; omega), List.drop_eq_getElem_cons hlt]
    rfl

/-- `n` calls of `next` from the start return the first `n` expressions, each `Ok`, and `None`
for every call past the end; the index is then past the expressions returned. -/
theorem poll_new (exprs : List α) (n : Nat) :
    (new exprs).poll n =
      ((exprs.take n).map (some ∘ .ok) ++ List.replicate (n - exprs.length) none,
        ⟨exprs, min n exprs.length⟩) := by
  suffices h : ∀ n index, index ≤ exprs.length → (⟨exprs, index⟩ : CacheIterator α).poll n =
      (((exprs.drop index).take n).map (some ∘ .ok) ++
        List.replicate (n - (exprs.length - index)) none, ⟨exprs, min (index + n) exprs.length⟩) by
    simpa [new] using h n 0 (Nat.zero_le _)
  intro n
  induction n with
  | zero => intro index hindex; simp [poll, Nat.min_eq_left hindex]
  | succ n ih =>
    intro index hindex
    by_cases hlt : index < exprs.length
    · simp only [poll, @next_of_lt _ ⟨exprs, index⟩ hlt, ih (index + 1) hlt,
        List.drop_eq_getElem_cons hlt, List.take_succ_cons, List.map_cons, List.cons_append]
      refine Prod.ext ?_ (by simp only; congr 2; omega)
      simp only [Function.comp_apply, List.cons.injEq, true_and]
      congr 2
      omega
    · have hend : exprs.length = index := by omega
      subst hend
      rw [poll, @next_of_le _ ⟨exprs, exprs.length⟩ le_rfl]
      simp only [ih exprs.length le_rfl, List.drop_length, List.take_nil, List.map_nil,
        List.nil_append, Nat.sub_self, Nat.sub_zero, List.replicate_succ]
      simp [Nat.min_eq_right (Nat.le_add_right _ _)]

end CacheIterator

/-- `TextEExpArgsIterator_1_1::size_hint`: the number of arguments of the whole slice, as both
bounds. -/
def TextEExpArgsIterator.sizeHint {EExpArg : Type} (it : TextEExpArgsIterator EExpArg) :
    Nat × Option Nat :=
  (it.exprs.length, some it.exprs.length)

/-- The contract of `Iterator::size_hint`: the lower bound at most, and the upper bound if any
at least, the number of items still to come. -/
def SizeHintHolds (hint : Nat × Option Nat) (remaining : Nat) : Prop :=
  hint.1 ≤ remaining ∧ ∀ upper ∈ hint.2, remaining ≤ upper

/-- After `n` calls of `next`, `TextEExpArgsIterator_1_1` has returned the first `n` arguments, each
as `Ok`, then `None` for every call past the end, and has the rest still to come; its `size_hint`
meets its contract exactly when no call has been made or there are no arguments. -/
theorem TextEExpArgsIterator.sizeHint_after_poll {EExpArg : Type} (args : List EExpArg)
    (n : Nat) :
    let it : TextEExpArgsIterator EExpArg := ((CacheIterator.new args).poll n).2
    ((CacheIterator.new args).poll n).1 =
        (args.take n).map (some ∘ .ok) ++ List.replicate (n - args.length) none ∧
      LoopStep.results CacheIterator.pass CacheIterator.work it = (args.drop n).map .ok ∧
      (SizeHintHolds it.sizeHint (LoopStep.results CacheIterator.pass CacheIterator.work it).length
        ↔ n = 0 ∨ args = []) := by
  have hdrop : args.drop (min n args.length) = args.drop n := by
    rcases Nat.le_total n args.length with h | h
    · rw [Nat.min_eq_left h]
    · rw [Nat.min_eq_right h, List.drop_length, List.drop_eq_nil_of_le h]
  simp only [CacheIterator.poll_new, CacheIterator.results_eq, hdrop]
  refine ⟨trivial, trivial, ?_⟩
  simp only [SizeHintHolds, TextEExpArgsIterator.sizeHint, List.length_map, List.length_drop,
    Option.mem_def, Option.some.injEq, forall_eq', Nat.sub_le, and_true]
  rcases args with _ | ⟨arg, args⟩
  · simp
  · simp only [List.length_cons, reduceCtorEq, or_false]
    omega

end IonRust
