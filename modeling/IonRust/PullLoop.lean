import Mathlib.Tactic

/-!
# Results and pull loops

`IonError` is the error half of `IonResult`.  Every iterator of the expansion engine has a
`next` whose body is a `loop`: one pass through it either returns from `next` or goes round
again.  `LoopStep` records one pass.  `LoopStep.call` repeats passes until one returns, which
is one call of `next`; `LoopStep.run` repeats calls until `next` returns `None`, and stops at
the first error, since a caller does not poll an iterator after an error; `LoopStep.drain`
polls on after errors too.

A work measure that every pass lowers, except a pass returning `None`, bounds all three, and
`LoopStep.results` is the run taken with that bound as fuel.  Its four unfolding lemmas are
all that the later modules use of it.
-/

namespace IonRust

/-- The failures an `IonResult` carries. -/
inductive IonError where
  | incomplete
  | decodingError (description : String)
  | encodingError (description : String)
  | illegalOperation (operation : String)
  deriving DecidableEq, Repr

/-- One pass through the body of an iterator's `loop`: it returns `item` from `next`, or it
reaches `continue` (or the end of the body) and goes round again. -/
inductive LoopStep (α σ : Type) where
  | done (item : Option (Except IonError α)) (next : σ)
  | loop (next : σ)

/-- `xs` and then `ys`, where nothing follows an error of `xs`. -/
def chainResults {α : Type} :
    List (Except IonError α) → List (Except IonError α) → List (Except IonError α)
  | [], ys => ys
  | .error e :: _, _ => [.error e]
  | .ok x :: xs, ys => .ok x :: chainResults xs ys

@[simp] theorem chainResults_nil_left {α : Type} (ys : List (Except IonError α)) :
    chainResults [] ys = ys := rfl

@[simp] theorem chainResults_error {α : Type} (e : IonError) (xs ys : List (Except IonError α)) :
    chainResults (.error e :: xs) ys = [.error e] := rfl

@[simp] theorem chainResults_ok {α : Type} (x : α) (xs ys : List (Except IonError α)) :
    chainResults (.ok x :: xs) ys = .ok x :: chainResults xs ys := rfl

theorem chainResults_assoc {α : Type} (xs ys zs : List (Except IonError α)) :
    chainResults (chainResults xs ys) zs = chainResults xs (chainResults ys zs) := by
  induction xs with
  | nil => rfl
  | cons r xs ih => cases r <;> simp [ih]

theorem chainResults_map {α β : Type} (f : α → β) (xs ys : List (Except IonError α)) :
    (chainResults xs ys).map (Except.map f) =
      chainResults (xs.map (Except.map f)) (ys.map (Except.map f)) := by
  induction xs with
  | nil => rfl
  | cons r xs ih => cases r <;> simp [ih, Except.map]

namespace LoopStep

variable {α σ : Type} (pass : σ → LoopStep α σ)

/-- One call of `next`: passes until the body returns, within `fuel` passes. -/
def call : Nat → σ → Option (Option (Except IonError α) × σ)
  | 0, _ => none
  | fuel + 1, s =>
      match pass s with
      | .done item next => some (item, next)
      | .loop next => call fuel next

/-- The items of calls of `next` up to the first `None` or the first error, within `fuel`
passes in all. -/
def run : Nat → σ → Option (List (Except IonError α))
  | 0, _ => none
  | fuel + 1, s =>
      match pass s with
      | .done none _ => some []
      | .done (some (.error e)) _ => some [.error e]
      | .done (some (.ok x)) next => (run fuel next).map (.ok x :: ·)
      | .loop next => run fuel next

/-- The items of calls of `next` up to the first `None`, polling on after errors. -/
def drain : Nat → σ → Option (List (Except IonError α))
  | 0, _ => none
  | fuel + 1, s =>
      match pass s with
      | .done none _ => some []
      | .done (some r) next => (drain fuel next).map (r :: ·)
      | .loop next => drain fuel next

/-- A pass from `s` to `t` that does not end the run: it continues the loop or returns an
item. -/
def Continues (s t : σ) : Prop :=
  pass s = .loop t ∨ ∃ x, pass s = .done (some (.ok x)) t

/-- The states that a run passes through before `next` returns `None` or an error. -/
abbrev Reaches : σ → σ → Prop :=
  Relation.ReflTransGen (Continues pass)

/-- The pass with its next state mapped by `f`. -/
def mapState {τ : Type} (f : σ → τ) : LoopStep α σ → LoopStep α τ
  | .done item next => .done item (f next)
  | .loop next => .loop (f next)

/-- The state a pass continues to, if it continues, satisfies `inv`. -/
def Keeps (inv : σ → Prop) : LoopStep α σ → Prop
  | .done none _ => True
  | .done (some (.error _)) _ => True
  | .done (some (.ok _)) next => inv next
  | .loop next => inv next

/-- The results of a state by its pass, `rest` giving those of the state the pass leads to. -/
def stepResults (rest : σ → List (Except IonError α)) : LoopStep α σ → List (Except IonError α)
  | .done none _ => []
  | .done (some (.error e)) _ => [.error e]
  | .done (some (.ok x)) next => .ok x :: rest next
  | .loop next => rest next

/-- A work measure that every pass lowers, except a pass that returns `None`. -/
structure Decreasing (work : σ → Nat) : Prop where
  loop_lt : ∀ {s next}, pass s = .loop next → work next < work s
  done_lt : ∀ {s next r}, pass s = .done (some r) next → work next < work s

/-- How far one pass may move a work measure from `before`: below it after a `continue` or a
yielded item, and no higher after `None`. -/
def WorkBound (work : σ → Nat) (before : Nat) : LoopStep α σ → Prop
  | .loop next => work next < before
  | .done none next => work next ≤ before
  | .done (some _) next => work next < before

theorem WorkBound.mono {work : σ → Nat} {before before' : Nat} {step : LoopStep α σ}
    (h : WorkBound work before step) (hle : before ≤ before') : WorkBound work before' step := by
  rcases step with ⟨_ | _, next⟩ | next <;> simp only [WorkBound] at h ⊢ <;> omega

theorem Decreasing.of_workBound {work : σ → Nat}
    (h : ∀ s, WorkBound work (work s) (pass s)) : Decreasing pass work where
  loop_lt {s next} hp := by simpa [WorkBound, hp] using h s
  done_lt {s next r} hp := by simpa [WorkBound, hp] using h s

/-- The run of `pass` from `s`, with the work of `s` bounding its passes. -/
def results (work : σ → Nat) (s : σ) : List (Except IonError α) :=
  (run pass (work s + 1) s).getD []

variable {pass}

theorem run_succ_of_eq_some {n : Nat} {s : σ} {out : List (Except IonError α)}
    (h : run pass n s = some out) : run pass (n + 1) s = some out := by
  induction n generalizing s out with
  | zero => simp [run] at h
  | succ n ih =>
    rw [run] at h ⊢
    split at h <;> simp_all
    obtain ⟨tail, htail, rfl⟩ := h
    simp [ih htail]

theorem run_eq_of_le {n m : Nat} {s : σ} {out : List (Except IonError α)}
    (h : run pass n s = some out) (hle : n ≤ m) : run pass m s = some out := by
  induction hle with
  | refl => exact h
  | step _ ih => exact run_succ_of_eq_some ih

theorem Reaches.head_loop {s next t : σ} (h : pass s = .loop next) (hreach : Reaches pass next t) :
    Reaches pass s t :=
  .head (Or.inl h) hreach

theorem Reaches.head_yield {s next t : σ} {x : α} (h : pass s = .done (some (.ok x)) next)
    (hreach : Reaches pass next t) : Reaches pass s t :=
  .head (Or.inr ⟨x, h⟩) hreach

/-- An invariant that every pass keeps holds of every state that a run reaches. -/
theorem Reaches.invariant {inv : σ → Prop} (hkeeps : ∀ s, inv s → (pass s).Keeps inv)
    {s t : σ} (hreach : Reaches pass s t) (hs : inv s) : inv t := by
  induction hreach with
  | refl => exact hs
  | tail _ hstep ih =>
    have hkeep := hkeeps _ ih
    rcases hstep with hp | ⟨x, hp⟩ <;> rw [hp] at hkeep <;> exact hkeep

/-- A map of states that commutes with the passes maps runs to runs. -/
theorem Reaches.map {τ : Type} {pass' : τ → LoopStep α τ} (f : σ → τ)
    (hf : ∀ s, pass' (f s) = (pass s).mapState f) {s t : σ} (hreach : Reaches pass s t) :
    Reaches pass' (f s) (f t) :=
  hreach.lift f fun a b hab => by
    rcases hab with hp | ⟨x, hp⟩
    · exact .inl (by rw [hf, hp]; rfl)
    · exact .inr ⟨x, by rw [hf, hp]; rfl⟩

variable {work : σ → Nat}

theorem Decreasing.call_isSome (h : Decreasing pass work) :
    ∀ (n : Nat) (s : σ), work s < n → (call pass n s).isSome := by
  intro n
  induction n with
  | zero => intro s hs; omega
  | succ n ih =>
    intro s hs
    cases hp : pass s with
    | done item next => simp [call, hp]
    | loop next =>
      simp only [call, hp]
      exact ih next (by have := h.loop_lt hp; omega)

theorem Decreasing.run_isSome (h : Decreasing pass work) :
    ∀ (n : Nat) (s : σ), work s < n → (run pass n s).isSome := by
  intro n
  induction n with
  | zero => intro s hs; omega
  | succ n ih =>
    intro s hs
    cases hp : pass s with
    | done item next =>
      rcases item with _ | _ | x
      · simp [run, hp]
      · simp [run, hp]
      · have hnext := ih next (by have := h.done_lt hp; omega)
        simpa [run, hp] using hnext
    | loop next =>
      simp only [run, hp]
      exact ih next (by have := h.loop_lt hp; omega)

theorem Decreasing.drain_isSome (h : Decreasing pass work) :
    ∀ (n : Nat) (s : σ), work s < n → (drain pass n s).isSome := by
  intro n
  induction n with
  | zero => intro s hs; omega
  | succ n ih =>
    intro s hs
    cases hp : pass s with
    | done item next =>
      rcases item with _ | r
      · simp [drain, hp]
      · have hnext := ih next (by have := h.done_lt hp; omega)
        simpa [drain, hp] using hnext
    | loop next =>
      simp only [drain, hp]
      exact ih next (by have := h.loop_lt hp; omega)

/-- Any fuel above the work runs `pass` to the end, with the same items. -/
theorem Decreasing.run_eq_results (h : Decreasing pass work) {n : Nat} {s : σ}
    (hn : work s < n) : run pass n s = some (results pass work s) := by
  obtain ⟨out, hout⟩ := Option.isSome_iff_exists.mp (h.run_isSome (work s + 1) s (by omega))
  have hle : work s + 1 ≤ n := hn
  rw [results, hout, run_eq_of_le hout hle]
  rfl

theorem Decreasing.results_of_done_none (h : Decreasing pass work) {s next : σ}
    (hp : pass s = .done none next) : results pass work s = [] := by
  have hrun := h.run_eq_results (Nat.lt_succ_self (work s))
  simp only [run, hp, Option.some.injEq] at hrun
  exact hrun.symm

theorem Decreasing.results_of_done_error (h : Decreasing pass work) {s next : σ} {e : IonError}
    (hp : pass s = .done (some (.error e)) next) : results pass work s = [.error e] := by
  have hrun := h.run_eq_results (Nat.lt_succ_self (work s))
  simp only [run, hp, Option.some.injEq] at hrun
  exact hrun.symm

theorem Decreasing.results_of_done_ok (h : Decreasing pass work) {s next : σ} {x : α}
    (hp : pass s = .done (some (.ok x)) next) :
    results pass work s = .ok x :: results pass work next := by
  have hrun := h.run_eq_results (Nat.lt_succ_self (work s))
  simp only [run, hp, h.run_eq_results (h.done_lt hp), Option.map_some', Option.some.injEq] at hrun
  exact hrun.symm

theorem Decreasing.results_of_loop (h : Decreasing pass work) {s next : σ}
    (hp : pass s = .loop next) : results pass work s = results pass work next := by
  have hrun := h.run_eq_results (Nat.lt_succ_self (work s))
  simp only [run, hp, h.run_eq_results (h.loop_lt hp), Option.some.injEq] at hrun
  exact hrun.symm

/-- One pass of the run: the four unfolding lemmas in one. -/
theorem Decreasing.results_eq (h : Decreasing pass work) (s : σ) :
    results pass work s = stepResults (results pass work) (pass s) := by
  rcases hp : pass s with ⟨_ | _ | x, next⟩ | next
  · exact h.results_of_done_none hp
  · exact h.results_of_done_error hp
  · exact h.results_of_done_ok hp
  · exact h.results_of_loop hp

/-- A map of states that commutes with the passes keeps the results. -/
theorem Decreasing.results_map {τ : Type} {pass' : τ → LoopStep α τ} {work' : τ → Nat}
    (h : Decreasing pass work) (h' : Decreasing pass' work') (f : σ → τ)
    (hf : ∀ s, pass' (f s) = (pass s).mapState f) (s : σ) :
    results pass' work' (f s) = results pass work s := by
  generalize hn : work s = n
  induction n using Nat.strong_induction_on generalizing s with
  | _ n ih =>
    rw [h.results_eq, h'.results_eq, hf]
    rcases hp : pass s with ⟨_ | _ | x, next⟩ | next <;> simp only [mapState, stepResults]
    · rw [ih _ (hn ▸ h.done_lt hp) next rfl]
    · rw [ih _ (hn ▸ h.loop_lt hp) next rfl]

end LoopStep

/-- The items of several runs one after the other, up to the first error. -/
def concatResults {α : Type} (runs : List (List (Except IonError α))) :
    List (Except IonError α) :=
  runs.foldr chainResults []

@[simp] theorem concatResults_nil {α : Type} : concatResults ([] : List (List (Except IonError α))) = [] :=
  rfl

@[simp] theorem concatResults_cons {α : Type} (run : List (Except IonError α))
    (runs : List (List (Except IonError α))) :
    concatResults (run :: runs) = chainResults run (concatResults runs) := rfl

theorem concatResults_append {α : Type} (runs runs' : List (List (Except IonError α))) :
    concatResults (runs ++ runs') = chainResults (concatResults runs) (concatResults runs') := by
  induction runs with
  | nil => rfl
  | cons run runs ih => simp [ih, chainResults_assoc]

end IonRust
