import IonRust.Conformance.Model

/-!
# The absent-symbol notation of the conformance DSL

A symbol of a `Toplevel` fragment can stand for an absent symbol: `#$<id>` is the symbol ID `id`
of the current symbol table, and `#$<name>#<id>` the one at `id` in the shared table `name`.
`parse_absent_symbol` splits such a text at its `#`s and reads the ID with
`str::parse::<usize>`, and `compare_symbols_eq` compares two symbols by the texts their
notations name.

`parse_absent_symbol` reads back every notation its doc comment describes, and a text that does
not start with `#$` as no notation at all.  Its `panic!` is reached by a text with two `#`s or
more after the `#$`, and the `unreachable!` of `compare_symbols_eq` ("Cannot have a symtab
without an id") by a text `#$<name>#<id>` whose ID is not a `usize`, as in `#$foo#bar`; the
`unwrap` of `expected.as_symbol()` panics on a `null.symbol`.  `compare_symbols_eq` panics
exactly in these cases.
-/

namespace IonRust

/-! ## `str::parse::<usize>` -/

/-- The value of a decimal digit. -/
def digitValue (c : Char) : Nat :=
  c.toNat - '0'.toNat

/-- The value of decimal digits, most significant first, accumulated as `from_str_radix` does. -/
def decimalValue (digits : List Char) : Nat :=
  digits.foldl (fun acc c => 10 * acc + digitValue c) 0

/-- `str::parse::<usize>` on a 64-bit target, over the text's characters: an optional `+`, then
one decimal digit or more, of a value below `2 ^ 64`.  The code fails at the first digit that
overflows; as the value of a prefix is at most that of the whole, that is when the whole value
is `2 ^ 64` or more. -/
def parseUsize (src : List Char) : Option Nat :=
  let digits :=
    match src with
    | '+' :: rest => rest
    | _ => src
  if digits ≠ [] ∧ digits.all Char.isDigit ∧ decimalValue digits < 2 ^ 64 then
    some (decimalValue digits)
  else none

theorem digitChar_isDigit_digitValue :
    ∀ d, d < 10 → (Nat.digitChar d).isDigit = true ∧ digitValue (Nat.digitChar d) = d := by
  decide

theorem decimalValue_append_digitChar (digits : List Char) {d : Nat} (h : d < 10) :
    decimalValue (digits ++ [Nat.digitChar d]) = 10 * decimalValue digits + d := by
  simp only [decimalValue, List.foldl_append, List.foldl_cons, List.foldl_nil,
    (digitChar_isDigit_digitValue d h).2]

/-- `Nat.toDigitsCore` with enough fuel puts the decimal digits of `n` in front of `ds`. -/
theorem toDigitsCore_ten {fuel n : Nat} (hfuel : n < fuel) (ds : List Char) :
    ∃ digits, Nat.toDigitsCore 10 fuel n ds = digits ++ ds ∧ digits ≠ [] ∧
      digits.all Char.isDigit ∧ decimalValue digits = n := by
  induction fuel generalizing n ds with
  | zero => omega
  | succ fuel ih =>
    have hlast := digitChar_isDigit_digitValue (n % 10) (Nat.mod_lt n (by decide))
    by_cases hdiv : n / 10 = 0
    · refine ⟨[Nat.digitChar (n % 10)], ?_, by simp, by simp [hlast.1], ?_⟩
      · simp [Nat.toDigitsCore, hdiv]
      · simp only [decimalValue, List.foldl_cons, List.foldl_nil, hlast.2]
        omega
    · obtain ⟨digits, hcore, hne, hall, hvalue⟩ :=
        ih (show n / 10 < fuel by omega) (Nat.digitChar (n % 10) :: ds)
      refine ⟨digits ++ [Nat.digitChar (n % 10)], ?_, by simp, ?_, ?_⟩
      · simp [Nat.toDigitsCore, hdiv, hcore]
      · simp only [List.all_append, hall, List.all_cons, hlast.1, List.all_nil, Bool.and_self]
      · rw [decimalValue_append_digitChar _ (Nat.mod_lt n (by decide)), hvalue]
        omega

/-- `str::parse::<usize>` reads back every `usize` printed in decimal. -/
theorem parseUsize_toDigits {n : Nat} (h : n < 2 ^ 64) :
    parseUsize (Nat.toDigits 10 n) = some n := by
  obtain ⟨digits, hcore, hne, hall, hvalue⟩ := toDigitsCore_ten (Nat.lt_succ_self n) []
  rw [Nat.toDigits, hcore, List.append_nil]
  have hplus : ∀ rest, digits ≠ '+' :: rest := by
    rintro rest rfl
    simp at hall
  unfold parseUsize
  split
  · exact absurd rfl (hplus _)
  · simpa [hne, hall, hvalue] using h

/-! ## `parse_absent_symbol` -/

/-- `parse_absent_symbol`: after a `#$` prefix the text's parts between `#`s, the ID alone or the
table's name and the ID, each ID read by `parse::<usize>` with `None` for a failure; `none` is
the `panic!` on three parts or more.  A text without the prefix is no notation, `(None, None)`. -/
def parseAbsentSymbol (txt : String) : Option (Option String × Option Nat) :=
  match txt.data with
  | '#' :: '$' :: idTxt =>
    match idTxt.splitOn '#' with
    | [id] => some (none, parseUsize id)
    | [name, id] => some (some (String.mk name), parseUsize id)
    | _ => none
  | _ => some (none, none)

/-- The notation of the doc comment: `#$<id>`, or `#$<name>#<id>` for the shared table `name`. -/
def absentNotation (symtab : Option String) (id : Nat) : String :=
  "#$" ++ (symtab.map (· ++ "#")).getD "" ++ toString id

theorem length_splitOn (c : Char) (xs : List Char) : (xs.splitOn c).length = xs.count c + 1 := by
  induction xs with
  | nil => rfl
  | cons x xs ih =>
    simp only [List.splitOn] at ih ⊢
    by_cases hx : x = c
    · simp [List.splitOnP_cons, hx, ih]
    · simp [List.splitOnP_cons, hx, ih, List.count_cons]

theorem splitOn_of_not_mem {c : Char} {xs : List Char} (h : c ∉ xs) : xs.splitOn c = [xs] :=
  List.splitOnP_eq_single _ _ fun x hx hxc => h (by rwa [← beq_iff_eq.mp hxc])

theorem splitOn_append_cons {c : Char} {xs : List Char} (h : c ∉ xs) (ys : List Char) :
    (xs ++ c :: ys).splitOn c = xs :: ys.splitOn c :=
  List.splitOnP_first (· == c) xs (fun _ hx hxc => h (beq_iff_eq.mp hxc ▸ hx)) c
    (beq_self_eq_true c) ys

theorem data_absentNotation (symtab : Option String) (id : Nat) :
    (absentNotation symtab id).data =
      '#' :: '$' :: ((symtab.map (·.data ++ ['#'])).getD [] ++ Nat.toDigits 10 id) := by
  cases symtab <;> simp [absentNotation] <;> rfl

theorem hash_not_mem_toDigits (n : Nat) : '#' ∉ Nat.toDigits 10 n := by
  obtain ⟨digits, hcore, -, hall, -⟩ := toDigitsCore_ten (Nat.lt_succ_self n) []
  rw [Nat.toDigits, hcore, List.append_nil]
  intro hmem
  simpa using List.all_eq_true.mp hall _ hmem

/-- `parse_absent_symbol` reads back every notation of its doc comment, for a table name without
`#` and an ID that is a `usize`, and reads a text without the `#$` prefix as no notation. -/
theorem parseAbsentSymbol_absentNotation (symtab : Option String) (id : Nat)
    (hsymtab : ∀ name ∈ symtab, '#' ∉ name.data) (hid : id < 2 ^ 64) :
    parseAbsentSymbol (absentNotation symtab id) = some (symtab, some id) := by
  have hdigits := hash_not_mem_toDigits id
  unfold parseAbsentSymbol
  rw [data_absentNotation]
  cases symtab with
  | none =>
    simp only [Option.map_none', Option.getD_none, List.nil_append, splitOn_of_not_mem hdigits,
      parseUsize_toDigits hid]
  | some name =>
    simp only [Option.map_some', Option.getD_some, List.append_assoc, List.singleton_append,
      splitOn_append_cons (hsymtab name rfl), splitOn_of_not_mem hdigits, parseUsize_toDigits hid]

/-- `#$foo#10`, the ID 10 of the shared table `foo`. -/
theorem parseAbsentSymbol_absentNotation_foo :
    parseAbsentSymbol (absentNotation (some "foo") 10) = some (some "foo", some 10) :=
  parseAbsentSymbol_absentNotation _ _ (fun _ hname => by cases hname; decide) (by norm_num)

/-- The parts between `#`s are two exactly when the text is the first part, a `#` and the
second. -/
theorem splitOn_eq_pair_iff {c : Char} {xs first second : List Char} :
    xs.splitOn c = [first, second] ↔ xs = first ++ c :: second ∧ c ∉ first ∧ c ∉ second := by
  constructor
  · intro h
    have hxs : xs = first ++ c :: second := by
      simpa [List.intercalate, h] using (List.intercalate_splitOn xs c).symm
    have hcount : (first ++ c :: second).count c = 1 := by
      have := length_splitOn c xs
      rw [h, ← hxs] at *
      simp only [List.length_cons, List.length_nil] at this
      omega
    simp only [List.count_append, List.count_cons_self] at hcount
    exact ⟨hxs, List.count_eq_zero.mp (by omega), List.count_eq_zero.mp (by omega)⟩
  · rintro ⟨rfl, hfirst, hsecond⟩
    rw [splitOn_append_cons hfirst, splitOn_of_not_mem hsecond]

/-- `parse_absent_symbol` panics exactly on a `#$` followed by two `#`s or more. -/
theorem parseAbsentSymbol_eq_none_iff (txt : String) :
    parseAbsentSymbol txt = none ↔
      ∃ idTxt, txt.data = '#' :: '$' :: idTxt ∧ 2 ≤ idTxt.count '#' := by
  unfold parseAbsentSymbol
  split
  · rename_i idTxt htxt
    have hlen := length_splitOn '#' idTxt
    rcases hparts : idTxt.splitOn '#' with _ | ⟨first, _ | ⟨second, _ | ⟨third, rest⟩⟩⟩ <;>
      simp only [hparts, List.length_cons, List.length_nil] at hlen <;> simp [htxt] <;> omega
  · rename_i hshape
    simp only [reduceCtorEq, false_iff, not_exists, not_and]
    exact fun idTxt htxt => absurd htxt (hshape idTxt)

/-- `parse_absent_symbol` gives a table's name without an ID exactly on `#$<name>#<id>` with one
`#` after the name and an `id` that `parse::<usize>` rejects. -/
theorem parseAbsentSymbol_eq_symtab_iff (txt name : String) :
    parseAbsentSymbol txt = some (some name, none) ↔
      ∃ idTxt, txt.data = '#' :: '$' :: (name.data ++ '#' :: idTxt) ∧ '#' ∉ name.data ∧
        '#' ∉ idTxt ∧ parseUsize idTxt = none := by
  unfold parseAbsentSymbol
  split
  · rename_i rest htxt
    simp only [htxt, List.cons.injEq, true_and]
    constructor
    · intro h
      split at h
      · cases h
      · rename_i first second hparts
        simp only [Option.some.injEq, Prod.mk.injEq] at h
        obtain ⟨hname, hid⟩ := h
        obtain ⟨hrest, hfirst, hsecond⟩ := splitOn_eq_pair_iff.mp hparts
        subst hname
        exact ⟨second, hrest, hfirst, hsecond, hid⟩
      · cases h
    · rintro ⟨idTxt, rfl, hname, hid, hparse⟩
      rw [splitOn_eq_pair_iff.mpr ⟨rfl, hname, hid⟩]
      simp [hparse]
  · rename_i hshape
    simp only [Option.some.injEq, Prod.mk.injEq, reduceCtorEq, false_and, false_iff, not_exists,
      not_and]
    exact fun idTxt htxt => absurd htxt (hshape _)

example : parseAbsentSymbol "#$foo#bar" = some (some "foo", none) := by decide

/-- The texts whose notation panics: `parse_absent_symbol`'s `panic!` on two `#`s or more after
the `#$`, and the `unreachable!` on `#$<name>#<id>` with an ID that is not a `usize`. -/
def NotationPanics (txt : String) : Prop :=
  ∃ idTxt, txt.data = '#' :: '$' :: idTxt ∧
    (2 ≤ idTxt.count '#' ∨
      ∃ name id, idTxt = name ++ '#' :: id ∧ '#' ∉ name ∧ '#' ∉ id ∧ parseUsize id = none)

/-! ## `compare_symbols_eq` -/

/-- What `compare_symbols_eq` calls on the actual value besides `read`. -/
structure SymbolTableApi (V : Type) where
  /-- `actual.ion_type()`. -/
  ionType : V → IonType
  /-- `actual.symbol_table().text_for(id)`. -/
  textFor : V → Nat → Option String

/-- The text a symbol names by its notation: its own text, the text at an ID of the current
table, or the text at an ID of a shared table; `none` is the `unreachable!` on a table's name
without an ID. -/
def notationText (ctx : Context) (textFor : Nat → Option String) (text : Option String) :
    Option String × Option Nat → Option (Option String)
  | (none, none) => some text
  | (none, some id) => some (textFor id)
  | (some symtab, some id) => some ((ctx.symbolFromTable symtab id).bind SymbolRef.text)
  | (some _, none) => none

theorem notationText_eq_none_iff (ctx : Context) (textFor : Nat → Option String)
    (text : Option String) (txt : String) :
    (parseAbsentSymbol txt).bind (notationText ctx textFor text) = none ↔ NotationPanics txt := by
  constructor
  · intro h
    rcases hparse : parseAbsentSymbol txt with _ | ⟨symtab, id⟩
    · obtain ⟨idTxt, htxt, hcount⟩ := (parseAbsentSymbol_eq_none_iff txt).mp hparse
      exact ⟨idTxt, htxt, .inl hcount⟩
    · rw [hparse] at h
      rcases symtab with _ | name <;> rcases id with _ | id <;> simp [notationText] at h
      obtain ⟨idTxt, htxt, hname, hid, hparse⟩ :=
        (parseAbsentSymbol_eq_symtab_iff txt name).mp hparse
      exact ⟨name.data ++ '#' :: idTxt, htxt, .inr ⟨name.data, idTxt, rfl, hname, hid, hparse⟩⟩
  · rintro ⟨idTxt, htxt, hcount | ⟨name, id, rfl, hname, hid, hparse⟩⟩
    · rw [(parseAbsentSymbol_eq_none_iff txt).mpr ⟨idTxt, htxt, hcount⟩]
      rfl
    · rw [(parseAbsentSymbol_eq_symtab_iff txt ⟨name⟩).mpr ⟨id, htxt, hname, hid, hparse⟩]
      rfl

theorem option_bind_notations_eq_none {α β γ δ ε : Type} (pe : Option α) (pa : Option β)
    (ne : α → Option γ) (na : β → Option δ) (f : γ → δ → ε) :
    (do let x ← pe; let y ← pa; let u ← ne x; let v ← na y; pure (f u v)) = none ↔
      pe.bind ne = none ∨ pa.bind na = none := by
  cases pe with
  | none => simp
  | some x =>
    cases pa with
    | none => simp
    | some y => rcases hne : ne x with _ | u <;> rcases hna : na y with _ | v <;> simp [hne, hna]

section CompareSymbols

variable {V Decimal Timestamp : Type} (api : LazyValueApi V Decimal Timestamp)
  (tables : SymbolTableApi V) (ctx : Context)

/-- `compare_symbols_eq(ctx, actual, expected)`: `false` unless both are symbols, then the texts
their notations name compared.  The `unwrap` of `expected.as_symbol()` is a panic, `none`. -/
def compareSymbolsEq (expected : Element Decimal Timestamp) (actual : V) :
    Option (Except ConformanceErrorKind Bool) :=
  if expected.ionType ≠ .symbol ∨ tables.ionType actual ≠ .symbol then some (.ok false)
  else
    match expected.asSymbol with
    | none => none
    | some expectedSymbol =>
      match api.read actual with
      | .error e => some (.error (.ionError e))
      | .ok (.symbol actualSymbol) => do
        let expectedNotation ← parseAbsentSymbol (expectedSymbol.text.getD "")
        let actualNotation ← parseAbsentSymbol (actualSymbol.text.getD "")
        let expectedText ←
          notationText ctx (tables.textFor actual) expectedSymbol.text expectedNotation
        let actualText ← notationText ctx (tables.textFor actual) actualSymbol.text actualNotation
        pure (.ok (expectedText == actualText))
      | .ok _ => some (.ok false)

/-- `compare_symbols_eq` panics exactly when the actual value is a symbol and the expected one
is a `null.symbol`, or both are symbols and the notation of either text panics. -/
theorem compareSymbolsEq_eq_none_iff (expected : Element Decimal Timestamp) (actual : V) :
    compareSymbolsEq api tables ctx expected actual = none ↔
      tables.ionType actual = .symbol ∧
        (expected = .null .symbol ∨
          ∃ expectedSymbol actualSymbol, expected = .symbol expectedSymbol ∧
            api.read actual = .ok (.symbol actualSymbol) ∧
            (NotationPanics (expectedSymbol.text.getD "") ∨
              NotationPanics (actualSymbol.text.getD ""))) := by
  unfold compareSymbolsEq
  by_cases hactual : tables.ionType actual = .symbol
  · cases expected with
    | null ionType =>
      by_cases hnull : ionType = .symbol <;>
        simp [Element.ionType, Element.asSymbol, hnull, hactual]
    | symbol expectedSymbol =>
      simp only [Element.ionType, Element.asSymbol, hactual, ne_eq, not_true_eq_false, or_self,
        if_false, true_and, reduceCtorEq, false_or, Element.symbol.injEq, exists_and_left,
        exists_eq_left']
      cases api.read actual with
      | error e => simp
      | ok value =>
        cases value with
        | symbol actualSymbol =>
          dsimp only
          rw [option_bind_notations_eq_none, notationText_eq_none_iff, notationText_eq_none_iff]
          simp
        | _ => simp
    | _ => simp [Element.ionType]
  · simp [hactual]

end CompareSymbols

end IonRust
