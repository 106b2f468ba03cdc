import Mathlib.Tactic

/-!
# Bracketed text

Text in which an opening and a closing symbol nest, and an escape symbol takes the next symbol as
it is. A stream may hold bracketed literals between other symbols.

* `Body`      — the grammar of what stands between an opening symbol and the one that closes it,
  with the text it means;
* `read_iff`  — the scanner that counts the depth reads exactly the bodies;
* `Literals`, `Unclosed` — the grammar of a stream, and of a stream with a literal left open;
* `literals_eq_some`, `literals_eq_none` — the scanner of a stream decides between the two;
* `body_escaped` — escaped text is a body, and means the text.
-/

/-- Three symbols that are told apart. -/
structure Brackets (α : Type*) where
  opening : α
  closing : α
  escape  : α
  opening_ne_closing : opening ≠ closing
  opening_ne_escape  : opening ≠ escape
  closing_ne_escape  : closing ≠ escape

namespace Brackets

variable {α : Type*} (b : Brackets α)

/-- The three symbols. -/
def Special (c : α) : Prop := c = b.opening ∨ c = b.closing ∨ c = b.escape

instance [DecidableEq α] (c : α) : Decidable (b.Special c) :=
  inferInstanceAs (Decidable (_ ∨ _ ∨ _))

/-! ## Bodies -/

/-- What stands between brackets, and what it means: escape symbols are dropped, inner brackets
stay. -/
inductive Body : List α → List α → Prop
  | nil : Body [] []
  | plain {c raw value} : ¬ b.Special c → Body raw value → Body (c :: raw) (c :: value)
  | escaped {raw value} (c) : Body raw value → Body (b.escape :: c :: raw) (c :: value)
  | nested {raw value raw' value'} : Body raw value → Body raw' value' →
      Body (b.opening :: (raw ++ b.closing :: raw')) (b.opening :: (value ++ b.closing :: value'))

variable {b}

theorem Body.append {raw value raw' value' : List α} (h : b.Body raw value)
    (h' : b.Body raw' value') : b.Body (raw ++ raw') (value ++ value') := by
  induction h with
  | nil => exact h'
  | plain hc _ ih => exact .plain hc ih
  | escaped c _ ih => exact .escaped c ih
  | nested hinner _ _ ih =>
    rw [List.cons_append, List.append_assoc, List.cons_append, List.cons_append,
      List.append_assoc, List.cons_append]
    exact .nested hinner ih

variable (b) in
/-- Bodies with a closing symbol behind each of them, as many as brackets are open. -/
inductive Closes : Nat → List α → List α → Prop
  | last {raw value} : b.Body raw value → Closes 0 (raw ++ [b.closing]) value
  | next {depth raw value raw' value'} : b.Body raw value → Closes depth raw' value' →
      Closes (depth + 1) (raw ++ b.closing :: raw') (value ++ b.closing :: value')

/-- More of the innermost body. -/
theorem Closes.prepend {depth : Nat} {raw value raw' value' : List α} (h : b.Body raw value)
    (h' : b.Closes depth raw' value') : b.Closes depth (raw ++ raw') (value ++ value') := by
  cases h' with
  | last h' =>
    rw [← List.append_assoc]
    exact .last (h.append h')
  | next h' hrest =>
    rw [← List.append_assoc, ← List.append_assoc]
    exact .next (h.append h') hrest

variable (b) in
/-- From a text of so many open brackets, with `value` read of it: the rest closes them, and means
what the scanner has added. -/
def ReadsTo (depth : Nat) (value s text rest : List α) : Prop :=
  ∃ raw text', s = raw ++ rest ∧ text = value ++ text' ∧ b.Closes depth raw text'

theorem ReadsTo.prepend {depth : Nat} {value s text rest raw added : List α}
    (h : b.Body raw added) (h' : b.ReadsTo depth (value ++ added) s text rest) :
    b.ReadsTo depth value (raw ++ s) text rest := by
  obtain ⟨raw', text', rfl, rfl, hcloses⟩ := h'
  refine ⟨raw ++ raw', added ++ text', ?_, ?_, hcloses.prepend h⟩
  · rw [List.append_assoc]
  · rw [List.append_assoc]

/-- An opening symbol in front: what closes it is the first of the closing symbols. -/
theorem ReadsTo.nest {depth : Nat} {value s text rest : List α}
    (h : b.ReadsTo (depth + 1) (value ++ [b.opening]) s text rest) :
    b.ReadsTo depth value (b.opening :: s) text rest := by
  obtain ⟨raw, text', rfl, rfl, hcloses⟩ := h
  cases hcloses with
  | next hbody hrest =>
    rename_i inner meant raw' text'
    refine ⟨b.opening :: (inner ++ b.closing :: raw'),
      b.opening :: (meant ++ b.closing :: text'), ?_, ?_, ?_⟩
    · simp only [List.cons_append, List.append_assoc]
    · simp only [List.cons_append, List.append_assoc, List.nil_append]
    · have hnested := hrest.prepend (.nested hbody .nil)
      simp only [List.cons_append, List.append_assoc, List.nil_append] at hnested
      exact hnested

section

variable [DecidableEq α]

/-! ## The scanner of a body -/

variable (b) in
/-- The text up to the symbol that closes the outermost bracket, and what is left behind it. `depth`
counts the open brackets within the outermost one; `value` is what has been read. -/
def read (depth : Nat) (value : List α) : List α → Option (List α × List α)
  | [] => none
  | c :: rest =>
    if c = b.escape then
      match rest with
      | [] => none
      | escaped :: rest => read depth (value ++ [escaped]) rest
    else if c = b.opening then read (depth + 1) (value ++ [c]) rest
    else if c = b.closing then
      match depth with
      | 0 => some (value, rest)
      | depth + 1 => read depth (value ++ [c]) rest
    else read depth (value ++ [c]) rest

section

variable {depth : Nat} {value rest : List α}

theorem read_escape (c : α) :
    b.read depth value (b.escape :: c :: rest) = b.read depth (value ++ [c]) rest := by
  conv_lhs => unfold read
  rw [if_pos rfl]

theorem read_opening :
    b.read depth value (b.opening :: rest) = b.read (depth + 1) (value ++ [b.opening]) rest := by
  conv_lhs => unfold read
  rw [if_neg b.opening_ne_escape, if_pos rfl]

theorem read_closing :
    b.read (depth + 1) value (b.closing :: rest) = b.read depth (value ++ [b.closing]) rest := by
  conv_lhs => unfold read
  rw [if_neg b.closing_ne_escape, if_neg b.opening_ne_closing.symm, if_pos rfl]

theorem read_closing_outermost :
    b.read 0 value (b.closing :: rest) = some (value, rest) := by
  conv_lhs => unfold read
  rw [if_neg b.closing_ne_escape, if_neg b.opening_ne_closing.symm, if_pos rfl]

theorem read_plain {c : α} (hc : ¬ b.Special c) :
    b.read depth value (c :: rest) = b.read depth (value ++ [c]) rest := by
  unfold Special at hc
  push Not at hc
  conv_lhs => unfold read
  rw [if_neg hc.2.2, if_neg hc.1, if_neg hc.2.1]

end

/-- The scanner runs over a body at any depth. -/
theorem read_body {raw text : List α} (h : b.Body raw text) (depth : Nat) (value rest : List α) :
    b.read depth value (raw ++ rest) = b.read depth (value ++ text) rest := by
  induction h generalizing depth value rest with
  | nil => rw [List.nil_append, List.append_nil]
  | plain hc _ ih =>
    rw [List.cons_append, read_plain hc, ih, List.append_assoc]
    rfl
  | escaped c _ ih =>
    rw [List.cons_append, List.cons_append, read_escape, ih, List.append_assoc]
    rfl
  | nested _ _ ih ih' =>
    -- one bracket deeper, back again, and on with what follows
    rw [List.cons_append, read_opening, List.append_assoc, ih, List.cons_append, read_closing, ih']
    simp only [List.append_assoc, List.cons_append, List.nil_append]

/-- What the scanner has read closes the brackets that were open. The induction is over the
symbols it reads: each one goes in front of what is read after it. -/
theorem readsTo_of_read {depth : Nat} {value s text rest : List α}
    (h : b.read depth value s = some (text, rest)) : b.ReadsTo depth value s text rest := by
  fun_induction b.read depth value s with
  | case1 => cases h
  | case2 => cases h
  | case3 depth value c s ih => exact ReadsTo.prepend (.escaped c .nil) (ih h)
  | case4 depth value s _ ih => exact (ih h).nest
  | case5 value s =>
    cases h
    exact ⟨[b.closing], [], rfl, (List.append_nil _).symm, .last .nil⟩
  | case6 value s _ _ depth ih =>
    obtain ⟨raw, text', rfl, rfl, hcloses⟩ := ih h
    refine ⟨b.closing :: raw, b.closing :: text', rfl, ?_, .next .nil hcloses⟩
    rw [List.append_assoc]
    rfl
  | case7 depth value c s hescape hopening hclosing ih =>
    have hplain : ¬ b.Special c := by
      unfold Special
      push Not
      exact ⟨hopening, hclosing, hescape⟩
    exact ReadsTo.prepend (.plain hplain .nil) (ih h)

/-- **The scanner of a body.** It reads up to the closing symbol of a body, and no further. -/
theorem read_iff {s text rest : List α} :
    b.read 0 [] s = some (text, rest) ↔ ∃ raw, s = raw ++ b.closing :: rest ∧ b.Body raw text := by
  constructor
  · intro h
    obtain ⟨raw, text', hs, htext, hcloses⟩ := readsTo_of_read h
    rw [List.nil_append] at htext
    subst htext
    cases hcloses with
    | last hbody =>
      rename_i raw
      refine ⟨raw, ?_, hbody⟩
      rw [hs, List.append_assoc]
      rfl
  · rintro ⟨raw, rfl, hbody⟩
    rw [read_body hbody, List.nil_append, read_closing_outermost]

theorem length_lt_of_read {s text rest : List α} (h : b.read 0 [] s = some (text, rest)) :
    rest.length < s.length := by
  obtain ⟨raw, rfl, -⟩ := read_iff.mp h
  rw [List.length_append, List.length_cons]
  omega

/-! ## The scanner of a stream -/

variable (b) in
/-- What the literals of a stream mean, in the order of the stream. -/
def literals : List α → Option (List (List α))
  | [] => some []
  | c :: rest =>
    if c = b.opening then
      match h : b.read 0 [] rest with
      | none => none
      | some (text, rest') =>
        have := length_lt_of_read h
        (literals rest').map (text :: ·)
    else literals rest
termination_by s => s.length
decreasing_by
  · simp only [List.length_cons]
    omega
  · simp only [List.length_cons]
    omega

end

variable (b) in
/-- A stream with its outermost literals. -/
inductive Literals : List α → List (List α) → Prop
  | nil : Literals [] []
  | skip {c s texts} : c ≠ b.opening → Literals s texts → Literals (c :: s) texts
  | literal {raw text s texts} : b.Body raw text → Literals s texts →
      Literals (b.opening :: (raw ++ b.closing :: s)) (text :: texts)

variable (b) in
/-- One of the outermost literals of the stream is not closed. -/
inductive Unclosed : List α → Prop
  | skip {c s} : c ≠ b.opening → Unclosed s → Unclosed (c :: s)
  | later {raw text s} : b.Body raw text → Unclosed s →
      Unclosed (b.opening :: (raw ++ b.closing :: s))
  | here {s} : (∀ raw text rest, b.Body raw text → s ≠ raw ++ b.closing :: rest) →
      Unclosed (b.opening :: s)

section

variable [DecidableEq α] {s : List α}

theorem literals_skip {c : α} (hc : c ≠ b.opening) : b.literals (c :: s) = b.literals s := by
  rw [literals, if_neg hc]

theorem literals_of_read {text rest : List α} (h : b.read 0 [] s = some (text, rest)) :
    b.literals (b.opening :: s) = (b.literals rest).map (text :: ·) := by
  rw [literals, if_pos rfl]
  split
  · simp_all
  · simp_all

theorem literals_of_not_read (h : b.read 0 [] s = none) : b.literals (b.opening :: s) = none := by
  rw [literals, if_pos rfl]
  split
  · rfl
  · simp_all

theorem Literals.of_eq_some {texts : List (List α)} (h : b.literals s = some texts) :
    b.Literals s texts := by
  fun_induction b.literals s generalizing texts with
  | case1 =>
    cases h
    exact .nil
  | case2 => cases h
  | case3 s text rest hread _ ih =>
    obtain ⟨texts, hrest, rfl⟩ := Option.map_eq_some_iff.mp h
    obtain ⟨raw, rfl, hbody⟩ := read_iff.mp hread
    exact .literal hbody (ih hrest)
  | case4 c s hc ih => exact .skip hc (ih h)

theorem Literals.eq_some {texts : List (List α)} (h : b.Literals s texts) :
    b.literals s = some texts := by
  induction h with
  | nil => rw [literals]
  | skip hc _ ih => rw [literals_skip hc, ih]
  | literal hbody _ ih =>
    rw [literals_of_read (read_iff.mpr ⟨_, rfl, hbody⟩), ih]
    rfl

/-- **The scanner of a stream.** It finds the outermost literals. -/
theorem literals_eq_some {texts : List (List α)} :
    b.literals s = some texts ↔ b.Literals s texts := ⟨Literals.of_eq_some, Literals.eq_some⟩

theorem literals_eq_none : b.literals s = none ↔ b.Unclosed s := by
  constructor
  · intro h
    fun_induction b.literals s with
    | case1 => cases h
    | case2 s hread =>
      -- a closed literal would have been read
      refine .here fun raw text rest hbody hs => ?_
      rw [read_iff.mpr ⟨raw, hs, hbody⟩] at hread
      cases hread
    | case3 s text rest hread _ ih =>
      obtain ⟨raw, rfl, hbody⟩ := read_iff.mp hread
      exact .later hbody (ih (Option.map_eq_none_iff.mp h))
    | case4 c s hc ih => exact .skip hc (ih h)
  · intro h
    induction h with
    | skip hc _ ih => rw [literals_skip hc, ih]
    | later hbody _ ih =>
      rw [literals_of_read (read_iff.mpr ⟨_, rfl, hbody⟩), ih]
      rfl
    | @here s hopen =>
      refine literals_of_not_read ?_
      cases hread : b.read 0 [] s with
      | none => rfl
      | some found =>
        obtain ⟨text, rest⟩ := found
        obtain ⟨raw, hs, hbody⟩ := read_iff.mp hread
        exact absurd hs (hopen raw text rest hbody)

/-! ## Escaped text -/

variable (b) in
/-- An escape symbol before every special one. -/
def escaped (s : List α) : List α :=
  s.flatMap fun c => if b.Special c then [b.escape, c] else [c]

theorem body_escaped (s : List α) : b.Body (b.escaped s) s := by
  induction s with
  | nil => exact .nil
  | cons c s ih =>
    unfold escaped
    rw [List.flatMap_cons]
    by_cases hc : b.Special c
    · rw [if_pos hc]
      exact .escaped c ih
    · rw [if_neg hc]
      exact .plain hc ih

theorem literals_escaped (s : List α) :
    b.literals (b.opening :: (b.escaped s ++ [b.closing])) = some [s] :=
  literals_eq_some.mpr (.literal (body_escaped s) .nil)

end

end Brackets
