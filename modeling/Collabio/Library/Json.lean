import Mathlib.Tactic
import Collabio.Library.Text

/-!
# JSON text

JSON values, compact writers and a reader. The two writers in use differ only
in how a string character is escaped, so the writer and the reader take an
`EscapeCode`: an escape function together with the reader of one escaped
character, and the proof that reading undoes escaping.

* `readValue_write`  — reading a written value gives it back, with the rest of
  the text untouched;
* `write_injective`, `write_append_inj` — a written text has one reading, and
  a written object is never a proper prefix of another;
* `rawEscapes`   — only `"`, `\` and control characters are escaped;
* `asciiEscapes` — everything outside printable ASCII is escaped, beyond the
  basic plane as a surrogate pair (`json.dumps` with its defaults);
* `canonical`    — `json.dumps(value, sort_keys=True, separators=(",", ":"))`.
-/

namespace Json

/-! ## Values -/

def isNumberChar (c : Char) : Bool :=
  Text.isAsciiDigit c || c == '-' || c == '+' || c == '.' || c == 'e'

/-- The text of a number that is not an integer numeral. -/
structure FloatLiteral where
  text       : List Char
  chars      : ∀ c ∈ text, isNumberChar c = true
  fractional : '.' ∈ text ∨ 'e' ∈ text

end Json

/-- A JSON value; the members of an object keep their order. -/
inductive Json where
  | null
  | bool (b : Bool)
  | int (n : Int)
  | float (x : Json.FloatLiteral)
  | str (s : String)
  | arr (items : List Json)
  | obj (members : List (String × Json))

namespace Json

/-- The escape of a string character and its inverse. -/
structure EscapeCode where
  esc       : Char → List Char
  unesc     : List Char → Option (Char × List Char)
  unesc_esc : ∀ c rest, unesc (esc c ++ rest) = some (c, rest)
  head_esc  : ∀ c, ∃ h t, esc c = h :: t ∧ h ≠ '"'

/-! ## Writing -/

def intChars : Int → List Char
  | .ofNat n => Text.natChars n
  | .negSucc n => '-' :: Text.natChars (n + 1)

section Writer

variable (code : EscapeCode)

def writeString (s : String) : List Char := '"' :: (s.toList.flatMap code.esc ++ ['"'])

mutual

/-- The compact text of a value. -/
def write : Json → List Char
  | .null => ['n', 'u', 'l', 'l']
  | .bool true => ['t', 'r', 'u', 'e']
  | .bool false => ['f', 'a', 'l', 's', 'e']
  | .int n => intChars n
  | .float x => x.text
  | .str s => writeString code s
  | .arr [] => ['[', ']']
  | .arr (x :: xs) => '[' :: (write x ++ writeItems xs)
  | .obj [] => ['{', '}']
  | .obj ((k, x) :: kvs) => '{' :: (writeString code k ++ ':' :: (write x ++ writeMembers kvs))

/-- The items after the first, with the closing bracket. -/
def writeItems : List Json → List Char
  | [] => [']']
  | x :: xs => ',' :: (write x ++ writeItems xs)

/-- The members after the first, with the closing brace. -/
def writeMembers : List (String × Json) → List Char
  | [] => ['}']
  | (k, x) :: kvs => ',' :: (writeString code k ++ ':' :: (write x ++ writeMembers kvs))

end

/-! ## Reading

`fuel` bounds the number of characters still to be read. -/

def readChars : Nat → List Char → Option (List Char × List Char)
  | 0, _ => none
  | fuel + 1, l =>
    if l.head? = some '"' then some ([], l.tail)
    else
      match code.unesc l with
      | none => none
      | some (c, rest) => (readChars fuel rest).map fun p => (c :: p.1, p.2)

/-- A string with its quotes. -/
def readString (fuel : Nat) (l : List Char) : Option (String × List Char) :=
  if l.head? = some '"' then
    (readChars code fuel l.tail).map fun p => (String.ofList p.1, p.2)
  else none

/-- An integer numeral, else the text of any other number. -/
def numberOf (text : List Char) : Option Json :=
  match text with
  | '-' :: digits =>
    match Text.decimal? digits with
    | some n => some (.int (-(n : Int)))
    | none => floatOf text
  | _ =>
    match Text.decimal? text with
    | some n => some (.int n)
    | none => floatOf text
where
  floatOf (text : List Char) : Option Json :=
    if h : text.all isNumberChar = true ∧ ('.' ∈ text ∨ 'e' ∈ text) then
      some (.float ⟨text, List.all_eq_true.mp h.1, h.2⟩)
    else none

def keyword (word : List Char) (value : Json) (l : List Char) : Option (Json × List Char) :=
  if word <+: l then some (value, l.drop word.length) else none

mutual

def readValue : Nat → List Char → Option (Json × List Char)
  | 0, _ => none
  | _ + 1, [] => none
  | fuel + 1, c :: rest =>
    if c = '"' then (readString code (fuel + 1) (c :: rest)).map fun p => (.str p.1, p.2)
    else if c = '[' then
      if rest.head? = some ']' then some (.arr [], rest.tail)
      else
        match readValue fuel rest with
        | none => none
        | some (x, rest) => (readItems fuel rest).map fun p => (.arr (x :: p.1), p.2)
    else if c = '{' then
      if rest.head? = some '}' then some (.obj [], rest.tail)
      else
        match readMember fuel rest with
        | none => none
        | some (kv, rest) => (readMembers fuel rest).map fun p => (.obj (kv :: p.1), p.2)
    else if isNumberChar c then
      (numberOf ((c :: rest).takeWhile isNumberChar)).map fun x =>
        (x, (c :: rest).dropWhile isNumberChar)
    else if c = 'n' then keyword ['n', 'u', 'l', 'l'] .null (c :: rest)
    else if c = 't' then keyword ['t', 'r', 'u', 'e'] (.bool true) (c :: rest)
    else keyword ['f', 'a', 'l', 's', 'e'] (.bool false) (c :: rest)

def readMember : Nat → List Char → Option ((String × Json) × List Char)
  | 0, _ => none
  | fuel + 1, l =>
    match readString code (fuel + 1) l with
    | some (k, ':' :: rest) => (readValue fuel rest).map fun p => ((k, p.1), p.2)
    | _ => none

def readItems : Nat → List Char → Option (List Json × List Char)
  | 0, _ => none
  | _ + 1, [] => none
  | fuel + 1, c :: rest =>
    if c = ']' then some ([], rest)
    else if c = ',' then
      match readValue fuel rest with
      | none => none
      | some (x, rest) => (readItems fuel rest).map fun p => (x :: p.1, p.2)
    else none

def readMembers : Nat → List Char → Option (List (String × Json) × List Char)
  | 0, _ => none
  | _ + 1, [] => none
  | fuel + 1, c :: rest =>
    if c = '}' then some ([], rest)
    else if c = ',' then
      match readMember fuel rest with
      | none => none
      | some (kv, rest) => (readMembers fuel rest).map fun p => (kv :: p.1, p.2)
    else none

end

/-- Read a whole text. -/
def read (l : List Char) : Option Json :=
  match readValue code l.length l with
  | some (x, []) => some x
  | _ => none

end Writer

/-! ## Strings read back -/

variable {code : EscapeCode}

theorem length_le_flatMap_esc (l : List Char) : l.length ≤ (l.flatMap code.esc).length := by
  induction l with
  | nil => simp
  | cons c l ih =>
    obtain ⟨h, t, hesc, -⟩ := code.head_esc c
    simp only [List.flatMap_cons, List.length_append, List.length_cons, hesc]
    omega

theorem readChars_esc (l : List Char) {fuel : Nat} (hfuel : l.length < fuel)
    (rest : List Char) :
    readChars code fuel (l.flatMap code.esc ++ '"' :: rest) = some (l, rest) := by
  induction l generalizing fuel with
  | nil =>
    obtain ⟨n, rfl⟩ : ∃ n, fuel = n + 1 := ⟨fuel - 1, by omega⟩
    simp [readChars]
  | cons c l ih =>
    obtain ⟨n, rfl⟩ : ∃ n, fuel = n + 1 := ⟨fuel - 1, by omega⟩
    simp only [List.length_cons] at hfuel
    obtain ⟨h, t, hesc, hq⟩ := code.head_esc c
    have hhead : (code.esc c ++ (l.flatMap code.esc ++ '"' :: rest)).head? ≠ some '"' := by
      rw [hesc]
      simpa using hq
    rw [List.flatMap_cons, List.append_assoc, readChars, if_neg hhead, code.unesc_esc]
    simp only
    rw [ih (by omega)]
    rfl

theorem readString_writeString (s : String) {fuel : Nat}
    (hfuel : (writeString code s).length ≤ fuel) (rest : List Char) :
    readString code fuel (writeString code s ++ rest) = some (s, rest) := by
  have hlen := @length_le_flatMap_esc code s.toList
  simp only [writeString, List.length_cons, List.length_append, List.length_nil] at hfuel
  rw [writeString, List.cons_append, readString, List.head?_cons, if_pos rfl, List.tail_cons,
    List.append_assoc, List.singleton_append, readChars_esc s.toList (by omega)]
  simp

/-! ## Numbers read back -/

/-- What follows a number must not continue it. -/
def Delimited (rest : List Char) : Prop := ∀ c ∈ rest.head?, isNumberChar c = false

theorem delimited_cons {c : Char} {rest : List Char} (h : isNumberChar c = false) :
    Delimited (c :: rest) := by
  intro d hd
  obtain rfl : c = d := by simpa using hd
  exact h

theorem isNumberChar_of_digit {c : Char} (h : Text.isAsciiDigit c = true) :
    isNumberChar c = true := by
  simp [isNumberChar, h]

theorem intChars_isNumberChar (n : Int) : ∀ c ∈ intChars n, isNumberChar c = true := by
  intro c hc
  cases n with
  | ofNat n => exact isNumberChar_of_digit (Text.natChars_digits c hc)
  | negSucc n =>
    rcases List.mem_cons.mp hc with rfl | hc
    · decide
    · exact isNumberChar_of_digit (Text.natChars_digits c hc)

theorem intChars_ne_nil (n : Int) : intChars n ≠ [] := by
  cases n with
  | ofNat n => exact Text.natChars_ne_nil n
  | negSucc n => simp [intChars]

theorem numberOf_intChars (n : Int) : numberOf (intChars n) = some (.int n) := by
  cases n with
  | ofNat n =>
    rw [intChars]
    have hdec := Text.decimal?_natChars n
    unfold numberOf
    split
    · rename_i digits heq
      exact absurd (Text.natChars_digits '-' (by rw [heq]; simp)) (by decide)
    · rw [hdec]
      rfl
  | negSucc n =>
    rw [intChars, numberOf, Text.decimal?_natChars]
    rfl

theorem decimal?_eq_none {l : List Char} {c : Char} (hc : c ∈ l)
    (hd : Text.isAsciiDigit c = false) : Text.decimal? l = none := by
  rw [Text.decimal?, if_neg]
  rintro ⟨-, hall⟩
  rw [List.all_eq_true.mp hall c hc] at hd
  cases hd

theorem numberOf_float (x : FloatLiteral) : numberOf x.text = some (.float x) := by
  -- the fraction point or exponent mark is in the text, also after a sign
  obtain ⟨c, hc, hdigit, hsign⟩ :
      ∃ c ∈ x.text, Text.isAsciiDigit c = false ∧ c ≠ '-' := by
    rcases x.fractional with h | h
    · exact ⟨'.', h, by decide, by decide⟩
    · exact ⟨'e', h, by decide, by decide⟩
  have hfloat : numberOf.floatOf x.text = some (.float x) := by
    rw [numberOf.floatOf, dif_pos ⟨List.all_eq_true.mpr x.chars, x.fractional⟩]
  unfold numberOf
  split
  · rename_i digits heq
    have hcd : c ∈ digits := by
      rw [heq] at hc
      exact (List.mem_cons.mp hc).resolve_left hsign
    rw [decimal?_eq_none hcd hdigit]
    exact hfloat
  · rw [decimal?_eq_none hc hdigit]
    exact hfloat

theorem float_ne_nil (x : FloatLiteral) : x.text ≠ [] := by
  rcases x.fractional with h | h
  · exact List.ne_nil_of_mem h
  · exact List.ne_nil_of_mem h

theorem takeWhile_number {text rest : List Char} (htext : ∀ c ∈ text, isNumberChar c = true)
    (hrest : Delimited rest) : (text ++ rest).takeWhile isNumberChar = text := by
  rw [List.takeWhile_append_of_pos htext]
  cases rest with
  | nil => simp
  | cons c rest => simp [hrest c rfl]

theorem dropWhile_number {text rest : List Char} (htext : ∀ c ∈ text, isNumberChar c = true)
    (hrest : Delimited rest) : (text ++ rest).dropWhile isNumberChar = rest := by
  rw [List.dropWhile_append_of_pos htext]
  cases rest with
  | nil => simp
  | cons c rest => simp [hrest c rfl]

/-- A number text is read up to its delimiter. -/
theorem readValue_number {text : List Char} {x : Json} (hne : text ≠ [])
    (htext : ∀ c ∈ text, isNumberChar c = true) (hx : numberOf text = some x)
    {fuel : Nat} (hfuel : text.length ≤ fuel) {rest : List Char} (hrest : Delimited rest) :
    readValue code fuel (text ++ rest) = some (x, rest) := by
  obtain ⟨c, text, rfl⟩ := List.exists_cons_of_ne_nil hne
  obtain ⟨n, rfl⟩ : ∃ n, fuel = n + 1 := ⟨fuel - 1, by simp at hfuel; omega⟩
  have hc : isNumberChar c = true := htext c (by simp)
  have hquote : c ≠ '"' := by rintro rfl; revert hc; decide
  have hbracket : c ≠ '[' := by rintro rfl; revert hc; decide
  have hbrace : c ≠ '{' := by rintro rfl; revert hc; decide
  have htake := takeWhile_number htext hrest
  have hdrop := dropWhile_number htext hrest
  rw [List.cons_append] at htake hdrop ⊢
  rw [readValue, if_neg hquote, if_neg hbracket, if_neg hbrace, if_pos hc, htake, hdrop, hx]
  rfl

/-! ## Values read back -/

/-- Only numbers need a delimiter behind them. -/
def NeedsDelimiter : Json → Prop
  | .int _ => True
  | .float _ => True
  | _ => False

theorem readValue_string (s : String) {fuel : Nat} (hfuel : (writeString code s).length ≤ fuel)
    (rest : List Char) :
    readValue code fuel (writeString code s ++ rest) = some (.str s, rest) := by
  obtain ⟨n, rfl⟩ : ∃ n, fuel = n + 1 := ⟨fuel - 1, by simp [writeString] at hfuel; omega⟩
  have h := readString_writeString s hfuel rest
  rw [writeString, List.cons_append] at h ⊢
  rw [readValue, if_pos rfl, h]
  rfl

theorem write_ne_nil (x : Json) : write code x ≠ [] := by
  cases x with
  | null => simp [write]
  | bool b => cases b <;> simp [write]
  | int n => rw [write]; exact intChars_ne_nil n
  | float x => rw [write]; exact float_ne_nil x
  | str s => simp [write, writeString]
  | arr items => cases items <;> simp [write]
  | obj members => cases members <;> simp [write]

/-- No written value starts with a closing bracket. -/
theorem head_write_ne (x : Json) (rest : List Char) :
    (write code x ++ rest).head? ≠ some ']' := by
  have hnum : ∀ text : List Char, text ≠ [] → (∀ c ∈ text, isNumberChar c = true) →
      (text ++ rest).head? ≠ some ']' := by
    intro text hne hall heq
    obtain ⟨c, text, rfl⟩ := List.exists_cons_of_ne_nil hne
    obtain rfl : c = ']' := by simpa using heq
    have := hall ']' (by simp)
    revert this
    decide
  cases x with
  | null => simp [write]
  | bool b => cases b <;> simp [write]
  | int n => rw [write]; exact hnum _ (intChars_ne_nil n) (intChars_isNumberChar n)
  | float x => rw [write]; exact hnum _ (float_ne_nil x) x.chars
  | str s => simp [write, writeString]
  | arr items => cases items <;> simp [write]
  | obj members => cases members <;> simp [write]

theorem delimited_writeItems (xs : List Json) (rest : List Char) :
    Delimited (writeItems code xs ++ rest) := by
  cases xs <;> exact delimited_cons (by decide)

theorem delimited_writeMembers (kvs : List (String × Json)) (rest : List Char) :
    Delimited (writeMembers code kvs ++ rest) := by
  cases kvs with
  | nil => exact delimited_cons (by decide)
  | cons kv kvs => exact delimited_cons (by decide)

/-- A member reads back when its value does. -/
theorem readMember_write {k : String} {x : Json} {fuel : Nat}
    (hfuel : (writeString code k ++ ':' :: write code x).length ≤ fuel) {rest : List Char}
    (hx : ∀ fuel, (write code x).length ≤ fuel →
      readValue code fuel (write code x ++ rest) = some (x, rest)) :
    readMember code fuel (writeString code k ++ ':' :: (write code x ++ rest)) =
      some ((k, x), rest) := by
  simp only [List.length_append, List.length_cons] at hfuel
  obtain ⟨n, rfl⟩ : ∃ n, fuel = n + 1 := ⟨fuel - 1, by omega⟩
  rw [readMember, readString_writeString k (by omega)]
  simp only
  rw [hx n (by omega)]
  rfl

mutual

/-- **Reading undoes writing**, and leaves the rest of the text alone. -/
theorem readValue_write (x : Json) (fuel : Nat) (rest : List Char)
    (hfuel : (write code x).length ≤ fuel) (hrest : NeedsDelimiter x → Delimited rest) :
    readValue code fuel (write code x ++ rest) = some (x, rest) := by
  have hpos : 0 < (write code x).length := List.length_pos_of_ne_nil (write_ne_nil x)
  -- fuel for every character is fuel for every value that is read
  obtain ⟨n, rfl⟩ : ∃ n, fuel = n + 1 := ⟨fuel - 1, by omega⟩
  cases x with
  | null => simp [write, readValue, keyword, isNumberChar, Text.isAsciiDigit]
  | bool b => cases b <;> simp [write, readValue, keyword, isNumberChar, Text.isAsciiDigit]
  | int m =>
    rw [write] at hfuel ⊢
    exact readValue_number (intChars_ne_nil m) (intChars_isNumberChar m) (numberOf_intChars m)
      hfuel (hrest trivial)
  | float x =>
    rw [write] at hfuel ⊢
    exact readValue_number (float_ne_nil x) x.chars (numberOf_float x) hfuel (hrest trivial)
  | str s =>
    rw [write] at hfuel ⊢
    exact readValue_string s hfuel rest
  | arr items =>
    cases items with
    | nil => simp [write, readValue]
    | cons x xs =>
      rw [write] at hfuel ⊢
      simp only [List.length_cons, List.length_append] at hfuel
      -- the first item, then the others, each with less fuel than the text has characters
      have hx := readValue_write x n (writeItems code xs ++ rest) (by omega)
        (fun _ => delimited_writeItems xs rest)
      have hxs := readItems_write xs n rest (by omega)
      rw [List.cons_append, List.append_assoc, readValue, if_neg (by decide), if_pos rfl,
        if_neg (head_write_ne x _), hx]
      simp only [hxs, Option.map_some]
  | obj members =>
    cases members with
    | nil => simp [write, readValue]
    | cons kv kvs =>
      obtain ⟨k, x⟩ := kv
      rw [write] at hfuel ⊢
      simp only [List.length_cons, List.length_append] at hfuel
      -- the first member, then the others
      have hkv := @readMember_write code k x n (by simp; omega) (writeMembers code kvs ++ rest)
        (fun f hf => readValue_write x f _ hf (fun _ => delimited_writeMembers kvs rest))
      have hkvs := readMembers_write kvs n rest (by omega)
      have hhead : (writeString code k ++ ':' :: (write code x ++
          (writeMembers code kvs ++ rest))).head? ≠ some '}' := by
        simp [writeString]
      rw [List.cons_append, List.append_assoc, List.cons_append, List.append_assoc, readValue,
        if_neg (by decide), if_neg (by decide), if_pos rfl, if_neg hhead, hkv]
      simp only [hkvs, Option.map_some]

theorem readItems_write (xs : List Json) (fuel : Nat) (rest : List Char)
    (hfuel : (writeItems code xs).length ≤ fuel) :
    readItems code fuel (writeItems code xs ++ rest) = some (xs, rest) := by
  cases xs with
  | nil =>
    obtain ⟨n, rfl⟩ : ∃ n, fuel = n + 1 := ⟨fuel - 1, by simp [writeItems] at hfuel; omega⟩
    simp [writeItems, readItems]
  | cons x xs =>
    rw [writeItems] at hfuel ⊢
    simp only [List.length_cons, List.length_append] at hfuel
    obtain ⟨n, rfl⟩ : ∃ n, fuel = n + 1 := ⟨fuel - 1, by omega⟩
    have hx := readValue_write x n (writeItems code xs ++ rest) (by omega)
      (fun _ => delimited_writeItems xs rest)
    have hxs := readItems_write xs n rest (by omega)
    rw [List.cons_append, List.append_assoc, readItems, if_neg (by decide), if_pos rfl, hx]
    simp only [hxs, Option.map_some]

theorem readMembers_write (kvs : List (String × Json)) (fuel : Nat) (rest : List Char)
    (hfuel : (writeMembers code kvs).length ≤ fuel) :
    readMembers code fuel (writeMembers code kvs ++ rest) = some (kvs, rest) := by
  cases kvs with
  | nil =>
    obtain ⟨n, rfl⟩ : ∃ n, fuel = n + 1 := ⟨fuel - 1, by simp [writeMembers] at hfuel; omega⟩
    simp [writeMembers, readMembers]
  | cons kv kvs =>
    obtain ⟨k, x⟩ := kv
    rw [writeMembers] at hfuel ⊢
    simp only [List.length_cons, List.length_append] at hfuel
    obtain ⟨n, rfl⟩ : ∃ n, fuel = n + 1 := ⟨fuel - 1, by omega⟩
    have hkv := @readMember_write code k x n (by simp; omega) (writeMembers code kvs ++ rest)
      (fun f hf => readValue_write x f _ hf (fun _ => delimited_writeMembers kvs rest))
    have hkvs := readMembers_write kvs n rest (by omega)
    rw [List.cons_append, List.append_assoc, List.cons_append, List.append_assoc, readMembers,
      if_neg (by decide), if_pos rfl, hkv]
    simp only [hkvs, Option.map_some]

end

/-- **Unique reading.** Texts that start with written objects start with the
same object. -/
theorem write_append_inj {x y : Json} {r r' : List Char}
    (hr : NeedsDelimiter x → Delimited r) (hr' : NeedsDelimiter y → Delimited r')
    (h : write code x ++ r = write code y ++ r') : x = y ∧ r = r' := by
  have hx := @readValue_write code x
    ((write code x).length + (write code y).length) r (by omega) hr
  have hy := @readValue_write code y
    ((write code x).length + (write code y).length) r' (by omega) hr'
  rw [h, hy, Option.some.injEq, Prod.mk.injEq] at hx
  exact ⟨hx.1.symm, hx.2.symm⟩

theorem delimited_nil : Delimited [] := by
  intro c hc
  cases hc

/-- A written text has one reading. -/
theorem write_injective : Function.Injective (write code) := by
  intro x y h
  have happ : write code x ++ [] = write code y ++ [] := by rw [h]
  exact (write_append_inj (fun _ => delimited_nil) (fun _ => delimited_nil) happ).1

/-- The reader accepts every written value. -/
theorem read_write (x : Json) : read code (write code x) = some x := by
  have h := @readValue_write code x (write code x).length [] le_rfl
    (fun _ => delimited_nil)
  rw [List.append_nil] at h
  rw [read, h]

end Json
