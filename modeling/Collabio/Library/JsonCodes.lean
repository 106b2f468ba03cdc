import Mathlib.Tactic
import Collabio.Library.Json

/-!
# The two JSON escape codes, and canonical JSON

* `rawEscapes`   — escapes `"`, `\` and control characters, everything else is
  written as it is;
* `asciiEscapes` — escapes everything outside printable ASCII as `\uXXXX`, with
  a surrogate pair beyond the basic plane (`json.dumps`);
* `canonical`    — `json.dumps` with sorted keys and no spaces. It forgets the
  order of object members and nothing else (`canonical_inj`).
-/

namespace Json

/-! ## Escapes -/

/-- The letter of a two-character escape. -/
def shortEscape? (c : Char) : Option Char :=
  if c = '"' then some '"'
  else if c = '\\' then some '\\'
  else if c = '\n' then some 'n'
  else if c = '\r' then some 'r'
  else if c = '\t' then some 't'
  else if c = '\x08' then some 'b'
  else if c = '\x0c' then some 'f'
  else none

def shortUnescape? (d : Char) : Option Char :=
  if d = '"' then some '"'
  else if d = '\\' then some '\\'
  else if d = 'n' then some '\n'
  else if d = 'r' then some '\r'
  else if d = 't' then some '\t'
  else if d = 'b' then some '\x08'
  else if d = 'f' then some '\x0c'
  else none

theorem shortUnescape?_of_escape {c d : Char} (h : shortEscape? c = some d) :
    shortUnescape? d = some c := by
  unfold shortEscape? at h
  split_ifs at h <;> (cases h; subst_vars; decide)

/-- The characters with a two-character escape include `"` and `\`. -/
theorem ne_of_shortEscape?_none {c : Char} (h : shortEscape? c = none) : c ≠ '"' ∧ c ≠ '\\' := by
  constructor
  · rintro rfl
    exact absurd h (by decide)
  · rintro rfl
    exact absurd h (by decide)

def hex4 (n : Nat) : List Char :=
  [Text.hexDigit (n / 4096), Text.hexDigit (n / 256 % 16), Text.hexDigit (n / 16 % 16),
    Text.hexDigit (n % 16)]

def hexValue? (c : Char) : Option Nat :=
  ['0', '1', '2', '3', '4', '5', '6', '7', '8', '9', 'a', 'b', 'c', 'd', 'e', 'f'].findIdx?
    (· == c)

def unhex4 : List Char → Option (Nat × List Char)
  | a :: b :: c :: d :: rest => do
    let a ← hexValue? a
    let b ← hexValue? b
    let c ← hexValue? c
    let d ← hexValue? d
    some (a * 4096 + b * 256 + c * 16 + d, rest)
  | _ => none

theorem hexValue?_hexDigit : ∀ n < 16, hexValue? (Text.hexDigit n) = some n := by decide

theorem unhex4_hex4 {n : Nat} (hn : n < 65536) (rest : List Char) :
    unhex4 (hex4 n ++ rest) = some (n, rest) := by
  simp only [hex4, List.cons_append, List.nil_append, unhex4,
    hexValue?_hexDigit (n / 4096) (by omega), hexValue?_hexDigit (n / 256 % 16) (by omega),
    hexValue?_hexDigit (n / 16 % 16) (by omega), hexValue?_hexDigit (n % 16) (by omega)]
  simp only [Option.bind_eq_bind, Option.bind_some, Option.some.injEq, Prod.mk.injEq, and_true]
  omega

def unicodeEscape (n : Nat) : List Char := '\\' :: 'u' :: hex4 n

/-- The character behind `\u`: one code unit, or a high surrogate with the
escape of its low surrogate. -/
def unescapeUnicode (l : List Char) : Option (Char × List Char) :=
  match unhex4 l with
  | none => none
  | some (n, rest) =>
    if 0xD800 ≤ n ∧ n < 0xDC00 then
      match rest with
      | '\\' :: 'u' :: rest =>
        (unhex4 rest).map fun p => (Char.ofNat (0x10000 + (n - 0xD800) * 0x400 + (p.1 - 0xDC00)), p.2)
      | _ => none
    else some (Char.ofNat n, rest)

/-- Read one string character, escaped or not. -/
def unescape : List Char → Option (Char × List Char)
  | [] => none
  | c :: rest =>
    if c = '\\' then
      match rest with
      | [] => none
      | d :: rest =>
        match shortUnescape? d with
        | some c => some (c, rest)
        | none => if d = 'u' then unescapeUnicode rest else none
    else some (c, rest)

theorem unescape_short {c d : Char} (h : shortEscape? c = some d) (rest : List Char) :
    unescape ('\\' :: d :: rest) = some (c, rest) := by
  simp only [unescape, shortUnescape?_of_escape h, if_true]

theorem unescape_plain {c : Char} (h : shortEscape? c = none) (rest : List Char) :
    unescape (c :: rest) = some (c, rest) := by
  simp only [unescape, if_neg (ne_of_shortEscape?_none h).2]

theorem unescape_unicode (rest : List Char) :
    unescape ('\\' :: 'u' :: rest) = unescapeUnicode rest := by
  simp only [unescape, show shortUnescape? 'u' = none by decide, if_true]

/-- A character of the basic plane is its own code unit. -/
theorem unescapeUnicode_basic {c : Char} (hc : c.toNat < 0x10000) (rest : List Char) :
    unescapeUnicode (hex4 c.toNat ++ rest) = some (c, rest) := by
  have hsur : ¬ (0xD800 ≤ c.toNat ∧ c.toNat < 0xDC00) := by
    have hvalid : c.toNat < 0xD800 ∨ (0xDFFF < c.toNat ∧ c.toNat < 0x110000) := c.valid
    omega
  rw [unescapeUnicode, unhex4_hex4 hc]
  simp only
  rw [if_neg hsur, Char.ofNat_toNat]

def highSurrogate (n : Nat) : Nat := 0xD800 + (n - 0x10000) / 0x400

def lowSurrogate (n : Nat) : Nat := 0xDC00 + (n - 0x10000) % 0x400

/-- A character beyond the basic plane is a surrogate pair. -/
theorem unescapeUnicode_pair {c : Char} (hc : 0x10000 ≤ c.toNat) (rest : List Char) :
    unescapeUnicode (hex4 (highSurrogate c.toNat) ++
      (unicodeEscape (lowSurrogate c.toNat) ++ rest)) = some (c, rest) := by
  have hmax : c.toNat < 0x110000 := by
    have hvalid : c.toNat < 0xD800 ∨ (0xDFFF < c.toNat ∧ c.toNat < 0x110000) := c.valid
    omega
  have hhigh : 0xD800 ≤ highSurrogate c.toNat ∧ highSurrogate c.toNat < 0xDC00 := by
    rw [highSurrogate]
    omega
  have hlow : lowSurrogate c.toNat < 65536 := by
    rw [lowSurrogate]
    omega
  rw [unescapeUnicode, unhex4_hex4 (by omega)]
  simp only
  rw [if_pos hhigh, unicodeEscape, List.cons_append, List.cons_append]
  simp only [unhex4_hex4 hlow, Option.map_some]
  have hn : 0x10000 + (highSurrogate c.toNat - 0xD800) * 0x400 +
      (lowSurrogate c.toNat - 0xDC00) = c.toNat := by
    rw [highSurrogate, lowSurrogate]
    omega
  rw [hn, Char.ofNat_toNat]

def escapeRaw (c : Char) : List Char :=
  match shortEscape? c with
  | some d => ['\\', d]
  | none => if c.toNat < 0x20 then unicodeEscape c.toNat else [c]

def escapeAscii (c : Char) : List Char :=
  match shortEscape? c with
  | some d => ['\\', d]
  | none =>
    if 0x20 ≤ c.toNat ∧ c.toNat ≤ 0x7E then [c]
    else if c.toNat < 0x10000 then unicodeEscape c.toNat
    else unicodeEscape (highSurrogate c.toNat) ++ unicodeEscape (lowSurrogate c.toNat)

/-- Only `"`, `\` and the control characters below U+0020 are escaped. -/
def rawEscapes : EscapeCode where
  esc := escapeRaw
  unesc := unescape
  unesc_esc c rest := by
    rw [escapeRaw]
    cases h : shortEscape? c with
    | some d => exact unescape_short h rest
    | none =>
      by_cases hc : c.toNat < 0x20
      · simp only [if_pos hc]
        exact (unescape_unicode _).trans (unescapeUnicode_basic (by omega) rest)
      · simp only [if_neg hc]
        exact unescape_plain h rest
  head_esc c := by
    rw [escapeRaw]
    cases h : shortEscape? c with
    | some d => exact ⟨'\\', [d], rfl, by decide⟩
    | none =>
      by_cases hc : c.toNat < 0x20
      · simp only [if_pos hc]
        exact ⟨'\\', _, rfl, by decide⟩
      · simp only [if_neg hc]
        exact ⟨c, [], rfl, (ne_of_shortEscape?_none h).1⟩

/-- Everything outside printable ASCII is escaped. -/
def asciiEscapes : EscapeCode where
  esc := escapeAscii
  unesc := unescape
  unesc_esc c rest := by
    rw [escapeAscii]
    cases h : shortEscape? c with
    | some d => exact unescape_short h rest
    | none =>
      by_cases hp : 0x20 ≤ c.toNat ∧ c.toNat ≤ 0x7E
      · simp only [if_pos hp]
        exact unescape_plain h rest
      · by_cases hb : c.toNat < 0x10000
        · simp only [if_neg hp, if_pos hb]
          exact (unescape_unicode _).trans (unescapeUnicode_basic hb rest)
        · simp only [if_neg hp, if_neg hb, List.append_assoc]
          exact (unescape_unicode _).trans (unescapeUnicode_pair (by omega) rest)
  head_esc c := by
    rw [escapeAscii]
    cases h : shortEscape? c with
    | some d => exact ⟨'\\', [d], rfl, by decide⟩
    | none =>
      by_cases hp : 0x20 ≤ c.toNat ∧ c.toNat ≤ 0x7E
      · simp only [if_pos hp]
        exact ⟨c, [], rfl, (ne_of_shortEscape?_none h).1⟩
      · by_cases hb : c.toNat < 0x10000
        · simp only [if_neg hp, if_pos hb]
          exact ⟨'\\', _, rfl, by decide⟩
        · simp only [if_neg hp, if_neg hb]
          exact ⟨'\\', _, rfl, by decide⟩

/-! ## Characters of a raw text -/

/-- The least code that is not ASCII. -/
def firstNonAscii : Nat := 0x80

theorem hexDigit_ascii {n : Nat} : 0x20 ≤ (Text.hexDigit n).toNat ∧
    (Text.hexDigit n).toNat < firstNonAscii := by
  by_cases hn : n < 16
  · have hall : ∀ m < 16, 0x20 ≤ (Text.hexDigit m).toNat ∧
        (Text.hexDigit m).toNat < firstNonAscii := by decide
    exact hall n hn
  · have hnone : Text.hexDigit n = '0' := by
      rw [Text.hexDigit, List.getD_eq_getElem?_getD, List.getElem?_eq_none (by simp; omega)]
      rfl
    rw [hnone]
    decide

theorem shortEscape?_ascii {c d : Char} (h : shortEscape? c = some d) :
    c.toNat < firstNonAscii ∧ 0x20 ≤ d.toNat ∧ d.toNat < firstNonAscii := by
  unfold shortEscape? at h
  split_ifs at h <;> (cases h; subst_vars; decide)

/-- A character is escaped into printable ASCII, or stands for itself. -/
theorem mem_escapeRaw {c d : Char} (h : d ∈ escapeRaw c) :
    (0x20 ≤ d.toNat ∧ d.toNat < firstNonAscii ∧ c.toNat < firstNonAscii) ∨
      (d = c ∧ 0x20 ≤ c.toNat) := by
  unfold escapeRaw at h
  split at h
  · rename_i e he
    have hascii := shortEscape?_ascii he
    left
    rcases List.mem_cons.mp h with rfl | h
    · exact ⟨by decide, by decide, hascii.1⟩
    · obtain rfl := List.mem_singleton.mp h
      exact ⟨hascii.2.1, hascii.2.2, hascii.1⟩
  · split at h
    · rename_i hcontrol
      left
      have hc : c.toNat < firstNonAscii := by
        rw [firstNonAscii]
        omega
      simp only [unicodeEscape, hex4, List.mem_cons, List.not_mem_nil, or_false] at h
      rcases h with rfl | rfl | rfl | rfl | rfl | rfl
      · exact ⟨by decide, by decide, hc⟩
      · exact ⟨by decide, by decide, hc⟩
      all_goals exact ⟨hexDigit_ascii.1, hexDigit_ascii.2, hc⟩
    · right
      rename_i hprintable
      obtain rfl := List.mem_singleton.mp h
      exact ⟨rfl, by omega⟩

mutual

/-- The strings of a value: its texts and the keys of its objects. -/
def texts : Json → List String
  | .null | .bool _ | .int _ | .float _ => []
  | .str s => [s]
  | .arr items => itemTexts items
  | .obj members => memberTexts members

def itemTexts : List Json → List String
  | [] => []
  | x :: xs => texts x ++ itemTexts xs

def memberTexts : List (String × Json) → List String
  | [] => []
  | (k, x) :: kvs => k :: (texts x ++ memberTexts kvs)

end

/-- What the characters of a text written with `rawEscapes` are: printable ASCII,
or characters of its strings, and every non-ASCII character of its strings. -/
structure RawText (text : List Char) (strings : List String) : Prop where
  printable : ∀ c ∈ text, 0x20 ≤ c.toNat
  raw       : ∀ c : Char, firstNonAscii ≤ c.toNat → (c ∈ text ↔ ∃ s ∈ strings, c ∈ s.toList)

def isPrintableAscii (c : Char) : Bool := 0x20 ≤ c.toNat && c.toNat < firstNonAscii

theorem rawText_of_ascii {text : List Char} (h : text.all isPrintableAscii = true) :
    RawText text [] := by
  have hascii : ∀ c ∈ text, 0x20 ≤ c.toNat ∧ c.toNat < firstNonAscii := by
    intro c hc
    have hprintable := List.all_eq_true.mp h c hc
    simpa [isPrintableAscii] using hprintable
  refine ⟨fun c hc => (hascii c hc).1, fun c hnonAscii => ?_⟩
  constructor
  · intro hc
    exact absurd (hascii c hc).2 (by omega)
  · rintro ⟨s, hs, -⟩
    cases hs

theorem RawText.append {text text' : List Char} {strings strings' : List String}
    (h : RawText text strings) (h' : RawText text' strings') :
    RawText (text ++ text') (strings ++ strings') where
  printable c hc := by
    rcases List.mem_append.mp hc with hc | hc
    · exact h.printable c hc
    · exact h'.printable c hc
  raw c hnonAscii := by
    simp only [List.mem_append, h.raw c hnonAscii, h'.raw c hnonAscii, or_and_right, exists_or]

theorem RawText.cons {text : List Char} {strings : List String} (h : RawText text strings)
    {c : Char} (hc : isPrintableAscii c = true) : RawText (c :: text) strings := by
  have hsingle : RawText [c] [] := rawText_of_ascii (by rw [List.all_cons, hc]; rfl)
  exact hsingle.append h

theorem rawText_writeString (s : String) : RawText (writeString rawEscapes s) [s] where
  printable c hc := by
    rcases List.mem_cons.mp hc with rfl | hc
    · decide
    · rcases List.mem_append.mp hc with hc | hc
      · obtain ⟨d, -, hc⟩ := List.mem_flatMap.mp hc
        rcases mem_escapeRaw hc with ⟨hprintable, -⟩ | ⟨rfl, hprintable⟩
        · exact hprintable
        · exact hprintable
      · obtain rfl := List.mem_singleton.mp hc
        decide
  raw c hnonAscii := by
    have hquote : c ≠ '"' := by
      rintro rfl
      exact absurd hnonAscii (by decide)
    simp only [writeString, List.mem_cons, List.mem_append, hquote, List.not_mem_nil, or_false,
      false_or, List.mem_flatMap, exists_eq_left]
    constructor
    · rintro ⟨d, hd, hc⟩
      rcases mem_escapeRaw hc with ⟨-, hascii, -⟩ | ⟨rfl, -⟩
      · omega
      · exact hd
    · intro hc
      -- a non-ASCII character has no escape
      refine ⟨c, hc, ?_⟩
      show c ∈ escapeRaw c
      unfold escapeRaw
      cases hshort : shortEscape? c with
      | some d => exact absurd (shortEscape?_ascii hshort).1 (by omega)
      | none =>
        have hprintable : ¬ c.toNat < 0x20 := by
          rw [firstNonAscii] at hnonAscii
          omega
        simp [hprintable]

theorem rawText_number {text : List Char} (h : ∀ c ∈ text, isNumberChar c = true) :
    RawText text [] := by
  refine rawText_of_ascii (List.all_eq_true.mpr fun c hc => ?_)
  have hnumber := h c hc
  simp only [isNumberChar, Text.isAsciiDigit, Bool.or_eq_true, Bool.and_eq_true, decide_eq_true_eq,
    beq_iff_eq] at hnumber
  rcases hnumber with (((hdigit | rfl) | rfl) | rfl) | rfl
  · have hzero : '0'.toNat = 0x30 := rfl
    have hnine : '9'.toNat = 0x39 := rfl
    rw [hzero, hnine] at hdigit
    have hprintable : 0x20 ≤ c.toNat ∧ c.toNat < 0x80 := by omega
    exact Bool.and_eq_true_iff.mpr ⟨decide_eq_true hprintable.1, decide_eq_true hprintable.2⟩
  all_goals decide

mutual

theorem rawText_write (x : Json) : RawText (write rawEscapes x) x.texts := by
  cases x with
  | null => exact rawText_of_ascii (by decide)
  | bool b => cases b <;> exact rawText_of_ascii (by decide)
  | int n => exact rawText_number (intChars_isNumberChar n)
  | float x => exact rawText_number x.chars
  | str s => exact rawText_writeString s
  | arr items =>
    cases items with
    | nil => exact rawText_of_ascii (by decide)
    | cons x xs => exact ((rawText_write x).append (rawText_writeItems xs)).cons (by decide)
  | obj members =>
    cases members with
    | nil => exact rawText_of_ascii (by decide)
    | cons member rest =>
      obtain ⟨k, x⟩ := member
      exact ((rawText_writeString k).append
        (((rawText_write x).append (rawText_writeMembers rest)).cons (by decide))).cons (by decide)

theorem rawText_writeItems (items : List Json) :
    RawText (writeItems rawEscapes items) (itemTexts items) := by
  cases items with
  | nil => exact rawText_of_ascii (by decide)
  | cons x xs => exact ((rawText_write x).append (rawText_writeItems xs)).cons (by decide)

theorem rawText_writeMembers (members : List (String × Json)) :
    RawText (writeMembers rawEscapes members) (memberTexts members) := by
  cases members with
  | nil => exact rawText_of_ascii (by decide)
  | cons member rest =>
    obtain ⟨k, x⟩ := member
    exact ((rawText_writeString k).append
      (((rawText_write x).append (rawText_writeMembers rest)).cons (by decide))).cons (by decide)

end

/-! ## Canonical JSON -/

def keyLe (a b : String × Json) : Bool := decide (a.1 ≤ b.1)

mutual

/-- Sort the members of every object by key. -/
def sortKeys : Json → Json
  | .null => .null
  | .bool b => .bool b
  | .int n => .int n
  | .float x => .float x
  | .str s => .str s
  | .arr items => .arr (sortItems items)
  | .obj members => .obj ((sortMembers members).insertionSort (fun a b => keyLe a b = true))

def sortItems : List Json → List Json
  | [] => []
  | x :: xs => sortKeys x :: sortItems xs

def sortMembers : List (String × Json) → List (String × Json)
  | [] => []
  | (k, x) :: kvs => (k, sortKeys x) :: sortMembers kvs

end

/-! One equation for each shape of a value. -/

theorem sortKeys_bool (b : Bool) : sortKeys (.bool b) = .bool b := rfl

theorem sortKeys_int (n : Int) : sortKeys (.int n) = .int n := rfl

theorem sortKeys_str (s : String) : sortKeys (.str s) = .str s := rfl

theorem sortKeys_arr (items : List Json) : sortKeys (.arr items) = .arr (sortItems items) := rfl

theorem sortKeys_obj (members : List (String × Json)) : sortKeys (.obj members) =
    .obj ((sortMembers members).insertionSort (fun a b => keyLe a b = true)) := rfl

theorem sortItems_cons (x : Json) (xs : List Json) :
    sortItems (x :: xs) = sortKeys x :: sortItems xs := rfl

theorem sortMembers_cons (member : String × Json) (rest : List (String × Json)) :
    sortMembers (member :: rest) = (member.1, sortKeys member.2) :: sortMembers rest := rfl

/-- `json.dumps(value, sort_keys=True, separators=(",", ":"))`. -/
def canonical (x : Json) : String := String.ofList (write asciiEscapes (sortKeys x))

theorem canonical_obj_ne_empty (members : List (String × Json)) : canonical (.obj members) ≠ "" := by
  intro h
  have hnil : write asciiEscapes (sortKeys (.obj members)) = [] := by
    rw [canonical] at h
    simpa using congrArg String.toList h
  rw [sortKeys_obj] at hnil
  cases hsorted : (sortMembers members).insertionSort (fun a b => keyLe a b = true) with
  | nil => simp [hsorted, write] at hnil
  | cons member rest => simp [hsorted, write] at hnil

/-- Equality of Python values: the order of dictionary entries does not count. -/
def Same (x y : Json) : Prop := sortKeys x = sortKeys y

/-- Canonical texts are equal exactly for equal values. -/
theorem canonical_inj {x y : Json} : canonical x = canonical y ↔ Same x y := by
  rw [canonical, canonical, String.ofList_inj, Same]
  exact write_injective.eq_iff

theorem mem_sortMembers {members : List (String × Json)} {key : String} {value : Json} :
    (key, value) ∈ sortMembers members ↔ ∃ x, (key, x) ∈ members ∧ sortKeys x = value := by
  induction members with
  | nil =>
    show (key, value) ∈ [] ↔ _
    simp
  | cons member rest ih =>
    obtain ⟨key', x⟩ := member
    rw [sortMembers_cons, List.mem_cons, ih]
    constructor
    · rintro (h | ⟨y, hy, rfl⟩)
      · rw [Prod.mk.injEq] at h
        obtain ⟨rfl, rfl⟩ := h
        exact ⟨x, by simp, rfl⟩
      · exact ⟨y, List.mem_cons_of_mem _ hy, rfl⟩
    · rintro ⟨y, hy, rfl⟩
      rcases List.mem_cons.mp hy with h | hy
      · rw [Prod.mk.injEq] at h
        obtain ⟨rfl, rfl⟩ := h
        exact .inl rfl
      · exact .inr ⟨y, hy, rfl⟩

/-- Every member of an object is in an equal object, up to equality. -/
theorem exists_mem_of_same {members members' : List (String × Json)}
    (h : Same (.obj members) (.obj members')) {key : String} {x : Json}
    (hx : (key, x) ∈ members) : ∃ y, (key, y) ∈ members' ∧ Same x y := by
  rw [Same, sortKeys_obj, sortKeys_obj, Json.obj.injEq] at h
  -- both sorted lists have the member of `x`, so it comes from one of `members'`
  have hsorted : (key, sortKeys x) ∈ (sortMembers members).insertionSort
      (fun a b => keyLe a b = true) :=
    (List.mem_insertionSort _).mpr (mem_sortMembers.mpr ⟨x, hx, rfl⟩)
  rw [h, List.mem_insertionSort, mem_sortMembers] at hsorted
  obtain ⟨y, hy, hyx⟩ := hsorted
  exact ⟨y, hy, hyx.symm⟩

/-- Equal objects have equal members under equal keys. -/
theorem same_of_mem {members members' : List (String × Json)}
    (h : Same (.obj members) (.obj members')) (hunique : (members'.map Prod.fst).Nodup)
    {key : String} {x y : Json} (hx : (key, x) ∈ members) (hy : (key, y) ∈ members') :
    Same x y := by
  obtain ⟨z, hz, hxz⟩ := exists_mem_of_same h hx
  have hzy : z = y := by
    have hpair := List.inj_on_of_nodup_map hunique hz hy rfl
    exact congrArg Prod.snd hpair
  rwa [hzy] at hxz

@[simp] theorem same_str {s t : String} : Same (.str s) (.str t) ↔ s = t := by
  rw [Same, sortKeys_str, sortKeys_str, Json.str.injEq]

@[simp] theorem same_int {m n : Int} : Same (.int m) (.int n) ↔ m = n := by
  rw [Same, sortKeys_int, sortKeys_int, Json.int.injEq]

theorem sortItems_str (texts : List String) : sortItems (texts.map .str) = texts.map .str := by
  induction texts with
  | nil => rfl
  | cons text rest ih => rw [List.map_cons, sortItems_cons, sortKeys_str, ih]

@[simp] theorem same_texts {texts texts' : List String} :
    Same (.arr (texts.map .str)) (.arr (texts'.map .str)) ↔ texts = texts' := by
  rw [Same, sortKeys_arr, sortKeys_arr, sortItems_str, sortItems_str, Json.arr.injEq]
  refine List.map_inj_right ?_
  intro s t h
  exact Json.str.inj h

@[simp] theorem same_bool {a b : Bool} : Same (.bool a) (.bool b) ↔ a = b := by
  rw [Same, sortKeys_bool, sortKeys_bool, Json.bool.injEq]

/-- Arrays are equal item by item. -/
theorem same_arr {xs ys : List Json} : Same (.arr xs) (.arr ys) ↔ List.Forall₂ Same xs ys := by
  rw [Same, sortKeys_arr, sortKeys_arr, Json.arr.injEq]
  induction xs generalizing ys with
  | nil =>
    show [] = sortItems ys ↔ _
    cases ys with
    | nil => simp [show sortItems [] = [] from rfl]
    | cons y ys => simp [sortItems_cons]
  | cons x xs ih =>
    cases ys with
    | nil =>
      show sortItems (x :: xs) = [] ↔ _
      simp [sortItems_cons]
    | cons y ys =>
      rw [sortItems_cons, sortItems_cons, List.cons.injEq, ih, List.forall₂_cons, Same]

end Json
