import Mathlib.Tactic
import Mathlib.Data.List.DropRight

/-!
# Python text

Strings are Lean strings; the operations are those of Python's `str`, over
their characters.

* `strip`      — `str.strip()`: Unicode whitespace off both ends;
* `splitlines` — `str.splitlines()`, as a left-to-right scan (`LineScan`), so
  that splitting a concatenation is feeding the second text to the scan of the
  first (`LineScan.feedAll_append`);
* `universalNewlines` — the newline translation of text-mode reading, which
  `splitlines` does not see (`splitlines_universalNewlines`);
* `decimal?`   — ASCII decimal numerals, with `decimal?_toDigits`.
-/

namespace Text

/-! ## Whitespace -/

/-- `str.isspace` for one character. -/
def isSpace (c : Char) : Bool :=
  let n := c.toNat
  (9 ≤ n && n ≤ 13) || (28 ≤ n && n ≤ 32) || n == 0x85 || n == 0xA0 || n == 0x1680 ||
    (0x2000 ≤ n && n ≤ 0x200A) || n == 0x2028 || n == 0x2029 || n == 0x202F ||
    n == 0x205F || n == 0x3000

def stripChars (l : List Char) : List Char :=
  (l.dropWhile isSpace).rdropWhile isSpace

/-- `str.strip()`. -/
def strip (s : String) : String := String.ofList (stripChars s.toList)

/-- Nothing to strip: no whitespace at either end. -/
def Trimmed (l : List Char) : Prop :=
  (∀ c ∈ l.head?, isSpace c = false) ∧ (∀ c ∈ l.getLast?, isSpace c = false)

theorem stripChars_of_trimmed {l : List Char} (h : Trimmed l) : stripChars l = l := by
  have hdrop : l.dropWhile isSpace = l := by
    cases l with
    | nil => rfl
    | cons c l => simp [h.1 c rfl]
  rw [stripChars, hdrop, List.rdropWhile_eq_self_iff]
  intro hne
  have := h.2 (l.getLast hne) (List.getLast?_eq_some_getLast hne)
  simp [this]

theorem trimmed_stripChars (l : List Char) : Trimmed (stripChars l) := by
  constructor
  · intro c hc
    -- the front is stripped first, so what is left starts with no blank
    have hpre : stripChars l <+: l.dropWhile isSpace := List.rdropWhile_prefix _ _
    have hhead : (l.dropWhile isSpace).head? = some c := by
      obtain ⟨rest, hrest⟩ := hpre
      cases hs : stripChars l with
      | nil => rw [hs] at hc; cases hc
      | cons a as =>
        rw [hs] at hc hrest
        rw [← hrest]
        simpa using hc
    have := List.head?_dropWhile_not isSpace l
    rw [hhead] at this
    simpa using this
  · intro c hc
    have hne : stripChars l ≠ [] := by
      intro h
      rw [h] at hc
      cases hc
    -- and its end is the last character that is no blank
    have hlast := List.rdropWhile_last_not isSpace (l.dropWhile isSpace) hne
    rw [List.getLast?_eq_some_getLast hne] at hc
    have hcl : (stripChars l).getLast hne = c := by simpa using hc
    rw [← hcl]
    exact (Bool.not_eq_true _).mp hlast

/-- Stripping twice is stripping once. -/
@[simp] theorem strip_strip (s : String) : strip (strip s) = strip s := by
  rw [strip, strip, String.toList_ofList, stripChars_of_trimmed (trimmed_stripChars _)]

theorem trimmed_of_strip {s t : String} (h : strip s = t) : Trimmed t.toList := by
  rw [← h, strip, String.toList_ofList]
  exact trimmed_stripChars _

theorem strip_eq_self {s : String} (h : Trimmed s.toList) : strip s = s := by
  rw [strip, stripChars_of_trimmed h, String.ofList_toList]

theorem strip_eq_self_of_forall {s : String} (h : ∀ c ∈ s.toList, isSpace c = false) :
    strip s = s := by
  refine strip_eq_self ⟨fun c hc => h c ?_, fun c hc => h c ?_⟩
  · exact List.mem_of_mem_head? hc
  · exact List.mem_of_mem_getLast? hc

/-- A character that is not whitespace survives stripping. -/
theorem strip_ne_empty {s : String} {c : Char} (hmem : c ∈ s.toList) (hc : isSpace c = false) :
    strip s ≠ "" := by
  intro h
  have hnil : (s.toList.dropWhile isSpace).rdropWhile isSpace = [] := by
    have := congrArg String.toList h
    rwa [strip, String.toList_ofList] at this
  have hmem' : c ∈ s.toList.dropWhile isSpace := by
    rw [← List.takeWhile_append_dropWhile (p := isSpace) (l := s.toList), List.mem_append] at hmem
    rcases hmem with hleft | hright
    · rw [List.mem_takeWhile_imp hleft] at hc
      cases hc
    · exact hright
  rw [List.rdropWhile_eq_nil_iff.mp hnil c hmem'] at hc
  cases hc

/-! ## Lines -/

/-- The line boundaries of `str.splitlines`. -/
def isLineBreak (c : Char) : Bool :=
  let n := c.toNat
  (10 ≤ n && n ≤ 13) || (28 ≤ n && n ≤ 30) || n == 0x85 || n == 0x2028 || n == 0x2029

/-- A scan in progress: the finished lines, the current line, and whether the
last character was a carriage return, which absorbs a following line feed. -/
structure LineScan where
  lines   : List (List Char)
  current : List Char
  afterCr : Bool
  deriving DecidableEq

namespace LineScan

def start : LineScan := ⟨[], [], false⟩

def feed (s : LineScan) (c : Char) : LineScan :=
  if s.afterCr && c == '\n' then { s with afterCr := false }
  else if isLineBreak c then ⟨s.lines ++ [s.current], [], c == '\r'⟩
  else ⟨s.lines, s.current ++ [c], false⟩

def feedAll (s : LineScan) (l : List Char) : LineScan := l.foldl feed s

/-- The lines at the end of the text: an unfinished line counts if nonempty. -/
def finish (s : LineScan) : List (List Char) :=
  if s.current = [] then s.lines else s.lines ++ [s.current]

theorem feedAll_append (s : LineScan) (a b : List Char) :
    s.feedAll (a ++ b) = (s.feedAll a).feedAll b := List.foldl_append

@[simp] theorem feedAll_nil (s : LineScan) : s.feedAll [] = s := rfl

@[simp] theorem feedAll_cons (s : LineScan) (c : Char) (l : List Char) :
    s.feedAll (c :: l) = (s.feed c).feedAll l := rfl

theorem feed_of_not_break (s : LineScan) {c : Char} (h : isLineBreak c = false) :
    s.feed c = ⟨s.lines, s.current ++ [c], false⟩ := by
  have hc : (c == '\n') = false := by
    rw [beq_eq_false_iff_ne]
    rintro rfl
    revert h
    decide
  simp [feed, hc, h]

/-- Text without line breaks extends the current line. -/
theorem feedAll_of_no_break {l : List Char} (hne : l ≠ [])
    (h : ∀ c ∈ l, isLineBreak c = false) (s : LineScan) :
    s.feedAll l = ⟨s.lines, s.current ++ l, false⟩ := by
  induction l generalizing s with
  | nil => exact absurd rfl hne
  | cons c l ih =>
    rw [feedAll_cons, feed_of_not_break s (h c (by simp))]
    cases l with
    | nil => rfl
    | cons d l =>
      rw [ih (by simp) (fun x hx => h x (by simp [hx]))]
      simp

/-- A finished scan never loses or changes a line. -/
theorem lines_prefix_feedAll (s : LineScan) (l : List Char) :
    s.lines <+: (s.feedAll l).lines := by
  induction l generalizing s with
  | nil => exact List.prefix_refl _
  | cons c l ih =>
    refine List.IsPrefix.trans ?_ (ih (s.feed c))
    rw [feed]
    split
    · exact List.prefix_refl _
    · split
      · exact List.prefix_append _ _
      · exact List.prefix_refl _

theorem lines_prefix_finish (s : LineScan) : s.lines <+: s.finish := by
  rw [finish]
  split
  · exact List.prefix_refl _
  · exact List.prefix_append _ _

end LineScan

/-- `str.splitlines()`. -/
def splitlines (l : List Char) : List (List Char) := (LineScan.start.feedAll l).finish

/-- Newline translation of text-mode reading, given whether the character just
read was a carriage return. -/
def universalNewlinesFrom (afterCr : Bool) : List Char → List Char
  | [] => []
  | c :: rest =>
    if afterCr && c == '\n' then universalNewlinesFrom false rest
    else if c == '\r' then '\n' :: universalNewlinesFrom true rest
    else c :: universalNewlinesFrom false rest

/-- Text-mode reading: `\r\n` and `\r` become `\n`. -/
def universalNewlines (l : List Char) : List Char := universalNewlinesFrom false l

theorem feedAll_universalNewlinesFrom (l : List Char) (afterCr : Bool)
    (lines : List (List Char)) (current : List Char) :
    ∃ flag, LineScan.feedAll ⟨lines, current, afterCr⟩ l =
      { LineScan.feedAll ⟨lines, current, false⟩ (universalNewlinesFrom afterCr l) with
        afterCr := flag } := by
  induction l generalizing afterCr lines current with
  | nil => exact ⟨afterCr, rfl⟩
  | cons c l ih =>
    rw [universalNewlinesFrom, LineScan.feedAll_cons]
    by_cases hlf : (afterCr && c == '\n') = true
    · -- the line feed of a `\r\n` pair, dropped on both sides
      rw [if_pos hlf, LineScan.feed, if_pos hlf]
      exact ih false lines current
    · rw [if_neg hlf, LineScan.feed, if_neg hlf]
      by_cases hcr : c = '\r'
      · subst hcr
        simpa [LineScan.feed, isLineBreak] using ih true (lines ++ [current]) []
      · have hflag : (c == '\r') = false := by simpa using hcr
        simp only [hflag, Bool.false_eq_true, if_false, LineScan.feedAll_cons]
        rw [show LineScan.feed ⟨lines, current, false⟩ c =
          if isLineBreak c then ⟨lines ++ [current], [], false⟩
          else ⟨lines, current ++ [c], false⟩ by simp [LineScan.feed, hflag]]
        split
        · exact ih false _ _
        · exact ih false _ _

/-- Newline translation is invisible to `splitlines`. -/
theorem splitlines_universalNewlines (l : List Char) :
    splitlines (universalNewlines l) = splitlines l := by
  obtain ⟨flag, h⟩ := feedAll_universalNewlinesFrom l false [] []
  rw [splitlines, splitlines, LineScan.start, h]
  rfl

/-! ## Characters and numerals -/

def isAsciiDigit (c : Char) : Bool := '0'.toNat ≤ c.toNat && c.toNat ≤ '9'.toNat

def isAsciiLower (c : Char) : Bool := 'a'.toNat ≤ c.toNat && c.toNat ≤ 'z'.toNat

/-- `str.isascii()`. -/
def isAscii (value : String) : Bool := value.toList.all fun c => c.toNat < 128

/-- The code points that `str.isdigit` accepts, as inclusive ranges (Unicode 15). -/
def digitRanges : List (Nat × Nat) :=
  [(48, 57), (178, 179), (185, 185), (1632, 1641), (1776, 1785), (1984, 1993), (2406, 2415),
    (2534, 2543), (2662, 2671), (2790, 2799), (2918, 2927), (3046, 3055), (3174, 3183),
    (3302, 3311), (3430, 3439), (3558, 3567), (3664, 3673), (3792, 3801), (3872, 3881),
    (4160, 4169), (4240, 4249), (4969, 4977), (6112, 6121), (6160, 6169), (6470, 6479),
    (6608, 6618), (6784, 6793), (6800, 6809), (6992, 7001), (7088, 7097), (7232, 7241),
    (7248, 7257), (8304, 8304), (8308, 8313), (8320, 8329), (9312, 9320), (9332, 9340),
    (9352, 9360), (9450, 9450), (9461, 9469), (9471, 9471), (10102, 10110), (10112, 10120),
    (10122, 10130), (42528, 42537), (43216, 43225), (43264, 43273), (43472, 43481),
    (43504, 43513), (43600, 43609), (44016, 44025), (65296, 65305), (66720, 66729),
    (68160, 68163), (68912, 68921), (69216, 69224), (69714, 69722), (69734, 69743),
    (69872, 69881), (69942, 69951), (70096, 70105), (70384, 70393), (70736, 70745),
    (70864, 70873), (71248, 71257), (71360, 71369), (71472, 71481), (71904, 71913),
    (72016, 72025), (72784, 72793), (73040, 73049), (73120, 73129), (73552, 73561),
    (92768, 92777), (92864, 92873), (93008, 93017), (120782, 120831), (123200, 123209),
    (123632, 123641), (124144, 124153), (125264, 125273), (127232, 127242), (130032, 130041)]

/-- `str.isdigit` of a nonempty text. -/
def isDigits (l : List Char) : Bool :=
  l != [] && l.all fun c => digitRanges.any fun r => r.1 ≤ c.toNat && c.toNat ≤ r.2

/-- `sorted(set(l))`, by code points. -/
def sortedSet (l : List String) : List String :=
  l.dedup.mergeSort fun a b => decide (a ≤ b)

@[simp] theorem mem_sortedSet {l : List String} {a : String} : a ∈ sortedSet l ↔ a ∈ l := by
  rw [sortedSet, List.mem_mergeSort, List.mem_dedup]

@[simp] theorem sortedSet_eq_nil {l : List String} : sortedSet l = [] ↔ l = [] := by
  rw [List.eq_nil_iff_forall_not_mem, List.eq_nil_iff_forall_not_mem]
  simp only [mem_sortedSet]

theorem nodup_sortedSet (l : List String) : (sortedSet l).Nodup :=
  (List.mergeSort_perm _ _).nodup_iff.mpr l.nodup_dedup

/-- The value of a nonempty run of ASCII digits. -/
def decimal? (l : List Char) : Option Nat :=
  if l ≠ [] ∧ l.all isAsciiDigit then some (Nat.ofDigitChars 10 l 0) else none

/-- The decimal numeral of `n`, as `str(n)`. -/
def natChars (n : Nat) : List Char := Nat.toDigits 10 n

theorem isAsciiDigit_eq (c : Char) : isAsciiDigit c = c.isDigit := by
  rw [isAsciiDigit, Char.isDigit]
  rfl

theorem natChars_digits {n : Nat} : ∀ c ∈ natChars n, isAsciiDigit c = true := by
  intro c hc
  rw [isAsciiDigit_eq]
  exact Nat.isDigit_of_mem_toDigits (by decide) (by decide) hc

theorem natChars_ne_nil (n : Nat) : natChars n ≠ [] := Nat.toDigits_ne_nil

/-- Reading back a printed numeral. -/
theorem decimal?_natChars (n : Nat) : decimal? (natChars n) = some n := by
  rw [decimal?, if_pos ⟨natChars_ne_nil n, List.all_eq_true.mpr natChars_digits⟩, natChars,
    Nat.ofDigitChars_ten_toDigits]

/-- A positive numeral does not start with `0`. -/
theorem natChars_head_ne_zero {n : Nat} (hn : 0 < n) : (natChars n).head? ≠ some '0' := by
  induction n using Nat.strongRecOn with
  | _ n ih =>
    rw [natChars]
    by_cases hlt : n < 10
    · rw [Nat.toDigits_of_lt_base hlt]
      have hall : ∀ m < 10, 0 < m → m.digitChar ≠ '0' := by decide
      simpa using hall n hlt hn
    · rw [Nat.toDigits_of_base_le (by decide) (by omega)]
      have hdiv : 0 < n / 10 := by omega
      have := ih (n / 10) (by omega) hdiv
      rw [natChars] at this
      rw [List.head?_append]
      cases h : (Nat.toDigits 10 (n / 10)).head? with
      | none => exact absurd (List.head?_eq_none_iff.mp h) Nat.toDigits_ne_nil
      | some c => rw [h] at this; simpa using this

/-! ## Fields between separators -/

/-- No field of a split text contains the separator. -/
theorem not_mem_of_mem_splitOn {sep : Char} {l field : List Char} (h : field ∈ l.splitOn sep) :
    sep ∉ field := by
  induction l generalizing field with
  | nil =>
    rw [List.splitOn_nil, List.mem_singleton] at h
    simp [h]
  | cons c l ih =>
    rw [List.splitOn_cons_eq_if_modifyHead] at h
    by_cases hc : (c == sep) = true
    · rw [if_pos hc, List.mem_cons] at h
      rcases h with rfl | h
      · simp
      · exact ih h
    · rw [if_neg hc] at h
      obtain ⟨first, others, hsplit⟩ := List.exists_cons_of_ne_nil (List.splitOn_ne_nil sep l)
      rw [hsplit, List.modifyHead_cons, List.mem_cons] at h
      rcases h with rfl | h
      · have hfirst : sep ∉ first := ih (by rw [hsplit]; simp)
        have hne : sep ≠ c := by
          rintro rfl
          simp at hc
        simp [hne, hfirst]
      · exact ih (by rw [hsplit]; simp [h])

theorem mem_of_mem_strip {s : String} {c : Char} (h : c ∈ (strip s).toList) : c ∈ s.toList := by
  rw [strip, String.toList_ofList] at h
  exact (List.dropWhile_sublist _).subset ((List.rdropWhile_prefix _ _).subset h)

/-! ## Bytes -/

/-- `str.encode("utf-8")`. -/
def encodeUtf8 (s : String) : List UInt8 := s.toByteArray.data.toList

theorem encodeUtf8_injective : Function.Injective encodeUtf8 := by
  intro s t h
  rw [encodeUtf8, encodeUtf8] at h
  apply String.toByteArray_inj.mp
  apply ByteArray.ext
  exact Array.toList_inj.mp h

/-- `str.replace` of one character. -/
def replaceChar (c : Char) (new : List Char) (l : List Char) : List Char :=
  l.flatMap fun d => if d = c then new else [d]

def hexDigit (n : Nat) : Char := (['0', '1', '2', '3', '4', '5', '6', '7', '8', '9',
  'a', 'b', 'c', 'd', 'e', 'f'].getD n '0')

/-- `bytes.hex()`. -/
def hexChars (b : List UInt8) : List Char :=
  b.flatMap fun x => [hexDigit (x.toNat / 16), hexDigit (x.toNat % 16)]

@[simp] theorem length_hexChars (b : List UInt8) : (hexChars b).length = 2 * b.length := by
  induction b with
  | nil => rfl
  | cons x b ih =>
    simp only [hexChars, List.flatMap_cons, List.length_append, List.length_cons,
      List.length_nil] at ih ⊢
    omega

theorem mem_hexChars {b : List UInt8} {c : Char} (h : c ∈ hexChars b) :
    ∃ n < 16, c = hexDigit n := by
  obtain ⟨x, -, hc⟩ := List.mem_flatMap.mp h
  have hx := x.toNat_lt
  rcases List.mem_cons.mp hc with rfl | hc
  · exact ⟨x.toNat / 16, by omega, rfl⟩
  · exact ⟨x.toNat % 16, by omega, List.mem_singleton.mp hc⟩

theorem hexDigit_injOn : ∀ m < 16, ∀ n < 16, hexDigit m = hexDigit n → m = n := by decide

theorem hexChars_injective : Function.Injective hexChars := by
  intro a b h
  induction a generalizing b with
  | nil =>
    cases b with
    | nil => rfl
    | cons y b => simp [hexChars] at h
  | cons x a ih =>
    cases b with
    | nil => simp [hexChars] at h
    | cons y b =>
      simp only [hexChars, List.flatMap_cons, List.cons_append, List.nil_append,
        List.cons.injEq] at h
      obtain ⟨hhi, hlo, hrest⟩ := h
      have hx := x.toNat_lt
      have hy := y.toNat_lt
      have hdiv := hexDigit_injOn _ (by omega) _ (by omega) hhi
      have hmod := hexDigit_injOn _ (by omega) _ (by omega) hlo
      have hxy : x = y := UInt8.toNat_inj.mp (by omega)
      rw [hxy, ih hrest]

end Text
