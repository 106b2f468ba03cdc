import Mathlib.Tactic

/-!
# Base64

`encode` is `base64.b64encode`; `decode` is `base64.b64decode` with its default
`validate=False`: characters outside the alphabet are skipped, padding ends the
text once the current quad is complete, and a text that stops inside a quad is
an error (`none`).

* `decode_encode` — decoding an encoded byte string gives it back.
-/

namespace Base64

def alphabet : List Char :=
  ['A', 'B', 'C', 'D', 'E', 'F', 'G', 'H', 'I', 'J', 'K', 'L', 'M', 'N', 'O', 'P',
   'Q', 'R', 'S', 'T', 'U', 'V', 'W', 'X', 'Y', 'Z', 'a', 'b', 'c', 'd', 'e', 'f',
   'g', 'h', 'i', 'j', 'k', 'l', 'm', 'n', 'o', 'p', 'q', 'r', 's', 't', 'u', 'v',
   'w', 'x', 'y', 'z', '0', '1', '2', '3', '4', '5', '6', '7', '8', '9', '+', '/']

/-- The character of a six-bit value. -/
def char (v : Nat) : Char := alphabet.getD v 'A'

/-- The six-bit value of a character of the alphabet. -/
def value? (c : Char) : Option Nat := alphabet.findIdx? (· == c)

theorem value?_char : ∀ v < 64, value? (char v) = some v := by decide

theorem char_ne_pad : ∀ v < 64, char v ≠ '=' := by decide

/-- `base64.b64encode`. -/
def encode : List UInt8 → List Char
  | [] => []
  | [a] => [char (a.toNat / 4), char (a.toNat % 4 * 16), '=', '=']
  | [a, b] =>
    [char (a.toNat / 4), char (a.toNat % 4 * 16 + b.toNat / 16), char (b.toNat % 16 * 4), '=']
  | a :: b :: c :: rest =>
    char (a.toNat / 4) :: char (a.toNat % 4 * 16 + b.toNat / 16) ::
      char (b.toNat % 16 * 4 + c.toNat / 64) :: char (c.toNat % 64) :: encode rest

/-- The scan of `binascii.a2b_base64`: `quad` characters of the current quad
have been read, `left` holds their bits not yet written out, and `pads` counts
padding characters since the last data character. -/
def decodeFrom (quad left pads : Nat) : List Char → Option (List UInt8)
  | [] => if quad = 0 then some [] else none
  | c :: rest =>
    if c = '=' then
      if 2 ≤ quad ∧ 4 ≤ quad + (pads + 1) then some []
      else decodeFrom quad left (if 2 ≤ quad then pads + 1 else pads) rest
    else
      match value? c with
      | none => decodeFrom quad left pads rest
      | some v =>
        match quad with
        | 0 => decodeFrom 1 v 0 rest
        | 1 => (decodeFrom 2 (v % 16) 0 rest).map (UInt8.ofNat (left * 4 + v / 16) :: ·)
        | 2 => (decodeFrom 3 (v % 4) 0 rest).map (UInt8.ofNat (left * 16 + v / 4) :: ·)
        | _ => (decodeFrom 0 0 0 rest).map (UInt8.ofNat (left * 64 + v) :: ·)

/-- `base64.b64decode` of a string, which must be ASCII. -/
def decode (l : List Char) : Option (List UInt8) :=
  if l.all (·.toNat < 128) then decodeFrom 0 0 0 l else none

theorem decodeFrom_char {v : Nat} (hv : v < 64) (quad left pads : Nat) (rest : List Char) :
    decodeFrom quad left pads (char v :: rest) =
      match quad with
      | 0 => decodeFrom 1 v 0 rest
      | 1 => (decodeFrom 2 (v % 16) 0 rest).map (UInt8.ofNat (left * 4 + v / 16) :: ·)
      | 2 => (decodeFrom 3 (v % 4) 0 rest).map (UInt8.ofNat (left * 16 + v / 4) :: ·)
      | _ => (decodeFrom 0 0 0 rest).map (UInt8.ofNat (left * 64 + v) :: ·) := by
  rw [decodeFrom.eq_def]
  simp only [char_ne_pad v hv, if_false, value?_char v hv]

theorem ofNat_eq {n : Nat} {a : UInt8} (h : n = a.toNat) : UInt8.ofNat n = a := by
  rw [h, UInt8.ofNat_toNat]

/-- **Round trip.** Decoding undoes encoding. -/
theorem decodeFrom_encode (l : List UInt8) : decodeFrom 0 0 0 (encode l) = some l := by
  induction l using encode.induct with
  | case1 => rfl
  | case2 a =>
    have ha := a.toNat_lt
    -- one byte is held by two characters, with two signs of padding
    rw [encode, decodeFrom_char (by omega)]
    simp only
    rw [decodeFrom_char (by omega)]
    simp only
    rw [ofNat_eq (a := a) (by omega)]
    simp [decodeFrom]
  | case3 a b =>
    have ha := a.toNat_lt
    have hb := b.toNat_lt
    -- two bytes are held by three characters, with one sign of padding
    rw [encode, decodeFrom_char (by omega)]
    simp only
    rw [decodeFrom_char (by omega)]
    simp only
    rw [decodeFrom_char (by omega)]
    simp only
    rw [ofNat_eq (a := a) (by omega), ofNat_eq (a := b) (by omega)]
    simp [decodeFrom]
  | case4 a b c rest ih =>
    have ha := a.toNat_lt
    have hb := b.toNat_lt
    have hc := c.toNat_lt
    -- after four characters the buffer is empty again
    rw [encode, decodeFrom_char (by omega)]
    simp only
    rw [decodeFrom_char (by omega)]
    simp only
    rw [decodeFrom_char (by omega)]
    simp only
    rw [decodeFrom_char (by omega)]
    simp only
    rw [ofNat_eq (a := a) (by omega), ofNat_eq (a := b) (by omega),
      ofNat_eq (a := c) (by omega), ih]
    rfl

/-- An encoded text is made of alphabet characters and padding. -/
theorem mem_encode {l : List UInt8} {c : Char} (hc : c ∈ encode l) :
    c = '=' ∨ ∃ v < 64, c = char v := by
  induction l using encode.induct with
  | case1 => simp [encode] at hc
  | case2 a =>
    have ha := a.toNat_lt
    simp only [encode, List.mem_cons, List.not_mem_nil, or_false] at hc
    rcases hc with rfl | rfl | rfl | rfl
    · exact .inr ⟨_, by omega, rfl⟩
    · exact .inr ⟨_, by omega, rfl⟩
    · exact .inl rfl
    · exact .inl rfl
  | case3 a b =>
    have ha := a.toNat_lt
    have hb := b.toNat_lt
    simp only [encode, List.mem_cons, List.not_mem_nil, or_false] at hc
    rcases hc with rfl | rfl | rfl | rfl
    · exact .inr ⟨_, by omega, rfl⟩
    · exact .inr ⟨_, by omega, rfl⟩
    · exact .inr ⟨_, by omega, rfl⟩
    · exact .inl rfl
  | case4 a b d rest ih =>
    have ha := a.toNat_lt
    have hb := b.toNat_lt
    have hd := d.toNat_lt
    simp only [encode, List.mem_cons] at hc
    rcases hc with rfl | rfl | rfl | rfl | hc
    · exact .inr ⟨_, by omega, rfl⟩
    · exact .inr ⟨_, by omega, rfl⟩
    · exact .inr ⟨_, by omega, rfl⟩
    · exact .inr ⟨_, by omega, rfl⟩
    · exact ih hc

/-- A property of the alphabet and of the padding holds of every encoded text. -/
theorem forall_mem_encode {P : Char → Prop} (hpad : P '=') (hchar : ∀ v < 64, P (char v))
    (l : List UInt8) : ∀ c ∈ encode l, P c := by
  intro c hc
  rcases mem_encode hc with rfl | ⟨v, hv, rfl⟩
  · exact hpad
  · exact hchar v hv

theorem encode_ne_nil {l : List UInt8} (h : l ≠ []) : encode l ≠ [] := by
  cases l using encode.fun_cases with
  | case1 => exact absurd rfl h
  | case2 a => simp [encode]
  | case3 a b => simp [encode]
  | case4 a b c rest => simp [encode]

@[simp] theorem decode_encode (l : List UInt8) : decode (encode l) = some l := by
  have hascii : (encode l).all (·.toNat < 128) = true := by
    rw [List.all_eq_true]
    exact forall_mem_encode (by decide) (by decide) l
  rw [decode, if_pos hascii, decodeFrom_encode]

end Base64
