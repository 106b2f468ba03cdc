import Mathlib.Tactic

/-!
# Stream ciphers over byte strings

A keystream is a sequence of blocks, one for each counter value, cut to the
length of the text; encryption and decryption both xor the text with it.

* `length_keystream` — nonempty blocks give a keystream of the asked length;
* `xor_xor_cancel`   — xoring twice with one keystream gives the text back;
* `xor_left_cancel`  — a ciphertext determines the keystream it was made with.
-/

namespace StreamCipher

/-! ## Exclusive or -/

/-- Bytewise xor; the shorter operand decides the length. -/
def xor (l r : List UInt8) : List UInt8 := List.zipWith (· ^^^ ·) l r

theorem length_xor {l r : List UInt8} (h : l.length = r.length) :
    (xor l r).length = l.length := by
  rw [xor, List.length_zipWith, h, Nat.min_self]

theorem byte_xor_cancel (a b : UInt8) : a ^^^ b ^^^ b = a := by
  rw [UInt8.xor_assoc, UInt8.xor_self, UInt8.xor_zero]

/-- **Decryption undoes encryption.** -/
theorem xor_xor_cancel {l r : List UInt8} (h : l.length = r.length) : xor (xor l r) r = l := by
  induction l generalizing r with
  | nil => simp [xor]
  | cons a l ih =>
    cases r with
    | nil => simp at h
    | cons b r =>
      have hl : l.length = r.length := by simpa using h
      have := ih hl
      simp only [xor] at this
      simp only [xor, List.zipWith_cons_cons, this, byte_xor_cancel]

/-- One text under two keystreams gives one ciphertext only for equal keystreams. -/
theorem xor_left_cancel {l r r' : List UInt8} (h : l.length = r.length)
    (h' : l.length = r'.length) (heq : xor l r = xor l r') : r = r' := by
  induction l generalizing r r' with
  | nil =>
    rw [List.eq_nil_of_length_eq_zero h.symm, List.eq_nil_of_length_eq_zero h'.symm]
  | cons a l ih =>
    cases r with
    | nil => simp at h
    | cons b r =>
      cases r' with
      | nil => simp at h'
      | cons b' r' =>
        simp only [xor, List.zipWith_cons_cons, List.cons.injEq] at heq
        have hb : b = b' := by simpa using heq.1
        rw [hb, ih (by simpa using h) (by simpa using h') heq.2]

/-! ## Keystreams -/

/-- Append the blocks of the counters from `counter` on until the output has
`size` bytes; `fuel` bounds the number of blocks. -/
def extendTo (block : Nat → List UInt8) (size : Nat) : Nat → Nat → List UInt8 → List UInt8
  | 0, _, output => output
  | fuel + 1, counter, output =>
    if output.length < size then
      extendTo block size fuel (counter + 1) (output ++ block counter)
    else output

/-- The first `size` bytes of the blocks in counter order. A block has at least
one byte, so `size` blocks are enough. -/
def keystream (block : Nat → List UInt8) (size : Nat) : List UInt8 :=
  (extendTo block size size 0 []).take size

theorem size_le_length_extendTo {block : Nat → List UInt8} (hblock : ∀ n, block n ≠ [])
    {size fuel counter : Nat} {output : List UInt8} (hfuel : size ≤ output.length + fuel) :
    size ≤ (extendTo block size fuel counter output).length := by
  induction fuel generalizing counter output with
  | zero => simpa [extendTo] using hfuel
  | succ fuel ih =>
    rw [extendTo]
    by_cases hlt : output.length < size
    · rw [if_pos hlt]
      have hpos := List.length_pos_of_ne_nil (hblock counter)
      exact ih (by rw [List.length_append]; omega)
    · rw [if_neg hlt]
      omega

/-- A keystream has exactly the asked length. -/
theorem length_keystream {block : Nat → List UInt8} (hblock : ∀ n, block n ≠ []) (size : Nat) :
    (keystream block size).length = size := by
  rw [keystream, List.length_take]
  have hlong : size ≤ (extendTo block size size 0 []).length :=
    size_le_length_extendTo hblock (by simp)
  omega

/-- A keystream that fits into its first block is the start of that block. -/
theorem keystream_of_le_block {block : Nat → List UInt8} {size : Nat} (hpos : 0 < size)
    (h : size ≤ (block 0).length) : keystream block size = (block 0).take size := by
  obtain ⟨n, rfl⟩ : ∃ n, size = n + 1 := ⟨size - 1, by omega⟩
  rw [keystream, extendTo, if_pos (by simp), List.nil_append]
  cases n with
  | zero => rfl
  | succ n => rw [extendTo, if_neg (by omega)]

/-- The big-endian bytes of `n`, `width` of them. -/
def bigEndian (width n : Nat) : List UInt8 :=
  (List.range width).map fun i => UInt8.ofNat (n / 256 ^ (width - 1 - i))

end StreamCipher
