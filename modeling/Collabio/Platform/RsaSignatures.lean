import Mathlib.Tactic
import Mathlib.Data.Nat.Digits.Defs
import Collabio.Platform.Jwt

/-!
# RS256 signatures and the standard

`_verify_rs256_signature` beside RSASSA-PKCS1-v1_5 verification as RFC 8017 describes it: the
length of the signature, its range, and the encoded message that it must give.

* `Rs256Valid`               — what the standard accepts;
* `verifyRs256Signature_iff` — what the code accepts: the signatures that the standard accepts
  once they are reduced modulo the key;
* `rs256_standard_iff`       — where the two agree.
-/

namespace Collabio

/-! ## The standard -/

/-- The number of octets of a modulus. -/
def octetLength (n : Nat) : Nat := (Nat.digits 256 n).length

/-- The DER encoding that comes before a SHA-256 digest. -/
def sha256DigestInfo : Bytes :=
  [0x30, 0x31, 0x30, 0x0d, 0x06, 0x09, 0x60, 0x86, 0x48, 0x01, 0x65, 0x03, 0x04, 0x02, 0x01, 0x05,
    0x00, 0x04, 0x20]

/-- `EMSA-PKCS1-v1_5`: the padding is of octets `FF`, and there are eight of them or more. -/
def IsEncodedMessage (H : HashFunctions) (message encoded : Bytes) : Prop :=
  ∃ padding : Bytes, 8 ≤ padding.length ∧ (∀ octet ∈ padding, octet = 0xFF) ∧
    encoded = 0x00 :: 0x01 :: (padding ++ 0x00 :: (sha256DigestInfo ++ H.sha256 message))

/-- `RSASSA-PKCS1-v1_5` verification with SHA-256 accepts. -/
structure Rs256Valid (H : HashFunctions) (key : JwksRs256Key) (message signature : Bytes) : Prop where
  length  : signature.length = octetLength key.modulus
  range   : bytesToNat signature < key.modulus
  encoded : IsEncodedMessage H message (natToBytes (octetLength key.modulus)
              (bytesToNat signature ^ key.exponent % key.modulus))

/-! ## Octet strings -/

@[simp] theorem length_natToBytes (length n : Nat) : (natToBytes length n).length = length := by
  induction length generalizing n with
  | zero => rfl
  | succ length ih => simp [natToBytes, ih]

theorem bytesToNat_concat (bytes : Bytes) (octet : UInt8) :
    bytesToNat (bytes ++ [octet]) = bytesToNat bytes * 256 + octet.toNat := by
  simp [bytesToNat, List.foldl_append]

theorem bytesToNat_natToBytes {length n : Nat} (h : n < 256 ^ length) :
    bytesToNat (natToBytes length n) = n := by
  induction length generalizing n with
  | zero =>
    have hzero : n = 0 := by simpa using h
    rw [hzero]
    rfl
  | succ length ih =>
    have hquotient : n / 256 < 256 ^ length := by
      rw [Nat.div_lt_iff_lt_mul (by decide)]
      rwa [pow_succ] at h
    rw [natToBytes, bytesToNat_concat, ih hquotient]
    have hoctet : (UInt8.ofNat n).toNat = n % 256 := by simp
    rw [hoctet]
    omega

/-- A modulus fits into its octets. -/
theorem lt_pow_octetLength (n : Nat) : n < 256 ^ octetLength n :=
  Nat.lt_base_pow_length_digits (by decide)

/-- `(modulus.bit_length() + 7) // 8` counts the octets. -/
theorem bitLength_octets (n : Nat) : (bitLength n + 7) / 8 = octetLength n := by
  unfold bitLength octetLength
  split
  · rename_i hzero
    rw [hzero]
    rfl
  · rename_i hne
    rw [Nat.length_digits 256 n (by decide) hne]
    have hlog : Nat.log 256 n = Nat.log2 n / 8 := by
      rw [Nat.log2_eq_log_two]
      exact Nat.log_pow_left 2 8 n
    omega

/-! ## What the code accepts -/

/-- The search for the end of the padding finds what the standard puts there. -/
theorem pkcs1V15DigestInfoMatches_iff {encoded digestInfo : Bytes} :
    pkcs1V15DigestInfoMatches encoded digestInfo = true ↔
      ∃ padding : Bytes, 8 ≤ padding.length ∧ (∀ octet ∈ padding, octet = 0xFF) ∧
        encoded = 0x00 :: 0x01 :: (padding ++ 0x00 :: digestInfo) := by
  constructor
  · intro h
    unfold pkcs1V15DigestInfoMatches at h
    split at h
    · cases h
    · split at h
      · rename_i rest _
        dsimp only at h
        split at h
        · cases h
        · rename_i first found hfound
          simp only [Bool.and_eq_true, decide_eq_true_eq, List.all_eq_true, beq_iff_eq] at h
          obtain ⟨⟨hlength, hpadding⟩, rfl⟩ := h
          refine ⟨rest.takeWhile (· != 0), hlength, hpadding, ?_⟩
          -- the padding ends at the first zero
          have hzero : first = 0 := by
            have hhead := List.head?_dropWhile_not (· != 0) rest
            rw [hfound] at hhead
            simpa using hhead
          rw [hzero] at hfound
          rw [← hfound, List.takeWhile_append_dropWhile]
      · cases h
  · rintro ⟨padding, hlength, hpadding, rfl⟩
    have hnonzero : ∀ octet ∈ padding, (octet != 0) = true := by
      intro octet hoctet
      rw [hpadding octet hoctet]
      rfl
    have hlong : ¬ (0x00 :: 0x01 :: (padding ++ 0x00 :: digestInfo)).length <
        3 + 8 + digestInfo.length := by
      simp only [List.length_cons, List.length_append]
      omega
    -- the search stops behind the padding, where the standard has its zero
    have htake : (padding ++ 0x00 :: digestInfo).takeWhile (· != 0) = padding := by
      rw [List.takeWhile_append_of_pos hnonzero]
      exact List.append_nil padding
    have hdrop : (padding ++ 0x00 :: digestInfo).dropWhile (· != 0) = 0x00 :: digestInfo := by
      rw [List.dropWhile_append_of_pos hnonzero]
      rfl
    simp only [pkcs1V15DigestInfoMatches, if_neg hlong, htake, hdrop]
    simpa [hlength] using hpadding

/-- The code looks at the signature only modulo the key. -/
theorem verifyRs256Signature_iff {H : HashFunctions} {key : JwksRs256Key}
    {message signature : Bytes} :
    verifyRs256Signature H key message signature = true ↔
      signature.length = octetLength key.modulus ∧
        IsEncodedMessage H message (natToBytes (octetLength key.modulus)
          (bytesToNat signature ^ key.exponent % key.modulus)) := by
  unfold verifyRs256Signature IsEncodedMessage
  rw [bitLength_octets]
  by_cases hlength : signature.length = octetLength key.modulus
  · rw [if_neg (not_not.mpr hlength), pkcs1V15DigestInfoMatches_iff]
    exact (and_iff_right hlength).symm
  · rw [if_pos hlength]
    exact iff_of_false Bool.false_ne_true fun h => hlength h.1

/-- The signature of its own length that is the same modulo the key, and in range. -/
def reduced (key : JwksRs256Key) (signature : Bytes) : Bytes :=
  natToBytes (octetLength key.modulus) (bytesToNat signature % key.modulus)

theorem rs256Valid_reduced_iff {H : HashFunctions} {key : JwksRs256Key}
    (hmodulus : 0 < key.modulus) {message signature : Bytes} :
    Rs256Valid H key message (reduced key signature) ↔
      IsEncodedMessage H message (natToBytes (octetLength key.modulus)
        (bytesToNat signature ^ key.exponent % key.modulus)) := by
  have hrange : bytesToNat signature % key.modulus < key.modulus := Nat.mod_lt _ hmodulus
  have hvalue : bytesToNat (reduced key signature) = bytesToNat signature % key.modulus :=
    bytesToNat_natToBytes (hrange.trans (lt_pow_octetLength _))
  have hpower : bytesToNat (reduced key signature) ^ key.exponent % key.modulus =
      bytesToNat signature ^ key.exponent % key.modulus := by
    rw [hvalue, ← Nat.pow_mod]
  constructor
  · intro h
    rw [← hpower]
    exact h.encoded
  · intro h
    exact ⟨length_natToBytes _ _, hvalue ▸ hrange, hpower ▸ h⟩

/-- **RS256.** The code and the standard agree on a signature exactly if it is not one that is
out of range and would be valid in range. -/
theorem rs256_standard_iff (H : HashFunctions) {key : JwksRs256Key}
    (hkey : key.validate = .ok key) (message signature : Bytes) :
    (verifyRs256Signature H key message signature = true ↔ Rs256Valid H key message signature) ↔
      ¬ (signature.length = octetLength key.modulus ∧ key.modulus ≤ bytesToNat signature ∧
        Rs256Valid H key message (reduced key signature)) := by
  have hmodulus : 0 < key.modulus := by
    obtain ⟨herrors, -⟩ := accept_eq_ok.mp hkey
    by_contra hzero
    simp [hzero] at herrors
  rw [verifyRs256Signature_iff, ← rs256Valid_reduced_iff hmodulus]
  constructor
  · rintro hagree ⟨hlength, hlarge, hvalid⟩
    exact absurd (hagree.mp ⟨hlength, hvalid⟩).range (not_lt.mpr hlarge)
  · intro hfree
    constructor
    · rintro ⟨hlength, hvalid⟩
      have hrange : bytesToNat signature < key.modulus := by
        by_contra hlarge
        exact hfree ⟨hlength, not_lt.mp hlarge, hvalid⟩
      exact ⟨hlength, hrange, (rs256Valid_reduced_iff hmodulus).mp hvalid⟩
    · intro hvalid
      exact ⟨hvalid.length, (rs256Valid_reduced_iff hmodulus).mpr hvalid.encoded⟩

/-! ## A signature out of range -/

namespace RsaSample

/-- Every content has the digest of 32 zero bytes. -/
def hashes : HashFunctions := { (default : HashFunctions) with
  sha256 := fun _ => List.replicate 32 0 }

/-- The encoded message of 62 octets, as a number. -/
def encoded : Nat :=
  bytesToNat (0x00 :: 0x01 :: (List.replicate 8 0xFF ++
    0x00 :: (sha256DigestInfo ++ List.replicate 32 0)))

/-- A key under which the cube of `2 ^ 164` is the encoded message. -/
def key : JwksRs256Key := ⟨"key-1", "issuer", 2 ^ 492 - encoded, 3⟩

def signature : Bytes := natToBytes 62 (2 ^ 164 + key.modulus)

/-- The signature and its key: neither the code nor the standard looks at more. -/
theorem accepted : key.validate = .ok key ∧ signature.length = octetLength key.modulus ∧
    key.modulus ≤ bytesToNat signature ∧ verifyRs256Signature hashes key [] signature = true := by
  decide +kernel

end RsaSample

/-- The code accepts a signature that is not in the range of its key. -/
theorem rs256_out_of_range : RsaSample.key.validate = .ok RsaSample.key ∧
    ¬ (verifyRs256Signature RsaSample.hashes RsaSample.key [] RsaSample.signature = true ↔
      Rs256Valid RsaSample.hashes RsaSample.key [] RsaSample.signature) := by
  obtain ⟨hkey, -, hlarge, haccepted⟩ := RsaSample.accepted
  refine ⟨hkey, fun hagree => ?_⟩
  exact absurd (hagree.mp haccepted).range (not_lt.mpr hlarge)

/-- The signature in range of the same key. -/
theorem rs256_standard_sample :
    verifyRs256Signature RsaSample.hashes RsaSample.key [] (natToBytes 62 (2 ^ 164)) = true ↔
      Rs256Valid RsaSample.hashes RsaSample.key [] (natToBytes 62 (2 ^ 164)) := by
  have hrange : bytesToNat (natToBytes 62 (2 ^ 164)) < RsaSample.key.modulus := by decide +kernel
  exact (rs256_standard_iff RsaSample.hashes RsaSample.accepted.1 [] _).mpr
    fun h => absurd h.2.1 (not_le.mpr hrange)

end Collabio
