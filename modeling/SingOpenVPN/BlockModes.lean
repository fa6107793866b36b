import SingOpenVPN.ByteCodec

/-!
# Block ciphers and their modes

A keyed block cipher as a value that carries its laws: blocks go to blocks of
the same size and decryption undoes encryption.  Over it, counter mode and
cipher block chaining as they act on byte strings, with the fact every codec
needs: decrypting under the same key and initialization vector gives the
plaintext back.  The feedback modes are defined for the codecs that keep them for
old peers.
-/

namespace SingOpenVPN.BlockModes

open ByteCodec List

structure BlockCipher where
  blockSize : Nat
  encrypt : List UInt8 → List UInt8
  decrypt : List UInt8 → List UInt8
  blockSize_pos : 0 < blockSize
  blockSize_lt : blockSize < 256
  length_encrypt : ∀ block, block.length = blockSize → (encrypt block).length = blockSize
  length_decrypt : ∀ block, block.length = blockSize → (decrypt block).length = blockSize
  decrypt_encrypt : ∀ block, block.length = blockSize → decrypt (encrypt block) = block

/-! ### Exclusive or -/

def xorBytes (left right : List UInt8) : List UInt8 := List.zipWith (· ^^^ ·) left right

@[simp] theorem length_xorBytes (left right : List UInt8) :
    (xorBytes left right).length = min left.length right.length := length_zipWith

theorem xorBytes_xorBytes {left right : List UInt8} (h : left.length ≤ right.length) :
    xorBytes (xorBytes left right) right = left := by
  induction left generalizing right with
  | nil => simp [xorBytes]
  | cons byte left ih =>
    cases right with
    | nil => simp at h
    | cons mask right =>
      have hrest : left.length ≤ right.length := by simpa using h
      simp only [xorBytes, zipWith_cons_cons] at ih ⊢
      rw [ih hrest, UInt8.xor_assoc, UInt8.xor_self, UInt8.xor_zero]

/-! ### Counter mode -/

/-- The first `count` bytes of the key stream that starts at counter block `iv`;
    the counter is the block read as a big-endian number, modulo its size. -/
def keyStream (cipher : BlockCipher) (iv : List UInt8) (count : Nat) : List UInt8 :=
  (List.range count).map fun index =>
    (cipher.encrypt (putBE cipher.blockSize (getBE iv + index / cipher.blockSize))).getD
      (index % cipher.blockSize) 0

/-- Counter mode: encryption and decryption are the same function. -/
def ctr (cipher : BlockCipher) (iv data : List UInt8) : List UInt8 :=
  xorBytes data (keyStream cipher iv data.length)

section

variable (cipher : BlockCipher)

@[simp] theorem length_ctr (iv data : List UInt8) : (ctr cipher iv data).length = data.length := by
  simp [ctr, keyStream]

theorem ctr_ctr (iv data : List UInt8) : ctr cipher iv (ctr cipher iv data) = data := by
  rw [ctr, length_ctr, ctr]
  exact xorBytes_xorBytes (by simp [keyStream])

/-! ### Cipher block chaining -/

/-- Encrypt `count` blocks, each masked with the ciphertext before it. -/
def cbcEncrypt (cipher : BlockCipher) : Nat → List UInt8 → List UInt8 → List UInt8
  | 0, _, _ => []
  | count + 1, iv, plain =>
    let block := cipher.encrypt (xorBytes (plain.take cipher.blockSize) iv)
    block ++ cbcEncrypt cipher count block (plain.drop cipher.blockSize)

def cbcDecrypt (cipher : BlockCipher) : Nat → List UInt8 → List UInt8 → List UInt8
  | 0, _, _ => []
  | count + 1, iv, encrypted =>
    let block := encrypted.take cipher.blockSize
    xorBytes (cipher.decrypt block) iv ++
      cbcDecrypt cipher count block (encrypted.drop cipher.blockSize)

variable (count : Nat)

theorem length_cbcEncrypt (iv plain : List UInt8) (hiv : iv.length = cipher.blockSize)
    (hplain : plain.length = count * cipher.blockSize) :
    (cbcEncrypt cipher count iv plain).length = count * cipher.blockSize := by
  induction count generalizing iv plain with
  | zero => simp [cbcEncrypt]
  | succ count ih =>
    rw [Nat.succ_mul] at hplain
    have hmasked : (xorBytes (plain.take cipher.blockSize) iv).length = cipher.blockSize := by
      simp only [length_xorBytes, length_take]
      omega
    have hblock := cipher.length_encrypt _ hmasked
    rw [cbcEncrypt, length_append, hblock,
      ih _ (plain.drop cipher.blockSize) hblock (by rw [length_drop]; omega), Nat.succ_mul]
    omega

theorem cbcDecrypt_cbcEncrypt (iv plain : List UInt8)
    (hiv : iv.length = cipher.blockSize) (hplain : plain.length = count * cipher.blockSize) :
    cbcDecrypt cipher count iv (cbcEncrypt cipher count iv plain) = plain := by
  induction count generalizing iv plain with
  | zero =>
    obtain rfl : plain = [] := length_eq_zero_iff.mp (by simpa using hplain)
    rfl
  | succ count ih =>
    rw [Nat.succ_mul] at hplain
    have htake : (plain.take cipher.blockSize).length = cipher.blockSize := by
      rw [length_take]
      omega
    have hmasked : (xorBytes (plain.take cipher.blockSize) iv).length = cipher.blockSize := by
      rw [length_xorBytes, htake, hiv, Nat.min_self]
    have hblock := cipher.length_encrypt _ hmasked
    have hrest : (plain.drop cipher.blockSize).length = count * cipher.blockSize := by
      rw [length_drop]
      omega
    rw [cbcEncrypt, cbcDecrypt]
    rw [take_left' hblock, drop_left' hblock, cipher.decrypt_encrypt _ hmasked,
      xorBytes_xorBytes (by rw [htake, hiv]), ih _ _ hblock hrest, take_append_drop]

/-! ### Feedback modes -/

def blockCount (cipher : BlockCipher) (data : List UInt8) : Nat :=
  (data.length + cipher.blockSize - 1) / cipher.blockSize

/-- Cipher feedback: each block is masked with the encrypted ciphertext before it. -/
def cfbEncrypt (cipher : BlockCipher) : Nat → List UInt8 → List UInt8 → List UInt8
  | 0, _, _ => []
  | count + 1, iv, plain =>
    let block := xorBytes (plain.take cipher.blockSize) (cipher.encrypt iv)
    block ++ cfbEncrypt cipher count block (plain.drop cipher.blockSize)

def cfbDecrypt (cipher : BlockCipher) : Nat → List UInt8 → List UInt8 → List UInt8
  | 0, _, _ => []
  | count + 1, iv, encrypted =>
    let block := encrypted.take cipher.blockSize
    xorBytes block (cipher.encrypt iv) ++
      cfbDecrypt cipher count block (encrypted.drop cipher.blockSize)

/-- Output feedback: the masks are the iterated encryptions of the initialization
vector; encryption and decryption are the same function. -/
def ofb (cipher : BlockCipher) : Nat → List UInt8 → List UInt8 → List UInt8
  | 0, _, _ => []
  | count + 1, iv, data =>
    let mask := cipher.encrypt iv
    xorBytes (data.take cipher.blockSize) mask ++
      ofb cipher count mask (data.drop cipher.blockSize)

theorem length_le_blockCount (data : List UInt8) :
    data.length ≤ blockCount cipher data * cipher.blockSize := by
  have hmod := Nat.mod_lt (data.length + cipher.blockSize - 1) cipher.blockSize_pos
  have hdiv := Nat.div_add_mod (data.length + cipher.blockSize - 1) cipher.blockSize
  rw [mul_comm] at hdiv
  simp only [blockCount]
  omega

theorem blockCount_congr {left right : List UInt8} (h : left.length = right.length) :
    blockCount cipher left = blockCount cipher right := by
  simp only [blockCount, h]

variable (iv : List UInt8)

theorem cfbEncrypt_nil : cfbEncrypt cipher count iv [] = [] := by
  induction count generalizing iv with
  | zero => rfl
  | succ count ih => simp [cfbEncrypt, xorBytes, ih]

theorem cfbDecrypt_nil : cfbDecrypt cipher count iv [] = [] := by
  induction count generalizing iv with
  | zero => rfl
  | succ count ih => simp [cfbDecrypt, xorBytes, ih]

theorem ofb_nil : ofb cipher count iv [] = [] := by
  induction count generalizing iv with
  | zero => rfl
  | succ count ih => simp [ofb, xorBytes, ih]

end

section Feedback

variable (cipher : BlockCipher) {encrypt decrypt : Nat → List UInt8 → List UInt8 → List UInt8}
  {next : List UInt8 → List UInt8 → List UInt8}

/-- A mode that masks a block with the encrypted initialization vector and goes on with a vector
    made of the old one and the encrypted block.  Decryption undoes encryption, and both keep the
    length.  The last block may be short; nothing is left behind it. -/
theorem feedback_inverse (hzero : ∀ iv data, encrypt 0 iv data = [] ∧ decrypt 0 iv data = [])
    (hnil : ∀ count iv, encrypt count iv [] = [] ∧ decrypt count iv [] = [])
    (hencrypt : ∀ count iv data,
      let block := xorBytes (data.take cipher.blockSize) (cipher.encrypt iv)
      encrypt (count + 1) iv data =
        block ++ encrypt count (next iv block) (data.drop cipher.blockSize))
    (hdecrypt : ∀ count iv data, decrypt (count + 1) iv data =
      xorBytes (data.take cipher.blockSize) (cipher.encrypt iv) ++
        decrypt count (next iv (data.take cipher.blockSize)) (data.drop cipher.blockSize))
    (hnext : ∀ iv block, iv.length = cipher.blockSize → block.length = cipher.blockSize →
      (next iv block).length = cipher.blockSize)
    (count : Nat) (iv plain : List UInt8) (hiv : iv.length = cipher.blockSize)
    (hplain : plain.length ≤ count * cipher.blockSize) :
    decrypt count iv (encrypt count iv plain) = plain ∧
      (encrypt count iv plain).length = plain.length := by
  induction count generalizing iv plain with
  | zero =>
    obtain rfl : plain = [] := length_eq_zero_iff.mp (by simpa using hplain)
    rw [(hzero iv []).1, (hzero iv []).2]
    exact ⟨rfl, rfl⟩
  | succ count ih =>
    have hmask := cipher.length_encrypt iv hiv
    have hblock : (xorBytes (plain.take cipher.blockSize) (cipher.encrypt iv)).length =
        min plain.length cipher.blockSize := by
      rw [length_xorBytes, hmask, length_take]
      omega
    rw [hencrypt, hdecrypt]
    rcases lt_or_ge plain.length cipher.blockSize with hshort | hlong
    · have htake : plain.take cipher.blockSize = plain := take_of_length_le (by omega)
      have hdrop : plain.drop cipher.blockSize = [] := drop_eq_nil_of_le (by omega)
      rw [htake] at hblock ⊢
      rw [hdrop, (hnil _ _).1, append_nil, take_of_length_le (by omega),
        drop_eq_nil_of_le (by omega), (hnil _ _).2, append_nil,
        xorBytes_xorBytes (by omega)]
      exact ⟨rfl, by omega⟩
    · rw [min_eq_right hlong] at hblock
      have hrest : (plain.drop cipher.blockSize).length ≤ count * cipher.blockSize := by
        rw [Nat.succ_mul] at hplain
        rw [length_drop]
        omega
      obtain ⟨hinverse, hlength⟩ := ih _ (plain.drop cipher.blockSize) (hnext _ _ hiv hblock) hrest
      constructor
      · rw [take_left' hblock, drop_left' hblock, hinverse,
          xorBytes_xorBytes (by rw [length_take]; omega), take_append_drop]
      · rw [length_append, hblock, hlength, length_drop]
        omega

theorem cfbDecrypt_cfbEncrypt (count : Nat) (iv plain : List UInt8)
    (hiv : iv.length = cipher.blockSize) (hplain : plain.length ≤ count * cipher.blockSize) :
    cfbDecrypt cipher count iv (cfbEncrypt cipher count iv plain) = plain ∧
      (cfbEncrypt cipher count iv plain).length = plain.length :=
  @feedback_inverse cipher (cfbEncrypt cipher) (cfbDecrypt cipher) (fun _ block => block)
    (fun _ _ => ⟨rfl, rfl⟩) (fun _ _ => ⟨cfbEncrypt_nil .., cfbDecrypt_nil ..⟩)
    (fun _ _ _ => rfl) (fun _ _ _ => rfl) (fun _ _ _ hblock => hblock) count iv plain hiv hplain

theorem ofb_ofb (count : Nat) (iv data : List UInt8) (hiv : iv.length = cipher.blockSize)
    (hdata : data.length ≤ count * cipher.blockSize) :
    ofb cipher count iv (ofb cipher count iv data) = data ∧
      (ofb cipher count iv data).length = data.length :=
  @feedback_inverse cipher (ofb cipher) (ofb cipher) (fun iv _ => cipher.encrypt iv)
    (fun _ _ => ⟨rfl, rfl⟩) (fun _ _ => ⟨ofb_nil .., ofb_nil ..⟩)
    (fun _ _ _ => rfl) (fun _ _ _ => rfl) (fun iv _ hiv _ => cipher.length_encrypt iv hiv)
    count iv data hiv hdata

end Feedback

end SingOpenVPN.BlockModes
