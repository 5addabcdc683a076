namespace UwbRanging.LittleEndian

-- The `width` low bytes of a number, least significant byte first.
def encode : (width : Nat) → (value : Nat) → List UInt8
  | 0, _ => []
  | width + 1, value => UInt8.ofNat value :: encode width (value / 256)

-- The number that bytes, least significant first, stand for.
def decode : List UInt8 → Nat
  | [] => 0
  | byte :: rest => byte.toNat + 256 * decode rest

-- How many numbers `width` bytes can stand for.
def span : (width : Nat) → Nat
  | 0 => 1
  | width + 1 => 256 * span width

@[simp] theorem length_encode (width value : Nat) : (encode width value).length = width := by
  induction width generalizing value with
  | zero => rfl
  | succ width ih => simp [encode, ih]

theorem decode_encode (width value : Nat) : decode (encode width value) = value % span width := by
  induction width generalizing value with
  | zero => simp [encode, decode, span, Nat.mod_one]
  | succ width ih =>
    have hbyte : (UInt8.ofNat value).toNat = value % 256 := UInt8.toNat_ofNat'
    rw [encode, decode, ih, hbyte, span, Nat.mod_mul]

theorem decode_lt (bytes : List UInt8) : decode bytes < span bytes.length := by
  induction bytes with
  | nil => simp [decode, span]
  | cons byte rest ih =>
    have hb := byte.toNat_lt
    simp only [decode, List.length_cons, span]
    omega

-- The lowest byte stands in front of the others.
theorem encode_succ (width : Nat) (byte : UInt8) (value : Nat) :
    encode (width + 1) (byte.toNat + 256 * value) = byte :: encode width value := by
  have hb := byte.toNat_lt
  have hdiv : (byte.toNat + 256 * value) / 256 = value := by omega
  have hbyte : UInt8.ofNat (byte.toNat + 256 * value) = byte := by
    apply UInt8.toNat_inj.mp
    have h : (UInt8.ofNat (byte.toNat + 256 * value)).toNat = (byte.toNat + 256 * value) % 256 := UInt8.toNat_ofNat'
    omega
  rw [encode, hdiv, hbyte]

theorem encode_decode (bytes : List UInt8) : encode bytes.length (decode bytes) = bytes := by
  induction bytes with
  | nil => rfl
  | cons byte rest ih => rw [List.length_cons, decode, encode_succ, ih]

theorem encode_mod (width value : Nat) : encode width (value % span width) = encode width value := by
  have h := encode_decode (encode width value)
  rwa [length_encode, decode_encode] at h

end UwbRanging.LittleEndian
