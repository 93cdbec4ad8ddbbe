/-!
# Bytes and big-endian fields

Everything that travels is a list of bytes. Fixed-width fields are written most significant byte
first by `bigEndian`, which takes the width in bytes, and read back by `ofBigEndian`. Both work on
`Nat`: a field that does not fit its width loses its high digits, so `bigEndian` is total and
`ofBigEndian (bigEndian width n)` is `n` modulo `256 ^ width`.

A field that arrives in parts is collected by `fill`, which takes from the input what the field
still misses. Filling with two inputs one after the other is filling with both of them together.

A buffer that is used again is brought to its new size by `resize`, which keeps what lies in it, and
`overwrite` puts data in front of that.
-/

namespace StreamRtp

/-- A string of bytes, first byte first. -/
abbrev Bytes := List UInt8

/-- The last `width` base-256 digits of a number, most significant first. -/
def bigEndian : (width n : Nat) → Bytes
  | 0, _ => []
  | width + 1, n => bigEndian width (n / 256) ++ [UInt8.ofNat n]

/-- The number whose base-256 digits are the given bytes, most significant first. -/
def ofBigEndian (bytes : Bytes) : Nat :=
  bytes.foldl (fun n b ↦ 256 * n + b.toNat) 0

@[simp] theorem length_bigEndian (width n : Nat) : (bigEndian width n).length = width := by
  induction width generalizing n with
  | zero => rfl
  | succ width ih => simp [bigEndian, ih]

theorem ofBigEndian_append (a : Bytes) (b : UInt8) :
    ofBigEndian (a ++ [b]) = 256 * ofBigEndian a + b.toNat := by
  simp [ofBigEndian]

/-- What is read from a field and written again in its width is the field. -/
theorem bigEndian_ofBigEndian {width : Nat} {field : Bytes} (h : field.length = width) :
    bigEndian width (ofBigEndian field) = field := by
  induction width generalizing field with
  | zero => rw [List.length_eq_zero_iff.1 h, bigEndian]
  | succ width ih =>
    have hne : field ≠ [] := List.ne_nil_of_length_eq_add_one h
    have hsplit : field.dropLast ++ [field.getLast hne] = field := List.dropLast_concat_getLast hne
    have hlt := (field.getLast hne).toNat_lt
    have hhigh : (256 * ofBigEndian field.dropLast + (field.getLast hne).toNat) / 256
        = ofBigEndian field.dropLast := by omega
    have hlow : UInt8.ofNat (256 * ofBigEndian field.dropLast + (field.getLast hne).toNat)
        = field.getLast hne := by
      apply UInt8.toNat_inj.1
      rw [UInt8.toNat_ofNat']
      omega
    rw [← hsplit, ofBigEndian_append, bigEndian, hhigh, hlow,
      ih (by rw [List.length_dropLast, h, Nat.add_sub_cancel])]

/-- A field of two bytes holds a number of at most sixteen bits. -/
theorem ofBigEndian_le {field : Bytes} (h : field.length = 2) : ofBigEndian field ≤ 65535 := by
  match field, h with
  | [high, low], _ =>
    have hhigh := high.toNat_lt
    have hlow := low.toNat_lt
    simp only [ofBigEndian, List.foldl_cons, List.foldl_nil]
    omega

/-! ## Collecting a field -/

/-- A field of a given size of which some bytes are held, with as many bytes of the input as it
still misses. -/
def fill (size : Nat) (held input : Bytes) : Bytes := held ++ input.take (size - held.length)

theorem length_fill_of_le {size : Nat} {held input : Bytes} (hheld : held.length ≤ size)
    (h : size ≤ held.length + input.length) : (fill size held input).length = size := by
  rw [fill, List.length_append, List.length_take]
  omega

/-- A field that is not complete has taken the whole input. -/
theorem fill_of_lt {size : Nat} {held input : Bytes} (h : held.length + input.length < size) :
    fill size held input = held ++ input := by
  rw [fill, List.take_of_length_le (by omega)]

/-- A field takes nothing once it is complete. -/
theorem fill_append_of_le {size : Nat} {held input : Bytes} (more : Bytes)
    (h : size ≤ held.length + input.length) :
    fill size held (input ++ more) = fill size held input := by
  rw [fill, fill, List.take_append_of_le_length (by omega)]

theorem fill_append_of_lt {size : Nat} {held input : Bytes} (more : Bytes)
    (h : held.length + input.length < size) :
    fill size held (input ++ more) = fill size (held ++ input) more := by
  rw [fill, fill, List.take_append, List.take_of_length_le (by omega), List.length_append,
    Nat.sub_sub, List.append_assoc]

/-! ## A buffer that is used again -/

/-- A buffer of a new size. It keeps its bytes as far as there is room; what is added is zero. -/
def resize (size : Nat) (buffer : Bytes) : Bytes :=
  buffer.take size ++ List.replicate (size - buffer.length) 0

/-- A buffer with data in front. The size stays, so data that is too long is cut. -/
def overwrite (data buffer : Bytes) : Bytes :=
  (data ++ buffer.drop data.length).take buffer.length

@[simp] theorem length_resize (size : Nat) (buffer : Bytes) :
    (resize size buffer).length = size := by
  rw [resize, List.length_append, List.length_take, List.length_replicate]
  omega

/-- What was put in front of a buffer that has room for it is found there, whatever lay in the
buffer before. -/
theorem take_overwrite {data buffer : Bytes} (h : data.length ≤ buffer.length) :
    (overwrite data buffer).take data.length = data := by
  rw [overwrite, List.take_take, Nat.min_eq_left h, List.take_left]

end StreamRtp
