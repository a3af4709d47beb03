/-!
# Rows of bytes

Numbers as bytes, rows cut into pieces, and check values over rows.

Numbers of two and four bytes stand with the most significant byte first, as in PNG files, or with
the least significant first, as in pixels and compressed blocks. `Bytes.readBig32?_big32` says that
a number read back is the one written, and `Bytes.ofLittle32_byteOf` says the same of pixel values.

`chunks size items` cuts a list into pieces of `size` items each, the last one shorter where the
length is no multiple. `flatten_chunks` says that nothing is lost, `chunks_append` what one full
piece in front does, and `chunks_eq_map_range` which items are in which piece.

`Checksum.adler32` closes a zlib stream: the sum of the bytes and the sum of those sums, both modulo
65521. `Checksum.crc32` closes every section of a PNG file, a cyclic redundancy check with the
reflected polynomial `0xEDB88320`, computed bit by bit.
-/

set_option autoImplicit false
set_option relaxedAutoImplicit false

namespace PageCapture

/-! ### Numbers as bytes -/

namespace Bytes

/-- The number of four bytes, the least significant first. -/
def ofLittle32 (a b c d : UInt8) : UInt32 :=
  UInt32.ofNat (a.toNat + 256 * b.toNat + 65536 * c.toNat + 16777216 * d.toNat)

/-- The byte of a number that stands for the power `256 ^ place`. -/
@[inline]
def byteOf (n : Nat) (place : Nat) : UInt8 := UInt8.ofNat (n / Nat.pow 256 place)

/-- A number below `2 ^ 32` as four bytes, the most significant first. -/
def big32 (n : UInt32) : List UInt8 :=
  [byteOf n.toNat 3, byteOf n.toNat 2, byteOf n.toNat 1, byteOf n.toNat 0]

/-- The number in the first four bytes, the most significant first, and what follows. -/
def readBig32? : List UInt8 → Option (UInt32 × List UInt8)
  | a :: b :: c :: d :: rest => some (ofLittle32 d c b a, rest)
  | _ => none

/-- A number below `2 ^ 16` as two bytes, the least significant first. -/
def little16 (n : Nat) : List UInt8 := [byteOf n 0, byteOf n 1]

/-- The number of two bytes, the least significant first. -/
def ofLittle16 (a b : UInt8) : Nat := a.toNat + 256 * b.toNat

/-- The four bytes of a number, read back, are the number. -/
theorem ofLittle32_byteOf (n : UInt32) :
    ofLittle32 (byteOf n.toNat 0) (byteOf n.toNat 1) (byteOf n.toNat 2) (byteOf n.toNat 3) = n := by
  have hbound := n.toNat_lt
  unfold ofLittle32 byteOf
  simp only [UInt8.toNat_ofNat', Nat.pow_eq]
  refine (congrArg UInt32.ofNat ?_).trans UInt32.ofNat_toNat
  omega

theorem readBig32?_big32 (n : UInt32) (rest : List UInt8) :
    readBig32? (big32 n ++ rest) = some (n, rest) := by
  simp [big32, readBig32?, ofLittle32_byteOf]

/-- What follows a number is shorter than the bytes that it is read from. -/
theorem length_lt_of_readBig32? {bytes rest : List UInt8} {n : UInt32}
    (hread : readBig32? bytes = some (n, rest)) : rest.length < bytes.length := by
  unfold readBig32? at hread
  split at hread
  · cases hread
    simp only [List.length_cons]
    omega
  · cases hread

theorem ofLittle16_little16 {n : Nat} (hn : n < 65536) :
    ofLittle16 (byteOf n 0) (byteOf n 1) = n := by
  unfold ofLittle16 byteOf
  simp only [UInt8.toNat_ofNat', Nat.pow_eq]
  omega

end Bytes

/-! ### Cutting a list into pieces -/

/-- What is left behind a piece is shorter. -/
theorem length_drop_lt {α : Type} {size : Nat} {items : List α} (hsize : size ≠ 0)
    (hitems : items ≠ []) : (items.drop size).length < items.length := by
  have hlength : items.length ≠ 0 := fun hzero ↦ hitems (List.length_eq_zero_iff.mp hzero)
  rw [List.length_drop]
  omega

/-- The pieces of `items`, behind those in `cut`, the last first. -/
def chunksOnto {α : Type} (size : Nat) (cut : List (List α)) (items : List α) : List (List α) :=
  if size = 0 ∨ items = [] then cut.reverse
  else chunksOnto size (items.take size :: cut) (items.drop size)
termination_by items.length
decreasing_by
  rename_i hmore
  rw [not_or] at hmore
  exact length_drop_lt hmore.1 hmore.2

/-- The pieces of `size` items that a list consists of. -/
def chunks {α : Type} (size : Nat) (items : List α) : List (List α) := chunksOnto size [] items

theorem chunksOnto_eq {α : Type} (size : Nat) (cut : List (List α)) (items : List α) :
    chunksOnto size cut items = cut.reverse ++ chunks size items := by
  unfold chunks
  induction hlength : items.length using Nat.strongRecOn generalizing cut items with
  | ind n ih =>
    rw [chunksOnto]
    conv => rhs; rw [chunksOnto]
    split
    · simp
    · rename_i hmore
      rw [not_or] at hmore
      have hshorter : (items.drop size).length < n := hlength ▸ length_drop_lt hmore.1 hmore.2
      rw [ih _ hshorter _ _ rfl, ih _ hshorter [_] _ rfl]
      simp

@[simp]
theorem chunks_nil {α : Type} (size : Nat) : chunks size ([] : List α) = [] := by
  rw [chunks, chunksOnto]
  simp

/-- The first piece holds the first `size` items, the other pieces cut up the rest. -/
theorem chunks_of_ne_nil {α : Type} {size : Nat} {items : List α} (hsize : size ≠ 0)
    (hitems : items ≠ []) :
    chunks size items = items.take size :: chunks size (items.drop size) := by
  rw [chunks, chunksOnto, if_neg (by simp [hsize, hitems]), chunksOnto_eq]
  simp

/-- A full piece in front is the first of the pieces. -/
theorem chunks_append {α : Type} {size : Nat} {front rest : List α} (hsize : size ≠ 0)
    (hfront : front.length = size) : chunks size (front ++ rest) = front :: chunks size rest := by
  have hitems : front ++ rest ≠ [] := by
    intro hnil
    rw [List.append_eq_nil_iff] at hnil
    rw [hnil.1] at hfront
    exact hsize hfront.symm
  rw [chunks_of_ne_nil hsize hitems, ← hfront, List.take_left, List.drop_left]

/-- The pieces put together are the list. -/
theorem flatten_chunks {α : Type} {size : Nat} (hsize : size ≠ 0) (items : List α) :
    (chunks size items).flatten = items := by
  induction hlength : items.length using Nat.strongRecOn generalizing items with
  | ind n ih =>
    by_cases hitems : items = []
    · simp [hitems]
    · have hshorter : (items.drop size).length < n := hlength ▸ length_drop_lt hsize hitems
      rw [chunks_of_ne_nil hsize hitems, List.flatten_cons, ih _ hshorter _ rfl,
        List.take_append_drop]

/-- Where the pieces of a list begin: one after every `size` items, as long as there are items. -/
theorem chunks_eq_map_range {α : Type} {size : Nat} (hsize : size ≠ 0) (items : List α) :
    chunks size items = (List.range ((items.length + size - 1) / size)).map fun n ↦
      (items.drop (n * size)).take size := by
  induction hlength : items.length using Nat.strongRecOn generalizing items with
  | ind n ih =>
    by_cases hitems : items = []
    · have hnone : (n + size - 1) / size = 0 := by
        rw [← hlength, hitems, List.length_nil]
        exact Nat.div_eq_of_lt (by omega)
      rw [hnone, hitems]
      simp
    · have hrest : (items.drop size).length = n - size := by rw [List.length_drop, hlength]
      have hshorter : n - size < n := by
        rw [← hrest, ← hlength]
        exact length_drop_lt hsize hitems
      have hcount : (n + size - 1) / size = (n - size + size - 1) / size + 1 := by
        rw [show n + size - 1 = n - 1 + size by omega, Nat.add_div_right _ (by omega)]
        refine congrArg (· + 1) ?_
        rcases Nat.le_total size n with hmore | hlast
        · rw [Nat.sub_add_cancel hmore]
        · rw [Nat.div_eq_of_lt (by omega), Nat.div_eq_of_lt (by omega)]
      rw [chunks_of_ne_nil hsize hitems, ih (n - size) hshorter _ hrest, hcount,
        List.range_succ_eq_map]
      simp [Nat.succ_mul, Nat.add_comm]

namespace Checksum

/-! ### Adler check sum -/

/-- The two sums, after one byte more. -/
def adlerByte (sums : Nat × Nat) (byte : UInt8) : Nat × Nat :=
  let low := (sums.1 + byte.toNat) % 65521
  (low, (sums.2 + low) % 65521)

/-- The check value of a row of bytes. -/
def adler32 (bytes : List UInt8) : Nat :=
  let sums := bytes.foldl adlerByte (1, 0)
  sums.2 * 65536 + sums.1

/-! ### Cyclic redundancy check -/

/-- One bit shifted out of the register. -/
def crcBit (register : UInt32) : UInt32 :=
  if register &&& 1 = 1 then (register >>> 1) ^^^ 0xEDB88320 else register >>> 1

/-- One byte taken into the register. -/
def crcByte (register : UInt32) (byte : UInt8) : UInt32 :=
  crcBit (crcBit (crcBit (crcBit (crcBit (crcBit (crcBit (crcBit (register ^^^ byte.toUInt32))))))))

/-- The register after a row of bytes. -/
def crcFrom (register : UInt32) (bytes : List UInt8) : UInt32 := bytes.foldl crcByte register

/-- The check value of a row of bytes. -/
def crc32 (bytes : List UInt8) : UInt32 := crcFrom 0xFFFFFFFF bytes ^^^ 0xFFFFFFFF

end Checksum

end PageCapture
