import PageCapture.Png

/-!
# PNG files there and back

`read?_write` says that the picture read from the file of a well-formed picture is that picture,
whatever its size. Three cuts are undone on the way: the stream into sections
(`readDataOnto_parts`), the bytes into blocks (`expand?_contract`) and the lines into rows
(`chunks_scanlines`).
-/

set_option autoImplicit false
set_option relaxedAutoImplicit false

namespace PageCapture

/-- No piece is longer than the size of the pieces. -/
theorem length_le_of_mem_chunks {α : Type} {size : Nat} (hsize : size ≠ 0) (items : List α) :
    ∀ piece ∈ chunks size items, piece.length ≤ size := by
  induction hlength : items.length using Nat.strongRecOn generalizing items with
  | ind n ih =>
    by_cases hitems : items = []
    · simp [hitems]
    · have hpositive := List.length_pos_iff.mpr hitems
      rw [chunks_of_ne_nil hsize hitems, List.forall_mem_cons]
      have hfirst : (items.take size).length ≤ size := by
        rw [List.length_take]
        exact Nat.min_le_left ..
      refine ⟨hfirst, ih (items.drop size).length ?_ _ rfl⟩
      rw [List.length_drop]
      omega

namespace Png

/-! ### Streams -/

/-- A block that stands in front is read, and what follows it is read on unless it is the final
one. -/
theorem blocksOnto_storedBlock (read : List (List UInt8)) (final : Bool) {piece : List UInt8}
    (hpiece : piece.length ≤ blockSize) (behind : List UInt8) :
    blocksOnto read (storedBlock final piece ++ behind) =
      if final then some (piece :: read, behind) else blocksOnto (piece :: read) behind := by
  simp only [blockSize] at hpiece
  have hlength := Bytes.ofLittle16_little16 (n := piece.length) (by omega)
  have hcomplement := Bytes.ofLittle16_little16 (n := blockSize - piece.length)
    (by simp only [blockSize]; omega)
  simp only [storedBlock, Bytes.little16, List.cons_append, List.nil_append]
  rw [blocksOnto]
  simp only [hlength, hcomplement, List.take_left, List.drop_left]
  rw [if_neg (by simp only [blockSize]; omega)]
  cases final <;> rfl

/-- Reading the blocks of some pieces gives the pieces. -/
theorem blocksOnto_storedBlocks (read pieces : List (List UInt8))
    (hpieces : ∀ piece ∈ pieces, piece.length ≤ blockSize) (behind : List UInt8) :
    ∃ found, blocksOnto read (storedBlocks pieces ++ behind) = some (found, behind) ∧
      found.reverse.flatten = read.reverse.flatten ++ pieces.flatten := by
  fun_induction storedBlocks pieces generalizing read with
  | case1 =>
    exact ⟨[] :: read, blocksOnto_storedBlock read true (Nat.zero_le _) behind, by simp⟩
  | case2 last =>
    rw [List.forall_mem_singleton] at hpieces
    exact ⟨last :: read, blocksOnto_storedBlock read true hpieces behind, by simp⟩
  | case3 piece pieces hmore ih =>
    rw [List.forall_mem_cons] at hpieces
    obtain ⟨found, hread, hfound⟩ := ih (piece :: read) hpieces.2
    refine ⟨found, ?_, by simp [hfound]⟩
    rw [List.append_assoc, blocksOnto_storedBlock read false hpieces.1]
    exact hread

/-- The bytes of a stream are read back from it. -/
theorem expand?_contract (bytes : List UInt8) : expand? (contract bytes) = some bytes := by
  have hsize : blockSize ≠ 0 := by decide
  obtain ⟨found, hread, hfound⟩ := blocksOnto_storedBlocks [] (chunks blockSize bytes)
    (length_le_of_mem_chunks hsize bytes) (Bytes.big32 (UInt32.ofNat (Checksum.adler32 bytes)))
  have hbytes : found.reverse.flatten = bytes := by
    rw [hfound, flatten_chunks hsize]
    rfl
  rw [contract, expand?]
  simp only [hread, hbytes, if_true]

/-! ### Sections -/

theorem after?_append (front rest : List UInt8) : after? front (front ++ rest) = some rest := by
  rw [after?, List.take_left, List.drop_left, if_pos rfl]

/-- The body of a section is read back from it. Assumes: the length of the body can be written. -/
theorem readPart?_part (kind body : List UInt8) (hbody : body.length < 4294967296)
    (rest : List UInt8) : readPart? kind (part kind body ++ rest) = some (body, rest) := by
  have hlength : (UInt32.ofNat body.length).toNat = body.length :=
    UInt32.toNat_ofNat_of_lt' hbody
  simp only [readPart?, part, List.append_assoc, Bytes.readBig32?_big32, Option.bind_eq_bind,
    Option.bind_some, after?_append, hlength, List.take_left, List.drop_left]
  simp

/-- The section that ends a file is not one of picture data. -/
theorem readPart?_end (rest : List UInt8) :
    readPart? dataKind (part endKind [] ++ rest) = none := by
  simp only [readPart?, part, List.append_assoc, Bytes.readBig32?_big32, Option.bind_eq_bind,
    Option.bind_some, after?]
  rfl

/-- Reading the sections of picture data gives their bodies, up to the section that ends the
file. -/
theorem readDataOnto_parts (read : List (List UInt8)) {bodies : List (List UInt8)}
    (hbodies : ∀ body ∈ bodies, body.length ≤ greatestBody) (rest : List UInt8) :
    readDataOnto read (bodies.flatMap (part dataKind) ++ (part endKind [] ++ rest)) =
      (bodies.reverse ++ read, part endKind [] ++ rest) := by
  induction bodies generalizing read with
  | nil =>
    rw [readDataOnto]
    split
    · rename_i found
      rw [List.flatMap_nil, List.nil_append, readPart?_end] at found
      cases found
    · rfl
  | cons body bodies ih =>
    rw [List.forall_mem_cons] at hbodies
    have hbody : body.length < 4294967296 := by
      have hgreatest := hbodies.1
      simp only [greatestBody] at hgreatest
      omega
    have hread := readPart?_part dataKind body hbody
      (bodies.flatMap (part dataKind) ++ (part endKind [] ++ rest))
    rw [List.flatMap_cons, List.append_assoc, readDataOnto]
    split
    · rename_i found
      rw [hread] at found
      cases found
      rw [ih (body :: read) hbodies.2]
      simp
    · rename_i found
      rw [hread] at found
      cases found

/-! ### Pictures -/

theorem readHeader?_headerBody (image : Image) :
    readHeader? (headerBody image) = some { image with rows := [] } := by
  simp only [readHeader?, headerBody, Bytes.readBig32?_big32, Option.bind_eq_bind,
    Option.bind_some, Colour.ofCode?_code, Option.map_some]

/-- The lines cut at the length of a row are the rows with their marks. -/
theorem chunks_scanlines {rows : List (List UInt8)} {length : Nat}
    (hrows : ∀ row ∈ rows, row.length = length) :
    chunks (length + 1) (scanlines rows) = rows.map (0 :: ·) := by
  induction rows with
  | nil => exact chunks_nil _
  | cons row rows ih =>
    rw [List.forall_mem_cons] at hrows
    rw [scanlines, List.flatMap_cons, chunks_append (Nat.succ_ne_zero length) (by simp [hrows.1])]
    exact congrArg _ (ih hrows.2)

theorem mapM_readRow? {rows : List (List UInt8)} {length : Nat}
    (hrows : ∀ row ∈ rows, row.length = length) :
    (rows.map (0 :: ·)).mapM (readRow? length) = some rows := by
  induction rows with
  | nil => rfl
  | cons row rows ih =>
    rw [List.forall_mem_cons] at hrows
    rw [List.map_cons, List.mapM_cons, ih hrows.2, readRow?, if_pos hrows.1]
    rfl

/-- The picture read from the file of a well-formed picture is that picture. -/
theorem read?_write {image : Image} (himage : image.WellFormed) :
    read? (write image) = some image := by
  obtain ⟨-, hheight, hrows⟩ := himage
  have hgreatest : greatestBody ≠ 0 := by decide
  have hheader : (headerBody image).length < 4294967296 := by
    simp only [headerBody, Bytes.big32, List.length_append, List.length_cons, List.length_nil]
    omega
  have hdata := readDataOnto_parts []
    (length_le_of_mem_chunks hgreatest (contract (scanlines image.rows))) []
  have hend := readPart?_part endKind [] (by decide) []
  have hlines : chunks (Image.rowLength { image with rows := [] } + 1) (scanlines image.rows) =
      image.rows.map (0 :: ·) := chunks_scanlines hrows
  have hlengths : (image.rows.map (0 :: ·)).mapM
      (readRow? (Image.rowLength { image with rows := [] })) = some image.rows :=
    mapM_readRow? hrows
  simp only [List.append_nil] at hdata hend
  simp only [read?, write, dataParts, after?_append, Option.bind_eq_bind, Option.bind_some,
    readPart?_part headerKind _ hheader, hdata, hend, readHeader?_headerBody,
    List.reverse_reverse, flatten_chunks hgreatest, expand?_contract, hlines, hlengths]
  exact if_pos ⟨trivial, trivial, hheight⟩

/-- Every file begins with the signature: none is empty. -/
theorem write_ne_nil (image : Image) : write image ≠ [] := by
  simp [write, signature]

end Png

end PageCapture
