import Espp.Display.Ili9341
import Mathlib.Algebra.Order.Ring.Nat

/-!
# The color stream of `clear`

After RAMWR, `clear` streams its `color_data` array in chunks. This file reads what goes on
the wire back as 16-bit words, in memory order, and shows what each word is for every
rectangle of fewer than `2^31` pixels and every color: `memset` fills `color_data` byte by byte with the low byte of
the color, so every word is that byte repeated, and the requested color only when its two
bytes are equal.

The chunks are counted in C's integer types: `size` is `width * height` truncated to
`uint32_t`, `(int)(size - i)` turns negative past `INT_MAX`, and `i += 2048` wraps. Below
`2^31` words the loop is exact, which is proved once for every starting position by
induction on the rounds left. At the limits it sends nothing, asks `lcd_write_` for
billions of bytes of a 4096-byte buffer, or never leaves.
-/

namespace Espp

/-- The bytes a transfer puts on the wire, as far as they lie inside its buffer: a length
past the buffer reads memory after it, whose bytes are not modelled. -/
def Transfer.wireBytes : Transfer → List UInt8
  | .command code => [code]
  | .data buffer length _ => buffer.take length

/-- The number of bytes a transfer hands to `lcd_write_`. -/
def Transfer.length : Transfer → Nat
  | .command _ => 1
  | .data _ length _ => length

namespace Ili9341

/-- Bytes read as 16-bit words in memory order; the ESP32 is little-endian, so the first
byte of each pair is the low one. -/
def words : List UInt8 → List Nat
  | low :: high :: rest => (low.toNat + 256 * high.toNat) :: words rest
  | _ => []

/-- After its window and RAMWR, `clear` sends nothing but its streaming loop. -/
theorem clear_drop_window (d : Ili9341) (x y width height : Nat) (color : UInt16) :
    (d.clear x y width height color).1.drop 5 =
      (clearLoop (colorData color) (toUInt32 (width * height)) (2 ^ 21 + 1) 0).1 := by
  simp [clear, setWindow]

/-- A byte sequence of one repeated byte reads as words of that byte repeated. -/
theorem words_of_forall_eq {bytes : List UInt8} {b : UInt8} (same : ∀ byte ∈ bytes, byte = b) :
    ∀ word ∈ words bytes, word = b.toNat * 257 := by
  induction bytes using words.induct with
  | case1 low high rest ih =>
      simp only [words, List.mem_cons, forall_eq_or_imp] at same ⊢
      obtain ⟨rfl, rfl, rest⟩ := same
      exact ⟨by omega, ih rest⟩
  | case2 bytes short => cases bytes with
      | nil => simp [words]
      | cons low rest => cases rest with
          | nil => simp [words]
          | cons high rest => exact absurd rfl (short low high rest)

/-- `toInt` keeps a value modulo `2^32`. -/
theorem toUInt32_toInt (value : Int) : toUInt32 (toInt value) = toUInt32 value := by
  unfold toUInt32 toInt
  exact congrArg Int.toNat Int.bmod_emod

/-- `toInt` keeps a value of `[0, 2^31)`. -/
theorem toInt_of_lt {value : Int} (nonneg : 0 ≤ value) (small : value < 2 ^ 31) :
    toInt value = value := by
  unfold toInt
  rw [Int.bmod_def]
  split <;> omega

/-- One round of the streaming loop from a position below `size`. -/
theorem clearLoop_succ_of_lt (buffer : List UInt8) (size fuel : Nat) {i : Int}
    (below : toUInt32 i < size) :
    clearLoop buffer size (fuel + 1) i =
      (.data buffer (toUInt32 (min (toInt (toUInt32 (size - i))) 2048 * 2)) .none ::
          (clearLoop buffer size fuel (toInt (i + 2048))).1,
        (clearLoop buffer size fuel (toInt (i + 2048))).2) := by
  rw [clearLoop, if_pos below]

/-- Whether `clear` returned is whether its streaming loop left. -/
theorem clear_returned (d : Ili9341) (x y width height : Nat) (color : UInt16) :
    (d.clear x y width height color).2 =
      (clearLoop (colorData color) (toUInt32 (width * height)) (2 ^ 21 + 1) 0).2 := rfl

/-- A loop at or past `size` leaves at once. -/
theorem clearLoop_of_not_lt (buffer : List UInt8) (size fuel : Nat) {i : Int}
    (done : ¬toUInt32 i < size) : clearLoop buffer size (fuel + 1) i = ([], true) := by
  rw [clearLoop, if_neg done]

/-- A step of 2048 that stays below `2^32` commutes with `toUInt32`. -/
theorem toUInt32_add_2048 {value : Int} (fits : toUInt32 value + 2048 < 2 ^ 32) :
    toUInt32 (value + 2048) = toUInt32 value + 2048 := by
  unfold toUInt32 at *
  omega

/-- Below `size < 2^31`, a round sends `2 * min (size - i) 2048` bytes. -/
theorem clearLoop_chunk {size : Nat} {i : Int} (small : size < 2 ^ 31)
    (below : toUInt32 i < size) :
    toUInt32 (min (toInt (toUInt32 (size - i))) 2048 * 2) = 2 * min (size - toUInt32 i) 2048 := by
  have left : toUInt32 (size - i) = size - toUInt32 i := by
    unfold toUInt32 at *
    omega
  rw [left, toInt_of_lt (by omega) (by omega)]
  generalize toUInt32 i = p at *
  unfold toUInt32
  omega

/-- Below `2^31` the loop is exact. From a position `i`, with rounds enough to pass `size`,
it returns, each transfer sends between 1 and 4096 bytes of the buffer, and the transfers
send `2 * (size - i)` bytes in all. -/
theorem clearLoop_exact (buffer : List UInt8) {size : Nat} (small : size < 2 ^ 31) :
    ∀ (fuel : Nat) (i : Int), size ≤ toUInt32 i + 2048 * fuel →
      (clearLoop buffer size (fuel + 1) i).2 = true ∧
      (∀ transfer ∈ (clearLoop buffer size (fuel + 1) i).1,
        ∃ length, transfer = .data buffer length .none ∧ 1 ≤ length ∧ length ≤ 4096) ∧
      ((clearLoop buffer size (fuel + 1) i).1.map Transfer.length).sum =
        2 * (size - toUInt32 i) := by
  intro fuel
  induction fuel with
  | zero =>
      intro i passed
      rw [clearLoop_of_not_lt buffer size 0 (by omega)]
      simp
      omega
  | succ fuel ih =>
      intro i passed
      by_cases below : toUInt32 i < size
      · have next : toUInt32 (toInt (i + 2048)) = toUInt32 i + 2048 := by
          rw [toUInt32_toInt]
          exact toUInt32_add_2048 (by omega)
        obtain ⟨returned, chunks, sum⟩ := ih (toInt (i + 2048)) (by omega)
        rw [clearLoop_succ_of_lt buffer size (fuel + 1) below, clearLoop_chunk small below]
        refine ⟨returned, ?_, ?_⟩
        · intro transfer sent
          rcases List.mem_cons.mp sent with rfl | sent
          · exact ⟨_, rfl, by omega, by omega⟩
          · exact chunks transfer sent
        · rw [List.map_cons, List.sum_cons, sum, next, Transfer.length]
          omega
      · rw [clearLoop_of_not_lt buffer size (fuel + 1) below]
        simp
        omega

/-- Past `2^32 - 2048` the loop never leaves: `i` only takes multiples of 2048 modulo
`2^32`, and every one of them is below `size`. -/
theorem clearLoop_never_leaves (buffer : List UInt8) {size : Nat} (large : 2 ^ 32 - 2048 < size) :
    ∀ (fuel : Nat) (i : Int), toUInt32 i % 2048 = 0 → (clearLoop buffer size fuel i).2 = false := by
  intro fuel
  induction fuel with
  | zero => intro i _; rfl
  | succ fuel ih =>
      intro i aligned
      have below : toUInt32 i < size := by
        unfold toUInt32 at *
        omega
      rw [clearLoop_succ_of_lt buffer size fuel below]
      apply ih
      rw [toUInt32_toInt]
      unfold toUInt32 at *
      omega

/-- Below `2^31` words `clear` returns, each transfer after RAMWR sends between 1 and 4096
bytes of `color_data`, and they send `2 * width * height` bytes in all. -/
theorem clear_exact (d : Ili9341) (x y : Nat) (color : UInt16) {width height : Nat}
    (small : width * height < 2 ^ 31) :
    (d.clear x y width height color).2 = true ∧
      (∀ transfer ∈ (d.clear x y width height color).1.drop 5,
        ∃ length, transfer = .data (colorData color) length .none ∧ 1 ≤ length ∧ length ≤ 4096) ∧
      (((d.clear x y width height color).1.drop 5).map Transfer.length).sum =
        2 * (width * height) := by
  have size : toUInt32 (width * height) = width * height := by
    unfold toUInt32
    omega
  obtain ⟨returned, chunks, sum⟩ := clearLoop_exact (colorData color) (size ▸ small) (2 ^ 21) 0
    (by rw [size]; unfold toUInt32; omega)
  rw [clear_drop_window, clear_returned]
  exact ⟨returned, chunks, by rw [sum, size]; rfl⟩

/-- `clear`'s loop is exact below `2^31` words and breaks at the limits: 65536 by 65536
sends no color, as `width * height` truncates to 0; 65535 by 65537 asks `lcd_write_` for
4294967294 bytes of the 4096-byte buffer and never returns, whatever the rounds. -/
theorem clear_loop_bounded (d : Ili9341) (x y : Nat) (color : UInt16) :
    (∀ width height, width * height < 2 ^ 31 →
      (d.clear x y width height color).2 = true ∧
      (∀ transfer ∈ (d.clear x y width height color).1.drop 5,
        ∃ length, transfer = .data (colorData color) length .none ∧ 1 ≤ length ∧ length ≤ 4096) ∧
      (((d.clear x y width height color).1.drop 5).map Transfer.length).sum =
        2 * (width * height)) ∧
    ((d.clear x y 65536 65536 color).1.drop 5 = [] ∧ (d.clear x y 65536 65536 color).2 = true) ∧
    (((d.clear x y 65535 65537 color).1.drop 5).head? =
        some (.data (colorData color) 4294967294 .none) ∧
      (d.clear x y 65535 65537 color).2 = false ∧
      ∀ fuel, (clearLoop (colorData color) 4294967295 fuel 0).2 = false) := by
  have never := clearLoop_never_leaves (colorData color) (by decide : 2 ^ 32 - 2048 < 4294967295)
  have wraps : toUInt32 ((65536 : Nat) * (65536 : Nat)) = 0 := by decide
  have largest : toUInt32 ((65535 : Nat) * (65537 : Nat)) = 4294967295 := by decide
  refine ⟨fun _ _ small => clear_exact d x y color small, ?_, ?_⟩
  · rw [clear_drop_window, clear_returned, wraps]
    exact ⟨rfl, rfl⟩
  · refine ⟨?_, ?_, fun fuel => never fuel 0 (by decide)⟩
    · rw [clear_drop_window, largest,
        clearLoop_succ_of_lt _ _ _ (by decide : toUInt32 0 < 4294967295)]
      rfl
    · rw [clear_returned, largest]
      exact never _ 0 (by decide)

/-- `clear` fills with the low byte of the color. For every rectangle of fewer than `2^31`
pixels, offset and color, no transfer after RAMWR reads past `color_data`, and every 16-bit
word streamed, in memory order, is `(color & 0xFF) * 0x0101`: `0x3434` for `0x1234`. -/
theorem clear_streams_low_byte (d : Ili9341) (x y width height : Nat) (color : UInt16)
    (small : width * height < 2 ^ 31) :
    ((∀ transfer ∈ (d.clear x y width height color).1.drop 5,
        transfer.length ≤ (colorData color).length) ∧
      ∀ word ∈ words (((d.clear x y width height color).1.drop 5).flatMap Transfer.wireBytes),
        word = color.toNat % 256 * 257) ∧
      words ((((⟨0, 0⟩ : Ili9341).clear 0 0 1 1 0x1234).1.drop 5).flatMap Transfer.wireBytes) =
        [0x3434] := by
  have chunks := (clear_exact d x y color small).2.1
  have low : (UInt8.ofNat (color.toNat % 256)).toNat = color.toNat % 256 := by
    simp [UInt8.toNat, UInt8.ofNat]
  refine ⟨⟨fun transfer sent => ?_, ?_⟩, by decide⟩
  · obtain ⟨length, rfl, -, within⟩ := chunks transfer sent
    rw [Transfer.length, colorData, List.length_replicate]
    exact within
  · rw [← low]
    apply words_of_forall_eq
    intro byte sent
    obtain ⟨transfer, streamed, onWire⟩ := List.mem_flatMap.mp sent
    obtain ⟨length, rfl, -⟩ := chunks transfer streamed
    exact List.eq_of_mem_replicate (List.mem_of_mem_take onWire)

/-- The one-pixel clear of `0x1234` at the origin. -/
theorem clear_one_pixel_streams_low_byte :
    1 * 1 < 2 ^ 31 ∧
      ((∀ transfer ∈ ((⟨0, 0⟩ : Ili9341).clear 0 0 1 1 0x1234).1.drop 5,
          transfer.length ≤ (colorData 0x1234).length) ∧
        ∀ word ∈ words ((((⟨0, 0⟩ : Ili9341).clear 0 0 1 1 0x1234).1.drop 5).flatMap
          Transfer.wireBytes), word = (0x1234 : UInt16).toNat % 256 * 257) ∧
        words ((((⟨0, 0⟩ : Ili9341).clear 0 0 1 1 0x1234).1.drop 5).flatMap Transfer.wireBytes) =
          [0x3434] :=
  ⟨by decide, clear_streams_low_byte ⟨0, 0⟩ 0 0 1 1 0x1234 (by decide)⟩

end Ili9341

end Espp
