import Espp.Display.Ili9341

/-!
# The address window of `fill` and `clear`

`fill` programs the area LVGL hands it: CASET and RASET with the shifted corners, each
address truncated to 16 bits and sent high byte first, then RAMWR and the color map. This
file proves that for every area and every offset, and works out the length of the color
stream: it is `2 * width * height` reduced modulo `2^32`, with width and height as
`lv_area_get_width` and `lv_area_get_height` compute them in `lv_coord_t`, and so it is
`2 * (x2 - x1 + 1) * (y2 - y1 + 1)` only while those fit their types.

`clear` programs its window by hand, with an exclusive end and with the row end computed
from the width; the last part of the file compares its window with the one `fill`
programs for the same rectangle.
-/

namespace Espp

namespace Ili9341

/-- The high byte of a 16-bit address. -/
def hi (v : Nat) : UInt8 := UInt8.ofNat (v / 256)

/-- The low byte of a 16-bit address. -/
def lo (v : Nat) : UInt8 := UInt8.ofNat (v % 256)

/-- What `fill` is meant to send, stated directly: CASET with `x1 + offset_x_` and
`x2 + offset_x_`, RASET with `y1 + offset_y_` and `y2 + offset_y_`, each reduced modulo
`2^16` and sent as high then low byte, RAMWR, then `length` bytes of the color map with
the caller's flags. -/
def programsArea (d : Ili9341) (area : LvArea) (colorMap : List UInt8) (flags : Flags)
    (length : Nat) : List Transfer :=
  let sx := ((area.x1 + d.offsetX) % 2 ^ 16).toNat
  let ex := ((area.x2 + d.offsetX) % 2 ^ 16).toNat
  let sy := ((area.y1 + d.offsetY) % 2 ^ 16).toNat
  let ey := ((area.y2 + d.offsetY) % 2 ^ 16).toNat
  [.command 0x2A, .data [hi sx, lo sx, hi ex, lo ex] 4 .none,
    .command 0x2B, .data [hi sy, lo sy, hi ey, lo ey] 4 .none,
    .command 0x2C, .data colorMap length flags]

theorem toUInt16_lt (value : Int) : toUInt16 value < 2 ^ 16 := by
  unfold toUInt16
  omega

/-- `(v >> 8) & 0xFF` is the high byte of a 16-bit value. -/
theorem shiftRight_and_ff {v : Nat} (small : v < 2 ^ 16) : (v >>> 8) &&& 0xFF = v / 256 := by
  rw [Nat.shiftRight_eq_div_pow, show (0xFF : Nat) = 2 ^ 8 - 1 from rfl,
    Nat.and_pow_two_sub_one_eq_mod]
  omega

/-- `v & 0xFF` is the low byte. -/
theorem and_ff (v : Nat) : v &&& 0xFF = v % 256 := by
  rw [show (0xFF : Nat) = 2 ^ 8 - 1 from rfl, Nat.and_pow_two_sub_one_eq_mod]

/-- The bytes `fill` and `clear` write into `data` are the high and low bytes of the two
addresses. -/
theorem addressBytes_eq {start finish : Nat} (smallStart : start < 2 ^ 16)
    (smallFinish : finish < 2 ^ 16) :
    addressBytes start finish = [hi start, lo start, hi finish, lo finish] := by
  simp only [addressBytes, shiftRight_and_ff smallStart, shiftRight_and_ff smallFinish, and_ff,
    hi, lo]

/-- A conversion to a signed type of `bits` bits keeps a positive value below `2^(bits-1)`. -/
theorem bmod_eq_self {value : Int} {bits : Nat} (positive : 0 < value)
    (fits : value < 2 ^ (bits - 1)) : Int.bmod value (2 ^ bits) = value := by
  cases bits with
  | zero => simp at fits; omega
  | succ bits =>
      rw [Nat.add_sub_cancel] at fits
      have half : ((2 : Int) ^ (bits + 1) + 1) / 2 = 2 ^ bits := by
        rw [pow_succ]
        omega
      have below : value < 2 ^ (bits + 1) := by
        rw [pow_succ]
        omega
      rw [Int.bmod_def, Int.natCast_pow, Nat.cast_ofNat, Int.emod_eq_of_lt (Int.le_of_lt positive) below, half]
      simp [fits]

/-- `fill` programs the shifted area and streams `2 * width * height` bytes modulo
`2^32`, with width and height as LVGL computes them. -/
theorem fill_eq_programsArea (d : Ili9341) (coordBits : Nat) (area : LvArea)
    (colorMap : List UInt8) (flags : Flags) :
    d.fill coordBits area colorMap flags = d.programsArea area colorMap flags
      (toUInt32 (2 * (lvAreaGetWidth coordBits area * lvAreaGetHeight coordBits area))) := by
  have length (pixels : Int) : toUInt32 (toUInt32 pixels * 2) = toUInt32 (2 * pixels) := by
    unfold toUInt32
    omega
  simp only [fill, setWindow, programsArea, addressBytes_eq (toUInt16_lt _) (toUInt16_lt _),
    length]
  rfl

/-- `fill` programs the flushed area: CASET and RASET with the shifted corners modulo `2^16`,
RAMWR, then `2 * W * H` bytes modulo `2^32`; for a well-formed area the stream is exactly
`2 * (x2 - x1 + 1) * (y2 - y1 + 1)` bytes, and with corners in `[0, 2^16)` it fills the
window exactly. -/
theorem fill_programs_flushed_area (d : Ili9341) (coordBits : Nat) (area : LvArea)
    (colorMap : List UInt8) (flags : Flags) :
    d.fill coordBits area colorMap flags = d.programsArea area colorMap flags
        (toUInt32 (2 * (lvAreaGetWidth coordBits area * lvAreaGetHeight coordBits area))) ∧
      (area.x1 ≤ area.x2 → area.y1 ≤ area.y2 →
        area.x2 - area.x1 + 1 < 2 ^ (coordBits - 1) →
        area.y2 - area.y1 + 1 < 2 ^ (coordBits - 1) →
        2 * ((area.x2 - area.x1 + 1) * (area.y2 - area.y1 + 1)) < 2 ^ 32 →
        d.fill coordBits area colorMap flags = d.programsArea area colorMap flags
            (2 * ((area.x2 - area.x1 + 1) * (area.y2 - area.y1 + 1))).toNat ∧
          (0 ≤ area.x1 + d.offsetX → area.x2 + d.offsetX < 2 ^ 16 →
            0 ≤ area.y1 + d.offsetY → area.y2 + d.offsetY < 2 ^ 16 →
            2 * (((area.x2 + d.offsetX) % 2 ^ 16 - (area.x1 + d.offsetX) % 2 ^ 16 + 1) *
              ((area.y2 + d.offsetY) % 2 ^ 16 - (area.y1 + d.offsetY) % 2 ^ 16 + 1)) =
              2 * ((area.x2 - area.x1 + 1) * (area.y2 - area.y1 + 1)))) := by
  refine ⟨fill_eq_programsArea d coordBits area colorMap flags, ?_⟩
  intro columns rows wide tall fits
  have width := bmod_eq_self (by omega) wide
  have height := bmod_eq_self (by omega) tall
  refine ⟨?_, fun _ _ _ _ => ?_⟩
  · rw [fill_eq_programsArea, lvAreaGetWidth, lvAreaGetHeight, width, height, toUInt32,
      Int.emod_eq_of_lt (Int.mul_nonneg (by decide) (Int.mul_nonneg (by omega) (by omega))) fits]
  · rw [Int.emod_eq_of_lt (by omega) (by omega), Int.emod_eq_of_lt (by omega) (by omega),
      Int.emod_eq_of_lt (by omega) (by omega), Int.emod_eq_of_lt (by omega) (by omega)]
    congr 2 <;> omega

/-- Two pixels of one row at the origin, with 16-bit `lv_coord_t`: the stream is 4 bytes. -/
theorem fill_programs_two_pixels :
    (0 : Int) ≤ 1 ∧ (0 : Int) ≤ 0 ∧ (1 - 0 + 1 : Int) < 2 ^ (16 - 1) ∧
      (0 - 0 + 1 : Int) < 2 ^ (16 - 1) ∧ 2 * ((1 - 0 + 1) * (0 - 0 + 1) : Int) < 2 ^ 32 ∧
      (⟨0, 0⟩ : Ili9341).fill 16 ⟨0, 0, 1, 0⟩ [] =
        (⟨0, 0⟩ : Ili9341).programsArea ⟨0, 0, 1, 0⟩ [] .none 4 :=
  ⟨by decide, by decide, by decide, by decide, by decide,
    ((fill_programs_flushed_area ⟨0, 0⟩ 16 ⟨0, 0, 1, 0⟩ [] .none).2 (by decide) (by decide)
      (by decide) (by decide) (by decide)).1⟩

/-- The stream length wraps. With 16-bit `lv_coord_t` an area 32768 pixels wide and one
high makes `lv_area_get_width` return -32768, and `fill` announces 4294901760 bytes where
the area has 65536; with 32-bit `lv_coord_t` the widest row makes it return 0, and `fill`
announces no bytes where the area has `2^33`. -/
theorem fill_stream_length_wraps :
    (⟨0, 0⟩ : Ili9341).fill 16 ⟨0, 0, 32767, 0⟩ [] =
        setWindow 0 32767 0 0 ++ [.command ramwr, .data [] 4294901760 .none] ∧
      (⟨0, 0⟩ : Ili9341).fill 32 ⟨-2147483648, 0, 2147483647, 0⟩ [] =
        setWindow 0 65535 0 0 ++ [.command ramwr, .data [] 0 .none] := by
  decide

theorem hi_lo_injective {v w : Nat} (smallV : v < 2 ^ 16) (smallW : w < 2 ^ 16)
    (same : hi v = hi w ∧ lo v = lo w) : v = w := by
  have toNat (n : Nat) : (UInt8.ofNat n).toNat = n % 256 := by simp [UInt8.toNat, UInt8.ofNat]
  have high := congrArg UInt8.toNat same.1
  have low := congrArg UInt8.toNat same.2
  simp only [hi, lo, toNat] at high low
  omega

/-- The window `clear` programs, before its color stream. -/
theorem clear_window (d : Ili9341) (x y width height : Nat) (color : UInt16) :
    (d.clear x y width height color).1.take 4 =
      setWindow (toUInt16 (x + d.offsetX)) (toUInt16 ((x + width) + d.offsetX))
        (toUInt16 (y + d.offsetY)) (toUInt16 ((y + width) + d.offsetY)) := by
  simp [clear, setWindow]

/-- `clear` never programs `fill`'s columns. For every rectangle, every offset and every
color, the CASET parameters `clear` sends differ from those `fill` sends for the area from
`(x, y)` to `(x + width - 1, y + height - 1)`: `clear` ends its columns at `x + width`,
one past the last column. -/
theorem clear_caset_differs_from_fill (d : Ili9341) (coordBits : Nat)
    (x y width height : Nat) (color : UInt16) (colorMap : List UInt8) :
    (d.clear x y width height color).1[1]? ≠
      (d.fill coordBits ⟨x, y, x + width - 1, y + height - 1⟩ colorMap)[1]? := by
  rw [← List.getElem?_take_of_lt (show 1 < 4 by decide), clear_window]
  simp only [fill, setWindow, List.cons_append, List.getElem?_cons_succ, List.getElem?_cons_zero,
    ne_eq, Option.some.injEq, Transfer.data.injEq, and_true,
    addressBytes_eq (toUInt16_lt _) (toUInt16_lt _), List.cons.injEq]
  rintro ⟨-, -, high, low⟩
  have same := hi_lo_injective (toUInt16_lt _) (toUInt16_lt _) ⟨high, low⟩
  unfold toUInt16 at same
  omega

/-- `clear(0, 0, 2, 1)` programs columns and rows 0 to 2; `fill` of that rectangle programs
columns 0 to 1 and row 0. -/
example : ((⟨0, 0⟩ : Ili9341).clear 0 0 2 1).1.take 4 = setWindow 0 2 0 2 ∧
    ((⟨0, 0⟩ : Ili9341).fill 16 ⟨0, 0, 1, 0⟩ []).take 4 = setWindow 0 1 0 0 := by
  decide

end Ili9341

end Espp
