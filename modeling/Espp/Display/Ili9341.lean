import Mathlib.Data.List.Basic
import Mathlib.Algebra.Group.Int

/-!
# The ILI9341 display driver

This file embeds the drawing functions of `espp::Ili9341` (`ili9341.hpp`) as the
transfers they make on the LCD bus. A transfer is a `send_command`, one command byte with
the DC pin low, or a `send_data`, a buffer and a length handed to `lcd_write_` with the DC
pin high. The model keeps the buffer the pointer points into rather than the bytes read
from it, so that a length running past the end of the buffer stays visible.

The C integer conversions are explicit. A conversion to `uint16_t` or `uint32_t` is a
reduction modulo `2^16` or `2^32`, a conversion to a signed type is `Int.bmod`, and
`size_t` and `int` are 32 bits wide, as on the ESP32. LVGL's `lv_coord_t` is
configuration dependent (16 bits by default, 32 with `LV_USE_LARGE_COORD`), so its width
`coordBits` is a parameter.
-/

namespace Espp

/-- The `flags` word of a transfer: `Display::Signal::NONE`, `Display::Signal::FLUSH`, or
another word of the caller. The numbers of the signals are fixed in `display.hpp`, which
is not among the sources, so they stay symbolic. -/
inductive Flags
  | none
  | flush
  | word (value : UInt32)
  deriving DecidableEq, Repr

/-- One transfer on the LCD bus. -/
inductive Transfer
  /-- `send_command`: one command byte. -/
  | command (code : UInt8)
  /-- `send_data`: the buffer the pointer points into, from the pointer on, and the number
  of bytes handed to `lcd_write_`. -/
  | data (buffer : List UInt8) (length : Nat) (flags : Flags)
  deriving DecidableEq, Repr

/-- LVGL's `lv_area_t`: the corners of an area, both included. -/
structure LvArea where
  x1 : Int
  y1 : Int
  x2 : Int
  y2 : Int
  deriving DecidableEq, Repr

/-- LVGL's `lv_area_get_width`: `x2 - x1 + 1` converted to `lv_coord_t`. -/
def lvAreaGetWidth (coordBits : Nat) (area : LvArea) : Int :=
  Int.bmod (area.x2 - area.x1 + 1) (2 ^ coordBits)

/-- LVGL's `lv_area_get_height`: `y2 - y1 + 1` converted to `lv_coord_t`. -/
def lvAreaGetHeight (coordBits : Nat) (area : LvArea) : Int :=
  Int.bmod (area.y2 - area.y1 + 1) (2 ^ coordBits)

/-- The static state of `Ili9341` that the drawing functions read. -/
structure Ili9341 where
  offsetX : Int
  offsetY : Int
  deriving DecidableEq, Repr

namespace Ili9341

/-- `Command::caset`. -/
def caset : UInt8 := 0x2a

/-- `Command::raset`. -/
def raset : UInt8 := 0x2b

/-- `Command::ramwr`. -/
def ramwr : UInt8 := 0x2c

/-- Conversion of an `int` or `size_t` value to `uint16_t`. -/
def toUInt16 (value : Int) : Nat := (value % 2 ^ 16).toNat

/-- Conversion of an `int` value to `uint32_t`. -/
def toUInt32 (value : Int) : Nat := (value % 2 ^ 32).toNat

/-- Conversion of an arithmetic result to `int`. -/
def toInt (value : Int) : Int := Int.bmod value (2 ^ 32)

/-- The four bytes `data[0..3]` that `fill` and `clear` send after CASET or RASET: the
start and the end address, each as `(v >> 8) & 0xFF` then `v & 0xFF`. -/
def addressBytes (start finish : Nat) : List UInt8 :=
  [UInt8.ofNat ((start >>> 8) &&& 0xFF), UInt8.ofNat (start &&& 0xFF),
    UInt8.ofNat ((finish >>> 8) &&& 0xFF), UInt8.ofNat (finish &&& 0xFF)]

/-- The address window that `fill` and `clear` program: CASET with the column addresses,
RASET with the row addresses, each followed by the 4-byte `data` array. -/
def setWindow (startX endX startY endY : Nat) : List Transfer :=
  [.command caset, .data (addressBytes startX endX) 4 .none,
    .command raset, .data (addressBytes startY endY) 4 .none]

/-- `set_offset`. -/
def setOffset (x y : Int) : Ili9341 := ⟨x, y⟩

/-- `fill`: program the area shifted by the offsets, then stream `size * 2` bytes of the
color map, where `size` is the area's width times its height as LVGL computes them. -/
def fill (d : Ili9341) (coordBits : Nat) (area : LvArea) (colorMap : List UInt8)
    (flags : Flags := .none) : List Transfer :=
  let size := toUInt32 (lvAreaGetWidth coordBits area * lvAreaGetHeight coordBits area)
  setWindow (toUInt16 (area.x1 + d.offsetX)) (toUInt16 (area.x2 + d.offsetX))
      (toUInt16 (area.y1 + d.offsetY)) (toUInt16 (area.y2 + d.offsetY)) ++
    [.command ramwr, .data colorMap (toUInt32 (size * 2)) flags]

/-- `flush`: `fill` with `Display::Signal::FLUSH`. -/
def flush (d : Ili9341) (coordBits : Nat) (area : LvArea) (colorMap : List UInt8) :
    List Transfer :=
  d.fill coordBits area colorMap .flush

/-- The `color_data` array of `clear` after `memset(color_data, color, 4096)`: `memset`
writes the low byte of `color` into each of the 4096 bytes. -/
def colorData (color : UInt16) : List UInt8 :=
  List.replicate 4096 (UInt8.ofNat (color.toNat % 256))

/-- The streaming loop of `clear` from index `i`, for at most `fuel` rounds: the transfers
made, and whether the loop was left. `i < size` compares `i` converted to `uint32_t`,
`size - i` is computed in `uint32_t` and converted to `int`, and `i += 2048` wraps. -/
def clearLoop (buffer : List UInt8) (size : Nat) : Nat → Int → List Transfer × Bool
  | 0, _ => ([], false)
  | fuel + 1, i =>
      if toUInt32 i < size then
        let numBytes := min (toInt (toUInt32 (size - i))) 2048
        let rest := clearLoop buffer size fuel (toInt (i + 2048))
        (.data buffer (toUInt32 (numBytes * 2)) .none :: rest.1, rest.2)
      else ([], true)

/-- `clear`: program the window from `(x, y)` to `(x + width, y + width)`, shifted, then
stream `color_data` in chunks of at most 2048 words until `width * height` are sent, for at
most `2^21 + 1` rounds, after which a loop that has not left never does (`i` takes at most
`2^21` values modulo `2^32`). The transfers made, and whether `clear` returned. -/
def clear (d : Ili9341) (x y width height : Nat) (color : UInt16 := 0x0000) :
    List Transfer × Bool :=
  let stream := clearLoop (colorData color) (toUInt32 (width * height)) (2 ^ 21 + 1) 0
  (setWindow (toUInt16 (x + d.offsetX)) (toUInt16 ((x + width) + d.offsetX))
      (toUInt16 (y + d.offsetY)) (toUInt16 ((y + width) + d.offsetY)) ++
    .command ramwr :: stream.1, stream.2)

end Ili9341

end Espp
