import Espp.Display.Stream
import Espp.Display.Window

/-!
# What the controller makes of the bus

The transfers of `fill` and `clear` are commands to an ILI9341. This file models how the
controller takes the three commands the drawing functions send, and proves what ends up in
its frame memory. `fill` writes the color map into the flushed area, row by row, and
touches nothing else. `clear` streams the same bytes as one transfer of `2 * width * height`
bytes would. They land as the first `width * height` pixels of the square window `width + 1`
wide that it programs, or fill that square when there are more of them.

The controller is described by the ILI9341 datasheet, which is not part of the repository.
CASET and RASET take four parameter bytes each: the start and the end address, high byte
first. RAMWR moves the write pointer to the start column and start page. Every two data
bytes after it are one pixel, in the 16-bit format that `initialize` selects with COLMOD
`0x55`. A pixel is written at the pointer, and the pointer then moves one column right,
past the end column to the start column of the next page, and past the end page back to the
start page. Only one result below runs past the end of a window, `clear` of a tall area,
and there every pixel is the same, so it would end the same way if the controller dropped
what does not fit. The memory is addressed by column and page, as CASET and RASET address
it; MADCTL maps those addresses to the panel and is not modelled. The other commands, and
their parameters, leave the window, the pointer and the memory alone.

The proof follows the pointer. A pixel write moves it one place in raster order, so after
`k` pixels it stands at pixel `k` of the window, counted round it, and each pixel lands at
its raster position.
-/

namespace Espp

/-- A pixel as it crosses the bus: its first and its second byte. -/
abbrev Pixel := UInt8 × UInt8

/-- The state of an ILI9341, as far as the drawing functions reach it. -/
structure Controller where
  /-- The last command byte received. -/
  command : UInt8
  /-- The parameter bytes of CASET or RASET received so far. -/
  params : List UInt8
  startColumn : Nat
  endColumn : Nat
  startPage : Nat
  endPage : Nat
  /-- The column of the write pointer. -/
  column : Nat
  /-- The page of the write pointer. -/
  page : Nat
  /-- The first byte of a pixel whose second byte has not come yet. -/
  pending : Option UInt8
  /-- The frame memory, by column and page. -/
  memory : Nat → Nat → Pixel

namespace Controller

/-- A 16-bit address sent high byte first. -/
def address (high low : UInt8) : Nat := high.toNat * 256 + low.toNat

/-- A command byte. The data bytes that follow are its parameters; RAMWR also moves the
pointer to the start of the window. -/
def receiveCommand (c : Controller) (code : UInt8) : Controller :=
  { c with
    command := code
    params := []
    pending := none
    column := if code = Ili9341.ramwr then c.startColumn else c.column
    page := if code = Ili9341.ramwr then c.startPage else c.page }

/-- One pixel written at the pointer, which then moves on in raster order within the window. -/
def writePixel (c : Controller) (pixel : Pixel) : Controller :=
  { c with
    memory := fun column page =>
      if column = c.column ∧ page = c.page then pixel else c.memory column page
    column := if c.column < c.endColumn then c.column + 1 else c.startColumn
    page := if c.column < c.endColumn then c.page
      else if c.page < c.endPage then c.page + 1 else c.startPage }

/-- A parameter byte of CASET or RASET: the fourth sets the start and the end address. -/
def receiveParam (c : Controller) (byte : UInt8) : Controller :=
  match c.params ++ [byte] with
  | [startHigh, startLow, endHigh, endLow] =>
      if c.command = Ili9341.caset then
        { c with
          params := [startHigh, startLow, endHigh, endLow]
          startColumn := address startHigh startLow
          endColumn := address endHigh endLow }
      else
        { c with
          params := [startHigh, startLow, endHigh, endLow]
          startPage := address startHigh startLow
          endPage := address endHigh endLow }
  | params => { c with params := params }

/-- A data byte: a parameter of CASET or RASET, half a pixel after RAMWR, or a parameter of
another command. -/
def receiveData (c : Controller) (byte : UInt8) : Controller :=
  if c.command = Ili9341.caset ∨ c.command = Ili9341.raset then c.receiveParam byte
  else if c.command = Ili9341.ramwr then
    match c.pending with
    | none => { c with pending := some byte }
    | some first => { c with pending := none }.writePixel (first, byte)
  else c

/-- A transfer: a command byte, or the bytes a data transfer puts on the wire. -/
def receive (c : Controller) (transfer : Transfer) : Controller :=
  match transfer with
  | .command code => c.receiveCommand code
  | .data .. => transfer.wireBytes.foldl receiveData c

/-- A sequence of transfers. -/
def run (c : Controller) (transfers : List Transfer) : Controller :=
  transfers.foldl receive c

/-- The pixels of a byte stream, two bytes each in the order sent; an odd last byte is
not a pixel. -/
def pixels : List UInt8 → List Pixel
  | first :: second :: rest => (first, second) :: pixels rest
  | _ => []

/-- What the pixels do to the memory, in the words of their purpose: pixels written in
raster order into a window `width` columns wide whose top left corner is `(column, page)`.
Pixel `k` lands in column `column + k % width` of page `page + k / width`, and every other
place keeps what it held. -/
def paint (memory : Nat → Nat → Pixel) (column page width : Nat) (pixels : List Pixel) :
    Nat → Nat → Pixel :=
  fun x y =>
    if column ≤ x ∧ x < column + width ∧ page ≤ y then
      (pixels[(y - page) * width + (x - column)]?).getD (memory x y)
    else memory x y

/-- After RAMWR, in a window of `width` columns and `height` pages whose top left corner is
`(column, page)`, with no half pixel pending, and the pointer at column `i` and page `j`
of the window. -/
structure Writing (c : Controller) (column page width height i j : Nat) : Prop where
  ramwr : c.command = Ili9341.ramwr
  noPending : c.pending = none
  startColumn : c.startColumn = column
  endColumn : c.endColumn + 1 = column + width
  startPage : c.startPage = page
  endPage : c.endPage + 1 = page + height
  pointerColumn : c.column = column + i
  pointerPage : c.page = page + j
  inColumn : i < width
  inPage : j < height

@[simp] theorem run_nil (c : Controller) : c.run [] = c := rfl

theorem run_append (c : Controller) (first second : List Transfer) :
    c.run (first ++ second) = (c.run first).run second :=
  List.foldl_append _ _ _ _

@[simp] theorem run_cons (c : Controller) (transfer : Transfer) (transfers : List Transfer) :
    c.run (transfer :: transfers) = (c.receive transfer).run transfers := rfl

@[simp] theorem receive_command (c : Controller) (code : UInt8) :
    c.receive (.command code) = c.receiveCommand code := rfl

@[simp] theorem receive_data (c : Controller) (buffer : List UInt8) (length : Nat) (flags : Flags) :
    c.receive (.data buffer length flags) = (buffer.take length).foldl receiveData c := rfl

/-- Data transfers in a row act as the one stream of their bytes. -/
theorem run_of_data (c : Controller) (transfers : List Transfer)
    (data : ∀ transfer ∈ transfers, ∃ buffer length flags, transfer = .data buffer length flags) :
    c.run transfers = (transfers.flatMap Transfer.wireBytes).foldl receiveData c := by
  induction transfers generalizing c with
  | nil => rfl
  | cons transfer transfers ih =>
      obtain ⟨buffer, length, flags, rfl⟩ := data _ (List.mem_cons_self _ _)
      rw [run_cons, receive_data, ih _ fun t mem => data t (List.mem_cons_of_mem _ mem),
        List.flatMap_cons, List.foldl_append]
      rfl

@[simp] theorem receiveCommand_startColumn (c : Controller) (code : UInt8) :
    (c.receiveCommand code).startColumn = c.startColumn := rfl

@[simp] theorem receiveCommand_endColumn (c : Controller) (code : UInt8) :
    (c.receiveCommand code).endColumn = c.endColumn := rfl

@[simp] theorem receiveCommand_startPage (c : Controller) (code : UInt8) :
    (c.receiveCommand code).startPage = c.startPage := rfl

@[simp] theorem receiveCommand_endPage (c : Controller) (code : UInt8) :
    (c.receiveCommand code).endPage = c.endPage := rfl

@[simp] theorem receiveCommand_memory (c : Controller) (code : UInt8) :
    (c.receiveCommand code).memory = c.memory := rfl

@[simp] theorem receiveCommand_ramwr_column (c : Controller) :
    (c.receiveCommand Ili9341.ramwr).column = c.startColumn := rfl

@[simp] theorem receiveCommand_ramwr_page (c : Controller) :
    (c.receiveCommand Ili9341.ramwr).page = c.startPage := rfl

@[simp] theorem writePixel_command (c : Controller) (pixel : Pixel) :
    (c.writePixel pixel).command = c.command := rfl

@[simp] theorem writePixel_pending (c : Controller) (pixel : Pixel) :
    (c.writePixel pixel).pending = c.pending := rfl

/-- After RAMWR the two bytes of a pixel write it. -/
theorem receiveData_pair {c : Controller} (ramwr : c.command = Ili9341.ramwr)
    (noPending : c.pending = none) (first second : UInt8) :
    (c.receiveData first).receiveData second = c.writePixel (first, second) := by
  obtain ⟨command, params, sc, ec, sp, ep, column, page, pending, memory⟩ := c
  simp only at ramwr noPending
  subst ramwr noPending
  have notParam : ¬(Ili9341.ramwr = Ili9341.caset ∨ Ili9341.ramwr = Ili9341.raset) := by decide
  simp only [receiveData, notParam, if_false, if_true]

/-- After RAMWR, an even byte stream writes its pixels. -/
theorem foldl_receiveData_of_ramwr (bytes : List UInt8) :
    ∀ (c : Controller), c.command = Ili9341.ramwr → c.pending = none → bytes.length % 2 = 0 →
      bytes.foldl receiveData c = (pixels bytes).foldl writePixel c := by
  induction bytes using pixels.induct with
  | case1 first second rest ih =>
      intro c ramwr noPending even
      rw [List.foldl_cons, List.foldl_cons, receiveData_pair ramwr noPending, pixels,
        List.foldl_cons]
      exact ih _ ramwr noPending (by simp at even; omega)
  | case2 bytes short =>
      intro c _ _ even
      match bytes, short with
      | [], _ => rfl
      | [_], _ => simp at even
      | first :: second :: rest, short => exact absurd rfl (short first second rest)

/-- Two raster positions of a window agree only if their columns and pages do. -/
theorem raster_injective {width x y i j : Nat} (inX : x < width) (inI : i < width)
    (same : y * width + x = j * width + i) : y = j ∧ x = i := by
  rcases Nat.lt_trichotomy y j with before | rfl | after
  · have : (y + 1) * width ≤ j * width := Nat.mul_le_mul_right _ before
    rw [Nat.succ_mul] at this
    omega
  · omega
  · have : (j + 1) * width ≤ y * width := Nat.mul_le_mul_right _ after
    rw [Nat.succ_mul] at this
    omega

/-- A pixel write moves the pointer one place in raster order: to the next column, or to
the first column of the next page. -/
theorem Writing.writePixel {c : Controller} {column page width height i j : Nat}
    (writing : c.Writing column page width height i j) (pixel : Pixel)
    (more : j * width + i + 1 < width * height) :
    ∃ i' j', (c.writePixel pixel).Writing column page width height i' j' ∧
      j' * width + i' = j * width + i + 1 := by
  obtain ⟨ramwr, noPending, startColumn, endColumn, startPage, endPage, pointerColumn,
    pointerPage, inColumn, inPage⟩ := writing
  by_cases sameRow : i + 1 < width
  · refine ⟨i + 1, j, ⟨ramwr, noPending, startColumn, endColumn, startPage, endPage, ?_,
      ?_, sameRow, inPage⟩, by omega⟩
    · simp only [Controller.writePixel, pointerColumn]
      split <;> omega
    · simp only [Controller.writePixel, pointerColumn, pointerPage]
      split <;> omega
  · have nextRow : j + 1 < height := by
      have below : (j + 1) * width < height * width := by
        rw [Nat.succ_mul, Nat.mul_comm height]
        omega
      exact Nat.lt_of_mul_lt_mul_right below
    refine ⟨0, j + 1, ⟨ramwr, noPending, startColumn, endColumn, startPage, endPage, ?_,
      ?_, by omega, nextRow⟩, by rw [Nat.succ_mul]; omega⟩
    · simp only [Controller.writePixel, pointerColumn]
      split <;> omega
    · simp only [Controller.writePixel, pointerColumn, pointerPage]
      split
      · omega
      · split <;> omega

/-- The memory after pixels are written from pixel `k` of a window on: place `k + n` of the
window holds pixel `n`, and every other place what it held. -/
def paintFrom (memory : Nat → Nat → Pixel) (column page width k : Nat) (pixels : List Pixel) :
    Nat → Nat → Pixel :=
  fun x y =>
    if column ≤ x ∧ x < column + width ∧ page ≤ y ∧ k ≤ (y - page) * width + (x - column) then
      (pixels[(y - page) * width + (x - column) - k]?).getD (memory x y)
    else memory x y

@[simp] theorem paintFrom_nil (memory : Nat → Nat → Pixel) (column page width k : Nat) :
    paintFrom memory column page width k [] = memory := by
  funext x y
  simp [paintFrom]

theorem paintFrom_zero (memory : Nat → Nat → Pixel) (column page width : Nat)
    (pixels : List Pixel) : paintFrom memory column page width 0 pixels =
      paint memory column page width pixels := by
  funext x y
  simp [paintFrom, paint]

/-- Writing one pixel at pixel `k` of the window, then the rest from `k + 1`, paints them
all from `k`. -/
theorem paintFrom_writePixel {c : Controller} {column page width height i j : Nat}
    (writing : c.Writing column page width height i j) (pixel : Pixel) (rest : List Pixel) :
    paintFrom (c.writePixel pixel).memory column page width (j * width + i + 1) rest =
      paintFrom c.memory column page width (j * width + i) (pixel :: rest) := by
  funext x y
  have here : x = c.column ∧ y = c.page ↔ column ≤ x ∧ x < column + width ∧ page ≤ y ∧
      (y - page) * width + (x - column) = j * width + i := by
    rw [writing.pointerColumn, writing.pointerPage]
    constructor
    · rintro ⟨rfl, rfl⟩
      have := writing.inColumn
      refine ⟨by omega, by omega, by omega, by simp⟩
    · rintro ⟨left, right, top, same⟩
      obtain ⟨rows, columns⟩ := raster_injective (by omega) writing.inColumn same
      omega
  have written : (c.writePixel pixel).memory x y =
      if x = c.column ∧ y = c.page then pixel else c.memory x y := rfl
  by_cases inside : column ≤ x ∧ x < column + width ∧ page ≤ y
  · obtain ⟨left, right, top⟩ := inside
    simp only [paintFrom, written, left, right, top, true_and]
    rcases Nat.lt_trichotomy ((y - page) * width + (x - column)) (j * width + i)
      with before | same | after
    · have miss : ¬(x = c.column ∧ y = c.page) := fun hit => by
        have := (here.mp hit).2.2.2
        omega
      simp only [if_neg (show ¬j * width + i + 1 ≤ (y - page) * width + (x - column) by omega),
        if_neg (show ¬j * width + i ≤ (y - page) * width + (x - column) by omega), if_neg miss]
    · simp only [if_neg (show ¬j * width + i + 1 ≤ (y - page) * width + (x - column) by omega),
        if_pos (show j * width + i ≤ (y - page) * width + (x - column) by omega),
        if_pos (here.mpr ⟨left, right, top, same⟩),
        show (y - page) * width + (x - column) - (j * width + i) = 0 by omega,
        List.getElem?_cons_zero, Option.getD_some]
    · have miss : ¬(x = c.column ∧ y = c.page) := fun hit => by
        have := (here.mp hit).2.2.2
        omega
      simp only [if_pos (show j * width + i + 1 ≤ (y - page) * width + (x - column) by omega),
        if_pos (show j * width + i ≤ (y - page) * width + (x - column) by omega), if_neg miss,
        show (y - page) * width + (x - column) - (j * width + i) =
          (y - page) * width + (x - column) - (j * width + i + 1) + 1 by omega,
        List.getElem?_cons_succ]
  · have miss : ¬(x = c.column ∧ y = c.page) := fun hit =>
      inside ⟨(here.mp hit).1, (here.mp hit).2.1, (here.mp hit).2.2.1⟩
    have outside (k : Nat) : ¬(column ≤ x ∧ x < column + width ∧ page ≤ y ∧
        k ≤ (y - page) * width + (x - column)) := fun ⟨a, b, c, _⟩ => inside ⟨a, b, c⟩
    simp only [paintFrom, written, if_neg (outside (j * width + i + 1)),
      if_neg (outside (j * width + i)), if_neg miss]

/-- Pixels written from pixel `k` of the window on, while they fit the window, land at
their raster places from `k`. -/
theorem writePixels_memory (pixels : List Pixel) :
    ∀ {c : Controller} {column page width height i j : Nat},
      c.Writing column page width height i j →
      j * width + i + pixels.length ≤ width * height →
      (pixels.foldl writePixel c).memory =
        paintFrom c.memory column page width (j * width + i) pixels := by
  induction pixels with
  | nil => intro c _ _ _ _ _ _ _ _; simp
  | cons pixel rest ih =>
      intro c column page width height i j writing fits
      rw [List.foldl_cons, ← paintFrom_writePixel writing]
      cases rest with
      | nil => simp
      | cons next rest =>
          obtain ⟨i', j', writing', index⟩ := writing.writePixel pixel (by simp at fits; omega)
          rw [ih writing' (by simp at fits ⊢; omega), index]

@[simp] theorem pixels_length (bytes : List UInt8) : (pixels bytes).length = bytes.length / 2 := by
  induction bytes using pixels.induct with
  | case1 first second rest ih => simp [pixels, ih]; omega
  | case2 bytes short =>
      match bytes, short with
      | [], _ => rfl
      | [_], _ => simp [pixels]
      | first :: second :: rest, short => exact absurd rfl (short first second rest)

theorem pixels_take (bytes : List UInt8) (n : Nat) :
    pixels (bytes.take (2 * n)) = (pixels bytes).take n := by
  induction bytes using pixels.induct generalizing n with
  | case1 first second rest ih =>
      cases n with
      | zero => rfl
      | succ n =>
          rw [show 2 * (n + 1) = 2 * n + 1 + 1 by omega, List.take_succ_cons, List.take_succ_cons,
            pixels, pixels, List.take_succ_cons, ih]
  | case2 bytes short =>
      match bytes, short with
      | [], _ => simp [pixels]
      | [_], _ => cases n <;> rfl
      | first :: second :: rest, short => exact absurd rfl (short first second rest)

theorem pixels_replicate (byte : UInt8) (n : Nat) :
    pixels (List.replicate (2 * n) byte) = List.replicate n (byte, byte) := by
  induction n with
  | zero => rfl
  | succ n ih =>
      rw [show 2 * (n + 1) = 2 * n + 1 + 1 by omega, List.replicate_succ, List.replicate_succ,
        pixels, ih, List.replicate_succ]

/-- The bytes `(v >> 8) & 0xFF` and `v & 0xFF` read back as the address `v`. -/
theorem address_addressBytes {v : Nat} (small : v < 2 ^ 16) :
    address (UInt8.ofNat ((v >>> 8) &&& 0xFF)) (UInt8.ofNat (v &&& 0xFF)) = v := by
  have toNat (n : Nat) : (UInt8.ofNat n).toNat = n % 256 := rfl
  rw [address, toNat, toNat, Ili9341.shiftRight_and_ff small, Ili9341.and_ff]
  omega

/-- CASET and the address bytes of two addresses set the columns of the window. -/
theorem caset_addressBytes (c : Controller) {start finish : Nat} (smallStart : start < 2 ^ 16)
    (smallFinish : finish < 2 ^ 16) :
    ((Ili9341.addressBytes start finish).foldl receiveData
        (c.receiveCommand Ili9341.caset)).startColumn = start ∧
      ((Ili9341.addressBytes start finish).foldl receiveData
        (c.receiveCommand Ili9341.caset)).endColumn = finish ∧
      ((Ili9341.addressBytes start finish).foldl receiveData
        (c.receiveCommand Ili9341.caset)).memory = c.memory := by
  simp [Ili9341.addressBytes, receiveData, receiveCommand, receiveParam,
    address_addressBytes smallStart, address_addressBytes smallFinish]

/-- RASET and the address bytes of two addresses set the pages of the window and keep its
columns. -/
theorem raset_addressBytes (c : Controller) {start finish : Nat} (smallStart : start < 2 ^ 16)
    (smallFinish : finish < 2 ^ 16) :
    ((Ili9341.addressBytes start finish).foldl receiveData
        (c.receiveCommand Ili9341.raset)).startPage = start ∧
      ((Ili9341.addressBytes start finish).foldl receiveData
        (c.receiveCommand Ili9341.raset)).endPage = finish ∧
      ((Ili9341.addressBytes start finish).foldl receiveData
        (c.receiveCommand Ili9341.raset)).startColumn = c.startColumn ∧
      ((Ili9341.addressBytes start finish).foldl receiveData
        (c.receiveCommand Ili9341.raset)).endColumn = c.endColumn ∧
      ((Ili9341.addressBytes start finish).foldl receiveData
        (c.receiveCommand Ili9341.raset)).memory = c.memory := by
  have rasetCaset : Ili9341.raset ≠ Ili9341.caset := by decide
  simp [Ili9341.addressBytes, receiveData, receiveCommand, receiveParam, rasetCaset,
    address_addressBytes smallStart, address_addressBytes smallFinish]

/-- CASET and RASET with their four bytes each act as their parameter bytes after each
command. -/
theorem run_setWindow (c : Controller) (startX endX startY endY : Nat) :
    c.run (Ili9341.setWindow startX endX startY endY) =
      (Ili9341.addressBytes startY endY).foldl receiveData
        (((Ili9341.addressBytes startX endX).foldl receiveData
          (c.receiveCommand Ili9341.caset)).receiveCommand Ili9341.raset) := by
  rw [Ili9341.setWindow, run_cons, run_cons, run_cons, run_cons, run_nil, receive_command,
    receive_data, receive_command, receive_data]
  rfl

/-- CASET and RASET with their four bytes each, then RAMWR: the window is the one sent,
the pointer stands at its start, and the memory is as it was. -/
theorem writing_setWindow (c : Controller) {startX endX startY endY : Nat}
    (smallX : endX < 2 ^ 16) (smallY : endY < 2 ^ 16) (columns : startX ≤ endX)
    (rows : startY ≤ endY) :
    ((c.run (Ili9341.setWindow startX endX startY endY)).receiveCommand Ili9341.ramwr).Writing
        startX startY (endX + 1 - startX) (endY + 1 - startY) 0 0 ∧
      ((c.run (Ili9341.setWindow startX endX startY endY)).receiveCommand Ili9341.ramwr).memory =
        c.memory := by
  obtain ⟨startColumn, endColumn, memory⟩ := caset_addressBytes c (by omega : startX < 2 ^ 16) smallX
  obtain ⟨startPage, endPage, startColumn', endColumn', memory'⟩ := raset_addressBytes
    ((Ili9341.addressBytes startX endX).foldl receiveData (c.receiveCommand Ili9341.caset))
    (by omega : startY < 2 ^ 16) smallY
  rw [run_setWindow]
  refine ⟨⟨rfl, rfl, ?_, ?_, ?_, ?_, ?_, ?_, by omega, by omega⟩, ?_⟩ <;>
    simp only [receiveCommand_startColumn, receiveCommand_endColumn, receiveCommand_startPage,
      receiveCommand_endPage, receiveCommand_memory, receiveCommand_ramwr_column,
      receiveCommand_ramwr_page, startColumn', endColumn', startColumn, endColumn, startPage,
      endPage, memory', memory] <;> omega

/-- A window, RAMWR and `2 * n` bytes of a buffer paint the buffer's first `n` pixels in
raster order from the window's corner, as long as they fit the window. -/
theorem paint_window (c : Controller) {startX endX startY endY n : Nat}
    (smallX : endX < 2 ^ 16) (smallY : endY < 2 ^ 16) (columns : startX ≤ endX)
    (rows : startY ≤ endY) (buffer : List UInt8) (flags : Flags)
    (fits : n ≤ (endX + 1 - startX) * (endY + 1 - startY)) (enough : 2 * n ≤ buffer.length) :
    (c.run (Ili9341.setWindow startX endX startY endY ++
        [.command Ili9341.ramwr, .data buffer (2 * n) flags])).memory =
      paint c.memory startX startY (endX + 1 - startX) ((pixels buffer).take n) := by
  obtain ⟨writing, memory⟩ := writing_setWindow c smallX smallY columns rows
  rw [run_append, run_cons, run_cons, run_nil, receive_command, receive_data,
    foldl_receiveData_of_ramwr _ _ writing.ramwr writing.noPending
      (by rw [List.length_take]; omega),
    writePixels_memory _ writing (by simp; omega), memory, Nat.zero_mul, Nat.zero_add,
    paintFrom_zero, pixels_take]

/-- The raster index of a place of the window lies below the window's size. -/
theorem Writing.index_lt {c : Controller} {column page width height i j : Nat}
    (writing : c.Writing column page width height i j) : j * width + i < width * height := by
  have below : (j + 1) * width ≤ height * width := Nat.mul_le_mul_right _ writing.inPage
  rw [Nat.succ_mul, Nat.mul_comm height] at below
  have := writing.inColumn
  omega

/-- A pixel write at the last place of the window moves the pointer back to its first. -/
theorem Writing.writePixel_last {c : Controller} {column page width height i j : Nat}
    (writing : c.Writing column page width height i j) (pixel : Pixel)
    (last : j * width + i + 1 = width * height) :
    (c.writePixel pixel).Writing column page width height 0 0 := by
  obtain ⟨ramwr, noPending, startColumn, endColumn, startPage, endPage, pointerColumn,
    pointerPage, inColumn, inPage⟩ := writing
  obtain ⟨h, rfl⟩ : ∃ h, height = h + 1 := ⟨height - 1, by omega⟩
  have corner := @raster_injective width i j (width - 1) h inColumn (by omega)
    (by rw [Nat.mul_comm width, Nat.succ_mul] at last; omega)
  refine ⟨ramwr, noPending, startColumn, endColumn, startPage, endPage, ?_, ?_, by omega,
    by omega⟩
  · simp only [Controller.writePixel, pointerColumn]
    split <;> omega
  · simp only [Controller.writePixel, pointerColumn, pointerPage]
    split
    · omega
    · split <;> omega

/-- A pixel write moves the pointer one place in raster order, from the last place of the
window back to its first. -/
theorem Writing.writePixel_mod {c : Controller} {column page width height i j : Nat}
    (writing : c.Writing column page width height i j) (pixel : Pixel) :
    ∃ i' j', (c.writePixel pixel).Writing column page width height i' j' ∧
      j' * width + i' = (j * width + i + 1) % (width * height) := by
  by_cases more : j * width + i + 1 < width * height
  · obtain ⟨i', j', writing', index⟩ := writing.writePixel pixel more
    exact ⟨i', j', writing', index.trans (Nat.mod_eq_of_lt more).symm⟩
  · have last : j * width + i + 1 = width * height := by
      have := writing.index_lt
      omega
    exact ⟨0, 0, writing.writePixel_last pixel last, by rw [last, Nat.mod_self, Nat.zero_mul]⟩

/-- After `n` pixel writes the pointer stands `n` places further in raster order, counted
round the window. -/
theorem Writing.foldl_writePixel (pixels : List Pixel) :
    ∀ {c : Controller} {column page width height i j : Nat},
      c.Writing column page width height i j →
      ∃ i' j', (pixels.foldl Controller.writePixel c).Writing column page width height i' j' ∧
        j' * width + i' = (j * width + i + pixels.length) % (width * height) := by
  induction pixels with
  | nil => exact fun writing => ⟨_, _, writing, (Nat.mod_eq_of_lt writing.index_lt).symm⟩
  | cons pixel rest ih =>
      intro c column page width height i j writing
      obtain ⟨i', j', writing', index⟩ := writing.writePixel_mod pixel
      obtain ⟨i'', j'', writing'', index'⟩ := ih writing'
      refine ⟨i'', j'', writing'', ?_⟩
      rw [index', index, Nat.mod_add_mod, List.length_cons, Nat.add_assoc, Nat.add_comm 1]

/-- Painting a prefix of the same pixels again changes nothing. -/
theorem paint_paint_take (memory : Nat → Nat → Pixel) (column page width : Nat)
    (pixels : List Pixel) (n : Nat) :
    paint (paint memory column page width pixels) column page width (pixels.take n) =
      paint memory column page width pixels := by
  funext x y
  unfold paint
  split
  · rw [List.getElem?_take]
    split
    · cases pixels[(y - page) * width + (x - column)]? <;> rfl
    · rfl
  · rfl

/-- Writing `n` pixels of one color from the first place of the window: the first
`min n (width * height)` places get it, whether the stream stops inside the window or
runs round it. -/
theorem writePixels_replicate_memory (pixel : Pixel) (n : Nat) :
    ∀ {c : Controller} {column page width height : Nat},
      c.Writing column page width height 0 0 →
      ((List.replicate n pixel).foldl writePixel c).memory =
        paint c.memory column page width (List.replicate (min n (width * height)) pixel) := by
  induction n using Nat.strong_induction_on with
  | _ n ih =>
      intro c column page width height writing
      have first (m : Nat) (fits : m ≤ width * height) :
          ((List.replicate m pixel).foldl writePixel c).memory =
            paint c.memory column page width (List.replicate m pixel) := by
        rw [writePixels_memory _ writing (by simpa using fits), Nat.zero_mul, paintFrom_zero]
      by_cases fits : n ≤ width * height
      · rw [first n fits, Nat.min_eq_left fits]
      · obtain ⟨i, j, writing', index⟩ :=
          writing.foldl_writePixel (List.replicate (width * height) pixel)
        have positive : 0 < width * height := Nat.mul_pos (by have := writing.inColumn; omega)
          (by have := writing.inPage; omega)
        rw [List.length_replicate, Nat.zero_mul, Nat.zero_add, Nat.mod_self] at index
        obtain ⟨rfl, rfl⟩ : i = 0 ∧ j = 0 := by
          have := writing'.inColumn
          have := Nat.mul_eq_zero.mp (show j * width = 0 by omega)
          omega
        rw [show n = width * height + (n - width * height) by omega, List.replicate_add,
          List.foldl_append, ih _ (by omega) writing', first _ le_rfl, ← List.take_replicate,
          paint_paint_take, Nat.min_eq_right (by omega)]

/-- A window, RAMWR and `2 * n` bytes of one value paint the first `min n (W * H)` places
of the window with it, however long the stream. -/
theorem paint_window_replicate (c : Controller) {startX endX startY endY : Nat}
    (smallX : endX < 2 ^ 16) (smallY : endY < 2 ^ 16) (columns : startX ≤ endX)
    (rows : startY ≤ endY) (byte : UInt8) (n : Nat) (flags : Flags) :
    (c.run (Ili9341.setWindow startX endX startY endY ++
        [.command Ili9341.ramwr, .data (List.replicate (2 * n) byte) (2 * n) flags])).memory =
      paint c.memory startX startY (endX + 1 - startX)
        (List.replicate (min n ((endX + 1 - startX) * (endY + 1 - startY))) (byte, byte)) := by
  obtain ⟨writing, memory⟩ := writing_setWindow c smallX smallY columns rows
  rw [run_append, run_cons, run_cons, run_nil, receive_command, receive_data, List.take_replicate,
    Nat.min_self, foldl_receiveData_of_ramwr _ _ writing.ramwr writing.noPending (by simp),
    pixels_replicate, writePixels_replicate_memory _ _ writing, memory]

end Controller

namespace Ili9341

open Controller

/-- A value of `[0, 2^16)` converts to `uint16_t` unchanged. -/
theorem toUInt16_of_lt {value : Int} (nonneg : 0 ≤ value) (small : value < 2 ^ 16) :
    toUInt16 value = value.toNat := by
  rw [toUInt16, Int.emod_eq_of_lt nonneg small]

/-- One side of a window whose ends, shifted by an offset, lie in `[0, 2^16)`: the
`uint16_t` addresses the driver sends for it, and the number of addresses it spans. -/
theorem toUInt16_ends {first last offset : Int} (ordered : first ≤ last)
    (left : 0 ≤ first + offset) (right : last + offset < 2 ^ 16) :
    toUInt16 (first + offset) = (first + offset).toNat ∧
      toUInt16 (last + offset) = (last + offset).toNat ∧
      (first + offset).toNat ≤ (last + offset).toNat ∧ (last + offset).toNat < 2 ^ 16 ∧
      (last + offset).toNat + 1 - (first + offset).toNat = (last - first + 1).toNat := by
  refine ⟨toUInt16_of_lt left (by omega), toUInt16_of_lt (by omega) right, by omega, by omega,
    by omega⟩

/-- Within the limits where LVGL's width and height and twice their product fit their
types, `fill` announces `2 * W * H` bytes. -/
theorem fill_length {coordBits : Nat} {area : LvArea} (columns : area.x1 ≤ area.x2)
    (rows : area.y1 ≤ area.y2) (wide : area.x2 - area.x1 + 1 < 2 ^ (coordBits - 1))
    (tall : area.y2 - area.y1 + 1 < 2 ^ (coordBits - 1))
    (fits : 2 * ((area.x2 - area.x1 + 1) * (area.y2 - area.y1 + 1)) < 2 ^ 32) :
    toUInt32 (toUInt32 (lvAreaGetWidth coordBits area * lvAreaGetHeight coordBits area) * 2) =
      2 * ((area.x2 - area.x1 + 1).toNat * (area.y2 - area.y1 + 1).toNat) := by
  have product : (((area.x2 - area.x1 + 1).toNat * (area.y2 - area.y1 + 1).toNat : Nat) : Int) =
      (area.x2 - area.x1 + 1) * (area.y2 - area.y1 + 1) := by
    rw [Int.natCast_mul, Int.toNat_of_nonneg (by omega), Int.toNat_of_nonneg (by omega)]
  rw [lvAreaGetWidth, lvAreaGetHeight, bmod_eq_self (by omega) wide, bmod_eq_self (by omega) tall,
    ← product]
  rw [← product] at fits
  unfold toUInt32
  omega

/-- `fill` paints the flushed area: for a well-formed area whose shifted corners lie in
`[0, 2^16)` and a color map of `2 * W * H` bytes or more, the memory holds the map's first
`W * H` pixels in raster order in the area, and what it held everywhere else. -/
theorem fill_paints_area (d : Ili9341) (coordBits : Nat) (area : LvArea) (colorMap : List UInt8)
    (flags : Flags) (c : Controller) (columns : area.x1 ≤ area.x2) (rows : area.y1 ≤ area.y2)
    (wide : area.x2 - area.x1 + 1 < 2 ^ (coordBits - 1))
    (tall : area.y2 - area.y1 + 1 < 2 ^ (coordBits - 1))
    (fits : 2 * ((area.x2 - area.x1 + 1) * (area.y2 - area.y1 + 1)) < 2 ^ 32)
    (left : 0 ≤ area.x1 + d.offsetX) (right : area.x2 + d.offsetX < 2 ^ 16)
    (top : 0 ≤ area.y1 + d.offsetY) (bottom : area.y2 + d.offsetY < 2 ^ 16)
    (enough : 2 * ((area.x2 - area.x1 + 1) * (area.y2 - area.y1 + 1)) ≤ colorMap.length) :
    (c.run (d.fill coordBits area colorMap flags)).memory =
      paint c.memory (area.x1 + d.offsetX).toNat (area.y1 + d.offsetY).toNat
        (area.x2 - area.x1 + 1).toNat
        ((pixels colorMap).take ((area.x2 - area.x1 + 1).toNat * (area.y2 - area.y1 + 1).toNat)) := by
  obtain ⟨startX, endX, columns', smallX, width⟩ := toUInt16_ends columns left right
  obtain ⟨startY, endY, rows', smallY, height⟩ := toUInt16_ends rows top bottom
  have product : (((area.x2 - area.x1 + 1).toNat * (area.y2 - area.y1 + 1).toNat : Nat) : Int) =
      (area.x2 - area.x1 + 1) * (area.y2 - area.y1 + 1) := by
    rw [Int.natCast_mul, Int.toNat_of_nonneg (by omega), Int.toNat_of_nonneg (by omega)]
  rw [← product] at enough
  simp only [fill, startX, endX, startY, endY, fill_length columns rows wide tall fits]
  rw [paint_window c smallX smallY columns' rows' colorMap flags (by rw [width, height])
    (by omega), width]

/-- A controller whose memory holds zero bytes everywhere and whose window is the one pixel
at the origin. -/
def blank : Controller := ⟨0, [], 0, 0, 0, 0, 0, 0, none, fun _ _ => (0, 0)⟩

/-- Two pixels of one row at the origin with 16-bit `lv_coord_t`: the second pixel of the
color map lands at column 1 of page 0, and column 2 is left alone. -/
theorem fill_paints_row_of_two :
    (blank.run ((⟨0, 0⟩ : Ili9341).fill 16 ⟨0, 0, 1, 0⟩ [1, 2, 3, 4])).memory 1 0 = (3, 4) ∧
      (blank.run ((⟨0, 0⟩ : Ili9341).fill 16 ⟨0, 0, 1, 0⟩ [1, 2, 3, 4])).memory 2 0 = (0, 0) := by
  rw [fill_paints_area ⟨0, 0⟩ 16 ⟨0, 0, 1, 0⟩ [1, 2, 3, 4] .none blank (by decide) (by decide)
    (by decide) (by decide) (by decide) (by decide) (by decide) (by decide) (by decide)
    (by decide)]
  decide

/-- Chunks of at most 4096 bytes of a buffer of one repeated byte put that byte on the wire,
as many times as their lengths add up to. -/
theorem flatMap_wireBytes_of_chunks {byte : UInt8} (transfers : List Transfer)
    (chunks : ∀ transfer ∈ transfers, ∃ length, transfer =
      .data (List.replicate 4096 byte) length .none ∧ 1 ≤ length ∧ length ≤ 4096) :
    transfers.flatMap Transfer.wireBytes =
      List.replicate (transfers.map Transfer.length).sum byte := by
  induction transfers with
  | nil => rfl
  | cons transfer transfers ih =>
      obtain ⟨length, rfl, -, atMost⟩ := chunks _ (List.mem_cons_self _ _)
      rw [List.flatMap_cons, ih fun t mem => chunks t (List.mem_cons_of_mem _ mem), List.map_cons,
        List.sum_cons, List.replicate_add, Transfer.wireBytes, List.take_replicate,
        Nat.min_eq_left atMost, Transfer.length]

/-- The transfers of `clear`, before its loop is run. -/
theorem clear_fst (d : Ili9341) (x y width height : Nat) (color : UInt16) :
    (d.clear x y width height color).1 =
      setWindow (toUInt16 (x + d.offsetX)) (toUInt16 ((x + width) + d.offsetX))
          (toUInt16 (y + d.offsetY)) (toUInt16 ((y + width) + d.offsetY)) ++
        .command ramwr ::
          (clearLoop (colorData color) (toUInt32 (width * height)) (2 ^ 21 + 1) 0).1 := rfl

/-- The transfers of `clear` act on the controller as its window, RAMWR and one transfer of
`2 * width * height` bytes of the color's low byte. -/
theorem run_clear (d : Ili9341) (x y width height : Nat) (color : UInt16) (c : Controller)
    (small : width * height < 2 ^ 31) :
    c.run (d.clear x y width height color).1 =
      c.run (setWindow (toUInt16 (x + d.offsetX)) (toUInt16 ((x + width) + d.offsetX))
          (toUInt16 (y + d.offsetY)) (toUInt16 ((y + width) + d.offsetY)) ++
        [.command ramwr, .data (List.replicate (2 * (width * height))
          (UInt8.ofNat (color.toNat % 256))) (2 * (width * height)) .none]) := by
  have size : toUInt32 (width * height) = width * height := by
    unfold toUInt32
    omega
  obtain ⟨-, chunks, sum⟩ := clearLoop_exact (colorData color) (size ▸ small) (2 ^ 21) 0
    (by rw [size]; unfold toUInt32; omega)
  have stream : (clearLoop (colorData color) (toUInt32 (width * height)) (2 ^ 21 + 1) 0).1.flatMap
      Transfer.wireBytes = List.replicate (2 * (width * height)) (UInt8.ofNat (color.toNat % 256)) := by
    rw [flatMap_wireBytes_of_chunks _ chunks, sum, size]
    rfl
  rw [clear_fst, run_append, run_append, run_cons, run_cons, run_cons, run_nil, receive_data,
    List.take_replicate, Nat.min_self, run_of_data _ _ fun t mem => by
      obtain ⟨length, rfl, -⟩ := chunks t mem
      exact ⟨_, _, _, rfl⟩, stream]

/-- What the stream of `clear` paints when the corners of its window lie in `[0, 2^16)`:
the first `min (width * height) ((width + 1) * (width + 1))` places of the square window
`width + 1` wide at the shifted corner. -/
theorem clear_memory (d : Ili9341) (x y width height : Nat) (color : UInt16) (c : Controller)
    (small : width * height < 2 ^ 31) (left : 0 ≤ x + d.offsetX)
    (right : x + width + d.offsetX < 2 ^ 16) (top : 0 ≤ y + d.offsetY)
    (bottom : y + width + d.offsetY < 2 ^ 16) :
    (c.run (d.clear x y width height color).1).memory =
      paint c.memory (x + d.offsetX).toNat (y + d.offsetY).toNat (width + 1)
        (List.replicate (min (width * height) ((width + 1) * (width + 1)))
          (UInt8.ofNat (color.toNat % 256), UInt8.ofNat (color.toNat % 256))) := by
  have span (z : Nat) : ((z : Int) + width - z + 1).toNat = width + 1 := by omega
  obtain ⟨startX, endX, columns, smallX, columnCount⟩ :=
    toUInt16_ends (by omega : (x : Int) ≤ x + width) left right
  obtain ⟨startY, endY, rows, smallY, pageCount⟩ :=
    toUInt16_ends (by omega : (y : Int) ≤ y + width) top bottom
  rw [run_clear d x y width height color c small, startX, endX, startY, endY,
    paint_window_replicate c smallX smallY columns rows, columnCount, pageCount, span, span]

/-- What `clear` paints below `2^31` pixels: what one transfer of the low byte would. When the
stream fits the window and its corners lie in `[0, 2^16)`, the `width * height` pixels go in
raster order into a window one column wider than asked, and all else is as it was. -/
theorem clear_paints_wide_window (d : Ili9341) (x y width height : Nat) (color : UInt16)
    (c : Controller) (small : width * height < 2 ^ 31) :
    c.run (d.clear x y width height color).1 =
        c.run (setWindow (toUInt16 (x + d.offsetX)) (toUInt16 ((x + width) + d.offsetX))
            (toUInt16 (y + d.offsetY)) (toUInt16 ((y + width) + d.offsetY)) ++
          [.command ramwr, .data (List.replicate (2 * (width * height))
            (UInt8.ofNat (color.toNat % 256))) (2 * (width * height)) .none]) ∧
      (width * height ≤ (width + 1) * (width + 1) → 0 ≤ x + d.offsetX →
        x + width + d.offsetX < 2 ^ 16 → 0 ≤ y + d.offsetY → y + width + d.offsetY < 2 ^ 16 →
        (c.run (d.clear x y width height color).1).memory =
          paint c.memory (x + d.offsetX).toNat (y + d.offsetY).toNat (width + 1)
            (List.replicate (width * height)
              (UInt8.ofNat (color.toNat % 256), UInt8.ofNat (color.toNat % 256)))) := by
  refine ⟨run_clear d x y width height color c small, fun fits left right top bottom => ?_⟩
  rw [clear_memory d x y width height color c small left right top bottom, Nat.min_eq_left fits]

/-- A 2 by 2 clear of `0x1234` at the origin with no offsets: column 2 of the first row, outside
the rectangle, gets `0x34 0x34`, and column 1 of the second row, inside it, is left alone. -/
theorem clear_paints_outside_rectangle :
    (blank.run ((⟨0, 0⟩ : Ili9341).clear 0 0 2 2 0x1234).1).memory 2 0 = (0x34, 0x34) ∧
      (blank.run ((⟨0, 0⟩ : Ili9341).clear 0 0 2 2 0x1234).1).memory 1 1 = (0, 0) := by
  rw [(clear_paints_wide_window ⟨0, 0⟩ 0 0 2 2 0x1234 blank (by decide)).2 (by decide) (by decide)
    (by decide) (by decide) (by decide)]
  decide

/-- `clear` of an area taller than wide paints the `width + 1` square it programs: every place
of the square holds the low byte twice and every other place what it held, the rows below
included, since the stream runs round the square. -/
theorem clear_paints_square_window (d : Ili9341) (x y width height : Nat) (color : UInt16)
    (c : Controller) (small : width * height < 2 ^ 31)
    (tall : (width + 1) * (width + 1) ≤ width * height) (left : 0 ≤ x + d.offsetX)
    (right : x + width + d.offsetX < 2 ^ 16) (top : 0 ≤ y + d.offsetY)
    (bottom : y + width + d.offsetY < 2 ^ 16) :
    (c.run (d.clear x y width height color).1).memory =
      paint c.memory (x + d.offsetX).toNat (y + d.offsetY).toNat (width + 1)
        (List.replicate ((width + 1) * (width + 1))
          (UInt8.ofNat (color.toNat % 256), UInt8.ofNat (color.toNat % 256))) := by
  rw [clear_memory d x y width height color c small left right top bottom, Nat.min_eq_right tall]

/-- A 1 by 5 clear of `0x1234` at the origin with no offsets paints the 2 by 2 square:
column 1 of page 1 gets `0x34 0x34`, and page 2 is left alone. -/
theorem clear_paints_two_by_two :
    (blank.run ((⟨0, 0⟩ : Ili9341).clear 0 0 1 5 0x1234).1).memory 1 1 = (0x34, 0x34) ∧
      (blank.run ((⟨0, 0⟩ : Ili9341).clear 0 0 1 5 0x1234).1).memory 0 2 = (0, 0) := by
  rw [clear_paints_square_window ⟨0, 0⟩ 0 0 1 5 0x1234 blank (by decide) (by decide) (by decide)
    (by decide) (by decide) (by decide)]
  decide

end Ili9341

end Espp
