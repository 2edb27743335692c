import Espp.Display.Ili9341

/-!
# The command table of `initialize`

`initialize` sends the controller a table of `LcdInitCmd` entries with `send_commands`,
which walks the table until an entry whose length byte is `0xff`. This file proves what the
walk sends for every table: each entry before the first sentinel, in order, as its command
byte, the first `length & 0x1F` bytes of its data and, iff `length & 0x80`, a 100 ms pause;
nothing for the sentinel or what follows it.

The walk's index is a `uint16_t`. A sentinel at index `2^16` or beyond is out of its reach:
the index wraps to 0 before it, and the walk repeats the first `2^16` entries forever. The
results are therefore stated for a table split at its first sentinel, and the split is
reached only when fewer than `2^16` entries come before it.

`LcdInitCmd` is declared in `display_drivers.hpp`, which is not among the sources; the model
keeps its three fields, with the data array as the list of its bytes.
-/

namespace Espp

/-- `display_drivers::LcdInitCmd`: a command byte, its data array, and a length byte whose
low five bits count the data bytes to send, whose bit 7 asks for a pause after them, and
whose value `0xff` ends a table. -/
structure LcdInitCmd where
  command : UInt8
  data : List UInt8
  length : UInt8
  deriving DecidableEq, Repr

/-- An entry as the table's brace initializer builds it: the listed data bytes, then zeros
up to the 16 bytes of the array. -/
def LcdInitCmd.ofList (command : UInt8) (data : List UInt8) (length : UInt8) : LcdInitCmd :=
  ⟨command, data ++ List.replicate (16 - data.length) 0, length⟩

/-- What the driver does, in order: a transfer on the LCD bus, or a pause of
`std::this_thread::sleep_for`, in milliseconds. -/
inductive BusStep
  | transfer (t : Transfer)
  | sleep (ms : Nat)
  deriving DecidableEq, Repr

/-- How a walk of `send_commands` ended. -/
inductive CommandsEnd
  /-- It met an entry with length `0xff` and returned. -/
  | returned
  /-- It was still walking when its rounds ran out. -/
  | running
  /-- Its index left the array: undefined behaviour. -/
  | pastEnd
  deriving DecidableEq, Repr

namespace Ili9341

/-- What `send_commands` does for one entry before the sentinel: `send_command` with its
command byte, `send_data` with `length & 0x1F` bytes of its data, and a 100 ms pause iff
`length & 0x80`. -/
def entrySteps (entry : LcdInitCmd) : List BusStep :=
  [.transfer (.command entry.command),
      .transfer (.data entry.data (entry.length &&& 0x1F).toNat .none)] ++
    if entry.length &&& 0x80 ≠ 0 then [.sleep 100] else []

/-- The `while` loop of `send_commands` from index `cmd`, for at most `fuel` rounds: what it
did and how it ended. `cmd` is a `uint16_t`, so `cmd++` wraps. -/
def sendCommandsLoop (commands : List LcdInitCmd) : Nat → UInt16 → List BusStep × CommandsEnd
  | 0, _ => ([], .running)
  | fuel + 1, cmd =>
      match commands[cmd.toNat]? with
      | none => ([], .pastEnd)
      | some entry =>
          if entry.length = 0xff then ([], .returned)
          else
            let rest := sendCommandsLoop commands fuel (cmd + 1)
            (entrySteps entry ++ rest.1, rest.2)

/-- `send_commands`: the loop from index 0. The index takes `2^16` values and the table does
not change, so a loop that has not returned after `2^16` rounds never does. -/
def sendCommands (commands : List LcdInitCmd) : List BusStep × CommandsEnd :=
  sendCommandsLoop commands (2 ^ 16) 0

/-- The `ili_init_cmds` table of `initialize`. -/
def iliInitCmds : List LcdInitCmd :=
  [.ofList 0xCF [0x00, 0x83, 0x30] 3,
    .ofList 0xED [0x64, 0x03, 0x12, 0x81] 4,
    .ofList 0xE8 [0x85, 0x01, 0x79] 3,
    .ofList 0xCB [0x39, 0x2C, 0x00, 0x34, 0x02] 5,
    .ofList 0xF7 [0x20] 1,
    .ofList 0xEA [0x00, 0x00] 2,
    .ofList 0xC0 [0x26] 1,
    .ofList 0xC1 [0x11] 1,
    .ofList 0xC5 [0x35, 0x3E] 2,
    .ofList 0xC7 [0xBE] 1,
    .ofList 0x36 [0x28] 1,
    .ofList 0x3A [0x55] 1,
    .ofList 0xB1 [0x00, 0x1B] 2,
    .ofList 0xF2 [0x08] 1,
    .ofList 0x26 [0x01] 1,
    .ofList 0xE0 [0x1F, 0x1A, 0x18, 0x0A, 0x0F, 0x06, 0x45, 0x87, 0x32, 0x0A, 0x07, 0x02, 0x07,
      0x05, 0x00] 15,
    .ofList 0xE1 [0x00, 0x25, 0x27, 0x05, 0x10, 0x09, 0x3A, 0x78, 0x4D, 0x05, 0x18, 0x0D, 0x38,
      0x3A, 0x1F] 15,
    .ofList 0x2A [0x00, 0x00, 0x00, 0xEF] 4,
    .ofList 0x2B [0x00, 0x00, 0x01, 0x3f] 4,
    .ofList 0x2C [0] 0,
    .ofList 0xB7 [0x07] 1,
    .ofList 0xB6 [0x0A, 0x82, 0x27, 0x00] 4,
    .ofList 0x11 [0] 0x80,
    .ofList 0x29 [0] 0x80,
    .ofList 0 [0] 0xff]

/-- The fields of `display_drivers::Config` that the drawing functions and the bus steps of
`initialize` depend on. -/
structure Config where
  offsetX : Int
  offsetY : Int
  invertColors : Bool
  deriving DecidableEq, Repr

/-- `initialize`: store the offsets, send the table, then INVON or INVOFF if the table walk
returned. -/
def init (config : Config) : Ili9341 × List BusStep × CommandsEnd :=
  let sent := sendCommands iliInitCmds
  (⟨config.offsetX, config.offsetY⟩,
    if sent.2 = .returned then
      sent.1 ++ [.transfer (.command (if config.invertColors then 0x21 else 0x20))]
    else sent.1,
    sent.2)

/-- An entry that is a sentinel ends the walk. -/
theorem sendCommandsLoop_sentinel {commands : List LcdInitCmd} {cmd : UInt16}
    {entry : LcdInitCmd} (read : commands[cmd.toNat]? = some entry)
    (sentinel : entry.length = 0xff) (fuel : Nat) :
    sendCommandsLoop commands (fuel + 1) cmd = ([], .returned) := by
  simp [sendCommandsLoop, read, sentinel]

/-- An entry that is not a sentinel is sent, and the walk goes on at the next index. -/
theorem sendCommandsLoop_entry {commands : List LcdInitCmd} {cmd : UInt16}
    {entry : LcdInitCmd} (read : commands[cmd.toNat]? = some entry)
    (notSentinel : entry.length ≠ 0xff) (fuel : Nat) :
    sendCommandsLoop commands (fuel + 1) cmd =
      (entrySteps entry ++ (sendCommandsLoop commands fuel (cmd + 1)).1,
        (sendCommandsLoop commands fuel (cmd + 1)).2) := by
  simp [sendCommandsLoop, read, notSentinel]

/-- The walk of a table split at its first sentinel, from an index at or before it, with
rounds enough: it sends the entries from the index up to the sentinel and returns. -/
theorem sendCommandsLoop_returns {pre post : List LcdInitCmd} {sentinel : LcdInitCmd}
    (noSentinel : ∀ entry ∈ pre, entry.length ≠ 0xff) (isSentinel : sentinel.length = 0xff)
    (fits : pre.length < 2 ^ 16) :
    ∀ (fuel : Nat) (cmd : UInt16), cmd.toNat ≤ pre.length → pre.length ≤ cmd.toNat + fuel →
      sendCommandsLoop (pre ++ sentinel :: post) (fuel + 1) cmd =
        ((pre.drop cmd.toNat).flatMap entrySteps, .returned) := by
  have atSentinel (fuel : Nat) (cmd : UInt16) (here : cmd.toNat = pre.length) :
      sendCommandsLoop (pre ++ sentinel :: post) (fuel + 1) cmd =
        ((pre.drop cmd.toNat).flatMap entrySteps, .returned) := by
    have read : (pre ++ sentinel :: post)[cmd.toNat]? = some sentinel := by
      rw [here, List.getElem?_append_right (Nat.le_refl _), Nat.sub_self,
        List.getElem?_cons_zero]
    rw [sendCommandsLoop_sentinel read isSentinel, here, List.drop_length,
      List.flatMap_nil]
  intro fuel
  induction fuel with
  | zero => exact fun cmd _ passed => atSentinel 0 cmd (by omega)
  | succ fuel ih =>
      intro cmd before passed
      rcases Nat.lt_or_eq_of_le before with inside | here
      · have next : (cmd + 1).toNat = cmd.toNat + 1 := by
          show (cmd.toNat + 1) % 2 ^ 16 = cmd.toNat + 1
          omega
        rw [sendCommandsLoop_entry
            (by rw [List.getElem?_append_left inside, List.getElem?_eq_getElem inside])
            (noSentinel _ (List.getElem_mem inside)),
          ih (cmd + 1) (by omega) (by omega), next, List.drop_eq_getElem_cons inside,
          List.flatMap_cons]
      · exact atSentinel (fuel + 1) cmd here

/-- When none of the first `2^16` entries is a sentinel, the walk never returns, whatever
the number of rounds: its index only reaches those entries. -/
theorem sendCommandsLoop_running {commands : List LcdInitCmd}
    (noSentinel : ∀ k < 2 ^ 16, ∃ entry, commands[k]? = some entry ∧ entry.length ≠ 0xff) :
    ∀ (fuel : Nat) (cmd : UInt16), (sendCommandsLoop commands fuel cmd).2 = .running := by
  intro fuel
  induction fuel with
  | zero => exact fun _ => rfl
  | succ fuel ih =>
      intro cmd
      obtain ⟨entry, read, notSentinel⟩ := noSentinel cmd.toNat (UInt16.toNat_lt_size cmd)
      rw [sendCommandsLoop_entry read notSentinel]
      exact ih (cmd + 1)

/-- `send_commands` emits its table up to the first sentinel: with fewer than `2^16` entries
before it, each entry's command byte, its first `length & 0x1F` data bytes and a pause iff
`length & 0x80`, then it returns; with more, the `uint16_t` index wraps and it never does. -/
theorem send_commands_emits_table (pre post : List LcdInitCmd) (sentinel : LcdInitCmd)
    (noSentinel : ∀ entry ∈ pre, entry.length ≠ 0xff) (isSentinel : sentinel.length = 0xff) :
    (pre.length < 2 ^ 16 →
      sendCommands (pre ++ sentinel :: post) = (pre.flatMap entrySteps, .returned)) ∧
    (2 ^ 16 ≤ pre.length →
      ∀ fuel, (sendCommandsLoop (pre ++ sentinel :: post) fuel 0).2 = .running) := by
  constructor
  · intro fits
    unfold sendCommands
    exact sendCommandsLoop_returns noSentinel isSentinel fits (2 ^ 16 - 1) 0 (Nat.zero_le _)
      (by rw [UInt16.toNat_zero]; omega)
  · intro long fuel
    refine sendCommandsLoop_running (fun k inside => ⟨pre[k], ?_, noSentinel _ (List.getElem_mem _)⟩)
      fuel 0
    rw [List.getElem?_append_left (by omega), List.getElem?_eq_getElem (by omega)]

/-- The table of `initialize`: the walk sends its 24 entries before the sentinel and
returns. -/
theorem send_commands_ili_init_cmds :
    (∀ entry ∈ iliInitCmds.take 24, entry.length ≠ 0xff) ∧
      (LcdInitCmd.ofList 0 [0] 0xff).length = 0xff ∧
      sendCommands (iliInitCmds.take 24 ++ [.ofList 0 [0] 0xff]) =
        ((iliInitCmds.take 24).flatMap entrySteps, .returned) :=
  ⟨by decide, rfl,
    (send_commands_emits_table (iliInitCmds.take 24) [] _ (by decide) rfl).1 (by decide)⟩

/-- A table of `2^16` NOPs, then the sentinel. -/
def nopsThenSentinel : List LcdInitCmd :=
  List.replicate (2 ^ 16) (.ofList 0x00 [] 0) ++ [.ofList 0 [] 0xff]

/-- The sentinel after `2^16` NOPs is out of reach: the table holds an entry with length
`0xff`, and the walk never returns. -/
theorem send_commands_misses_far_sentinel :
    LcdInitCmd.ofList 0 [] 0xff ∈ nopsThenSentinel ∧ (LcdInitCmd.ofList 0 [] 0xff).length = 0xff ∧
      ∀ fuel, (sendCommandsLoop nopsThenSentinel fuel 0).2 = .running :=
  ⟨List.mem_append_right _ (List.mem_singleton_self _), rfl,
    fun fuel => sendCommandsLoop_running (fun k inside =>
      ⟨.ofList 0x00 [] 0, by
        rw [nopsThenSentinel, List.getElem?_append_left (by rw [List.length_replicate]; exact inside),
          List.getElem?_replicate_of_lt inside], by decide⟩) fuel 0⟩

end Ili9341

end Espp
