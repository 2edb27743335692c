import Mathlib.Data.List.Basic

/-!
# The NVS handle

This file embeds `espp::NVSHandle`: a handle on one namespace of ESP-IDF's non-volatile
storage, with `get`, `set` and `commit` for integers, `bool` and `std::string`, each
reporting through a `std::error_code` passed by reference.

ESP-IDF's `nvs::NVSHandle` is not part of the repository and is modelled by its
documented contract. A namespace maps keys to typed items. Reading an item with another
type fails with `ESP_ERR_NVS_TYPE_MISMATCH`, and so does writing over an item of another
type. A string is stored up to its first NUL, and its item size counts the terminating NUL.
Any call may also fail for reasons the model does not see, a flash error or a full
partition; that failure is an input, `fault`, of every call.

A `const char*` is the memory it points into, from the pointer to the end of its object;
the string it denotes stops at the first NUL. A call that dereferences the empty handle is
undefined behaviour, and is an outcome of its own.
-/

namespace Espp

namespace Nvs

/-- The characters of a C string: up to the first NUL. -/
def cString (chars : List Char) : List Char := chars.takeWhile (· ≠ '\x00')

/-- `strlen`. -/
def strlen (chars : List Char) : Nat := (cString chars).length

/-- The integer types `get` and `set` are instantiated with. -/
inductive IntType
  | u8 | i8 | u16 | i16 | u32 | i32 | u64 | i64
  deriving DecidableEq, Repr

/-- A stored item: an integer of its type, or a string (`ItemType::SZ`). -/
inductive Item
  | int (type : IntType) (value : Int)
  | sz (chars : List Char)
  deriving DecidableEq, Repr

/-- The `esp_err_t` failures of the NVS calls, as far as the wrapper tells them apart. -/
inductive EspErr
  /-- `ESP_ERR_NVS_NOT_FOUND`. -/
  | notFound
  /-- `ESP_ERR_NVS_TYPE_MISMATCH`. -/
  | typeMismatch
  /-- `ESP_ERR_NVS_INVALID_LENGTH`. -/
  | invalidLength
  /-- Any other failure. -/
  | other (code : Nat)
  deriving DecidableEq, Repr

/-- `NvsErrc`, the errors the wrapper reports. -/
inductive NvsErrc
  | namespaceLengthTooLong
  | openNvsHandleFailed
  | keyLengthTooLong
  | keyNotFound
  | readNvsFailed
  | writeNvsFailed
  | commitNvsFailed
  deriving DecidableEq, Repr

/-- An open `nvs::NVSHandle`: the items of its namespace. -/
structure Namespace where
  items : List Char → Option Item

namespace Namespace

/-- Store `item` under `key`, unless an item of another kind is there. -/
def store (ns : Namespace) (key : List Char) (item : Item) (sameKind : Item → Bool)
    (fault : Option EspErr) : Except EspErr Namespace :=
  match fault, ns.items key with
  | some err, _ => .error err
  | none, some old => if sameKind old then .ok ⟨Function.update ns.items key (some item)⟩
      else .error .typeMismatch
  | none, none => .ok ⟨Function.update ns.items key (some item)⟩

/-- `get_item` for an integer type. -/
def getItem (ns : Namespace) (type : IntType) (key : List Char) (fault : Option EspErr) :
    Except EspErr Int :=
  match fault, ns.items key with
  | some err, _ => .error err
  | none, none => .error .notFound
  | none, some (.int type' value) => if type' = type then .ok value else .error .typeMismatch
  | none, some (.sz _) => .error .typeMismatch

/-- Whether an item is an integer of `type`. -/
def isInt (type : IntType) : Item → Bool
  | .int type' _ => type' = type
  | .sz _ => false

/-- Whether an item is a string. -/
def isSz : Item → Bool
  | .int _ _ => false
  | .sz _ => true

/-- `set_item` for an integer type. -/
def setItem (ns : Namespace) (type : IntType) (key : List Char) (value : Int)
    (fault : Option EspErr) : Except EspErr Namespace :=
  ns.store key (.int type value) (isInt type) fault

/-- `get_item_size(ItemType::SZ, ...)`: a string's length with its terminating NUL. -/
def getItemSize (ns : Namespace) (key : List Char) (fault : Option EspErr) : Except EspErr Nat :=
  match fault, ns.items key with
  | some err, _ => .error err
  | none, none => .error .notFound
  | none, some (.sz chars) => .ok (chars.length + 1)
  | none, some (.int _ _) => .error .typeMismatch

/-- `get_string` into a buffer of `length` bytes: the bytes it writes, NUL included. -/
def getString (ns : Namespace) (key : List Char) (length : Nat) (fault : Option EspErr) :
    Except EspErr (List Char) :=
  match fault, ns.items key with
  | some err, _ => .error err
  | none, none => .error .notFound
  | none, some (.sz chars) =>
      if chars.length + 1 ≤ length then .ok (chars ++ ['\x00']) else .error .invalidLength
  | none, some (.int _ _) => .error .typeMismatch

/-- `set_string`: the C string at `value` is stored. -/
def setString (ns : Namespace) (key : List Char) (value : List Char) (fault : Option EspErr) :
    Except EspErr Namespace :=
  ns.store key (.sz (cString value)) isSz fault

/-- `commit`: the items stay as they are. -/
def commit (fault : Option EspErr) : Except EspErr Unit :=
  match fault with
  | some err => .error err
  | none => .ok ()

end Namespace

/-- What a call of the wrapper does: it returns, or it dereferences the empty `handle`. -/
inductive Outcome (α : Type)
  | returns (result : α)
  | nullDereference
  deriving DecidableEq, Repr

/-- The outcome of a call applied to what it returns. -/
def Outcome.map {α β : Type} (f : α → β) : Outcome α → Outcome β
  | .returns result => .returns (f result)
  | .nullDereference => .nullDereference

/-- An `espp::NVSHandle`: its `std::unique_ptr<nvs::NVSHandle>`, empty or open. -/
structure NVSHandle where
  handle : Option Namespace

/-- A `std::string_view`: the memory it points into, from `data()` on, and its `size()`. -/
structure StringView where
  memory : List Char
  size : Nat
  size_le : size ≤ memory.length

namespace NVSHandle

/-- The constructor: `opened` is what `open_nvs_handle` does, an open namespace or a
failure, which leaves the pointer empty. On success `ec` is left as it was. -/
def create (nsName : List Char) (ec : Option NvsErrc) (opened : Except EspErr Namespace) :
    NVSHandle × Option NvsErrc :=
  if strlen nsName > 15 then (⟨none⟩, some .namespaceLengthTooLong)
  else
    match opened with
    | .ok ns => (⟨some ns⟩, ec)
    | .error _ => (⟨none⟩, some .openNvsHandleFailed)

/-- `check_key_length`. -/
def checkKeyLength (key : List Char) (ec : Option NvsErrc) : Option NvsErrc :=
  if strlen key > 15 then some .keyLengthTooLong else ec

/-- `get<T>(const char*, T&, ec)` for an integer type: the value after the call and `ec`. -/
def getInt (h : NVSHandle) (type : IntType) (key : List Char) (value : Int)
    (ec : Option NvsErrc) (fault : Option EspErr) : Outcome (Int × Option NvsErrc) :=
  let ec := checkKeyLength key ec
  if ec.isSome then .returns (value, ec)
  else
    match h.handle with
    | none => .nullDereference
    | some ns =>
        match ns.getItem type (cString key) fault with
        | .ok read => .returns (read, ec)
        | .error .notFound => .returns (value, some .keyNotFound)
        | .error _ => .returns (value, some .readNvsFailed)

/-- `get(const char*, bool&, ec)`: read a `uint8_t` and convert it. -/
def getBool (h : NVSHandle) (key : List Char) (value : Bool) (ec : Option NvsErrc)
    (fault : Option EspErr) : Outcome (Bool × Option NvsErrc) :=
  match h.getInt .u8 key (if value then 1 else 0) ec fault with
  | .returns (u8, ec) => .returns (if ec.isNone then decide (u8 ≠ 0) else value, ec)
  | .nullDereference => .nullDereference

/-- `get(const char*, std::string&, ec)`: `value` is resized to the item size, NUL
included, then `get_string` writes into it. `sizeFault` and `stringFault` are the faults
of the two NVS calls. -/
def getString (h : NVSHandle) (key : List Char) (value : List Char) (ec : Option NvsErrc)
    (sizeFault stringFault : Option EspErr) : Outcome (List Char × Option NvsErrc) :=
  let ec := checkKeyLength key ec
  if ec.isSome then .returns (value, ec)
  else
    match h.handle with
    | none => .nullDereference
    | some ns =>
        match ns.getItemSize (cString key) sizeFault with
        | .error _ => .returns (value, some .readNvsFailed)
        | .ok length =>
            let resized := value.take length ++ List.replicate (length - value.length) '\x00'
            match ns.getString (cString key) length stringFault with
            | .error _ => .returns (resized, some .readNvsFailed)
            | .ok written => .returns (written ++ resized.drop written.length, ec)

/-- `set<T>(const char*, T, ec)` for an integer type: the handle after the call and `ec`. -/
def setInt (h : NVSHandle) (type : IntType) (key : List Char) (value : Int)
    (ec : Option NvsErrc) (fault : Option EspErr) : Outcome (NVSHandle × Option NvsErrc) :=
  let ec := checkKeyLength key ec
  if ec.isSome then .returns (h, ec)
  else
    match h.handle with
    | none => .nullDereference
    | some ns =>
        match ns.setItem type (cString key) value fault with
        | .ok ns => .returns (⟨some ns⟩, ec)
        | .error _ => .returns (h, some .writeNvsFailed)

/-- `set(const char*, bool, ec)`: store the `uint8_t` 0 or 1. -/
def setBool (h : NVSHandle) (key : List Char) (value : Bool) (ec : Option NvsErrc)
    (fault : Option EspErr) : Outcome (NVSHandle × Option NvsErrc) :=
  h.setInt .u8 key (if value then 1 else 0) ec fault

/-- `set(const char*, const std::string&, ec)`: `set_string` with `value.data()`, which
`std::string` ends with a NUL. -/
def setString (h : NVSHandle) (key : List Char) (value : List Char) (ec : Option NvsErrc)
    (fault : Option EspErr) : Outcome (NVSHandle × Option NvsErrc) :=
  let ec := checkKeyLength key ec
  if ec.isSome then .returns (h, ec)
  else
    match h.handle with
    | none => .nullDereference
    | some ns =>
        match ns.setString (cString key) (value ++ ['\x00']) fault with
        | .ok ns => .returns (⟨some ns⟩, ec)
        | .error _ => .returns (h, some .writeNvsFailed)

/-- `commit`. -/
def commit (h : NVSHandle) (ec : Option NvsErrc) (fault : Option EspErr) :
    Outcome (Option NvsErrc) :=
  match h.handle with
  | none => .nullDereference
  | some _ =>
      match Namespace.commit fault with
      | .ok () => .returns ec
      | .error _ => .returns (some .commitNvsFailed)

/-- `get<T>(std::string_view, T&, ec)`: the `const char*` overload at `key.data()`. -/
def getIntView (h : NVSHandle) (type : IntType) (key : StringView) (value : Int)
    (ec : Option NvsErrc) (fault : Option EspErr) : Outcome (Int × Option NvsErrc) :=
  h.getInt type key.memory value ec fault

/-- `get(std::string_view, bool&, ec)`. -/
def getBoolView (h : NVSHandle) (key : StringView) (value : Bool) (ec : Option NvsErrc)
    (fault : Option EspErr) : Outcome (Bool × Option NvsErrc) :=
  h.getBool key.memory value ec fault

/-- `get(std::string_view, std::string&, ec)`. -/
def getStringView (h : NVSHandle) (key : StringView) (value : List Char) (ec : Option NvsErrc)
    (sizeFault stringFault : Option EspErr) : Outcome (List Char × Option NvsErrc) :=
  h.getString key.memory value ec sizeFault stringFault

/-- `set<T>(std::string_view, T, ec)`. -/
def setIntView (h : NVSHandle) (type : IntType) (key : StringView) (value : Int)
    (ec : Option NvsErrc) (fault : Option EspErr) : Outcome (NVSHandle × Option NvsErrc) :=
  h.setInt type key.memory value ec fault

/-- `set(std::string_view, bool, ec)`. -/
def setBoolView (h : NVSHandle) (key : StringView) (value : Bool) (ec : Option NvsErrc)
    (fault : Option EspErr) : Outcome (NVSHandle × Option NvsErrc) :=
  h.setBool key.memory value ec fault

/-- `set(std::string_view, const std::string&, ec)`. -/
def setStringView (h : NVSHandle) (key : StringView) (value : List Char) (ec : Option NvsErrc)
    (fault : Option EspErr) : Outcome (NVSHandle × Option NvsErrc) :=
  h.setString key.memory value ec fault

/-- The item stored under `key`, through an open handle. -/
def item (h : NVSHandle) (key : List Char) : Option Item :=
  h.handle.bind fun ns => ns.items key

end NVSHandle

end Nvs

end Espp
