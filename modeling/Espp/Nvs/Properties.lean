import Espp.Nvs.Handle

/-!
# Round trips and failures of the NVS handle

This file shows what `espp::NVSHandle` does with strings, with `std::string_view` keys and
with a handle whose construction failed. A string read back after it was written carries
the terminating NUL that the item size counts; a `string_view` key is read from its
`data()` up to the next NUL, past the end of the view; and every entry point of a handle
whose pointer is empty dereferences it once its own checks pass.

A failed `get` hands back the output it was given, except for strings: the `std::string`
overloads resize their output to the item size before `get_string`, and leave it so when
`get_string` fails.
-/

namespace Espp

namespace Nvs

theorem cString_append_nul (chars : List Char) : cString (chars ++ ['\x00']) = cString chars := by
  induction chars with
  | nil => rfl
  | cons c chars ih =>
      by_cases nul : c = '\x00'
      · simp [cString, List.takeWhile_cons, nul]
      · simpa [cString, List.takeWhile_cons, nul] using ih

namespace Namespace

/-- A successful store leaves the item under its key. -/
theorem store_items {ns ns' : Namespace} {key : List Char} {item : Item}
    {sameKind : Item → Bool} {fault : Option EspErr}
    (stored : ns.store key item sameKind fault = .ok ns') :
    ns'.items key = some item := by
  unfold store at stored
  split at stored
  · cases stored
  · split at stored
    · cases stored
      simp
    · cases stored
  · cases stored
    simp

end Namespace

namespace NVSHandle

/-- A `set` that leaves a clear `ec` clear checked a key of at most 15 characters on an
open handle. -/
theorem setString_returns {h h' : NVSHandle} {key value : List Char} {fault : Option EspErr}
    (set : h.setString key value none fault = .returns (h', none)) :
    strlen key ≤ 15 ∧ ∃ ns ns', h.handle = some ns ∧ h' = ⟨some ns'⟩ ∧
      ns'.items (cString key) = some (.sz (cString value)) := by
  unfold setString checkKeyLength at set
  split at set
  · simp at set
  · refine ⟨by omega, ?_⟩
    simp only [Option.isSome_none, Bool.false_eq_true, if_false] at set
    split at set
    · cases set
    · rename_i ns handle
      split at set
      · rename_i ns' stored
        cases set
        refine ⟨ns, ns', handle, rfl, ?_⟩
        rw [Namespace.store_items stored, cString_append_nul]
      · cases set

/-- A string read back after it was written carries its terminating NUL. For every handle,
key and string, once `set(key, value, ec)` has left a clear `ec` clear, `get(key, out, ec')`
with a clear `ec'` and no NVS failure yields the C string of `value` followed by a NUL,
whatever `out` held. -/
theorem get_after_set_string {h h' : NVSHandle} {key value : List Char} {fault : Option EspErr}
    (set : h.setString key value none fault = .returns (h', none)) (out : List Char) :
    h'.getString key out none none none = .returns (cString value ++ ['\x00'], none) := by
  obtain ⟨short, ns, ns', -, rfl, stored⟩ := setString_returns set
  have notLong : ¬strlen key > 15 := by omega
  have resized : (out.take ((cString value).length + 1) ++
      List.replicate ((cString value).length + 1 - out.length) '\x00').length =
        (cString value).length + 1 := by
    simp only [List.length_append, List.length_take, List.length_replicate]
    omega
  simp only [getString, checkKeyLength, notLong, if_false, Option.isSome_none,
    Bool.false_eq_true, Namespace.getItemSize, Namespace.getString, stored, le_refl, if_true]
  rw [List.drop_eq_nil_of_le (by simp [resized]), List.append_nil]

/-- Writing `"abc"` under `"k"` and reading it back gives `"abc\0"`. -/
theorem get_after_set_string_abc :
    (⟨some ⟨fun _ => none⟩⟩ : NVSHandle).setString ['k'] ['a', 'b', 'c'] none none =
        .returns (⟨some ⟨Function.update (fun _ => none) ['k'] (some (.sz ['a', 'b', 'c']))⟩⟩, none) ∧
      (⟨some ⟨Function.update (fun _ => none) ['k'] (some (.sz ['a', 'b', 'c']))⟩⟩ : NVSHandle).getString
        ['k'] [] none none none = .returns (['a', 'b', 'c', '\x00'], none) :=
  ⟨rfl, get_after_set_string (show (⟨some ⟨fun _ => none⟩⟩ : NVSHandle).setString ['k']
    ['a', 'b', 'c'] none none = .returns (⟨some ⟨Function.update (fun _ => none) ['k']
      (some (.sz ['a', 'b', 'c']))⟩⟩, none) from rfl) []⟩

/-- A `string_view` key is read from `data()` up to the next NUL, past the end of the view.
A view of the first two characters of `"abcd"` stores under `"abcd"` where the
`const char*` overload with the copy `"ab"` stores under `"ab"`; a view of 3 characters
into a buffer of 20 is rejected as too long where its copy is looked up. -/
theorem string_view_key_runs_past_view :
    ((⟨some ⟨fun _ => none⟩⟩ : NVSHandle).setIntView .u8
          ⟨['a', 'b', 'c', 'd', '\x00'], 2, by decide⟩ 7 none none).map
        (fun result => (result.1.item ['a', 'b'], result.1.item ['a', 'b', 'c', 'd'], result.2)) =
      .returns (none, some (.int .u8 7), none) ∧
    ((⟨some ⟨fun _ => none⟩⟩ : NVSHandle).setInt .u8 ['a', 'b', '\x00'] 7 none none).map
        (fun result => (result.1.item ['a', 'b'], result.1.item ['a', 'b', 'c', 'd'], result.2)) =
      .returns (some (.int .u8 7), none, none) ∧
    (⟨some ⟨fun _ => none⟩⟩ : NVSHandle).getIntView .u8
        ⟨List.replicate 20 'a' ++ ['\x00'], 3, by decide⟩ 0 none none =
      .returns (0, some .keyLengthTooLong) ∧
    (⟨some ⟨fun _ => none⟩⟩ : NVSHandle).getInt .u8 ['a', 'a', 'a', '\x00'] 0 none none =
      .returns (0, some .keyNotFound) := by
  decide

/-- An empty handle is dereferenced by every entry point once its own checks pass: `get`
and `set` of every kind with a key of at most 15 characters and a clear `ec`, and `commit`
whatever `ec` holds. -/
theorem empty_handle_dereferenced {h : NVSHandle} (empty : h.handle = none) {key : List Char}
    (short : strlen key ≤ 15) (type : IntType) (number : Int) (flag : Bool)
    (string : List Char) (fault sizeFault : Option EspErr) (ec : Option NvsErrc) :
    h.getInt type key number none fault = .nullDereference ∧
      h.getBool key flag none fault = .nullDereference ∧
      h.getString key string none sizeFault fault = .nullDereference ∧
      h.setInt type key number none fault = .nullDereference ∧
      h.setBool key flag none fault = .nullDereference ∧
      h.setString key string none fault = .nullDereference ∧
      h.commit ec fault = .nullDereference := by
  have notLong : ¬strlen key > 15 := by omega
  simp [getInt, getBool, getString, setInt, setBool, setString, commit, checkKeyLength, notLong,
    empty]

/-- A handle built on a 16-character namespace reports its error, then dereferences the empty
pointer on `get("k")` with a fresh `ec`, and on `commit`. -/
theorem empty_handle_dereferenced_long_namespace :
    (create (List.replicate 16 'n') none (.ok ⟨fun _ => none⟩)).2 = some .namespaceLengthTooLong ∧
      strlen ['k'] ≤ 15 ∧
      ((create (List.replicate 16 'n') none (.ok ⟨fun _ => none⟩)).1.getInt .u8 ['k'] 0 none none =
          .nullDereference ∧
        (create (List.replicate 16 'n') none (.ok ⟨fun _ => none⟩)).1.getBool ['k'] false none none =
          .nullDereference ∧
        (create (List.replicate 16 'n') none (.ok ⟨fun _ => none⟩)).1.getString ['k'] [] none none
          none = .nullDereference ∧
        (create (List.replicate 16 'n') none (.ok ⟨fun _ => none⟩)).1.setInt .u8 ['k'] 0 none none =
          .nullDereference ∧
        (create (List.replicate 16 'n') none (.ok ⟨fun _ => none⟩)).1.setBool ['k'] false none none =
          .nullDereference ∧
        (create (List.replicate 16 'n') none (.ok ⟨fun _ => none⟩)).1.setString ['k'] [] none none =
          .nullDereference ∧
        (create (List.replicate 16 'n') none (.ok ⟨fun _ => none⟩)).1.commit
          (some .namespaceLengthTooLong) none = .nullDereference) :=
  ⟨rfl, by decide, empty_handle_dereferenced rfl (by decide) .u8 0 false [] none none _⟩

/-- A `get` whose `ec` comes back set hands back its output as it came in. -/
def KeepsOutputOnError {α : Type} (get : α → Outcome (α × Option NvsErrc)) : Prop :=
  ∀ value value' err, get value = .returns (value', some err) → value' = value

/-- An integer `get` either reads the item and leaves `ec` clear, or returns its output
as given. -/
theorem getInt_returns {h : NVSHandle} {type : IntType} {key : List Char} {value value' : Int}
    {ec ec' : Option NvsErrc} {fault : Option EspErr}
    (got : h.getInt type key value ec fault = .returns (value', ec')) :
    value' = value ∨ ec' = none := by
  unfold getInt at got
  dsimp only at got
  split at got
  · cases got
    exact .inl rfl
  · rename_i clear
    split at got
    · cases got
    · split at got <;> cases got
      · exact .inr (Option.not_isSome_iff_eq_none.mp clear)
      all_goals exact .inl rfl

/-- A string `get` either writes the item and leaves `ec` clear, returns its output as
given, or, when `get_item_size` succeeded and `get_string` failed, returns it resized to the
item size. -/
theorem getString_returns {h : NVSHandle} {key value value' : List Char}
    {ec ec' : Option NvsErrc} {sizeFault stringFault : Option EspErr}
    (got : h.getString key value ec sizeFault stringFault = .returns (value', ec')) :
    ec' = none ∨ value' = value ∨ ∃ ns length, h.handle = some ns ∧
      ns.getItemSize (cString key) sizeFault = .ok length ∧
      value' = value.take length ++ List.replicate (length - value.length) '\x00' := by
  unfold getString at got
  dsimp only at got
  split at got
  · cases got
    exact .inr (.inl rfl)
  · rename_i clear
    split at got
    · cases got
    · rename_i ns handle
      split at got
      · cases got
        exact .inr (.inl rfl)
      · rename_i length size
        split at got <;> cases got
        · exact .inr (.inr ⟨ns, length, handle, size, rfl⟩)
        · exact .inl (Option.not_isSome_iff_eq_none.mp clear)

/-- The integer `get` keeps its output on error. -/
theorem keepsOutputOnError_getInt (h : NVSHandle) (type : IntType) (key : List Char)
    (ec : Option NvsErrc) (fault : Option EspErr) :
    KeepsOutputOnError fun value => h.getInt type key value ec fault :=
  fun _ _ err got => (getInt_returns got).resolve_right (Option.some_ne_none err)

/-- The `bool` `get` keeps its output on error: it converts the byte read only when `ec`
stays clear. -/
theorem keepsOutputOnError_getBool (h : NVSHandle) (key : List Char) (ec : Option NvsErrc)
    (fault : Option EspErr) : KeepsOutputOnError fun value => h.getBool key value ec fault := by
  intro value value' err got
  dsimp only [getBool] at got
  split at got
  · simp only [Outcome.returns.injEq, Prod.mk.injEq] at got
    obtain ⟨rfl, rfl⟩ := got
    rfl
  · cases got

/-- Failed reads hand the output back, except the `std::string` overloads when
`get_item_size` succeeded and `get_string` then failed: the output comes back resized to the
item size, four NULs for `"abc"` read into an empty string. -/
theorem get_output_on_error :
    (∀ (h : NVSHandle) type (key : List Char) ec fault,
      KeepsOutputOnError fun value => h.getInt type key value ec fault) ∧
    (∀ (h : NVSHandle) type (key : StringView) ec fault,
      KeepsOutputOnError fun value => h.getIntView type key value ec fault) ∧
    (∀ (h : NVSHandle) (key : List Char) ec fault,
      KeepsOutputOnError fun value => h.getBool key value ec fault) ∧
    (∀ (h : NVSHandle) (key : StringView) ec fault,
      KeepsOutputOnError fun value => h.getBoolView key value ec fault) ∧
    (∀ (h : NVSHandle) (key value : List Char) ec sizeFault stringFault value' err,
      h.getString key value ec sizeFault stringFault = .returns (value', some err) →
        value' = value ∨ ∃ ns length, h.handle = some ns ∧
          ns.getItemSize (cString key) sizeFault = .ok length ∧
          value' = value.take length ++ List.replicate (length - value.length) '\x00') ∧
    (∀ (h : NVSHandle) (key : StringView) (value : List Char) ec sizeFault stringFault value' err,
      h.getStringView key value ec sizeFault stringFault = .returns (value', some err) →
        value' = value ∨ ∃ ns length, h.handle = some ns ∧
          ns.getItemSize (cString key.memory) sizeFault = .ok length ∧
          value' = value.take length ++ List.replicate (length - value.length) '\x00') ∧
    (⟨some ⟨fun key => if key = ['k'] then some (.sz ['a', 'b', 'c']) else none⟩⟩ : NVSHandle).getString
        ['k'] [] none none (some .invalidLength) =
      .returns (['\x00', '\x00', '\x00', '\x00'], some .readNvsFailed) := by
  have string (h : NVSHandle) key value ec sizeFault stringFault value' err
      (got : h.getString key value ec sizeFault stringFault = .returns (value', some err)) :=
    (getString_returns got).resolve_left (Option.some_ne_none err)
  exact ⟨keepsOutputOnError_getInt, fun h type key => keepsOutputOnError_getInt h type key.memory,
    keepsOutputOnError_getBool, fun h key => keepsOutputOnError_getBool h key.memory,
    string, fun h key => string h key.memory, rfl⟩

end NVSHandle

end Nvs

end Espp
