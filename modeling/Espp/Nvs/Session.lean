import Espp.Nvs.Properties

/-!
# Sequences of calls on one handle

A caller of `espp::NVSHandle` makes a sequence of `get`, `set` and `commit` calls, usually
passing one `std::error_code` to all of them. This file runs such sequences and proves three
properties of every run:

* an error sticks. Once `ec` is set, every later `get` and `set` returns before it reaches
  the NVS: the store stays as it was, every output comes back as it was given, and `ec` stays
  set. A later key longer than 15 characters replaces the error with `Key_Length_Too_Long`,
  and a failed `commit` replaces it with `Commit_NVS_Failed`. `commit` does not look at `ec`,
  so on a handle whose construction failed it still dereferences the empty pointer;
* the handle never creates an NVS key that is longer than 15 characters or that holds a NUL;
* an integer or `bool` written under a key reads back as written, however many calls on
  other keys come in between.

The `string_view` overloads are the `const char*` ones at `key.data()` and are not repeated
here. Everything follows from one inversion lemma: a call either leaves the handle as it was,
or it stores one item under the C string of its own key, which `check_key_length` has
passed.
-/

namespace Espp

namespace Nvs

namespace NVSHandle

/-- A call on a handle, with what the caller passes besides `ec`: the output variable of a
`get` or the value of a `set`, and the faults of the NVS calls the entry point makes. -/
inductive Call
  | getInt (type : IntType) (key : List Char) (value : Int) (fault : Option EspErr)
  | getBool (key : List Char) (value : Bool) (fault : Option EspErr)
  | getString (key value : List Char) (sizeFault stringFault : Option EspErr)
  | setInt (type : IntType) (key : List Char) (value : Int) (fault : Option EspErr)
  | setBool (key : List Char) (value : Bool) (fault : Option EspErr)
  | setString (key value : List Char) (fault : Option EspErr)
  | commit (fault : Option EspErr)

/-- What a call hands back besides `ec`: the output variable of a `get`. -/
inductive Output
  | int (value : Int)
  | bool (value : Bool)
  | string (value : List Char)
  | none
  deriving DecidableEq, Repr

/-- The output variable as the caller passed it in. -/
def Call.given : Call → Output
  | .getInt _ _ value _ => .int value
  | .getBool _ value _ => .bool value
  | .getString _ value _ _ => .string value
  | _ => .none

/-- The item key a call may write: the C string of the key of a `set`. -/
def Call.writes : Call → Option (List Char)
  | .setInt _ key _ _ | .setBool key _ _ | .setString key _ _ => some (cString key)
  | _ => none

/-- One call with the caller's `ec`: the handle after it, `ec` after it, and its output. -/
def call (h : NVSHandle) (ec : Option NvsErrc) : Call → Outcome (NVSHandle × Option NvsErrc × Output)
  | .getInt type key value fault =>
      (h.getInt type key value ec fault).map fun result => (h, result.2, .int result.1)
  | .getBool key value fault =>
      (h.getBool key value ec fault).map fun result => (h, result.2, .bool result.1)
  | .getString key value sizeFault stringFault =>
      (h.getString key value ec sizeFault stringFault).map fun result =>
        (h, result.2, .string result.1)
  | .setInt type key value fault =>
      (h.setInt type key value ec fault).map fun result => (result.1, result.2, .none)
  | .setBool key value fault =>
      (h.setBool key value ec fault).map fun result => (result.1, result.2, .none)
  | .setString key value fault =>
      (h.setString key value ec fault).map fun result => (result.1, result.2, .none)
  | .commit fault => (h.commit ec fault).map fun ec => (h, ec, .none)

/-- A sequence of calls passing one `ec` along: the handle and `ec` after them and the
outputs in order, or the null dereference that ends the run. -/
def run (h : NVSHandle) (ec : Option NvsErrc) :
    List Call → Outcome (NVSHandle × Option NvsErrc × List Output)
  | [] => .returns (h, ec, [])
  | c :: calls =>
      match h.call ec c with
      | .nullDereference => .nullDereference
      | .returns (h', ec', output) =>
          (h'.run ec' calls).map fun result => (result.1, result.2.1, output :: result.2.2)

@[simp] theorem run_nil (h : NVSHandle) (ec : Option NvsErrc) : h.run ec [] = .returns (h, ec, []) :=
  rfl

theorem map_eq_returns {α β : Type} {f : α → β} {outcome : Outcome α} {result : β}
    (mapped : outcome.map f = .returns result) : ∃ a, outcome = .returns a ∧ f a = result := by
  cases outcome with
  | returns a => exact ⟨a, rfl, by simpa [Outcome.map] using mapped⟩
  | nullDereference => cases mapped

/-- A call that returns after its `ec` was set: the run goes on from there. -/
theorem run_cons_eq_returns {h h'' : NVSHandle} {ec ec'' : Option NvsErrc} {c : Call}
    {calls : List Call} {outputs : List Output}
    (ran : h.run ec (c :: calls) = .returns (h'', ec'', outputs)) :
    ∃ h' ec' output, h.call ec c = .returns (h', ec', output) ∧
      ∃ outputs', h'.run ec' calls = .returns (h'', ec'', outputs') := by
  unfold run at ran
  split at ran
  · cases ran
  · rename_i h' ec' output called
    obtain ⟨⟨h₂, ec₂, outputs'⟩, rest, same⟩ := map_eq_returns ran
    simp only [Prod.mk.injEq] at same
    obtain ⟨rfl, rfl, -⟩ := same
    exact ⟨h', ec', output, called, outputs', rest⟩

theorem nul_not_mem_cString (key : List Char) : '\x00' ∉ cString key := fun mem => by
  simpa using List.mem_takeWhile_imp mem

theorem Namespace.store_eq {ns ns' : Namespace} {key : List Char} {item : Item}
    {sameKind : Item → Bool} {fault : Option EspErr} (stored : ns.store key item sameKind fault = .ok ns') :
    ns' = ⟨Function.update ns.items key (some item)⟩ := by
  unfold Namespace.store at stored
  split at stored
  · cases stored
  · split at stored <;> cases stored
    rfl
  · cases stored
    rfl

/-- What a call can do to the handle: leave it as it was, or store one item under the C string
of its own key, which is at most 15 characters long and holds no NUL. -/
theorem call_cases {h h' : NVSHandle} {ec ec' : Option NvsErrc} {c : Call} {output : Output}
    (called : h.call ec c = .returns (h', ec', output)) :
    h' = h ∨ ∃ ns key item, h.handle = some ns ∧ c.writes = some key ∧ key.length ≤ 15 ∧
      '\x00' ∉ key ∧ h' = ⟨some ⟨Function.update ns.items key (some item)⟩⟩ := by
  have stores {key : List Char} {item : Item} {sameKind : Item → Bool} {fault : Option EspErr}
      {ec : Option NvsErrc} (writes : c.writes = some (cString key))
      (result : Outcome (NVSHandle × Option NvsErrc))
      (shape : result = let ec := checkKeyLength key ec
        if ec.isSome then .returns (h, ec)
        else match h.handle with
          | none => .nullDereference
          | some ns => match ns.store (cString key) item sameKind fault with
            | .ok ns => .returns (⟨some ns⟩, ec)
            | .error _ => .returns (h, some .writeNvsFailed))
      (mapped : result.map (fun result => (result.1, result.2, Output.none)) =
        .returns (h', ec', output)) :
      h' = h ∨ ∃ ns key item, h.handle = some ns ∧ c.writes = some key ∧ key.length ≤ 15 ∧
        '\x00' ∉ key ∧ h' = ⟨some ⟨Function.update ns.items key (some item)⟩⟩ := by
    obtain ⟨⟨h₁, ec₁⟩, returned, same⟩ := map_eq_returns mapped
    simp only [Prod.mk.injEq] at same
    obtain ⟨rfl, -, -⟩ := same
    rw [shape] at returned
    dsimp only at returned
    split at returned
    · cases returned
      exact .inl rfl
    · rename_i clear
      split at returned
      · cases returned
      · rename_i ns handle
        split at returned
        · rename_i ns' stored
          cases returned
          have short : strlen key ≤ 15 := by
            unfold checkKeyLength at clear
            split at clear
            · simp at clear
            · omega
          exact .inr ⟨ns, cString key, item, handle, writes, short,
            nul_not_mem_cString key, by rw [Namespace.store_eq stored]⟩
        · cases returned
          exact .inl rfl
  cases c with
  | getInt type key value fault =>
      obtain ⟨_, -, same⟩ := map_eq_returns called
      exact .inl (congrArg Prod.fst same).symm
  | getBool key value fault =>
      obtain ⟨_, -, same⟩ := map_eq_returns called
      exact .inl (congrArg Prod.fst same).symm
  | getString key value sizeFault stringFault =>
      obtain ⟨_, -, same⟩ := map_eq_returns called
      exact .inl (congrArg Prod.fst same).symm
  | setInt type key value fault => exact stores rfl _ rfl called
  | setBool key value fault => exact stores rfl _ rfl called
  | setString key value fault => exact stores rfl _ rfl called
  | commit fault =>
      obtain ⟨_, -, same⟩ := map_eq_returns called
      exact .inl (congrArg Prod.fst same).symm

/-- The item under `key` after a store under `stored`. -/
theorem item_update (ns : Namespace) (stored key : List Char) (item : Item) :
    (⟨some ⟨Function.update ns.items stored (some item)⟩⟩ : NVSHandle).item key =
      if key = stored then some item else ns.items key := by
  by_cases same : key = stored <;> simp [NVSHandle.item, same]

/-- A run leaves the item under every key it does not write, and an open handle open. -/
theorem run_frame {h h' : NVSHandle} {ec ec' : Option NvsErrc} {calls : List Call}
    {outputs : List Output} (ran : h.run ec calls = .returns (h', ec', outputs)) {key : List Char}
    (others : ∀ c ∈ calls, c.writes ≠ some key) :
    h'.item key = h.item key ∧ h'.handle.isSome = h.handle.isSome := by
  induction calls generalizing h ec outputs with
  | nil =>
      cases ran
      exact ⟨rfl, rfl⟩
  | cons c calls ih =>
      obtain ⟨h₁, ec₁, output, called, outputs', rest⟩ := run_cons_eq_returns ran
      obtain ⟨item, open_⟩ := ih rest fun c' mem => others c' (List.mem_cons_of_mem _ mem)
      rw [item, open_]
      rcases call_cases called with rfl | ⟨ns, stored, item, handle, writes, -, -, rfl⟩
      · exact ⟨rfl, rfl⟩
      · have other : key ≠ stored := fun same =>
          others c (List.mem_cons_self _ _) (same ▸ writes)
        rw [item_update, if_neg other]
        simp [NVSHandle.item, handle]

/-- The handle creates short keys only. For every handle, every `ec` and every sequence of
calls that returns, an item key the handle holds after the run either held an item before
it, or is at most 15 characters long and holds no NUL: `check_key_length` guards every
write, and the NVS is handed the C string it checked. -/
theorem run_creates_short_keys {h h' : NVSHandle} {ec ec' : Option NvsErrc} {calls : List Call}
    {outputs : List Output} (ran : h.run ec calls = .returns (h', ec', outputs)) (key : List Char)
    (holds : (h'.item key).isSome = true) :
    (h.item key).isSome = true ∨ (key.length ≤ 15 ∧ '\x00' ∉ key) := by
  induction calls generalizing h ec outputs with
  | nil =>
      cases ran
      exact .inl holds
  | cons c calls ih =>
      obtain ⟨h₁, ec₁, output, called, outputs', rest⟩ := run_cons_eq_returns ran
      rcases ih rest with before | fits
      · rcases call_cases called with rfl | ⟨ns, stored, item, handle, -, short, noNul, rfl⟩
        · exact .inl before
        · rw [item_update] at before
          split at before
          · rename_i same
            subst same
            exact .inr ⟨short, noNul⟩
          · exact .inl (by simpa [NVSHandle.item, handle] using before)
      · exact .inr fits

/-- On an empty namespace, a `set` under `"ab\0c"` stores under `"ab"` and a `set` under a
20-character key is refused: the key `"ab"` the handle holds afterwards is short. -/
theorem short_keys_after_run :
    ((⟨some ⟨Function.update (fun _ => none) ['a', 'b'] (some (.int .u8 2))⟩⟩ :
        NVSHandle).item ['a', 'b']).isSome = true ∧
      (((⟨some ⟨fun _ => none⟩⟩ : NVSHandle).item ['a', 'b']).isSome = true ∨
        (['a', 'b'].length ≤ 15 ∧ '\x00' ∉ ['a', 'b'])) :=
  ⟨rfl, run_creates_short_keys (show (⟨some ⟨fun _ => none⟩⟩ : NVSHandle).run none
      [.setInt .u8 ['a', 'b', '\x00', 'c'] 2 none, .setInt .u8 (List.replicate 20 'a') 1 none] =
    .returns (⟨some ⟨Function.update (fun _ => none) ['a', 'b'] (some (.int .u8 2))⟩⟩,
      some .keyLengthTooLong, [.none, .none]) from rfl) ['a', 'b'] rfl⟩

/-- A `set<T>` that leaves a clear `ec` clear checked a key of at most 15 characters and
stored the value under its C string. -/
theorem setInt_returns {h h' : NVSHandle} {type : IntType} {key : List Char} {value : Int}
    {fault : Option EspErr} (set : h.setInt type key value none fault = .returns (h', none)) :
    strlen key ≤ 15 ∧ ∃ ns, h'.handle = some ns ∧ ns.items (cString key) = some (.int type value) := by
  unfold setInt checkKeyLength at set
  split at set
  · simp at set
  · refine ⟨by omega, ?_⟩
    simp only [Option.isSome_none, Bool.false_eq_true, if_false] at set
    split at set
    · cases set
    · split at set
      · rename_i ns' stored
        cases set
        exact ⟨ns', rfl, Namespace.store_items stored⟩
      · cases set

/-- An integer `get` with a clear `ec` reads the item under the C string of its key: the value
of an integer of its type, `Read_NVS_Failed` for an integer of another type. -/
theorem getInt_of_item {h : NVSHandle} {type : IntType} {key : List Char} {ns : Namespace}
    (short : strlen key ≤ 15) (handle : h.handle = some ns) (value out : Int)
    (stored : ns.items (cString key) = some (.int type value)) :
    h.getInt type key out none none = .returns (value, none) ∧
      ∀ type', type' ≠ type → h.getInt type' key out none none = .returns (out, some .readNvsFailed) := by
  have notLong : ¬strlen key > 15 := by omega
  refine ⟨?_, fun type' other => ?_⟩
  · simp [getInt, checkKeyLength, notLong, handle, Namespace.getItem, stored]
  · simp [getInt, checkKeyLength, notLong, handle, Namespace.getItem, stored, Ne.symm other]

/-- Integers and `bool`s read back as written, across calls that do not write the key: a
clear `get<T>` after a successful `set<T>` yields the value, and a `get` of another integer
type fails with `Read_NVS_Failed` and hands `out` back. -/
theorem get_after_set_through_calls (h : NVSHandle) (key : List Char) (ec : Option NvsErrc)
    (calls : List Call) (others : ∀ c ∈ calls, c.writes ≠ some (cString key)) :
    (∀ type value fault (h₁ h₂ : NVSHandle) ec₂ outputs out,
      h.setInt type key value none fault = .returns (h₁, none) →
      h₁.run ec calls = .returns (h₂, ec₂, outputs) →
      h₂.getInt type key out none none = .returns (value, none) ∧
      ∀ type', type' ≠ type →
        h₂.getInt type' key out none none = .returns (out, some .readNvsFailed)) ∧
    (∀ value fault (h₁ h₂ : NVSHandle) ec₂ outputs out,
      h.setBool key value none fault = .returns (h₁, none) →
      h₁.run ec calls = .returns (h₂, ec₂, outputs) →
      h₂.getBool key out none none = .returns (value, none)) := by
  have readBack {type : IntType} {value : Int} {fault : Option EspErr} {h₁ h₂ : NVSHandle}
      {ec₂ : Option NvsErrc} {outputs : List Output}
      (set : h.setInt type key value none fault = .returns (h₁, none))
      (ran : h₁.run ec calls = .returns (h₂, ec₂, outputs)) :
      strlen key ≤ 15 ∧ ∃ ns, h₂.handle = some ns ∧
        ns.items (cString key) = some (.int type value) := by
    obtain ⟨short, ns₁, handle₁, stored⟩ := setInt_returns set
    obtain ⟨item, open_⟩ := run_frame ran others
    obtain ⟨ns₂, handle₂⟩ := Option.isSome_iff_exists.mp (open_.trans (by simp [handle₁]))
    refine ⟨short, ns₂, handle₂, ?_⟩
    simpa [NVSHandle.item, handle₁, handle₂, stored] using item
  refine ⟨fun type value fault h₁ h₂ ec₂ outputs out set ran => ?_,
    fun value fault h₁ h₂ ec₂ outputs out set ran => ?_⟩
  · obtain ⟨short, ns, handle, stored⟩ := readBack set ran
    exact getInt_of_item short handle value out stored
  · obtain ⟨short, ns, handle, stored⟩ := readBack
      (set : h.setInt .u8 key (if value then 1 else 0) none fault = .returns (h₁, none)) ran
    have read := (getInt_of_item short handle _ (if out then 1 else 0) stored).1
    simp only [getBool, read, Option.isNone_none, if_true]
    cases value <;> rfl

/-- On an empty namespace, `300` written as a `uint16_t` under `"k"`, followed by a `uint8_t`
under `"j"` and a `commit`, reads back as `300`. -/
theorem get_after_set_across_other_key :
    (⟨some ⟨Function.update (Function.update (fun _ => none) ['k'] (some (.int .u16 300))) ['j']
        (some (.int .u8 5))⟩⟩ : NVSHandle).getInt .u16 ['k'] 0 none none = .returns (300, none) :=
  ((get_after_set_through_calls ⟨some ⟨fun _ => none⟩⟩ ['k'] none
      [.setInt .u8 ['j'] 5 none, .commit none] (by decide)).1 .u16 300 none
    ⟨some ⟨Function.update (fun _ => none) ['k'] (some (.int .u16 300))⟩⟩ _ none [.none, .none] 0
    rfl rfl).1

end NVSHandle

end Nvs

end Espp
