import FalconGuide.App.ConfigRoundTrip
import FalconGuide.Lib.Exceptions
import Mathlib.Tactic.IntervalCases

namespace FalconGuide.Json

open Lib

/-!
# Values that are kept

What happens to a value that is read from a JSON value and written again.

* `Keeps` — every member that is written and that the input has is as in the input; numbers are
  compared by their values;
* `At` — what holds of a member, if there is one;
* `keepsMember_of_member`, `keepsMember_of_value` — a member that is read and written;
* `readDouble_keeps_iff`, `readVec3_keeps_iff`, `valueInt_keeps_iff`, … — when it is kept, for each
  type.
-/

/-! ### Keeping -/

/-- An object. -/
def IsObject (j : Json) : Prop := ∃ fields, j = obj fields

/-- The value of a number. -/
def number? : Json → Option ℚ
  | int n => some n
  | num x => some x
  | _ => none

/-- What holds of the member `key`, if there is one. -/
def At (j : Json) (key : String) (p : Json → Prop) : Prop := ∀ v, j.find? key = some v → p v

/-- The two are the same text or truth value or the same number; or arrays of such values; or
    objects that have such values wherever they have the same keys. -/
inductive Keeps : Json → Json → Prop
  | null : Keeps null null
  | bool (b : Bool) : Keeps (bool b) (bool b)
  | str (s : String) : Keeps (str s) (str s)
  | number {v w : Json} {x : ℚ} (hv : v.number? = some x) (hw : w.number? = some x) : Keeps v w
  | arr {input output : List Json} (h : List.Forall₂ Keeps input output) :
      Keeps (.arr input) (.arr output)
  | obj {input output : List (String × Json)}
      (h : ∀ m ∈ output, ∀ v, (Json.obj input).find? m.1 = some v → Keeps v m.2) :
      Keeps (.obj input) (.obj output)

/-- The member `key` is kept as `output`. -/
def KeepsMember (j : Json) (key : String) (output : Json) : Prop := j.At key (Keeps · output)

/-- What is said of a member may be rewritten where there is one. -/
theorem at_congr {j : Json} {key : String} {p q : Json → Prop}
    (h : ∀ v, j.find? key = some v → (p v ↔ q v)) : j.At key p ↔ j.At key q :=
  forall₂_congr h

section

variable {key key' : String} {v : Json} {fields : List (String × Json)} {p : Json → Prop}

/-- Anything holds of the members of an empty object. -/
@[simp] theorem at_nil : (obj []).At key p := fun _ hv => by cases hv

/-- The first member is the one under its key. -/
@[simp] theorem at_cons_self : (obj ((key, v) :: fields)).At key p ↔ p v := by
  rw [At, find?_cons_self]
  exact ⟨fun h => h v rfl, fun h _ hw => Option.some.inj hw ▸ h⟩

/-- Members under other keys do not matter. -/
@[simp] theorem at_cons_of_ne (h : key ≠ key') :
    (obj ((key', v) :: fields)).At key p ↔ (obj fields).At key p := by
  rw [At, At, find?_cons_of_ne h]

end

/-- Numbers are kept as numbers of the same value. -/
theorem keeps_number {input output : Json} {x : ℚ} (h : output.number? = some x) :
    Keeps input output ↔ input.number? = some x := by
  constructor
  · intro hkeeps
    cases hkeeps with
    | number hv hw => exact hv.trans (hw.symm.trans h)
    | null => cases h
    | bool b => cases h
    | str s => cases h
    | arr _ => cases h
    | obj _ => cases h
  · intro hinput
    exact .number hinput h

/-- A `double` keeps its number. -/
theorem keeps_num {j : Json} {x : ℚ} : Keeps j (num x) ↔ j.number? = some x := keeps_number rfl

/-- An integer keeps its number. -/
theorem keeps_int {j : Json} {n : ℤ} : Keeps j (int n) ↔ j.number? = some (n : ℚ) :=
  keeps_number rfl

/-- A text keeps itself. -/
theorem keeps_str {j : Json} {s : String} : Keeps j (str s) ↔ j = str s := by
  constructor
  · rintro (_ | _)
    · rfl
    · rename_i hw
      cases hw
  · rintro rfl
    exact .str s

/-- An array is kept element by element. -/
theorem keeps_arr {j : Json} {output : List Json} :
    Keeps j (arr output) ↔ ∃ input, j = arr input ∧ List.Forall₂ Keeps input output := by
  constructor
  · intro hkeeps
    cases hkeeps with
    | number _ hw => cases hw
    | arr h => exact ⟨_, rfl, h⟩
  · rintro ⟨input, rfl, h⟩
    exact .arr h

/-- An object is kept member by member. -/
theorem keeps_obj_iff {j : Json} {output : List (String × Json)} :
    Keeps j (obj output) ↔ j.IsObject ∧ output.Forall fun m => j.KeepsMember m.1 m.2 := by
  rw [List.forall_iff_forall_mem]
  constructor
  · intro hkeeps
    cases hkeeps with
    | number _ hw => cases hw
    | obj h => exact ⟨⟨_, rfl⟩, h⟩
  · rintro ⟨⟨input, rfl⟩, h⟩
    exact .obj h

/-! ### Members -/

section

variable {α : Type} {j output : Json} {key : String} {x y : α} {conv : Json → Except String α}
  {p : Json → Prop}

/-- A member that is there is converted. -/
theorem conv_of_member (h : j.member key x conv = .ok y) {v : Json}
    (hv : j.find? key = some v) : conv v = .ok y := by
  rw [member, contains, get, hv] at h
  exact h

@[inherit_doc conv_of_member]
theorem conv_of_value (h : j.value conv key x = .ok y) {v : Json}
    (hv : j.find? key = some v) : conv v = .ok y := by
  cases j with
  | obj fields =>
    have hlookup : fields.lookup key = some v := hv
    rw [value, hlookup] at h
    exact h
  | null => cases hv
  | bool b => cases hv
  | int n => cases hv
  | num x => cases hv
  | str s => cases hv
  | arr elems => cases hv

/-- `value` throws on what is not an object. -/
theorem isObject_of_value (h : j.value conv key x = .ok y) : j.IsObject := by
  cases j with
  | obj fields => exact ⟨fields, rfl⟩
  | null => cases h
  | bool b => cases h
  | int n => cases h
  | num x => cases h
  | str s => cases h
  | arr elems => cases h

/-- A member that is read and written is kept if its value is. -/
theorem keepsMember_of_member (h : j.member key x conv = .ok y)
    (hkeeps : ∀ v, conv v = .ok y → (Keeps v output ↔ p v)) :
    j.KeepsMember key output ↔ j.At key p :=
  at_congr fun v hv => hkeeps v (conv_of_member h hv)

/-- A member is kept if its value always is. -/
theorem keepsMember_of_keeps (h : j.member key x conv = .ok y)
    (hkeeps : ∀ v, conv v = .ok y → Keeps v output) : j.KeepsMember key output :=
  fun v hv => hkeeps v (conv_of_member h hv)

@[inherit_doc keepsMember_of_member]
theorem keepsMember_of_value (h : j.value conv key x = .ok y)
    (hkeeps : ∀ v, conv v = .ok y → (Keeps v output ↔ p v)) :
    j.KeepsMember key output ↔ j.At key p :=
  at_congr fun v hv => hkeeps v (conv_of_value h hv)

end

/-! ### Conversions that lose nothing -/

/-- Nothing but a boolean is converted to one. -/
theorem toBool_eq_ok {j : Json} {b : Bool} (h : j.toBool = .ok b) : j = bool b := by
  cases j with
  | bool c => rw [Except.ok.inj h]
  | null => cases h
  | int n => cases h
  | num y => cases h
  | str s => cases h
  | arr elems => cases h
  | obj fields => cases h

/-- Nothing but a text is converted to one. -/
theorem toStr_eq_ok {j : Json} {s : String} (h : j.toStr = .ok s) : j = str s := by
  cases j with
  | str t => rw [Except.ok.inj h]
  | null => cases h
  | bool b => cases h
  | int n => cases h
  | num y => cases h
  | arr elems => cases h
  | obj fields => cases h

section

variable {j : Json} {key : String}

/-- A boolean that is read is kept. -/
theorem readBool_keeps {x y : Bool} (h : j.readBool key x = .ok y) : j.KeepsMember key (bool y) :=
  fun _ hv => toBool_eq_ok (conv_of_member h hv) ▸ .bool y

/-- So it is with a default. -/
theorem valueBool_keeps {x y : Bool} (h : j.valueBool key x = .ok y) : j.KeepsMember key (bool y) :=
  fun _ hv => toBool_eq_ok (conv_of_value h hv) ▸ .bool y

/-- A text that is read is kept. -/
theorem valueString_keeps {x y : String} (h : j.valueString key x = .ok y) :
    j.KeepsMember key (str y) :=
  fun _ hv => keeps_str.mpr (toStr_eq_ok (conv_of_value h hv))

end

/-! ### Conversions that lose something -/

/-- No integer that is rounded as a `double`. -/
def IsExact (j : Json) : Prop := ∀ n, j = int n → roundDouble (n : ℚ) = n

/-- No integer under these keys is rounded as a `double`. -/
def ExactAt (j : Json) (keys : List String) : Prop := ∀ key ∈ keys, j.At key IsExact

/-- An integer is exact when it is a `double`. -/
@[simp] theorem isExact_int {n : ℤ} : IsExact (int n) ↔ roundDouble (n : ℚ) = n := by
  constructor
  · intro h
    exact h n rfl
  · rintro h _ ⟨⟩
    exact h

/-- A number with a fraction is a `double` already. -/
@[simp] theorem isExact_num {x : ℚ} : IsExact (num x) := fun _ hn => by cases hn

/-- Nothing is asked of no members. -/
@[simp] theorem exactAt_nil {j : Json} : j.ExactAt [] := by simp [ExactAt]

/-- Members are asked one by one. -/
@[simp] theorem exactAt_cons {j : Json} {key : String} {keys : List String} :
    j.ExactAt (key :: keys) ↔ j.At key IsExact ∧ j.ExactAt keys := List.forall_mem_cons

/-- An array of so many numbers, of which none is rounded. -/
def IsArray (length : ℕ) (j : Json) : Prop :=
  ∃ elems, j = arr elems ∧ elems.length = length ∧ ∀ v ∈ elems, v.IsExact

/-- A number that is an integer in this range. -/
def IsInteger (low high : ℤ) (j : Json) : Prop :=
  ∃ n : ℤ, j.number? = some (n : ℚ) ∧ low ≤ n ∧ n ≤ high

/-- A number that is an integer starts a conversion as one. -/
theorem toInteger_of_number? {j : Json} {n : ℤ} (h : j.number? = some (n : ℚ)) :
    j.toInteger = .ok n := by
  cases j with
  | int m =>
    have hm : (m : ℚ) = n := Option.some.inj h
    rw [toInteger, Int.cast_injective hm]
  | num x =>
    rw [toInteger, Option.some.inj h, truncate_intCast]
  | null => cases h
  | bool b => cases h
  | str s => cases h
  | arr elems => cases h
  | obj fields => cases h

/-- A number that is read as a `double`. -/
theorem number?_eq_iff_of_toDouble {j : Json} {x : ℚ} (h : j.toDouble = .ok x) :
    j.number? = some x ↔ j.IsExact := by
  cases j with
  | int n =>
    rw [← Except.ok.inj h, isExact_int, eq_comm]
    exact Option.some_inj
  | num y =>
    rw [← Except.ok.inj h]
    exact iff_of_true rfl isExact_num
  | null => cases h
  | bool b => cases h
  | str s => cases h
  | arr elems => cases h
  | obj fields => cases h

/-- **A number** that is read as a `double` is kept when it is exact. -/
theorem keeps_num_of_toDouble {j : Json} {x : ℚ} (h : j.toDouble = .ok x) :
    Keeps j (num x) ↔ j.IsExact :=
  keeps_num.trans (number?_eq_iff_of_toDouble h)

/-- So is one that may be null. -/
theorem keeps_of_toOptDouble {j : Json} {x : Option ℚ} (h : j.toOptDouble = .ok x) :
    Keeps j (writeOptDouble x) ↔ j.IsExact := by
  cases j with
  | null =>
    cases h
    exact iff_of_true .null fun n hn => by cases hn
  | int n =>
    cases h
    exact keeps_num_of_toDouble rfl
  | num y =>
    cases h
    exact keeps_num_of_toDouble rfl
  | bool b => cases h
  | str s => cases h
  | arr elems => cases h
  | obj fields => cases h

/-- An array of numbers. -/
theorem forall₂_keeps_iff {elems : List Json} {xs : List ℚ}
    (h : List.Forall₂ (fun v x => v.toDouble = .ok x) elems xs) :
    List.Forall₂ Keeps elems (xs.map num) ↔ ∀ v ∈ elems, v.IsExact := by
  induction h with
  | nil => exact iff_of_true .nil (by simp)
  | cons hx _ ih =>
    rw [List.map_cons, List.forall₂_cons, keeps_num_of_toDouble hx, ih, List.forall_mem_cons]

/-- An array of as many numbers as are read. -/
theorem keeps_arr_iff {j : Json} (xs : List ℚ)
    (h : ∀ elems, j = arr elems → elems.length = xs.length →
      List.Forall₂ (fun v x => v.toDouble = .ok x) elems xs) :
    Keeps j (arr (xs.map num)) ↔ IsArray xs.length j := by
  rw [keeps_arr]
  constructor
  · rintro ⟨elems, rfl, hkeeps⟩
    have hlen : elems.length = xs.length := by rw [hkeeps.length_eq, List.length_map]
    exact ⟨elems, rfl, hlen, (forall₂_keeps_iff (h elems rfl hlen)).mp hkeeps⟩
  · rintro ⟨elems, rfl, hlen, hexact⟩
    exact ⟨elems, rfl, (forall₂_keeps_iff (h elems rfl hlen)).mpr hexact⟩

section

variable {j : Json} {key : String}

/-- A member of type `double` is kept when it is exact. -/
theorem readDouble_keeps_iff {x y : ℚ} (h : j.readDouble key x = .ok y) :
    j.KeepsMember key (num y) ↔ j.At key IsExact :=
  keepsMember_of_member h fun _ => keeps_num_of_toDouble

/-- A member that may be null is kept when it is exact. -/
theorem readOptDouble_keeps_iff {y : Option ℚ} (h : j.readOptDouble key = .ok y) :
    j.KeepsMember key (writeOptDouble y) ↔ j.At key IsExact :=
  keepsMember_of_member h fun _ => keeps_of_toOptDouble

/-- A member with a default is kept when it is exact. -/
theorem valueDouble_keeps_iff {x y : ℚ} (h : j.valueDouble key x = .ok y) :
    j.KeepsMember key (num y) ↔ j.At key IsExact :=
  keepsMember_of_value h fun _ => keeps_num_of_toDouble

/-- Three numbers are kept if they are all there is. -/
theorem readVec3_keeps_iff {x y : Config.Vector3d} (h : j.readVec3 key x = .ok y) :
    j.KeepsMember key (writeVec3 y) ↔ j.At key (IsArray 3) := by
  refine keepsMember_of_member h fun v hv => ?_
  refine keeps_arr_iff [y 0, y 1, y 2] ?_
  rintro elems rfl hlen
  obtain ⟨a, b, c, rfl⟩ := List.length_eq_three.mp hlen
  obtain ⟨x, hx, hv⟩ := bind_eq_ok.mp hv
  obtain ⟨y, hy, hv⟩ := bind_eq_ok.mp hv
  obtain ⟨z, hz, hv⟩ := bind_eq_ok.mp hv
  cases pure_eq_ok.mp hv
  exact .cons hx (.cons hy (.cons hz .nil))

/-- Nine numbers are kept if they are all there is. -/
theorem readMat3_keeps_iff {y : Config.Matrix3d} (h : j.readMat3 key = .ok y) :
    j.KeepsMember key (writeMat3 y) ↔ j.At key (IsArray 9) := by
  refine keepsMember_of_member h fun v hv => ?_
  refine keeps_arr_iff [y 0 0, y 0 1, y 0 2, y 1 0, y 1 1, y 1 2, y 2 0, y 2 1, y 2 2] ?_
  rintro elems rfl hlen
  rw [toMat3, if_neg (by simp [hlen]), List.take_of_length_le (by simp [hlen])] at hv
  obtain ⟨xs, hxs, hv⟩ := bind_eq_ok.mp hv
  cases pure_eq_ok.mp hv
  have hconv := mapM_eq_ok.mp hxs
  have hlen' : xs.length = 9 := hconv.length_eq.symm.trans hlen
  convert hconv using 1
  symm
  apply List.ext_getElem
  · exact hlen'
  · intro i hi hi'
    rw [hlen'] at hi
    interval_cases i <;> simp [List.getD_eq_getElem?_getD, hlen']

/-- A number is kept as an `int` if it is one. -/
theorem valueInt_keeps_iff {x y : ℤ} (h : j.valueInt key x = .ok y) :
    j.KeepsMember key (int y) ↔ j.At key (IsInteger (-2147483648) 2147483647) := by
  refine keepsMember_of_value h fun v hv => ?_
  rw [keeps_int]
  constructor
  · intro hnumber
    have hrange : Int.bmod y 4294967296 = y := by
      rw [toInt, toInteger_of_number? hnumber] at hv
      exact Except.ok.inj hv
    have hlow := @Int.le_bmod y 4294967296 (by decide)
    have hhigh := @Int.bmod_lt y 4294967296 (by decide)
    exact ⟨y, hnumber, by omega, by omega⟩
  · rintro ⟨n, hnumber, hlow, hhigh⟩
    rw [toInt, toInteger_of_number? hnumber] at hv
    have hback := toInt_int (n := n) ⟨hlow, by omega⟩
    rw [← Except.ok.inj (hback.symm.trans hv)]
    exact hnumber

/-- A number is kept as a `uint16_t` if it is one. -/
theorem valueUInt16_keeps_iff {x y : UInt16} (h : j.valueUInt16 key x = .ok y) :
    j.KeepsMember key (int y.toNat) ↔ j.At key (IsInteger 0 65535) := by
  refine keepsMember_of_value h fun v hv => ?_
  rw [keeps_int]
  constructor
  · intro hnumber
    have hlt := y.toNat_lt
    exact ⟨y.toNat, hnumber, by omega, by omega⟩
  · rintro ⟨n, hnumber, hlow, hhigh⟩
    obtain ⟨m, rfl⟩ : ∃ m : UInt16, n = m.toNat :=
      ⟨UInt16.ofNat n.toNat, by rw [UInt16.toNat_ofNat']; omega⟩
    rw [toUInt16, toInteger_of_number? hnumber] at hv
    have hback := toUInt16_int m
    rw [← Except.ok.inj (hback.symm.trans hv)]
    exact hnumber

end

end FalconGuide.Json
