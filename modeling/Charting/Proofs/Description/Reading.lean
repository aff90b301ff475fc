import Charting.Description
import Charting.Proofs.Failure
import Charting.Proofs.Json.Members

/-!
# Which descriptions are read

A JSON object describes a chart if its rows are objects and its sizes are whole numbers of pixels.
Nothing of it is lost then, and otherwise the failure names the first of its parts that is at fault.
-/

namespace Charting.Description

/-- What is given under a key. Null stands for nothing. -/
def given? (fields : Entries Json) (key : String) : Option Json :=
  match Entries.get? fields key with
  | some .null => none
  | value => value

def IsRows (value : Json) : Prop := ∃ rows : List Datum, value = .arr (rows.map .obj)

/-- A whole number that fits into 32 bits. -/
def IsSize (value : Json) : Prop := ∃ n : Int, value = .num (.int n) ∧ 0 ≤ n ∧ n < UInt32.size

/-- What is given under the key, if anything, is of this kind. -/
def Admits (kind : Json → Prop) (fields : Entries Json) (key : String) : Prop :=
  ∀ value, given? fields key = some value → kind value

/-- The keys that are no options. -/
def reserved : List String := ["data", "width", "height"]

structure Acceptable (fields : Entries Json) : Prop where
  data : Admits IsRows fields "data"
  width : Admits IsSize fields "width"
  height : Admits IsSize fields "height"

/-- The description holds all that the fields say, and nothing else. -/
structure Describes (fields : Entries Json) (d : Description) : Prop where
  data : (given? fields "data").getD (.arr []) = .arr (d.data.map .obj)
  width : (given? fields "width").getD (.ofNat 400) = .ofNat d.viewport.width.toNat
  height : (given? fields "height").getD (.ofNat 300) = .ofNat d.viewport.height.toNat
  options : ∃ options, d.options = .obj options ∧ Entries.WellKeyed options ∧
    ∀ key, Entries.get? options key =
      if key ∈ reserved then none else (Entries.get? fields key).map .ofJson

/-- The first part of a value that keeps it from describing a chart, as its failure tells. -/
inductive Fault : Json → Failure → Prop
  | root {value} (other : ∀ fields, value ≠ .obj fields) :
      Fault value (.invalidOption "<root>" "chart description must be a JSON object")
  | data {fields value} (given : given? fields "data" = some value)
      (other : ∀ items, value ≠ .arr items) :
      Fault (.obj fields) (.invalidOption "data" "data must be an array of objects")
  | row {fields} {front : List Datum} {item back}
      (given : given? fields "data" = some (.arr (front.map .obj ++ item :: back)))
      (other : ∀ datum, item ≠ .obj datum) :
      Fault (.obj fields)
        (.invalidOption ("data." ++ toString front.length) "data rows must be objects")
  | width {fields value} (data : Admits IsRows fields "data")
      (given : given? fields "width" = some value) (other : ¬IsSize value) :
      Fault (.obj fields) (.invalidOption "width" "must be a non-negative integer pixel size")
  | height {fields value} (data : Admits IsRows fields "data")
      (width : Admits IsSize fields "width") (given : given? fields "height" = some value)
      (other : ¬IsSize value) :
      Fault (.obj fields) (.invalidOption "height" "must be a non-negative integer pixel size")

variable {fields : Entries Json} {key : String} {e : Failure}

theorem given?_ne_null : given? fields key ≠ some .null := by
  rw [given?]
  split
  · simp
  · assumption

/-- What treats null like nothing depends on what is given alone. -/
theorem apply_given? {α : Type} {f : Option Json → α} (null : f (some .null) = f none)
    (fields : Entries Json) (key : String) :
    f (Entries.get? fields key) = f (given? fields key) := by
  rw [given?]
  split
  · rename_i found
    rw [found, null]
  · rfl

/-! ## Rows -/

theorem rows_eq_ok {index : Nat} {items : List Json} {data : List Datum} :
    rows index items = .ok data ↔ items = data.map .obj := by
  induction items generalizing index data with
  | nil => cases data <;> simp [rows]
  | cons item rest ih =>
      cases item with
      | obj datum =>
          rw [rows, Outcome.map_eq_ok]
          constructor
          · rintro ⟨others, read, rfl⟩
            rw [ih.mp read, List.map_cons]
          · intro same
            cases data with
            | nil => cases same
            | cons first others =>
                cases same
                exact ⟨others, ih.mpr rfl, rfl⟩
      | _ => cases data <;> simp [rows]

/-- The first value that is no object is the one that is named. -/
theorem rows_eq_error {index : Nat} {items : List Json} :
    rows index items = .error e ↔ ∃ (front : List Datum) (item : Json) (back : List Json),
      items = front.map .obj ++ item :: back ∧ (∀ datum, item ≠ .obj datum) ∧
      e = .invalidOption ("data." ++ toString (index + front.length))
        "data rows must be objects" := by
  induction items generalizing index with
  | nil => simp [rows]
  | cons first rest ih =>
      cases first with
      | obj datum =>
          rw [rows, Outcome.map_eq_error, ih]
          constructor
          · rintro ⟨front, item, back, rfl, other, rfl⟩
            refine ⟨datum :: front, item, back, rfl, other, ?_⟩
            rw [List.length_cons, Nat.add_right_comm, Nat.add_assoc]
          · rintro ⟨front, item, back, split, other, rfl⟩
            cases front with
            | nil =>
                cases split
                exact absurd rfl (other datum)
            | cons head front =>
                cases split
                refine ⟨front, item, back, rfl, other, ?_⟩
                rw [List.length_cons, Nat.add_right_comm, Nat.add_assoc]
      | _ =>
          constructor
          · rintro ⟨⟩
            exact ⟨[], _, rest, rfl, nofun, rfl⟩
          · rintro ⟨front, item, back, split, other, rfl⟩
            cases front with
            | nil => rfl
            | cons => cases split

/-! ## Parts of a description -/

section Given

variable {given : Option Json}

theorem dataOf_eq_ok {data : List Datum} (notNull : given ≠ some .null) :
    dataOf given = .ok data ↔ given.getD (.arr []) = .arr (data.map .obj) := by
  cases given with
  | none => cases data <;> simp [dataOf]
  | some value =>
      cases value with
      | null => exact absurd rfl notNull
      | arr items => rw [dataOf, rows_eq_ok, Option.getD_some, Json.arr.injEq]
      | _ => simp [dataOf]

theorem exists_dataOf_eq_ok (notNull : given ≠ some .null) :
    (∃ data, dataOf given = .ok data) ↔ ∀ value, given = some value → IsRows value := by
  simp only [dataOf_eq_ok notNull]
  cases given with
  | none => exact ⟨nofun, fun _ => ⟨[], rfl⟩⟩
  | some value => simp [IsRows]

theorem dataOf_eq_error (notNull : given ≠ some .null) :
    dataOf given = .error e ↔ ∃ value, given = some value ∧
      ((∀ items, value ≠ .arr items) ∧
          e = .invalidOption "data" "data must be an array of objects" ∨
        ∃ (front : List Datum) (item : Json) (back : List Json),
          value = .arr (front.map .obj ++ item :: back) ∧ (∀ datum, item ≠ .obj datum) ∧
          e = .invalidOption ("data." ++ toString front.length) "data rows must be objects") := by
  cases given with
  | none => simp [dataOf]
  | some value =>
      cases value with
      | null => exact absurd rfl notNull
      | arr items => simp [dataOf, rows_eq_error]
      | _ => simp [dataOf, eq_comm]

theorem isSize_iff {value : Json} : IsSize value ↔ ∃ n : UInt32, value = .ofNat n.toNat := by
  constructor
  · rintro ⟨n, rfl, positive, small⟩
    refine ⟨UInt32.ofNat n.toNat, ?_⟩
    rw [UInt32.toNat_ofNat_of_lt' (by omega), Json.ofNat, Int.toNat_of_nonneg positive]
  · rintro ⟨n, rfl⟩
    have := n.toNat_lt_size
    exact ⟨n.toNat, rfl, by omega, by omega⟩

theorem sizeOf_num {default n : UInt32} {m : Int} :
    sizeOf key default (some (.num (.int m))) = .ok n ↔ m = n.toNat := by
  rw [sizeOf]
  split
  · rename_i fits
    simp only [Bool.and_eq_true, decide_eq_true_eq, UInt32.size] at fits
    rw [Except.ok.injEq, ← UInt32.toNat_inj, UInt32.toNat_ofNat_of_lt' (by rw [UInt32.size]; omega)]
    omega
  · rename_i unfit
    simp only [Bool.and_eq_true, decide_eq_true_eq, UInt32.size] at unfit
    have := n.toNat_lt
    simp only [reduceCtorEq, false_iff]
    omega

theorem sizeOf_eq_ok {default n : UInt32} (notNull : given ≠ some .null) :
    sizeOf key default given = .ok n ↔ given.getD (.ofNat default.toNat) = .ofNat n.toNat := by
  cases given with
  | none =>
      rw [sizeOf, Option.getD_none, Except.ok.injEq, Json.ofNat, Json.ofNat, Json.num.injEq,
        Numeral.int.injEq, Int.natCast_inj, UInt32.toNat_inj]
  | some value =>
      cases value with
      | null => exact absurd rfl notNull
      | num numeral =>
          cases numeral with
          | float => simp [sizeOf, Json.ofNat]
          | int m => simp [sizeOf_num, Json.ofNat]
      | _ => simp [sizeOf, Json.ofNat]

theorem exists_sizeOf_eq_ok {default : UInt32} (notNull : given ≠ some .null) :
    (∃ n, sizeOf key default given = .ok n) ↔ ∀ value, given = some value → IsSize value := by
  simp only [sizeOf_eq_ok notNull, isSize_iff]
  cases given with
  | none => exact ⟨nofun, fun _ => ⟨default, rfl⟩⟩
  | some value => simp

/-- A size is refused in one way only. -/
theorem sizeOf_ok_or_error (key : String) (default : UInt32) (given : Option Json) :
    (∃ n, sizeOf key default given = .ok n) ∨
      sizeOf key default given =
        .error (.invalidOption key "must be a non-negative integer pixel size") := by
  unfold sizeOf
  split
  · exact .inl ⟨_, rfl⟩
  · exact .inl ⟨_, rfl⟩
  · split
    · exact .inl ⟨_, rfl⟩
    · exact .inr rfl
  · exact .inr rfl

theorem sizeOf_eq_error {default : UInt32} (notNull : given ≠ some .null) :
    sizeOf key default given = .error e ↔ ∃ value, given = some value ∧ ¬IsSize value ∧
      e = .invalidOption key "must be a non-negative integer pixel size" := by
  have accepted : (∃ n, sizeOf key default given = .ok n) ↔ _ := exists_sizeOf_eq_ok notNull
  rcases sizeOf_ok_or_error key default given with ⟨n, read⟩ | refused
  · have sized := accepted.mp ⟨n, read⟩
    rw [read]
    exact ⟨nofun, fun ⟨value, among, unsized, _⟩ => absurd (sized value among) unsized⟩
  · have unsized : ¬∀ value, given = some value → IsSize value := fun sized => by
      obtain ⟨n, read⟩ := accepted.mpr sized
      simp [refused] at read
    rw [refused, Except.error.injEq, eq_comm]
    constructor
    · rintro rfl
      obtain ⟨value, unsized⟩ := Classical.not_forall.mp unsized
      obtain ⟨among, unsized⟩ := Classical.not_imp.mp unsized
      exact ⟨value, among, unsized, rfl⟩
    · rintro ⟨_, _, _, rfl⟩
      rfl

end Given

/-! ## Whole descriptions -/

/-- What is left of the fields when those under some keys are lifted out. -/
def lifted (gone : List String) (fields : Entries Json) : Entries Json :=
  gone.foldl (fun fields key => Entries.swapErase key fields) fields

theorem wellKeyed_lifted (keyed : Entries.WellKeyed fields) (gone : List String) :
    Entries.WellKeyed (lifted gone fields) := by
  induction gone generalizing fields with
  | nil => exact keyed
  | cons first rest ih => exact ih (keyed.swapErase first)

theorem get?_lifted (keyed : Entries.WellKeyed fields) (gone : List String) (key : String) :
    Entries.get? (lifted gone fields) key =
      if key ∈ gone then none else Entries.get? fields key := by
  induction gone generalizing fields with
  | nil => simp [lifted]
  | cons first rest ih =>
      have step : lifted (first :: rest) fields =
        lifted rest (Entries.swapErase first fields) := rfl
      rw [step, ih (keyed.swapErase first), Entries.get?_swapErase keyed]
      by_cases same : first = key
      · simp [same]
      · simp [same, Ne.symm same]

/-- The parts are read one after the other, each of them from the fields as they were given. -/
theorem ofFields_eq (keyed : Entries.WellKeyed fields) :
    ofFields fields = (do
      let data ← dataOf (given? fields "data")
      let width ← sizeOf "width" 400 (given? fields "width")
      let height ← sizeOf "height" 300 (given? fields "height")
      return {
        options := .ofJson (.obj (lifted reserved fields))
        data
        viewport := { width, height } }) := by
  have wide : sizeOf "width" 400 (Entries.get? fields "width") = _ := apply_given? rfl fields "width"
  have high : sizeOf "height" 300 (Entries.get? fields "height") = _ :=
    apply_given? rfl fields "height"
  have rows : dataOf (Entries.get? fields "data") = _ := apply_given? rfl fields "data"
  rw [← wide, ← high, ← rows]
  simp only [ofFields, Entries.get?_swapErase keyed, Entries.get?_swapErase (keyed.swapErase _)]
  rfl

theorem ofFields_eq_ok (keyed : Entries.WellKeyed fields) {d : Description} :
    ofFields fields = .ok d ↔
      dataOf (given? fields "data") = .ok d.data ∧
      sizeOf "width" 400 (given? fields "width") = .ok d.viewport.width ∧
      sizeOf "height" 300 (given? fields "height") = .ok d.viewport.height ∧
      d.options = .ofJson (.obj (lifted reserved fields)) := by
  simp only [ofFields_eq keyed, Outcome.bind_eq_ok, Outcome.pure_eq_ok]
  constructor
  · rintro ⟨data, rows, width, wide, height, high, rfl⟩
    exact ⟨rows, wide, high, rfl⟩
  · rintro ⟨rows, wide, high, options⟩
    refine ⟨_, rows, _, wide, _, high, ?_⟩
    rw [← options]

theorem ofFields_eq_error (keyed : Entries.WellKeyed fields) :
    ofFields fields = .error e ↔
      dataOf (given? fields "data") = .error e ∨
      (∃ data, dataOf (given? fields "data") = .ok data) ∧
        (sizeOf "width" 400 (given? fields "width") = .error e ∨
          (∃ n, sizeOf "width" 400 (given? fields "width") = .ok n) ∧
            sizeOf "height" 300 (given? fields "height") = .error e) := by
  simp only [ofFields_eq keyed, Outcome.bind_eq_error, Outcome.pure_ne_error, and_false,
    exists_false, or_false, exists_and_right]

theorem describes_of_ok (keyed : Entries.WellKeyed fields) {d : Description}
    (h : ofFields fields = .ok d) : Describes fields d := by
  obtain ⟨rows, wide, high, options⟩ := (ofFields_eq_ok keyed).mp h
  refine ⟨(dataOf_eq_ok given?_ne_null).mp rows, (sizeOf_eq_ok given?_ne_null).mp wide,
    (sizeOf_eq_ok given?_ne_null).mp high, OptionTree.ofJsonFields (lifted reserved fields),
    options, ?_, fun key => ?_⟩
  · rw [Entries.WellKeyed, OptionTree.keys_ofJsonFields]
    exact wellKeyed_lifted keyed reserved
  · rw [OptionTree.get?_ofJsonFields, get?_lifted keyed]
    split <;> rfl

theorem exists_ofFields_eq_ok (keyed : Entries.WellKeyed fields) :
    (∃ d, ofFields fields = .ok d) ↔ Acceptable fields := by
  have rows : (∃ data, dataOf (given? fields "data") = .ok data) ↔ Admits IsRows fields "data" :=
    exists_dataOf_eq_ok given?_ne_null
  have wide : (∃ n, sizeOf "width" 400 (given? fields "width") = .ok n) ↔
      Admits IsSize fields "width" := exists_sizeOf_eq_ok given?_ne_null
  have high : (∃ n, sizeOf "height" 300 (given? fields "height") = .ok n) ↔
      Admits IsSize fields "height" := exists_sizeOf_eq_ok given?_ne_null
  constructor
  · rintro ⟨d, read⟩
    obtain ⟨data, width, height, -⟩ := (ofFields_eq_ok keyed).mp read
    exact ⟨rows.mp ⟨_, data⟩, wide.mp ⟨_, width⟩, high.mp ⟨_, height⟩⟩
  · intro fine
    obtain ⟨data, hd⟩ := rows.mpr fine.data
    obtain ⟨width, hw⟩ := wide.mpr fine.width
    obtain ⟨height, hh⟩ := high.mpr fine.height
    exact ⟨⟨_, data, ⟨width, height⟩⟩, (ofFields_eq_ok keyed).mpr ⟨hd, hw, hh, rfl⟩⟩

theorem ofFields_eq_error_iff (keyed : Entries.WellKeyed fields) :
    ofFields fields = .error e ↔ Fault (.obj fields) e := by
  rw [ofFields_eq_error keyed, dataOf_eq_error given?_ne_null, exists_dataOf_eq_ok given?_ne_null,
    sizeOf_eq_error given?_ne_null, exists_sizeOf_eq_ok given?_ne_null,
    sizeOf_eq_error given?_ne_null]
  constructor
  · rintro (⟨value, given, ⟨other, rfl⟩ | ⟨front, item, back, rfl, other, rfl⟩⟩ |
      ⟨data, ⟨value, given, other, rfl⟩ | ⟨width, value, given, other, rfl⟩⟩)
    · exact .data given other
    · exact .row given other
    · exact .width data given other
    · exact .height data width given other
  · rintro fault
    cases fault with
    | root other => exact absurd rfl (other fields)
    | data given other => exact .inl ⟨_, given, .inl ⟨other, rfl⟩⟩
    | row given other => exact .inl ⟨_, given, .inr ⟨_, _, _, rfl, other, rfl⟩⟩
    | width data given other => exact .inr ⟨data, .inl ⟨_, given, other, rfl⟩⟩
    | height data width given other => exact .inr ⟨data, .inr ⟨width, _, given, other, rfl⟩⟩

/--
A text that is a JSON value describes a chart if the value is an object of acceptable fields. The
description then holds what they say, and otherwise the failure is that of the first fault. All of
this is about the value alone, whatever parser makes it.
-/
theorem read_parsed (p : Json.Parser) {text : String} {value : Json}
    (parsed : p.parse text = some value) :
    ((∃ d, readBy p.parse text = .ok d) ↔ ∃ fields, value = .obj fields ∧ Acceptable fields) ∧
      (∀ d, readBy p.parse text = .ok d → ∃ fields, value = .obj fields ∧ Describes fields d) ∧
      ∀ e, readBy p.parse text = .error e ↔ Fault value e := by
  have reading : readBy p.parse text = ofJson value := by rw [readBy, parsed]
  rw [reading]
  cases value with
  | obj fields =>
      have keyed := p.wellKeyed parsed
      rw [ofJson]
      refine ⟨?_, fun d read => ⟨fields, rfl, describes_of_ok keyed read⟩,
        fun e => ofFields_eq_error_iff keyed⟩
      rw [exists_ofFields_eq_ok keyed]
      exact ⟨fun fine => ⟨fields, rfl, fine⟩, fun ⟨_, same, fine⟩ => by cases same; exact fine⟩
  | _ =>
      refine ⟨⟨nofun, nofun⟩, nofun, fun e => ⟨?_, ?_⟩⟩
      · rintro ⟨⟩
        exact .root nofun
      · rintro ⟨⟩
        rfl

theorem readBy_reader (text : String) : readBy Json.reader.parse text = read text := rfl

/-- Rows are looked at before the size. -/
example : (match read "\x7b\"width\":-1,\"data\":[\x7b\x7d,7]\x7d" with
    | .ok _ => none
    | .error e => some e) = some (.invalidOption "data.1" "data rows must be objects") := by
  decide +kernel

/-! ## A description with a row -/

/-- One row, a height and a title; the width is left to the default. -/
def titled : String :=
  "\x7b\"data\":[\x7b\"x\":true\x7d],\"width\":null,\"height\":200,\"title\":\"t\"\x7d"

theorem read_titled :
    ∃ value d, Json.read? titled = some value ∧ read titled = .ok d ∧
      (∃ fields, value = .obj fields ∧ Acceptable fields ∧ Describes fields d) ∧
      d.viewport = { width := 400, height := 200 } ∧ d.data.map Entries.keys = [["x"]] := by
  obtain ⟨value, parsed⟩ : ∃ value, Json.read? titled = some value :=
    Option.isSome_iff_exists.mp (by decide +kernel)
  have seen : ((read titled).toOption.map fun d => (d.viewport, d.data.map Entries.keys)) =
      some ({ width := 400, height := 200 }, [["x"]]) := by decide +kernel
  have parsed' : Json.reader.parse titled = some value := by rw [Json.parse_reader, parsed]
  obtain ⟨accepted, described, -⟩ := read_parsed Json.reader parsed'
  rw [readBy_reader] at accepted described
  cases ok : read titled with
  | error e =>
      rw [ok] at seen
      cases seen
  | ok d =>
      obtain ⟨fields, shape, acceptable⟩ := accepted.mp ⟨d, ok⟩
      obtain ⟨fields', shape', describes⟩ := described d ok
      cases shape.symm.trans shape'
      rw [ok] at seen
      obtain ⟨size, rows⟩ := Prod.mk.inj (Option.some.inj seen)
      exact ⟨value, d, parsed, rfl, ⟨fields, shape, acceptable, describes⟩, size, rows⟩

end Charting.Description
