import Charting.Proofs.Json.Members
import Charting.Proofs.Number.Finite

/-!
# The numbers of JSON

A number of JSON is a whole number of 64 bits, with or without a sign, or a finite machine number.
Reading gives no others.
-/

namespace Charting

def Numeral.Fits : Numeral → Prop
  | .int n => -2 ^ 63 ≤ n ∧ n < 2 ^ 64
  | .float x => x.isFinite = true

theorem Numeral.Fits.isFinite {n : Numeral} (h : n.Fits) : n.toFloat.isFinite = true := by
  cases n with
  | int n => exact isFinite_ofInt (by have := h.1; omega) h.2
  | float x => exact h

namespace Json

variable {fuel depth : Nat} {text rest : List Char} {value : Json}

mutual
/-- All numbers of a value are numbers of JSON. -/
def Fits : Json → Prop
  | .num n => n.Fits
  | .arr items => FitsItems items
  | .obj fields => FitsFields fields
  | _ => True

def FitsItems : List Json → Prop
  | [] => True
  | item :: rest => item.Fits ∧ FitsItems rest

def FitsFields : List (String × Json) → Prop
  | [] => True
  | (_, value) :: rest => value.Fits ∧ FitsFields rest
end

/-! ## Numerals that are read -/

theorem isFinite_decimal {mantissa digits : Nat} {exponent : Int} {x : Float}
    (h : decimal? mantissa digits exponent = some x) : x.isFinite = true := by
  simp only [decimal?] at h
  split at h
  · cases h
    exact isFinite_ofNat (Nat.two_pow_pos 64)
  · split at h
    · cases h
    · rw [Option.ite_none_right_eq_some] at h
      obtain ⟨finite, same⟩ := h
      cases same
      exact finite

theorem fits_wholeNumeral {negative : Bool} {n : Nat} {numeral : Numeral}
    (h : wholeNumeral? negative n = some numeral) : numeral.Fits := by
  have size : UInt64.size = 2 ^ 64 := rfl
  have half : 1 <<< 63 = 2 ^ 63 := rfl
  unfold wholeNumeral? at h
  split at h
  · split at h
    · rename_i bounds
      cases h
      simp only [Bool.and_eq_true, decide_eq_true_eq, half] at bounds
      constructor <;> omega
    · cases h
  · split at h
    · cases h
      constructor <;> omega
    · cases h

theorem fits_numeral {negative : Bool} {whole fraction : List Char} {exponent : Option Int}
    {numeral : Numeral} (h : numeral? negative whole fraction exponent = some numeral) :
    numeral.Fits := by
  have nearest : ∀ numeral, (decimal? (digitsValue (whole ++ fraction)) (whole ++ fraction).length
      (exponent.getD 0 - fraction.length)).map
        (fun x => Numeral.float (if negative then -x else x)) = some numeral → numeral.Fits := by
    intro numeral h
    obtain ⟨x, found, rfl⟩ := Option.map_eq_some_iff.mp h
    have finite := isFinite_decimal found
    cases negative with
    | false => exact finite
    | true => exact isFinite_neg finite
  simp only [numeral?] at h
  by_cases plain : (fraction.isEmpty && exponent.isNone) = true
  · rw [if_pos plain] at h
    rcases Option.or_eq_some_iff.mp h with whole | ⟨-, near⟩
    · exact fits_wholeNumeral whole
    · exact nearest numeral near
  · rw [if_neg plain] at h
    exact nearest numeral h

theorem fits_readNumber (h : readNumber text = some (value, rest)) : value.Fits := by
  simp only [readNumber, Option.bind_eq_bind, Option.bind_eq_some_iff, Option.pure_def,
    Option.some.injEq, Prod.mk.injEq] at h
  obtain ⟨_, -, _, -, _, -, numeral, found, rfl, -⟩ := h
  exact fits_numeral found

/-! ## Values that are read -/

theorem FitsFields.insert {fields : Entries Json} {key : String} (h : FitsFields fields)
    (fits : value.Fits) : FitsFields (Entries.insert key value fields) := by
  induction fields with
  | nil => exact ⟨fits, h⟩
  | cons field rest ih =>
      obtain ⟨k, v⟩ := field
      by_cases hk : k = key
      · simpa [Entries.insert, Entries.update, hk, FitsFields] using ⟨fits, h.2⟩
      · simpa [Entries.insert, Entries.update, hk, FitsFields] using ⟨h.1, ih h.2⟩

/-- What the readers of `fuel` give fits. -/
structure ReadsFitting (fuel : Nat) : Prop where
  value : ∀ {depth text value rest}, readValue fuel depth text = some (value, rest) → value.Fits
  items : ∀ {depth text items rest}, readItems fuel depth text = some (items, rest) →
    FitsItems items
  fields : ∀ {depth before text fields rest}, FitsFields before →
    readFields fuel depth before text = some (fields, rest) → FitsFields fields

theorem ReadsFitting.member (ih : ReadsFitting fuel) {member : String × Json}
    (h : readMember fuel depth text = some (member, rest)) : member.2.Fits := by
  unfold readMember at h
  split at h
  · split at h
    · cases h
    · split at h
      · obtain ⟨⟨value, _⟩, found, same⟩ := Option.map_eq_some_iff.mp h
        cases same
        exact ih.value found
      · cases h
  · cases h

theorem ReadsFitting.readValue (ih : ReadsFitting fuel)
    (h : readValue (fuel + 1) depth text = some (value, rest)) : value.Fits := by
  rw [Json.readValue] at h
  split at h
  case h_5 =>
    split at h
    · cases h
    · cases h
      trivial
    · obtain ⟨⟨items, _⟩, found, same⟩ := Option.map_eq_some_iff.mp h
      cases same
      exact ih.items found
  case h_6 =>
    split at h
    · cases h
    · cases h
      trivial
    · obtain ⟨⟨fields, _⟩, found, same⟩ := Option.map_eq_some_iff.mp h
      cases same
      have start : FitsFields [] := trivial
      exact ih.fields start found
  case h_7 => exact fits_readNumber h
  case h_4 =>
    obtain ⟨⟨s, _⟩, -, same⟩ := Option.map_eq_some_iff.mp h
    cases same
    trivial
  all_goals
    cases h
    trivial

theorem ReadsFitting.readItems (ih : ReadsFitting fuel) {items : List Json}
    (h : readItems (fuel + 1) depth text = some (items, rest)) : FitsItems items := by
  rw [Json.readItems] at h
  split at h
  · cases h
  · rename_i item _ first
    split at h
    · obtain ⟨⟨others, _⟩, found, same⟩ := Option.map_eq_some_iff.mp h
      cases same
      exact ⟨ih.value first, ih.items found⟩
    · cases h
      exact ⟨ih.value first, trivial⟩
    · cases h

theorem ReadsFitting.readFields (ih : ReadsFitting fuel) {before fields : Entries Json}
    (fits : FitsFields before)
    (h : readFields (fuel + 1) depth before text = some (fields, rest)) : FitsFields fields := by
  rw [readFields_succ] at h
  split at h
  · cases h
  · rename_i key value _ first
    have more : FitsFields (Entries.insert key value before) := fits.insert (ih.member first)
    split at h
    · exact ih.fields more h
    · cases h
      exact more
    · cases h

theorem readsFitting : (fuel : Nat) → ReadsFitting fuel
  | 0 => ⟨nofun, nofun, nofun⟩
  | fuel + 1 =>
      have ih := readsFitting fuel
      ⟨ih.readValue, ih.readItems, ih.readFields⟩

theorem fits_of_read {text : String} (h : read? text = some value) : value.Fits := by
  unfold read? readChars? at h
  split at h
  · rename_i read
    split at h
    · cases h
      exact (readsFitting _).value read
    · cases h
  · cases h

end Json
end Charting
