import Mathlib.Data.List.Basic
import Mathlib.Data.List.SplitLengths
import HttpService.Auth.Owner
/-! # Written owners

`OwnerId.Written` says of a text that it is the written form of an owner. Digits are split off from
the right, as a number is divided (`spells_snoc`); a number that fits is spelled in one way
(`spells_iff`), and so each owner has one written form, the text that `display` gives
(`written_iff`). -/
set_option autoImplicit false

namespace HttpService.OwnerId

def writtenDigits : List Char := "0123456789abcdef".toList

/-- Lower-case hexadecimal digits, and the number that they are read as. -/
structure Spells (digits : List Char) (number : Nat) : Prop where
  written : ∀ digit ∈ digits, digit ∈ writtenDigits
  read : hexNumber? digits = some number

def Written (owner : OwnerId) (text : String) : Prop :=
  ∃ groups : List (List Char), groups.map List.length = [8, 4, 4, 4, 12] ∧
    Spells groups.flatten owner.number ∧ text.toList = ['-'].intercalate groups

/-! ## Digits -/

theorem writtenDigits_eq : writtenDigits = (List.range 16).map Nat.digitChar := by decide

theorem mem_writtenDigits_iff {digit : Char} :
    digit ∈ writtenDigits ↔ ∃ value < 16, digit = Nat.digitChar value := by
  simp only [writtenDigits_eq, List.mem_map, List.mem_range, eq_comm]

theorem digitValue?_digitChar : ∀ value < 16, digitValue? (Nat.digitChar value) = some value := by
  decide

theorem hexNumber?_snoc (digits : List Char) {value : Nat} (small : value < 16) :
    hexNumber? (digits ++ [Nat.digitChar value]) =
      (hexNumber? digits).map fun number => number * 16 + value := by
  simp only [hexNumber?, List.foldl_append, List.foldl_cons, List.foldl_nil,
    digitValue?_digitChar value small]
  cases List.foldl _ (some 0) digits <;> rfl

theorem spells_nil {number : Nat} : Spells [] number ↔ number = 0 := by
  constructor
  · intro spelled
    exact (Option.some.inj spelled.read).symm
  · rintro rfl
    exact ⟨by simp, rfl⟩

/-- The last digit is what a division by sixteen leaves, the others are the quotient. -/
theorem spells_snoc {digits : List Char} {last : Char} {number : Nat} :
    Spells (digits ++ [last]) number ↔
      Spells digits (number / 16) ∧ last = Nat.digitChar (number % 16) := by
  constructor
  · intro spelled
    obtain ⟨value, small, rfl⟩ := mem_writtenDigits_iff.mp (spelled.written last (by simp))
    have read := spelled.read
    rw [hexNumber?_snoc digits small, Option.map_eq_some_iff] at read
    obtain ⟨quotient, readBefore, rfl⟩ := read
    have divided : (quotient * 16 + value) / 16 = quotient := by omega
    have left : (quotient * 16 + value) % 16 = value := by omega
    rw [divided, left]
    refine ⟨⟨?_, readBefore⟩, rfl⟩
    intro digit member
    exact spelled.written digit (List.mem_append_left _ member)
  · rintro ⟨spelled, rfl⟩
    have small : number % 16 < 16 := Nat.mod_lt _ (by decide)
    constructor
    · intro digit member
      rcases List.mem_append.mp member with before | isLast
      · exact spelled.written digit before
      · rw [List.mem_singleton.mp isLast]
        exact mem_writtenDigits_iff.mpr ⟨_, small, rfl⟩
    · rw [hexNumber?_snoc digits small, spelled.read, Option.map_some, Nat.div_add_mod']

theorem spells_singleton {last : Char} {number : Nat} (small : number < 16) :
    Spells [last] number ↔ last = Nat.digitChar number := by
  have snoc := @spells_snoc [] last number
  rw [List.nil_append, spells_nil, Nat.div_eq_of_lt small, Nat.mod_eq_of_lt small] at snoc
  exact snoc.trans (and_iff_right rfl)

/-! ## Padded digits -/

theorem zeroPadded_snoc (width : Nat) (digits : List Char) (last : Char) :
    zeroPadded (width + 1) (digits ++ [last]) = zeroPadded width digits ++ [last] := by
  simp [zeroPadded]

theorem zeroPadded_hexDigits_small (width : Nat) {number : Nat} (small : number < 16) :
    zeroPadded (width + 1) (hexDigits number) =
      List.replicate width '0' ++ [Nat.digitChar number] := by
  rw [hexDigits, Nat.toDigits_of_lt_base small]
  rfl

theorem zeroPadded_hexDigits {width : Nat} (positive : 0 < width) (number : Nat) :
    zeroPadded (width + 1) (hexDigits number) =
      zeroPadded width (hexDigits (number / 16)) ++ [Nat.digitChar (number % 16)] := by
  by_cases small : number < 16
  · obtain ⟨shorter, rfl⟩ := Nat.exists_eq_succ_of_ne_zero (Nat.ne_of_gt positive)
    rw [zeroPadded_hexDigits_small _ small, Nat.div_eq_of_lt small, Nat.mod_eq_of_lt small,
      zeroPadded_hexDigits_small shorter (by decide), List.replicate_succ']
    rfl
  · have more : hexDigits number = hexDigits (number / 16) ++ [Nat.digitChar (number % 16)] :=
      Nat.toDigits_of_base_le (by decide) (Nat.le_of_not_lt small)
    rw [more, zeroPadded_snoc]

/-- A number that fits into so many digits is spelled by as many in one way. -/
theorem spells_iff {width number : Nat} (positive : 0 < width) (fits : number < 16 ^ width)
    {digits : List Char} :
    digits.length = width ∧ Spells digits number ↔
      digits = zeroPadded width (hexDigits number) := by
  induction width, positive using Nat.le_induction generalizing number digits with
  | base =>
      have small : number < 16 := by simpa using fits
      rw [zeroPadded_hexDigits_small 0 small]
      constructor
      · rintro ⟨single, spelled⟩
        obtain ⟨last, rfl⟩ := List.length_eq_one_iff.mp single
        rw [(spells_singleton small).mp spelled]
        rfl
      · rintro rfl
        exact ⟨rfl, (spells_singleton small).mpr rfl⟩
  | succ width positive ih =>
      have quotientFits : number / 16 < 16 ^ width := by
        rwa [Nat.div_lt_iff_lt_mul (by decide), ← Nat.pow_succ]
      -- Both sides give up their last digit, which leaves the quotient in one place fewer.
      rw [zeroPadded_hexDigits positive]
      rcases List.eq_nil_or_concat' digits with rfl | ⟨shorter, last, rfl⟩
      · simp
      · rw [List.length_append, List.length_singleton, Nat.add_right_cancel_iff, spells_snoc,
          ← and_assoc, ih quotientFits, List.append_singleton_inj]

/-! ## Groups -/

theorem splitLengths_flatten (groups : List (List Char)) :
    (groups.map List.length).splitLengths groups.flatten = groups := by
  induction groups with
  | nil => rfl
  | cons group rest ih => simp [ih]

theorem toList_display (owner : OwnerId) :
    owner.display.toList = ['-'].intercalate
      ([8, 4, 4, 4, 12].splitLengths (zeroPadded 32 (hexDigits owner.number))) := by
  simp [display, List.splitLengths_cons]

/-- The written form of an owner is the text that is displayed, and no other. -/
theorem written_iff (owner : OwnerId) (text : String) :
    owner.Written text ↔ text = owner.display := by
  have fits : owner.number < 16 ^ 32 := owner.bounded
  constructor
  · rintro ⟨groups, lengths, spelled, joined⟩
    have length : groups.flatten.length = 32 := by
      rw [List.length_flatten, lengths]
      rfl
    have digits := (spells_iff (by decide) fits).mp ⟨length, spelled⟩
    have cut := splitLengths_flatten groups
    rw [lengths, digits] at cut
    rw [← String.toList_inj, joined, toList_display, cut]
  · rintro rfl
    obtain ⟨length, spelled⟩ := (spells_iff (by decide) fits).mpr rfl
    refine ⟨_, List.map_splitLengths_length _ _ ?_, ?_, toList_display owner⟩
    · exact Nat.le_of_eq length.symm
    · rwa [List.flatten_splitLengths _ _ (Nat.le_of_eq length)]

end HttpService.OwnerId
