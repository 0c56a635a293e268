import HttpService.Proofs.WrittenText
/-! # Reading back a written number

An integer is written by its decimal digits. As long as it fits a word the reader of numbers gives
it back, if nothing follows that a number could go on with: `Ended`. -/
set_option autoImplicit false

namespace HttpService.Json

open Reader

/-- No number goes on here. -/
def Ended (rest : Bytes) : Prop :=
  ∀ byte, rest.head? = some byte ->
    Bytes.isDigit byte = false ∧ byte ≠ 46 ∧ atExponent (some byte) = false

theorem ended_nil : Ended [] := by
  intro byte head
  cases head

theorem ended_cons {byte : UInt8} (noDigit : Bytes.isDigit byte = false) (noPoint : byte ≠ 46)
    (noExponent : atExponent (some byte) = false) (rest : Bytes) : Ended (byte :: rest) := by
  intro first head
  rw [List.head?_cons, Option.some.injEq] at head
  subst head
  exact ⟨noDigit, noPoint, noExponent⟩

/-! ## Digits -/

theorem code_digit {letter : Char} (digit : letter.isDigit = true) :
    String.utf8EncodeChar letter = [Bytes.code letter] ∧ Bytes.isDigit (Bytes.code letter) = true ∧
      Bytes.digitValue (Bytes.code letter) = letter.toNat - 48 := by
  have bounds : 48 ≤ letter.toNat ∧ letter.toNat ≤ 57 := Char.isDigit_iff_toNat.mp digit
  have value : (Bytes.code letter).toNat = letter.toNat := by
    rw [Bytes.code, UInt8.toNat_ofNat']
    omega
  refine ⟨Bytes.encodeChar_ascii (by omega), ?_, ?_⟩
  · rw [Bytes.isDigit, Bool.and_eq_true, decide_eq_true_eq, decide_eq_true_eq, UInt8.le_iff_toNat_le,
      UInt8.le_iff_toNat_le, value]
    exact bounds
  · rw [Bytes.digitValue, value]

theorem ofChars_digits {letters : List Char} (digits : ∀ letter ∈ letters, letter.isDigit = true) :
    Bytes.ofChars letters = letters.map Bytes.code := by
  induction letters with
  | nil => rfl
  | cons letter letters ih =>
      have first := (code_digit (digits letter List.mem_cons_self)).1
      have later := ih (fun other present => digits other (List.mem_cons_of_mem _ present))
      rw [Bytes.ofChars_cons, first, later]
      rfl

theorem span_digits {letters : List Char} (digits : ∀ letter ∈ letters, letter.isDigit = true)
    {rest : Bytes} (ended : Ended rest) :
    (letters.map Bytes.code ++ rest).takeWhile Bytes.isDigit = letters.map Bytes.code ∧
      (letters.map Bytes.code ++ rest).dropWhile Bytes.isDigit = rest := by
  have all : ∀ byte ∈ letters.map Bytes.code, Bytes.isDigit byte = true := by
    intro byte present
    obtain ⟨letter, listed, rfl⟩ := List.mem_map.mp present
    exact (code_digit (digits letter listed)).2.1
  have none : rest.takeWhile Bytes.isDigit = [] ∧ rest.dropWhile Bytes.isDigit = rest := by
    cases rest with
    | nil => exact ⟨rfl, rfl⟩
    | cons byte rest =>
        have noDigit := (ended byte rfl).1
        simp [noDigit]
  rw [List.takeWhile_append_of_pos all, List.dropWhile_append_of_pos all, none.1, none.2,
    List.append_nil]
  exact ⟨rfl, rfl⟩

theorem le_ofDigitChars (letters : List Char) (start : Nat) :
    start ≤ Nat.ofDigitChars 10 letters start := by
  rw [Nat.ofDigitChars_eq_ofDigitChars_zero]
  have positive : 1 ≤ 10 ^ letters.length := Nat.pow_pos (by decide)
  have scaled := Nat.mul_le_mul_right start positive
  omega

theorem gather_digits {letters : List Char} (digits : ∀ letter ∈ letters, letter.isDigit = true)
    (start : Nat) (fits : Nat.ofDigitChars 10 letters start < wordCount) :
    gather start (letters.map Bytes.code) = (Nat.ofDigitChars 10 letters start, 0) := by
  induction letters generalizing start with
  | nil => rfl
  | cons letter letters ih =>
      have value := (code_digit (digits letter List.mem_cons_self)).2.2
      have step : start * 10 + (letter.toNat - 48) = 10 * start + (letter.toNat - '0'.toNat) := by
        rw [Nat.mul_comm]
        rfl
      rw [Nat.ofDigitChars_cons] at fits ⊢
      -- The number only grows with further digits, so no digit comes too late for a word.
      have small := le_ofDigitChars letters (10 * start + (letter.toNat - '0'.toNat))
      have notLate : ¬ wordMax < 10 * start + (letter.toNat - '0'.toNat) := by
        rw [wordMax]
        omega
      simp only [List.map_cons, gather, value, step, notLate, if_false]
      exact ih (fun other present => digits other (List.mem_cons_of_mem _ present)) _ fits

/-! ## Whole numbers -/

def whole (positive : Bool) (significand : Nat) : JsonNumber :=
  if positive then .natural significand
  else if significand = 0 || twoTo 63 < significand then .binary (.negate (.ofNat significand))
  else .negative significand

theorem run_wholeDone (positive : Bool) (significand : Nat) {rest : Bytes} (ended : Ended rest) :
    (number.wholeDone positive significand).run rest = (.ok (whole positive significand), rest) := by
  have last : (if positive then pure (.natural significand)
      else if significand = 0 || twoTo 63 < significand then
        pure (.binary (.negate (.ofNat significand)))
      else pure (.negative significand) : Reader JsonNumber).run rest =
        (.ok (whole positive significand), rest) := by
    unfold whole
    split
    · rfl
    split
    · rfl
    · rfl
  simp only [number.wholeDone, run_bind, run_peek]
  split
  next point => exact absurd rfl (ended 46 point).2.1
  next _ =>
    have plain : atExponent rest.head? = false := by
      cases head : rest.head? with
      | none => rfl
      | some byte => exact (ended byte head).2.2
    rw [plain]
    exact last

theorem digitChar_ne_zero : ∀ value < 10, 0 < value -> (Nat.digitChar value).toNat ≠ 48 := by
  decide

theorem toDigits_head (value : Nat) (positive : 0 < value) :
    ∃ letter letters, Nat.toDigits 10 value = letter :: letters ∧ letter.toNat ≠ 48 := by
  induction value using Nat.strongRecOn with
  | ind value ih =>
      rcases Nat.lt_or_ge value 10 with small | large
      · exact ⟨_, _, Nat.toDigits_of_lt_base small, digitChar_ne_zero value small positive⟩
      · obtain ⟨letter, letters, shape, notZero⟩ := ih (value / 10) (by omega) (by omega)
        rw [Nat.toDigits_of_base_le (by decide) large, shape]
        exact ⟨letter, _, rfl, notZero⟩

theorem run_zero (positive : Bool) {rest : Bytes} (ended : Ended rest) :
    (Reader.number positive).run (48 :: rest) = (.ok (whole positive 0), rest) := by
  have last := run_wholeDone positive 0 ended
  simp only [Reader.number, run_bind, run_next, List.head?_cons, List.tail_cons]
  rw [if_pos (by decide), run_bind, run_peek]
  cases head : rest.head? with
  | none => exact last
  | some byte =>
      have noDigit := (ended byte head).1
      simp only [noDigit]
      exact last

/-- The written digits of a number that fits a word. -/
theorem number_written (positive : Bool) {value : Nat} (fits : value < wordCount) {rest : Bytes}
    (ended : Ended rest) :
    (Reader.number positive).run (Bytes.ofChars (Nat.toDigits 10 value) ++ rest) =
      (.ok (whole positive value), rest) := by
  have all : ∀ letter ∈ Nat.toDigits 10 value, letter.isDigit = true := by
    intro letter present
    exact Nat.isDigit_of_mem_toDigits (by decide) (by decide) present
  have total : Nat.ofDigitChars 10 (Nat.toDigits 10 value) 0 = value := Nat.ofDigitChars_ten_toDigits
  rw [ofChars_digits all]
  rcases Nat.eq_zero_or_pos value with rfl | nonzero
  · rw [Nat.toDigits_zero]
    exact run_zero positive ended
  · obtain ⟨letter, letters, shape, notZero⟩ := toDigits_head value nonzero
    rw [shape] at all total ⊢
    obtain ⟨-, digit, digitValue⟩ := code_digit (all letter List.mem_cons_self)
    have later : ∀ other ∈ letters, other.isDigit = true :=
      fun other present => all other (List.mem_cons_of_mem _ present)
    obtain ⟨taken, dropped⟩ := span_digits later ended
    have first : (Bytes.code letter == 48) = false := by
      rw [beq_eq_false_iff_ne]
      intro same
      have bounds : 48 ≤ letter.toNat ∧ letter.toNat ≤ 57 :=
        Char.isDigit_iff_toNat.mp (all letter List.mem_cons_self)
      have code := congrArg UInt8.toNat same
      rw [Bytes.code, UInt8.toNat_ofNat'] at code
      have : (48 : UInt8).toNat = 48 := rfl
      omega
    have start : Nat.ofDigitChars 10 letters (letter.toNat - 48) = value := by
      rw [Nat.ofDigitChars_cons, Nat.mul_zero, Nat.zero_add] at total
      exact total
    have gathered := gather_digits later (letter.toNat - 48) (by omega)
    rw [start] at gathered
    simp only [List.map_cons, List.cons_append, Reader.number, run_bind, run_next, List.head?_cons,
      List.tail_cons, first, digit, Bool.false_eq_true, if_false, if_true, run_digits, taken, dropped,
      digitValue, gathered]
    exact run_wholeDone positive value ended

end HttpService.Json
