import HttpService.Proofs.ReaderRuns
/-! # Reading a number and reading past it

The two readers of numbers accept the same text, except that the one that keeps the number refuses
what is out of range. It then stands at the end of the number, or before digits of an exponent that
is too large: `number_alongside`. -/
set_option autoImplicit false

namespace HttpService.Json.Reader

def StopsAmongDigits (after stopped : Bytes) : Prop :=
  stopped = after ∨ ∃ byte rest, stopped = byte :: rest ∧ Bytes.isDigit byte = true

/-- How a run that keeps a number goes beside one that only reads past it. -/
inductive Alongside : Except Fault JsonNumber × Bytes -> Except Fault Unit × Bytes -> Prop where
  | both (written : JsonNumber) (after : Bytes) : Alongside (.ok written, after) (.ok (), after)
  | outOfRange (fault : Fault) {after stopped : Bytes} (among : StopsAmongDigits after stopped) :
      Alongside (.error fault, stopped) (.ok (), after)
  | neither (fault other : Fault) (stopped away : Bytes) :
      Alongside (.error fault, stopped) (.error other, away)

theorem finish_alongside (positive : Bool) (significand : Nat) (exponent : Int) (input : Bytes) :
    Alongside ((finish positive significand exponent).run input) (.ok (), input) := by
  simp only [finish]
  cases scaled significand exponent with
  | none => exact .outOfRange _ (.inl rfl)
  | some value => exact .both _ input

/-- Digits that are left over are digits of the exponent. -/
theorem takeExponent_digits (size : Nat) (input : Bytes) :
    (takeExponent size input).2.dropWhile Bytes.isDigit = input.dropWhile Bytes.isDigit ∧
      (size < twoTo 31 -> (takeExponent size input).1 < twoTo 31 ->
        (takeExponent size input).2 = input.dropWhile Bytes.isDigit) := by
  induction input generalizing size with
  | nil => exact ⟨rfl, fun _ _ => rfl⟩
  | cons byte rest ih =>
      simp only [takeExponent]
      split
      next digit =>
        have dropped : (byte :: rest).dropWhile Bytes.isDigit = rest.dropWhile Bytes.isDigit := by
          simp [digit]
        rw [dropped]
        split
        next fits =>
          obtain ⟨sameEnd, exhausted⟩ := ih (size * 10 + Bytes.digitValue byte)
          exact ⟨sameEnd, fun _ => exhausted fits⟩
        next tooLarge => exact ⟨rfl, fun _ fits => absurd fits tooLarge⟩
      next noDigit =>
        refine ⟨rfl, fun _ _ => ?_⟩
        simp [noDigit]

theorem among_digits (stopped : Bytes) :
    StopsAmongDigits (stopped.dropWhile Bytes.isDigit) stopped := by
  cases stopped with
  | nil => exact .inl rfl
  | cons byte rest =>
      cases digit : Bytes.isDigit byte with
      | true => exact .inr ⟨byte, rest, rfl, digit⟩
      | false => exact .inl (by simp [digit])

theorem digitValue_small (byte : UInt8) : Bytes.digitValue byte < twoTo 31 := by
  have bounded := byte.toNat_lt
  have large : (256 : Nat) ≤ twoTo 31 := by decide
  simp only [Bytes.digitValue]
  omega

theorem exponentPower_alongside (positive : Bool) (significand : Nat) (start : Int)
    (upward : Bool) (input : Bytes) :
    Alongside ((exponentPower positive significand start upward).run input)
      (skipNumber.skipPower.run input) := by
  cases input with
  | nil => exact .neither _ _ _ _
  | cons first rest =>
      simp only [exponentPower, skipNumber.skipPower, run_bind, run_next, List.head?_cons,
        List.tail_cons]
      split
      next digit =>
        obtain ⟨sameEnd, exhausted⟩ := takeExponent_digits (Bytes.digitValue first) rest
        have read : (exponentDigits (Bytes.digitValue first)).run rest =
          (.ok (takeExponent (Bytes.digitValue first) rest).1,
            (takeExponent (Bytes.digitValue first) rest).2) := rfl
        simp only [run_bind, read, run_digits, run_pure]
        split
        next fits =>
          rw [exhausted (digitValue_small first) fits]
          exact finish_alongside _ _ _ _
        next =>
          rw [← sameEnd]
          split
          next => exact .outOfRange _ (among_digits _)
          next => exact .both _ _
      next => exact .neither _ _ _ _

theorem exponentPart_alongside (positive : Bool) (significand : Nat) (start : Int)
    (input : Bytes) :
    Alongside ((exponentPart positive significand start).run input)
      (skipNumber.skipExponent.run input) := by
  simp only [exponentPart, skipNumber.skipExponent, run_bind, run_advance, run_peek]
  by_cases plus : input.tail.head? = some 43
  · simp only [plus]
    exact exponentPower_alongside _ _ _ _ _
  by_cases minus : input.tail.head? = some 45
  · simp only [minus]
    exact exponentPower_alongside _ _ _ _ _
  · simp only
    exact exponentPower_alongside _ _ _ _ _

/-- After its digits a number goes on with a fraction or an exponent, or it is done. -/
theorem tail_alongside (positive : Bool) (significand : Nat) (before : Int)
    (done : Reader JsonNumber) (input : Bytes)
    (ends : Alongside (done.run input) (.ok (), input)) :
    Alongside
      ((do
        match (← peek) with
        | some 46 => fractionPart positive significand before
        | other =>
            if atExponent other then exponentPart positive significand before else done :
          Reader JsonNumber).run input)
      (skipNumber.skipTail.run input) := by
  simp only [skipNumber.skipTail, run_bind, run_peek]
  by_cases point : input.head? = some 46
  · simp only [point, fractionPart, run_bind, run_digits, run_advance]
    split
    next =>
      simp only [run_bind, run_peek]
      split
      next => exact .neither _ _ _ _
      next => exact .neither _ _ _ _
    next =>
      simp only [run_bind, run_peek]
      split
      next => exact exponentPart_alongside _ _ _ _
      next => exact finish_alongside _ _ _ _
  · simp only
    split
    next => exact exponentPart_alongside _ _ _ _
    next => exact ends

theorem wholeDone_alongside (positive : Bool) (significand : Nat) (input : Bytes) :
    Alongside ((number.wholeDone positive significand).run input)
      (skipNumber.skipTail.run input) := by
  refine tail_alongside positive significand 0 _ input ?_
  split
  next => exact .both _ _
  next =>
    split
    next => exact .both _ _
    next => exact .both _ _

theorem number_alongside (positive : Bool) (input : Bytes) :
    Alongside ((number positive).run input) (skipNumber.run input) := by
  cases input with
  | nil => exact .neither _ _ _ _
  | cons first rest =>
      simp only [number, skipNumber, run_bind, run_next, List.head?_cons, List.tail_cons]
      split
      next =>
        simp only [run_bind, run_peek]
        cases rest with
        | nil => exact wholeDone_alongside positive 0 []
        | cons byte more =>
            simp only [List.head?_cons]
            split
            next => exact .neither _ _ _ _
            next => exact wholeDone_alongside _ _ _
      next =>
        split
        next =>
          simp only [run_bind, run_digits]
          split
          next => exact wholeDone_alongside _ _ _
          next => exact tail_alongside _ _ _ _ _ (finish_alongside _ _ _ _)
        next => exact .neither _ _ _ _

theorem skipNumber_of_number {positive : Bool} {input after : Bytes} {written : JsonNumber}
    (read : (number positive).run input = (.ok written, after)) :
    skipNumber.run input = (.ok (), after) := by
  have alongside := number_alongside positive input
  rw [read] at alongside
  generalize skipNumber.run input = skipped at alongside
  cases alongside
  rfl

theorem number_strays {input after : Bytes} (skipped : skipNumber.run input = (.ok (), after))
    (positive : Bool) :
    (∃ written, (number positive).run input = (.ok written, after)) ∨
      ∃ fault stopped, (number positive).run input = (.error fault, stopped) ∧
        StopsAmongDigits after stopped := by
  have alongside := number_alongside positive input
  rw [skipped] at alongside
  generalize (number positive).run input = kept at alongside
  cases alongside with
  | both written => exact .inl ⟨written, rfl⟩
  | outOfRange fault among => exact .inr ⟨fault, _, rfl, among⟩

end HttpService.Json.Reader
