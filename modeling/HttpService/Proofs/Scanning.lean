import HttpService.Proofs.Spans
/-! # Inside and outside of texts

A scan that only follows quotes and backslashes. Outside of texts it admits the bytes that JSON is
made of there, `lexical`, and no others. A well-formed piece leaves the scan outside if it began
outside; read by a scan that takes the inside of texts for the outside, it leaves it inside
(`Spans.scan_outside`, `Spans.scan_inside`). Two readers that disagree on where a text ends
therefore disagree to the end of the input, where only one of them is outside. -/
set_option autoImplicit false

namespace HttpService.Json.Reader

/-- May the byte stand outside of texts? The letters are those of the literal names and of
exponents. -/
def lexical (byte : UInt8) : Bool :=
  isBlank byte || Bytes.isDigit byte
    || [43, 44, 45, 46, 58, 69, 91, 93, 97, 101, 102, 108, 110, 114, 115, 116, 117, 123, 125].contains
      byte

theorem lexical_ne {byte : UInt8} (plain : lexical byte = true) : byte ≠ 34 ∧ byte ≠ 92 := by
  constructor <;>
    · intro same
      rw [same] at plain
      exact absurd plain (by decide)

inductive Mode where
  | outside
  | inside
  /-- Inside a text, after a backslash. -/
  | escaped

/-- Does the input lead from the mode to the outside, with nothing but lexical bytes there? -/
def scan : Mode -> Bytes -> Bool
  | .outside, [] => true
  | .outside, byte :: rest =>
      if byte == 34 then scan .inside rest else lexical byte && scan .outside rest
  | .inside, [] => false
  | .inside, byte :: rest =>
      if byte == 34 then scan .outside rest
      else if byte == 92 then scan .escaped rest
      else scan .inside rest
  | .escaped, [] => false
  | .escaped, _ :: rest => scan .inside rest

def Takes (input after : Bytes) : Prop :=
  ∃ taken, input = taken ++ after ∧ ∀ byte ∈ taken, lexical byte = true

theorem Takes.refl (input : Bytes) : Takes input input := ⟨[], rfl, by simp⟩

theorem Takes.trans {input between after : Bytes} (first : Takes input between)
    (second : Takes between after) : Takes input after := by
  obtain ⟨taken, parts, plain⟩ := first
  obtain ⟨more, moreParts, morePlain⟩ := second
  refine ⟨taken ++ more, ?_, ?_⟩
  · rw [parts, moreParts, List.append_assoc]
  · intro byte listed
    cases List.mem_append.mp listed with
    | inl early => exact plain byte early
    | inr late => exact morePlain byte late

theorem Takes.cons {byte : UInt8} {rest after : Bytes} (plain : lexical byte = true)
    (takes : Takes rest after) : Takes (byte :: rest) after := by
  obtain ⟨taken, parts, plainTaken⟩ := takes
  refine ⟨byte :: taken, by rw [parts]; rfl, ?_⟩
  intro other listed
  cases List.mem_cons.mp listed with
  | inl same => rw [same]; exact plain
  | inr later => exact plainTaken other later

theorem takes_dropWhile (test : UInt8 -> Bool)
    (plain : ∀ byte, test byte = true -> lexical byte = true) (input : Bytes) :
    Takes input (input.dropWhile test) := by
  refine ⟨input.takeWhile test, List.takeWhile_append_dropWhile.symm, ?_⟩
  intro byte listed
  exact plain byte (List.all_eq_true.mp List.all_takeWhile byte listed)

theorem takes_past (input : Bytes) : Takes input (past input) :=
  takes_dropWhile isBlank (fun byte blank => by simp [lexical, blank]) input

theorem takes_digits (input : Bytes) : Takes input (input.dropWhile Bytes.isDigit) :=
  takes_dropWhile Bytes.isDigit (fun byte digit => by simp [lexical, digit]) input

theorem Takes.of_past {input rest after : Bytes} {byte : UInt8} (start : past input = byte :: rest)
    (plain : lexical byte = true) (takes : Takes rest after) : Takes input after := by
  have blanks := takes_past input
  rw [start] at blanks
  exact blanks.trans (takes.cons plain)

theorem Takes.scan_outside {input after : Bytes} (takes : Takes input after) :
    scan .outside input = scan .outside after := by
  obtain ⟨taken, rfl, plain⟩ := takes
  induction taken with
  | nil => rfl
  | cons byte rest ih =>
      have here := plain byte List.mem_cons_self
      have later := ih fun other listed => plain other (List.mem_cons_of_mem byte listed)
      simp [scan, here, (lexical_ne here).1, later]

/-- Inside a text only quotes and backslashes matter. -/
theorem scan_inside_append {taken : Bytes} (plain : ∀ byte ∈ taken, byte ≠ 34 ∧ byte ≠ 92)
    (after : Bytes) : scan .inside (taken ++ after) = scan .inside after := by
  induction taken with
  | nil => rfl
  | cons byte rest ih =>
      have here := plain byte List.mem_cons_self
      have later := ih fun other listed => plain other (List.mem_cons_of_mem byte listed)
      simp [scan, here.1, here.2, later]

theorem Takes.scan_inside {input after : Bytes} (takes : Takes input after) :
    scan .inside input = scan .inside after := by
  obtain ⟨taken, rfl, plain⟩ := takes
  exact scan_inside_append (fun byte listed => lexical_ne (plain byte listed)) after

/-! ## Scalars -/

theorem takes_ident {name : List Char}
    (plain : (name.all fun letter => lexical (Bytes.code letter)) = true) {input after : Bytes}
    (read : (ident name).run input = (.ok (), after)) : Takes input after := by
  induction name generalizing input with
  | nil =>
      simp only [ident, run_pure, Prod.mk.injEq, true_and] at read
      rw [read]
      exact .refl after
  | cons letter rest ih =>
      rw [List.all_cons, Bool.and_eq_true] at plain
      cases input with
      | nil => simp [ident, run_bind, run_next, run_fail] at read
      | cons byte more =>
          simp only [ident, run_bind, run_next, List.head?_cons, List.tail_cons] at read
          split at read
          next same =>
            rw [eq_of_beq same]
            exact .cons plain.1 (ih plain.2 read)
          next => simp [run_fail] at read

theorem lexical_of_isDigit {byte : UInt8} (digit : Bytes.isDigit byte = true) :
    lexical byte = true := by
  simp [lexical, digit]

theorem takes_skipPower {input after : Bytes}
    (read : skipNumber.skipPower.run input = (.ok (), after)) : Takes input after := by
  cases input with
  | nil => simp [skipNumber.skipPower, run_bind, run_next, run_fail] at read
  | cons first more =>
      simp only [skipNumber.skipPower, run_bind, run_next, List.head?_cons, List.tail_cons] at read
      split at read
      next digit =>
        simp only [run_bind, run_digits, run_pure, Prod.mk.injEq, true_and] at read
        rw [← read]
        exact .cons (lexical_of_isDigit digit) (takes_digits more)
      next => simp [run_fail] at read

theorem takes_skipExponent {byte : UInt8} (plain : lexical byte = true) {rest after : Bytes}
    (read : skipNumber.skipExponent.run (byte :: rest) = (.ok (), after)) :
    Takes (byte :: rest) after := by
  refine .cons plain ?_
  simp only [skipNumber.skipExponent, run_bind, run_advance, List.tail_cons, run_peek] at read
  cases rest with
  | nil => exact takes_skipPower read
  | cons sign more =>
      by_cases plus : some sign = some 43
      · cases plus
        exact .cons (by decide) (takes_skipPower read)
      by_cases minus : some sign = some 45
      · cases minus
        exact .cons (by decide) (takes_skipPower read)
      · simp only [List.head?_cons] at read
        exact takes_skipPower read

theorem lexical_of_atExponent {byte : UInt8} (letter : atExponent (some byte) = true) :
    lexical byte = true := by
  simp only [atExponent, Bool.or_eq_true, beq_iff_eq] at letter
  cases letter with
  | inl small => rw [small]; decide
  | inr capital => rw [capital]; decide

theorem takes_atExponent {input after : Bytes} (letter : atExponent input.head? = true)
    (read : skipNumber.skipExponent.run input = (.ok (), after)) : Takes input after := by
  cases input with
  | nil => simp [atExponent] at letter
  | cons byte rest => exact takes_skipExponent (lexical_of_atExponent letter) read

theorem takes_skipTail {input after : Bytes} (read : skipNumber.skipTail.run input = (.ok (), after)) :
    Takes input after := by
  simp only [skipNumber.skipTail, run_bind, run_peek] at read
  split at read
  next point =>
    cases input with
    | nil => simp at point
    | cons byte rest =>
        simp only [List.head?_cons, Option.some.injEq] at point
        rw [point]
        refine .cons (by decide) ?_
        simp only [run_bind, run_advance, List.tail_cons, run_digits] at read
        split at read
        next => simp [run_failPeeked] at read
        next =>
          refine (takes_digits rest).trans ?_
          simp only [run_bind, run_peek] at read
          split at read
          next letter => exact takes_atExponent letter read
          next =>
            simp only [run_pure, Prod.mk.injEq, true_and] at read
            rw [← read]
            exact .refl _
  next =>
    split at read
    next letter => exact takes_atExponent letter read
    next =>
      simp only [run_pure, Prod.mk.injEq, true_and] at read
      rw [← read]
      exact .refl _

theorem skipNumber_inversion {input after : Bytes}
    (read : skipNumber.run input = (.ok (), after)) :
    ∃ first rest, input = first :: rest ∧ lexical first = true ∧ Takes rest after := by
  cases input with
  | nil => simp [skipNumber, run_bind, run_next, run_fail] at read
  | cons first rest =>
      refine ⟨first, rest, rfl, ?_⟩
      simp only [skipNumber, run_bind, run_next, List.head?_cons, List.tail_cons] at read
      split at read
      next zero =>
        rw [eq_of_beq zero]
        refine ⟨by decide, ?_⟩
        simp only [run_bind, run_peek] at read
        split at read
        next =>
          split at read
          next => simp [run_failPeeked] at read
          next => exact takes_skipTail read
        next =>
          simp only [run_pure, Prod.mk.injEq, true_and] at read
          rw [← read]
          exact .refl _
      next =>
        split at read
        next digit =>
          simp only [run_bind, run_digits] at read
          exact ⟨lexical_of_isDigit digit, (takes_digits rest).trans (takes_skipTail read)⟩
        next => simp [run_fail] at read

/-! ## Texts -/

theorem hexValue?_foldl {digits : Bytes} {total : Option Nat} {unit : Nat}
    (written : digits.foldl
      (fun total byte => do return (← total) * 16 + (← Bytes.hexValue? byte)) total = some unit) :
    total.isSome ∧ ∀ byte ∈ digits, (Bytes.hexValue? byte).isSome := by
  induction digits generalizing total with
  | nil =>
      rw [List.foldl_nil] at written
      simp [written]
  | cons byte rest ih =>
      obtain ⟨between, later⟩ := ih written
      cases before : total with
      | none => simp [before] at between
      | some value =>
          cases here : Bytes.hexValue? byte with
          | none => simp [before, here] at between
          | some digit =>
              refine ⟨rfl, ?_⟩
              intro other listed
              cases List.mem_cons.mp listed with
              | inl same => simp [same, here]
              | inr further => exact later other further

theorem plain_of_hexValue? {digits : Bytes} {unit : Nat} (written : hexValue? digits = some unit) :
    ∀ byte ∈ digits, byte ≠ 34 ∧ byte ≠ 92 := by
  intro byte listed
  have digit := (hexValue?_foldl written).2 byte listed
  constructor <;>
    · intro same
      rw [same] at digit
      exact absurd digit (by decide)

def scanFrom : TextState -> Bytes -> Bool
  | .plain, input => scan .inside input
  | .escape, input => scan .escaped input
  | .hex seen _, input => scan .inside (seen ++ input)
  | .wantBackslash _, _ => false
  | .wantU _, _ => false

theorem scanFrom_of_skipTextBody {input after : Bytes} {state : TextState}
    (read : skipTextBody state input = (.ok (), after)) (outside : scan .outside after = true) :
    scanFrom state input = true := by
  induction input generalizing state with
  | nil => simp [skipTextBody] at read
  | cons byte rest ih =>
      cases state with
      | plain =>
          simp only [skipTextBody] at read
          split at read
          next quote =>
            simp only [Prod.mk.injEq, true_and] at read
            simp [scanFrom, scan, quote, read, outside]
          next noQuote =>
            split at read
            next backslash =>
              have later := ih read
              simpa [scanFrom, scan, noQuote, backslash] using later
            next noBackslash =>
              split at read
              next => simp at read
              next =>
                have later := ih read
                simpa [scanFrom, scan, noQuote, noBackslash] using later
      | escape =>
          simp only [skipTextBody] at read
          split at read
          next =>
            have later := ih read
            simpa [scanFrom, scan] using later
          next =>
            split at read
            next =>
              have later := ih read
              simpa [scanFrom, scan] using later
            next => simp at read
      | hex seen lead =>
          simp only [skipTextBody] at read
          split at read
          next =>
            have later := ih read
            simpa [scanFrom] using later
          next =>
            split at read
            next unit written =>
              have later := ih read
              have digits := scan_inside_append (plain_of_hexValue? written) rest
              rw [List.append_assoc] at digits
              exact digits.trans later
            next => simp at read
      | wantBackslash lead => simp [skipTextBody] at read
      | wantU lead => simp [skipTextBody] at read

/-- Outside bytes read as a text: there is no backslash, and the text ends at the next quote. -/
theorem scan_inside_of_skipTextBody {input after : Bytes} (outside : scan .outside input = true)
    (read : skipTextBody .plain input = (.ok (), after)) : scan .inside after = true := by
  induction input with
  | nil => simp [skipTextBody] at read
  | cons byte rest ih =>
      simp only [skipTextBody] at read
      split at read
      next quote =>
        simp only [Prod.mk.injEq, true_and] at read
        simpa [scan, quote, read] using outside
      next noQuote =>
        simp only [scan, noQuote, Bool.false_eq_true, if_false, Bool.and_eq_true] at outside
        have noBackslash : ¬ (byte == 92) = true := by
          simpa using (lexical_ne outside.1).2
        rw [if_neg noBackslash] at read
        split at read
        next => simp at read
        next => exact ih outside.2 read

theorem lexical_of_textBody {input after done bytes : Bytes} (outside : scan .outside input = true)
    (plain : ∀ byte ∈ done, lexical byte = true)
    (read : textBody .plain done input = (.ok bytes, after)) :
    ∀ byte ∈ bytes, lexical byte = true := by
  induction input generalizing done with
  | nil => simp [textBody] at read
  | cons byte rest ih =>
      simp only [textBody] at read
      split at read
      next quote =>
        simp only [Prod.mk.injEq, Except.ok.injEq] at read
        rw [← read.1]
        intro other listed
        exact plain other (List.mem_reverse.mp listed)
      next noQuote =>
        simp only [scan, noQuote, Bool.false_eq_true, if_false, Bool.and_eq_true] at outside
        have noBackslash : ¬ (byte == 92) = true := by
          simpa using (lexical_ne outside.1).2
        rw [if_neg noBackslash] at read
        split at read
        next => simp at read
        next =>
          refine ih outside.2 ?_ read
          intro other listed
          cases List.mem_cons.mp listed with
          | inl same => rw [same]; exact outside.1
          | inr earlier => exact plain other earlier

theorem lexical_of_string {input after : Bytes} {text : String}
    (outside : scan .outside input = true) (read : string.run input = (.ok text, after)) :
    ∀ byte ∈ Bytes.ofText text, lexical byte = true := by
  simp only [string] at read
  rcases body : textBody .plain [] input with ⟨fault | bytes, stopped⟩
  · simp [body] at read
  · simp only [body] at read
    split at read
    next decoded same =>
      simp only [Prod.mk.injEq, Except.ok.injEq] at read
      rw [← read.1, Bytes.ofText_of_toText? same]
      exact lexical_of_textBody outside (by simp) body
    next => simp at read

/-! ## Pieces -/

/-- A scalar is a text, or nothing but lexical bytes. -/
theorem scalar?_cases {byte : UInt8} {reader : Reader Unit} (chosen : scalar? byte = some reader)
    {rest after : Bytes} (read : reader.run rest = (.ok (), after)) :
    lexical byte = true ∧ Takes rest after ∨ byte = 34 ∧ skipString.run rest = (.ok (), after) := by
  simp only [scalar?] at chosen
  split at chosen
  next letter =>
    cases chosen
    exact .inl ⟨eq_of_beq letter ▸ by decide, takes_ident (by decide) read⟩
  split at chosen
  next letter =>
    cases chosen
    exact .inl ⟨eq_of_beq letter ▸ by decide, takes_ident (by decide) read⟩
  split at chosen
  next letter =>
    cases chosen
    exact .inl ⟨eq_of_beq letter ▸ by decide, takes_ident (by decide) read⟩
  split at chosen
  next sign =>
    cases chosen
    obtain ⟨first, more, rfl, plain, takes⟩ := skipNumber_inversion read
    exact .inl ⟨eq_of_beq sign ▸ by decide, .cons plain takes⟩
  split at chosen
  next digit =>
    cases chosen
    have number : skipNumber.run (byte :: rest) = (.ok (), after) := read
    obtain ⟨first, more, same, plain, takes⟩ := skipNumber_inversion number
    cases same
    exact .inl ⟨plain, takes⟩
  split at chosen
  next quote =>
    cases chosen
    exact .inr ⟨eq_of_beq quote, read⟩
  next => simp at chosen

theorem lexical_opening (frame : Frame) : lexical frame.opening = true := by
  cases frame <;> decide

theorem lexical_closing (frame : Frame) : lexical frame.closing = true := by
  cases frame <;> decide

theorem scan_outside_of_text {input rest after : Bytes} (start : past input = 34 :: rest)
    (read : skipString.run rest = (.ok (), after)) (outside : scan .outside after = true) :
    scan .outside input = true := by
  rw [(takes_past input).scan_outside, start]
  exact scanFrom_of_skipTextBody read outside

theorem scan_inside_of_text {input rest after : Bytes} (start : past input = 34 :: rest)
    (read : skipString.run rest = (.ok (), after)) (inside : scan .inside input = true) :
    scan .inside after = true := by
  rw [(takes_past input).scan_inside, start] at inside
  exact scan_inside_of_skipTextBody inside read

theorem Spans.scan_outside {piece : Piece} {input after : Bytes} (spans : Spans piece input after)
    (outside : scan .outside after = true) : scan .outside input = true := by
  induction spans with
  | scalar start chosen read =>
      rcases scalar?_cases chosen read with ⟨plain, takes⟩ | ⟨rfl, text⟩
      · rw [(takes_past _).scan_outside, start, (takes.cons plain).scan_outside]
        exact outside
      · exact scan_outside_of_text start text outside
  | group frame start inside ih =>
      rw [(Takes.of_past start (lexical_opening frame) (.refl _)).scan_outside]
      exact ih outside
  | pair start value ih =>
      rw [(Takes.of_past start (by decide) (.refl _)).scan_outside]
      exact ih outside
  | member start key pair ih => exact scan_outside_of_text start key (ih outside)
  | ends start =>
      rw [(Takes.of_past start (lexical_closing _) (.refl _)).scan_outside]
      exact outside
  | begins entry more ih ihMore => exact ih (ihMore outside)
  | goesOn start entry more ih ihMore =>
      rw [(Takes.of_past start (by decide) (.refl _)).scan_outside]
      exact ih (ihMore outside)

theorem Spans.scan_inside {piece : Piece} {input after : Bytes} (spans : Spans piece input after)
    (inside : scan .inside input = true) : scan .inside after = true := by
  induction spans with
  | scalar start chosen read =>
      rcases scalar?_cases chosen read with ⟨plain, takes⟩ | ⟨rfl, text⟩
      · rw [(takes_past _).scan_inside, start, (takes.cons plain).scan_inside] at inside
        exact inside
      · exact scan_inside_of_text start text inside
  | group frame start entries ih =>
      rw [(Takes.of_past start (lexical_opening frame) (.refl _)).scan_inside] at inside
      exact ih inside
  | pair start value ih =>
      rw [(Takes.of_past start (by decide) (.refl _)).scan_inside] at inside
      exact ih inside
  | member start key pair ih => exact ih (scan_inside_of_text start key inside)
  | ends start =>
      rw [(Takes.of_past start (lexical_closing _) (.refl _)).scan_inside] at inside
      exact inside
  | begins entry more ih ihMore => exact ihMore (ih inside)
  | goesOn start entry more ih ihMore =>
      rw [(Takes.of_past start (by decide) (.refl _)).scan_inside] at inside
      exact ihMore (ih inside)

end HttpService.Json.Reader
