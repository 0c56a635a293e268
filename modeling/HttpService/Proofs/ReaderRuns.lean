import HttpService.Json.Typed
/-! # Runs of readers

One equation for the run of each primitive reader, and for readers in sequence. `past` is the input
from its first byte on that is no blank; the structural readers look at nothing before it. -/
set_option autoImplicit false

namespace HttpService.Json.Reader

variable {α β : Type}

def past (input : Bytes) : Bytes := input.dropWhile isBlank

theorem past_past (input : Bytes) : past (past input) = past input := by
  induction input with
  | nil => rfl
  | cons byte rest ih =>
      cases blank : isBlank byte with
      | true =>
          have shorter : past (byte :: rest) = past rest := by simp [past, blank]
          rw [shorter, ih]
      | false =>
          have same : past (byte :: rest) = byte :: rest := by simp [past, blank]
          rw [same, same]

theorem past_cons {input rest : Bytes} {byte : UInt8} (start : past input = byte :: rest) :
    past (byte :: rest) = byte :: rest := by
  rw [← start, past_past]

theorem run_pure (a : α) (input : Bytes) : (pure a : Reader α).run input = (.ok a, input) := rfl

theorem run_bind (reader : Reader α) (next : α -> Reader β) (input : Bytes) :
    (reader >>= next).run input =
      match reader.run input with
      | (.ok a, rest) => (next a).run rest
      | (.error fault, rest) => (.error fault, rest) := rfl

theorem bind_eq_ok {reader : Reader α} {next : α -> Reader β} {input rest : Bytes} {b : β} :
    (reader >>= next).run input = (.ok b, rest) ↔
      ∃ a between, reader.run input = (.ok a, between) ∧ (next a).run between = (.ok b, rest) := by
  rw [run_bind]
  constructor
  · intro succeeded
    rcases ran : reader.run input with ⟨fault | a, between⟩
    · simp [ran] at succeeded
    · rw [ran] at succeeded
      exact ⟨a, between, rfl, succeeded⟩
  · rintro ⟨a, between, ran, succeeded⟩
    rw [ran]
    exact succeeded

theorem run_fail (reason : Reason) (input : Bytes) :
    (fail reason : Reader α).run input = (.error ⟨reason, input.length⟩, input) := rfl

theorem run_failPeeked (reason : Reason) (input : Bytes) :
    (failPeeked reason : Reader α).run input = (.error ⟨reason, input.length - 1⟩, input) := rfl

theorem run_peek (input : Bytes) : peek.run input = (.ok input.head?, input) := rfl

theorem run_advance (input : Bytes) : advance.run input = (.ok (), input.tail) := rfl

theorem run_advance_bind (reader : Reader α) (input : Bytes) :
    (do advance; reader : Reader α).run input = reader.run input.tail := rfl

theorem run_next (input : Bytes) : next.run input = (.ok input.head?, input.tail) := rfl

theorem run_peekPastBlanks (input : Bytes) :
    peekPastBlanks.run input = (.ok (past input).head?, past input) := rfl

theorem run_digits (input : Bytes) :
    digits.run input = (.ok (input.takeWhile Bytes.isDigit), input.dropWhile Bytes.isDigit) := rfl

theorem run_bounded (reader : Nat -> Reader α) (input : Bytes) :
    (bounded reader).run input = (reader (input.length + 1)).run input := rfl

theorem run_attempt (reader : Reader α) (input : Bytes) :
    (attempt reader).run input = (.ok (reader.run input).1, (reader.run input).2) := rfl

theorem run_beginning {input rest : Bytes} {byte : UInt8} (start : past input = byte :: rest) :
    beginning.run input = (.ok byte, byte :: rest) := by
  simp only [beginning, run_bind, run_peekPastBlanks, start]
  rfl

theorem past_eq_of_head? {input : Bytes} {byte : UInt8} (head : (past input).head? = some byte) :
    past input = byte :: (past input).tail := by
  cases seen : past input with
  | nil => simp [seen] at head
  | cons first rest =>
      simp only [seen, List.head?_cons, Option.some.injEq] at head
      rw [head]
      rfl

theorem run_literal {name : List Char} {rest after : Bytes}
    (named : (ident name).run rest = (.ok (), after)) (byte : UInt8) (last : Reader α) :
    (do advance; ident name; last : Reader α).run (byte :: rest) = last.run after := by
  simp only [run_bind, run_advance, List.tail_cons, named]

theorem run_colon (input : Bytes) :
    colon.run input = (.ok (), (past input).tail) ∧ (past input).head? = some 58 ∨
      (∃ fault, colon.run input = (.error fault, past input)) ∧ (past input).head? ≠ some 58 := by
  simp only [colon, run_bind, run_peekPastBlanks]
  split
  · left; constructor; rfl; assumption
  · right; simp_all; exact ⟨_, rfl⟩
  · right; simp_all; exact ⟨_, rfl⟩

theorem colon_inversion {reader : Reader α} {input after : Bytes} {a : α}
    (read : (do colon; reader : Reader α).run input = (.ok a, after)) :
    ∃ rest, past input = 58 :: rest ∧ reader.run rest = (.ok a, after) := by
  obtain ⟨_, between, colonRead, read⟩ := bind_eq_ok.mp read
  rcases run_colon input with ⟨ran, colonSeen⟩ | ⟨⟨fault, ran⟩, -⟩
  · simp only [ran, Prod.mk.injEq, true_and] at colonRead
    rw [← colonRead] at read
    exact ⟨_, past_eq_of_head? colonSeen, read⟩
  · simp [ran] at colonRead

theorem all_of_run {reader : Reader α} {input : Bytes} {a : α}
    (read : reader.run input = (.ok a, [])) : all reader input = .ok a := by
  simp only [all, run_bind, read]
  rfl

/-- What is read of a whole text leaves nothing but blanks. -/
theorem all_inversion {reader : Reader α} {input : Bytes} {a : α}
    (read : all reader input = .ok a) :
    ∃ rest, reader.run input = (.ok a, rest) ∧ past rest = [] := by
  simp only [all, run_bind] at read
  rcases ran : reader.run input with ⟨fault | b, rest⟩
  · simp [ran] at read
  · simp only [ran, finished, run_bind, run_peekPastBlanks] at read
    cases remaining : past rest with
    | nil =>
        simp only [remaining, List.head?_nil, run_pure, Except.ok.injEq] at read
        rw [read]
        exact ⟨rest, rfl, remaining⟩
    | cons byte more => simp [remaining, run_failPeeked] at read

end HttpService.Json.Reader
