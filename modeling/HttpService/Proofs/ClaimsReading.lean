import HttpService.Auth.Claims
import HttpService.Proofs.NumberReading
import HttpService.Proofs.WholeObjects
/-! # What the reading of claims accepts

The first reading of a payload is strict: a reader of a wanted shape that succeeds has read one
well-formed value, so every member it accepts is read past as well (`Stepped.spans`). -/
set_option autoImplicit false

namespace HttpService.Json.Reader

variable {α β : Type}

def Refuses (reader : Reader α) : Prop := ∀ input a rest, reader.run input ≠ (.ok a, rest)

theorem refuses_fail (reason : Reason) : Refuses (fail reason : Reader α) := by
  intro input a rest read
  simp [run_fail] at read

theorem refuses_failPeeked (reason : Reason) : Refuses (failPeeked reason : Reader α) := by
  intro input a rest read
  simp [run_failPeeked] at read

theorem Refuses.after {reader : Reader α} {next : α -> Reader β}
    (refuses : ∀ a, Refuses (next a)) : Refuses (reader >>= next) := by
  intro input b rest read
  obtain ⟨a, between, _, read⟩ := bind_eq_ok.mp read
  exact refuses a between b rest read

theorem Refuses.before {reader : Reader α} {next : α -> Reader β} (refuses : Refuses reader) :
    Refuses (reader >>= next) := by
  intro input b rest read
  obtain ⟨a, between, read, _⟩ := bind_eq_ok.mp read
  exact refuses input a between read

theorem refuses_refuse (byte : UInt8) : Refuses (refuse byte : Reader α) := by
  have last : Refuses (fail .mismatch : Reader α) := refuses_fail .mismatch
  unfold refuse
  split
  next => exact .after fun _ => .after fun _ => last
  split
  next => exact .after fun _ => .after fun _ => last
  split
  next => exact .after fun _ => .after fun _ => last
  split
  next => exact .after fun _ => .after fun _ => last
  split
  next => exact .after fun _ => last
  split
  next => exact .after fun _ => .after fun _ => last
  split
  next => exact last
  next => exact refuses_failPeeked .expectedValue

theorem beginning_inversion {input rest : Bytes} {byte : UInt8}
    (read : beginning.run input = (.ok byte, rest)) :
    rest = past input ∧ past input = byte :: (past input).tail := by
  simp only [beginning, run_bind, run_peekPastBlanks] at read
  split at read
  next head =>
    simp only [run_pure, Prod.mk.injEq, Except.ok.injEq] at read
    rw [read.1] at head
    exact ⟨read.2.symm, past_eq_of_head? head⟩
  next => simp [run_failPeeked] at read

/-! ## Texts and numbers -/

theorem textValue_inversion {input after : Bytes} {text : String}
    (read : textValue.run input = (.ok text, after)) :
    ∃ rest, past input = 34 :: rest ∧ string.run rest = (.ok text, after) := by
  obtain ⟨byte, begun, begins, read⟩ := bind_eq_ok.mp read
  obtain ⟨rfl, start⟩ := beginning_inversion begins
  split at read
  next quote =>
    rw [eq_of_beq quote] at start
    exact ⟨_, start, read⟩
  next => exact absurd read (refuses_refuse byte _ _ _)

theorem spans_textValue {input after : Bytes} {text : String}
    (read : textValue.run input = (.ok text, after)) : Spans .value input after := by
  obtain ⟨rest, start, read⟩ := textValue_inversion read
  exact .scalar start rfl (skipString_of_string read)

inductive NumberAt (input after : Bytes) (written : JsonNumber) : Prop where
  | signed {rest : Bytes} (start : past input = 45 :: rest)
      (read : (number false).run rest = (.ok written, after)) : NumberAt input after written
  | unsigned {rest : Bytes} {byte : UInt8} (start : past input = byte :: rest)
      (digit : Bytes.isDigit byte = true)
      (read : (number true).run (byte :: rest) = (.ok written, after)) :
      NumberAt input after written

theorem NumberAt.spans {input after : Bytes} {written : JsonNumber}
    (here : NumberAt input after written) : Spans .value input after := by
  cases here with
  | signed start read => exact .scalar start rfl (skipNumber_of_number read)
  | unsigned start digit read =>
      exact .scalar start (scalar?_digit digit) (skipNumber_of_number read)

theorem wholeValue_inversion {input after : Bytes} {whole : Int}
    (read : wholeValue.run input = (.ok whole, after)) :
    ∃ written, NumberAt input after written ∧ written.toInt? = some whole := by
  obtain ⟨byte, begun, begins, read⟩ := bind_eq_ok.mp read
  obtain ⟨rfl, start⟩ := beginning_inversion begins
  split at read
  next sign =>
    rw [eq_of_beq sign] at start
    rw [run_advance_bind] at read
    obtain ⟨written, between, numberRead, read⟩ := bind_eq_ok.mp read
    simp only at read
    split at read
    next same =>
      cases read
      exact ⟨written, .signed start numberRead, same⟩
    next => simp [run_fail] at read
  split at read
  next digit =>
    obtain ⟨written, between, numberRead, read⟩ := bind_eq_ok.mp read
    rw [start] at numberRead
    simp only at read
    split at read
    next same =>
      cases read
      exact ⟨written, .unsigned start digit numberRead, same⟩
    next => simp [run_fail] at read
  next => exact absurd read ((refuses_refuse byte).before _ _ _)

theorem spans_listOf {item : Reader α}
    (sound : ∀ input after a, item.run input = (.ok a, after) -> Spans .value input after)
    {input after : Bytes} {items : List α} (read : (listOf item).run input = (.ok items, after)) :
    Spans .value input after := by
  obtain ⟨byte, begun, begins, read⟩ := bind_eq_ok.mp read
  obtain ⟨rfl, start⟩ := beginning_inversion begins
  split at read
  next bracket =>
    rw [eq_of_beq bracket] at start
    rw [run_advance_bind] at read
    obtain ⟨between, folded, closes⟩ := closing_inversion .list read
    rw [run_bounded] at folded
    obtain ⟨gathered, stopped, folded, done⟩ := bind_eq_ok.mp folded
    cases done
    rw [foldItems_run] at folded
    refine .group .list start (spans_foldEntries ?_ folded closes)
    intro state next input after _ stepped
    obtain ⟨a, between, itemRead, done⟩ := bind_eq_ok.mp stepped
    cases done
    exact sound _ _ _ itemRead
  next => exact absurd read (refuses_refuse byte _ _ _)

end HttpService.Json.Reader

namespace HttpService.Claims

open Json Json.Reader

theorem timeValue_inversion {input after : Bytes} {time : Timestamp}
    (read : timeValue.run input = (.ok time, after)) :
    ∃ written, NumberAt input after written ∧ written.toInt? = some time.seconds := by
  obtain ⟨whole, between, wholeRead, read⟩ := bind_eq_ok.mp read
  split at read
  next inRange =>
    cases read
    obtain ⟨written, here, same⟩ := wholeValue_inversion wholeRead
    simp only [Timestamp.ofSeconds?] at inRange
    split at inRange
    next =>
      cases inRange
      exact ⟨written, here, same⟩
    next => cases inRange
  next => simp [run_fail] at read

theorem spans_rolesValue {input after : Bytes} {roles : Roles}
    (read : rolesValue.run input = (.ok roles, after)) : Spans .value input after := by
  obtain ⟨names, between, listed, done⟩ := bind_eq_ok.mp read
  cases done
  exact spans_listOf (fun _ _ _ textRead => spans_textValue textRead) listed

/-! ## Members -/

theorem onlyOnce_inversion {α : Type} {present result : Option α} {reader : Reader α}
    {input after : Bytes} (read : (onlyOnce present reader).run input = (.ok result, after)) :
    ∃ rest a, present = none ∧ past input = 58 :: rest ∧ reader.run rest = (.ok a, after) ∧
      result = some a := by
  simp only [onlyOnce] at read
  split at read
  next => simp [run_fail] at read
  next new =>
    obtain ⟨rest, start, read⟩ := colon_inversion read
    obtain ⟨a, stopped, itemRead, done⟩ := bind_eq_ok.mp read
    cases done
    simp only [Bool.not_eq_true, Option.isSome_eq_false_iff, Option.isNone_iff_eq_none] at new
    exact ⟨rest, a, new, start, itemRead, rfl⟩

def known : List String := ["sub", "roles", "iss", "iat", "exp"]

/-- What reading one member does. -/
inductive Stepped (found : Partial) (key : String) (input after : Bytes) : Partial -> Prop where
  | subject {rest : Bytes} {text : String} (named : key = "sub") (new : found.subject = none)
      (start : past input = 58 :: rest) (read : textValue.run rest = (.ok text, after)) :
      Stepped found key input after { found with subject := some text }
  | roles {rest : Bytes} {roles : Roles} (named : key = "roles") (new : found.roles = none)
      (start : past input = 58 :: rest) (read : rolesValue.run rest = (.ok roles, after)) :
      Stepped found key input after { found with roles := some roles }
  | issuer {rest : Bytes} {text : String} (named : key = "iss") (new : found.issuer = none)
      (start : past input = 58 :: rest) (read : textValue.run rest = (.ok text, after)) :
      Stepped found key input after { found with issuer := some text }
  | issuedAt {rest : Bytes} {time : Timestamp} (named : key = "iat") (new : found.issuedAt = none)
      (start : past input = 58 :: rest) (read : timeValue.run rest = (.ok time, after)) :
      Stepped found key input after { found with issuedAt := some time }
  | expiresAt {rest : Bytes} {time : Timestamp} (named : key = "exp")
      (new : found.expiresAt = none) (start : past input = 58 :: rest)
      (read : timeValue.run rest = (.ok time, after)) :
      Stepped found key input after { found with expiresAt := some time }
  | other {rest : Bytes} (unknown : key ∉ known) (start : past input = 58 :: rest)
      (skipped : skip.run rest = (.ok (), after)) : Stepped found key input after found

theorem stepped_of_member {found next : Partial} {key : String} {input after : Bytes}
    (read : (member found key).run input = (.ok next, after)) :
    Stepped found key input after next := by
  simp only [member] at read
  split at read
  next =>
    obtain ⟨result, between, once, done⟩ := bind_eq_ok.mp read
    obtain ⟨rest, text, new, start, read, rfl⟩ := onlyOnce_inversion once
    cases done
    exact .subject rfl new start read
  next =>
    obtain ⟨result, between, once, done⟩ := bind_eq_ok.mp read
    obtain ⟨rest, roles, new, start, read, rfl⟩ := onlyOnce_inversion once
    cases done
    exact .roles rfl new start read
  next =>
    obtain ⟨result, between, once, done⟩ := bind_eq_ok.mp read
    obtain ⟨rest, text, new, start, read, rfl⟩ := onlyOnce_inversion once
    cases done
    exact .issuer rfl new start read
  next =>
    obtain ⟨result, between, once, done⟩ := bind_eq_ok.mp read
    obtain ⟨rest, time, new, start, read, rfl⟩ := onlyOnce_inversion once
    cases done
    exact .issuedAt rfl new start read
  next =>
    obtain ⟨result, between, once, done⟩ := bind_eq_ok.mp read
    obtain ⟨rest, time, new, start, read, rfl⟩ := onlyOnce_inversion once
    cases done
    exact .expiresAt rfl new start read
  next noSubject noRoles noIssuer noIssuedAt noExpiresAt =>
    obtain ⟨rest, start, read⟩ := colon_inversion read
    obtain ⟨_, _, skipped, done⟩ := bind_eq_ok.mp read
    cases done
    refine .other ?_ start skipped
    simp only [known, List.mem_cons, List.not_mem_nil, or_false, not_or]
    exact ⟨noSubject, noRoles, noIssuer, noIssuedAt, noExpiresAt⟩

theorem Stepped.spans {found next : Partial} {key : String} {input after : Bytes}
    (stepped : Stepped found key input after next) : Spans .pair input after := by
  have timed {rest : Bytes} {time : Timestamp} (read : timeValue.run rest = (.ok time, after)) :
      Spans .value rest after := by
    obtain ⟨written, here, -⟩ := timeValue_inversion read
    exact here.spans
  cases stepped with
  | subject named new start read => exact .pair start (spans_textValue read)
  | roles named new start read => exact .pair start (spans_rolesValue read)
  | issuer named new start read => exact .pair start (spans_textValue read)
  | issuedAt named new start read => exact .pair start (timed read)
  | expiresAt named new start read => exact .pair start (timed read)
  | other unknown start skipped => exact .pair start (spans_skip _ _ skipped)

theorem spans_member (found : Partial) (key : String) (next : Partial) (input after : Bytes)
    (read : (member found key).run input = (.ok next, after)) : Spans .pair input after :=
  (stepped_of_member read).spans

/-! ## Whole payloads -/

theorem complete_inversion {found : Partial} {claims : Claims} {input after : Bytes}
    (read : found.complete.run input = (.ok claims, after)) :
    found.issuer = some claims.issuer ∧ found.expiresAt = some claims.expiresAt ∧ input = after := by
  simp only [Partial.complete] at read
  split at read
  next subject issuer issuedAt expiresAt =>
    cases read
    exact ⟨issuer, expiresAt, rfl⟩
  next => simp [run_fail] at read

end HttpService.Claims
