import HttpService.Proofs.ClaimsReading
import HttpService.Proofs.RegisteredReading
/-! # The two readings of a payload agree

A payload is read twice, into `Claims` and into `Registered`. The second reading skips what it
cannot use, so it might find a time of expiry or an issuer where the first has seen none. It does
not: where both accept the payload and the second has found a time of expiry and an issuer, they
are those of the claims (`readings_agree`). Both walk the members of an object side by side, and a
list has a text where the second reading looks for a time. -/
set_option autoImplicit false

namespace HttpService

open Json Json.Reader

/-! ## One member -/

theorem Claims.Stepped.expiry {found next : Claims.Partial} {key : String} {input after : Bytes}
    (stepped : Claims.Stepped found key input after next) :
    (key = "exp" ∧ ∃ rest time, past input = 58 :: rest ∧
      Claims.timeValue.run rest = (.ok time, after) ∧ next.expiresAt = some time) ∨
    (key ≠ "exp" ∧ next.expiresAt = found.expiresAt) := by
  cases stepped with
  | expiresAt named new start read => exact .inl ⟨named, _, _, start, read, rfl⟩
  | subject named new start read => exact .inr ⟨by rw [named]; decide, rfl⟩
  | roles named new start read => exact .inr ⟨by rw [named]; decide, rfl⟩
  | issuer named new start read => exact .inr ⟨by rw [named]; decide, rfl⟩
  | issuedAt named new start read => exact .inr ⟨by rw [named]; decide, rfl⟩
  | other unknown start skipped =>
      refine .inr ⟨?_, rfl⟩
      intro named
      exact unknown (named ▸ by decide)

theorem Claims.Stepped.source {found next : Claims.Partial} {key : String} {input after : Bytes}
    (stepped : Claims.Stepped found key input after next) :
    (key = "iss" ∧ ∃ rest text, past input = 58 :: rest ∧
      textValue.run rest = (.ok text, after) ∧ next.issuer = some text) ∨
    (key ≠ "iss" ∧ next.issuer = found.issuer) := by
  cases stepped with
  | issuer named new start read => exact .inl ⟨named, _, _, start, read, rfl⟩
  | subject named new start read => exact .inr ⟨by rw [named]; decide, rfl⟩
  | roles named new start read => exact .inr ⟨by rw [named]; decide, rfl⟩
  | issuedAt named new start read => exact .inr ⟨by rw [named]; decide, rfl⟩
  | expiresAt named new start read => exact .inr ⟨by rw [named]; decide, rfl⟩
  | other unknown start skipped =>
      refine .inr ⟨?_, rfl⟩
      intro named
      exact unknown (named ▸ by decide)

theorem Registered.Stepped.expiry {claims next : Registered} {key : String} {input after : Bytes}
    (stepped : Registered.Stepped claims key input after next) :
    (key = "exp" ∧
      (do colon; Registered.noting Registered.seconds).run input = (.ok next.expires, after)) ∨
    (key ≠ "exp" ∧ next.expires = claims.expires) := by
  cases stepped with
  | expires named read => exact .inl ⟨named, read⟩
  | notBefore named read => exact .inr ⟨by rw [named]; decide, rfl⟩
  | subject named read => exact .inr ⟨by rw [named]; decide, rfl⟩
  | issuer named read => exact .inr ⟨by rw [named]; decide, rfl⟩
  | audience named read => exact .inr ⟨by rw [named]; decide, rfl⟩
  | other unknown skipped =>
      refine .inr ⟨?_, rfl⟩
      intro named
      exact unknown (named ▸ by decide)

theorem Registered.Stepped.source {claims next : Registered} {key : String} {input after : Bytes}
    (stepped : Registered.Stepped claims key input after next) :
    (key = "iss" ∧
      (do colon; Registered.noting Registered.names).run input = (.ok next.issuer, after)) ∨
    (key ≠ "iss" ∧ next.issuer = claims.issuer) := by
  cases stepped with
  | issuer named read => exact .inl ⟨named, read⟩
  | expires named read => exact .inr ⟨by rw [named]; decide, rfl⟩
  | notBefore named read => exact .inr ⟨by rw [named]; decide, rfl⟩
  | subject named read => exact .inr ⟨by rw [named]; decide, rfl⟩
  | audience named read => exact .inr ⟨by rw [named]; decide, rfl⟩
  | other unknown skipped =>
      refine .inr ⟨?_, rfl⟩
      intro named
      exact unknown (named ▸ by decide)

/-! ## One value -/

theorem Registered.run_seconds {input after : Bytes} {written : JsonNumber}
    (here : NumberAt input after written) :
    Registered.seconds.run input =
      (match Registered.secondsOf? written with
        | some whole => .ok (some whole)
        | none => .error ⟨.mismatch, after.length⟩, after) := by
  cases here with
  | signed start read =>
      simp only [Registered.seconds, run_bind, run_beginning start]
      rw [if_neg (by decide), if_neg (by decide), if_pos (by decide), run_advance_bind]
      simp only [run_bind, List.tail_cons, read]
      cases Registered.secondsOf? written with
      | some whole => rfl
      | none => rfl
  | unsigned start digit read =>
      simp only [Registered.seconds, run_bind, run_beginning start]
      rw [digit_ne digit (by decide), digit_ne digit (by decide), digit_ne digit (by decide), digit]
      simp only [Bool.false_eq_true, if_false, if_true, run_bind, read]
      cases Registered.secondsOf? written with
      | some whole => rfl
      | none => rfl

theorem seconds_agree {input after stopped : Bytes} {time : Timestamp} {seconds : Nat}
    (first : Claims.timeValue.run input = (.ok time, after))
    (second : (Registered.noting Registered.seconds).run input = (.ok (.found seconds), stopped)) :
    time.seconds = seconds := by
  obtain ⟨written, here, whole⟩ := Claims.timeValue_inversion first
  rw [Registered.run_noting, Registered.run_seconds here] at second
  cases written with
  | natural value =>
      simp only [Registered.secondsOf?, Registered.noted, Prod.mk.injEq, Except.ok.injEq,
        Finding.found.injEq] at second
      simp only [JsonNumber.toInt?, Option.some.injEq] at whole
      rw [← whole, second.1]
  | negative magnitude =>
      simp [Registered.secondsOf?, Registered.noted] at second
  | binary value => simp [JsonNumber.toInt?] at whole

theorem Registered.run_names {input after : Bytes} {text : String}
    (read : textValue.run input = (.ok text, after)) :
    Registered.names.run input = (.ok (some (.one text)), after) := by
  obtain ⟨rest, start, textRead⟩ := textValue_inversion read
  have value : (valueWithin ((34 :: rest).length + 1) (depthLimit - 1)).run (34 :: rest) =
      (.ok (.text text), after) := by
    simp only [valueWithin, run_bind, run_peekPastBlanks, past_cons start, List.head?_cons]
    rw [if_neg (by decide), if_neg (by decide), if_neg (by decide), if_neg (by decide),
      if_neg (by decide), if_pos (by decide), run_advance_bind, run_bind, List.tail_cons, textRead]
    rfl
  simp only [Registered.names, orNull, run_bind, run_peekPastBlanks, start, List.head?_cons]
  split
  next null => simp at null
  next =>
    simp only [run_bind, run_bounded, value]
    rfl

theorem issuer_agrees {input after stopped : Bytes} {text : String} {names : Audience}
    (first : textValue.run input = (.ok text, after))
    (second : (Registered.noting Registered.names).run input = (.ok (.found names), stopped)) :
    names = .one text := by
  rw [Registered.run_noting, Registered.run_names first] at second
  simp only [Registered.noted, Prod.mk.injEq, Except.ok.injEq, Finding.found.injEq] at second
  exact second.1.symm

/-! ## One object -/

/-- What the second reading has found so far, the first has found. -/
structure Agrees (found : Claims.Partial) (registered : Registered) : Prop where
  expiry : ∀ seconds, registered.expires = .found seconds ->
    ∃ time, found.expiresAt = some time ∧ time.seconds = seconds
  source : ∀ names, registered.issuer = .found names ->
    ∃ name, found.issuer = some name ∧ names = .one name

theorem Agrees.step {found nextFound : Claims.Partial} {registered nextRegistered : Registered}
    {key : String} {input after stopped : Bytes} (agrees : Agrees found registered)
    (first : Claims.Stepped found key input after nextFound)
    (second : Registered.Stepped registered key input stopped nextRegistered) :
    Agrees nextFound nextRegistered := by
  constructor
  · intro seconds finding
    rcases first.expiry with ⟨named, rest, time, start, read, present⟩ | ⟨unnamed, kept⟩
    · rcases second.expiry with ⟨-, noted⟩ | ⟨unnamed, -⟩
      · obtain ⟨rest', start', noted⟩ := colon_inversion noted
        rw [start, List.cons.injEq] at start'
        rw [← start'.2, finding] at noted
        exact ⟨time, present, seconds_agree read noted⟩
      · exact absurd named unnamed
    · rcases second.expiry with ⟨named, -⟩ | ⟨-, same⟩
      · exact absurd named unnamed
      · rw [kept]
        exact agrees.expiry seconds (same ▸ finding)
  · intro names finding
    rcases first.source with ⟨named, rest, text, start, read, present⟩ | ⟨unnamed, kept⟩
    · rcases second.source with ⟨-, noted⟩ | ⟨unnamed, -⟩
      · obtain ⟨rest', start', noted⟩ := colon_inversion noted
        rw [start, List.cons.injEq] at start'
        rw [← start'.2, finding] at noted
        exact ⟨text, present, issuer_agrees read noted⟩
      · exact absurd named unnamed
    · rcases second.source with ⟨named, -⟩ | ⟨-, same⟩
      · exact absurd named unnamed
      · rw [kept]
        exact agrees.source names (same ▸ finding)

theorem Agrees.all {found last : Claims.Partial} {first : Bool} {input : Bytes}
    {state final : Registered × List String}
    (claimed : Completes Claims.member first found input last)
    (noted : Completes Registered.member first state input final) (agrees : Agrees found state.1) :
    Agrees last final.1 := by
  induction claimed generalizing state with
  | ends brace nothing =>
      cases noted with
      | ends brace' nothing' => exact agrees
      | member here named stepped more => exact absurd brace here.no_brace
  | member here named stepped more ih =>
      cases noted with
      | ends brace nothing => exact absurd brace here.no_brace
      | member here' named' stepped' more' =>
          have same := here.unique here'
          subst same
          rw [named, Prod.mk.injEq, Except.ok.injEq] at named'
          obtain ⟨rfl, rfl⟩ := named'
          have claim := Claims.stepped_of_member stepped
          have note := Registered.stepped_of_member stepped'
          obtain ⟨ending, spans, nothing⟩ := more.spans Claims.spans_member
          have outside : scan .outside ending = true := by
            rw [(takes_past ending).scan_outside, nothing]
            rfl
          have followed : Followed _ := .of_entries spans outside
          -- The second reading may have strayed, but then its rest would not be read.
          have home := Registered.home_of_completes more' (note.stray claim.spans followed)
          rw [home] at more'
          exact ih more' (agrees.step claim note)

/-! ## One payload -/

/-- A payload is an object or a list, and nothing but blanks follows its end. -/
theorem framed_inversion {α : Type} {members items : Reader α} {payload : Bytes} {a : α}
    (read : (do
      let byte ← beginning
      if byte == 123 then do advance; closing members endMembers
      else if byte == 91 then do advance; closing items endItems
      else refuse byte : Reader α).all payload = .ok a) :
    (∃ rest between ending, past payload = 123 :: rest ∧ members.run rest = (.ok a, between) ∧
      past between = 125 :: ending ∧ past ending = []) ∨
    (∃ rest between ending, past payload = 91 :: rest ∧ items.run rest = (.ok a, between) ∧
      past between = 93 :: ending ∧ past ending = []) := by
  obtain ⟨ending, read, nothing⟩ := all_inversion read
  obtain ⟨byte, begun, begins, read⟩ := bind_eq_ok.mp read
  obtain ⟨rfl, start⟩ := beginning_inversion begins
  split at read
  next brace =>
    rw [eq_of_beq brace] at start
    rw [run_advance_bind] at read
    obtain ⟨between, read, closes⟩ := closing_inversion .object read
    exact .inl ⟨_, between, ending, start, read, closes, nothing⟩
  split at read
  next bracket =>
    rw [eq_of_beq bracket] at start
    rw [run_advance_bind] at read
    obtain ⟨between, read, closes⟩ := closing_inversion .list read
    exact .inr ⟨_, between, ending, start, read, closes, nothing⟩
  next => exact absurd read (refuses_refuse byte _ _ _)

theorem Claims.read_inversion {payload : Bytes} {claims : Claims}
    (read : Claims.read payload = .ok claims) :
    (∃ rest last, past payload = 123 :: rest ∧ Completes Claims.member true {} rest last ∧
      last.issuer = some claims.issuer ∧ last.expiresAt = some claims.expiresAt) ∨
    (∃ rest between, past payload = 91 :: rest ∧
      Claims.listed.run rest = (.ok claims, between)) := by
  rcases framed_inversion read with ⟨rest, between, ending, start, read, closes, nothing⟩ |
    ⟨rest, between, ending, start, read, _, _⟩
  · rw [run_bounded] at read
    obtain ⟨last, stopped, folded, read⟩ := bind_eq_ok.mp read
    obtain ⟨issuer, expiresAt, rfl⟩ := Claims.complete_inversion read
    exact .inl ⟨rest, last, start, completes_of_fold folded closes nothing, issuer, expiresAt⟩
  · exact .inr ⟨rest, between, start, read⟩

theorem Registered.read_inversion {payload : Bytes} {registered : Registered}
    (read : Registered.read payload = .ok registered) :
    (∃ rest last, past payload = 123 :: rest ∧
      Completes Registered.member true ({}, []) rest last ∧ last.1 = registered) ∨
    (∃ rest between, past payload = 91 :: rest ∧
      Registered.listed.run rest = (.ok registered, between)) := by
  rcases framed_inversion read with ⟨rest, between, ending, start, read, closes, nothing⟩ |
    ⟨rest, between, ending, start, read, _, _⟩
  · rw [run_bounded] at read
    obtain ⟨last, stopped, folded, done⟩ := bind_eq_ok.mp read
    cases done
    exact .inl ⟨rest, last, start, completes_of_fold folded closes nothing, rfl⟩
  · exact .inr ⟨rest, between, start, read⟩

theorem itemOf_inversion {α : Type} {first : Bool} {item : Reader α} {input after : Bytes} {a : α}
    (read : (itemOf first item).run input = (.ok a, after)) :
    ∃ begun, (hasItem first).run input = (.ok true, begun) ∧ item.run begun = (.ok a, after) := by
  obtain ⟨more, begun, asked, read⟩ := bind_eq_ok.mp read
  cases more with
  | false => simp [run_fail] at read
  | true => exact ⟨begun, asked, read⟩

theorem seconds_refuse_text {input rest : Bytes} (start : past input = 34 :: rest)
    (whole : Option Nat) (after : Bytes) : Registered.seconds.run input ≠ (.ok whole, after) := by
  intro read
  simp only [Registered.seconds, run_bind, run_beginning start] at read
  rw [if_neg (by decide), if_neg (by decide), if_neg (by decide), if_neg (by decide)] at read
  exact absurd read ((refuses_refuse 34).before _ _ _)

/-- A list of claims begins with a text, so the second reading finds no time of expiry in it. -/
theorem listed_expiry {rest between stopped : Bytes} {claims : Claims} {registered : Registered}
    (first : Claims.listed.run rest = (.ok claims, between))
    (second : Registered.listed.run rest = (.ok registered, stopped)) (seconds : Nat) :
    registered.expires ≠ .found seconds := by
  obtain ⟨subject, afterSubject, subjectRead, -⟩ := bind_eq_ok.mp first
  obtain ⟨begun, asked, subjectRead⟩ := itemOf_inversion subjectRead
  obtain ⟨quoted, start, -⟩ := textValue_inversion subjectRead
  obtain ⟨expires, afterExpires, expiresRead, second⟩ := bind_eq_ok.mp second
  obtain ⟨begun', asked', expiresRead⟩ := itemOf_inversion expiresRead
  rw [asked, Prod.mk.injEq] at asked'
  rw [← asked'.2, Registered.run_noting] at expiresRead
  obtain ⟨_, _, -, second⟩ := bind_eq_ok.mp second
  obtain ⟨_, _, -, second⟩ := bind_eq_ok.mp second
  obtain ⟨_, _, -, second⟩ := bind_eq_ok.mp second
  obtain ⟨_, _, -, done⟩ := bind_eq_ok.mp second
  cases done
  rcases ran : Registered.seconds.run begun with ⟨fault | whole, after⟩
  · rw [ran] at expiresRead
    cases expiresRead
    simp [Registered.noted]
  · exact absurd ran (seconds_refuse_text start whole after)

/-- What the second reading of a payload has found is what the first has read. -/
theorem readings_agree {payload : Bytes} {claims : Claims} {registered : Registered}
    {seconds : Nat} {names : Audience} (first : Claims.read payload = .ok claims)
    (second : Registered.read payload = .ok registered)
    (expires : registered.expires = .found seconds) (issuer : registered.issuer = .found names) :
    claims.expiresAt.seconds = seconds ∧ names = .one claims.issuer := by
  rcases Claims.read_inversion first with
    ⟨rest, last, brace, claimed, lastIssuer, lastExpiry⟩ | ⟨rest, between, bracket, listed⟩
  · rcases Registered.read_inversion second with
      ⟨rest', final, brace', noted, rfl⟩ | ⟨rest', stopped, bracket, -⟩
    · rw [brace, List.cons.injEq] at brace'
      rw [← brace'.2] at noted
      have start : Agrees {} ({} : Registered) := by
        constructor
        · intro seconds finding
          cases finding
        · intro names finding
          cases finding
      have agrees := start.all claimed noted
      obtain ⟨time, present, sameTime⟩ := agrees.expiry seconds expires
      obtain ⟨name, here, sameName⟩ := agrees.source names issuer
      rw [lastExpiry, Option.some.injEq] at present
      rw [lastIssuer, Option.some.injEq] at here
      rw [present, here]
      exact ⟨sameTime, sameName⟩
    · rw [brace, List.cons.injEq] at bracket
      exact absurd bracket.1 (by decide)
  · rcases Registered.read_inversion second with
      ⟨rest', final, brace, -⟩ | ⟨rest', stopped, bracket', listed'⟩
    · rw [bracket, List.cons.injEq] at brace
      exact absurd brace.1 (by decide)
    · rw [bracket, List.cons.injEq] at bracket'
      rw [← bracket'.2] at listed'
      exact absurd expires (listed_expiry listed listed' seconds)

end HttpService
