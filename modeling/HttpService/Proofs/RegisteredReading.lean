import HttpService.Auth.Registered
import HttpService.Proofs.Straying
import HttpService.Proofs.WholeObjects
/-! # The second reading does not lose its way

The second reading of a payload notes a member that it cannot read and goes on wherever the fault
left it. If that is not the end of the member, the rest cannot be read to its end
(`home_of_completes`): what the second reading accepts as a whole, it has read member by member
as they stand. -/
set_option autoImplicit false

namespace HttpService.Registered

open Json Json.Reader

variable {α : Type}

def noted : Except Fault (Option α) -> Finding α
  | .ok (some value) => .found value
  | .ok none => .absent
  | .error _ => .unreadable

theorem run_noting (reader : Reader (Option α)) (input : Bytes) :
    (noting reader).run input = (.ok (noted (reader.run input).1), (reader.run input).2) := by
  simp only [noting, run_bind, run_attempt]
  split
  next same => rw [same]; rfl
  next same => rw [same]; rfl
  next same => rw [same]; rfl

/-! ## Members as they stand -/

theorem seconds_tracks : Tracks .value seconds := by
  intro input after spans followed
  obtain ⟨byte, rest, start, -⟩ := spans.starts .list rfl
  simp only [seconds, run_bind, run_beginning start]
  split
  next bracket =>
    rw [eq_of_beq bracket] at start
    rw [run_advance_bind]
    exact closing_fail_ends (spans.group_of .list start) followed
  split
  next brace =>
    rw [eq_of_beq brace] at start
    rw [run_advance_bind]
    exact closing_fail_ends (spans.group_of .object start) followed
  next =>
    split
    next sign =>
      rw [eq_of_beq sign] at start
      rw [run_advance_bind]
      refine (number_ends (spans.scalar_of start rfl) false).bind fun written => ?_
      split
      · exact ends_pure after _
      · exact ends_fail after _
    split
    next digit =>
      have skipped := spans.scalar_of start (scalar?_digit digit)
      refine (number_ends skipped true).bind fun written => ?_
      split
      · exact ends_pure after _
      · exact ends_fail after _
    next =>
      refine (refuse_ends spans start followed).bind fun written => ?_
      split
      · exact ends_pure after _
      · exact ends_fail after _

theorem names_tracks : Tracks .value names := by
  apply orNull_tracks
  intro input after spans followed
  have read : Ends after ((bounded fun bound => valueWithin bound (depthLimit - 1)).run input) := by
    rw [run_bounded]
    exact valueWithin_tracks (input.length + 1) (depthLimit - 1) input after spans followed
  refine read.bind fun value => ?_
  split
  · exact ends_pure after _
  · exact ends_fail after _

theorem unseen_inversion {seen : List String} {key : String} {reader : Reader (Finding α)}
    {input stopped : Bytes} {finding : Finding α}
    (read : (unseen seen key reader).run input = (.ok finding, stopped)) :
    (do colon; reader : Reader (Finding α)).run input = (.ok finding, stopped) := by
  simp only [unseen] at read
  split at read
  next => simp [run_fail] at read
  next => exact read

theorem noting_stray {reader : Reader (Option α)} (tracks : Tracks .value reader)
    {input after stopped : Bytes} {finding : Finding α} (spans : Spans .pair input after)
    (followed : Followed after)
    (read : (do colon; noting reader).run input = (.ok finding, stopped)) :
    Stray after stopped := by
  obtain ⟨rest, colonSeen, read⟩ := colon_inversion read
  cases spans with
  | pair start value =>
      rw [colonSeen, List.cons.injEq] at start
      rw [run_noting, Prod.mk.injEq] at read
      rw [← start.2] at value
      rw [← read.2]
      exact .of_ends (tracks _ _ value followed)

theorem spans_skipped {input stopped : Bytes}
    (read : (do colon; skip : Reader Unit).run input = (.ok (), stopped)) :
    Spans .pair input stopped := by
  obtain ⟨rest, start, skipped⟩ := colon_inversion read
  exact .pair start (spans_skip _ _ skipped)

/-! ## Members of any name -/

/-- The members whose values are kept. -/
def kept : List String := ["exp", "nbf", "sub", "iss", "aud"]

inductive Stepped (claims : Registered) (key : String) (input stopped : Bytes) :
    Registered -> Prop where
  | expires {finding : Finding Nat} (named : key = "exp")
      (read : (do colon; noting seconds).run input = (.ok finding, stopped)) :
      Stepped claims key input stopped { claims with expires := finding }
  | notBefore {finding : Finding Nat} (named : key = "nbf")
      (read : (do colon; noting seconds).run input = (.ok finding, stopped)) :
      Stepped claims key input stopped { claims with notBefore := finding }
  | subject {finding : Finding String} (named : key = "sub")
      (read : (do colon; noting (orNull textValue)).run input = (.ok finding, stopped)) :
      Stepped claims key input stopped { claims with subject := finding }
  | issuer {finding : Finding Audience} (named : key = "iss")
      (read : (do colon; noting names).run input = (.ok finding, stopped)) :
      Stepped claims key input stopped { claims with issuer := finding }
  | audience {finding : Finding Audience} (named : key = "aud")
      (read : (do colon; noting names).run input = (.ok finding, stopped)) :
      Stepped claims key input stopped { claims with audience := finding }
  | other (unknown : key ∉ kept) (skipped : (do colon; skip).run input = (.ok (), stopped)) :
      Stepped claims key input stopped claims

theorem stepped_of_member {state next : Registered × List String} {key : String}
    {input stopped : Bytes} (read : (member state key).run input = (.ok next, stopped)) :
    Stepped state.1 key input stopped next.1 := by
  obtain ⟨claims, seen⟩ := state
  simp only [member] at read
  split at read
  next =>
    obtain ⟨finding, between, unseenRead, done⟩ := bind_eq_ok.mp read
    cases done
    exact .expires rfl (unseen_inversion unseenRead)
  next =>
    obtain ⟨finding, between, unseenRead, done⟩ := bind_eq_ok.mp read
    cases done
    exact .notBefore rfl (unseen_inversion unseenRead)
  next =>
    obtain ⟨finding, between, unseenRead, done⟩ := bind_eq_ok.mp read
    cases done
    exact .subject rfl (unseen_inversion unseenRead)
  next =>
    obtain ⟨finding, between, unseenRead, done⟩ := bind_eq_ok.mp read
    cases done
    exact .issuer rfl (unseen_inversion unseenRead)
  next =>
    obtain ⟨finding, between, unseenRead, done⟩ := bind_eq_ok.mp read
    cases done
    exact .audience rfl (unseen_inversion unseenRead)
  next noExpires noNotBefore noSubject noIssuer noAudience =>
    obtain ⟨_, between, colonRead, done⟩ := bind_eq_ok.mp read
    obtain ⟨_, _, skipped, done⟩ := bind_eq_ok.mp done
    cases done
    refine .other ?_ (bind_eq_ok.mpr ⟨_, _, colonRead, skipped⟩)
    simp only [kept, List.mem_cons, List.not_mem_nil, or_false, not_or]
    exact ⟨noExpires, noNotBefore, noSubject, noIssuer, noAudience⟩

theorem Stepped.stray {claims next : Registered} {key : String} {input after stopped : Bytes}
    (stepped : Stepped claims key input stopped next) (spans : Spans .pair input after)
    (followed : Followed after) : Stray after stopped := by
  cases stepped with
  | expires named read => exact noting_stray seconds_tracks spans followed read
  | notBefore named read => exact noting_stray seconds_tracks spans followed read
  | subject named read => exact noting_stray (orNull_tracks textValue_tracks) spans followed read
  | issuer named read => exact noting_stray names_tracks spans followed read
  | audience named read => exact noting_stray names_tracks spans followed read
  | other unknown skipped =>
      have same := spans.unique (spans_skipped skipped)
      rw [same]
      exact .home

/-! ## No way back -/

theorem kept_not_lexical : ∀ key ∈ kept, ∃ byte ∈ Bytes.ofText key, lexical byte = false := by
  decide +kernel

theorem Stepped.spans {claims next : Registered} {key : String} {input stopped : Bytes}
    (stepped : Stepped claims key input stopped next)
    (plain : ∀ byte ∈ Bytes.ofText key, lexical byte = true) : Spans .pair input stopped := by
  have unkept : key ∉ kept := by
    intro known
    obtain ⟨byte, present, other⟩ := kept_not_lexical key known
    rw [plain byte present] at other
    cases other
  cases stepped with
  | expires named read => exact absurd (named ▸ by decide) unkept
  | notBefore named read => exact absurd (named ▸ by decide) unkept
  | subject named read => exact absurd (named ▸ by decide) unkept
  | issuer named read => exact absurd (named ▸ by decide) unkept
  | audience named read => exact absurd (named ▸ by decide) unkept
  | other unknown skipped => exact spans_skipped skipped

theorem not_stuck {first : Bool} {state last : Registered × List String} {input : Bytes}
    (completes : Completes member first state input last) (later : first = false) :
    ¬ Stuck input := by
  intro stuck
  cases completes with
  | ends brace nothing =>
      have none := stuck 125 (by rw [brace]; rfl)
      exact none.2.2 rfl
  | member here named stepped more =>
      cases here with
      | first quote => cases later
      | later comma quote =>
          have none := stuck 44 (by rw [comma]; rfl)
          exact none.1 rfl

theorem not_inside {first : Bool} {state last : Registered × List String} {input : Bytes}
    (completes : Completes member first state input last) : ¬ scan .inside input = true := by
  induction completes with
  | ends brace nothing =>
      rename_i rest
      intro inside
      rw [(Takes.of_past brace (by decide) (takes_past rest)).scan_inside, nothing] at inside
      cases inside
  | member here named stepped more ih =>
      rename_i input rest between after key
      intro inside
      apply ih
      have outside : scan .outside rest = true := by
        cases here with
        | first quote =>
            rw [(takes_past _).scan_inside, quote] at inside
            exact inside
        | later comma quote =>
            rw [(Takes.of_past comma (by decide) (takes_past _)).scan_inside, quote] at inside
            exact inside
      -- What is read as a key here stands outside of texts, so it names no member that is kept.
      have member := (stepped_of_member stepped).spans (lexical_of_string outside named)
      apply member.scan_inside
      exact scan_inside_of_skipTextBody outside (skipString_of_string named)

theorem not_deep {first : Bool} {state last : Registered × List String} {input : Bytes}
    (completes : Completes member first state input last) (later : first = false) :
    ¬ Deep input := by
  induction completes with
  | ends brace nothing =>
      rintro ⟨after, spans, followed⟩
      cases spans with
      | ends start =>
          rw [brace, List.cons.injEq] at start
          exact followed.more (start.2 ▸ nothing)
      | goesOn comma entry more =>
          rw [brace, List.cons.injEq] at comma
          exact absurd comma.1 (by decide)
  | member here named stepped more ih =>
      rename_i input rest between stopped key
      rintro ⟨after, spans, followed⟩
      cases here with
      | first quote => cases later
      | later comma quote =>
          cases spans with
          | ends start =>
              rw [comma, List.cons.injEq] at start
              exact absurd start.1 (by decide)
          | goesOn comma' entry rest' =>
              rw [comma, List.cons.injEq] at comma'
              rw [← comma'.2] at entry
              cases entry with
              | member quote' skipped pair =>
                  rw [quote, List.cons.injEq] at quote'
                  rw [← quote'.2, skipString_of_string named, Prod.mk.injEq] at skipped
                  rw [← skipped.2] at pair
                  have onwards : Followed _ := .of_entries rest' followed.outside
                  -- The key is the same one level up; only its value may be given up again.
                  have stray := (stepped_of_member stepped).stray pair onwards
                  cases stray with
                  | home => exact ih rfl ⟨after, rest', followed⟩
                  | stuck stuck => exact not_stuck more rfl stuck
                  | deep _ deep => exact ih rfl deep
                  | inside inside => exact not_inside more inside

/-- A reading that comes to the end of the payload has strayed nowhere. -/
theorem home_of_completes {state last : Registered × List String} {after stopped : Bytes}
    (completes : Completes member false state stopped last) (stray : Stray after stopped) :
    stopped = after := by
  cases stray with
  | home => rfl
  | stuck stuck => exact absurd stuck (not_stuck completes rfl)
  | deep _ deep => exact absurd deep (not_deep completes rfl)
  | inside inside => exact absurd inside (not_inside completes)

end HttpService.Registered
