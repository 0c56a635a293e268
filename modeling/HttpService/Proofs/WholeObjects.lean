import HttpService.Proofs.Spans
import HttpService.Proofs.TextReading
/-! # Objects read to the end of the text

`Completes step first state input last` says that reading member after member with `step`, from
`input` on, comes to a closing brace with nothing but blanks after it and leaves the state `last`.
Unlike the fold it has no bound, so two readers of one text can be followed side by side. -/
set_option autoImplicit false

namespace HttpService.Json.Reader

variable {α σ : Type}

/-- The key of the next member begins after a quote, which a comma precedes unless the member is
the first. -/
inductive KeyAt : Bool -> Bytes -> Bytes -> Prop where
  | first {input rest : Bytes} (quote : past input = 34 :: rest) : KeyAt true input rest
  | later {input more rest : Bytes} (comma : past input = 44 :: more)
      (quote : past more = 34 :: rest) : KeyAt false input rest

inductive Completes (step : σ -> String -> Reader σ) : Bool -> σ -> Bytes -> σ -> Prop where
  | ends {first : Bool} {state : σ} {input rest : Bytes} (brace : past input = 125 :: rest)
      (nothing : past rest = []) : Completes step first state input state
  | member {first : Bool} {state next last : σ} {input rest between after : Bytes} {key : String}
      (here : KeyAt first input rest) (named : string.run rest = (.ok key, between))
      (stepped : (step state key).run between = (.ok next, after))
      (more : Completes step false next after last) : Completes step first state input last

theorem KeyAt.unique {first : Bool} {input rest other : Bytes} (here : KeyAt first input rest)
    (again : KeyAt first input other) : rest = other := by
  cases here with
  | first quote =>
      cases again with
      | first quote' =>
          rw [quote, List.cons.injEq] at quote'
          exact quote'.2
  | later comma quote =>
      cases again with
      | later comma' quote' =>
          rw [comma, List.cons.injEq] at comma'
          rw [← comma'.2, quote, List.cons.injEq] at quote'
          exact quote'.2

theorem KeyAt.no_brace {first : Bool} {input rest after : Bytes} (here : KeyAt first input rest) :
    past input ≠ 125 :: after := by
  cases here with
  | first quote => rw [quote]; simp
  | later comma quote => rw [comma]; simp

theorem keyAt_of_hasMember {first : Bool} {input stopped : Bytes}
    (asked : (hasMember first).run input = (.ok true, stopped)) :
    ∃ rest, stopped = 34 :: rest ∧ KeyAt first input rest := by
  cases answered_of_hasMember asked with
  | begun quote =>
      have start := past_eq_of_head? (quote rfl)
      exact ⟨_, start, .first start⟩
  | further comma quote =>
      have start := past_eq_of_head? (quote rfl)
      exact ⟨_, start, .later comma start⟩

/-- What the fold reads up to the closing brace, if that ends the text. -/
theorem completes_of_fold {step : σ -> String -> Reader σ} {fuel : Nat} {first : Bool}
    {state last : σ} {input stopped rest : Bytes}
    (folded : (foldMembers step fuel first state).run input = (.ok last, stopped))
    (brace : past stopped = 125 :: rest) (nothing : past rest = []) :
    Completes step first state input last := by
  induction fuel generalizing first state input with
  | zero => simp [foldMembers, run_fail] at folded
  | succ fuel ih =>
      obtain ⟨more, begun, asked, folded⟩ := bind_eq_ok.mp folded
      cases more with
      | false =>
          simp only [Bool.false_eq_true, if_false, run_pure, Prod.mk.injEq,
            Except.ok.injEq] at folded
          cases answered_of_hasMember asked with
          | ended start =>
              rw [← folded.2, past_cons start, List.cons.injEq] at brace
              rw [brace.2] at start
              rw [← folded.1]
              exact .ends start nothing
      | true =>
          obtain ⟨after, start, here⟩ := keyAt_of_hasMember asked
          simp only [if_true, start, run_advance_bind, List.tail_cons] at folded
          obtain ⟨key, between, named, folded⟩ := bind_eq_ok.mp folded
          obtain ⟨next, onwards, stepped, folded⟩ := bind_eq_ok.mp folded
          exact .member here named stepped (ih folded)

theorem Completes.spans {step : σ -> String -> Reader σ}
    (sound : ∀ state key next input after, (step state key).run input = (.ok next, after) ->
      Spans .pair input after)
    {first : Bool} {state last : σ} {input : Bytes} (completes : Completes step first state input last) :
    ∃ ending, Spans (.entries .object first) input ending ∧ past ending = [] := by
  induction completes with
  | ends brace nothing => exact ⟨_, .ends brace, nothing⟩
  | member here named stepped more ih =>
      obtain ⟨ending, spans, nothing⟩ := ih
      have pair := sound _ _ _ _ _ stepped
      have skipped := skipString_of_string named
      refine ⟨ending, ?_, nothing⟩
      cases here with
      | first quote => exact .begins (.member quote skipped pair) spans
      | later comma quote => exact .goesOn comma (.member quote skipped pair) spans

end HttpService.Json.Reader
