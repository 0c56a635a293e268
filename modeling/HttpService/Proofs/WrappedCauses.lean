import HttpService.Proofs.Escalation
import Mathlib.Data.List.Basic
/-! # Lost connections behind other errors

An error may be made the cause of another in several ways, any number of times over: `Cause.wrapped`.
What an input or output error carries is not listed among its causes, only what stands behind the
carried error is. `mem_chain_iff` says of all that stands in a cause what is listed, and
`losesConnection_wrapped` concludes when a lost connection is found, and when it still is once the
cause was wrapped. -/
set_option autoImplicit false

namespace HttpService

/-- A way to make an error the cause of another. -/
inductive Wrapping where
  /-- Behind a text. -/
  | behind (message : String)
  /-- As the only thing that is known of a failure. -/
  | internal
  /-- Behind a failure that asks for a shutdown. -/
  | shutdown (message : String)
  /-- Carried by an input or output error. -/
  | carried (kind : IoKind)
deriving DecidableEq

namespace Wrapping

def around (cause : Cause) : Wrapping -> Cause
  | .behind message => .because message cause
  | .internal => (Failure.internal cause).toCause
  | .shutdown message => (Failure.shutdown message (some cause)).toCause
  | .carried kind => .ioCarrying kind cause

/-- What stands inside these wrappings is not carried by the nearest of them. -/
def Shown (wrappings : List Wrapping) : Prop := ∀ kind, wrappings.getLast? ≠ some (.carried kind)

theorem shown_nil : Shown [] := by
  intro kind
  simp

theorem Shown.append {outer inner : List Wrapping} (outside : Shown outer) (inside : Shown inner) :
    Shown (outer ++ inner) := by
  intro kind
  cases inner with
  | nil =>
      rw [List.append_nil]
      exact outside kind
  | cons wrapping rest =>
      rw [List.getLast?_append_of_ne_nil _ (List.cons_ne_nil _ _)]
      exact inside kind

theorem shown_append_iff (outer : List Wrapping) {inner : List Wrapping} (present : inner ≠ []) :
    Shown (outer ++ inner) ↔ Shown inner := by
  simp only [Shown, List.getLast?_append_of_ne_nil _ present]

theorem not_shown_carried (kind : IoKind) : ¬ Shown [.carried kind] := by
  intro shown
  exact shown kind rfl

end Wrapping

open Wrapping

namespace Cause

def wrapped (cause : Cause) (wrappings : List Wrapping) : Cause :=
  wrappings.foldr (fun wrapping inner => wrapping.around inner) cause

theorem wrapped_cons (cause : Cause) (wrapping : Wrapping) (rest : List Wrapping) :
    cause.wrapped (wrapping :: rest) = wrapping.around (cause.wrapped rest) := rfl

def IsLoss (cause : Cause) : Prop :=
  cause.kind? = some .brokenPipe ∨ cause.kind? = some .connectionReset

theorem around_cases (cause : Cause) (wrapping : Wrapping) :
    (∃ kind, wrapping = .carried kind) ∨
      Shown [wrapping] ∧ ∃ message, wrapping.around cause = .because message cause := by
  cases wrapping with
  | behind message => exact .inr ⟨by simp [Shown], message, rfl⟩
  | internal => exact .inr ⟨by simp [Shown], cause.display, rfl⟩
  | shutdown message => exact .inr ⟨by simp [Shown], message, rfl⟩
  | carried kind => exact .inl ⟨kind, rfl⟩

/-- The causes behind a cause are all that stands in it and is shown. -/
theorem mem_sources_iff (cause link : Cause) :
    link ∈ cause.sources ↔
      ∃ outer, outer ≠ [] ∧ Shown outer ∧ cause = link.wrapped outer := by
  induction cause with
  | because message source ih =>
      simp only [sources, List.mem_cons, ih]
      constructor
      · rintro (rfl | ⟨outer, -, shown, rfl⟩)
        · exact ⟨[.behind message], by simp, by simp [Shown], rfl⟩
        · have plain : Shown [.behind message] := by simp [Shown]
          exact ⟨.behind message :: outer, by simp, plain.append shown, rfl⟩
      · rintro ⟨outer, present, shown, same⟩
        cases outer with
        | nil => exact absurd rfl present
        | cons wrapping rest =>
            rw [wrapped_cons] at same
            rcases around_cases (link.wrapped rest) wrapping with ⟨kind, rfl⟩ | ⟨-, _, made⟩
            · cases same
            · rw [made] at same
              cases same
              cases rest with
              | nil => exact .inl rfl
              | cons next more =>
                  have inside := (shown_append_iff [wrapping] (List.cons_ne_nil next more)).mp shown
                  exact .inr ⟨_, List.cons_ne_nil _ _, inside, rfl⟩
  | ioCarrying kind carried ih =>
      simp only [sources, ih]
      constructor
      · rintro ⟨outer, present, shown, rfl⟩
        have still := (shown_append_iff [.carried kind] present).mpr shown
        exact ⟨.carried kind :: outer, by simp, still, rfl⟩
      · rintro ⟨outer, present, shown, same⟩
        cases outer with
        | nil => exact absurd rfl present
        | cons wrapping rest =>
            rw [wrapped_cons] at same
            rcases around_cases (link.wrapped rest) wrapping with ⟨_, rfl⟩ | ⟨-, _, made⟩
            · cases same
              cases rest with
              -- What is carried itself is left out; only what stands behind it is listed.
              | nil => exact absurd shown (not_shown_carried kind)
              | cons next more =>
                  have inside :=
                    (shown_append_iff [.carried kind] (List.cons_ne_nil next more)).mp shown
                  exact ⟨_, List.cons_ne_nil _ _, inside, rfl⟩
            · rw [made] at same
              cases same
  | _ =>
      simp only [sources, List.not_mem_nil, false_iff]
      rintro ⟨outer, present, -, same⟩
      cases outer with
      | nil => exact present rfl
      | cons wrapping rest =>
          rw [wrapped_cons] at same
          cases wrapping <;> cases same

theorem mem_chain_iff (cause link : Cause) :
    link ∈ cause.chain ↔ ∃ outer, Shown outer ∧ cause = link.wrapped outer := by
  rw [chain, List.mem_cons, mem_sources_iff]
  constructor
  · rintro (rfl | ⟨outer, -, shown, same⟩)
    · exact ⟨[], shown_nil, rfl⟩
    · exact ⟨outer, shown, same⟩
  · rintro ⟨outer, shown, same⟩
    cases outer with
    | nil => exact .inl same.symm
    | cons wrapping rest => exact .inr ⟨_, List.cons_ne_nil _ _, shown, same⟩

theorem losesConnection_iff_shown (cause : Cause) :
    cause.losesConnection = true ↔
      ∃ (outer : List Wrapping) (link : Cause),
        cause = link.wrapped outer ∧ Shown outer ∧ link.IsLoss := by
  rw [losesConnection_iff]
  constructor
  · rintro ⟨link, reached, loss⟩
    obtain ⟨outer, shown, same⟩ := (mem_chain_iff cause link).mp (mem_chain_of_reaches reached)
    exact ⟨outer, link, same, shown, loss⟩
  · rintro ⟨outer, link, same, shown, loss⟩
    exact ⟨link, reaches_of_mem_chain ((mem_chain_iff cause link).mpr ⟨outer, shown, same⟩), loss⟩

/-! ## Wrapping what was found -/

def LossBehind (cause : Cause) : Prop :=
  ∃ source, cause.source? = some source ∧ source.losesConnection = true

theorem losesConnection_iff_behind (cause : Cause) :
    cause.losesConnection = true ↔ cause.IsLoss ∨ cause.LossBehind := by
  rw [losesConnection_iff]
  constructor
  · rintro ⟨link, reached, loss⟩
    cases reached with
    | here cause => exact .inl loss
    | behind next rest => exact .inr ⟨_, next, (losesConnection_iff _).mpr ⟨link, rest, loss⟩⟩
  · rintro (loss | ⟨source, next, lost⟩)
    · exact ⟨cause, .here cause, loss⟩
    · obtain ⟨link, reached, loss⟩ := (losesConnection_iff source).mp lost
      exact ⟨link, .behind next reached, loss⟩

theorem isLoss_carrying (kind : IoKind) (cause : Cause) :
    (ioCarrying kind cause).IsLoss ↔ kind = .brokenPipe ∨ kind = .connectionReset := by
  simp [IsLoss, kind?]

theorem not_isLoss_because (message : String) (cause : Cause) :
    ¬ (because message cause).IsLoss := by
  simp [IsLoss, kind?]

theorem lossBehind_because (message : String) (cause : Cause) :
    (because message cause).LossBehind ↔ cause.IsLoss ∨ cause.LossBehind := by
  rw [← losesConnection_iff_behind]
  constructor
  · rintro ⟨source, next, lost⟩
    cases next
    exact lost
  · intro lost
    exact ⟨cause, rfl, lost⟩

theorem lossBehind_carrying (kind : IoKind) (cause : Cause) :
    (ioCarrying kind cause).LossBehind ↔ cause.LossBehind := Iff.rfl

/-- Of the wrappings themselves, one is an error of a dropped connection and shown, from outside all
these wrappings and some others. -/
def ShowLoss (before wrappings : List Wrapping) : Prop :=
  ∃ outer kind inner, wrappings = outer ++ .carried kind :: inner ∧ Shown (before ++ outer) ∧
    (kind = .brokenPipe ∨ kind = .connectionReset)

theorem showLoss_cons (before rest : List Wrapping) (wrapping : Wrapping) :
    ShowLoss before (wrapping :: rest) ↔
      (∃ kind, wrapping = .carried kind ∧ Shown before ∧
        (kind = .brokenPipe ∨ kind = .connectionReset)) ∨
      ShowLoss (before ++ [wrapping]) rest := by
  constructor
  · rintro ⟨outer, kind, inner, parts, shown, loss⟩
    rcases List.cons_eq_append_iff.mp parts with ⟨rfl, same⟩ | ⟨further, rfl, same⟩
    · cases same
      rw [List.append_nil] at shown
      exact .inl ⟨kind, rfl, shown, loss⟩
    · exact .inr ⟨further, kind, inner, same, by simpa using shown, loss⟩
  · rintro (⟨kind, rfl, shown, loss⟩ | ⟨outer, kind, inner, rfl, shown, loss⟩)
    · exact ⟨[], kind, rest, rfl, by simpa using shown, loss⟩
    · exact ⟨wrapping :: outer, kind, inner, rfl, by simpa using shown, loss⟩

/-- What the walk along a wrapped cause finds, if it begins with the outermost of the wrappings or,
where that is carried by something outside, behind it. -/
theorem loss_wrapped (cause : Cause) (wrappings before : List Wrapping) :
    Shown before ∧ (cause.wrapped wrappings).IsLoss ∨ (cause.wrapped wrappings).LossBehind ↔
      ShowLoss before wrappings ∨ Shown (before ++ wrappings) ∧ cause.IsLoss ∨ cause.LossBehind := by
  induction wrappings generalizing before with
  | nil => simp [wrapped, ShowLoss]
  | cons wrapping rest ih =>
      have inside := ih (before ++ [wrapping])
      rw [List.append_assoc, List.singleton_append] at inside
      rw [showLoss_cons, or_assoc, ← inside, wrapped_cons]
      -- A wrapping that carries covers what it carries, and may be a loss of itself. Any other one
      -- covers nothing and is none.
      rcases around_cases (cause.wrapped rest) wrapping with ⟨kind, rfl⟩ | ⟨plain, message, made⟩
      · have covered : ¬ Shown (before ++ [.carried kind]) := by
          rw [shown_append_iff before (List.cons_ne_nil _ _)]
          exact not_shown_carried kind
        simp [around, covered, isLoss_carrying, lossBehind_carrying]
      · have open' : Shown (before ++ [wrapping]) :=
          (shown_append_iff before (List.cons_ne_nil _ _)).mpr plain
        have notCarried (kind : IoKind) : wrapping ≠ .carried kind := by
          rintro rfl
          exact not_shown_carried kind plain
        simp [made, open', notCarried, not_isLoss_because, lossBehind_because]

/-- **Lost connections behind other errors.** A failure that asks for a shutdown is put down to a lost
connection exactly if an error of a broken pipe or a reset connection stands anywhere in its cause
and is not carried by another input or output error. So a loss that was found is still found after
any wrappings, unless the innermost of them carries it and no other loss is shown. Where nothing that
is carried is such an error, every loss in the cause is found. -/
theorem losesConnection_wrapped (cause : Cause) (wrappings : List Wrapping)
    (message other : String) :
    ((Failure.shutdown message (some cause)).losesConnection = true ↔
      ∃ (outer : List Wrapping) (link : Cause),
        cause = link.wrapped outer ∧ Shown outer ∧ link.IsLoss) ∧
    ((Failure.shutdown message (some cause)).losesConnection = true ->
      ((Failure.shutdown other (some (cause.wrapped wrappings))).losesConnection = true ↔
        Shown wrappings ∨ cause.LossBehind ∨
        ∃ outer kind inner, wrappings = outer ++ .carried kind :: inner ∧ Shown outer ∧
          (kind = .brokenPipe ∨ kind = .connectionReset))) ∧
    ((∀ (outer : List Wrapping) (kind : IoKind) (link : Cause),
        cause = link.wrapped (outer ++ [.carried kind]) -> ¬ link.IsLoss) ->
      ((Failure.shutdown message (some cause)).losesConnection = true ↔
        ∃ (outer : List Wrapping) (link : Cause), cause = link.wrapped outer ∧ link.IsLoss)) := by
  have found (text : String) (inside : Cause) :
      (Failure.shutdown text (some inside)).losesConnection = inside.losesConnection := rfl
  simp only [found]
  refine ⟨cause.losesConnection_iff_shown, ?_, ?_⟩
  · intro lost
    have either := cause.losesConnection_iff_behind.mp lost
    have walk := loss_wrapped cause wrappings []
    rw [List.nil_append] at walk
    rw [losesConnection_iff_behind]
    constructor
    · intro still
      have begun := still.imp_left fun loss => And.intro shown_nil loss
      rcases walk.mp begun with shows | ⟨shown, -⟩ | behind
      · exact .inr (.inr shows)
      · exact .inl shown
      · exact .inr (.inl behind)
    · intro kept
      refine (walk.mpr ?_).imp_left And.right
      rcases kept with shown | behind | shows
      · exact .inr (either.imp_left fun loss => ⟨shown, loss⟩)
      · exact .inr (.inr behind)
      · exact .inl shows
  · intro harmless
    rw [losesConnection_iff_shown]
    constructor
    · rintro ⟨outer, link, same, -, loss⟩
      exact ⟨outer, link, same, loss⟩
    · rintro ⟨outer, link, same, loss⟩
      refine ⟨outer, link, same, ?_, loss⟩
      intro kind last
      obtain ⟨before, parts⟩ := List.getLast?_eq_some_iff.mp last
      rw [parts] at same
      exact harmless before kind link same loss

/-- A broken pipe is found behind any number of texts, but not as what another error carries. -/
theorem losesConnection_wrapped_carried :
    (Failure.shutdown "write" (some (.io .brokenPipe))).losesConnection = true ∧
      (Failure.shutdown "write"
        (some ((io .brokenPipe).wrapped [.carried .other, .internal]))).losesConnection = true ∧
      (Failure.shutdown "write" (some (.ioCarrying .other (.io .brokenPipe)))).losesConnection =
        false ∧
      (Failure.shutdown "write" (some (.io .timedOut))).losesConnection = false := by
  have lost : (Failure.shutdown "write" (some (.io .brokenPipe))).losesConnection = true := rfl
  refine ⟨lost, ?_, ?_, ?_⟩
  · obtain ⟨-, kept, -⟩ :=
      losesConnection_wrapped (.io .brokenPipe) [.carried .other, .internal] "write" "write"
    exact (kept lost).mpr (.inl (by simp [Shown]))
  · obtain ⟨-, kept, -⟩ :=
      losesConnection_wrapped (.io .brokenPipe) [.carried .other] "write" "write"
    rw [← Bool.not_eq_true]
    intro found
    rcases (kept lost).mp found with shown | ⟨source, next, -⟩ | ⟨outer, kind, inner, parts, -, loss⟩
    · exact not_shown_carried .other shown
    · cases next
    · obtain ⟨rfl, same⟩ | ⟨further, -, same⟩ := List.cons_eq_append_iff.mp parts
      · cases same
        rcases loss with loss | loss <;> cases loss
      · simp at same
  · obtain ⟨-, -, every⟩ := losesConnection_wrapped (.io .timedOut) [] "write" "write"
    have bare (outer : List Wrapping) (link : Cause) (same : .io .timedOut = link.wrapped outer) :
        outer = [] ∧ link = .io .timedOut := by
      cases outer with
      | nil => exact ⟨rfl, same.symm⟩
      | cons wrapping rest => cases wrapping <;> cases same
    rw [← Bool.not_eq_true, every]
    · rintro ⟨outer, link, same, loss⟩
      obtain ⟨-, rfl⟩ := bare outer link same
      rcases loss with loss | loss <;> cases loss
    · intro outer kind link same
      obtain ⟨empty, -⟩ := bare _ link same
      simp at empty

end Cause

end HttpService
