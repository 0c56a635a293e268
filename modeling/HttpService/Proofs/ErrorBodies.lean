import HttpService.Proofs.StandardLayers
import HttpService.Proofs.WrittenValues
/-! # What a failure looks like on the wire

`Layer.errors` passes one response to the exchange for a failure (`offers_errors`). Unless that is the
response without content, its body is the text of the classified failure, which any reader of JSON
reads back: `errors_wire`. -/
set_option autoImplicit false

namespace HttpService

open Json

namespace FieldErrors

/-- The fields were given one after the other in this order. -/
inductive Pushed : FieldErrors -> List FieldError -> Prop where
  | single (entry : FieldError) : Pushed (single entry) [entry]
  | listed {entries : List FieldError} {errors : FieldErrors}
      (given : ofList? entries = some errors) : Pushed errors entries
  | further {entries : List FieldError} {errors : FieldErrors} (before : Pushed errors entries)
      (entry : FieldError) : Pushed (errors.push entry) (entries ++ [entry])

theorem Pushed.entries_eq {entries : List FieldError} {errors : FieldErrors}
    (pushed : errors.Pushed entries) : errors.entries = entries := by
  induction pushed with
  | single entry => rfl
  | @listed entries errors given =>
      simp only [ofList?] at given
      split at given
      next => cases given
      next =>
        cases given
        rfl
  | further before entry ih => rw [entries_push, ih]

def pair (entry : FieldError) : Json :=
  .object [("field", .text entry.field), ("error", .text entry.error)]

theorem readable_pair (levels : Nat) (entry : FieldError) : Readable (levels + 1) (pair entry) := by
  apply Readable.object
  intro member present
  simp only [List.mem_cons, List.not_mem_nil, or_false] at present
  rcases present with rfl | rfl
  · exact .text entry.field
  · exact .text entry.error

theorem readable_toJson (levels : Nat) (errors : FieldErrors) :
    Readable (levels + 2) errors.toJson := by
  apply Readable.array
  intro item present
  obtain ⟨entry, -, rfl⟩ := List.mem_map.mp present
  exact readable_pair levels entry

end FieldErrors

theorem ErrorBody.readable_toJson (levels : Nat) (body : ErrorBody) :
    Readable (levels + 3) body.toJson := by
  obtain ⟨error, fields⟩ := body
  apply Readable.object
  intro member present
  cases fields with
  | none =>
      simp only [Option.map_none, Option.toList_none, List.mem_singleton] at present
      rw [present]
      exact .text error
  | some fields =>
      simp only [Option.map_some, Option.toList_some, List.mem_cons, List.not_mem_nil,
        or_false] at present
      rcases present with rfl | rfl
      · exact .text error
      · exact fields.readable_toJson levels

theorem ErrorBody.read_encode (body : ErrorBody) : Json.read body.toJson.encode = .ok body.toJson :=
  Json.read_encode (body.readable_toJson 124)

theorem Response.json_content {status : Status} (content : status ≠ .noContent) (value : Json) :
    Response.json status value =
      ⟨status, ⟨[("content-type", Bytes.ofText "application/json")]⟩, value.encode⟩ :=
  if_neg content

/-- Only a request failure can be one without content. -/
theorem Failure.content_of_ne {failure : Failure}
    (other : ∀ message, failure ≠ .request .noContent message) :
    failure.classify.1 ≠ .noContent := by
  cases failure with
  | validation fields => exact show Status.badRequest ≠ .noContent by decide
  | request status message =>
      intro silent
      have same : status = .noContent := silent
      exact other message (by rw [same])
  | auth message => exact show Status.unauthorized ≠ .noContent by decide
  | shutdown message source => exact show Status.internalServerError ≠ .noContent by decide
  | unclassified message source => exact show Status.internalServerError ≠ .noContent by decide

namespace Layer

/-- The only response to a failure that is passed on the way out is that of its classification. -/
theorem offers_errors (limit : Option Nat) (inner : Handler) (passage : Passage)
    (world after : World) (failure : Failure) (inTime : world.InTime limit)
    (failed : (inner passage).run limit world = (.ended (.returned (.error failure)), after)) :
    (errors.wrap inner passage).offers limit world =
      (inner passage).offers limit world ++ [failure.response] := by
  have afterInTime := Task.inTime_of_run limit _ world after _ inTime failed
  have logInTime := Task.inTime_perform afterInTime (.log (.failed failure)) (by simp)
  have last (state : World) : ((if failure.isShutdown then .fail failure else .succeed :
      Task Passage).plug inner).trace limit state = [] := by
    split <;> rfl
  have outward : ((Task.perform (.log (.failed failure)) <| .perform (.respond failure.response) <|
      if failure.isShutdown then .fail failure else .succeed : Task Passage).plug inner).trace limit
        after = [.log (.failed failure), .respond failure.response] := by
    simp only [Task.perform, Task.plug]
    rw [Task.trace_act_quick limit _ _ after afterInTime (by simp),
      Task.trace_act_quick limit _ _ _ logInTime (by simp), last]
  simp only [Task.offers, wrap, errors, Task.forward, Task.plug, Task.trace_andThen, failed]
  rw [outward, List.filterMap_append]
  rfl

/-- **The wire contract of failures.** The response to a failure has the status of its classification.
A request failure without content has no header and no body. Any other has one header, and its body
is read as an object with the classified text, and with the failed fields, as they were pushed, just
if the failure is one of validation. -/
theorem errors_wire (limit : Option Nat) (inner : Handler) (passage : Passage) (world after : World)
    (failure : Failure) (inTime : world.InTime limit)
    (failed : (inner passage).run limit world = (.ended (.returned (.error failure)), after)) :
    ∃ response,
      (errors.wrap inner passage).offers limit world =
        (inner passage).offers limit world ++ [response] ∧
      response.status = failure.classify.1 ∧
      ((∃ message, failure = .request .noContent message) ->
        response.headers.fields = [] ∧ response.body = []) ∧
      ((∀ message, failure ≠ .request .noContent message) ->
        response.headers.fields = [("content-type", Bytes.ofText "application/json")] ∧
        ∃ fields,
          Json.read response.body =
            .ok (.object (("error", .text failure.classify.2.error) :: fields)) ∧
          (∀ errors pushed, failure = .validation errors -> errors.Pushed pushed ->
            pushed ≠ [] ∧
              fields = [("fields", .array (pushed.map fun entry =>
                .object [("field", .text entry.field), ("error", .text entry.error)]))]) ∧
          ((∀ errors, failure ≠ .validation errors) -> fields = [])) := by
  refine ⟨failure.response, offers_errors limit inner passage world after failure inTime failed,
    ?status, ?silent, ?written⟩
  case status =>
    rw [Failure.response, Response.json]
    split <;> rfl
  case silent =>
    rintro ⟨message, rfl⟩
    exact ⟨rfl, rfl⟩
  case written =>
    intro other
    rw [Failure.response, Response.json_content (Failure.content_of_ne other)]
    refine ⟨rfl, _, failure.classify.2.read_encode, ?_, ?_⟩
    · rintro errors pushed rfl given
      have same := given.entries_eq
      subst same
      exact ⟨errors.nonempty, rfl⟩
    · intro noValidation
      cases failure with
      | validation fields => exact absurd rfl (noValidation fields)
      | _ => rfl

def awkwardFields : FieldErrors := (FieldErrors.single ⟨"na\"me\\", "line\nfeed"⟩).push ⟨"😀", "\x01"⟩

theorem errors_wire_awkward : ∃ response,
    (errors.wrap (fun _ => .fail (.validation awkwardFields)) default).offers none {} = [response] ∧
      response.status = .badRequest ∧
      Json.read response.body = .ok (.object [("error", .text "data validation error"),
        ("fields", .array [.object [("field", .text "na\"me\\"), ("error", .text "line\nfeed")],
          .object [("field", .text "😀"), ("error", .text "\x01")]])]) := by
  obtain ⟨response, offered, status, -, written⟩ := errors_wire none
    (fun _ => .fail (.validation awkwardFields)) default {} {} (.validation awkwardFields) rfl rfl
  obtain ⟨-, fields, read, validation, -⟩ := written nofun
  have pushed : awkwardFields.Pushed [⟨"na\"me\\", "line\nfeed"⟩, ⟨"😀", "\x01"⟩] :=
    .further (.single _) _
  have listed := (validation awkwardFields _ rfl pushed).2
  rw [listed] at read
  exact ⟨response, offered, status, read⟩

end Layer

end HttpService
