import HttpService.Pipeline.Standard
import HttpService.Proofs.ClaimsTexts
import HttpService.Proofs.Observation
import HttpService.Proofs.WrittenOwners
/-! # Who is permitted what

`Rule.Granted` lists the grounds on which a rule lets a caller pass: a role among those listed, or
the ownership of the resource. The rules know no other grounds (`permits_iff_granted`), so that a
decision rests on three facts about the caller, and what keeps these keeps the decision
(`Granted.of_facts`). `Layer.observe_authorize_passed` and `Layer.observe_authorize_stopped` follow a
request through the layer that asks a rule, and `authorization_exact` puts all ways of asking
together. -/
set_option autoImplicit false

namespace HttpService

def Claims.withRoles (claims : Claims) (roles : List String) : Claims :=
  { claims with roles := Roles.ofList roles }

theorem Claims.hasRole_withRoles {claims : Claims} {roles : List String} {role : String} :
    (claims.withRoles roles).hasRole role = true ↔ role ∈ roles := by
  simp only [hasRole, withRoles, Dictionary.contains, Roles.find?_ofList]
  by_cases listed : role ∈ roles
  · simp [listed]
  · simp [listed]

namespace Rule

def Owns (subject : String) (owner : Option OwnerId) : Prop :=
  ∃ found, owner = some found ∧ found.Written subject

/-- Why a rule lets a caller with these roles pass. -/
inductive Granted (roles : List String) (subject : String) (owner : Option OwnerId) : Rule -> Prop
  | administrator {rule : Rule} (listed : "ADMIN" ∈ roles) (asked : rule ≠ .userOnly) :
      Granted roles subject owner rule
  | user {rule : Rule} (listed : "USER" ∈ roles) (asked : rule = .any ∨ rule = .userOnly) :
      Granted roles subject owner rule
  | owner (owns : Owns subject owner) : Granted roles subject owner .adminOrSubject

def Permits (rule : Rule) (claims : Claims) (owner : Option OwnerId) : Prop :=
  rule.authorize claims owner = .ok ()

section Decision

variable {rule : Rule} {claims : Claims} {owner : Option OwnerId}

theorem permits_iff_allows : rule.Permits claims owner ↔ rule.allows claims owner = true := by
  simp only [Permits, authorize]
  split
  next allowed => simp [allowed, pure, Except.pure]
  next refused => simp [refused, throw, throwThe, MonadExceptOf.throw]

theorem isOwner_iff : isOwner claims owner = true ↔ Owns claims.subject owner := by
  simp [isOwner, Owns, Option.any_eq_true, OwnerId.written_iff]

theorem granted_of_allows {roles : List String}
    (allowed : rule.allows (claims.withRoles roles) owner = true) :
    rule.Granted roles claims.subject owner := by
  have admin {rule : Rule} (asked : rule ≠ .userOnly)
      (holds : (claims.withRoles roles).hasRole "ADMIN" = true) :
      rule.Granted roles claims.subject owner :=
    .administrator (Claims.hasRole_withRoles.mp holds) asked
  have user {rule : Rule} (asked : rule = .any ∨ rule = .userOnly)
      (holds : (claims.withRoles roles).hasRole "USER" = true) :
      rule.Granted roles claims.subject owner :=
    .user (Claims.hasRole_withRoles.mp holds) asked
  cases rule with
  | any =>
      rcases Bool.or_eq_true_iff.mp allowed with holds | holds
      · exact admin (by decide) holds
      · exact user (.inl rfl) holds
  | adminOnly => exact admin (by decide) allowed
  | userOnly => exact user (.inr rfl) allowed
  | adminOrSubject =>
      rcases Bool.or_eq_true_iff.mp allowed with owned | holds
      · exact .owner (isOwner_iff.mp owned)
      · exact admin (by decide) holds

theorem Granted.allows {roles : List String} (granted : rule.Granted roles claims.subject owner) :
    rule.allows (claims.withRoles roles) owner = true := by
  cases granted with
  | administrator listed asked =>
      have holds : (claims.withRoles roles).hasRole "ADMIN" = true :=
        Claims.hasRole_withRoles.mpr listed
      cases rule with
      | any => exact Bool.or_eq_true_iff.mpr (.inl holds)
      | adminOnly => exact holds
      | userOnly => exact absurd rfl asked
      | adminOrSubject => exact Bool.or_eq_true_iff.mpr (.inr holds)
  | user listed asked =>
      have holds : (claims.withRoles roles).hasRole "USER" = true :=
        Claims.hasRole_withRoles.mpr listed
      rcases asked with rfl | rfl
      · exact Bool.or_eq_true_iff.mpr (.inr holds)
      · exact holds
  | owner owned =>
      have isOwner : isOwner (claims.withRoles roles) owner = true := isOwner_iff.mpr owned
      exact Bool.or_eq_true_iff.mpr (.inl isOwner)

/-- A decision has one of the grounds, and each ground suffices. -/
theorem permits_iff_granted {roles : List String} :
    rule.Permits (claims.withRoles roles) owner ↔ rule.Granted roles claims.subject owner :=
  permits_iff_allows.trans ⟨granted_of_allows, Granted.allows⟩

theorem Granted.of_facts {roles others : List String} {subject otherSubject : String}
    {otherOwner : Option OwnerId} (granted : rule.Granted roles subject owner)
    (admin : "ADMIN" ∈ roles -> "ADMIN" ∈ others) (user : "USER" ∈ roles -> "USER" ∈ others)
    (owns : Owns subject owner -> Owns otherSubject otherOwner) :
    rule.Granted others otherSubject otherOwner := by
  cases granted with
  | administrator listed asked => exact .administrator (admin listed) asked
  | user listed asked => exact .user (user listed) asked
  | owner owned => exact .owner (owns owned)

theorem permits_of_same_facts {other : Claims} {otherOwner : Option OwnerId}
    {roles others : List String} (admin : "ADMIN" ∈ others ↔ "ADMIN" ∈ roles)
    (user : "USER" ∈ others ↔ "USER" ∈ roles)
    (owns : Owns other.subject otherOwner ↔ Owns claims.subject owner) :
    rule.Permits (other.withRoles others) otherOwner ↔
      rule.Permits (claims.withRoles roles) owner := by
  rw [permits_iff_granted, permits_iff_granted]
  exact ⟨fun granted => granted.of_facts admin.mp user.mp owns.mp,
    fun granted => granted.of_facts admin.mpr user.mpr owns.mpr⟩

/-- A known role is not affected by what else is listed, or how often. -/
theorem mem_iff_of_perm {role : String} {roles repeated foreign others : List String}
    (known : role = "ADMIN" ∨ role = "USER") (again : repeated ⊆ roles)
    (unknown : ∀ role ∈ foreign, role ≠ "ADMIN" ∧ role ≠ "USER")
    (perm : others.Perm (roles ++ repeated ++ foreign)) : role ∈ others ↔ role ∈ roles := by
  rw [perm.mem_iff, List.mem_append, List.mem_append]
  constructor
  · rintro ((listed | listed) | listed)
    · exact listed
    · exact again listed
    · have neither := unknown role listed
      exact absurd known (not_or.mpr neither)
  · exact fun listed => .inl (.inl listed)

/-- Who owns a resource is let pass at once, and this is no other decision than the rule's. -/
theorem authorizeOwner_iff {found : OwnerId} :
    authorizeOwner claims found = .ok () ↔ adminOrSubject.Permits claims (some found) := by
  rw [permits_iff_allows, allows, authorizeOwner]
  cases isOwner claims (some found) with
  | true => exact iff_of_true rfl rfl
  | false =>
      rw [if_neg Bool.false_ne_true, Bool.false_or]
      exact @permits_iff_allows .adminOnly claims (some found)

end Decision

/-- The claims that a request comes with are let pass where no owner is given. -/
def Passes (rule : Rule) (passage : Passage) : Prop :=
  ∃ claims, passage.claims = some claims ∧ rule.Permits claims none

end Rule

section Guard

variable {rule : Rule} {passage : Passage}

theorem Layer.authorize_of_passes (passes : rule.Passes passage) :
    Layer.authorize rule passage = .proceed passage := by
  obtain ⟨claims, present, permitted⟩ := passes
  rw [Rule.Permits] at permitted
  simp only [Layer.authorize, present, permitted]

theorem Layer.authorize_of_not_passes (stopped : ¬ rule.Passes passage) :
    ∃ message, Layer.authorize rule passage = .fail (.auth message) := by
  cases present : passage.claims with
  | none => exact ⟨_, by simp only [Layer.authorize, present]; rfl⟩
  | some claims =>
      cases decided : rule.authorize claims none with
      | error refusal => exact ⟨_, by simp only [Layer.authorize, present, decided]; rfl⟩
      | ok done => exact absurd ⟨claims, present, decided⟩ stopped

variable (next : Handler) (limit : Option Nat) (world : World)

/-- What is inside is called once, with the same passage, and the layer ends as it does. -/
theorem Layer.observe_authorize_passed (passes : rule.Passes passage) :
    Crossing.callsAt 1 (Layer.observe limit next 0 [Layer.authorize rule] passage world).1 =
        [passage] ∧
      (Layer.observe limit next 0 [Layer.authorize rule] passage world).2 =
        (next passage).run limit world := by
  constructor
  · rw [Crossing.callsAt, Layer.entries_observe_cons, Layer.authorize_of_passes passes,
      Task.proceed, Task.observe_call limit _ _ (fun ending => .done ending),
      Layer.entries_observe_nil]
    rfl
  · rw [Layer.observe_run, compose, List.foldr_cons, List.foldr_nil, Layer.wrap,
      Layer.authorize_of_passes passes]
    exact Task.run_proceed limit next passage world

theorem Layer.observe_authorize_stopped (stopped : ¬ rule.Passes passage) :
    Crossing.callsAt 1 (Layer.observe limit next 0 [Layer.authorize rule] passage world).1 = [] ∧
      ∃ message, (Layer.observe limit next 0 [Layer.authorize rule] passage world).2 =
        (.ended (.returned (.error (.auth message))), world) := by
  obtain ⟨message, fails⟩ := Layer.authorize_of_not_passes stopped
  constructor
  · rw [Crossing.callsAt, Layer.entries_observe_cons, fails]
    rfl
  · refine ⟨message, ?_⟩
    rw [Layer.observe_run, compose, List.foldr_cons, List.foldr_nil, Layer.wrap, fails]
    rfl

end Guard

namespace Rule

/-- **Authorization is exact.** A rule lets a caller pass on the grounds listed and on no others, so
that only the two known roles and the ownership of the resource bear on it. The order of the roles,
how often one is named and any other text among them do not, and one more role never takes away
what was permitted. The owner's shortcut is the rule for an owner or an administrator, which without
an owner is the rule for administrators. The layer that asks a rule hands a request on, unchanged
and once, exactly if the rule lets its claims pass, and otherwise refuses it by itself. -/
theorem authorization_exact (rule : Rule) (claims : Claims) (roles : List String)
    (owner : Option OwnerId) :
    (rule.Permits (claims.withRoles roles) owner ↔ rule.Granted roles claims.subject owner) ∧
    (∀ (other : Claims) (others : List String) (otherOwner : Option OwnerId),
      ("ADMIN" ∈ others ↔ "ADMIN" ∈ roles) -> ("USER" ∈ others ↔ "USER" ∈ roles) ->
      (Owns other.subject otherOwner ↔ Owns claims.subject owner) ->
      (rule.Permits (other.withRoles others) otherOwner ↔
        rule.Permits (claims.withRoles roles) owner)) ∧
    (∀ repeated foreign others : List String, repeated ⊆ roles ->
      (∀ role ∈ foreign, role ≠ "ADMIN" ∧ role ≠ "USER") ->
      others.Perm (roles ++ repeated ++ foreign) ->
      (rule.Permits (claims.withRoles others) owner ↔
        rule.Permits (claims.withRoles roles) owner)) ∧
    (∀ more others : List String, others.Perm (roles ++ more) ->
      rule.Permits (claims.withRoles roles) owner ->
      rule.Permits (claims.withRoles others) owner) ∧
    (∀ found, authorizeOwner claims found = .ok () ↔
      adminOrSubject.Permits claims (some found)) ∧
    (adminOrSubject.Permits claims none ↔ adminOnly.Permits claims owner) ∧
    ∀ (next : Handler) (passage : Passage) (limit : Option Nat) (world : World),
      let observed := Layer.observe limit next 0 [Layer.authorize rule] passage world
      observed.2 = ((Layer.authorize rule).wrap next passage).run limit world ∧
      (rule.Passes passage ->
        Crossing.callsAt 1 observed.1 = [passage] ∧
          observed.2 = (next passage).run limit world) ∧
      (¬ rule.Passes passage ->
        Crossing.callsAt 1 observed.1 = [] ∧
          ∃ message, observed.2 = (.ended (.returned (.error (.auth message))), world)) := by
  refine ⟨permits_iff_granted, ?confined, ?unmoved, ?grows, fun _ => authorizeOwner_iff,
    ?ownerless, ?guards⟩
  case confined =>
    intro other others otherOwner admin user owns
    exact permits_of_same_facts admin user owns
  case unmoved =>
    intro repeated foreign others again unknown perm
    exact permits_of_same_facts (mem_iff_of_perm (.inl rfl) again unknown perm)
      (mem_iff_of_perm (.inr rfl) again unknown perm) Iff.rfl
  case grows =>
    intro more others perm permitted
    have kept {role : String} (listed : role ∈ roles) : role ∈ others :=
      perm.mem_iff.mpr (List.mem_append_left more listed)
    rw [permits_iff_granted] at permitted ⊢
    exact permitted.of_facts kept kept id
  case ownerless =>
    rw [permits_iff_allows, permits_iff_allows]
    rfl
  case guards =>
    intro next passage limit world
    exact ⟨Layer.observe_run limit next 0 _ passage world,
      Layer.observe_authorize_passed next limit world,
      Layer.observe_authorize_stopped next limit world⟩

def sampleOwner : OwnerId := ⟨0x0a1b2c3d4e5f60718293a4b5c6d7e8f9, by decide⟩

/-- A user who owns the resource is let pass as its owner and on no other grounds. The layer, which
knows of no owner, stops the request. -/
theorem authorization_exact_owned :
    let claims : Claims := .new "0a1b2c3d-4e5f-6071-8293-a4b5c6d7e8f9" [] "ward" default default
    let roles := ["admin", "USER"]
    let others := ["USER", "Admin", "admin", "USER"]
    let passage : Passage := ⟨some (claims.withRoles roles), default⟩
    Owns claims.subject (some sampleOwner) ∧ ["USER"] ⊆ roles ∧
      (∀ role ∈ ["Admin"], role ≠ "ADMIN" ∧ role ≠ "USER") ∧
      others.Perm (roles ++ ["USER"] ++ ["Admin"]) ∧
      adminOrSubject.Permits (claims.withRoles others) (some sampleOwner) ∧
      ¬ adminOrSubject.Passes passage ∧
      Crossing.callsAt 1 (Layer.observe none (fun _ => .succeed) 0
        [Layer.authorize .adminOrSubject] passage {}).1 = [] := by
  intro claims roles others passage
  have owned : Owns claims.subject (some sampleOwner) :=
    ⟨sampleOwner, rfl, (sampleOwner.written_iff _).mpr (by decide +kernel)⟩
  have again : ["USER"] ⊆ roles := by decide
  have unknown : ∀ role ∈ ["Admin"], role ≠ "ADMIN" ∧ role ≠ "USER" := by decide
  have perm : others.Perm (roles ++ ["USER"] ++ ["Admin"]) := by decide
  obtain ⟨grounds, -, unmoved, -, -, -, guards⟩ :=
    authorization_exact adminOrSubject claims roles (some sampleOwner)
  obtain ⟨ownerless, -⟩ := authorization_exact adminOrSubject claims roles none
  have stopped : ¬ adminOrSubject.Passes passage := by
    rintro ⟨found, present, permitted⟩
    cases present
    cases ownerless.mp permitted with
    | administrator listed => exact absurd listed (by decide)
    | user _ asked => exact absurd asked (by decide)
    | owner owns => exact absurd owns (by rintro ⟨_, none, _⟩; cases none)
  refine ⟨owned, again, unknown, perm, ?_, stopped, ?_⟩
  · exact (unmoved _ _ _ again unknown perm).mpr (grounds.mpr (.owner owned))
  · exact ((guards (fun _ => .succeed) passage none {}).2.2 stopped).1

end Rule

end HttpService
