import ApiClient.Emission
import ApiClient.Proofs.Work

/-!
# Steps of an emission

What the steps of an emission leave behind. Drafting touches neither the method names nor the
identifiers met so far, naming touches nothing but the names, and a method that was emitted is put
together from its parts in a fixed order.
-/

namespace ApiClient.Emission

open Work

/-- An emission of which nothing is drafted, at its first class. -/
def fresh : Emission := ⟨.empty, [], .forMethods⟩

theorem exec_drafting {α : Type} (work : Drafting α) (e : Emission) :
    exec (drafting work) e = ((exec work e.draft).1, { e with draft := (exec work e.draft).2 }) :=
  rfl

theorem exec_report (d : Diagnostic) (e : Emission) :
    exec (report d) e =
      (.ok (), { e with draft := { e.draft with diagnostics := e.draft.diagnostics ++ [d] } }) := rfl

/-- A method is named by a text, and only the registry changes. -/
theorem nameVariant_cases (setting : Setting) (rawName mediaType : Value) (several : Bool)
    (e : Emission) :
    (∃ raw, variantName setting rawName mediaType several = .ok (.text raw) ∧
      exec (nameVariant setting rawName mediaType several) e =
        (.ok (e.methods.resolve raw).1, { e with methods := (e.methods.resolve raw).2 })) ∨
    ∃ fault, exec (nameVariant setting rawName mediaType several) e = (.error fault, e) := by
  unfold nameVariant
  rw [exec_bind, exec_lift]
  cases variantName setting rawName mediaType several with
  | error fault => exact .inr ⟨fault, rfl⟩
  | ok raw =>
    cases raw with
    | text text => exact .inl ⟨text, rfl, rfl⟩
    | _ => exact .inr ⟨.unsuitable, rfl⟩

/-- The parts of an emitted method, in the order in which they are drafted. -/
structure MethodParts (setting : Setting) (op : Operation) (mediaType : Value) (name : String)
    (typePrefix : Value) (draft : Draft) (m : Method) (draft' : Draft) where
  rawPrefix : Value
  body : Option Argument
  names : Name.Registry
  afterBody : Draft
  parameters : List (Argument × Step)
  afterParameters : Draft
  plan : Option BodyPlan
  accepts : Bool
  branches : List Branch
  rawPrefix_eq : variantName setting typePrefix mediaType true = .ok rawPrefix
  body_eq : exec (bodyArgument setting.components op mediaType rawPrefix .forArguments) draft =
    (.ok (body, names), afterBody)
  parameters_eq : exec (parameterArguments setting.components typePrefix
    (Operation.orderParameters op.parameters) names) afterBody = (.ok parameters, afterParameters)
  plan_eq : bodyPlan mediaType body = .ok plan
  accepts_eq : op.accepts mediaType = .ok accepts
  branches_eq : exec (branchesFor setting.components op.location mediaType rawPrefix op.responses
    true) afterParameters = (.ok branches, draft')
  method_name : m.name = name
  method_operationId : m.operationId = op.id
  method_mediaType : m.mediaType = mediaType
  method_httpMethod : m.httpMethod = upperText op.method
  method_path : m.path = op.path
  method_arguments : m.arguments = placeBody body (parameters.map (·.1))
  method_steps : m.steps = parameters.map (·.2)
  method_body : m.body = plan
  method_accept : m.accept = if accepts then some mediaType else none
  method_branches : m.branches = arrange branches

theorem methodParts {setting : Setting} {op : Operation} {mediaType : Value} {name : String}
    {typePrefix : Value} {draft draft' : Draft} {m : Method}
    (h : exec (emitMethod setting op mediaType name typePrefix) draft = (.ok m, draft')) :
    Nonempty (MethodParts setting op mediaType name typePrefix draft m draft') := by
  unfold emitMethod at h
  obtain ⟨rawPrefix, hrawPrefix, h⟩ := of_exec_lift_bind h
  obtain ⟨⟨body, names⟩, afterBody, hbody, h⟩ := of_exec_bind h
  obtain ⟨parameters, afterParameters, hparameters, h⟩ := of_exec_bind h
  obtain ⟨plan, hplan, h⟩ := of_exec_lift_bind h
  obtain ⟨accepts, haccepts, h⟩ := of_exec_lift_bind h
  obtain ⟨branches, afterBranches, hbranches, h⟩ := of_exec_bind h
  obtain ⟨rfl, rfl⟩ := exec_pure_eq_ok.1 h
  exact ⟨rawPrefix, body, names, afterBody, parameters, afterParameters, plan, accepts, branches,
    hrawPrefix, hbody, hparameters, hplan, haccepts, hbranches, rfl, rfl, rfl, rfl, rfl, rfl, rfl,
    rfl, rfl, rfl⟩

end ApiClient.Emission
