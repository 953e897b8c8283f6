import ApiClient.Proofs.Emission.Branches
import ApiClient.Proofs.Operation.Responses
import Mathlib.Data.List.ReduceOption

/-!
# Responses decoded as interchange notation

A method decodes a successful response when the media type is one of the interchange notation and
the response has a schema for it that is not binary. An object that says nothing of a shape is a
schema like any other, except for the empty one, which is read as if there were no schema at all:
its response is returned as text.
-/

namespace ApiClient

open Work

/-! ## Branches of responses -/

/-- What is made for a response: no branch if its status cannot be read, and else one under the
status, which answers it. -/
def Branch.MadeFor (mediaType : Value) (r : Response) (made : Option Branch) : Prop :=
  (made = none ∧ StatusPattern.parse? r.status = .ok none) ∨
    ∃ b, made = some b ∧ b.status = r.status ∧ Branch.Answers mediaType r b

namespace Emission

variable {components : Components} {mediaType : Value}

theorem forall₂_of_branchesFor {location : String} {rawPrefix : Value} {rs : List Response}
    {first : Bool} {bs : List Branch} {draft draft' : Draft}
    (h : exec (branchesFor components location mediaType rawPrefix rs first) draft =
      (.ok bs, draft')) :
    ∃ made : List (Option Branch), bs = made.reduceOption ∧
      List.Forall₂ (Branch.MadeFor mediaType) rs made := by
  induction rs generalizing first bs draft draft' with
  | nil =>
    obtain ⟨rfl, -⟩ := exec_pure_eq_ok.1 h
    exact ⟨[], rfl, .nil⟩
  | cons r rs ih =>
    unfold branchesFor at h
    obtain ⟨⟨branch, first'⟩, d, hbranch, hrest⟩ := of_exec_bind h
    obtain ⟨bs', d', hbs, hrest⟩ := of_exec_bind hrest
    obtain ⟨rfl, -⟩ := exec_pure_eq_ok.1 hrest
    obtain ⟨made, rfl, hmade⟩ := ih hbs
    refine ⟨branch :: made, ?_, .cons (answers_of_branchFor hbranch) hmade⟩
    cases branch <;> rfl

variable {setting : Setting} {op : Operation} {name : String} {typePrefix : Value}
  {draft draft' : Draft} {m : Method}

/-- The branches of a method are those that are made for the responses. -/
theorem forall₂_of_emitMethod
    (h : exec (emitMethod setting op mediaType name typePrefix) draft = (.ok m, draft')) :
    ∃ made, (∀ b, b ∈ m.branches ↔ some b ∈ made) ∧
      List.Forall₂ (Branch.MadeFor mediaType) op.responses made := by
  obtain ⟨parts⟩ := methodParts h
  obtain ⟨made, hbranches, hmade⟩ := forall₂_of_branchesFor parts.branches_eq
  refine ⟨made, fun b ↦ ?_, hmade⟩
  rw [parts.method_branches, (arrange_perm _).mem_iff, hbranches, List.reduceOption_mem_iff]

/-- Each branch of a method stands under the status of a response and answers it. -/
theorem exists_response_of_mem_branches
    (h : exec (emitMethod setting op mediaType name typePrefix) draft = (.ok m, draft'))
    {b : Branch} (hb : b ∈ m.branches) :
    ∃ r ∈ op.responses, b.status = r.status ∧ Branch.Answers mediaType r b := by
  obtain ⟨made, hbranches, hmade⟩ := forall₂_of_emitMethod h
  obtain ⟨r, hr, hresponse⟩ := Module.exists_left_of_mem hmade ((hbranches b).1 hb)
  rcases hresponse with ⟨hnone, -⟩ | ⟨b', hsome, hstatus, hanswers⟩
  · cases hnone
  · obtain rfl : b = b' := Option.some.inj hsome
    exact ⟨r, hr, hstatus, hanswers⟩

/-- A response whose status can be read has a branch under it. -/
theorem exists_branch_of_mem_responses
    (h : exec (emitMethod setting op mediaType name typePrefix) draft = (.ok m, draft'))
    {r : Response} {condition : StatusPattern} (hr : r ∈ op.responses)
    (hstatus : StatusPattern.parse? r.status = .ok (some condition)) :
    ∃ b ∈ m.branches, b.status = r.status := by
  obtain ⟨made, hbranches, hmade⟩ := forall₂_of_emitMethod h
  obtain ⟨branch, hbranch, hresponse⟩ := Module.exists_left_of_mem hmade.flip hr
  rcases hresponse with ⟨-, hnone⟩ | ⟨b, rfl, hsame, -⟩
  · rw [hstatus] at hnone
    cases hnone
  · exact ⟨b, (hbranches b).2 hbranch, hsame⟩

end Emission

/-! ## Outcomes -/

/-- The outcome of a response with a schema object for a media type of the interchange notation. -/
theorem Response.outcome_eq_of_schema {r : Response} {mediaType : String} {key schema : Value}
    {payload : Payload} {entries : List (Value × Value)} {outcome : Outcome}
    (h : r.outcome? (.text mediaType) = .ok outcome)
    (hfound : List.find? (·.1.same (.text mediaType)) r.content = some (key, payload))
    (hread : Operation.ReadPayload schema payload) (hobject : schema.asMap? = some entries)
    (hjson : MediaType.isJson mediaType = true)
    (hbinary : ∀ s, Schema.parse schema = .ok s → (TypeExpr.ofSchema id s).collapse ≠ .binary) :
    outcome = if entries = [] then .text else .json := by
  have hpayload : r.payload? (.text mediaType) = .ok (some payload) := by
    have hown : r.content.find? (.text mediaType) = .ok (some payload) := by
      have hkey : (Value.text mediaType).hashable = true := rfl
      rw [Content.find?, if_pos hkey, hfound]
      rfl
    rw [Response.payload?, hown]
    rfl
  rw [Response.outcome?, hpayload, Except.map, Except.ok.injEq] at h
  unfold Operation.ReadPayload at hread
  rw [Value.truthy_of_asMap? hobject] at hread
  cases entries with
  | nil =>
    have hnone : payload.schema = none := by simpa using hread
    rw [← h, Option.bind_some, hnone]
    rfl
  | cons entry entries =>
    obtain ⟨s, hparse, hsome⟩ : ∃ s, Schema.parse schema = .ok s ∧ payload.schema = some s := by
      simpa using hread
    rw [← h, Option.bind_some, hsome, if_neg (List.cons_ne_nil _ _)]
    have htext : ((Value.text mediaType).asText.map MediaType.isJson).toOption = some true :=
      congrArg some hjson
    dsimp only
    split
    · next hcollapse => exact absurd hcollapse (hbinary s hparse)
    · rw [if_pos htext]

namespace Emission

open Operation

variable {description : Value} {options : Options} {slot : Slot} {op : Operation}
  {setting : Setting} {mediaType name : String} {typePrefix : Value} {draft draft' : Draft}
  {m : Method}

/-- An operation of a description declares an object as the schema of a response below 400 for a
media type of the interchange notation, and it is not binary. In a method for the media type the
response has a branch, which decodes the body unless the object is empty. -/
theorem schemaOutcome_eq (hread : ReadFrom description options slot op)
    (hm : exec (emitMethod setting op (.text mediaType) name typePrefix) draft = (.ok m, draft'))
    (hjson : MediaType.isJson mediaType = true) {status : String} {condition : StatusPattern}
    (hstatus : StatusPattern.parse? status = .ok (some condition)) (hless : condition.least < 400)
    {schema : Value} {entries : List (Value × Value)}
    (hschema : schemaAt? description slot.value status (.text mediaType) = some schema)
    (hobject : schema.asMap? = some entries)
    (hbinary : ∀ s, Schema.parse schema = .ok s → (TypeExpr.ofSchema id s).collapse ≠ .binary) :
    (∃ b ∈ m.branches, b.status = status) ∧
      ∀ b ∈ m.branches, b.status = status →
        b.condition = condition ∧ b.outcome = if entries = [] then .text else .json := by
  obtain ⟨r, hr, hsame, key, payload, hfound, hpayload⟩ := hread.exists_payload hschema
  constructor
  · obtain ⟨b, hb, hunder⟩ := exists_branch_of_mem_responses hm hr (hsame.symm ▸ hstatus)
    exact ⟨b, hb, hunder.trans hsame⟩
  · intro b hb hunder
    obtain ⟨r', hr', hunder', hanswers⟩ := exists_response_of_mem_branches hm hb
    -- there is one response for each status
    obtain rfl : r' = r := List.inj_on_of_nodup_map hread.nodup_status hr' hr
      (hunder'.symm.trans (hunder.trans hsame.symm))
    have hcondition : b.condition = condition := by
      have hparse := hanswers.condition
      rw [hsame, hstatus] at hparse
      exact (Option.some.inj (Except.ok.inj hparse)).symm
    refine ⟨hcondition, Response.outcome_eq_of_schema (hanswers.outcome ?_) hfound hpayload hobject
      hjson hbinary⟩
    rwa [hcondition]

/-- An operation whose one response has a schema for the interchange notation. -/
def petSlot (schema : Value) : Slot where
  path := "/pet"
  method := "get"
  value := .map [("responses", .map [("200", .map [("content",
    .map [("application/json", .map [("schema", schema)])])])])]

/-- The description of that operation alone. -/
def petDescription (schema : Value) : Value :=
  .map [("paths", .map [((petSlot schema).path, .map [("get", (petSlot schema).value)])])]

/-- Reads the operation and emits its method: status and outcome of the branches. -/
def petOutcomes (schema : Value) : Option (List (String × Outcome)) := do
  let op ← (exec (parse (petDescription schema) "/pet" "get" (petSlot schema).value [] {})
    []).1.toOption
  let m ← (exec (emitMethod ⟨[], {}⟩ op "application/json" "pet" "pet") .empty).1.toOption
  return m.branches.map fun b ↦ (b.status, b.outcome)

theorem exists_method_of_petOutcomes {schema : Value} {outcomes : List (String × Outcome)}
    (h : petOutcomes schema = some outcomes) :
    ∃ op m draft, ReadFrom (petDescription schema) {} (petSlot schema) op ∧
      exec (emitMethod ⟨[], {}⟩ op "application/json" "pet" "pet") .empty = (.ok m, draft) ∧
      m.branches.map (fun b ↦ (b.status, b.outcome)) = outcomes := by
  obtain ⟨op, hop, h⟩ := Option.bind_eq_some_iff.1 h
  obtain ⟨m, hm, houtcomes⟩ := Option.bind_eq_some_iff.1 h
  obtain ⟨ds, hparse⟩ : ∃ ds, exec (parse (petDescription schema) "/pet" "get"
      (petSlot schema).value [] {}) [] = (.ok op, ds) :=
    ⟨_, Prod.ext (eq_ok_of_toOption hop) rfl⟩
  exact ⟨op, m, _, ⟨(eq_of_parse hparse).1, (eq_of_parse hparse).2.1, [], [], ds, hparse⟩,
    Prod.ext (eq_ok_of_toOption hm) rfl, Option.some.inj houtcomes⟩

/-- A schema of annotations only. -/
def annotatedSchema : Value := .map [("description", "a pet")]

theorem schemaOutcome_annotated :
    slots (petDescription annotatedSchema) = .ok [petSlot annotatedSchema] ∧
    ∃ op m draft, ReadFrom (petDescription annotatedSchema) {} (petSlot annotatedSchema) op ∧
      exec (emitMethod ⟨[], {}⟩ op "application/json" "pet" "pet") .empty = (.ok m, draft) ∧
      (∃ b ∈ m.branches, b.status = "200") ∧
      ∀ b ∈ m.branches, b.status = "200" → b.condition = .exact 200 ∧ b.outcome = .json := by
  have houtcomes : petOutcomes annotatedSchema = some [("200", .json)] := by decide +kernel
  obtain ⟨op, m, draft, hread, hm, -⟩ := exists_method_of_petOutcomes houtcomes
  have hslots : slots (petDescription annotatedSchema) = .ok [petSlot annotatedSchema] := by
    with_unfolding_all rfl
  have hschema : schemaAt? (petDescription annotatedSchema) (petSlot annotatedSchema).value "200"
      "application/json" = some annotatedSchema := by
    with_unfolding_all rfl
  have hbinary : ∀ s, Schema.parse annotatedSchema = .ok s →
      (TypeExpr.ofSchema id s).collapse ≠ .binary := by
    intro s hs
    obtain rfl : .anything = s := Except.ok.inj hs
    exact nofun
  exact ⟨hslots, op, m, draft, hread, hm, schemaOutcome_eq hread hm (by decide +kernel) rfl
    (by decide) hschema rfl hbinary⟩

/-- The empty schema is not binary, but its response is returned as text. -/
theorem schemaOutcome_empty :
    slots (petDescription (.map [])) = .ok [petSlot (.map [])] ∧
    schemaAt? (petDescription (.map [])) (petSlot (.map [])).value "200" "application/json" =
      some (.map []) ∧
    (Schema.parse (.map [])).map (TypeExpr.ofSchema id ·) = .ok .anything ∧
    ∃ op m draft, ReadFrom (petDescription (.map [])) {} (petSlot (.map [])) op ∧
      exec (emitMethod ⟨[], {}⟩ op "application/json" "pet" "pet") .empty = (.ok m, draft) ∧
      m.branches.map (fun b ↦ (b.status, b.outcome)) = [("200", .text)] := by
  have houtcomes : petOutcomes (.map []) = some [("200", .text)] := by decide +kernel
  have hslots : slots (petDescription (.map [])) = .ok [petSlot (.map [])] := by
    with_unfolding_all rfl
  have hschema : schemaAt? (petDescription (.map [])) (petSlot (.map [])).value "200"
      "application/json" = some (.map []) := by
    with_unfolding_all rfl
  exact ⟨hslots, hschema, rfl, exists_method_of_petOutcomes houtcomes⟩

end Emission

end ApiClient
