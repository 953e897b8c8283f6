import ApiClient.Proofs.Dispatch
import ApiClient.Proofs.Emission.Method
import ApiClient.Proofs.TypeExpr
import Mathlib.Data.List.Find

/-!
# Dispatch of emitted methods

The branches of a method follow the declared responses in order, each with the outcome that its
response has for the media type of the method. What the method makes of a status code can then be
told from the responses alone: the first numeral for the code decides, then the first hundred that
holds it. A hundred whose text carries a line end counts like one without, so the outcome is that
of the plain text of the hundred just if no such text stands before it or they agree.
-/

namespace ApiClient

open Work

/-! ## Outcomes of responses -/

/-- The outcome of a successful response for a media type, if there is one. How references are
named does not matter to it. -/
def Response.outcome? (r : Response) (mediaType : Value) : Except Fault Outcome :=
  (r.payload? mediaType).map fun payload ↦
    match payload.bind (·.schema) with
    | none => .text
    | some s =>
      match (TypeExpr.ofSchema id s).collapse with
      | .binary => .binary
      | _ => if (mediaType.asText.map MediaType.isJson).toOption = some true then .json else .text

/-- A branch answers a response if it stands for its status and has its outcome, which is an error
from 400 on. -/
structure Branch.Answers (mediaType : Value) (r : Response) (b : Branch) : Prop where
  condition : StatusPattern.parse? r.status = .ok (some b.condition)
  error : 400 ≤ b.condition.least → b.outcome = .error
  outcome : b.condition.least < 400 → r.outcome? mediaType = .ok b.outcome

/-- Branches answer responses in order. A response whose status cannot be read has no branch. -/
inductive Branch.AnswerAll (mediaType : Value) : List Response → List Branch → Prop
  | nil : AnswerAll mediaType [] []
  | skip {r rs bs} : StatusPattern.parse? r.status = .ok none → AnswerAll mediaType rs bs →
      AnswerAll mediaType (r :: rs) bs
  | cons {r rs b bs} : Branch.Answers mediaType r b → AnswerAll mediaType rs bs →
      AnswerAll mediaType (r :: rs) (b :: bs)

theorem Response.outcome?_ne {r : Response} {mediaType : Value} {outcome : Outcome}
    (h : r.outcome? mediaType = .ok outcome) : outcome ≠ .error ∧ outcome ≠ .content := by
  unfold Response.outcome? at h
  cases hpayload : r.payload? mediaType with
  | error fault => simp [hpayload, Except.map] at h
  | ok payload =>
    rw [hpayload, Except.map, Except.ok.injEq] at h
    subst h
    split
    · decide
    · split
      · decide
      · split <;> decide

/-- Renaming the references of a type does not change whether it reduces to the binary type. -/
theorem collapse_ofSchema (identify : String → String) (s : Schema) :
    (TypeExpr.ofSchema identify s).collapse =
      ((TypeExpr.ofSchema id s).collapse).relabel identify := by
  rw [← TypeExpr.collapse_relabel, TypeExpr.relabel_ofSchema]

namespace Emission

variable {components : Components} {mediaType : Value}

theorem typeOf_exec (s : Schema) (draft : Draft) :
    ∃ identify draft', exec (Drafting.typeOf s) draft = (.ok (.ofSchema identify s), draft') :=
  ⟨_, _, rfl⟩

theorem outcome?_of_successOutcome {r : Response} {raw hint : String} {outcome : Outcome}
    {draft draft' : Draft}
    (h : exec (successOutcome components r mediaType raw) draft = (.ok (outcome, hint), draft')) :
    r.outcome? mediaType = .ok outcome := by
  unfold successOutcome at h
  obtain ⟨payload, hpayload, hrest⟩ := of_exec_lift_bind h
  rw [Response.outcome?, hpayload, Except.map, Except.ok.injEq]
  cases hschema : payload.bind (·.schema) with
  | none =>
    simp only [hschema] at hrest
    exact congrArg (·.1) (exec_pure_eq_ok.1 hrest).1.symm
  | some s =>
    simp only [hschema] at hrest
    obtain ⟨e, d, htype, hrest⟩ := of_exec_bind hrest
    obtain ⟨identify, d', htype'⟩ := typeOf_exec s draft
    obtain ⟨rfl, rfl⟩ : e = .ofSchema identify s ∧ d = d' := by simpa [htype'] using htype.symm
    rw [collapse_ofSchema] at hrest
    cases hcollapse : (TypeExpr.ofSchema id s).collapse with
    | binary =>
      simp only [hcollapse, TypeExpr.relabel] at hrest ⊢
      exact congrArg (·.1) (exec_pure_eq_ok.1 hrest).1.symm
    | _ =>
      simp only [hcollapse, TypeExpr.relabel] at hrest
      obtain ⟨text, htext, hrest⟩ := of_exec_lift_bind hrest
      rw [htext]
      cases hjson : MediaType.isJson text with
      | false =>
        simp only [hjson, Bool.not_false, if_true] at hrest
        simpa [Except.map, Except.toOption, hjson, hcollapse] using
          congrArg (·.1) (exec_pure_eq_ok.1 hrest).1.symm
      | true =>
        simp only [hjson, Bool.not_true, Bool.false_eq_true, if_false] at hrest
        have houtcome : outcome = .json := by
          first
          | exact congrArg (·.1) (exec_pure_eq_ok.1 hrest).1
          | obtain ⟨_, _, _, hrest⟩ := of_exec_bind hrest
            exact congrArg (·.1) (exec_pure_eq_ok.1 hrest).1
        simp [Except.map, Except.toOption, hjson, hcollapse, houtcome]

/-- A response has no branch just if its status cannot be read; otherwise its branch stands under the
status and answers it. -/
theorem answers_of_branchFor {location : String} {rawPrefix : Value} {r : Response}
    {first first' : Bool} {branch : Option Branch} {draft draft' : Draft}
    (h : exec (branchFor components location mediaType rawPrefix r first) draft =
      (.ok (branch, first'), draft')) :
    (branch = none ∧ StatusPattern.parse? r.status = .ok none) ∨
      ∃ b, branch = some b ∧ b.status = r.status ∧ Branch.Answers mediaType r b := by
  unfold branchFor at h
  split at h
  · next hdefault =>
    have hresult := (exec_pure_eq_ok.1 h).1
    rw [Prod.mk.injEq] at hresult
    rw [Response.isDefault, decide_eq_true_eq] at hdefault
    rw [hdefault]
    exact .inl ⟨hresult.1, rfl⟩
  · obtain ⟨p, hparse, hrest⟩ := of_exec_lift_bind h
    cases p with
    | none =>
      obtain ⟨_, d, -, hrest⟩ := of_exec_bind hrest
      have hresult := (exec_pure_eq_ok.1 hrest).1
      rw [Prod.mk.injEq] at hresult
      exact .inl ⟨hresult.1, hparse⟩
    | some condition =>
      simp only at hrest
      split at hrest
      · next hleast =>
        have hresult := (exec_pure_eq_ok.1 hrest).1
        rw [Prod.mk.injEq] at hresult
        refine .inr ⟨_, hresult.1, rfl, hparse, fun _ ↦ rfl, fun hlt ↦ ?_⟩
        exact absurd hleast (Nat.not_le.2 hlt)
      · next hleast =>
        obtain ⟨raw, -, hrest⟩ := of_exec_lift_bind hrest
        obtain ⟨⟨outcome, hint⟩, d, houtcome, hrest⟩ := of_exec_bind hrest
        have hresult := (exec_pure_eq_ok.1 hrest).1
        rw [Prod.mk.injEq] at hresult
        refine .inr ⟨_, hresult.1, rfl, hparse, fun hge ↦ absurd hge hleast, fun _ ↦ ?_⟩
        exact outcome?_of_successOutcome houtcome

/-- Emitted branches answer the responses they are emitted for. -/
theorem answerAll_of_branchesFor {location : String} {rawPrefix : Value} {rs : List Response}
    {first : Bool} {bs : List Branch} {draft draft' : Draft}
    (h : exec (branchesFor components location mediaType rawPrefix rs first) draft =
      (.ok bs, draft')) : Branch.AnswerAll mediaType rs bs := by
  induction rs generalizing first bs draft draft' with
  | nil =>
    obtain ⟨rfl, -⟩ := exec_pure_eq_ok.1 h
    exact .nil
  | cons r rs ih =>
    unfold branchesFor at h
    obtain ⟨⟨branch, first'⟩, d, hbranch, hrest⟩ := of_exec_bind h
    obtain ⟨bs', d', hbs, hrest⟩ := of_exec_bind hrest
    obtain ⟨rfl, -⟩ := exec_pure_eq_ok.1 hrest
    obtain ⟨rfl, hparse⟩ | ⟨b, rfl, -, hanswers⟩ := answers_of_branchFor hbranch
    · exact .skip hparse (ih hbs)
    · exact .cons hanswers (ih hbs)

end Emission

/-! ## Dispatch on a status code -/

/-- The response that decides is found on both sides: first in the order of the responses, first
in the order of the branches. -/
theorem Branch.AnswerAll.find? {mediaType : Value} {rs : List Response} {bs : List Branch}
    (h : Branch.AnswerAll mediaType rs bs) {f : String → Bool} {g : StatusPattern → Bool}
    (hfg : ∀ {status p}, StatusPattern.parse? status = .ok p → f status = p.any g) :
    (∃ r b, rs.find? (f ·.status) = some r ∧ bs.find? (g ·.condition) = some b ∧
      Branch.Answers mediaType r b ∧ g b.condition) ∨
    (rs.find? (f ·.status) = none ∧ bs.find? (g ·.condition) = none) := by
  induction h with
  | nil => exact .inr ⟨rfl, rfl⟩
  | skip hparse _ ih =>
    rw [List.find?_cons, hfg hparse]
    exact ih
  | @cons r rs b bs hanswers _ ih =>
    rw [List.find?_cons, List.find?_cons, hfg hanswers.condition, Option.any_some]
    cases hg : g b.condition with
    | true => exact .inl ⟨r, b, rfl, rfl, hanswers, hg⟩
    | false => exact ih

theorem Branch.Answers.outcome_eq_error_iff {mediaType : Value} {r : Response} {b : Branch}
    (h : Branch.Answers mediaType r b) {c : Int} (hcovers : b.condition.covers c) :
    b.outcome = .error ↔ 400 ≤ c := by
  have hleast := StatusPattern.least_lt_iff hcovers
  constructor
  · intro herror
    by_contra hlt
    have houtcome := h.outcome (hleast.2 (by omega))
    exact (Response.outcome?_ne houtcome).1 herror
  · intro hge
    exact h.error (by omega)

theorem Branch.Answers.outcome?_eq {mediaType : Value} {r : Response} {b : Branch}
    (h : Branch.Answers mediaType r b) {c : Int} (hcovers : b.condition.covers c) (hc : c < 400) :
    r.outcome? mediaType = .ok b.outcome :=
  h.outcome ((StatusPattern.least_lt_iff hcovers).2 hc)

/-- Branches dispatch on responses: codes from 400 on are errors; below, the first numeral for the
code decides, then the first hundred that holds it, spelled with one of some endings; a code that
no response stands for yields the raw content. -/
structure DispatchOn (mediaType : Value) (endings : List String) (rs : List Response)
    (branches : List Branch) : Prop where
  error : ∀ c, dispatch branches c = .error ↔ 400 ≤ c
  code : ∀ c < 400, ∀ r, rs.find? (StatusPattern.names ·.status c) = some r →
    r.outcome? mediaType = .ok (dispatch branches c)
  hundred : ∀ c < 400, rs.find? (StatusPattern.names ·.status c) = none →
    ∀ r, rs.find? (StatusPattern.spans endings ·.status c) = some r →
      r.outcome? mediaType = .ok (dispatch branches c)
  content : ∀ c < 400, rs.find? (StatusPattern.names ·.status c) = none →
    rs.find? (StatusPattern.spans endings ·.status c) = none → dispatch branches c = .content

theorem dispatchOn_arrange {mediaType : Value} {rs : List Response} {bs : List Branch}
    (h : Branch.AnswerAll mediaType rs bs) :
    DispatchOn mediaType StatusPattern.overlooked rs (arrange bs) := by
  have hcode (c : Int) := h.find? (f := fun status ↦ StatusPattern.names status c)
    (g := fun q ↦ q.isExact && q.covers c) fun hparse ↦ StatusPattern.names_eq_of_parse? hparse c
  have hhundred (c : Int) := h.find?
    (f := fun status ↦ StatusPattern.spans StatusPattern.overlooked status c)
    (g := fun q ↦ !q.isExact && q.covers c) fun hparse ↦ StatusPattern.spans_eq_of_parse? hparse c
  have hcovers {p q : Bool} (hpq : (p && q) = true) : q = true := (Bool.and_eq_true_iff.1 hpq).2
  refine ⟨?error, ?code, ?hundred, ?content⟩
  case error =>
    intro c
    obtain ⟨r, b, hr, hb, hanswers, hg⟩ | ⟨hr, hb⟩ := hcode c
    · rw [dispatch_arrange_of_code hb]
      exact hanswers.outcome_eq_error_iff (hcovers hg)
    · obtain ⟨r', b', hr', hb', hanswers, hg⟩ | ⟨hr', hb'⟩ := hhundred c
      · rw [dispatch_arrange_of_hundred hb hb']
        exact hanswers.outcome_eq_error_iff (hcovers hg)
      · rw [dispatch_arrange_of_none hb hb']
        split
        · simp only [reduceCtorEq, false_iff]
          omega
        · simp only [true_iff]
          omega
  case code =>
    intro c hc r hr
    obtain ⟨r', b, hr', hb, hanswers, hg⟩ | ⟨hr', -⟩ := hcode c
    · obtain rfl : r = r' := Option.some.inj (hr.symm.trans hr')
      rw [dispatch_arrange_of_code hb]
      exact hanswers.outcome?_eq (hcovers hg) hc
    · simp [hr] at hr'
  case hundred =>
    intro c hc hnone r hr
    obtain ⟨r', b, hr', -⟩ | ⟨-, hb⟩ := hcode c
    · simp [hnone] at hr'
    · obtain ⟨r', b', hr', hb', hanswers, hg⟩ | ⟨hr', -⟩ := hhundred c
      · obtain rfl : r = r' := Option.some.inj (hr.symm.trans hr')
        rw [dispatch_arrange_of_hundred hb hb']
        exact hanswers.outcome?_eq (hcovers hg) hc
      · simp [hr] at hr'
  case content =>
    intro c hc hnone hnone'
    obtain ⟨r, b, hr, -⟩ | ⟨-, hb⟩ := hcode c
    · simp [hnone] at hr
    · obtain ⟨r', b', hr', -⟩ | ⟨-, hb'⟩ := hhundred c
      · simp [hnone'] at hr'
      · rw [dispatch_arrange_of_none hb hb', if_pos hc]

/-- Dispatch that overlooks line ends is the dispatch on plain texts just if a text with a line
end never decides otherwise than the first plain one. -/
theorem DispatchOn.plain_iff {mediaType : Value} {rs : List Response} {branches : List Branch}
    (h : DispatchOn mediaType StatusPattern.overlooked rs branches) :
    DispatchOn mediaType [""] rs branches ↔
      ∀ c < 400, rs.find? (StatusPattern.names ·.status c) = none →
        ∀ r, rs.find? (StatusPattern.spans StatusPattern.overlooked ·.status c) = some r →
          ∃ r', rs.find? (StatusPattern.spans [""] ·.status c) = some r' ∧
            r'.outcome? mediaType = r.outcome? mediaType := by
  constructor
  · intro hplain c hc hnone r hr
    have houtcome := h.hundred c hc hnone r hr
    cases hr' : rs.find? (StatusPattern.spans [""] ·.status c) with
    | none =>
      rw [hplain.content c hc hnone hr'] at houtcome
      exact absurd rfl (Response.outcome?_ne houtcome).2
    | some r' => exact ⟨r', rfl, (hplain.hundred c hc hnone r' hr').trans houtcome.symm⟩
  · intro hagree
    have hwide {c : Int} {r : Response}
        (hr : rs.find? (StatusPattern.spans [""] ·.status c) = some r) :
        ∃ r', rs.find? (StatusPattern.spans StatusPattern.overlooked ·.status c) = some r' := by
      have hspans : StatusPattern.spans [""] r.status c :=
        List.find?_some (p := fun r : Response ↦ StatusPattern.spans [""] r.status c) hr
      rw [← Option.isSome_iff_exists, List.find?_isSome]
      exact ⟨r, List.mem_of_find?_eq_some hr, StatusPattern.spans_mono (by decide) hspans⟩
    refine ⟨h.error, h.code, ?_, ?_⟩
    · intro c hc hnone r' hr'
      obtain ⟨r, hr⟩ := hwide hr'
      obtain ⟨r'', hr'', houtcome⟩ := hagree c hc hnone r hr
      obtain rfl : r' = r'' := Option.some.inj (hr'.symm.trans hr'')
      exact houtcome.trans (h.hundred c hc hnone r hr)
    · intro c hc hnone hnone'
      refine h.content c hc hnone ?_
      by_contra hsome
      obtain ⟨r, hr⟩ := Option.ne_none_iff_exists'.1 hsome
      obtain ⟨r', hr', -⟩ := hagree c hc hnone r hr
      simp [hnone'] at hr'

/-! ## Emitted methods -/

namespace Emission

variable {setting : Setting} {op : Operation} {mediaType typePrefix : Value} {name : String}

/-- The branches of an emitted method answer the responses of its operation. -/
theorem answerAll_of_emitMethod {draft draft' : Draft} {m : Method}
    (h : exec (emitMethod setting op mediaType name typePrefix) draft = (.ok m, draft')) :
    ∃ bs, m.branches = arrange bs ∧ Branch.AnswerAll mediaType op.responses bs := by
  obtain ⟨parts⟩ := methodParts h
  exact ⟨parts.branches, parts.method_branches, answerAll_of_branchesFor parts.branches_eq⟩

theorem branchesFor_filter_isDefault (components : Components) (location : String)
    (mediaType rawPrefix : Value) (rs : List Response) (first : Bool) :
    branchesFor components location mediaType rawPrefix (rs.filter (!·.isDefault)) first =
      branchesFor components location mediaType rawPrefix rs first := by
  induction rs generalizing first with
  | nil => rfl
  | cons r rs ih =>
    cases hdefault : r.isDefault with
    | true =>
      have hskip : branchFor components location mediaType rawPrefix r first =
          pure (none, first) := by
        rw [branchFor, if_pos hdefault]
      rw [List.filter_cons_of_neg (by simp [hdefault]), ih, branchesFor, hskip]
      simp
    | false =>
      rw [List.filter_cons_of_pos (by simp [hdefault]), branchesFor, branchesFor]
      simp only [ih]

theorem filter_isSuccess_filter_isDefault (rs : List Response) :
    (rs.filter (!·.isDefault)).filter (·.isSuccess) = rs.filter (·.isSuccess) := by
  rw [List.filter_filter]
  congr 1
  funext r
  cases hdefault : r.isDefault with
  | false => simp
  | true =>
    have hstatus : r.status = "default" := by simpa [Response.isDefault] using hdefault
    have hsuccess : r.isSuccess = false := by
      rw [Response.isSuccess, hstatus]
      decide +kernel
    simp [hsuccess]

/-- The methods of an operation do not depend on its default response. -/
theorem emitMethod_filter_isDefault (setting : Setting) (op : Operation) (mediaType : Value)
    (name : String) (typePrefix : Value) :
    emitMethod setting { op with responses := op.responses.filter (!·.isDefault) } mediaType name
      typePrefix = emitMethod setting op mediaType name typePrefix := by
  have haccepts : Operation.accepts { op with responses := op.responses.filter (!·.isDefault) }
      mediaType = op.accepts mediaType := by
    rw [Operation.accepts, filter_isSuccess_filter_isDefault, Operation.accepts]
  unfold emitMethod
  simp only [haccepts, branchesFor_filter_isDefault]
  rfl

/-- What an emitted method makes of a status code. A hundred counts with or without a line end
after its text; with the plain texts alone the dispatch is as declared just if no text with a line
end decides otherwise; and the default response has no part in it. -/
theorem dispatch_emitMethod {draft draft' : Draft} {m : Method}
    (h : exec (emitMethod setting op mediaType name typePrefix) draft = (.ok m, draft')) :
    DispatchOn mediaType StatusPattern.overlooked op.responses m.branches ∧
    (DispatchOn mediaType [""] op.responses m.branches ↔
      ∀ c < 400, op.responses.find? (StatusPattern.names ·.status c) = none →
        ∀ r, op.responses.find? (StatusPattern.spans StatusPattern.overlooked ·.status c) = some r →
          ∃ r', op.responses.find? (StatusPattern.spans [""] ·.status c) = some r' ∧
            r'.outcome? mediaType = r.outcome? mediaType) ∧
    emitMethod setting { op with responses := op.responses.filter (!·.isDefault) } mediaType name
      typePrefix = emitMethod setting op mediaType name typePrefix := by
  obtain ⟨bs, hbranches, hanswers⟩ := answerAll_of_emitMethod h
  have hdispatch := dispatchOn_arrange hanswers
  rw [hbranches]
  exact ⟨hdispatch, hdispatch.plain_iff, emitMethod_filter_isDefault ..⟩

/-- A get operation on `/pets` with some responses. -/
def petsOperation (responses : List Response) : Operation where
  path := "/pets"
  method := "get"
  tag := "pets"
  id := "pets"
  parameters := []
  body := none
  responses
  tags := ["pets"]
  summary := ""
  description := ""
  deprecated := false

/-- A hundred before one of its codes, errors, and a default. -/
def mixedResponses : List Response := [
  { status := "2XX", content := [("application/json", ⟨some .anything⟩)], description := "" },
  { status := "201", content := [], description := "" },
  { status := "4XX", content := [], description := "" },
  { status := "default", content := [], description := "" }]

theorem dispatch_mixedResponses :
    ∃ m draft, exec (emitMethod ⟨[], {}⟩ (petsOperation mixedResponses) "application/json" "pets"
        "pets") .empty = (.ok m, draft) ∧
      dispatch m.branches 201 = .text ∧
      DispatchOn "application/json" [""] mixedResponses m.branches := by
  have hresult : (exec (emitMethod ⟨[], {}⟩ (petsOperation mixedResponses) "application/json"
      "pets" "pets") .empty).1.toOption.map (dispatch ·.branches 201) = some .text := by
    decide +kernel
  obtain ⟨m, draft, hm, hcode⟩ := exists_exec_of_map hresult
  refine ⟨m, draft, hm, hcode, (dispatch_emitMethod hm).2.1.2 fun c hc hnone r hr ↦ ?_⟩
  have hplain : ∀ r ∈ mixedResponses, ∀ k ∈ StatusPattern.hundreds,
      (StatusPattern.overlooked.any fun ending ↦ r.status = StatusPattern.hundredText k ++ ending) =
        [""].any fun ending ↦ r.status = StatusPattern.hundredText k ++ ending := by
    decide +kernel
  have hspans : mixedResponses.find? (StatusPattern.spans StatusPattern.overlooked ·.status c) =
      mixedResponses.find? (StatusPattern.spans [""] ·.status c) :=
    List.find?_congr fun r hr ↦ StatusPattern.spans_congr (hplain r hr) c
  exact ⟨r, hspans.symm.trans hr, rfl⟩

/-- Two responses for one hundred, the first with a line end after the text. -/
def lineEndResponses : List Response := [
  { status := "2XX\n", content := [("application/json", ⟨some .anything⟩)], description := "" },
  { status := "2XX", content := [], description := "" }]

/-- The response with the line end takes the codes that the other one declares. -/
theorem dispatch_lineEndResponses :
    ∃ m draft, exec (emitMethod ⟨[], {}⟩ (petsOperation lineEndResponses) "application/json" "pets"
        "pets") .empty = (.ok m, draft) ∧
      dispatch m.branches 250 = .json ∧
      ¬ DispatchOn "application/json" [""] lineEndResponses m.branches := by
  have hresult : (exec (emitMethod ⟨[], {}⟩ (petsOperation lineEndResponses) "application/json"
      "pets" "pets") .empty).1.toOption.map (dispatch ·.branches 250) = some .json := by
    decide +kernel
  obtain ⟨m, draft, hm, hcode⟩ := exists_exec_of_map hresult
  refine ⟨m, draft, hm, hcode, fun hdispatch ↦ ?_⟩
  have hnone : lineEndResponses.find? (StatusPattern.names ·.status 250) = none := by rfl
  have hplain : (lineEndResponses.find? (StatusPattern.spans [""] ·.status 250)).map
      (·.outcome? "application/json") = some (.ok .text) := by rfl
  obtain ⟨r, hr, htext⟩ := Option.map_eq_some_iff.1 hplain
  have hjson := hdispatch.hundred 250 (by decide) hnone r hr
  rw [htext, hcode] at hjson
  cases hjson

end Emission

end ApiClient
