import ApiClient.Proofs.Emission.Method
import ApiClient.Proofs.Name.Registry

/-!
# Signatures

A method takes an argument for each parameter of its operation, those for required parameters
first, and one for the request body, which stands before them if the body is required and after
them if not. Each step of the method puts one argument to the place of its parameter. Arguments are
named through a registry of their own, under raw names that are settled by the names and places of
the parameters; two arguments have one name just if they were registered under one raw name.
-/

namespace ApiClient

open Work

/-! ## Raw names -/

namespace Parameter

/-- The name of a parameter behind its place. -/
def qualifiedName (p : Parameter) : String := p.place.text ++ " " ++ p.name.plain

/-- The raw name of a parameter's argument when some raw names are registered: the name of the
parameter, qualified if it is one of them. -/
def rawName (p : Parameter) (registered : List String) : String :=
  if p.name.plain ∈ registered then p.qualifiedName else p.name.plain

end Parameter

namespace Operation

/-- The request body, if it has content of a media type. -/
def bodyFor? (op : Operation) (mediaType : Value) : Option RequestBody :=
  op.body.filter fun body ↦ body.content.any (·.1.same mediaType)

/-- The raw names of the arguments for parameters in order. -/
def rawNamesOf : List Parameter → List String → List String
  | [], _ => []
  | p :: ps, registered =>
    p.rawName registered :: rawNamesOf ps (registered ++ [p.rawName registered])

/-- The raw name of the body argument, if there is one. -/
def bodyRawNames (op : Operation) (mediaType : Value) : List String :=
  if (op.bodyFor? mediaType).isSome then ["body"] else []

/-- The raw names of all arguments in the order in which they are registered. -/
def argumentRawNames (op : Operation) (mediaType : Value) : List String :=
  op.bodyRawNames mediaType ++
    rawNamesOf (orderParameters op.parameters) (op.bodyRawNames mediaType)

theorem blank_mem_qualifiedName (p : Parameter) : ' ' ∈ p.qualifiedName.toList := by
  simp [Parameter.qualifiedName]

theorem qualifiedName_inj {p q : Parameter} (h : p.qualifiedName = q.qualifiedName) :
    p.place = q.place ∧ p.name.plain = q.name.plain := by
  have htext := congrArg String.toList h
  unfold Parameter.qualifiedName at htext
  cases hp : p.place <;> cases hq : q.place <;>
    simp_all [Place.text, String.toList_append, String.toList_inj]

/-- A registered name of its own is never given to a parameter again. -/
theorem not_mem_rawNamesOf {ps : List Parameter} {registered : List String} {raw : String}
    (hraw : ' ' ∉ raw.toList) (h : raw ∈ registered) : raw ∉ rawNamesOf ps registered := by
  induction ps generalizing registered with
  | nil => exact List.not_mem_nil
  | cons p ps ih =>
    unfold rawNamesOf
    rw [List.mem_cons, not_or]
    refine ⟨fun hsame ↦ ?_, ih (List.mem_append_left _ h)⟩
    unfold Parameter.rawName at hsame
    split at hsame
    · exact hraw (hsame ▸ blank_mem_qualifiedName p)
    · next hnew => exact hnew (hsame ▸ h)

/-- Parameters that differ in name or place, and whose names have no blanks, have different raw
names. -/
theorem nodup_rawNamesOf {ps : List Parameter} {registered : List String}
    (hblank : ∀ p ∈ ps, ' ' ∉ p.name.plain.toList)
    (hdistinct : ps.Pairwise fun p q ↦ ¬ (p.name.plain = q.name.plain ∧ p.place = q.place))
    (hfree : ∀ p ∈ ps, p.qualifiedName ∉ registered) :
    (rawNamesOf ps registered).Nodup ∧ ∀ raw ∈ rawNamesOf ps registered, raw ∉ registered := by
  induction ps generalizing registered with
  | nil => exact ⟨.nil, List.forall_mem_nil _⟩
  | cons p ps ih =>
    obtain ⟨hp, hps⟩ := List.forall_mem_cons.1 hblank
    obtain ⟨hfirst, hdistinct⟩ := List.pairwise_cons.1 hdistinct
    obtain ⟨hfreeFirst, hfree⟩ := List.forall_mem_cons.1 hfree
    have hnew : p.rawName registered ∉ registered := by
      unfold Parameter.rawName
      split
      · exact hfreeFirst
      · assumption
    have hother : ∀ q ∈ ps, q.qualifiedName ∉ registered ++ [p.rawName registered] := by
      intro q hq hmem
      rcases List.mem_append.1 hmem with hmem | hmem
      · exact hfree q hq hmem
      · have hsame := List.mem_singleton.1 hmem
        unfold Parameter.rawName at hsame
        split at hsame
        · obtain ⟨hplace, hname⟩ := qualifiedName_inj hsame
          exact hfirst q hq ⟨hname.symm, hplace.symm⟩
        · exact hp (hsame ▸ blank_mem_qualifiedName q)
    obtain ⟨hnodup, hrest⟩ := ih hps hdistinct hother
    unfold rawNamesOf
    rw [List.nodup_cons, List.forall_mem_cons]
    exact ⟨⟨fun hmem ↦ hrest _ hmem (List.mem_append_right _ (List.mem_singleton_self _)), hnodup⟩,
      hnew, fun raw hraw hmem ↦ hrest raw hraw (List.mem_append_left _ hmem)⟩

/-! ## Order -/

/-- Required parameters are the first part of what has them first. -/
theorem filter_required_of_append {first rest : List Parameter}
    (hfirst : ∀ p ∈ first, p.required = true) (hrest : ∀ p ∈ rest, p.required = false) :
    (first ++ rest).filter (·.required) = first := by
  rw [List.filter_append, List.filter_eq_self.2 hfirst,
    List.filter_eq_nil_iff.2 fun p hp ↦ by simp [hrest p hp], List.append_nil]

theorem filter_required_orderParameters (ps : List Parameter) :
    (orderParameters ps).filter (·.required) = ps.filter (·.required) :=
  filter_required_of_append (fun _ hp ↦ (List.mem_filter.1 hp).2)
    fun _ hp ↦ by simpa using (List.mem_filter.1 hp).2

/-- Parameters are ordered by a stable sort that has the required ones first. -/
theorem orderParameters_eq_mergeSort (ps : List Parameter) :
    orderParameters ps = ps.mergeSort fun p q ↦ p.required || !q.required := by
  induction ps with
  | nil => simp [orderParameters]
  | cons p ps ih =>
    have htrans : ∀ p q r : Parameter, (p.required || !q.required) = true →
        (q.required || !r.required) = true → (p.required || !r.required) = true := by
      intro p q r
      cases p.required <;> cases q.required <;> simp
    have htotal : ∀ p q : Parameter,
        ((p.required || !q.required) || (q.required || !p.required)) = true := by
      intro p q
      cases p.required <;> cases q.required <;> rfl
    obtain ⟨first, rest, hsorted, hsplit, hfirst⟩ := List.mergeSort_cons htrans htotal p ps
    have hpairwise := List.pairwise_mergeSort htrans htotal (p :: ps)
    rw [hsorted] at hpairwise ⊢
    rw [← ih] at hsplit
    have hafter : ∀ q ∈ rest, (p.required || !q.required) = true :=
      (List.pairwise_cons.1 (List.pairwise_append.1 hpairwise).2.1).1
    cases hp : p.required with
    | true =>
      obtain rfl : first = [] := List.eq_nil_iff_forall_not_mem.2 fun q hq ↦ by
        simpa [hp] using hfirst q hq
      rw [List.nil_append] at hsplit ⊢
      rw [← hsplit]
      simp [orderParameters, hp]
    | false =>
      -- what stays before `p` is required and what goes behind it is not
      have hbefore : ∀ q ∈ first, q.required = true := fun q hq ↦ by
        simpa [hp] using hfirst q hq
      have hbehind : ∀ q ∈ rest, q.required = false := fun q hq ↦ by
        simpa [hp] using hafter q hq
      have hrequired : ps.filter (·.required) = first := by
        rw [← filter_required_orderParameters, hsplit, filter_required_of_append hbefore hbehind]
      unfold orderParameters at hsplit ⊢
      rw [hrequired] at hsplit
      rw [List.filter_cons_of_neg (by simp [hp]), List.filter_cons_of_pos (by simp [hp]), hrequired,
        List.append_cancel_left hsplit]

theorem perm_orderParameters (ps : List Parameter) : (orderParameters ps).Perm ps :=
  List.filter_append_perm _ ps

theorem nodup_argumentRawNames {op : Operation} {mediaType : Value}
    (hblank : ∀ p ∈ op.parameters, ' ' ∉ p.name.plain.toList)
    (hdistinct : op.parameters.Pairwise fun p q ↦
      ¬ (p.name.plain = q.name.plain ∧ p.place = q.place)) :
    (op.argumentRawNames mediaType).Nodup := by
  have hperm := perm_orderParameters op.parameters
  have hordered : (orderParameters op.parameters).Pairwise fun p q ↦
      ¬ (p.name.plain = q.name.plain ∧ p.place = q.place) :=
    (hperm.pairwise_iff fun hpq hqp ↦ hpq ⟨hqp.1.symm, hqp.2.symm⟩).2 hdistinct
  have hbody : ∀ raw ∈ op.bodyRawNames mediaType, ' ' ∉ raw.toList := by
    unfold bodyRawNames
    split
    · exact List.forall_mem_singleton.2 (by decide)
    · exact List.forall_mem_nil _
  have hfree : ∀ p ∈ orderParameters op.parameters, p.qualifiedName ∉ op.bodyRawNames mediaType :=
    fun p _ hmem ↦ hbody _ hmem (blank_mem_qualifiedName p)
  obtain ⟨hnodup, hfresh⟩ :=
    nodup_rawNamesOf (fun p hp ↦ hblank p (hperm.mem_iff.1 hp)) hordered hfree
  refine List.Nodup.append ?_ hnodup fun raw hraw hmem ↦ hfresh raw hmem hraw
  unfold bodyRawNames
  split
  · exact List.nodup_singleton _
  · exact List.nodup_nil

end Operation

/-! ## Arguments -/

/-- An argument and a step carry a parameter: the step puts the argument to the place of the
parameter, under its name. -/
structure Parameter.CarriedBy (p : Parameter) (a : Argument) (s : Step) : Prop where
  place : s.place = p.place
  key : s.key = p.name
  argument : s.argument = a.name
  step_required : s.required = p.required
  argument_required : a.required = p.required

namespace Emission

variable {components : Components} {setting : Setting} {op : Operation}
  {mediaType typePrefix : Value} {name : String} {d d' : Draft}

/-- The registry of a method after some raw names were resolved in it. -/
abbrev argumentsAfter (registered : List String) : Name.Registry :=
  Name.Registry.forArguments.resolveAll registered

theorem contains_argumentsAfter (registered : List String) (raw : String) :
    (argumentsAfter registered).contains raw = decide (raw ∈ registered) := by
  have hnew : Name.Registry.forArguments.contains raw = false := rfl
  rw [argumentsAfter, Name.Registry.contains_resolveAll, hnew, Bool.false_or,
    List.contains_eq_mem]

theorem sound_argumentsAfter (registered : List String) : (argumentsAfter registered).Sound :=
  (Name.Registry.sound_new _ _).resolveAll registered

/-- A parameter whose name can be resolved, qualified if it is taken, is resolved under its raw
name. Only a text can. -/
theorem resolve_rawName {p : Parameter} {registered : List String} {taken : Bool}
    {named : String × Name.Registry}
    (htaken : (argumentsAfter registered).holds p.name = .ok taken)
    (hnamed : (argumentsAfter registered).resolveValue
      (if taken then .text p.qualifiedName else p.name) = .ok named) :
    (argumentsAfter registered).resolve (p.rawName registered) = named := by
  unfold Parameter.rawName
  cases hname : p.name with
  | text raw =>
    rw [hname, Name.Registry.holds, contains_argumentsAfter] at htaken
    obtain rfl := Except.ok.inj htaken
    by_cases hmem : raw ∈ registered <;> simpa [hname, hmem, Name.Registry.resolveValue,
      Value.plain] using hnamed
  | _ =>
    -- what is no text is never taken, so it is not qualified either
    simp only [hname, Name.Registry.holds] at htaken
    split at htaken
    · obtain rfl := Except.ok.inj htaken
      simp [hname, Name.Registry.resolveValue] at hnamed
    · cases htaken

/-- The argument and the step for a parameter carry it, and the argument is registered under the
parameter's raw name. -/
theorem of_parameterArgument {p : Parameter} {registered : List String} {a : Argument} {s : Step}
    {names : Name.Registry}
    (h : exec (parameterArgument components typePrefix p (argumentsAfter registered)) d =
      (.ok ((a, s), names), d')) :
    p.CarriedBy a s ∧ names = argumentsAfter (registered ++ [p.rawName registered]) ∧
      names.identifier? (p.rawName registered) = some a.name := by
  unfold parameterArgument at h
  obtain ⟨taken, htaken, h⟩ := of_exec_lift_bind h
  obtain ⟨⟨identifier, names'⟩, hnamed, h⟩ := of_exec_lift_bind h
  obtain ⟨plain, -, h⟩ := of_exec_lift_bind h
  obtain ⟨hint, d₁, -, h⟩ := of_exec_bind h
  cases (exec_pure_eq_ok.1 h).1
  have hresolve := resolve_rawName htaken hnamed
  refine ⟨⟨rfl, rfl, rfl, rfl, rfl⟩, ?_, ?_⟩
  · rw [argumentsAfter, Name.Registry.resolveAll_append, Name.Registry.resolveAll_cons, hresolve]
    rfl
  · have hself := Name.Registry.identifier?_resolve_self (argumentsAfter registered)
      (p.rawName registered)
    rwa [hresolve] at hself

/-- The arguments and steps for parameters carry them one by one, and each argument has the
identifier that its raw name has in the end. -/
theorem of_parameterArguments {ps : List Parameter} {registered : List String}
    {out : List (Argument × Step)}
    (h : exec (parameterArguments components typePrefix ps (argumentsAfter registered)) d =
      (.ok out, d')) :
    List.Forall₂ (fun p x ↦ p.CarriedBy x.1 x.2) ps out ∧
      List.Forall₂ (fun raw x ↦ (argumentsAfter (registered ++
        Operation.rawNamesOf ps registered)).identifier? raw = some x.1.name)
        (Operation.rawNamesOf ps registered) out := by
  induction ps generalizing registered d d' out with
  | nil =>
    obtain ⟨rfl, -⟩ := exec_pure_eq_ok.1 h
    exact ⟨.nil, .nil⟩
  | cons p ps ih =>
    unfold parameterArguments at h
    obtain ⟨⟨⟨a, s⟩, names⟩, d₁, hfirst, h⟩ := of_exec_bind h
    obtain ⟨rest, d₂, hrest, h⟩ := of_exec_bind h
    obtain ⟨rfl, -⟩ := exec_pure_eq_ok.1 h
    obtain ⟨hcarried, hnames, hname⟩ := of_parameterArgument hfirst
    subst hnames
    obtain ⟨hcarriedRest, hnamesRest⟩ := ih hrest
    have hraws : registered ++ Operation.rawNamesOf (p :: ps) registered =
        registered ++ [p.rawName registered] ++
          Operation.rawNamesOf ps (registered ++ [p.rawName registered]) := by
      rw [Operation.rawNamesOf, List.append_assoc, List.singleton_append]
    rw [hraws]
    refine ⟨.cons hcarried hcarriedRest, .cons ?_ hnamesRest⟩
    rw [argumentsAfter, Name.Registry.resolveAll_append]
    exact (Name.Registry.extends_resolveAll _ _).assigned hname

/-- There is a body argument just if the body has content of the media type. It is required if the
body is, and registered before any other. -/
theorem of_bodyArgument {rawPrefix : Value} {argument : Option Argument} {names : Name.Registry}
    (h : exec (bodyArgument components op mediaType rawPrefix .forArguments) d =
      (.ok (argument, names), d')) :
    names = argumentsAfter (op.bodyRawNames mediaType) ∧
      List.Forall₂ (fun raw a ↦ names.identifier? raw = some a.name)
        (op.bodyRawNames mediaType) argument.toList ∧
      Option.Rel (fun body a ↦ a.required = body.required) (op.bodyFor? mediaType) argument := by
  unfold bodyArgument at h
  unfold Operation.bodyRawNames Operation.bodyFor?
  cases hbody : op.body with
  | none =>
    rw [hbody] at h
    cases (exec_pure_eq_ok.1 h).1
    exact ⟨rfl, .nil, .none⟩
  | some body =>
    rw [hbody] at h
    obtain ⟨found, hfound, h⟩ := of_exec_lift_bind h
    have hsupplied : body.content.any (·.1.same mediaType) = found.isSome := by
      unfold Content.find? at hfound
      split at hfound
      · rw [← Except.ok.inj hfound, Option.isSome_map, Bool.eq_iff_iff, List.find?_isSome,
          List.any_eq_true]
      · cases hfound
    rw [Option.filter_some, hsupplied]
    cases found with
    | none =>
      cases (exec_pure_eq_ok.1 h).1
      exact ⟨rfl, .nil, .none⟩
    | some payload =>
      obtain ⟨hint, hresult⟩ : ∃ hint, (some (⟨(Name.Registry.forArguments.resolve "body").1, hint,
          body.required⟩ : Argument), (Name.Registry.forArguments.resolve "body").2) =
            (argument, names) := by
        cases hschema : payload.schema with
        | none =>
          simp only [hschema] at h
          exact ⟨"Any", (exec_pure_eq_ok.1 h).1.symm⟩
        | some s =>
          simp only [hschema] at h
          obtain ⟨plain, -, h⟩ := of_exec_lift_bind h
          obtain ⟨hint, d₁, -, h⟩ := of_exec_bind h
          exact ⟨hint, (exec_pure_eq_ok.1 h).1.symm⟩
      cases hresult
      exact ⟨rfl, .cons (Name.Registry.identifier?_resolve_self _ _) .nil, .some rfl⟩

/-- The arguments of a method in the order in which they are registered, the body argument first. -/
theorem forall₂_identifier_of_methodParts {m : Method}
    (parts : MethodParts setting op mediaType name typePrefix d m d') :
    List.Forall₂ (fun raw a ↦ (argumentsAfter (op.argumentRawNames mediaType)).identifier? raw =
        some a.name)
      (op.argumentRawNames mediaType) (parts.body.toList ++ parts.parameters.map (·.1)) := by
  obtain ⟨hnames, hbody, -⟩ := of_bodyArgument parts.body_eq
  have hparameters := parts.parameters_eq
  rw [hnames] at hbody hparameters
  have hrest := (of_parameterArguments hparameters).2
  refine List.rel_append (hbody.imp fun raw a hraw ↦ ?_) (List.forall₂_map_right_iff.2 hrest)
  unfold Operation.argumentRawNames
  rw [argumentsAfter, Name.Registry.resolveAll_append]
  exact (Name.Registry.extends_resolveAll _ _).assigned hraw

theorem perm_placeBody (body : Option Argument) (parameters : List Argument) :
    (placeBody body parameters).Perm (body.toList ++ parameters) := by
  cases body with
  | none => exact .refl parameters
  | some a =>
    simp only [placeBody]
    split
    · exact .refl (a :: parameters)
    · exact List.perm_append_singleton a parameters

/-- The arguments of a method have pairwise different names just if their raw names are pairwise
different, and these are settled by the names and places of the parameters. They are different if
the parameters differ in name or place and no name has a blank. -/
theorem argumentNames_nodup_iff {m : Method}
    (h : exec (emitMethod setting op mediaType name typePrefix) d = (.ok m, d')) :
    ((m.arguments.map (·.name)).Nodup ↔ (op.argumentRawNames mediaType).Nodup) ∧
    ((∀ p ∈ op.parameters, ' ' ∉ p.name.plain.toList) →
      op.parameters.Pairwise (fun p q ↦ ¬ (p.name.plain = q.name.plain ∧ p.place = q.place)) →
      (m.arguments.map (·.name)).Nodup) := by
  obtain ⟨parts⟩ := methodParts h
  have hsound := sound_argumentsAfter (op.argumentRawNames mediaType)
  have hnodup : (m.arguments.map (·.name)).Nodup ↔ (op.argumentRawNames mediaType).Nodup := by
    rw [parts.method_arguments, ((perm_placeBody _ _).map _).nodup_iff]
    exact (List.rel_nodup hsound.biUnique
      (List.forall₂_map_right_iff.2 (forall₂_identifier_of_methodParts parts))).symm
  exact ⟨hnodup, fun hblank hdistinct ↦
    hnodup.2 (Operation.nodup_argumentRawNames hblank hdistinct)⟩

/-- Three parameters of which no two have one name and one place. -/
def sharedNames : List Parameter := [
  { name := "id", place := .query, required := false, schema := .anything, description := "" },
  { name := "body", place := .query, required := false, schema := .anything, description := "" },
  { name := "id", place := .path, required := true, schema := .anything, description := "" }]

/-- Three parameters, the second under the name by which the third would be qualified. -/
def qualifiedParameters : List Parameter := [
  { name := "id", place := .path, required := true, schema := .anything, description := "" },
  { name := "query id", place := .query, required := false, schema := .anything, description := "" },
  { name := "id", place := .query, required := false, schema := .anything, description := "" }]

def jsonBody : RequestBody := { content := [("application/json", ⟨none⟩)], required := false }

/-- The pets with some parameters and a body. -/
def petsWith (parameters : List Parameter) (body : Option RequestBody) : Operation where
  path := "/pets"
  method := "post"
  tag := "pets"
  id := "pets"
  parameters
  body
  responses := []
  tags := ["pets"]
  summary := ""
  description := ""
  deprecated := false

theorem argumentNames_sharedNames :
    ∃ m draft, exec (emitMethod ⟨[], {}⟩ (petsWith sharedNames (some jsonBody)) "application/json"
        "pets" "pets") .empty = (.ok m, draft) ∧
      m.arguments.map (·.name) = ["id", "query_id", "query_body", "body"] ∧
      (m.arguments.map (·.name)).Nodup := by
  have hresult : (exec (emitMethod ⟨[], {}⟩ (petsWith sharedNames (some jsonBody))
      "application/json" "pets" "pets") .empty).1.toOption.map (·.arguments.map (·.name)) =
        some ["id", "query_id", "query_body", "body"] := by decide +kernel
  obtain ⟨m, draft, hm, hnames⟩ := exists_exec_of_map hresult
  exact ⟨m, draft, hm, hnames, (argumentNames_nodup_iff hm).2 (by decide) (by decide)⟩

/-- The third parameter is given the argument of the second. -/
theorem argumentNames_qualifiedParameters :
    ∃ m draft, exec (emitMethod ⟨[], {}⟩ (petsWith qualifiedParameters none) "application/json"
        "pets" "pets") .empty = (.ok m, draft) ∧
      m.arguments.map (·.name) = ["id", "query_id", "query_id"] ∧
      ¬ (m.arguments.map (·.name)).Nodup := by
  have hresult : (exec (emitMethod ⟨[], {}⟩ (petsWith qualifiedParameters none)
      "application/json" "pets" "pets") .empty).1.toOption.map (·.arguments.map (·.name)) =
        some ["id", "query_id", "query_id"] := by decide +kernel
  obtain ⟨m, draft, hm, hnames⟩ := exists_exec_of_map hresult
  refine ⟨m, draft, hm, hnames, ?_⟩
  rw [hnames]
  decide

/-! ## Wiring -/

/-- The body argument has a name of its own. -/
theorem body_name_not_mem {m : Method} {a : Argument}
    (parts : MethodParts setting op mediaType name typePrefix d m d') (ha : parts.body = some a) :
    a.name ∉ parts.parameters.map (·.1.name) := by
  have hforall := forall₂_identifier_of_methodParts parts
  have hsupplied : (op.bodyFor? mediaType).isSome := by
    obtain ⟨-, -, hbody⟩ := of_bodyArgument parts.body_eq
    rw [ha] at hbody
    cases hsome : op.bodyFor? mediaType with
    | none => rw [hsome] at hbody; cases hbody
    | some body => rfl
  have hraws : op.argumentRawNames mediaType =
      "body" :: Operation.rawNamesOf (Operation.orderParameters op.parameters) ["body"] := by
    rw [Operation.argumentRawNames, Operation.bodyRawNames, if_pos hsupplied]
    rfl
  rw [ha, hraws, Option.toList_some, List.singleton_append] at hforall
  obtain ⟨hname, hrest⟩ := List.forall₂_cons.1 hforall
  have hother : "body" ∉
      Operation.rawNamesOf (Operation.orderParameters op.parameters) ["body"] :=
    Operation.not_mem_rawNamesOf (by decide) (List.mem_singleton_self _)
  have hmem := List.rel_mem (sound_argumentsAfter _).biUnique hname
    (List.forall₂_map_right_iff.2 hrest)
  rw [List.map_map] at hmem
  exact fun hname ↦ hother (hmem.2 hname)

theorem map_required_of_carried {ps : List Parameter} {wired : List (Argument × Step)}
    (h : List.Forall₂ (fun p x ↦ p.CarriedBy x.1 x.2) ps wired) :
    (wired.map (·.1)).map (·.required) = ps.map (·.required) := by
  induction h with
  | nil => rfl
  | cons hcarried _ ih =>
    rw [List.map_cons, List.map_cons, List.map_cons, ih, hcarried.argument_required]

/-- Arguments that carry ordered parameters have the required ones first. -/
theorem pairwise_of_carried {ps : List Parameter} {wired : List (Argument × Step)}
    (h : List.Forall₂ (fun p x ↦ p.CarriedBy x.1 x.2) (Operation.orderParameters ps) wired) :
    (wired.map (·.1)).Pairwise fun a b ↦ b.required = true → a.required = true := by
  have hordered : (Operation.orderParameters ps).Pairwise
      fun p q ↦ q.required = true → p.required = true := by
    refine List.pairwise_append.2 ⟨?_, ?_, fun p hp _ _ _ ↦ (List.mem_filter.1 hp).2⟩
    · exact List.pairwise_of_forall_mem_list fun p hp _ _ _ ↦ (List.mem_filter.1 hp).2
    · exact List.pairwise_of_forall_mem_list fun _ _ q hq hrequired ↦ by simp [hrequired] at hq
  rw [← List.pairwise_map (f := Argument.required) (R := fun a b : Bool ↦ b = true → a = true),
    map_required_of_carried h]
  exact List.pairwise_map.2 hordered

theorem pairwise_placeBody {body : Option Argument} {arguments : List Argument}
    (h : arguments.Pairwise fun a b ↦ b.required = true → a.required = true) :
    (placeBody body arguments).Pairwise fun a b ↦ b.required = true → a.required = true := by
  cases body with
  | none => exact h
  | some a =>
    simp only [placeBody]
    split
    · next hrequired => exact List.pairwise_cons.2 ⟨fun _ _ _ ↦ hrequired, h⟩
    · next hoptional =>
      refine List.pairwise_append.2 ⟨h, List.pairwise_singleton _ _, fun _ _ b hb hrequired ↦ ?_⟩
      exact absurd (List.mem_singleton.1 hb ▸ hrequired) hoptional

/-- The steps of a method and the arguments for parameters carry the parameters one by one, the
required ones first and otherwise in their order. No required argument follows an optional one, and
the body argument stands in front if it is required and at the end if not, under a name that no
parameter's argument has. -/
theorem signature_of_emitMethod {m : Method}
    (h : exec (emitMethod setting op mediaType name typePrefix) d = (.ok m, d')) :
    m.arguments.Pairwise (fun a b ↦ b.required = true → a.required = true) ∧
    ∃ wired : List (Argument × Step),
      m.steps = wired.map (·.2) ∧
      List.Forall₂ (fun p x ↦ p.CarriedBy x.1 x.2)
        (op.parameters.mergeSort fun p q ↦ p.required || !q.required) wired ∧
      (op.bodyFor? mediaType = none → m.arguments = wired.map (·.1)) ∧
      ∀ body, op.bodyFor? mediaType = some body →
        ∃ a : Argument, a.required = body.required ∧ a.name ∉ wired.map (·.1.name) ∧
          m.arguments =
            if body.required then a :: wired.map (·.1) else wired.map (·.1) ++ [a] := by
  obtain ⟨parts⟩ := methodParts h
  obtain ⟨hnames, -, hbody⟩ := of_bodyArgument parts.body_eq
  have hparameters := parts.parameters_eq
  rw [hnames] at hparameters
  obtain ⟨hcarried, -⟩ := of_parameterArguments hparameters
  rw [parts.method_arguments, parts.method_steps, ← Operation.orderParameters_eq_mergeSort]
  refine ⟨pairwise_placeBody (pairwise_of_carried hcarried), parts.parameters, rfl, hcarried,
    fun hnone ↦ ?_, fun body hsome ↦ ?_⟩
  · rw [hnone] at hbody
    cases hargument : parts.body with
    | none => rfl
    | some a => rw [hargument] at hbody; cases hbody
  · rw [hsome] at hbody
    cases hargument : parts.body with
    | none => rw [hargument] at hbody; cases hbody
    | some a =>
      have hrequired : a.required = body.required := by
        rw [hargument] at hbody
        cases hbody with
        | some hrequired => exact hrequired
      refine ⟨a, hrequired, body_name_not_mem parts hargument, ?_⟩
      simp only [placeBody, hrequired]

/-- The required parameter comes first, and the optional body last. -/
theorem signature_sharedNames :
    ∃ m draft, exec (emitMethod ⟨[], {}⟩ (petsWith sharedNames (some jsonBody)) "application/json"
        "pets" "pets") .empty = (.ok m, draft) ∧
      m.steps.map (fun s ↦ (s.place, s.argument)) =
        [(.path, "id"), (.query, "query_id"), (.query, "query_body")] ∧
      m.arguments.Pairwise (fun a b ↦ b.required = true → a.required = true) ∧
      ∃ (wired : List (Argument × Step)) (a : Argument),
        m.steps = wired.map (·.2) ∧
        List.Forall₂ (fun p x ↦ p.CarriedBy x.1 x.2)
          (sharedNames.mergeSort fun p q ↦ p.required || !q.required) wired ∧
        a.name ∉ wired.map (·.1.name) ∧ m.arguments = wired.map (·.1) ++ [a] := by
  have hresult : (exec (emitMethod ⟨[], {}⟩ (petsWith sharedNames (some jsonBody))
      "application/json" "pets" "pets") .empty).1.toOption.map
        (·.steps.map fun s ↦ (s.place, s.argument)) =
          some [(.path, "id"), (.query, "query_id"), (.query, "query_body")] := by decide +kernel
  obtain ⟨m, draft, hm, hsteps⟩ := exists_exec_of_map hresult
  obtain ⟨hordered, wired, hwired, hcarried, -, hbody⟩ := signature_of_emitMethod hm
  have hsupplied : (petsWith sharedNames (some jsonBody)).bodyFor? "application/json" =
      some jsonBody := by
    simp [Operation.bodyFor?, petsWith, jsonBody, Value.same]
  obtain ⟨a, -, hname, harguments⟩ := hbody jsonBody hsupplied
  exact ⟨m, draft, hm, hsteps, hordered, wired, a, hwired, hcarried, hname, harguments⟩

end Emission

end ApiClient
