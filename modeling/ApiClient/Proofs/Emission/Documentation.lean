import ApiClient.Proofs.Emission.Method
import ApiClient.Proofs.Operation.Rewording

/-!
# Emission without documentation

The methods of an operation are those of the bare operation, apart from the lines that document
them. Nothing else that an emission does, to names, types or remarks, depends on documentation.
-/

namespace ApiClient

/-- A method with other documentation. -/
def Method.withDoc (m : Method) (doc : List String) : Method := { m with doc }

/-- A method without its documentation. -/
def Method.undocumented (m : Method) : Method := m.withDoc []

theorem Name.Registry.holds_of_unhashable (names : Name.Registry) {raw : Value}
    (h : raw.hashable = false) : names.holds raw = .error .unsuitable := by
  unfold holds
  split
  · cases h
  · rw [h]
    rfl

namespace Operation

theorem filter_isSuccess_bare (op : Operation) :
    op.bare.responses.filter (·.isSuccess) =
      (op.responses.filter (·.isSuccess)).map Response.bare := by
  rw [bare, List.filter_map]
  rfl

theorem declaredMediaTypes_bare (op : Operation) :
    op.bare.declaredMediaTypes = op.declaredMediaTypes := by
  unfold declaredMediaTypes
  rw [filter_isSuccess_bare, List.flatMap_map]
  rfl

theorem participatingMediaTypes_bare (op : Operation) (default : Value) :
    op.bare.participatingMediaTypes default = op.participatingMediaTypes default := by
  unfold participatingMediaTypes
  rw [declaredMediaTypes_bare]

theorem accepts_bare (op : Operation) (mediaType : Value) :
    op.bare.accepts mediaType = op.accepts mediaType := by
  unfold accepts
  rw [filter_isSuccess_bare]
  induction op.responses.filter (·.isSuccess) with
  | nil => rfl
  | cons r rs ih =>
    rw [List.map_cons, List.anyM_cons, List.anyM_cons, ih]
    rfl

theorem orderParameters_bare (op : Operation) :
    orderParameters op.bare.parameters = (orderParameters op.parameters).map Parameter.bare := by
  unfold orderParameters bare
  rw [List.filter_map, List.filter_map, List.map_append]
  rfl

end Operation

namespace Emission

open Work

variable {setting : Setting}

theorem parameterArguments_bare (components : Components) (typePrefix : Value)
    (ps : List Parameter) (names : Name.Registry) :
    parameterArguments components typePrefix (ps.map Parameter.bare) names =
      parameterArguments components typePrefix ps names := by
  induction ps generalizing names with
  | nil => rfl
  | cons p ps ih =>
    rw [List.map_cons]
    unfold parameterArguments
    simp only [ih]
    rfl

theorem branchesFor_bare (components : Components) (location : String)
    (mediaType rawPrefix : Value) (rs : List Response) (first : Bool) :
    branchesFor components location mediaType rawPrefix (rs.map Response.bare) first =
      branchesFor components location mediaType rawPrefix rs first := by
  induction rs generalizing first with
  | nil => rfl
  | cons r rs ih =>
    rw [List.map_cons]
    unfold branchesFor
    simp only [ih]
    rfl

/-- An operation has the method of the bare operation, with its own documentation. -/
theorem emitMethod_eq (op : Operation) (mediaType : Value) (name : String) (typePrefix : Value) :
    emitMethod setting op mediaType name typePrefix =
      (·.withDoc op.doc) <$> emitMethod setting op.bare mediaType name typePrefix := by
  unfold emitMethod
  rw [op.orderParameters_bare, op.accepts_bare]
  simp only [parameterArguments_bare, map_bind, map_pure]
  have hbranches (rawPrefix : Value) :
      branchesFor setting.components op.bare.location mediaType rawPrefix op.bare.responses true =
        branchesFor setting.components op.location mediaType rawPrefix op.responses true :=
    branchesFor_bare _ _ _ _ _ _
  simp only [hbranches]
  rfl

theorem drafting_map {α β : Type} (f : α → β) (work : Drafting α) :
    drafting (f <$> work) = f <$> drafting work := by
  funext e
  change exec (drafting (f <$> work)) e = exec (f <$> drafting work) e
  rw [exec_map, exec_drafting, exec_drafting, exec_map]

theorem emitMethods_eq (op : Operation) (rawName typePrefix : Value) (several : Bool)
    (mediaTypes : List Value) :
    emitMethods setting op rawName typePrefix several mediaTypes =
      List.map (·.withDoc op.doc) <$>
        emitMethods setting op.bare rawName typePrefix several mediaTypes := by
  induction mediaTypes with
  | nil => simp only [emitMethods, map_pure, List.map_nil]
  | cons mediaType mediaTypes ih =>
    unfold emitMethods
    simp only [emitMethod_eq op, drafting_map, ih, map_bind, map_pure, bind_map_left, List.map_cons]

theorem prepare_bare (op : Operation) : prepare setting op.bare = prepare setting op := by
  unfold prepare remarkDefault
  rw [op.declaredMediaTypes_bare]
  rfl

/-- An operation has the methods of the bare operation, with its own documentation. -/
theorem emit_eq (op : Operation) :
    emit setting op = List.map (·.withDoc op.doc) <$> emit setting op.bare := by
  unfold emit
  rw [prepare_bare, op.participatingMediaTypes_bare, map_bind]
  exact bind_congr fun names ↦ emitMethods_eq op _ _ _ _

theorem remarkDefault_cases (setting : Setting) (op : Operation) (e : Emission) :
    (∃ e', exec (remarkDefault setting op) e = (.ok (), e')) ∨
      exec (remarkDefault setting op) e = (.error .outOfRange, e) := by
  unfold remarkDefault
  split
  · unfold Value.plain?
    split
    · exact .inl ⟨_, rfl⟩
    · exact .inr rfl
  · exact .inl ⟨e, rfl⟩

/-- An operation whose identifier cannot be a key is neither emitted nor skipped. -/
theorem exec_emit_of_unhashable (setting : Setting) {op : Operation} (h : op.id.hashable = false)
    (e : Emission) :
    ∃ fault e', exec (emit setting op) e = (.error fault, e') ∧
      ∀ chain, fault ≠ .recursiveSchema chain := by
  have hname (e : Emission) : exec (chooseRawName op) e = (.error .unsuitable, e) := by
    unfold chooseRawName Operation.rawName
    rw [exec_get_bind]
    simp only [Name.Registry.holds_of_unhashable _ h]
    rfl
  unfold emit prepare
  rw [bind_assoc]
  obtain ⟨e', hremark⟩ | hremark := remarkDefault_cases setting op e
  · rw [exec_bind_of_ok hremark, bind_assoc, exec_bind_of_error (hname e')]
    exact ⟨_, _, rfl, fun _ ↦ Fault.noConfusion⟩
  · rw [exec_bind_of_error hremark]
    exact ⟨_, _, rfl, fun _ ↦ Fault.noConfusion⟩

end Emission

end ApiClient
