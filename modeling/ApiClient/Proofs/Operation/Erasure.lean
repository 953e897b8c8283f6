import ApiClient.Proofs.Operation

/-!
# Operations but one

An operation is erased from a description where its method is taken out of its path item. Values
that refer to others are followed through the whole description, so the other operations are read
as before provided that what they refer to is still the same.
-/

namespace ApiClient.Operation

open Work

variable {description description' : Value} {options : Options}

/-! ## References -/

/-- The values stand for the same objects in both descriptions. -/
def Alike (description description' : Value) (raws : List Value) : Prop :=
  ∀ raw ∈ raws, follow description' raw = follow description raw

/-- The parameters of an operation or of a path item. -/
def rawParameters (v : Value) : List Value :=
  (do (← v.field "parameters").orEmptyList.items : Except Fault (List Value)).toOption.getD []

/-- The values of an operation that may stand for others. -/
def rawParts (v : Value) : List Value :=
  rawParameters v ++ (v.field? "requestBody").toOption.join.toList ++
    ((do (← v.field "responses").orEmptyMap.entries :
      Except Fault (List (Value × Value))).toOption.getD []).map (·.2)

/-- The values of a path item that may stand for others. -/
def rawPartsAt (item : Value) : List Value :=
  rawParameters item ++ methods.flatMap fun method ↦
    ((item.field method).toOption.map rawParts).getD []

/-- The values under a path that may stand for others, the path item among them. -/
def rawPartsUnder (description raw : Value) : List Value :=
  raw :: ((follow description raw).toOption.map rawPartsAt).getD []

theorem parseParameterList_congr {location : Value} {raws : List Value}
    (h : Alike description description' raws) :
    parseParameterList description' location raws =
      parseParameterList description location raws := by
  induction raws with
  | nil => rfl
  | cons raw raws ih =>
    obtain ⟨hraw, hraws⟩ := List.forall_mem_cons.1 h
    have hparameter : parseParameter description' raw location =
        parseParameter description raw location := by
      unfold parseParameter
      rw [hraw]
    unfold parseParameterList
    rw [hparameter, ih hraws]

/-- The parameters of an object read the same. -/
theorem parseParameters_congr {v raws location : Value} (hraws : v.field "parameters" = .ok raws)
    (h : Alike description description' (rawParameters v)) :
    parseParameters description' raws location = parseParameters description raws location := by
  refine lift_bind_congr fun items hitems ↦ parseParameterList_congr ?_
  unfold rawParameters at h
  rw [hraws] at h
  change Alike _ _ (raws.orEmptyList.items.toOption.getD []) at h
  rwa [hitems] at h

theorem parseBody_congr {v : Value}
    (h : Alike description description' (v.field? "requestBody").toOption.join.toList) :
    parseBody description' v = parseBody description v := by
  unfold parseBody
  rcases hbody : v.field? "requestBody" with fault | body
  · rfl
  · cases body with
    | none => rfl
    | some raw =>
      rw [hbody] at h
      have hraw : follow description' raw = follow description raw :=
        h raw (List.mem_singleton_self raw)
      change (do let body ← follow description' raw; _) = (do let body ← follow description raw; _)
      rw [hraw]

theorem parseResponses_congr {entries : List (Value × Value)}
    (h : Alike description description' (entries.map (·.2))) (responses : List Response) :
    parseResponses description' entries responses =
      parseResponses description entries responses := by
  induction entries generalizing responses with
  | nil => rfl
  | cons entry entries ih =>
    obtain ⟨key, raw⟩ := entry
    obtain ⟨hraw, hentries⟩ := List.forall_mem_cons.1 h
    unfold parseResponses
    rw [hraw]
    simp only [ih hentries]

/-- An operation reads the same. -/
theorem parse_congr {path v : Value} {method : String} {inherited : List Parameter}
    (h : Alike description description' (rawParts v)) :
    parse description' path method v inherited options =
      parse description path method v inherited options := by
  unfold Alike rawParts at h
  rw [List.forall_mem_append, List.forall_mem_append] at h
  obtain ⟨⟨hparameters, hbody⟩, hresponses⟩ := h
  unfold parse
  rw [parseBody_congr hbody]
  refine bind_congr fun plain ↦ bind_congr fun tags ↦ bind_congr fun tag ↦
    bind_congr fun declared ↦ bind_congr fun id ↦ lift_bind_congr fun raws hraws ↦ ?_
  rw [parseParameters_congr hraws hparameters]
  refine bind_congr fun own ↦ bind_congr fun body ↦ lift_bind_congr fun found hfound ↦
    lift_bind_congr fun entries hentries ↦ ?_
  rw [hfound] at hresponses
  change Alike _ _ ((found.orEmptyMap.entries.toOption.getD []).map (·.2)) at hresponses
  rw [hentries] at hresponses
  have hfollowed : Alike description description' (entries.map (·.2)) := hresponses
  rw [parseResponses_congr hfollowed]

/-- Methods that are the same in two path items read the same. -/
theorem parseMethods_congr {path item item' : Value} {inherited : List Parameter}
    {ms : List String} (hfields : ∀ m ∈ ms, item'.field m = item.field m)
    (h : ∀ m ∈ ms, ∀ v, item'.field m = .ok v → Alike description description' (rawParts v)) :
    parseMethods description' path item' inherited options ms =
      parseMethods description path item inherited options ms := by
  induction ms with
  | nil => rfl
  | cons m ms ih =>
    obtain ⟨hfield, hfields⟩ := List.forall_mem_cons.1 hfields
    obtain ⟨hm, hms⟩ := List.forall_mem_cons.1 h
    unfold parseMethods
    rw [← hfield]
    refine lift_bind_congr fun v hv ↦ ?_
    rw [parse_congr (hm v hv), ih hfields hms]

theorem Alike.parts {item v : Value} {method : String}
    (h : Alike description description' (rawPartsAt item)) (hmethod : method ∈ methods)
    (hv : item.field method = .ok v) : Alike description description' (rawParts v) := by
  refine fun raw hraw ↦ h raw (List.mem_append_right _ (List.mem_flatMap.2 ⟨method, hmethod, ?_⟩))
  rwa [hv]

theorem parsePaths_congr {entries : List (Value × Value)}
    (h : ∀ entry ∈ entries, Alike description description' (rawPartsUnder description entry.2)) :
    parsePaths description' options entries = parsePaths description options entries := by
  induction entries with
  | nil => rfl
  | cons entry entries ih =>
    obtain ⟨path, raw⟩ := entry
    obtain ⟨hentry, hentries⟩ := List.forall_mem_cons.1 h
    obtain ⟨hraw, hitem⟩ := List.forall_mem_cons.1 hentry
    unfold parsePaths
    rw [hraw]
    refine lift_bind_congr fun item hfollow ↦ lift_bind_congr fun raws hraws ↦ ?_
    rw [hfollow] at hitem
    have hparameters : Alike description description' (rawParameters item) :=
      fun raw hraw ↦ hitem raw (List.mem_append_left _ hraw)
    have hmethods : ∀ method ∈ methods, ∀ v, item.field method = .ok v →
        Alike description description' (rawParts v) :=
      fun method hmethod v hv ↦ Alike.parts hitem hmethod hv
    rw [parseParameters_congr hraws hparameters, ih hentries]
    simp only [parseMethods_congr (fun _ _ ↦ rfl) hmethods]

theorem parsePaths_append (entries entries' : List (Value × Value)) :
    parsePaths description options (entries ++ entries') = (do
      let ops ← parsePaths description options entries
      let ops' ← parsePaths description options entries'
      return ops ++ ops') := by
  induction entries with
  | nil => simp [parsePaths]
  | cons entry entries ih =>
    obtain ⟨path, raw⟩ := entry
    simp only [parsePaths, List.cons_append, ih, bind_assoc, pure_bind, List.append_assoc]

theorem parseMethods_cons_of_object {path item v : Value} {inherited : List Parameter} {m : String}
    {ms : List String} (hv : item.field m = .ok v) (hobject : v.asMap?.isSome = true) :
    parseMethods description path item inherited options (m :: ms) = (do
      let op ← parse description path m v inherited options
      return op :: (← parseMethods description path item inherited options ms)) := by
  conv_lhs => unfold parseMethods
  rw [hv]
  exact if_pos hobject

theorem parseMethods_cons_of_none {path item v : Value} {inherited : List Parameter} {m : String}
    {ms : List String} (hv : item.field m = .ok v) (hobject : ¬ v.asMap?.isSome = true) :
    parseMethods description path item inherited options (m :: ms) =
      parseMethods description path item inherited options ms := by
  conv_lhs => unfold parseMethods
  rw [hv]
  exact if_neg hobject

theorem parseMethods_append {path item : Value} {inherited : List Parameter}
    (ms ms' : List String) :
    parseMethods description path item inherited options (ms ++ ms') = (do
      let ops ← parseMethods description path item inherited options ms
      let ops' ← parseMethods description path item inherited options ms'
      return ops ++ ops') := by
  induction ms with
  | nil => simp [parseMethods]
  | cons m ms ih =>
    rw [List.cons_append, parseMethods, parseMethods, bind_assoc]
    refine bind_congr fun v ↦ ?_
    split
    · simp only [ih, bind_assoc, pure_bind, List.cons_append]
    · exact ih

theorem parseAll_eq {entries : List (Value × Value)}
    (h : (do (← Description.paths description).entries) = .ok entries) :
    parseAll description options = parsePaths description options entries := by
  unfold parseAll
  rcases hpaths : Description.paths description with fault | paths
  · rw [hpaths] at h
    cases h
  · rw [hpaths] at h
    have hentries : paths.entries = .ok entries := h
    change (liftM paths.entries >>= fun entries ↦ parsePaths description options entries) = _
    rw [hentries]
    rfl

/-! ## Erasure -/

/-- A description from which the operation under a method of a path is erased. The rest of its path
item, the other paths, the components and the title and version are the same, and so is what the
other operations refer to. -/
structure Erasure (description description' path : Value) (method : String) where
  before : List (Value × Value)
  after : List (Value × Value)
  raw : Value
  raw' : Value
  item : Value
  item' : Value
  components_eq : description'.field "components" = description.field "components"
  info_eq : description'.field "info" = description.field "info"
  entries_eq : (do (← Description.paths description).entries) = .ok (before ++ (path, raw) :: after)
  entries_eq' :
    (do (← Description.paths description').entries) = .ok (before ++ (path, raw') :: after)
  item_eq : follow description raw = .ok item
  item_eq' : follow description' raw' = .ok item'
  isMethod : method ∈ methods
  isObject : (objectAt? item method).isSome
  erased : item'.field method = .ok .null
  others_eq : ∀ other, other ≠ method → item'.field other = item.field other
  alike_before : ∀ e ∈ before, Alike description description' (rawPartsUnder description e.2)
  alike_item : Alike description description' (rawPartsAt item')
  alike_after : ∀ e ∈ after, Alike description description' (rawPartsUnder description e.2)

namespace Erasure

variable {path : Value} {method : String}

theorem exists_object (erasure : Erasure description description' path method) :
    ∃ v, erasure.item.field method = .ok v ∧ v.asMap?.isSome = true := by
  obtain ⟨v, hv⟩ := Option.isSome_iff_exists.1 erasure.isObject
  obtain ⟨hfound, hobject⟩ := Option.filter_eq_some_iff.1 hv
  refine ⟨v, ?_, hobject⟩
  rcases hfield : erasure.item.field method with fault | w
  · rw [hfield] at hfound
    cases hfound
  · rw [hfield] at hfound
    exact congrArg Except.ok (Option.some.inj hfound)

theorem parameters_eq (erasure : Erasure description description' path method) :
    erasure.item'.field "parameters" = erasure.item.field "parameters" :=
  erasure.others_eq "parameters" fun heq ↦ absurd (heq ▸ erasure.isMethod) (by decide)

/-- Other methods of the path read the same. -/
theorem parseMethods_eq (erasure : Erasure description description' path method)
    {inherited : List Parameter} {ms : List String} (hms : ms ⊆ methods) (hother : method ∉ ms) :
    parseMethods description' path erasure.item' inherited options ms =
      parseMethods description path erasure.item inherited options ms :=
  parseMethods_congr (fun m hm ↦ erasure.others_eq m fun heq ↦ hother (heq ▸ hm))
    fun _ hm _ hv ↦ erasure.alike_item.parts (hms hm) hv

/-- Under the path, the same operations are read but the one that is erased. -/
theorem exec_parseMethods (erasure : Erasure description description' path method)
    {inherited : List Parameter} {ds ds₁ : List Diagnostic} {ops : List Operation}
    (h : exec (parseMethods description path erasure.item inherited options methods) ds =
      (.ok ops, ds₁)) (ds' : List Diagnostic) :
    ∃ before op after, ops = before ++ op :: after ∧ op.path = path ∧ op.method = method ∧
      ∃ ds₂, exec (parseMethods description' path erasure.item' inherited options methods) ds' =
        (.ok (before ++ after), ds₂) := by
  obtain ⟨v, hv, hobject⟩ := erasure.exists_object
  obtain ⟨first, last, hmethods⟩ := List.append_of_mem erasure.isMethod
  have hnodup : (first ++ method :: last).Nodup := hmethods ▸ by decide
  obtain ⟨-, hlast, hfirst⟩ := List.nodup_append.1 hnodup
  have hfirstMem : first ⊆ methods := hmethods ▸ List.subset_append_left _ _
  have hlastMem : last ⊆ methods :=
    hmethods ▸ List.subset_append_of_subset_right _ (List.subset_cons_self _ _)
  rw [hmethods, parseMethods_append, parseMethods_cons_of_object hv hobject] at h
  obtain ⟨before, ds₂, hbefore, h⟩ := of_exec_bind h
  rw [bind_assoc] at h
  obtain ⟨op, ds₃, hop, h⟩ := of_exec_bind h
  rw [bind_assoc] at h
  obtain ⟨after, ds₄, hafter, h⟩ := of_exec_bind h
  obtain ⟨rfl, -⟩ := exec_pure_eq_ok.1 h
  obtain ⟨hpath, hmethod, -⟩ := eq_of_parse hop
  obtain ⟨ds₅, hbefore⟩ := exists_exec (mirrors_parseMethods _ _ _ _ _ _) hbefore ds'
  obtain ⟨ds₆, hafter⟩ := exists_exec (mirrors_parseMethods _ _ _ _ _ _) hafter ds₅
  refine ⟨before, op, after, rfl, hpath, hmethod, ds₆, ?_⟩
  rw [hmethods, parseMethods_append, parseMethods_cons_of_none erasure.erased Bool.false_ne_true,
    erasure.parseMethods_eq hfirstMem fun hmem ↦ hfirst _ hmem _ List.mem_cons_self rfl,
    erasure.parseMethods_eq hlastMem (List.nodup_cons.1 hlast).1,
    exec_bind_of_ok hbefore, exec_bind_of_ok hafter]
  rfl

/-- Reading yields the same operations but the one that is erased. -/
theorem exec_parseAll (erasure : Erasure description description' path method)
    {ds ds₁ : List Diagnostic} {ops : List Operation}
    (h : exec (parseAll description options) ds = (.ok ops, ds₁)) :
    ∃ before op after, ops = before ++ op :: after ∧ op.path = path ∧ op.method = method ∧
      ∃ ds₂, exec (parseAll description' options) ds = (.ok (before ++ after), ds₂) := by
  rw [parseAll_eq erasure.entries_eq, parsePaths_append] at h
  rw [parseAll_eq erasure.entries_eq', parsePaths_append, parsePaths_congr erasure.alike_before]
  obtain ⟨earlier, ds₂, hearlier, h⟩ := of_exec_bind h
  obtain ⟨more, ds₃, hmore, h⟩ := of_exec_bind h
  obtain ⟨rfl, -⟩ := exec_pure_eq_ok.1 h
  unfold parsePaths at hmore
  obtain ⟨item, hitem, hmore⟩ := of_exec_lift_bind hmore
  obtain rfl : erasure.item = item := Except.ok.inj (erasure.item_eq.symm.trans hitem)
  obtain ⟨raws, hraws, hmore⟩ := of_exec_lift_bind hmore
  obtain ⟨inherited, ds₄, hinherited, hmore⟩ := of_exec_bind hmore
  obtain ⟨here, ds₅, hhere, hmore⟩ := of_exec_bind hmore
  obtain ⟨later, ds₆, hlater, hmore⟩ := of_exec_bind hmore
  obtain ⟨rfl, -⟩ := exec_pure_eq_ok.1 hmore
  obtain ⟨before, op, after, rfl, hpath, hmethod, ds₇, hhere⟩ := erasure.exec_parseMethods hhere ds₄
  obtain ⟨ds₈, hlater⟩ := exists_exec (mirrors_parsePaths _ _ _) hlater ds₇
  have hraws' : erasure.item'.field "parameters" = .ok raws := erasure.parameters_eq.trans hraws
  have hinherited' : parseParameters description' raws path =
      parseParameters description raws path :=
    parseParameters_congr hraws' fun raw hraw ↦
      erasure.alike_item raw (List.mem_append_left _ hraw)
  refine ⟨earlier ++ before, op, after ++ later, by simp, hpath, hmethod, ds₈, ?_⟩
  have hothers :
      exec (parsePaths description' options ((path, erasure.raw') :: erasure.after)) ds₂ =
        (.ok (before ++ after ++ later), ds₈) := by
    unfold parsePaths
    rw [erasure.item_eq', exec_bind_of_ok (exec_lift _ _), hraws', exec_bind_of_ok (exec_lift _ _),
      hinherited', exec_bind_of_ok hinherited, exec_bind_of_ok hhere,
      parsePaths_congr erasure.alike_after, exec_bind_of_ok hlater]
    rfl
  rw [exec_bind_of_ok hearlier, exec_bind_of_ok hothers]
  simp [exec_pure]

end Erasure

/-- Pets that can be put, with a body that is described among the components, and more. -/
def petMethods (more : List (Value × Value)) : Value := .map [
  ("components", .map [("requestBodies", .map [("Pet", .map [("required", .bool true)])])]),
  ("paths", .map [("/pets", .map (
    ("put", .map [("requestBody", .map [("$ref", "#/components/requestBodies/Pet")])]) :: more))])]

example : Nonempty (Erasure (petMethods [("get", .map [])]) (petMethods []) "/pets" "get") := by
  let put : Value × Value :=
    ("put", .map [("requestBody", .map [("$ref", "#/components/requestBodies/Pet")])])
  refine ⟨{
    before := []
    after := []
    raw := .map [put, ("get", .map [])]
    raw' := .map [put]
    item := .map [put, ("get", .map [])]
    item' := .map [put]
    components_eq := rfl
    info_eq := rfl
    entries_eq := rfl
    entries_eq' := rfl
    item_eq := rfl
    item_eq' := rfl
    isMethod := List.mem_cons_self
    isObject := rfl
    erased := rfl
    others_eq := fun other hother ↦ ?_
    alike_before := List.forall_mem_nil _
    alike_item := List.forall_mem_singleton.2 rfl
    alike_after := List.forall_mem_nil _ }⟩
  by_cases hput : "put" = other
  · subst hput
    rfl
  · simp [put, Value.field, Value.field?, Value.entries, Value.asMap?, Value.opened, Value.lookup,
      Value.isText, Except.map, hput, hother.symm]

end ApiClient.Operation
