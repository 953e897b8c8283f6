import ApiClient.Proofs.Description.Rewording

/-!
# Operations in other words

An operation without its documentation is bare. In other words a description has the same bare
operations, and reading them makes the same remarks. Identifiers and names of parameters that cannot
be keys may still be in other words.
-/

namespace ApiClient

open Value

namespace Parameter

/-- A parameter without its documentation. -/
def bare (p : Parameter) : Parameter := { p with description := .null }

/-- The bare parameter is the same, and the name may be in other words. -/
structure Retold (p q : Parameter) : Prop where
  name : Value.Reworded p.name q.name
  rest : { q.bare with name := p.name } = p.bare

end Parameter

/-- A response without its documentation. -/
def Response.bare (r : Response) : Response := { r with description := "" }

namespace Operation

/-- An operation without its documentation. -/
def bare (op : Operation) : Operation :=
  { op with
    parameters := op.parameters.map Parameter.bare
    responses := op.responses.map Response.bare
    summary := ""
    description := "" }

/-- The bare operation is the same, and the identifier may be in other words. -/
structure Retold (op op' : Operation) : Prop where
  id : Value.Reworded op.id op'.id
  rest : { op'.bare with id := op.id } = op.bare

variable {description description' : Value} {options : Options}

/-! ## References -/

/-- One step along a chain, when the rest of the chain is no concern. -/
theorem concur_followStep (hdescription : Reworded description description') {fuel : Nat}
    (hrest : ∀ n, fuel = n + 1 → ∀ (seen : List Value) {v w : Value}, Akin v w →
      Concur Reworded (followWithin description n seen v) (followWithin description' n seen w))
    (seen : List Value) {v w : Value} (h : Akin v w) :
    Concur Reworded (followWithin description fuel seen v)
      (followWithin description' fuel seen w) := by
  have hempty : Reworded (.map []) (.map []) := .refl _
  unfold followWithin
  obtain ⟨hv, hw⟩ | ⟨es, fs, hv, hw, hentries⟩ := cases_of_rel h.rel_asMap?
  · rw [hv, hw]
    exact .ok hempty
  · have hmaps : Reworded v w := .of_step (.map hv hw hentries)
    rw [hv, hw]
    simp only []
    obtain ⟨hv, hw⟩ | ⟨p, q, hv, hw, hpointer⟩ :=
      cases_of_rel ((hentries.rel_lookup "$ref").2 (by decide))
    · rw [hv, hw]
      exact .ok hmaps
    · rw [hv, hw]
      simp only []
      cases hhashable : p.hashable with
      | false => exact .error_left _
      | true =>
        obtain rfl := hpointer.eq_of_hashable hhashable
        rw [hhashable]
        refine .ite (.error_left _) (.ite (.ok hempty) ?_)
        obtain ⟨a, b, ha, hb, htarget⟩ | ⟨fault, ha, hb⟩ :=
          Description.resolve_cases hdescription q
        · rw [ha, hb]
          cases fuel with
          | zero => exact .ok hempty
          | succ n => exact hrest n rfl _ htarget
        · rw [ha, hb]
          cases fault with
          | noSuchPart => cases fuel <;> exact .error_left _
          | _ => cases fuel <;> exact .ok hempty

theorem concur_followWithin (hdescription : Reworded description description') (fuel : Nat)
    (seen : List Value) {v w : Value} (h : Akin v w) :
    Concur Reworded (followWithin description fuel seen v)
      (followWithin description' fuel seen w) := by
  induction fuel generalizing seen v w with
  | zero => exact concur_followStep hdescription (fun n hn ↦ absurd hn.symm n.succ_ne_zero) seen h
  | succ fuel ih =>
    refine concur_followStep hdescription (fun n hn seen v w h ↦ ?_) seen h
    obtain rfl := Nat.succ.inj hn
    exact ih seen h

theorem concur_follow (h : Description.Rewording description description') {v w : Value}
    (hraw : Akin v w) : Concur Reworded (follow description v) (follow description' w) := by
  unfold follow
  rw [h.size_eq]
  exact concur_followWithin h.reworded _ [] hraw

/-! ## Parameters -/

/-- Only a place that is there may be none that is supported. -/
theorem exists_of_unsupported {place : Option Value} {word : Option String}
    (hread : (place.getD "query").word? = .ok word) (h : word.bind Place.ofText? = none) :
    ∃ v, place = some v ∧ v.word? = .ok word := by
  cases place with
  | none =>
    obtain rfl := Except.ok.inj hread
    cases h
  | some v => exact ⟨v, rfl, hread⟩

theorem concur_parseParameter (h : Description.Rewording description description') {raw raw' : Value}
    (hraw : Akin raw raw') (location : Value) :
    Work.Concur (Option.Rel Parameter.Retold) (parseParameter description raw location)
      (parseParameter description' raw' location) := by
  unfold parseParameter
  refine .lift_bind (concur_follow h hraw) fun v w hparameter ↦ ?_
  refine .lift_bind hparameter.concur_field_name fun name name' ⟨hname, hsame⟩ ↦ ?_
  rw [hname.truthy_eq]
  split
  · exact (Work.Concur.refl _).bind fun _ _ _ ↦ .pure .none
  · refine .lift_bind (hparameter.concur_field? "in" (by decide)).attach
      fun place place' ⟨hplace, hv, _⟩ ↦ ?_
    refine .lift_bind (Reworded.getD_of_rel hplace "query").concur_word?.attach
      fun word word' ⟨⟨hword, hplaced⟩, hread, _⟩ ↦ ?_
    subst hword
    rw [hplaced]
    cases hsupported : word'.bind Place.ofText? with
    | none =>
      obtain ⟨unsupported, rfl, hword⟩ := exists_of_unsupported hread hsupported
      obtain rfl := hsame ⟨unsupported, word', hv, hword, hsupported⟩
      refine .lift_bind (.refl _) fun plain plain' hplain ↦ ?_
      refine .lift_bind (.refl _) fun literal literal' hliteral ↦ ?_
      rw [hplain, hliteral]
      exact (Work.Concur.refl _).bind fun _ _ _ ↦ .pure .none
    | some p =>
      refine .lift_bind (.any _ _) fun _ _ _ ↦ ?_
      refine .lift_bind (.any _ _) fun prose prose' _ ↦ ?_
      refine .lift_bind (hparameter.concur_field? "required" (by decide)) fun _ _ hrequired ↦ ?_
      refine .lift_bind (hparameter.concur_field "schema" (by decide)) fun _ _ hschema ↦ ?_
      refine .lift_bind (Schema.concur_parse (.inl hschema)) fun schema schema' hparsed ↦ ?_
      rw [(Reworded.getD_of_rel hrequired _).truthy_eq, hparsed]
      exact .pure (.some ⟨hname, rfl⟩)

theorem concur_parseParameterList (h : Description.Rewording description description')
    {raws raws' : List Value} (hraws : List.Forall₂ Reworded raws raws') (location : Value) :
    Work.Concur (List.Forall₂ Parameter.Retold) (parseParameterList description location raws)
      (parseParameterList description' location raws') := by
  induction hraws with
  | nil => exact .pure .nil
  | cons hraw _ ih =>
    unfold parseParameterList
    refine (concur_parseParameter h (.inl hraw) location).bind fun p q hparameter ↦ ?_
    cases hparameter with
    | none => exact ih
    | some hparameter => exact ih.bind fun _ _ hrest ↦ .pure (.cons hparameter hrest)

theorem concur_parseParameters (h : Description.Rewording description description')
    {raws raws' : Value} (hraws : Reworded raws raws') (location : Value) :
    Work.Concur (List.Forall₂ Parameter.Retold) (parseParameters description raws location)
      (parseParameters description' raws' location) :=
  .lift_bind hraws.orEmptyList.concur_items fun _ _ hitems ↦
    concur_parseParameterList h hitems location

/-- Parameters whose names can be keys are the same without documentation. -/
theorem bare_eq_of_hashable {ps qs : List Parameter} (h : List.Forall₂ Parameter.Retold ps qs)
    (hps : ps.all (·.name.hashable) = true) :
    qs.map Parameter.bare = ps.map Parameter.bare := by
  induction h with
  | nil => rfl
  | @cons p q ps qs hfirst _ ih =>
    rw [List.all_cons, Bool.and_eq_true] at hps
    have hname : q.name = p.name := hfirst.name.eq_of_hashable hps.1
    have hbare : q.bare = p.bare := by
      rw [← hfirst.rest, ← hname]
      rfl
    rw [List.map_cons, List.map_cons, hbare, ih hps.2]

theorem mergeParameters_bare (inherited own : List Parameter) :
    mergeParameters (inherited.map Parameter.bare) (own.map Parameter.bare) =
      (mergeParameters inherited own).map (List.map Parameter.bare) := by
  have hall : (own.map Parameter.bare ++ inherited.map Parameter.bare).all (·.name.hashable) =
      (own ++ inherited).all (·.name.hashable) := by
    rw [← List.map_append, List.all_map]
    rfl
  unfold mergeParameters
  rw [hall]
  split
  · rw [Except.map, List.map_append, List.filter_map]
    congr 4
    funext p
    rw [Function.comp_apply, List.any_map]
    rfl
  · rfl

theorem concur_mergeParameters {inherited inherited' own own' : List Parameter}
    (hinherited : List.Forall₂ Parameter.Retold inherited inherited')
    (hown : List.Forall₂ Parameter.Retold own own') :
    Concur (fun ps qs ↦ qs.map Parameter.bare = ps.map Parameter.bare)
      (mergeParameters inherited own) (mergeParameters inherited' own') where
  rel {ps qs} hps hqs := by
    have hhashable : (own ++ inherited).all (·.name.hashable) = true := by
      unfold mergeParameters at hps
      split at hps
      · assumption
      · cases hps
    rw [List.all_append, Bool.and_eq_true] at hhashable
    have hmerged := mergeParameters_bare inherited' own'
    rw [bare_eq_of_hashable hinherited hhashable.2, bare_eq_of_hashable hown hhashable.1,
      mergeParameters_bare, hps, hqs] at hmerged
    exact (Except.ok.inj hmerged).symm

/-! ## Bodies and responses -/

theorem reworded_schema {media media' : Value} (h : Akin media media') :
    Reworded ((media.asMap?.bind (lookup · "schema")).getD .null)
      ((media'.asMap?.bind (lookup · "schema")).getD .null) := by
  obtain ⟨hv, hw⟩ | ⟨es, fs, hv, hw, hentries⟩ := cases_of_rel h.rel_asMap?
  · rw [hv, hw]
    exact .refl _
  · rw [hv, hw]
    exact Schema.reworded_under hentries "schema" (by decide)

theorem concur_parseContentEntries {es fs : List (Value × Value)}
    (h : List.Forall₂ (EntryStep Reworded) es fs) :
    Concur Eq (parseContentEntries es) (parseContentEntries fs) := by
  induction h with
  | nil => exact .refl _
  | @cons e f es fs hfirst _ ih =>
    obtain ⟨mediaType, media⟩ := e
    obtain ⟨mediaType', media'⟩ := f
    obtain rfl : mediaType' = mediaType := hfirst.key
    have hschema := reworded_schema hfirst.akin
    unfold parseContentEntries
    simp only [hschema.truthy_eq]
    have hrest (shape : Option Schema) : Concur Eq
        (do return (mediaType', ⟨shape⟩) :: (← parseContentEntries es))
        (do return (mediaType', ⟨shape⟩) :: (← parseContentEntries fs)) := by
      apply ih.bind
      rintro rest _ rfl
      exact .refl _
    refine .ite (((Schema.concur_parse (.inl hschema)).map fun _ _ ↦ congrArg some).bind ?_)
      ((Concur.refl _).bind ?_)
    · rintro shape _ rfl
      exact hrest shape
    · rintro shape _ rfl
      exact hrest shape

theorem concur_parseContent {v w : Value} (h : Reworded v w) :
    Concur Eq (parseContent v) (parseContent w) := by
  unfold parseContent
  obtain ⟨hv, hw⟩ | ⟨es, fs, hv, hw, hentries⟩ := cases_of_rel h.rel_asMap?
  · rw [hv, hw]
    exact .refl _
  · rw [hv, hw]
    exact concur_parseContentEntries hentries.entries

theorem concur_parseBody (h : Description.Rewording description description') {v w : Value}
    (hoperation : Reworded v w) :
    Concur Eq (parseBody description v) (parseBody description' w) := by
  unfold parseBody
  refine (hoperation.concur_field? "requestBody" (by decide)).bind fun raw raw' hraw ↦ ?_
  cases hraw with
  | none => exact .refl _
  | some hraw =>
    refine (concur_follow h (.inl hraw)).bind fun body body' hbody ↦ ?_
    refine (hbody.concur_field "content" (by decide)).bind fun _ _ hcontent ↦ ?_
    refine (concur_parseContent hcontent).bind fun content content' hcontent ↦ ?_
    refine (hbody.concur_field "required" (by decide)).bind fun required required' hrequired ↦ ?_
    rw [hcontent, hrequired.truthy_eq]
    exact .refl _

theorem map_bare_putResponse (rs : List Response) (r : Response) :
    (putResponse rs r).map Response.bare = putResponse (rs.map Response.bare) r.bare := by
  have hany : (rs.map Response.bare).any (·.status = r.bare.status) =
      rs.any (·.status = r.status) := by
    rw [List.any_map]
    rfl
  unfold putResponse
  rw [hany]
  split
  · rw [List.map_map, List.map_map]
    apply List.map_congr_left
    intro q _
    simp only [Function.comp_apply, apply_ite Response.bare]
    rfl
  · rw [List.map_append, List.map_singleton]

theorem concur_parseResponses (h : Description.Rewording description description')
    {es fs : List (Value × Value)} (hentries : List.Forall₂ (EntryStep Reworded) es fs)
    {rs rs' : List Response} (hrs : rs'.map Response.bare = rs.map Response.bare) :
    Concur (fun rs rs' ↦ rs'.map Response.bare = rs.map Response.bare)
      (parseResponses description es rs) (parseResponses description' fs rs') := by
  induction hentries generalizing rs rs' with
  | nil => exact .ok hrs
  | @cons e f es fs hfirst _ ih =>
    obtain ⟨key, raw⟩ := e
    obtain ⟨key', raw'⟩ := f
    obtain rfl : key' = key := hfirst.key
    unfold parseResponses
    refine (concur_follow h hfirst.akin).bind fun v w hresponse ↦ ?_
    refine (Concur.refl _).bind fun status status' hstatus ↦ ?_
    refine (hresponse.concur_field "content" (by decide)).bind fun _ _ hcontent ↦ ?_
    refine (concur_parseContent hcontent).bind fun content content' hcontent ↦ ?_
    refine (Concur.any _ _).bind fun prose prose' _ ↦ ?_
    apply ih
    rw [map_bare_putResponse, map_bare_putResponse, hrs, hstatus, hcontent]
    rfl

/-! ## Operations -/

theorem filterMap_eq {α : Type} {f : Value → Option α} (hf : ∀ v, v.hashable = false → f v = none)
    {vs ws : List Value} (h : List.Forall₂ Reworded vs ws) :
    ws.filterMap f = vs.filterMap f := by
  induction h with
  | nil => rfl
  | @cons v w vs ws hfirst _ ih =>
    have hsame : f w = f v := by
      rcases hfirst.eq_or_unhashable with rfl | ⟨hv, hw⟩
      · rfl
      · rw [hf v hv, hf w hw]
    rw [List.filterMap_cons, List.filterMap_cons, hsame, ih]

theorem concur_parseTags {v w : Value} (h : Reworded v w) :
    Concur Eq (parseTags v) (parseTags w) := by
  unfold parseTags
  refine (h.concur_field "tags" (by decide)).bind fun _ _ htags ↦ ?_
  refine htags.orEmptyList.concur_items.bind fun tags tags' hitems ↦ .ok (filterMap_eq ?_ hitems).symm
  intro v hv
  cases v with
  | text => cases hv
  | _ => rfl

theorem concur_parseId (location path : Value) (method : String) {declared declared' : Value}
    (h : Reworded declared declared') :
    Work.Concur Reworded (parseId location path method declared)
      (parseId location path method declared') := by
  unfold parseId
  rw [h.truthy_eq]
  split
  · exact .pure h
  · refine .lift_bind (.refl _) fun text text' htext ↦ ?_
    rw [htext]
    exact (Work.Concur.refl _).bind fun _ _ _ ↦ .pure (.refl _)

/-- An operation is read in other words. -/
theorem concur_parse (h : Description.Rewording description description') (path : Value)
    (method : String) {v w : Value} (hoperation : Reworded v w)
    {inherited inherited' : List Parameter}
    (hinherited : List.Forall₂ Parameter.Retold inherited inherited') :
    Work.Concur Retold (parse description path method v inherited options)
      (parse description' path method w inherited' options) := by
  unfold parse
  refine .lift_bind (.refl _) fun plain _ hplain ↦ ?_
  subst hplain
  refine .lift_bind (concur_parseTags hoperation) fun tags _ htags ↦ ?_
  subst htags
  refine (Work.Concur.refl _).bind fun tag _ htag ↦ ?_
  subst htag
  refine .lift_bind (hoperation.concur_field "operationId" (by decide))
    fun declared declared' hdeclared ↦ ?_
  refine (concur_parseId _ path method hdeclared).bind fun id id' hid ↦ ?_
  refine .lift_bind (hoperation.concur_field "parameters" (by decide)) fun _ _ hraws ↦ ?_
  refine (concur_parseParameters h hraws _).bind fun own own' hown ↦ ?_
  refine .lift_bind (concur_parseBody h hoperation) fun body _ hbody ↦ ?_
  subst hbody
  refine .lift_bind (hoperation.concur_field "responses" (by decide)) fun _ _ hfound ↦ ?_
  refine .lift_bind hfound.orEmptyMap.concur_entries fun _ _ hentries ↦ ?_
  refine .lift_bind (concur_parseResponses h hentries.entries rfl)
    fun responses responses' hresponses ↦ ?_
  refine .lift_bind (concur_mergeParameters hinherited hown)
    fun parameters parameters' hparameters ↦ ?_
  refine .lift_bind (.any _ _) fun summary summary' _ ↦ ?_
  refine .lift_bind (.any _ _) fun prose prose' _ ↦ ?_
  refine .lift_bind (hoperation.concur_field "deprecated" (by decide))
    fun deprecated deprecated' hdeprecated ↦ ?_
  refine .pure ⟨hid, ?_⟩
  simp only [bare, hresponses, hparameters, hdeprecated.truthy_eq]

theorem concur_parseMethods (h : Description.Rewording description description') (path : Value)
    {item item' : Value} (hitem : Reworded item item')
    {inherited inherited' : List Parameter}
    (hinherited : List.Forall₂ Parameter.Retold inherited inherited') {ms : List String}
    (hms : ∀ m ∈ ms, m ∉ proseKeys) :
    Work.Concur (List.Forall₂ Retold)
      (parseMethods description path item inherited options ms)
      (parseMethods description' path item' inherited' options ms) := by
  induction ms with
  | nil => exact .pure .nil
  | cons m ms ih =>
    obtain ⟨hm, hms⟩ := List.forall_mem_cons.1 hms
    unfold parseMethods
    refine .lift_bind (hitem.concur_field m hm) fun v w hoperation ↦ ?_
    obtain ⟨hv, hw⟩ | ⟨es, fs, hv, hw, -⟩ := cases_of_rel hoperation.rel_asMap?
    · rw [hv, hw]
      exact ih hms
    · rw [hv, hw]
      exact (concur_parse h path m hoperation hinherited).bind fun _ _ hfirst ↦
        (ih hms).bind fun _ _ hrest ↦ .pure (.cons hfirst hrest)

theorem concur_parsePaths (h : Description.Rewording description description')
    {es fs : List (Value × Value)} (hentries : List.Forall₂ (EntryStep Reworded) es fs) :
    Work.Concur (List.Forall₂ Retold) (parsePaths description options es)
      (parsePaths description' options fs) := by
  induction hentries with
  | nil => exact .pure .nil
  | @cons e f es fs hfirst _ ih =>
    obtain ⟨path, raw⟩ := e
    obtain ⟨path', raw'⟩ := f
    obtain rfl : path' = path := hfirst.key
    unfold parsePaths
    refine .lift_bind (concur_follow h hfirst.akin) fun item item' hitem ↦ ?_
    refine .lift_bind (hitem.concur_field "parameters" (by decide)) fun _ _ hraws ↦ ?_
    refine (concur_parseParameters h hraws _).bind fun inherited inherited' hinherited ↦ ?_
    refine (concur_parseMethods h _ hitem hinherited (by decide)).bind fun ops ops' hops ↦ ?_
    exact ih.bind fun _ _ hrest ↦ .pure (List.rel_append hops hrest)

/-- A description in other words has its operations in other words, with the same remarks. -/
theorem concur_parseAll (h : Description.Rewording description description') :
    Work.Concur (List.Forall₂ Retold) (parseAll description options)
      (parseAll description' options) := by
  have hpaths : Concur Reworded (Description.paths description)
      (Description.paths description') :=
    (h.reworded.concur_field "paths" (by decide)).bind fun _ _ hpaths ↦ .ok hpaths.orEmptyMap
  exact .lift_bind hpaths fun _ _ hpaths ↦ .lift_bind hpaths.concur_entries fun _ _ hentries ↦
    concur_parsePaths h hentries.entries

end Operation

end ApiClient
