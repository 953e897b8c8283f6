import ApiClient.Proofs.Json.Reader
import ApiClient.Proofs.Operation.Following
import ApiClient.Proofs.Operation.Responses

/-!
# Operations that can be written out

An operation can be written out when the media types of its contents are texts and every schema that
it has can be written out. The operations of a description in the interchange notation can be, since
whatever is reached in it, by keys or by references, belongs to the notation too.
-/

namespace ApiClient

open Work Value

/-! ## What can be written out -/

/-- The media types are texts and the schemas can be written out. -/
def Content.Expressible (content : Content) : Prop :=
  ∀ e ∈ content, e.1.isWord = true ∧ Schema.optionExpressible e.2.schema = true

/-- All contents and the schemas of all parameters can be written out. -/
structure Operation.Expressible (op : Operation) : Prop where
  body : ∀ b, op.body = some b → b.content.Expressible
  responses : ∀ r ∈ op.responses, r.content.Expressible
  parameters : ∀ p ∈ op.parameters, p.schema.expressible = true

/-! ## Parts of a description in the interchange notation -/

namespace Json

theorem noted_of_isWord {v : Value} (h : v.isWord = true) : Noted v := by
  cases v with
  | text s => exact ⟨rfl, rfl⟩
  | _ => cases h

theorem noted_empty : Noted (.map []) := ⟨rfl, rfl⟩

namespace Noted

variable {v : Value}

theorem notedEntries (h : Noted v) {es : List (Value × Value)} (hes : v.asMap? = some es) :
    NotedEntries es := by
  obtain rfl := eq_map_of_asMap? h.isJson hes
  intro e he
  obtain ⟨key, w, rfl, -, -⟩ := exists_of_mem_map h.isJson he
  exact ⟨rfl, h.of_mem_entries rfl he⟩

theorem of_lookup (h : Noted v) {es : List (Value × Value)} (hes : v.asMap? = some es)
    {key : String} {w : Value} (hw : lookup es key = some w) : Noted w :=
  (h.notedEntries hes _ (mem_of_lookup hw)).2

theorem orEmptyList (h : Noted v) : Noted v.orEmptyList := by
  unfold Value.orEmptyList
  split
  · exact h
  · exact ⟨rfl, rfl⟩

/-- What is gone through are the items of a list, the keys of a map or the characters of a text. -/
theorem of_mem_items (h : Noted v) {ws : List Value} (hws : v.items = .ok ws) {w : Value}
    (hw : w ∈ ws) : Noted w := by
  cases v with
  | list vs =>
    obtain rfl : vs = ws := Except.ok.inj hws
    have hwritable := h.writable
    rw [Value.writable] at hwritable
    exact ⟨isJson_of_mem_list h.isJson hw, allWritable_iff.1 hwritable w hw⟩
  | map es =>
    obtain rfl : es.map (·.1) = ws := Except.ok.inj hws
    obtain ⟨e, he, rfl⟩ := List.mem_map.1 hw
    exact noted_of_isWord (h.notedEntries rfl e he).1
  | text s =>
    obtain rfl := Except.ok.inj hws
    obtain ⟨n, -, rfl⟩ := List.mem_map.1 hw
    exact noted_of_isWord rfl
  | null | bool _ | int _ | float _ => cases hws
  | bytes _ | date _ | moment _ | pair _ _ | set _ | knot _ _ | again _ => cases h.isJson

theorem of_leads (h : Noted v) {keys : List String} {part : Value}
    (hleads : Description.Leads v keys part) : Noted part := by
  induction hleads with
  | here => exact h
  | under hv hw _ ih => exact ih (h.of_lookup hv hw)

end Noted

end Json

open Json

namespace Operation

variable {description v w : Value} {ds ds' : List Diagnostic}

theorem noted_of_followWithin (hdescription : Noted description) {fuel : ℕ} {seen : List Value}
    {found : Value} (hv : Noted v) (h : followWithin description fuel seen v = .ok found) :
    Noted found := by
  induction fuel generalizing seen v with
  | zero =>
    obtain ⟨rfl, -⟩ | rfl | ⟨n, _, _, hn, -⟩ := followWithin_cases h
    · exact hv
    · exact noted_empty
    · cases hn
  | succ fuel ih =>
    obtain ⟨rfl, -⟩ | rfl | ⟨n, pointer, target, hn, htarget, hnext⟩ := followWithin_cases h
    · exact hv
    · exact noted_empty
    · obtain ⟨keys, hleads⟩ := Description.exists_leads_of_resolve htarget
      cases hn
      exact ih (hdescription.of_leads hleads) hnext

theorem noted_of_follow (hdescription : Noted description) (hv : Noted v)
    (h : follow description v = .ok w) : Noted w :=
  noted_of_followWithin hdescription hv h

/-! ## What is read -/

theorem expressible_of_parse_of_noted {s : Schema} (hv : Noted v) (h : Schema.parse v = .ok s) :
    s.expressible = true :=
  Schema.expressible_of_parse hv.isJson hv.writable h

theorem expressible_of_parseContentEntries {es : List (Value × Value)} (hes : NotedEntries es)
    {content : Content} (h : parseContentEntries es = .ok content) : content.Expressible := by
  induction es generalizing content with
  | nil =>
    obtain rfl : [] = content := Except.ok.inj h
    exact fun e he ↦ absurd he List.not_mem_nil
  | cons e es ih =>
    obtain ⟨mediaType, media⟩ := e
    obtain ⟨⟨hword, hmedia⟩, hrest⟩ := List.forall_mem_cons.1 hes
    obtain ⟨payload, rest, hpayload, hparse, rfl⟩ := of_parseContentEntries_cons h
    refine List.forall_mem_cons.2 ⟨⟨hword, ?_⟩, ih hrest hparse⟩
    have hschema : Noted (schemaOf media) := by
      unfold schemaOf
      cases hfound : media.asMap?.bind (lookup · "schema") with
      | none => exact ⟨rfl, rfl⟩
      | some s =>
        obtain ⟨fs, hfs, hs⟩ := Option.bind_eq_some_iff.1 hfound
        exact hmedia.of_lookup hfs hs
    unfold ReadPayload at hpayload
    split at hpayload
    · obtain ⟨s, hs, hsome⟩ := hpayload
      rw [hsome]
      exact expressible_of_parse_of_noted hschema hs
    · rw [hpayload]
      rfl

theorem expressible_of_parseContent {content : Content} (hv : Noted v)
    (h : parseContent v = .ok content) : content.Expressible := by
  unfold parseContent at h
  split at h
  · next es hes => exact expressible_of_parseContentEntries (hv.notedEntries hes) h
  · obtain rfl : [] = content := Except.ok.inj h
    exact fun e he ↦ absurd he List.not_mem_nil

theorem expressible_of_parseBody (hdescription : Noted description) (hv : Noted v)
    {body : RequestBody} (h : parseBody description v = .ok (some body)) :
    body.content.Expressible := by
  unfold parseBody at h
  obtain ⟨raw?, hraw, h⟩ := Module.of_bind_eq_ok h
  cases raw? with
  | none => cases h
  | some raw =>
    obtain ⟨found, hfound, h⟩ := Module.of_bind_eq_ok h
    obtain ⟨declared, hdeclared, h⟩ := Module.of_bind_eq_ok h
    obtain ⟨content, hcontent, h⟩ := Module.of_bind_eq_ok h
    obtain ⟨required, -, h⟩ := Module.of_bind_eq_ok h
    obtain rfl := Option.some.inj (Except.ok.inj h)
    have hrawField : v.field "requestBody" = .ok raw := by
      rw [Value.field, hraw]
      rfl
    have hnoted := noted_of_follow hdescription (hv.field hrawField) hfound
    exact expressible_of_parseContent (hnoted.field hdeclared) hcontent

theorem expressible_of_parseResponses (hdescription : Noted description)
    {es : List (Value × Value)} (hes : ∀ e ∈ es, Noted e.2) {before responses : List Response}
    (hbefore : ∀ r ∈ before, r.content.Expressible)
    (h : parseResponses description es before = .ok responses) :
    ∀ r ∈ responses, r.content.Expressible := by
  induction es generalizing before with
  | nil =>
    obtain rfl : before = responses := Except.ok.inj h
    exact hbefore
  | cons e es ih =>
    obtain ⟨hfirst, hrest⟩ := List.forall_mem_cons.1 hes
    obtain ⟨r, hr, h⟩ := of_parseResponses_cons h
    obtain ⟨found, declared, hfound, hdeclared, hcontent⟩ := hr.content
    have hnoted := noted_of_follow hdescription hfirst hfound
    refine ih hrest (fun q hq ↦ ?_) h
    obtain rfl | ⟨hq, -⟩ := mem_putResponse.1 hq
    · exact expressible_of_parseContent (hnoted.field hdeclared) hcontent
    · exact hbefore q hq

theorem expressible_of_parseParameter (hdescription : Noted description) {raw location : Value}
    (hraw : Noted raw) {p : Parameter}
    (h : exec (parseParameter description raw location) ds = (.ok (some p), ds')) :
    p.schema.expressible = true := by
  unfold parseParameter at h
  obtain ⟨found, hfound, h⟩ := of_exec_lift_bind h
  obtain ⟨name, -, h⟩ := of_exec_lift_bind h
  split at h
  · obtain ⟨_, _, -, h⟩ := of_exec_bind h
    cases (exec_pure_eq_ok.1 h).1
  · obtain ⟨place, -, h⟩ := of_exec_lift_bind h
    obtain ⟨word, -, h⟩ := of_exec_lift_bind h
    split at h
    · obtain ⟨plain, -, h⟩ := of_exec_lift_bind h
      obtain ⟨literal, -, h⟩ := of_exec_lift_bind h
      obtain ⟨_, _, -, h⟩ := of_exec_bind h
      cases (exec_pure_eq_ok.1 h).1
    · obtain ⟨described, -, h⟩ := of_exec_lift_bind h
      obtain ⟨prose, -, h⟩ := of_exec_lift_bind h
      obtain ⟨required, -, h⟩ := of_exec_lift_bind h
      obtain ⟨shape, hshape, h⟩ := of_exec_lift_bind h
      obtain ⟨schema, hschema, h⟩ := of_exec_lift_bind h
      obtain rfl := Option.some.inj (exec_pure_eq_ok.1 h).1
      have hnoted := noted_of_follow hdescription hraw hfound
      exact expressible_of_parse_of_noted (hnoted.field hshape) hschema

theorem expressible_of_parseParameterList (hdescription : Noted description) {location : Value}
    {raws : List Value} (hraws : ∀ raw ∈ raws, Noted raw) {ps : List Parameter}
    (h : exec (parseParameterList description location raws) ds = (.ok ps, ds')) :
    ∀ p ∈ ps, p.schema.expressible = true := by
  induction raws generalizing ps ds ds' with
  | nil =>
    obtain ⟨rfl, -⟩ := exec_pure_eq_ok.1 h
    exact fun p hp ↦ absurd hp List.not_mem_nil
  | cons raw raws ih =>
    obtain ⟨hfirst, hrest⟩ := List.forall_mem_cons.1 hraws
    unfold parseParameterList at h
    obtain ⟨p?, ds₁, hp, h⟩ := of_exec_bind h
    cases p? with
    | none => exact ih hrest h
    | some p =>
      obtain ⟨ps, ds₂, hps, h⟩ := of_exec_bind h
      obtain ⟨rfl, -⟩ := exec_pure_eq_ok.1 h
      exact List.forall_mem_cons.2 ⟨expressible_of_parseParameter hdescription hfirst hp,
        ih hrest hps⟩

theorem expressible_of_parseParameters (hdescription : Noted description) {raws location : Value}
    (hraws : Noted raws) {ps : List Parameter}
    (h : exec (parseParameters description raws location) ds = (.ok ps, ds')) :
    ∀ p ∈ ps, p.schema.expressible = true := by
  obtain ⟨items, hitems, h⟩ := of_exec_lift_bind h
  exact expressible_of_parseParameterList hdescription
    (fun raw hraw ↦ hraws.orEmptyList.of_mem_items hitems hraw) h

theorem mem_of_mergeParameters {inherited own ps : List Parameter}
    (h : mergeParameters inherited own = .ok ps) {p : Parameter} (hp : p ∈ ps) :
    p ∈ inherited ∨ p ∈ own := by
  unfold mergeParameters at h
  split at h
  · rw [← Except.ok.inj h] at hp
    exact (List.mem_append.1 hp).imp_left fun hp ↦ (List.mem_filter.1 hp).1
  · cases h

theorem expressible_of_parse (hdescription : Noted description) {path : Value} {method : String}
    (hv : Noted v) {inherited : List Parameter}
    (hinherited : ∀ p ∈ inherited, p.schema.expressible = true) {options : Options}
    {op : Operation}
    (h : exec (parse description path method v inherited options) ds = (.ok op, ds')) :
    op.Expressible := by
  unfold parse at h
  obtain ⟨plain, -, h⟩ := of_exec_lift_bind h
  obtain ⟨tags, -, h⟩ := of_exec_lift_bind h
  obtain ⟨tag, ds₁, -, h⟩ := of_exec_bind h
  obtain ⟨declared, -, h⟩ := of_exec_lift_bind h
  obtain ⟨id, ds₂, -, h⟩ := of_exec_bind h
  obtain ⟨raws, hraws, h⟩ := of_exec_lift_bind h
  obtain ⟨own, ds₃, hown, h⟩ := of_exec_bind h
  obtain ⟨body, hbody, h⟩ := of_exec_lift_bind h
  obtain ⟨field, hfield, h⟩ := of_exec_lift_bind h
  obtain ⟨entries, hentries, h⟩ := of_exec_lift_bind h
  obtain ⟨responses, hresponses, h⟩ := of_exec_lift_bind h
  obtain ⟨parameters, hparameters, h⟩ := of_exec_lift_bind h
  obtain ⟨summary, -, h⟩ := of_exec_lift_bind h
  obtain ⟨prose, -, h⟩ := of_exec_lift_bind h
  obtain ⟨deprecated, -, h⟩ := of_exec_lift_bind h
  obtain ⟨rfl, -⟩ := exec_pure_eq_ok.1 h
  constructor
  · rintro b rfl
    exact expressible_of_parseBody hdescription hv hbody
  · have hnoted : ∀ e ∈ entries, Noted e.2 := fun e he ↦
      (hv.field hfield).orEmptyMap.of_mem_entries hentries he
    exact expressible_of_parseResponses hdescription hnoted
      (fun r hr ↦ absurd hr List.not_mem_nil) hresponses
  · intro p hp
    rcases mem_of_mergeParameters hparameters hp with hp | hp
    · exact hinherited p hp
    · exact expressible_of_parseParameters hdescription (hv.field hraws) hown p hp

theorem expressible_of_parseMethods (hdescription : Noted description) {path item : Value}
    (hitem : Noted item) {inherited : List Parameter}
    (hinherited : ∀ p ∈ inherited, p.schema.expressible = true) {options : Options}
    {methods : List String} {ops : List Operation}
    (h : exec (parseMethods description path item inherited options methods) ds = (.ok ops, ds')) :
    ∀ op ∈ ops, op.Expressible := by
  induction methods generalizing ops ds ds' with
  | nil =>
    obtain ⟨rfl, -⟩ := exec_pure_eq_ok.1 h
    exact fun op hop ↦ absurd hop List.not_mem_nil
  | cons method methods ih =>
    unfold parseMethods at h
    obtain ⟨v, hv, h⟩ := of_exec_lift_bind h
    split at h
    · obtain ⟨op, ds₁, hop, h⟩ := of_exec_bind h
      obtain ⟨rest, ds₂, hrest, h⟩ := of_exec_bind h
      obtain ⟨rfl, -⟩ := exec_pure_eq_ok.1 h
      exact List.forall_mem_cons.2
        ⟨expressible_of_parse hdescription (hitem.field hv) hinherited hop, ih hrest⟩
    · exact ih h

theorem expressible_of_parsePaths (hdescription : Noted description) {options : Options}
    {es : List (Value × Value)} (hes : ∀ e ∈ es, Noted e.2) {ops : List Operation}
    (h : exec (parsePaths description options es) ds = (.ok ops, ds')) :
    ∀ op ∈ ops, op.Expressible := by
  induction es generalizing ops ds ds' with
  | nil =>
    obtain ⟨rfl, -⟩ := exec_pure_eq_ok.1 h
    exact fun op hop ↦ absurd hop List.not_mem_nil
  | cons e es ih =>
    obtain ⟨path, raw⟩ := e
    obtain ⟨hraw, hrest⟩ := List.forall_mem_cons.1 hes
    unfold parsePaths at h
    obtain ⟨item, hitem, h⟩ := of_exec_lift_bind h
    obtain ⟨raws, hraws, h⟩ := of_exec_lift_bind h
    obtain ⟨inherited, ds₁, hinherited, h⟩ := of_exec_bind h
    obtain ⟨first, ds₂, hfirst, h⟩ := of_exec_bind h
    obtain ⟨later, ds₃, hlater, h⟩ := of_exec_bind h
    obtain ⟨rfl, -⟩ := exec_pure_eq_ok.1 h
    have hnoted := noted_of_follow hdescription hraw hitem
    have hparameters :=
      expressible_of_parseParameters hdescription (hnoted.field hraws) hinherited
    exact List.forall_mem_append.2
      ⟨expressible_of_parseMethods hdescription hnoted hparameters hfirst, ih hrest hlater⟩

/-- The operations of a description in the interchange notation can be written out. -/
theorem expressible_of_parseAll (hdescription : Noted description) {options : Options}
    {ops : List Operation} (h : exec (parseAll description options) ds = (.ok ops, ds')) :
    ∀ op ∈ ops, op.Expressible := by
  unfold parseAll at h
  obtain ⟨paths, hpaths, h⟩ := of_exec_lift_bind h
  obtain ⟨entries, hentries, h⟩ := of_exec_lift_bind h
  obtain ⟨declared, hdeclared, hsome⟩ := Module.of_bind_eq_ok hpaths
  have hnoted : Noted paths := Except.ok.inj hsome ▸ (hdescription.field hdeclared).orEmptyMap
  exact expressible_of_parsePaths hdescription
    (fun e he ↦ hnoted.of_mem_entries hentries he) h

end Operation

end ApiClient
