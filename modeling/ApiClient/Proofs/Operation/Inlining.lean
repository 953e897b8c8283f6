import ApiClient.Proofs.Operation.Erasure
import ApiClient.Proofs.Operation.Following
import ApiClient.Proofs.Operation.Responses
import ApiClient.Proofs.Value.Edits
import Mathlib.Data.List.ReduceOption

/-!
# References and shared parameters as shorthand

A description is spelled out where every value under its paths that stands for another one gives way
to what it stands for, and where the parameters of a path item are written in front of those of each
operation, but for the ones that the operation has itself. A parameter that is skipped takes the
place of no other. Nothing is left to be followed under the paths of a description that is spelled
out, and its operations are those of the description.
-/

namespace ApiClient.Operation

open Work Value

/-! ## Descriptions spelled out -/

/-- What a value stands for, and the value itself if it stands for no other. -/
def inlined (description v : Value) : Value :=
  if v.pointer?.isSome then (follow description v).toOption.getD (.map []) else v

/-- The name and the place of a parameter, unless it is skipped. -/
def keyOf? (v : Value) : Option (Value × Place) := do
  let name ← (v.field "name").toOption
  let place ← (v.field? "in").toOption
  let word ← (place.getD "query").word?.toOption
  if name.truthy then (word.bind Place.ofText?).map (name, ·) else none

/-- The name and the place of the parameter that a value stands for, unless it is skipped. -/
def parameterKey? (description raw : Value) : Option (Value × Place) :=
  (follow description raw).toOption.bind keyOf?

/-- Whether one of the parameters takes the place of another one. -/
def overridden (description : Value) (own : List Value) (raw : Value) : Bool :=
  (parameterKey? description raw).any fun key ↦
    own.any fun q ↦ (parameterKey? description q).any fun key' ↦
      key'.1.same key.1 && key'.2 = key.2

/-- The parameters of an operation with those of its path item in front of them. -/
def inlinedParameters (description : Value) (inherited own : List Value) : List Value :=
  (inherited.filter (!overridden description own ·) ++ own).map (inlined description)

/-- A part of an operation with what it refers to in place of the references. -/
def inlinedPart (description key v : Value) : Value :=
  if key.isText "requestBody" then inlined description v
  else if key.isText "responses" then v.edited (mapEntries fun _ ↦ inlined description)
  else v

/-- An operation spelled out, with the parameters of its path item. -/
def inlinedOperation (description : Value) (inherited : List Value) (v : Value) : Value :=
  v.edited fun es ↦
    ("parameters", .list (inlinedParameters description inherited (rawParameters v))) ::
      mapEntries (inlinedPart description) (without "parameters" es)

/-- A path item spelled out. -/
def inlinedItem (description raw : Value) : Value :=
  let item := inlined description raw
  item.edited fun es ↦ mapEntries
    (fun key v ↦ if methods.any key.isText then
      inlinedOperation description (rawParameters item) v else v)
    (without "parameters" es)

/-- A description whose paths are spelled out. -/
def spelledOut (description : Value) : Value :=
  description.edited (mapEntries fun key v ↦
    if key.isText "paths" then v.edited (mapEntries fun _ ↦ inlinedItem description) else v)

/-! ## What is followed -/

variable {description description' v raw : Value} {options : Options}

theorem isTarget_of_followWithin {fuel : ℕ} {seen : List Value} {found : Value}
    (h : followWithin description fuel seen v = .ok found) : found.IsTarget := by
  induction fuel generalizing seen v with
  | zero =>
    obtain ⟨rfl, htarget⟩ | rfl | ⟨n, _, _, hn, -⟩ := followWithin_cases h
    · exact htarget
    · exact isTarget_empty
    · cases hn
  | succ fuel ih =>
    obtain ⟨rfl, htarget⟩ | rfl | ⟨n, _, _, hn, -, hnext⟩ := followWithin_cases h
    · exact htarget
    · exact isTarget_empty
    · cases hn
      exact ih hnext

theorem isTarget_of_follow {found : Value} (h : follow description v = .ok found) :
    found.IsTarget := isTarget_of_followWithin h

theorem follow_of_isTarget (h : v.IsTarget) : follow description v = .ok v :=
  followWithin_of_isTarget h _ _

theorem follow_of_other (h : v.asMap? = none) : follow description v = .ok (.map []) :=
  followWithin_of_other h _ _

theorem inlined_of_pointer?_eq_none (h : v.pointer? = none) : inlined description v = v := by
  unfold inlined
  rw [h]
  rfl

/-- Nothing is left to be followed in place of a value. -/
theorem pointer?_inlined (description v : Value) : (inlined description v).pointer? = none := by
  unfold inlined
  split
  · cases hfollow : follow description v with
    | error fault => rfl
    | ok found => exact (isTarget_of_follow hfollow).pointer?_eq_none
  · next hpointer => exact Option.not_isSome_iff_eq_none.1 hpointer

/-- What stands in place of a value stands for the same in every description. -/
theorem follow_inlined {found : Value} (h : follow description v = .ok found)
    (description' : Value) : follow description' (inlined description v) = .ok found := by
  rcases v.other_or_isTarget_or_pointer with hother | htarget | ⟨pointer, hpointer⟩
  · rw [inlined_of_pointer?_eq_none (pointer?_of_asMap?_eq_none hother), follow_of_other hother,
      ← h, follow_of_other hother]
  · rw [inlined_of_pointer?_eq_none htarget.pointer?_eq_none, follow_of_isTarget htarget,
      ← h, follow_of_isTarget htarget]
  · have hinlined : inlined description v = found := by
      unfold inlined
      rw [hpointer, h]
      rfl
    rw [hinlined, follow_of_isTarget (isTarget_of_follow h)]

/-! ## What is read -/

/-- Reading comes to a result, whatever the remarks that were made before. -/
def Gives {α : Type} (x : Reading α) (a : α) : Prop := ∀ ds, ∃ ds', exec x ds = (.ok a, ds')

section Gives

variable {α β : Type} {x : Reading α} {f : α → Reading β} {a : α} {b : β}

theorem gives_pure (a : α) : Gives (pure a) a := fun ds ↦ ⟨ds, rfl⟩

theorem gives_remark (d : Diagnostic) : Gives (remark d) () := fun _ ↦ ⟨_, rfl⟩

theorem Gives.bind (hx : Gives x a) (hf : Gives (f a) b) : Gives (x >>= f) b := by
  intro ds
  obtain ⟨ds₁, hx⟩ := hx ds
  obtain ⟨ds₂, hf⟩ := hf ds₁
  exact ⟨ds₂, (exec_bind_of_ok hx f).trans hf⟩

theorem Gives.lift_bind {e : Except Fault α} (he : e = .ok a) (hf : Gives (f a) b) :
    Gives ((liftM e : Reading α) >>= f) b :=
  Gives.bind (fun ds ↦ ⟨ds, by rw [exec_lift, he]⟩) hf

/-- Reading that came to a result once always does. -/
theorem gives_of_exec (hx : remarks.Mirrors x) {ds ds₁ : List Diagnostic}
    (h : exec x ds = (.ok a, ds₁)) : Gives x a := exists_exec hx h

end Gives

/-- A value is read as a parameter, or skipped, and so is every value that stands for the same in
another description. -/
structure ReadsParameter (description raw : Value) (p? : Option Parameter) : Prop where
  key_eq : p?.map (fun p ↦ (p.name, p.place)) = parameterKey? description raw
  followed : ∃ found, follow description raw = .ok found
  gives : ∀ description' raw' location, follow description' raw' = follow description raw →
    Gives (parseParameter description' raw' location) p?

theorem keyOf?_of_nameless {name : Value} (hname : v.field "name" = .ok name)
    (hfalse : name.truthy = false) : keyOf? v = none := by
  unfold keyOf?
  rw [hname]
  simp [Except.toOption, hfalse]

theorem keyOf?_of_named {name : Value} {place : Option Value} {word : Option String}
    (hname : v.field "name" = .ok name) (htrue : name.truthy = true)
    (hplace : v.field? "in" = .ok place) (hword : (place.getD "query").word? = .ok word) :
    keyOf? v = (word.bind Place.ofText?).map (name, ·) := by
  unfold keyOf?
  rw [hname, hplace]
  simp [Except.toOption, htrue, hword]

theorem readsParameter_of_parseParameter {location : Value} {p? : Option Parameter}
    {ds ds₁ : List Diagnostic}
    (h : exec (parseParameter description raw location) ds = (.ok p?, ds₁)) :
    ReadsParameter description raw p? := by
  unfold parseParameter at h
  obtain ⟨v, hv, h⟩ := of_exec_lift_bind h
  obtain ⟨name, hname, h⟩ := of_exec_lift_bind h
  have hkey : parameterKey? description raw = keyOf? v := by
    unfold parameterKey?
    rw [hv]
    rfl
  split at h
  · next hfalse =>
    obtain ⟨_, _, -, h⟩ := of_exec_bind h
    obtain ⟨rfl, -⟩ := exec_pure_eq_ok.1 h
    refine ⟨?_, ⟨v, hv⟩, fun description' raw' location hsame ↦ ?_⟩
    · rw [hkey, keyOf?_of_nameless hname (by simpa using hfalse)]
      rfl
    · unfold parseParameter
      refine .lift_bind (hsame.trans hv) (.lift_bind hname ?_)
      rw [if_pos hfalse]
      exact (gives_remark _).bind (gives_pure _)
  · next htrue =>
    obtain ⟨place, hplace, h⟩ := of_exec_lift_bind h
    obtain ⟨word, hword, h⟩ := of_exec_lift_bind h
    rw [keyOf?_of_named hname (by simpa using htrue) hplace hword] at hkey
    -- the place alone decides whether the parameter is skipped
    cases hp : word.bind Place.ofText? with
    | none =>
      simp only [hp] at h
      obtain ⟨plain, hplain, h⟩ := of_exec_lift_bind h
      obtain ⟨literal, hliteral, h⟩ := of_exec_lift_bind h
      obtain ⟨_, _, -, h⟩ := of_exec_bind h
      obtain ⟨rfl, -⟩ := exec_pure_eq_ok.1 h
      refine ⟨?_, ⟨v, hv⟩, fun description' raw' location hsame ↦ ?_⟩
      · rw [hkey, hp]
        rfl
      · unfold parseParameter
        refine .lift_bind (hsame.trans hv) (.lift_bind hname ?_)
        rw [if_neg htrue]
        refine .lift_bind hplace (.lift_bind hword ?_)
        simp only [hp]
        exact .lift_bind hplain (.lift_bind hliteral ((gives_remark _).bind (gives_pure _)))
    | some p =>
      simp only [hp] at h
      obtain ⟨described, hdescribed, h⟩ := of_exec_lift_bind h
      obtain ⟨prose, hprose, h⟩ := of_exec_lift_bind h
      obtain ⟨required, hrequired, h⟩ := of_exec_lift_bind h
      obtain ⟨shape, hshape, h⟩ := of_exec_lift_bind h
      obtain ⟨schema, hschema, h⟩ := of_exec_lift_bind h
      obtain ⟨rfl, -⟩ := exec_pure_eq_ok.1 h
      refine ⟨?_, ⟨v, hv⟩, fun description' raw' location hsame ↦ ?_⟩
      · rw [hkey, hp]
        rfl
      · unfold parseParameter
        refine .lift_bind (hsame.trans hv) (.lift_bind hname ?_)
        rw [if_neg htrue]
        refine .lift_bind hplace (.lift_bind hword ?_)
        simp only [hp]
        exact .lift_bind hdescribed (.lift_bind hprose (.lift_bind hrequired
          (.lift_bind hshape (.lift_bind hschema (gives_pure _)))))

theorem readsParameters_of_parseParameterList {location : Value} {raws : List Value}
    {ps : List Parameter} {ds ds₁ : List Diagnostic}
    (h : exec (parseParameterList description location raws) ds = (.ok ps, ds₁)) :
    ∃ reads, List.Forall₂ (ReadsParameter description) raws reads ∧ ps = reads.reduceOption := by
  induction raws generalizing ps ds ds₁ with
  | nil =>
    obtain ⟨rfl, -⟩ := exec_pure_eq_ok.1 h
    exact ⟨[], .nil, rfl⟩
  | cons raw raws ih =>
    unfold parseParameterList at h
    obtain ⟨p?, ds₂, hp, h⟩ := of_exec_bind h
    have hread := readsParameter_of_parseParameter hp
    cases p? with
    | none =>
      obtain ⟨reads, hreads, rfl⟩ := ih h
      exact ⟨none :: reads, .cons hread hreads, rfl⟩
    | some p =>
      obtain ⟨rest, ds₃, hrest, h⟩ := of_exec_bind h
      obtain ⟨rfl, -⟩ := exec_pure_eq_ok.1 h
      obtain ⟨reads, hreads, rfl⟩ := ih hrest
      exact ⟨some p :: reads, .cons hread hreads, rfl⟩

theorem gives_parseParameterList {location : Value} {raws : List Value}
    {reads : List (Option Parameter)}
    (h : List.Forall₂ (fun raw p? ↦ Gives (parseParameter description raw location) p?) raws
      reads) : Gives (parseParameterList description location raws) reads.reduceOption := by
  induction h with
  | nil => exact gives_pure []
  | @cons raw p? raws reads hp _ ih =>
    unfold parseParameterList
    refine hp.bind ?_
    cases p? with
    | none => exact ih
    | some p => exact ih.bind (gives_pure _)

/-! ## Parameters of a path item -/

section Merging

variable {own : List Value} {ownReads : List (Option Parameter)}

theorem any_parameterKey? (hown : List.Forall₂ (ReadsParameter description) own ownReads)
    (f : Value × Place → Bool) :
    (own.any fun q ↦ (parameterKey? description q).any f) =
      ownReads.reduceOption.any fun q ↦ f (q.name, q.place) := by
  induction hown with
  | nil => rfl
  | @cons q q? own ownReads hq _ ih =>
    rw [List.any_cons, ih, ← hq.key_eq]
    cases q? <;> rfl

/-- A kept parameter is overridden just if a kept one has its name and place; one that is skipped is
not. -/
theorem overridden_eq (hown : List.Forall₂ (ReadsParameter description) own ownReads)
    {p? : Option Parameter} (hp : ReadsParameter description raw p?) :
    overridden description own raw = p?.any fun p ↦
      ownReads.reduceOption.any fun q ↦ q.name.same p.name && q.place = p.place := by
  unfold overridden
  rw [← hp.key_eq]
  cases p? with
  | none => rfl
  | some p =>
    exact any_parameterKey? hown fun key ↦ key.1.same p.name && key.2 = p.place

/-- Leaving out the values that are overridden leaves out the parameters that are. -/
theorem exists_reads_filter (hown : List.Forall₂ (ReadsParameter description) own ownReads)
    {inherited : List Value} {reads : List (Option Parameter)}
    (h : List.Forall₂ (ReadsParameter description) inherited reads) :
    ∃ left, List.Forall₂ (ReadsParameter description)
        (inherited.filter (!overridden description own ·)) left ∧
      left.reduceOption = reads.reduceOption.filter fun p ↦
        !ownReads.reduceOption.any fun q ↦ q.name.same p.name && q.place = p.place := by
  induction h with
  | nil => exact ⟨[], .nil, rfl⟩
  | @cons raw p? inherited reads hp _ ih =>
    obtain ⟨left, hleft, hreduced⟩ := ih
    rw [List.filter_cons, overridden_eq hown hp]
    cases p? with
    | none => exact ⟨none :: left, .cons hp hleft, hreduced⟩
    | some p =>
      rw [List.reduceOption_cons_of_some, List.filter_cons, Option.any_some]
      split
      · exact ⟨some p :: left, .cons hp hleft, congrArg _ hreduced⟩
      · exact ⟨left, hleft, hreduced⟩

/-- The parameters that are written together are read as those that were merged. -/
theorem gives_inlinedParameters (hown : List.Forall₂ (ReadsParameter description) own ownReads)
    {inherited : List Value} {reads : List (Option Parameter)}
    (h : List.Forall₂ (ReadsParameter description) inherited reads) {ps : List Parameter}
    (hps : mergeParameters reads.reduceOption ownReads.reduceOption = .ok ps)
    (description' location : Value) :
    Gives (parseParameterList description' location
      (inlinedParameters description inherited own)) ps ∧
      mergeParameters [] ps = .ok ps := by
  obtain ⟨left, hleft, hreduced⟩ := exists_reads_filter hown h
  unfold mergeParameters at hps
  split at hps
  · next hhashable =>
    obtain rfl := Except.ok.inj hps
    constructor
    · rw [← hreduced, ← List.reduceOption_append]
      refine gives_parseParameterList (List.forall₂_map_left_iff.2 ?_)
      refine (List.rel_append hleft hown).imp fun raw p? hp ↦ ?_
      obtain ⟨found, hfound⟩ := hp.followed
      exact hp.gives _ _ _ ((follow_inlined hfound description').trans hfound.symm)
    · rw [List.all_append, Bool.and_eq_true] at hhashable
      unfold mergeParameters
      rw [if_pos]
      · rfl
      · rw [List.append_nil, List.all_append, Bool.and_eq_true]
        refine ⟨?_, hhashable.1⟩
        rw [List.all_eq_true] at hhashable ⊢
        exact fun p hp ↦ List.all_eq_true.1 hhashable.2 p (List.mem_of_mem_filter hp)
  · cases hps

end Merging

/-! ## Operations -/

theorem parseBody_inlined {v w : Value} {body : Option RequestBody}
    (h : parseBody description v = .ok body)
    (hfield : ∀ b, v.field? "requestBody" = .ok b →
      w.field? "requestBody" = .ok (b.map (inlined description))) :
    parseBody description' w = .ok body := by
  unfold parseBody at h ⊢
  obtain ⟨b, hb, h⟩ := Module.of_bind_eq_ok h
  rw [hfield b hb]
  cases b with
  | none => exact h
  | some raw =>
    obtain ⟨found, hfound, h⟩ := Module.of_bind_eq_ok h
    change (follow description' (inlined description raw) >>= _) = _
    rw [follow_inlined hfound]
    exact h

theorem parseResponses_inlined {entries : List (Value × Value)} {before responses : List Response}
    (h : parseResponses description entries before = .ok responses) :
    parseResponses description' (mapEntries (fun _ ↦ inlined description) entries) before =
      .ok responses := by
  induction entries generalizing before with
  | nil => exact h
  | cons entry entries ih =>
    obtain ⟨key, raw⟩ := entry
    unfold parseResponses at h
    obtain ⟨found, hfound, h⟩ := Module.of_bind_eq_ok h
    obtain ⟨status, hstatus, h⟩ := Module.of_bind_eq_ok h
    obtain ⟨field, hfield, h⟩ := Module.of_bind_eq_ok h
    obtain ⟨content, hcontent, h⟩ := Module.of_bind_eq_ok h
    obtain ⟨prose, hprose, h⟩ := Module.of_bind_eq_ok h
    change parseResponses description' ((key, inlined description raw) ::
      mapEntries (fun _ ↦ inlined description) entries) before = _
    unfold parseResponses
    rw [follow_inlined hfound, hstatus]
    change (found.field "content" >>= _) = _
    rw [hfield]
    change (parseContent field >>= _) = _
    rw [hcontent]
    change (proseField found "description" >>= _) = _
    rw [hprose]
    exact ih h

section Fields

variable (description) {es : List (Value × Value)} (hv : v.asMap? = some es)
  (inherited : List Value)

include hv

theorem inlinedOperation_of_asMap? :
    inlinedOperation description inherited v = .map (("parameters",
      .list (inlinedParameters description inherited (rawParameters v))) ::
        mapEntries (inlinedPart description) (without "parameters" es)) :=
  edited_of_asMap? _ hv

theorem field?_inlinedOperation {key : String} (hkey : key ≠ "parameters") :
    (inlinedOperation description inherited v).field? key =
      .ok ((lookup es key).map (inlinedPart description (.text key))) := by
  rw [inlinedOperation_of_asMap? description hv, field?_of_asMap? rfl, lookup_cons_text,
    if_neg hkey.symm, lookup_mapEntries, lookup_without_of_ne hkey]

/-- Whatever is neither a parameter nor the body nor a response is the same. -/
theorem field?_inlinedOperation_of_ne {key : String}
    (hkey : key ∉ ["parameters", "requestBody", "responses"]) :
    (inlinedOperation description inherited v).field? key = v.field? key := by
  simp only [List.mem_cons, List.not_mem_nil, or_false, not_or] at hkey
  obtain ⟨hparameters, hbody, hresponses⟩ := hkey
  have hpart : inlinedPart description (.text key) = fun w ↦ w := by
    funext w
    simp [inlinedPart, isText, hbody, hresponses]
  rw [field?_inlinedOperation description hv inherited hparameters, field?_of_asMap? hv, hpart,
    Option.map_id']

theorem field_inlinedOperation_of_ne {key : String}
    (hkey : key ∉ ["parameters", "requestBody", "responses"]) :
    (inlinedOperation description inherited v).field key = v.field key := by
  unfold Value.field
  rw [field?_inlinedOperation_of_ne description hv inherited hkey]

theorem field_inlinedOperation_parameters :
    (inlinedOperation description inherited v).field "parameters" =
      .ok (.list (inlinedParameters description inherited (rawParameters v))) := by
  rw [inlinedOperation_of_asMap? description hv, field_of_asMap? rfl, lookup_cons_text, if_pos rfl]
  rfl

theorem field?_inlinedOperation_requestBody {b : Option Value}
    (hb : v.field? "requestBody" = .ok b) :
    (inlinedOperation description inherited v).field? "requestBody" =
      .ok (b.map (inlined description)) := by
  rw [field?_of_asMap? hv] at hb
  rw [field?_inlinedOperation description hv inherited (by decide), Except.ok.inj hb]
  rfl

theorem field_inlinedOperation_responses {r : Value} (hr : v.field "responses" = .ok r) :
    (inlinedOperation description inherited v).field "responses" =
      .ok (r.edited (mapEntries fun _ ↦ inlined description)) := by
  rw [field_of_asMap? hv] at hr
  unfold Value.field
  rw [field?_inlinedOperation description hv inherited (by decide), ← Except.ok.inj hr]
  cases lookup es "responses" <;> rfl

end Fields

theorem rawParameters_of_items {v raws : Value} {items : List Value}
    (hraws : v.field "parameters" = .ok raws) (hitems : raws.orEmptyList.items = .ok items) :
    rawParameters v = items := by
  unfold rawParameters
  rw [hraws]
  change (raws.orEmptyList.items).toOption.getD [] = items
  rw [hitems]
  rfl

/-- An operation that is spelled out is read as the operation with the parameters of its path
item. -/
theorem gives_parse {path : Value} {method : String} {v : Value} (hobject : v.asMap?.isSome)
    {inherited : List Value} {reads : List (Option Parameter)}
    (hinherited : List.Forall₂ (ReadsParameter description) inherited reads)
    {ds ds₁ : List Diagnostic} {op : Operation}
    (h : exec (parse description path method v reads.reduceOption options) ds = (.ok op, ds₁)) :
    Gives (parse description' path method (inlinedOperation description inherited v) [] options)
      op := by
  obtain ⟨es, hv⟩ := Option.isSome_iff_exists.1 hobject
  unfold parse at h
  obtain ⟨plain, hplain, h⟩ := of_exec_lift_bind h
  obtain ⟨tags, htags, h⟩ := of_exec_lift_bind h
  obtain ⟨tag, ds₂, htag, h⟩ := of_exec_bind h
  obtain ⟨declared, hdeclared, h⟩ := of_exec_lift_bind h
  obtain ⟨id, ds₃, hid, h⟩ := of_exec_bind h
  obtain ⟨raws, hraws, h⟩ := of_exec_lift_bind h
  obtain ⟨own, ds₄, hown, h⟩ := of_exec_bind h
  obtain ⟨body, hbody, h⟩ := of_exec_lift_bind h
  obtain ⟨field, hfield, h⟩ := of_exec_lift_bind h
  obtain ⟨entries, hentries, h⟩ := of_exec_lift_bind h
  obtain ⟨responses, hresponses, h⟩ := of_exec_lift_bind h
  obtain ⟨parameters, hparameters, h⟩ := of_exec_lift_bind h
  obtain ⟨summary, hsummary, h⟩ := of_exec_lift_bind h
  obtain ⟨prose, hprose, h⟩ := of_exec_lift_bind h
  obtain ⟨deprecated, hdeprecated, h⟩ := of_exec_lift_bind h
  obtain ⟨rfl, -⟩ := exec_pure_eq_ok.1 h
  obtain ⟨items, hitems, hlist⟩ := of_exec_lift_bind hown
  obtain ⟨ownReads, hownReads, rfl⟩ := readsParameters_of_parseParameterList hlist
  obtain ⟨hgives, hmerged⟩ := gives_inlinedParameters hownReads hinherited hparameters description'
    (.text (upperText method ++ " " ++ plain))
  rw [← rawParameters_of_items hraws hitems] at hgives
  unfold parse
  refine .lift_bind hplain (.lift_bind ?_ ((gives_of_exec (mirrors_parseTag _ _ _) htag).bind
    (.lift_bind ?_ ((gives_of_exec (mirrors_parseId _ _ _ _) hid).bind
      (.lift_bind (field_inlinedOperation_parameters description hv inherited)
        ((Gives.lift_bind (items_orEmptyList _) hgives).bind ?_))))))
  · unfold parseTags at htags ⊢
    rw [field_inlinedOperation_of_ne description hv inherited (by decide)]
    exact htags
  · rw [field_inlinedOperation_of_ne description hv inherited (by decide)]
    exact hdeclared
  refine .lift_bind (parseBody_inlined hbody
    fun b hb ↦ field?_inlinedOperation_requestBody description hv inherited hb) ?_
  refine .lift_bind (field_inlinedOperation_responses description hv inherited hfield)
    (.lift_bind (entries_edited _ hentries) (.lift_bind (parseResponses_inlined hresponses)
      (.lift_bind hmerged (.lift_bind ?_ (.lift_bind ?_ (.lift_bind ?_ (gives_pure _)))))))
  · unfold proseField at hsummary ⊢
    rw [field?_inlinedOperation_of_ne description hv inherited (by decide)]
    exact hsummary
  · unfold proseField at hprose ⊢
    rw [field?_inlinedOperation_of_ne description hv inherited (by decide)]
    exact hprose
  · rw [field_inlinedOperation_of_ne description hv inherited (by decide)]
    exact hdeprecated

/-! ## Path items -/

/-- The entries of a path item spelled out, with the parameters that it had. -/
def inlinedMethods (description : Value) (inherited : List Value) (es : List (Value × Value)) :
    List (Value × Value) :=
  mapEntries (fun key v ↦
    if methods.any key.isText then inlinedOperation description inherited v else v)
    (without "parameters" es)

theorem lookup_inlinedMethods_of_mem {inherited : List Value} {es : List (Value × Value)}
    {method : String} (h : method ∈ methods) :
    lookup (inlinedMethods description inherited es) method =
      (lookup es method).map (inlinedOperation description inherited) := by
  have hother : method ≠ "parameters" := by
    rintro rfl
    exact absurd h (by decide)
  have hany : methods.any (Value.text method).isText = true :=
    List.any_eq_true.2 ⟨method, h, by simp [isText]⟩
  rw [inlinedMethods, lookup_mapEntries, lookup_without_of_ne hother]
  simp only [hany, if_true]

theorem lookup_inlinedMethods_parameters (inherited : List Value) (es : List (Value × Value)) :
    lookup (inlinedMethods description inherited es) "parameters" = none := by
  rw [inlinedMethods, lookup_mapEntries, lookup_without_self, Option.map_none]

theorem lookup_inlinedMethods_ref (inherited : List Value) {es : List (Value × Value)}
    (h : lookup es "$ref" = none) :
    lookup (inlinedMethods description inherited es) "$ref" = none := by
  rw [inlinedMethods, lookup_mapEntries, lookup_without_of_ne (by decide), h, Option.map_none]

/-- A path item that is spelled out stands for itself or for nothing, and in every description for
the object that the path item stands for, spelled out. -/
theorem exists_follow_inlinedItem (description raw : Value) :
    ∃ inherited es, (inlinedItem description raw).pointer? = none ∧
      (∀ description', follow description' (inlinedItem description raw) =
        .ok (.map (inlinedMethods description inherited es))) ∧
      ∀ item, follow description raw = .ok item →
        item.asMap? = some es ∧ rawParameters item = inherited := by
  rcases (inlined description raw).other_or_isTarget_or_pointer with hother | htarget | hpointer
  · have hinlined : inlinedItem description raw = inlined description raw :=
      edited_of_asMap?_eq_none _ hother
    rw [hinlined]
    refine ⟨rawParameters (.map []), [], pointer?_inlined description raw,
      fun _ ↦ follow_of_other hother, fun item hitem ↦ ?_⟩
    have hempty := (follow_inlined hitem description).symm.trans (follow_of_other hother)
    obtain rfl := Except.ok.inj hempty
    exact ⟨rfl, rfl⟩
  · obtain ⟨es, hes, href⟩ := htarget
    have hinlined : inlinedItem description raw =
        .map (inlinedMethods description (rawParameters (inlined description raw)) es) :=
      edited_of_asMap? _ hes
    have hplain : (inlinedItem description raw).IsTarget := by
      rw [hinlined]
      exact ⟨_, rfl, lookup_inlinedMethods_ref _ href⟩
    refine ⟨rawParameters (inlined description raw), es, hplain.pointer?_eq_none,
      fun _ ↦ hinlined ▸ follow_of_isTarget hplain, fun item hitem ↦ ?_⟩
    have hsame := (follow_inlined hitem description).symm.trans
      (follow_of_isTarget ⟨es, hes, href⟩)
    obtain rfl := Except.ok.inj hsame
    exact ⟨hes, rfl⟩
  · obtain ⟨pointer, hpointer⟩ := hpointer
    cases (pointer?_inlined description raw).symm.trans hpointer

theorem field_inlinedMethods_of_mem (description : Value) (inherited : List Value)
    (es : List (Value × Value))
    {method : String} (h : method ∈ methods) :
    (Value.map (inlinedMethods description inherited es)).field method =
      .ok (inlinedOperation description inherited ((lookup es method).getD .null)) := by
  rw [field_of_asMap? rfl, lookup_inlinedMethods_of_mem h]
  cases lookup es method <;> rfl

theorem field_inlinedMethods_parameters (inherited : List Value) (es : List (Value × Value)) :
    (Value.map (inlinedMethods description inherited es)).field "parameters" = .ok .null := by
  rw [field_of_asMap? rfl, lookup_inlinedMethods_parameters]
  rfl

theorem gives_parseMethods {path item : Value} {es : List (Value × Value)}
    (hitem : item.asMap? = some es) {inherited : List Value} {reads : List (Option Parameter)}
    (hinherited : List.Forall₂ (ReadsParameter description) inherited reads) {ms : List String}
    (hms : ms ⊆ methods) {ds ds₁ : List Diagnostic} {ops : List Operation}
    (h : exec (parseMethods description path item reads.reduceOption options ms) ds =
      (.ok ops, ds₁)) :
    Gives (parseMethods description' path (.map (inlinedMethods description inherited es)) []
      options ms) ops := by
  induction ms generalizing ds ds₁ ops with
  | nil =>
    obtain ⟨rfl, -⟩ := exec_pure_eq_ok.1 h
    exact gives_pure []
  | cons m ms ih =>
    obtain ⟨hm, hms⟩ := List.cons_subset.1 hms
    have hv := field_of_asMap? hitem m
    have hv' := field_inlinedMethods_of_mem description inherited es hm
    by_cases hobject : ((lookup es m).getD .null).asMap?.isSome = true
    · rw [parseMethods_cons_of_object hv hobject] at h
      obtain ⟨op, ds₂, hop, h⟩ := of_exec_bind h
      obtain ⟨rest, ds₃, hrest, h⟩ := of_exec_bind h
      obtain ⟨rfl, -⟩ := exec_pure_eq_ok.1 h
      obtain ⟨fs, hfs⟩ := Option.isSome_iff_exists.1 hobject
      rw [parseMethods_cons_of_object hv' (by rw [inlinedOperation_of_asMap? description hfs]; rfl)]
      exact (gives_parse hobject hinherited hop).bind ((ih hms hrest).bind (gives_pure _))
    · have hother := Option.not_isSome_iff_eq_none.1 hobject
      rw [parseMethods_cons_of_none hv hobject] at h
      rw [inlinedOperation, edited_of_asMap?_eq_none _ hother] at hv'
      rw [parseMethods_cons_of_none hv' hobject]
      exact ih hms h

theorem gives_parsePaths {entries : List (Value × Value)} {ds ds₁ : List Diagnostic}
    {ops : List Operation}
    (h : exec (parsePaths description options entries) ds = (.ok ops, ds₁)) :
    Gives (parsePaths description' options (mapEntries (fun _ ↦ inlinedItem description) entries))
      ops := by
  induction entries generalizing ds ds₁ ops with
  | nil =>
    obtain ⟨rfl, -⟩ := exec_pure_eq_ok.1 h
    exact gives_pure []
  | cons entry entries ih =>
    obtain ⟨path, raw⟩ := entry
    unfold parsePaths at h
    obtain ⟨item, hitem, h⟩ := of_exec_lift_bind h
    obtain ⟨raws, hraws, h⟩ := of_exec_lift_bind h
    obtain ⟨inherited, ds₂, hinherited, h⟩ := of_exec_bind h
    obtain ⟨here, ds₃, hhere, h⟩ := of_exec_bind h
    obtain ⟨rest, ds₄, hrest, h⟩ := of_exec_bind h
    obtain ⟨rfl, -⟩ := exec_pure_eq_ok.1 h
    obtain ⟨items, hitems, hlist⟩ := of_exec_lift_bind hinherited
    obtain ⟨reads, hreads, rfl⟩ := readsParameters_of_parseParameterList hlist
    obtain ⟨_, es, -, hfollow, hsame⟩ := exists_follow_inlinedItem description raw
    obtain ⟨hes, rfl⟩ := hsame item hitem
    rw [rawParameters_of_items hraws hitems] at hfollow
    change Gives (parsePaths description' options ((path, inlinedItem description raw) ::
      mapEntries (fun _ ↦ inlinedItem description) entries)) _
    unfold parsePaths
    exact .lift_bind (hfollow _) (.lift_bind (field_inlinedMethods_parameters _ _) (Gives.bind
      (Gives.lift_bind rfl (gives_pure [])) ((gives_parseMethods hes hreads (List.Subset.refl _)
        hhere).bind ((ih hrest).bind (gives_pure _)))))

/-! ## Descriptions -/

theorem field_spelledOut {w : Value} {key : String} (h : description.field key = .ok w) :
    (spelledOut description).field key =
      .ok (if key = "paths" then w.edited (mapEntries fun _ ↦ inlinedItem description) else w) := by
  obtain ⟨es, hes⟩ := exists_asMap?_of_field h
  rw [field_of_asMap? hes] at h
  unfold spelledOut
  rw [edited_of_asMap? _ hes, field_of_asMap? rfl, lookup_mapEntries, ← Except.ok.inj h]
  cases lookup es key with
  | none =>
    rw [Option.map_none, Option.getD_none]
    split <;> rfl
  | some w => simp [isText]

/-- No value under the paths of a description stands for another one, and no path item has
parameters. -/
structure IsSpelledOut (description : Value) : Prop where
  plain : ∀ entries, (do (← Description.paths description).entries) = .ok entries →
    ∀ e ∈ entries, ∀ raw ∈ rawPartsUnder description e.2, raw.pointer? = none
  unshared : ∀ entries, (do (← Description.paths description).entries) = .ok entries →
    ∀ e ∈ entries, ∀ item, follow description e.2 = .ok item → rawParameters item = []

theorem plain_rawParts (inherited : List Value) (v : Value) :
    ∀ raw ∈ rawParts (inlinedOperation description inherited v), raw.pointer? = none := by
  cases hv : v.asMap? with
  | none =>
    have herror : ∀ key, v.field? key = .error .noSuchPart := by
      intro key
      unfold field? entries
      rw [hv]
      rfl
    have hnone : rawParts v = [] := by
      simp [rawParts, rawParameters, Value.field, herror, Except.map, Except.toOption, bind,
        Except.bind]
    rw [inlinedOperation, edited_of_asMap?_eq_none _ hv, hnone]
    exact List.forall_mem_nil _
  | some es =>
    have hparameters := rawParameters_of_items
      (field_inlinedOperation_parameters description hv inherited) (items_orEmptyList _)
    have hbody := field?_inlinedOperation_requestBody description hv inherited
      (field?_of_asMap? hv "requestBody")
    have hresponses := field_inlinedOperation_responses description hv inherited
      (field_of_asMap? hv "responses")
    unfold rawParts
    rw [hparameters, hbody, hresponses]
    refine List.forall_mem_append.2 ⟨List.forall_mem_append.2 ⟨?_, ?_⟩, ?_⟩
    · exact List.forall_mem_map.2 fun raw _ ↦ pointer?_inlined description raw
    · cases lookup es "requestBody" with
      | none => exact List.forall_mem_nil _
      | some raw => exact List.forall_mem_singleton.2 (pointer?_inlined description raw)
    · change ∀ raw ∈ (Except.toOption (Value.edited (mapEntries fun _ ↦ inlined description)
        ((lookup es "responses").getD .null)).orEmptyMap.entries).getD [] |>.map (·.2), _
      cases hentries : (Value.edited (mapEntries fun _ ↦ inlined description)
        ((lookup es "responses").getD .null)).orEmptyMap.entries with
      | error fault => exact List.forall_mem_nil _
      | ok fs =>
        obtain ⟨gs, rfl⟩ := exists_mapEntries_of_edited hentries
        exact List.forall_mem_map.2 fun e he ↦ by
          obtain ⟨f, -, rfl⟩ := List.mem_map.1 he
          exact pointer?_inlined description f.2

theorem exists_inlinedItem_of_mem {entries : List (Value × Value)}
    (h : (do (← Description.paths (spelledOut description)).entries) = .ok entries)
    {e : Value × Value} (he : e ∈ entries) : ∃ raw, e.2 = inlinedItem description raw := by
  obtain ⟨paths, hpaths, h⟩ := Module.of_bind_eq_ok h
  obtain ⟨w, hw, hpaths⟩ := Module.of_bind_eq_ok hpaths
  obtain rfl := Except.ok.inj hpaths
  cases hdescription : description.asMap? with
  | none =>
    obtain ⟨es, hes⟩ := exists_asMap?_of_field hw
    rw [spelledOut, edited_of_asMap?_eq_none _ hdescription] at hes
    cases hdescription.symm.trans hes
  | some es =>
    rw [field_spelledOut (field_of_asMap? hdescription "paths")] at hw
    obtain rfl := Except.ok.inj hw
    obtain ⟨fs, rfl⟩ := exists_mapEntries_of_edited h
    obtain ⟨f, -, rfl⟩ := List.mem_map.1 he
    exact ⟨f.2, rfl⟩

theorem isSpelledOut_spelledOut (description : Value) : IsSpelledOut (spelledOut description) := by
  constructor
  · intro entries hentries e he
    obtain ⟨raw, hraw⟩ := exists_inlinedItem_of_mem hentries he
    obtain ⟨inherited, es, hplain, hfollow, -⟩ := exists_follow_inlinedItem description raw
    rw [hraw, rawPartsUnder, hfollow]
    refine List.forall_mem_cons.2 ⟨hplain, List.forall_mem_append.2 ⟨?_, ?_⟩⟩
    · rw [rawParameters_of_items (field_inlinedMethods_parameters inherited es) rfl]
      exact List.forall_mem_nil _
    · intro part hpart
      obtain ⟨method, hmethod, hpart⟩ := List.mem_flatMap.1 hpart
      rw [field_inlinedMethods_of_mem description inherited es hmethod] at hpart
      exact plain_rawParts inherited _ part hpart
  · intro entries hentries e he item hitem
    obtain ⟨raw, hraw⟩ := exists_inlinedItem_of_mem hentries he
    obtain ⟨inherited, es, -, hfollow, -⟩ := exists_follow_inlinedItem description raw
    rw [hraw, hfollow] at hitem
    rw [← Except.ok.inj hitem]
    exact rawParameters_of_items (field_inlinedMethods_parameters inherited es) rfl

/-- Other entries of a description are the same when it is spelled out. -/
theorem field_spelledOut_of_ne {key : String} (h : key ≠ "paths") :
    (spelledOut description).field key = description.field key := by
  cases hdescription : description.asMap? with
  | none => rw [spelledOut, edited_of_asMap?_eq_none _ hdescription]
  | some es =>
    rw [field_spelledOut (field_of_asMap? hdescription key), if_neg h,
      field_of_asMap? hdescription]

/-- A description whose operations can be read has the same operations as the one that is spelled
out, where nothing is left to be followed or to be shared under the paths, and where the rest is the
same. -/
theorem exec_parseAll_spelledOut {ds ds₁ : List Diagnostic} {ops : List Operation}
    (h : exec (parseAll description options) ds = (.ok ops, ds₁)) :
    (∃ ds₂, exec (parseAll (spelledOut description) options) ds = (.ok ops, ds₂)) ∧
      IsSpelledOut (spelledOut description) ∧
      ∀ key ≠ "paths", (spelledOut description).field key = description.field key := by
  refine ⟨?_, isSpelledOut_spelledOut description, fun key hkey ↦ field_spelledOut_of_ne hkey⟩
  unfold parseAll at h
  obtain ⟨paths, hpaths, h⟩ := of_exec_lift_bind h
  obtain ⟨entries, hentries, hread⟩ := of_exec_lift_bind h
  obtain ⟨w, hw, hpaths⟩ := Module.of_bind_eq_ok hpaths
  obtain rfl := Except.ok.inj hpaths
  have hentries' : (do (← Description.paths (spelledOut description)).entries) =
      Except.ok (mapEntries (fun _ ↦ inlinedItem description) entries) := by
    unfold Description.paths
    rw [field_spelledOut hw]
    exact entries_edited _ hentries
  rw [parseAll_eq hentries']
  exact gives_parsePaths hread ds

/-- A reference to a part among the components. -/
def referenceTo (part : String) : Value := .map [("$ref", .text ("#/components/" ++ part))]

/-- A path item behind a reference, with parameters behind chains of references of which one comes
to an end and one does not, a cookie, and an operation that has a parameter of its own in place of
one of them. -/
def sharing : Value := .map [
  ("components", .map [
    ("items", .map [("Pets", .map [
      ("parameters", .list [referenceTo "parameters/Limit", referenceTo "parameters/Back",
        .map [("name", "session"), ("in", "cookie")], .map [("name", "id"), ("in", "path")]]),
      ("get", .map [
        ("operationId", "pets"), ("tags", .list ["pets"]),
        ("parameters", .list [.map [("name", "id"), ("in", "path"), ("description", "A pet.")],
          .map [("name", "limit"), ("in", "body")]]),
        ("responses", .map [("200", referenceTo "responses/Pets")])])])]),
    ("parameters", .map [
      ("Limit", referenceTo "parameters/Size"), ("Size", .map [("name", "limit")]),
      ("Back", referenceTo "parameters/Forth"), ("Forth", referenceTo "parameters/Back")]),
    ("responses", .map [("Pets", .map [("description", "Pets.")])])]),
  ("paths", .map [("/pets", referenceTo "items/Pets")])]

theorem exec_parseAll_sharing :
    ∃ ops ds₁, exec (parseAll sharing {}) [] = (.ok ops, ds₁) ∧
      ops.map (fun op ↦ (op.parameters.map fun p ↦ (p.name.plain, p.description.plain),
        op.responses.map (·.description))) =
        [([("limit", ""), ("id", "A pet.")], ["Pets."])] ∧
      (∃ ds₂, exec (parseAll (spelledOut sharing) {}) [] = (.ok ops, ds₂)) ∧
      IsSpelledOut (spelledOut sharing) := by
  have hresult : (exec (parseAll sharing {}) []).1.toOption.map (fun ops ↦
      ops.map (fun op ↦ (op.parameters.map fun p ↦ (p.name.plain, p.description.plain),
        op.responses.map (·.description)))) =
      some [([("limit", ""), ("id", "A pet.")], ["Pets."])] := by
    with_unfolding_all rfl
  obtain ⟨ops, ds₁, hops, hparameters⟩ := exists_exec_of_map hresult
  obtain ⟨hsame, hspelled, -⟩ := exec_parseAll_spelledOut hops
  exact ⟨ops, ds₁, hops, hparameters, hsame, hspelled⟩

end ApiClient.Operation
