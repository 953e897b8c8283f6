import ApiClient.Proofs.Draft.Repetition
import ApiClient.Proofs.Schema.Expressible

/-!
# Renderings that come to a conclusion

A rendering of a type that can be written out has one of two outcomes, whatever the draft is: an
annotation, or a chain of references that returns to itself. Its choices have literals, the names of
its fields are texts and fit into raw names, and only walks along references are left to fail.
-/

namespace ApiClient

open Work Draft Drafting

variable {components : Components} {α β : Type}

namespace Drafting

/-! ## Conclusions -/

/-- From this draft the work has a result of some kind, or it ends in a chain of references that
returns to itself. -/
inductive Concludes (x : Drafting α) (d : Draft) (Q : α → Draft → Prop) : Prop where
  | result {a : α} {d' : Draft} : exec x d = (.ok a, d') → Q a d' → Concludes x d Q
  | recursive {chain : List String} {d' : Draft} :
      exec x d = (.error (.recursiveSchema chain), d') → Concludes x d Q

/-- From every draft the work has a result, or it ends in a chain that returns to itself. -/
abbrev Ends (x : Drafting α) : Prop := ∀ d, Concludes x d fun _ _ ↦ True

theorem concludes_pure {a : α} {d : Draft} {Q : α → Draft → Prop} (h : Q a d) :
    Concludes (pure a) d Q :=
  .result (exec_pure a d) h

theorem ends_pure (a : α) : Ends (pure a) := fun _ ↦ concludes_pure trivial

theorem ends_lift {e : Except Fault α} (h : ∃ a, e = .ok a) : Ends (liftM e : Drafting α) := by
  obtain ⟨a, rfl⟩ := h
  exact ends_pure a

/-- A second step starts from the result of the first, if that has one. -/
theorem Concludes.bind {x : Drafting α} {f : α → Drafting β} {d : Draft} {Q : α → Draft → Prop}
    {Q' : β → Draft → Prop} (hx : Concludes x d Q)
    (hf : ∀ a d', exec x d = (.ok a, d') → Q a d' → Concludes (f a) d' Q') :
    Concludes (x >>= f) d Q' := by
  cases hx with
  | recursive hexec => exact .recursive (exec_bind_of_error hexec f)
  | result hexec ha =>
    have hstep := exec_bind_of_ok hexec f
    cases hf _ _ hexec ha with
    | result hexec' hb => exact .result (hstep.trans hexec') hb
    | recursive hexec' => exact .recursive (hstep.trans hexec')

/-- Work that recovers from chains that return to themselves has a result. -/
theorem Concludes.recover {x : Drafting α} {f : Fault → Drafting α} {d : Draft}
    {Q : α → Draft → Prop} (hx : Concludes x d Q)
    (hf : ∀ chain d', ∃ a d'', exec (f (.recursiveSchema chain)) d' = (.ok a, d'') ∧ Q a d'') :
    ∃ a d', exec (tryCatch x f) d = (.ok a, d') ∧ Q a d' := by
  have hcaught := exec_catch x f d
  cases hx with
  | result hexec ha =>
    rw [hexec] at hcaught
    exact ⟨_, _, hcaught, ha⟩
  | recursive hexec =>
    obtain ⟨a, d'', hrecovered, ha⟩ := hf _ _
    rw [hexec] at hcaught
    exact ⟨a, d'', hcaught.trans hrecovered, ha⟩

theorem Ends.bind {x : Drafting α} {f : α → Drafting β} (hx : Ends x) (hf : ∀ a, Ends (f a)) :
    Ends (x >>= f) :=
  fun d ↦ (hx d).bind fun a d' _ _ ↦ hf a d'

theorem Ends.mapM {f : α → Drafting β} {as : List α} (hf : ∀ a ∈ as, Ends (f a)) :
    Ends (as.mapM f) := by
  induction as with
  | nil =>
    rw [List.mapM_nil]
    exact ends_pure []
  | cons a as ih =>
    obtain ⟨ha, has⟩ := List.forall_mem_cons.1 hf
    rw [List.mapM_cons]
    exact ha.bind fun b ↦ Ends.bind (ih has) fun bs ↦ ends_pure (b :: bs)

theorem ends_get : Ends (get : Drafting Draft) := fun _ ↦ .result rfl trivial

theorem ends_identify (raw : String) : Ends (identify raw) := fun _ ↦ .result rfl trivial

theorem ends_report (x : Diagnostic) : Ends (report x) := fun _ ↦ .result rfl trivial

theorem ends_declare (x : Declaration) : Ends (declare x) := fun _ ↦ .result rfl trivial

theorem ends_follow (w : Walk α) : Ends (follow w) := by
  intro d
  have hexec := exec_follow w d
  cases hw : w.outcome with
  | ok a => exact .result (by rw [hexec, hw]; rfl) trivial
  | error chain => exact .recursive (by rw [hexec, hw]; rfl)

theorem ends_basesOf (raws bases : List String) : Ends (basesOf components raws bases) := by
  induction raws generalizing bases with
  | nil => exact ends_pure bases
  | cons raw raws ih =>
    unfold basesOf
    apply (ends_follow _).bind
    rintro (_ | root)
    · exact ih bases
    · exact (ends_identify root).bind fun _ ↦ ih _

/-! ## Literals and names -/

theorem exists_literal? {v : Value} (h : v.writable = true) : ∃ text, v.literal? = .ok text :=
  ⟨v.literal, by rw [Value.literal?, if_pos h]⟩

theorem exists_plain? {v : Value} (h : v.isWord = true) : ∃ text, v.plain? = .ok text :=
  ⟨v.plain, by rw [Value.plain?, if_pos (Value.writable_of_isWord h)]⟩

/-- Whether a class can have fields of some names is known when they are texts. -/
theorem exists_anyUnfit {fields : List (Field String)} (h : ∀ f ∈ fields, f.name.isWord = true) :
    ∃ unfit, anyUnfit fields = .ok unfit := by
  induction fields with
  | nil => exact ⟨false, rfl⟩
  | cons f fields ih =>
    obtain ⟨hname, hnames⟩ := List.forall_mem_cons.1 h
    rw [anyUnfit]
    split
    · split
      · exact ih hnames
      · exact ⟨true, rfl⟩
    · next hno =>
      cases hvalue : f.name with
      | text name => exact absurd hvalue (hno name)
      | _ =>
        rw [hvalue] at hname
        cases hname

theorem isWord_of_mem_putField {fields : List (Field String)} {new : Field String}
    (h : ∀ f ∈ fields, f.name.isWord = true) (hnew : new.name.isWord = true) :
    ∀ f ∈ putField fields new, f.name.isWord = true := by
  intro f hf
  obtain rfl | hf := mem_putField hf
  · exact hnew
  · exact h f hf

theorem ends_declareClass (raw : String) {c : RecordClass}
    (h : ∀ f ∈ c.fields, f.name.isWord = true) : Ends (declareClass raw c) := by
  unfold declareClass
  apply (ends_lift (exists_anyUnfit h)).bind
  intro functional
  split
  · exact (ends_report _).bind fun _ ↦ ends_declare _
  · exact ends_declare _

end Drafting

/-! ## Renderings -/

namespace Rendering

mutual

/-- The rendering of a type that can be written out comes to a conclusion. -/
theorem ends_work (r : Rendering) (h : r.type.expressible = true) : Ends (r.work components) := by
  have hshape := TypeExpr.expressible_collapse r.type h
  rw [work_eq]
  revert hshape
  match hcollapse : r.type.collapse with
  | .anything | .binary | .scalar _ | .named _ _ => exact fun _ ↦ ends_pure _
  | .literal choices =>
    intro hchoices
    rw [TypeExpr.expressible, List.all_eq_true] at hchoices
    have hliterals : Ends (choices.mapM fun v ↦ (liftM v.literal? : Drafting String)) :=
      Ends.mapM fun v hv ↦ ends_lift (exists_literal? (hchoices v hv))
    exact hliterals.bind fun _ ↦ ends_pure _
  | .sequence element =>
    intro helement
    rw [TypeExpr.expressible] at helement
    have hless := TypeExpr.size_lt_of_sequence hcollapse
    have hitem : Ends (render components element (r.raw ++ " item")) :=
      ends_work ⟨r.draft, element, r.raw ++ " item"⟩ helement
    exact hitem.bind fun _ ↦ ends_pure _
  | .union members =>
    intro hmembers
    rw [TypeExpr.expressible] at hmembers
    have hless := TypeExpr.size_lt_of_union hcollapse
    exact ends_renderUnion members hmembers r.raw 1 []
  | .record [] extra =>
    intro hrecord
    rw [TypeExpr.expressible, Bool.and_eq_true] at hrecord
    have hless := TypeExpr.size_lt_of_record hcollapse
    exact (ends_renderExtra extra hrecord.2 (r.raw ++ " value")).bind fun _ ↦ ends_pure _
  | .record (f :: fields) extra =>
    intro hrecord
    rw [TypeExpr.expressible, Bool.and_eq_true] at hrecord
    have hless := TypeExpr.size_lt_of_record hcollapse
    exact ends_declareRecord r.raw (f :: fields) hrecord.1 [] extra hrecord.2
  | .intersection members =>
    intro hmembers
    rw [TypeExpr.expressible] at hmembers
    have hless := TypeExpr.size_lt_of_intersection hcollapse
    have hgathered := Contribution.expressible_ofMembers hmembers
    rw [Contribution.expressible, Bool.and_eq_true] at hgathered
    apply (ends_follow _).bind
    intro isRecord
    split
    · exact (ends_basesOf _ _).bind fun bases ↦
        ends_declareRecord r.raw _ hgathered.1 bases _ hgathered.2
    · exact (ends_report _).bind fun _ ↦ ends_pure _
termination_by 4 * r.type.size
decreasing_by
  all_goals omega

theorem ends_renderUnion (members : List TypeExpr) (h : TypeExpr.allExpressible members = true)
    (raw : String) (index : Nat) (rendered : List String) :
    Ends (renderUnion components members raw index rendered) := by
  match members with
  | [] =>
    rw [renderUnion]
    exact ends_pure _
  | e :: es =>
    rw [TypeExpr.allExpressible, Bool.and_eq_true] at h
    rw [renderUnion]
    have hpos := e.size_pos
    have hoption : Ends (render components e (raw ++ " option " ++ index.repr)) :=
      ends_work ⟨.empty, e, raw ++ " option " ++ index.repr⟩ h.1
    apply hoption.bind
    intro text
    split
    · exact ends_pure _
    · exact ends_renderUnion es h.2 raw (index + 1) _
termination_by 4 * TypeExpr.sizeOfAll members + 1
decreasing_by
  all_goals
    simp only [TypeExpr.sizeOfAll]
    omega

theorem ends_declareRecord (raw : String) (fields : List (Field TypeExpr))
    (hfields : TypeExpr.fieldsExpressible fields = true) (bases : List String)
    (extra : Option TypeExpr) (hextra : TypeExpr.optionExpressible extra = true) :
    Ends (declareRecord components raw fields bases extra) := by
  rw [declareRecord]
  apply (ends_identify raw).bind
  intro name
  apply ends_get.bind
  intro d
  split
  · exact ends_pure name
  · have hrendered := concludes_renderFields raw fields hfields [] (by simp)
    refine fun d ↦ (hrendered d).bind fun rendered d' _ hnames ↦ ?_
    apply Ends.bind (ends_renderExtra extra hextra (raw ++ " value"))
    intro extra'
    exact (ends_declareClass raw hnames).bind fun _ ↦ ends_pure name
termination_by 4 * (TypeExpr.sizeOfFields fields + TypeExpr.sizeOfOption extra) + 2

/-- The rendered fields are named by texts, as the fields are. -/
theorem concludes_renderFields (raw : String) (fields : List (Field TypeExpr))
    (h : TypeExpr.fieldsExpressible fields = true) (rendered : List (Field String))
    (hrendered : ∀ f ∈ rendered, f.name.isWord = true) (d : Draft) :
    Concludes (renderFields components raw fields rendered) d
      fun fields' _ ↦ ∀ f ∈ fields', f.name.isWord = true := by
  match fields with
  | [] =>
    rw [renderFields]
    exact concludes_pure hrendered
  | ⟨name, required, e⟩ :: fields =>
    rw [TypeExpr.fieldsExpressible, Bool.and_eq_true, Bool.and_eq_true] at h
    obtain ⟨⟨hname, he⟩, hfields⟩ := h
    rw [renderFields]
    have hpos := e.size_pos
    apply (ends_lift (exists_plain? hname) d).bind
    intro plain d' _ _
    have hfield : Ends (render components e (raw ++ " " ++ plain)) :=
      ends_work ⟨d', e, raw ++ " " ++ plain⟩ he
    exact (hfield d').bind fun hint d'' _ _ ↦
      concludes_renderFields raw fields hfields _ (isWord_of_mem_putField hrendered hname) d''
termination_by 4 * TypeExpr.sizeOfFields fields + 1
decreasing_by
  all_goals
    simp only [TypeExpr.sizeOfFields]
    omega

theorem ends_renderExtra (extra : Option TypeExpr) (h : TypeExpr.optionExpressible extra = true)
    (raw : String) : Ends (renderExtra components extra raw) := by
  match extra with
  | none =>
    rw [renderExtra]
    exact ends_pure none
  | some e =>
    rw [TypeExpr.optionExpressible] at h
    rw [renderExtra]
    have hextra : Ends (render components e raw) := ends_work ⟨.empty, e, raw⟩ h
    exact hextra.bind fun _ ↦ ends_pure _
termination_by 4 * TypeExpr.sizeOfOption extra + 1
decreasing_by
  simp only [TypeExpr.sizeOfOption]
  omega

end

end Rendering

end ApiClient
