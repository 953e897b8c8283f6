import ApiClient.Proofs.Draft.Growth

/-!
# Renderings within renderings

A rendering calls others: for the element of a sequence, the options of a union, the fields and
further values of a class. Which calls there are depends on the draft: a class is opened only where
its name is not declared, and a union ends with an open option. The raw name of a call is longer
than that of its caller, so the class of a rendering is never declared by a rendering within it.
-/

namespace ApiClient

open Work Draft Drafting

/-- The draft once a raw name has its identifier. -/
def Draft.identified (d : Draft) (raw : String) : Draft :=
  { d with registry := (d.registry.resolve raw).2 }

namespace Rendering

variable (components : Components)

/-- An option of a union is rendered and not open. -/
def OptionRound (raw : String) (option : TypeExpr × Nat) (d d' : Draft) : Prop :=
  ∃ text, text ≠ "Any" ∧
    exec (render components option.1 (raw ++ " option " ++ option.2.repr)) d = (.ok text, d')

/-- A field of a class is rendered. -/
def FieldRound (raw : String) (f : Field TypeExpr) (d d' : Draft) : Prop :=
  ∃ name hint, f.name.plain? = .ok name ∧
    exec (render components f.type (raw ++ " " ++ name)) d = (.ok hint, d')

/-- A rendering goes on, from some draft, to a class with some fields, bases and further values. -/
inductive Opens (r : Rendering) :
    Draft → List (Field TypeExpr) → List String → Option TypeExpr → Prop
  | record {f fields extra} : r.type.collapse = .record (f :: fields) extra →
      Opens r r.draft (f :: fields) [] extra
  | intersection {members d d' bases} : r.type.collapse = .intersection members →
      exec (follow (components.isRecord [] (.intersection members))) r.draft = (.ok true, d) →
      exec (basesOf components (Contribution.ofMembers members).references []) d =
        (.ok bases, d') →
      Opens r d' (Contribution.ofMembers members).fields bases
        (Contribution.ofMembers members).extra

/-- A rendering calls another one directly. -/
inductive Calls : Rendering → Rendering → Prop
  | item {r element} : r.type.collapse = .sequence element →
      Calls r ⟨r.draft, element, r.raw ++ " item"⟩
  | option {r members e index d rest} : r.type.collapse = .union members →
      Meets (OptionRound components r.raw) r.draft (members.zipIdx 1) d ((e, index) :: rest) →
      Calls r ⟨d, e, r.raw ++ " option " ++ index.repr⟩
  | value {r e} : r.type.collapse = .record [] (some e) →
      Calls r ⟨r.draft, e, r.raw ++ " value"⟩
  | field {r d fields bases extra d' f rest name} : Opens components r d fields bases extra →
      d.declarations.contains (d.registry.resolve r.raw).1 = false →
      Meets (FieldRound components r.raw) (d.identified r.raw) fields d' (f :: rest) →
      f.name.plain? = .ok name → Calls r ⟨d', f.type, r.raw ++ " " ++ name⟩
  | extra {r d fields bases e rendered d'} : Opens components r d fields bases (some e) →
      d.declarations.contains (d.registry.resolve r.raw).1 = false →
      exec (renderFields components r.raw fields []) (d.identified r.raw) = (.ok rendered, d') →
      Calls r ⟨d', e, r.raw ++ " value"⟩

variable {components}

/-- The raw name of a call extends that of its caller. -/
theorem Calls.length_lt {r r' : Rendering} (h : Calls components r r') :
    r.raw.length < r'.raw.length := by
  have hitem : " item".length = 5 := rfl
  have hoption : " option ".length = 8 := rfl
  have hvalue : " value".length = 6 := rfl
  have hspace : " ".length = 1 := rfl
  cases h with
  | item | value | extra =>
    rw [String.length_append]
    omega
  | option | field =>
    rw [String.length_append, String.length_append]
    omega

/-! ## Opening a class -/

theorem exec_declareRecord_of_contains {raw : String} {fields : List (Field TypeExpr)}
    {bases : List String} {extra : Option TypeExpr} {d : Draft}
    (h : d.declarations.contains (d.registry.resolve raw).1 = true) :
    exec (declareRecord components raw fields bases extra) d =
      (.ok (d.registry.resolve raw).1, d.identified raw) := by
  rw [declareRecord, exec_bind_of_ok (exec_identify raw d), exec_get_bind]
  simp only [h, if_true]
  rfl

theorem exec_declareRecord_of_fresh {raw : String} {fields : List (Field TypeExpr)}
    {bases : List String} {extra : Option TypeExpr} {d : Draft}
    (h : d.declarations.contains (d.registry.resolve raw).1 = false) :
    exec (declareRecord components raw fields bases extra) d =
      exec (do
        let rendered ← renderFields components raw fields []
        let extra ← renderExtra components extra (raw ++ " value")
        declareClass raw { name := (d.registry.resolve raw).1, fields := rendered, bases, extra }
        return (d.registry.resolve raw).1) (d.identified raw) := by
  rw [declareRecord, exec_bind_of_ok (exec_identify raw d), exec_get_bind]
  simp only [h, Bool.false_eq_true, if_false]
  rfl

/-- A class is declared under its name, perhaps with a remark in the place of its bases, or not at
all. -/
theorem declareClass_cases (raw : String) (c : RecordClass) (d : Draft) :
    (∃ fault, exec (declareClass raw c) d = (.error fault, d)) ∨
    ∃ bases diagnostics, (bases = c.bases ∨ bases = [] ∧ diagnostics ≠ []) ∧
      exec (declareClass raw c) d = (.ok (), { d with
        diagnostics, declarations := d.declarations.put (.record { c with bases }) }) := by
  unfold declareClass
  rw [exec_bind, exec_lift]
  cases c.functional with
  | error fault => exact .inl ⟨fault, rfl⟩
  | ok functional =>
    refine .inr ?_
    simp only
    split
    · exact ⟨[], _, .inr ⟨rfl, List.append_ne_nil_of_right_ne_nil _ (List.cons_ne_nil _ _)⟩, rfl⟩
    · exact ⟨c.bases, d.diagnostics, .inl rfl, rfl⟩

/-- A rendering by the shape of its type. -/
theorem work_eq (r : Rendering) : r.work components = match r.type.collapse with
    | .anything => return "Any"
    | .binary => return "bytes"
    | .scalar kind => return kind.hint
    | .literal choices => do
      return "Literal[" ++ ", ".intercalate (← choices.mapM fun v ↦ v.literal?) ++ "]"
    | .named identifier _ => return identifier
    | .sequence element => do
      return "list[" ++ (← render components element (r.raw ++ " item")) ++ "]"
    | .union members => renderUnion components members r.raw 1 []
    | .record [] extra => do
      return "dict[str, " ++ (← renderExtra components extra (r.raw ++ " value")).getD "Any" ++ "]"
    | .record (f :: fields) extra => declareRecord components r.raw (f :: fields) [] extra
    | .intersection members => do
      if ← follow (components.isRecord [] (.intersection members)) then
        let bases ← basesOf components (Contribution.ofMembers members).references []
        declareRecord components r.raw (Contribution.ofMembers members).fields bases
          (Contribution.ofMembers members).extra
      else
        Drafting.report (.warning r.raw "allOf mixes records with non-record schemas; typed as Any")
        return "Any" := by
  unfold work
  rw [render]
  split
  all_goals
    next hshape =>
    simp only [hshape]

theorem Opens.exec_eq {r : Rendering} {d : Draft} {fields : List (Field TypeExpr)}
    {bases : List String} {extra : Option TypeExpr} (h : Opens components r d fields bases extra) :
    exec (r.work components) r.draft =
      exec (declareRecord components r.raw fields bases extra) d := by
  cases h with
  | record hshape =>
    rw [work_eq, hshape]
  | intersection hshape hrecord hbases =>
    rw [work_eq, hshape]
    simp only
    rw [exec_bind_of_ok hrecord, if_pos rfl, exec_bind_of_ok hbases]

theorem Opens.sameDeclarations {r : Rendering} {d : Draft} {fields : List (Field TypeExpr)}
    {bases : List String} {extra : Option TypeExpr} (h : Opens components r d fields bases extra) :
    d.declarations = r.draft.declarations := by
  cases h with
  | record => rfl
  | intersection hshape hrecord hbases =>
    have hfollowed := (sameDeclarations_follow _).of_exec hrecord
    have hbased := (sameDeclarations_basesOf components _ _).of_exec hbases
    exact hbased.trans hfollowed

/-! ## Growth by renderings -/

/-- A set of renderings that holds the calls of each of its members. -/
def Closed (components : Components) (S : Rendering → Prop) : Prop :=
  ∀ r r', S r → Calls components r r' → S r'

/-- The members of a set under raw names that are longer than some length. -/
def Longer (S : Rendering → Prop) (length : Nat) (r : Rendering) : Prop :=
  S r ∧ length < r.raw.length

theorem Closed.longer {S : Rendering → Prop} (h : Closed components S) (length : Nat) :
    Closed components (Longer S length) :=
  fun r r' hr hcall ↦ ⟨h r r' hr.1 hcall, Nat.lt_trans hr.2 hcall.length_lt⟩

theorem Longer.raw_ne {S : Rendering → Prop} {raw : String} {r : Rendering}
    (h : Longer S raw.length r) : r.raw ≠ raw := by
  rintro rfl
  exact Nat.lt_irrefl _ h.2

theorem growth_identified {S : Rendering → Prop} {d : Draft} (h : d.Sound) (raw : String) :
    Growth components S d (d.identified raw) :=
  .ofRegistry h (h.registry.resolve raw) (Name.Registry.extends_resolve _ raw) d.diagnostics

theorem identifier?_identified (d : Draft) (raw : String) :
    (d.identified raw).registry.identifier? raw = some (d.registry.resolve raw).1 :=
  Name.Registry.identifier?_resolve_self _ raw

/-- A rendering declares its class where nothing stands under the name. -/
theorem leads_declareClass {S : Rendering → Prop} {r : Rendering} (hr : S r) {c : RecordClass}
    {d : Draft} (hraw : d.registry.identifier? r.raw = some c.name)
    (hnone : d.declarations.find? c.name = none)
    (hfresh : r.draft.declarations.find? c.name = none)
    (hafter : ∀ d', exec (declareClass r.raw c) d = (.ok (), d') → r.after components = d') :
    Leads (Grows components S) (declareClass r.raw c) d := by
  intro hsound
  obtain ⟨fault, hfailed⟩ | ⟨bases, diagnostics, -, hdeclared⟩ := declareClass_cases r.raw c d
  · rw [hfailed]
    exact .refl hsound
  · rw [hdeclared]
    have hend := hafter _ hdeclared
    refine Growth.ofClass (c := { c with bases }) hsound hnone hr ⟨hfresh, ?_, ?_⟩ hraw diagnostics
    · rw [hend, Declarations.find?_put]
      exact if_pos rfl
    · rw [hend]
      exact hraw

theorem Opens.after_of_fresh {r : Rendering} {d : Draft} {fields : List (Field TypeExpr)}
    {bases : List String} {extra : Option TypeExpr} (h : Opens components r d fields bases extra)
    (hcontains : d.declarations.contains (d.registry.resolve r.raw).1 = false) :
    r.after components = (exec (do
      let rendered ← renderFields components r.raw fields []
      let extra ← renderExtra components extra (r.raw ++ " value")
      declareClass r.raw { name := (d.registry.resolve r.raw).1, fields := rendered, bases, extra }
      return (d.registry.resolve r.raw).1) (d.identified r.raw)).2 := by
  rw [after, h.exec_eq, exec_declareRecord_of_fresh hcontains]

/-- The class of a rendering is declared once its fields and further values are rendered. It is not
declared by them, since raw names are longer there. -/
theorem leads_openedClass {S : Rendering → Prop} {r : Rendering} (hr : S r) {d d₂ d₃ : Draft}
    {fields : List (Field TypeExpr)} {rendered : List (Field String)} {bases : List String}
    {extra : Option TypeExpr} {extra' : Option String}
    (hopens : Opens components r d fields bases extra)
    (hcontains : d.declarations.contains (d.registry.resolve r.raw).1 = false)
    (hd₂ : exec (renderFields components r.raw fields []) (d.identified r.raw) = (.ok rendered, d₂))
    (hd₃ : exec (renderExtra components extra (r.raw ++ " value")) d₂ = (.ok extra', d₃))
    (hgrown : Growth components (Longer S r.raw.length) (d.identified r.raw) d₃) :
    Leads (Grows components S) (declareClass r.raw
      { name := (d.registry.resolve r.raw).1, fields := rendered, bases, extra := extra' }) d₃ := by
  have hfresh := Declarations.find?_eq_none_of_contains hcontains
  have hraw := identifier?_identified d r.raw
  refine leads_declareClass hr (hgrown.registry.assigned hraw)
    (hgrown.find?_eq_none hraw (fun r' hr' ↦ hr'.raw_ne) hfresh) ?_ ?_
  · rw [← hopens.sameDeclarations]
    exact hfresh
  · intro d₄ hd₄
    rw [hopens.after_of_fresh hcontains, exec_bind_of_ok hd₂, exec_bind_of_ok hd₃,
      exec_bind_of_ok hd₄]
    rfl

mutual

/-- A draft grows only by the classes that a rendering and those within it declare. -/
theorem leads_work {S : Rendering → Prop} (hS : Closed components S) (r : Rendering) (hr : S r) :
    Leads (Grows components S) (r.work components) r.draft := by
  rw [work_eq]
  match hshape : r.type.collapse with
  | .anything | .binary | .scalar _ | .named _ _ => exact Respects.pure _ _
  | .literal choices =>
    have hliterals : Respects (Grows components S)
        (choices.mapM fun v ↦ (liftM v.literal? : Drafting String)) :=
      Respects.mapM (fun v ↦ Respects.lift _) choices
    exact (hliterals _).bind fun _ _ _ ↦ Respects.pure _ _
  | .sequence element =>
    have hless := TypeExpr.size_lt_of_sequence hshape
    have helement := leads_work hS ⟨r.draft, element, r.raw ++ " item"⟩ (hS _ _ hr (.item hshape))
    exact helement.bind fun _ _ _ ↦ Respects.pure _ _
  | .union members =>
    have hless := TypeExpr.size_lt_of_union hshape
    exact leads_renderUnion hS members r.raw 1 [] r.draft
      fun hmeets ↦ hS _ _ hr (.option hshape hmeets)
  | .record [] extra =>
    have hless := TypeExpr.size_lt_of_record hshape
    have hextra := leads_renderExtra hS extra (r.raw ++ " value") r.draft
      fun e he ↦ hS _ _ hr (.value (he ▸ hshape))
    exact hextra.bind fun _ _ _ ↦ Respects.pure _ _
  | .record (f :: fields) extra =>
    have hless := TypeExpr.size_lt_of_record hshape
    exact leads_declareRecord hS r hr (.record hshape)
  | .intersection members =>
    have hless := TypeExpr.size_lt_of_intersection hshape
    apply (grows_follow _ r.draft).bind
    intro isRecord d hrecord
    cases isRecord with
    | false => exact (grows_report _ d).bind fun _ _ _ ↦ Respects.pure _ _
    | true =>
      apply (grows_basesOf _ _ d).bind
      intro bases d' hbases
      exact leads_declareRecord hS r hr (.intersection hshape hrecord hbases)
termination_by 4 * r.type.size
decreasing_by
  all_goals omega

theorem leads_renderUnion {S : Rendering → Prop} (hS : Closed components S)
    (members : List TypeExpr) (raw : String) (index : Nat) (rendered : List String) (d : Draft)
    (hcalls : ∀ {e i d' rest}, Meets (OptionRound components raw) d (members.zipIdx index) d'
      ((e, i) :: rest) → S ⟨d', e, raw ++ " option " ++ i.repr⟩) :
    Leads (Grows components S) (renderUnion components members raw index rendered) d := by
  match members with
  | [] =>
    rw [renderUnion]
    exact Respects.pure _ d
  | e :: es =>
    rw [renderUnion]
    have hpos := e.size_pos
    have hoption := leads_work hS ⟨d, e, raw ++ " option " ++ index.repr⟩ (hcalls .here)
    apply hoption.bind
    intro text d' hexec
    split
    · exact Respects.pure _ d'
    · next hopen =>
      exact leads_renderUnion hS es raw (index + 1) _ d'
        fun hmeets ↦ hcalls (.later ⟨text, hopen, hexec⟩ hmeets)
termination_by 4 * TypeExpr.sizeOfAll members + 1
decreasing_by
  all_goals
    simp only [TypeExpr.sizeOfAll]
    omega

theorem leads_declareRecord {S : Rendering → Prop} (hS : Closed components S) (r : Rendering)
    (hr : S r) {d : Draft} {fields : List (Field TypeExpr)} {bases : List String}
    {extra : Option TypeExpr} (hopens : Opens components r d fields bases extra) :
    Leads (Grows components S) (declareRecord components r.raw fields bases extra) d := by
  intro hsound
  have hidentified : Growth components S d (d.identified r.raw) := growth_identified hsound r.raw
  cases hcontains : d.declarations.contains (d.registry.resolve r.raw).1 with
  | true =>
    rw [exec_declareRecord_of_contains hcontains]
    exact hidentified
  | false =>
    -- What is rendered within has longer raw names and leaves the name of the class alone.
    have hlonger := hS.longer r.raw.length
    have hfields := leads_renderFields hlonger r.raw fields [] (d.identified r.raw)
      fun hmeets hname ↦ ⟨hS _ _ hr (.field hopens hcontains hmeets hname),
        (Calls.field hopens hcontains hmeets hname).length_lt⟩
    rw [exec_declareRecord_of_fresh hcontains]
    refine hidentified.trans (Leads.bind (R := Grows components S)
      (hfields.mono fun _ _ h hs ↦ (h hs).mono fun _ hr ↦ hr.1) (fun rendered d₂ hd₂ ↦ ?_)
      hidentified.sound)
    have hgrown₂ := hfields.of_exec hd₂ hidentified.sound
    have hextra := leads_renderExtra hlonger extra (r.raw ++ " value") d₂ fun e he ↦ by
      subst he
      exact ⟨hS _ _ hr (.extra hopens hcontains hd₂), (Calls.extra hopens hcontains hd₂).length_lt⟩
    refine Leads.bind (hextra.mono fun _ _ h hs ↦ (h hs).mono fun _ hr ↦ hr.1)
      fun extra' d₃ hd₃ ↦ ?_
    have hgrown₃ := hgrown₂.trans (hextra.of_exec hd₃ hgrown₂.sound)
    exact (leads_openedClass hr hopens hcontains hd₂ hd₃ hgrown₃).bind
      fun _ _ _ ↦ Respects.pure _ _
termination_by 4 * (TypeExpr.sizeOfFields fields + TypeExpr.sizeOfOption extra) + 2

theorem leads_renderFields {S : Rendering → Prop} (hS : Closed components S) (raw : String)
    (fields : List (Field TypeExpr)) (rendered : List (Field String)) (d : Draft)
    (hcalls : ∀ {f d' rest name}, Meets (FieldRound components raw) d fields d' (f :: rest) →
      f.name.plain? = .ok name → S ⟨d', f.type, raw ++ " " ++ name⟩) :
    Leads (Grows components S) (renderFields components raw fields rendered) d := by
  match fields with
  | [] =>
    rw [renderFields]
    exact Respects.pure _ d
  | ⟨name, required, e⟩ :: fields =>
    rw [renderFields]
    have hpos := e.size_pos
    apply (Respects.lift _ d).bind
    intro plain d' hplain
    obtain ⟨hname, rfl⟩ := exec_lift_eq_ok.1 hplain
    have hfield := leads_work hS ⟨d', e, raw ++ " " ++ plain⟩ (hcalls .here hname)
    apply hfield.bind
    intro hint d'' hexec
    exact leads_renderFields hS raw fields _ d''
      fun hmeets ↦ hcalls (.later ⟨plain, hint, hname, hexec⟩ hmeets)
termination_by 4 * TypeExpr.sizeOfFields fields + 1
decreasing_by
  all_goals
    simp only [TypeExpr.sizeOfFields]
    omega

theorem leads_renderExtra {S : Rendering → Prop} (hS : Closed components S)
    (extra : Option TypeExpr) (raw : String) (d : Draft)
    (hcalls : ∀ e, extra = some e → S ⟨d, e, raw⟩) :
    Leads (Grows components S) (renderExtra components extra raw) d := by
  match extra with
  | none =>
    rw [renderExtra]
    exact Respects.pure _ d
  | some e =>
    rw [renderExtra]
    have hextra := leads_work hS ⟨d, e, raw⟩ (hcalls e rfl)
    exact hextra.bind fun _ _ _ ↦ Respects.pure _ _
termination_by 4 * TypeExpr.sizeOfOption extra + 1
decreasing_by
  simp only [TypeExpr.sizeOfOption]
  omega

end

/-! ## Drafts before and after a call -/

/-- The set of all renderings. -/
def All (_ : Rendering) : Prop := True

theorem closed_all : Closed components All := fun _ _ _ _ ↦ trivial

theorem grows_render (e : TypeExpr) (raw : String) :
    Respects (Grows components All) (render components e raw) :=
  fun d ↦ leads_work closed_all ⟨d, e, raw⟩ trivial

theorem grows_renderUnion (members : List TypeExpr) (raw : String) (index : Nat)
    (rendered : List String) :
    Respects (Grows components All) (renderUnion components members raw index rendered) :=
  fun d ↦ leads_renderUnion closed_all members raw index rendered d fun _ ↦ trivial

theorem grows_renderFields {S : Rendering → Prop} (hS : Closed components S) (raw : String)
    (hraw : ∀ r, raw.length < r.raw.length → S r) (fields : List (Field TypeExpr))
    (rendered : List (Field String)) :
    Respects (Grows components S) (renderFields components raw fields rendered) := by
  refine fun d ↦ leads_renderFields hS raw fields rendered d fun _ _ ↦ hraw _ ?_
  simp only [String.length_append]
  have hspace : " ".length = 1 := rfl
  omega

theorem grows_renderExtra {S : Rendering → Prop} (hS : Closed components S)
    (extra : Option TypeExpr) (raw : String) (hraw : ∀ d e, S ⟨d, e, raw⟩) :
    Respects (Grows components S) (renderExtra components extra raw) :=
  fun d ↦ leads_renderExtra hS extra raw d fun e _ ↦ hraw d e

theorem grows_optionRound {raw : String} (option : TypeExpr × Nat) (d d' : Draft)
    (h : OptionRound components raw option d d') : Grows components All d d' := by
  obtain ⟨text, -, hexec⟩ := h
  exact (grows_render _ _).of_exec hexec

theorem grows_fieldRound {raw : String} (f : Field TypeExpr) (d d' : Draft)
    (h : FieldRound components raw f d d') : Grows components All d d' := by
  obtain ⟨name, hint, -, hexec⟩ := h
  exact (grows_render _ _).of_exec hexec

theorem Opens.grows {r : Rendering} {d : Draft} {fields : List (Field TypeExpr)}
    {bases : List String} {extra : Option TypeExpr} (h : Opens components r d fields bases extra) :
    Grows components All r.draft d := by
  cases h with
  | record => exact refl _
  | intersection hshape hrecord hbases =>
    have hfollowed : Grows components All _ _ := (grows_follow _).of_exec hrecord
    have hbased : Grows components All _ _ := (grows_basesOf _ _).of_exec hbases
    exact IsTrans.trans _ _ _ hfollowed hbased

/-- The draft that a call meets has grown from the one that its caller met. -/
theorem Calls.grows_before {r r' : Rendering} (h : Calls components r r') :
    Grows components All r.draft r'.draft := by
  cases h with
  | item | value => exact refl _
  | option hshape hmeets => exact hmeets.rel grows_optionRound
  | field hopens hcontains hmeets hname =>
    have hfields := IsTrans.trans _ _ _ (fun h ↦ growth_identified h r.raw)
      (hmeets.rel (R := Grows components All) grows_fieldRound)
    exact IsTrans.trans _ _ _ hopens.grows hfields
  | extra hopens hcontains hd' =>
    have hfields := (grows_renderFields (S := All) closed_all _ (fun _ _ ↦ trivial) _ _).of_exec hd'
    exact IsTrans.trans _ _ _ hopens.grows
      (IsTrans.trans _ _ _ (fun h ↦ growth_identified h r.raw) hfields)

/-- What an option leaves grows into what the union leaves. -/
theorem grows_after_option {members : List TypeExpr} {raw : String} {index : Nat} {e : TypeExpr}
    {i : Nat} {rest : List (TypeExpr × Nat)} {d d' : Draft}
    (h : Meets (OptionRound components raw) d (members.zipIdx index) d' ((e, i) :: rest))
    (rendered : List String) :
    Grows components All (after components ⟨d', e, raw ++ " option " ++ i.repr⟩)
      (exec (renderUnion components members raw index rendered) d).2 := by
  induction members generalizing d index rendered with
  | nil => cases h
  | cons e' es ih =>
    rw [renderUnion]
    cases h with
    | here =>
      apply Respects.after (R := Grows components All)
      intro text
      split
      · exact Respects.pure _
      · exact grows_renderUnion _ _ _ _
    | later hround hmeets =>
      obtain ⟨text, hopen, hexec⟩ := hround
      rw [exec_bind_of_ok hexec, if_neg hopen]
      exact ih hmeets _

/-- What a field leaves grows into what the fields leave. -/
theorem grows_after_field {fields : List (Field TypeExpr)} {raw : String} {f : Field TypeExpr}
    {rest : List (Field TypeExpr)} {d d' : Draft} {name : String}
    (h : Meets (FieldRound components raw) d fields d' (f :: rest)) (hname : f.name.plain? = .ok name)
    (rendered : List (Field String)) :
    Grows components All (after components ⟨d', f.type, raw ++ " " ++ name⟩)
      (exec (renderFields components raw fields rendered) d).2 := by
  induction fields generalizing d rendered with
  | nil => cases h
  | cons f' fields ih =>
    rw [renderFields]
    cases h with
    | here =>
      have hlift := exec_lift_eq_ok (s := d').2 ⟨hname, rfl⟩
      rw [exec_bind_of_ok hlift]
      exact Respects.after (R := Grows components All)
        (fun hint ↦ grows_renderFields closed_all raw (fun _ _ ↦ trivial) _ _) _ _
    | later hround hmeets =>
      obtain ⟨name', hint, hname', hexec⟩ := hround
      have hlift := exec_lift_eq_ok (s := d).2 ⟨hname', rfl⟩
      rw [exec_bind_of_ok hlift, exec_bind_of_ok hexec]
      exact ih hmeets _

/-- The rendering of further values leaves what the rendering of their type leaves. -/
theorem growth_after_render_extra (e : TypeExpr) (raw : String) (d : Draft)
    (hsound : (after components ⟨d, e, raw⟩).Sound) :
    Growth components All (after components ⟨d, e, raw⟩)
      (exec (renderExtra components (some e) raw) d).2 := by
  rw [renderExtra]
  exact Respects.after (R := Grows components All) (fun _ ↦ Respects.pure _) _ _ hsound

section

variable {r : Rendering} {d : Draft} {fields : List (Field TypeExpr)} {bases : List String}
  {extra : Option TypeExpr}

theorem longer_value (raw : String) (d : Draft) (e : TypeExpr) :
    Longer All raw.length ⟨d, e, raw ++ " value"⟩ := by
  have hvalue : " value".length = 6 := rfl
  refine ⟨trivial, ?_⟩
  rw [String.length_append]
  omega

theorem growth_longer_fields (hsound : d.Sound) (raw : String) (fields : List (Field TypeExpr)) :
    Growth components (Longer All raw.length) (d.identified raw)
      (exec (renderFields components raw fields []) (d.identified raw)).2 := by
  have hidentified : Growth components All d (d.identified raw) := growth_identified hsound raw
  exact grows_renderFields (closed_all.longer raw.length) raw (fun r hr ↦ ⟨trivial, hr⟩) fields []
    _ hidentified.sound

theorem growth_longer_extra (hsound : d.Sound) {raw : String} {rendered : List (Field String)}
    {d₂ : Draft}
    (hd₂ : exec (renderFields components raw fields []) (d.identified raw) = (.ok rendered, d₂)) :
    Growth components (Longer All raw.length) (d.identified raw)
      (exec (renderExtra components extra (raw ++ " value")) d₂).2 := by
  have hgrown₂ : Growth components (Longer All raw.length) (d.identified raw)
      (exec (renderFields components raw fields []) (d.identified raw)).2 :=
    growth_longer_fields hsound raw fields
  rw [hd₂] at hgrown₂
  have hextra : Leads (Grows components (Longer All raw.length))
      (renderExtra components extra (raw ++ " value")) d₂ :=
    grows_renderExtra (closed_all.longer raw.length) extra _ (longer_value raw) d₂
  exact hgrown₂.trans (hextra hgrown₂.sound)

/-- What the further values of a class leave grows into what its rendering leaves. -/
theorem growth_after_extra (hopens : Opens components r d fields bases extra)
    (hcontains : d.declarations.contains (d.registry.resolve r.raw).1 = false) (hsound : d.Sound)
    {rendered : List (Field String)} {d₂ : Draft}
    (hd₂ : exec (renderFields components r.raw fields []) (d.identified r.raw) =
      (.ok rendered, d₂)) :
    Growth components All (exec (renderExtra components extra (r.raw ++ " value")) d₂).2
      (r.after components) := by
  have hgrown₃ : Growth components (Longer All r.raw.length) (d.identified r.raw)
      (exec (renderExtra components extra (r.raw ++ " value")) d₂).2 :=
    growth_longer_extra hsound hd₂
  rw [hopens.after_of_fresh hcontains, exec_bind_of_ok hd₂]
  rcases hd₃ : exec (renderExtra components extra (r.raw ++ " value")) d₂
    with ⟨fault | extra', d₃⟩
  · rw [exec_bind_of_error hd₃]
    rw [hd₃] at hgrown₃
    exact .refl hgrown₃.sound
  · rw [exec_bind_of_ok hd₃]
    rw [hd₃] at hgrown₃
    exact Leads.bind (R := Grows components All)
      (leads_openedClass trivial hopens hcontains hd₂ hd₃ hgrown₃)
      (fun _ _ _ ↦ Respects.pure _ _) hgrown₃.sound

/-- What the fields of a class leave grows into what its rendering leaves. -/
theorem growth_after_fields (hopens : Opens components r d fields bases extra)
    (hcontains : d.declarations.contains (d.registry.resolve r.raw).1 = false) (hsound : d.Sound) :
    Growth components All
      (exec (renderFields components r.raw fields []) (d.identified r.raw)).2
      (r.after components) := by
  have hgrown₂ : Growth components (Longer All r.raw.length) (d.identified r.raw)
      (exec (renderFields components r.raw fields []) (d.identified r.raw)).2 :=
    growth_longer_fields hsound r.raw fields
  rcases hd₂ : exec (renderFields components r.raw fields []) (d.identified r.raw)
    with ⟨fault | rendered, d₂⟩
  · rw [hopens.after_of_fresh hcontains, exec_bind_of_error hd₂]
    rw [hd₂] at hgrown₂
    exact .refl hgrown₂.sound
  · rw [hd₂] at hgrown₂
    have hextra : Leads (Grows components All)
        (renderExtra components extra (r.raw ++ " value")) d₂ :=
      grows_renderExtra closed_all extra _ (fun _ _ ↦ trivial) d₂
    exact (hextra hgrown₂.sound).trans (growth_after_extra hopens hcontains hsound hd₂)

end

/-- What a call leaves grows into what its caller leaves. -/
theorem Calls.growth_after {r r' : Rendering} (h : Calls components r r') (hsound : r.draft.Sound) :
    Growth components All (r'.after components) (r.after components) := by
  have hbefore := h.grows_before hsound
  have hafter : Growth components All r'.draft (r'.after components) :=
    leads_work closed_all r' trivial hbefore.sound
  cases h with
  | @item element hshape =>
    have hwork : r.after components = (exec (do
        return "list[" ++ (← render components element (r.raw ++ " item")) ++ "]") r.draft).2 := by
      rw [after, work_eq, hshape]
    rw [hwork]
    exact Respects.after (R := Grows components All) (fun _ ↦ Respects.pure _) _ _ hafter.sound
  | @option members e index d rest hshape hmeets =>
    have hwork : r.after components =
        (exec (renderUnion components members r.raw 1 []) r.draft).2 := by
      rw [after, work_eq, hshape]
    rw [hwork]
    exact grows_after_option hmeets [] hafter.sound
  | @value e hshape =>
    have hwork : r.after components = (exec (do
        return "dict[str, " ++
          (← renderExtra components (some e) (r.raw ++ " value")).getD "Any" ++ "]") r.draft).2 := by
      rw [after, work_eq, hshape]
    have hextra := growth_after_render_extra e (r.raw ++ " value") r.draft hafter.sound
    rw [hwork]
    exact hextra.trans
      (Respects.after (R := Grows components All) (fun _ ↦ Respects.pure _) _ _ hextra.sound)
  | field hopens hcontains hmeets hname =>
    have hstart := hopens.grows hsound
    have hfields := grows_after_field hmeets hname [] hafter.sound
    exact hfields.trans (growth_after_fields hopens hcontains hstart.sound)
  | @extra d fields bases e rendered d' hopens hcontains hd' =>
    have hstart := hopens.grows hsound
    have hextra := growth_after_render_extra e (r.raw ++ " value") d' hafter.sound
    exact hextra.trans (growth_after_extra hopens hcontains hstart.sound hd')

end Rendering

end ApiClient
