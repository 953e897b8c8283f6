import ApiClient.Proofs.Diagnostic
import ApiClient.Proofs.Draft.Rendering

/-!
# Remarks on a draft

Diagnostics are only added to. What drafting adds by itself are remarks of lesser severity than an
error: an error is added only where a fault is caught. Nor does drafting know of identifiers that
are used twice. So a draft on which types are rendered grows and its errors stay as they are. A
remark is made at the raw name of the rendering that makes it, and what is rendered within has
longer raw names.
-/

namespace ApiClient

open Work

namespace Draft

/-- Diagnostics of some kind are added. -/
def Adds (P : Diagnostic → Prop) (d d' : Draft) : Prop :=
  Diagnostic.Appends P d.diagnostics d'.diagnostics

theorem adds_of_eq {P : Diagnostic → Prop} {d d' : Draft} (h : d'.diagnostics = d.diagnostics) :
    Adds P d d' := by
  unfold Adds
  rw [h]
  exact .refl _

instance (P : Diagnostic → Prop) : IsPreorder Draft (Adds P) where
  refl _ := Diagnostic.Appends.refl _
  trans _ _ _ h h' := Diagnostic.Appends.trans h h'

/-- Incidental diagnostics are added. -/
def Remarks (d d' : Draft) : Prop :=
  Diagnostic.Appends Diagnostic.Incidental d.diagnostics d'.diagnostics

instance : IsPreorder Draft Remarks where
  refl _ := Diagnostic.Appends.refl _
  trans _ _ _ h h' := Diagnostic.Appends.trans h h'

end Draft

namespace Drafting

open Draft

variable {components : Components} {P : Diagnostic → Prop}

theorem adds_report {x : Diagnostic} (h : P x) : Respects (Adds P) (report x) :=
  fun _ ↦ Diagnostic.Appends.single h

theorem adds_identify (raw : String) : Respects (Adds P) (identify raw) := fun _ ↦ adds_of_eq rfl

theorem adds_typeOf (s : Schema) : Respects (Adds P) (typeOf s) := fun _ ↦ adds_of_eq rfl

theorem adds_declare (x : Declaration) : Respects (Adds P) (declare x) := fun _ ↦ adds_of_eq rfl

theorem adds_follow {α : Type} (w : Walk α) : Respects (Adds P) (follow w) := by
  unfold follow
  apply Respects.bind
  · intro d
    exact adds_of_eq rfl
  · intro _
    cases w.outcome with
    | error chain => exact Respects.throw _
    | ok a => exact Respects.pure a

theorem adds_basesOf (raws bases : List String) :
    Respects (Adds P) (basesOf components raws bases) := by
  induction raws generalizing bases with
  | nil => exact Respects.pure bases
  | cons raw raws ih =>
    unfold basesOf
    apply (adds_follow _).bind
    intro base
    cases base with
    | none => exact ih bases
    | some root => exact (adds_identify root).bind fun _ ↦ ih _

/-! ## Remarks of a rendering -/

/-- The remark that an intersection has members that are no records. -/
def mixedRemark (raw : String) : Diagnostic :=
  .warning raw "allOf mixes records with non-record schemas; typed as Any"

/-- The remark that a class has lost its bases. -/
def basesRemark (raw : String) : Diagnostic :=
  .warning raw "field names need the functional TypedDict form; base classes dropped"

/-- The diagnostics of some kind include the remarks on classes, and those on intersections at raw
names of at least some length. -/
structure Permits (P : Diagnostic → Prop) (length : Nat) : Prop where
  bases : ∀ raw, P (basesRemark raw)
  mixed : ∀ raw : String, length ≤ raw.length → P (mixedRemark raw)

variable {length : Nat}

theorem adds_declareClass (hP : Permits P length) (raw : String) (c : RecordClass) :
    Respects (Adds P) (declareClass raw c) := by
  unfold declareClass
  apply (Respects.lift _).bind
  intro functional
  split
  · exact (adds_report (hP.bases raw)).bind fun _ ↦ adds_declare _
  · exact adds_declare _

mutual

/-- A rendering adds remarks at raw names that are no shorter than its own. -/
theorem adds_render (hP : Permits P length) (e : TypeExpr) {raw : String}
    (hraw : length ≤ raw.length) : Respects (Adds P) (render components e raw) := by
  rw [render]
  split
  · exact Respects.pure _
  · exact Respects.pure _
  · exact Respects.pure _
  · exact (Respects.mapM (fun v ↦ Respects.lift _) _).bind fun _ ↦ Respects.pure _
  · exact Respects.pure _
  · next element hshape =>
    have hless := TypeExpr.size_lt_of_sequence hshape
    have hlonger : length ≤ (raw ++ " item").length := by
      rw [String.length_append]
      omega
    exact (adds_render hP element hlonger).bind fun _ ↦ Respects.pure _
  · next members hshape =>
    have hless := TypeExpr.size_lt_of_union hshape
    exact adds_renderUnion hP members (Nat.le_succ_of_le hraw) 1 []
  · next extra hshape =>
    have hless := TypeExpr.size_lt_of_record hshape
    have hlonger : length ≤ (raw ++ " value").length := by
      rw [String.length_append]
      omega
    exact (adds_renderExtra hP extra hlonger).bind fun _ ↦ Respects.pure _
  · next f fields extra hshape =>
    have hless := TypeExpr.size_lt_of_record hshape
    exact adds_declareRecord hP (Nat.le_succ_of_le hraw) (f :: fields) [] extra
  · next members hshape =>
    have hless := TypeExpr.size_lt_of_intersection hshape
    apply (adds_follow _).bind
    intro isRecord
    cases isRecord with
    | false => exact (adds_report (hP.mixed raw hraw)).bind fun _ ↦ Respects.pure _
    | true =>
      apply (adds_basesOf _ _).bind
      intro bases
      exact adds_declareRecord hP (Nat.le_succ_of_le hraw) _ bases _
termination_by 4 * e.size
decreasing_by
  all_goals omega

theorem adds_renderUnion (hP : Permits P length) (members : List TypeExpr) {raw : String}
    (hraw : length ≤ raw.length + 1) (index : Nat) (rendered : List String) :
    Respects (Adds P) (renderUnion components members raw index rendered) := by
  match members with
  | [] =>
    rw [renderUnion]
    exact Respects.pure _
  | e :: es =>
    rw [renderUnion]
    have hpos := e.size_pos
    have hlonger : length ≤ (raw ++ " option " ++ index.repr).length := by
      have hoption : " option ".length = 8 := rfl
      rw [String.length_append, String.length_append]
      omega
    apply (adds_render hP e hlonger).bind
    intro text
    split
    · exact Respects.pure _
    · exact adds_renderUnion hP es hraw (index + 1) _
termination_by 4 * TypeExpr.sizeOfAll members + 1
decreasing_by
  all_goals
    simp only [TypeExpr.sizeOfAll]
    omega

/-- The class itself is remarked on at its raw name, and what is rendered for it at longer ones. -/
theorem adds_declareRecord (hP : Permits P length) {raw : String} (hraw : length ≤ raw.length + 1)
    (fields : List (Field TypeExpr)) (bases : List String) (extra : Option TypeExpr) :
    Respects (Adds P) (declareRecord components raw fields bases extra) := by
  rw [declareRecord]
  apply (adds_identify raw).bind
  intro name
  apply Respects.get.bind
  intro d
  split
  · exact Respects.pure _
  · apply (adds_renderFields hP hraw fields []).bind
    intro rendered
    have hlonger : length ≤ (raw ++ " value").length := by
      have hvalue : " value".length = 6 := rfl
      rw [String.length_append]
      omega
    apply (adds_renderExtra hP extra hlonger).bind
    intro extra'
    exact (adds_declareClass hP _ _).bind fun _ ↦ Respects.pure _
termination_by 4 * (TypeExpr.sizeOfFields fields + TypeExpr.sizeOfOption extra) + 2

theorem adds_renderFields (hP : Permits P length) {raw : String} (hraw : length ≤ raw.length + 1)
    (fields : List (Field TypeExpr)) (rendered : List (Field String)) :
    Respects (Adds P) (renderFields components raw fields rendered) := by
  match fields with
  | [] =>
    rw [renderFields]
    exact Respects.pure _
  | ⟨name, required, e⟩ :: fields =>
    rw [renderFields]
    have hpos := e.size_pos
    apply (Respects.lift _).bind
    intro plain
    have hlonger : length ≤ (raw ++ " " ++ plain).length := by
      have hspace : " ".length = 1 := rfl
      rw [String.length_append, String.length_append]
      omega
    apply (adds_render hP e hlonger).bind
    intro hint
    exact adds_renderFields hP hraw fields _
termination_by 4 * TypeExpr.sizeOfFields fields + 1
decreasing_by
  all_goals
    simp only [TypeExpr.sizeOfFields]
    omega

theorem adds_renderExtra (hP : Permits P length) (extra : Option TypeExpr) {raw : String}
    (hraw : length ≤ raw.length) : Respects (Adds P) (renderExtra components extra raw) := by
  match extra with
  | none =>
    rw [renderExtra]
    exact Respects.pure _
  | some e =>
    rw [renderExtra]
    exact (adds_render hP e hraw).bind fun _ ↦ Respects.pure _
termination_by 4 * TypeExpr.sizeOfOption extra + 1
decreasing_by
  simp only [TypeExpr.sizeOfOption]
  omega

end

/-! ## Incidental remarks -/

theorem remarks_identify (raw : String) : Respects Remarks (identify raw) := adds_identify raw

theorem remarks_typeOf (s : Schema) : Respects Remarks (typeOf s) := adds_typeOf s

theorem remarks_declare (x : Declaration) : Respects Remarks (declare x) := adds_declare x

theorem remarks_follow {α : Type} (w : Walk α) : Respects Remarks (follow w) := adds_follow w

theorem remarks_report {x : Diagnostic} (h : x.Incidental) : Respects Remarks (report x) :=
  adds_report h

theorem remarks_render (e : TypeExpr) (raw : String) :
    Respects Remarks (render components e raw) :=
  adds_render ⟨fun _ ↦ Diagnostic.incidental_warning _ (by decide),
    fun _ _ ↦ Diagnostic.incidental_warning _ (by decide)⟩ e (Nat.zero_le _)

end Drafting

/-! ## Progress -/

/-- A sound draft grows by renderings, and its errors stay as they are. -/
def Draft.Progress (components : Components) (d d' : Draft) : Prop :=
  Draft.Grows components Rendering.All d d' ∧ Draft.Remarks d d'

namespace Drafting

open Draft

variable {components : Components}

instance : IsPreorder Draft (Progress components) where
  refl d := ⟨refl d, refl d⟩
  trans _ _ _ h h' := ⟨IsTrans.trans _ _ _ h.1 h'.1, IsTrans.trans _ _ _ h.2 h'.2⟩

theorem progress_identify (raw : String) : Respects (Progress components) (identify raw) :=
  fun d ↦ ⟨grows_identify raw d, remarks_identify raw d⟩

theorem progress_typeOf (s : Schema) : Respects (Progress components) (typeOf s) :=
  fun d ↦ ⟨grows_typeOf s d, remarks_typeOf s d⟩

theorem progress_follow {α : Type} (w : Walk α) : Respects (Progress components) (follow w) :=
  fun d ↦ ⟨grows_follow w d, remarks_follow w d⟩

theorem progress_report {x : Diagnostic} (h : x.Incidental) :
    Respects (Progress components) (report x) :=
  fun d ↦ ⟨grows_report x d, remarks_report h d⟩

theorem progress_render (e : TypeExpr) (raw : String) :
    Respects (Progress components) (render components e raw) :=
  fun d ↦ ⟨Rendering.grows_render e raw d, remarks_render e raw d⟩

end Drafting

end ApiClient
