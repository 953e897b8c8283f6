import ApiClient.Http.Client
import ApiClient.Proofs.Http.Headers
import Mathlib.Data.List.Infix

/-!
# Forms on their way out

The content type of a request decides how the entries of a form leave. In several parts every entry
leaves once and with its value, among the attachments or among the plain entries, and both keep the
order of the form. The headers leave as they are, or without a spelling of the content type where
the connection has a boundary to choose. A form with any other content type does not leave at all.
Whatever becomes of it, the request is left as it was.
-/

namespace ApiClient.Http

open Text

theorem occurs_iff (part cs : List Char) : occurs part cs = true ↔ part <:+: cs := by
  induction cs with
  | nil => rw [occurs, List.isEmpty_iff, List.infix_nil]
  | cons c cs ih =>
    rw [occurs, Bool.or_eq_true, List.isPrefixOf_iff_prefix, ih, List.infix_cons_iff]

namespace Body

/-- What is sent as a file: octets, several values together, or an open file. -/
inductive Attachment : Body → Prop
  | bytes (octets : List UInt8) : Attachment (.value (.bytes octets))
  | pair (a b : Value) : Attachment (.value (.pair a b))
  | tuple (items : List Body) : Attachment (.tuple items)
  | file (content : String) : Attachment (.file content)

theorem isAttachment_iff (b : Body) : b.isAttachment = true ↔ b.Attachment := by
  constructor
  · intro h
    unfold isAttachment at h
    split at h
    · exact .bytes _
    · exact .pair _ _
    · exact .file _
    · exact .tuple _
    · exact absurd h (by decide)
    · exact absurd h (by decide)
  · rintro (_ | _ | _ | _) <;> rfl

end Body

/-- The names and the values of the headers are texts. -/
abbrev TextHeaders (headers : List (Value × Value)) : Prop :=
  ∀ header ∈ headers, ∃ name v, header = (.text name, .text v)

theorem TextHeaders.named {headers : List (Value × Value)} (h : TextHeaders headers) :
    TextNamed headers := by
  intro header hheader
  obtain ⟨name, v, rfl⟩ := h header hheader
  exact ⟨name, rfl⟩

/-- The entries of a form, each of them once and in their order, either as plain entries or as
attachments. -/
structure Parted (fields data files : List (Value × Body)) : Prop where
  perm : (data ++ files).Perm fields
  data_sublist : data.Sublist fields
  files_sublist : files.Sublist fields
  plain : ∀ entry ∈ data, ¬ entry.2.Attachment
  attached : ∀ entry ∈ files, entry.2.Attachment

theorem parted_filter (fields : List (Value × Body)) :
    Parted fields (fields.filter (!·.2.isAttachment)) (fields.filter (·.2.isAttachment)) where
  perm := List.perm_append_comm.trans
    (List.filter_append_perm (fun entry : Value × Body ↦ entry.2.isAttachment) fields)
  data_sublist := List.filter_sublist
  files_sublist := List.filter_sublist
  plain := by
    intro entry hentry
    have hplain := (List.mem_filter.1 hentry).2
    rw [← Body.isAttachment_iff]
    simpa using hplain
  attached := fun entry hentry ↦ (Body.isAttachment_iff _).1 (List.mem_filter.1 hentry).2

namespace Request

/-- The content type as it is compared: the value of the first header of that name in small
letters, nothing without one. -/
def typeText (r : Request) : String :=
  match r.headers.find? (isCalled "content-type") with
  | some (_, .text v) => foldedText v
  | _ => ""

theorem contentType_eq {r : Request} (h : TextHeaders r.headers) :
    r.contentType = .ok r.typeText := by
  unfold contentType typeText
  have hname : foldedText "Content-Type" = "content-type" := by decide
  rw [header_text h.named, hname]
  cases hfirst : r.headers.find? (isCalled "content-type") with
  | none => rfl
  | some first =>
    obtain ⟨name, v, rfl⟩ := h first (List.mem_of_find?_eq_some hfirst)
    change (if decide (v ≠ "") = true then Except.ok (foldedText v) else .ok "") =
      .ok (foldedText v)
    by_cases hv : v = ""
    · subst hv
      rfl
    · rw [if_pos (decide_eq_true hv)]

/-- What is handed to the connection for a request, with the headers and the enclosure that its
content type asks for. -/
def handedOver (r : Request) (address : String) (headers : List (Value × Value))
    (enclosure : Enclosure) : Outgoing where
  method := r.method
  address := address
  headers := headers
  extensions := if r.extensions.isEmpty then none else some r.extensions
  enclosure := enclosure

theorem ofRequest_of_form (address : String) {r : Request} {fields : List (Value × Body)}
    (hbody : r.body = .form fields) (hheaders : TextHeaders r.headers) :
    Outgoing.ofRequest address r = (encloseForm r.typeText r.headers fields).map
      (fun p ↦ r.handedOver address p.1 p.2) := by
  unfold Outgoing.ofRequest
  rw [contentType_eq hheaders, hbody]
  change (encloseForm r.typeText r.headers fields >>= fun p ↦
    Except.ok (r.handedOver address p.1 p.2)) = _
  cases encloseForm r.typeText r.headers fields <;> rfl

/-- A form is sent just if its entries can be enclosed. -/
theorem over_of_form {m : Type → Type} [Monad m] (send : Outgoing → m (Except Failure Reply))
    (address : String) {r : Request} {fields : List (Value × Body)} (hbody : r.body = .form fields)
    (hheaders : TextHeaders r.headers) :
    Transport.over send address r =
      match encloseForm r.typeText r.headers fields with
      | .ok (headers, enclosure) => do
        return ⟨r, ← send (r.handedOver address headers enclosure)⟩
      | .error f => return ⟨r, .error f⟩ := by
  unfold Transport.over
  rw [ofRequest_of_form address hbody hheaders]
  rcases encloseForm r.typeText r.headers fields with f | ⟨headers, enclosure⟩ <;> rfl

end Request

/-- The content type of a form in several parts. -/
abbrev IsMultipart (type : String) : Prop := "multipart/".toList <+: type.toList

/-- The content type of a form in one piece. -/
abbrev IsUrlencoded (type : String) : Prop :=
  "application/x-www-form-urlencoded".toList <+: type.toList

/-- Whether the content type says where the parts end. -/
abbrev NamesBoundary (type : String) : Prop := "boundary=".toList <:+: type.toList

instance (type : String) : Decidable (NamesBoundary type) :=
  decidable_of_iff _ (occurs_iff _ _)

theorem encloseForm_of_multipart {type : String} (h : IsMultipart type)
    {headers : List (Value × Value)} (hheaders : TextHeaders headers)
    (fields : List (Value × Body)) :
    encloseForm type headers fields =
      .ok (if NamesBoundary type then headers else headers.filter (!isCalled "content-type" ·),
        .parts (fields.filter (!·.2.isAttachment)) (fields.filter (·.2.isAttachment))) := by
  unfold encloseForm
  rw [if_pos (List.isPrefixOf_iff_prefix.2 h), dropHeader_eq hheaders.named]
  by_cases hboundary : NamesBoundary type
  · rw [if_pos ((occurs_iff _ _).2 hboundary), if_pos hboundary]
  · rw [if_neg (mt (occurs_iff _ _).1 hboundary), if_neg hboundary]

theorem encloseForm_of_urlencoded {type : String} (h : IsUrlencoded type)
    (headers : List (Value × Value)) (fields : List (Value × Body)) :
    encloseForm type headers fields = .ok (headers, .form fields) := by
  -- The two content types differ in their first letter.
  have hsingle : ¬ IsMultipart type := by
    intro hparts
    rcases List.prefix_or_prefix_of_prefix hparts h with hprefix | hprefix <;>
      exact absurd hprefix (by decide)
  unfold encloseForm
  rw [if_neg (mt List.isPrefixOf_iff_prefix.1 hsingle),
    if_pos (List.isPrefixOf_iff_prefix.2 h)]

theorem encloseForm_of_other {type : String} (hparts : ¬ IsMultipart type)
    (hform : ¬ IsUrlencoded type) (headers : List (Value × Value)) (fields : List (Value × Body)) :
    encloseForm type headers fields = .error (.unencodedForm type) := by
  unfold encloseForm
  rw [if_neg (mt List.isPrefixOf_iff_prefix.1 hparts),
    if_neg (mt List.isPrefixOf_iff_prefix.1 hform)]

/-- A form in several parts leaves with every entry once, the attachments as files and the others
as data, both in the order of the form, and with the headers of the request, less every spelling of
the content type just if that names no boundary. A form in one piece leaves as it is, with the
headers of the request. Any other form is refused, and nothing is sent. In each case the request
comes back as it was. -/
theorem over_form {m : Type → Type} [Monad m] (send : Outgoing → m (Except Failure Reply))
    (address : String) (r : Request) (fields : List (Value × Body)) (hbody : r.body = .form fields)
    (hheaders : TextHeaders r.headers) :
    (IsMultipart r.typeText →
      ∃ data files, Parted fields data files ∧
        Transport.over send address r = do
          return ⟨r, ← send (r.handedOver address
            (if NamesBoundary r.typeText then r.headers
              else r.headers.filter (!isCalled "content-type" ·))
            (.parts data files))⟩) ∧
    (IsUrlencoded r.typeText →
      Transport.over send address r = do
        return ⟨r, ← send (r.handedOver address r.headers (.form fields))⟩) ∧
    (¬ IsMultipart r.typeText → ¬ IsUrlencoded r.typeText →
      Transport.over send address r = return ⟨r, .error (.unencodedForm r.typeText)⟩) := by
  rw [Request.over_of_form send address hbody hheaders]
  refine ⟨fun hparts ↦ ⟨_, _, parted_filter fields, ?_⟩, fun hform ↦ ?_, fun hparts hform ↦ ?_⟩
  · rw [encloseForm_of_multipart hparts hheaders]
  · rw [encloseForm_of_urlencoded hform]
  · rw [encloseForm_of_other hparts hform]

/-- A form with an attachment between two plain entries, under two spellings of the content type. -/
def photoForm : Request where
  pathname := "/photos"
  method := "POST"
  headers := [("Content-type", "Multipart/Form-Data"), ("Accept", "text/csv"),
    ("CONTENT-TYPE", "text/plain")]
  body := .form [("title", .value "Rex"), ("photo", .value (.bytes [255, 216])),
    ("note", .value "good dog")]

/-- Both spellings give way to the boundary, whatever the connection answers. -/
theorem over_form_photo :
    photoForm.body = .form [("title", .value "Rex"), ("photo", .value (.bytes [255, 216])),
      ("note", .value "good dog")] ∧
    TextHeaders photoForm.headers ∧ IsMultipart photoForm.typeText ∧
    ¬ NamesBoundary photoForm.typeText ∧
    ∀ reply : Except Failure Reply, ∃ data files,
      Parted [("title", .value "Rex"), ("photo", .value (.bytes [255, 216])),
        ("note", .value "good dog")] data files ∧
      (Transport.over (m := StateM (List Outgoing)) (fun o sent ↦ (reply, sent ++ [o]))
        "https://pets.example/photos" photoForm).run [] =
        (⟨photoForm, reply⟩,
          [photoForm.handedOver "https://pets.example/photos" [("Accept", "text/csv")]
            (.parts data files)]) := by
  have hheaders : TextHeaders photoForm.headers := by
    simp only [TextHeaders, photoForm, List.forall_mem_cons]
    exact ⟨⟨_, _, rfl⟩, ⟨_, _, rfl⟩, ⟨_, _, rfl⟩, List.forall_mem_nil _⟩
  have htype : photoForm.typeText = "multipart/form-data" := by
    with_unfolding_all rfl
  have hparts : IsMultipart photoForm.typeText := by
    rw [htype]
    decide
  have hboundary : ¬ NamesBoundary photoForm.typeText := by
    rw [htype]
    decide
  refine ⟨rfl, hheaders, hparts, hboundary, fun reply ↦ ?_⟩
  obtain ⟨data, files, hparted, hsent⟩ := (over_form (m := StateM (List Outgoing))
    (fun o sent ↦ (reply, sent ++ [o])) "https://pets.example/photos" photoForm _ rfl
    hheaders).1 hparts
  refine ⟨data, files, hparted, ?_⟩
  rw [hsent, if_neg hboundary]
  rfl

end ApiClient.Http
