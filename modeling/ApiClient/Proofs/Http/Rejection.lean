import ApiClient.Http.Client
import Mathlib.Data.List.Forall2

/-!
# Rejections without credentials

A rejection carries a copy of its request that may be shown. The copy is a function of what is not
secret: two requests that differ only in the values of credential headers and in the settings for
the transport are rejected alike. The request itself stays with its sender as it was.
-/

namespace ApiClient.Http

/-- The name of a header that carries credentials, in whatever letter case. -/
def IsCredential (name : Value) : Prop := ∃ folded ∈ credentialHeaders, foldedName name = .ok folded

/-- Two headers of one name. Their values agree, unless they are credentials. -/
structure SameHeader (header header' : Value × Value) : Prop where
  name : header'.1 = header.1
  value : IsCredential header.1 ∨ header'.2 = header.2

/-- Two requests that agree in all but credentials and the settings for the transport. -/
structure Request.AgreesWith (r r' : Request) : Prop where
  pathname : r'.pathname = r.pathname
  method : r'.method = r.method
  searchParams : r'.searchParams = r.searchParams
  body : r'.body = r.body
  headers : List.Forall₂ SameHeader r.headers r'.headers

/-! ## Redaction -/

theorem redact_cons_of_ok {name v : Value} {headers redacted : List (Value × Value)}
    {folded : String} (hname : foldedName name = .ok folded) (h : redact headers = .ok redacted) :
    redact ((name, v) :: headers) =
      .ok ((name, if credentialHeaders.contains folded then "[redacted]" else v) :: redacted) := by
  unfold redact
  rw [hname, h]
  rfl

/-- Headers that agree in all but credentials are the same when they are redacted. -/
theorem redact_congr {headers headers' : List (Value × Value)}
    (h : List.Forall₂ SameHeader headers headers') : redact headers' = redact headers := by
  induction h with
  | nil => rfl
  | @cons header header' headers headers' hsame _ ih =>
    obtain ⟨name, v⟩ := header
    obtain ⟨name', v'⟩ := header'
    obtain ⟨hname, hvalue⟩ := hsame
    obtain rfl : name' = name := hname
    unfold redact
    rw [ih]
    cases hfolded : foldedName name' with
    | error fault => rfl
    | ok folded =>
      rcases hvalue with ⟨credential, hmem, hcredential⟩ | hvalue
      · -- a credential is redacted, whatever its value
        obtain rfl : credential = folded := Except.ok.inj (hcredential.symm.trans hfolded)
        cases redact headers with
        | error fault => rfl
        | ok redacted => simp [bind, Except.bind, hmem]
      · obtain rfl : v' = v := hvalue
        rfl

/-- Redacted headers are the headers, apart from the credentials in them. -/
theorem forall₂_sameHeader_redact {headers redacted : List (Value × Value)}
    (h : redact headers = .ok redacted) : List.Forall₂ SameHeader headers redacted := by
  induction headers generalizing redacted with
  | nil =>
    obtain rfl : [] = redacted := Except.ok.inj h
    exact .nil
  | cons header headers ih =>
    obtain ⟨name, v⟩ := header
    unfold redact at h
    cases hfolded : foldedName name with
    | error fault => simp [hfolded, bind, Except.bind] at h
    | ok folded =>
      cases hrest : redact headers with
      | error fault => simp [hfolded, hrest, bind, Except.bind] at h
      | ok rest =>
        rw [hfolded, hrest] at h
        obtain rfl := Except.ok.inj h
        refine .cons ⟨rfl, ?_⟩ (ih hrest)
        by_cases hmem : folded ∈ credentialHeaders
        · exact .inl ⟨folded, hmem, hfolded⟩
        · exact .inr (by simp [hmem])

/-- Headers whose names are texts can be redacted. -/
theorem exists_redact {headers : List (Value × Value)}
    (h : ∀ header ∈ headers, ∃ name, header.1 = .text name) :
    ∃ redacted, redact headers = .ok redacted := by
  induction headers with
  | nil => exact ⟨[], rfl⟩
  | cons header headers ih =>
    obtain ⟨name, v⟩ := header
    obtain ⟨⟨text, rfl⟩, hrest⟩ := List.forall_mem_cons.1 h
    obtain ⟨redacted, hredacted⟩ := ih hrest
    exact ⟨_, redact_cons_of_ok rfl hredacted⟩

namespace Request

theorem scrubbed_congr {r r' : Request} (h : r.AgreesWith r') : r'.scrubbed = r.scrubbed := by
  obtain ⟨pathname, method, searchParams, headers, body, extensions⟩ := r
  obtain ⟨hpathname, hmethod, hsearchParams, hbody, hheaders⟩ := h
  simp only at hpathname hmethod hsearchParams hbody hheaders
  simp only [scrubbed, redact_congr hheaders, hpathname, hmethod, hsearchParams, hbody]

theorem agreesWith_scrubbed {r shown : Request} (h : r.scrubbed = .ok shown) :
    r.AgreesWith shown := by
  unfold scrubbed at h
  cases hredacted : redact r.headers with
  | error fault => simp [hredacted, bind, Except.bind] at h
  | ok redacted =>
    rw [hredacted] at h
    obtain rfl := Except.ok.inj h
    exact ⟨rfl, rfl, rfl, rfl, forall₂_sameHeader_redact hredacted⟩

theorem exists_scrubbed {r : Request}
    (h : ∀ header ∈ r.headers, ∃ name, header.1 = .text name) :
    ∃ shown, r.scrubbed = .ok shown := by
  obtain ⟨redacted, hredacted⟩ := exists_redact h
  unfold scrubbed
  rw [hredacted]
  exact ⟨_, rfl⟩

end Request

namespace Rejection

theorem of_eq_map (r : Request) (reply : Reply) :
    Rejection.of r reply = r.scrubbed.map (⟨·, reply⟩) := by
  unfold Rejection.of
  cases r.scrubbed <;> rfl

/-- Requests that agree in all but credentials and the settings for the transport have the same
rejection: its message, status, reason and copy of the request tell nothing of these. There is one
whenever header names are texts, and its copy agrees with the request in all else. And who sends a
request that is rejected keeps it as the middlewares left it. -/
theorem hides_credentials {r r' : Request} (h : r.AgreesWith r') (reply : Reply) :
    Rejection.of r' reply = Rejection.of r reply ∧
    ((∀ header ∈ r.headers, ∃ name, header.1 = .text name) →
      ∃ e e', Rejection.of r reply = .ok e ∧ Rejection.of r' reply = .ok e' ∧
        e'.text = e.text ∧ e'.reply.status = e.reply.status ∧
        e'.reply.reason = e.reply.reason ∧ e'.request = e.request ∧ r.AgreesWith e.request) ∧
    ∀ {m : Type → Type} [Monad m] [LawfulMonad m] (c : Client m),
      Prod.fst <$> c.fetchWith r (fun request reply ↦
        (.error (.ofReply request reply) : Except Failure Unit)) =
      Passage.request <$> c.fetch r := by
  have hsame : Rejection.of r' reply = Rejection.of r reply := by
    rw [of_eq_map, of_eq_map, Request.scrubbed_congr h]
  refine ⟨hsame, fun hnames ↦ ?_, fun c ↦ ?_⟩
  · obtain ⟨shown, hshown⟩ := Request.exists_scrubbed hnames
    have hrejected : Rejection.of r reply = .ok ⟨shown, reply⟩ := by
      rw [of_eq_map, hshown]
      rfl
    exact ⟨_, _, hrejected, hsame.trans hrejected, rfl, rfl, rfl, rfl,
      Request.agreesWith_scrubbed hshown⟩
  · simp [Client.fetchWith]

/-- A request with credentials under two spellings of one name, and settings for the transport. -/
def confidential : Request where
  pathname := "/pets/7"
  method := "GET"
  headers := [("X-Api-Key", "k-81"), ("Accept", "application/json"), ("x-api-key", "k-82")]
  extensions := [("timeout", .int 5)]

/-- The same request of another sender. -/
def confidentialOther : Request :=
  { confidential with
    headers := [("X-Api-Key", "z"), ("Accept", "application/json"), ("x-api-key", "")]
    extensions := [] }

/-- What a rejection shows of either. -/
def confidentialShown : Request :=
  { confidential with
    headers := [("X-Api-Key", "[redacted]"), ("Accept", "application/json"),
      ("x-api-key", "[redacted]")]
    extensions := [] }

theorem hides_credentials_apiKeys :
    confidential.AgreesWith confidentialOther ∧
    Rejection.of confidential ⟨404, []⟩ = .ok ⟨confidentialShown, ⟨404, []⟩⟩ ∧
    Rejection.of confidentialOther ⟨404, []⟩ = .ok ⟨confidentialShown, ⟨404, []⟩⟩ ∧
    ∃ e, Rejection.of confidentialOther ⟨404, []⟩ = .ok e ∧ confidential.AgreesWith e.request := by
  have hkey : IsCredential "x-api-key" := ⟨"x-api-key", by decide, by decide⟩
  have hkey' : IsCredential "X-Api-Key" := ⟨"x-api-key", by decide, by decide⟩
  have hagrees : confidential.AgreesWith confidentialOther :=
    ⟨rfl, rfl, rfl, rfl,
      .cons ⟨rfl, .inl hkey'⟩ (.cons ⟨rfl, .inr rfl⟩ (.cons ⟨rfl, .inl hkey⟩ .nil))⟩
  have hnames : ∀ header ∈ confidential.headers, ∃ name, header.1 = .text name := by
    simp only [confidential, List.forall_mem_cons]
    exact ⟨⟨_, rfl⟩, ⟨_, rfl⟩, ⟨_, rfl⟩, List.forall_mem_nil _⟩
  have hshown : Rejection.of confidential ⟨404, []⟩ = .ok ⟨confidentialShown, ⟨404, []⟩⟩ := by
    rfl
  obtain ⟨hsame, hrejected, -⟩ := hides_credentials hagrees ⟨404, []⟩
  obtain ⟨e, e', he, he', -, -, -, hrequest, hcopy⟩ := hrejected hnames
  exact ⟨hagrees, hshown, hsame.trans hshown, e', he', hrequest ▸ hcopy⟩

end Rejection

end ApiClient.Http
