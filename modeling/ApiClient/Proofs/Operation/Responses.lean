import ApiClient.Proofs.Module.Run
import ApiClient.Proofs.Operation
import ApiClient.Proofs.Value.Shape
import Mathlib.Data.List.Nodup

/-!
# Responses that are read

An operation has one response for each status of its object. When a status is written in several
ways, the last one counts. The content of a response has its media types in order, and a media type
has the shape of its schema unless there is none, where an empty schema counts as none.
-/

namespace ApiClient.Operation

open Work

/-! ## Declared schemas -/

/-- The response that an operation's object has for a status, behind its references. -/
def responseAt? (description v : Value) (status : String) : Option Value := do
  let entries ← (do (← v.field "responses").orEmptyMap.entries : Except Fault _).toOption
  let entry ← entries.reverse.find? fun entry ↦ (statusOf entry.1).toOption = some status
  (follow description entry.2).toOption

/-- The schema that an operation's object has for a status and a media type. -/
def schemaAt? (description v : Value) (status : String) (mediaType : Value) : Option Value := do
  let content ← ((← responseAt? description v status).field "content").toOption
  let media ← (← content.asMap?).find? (·.1.same mediaType)
  Value.lookup (← media.2.asMap?) "schema"

/-! ## Statuses -/

theorem mem_putResponse {responses : List Response} {r q : Response} :
    q ∈ putResponse responses r ↔ q = r ∨ q ∈ responses ∧ q.status ≠ r.status := by
  unfold putResponse
  split
  · next hthere =>
    obtain ⟨old, hold, hsame⟩ := List.any_eq_true.1 hthere
    rw [List.mem_map]
    constructor
    · rintro ⟨p, hp, rfl⟩
      split
      · exact .inl rfl
      · next hother => exact .inr ⟨hp, hother⟩
    · rintro (rfl | ⟨hq, hother⟩)
      · exact ⟨old, hold, if_pos (of_decide_eq_true hsame)⟩
      · exact ⟨q, hq, if_neg hother⟩
  · next hnew =>
    rw [List.mem_append, List.mem_singleton, or_comm]
    refine or_congr_right ⟨fun hq ↦ ⟨hq, fun hsame ↦ hnew ?_⟩, And.left⟩
    exact List.any_eq_true.2 ⟨q, hq, decide_eq_true hsame⟩

theorem nodup_putResponse {responses : List Response} (h : (responses.map (·.status)).Nodup)
    (r : Response) : ((putResponse responses r).map (·.status)).Nodup := by
  unfold putResponse
  split
  · have hstatuses : (responses.map fun q ↦ if q.status = r.status then r else q).map (·.status) =
        responses.map (·.status) := by
      rw [List.map_map]
      refine List.map_congr_left fun q _ ↦ ?_
      by_cases hsame : q.status = r.status
      · simp [hsame]
      · simp [hsame]
    rwa [hstatuses]
  · next hnew =>
    rw [List.map_append, List.map_singleton]
    refine List.Nodup.append h (List.nodup_singleton _)
      (List.disjoint_singleton.2 fun hmem ↦ hnew ?_)
    obtain ⟨q, hq, hsame⟩ := List.mem_map.1 hmem
    exact List.any_eq_true.2 ⟨q, hq, decide_eq_true hsame⟩

variable {description : Value}

/-- The response is read from an entry: its status from the key, its content from the object behind
the references. -/
structure ReadResponse (description : Value) (entry : Value × Value) (r : Response) : Prop where
  status : statusOf entry.1 = .ok r.status
  content : ∃ v content, follow description entry.2 = .ok v ∧ v.field "content" = .ok content ∧
    parseContent content = .ok r.content

/-- An entry is read and put among the responses before the others are. -/
theorem of_parseResponses_cons {entry : Value × Value} {entries : List (Value × Value)}
    {responses out : List Response}
    (h : parseResponses description (entry :: entries) responses = .ok out) :
    ∃ r, ReadResponse description entry r ∧
      parseResponses description entries (putResponse responses r) = .ok out := by
  obtain ⟨key, raw⟩ := entry
  unfold parseResponses at h
  obtain ⟨v, hv, h⟩ := Module.of_bind_eq_ok h
  obtain ⟨status, hstatus, h⟩ := Module.of_bind_eq_ok h
  obtain ⟨field, hfield, h⟩ := Module.of_bind_eq_ok h
  obtain ⟨content, hcontent, h⟩ := Module.of_bind_eq_ok h
  obtain ⟨prose, -, h⟩ := Module.of_bind_eq_ok h
  exact ⟨_, ⟨hstatus, v, field, hv, hfield, hcontent⟩, h⟩

theorem nodup_parseResponses {entries : List (Value × Value)} {responses out : List Response}
    (h : parseResponses description entries responses = .ok out)
    (hnodup : (responses.map (·.status)).Nodup) : (out.map (·.status)).Nodup := by
  induction entries generalizing responses with
  | nil =>
    obtain rfl : responses = out := Except.ok.inj h
    exact hnodup
  | cons entry entries ih =>
    obtain ⟨r, -, h⟩ := of_parseResponses_cons h
    exact ih h (nodup_putResponse hnodup r)

/-- A response stays if no entry of its status follows. -/
theorem mem_of_parseResponses {entries : List (Value × Value)} {responses out : List Response}
    {r : Response} (h : parseResponses description entries responses = .ok out)
    (hr : r ∈ responses) (hlast : ∀ entry ∈ entries, statusOf entry.1 ≠ .ok r.status) :
    r ∈ out := by
  induction entries generalizing responses with
  | nil =>
    obtain rfl : responses = out := Except.ok.inj h
    exact hr
  | cons entry entries ih =>
    obtain ⟨q, hq, h⟩ := of_parseResponses_cons h
    obtain ⟨hfirst, hlast⟩ := List.forall_mem_cons.1 hlast
    have hother : r.status ≠ q.status := fun hsame ↦ hfirst (hsame ▸ hq.status)
    exact ih h (mem_putResponse.2 (.inr ⟨hr, hother⟩)) hlast

/-- The last entry of a status is read as one of the responses. -/
theorem exists_response_of_parseResponses {earlier later : List (Value × Value)}
    {entry : Value × Value} {responses out : List Response}
    (h : parseResponses description (earlier ++ entry :: later) responses = .ok out)
    (hlast : ∀ other ∈ later, statusOf other.1 ≠ statusOf entry.1) :
    ∃ r ∈ out, ReadResponse description entry r := by
  induction earlier generalizing responses with
  | nil =>
    obtain ⟨r, hr, h⟩ := of_parseResponses_cons h
    rw [hr.status] at hlast
    exact ⟨r, mem_of_parseResponses h (mem_putResponse.2 (.inl rfl)) hlast, hr⟩
  | cons first earlier ih =>
    obtain ⟨r, -, h⟩ := of_parseResponses_cons h
    exact ih h

/-! ## Content -/

/-- The payload is read from a schema. -/
def ReadPayload (schema : Value) (payload : Payload) : Prop :=
  if schema.truthy then ∃ s, Schema.parse schema = .ok s ∧ payload.schema = some s
  else payload.schema = none

/-- The schema in what stands under a media type, null where there is none. -/
def schemaOf (media : Value) : Value := (media.asMap?.bind (Value.lookup · "schema")).getD .null

theorem of_parseContentEntries_cons {key media : Value} {entries : List (Value × Value)}
    {content : Content} (h : parseContentEntries ((key, media) :: entries) = .ok content) :
    ∃ payload rest, ReadPayload (schemaOf media) payload ∧
      parseContentEntries entries = .ok rest ∧ content = (key, payload) :: rest := by
  unfold parseContentEntries at h
  unfold ReadPayload
  dsimp only at h
  rw [← schemaOf] at h
  split at h
  · next htruthy =>
    obtain ⟨shape, hshape, h⟩ := Module.of_bind_eq_ok h
    obtain ⟨rest, hrest, h⟩ := Module.of_bind_eq_ok h
    cases hparse : Schema.parse (schemaOf media) with
    | error fault =>
      rw [hparse] at hshape
      cases hshape
    | ok s =>
      rw [hparse] at hshape
      refine ⟨⟨shape⟩, rest, ?_, hrest, (Except.ok.inj h).symm⟩
      rw [if_pos htruthy]
      exact ⟨s, rfl, (Except.ok.inj hshape).symm⟩
  · next hfalsy =>
    obtain ⟨shape, hshape, h⟩ := Module.of_bind_eq_ok h
    obtain ⟨rest, hrest, h⟩ := Module.of_bind_eq_ok h
    refine ⟨⟨shape⟩, rest, ?_, hrest, (Except.ok.inj h).symm⟩
    rw [if_neg hfalsy]
    exact (Except.ok.inj hshape).symm

/-- What is found under a media type was read from what stands under it. -/
theorem exists_payload_of_parseContentEntries {entries : List (Value × Value)} {content : Content}
    {mediaType : Value} {entry : Value × Value} (h : parseContentEntries entries = .ok content)
    (hentry : entries.find? (·.1.same mediaType) = some entry) :
    ∃ payload, List.find? (·.1.same mediaType) content = some (entry.1, payload) ∧
      ReadPayload (schemaOf entry.2) payload := by
  induction entries generalizing content with
  | nil => cases hentry
  | cons first entries ih =>
    obtain ⟨key, media⟩ := first
    obtain ⟨payload, rest, hpayload, hrest, rfl⟩ := of_parseContentEntries_cons h
    cases hkey : key.same mediaType with
    | false =>
      rw [List.find?_cons_of_neg (by simp [hkey])] at hentry ⊢
      exact ih hrest hentry
    | true =>
      rw [List.find?_cons_of_pos (by simp [hkey])] at hentry ⊢
      obtain rfl : (key, media) = entry := Option.some.inj hentry
      exact ⟨payload, rfl, hpayload⟩

/-! ## Operations of a description -/

theorem eq_ok_of_toOption {α : Type} {x : Except Fault α} {a : α} (h : x.toOption = some a) :
    x = .ok a := by
  cases x with
  | error fault => cases h
  | ok b => exact congrArg _ (Option.some.inj h)

/-- The response for a status stands behind the last of its entries. -/
theorem split_of_responseAt? {v response : Value} {status : String}
    {entries : List (Value × Value)}
    (hentries : (do (← v.field "responses").orEmptyMap.entries) = .ok entries)
    (h : responseAt? description v status = some response) :
    ∃ earlier entry later, entries = earlier ++ entry :: later ∧
      statusOf entry.1 = .ok status ∧ (∀ other ∈ later, statusOf other.1 ≠ .ok status) ∧
      follow description entry.2 = .ok response := by
  unfold responseAt? at h
  obtain ⟨declared, hdeclared, h⟩ := Option.bind_eq_some_iff.1 h
  obtain rfl : entries = declared :=
    Except.ok.inj (hentries.symm.trans (eq_ok_of_toOption hdeclared))
  obtain ⟨entry, hentry, hfollow⟩ := Option.bind_eq_some_iff.1 h
  obtain ⟨hstatus, later, earlier, hsplit, hlater⟩ := List.find?_eq_some_iff_append.1 hentry
  refine ⟨earlier.reverse, entry, later.reverse, ?_,
    eq_ok_of_toOption (of_decide_eq_true hstatus), fun other hother hsame ↦ ?_,
    eq_ok_of_toOption hfollow⟩
  · calc entries = entries.reverse.reverse := (List.reverse_reverse entries).symm
      _ = earlier.reverse ++ entry :: later.reverse := by
        rw [hsplit, List.reverse_append, List.reverse_cons, List.append_assoc,
          List.singleton_append]
  · have hnot := hlater other (List.mem_reverse.1 hother)
    rw [hsame] at hnot
    simp [Except.toOption] at hnot

variable {options : Options} {slot : Slot} {op : Operation}

/-- An operation has one response for each status. -/
theorem ReadFrom.nodup_status (h : ReadFrom description options slot op) :
    (op.responses.map (·.status)).Nodup := by
  obtain ⟨inherited, ds, ds', hparse⟩ := h.read
  obtain ⟨entries, -, hresponses⟩ := (eq_of_parse hparse).2.2
  exact nodup_parseResponses hresponses .nil

/-- A schema that an operation's object has is read into the response of the status. -/
theorem ReadFrom.exists_payload (h : ReadFrom description options slot op) {status : String}
    {mediaType schema : Value}
    (hschema : schemaAt? description slot.value status mediaType = some schema) :
    ∃ r ∈ op.responses, r.status = status ∧ ∃ key payload,
      List.find? (·.1.same mediaType) r.content = some (key, payload) ∧
        ReadPayload schema payload := by
  obtain ⟨inherited, ds, ds', hparse⟩ := h.read
  obtain ⟨entries, hentries, hresponses⟩ := (eq_of_parse hparse).2.2
  obtain ⟨v, hv, hschema⟩ := Option.bind_eq_some_iff.1 hschema
  obtain ⟨field, hfield, hschema⟩ := Option.bind_eq_some_iff.1 hschema
  obtain ⟨medias, hmedias, hschema⟩ := Option.bind_eq_some_iff.1 hschema
  obtain ⟨media, hmedia, hschema⟩ := Option.bind_eq_some_iff.1 hschema
  obtain ⟨members, hmembers, hschema⟩ := Option.bind_eq_some_iff.1 hschema
  -- the last entry of the status is read as the response
  obtain ⟨earlier, entry, later, hsplit, hstatus, hlast, hfollow⟩ :=
    split_of_responseAt? hentries hv
  rw [hsplit] at hresponses
  rw [← hstatus] at hlast
  obtain ⟨r, hr, hread⟩ := exists_response_of_parseResponses hresponses hlast
  refine ⟨r, hr, Except.ok.inj (hread.status.symm.trans hstatus), ?_⟩
  obtain ⟨v', field', hfollow', hfield', hcontent⟩ := hread.content
  obtain rfl : v = v' := Except.ok.inj (hfollow.symm.trans hfollow')
  obtain rfl : field = field' := Except.ok.inj ((eq_ok_of_toOption hfield).symm.trans hfield')
  -- and its content has what was read from the schema
  rw [parseContent, hmedias] at hcontent
  obtain ⟨payload, hfound, hpayload⟩ := exists_payload_of_parseContentEntries hcontent hmedia
  have hsame : schemaOf media.2 = schema := by
    rw [schemaOf, hmembers, Option.bind_some, hschema, Option.getD_some]
  exact ⟨media.1, payload, hfound, hsame ▸ hpayload⟩

end ApiClient.Operation
