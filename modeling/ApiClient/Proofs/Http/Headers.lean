import ApiClient.Http.Request
import ApiClient.Proofs.Value.Shape

/-!
# Headers by name

A header is found and removed by its name in whatever letter case, but it is written under one
spelling and leaves other spellings where they are. The first spelling is the one that is read. So
what was written is read back unless another spelling of the name stands before it with a value of
its own, and a removal leaves no spelling behind.
-/

namespace ApiClient.Http

open Text

/-- A name in small letters. -/
def foldedText (name : String) : String := mapChars lower name

/-- The names of the headers are texts. -/
abbrev TextNamed (headers : List (Value × Value)) : Prop :=
  ∀ header ∈ headers, ∃ name, header.1 = .text name

/-- Whether a header has some folded name. -/
def isCalled (folded : String) (header : Value × Value) : Bool :=
  match foldedName header.1 with
  | .ok current => current = folded
  | .error _ => false

theorem isCalled_text (folded name : String) (v : Value) :
    isCalled folded (.text name, v) = decide (foldedText name = folded) := rfl

/-- A header that has a name in some spelling has it with every value. -/
theorem isCalled_congr (folded : String) {header header' : Value × Value}
    (h : header.1 = header'.1) : isCalled folded header = isCalled folded header' := by
  unfold isCalled
  rw [h]

theorem findHeader_eq {headers : List (Value × Value)} (h : TextNamed headers)
    (folded : String) :
    findHeader folded headers = .ok ((headers.find? (isCalled folded)).map (·.2)) := by
  induction headers with
  | nil => rfl
  | cons header headers ih =>
    obtain ⟨name, v⟩ := header
    obtain ⟨⟨text, rfl⟩, hrest⟩ := List.forall_mem_cons.1 h
    change (if foldedText text = folded then .ok (some v) else findHeader folded headers) = _
    rw [List.find?_cons, isCalled_text, ih hrest]
    by_cases hname : foldedText text = folded <;> simp [hname]

theorem dropHeader_eq {headers : List (Value × Value)} (h : TextNamed headers)
    (folded : String) :
    dropHeader folded headers = .ok (headers.filter (!isCalled folded ·)) := by
  induction headers with
  | nil => rfl
  | cons header headers ih =>
    obtain ⟨name, v⟩ := header
    obtain ⟨⟨text, rfl⟩, hrest⟩ := List.forall_mem_cons.1 h
    have hcons : dropHeader folded ((.text text, v) :: headers) =
        (dropHeader folded headers).map fun rest ↦
          if foldedText text = folded then rest else (.text text, v) :: rest := by
      rw [dropHeader]
      cases dropHeader folded headers <;> rfl
    rw [hcons, ih hrest, List.filter_cons, isCalled_text]
    by_cases hname : foldedText text = folded <;> simp [hname, Except.map]

/-- A header as it is after another value was written under some spelling of a name. -/
def rewritten (name : String) (v : Value) (header : Value × Value) : Value × Value :=
  if header.1.isText name then (header.1, v) else header

theorem isCalled_rewritten (folded name : String) (v : Value) :
    isCalled folded ∘ rewritten name v = isCalled folded := by
  funext header
  refine isCalled_congr folded ?_
  unfold rewritten
  split <;> rfl

theorem rewritten_snd_eq_iff (name : String) (v : Value) (header : Value × Value) :
    (rewritten name v header).2 = v ↔ header.1 = .text name ∨ header.2 = v := by
  unfold rewritten
  split
  · next hspelled => exact iff_of_true rfl (.inl (Value.isText_iff.1 hspelled))
  · next hspelled =>
    rw [Value.isText_iff] at hspelled
    exact (or_iff_right hspelled).symm

theorem textNamed_insert {headers : List (Value × Value)} (h : TextNamed headers) (name : String)
    (v : Value) : TextNamed (Value.insert headers (.text name) v) := by
  unfold Value.insert
  split
  · intro header hheader
    obtain ⟨old, hold, rfl⟩ := List.mem_map.1 hheader
    obtain ⟨text, htext⟩ := h old hold
    refine ⟨text, ?_⟩
    split <;> exact htext
  · exact List.forall_mem_append.2 ⟨h, List.forall_mem_singleton.2 ⟨name, rfl⟩⟩

/-- Where a header is written, the first one that is found under its name is the one that was found
before, with the new value if it has the same spelling. -/
theorem find?_insert (headers : List (Value × Value)) (name : String) (v : Value) :
    (Value.insert headers (.text name) v).find? (isCalled (foldedText name)) =
      some (((headers.find? (isCalled (foldedText name))).map (rewritten name v)).getD
        (.text name, v)) := by
  have hcalled : isCalled (foldedText name) (.text name, v) = true := by
    rw [isCalled_text, decide_eq_true rfl]
  unfold Value.insert
  simp only [Value.same_text]
  split
  · next hwritten =>
    obtain ⟨header, hheader, hspelled⟩ := List.any_eq_true.1 hwritten
    have hsome : (headers.find? (isCalled (foldedText name))).isSome := by
      refine List.find?_isSome.2 ⟨header, hheader, ?_⟩
      rw [← hcalled]
      exact isCalled_congr _ (Value.isText_iff.1 hspelled)
    obtain ⟨first, hfirst⟩ := Option.isSome_iff_exists.1 hsome
    change (headers.map (rewritten name v)).find? _ = _
    rw [List.find?_map, isCalled_rewritten, hfirst]
    rfl
  · next hnew =>
    rw [List.find?_append, List.find?_cons, hcalled]
    cases hfirst : headers.find? (isCalled (foldedText name)) with
    | none => rfl
    | some first =>
      have hspelled : first.1.isText name = false := by
        rw [Bool.not_eq_true, List.any_eq_false] at hnew
        simpa using hnew first (List.mem_of_find?_eq_some hfirst)
      simp [rewritten, hspelled]

namespace Request

theorem setHeader_text (r : Request) (name : String) (v : Value) :
    r.setHeader (.text name) v =
      .ok { r with headers := Value.insert r.headers (.text name) (.text (parameterText v)) } := rfl

theorem header_text {r : Request} (h : TextNamed r.headers)
    (name : String) :
    r.header (.text name) = .ok ((r.headers.find? (isCalled (foldedText name))).map (·.2)) :=
  findHeader_eq h (foldedText name)

theorem removeHeader_text {r : Request} (h : TextNamed r.headers)
    (name : String) :
    r.removeHeader (.text name) =
      .ok { r with headers := r.headers.filter (!isCalled (foldedText name) ·) } := by
  change (dropHeader (foldedText name) r.headers).map (fun headers ↦ { r with headers }) = _
  rw [dropHeader_eq h]
  rfl

/-- A header that was written is read back, under any spelling of its name, just if the first header
that had the name before was spelled alike or had the same value, or there was none. After a removal
no header has the name, and the others are as they were. -/
theorem header_setHeader_iff (r : Request) (hnames : TextNamed r.headers) {n n' : String}
    (h : foldedText n = foldedText n') (v : Value) :
    (∃ written, r.setHeader (.text n) v = .ok written ∧
      (written.header (.text n') = .ok (some (.text (parameterText v))) ↔
        ∀ first ∈ r.headers.find? (isCalled (foldedText n)),
          first.1 = .text n ∨ first.2 = .text (parameterText v))) ∧
    ∃ rest, r.removeHeader (.text n') = .ok rest ∧ rest.header (.text n) = .ok none ∧
      rest = { r with headers := r.headers.filter (!isCalled (foldedText n) ·) } := by
  constructor
  · refine ⟨_, setHeader_text r n v, ?_⟩
    have hwritten := textNamed_insert hnames n (.text (parameterText v))
    rw [header_text hwritten, ← h, find?_insert]
    cases r.headers.find? (isCalled (foldedText n)) with
    | none => simp
    | some first => simp [rewritten_snd_eq_iff]
  · refine ⟨_, removeHeader_text hnames n', ?_, by rw [h]⟩
    have hrest : TextNamed (r.headers.filter (!isCalled (foldedText n') ·)) :=
      fun header hheader ↦ hnames header (List.mem_filter.1 hheader).1
    have hnone : (r.headers.filter (!isCalled (foldedText n') ·)).find?
        (isCalled (foldedText n)) = none := by
      rw [List.find?_eq_none, h]
      intro header hheader
      simpa using (List.mem_filter.1 hheader).2
    rw [header_text hrest, hnone]
    rfl

/-- A request with two spellings of one name. -/
def spelledTwice : Request where
  pathname := "/pets"
  method := "POST"
  headers := [("content-type", "text/plain"), ("Accept", "text/csv"), ("Content-Type", "text/csv")]

/-- The first spelling takes the new value, and both are removed. -/
theorem header_setHeader_firstSpelling :
    TextNamed spelledTwice.headers ∧ foldedText "content-type" = foldedText "CONTENT-TYPE" ∧
    (∃ written, spelledTwice.setHeader "content-type" "text/html" = .ok written ∧
      written.header "CONTENT-TYPE" = .ok (some "text/html")) ∧
    ∃ rest, spelledTwice.removeHeader "CONTENT-TYPE" = .ok rest ∧
      rest.header "content-type" = .ok none ∧
      rest = { spelledTwice with headers := [("Accept", "text/csv")] } := by
  have hnames : TextNamed spelledTwice.headers := by
    simp only [TextNamed, spelledTwice, List.forall_mem_cons]
    exact ⟨⟨_, rfl⟩, ⟨_, rfl⟩, ⟨_, rfl⟩, List.forall_mem_nil _⟩
  have hsame : foldedText "content-type" = foldedText "CONTENT-TYPE" := by decide
  have hfirst : spelledTwice.headers.find? (isCalled (foldedText "content-type")) =
      some (.text "content-type", .text "text/plain") := rfl
  obtain ⟨⟨written, hwritten, hread⟩, rest, hremoved, hnone, hrest⟩ :=
    header_setHeader_iff spelledTwice hnames hsame "text/html"
  refine ⟨hnames, hsame, ⟨written, hwritten, hread.2 fun first hmem ↦ .inl ?_⟩, rest, hremoved,
    hnone, hrest⟩
  rw [hfirst, Option.mem_some_iff] at hmem
  rw [← hmem]

/-- What is written under a second spelling is not read back: the first one keeps its value. -/
theorem header_setHeader_secondSpelling :
    foldedText "Content-Type" = foldedText "content-type" ∧
    ∃ written,
      Request.setHeader
        { pathname := "/pets", method := "POST", headers := [("Content-Type", "text/plain")] }
        "content-type" "application/json" = .ok written ∧
      written.header "Content-Type" = .ok (some "text/plain") ∧
      written.header "Content-Type" ≠ .ok (some (.text (parameterText "application/json"))) := by
  have hsame : foldedText "Content-Type" = foldedText "content-type" := by decide
  refine ⟨hsame, _, setHeader_text _ _ _, ?_⟩
  have hnames : TextNamed [("Content-Type", "text/plain")] :=
    List.forall_mem_singleton.2 ⟨"Content-Type", rfl⟩
  rw [header_text (textNamed_insert hnames _ _), hsame, find?_insert]
  refine ⟨rfl, fun h ↦ ?_⟩
  have hread : some (Value.text "text/plain") = some (.text "application/json") := Except.ok.inj h
  injection hread with hvalue
  injection hvalue with htext
  exact absurd htext (by decide)

end Request

end ApiClient.Http
