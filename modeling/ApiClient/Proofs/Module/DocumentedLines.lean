import ApiClient.Proofs.Emission.Documentation
import ApiClient.Proofs.Module.Docstrings
import ApiClient.Proofs.Text.Escapes

/-!
# Lines of documentation

The summary and the description of an operation are made one line each before they document its
methods: every run of blanks has become a space, and whatever ends a line is a blank. In the text of
a module each of these lines stands escaped on a line of its own, behind the quotes that open the
docstring of the method or behind the margin. There it is read back as it was.
-/

namespace ApiClient

open Work

namespace Text

/-- What ends a line: the line and paragraph ends, and the separators of files, groups and
records. -/
def lineEnds : CharSet where
  ranges := [(0xA, 0xD), (0x1C, 0x1E), (0x85, 0x85), (0x2028, 0x2029)]

def IsLineEnd (c : Char) : Prop := lineEnds.contains c = true

instance (c : Char) : Decidable (IsLineEnd c) := inferInstanceAs (Decidable (_ = true))

theorem isBlank_of_isLineEnd {c : Char} (h : IsLineEnd c) : isBlank c = true := by
  simp only [IsLineEnd, CharSet.contains, lineEnds, List.any_cons, List.any_nil, Bool.or_eq_true,
    Bool.and_eq_true, decide_eq_true_eq, Bool.or_false] at h
  simp only [isBlank, CharSet.contains, blanks, List.any_cons, List.any_nil, Bool.or_eq_true,
    Bool.and_eq_true, decide_eq_true_eq, Bool.or_false]
  omega

/-- A text without the end of a line in it. -/
def OneLine (cs : List Char) : Prop := ∀ c ∈ cs, ¬ IsLineEnd c

theorem not_mem_of_oneLine {cs : List Char} (h : OneLine cs) : '\n' ∉ cs :=
  fun hmem ↦ h _ hmem (by decide)

/-! ## Words -/

theorem of_mem_splitOnP {α : Type} {p : α → Bool} {as part : List α} (h : part ∈ as.splitOnP p) :
    ∀ a ∈ part, p a = false := by
  induction as generalizing part with
  | nil =>
    obtain rfl : part = [] := by simpa using h
    simp
  | cons b as ih =>
    rw [List.splitOnP_cons_eq_if_modifyHead] at h
    split at h
    · rcases List.mem_cons.1 h with rfl | h
      · simp
      · exact ih h
    · next hb =>
      cases hparts : as.splitOnP p with
      | nil => simp [hparts] at h
      | cons first parts =>
        rw [hparts] at h ih
        rcases List.mem_cons.1 h with rfl | h
        · exact List.forall_mem_cons.2 ⟨Bool.not_eq_true _ ▸ hb, ih List.mem_cons_self⟩
        · exact ih (List.mem_cons_of_mem _ h)

theorem of_mem_words {cs word : List Char} (h : word ∈ words cs) : ∀ c ∈ word, isBlank c = false :=
  of_mem_splitOnP (List.mem_of_mem_filter h)

theorem mem_join {separator : List Char} {parts : List (List Char)} {c : Char}
    (h : c ∈ join separator parts) : c ∈ separator ∨ ∃ part ∈ parts, c ∈ part := by
  induction parts with
  | nil => simp [join] at h
  | cons part parts ih =>
    cases parts with
    | nil => exact .inr ⟨part, List.mem_singleton_self _, by simpa [join] using h⟩
    | cons next parts =>
      rw [join, List.intercalate_cons_cons, List.append_assoc, List.mem_append,
        List.mem_append] at h
      rcases h with h | h | h
      · exact .inr ⟨part, List.mem_cons_self, h⟩
      · exact .inl h
      · exact (ih h).imp_right fun ⟨part', hpart', hc⟩ ↦
          ⟨part', List.mem_cons_of_mem _ hpart', hc⟩

/-- Words with spaces between them make one line. -/
theorem oneLine_join_words (cs : List Char) : OneLine (join [' '] (words cs)) := by
  intro c hc hend
  rcases mem_join hc with hspace | ⟨word, hword, hc⟩
  · rw [List.mem_singleton.1 hspace] at hend
    exact absurd hend (by decide)
  · exact absurd (isBlank_of_isLineEnd hend) (Bool.eq_false_iff.1 (of_mem_words hword c hc))

end Text

namespace Operation

theorem oneLine_of_plainText {v : Value} {line : String} (h : plainText v = .ok line) :
    Text.OneLine line.toList := by
  unfold plainText at h
  split at h
  · next s =>
    unfold plainLine at h
    split at h
    · obtain rfl := Except.ok.inj h
      rw [String.toList_ofList]
      exact Text.oneLine_join_words _
    · cases h
  · split at h
    · cases h
    · obtain rfl := Except.ok.inj h
      exact fun c hc ↦ absurd hc (by simp)

theorem oneLine_of_proseField {v : Value} {key line : String} (h : proseField v key = .ok line) :
    Text.OneLine line.toList := by
  obtain ⟨field, -, h⟩ := Module.of_bind_eq_ok h
  exact oneLine_of_plainText h

/-- The summary and the description of an operation that was read are one line each. -/
theorem oneLine_of_parse {description path v : Value} {method : String}
    {inherited : List Parameter} {options : Options} {ds ds' : List Diagnostic} {op : Operation}
    (h : exec (parse description path method v inherited options) ds = (.ok op, ds')) :
    Text.OneLine op.summary.toList ∧ Text.OneLine op.description.toList := by
  unfold parse at h
  obtain ⟨plain, -, h⟩ := of_exec_lift_bind h
  obtain ⟨tags, -, h⟩ := of_exec_lift_bind h
  obtain ⟨tag, ds₁, -, h⟩ := of_exec_bind h
  obtain ⟨declared, -, h⟩ := of_exec_lift_bind h
  obtain ⟨id, ds₂, -, h⟩ := of_exec_bind h
  obtain ⟨raws, -, h⟩ := of_exec_lift_bind h
  obtain ⟨own, ds₃, -, h⟩ := of_exec_bind h
  obtain ⟨body, -, h⟩ := of_exec_lift_bind h
  obtain ⟨field, -, h⟩ := of_exec_lift_bind h
  obtain ⟨entries, -, h⟩ := of_exec_lift_bind h
  obtain ⟨responses, -, h⟩ := of_exec_lift_bind h
  obtain ⟨parameters, -, h⟩ := of_exec_lift_bind h
  obtain ⟨summary, hsummary, h⟩ := of_exec_lift_bind h
  obtain ⟨prose, hprose, h⟩ := of_exec_lift_bind h
  obtain ⟨deprecated, -, h⟩ := of_exec_lift_bind h
  obtain ⟨rfl, -⟩ := exec_pure_eq_ok.1 h
  exact ⟨oneLine_of_proseField hsummary, oneLine_of_proseField hprose⟩

end Operation

namespace Module

/-- A line of documentation without an end in it is read back, whatever follows. -/
theorem readLine_escapeDoc (named : List Char → Option ℕ) {line : String}
    (h : Text.OneLine line.toList) (rest : List Char) :
    Text.readLine named ((escapeDoc line).toList ++ '\n' :: rest) = some (line.toList, rest) := by
  rw [toList_escapeDoc]
  exact Text.readLine_escapeQuotes named (Text.not_mem_of_oneLine h) rest

/-- The methods of an operation are documented by its lines, escaped. -/
theorem doc_of_emitOrSkip {setting : Emission.Setting} {op : Operation} {e e' : Emission}
    {methods : List Method} (h : exec (emitOrSkip setting op) e = (.ok methods, e')) {m : Method}
    (hm : m ∈ methods) : m.doc = op.doc.map escapeDoc := by
  rcases emitOrSkip_cases h with ⟨emitted, hemit, rfl⟩ | ⟨_, _, _, rfl, _⟩
  · rw [Emission.emit_eq, exec_map] at hemit
    obtain ⟨bare, -, rfl⟩ := exists_of_map_eq_ok (congrArg Prod.fst hemit)
    obtain ⟨documented, hdocumented, rfl⟩ := List.mem_map.1 hm
    obtain ⟨undocumented, -, rfl⟩ := List.mem_map.1 hdocumented
    rfl
  · cases hm

/-! ## Places of the lines -/

/-- What comes before a line of documentation in the body of a docstring: nothing, or lines and the
margin. -/
def Precedes (before : String) : Prop :=
  before = "" ∨ ∃ lines, before = lines ++ "\n" ++ indent 2 ""

/-- Lines with an empty line before each of them. -/
def paragraphs (lines : List String) : String :=
  joinLines (lines.flatMap fun line ↦ ["", indent 2 line])

theorem exists_around_of_mem_doc {m : Method} {line : String} (h : line ∈ m.doc) :
    ∃ before rest, Precedes before ∧ methodDoc m = before ++ line ++ "\n" ++ rest := by
  let place := "\n" ++ indent 2 (placeDoc m) ++ "\n        "
  have hbody : methodDoc m = m.doc.headD "" ++ "\n" ++ paragraphs (m.doc.drop 1) ++ place := by
    simp only [methodDoc, paragraphs, place, String.append_assoc]
  rw [hbody]
  cases hdoc : m.doc with
  | nil => rw [hdoc] at h; cases h
  | cons first others =>
    rw [hdoc] at h
    rw [List.headD_cons, List.drop_one, List.tail_cons]
    rcases List.mem_cons.1 h with rfl | h
    · refine ⟨"", paragraphs others ++ place, .inl rfl, ?_⟩
      simp only [String.empty_append, String.append_assoc]
    · obtain ⟨front, back, rfl⟩ := List.append_of_mem h
      refine ⟨_, paragraphs back ++ place, .inr ⟨first ++ "\n" ++ paragraphs front, rfl⟩, ?_⟩
      refine String.toList_inj.1 ?_
      simp [paragraphs, joinLines, toList_indent]

/-- A line of documentation stands in the text of a module behind the signature of its method and
the quotes that open the docstring. -/
theorem exists_place_of_mem_doc {content : Content} {text : String} (h : content.text = .ok text)
    {c : ApiClass} (hc : c ∈ content.classes) {m : Method} (hm : m ∈ c.methods) {line : String}
    (hline : line ∈ m.doc) :
    ∃ front before rest, Precedes before ∧
      text = front ++ signatureLine m ++ "\n" ++ indent 2 "\"\"\"" ++ before ++ line ++ "\n" ++
        rest := by
  obtain ⟨front, rest, htext⟩ := exists_around_of_mem h hc hm
  obtain ⟨before, rest', hbefore, hbody⟩ := exists_around_of_mem_doc hline
  refine ⟨front, before, rest' ++ "\"\"\"" ++ rest, hbefore, ?_⟩
  rw [htext, hbody]
  refine String.toList_inj.1 ?_
  simp [docstring, toList_indent]

/-- A method is documented by the lines of its operation, escaped. Those that come from the summary
and the description have no end of a line in them. Each stands in the text of a module that has the
method between the quotes that open the docstring and the end of a line, and read from its place by
the rules for escapes it is what it was, without closing quotes before its end. -/
theorem readLine_doc {description path v : Value} {method : String} {inherited : List Parameter}
    {options : Options} {ds ds' : List Diagnostic} {op : Operation}
    (hread : exec (Operation.parse description path method v inherited options) ds = (.ok op, ds'))
    {setting : Emission.Setting} {e e' : Emission} {methods : List Method}
    (hemit : exec (emitOrSkip setting op) e = (.ok methods, e')) {m : Method} (hm : m ∈ methods) :
    m.doc = op.doc.map escapeDoc ∧
    ∀ line ∈ op.doc, line = op.summary ∨ line = op.description →
      Text.OneLine line.toList ∧
      (∀ named rest, Text.readLine named ((escapeDoc line).toList ++ '\n' :: rest) =
        some (line.toList, rest)) ∧
      ∀ (content : Content) (text : String), content.text = .ok text →
        ∀ c ∈ content.classes, m ∈ c.methods →
          ∃ front before rest, Precedes before ∧
            text = front ++ signatureLine m ++ "\n" ++ indent 2 "\"\"\"" ++ before ++
              escapeDoc line ++ "\n" ++ rest := by
  have hdoc := doc_of_emitOrSkip hemit hm
  refine ⟨hdoc, fun line hline hfrom ↦ ?_⟩
  obtain ⟨hsummary, hdescription⟩ := Operation.oneLine_of_parse hread
  have hone : Text.OneLine line.toList := by
    rcases hfrom with rfl | rfl
    · exact hsummary
    · exact hdescription
  refine ⟨hone, fun named rest ↦ readLine_escapeDoc named hone rest,
    fun content text htext c hc hm ↦ exists_place_of_mem_doc htext hc hm ?_⟩
  rw [hdoc]
  exact List.mem_map_of_mem hline

/-- An operation with backslashes before quotes, runs of quotes at both ends of its texts, and two
kinds of line ends. -/
def quotingOperation : Value := .map [
  ("operationId", "x"), ("tags", .list ["x"]), ("summary", "\"\"\"\"a\\"),
  ("description", "say\u2028\\\"\"\"\n<b>now</b>\"\"\"\"\""), ("responses", .map [])]

theorem readLine_doc_quoting :
    ∃ op ds methods e m, exec (Operation.parse (.map []) "/x" "get" quotingOperation [] {}) [] =
        (.ok op, ds) ∧
      exec (emitOrSkip ⟨[], {}⟩ op) .fresh = (.ok methods, e) ∧ m ∈ methods ∧
      m.doc = ["\\\"\\\"\\\"\"a\\\\",
        "say \\\\\\\"\\\"\\\" now\\\"\\\"\\\"\"\""] ∧
      ∀ line ∈ op.doc, Text.OneLine line.toList ∧ ∀ named rest,
        Text.readLine named ((escapeDoc line).toList ++ '\n' :: rest) =
          some (line.toList, rest) := by
  have hresult : (exec (Operation.parse (.map []) "/x" "get" quotingOperation [] {})
      []).1.toOption.map (fun op ↦ (decide (op.doc = [op.summary, op.description]),
        (exec (emitOrSkip ⟨[], {}⟩ op) .fresh).1.toOption.map (·.map (·.doc)))) =
      some (true, some [["\\\"\\\"\\\"\"a\\\\",
        "say \\\\\\\"\\\"\\\" now\\\"\\\"\\\"\"\""]]) := by decide +kernel
  obtain ⟨op, ds, hop, hresult⟩ := exists_exec_of_map hresult
  obtain ⟨hlines, hmethods⟩ := Prod.mk.injEq .. ▸ hresult
  obtain ⟨methods, e, hemit, hdocs⟩ := exists_exec_of_map hmethods
  have hmem := hdocs ▸ List.mem_singleton_self _
  obtain ⟨m, hm, hdoc⟩ := List.mem_map.1 hmem
  obtain ⟨-, hread⟩ := readLine_doc hop hemit hm
  refine ⟨op, ds, methods, e, m, hop, hemit, hm, hdoc, fun line hline ↦ ?_⟩
  have hfrom : line = op.summary ∨ line = op.description := by
    rw [of_decide_eq_true hlines] at hline
    exact List.mem_pair.1 hline
  exact ⟨(hread line hline hfrom).1, (hread line hline hfrom).2.1⟩

end Module

end ApiClient
