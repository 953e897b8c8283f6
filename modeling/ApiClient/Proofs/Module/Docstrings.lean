import ApiClient.Module.Layout
import ApiClient.Proofs.Module.Operations
import ApiClient.Proofs.Text.Docstring

/-!
# Docstrings of a module

The module and each of its methods begin with a docstring. The lines of documentation in it are
escaped, and the title and the version of the description, the path and the media type of a method
stand in it as they are. So a docstring is closed by the quotes that are put behind it just if these
texts do not close it before.
-/

namespace ApiClient

open Work

theorem Operation.upper_contained {op : Operation} (h : op.method ∈ Operation.methods) :
    Text.Contained (upperText op.method).toList := by
  have hall : ∀ method ∈ Operation.methods, Text.Contained (upperText method).toList := by
    decide
  exact hall op.method h

namespace Module

/-- The text of lines. -/
def joinLines (lines : List String) : String := String.join (lines.map (· ++ "\n"))

theorem joinLines_append (lines lines' : List String) :
    joinLines (lines ++ lines') = joinLines lines ++ joinLines lines' := by
  rw [joinLines, List.map_append, String.join_append, joinLines, joinLines]

theorem joinLines_cons (line : String) (lines : List String) :
    joinLines (line :: lines) = line ++ "\n" ++ joinLines lines := by
  rw [joinLines, List.map_cons, String.join_cons, joinLines]

/-! ## Bodies -/

/-- A docstring with some body. -/
def docstring (body : String) : String := "\"\"\"" ++ body ++ "\"\"\""

/-- The docstring of a body that something follows is closed by the quotes behind the body. -/
def Closed (body rest : String) : Prop :=
  Text.readDocstring (body ++ "\"\"\"" ++ rest).toList = some (body.toList, rest.toList)

/-- The body of a module's docstring. -/
def moduleDoc (title version : String) : String :=
  title ++ " client.\n\nGenerated by clientgen from " ++ title ++ " " ++ version
    ++ ". Do not edit.\n"

/-- The place of a method: its method, path and media type. -/
def placeDoc (m : Method) : String :=
  m.httpMethod ++ " " ++ m.path.plain ++ " (" ++ m.mediaType.plain ++ ")"

/-- The body of a method's docstring. -/
def methodDoc (m : Method) : String :=
  m.doc.headD "" ++ "\n" ++ joinLines ((m.doc.drop 1).flatMap fun line ↦ ["", indent 2 line])
    ++ "\n" ++ indent 2 (placeDoc m) ++ "\n        "

/-- The line that opens the definition of a method. -/
def signatureLine (m : Method) : String :=
  indent 1 ("async def " ++ m.name ++ "(" ++ m.signature ++ ") -> " ++ m.returns ++ ":")

theorem toList_indent (depth : ℕ) (line : String) :
    (indent depth line).toList = List.replicate (4 * depth) ' ' ++ line.toList := by
  rw [indent, String.toList_append, String.toList_ofList]

theorem closed_iff {body rest : String} {c : Char} (hc : Text.IsPlain c)
    (hbody : body.toList.getLast? = some c) : Closed body rest ↔ Text.Contained body.toList := by
  unfold Closed
  rw [String.toList_append, String.toList_append]
  exact Text.readDocstring_closed_iff hc hbody

theorem contained_moduleDoc_iff (title version : String) :
    Text.Contained (moduleDoc title version).toList ↔
      Text.Contained title.toList ∧ Text.Contained version.toList := by
  have hchars : (moduleDoc title version).toList = title.toList ++ ' ' ::
      ("client.\n\nGenerated by clientgen from".toList ++ ' ' ::
        (title.toList ++ ' ' :: (version.toList ++ '.' :: " Do not edit.\n".toList))) := by
    simp [moduleDoc]
  have hspace : Text.IsPlain ' ' := by decide
  have hdot : Text.IsPlain '.' := by decide
  rw [hchars, Text.contained_append_iff hspace, Text.contained_append_iff hspace,
    Text.contained_append_iff hspace, Text.contained_append_iff hdot]
  have hfirst : Text.Contained "client.\n\nGenerated by clientgen from".toList := by decide
  have hlast : Text.Contained " Do not edit.\n".toList := by decide
  simp only [hfirst, hlast, and_true, true_and]
  exact ⟨fun h ↦ h.2, fun h ↦ ⟨h.1, h⟩⟩

theorem contained_placeDoc_iff {m : Method} (h : Text.Contained m.httpMethod.toList) :
    Text.Contained (placeDoc m).toList ↔
      Text.Contained m.path.plain.toList ∧ Text.Contained m.mediaType.plain.toList := by
  have hchars : (placeDoc m).toList = m.httpMethod.toList ++ ' ' :: (m.path.plain.toList ++ ' ' ::
      '(' :: (m.mediaType.plain.toList ++ ')' :: [])) := by
    simp [placeDoc]
  have hspace : Text.IsPlain ' ' := by decide
  have hopen : Text.IsPlain '(' := by decide
  have hclose : Text.IsPlain ')' := by decide
  rw [hchars, Text.contained_append_iff hspace, Text.contained_append_iff hspace,
    Text.contained_cons_iff hopen, Text.contained_append_iff hclose, and_iff_right h]
  exact and_congr_right fun _ ↦ and_iff_left rfl

theorem contained_indent_iff (depth : ℕ) (line : String) :
    Text.Contained (indent depth line).toList ↔ Text.Contained line.toList := by
  rw [toList_indent]
  induction 4 * depth with
  | zero => rfl
  | succ n ih =>
    rw [List.replicate_succ, List.cons_append, Text.contained_cons_iff (by decide), ih]

/-- Lines are contained together just if each of them is. -/
theorem contained_joinLines_append_iff (lines : List String) (rest : List Char) :
    Text.Contained ((joinLines lines).toList ++ rest) ↔
      (∀ line ∈ lines, Text.Contained line.toList) ∧ Text.Contained rest := by
  induction lines with
  | nil => simp [joinLines]
  | cons line lines ih =>
    have hchars : (joinLines (line :: lines)).toList ++ rest =
        line.toList ++ '\n' :: ((joinLines lines).toList ++ rest) := by
      simp [joinLines_cons]
    rw [hchars, Text.contained_append_iff (by decide), ih, List.forall_mem_cons, and_assoc]

/-- Lines of documentation that were escaped do not matter. -/
theorem contained_methodDoc_iff {m : Method} (hmethod : Text.Contained m.httpMethod.toList)
    (hdoc : ∀ line ∈ m.doc, Text.Contained line.toList) :
    Text.Contained (methodDoc m).toList ↔
      Text.Contained m.path.plain.toList ∧ Text.Contained m.mediaType.plain.toList := by
  have hchars : (methodDoc m).toList = (m.doc.headD "").toList ++ '\n' ::
      ((joinLines ((m.doc.drop 1).flatMap fun line ↦ ["", indent 2 line])).toList ++ '\n' ::
        ((indent 2 (placeDoc m)).toList ++ '\n' :: "        ".toList)) := by
    simp [methodDoc]
  have hfirst : Text.Contained (m.doc.headD "").toList := by
    cases hlines : m.doc with
    | nil => rfl
    | cons line lines => exact hdoc line (hlines ▸ List.mem_cons_self)
  have hothers : ∀ line ∈ (m.doc.drop 1).flatMap (fun line ↦ ["", indent 2 line]),
      Text.Contained line.toList := by
    intro line hline
    obtain ⟨line', hline', hmem⟩ := List.mem_flatMap.1 hline
    rcases List.mem_pair.1 hmem with rfl | rfl
    · rfl
    · exact (contained_indent_iff 2 line').2 (hdoc line' (List.mem_of_mem_drop hline'))
  have hbreak : Text.IsPlain '\n' := by decide
  have hlast : Text.Contained "        ".toList := by decide
  rw [hchars, Text.contained_append_iff hbreak, and_iff_right hfirst,
    contained_joinLines_append_iff, and_iff_right hothers, Text.contained_cons_iff hbreak,
    Text.contained_append_iff hbreak, and_iff_left hlast, contained_indent_iff,
    contained_placeDoc_iff hmethod]

theorem closed_moduleDoc_iff (title version rest : String) :
    Closed (moduleDoc title version) rest ↔
      Text.Contained title.toList ∧ Text.Contained version.toList := by
  rw [closed_iff (c := '\n') (by decide), contained_moduleDoc_iff]
  simp [moduleDoc, List.getLast?_append, List.getLast?_cons]

theorem closed_methodDoc_iff {m : Method} (hmethod : Text.Contained m.httpMethod.toList)
    (hdoc : ∀ line ∈ m.doc, Text.Contained line.toList) (rest : String) :
    Closed (methodDoc m) rest ↔
      Text.Contained m.path.plain.toList ∧ Text.Contained m.mediaType.plain.toList := by
  rw [closed_iff (c := ' ') (by decide), contained_methodDoc_iff hmethod hdoc]
  simp [methodDoc, List.getLast?_append, List.getLast?_cons]

/-! ## Places in the text -/

theorem joinLines_docLines (m : Method) :
    joinLines (docLines m) = indent 2 (docstring (methodDoc m)) ++ "\n" := by
  refine String.toList_inj.1 ?_
  simp only [docLines, joinLines_append, joinLines_cons]
  simp [docstring, methodDoc, joinLines, placeDoc, toList_indent]

theorem exists_lines_of_text {content : Content} {text : String} (h : content.text = .ok text) :
    ∃ head declarations, headLines content.sheet = .ok head ∧
      text = joinLines (head ++ declarations ++ content.classes.flatMap apiClassLines) := by
  unfold Content.text Sheet.text at h
  obtain ⟨head, hhead, h⟩ := of_bind_eq_ok h
  obtain ⟨declarations, -, h⟩ := of_bind_eq_ok h
  exact ⟨head, declarations, hhead, (Except.ok.inj h).symm⟩

theorem plain_of_plain? {v : Value} {text : String} (h : v.plain? = .ok text) : text = v.plain := by
  unfold Value.plain? at h
  split at h
  · exact (Except.ok.inj h).symm
  · cases h

/-- The first lines of a module are those of its docstring. -/
theorem exists_rest_of_headLines {sheet : Sheet} {head : List String}
    (h : headLines sheet = .ok head) :
    ∃ rest, head = ["\"\"\"" ++ sheet.title.plain ++ " client.", "",
      "Generated by clientgen from " ++ sheet.title.plain ++ " " ++ sheet.version.plain
        ++ ". Do not edit.", "\"\"\""] ++ rest := by
  unfold headLines at h
  obtain ⟨title, htitle, h⟩ := of_bind_eq_ok h
  obtain ⟨version, hversion, h⟩ := of_bind_eq_ok h
  rw [← plain_of_plain? htitle, ← plain_of_plain? hversion, ← Except.ok.inj h]
  exact ⟨_, rfl⟩

/-- The text of a module begins with its docstring. -/
theorem exists_rest_of_text {content : Content} {text : String} (h : content.text = .ok text) :
    ∃ rest, text = docstring (moduleDoc content.title.plain content.version.plain) ++ rest := by
  obtain ⟨head, declarations, hhead, rfl⟩ := exists_lines_of_text h
  obtain ⟨rest, rfl⟩ := exists_rest_of_headLines hhead
  refine ⟨"\n" ++ joinLines (rest ++ declarations ++ content.classes.flatMap apiClassLines), ?_⟩
  refine String.toList_inj.1 ?_
  simp only [joinLines_append, joinLines_cons]
  simp [docstring, moduleDoc, joinLines, Content.sheet]

theorem exists_rest_of_methodLines (m : Method) :
    ∃ rest, methodLines m = [""] ++ (signatureLine m :: docLines m) ++ rest := by
  unfold methodLines
  simp only [List.append_assoc]
  exact ⟨_, rfl⟩

theorem infix_flatMap {α β : Type} (f : α → List β) {as : List α} {a : α} (h : a ∈ as) :
    f a <:+: as.flatMap f := by
  rw [List.flatMap_def]
  exact List.infix_of_mem_flatten (List.mem_map_of_mem h)

/-- The docstring of a method stands behind its signature. -/
theorem exists_around_of_mem {content : Content} {text : String} (h : content.text = .ok text)
    {c : ApiClass} (hc : c ∈ content.classes) {m : Method} (hm : m ∈ c.methods) :
    ∃ before rest, text =
      before ++ signatureLine m ++ "\n" ++ indent 2 (docstring (methodDoc m)) ++ rest := by
  obtain ⟨head, declarations, -, rfl⟩ := exists_lines_of_text h
  have hclass : apiClassLines c <:+: head ++ declarations ++
      content.classes.flatMap apiClassLines :=
    List.infix_append_of_infix_right (infix_flatMap apiClassLines hc)
  have hmethod : methodLines m <:+: apiClassLines c :=
    List.infix_append_of_infix_right (infix_flatMap methodLines hm)
  have hdoc : signatureLine m :: docLines m <:+: methodLines m := by
    obtain ⟨rest, hrest⟩ := exists_rest_of_methodLines m
    rw [hrest]
    exact List.infix_append _ _ _
  obtain ⟨before, rest, hlines⟩ := (hdoc.trans hmethod).trans hclass
  refine ⟨joinLines before, "\n" ++ joinLines rest, ?_⟩
  rw [← hlines, joinLines_append, joinLines_append, joinLines_cons, joinLines_docLines]
  refine String.toList_inj.1 ?_
  simp

/-! ## Methods of a run -/

namespace Run

variable {description : Value} {options : Options} {content : Content}

/-- The lines that document a method of a run are escaped. -/
theorem contained_doc (run : Run description options content) {c : ApiClass}
    (hc : c ∈ content.classes) {m : Method} (hm : m ∈ c.methods) :
    ∀ line ∈ m.doc, Text.Contained line.toList := by
  obtain ⟨g, -, turns, htaken, -⟩ :=
    exists_left_of_mem (Emission.exists_turns_of_emitClasses run.exec_emitClasses) hc
  rw [htaken.2.2.2, Emission.methodsOf] at hm
  obtain ⟨m', -, rfl⟩ := List.mem_map.1 hm
  intro line hline
  obtain ⟨line', -, rfl⟩ := List.mem_map.1 hline
  exact contained_escapeDoc line'

theorem method_mem (run : Run description options content) {op : Operation}
    (hop : op ∈ run.operations) : op.method ∈ Operation.methods := by
  obtain ⟨slots, hslots, hread⟩ := run.settlesOperations.read
  obtain ⟨slot, hslot, hfrom⟩ := exists_left_of_mem hread hop
  rw [hfrom.method]
  unfold Operation.slots at hslots
  obtain ⟨paths, -, hslots⟩ := of_bind_eq_ok hslots
  obtain ⟨entries, -, hslots⟩ := of_bind_eq_ok hslots
  obtain ⟨found, hfound, hslots⟩ := of_bind_eq_ok hslots
  rw [← Except.ok.inj hslots] at hslot
  obtain ⟨slotsOf, hslotsOf, hslot⟩ := List.mem_flatten.1 hslot
  obtain ⟨entry, -, hentry⟩ := exists_left_of_mem (forall₂_of_mapM hfound) hslotsOf
  obtain ⟨item, -, hentry⟩ := of_bind_eq_ok hentry
  rw [← Except.ok.inj hentry] at hslot
  obtain ⟨method, hmethod, hvalue⟩ := List.mem_filterMap.1 hslot
  obtain ⟨value, -, rfl⟩ := Option.map_eq_some_iff.1 hvalue
  exact hmethod

theorem contained_httpMethod (run : Run description options content) {c : ApiClass}
    (hc : c ∈ content.classes) {m : Method} (hm : m ∈ c.methods) :
    Text.Contained m.httpMethod.toList := by
  obtain ⟨shares, hshares, hforall⟩ := run.settlesOperations.methods c hc
  rw [hshares] at hm
  obtain ⟨share, hshare, hm⟩ := List.mem_flatten.1 hm
  obtain ⟨op, hop, hxor⟩ := exists_left_of_mem hforall hshare
  rcases hxor with ⟨hskipped, -⟩ | ⟨hemitted, -⟩
  · rw [hskipped.empty] at hm
    cases hm
  · obtain ⟨mediaType, -, hmethod⟩ := exists_left_of_mem hemitted hm
    rw [hmethod.httpMethod_eq]
    exact Operation.upper_contained (run.method_mem (List.mem_of_mem_filter hop))

end Run

/-- The text of a built module begins with a docstring, which is closed by the quotes put behind it
just if the title and the version do not close it before. Behind the signature of each method there
is a docstring too, which is closed by its quotes just if the path and the media type do not close
it before; what documents the operation never does. -/
theorem docstrings_closed_iff {description : Value} {options : Options} {content : Content}
    (h : build description options = .ok content) {text : String}
    (htext : content.text = .ok text) :
    (∃ rest, text = docstring (moduleDoc content.title.plain content.version.plain) ++ rest ∧
      (Closed (moduleDoc content.title.plain content.version.plain) rest ↔
        Text.Contained content.title.plain.toList ∧
          Text.Contained content.version.plain.toList)) ∧
    ∀ c ∈ content.classes, ∀ m ∈ c.methods, ∃ before rest,
      text = before ++ signatureLine m ++ "\n" ++ indent 2 (docstring (methodDoc m)) ++ rest ∧
      (Closed (methodDoc m) rest ↔
        Text.Contained m.path.plain.toList ∧ Text.Contained m.mediaType.plain.toList) := by
  obtain ⟨run⟩ := exists_run h
  constructor
  · obtain ⟨rest, hrest⟩ := exists_rest_of_text htext
    exact ⟨rest, hrest, closed_moduleDoc_iff _ _ rest⟩
  · intro c hc m hm
    obtain ⟨before, rest, haround⟩ := exists_around_of_mem htext hc hm
    exact ⟨before, rest, haround,
      closed_methodDoc_iff (run.contained_httpMethod hc hm) (run.contained_doc hc hm) rest⟩

/-- A description with a title and one operation, which has a path and a summary with quotes. -/
def documented (title path : String) : Value := .map [
  ("info", .map [("title", .text title)]),
  ("paths", .map [(.text path, .map [("get", .map [
    ("operationId", "x"), ("tags", .list ["x"]), ("summary", "s\"\"\""),
    ("responses", .map [])])])])]

/-- The title and the version of a module, and the path, media type and documentation of each of its
methods. -/
def Content.documentation (content : Content) : List (List String) :=
  [content.title.plain, content.version.plain] ::
    (content.classes.flatMap (·.methods)).map fun m ↦ m.path.plain :: m.mediaType.plain :: m.doc

theorem exists_of_isSome {α : Type} {x : Except Fault α} (h : x.toOption.isSome = true) :
    ∃ a, x = .ok a := by
  cases x with
  | error fault => cases h
  | ok a => exact ⟨a, rfl⟩

theorem docstrings_closed :
    ∃ content text, build (documented "Pets" "/x") {} = .ok content ∧ content.text = .ok text ∧
      content.documentation =
        [["Pets", "unknown"], ["/x", "application/json", "s\\\"\\\"\\\""]] ∧
      (∃ rest, text = docstring (moduleDoc content.title.plain content.version.plain) ++ rest ∧
        (Closed (moduleDoc content.title.plain content.version.plain) rest ↔
          Text.Contained content.title.plain.toList ∧
            Text.Contained content.version.plain.toList)) ∧
      ∀ c ∈ content.classes, ∀ m ∈ c.methods, ∃ before rest,
        text = before ++ signatureLine m ++ "\n" ++ indent 2 (docstring (methodDoc m)) ++ rest ∧
        (Closed (methodDoc m) rest ↔
          Text.Contained m.path.plain.toList ∧ Text.Contained m.mediaType.plain.toList) := by
  have hbuild : (build (documented "Pets" "/x") {}).toOption.map
      (fun content ↦ (content.text.toOption.isSome, content.documentation)) =
      some (true, [["Pets", "unknown"],
        ["/x", "application/json", "s\\\"\\\"\\\""]]) := by decide +kernel
  obtain ⟨content, hbuild, hcontent⟩ := exists_of_toOption_map hbuild
  obtain ⟨htext, hdocumentation⟩ := Prod.mk.injEq .. ▸ hcontent
  obtain ⟨text, htext⟩ := exists_of_isSome htext
  exact ⟨content, text, hbuild, htext, hdocumentation, docstrings_closed_iff hbuild htext⟩

/-- A title and a path with quotes in them close the docstrings that they stand in. -/
theorem docstrings_open :
    ∃ content text, build (documented "a\"\"\"b" "/x\"\"\"") {} = .ok content ∧
      content.text = .ok text ∧
      (∃ rest, text = docstring (moduleDoc content.title.plain content.version.plain) ++ rest ∧
        ¬ Closed (moduleDoc content.title.plain content.version.plain) rest) ∧
      ∃ c ∈ content.classes, ∃ m ∈ c.methods, ∃ before rest,
        text = before ++ signatureLine m ++ "\n" ++ indent 2 (docstring (methodDoc m)) ++ rest ∧
        ¬ Closed (methodDoc m) rest := by
  have hbuild : (build (documented "a\"\"\"b" "/x\"\"\"") {}).toOption.map
      (fun content ↦ (content.text.toOption.isSome, content.documentation)) =
      some (true, [["a\"\"\"b", "unknown"],
        ["/x\"\"\"", "application/json", "s\\\"\\\"\\\""]]) := by decide +kernel
  obtain ⟨content, hbuild, hcontent⟩ := exists_of_toOption_map hbuild
  obtain ⟨htext, hdocumentation⟩ := Prod.mk.injEq .. ▸ hcontent
  obtain ⟨text, htext⟩ := exists_of_isSome htext
  obtain ⟨hmodule, hmethods⟩ := List.cons.inj hdocumentation
  have htitle : content.title.plain = "a\"\"\"b" := (List.cons.inj hmodule).1
  obtain ⟨run⟩ := exists_run hbuild
  refine ⟨content, text, hbuild, htext, ?_, ?_⟩
  · obtain ⟨rest, hrest⟩ := exists_rest_of_text htext
    refine ⟨rest, hrest, ?_⟩
    rw [closed_moduleDoc_iff, htitle]
    exact fun hcontained ↦ absurd hcontained.1 (by decide)
  · have hmem := hmethods ▸ List.mem_singleton_self _
    obtain ⟨m, hm, hparts⟩ := List.mem_map.1 hmem
    obtain ⟨c, hc, hm⟩ := List.mem_flatMap.1 hm
    have hpath : m.path.plain = "/x\"\"\"" := (List.cons.inj hparts).1
    obtain ⟨before, rest, haround⟩ := exists_around_of_mem htext hc hm
    refine ⟨c, hc, m, hm, before, rest, haround, ?_⟩
    rw [closed_methodDoc_iff (run.contained_httpMethod hc hm) (run.contained_doc hc hm), hpath]
    exact fun hcontained ↦ absurd hcontained.1 (by decide)

end Module

end ApiClient
