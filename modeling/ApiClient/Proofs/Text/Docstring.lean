import ApiClient.Module.Content
import ApiClient.Proofs.Text.Replacing

/-!
# Docstrings

A docstring is a literal between triple quotes. It ends at the first triple quote, where a backslash
takes the character after it along. So a text is contained in a docstring when reading it comes to
no such quotes. Texts with a plain character between them are contained together just if each of
them is, and a line of documentation that was escaped always is.
-/

namespace ApiClient

namespace Text

/-- Reads a docstring from behind its opening quotes: its body, and what follows the quotes that
close it. A backslash takes the next character along. -/
def readDocstring : List Char → Option (List Char × List Char)
  | [] => none
  | '\\' :: c :: cs => (readDocstring cs).map fun r ↦ ('\\' :: c :: r.1, r.2)
  | '"' :: '"' :: '"' :: cs => some ([], cs)
  | c :: cs => (readDocstring cs).map fun r ↦ (c :: r.1, r.2)

/-- No quotes in the text close the docstring that it stands in. -/
def Contained (cs : List Char) : Prop := readDocstring cs = none

instance (cs : List Char) : Decidable (Contained cs) := inferInstanceAs (Decidable (_ = _))

/-! ## Reading -/

theorem readDocstring_escape (c : Char) (cs : List Char) :
    readDocstring ('\\' :: c :: cs) =
      (readDocstring cs).map fun r ↦ ('\\' :: c :: r.1, r.2) := by
  rw [readDocstring]

theorem readDocstring_quotes (cs : List Char) :
    readDocstring ('"' :: '"' :: '"' :: cs) = some ([], cs) := by
  rw [readDocstring]

theorem readDocstring_cons {c : Char} {cs : List Char} (hescape : c ≠ '\\')
    (hquotes : ¬ ['"', '"', '"'] <+: c :: cs) :
    readDocstring (c :: cs) = (readDocstring cs).map fun r ↦ (c :: r.1, r.2) := by
  rw [readDocstring]
  · rintro d ds rfl
    exact absurd rfl hescape
  · rintro ds rfl rfl
    exact absurd (by simp) hquotes

/-- What is read is the text up to the quotes that close it. -/
theorem eq_of_readDocstring {cs body rest : List Char}
    (h : readDocstring cs = some (body, rest)) : cs = body ++ ['"', '"', '"'] ++ rest := by
  fun_induction readDocstring cs generalizing body with
  | case1 => cases h
  | case2 c cs ih =>
    obtain ⟨⟨body', rest'⟩, hread, hsame⟩ := Option.map_eq_some_iff.1 h
    cases hsame
    rw [ih hread]
    rfl
  | case3 cs =>
    cases h
    rfl
  | case4 c cs _ _ ih =>
    obtain ⟨⟨body', rest'⟩, hread, hsame⟩ := Option.map_eq_some_iff.1 h
    cases hsame
    rw [ih hread]
    rfl

/-- A character that is neither a quote nor a backslash. -/
def IsPlain (c : Char) : Prop := c ≠ '"' ∧ c ≠ '\\'

instance (c : Char) : Decidable (IsPlain c) := inferInstanceAs (Decidable (_ ∧ _))

/-- Quotes do not reach beyond a plain character. -/
theorem prefix_of_prefix_append {s t : List Char} {c : Char} (hc : IsPlain c)
    (h : ['"', '"', '"'] <+: s ++ c :: t) : ['"', '"', '"'] <+: s := by
  have hplain : ∀ {cs : List Char}, ¬ '"' :: cs <+: c :: t :=
    fun hprefix ↦ hc.1 (List.cons_prefix_cons.1 hprefix).1.symm
  match s with
  | [] => exact absurd h hplain
  | [a] => exact absurd (List.cons_prefix_cons.1 h).2 hplain
  | [a, b] => exact absurd (List.cons_prefix_cons.1 (List.cons_prefix_cons.1 h).2).2 hplain
  | a :: b :: d :: s => simpa using h

/-- A docstring that is not closed before a plain character goes on behind it. -/
theorem readDocstring_append (s t : List Char) {c : Char} (hc : IsPlain c) :
    readDocstring (s ++ c :: t) =
      match readDocstring s with
      | some (body, rest) => some (body, rest ++ c :: t)
      | none => (readDocstring t).map fun r ↦ (s ++ c :: r.1, r.2) := by
  fun_induction readDocstring s with
  | case1 =>
    refine readDocstring_cons hc.2 fun hprefix ↦ ?_
    simpa using prefix_of_prefix_append (s := []) hc hprefix
  | case2 d cs ih =>
    rw [List.cons_append, List.cons_append, readDocstring_escape, ih]
    cases readDocstring cs <;> simp [Function.comp_def]
  | case3 cs => exact readDocstring_quotes _
  | case4 d cs hescape hquotes ih =>
    by_cases hlast : d = '\\'
    · -- the backslash is the last character and takes the plain one along
      have hnil : cs = [] := by
        cases cs with
        | nil => rfl
        | cons a cs => exact absurd rfl (hescape a cs hlast)
      subst hlast hnil
      exact readDocstring_escape c t
    · have hopen : ¬ ['"', '"', '"'] <+: d :: (cs ++ c :: t) := by
        intro hprefix
        obtain ⟨rest, hrest⟩ := prefix_of_prefix_append (s := d :: cs) hc hprefix
        cases hrest
        exact hquotes rest rfl rfl
      rw [List.cons_append, readDocstring_cons hlast hopen, ih]
      cases readDocstring cs <;> simp [Function.comp_def]

theorem contained_append_iff {s t : List Char} {c : Char} (hc : IsPlain c) :
    Contained (s ++ c :: t) ↔ Contained s ∧ Contained t := by
  unfold Contained
  rw [readDocstring_append s t hc]
  cases readDocstring s <;> simp

theorem contained_cons_iff {s : List Char} {c : Char} (hc : IsPlain c) :
    Contained (c :: s) ↔ Contained s :=
  (contained_append_iff (s := []) hc).trans (and_iff_right rfl)

/-- A body that ends in a plain character is what is read before quotes and what follows them just
if it is contained. -/
theorem readDocstring_closed_iff {body rest : List Char} {c : Char} (hc : IsPlain c)
    (hbody : body.getLast? = some c) :
    readDocstring (body ++ ['"', '"', '"'] ++ rest) = some (body, rest) ↔ Contained body := by
  obtain ⟨s, rfl⟩ := List.getLast?_eq_some_iff.1 hbody
  have hbody : Contained (s ++ [c]) ↔ Contained s :=
    (contained_append_iff hc).trans (and_iff_left rfl)
  rw [hbody, List.append_assoc, List.append_assoc, List.singleton_append,
    readDocstring_append s _ hc]
  unfold Contained
  cases hread : readDocstring s with
  | none =>
    rw [List.cons_append, List.cons_append, List.singleton_append, readDocstring_quotes]
    simp
  | some r =>
    -- the body that was read ends within the text
    obtain ⟨body, rest'⟩ := r
    have hlength := congrArg List.length (eq_of_readDocstring hread)
    refine iff_of_false (fun hsame ↦ ?_) (by simp)
    obtain ⟨rfl, -⟩ := Prod.mk.injEq .. ▸ Option.some.inj hsame
    simp only [List.length_append, List.length_cons, List.length_nil] at hlength
    omega

/-! ## Escaped lines -/

/-- Doubles backslashes and escapes the quotes of each triple, in one pass. -/
def escapeQuotes : List Char → List Char
  | [] => []
  | '\\' :: cs => '\\' :: '\\' :: escapeQuotes cs
  | '"' :: '"' :: '"' :: cs => '\\' :: '"' :: '\\' :: '"' :: '\\' :: '"' :: escapeQuotes cs
  | c :: cs => c :: escapeQuotes cs

/-- Quotes that begin a text with doubled backslashes begin the text itself. -/
theorem prefix_of_prefix_doubled {n : ℕ} {cs : List Char}
    (h : List.replicate n '"' <+: replaceAll ['\\'] ['\\', '\\'] cs) :
    List.replicate n '"' <+: cs := by
  induction n generalizing cs with
  | zero => exact List.nil_prefix
  | succ n ih =>
    rw [List.replicate_succ] at h ⊢
    cases cs with
    | nil => exact absurd h (by simp [replaceAll_nil])
    | cons c cs =>
      by_cases hescape : c = '\\'
      · subst hescape
        rw [replaceAll_of_begins (by simp)] at h
        exact absurd (List.cons_prefix_cons.1 h).1 (by decide)
      · rw [replaceAll_of_not_begins (by simpa using Ne.symm hescape)] at h
        obtain ⟨rfl, hrest⟩ := List.cons_prefix_cons.1 h
        exact List.cons_prefix_cons.2 ⟨rfl, ih hrest⟩

theorem prefix_of_prefix_escapeQuotes {n : ℕ} {cs : List Char}
    (h : List.replicate n '"' <+: escapeQuotes cs) : List.replicate n '"' <+: cs := by
  induction n generalizing cs with
  | zero => exact List.nil_prefix
  | succ n ih =>
    rw [List.replicate_succ] at h ⊢
    unfold escapeQuotes at h
    split at h
    · exact h
    · exact absurd (List.cons_prefix_cons.1 h).1 (by decide)
    · exact absurd (List.cons_prefix_cons.1 h).1 (by decide)
    · obtain ⟨rfl, hrest⟩ := List.cons_prefix_cons.1 h
      exact List.cons_prefix_cons.2 ⟨rfl, ih hrest⟩

/-- The two replacements come to one pass. -/
theorem replaceAll_doubled (cs : List Char) :
    replaceAll ['"', '"', '"'] ['\\', '"', '\\', '"', '\\', '"']
      (replaceAll ['\\'] ['\\', '\\'] cs) = escapeQuotes cs := by
  fun_induction escapeQuotes cs with
  | case1 => rfl
  | case2 cs ih =>
    rw [replaceAll_of_begins (by simp), ← ih]
    simp only [List.length_nil, List.drop_zero, List.cons_append, List.nil_append]
    rw [replaceAll_of_not_begins (by simp), replaceAll_of_not_begins (by simp)]
  | case3 cs ih =>
    have hquote {ds : List Char} : replaceAll ['\\'] ['\\', '\\'] ('"' :: ds) =
        '"' :: replaceAll ['\\'] ['\\', '\\'] ds := replaceAll_of_not_begins (by simp)
    rw [hquote, hquote, hquote, replaceAll_of_begins (by simp), ← ih]
    rfl
  | case4 c cs hescape hquotes ih =>
    have hother : ¬ ['\\'] <+: c :: cs := by
      rintro ⟨rest, hrest⟩
      exact hescape (List.cons.inj hrest).1.symm
    have hopen : ¬ ['"', '"', '"'] <+: replaceAll ['\\'] ['\\', '\\'] (c :: cs) := by
      intro hprefix
      obtain ⟨rest, hrest⟩ := prefix_of_prefix_doubled (n := 3) hprefix
      cases hrest
      exact hquotes rest rfl rfl
    rw [replaceAll_of_not_begins hother] at hopen ⊢
    rw [replaceAll_of_not_begins hopen, ih]

/-- What is escaped does not close a docstring. -/
theorem contained_escapeQuotes (cs : List Char) : Contained (escapeQuotes cs) := by
  unfold Contained
  fun_induction escapeQuotes cs with
  | case1 => rfl
  | case2 cs ih => rw [readDocstring_escape, ih, Option.map_none]
  | case3 cs ih =>
    rw [readDocstring_escape, readDocstring_escape, readDocstring_escape, ih, Option.map_none,
      Option.map_none, Option.map_none]
  | case4 c cs hescape hquotes ih =>
    have hopen : ¬ ['"', '"', '"'] <+: c :: escapeQuotes cs := by
      intro hprefix
      obtain ⟨rfl, hrest⟩ := List.cons_prefix_cons.1 hprefix
      obtain ⟨rest, rfl⟩ := prefix_of_prefix_escapeQuotes (n := 2) hrest
      exact hquotes rest rfl rfl
    rw [readDocstring_cons hescape hopen, ih, Option.map_none]

end Text

namespace Module

theorem toList_escapeDoc (line : String) :
    (escapeDoc line).toList = Text.escapeQuotes line.toList := by
  rw [escapeDoc, mapChars, String.toList_ofList]
  exact Text.replaceAll_doubled line.toList

theorem contained_escapeDoc (line : String) : Text.Contained (escapeDoc line).toList := by
  rw [toList_escapeDoc]
  exact Text.contained_escapeQuotes line.toList

end Module

end ApiClient
