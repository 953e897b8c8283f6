import ApiClient.Operation
import ApiClient.Proofs.Text.Replacing
import ApiClient.Proofs.Text.Spacing

/-!
# Escaped prose

A text is escaped for markup by writing a named reference for each ampersand and angle bracket. An
escaped text has no tag to drop, each of its ampersands begins one of the three references, and the
search for references goes on behind each of them. So prose that was escaped is read as it was
before, whatever it looks like, with a space for every run of blanks.
-/

namespace ApiClient

namespace Text

/-! ## Escaping -/

/-- Ampersands are escaped first, so that those of the references are not escaped again. -/
def escapeMarkup (cs : List Char) : List Char :=
  replaceAll ['>'] "&gt;".toList
    (replaceAll ['<'] "&lt;".toList (replaceAll ['&'] "&amp;".toList cs))

/-- What one character is escaped to. -/
def escapedChar (c : Char) : List Char :=
  if c = '&' then "&amp;".toList
  else if c = '<' then "&lt;".toList
  else if c = '>' then "&gt;".toList
  else [c]

theorem escapeMarkup_eq_flatMap (cs : List Char) : escapeMarkup cs = cs.flatMap escapedChar := by
  rw [escapeMarkup, replaceAll_singleton, replaceAll_singleton, replaceAll_singleton,
    List.flatMap_assoc, List.flatMap_assoc]
  refine List.flatMap_congr fun c _ ↦ ?_
  unfold escapedChar
  split
  · rfl
  · rw [List.flatMap_singleton]
    split
    · rfl
    · rw [List.flatMap_singleton]

theorem not_mem_escapeMarkup (cs : List Char) : '<' ∉ escapeMarkup cs := by
  rw [escapeMarkup_eq_flatMap, List.mem_flatMap]
  rintro ⟨c, -, hc⟩
  unfold escapedChar at hc
  split_ifs at hc with hamp hless hgreater
  · revert hc; decide
  · revert hc; decide
  · revert hc; decide
  · exact hless (List.mem_singleton.1 hc).symm

/-! ## Reading references -/

theorem decodeEntitiesFrom_eq (skip : ℕ) (cs : List Char) :
    decodeEntitiesFrom skip cs = decodeEntities (cs.drop skip) := by
  induction skip generalizing cs with
  | zero => rfl
  | succ skip ih =>
    cases cs with
    | nil => rfl
    | cons c cs => rw [decodeEntitiesFrom, ih, List.drop_succ_cons]

theorem decodeEntities_cons {c : Char} (hc : c ≠ '&') (cs : List Char) :
    decodeEntities (c :: cs) = (decodeEntities cs).map (c :: ·) := by
  rw [decodeEntities, decodeEntitiesFrom, if_neg hc, ← decodeEntities]

theorem decodeEntities_of_reference {cs text : List Char} {used : ℕ}
    (h : reference? cs = .ok (some (text, used))) :
    decodeEntities ('&' :: cs) = (decodeEntities (cs.drop used)).map (text ++ ·) := by
  rw [← decodeEntitiesFrom_eq]
  simp only [decodeEntities, decodeEntitiesFrom, if_true, h]

/-- A name that a semicolon closes is read up to it. -/
theorem reference?_of_name {name : List Char} (hname : ∀ c ∈ name, isNameChar c = true)
    (hne : name ≠ []) (hlength : name.length ≤ 32) (rest : List Char) :
    reference? (name ++ ';' :: rest) =
      .ok (some (nameReference (name ++ [';']), name.length + 1)) := by
  have htake : ((name ++ ';' :: rest).takeWhile isNameChar).take 32 = name := by
    rw [List.takeWhile_append_of_pos hname, List.takeWhile_cons_of_neg (by decide),
      List.append_nil, List.take_of_length_le hlength]
  have hsemicolon : semicolonLength ((name ++ ';' :: rest).drop name.length) = 1 := by
    rw [List.drop_left]
    rfl
  unfold reference?
  split
  · next x ds hcs =>
    -- a number sign begins no name
    obtain ⟨c, cs, rfl⟩ := List.exists_cons_of_ne_nil hne
    obtain ⟨rfl, -⟩ := List.cons.inj hcs
    exact absurd (hname _ List.mem_cons_self) (by decide)
  · simp only [htake, if_neg hne, hsemicolon]
    rw [← List.singleton_append, ← List.append_assoc, List.take_left' (by simp)]

/-- A reference that stands for one character is read as that character. -/
theorem decodeEntities_of_name (name : List Char) (hname : name.all isNameChar = true)
    (hne : name ≠ []) (hlength : name.length ≤ 32) {c : Char}
    (hc : namedReference? (name ++ [';']) = some [c]) (rest : List Char) :
    decodeEntities ('&' :: (name ++ ';' :: rest)) = (decodeEntities rest).map (c :: ·) := by
  have hmeans : nameReference (name ++ [';']) = [c] := by
    rw [nameReference, hc]
    rfl
  have hrest : (name ++ ';' :: rest).drop (name.length + 1) = rest := by
    rw [List.drop_append, List.drop_eq_nil_of_le (by omega), Nat.add_sub_cancel_left]
    rfl
  have hreference := reference?_of_name (List.all_eq_true.1 hname) hne hlength rest
  rw [decodeEntities_of_reference hreference, hrest, hmeans]
  rfl

theorem decodeEntities_escapedChar (c : Char) (rest : List Char) :
    decodeEntities (escapedChar c ++ rest) = (decodeEntities rest).map (c :: ·) := by
  unfold escapedChar
  split_ifs with hamp hless hgreater
  · subst hamp
    exact decodeEntities_of_name "amp".toList (by decide) (by decide) (by decide)
      (by decide +kernel) rest
  · subst hless
    exact decodeEntities_of_name "lt".toList (by decide) (by decide) (by decide)
      (by decide +kernel) rest
  · subst hgreater
    exact decodeEntities_of_name "gt".toList (by decide) (by decide) (by decide)
      (by decide +kernel) rest
  · exact decodeEntities_cons hamp rest

/-- The references of an escaped text are read as what was escaped. -/
theorem decodeEntities_escapeMarkup (cs : List Char) :
    decodeEntities (escapeMarkup cs) = .ok cs := by
  rw [escapeMarkup_eq_flatMap]
  induction cs with
  | nil => rfl
  | cons c cs ih =>
    rw [List.flatMap_cons, decodeEntities_escapedChar, ih]
    rfl

end Text

namespace Operation

/-! ## Prose -/

theorem dropTags_of_not_mem {cs : List Char} (h : '<' ∉ cs) : dropTags cs = cs := by
  induction cs with
  | nil => rfl
  | cons c cs ih =>
    rw [List.mem_cons, not_or] at h
    have hopen : ¬ (c = '<' ∧ cs.takeWhile (· ≠ '>') ≠ [] ∧
        (cs.takeWhile (· ≠ '>')).length < cs.length) := fun hall ↦ h.1 hall.1.symm
    rw [dropTags, dropTagsFrom, if_neg hopen, ← dropTags, ih h.2]

/-- An escaped text is read as the text itself, trimmed and with a space for every run of blanks.
Nothing of it is taken for a tag, and nothing that it escapes is read as a reference again. -/
theorem plainText_escapeMarkup (s : String) :
    plainText (.text (mapChars Text.escapeMarkup s)) = .ok (mapChars Text.squeezed s) := by
  have hline : plainLine (Text.escapeMarkup s.toList) = .ok (Text.squeezed s.toList) := by
    rw [← Text.join_words, plainLine, dropTags_of_not_mem (Text.not_mem_escapeMarkup _),
      Text.decodeEntities_escapeMarkup]
  rw [plainText, mapChars, String.toList_ofList, hline]
  rfl

end Operation

end ApiClient
