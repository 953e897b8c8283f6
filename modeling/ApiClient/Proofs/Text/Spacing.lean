import ApiClient.Text.Blank
import ApiClient.Text.Edit
import Mathlib.Data.List.DropRight

/-!
# Trimmed and spaced texts

A text is trimmed at both ends, and what was trimmed is left alone by trimming it again. To split a
text into words and to join them with spaces is to trim it and to write a space for every run of
blanks that is left in it.
-/

namespace ApiClient.Text

/-! ## Trimming -/

section

variable {p : Char → Bool} {cs : List Char}

/-- Neither the first nor the last character of a text satisfies `p`. -/
structure Trimmed (p : Char → Bool) (cs : List Char) : Prop where
  first : ∀ c ∈ cs.head?, p c = false
  last : ∀ c ∈ cs.getLast?, p c = false

theorem trimEndWhile_eq (p : Char → Bool) (cs : List Char) :
    trimEndWhile p cs = cs.rdropWhile p := rfl

theorem dropWhile_of_head? (h : ∀ c ∈ cs.head?, p c = false) : cs.dropWhile p = cs := by
  cases cs with
  | nil => rfl
  | cons c cs =>
    have hc : p c = false := h c rfl
    rw [List.dropWhile_cons_of_neg (by simp [hc])]

theorem trimEndWhile_of_getLast? (h : ∀ c ∈ cs.getLast?, p c = false) :
    trimEndWhile p cs = cs := by
  rw [trimEndWhile_eq, List.rdropWhile_eq_self_iff]
  intro hne
  simpa using h (cs.getLast hne) (List.getLast?_eq_some_getLast hne)

theorem Trimmed.trimWhile_eq (h : Trimmed p cs) : trimWhile p cs = cs := by
  rw [trimWhile, dropWhile_of_head? h.first, trimEndWhile_of_getLast? h.last]

/-- What is trimmed at the end begins as before. -/
theorem mem_head?_of_prefix {cs ds : List Char} (h : cs <+: ds) {c : Char} (hc : c ∈ cs.head?) :
    c ∈ ds.head? := by
  obtain ⟨rest, rfl⟩ := h
  cases cs with
  | nil => cases hc
  | cons d cs => exact hc

theorem trimmed_trimWhile (p : Char → Bool) (cs : List Char) : Trimmed p (trimWhile p cs) where
  first c hc := by
    have hbefore : c ∈ (cs.dropWhile p).head? :=
      mem_head?_of_prefix (List.rdropWhile_prefix p (cs.dropWhile p)) hc
    have hhead := List.head?_dropWhile_not p cs
    rwa [Option.mem_def.1 hbefore] at hhead
  last c hc := by
    rw [trimWhile, trimEndWhile_eq] at hc
    obtain ⟨hne, rfl⟩ := List.mem_getLast?_eq_getLast hc
    simpa using List.rdropWhile_last_not p (cs.dropWhile p) hne

end

/-! ## Words -/

theorem words_append_cons {b : Char} (hb : isBlank b = true) (cs ds : List Char) :
    words (cs ++ b :: ds) = words cs ++ words ds := by
  rw [words, List.splitOnP_append_cons _ _ hb, List.filter_append, ← words, ← words]

theorem words_nil : words [] = [] := rfl

theorem words_cons_of_blank {b : Char} (hb : isBlank b = true) (cs : List Char) :
    words (b :: cs) = words cs :=
  words_append_cons hb [] cs

theorem words_dropWhile (cs : List Char) : words (cs.dropWhile isBlank) = words cs := by
  induction cs with
  | nil => rfl
  | cons c cs ih =>
    rw [List.dropWhile_cons]
    split
    · next hc => rw [ih, words_cons_of_blank hc]
    · rfl

theorem words_trimEndWhile (cs : List Char) : words (trimEndWhile isBlank cs) = words cs := by
  rw [trimEndWhile_eq]
  induction cs using List.reverseRecOn with
  | nil => rfl
  | append_singleton cs c ih =>
    rw [List.rdropWhile_concat]
    split
    · next hc => rw [ih, words_append_cons hc, words_nil, List.append_nil]
    · rfl

theorem words_trim (cs : List Char) : words (trim cs) = words cs := by
  rw [trim, trimWhile, words_trimEndWhile, words_dropWhile]

/-- A character before a word belongs to it. -/
theorem words_cons_cons {c d : Char} (hc : isBlank c = false) (hd : isBlank d = false)
    (ds : List Char) : words (c :: d :: ds) = (words (d :: ds)).modifyHead (c :: ·) := by
  unfold words
  rw [List.splitOnP_cons_eq_if_modifyHead, List.splitOnP_cons_eq_if_modifyHead, hc, hd]
  cases ds.splitOnP isBlank with
  | nil => rfl
  | cons first rest => rfl

theorem words_singleton {c : Char} (hc : isBlank c = false) : words [c] = [[c]] := by
  rw [words, List.splitOnP_cons_eq_if_modifyHead, hc]
  rfl

theorem words_cons_blank {c b : Char} (hc : isBlank c = false) (hb : isBlank b = true)
    (cs : List Char) : words (c :: b :: cs) = [c] :: words cs := by
  have happend := words_append_cons hb [c] cs
  rwa [words_singleton hc, List.singleton_append] at happend

theorem words_ne_nil {cs : List Char} (hne : cs ≠ [])
    (hlast : ∀ c ∈ cs.getLast?, isBlank c = false) : words cs ≠ [] := by
  induction cs with
  | nil => exact absurd rfl hne
  | cons c cs ih =>
    cases cs with
    | nil =>
      rw [words_singleton (hlast c rfl)]
      exact List.cons_ne_nil _ _
    | cons d ds =>
      rw [List.getLast?_cons_cons] at hlast
      have htail := ih (List.cons_ne_nil d ds) hlast
      cases hc : isBlank c with
      | true => rwa [words_cons_of_blank hc]
      | false =>
        cases hd : isBlank d with
        | true =>
          rw [words_cons_blank hc hd]
          exact List.cons_ne_nil _ _
        | false => rwa [words_cons_cons hc hd, Ne, List.modifyHead_eq_nil_iff]

/-! ## Spaces for blanks -/

/-- Writes a space for every run of blanks. `inRun` says whether a blank stands right before. -/
def spaced (inRun : Bool) : List Char → List Char
  | [] => []
  | c :: cs =>
    if isBlank c then (if inRun then spaced true cs else ' ' :: spaced true cs)
    else c :: spaced false cs

/-- The text without the blanks at its ends and with a space for every run of blanks in it. -/
def squeezed (cs : List Char) : List Char := spaced false (trim cs)

theorem spaced_true_cons_of_blank {b : Char} (hb : isBlank b = true) (cs : List Char) :
    spaced true (b :: cs) = spaced true cs := by
  rw [spaced, if_pos hb, if_pos rfl]

theorem spaced_false_cons_of_blank {b : Char} (hb : isBlank b = true) (cs : List Char) :
    spaced false (b :: cs) = ' ' :: spaced true cs := by
  rw [spaced, if_pos hb, if_neg Bool.false_ne_true]

theorem spaced_cons {c : Char} (hc : isBlank c = false) (inRun : Bool) (cs : List Char) :
    spaced inRun (c :: cs) = c :: spaced false cs := by
  rw [spaced, if_neg (by simp [hc])]

theorem spaced_of_head? {cs : List Char} (h : ∀ c ∈ cs.head?, isBlank c = false) (inRun : Bool) :
    spaced inRun cs = spaced true cs := by
  cases cs with
  | nil => rfl
  | cons c cs => rw [spaced_cons (h c rfl), spaced_cons (h c rfl)]

theorem join_modifyHead (separator : List Char) (c : Char) {parts : List (List Char)}
    (h : parts ≠ []) :
    join separator (parts.modifyHead (c :: ·)) = c :: join separator parts := by
  match parts with
  | [part] => simp only [join, List.modifyHead_cons, List.intercalate_singleton]
  | part :: next :: parts =>
    simp only [join, List.modifyHead_cons, List.intercalate_cons_cons, List.cons_append]

/-- The blanks between words become spaces. Those before the first word are left out, and none are
behind the last one. -/
theorem join_words_of_getLast? {cs : List Char} (h : ∀ c ∈ cs.getLast?, isBlank c = false) :
    join [' '] (words cs) = spaced true cs := by
  induction cs with
  | nil => rfl
  | cons c cs ih =>
    cases cs with
    | nil =>
      have hc : isBlank c = false := h c rfl
      rw [words_singleton hc, spaced_cons hc]
      rfl
    | cons d ds =>
      rw [List.getLast?_cons_cons] at h
      have htail : join [' '] (words (d :: ds)) = spaced true (d :: ds) := ih h
      cases hc : isBlank c with
      | true => rw [words_cons_of_blank hc, spaced_true_cons_of_blank hc, htail]
      | false =>
        rw [spaced_cons hc]
        cases hd : isBlank d with
        | false =>
          -- the two characters belong to one word
          have hne : words (d :: ds) ≠ [] := words_ne_nil (List.cons_ne_nil d ds) h
          rw [words_cons_cons hc hd, join_modifyHead _ _ hne, htail, spaced_cons hd, spaced_cons hd]
        | true =>
          -- a run of blanks begins, and another word follows it
          have hne : ds ≠ [] := by
            rintro rfl
            exact absurd (h d rfl) (by simp [hd])
          have hlast : ∀ c ∈ ds.getLast?, isBlank c = false := by
            rwa [List.getLast?_cons_of_ne_nil hne] at h
          obtain ⟨word, rest, hwords⟩ := List.exists_cons_of_ne_nil (words_ne_nil hne hlast)
          rw [words_cons_of_blank hd, spaced_true_cons_of_blank hd] at htail
          calc join [' '] (words (c :: d :: ds))
              = join [' '] ([c] :: words ds) := by rw [words_cons_blank hc hd]
            _ = c :: ' ' :: join [' '] (words ds) := by
                rw [hwords, join, join, List.intercalate_cons_cons]
                rfl
            _ = c :: spaced false (d :: ds) := by rw [htail, spaced_false_cons_of_blank hd]

/-- To join the words of a text with spaces is to trim it and to write a space for every run of
blanks. -/
theorem join_words (cs : List Char) : join [' '] (words cs) = squeezed cs := by
  have htrimmed : Trimmed isBlank (trim cs) := trimmed_trimWhile isBlank cs
  calc join [' '] (words cs)
      = join [' '] (words (trim cs)) := by rw [words_trim]
    _ = spaced true (trim cs) := join_words_of_getLast? htrimmed.last
    _ = squeezed cs := (spaced_of_head? htrimmed.first false).symm

end ApiClient.Text
