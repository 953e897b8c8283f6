import ApiClient.Proofs.Name.Style
import ApiClient.Proofs.Text.Spacing

/-!
# Compound names

A token is left alone by the style that made it, and so it stays as it is behind a blank: a text
that ends in a token has the token of what comes before, followed by that one. The names of methods
are tokens with a small first letter, so the same holds of them with the suffix of a media type. A
text without a word character is the exception: nothing of it is left before another token.
-/

namespace ApiClient.Name

/-! ## Letters -/

theorem toUpper_toUpper (c : Char) : c.toUpper.toUpper = c.toUpper := by
  cases hlower : c.isLower with
  | false => rw [toUpper_eq_self hlower, toUpper_eq_self hlower]
  | true =>
    refine toUpper_eq_self ?_
    have hupper := isUpper_toUpper hlower
    generalize c.toUpper = d at hupper
    delta Char.isUpper Char.isLower at *
    grind

theorem val_toLower {c : Char} (h : c.isUpper = true) : c.toLower.val = c.val + 32 := by
  delta Char.isUpper Char.toLower at *
  grind

theorem val_toUpper {c : Char} (h : c.isLower = true) : c.toUpper.val = c.val - 32 := by
  delta Char.isLower Char.toUpper at *
  grind

/-- A letter that is no small one is the capital of its small form. -/
theorem toUpper_toLower {c : Char} (h : c.toUpper = c) : c.toLower.toUpper = c := by
  cases hupper : c.isUpper with
  | false => rw [toLower_eq_self hupper, h]
  | true =>
    refine Char.ext ?_
    rw [val_toUpper (isLower_toLower hupper), val_toLower hupper, UInt32.add_sub_cancel]

/-! ## Tokens -/

/-- A row of word characters that opens neither with a small letter nor with a digit. -/
structure IsToken (cs : List Char) : Prop where
  chars : ∀ c ∈ cs, isWord c = true
  head : ∃ c rest, cs = c :: rest ∧ c.toUpper = c ∧ c.isDigit = false

theorem titled_true_of_word {cs : List Char} (h : ∀ c ∈ cs, isWord c = true) :
    titled true cs = cs := by
  induction cs with
  | nil => rfl
  | cons c cs ih =>
    rw [List.forall_mem_cons] at h
    rw [titled, if_pos h.1, if_pos rfl, ih h.2]

theorem titled_false_of_word {c : Char} {cs : List Char} (h : ∀ d ∈ c :: cs, isWord d = true) :
    titled false (c :: cs) = c.toUpper :: cs := by
  rw [List.forall_mem_cons] at h
  rw [titled, if_pos h.1, if_neg Bool.false_ne_true, titled_true_of_word h.2]

theorem titled_eq_nil_iff (inWord : Bool) (cs : List Char) :
    titled inWord cs = [] ↔ ∀ c ∈ cs, isWord c = false := by
  induction cs generalizing inWord with
  | nil => simp [titled]
  | cons c cs ih =>
    rw [List.forall_mem_cons, titled]
    cases hc : isWord c with
    | true => simp
    | false => simp [ih]

/-- The first word of a title has a capital. -/
theorem toUpper_of_titled {cs ds : List Char} {d : Char} (h : titled false cs = d :: ds) :
    d.toUpper = d := by
  induction cs with
  | nil => cases h
  | cons c cs ih =>
    rw [titled] at h
    split at h
    · obtain ⟨rfl, -⟩ := List.cons.inj h
      exact toUpper_toUpper c
    · exact ih h

theorem guardDigit_append {cs : List Char} (h : cs ≠ []) (ds : List Char) :
    guardDigit (cs ++ ds) = guardDigit cs ++ ds := by
  obtain ⟨c, cs, rfl⟩ := List.exists_cons_of_ne_nil h
  rw [List.cons_append, guardDigit, guardDigit]
  split <;> rfl

theorem tokenChars_of_titled {cs : List Char} (h : titled false cs ≠ []) :
    tokenChars cs = guardDigit (titled false cs) := by
  unfold tokenChars
  split
  · next hnil => exact absurd hnil h
  · rfl

theorem tokenChars_of_titled_eq_nil {cs : List Char} (h : titled false cs = []) :
    tokenChars cs = "Unnamed".toList := by
  rw [tokenChars, h]

theorem isToken_unnamed : IsToken "Unnamed".toList where
  chars := List.all_eq_true.1 (by decide)
  head := ⟨'U', "nnamed".toList, rfl, by decide, by decide⟩

theorem isToken_tokenChars (cs : List Char) : IsToken (tokenChars cs) := by
  cases htitled : titled false cs with
  | nil =>
    rw [tokenChars_of_titled_eq_nil htitled]
    exact isToken_unnamed
  | cons d ds =>
    have hword : ∀ c ∈ d :: ds, isWord c = true := fun c hc ↦
      isWord_of_mem_titled (htitled ▸ hc)
    rw [tokenChars_of_titled (by simp [htitled]), htitled]
    refine ⟨fun c hc ↦ isWord_of_mem_guardDigit hword hc, ?_⟩
    rw [guardDigit]
    split
    · exact ⟨'_', d :: ds, rfl, by decide, by decide⟩
    · next hdigit => exact ⟨d, ds, rfl, toUpper_of_titled htitled, by simpa using hdigit⟩

theorem IsToken.titled_eq {cs : List Char} (h : IsToken cs) : titled false cs = cs := by
  obtain ⟨c, rest, rfl, hupper, -⟩ := h.head
  rw [titled_false_of_word h.chars, hupper]

theorem IsToken.guardDigit_eq {cs : List Char} (h : IsToken cs) : guardDigit cs = cs := by
  obtain ⟨c, rest, rfl, -, hdigit⟩ := h.head
  rw [guardDigit, hdigit, if_neg Bool.false_ne_true]

theorem IsToken.ne_nil {cs : List Char} (h : IsToken cs) : cs ≠ [] := by
  obtain ⟨c, rest, rfl, -⟩ := h.head
  exact List.cons_ne_nil c rest

/-- A token is its own token. -/
theorem IsToken.tokenChars_eq {cs : List Char} (h : IsToken cs) : tokenChars cs = cs := by
  rw [tokenChars_of_titled (by rw [h.titled_eq]; exact h.ne_nil), h.titled_eq, h.guardDigit_eq]

/-- A token behind a blank ends the token of the whole. -/
theorem tokenChars_append_blank {cs ds : List Char} (hcs : titled false cs ≠ [])
    (hds : IsToken ds) : tokenChars (cs ++ ' ' :: ds) = tokenChars cs ++ ds := by
  have htitled : titled false (cs ++ ' ' :: ds) = titled false cs ++ ds := by
    rw [titled_append_blank, hds.titled_eq]
  calc tokenChars (cs ++ ' ' :: ds)
      = guardDigit (titled false (cs ++ ' ' :: ds)) :=
        tokenChars_of_titled (by simp [htitled, hcs])
    _ = guardDigit (titled false cs) ++ ds := by rw [htitled, guardDigit_append hcs]
    _ = tokenChars cs ++ ds := by rw [tokenChars_of_titled hcs]

/-- What has no word leaves nothing before another token. -/
theorem tokenChars_append_blank_of_titled_eq_nil {cs ds : List Char} (hcs : titled false cs = [])
    (hds : IsToken ds) : tokenChars (cs ++ ' ' :: ds) = ds := by
  have htitled : titled false (cs ++ ' ' :: ds) = ds := by
    rw [titled_append_blank, hcs, List.nil_append, hds.titled_eq]
  rw [tokenChars_of_titled (by rw [htitled]; exact hds.ne_nil), htitled, hds.guardDigit_eq]

/-- If the token of the whole is as long as the two tokens, the first text has a word. -/
theorem exists_word_of_length {cs ds : List Char} (hds : IsToken ds)
    (h : (tokenChars (cs ++ ' ' :: ds)).length = (tokenChars cs).length + ds.length) :
    ∃ c ∈ cs, isWord c = true := by
  by_contra! hnone
  simp only [Bool.not_eq_true] at hnone
  rw [tokenChars_append_blank_of_titled_eq_nil ((titled_eq_nil_iff false cs).2 hnone) hds] at h
  have hpos := List.length_pos_of_ne_nil (isToken_tokenChars cs).ne_nil
  omega

theorem titled_ne_nil {cs : List Char} (h : ∃ c ∈ cs, isWord c = true) : titled false cs ≠ [] := by
  intro hnil
  obtain ⟨c, hc, hword⟩ := h
  rw [(titled_eq_nil_iff false cs).1 hnil c hc] at hword
  exact Bool.false_ne_true hword

theorem tokenChars_append_blank_eq_iff (cs : List Char) {ds : List Char} (hds : IsToken ds) :
    tokenChars (cs ++ ' ' :: ds) = tokenChars cs ++ ds ↔ ∃ c ∈ cs, isWord c = true := by
  refine ⟨fun h ↦ exists_word_of_length hds ?_,
    fun h ↦ tokenChars_append_blank (titled_ne_nil h) hds⟩
  rw [h, List.length_append]

/-! ## Tokens with a small first letter -/

theorem camelChars_of_cons {cs rest : List Char} {c : Char} (h : tokenChars cs = c :: rest) :
    camelChars cs = c.toLower :: rest := by
  rw [camelChars, h]

theorem length_camelChars (cs : List Char) : (camelChars cs).length = (tokenChars cs).length := by
  obtain ⟨c, rest, hcs, -⟩ := (isToken_tokenChars cs).head
  rw [camelChars_of_cons hcs, hcs, List.length_cons, List.length_cons]

/-- The token of a name has the capital again. -/
theorem tokenChars_camelChars (cs : List Char) : tokenChars (camelChars cs) = tokenChars cs := by
  have htoken := isToken_tokenChars cs
  obtain ⟨c, rest, hcs, hupper, -⟩ := htoken.head
  rw [camelChars_of_cons hcs, hcs]
  rw [hcs] at htoken
  have hword : ∀ d ∈ c.toLower :: rest, isWord d = true := by
    have hchars := htoken.chars
    rw [List.forall_mem_cons] at hchars ⊢
    exact ⟨isWord_toLower hchars.1, hchars.2⟩
  have htitled : titled false (c.toLower :: rest) = c :: rest := by
    rw [titled_false_of_word hword, toUpper_toLower hupper]
  rw [tokenChars_of_titled (by simp [htitled]), htitled, htoken.guardDigit_eq]

theorem camelChars_camelChars (cs : List Char) : camelChars (camelChars cs) = camelChars cs := by
  obtain ⟨c, rest, hcs, -⟩ := (isToken_tokenChars cs).head
  rw [camelChars_of_cons ((tokenChars_camelChars cs).trans hcs), camelChars_of_cons hcs]

theorem camelChars_append_blank {cs ds : List Char} (hcs : titled false cs ≠ [])
    (hds : IsToken ds) : camelChars (cs ++ ' ' :: ds) = camelChars cs ++ ds := by
  have hwhole := tokenChars_append_blank hcs hds
  obtain ⟨c, rest, hfirst, -⟩ := (isToken_tokenChars cs).head
  rw [hfirst, List.cons_append] at hwhole
  rw [camelChars_of_cons hwhole, camelChars_of_cons hfirst, List.cons_append]

theorem camelChars_append_blank_eq_iff (cs : List Char) {ds : List Char} (hds : IsToken ds) :
    camelChars (cs ++ ' ' :: ds) = camelChars cs ++ ds ↔ ∃ c ∈ cs, isWord c = true := by
  refine ⟨fun h ↦ exists_word_of_length hds ?_,
    fun h ↦ camelChars_append_blank (titled_ne_nil h) hds⟩
  rw [← length_camelChars, h, List.length_append, length_camelChars]

/-! ## Plain names -/

/-- Word characters, without an underscore at either end. -/
structure IsStem (cs : List Char) : Prop where
  ne_nil : cs ≠ []
  chars : ∀ c ∈ cs, isWord c = true
  trimmed : Text.Trimmed (· = '_') cs

/-- What a plain name is made of before a digit at its start is guarded. -/
def masked (cs : List Char) : List Char :=
  (cs.filter (· ≠ Text.mark)).map fun c ↦ if isWord c then c else '_'

theorem isWord_of_mem_masked {cs : List Char} {c : Char} (h : c ∈ masked cs) : isWord c = true := by
  obtain ⟨d, -, rfl⟩ := List.mem_map.1 h
  split
  · assumption
  · decide

theorem masked_of_word {cs : List Char} (h : ∀ c ∈ cs, isWord c = true) : masked cs = cs := by
  have hmark : ∀ c ∈ cs, decide (c ≠ Text.mark) = true := by
    intro c hc
    rw [decide_eq_true_iff]
    rintro rfl
    exact absurd (h _ hc) (by decide)
  rw [masked, List.filter_eq_self.2 hmark, List.map_congr_left fun c hc ↦ if_pos (h c hc),
    List.map_id']

theorem isStem_arg : IsStem "arg".toList where
  ne_nil := by decide
  chars := List.all_eq_true.1 (by decide)
  trimmed := Text.trimmed_trimWhile (· = '_') "arg".toList

theorem plainChars_eq (cs : List Char) :
    plainChars cs = match Text.trimWhile (· = '_') (masked cs) with
      | [] => "arg".toList
      | ident => guardDigit ident := rfl

theorem exists_stem (cs : List Char) : ∃ stem, IsStem stem ∧ plainChars cs = guardDigit stem := by
  rw [plainChars_eq]
  split
  · exact ⟨"arg".toList, isStem_arg, by decide⟩
  · next hne =>
    refine ⟨_, ⟨hne, fun c hc ↦ isWord_of_mem_masked (mem_of_mem_trimWhile hc), ?_⟩, rfl⟩
    exact Text.trimmed_trimWhile _ _

/-- A guarded stem is its own plain name. -/
theorem IsStem.plainChars_guardDigit {stem : List Char} (h : IsStem stem) :
    plainChars (guardDigit stem) = guardDigit stem := by
  have hword : ∀ c ∈ guardDigit stem, isWord c = true := fun c ↦ isWord_of_mem_guardDigit h.chars
  have htrim : Text.trimWhile (· = '_') (guardDigit stem) = stem := by
    obtain ⟨c, rest, rfl⟩ := List.exists_cons_of_ne_nil h.ne_nil
    rw [guardDigit]
    split
    · rw [Text.trimWhile, List.dropWhile_cons_of_pos (by decide), ← Text.trimWhile,
        h.trimmed.trimWhile_eq]
    · exact h.trimmed.trimWhile_eq
  rw [plainChars_eq, masked_of_word hword, htrim]
  obtain ⟨c, rest, rfl⟩ := List.exists_cons_of_ne_nil h.ne_nil
  rfl

theorem plainChars_plainChars (cs : List Char) : plainChars (plainChars cs) = plainChars cs := by
  obtain ⟨stem, hstem, hcs⟩ := exists_stem cs
  rw [hcs, hstem.plainChars_guardDigit]

/-! ## Names -/

theorem toList_mapChars (f : List Char → List Char) (s : String) :
    (mapChars f s).toList = f s.toList := String.toList_ofList

theorem mapChars_mapChars {f : List Char → List Char} (h : ∀ cs, f (f cs) = f cs) (s : String) :
    mapChars f (mapChars f s) = mapChars f s := by
  rw [← String.toList_inj, toList_mapChars, toList_mapChars, h]

/-- The style of a text that ends in a token. -/
theorem mapChars_append_blank_eq_iff (f : List Char → List Char) (a b : String) :
    mapChars f (a ++ " " ++ b) = mapChars f a ++ b ↔
      f (a.toList ++ ' ' :: b.toList) = f a.toList ++ b.toList := by
  rw [← String.toList_inj, toList_mapChars, String.toList_append, String.toList_append,
    String.toList_append, toList_mapChars, List.append_assoc]
  rfl

/-- The token of a text and a token behind it is made of the two tokens, and the name of a text with
the suffix of a media type behind it of the name and the suffix: exactly if the text has a word
character. Each style leaves alone what it has made. -/
theorem names_compose :
    (∀ a b : String, token (a ++ " " ++ token b) = token a ++ token b ↔
      ∃ c ∈ a.toList, isWord c = true) ∧
    (∀ a m : String, camel (a ++ " " ++ mediaTypeSuffix m) = camel a ++ mediaTypeSuffix m ↔
      ∃ c ∈ a.toList, isWord c = true) ∧
    (∀ s, token (token s) = token s) ∧ (∀ s, camel (camel s) = camel s) ∧
    ∀ s, plain (plain s) = plain s := by
  refine ⟨fun a b ↦ ?_, fun a m ↦ ?_, mapChars_mapChars fun cs ↦ ?_,
    mapChars_mapChars camelChars_camelChars, mapChars_mapChars plainChars_plainChars⟩
  · have htoken : IsToken (token b).toList := by
      rw [token, toList_mapChars]
      exact isToken_tokenChars _
    exact (mapChars_append_blank_eq_iff tokenChars a _).trans
      (tokenChars_append_blank_eq_iff a.toList htoken)
  · have htoken : IsToken (mediaTypeSuffix m).toList := by
      rw [mediaTypeSuffix, toList_mapChars]
      exact isToken_tokenChars _
    exact (mapChars_append_blank_eq_iff camelChars a _).trans
      (camelChars_append_blank_eq_iff a.toList htoken)
  · exact (isToken_tokenChars cs).tokenChars_eq

end ApiClient.Name
