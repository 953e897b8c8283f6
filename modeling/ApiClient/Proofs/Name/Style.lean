import ApiClient.Proofs.Name.Registry

/-!
# Styled names and suffixes

A token is an identifier, and remains one with a suffix. How a styled name ends: a token ends as the
last word of its text does, and a name with a suffix ends in a digit. So a name that ends in neither
way is not given out for want of another one.
-/

namespace ApiClient.Name

/-! ## Tokens -/

theorem titled_append_blank (inWord : Bool) (cs ds : List Char) :
    titled inWord (cs ++ ' ' :: ds) = titled inWord cs ++ titled false ds := by
  induction cs generalizing inWord with
  | nil => rfl
  | cons c cs ih =>
    simp only [List.cons_append, titled]
    split <;> simp only [ih, List.cons_append]

theorem suffix_guardDigit (cs : List Char) : cs <:+ guardDigit cs := by
  cases cs with
  | nil => exact List.suffix_rfl
  | cons c cs =>
    rw [guardDigit]
    split
    · exact List.suffix_cons '_' (c :: cs)
    · exact List.suffix_rfl

theorem suffix_tokenChars {cs token : List Char} (h : token <:+ titled false cs)
    (hne : token ≠ []) : token <:+ tokenChars cs := by
  unfold tokenChars
  split
  · next hnil => exact absurd (List.suffix_nil.1 (hnil ▸ h)) hne
  · exact h.trans (suffix_guardDigit _)

/-- A token ends with the token of what follows the last blank. -/
theorem suffix_token_append_blank (s word : String) (h : titled false word.toList ≠ []) :
    titled false word.toList <:+ (token (s ++ " " ++ word)).toList := by
  unfold token mapChars
  rw [String.toList_ofList]
  refine suffix_tokenChars ?_ h
  rw [String.toList_append, String.toList_append, List.append_assoc]
  exact titled_append_blank false s.toList word.toList ▸ List.suffix_append _ _

/-! ## Suffixes -/

theorem isDigit_of_mem_repr {n : Nat} {c : Char} (h : c ∈ n.repr.toList) : c.isDigit :=
  Nat.isDigit_of_mem_toDigits (by decide) (by decide) (Nat.toList_repr ▸ h)

/-- A suffixed name ends in a digit. -/
theorem isDigit_of_getLast?_suffixed_succ {candidate : String} {k : Nat} {c : Char}
    (h : (suffixed candidate (k + 1)).toList.getLast? = some c) : c.isDigit := by
  have hne : (k + 1).repr.toList ≠ [] := by
    rw [Nat.toList_repr]
    exact Nat.toDigits_ne_nil
  rw [suffixed, if_neg k.succ_ne_zero, String.toList_append, List.getLast?_append,
    List.getLast?_eq_some_getLast hne, Option.some_or, Option.some.injEq] at h
  exact isDigit_of_mem_repr (h ▸ List.getLast_mem hne)

/-- A suffixed name that does not end in a digit is its candidate. -/
theorem candidate_eq_of_suffixed {candidate name : String} {k : Nat} {c : Char}
    (h : suffixed candidate k = name) (hlast : name.toList.getLast? = some c)
    (hdigit : c.isDigit = false) : candidate = name := by
  cases k with
  | zero => exact h
  | succ k =>
    subst h
    rw [isDigit_of_getLast?_suffixed_succ hlast] at hdigit
    cases hdigit

/-! ## Identifiers -/

/-- A text that is an identifier: a row of word characters that does not open with a digit. -/
structure IsIdentifier (name : String) : Prop where
  chars : ∀ c ∈ name.toList, isWord c = true
  head : ∃ c cs, name.toList = c :: cs ∧ c.isDigit = false

theorem isIdentifier_iff {name : String} : IsIdentifier name ↔
    name.toList.all isWord = true ∧ name.toList.head?.map Char.isDigit = some false := by
  rw [List.all_eq_true]
  constructor
  · rintro ⟨hchars, c, cs, hcs, hdigit⟩
    rw [hcs, List.head?_cons, Option.map_some, hdigit]
    exact ⟨hcs ▸ hchars, rfl⟩
  · rintro ⟨hchars, hhead⟩
    obtain ⟨c, hc, hdigit⟩ := Option.map_eq_some_iff.1 hhead
    obtain ⟨cs, hcs⟩ := List.head?_eq_some_iff.1 hc
    exact ⟨hchars, c, cs, hcs, hdigit⟩

instance (name : String) : Decidable (IsIdentifier name) := decidable_of_iff' _ isIdentifier_iff

theorem isUpper_toUpper {c : Char} (h : c.isLower = true) : c.toUpper.isUpper = true := by
  -- `delta` opens the definitions without stating equations for them.
  delta Char.isLower Char.toUpper Char.isUpper at *
  grind

theorem toUpper_eq_self {c : Char} (h : c.isLower = false) : c.toUpper = c := by
  delta Char.isLower Char.toUpper at *
  grind

theorem isWord_toUpper {c : Char} (h : isWord c = true) : isWord c.toUpper = true := by
  cases hlower : c.isLower with
  | true =>
    have halpha : c.toUpper.isAlpha = (c.toUpper.isUpper || c.toUpper.isLower) := rfl
    rw [isWord, Char.isAlphanum, halpha, isUpper_toUpper hlower]
    rfl
  | false => rwa [toUpper_eq_self hlower]

theorem isWord_of_mem_titled {inWord : Bool} {cs : List Char} {c : Char}
    (h : c ∈ titled inWord cs) : isWord c = true := by
  induction cs generalizing inWord with
  | nil => cases h
  | cons d cs ih =>
    rw [titled] at h
    split at h
    · next hd =>
      rcases List.mem_cons.1 h with rfl | h
      · split
        · exact hd
        · exact isWord_toUpper hd
      · exact ih h
    · exact ih h

theorem isWord_of_mem_guardDigit {cs : List Char} (hcs : ∀ c ∈ cs, isWord c = true) {c : Char}
    (h : c ∈ guardDigit cs) : isWord c = true := by
  cases cs with
  | nil => cases h
  | cons d cs =>
    rw [guardDigit] at h
    split at h
    · rcases List.mem_cons.1 h with rfl | h
      · decide
      · exact hcs c h
    · exact hcs c h

theorem exists_head_guardDigit {cs : List Char} (hne : cs ≠ []) :
    ∃ c rest, guardDigit cs = c :: rest ∧ c.isDigit = false := by
  cases cs with
  | nil => exact absurd rfl hne
  | cons c cs =>
    rw [guardDigit]
    split
    · exact ⟨'_', c :: cs, rfl, by decide⟩
    · next hdigit => exact ⟨c, cs, rfl, by simpa using hdigit⟩

/-- Word characters are an identifier once a digit at the start is guarded. -/
theorem isIdentifier_guardDigit {cs : List Char} (hne : cs ≠ [])
    (hcs : ∀ c ∈ cs, isWord c = true) : IsIdentifier (String.ofList (guardDigit cs)) := by
  refine ⟨fun c hc ↦ ?_, ?_⟩
  · rw [String.toList_ofList] at hc
    exact isWord_of_mem_guardDigit hcs hc
  · rw [String.toList_ofList]
    exact exists_head_guardDigit hne

theorem isIdentifier_token (s : String) : IsIdentifier (token s) := by
  unfold token mapChars tokenChars
  split
  · decide
  · next hne =>
    exact isIdentifier_guardDigit (fun hnil ↦ hne hnil) fun _ ↦ isWord_of_mem_titled

theorem isLower_toLower {c : Char} (h : c.isUpper = true) : c.toLower.isLower = true := by
  delta Char.isLower Char.toLower Char.isUpper at *
  rw [Bool.and_eq_true, decide_eq_true_iff, decide_eq_true_iff]
  grind

theorem toLower_eq_self {c : Char} (h : c.isUpper = false) : c.toLower = c := by
  delta Char.isUpper Char.toLower at *
  grind

theorem isDigit_toLower {c : Char} (h : c.isDigit = false) : c.toLower.isDigit = false := by
  delta Char.isDigit Char.toLower at *
  grind

theorem isWord_toLower {c : Char} (h : isWord c = true) : isWord c.toLower = true := by
  cases hupper : c.isUpper with
  | true =>
    have halpha : c.toLower.isAlpha = (c.toLower.isUpper || c.toLower.isLower) := rfl
    rw [isWord, Char.isAlphanum, halpha, isLower_toLower hupper, Bool.or_true]
    rfl
  | false => rwa [toLower_eq_self hupper]

/-- A small letter in the place of a capital changes nothing about a token. -/
theorem isIdentifier_camel (s : String) : IsIdentifier (camel s) := by
  have htoken := isIdentifier_token s
  obtain ⟨c, cs, hcs, hdigit⟩ := htoken.head
  have hchars := htoken.chars
  rw [hcs, List.forall_mem_cons] at hchars
  have hcamel : (camel s).toList = c.toLower :: cs := by
    rw [token, mapChars, String.toList_ofList] at hcs
    rw [camel, mapChars, String.toList_ofList, camelChars, hcs]
  refine ⟨fun d hd ↦ ?_, c.toLower, cs, hcamel, isDigit_toLower hdigit⟩
  rw [hcamel, List.mem_cons] at hd
  rcases hd with rfl | hd
  · exact isWord_toLower hchars.1
  · exact hchars.2 d hd

theorem mem_of_mem_trimWhile {p : Char → Bool} {cs : List Char} {c : Char}
    (h : c ∈ Text.trimWhile p cs) : c ∈ cs := by
  rw [Text.trimWhile, Text.trimEndWhile, List.mem_reverse] at h
  have hstart := List.mem_reverse.1 ((List.dropWhile_sublist p).subset h)
  exact (List.dropWhile_sublist p).subset hstart

theorem isIdentifier_plain (s : String) : IsIdentifier (plain s) := by
  unfold plain mapChars plainChars
  simp only []
  split
  · decide
  · next hne =>
    refine isIdentifier_guardDigit (fun hnil ↦ hne hnil) fun c hc ↦ ?_
    obtain ⟨d, -, rfl⟩ := List.mem_map.1 (mem_of_mem_trimWhile hc)
    split
    · assumption
    · decide

theorem IsIdentifier.suffixed {candidate : String} (h : IsIdentifier candidate) (k : Nat) :
    IsIdentifier (suffixed candidate k) := by
  unfold Name.suffixed
  split
  · exact h
  · obtain ⟨c, cs, hcs, hdigit⟩ := h.head
    refine ⟨fun d hd ↦ ?_, c, cs ++ "_".toList ++ k.repr.toList, ?_, hdigit⟩
    · rw [String.toList_append, String.toList_append, List.mem_append, List.mem_append] at hd
      rcases hd with (hd | hd) | hd
      · exact h.chars d hd
      · obtain rfl := List.mem_singleton.1 hd
        decide
      · rw [isWord, Char.isAlphanum, isDigit_of_mem_repr hd, Bool.or_true, Bool.true_or]
    · rw [String.toList_append, String.toList_append, hcs, List.cons_append, List.cons_append]

/-- Whatever a scope gives out whose style makes identifiers is an identifier. -/
theorem Registry.Extends.isIdentifier {reserved : List String} {style : String → String}
    {r : Registry} (h : (Registry.new reserved style).Extends r)
    (hstyle : ∀ s, IsIdentifier (style s)) {raw name : String}
    (hname : r.identifier? raw = some name) : IsIdentifier name := by
  obtain ⟨k, rfl⟩ := h.styled (Registry.identifier?_new _ _ raw) hname
  exact (hstyle raw).suffixed k

end ApiClient.Name
