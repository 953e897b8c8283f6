import ApiClient.Description
import ApiClient.Proofs.Text.Replacing
import ApiClient.Proofs.Value.Json

/-!
# Pointers

A pointer spells out the keys that lead to a part of a description, with a slash between any two.
Inside a key the tildes are escaped first and then the slashes, so a written key has no slash, and
undoing the escapes in the opposite order gives the key back. A pointer therefore denotes what its
keys lead to, and where they lead nowhere it fails at the first key that cannot be followed.
-/

namespace ApiClient.Description

open Text Value

/-! ## Escapes -/

/-- Escapes a key for a pointer: its tildes, and then its slashes. -/
def escapeKey (cs : List Char) : List Char :=
  replaceAll ['/'] ['~', '1'] (replaceAll ['~'] ['~', '0'] cs)

/-- How one character of a key is written. -/
def escapeKeyChar (c : Char) : List Char :=
  if c = '~' then ['~', '0'] else if c = '/' then ['~', '1'] else [c]

theorem escapeKey_eq_flatMap (cs : List Char) : escapeKey cs = cs.flatMap escapeKeyChar := by
  unfold escapeKey
  rw [replaceAll_singleton, replaceAll_singleton, List.flatMap_assoc]
  congr 1
  funext c
  unfold escapeKeyChar
  by_cases htilde : c = '~'
  · subst htilde
    rfl
  · rw [if_neg htilde, if_neg htilde, List.flatMap_singleton]

/-- A written key is one part between two slashes. -/
theorem slash_not_mem_escapeKey (cs : List Char) : '/' ∉ escapeKey cs :=
  not_mem_replaceAll_singleton (by decide) _

theorem unescape_slashes (cs : List Char) :
    replaceAll ['~', '1'] ['/'] (escapeKey cs) = replaceAll ['~'] ['~', '0'] cs := by
  rw [escapeKey_eq_flatMap, replaceAll_singleton]
  induction cs with
  | nil => rfl
  | cons c cs ih =>
    rw [List.flatMap_cons, List.flatMap_cons]
    by_cases htilde : c = '~'
    · -- the zero keeps the tilde from being read with what follows
      subst htilde
      have hother : ¬ ['~', '1'] <+: '~' :: ('0' :: cs.flatMap escapeKeyChar) := by simp
      change replaceAll _ _ ('~' :: ('0' :: cs.flatMap escapeKeyChar)) = _
      rw [replaceAll_of_not_begins hother]
      change '~' :: replaceAll _ _ (['0'] ++ cs.flatMap escapeKeyChar) = _
      rw [replaceAll_append_of_not_mem (by decide), ih]
      rfl
    · rw [if_neg htilde, escapeKeyChar, if_neg htilde]
      by_cases hslash : c = '/'
      · subst hslash
        rw [if_pos rfl, replaceAll_self_append, ih]
      · rw [if_neg hslash, replaceAll_append_of_not_mem (by simpa using Ne.symm htilde), ih]

theorem unescape_tildes (cs : List Char) :
    replaceAll ['~', '0'] ['~'] (replaceAll ['~'] ['~', '0'] cs) = cs := by
  rw [replaceAll_singleton]
  induction cs with
  | nil => rfl
  | cons c cs ih =>
    rw [List.flatMap_cons]
    split
    · next htilde =>
      subst htilde
      rw [replaceAll_self_append, ih]
      rfl
    · next hother =>
      rw [replaceAll_append_of_not_mem (by simpa using Ne.symm hother), ih]
      rfl

/-- Whatever a key holds, also what looks like an escape, it is read back. -/
theorem unescapeKey_escapeKey (cs : List Char) : unescapeKey (escapeKey cs) = cs := by
  rw [unescapeKey, unescape_slashes, unescape_tildes]

/-- Each character that is escaped takes one more place. -/
theorem length_escapeKey (cs : List Char) :
    (escapeKey cs).length = cs.length + cs.countP fun c ↦ c = '~' ∨ c = '/' := by
  rw [escapeKey_eq_flatMap]
  induction cs with
  | nil => rfl
  | cons c cs ih =>
    rw [List.flatMap_cons, List.length_append, ih, List.countP_cons, List.length_cons,
      escapeKeyChar]
    by_cases htilde : c = '~'
    · rw [if_pos htilde, if_pos (by simp [htilde])]
      change 2 + _ = _
      omega
    · by_cases hslash : c = '/'
      · rw [if_neg htilde, if_pos hslash, if_pos (by simp [hslash])]
        change 2 + _ = _
        omega
      · rw [if_neg htilde, if_neg hslash, if_neg (by simp [htilde, hslash])]
        change 1 + _ = _
        omega

theorem escapeKey_ne_nil {cs : List Char} (h : cs ≠ []) : escapeKey cs ≠ [] := by
  intro hnil
  have hlength := length_escapeKey cs
  rw [hnil, List.length_nil] at hlength
  exact h (List.length_eq_zero_iff.1 (by omega))

/-- A key is written as it is just if it has nothing to escape. -/
theorem escapeKey_eq_self_iff (cs : List Char) : escapeKey cs = cs ↔ '~' ∉ cs ∧ '/' ∉ cs := by
  constructor
  · intro hsame
    have hcount : (cs.countP fun c ↦ c = '~' ∨ c = '/') = 0 := by
      have hlength := length_escapeKey cs
      rw [hsame] at hlength
      omega
    have hplain := List.countP_eq_zero.1 hcount
    exact ⟨fun hmem ↦ hplain _ hmem (by decide), fun hmem ↦ hplain _ hmem (by decide)⟩
  · rintro ⟨htilde, hslash⟩
    have hchars : ∀ c ∈ cs, escapeKeyChar c = [c] := by
      intro c hc
      have hnottilde : c ≠ '~' := fun h ↦ htilde (h ▸ hc)
      have hnotslash : c ≠ '/' := fun h ↦ hslash (h ▸ hc)
      rw [escapeKeyChar, if_neg hnottilde, if_neg hnotslash]
    rw [escapeKey_eq_flatMap, List.flatMap, List.map_congr_left hchars]
    exact List.flatMap_singleton' cs

/-! ## Pointers -/

/-- The pointer that follows some keys. -/
def pointerTo (keys : List String) : String :=
  String.ofList ('#' :: '/' :: join ['/'] (keys.map fun key ↦ escapeKey key.toList))

/-- A key that does not begin with a hash is not written with one, and never with a slash. -/
theorem exists_head_escapeKey {key : String} (hne : key ≠ "")
    (hhash : key.toList.head? ≠ some '#') :
    ∃ c cs, escapeKey key.toList = c :: cs ∧ c ≠ '#' ∧ c ≠ '/' := by
  have hwritten : ∃ c cs, escapeKey key.toList = c :: cs ∧ c ≠ '#' := by
    rw [escapeKey_eq_flatMap]
    cases hkey : key.toList with
    | nil => exact absurd (String.toList_eq_nil_iff.1 hkey) hne
    | cons d ds =>
      rw [hkey, List.head?_cons, ne_eq, Option.some.injEq] at hhash
      rw [List.flatMap_cons, escapeKeyChar]
      by_cases htilde : d = '~'
      · rw [if_pos htilde]
        exact ⟨_, _, rfl, by decide⟩
      · rw [if_neg htilde]
        by_cases hslash : d = '/'
        · rw [if_pos hslash]
          exact ⟨_, _, rfl, by decide⟩
        · rw [if_neg hslash]
          exact ⟨_, _, rfl, hhash⟩
  obtain ⟨c, cs, hcs, hc⟩ := hwritten
  refine ⟨c, cs, hcs, hc, ?_⟩
  rintro rfl
  exact slash_not_mem_escapeKey key.toList (hcs ▸ List.mem_cons_self)

/-- The keys that a pointer was made of are read from it. -/
theorem pointerKeys_pointerTo {key : String} (hne : key ≠ "")
    (hhash : key.toList.head? ≠ some '#') (keys : List String) :
    pointerKeys (pointerTo (key :: keys)) = key :: keys := by
  let written := (key :: keys).map fun key ↦ escapeKey key.toList
  have hmarks : ('#' :: '/' :: join ['/'] written).dropWhile (fun c ↦ c = '#' || c = '/') =
      join ['/'] written := by
    obtain ⟨c, cs, hcs, hnothash, hnotslash⟩ := exists_head_escapeKey hne hhash
    have hfirst : ∃ rest, join ['/'] written = c :: rest := by
      unfold join written
      rw [List.map_cons, hcs]
      cases keys with
      | nil => exact ⟨cs, by simp⟩
      | cons key' keys => exact ⟨_, by rw [List.map_cons, List.intercalate_cons_cons]; rfl⟩
    obtain ⟨rest, hrest⟩ := hfirst
    rw [hrest]
    simp [hnothash, hnotslash]
  have hsplit : (join ['/'] written).splitOn '/' = written := by
    refine List.splitOn_intercalate '/' (fun part hpart ↦ ?_) (by simp [written])
    obtain ⟨key', -, rfl⟩ := List.mem_map.1 hpart
    exact slash_not_mem_escapeKey key'.toList
  rw [pointerKeys, pointerTo, String.toList_ofList, hmarks, hsplit, List.map_map]
  conv_rhs => rw [← List.map_id (key :: keys)]
  refine List.map_congr_left fun key' _ ↦ ?_
  change String.ofList (unescapeKey (escapeKey key'.toList)) = key'
  rw [unescapeKey_escapeKey, String.ofList_toList]

/-! ## Following keys -/

/-- The keys lead from a value to a part of it, through nested objects. -/
inductive Leads : Value → List String → Value → Prop
  | here (v : Value) : Leads v [] v
  | under {v : Value} {entries : List (Value × Value)} {key : String} {w : Value}
      {keys : List String} {part : Value} : v.asMap? = some entries →
      lookup entries key = some w → Leads w keys part → Leads v (key :: keys) part

/-- The keys lead to an object that does not have the next one. -/
def Misses (v : Value) (keys : List String) (key : String) : Prop :=
  ∃ before after part entries, keys = before ++ key :: after ∧ Leads v before part ∧
    part.asMap? = some entries ∧ lookup entries key = none

/-- The keys lead to a value that is no object, and there are more of them. -/
def Strays (v : Value) (keys : List String) : Prop :=
  ∃ before key after part, keys = before ++ key :: after ∧ Leads v before part ∧
    part.asMap? = none

variable {v part : Value} {keys : List String}

theorem descend_of_lookup {entries : List (Value × Value)} {key : String} {w : Value}
    (hv : v.asMap? = some entries) (hw : lookup entries key = some w) :
    descend v key = .ok w := by
  rw [descend, hv]
  simp only [hw]

theorem descend_of_missing {entries : List (Value × Value)} {key : String}
    (hv : v.asMap? = some entries) (hw : lookup entries key = none) :
    descend v key = .error (.missing key) := by
  rw [descend, hv]
  simp only [hw]

theorem descend_of_other (hv : v.asMap? = none) (key : String) :
    descend v key = .error .unsuitable := by
  rw [descend, hv]

theorem Leads.foldlM (h : Leads v keys part) : keys.foldlM descend v = .ok part := by
  induction h with
  | here => rfl
  | under hv hw _ ih =>
    rw [List.foldlM_cons, descend_of_lookup hv hw]
    exact ih

/-- After keys that lead to a part, the rest is followed from there. -/
theorem Leads.foldlM_append (h : Leads v keys part) (rest : List String) :
    (keys ++ rest).foldlM descend v = rest.foldlM descend part := by
  rw [List.foldlM_append, h.foldlM]
  rfl

theorem Misses.foldlM {key : String} (h : Misses v keys key) :
    keys.foldlM descend v = .error (.missing key) := by
  obtain ⟨before, after, part, entries, rfl, hleads, hpart, hnone⟩ := h
  rw [hleads.foldlM_append, List.foldlM_cons, descend_of_missing hpart hnone]
  rfl

theorem Strays.foldlM (h : Strays v keys) : keys.foldlM descend v = .error .unsuitable := by
  obtain ⟨before, key, after, part, rfl, hleads, hpart⟩ := h
  rw [hleads.foldlM_append, List.foldlM_cons, descend_of_other hpart]
  rfl

/-- Keys lead to a part, to an object without the next key or to what is no object. -/
theorem leads_or_misses_or_strays (v : Value) (keys : List String) :
    (∃ part, Leads v keys part) ∨ (∃ key, Misses v keys key) ∨ Strays v keys := by
  induction keys generalizing v with
  | nil => exact .inl ⟨v, .here v⟩
  | cons key keys ih =>
    cases hv : v.asMap? with
    | none => exact .inr (.inr ⟨[], key, keys, v, rfl, .here v, hv⟩)
    | some entries =>
      cases hw : lookup entries key with
      | none => exact .inr (.inl ⟨key, [], keys, v, entries, rfl, .here v, hv, hw⟩)
      | some w =>
        rcases ih w with ⟨part, hleads⟩ | ⟨missing, hmisses⟩ | hstrays
        · exact .inl ⟨part, .under hv hw hleads⟩
        · obtain ⟨before, after, part, fs, rfl, hleads, hpart, hnone⟩ := hmisses
          exact .inr (.inl ⟨missing, key :: before, after, part, fs, rfl, .under hv hw hleads,
            hpart, hnone⟩)
        · obtain ⟨before, next, after, part, rfl, hleads, hpart⟩ := hstrays
          exact .inr (.inr ⟨key :: before, next, after, part, rfl, .under hv hw hleads, hpart⟩)

/-- What following keys comes to: the part that they lead to, or a fault at the first key that cannot
be followed. -/
def Follows (v : Value) (keys : List String) : Except Fault Value → Prop
  | .ok part => Leads v keys part
  | .error (.missing key) => Misses v keys key
  | .error .unsuitable => Strays v keys
  | .error _ => False

theorem foldlM_eq_iff {outcome : Except Fault Value} :
    keys.foldlM descend v = outcome ↔ Follows v keys outcome := by
  constructor
  · rintro rfl
    rcases leads_or_misses_or_strays v keys with ⟨part, hleads⟩ | ⟨key, hmisses⟩ | hstrays
    · rw [hleads.foldlM]
      exact hleads
    · rw [hmisses.foldlM]
      exact hmisses
    · rw [hstrays.foldlM]
      exact hstrays
  · intro h
    match outcome with
    | .ok part => exact Leads.foldlM h
    | .error (.missing key) => exact Misses.foldlM h
    | .error .unsuitable => exact Strays.foldlM h

theorem resolve_text (description : Value) (pointer : String) :
    resolve description (.text pointer) = (pointerKeys pointer).foldlM descend description := rfl

theorem exists_leads_of_resolve {description pointer part : Value}
    (h : resolve description pointer = .ok part) : ∃ keys, Leads description keys part := by
  unfold resolve at h
  cases htext : pointer.asText with
  | error fault =>
    rw [htext] at h
    cases h
  | ok text =>
    rw [htext] at h
    exact ⟨pointerKeys text, foldlM_eq_iff.1 h⟩

/-- A pointer that is made of keys, the first of which neither is empty nor begins with a hash,
denotes the part of the description that the keys lead to. Where they meet an object without the
next key this key is missing, and where they meet another kind of value it does not have keys. -/
theorem resolve_pointerTo_iff (description : Value) {key : String} (hne : key ≠ "")
    (hhash : key.toList.head? ≠ some '#') (keys : List String) (outcome : Except Fault Value) :
    resolve description (.text (pointerTo (key :: keys))) = outcome ↔
      Follows description (key :: keys) outcome := by
  rw [resolve_text, pointerKeys_pointerTo hne hhash, foldlM_eq_iff]

/-- An object under a key with a slash, whose keys are empty and like an escape. -/
def slashed : Value :=
  .map [("a/b", .map [("", .int 5), ("~01", .list [.int 1])])]

theorem resolve_slashed :
    pointerTo ["a/b", "~01", "0"] = "#/a~1b/~001/0" ∧ "a/b" ≠ "" ∧
    "a/b".toList.head? ≠ some '#' ∧
    resolve slashed (.text (pointerTo ["a/b", ""])) = .ok (.int 5) ∧
    resolve slashed (.text (pointerTo ["a/b", "~1"])) = .error (.missing "~1") ∧
    resolve slashed (.text (pointerTo ["a/b", "~01", "0"])) = .error .unsuitable := by
  have hne : "a/b" ≠ "" := by decide
  have hhash : "a/b".toList.head? ≠ some '#' := by decide
  have hleads : Leads slashed ["a/b"] (.map [("", .int 5), ("~01", .list [.int 1])]) :=
    .under rfl rfl (.here _)
  refine ⟨by decide, hne, hhash, ?_, ?_, ?_⟩
  · exact (resolve_pointerTo_iff slashed hne hhash _ _).2 (.under rfl rfl (.under rfl rfl (.here _)))
  · exact (resolve_pointerTo_iff slashed hne hhash _ _).2
      ⟨["a/b"], [], _, _, rfl, hleads, rfl, rfl⟩
  · exact (resolve_pointerTo_iff slashed hne hhash _ _).2
      ⟨["a/b", "~01"], "0", [], .list [.int 1], rfl, .under rfl rfl (.under rfl rfl (.here _)), rfl⟩

end ApiClient.Description
