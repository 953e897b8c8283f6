import ApiClient.Text.Edit
import Mathlib.Tactic.Common

/-!
# Replacement of a text

A text is replaced from left to right, and the search goes on behind each occurrence. Up to the
first place where an occurrence can begin nothing changes.
-/

namespace ApiClient.Text

theorem replaceFrom_eq (old new : List Char) (skip : ℕ) (cs : List Char) :
    replaceFrom old new skip cs = replaceAll old new (cs.drop skip) := by
  induction skip generalizing cs with
  | zero => rfl
  | succ skip ih =>
    cases cs with
    | nil => simp [replaceAll, replaceFrom]
    | cons c cs => rw [replaceFrom, List.drop_succ_cons, ih]

theorem replaceAll_nil (old new : List Char) : replaceAll old new [] = [] := rfl

theorem replaceAll_of_begins {old new cs : List Char} {c : Char} (h : (c :: old) <+: (c :: cs)) :
    replaceAll (c :: old) new (c :: cs) =
      new ++ replaceAll (c :: old) new (cs.drop old.length) := by
  rw [replaceAll, replaceFrom, if_pos (List.isPrefixOf_iff_prefix.2 h), replaceFrom_eq,
    List.length_cons, Nat.add_sub_cancel]

theorem replaceAll_of_not_begins {old new cs : List Char} {c : Char} (h : ¬ old <+: (c :: cs)) :
    replaceAll old new (c :: cs) = c :: replaceAll old new cs := by
  rw [replaceAll, replaceFrom, if_neg (fun hprefix ↦ h (List.isPrefixOf_iff_prefix.1 hprefix)),
    replaceAll]

/-- What does not have the first character of the old text is kept. -/
theorem replaceAll_append_of_not_mem {old new kept : List Char} {c : Char} (h : c ∉ kept)
    (cs : List Char) :
    replaceAll (c :: old) new (kept ++ cs) = kept ++ replaceAll (c :: old) new cs := by
  induction kept with
  | nil => rfl
  | cons d kept ih =>
    rw [List.mem_cons, not_or] at h
    have hother : ¬ (c :: old) <+: (d :: (kept ++ cs)) := fun hprefix ↦
      h.1 (List.cons_prefix_cons.1 hprefix).1
    rw [List.cons_append, replaceAll_of_not_begins hother, ih h.2, List.cons_append]

theorem replaceAll_self_append (old new cs : List Char) (c : Char) :
    replaceAll (c :: old) new (c :: old ++ cs) = new ++ replaceAll (c :: old) new cs := by
  have hbegins : (c :: old) <+: (c :: (old ++ cs)) := List.prefix_append (c :: old) cs
  rw [List.cons_append, replaceAll_of_begins hbegins, List.drop_left]

/-- To replace a character is to write each character by itself. -/
theorem replaceAll_singleton (c : Char) (new cs : List Char) :
    replaceAll [c] new cs = cs.flatMap fun d ↦ if d = c then new else [d] := by
  induction cs with
  | nil => rfl
  | cons d cs ih =>
    rw [List.flatMap_cons, ← ih]
    split
    · next hsame =>
      subst hsame
      exact replaceAll_self_append [] new cs d
    · next hother =>
      exact replaceAll_append_of_not_mem (show c ∉ [d] by simpa using Ne.symm hother) cs

theorem not_mem_replaceAll_singleton {c : Char} {new : List Char} (h : c ∉ new) (cs : List Char) :
    c ∉ replaceAll [c] new cs := by
  rw [replaceAll_singleton, List.mem_flatMap]
  rintro ⟨d, -, hmem⟩
  split at hmem
  · exact h hmem
  · next hother => exact hother (List.mem_singleton.1 hmem).symm

end ApiClient.Text
