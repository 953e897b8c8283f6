import ApiClient.Value
import Mathlib.Tactic.Common

/-!
# Texts, lists and maps

A value is a list or a map by its first level alone: one that contains itself is opened once, and
what is inside refers back to the whole. Lists and maps are no keys, and they hold as truths unless
they are empty.
-/

namespace ApiClient.Value

theorem isText_iff {v : Value} {s : String} : v.isText s = true ↔ v = .text s := by
  cases v <;> simp [isText]

theorem eq_of_text_same {s : String} {v : Value} (h : same (.text s) v = true) : v = .text s := by
  cases v <;> simp_all [same, sameNumber, number?]

/-- Only a text equals a text. -/
theorem same_text (v : Value) (s : String) : v.same (.text s) = v.isText s := by
  cases v <;> simp [same, sameNumber, number?, isText]

/-- A value that is a list on its first level is a list, or a knot of one. -/
theorem shape_of_asList? {v : Value} {vs : List Value} (h : v.asList? = some vs) :
    v = .list vs ∨ ∃ mark ws, v = .knot mark (.list ws) ∧ vs = plugAll mark v ws := by
  cases v with
  | list => exact .inl (congrArg _ (Option.some.inj h))
  | knot mark v =>
    cases v with
    | list ws => exact .inr ⟨mark, ws, rfl, (Option.some.inj h).symm⟩
    | again m =>
      by_cases hm : m = mark <;> simp [asList?, opened, plug, hm] at h
    | knot m v =>
      by_cases hm : m = mark <;> simp [asList?, opened, plug, hm] at h
    | _ => cases h
  | _ => cases h

/-- A value that is a map on its first level is a map, or a knot of one. -/
theorem shape_of_asMap? {v : Value} {es : List (Value × Value)} (h : v.asMap? = some es) :
    v = .map es ∨ ∃ mark fs, v = .knot mark (.map fs) ∧ es = plugEntries mark v fs := by
  cases v with
  | map => exact .inl (congrArg _ (Option.some.inj h))
  | knot mark v =>
    cases v with
    | map fs => exact .inr ⟨mark, fs, rfl, (Option.some.inj h).symm⟩
    | again m =>
      by_cases hm : m = mark <;> simp [asMap?, opened, plug, hm] at h
    | knot m v =>
      by_cases hm : m = mark <;> simp [asMap?, opened, plug, hm] at h
    | _ => cases h
  | _ => cases h

theorem asMap?_of_entries {v : Value} {es : List (Value × Value)} (h : v.entries = .ok es) :
    v.asMap? = some es := by
  unfold entries at h
  cases hv : v.asMap? with
  | none =>
    rw [hv] at h
    cases h
  | some fs =>
    rw [hv] at h
    exact congrArg some (Except.ok.inj h)

theorem hashable_of_asList? {v : Value} {vs : List Value} (h : v.asList? = some vs) :
    v.hashable = false := by
  obtain rfl | ⟨mark, ws, rfl, -⟩ := shape_of_asList? h <;> rfl

theorem hashable_of_asMap? {v : Value} {es : List (Value × Value)} (h : v.asMap? = some es) :
    v.hashable = false := by
  obtain rfl | ⟨mark, fs, rfl, -⟩ := shape_of_asMap? h <;> rfl

theorem truthy_of_asList? {v : Value} {vs : List Value} (h : v.asList? = some vs) :
    v.truthy = !vs.isEmpty := by
  obtain rfl | ⟨mark, ws, rfl, rfl⟩ := shape_of_asList? h
  · rfl
  · cases ws <;> rfl

theorem truthy_of_asMap? {v : Value} {es : List (Value × Value)} (h : v.asMap? = some es) :
    v.truthy = !es.isEmpty := by
  obtain rfl | ⟨mark, fs, rfl, rfl⟩ := shape_of_asMap? h
  · rfl
  · cases fs <;> rfl

theorem items_of_asList? {v : Value} {vs : List Value} (h : v.asList? = some vs) :
    v.items = .ok vs := by
  unfold asList? at h
  unfold items
  split at h
  · next hopened =>
    rw [hopened]
    exact congrArg _ (Option.some.inj h)
  · cases h

theorem items_of_asMap? {v : Value} {es : List (Value × Value)} (h : v.asMap? = some es) :
    v.items = .ok (es.map (·.1)) := by
  unfold asMap? at h
  unfold items
  split at h
  · next hopened =>
    rw [hopened, Option.some.inj h]
  · cases h

theorem asMap?_of_asList? {v : Value} {vs : List Value} (h : v.asList? = some vs) :
    v.asMap? = none := by
  unfold asList? at h
  unfold asMap?
  split at h
  · next hopened => rw [hopened]
  · cases h

theorem asList?_of_asMap? {v : Value} {es : List (Value × Value)} (h : v.asMap? = some es) :
    v.asList? = none := by
  unfold asMap? at h
  unfold asList?
  split at h
  · next hopened => rw [hopened]
  · cases h

end ApiClient.Value
