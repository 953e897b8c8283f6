import ApiClient.Json.Reader
import ApiClient.Proofs.Schema.Expressible
import Mathlib.Algebra.Group.Nat.Defs

/-!
# What a text in the interchange notation holds

The machine that reads a text keeps only values of the notation in its open lists and maps, and
every integer among them has a numeral: a numeral with more digits is refused. An entry whose key is
present already takes the place of the earlier one, so the keys of a map are distinct texts. What is
read is therefore a value of the notation whose integers can be written out again.
-/

namespace ApiClient

namespace Number

/-! ## Integers -/

theorem digitIn?_lt {base : Nat} {c : Char} {n : Nat} (h : digitIn? base c = some n) :
    n < base := by
  unfold digitIn? at h
  simpa using (Option.filter_eq_some_iff.1 h).2

theorem foldl_digits_lt {base : Nat} (ds : List Char) (hds : ∀ c ∈ ds, (digitIn? base c).isSome)
    (n : Nat) :
    ds.foldl (fun n c ↦ base * n + (digitIn? base c).getD 0) n < (n + 1) * base ^ ds.length := by
  induction ds generalizing n with
  | nil => simp
  | cons c ds ih =>
    obtain ⟨hc, hds⟩ := List.forall_mem_cons.1 hds
    obtain ⟨digit, hdigit⟩ := Option.isSome_iff_exists.1 hc
    have hless := digitIn?_lt hdigit
    rw [List.foldl_cons, hdigit, Option.getD_some, List.length_cons]
    calc
      _ < (base * n + digit + 1) * base ^ ds.length := ih hds _
      _ ≤ ((n + 1) * base) * base ^ ds.length := by
        apply Nat.mul_le_mul_right
        rw [Nat.succ_mul, Nat.mul_comm]
        omega
      _ = (n + 1) * base ^ (ds.length + 1) := by rw [Nat.mul_assoc, Nat.pow_succ']

/-- An integer that is read has a numeral. -/
theorem natAbs_lt_of_readInt {cs : List Char} {n : Int} (h : readInt 10 cs = .ok n) :
    n.natAbs < 10 ^ Text.maxNumeralDigits := by
  unfold readInt at h
  generalize splitSign (trimNumeral cs) = signed at h
  obtain ⟨negative, body⟩ := signed
  dsimp only at h
  generalize dropUnderscores _ (dropBaseMark 10 body) = ds at h
  split at h
  · cases h
  · split at h
    · cases h
    · next hdigits =>
      split at h
      · cases h
      · next hlength =>
        have hdigits : ∀ c ∈ ds, (digitIn? 10 c).isSome := by
          simpa [Option.isSome_iff_ne_none] using hdigits
        have hlength : ds.length ≤ Text.maxNumeralDigits := by
          rw [not_and] at hlength
          exact Nat.not_lt.1 (hlength rfl)
        have hless := foldl_digits_lt ds hdigits 0
        rw [Nat.zero_add, Nat.one_mul] at hless
        have hless := Nat.lt_of_lt_of_le hless (Nat.pow_le_pow_right (by decide) hlength)
        rw [← Except.ok.inj h]
        cases negative with
        | true => rwa [if_pos rfl, Int.natAbs_neg, Int.natAbs_natCast]
        | false => rwa [if_neg Bool.false_ne_true, Int.natAbs_natCast]

end Number

namespace Value

/-! ## Maps -/

/-- A text that is put into a map is added to its keys, unless it is there. -/
theorem map_key_insert (es : List (Value × Value)) (key : String) (v : Value) :
    (insert es (text key) v).map (·.1) = es.map (·.1) ∨
      text key ∉ es.map (·.1) ∧
        (insert es (text key) v).map (·.1) = es.map (·.1) ++ [text key] := by
  unfold insert
  split
  · refine .inl ?_
    rw [List.map_map]
    apply List.map_congr_left
    intro e _
    rw [Function.comp_apply]
    split <;> rfl
  · next hfresh =>
    refine .inr ⟨?_, by rw [List.map_append]; rfl⟩
    simpa [same_text, isText_iff] using hfresh

theorem nodup_key_insert {es : List (Value × Value)} (h : (es.map (·.1)).Nodup) (key : String)
    (v : Value) : ((insert es (text key) v).map (·.1)).Nodup := by
  obtain hsame | ⟨hfresh, hadded⟩ := map_key_insert es key v
  · rwa [hsame]
  · rw [hadded]
    exact List.nodup_append.2 ⟨h, List.pairwise_singleton _ _, fun k hk k' hk' hsame ↦
      hfresh (List.mem_singleton.1 hk' ▸ hsame ▸ hk)⟩

/-- An entry after a value is put into a map is an entry from before, or it holds this value under
the new key or one from before. -/
theorem mem_insert {es : List (Value × Value)} {key v : Value} {e : Value × Value}
    (h : e ∈ insert es key v) : e ∈ es ∨ e.2 = v ∧ (e.1 = key ∨ ∃ old ∈ es, e.1 = old.1) := by
  unfold insert at h
  split at h
  · obtain ⟨old, hold, rfl⟩ := List.mem_map.1 h
    split
    · exact .inr ⟨rfl, .inr ⟨old, hold, rfl⟩⟩
    · exact .inl hold
  · rcases List.mem_append.1 h with h | h
    · exact .inl h
    · obtain rfl := List.mem_singleton.1 h
      exact .inr ⟨rfl, .inl rfl⟩

end Value

namespace Json

/-! ## Values that are noted -/

/-- A value of the notation whose integers have numerals. -/
structure Noted (v : Value) : Prop where
  isJson : v.isJson = true
  writable : v.writable = true

/-- Entries of texts and values that are noted. -/
def NotedEntries (es : List (Value × Value)) : Prop := ∀ e ∈ es, e.1.isWord = true ∧ Noted e.2

theorem noted_int {n : Int} (h : n.natAbs < 10 ^ Text.maxNumeralDigits) : Noted (.int n) where
  isJson := rfl
  writable := by
    rw [Value.writable]
    generalize Text.maxNumeralDigits = most at h ⊢
    exact decide_eq_true h

theorem noted_list {vs : List Value} (h : ∀ v ∈ vs, Noted v) : Noted (.list vs) where
  isJson := by
    rw [Value.isJson]
    exact Value.allJson_iff.2 fun v hv ↦ (h v hv).isJson
  writable := by
    rw [Value.writable]
    exact Value.allWritable_iff.2 fun v hv ↦ (h v hv).writable

theorem noted_map {es : List (Value × Value)} (hkeys : (es.map (·.1)).Nodup)
    (h : NotedEntries es) : Noted (.map es) where
  isJson := by
    rw [Value.isJson]
    exact Value.entriesJson_iff.2 ⟨hkeys, fun e he ↦ ⟨(h e he).1, (h e he).2.isJson⟩⟩
  writable := by
    rw [Value.writable]
    exact Value.entriesWritable_iff.2 fun e he ↦
      ⟨Value.writable_of_isWord (h e he).1, (h e he).2.writable⟩

theorem NotedEntries.insert {es : List (Value × Value)} (h : NotedEntries es) (key : String)
    {v : Value} (hv : Noted v) : NotedEntries (Value.insert es (.text key) v) := by
  intro e he
  obtain he | ⟨hvalue, hkey⟩ := Value.mem_insert he
  · exact h e he
  · refine ⟨?_, hvalue ▸ hv⟩
    obtain hkey | ⟨old, hold, hkey⟩ := hkey
    · rw [hkey]
      rfl
    · rw [hkey]
      exact (h old hold).1

/-- The map of some entries, put in one after the other, has distinct keys. -/
theorem noted_ofEntries {es : List (Value × Value)} (h : NotedEntries es) :
    Noted (Value.ofEntries es) := by
  suffices hall : ∀ fs : List (Value × Value), (fs.map (·.1)).Nodup → NotedEntries fs →
      Noted (.map (es.foldl (fun fs e ↦ Value.insert fs e.1 e.2) fs)) from
    hall [] List.nodup_nil fun e he ↦ absurd he List.not_mem_nil
  induction es with
  | nil => exact fun fs hkeys hfs ↦ noted_map hkeys hfs
  | cons e es ih =>
    intro fs hkeys hfs
    obtain ⟨⟨hword, hvalue⟩, hrest⟩ := List.forall_mem_cons.1 h
    obtain ⟨key, v⟩ := e
    cases key with
    | text key => exact ih hrest _ (Value.nodup_key_insert hkeys key v) (hfs.insert key hvalue)
    | _ => cases hword

/-! ## The machine -/

/-- An open list or map holds values that are noted. -/
inductive Frame.Noted : Frame → Prop where
  | list {items : List Value} : (∀ v ∈ items, Json.Noted v) → Frame.Noted (.list items)
  | map {entries : List (Value × Value)} {key : String} : NotedEntries entries →
      Frame.Noted (.map entries key)

/-- All that the machine keeps is noted. -/
structure State.Noted (s : State) : Prop where
  frames : ∀ f ∈ s.frames, f.Noted
  result : Json.Noted s.result

namespace State.Noted

variable {s s' : State}

theorem put (h : s.Noted) {v : Value} (hv : Json.Noted v) : (s.put v).Noted := by
  unfold State.put
  split
  · next hframes => exact ⟨fun f hf ↦ h.frames f hf, hv⟩
  · next items frames hframes =>
    obtain ⟨hfirst, hrest⟩ := List.forall_mem_cons.1 (hframes ▸ h.frames)
    cases hfirst with
    | list hitems =>
      exact ⟨List.forall_mem_cons.2 ⟨.list (List.forall_mem_cons.2 ⟨hv, hitems⟩), hrest⟩, h.result⟩
  · next entries key frames hframes =>
    obtain ⟨hfirst, hrest⟩ := List.forall_mem_cons.1 (hframes ▸ h.frames)
    cases hfirst with
    | map hentries =>
      exact ⟨List.forall_mem_cons.2 ⟨.map (List.forall_mem_cons.2 ⟨⟨rfl, hv⟩, hentries⟩), hrest⟩,
        h.result⟩

theorem close (h : s.Noted) : s.close.Noted := by
  unfold State.close
  split
  · exact h
  · next items frames hframes =>
    obtain ⟨hfirst, hrest⟩ := List.forall_mem_cons.1 (hframes ▸ h.frames)
    cases hfirst with
    | list hitems =>
      have hrest : { s with frames }.Noted := ⟨hrest, h.result⟩
      exact hrest.put (noted_list fun v hv ↦ hitems v (List.mem_reverse.1 hv))
  · next entries key frames hframes =>
    obtain ⟨hfirst, hrest⟩ := List.forall_mem_cons.1 (hframes ▸ h.frames)
    cases hfirst with
    | map hentries =>
      have hrest : { s with frames }.Noted := ⟨hrest, h.result⟩
      exact hrest.put (noted_ofEntries fun e he ↦ hentries e (List.mem_reverse.1 he))

/-- A step whose condition fails has no outcome. -/
theorem of_ite {p : Prop} [Decidable p] {t : State}
    (hstep : (if p then Except.ok t else .error Number.Refusal.malformed) = .ok s')
    (ht : t.Noted) : s'.Noted := by
  split at hstep
  · exact Except.ok.inj hstep ▸ ht
  · cases hstep

/-- Every token leaves the machine with values that are noted. -/
theorem step (h : s.Noted) {t : Token} (hstep : s.step t = .ok s') : s'.Noted := by
  unfold State.step at hstep
  cases t with
  | null | bool b | float x => exact of_ite hstep (h.put ⟨rfl, rfl⟩)
  | integer negative digits =>
    dsimp only at hstep
    split at hstep
    · obtain ⟨n, hn, rfl⟩ := Module.exists_of_map_eq_ok hstep
      exact h.put (noted_int (Number.natAbs_lt_of_readInt hn))
    · cases hstep
  | text key =>
    dsimp only at hstep
    split at hstep
    · split at hstep
      · next entries old frames hframes =>
        obtain ⟨hfirst, hrest⟩ := List.forall_mem_cons.1 (hframes ▸ h.frames)
        cases hfirst with
        | map hentries =>
          rw [← Except.ok.inj hstep]
          exact ⟨List.forall_mem_cons.2 ⟨.map hentries, hrest⟩, h.result⟩
      · cases hstep
    · exact of_ite hstep (h.put ⟨rfl, rfl⟩)
  | openList =>
    have hopened : ∀ f ∈ Frame.list [] :: s.frames, f.Noted :=
      List.forall_mem_cons.2 ⟨.list fun v hv ↦ absurd hv List.not_mem_nil, h.frames⟩
    exact of_ite hstep ⟨hopened, h.result⟩
  | openMap =>
    have hopened : ∀ f ∈ Frame.map [] "" :: s.frames, f.Noted :=
      List.forall_mem_cons.2 ⟨.map fun e he ↦ absurd he List.not_mem_nil, h.frames⟩
    exact of_ite hstep ⟨hopened, h.result⟩
  | closeList | closeMap => exact of_ite hstep h.close
  | comma | colon => exact of_ite hstep ⟨h.frames, h.result⟩
  | invalid => cases hstep

theorem run (h : s.Noted) {ts : List Token} (hrun : ts.foldlM State.step s = .ok s') :
    s'.Noted := by
  induction ts generalizing s with
  | nil =>
    obtain rfl : s = s' := Except.ok.inj hrun
    exact h
  | cons t ts ih =>
    rw [List.foldlM_cons] at hrun
    cases hstep : s.step t with
    | error refusal =>
      rw [hstep] at hrun
      cases hrun
    | ok s₁ =>
      rw [hstep] at hrun
      exact ih (h.step hstep) hrun

end State.Noted

/-- What is read from a text is a value of the notation whose integers have numerals. -/
theorem noted_of_read {text : String} {v : Value} (h : read text = .ok v) : Noted v := by
  unfold read readChars at h
  cases hrun : (tokens text.toList).foldlM State.step ⟨[], .value, .null⟩ with
  | error refusal =>
    rw [hrun] at h
    cases h
  | ok s =>
    rw [hrun] at h
    have hstart : State.Noted ⟨[], .value, .null⟩ :=
      ⟨fun f hf ↦ absurd hf List.not_mem_nil, ⟨rfl, rfl⟩⟩
    have hnoted : s.Noted := hstart.run hrun
    change (if s.expected = .nothing then Except.ok s.result else .error Number.Refusal.malformed) =
      .ok v at h
    split at h
    · exact Except.ok.inj h ▸ hnoted.result
    · cases h

/-! ## Parts of what is noted -/

namespace Noted

variable {v : Value}

theorem of_mem_entries (h : Noted v) {es : List (Value × Value)} (hes : v.entries = .ok es)
    {e : Value × Value} (he : e ∈ es) : Noted e.2 := by
  obtain rfl := Value.eq_map_of_asMap? h.isJson (Value.asMap?_of_entries hes)
  have hwritable := h.writable
  rw [Value.writable] at hwritable
  exact ⟨Value.isJson_of_mem_map h.isJson he, (Value.entriesWritable_iff.1 hwritable e he).2⟩

theorem field (h : Noted v) {key : String} {w : Value} (hw : v.field key = .ok w) : Noted w := by
  obtain ⟨found, hfound, rfl⟩ := Module.exists_of_map_eq_ok hw
  obtain ⟨es, hes, rfl⟩ := Module.exists_of_map_eq_ok hfound
  cases hvalue : Value.lookup es key with
  | none => exact ⟨rfl, rfl⟩
  | some v => exact h.of_mem_entries hes (Value.mem_of_lookup hvalue)

theorem orEmptyMap (h : Noted v) : Noted v.orEmptyMap := by
  unfold Value.orEmptyMap
  split
  · exact h
  · exact ⟨rfl, rfl⟩

end Noted

end Json

/-! ## Components of a description -/

namespace Description

open Json

theorem noted_schemas {description w : Value} (h : Noted description)
    (hw : schemas description = .ok w) : Noted w := by
  unfold schemas at hw
  obtain ⟨components, hcomponents, hw⟩ := Module.of_bind_eq_ok hw
  obtain ⟨named, hnamed, hw⟩ := Module.of_bind_eq_ok hw
  rw [← Except.ok.inj hw]
  exact ((h.field hcomponents).orEmptyMap.field hnamed).orEmptyMap

/-- The components of a description that is noted are the shapes of values that are noted. -/
theorem exists_noted_of_mem_components {description : Value} (h : Noted description)
    {named : Components} (hnamed : (do components (← shapes description)) = .ok named)
    {c : String × Schema} (hc : c ∈ named) : ∃ v, Noted v ∧ Schema.parse v = .ok c.2 := by
  obtain ⟨w, es, hw, hes, hread⟩ := Module.exists_entries_of_components hnamed
  obtain ⟨e, he, -, hparse⟩ := Module.exists_left_of_mem hread hc
  exact ⟨e.2, (noted_schemas h hw).of_mem_entries hes he, hparse⟩

end Description

end ApiClient
