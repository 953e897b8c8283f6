import ApiClient.Proofs.Number.Shortest
import ApiClient.Proofs.Text.Lexis
import ApiClient.Value.Literal

/-!
# Identifiers of a literal

A literal that stands for a value ends outside of strings. The text of a string is quoted so that it
is read to its end, and numbers have no identifiers. So the literal of a value that is made of
nulls, truth values, finite numbers, texts and octets has no identifiers but `True`, `False` and
`None`.
-/

namespace ApiClient

open Lexis

variable {P : String → Prop}

/-! ## Strings -/

namespace Lexis

/-- What stands in a string between its quotes: characters other than the quote, of which a
backslash comes with the next one. -/
inductive Body (quote : Char) : List Char → Prop
  | nil : Body quote []
  | char {c cs} : c ≠ quote → c ≠ '\\' → Body quote cs → Body quote (c :: cs)
  | escape {c cs} : Body quote cs → Body quote ('\\' :: c :: cs)

variable {quote : Char} {cs ds : List Char}

theorem Body.append (h : Body quote cs) (h' : Body quote ds) : Body quote (cs ++ ds) := by
  induction h with
  | nil => exact h'
  | char hquote hback _ ih => exact .char hquote hback ih
  | escape _ ih => exact .escape ih

theorem Body.of_forall (h : ∀ c ∈ cs, c ≠ quote ∧ c ≠ '\\') : Body quote cs := by
  induction cs with
  | nil => exact .nil
  | cons c cs ih =>
    obtain ⟨⟨hquote, hback⟩, hcs⟩ := List.forall_mem_cons.1 h
    exact .char hquote hback (ih hcs)

theorem Body.flatMap {α : Type} {f : α → List Char} {as : List α} (h : ∀ a ∈ as, Body quote (f a)) :
    Body quote (as.flatMap f) := by
  induction as with
  | nil => exact .nil
  | cons a as ih =>
    obtain ⟨ha, has⟩ := List.forall_mem_cons.1 h
    rw [List.flatMap_cons]
    exact ha.append (ih has)

/-- What stands in a string is read to the end of it. -/
theorem Body.foldl_step (h : Body quote cs) (hquote : quote ≠ '\\') (found : List String) :
    cs.foldl Scan.step ⟨found, .string quote⟩ = ⟨found, .string quote⟩ := by
  induction h with
  | nil => rfl
  | char hc hback _ ih =>
    rw [List.foldl_cons, Scan.step]
    simpa [hc, hback] using ih
  | escape _ ih =>
    rw [List.foldl_cons, List.foldl_cons, Scan.step]
    simpa [hquote.symm, Scan.step] using ih

/-- A string leaves nothing behind but the word that opens it. -/
theorem Body.clears (h : Body quote cs) (hquote : isQuote quote = true) (opener : List Char)
    (hopener : ∀ c ∈ opener, isWordChar c = true)
    (hopens : opensString opener = true ∨ opener = []) :
    Clears P (String.ofList (opener ++ quote :: cs ++ [quote])) := by
  rintro ⟨found, mode⟩ ⟨hmode, hfound⟩
  obtain rfl : mode = .word [] := hmode
  have hcases : quote = '\'' ∨ quote = '"' := by simpa [isQuote] using hquote
  have hback : quote ≠ '\\' := by rcases hcases with rfl | rfl <;> decide
  have hword : isWordChar quote = false := by rcases hcases with rfl | rfl <;> decide
  have hopened : Scan.step ⟨found, .word opener⟩ quote = ⟨found, .string quote⟩ := by
    rcases hopens with hopens | rfl
    · simp [Scan.step, hword, hquote, hopens]
    · simp [Scan.step, hword, hquote, identifierOf]
  rw [Scan.read, String.toList_ofList, List.append_assoc, List.cons_append, List.foldl_append,
    foldl_step_word hopener, List.nil_append, List.foldl_cons, hopened, List.foldl_append,
    h.foldl_step hback, List.foldl_cons, List.foldl_nil, Scan.step]
  exact ⟨by simp, by simpa using hfound⟩

end Lexis

namespace Text

variable {q : Char}

theorem isAlphanum_lowerHexDigit {n : Nat} (h : n < 16) : (lowerHexDigit n).isAlphanum = true := by
  have hall : ∀ n < 16, (lowerHexDigit n).isAlphanum = true := by decide
  exact hall n h

theorem isAlphanum_of_mem_hexDigits {width n : Nat} {c : Char} (h : c ∈ hexDigits width n) :
    c.isAlphanum = true := by
  induction width generalizing n with
  | zero => cases h
  | succ width ih =>
    rcases List.mem_append.1 h with h | h
    · exact ih h
    · rw [List.mem_singleton.1 h]
      exact isAlphanum_lowerHexDigit (Nat.mod_lt n (by decide))

theorem quoteFor_cases (cs : List Char) : quoteFor cs = '\'' ∨ quoteFor cs = '"' := by
  unfold quoteFor
  split
  · exact .inr rfl
  · exact .inl rfl

theorem body_hexDigits (hq : isQuote q = true) (width n : Nat) : Body q (hexDigits width n) := by
  refine .of_forall fun c hc ↦ ?_
  have halnum := isAlphanum_of_mem_hexDigits hc
  constructor
  · rintro rfl
    rcases (by simpa [isQuote] using hq : c = '\'' ∨ c = '"') with rfl | rfl <;> cases halnum
  · rintro rfl
    cases halnum

theorem body_escapeNumber (hq : isQuote q = true) (n : Nat) : Body q (escapeNumber n) := by
  unfold escapeNumber
  split
  · exact .escape (body_hexDigits hq 2 n)
  · split
    · exact .escape (body_hexDigits hq 4 n)
    · exact .escape (body_hexDigits hq 8 n)

theorem body_escapeChar (hq : isQuote q = true) (c : Char) : Body q (escapeChar q c) := by
  unfold escapeChar
  split
  · exact .escape .nil
  · next hplain =>
    obtain ⟨hquote, hback⟩ := not_or.1 hplain
    repeat' split
    · exact .escape .nil
    · exact .escape .nil
    · exact .escape .nil
    · exact .char hquote hback .nil
    · exact body_escapeNumber hq c.toNat

theorem body_escapePoint (hq : isQuote q = true) (n : Nat) : Body q (escapePoint q n) := by
  unfold escapePoint
  split
  · exact body_escapeChar hq _
  · exact body_escapeNumber hq n

theorem body_escapeOctet (hq : isQuote q = true) (b : UInt8) : Body q (escapeOctet q b) := by
  unfold escapeOctet
  split
  · exact body_escapeChar hq _
  · exact .escape (body_hexDigits hq 2 b.toNat)

theorem isQuote_quoteFor (cs : List Char) : isQuote (quoteFor cs) = true := by
  rcases quoteFor_cases cs with h | h <;> rw [h] <;> rfl

end Text

theorem clears_quote (s : String) : Clears P (quote s) := by
  have hquote := Text.isQuote_quoteFor s.toList
  exact (Body.flatMap fun n _ ↦ Text.body_escapePoint hquote n).clears hquote
    [] (fun _ hc ↦ absurd hc List.not_mem_nil) (.inr rfl)

theorem clears_quotedOctets (octets : List UInt8) :
    Clears P (String.ofList (Text.quotedOctets octets)) := by
  have hquote := Text.isQuote_quoteFor (octets.map fun b ↦ Char.ofNat b.toNat)
  exact (Body.flatMap fun b _ ↦ Text.body_escapeOctet hquote b).clears hquote
    ['b'] (List.forall_mem_singleton.2 (by decide)) (.inl (by decide))

/-! ## Numbers -/

/-- A run of word characters that opens with a digit is read as a number. -/
theorem reads_of_head_digit {c : Char} {cs : List Char} (hc : c.isDigit = true)
    (h : ∀ d ∈ c :: cs, isWordChar d = true) : Reads P (String.ofList (c :: cs)) := by
  refine reads_of_word (fun d hd ↦ h d (by rwa [String.toList_ofList] at hd)) fun x hx ↦ ?_
  rw [String.toList_ofList, identifierOf, hc] at hx
  cases hx

theorem reads_of_break (cs : List Char) {c : Char} {ds : List Char} (hc : isBreak c = true)
    (hcs : Reads P (String.ofList cs)) (hds : Reads P (String.ofList ds)) :
    Reads P (String.ofList (cs ++ c :: ds)) := by
  have hclosed : Clears P (String.ofList cs ++ String.ofList [c]) := hcs.closed (closes_of_break hc)
  rw [← List.singleton_append, ← List.append_assoc, String.ofList_append, String.ofList_append]
  exact Reads.append hclosed hds

theorem isWordChar_of_isDigit {c : Char} (h : c.isDigit = true) : isWordChar c = true := by
  rw [isWordChar, Name.isWord, Char.isAlphanum, h, Bool.or_true, Bool.true_or, Bool.true_or]

/-- Digits are read as a number. -/
theorem reads_of_digits {cs : List Char} (h : ∀ c ∈ cs, c.isDigit = true) :
    Reads P (String.ofList cs) := by
  cases cs with
  | nil => exact clears_empty.reads
  | cons c cs =>
    exact reads_of_head_digit (h c List.mem_cons_self) fun d hd ↦ isWordChar_of_isDigit (h d hd)

theorem reads_repr (n : Nat) : Reads P n.repr := by
  rw [Nat.repr_eq_ofList_toDigits]
  exact reads_of_digits fun c hc ↦ Nat.isDigit_of_mem_toDigits (by decide) (by decide) hc

theorem reads_zero : Reads P (String.ofList ['0']) :=
  reads_of_digits (List.forall_mem_singleton.2 (by decide))

theorem reads_int (n : Int) : Reads P (toString n) := by
  rw [Int.toString_eq_repr, Int.repr_eq_if]
  split
  · exact reads_repr _
  · have hminus : Closes P "-" := closes_of_break (c := '-') (by decide)
    exact Reads.append hminus.clears (reads_repr _)

namespace Binary64

theorem reads_positional {ds : List Char} (h : ∀ c ∈ ds, c.isDigit = true) (point : Int) :
    Reads P (String.ofList (positional ds point)) := by
  have hzero : ∀ n, ∀ c ∈ List.replicate n '0', c.isDigit = true := by
    intro n c hc
    rw [List.eq_of_mem_replicate hc]
    rfl
  unfold positional
  split
  · exact reads_of_break ['0'] (c := '.') (by decide) reads_zero
      (reads_of_digits fun c hc ↦ (List.mem_append.1 hc).elim (hzero _ c) (h c))
  · refine reads_of_break _ (by decide) (reads_of_digits fun c hc ↦ ?_) (reads_of_digits ?_)
    · exact (List.mem_append.1 hc).elim (fun hc ↦ h c (List.mem_of_mem_take hc)) (hzero _ c)
    · split
      · exact List.forall_mem_singleton.2 (by decide)
      · exact fun c hc ↦ h c (List.mem_of_mem_drop hc)

theorem reads_exponential {ds : List Char} (hne : ds ≠ []) (h : ∀ c ∈ ds, c.isDigit = true)
    (point : Int) : Reads P (String.ofList (exponential ds point)) := by
  have hexponent : Reads P (String.ofList
      (List.replicate (2 - (Nat.toDigits 10 (point - 1).natAbs).length) '0' ++
        Nat.toDigits 10 (point - 1).natAbs)) := by
    refine reads_of_digits fun c hc ↦ ?_
    rcases List.mem_append.1 hc with hc | hc
    · rw [List.eq_of_mem_replicate hc]
      rfl
    · exact Nat.isDigit_of_mem_toDigits (by decide) (by decide) hc
  have hmantissa : ∀ c cs, (∀ d ∈ c :: cs, d.isDigit = true) →
      Reads P (String.ofList (c :: cs ++ ['e'])) := by
    refine fun c cs hcs ↦ reads_of_head_digit (hcs c List.mem_cons_self) fun d hd ↦ ?_
    rcases List.mem_append.1 (show d ∈ (c :: cs) ++ ['e'] from hd) with hd | hd
    · exact isWordChar_of_isDigit (hcs d hd)
    · rw [List.mem_singleton.1 hd]
      decide
  have hsign : isBreak (if point - 1 < 0 then '-' else '+') = true := by
    split <;> decide
  unfold exponential
  match ds with
  | [] => exact absurd rfl hne
  | [c] => exact reads_of_break [c, 'e'] hsign (hmantissa c [] h) hexponent
  | c :: d :: ds =>
    obtain ⟨hc, hds⟩ := List.forall_mem_cons.1 h
    have hrest := reads_of_break _ hsign (hmantissa d ds hds) hexponent
    have hwhole : ∀ x ∈ [c], x.isDigit = true := fun x hx ↦ List.mem_singleton.1 hx ▸ hc
    have hsplit := reads_of_break [c] (c := '.') (by decide) (reads_of_digits hwhole) hrest
    simpa using hsplit

/-- A finite number is read as a number. -/
theorem reads_finite (negative : Bool) (m : Nat) (e : Int) :
    Reads P (text (.finite negative m e)) := by
  have hunsigned : Reads P (String.ofList (if m = 0 then ['0', '.', '0'] else
      notate (dropTrailingZeros (Nat.toDigits 10 (shortest m e).1))
        ((shortest m e).2 + (Nat.toDigits 10 (shortest m e).1).length))) := by
    split
    · exact reads_of_break ['0'] (by decide) reads_zero reads_zero
    · next hm =>
      have hdigits : ∀ c ∈ dropTrailingZeros (Nat.toDigits 10 (shortest m e).1),
          c.isDigit = true := fun c hc ↦
        Nat.isDigit_of_mem_toDigits (by decide) (by decide) (mem_of_mem_dropTrailingZeros hc)
      unfold notate
      split
      · exact reads_positional hdigits _
      · next hpoint =>
        refine reads_exponential (dropTrailingZeros_ne_nil (exists_ne_zero_of_toDigits ?_))
          hdigits _
        rcases shortest_cases hm e with hne | hnone
        · exact hne
        · rw [hnone] at hpoint
          exact absurd (by decide) hpoint
  unfold text
  cases negative with
  | false => exact hunsigned
  | true =>
    have hminus : Closes P "-" := closes_of_break (c := '-') (by decide)
    have hsigned := Reads.append hminus.clears hunsigned
    rwa [show "-" = String.ofList ['-'] from rfl, ← String.ofList_append] at hsigned

end Binary64

/-! ## Texts without strings -/

/-- A text without quotes. -/
def Lexis.Unquoted (text : String) : Prop := ∀ c ∈ text.toList, isQuote c = false

instance (text : String) : Decidable (Unquoted text) :=
  List.decidableBAll _ text.toList

namespace Lexis

variable {a b separator : String}

theorem Unquoted.append (ha : Unquoted a) (hb : Unquoted b) : Unquoted (a ++ b) := by
  intro c hc
  rw [String.toList_append] at hc
  exact (List.mem_append.1 hc).elim (ha c) (hb c)

theorem Unquoted.intercalate (hseparator : Unquoted separator) {texts : List String}
    (h : ∀ text ∈ texts, Unquoted text) : Unquoted (separator.intercalate texts) := by
  induction texts with
  | nil => exact fun c hc ↦ absurd hc List.not_mem_nil
  | cons text texts ih =>
    obtain ⟨hfirst, hrest⟩ := List.forall_mem_cons.1 h
    cases texts with
    | nil => simpa using hfirst
    | cons next texts =>
      rw [String.intercalate_cons_cons]
      exact (hfirst.append hseparator).append (ih hrest)

theorem unquoted_repr (n : Nat) : Unquoted n.repr := by
  intro c hc
  have hdigit := Name.isDigit_of_mem_repr hc
  rw [isQuote, Bool.or_eq_false_iff, decide_eq_false_iff_not, decide_eq_false_iff_not]
  constructor <;> rintro rfl <;> cases hdigit

theorem unquoted_int (n : Int) : Unquoted (toString n) := by
  rw [Int.toString_eq_repr, Int.repr_eq_if]
  split
  · exact unquoted_repr _
  · exact Unquoted.append (a := "-") (by decide) (unquoted_repr _)

end Lexis

theorem Date.unquoted_literal (d : Date) : Unquoted d.literal := by
  have hcomma : Unquoted ", " := by decide
  have hyear := Unquoted.append (a := "datetime.date(") (by decide) (unquoted_repr d.year)
  have hmonth := (hyear.append hcomma).append (unquoted_repr d.month)
  have hday := (hmonth.append hcomma).append (unquoted_repr d.day)
  exact hday.append (b := ")") (by decide)

theorem unquoted_offsetLiteral (o : Int) : Unquoted (offsetLiteral o) := by
  have hpart : ∀ (key : String) (n : Int), Unquoted key → ∀ text ∈
      (if n = 0 then [] else [key ++ toString n]), Unquoted text := by
    intro key n hkey text htext
    split at htext
    · cases htext
    · exact List.mem_singleton.1 htext ▸ hkey.append (unquoted_int n)
  unfold offsetLiteral
  split
  · decide
  · refine Unquoted.append (Unquoted.append (by decide) ?_) (by decide)
    refine Unquoted.intercalate (by decide) fun text htext ↦ ?_
    rcases List.mem_append.1 htext with htext | htext
    · exact hpart "days=" _ (by decide) text htext
    · exact hpart "seconds=" _ (by decide) text htext

theorem Moment.unquoted_literal (m : Moment) : Unquoted m.literal := by
  unfold Moment.literal
  refine Unquoted.append (Unquoted.append (by decide) ?_) (by decide)
  refine Unquoted.intercalate (by decide) fun text htext ↦ ?_
  rcases List.mem_append.1 htext with htext | htext
  · obtain ⟨n, -, rfl⟩ := List.mem_map.1 htext
    exact unquoted_repr n
  · obtain ⟨o, -, rfl⟩ := List.mem_map.1 htext
    exact Unquoted.append (by decide) (unquoted_offsetLiteral o)

namespace Value

/-! ## Values -/

mutual

/-- Whether a value is made of nulls, truth values, finite numbers, texts and octets. A set has to
have members. -/
def native : Value → Bool
  | float (.finite _ _ _) => true
  | float _ | date _ | moment _ => false
  | pair a b => native a && native b
  | set members => !members.isEmpty && allNative members
  | list items => allNative items
  | map entries => entriesNative entries
  | knot _ v => native v
  | _ => true

def allNative : List Value → Bool
  | [] => true
  | v :: vs => native v && allNative vs

def entriesNative : List (Value × Value) → Bool
  | [] => true
  | (k, v) :: es => native k && native v && entriesNative es

end

theorem clears_ellipsis (v : Value) : Clears P v.ellipsis := by
  unfold ellipsis
  split
  · exact (closes_of_breaks _ (by decide) (by decide)).clears
  · exact (closes_of_breaks _ (by decide) (by decide)).clears
  · exact (closes_of_breaks _ (by decide) (by decide)).clears

/-- The names of the truth values and of null. -/
def constants : List String := ["True", "False", "None"]

theorem reads_constant {name : String} (h : name ∈ constants) (hfit : ∀ x ∈ constants, P x) :
    Reads P name := by
  have hall : ∀ name ∈ constants, Name.IsIdentifier name := by decide
  exact reads_of_isIdentifier (hall name h) (hfit name h)

theorem reads_of_lookup {around : List (Nat × String)} (haround : ∀ e ∈ around, Reads P e.2)
    (mark : Nat) {text : String} (h : Reads P text) :
    Reads P ((around.lookup mark).getD text) := by
  cases hlookup : around.lookup mark with
  | none => exact h
  | some found =>
    obtain ⟨before, after, rfl, -⟩ := List.lookup_eq_some_iff.1 hlookup
    exact haround (mark, found) (List.mem_append_right _ List.mem_cons_self)

mutual

/-- A literal is read to its end. Of a native value it has no other identifiers than the names of
constants. -/
theorem reads_literalWithin (hconstants : ∀ x ∈ constants, P x) (around : List (Nat × String))
    (haround : ∀ e ∈ around, Reads P e.2) (v : Value) (hv : v.native = true ∨ ∀ x, P x) :
    Reads P (literalWithin around v) := by
  match v with
  | null => exact show Reads P "None" from reads_constant (by decide) hconstants
  | bool true => exact show Reads P "True" from reads_constant (by decide) hconstants
  | bool false => exact show Reads P "False" from reads_constant (by decide) hconstants
  | int n => exact reads_int n
  | float (.finite negative m e) => exact Binary64.reads_finite negative m e
  | float (.nan mark) =>
    exact reads_of_no_quote (hv.resolve_left (by simp [native])) (show Unquoted "nan" by decide)
  | float (.infinity true) =>
    exact reads_of_no_quote (hv.resolve_left (by simp [native])) (show Unquoted "-inf" by decide)
  | float (.infinity false) =>
    exact reads_of_no_quote (hv.resolve_left (by simp [native])) (show Unquoted "inf" by decide)
  | text s => exact (clears_quote s).reads
  | bytes octets => exact (clears_quotedOctets octets).reads
  | date d => exact reads_of_no_quote (hv.resolve_left (by simp [native])) d.unquoted_literal
  | moment m => exact reads_of_no_quote (hv.resolve_left (by simp [native])) m.unquoted_literal
  | pair a b =>
    simp only [native, Bool.and_eq_true] at hv
    have ha := reads_literalWithin hconstants around haround a (hv.imp_left And.left)
    have hb := reads_literalWithin hconstants around haround b (hv.imp_left And.right)
    have hopen : Clears P "(" := (closes_of_break (c := '(') (by decide)).clears
    have hclose : Closes P ")" := closes_of_break (c := ')') (by decide)
    have hfirst := (Reads.append hopen ha).closed closes_comma
    exact ((Reads.append hfirst hb).closed hclose).reads
  | set [] =>
    exact reads_of_no_quote (hv.resolve_left (by simp [native])) (show Unquoted "set()" by decide)
  | set (v :: vs) =>
    have hmembers := reads_literals hconstants around haround (v :: vs)
      (hv.imp_left fun h ↦ by simpa [native] using h)
    exact ((reads_commas hmembers).enclosed '\x7b' '\x7d' (by decide)
      (by decide)).reads
  | list items =>
    have hitems := reads_literals hconstants around haround items
      (hv.imp_left fun h ↦ by simpa [native] using h)
    exact ((reads_commas hitems).enclosed '[' ']' (by decide)
      (by decide)).reads
  | map entries =>
    have hentries := reads_entryLiterals hconstants around haround entries
      (hv.imp_left fun h ↦ by simpa [native] using h)
    exact ((reads_commas hentries).enclosed '\x7b' '\x7d' (by decide)
      (by decide)).reads
  | knot mark v =>
    refine reads_of_lookup haround mark (reads_literalWithin hconstants _ ?_ v
      (hv.imp_left fun h ↦ by simpa [native] using h))
    exact List.forall_mem_cons.2 ⟨(clears_ellipsis v).reads, haround⟩
  | again mark => exact reads_of_lookup haround mark clears_empty.reads

theorem reads_literals (hconstants : ∀ x ∈ constants, P x) (around : List (Nat × String))
    (haround : ∀ e ∈ around, Reads P e.2) (vs : List Value)
    (hvs : allNative vs = true ∨ ∀ x, P x) : ∀ text ∈ literals around vs, Reads P text := by
  match vs with
  | [] => exact fun text htext ↦ absurd htext List.not_mem_nil
  | v :: vs =>
    simp only [allNative, Bool.and_eq_true] at hvs
    rw [literals]
    exact List.forall_mem_cons.2
      ⟨reads_literalWithin hconstants around haround v (hvs.imp_left And.left),
        reads_literals hconstants around haround vs (hvs.imp_left And.right)⟩

theorem reads_entryLiterals (hconstants : ∀ x ∈ constants, P x) (around : List (Nat × String))
    (haround : ∀ e ∈ around, Reads P e.2) (es : List (Value × Value))
    (hes : entriesNative es = true ∨ ∀ x, P x) :
    ∀ text ∈ entryLiterals around es, Reads P text := by
  match es with
  | [] => exact fun text htext ↦ absurd htext List.not_mem_nil
  | (k, v) :: es =>
    simp only [entriesNative, Bool.and_eq_true] at hes
    have hk := reads_literalWithin hconstants around haround k (hes.imp_left fun h ↦ h.1.1)
    have hv := reads_literalWithin hconstants around haround v (hes.imp_left fun h ↦ h.1.2)
    have hcolon : Closes P ": " := closes_of_breaks _ (by decide) (by decide)
    rw [entryLiterals]
    exact List.forall_mem_cons.2 ⟨Reads.append (hk.closed hcolon) hv,
      reads_entryLiterals hconstants around haround es (hes.imp_left And.right)⟩

end

theorem eq_of_literal? {v : Value} {text : String} (h : v.literal? = .ok text) :
    text = v.literal := by
  unfold literal? at h
  split at h
  · exact (Except.ok.inj h).symm
  · cases h

/-- A literal is read to its end. The identifiers of one that stands for a native value are names of
constants. -/
theorem reads_literal (v : Value) (hconstants : ∀ x ∈ constants, P x)
    (hother : v.native = false → ∀ x ∈ identifiers v.literal, P x) : Reads P v.literal := by
  have hnone : ∀ {Q : String → Prop}, ∀ e ∈ ([] : List (Nat × String)), Reads Q e.2 :=
    fun _ he ↦ absurd he List.not_mem_nil
  cases hnative : v.native with
  | true => exact reads_literalWithin hconstants [] hnone v (.inl hnative)
  | false =>
    exact reads_of_identifiers (reads_literalWithin (fun _ _ ↦ trivial) [] hnone v
      (.inr fun _ ↦ trivial)) (hother hnative)

end Value

end ApiClient
