import ApiClient.Proofs.Name.Style
import Mathlib.Tactic.Common

/-!
# Identifiers of an annotation

An annotation is read from left to right. What stands between quotes is the text of a string; apart
from strings, a run of word characters is an identifier unless it opens with a digit, and one that
opens a string with its quote is no identifier. A text that is put together from parts has the
identifiers of its parts if they are kept apart by characters of other kinds.
-/

namespace ApiClient.Lexis

/-! ## Reading -/

/-- Whether a character may stand in a word. Those beyond the basic alphabet may. -/
def isWordChar (c : Char) : Bool := Name.isWord c || 0x80 ≤ c.toNat

def isQuote (c : Char) : Bool := c = '\'' || c = '"'

/-- A character that ends a word and opens no string. -/
def isBreak (c : Char) : Bool := !isWordChar c && !isQuote c

/-- Whether a word may open a string. -/
def opensString (word : List Char) : Bool :=
  ["b", "br", "f", "fr", "r", "rb", "rf", "u"].contains (String.ofList (word.map Char.toLower))

/-- The identifier that a word is, if it is one. -/
def identifierOf (word : List Char) : List String :=
  match word with
  | [] => []
  | c :: _ => if c.isDigit then [] else [String.ofList word]

/-- Where in an annotation a reader is: behind the characters of a word, which may be none, inside a
string, or behind a backslash inside a string. -/
inductive Mode where
  | word (read : List Char)
  | string (quote : Char)
  | escaped (quote : Char)

/-- The identifiers that were read, and where the reader is. -/
structure Scan where
  found : List String
  mode : Mode

namespace Scan

def start : Scan := ⟨[], .word []⟩

/-- Reads a character. -/
def step (s : Scan) (c : Char) : Scan :=
  match s.mode with
  | .word read =>
    if isWordChar c then ⟨s.found, .word (read ++ [c])⟩
    else if !isQuote c then ⟨s.found ++ identifierOf read, .word []⟩
    else ⟨if opensString read then s.found else s.found ++ identifierOf read, .string c⟩
  | .string quote =>
    if c = quote then ⟨s.found, .word []⟩
    else if c = '\\' then ⟨s.found, .escaped quote⟩
    else s
  | .escaped quote => ⟨s.found, .string quote⟩

def read (s : Scan) (text : String) : Scan := text.toList.foldl step s

/-- The identifiers once the annotation ends. -/
def identifiers (s : Scan) : List String :=
  match s.mode with
  | .word read => s.found ++ identifierOf read
  | _ => s.found

theorem read_append (s : Scan) (a b : String) : s.read (a ++ b) = (s.read a).read b := by
  rw [read, read, read, String.toList_append, List.foldl_append]

end Scan

/-- The identifiers of an annotation. -/
def identifiers (hint : String) : List String := (Scan.start.read hint).identifiers

example : identifiers "dict[str, list[Pet]] | Literal['a b', b'c', 1.5e-07, True]" =
    ["dict", "str", "list", "Pet", "Literal", "True"] := by decide +kernel

/-! ## Parts of a text -/

variable {P : String → Prop} {s : Scan} {a b text : String}

/-- The reader is behind no word and in no string, and the identifiers so far are fit. -/
structure Clear (P : String → Prop) (s : Scan) : Prop where
  mode : s.mode = .word []
  fit : ∀ x ∈ s.found, P x

/-- The reader is in no string, and the identifiers so far are fit, that of the word behind it
included. -/
structure Open (P : String → Prop) (s : Scan) : Prop where
  mode : ∃ read, s.mode = .word read
  fit : ∀ x ∈ s.identifiers, P x

/-- A text whose identifiers are fit wherever no word stands before it. -/
def Reads (P : String → Prop) (text : String) : Prop := ∀ s, Clear P s → Open P (s.read text)

/-- Such a text, behind which no word stands either. -/
def Clears (P : String → Prop) (text : String) : Prop := ∀ s, Clear P s → Clear P (s.read text)

/-- A text that ends the word before it and has fit identifiers. -/
def Closes (P : String → Prop) (text : String) : Prop := ∀ s, Open P s → Clear P (s.read text)

theorem Clear.opened (h : Clear P s) : Open P s where
  mode := ⟨[], h.mode⟩
  fit := by
    rw [Scan.identifiers, h.mode]
    simpa [identifierOf] using h.fit

theorem clear_start : Clear P .start := ⟨rfl, fun _ hx ↦ absurd hx List.not_mem_nil⟩

/-- The identifiers of a text that is read are fit. -/
theorem Reads.fit (h : Reads P text) : ∀ x ∈ identifiers text, P x := (h _ clear_start).fit

theorem Clears.reads (h : Clears P text) : Reads P text := fun s hs ↦ (h s hs).opened

theorem Closes.clears (h : Closes P text) : Clears P text := fun s hs ↦ h s hs.opened

theorem Reads.append (ha : Clears P a) (hb : Reads P b) : Reads P (a ++ b) := by
  intro s hs
  rw [Scan.read_append]
  exact hb _ (ha s hs)

theorem Reads.closed (ha : Reads P a) (hb : Closes P b) : Clears P (a ++ b) := by
  intro s hs
  rw [Scan.read_append]
  exact hb _ (ha s hs)

theorem Clears.append (ha : Clears P a) (hb : Clears P b) : Clears P (a ++ b) := by
  intro s hs
  rw [Scan.read_append]
  exact hb _ (ha s hs)

theorem clears_empty : Clears P "" := fun _ hs ↦ hs

/-! ## Identifiers of a text by itself -/

namespace Scan

/-- The scan with other identifiers before those that were found. -/
def after (found : List String) (s : Scan) : Scan := ⟨found ++ s.found, s.mode⟩

theorem identifiers_after (found : List String) (s : Scan) :
    (s.after found).identifiers = found ++ s.identifiers := by
  unfold identifiers after
  cases s.mode <;> simp

theorem step_after (found : List String) (s : Scan) (c : Char) :
    (s.after found).step c = (s.step c).after found := by
  obtain ⟨more, mode⟩ := s
  cases mode <;> simp only [step, after] <;> repeat' split
  all_goals simp

theorem read_after (found : List String) (s : Scan) (text : String) :
    (s.after found).read text = (s.read text).after found := by
  unfold read
  induction text.toList generalizing s with
  | nil => rfl
  | cons c cs ih => rw [List.foldl_cons, List.foldl_cons, step_after, ih]

end Scan

/-- A text that ends in no string has its own identifiers wherever it stands. -/
theorem reads_of_identifiers {Q : String → Prop} (h : Reads Q text)
    (hfit : ∀ x ∈ identifiers text, P x) : Reads P text := by
  rintro ⟨found, mode⟩ ⟨hmode, hfound⟩
  have hstart : (⟨found, mode⟩ : Scan) = Scan.start.after found := by
    rw [Scan.after, Scan.start, List.append_nil, ← hmode]
  rw [hstart, Scan.read_after]
  refine ⟨(h _ clear_start).mode, fun x hx ↦ ?_⟩
  rw [Scan.identifiers_after] at hx
  exact (List.mem_append.1 hx).elim (hfound x) (hfit x)

theorem Reads.mono {Q : String → Prop} (h : Reads Q text) (hQ : ∀ x, Q x → P x) : Reads P text :=
  reads_of_identifiers h fun x hx ↦ hQ x (h.fit x hx)

/-! ## Breaks -/

theorem Open.step {c : Char} (hc : isBreak c = true) (h : Open P s) : Clear P (s.step c) := by
  obtain ⟨⟨read, hmode⟩, hfit⟩ := h
  rw [isBreak, Bool.and_eq_true, Bool.not_eq_true'] at hc
  have hstep : s.step c = ⟨s.found ++ identifierOf read, .word []⟩ := by
    simp [Scan.step, hmode, hc.1, hc.2]
  rw [Scan.identifiers, hmode] at hfit
  exact hstep ▸ ⟨rfl, hfit⟩

/-- Breaks end the word before them. -/
theorem closes_of_breaks (text : String) (hne : text.toList ≠ [])
    (h : text.toList.all isBreak = true) : Closes P text := by
  intro s hs
  rw [Scan.read]
  generalize text.toList = cs at hne h
  induction cs generalizing s with
  | nil => exact absurd rfl hne
  | cons c cs ih =>
    rw [List.all_cons, Bool.and_eq_true] at h
    have hclear := hs.step h.1
    cases cs with
    | nil => exact hclear
    | cons d cs => exact ih _ hclear.opened (List.cons_ne_nil d cs) h.2

theorem closes_of_break {c : Char} (hc : isBreak c = true) : Closes P (String.ofList [c]) := by
  apply closes_of_breaks
  · rw [String.toList_ofList]
    exact List.cons_ne_nil c []
  · rw [String.toList_ofList, List.all_cons, hc, List.all_nil, Bool.and_true]

theorem closes_comma : Closes P ", " := closes_of_breaks _ (by decide) (by decide)

/-- What a pair of brackets encloses is kept apart. -/
theorem Reads.enclosed (h : Reads P text) (left right : Char) (hleft : isBreak left = true)
    (hright : isBreak right = true) :
    Clears P (String.ofList [left] ++ text ++ String.ofList [right]) :=
  (Reads.append (closes_of_break hleft).clears h).closed (closes_of_break hright)

/-- Texts with breaks between them. -/
theorem Reads.intercalate {separator : String} (hseparator : Closes P separator)
    {texts : List String} (h : ∀ text ∈ texts, Reads P text) :
    Reads P (separator.intercalate texts) := by
  induction texts with
  | nil => exact clears_empty.reads
  | cons text texts ih =>
    obtain ⟨hfirst, hrest⟩ := List.forall_mem_cons.1 h
    cases texts with
    | nil => simpa using hfirst
    | cons next texts =>
      rw [String.intercalate_cons_cons]
      exact Reads.append (hfirst.closed hseparator) (ih hrest)

/-- Texts with commas between them. -/
theorem reads_commas {texts : List String} (h : ∀ text ∈ texts, Reads P text) :
    Reads P (", ".intercalate texts) :=
  Reads.intercalate closes_comma h

/-! ## Words -/

theorem foldl_step_word {cs : List Char} (h : ∀ c ∈ cs, isWordChar c = true)
    {found : List String} (read : List Char) :
    cs.foldl Scan.step ⟨found, .word read⟩ = ⟨found, .word (read ++ cs)⟩ := by
  induction cs generalizing read with
  | nil => rw [List.append_nil, List.foldl_nil]
  | cons c cs ih =>
    obtain ⟨hc, hcs⟩ := List.forall_mem_cons.1 h
    have hstep : Scan.step ⟨found, .word read⟩ c = ⟨found, .word (read ++ [c])⟩ := by
      simp [Scan.step, hc]
    rw [List.foldl_cons, hstep, ih hcs, List.append_assoc, List.singleton_append]

/-- A word is read as the identifier that it is. -/
theorem reads_of_word (h : ∀ c ∈ text.toList, isWordChar c = true)
    (hfit : ∀ x ∈ identifierOf text.toList, P x) : Reads P text := by
  rintro ⟨found, mode⟩ ⟨hmode, hfound⟩
  obtain rfl : mode = .word [] := hmode
  rw [Scan.read, foldl_step_word h, List.nil_append]
  exact ⟨⟨_, rfl⟩, fun x hx ↦ (List.mem_append.1 hx).elim (hfound x) (hfit x)⟩

/-- An identifier is read as itself. -/
theorem reads_of_isIdentifier (h : Name.IsIdentifier text) (hfit : P text) : Reads P text := by
  refine reads_of_word (fun c hc ↦ ?_) fun x hx ↦ ?_
  · rw [isWordChar, h.chars c hc, Bool.true_or]
  · obtain ⟨c, cs, hcs, hdigit⟩ := h.head
    rw [hcs, identifierOf, hdigit, ← hcs, String.ofList_toList] at hx
    exact List.mem_singleton.1 hx ▸ hfit

/-! ## Texts without strings -/

/-- Without quotes no string is opened. -/
theorem exists_word_of_no_quote {cs : List Char} (h : ∀ c ∈ cs, isQuote c = false)
    (hmode : ∃ read, s.mode = .word read) :
    ∃ read, (cs.foldl Scan.step s).mode = .word read := by
  induction cs generalizing s with
  | nil => exact hmode
  | cons c cs ih =>
    obtain ⟨hc, hcs⟩ := List.forall_mem_cons.1 h
    obtain ⟨read, hmode⟩ := hmode
    rw [List.foldl_cons]
    apply ih hcs
    cases hword : isWordChar c
    · exact ⟨[], by simp [Scan.step, hmode, hword, hc]⟩
    · exact ⟨read ++ [c], by simp [Scan.step, hmode, hword]⟩

/-- Where every identifier is fit, so is a text without quotes. -/
theorem reads_of_no_quote (hall : ∀ x, P x) (h : ∀ c ∈ text.toList, isQuote c = false) :
    Reads P text :=
  fun _ hs ↦ ⟨exists_word_of_no_quote h hs.opened.mode, fun x _ ↦ hall x⟩

end ApiClient.Lexis
