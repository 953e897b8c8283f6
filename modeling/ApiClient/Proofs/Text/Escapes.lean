import ApiClient.Json.Token
import ApiClient.Proofs.Text.Docstring
import ApiClient.Text.Point

/-!
# Reading lines between triple quotes

Between triple quotes a backslash and what follows it stand for a character, for one given by its
number or its name, or for nothing at the end of a line; a backslash before any other character
stands for itself. A line is read up to its end, and cannot be read when the quotes close before
that, or when a number or a name is incomplete. An escaped line is read back as it was, whatever
follows it and whichever names there are.
-/

namespace ApiClient.Text

/-! ## Escapes -/

/-- The characters that a letter or a sign behind a backslash stands for. -/
def signEscapes : List (Char × Char) :=
  [('\\', '\\'), ('\'', '\''), ('"', '"'), ('a', '\x07'), ('b', '\x08'), ('f', '\x0c'),
    ('n', '\n'), ('r', '\r'), ('t', '\t'), ('v', '\x0b')]

/-- The number that digits write in a base, when all of them are digits of the base. -/
def numberIn? (base : ℕ) (ds : List Char) : Option ℕ :=
  ds.foldlM (fun n d ↦ ((Json.hexDigit? d).filter (· < base)).map (base * n + ·)) 0

/-- The point that a number of hexadecimal digits at the beginning of a text writes. -/
def hexEscape? (width : ℕ) (cs : List Char) : Option (List Char) :=
  if (cs.take width).length = width then
    ((numberIn? 16 (cs.take width)).filter (· < 0x110000)).map keepPoint
  else none

/-- The longest beginning of octal digits, at most three of them. -/
def octalDigits (cs : List Char) : List Char :=
  (cs.take 3).takeWhile fun c ↦ '0' ≤ c ∧ c ≤ '7'

/-- The name in braces at the beginning of a text. -/
def nameInBraces? : List Char → Option (List Char)
  | '\x7b' :: cs => if '\x7d' ∈ cs then some (cs.takeWhile (· ≠ '\x7d')) else none
  | _ => none

/-- What a backslash before a text stands for, and how many characters of the text it takes. The
names of characters are found in a table. -/
def escape? (named : List Char → Option ℕ) : List Char → Option (List Char × ℕ)
  | [] => none
  | c :: cs =>
    match signEscapes.lookup c with
    | some sign => some ([sign], 1)
    | none =>
      if c = '\n' then some ([], 1)
      else if c = 'x' then (hexEscape? 2 cs).map (·, 3)
      else if c = 'u' then (hexEscape? 4 cs).map (·, 5)
      else if c = 'U' then (hexEscape? 8 cs).map (·, 9)
      else if c = 'N' then do
        let name ← nameInBraces? cs
        return (keepPoint (← named name), name.length + 3)
      else if octalDigits (c :: cs) = [] then some (['\\', c], 1)
      else (numberIn? 8 (octalDigits (c :: cs))).map
        fun n ↦ (keepPoint n, (octalDigits (c :: cs)).length)

/-- Reads to the end of a line, after the first `skip` characters, which belong to an escape already
read. -/
def readLineFrom (named : List Char → Option ℕ) : ℕ → List Char → Option (List Char × List Char)
  | _, [] => none
  | skip + 1, _ :: cs => readLineFrom named skip cs
  | 0, c :: cs =>
    if c = '\n' then some ([], cs)
    else if ['"', '"', '"'].isPrefixOf (c :: cs) then none
    else if c = '\\' then do
      let (stands, taken) ← escape? named cs
      (readLineFrom named taken cs).map fun r ↦ (stands ++ r.1, r.2)
    else (readLineFrom named 0 cs).map fun r ↦ (c :: r.1, r.2)

/-- Reads a line between triple quotes: what it stands for, and what follows its end. There is
nothing to read when the quotes close before the end of the line. -/
def readLine (named : List Char → Option ℕ) (cs : List Char) : Option (List Char × List Char) :=
  readLineFrom named 0 cs

variable (named : List Char → Option ℕ)

/-! ## Reading -/

theorem readLine_break (cs : List Char) : readLine named ('\n' :: cs) = some ([], cs) := rfl

theorem readLine_sign {c sign : Char} (h : signEscapes.lookup c = some sign) (cs : List Char) :
    readLine named ('\\' :: c :: cs) =
      (readLine named cs).map fun r ↦ (sign :: r.1, r.2) := by
  have hescape : escape? named (c :: cs) = some ([sign], 1) := by
    rw [escape?, h]
  rw [readLine, readLineFrom, if_neg (by decide), if_neg (by simp), if_pos rfl, hescape]
  rfl

theorem readLine_cons {c : Char} {cs : List Char} (hbreak : c ≠ '\n') (hescape : c ≠ '\\')
    (hquotes : ¬ ['"', '"', '"'] <+: c :: cs) :
    readLine named (c :: cs) = (readLine named cs).map fun r ↦ (c :: r.1, r.2) := by
  rw [readLine, readLineFrom, if_neg hbreak, if_neg (mt List.isPrefixOf_iff_prefix.1 hquotes),
    if_neg hescape, readLine]

/-- An escaped line is read back, whatever follows it. -/
theorem readLine_escapeQuotes {cs : List Char} (h : '\n' ∉ cs) (rest : List Char) :
    readLine named (escapeQuotes cs ++ '\n' :: rest) = some (cs, rest) := by
  fun_induction escapeQuotes cs with
  | case1 => exact readLine_break named rest
  | case2 cs ih =>
    have hbackslash (ds : List Char) : readLine named ('\\' :: '\\' :: ds) =
        (readLine named ds).map fun r ↦ ('\\' :: r.1, r.2) := readLine_sign named rfl ds
    rw [List.cons_append, List.cons_append, hbackslash, ih (List.not_mem_of_not_mem_cons h)]
    rfl
  | case3 cs ih =>
    have hrest : '\n' ∉ cs := by simpa using h
    have hquote (ds : List Char) : readLine named ('\\' :: '"' :: ds) =
        (readLine named ds).map fun r ↦ ('"' :: r.1, r.2) := readLine_sign named rfl ds
    simp only [List.cons_append, hquote, ih hrest, Option.map_some]
  | case4 c cs hescape hquotes ih =>
    have hopen : ¬ ['"', '"', '"'] <+: c :: (escapeQuotes cs ++ '\n' :: rest) := by
      intro hprefix
      have hprefix := prefix_of_prefix_append (s := c :: escapeQuotes cs) (by decide) hprefix
      obtain ⟨rfl, hrest⟩ := List.cons_prefix_cons.1 hprefix
      obtain ⟨rest, rfl⟩ := prefix_of_prefix_escapeQuotes (n := 2) hrest
      exact hquotes rest rfl rfl
    obtain ⟨hbreak, hrest⟩ := List.ne_and_not_mem_of_not_mem_cons h
    rw [List.cons_append, readLine_cons named hbreak.symm hescape hopen, ih hrest]
    rfl

example : readLine (fun _ ↦ none) "\\x41\\351\\d\\\\\nnext".toList =
    some ("Aé\\d\\".toList, "next".toList) := by
  with_unfolding_all rfl

end ApiClient.Text
