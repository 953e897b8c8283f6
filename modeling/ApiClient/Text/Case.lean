import ApiClient.Text.CaseTable

/-!
# Letter case

Capital and small forms of a text, with the long capital forms and the sigma that ends a word.
-/

namespace ApiClient.Text

def upperChar (c : Char) : List Char :=
  if c.toNat < 0x80 then [c.toUpper]
  else match longCapitals.lookup c.toNat with
    | some form => form.map Char.ofNat
    | none => [(capitalRanges.findSome? (·.image? c)).getD c]

/-- The text in capitals. -/
def upper (cs : List Char) : List Char := cs.flatMap upperChar

/-- The small form of a letter, apart from a sigma at the end of a word. A capital dotted i keeps
its dot as a mark of its own. -/
def lowerChar (c : Char) : List Char :=
  if c.toNat < 0x80 then [c.toLower]
  else if c.toNat = 0x130 then ['i', Char.ofNat 0x307]
  else [(smallRanges.findSome? (·.image? c)).getD c]

/-- Whether the first character that is not passed over is a letter with a case. -/
def startsCased (cs : List Char) : Bool :=
  match cs.dropWhile caseIgnorable.contains with
  | [] => false
  | c :: _ => cased.contains c

/-- A capital sigma ends a word when a cased letter stands before it and none after it;
`afterCased` says the first. -/
def lowerFrom (afterCased : Bool) : List Char → List Char
  | [] => []
  | c :: cs =>
    let form :=
      if c = 'Σ' then [if afterCased && !startsCased cs then 'ς' else 'σ'] else lowerChar c
    form ++ lowerFrom (if caseIgnorable.contains c then afterCased else cased.contains c) cs

/-- The text in small letters. -/
def lower (cs : List Char) : List Char :=
  if cs.all (·.toNat < 0x80) then cs.map Char.toLower else lowerFrom false cs

end ApiClient.Text
