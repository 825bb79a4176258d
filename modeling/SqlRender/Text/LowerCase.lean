import SqlRender.Text.LowerCase.Table

namespace SqlRender.Text

def inRuns (runs : List (Nat × Nat)) (c : Char) : Bool :=
  runs.any fun (first, last) ↦ first ≤ c.toNat && c.toNat ≤ last

def isCased (c : Char) : Bool :=
  if c.toNat < 128 then c.isAlpha else inRuns casedRuns c

def isCaseIgnorable (c : Char) : Bool := inRuns caseIgnorableRuns c

/-- The small letters of one character; only the dotted capital I has two. -/
def smallLetters (c : Char) : List Char :=
  if c.toNat < 128 then [c.toLower]
  else if c.toNat = 0x130 then ['i', Char.ofNat 0x307]
  else
    match capitalRuns.find? fun (first, last, step, _) ↦
      first ≤ c.toNat && c.toNat ≤ last && (c.toNat - first) % step = 0 with
    | some (_, _, _, shift) => [Char.ofNat (c.toNat + shift).toNat]
    | none => [c]

def startsCased (cs : List Char) : Bool :=
  match cs.dropWhile isCaseIgnorable with
  | [] => false
  | c :: _ => isCased c

/-- `afterCased` says whether the last character before the list that is not case-ignorable is
cased. A capital sigma that ends a word has a small letter of its own. -/
def lowerFrom (afterCased : Bool) : List Char → List Char
  | [] => []
  | c :: cs =>
    let small :=
      if c.toNat = 0x3A3 ∧ afterCased ∧ !startsCased cs then [Char.ofNat 0x3C2] else smallLetters c
    small ++ lowerFrom (if isCaseIgnorable c then afterCased else isCased c) cs

/-- The text in small letters, by the full case mapping of Unicode. -/
def lower (s : String) : String := String.ofList (lowerFrom false s.toList)

end SqlRender.Text
