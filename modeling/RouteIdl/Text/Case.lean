import RouteIdl.Text.CaseTable
import RouteIdl.Text.CharClass

/-!
# Letter case

Full case mapping of text. One character may map to several, and a capital sigma that ends a word
becomes the final form of the small letter.
-/

namespace RouteIdl.Text

/-- Whether a run moves a code point. -/
def CaseRun.covers (run : CaseRun) (code : Nat) : Bool :=
  run.first ≤ code && code ≤ run.last && (code - run.first) % run.step == 0

/-- The other case of a character by table: its sequence, else its run's move, else itself. -/
def otherCase (sequences : List (Nat × List Nat)) (runs : List CaseRun) (c : Char) : List Char :=
  match sequences.lookup c.toNat with
  | some codes => codes.map Char.ofNat
  | none =>
      match runs.find? (·.covers c.toNat) with
      | some run => [Char.ofNat (c.toNat + run.offset).toNat]
      | none => [c]

/-- The lower case of one character, whatever surrounds it. -/
def lowerChar (c : Char) : List Char :=
  if c.toNat < 128 then [c.toLower] else otherCase lowerSequences lowerRuns c

/-- The upper case of one character. -/
def upperChar (c : Char) : List Char :=
  if c.toNat < 128 then [c.toUpper] else otherCase upperSequences upperRuns c

/-- Whether the first character that is not passed over is a letter with case. -/
def meetsCased (text : List Char) : Bool :=
  match text.dropWhile CharSet.caseIgnorable.contains with
  | [] => false
  | c :: _ => CharSet.cased.contains c

/-- The small sigma between two stretches of text, the first one given backwards: final when a
letter stands before it and none after it. -/
def lowerSigma (before after : List Char) : Char :=
  if meetsCased before && !meetsCased after then 'ς' else 'σ'

/-- Lower-case what follows a stretch of text, which is given backwards. -/
def lowerAfter : List Char → List Char → List Char
  | _, [] => []
  | before, c :: rest =>
      (if c = 'Σ' then [lowerSigma before rest] else lowerChar c) ++ lowerAfter (c :: before) rest

/-- The lower case of a text. -/
def lower (text : List Char) : List Char :=
  lowerAfter [] text

/-- Upper-case the first character and keep the rest. -/
def capitalize : List Char → List Char
  | [] => []
  | c :: rest => upperChar c ++ rest

@[simp] theorem lower_nil : lower [] = [] := rfl

@[simp] theorem capitalize_nil : capitalize [] = [] := rfl

end RouteIdl.Text
