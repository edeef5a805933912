import Docstore.Text.CasingTable
import Docstore.Text.Ranges

/-!
# Letter case

Capital and small forms of whole texts, for every script.  Both follow the full mapping: a
character may have a form of several characters, and a capital sigma becomes the final small sigma
exactly where it ends a word.
-/

namespace Docstore.Text

/-- The shift of the row that holds the code point, zero if none does. -/
def rowShift (rows : Array (Nat × Nat × Nat × Int)) (point : Nat) : Int :=
  match rows.find? fun (first, last, step, _) =>
    first ≤ point && point ≤ last && (point - first) % step == 0 with
  | some (_, _, _, shift) => shift
  | none => 0

/-- The characters that one character maps to. -/
def mapCase (long : List (Nat × List Nat)) (rows : Array (Nat × Nat × Nat × Int)) (c : Char) :
    List Char :=
  match long.lookup c.toNat with
  | some points => points.map Char.ofNat
  | none => [Char.ofNat (c.toNat + rowShift rows c.toNat).toNat]

def capitals (s : String) : String :=
  String.ofList (s.toList.flatMap (mapCase longCapitals capitalRows))

/-- Whether the nearest character that is not looked through has case. -/
def nextIsCased (cs : List Char) : Bool :=
  match cs.dropWhile fun c => inRanges caseIgnorableRanges c.toNat with
  | [] => false
  | c :: _ => inRanges casedRanges c.toNat

/-- Small forms of the characters of `after`, where `before` holds those already passed, nearest
first. -/
def smallsAfter (before : List Char) : (after : List Char) → List Char
  | [] => []
  | c :: rest =>
    let small :=
      if c = 'Σ' then [if nextIsCased before && !nextIsCased rest then 'ς' else 'σ']
      else mapCase longSmalls smallRows c
    small ++ smallsAfter (c :: before) rest

def smalls (s : String) : String :=
  String.ofList (smallsAfter [] s.toList)

end Docstore.Text
