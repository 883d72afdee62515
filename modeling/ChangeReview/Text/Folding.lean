import ChangeReview.Text.Blank

/-!
# Matching without regard to case

Texts of small ASCII letters and other characters are matched under simple case folding. Beyond the
ASCII capitals, folding takes the Kelvin sign to `k` and the long s to `s`.
-/

namespace ChangeReview.Text

/-- The simple case folding of a character, as far as it leads to an ASCII letter. -/
def foldChar (c : Char) : Char :=
  if c.toNat = 0x212A then 'k' else if c.toNat = 0x17F then 's' else c.toLower

/-- The rest after a folded occurrence of `word` at the start of a text. -/
def afterFolded? : (word : List Char) → List Char → Option (List Char)
  | [], s => some s
  | _ :: _, [] => none
  | w :: ws, c :: rest => if foldChar c = w then afterFolded? ws rest else none

/-- Whether a text starts with a folded occurrence of `word`. -/
def startsFolded (word : List Char) (s : List Char) : Bool := (afterFolded? word s).isSome

/-- What follows each folded occurrence of `word` that a search from the left meets. From an
occurrence the search goes on behind it: the next `skip` characters still belong to one. -/
def afterEachFolded (word : List Char) : (skip : Nat) → List Char → List (List Char)
  | _, [] => []
  | skip + 1, _ :: s => afterEachFolded word skip s
  | 0, c :: s =>
    match afterFolded? word (c :: s) with
    | some rest => rest :: afterEachFolded word (word.length - 1) s
    | none => afterEachFolded word 0 s

end ChangeReview.Text
