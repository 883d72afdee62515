/-!
# ASCII letter case

Case maps that change the letters `A`–`Z` and `a`–`z` and nothing else, and the comparison of
texts that ignores the case of those letters.
-/

namespace ChangeReview.Text

/-- `A`–`Z` become `a`–`z`; every other character stays. -/
def lowerAscii (s : List Char) : List Char := s.map Char.toLower

/-- `lowerAscii` on strings. -/
def loweredAscii (s : String) : String := String.ofList (lowerAscii s.toList)

/-- `a`–`z` become `A`–`Z`; every other character stays. -/
def upperedAscii (s : String) : String := String.ofList (s.toList.map Char.toUpper)

/-- Equality up to the case of ASCII letters. -/
def eqIgnoringCase (s t : String) : Bool := loweredAscii s == loweredAscii t

theorem length_lowerAscii (s : List Char) : (lowerAscii s).length = s.length := by
  simp [lowerAscii]

theorem eqIgnoringCase_iff {s t : String} :
    eqIgnoringCase s t ↔ loweredAscii s = loweredAscii t := by
  simp [eqIgnoringCase]

end ChangeReview.Text
