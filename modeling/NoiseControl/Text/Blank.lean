/-!
# White space and words

White space is what Unicode gives the property White_Space: twenty-five characters, among them
the line and paragraph separators and the spaces of various widths.
-/

namespace NoiseControl.Text

/-- The characters with the property White_Space. -/
def blanks : List Char :=
  ['\t', '\n', '\u000b', '\u000c', '\r', ' ', '\u0085', '\u00a0', '\u1680', '\u2000', '\u2001',
    '\u2002', '\u2003', '\u2004', '\u2005', '\u2006', '\u2007', '\u2008', '\u2009', '\u200a',
    '\u2028', '\u2029', '\u202f', '\u205f', '\u3000']

def isBlank (c : Char) : Bool := blanks.contains c

def trim (cs : List Char) : List Char :=
  ((cs.dropWhile isBlank).reverse.dropWhile isBlank).reverse

/-- The words of a text whose first word already has the characters `word`, in reverse. -/
def wordsFrom (word : List Char) : List Char → List (List Char)
  | [] => if word.isEmpty then [] else [word.reverse]
  | c :: rest =>
    if isBlank c then
      if word.isEmpty then wordsFrom [] rest else word.reverse :: wordsFrom [] rest
    else wordsFrom (c :: word) rest

/-- The longest pieces of a text without white space, in order. -/
def words (cs : List Char) : List (List Char) := wordsFrom [] cs

def trimString (s : String) : String := String.ofList (trim s.toList)

/-- Upper-case letters of ASCII in lower case, and all else as it is. -/
def lowerAscii (s : String) : String := s.map Char.toLower

end NoiseControl.Text
