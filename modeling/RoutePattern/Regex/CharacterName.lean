import RoutePattern.Text.Bounds
import RoutePattern.Text.Names.Aliases
import RoutePattern.Text.Names.Alphabets
import RoutePattern.Text.Names.Ancient
import RoutePattern.Text.Names.Eastern
import RoutePattern.Text.Names.Notations
import RoutePattern.Text.Names.Syllabaries
import RoutePattern.Text.Names.Symbols

/-! # Names of characters

An escape may give a character by its name in Unicode 14. Most names stand in tables. The names of
ideographs and of the syllables of Hangul are built by rules, and some characters have their code
in the name. All are made of capitals, digits, spaces and hyphens (`isNameChar`); but for ideographs
and syllables, small letters do as well.

* `syllable?`, `ideograph?`, `coded?`, `listed?`: the kinds of names.
* `characterNamed?`: the character with a name, of whatever kind.
-/

namespace RoutePattern.Regex

open Text (afterStart? within)

/-- A character that a name in capitals may have. -/
def isNameChar (c : Char) : Bool := c.isUpper || c.isDigit || c = ' ' || c = '-'

/-! ## Syllables -/

/-- The consonants that start a syllable, in order. -/
def leads : List String :=
  ["G", "GG", "N", "D", "DD", "R", "M", "B", "BB", "S", "SS", "", "J", "JJ", "C", "K", "T", "P", "H"]

/-- The vowels of a syllable, in order. -/
def vowels : List String :=
  ["A", "AE", "YA", "YAE", "EO", "E", "YEO", "YE", "O", "WA", "WAE", "OE", "YO", "U", "WEO", "WE",
    "WI", "YU", "EU", "YI", "I"]

/-- The consonants that end a syllable, in order. -/
def tails : List String :=
  ["", "G", "GG", "GS", "N", "NJ", "NH", "D", "L", "LG", "LM", "LB", "LS", "LT", "LP", "LH", "M",
    "B", "BS", "S", "SS", "NG", "J", "C", "K", "T", "P", "H"]

/-- A letter of the vowels. -/
def isVowelLetter (c : Char) : Bool := "AEIOUWY".toList.contains c

/-- The code point of a syllable of Hangul by its name. No consonant is written with a letter of the
vowels, so the name falls apart in one way. -/
def syllable? (name : Text) : Option Nat := do
  let sound ← afterStart? "HANGUL SYLLABLE ".toList name
  let (start, rest) := sound.span (!isVowelLetter ·)
  let (middle, stop) := rest.span isVowelLetter
  let lead ← leads.findIdx? (·.toList = start)
  let vowel ← vowels.findIdx? (·.toList = middle)
  let tail ← tails.findIdx? (·.toList = stop)
  return 0xac00 + (lead * vowels.length + vowel) * tails.length + tail

/-! ## Names with the code -/

/-- The hexadecimal digits, in capitals. -/
def codeDigits : Text := "0123456789ABCDEF".toList

/-- The number of four or five hexadecimal digits in capitals. -/
def readCode? (t : Text) : Option Nat :=
  if t.length = 4 || t.length = 5 then
    t.foldlM (fun n c => (codeDigits.idxOf? c).map (n * 16 + ·)) 0
  else none

/-- Bounds of the runs of unified ideographs. -/
def ideographBounds : List Nat := [
  0x3400, 0x4dc0, 0x4e00, 0xa000, 0x20000, 0x2a6e0, 0x2a700, 0x2b739, 0x2b740, 0x2b81e, 0x2b820,
  0x2cea2, 0x2ceb0, 0x2ebe1, 0x30000, 0x3134b]

/-- The code point of a unified ideograph by its name; the code may start with a zero. -/
def ideograph? (name : Text) : Option Nat :=
  ((afterStart? "CJK UNIFIED IDEOGRAPH-".toList name).bind readCode?).filter
    (within ideographBounds)

/-- How the names of other characters start that end in the code, with the bounds of the runs of
these characters. -/
def codedRuns : List (String × List Nat) := [
  ("CJK COMPATIBILITY IDEOGRAPH-", [0xf900, 0xfa6e, 0xfa70, 0xfada, 0x2f800, 0x2fa1e]),
  ("KHITAN SMALL SCRIPT CHARACTER-", [0x18b00, 0x18cd6]),
  ("NUSHU CHARACTER-", [0x1b170, 0x1b2fc])]

/-- The code point of another character that has its code in its name. -/
def coded? (name : Text) : Option Nat :=
  codedRuns.findSome? fun (start, bounds) =>
    (afterStart? start.toList name).bind fun code =>
      if code.head? = some '0' then none else (readCode? code).filter (within bounds)

/-! ## Any name -/

/-- The tables of names, in the order of the characters; last, the further names. -/
def nameTables : List (List Text.NameRun) :=
  open Text.NameRun in [
    european, semitic, indic, southern, syllabic, insular, phonetic, punctuation, technical, shapes,
    gathered, radicals, regional, forms, tablets, caravans, brahmic, cuneiform, hieroglyphs, various,
    music, mathematics, signs, pictures, aliases]

/-- The code point of a character whose name is in the tables. -/
def listed? (name : Text) : Option Nat :=
  nameTables.findSome? fun runs => runs.findSome? (·.find? name)

/-- The code point of the character with a name. -/
def characterNamed? (name : Text) : Option Nat :=
  let capitals := name.map Char.toUpper
  if capitals.all isNameChar then
    (syllable? name).or ((ideograph? name).or ((coded? capitals).or (listed? capitals)))
  else none

end RoutePattern.Regex
