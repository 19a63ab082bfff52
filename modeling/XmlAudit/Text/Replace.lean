/-!
# Replacing parts of a text

* `replaceMatches`: every part that a rule recognises replaced, from left to right.
* `replaceAll`: every occurrence of a word replaced.
* `dropWord`: a text without the word with which it starts.
* `splitAt`: the parts of a text between the occurrences of a character.
-/

namespace XmlAudit.Text

/-- The characters after a leading word. -/
def dropWord : List Char → List Char → Option (List Char)
  | [], cs => some cs
  | w :: ws, c :: cs => if w = c then dropWord ws cs else none
  | _ :: _, [] => none

/-- A rule that may recognise the start of a text: what to write for it, and how many characters it
takes. -/
abbrev ReplaceRule := List Char → Option (List Char × Nat)

/-- A text with a rule applied where it can be, after `skip` characters that were already taken. -/
def replaceFrom (rule : ReplaceRule) : Nat → List Char → List Char
  | _, [] => []
  | skip + 1, _ :: cs => replaceFrom rule skip cs
  | 0, c :: cs =>
    match rule (c :: cs) with
    | some (replacement, taken) => replacement ++ replaceFrom rule (taken - 1) cs
    | none => c :: replaceFrom rule 0 cs

/-- A text with every part that a rule recognises replaced. -/
def replaceMatches (rule : ReplaceRule) (s : String) : String :=
  String.ofList (replaceFrom rule 0 s.toList)

/-- The rule that replaces a word. -/
def wordRule (word replacement : List Char) : ReplaceRule := fun cs =>
  if word.isPrefixOf cs then some (replacement, word.length) else none

/-- A text with every occurrence of a word, which is not empty, replaced. -/
def replaceAll (word replacement : String) (s : String) : String :=
  replaceMatches (wordRule word.toList replacement.toList) s

/-- The parts of a list between the characters `mark`; `part` holds the one being read, in
reverse. -/
def splitFrom (mark : Char) (part : List Char) : List Char → List (List Char)
  | [] => [part.reverse]
  | c :: cs =>
    if c = mark then part.reverse :: splitFrom mark [] cs else splitFrom mark (c :: part) cs

/-- The parts of a text between the characters `mark`, one more than there are of these. -/
def splitAt (mark : Char) (s : String) : List String :=
  (splitFrom mark [] s.toList).map String.ofList

end XmlAudit.Text
