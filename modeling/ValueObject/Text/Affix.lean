/-
# ValueObject.Text.Affix -- leading and trailing parts of a text

Taking a known text off the front or the back of another, and asking whether it stands there. The
rules are written on lists of characters; the functions on strings only wrap them.
-/

namespace ValueObject.Text

/-- What follows `lead` in `cs`, if `cs` starts with it. -/
def afterLead? : List Char → List Char → Option (List Char)
  | [], cs => some cs
  | _ :: _, [] => none
  | l :: lead, c :: cs => if l = c then afterLead? lead cs else none

theorem afterLead?_append (lead cs : List Char) : afterLead? lead (lead ++ cs) = some cs := by
  induction lead with
  | nil => rfl
  | cons l lead ih => simp [afterLead?, ih]

theorem afterLead?_eq_some {lead cs rest : List Char} :
    afterLead? lead cs = some rest ↔ cs = lead ++ rest := by
  induction lead generalizing cs with
  | nil => simp [afterLead?, eq_comm]
  | cons l lead ih =>
    cases cs with
    | nil => simp [afterLead?]
    | cons c cs =>
      by_cases h : l = c
      · simp [afterLead?, h, ih]
      · simp [afterLead?, h, Ne.symm h]

/-- Without a leading `lead`; once, and only if it is there. -/
def dropLead (lead : String) (cs : List Char) : List Char :=
  (afterLead? lead.toList cs).getD cs

/-- The text starts with `lead`. -/
def startsWith (lead : String) (s : String) : Bool :=
  lead.toList.isPrefixOf s.toList

/-- The text ends with `tail`. -/
def endsWith (tail : String) (s : String) : Bool :=
  tail.toList.isSuffixOf s.toList

theorem endsWith_iff {tail s : String} : endsWith tail s = true ↔ tail.toList <:+ s.toList := by
  simp [endsWith]

/-- The parts of a text between occurrences of `mark`; a text without it is one part. -/
def splitOn (mark : Char) : List Char → List (List Char)
  | [] => [[]]
  | c :: cs =>
    if c = mark then [] :: splitOn mark cs
    else match splitOn mark cs with
      | [] => [[c]]
      | part :: parts => (c :: part) :: parts

end ValueObject.Text
