/-
# ValueObject.Proofs.Source.Script -- what generated members do about instances

Generated code does few things that matter for which instances there are: it asks the predicate, assigns
backing fields, calls the constructor or `Try`, and throws. These are the **acts**. A **script** is a
member written in phrases: acts, words that the declaration gives, and fixed words in between. A word is
**plain** if it performs no act itself, so that nothing is hidden between the acts.

The code of a script is its phrases put together (`Script.code`), and its acts are those that are
reached for an answer of the predicate, if nothing else stops it (`Script.acts`). Statements about
instances are made over acts: `Guarded` and `Unguarded` say what the members of a type do where there is
a predicate and where there is none, and `MadeByConstructor` that no instance comes from anywhere else
than the constructor.
-/

import ValueObject.Proofs.Source.DeclaredMembers

namespace ValueObject.Source

/-! ## Acts -/

/-- **What code does about instances of its type.** -/
inductive Act where
  /-- Asks the predicate, and goes on only if it holds. -/
  | ask (predicate arguments : String)
  /-- Assigns a parameter to a backing field. -/
  | assign (backing parameter : String)
  /-- Calls the constructor. -/
  | construct (arguments : String)
  /-- Calls `Try`. -/
  | attempt (arguments : String)
  /-- Throws. -/
  | refuse
  /-- Takes the value of a backing field, and throws if none was assigned. -/
  | demand (backing : String)
  deriving DecidableEq, Repr

namespace Act

/-- The act as it is written in a type. -/
def text (name runtime : String) : Act → String
  | ask predicate arguments => "if (" ++ name ++ "." ++ predicate ++ "(" ++ arguments ++ "))"
  | assign backing parameter => backing ++ " = " ++ parameter ++ ";"
  | construct arguments => "new(" ++ arguments ++ ")"
  | attempt arguments => name ++ ".Try(" ++ arguments ++ ", out result)"
  | refuse => "throw new " ++ runtime ++ ".ValueObjectException("
  | demand backing => backing ++ " ?? throw new " ++ runtime ++ ".ValueObjectException("

/-- The act makes an instance, or a part of one. -/
def makes : Act → Bool
  | assign _ _ | construct _ | attempt _ => true
  | ask _ _ | refuse | demand _ => false

/-- The act needs a predicate: it asks for it, or calls the method that does. -/
def checks : Act → Bool
  | ask _ _ | attempt _ => true
  | assign _ _ | construct _ | refuse | demand _ => false

/-- The backing fields that the act demands a value of. -/
def demands : Act → List String
  | demand backing => [backing]
  | ask _ _ | assign _ _ | construct _ | attempt _ | refuse => []

end Act

/-! ## Words and phrases -/

/-- What acts are written with: `new(`, `throw`, `IsValid(`, `Try(`, `else` and `_value =`. -/
def actMarks : List (List Char) :=
  [['n', 'e', 'w', '('], ['t', 'h', 'r', 'o', 'w'], ['I', 's', 'V', 'a', 'l', 'i', 'd', '('],
    ['T', 'r', 'y', '('], ['e', 'l', 's', 'e'], ['_', 'v', 'a', 'l', 'u', 'e', ' ', '=']]

/-- No mark of an act begins anywhere in the text. -/
def unmarked : List Char → Bool
  | [] => true
  | c :: cs => !(actMarks.any fun mark => mark.isPrefixOf (c :: cs)) && unmarked cs

/-- **The text performs no act.** -/
def inert (s : String) : Bool :=
  unmarked s.toList

/-- Literals are read by their characters. -/
theorem inert_ofList {cs : List Char} (h : unmarked cs = true) : inert (String.ofList cs) = true := by
  rw [inert, String.toList_ofList, h]

/-- A word between acts: a fixed one, or one that the declaration gives. -/
inductive Word where
  | fixed (text : String)
  | given (text : String)
  deriving DecidableEq, Repr

namespace Word

/-- The text of a word. -/
def text : Word → String
  | fixed text | given text => text

/-- **The word does nothing**: it performs no act if it is fixed, and is one of these texts if it is
given. -/
def Plain (texts : List String) : Word → Prop
  | fixed text => inert text = true
  | given text => text ∈ texts

@[simp]
theorem plain_fixed {texts : List String} {text : String} :
    (fixed text).Plain texts ↔ inert text = true :=
  Iff.rfl

@[simp]
theorem plain_given {texts : List String} {text : String} :
    (given text).Plain texts ↔ text ∈ texts :=
  Iff.rfl

theorem Plain.mono {texts texts' : List String} {w : Word} (h : w.Plain texts)
    (hsub : texts ⊆ texts') : w.Plain texts' := by
  cases w with
  | fixed text => exact h
  | given text => exact hsub h

end Word

/-- Words one after the other. -/
def wordsText : List Word → String
  | [] => ""
  | w :: rest => w.text ++ wordsText rest

/-- **A part of a line**: a word, a row of entries with a word between them, an act, or the `else` of a
question. -/
inductive Phrase where
  | word (w : Word)
  | row (separator : Word) (entries : List (List Word))
  | does (a : Act)
  | otherwise

namespace Phrase

/-- A fixed word. -/
abbrev fixed (text : String) : Phrase :=
  .word (.fixed text)

/-- A given word. -/
abbrev given (text : String) : Phrase :=
  .word (.given text)

/-- The phrase as it is written in a type. -/
def text (name runtime : String) : Phrase → String
  | word w => w.text
  | row separator entries => separator.text.intercalate (entries.map wordsText)
  | does a => a.text name runtime
  | otherwise => "else "

@[simp]
theorem text_word (name runtime : String) (w : Word) : (word w).text name runtime = w.text :=
  rfl

@[simp]
theorem text_row (name runtime : String) (separator : Word) (entries : List (List Word)) :
    (row separator entries).text name runtime = separator.text.intercalate (entries.map wordsText) :=
  rfl

@[simp]
theorem text_does (name runtime : String) (a : Act) :
    (does a).text name runtime = a.text name runtime :=
  rfl

@[simp]
theorem text_otherwise (name runtime : String) : otherwise.text name runtime = "else " :=
  rfl

/-- The words of a phrase. What an act demands is given by the declaration. -/
def words : Phrase → List Word
  | word w => [w]
  | row separator entries => separator :: entries.flatten
  | does a => a.demands.map .given
  | otherwise => []

@[simp]
theorem words_word (w : Word) : (word w).words = [w] :=
  rfl

@[simp]
theorem words_row (separator : Word) (entries : List (List Word)) :
    (row separator entries).words = separator :: entries.flatten :=
  rfl

@[simp]
theorem words_does (a : Act) : (does a).words = a.demands.map .given :=
  rfl

@[simp]
theorem words_otherwise : otherwise.words = [] :=
  rfl

/-- The acts of a phrase. -/
def acts : Phrase → List Act
  | does a => [a]
  | word _ | row _ _ | otherwise => []

/-- What follows the phrase is reached, for an answer of the predicate. -/
def passes (answer : Bool) : Phrase → Bool
  | does (.ask _ _) => answer
  | otherwise => !answer
  | does _ | word _ | row _ _ => true

end Phrase

/-- The text of a line. -/
def lineText (name runtime : String) : List Phrase → String
  | [] => ""
  | p :: rest => p.text name runtime ++ lineText name runtime rest

/-- The acts of a line, for an answer of the predicate. -/
def lineActs (answer : Bool) : List Phrase → List Act
  | [] => []
  | p :: rest => p.acts ++ if p.passes answer then lineActs answer rest else []

/-! ## Scripts -/

/-- A statement in the body of a member: a line, or lines under a header. -/
inductive Step where
  | line (phrases : List Phrase)
  | block (header : List Phrase) (lines : List (List Phrase))

namespace Step

/-- The code of a statement. -/
def code (name runtime : String) : Step → Code
  | line phrases => .line (lineText name runtime phrases)
  | block header lines =>
    .block (lineText name runtime header) (lines.map fun l => .line (lineText name runtime l))

/-- The words of a statement. -/
def words : Step → List Word
  | line phrases => phrases.flatMap Phrase.words
  | block header lines =>
    header.flatMap Phrase.words ++ lines.flatMap fun l => l.flatMap Phrase.words

/-- The acts of a statement. Lines are reached if their header lets through. -/
def acts (answer : Bool) : Step → List Act
  | line phrases => lineActs answer phrases
  | block header lines =>
    lineActs answer header ++
      if header.all (·.passes answer) then lines.flatMap (lineActs answer) else []

end Step

/-- **A member in phrases**: what it declares, the rest of its first line, and its body, if it has
one. -/
structure Script where
  declares : DeclaredMember
  head : List Phrase
  body : Option (List Step) := none

namespace Script

/-- **The code of a member.** -/
def code (name runtime : String) (m : Script) : Code :=
  match m.body with
  | none => .line (m.declares.signature ++ lineText name runtime m.head)
  | some steps =>
    .block (m.declares.signature ++ lineText name runtime m.head) (steps.map (Step.code name runtime))

/-- The words of a member, behind its name. -/
def words (m : Script) : List Word :=
  m.head.flatMap Phrase.words ++ (m.body.getD []).flatMap Step.words

/-- **The acts of a member**, for an answer of the predicate. -/
def acts (answer : Bool) (m : Script) : List Act :=
  lineActs answer m.head ++ (m.body.getD []).flatMap (Step.acts answer)

end Script

/-- The members of a kind and a name. -/
def called (kind : MemberKind) (name : String) (ms : List Script) : List Script :=
  ms.filter fun m => m.declares.kind == kind && m.declares.name == name

/-- The members of a kind and a name are collected part by part. -/
theorem called_flatMap {α : Type} (kind : MemberKind) (name : String) (xs : List α)
    (f : α → List Script) :
    called kind name (xs.flatMap f) = xs.flatMap fun x => called kind name (f x) :=
  List.filter_flatMap ..

/-! ## Members that both shapes have -/

section

open Phrase (fixed given)

/-- The default constructor. -/
def defaultConstructorScript (name : String) : Script where
  declares := ⟨.constructor, "public", name⟩
  head := [fixed ") => ", .does .refuse,
    fixed "\"Do not call the default constructor for ValueObject '", given name, fixed "'.\");"]

/-- Equality and inequality operators. -/
def equalityOperatorScripts (name right : String) : List Script :=
  [{ declares := ⟨.operator, "public static bool operator", "=="⟩
     head := [given name, fixed " left, ", given right, fixed " right) => left.Equals(right);"] },
    { declares := ⟨.operator, "public static bool operator", "!="⟩
      head := [given name, fixed " left, ", given right, fixed " right) => !left.Equals(right);"] }]

attribute [local simp] Script.code lineText Act.text Word.text DeclaredMember.signature
  MemberKind.mark throwing

theorem code_defaultConstructorScript (name runtime : String) :
    (defaultConstructorScript name).code name runtime = defaultConstructor name runtime := by
  simp [defaultConstructorScript, defaultConstructor, ← String.toList_inj]

theorem code_equalityOperatorScripts (name right runtime : String) :
    (equalityOperatorScripts name right).map (Script.code name runtime) =
      equalityOperators name right := by
  simp [equalityOperatorScripts, equalityOperators, String.append_assoc]

end

/-! ## The constructor and what goes through it -/

/-- A value that the constructor takes: its type, its parameter, and the backing field that holds it. -/
structure Slot where
  typeName : String
  parameter : String
  backing : String
  deriving DecidableEq, Repr

namespace Slot

/-- The parameters of the constructor, each with its type. -/
def parameters (slots : List Slot) : String :=
  commaList (slots.map fun s => s.typeName ++ " " ++ s.parameter)

/-- The parameters as arguments. -/
def arguments (slots : List Slot) : String :=
  commaList (slots.map Slot.parameter)

/-- Every backing field is assigned its parameter. -/
def assignments (slots : List Slot) : List Act :=
  slots.map fun s => .assign s.backing s.parameter

end Slot

/-- **The members of a type that checks its values.** The constructor assigns only if the predicate
holds, and throws otherwise. There is one `Try`, which calls the constructor only if the predicate
holds. What is parsed without throwing goes through `Try`. -/
structure Guarded (name predicate : String) (slots : List Slot) (ms : List Script) : Prop where
  constructors : ∀ answer, (called .constructor name ms).map (Script.acts answer) =
    [[.refuse], .ask predicate (Slot.arguments slots) ::
      if answer then Slot.assignments slots else [.refuse]]
  tries : ∀ answer, (called .method "Try" ms).map (Script.acts answer) =
    [.ask predicate (Slot.arguments slots) ::
      if answer then [.construct (Slot.arguments slots)] else []]
  tryParses : ∀ answer, ∀ m ∈ called .method "TryParse" ms, m.acts answer = [.attempt "dtResult"]

/-- **The members of a type that takes all values.** No member asks a predicate or calls `Try`, and
there is no `Try`. -/
structure Unguarded (name : String) (slots : List Slot) (ms : List Script) : Prop where
  constructors : ∀ answer, (called .constructor name ms).map (Script.acts answer) =
    [[.refuse], Slot.assignments slots]
  tries : called .method "Try" ms = []
  tryParses : ∀ answer, ∀ m ∈ called .method "TryParse" ms, m.acts answer = [.construct "dtResult"]
  unchecked : ∀ answer, ∀ m ∈ ms, ∀ a ∈ m.acts answer, a.checks = false

theorem Unguarded.not_guarded {name predicate : String} {slots : List Slot} {ms : List Script}
    (h : Unguarded name slots ms) : ¬ Guarded name predicate slots ms := by
  intro hguarded
  have htries := hguarded.tries true
  rw [h.tries] at htries
  cases htries

/-- **All instances are made by the constructor.** Backing fields are assigned in a constructor over the
slots and nowhere else. Operators that make an instance, `From` and `Parse` call the constructor, once;
`Try` and `TryParse` are the only other members that make one. -/
structure MadeByConstructor (name runtime : String) (slots : List Slot) (ms : List Script) :
    Prop where
  assigned : ∀ answer, ∀ m ∈ ms, ∀ backing parameter, .assign backing parameter ∈ m.acts answer →
    m.declares.kind = .constructor ∧
      Text.startsWith (m.declares.signature ++ Slot.parameters slots ++ ")")
        (m.code name runtime).head = true
  operators : ∀ answer, ∀ m ∈ ms, m.declares.kind = .operator →
    m.acts answer = [] ∨ m.acts answer = [.construct (Slot.arguments slots)]
  factories : ∀ answer, ∀ m ∈ called .method "From" ms,
    m.acts answer = [.construct (Slot.arguments slots)]
  parses : ∀ answer, ∀ m ∈ called .method "Parse" ms,
    ∃ s ∈ slots, m.acts answer = [.construct (s.typeName ++ ".Parse(s, provider)")]
  others : ∀ answer, ∀ m ∈ ms, ∀ a ∈ m.acts answer, a.makes = true →
    m.declares.kind = .constructor ∨ m.declares.kind = .operator ∨
      (m.declares.kind = .method ∧ m.declares.name ∈ ["From", "Parse", "Try", "TryParse"])

/-- **What the members of a type do about instances**, by the type itself: whether it has a predicate and
a factory, and whether `From` and a conversion from the raw value are asked for. -/
structure Behaves (name runtime : String) (predicate factory : Option String)
    (asksFactory asksConversion : Bool) (slots : List Slot) (ms : List Script) : Prop where
  guarded : ∀ p, predicate = some p → Guarded name p slots ms
  unguarded : predicate = none → Unguarded name slots ms
  fronts_from : (called .method "From" ms).map (·.declares.front) =
    if asksFactory || factory.isSome then ["public static " ++ partialWord factory.isSome ++ name]
    else []
  converting_iff : ∀ answer, (∃ m ∈ ms, m.declares.kind = .operator ∧
    m.acts answer = [.construct (Slot.arguments slots)]) ↔ asksConversion = true
  madeByConstructor : MadeByConstructor name runtime slots ms

end ValueObject.Source
