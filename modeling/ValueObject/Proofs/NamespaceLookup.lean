/-
# ValueObject.Proofs.NamespaceLookup -- what qualified names mean where they are written

Generated code names types by the namespaces they are in, from the outermost one on, but does not say that
it starts there. So the first part of such a name is looked for in the namespaces around the place where
it is written, from the inside out, and the first that holds a namespace of that name decides
(`meaning`). The name means what it says exactly if no namespace around it holds one, except the global
one (`meaning_eq_self_iff`).

The namespace of a declaration holds its own parts. So the names in a unit mean what they say only if no
part but the first is `System`, or the first part of the namespace of the support types. The review
compares neither.
-/

import Mathlib.Data.List.Infix
import ValueObject.Proofs.WrittenNames

namespace ValueObject

open Source Source.Code Source.Writer Identifier

namespace Scope

/-! ## Lookup -/

/-- **A namespace holds another** of this name, if one of the declared namespaces runs through both. -/
def Holds (declared : List (List String)) (outer : List String) (name : String) : Prop :=
  ∃ other ∈ declared, outer ++ [name] <+: other

instance (declared : List (List String)) (outer : List String) (name : String) :
    Decidable (Holds declared outer name) :=
  List.decidableBEx (fun other => outer ++ [name] <+: other) declared

/-- The namespaces around a place, innermost first; the global namespace is the last. -/
def enclosing (scope : List String) : List (List String) :=
  scope.inits.reverse

/-- **What a qualified name means** in a namespace: its parts, in the innermost namespace around it that
holds the first of them. -/
def meaning (declared : List (List String)) (scope : List String) :
    List String → Option (List String)
  | [] => none
  | first :: rest =>
    ((enclosing scope).find? fun outer => decide (Holds declared outer first)).map
      (· ++ first :: rest)

variable {declared : List (List String)} {scope : List String} {first : String}

theorem mem_enclosing_iff {outer : List String} : outer ∈ enclosing scope ↔ outer <+: scope := by
  rw [enclosing, List.mem_reverse, List.mem_inits]

/-- The global namespace is around every other. -/
theorem exists_enclosing_eq (scope : List String) :
    ∃ inner, enclosing scope = inner ++ [[]] ∧ ∀ outer ∈ inner, outer <+: scope ∧ outer ≠ [] := by
  cases scope with
  | nil => exact ⟨[], rfl, by simp⟩
  | cons part parts =>
    refine ⟨(parts.inits.map (part :: ·)).reverse, ?_, ?_⟩
    · rw [enclosing, List.inits_cons, List.reverse_cons]
    · intro outer houter
      obtain ⟨rest, hrest, rfl⟩ := List.mem_map.mp (List.mem_reverse.mp houter)
      exact ⟨(List.prefix_cons_inj part).mpr ((List.mem_inits _ _).mp hrest), by simp⟩

/-- **A name means what it says** if no other namespace around it than the global one holds its first
part. -/
theorem meaning_eq_self_iff (hglobal : Holds declared [] first) (rest : List String) :
    meaning declared scope (first :: rest) = some (first :: rest) ↔
      ∀ outer, outer <+: scope → outer ≠ [] → ¬ Holds declared outer first := by
  obtain ⟨inner, henclosing, hinner⟩ := exists_enclosing_eq scope
  have hmem {outer : List String} (haround : outer <+: scope) (hne : outer ≠ []) :
      outer ∈ inner := by
    have houter := mem_enclosing_iff.mpr haround
    rw [henclosing, List.mem_append, List.mem_singleton] at houter
    exact houter.resolve_right hne
  rw [meaning, henclosing, List.find?_append]
  cases hfound : inner.find? fun outer => decide (Holds declared outer first) with
  | none =>
    rw [List.find?_eq_none] at hfound
    constructor
    · intro _ outer haround hne hholds
      exact hfound outer (hmem haround hne) (decide_eq_true hholds)
    · intro _
      rw [Option.none_or, List.find?_singleton, if_pos (decide_eq_true hglobal)]
      rfl
  | some outer =>
    -- a namespace of its own stands in front of the name
    obtain ⟨haround, hne⟩ := hinner outer (List.mem_of_find?_eq_some hfound)
    have hholds : Holds declared outer first := by
      simpa using List.find?_some hfound
    constructor
    · intro heq
      have happend : outer ++ first :: rest = first :: rest := Option.some.inj heq
      exact absurd (List.append_left_eq_self.mp happend) hne
    · intro hnone
      exact absurd hholds (hnone outer haround hne)

/-- A namespace holds a part of its own in another part exactly if that part is not its first. -/
theorem exists_prefix_iff_mem_tail {parts : List String} {x : String} :
    (∃ outer, outer <+: parts ∧ outer ≠ [] ∧ outer ++ [x] <+: parts) ↔ x ∈ parts.tail := by
  constructor
  · rintro ⟨outer, -, hne, rest, rfl⟩
    obtain ⟨part, outer, rfl⟩ := List.exists_cons_of_ne_nil hne
    simp
  · intro hx
    cases parts with
    | nil => cases hx
    | cons part parts =>
      obtain ⟨before, after, rfl⟩ := List.append_of_mem hx
      exact ⟨part :: before, ⟨x :: after, rfl⟩, by simp, ⟨after, by simp⟩⟩

/-! ## Names that begin in a few ways -/

/-- **Every name that begins with one of these parts means what it says.** -/
def Global (declared : List (List String)) (scope heads : List String) : Prop :=
  ∀ first ∈ heads, ∀ rest, meaning declared scope (first :: rest) = some (first :: rest)

/-- No namespace but its own hides one of these parts in a namespace around the place. -/
def Undisturbed (declared : List (List String)) (scope heads : List String) : Prop :=
  ∀ other ∈ declared, other ≠ scope → ∀ first ∈ heads, ∀ outer, outer <+: scope → outer ≠ [] →
    ¬ outer ++ [first] <+: other

theorem global_iff {heads : List String} (hscope : scope ∈ declared)
    (hglobal : ∀ first ∈ heads, Holds declared [] first) :
    Global declared scope heads ↔
      (∀ first ∈ heads, first ∉ scope.tail) ∧ Undisturbed declared scope heads := by
  constructor
  · intro h
    have hnone {first : String} (hfirst : first ∈ heads) :=
      (meaning_eq_self_iff (hglobal first hfirst) []).mp (h first hfirst [])
    constructor
    · intro first hfirst htail
      obtain ⟨outer, haround, hne, hown⟩ := exists_prefix_iff_mem_tail.mpr htail
      exact hnone hfirst outer haround hne ⟨scope, hscope, hown⟩
    · intro other hother _ first hfirst outer haround hne hhides
      exact hnone hfirst outer haround hne ⟨other, hother, hhides⟩
  · rintro ⟨hown, hothers⟩ first hfirst rest
    refine (meaning_eq_self_iff (hglobal first hfirst) rest).mpr ?_
    rintro outer haround hne ⟨other, hother, hhides⟩
    by_cases hscope : other = scope
    · subst hscope
      exact hown first hfirst (exists_prefix_iff_mem_tail.mp ⟨outer, haround, hne, hhides⟩)
    · exact hothers other hother hscope first hfirst outer haround hne hhides

/-- Namespaces of one part hide nothing. -/
theorem undisturbed_singletons (scope heads : List String) :
    Undisturbed (scope :: heads.map ([·])) scope heads := by
  intro other hother hne first _ outer _ houter hhides
  rcases List.mem_cons.mp hother with rfl | hother
  · exact hne rfl
  · obtain ⟨head, -, rfl⟩ := List.mem_map.mp hother
    have hlength := hhides.length_le
    have hpos := List.length_pos_of_ne_nil houter
    rw [List.length_append, List.length_singleton, List.length_singleton] at hlength
    omega

end Scope

open Scope

/-! ## The names of generated code -/

/-- **What the qualified names of generated code begin with**: the namespace of the platform, and the
outermost namespace of the support types. -/
def Settings.heads (s : Settings) : List String :=
  ["System", (segments s.runtimeNamespace).head (segments_ne_nil _)]

/-- The parts of a name that is qualified with a namespace. -/
theorem Identifier.segments_qualified (outer name : String) :
    segments (outer ++ "." ++ name) = segments outer ++ segments name := by
  have hlist : (outer ++ "." ++ name).toList = outer.toList ++ '.' :: name.toList := by
    rw [String.toList_append, String.toList_append, List.append_assoc]
    rfl
  rw [segments, hlist, Text.splitOn_append, List.map_append]
  rfl

/-- The attribute and the exception begin so. -/
theorem Settings.exists_head {s : Settings} : ∀ name ∈
    ["System.CodeDom.Compiler.GeneratedCode", s.runtimeNamespace ++ "." ++ "ValueObjectException"],
    ∃ first ∈ s.heads, ∃ rest, segments name = first :: rest := by
  intro name hname
  rcases List.mem_cons.mp hname with rfl | hname
  · exact ⟨"System", by simp [heads], ["CodeDom", "Compiler", "GeneratedCode"], by decide +kernel⟩
  · rw [List.mem_singleton.mp hname, segments_qualified]
    refine ⟨(segments s.runtimeNamespace).head (segments_ne_nil _), by simp [heads],
      (segments s.runtimeNamespace).tail ++ segments "ValueObjectException", ?_⟩
    rw [← List.cons_append, List.cons_head_tail]

theorem Settings.holds_heads {s : Settings} {scope : List String} :
    ∀ first ∈ s.heads, Holds (scope :: s.heads.map ([·])) [] first :=
  fun first hfirst => ⟨[first], List.mem_cons_of_mem _ (List.mem_map.mpr ⟨first, hfirst, rfl⟩),
    List.prefix_rfl⟩

/-- In every unit stand an attribute of the platform and an exception of the support types. -/
theorem Generator.exists_qualified_names {g : Generator} {d : Declaration} {u : GeneratedUnit}
    (hu : g.generate d = .accepted u) :
    ∃ n before between after, Text.trimmed? d.namespaceName = some n ∧
      u.source = namespaceText n (before ++ attributeLead ++ between ++
        "throw new " ++ g.settings.runtimeNamespace ++ ".ValueObjectException(" ++ after) := by
  obtain ⟨n, between, rest, hn, hsource⟩ := source_eq_namespaceText hu
  obtain ⟨front, back, hattribute⟩ : ∃ front back,
      lineAt 1 (generatedCode g.settings) = front ++ attributeLead ++ back := by
    obtain ⟨front, back, hline⟩ := exists_lineAt_eq 1 (generatedCode g.settings)
    simp only [generatedCode_eq, String.append_assoc] at hline ⊢
    exact ⟨front, _, hline⟩
  obtain ⟨front', back', hthrow⟩ : ∃ front back,
      textAt 2 [defaultConstructor d.name g.settings.runtimeNamespace] =
        front ++ ("throw new " ++ g.settings.runtimeNamespace ++ ".ValueObjectException(") ++ back := by
    obtain ⟨front, back, hline⟩ := exists_lineAt_eq 2 ("public " ++ d.name ++ "() => " ++
      throwing g.settings.runtimeNamespace
        ("\"Do not call the default constructor for ValueObject '" ++ d.name ++ "'.\"") ++ ";")
    refine ⟨front ++ ("public " ++ d.name ++ "() => "),
      "\"Do not call the default constructor for ValueObject '" ++ d.name ++ "'.\"" ++ ")" ++ ";" ++
        back, ?_⟩
    rw [defaultConstructor, textAt_line, hline]
    simp only [throwing, String.append_assoc]
  refine ⟨n, front, back ++ between ++ front', back' ++ rest, hn, ?_⟩
  rw [hsource, hattribute, hthrow]
  simp only [String.append_assoc]

/-- **What the qualified names of a unit mean.** In every unit stand the attribute of the platform and the
exception of the support types. In the namespaces that the unit opens itself, all names like them mean
what they say exactly if no part of its namespace but the first is one that they begin with; among other
namespaces, if none of those hides them either. The review does not ask for it: it accepts the
declaration in every other namespace. -/
theorem qualified_names_global_iff (g : Generator) (d : Declaration) (u : GeneratedUnit)
    (hu : g.generate d = .accepted u) :
    ∃ n before between after, Text.trimmed? d.namespaceName = some n ∧
      u.source = namespaceText n (before ++ attributeLead ++ between ++
        "throw new " ++ g.settings.runtimeNamespace ++ ".ValueObjectException(" ++ after) ∧
      (∀ name ∈ ["System.CodeDom.Compiler.GeneratedCode",
          g.settings.runtimeNamespace ++ "." ++ "ValueObjectException"],
        ∃ first ∈ g.settings.heads, ∃ rest, segments name = first :: rest) ∧
      (Global (segments n :: g.settings.heads.map ([·])) (segments n) g.settings.heads ↔
        ∀ first ∈ g.settings.heads, first ∉ (segments n).tail) ∧
      (∀ declared, segments n ∈ declared → (∀ first ∈ g.settings.heads, Holds declared [] first) →
        (Global declared (segments n) g.settings.heads ↔
          (∀ first ∈ g.settings.heads, first ∉ (segments n).tail) ∧
            Undisturbed declared (segments n) g.settings.heads)) ∧
      ∀ name, Text.isBlankText name = false →
        ∃ u' body, g.generate (d.inNamespace name) = .accepted u' ∧
          u'.source = namespaceText (Text.trim name) body := by
  obtain ⟨n, before, between, after, hn, hsource⟩ := Generator.exists_qualified_names hu
  refine ⟨n, before, between, after, hn, hsource, Settings.exists_head, ?_, ?_, ?_⟩
  · rw [global_iff (List.mem_cons_self ..) Settings.holds_heads,
      and_iff_left (undisturbed_singletons _ _)]
  · exact fun declared hscope hglobal => global_iff hscope hglobal
  · exact fun name hname => generate_inNamespace hu hname

theorem qualified_names_of_money_global :
    ∃ u, Generator.standard.generate moneyDeclaration = .accepted u ∧
      Global [["Shop"], ["System"], ["ValueObjects"]] ["Shop"] Generator.standard.settings.heads := by
  obtain ⟨u, hu⟩ := accepted_money
  obtain ⟨n, -, -, -, hn, -, -, -, hglobal, -⟩ := qualified_names_global_iff .standard _ u hu
  obtain rfl : "Shop" = n := Option.some.inj (Eq.trans (by decide +kernel) hn)
  have hparts : segments "Shop" = ["Shop"] := by decide +kernel
  have hheads : Generator.standard.settings.heads = ["System", "ValueObjects"] := by decide +kernel
  rw [hparts, hheads] at hglobal
  rw [hheads]
  refine ⟨u, hu, (hglobal _ (by simp) (by decide +kernel)).mpr ⟨by simp, ?_⟩⟩
  exact undisturbed_singletons ["Shop"] ["System", "ValueObjects"]

/-- **Names that are hidden.** Money in a namespace with parts like those that qualified names begin with:
the names of the unit are looked for in these parts. -/
theorem money_names_hidden :
    let scope := ["Shop", "System", "ValueObjects"]
    let declared := [scope, ["System"], ["ValueObjects"]]
    let d := moneyDeclaration.inNamespace "Shop.System.ValueObjects"
    (Generator.standard.generate d).isAccepted = true ∧
      d.namespaceName.map segments = some scope ∧
      Generator.standard.settings.heads = ["System", "ValueObjects"] ∧
      meaning declared scope ["System", "CodeDom", "Compiler", "GeneratedCode"] =
        some ["Shop", "System", "CodeDom", "Compiler", "GeneratedCode"] ∧
      meaning declared scope ["ValueObjects", "ValueObjectException"] =
        some ["Shop", "System", "ValueObjects", "ValueObjectException"] ∧
      ¬ (∀ first ∈ Generator.standard.settings.heads, first ∉ scope.tail) ∧
      ¬ Global declared scope Generator.standard.settings.heads := by
  intro scope declared d
  have hhead : "System" ∈ Generator.standard.settings.heads := by decide +kernel
  refine ⟨by decide +kernel, by decide +kernel, by decide +kernel, by decide +kernel,
    by decide +kernel, by decide +kernel, ?_⟩
  intro hglobal
  exact absurd (hglobal "System" hhead ["Guid"]) (by decide +kernel)

end ValueObject
