/-
# ValueObject.Proofs.SettingsFaults -- which fault of settings is reported

Settings can be wrong in three ways: the namespace is not a path of the grammar, the tool has no name, or a
quote stands in its name or version. `HasFault` says of each way, without the others and without the check,
when settings are wrong in it. Settings can be wrong in all three ways at once.

The check accepts the settings that are wrong in none (`check_eq_ok_iff`), and of several faults it reports
the one of the lowest rank (`check_eq_error_iff`). The namespace has a rank below the rest, so it decides
which kind of error there is (`settings_judged`).
-/

import ValueObject.Proofs.NamespacePath
import ValueObject.Settings

namespace ValueObject

open Identifier

/-! ## Faults -/

namespace SettingsError

/-- The place of a fault in the order in which faults are reported. -/
def rank : SettingsError → Nat
  | invalidRuntimeNamespace _ => 0
  | emptyToolName => 1
  | quoteInTool => 2

/-- The error is reported as one of the configuration. -/
def IsConfiguration (e : SettingsError) : Prop :=
  ∃ cause, e.message = "configuration error: " ++ cause

theorem isConfiguration_iff {e : SettingsError} :
    e.IsConfiguration ↔ ∀ name, e ≠ .invalidRuntimeNamespace name := by
  cases e with
  | invalidRuntimeNamespace name =>
    refine iff_of_false ?_ fun h => h name rfl
    rintro ⟨cause, hcause⟩
    -- the two kinds of message differ in their first letter
    have hi : "invalid runtime namespace: '".toList.head? = some 'i' := by decide +kernel
    have hc : "configuration error: ".toList.head? = some 'c' := by decide +kernel
    have htext : "invalid runtime namespace: '" ++ name ++ "'" = "configuration error: " ++ cause :=
      hcause
    have hfirst := congrArg (List.head? ∘ String.toList) htext
    simp only [Function.comp_apply, String.toList_append, List.head?_append, hi, hc,
      Option.some_or] at hfirst
    exact absurd hfirst (by decide)
  | emptyToolName => exact iff_of_true ⟨"tool_name must not be empty", rfl⟩ nofun
  | quoteInTool =>
    exact iff_of_true ⟨"tool_name and tool_version must not contain quotes", rfl⟩ nofun

end SettingsError

namespace Settings

/-- **What is wrong with settings**, whatever else may be wrong with them. -/
inductive HasFault (s : Settings) : SettingsError → Prop
  | badNamespace : ¬ NamespacePath s.runtimeNamespace.toList →
      HasFault s (.invalidRuntimeNamespace s.runtimeNamespace)
  | noName : Text.isBlankText s.toolName = true → HasFault s .emptyToolName
  | quote : '"' ∈ s.toolName.toList ∨ '"' ∈ s.toolVersion.toList → HasFault s .quoteInTool

/-- **The first fault**: no other has a lower rank. -/
def FirstFault (s : Settings) (e : SettingsError) : Prop :=
  s.HasFault e ∧ ∀ e', s.HasFault e' → e.rank ≤ e'.rank

variable {s : Settings} {e e' : SettingsError}

/-- There is one fault of each rank at most. -/
theorem HasFault.eq_of_rank (h : s.HasFault e) (h' : s.HasFault e') (hrank : e.rank = e'.rank) :
    e = e' := by
  cases h <;> cases h'
  case badNamespace.badNamespace => rfl
  case noName.noName => rfl
  case quote.quote => rfl
  -- two faults of different kinds have different ranks
  all_goals cases hrank

theorem FirstFault.unique (h : s.FirstFault e) (h' : s.FirstFault e') : e = e' :=
  h.1.eq_of_rank h'.1 (Nat.le_antisymm (h.2 e' h'.1) (h'.2 e h.1))

theorem forall_not_hasFault_iff :
    (∀ e, ¬ s.HasFault e) ↔ NamespacePath s.runtimeNamespace.toList ∧
      Text.isBlankText s.toolName = false ∧ '"' ∉ s.toolName.toList ∧
      '"' ∉ s.toolVersion.toList := by
  constructor
  · intro h
    have hquote := mt HasFault.quote (h .quoteInTool)
    rw [not_or] at hquote
    refine ⟨?_, ?_, hquote⟩
    · by_contra hpath
      exact h _ (.badNamespace hpath)
    · exact Bool.eq_false_iff.mpr fun hblank => h _ (.noName hblank)
  · rintro ⟨hpath, hname, hquoteName, hquoteVersion⟩ e (hfault | hfault | hfault)
    · exact hfault hpath
    · rw [hname] at hfault
      cases hfault
    · exact hfault.elim hquoteName hquoteVersion

/-! ## The check -/

/-- The check goes through the faults by rank: it finds none, or the first. -/
theorem check_cases (s : Settings) :
    (s.check = .ok () ∧ ∀ e, ¬ s.HasFault e) ∨ ∃ e, s.check = .error e ∧ s.FirstFault e := by
  unfold check
  by_cases hpath : isNamespacePath s.runtimeNamespace = true
  · have hgrammar := isNamespacePath_iff.mp hpath
    rw [if_neg (by simp [hpath])]
    by_cases hname : Text.isBlankText s.toolName = true
    · rw [if_pos hname]
      refine .inr ⟨_, rfl, .noName hname, ?_⟩
      rintro _ (hfault | - | -)
      · exact absurd hgrammar hfault
      · exact Nat.le_refl _
      · decide
    · rw [if_neg hname]
      rw [Bool.not_eq_true] at hname
      by_cases hquote : '"' ∈ s.toolName.toList ∨ '"' ∈ s.toolVersion.toList
      · rw [if_pos (by simpa using hquote)]
        refine .inr ⟨_, rfl, .quote hquote, ?_⟩
        rintro _ (hfault | hfault | -)
        · exact absurd hgrammar hfault
        · rw [hname] at hfault
          cases hfault
        · exact Nat.le_refl _
      · rw [if_neg (by simpa using hquote)]
        rw [not_or] at hquote
        exact .inl ⟨rfl, forall_not_hasFault_iff.mpr ⟨hgrammar, hname, hquote⟩⟩
  · have hgrammar := mt isNamespacePath_iff.mpr hpath
    rw [if_pos (by simpa using hpath)]
    exact .inr ⟨_, rfl, .badNamespace hgrammar, fun e' _ => Nat.zero_le e'.rank⟩

/-- **Of several faults the first is reported.** -/
theorem check_eq_error_iff : s.check = .error e ↔ s.FirstFault e := by
  rcases s.check_cases with ⟨hok, hnone⟩ | ⟨first, herror, hfirst⟩
  · rw [hok]
    exact iff_of_false nofun fun h => hnone e h.1
  · rw [herror, Except.error.injEq]
    constructor
    · rintro rfl
      exact hfirst
    · exact hfirst.unique

/-- **Sound settings**: a path, a name that is not blank, and no quotes. -/
theorem check_eq_ok_iff :
    s.check = .ok () ↔ NamespacePath s.runtimeNamespace.toList ∧
      Text.isBlankText s.toolName = false ∧ '"' ∉ s.toolName.toList ∧
      '"' ∉ s.toolVersion.toList := by
  rw [← forall_not_hasFault_iff]
  rcases s.check_cases with ⟨hok, hnone⟩ | ⟨first, herror, hfirst⟩
  · exact iff_of_true hok hnone
  · rw [herror]
    exact iff_of_false nofun fun hnone => hnone first hfirst.1

/-- A namespace that is no path is reported, whatever else is wrong. -/
theorem FirstFault.eq_invalid_iff (h : s.FirstFault e) :
    e = .invalidRuntimeNamespace s.runtimeNamespace ↔
      ¬ NamespacePath s.runtimeNamespace.toList := by
  constructor
  · rintro rfl
    obtain ⟨hpath⟩ := h.1
    exact hpath
  · intro hpath
    have hrank := h.2 _ (.badNamespace hpath)
    exact h.1.eq_of_rank (.badNamespace hpath) (Nat.le_zero.mp hrank)

/-- **How settings are judged.** They are accepted exactly if the namespace is a path of the grammar, the
tool has a name, and neither the name nor the version holds a quote. Otherwise the first fault is reported.
That is the namespace, as it is written, exactly if it is no path; and it is an error of the configuration
exactly if it is one. -/
theorem settings_judged (s : Settings) :
    (s.check = .ok () ↔ NamespacePath s.runtimeNamespace.toList ∧
      Text.isBlankText s.toolName = false ∧ '"' ∉ s.toolName.toList ∧
      '"' ∉ s.toolVersion.toList) ∧
    (∀ e, s.check = .error e ↔ s.FirstFault e) ∧
    ∀ e, s.check = .error e →
      (e = .invalidRuntimeNamespace s.runtimeNamespace ↔
        ¬ NamespacePath s.runtimeNamespace.toList) ∧
      (e.IsConfiguration ↔ NamespacePath s.runtimeNamespace.toList) := by
  refine ⟨check_eq_ok_iff, fun _ => check_eq_error_iff, fun e he => ?_⟩
  have hfirst := check_eq_error_iff.mp he
  refine ⟨hfirst.eq_invalid_iff, ?_⟩
  rw [SettingsError.isConfiguration_iff, ← not_iff_not, ← hfirst.eq_invalid_iff]
  constructor
  · intro hsome
    obtain ⟨name, hname⟩ := not_forall_not.mp hsome
    obtain ⟨⟩ | ⟨⟩ | ⟨⟩ := hfirst.1
    · rfl
    · cases hname
    · cases hname
  · rintro rfl hnone
    exact hnone _ rfl

/-- Settings that are wrong in every way. Two dots of the namespace stand side by side, the name is blank,
and the version holds a quote. -/
def faultySettings : Settings where
  runtimeNamespace := "Acme..Ids"
  toolName := " \t"
  toolVersion := "1\""

/-- With the namespace put right, the missing name is reported, and still not the quote. -/
theorem settings_judged_faulty :
    faultySettings.check = .error (.invalidRuntimeNamespace "Acme..Ids") ∧
      ¬ NamespacePath "Acme..Ids".toList ∧
      ({ faultySettings with runtimeNamespace := "Acme.Ids" } : Settings).check =
        .error .emptyToolName ∧
      SettingsError.emptyToolName.IsConfiguration ∧ NamespacePath "Acme.Ids".toList := by
  have hbad : faultySettings.check = .error (.invalidRuntimeNamespace "Acme..Ids") := by
    decide +kernel
  have hpath : NamespacePath "Acme.Ids".toList := isNamespacePath_iff.mp (by decide +kernel)
  have hmended : ({ faultySettings with runtimeNamespace := "Acme.Ids" } : Settings).check =
      .error .emptyToolName := by
    decide +kernel
  obtain ⟨-, -, hreported⟩ := settings_judged faultySettings
  obtain ⟨-, -, hreported'⟩ :=
    settings_judged { faultySettings with runtimeNamespace := "Acme.Ids" }
  exact ⟨hbad, (hreported _ hbad).1.mp rfl, hmended, (hreported' _ hmended).2.mpr hpath, hpath⟩

end Settings

end ValueObject
