/-
# ValueObject.Proofs.ManifestFaults -- which fault of a manifest is reported

A manifest has one file for each name, so no name may be blank and none may occur twice. The names are
checked in one pass that keeps those it has passed. `NameFault` says without the pass what is wrong with
the name at a place, and the pass reports the fault at the first place that has one
(`checkNames_eq_error_iff`).

The settings come before the names, and overrides reach the settings only. Together this decides every
manifest (`check_decided`).
-/

import Mathlib.Order.Basic
import ValueObject.Proofs.SoundManifest

namespace ValueObject.Manifest

/-! ## Faults of names -/

/-- **What is wrong with the name at a place.** A blank name is not called a duplicate, even if it is
one. Names are compared as they are written. -/
inductive NameFault (names : List String) (i : Nat) : ManifestError → Prop
  | blank {name : String} : names[i]? = some name → Text.isBlankText name = true →
      NameFault names i .blankName
  | duplicate {name : String} {j : Nat} : names[i]? = some name → Text.isBlankText name = false →
      j < i → names[j]? = some name → NameFault names i (.duplicate name)

/-- **The first fault of names**: the one at the smallest place that has one. -/
def FirstFault (names : List String) (e : ManifestError) : Prop :=
  ∃ i, NameFault names i e ∧ ∀ j < i, ∀ e', ¬ NameFault names j e'

variable {names : List String} {e e' : ManifestError}

theorem NameFault.lt_length {i : Nat} (h : NameFault names i e) : i < names.length := by
  cases h with
  | blank hname => exact (List.getElem?_eq_some_iff.mp hname).1
  | duplicate hname => exact (List.getElem?_eq_some_iff.mp hname).1

/-- At one place there is one fault at most. -/
theorem NameFault.unique {i : Nat} (h : NameFault names i e) (h' : NameFault names i e') :
    e = e' := by
  cases h with
  | blank hname hblank =>
    cases h' with
    | blank => rfl
    | duplicate hname' hblank' =>
      obtain rfl := Option.some.inj (hname.symm.trans hname')
      simp [hblank] at hblank'
  | duplicate hname hblank =>
    cases h' with
    | blank hname' hblank' =>
      obtain rfl := Option.some.inj (hname.symm.trans hname')
      simp [hblank] at hblank'
    | duplicate hname' =>
      rw [Option.some.inj (hname.symm.trans hname')]

/-- So there is one first fault at most. -/
theorem FirstFault.unique (h : FirstFault names e) (h' : FirstFault names e') : e = e' := by
  obtain ⟨i, hi, hnone⟩ := h
  obtain ⟨i', hi', hnone'⟩ := h'
  rcases lt_trichotomy i i' with hlt | rfl | hlt
  · exact absurd hi (hnone' i hlt e)
  · exact hi.unique hi'
  · exact absurd hi' (hnone i' hlt e')

/-! ## The pass over the names -/

section

variable {seen before rest : List String} {name : String}

/-- What the next name can have wrong with it. -/
theorem nameFault_next_iff (hseen : ∀ x, x ∈ seen ↔ x ∈ before) :
    NameFault (before ++ name :: rest) before.length e ↔
      (Text.isBlankText name = true ∧ e = .blankName) ∨
      (Text.isBlankText name = false ∧ name ∈ seen ∧ e = .duplicate name) := by
  have hnext : (before ++ name :: rest)[before.length]? = some name := by simp
  constructor
  · rintro (⟨hname, hblank⟩ | ⟨hname, hblank, hj, hearlier⟩)
    · obtain rfl := Option.some.inj (hnext.symm.trans hname)
      exact .inl ⟨hblank, rfl⟩
    · obtain rfl := Option.some.inj (hnext.symm.trans hname)
      rw [List.getElem?_append_left hj] at hearlier
      exact .inr ⟨hblank, (hseen _).mpr (List.mem_of_getElem? hearlier), rfl⟩
  · rintro (⟨hblank, rfl⟩ | ⟨hblank, hmem, rfl⟩)
    · exact .blank hnext hblank
    · obtain ⟨j, hj, hearlier⟩ := List.getElem_of_mem ((hseen _).mp hmem)
      refine .duplicate hnext hblank hj ?_
      rw [List.getElem?_append_left hj, List.getElem?_eq_getElem hj, hearlier]

/-- **The pass goes on to the first fault** of all names, provided that those before have none. -/
theorem checkNames_eq_error_iff_of_append (hseen : ∀ x, x ∈ seen ↔ x ∈ before)
    (hbefore : ∀ j < before.length, ∀ e', ¬ NameFault (before ++ rest) j e') :
    checkNames seen rest = .error e ↔ FirstFault (before ++ rest) e := by
  -- each name that passes joins the names before
  induction rest generalizing seen before with
  | nil =>
    refine iff_of_false (by simp [checkNames]) ?_
    rintro ⟨i, hfault, -⟩
    have hi : i < before.length := by simpa using hfault.lt_length
    exact hbefore i hi e hfault
  | cons name rest ih =>
    have hfirst {cause : ManifestError}
        (hfault : NameFault (before ++ name :: rest) before.length cause) :
        (.error cause : Except ManifestError Unit) = .error e ↔
          FirstFault (before ++ name :: rest) e := by
      have hcause : FirstFault (before ++ name :: rest) cause := ⟨_, hfault, hbefore⟩
      constructor
      · intro h
        cases h
        exact hcause
      · intro h
        rw [hcause.unique h]
    rw [checkNames]
    by_cases hblank : Text.isBlankText name = true
    · rw [if_pos hblank]
      exact hfirst ((nameFault_next_iff hseen).mpr (.inl ⟨hblank, rfl⟩))
    · rw [if_neg hblank]
      rw [Bool.not_eq_true] at hblank
      by_cases hmem : name ∈ seen
      · rw [if_pos (List.contains_iff_mem.mpr hmem)]
        exact hfirst ((nameFault_next_iff hseen).mpr (.inr ⟨hblank, hmem, rfl⟩))
      · have hnext : ∀ x, x ∈ name :: seen ↔ x ∈ before ++ [name] := by
          intro x
          rw [List.mem_cons, hseen]
          grind
        have hpassed : ∀ j < (before ++ [name]).length, ∀ e',
            ¬ NameFault (before ++ [name] ++ rest) j e' := by
          intro j hj e' hfault
          rw [List.length_append, List.length_singleton, Nat.lt_succ_iff_lt_or_eq] at hj
          rw [List.append_assoc, List.singleton_append] at hfault
          rcases hj with hj | rfl
          · exact hbefore j hj e' hfault
          · rcases (nameFault_next_iff hseen).mp hfault with ⟨hblank', -⟩ | ⟨-, hmem', -⟩
            · simp [hblank] at hblank'
            · exact hmem hmem'
        rw [if_neg (by simpa using hmem), ih hnext hpassed, List.append_assoc,
          List.singleton_append]

/-- **The check of names reports their first fault.** -/
theorem checkNames_eq_error_iff : checkNames [] names = .error e ↔ FirstFault names e :=
  checkNames_eq_error_iff_of_append (fun _ => Iff.rfl) (by simp)

end

/-! ## The check of a manifest -/

/-- The settings are what stops a manifest exactly if they are not sound. -/
theorem check_eq_settings_iff {m : Manifest} {cause : SettingsError} :
    m.check = .error (.settings cause) ↔ m.settings.check = .error cause := by
  unfold check
  cases hsettings : m.settings.check with
  | error cause' => simp
  | ok =>
    -- no name has a fault of the settings
    refine iff_of_false ?_ (by simp)
    rw [checkNames_eq_error_iff]
    rintro ⟨i, hfault, -⟩
    cases hfault

/-- **What a manifest is stopped by**: its settings, or the first fault of its names. -/
theorem check_eq_error_iff {m : Manifest} :
    m.check = .error e ↔
      (∃ cause, m.settings.check = .error cause ∧ e = .settings cause) ∨
      (m.settings.check = .ok () ∧ FirstFault (m.declarations.map Declaration.name) e) := by
  cases hsettings : m.settings.check with
  | error cause =>
    rw [check_eq_settings_iff.mpr hsettings]
    simp [eq_comm]
  | ok =>
    have hnames : m.check = checkNames [] (m.declarations.map Declaration.name) := by
      rw [check, hsettings]
    rw [hnames, checkNames_eq_error_iff]
    simp

theorem override_override (m : Manifest) (o : Settings.Overrides) :
    (m.override o).override o = m.override o := by
  have hsettings : (m.settings.override o).override o = m.settings.override o := by
    cases hname : o.runtimeNamespace <;> simp [Settings.override, hname]
  rw [override, override, hsettings]

/-- **How a manifest is decided.** It is sound if its settings are, no name is blank and no two are the
same. Otherwise the settings are reported if they are not sound, and else the first fault of the names.
With overrides in force the report about the settings depends on the overridden settings only, and to put
the same overrides in force again changes nothing. -/
theorem check_decided (m : Manifest) :
    (m.check = .ok () ↔
      m.settings.check = .ok () ∧ (∀ d ∈ m.declarations, Text.isBlankText d.name = false) ∧
        (m.declarations.map Declaration.name).Nodup) ∧
    (∀ e, m.check = .error e ↔
      (∃ cause, m.settings.check = .error cause ∧ e = .settings cause) ∨
      (m.settings.check = .ok () ∧ FirstFault (m.declarations.map Declaration.name) e)) ∧
    (∀ o cause, (m.override o).check = .error (.settings cause) ↔
      (m.settings.override o).check = .error cause) ∧
    ∀ o, (m.override o).override o = m.override o :=
  ⟨check_eq_ok_iff, fun _ => check_eq_error_iff, fun _ _ => check_eq_settings_iff,
    m.override_override⟩

/-- A manifest whose settings are not sound. Of its names two are the same and two are blank, and one is
the same as another only once it is trimmed. -/
def ledgerManifest : Manifest where
  settings := { runtimeNamespace := "1st" }
  declarations := ["Id", "Id ", "Id", "\t", "\t"].map fun name => .ofSingle name (some "int")

/-- Once the settings are overridden, the third name is what is reported. -/
theorem check_decided_ledger :
    ledgerManifest.check = .error (.settings (.invalidRuntimeNamespace "1st")) ∧
      (ledgerManifest.override { runtimeNamespace := some "Acme" }).check =
        .error (.duplicate "Id") ∧
      FirstFault ["Id", "Id ", "Id", "\t", "\t"] (.duplicate "Id") := by
  have hsettings : ledgerManifest.settings.check = .error (.invalidRuntimeNamespace "1st") := by
    decide +kernel
  have hcheck : (ledgerManifest.override { runtimeNamespace := some "Acme" }).check =
      .error (.duplicate "Id") := by
    decide +kernel
  obtain ⟨-, herror, -, -⟩ := check_decided ledgerManifest
  obtain ⟨-, herror', -, -⟩ :=
    check_decided (ledgerManifest.override { runtimeNamespace := some "Acme" })
  refine ⟨(herror _).mpr (.inl ⟨_, hsettings, rfl⟩), hcheck, ?_⟩
  obtain ⟨_, -, hcause⟩ | ⟨-, hfirst⟩ := (herror' _).mp hcheck
  · cases hcause
  · exact hfirst

end ValueObject.Manifest
