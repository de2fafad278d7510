/-
# ValueObject.Proofs.SoundManifest -- what a sound manifest asks for

A sound manifest has a generator, and so it has an outcome for each of its declarations and a list of
units to write. Its declarations have distinct names, and a unit is filed under the name of its
declaration, so the units have distinct file names (`nodup_hintNames`).

Every declaration is accepted or counted as rejected (`length_accepted_add_rejectedCount`). What is
rejected has no part in the units: without it the manifest is still sound, and asks for the same units
(`units_acceptedOnly`).
-/

import Mathlib.Data.List.Nodup
import ValueObject.Command.Run
import ValueObject.Proofs.Acceptance

namespace ValueObject

/-! ## Names of sound manifests -/

namespace Manifest

/-- Names pass the check when none is blank, none has been seen and no two are the same. -/
theorem checkNames_eq_ok_iff {seen names : List String} :
    checkNames seen names = .ok () ↔
      (∀ name ∈ names, Text.isBlankText name = false ∧ name ∉ seen) ∧ names.Nodup := by
  induction names generalizing seen with
  | nil => simp [checkNames]
  | cons name rest ih =>
    rw [checkNames, List.nodup_cons, List.forall_mem_cons]
    by_cases hblank : Text.isBlankText name = true
    · simp [hblank]
    · by_cases hseen : name ∈ seen
      · simp [hblank, hseen]
      · rw [if_neg hblank, if_neg (by simpa using hseen), ih]
        grind

/-- **A manifest is sound** when its settings are, no name is blank, and no two are the same. -/
theorem check_eq_ok_iff {m : Manifest} :
    m.check = .ok () ↔
      m.settings.check = .ok () ∧ (∀ d ∈ m.declarations, Text.isBlankText d.name = false) ∧
        (m.declarations.map Declaration.name).Nodup := by
  unfold check
  cases hsettings : m.settings.check with
  | error cause => simp
  | ok => simp [checkNames_eq_ok_iff]

/-- **No two declarations of a sound manifest have the same name.** -/
theorem nodup_names {m : Manifest} (h : m.check = .ok ()) :
    (m.declarations.map Declaration.name).Nodup :=
  (check_eq_ok_iff.mp h).2.2

/-- The generator of a sound manifest. -/
def generator (m : Manifest) (h : m.check = .ok ()) : Generator where
  settings := m.settings
  sound := check_settings h

theorem ofSettings_settings {m : Manifest} (h : m.check = .ok ()) :
    Generator.ofSettings m.settings = .ok (m.generator h) :=
  Generator.ofSettings_settings (m.generator h)

/-- **The units that a sound manifest asks for.** -/
def units (m : Manifest) (h : m.check = .ok ()) : List GeneratedUnit :=
  Command.unitsOf (m.generator h) ((m.generator h).generateAll m.declarations)

/-- The declarations of a sound manifest that are accepted. -/
def accepted (m : Manifest) (h : m.check = .ok ()) : List Declaration :=
  m.declarations.filter fun d => ((m.generator h).generate d).isAccepted

end Manifest

/-! ## File names -/

/-- What the file name of a declaration adds to its name. -/
def unitSuffix : String := "_ValueObject.g.cs"

/-- A unit is filed under the name of its declaration. -/
theorem Generator.hintName_of_accepted {g : Generator} {d : Declaration} {u : GeneratedUnit}
    (h : g.generate d = .accepted u) : u.hintName = d.name ++ unitSuffix := by
  obtain ⟨a, -, rfl⟩ := generate_eq_accepted_iff.mp h
  rfl

theorem Generator.map_hintName_generateAll (g : Generator) (ds : List Declaration) :
    ((g.generateAll ds).filterMap Outcome.unit?).map GeneratedUnit.hintName =
      (ds.filter fun d => (g.generate d).isAccepted).map (·.name ++ unitSuffix) := by
  induction ds with
  | nil => rfl
  | cons d rest ih =>
    rw [generateAll] at ih ⊢
    rw [List.map_cons]
    cases hd : g.generate d with
    | accepted u =>
      have hkept : (g.generate d).isAccepted = true := by rw [hd]; rfl
      have hunit : (Outcome.accepted u).unit? = some u := rfl
      rw [List.filter_cons, if_pos hkept, List.filterMap_cons_some hunit, List.map_cons, List.map_cons,
        ih, hintName_of_accepted hd]
    | rejected diagnostics =>
      have hdropped : ¬ (g.generate d).isAccepted = true := by simp [hd, Outcome.isAccepted]
      have hunit : (Outcome.rejected diagnostics).unit? = none := rfl
      rw [List.filter_cons, if_neg hdropped, List.filterMap_cons_none hunit, ih]

/-- The file names of a manifest: those of the accepted declarations, and then that of the support
unit. -/
theorem Manifest.map_hintName_units {m : Manifest} (h : m.check = .ok ()) :
    (m.units h).map GeneratedUnit.hintName =
      (m.accepted h).map (·.name ++ unitSuffix) ++
        if m.settings.emitRuntime then [Source.Support.hintName] else [] := by
  rw [units, Command.unitsOf, List.map_append, Generator.map_hintName_generateAll]
  congr 1
  cases hsupport : m.settings.emitRuntime <;> simp [generator, hsupport, Generator.supportUnit]

/-- The support unit is filed under a name that no declaration can take. -/
theorem name_append_unitSuffix_ne_support (name : String) :
    name ++ unitSuffix ≠ Source.Support.hintName := by
  intro h
  have hsuffix : unitSuffix.toList <:+ Source.Support.hintName.toList :=
    ⟨name.toList, by rw [← String.toList_append, h]⟩
  revert hsuffix
  decide

/-- **The file names of a sound manifest are distinct.** -/
theorem Manifest.nodup_hintNames {m : Manifest} (h : m.check = .ok ()) :
    ((m.units h).map GeneratedUnit.hintName).Nodup := by
  have hnames : ((m.accepted h).map Declaration.name).Nodup :=
    (nodup_names h).sublist (List.filter_sublist.map _)
  have hfiles : ((m.accepted h).map (·.name ++ unitSuffix)).Nodup := by
    rw [List.nodup_iff_pairwise_ne, List.pairwise_map] at hnames ⊢
    exact hnames.imp fun hne heq => hne (by simpa using heq)
  rw [map_hintName_units, List.nodup_append]
  refine ⟨hfiles, by split <;> simp, ?_⟩
  intro a ha b hb
  obtain ⟨d, -, rfl⟩ := List.mem_map.mp ha
  split at hb
  · rw [List.mem_singleton.mp hb]
    exact name_append_unitSuffix_ne_support d.name
  · cases hb

/-! ## Accepted and rejected declarations -/

namespace Manifest

variable {m : Manifest} (h : m.check = .ok ())

/-- The outcomes of the declarations of a sound manifest, in order. -/
def outcomes (m : Manifest) (h : m.check = .ok ()) : List Outcome :=
  (m.generator h).generateAll m.declarations

theorem units_eq : m.units h = Command.unitsOf (m.generator h) (m.outcomes h) :=
  rfl

/-- The units of the declarations, without the support unit. -/
theorem filterMap_unit?_outcomes :
    (m.outcomes h).filterMap Outcome.unit? =
      m.declarations.filterMap fun d => ((m.generator h).generate d).unit? := by
  rw [outcomes, Generator.generateAll, List.filterMap_map]
  rfl

theorem rejectedCount_outcomes :
    Command.rejectedCount (m.outcomes h) =
      m.declarations.countP fun d => !((m.generator h).generate d).isAccepted := by
  rw [Command.rejectedCount, outcomes, Generator.generateAll, List.countP_map]
  rfl

/-- **Every declaration is accepted or counted as rejected.** -/
theorem length_accepted_add_rejectedCount :
    (m.accepted h).length + Command.rejectedCount (m.outcomes h) = m.declarations.length := by
  rw [rejectedCount_outcomes, accepted, ← List.countP_eq_length_filter]
  simpa using (List.length_eq_countP_add_countP _ (l := m.declarations)).symm

/-- The manifest without the declarations that are rejected. -/
def acceptedOnly (m : Manifest) (h : m.check = .ok ()) : Manifest :=
  { m with declarations := m.accepted h }

theorem check_acceptedOnly : (m.acceptedOnly h).check = .ok () := by
  obtain ⟨hsettings, hblank, hnames⟩ := check_eq_ok_iff.mp h
  refine check_eq_ok_iff.mpr ⟨hsettings, ?_, hnames.sublist (List.filter_sublist.map _)⟩
  intro d hd
  exact hblank d (List.mem_filter.mp hd).1

/-- Without the rejected declarations the outcomes are those that accept. -/
theorem outcomes_acceptedOnly :
    (m.acceptedOnly h).outcomes (check_acceptedOnly h) =
      (m.outcomes h).filter Outcome.isAccepted := by
  rw [outcomes, outcomes, Generator.generateAll, Generator.generateAll, List.filter_map]
  rfl

/-- **What is rejected has no part in the units.** -/
theorem units_acceptedOnly : (m.acceptedOnly h).units (check_acceptedOnly h) = m.units h := by
  have hunits : ((m.outcomes h).filter Outcome.isAccepted).filterMap Outcome.unit? =
      (m.outcomes h).filterMap Outcome.unit? := by
    rw [List.filterMap_filter]
    refine List.filterMap_congr fun o _ => ?_
    cases o <;> rfl
  rw [units_eq, units_eq, outcomes_acceptedOnly, Command.unitsOf, Command.unitsOf, hunits]
  rfl

/-- What accepts is not reported. -/
theorem report_eq_empty {outcomes : List Outcome} (haccepted : ∀ o ∈ outcomes, o.isAccepted = true) :
    Command.report outcomes = "" := by
  have hnone : outcomes.flatMap Outcome.diagnostics = [] := by
    rw [List.flatMap_eq_nil_iff]
    intro o ho
    obtain ⟨u, rfl⟩ := Outcome.isAccepted_iff.mp (haccepted o ho)
    rfl
  rw [Command.report, hnone]
  rfl

end Manifest

end ValueObject
