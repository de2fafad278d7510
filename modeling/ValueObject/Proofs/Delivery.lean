/-
# ValueObject.Proofs.Delivery -- the files that a manifest is generated into

The units of a sound manifest have distinct file names (`nodup_hintNames`). That is not yet a file each:
a name is joined to the folder as a path, and nothing keeps slashes out of it.

A run that writes every unit is a chain of writes, each at a place of its own or of an earlier one
(`Lands`). Whatever the names are, a path leads afterwards to the place that was written through it,
and the file there holds what was last written at that place. Where no accepted name holds a slash, each
place is one step below the folder, under the file name of the unit, and the files are distinct
(`delivered_directly`). The names `Id` and `./Id` are distinct too, and share one file
(`overwritten`).
-/

import ValueObject.Proofs.Command.Runs
import ValueObject.Proofs.Disk.PathParts
import ValueObject.Proofs.Disk.Writing

namespace ValueObject

open Disk

/-! ## Runs of writes -/

namespace Command

/-- **Units are written one after the other**, each at a place. -/
inductive Lands (output : String) : Disk → List GeneratedUnit → List (List String) → Disk → Prop
  | nil (d : Disk) : Lands output d [] [] d
  | cons {d d' : Disk} {u : GeneratedUnit} {rest : List GeneratedUnit} {place : List String}
      {last : String} {places : List (List String)} :
      d.Target (u.pathIn output) place last →
      Lands output (d.withFileAt (place ++ [last]) u.source) rest places d' →
      Lands output d (u :: rest) ((place ++ [last]) :: places) d'

/-- **Every write that succeeds on a disk** is a write at a place. -/
theorem exists_lands_of_writes {output : String} {units : List GeneratedUnit} {before after : Disk}
    (h : Writes Disk.storage output before units after) :
    ∃ places, Lands output before units places after := by
  induction h with
  | nil d => exact ⟨[], .nil d⟩
  | cons hwrite _ ih =>
    obtain ⟨place, last, htarget, rfl⟩ := target_of_write hwrite
    obtain ⟨places, hlands⟩ := ih
    exact ⟨_, .cons htarget hlands⟩

/-- A manifest that is delivered without a failure has all its units written. -/
theorem lands_of_deliver {m : Manifest} (hcheck : m.check = .ok ()) {output : String}
    {before after : Disk} {delivery : Delivery} {paths : List String} {rejected : Nat}
    (h : (deliver Disk.storage output m).run before = (delivery, after))
    (hok : delivery.result = .ok (paths, rejected)) :
    paths = (m.units hcheck).map (·.pathIn output) ∧
      ∃ made places, Lands output made (m.units hcheck) places after := by
  obtain ⟨-, hpaths, -, made, -, hwrites⟩ := (run_deliver_eq_ok_iff hcheck).mp ⟨h, hok⟩
  exact ⟨hpaths, made, exists_lands_of_writes hwrites⟩

namespace Lands

variable {output : String} {before after : Disk} {units : List GeneratedUnit}
  {places : List (List String)}

/-- **What stood before a run of writes** stands after it, unless something was written in its place:
then the path leads to what was written there last. -/
theorem standing (h : Lands output before units places after) {path c : String} {q : List String}
    (hq : before.Stands path q c) :
    after.Stands path q c ∨ ∃ v, (v, q) ∈ units.zip places ∧ after.Stands path q v.source := by
  induction h generalizing c with
  | nil d => exact .inl hq
  | @cons d d' u rest place last places htarget _ ih =>
    by_cases hplace : q = place ++ [last]
    · subst hplace
      rcases ih (htarget.replacesStanding u.source hq) with hkept | ⟨v, hv, hstands⟩
      · exact .inr ⟨u, by simp, hkept⟩
      · exact .inr ⟨v, List.mem_cons_of_mem _ hv, hstands⟩
    · rcases ih (htarget.keepsStanding u.source hq hplace) with hkept | ⟨v, hv, hstands⟩
      · exact .inl hkept
      · exact .inr ⟨v, List.mem_cons_of_mem _ hv, hstands⟩

/-- **After a run of writes the path of every unit leads to the place where it was written.** The file
there is some unit that was written at this place. -/
theorem stands (h : Lands output before units places after) {u : GeneratedUnit}
    {place : List String} (hu : (u, place) ∈ units.zip places) :
    ∃ v, (v, place) ∈ units.zip places ∧ after.Stands (u.pathIn output) place v.source := by
  induction h with
  | nil d => cases hu
  | @cons d d' w rest around last places htarget hrest ih =>
    rw [List.zip_cons_cons, List.mem_cons] at hu
    rcases hu with hhead | hu
    · obtain ⟨rfl, rfl⟩ := Prod.mk.inj hhead
      rcases hrest.standing (htarget.stands u.source) with hkept | ⟨v, hv, hstands⟩
      · exact ⟨u, by simp, hkept⟩
      · exact ⟨v, List.mem_cons_of_mem _ hv, hstands⟩
    · obtain ⟨v, hv, hstands⟩ := ih hu
      exact ⟨v, List.mem_cons_of_mem _ hv, hstands⟩

theorem length_eq (h : Lands output before units places after) : places.length = units.length := by
  induction h with
  | nil d => rfl
  | cons _ _ ih => simp [ih]

end Lands

end Command

/-! ## Files directly in a folder -/

/-- The path leads to the place. -/
def Disk.LeadsTo (d : Disk) (path : String) (place : List String) : Prop :=
  follow d.root (d.start path) (Path.parts path) = .ok place

/-- **A name without a slash stands one step below the folder.** -/
theorem Disk.Stands.below {d : Disk} {folder name c : String} {place : List String}
    (h : d.Stands (Path.join folder name) place c) (hslash : '/' ∉ name.toList)
    (hempty : name ≠ "") (hdot : name ≠ ".") (hdots : name ≠ "..") :
    ∃ around, d.LeadsTo folder around ∧ place = around ++ [name] := by
  obtain ⟨-, hfollow, -⟩ := (resolve_eq_ok_of_file h.2).mp h.1
  have hstart : d.start (Path.join folder name) = d.start folder := by
    rw [start, start, Path.isAbsolute_join folder hslash]
  rw [hstart, Path.parts_join folder hempty hslash, follow_append_eq_ok_iff] at hfollow
  obtain ⟨around, haround, hlast⟩ := hfollow
  obtain ⟨next, hleads, hnext⟩ := follow_cons_eq_ok_iff.mp hlast
  obtain rfl : next = place := by simpa [follow] using hnext
  refine ⟨around, haround, ?_⟩
  cases hleads with
  | here => exact absurd rfl hdot
  | around => exact absurd rfl hdots
  | into => rfl

namespace Manifest

variable {m : Manifest} (h : m.check = .ok ())

/-- A unit is filed under the name of an accepted declaration, or it is the support unit. -/
theorem hintName_cases {u : GeneratedUnit} (hu : u ∈ m.units h) :
    (∃ d ∈ m.accepted h, u.hintName = d.name ++ unitSuffix) ∨
      u.hintName = Source.Support.hintName := by
  have hmem := List.mem_map_of_mem (f := GeneratedUnit.hintName) hu
  rw [map_hintName_units, List.mem_append, List.mem_map] at hmem
  rcases hmem with ⟨d, hd, hname⟩ | hsupport
  · exact .inl ⟨d, hd, hname.symm⟩
  · right
    split at hsupport
    · exact List.mem_singleton.mp hsupport
    · cases hsupport

theorem exists_unit_of_accepted {d : Declaration} (hd : d ∈ m.accepted h) :
    ∃ u ∈ m.units h, u.hintName = d.name ++ unitSuffix := by
  have hmem : d.name ++ unitSuffix ∈ (m.units h).map GeneratedUnit.hintName := by
    rw [map_hintName_units, List.mem_append]
    exact .inl (List.mem_map.mpr ⟨d, hd, rfl⟩)
  exact List.mem_map.mp hmem

/-- No file name of a unit is short enough to be empty, `.` or `..`. -/
theorem two_lt_length_hintName {u : GeneratedUnit} (hu : u ∈ m.units h) :
    2 < u.hintName.toList.length := by
  rcases hintName_cases h hu with ⟨d, -, hname⟩ | hname
  · have hlength : unitSuffix.toList.length = 17 := by decide
    rw [hname, String.toList_append, List.length_append, hlength]
    omega
  · rw [hname]
    decide

/-- **A slash in a file name** comes from the name of an accepted declaration. -/
theorem slash_not_mem_hintName_iff :
    (∀ u ∈ m.units h, '/' ∉ u.hintName.toList) ↔ ∀ d ∈ m.accepted h, '/' ∉ d.name.toList := by
  have hsuffix : '/' ∉ unitSuffix.toList := by decide
  have hsupport : '/' ∉ Source.Support.hintName.toList := by decide
  constructor
  · intro hunits d hd
    obtain ⟨u, hu, hname⟩ := exists_unit_of_accepted h hd
    have hplain := hunits u hu
    rw [hname, String.toList_append, List.mem_append, not_or] at hplain
    exact hplain.1
  · intro hnames u hu
    rcases hintName_cases h hu with ⟨d, hd, hname⟩ | hname
    · rw [hname, String.toList_append, List.mem_append, not_or]
      exact ⟨hnames d hd, hsuffix⟩
    · rwa [hname]

end Manifest

/-- **Every unit has a file of its own directly in a folder**: its path leads to the place one step
below the folder, the file there is the unit, and no two units have the same place. -/
structure Delivered (d : Disk) (output : String) (folder : List String)
    (units : List GeneratedUnit) : Prop where
  stands : ∀ u ∈ units, d.LeadsTo output folder ∧
    d.Stands (u.pathIn output) (folder ++ [u.hintName]) u.source
  apart : (units.map fun u => folder ++ [u.hintName]).Nodup

namespace Command.Lands

variable {m : Manifest} {hcheck : m.check = .ok ()} {output : String} {made after : Disk}
  {places : List (List String)}

/-- Where no name holds a slash, every place is one step below one folder. -/
theorem exists_folder (h : Lands output made (m.units hcheck) places after)
    (hslash : ∀ d ∈ m.accepted hcheck, '/' ∉ d.name.toList) :
    ∃ folder, ∀ w ∈ (m.units hcheck).zip places,
      after.LeadsTo output folder ∧ w.2 = folder ++ [w.1.hintName] := by
  have hbelow : ∀ w ∈ (m.units hcheck).zip places,
      ∃ around, after.LeadsTo output around ∧ w.2 = around ++ [w.1.hintName] := by
    intro w hw
    have hunit := (List.of_mem_zip hw).1
    have hlong := Manifest.two_lt_length_hintName hcheck hunit
    obtain ⟨v, -, hstands⟩ := h.stands hw
    apply hstands.below ((Manifest.slash_not_mem_hintName_iff hcheck).mpr hslash _ hunit)
    all_goals
      intro hshort
      rw [hshort] at hlong
      revert hlong
      decide
  rcases hzip : (m.units hcheck).zip places with _ | ⟨w, ws⟩
  · exact ⟨[], by simp⟩
  · obtain ⟨folder, hfolder, -⟩ := hbelow w (by simp [hzip])
    refine ⟨folder, fun v hv => ?_⟩
    obtain ⟨around, haround, hplace⟩ := hbelow v (hzip ▸ hv)
    -- the path of the folder leads to one place only
    obtain rfl : around = folder := Except.ok.inj (haround.symm.trans hfolder)
    exact ⟨haround, hplace⟩

/-- **Where no name holds a slash, every unit has a file of its own.** -/
theorem exists_delivered (h : Lands output made (m.units hcheck) places after)
    (hslash : ∀ d ∈ m.accepted hcheck, '/' ∉ d.name.toList) :
    ∃ folder, Delivered after output folder (m.units hcheck) := by
  obtain ⟨folder, hfolder⟩ := h.exists_folder hslash
  have hapart : ((m.units hcheck).map fun u => folder ++ [u.hintName]).Nodup := by
    have hnames := Manifest.nodup_hintNames hcheck
    rw [List.nodup_iff_pairwise_ne, List.pairwise_map] at hnames ⊢
    exact hnames.imp fun hne heq => hne (by simpa using heq)
  refine ⟨folder, ?_, hapart⟩
  intro u hu
  obtain ⟨place, hw⟩ : ∃ place, (u, place) ∈ (m.units hcheck).zip places := by
    have hfst : u ∈ ((m.units hcheck).zip places).map Prod.fst := by
      rwa [List.map_fst_zip (Nat.le_of_eq h.length_eq.symm)]
    simpa using hfst
  obtain ⟨hleads, hplace⟩ := hfolder _ hw
  obtain ⟨v, hv, hstands⟩ := h.stands hw
  -- the unit that stands at the place has the same file name, so it is the same unit
  have hname : v.hintName = u.hintName := by
    have hsame := hplace.symm.trans (hfolder _ hv).2
    simpa using hsame.symm
  obtain rfl : v = u :=
    List.inj_on_of_nodup_map (Manifest.nodup_hintNames hcheck) (List.of_mem_zip hv).1 hu hname
  exact ⟨hleads, hplace ▸ hstands⟩

end Command.Lands

/-! ## Delivered manifests -/

/-- **What generating a sound manifest into a folder leaves on the disk**, if no write fails. The paths
given are those of the units. Whatever the names are, each path leads to a place where one of the units
written there stands. The paths are those of files in the folder itself exactly if no accepted name
holds a slash, and then every unit has a file of its own directly in the folder. -/
theorem delivered_directly {m : Manifest} (hcheck : m.check = .ok ()) {output : String}
    {before after : Disk} {delivery : Command.Delivery} {paths : List String} {rejected : Nat}
    (hrun : (Command.deliver Disk.storage output m).run before = (delivery, after))
    (hok : delivery.result = .ok (paths, rejected)) :
    paths = (m.units hcheck).map (·.pathIn output) ∧
    (∃ places, places.length = (m.units hcheck).length ∧
      ∀ w ∈ (m.units hcheck).zip places, ∃ v, (v, w.2) ∈ (m.units hcheck).zip places ∧
        after.Stands (w.1.pathIn output) w.2 v.source) ∧
    ((∀ u ∈ m.units hcheck, Path.parts (u.pathIn output) = Path.parts output ++ [u.hintName]) ↔
      ∀ d ∈ m.accepted hcheck, '/' ∉ d.name.toList) ∧
    ((∀ d ∈ m.accepted hcheck, '/' ∉ d.name.toList) →
      ∃ folder, Delivered after output folder (m.units hcheck)) := by
  obtain ⟨hpaths, made, places, hlands⟩ := Command.lands_of_deliver hcheck hrun hok
  refine ⟨hpaths, ⟨places, hlands.length_eq, fun w hw => hlands.stands hw⟩, ?_,
    hlands.exists_delivered⟩
  rw [← Manifest.slash_not_mem_hintName_iff hcheck]
  refine forall₂_congr fun u hu => Path.parts_join_iff output ?_
  intro hempty
  have hlong := Manifest.two_lt_length_hintName hcheck hu
  rw [hempty] at hlong
  cases hlong

/-- Scales of temperature with the given names. -/
def scalesOf (names : List String) : Manifest where
  declarations := names.map fun name =>
    { name, namespaceName := some "Units", usage := .single (some "double") [] }

/-- The scales are generated into `out`, from an empty folder. -/
def deliveredScales (names : List String) : Command.Delivery × Disk :=
  (Command.deliver Disk.storage "out" (scalesOf names)).run (.blank ["work"])

theorem delivered_directly_scales :
    ∃ (h : (scalesOf ["Celsius", "Kelvin"]).check = .ok ()) (folder : List String),
      Delivered (deliveredScales ["Celsius", "Kelvin"]).2 "out" folder
        ((scalesOf ["Celsius", "Kelvin"]).units h) := by
  have hcheck : (scalesOf ["Celsius", "Kelvin"]).check = .ok () := by decide +kernel
  have hresult : (deliveredScales ["Celsius", "Kelvin"]).1.result =
      .ok (["out/Celsius_ValueObject.g.cs", "out/Kelvin_ValueObject.g.cs"], 0) := by decide +kernel
  have hplain : ∀ d ∈ (scalesOf ["Celsius", "Kelvin"]).declarations, '/' ∉ d.name.toList := by
    decide
  have hrun : deliveredScales ["Celsius", "Kelvin"] =
      ((deliveredScales ["Celsius", "Kelvin"]).1, (deliveredScales ["Celsius", "Kelvin"]).2) :=
    (Prod.eta _).symm
  obtain ⟨-, -, -, hdelivered⟩ := delivered_directly hcheck hrun hresult
  exact ⟨hcheck, hdelivered fun d hd => hplain d (List.mem_filter.mp hd).1⟩

/-- The names are distinct, and every unit is written without a failure. Two of the three units are
written to one file, where the second stands, and the third is written outside `out`. -/
theorem overwritten :
    (scalesOf ["Id", "./Id", "../Id"]).check = .ok () ∧
      (deliveredScales ["Id", "./Id", "../Id"]).1.result =
        .ok (["out/Id_ValueObject.g.cs", "out/./Id_ValueObject.g.cs",
          "out/../Id_ValueObject.g.cs"], 0) ∧
      (deliveredScales ["Id", "./Id", "../Id"]).2.files.map Prod.fst =
        ["out/Id_ValueObject.g.cs", "Id_ValueObject.g.cs"] := by
  decide +kernel

end ValueObject
