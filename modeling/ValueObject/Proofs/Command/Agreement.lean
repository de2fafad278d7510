/-
# ValueObject.Proofs.Command.Agreement -- checking a manifest and generating it

`check` and `generate` begin alike and end alike; in between only `generate` writes. Where its writes
succeed, the two cannot be told apart by their exit codes or by what they print on the error stream,
whatever the manifest is (`check_agrees_with_generate`). So a manifest can be checked instead.
-/

import ValueObject.Proofs.Command.Account

namespace ValueObject.Command

/-- **Two outcomes end alike**, by what was read of a manifest: both are failures for one fault of the
manifest, or both report what became of its declarations. -/
inductive EndAlike (path : String) (read : Except DiskError String) : Outcome → Outcome → Prop
  | fault {f : Failure} {o o' : Outcome} :
      ManifestFault path {} read f → FailsWith f o → FailsWith f o' → EndAlike path read o o'
  | reported {m : Manifest} {o o' : Outcome} (hcheck : m.check = .ok ()) :
      manifestOf path {} read = .ok m →
      Reports (m.outcomes hcheck) o → Reports (m.outcomes hcheck) o' → EndAlike path read o o'

namespace EndAlike

variable {path : String} {read : Except DiskError String} {o o' : Outcome}

theorem exit_eq (h : EndAlike path read o o') : o.exit = o'.exit := by
  cases h with
  | fault _ hfails hfails' => exact hfails.exit_eq.trans hfails'.exit_eq.symm
  | reported _ _ hreports hreports' => exact hreports.exit_eq.trans hreports'.exit_eq.symm

theorem stderr_eq (h : EndAlike path read o o') : o.stderr = o'.stderr := by
  cases h with
  | fault _ hfails hfails' => exact hfails.stderr_eq.trans hfails'.stderr_eq.symm
  | reported _ _ hreports hreports' => exact hreports.stderr_eq.trans hreports'.stderr_eq.symm

end EndAlike

variable {σ : Type} {storage : Storage (StateM σ)} {manifest : Option String} {output : String}
  {read : Except DiskError String} {start before s s' : σ} {checked generated : Outcome}

/-- A manifest that does not pass ends both commands for the same fault. -/
theorem endAlike_of_fault {f : Failure}
    (hchecked : (runCheck storage manifest).run start = (checked, s))
    (hgenerated : (runGenerate storage output manifest {}).run start = (generated, s'))
    (hread : (storage.read (manifest.getD defaultManifest)).run start = (read, before))
    (hfault : ManifestFault (manifest.getD defaultManifest) {} read f) :
    EndAlike (manifest.getD defaultManifest) read checked generated := by
  obtain ⟨said, hrun⟩ := run_runCheck_of_fault hread hfault
  obtain ⟨rfl, -⟩ := Prod.mk.inj (hchecked.symm.trans hrun)
  obtain ⟨rfl, -⟩ := Prod.mk.inj (hgenerated.symm.trans (run_runGenerate_of_fault hread hfault))
  exact .fault hfault (failsWith_fail said f) (failsWith_fail [] f)

/-- A manifest that passes is reported by both commands, if its units can be written. -/
theorem endAlike_of_fills {m : Manifest} {after : σ}
    (hchecked : (runCheck storage manifest).run start = (checked, s))
    (hgenerated : (runGenerate storage output manifest {}).run start = (generated, s'))
    (hread : (storage.read (manifest.getD defaultManifest)).run start = (read, before))
    (hmanifest : manifestOf (manifest.getD defaultManifest) {} read = .ok m)
    (hcheck : m.check = .ok ()) (hfills : Fills storage output before (m.units hcheck) after) :
    EndAlike (manifest.getD defaultManifest) read checked generated := by
  obtain ⟨o, hrun, hreports⟩ := run_runCheck_of_manifestOf hread hmanifest hcheck
  obtain ⟨rfl, -⟩ := Prod.mk.inj (hchecked.symm.trans hrun)
  obtain ⟨o', hrun', hreports'⟩ := run_runGenerate_of_fills hread hmanifest hcheck hfills
  obtain ⟨rfl, -⟩ := Prod.mk.inj (hgenerated.symm.trans hrun')
  exact .reported hcheck hmanifest hreports hreports'

/-- **`check` and `generate` agree on every manifest.** Both fail for the same fault of the manifest, or
both report the same outcomes: the same diagnostics, and then success or the same number of rejected
declarations. The commands start in one state; nothing else is asked of the storage than that it takes
the units of the manifest, if there are any to write. -/
theorem check_agrees_with_generate
    (hchecked : (run storage (.check manifest)).run start = (checked, s))
    (hgenerated : (run storage (.generate output manifest {})).run start = (generated, s'))
    (hread : (storage.read (manifest.getD defaultManifest)).run start = (read, before))
    (hfills : ∀ m (hcheck : m.check = .ok ()),
      manifestOf (manifest.getD defaultManifest) {} read = .ok m →
      ∃ after, Fills storage output before (m.units hcheck) after) :
    EndAlike (manifest.getD defaultManifest) read checked generated ∧
      checked.exit = generated.exit ∧ checked.stderr = generated.stderr := by
  have halike : EndAlike (manifest.getD defaultManifest) read checked generated := by
    cases hmanifest : manifestOf (manifest.getD defaultManifest) {} read with
    | error f =>
      exact endAlike_of_fault hchecked hgenerated hread (manifestOf_eq_error_iff.mp hmanifest)
    | ok m =>
      have hcheck := check_of_manifestOf hmanifest
      obtain ⟨after, hfilled⟩ := hfills m hcheck hmanifest
      exact endAlike_of_fills hchecked hgenerated hread hmanifest hcheck hfilled
  exact ⟨halike, halike.exit_eq, halike.stderr_eq⟩

/-- Two declarations over one value, of which the second has no namespace. -/
def ageAndMass : Manifest where
  declarations := [
    { name := "Age", namespaceName := some "People", usage := .single (some "int") [] },
    { name := "Mass", usage := .single none [] }]

/-- A folder to work in, with that manifest in it. -/
def diskWithAgeAndMass : Disk :=
  (Disk.blank ["work"]).withFile "units.json" <|
    "\x7b\"declaration\":[\x7b\"name\":\"Age\",\"namespace\":\"People\"," ++
      "\"attribute\":\x7b\"value_object\":\x7b\"datatype\":\"int\"\x7d\x7d\x7d," ++
      "\x7b\"name\":\"Mass\",\"attribute\":\x7b\"value_object\":\x7b\x7d\x7d\x7d]\x7d"

theorem check_agrees_with_generate_ageAndMass :
    EndAlike "units.json" (diskWithAgeAndMass.read "units.json")
      ((run Disk.storage (.check (some "units.json"))).run diskWithAgeAndMass).1
      ((run Disk.storage (.generate "out" (some "units.json") {})).run diskWithAgeAndMass).1 := by
  have hmanifest : manifestOf "units.json" {} (diskWithAgeAndMass.read "units.json") =
      .ok ageAndMass := by
    decide +kernel
  have hresult : ((deliver Disk.storage "out" ageAndMass).run diskWithAgeAndMass).1.result =
      .ok (["out/Age_ValueObject.g.cs"], 1) := by
    decide +kernel
  have hfills : ∀ m (hcheck : m.check = .ok ()),
      manifestOf "units.json" {} (diskWithAgeAndMass.read "units.json") = .ok m →
      ∃ after, Fills Disk.storage "out" diskWithAgeAndMass (m.units hcheck) after := by
    intro m hcheck h
    obtain rfl : ageAndMass = m := Except.ok.inj (hmanifest.symm.trans h)
    exact ⟨_, ((run_deliver_eq_ok_iff hcheck).mp ⟨(Prod.eta _).symm, hresult⟩).2.2.2⟩
  rcases hchecked : (run Disk.storage (.check (some "units.json"))).run diskWithAgeAndMass
    with ⟨checked, s⟩
  rcases hgenerated :
    (run Disk.storage (.generate "out" (some "units.json") {})).run diskWithAgeAndMass
    with ⟨generated, s'⟩
  exact (check_agrees_with_generate hchecked hgenerated rfl hfills).1

end ValueObject.Command
