/-
# ValueObject.Proofs.Command.Account -- nothing is lost in a delivery

A delivery that fails nowhere accounts for every declaration of its manifest: one that is accepted has
its unit written, under a file name of its own and in its turn, and one that is rejected is counted
(`delivery_accounted`). The rejected ones have no other effect: without them the same would be written.
The command that delivers fails if and only if something was counted.
-/

import ValueObject.Proofs.Command.SetUp

namespace ValueObject

namespace Manifest

variable {m : Manifest} (h : m.check = .ok ())

/-- The file names of a sound manifest, in the order of its declarations: that of each accepted one, and
then that of the support unit if it is wanted. -/
def hintNames (m : Manifest) (h : m.check = .ok ()) : List String :=
  (m.accepted h).map (fun d => (Descriptor.ofDeclaration d).hintName) ++
    if m.settings.emitRuntime then [Source.Support.hintName] else []

theorem map_hintName_units_eq : (m.units h).map GeneratedUnit.hintName = m.hintNames h :=
  map_hintName_units h

theorem map_pathIn_units (output : String) :
    (m.units h).map (·.pathIn output) = (m.hintNames h).map (Disk.Path.join output) := by
  rw [← map_hintName_units_eq, List.map_map]
  rfl

/-- The unit of an accepted declaration is asked for. -/
theorem mem_units_of_generate {d : Declaration} {u : GeneratedUnit} (hd : d ∈ m.declarations)
    (hu : (m.generator h).generate d = .accepted u) : u ∈ m.units h := by
  rw [units_eq, Command.unitsOf, filterMap_unit?_outcomes, List.mem_append, List.mem_filterMap]
  exact .inl ⟨d, hd, by rw [hu]; rfl⟩

end Manifest

namespace Command

variable {σ : Type} {storage : Storage (StateM σ)} {output : String}

/-- **A manifest that passes is generated** as it is delivered. -/
theorem run_runGenerate_of_fills {manifest : Option String} {overrides : Settings.Overrides}
    {read : Except DiskError String} {m : Manifest} {start before after : σ}
    (hread : (storage.read (manifest.getD defaultManifest)).run start = (read, before))
    (hmanifest : manifestOf (manifest.getD defaultManifest) overrides read = .ok m)
    (hcheck : m.check = .ok ()) (hfills : Fills storage output before (m.units hcheck) after) :
    ∃ o, (runGenerate storage output manifest overrides).run start = (o, after) ∧
      Reports (m.outcomes hcheck) o := by
  have hdeliver := ((run_deliver_eq_ok_iff hcheck).mpr ⟨rfl, rfl, rfl, hfills⟩).1
  rw [runGenerate, run_bind_of_run hread, hmanifest]
  dsimp only
  rw [run_bind_of_run hdeliver]
  dsimp only
  split
  · next hnone => exact ⟨_, rfl, reports_succeed _ hnone⟩
  · next hsome => exact ⟨_, rfl, reports_fail _ hsome⟩

/-- **What a delivery comes to**, from the state `before` to the state `after`, where `paths` were given
and `rejected` declarations were counted. -/
structure Accounted (storage : Storage (StateM σ)) (output : String) (m : Manifest)
    (h : m.check = .ok ()) (before after : σ) (paths : List String) (rejected : Nat) : Prop where
  /-- Each accepted declaration has a path, in order, and the support unit has the last one. -/
  paths_eq : paths = (m.hintNames h).map (Disk.Path.join output)
  nodup_hintNames : (m.hintNames h).Nodup
  rejected_eq : rejected = m.declarations.countP fun d => !((m.generator h).generate d).isAccepted
  accepted_add_rejected : (m.accepted h).length + rejected = m.declarations.length
  /-- The unit of each accepted declaration is among those to write, whatever becomes of the others. -/
  mem_units : ∀ d ∈ m.declarations, ∀ u, (m.generator h).generate d = .accepted u → u ∈ m.units h
  /-- All of these were written, in their order. -/
  fills : Fills storage output before (m.units h) after
  /-- Without the rejected declarations the same would be written. -/
  unsuppressed : (deliver storage output (m.acceptedOnly h)).run before =
    ({ report := "", result := .ok (paths, 0) }, after)
  /-- The command that reads the manifest and then delivers it writes the same, and fails afterwards if
  something was rejected. -/
  command : ∀ start manifest overrides read,
    (storage.read (manifest.getD defaultManifest)).run start = (read, before) →
    manifestOf (manifest.getD defaultManifest) overrides read = .ok m →
    ∃ o, (runGenerate storage output manifest overrides).run start = (o, after) ∧
      (o.exit ≠ 0 ↔ 0 < rejected)

/-- Without the rejected declarations a delivery reports nothing and counts nothing. -/
theorem run_deliver_acceptedOnly {m : Manifest} (h : m.check = .ok ()) {before after : σ}
    (hfills : Fills storage output before (m.units h) after) :
    (deliver storage output (m.acceptedOnly h)).run before =
      ({ report := "", result := .ok ((m.units h).map (·.pathIn output), 0) }, after) := by
  have haccepted : ∀ o ∈ (m.acceptedOnly h).outcomes (Manifest.check_acceptedOnly h),
      o.isAccepted = true := by
    intro o ho
    rw [Manifest.outcomes_acceptedOnly] at ho
    exact (List.mem_filter.mp ho).2
  have hreport := Manifest.report_eq_empty haccepted
  have hcount : rejectedCount ((m.acceptedOnly h).outcomes (Manifest.check_acceptedOnly h)) = 0 := by
    rw [rejectedCount, List.countP_eq_zero]
    intro o ho
    simp [haccepted o ho]
  have hunits := Manifest.units_acceptedOnly h
  rw [← hreport, ← hunits]
  rw [← hunits] at hfills
  exact ((run_deliver_eq_ok_iff (Manifest.check_acceptedOnly h)).mpr
    ⟨rfl, rfl, hcount.symm, hfills⟩).1

/-- **A delivery that fails nowhere accounts for every declaration.** -/
theorem delivery_accounted {m : Manifest} (h : m.check = .ok ()) {before after : σ}
    {delivery : Delivery} {paths : List String} {rejected : Nat}
    (hrun : (deliver storage output m).run before = (delivery, after))
    (hok : delivery.result = .ok (paths, rejected)) :
    Accounted storage output m h before after paths rejected := by
  obtain ⟨-, rfl, rfl, hfills⟩ := (run_deliver_eq_ok_iff h).mp ⟨hrun, hok⟩
  constructor
  case paths_eq => exact Manifest.map_pathIn_units h output
  case nodup_hintNames => exact Manifest.map_hintName_units_eq h ▸ Manifest.nodup_hintNames h
  case rejected_eq => exact Manifest.rejectedCount_outcomes h
  case accepted_add_rejected => exact Manifest.length_accepted_add_rejectedCount h
  case mem_units => exact fun d hd u hu => Manifest.mem_units_of_generate h hd hu
  case fills => exact hfills
  case unsuppressed => exact run_deliver_acceptedOnly h hfills
  case command =>
    intro start manifest overrides read hread hmanifest
    obtain ⟨o, hgenerate, hreports⟩ := run_runGenerate_of_fills hread hmanifest h hfills
    refine ⟨o, hgenerate, ?_⟩
    rw [hreports.exit_eq, Nat.pos_iff_ne_zero]
    split <;> simp [*]

/-- Three declarations over one value, of which the second has no namespace, and the support unit. -/
def partlyRejected : Manifest where
  settings := { emitRuntime := true }
  declarations := [
    { name := "Age", namespaceName := some "People", usage := .single (some "int") [] },
    { name := "Mass", usage := .single (some "double") [] },
    { name := "Rank", namespaceName := some "People", usage := .single (some "int") [] }]

theorem delivery_accounted_partlyRejected :
    ∃ (h : partlyRejected.check = .ok ()) (after : Disk),
      Accounted Disk.storage "out" partlyRejected h (.blank ["work"]) after
        ["out/Age_ValueObject.g.cs", "out/Rank_ValueObject.g.cs", "out/" ++ Source.Support.hintName]
        1 := by
  have hcheck : partlyRejected.check = .ok () := by decide +kernel
  have hresult : ((deliver Disk.storage "out" partlyRejected).run (.blank ["work"])).1.result =
      .ok (["out/Age_ValueObject.g.cs", "out/Rank_ValueObject.g.cs",
        "out/" ++ Source.Support.hintName], 1) := by
    decide +kernel
  exact ⟨hcheck, _, delivery_accounted hcheck (Prod.eta _).symm hresult⟩

end Command

end ValueObject
