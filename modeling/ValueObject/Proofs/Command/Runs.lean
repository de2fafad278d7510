/-
# ValueObject.Proofs.Command.Runs -- what runs of writes come to, on any storage

A storage keeps a state of any type, and its three operations may do with it what they like. Each lemma
here says what one part of a command does, given what the operations below it did: `Writes` is a chain
of writes that succeed, `Fills` is such a chain in a folder that was made before, and a delivery that
fails nowhere is exactly that for the units of its manifest (`run_deliver_eq_ok_iff`).
-/

import ValueObject.Proofs.SoundManifest

namespace ValueObject

/-- The path of a unit in a folder. -/
def GeneratedUnit.pathIn (u : GeneratedUnit) (output : String) : String :=
  Disk.Path.join output u.hintName

namespace Command

variable {σ : Type} {storage : Storage (StateM σ)} {output : String}

/-- What is done on a storage goes on with what was given, in the state that was left. -/
theorem run_bind_of_run {α β : Type} {x : StateM σ α} {a : α} {before between : σ}
    (h : x.run before = (a, between)) (f : α → StateM σ β) :
    (x >>= f).run before = (f a).run between := by
  rw [StateT.run_bind, h]
  rfl

/-! ## Writing units -/

/-- **Units are written one after the other**, and no write fails. -/
inductive Writes (storage : Storage (StateM σ)) (output : String) :
    σ → List GeneratedUnit → σ → Prop
  | nil (s : σ) : Writes storage output s [] s
  | cons {before between after : σ} {u : GeneratedUnit} {rest : List GeneratedUnit} :
      (storage.write (u.pathIn output) u.source).run before = (.ok (), between) →
      Writes storage output between rest after →
      Writes storage output before (u :: rest) after

/-- **A folder is made, and units are written into it**, and nothing fails. -/
def Fills (storage : Storage (StateM σ)) (output : String) (before : σ)
    (units : List GeneratedUnit) (after : σ) : Prop :=
  ∃ made, (storage.makeFolders output).run before = (.ok (), made) ∧
    Writes storage output made units after

/-- **What stops a run of writes**: the folder, or one of the files. -/
inductive StopsWriting (output : String) : Failure → Prop
  | folder (cause : DiskError) : StopsWriting output (.makeFolder output cause)
  | file (path : String) (cause : DiskError) : StopsWriting output (.write path cause)

section

variable {units : List GeneratedUnit} {before after : σ}

/-- Units that are written give their paths. -/
theorem Writes.run_writeUnits (h : Writes storage output before units after) :
    (writeUnits storage output units).run before = (.ok (units.map (·.pathIn output)), after) := by
  induction h with
  | nil s => rfl
  | cons hwrite _ ih =>
    rw [writeUnits, ← GeneratedUnit.pathIn, run_bind_of_run hwrite]
    dsimp only
    rw [run_bind_of_run ih]
    rfl

/-- Units are written, or a write fails and what comes after it is not tried. -/
theorem writes_or_stops (units : List GeneratedUnit) (before : σ) :
    (∃ after, Writes storage output before units after) ∨
      ∃ f after, (writeUnits storage output units).run before = (.error f, after) ∧
        StopsWriting output f := by
  induction units generalizing before with
  | nil => exact .inl ⟨before, .nil before⟩
  | cons u rest ih =>
    rcases hwrite : (storage.write (u.pathIn output) u.source).run before with ⟨result, between⟩
    cases result with
    | error cause =>
      refine .inr ⟨_, between, ?_, .file (u.pathIn output) cause⟩
      rw [writeUnits, ← GeneratedUnit.pathIn, run_bind_of_run hwrite]
      rfl
    | ok =>
      -- the rest starts from the state that the first write left
      rcases ih between with ⟨after, hwrites⟩ | ⟨f, after, hrest, hstops⟩
      · exact .inl ⟨after, .cons hwrite hwrites⟩
      · refine .inr ⟨f, after, ?_, hstops⟩
        rw [writeUnits, ← GeneratedUnit.pathIn, run_bind_of_run hwrite]
        dsimp only
        rw [run_bind_of_run hrest]
        rfl

theorem Fills.run_writeInto (h : Fills storage output before units after) :
    (writeInto storage output units).run before = (.ok (units.map (·.pathIn output)), after) := by
  obtain ⟨made, hmake, hwrites⟩ := h
  rw [writeInto, run_bind_of_run hmake]
  exact hwrites.run_writeUnits

/-- A folder is filled, or it cannot be made, or a write fails. -/
theorem fills_or_stops (units : List GeneratedUnit) (before : σ) :
    (∃ after, Fills storage output before units after) ∨
      ∃ f after, (writeInto storage output units).run before = (.error f, after) ∧
        StopsWriting output f := by
  rcases hmake : (storage.makeFolders output).run before with ⟨result, made⟩
  rw [writeInto, run_bind_of_run hmake]
  cases result with
  | error cause => exact .inr ⟨_, made, rfl, .folder cause⟩
  | ok =>
    rcases writes_or_stops units made with ⟨after, hwrites⟩ | hstops
    · exact .inl ⟨after, made, hmake, hwrites⟩
    · exact .inr hstops

end

/-! ## Delivering a manifest -/

variable {m : Manifest} (hcheck : m.check = .ok ()) {before after : σ}

/-- **The delivery of a sound manifest** reports its outcomes and writes its units. -/
theorem run_deliver_of_run {written : Except Failure (List String)}
    (h : (writeInto storage output (m.units hcheck)).run before = (written, after)) :
    (deliver storage output m).run before =
      ({ report := report (m.outcomes hcheck)
         result := written.map fun paths => (paths, rejectedCount (m.outcomes hcheck)) },
        after) := by
  rw [deliver, Manifest.ofSettings_settings hcheck]
  dsimp only
  rw [← Manifest.outcomes, ← Manifest.units_eq, run_bind_of_run h]
  rfl

/-- **A delivery that fails nowhere** has written every unit, gives their paths and counts what was
rejected. -/
theorem run_deliver_eq_ok_iff {delivery : Delivery} {paths : List String} {rejected : Nat} :
    (deliver storage output m).run before = (delivery, after) ∧
        delivery.result = .ok (paths, rejected) ↔
      delivery = { report := report (m.outcomes hcheck), result := .ok (paths, rejected) } ∧
        paths = (m.units hcheck).map (·.pathIn output) ∧
        rejected = rejectedCount (m.outcomes hcheck) ∧
        Fills storage output before (m.units hcheck) after := by
  constructor
  · rintro ⟨hrun, hok⟩
    rcases fills_or_stops (m.units hcheck) before with ⟨last, hfills⟩ | ⟨f, last, hstopped, -⟩
    · rw [run_deliver_of_run hcheck hfills.run_writeInto] at hrun
      cases hrun
      cases hok
      exact ⟨rfl, rfl, rfl, hfills⟩
    · rw [run_deliver_of_run hcheck hstopped] at hrun
      cases hrun
      cases hok
  · rintro ⟨rfl, rfl, rfl, hfills⟩
    exact ⟨run_deliver_of_run hcheck hfills.run_writeInto, rfl⟩

include hcheck in
/-- The settings of a sound manifest never stop its delivery. -/
theorem result_ne_settings (cause : SettingsError) :
    ((deliver storage output m).run before).1.result ≠ .error (.settings cause) := by
  intro hresult
  rcases fills_or_stops (m.units hcheck) before with ⟨last, hfills⟩ | ⟨f, last, hstopped, hstops⟩
  · rw [run_deliver_of_run hcheck hfills.run_writeInto] at hresult
    cases hresult
  · rw [run_deliver_of_run hcheck hstopped] at hresult
    cases hresult
    cases hstops

end Command

end ValueObject
