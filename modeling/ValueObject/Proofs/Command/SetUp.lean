/-
# ValueObject.Proofs.Command.SetUp -- how a command begins

Before a command makes a folder or writes a file, it reads its manifest, puts the overrides in force
and checks what came of it; the command for the support unit checks the namespace it was given.
`ManifestFault` and `SetUpFault` list what can be wrong by then, in terms of what was read.

The storage is any, and so is its state. All that is asked of it is that reading changes nothing. A
command whose set-up fails says why and leaves the storage as it was, and `check` leaves it so in any
case (`setUp_untouched`). A manifest that passes has a generator, so the question that a delivery asks
about the settings first is always answered.
-/

import ValueObject.Proofs.Command.Runs

namespace ValueObject

/-- **Reading changes nothing.** -/
def Storage.ReadKeeps {σ : Type} (storage : Storage (StateM σ)) : Prop :=
  ∀ path s, ((storage.read path).run s).2 = s

theorem Storage.ReadKeeps.run_read {σ : Type} {storage : Storage (StateM σ)}
    (hreads : storage.ReadKeeps) (path : String) (s : σ) :
    (storage.read path).run s = (((storage.read path).run s).1, s) :=
  Prod.ext rfl (hreads path s)

theorem Disk.readKeeps_storage : Disk.storage.ReadKeeps :=
  fun _ _ => rfl

namespace Command

/-! ## Faults -/

/-- **What is wrong with a manifest**, by what reading its file gave: it cannot be read, its text is no
manifest, or it is not sound with the overrides in force. -/
inductive ManifestFault (path : String) (overrides : Settings.Overrides) :
    Except DiskError String → Failure → Prop
  | unread (cause : DiskError) :
      ManifestFault path overrides (.error cause) (.readManifest path cause)
  | unparsed {text : String} :
      Manifest.read? (formatOf path) text = none →
      ManifestFault path overrides (.ok text) (.parseManifest (formatOf path))
  | unsound {text : String} {m : Manifest} {cause : ManifestError} :
      Manifest.read? (formatOf path) text = some m →
      (m.override overrides).check = .error cause →
      ManifestFault path overrides (.ok text) (.invalidManifest cause)

variable {path : String} {overrides : Settings.Overrides} {read : Except DiskError String}

theorem manifestOf_eq_error_iff {f : Failure} :
    manifestOf path overrides read = .error f ↔ ManifestFault path overrides read f := by
  constructor
  · intro h
    cases read with
    | error cause =>
      cases h
      exact .unread cause
    | ok text =>
      unfold manifestOf at h
      dsimp only at h
      split at h
      · next hnone =>
        cases h
        exact .unparsed hnone
      · next m hsome =>
        split at h
        · next cause hcause =>
          cases h
          exact .unsound hsome hcause
        · cases h
  · intro h
    cases h with
    | unread cause => rfl
    | unparsed hnone => simp [manifestOf, hnone]
    | unsound hsome hcause => simp [manifestOf, hsome, hcause]

/-- A manifest that passes is the one in the text, with the overrides in force, and it is sound. -/
theorem manifestOf_eq_ok_iff {m : Manifest} :
    manifestOf path overrides read = .ok m ↔
      ∃ text written, read = .ok text ∧ Manifest.read? (formatOf path) text = some written ∧
        m = written.override overrides ∧ m.check = .ok () := by
  constructor
  · intro h
    cases read with
    | error cause => cases h
    | ok text =>
      unfold manifestOf at h
      dsimp only at h
      split at h
      · cases h
      · next written hsome =>
        split at h
        · cases h
        · next hcheck =>
          cases h
          exact ⟨text, written, rfl, hsome, rfl, hcheck⟩
  · rintro ⟨text, written, rfl, hsome, rfl, hcheck⟩
    simp [manifestOf, hsome, hcheck]

theorem check_of_manifestOf {m : Manifest} (h : manifestOf path overrides read = .ok m) :
    m.check = .ok () := by
  obtain ⟨_, _, _, _, _, hcheck⟩ := manifestOf_eq_ok_iff.mp h
  exact hcheck

variable {σ : Type} {storage : Storage (StateM σ)}

/-- **What is wrong with a command before it begins**, on a storage in the state `s`. -/
inductive SetUpFault (storage : Storage (StateM σ)) (s : σ) : Command → Failure → Prop
  | generate {output : String} {manifest : Option String} {overrides : Settings.Overrides}
      {f : Failure} :
      ManifestFault (manifest.getD defaultManifest) overrides
        ((storage.read (manifest.getD defaultManifest)).run s).1 f →
      SetUpFault storage s (.generate output manifest overrides) f
  | check {manifest : Option String} {f : Failure} :
      ManifestFault (manifest.getD defaultManifest) {}
        ((storage.read (manifest.getD defaultManifest)).run s).1 f →
      SetUpFault storage s (.check manifest) f
  | support {output name : String} :
      Identifier.isNamespacePath name = false →
      SetUpFault storage s (.support output (some name))
        (.runtimeNamespace (.invalidRuntimeNamespace name))

/-! ## Outcomes -/

/-- The command failed, and printed nothing else on the error stream. -/
structure FailsWith (f : Failure) (o : Outcome) : Prop where
  exit_eq : o.exit = 1
  stderr_eq : o.stderr = f.text

theorem failsWith_fail (said : List String) (f : Failure) : FailsWith f (fail said "" f) where
  exit_eq := rfl
  stderr_eq := String.empty_append

/-- **The command reported the outcomes**: it printed every diagnostic, and failed if a declaration was
rejected. -/
structure Reports (outcomes : List ValueObject.Outcome) (o : Outcome) : Prop where
  exit_eq : o.exit = if rejectedCount outcomes = 0 then 0 else 1
  stderr_eq : o.stderr = report outcomes ++
    if rejectedCount outcomes = 0 then "" else (Failure.rejected (rejectedCount outcomes)).text

theorem reports_succeed {outcomes : List ValueObject.Outcome} (said : List String)
    (h : rejectedCount outcomes = 0) : Reports outcomes (succeed said (report outcomes)) where
  exit_eq := by rw [if_pos h]; rfl
  stderr_eq := by rw [if_pos h]; exact String.append_empty.symm

theorem reports_fail {outcomes : List ValueObject.Outcome} (said : List String)
    (h : rejectedCount outcomes ≠ 0) :
    Reports outcomes (fail said (report outcomes) (.rejected (rejectedCount outcomes))) where
  exit_eq := by rw [if_neg h]; rfl
  stderr_eq := by rw [if_neg h]; rfl

/-! ## Runs -/

theorem runLine_of_parse {arguments : List String} {logging : Logging} {command : Command}
    (h : parse arguments = .ok (.run logging command)) :
    runLine storage arguments = run storage command := by
  rw [runLine, h]

variable {manifest : Option String} {before between : σ}

theorem run_runGenerate_of_fault {output : String} {f : Failure}
    (hread : (storage.read (manifest.getD defaultManifest)).run before = (read, between))
    (hfault : ManifestFault (manifest.getD defaultManifest) overrides read f) :
    (runGenerate storage output manifest overrides).run before = (fail [] "" f, between) := by
  rw [runGenerate, run_bind_of_run hread, manifestOf_eq_error_iff.mpr hfault]
  rfl

theorem run_runCheck_of_fault {f : Failure}
    (hread : (storage.read (manifest.getD defaultManifest)).run before = (read, between))
    (hfault : ManifestFault (manifest.getD defaultManifest) {} read f) :
    ∃ said, (runCheck storage manifest).run before = (fail said "" f, between) := by
  rw [runCheck, run_bind_of_run hread, manifestOf_eq_error_iff.mpr hfault]
  exact ⟨_, rfl⟩

/-- A manifest that passes is checked by its outcomes alone. -/
theorem run_runCheck_of_manifestOf {m : Manifest}
    (hread : (storage.read (manifest.getD defaultManifest)).run before = (read, between))
    (hmanifest : manifestOf (manifest.getD defaultManifest) {} read = .ok m)
    (hcheck : m.check = .ok ()) :
    ∃ o, (runCheck storage manifest).run before = (o, between) ∧ Reports (m.outcomes hcheck) o := by
  rw [runCheck, run_bind_of_run hread, hmanifest]
  dsimp only
  rw [Manifest.ofSettings_settings hcheck]
  dsimp only
  rw [← Manifest.outcomes]
  split
  · next hnone => exact ⟨_, rfl, reports_succeed _ hnone⟩
  · next hsome => exact ⟨_, rfl, reports_fail _ hsome⟩

theorem run_runSupport_of_fault {output name : String}
    (hname : Identifier.isNamespacePath name = false) :
    (runSupport storage output (some name)).run before =
      (fail [] "" (.runtimeNamespace (.invalidRuntimeNamespace name)), before) := by
  have hcheck : (Settings.override {} { runtimeNamespace := some name }).check =
      .error (.invalidRuntimeNamespace name) := by
    simp [Settings.check, Settings.override, hname]
  rw [runSupport, Generator.ofSettings_eq_error hcheck]
  rfl

/-! ## Set-ups that fail -/

/-- A command whose set-up fails says why, and that is all it does. -/
theorem run_of_setUpFault (hreads : storage.ReadKeeps) {command : Command} {s : σ} {f : Failure}
    (hfault : SetUpFault storage s command f) :
    ∃ o, (run storage command).run s = (o, s) ∧ FailsWith f o := by
  cases hfault with
  | generate hmanifest =>
    exact ⟨_, run_runGenerate_of_fault (hreads.run_read _ s) hmanifest, failsWith_fail _ _⟩
  | check hmanifest =>
    obtain ⟨said, hrun⟩ := run_runCheck_of_fault (hreads.run_read _ s) hmanifest
    exact ⟨_, hrun, failsWith_fail said f⟩
  | support hname => exact ⟨_, run_runSupport_of_fault hname, failsWith_fail _ _⟩

/-- Checking a manifest changes nothing, whatever the manifest is. -/
theorem run_runCheck_snd (hreads : storage.ReadKeeps) (manifest : Option String) (s : σ) :
    ((runCheck storage manifest).run s).2 = s := by
  have hread := hreads.run_read (manifest.getD defaultManifest) s
  cases hmanifest : manifestOf (manifest.getD defaultManifest) {}
      ((storage.read (manifest.getD defaultManifest)).run s).1 with
  | error f =>
    obtain ⟨said, hrun⟩ := run_runCheck_of_fault hread (manifestOf_eq_error_iff.mp hmanifest)
    exact congrArg Prod.snd hrun
  | ok m =>
    obtain ⟨o, hrun, -⟩ := run_runCheck_of_manifestOf hread hmanifest (check_of_manifestOf hmanifest)
    exact congrArg Prod.snd hrun

/-- **A command whose set-up fails leaves the storage as it was**: no folder is made and no file is
written. So does `check`, whether its set-up fails or not. A manifest that `generate` goes on to deliver
has a generator, and whatever happens on the storage, its settings are not what stops it. -/
theorem setUp_untouched (hreads : storage.ReadKeeps) {arguments : List String} {logging : Logging}
    {command : Command} (hline : parse arguments = .ok (.run logging command)) (s : σ) :
    (∀ f, SetUpFault storage s command f →
      ∃ o, (runLine storage arguments).run s = (o, s) ∧ FailsWith f o) ∧
    (∀ manifest, command = .check manifest → ((runLine storage arguments).run s).2 = s) ∧
    (∀ output manifest overrides m, command = .generate output manifest overrides →
      manifestOf (manifest.getD defaultManifest) overrides
        ((storage.read (manifest.getD defaultManifest)).run s).1 = .ok m →
      (∃ g, Generator.ofSettings m.settings = .ok g) ∧
        ∀ s' cause, ((deliver storage output m).run s').1.result ≠ .error (.settings cause)) := by
  rw [runLine_of_parse hline]
  refine ⟨fun f hfault => run_of_setUpFault hreads hfault, ?_, ?_⟩
  · rintro manifest rfl
    exact run_runCheck_snd hreads manifest s
  · rintro output manifest overrides m rfl hmanifest
    have hcheck := check_of_manifestOf hmanifest
    exact ⟨⟨_, Manifest.ofSettings_settings hcheck⟩, fun s' cause => result_ne_settings hcheck cause⟩

/-- A folder to work in, with a manifest in it that asks for one unit and for the support unit. -/
def diskWithAge : Disk :=
  (Disk.blank ["work"]).withFile "age.json" <|
    "\x7b\"generator\":\x7b\"emit_runtime\":true\x7d,\"declaration\":[" ++
      "\x7b\"name\":\"Age\",\"namespace\":\"People\"," ++
      "\"attribute\":\x7b\"value_object\":\x7b\"datatype\":\"int\"\x7d\x7d\x7d]\x7d"

/-- The namespace given on the command line is what makes the manifest unsound. -/
theorem setUp_untouched_override :
    ∃ o, (runLine Disk.storage
        ["generate", "-o", "out", "-m", "age.json", "--runtime-namespace", "1st"]).run diskWithAge =
          (o, diskWithAge) ∧
      FailsWith (.invalidManifest (.settings (.invalidRuntimeNamespace "1st"))) o := by
  have hline : parse ["generate", "-o", "out", "-m", "age.json", "--runtime-namespace", "1st"] =
      .ok (.run {} (.generate "out" (some "age.json")
        { runtimeNamespace := some "1st", emitRuntime := false })) := by
    decide +kernel
  have hfault : SetUpFault Disk.storage diskWithAge
      (.generate "out" (some "age.json") { runtimeNamespace := some "1st", emitRuntime := false })
      (.invalidManifest (.settings (.invalidRuntimeNamespace "1st"))) :=
    .generate (manifestOf_eq_error_iff.mp (by decide +kernel))
  exact (setUp_untouched Disk.readKeeps_storage hline diskWithAge).1 _ hfault

end Command

end ValueObject
