/-
# ValueObject.Proofs.FieldFaults -- which faults of fields are reported

Faults are found in one pass that keeps the parameters of the fields it has passed, those of faulty
fields included. Without the pass the report says of each field, in order, what is wrong with it given
the fields before it (`violations_eq`).

Of the three faults only the last looks at other fields. Which fields have it is decided by the names
alone: of the fields with one parameter all but the first are reported, and what else is wrong with a
field plays no part (`violations_listed`).
-/

import ValueObject.Field

namespace ValueObject.Field

/-! ## What is wrong with a field -/

/-- The faults, in the order in which those of one field are reported. -/
def Fault.all : List Fault :=
  [.notReadOnly, .returnsByRef, .parameterTaken]

/-- **The field has the fault** when it comes after the fields `earlier`. -/
def HasFault (earlier : List Field) (f : Field) : Fault → Prop
  | .notReadOnly => f.readOnly = false
  | .returnsByRef => f.returnsByRef = true
  | .parameterTaken => ∃ g ∈ earlier, g.parameter = f.parameter

instance (earlier : List Field) (f : Field) : DecidablePred (HasFault earlier f)
  | .notReadOnly => inferInstanceAs (Decidable (_ = _))
  | .returnsByRef => inferInstanceAs (Decidable (_ = _))
  | .parameterTaken => inferInstanceAs (Decidable (∃ g ∈ earlier, g.parameter = f.parameter))

/-- The faults of a field that comes after the fields `earlier`. -/
def faultsAmong (earlier : List Field) (f : Field) : List Fault :=
  Fault.all.filter fun k => HasFault earlier f k

/-- The pass finds these faults when it has kept the parameters of the earlier fields. -/
theorem faults_eq_faultsAmong {taken : List String} {earlier : List Field} (f : Field)
    (h : ∀ x, x ∈ taken ↔ ∃ g ∈ earlier, g.parameter = x) :
    f.faults taken = faultsAmong earlier f := by
  have htaken : taken.contains f.parameter = decide (HasFault earlier f .parameterTaken) := by
    rw [Bool.eq_iff_iff, List.contains_iff_mem, decide_eq_true_eq, h]
    rfl
  rw [faults, htaken, faultsAmong, Fault.all, List.filter_cons, List.filter_cons, List.filter_cons]
  cases hreadOnly : f.readOnly <;> cases hbyRef : f.returnsByRef <;>
    simp [HasFault, hreadOnly, hbyRef]

/-! ## The report -/

theorem violationsAfter_eq {taken : List String} {earlier : List Field} (fields : List Field)
    (h : ∀ x, x ∈ taken ↔ ∃ g ∈ earlier, g.parameter = x) :
    violationsAfter taken fields = fields.zipIdx.flatMap fun p =>
      (faultsAmong (earlier ++ fields.take p.2) p.1).map (p.1, ·) := by
  -- the parameters that are kept are those of the fields passed, whatever their faults
  induction fields generalizing taken earlier with
  | nil => rfl
  | cons f rest ih =>
    have hnext : ∀ x, x ∈ f.parameter :: taken ↔ ∃ g ∈ earlier ++ [f], g.parameter = x := by
      intro x
      rw [List.mem_cons, h]
      grind
    rw [violationsAfter, faults_eq_faultsAmong f h, ih hnext, List.zipIdx_cons, List.flatMap_cons,
      List.take_zero, List.append_nil, List.zipIdx_succ, List.flatMap_map]
    simp only [List.take_succ_cons, List.append_assoc, List.singleton_append]

/-- **The report goes field by field**, and each field is held against those before it. -/
theorem violations_eq (fields : List Field) :
    violations fields = fields.zipIdx.flatMap fun p =>
      (faultsAmong (fields.take p.2) p.1).map (p.1, ·) :=
  @violationsAfter_eq [] [] fields (by simp)

/-! ## Fields whose parameter is taken -/

/-- The fields that a report has with the fault. -/
def fieldsWith (fault : Fault) (report : List (Field × Fault)) : List Field :=
  (report.filter (·.2 == fault)).map Prod.fst

/-- A field is reported for its parameter once, whatever else is wrong with it. -/
theorem fieldsWith_parameterTaken_cons (taken : List String) (f : Field) (rest : List Field) :
    fieldsWith .parameterTaken (violationsAfter taken (f :: rest)) =
      (if f.parameter ∈ taken then [f] else []) ++
        fieldsWith .parameterTaken (violationsAfter (f.parameter :: taken) rest) := by
  have hhead : fieldsWith .parameterTaken ((f.faults taken).map (f, ·)) =
      if f.parameter ∈ taken then [f] else [] := by
    rw [fieldsWith, faults]
    cases f.readOnly <;> cases f.returnsByRef <;> by_cases h : f.parameter ∈ taken <;> simp [h]
  rw [violationsAfter, fieldsWith, List.filter_append, List.map_append, ← fieldsWith, hhead]
  rfl

/-- Of the fields with one parameter all are reported if it was taken before, and else all but the
first. -/
theorem filter_fieldsWith_parameterTaken (taken : List String) (fields : List Field) (x : String) :
    (fieldsWith .parameterTaken (violationsAfter taken fields)).filter (·.parameter = x) =
      if x ∈ taken then fields.filter (·.parameter = x)
      else (fields.filter (·.parameter = x)).tail := by
  induction fields generalizing taken with
  | nil => simp [fieldsWith, violationsAfter]
  | cons f rest ih =>
    rw [fieldsWith_parameterTaken_cons, List.filter_append, ih]
    by_cases hx : f.parameter = x
    · subst hx
      rw [List.filter_cons_of_pos (by simp)]
      by_cases htaken : f.parameter ∈ taken
      · simp [htaken]
      · simp [htaken]
    · -- a field with another parameter is passed over on both sides
      have hfront : (if f.parameter ∈ taken then [f] else []).filter (·.parameter = x) = [] := by
        split <;> simp [hx]
      have hmem : x ∈ f.parameter :: taken ↔ x ∈ taken := by
        rw [List.mem_cons, or_iff_right (Ne.symm hx)]
      rw [List.filter_cons_of_neg (by simpa using hx), hfront, List.nil_append]
      simp only [hmem]

/-- Which fields are reported for their parameter is decided by the names of all fields. -/
theorem map_name_fieldsWith_parameterTaken {taken : List String} {fields fields' : List Field}
    (h : fields'.map name = fields.map name) :
    (fieldsWith .parameterTaken (violationsAfter taken fields')).map name =
      (fieldsWith .parameterTaken (violationsAfter taken fields)).map name := by
  induction fields generalizing taken fields' with
  | nil =>
    obtain rfl := List.map_eq_nil_iff.mp h
    rfl
  | cons f rest ih =>
    cases fields' with
    | nil => cases h
    | cons f' rest' =>
      rw [List.map_cons, List.map_cons, List.cons.injEq] at h
      obtain ⟨hname, hrest⟩ := h
      have hparameter : f'.parameter = f.parameter := congrArg Identifier.parameterName hname
      rw [fieldsWith_parameterTaken_cons, fieldsWith_parameterTaken_cons, List.map_append,
        List.map_append, hparameter, ih hrest]
      split <;> simp [hname]

/-- **What is reported of fields.** In the order of the fields, and of each field in a fixed order, it is
exactly what is wrong with the field given the fields before it, and each fault comes with its own field.
Of the fields with one parameter all but the first are reported for it. Fields of the same names are
reported for their parameters alike, whatever else may be wrong with them. -/
theorem violations_listed (fields : List Field) :
    (violations fields = fields.zipIdx.flatMap fun p =>
      (faultsAmong (fields.take p.2) p.1).map (p.1, ·)) ∧
    (∀ x, (fieldsWith .parameterTaken (violations fields)).filter (·.parameter = x) =
      (fields.filter (·.parameter = x)).tail) ∧
    ∀ fields' : List Field, fields'.map name = fields.map name →
      (fieldsWith .parameterTaken (violations fields')).map name =
        (fieldsWith .parameterTaken (violations fields)).map name := by
  refine ⟨violations_eq fields, ?_, ?_⟩
  · intro x
    exact filter_fieldsWith_parameterTaken [] fields x
  · intro fields' h
    exact map_name_fieldsWith_parameterTaken h

/-- The fields of a part. The first can be written to, the second returns by reference as well as having
the parameter of the first, and the last has that of the third. -/
def partFields : List Field := [
  { name := "Code", typeName := "int", isValueType := true, readOnly := false, returnsByRef := false
    location := some ⟨"Part.cs", 3, 5⟩ },
  { name := "code", typeName := "int", isValueType := true, readOnly := true, returnsByRef := true
    location := none },
  { name := "class", typeName := "string", isValueType := false, readOnly := true
    returnsByRef := false, location := none },
  { name := "Class", typeName := "string", isValueType := false, readOnly := true
    returnsByRef := false, location := none }]

/-- Neither of the two other faults decides who is reported for the parameter. -/
theorem violations_listed_part :
    let sound := partFields.map fun f => { f with readOnly := true, returnsByRef := false }
    sound.map name = partFields.map name ∧
      (violations partFields).map (fun v => (v.1.name, v.2, v.1.location)) =
        [("Code", .notReadOnly, some ⟨"Part.cs", 3, 5⟩), ("code", .returnsByRef, none),
          ("code", .parameterTaken, none), ("Class", .parameterTaken, none)] ∧
      (fieldsWith .parameterTaken (violations sound)).map name =
        (fieldsWith .parameterTaken (violations partFields)).map name := by
  intro sound
  have hnames : sound.map name = partFields.map name := by decide +kernel
  exact ⟨hnames, by decide +kernel, (violations_listed partFields).2.2 sound hnames⟩

end ValueObject.Field
