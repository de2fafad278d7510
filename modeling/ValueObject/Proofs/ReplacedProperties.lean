/-
# ValueObject.Proofs.ReplacedProperties -- what becomes of a property that is declared again

Fields are kept by name, so a property whose name is declared again is **replaced**: its field gets the
data of the later one. The review looks at fields and not at properties. It therefore judges the last
property of each name and no other (`properties_represented_iff`): a replaced one may be written to or
return by reference, its type and its position are forgotten, and whatever it says, the unit is the
same. No violation is lost, and each property has a field of its own, exactly where no name is declared
twice.
-/

import ValueObject.Proofs.FaultlessFields
import ValueObject.Proofs.Rearrangement

namespace ValueObject

/-! ## Properties that are replaced -/

/-- **The property can only be read, and returns by value.** -/
structure Property.WellFormed (p : Property) : Prop where
  getOnly : ∀ a ∈ p.accessors, a = .get
  byValue : p.returnsByRef = false

theorem Property.wellFormed_iff {p : Property} :
    p.WellFormed ↔ (∀ a ∈ p.accessors, a = .get) ∧ p.returnsByRef = false :=
  ⟨fun h => ⟨h.getOnly, h.byValue⟩, fun h => ⟨h.1, h.2⟩⟩

instance (p : Property) : Decidable p.WellFormed :=
  decidable_of_iff' _ Property.wellFormed_iff

/-- **The property is replaced**: another of its name is declared after it. -/
def Replaced (properties : List Property) (p : Property) : Prop :=
  ∃ before after, properties = before ++ p :: after ∧ ∃ q ∈ after, q.name = p.name

section

variable {properties : List Property} {p q : Property}

/-- A property is the last of its name, or it is replaced. -/
theorem lastOfName_or_replaced (hp : p ∈ properties) :
    LastOfName properties p ∨ Replaced properties p := by
  obtain ⟨before, after, heq⟩ := List.append_of_mem hp
  by_cases hlater : ∃ q ∈ after, q.name = p.name
  · exact .inr ⟨before, after, heq, hlater⟩
  · refine .inl ⟨before, after, heq, ?_⟩
    intro q hq hname
    exact hlater ⟨q, hq, hname⟩

/-- No property is replaced where the names are distinct. -/
theorem not_replaced_of_nodup (h : (properties.map Property.name).Nodup) :
    ¬ Replaced properties p := by
  rintro ⟨before, after, rfl, q, hq, hname⟩
  rw [List.map_append, List.map_cons, List.nodup_append] at h
  have hnotin : p.name ∉ after.map Property.name := (List.nodup_cons.mp h.2.1).1
  exact hnotin (List.mem_map.mpr ⟨q, hq, hname⟩)

theorem LastOfName.mem (h : LastOfName properties p) : p ∈ properties := by
  obtain ⟨before, after, rfl, -⟩ := h
  simp

/-- Which property is the last of its name is decided by the later properties first. -/
theorem lastOfName_append {a b : List Property} :
    LastOfName (a ++ b) q ↔
      LastOfName b q ∨ (LastOfName a q ∧ ∀ x ∈ b, x.name ≠ q.name) := by
  induction b using List.reverseRecOn with
  | nil => simp [LastOfName]
  | append_singleton b x ih =>
    rw [← List.append_assoc, lastOfName_append_singleton, lastOfName_append_singleton, ih]
    simp only [List.mem_append, List.mem_singleton]
    grind

/-- A replaced property may say what it likes: the last properties are the same. -/
theorem lastOfName_replace {before after : List Property} {p' : Property}
    (hname : p'.name = p.name) (hlater : ∃ x ∈ after, x.name = p.name) :
    LastOfName (before ++ p' :: after) q ↔ LastOfName (before ++ p :: after) q := by
  -- the property itself is never the last of its name, and behind it stand the same properties
  have hnever (r : Property) (hr : r.name = p.name) :
      LastOfName (r :: after) q ↔ LastOfName after q := by
    rw [← List.singleton_append, lastOfName_append, or_iff_left]
    rintro ⟨hlast, hnone⟩
    obtain rfl : q = r := List.mem_singleton.mp hlast.mem
    obtain ⟨x, hx, hxname⟩ := hlater
    exact hnone x hx (hxname.trans hr.symm)
  rw [lastOfName_append, lastOfName_append, hnever p' hname, hnever p rfl]
  simp only [List.forall_mem_cons, hname]

end

/-! ## The fields that are left -/

namespace Field

/-- Fields with distinct names are told by the order of the names and by what they are. -/
theorem eq_of_names_of_mem {as bs : List Field} (hnames : as.map name = bs.map name)
    (hnodup : (as.map name).Nodup) (hmem : ∀ f, f ∈ as ↔ f ∈ bs) : as = bs := by
  have hlength : as.length = bs.length := by
    simpa using congrArg List.length hnames
  apply List.ext_getElem hlength
  intro i ha hb
  have hname : (as[i]).name = (bs[i]).name := by
    have hmap := List.getElem_of_eq hnames (i := i) (by simpa using ha)
    simpa using hmap
  exact List.inj_on_of_nodup_map hnodup (List.getElem_mem ha)
    ((hmem _).mpr (List.getElem_mem hb)) hname

/-- The fields are told by the order of the names and by the last property of each. -/
theorem ofProperties_congr {as bs : List Property}
    (hnames : as.map Property.name = bs.map Property.name)
    (hlast : ∀ p, LastOfName as p ↔ LastOfName bs p) : ofProperties as = ofProperties bs := by
  apply eq_of_names_of_mem
  · rw [names_ofProperties, names_ofProperties, hnames]
  · exact nodup_names_ofProperties as
  · intro f
    simp only [mem_ofProperties_iff, hlast]

theorem put_of_not_mem {f : Field} {fields : List Field} (h : f.name ∉ fields.map name) :
    put f fields = fields ++ [f] := by
  induction fields with
  | nil => rfl
  | cons g rest ih =>
    rw [List.map_cons, List.mem_cons, not_or] at h
    rw [put, if_neg (Ne.symm h.1), ih h.2, List.cons_append]

/-- **Each property has a field of its own** exactly where no name is declared twice. -/
theorem ofProperties_eq_map_iff {properties : List Property} :
    ofProperties properties = properties.map ofProperty ↔
      (properties.map Property.name).Nodup := by
  constructor
  · intro h
    have hnodup := nodup_names_ofProperties properties
    rw [h, List.map_map] at hnodup
    exact hnodup
  · intro h
    induction properties using List.reverseRecOn with
    | nil => rfl
    | append_singleton properties p ih =>
      rw [List.map_append, List.nodup_append] at h
      obtain ⟨hnodup, -, hapart⟩ := h
      have hnew : (ofProperty p).name ∉ (properties.map ofProperty).map name := by
        intro hmem
        rw [List.map_map] at hmem
        exact hapart _ hmem _ (by simp [ofProperty]) rfl
      rw [ofProperties_append_singleton, ih hnodup, put_of_not_mem hnew, List.map_append,
        List.map_singleton]

/-- A property has exactly one field of its name. -/
theorem existsUnique_of_mem {properties : List Property} {p : Property} (hp : p ∈ properties) :
    ∃! f, f ∈ ofProperties properties ∧ f.name = p.name := by
  have hname : p.name ∈ (ofProperties properties).map name := by
    rw [names_ofProperties, List.mem_eraseDups]
    exact List.mem_map_of_mem hp
  obtain ⟨f, hf, hfname⟩ := List.mem_map.mp hname
  refine ⟨f, ⟨hf, hfname⟩, ?_⟩
  rintro f' ⟨hf', hfname'⟩
  exact List.inj_on_of_nodup_map (nodup_names_ofProperties properties) hf' hf
    (hfname'.trans hfname.symm)

end Field

/-! ## Declarations -/

namespace Declaration

/-- The properties that become fields, where one of them stands between other members. -/
theorem fieldProperties_of_members {d : Declaration} {before after : List Member} {p : Property}
    (hmembers : d.members = before ++ .property p :: after)
    (hp : (Member.property p).isField = true) :
    d.fieldProperties =
      (before.filter Member.isField).filterMap Member.property? ++
        p :: (after.filter Member.isField).filterMap Member.property? := by
  rw [fieldProperties_eq_filterMap, hmembers, List.filter_append, List.filter_cons_of_pos hp,
    List.filterMap_append]
  rfl

theorem mem_filterMap_property?_iff {members : List Member} {q : Property} :
    q ∈ (members.filter Member.isField).filterMap Member.property? ↔
      .property q ∈ members ∧ (Member.property q).isField = true := by
  rw [List.mem_filterMap]
  constructor
  · rintro ⟨x, hx, hproperty⟩
    cases x with
    | method m => cases hproperty
    | property y =>
      obtain rfl : y = q := Option.some.inj hproperty
      exact List.mem_filter.mp hx
  · intro hq
    exact ⟨.property q, List.mem_filter.mpr hq, rfl⟩

end Declaration

/-- **A declaration reads the same whatever a replaced property says**, as long as it keeps its name
and stays a public partial property. -/
theorem ReadsAlike.of_replaced {d d' : Declaration} {before after : List Member} {p p' : Property}
    (hmembers : d.members = before ++ .property p :: after)
    (hd' : d' = { d with members := before ++ .property p' :: after })
    (hp : (Member.property p).isField = true) (hp' : (Member.property p').isField = true)
    (hname : p'.name = p.name)
    (hlater : ∃ q, .property q ∈ after ∧ (Member.property q).isField = true ∧ q.name = p.name) :
    ReadsAlike d d' := by
  have hmembers' : d'.members = before ++ .property p' :: after := by rw [hd']
  have hcollect : Field.collect d = Field.collect d' := by
    rw [Field.collect_eq_ofProperties, Field.collect_eq_ofProperties,
      Declaration.fieldProperties_of_members hmembers hp,
      Declaration.fieldProperties_of_members hmembers' hp']
    apply Field.ofProperties_congr
    · simp [hname]
    · intro q
      obtain ⟨x, hx, hfield, hxname⟩ := hlater
      have hbehind : ∃ x ∈ (after.filter Member.isField).filterMap Member.property?,
          x.name = p.name :=
        ⟨x, Declaration.mem_filterMap_property?_iff.mpr ⟨hx, hfield⟩, hxname⟩
      exact (lastOfName_replace hname hbehind).symm
  have hshape : Descriptor.shapeOf d = Descriptor.shapeOf d' := by
    have husage : d'.usage = d.usage := by rw [hd']
    rw [Descriptor.shapeOf, Descriptor.shapeOf, hcollect, husage]
  have hmethods : ∀ m, .method m ∈ d.members ↔ .method m ∈ d'.members := by
    intro m
    simp [hmembers, hmembers']
  have hname' : d.name = d'.name := by rw [hd']
  have hinterfaces : d.interfaces = d'.interfaces := by rw [hd']
  refine ⟨hname', by rw [hd'], by rw [hd'], by rw [hd'], hshape, ?_, ?_, ?_⟩
  · intro c
    simp only [Declaration.Marked, hname', hinterfaces, hshape]
  · intro types
    simp only [Declaration.HasPredicate, hmethods]
  · intro types
    simp only [Declaration.HasFactory, hmethods, hname']

/-! ## Accepted declarations -/

/-- The last property of a name is judged by the review. -/
theorem wellFormed_of_lastOfName {g : Generator} {d : Declaration} {u : GeneratedUnit}
    {options : List MultiOption} (husage : d.usage = .multi options)
    (hu : g.generate d = .accepted u) {p : Property} (hp : LastOfName d.fieldProperties p) :
    p.WellFormed := by
  have hfaultless := (Generator.fields_of_accepted husage hu).1
  have hfield : Field.ofProperty p ∈ Field.collect d := Field.mem_collect_iff.mpr ⟨p, hp, rfl⟩
  obtain ⟨hreadOnly, hbyValue, -⟩ :=
    (Field.violationsAfter_eq_nil_iff.mp hfaultless).1 _ hfield
  refine ⟨?_, hbyValue⟩
  intro a ha
  have hget : (a == .get) = true := List.all_eq_true.mp hreadOnly a ha
  simpa using hget

/-- **Which properties of an accepted declaration are judged and represented.** Every property has
exactly one field of its name. The last of each name is what its field is, and it is well-formed. So
all properties are, if those that are replaced happen to be; and nothing at all is lost, every property
being well-formed and having a field of its own, exactly if no name is declared twice. What a replaced
property says has no influence on the unit. -/
theorem properties_represented_iff (g : Generator) (d : Declaration) (options : List MultiOption)
    (u : GeneratedUnit) (husage : d.usage = .multi options) (hu : g.generate d = .accepted u) :
    (∀ p ∈ d.fieldProperties, ∃! f, f ∈ Field.collect d ∧ f.name = p.name) ∧
    (∀ p, LastOfName d.fieldProperties p → .ofProperty p ∈ Field.collect d ∧ p.WellFormed) ∧
    ((∀ p ∈ d.fieldProperties, p.WellFormed) ↔
      ∀ p, Replaced d.fieldProperties p → p.WellFormed) ∧
    ((∀ p ∈ d.fieldProperties, p.WellFormed) ∧
        Field.collect d = d.fieldProperties.map .ofProperty ↔
      (d.fieldProperties.map Property.name).Nodup) ∧
    ∀ before after p p', d.members = before ++ .property p :: after →
      (Member.property p).isField = true → (Member.property p').isField = true →
      p'.name = p.name →
      (∃ q, .property q ∈ after ∧ (Member.property q).isField = true ∧ q.name = p.name) →
      g.generate { d with members := before ++ .property p' :: after } = .accepted u := by
  have hlast {p : Property} (hp : LastOfName d.fieldProperties p) : p.WellFormed :=
    wellFormed_of_lastOfName husage hu hp
  refine ⟨fun p hp => Field.existsUnique_of_mem hp, ?_, ?_, ?_, ?_⟩
  · intro p hp
    exact ⟨Field.mem_collect_iff.mpr ⟨p, hp, rfl⟩, hlast hp⟩
  · constructor
    · rintro hall p ⟨before, after, heq, -⟩
      exact hall p (by simp [heq])
    · intro hreplaced p hp
      exact (lastOfName_or_replaced hp).elim hlast (hreplaced p)
  · rw [Field.collect_eq_ofProperties, Field.ofProperties_eq_map_iff]
    constructor
    · exact And.right
    · intro hnodup
      refine ⟨?_, hnodup⟩
      intro p hp
      exact hlast ((lastOfName_or_replaced hp).resolve_right (not_replaced_of_nodup hnodup))
  · intro before after p p' hmembers hp hp' hname hlater
    rw [← (ReadsAlike.of_replaced hmembers rfl hp hp' hname hlater).generate_eq g]
    exact hu

/-- A score, of which these properties are declared. -/
def scoreOf (properties : List Property) : Declaration where
  name := "Score"
  namespaceName := some "Games"
  usage := .multi []
  members := properties.map .property

/-- The points and the player of a score. -/
def scoreProperties : List Property := [
  { name := "Points", typeName := "int", isValueType := true },
  { name := "Player", typeName := "string" }]

theorem accepted_score :
    ∃ u, Generator.standard.generate (scoreOf scoreProperties) = .accepted u :=
  Outcome.isAccepted_iff.mp (by decide +kernel)

theorem properties_represented_score :
    ∃ u, Generator.standard.generate (scoreOf scoreProperties) = .accepted u ∧
      (∀ p ∈ scoreProperties, p.WellFormed) ∧
      Field.collect (scoreOf scoreProperties) = scoreProperties.map .ofProperty := by
  obtain ⟨u, hu⟩ := accepted_score
  have hproperties : (scoreOf scoreProperties).fieldProperties = scoreProperties := by
    decide +kernel
  have hrepresented :=
    (properties_represented_iff .standard (scoreOf scoreProperties) [] u rfl hu).2.2.2.1
  rw [hproperties] at hrepresented
  exact ⟨u, hu, hrepresented.mpr (by decide)⟩

/-- **Violations are lost.** The points can be set where they are declared first, and the player is
returned by reference; both are declared again without fault. The review accepts the score, with one
field for every two properties. -/
theorem score_violations_lost :
    let d := scoreOf
      ({ name := "Points", typeName := "decimal", accessors := [.get, .set], isValueType := true } ::
        { name := "Player", typeName := "string", returnsByRef := true } :: scoreProperties)
    (Generator.standard.generate d).isAccepted = true ∧
      (∃ p ∈ d.fieldProperties, .set ∈ p.accessors) ∧
      (∃ p ∈ d.fieldProperties, p.returnsByRef = true) ∧
      ¬ (∀ p ∈ d.fieldProperties, p.WellFormed) ∧
      d.fieldProperties.length = 4 ∧ (Field.collect d).length = 2 := by
  decide +kernel

end ValueObject
