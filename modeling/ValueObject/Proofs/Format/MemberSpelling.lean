/-
# ValueObject.Proofs.Format.MemberSpelling -- the spellings of a member

A member is a tagged record. Its tag may stand anywhere in a table, as the keys of its fields may, and it
comes first in a list, so it is read as a record of which the tag is the first field (`untag?_iff`).

There is one difference. The whole of a member is held before its tag is known, and with it whatever stands
under keys that no member knows: a number out of range there, half of a surrogate pair, or lists nested too
deep make the member unreadable, where any other record passes them over. `Admits` says what may stand
under a key, and with that all spellings of a member are read alike (`Method.spellingsAlike`,
`Property.spellingsAlike`).
-/

import ValueObject.Format.Declaration
import ValueObject.Proofs.Data.ReadBack
import ValueObject.Proofs.Data.Spelling

namespace ValueObject

open Data

/-! ## What is read as a default is moderate -/

namespace Data.Datum

variable {α : Type} {read : Datum → Option α} {d : Datum} {n : Nat}

theorem moderate_of_bool? {b : Bool} (h : d.bool? = some b) : d.Moderate n := by
  cases d with
  | bool => exact .bool _
  | _ => simp [bool?] at h

theorem moderate_of_optional?_none (h : d.optional? read = some none) : d.Moderate n := by
  cases d with
  | null => exact .null
  | _ => simp [optional?] at h

/-- A list is moderate if its items are. -/
theorem moderate_of_list? {as : List α} (h : d.list? read = some as)
    (hitems : ∀ a ∈ as, ∀ d, read d = some a → d.Moderate n) : d.Moderate (n + 1) := by
  cases d with
  | list items =>
    refine .list ?_
    rw [list?] at h
    induction items generalizing as with
    | nil => exact fun d hd => absurd hd List.not_mem_nil
    | cons d rest ih =>
      rw [List.mapM_cons] at h
      obtain ⟨a, ha, h⟩ := Option.bind_eq_some_iff.mp h
      obtain ⟨as', has', heq⟩ := Option.bind_eq_some_iff.mp h
      obtain rfl : a :: as' = as := Option.some.inj heq
      obtain ⟨hhead, hrest⟩ := List.forall_mem_cons.mp hitems
      exact List.forall_mem_cons.mpr ⟨hhead d ha, ih hrest has'⟩
  | _ => simp [list?] at h

/-- A chosen name carries nothing, or something empty. -/
theorem moderate_of_choice? {dialect : Dialect} {names : List (String × α)} {a : α}
    (h : dialect.choice? names d = some a) : d.Moderate 2 := by
  unfold Dialect.choice? at h
  split at h
  · exact .text _
  · split at h
    case isFalse => exact nomatch h
    case isTrue hnothing =>
      refine .table fun e he => ?_
      obtain rfl := List.mem_singleton.mp he
      unfold Dialect.carriesNothing at hnothing
      split at hnothing
      · exact .null
      · exact .table fun e he => absurd he List.not_mem_nil
      · exact .list fun d hd => absurd hd List.not_mem_nil
      · exact nomatch hnothing
  · exact nomatch h

end Data.Datum

/-! ## The tag as a field -/

namespace Member

/-- Reads the tag, which must be this one. -/
def tag? (tag : String) (d : Datum) : Option Unit :=
  d.text?.bind fun s => if s = tag then some () else none

theorem tag?_eq_some_iff {tag : String} {d : Datum} {u : Unit} :
    tag? tag d = some u ↔ d = .text tag := by
  cases d <;> simp [tag?, Datum.text?]

/-- **A record under its tag**: the tag is its first field. -/
def under {α : Type} (tag : String) (r : Record α) (hfresh : tagKey ∉ r.names) : Record α where
  fields := .required tagKey (tag? tag) :: r.fields
  ofSlots s := (s.required tagKey (tag? tag)).bind fun () => r.ofSlots s
  nodup_names := List.nodup_cons.mpr ⟨hfresh, r.nodup_names⟩
  congr s s' h := by
    obtain ⟨htag, hfields⟩ := List.forall_mem_cons.mp h
    rw [RecordField.value_required, RecordField.value_required] at htag
    rw [htag, r.congr s s' hfields]

section Under

variable {α : Type} {tag : String} {r : Record α} {hfresh : tagKey ∉ r.names} {d : Datum} {a : α}
  {entries : List (String × Datum)}

theorem ofSlots_under {s : Slots} :
    (under tag r hfresh).ofSlots s = some a ↔ s tagKey = some (.text tag) ∧ r.ofSlots s = some a := by
  show (((s tagKey).bind (tag? tag)).bind fun () => r.ofSlots s) = some a ↔ _
  cases s tagKey with
  | none => simp
  | some d => simp [Option.bind_eq_some_iff, tag?_eq_some_iff]

/-- The tag of a table is found if it stands there once, and what is left are the other entries. -/
theorem untag?_table_iff {rest : Datum} :
    untag? (.table entries) = some (tag, rest) ↔
      (entries.filter (·.1 == tagKey)).length ≤ 1 ∧ entries.lookup tagKey = some (.text tag) ∧
        rest = .table (entries.filter (·.1 != tagKey)) := by
  rw [untag?, lookup_eq_head?_filter]
  rcases hfilter : entries.filter (·.1 == tagKey) with _ | ⟨⟨key, d⟩, _ | ⟨e, more⟩⟩
  · simp [hfilter]
  · rw [hfilter]
    cases d <;> simp [eq_comm]
  · rw [hfilter]
    simp

/-- Without the tag a table gives a record the same fields. -/
theorem ofDatum?_table_untagged (hfresh : tagKey ∉ r.names) :
    r.ofDatum? .tagged (.table (entries.filter (·.1 != tagKey))) =
      r.ofDatum? .tagged (.table entries) := by
  have hfilter : ∀ name ∈ r.names,
      (entries.filter (·.1 != tagKey)).filter (·.1 == name) = entries.filter (·.1 == name) := by
    intro name hname
    have hne : name ≠ tagKey := fun hsame => hfresh (hsame ▸ hname)
    rw [List.filter_filter]
    refine List.filter_congr fun e _ => ?_
    by_cases hkey : e.1 = name <;> simp [hkey, hne]
  have hdistinct : distinctKeys r.names (entries.filter (·.1 != tagKey)) =
      distinctKeys r.names entries := by
    rw [Bool.eq_iff_iff, distinctKeys_iff, distinctKeys_iff]
    exact forall₂_congr fun name hname => by rw [hfilter name hname]
  have hslots : r.ofSlots (.ofEntries (entries.filter (·.1 != tagKey))) =
      r.ofSlots (.ofEntries entries) := by
    refine r.congr _ _ fun f hf => RecordField.value_congr ?_
    rw [Slots.ofEntries, Slots.ofEntries, lookup_eq_head?_filter, lookup_eq_head?_filter,
      hfilter f.name (List.mem_map_of_mem hf)]
  refine Option.ext fun a => ?_
  rw [Record.ofDatum?_table_iff rfl, Record.ofDatum?_table_iff rfl, hdistinct, hslots]

/-- Without the tag a list gives a record the same fields. -/
theorem ofSlots_ofItems_untagged (hfresh : tagKey ∉ r.names) (items : List Datum) :
    r.ofSlots (.ofItems (tagKey :: r.names) (d :: items)) = r.ofSlots (.ofItems r.names items) := by
  refine r.congr _ _ fun f hf => RecordField.value_congr (lookup_cons_of_ne d ?_)
  exact fun hsame => hfresh (hsame ▸ List.mem_map_of_mem hf)

/-- In a table the tag is found where the record has it as a field. -/
theorem untag?_iff_of_table :
    (∃ rest, untag? (.table entries) = some (tag, rest) ∧ r.ofDatum? .tagged rest = some a) ↔
      (under tag r hfresh).ofDatum? .tagged (.table entries) = some a := by
  -- that the tag stands there once says of it what is said of every field
  have hdistinct : distinctKeys (under tag r hfresh).names entries = true ↔
      (entries.filter (·.1 == tagKey)).length ≤ 1 ∧ distinctKeys r.names entries = true := by
    rw [distinctKeys_iff, distinctKeys_iff]
    exact List.forall_mem_cons
  rw [Record.ofDatum?_table_iff rfl, hdistinct, ofSlots_under]
  constructor
  · rintro ⟨rest, huntag, hread⟩
    obtain ⟨hone, hlookup, rfl⟩ := untag?_table_iff.mp huntag
    rw [ofDatum?_table_untagged hfresh, Record.ofDatum?_table_iff rfl] at hread
    exact ⟨⟨hone, hread.1⟩, hlookup, hread.2⟩
  · rintro ⟨⟨hone, hkeys⟩, hlookup, hslots⟩
    refine ⟨_, untag?_table_iff.mpr ⟨hone, hlookup, rfl⟩, ?_⟩
    rw [ofDatum?_table_untagged hfresh, Record.ofDatum?_table_iff rfl]
    exact ⟨hkeys, hslots⟩

/-- In a list the tag comes first, as the field does. -/
theorem untag?_iff_of_list {items : List Datum} :
    (∃ rest, untag? (.list items) = some (tag, rest) ∧ r.ofDatum? .tagged rest = some a) ↔
      (under tag r hfresh).ofDatum? .tagged (.list items) = some a := by
  rw [Record.ofDatum?_list_iff rfl, ofSlots_under]
  cases items with
  | nil => simp [untag?, Slots.ofItems]
  | cons d items =>
    have huntag : ∀ rest, untag? (.list (d :: items)) = some (tag, rest) ↔
        d = .text tag ∧ rest = .list items := by
      intro rest
      cases d <;> simp [untag?, eq_comm]
    have htag : Slots.ofItems (under tag r hfresh).names (d :: items) tagKey = some d :=
      List.lookup_cons_self
    have hrest : r.ofSlots (.ofItems (under tag r hfresh).names (d :: items)) =
        r.ofSlots (.ofItems r.names items) :=
      ofSlots_ofItems_untagged hfresh items
    rw [htag, hrest, Option.some_inj]
    constructor
    · rintro ⟨rest, h, hread⟩
      obtain ⟨rfl, rfl⟩ := (huntag rest).mp h
      obtain ⟨hlength, hslots⟩ := (Record.ofDatum?_list_iff rfl).mp hread
      exact ⟨Nat.succ_le_succ hlength, rfl, hslots⟩
    · rintro ⟨hlength, rfl, hslots⟩
      refine ⟨_, (huntag _).mpr ⟨rfl, rfl⟩, (Record.ofDatum?_list_iff rfl).mpr ⟨?_, hslots⟩⟩
      exact Nat.le_of_succ_le_succ hlength

/-- **A tagged record is a record of which the tag is the first field.** -/
theorem untag?_iff :
    (∃ rest, untag? d = some (tag, rest) ∧ r.ofDatum? .tagged rest = some a) ↔
      (under tag r hfresh).ofDatum? .tagged d = some a := by
  cases d with
  | table entries => exact untag?_iff_of_table
  | list items => exact untag?_iff_of_list
  | moment literal => simp [untag?, Record.ofDatum?, Dialect.slots?, ofSlots_under]
  | _ => simp [untag?, Record.ofDatum?, Dialect.slots?]

end Under

/-! ## What a member admits -/

/-- **A member admits the datum under a key**: it can be held, and nests less deep than a member may. -/
structure Admits (dialect : Dialect) (d : Datum) : Prop where
  held : d.isHeld Datum.fitsWord = true
  nesting_lt : dialect.taggedNesting.all (d.nesting < ·) = true

/-- A moderate datum is admitted where there is room for it. -/
theorem admits_of_moderate {dialect : Dialect} {d : Datum} {n : Nat}
    (hroom : dialect.taggedNesting.all (n < ·) = true) (h : d.Moderate n) : Admits dialect d where
  held := h.held
  nesting_lt := by
    rw [Option.all_eq_true] at hroom ⊢
    intro limit hlimit
    have hlt : n < limit := of_decide_eq_true (hroom limit hlimit)
    exact decide_eq_true (Nat.lt_of_le_of_lt h.nesting_le hlt)

/-- A list or a table fits if what it holds nests less deep than a member may. -/
theorem all_nesting_succ_le_iff {limit : Option Nat} {data : List Datum} {n : Nat}
    (hroom : limit.all (0 < ·) = true) (h : ∀ k, n ≤ k ↔ ∀ d ∈ data, d.nesting ≤ k) :
    limit.all (fun k => decide (n + 1 ≤ k)) = true ↔
      ∀ d ∈ data, limit.all (d.nesting < ·) = true := by
  cases limit with
  | none => simp
  | some k =>
    obtain ⟨k, rfl⟩ : ∃ j, k = j + 1 := Nat.exists_eq_add_one.mpr (by simpa using hroom)
    simpa [Nat.lt_succ_iff] using h k

section Holds

variable {dialect : Dialect} (hroom : dialect.taggedNesting.all (0 < ·) = true)

include hroom

theorem holds_list_iff {items : List Datum} :
    holds dialect (.list items) = true ↔ ∀ d ∈ items, Admits dialect d := by
  rw [holds, Bool.and_eq_true, Datum.isHeld, Datum.allHeld_iff, Datum.nesting,
    all_nesting_succ_le_iff hroom fun _ => Datum.nestingAll_le_iff]
  constructor
  · rintro ⟨hheld, hnesting⟩
    exact fun d hd => ⟨hheld d hd, hnesting d hd⟩
  · exact fun h => ⟨fun d hd => (h d hd).held, fun d hd => (h d hd).nesting_lt⟩

theorem holds_table_iff {entries : List (String × Datum)} :
    holds dialect (.table entries) = true ↔ ∀ e ∈ entries, Admits dialect e.2 := by
  have hnesting : ∀ k, Datum.nestingEntries entries ≤ k ↔
      ∀ d ∈ entries.map Prod.snd, d.nesting ≤ k := by
    intro k
    rw [Datum.nestingEntries_le_iff, List.forall_mem_map]
  rw [holds, Bool.and_eq_true, Datum.isHeld, Datum.entriesHeld_iff, Datum.nesting,
    all_nesting_succ_le_iff hroom hnesting, List.forall_mem_map]
  constructor
  · rintro ⟨hheld, hnesting⟩
    exact fun e he => ⟨hheld e he, hnesting e he⟩
  · exact fun h => ⟨fun e he => (h e he).held, fun e he => (h e he).nesting_lt⟩

end Holds

/-- A member is read as the record under its tag, if it is held as a whole. -/
theorem ofDatum?_eq_some_iff {α : Type} {dialect : Dialect} {tag : String} {r : Record α}
    {hfresh : tagKey ∉ r.names} {d : Datum} {a : α} {m : Member}
    (h : ∀ t rest, ofTagged? t rest = some m ↔ t = tag ∧ r.ofDatum? .tagged rest = some a) :
    ofDatum? dialect d = some m ↔
      holds dialect d = true ∧ (under tag r hfresh).ofDatum? .tagged d = some a := by
  rw [← untag?_iff, ofDatum?]
  by_cases hholds : holds dialect d = true
  · rw [if_pos hholds, and_iff_right hholds, Option.bind_eq_some_iff]
    constructor
    · rintro ⟨⟨t, rest⟩, huntag, hread⟩
      obtain ⟨rfl, hread⟩ := (h t rest).mp hread
      exact ⟨rest, huntag, hread⟩
    · rintro ⟨rest, huntag, hread⟩
      exact ⟨(tag, rest), huntag, (h tag rest).mpr ⟨rfl, hread⟩⟩
  · simp [hholds]

/-- **All spellings of a tagged record are read alike** if it is held as a whole and there is room for its
defaults, and nothing else is admitted under keys that it does not know. -/
theorem spellingsAlike_of_holds {α : Type} {dialect : Dialect} {r : Record α} {read : Datum → Option α}
    (hroom : dialect.taggedNesting.all (3 < ·) = true)
    (hread : ∀ d a, read d = some a ↔ holds dialect d = true ∧ r.ofDatum? .tagged d = some a)
    (hdefaults : ∀ f ∈ r.fields, ∀ d, f.SaysDefault d → d.Moderate 3) :
    SpellingsAlike r.fields (Admits dialect) read := by
  have hsome : dialect.taggedNesting.all (0 < ·) = true := by
    rw [Option.all_eq_true] at hroom ⊢
    intro limit hlimit
    have hlt : 3 < limit := of_decide_eq_true (hroom limit hlimit)
    exact decide_eq_true (Nat.zero_lt_of_lt hlt)
  refine ⟨.of_step ?_, ?_, ?_⟩
  · intro entries entries' a hstep ha
    obtain ⟨hholds, ha⟩ := (hread _ _).mp ha
    have hadmits := hstep.forall_mem ((holds_table_iff hsome).mp hholds)
    exact (hread _ _).mpr
      ⟨(holds_table_iff hsome).mpr hadmits, Record.ofDatum?_of_respelled rfl hstep ha⟩
  · intro entries items a hlisted ha
    obtain ⟨hholds, ha⟩ := (hread _ _).mp ha
    -- what a list holds beside the table are spelled-out defaults, which the room is for
    have hadmits := hlisted.forall_mem ((holds_table_iff hsome).mp hholds) fun f hf d hd =>
      admits_of_moderate hroom (hdefaults f hf d hd)
    exact (hread _ _).mpr
      ⟨(holds_list_iff hsome).mpr hadmits, r.listsAlike rfl entries items a hlisted ha⟩
  · intro entries key d a _ ha
    have hadmits := (holds_table_iff hsome).mp ((hread _ _).mp ha).1
    exact hadmits (key, d) List.mem_cons_self

end Member

/-! ## Methods and properties -/

namespace Method

/-- A method as a record, behind its tag. -/
def record (dialect : Dialect) : Record Method where
  fields := [.required "name" Datum.text?, .withDefault "is_static" false Datum.bool?,
    .withDefault "is_partial" false Datum.bool?, .required "return_type" Datum.text?,
    .withDefault "parameters" [] (Datum.list? (Parameter.ofDatum? dialect)),
    .withDefault "location" none (Datum.optional? (Location.ofDatum? dialect))]
  ofSlots := ofSlots dialect
  nodup_names := by
    show Method.fields.Nodup
    decide
  congr s s' h := by
    simp only [List.forall_mem_cons, RecordField.value_required, RecordField.value_withDefault] at h
    obtain ⟨hname, hstatic, hpartial, hreturn, hparameters, hlocation, -⟩ := h
    rw [ofSlots, hname, hstatic, hpartial, hreturn, hparameters, hlocation, ofSlots]

end Method

namespace Property

/-- A property as a record, behind its tag. -/
def record (dialect : Dialect) : Record Property where
  fields := [.required "name" Datum.text?, .required "type_name" Datum.text?,
    .withDefault "is_public" true Datum.bool?, .withDefault "is_partial" true Datum.bool?,
    .withDefault "accessors" [.get] (Datum.list? (Accessor.ofDatum? dialect)),
    .withDefault "returns_by_ref" false Datum.bool?,
    .withDefault "is_value_type" false Datum.bool?,
    .withDefault "location" none (Datum.optional? (Location.ofDatum? dialect))]
  ofSlots := ofSlots dialect
  nodup_names := by
    show Property.fields.Nodup
    decide
  congr s s' h := by
    simp only [List.forall_mem_cons, RecordField.value_required, RecordField.value_withDefault] at h
    obtain ⟨hname, htype, hpublic, hpartial, haccessors, hbyRef, hvalueType, hlocation, -⟩ := h
    rw [ofSlots, hname, htype, hpublic, hpartial, haccessors, hbyRef, hvalueType, hlocation, ofSlots]

end Property

namespace Member

/-- Behind its tag a member is read as a record. -/
theorem ofTagged?_eq (tag : String) (rest : Datum) :
    ofTagged? tag rest =
      if tag = methodTag then ((Method.record .tagged).ofDatum? .tagged rest).map method
      else if tag = propertyTag then ((Property.record .tagged).ofDatum? .tagged rest).map property
      else none :=
  rfl

theorem method?_eq_some_iff {member : Member} {m : Method} :
    member.method? = some m ↔ member = .method m := by
  cases member <;> simp [method?]

theorem property?_eq_some_iff {member : Member} {p : Property} :
    member.property? = some p ↔ member = .property p := by
  cases member <;> simp [property?]

end Member

namespace Method

/-- A method as a record, of which the tag is the first field. -/
def tagged : Record Method :=
  Member.under Member.methodTag (record .tagged) (by decide)

/-- Reads a method: a member that is one. -/
def ofDatum? (dialect : Dialect) (d : Datum) : Option Method :=
  (Member.ofDatum? dialect d).bind Member.method?

theorem ofTagged?_eq_method_iff {tag : String} {rest : Datum} {m : Method} :
    Member.ofTagged? tag rest = some (.method m) ↔
      tag = Member.methodTag ∧ (record .tagged).ofDatum? .tagged rest = some m := by
  have hne : Member.propertyTag ≠ Member.methodTag := by decide
  rw [Member.ofTagged?_eq]
  split
  · simp [*]
  · split <;> simp [*]

/-- **A method is read as a record of which the tag is the first field**, if it is held as a whole. -/
theorem ofDatum?_eq_some_iff {dialect : Dialect} {d : Datum} {m : Method} :
    ofDatum? dialect d = some m ↔
      Member.holds dialect d = true ∧ tagged.ofDatum? .tagged d = some m := by
  rw [tagged, ← Member.ofDatum?_eq_some_iff fun _ _ => ofTagged?_eq_method_iff, ofDatum?,
    Option.bind_eq_some_iff]
  simp [Member.method?_eq_some_iff]

/-- What says a default of a method is moderate. -/
theorem moderate_of_saysDefault : ∀ f ∈ tagged.fields, ∀ d, f.SaysDefault d → d.Moderate 3 := by
  simp only [tagged, Member.under, record, List.forall_mem_cons, RecordField.not_saysDefault_required,
    RecordField.saysDefault_withDefault_iff]
  refine ⟨nofun, nofun, ?isStatic, ?isPartial, nofun, ?parameters, ?location, nofun⟩
  case isStatic | isPartial => exact fun d => Datum.moderate_of_bool?
  case parameters => exact fun d hd => Datum.moderate_of_list? hd nofun
  case location => exact fun d => Datum.moderate_of_optional?_none

/-- **All spellings of a method are read alike.** -/
theorem spellingsAlike {dialect : Dialect} (hroom : dialect.taggedNesting.all (3 < ·) = true) :
    SpellingsAlike tagged.fields (Member.Admits dialect) (ofDatum? dialect) :=
  Member.spellingsAlike_of_holds hroom (fun _ _ => ofDatum?_eq_some_iff) moderate_of_saysDefault

end Method

namespace Property

/-- A property as a record, of which the tag is the first field. -/
def tagged : Record Property :=
  Member.under Member.propertyTag (record .tagged) (by decide)

/-- Reads a property: a member that is one. -/
def ofDatum? (dialect : Dialect) (d : Datum) : Option Property :=
  (Member.ofDatum? dialect d).bind Member.property?

theorem ofTagged?_eq_property_iff {tag : String} {rest : Datum} {p : Property} :
    Member.ofTagged? tag rest = some (.property p) ↔
      tag = Member.propertyTag ∧ (record .tagged).ofDatum? .tagged rest = some p := by
  have hne : Member.methodTag ≠ Member.propertyTag := by decide
  rw [Member.ofTagged?_eq]
  split
  · simp [*]
  · split <;> simp [*]

/-- **A property is read as a record of which the tag is the first field**, if it is held as a whole. -/
theorem ofDatum?_eq_some_iff {dialect : Dialect} {d : Datum} {p : Property} :
    ofDatum? dialect d = some p ↔
      Member.holds dialect d = true ∧ tagged.ofDatum? .tagged d = some p := by
  rw [tagged, ← Member.ofDatum?_eq_some_iff fun _ _ => ofTagged?_eq_property_iff, ofDatum?,
    Option.bind_eq_some_iff]
  simp [Member.property?_eq_some_iff]

/-- What says a default of a property is moderate. The accessors nest deepest: an accessor may stand as a
key, with something empty under it. -/
theorem moderate_of_saysDefault : ∀ f ∈ tagged.fields, ∀ d, f.SaysDefault d → d.Moderate 3 := by
  simp only [tagged, Member.under, record, List.forall_mem_cons, RecordField.not_saysDefault_required,
    RecordField.saysDefault_withDefault_iff]
  refine ⟨nofun, nofun, nofun, ?isPublic, ?isPartial, ?accessors, ?byRef, ?valueType, ?location, nofun⟩
  case isPublic | isPartial | byRef | valueType => exact fun d => Datum.moderate_of_bool?
  case accessors => exact fun d hd => Datum.moderate_of_list? hd fun _ _ _ => Datum.moderate_of_choice?
  case location => exact fun d => Datum.moderate_of_optional?_none

/-- **All spellings of a property are read alike.** -/
theorem spellingsAlike {dialect : Dialect} (hroom : dialect.taggedNesting.all (3 < ·) = true) :
    SpellingsAlike tagged.fields (Member.Admits dialect) (ofDatum? dialect) :=
  Member.spellingsAlike_of_holds hroom (fun _ _ => ofDatum?_eq_some_iff) moderate_of_saysDefault

end Property

end ValueObject
