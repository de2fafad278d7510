/-
# ValueObject.Proofs.Data.Spelling -- the spellings of a record

A record can be spelled in many ways. In a table its keys may stand in any order and among keys that the
record does not know, the key of a field that has a default may be left out where it says nothing else, and
what stands under a key may itself be spelled in another way. A list gives the fields in order, and may end
where the fields that follow have their defaults.

`Record` is what all readers of records have in common: named fields, each with a reader of its own and
perhaps a default, and nothing else that is looked at. From that alone all spellings of a record are read
alike (`Record.spellingsAlike`).
-/

import Mathlib.Data.List.Nodup
import Mathlib.Data.List.Perm.Basic
import Mathlib.Logic.Relation
import ValueObject.Data.Record

namespace ValueObject.Data

/-! ## Fields -/

/-- **A field of a record**: its name, how a datum is read as its value, and its value where the field is
left out, if it may be. -/
structure RecordField where
  name : String
  Value : Type
  read : Datum → Option Value
  default : Option Value

namespace RecordField

/-- A field that must be there. -/
abbrev required (name : String) {α : Type} (read : Datum → Option α) : RecordField :=
  ⟨name, α, read, none⟩

/-- A field that has a default. -/
abbrev withDefault (name : String) {α : Type} (value : α) (read : Datum → Option α) : RecordField :=
  ⟨name, α, read, some value⟩

/-- **The value of the field** in slots. -/
def value (f : RecordField) (s : Slots) : Option f.Value :=
  match f.default with
  | none => s.required f.name f.read
  | some value => s.orDefault f.name value f.read

/-- The datum says what leaving out the field would say. -/
def SaysDefault (f : RecordField) (d : Datum) : Prop :=
  ∃ a, f.default = some a ∧ f.read d = some a

/-- The field has a default, and the entries of a table say nothing else. -/
def HasDefault (f : RecordField) (entries : List (String × Datum)) : Prop :=
  ∃ a, f.default = some a ∧ f.value (.ofEntries entries) = some a

theorem value_eq (f : RecordField) (s : Slots) : f.value s = (s f.name).elim f.default f.read := by
  obtain ⟨name, Value, read, default⟩ := f
  cases default with
  | none => cases h : s name <;> simp [value, Slots.required, h]
  | some a => rfl

theorem value_required {name : String} {α : Type} {read : Datum → Option α} (s : Slots) :
    (required name read).value s = s.required name read :=
  rfl

theorem value_withDefault {name : String} {α : Type} {value : α} {read : Datum → Option α}
    (s : Slots) : (withDefault name value read).value s = s.orDefault name value read :=
  rfl

theorem not_saysDefault_required {name : String} {α : Type} {read : Datum → Option α} {d : Datum} :
    ¬(required name read).SaysDefault d := by
  rintro ⟨a, hdefault, -⟩
  exact nomatch hdefault

theorem saysDefault_withDefault_iff {name : String} {α : Type} {value : α} {read : Datum → Option α}
    {d : Datum} : (withDefault name value read).SaysDefault d ↔ read d = some value := by
  constructor
  · rintro ⟨a, hdefault, hread⟩
    obtain rfl := Option.some.inj hdefault
    exact hread
  · exact fun hread => ⟨value, rfl, hread⟩

/-- The value depends on the slot of the field alone. -/
theorem value_congr {f : RecordField} {s s' : Slots} (h : s f.name = s' f.name) :
    f.value s = f.value s' := by
  rw [value_eq, value_eq, h]

end RecordField

/-! ## Records -/

/-- **A record**: its fields in order, and a reader of slots that looks at nothing but the values of the
fields. -/
structure Record (α : Type) where
  fields : List RecordField
  ofSlots : Slots → Option α
  nodup_names : (fields.map RecordField.name).Nodup
  congr : ∀ s s' : Slots, (∀ f ∈ fields, f.value s = f.value s') → ofSlots s = ofSlots s'

namespace Record

/-- The names of the fields. -/
def names {α : Type} (r : Record α) : List String :=
  r.fields.map RecordField.name

/-- Reads the record. -/
def ofDatum? {α : Type} (r : Record α) (dialect : Dialect) (d : Datum) : Option α :=
  (dialect.slots? r.names d).bind r.ofSlots

end Record

/-! ## Spellings -/

/-- **Two tables of which the second respells the first.** The keys are permuted; a key that the record does
not know is added, with a datum that is admitted; a key is dropped under which the default stands; or what
stands under a key is put in other words, which are read as the same value. -/
inductive Respelled (fields : List RecordField) (admitted : Datum → Prop) :
    List (String × Datum) → List (String × Datum) → Prop
  | permuted {entries entries' : List (String × Datum)} :
      entries.Perm entries' → Respelled fields admitted entries entries'
  | added {entries : List (String × Datum)} {key : String} {d : Datum} :
      key ∉ fields.map RecordField.name → admitted d →
      Respelled fields admitted entries ((key, d) :: entries)
  | dropped {entries : List (String × Datum)} {f : RecordField} {d : Datum} :
      f ∈ fields → f.SaysDefault d → Respelled fields admitted ((f.name, d) :: entries) entries
  | reworded {entries : List (String × Datum)} {f : RecordField} {d d' : Datum} :
      f ∈ fields → f.read d = f.read d' → admitted d' →
      Respelled fields admitted ((f.name, d) :: entries) ((f.name, d') :: entries)

/-- **The list that gives the fields in order.** A field that the table has is given as it is there, and one
that it leaves out by a datum that says the default. The list may end where all fields that are left have
their defaults. -/
inductive Listed (entries : List (String × Datum)) : List RecordField → List Datum → Prop
  | given {f : RecordField} {fields : List RecordField} {d : Datum} {items : List Datum} :
      entries.lookup f.name = some d → Listed entries fields items →
      Listed entries (f :: fields) (d :: items)
  | spelledOut {f : RecordField} {fields : List RecordField} {d : Datum} {items : List Datum} :
      entries.lookup f.name = none → f.SaysDefault d → Listed entries fields items →
      Listed entries (f :: fields) (d :: items)
  | ended {fields : List RecordField} :
      (∀ f ∈ fields, f.HasDefault entries) → Listed entries fields []

/-- **All tables that respell one table are read alike**, in any number of steps. -/
def TablesAlike {α : Type} (fields : List RecordField) (admitted : Datum → Prop)
    (read : Datum → Option α) : Prop :=
  ∀ entries entries' a, Relation.ReflTransGen (Respelled fields admitted) entries entries' →
    read (.table entries) = some a → read (.table entries') = some a

/-- **A list is read like the table whose fields it gives.** -/
def ListsAlike {α : Type} (fields : List RecordField) (read : Datum → Option α) : Prop :=
  ∀ entries items a, Listed entries fields items →
    read (.table entries) = some a → read (.list items) = some a

/-- **No table is read that has a datum under an unknown key which is not admitted.** -/
def OnlyAdmits {α : Type} (fields : List RecordField) (admitted : Datum → Prop)
    (read : Datum → Option α) : Prop :=
  ∀ entries key d a, key ∉ fields.map RecordField.name →
    read (.table ((key, d) :: entries)) = some a → admitted d

/-- **All spellings of a record are read alike**, and those with a datum that is not admitted are none. -/
structure SpellingsAlike {α : Type} (fields : List RecordField) (admitted : Datum → Prop)
    (read : Datum → Option α) : Prop where
  tables : TablesAlike fields admitted read
  lists : ListsAlike fields read
  unknown : OnlyAdmits fields admitted read

/-- What single steps keep is kept in any number of steps. -/
theorem TablesAlike.of_step {α : Type} {fields : List RecordField} {admitted : Datum → Prop}
    {read : Datum → Option α}
    (h : ∀ entries entries' a, Respelled fields admitted entries entries' →
      read (.table entries) = some a → read (.table entries') = some a) :
    TablesAlike fields admitted read := by
  intro entries entries' a hsteps ha
  induction hsteps with
  | refl => exact ha
  | tail _ hstep ih => exact h _ _ a hstep ih

/-- Respelling brings in nothing but what is admitted. -/
theorem Respelled.forall_mem {fields : List RecordField} {admitted : Datum → Prop}
    {entries entries' : List (String × Datum)} (h : Respelled fields admitted entries entries')
    (hentries : ∀ e ∈ entries, admitted e.2) : ∀ e ∈ entries', admitted e.2 := by
  cases h with
  | permuted hperm => exact fun e he => hentries e (hperm.mem_iff.mpr he)
  | added _ hd => exact List.forall_mem_cons.mpr ⟨hd, hentries⟩
  | dropped => exact (List.forall_mem_cons.mp hentries).2
  | reworded _ _ hd => exact List.forall_mem_cons.mpr ⟨hd, (List.forall_mem_cons.mp hentries).2⟩

/-- A list holds nothing but what stands in the table and what says a default. -/
theorem Listed.forall_mem {entries : List (String × Datum)} {fields : List RecordField}
    {items : List Datum} (h : Listed entries fields items) {P : Datum → Prop}
    (hentries : ∀ e ∈ entries, P e.2) (hdefaults : ∀ f ∈ fields, ∀ d, f.SaysDefault d → P d) :
    ∀ d ∈ items, P d := by
  induction h with
  | @given f fields d items hlookup _ ih =>
    obtain ⟨before, after, hsplit, -⟩ := List.lookup_eq_some_iff.mp hlookup
    have hd : P d := hentries (f.name, d) (by simp [hsplit])
    exact List.forall_mem_cons.mpr ⟨hd, ih (List.forall_mem_cons.mp hdefaults).2⟩
  | spelledOut _ hdefault _ ih =>
    obtain ⟨hhead, hrest⟩ := List.forall_mem_cons.mp hdefaults
    exact List.forall_mem_cons.mpr ⟨hhead _ hdefault, ih hrest⟩
  | ended => exact fun d hd => absurd hd List.not_mem_nil

/-! ## Looking up a key -/

/-- A key is found at its first entry. -/
theorem lookup_eq_head?_filter (entries : List (String × Datum)) (name : String) :
    entries.lookup name = (entries.filter (·.1 == name)).head?.map Prod.snd := by
  induction entries with
  | nil => rfl
  | cons e rest ih =>
    rw [List.lookup_cons, List.filter_cons, ih]
    by_cases h : e.1 = name
    · simp [h]
    · rw [beq_eq_false_iff_ne.mpr (Ne.symm h), beq_eq_false_iff_ne.mpr h]
      rfl

theorem lookup_cons_of_ne {entries : List (String × Datum)} {key name : String} (d : Datum)
    (h : name ≠ key) : ((key, d) :: entries).lookup name = entries.lookup name := by
  rw [List.lookup_cons, beq_eq_false_iff_ne.mpr h]

theorem distinctKeys_iff {names : List String} {entries : List (String × Datum)} :
    distinctKeys names entries = true ↔
      ∀ name ∈ names, (entries.filter (·.1 == name)).length ≤ 1 := by
  simp [distinctKeys]

/-- A key that stands before one entry at most is found wherever that entry is. -/
theorem lookup_perm {entries entries' : List (String × Datum)} {name : String}
    (h : entries.Perm entries') (hone : (entries.filter (·.1 == name)).length ≤ 1) :
    entries.lookup name = entries'.lookup name := by
  have hperm := h.filter (·.1 == name)
  rw [lookup_eq_head?_filter, lookup_eq_head?_filter]
  rcases Nat.le_one_iff_eq_zero_or_eq_one.mp hone with hzero | hsingle
  · rw [List.length_eq_zero_iff.mp hzero] at hperm ⊢
    rw [hperm.nil_eq]
  · obtain ⟨e, he⟩ := List.length_eq_one_iff.mp hsingle
    rw [he] at hperm ⊢
    rw [hperm.singleton_eq]

/-! ## Reading the spellings of a record -/

namespace Record

variable {α : Type} {r : Record α} {dialect : Dialect} {entries entries' : List (String × Datum)} {a : α}

/-- No two fields have the same name. -/
theorem eq_of_name_eq {f g : RecordField} (hf : f ∈ r.fields) (hg : g ∈ r.fields)
    (h : f.name = g.name) : f = g :=
  List.inj_on_of_nodup_map r.nodup_names hf hg h

/-- A table is read if it repeats no field and its slots are read, where the dialect does not look at
unknown keys. -/
theorem ofDatum?_table_iff (hunknown : dialect.heldUnknown = false) :
    r.ofDatum? dialect (.table entries) = some a ↔
      distinctKeys r.names entries = true ∧ r.ofSlots (.ofEntries entries) = some a := by
  have hholds : dialect.holdsUnknown r.names entries = true := by
    rw [Dialect.holdsUnknown, hunknown]
    rfl
  rw [ofDatum?, Dialect.slots?, hholds, Bool.and_true]
  cases hdistinct : distinctKeys r.names entries <;> simp

/-- A list is read if it is not longer than the record and its slots are read, where the dialect keeps to
that length. -/
theorem ofDatum?_list_iff {items : List Datum} (hsurplus : dialect.surplus = false) :
    r.ofDatum? dialect (.list items) = some a ↔
      items.length ≤ r.names.length ∧ r.ofSlots (.ofItems r.names items) = some a := by
  rw [ofDatum?, Dialect.slots?, hsurplus, Bool.false_or]
  by_cases hlength : items.length ≤ r.names.length <;> simp [hlength]

/-- Tables in which every field has the same value are read alike. -/
theorem ofDatum?_table_of_value_eq (hunknown : dialect.heldUnknown = false)
    (ha : r.ofDatum? dialect (.table entries) = some a)
    (hdistinct : distinctKeys r.names entries' = true)
    (hvalue : ∀ f ∈ r.fields, f.value (.ofEntries entries') = f.value (.ofEntries entries)) :
    r.ofDatum? dialect (.table entries') = some a := by
  obtain ⟨-, hslots⟩ := (ofDatum?_table_iff hunknown).mp ha
  rw [ofDatum?_table_iff hunknown, r.congr _ _ hvalue]
  exact ⟨hdistinct, hslots⟩

/-- **Each step of respelling keeps what is read.** -/
theorem ofDatum?_of_respelled {admitted : Datum → Prop} (hunknown : dialect.heldUnknown = false)
    (h : Respelled r.fields admitted entries entries')
    (ha : r.ofDatum? dialect (.table entries) = some a) :
    r.ofDatum? dialect (.table entries') = some a := by
  have hdistinct := distinctKeys_iff.mp ((ofDatum?_table_iff hunknown).mp ha).1
  cases h with
  | permuted hperm =>
    refine ofDatum?_table_of_value_eq hunknown ha (distinctKeys_iff.mpr ?_) ?_
    · intro name hname
      rw [← (hperm.filter _).length_eq]
      exact hdistinct name hname
    · intro f hf
      -- only unknown keys may be repeated, so the first entry of a field is the only one
      have hone := hdistinct f.name (List.mem_map_of_mem hf)
      exact RecordField.value_congr (lookup_perm hperm hone).symm
  | @added _ key d hkey _ =>
    have hne : ∀ name ∈ r.names, name ≠ key := fun name hname hsame => hkey (hsame ▸ hname)
    refine ofDatum?_table_of_value_eq hunknown ha (distinctKeys_iff.mpr ?_) ?_
    · intro name hname
      rw [List.filter_cons_of_neg (by simpa using (hne name hname).symm)]
      exact hdistinct name hname
    · intro f hf
      exact RecordField.value_congr (lookup_cons_of_ne d (hne _ (List.mem_map_of_mem hf)))
  | @dropped _ f d hf hdefault =>
    refine ofDatum?_table_of_value_eq hunknown ha (distinctKeys_iff.mpr ?_) ?_
    · intro name hname
      exact Nat.le_trans ((List.sublist_cons_self _ _).filter _).length_le (hdistinct name hname)
    · intro g hg
      by_cases hname : g.name = f.name
      · obtain rfl := eq_of_name_eq hg hf hname
        -- the dropped entry was the only one of its field
        have hone := hdistinct g.name (List.mem_map_of_mem hg)
        rw [List.filter_cons_of_pos (by simp), List.length_cons, Nat.succ_le_succ_iff, Nat.le_zero,
          List.length_eq_zero_iff] at hone
        obtain ⟨value, hvalue, hread⟩ := hdefault
        have hnone : entries'.lookup g.name = none := by
          rw [lookup_eq_head?_filter, hone]
          rfl
        have hsome : ((g.name, d) :: entries').lookup g.name = some d := List.lookup_cons_self
        rw [RecordField.value_eq, RecordField.value_eq, Slots.ofEntries, Slots.ofEntries, hnone,
          hsome]
        exact hvalue.trans hread.symm
      · exact RecordField.value_congr (lookup_cons_of_ne d hname).symm
  | @reworded entries f d d' hf hread _ =>
    refine ofDatum?_table_of_value_eq hunknown ha (distinctKeys_iff.mpr ?_) ?_
    · intro name hname
      have hone := hdistinct name hname
      by_cases hsame : f.name = name <;> simpa [List.filter_cons, hsame] using hone
    · intro g hg
      by_cases hname : g.name = f.name
      · obtain rfl := eq_of_name_eq hg hf hname
        have hnew : ((g.name, d') :: entries).lookup g.name = some d' := List.lookup_cons_self
        have hold : ((g.name, d) :: entries).lookup g.name = some d := List.lookup_cons_self
        rw [RecordField.value_eq, RecordField.value_eq, Slots.ofEntries, Slots.ofEntries, hnew, hold]
        exact hread.symm
      · exact RecordField.value_congr
          ((lookup_cons_of_ne d' hname).trans (lookup_cons_of_ne d hname).symm)

/-- A list gives every field the value that it has in the table. -/
theorem value_ofItems_of_listed {fields : List RecordField} {items : List Datum}
    (hnodup : (fields.map RecordField.name).Nodup) (h : Listed entries fields items) :
    ∀ f ∈ fields, f.value (.ofItems (fields.map RecordField.name) items) =
      f.value (.ofEntries entries) := by
  -- the names are distinct, so the rest of a list does not see the field in front of it
  induction h with
  | ended hdefault =>
    intro f hf
    obtain ⟨a, hdefault, hvalue⟩ := hdefault f hf
    rw [hvalue, RecordField.value_eq, Slots.ofItems, List.zip_nil_right]
    exact hdefault
  | @given f fields d items hlookup _ ih =>
    obtain ⟨hfresh, hrest⟩ := List.nodup_cons.mp hnodup
    intro g hg
    rcases List.mem_cons.mp hg with rfl | hg
    · apply RecordField.value_congr
      exact (List.lookup_cons_self).trans hlookup.symm
    · have hne : g.name ≠ f.name := fun hsame => hfresh (hsame ▸ List.mem_map_of_mem hg)
      rw [← ih hrest g hg]
      exact RecordField.value_congr (lookup_cons_of_ne d hne)
  | @spelledOut f fields d items hlookup hdefault _ ih =>
    obtain ⟨hfresh, hrest⟩ := List.nodup_cons.mp hnodup
    intro g hg
    rcases List.mem_cons.mp hg with rfl | hg
    · obtain ⟨value, hvalue, hread⟩ := hdefault
      have hsome : Slots.ofItems ((g :: fields).map RecordField.name) (d :: items) g.name = some d :=
        List.lookup_cons_self
      rw [RecordField.value_eq, RecordField.value_eq, hsome, Slots.ofEntries, hlookup]
      exact hread.trans hvalue.symm
    · have hne : g.name ≠ f.name := fun hsame => hfresh (hsame ▸ List.mem_map_of_mem hg)
      rw [← ih hrest g hg]
      exact RecordField.value_congr (lookup_cons_of_ne d hne)

/-- A list is no longer than the record. -/
theorem length_le_of_listed {fields : List RecordField} {items : List Datum}
    (h : Listed entries fields items) : items.length ≤ fields.length := by
  induction h with
  | given _ _ ih => exact Nat.succ_le_succ ih
  | spelledOut _ _ _ ih => exact Nat.succ_le_succ ih
  | ended => exact Nat.zero_le _

/-- A list is read like the table whose fields it gives. -/
theorem listsAlike (r : Record α) (hunknown : dialect.heldUnknown = false) :
    ListsAlike r.fields (r.ofDatum? dialect) := by
  intro entries items a hlisted ha
  obtain ⟨-, hslots⟩ := (ofDatum?_table_iff hunknown).mp ha
  have hlength : decide (items.length ≤ r.names.length) = true := by
    rw [decide_eq_true_eq, names, List.length_map]
    exact length_le_of_listed hlisted
  rw [ofDatum?, Dialect.slots?, hlength, Bool.or_true, if_pos rfl, Option.bind_some]
  exact (r.congr _ _ (value_ofItems_of_listed r.nodup_names hlisted)).trans hslots

/-- **All spellings of a record are read alike**, where the dialect does not look at unknown keys: whatever
stands under these is admitted. -/
theorem spellingsAlike (r : Record α) (hunknown : dialect.heldUnknown = false) :
    SpellingsAlike r.fields (fun _ => True) (r.ofDatum? dialect) where
  tables := .of_step fun _ _ _ => ofDatum?_of_respelled hunknown
  lists := r.listsAlike hunknown
  unknown _ _ _ _ _ _ := trivial

end Record

end ValueObject.Data
