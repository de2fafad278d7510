/-
# ValueObject.Proofs.Data.ReadBack -- data that read back as what was written

A reader **reads back** what a writer writes if it gives every value again. That carries over from a
value to lists of such values, to values that may be absent, and to records: a table with the fields of
a record for keys has the slots of its entries, in every dialect.

A tagged record is held as a whole before it is read, so its datum must also be **moderate**: no number
beyond 64 bits, and no deeper nesting than the dialect allows.
-/

import Mathlib.Data.List.Nodup
import ValueObject.Data.Record

namespace ValueObject.Data

/-- **The reader gives every value again** that the writer wrote. -/
def ReadsBack {α : Type} (read : Datum → Option α) (write : α → Datum) : Prop :=
  ∀ a, read (write a) = some a

namespace ReadsBack

variable {α : Type} {read : Datum → Option α} {write : α → Datum}

theorem text : ReadsBack Datum.text? Datum.text :=
  fun _ => rfl

theorem bool : ReadsBack Datum.bool? Datum.bool :=
  fun _ => rfl

theorem word : ReadsBack Datum.word? fun n => .integer n.toNat :=
  Datum.word?_ofNat

/-- A list reads back when its items do. -/
theorem list (h : ReadsBack read write) :
    ReadsBack (Datum.list? read) fun as => .list (as.map write) := by
  intro as
  have hread : (fun a => read (write a)) = fun a => some a := funext h
  have hpure : as.mapM (fun a => (pure a : Option α)) = some (as.map id) := List.mapM_pure
  rw [Datum.list?, List.mapM_map]
  simpa [Function.comp_def, hread] using hpure

theorem optional_of_ne_null {d : Datum} (hd : d ≠ .null) :
    Datum.optional? read d = (read d).map some := by
  cases d <;> first | exact absurd rfl hd | rfl

/-- A value that may be absent reads back when it is never written as nothing. -/
theorem optional (h : ReadsBack read write) (hnull : ∀ a, write a ≠ .null) :
    ReadsBack (Datum.optional? read) fun o => o.elim .null write := by
  intro o
  cases o with
  | none => rfl
  | some a =>
    show Datum.optional? read (write a) = some (some a)
    rw [optional_of_ne_null (hnull a), h a]
    rfl

/-- A choice reads back when every name stands for what was chosen. -/
theorem choice {names : List (String × α)} {name : α → String} (dialect : Dialect)
    (h : ∀ a, names.lookup (name a) = some a) :
    ReadsBack (dialect.choice? names) fun a => .text (name a) :=
  fun a => h a

end ReadsBack

/-! ## Records -/

/-- No name stands before two of the entries if their keys are distinct. -/
theorem distinctKeys_of_nodup (names : List String) {entries : List (String × Datum)}
    (h : (entries.map Prod.fst).Nodup) : distinctKeys names entries = true := by
  rw [distinctKeys, List.all_eq_true]
  intro name _
  have hcount := List.nodup_iff_count_le_one.mp h name
  rw [List.count, List.countP_map, List.countP_eq_length_filter] at hcount
  simpa [Function.comp_def] using hcount

/-- A key among the fields of the record is known. -/
theorem contains_of_keys {names : List String} {entries : List (String × Datum)}
    (hkeys : (entries.map Prod.fst).Sublist names) {e : String × Datum} (he : e ∈ entries) :
    names.contains e.1 = true := by
  have hname := hkeys.subset (List.mem_map_of_mem (f := Prod.fst) he)
  simpa using hname

theorem Dialect.admitsVariant_table (dialect : Dialect) {names : List String}
    {entries : List (String × Datum)} (hkeys : (entries.map Prod.fst).Sublist names) :
    dialect.admitsVariant names (.table entries) = true := by
  rw [admitsVariant, Bool.or_eq_true, List.all_eq_true]
  exact .inr fun e he => contains_of_keys hkeys he

/-- **A table with fields of the record for keys** has the slots of its entries. -/
theorem Dialect.slots?_table (dialect : Dialect) {names : List String}
    {entries : List (String × Datum)} (hkeys : (entries.map Prod.fst).Sublist names)
    (hnames : names.Nodup) : dialect.slots? names (.table entries) = some (.ofEntries entries) := by
  have hdistinct := distinctKeys_of_nodup names (hnames.sublist hkeys)
  have hknown : dialect.holdsUnknown names entries = true := by
    rw [Dialect.holdsUnknown, Bool.or_eq_true, List.all_eq_true]
    right
    intro e he
    rw [contains_of_keys hkeys he, Bool.true_or]
  simp [slots?, hdistinct, hknown]

/-- A record is read from a table of its fields as from the slots of the entries. -/
theorem Dialect.bind_slots?_table {α : Type} (dialect : Dialect) {names : List String}
    {entries : List (String × Datum)} {read : Slots → Option α} {a : α}
    (hkeys : (entries.map Prod.fst).Sublist names) (hnames : names.Nodup)
    (hread : read (.ofEntries entries) = some a) :
    (dialect.slots? names (.table entries)).bind read = some a := by
  rw [dialect.slots?_table hkeys hnames]
  exact hread

namespace Slots

variable {α : Type} {read : Datum → Option α} {write : α → Datum}
  {entries : List (String × Datum)} {name : String}

/-- A field that was written is found. -/
theorem required_of_lookup (h : ReadsBack read write) {a : α}
    (hentry : entries.lookup name = some (write a)) :
    (ofEntries entries).required name read = some a := by
  rw [required, ofEntries, hentry]
  exact h a

theorem orDefault_of_lookup (h : ReadsBack read write) (value : α) {a : α}
    (hentry : entries.lookup name = some (write a)) :
    (ofEntries entries).orDefault name value read = some a := by
  rw [orDefault, ofEntries, hentry]
  exact h a

/-- A field that is left out where it is absent is found to be absent. -/
theorem orDefault_of_lookup_map (h : ReadsBack read write) (hnull : ∀ a, write a ≠ .null)
    {o : Option α} (hentry : entries.lookup name = o.map write) :
    (ofEntries entries).orDefault name none (Datum.optional? read) = some o := by
  rw [orDefault, ofEntries, hentry]
  cases o with
  | none => rfl
  | some a => exact h.optional hnull (some a)

end Slots

/-! ## Moderate data -/

namespace Datum

theorem allHeld_iff {fits : Int → Bool} {items : List Datum} :
    allHeld fits items = true ↔ ∀ d ∈ items, d.isHeld fits = true := by
  induction items with
  | nil => simp [allHeld]
  | cons d rest ih => simp [allHeld, ih]

theorem entriesHeld_iff {fits : Int → Bool} {entries : List (String × Datum)} :
    entriesHeld fits entries = true ↔ ∀ e ∈ entries, e.2.isHeld fits = true := by
  induction entries with
  | nil => simp [entriesHeld]
  | cons e rest ih => simp [entriesHeld, ih]

theorem nestingAll_le_iff {n : Nat} {items : List Datum} :
    nestingAll items ≤ n ↔ ∀ d ∈ items, d.nesting ≤ n := by
  induction items with
  | nil => simp [nestingAll]
  | cons d rest ih => rw [nestingAll, Nat.max_le, ih, List.forall_mem_cons]

theorem nestingEntries_le_iff {n : Nat} {entries : List (String × Datum)} :
    nestingEntries entries ≤ n ↔ ∀ e ∈ entries, e.2.nesting ≤ n := by
  induction entries with
  | nil => simp [nestingEntries]
  | cons e rest ih => rw [nestingEntries, Nat.max_le, ih, List.forall_mem_cons]

/-- **The datum is moderate**: its numbers fit into 64 bits, and it nests at most `n` deep. -/
structure Moderate (n : Nat) (d : Datum) : Prop where
  held : d.isHeld fitsWord = true
  nesting_le : d.nesting ≤ n

namespace Moderate

variable {n : Nat}

theorem null : Moderate n .null := ⟨rfl, Nat.zero_le n⟩

theorem bool (b : Bool) : Moderate n (.bool b) := ⟨rfl, Nat.zero_le n⟩

theorem text (s : String) : Moderate n (.text s) := ⟨rfl, Nat.zero_le n⟩

theorem word (w : UInt32) : Moderate n (.integer w.toNat) := by
  have hlt := w.toNat_lt
  refine ⟨?_, Nat.zero_le n⟩
  simp [isHeld, fitsWord]
  omega

theorem list {items : List Datum} (h : ∀ d ∈ items, Moderate n d) :
    Moderate (n + 1) (.list items) where
  held := allHeld_iff.mpr fun d hd => (h d hd).held
  nesting_le := Nat.succ_le_succ (nestingAll_le_iff.mpr fun d hd => (h d hd).nesting_le)

theorem table {entries : List (String × Datum)} (h : ∀ e ∈ entries, Moderate n e.2) :
    Moderate (n + 1) (.table entries) where
  held := entriesHeld_iff.mpr fun e he => (h e he).held
  nesting_le := Nat.succ_le_succ (nestingEntries_le_iff.mpr fun e he => (h e he).nesting_le)

theorem mono {d : Datum} {k : Nat} (h : Moderate n d) (hle : n ≤ k) : Moderate k d :=
  ⟨h.held, Nat.le_trans h.nesting_le hle⟩

end Moderate

end Datum

end ValueObject.Data
