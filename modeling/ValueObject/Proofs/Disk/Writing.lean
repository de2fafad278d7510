/-
# ValueObject.Proofs.Disk.Writing -- what writing a file leaves on a disk

Writing a file changes one entry of one folder. Everything else that stood somewhere still stands
there: files with their content, and folders with all their entries (`at?_put_of_ne`). So a path that
led to a place before the write leads to it afterwards (`KeepsFolders.follow`).

A path and the content of the file that it leads to are what `Stands` is about. A write that succeeds
has a target and puts its file there (`target_of_write`). The file stands (`Target.stands`), and so does
every file that stood at another place (`Target.keepsStanding`).
-/

import Mathlib.Data.List.Basic
import ValueObject.Disk.Tree

namespace ValueObject.Disk

namespace Node

/-! ## Entries of a folder -/

theorem lookup_setEntry_self (name : String) (n : Node) (entries : List (String × Node)) :
    (setEntry name n entries).lookup name = some n := by
  induction entries with
  | nil => simp [setEntry]
  | cons e rest ih =>
    obtain ⟨k, m⟩ := e
    by_cases hk : k = name
    · simp [setEntry, hk]
    · have hne : (name == k) = false := by simpa using Ne.symm hk
      rw [setEntry, if_neg hk, List.lookup_cons, hne]
      exact ih

theorem lookup_setEntry_of_ne {name part : String} (h : part ≠ name) (n : Node)
    (entries : List (String × Node)) :
    (setEntry name n entries).lookup part = entries.lookup part := by
  have hne : (part == name) = false := by simpa using h
  induction entries with
  | nil => simp [setEntry, List.lookup_cons, hne]
  | cons e rest ih =>
    obtain ⟨k, m⟩ := e
    by_cases hk : k = name
    · simp [setEntry, hk, List.lookup_cons, hne]
    · rw [setEntry, if_neg hk, List.lookup_cons, List.lookup_cons, ih]

/-! ## Nodes that keep what they hold -/

/-- **The second node keeps what the first holds**: a file its content, a folder its entries. An entry
may have become another node. -/
inductive Keeps : Node → Node → Prop
  | file (content : String) : Keeps (file content) (file content)
  | folder {entries entries' : List (String × Node)} :
      (∀ part, (entries.lookup part).isSome = true → (entries'.lookup part).isSome = true) →
      Keeps (folder entries) (folder entries')

theorem Keeps.refl (n : Node) : Keeps n n := by
  cases n with
  | file content => exact .file content
  | folder entries => exact .folder fun _ h => h

/-- Setting an entry loses none. -/
theorem keeps_setEntry (name : String) (n : Node) (entries : List (String × Node)) :
    Keeps (folder entries) (folder (setEntry name n entries)) := by
  refine .folder ?_
  intro part hpart
  by_cases h : part = name
  · rw [h, lookup_setEntry_self]
    rfl
  · rwa [lookup_setEntry_of_ne h]

/-- What stands below a place. -/
theorem at?_append (root : Node) (place below : List String) :
    root.at? (place ++ below) = (root.at? place).bind (at? below) := by
  induction place generalizing root with
  | nil => rfl
  | cons name rest ih =>
    cases root with
    | file content => rfl
    | folder entries =>
      rw [List.cons_append, at?, at?, Option.bind_assoc]
      congr
      funext child
      exact ih child

/-- Putting a node below an entry changes that entry. -/
theorem put_cons {name : String} {entries : List (String × Node)} {child : Node}
    (h : entries.lookup name = some child) (rest : List String) (n : Node) :
    (folder entries).put (name :: rest) n = folder (setEntry name (child.put rest n) entries) := by
  rw [put, h, Option.getD_some]

/-- **What is put somewhere stands there**, if the folder around it is there. -/
theorem at?_put_self {root : Node} {place : List String} {entries : List (String × Node)}
    (h : root.at? place = some (folder entries)) (last : String) (n : Node) :
    (root.put (place ++ [last]) n).at? (place ++ [last]) = some n := by
  induction place generalizing root with
  | nil =>
    obtain rfl : root = folder entries := Option.some.inj h
    simp [put, at?, lookup_setEntry_self]
  | cons name rest ih =>
    cases root with
    | file content => cases h
    | folder es =>
      obtain ⟨child, hchild, hrest⟩ := Option.bind_eq_some_iff.mp h
      rw [List.cons_append, put_cons hchild, at?, lookup_setEntry_self, Option.bind_some]
      exact ih hrest

/-- **Everywhere else nothing is lost.** What is put may stand in the place of a file or where nothing
was, but not in the place of a folder. -/
theorem at?_put_of_ne {root : Node} {place : List String} {last : String}
    {entries : List (String × Node)} (hfolder : root.at? place = some (folder entries))
    (hlast : ∀ es, entries.lookup last ≠ some (folder es)) (n : Node) {q : List String} {m : Node}
    (hq : root.at? q = some m) (hne : q ≠ place ++ [last]) :
    ∃ m', (root.put (place ++ [last]) n).at? q = some m' ∧ Keeps m m' := by
  induction place generalizing root q with
  | nil =>
    obtain rfl : root = folder entries := Option.some.inj hfolder
    cases q with
    | nil =>
      obtain rfl : folder entries = m := Option.some.inj hq
      exact ⟨_, rfl, keeps_setEntry _ _ _⟩
    | cons part rest =>
      obtain ⟨child, hchild, hrest⟩ := Option.bind_eq_some_iff.mp hq
      by_cases hpart : part = last
      · -- below what was there lies nothing, because it was no folder
        subst hpart
        cases child with
        | folder es => exact absurd hchild (hlast es)
        | file content =>
          cases rest with
          | nil => exact absurd rfl hne
          | cons x xs => cases hrest
      · refine ⟨m, ?_, .refl m⟩
        rw [List.nil_append, put, at?, lookup_setEntry_of_ne hpart, hchild]
        exact hrest
  | cons name place ih =>
    cases root with
    | file content => cases hfolder
    | folder es =>
      obtain ⟨child, hchild, hplace⟩ := Option.bind_eq_some_iff.mp hfolder
      rw [List.cons_append, put_cons hchild]
      cases q with
      | nil =>
        obtain rfl : folder es = m := Option.some.inj hq
        exact ⟨_, rfl, keeps_setEntry _ _ _⟩
      | cons part rest =>
        obtain ⟨other, hother, hrest⟩ := Option.bind_eq_some_iff.mp hq
        by_cases hpart : part = name
        · subst hpart
          obtain rfl : child = other := Option.some.inj (hchild.symm.trans hother)
          rw [at?, lookup_setEntry_self, Option.bind_some]
          refine ih hplace hrest ?_
          rintro rfl
          exact hne rfl
        · refine ⟨m, ?_, .refl m⟩
          rw [at?, lookup_setEntry_of_ne hpart, hother]
          exact hrest

end Node

/-! ## Following parts -/

/-- **One part leads from a place to a place.** The place that it leads from must be a folder. -/
inductive Leads (root : Node) (place : List String) : String → List String → Prop
  | here {entries : List (String × Node)} :
      root.at? place = some (.folder entries) → Leads root place "." place
  | around {entries : List (String × Node)} :
      root.at? place = some (.folder entries) → Leads root place ".." place.dropLast
  | into {entries : List (String × Node)} {part : String} :
      root.at? place = some (.folder entries) → part ≠ "." → part ≠ ".." →
      part.utf8ByteSize ≤ nameLimit → (entries.lookup part).isSome = true →
      Leads root place part (place ++ [part])

theorem follow_cons_eq_ok_iff {root : Node} {place rest target : List String} {part : String} :
    follow root place (part :: rest) = .ok target ↔
      ∃ next, Leads root place part next ∧ follow root next rest = .ok target := by
  constructor
  · intro h
    rw [follow] at h
    split at h
    · next entries hentries =>
      split at h
      · next hdot => exact ⟨place, hdot ▸ .here hentries, h⟩
      · next hdot =>
        split at h
        · next hdots => exact ⟨place.dropLast, hdots ▸ .around hentries, h⟩
        · next hdots =>
          split at h
          · cases h
          · next hlong =>
            split at h
            · next hthere =>
              exact ⟨place ++ [part], .into hentries hdot hdots (Nat.not_lt.mp hlong) hthere, h⟩
            · cases h
    · cases h
    · cases h
  · rintro ⟨next, hleads, h⟩
    rw [follow]
    cases hleads with
    | here hentries => simpa [hentries] using h
    | around hentries => simpa [hentries] using h
    | into hentries hdot hdots hshort hthere =>
      simpa [hentries, hdot, hdots, Nat.not_lt.mpr hshort, hthere] using h

theorem follow_append_eq_ok_iff {root : Node} {place a b target : List String} :
    follow root place (a ++ b) = .ok target ↔
      ∃ between, follow root place a = .ok between ∧ follow root between b = .ok target := by
  induction a generalizing place with
  | nil => simp [follow]
  | cons part rest ih =>
    rw [List.cons_append, follow_cons_eq_ok_iff]
    simp only [ih, follow_cons_eq_ok_iff]
    grind

/-- **Every folder of the first tree is one of the second**, and keeps its entries there. -/
def KeepsFolders (root root' : Node) : Prop :=
  ∀ q entries, root.at? q = some (.folder entries) →
    ∃ m, root'.at? q = some m ∧ Node.Keeps (.folder entries) m

theorem KeepsFolders.leads {root root' : Node} (h : KeepsFolders root root')
    {place next : List String} {part : String} (hleads : Leads root place part next) :
    Leads root' place part next := by
  cases hleads with
  | here hentries =>
    obtain ⟨m, hm, hkept⟩ := h _ _ hentries
    cases hkept
    exact .here hm
  | around hentries =>
    obtain ⟨m, hm, hkept⟩ := h _ _ hentries
    cases hkept
    exact .around hm
  | into hentries hdot hdots hshort hthere =>
    obtain ⟨m, hm, hkept⟩ := h _ _ hentries
    cases hkept with
    | folder hkept => exact .into hm hdot hdots hshort (hkept _ hthere)

/-- **Where folders are kept, parts lead to where they led.** -/
theorem KeepsFolders.follow {root root' : Node} (h : KeepsFolders root root')
    {place parts target : List String} (hfollow : Disk.follow root place parts = .ok target) :
    Disk.follow root' place parts = .ok target := by
  induction parts generalizing place with
  | nil => exact hfollow
  | cons part rest ih =>
    obtain ⟨next, hleads, hrest⟩ := follow_cons_eq_ok_iff.mp hfollow
    exact follow_cons_eq_ok_iff.mpr ⟨next, h.leads hleads, ih hrest⟩

/-! ## Writing a file -/

/-- **A file may be written at a path**: the path leads to a name in a folder, and no folder has that
name there. -/
structure Target (d : Disk) (path : String) (place : List String) (last : String) : Prop where
  valid : checkPath path = .ok ()
  parts : (Path.parts path).getLast? = some last
  noSlash : Path.hasTrailingSlash path = false
  leads : follow d.root (d.start path) (Path.parts path).dropLast = .ok place
  notDot : last ≠ "."
  notDots : last ≠ ".."
  short : last.utf8ByteSize ≤ nameLimit
  free : ∃ entries, d.root.at? place = some (.folder entries) ∧
    ∀ es, entries.lookup last ≠ some (.folder es)

/-- The disk with a file put at a place. -/
def withFileAt (d : Disk) (place : List String) (content : String) : Disk :=
  { d with root := d.root.put place (.file content) }

theorem resolveLast_eq_ok {d : Disk} {path : String} {place : List String} {last : String}
    {entries : List (String × Node)} (h : d.resolveLast path = .ok (place, some (last, entries))) :
    checkPath path = .ok () ∧ (Path.parts path).getLast? = some last ∧
      follow d.root (d.start path) (Path.parts path).dropLast = .ok place ∧
      d.root.at? place = some (.folder entries) := by
  simp only [resolveLast, bind, Except.bind] at h
  split at h
  · cases h
  · next hvalid =>
    split at h
    · cases h
    · next x hparts =>
      split at h
      · cases h
      · next p hfollow =>
        split at h
        · next es hes =>
          cases h
          exact ⟨hvalid, hparts, hfollow, hes⟩
        · cases h
        · cases h

/-- **A write that succeeds** has a target and puts the file there. -/
theorem target_of_write {d d' : Disk} {path content : String}
    (h : d.write path content = (.ok (), d')) :
    ∃ place last, d.Target path place last ∧ d' = d.withFileAt (place ++ [last]) content := by
  unfold write at h
  split at h
  · cases h
  · cases h
  · next place last entries hlast =>
    obtain ⟨hvalid, hparts, hleads, hentries⟩ := resolveLast_eq_ok hlast
    split at h
    · cases h
    · next hname =>
      simp only [not_or, Bool.not_eq_true] at hname
      obtain ⟨hdot, hdots, hslash⟩ := hname
      split at h
      · cases h
      · next hshort =>
        split at h
        · cases h
        · next hfree =>
          cases h
          exact ⟨place, last, ⟨hvalid, hparts, hslash, hleads, hdot, hdots, Nat.not_lt.mp hshort,
            entries, hentries, hfree⟩, rfl⟩

/-! ## Files that stand -/

/-- **The path leads to the place, and a file with that content stands there.** -/
def Stands (d : Disk) (path : String) (place : List String) (content : String) : Prop :=
  d.resolve path = .ok place ∧ d.root.at? place = some (.file content)

theorem resolve_eq_ok_of_file {d : Disk} {path content : String} {place : List String}
    (hfile : d.root.at? place = some (.file content)) :
    d.resolve path = .ok place ↔ checkPath path = .ok () ∧
      follow d.root (d.start path) (Path.parts path) = .ok place ∧
      Path.hasTrailingSlash path = false := by
  simp only [resolve, bind, Except.bind]
  constructor
  · intro h
    split at h
    · cases h
    · next hvalid =>
      split at h
      · cases h
      · next target hfollow =>
        split at h
        · split at h
          · cases h
          · next hslash =>
            cases h
            exact ⟨hvalid, hfollow, Bool.not_eq_true _ ▸ hslash⟩
        · next hnone =>
          cases h
          exact absurd hfile (hnone content)
  · rintro ⟨hvalid, hfollow, hslash⟩
    simp [hvalid, hfollow, hfile, hslash]

namespace Target

variable {d : Disk} {path : String} {place : List String} {last : String}

/-- A write keeps every folder. -/
theorem keepsFolders (h : d.Target path place last) (content : String) :
    KeepsFolders d.root (d.withFileAt (place ++ [last]) content).root := by
  obtain ⟨entries, hentries, hfree⟩ := h.free
  intro q es hq
  refine Node.at?_put_of_ne hentries hfree _ hq ?_
  rintro rfl
  -- the place of the file was no folder
  rw [Node.at?_append, hentries, Option.bind_some] at hq
  obtain ⟨child, hchild, hfolder⟩ := Option.bind_eq_some_iff.mp hq
  obtain rfl : child = .folder es := Option.some.inj hfolder
  exact hfree es hchild

/-- The parts of a path with a target are those that lead to the folder, and the name. -/
theorem parts_eq (h : d.Target path place last) :
    Path.parts path = (Path.parts path).dropLast ++ [last] := by
  have hne : Path.parts path ≠ [] := by
    intro hnil
    have hlast := h.parts
    rw [hnil] at hlast
    cases hlast
  have hlast : (Path.parts path).getLast hne = last := by
    have hsome := h.parts
    rw [List.getLast?_eq_some_getLast hne] at hsome
    exact Option.some.inj hsome
  rw [← hlast]
  exact (List.dropLast_append_getLast hne).symm

/-- **What is written stands.** -/
theorem stands (h : d.Target path place last) (content : String) :
    (d.withFileAt (place ++ [last]) content).Stands path (place ++ [last]) content := by
  obtain ⟨entries, hentries, hfree⟩ := h.free
  have hfile : (d.withFileAt (place ++ [last]) content).root.at? (place ++ [last]) =
      some (.file content) := Node.at?_put_self hentries last _
  refine ⟨(resolve_eq_ok_of_file hfile).mpr ⟨h.valid, ?_, h.noSlash⟩, hfile⟩
  have hkept := h.keepsFolders content
  rw [h.parts_eq, follow_append_eq_ok_iff]
  refine ⟨place, hkept.follow h.leads, follow_cons_eq_ok_iff.mpr ⟨place ++ [last], ?_, rfl⟩⟩
  -- the folder is still there, and now it has the name among its entries
  obtain ⟨m, hm, hkeeps⟩ := hkept place entries hentries
  cases hkeeps with
  | @folder _ entries' _ =>
    refine .into hm h.notDot h.notDots h.short ?_
    rw [Node.at?_append, hm, Option.bind_some] at hfile
    obtain ⟨child, hchild, -⟩ := Option.bind_eq_some_iff.mp hfile
    rw [hchild]
    rfl

/-- **What stood elsewhere still stands.** -/
theorem keepsStanding (h : d.Target path place last) (content : String) {other c : String}
    {q : List String} (hq : d.Stands other q c) (hne : q ≠ place ++ [last]) :
    (d.withFileAt (place ++ [last]) content).Stands other q c := by
  obtain ⟨entries, hentries, hfree⟩ := h.free
  obtain ⟨hresolve, hfile⟩ := hq
  obtain ⟨hvalid, hfollow, hslash⟩ := (resolve_eq_ok_of_file hfile).mp hresolve
  obtain ⟨m, hm, hkeeps⟩ := Node.at?_put_of_ne hentries hfree (.file content) hfile hne
  cases hkeeps
  exact ⟨(resolve_eq_ok_of_file hm).mpr ⟨hvalid, (h.keepsFolders content).follow hfollow, hslash⟩, hm⟩

/-- **What stood at the place itself is replaced**, by whatever path it was reached. -/
theorem replacesStanding (h : d.Target path place last) (content : String) {other c : String}
    (hq : d.Stands other (place ++ [last]) c) :
    (d.withFileAt (place ++ [last]) content).Stands other (place ++ [last]) content := by
  obtain ⟨hresolve, hfile⟩ := hq
  obtain ⟨hvalid, hfollow, hslash⟩ := (resolve_eq_ok_of_file hfile).mp hresolve
  have hnew := (h.stands content).2
  exact ⟨(resolve_eq_ok_of_file hnew).mpr ⟨hvalid, (h.keepsFolders content).follow hfollow, hslash⟩,
    hnew⟩

end Target

end ValueObject.Disk
