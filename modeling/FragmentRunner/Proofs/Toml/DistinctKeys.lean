import FragmentRunner.Toml.Document
import FragmentRunner.Proofs.Toml.Finds
import Mathlib.Data.List.Nodup

/-!
# Keys that stand once

A table lists its keys, and nothing in its type keeps a key from standing twice. What a document is
read into comes about by a few changes of tables, though, and each of them keeps the keys distinct,
in the table itself and in those inside it: `Proper` says that of a table and of a value.

* `Table.keeps_assign` and `Table.keeps_within`: the changes that lines make keep tables proper.
* `proper_of_parse?`: what a document is read into is proper.
-/

namespace FragmentRunner.Toml

mutual

/-- No key stands twice in a table inside the value. -/
inductive Value.Proper : Value → Prop
  | text (s : String) : Value.Proper (.text s)
  | integer (n : Int) : Value.Proper (.integer n)
  | decimal (d : Decimal) : Value.Proper (.decimal d)
  | boolean (b : Bool) : Value.Proper (.boolean b)
  | moment (m : Moment) : Value.Proper (.moment m)
  | list {items : List Value} (h : ∀ item ∈ items, item.Proper) : Value.Proper (.list items)
  | table {t : Table} (h : t.Proper) : Value.Proper (.table t)
  | tables {items : List Table} (h : ∀ t ∈ items, t.Proper) : Value.Proper (.tables items)

/-- No key stands twice in the table, nor in a table inside it. -/
inductive Table.Proper : Table → Prop
  | mk {origin : Origin} {entries : List (String × Value)} (hkeys : (entries.map Prod.fst).Nodup)
      (hvalues : ∀ entry ∈ entries, entry.2.Proper) : Table.Proper (.mk origin entries)

end

/-- What each step keeps holds after the last one. -/
theorem foldlM_keeps {σ α : Type} (holds : σ → Prop) {p : α → Prop} {f : σ → α → Option σ}
    (hstep : ∀ s a, holds s → p a → ∀ s', f s a = some s' → holds s') {items : List α}
    (hitems : ∀ a ∈ items, p a) {s s' : σ} (hs : holds s) (h : items.foldlM f s = some s') :
    holds s' := by
  induction items generalizing s with
  | nil =>
    obtain rfl := Option.some.inj h
    exact hs
  | cons a items ih =>
    obtain ⟨ha, hrest⟩ := List.forall_mem_cons.mp hitems
    rw [List.foldlM_cons] at h
    obtain ⟨next, hnext, h⟩ := Option.bind_eq_some_iff.mp h
    exact ih hrest (hstep s a hs ha next hnext) h

/-! ## Changes of tables -/

namespace Table

variable {t child : Table} {key : String} {value : Value} {entries : List (String × Value)}
  {items items' : List Table} {edit : Table → Option Table}

/-- The keys of a table after a change are those before, and the new one. -/
theorem keys_setEntry : (setEntry key value entries).map Prod.fst =
    if key ∈ entries.map Prod.fst then entries.map Prod.fst else entries.map Prod.fst ++ [key] := by
  induction entries with
  | nil => rfl
  | cons entry entries ih =>
    obtain ⟨k, v⟩ := entry
    rw [setEntry]
    by_cases hk : k = key
    · simp [hk]
    · rw [if_neg hk, List.map_cons, ih]
      split_ifs <;> simp_all

/-- An entry of a table after a change is the new one, or was there before. -/
theorem mem_setEntry {entry : String × Value} (h : entry ∈ setEntry key value entries) :
    entry = (key, value) ∨ entry ∈ entries := by
  induction entries with
  | nil => exact .inl (List.mem_singleton.mp h)
  | cons other entries ih =>
    obtain ⟨k, v⟩ := other
    rw [setEntry] at h
    split_ifs at h with hk
    · rcases List.mem_cons.mp h with rfl | hrest
      · exact .inl (by rw [hk])
      · exact .inr (List.mem_cons_of_mem _ hrest)
    · rcases List.mem_cons.mp h with rfl | hrest
      · exact .inr List.mem_cons_self
      · exact (ih hrest).imp_right (List.mem_cons_of_mem _)

/-- A table without keys is proper. -/
theorem proper_empty (origin : Origin) : (empty origin).Proper :=
  .mk List.nodup_nil (List.forall_mem_nil _)

namespace Proper

/-- The keys of a proper table are distinct. -/
theorem nodup (h : t.Proper) : (t.entries.map Prod.fst).Nodup := by
  obtain ⟨hkeys, -⟩ := h
  exact hkeys

/-- The values in a proper table are proper. -/
theorem of_mem (h : t.Proper) {entry : String × Value} (hentry : entry ∈ t.entries) :
    entry.2.Proper := by
  obtain ⟨-, hvalues⟩ := h
  exact hvalues entry hentry

/-- What is behind a key of a proper table is proper. -/
theorem of_get? (h : t.Proper) (hget : t.get? key = some value) : value.Proper := by
  rw [get?, List.lookup_eq_some_iff] at hget
  obtain ⟨front, back, hentries, -⟩ := hget
  exact h.of_mem (hentries ▸ List.mem_append_right front List.mem_cons_self)

/-- A table that is behind a key of a proper table is proper. -/
theorem of_get?_table (h : t.Proper) (hget : t.get? key = some (.table child)) : child.Proper := by
  cases h.of_get? hget with
  | table hchild => exact hchild

/-- So are the tables of a list. -/
theorem of_get?_tables (h : t.Proper) (hget : t.get? key = some (.tables items)) :
    ∀ item ∈ items, item.Proper := by
  cases h.of_get? hget with
  | tables hitems => exact hitems

/-- A proper value is put behind a key. -/
theorem set (h : t.Proper) (hvalue : value.Proper) : (t.set key value).Proper := by
  refine .mk ?_ fun entry hentry => ?_
  · -- A key that is there already keeps its place, and another one is added at the end.
    rw [keys_setEntry]
    split_ifs with hkey
    · exact h.nodup
    · exact List.nodup_append.mpr ⟨h.nodup, List.nodup_singleton key, by
        rintro other hother _ hlast rfl
        exact hkey (List.mem_singleton.mp hlast ▸ hother)⟩
  · rcases mem_setEntry hentry with rfl | hbefore
    · exact hvalue
    · exact h.of_mem hbefore

end Proper

/-- Every change that `edit` makes to a proper table leaves it proper. -/
def Keeps (edit : Table → Option Table) : Prop :=
  ∀ ⦃t t' : Table⦄, t.Proper → edit t = some t' → t'.Proper

/-- What is done to the last of some tables keeps all of them proper. -/
theorem Keeps.editLast (hedit : Keeps edit) (hitems : ∀ t ∈ items, t.Proper)
    (h : Table.editLast edit items = some items') : ∀ t ∈ items', t.Proper := by
  induction items generalizing items' with
  | nil => cases h
  | cons t items ih =>
    obtain ⟨ht, hrest⟩ := List.forall_mem_cons.mp hitems
    cases items with
    | nil =>
      obtain ⟨t', ht', rfl⟩ := Option.map_eq_some_iff.mp h
      exact List.forall_mem_singleton.mpr (hedit ht ht')
    | cons next items =>
      obtain ⟨rest', hrest', rfl⟩ := Option.map_eq_some_iff.mp h
      exact List.forall_mem_cons.mpr ⟨ht, ih hrest hrest'⟩

/-- A value is added under a dotted key. -/
theorem keeps_assign (hvalue : value.Proper) (key : String) (rest : List String) :
    Keeps (assign key rest value) := by
  induction rest generalizing key with
  | nil =>
    intro t t' ht h
    rw [assign] at h
    split at h
    · obtain rfl := Option.some.inj h
      exact ht.set hvalue
    · cases h
  | cons next rest ih =>
    intro t t' ht h
    rw [assign] at h
    -- The table on the way is new, or there already, or the last one of a list of tables.
    split at h
    · obtain ⟨child, hchild, rfl⟩ := Option.map_eq_some_iff.mp h
      exact ht.set (.table (ih next (proper_empty .dotted) hchild))
    · next child hget =>
      split_ifs at h
      obtain ⟨child', hchild, rfl⟩ := Option.map_eq_some_iff.mp h
      exact ht.set (.table (ih next (ht.of_get?_table hget) hchild))
    · next items hget =>
      split_ifs at h
      obtain ⟨items', hitems, rfl⟩ := Option.map_eq_some_iff.mp h
      exact ht.set (.tables ((ih next).editLast (ht.of_get?_tables hget) hitems))
    · cases h

/-- The change is made where the keys of a header lead. -/
theorem Keeps.within (hedit : Keeps edit) (path : List String) : Keeps (within path edit) := by
  induction path with
  | nil => exact hedit
  | cons key path ih =>
    intro t t' ht h
    rw [Table.within] at h
    split at h
    · obtain ⟨child, hchild, rfl⟩ := Option.map_eq_some_iff.mp h
      exact ht.set (.table (ih (proper_empty .passed) hchild))
    · next child hget =>
      split_ifs at h
      obtain ⟨child', hchild, rfl⟩ := Option.map_eq_some_iff.mp h
      exact ht.set (.table (ih (ht.of_get?_table hget) hchild))
    · next items hget =>
      obtain ⟨items', hitems, rfl⟩ := Option.map_eq_some_iff.mp h
      exact ht.set (.tables (ih.editLast (ht.of_get?_tables hget) hitems))
    · cases h

/-- A table gets its header. -/
theorem keeps_openTable (key : String) : Keeps (openTable key) := by
  intro t t' ht h
  rw [openTable] at h
  split at h
  · obtain rfl := Option.some.inj h
    exact ht.set (.table (proper_empty .header))
  · next child hget =>
    split_ifs at h
    obtain rfl := Option.some.inj h
    have hchild := ht.of_get?_table hget
    exact ht.set (.table (.mk hchild.nodup fun entry => hchild.of_mem))
  · cases h

/-- A table is added to a list of tables. -/
theorem keeps_addElement (key : String) : Keeps (addElement key) := by
  intro t t' ht h
  have hnew : ∀ item ∈ [empty .header], item.Proper :=
    List.forall_mem_singleton.mpr (proper_empty .header)
  rw [addElement] at h
  split at h
  · obtain rfl := Option.some.inj h
    exact ht.set (.tables hnew)
  · next items hget =>
    obtain rfl := Option.some.inj h
    exact ht.set (.tables (List.forall_mem_append.mpr ⟨ht.of_get?_tables hget, hnew⟩))
  · cases h

/-- A value is added under a key that is given by its parts. -/
theorem keeps_assignAt (hvalue : value.Proper) (parts : List String) :
    Keeps (assignAt parts value) := by
  intro t t' ht h
  cases parts with
  | nil => cases h
  | cons first rest => exact keeps_assign hvalue first rest ht h

end Table

/-! ## Documents -/

open Scanner

/-- What is not made of other values holds no table. -/
theorem finds_scalar : Finds scalar Value.Proper := by
  refine .orElse ?_ (.orElse ?_ (.orElse ?_ (.orElse ?_ ?_)))
  · exact finds_bind fun s => finds_pure (.text s)
  · exact finds_bind fun m => finds_pure (.moment m)
  · exact finds_bind fun d => finds_pure (.decimal d)
  · exact finds_bind fun n => finds_pure (.integer n)
  · exact finds_bind fun b => finds_pure (.boolean b)

section

variable {α : Type} {p : α → Prop} {item : Scanner α} {value : Scanner Value}

/-- The items of a list are of a kind. -/
theorem finds_listOf (hitem : Finds item p) : Finds (listOf item) fun items => ∀ a ∈ items, p a := by
  have hfilled : Finds (do filler; let found ← item; filler; return found) p :=
    finds_bind fun _ => hitem.bind fun a ha => finds_bind fun _ => finds_pure ha
  refine finds_bind fun _ => hfilled.separated.optional.bind fun items? hitems => ?_
  -- Whether or not a comma follows, the items are those that have been found.
  have hend : Finds (do filler; let _ ← char ']'; return items?.getD [])
      fun items => ∀ a ∈ items, p a := by
    refine finds_bind fun _ => finds_bind fun _ => finds_pure ?_
    cases items? with
    | none => exact List.forall_mem_nil p
    | some items => exact hitems items rfl
  split_ifs
  · exact finds_bind fun _ => hend
  · exact hend

/-- What is behind a key is proper. -/
theorem finds_assignment (hvalue : Finds value Value.Proper) :
    Finds (assignment value) fun found => found.2.Proper := by
  refine finds_bind fun _ => finds_bind fun _ => finds_bind fun _ => ?_
  exact hvalue.bind fun v hv => finds_pure hv

/-- What assignments of proper values make is a proper table. -/
theorem proper_of_tableOf? {entries : List (List String × Value)} {t : Table}
    (hentries : ∀ entry ∈ entries, entry.2.Proper) (h : tableOf? entries = some t) : t.Proper :=
  foldlM_keeps Table.Proper (fun _ entry ht hentry _ => Table.keeps_assignAt hentry entry.1 ht)
    hentries (Table.proper_empty .braces) h

/-- So is a table between braces. -/
theorem finds_inlineTable (hvalue : Finds value Value.Proper) :
    Finds (inlineTable value) Table.Proper := by
  have hspaced : Finds (spaced (assignment value)) fun found => found.2.Proper :=
    finds_bind fun _ => (finds_assignment hvalue).bind fun found hfound =>
      finds_bind fun _ => finds_pure hfound
  refine finds_bind fun _ => hspaced.separated.optional.bind fun entries? hentries => ?_
  refine finds_bind fun _ => finds_bind fun _ => finds_ofOption fun t ht => ?_
  refine proper_of_tableOf? ?_ ht
  cases entries? with
  | none => exact List.forall_mem_nil _
  | some entries => exact hentries entries rfl

end

/-- Values are proper, however deep they are nested. -/
theorem finds_value (depth : Nat) : Finds (value depth) Value.Proper := by
  induction depth with
  | zero => exact finds_scalar
  | succ depth ih =>
    refine .orElse ?_ (.orElse ?_ finds_scalar)
    · exact (finds_listOf ih).bind fun items hitems => finds_pure (.list hitems)
    · exact (finds_inlineTable ih).bind fun t ht => finds_pure (.table ht)

/-- The value that a line gives to a key is proper. -/
def Line.Proper : Line → Prop
  | .assignment _ value => value.Proper
  | _ => True

/-- A line gives proper values only. -/
theorem finds_line : Finds line Line.Proper := by
  refine .orElse ?_ (.orElse ?_ (.orElse ?_ (.orElse ?_ ?_)))
  · exact finds_bind fun _ => finds_bind fun _ => finds_pure trivial
  · exact finds_bind fun _ => finds_pure trivial
  · exact finds_bind fun _ => finds_pure trivial
  · exact finds_bind fun _ => finds_pure trivial
  · exact (finds_assignment (finds_value maxNesting)).bind fun found hfound =>
      finds_bind fun _ => finds_pure hfound

/-- So do the lines of a document. -/
theorem finds_lines : Finds lines fun found => ∀ line ∈ found, line.Proper := by
  refine finds_bind fun _ => finds_bind fun _ => Finds.many ?_
  exact finds_line.bind fun found hfound => finds_bind fun _ => finds_pure hfound

namespace Progress

variable {progress progress' : Progress}

/-- The table that a line adds to is edited. -/
theorem proper_edit {path : List String} {change : Table → Option Table}
    (hchange : Table.Keeps change) (hroot : progress.root.Proper)
    (h : progress.edit path change = some progress') : progress'.root.Proper := by
  obtain ⟨root, hedit, rfl⟩ := Option.map_eq_some_iff.mp h
  exact hchange.within path hroot hedit

/-- A header is read. -/
theorem proper_atHeader {parts : List String} {change : String → Table → Option Table}
    (hchange : ∀ key, Table.Keeps (change key)) (hroot : progress.root.Proper)
    (h : progress.atHeader parts change = some progress') : progress'.root.Proper := by
  rw [atHeader] at h
  split at h
  · cases h
  · next last above _ =>
    obtain ⟨edited, hedit, rfl⟩ := Option.map_eq_some_iff.mp h
    -- Only the path is set afterwards.
    have hedited : edited.root.Proper := proper_edit (hchange last) hroot hedit
    exact hedited

/-- A line keeps the table of the document proper. -/
theorem proper_add {line : Line} (hline : line.Proper) (hroot : progress.root.Proper)
    (h : progress.add line = some progress') : progress'.root.Proper := by
  cases line with
  | empty =>
    obtain rfl := Option.some.inj h
    exact hroot
  | assignment parts value => exact proper_edit (Table.keeps_assignAt hline parts) hroot h
  | header parts => exact proper_atHeader Table.keeps_openTable hroot h
  | elementHeader parts => exact proper_atHeader Table.keeps_addElement hroot h

end Progress

/-- What a document is read into is proper: no key stands twice in a table. -/
theorem proper_of_parse? {text : List Char} {t : Table} (h : parse? text = some t) : t.Proper := by
  obtain ⟨found, hfound, h⟩ := Option.bind_eq_some_iff.mp h
  obtain ⟨progress, hprogress, h⟩ := Option.bind_eq_some_iff.mp h
  obtain rfl := Option.some.inj h
  exact foldlM_keeps (fun progress => progress.root.Proper)
    (fun _ _ hroot hline _ hadd => Progress.proper_add hline hroot hadd) (finds_lines.parse? hfound)
    (Table.proper_empty .header) hprogress

end FragmentRunner.Toml
