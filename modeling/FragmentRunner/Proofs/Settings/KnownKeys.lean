import FragmentRunner.Proofs.Settings.Layout
import FragmentRunner.Proofs.Toml.DistinctKeys

/-!
# What settings depend on

The settings that a document stands for are told by what it says about the fields that there are.
How it says that does not matter: not the order of the keys, not other keys in the document or in a
section, and not whether a section is a table, or the list of its first fields, or is left out
because it would be empty. `Alike` are sections that differ in these ways only.

* `Alike.said_eq`: sections that are alike say the same about every field.
* `settings_by_known_keys`: when a document stands for settings, for which ones, and which other
  documents stand for the same.
* `date_taken_for_section`: a section may also be a date, which says nothing.
-/

namespace FragmentRunner.Settings

/-! ## Tables with the same entries -/

section Entries

variable {t t' : Toml.Table} {names : List String} {key : String} {value : Toml.Value}
  {entries : List (String × Toml.Value)}

/-- No key stands twice in a table. -/
def DistinctKeys (t : Toml.Table) : Prop :=
  (t.entries.map Prod.fst).Nodup

instance (t : Toml.Table) : Decidable (DistinctKeys t) :=
  inferInstanceAs (Decidable (List.Nodup _))

/-- Two tables hold the same behind these keys, in whatever order the keys stand and whatever other
keys there are. -/
def SameEntries (names : List String) (t t' : Toml.Table) : Prop :=
  (t.entries.filter fun entry => entry.1 ∈ names).Perm
    (t'.entries.filter fun entry => entry.1 ∈ names)

/-- A value is found behind a key that stands nowhere else. -/
theorem lookup_eq_some_iff_mem (h : (entries.map Prod.fst).Nodup) :
    entries.lookup key = some value ↔ (key, value) ∈ entries := by
  rw [List.lookup_eq_some_iff]
  constructor
  · rintro ⟨front, back, rfl, -⟩
    exact List.mem_append_right front List.mem_cons_self
  · intro hmem
    -- The key stands nowhere else, so not in front either.
    obtain ⟨front, back, rfl⟩ := List.append_of_mem hmem
    refine ⟨front, back, rfl, fun entry hentry => ?_⟩
    rw [List.map_append, List.map_cons, List.nodup_middle, List.nodup_cons] at h
    have hne : key ≠ entry.1 := fun hkey =>
      h.1 (List.mem_append_left _ (List.mem_map.mpr ⟨entry, hentry, hkey.symm⟩))
    simpa using hne

/-- In what order the entries of a table stand does not matter. -/
theorem lookup_eq_of_perm {others : List (String × Toml.Value)}
    (h : (entries.map Prod.fst).Nodup) (hperm : entries.Perm others) :
    others.lookup key = entries.lookup key := by
  have hothers : (others.map Prod.fst).Nodup := (hperm.map Prod.fst).nodup_iff.mp h
  refine Option.ext fun value => ?_
  rw [lookup_eq_some_iff_mem h, lookup_eq_some_iff_mem hothers, hperm.mem_iff]

/-- Entries with other keys are not looked at. -/
theorem lookup_filter_mem (hkey : key ∈ names) :
    (entries.filter fun entry => entry.1 ∈ names).lookup key = entries.lookup key := by
  induction entries with
  | nil => rfl
  | cons entry entries ih =>
    obtain ⟨other, value⟩ := entry
    by_cases hother : other ∈ names
    · rw [List.filter_cons_of_pos (by simpa using hother), List.lookup_cons, List.lookup_cons, ih]
    · have hne : (key == other) = false := by
        rw [beq_eq_false_iff_ne]
        rintro rfl
        exact hother hkey
      rw [List.filter_cons_of_neg (by simpa using hother), List.lookup_cons, hne, ih]

/-- Tables with the same entries for some keys hold the same behind each of these keys. -/
theorem get?_of_sameEntries (h : DistinctKeys t) (hsame : SameEntries names t t')
    (hkey : key ∈ names) : t'.get? key = t.get? key := by
  -- Less the entries with other keys, the two tables differ in their order only.
  have hfiltered : ((t.entries.filter fun entry => entry.1 ∈ names).map Prod.fst).Nodup :=
    h.sublist (List.filter_sublist.map Prod.fst)
  rw [Toml.Table.get?, Toml.Table.get?, ← lookup_filter_mem hkey, lookup_eq_of_perm hfiltered hsame,
    lookup_filter_mem hkey]

end Entries

/-! ## Sections that are alike -/

/-- Sections that say the same about the fields with these keys, in other ways. -/
inductive Alike (names : List String) : Option Toml.Value → Option Toml.Value → Prop
  | refl (section? : Option Toml.Value) : Alike names section? section?
  | symm {section? other? : Option Toml.Value} (h : Alike names section? other?) :
      Alike names other? section?
  | trans {section? other? third? : Option Toml.Value} (h : Alike names section? other?)
      (h' : Alike names other? third?) : Alike names section? third?
  /-- The order of the keys does not matter, nor do keys that no field has. -/
  | entries {t t' : Toml.Table} (h : DistinctKeys t) (hsame : SameEntries names t t') :
      Alike names (some (.table t)) (some (.table t'))
  /-- A section can be the list of its first fields, in the order of declaration. -/
  | list (items : List Toml.Value) (origin : Toml.Origin) :
      Alike names (some (.list items)) (some (.table (.mk origin (names.zip items))))
  /-- The list can be made of tables with headers in double brackets. -/
  | tables (items : List Toml.Table) (origin : Toml.Origin) :
      Alike names (some (.tables items)) (some (.table (.mk origin (names.zip (items.map .table)))))
  /-- An empty section can be left out. -/
  | absent (origin : Toml.Origin) : Alike names none (some (.table (.mk origin [])))
  /-- A date or a time stands for an empty section. -/
  | moment (m : Toml.Moment) (origin : Toml.Origin) :
      Alike names (some (.moment m)) (some (.table (.mk origin [])))

section Alike

variable {names : List String} {section? other? : Option Toml.Value} {key : String}
  {document other : Toml.Table} {settings : Settings}

/-- Sections that are alike say the same about every field. -/
theorem Alike.said_eq (h : Alike names section? other?) (hkey : key ∈ names) :
    said names other? key = said names section? key := by
  induction h with
  | refl => rfl
  | symm _ ih => exact ih.symm
  | trans _ _ ih ih' => exact ih'.trans ih
  | entries h hsame => exact get?_of_sameEntries h hsame hkey
  | list items => exact lookup_zip items hkey
  | tables items => exact lookup_zip (items.map .table) hkey
  | absent | moment => rfl

/-- What is alike to a section can stand for one. -/
theorem Alike.isSection_iff (h : Alike names section? other?) :
    IsSection section? ↔ IsSection other? := by
  induction h with
  | refl => rfl
  | symm _ ih => exact ih.symm
  | trans _ _ ih ih' => exact ih.trans ih'
  | entries => exact iff_of_true (.table _) (.table _)
  | list => exact iff_of_true (.list _) (.table _)
  | tables => exact iff_of_true (.tables _) (.table _)
  | absent => exact iff_of_true .absent (.table _)
  | moment => exact iff_of_true (.moment _) (.table _)

/-- The compiler settings depend on what is said about their fields only. -/
theorem DescribesToolchain.congr {said said' : String → Option Toml.Value} {toolchain : Toolchain}
    (h : ∀ key ∈ keys toolchainFields, said' key = said key)
    (hdescribes : DescribesToolchain said toolchain) : DescribesToolchain said' toolchain where
  compiler := h "rustc" (by decide) ▸ hdescribes.compiler
  edition := h "edition" (by decide) ▸ hdescribes.edition
  optimisation := h "opt_level" (by decide) ▸ hdescribes.optimisation
  errorFormat := h "error_format" (by decide) ▸ hdescribes.errorFormat
  extraArguments := h "extra_args" (by decide) ▸ hdescribes.extraArguments

/-- The same holds of the settings of the dialogue. -/
theorem DescribesDialogue.congr {said said' : String → Option Toml.Value}
    {dialogue : DialogueSettings} (h : ∀ key ∈ keys dialogueFields, said' key = said key)
    (hdescribes : DescribesDialogue said dialogue) : DescribesDialogue said' dialogue where
  historySize := h "history_size" (by decide) ▸ hdescribes.historySize
  historyFile := h "history_file" (by decide) ▸ hdescribes.historyFile
  prompt := h "prompt" (by decide) ▸ hdescribes.prompt
  colors := h "colors" (by decide) ▸ hdescribes.colors

/-- Two documents have sections that are alike. -/
def AlikeSections (document other : Toml.Table) : Prop :=
  ∀ part ∈ layout, Alike (keys part.2) (document.get? part.1) (other.get? part.1)

/-- A document with sections that are alike describes the same settings. -/
theorem Describes.congr (h : AlikeSections document other)
    (hdescribes : Describes document settings) : Describes other settings := by
  have hsections (part) (hpart : part ∈ layout) : IsSection (other.get? part.1) :=
    (h part hpart).isSection_iff.mp (hdescribes.isSection part hpart)
  simp only [AlikeSections, layout, List.forall_mem_cons] at h
  obtain ⟨htoolchain, hdialogue, hsession, -⟩ := h
  refine ⟨hsections, hdescribes.toolchain.congr fun key => htoolchain.said_eq,
    hdescribes.dialogue.congr fun key => hdialogue.said_eq, ?_⟩
  rw [DescribesOutput, hsession.said_eq (by decide)]
  exact hdescribes.output

/-- Documents with sections that are alike stand for the same settings. -/
theorem ofDocument?_eq_of_alike (h : AlikeSections document other) :
    ofDocument? other = ofDocument? document := by
  refine Option.ext fun settings => ?_
  rw [ofDocument?_eq_some_iff, ofDocument?_eq_some_iff]
  exact ⟨.congr fun part hpart => (h part hpart).symm, .congr h⟩

end Alike

/-! ## Documents -/

/-- In a document that has been read from a text the keys are distinct, and so are those of each
section that is a table. -/
theorem distinctKeys_of_parse? {text : List Char} {document : Toml.Table}
    (h : Toml.parse? text = some document) : DistinctKeys document ∧
      ∀ key t, document.get? key = some (.table t) → DistinctKeys t := by
  have hproper := Toml.proper_of_parse? h
  exact ⟨hproper.nodup, fun key t hget => (hproper.of_get?_table hget).nodup⟩

/-- A document stands for settings if and only if what is behind the key of each section that is
there can be one, which is a table, a list, or a date or time, and what is said about each field is
a value of its kind. The settings are then what is said about the fields, and the defaults of those
that nothing is said about. So other documents stand for the same settings, or for none if this one
does, if their sections are alike, as they are with other keys or another order of keys in a
section, with a list in the place of a table, and with a section left out that would be empty; and
if they have the same sections, in whatever order and with whatever other keys. For all this no key
may stand twice, and in a document that has been read from a text none does. -/
theorem settings_by_known_keys (document : Toml.Table) :
    ((∃ settings, ofDocument? document = some settings) ↔ WellTyped document) ∧
    (∀ settings, ofDocument? document = some settings ↔ Describes document settings) ∧
    (∀ other, AlikeSections document other → ofDocument? other = ofDocument? document) ∧
    (∀ other, DistinctKeys document → SameEntries (layout.map Prod.fst) document other →
      ofDocument? other = ofDocument? document) ∧
    (∀ text, Toml.parse? text = some document → DistinctKeys document ∧
      ∀ key t, document.get? key = some (.table t) → DistinctKeys t) := by
  refine ⟨?_, fun settings => ofDocument?_eq_some_iff, fun other => ofDocument?_eq_of_alike,
    fun other hdistinct hsame => ofDocument?_eq_of_alike fun part hpart => ?_,
    fun text => distinctKeys_of_parse?⟩
  · simp only [ofDocument?_eq_some_iff]
    exact exists_describes_iff
  · -- The sections are the same, so they are alike.
    rw [get?_of_sameEntries hdistinct hsame (List.mem_map.mpr ⟨part, hpart, rfl⟩)]
    exact .refl _

/-- A list in the place of a table, an empty section, and keys of no field in the document and in a
section. -/
theorem settings_of_listed_section :
    let document : Toml.Table :=
      .mk .header [("toolchain", .list [.text "rustc", .text "2018"])]
    let other : Toml.Table := .mk .header [
      ("title", .boolean true),
      ("repl", .table (.empty .header)),
      ("toolchain", .table (.mk .header
        [("edition", .text "2018"), ("rustic", .integer 1), ("rustc", .text "rustc")]))]
    AlikeSections document other ∧ ofDocument? other = ofDocument? document := by
  intro document other
  have htoolchain : Alike (keys toolchainFields) (document.get? "toolchain")
      (other.get? "toolchain") := by
    refine .trans (.list _ .header) (.entries ?_ ?_)
    · decide
    · exact .swap _ _ _
  have halike : AlikeSections document other := by
    simp only [AlikeSections, layout, List.forall_mem_cons]
    exact ⟨htoolchain, .absent .header, .refl none, List.forall_mem_nil _⟩
  exact ⟨halike, (settings_by_known_keys document).2.2.1 other halike⟩

/-- A section may be a date, though that is neither a table nor a list; and a format may be the one
key of a table only if nothing is behind the key. -/
theorem date_taken_for_section :
    let day : Toml.Value :=
      .moment { date := some ⟨1979, 5, 27⟩, time := some ⟨0, 0, 0, 0⟩, offset := some 0 }
    let document : Toml.Table := .mk .header [("repl", day)]
    document.get? "repl" = some day ∧
    (∀ t, day ≠ .table t) ∧ (∀ items, day ≠ .list items) ∧ (∀ items, day ≠ .tables items) ∧
    ofDocument? document = some {} ∧
    parse "repl = 1979-05-27T00:00:00Z" = .ok {} ∧
    parse "toolchain.error_format = \x7b short = 1 \x7d" = .error .malformed := by
  refine ⟨rfl, nofun, nofun, nofun, by decide +kernel, by decide +kernel, by decide +kernel⟩

end FragmentRunner.Settings
