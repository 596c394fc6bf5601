import FragmentRunner.Settings
import Mathlib.Data.List.Perm.Basic
import Mathlib.Tactic.SplitIfs

/-!
# What a settings document says

A settings document has three sections with a few fields each, and each field has values of one
kind. `layout` lists them in the order of declaration; a section may be written as the list of its
first fields in that order, and then says about a field what stands at its place in the list.
`Describes` tells which settings a document stands for, field by field: what is said about the
field, or its default if nothing is.

* `ofDocument?_eq_some_iff`: reading a document finds the settings that it describes, if there are
  any.
* `exists_describes_iff`: there are some if all that is said is of the right kind.
-/

namespace FragmentRunner.Settings

/-! ## Kinds of values -/

/-- The value is a text. -/
inductive IsText : Toml.Value → String → Prop
  | text (s : String) : IsText (.text s) s

/-- The value is a text, and stands for the path that is spelled so. -/
inductive IsPath : Toml.Value → Option Path → Prop
  | text (s : String) : IsPath (.text s) (some (.ofString s))

/-- The value is a whole number that is not below zero. -/
inductive IsSize : Toml.Value → Nat → Prop
  | integer (n : Nat) : IsSize (.integer n) n

/-- The value is a truth value. -/
inductive IsFlag : Toml.Value → Bool → Prop
  | boolean (b : Bool) : IsFlag (.boolean b) b

/-- The value is a list of texts. -/
inductive IsTexts : Toml.Value → List String → Prop
  | list (texts : List String) : IsTexts (.list (texts.map .text)) texts

/-- The value is a list or a table without anything in it. -/
inductive HoldsNothing : Toml.Value → Prop
  | list : HoldsNothing (.list [])
  | table (origin : Toml.Origin) : HoldsNothing (.table (.mk origin []))

/-- The value is the name of a format, or a table with this name as its one key and nothing behind
it. -/
inductive IsFormat : Toml.Value → ErrorFormat → Prop
  | name (format : ErrorFormat) : IsFormat (.text format.name) format
  | key (format : ErrorFormat) (origin : Toml.Origin) {content : Toml.Value}
      (h : HoldsNothing content) : IsFormat (.table (.mk origin [(format.name, content)])) format

/-- The kinds of values that fields have. -/
inductive FieldKind
  | path
  | text
  | size
  | flag
  | format
  | texts

/-- A value is of a kind. -/
def FieldKind.Has : FieldKind → Toml.Value → Prop
  | .path, value => ∃ path, IsPath value path
  | .text, value => ∃ text, IsText value text
  | .size, value => ∃ size, IsSize value size
  | .flag, value => ∃ flag, IsFlag value flag
  | .format, value => ∃ format, IsFormat value format
  | .texts, value => ∃ texts, IsTexts value texts

section Readers

variable {value : Toml.Value}

theorem textOf?_eq_some_iff {text : String} : textOf? value = some text ↔ IsText value text := by
  constructor
  · intro h
    cases value with
    | text s => obtain rfl := Option.some.inj h; exact .text s
    | _ => cases h
  · rintro ⟨⟩
    rfl

theorem pathOf?_eq_some_iff {path : Option Path} :
    pathOf? value = some path ↔ IsPath value path := by
  rw [pathOf?, Option.map_eq_some_iff]
  constructor
  · rintro ⟨s, htext, rfl⟩
    obtain ⟨⟩ := textOf?_eq_some_iff.mp htext
    exact .text s
  · rintro ⟨s⟩
    exact ⟨s, rfl, rfl⟩

theorem sizeOf?_eq_some_iff {size : Nat} : sizeOf? value = some size ↔ IsSize value size := by
  constructor
  · intro h
    cases value with
    | integer n =>
      rw [sizeOf?] at h
      split_ifs at h with hn
      obtain rfl := Option.some.inj h
      rw [← Int.toNat_of_nonneg hn]
      exact .integer n.toNat
    | _ => cases h
  · rintro ⟨n⟩
    simp [sizeOf?]

theorem flagOf?_eq_some_iff {flag : Bool} : flagOf? value = some flag ↔ IsFlag value flag := by
  constructor
  · intro h
    cases value with
    | boolean b => obtain rfl := Option.some.inj h; exact .boolean b
    | _ => cases h
  · rintro ⟨⟩
    rfl

/-- A list of values is read as a list of texts if each of them is a text. -/
theorem mapM_textOf?_eq_some_iff {items : List Toml.Value} {texts : List String} :
    items.mapM textOf? = some texts ↔ items = texts.map .text := by
  induction items generalizing texts with
  | nil => simp [eq_comm]
  | cons item items ih =>
    rw [List.mapM_cons]
    constructor
    · intro h
      obtain ⟨text, htext, h⟩ := Option.bind_eq_some_iff.mp h
      obtain ⟨others, hothers, h⟩ := Option.bind_eq_some_iff.mp h
      obtain rfl := Option.some.inj h
      obtain ⟨⟩ := textOf?_eq_some_iff.mp htext
      rw [ih.mp hothers, List.map_cons]
    · intro h
      cases texts with
      | nil => cases h
      | cons text texts =>
        obtain ⟨rfl, hitems⟩ := List.cons_eq_cons.mp h
        rw [ih.mpr hitems]
        rfl

theorem textsOf?_eq_some_iff {texts : List String} :
    textsOf? value = some texts ↔ IsTexts value texts := by
  constructor
  · intro h
    cases value with
    | list items =>
      rw [mapM_textOf?_eq_some_iff.mp h]
      exact .list texts
    | _ => cases h
  · rintro ⟨texts⟩
    exact mapM_textOf?_eq_some_iff.mpr rfl

/-- A format is found by its name only. -/
theorem formatNamed?_eq_some_iff {name : String} {format : ErrorFormat} :
    formatNamed? name = some format ↔ name = format.name := by
  constructor
  · intro h
    have hname := List.find?_some h
    exact (of_decide_eq_true hname).symm
  · rintro rfl
    cases format <;> decide

theorem isVoid_iff : isVoid value = true ↔ HoldsNothing value := by
  constructor
  · intro h
    cases value with
    | list items =>
      obtain rfl := List.isEmpty_iff.mp h
      exact .list
    | table t =>
      obtain ⟨origin, entries⟩ := t
      obtain rfl := List.isEmpty_iff.mp h
      exact .table origin
    | _ => cases h
  · rintro (_ | _) <;> rfl

theorem formatOf?_eq_some_iff {format : ErrorFormat} :
    formatOf? value = some format ↔ IsFormat value format := by
  constructor
  · intro h
    cases value with
    | text s =>
      rw [formatNamed?_eq_some_iff.mp h]
      exact .name format
    | table t =>
      obtain ⟨origin, entries⟩ := t
      rw [formatOf?] at h
      split at h
      · next name content hentries =>
        split_ifs at h with hvoid
        obtain rfl : entries = [(name, content)] := hentries
        rw [formatNamed?_eq_some_iff.mp h]
        exact .key format origin (isVoid_iff.mp hvoid)
      · cases h
    | _ => cases h
  · rintro (_ | ⟨_, origin, hvoid⟩)
    · exact formatNamed?_eq_some_iff.mpr rfl
    · simp [formatOf?, Toml.Table.entries, isVoid_iff.mpr hvoid, formatNamed?_eq_some_iff]

end Readers

/-! ## Sections and fields -/

/-- The fields of the compiler settings. -/
def toolchainFields : List (String × FieldKind) := [
  ("rustc", .path), ("edition", .text), ("opt_level", .text), ("error_format", .format),
  ("extra_args", .texts)]

/-- The fields of the settings of the dialogue. -/
def dialogueFields : List (String × FieldKind) := [
  ("history_size", .size), ("history_file", .path), ("prompt", .text), ("colors", .flag)]

/-- The fields of the settings of a session. -/
def sessionFields : List (String × FieldKind) := [("output_dir", .path)]

/-- The sections of a settings document, with their fields in the order of declaration. -/
def layout : List (String × List (String × FieldKind)) := [
  ("toolchain", toolchainFields), ("repl", dialogueFields), ("session", sessionFields)]

/-- The keys of some fields. -/
def keys (fields : List (String × FieldKind)) : List String :=
  fields.map Prod.fst

/-- What can stand for a section: nothing, a table, a list, or a date or time. -/
inductive IsSection : Option Toml.Value → Prop
  | absent : IsSection none
  | table (t : Toml.Table) : IsSection (some (.table t))
  | list (items : List Toml.Value) : IsSection (some (.list items))
  | tables (items : List Toml.Table) : IsSection (some (.tables items))
  | moment (m : Toml.Moment) : IsSection (some (.moment m))

/-- What a section with these keys says about the field behind one of them. In a list the field has
its place; a date or a time says nothing. -/
def said (keys : List String) (section? : Option Toml.Value) (key : String) : Option Toml.Value :=
  match section? with
  | some (.table t) => t.get? key
  | some (.list items) => items[keys.idxOf key]?
  | some (.tables items) => (items.map Toml.Value.table)[keys.idxOf key]?
  | _ => none

/-- The value of a field: what is said about it, or its default if nothing is. -/
inductive Field {α : Type} (holds : Toml.Value → α → Prop) (default : α) :
    Option Toml.Value → α → Prop
  | absent : Field holds default none default
  | given {value : Toml.Value} {a : α} (h : holds value a) : Field holds default (some value) a

/-- The compiler settings that have been said. -/
structure DescribesToolchain (said : String → Option Toml.Value) (toolchain : Toolchain) :
    Prop where
  compiler : Field IsPath none (said "rustc") toolchain.compiler
  edition : Field IsText "2021" (said "edition") toolchain.edition
  optimisation : Field IsText "0" (said "opt_level") toolchain.optimisation
  errorFormat : Field IsFormat .short (said "error_format") toolchain.errorFormat
  extraArguments : Field IsTexts [] (said "extra_args") toolchain.extraArguments

/-- The settings of the dialogue that have been said. -/
structure DescribesDialogue (said : String → Option Toml.Value) (dialogue : DialogueSettings) :
    Prop where
  historySize : Field IsSize 1000 (said "history_size") dialogue.historySize
  historyFile : Field IsPath none (said "history_file") dialogue.historyFile
  prompt : Field IsText "runlet> " (said "prompt") dialogue.prompt
  colors : Field IsFlag true (said "colors") dialogue.colors

/-- The output directory that has been said. -/
def DescribesOutput (said : String → Option Toml.Value) (directory : Option Path) : Prop :=
  Field IsPath none (said "output_dir") directory

/-- The settings that a document stands for. -/
structure Describes (document : Toml.Table) (settings : Settings) : Prop where
  isSection : ∀ part ∈ layout, IsSection (document.get? part.1)
  toolchain : DescribesToolchain (said (keys toolchainFields) (document.get? "toolchain"))
    settings.toolchain
  dialogue : DescribesDialogue (said (keys dialogueFields) (document.get? "repl"))
    settings.dialogue
  output : DescribesOutput (said (keys sessionFields) (document.get? "session"))
    settings.outputDirectory

section Fields

variable {α : Type} {holds : Toml.Value → α → Prop} {default a : α} {given : Option Toml.Value}

/-- A field that nothing is said about has its default. -/
theorem field_none_iff : Field holds default none a ↔ a = default := by
  constructor
  · rintro ⟨⟩
    rfl
  · rintro rfl
    exact .absent

/-- A field that something is said about has the value that is said. -/
theorem field_some_iff {value : Toml.Value} :
    Field holds default (some value) a ↔ holds value a := by
  constructor
  · rintro (_ | h)
    exact h
  · exact .given

/-- A field has a value if what is said about it is of its kind. -/
theorem exists_field_iff :
    (∃ a, Field holds default given a) ↔ ∀ value, given = some value → ∃ a, holds value a := by
  cases given with
  | none => simp [field_none_iff]
  | some value => simp [field_some_iff]

/-- A field is read as it has been given. -/
theorem field?_eq_some_iff {fields : List (String × Toml.Value)} {name : String}
    {read : Toml.Value → Option α} (hread : ∀ {value a}, read value = some a ↔ holds value a) :
    field? fields name read default = some a ↔ Field holds default (fields.lookup name) a := by
  rw [field?]
  cases fields.lookup name with
  | none => rw [field_none_iff, Option.some_inj, eq_comm]
  | some value => rw [field_some_iff, hread]

end Fields

section Sections

variable {names : List String} {value : Toml.Value} {fields : List (String × Toml.Value)}
  {key : String}

/-- The items of a list are given to the fields in order. -/
theorem lookup_zip (items : List Toml.Value) (hkey : key ∈ names) :
    (names.zip items).lookup key = items[names.idxOf key]? := by
  induction names generalizing items with
  | nil => cases hkey
  | cons name names ih =>
    cases items with
    | nil => simp
    | cons item items =>
      by_cases hname : key = name
      · simp [hname]
      · have hne : (key == name) = false := by simpa using hname
        have hmem : key ∈ names := (List.mem_cons.mp hkey).resolve_left hname
        rw [List.zip_cons_cons, List.lookup_cons, hne, List.idxOf_cons_ne _ (Ne.symm hname),
          List.getElem?_cons_succ]
        exact ih items hmem

/-- A section is read field by field. -/
theorem lookup_fieldsOf? (h : fieldsOf? names value = some fields) (hkey : key ∈ names) :
    fields.lookup key = said names (some value) key := by
  cases value with
  | table t =>
    obtain rfl := Option.some.inj h
    rfl
  | list items =>
    obtain rfl := Option.some.inj h
    exact lookup_zip items hkey
  | tables items =>
    obtain rfl := Option.some.inj h
    exact lookup_zip (items.map .table) hkey
  | moment m =>
    obtain rfl := Option.some.inj h
    rfl
  | _ => cases h

/-- Whether a value can be read as a section. -/
theorem exists_fieldsOf?_iff (names : List String) :
    (∃ fields, fieldsOf? names value = some fields) ↔ IsSection (some value) := by
  constructor
  · rintro ⟨fields, h⟩
    cases value with
    | table t => exact .table t
    | list items => exact .list items
    | tables items => exact .tables items
    | moment m => exact .moment m
    | _ => cases h
  · rintro (_ | _ | _ | _) <;> exact ⟨_, rfl⟩

/-- A field of a section is read as it has been said. -/
theorem field?_eq_some_iff_said {α : Type} {holds : Toml.Value → α → Prop} {default a : α}
    {read : Toml.Value → Option α} (h : fieldsOf? names value = some fields) (hkey : key ∈ names)
    (hread : ∀ {value a}, read value = some a ↔ holds value a) :
    field? fields key read default = some a ↔
      Field holds default (said names (some value) key) a := by
  rw [field?_eq_some_iff hread, lookup_fieldsOf? h hkey]

/-- The compiler settings are read as they have been said. -/
theorem toolchainOf?_eq_some_iff {toolchain : Toolchain} :
    toolchainOf? value = some toolchain ↔
      IsSection (some value) ∧
        DescribesToolchain (said (keys toolchainFields) (some value)) toolchain := by
  rw [← exists_fieldsOf?_iff (keys toolchainFields)]
  simp only [toolchainOf?, Option.bind_eq_bind, Option.bind_eq_some_iff, Option.pure_def,
    Option.some_inj]
  constructor
  · rintro ⟨fields, hfields, compiler, hcompiler, edition, hedition, level, hlevel, format, hformat,
      arguments, harguments, rfl⟩
    exact ⟨⟨fields, hfields⟩,
      (field?_eq_some_iff_said hfields (by decide) pathOf?_eq_some_iff).mp hcompiler,
      (field?_eq_some_iff_said hfields (by decide) textOf?_eq_some_iff).mp hedition,
      (field?_eq_some_iff_said hfields (by decide) textOf?_eq_some_iff).mp hlevel,
      (field?_eq_some_iff_said hfields (by decide) formatOf?_eq_some_iff).mp hformat,
      (field?_eq_some_iff_said hfields (by decide) textsOf?_eq_some_iff).mp harguments⟩
  · rintro ⟨⟨fields, hfields⟩, hcompiler, hedition, hlevel, hformat, harguments⟩
    exact ⟨fields, hfields,
      _, (field?_eq_some_iff_said hfields (by decide) pathOf?_eq_some_iff).mpr hcompiler,
      _, (field?_eq_some_iff_said hfields (by decide) textOf?_eq_some_iff).mpr hedition,
      _, (field?_eq_some_iff_said hfields (by decide) textOf?_eq_some_iff).mpr hlevel,
      _, (field?_eq_some_iff_said hfields (by decide) formatOf?_eq_some_iff).mpr hformat,
      _, (field?_eq_some_iff_said hfields (by decide) textsOf?_eq_some_iff).mpr harguments, rfl⟩

/-- The settings of the dialogue are read as they have been said. -/
theorem dialogueOf?_eq_some_iff {dialogue : DialogueSettings} :
    dialogueOf? value = some dialogue ↔
      IsSection (some value) ∧
        DescribesDialogue (said (keys dialogueFields) (some value)) dialogue := by
  rw [← exists_fieldsOf?_iff (keys dialogueFields)]
  simp only [dialogueOf?, Option.bind_eq_bind, Option.bind_eq_some_iff, Option.pure_def,
    Option.some_inj]
  constructor
  · rintro ⟨fields, hfields, size, hsize, file, hfile, prompt, hprompt, colors, hcolors, rfl⟩
    exact ⟨⟨fields, hfields⟩,
      (field?_eq_some_iff_said hfields (by decide) sizeOf?_eq_some_iff).mp hsize,
      (field?_eq_some_iff_said hfields (by decide) pathOf?_eq_some_iff).mp hfile,
      (field?_eq_some_iff_said hfields (by decide) textOf?_eq_some_iff).mp hprompt,
      (field?_eq_some_iff_said hfields (by decide) flagOf?_eq_some_iff).mp hcolors⟩
  · rintro ⟨⟨fields, hfields⟩, hsize, hfile, hprompt, hcolors⟩
    exact ⟨fields, hfields,
      _, (field?_eq_some_iff_said hfields (by decide) sizeOf?_eq_some_iff).mpr hsize,
      _, (field?_eq_some_iff_said hfields (by decide) pathOf?_eq_some_iff).mpr hfile,
      _, (field?_eq_some_iff_said hfields (by decide) textOf?_eq_some_iff).mpr hprompt,
      _, (field?_eq_some_iff_said hfields (by decide) flagOf?_eq_some_iff).mpr hcolors, rfl⟩

/-- The output directory is read as it has been said. -/
theorem outputDirectoryOf?_eq_some_iff {directory : Option Path} :
    outputDirectoryOf? value = some directory ↔
      IsSection (some value) ∧
        DescribesOutput (said (keys sessionFields) (some value)) directory := by
  rw [← exists_fieldsOf?_iff (keys sessionFields)]
  simp only [outputDirectoryOf?, Option.bind_eq_bind, Option.bind_eq_some_iff]
  constructor
  · rintro ⟨fields, hfields, hdirectory⟩
    exact ⟨⟨fields, hfields⟩,
      (field?_eq_some_iff_said hfields (by decide) pathOf?_eq_some_iff).mp hdirectory⟩
  · rintro ⟨⟨fields, hfields⟩, hdirectory⟩
    exact ⟨fields, hfields,
      (field?_eq_some_iff_said hfields (by decide) pathOf?_eq_some_iff).mpr hdirectory⟩

end Sections

/-! ## Documents -/

section Documents

variable {document : Toml.Table} {settings : Settings}

/-- Nothing is said about the fields of a section that is absent, so they all have their
defaults. -/
theorem describesToolchain_none_iff {names : List String} {toolchain : Toolchain} :
    DescribesToolchain (said names none) toolchain ↔ toolchain = {} := by
  constructor
  · rintro ⟨hcompiler, hedition, hlevel, hformat, harguments⟩
    cases toolchain
    simp_all [said, field_none_iff]
  · rintro rfl
    exact ⟨.absent, .absent, .absent, .absent, .absent⟩

/-- The same holds of the settings of the dialogue. -/
theorem describesDialogue_none_iff {names : List String} {dialogue : DialogueSettings} :
    DescribesDialogue (said names none) dialogue ↔ dialogue = {} := by
  constructor
  · rintro ⟨hsize, hfile, hprompt, hcolors⟩
    cases dialogue
    simp_all [said, field_none_iff]
  · rintro rfl
    exact ⟨.absent, .absent, .absent, .absent⟩

/-- A section is read as it stands in the document, and by its defaults if it is absent. -/
theorem section_eq_some_iff {α : Type} {names : List String} (document : Toml.Table)
    (name : String) {read : Toml.Value → Option α}
    {describes : (String → Option Toml.Value) → α → Prop} {default a : α}
    (hread : ∀ {value a}, read value = some a ↔
      IsSection (some value) ∧ describes (said names (some value)) a)
    (hnone : describes (said names none) a ↔ a = default) :
    field? document.entries name read default = some a ↔
      IsSection (document.get? name) ∧ describes (said names (document.get? name)) a := by
  rw [field?_eq_some_iff hread, ← Toml.Table.get?]
  cases document.get? name with
  | none => simp [field_none_iff, hnone, IsSection.absent]
  | some value => exact field_some_iff

/-- Reading a document finds the settings that it describes. -/
theorem ofDocument?_eq_some_iff : ofDocument? document = some settings ↔
    Describes document settings := by
  have htoolchain (toolchain : Toolchain) :=
    section_eq_some_iff document "toolchain" (a := toolchain)
      toolchainOf?_eq_some_iff describesToolchain_none_iff
  have hdialogue (dialogue : DialogueSettings) :=
    section_eq_some_iff document "repl" (a := dialogue)
      dialogueOf?_eq_some_iff describesDialogue_none_iff
  have houtput (directory : Option Path) :=
    section_eq_some_iff document "session" (a := directory)
      outputDirectoryOf?_eq_some_iff field_none_iff
  simp only [ofDocument?, Option.bind_eq_bind, Option.bind_eq_some_iff, Option.pure_def,
    Option.some_inj, htoolchain, hdialogue, houtput]
  constructor
  · rintro ⟨toolchain, ⟨hsection, htoolchain⟩, dialogue, ⟨hsection', hdialogue⟩, directory,
      ⟨hsection'', houtput⟩, rfl⟩
    refine ⟨?_, htoolchain, hdialogue, houtput⟩
    simp only [layout, List.forall_mem_cons]
    exact ⟨hsection, hsection', hsection'', List.forall_mem_nil _⟩
  · rintro ⟨hsections, htoolchain, hdialogue, houtput⟩
    simp only [layout, List.forall_mem_cons] at hsections
    obtain ⟨hsection, hsection', hsection'', -⟩ := hsections
    exact ⟨_, ⟨hsection, htoolchain⟩, _, ⟨hsection', hdialogue⟩, _, ⟨hsection'', houtput⟩, rfl⟩

/-- All that is said about some fields is of the kind that the field has. -/
def AllOfKind (fields : List (String × FieldKind)) (said : String → Option Toml.Value) : Prop :=
  ∀ field ∈ fields, ∀ value, said field.1 = some value → field.2.Has value

/-- There are compiler settings that have been said if all that is said is of the right kind. -/
theorem exists_describesToolchain_iff {said : String → Option Toml.Value} :
    (∃ toolchain, DescribesToolchain said toolchain) ↔ AllOfKind toolchainFields said := by
  simp only [AllOfKind, toolchainFields, List.forall_mem_cons]
  constructor
  · rintro ⟨toolchain, hcompiler, hedition, hlevel, hformat, harguments⟩
    exact ⟨exists_field_iff.mp ⟨_, hcompiler⟩, exists_field_iff.mp ⟨_, hedition⟩,
      exists_field_iff.mp ⟨_, hlevel⟩, exists_field_iff.mp ⟨_, hformat⟩,
      exists_field_iff.mp ⟨_, harguments⟩, List.forall_mem_nil _⟩
  · rintro ⟨hcompiler, hedition, hlevel, hformat, harguments, -⟩
    obtain ⟨compiler, hcompiler⟩ := exists_field_iff.mpr hcompiler
    obtain ⟨edition, hedition⟩ := exists_field_iff.mpr hedition
    obtain ⟨optimisation, hlevel⟩ := exists_field_iff.mpr hlevel
    obtain ⟨errorFormat, hformat⟩ := exists_field_iff.mpr hformat
    obtain ⟨extraArguments, harguments⟩ := exists_field_iff.mpr harguments
    exact ⟨{ compiler, edition, optimisation, errorFormat, extraArguments },
      hcompiler, hedition, hlevel, hformat, harguments⟩

/-- The same holds of the settings of the dialogue. -/
theorem exists_describesDialogue_iff {said : String → Option Toml.Value} :
    (∃ dialogue, DescribesDialogue said dialogue) ↔ AllOfKind dialogueFields said := by
  simp only [AllOfKind, dialogueFields, List.forall_mem_cons]
  constructor
  · rintro ⟨dialogue, hsize, hfile, hprompt, hcolors⟩
    exact ⟨exists_field_iff.mp ⟨_, hsize⟩, exists_field_iff.mp ⟨_, hfile⟩,
      exists_field_iff.mp ⟨_, hprompt⟩, exists_field_iff.mp ⟨_, hcolors⟩, List.forall_mem_nil _⟩
  · rintro ⟨hsize, hfile, hprompt, hcolors, -⟩
    obtain ⟨historySize, hsize⟩ := exists_field_iff.mpr hsize
    obtain ⟨historyFile, hfile⟩ := exists_field_iff.mpr hfile
    obtain ⟨prompt, hprompt⟩ := exists_field_iff.mpr hprompt
    obtain ⟨colors, hcolors⟩ := exists_field_iff.mpr hcolors
    exact ⟨{ historySize, historyFile, prompt, colors }, hsize, hfile, hprompt, hcolors⟩

/-- The same holds of the output directory. -/
theorem exists_describesOutput_iff {said : String → Option Toml.Value} :
    (∃ directory, DescribesOutput said directory) ↔ AllOfKind sessionFields said := by
  simp only [AllOfKind, sessionFields, List.forall_mem_singleton]
  exact exists_field_iff

/-- All that a document says is of the right kind: what is behind the key of a section can stand for
one, and what the section says about a field is a value of the kind of the field. -/
structure WellTyped (document : Toml.Table) : Prop where
  isSection : ∀ part ∈ layout, IsSection (document.get? part.1)
  has : ∀ part ∈ layout, AllOfKind part.2 (said (keys part.2) (document.get? part.1))

/-- A document describes some settings if all that it says is of the right kind. -/
theorem exists_describes_iff : (∃ settings, Describes document settings) ↔ WellTyped document := by
  constructor
  · rintro ⟨settings, hsections, htoolchain, hdialogue, houtput⟩
    refine ⟨hsections, ?_⟩
    simp only [layout, List.forall_mem_cons]
    exact ⟨exists_describesToolchain_iff.mp ⟨_, htoolchain⟩,
      exists_describesDialogue_iff.mp ⟨_, hdialogue⟩, exists_describesOutput_iff.mp ⟨_, houtput⟩,
      List.forall_mem_nil _⟩
  · rintro ⟨hsections, hkinds⟩
    simp only [layout, List.forall_mem_cons] at hkinds
    obtain ⟨htoolchain, hdialogue, houtput, -⟩ := hkinds
    obtain ⟨toolchain, htoolchain⟩ := exists_describesToolchain_iff.mpr htoolchain
    obtain ⟨dialogue, hdialogue⟩ := exists_describesDialogue_iff.mpr hdialogue
    obtain ⟨outputDirectory, houtput⟩ := exists_describesOutput_iff.mpr houtput
    exact ⟨{ toolchain, dialogue, outputDirectory }, hsections, htoolchain, hdialogue, houtput⟩

end Documents

end FragmentRunner.Settings
