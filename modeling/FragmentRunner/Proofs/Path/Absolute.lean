import FragmentRunner.Proofs.Path.Spelling

/-!
# Paths spelled from the root

`Path.absolute` spells a path from the root and drops what is idle in it. The steps that remain are
those of the path, less its single dots, after those of the current directory.

* `isAbsolute_absolute`, `steps_absolute` and `hasNul_absolute`: what is known about the result.
-/

namespace FragmentRunner

/-- What is in a piece was in the sequence. -/
theorem Text.mem_of_mem_pieces {α : Type} {p : α → Bool} {s piece : List α} {c : α}
    (h : piece ∈ pieces p s) (hc : c ∈ piece) : c ∈ s := by
  induction s generalizing piece with
  | nil =>
    rw [pieces_nil, List.mem_singleton] at h
    rwa [h] at hc
  | cons d s ih =>
    obtain ⟨first, others, hs⟩ := List.exists_cons_of_ne_nil (pieces_ne_nil p s)
    by_cases hd : p d = true
    · rw [pieces, if_pos hd, List.mem_cons] at h
      rcases h with rfl | h
      · cases hc
      · exact List.mem_cons_of_mem d (ih h hc)
    · rw [pieces, if_neg hd, hs, List.mem_cons] at h
      rcases h with rfl | h
      · -- The first piece has got one character more.
        rcases List.mem_cons.mp hc with rfl | hc
        · exact List.mem_cons_self
        · exact List.mem_cons_of_mem d (ih (hs ▸ List.mem_cons_self) hc)
      · exact List.mem_cons_of_mem d (ih (hs ▸ List.mem_cons_of_mem first h) hc)

namespace Path

/-- A text between slashes that is not empty: a name or dots. -/
structure IsSegment (segment : Name) : Prop where
  ne_nil : segment ≠ []
  noSlash : '/' ∉ segment

variable {directory here p : Path} {segment : Name} {names : List Name}

/-! ## Joining segments -/

/-- A slash at its end adds no step to a path. -/
theorem steps_append_slash (chars : List Char) :
    (⟨chars ++ ['/']⟩ : Path).steps = (⟨chars⟩ : Path).steps := by
  rw [steps, steps, segments_append_slash, List.filter_append]
  simp

/-- A relative path takes a step, unless it is empty. -/
theorem steps_ne_nil (hne : p.chars ≠ []) (hrelative : p.isAbsolute = false) : p.steps ≠ [] := by
  obtain ⟨c, rest, hchars⟩ := List.exists_cons_of_ne_nil hne
  have hc : c ≠ '/' := by
    rintro rfl
    simp [isAbsolute, hchars] at hrelative
  -- The first segment begins with the first character.
  obtain ⟨first, others, hrest⟩ := List.exists_cons_of_ne_nil (segments_ne_nil rest)
  have hsegments : segments p.chars = (c :: first) :: others := by
    rw [segments] at hrest
    rw [hchars, segments, Text.pieces, if_neg (by simpa using hc), hrest]
  rw [steps, hsegments, List.filter_cons_of_pos (by simp)]
  exact List.cons_ne_nil _ _

/-- What is in front of a joined name takes the steps of the directory. -/
theorem steps_join_empty (directory : Path) : (directory.join empty).steps = directory.steps := by
  rcases chars_join_empty directory with ⟨hjoin, -⟩ | hjoin
  · rw [steps, steps, hjoin]
  · have hpath : directory.join empty = ⟨directory.chars ++ ['/']⟩ := congrArg Path.mk hjoin
    rw [hpath, steps_append_slash]

/-- A relative path below a directory takes its steps after those of the directory. -/
theorem steps_join_relative (directory : Path) (h : p.isAbsolute = false) :
    (directory.join p).steps = directory.steps ++ p.steps := by
  rw [← steps_join_empty directory, steps, chars_join_relative directory h]
  -- The path stands alone, or after the slash that joins it.
  rcases join_empty_eq_nil_or_slash directory with hnil | ⟨body, hbody⟩
  · have hpath : directory.join empty = empty := congrArg Path.mk hnil
    rw [hnil, List.nil_append, hpath]
    rfl
  · have hpath : directory.join empty = ⟨body ++ ['/']⟩ := congrArg Path.mk hbody
    rw [hbody, List.append_assoc, List.singleton_append, segments_append_slash,
      List.filter_append, hpath, steps_append_slash, steps, steps]

/-- A segment below a directory is one more step. -/
theorem steps_join_segment (directory : Path) (h : IsSegment segment) :
    (directory.join ⟨segment⟩).steps = directory.steps ++ [segment] := by
  have hone : (⟨segment⟩ : Path).steps = [segment] := by
    simp [steps, segments_of_noSlash h.noSlash, h.ne_nil]
  rw [steps_join_relative directory (isAbsolute_of_noSlash h.noSlash), hone]

/-- A path that ends in a segment does not end with a slash, for the segment has none. -/
theorem endsWithSlash_join_segment (directory : Path) (h : IsSegment segment) :
    (directory.join ⟨segment⟩).endsWithSlash = false := by
  rw [endsWithSlash, chars_join directory h.noSlash, decide_eq_false_iff_not,
    List.getLast?_append_of_ne_nil _ h.ne_nil]
  exact fun hlast => h.noSlash (List.mem_of_getLast? hlast)

/-- What is seen from an absolute directory is absolute. -/
theorem isAbsolute_join_of_isAbsolute (habsolute : directory.isAbsolute = true) (p : Path) :
    (directory.join p).isAbsolute = true := by
  cases hp : p.isAbsolute with
  | true => rwa [join, hp, if_pos rfl]
  | false =>
    rw [isAbsolute, decide_eq_true_iff] at habsolute ⊢
    obtain ⟨rest, hrest⟩ := List.head?_eq_some_iff.mp habsolute
    rw [chars_join_relative directory hp]
    rcases chars_join_empty directory with ⟨hjoin, -⟩ | hjoin <;> simp [hjoin, hrest]

/-- A relative path below a directory starts where the directory does, if that is spelled at all. -/
theorem isAbsolute_join_relative (hne : directory.chars ≠ []) (hp : p.isAbsolute = false) :
    (directory.join p).isAbsolute = directory.isAbsolute := by
  obtain ⟨c, rest, hrest⟩ := List.exists_cons_of_ne_nil hne
  rw [isAbsolute, isAbsolute, chars_join_relative directory hp]
  rcases chars_join_empty directory with ⟨hjoin, -⟩ | hjoin <;> simp [hjoin, hrest]

/-- A slash at the end of a path is not NUL. -/
theorem hasNul_join_empty (directory : Path) :
    (directory.join empty).hasNul = directory.hasNul := by
  rcases chars_join_empty directory with ⟨hjoin, -⟩ | hjoin
  · rw [hasNul, hasNul, hjoin]
  · rw [hasNul, hasNul, hjoin, List.any_append]
    simp

/-- Segments below a directory are so many more steps. -/
theorem steps_extend (directory : Path) (h : ∀ name ∈ names, IsSegment name) :
    (directory.extend names).steps = directory.steps ++ names := by
  induction names generalizing directory with
  | nil => exact (List.append_nil _).symm
  | cons name names ih =>
    obtain ⟨hname, hnames⟩ := List.forall_mem_cons.mp h
    have hextend : directory.extend (name :: names) = (directory.join ⟨name⟩).extend names := rfl
    rw [hextend, ih _ hnames, steps_join_segment directory hname, List.append_assoc,
      List.singleton_append]

/-- What lies below an absolute path is spelled from the root, too. -/
theorem isAbsolute_extend (habsolute : directory.isAbsolute = true) (names : List Name) :
    (directory.extend names).isAbsolute = true := by
  induction names generalizing directory with
  | nil => exact habsolute
  | cons name names ih => exact ih (isAbsolute_join_of_isAbsolute habsolute ⟨name⟩)

/-- Segments without NUL add none. -/
theorem hasNul_extend (h : ∀ name ∈ names, IsSegment name)
    (hnames : ∀ name ∈ names, (⟨name⟩ : Path).hasNul = false)
    (hdirectory : directory.hasNul = false) : (directory.extend names).hasNul = false := by
  induction names generalizing directory with
  | nil => exact hdirectory
  | cons name names ih =>
    obtain ⟨hname, hrest⟩ := List.forall_mem_cons.mp h
    obtain ⟨hnul, hnuls⟩ := List.forall_mem_cons.mp hnames
    refine ih hrest hnuls ?_
    rw [hasNul_join directory hname.noSlash, hasNul_join_empty, hdirectory, hnul]
    rfl

section

variable (hne : directory.chars ≠ []) (hslash : directory.endsWithSlash = false)

include hne hslash

/-- Below a directory that does not end with a slash, a segment comes after one. -/
theorem chars_join_segment (h : IsSegment segment) :
    (directory.join ⟨segment⟩).chars = directory.chars ++ ['/'] ++ segment := by
  rw [chars_join directory h.noSlash]
  rcases chars_join_empty directory with ⟨-, hnil | hends⟩ | hjoin
  · exact absurd hnil hne
  · exact absurd hends (by rw [hslash]; decide)
  · rw [hjoin]

/-- The segment makes the path longer by itself and a slash. -/
theorem byteSize_join_segment (h : IsSegment segment) :
    (directory.join ⟨segment⟩).byteSize = directory.byteSize + 1 + byteSize ⟨segment⟩ := by
  have hone : (String.ofList ['/']).utf8ByteSize = 1 := by decide
  rw [byteSize, byteSize, byteSize, spelling, spelling, spelling, chars_join_segment hne hslash h,
    String.ofList_append, String.ofList_append, String.utf8ByteSize_append,
    String.utf8ByteSize_append, hone]

/-- Segments make the path longer by themselves and a slash each. -/
theorem byteSize_extend (h : ∀ name ∈ names, IsSegment name) : (directory.extend names).byteSize =
    names.foldl (fun size name => size + 1 + byteSize ⟨name⟩) directory.byteSize := by
  induction names generalizing directory with
  | nil => rfl
  | cons name names ih =>
    obtain ⟨hname, hnames⟩ := List.forall_mem_cons.mp h
    have hchars := chars_join_segment hne hslash hname
    have hextend : directory.extend (name :: names) = (directory.join ⟨name⟩).extend names := rfl
    rw [hextend, List.foldl_cons, ← byteSize_join_segment hne hslash hname]
    exact ih (by simp [hchars]) (endsWithSlash_join_segment directory hname) hnames

end

/-! ## The names of a path -/

/-- The names of a path are its steps, less the single dots. -/
theorem names_eq_filter_steps (p : Path) : p.names = p.steps.filter fun step => step ≠ ['.'] := by
  rw [names, steps, List.filter_filter]
  refine List.filter_congr fun segment _ => ?_
  cases segment <;> simp [isIdle]

/-- Names are segments. -/
theorem isSegment_of_mem_names {name : Name} (h : name ∈ p.names) : IsSegment name := by
  obtain ⟨hmem, hidle⟩ := List.mem_filter.mp h
  refine ⟨?_, noSlash_of_mem_segments hmem⟩
  rintro rfl
  simp [isIdle] at hidle

/-- Without NUL in a path there is none in its names. -/
theorem hasNul_of_mem_names {name : Name} (hp : p.hasNul = false) (h : name ∈ p.names) :
    (⟨name⟩ : Path).hasNul = false := by
  obtain ⟨hmem, -⟩ := List.mem_filter.mp h
  rw [hasNul, List.any_eq_false] at hp ⊢
  exact fun c hc => hp c (Text.mem_of_mem_pieces hmem hc)

/-! ## Spelled from the root -/

/-- An absolute path starts with one slash or two, which are no steps. -/
theorem absoluteStart_cases (p : Path) :
    p.absoluteStart = root ∨ p.absoluteStart = ⟨['/', '/']⟩ := by
  rw [absoluteStart]
  split
  · exact .inl rfl
  · exact .inr rfl
  · exact .inl rfl

/-- The path that the spelling from the root begins with. -/
def origin (here p : Path) : Path :=
  if p.isAbsolute then p.absoluteStart else here

/-- Up to a slash at its end, the path is spelled by its names below where it begins. -/
theorem absolute_cases (here p : Path) :
    absolute here p = (origin here p).extend p.names ∨
      absolute here p = ((origin here p).extend p.names).join empty := by
  rw [absolute, origin]
  by_cases hslash : p.endsWithSlash = true
  · simp [hslash]
  · simp [hslash]

/-- An absolute path is spelled without regard to the current directory. -/
theorem absolute_of_isAbsolute (h : p.isAbsolute = true) (here here' : Path) :
    absolute here p = absolute here' p := by
  simp [absolute, h]

/-- The spelling begins at the root. -/
theorem isAbsolute_origin (hhere : here.isAbsolute = true) :
    (origin here p).isAbsolute = true := by
  rw [origin]
  split_ifs
  · rcases absoluteStart_cases p with hstart | hstart <;> rw [hstart] <;> rfl
  · exact hhere

/-- What is spelled from the root is absolute. -/
theorem isAbsolute_absolute (hhere : here.isAbsolute = true) :
    (absolute here p).isAbsolute = true := by
  have hextend : ((origin here p).extend p.names).isAbsolute = true :=
    isAbsolute_extend (isAbsolute_origin hhere) p.names
  rcases absolute_cases here p with habsolute | habsolute
  · rw [habsolute, hextend]
  · rw [habsolute]
    exact isAbsolute_join_of_isAbsolute hextend empty

/-- The steps from the root: those of the current directory, unless the path starts at the root
itself, and then those of the path that are not single dots. -/
theorem steps_absolute (here p : Path) : (absolute here p).steps =
    (if p.isAbsolute then [] else here.steps) ++ p.steps.filter fun step => step ≠ ['.'] := by
  have horigin : (origin here p).steps = if p.isAbsolute then [] else here.steps := by
    rw [origin]
    split_ifs
    · rcases absoluteStart_cases p with hstart | hstart <;> rw [hstart] <;> rfl
    · rfl
  have hextend : ((origin here p).extend p.names).steps =
      (if p.isAbsolute then [] else here.steps) ++ p.steps.filter fun step => step ≠ ['.'] := by
    rw [steps_extend _ fun _ => isSegment_of_mem_names, horigin, names_eq_filter_steps]
  rcases absolute_cases here p with habsolute | habsolute
  · rw [habsolute, hextend]
  · rw [habsolute, steps_join_empty, hextend]

/-- Spelling a path from the root brings in no NUL. -/
theorem hasNul_absolute (hhere : p.isAbsolute = false → here.hasNul = false)
    (hp : p.hasNul = false) : (absolute here p).hasNul = false := by
  have horigin : (origin here p).hasNul = false := by
    rw [origin]
    split_ifs with habsolute
    · rcases absoluteStart_cases p with hstart | hstart <;> rw [hstart] <;> rfl
    · exact hhere (Bool.eq_false_iff.mpr habsolute)
  have hextend : ((origin here p).extend p.names).hasNul = false :=
    hasNul_extend (fun _ => isSegment_of_mem_names) (fun _ => hasNul_of_mem_names hp) horigin
  rcases absolute_cases here p with habsolute | habsolute
  · rw [habsolute, hextend]
  · rw [habsolute, hasNul_join_empty, hextend]

end Path

end FragmentRunner
