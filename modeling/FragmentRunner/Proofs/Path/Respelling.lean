import FragmentRunner.Proofs.Path.Absolute

/-!
# Spelling a path from the root again

A path that is spelled from the root is a start, which is one slash or two, then names with one
slash between each two of them, and perhaps a slash at the end. Start, names and the last slash are
all that spelling it from the root looks at, so a path that is spelled so already stays as it is.

* `chars_extend`: how names are spelled below a start.
* `chars_absolute`: how a path is spelled from the root.
* `absolute_absolute`: spelling it once more changes nothing.
-/

namespace FragmentRunner.Path

variable {start p : Path} {segment : Name} {names here : List Name}

/-! ## Names below a start -/

/-- What absolute paths start with: one slash, or exactly two. -/
def IsStart (start : Path) : Prop :=
  start = root ∨ start = ⟨['/', '/']⟩

/-- A start ends with a slash already. -/
theorem IsStart.join_empty (h : IsStart start) : start.join empty = start := by
  rcases h with rfl | rfl <;> rfl

/-- More names go below those that are there. -/
theorem extend_append (directory : Path) (names more : List Name) :
    directory.extend (names ++ more) = (directory.extend names).extend more :=
  List.foldl_append

/-- A path that ends in a name does not end with a slash. -/
theorem endsWithSlash_extend (directory : Path) (hne : names ≠ [])
    (h : ∀ name ∈ names, IsSegment name) : (directory.extend names).endsWithSlash = false := by
  obtain ⟨front, last, rfl⟩ := (List.eq_nil_or_concat names).resolve_left hne
  rw [List.concat_eq_append, extend_append]
  exact endsWithSlash_join_segment _ (h last (by simp))

/-- The names below a start are spelled with one slash between each two of them. -/
theorem chars_extend (hstart : IsStart start) (h : ∀ name ∈ names, IsSegment name) :
    (start.extend names).chars = start.chars ++ ofSegments names := by
  -- A name is spelled behind those that are there, so the induction takes names off the end.
  induction names using List.reverseRecOn with
  | nil => exact (List.append_nil _).symm
  | append_singleton names name ih =>
    have hname : IsSegment name := h name (by simp)
    have hnames : ∀ name ∈ names, IsSegment name := fun name hmem => h name (by simp [hmem])
    have hextend : start.extend (names ++ [name]) = (start.extend names).join ⟨name⟩ :=
      extend_append start names [name]
    rw [hextend]
    by_cases hne : names = []
    · -- The first name comes directly behind the start.
      rw [hne, chars_join _ hname.noSlash]
      change (start.join empty).chars ++ name = start.chars ++ ofSegments [name]
      rw [hstart.join_empty, ofSegments, List.intercalate_singleton]
    · have hchars : (start.extend names).chars ≠ [] := by
        rw [ih hnames]
        rcases hstart with rfl | rfl <;> simp [root]
      rw [chars_join_segment hchars (endsWithSlash_extend start hne hnames) hname, ih hnames,
        ofSegments_append hne (List.cons_ne_nil name []), ofSegments, ofSegments,
        List.intercalate_singleton]
      simp

/-- Names do not begin with a slash, so a start is told from what is below it. -/
theorem head?_ofSegments (h : ∀ name ∈ names, IsSegment name) :
    (ofSegments names).head? ≠ some '/' := by
  cases names with
  | nil => simp [ofSegments]
  | cons first rest =>
    have hfirst := h first List.mem_cons_self
    obtain ⟨c, chars, rfl⟩ := List.exists_cons_of_ne_nil hfirst.ne_nil
    have hc : c ≠ '/' := by
      rintro rfl
      exact hfirst.noSlash List.mem_cons_self
    by_cases hrest : rest = []
    · simp [hrest, ofSegments, hc]
    · simp [ofSegments, List.intercalate_cons_of_ne_nil hrest, hc]

/-- The start of a path is read off its first characters. -/
theorem absoluteStart_of_chars {below : List Char} (hstart : IsStart start)
    (hbelow : below.head? ≠ some '/') (hp : p.chars = start.chars ++ below) :
    p.absoluteStart = start := by
  rw [absoluteStart, hp]
  rcases hstart with rfl | rfl
  · cases below with
    | nil => rfl
    | cons c below =>
      have hc : c ≠ '/' := by simpa using hbelow
      simp [root, hc]
  · cases below with
    | nil => rfl
    | cons c below =>
      have hc : c ≠ '/' := by simpa using hbelow
      simp [hc]

/-! ## Spelled from the root -/

/-- The names that lead from the root to a path, where those in `here` lead to the current
directory. -/
def namesFromRoot (here : List Name) (p : Path) : List Name :=
  (if p.isAbsolute then [] else here) ++ p.names

/-- The text of a path that is spelled from the root: its start, the names that lead to it, one
slash between each two of them, and a slash at the end if it has one there. -/
def spelledFromRoot (here : List Name) (p : Path) : List Char :=
  p.absoluteStart.chars ++ ofSegments (namesFromRoot here p) ++
    if p.endsWithSlash = true ∧ namesFromRoot here p ≠ [] then ['/'] else []

/-- A path from the current directory starts where that does. -/
theorem absoluteStart_of_relative (h : p.isAbsolute = false) : p.absoluteStart = root := by
  rw [isAbsolute, decide_eq_false_iff_not] at h
  rw [absoluteStart]
  split
  · rfl
  · next hchars => simp [hchars] at h
  · rfl

/-- A path is spelled from the root by the names that lead there, below its start. -/
theorem absolute_eq (here : List Name) (p : Path) : absolute (root.extend here) p =
    if p.endsWithSlash then (p.absoluteStart.extend (namesFromRoot here p)).join empty
    else p.absoluteStart.extend (namesFromRoot here p) := by
  rw [absolute, namesFromRoot]
  cases habsolute : p.isAbsolute with
  | true => rfl
  | false =>
    rw [absoluteStart_of_relative habsolute]
    simp only [Bool.false_eq_true, if_false, extend_append]

section

variable (hhere : ∀ name ∈ here, IsPlain name)

include hhere

/-- The names from the root are segments. -/
theorem isSegment_of_mem_namesFromRoot {name : Name} (h : name ∈ namesFromRoot here p) :
    IsSegment name := by
  rw [namesFromRoot, List.mem_append] at h
  rcases h with h | h
  · split_ifs at h
    · cases h
    · exact ⟨(hhere name h).ne_nil, (hhere name h).noSlash⟩
  · exact isSegment_of_mem_names h

/-- The text of a path that is spelled from the root. -/
theorem chars_absolute (p : Path) :
    (absolute (root.extend here) p).chars = spelledFromRoot here p := by
  have hstart : IsStart p.absoluteStart := absoluteStart_cases p
  have hsegments : ∀ name ∈ namesFromRoot here p, IsSegment name :=
    fun name => isSegment_of_mem_namesFromRoot hhere
  rw [absolute_eq here p, spelledFromRoot]
  by_cases hslash : p.endsWithSlash = true
  · rw [if_pos hslash]
    by_cases hne : namesFromRoot here p = []
    · -- Without names the slash of the start is the one at the end.
      rw [hne, if_neg (by simp), List.append_nil, ← chars_extend hstart (by simp)]
      exact congrArg Path.chars hstart.join_empty
    · have hends := endsWithSlash_extend p.absoluteStart hne hsegments
      rw [if_pos ⟨hslash, hne⟩, ← chars_extend hstart hsegments]
      rcases chars_join_empty (p.absoluteStart.extend (namesFromRoot here p)) with
        ⟨-, hnil | hends'⟩ | hjoin
      · rw [chars_extend hstart hsegments] at hnil
        rcases hstart with hroot | hroot <;> simp [hroot, root] at hnil
      · rw [hends] at hends'
        cases hends'
      · exact hjoin
  · rw [if_neg hslash, if_neg (fun h => hslash h.1), List.append_nil,
      chars_extend hstart hsegments]

/-- The names of a path that is spelled from the root are all those that lead there. -/
theorem names_absolute (p : Path) :
    (absolute (root.extend here) p).names = namesFromRoot here p := by
  have hsteps : (root.extend here).steps = here :=
    steps_extend root fun name hname => ⟨(hhere name hname).ne_nil, (hhere name hname).noSlash⟩
  have hdots : here.filter (fun step => step ≠ ['.']) = here :=
    List.filter_eq_self.mpr fun name hname => by simpa using (hhere name hname).ne_here
  rw [names_eq_filter_steps, steps_absolute, hsteps, namesFromRoot, names_eq_filter_steps,
    List.filter_append, List.filter_filter]
  split_ifs
  · simp
  · rw [hdots]
    simp

/-- Spelling a path from the root keeps its start. -/
theorem absoluteStart_absolute (p : Path) :
    (absolute (root.extend here) p).absoluteStart = p.absoluteStart := by
  have hsegments : ∀ name ∈ namesFromRoot here p, IsSegment name :=
    fun name => isSegment_of_mem_namesFromRoot hhere
  have hchars := chars_absolute hhere p
  rw [spelledFromRoot, List.append_assoc] at hchars
  refine absoluteStart_of_chars (absoluteStart_cases p) ?_ hchars
  -- A slash at the end is not at the beginning, for names come before it.
  have hhead := head?_ofSegments hsegments
  split_ifs with hends
  · obtain ⟨first, rest, hnames⟩ := List.exists_cons_of_ne_nil hends.2
    have hfirst : IsSegment first := hsegments first (by simp [hnames])
    have hne : ofSegments (namesFromRoot here p) ≠ [] := by
      rw [hnames, ofSegments]
      cases rest <;> simp [List.intercalate_cons_of_ne_nil, hfirst.ne_nil]
    rwa [List.head?_append_of_ne_nil _ hne]
  · rwa [List.append_nil]

/-- A path that is spelled from the root stays as it is when it is spelled from there again. -/
theorem absolute_absolute (p : Path) : absolute (root.extend here) (absolute (root.extend here) p) =
    absolute (root.extend here) p := by
  have hstart : IsStart p.absoluteStart := absoluteStart_cases p
  have hroot : (root.extend here).isAbsolute = true := isAbsolute_extend rfl here
  have hsame : namesFromRoot here (absolute (root.extend here) p) = namesFromRoot here p := by
    rw [namesFromRoot, isAbsolute_absolute hroot, if_pos rfl, List.nil_append,
      names_absolute hhere]
  rw [absolute_eq here (absolute (root.extend here) p), hsame, absoluteStart_absolute hhere]
  by_cases hne : namesFromRoot here p = []
  · -- Nothing but the start is spelled, with a slash at the end or without.
    have hspelled : p.absoluteStart.extend (namesFromRoot here p) = p.absoluteStart := by
      rw [hne]
      rfl
    rw [absolute_eq here p, hspelled, hstart.join_empty]
    split_ifs <;> rfl
  · have hends := endsWithSlash_extend p.absoluteStart hne fun name =>
      isSegment_of_mem_namesFromRoot hhere
    have hself := absolute_eq here p
    by_cases hslash : p.endsWithSlash = true
    · rw [if_pos hslash] at hself
      have hends' : (absolute (root.extend here) p).endsWithSlash = true := by
        rw [endsWithSlash, chars_absolute hhere, spelledFromRoot, if_pos ⟨hslash, hne⟩]
        simp
      rw [if_pos hends', hself]
    · rw [if_neg hslash] at hself
      rw [hself, hends, if_neg Bool.false_ne_true]

end

end FragmentRunner.Path
