import FragmentRunner.Proofs.Path.Absolute

/-!
# Paths listed by their components

`components` lists what a path consists of: the root or a leading dot, if it starts with one, and
then its names, double dots among them. Doubled slashes, other single dots and a slash at the end
are no components, so the list is what two spellings of one path have in common.

* `head?_components`: the first component, if it is a name, is the first segment.
* `components_join`: a path that starts with a name is listed after the directory that it is in.
* `components_stripFirst?`: without its first component, a path is listed by the others.
-/

namespace FragmentRunner.Path

variable {directory p rest : Path} {first name : Name} {others : List Name}

/-- The component that a path starts with if it is the root or a dot. -/
def lead (p : Path) : List Name :=
  if p.isAbsolute then [['/']]
  else if (segments p.chars).head? = some ['.'] then [['.']] else []

/-- The components of a path, in order and as they are spelled. -/
def components (p : Path) : List Name :=
  p.lead ++ p.names

example : components (.ofString "~//etc/./x/../") = [['~'], "etc".toList, ['x'], up] := by decide

/-! ## The first component -/

/-- In front of the first slash of an absolute path there is nothing. -/
theorem head?_segments_of_isAbsolute (h : p.isAbsolute = true) :
    (segments p.chars).head? = some [] := by
  obtain ⟨below, hchars⟩ := List.head?_eq_some_iff.mp (of_decide_eq_true h)
  rw [hchars, segments_slash_cons, List.head?_cons]

/-- A path whose first segment is empty is empty or absolute. -/
theorem eq_nil_or_isAbsolute (h : (segments p.chars).head? = some []) :
    p.chars = [] ∨ p.isAbsolute = true := by
  obtain ⟨others, hsegments⟩ := List.head?_eq_some_iff.mp h
  rw [isAbsolute, ← ofSegments_segments p.chars, hsegments, ofSegments]
  by_cases hothers : others = []
  · left
    rw [hothers, List.intercalate_singleton]
  · right
    simp [List.intercalate_cons_of_ne_nil hothers]

/-- A path that starts with a name is relative. -/
theorem isAbsolute_of_head? (h : (segments p.chars).head? = some name)
    (hname : isIdle name = false) : p.isAbsolute = false := by
  rw [Bool.eq_false_iff]
  intro habsolute
  rw [head?_segments_of_isAbsolute habsolute] at h
  simp [← Option.some.inj h, isIdle] at hname

/-- A path that starts with a name has no other start. -/
theorem lead_of_head? (h : (segments p.chars).head? = some name) (hname : isIdle name = false) :
    p.lead = [] := by
  have hdot : name ≠ ['.'] := by
    rintro rfl
    simp [isIdle] at hname
  rw [lead, isAbsolute_of_head? h hname, h, if_neg Bool.false_ne_true, if_neg (by simpa using hdot)]

/-- A path that starts with a name has it for its first component. -/
theorem components_of_segments (h : segments p.chars = name :: others)
    (hname : isIdle name = false) :
    p.components = name :: others.filter fun segment => !isIdle segment := by
  have hhead : (segments p.chars).head? = some name := by rw [h, List.head?_cons]
  rw [components, lead_of_head? hhead hname, List.nil_append, names, h,
    List.filter_cons_of_pos (by simp [hname])]

/-- The first component, if it is a name, is what stands in front of the first slash. -/
theorem head?_components (hname : isIdle name = false) (hroot : name ≠ ['/']) :
    p.components.head? = some name ↔ (segments p.chars).head? = some name := by
  constructor
  · intro h
    obtain ⟨first, others, hsegments⟩ := List.exists_cons_of_ne_nil (segments_ne_nil p.chars)
    cases hfirst : isIdle first with
    | false =>
      rw [components_of_segments hsegments hfirst] at h
      rw [hsegments]
      exact h
    | true =>
      -- The path starts at the root or with a dot, or there is nothing in it.
      have hhead : (segments p.chars).head? = some first := by rw [hsegments, List.head?_cons]
      rcases (by simpa [isIdle] using hfirst : first = [] ∨ first = ['.']) with rfl | rfl
      · rcases eq_nil_or_isAbsolute hhead with hnil | habsolute
        · simp [components, lead, names, isAbsolute, hnil, isIdle] at h
        · simp [components, lead, habsolute, Ne.symm hroot] at h
      · have habsolute : p.isAbsolute ≠ true := by
          intro habsolute
          simp [head?_segments_of_isAbsolute habsolute] at hhead
        rw [components, lead, if_neg habsolute, if_pos hhead] at h
        obtain rfl : ['.'] = name := by simpa using h
        simp [isIdle] at hname
  · intro h
    obtain ⟨others, hsegments⟩ := List.head?_eq_some_iff.mp h
    rw [components_of_segments hsegments hname, List.head?_cons]

/-! ## Joining -/

/-- Below the empty path there is nothing but what is joined to it. -/
theorem join_of_eq_nil (hdirectory : directory.chars = []) (p : Path) : directory.join p = p := by
  simp [join, hdirectory]

/-- A relative path comes after a slash, which may have been there before. -/
theorem exists_chars_join (hdirectory : directory.chars ≠ []) (hp : p.isAbsolute = false) :
    ∃ body, (directory.chars = body ∨ directory.chars = body ++ ['/']) ∧
      (directory.join p).chars = body ++ '/' :: p.chars := by
  rw [chars_join_relative directory hp]
  rcases chars_join_empty directory with ⟨hjoin, hnil | hslash⟩ | hjoin
  · exact absurd hnil hdirectory
  · obtain ⟨body, hbody⟩ := List.getLast?_eq_some_iff.mp (of_decide_eq_true hslash)
    exact ⟨body, .inr hbody, by rw [hjoin, hbody, List.append_assoc, List.singleton_append]⟩
  · exact ⟨directory.chars, .inl rfl, by rw [hjoin, List.append_assoc, List.singleton_append]⟩

/-- A path starts as the directory does that it is in. -/
theorem lead_join (hdirectory : directory.chars ≠ []) (hp : p.isAbsolute = false) :
    (directory.join p).lead = directory.lead := by
  have hhead : ∀ s t : List Char, (segments (s ++ '/' :: t)).head? = (segments s).head? := by
    intro s t
    rw [segments_append_slash, List.head?_append_of_ne_nil _ (segments_ne_nil s)]
  obtain ⟨body, hbody, hjoin⟩ := exists_chars_join hdirectory hp
  rw [lead, lead, isAbsolute_join_relative hdirectory hp, hjoin, hhead]
  rcases hbody with hbody | hbody
  · rw [hbody]
  · rw [hbody, hhead]

/-- The names of a path below a directory come after those of the directory. -/
theorem names_join (directory : Path) (hp : p.isAbsolute = false) :
    (directory.join p).names = directory.names ++ p.names := by
  rw [names_eq_filter_steps, steps_join_relative directory hp, List.filter_append,
    ← names_eq_filter_steps, ← names_eq_filter_steps]

/-- A path that starts neither at the root nor with a dot is listed after the directory that it is
in. -/
theorem components_join (directory : Path) (hp : p.isAbsolute = false) (hlead : p.lead = []) :
    (directory.join p).components = directory.components ++ p.components := by
  have hnames := names_join directory hp
  by_cases hdirectory : directory.chars = []
  · have hempty : directory.components = [] := by
      simp [components, lead, names, isAbsolute, hdirectory, isIdle]
    rw [join_of_eq_nil hdirectory, hempty, List.nil_append]
  · rw [components, lead_join hdirectory hp, hnames, components, components, hlead,
      List.nil_append, List.append_assoc]

/-! ## Without the first component -/

/-- Idle segments at the beginning of a list are no names. -/
theorem filter_dropWhile_isIdle (parts : List Name) :
    (parts.dropWhile isIdle).filter (fun segment => !isIdle segment) =
      parts.filter fun segment => !isIdle segment := by
  have hidle : (parts.takeWhile isIdle).filter (fun segment => !isIdle segment) = [] :=
    List.filter_eq_nil_iff.mpr fun segment hmem => by simp [List.mem_takeWhile_imp hmem]
  conv_rhs => rw [← List.takeWhile_append_dropWhile (p := isIdle) (l := parts),
    List.filter_append, hidle, List.nil_append]

/-- Without the idle segments at both of its ends, a list is empty or begins with a name. -/
theorem trimmed_cases (parts : List Name) :
    (parts.dropWhile isIdle).rdropWhile isIdle = [] ∨
      ∃ name more, (parts.dropWhile isIdle).rdropWhile isIdle = name :: more ∧
        isIdle name = false := by
  obtain ⟨idle, hidle⟩ := List.rdropWhile_prefix isIdle (parts.dropWhile isIdle)
  cases htrimmed : (parts.dropWhile isIdle).rdropWhile isIdle with
  | nil => exact .inl rfl
  | cons name more =>
    refine .inr ⟨name, more, rfl, ?_⟩
    rw [htrimmed, List.cons_append] at hidle
    have hhead := List.head?_dropWhile_not isIdle parts
    rw [← hidle] at hhead
    simpa using hhead

/-- Segments without the idle ones at both of their ends spell a path that lists the names among
them. -/
theorem components_trimmed {parts : List Name} (hparts : ∀ part ∈ parts, '/' ∉ part)
    (hp : p.chars = ofSegments ((parts.dropWhile isIdle).rdropWhile isIdle)) :
    p.isAbsolute = false ∧ p.lead = [] ∧
      p.components = parts.filter fun segment => !isIdle segment := by
  have hnames : ((parts.dropWhile isIdle).rdropWhile isIdle).filter
      (fun segment => !isIdle segment) = parts.filter fun segment => !isIdle segment := by
    rw [List.rdropWhile, List.filter_reverse, filter_dropWhile_isIdle, List.filter_reverse,
      List.reverse_reverse, filter_dropWhile_isIdle]
  rcases trimmed_cases parts with hnil | ⟨first, more, hmore, hfirst⟩
  · have hempty : p = empty := congrArg Path.mk (by rw [hp, hnil]; rfl)
    rw [← hnames, hnil, hempty]
    decide
  · have hspelled : segments p.chars = first :: more := by
      rw [hp, segments_ofSegments (by simp [hmore]), hmore]
      exact fun part hpart => hparts part
        (List.dropWhile_subset isIdle ((List.rdropWhile_prefix isIdle _).subset hpart))
    have hhead : (segments p.chars).head? = some first := by rw [hspelled, List.head?_cons]
    refine ⟨isAbsolute_of_head? hhead hfirst, lead_of_head? hhead hfirst, ?_⟩
    rw [components_of_segments hspelled hfirst, ← hnames, hmore,
      List.filter_cons_of_pos (by simp [hfirst])]

/-- Only what stands in front of the first slash is dropped. -/
theorem stripFirst?_eq_none (h : (segments p.chars).head? ≠ some name) :
    p.stripFirst? name = none := by
  obtain ⟨first, others, hsegments⟩ := List.exists_cons_of_ne_nil (segments_ne_nil p.chars)
  rw [hsegments, List.head?_cons, ne_eq, Option.some_inj] at h
  simp only [stripFirst?, hsegments, if_neg h]

/-- Without its first component, a path starts with a name, if there is any left, and is listed by
its other components. -/
theorem components_stripFirst? (h : (segments p.chars).head? = some name)
    (hname : isIdle name = false) :
    ∃ rest, p.stripFirst? name = some rest ∧ rest.isAbsolute = false ∧ rest.lead = [] ∧
      p.components = name :: rest.components := by
  obtain ⟨others, hsegments⟩ := List.head?_eq_some_iff.mp h
  have hothers : ∀ part ∈ others, '/' ∉ part := by
    intro part hpart
    apply noSlash_of_mem_segments (s := p.chars)
    simp [hsegments, hpart]
  let rest : Path := ⟨ofSegments ((others.dropWhile isIdle).rdropWhile isIdle)⟩
  have hstrip : p.stripFirst? name = some rest := by
    simp only [stripFirst?, hsegments, if_pos]
    rfl
  obtain ⟨hrelative, hlead, hlisted⟩ := components_trimmed (p := rest) hothers rfl
  exact ⟨rest, hstrip, hrelative, hlead, by rw [components_of_segments hsegments hname, hlisted]⟩

end FragmentRunner.Path
