import FragmentRunner.Path
import Mathlib.Data.List.DropRight

/-!
# Components of a path

What joining does to the steps, the last component and the parent of a path. A name is plain if it
is one component and leads down into a directory; all files that the program makes have plain
names, so a path that ends in one is taken apart in one way only, however the directory in front
of it is spelled.

* `steps_join`: the steps of a joined path.
* `fileName?_join` and `parent?_join`: the joined path taken apart again. The parent may be spelled
  differently from the directory, but it takes the same steps up to single dots at the end.
-/

namespace FragmentRunner.Path

/-- A name that is one component of a path and leads down. -/
structure IsPlain (name : Name) : Prop where
  ne_nil : name ≠ []
  ne_here : name ≠ ['.']
  ne_up : name ≠ up
  noSlash : '/' ∉ name

instance (name : Name) : Decidable (IsPlain name) :=
  decidable_of_iff (name ≠ [] ∧ name ≠ ['.'] ∧ name ≠ up ∧ '/' ∉ name)
    ⟨fun ⟨h₁, h₂, h₃, h₄⟩ => ⟨h₁, h₂, h₃, h₄⟩, fun h => ⟨h.ne_nil, h.ne_here, h.ne_up, h.noSlash⟩⟩

/-- A plain name leads somewhere. -/
theorem IsPlain.isIdle_eq_false {name : Name} (h : IsPlain name) : isIdle name = false := by
  simp [isIdle, h.ne_nil, h.ne_here]

@[simp] theorem segments_nil : segments [] = [[]] := rfl

/-- A text without slashes is one segment. -/
theorem segments_of_noSlash {s : List Char} (h : '/' ∉ s) : segments s = [s] :=
  Text.pieces_of_forall_not fun c hc => by
    simp only [decide_eq_false_iff_not]
    rintro rfl
    exact h hc

theorem segments_append_slash (s t : List Char) :
    segments (s ++ '/' :: t) = segments s ++ segments t :=
  Text.pieces_append_cons (by simp) s t

theorem segments_slash_cons (t : List Char) : segments ('/' :: t) = [] :: segments t :=
  segments_append_slash [] t

theorem segments_ne_nil (s : List Char) : segments s ≠ [] :=
  Text.pieces_ne_nil _ s

theorem noSlash_of_mem_segments {s : List Char} {segment : Name} (h : segment ∈ segments s) :
    '/' ∉ segment := by
  intro hc
  simpa using Text.not_of_mem_pieces h hc

/-- Segments that are put together are the segments of what they make. -/
theorem segments_ofSegments {parts : List Name} (hne : parts ≠ [])
    (h : ∀ part ∈ parts, '/' ∉ part) : segments (ofSegments parts) = parts := by
  refine Text.pieces_intercalate (by simp) hne fun part hpart d hd => ?_
  simp only [decide_eq_false_iff_not]
  rintro rfl
  exact h part hpart hd

/-- Joining a directory and a plain name puts a slash between them, unless the directory is spelled
with one at its end or not spelled at all. -/
theorem join_cases (directory : Path) {name : Name} (h : IsPlain name) :
    (directory.chars = [] ∧ (directory.join ⟨name⟩).chars = name) ∨
      (directory.chars ≠ [] ∧ ∃ body, (directory.chars = body ∨ directory.chars = body ++ ['/']) ∧
        (directory.join ⟨name⟩).chars = body ++ '/' :: name) := by
  have hrelative : (⟨name⟩ : Path).isAbsolute = false := by
    simp only [isAbsolute, decide_eq_false_iff_not]
    exact fun hhead => h.noSlash (List.mem_of_mem_head? hhead)
  by_cases hempty : directory.chars = []
  · left
    simp [join, hrelative, hempty]
  · right
    refine ⟨hempty, ?_⟩
    by_cases hslash : directory.endsWithSlash = true
    · obtain ⟨body, hbody⟩ := List.getLast?_eq_some_iff.mp (of_decide_eq_true hslash)
      exact ⟨body, .inr hbody, by simp [join, hrelative, hslash, hbody]⟩
    · exact ⟨directory.chars, .inl rfl, by simp [join, hrelative, hempty, hslash]⟩

/-- A plain name is one step. -/
theorem steps_of_noSlash {name : Name} (h : IsPlain name) : (⟨name⟩ : Path).steps = [name] := by
  simp [steps, segments_of_noSlash h.noSlash, h.ne_nil]

/-- A plain name below a directory is one more step. -/
theorem steps_join (directory : Path) {name : Name} (h : IsPlain name) :
    (directory.join ⟨name⟩).steps = directory.steps ++ [name] := by
  have hname := steps_of_noSlash h
  rcases join_cases directory h with ⟨hempty, hjoin⟩ | ⟨-, body, hbody, hjoin⟩
  · rw [steps, hjoin, steps, hempty, segments_nil]
    exact hname
  · have hsteps : (directory.join ⟨name⟩).steps
        = (segments body).filter (fun segment => !segment.isEmpty) ++ [name] := by
      rw [steps, hjoin, segments_append_slash, List.filter_append, ← hname, steps]
    rcases hbody with hbody | hbody
    · rw [hsteps, steps, hbody]
    · rw [hsteps, steps, hbody, segments_append_slash, List.filter_append]
      simp

/-- Whether a joined path starts at the root depends on the directory alone. -/
theorem isAbsolute_join (directory : Path) {name : Name} (h : IsPlain name) :
    (directory.join ⟨name⟩).isAbsolute = directory.isAbsolute := by
  rcases join_cases directory h with ⟨hempty, hjoin⟩ | ⟨hne, body, hbody, hjoin⟩
  · have hhead : name.head? ≠ some '/' := fun hhead => h.noSlash (List.mem_of_mem_head? hhead)
    simp [isAbsolute, hjoin, hempty, hhead]
  · cases body with
    | nil =>
      have hchars : directory.chars = ['/'] := by
        rcases hbody with hbody | hbody
        · exact absurd hbody hne
        · exact hbody
      simp [isAbsolute, hjoin, hchars]
    | cons c body =>
      rcases hbody with hbody | hbody <;> simp [isAbsolute, hjoin, hbody]

/-- A path that ends in a plain name does not end with a slash. -/
theorem endsWithSlash_join (directory : Path) {name : Name} (h : IsPlain name) :
    (directory.join ⟨name⟩).endsWithSlash = false := by
  have hlast : name.getLast? ≠ some '/' := fun hlast => h.noSlash (List.mem_of_getLast? hlast)
  rcases join_cases directory h with ⟨-, hjoin⟩ | ⟨-, body, -, hjoin⟩
  · simp [endsWithSlash, hjoin, hlast]
  · have hcons : ('/' :: name).getLast? = name.getLast? := by
      rw [List.getLast?_cons_of_ne_nil h.ne_nil]
    simp [endsWithSlash, hjoin, List.getLast?_append, hcons, hlast, h.ne_nil]

/-- The start of a path and what follows it make up the path. -/
theorem splitStart_append (p : Path) : p.splitStart.1 ++ p.splitStart.2 = p.chars := by
  rw [splitStart]
  split
  · next rest hchars => rw [hchars, List.singleton_append]
  · next hchars => rw [hchars, List.append_nil]
  · next rest hchars => rw [hchars, List.singleton_append]
  · exact List.nil_append _

/-- A path starts with nothing, with the root, or with a dot of its own. -/
theorem splitStart_cases (p : Path) :
    (p.splitStart.1 = [] ∧ p.chars.head? ≠ some '/') ∨ p.splitStart.1 = ['/'] ∨
      (p.splitStart.1 = ['.'] ∧ (p.splitStart.2 = [] ∨ ∃ rest, p.splitStart.2 = '/' :: rest)) := by
  rw [splitStart]
  split
  · exact .inr (.inl rfl)
  · exact .inr (.inr ⟨rfl, .inl rfl⟩)
  · next rest hchars => exact .inr (.inr ⟨rfl, .inr ⟨rest, rfl⟩⟩)
  · next hroot hdot hdotSlash =>
    refine .inl ⟨rfl, fun hhead => ?_⟩
    obtain ⟨rest, hrest⟩ := List.head?_eq_some_iff.mp hhead
    exact hroot rest hrest

/-- A plain name has no start: it is all that there is. -/
theorem splitStart_of_isPlain {name : Name} (h : IsPlain name) :
    (⟨name⟩ : Path).splitStart.2 = name := by
  have hchars : (⟨name⟩ : Path).splitStart.1 ++ (⟨name⟩ : Path).splitStart.2 = name :=
    splitStart_append ⟨name⟩
  rcases splitStart_cases ⟨name⟩ with ⟨hstart, -⟩ | hstart | ⟨hstart, hrest | ⟨rest, hrest⟩⟩
  · simpa [hstart] using hchars
  · rw [hstart] at hchars
    exact absurd (by rw [← hchars]; simp) h.noSlash
  · rw [hstart, hrest] at hchars
    exact absurd hchars.symm h.ne_here
  · rw [hstart, hrest] at hchars
    exact absurd (by rw [← hchars]; simp) h.noSlash

/-- What follows the start of a joined path ends in the joined name, after a slash if there is
anything in between. -/
theorem splitStart_join (directory : Path) {name : Name} (h : IsPlain name) :
    ∃ before, segments (directory.join ⟨name⟩).splitStart.2 = before ++ [name] := by
  have hlast := segments_of_noSlash h.noSlash
  rcases join_cases directory h with ⟨-, hjoin⟩ | ⟨-, body, -, hjoin⟩
  · have hpath : directory.join ⟨name⟩ = ⟨name⟩ := congrArg Path.mk hjoin
    exact ⟨[], by rw [hpath, splitStart_of_isPlain h, hlast, List.nil_append]⟩
  · have hchars := splitStart_append (directory.join ⟨name⟩)
    rw [hjoin] at hchars
    -- The start ends somewhere in `body ++ '/' :: name`: before the slash, just before it, or with
    -- it. Beyond the slash it cannot reach, since no start is longer than the root.
    rcases List.append_eq_append_iff.mp hchars with ⟨middle, hbody, hrest⟩ | ⟨middle, hstart, hrest⟩
    · exact ⟨segments middle, by rw [hrest, segments_append_slash, hlast]⟩
    · cases middle with
      | nil =>
        rw [List.nil_append] at hrest
        exact ⟨[[]], by rw [← hrest, segments_slash_cons, hlast, List.singleton_append]⟩
      | cons c middle =>
        obtain ⟨rfl, hname⟩ := List.cons_eq_cons.mp hrest
        have hroot : (directory.join ⟨name⟩).splitStart.1 = ['/'] := by
          rcases splitStart_cases (directory.join ⟨name⟩) with ⟨hempty, -⟩ | hroot | ⟨hdot, -⟩
          · simp [hempty] at hstart
          · exact hroot
          · rw [hdot] at hstart
            exact absurd (hstart ▸ (by simp : '/' ∈ body ++ '/' :: middle)) (by simp)
        obtain rfl : middle = [] := by
          have hlength := congrArg List.length (hroot.symm.trans hstart)
          simp only [List.length_append, List.length_cons, List.length_nil] at hlength
          exact List.eq_nil_of_length_eq_zero (by omega)
        have hrest : (directory.join ⟨name⟩).splitStart.2 = name := hname.symm
        exact ⟨[], by rw [hrest, hlast, List.nil_append]⟩

/-- A path whose segments end in a plain name has this name as its last component. -/
theorem reversedBody_of_segments {p : Path} {before : List Name} {name : Name} (h : IsPlain name)
    (hbefore : segments p.splitStart.2 = before ++ [name]) :
    p.reversedBody = name :: before.reverse := by
  rw [reversedBody, hbefore, List.reverse_append, List.reverse_singleton, List.singleton_append,
    List.dropWhile_cons_of_neg (by simp [h.isIdle_eq_false])]

/-- The last component of a joined path is the joined name. -/
theorem fileName?_join (directory : Path) {name : Name} (h : IsPlain name) :
    (directory.join ⟨name⟩).fileName? = some name := by
  obtain ⟨before, hbefore⟩ := splitStart_join directory h
  simp [fileName?, reversedBody_of_segments h hbefore, h.ne_up]

/-- A last component holds no slash. -/
theorem noSlash_of_fileName? {p : Path} {name : Name} (h : p.fileName? = some name) :
    '/' ∉ name := by
  rw [fileName?] at h
  cases hbody : p.reversedBody with
  | nil => simp [hbody] at h
  | cons last before =>
    simp only [hbody] at h
    split_ifs at h
    obtain rfl := Option.some.inj h
    have hmem : last ∈ (segments p.splitStart.2).reverse :=
      List.dropWhile_subset isIdle (by
        rw [← reversedBody, hbody]
        exact List.mem_cons_self)
    exact noSlash_of_mem_segments (List.mem_reverse.mp hmem)

/-- The stem of a name is part of the name. -/
theorem mem_of_mem_stem {name : Name} {c : Char} (h : c ∈ stem name) : c ∈ name := by
  rw [stem] at h
  split at h
  · exact h
  · exact h
  · next first before hdrop =>
    have hmem : c ∈ name.reverse.dropWhile (· ≠ '.') := by
      rw [hdrop]
      exact List.mem_cons_of_mem _ (List.mem_reverse.mp h)
    exact List.mem_reverse.mp (List.dropWhile_subset _ hmem)

/-- The steps of a path: a dot that it starts with, and the nonempty segments after its start. -/
theorem steps_eq_splitStart (p : Path) :
    p.steps = (if p.splitStart.1 = ['.'] then [['.']] else [])
      ++ (segments p.splitStart.2).filter fun segment => !segment.isEmpty := by
  have hchars := splitStart_append p
  rcases splitStart_cases p with ⟨hstart, -⟩ | hstart | ⟨hstart, hrest | ⟨rest, hrest⟩⟩
  · rw [hstart, List.nil_append] at hchars
    simp [steps, hstart, hchars]
  · rw [hstart, List.singleton_append] at hchars
    simp [steps, hstart, ← hchars, segments_slash_cons]
  · rw [hstart, hrest] at hchars
    simp [steps, hstart, hrest, ← hchars, segments_of_noSlash]
  · rw [hstart, hrest] at hchars
    have hsegments : segments p.chars = ['.'] :: segments rest := by
      rw [← hchars, segments_append_slash, segments_of_noSlash (by simp), List.singleton_append]
    simp [steps, hstart, hrest, hsegments, segments_slash_cons]

/-- Idle segments are the empty ones and single dots, so of idle segments only dots are steps. -/
theorem eq_dot_of_isIdle {segment : Name} (h : isIdle segment = true)
    (hne : segment.isEmpty = false) : segment = ['.'] := by
  simpa [isIdle, hne] using h

/-- The segments between the start of a path and its last component, without idle ones at the end,
spell the parent. -/
theorem steps_parent {start : List Char} {parts : List Name}
    (hstart : start = [] ∨ start = ['/'] ∨
      (start = ['.'] ∧ (parts = [] ∨ ∃ rest, rest ≠ [] ∧ parts = [] :: rest)))
    (hparts : ∀ part ∈ parts, '/' ∉ part) :
    (⟨start ++ ofSegments parts⟩ : Path).steps
      = (if start = ['.'] then [['.']] else [])
        ++ parts.filter fun segment => !segment.isEmpty := by
  have hsegments : (segments (ofSegments parts)).filter (fun segment => !segment.isEmpty)
      = parts.filter fun segment => !segment.isEmpty := by
    by_cases hne : parts = []
    · simp [hne, ofSegments]
    · rw [segments_ofSegments hne hparts]
  rcases hstart with rfl | rfl | ⟨rfl, rfl | ⟨rest, hrest, rfl⟩⟩
  · simpa [steps] using hsegments
  · simpa [steps, segments_slash_cons] using hsegments
  · rfl
  · -- A dot at the start is followed by a slash, which is where the empty first segment comes from.
    obtain ⟨-, hrestSlash⟩ := List.forall_mem_cons.mp hparts
    have hspelled : ['.'] ++ ofSegments ([] :: rest) = ['.'] ++ '/' :: ofSegments rest := by
      simp [ofSegments, List.intercalate_cons_of_ne_nil hrest]
    rw [steps, hspelled, segments_append_slash, segments_of_noSlash (by simp),
      segments_ofSegments hrest hrestSlash]
    simp

/-- Without the idle segments at its end, a list that begins with an empty segment is empty or still
begins with it: an empty segment is never left alone. -/
theorem rdropWhile_isIdle_nil_cons (parts : List Name) :
    ([] :: parts).rdropWhile isIdle = [] ∨
      ∃ rest, rest ≠ [] ∧ ([] :: parts).rdropWhile isIdle = [] :: rest := by
  by_cases hparts : parts.reverse.dropWhile isIdle = []
  · left
    simp [List.rdropWhile, List.dropWhile_append, hparts, isIdle]
  · right
    refine ⟨(parts.reverse.dropWhile isIdle).reverse, by simpa using hparts, ?_⟩
    simp [List.rdropWhile, List.dropWhile_append, hparts]

/-- A text that does not start with a slash has a first segment that is not empty, if it has
several. -/
theorem segments_head_ne_nil {s : List Char} (hs : s.head? ≠ some '/') {first next : Name}
    {others : List Name} (h : segments s = first :: next :: others) :
    ∃ c rest, first = c :: rest ∧ c ≠ '/' := by
  cases s with
  | nil => simp at h
  | cons c s =>
    have hc : c ≠ '/' := by simpa using hs
    obtain ⟨part, parts, hparts⟩ := List.exists_cons_of_ne_nil (segments_ne_nil s)
    have hcons : segments (c :: s) = (c :: part) :: parts := by
      rw [segments, Text.pieces, if_neg (by simpa using hc)]
      rw [segments] at hparts
      rw [hparts]
    exact ⟨c, part, (List.cons_eq_cons.mp (h.symm.trans hcons)).1, hc⟩

section Parent

variable {p : Path} {before idle : List Name} {name : Name}
  (hbefore : segments p.splitStart.2 = before ++ name :: idle)

include hbefore

/-- The start of a path decides how the segments between it and the last component begin. -/
theorem splitStart_shape (hname : name ≠ []) :
    p.splitStart.1 = [] ∨ p.splitStart.1 = ['/'] ∨ (p.splitStart.1 = ['.'] ∧
      (before.rdropWhile isIdle = [] ∨
        ∃ rest, rest ≠ [] ∧ before.rdropWhile isIdle = [] :: rest)) := by
  rcases splitStart_cases p with ⟨hstart, -⟩ | hstart | ⟨hstart, hrest | ⟨rest, hrest⟩⟩
  · exact .inl hstart
  · exact .inr (.inl hstart)
  · rw [hrest, segments_nil] at hbefore
    have hsingle := List.append_eq_singleton_iff.mp hbefore.symm
    simp [hname] at hsingle
  · rw [hrest, segments_slash_cons] at hbefore
    cases before with
    | nil => exact absurd (List.cons_eq_cons.mp hbefore).1.symm hname
    | cons first before =>
      obtain ⟨rfl, -⟩ := List.cons_eq_cons.mp hbefore
      exact .inr (.inr ⟨hstart, rdropWhile_isIdle_nil_cons before⟩)

/-- The parent of a path starts at the root if the path does. -/
theorem isAbsolute_parent :
    (⟨p.splitStart.1 ++ ofSegments (before.rdropWhile isIdle)⟩ : Path).isAbsolute
      = p.isAbsolute := by
  have hchars := splitStart_append p
  rcases splitStart_cases p with ⟨hstart, hhead⟩ | hstart | ⟨hstart, -⟩
  · -- Nothing is in front of the first segment that is kept, so it decides.
    rw [hstart, List.nil_append] at hchars ⊢
    rw [hchars] at hbefore
    obtain ⟨dropped, hdropped⟩ := List.rdropWhile_prefix isIdle before
    cases hkept : before.rdropWhile isIdle with
    | nil => simp [isAbsolute, ofSegments, hhead]
    | cons first kept =>
      obtain ⟨next, others, hnext⟩ := List.exists_cons_of_ne_nil
        (List.append_ne_nil_of_right_ne_nil (kept ++ dropped) (List.cons_ne_nil name idle))
      have hsegments : segments p.chars = first :: next :: others := by
        rw [hbefore, ← hdropped, hkept, ← hnext]
        simp
      obtain ⟨c, rest, rfl, hc⟩ := segments_head_ne_nil hhead hsegments
      simp [isAbsolute, ofSegments, hhead, hc]
  · rw [isAbsolute, isAbsolute, ← hchars, hstart]
    simp
  · rw [isAbsolute, isAbsolute, ← hchars, hstart]
    simp

/-- The parent of a path is spelled by what is in front of its last component, which is followed by
idle segments only. -/
theorem parent?_of_segments (hname : isIdle name = false) (hidle : ∀ segment ∈ idle, isIdle segment) :
    p.parent? = some ⟨p.splitStart.1 ++ ofSegments (before.rdropWhile isIdle)⟩ := by
  have hbody : p.reversedBody = name :: before.reverse := by
    rw [reversedBody, hbefore, List.reverse_append, List.reverse_cons, List.append_assoc,
      List.dropWhile_append_of_pos fun segment hmem => hidle segment (List.mem_reverse.mp hmem),
      List.singleton_append, List.dropWhile_cons_of_neg (by simp [hname])]
  rw [parent?, hbody, List.rdropWhile]

end Parent

/-- Without its idle segments at the end, a list ends in one that is not idle. -/
theorem exists_concat_of_not_idle {parts : List Name} (h : ∃ part ∈ parts, isIdle part = false) :
    ∃ before name idle, parts = before ++ name :: idle ∧ isIdle name = false ∧
      ∀ segment ∈ idle, isIdle segment := by
  have hne : parts.rdropWhile isIdle ≠ [] := by
    intro hnil
    obtain ⟨part, hmem, hpart⟩ := h
    have hall := List.rdropWhile_eq_nil_iff.mp hnil part hmem
    simp [hpart] at hall
  have hlast := List.rdropWhile_last_not isIdle parts hne
  refine ⟨(parts.rdropWhile isIdle).dropLast, (parts.rdropWhile isIdle).getLast hne,
    parts.rtakeWhile isIdle, ?_, by simpa using hlast, fun _ => List.mem_rtakeWhile_imp⟩
  rw [List.append_cons, List.dropLast_append_getLast, List.rdropWhile_append_rtakeWhile]

/-- Of idle segments only single dots are steps. -/
theorem filter_idle_eq_dots {idle : List Name} (h : ∀ segment ∈ idle, isIdle segment) :
    ∀ step ∈ idle.filter (fun segment => !segment.isEmpty), step = ['.'] := by
  intro step hstep
  obtain ⟨hmem, hne⟩ := List.mem_filter.mp hstep
  exact eq_dot_of_isIdle (h step hmem) (by simpa using hne)

/-- A path that has a step other than a single dot has a parent, which is without the last such
step and the dots around it. The parent has a dot at its end only if it has no other step. -/
theorem exists_parent {p : Path} (h : ∃ step ∈ p.steps, step ≠ ['.']) :
    ∃ parent dots name more, p.parent? = some parent ∧
      p.steps = parent.steps ++ dots ++ name :: more ∧ name ≠ ['.'] ∧
      (∀ step ∈ dots ++ more, step = ['.']) ∧ parent.isAbsolute = p.isAbsolute ∧
      (parent.steps.getLast? = some ['.'] → parent.steps = [['.']]) := by
  have hsteps := steps_eq_splitStart p
  -- The start of the path is no such step, so there is one behind it.
  have hfound : ∃ part ∈ segments p.splitStart.2, isIdle part = false := by
    obtain ⟨step, hmem, hdot⟩ := h
    rw [hsteps, List.mem_append] at hmem
    rcases hmem with hmem | hmem
    · split_ifs at hmem
      · exact absurd (List.mem_singleton.mp hmem) hdot
      · cases hmem
    · obtain ⟨hmem, hne⟩ := List.mem_filter.mp hmem
      exact ⟨step, hmem, by simp_all [isIdle]⟩
  obtain ⟨before, name, idle, hbefore, hname, hidle⟩ := exists_concat_of_not_idle hfound
  have hnil : name ≠ [] := by
    rintro rfl
    simp [isIdle] at hname
  have hnoSlash : ∀ part ∈ before.rdropWhile isIdle, '/' ∉ part := fun part hpart => by
    refine noSlash_of_mem_segments (s := p.splitStart.2) ?_
    rw [hbefore]
    exact List.mem_append_left _ ((List.rdropWhile_prefix isIdle before).subset hpart)
  have hparent := steps_parent (splitStart_shape hbefore hnil) hnoSlash
  refine ⟨_, (before.rtakeWhile isIdle).filter fun segment => !segment.isEmpty, name,
    idle.filter fun segment => !segment.isEmpty, parent?_of_segments hbefore hname hidle, ?_, ?_, ?_,
    isAbsolute_parent hbefore, ?_⟩
  · have hsplit : before.filter (fun segment => !segment.isEmpty)
        = (before.rdropWhile isIdle).filter (fun segment => !segment.isEmpty)
          ++ (before.rtakeWhile isIdle).filter fun segment => !segment.isEmpty := by
      rw [← List.filter_append, List.rdropWhile_append_rtakeWhile]
    rw [hparent, hsteps, hbefore, List.filter_append, hsplit,
      List.filter_cons_of_pos (by simp [hnil])]
    simp
  · rintro rfl
    simp [isIdle] at hname
  · intro step hstep
    rcases List.mem_append.mp hstep with hstep | hstep
    · exact filter_idle_eq_dots (fun _ => List.mem_rtakeWhile_imp) step hstep
    · exact filter_idle_eq_dots hidle step hstep
  · rw [hparent]
    intro hlast
    by_cases hkept : before.rdropWhile isIdle = []
    · rw [hkept] at hlast ⊢
      split_ifs at hlast ⊢
      · rfl
      · cases hlast
    · -- What is kept ends in a segment that is not idle.
      have hend := List.rdropWhile_last_not isIdle before hkept
      rw [← List.dropLast_append_getLast hkept, List.filter_append] at hlast
      generalize (before.rdropWhile isIdle).getLast hkept = last at hend hlast
      have hne : last.isEmpty = false := by
        cases last <;> simp_all [isIdle]
      rw [List.filter_cons_of_pos (by simp [hne]), List.filter_nil, ← List.append_assoc,
        List.getLast?_concat] at hlast
      obtain rfl := Option.some.inj hlast
      simp [isIdle] at hend

/-- The parent of a path whose last step is no dot is without this step and the dots in front of
it. -/
theorem exists_parent_of_concat {p : Path} {front : List Name} {name : Name}
    (hsteps : p.steps = front ++ [name]) (hname : name ≠ ['.']) :
    ∃ parent dots, p.parent? = some parent ∧ (∀ step ∈ dots, step = ['.']) ∧
      front = parent.steps ++ dots ∧ parent.isAbsolute = p.isAbsolute ∧
      (parent.steps.getLast? = some ['.'] → parent.steps = [['.']]) := by
  obtain ⟨parent, dots, last, more, hparent, hall, -, hdots, habsolute, hend⟩ :=
    exists_parent (p := p) ⟨name, by simp [hsteps], hname⟩
  rw [hsteps] at hall
  -- What comes behind the last component would be dots.
  obtain rfl : more = [] := by
    rcases List.eq_nil_or_concat more with hnil | ⟨before, step, rfl⟩
    · exact hnil
    · have hstep : step = ['.'] := hdots step (by simp)
      rw [List.concat_eq_append, ← List.cons_append, ← List.append_assoc] at hall
      have hlast := List.singleton_inj.mp (List.append_inj_right' hall rfl)
      exact absurd (hlast.trans hstep) hname
  exact ⟨parent, dots, hparent, fun step hstep => hdots step (by simp [hstep]),
    List.append_inj_left' hall rfl, habsolute, hend⟩

/-- The parent of a joined path takes the same way as the directory that was joined, except for
single dots at its end. -/
theorem parent?_join (directory : Path) {name : Name} (h : IsPlain name) :
    ∃ parent dots, (directory.join ⟨name⟩).parent? = some parent ∧
      (∀ step ∈ dots, step = ['.']) ∧ directory.steps = parent.steps ++ dots ∧
      parent.isAbsolute = directory.isAbsolute := by
  obtain ⟨parent, dots, hparent, hdots, hsteps, habsolute, -⟩ :=
    exists_parent_of_concat (steps_join directory h) h.ne_here
  exact ⟨parent, dots, hparent, hdots, hsteps, habsolute.trans (isAbsolute_join directory h)⟩

end FragmentRunner.Path
