import FragmentRunner.Proofs.Path.Components

/-!
# How joined paths are spelled

A path that does not end with a slash is its last component joined to what is in front of it. What
stands in front of a joined name, with the slash that joins them, is `directory.join empty`; the
parent of the joined path is spelled by a part of it, so that a name joined to the parent makes no
longer path than the same name joined to the directory.

* `exists_join`: a path taken apart before its last component.
* `parent_begins_directory`: the parent is spelled by the beginning of the directory.
-/

namespace FragmentRunner.Path

/-- The segments of a text, put together, are the text. -/
theorem ofSegments_segments (s : List Char) : ofSegments (segments s) = s :=
  Text.intercalate_pieces (fun _ hd => of_decide_eq_true hd) s

/-- What two lists of segments make together, with a slash in between. -/
theorem ofSegments_append {parts more : List Name} (hparts : parts ≠ []) (hmore : more ≠ []) :
    ofSegments (parts ++ more) = ofSegments parts ++ '/' :: ofSegments more := by
  induction parts with
  | nil => exact absurd rfl hparts
  | cons part parts ih =>
    rw [ofSegments] at ih ⊢
    rw [List.cons_append, ofSegments, ofSegments]
    rw [List.intercalate_cons_of_ne_nil (List.append_ne_nil_of_right_ne_nil parts hmore)]
    by_cases hlast : parts = []
    · rw [hlast, List.nil_append, List.intercalate_singleton, List.append_assoc,
        List.singleton_append]
    · rw [List.intercalate_cons_of_ne_nil hlast, ih hlast, ofSegments, ofSegments]
      simp

/-- A name without slashes is a relative path. -/
theorem isAbsolute_of_noSlash {name : Name} (h : '/' ∉ name) :
    (⟨name⟩ : Path).isAbsolute = false := by
  rw [isAbsolute, decide_eq_false_iff_not]
  exact fun hhead => h (List.mem_of_mem_head? hhead)

/-- A path is its last component joined to what is in front of it, unless it ends with a slash. The
component may be a single or a double dot. -/
theorem exists_join {p : Path} (hne : p.chars ≠ []) (hslash : p.endsWithSlash = false) :
    ∃ directory front name, name ≠ [] ∧ '/' ∉ name ∧ p = join directory ⟨name⟩ ∧
      p.steps = front ++ [name] := by
  obtain ⟨front, name, hsegments⟩ :=
    (List.eq_nil_or_concat (segments p.chars)).resolve_left (segments_ne_nil p.chars)
  have hchars : ofSegments (front ++ [name]) = p.chars := by
    rw [← List.concat_eq_append, ← hsegments, ofSegments_segments]
  have hname : '/' ∉ name := by
    apply noSlash_of_mem_segments (s := p.chars)
    simp [hsegments]
  have hsteps : name ≠ [] →
      p.steps = front.filter (fun segment => !segment.isEmpty) ++ [name] := by
    intro hnil
    rw [steps, hsegments, List.concat_eq_append, List.filter_append]
    simp [hnil]
  by_cases hfront : front = []
  · have hall : name = p.chars := by
      rw [← hchars, hfront, List.nil_append, ofSegments, List.intercalate_singleton]
    have hnil : name ≠ [] := hall ▸ hne
    refine ⟨empty, _, name, hnil, hname, ?_, hsteps hnil⟩
    rw [join, isAbsolute_of_noSlash hname, hall]
    rfl
  · have hall : ofSegments front ++ '/' :: name = p.chars := by
      rw [← hchars, ofSegments_append hfront (List.cons_ne_nil name []), ofSegments, ofSegments,
        List.intercalate_singleton]
    -- The last segment is empty only in a path that ends with a slash.
    have hnil : name ≠ [] := by
      rintro rfl
      rw [endsWithSlash, ← hall] at hslash
      simp at hslash
    refine ⟨⟨ofSegments front ++ ['/']⟩, _, name, hnil, hname, ?_, hsteps hnil⟩
    have hends : (⟨ofSegments front ++ ['/']⟩ : Path).endsWithSlash = true := by
      simp [endsWithSlash]
    rw [join, isAbsolute_of_noSlash hname, hends, Bool.or_true, List.append_assoc,
      List.singleton_append, hall]
    rfl

/-- A relative path is appended to the directory and the slash between them. -/
theorem chars_join_relative (directory : Path) {p : Path} (h : p.isAbsolute = false) :
    (directory.join p).chars = (directory.join empty).chars ++ p.chars := by
  have hempty : empty.isAbsolute = false := rfl
  rw [join, join, h, hempty]
  by_cases hslash : (directory.chars.isEmpty || directory.endsWithSlash) = true
  · simp [hslash, empty]
  · simp [hslash, empty]

/-- A plain name is appended to the directory and the slash between them. -/
theorem chars_join (directory : Path) {name : Name} (h : '/' ∉ name) :
    (directory.join ⟨name⟩).chars = (directory.join empty).chars ++ name :=
  chars_join_relative directory (isAbsolute_of_noSlash h)

/-- The directory itself is spelled by what is in front of a name joined to it, with a slash at the
end or without. -/
theorem chars_join_empty (directory : Path) :
    (directory.join empty).chars = directory.chars ∧
        (directory.chars = [] ∨ directory.endsWithSlash = true) ∨
      (directory.join empty).chars = directory.chars ++ ['/'] := by
  have hempty : empty.isAbsolute = false := rfl
  rw [join, hempty]
  by_cases hslash : (directory.chars.isEmpty || directory.endsWithSlash) = true
  · left
    refine ⟨by simp [hslash, empty], ?_⟩
    simpa using hslash
  · right
    simp [hslash, empty]

/-- Nothing or a slash ends what is in front of a joined name. -/
theorem join_empty_eq_nil_or_slash (directory : Path) :
    (directory.join empty).chars = [] ∨ ∃ body, (directory.join empty).chars = body ++ ['/'] := by
  rcases chars_join_empty directory with ⟨hjoin, hnil | hslash⟩ | hjoin
  · exact .inl (hjoin.trans hnil)
  · obtain ⟨body, hbody⟩ := List.getLast?_eq_some_iff.mp (of_decide_eq_true hslash)
    exact .inr ⟨body, hjoin.trans hbody⟩
  · exact .inr ⟨directory.chars, hjoin⟩

/-- The parent and a slash are what a path begins with, if the parent is not empty. -/
theorem parent_begins_path {p parent : Path} {before : List Name} {name : Name}
    (h : IsPlain name) (hbefore : segments p.splitStart.2 = before ++ [name])
    (hparent : p.parent? = some parent) : (parent.join empty).chars <+: p.chars := by
  have hchars := splitStart_append p
  have hrest : ofSegments (before ++ [name]) = p.splitStart.2 := by
    rw [← hbefore, ofSegments_segments]
  -- Idle segments stand between those that spell the parent and the last component.
  obtain ⟨idle, hidle⟩ := List.rdropWhile_prefix isIdle before
  obtain rfl : ⟨p.splitStart.1 ++ ofSegments (before.rdropWhile isIdle)⟩ = parent := by
    rw [parent?, reversedBody_of_segments h hbefore] at hparent
    exact Option.some.inj hparent
  generalize before.rdropWhile isIdle = kept at hidle
  by_cases hkept : kept = []
  · rw [hkept, ofSegments, List.intercalate_nil, List.append_nil]
    rcases splitStart_cases p with ⟨hstart, -⟩ | hstart | ⟨hstart, hnil | ⟨rest, hslash⟩⟩
    · rw [hstart]
      exact List.nil_prefix
    · rw [← hchars, hstart]
      exact List.prefix_append ['/'] _
    · rw [hnil, segments_nil] at hbefore
      have hsingle := List.append_eq_singleton_iff.mp hbefore.symm
      simp [h.ne_nil] at hsingle
    · rw [← hchars, hstart, hslash]
      exact List.prefix_append ['.', '/'] rest
  · have hspelled : p.chars =
        (p.splitStart.1 ++ ofSegments kept) ++ '/' :: ofSegments (idle ++ [name]) := by
      rw [← hchars, ← hrest, ← hidle, List.append_assoc, List.append_assoc,
        ofSegments_append hkept (List.append_ne_nil_of_right_ne_nil idle (List.cons_ne_nil _ _))]
    rw [hspelled]
    rcases chars_join_empty ⟨p.splitStart.1 ++ ofSegments kept⟩ with ⟨hjoin, -⟩ | hjoin
    · rw [hjoin]
      exact List.prefix_append _ _
    · rw [hjoin]
      exact ⟨ofSegments (idle ++ [name]), by simp⟩

/-- The parent of a joined path is spelled by the beginning of the directory. -/
theorem parent_begins_directory {directory parent : Path} {name : Name} (h : IsPlain name)
    (hparent : (directory.join ⟨name⟩).parent? = some parent) :
    (parent.join empty).chars <+: (directory.join empty).chars := by
  obtain ⟨before, hbefore⟩ := splitStart_join directory h
  have hpath := parent_begins_path h hbefore hparent
  have hdirectory : (directory.join empty).chars <+: (directory.join ⟨name⟩).chars := by
    rw [chars_join directory h.noSlash]
    exact List.prefix_append _ _
  -- If it were longer than the directory, its last slash would be in the name.
  rcases List.prefix_or_prefix_of_prefix hpath hdirectory with hbegins | ⟨more, hmore⟩
  · exact hbegins
  · rcases List.eq_nil_or_concat more with rfl | ⟨front, last, rfl⟩
    · rw [List.append_nil] at hmore
      exact hmore ▸ List.prefix_rfl
    · rw [chars_join directory h.noSlash, ← hmore, List.prefix_append_right_inj] at hpath
      rcases join_empty_eq_nil_or_slash parent with hnil | ⟨body, hbody⟩
      · simp [hnil] at hmore
      · have hlast : last = '/' := by
          rw [hbody, List.concat_eq_append, ← List.append_assoc] at hmore
          exact List.singleton_inj.mp (List.append_inj_right' hmore rfl)
        have hslash : '/' ∈ name := hpath.subset (by simp [hlast])
        exact absurd hslash h.noSlash

/-- A path begins with the directory that a name was joined to. -/
theorem directory_begins_join (directory : Path) {name : Name} (h : '/' ∉ name) :
    directory.chars <+: (directory.join ⟨name⟩).chars := by
  rw [chars_join directory h]
  rcases chars_join_empty directory with ⟨hempty, -⟩ | hempty
  · exact ⟨name, by rw [hempty]⟩
  · exact ⟨'/' :: name, by rw [hempty, List.append_assoc, List.singleton_append]⟩

/-- A joined path holds NUL if the directory or the name does. -/
theorem hasNul_join (directory : Path) {name : Name} (h : '/' ∉ name) :
    (directory.join ⟨name⟩).hasNul =
      ((directory.join empty).hasNul || (⟨name⟩ : Path).hasNul) := by
  rw [hasNul, chars_join directory h, List.any_append]
  rfl

/-- A name makes a longer path by its own length. -/
theorem byteSize_join (directory : Path) {name : Name} (h : '/' ∉ name) :
    (directory.join ⟨name⟩).byteSize = (directory.join empty).byteSize + byteSize ⟨name⟩ := by
  rw [byteSize, byteSize, byteSize, spelling, spelling, spelling, chars_join directory h,
    String.ofList_append, String.utf8ByteSize_append]

/-- What begins a path is no longer than the path. -/
theorem byteSize_le {p q : Path} (h : p.chars <+: q.chars) : p.byteSize ≤ q.byteSize := by
  obtain ⟨rest, hrest⟩ := h
  rw [byteSize, byteSize, spelling, spelling, ← hrest, String.ofList_append,
    String.utf8ByteSize_append]
  exact Nat.le_add_right _ _

end FragmentRunner.Path
