import FragmentRunner.Draft
import FragmentRunner.Proofs.Fragment.FirstWords

/-!
# The two regions of a unit

The imports stand in front of a unit and the statements in its body, and both are texts that a user
has entered: either may hold pieces of the fixed texts around it. The preamble begins with a
character that it has nowhere else, so no two of its occurrences overlap, and the one that follows
the imports is the first one unless the imports hold one themselves. Behind it everything has its
place, the closing of the guard at the very end.

* `cutAtFirst?_eq_some_iff`: a text is cut at the first occurrence of a mark.
* `cutAtFirst_append_iff`: a mark that overlaps no other of its occurrences is found where it was
  put, unless the text in front of it holds one.
* `regions_kept_apart`: the imports and the statements are read off a unit, and tell it.
-/

namespace FragmentRunner

/-! ## The first occurrence of a mark -/

namespace Text

variable {mark text front rest front' rest' tail : List Char} {c : Char}

/-- The text in front of the first occurrence of a mark, and the text behind it. -/
def cutAtFirst? (mark : List Char) : List Char → Option (List Char × List Char)
  | [] => (dropStart? mark []).map fun rest => ([], rest)
  | c :: text =>
    match dropStart? mark (c :: text) with
    | some rest => some ([], rest)
    | none => (cutAtFirst? mark text).map fun (front, rest) => (c :: front, rest)

/-- A text is made of a front, a mark and a rest, and nowhere before that does the mark stand in
it. -/
structure CutAtFirst (mark text front rest : List Char) : Prop where
  split : text = front ++ (mark ++ rest)
  first : ∀ before after, text = before ++ (mark ++ after) → front.length ≤ before.length

/-- A text is cut at a first occurrence in one way only. -/
theorem CutAtFirst.unique (h : CutAtFirst mark text front rest)
    (h' : CutAtFirst mark text front' rest') : front = front' ∧ rest = rest' := by
  have hlength : front.length = front'.length :=
    Nat.le_antisymm (h.first front' rest' h'.split) (h'.first front rest h.split)
  obtain ⟨hfront, hrest⟩ := List.append_inj (h.split.symm.trans h'.split) hlength
  exact ⟨hfront, List.append_cancel_left hrest⟩

/-- Where a mark does not stand at the beginning, it is first found in what follows. -/
theorem cutAtFirst_cons (hnone : dropStart? mark (c :: text) = none) :
    CutAtFirst mark (c :: text) front rest ↔
      ∃ front', front = c :: front' ∧ CutAtFirst mark text front' rest := by
  have hstart : ∀ rest, c :: text ≠ mark ++ rest := fun rest h => by
    rw [dropStart?_eq_some_iff.mpr h] at hnone
    cases hnone
  constructor
  · rintro ⟨hsplit, hfirst⟩
    cases front with
    | nil => exact absurd hsplit (hstart rest)
    | cons d front =>
      obtain ⟨rfl, htext⟩ := List.cons_eq_cons.mp hsplit
      refine ⟨front, rfl, htext, fun before after h => ?_⟩
      exact Nat.le_of_succ_le_succ (hfirst (c :: before) after (by rw [h, List.cons_append]))
  · rintro ⟨front', rfl, hsplit, hfirst⟩
    refine ⟨by rw [hsplit, List.cons_append], fun before after h => ?_⟩
    cases before with
    | nil => exact absurd h (hstart after)
    | cons d before =>
      obtain ⟨-, htext⟩ := List.cons_eq_cons.mp h
      exact Nat.succ_le_succ (hfirst before after htext)

/-- A mark at the beginning is the first one. -/
theorem cutAtFirst_of_dropStart? (h : dropStart? mark text = some rest) :
    CutAtFirst mark text [] rest where
  split := by rw [List.nil_append, dropStart?_eq_some_iff.mp h]
  first _ _ _ := Nat.zero_le _

/-- A text is cut at the first occurrence of a mark. -/
theorem cutAtFirst?_eq_some_iff :
    cutAtFirst? mark text = some (front, rest) ↔ CutAtFirst mark text front rest := by
  induction text generalizing front with
  | nil =>
    rw [cutAtFirst?]
    constructor
    · intro h
      obtain ⟨rest', hdrop, hpair⟩ := Option.map_eq_some_iff.mp h
      obtain ⟨rfl, rfl⟩ := Prod.mk.inj hpair
      exact cutAtFirst_of_dropStart? hdrop
    · rintro ⟨hsplit, -⟩
      obtain ⟨rfl, hmark⟩ := List.append_eq_nil_iff.mp hsplit.symm
      rw [dropStart?_eq_some_iff.mpr hmark.symm]
      rfl
  | cons c text ih =>
    rw [cutAtFirst?]
    split
    · next rest' hdrop =>
      have hcut := cutAtFirst_of_dropStart? hdrop
      rw [Option.some_inj, Prod.mk.injEq]
      constructor
      · rintro ⟨rfl, rfl⟩
        exact hcut
      · exact hcut.unique
    · next hnone =>
      rw [cutAtFirst_cons hnone, Option.map_eq_some_iff]
      constructor
      · rintro ⟨⟨front', rest'⟩, hcut, hpair⟩
        obtain ⟨rfl, rfl⟩ := Prod.mk.inj hpair
        exact ⟨front', rfl, ih.mp hcut⟩
      · rintro ⟨front', rfl, hcut⟩
        exact ⟨(front', rest), ih.mpr hcut, rfl⟩

/-- A mark whose first character it has nowhere else does not begin inside another of its
occurrences, so in front of one that follows a text it begins inside that text only. -/
theorem isInfix_of_occurrence (hc : c ∉ tail) {before after : List Char}
    (h : front ++ (c :: tail ++ rest) = before ++ (c :: tail ++ after))
    (hlength : before.length < front.length) : c :: tail <:+: front := by
  rcases List.append_eq_append_iff.mp h with ⟨middle, rfl, -⟩ | ⟨middle, rfl, hmiddle⟩
  · rw [List.length_append] at hlength
    omega
  · -- What is left of the front begins the earlier occurrence, and holds all of it.
    rcases List.append_eq_append_iff.mp hmiddle with ⟨beyond, rfl, -⟩ | ⟨beyond, hmark, hrest⟩
    · exact ⟨before, beyond, by simp⟩
    · cases beyond with
      | nil => exact ⟨before, [], by simp [hmark]⟩
      | cons d beyond =>
        obtain ⟨rfl, -⟩ := List.cons_eq_cons.mp hrest
        cases middle with
        | nil => simp at hlength
        | cons e middle =>
          obtain ⟨-, rfl⟩ := List.cons_eq_cons.mp hmark
          exact absurd (List.mem_append_right middle List.mem_cons_self) hc

/-- A mark whose first character it has nowhere else is first found where it was put, if and only if
the text in front of it holds no mark. -/
theorem cutAtFirst_append_iff (hc : c ∉ tail) :
    CutAtFirst (c :: tail) (front ++ (c :: tail ++ rest)) front rest ↔ ¬c :: tail <:+: front := by
  constructor
  · rintro ⟨-, hfirst⟩ ⟨before, beyond, rfl⟩
    have hle := hfirst before (beyond ++ (c :: tail ++ rest)) (by simp)
    simp only [List.length_append, List.length_cons] at hle
    omega
  · intro hfree
    refine ⟨rfl, fun before after h => ?_⟩
    by_contra hlt
    exact hfree (isInfix_of_occurrence hc h (Nat.lt_of_not_le hlt))

/-- What is left of a text that ends with `ending`. -/
def dropEnd? (ending text : List Char) : Option (List Char) :=
  (dropStart? ending.reverse text.reverse).map List.reverse

/-- What is left in front of the end of a text. -/
theorem dropEnd?_append (text ending : List Char) :
    dropEnd? ending (text ++ ending) = some text := by
  rw [dropEnd?, dropStart?_eq_some_iff.mpr List.reverse_append]
  simp

end Text

/-! ## Imports and statements -/

namespace Draft

open Text

/-- The imports and the statements of a unit, read off its source: what stands in front of the first
preamble, and what stands between the opening of the guard that follows it and the closing of the
guard at the end. -/
def regions? (source : String) : Option (String × String) := do
  let (imports, rest) ← cutAtFirst? preamble.toList source.toList
  let body ← dropStart? guardOpen.toList rest
  let statements ← dropEnd? guardClose.toList body
  return (String.ofList imports, String.ofList statements)

/-- What is read off a source, cut by cut. -/
theorem regions?_eq_some_iff {source imports statements : String} :
    regions? source = some (imports, statements) ↔ ∃ rest body,
      cutAtFirst? preamble.toList source.toList = some (imports.toList, rest) ∧
      dropStart? guardOpen.toList rest = some body ∧
      dropEnd? guardClose.toList body = some statements.toList := by
  simp only [regions?, Option.bind_eq_bind, Option.bind_eq_some_iff, Option.pure_def,
    Option.some_inj, Prod.mk.injEq, Prod.exists]
  constructor
  · rintro ⟨front, rest, hfront, body, hbody, ending, hending, rfl, rfl⟩
    rw [String.toList_ofList, String.toList_ofList]
    exact ⟨rest, body, hfront, hbody, hending⟩
  · rintro ⟨rest, body, hfront, hbody, hending⟩
    exact ⟨_, rest, hfront, body, hbody, _, hending, String.ofList_toList, String.ofList_toList⟩

/-- The preamble begins with a character that it has nowhere else. -/
theorem preamble_eq :
    preamble.toList = '#' :: preamble.toList.tail ∧ '#' ∉ preamble.toList.tail := by
  decide +kernel

/-- The characters of a unit: the imports, the preamble and what is behind it. -/
theorem toList_render (draft : Draft) :
    draft.render.toList = (String.join draft.imports).toList ++ (preamble.toList ++
      (guardOpen.toList ++ ((String.join draft.statements).toList ++ guardClose.toList))) := by
  simp only [render, String.toList_append, List.append_assoc]

/-- The preamble behind the imports is the first one in the unit if and only if the imports hold
none. -/
theorem cutAtFirst_render_iff (draft : Draft) :
    CutAtFirst preamble.toList draft.render.toList (String.join draft.imports).toList
        (guardOpen.toList ++ ((String.join draft.statements).toList ++ guardClose.toList)) ↔
      ¬preamble.toList <:+: (String.join draft.imports).toList := by
  obtain ⟨hmark, hfresh⟩ := preamble_eq
  rw [toList_render, hmark]
  exact cutAtFirst_append_iff hfresh

/-- The imports and the statements of a draft are read off its unit if and only if the imports hold
no preamble. -/
theorem regions?_render_iff (draft : Draft) :
    regions? draft.render = some (String.join draft.imports, String.join draft.statements) ↔
      ¬preamble.toList <:+: (String.join draft.imports).toList := by
  rw [← cutAtFirst_render_iff, ← cutAtFirst?_eq_some_iff, regions?_eq_some_iff]
  constructor
  · rintro ⟨rest, body, hfound, -, -⟩
    -- Where the unit is cut behind its imports, all that follows them is left.
    have hsplit := (cutAtFirst?_eq_some_iff.mp hfound).split
    rw [toList_render, List.append_cancel_left_eq, List.append_cancel_left_eq] at hsplit
    rw [hfound, hsplit]
  · intro hfound
    exact ⟨_, _, hfound, dropStart?_eq_some_iff.mpr rfl, dropEnd?_append _ _⟩

/-- If the imports of a draft, joined to one text, hold no preamble, then they are what stands in
front of the first preamble of its unit, and the statements are what stands between the opening of
the guard behind that and the closing of the guard at the end; so both are read off the unit. Two
such drafts have the same unit if and only if they have the same imports and the same statements,
however these are divided into fragments. -/
theorem regions_kept_apart (draft other : Draft)
    (h : ¬preamble.toList <:+: (String.join draft.imports).toList)
    (hother : ¬preamble.toList <:+: (String.join other.imports).toList) :
    CutAtFirst preamble.toList draft.render.toList (String.join draft.imports).toList
      (guardOpen.toList ++ ((String.join draft.statements).toList ++ guardClose.toList)) ∧
    regions? draft.render = some (String.join draft.imports, String.join draft.statements) ∧
    (draft.render = other.render ↔
      String.join draft.imports = String.join other.imports ∧
        String.join draft.statements = String.join other.statements) := by
  have hregions := (regions?_render_iff draft).mpr h
  refine ⟨(cutAtFirst_render_iff draft).mpr h, hregions, fun hsame => ?_, ?_⟩
  · -- What is read off the one unit is read off the other.
    rw [hsame, (regions?_render_iff other).mpr hother, Option.some_inj, Prod.mk.injEq] at hregions
    exact ⟨hregions.1.symm, hregions.2.symm⟩
  · rintro ⟨himports, hstatements⟩
    rw [render, himports, hstatements, ← render]

/-- Imports may hold most of a preamble, and statements all of the fixed texts. -/
theorem regions_with_fixed_texts :
    let draft : Draft := {
      imports := ["use a::B;", "#[unsafe(no_mangle)] pub extern \"C\" "]
      statements := [preamble, guardOpen ++ "f();" ++ guardClose] }
    let other : Draft := {
      imports := ["use a::B;#[unsafe(no_mangle)] pub ", "extern \"C\" "]
      statements := [preamble ++ guardOpen, "f();", guardClose] }
    ¬preamble.toList <:+: (String.join draft.imports).toList ∧
    ¬preamble.toList <:+: (String.join other.imports).toList ∧
    regions? draft.render = some ("use a::B;#[unsafe(no_mangle)] pub extern \"C\" ",
      preamble ++ guardOpen ++ "f();" ++ guardClose) ∧
    draft.render = other.render := by
  intro draft other
  have hdraft : ¬preamble.toList <:+: (String.join draft.imports).toList := by decide +kernel
  have hother : ¬preamble.toList <:+: (String.join other.imports).toList := by decide +kernel
  obtain ⟨-, hregions, hsame⟩ := regions_kept_apart draft other hdraft hother
  refine ⟨hdraft, hother, hregions.trans ?_, hsame.mpr ?_⟩
  · decide +kernel
  · decide +kernel

/-- With a preamble among the imports the two regions cannot be told apart. -/
example : render { imports := [preamble ++ guardOpen] } =
    render { statements := [preamble ++ guardOpen] } := by
  decide +kernel

end Draft

end FragmentRunner
