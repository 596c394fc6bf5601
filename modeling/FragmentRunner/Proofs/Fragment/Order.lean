import FragmentRunner.Proofs.Program.Execution

/-!
# The order in which fragments are entered

Imports go in front of the unit wherever they are entered, so between imports and other fragments
the order of entry does not matter. What matters is the order of the imports among themselves and
that of the other fragments among themselves: the buffers, and with them the unit, are told by these
two, and tell them.

* `addAll_eq_ok_iff`: what entering fragments that are all accepted comes to.
* `imports_at_any_point`: two ways to enter fragments come to the same if and only if they agree on
  both orders.
-/

namespace FragmentRunner.Program

open Run

/-- None of the texts is refused as a fragment. -/
def AllAccepted (texts : List String) : Prop :=
  ∀ text ∈ texts, FragmentKind.of? text ≠ none

instance (texts : List String) : Decidable (AllAccepted texts) :=
  inferInstanceAs (Decidable (∀ text ∈ texts, FragmentKind.of? text ≠ none))

/-- The texts that are no imports, in order. -/
def otherThanImports (texts : List String) : List String :=
  texts.filter fun text => FragmentKind.of? text ≠ some .imported

section

variable {texts more : List String} {s after : Interpreter} {w : World}

/-- What is accepted and is no import is a statement. -/
theorem ofKind_statement (h : AllAccepted texts) :
    ofKind .statement texts = otherThanImports texts := by
  refine List.filter_congr fun text htext => ?_
  obtain ⟨kind, hkind⟩ := Option.ne_none_iff_exists'.mp (h text htext)
  cases kind <;> simp [hkind]

/-- The draft with more fragments has the imports after its imports and the others after its
statements. -/
theorem withFragments_of_accepted (draft : Draft) (h : AllAccepted texts) :
    withFragments draft texts = {
      imports := draft.imports ++ ofKind .imported texts
      statements := draft.statements ++ otherThanImports texts } := by
  rw [withFragments, ofKind_statement h]

/-- Fragments that are all accepted are all added, whatever the world is. -/
theorem addAll_eq_ok_iff (h : AllAccepted texts) :
    (s.addAll texts w).1 = .ok after ↔ after = { s with draft := withFragments s.draft texts } := by
  rw [(addAll_of_accepted s w h).1, Except.ok.injEq, eq_comm]

/-- Two interpreters with the same drafts before are the same after if what was entered agrees on
the imports and on the other fragments, and only then. -/
theorem withFragments_inj (draft : Draft) (h : AllAccepted texts) (hmore : AllAccepted more) :
    withFragments draft more = withFragments draft texts ↔
      ofKind .imported more = ofKind .imported texts ∧
        otherThanImports more = otherThanImports texts := by
  rw [withFragments_of_accepted draft h, withFragments_of_accepted draft hmore, Draft.mk.injEq,
    List.append_cancel_left_eq, List.append_cancel_left_eq]

end

/-- Fragments that are all accepted go, imports and others apart, behind what an interpreter already
holds, and nothing else of it is changed. Its unit is then the imports, the fixed texts that open
the entry point and the guard, the other fragments, and the text that closes the guard, one directly
after the other. Other fragments lead to the same buffers, and so to the same unit, if and only if
they have the same imports in the same order and the same other fragments in the same order; how the
two are mixed does not matter. -/
theorem imports_at_any_point (texts more : List String) (s : Interpreter) (w w' : World)
    (h : AllAccepted texts) (hmore : AllAccepted more) :
    let imports := s.draft.imports ++ ofKind .imported texts
    let statements := s.draft.statements ++ otherThanImports texts
    let after : Interpreter := { s with draft := { imports, statements } }
    (s.addAll texts w).1 = .ok after ∧
    after.draft.render =
      String.join imports ++ preamble ++ guardOpen ++ String.join statements ++ guardClose ∧
    ((s.addAll more w').1 = .ok after ↔
      ofKind .imported more = ofKind .imported texts ∧
        otherThanImports more = otherThanImports texts) := by
  intro imports statements after
  have hafter : after = { s with draft := withFragments s.draft texts } := by
    rw [withFragments_of_accepted s.draft h]
  refine ⟨(addAll_eq_ok_iff h).mpr hafter, rfl, ?_⟩
  rw [addAll_eq_ok_iff hmore, hafter, ← withFragments_inj s.draft h hmore]
  constructor
  · intro hsame
    exact (congrArg Interpreter.draft hsame).symm
  · intro hsame
    rw [hsame]

/-- An import that is entered last is in front of the unit, as if it had been entered first. -/
theorem import_entered_last :
    let texts := ["let m = Map::new();", "use a::Map;", "extern crate core;", "show(m);"]
    let more := ["let m = Map::new();", "show(m);", " use a::Map;", "extern crate core;"]
    let again := ["use a::Map;", "let m = Map::new();", "show(m);", "extern crate core;"]
    let s := (Interpreter.new (.ofString "out") {}).addImport "use std::fmt;"
    let after : Interpreter := { s with draft := {
      imports := ["use std::fmt;", "use a::Map;", "extern crate core;"]
      statements := ["let m = Map::new();", "show(m);"] } }
    AllAccepted texts ∧ AllAccepted more ∧ AllAccepted again ∧
    (s.addAll again OutputDirectory.withOutput).1 = .ok after ∧
    -- The white space in front of an import is kept, so this is another one.
    (s.addAll more OutputDirectory.withOutput).1 ≠ .ok after := by
  intro texts more again s after
  have htexts : AllAccepted texts := by decide +kernel
  have hmore : AllAccepted more := by decide +kernel
  have hagain : AllAccepted again := by decide +kernel
  have himports : ofKind .imported texts = ["use a::Map;", "extern crate core;"] := by
    decide +kernel
  have hothers : otherThanImports texts = ["let m = Map::new();", "show(m);"] := by
    decide +kernel
  obtain ⟨-, -, hsame⟩ := imports_at_any_point texts again s OutputDirectory.withOutput
    OutputDirectory.withOutput htexts hagain
  obtain ⟨-, -, hother⟩ := imports_at_any_point texts more s OutputDirectory.withOutput
    OutputDirectory.withOutput htexts hmore
  rw [himports, hothers] at hsame hother
  refine ⟨htexts, hmore, hagain, ?_, ?_⟩
  · exact hsame.mpr (by decide +kernel)
  · exact fun hafter => absurd (hother.mp hafter) (by decide +kernel)

end FragmentRunner.Program
