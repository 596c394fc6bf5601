import FragmentRunner.Text.Cluster

/-!
# Backspaces

A line that was typed blindly holds the backspaces with which it was corrected. Each of them erases
the cluster before it that has not been erased yet, if there is one.

The size of a cluster is kept in one byte: of a cluster of 256 bytes or more only the excess over a
multiple of 256 is erased, from its end.

* `correct` carries out the backspaces of a line; without any, it changes nothing
  (`correct_eq_self`).
-/

namespace FragmentRunner.Text

/-- The character that a key for corrections leaves. -/
def backspace : Char := '\x08'

/-- How many sizes of clusters are told apart. -/
def sizeModulus : Nat := 256

/-- A text without the characters to which its first `count` bytes belong. -/
def dropBytes : Nat → List Char → List Char
  | _, [] => []
  | count, c :: rest => if count = 0 then c :: rest else dropBytes (count - c.utf8Size) rest

/-- What is left of a line while it is read. -/
structure Corrected where
  /-- The characters, from the last one back. -/
  kept : List Char
  /-- The sizes of the clusters, from the last one back. -/
  sizes : List Nat

namespace Corrected

/-- Takes a cluster in, or erases one. -/
def take (line : Corrected) (cluster : List Char) : Corrected :=
  if cluster = [backspace] then
    match line.sizes with
    -- A backspace with nothing before it is dropped.
    | [] => line
    | size :: sizes => ⟨dropBytes size line.kept, sizes⟩
  else
    ⟨cluster.reverse ++ line.kept,
      (String.ofList cluster).utf8ByteSize % sizeModulus :: line.sizes⟩

end Corrected

/-- A line with its backspaces carried out. -/
def correct (s : List Char) : List Char :=
  ((clusters s).foldl Corrected.take ⟨[], []⟩).kept.reverse

theorem take_foldl_kept {parts : List (List Char)} (h : [backspace] ∉ parts) (line : Corrected) :
    (parts.foldl Corrected.take line).kept = parts.flatten.reverse ++ line.kept := by
  induction parts generalizing line with
  | nil => simp
  | cons part rest ih =>
    have hpart : part ≠ [backspace] := fun he => h (he ▸ List.mem_cons_self)
    have hrest : [backspace] ∉ rest := fun hm => h (List.mem_cons_of_mem _ hm)
    simp [ih hrest, Corrected.take, hpart]

theorem correct_eq_self {s : List Char} (h : backspace ∉ s) : correct s = s := by
  have hparts : [backspace] ∉ clusters s := by
    intro hm
    apply h
    rw [← clusters_flatten s]
    exact List.mem_flatten.2 ⟨_, hm, List.mem_singleton.2 rfl⟩
  simp [correct, take_foldl_kept hparts, clusters_flatten]

end FragmentRunner.Text
