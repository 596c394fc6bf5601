import FragmentRunner.Toml.Scanner

/-!
# What scanners find

If all that some scanners find is of a kind, then so is what a scanner made of them finds. `Finds`
says that of a scanner, whatever text it reads, and there is one lemma for each way to make a
scanner of others.
-/

namespace FragmentRunner.Toml.Scanner

variable {α β : Type} {p : α → Prop} {q : β → Prop} {x y : Scanner α}

/-- All that a scanner finds is of a kind. -/
def Finds (x : Scanner α) (p : α → Prop) : Prop :=
  ∀ ⦃s a rest⦄, x s = some (a, rest) → p a

/-- A scanner that consumes nothing returns what it is given. -/
theorem finds_pure {a : α} (h : p a) : Finds (pure a) p := by
  intro s b rest hfound
  obtain ⟨rfl, -⟩ := Prod.mk.inj (Option.some.inj hfound)
  exact h

/-- The second scanner goes on with what the first one has found. -/
theorem Finds.bind {f : α → Scanner β} (hx : Finds x p) (hf : ∀ a, p a → Finds (f a) q) :
    Finds (x >>= f) q := by
  intro s b rest h
  rw [bind_apply] at h
  split at h
  · next a rest' hfound => exact hf a (hx hfound) h
  · cases h

/-- What the first scanner has found may not matter. -/
theorem finds_bind {f : α → Scanner β} (hf : ∀ a, Finds (f a) q) : Finds (x >>= f) q :=
  Finds.bind (p := fun _ => True) (fun _ _ _ _ => trivial) fun a _ => hf a

namespace Finds

/-- One of two scanners finds something. -/
theorem orElse (hx : Finds x p) (hy : Finds y p) : Finds (x <|> y) p := by
  intro s a rest h
  -- The second scanner is given as a function, since it is needed only if the first one fails.
  change Scanner.orElse x (fun _ => y) s = _ at h
  rw [Scanner.orElse] at h
  split at h
  · next found hfound => exact hx (hfound.trans h)
  · exact hy h

/-- What need not be there is of the kind if it is there. -/
theorem optional (hx : Finds x p) : Finds (optional x) fun a? => ∀ a, a? = some a → p a := by
  intro s a? rest h
  rw [Scanner.optional] at h
  split at h
  · next a rest' hfound =>
    obtain ⟨rfl, -⟩ := Prod.mk.inj (Option.some.inj h)
    rintro _ ⟨⟩
    exact hx hfound
  · obtain ⟨rfl, -⟩ := Prod.mk.inj (Option.some.inj h)
    exact nofun

/-- A scanner finds things of the kind however often it is tried. -/
theorem mem_repeated (hx : Finds x p) (bound : Nat) (s : List Char) :
    ∀ a ∈ (repeated x bound s).1, p a := by
  induction bound generalizing s with
  | zero => exact List.forall_mem_nil p
  | succ bound ih =>
    rw [repeated]
    split
    · next a rest hfound => exact List.forall_mem_cons.mpr ⟨hx hfound, ih rest⟩
    · exact List.forall_mem_nil p

/-- What is found one time after another is of the kind. -/
theorem many (hx : Finds x p) : Finds (many x) fun found => ∀ a ∈ found, p a := by
  intro s found rest h
  obtain ⟨rfl, -⟩ := Prod.mk.inj (Option.some.inj h)
  exact hx.mem_repeated s.length s

/-- What stands between separators is of the kind. -/
theorem separated {separator : Scanner β} (hx : Finds x p) :
    Finds (separated separator x) fun found => ∀ a ∈ found, p a := by
  refine hx.bind fun first hfirst => ?_
  refine (many (finds_bind fun _ => hx)).bind fun others hothers => ?_
  exact finds_pure (List.forall_mem_cons.mpr ⟨hfirst, hothers⟩)

/-- What a whole text stands for is of the kind. -/
theorem parse? (hx : Finds x p) {text : List Char} {a : α} (h : x.parse? text = some a) : p a := by
  rw [Scanner.parse?] at h
  split at h
  · next found hfound =>
    obtain rfl := Option.some.inj h
    exact hx hfound
  · cases h

end Finds

/-- A scanner that consumes nothing returns what is there. -/
theorem finds_ofOption {a? : Option α} (h : ∀ a, a? = some a → p a) : Finds (ofOption a?) p := by
  intro s b rest hfound
  obtain ⟨a, ha, hpair⟩ := Option.map_eq_some_iff.mp hfound
  obtain ⟨rfl, -⟩ := Prod.mk.inj hpair
  exact h a ha

end FragmentRunner.Toml.Scanner
