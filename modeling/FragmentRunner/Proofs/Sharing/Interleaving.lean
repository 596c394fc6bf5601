import FragmentRunner.Proofs.Run.Answers
import Mathlib.Algebra.BigOperators.Group.Finset.Basic
import Mathlib.Algebra.BigOperators.Intervals

/-!
# Handles that take turns

Several handles on one interpreter, each with a program of calls. A call has the interpreter to
itself, so an execution is an order in which the handles make their calls: `follow` executes the
programs in the order that a schedule gives, and `log` keeps the calls as they had the interpreter.
A block of turns under one lock is one call; a block that decides by what it sees is, in each
execution, the list of the turns that it took.

* `Sound`: what every step keeps, and `sound_follow` for a whole schedule.
* `map_taken_append_buffer`: the drafts that runs and resets take are the batches between them.
* `shared_fragments_accounted_for`: no fragment of any handle is lost, duplicated or overtaken by a
  later one of the same handle, whatever the schedule is.
-/

namespace FragmentRunner.Sharing

open Run

/-- A call through a handle. -/
inductive Call
  | add (text : String)
  | reset
  | run
  /-- Turns that are taken one after the other under one lock. -/
  | block (turns : List Turn)

namespace Call

/-- The turns that a call takes. -/
def turns : Call → List Turn
  | .add text => [.add text]
  | .reset => [.reset]
  | .run => [.run]
  | .block turns => turns

/-- What a call does when it has the interpreter to itself, and what it answers. -/
def perform : Call → Interpreter → World → List Answer × Interpreter × World
  | .add text, s, w =>
    let (result, s, w) := SharedInterpreter.add text s w
    ([.added result], s, w)
  | .reset, s, w => ([.done], s.reset, w)
  | .run, s, w =>
    let (result, s, w) := s.run w
    ([.ran result], s, w)
  | .block turns, s, w => (answers turns (s, w), performAll turns (s, w))

/-- A call does what its turns do. -/
theorem perform_eq (call : Call) (s : Interpreter) (w : World) :
    call.perform s w = (answers call.turns (s, w), performAll call.turns (s, w)) := by
  cases call with
  | add text => exact Prod.ext rfl (perform_add s w text).symm
  | reset | run | block => rfl

end Call

/-- A call that was made: by which handle, and what it answered. -/
structure Entry where
  handle : Nat
  call : Call
  answers : List Answer

/-- Handles on one interpreter in the middle of their programs. -/
structure Interleaving where
  shared : SharedInterpreter
  world : World
  /-- What each handle has still to call. -/
  rest : Nat → List Call
  /-- The calls that were made, in the order in which they had the interpreter. -/
  log : List Entry

namespace Interleaving

/-- A first handle on `s` and a number of clones of it, before they begin with their programs. -/
def start (s : Interpreter) (w : World) (clones : Nat) (programs : Nat → List Call) :
    Interleaving where
  shared := SharedInterpreter.clone^[clones] (.new s)
  world := w
  rest := programs
  log := []

/-- A handle makes its next call, if there is such a handle and it has a call left. -/
def step (p : Interleaving) (handle : Nat) : Interleaving :=
  match p.shared.hasHandle handle, p.rest handle with
  | true, call :: rest =>
    let (answers, shared, world) := p.shared.withInterpreter p.world call.perform
    { shared
      world
      rest := Function.update p.rest handle rest
      log := p.log ++ [{ handle, call, answers }] }
  | _, _ => p

/-- The handles make their calls in the order that `schedule` gives. -/
def follow (p : Interleaving) (schedule : List Nat) : Interleaving :=
  schedule.foldl step p

/-- The calls that a handle has made. -/
def done (p : Interleaving) (handle : Nat) : List Call :=
  (p.log.filter (·.handle = handle)).map Entry.call

/-- The turns that were taken, each with the handle that took it. -/
def order (p : Interleaving) : List (Nat × Turn) :=
  p.log.flatMap fun entry => entry.call.turns.map (entry.handle, ·)

end Interleaving

/-- The answer to a turn that adds a fragment is decided by the fragment's text. -/
def DecidedByText (turn : Turn) (answer : Answer) : Prop :=
  ∀ text, turn = .add text → (answer = .added (.ok ()) ↔ (FragmentKind.of? text).isSome = true)

/-- The fragments of a kind that are accepted, each with the handle that added it. -/
def deposits (kind : FragmentKind) (order : List (Nat × Turn)) : List (Nat × String) :=
  order.filterMap fun (handle, turn) =>
    turn.fragment?.bind fun (own, text) => if own = kind then some (handle, text) else none

/-- The fragments of a kind that are accepted between one turn that empties the buffers and the
next: one batch for each of these turns, and one for what comes after the last of them. -/
def batches (kind : FragmentKind) (order : List (Nat × Turn)) : List (List (Nat × String)) :=
  (Text.pieces (·.2.clears) order).map (deposits kind)

/-! ## Batches -/

section Batches

variable {kind : FragmentKind} {order : List (Nat × Turn)} {turns : List Turn} {handle : Nat}

/-- A turn that empties the buffers accepts nothing. -/
theorem fragment?_of_clears {turn : Turn} (h : turn.clears = true) : turn.fragment? = none := by
  cases turn <;> first | rfl | cases h

/-- Without the handles, deposits are what is accepted. -/
theorem map_snd_deposits (kind : FragmentKind) (order : List (Nat × Turn)) :
    (deposits kind order).map Prod.snd = accepted kind (order.map Prod.snd) := by
  rw [deposits, accepted, List.map_filterMap, List.filterMap_map]
  congr 1
  funext entry
  obtain ⟨handle, turn⟩ := entry
  cases hfragment : turn.fragment? with
  | none => simp [hfragment]
  | some fragment =>
    obtain ⟨own, text⟩ := fragment
    by_cases hown : own = kind <;> simp [hfragment, hown]

/-- What one handle deposits is what is accepted of its turns. -/
theorem map_snd_filter_deposits (kind : FragmentKind) (order : List (Nat × Turn)) (handle : Nat) :
    ((deposits kind order).filter (·.1 = handle)).map Prod.snd =
      accepted kind ((order.filter (·.1 = handle)).map Prod.snd) := by
  rw [← map_snd_deposits, deposits, deposits, List.filter_filterMap, List.filterMap_filter]
  congr 2
  funext entry
  obtain ⟨own, turn⟩ := entry
  cases hfragment : turn.fragment? with
  | none => simp [hfragment]
  | some fragment =>
    by_cases hkind : fragment.1 = kind <;> by_cases hown : own = handle <;>
      simp [hfragment, hkind, hown]

/-- A deposit is made by the handle of one of the turns. -/
theorem exists_turn_of_deposit {deposit : Nat × String} (h : deposit ∈ deposits kind order) :
    ∃ turn, (deposit.1, turn) ∈ order := by
  obtain ⟨⟨handle, turn⟩, hturn, hdeposit⟩ := List.mem_filterMap.mp h
  obtain ⟨⟨own, text⟩, -, hkind⟩ := Option.bind_eq_some_iff.mp hdeposit
  have hdeposit : deposit = (handle, text) := by
    by_cases hown : own = kind
    · simpa [hown] using hkind.symm
    · simp [hown] at hkind
  exact ⟨turn, by rwa [hdeposit]⟩

/-- All batches together are all deposits. -/
theorem flatten_batches (kind : FragmentKind) (order : List (Nat × Turn)) :
    (batches kind order).flatten = deposits kind order := by
  rw [batches, ← List.flatMap_def]
  refine Text.flatMap_filterMap_pieces (fun entry hclears => ?_) order
  simp [fragment?_of_clears hclears]

/-- Without the handles, batches are what is accepted between the turns that empty the buffers. -/
theorem map_snd_batches (kind : FragmentKind) (order : List (Nat × Turn)) :
    (batches kind order).map (List.map Prod.snd) =
      (Text.pieces Turn.clears (order.map Prod.snd)).map (accepted kind) := by
  rw [batches, ← Text.map_pieces Turn.clears Prod.snd order, List.map_map, List.map_map]
  exact List.map_congr_left fun batch _ => map_snd_deposits kind batch

/-- What the turns that empty the buffers take, and what is left after the last of them, are the
batches between them; what was there before is in front of the first one. -/
theorem map_taken_append_buffer (kind : FragmentKind) (turns : List Turn)
    (state : Interpreter × World) :
    (taken turns state).map (buffer ·.2 kind) ++ [buffer (performAll turns state).1.draft kind] =
      ((Text.pieces Turn.clears turns).map (accepted kind)).modifyHead
        (buffer state.1.draft kind ++ ·) := by
  induction turns generalizing state with
  | nil => simp [taken, performAll, accepted]
  | cons turn turns ih =>
    have hperform : performAll (turn :: turns) state = performAll turns (turn.perform state) := rfl
    have hbuffer := buffer_perform kind turn state
    have hstep := ih (turn.perform state)
    obtain ⟨first, others, hpieces⟩ := List.exists_cons_of_ne_nil
      (Text.pieces_ne_nil Turn.clears turns)
    rw [hpieces] at hstep
    rw [hperform, taken, Text.pieces, hpieces]
    cases hclears : turn.clears with
    | true =>
      -- The turn takes what was there before, and the next batch starts from nothing.
      simp only [hclears, if_true] at hbuffer ⊢
      rw [List.map_cons, List.cons_append, hstep, hbuffer]
      simp [accepted]
    | false =>
      -- What the turn accepts is in front of the rest of the first batch.
      have haccepted : accepted kind (turn :: first) = accepted kind [turn] ++ accepted kind first :=
        accepted_append kind [turn] first
      simp only [hclears, Bool.false_eq_true, if_false] at hbuffer ⊢
      rw [hstep, hbuffer]
      simp [haccepted]

end Batches

/-! ## Steps -/

namespace Interleaving

variable {p : Interleaving} {s : Interpreter} {w : World} {clones : Nat}
  {programs : Nat → List Call}

/-- A step makes the next call of a handle, or nothing happens. -/
theorem step_cases (p : Interleaving) (handle : Nat) :
    p.step handle = p ∨ ∃ call rest, handle < p.shared.handles ∧ p.rest handle = call :: rest ∧
      let state := (p.shared.interpreter, p.world)
      let after := performAll call.turns state
      p.step handle =
        { shared := { p.shared with interpreter := after.1 }
          world := after.2
          rest := Function.update p.rest handle rest
          log := p.log ++ [{ handle, call, answers := answers call.turns state }] } := by
  -- A schedule may name a handle that there is not, or one that has no call left.
  cases hhandle : p.shared.hasHandle handle with
  | false => exact .inl (by simp [step, hhandle])
  | true =>
    cases hrest : p.rest handle with
    | nil => exact .inl (by simp [step, hhandle, hrest])
    | cons call rest =>
      refine .inr ⟨call, rest, by simpa [SharedInterpreter.hasHandle] using hhandle, rfl, ?_⟩
      simp [step, hhandle, hrest, SharedInterpreter.withInterpreter, Call.perform_eq]

/-- Every fragment that a history adds is accepted or refused for its text. -/
theorem decided_answers (turns : List Turn) (state : Interpreter × World) :
    List.Forall₂ DecidedByText turns (answers turns state) := by
  induction turns generalizing state with
  | nil => exact .nil
  | cons turn turns ih =>
    refine .cons (fun text hadd => ?_) (ih _)
    rw [hadd]
    exact answer_add_iff state

/-- What holds at every moment: each handle is as far in its program as it has called, and the
interpreter is what the calls made of it, one after the other. -/
structure Sound (s : Interpreter) (w : World) (clones : Nat) (programs : Nat → List Call)
    (p : Interleaving) : Prop where
  handles : p.shared.handles = clones + 1
  program : ∀ handle, p.done handle ++ p.rest handle = programs handle
  known : ∀ entry ∈ p.log, entry.handle < clones + 1
  state : (p.shared.interpreter, p.world) = performAll (p.order.map Prod.snd) (s, w)
  decided : ∀ entry ∈ p.log, List.Forall₂ DecidedByText entry.call.turns entry.answers

/-- Cloning makes one handle more and leaves the interpreter alone. -/
theorem clones_eq (s : Interpreter) (clones : Nat) :
    SharedInterpreter.clone^[clones] (.new s) = { interpreter := s, handles := clones + 1 } := by
  induction clones with
  | zero => rfl
  | succ clones ih => rw [Function.iterate_succ_apply', ih, SharedInterpreter.clone]

/-- Nothing has been called at the start. -/
theorem sound_start (s : Interpreter) (w : World) (clones : Nat) (programs : Nat → List Call) :
    Sound s w clones programs (start s w clones programs) where
  handles := by rw [start, clones_eq]
  program _ := rfl
  known _ hentry := nomatch hentry
  state := by rw [start, clones_eq]; rfl
  decided _ hentry := nomatch hentry

/-- One history after another. -/
theorem performAll_append (turns more : List Turn) (state : Interpreter × World) :
    performAll (turns ++ more) state = performAll more (performAll turns state) :=
  List.foldl_append

/-- A call keeps what holds at every moment. -/
theorem Sound.step (h : Sound s w clones programs p) (handle : Nat) :
    Sound s w clones programs (p.step handle) := by
  rcases p.step_cases handle with hnothing | ⟨call, rest, hhandle, hrest, hstep⟩
  · rwa [hnothing]
  · rw [hstep]
    refine ⟨h.handles, fun other => ?_, fun entry hentry => ?_, ?_, fun entry hentry => ?_⟩
    · -- The call moves from what is left of the program to what is done of it.
      have hprogram := h.program other
      by_cases hother : handle = other
      · subst hother
        rw [hrest] at hprogram
        simpa [done] using hprogram
      · simpa [done, hother, Function.update_of_ne (Ne.symm hother)] using hprogram
    · rcases List.mem_append.mp hentry with hentry | hentry
      · exact h.known entry hentry
      · rw [List.mem_singleton.mp hentry]
        exact h.handles ▸ hhandle
    · -- The call goes on from where the calls before it have led.
      have hstate := h.state
      rw [hstate]
      simp [order, performAll_append]
    · rcases List.mem_append.mp hentry with hentry | hentry
      · exact h.decided entry hentry
      · rw [List.mem_singleton.mp hentry]
        exact decided_answers call.turns _

/-- Whatever the schedule is, what holds at every moment holds at its end. -/
theorem sound_follow (s : Interpreter) (w : World) (clones : Nat) (programs : Nat → List Call)
    (schedule : List Nat) :
    Sound s w clones programs ((start s w clones programs).follow schedule) := by
  -- The last step of a schedule comes after all the others, so the induction is from the end.
  induction schedule using List.reverseRecOn with
  | nil => exact sound_start s w clones programs
  | append_singleton schedule handle ih =>
    rw [follow, List.foldl_concat]
    exact ih.step handle

/-- The turns of one handle are those of the calls that it made. -/
theorem map_snd_filter_order (p : Interleaving) (handle : Nat) :
    (p.order.filter (·.1 = handle)).map Prod.snd = (p.done handle).flatMap Call.turns := by
  rw [order, done]
  induction p.log with
  | nil => rfl
  | cons entry log ih =>
    rw [List.flatMap_cons, List.filter_append, List.map_append, ih]
    by_cases hhandle : entry.handle = handle
    · have hown : (entry.call.turns.map (entry.handle, ·)).filter (·.1 = handle) =
          entry.call.turns.map (entry.handle, ·) := by
        refine List.filter_eq_self.mpr fun tagged htagged => ?_
        obtain ⟨turn, -, rfl⟩ := List.mem_map.mp htagged
        simp [hhandle]
      rw [hown, List.filter_cons_of_pos (by simpa using hhandle)]
      simp
    · simp [hhandle]

/-- What a handle has done is an initial part of its program. -/
theorem Sound.turns_prefix (h : Sound s w clones programs p) (handle : Nat) :
    (p.order.filter (·.1 = handle)).map Prod.snd <+: (programs handle).flatMap Call.turns := by
  rw [map_snd_filter_order, ← h.program handle, List.flatMap_append]
  exact List.prefix_append _ _

/-- A handle that has no call left has done its whole program. -/
theorem Sound.turns_eq (h : Sound s w clones programs p) {handle : Nat}
    (hrest : p.rest handle = []) :
    (p.order.filter (·.1 = handle)).map Prod.snd = (programs handle).flatMap Call.turns := by
  rw [map_snd_filter_order, ← h.program handle, hrest, List.append_nil]

/-- Every turn is one of a call in the program of its handle. -/
theorem Sound.exists_call (h : Sound s w clones programs p) {handle : Nat} {turn : Turn}
    (hturn : (handle, turn) ∈ p.order) :
    handle < clones + 1 ∧ ∃ call ∈ programs handle, turn ∈ call.turns := by
  obtain ⟨entry, hentry, hmem⟩ := List.mem_flatMap.mp hturn
  obtain ⟨own, hown, heq⟩ := List.mem_map.mp hmem
  obtain ⟨rfl, rfl⟩ := Prod.mk.inj heq
  refine ⟨h.known entry hentry, entry.call, ?_, hown⟩
  rw [← h.program entry.handle]
  refine List.mem_append_left _ (List.mem_map.mpr ⟨entry, ?_, rfl⟩)
  exact List.mem_filter.mpr ⟨hentry, by simp⟩

end Interleaving

/-- As many things as there are belong to one handle or another. -/
theorem length_eq_sum_filter {α : Type} {handles : Nat} {things : List (Nat × α)}
    (h : ∀ thing ∈ things, thing.1 < handles) :
    things.length =
      ∑ handle ∈ Finset.range handles, (things.filter (·.1 = handle)).length := by
  induction things with
  | nil => simp
  | cons thing things ih =>
    obtain ⟨hfirst, hothers⟩ := List.forall_mem_cons.mp h
    -- The first thing is counted once, with its handle.
    have hone : ∑ handle ∈ Finset.range handles, (if thing.1 = handle then 1 else 0) = 1 := by
      rw [Finset.sum_ite_eq, if_pos (Finset.mem_range.mpr hfirst)]
    have hsplit : ∀ handle, ((thing :: things).filter (·.1 = handle)).length =
        (things.filter (·.1 = handle)).length + if thing.1 = handle then 1 else 0 := fun handle => by
      by_cases hhandle : thing.1 = handle <;> simp [hhandle]
    simp only [hsplit, Finset.sum_add_distrib, hone, List.length_cons, ← ih hothers]

/-- However the handles take their turns, and at every moment of it (`before` is the part of the
order that is past): each handle has made an initial part of its calls, and the interpreter is what
the turns made of it. Whether a fragment is accepted is decided by its text. The drafts that runs
and resets have taken, and then what is in the buffers, are the batches of fragments accepted
between them, so that each fragment is taken by the first run or reset after it and by no other, or
is still there; a run writes out the two buffers as its unit, each in order, or, if that cannot be
written, nothing at all. In the batches, the fragments of one handle are in the order of its
program, and all of them are there once the program is done. If the programs only add, and are done,
there are as many fragments in a buffer as were accepted for it from all handles. -/
theorem shared_fragments_accounted_for (s : Interpreter) (w : World) (clones : Nat)
    (programs : Nat → List Call) (schedule : List Nat) :
    let p := (Interleaving.start s w clones programs).follow schedule
    (∀ handle, p.done handle ++ p.rest handle = programs handle) ∧
    (p.shared.interpreter, p.world) = performAll (p.order.map Prod.snd) (s, w) ∧
    (∀ entry ∈ p.log, List.Forall₂ DecidedByText entry.call.turns entry.answers) ∧
    (∀ before, before <+: p.order →
      let turns := before.map Prod.snd
      let now := performAll turns (s, w)
      let unit := String.join (buffer now.1.draft .imported) ++ preamble ++ guardOpen ++
        String.join (buffer now.1.draft .statement) ++ guardClose
      (taken turns (s, w)).map Prod.fst = turns.filter Turn.clears ∧
      ((now.1.run now.2).2.2.files.content now.1.build.unitSource = .ok (.text unit) ∨
        (∃ e, Unwritten now.1 now.2 e ∧ (now.1.run now.2).1 = .error (.build (.io e))) ∧
          (now.1.run now.2).2.2.files = now.2.files ∧ runActions now.1 now.2 = []) ∧
      ∀ kind,
        (taken turns (s, w)).map (buffer ·.2 kind) ++ [buffer now.1.draft kind] =
          ((batches kind before).map (List.map Prod.snd)).modifyHead (buffer s.draft kind ++ ·) ∧
        ∀ handle, ((batches kind before).flatten.filter (·.1 = handle)).map Prod.snd <+:
          accepted kind ((programs handle).flatMap Call.turns)) ∧
    (∀ kind handle, p.rest handle = [] →
      ((batches kind p.order).flatten.filter (·.1 = handle)).map Prod.snd =
        accepted kind ((programs handle).flatMap Call.turns)) ∧
    ((∀ handle ≤ clones, p.rest handle = [] ∧
        ∀ call ∈ programs handle, ∃ text, call = .add text) →
      ∀ kind, (buffer p.shared.interpreter.draft kind).length = (buffer s.draft kind).length +
        ∑ handle ∈ Finset.range (clones + 1),
          (accepted kind ((programs handle).flatMap Call.turns)).length) := by
  intro p
  have hsound := Interleaving.sound_follow s w clones programs schedule
  refine ⟨hsound.program, hsound.state, hsound.decided, fun before hbefore => ?_,
    fun kind handle hrest => ?_, fun hadds kind => ?_⟩
  · intro turns now unit
    refine ⟨map_fst_taken turns (s, w), run_source_or_nothing now.1 now.2,
      fun kind => ⟨?_, fun handle => ?_⟩⟩
    · rw [map_snd_batches]
      exact map_taken_append_buffer kind turns (s, w)
    · rw [flatten_batches, map_snd_filter_deposits]
      have hinitial := (hbefore.filter (·.1 = handle)).map Prod.snd
      exact (hinitial.trans (hsound.turns_prefix handle)).filterMap _
  · rw [flatten_batches, map_snd_filter_deposits]
    exact congrArg (accepted kind) (hsound.turns_eq hrest)
  · -- Where no turn empties the buffers, none of them has taken anything.
    have hkeep : (p.order.map Prod.snd).filter Turn.clears = [] := by
      refine List.filter_eq_nil_iff.mpr fun turn hturn => ?_
      obtain ⟨⟨handle, own⟩, hmem, rfl⟩ := List.mem_map.mp hturn
      obtain ⟨hhandle, call, hcall, hown⟩ := hsound.exists_call hmem
      obtain ⟨text, rfl⟩ := (hadds handle (Nat.le_of_lt_succ hhandle)).2 call hcall
      rw [Call.turns, List.mem_singleton] at hown
      simp [hown, Turn.clears]
    have htaken : taken (p.order.map Prod.snd) (s, w) = [] := by
      rw [← List.map_eq_nil_iff, map_fst_taken, hkeep]
    have hbuffer := taken_append_buffer kind (p.order.map Prod.snd) (s, w)
    rw [htaken, List.flatMap_nil, List.nil_append, ← hsound.state] at hbuffer
    have hknown : ∀ deposit ∈ deposits kind p.order, deposit.1 < clones + 1 := by
      intro deposit hdeposit
      obtain ⟨turn, hturn⟩ := exists_turn_of_deposit hdeposit
      exact (hsound.exists_call hturn).1
    rw [hbuffer, List.length_append, ← map_snd_deposits, List.length_map,
      length_eq_sum_filter hknown]
    congr 1
    refine Finset.sum_congr rfl fun handle hhandle => ?_
    rw [← hsound.turns_eq (hadds handle (Nat.le_of_lt_succ (Finset.mem_range.mp hhandle))).1,
      ← map_snd_filter_deposits, List.length_map]

end FragmentRunner.Sharing
