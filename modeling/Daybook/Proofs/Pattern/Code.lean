import Daybook.Proofs.Pattern.Numbering

/-!
# The shape of programs

What compiling an expression emits: instructions that lead to each other alone and save to other
slots than the first (`Closed`), one lemma for each way in which code is put together. A program is
such code with one instruction more, which it begins with and to which none of the others leads:
the one that saves where the whole match starts (`Program.Opened`).
-/

namespace Daybook.Pattern

/-- The instructions to which an instruction leads. -/
def Instruction.targets : Instruction → List Nat
  | .accept => []
  | .consume _ next => [next]
  | .check _ next => [next]
  | .save _ next => [next]
  | .choose first second => [first, second]

/-- The slot to which an instruction saves. -/
def Instruction.slot? : Instruction → Option Nat
  | .save slot _ => some slot
  | _ => none

/-- Whether an instruction leads to the first `size` instructions alone and does not save to the
first slot. -/
structure Instruction.Fits (size : Nat) (i : Instruction) : Prop where
  targets : ∀ target ∈ i.targets, target < size
  slot : i.slot? ≠ some 0

/-- Whether all instructions lead to each other and none saves to the first slot. -/
def Closed (code : Code) : Prop :=
  ∀ i ∈ code, i.Fits code.size

namespace Instruction

theorem Fits.mono {i : Instruction} {size size' : Nat} (h : i.Fits size) (hsize : size ≤ size') :
    i.Fits size' :=
  ⟨fun target htarget => Nat.lt_of_lt_of_le (h.targets target htarget) hsize, h.slot⟩

theorem fits_accept (size : Nat) : accept.Fits size :=
  ⟨fun _ h => (nomatch h), nofun⟩

theorem fits_consume {size next : Nat} (chars : CharSet) (h : next < size) :
    (consume chars next).Fits size :=
  ⟨fun _ ht => List.mem_singleton.mp ht ▸ h, nofun⟩

theorem fits_check {size next : Nat} (condition : Look) (h : next < size) :
    (check condition next).Fits size :=
  ⟨fun _ ht => List.mem_singleton.mp ht ▸ h, nofun⟩

theorem fits_save {size slot next : Nat} (hslot : 0 < slot) (h : next < size) :
    (save slot next).Fits size := by
  refine ⟨fun _ ht => List.mem_singleton.mp ht ▸ h, fun h0 => ?_⟩
  obtain rfl := Option.some.inj h0
  exact Nat.lt_irrefl 0 hslot

theorem fits_choose {size first second : Nat} (hfirst : first < size) (hsecond : second < size) :
    (choose first second).Fits size := by
  refine ⟨fun target ht => ?_, nofun⟩
  rcases List.mem_cons.mp ht with rfl | ht
  · exact hfirst
  · exact List.mem_singleton.mp ht ▸ hsecond

end Instruction

open Instruction

theorem fits_branch {size body next : Nat} (greedy : Bool) (hbody : body < size)
    (hnext : next < size) : (branch greedy body next).Fits size := by
  unfold branch
  split
  · exact fits_choose hbody hnext
  · exact fits_choose hnext hbody

/-! ## Pieces of code -/

/-- What is known of code that was added to: it is closed and no shorter, and the instruction to
begin with is in it. -/
structure Extends (code : Code) (out : Nat × Code) : Prop where
  start : out.1 < out.2.size
  size : code.size ≤ out.2.size
  closed : Closed out.2

/-- Whether a compiler keeps code closed that it adds to. -/
def Compile.Sound (f : Compile) : Prop :=
  ∀ next code, next < code.size → Closed code → Extends code (f next code)

theorem extends_emit {i : Instruction} {code : Code} (hi : i.Fits (code.size + 1))
    (h : Closed code) : Extends code (emit i code) := by
  refine ⟨?_, ?_, fun j hj => ?_⟩
  · show code.size < (code.push i).size
    rw [Array.size_push]
    exact Nat.lt_succ_self _
  · show code.size ≤ (code.push i).size
    rw [Array.size_push]
    exact Nat.le_succ _
  · show j.Fits (code.push i).size
    rw [Array.size_push]
    rcases Array.mem_push.mp hj with hj | rfl
    · exact (h j hj).mono (Nat.le_succ _)
    · exact hi

theorem closed_setIfInBounds {code : Code} (h : Closed code) {i : Instruction}
    (hi : i.Fits code.size) (n : Nat) : Closed (code.setIfInBounds n i) := by
  intro j hj
  rw [Array.size_setIfInBounds]
  rcases Array.mem_or_eq_of_mem_setIfInBounds hj with hj | rfl
  · exact h j hj
  · exact hi

namespace Extends

variable {code : Code} {out : Nat × Code}

theorem refl {next : Nat} (hnext : next < code.size) (h : Closed code) :
    Extends code (next, code) :=
  ⟨hnext, Nat.le_refl _, h⟩

theorem trans {out' : Nat × Code} (h : Extends code out) (h' : Extends out.2 out') :
    Extends code out' :=
  ⟨h'.start, Nat.le_trans h.size h'.size, h'.closed⟩

/-- An instruction that was kept free is filled in with a branch. -/
theorem fill {next : Nat} (h : Extends code out) (hnext : next < code.size) (greedy : Bool)
    (n : Nat) : Extends code (out.1, out.2.setIfInBounds n (branch greedy out.1 next)) := by
  have hbranch : (branch greedy out.1 next).Fits out.2.size :=
    fits_branch greedy h.start (Nat.lt_of_lt_of_le hnext h.size)
  refine ⟨?_, ?_, closed_setIfInBounds h.closed hbranch n⟩
  · rw [Array.size_setIfInBounds]
    exact h.start
  · rw [Array.size_setIfInBounds]
    exact h.size

end Extends

section

variable {body last : Compile} (hbody : body.Sound)

include hbody

/-- A body in front of an instruction that is kept free, and is filled in afterwards. -/
theorem extends_free {next : Nat} {code : Code} (greedy : Bool) (hnext : next < code.size)
    (h : Closed code) :
    let out := body code.size (code.push .accept)
    Extends code (out.1, out.2.setIfInBounds code.size (branch greedy out.1 next))
      ∧ code.size < out.2.size := by
  have hfree : Extends code (code.size, code.push .accept) := extends_emit (fits_accept _) h
  have hout := hbody code.size (code.push .accept) hfree.start hfree.closed
  exact ⟨(hfree.trans hout).fill hnext greedy code.size, Nat.lt_of_lt_of_le hfree.start hout.size⟩

theorem sound_compilePlus (greedy : Bool) : (compilePlus greedy body).Sound :=
  fun _ _ hnext h => (extends_free hbody greedy hnext h).1

theorem sound_compileStar (greedy nullable : Bool) : (compileStar greedy nullable body).Sound := by
  intro next code hnext h
  unfold compileStar
  cases nullable with
  | true =>
      have hplus := sound_compilePlus hbody greedy next code hnext h
      have hnext' := Nat.lt_of_lt_of_le hnext hplus.size
      exact hplus.trans (extends_emit ((fits_branch greedy hplus.start hnext').mono (Nat.le_succ _))
        hplus.closed)
  | false =>
      obtain ⟨hfilled, hsize⟩ := extends_free hbody greedy hnext h
      refine ⟨?_, hfilled.size, hfilled.closed⟩
      show code.size < (Array.setIfInBounds _ code.size _).size
      rw [Array.size_setIfInBounds]
      exact hsize

theorem sound_compileCopies (hlast : last.Sound) : ∀ n, (compileCopies body last n).Sound
  | 0 => hlast
  | n + 1 => by
      intro next code hnext h
      have hrest := sound_compileCopies hlast n next code hnext h
      exact hrest.trans (hbody _ _ hrest.start hrest.closed)

theorem sound_compileUpTo (greedy : Bool) : ∀ n, (compileUpTo greedy body n).Sound
  | 0 => fun _ _ hnext h => .refl hnext h
  | n + 1 => by
      intro next code hnext h
      have hrest := sound_compileUpTo greedy n next code hnext h
      have hmore := hrest.trans (hbody _ _ hrest.start hrest.closed)
      have hnext' := Nat.lt_of_lt_of_le hnext hmore.size
      exact hmore.trans (extends_emit ((fits_branch greedy hmore.start hnext').mono (Nat.le_succ _))
        hmore.closed)

theorem sound_compileRepetition (min : Nat) (max : Option Nat) (greedy nullable : Bool) :
    (compileRepetition min max greedy nullable body).Sound := by
  unfold compileRepetition
  split
  · exact sound_compileStar hbody greedy nullable
  · exact sound_compileCopies hbody (sound_compilePlus hbody greedy) _
  · exact sound_compileCopies hbody (sound_compileUpTo hbody greedy _) _

end

/-! ## Expressions -/

mutual

theorem Regex.sound_compile : ∀ (r : Regex), r.Numbered → r.compile.Sound
  | .empty, _ => by
      intro next code hnext h
      unfold Regex.compile
      exact .refl hnext h
  | .set chars, _ => by
      intro next code hnext h
      unfold Regex.compile
      exact extends_emit ((fits_consume chars hnext).mono (Nat.le_succ _)) h
  | .look condition, _ => by
      intro next code hnext h
      unfold Regex.compile
      exact extends_emit ((fits_check condition hnext).mono (Nat.le_succ _)) h
  | .sequence parts, hparts => by
      unfold Regex.compile
      exact Regex.sound_compileSequence parts hparts
  | .choice parts, hparts => by
      unfold Regex.compile
      exact Regex.sound_compileChoice parts hparts
  | .repetition min max greedy inner, hinner => by
      unfold Regex.compile
      exact sound_compileRepetition (Regex.sound_compile inner hinner) min max greedy _
  | .capture index name inner, hcapture => by
      obtain ⟨hindex, hinner⟩ := Regex.numbered_capture.mp hcapture
      intro next code hnext h
      unfold Regex.compile
      have hstop : Extends code (emit (.save (2 * index + 1) next) code) :=
        extends_emit ((fits_save (Nat.succ_pos _) hnext).mono (Nat.le_succ _)) h
      have hbody := hstop.trans
        (Regex.sound_compile inner hinner _ _ hstop.start hstop.closed)
      have hslot : 0 < 2 * index := by omega
      exact hbody.trans
        (extends_emit ((fits_save hslot hbody.start).mono (Nat.le_succ _)) hbody.closed)

theorem Regex.sound_compileSequence : ∀ (parts : List Regex), Regex.AllNumbered parts →
    (Regex.compileSequence parts).Sound
  | [], _ => by
      intro next code hnext h
      unfold Regex.compileSequence
      exact .refl hnext h
  | part :: parts, hparts => by
      obtain ⟨hpart, hrest⟩ := Regex.allNumbered_cons.mp hparts
      intro next code hnext h
      unfold Regex.compileSequence
      have hbehind := Regex.sound_compileSequence parts hrest next code hnext h
      exact hbehind.trans
        (Regex.sound_compile part hpart _ _ hbehind.start hbehind.closed)

theorem Regex.sound_compileChoice : ∀ (parts : List Regex), Regex.AllNumbered parts →
    (Regex.compileChoice parts).Sound
  | [], _ => by
      intro next code hnext h
      unfold Regex.compileChoice
      exact extends_emit (fits_consume _ (Nat.succ_pos _)) h
  | [part], hparts => by
      intro next code hnext h
      unfold Regex.compileChoice
      exact Regex.sound_compile part (Regex.allNumbered_cons.mp hparts).1 next code hnext h
  | part :: other :: parts, hparts => by
      obtain ⟨hpart, hrest⟩ := Regex.allNumbered_cons.mp hparts
      intro next code hnext h
      unfold Regex.compileChoice
      have hothers := Regex.sound_compileChoice (other :: parts) hrest next code hnext h
      have hpart' := Regex.sound_compile part hpart next _
        (Nat.lt_of_lt_of_le hnext hothers.size) hothers.closed
      have hchoice := fits_choose hpart'.start (Nat.lt_of_lt_of_le hothers.start hpart'.size)
      exact (hothers.trans hpart').trans
        (extends_emit (hchoice.mono (Nat.le_succ _)) hpart'.closed)

end

/-! ## Programs -/

/-- Whether a program begins by saving where the whole match starts and never does so again: all
other instructions, which are those before, lead to each other and save to other slots. -/
def Program.Opened (p : Program) : Prop :=
  ∃ (body : Code) (first : Nat), Closed body ∧ first < body.size
    ∧ p.code = body.push (.save 0 first) ∧ p.start = body.size

theorem Program.opened_ofRegex {r : Regex} (h : r.Numbered) : (ofRegex r).Opened := by
  have haccept : Extends #[] (emit .accept #[]) :=
    extends_emit (fits_accept _) fun _ hi => (by simp at hi)
  have hstop : Extends #[.accept] (emit (.save 1 0) #[.accept]) :=
    extends_emit ((fits_save Nat.one_pos haccept.start).mono (Nat.le_succ _)) haccept.closed
  have hbody := Regex.sound_compile r h _ _ hstop.start hstop.closed
  refine ⟨_, _, hbody.closed, hbody.start, ?_, ?_⟩
  · rw [ofRegex, Regex.compile]
    rfl
  · rw [ofRegex, Regex.compile]
    rfl

end Daybook.Pattern
