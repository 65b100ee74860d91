import Daybook.Pattern.Literal
import Daybook.Proofs.Failure
import Daybook.Proofs.Success
import Daybook.Proofs.Text.Offsets

/-!
# The grammar of pattern literals

A literal is a slash, a pattern, a slash and flags, the flags without a slash (`IsSplit`): so the
pattern ends at the last slash, and a text can be split in one way at most. Flags are letters that
are known, each of them once (`Flags.Sound`). A text that is short enough, can be split and has such
flags is a literal if its pattern compiles (`parse_ok_iff`).

Any other text is refused: for its length before all else, then for the first of what else is wrong
with it (`Blames`): its slashes, its flags from the left, its pattern.
-/

namespace Daybook.Pattern

open Daybook.Text

/-! ## Flags -/

namespace Flags

/-- Whether a letter is a flag. -/
def IsFlag (c : Char) : Prop :=
  c ∈ ['g', 'i', 'm', 's', 'u']

instance (c : Char) : Decidable (IsFlag c) :=
  inferInstanceAs (Decidable (c ∈ _))

theorem isFlag_iff {c : Char} : IsFlag c ↔ letters.contains c = true :=
  List.contains_iff_mem.symm

/-- Whether letters are flags, none of them repeated. -/
structure Sound (cs : List Char) : Prop where
  known : ∀ c ∈ cs, IsFlag c
  distinct : cs.Nodup

/-- Whether modes are those that letters ask for: three of the letters switch a mode on each, and
no letter does anything to the others. -/
structure AskFor (cs : List Char) (m : Modes) : Prop where
  ignoreCase : m.ignoreCase = true ↔ 'i' ∈ cs
  multiLine : m.multiLine = true ↔ 'm' ∈ cs
  dotAll : m.dotAll = true ↔ 's' ∈ cs
  swapGreed : m.swapGreed = false
  unicode : m.unicode = true
  crlf : m.crlf = false

theorem askFor_modes (cs : List Char) : AskFor cs (ofLetters cs).modes :=
  ⟨List.contains_iff_mem, List.contains_iff_mem, List.contains_iff_mem, rfl, rfl, rfl⟩

/-- What is wrong with a letter behind others. -/
inductive Wrong (before : List Char) : Char → PatternFault → Prop
  | sticky : Wrong before 'y' .sticky
  | unknown {c : Char} : c ≠ 'y' → ¬IsFlag c → Wrong before c (.unknownFlag c)
  | repeated {c : Char} : IsFlag c → c ∈ before → Wrong before c (.duplicateFlag c)

/-- Whether the first letter that is wrong is so for the given reason. -/
def FirstWrong (cs : List Char) (fault : PatternFault) : Prop :=
  ∃ before c after, cs = before ++ c :: after ∧ Sound before ∧ Wrong before c fault

namespace Wrong

variable {before before' : List Char} {c : Char} {fault fault' : PatternFault}

theorem mono (h : Wrong before c fault) (hmem : ∀ d, d ∈ before → d ∈ before') :
    Wrong before' c fault := by
  cases h with
  | sticky => exact .sticky
  | unknown hne hunknown => exact .unknown hne hunknown
  | repeated hknown hrepeated => exact .repeated hknown (hmem _ hrepeated)

theorem not_sound (h : Wrong before c fault) (hknown : IsFlag c) : c ∈ before := by
  cases h with
  | sticky => exact absurd hknown (by decide)
  | unknown _ hunknown => exact absurd hknown hunknown
  | repeated _ hrepeated => exact hrepeated

/-- A letter is wrong for one reason at most. -/
theorem unique (h : Wrong before c fault) (h' : Wrong before c fault') : fault = fault' := by
  cases h with
  | sticky =>
      cases h' with
      | sticky => rfl
      | unknown hne _ => exact absurd rfl hne
      | repeated hknown _ => exact absurd hknown (by decide)
  | unknown hne hunknown =>
      cases h' with
      | sticky => exact absurd rfl hne
      | unknown _ _ => rfl
      | repeated hknown _ => exact absurd hknown hunknown
  | repeated hknown _ =>
      cases h' with
      | sticky => exact absurd hknown (by decide)
      | unknown _ hunknown => exact absurd hknown hunknown
      | repeated _ _ => rfl

end Wrong

/-- A letter is looked at behind those that were seen: it is wrong, or one goes on behind it. -/
theorem firstFault_cons (seen : List Char) (c : Char) (cs : List Char) :
    (∃ fault, Wrong seen c fault ∧ firstFault seen (c :: cs) = some fault)
      ∨ (IsFlag c ∧ c ∉ seen ∧ firstFault seen (c :: cs) = firstFault (c :: seen) cs) := by
  rw [firstFault]
  by_cases hsticky : c = 'y'
  · subst hsticky
    exact .inl ⟨_, .sticky, if_pos rfl⟩
  · rw [if_neg hsticky]
    by_cases hknown : IsFlag c
    · rw [if_neg (by simpa [isFlag_iff] using hknown)]
      by_cases hseen : c ∈ seen
      · exact .inl ⟨_, .repeated hknown hseen, if_pos (List.contains_iff_mem.mpr hseen)⟩
      · exact .inr ⟨hknown, hseen, if_neg (by simpa using hseen)⟩
    · exact .inl ⟨_, .unknown hsticky hknown, if_pos (by simpa [isFlag_iff] using hknown)⟩

theorem sound_cons {c : Char} {cs : List Char} :
    Sound (c :: cs) ↔ IsFlag c ∧ c ∉ cs ∧ Sound cs := by
  constructor
  · intro h
    obtain ⟨hc, hcs⟩ := List.forall_mem_cons.mp h.known
    obtain ⟨hnew, hdistinct⟩ := List.nodup_cons.mp h.distinct
    exact ⟨hc, hnew, hcs, hdistinct⟩
  · rintro ⟨hc, hnew, hcs⟩
    exact ⟨List.forall_mem_cons.mpr ⟨hc, hcs.known⟩, List.nodup_cons.mpr ⟨hnew, hcs.distinct⟩⟩

theorem firstFault_eq_none_iff {seen cs : List Char} :
    firstFault seen cs = Option.none ↔ Sound cs ∧ ∀ c ∈ cs, c ∉ seen := by
  induction cs generalizing seen with
  | nil => exact ⟨fun _ => ⟨⟨nofun, List.nodup_nil⟩, nofun⟩, fun _ => rfl⟩
  | cons c cs ih =>
      rw [sound_cons, List.forall_mem_cons]
      rcases firstFault_cons seen c cs with ⟨fault, hwrong, heq⟩ | ⟨hknown, hnew, heq⟩
      · rw [heq]
        refine ⟨nofun, fun ⟨⟨hknown, _⟩, hnew, _⟩ => ?_⟩
        exact absurd (hwrong.not_sound hknown) hnew
      · rw [heq, ih]
        constructor
        · rintro ⟨hsound, hseen⟩
          have hc : c ∉ cs := fun hmem => hseen c hmem List.mem_cons_self
          exact ⟨⟨hknown, hc, hsound⟩, hnew, fun d hd h => hseen d hd (List.mem_cons_of_mem c h)⟩
        · rintro ⟨⟨-, hc, hsound⟩, -, hseen⟩
          refine ⟨hsound, fun d hd h => ?_⟩
          rcases List.mem_cons.mp h with rfl | h
          · exact hc hd
          · exact hseen d hd h

/-- The first letter that is wrong is the one that is reported. -/
theorem firstFault_eq_some_iff {seen cs : List Char} {fault : PatternFault} :
    firstFault seen cs = some fault ↔ ∃ before c after, cs = before ++ c :: after
      ∧ Sound before ∧ (∀ d ∈ before, d ∉ seen) ∧ Wrong (seen ++ before) c fault := by
  induction cs generalizing seen with
  | nil => exact ⟨nofun, fun ⟨_, _, _, h, _⟩ => by simp at h⟩
  | cons c cs ih =>
      rcases firstFault_cons seen c cs with ⟨fault', hwrong, heq⟩ | ⟨hknown, hnew, heq⟩
      · rw [heq]
        constructor
        · rintro hfault
          obtain rfl := Option.some.inj hfault
          refine ⟨[], c, cs, rfl, ⟨nofun, List.nodup_nil⟩, nofun, ?_⟩
          rwa [List.append_nil]
        · rintro ⟨before, c', after, hcs, hsound, hbefore, hwrong'⟩
          cases before with
          | nil =>
              obtain ⟨rfl, rfl⟩ := List.cons.inj hcs
              rw [List.append_nil] at hwrong'
              rw [hwrong.unique hwrong']
          | cons d before =>
              obtain ⟨rfl, rfl⟩ := List.cons.inj hcs
              have hseen := hwrong.not_sound (sound_cons.mp hsound).1
              exact absurd hseen (hbefore c List.mem_cons_self)
      · rw [heq, ih]
        constructor
        · rintro ⟨before, c', after, rfl, hsound, hbefore, hwrong⟩
          have hc : c ∉ before := fun hmem => hbefore c hmem List.mem_cons_self
          refine ⟨c :: before, c', after, rfl, sound_cons.mpr ⟨hknown, hc, hsound⟩, ?_, ?_⟩
          · exact List.forall_mem_cons.mpr
              ⟨hnew, fun d hd h => hbefore d hd (List.mem_cons_of_mem c h)⟩
          · exact hwrong.mono fun d hd => List.perm_middle.mem_iff.mpr hd
        · rintro ⟨before, c', after, hcs, hsound, hbefore, hwrong⟩
          cases before with
          | nil =>
              obtain ⟨rfl, rfl⟩ := List.cons.inj hcs
              rw [List.append_nil] at hwrong
              exact absurd (hwrong.not_sound hknown) hnew
          | cons d before =>
              obtain ⟨rfl, rfl⟩ := List.cons.inj hcs
              obtain ⟨-, hc, hrest⟩ := sound_cons.mp hsound
              refine ⟨before, c', after, rfl, hrest, fun e he h => ?_,
                hwrong.mono fun e he => List.perm_middle.mem_iff.mp he⟩
              rcases List.mem_cons.mp h with rfl | h
              · exact hc he
              · exact hbefore e (List.mem_cons_of_mem c he) h

/-- Flags are read if they are sound. -/
theorem parse_ok_iff {cs : List Char} {flags : Flags} :
    parse cs = .ok flags ↔ Sound cs ∧ flags = ofLetters cs := by
  have hsound := @firstFault_eq_none_iff [] cs
  unfold parse
  cases hfault : firstFault [] cs with
  | none =>
      rw [hfault] at hsound
      refine ⟨fun h => ⟨(hsound.mp rfl).1, (Except.ok.inj h).symm⟩, fun ⟨_, h⟩ => ?_⟩
      rw [h]
  | some fault =>
      rw [hfault] at hsound
      exact ⟨nofun, fun ⟨h, _⟩ => nomatch hsound.mpr ⟨h, fun _ _ => List.not_mem_nil⟩⟩

/-- Otherwise the first letter that is wrong is reported. -/
theorem parse_error_iff {cs : List Char} {fault : PatternFault} :
    parse cs = .error fault ↔ FirstWrong cs fault := by
  have hwrong := @firstFault_eq_some_iff [] cs fault
  have hparse : parse cs = .error fault ↔ firstFault [] cs = some fault := by
    unfold parse
    cases firstFault [] cs with
    | none => exact ⟨nofun, nofun⟩
    | some fault' =>
        exact ⟨fun h => congrArg some (Except.error.inj h),
          fun h => congrArg _ (Option.some.inj h)⟩
  rw [hparse, hwrong]
  constructor
  · rintro ⟨before, c, after, hcs, hsound, -, hfault⟩
    exact ⟨before, c, after, hcs, hsound, hfault⟩
  · rintro ⟨before, c, after, hcs, hsound, hfault⟩
    exact ⟨before, c, after, hcs, hsound, fun _ _ => List.not_mem_nil, hfault⟩

/-- The letters that stand for flags stand for no others. -/
theorem parse_toLetters (flags : Flags) : parse flags.toLetters = .ok flags := by
  obtain ⟨isGlobal, ignoreCase, multiLine, dotAll⟩ := flags
  cases isGlobal <;> cases ignoreCase <;> cases multiLine <;> cases dotAll <;> rfl

end Flags

namespace Literal

/-! ## Slashes -/

/-- Whether a text is a pattern and flags, each behind a slash. The pattern may hold slashes, the
flags may not. -/
structure IsSplit (cs pattern letters : List Char) : Prop where
  eq_append : cs = '/' :: (pattern ++ '/' :: letters)
  noSlash : '/' ∉ letters

theorem splitLast?_append (front : List Char) {back : List Char} (h : '/' ∉ back) :
    splitLast? (front ++ '/' :: back) = some (front, back) := by
  have hreverse : (front ++ '/' :: back).reverse = back.reverse ++ '/' :: front.reverse := by simp
  have hend : ((front ++ '/' :: back).reverse.takeWhile (· != '/')).reverse = back := by
    rw [hreverse, takeWhile_bne_append (fun hmem => h (List.mem_reverse.mp hmem)),
      List.reverse_reverse]
  have hlength : (front ++ '/' :: back).length - back.length - 1 = front.length := by
    rw [List.length_append, List.length_cons]
    omega
  rw [splitLast?, hend, if_neg, hlength, List.take_left]
  rw [List.length_append, List.length_cons]
  omega

theorem splitLast?_of_notMem {cs : List Char} (h : '/' ∉ cs) : splitLast? cs = none := by
  have hall : cs.reverse.takeWhile (· != '/') = cs.reverse :=
    takeWhile_bne_of_notMem fun hmem => h (List.mem_reverse.mp hmem)
  rw [splitLast?, hall, List.reverse_reverse, if_pos rfl]

/-- A slash, and what stands before and behind the last one. -/
theorem eq_append_of_slash {cs : List Char} (h : '/' ∈ cs) :
    ∃ front back, cs = front ++ '/' :: back ∧ '/' ∉ back := by
  obtain ⟨back, front, hreverse, hback⟩ :=
    List.eq_append_cons_of_mem (List.mem_reverse.mpr h)
  refine ⟨front.reverse, back.reverse, ?_, fun hmem => hback (List.mem_reverse.mp hmem)⟩
  rw [← List.reverse_reverse cs, hreverse]
  simp

/-- The parts of a literal are those of its split. -/
theorem parts_ok_iff {cs pattern letters : List Char} :
    parts cs = .ok (pattern, letters) ↔ IsSplit cs pattern letters := by
  constructor
  · intro h
    unfold parts at h
    split at h
    · rename_i body
      by_cases hslash : '/' ∈ body
      · obtain ⟨front, back, rfl, hback⟩ := eq_append_of_slash hslash
        rw [splitLast?_append front hback] at h
        obtain ⟨rfl, rfl⟩ := Prod.mk.inj (Except.ok.inj h)
        exact ⟨rfl, hback⟩
      · rw [splitLast?_of_notMem hslash] at h
        exact nomatch h
    · exact nomatch h
  · rintro ⟨rfl, hletters⟩
    rw [parts, splitLast?_append pattern hletters]

/-- There is one way at most to split a text. -/
theorem IsSplit.unique {cs pattern letters pattern' letters' : List Char}
    (h : IsSplit cs pattern letters) (h' : IsSplit cs pattern' letters') :
    pattern = pattern' ∧ letters = letters' :=
  Prod.mk.inj (Except.ok.inj ((parts_ok_iff.mpr h).symm.trans (parts_ok_iff.mpr h')))

/-! ## Refusals -/

/-- What is wrong with a text as a literal, the first of what there is. -/
inductive Blames (maxSize : Nat) (cs : List Char) : PatternFault → Prop
  | opening : cs.head? ≠ some '/' → Blames maxSize cs .noOpening
  | closing {body : List Char} : cs = '/' :: body → '/' ∉ body → Blames maxSize cs .noClosing
  | flag {pattern letters : List Char} {fault : PatternFault} : IsSplit cs pattern letters →
      Flags.FirstWrong letters fault → Blames maxSize cs fault
  | engine {pattern letters : List Char} {fault : PatternFault} : IsSplit cs pattern letters →
      Flags.Sound letters →
      compile (.ofLetters letters) maxSize (unescapeSlashes pattern) = .error fault →
      Blames maxSize cs fault

theorem parts_error_iff {cs : List Char} {fault : PatternFault} :
    parts cs = .error fault ↔ (cs.head? ≠ some '/' ∧ fault = .noOpening)
      ∨ ∃ body, cs = '/' :: body ∧ '/' ∉ body ∧ fault = .noClosing := by
  unfold parts
  split
  · rename_i body
    by_cases hslash : '/' ∈ body
    · obtain ⟨front, back, rfl, hback⟩ := eq_append_of_slash hslash
      rw [splitLast?_append front hback]
      refine ⟨nofun, ?_⟩
      rintro (⟨hhead, -⟩ | ⟨body, heq, hnone, -⟩)
      · exact absurd rfl hhead
      · obtain rfl := (List.cons.inj heq).2
        exact absurd hslash hnone
    · rw [splitLast?_of_notMem hslash]
      constructor
      · intro h
        exact .inr ⟨body, rfl, hslash, (Except.error.inj h).symm⟩
      · rintro (⟨hhead, -⟩ | ⟨body', heq, -, rfl⟩)
        · exact absurd rfl hhead
        · rfl
  · rename_i hopening
    constructor
    · intro h
      refine .inl ⟨fun hhead => ?_, (Except.error.inj h).symm⟩
      obtain ⟨body, rfl⟩ := List.head?_eq_some_iff.mp hhead
      exact hopening body rfl
    · rintro (⟨-, rfl⟩ | ⟨body, rfl, -, -⟩)
      · rfl
      · exact absurd rfl (hopening body)

/-- A text is read if it splits, its flags are sound and its pattern compiles. -/
theorem read_ok_iff {maxSize : Nat} {cs : List Char} {flags : Flags} {c : Compiled} :
    read maxSize cs = .ok (flags, c) ↔ ∃ pattern letters, IsSplit cs pattern letters
      ∧ Flags.Sound letters ∧ flags = .ofLetters letters
      ∧ compile flags maxSize (unescapeSlashes pattern) = .ok c := by
  constructor
  · intro h
    obtain ⟨⟨pattern, letters⟩, hparts, h⟩ := bind_ok_iff.mp h
    obtain ⟨flags', hflags, h⟩ := bind_ok_iff.mp h
    obtain ⟨c', hc, h⟩ := bind_ok_iff.mp h
    obtain ⟨rfl, rfl⟩ := Prod.mk.inj (Except.ok.inj h)
    obtain ⟨hsound, heq⟩ := Flags.parse_ok_iff.mp hflags
    exact ⟨pattern, letters, parts_ok_iff.mp hparts, hsound, heq, hc⟩
  · rintro ⟨pattern, letters, hsplit, hsound, heq, hc⟩
    have hparts := parts_ok_iff.mpr hsplit
    have hflags := Flags.parse_ok_iff.mpr ⟨hsound, heq⟩
    exact bind_ok_iff.mpr ⟨_, hparts, bind_ok_iff.mpr ⟨_, hflags, bind_ok_iff.mpr ⟨c, hc, rfl⟩⟩⟩

/-- A text that is not read is blamed for the first of what is wrong with it. -/
theorem read_error_iff {maxSize : Nat} {cs : List Char} {fault : PatternFault} :
    read maxSize cs = .error fault ↔ Blames maxSize cs fault := by
  constructor
  · intro h
    rcases bind_error_iff.mp h with hparts | ⟨⟨pattern, letters⟩, hparts, h⟩
    · rcases parts_error_iff.mp hparts with ⟨hhead, rfl⟩ | ⟨body, hcs, hbody, rfl⟩
      · exact .opening hhead
      · exact .closing hcs hbody
    have hsplit := parts_ok_iff.mp hparts
    rcases bind_error_iff.mp h with hflags | ⟨flags, hflags, h⟩
    · exact .flag hsplit (Flags.parse_error_iff.mp hflags)
    obtain ⟨hsound, rfl⟩ := Flags.parse_ok_iff.mp hflags
    rcases bind_error_iff.mp h with hengine | ⟨c, -, h⟩
    · exact .engine hsplit hsound hengine
    · exact nomatch h
  · intro h
    cases h with
    | opening hhead => exact bind_error_iff.mpr (.inl (parts_error_iff.mpr (.inl ⟨hhead, rfl⟩)))
    | closing hcs hbody =>
        exact bind_error_iff.mpr (.inl (parts_error_iff.mpr (.inr ⟨_, hcs, hbody, rfl⟩)))
    | flag hsplit hwrong =>
        have hparts := parts_ok_iff.mpr hsplit
        have hflags := Flags.parse_error_iff.mpr hwrong
        exact bind_error_iff.mpr (.inr ⟨_, hparts, bind_error_iff.mpr (.inl hflags)⟩)
    | engine hsplit hsound hengine =>
        have hparts := parts_ok_iff.mpr hsplit
        have hflags := Flags.parse_ok_iff.mpr ⟨hsound, rfl⟩
        exact bind_error_iff.mpr (.inr ⟨_, hparts, bind_error_iff.mpr
          (.inr ⟨_, hflags, bind_error_iff.mpr (.inl hengine)⟩)⟩)

/-! ## Literals -/

variable {limits : Limits} {text : String}

/-- Whether a text is a literal with the given pattern and flags, which compiles to `c`. -/
structure Accepted (limits : Limits) (text : String) (pattern letters : List Char) (c : Compiled) :
    Prop where
  size_le : size text ≤ limits.maxPatternLength
  split : IsSplit text.toList pattern letters
  sound : Flags.Sound letters
  compiles : compile (.ofLetters letters) limits.maxRegexSize (unescapeSlashes pattern) = .ok c

theorem checkLength_ok_iff :
    checkLength limits text = .ok () ↔ size text ≤ limits.maxPatternLength := by
  unfold checkLength
  split
  · exact ⟨nofun, fun h => by omega⟩
  · exact ⟨fun _ => by omega, fun _ => rfl⟩

theorem checkLength_error_iff {e : Error} : checkLength limits text = .error e
    ↔ limits.maxPatternLength < size text ∧ e = .limit (.literalBytes (size text)) := by
  unfold checkLength
  split
  · rename_i hlong
    exact ⟨fun h => ⟨hlong, (Except.error.inj h).symm⟩, fun ⟨_, h⟩ => h ▸ rfl⟩
  · rename_i hshort
    exact ⟨nofun, fun ⟨hlong, _⟩ => absurd hlong hshort⟩

/-- What a text is parsed to. -/
theorem parse_ok_iff {l : Literal} : parse limits text = .ok l
    ↔ ∃ pattern letters c, Accepted limits text pattern letters c
      ∧ l = ⟨c, .ofLetters letters, text⟩ := by
  constructor
  · intro h
    obtain ⟨_, hlength, h⟩ := bind_ok_iff.mp h
    obtain ⟨⟨flags, c⟩, hread, h⟩ := bind_ok_iff.mp h
    obtain rfl := Except.ok.inj h
    obtain ⟨pattern, letters, hsplit, hsound, rfl, hc⟩ := read_ok_iff.mp (mapError_ok_iff.mp hread)
    exact ⟨pattern, letters, c, ⟨checkLength_ok_iff.mp hlength, hsplit, hsound, hc⟩, rfl⟩
  · rintro ⟨pattern, letters, c, h, rfl⟩
    have hlength := checkLength_ok_iff.mpr h.size_le
    have hread := read_ok_iff.mpr ⟨pattern, letters, h.split, h.sound, rfl, h.compiles⟩
    exact bind_ok_iff.mpr ⟨(), hlength, bind_ok_iff.mpr ⟨_, mapError_ok_iff.mpr hread, rfl⟩⟩

/-- Why a text is refused. -/
theorem parse_error_iff {e : Error} : parse limits text = .error e
    ↔ (limits.maxPatternLength < size text ∧ e = .limit (.literalBytes (size text)))
      ∨ (size text ≤ limits.maxPatternLength
        ∧ ∃ fault, Blames limits.maxRegexSize text.toList fault ∧ e = .pattern text fault) := by
  constructor
  · intro h
    rcases bind_error_iff.mp h with hlength | ⟨_, hlength, h⟩
    · exact .inl (checkLength_error_iff.mp hlength)
    rcases bind_error_iff.mp h with hread | ⟨out, -, h⟩
    · obtain ⟨fault, hfault, he⟩ := mapError_error_iff.mp hread
      exact .inr ⟨checkLength_ok_iff.mp hlength, fault, read_error_iff.mp hfault, he⟩
    · exact nomatch h
  · rintro (hlong | ⟨hshort, fault, hblames, he⟩)
    · exact bind_error_iff.mpr (.inl (checkLength_error_iff.mpr hlong))
    · have hlength := checkLength_ok_iff.mpr hshort
      have hread := mapError_error_iff.mpr ⟨fault, read_error_iff.mpr hblames, he⟩
      exact bind_error_iff.mpr (.inr ⟨(), hlength, bind_error_iff.mpr (.inl hread)⟩)

/-- The flags that letters set are told by the letters that there are, `u` apart. -/
theorem ofLetters_congr {letters letters' : List Char}
    (h : ∀ flag, flag ≠ 'u' → (flag ∈ letters' ↔ flag ∈ letters)) :
    Flags.ofLetters letters' = Flags.ofLetters letters := by
  have hcontains : ∀ flag, flag ≠ 'u' → letters'.contains flag = letters.contains flag := by
    intro flag hflag
    rw [Bool.eq_iff_iff, List.contains_iff_mem, List.contains_iff_mem]
    exact h flag hflag
  unfold Flags.ofLetters
  rw [hcontains 'g' (by decide), hcontains 'i' (by decide), hcontains 'm' (by decide),
    hcontains 's' (by decide)]

/-- **The grammar of literals.** A text is a literal exactly when it is no longer than the limits
allow, is a pattern and flags behind a slash each, which it is in one way at most, has sound flags
and a pattern that compiles under them. The literal has that text and the flags whose letters there
are, and these ask for no modes but their own; they are read again from the letters that stand for
them; another order of the letters, or `u` among them, makes no other literal than by its text. A
text that is no literal is refused for its length if it is too long, and otherwise, with the whole
of it, for the first of what is wrong with its slashes, its flags and its pattern. -/
theorem parse_accepts_grammar (limits : Limits) (text : String) :
    ((∃ l, parse limits text = .ok l)
        ↔ ∃ pattern letters c, Accepted limits text pattern letters c)
      ∧ (∀ pattern letters pattern' letters', IsSplit text.toList pattern letters →
          IsSplit text.toList pattern' letters' → pattern = pattern' ∧ letters = letters')
      ∧ (∀ l pattern letters c, parse limits text = .ok l →
          Accepted limits text pattern letters c →
            l.compiled = c ∧ l.text = text
            ∧ (l.flags.isGlobal = true ↔ 'g' ∈ letters)
            ∧ (l.flags.ignoreCase = true ↔ 'i' ∈ letters)
            ∧ (l.flags.multiLine = true ↔ 'm' ∈ letters)
            ∧ (l.flags.dotAll = true ↔ 's' ∈ letters)
            ∧ Flags.AskFor letters l.flags.modes
            ∧ Flags.parse l.flags.toLetters = .ok l.flags
            ∧ ∀ text' letters', IsSplit text'.toList pattern letters' →
                size text' ≤ limits.maxPatternLength → Flags.Sound letters' →
                (∀ flag, flag ≠ 'u' → (flag ∈ letters' ↔ flag ∈ letters)) →
                  parse limits text' = .ok { l with text := text' })
      ∧ ∀ e, parse limits text = .error e
          ↔ (limits.maxPatternLength < size text ∧ e = .limit (.literalBytes (size text)))
            ∨ (size text ≤ limits.maxPatternLength
              ∧ ∃ fault, Blames limits.maxRegexSize text.toList fault
                ∧ e = .pattern text fault) := by
  refine ⟨?_, fun _ _ _ _ hsplit hsplit' => hsplit.unique hsplit', ?_, fun _ => parse_error_iff⟩
  · constructor
    · rintro ⟨l, hl⟩
      obtain ⟨pattern, letters, c, haccepted, -⟩ := parse_ok_iff.mp hl
      exact ⟨pattern, letters, c, haccepted⟩
    · rintro ⟨pattern, letters, c, haccepted⟩
      exact ⟨_, parse_ok_iff.mpr ⟨pattern, letters, c, haccepted, rfl⟩⟩
  · intro l pattern letters c hl haccepted
    have hparse := parse_ok_iff.mpr ⟨pattern, letters, c, haccepted, rfl⟩
    obtain rfl := Except.ok.inj (hl.symm.trans hparse)
    refine ⟨rfl, rfl, List.contains_iff_mem, List.contains_iff_mem, List.contains_iff_mem,
      List.contains_iff_mem, Flags.askFor_modes letters, Flags.parse_toLetters _, ?_⟩
    intro text' letters' hsplit' hsize' hsound' hsame
    have hflags := ofLetters_congr hsame
    have hcompiles := haccepted.compiles
    rw [← hflags] at hcompiles
    rw [parse_ok_iff, ← hflags]
    exact ⟨pattern, letters', c, ⟨hsize', hsplit', hsound', hcompiles⟩, rfl⟩

/-- A literal with two slashes in its pattern, one of them escaped. -/
private def slashedLiteral : String :=
  "/a\\/b/c/ugs"

private theorem isSome_parse_slashed : (parse .standard slashedLiteral).toOption.isSome := by
  decide +kernel

private theorem isSplit_slashed : IsSplit slashedLiteral.toList "a\\/b/c".toList ['u', 'g', 's'] :=
  ⟨by decide +kernel, by decide +kernel⟩

/-- The last slash ends the pattern, and `u` may be left out. -/
theorem parse_accepts_grammar_slashed :
    ∃ l, parse .standard slashedLiteral = .ok l
      ∧ IsSplit slashedLiteral.toList "a\\/b/c".toList ['u', 'g', 's']
      ∧ l.flags.isGlobal = true ∧ l.flags.ignoreCase = false
      ∧ parse .standard "/a\\/b/c/sg" = .ok { l with text := "/a\\/b/c/sg" } := by
  have hl := eq_ok_get isSome_parse_slashed
  generalize (parse .standard slashedLiteral).toOption.get isSome_parse_slashed = l at hl
  obtain ⟨haccepts, hunique, hsuccess, -⟩ := parse_accepts_grammar .standard slashedLiteral
  obtain ⟨pattern, letters, c, haccepted⟩ := haccepts.mp ⟨l, hl⟩
  obtain ⟨rfl, rfl⟩ := hunique _ _ _ _ haccepted.split isSplit_slashed
  obtain ⟨-, -, hglobal, hcase, -, -, -, -, hsame⟩ := hsuccess _ _ _ c hl haccepted
  have hletters : ∀ flag, flag ≠ 'u' → (flag ∈ ['s', 'g'] ↔ flag ∈ ['u', 'g', 's']) := by
    intro flag hflag
    simp [hflag, or_comm]
  have hsplit : IsSplit "/a\\/b/c/sg".toList "a\\/b/c".toList ['s', 'g'] :=
    ⟨by decide +kernel, by decide +kernel⟩
  have hsound : Flags.Sound ['s', 'g'] := ⟨by simp [Flags.IsFlag], by simp⟩
  have hcaseless : l.flags.ignoreCase = false :=
    Bool.eq_false_iff.mpr fun h => absurd (hcase.mp h) (by decide +kernel)
  exact ⟨l, hl, isSplit_slashed, hglobal.mpr (by decide +kernel), hcaseless,
    hsame _ _ hsplit (by decide +kernel) hsound hletters⟩

end Literal

end Daybook.Pattern
