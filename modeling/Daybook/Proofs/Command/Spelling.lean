import Daybook.Command.Request
import Daybook.Proofs.Text.Offsets
import Mathlib.Data.List.Nodup

/-!
# How switches are spelled

The words of a command line, described from what they give and not by reading them. A switch is
spelled by its name or by its letter, and its value stands behind it in the same word or in the next
one (`Spelling`); a line is made of such spellings and of other words (`Line`). Words are read
exactly if they are a line on which no switch stands twice that may stand only once, and what is
read is what the line gives (`read_eq_ok_iff`).
-/

namespace Daybook.Command

/-- What can be given with a switch: nothing, or a value that it accepts. -/
inductive Switch.Takes (s : Switch) : Option String → Prop where
  | nothing : s.accepts = none → s.Takes none
  | value {accepts : String → Bool} {v : String} :
      s.accepts = some accepts → accepts v = true → s.Takes (some v)

namespace Switch

variable {s : Switch}

theorem takes_none_iff : s.Takes none ↔ s.accepts = none := by
  constructor
  · rintro ⟨h⟩
    exact h
  · exact .nothing

theorem takes_some_iff {v : String} :
    s.Takes (some v) ↔ ∃ accepts, s.accepts = some accepts ∧ accepts v = true := by
  constructor
  · rintro (_ | ⟨h, hv⟩)
    exact ⟨_, h, hv⟩
  · rintro ⟨_, h, hv⟩
    exact .value h hv

end Switch

namespace Switchboard

section Grammar

variable (b : Switchboard)

/-- The letters that share a word, with the words behind it that they need. Only the last one can
take a value. -/
inductive Letters : List Char → List String → List Given → Prop where
  | nil : Letters [] [] []
  | flag {s : Switch} {c : Char} {cs : List Char} {words : List String} {us : List Given} :
      s ∈ b.switches → s.letter = some c → s.Takes none → Letters cs words us →
      Letters (c :: cs) words (⟨s.name, none⟩ :: us)
  | attached {s : Switch} {c : Char} {v : List Char} :
      s ∈ b.switches → s.letter = some c → s.Takes (some (String.ofList v)) → v ≠ [] →
      v.head? ≠ some '=' → Letters (c :: v) [] [⟨s.name, some (String.ofList v)⟩]
  | equals {s : Switch} {c : Char} {v : List Char} :
      s ∈ b.switches → s.letter = some c → s.Takes (some (String.ofList v)) →
      Letters (c :: '=' :: v) [] [⟨s.name, some (String.ofList v)⟩]
  | apart {s : Switch} {c : Char} {v : String} :
      s ∈ b.switches → s.letter = some c → s.Takes (some v) → looksLikeSwitch v = false →
      Letters [c] [v] [⟨s.name, some v⟩]

/-- The words that give a switch, or several ones by their letters. -/
inductive Spelling : List String → List Given → Prop where
  | flag {s : Switch} : s ∈ b.switches → s.Takes none → Spelling ["--" ++ s.name] [⟨s.name, none⟩]
  | equals {s : Switch} {v : String} : s ∈ b.switches → s.Takes (some v) →
      Spelling ["--" ++ s.name ++ "=" ++ v] [⟨s.name, some v⟩]
  | apart {s : Switch} {v : String} : s ∈ b.switches → s.Takes (some v) →
      looksLikeSwitch v = false → Spelling ["--" ++ s.name, v] [⟨s.name, some v⟩]
  | letters {c : Char} {cs : List Char} {words : List String} {us : List Given} :
      Letters b (c :: cs) words us → Spelling (String.ofList ('-' :: c :: cs) :: words) us

/-- The words of a line, with the switches and the other words that they give, and with the words
that are left to others. -/
inductive Line : List String → List Given → List String → List String → Prop where
  | nil : Line [] [] [] []
  | command {word : String} {rest : List String} : b.isFront = true →
      looksLikeSwitch word = false → Line (word :: rest) [] [] (word :: rest)
  | dashes {plain : List String} : (∀ word ∈ plain, word ≠ "") → Line ("--" :: plain) [] plain []
  | plain {word : String} {words plain rest : List String} {us : List Given} : b.isFront = false →
      looksLikeSwitch word = false → word ≠ "" → Line words us plain rest →
      Line (word :: words) us (word :: plain) rest
  | switch {front words plain rest : List String} {us us' : List Given} : Spelling b front us →
      Line words us' plain rest → Line (front ++ words) (us ++ us') plain rest

/-- Whether no switch was given twice that may be given only once. -/
def Admits (us : List Given) : Prop :=
  ∀ s ∈ b.switches, s.repeats = false → us.countP (·.name == s.name) ≤ 1

/-- Whether names and letters tell switches apart, from each other and from all other words. -/
structure Sound : Prop where
  names : (b.switches.map (·.name)).Nodup
  letters : (b.switches.filterMap (·.letter)).Nodup
  unempty : ∀ s ∈ b.switches, s.name ≠ ""
  unbroken : ∀ s ∈ b.switches, '=' ∉ s.name.toList
  undashed : ∀ s ∈ b.switches, s.letter ≠ some '-'

end Grammar

/-! ## Finding switches -/

section

variable {b : Switchboard} {s : Switch}

theorem Sound.find?_name (hb : b.Sound) (hs : s ∈ b.switches) :
    b.switches.find? (·.name == s.name) = some s := by
  cases hfind : b.switches.find? (·.name == s.name) with
  | none => exact absurd BEq.rfl (List.find?_eq_none.mp hfind s hs)
  | some s' =>
      have hname : s'.name = s.name := by simpa using List.find?_some hfind
      rw [List.inj_on_of_nodup_map hb.names (List.mem_of_find?_eq_some hfind) hs hname]

theorem eq_of_letter {switches : List Switch} (h : (switches.filterMap (·.letter)).Nodup)
    {s' : Switch} (hs : s ∈ switches) (hs' : s' ∈ switches) {c : Char} (hc : s.letter = some c)
    (hc' : s'.letter = some c) : s = s' := by
  induction switches with
  | nil => exact nomatch hs
  | cons t ts ih =>
      have hmem : ∀ {u : Switch}, u ∈ ts → u.letter = some c → c ∈ ts.filterMap (·.letter) :=
        fun hu huc => List.mem_filterMap.mpr ⟨_, hu, huc⟩
      rcases List.mem_cons.mp hs with rfl | hs <;> rcases List.mem_cons.mp hs' with rfl | hs'
      · rfl
      · rw [List.filterMap_cons_some hc] at h
        exact absurd (hmem hs' hc') (List.nodup_cons.mp h).1
      · rw [List.filterMap_cons_some hc'] at h
        exact absurd (hmem ‹s ∈ ts› hc) (List.nodup_cons.mp h).1
      · exact ih (h.sublist ((List.sublist_cons_self t ts).filterMap _)) hs hs'

theorem Sound.find?_letter (hb : b.Sound) (hs : s ∈ b.switches) {c : Char}
    (hc : s.letter = some c) : b.switches.find? (·.letter == some c) = some s := by
  cases hfind : b.switches.find? (·.letter == some c) with
  | none => exact absurd hc (by simpa using List.find?_eq_none.mp hfind s hs)
  | some s' =>
      have hletter : s'.letter = some c := by simpa using List.find?_some hfind
      rw [eq_of_letter hb.letters (List.mem_of_find?_eq_some hfind) hs hletter hc]

/-! ## Taking a switch in -/

theorem admits_of_cons {u : Given} {us : List Given} (h : b.Admits (u :: us)) : b.Admits us :=
  fun s hs hr => Nat.le_trans (List.sublist_cons_self u us).countP_le (h s hs hr)

theorem admits_of_append {us us' : List Given} (h : b.Admits (us ++ us')) : b.Admits us' :=
  fun s hs hr => Nat.le_trans (List.sublist_append_right us us').countP_le (h s hs hr)

theorem admits_reverse_iff {us : List Given} : b.Admits us.reverse ↔ b.Admits us := by
  simp only [Admits, List.countP_reverse]

theorem Sound.admits_cons_iff (hb : b.Sound) (hs : s ∈ b.switches) {v : Option String}
    {us : List Given} (hus : b.Admits us) :
    b.Admits (⟨s.name, v⟩ :: us) ↔ (s.repeats = true ∨ us.countP (·.name == s.name) = 0) := by
  constructor
  · intro h
    cases hr : s.repeats with
    | true => exact .inl rfl
    | false =>
        have hcount := h s hs hr
        rw [List.countP_cons_of_pos (by simp)] at hcount
        exact .inr (by omega)
  · intro h s' hs' hr'
    by_cases hname : s.name = s'.name
    · obtain rfl := List.inj_on_of_nodup_map hb.names hs hs' hname
      have hzero := h.resolve_left (by simp [hr'])
      simp [hzero]
    · rw [List.countP_cons_of_neg (by simpa using hname)]
      exact hus s' hs' hr'

theorem ite_ok_iff {ε α : Type} {p : Prop} [Decidable p] {e : ε} {a a' : α} :
    (if p then Except.ok a else .error e) = .ok a' ↔ p ∧ a' = a := by
  by_cases h : p
  · simp [h, eq_comm]
  · simp [h]

/-- A switch is taken in if it accepts its value and still may be given. -/
theorem Sound.add_eq_ok_iff (hb : b.Sound) (hs : s ∈ b.switches) {v : Option String} {w w' : Words}
    (hw : b.Admits w.given) :
    w.add s v = .ok w'
      ↔ s.Takes v ∧ b.Admits (⟨s.name, v⟩ :: w.given) ∧ w' = ⟨⟨s.name, v⟩ :: w.given, w.plain⟩ := by
  rw [hb.admits_cons_iff hs hw]
  unfold Words.add
  cases hs : s.accepts <;> cases v <;>
    simp [Switch.takes_none_iff, Switch.takes_some_iff, hs, List.countP_eq_zero, and_assoc,
      ite_ok_iff]

theorem Sound.add_eq_ok (hb : b.Sound) (hs : s ∈ b.switches) {v : Option String} {w : Words}
    (hv : s.Takes v) (hw : b.Admits (⟨s.name, v⟩ :: w.given)) :
    w.add s v = .ok ⟨⟨s.name, v⟩ :: w.given, w.plain⟩ :=
  (hb.add_eq_ok_iff hs (admits_of_cons hw)).mpr ⟨hv, hw, rfl⟩

/-! ## Reading switches -/

theorem accepts_isNone (hv : s.Takes none) : s.accepts.isNone = true := by
  rw [Switch.takes_none_iff.mp hv]
  rfl

theorem accepts_isSome {v : String} (hv : s.Takes (some v)) :
    s.accepts.isNone = false ∧ s.accepts.isSome = true := by
  obtain ⟨_, h, -⟩ := Switch.takes_some_iff.mp hv
  rw [h]
  exact ⟨rfl, rfl⟩

variable {cs : List Char} {words rest rest' : List String} {us : List Given} {w w' : Words}

/-- What letters give is read. -/
theorem Sound.short_of_letters (hb : b.Sound) (h : Letters b cs words us) :
    ∀ {w : Words}, b.Admits (us.reverse ++ w.given) →
      b.short (words ++ rest) cs w = .ok (⟨us.reverse ++ w.given, w.plain⟩, rest) := by
  induction h with
  | nil =>
      intro w _
      rfl
  | flag hs hc hv _ ih =>
      intro w hw
      rw [List.reverse_cons, List.append_assoc] at hw ⊢
      rw [short, hb.find?_letter hs hc]
      dsimp only
      rw [if_pos (accepts_isNone hv), hb.add_eq_ok hs hv (admits_of_append hw)]
      exact ih hw
  | attached hs hc hv hne hhead =>
      intro w hw
      rw [short, hb.find?_letter hs hc]
      simp [(accepts_isSome hv).1, hne, hhead, hb.add_eq_ok hs hv hw, Except.map]
  | equals hs hc hv =>
      intro w hw
      rw [short, hb.find?_letter hs hc]
      simp [(accepts_isSome hv).1, hb.add_eq_ok hs hv hw, Except.map]
  | apart hs hc hv hlook =>
      intro w hw
      rw [short, hb.find?_letter hs hc]
      simp [(accepts_isSome hv).1, hlook, hb.add_eq_ok hs hv hw, Except.map]

/-- A value that stands in the next word is no switch, and is taken in. -/
theorem next_eq_ok_iff :
    (match rest with
      | next :: rest =>
        if looksLikeSwitch next then Except.error Detour.misuse
        else (w.add s (some next)).map ((·, rest))
      | [] => .error .misuse) = .ok (w', rest')
      ↔ ∃ v, rest = v :: rest' ∧ looksLikeSwitch v = false ∧ w.add s (some v) = .ok w' := by
  cases rest with
  | nil => simp
  | cons v rest =>
      cases hlook : looksLikeSwitch v
      · cases hadd : w.add s (some v) <;> simp [hlook, hadd, Except.map, and_comm]
      · simp [hlook]

theorem map_rest_eq_ok_iff {x : Except Detour Words} :
    x.map ((·, rest)) = .ok (w', rest') ↔ x = .ok w' ∧ rest = rest' := by
  cases x <;> simp [Except.map]

/-- Letters that are read give what is taken in. -/
theorem Sound.letters_of_short (hb : b.Sound) (hw : b.Admits w.given)
    (h : b.short rest cs w = .ok (w', rest')) :
    ∃ words us, rest = words ++ rest' ∧ Letters b cs words us
      ∧ b.Admits (us.reverse ++ w.given) ∧ w' = ⟨us.reverse ++ w.given, w.plain⟩ := by
  induction cs generalizing w with
  | nil =>
      obtain ⟨rfl, rfl⟩ := Prod.mk.inj (Except.ok.inj h)
      exact ⟨[], [], rfl, .nil, hw, rfl⟩
  | cons c cs ih =>
      rw [short] at h
      split at h
      · exact nomatch h
      · rename_i s hfind
        have hs := List.mem_of_find?_eq_some hfind
        have hc : s.letter = some c := by simpa using List.find?_some hfind
        split at h
        · split at h
          · rename_i w₁ hadd
            obtain ⟨hv, hw₁, rfl⟩ := (hb.add_eq_ok_iff hs hw).mp hadd
            obtain ⟨words, us, rfl, hletters, hus, rfl⟩ := ih hw₁ h
            refine ⟨words, _, rfl, .flag hs hc hv hletters, ?_, ?_⟩
            · rwa [List.reverse_cons, List.append_assoc]
            · rw [List.reverse_cons, List.append_assoc]
              rfl
          · exact nomatch h
        · split at h
          · rename_i hcs
            obtain rfl := List.isEmpty_iff.mp hcs
            obtain ⟨v, rfl, hlook, hadd⟩ := next_eq_ok_iff.mp h
            obtain ⟨hv, hw₁, rfl⟩ := (hb.add_eq_ok_iff hs hw).mp hadd
            exact ⟨_, _, rfl, .apart hs hc hv hlook, hw₁, rfl⟩
          · rename_i hcs
            obtain ⟨hadd, rfl⟩ := map_rest_eq_ok_iff.mp h
            obtain ⟨hv, hw₁, rfl⟩ := (hb.add_eq_ok_iff hs hw).mp hadd
            refine ⟨[], [_], rfl, ?_, hw₁, rfl⟩
            by_cases hhead : cs.head? = some '='
            · obtain ⟨v, rfl⟩ : ∃ v, cs = '=' :: v := by
                cases cs <;> simp_all
              exact .equals hs hc hv
            · simp only [beq_iff_eq, hhead, if_false] at hv ⊢
              exact .attached hs hc hv (by simpa using hcs) hhead

theorem Sound.head_ne (hb : b.Sound) {c : Char} (h : Letters b (c :: cs) words us) : c ≠ '-' := by
  rintro rfl
  cases h with
  | flag hs hc => exact hb.undashed _ hs hc
  | attached hs hc => exact hb.undashed _ hs hc
  | equals hs hc => exact hb.undashed _ hs hc
  | apart hs hc => exact hb.undashed _ hs hc

/-! ## Words that are switches -/

theorem looksLikeSwitch_iff {word : String} :
    looksLikeSwitch word = true ↔ ∃ c cs, word.toList = '-' :: c :: cs := by
  rw [looksLikeSwitch, Bool.and_eq_true, String.startsWith_string_iff, bne_iff_ne, ne_eq,
    String.ext_iff]
  constructor
  · rintro ⟨⟨_ | ⟨c, cs⟩, h⟩, hne⟩
    · exact absurd h.symm hne
    · exact ⟨c, cs, h.symm⟩
  · rintro ⟨c, cs, h⟩
    rw [h]
    exact ⟨⟨c :: cs, rfl⟩, by simp⟩

theorem switch_letters {c : Char} (hc : c ≠ '-') :
    b.switch w (String.ofList ('-' :: c :: cs)) rest = b.short rest (c :: cs) w := by
  rw [switch, String.toList_ofList]
  split <;> simp_all

theorem switch_dashes {word : String} (h : word.toList = '-' :: '-' :: cs) :
    b.switch w word rest
      = b.long w (String.ofList (cs.takeWhile (· != '=')))
        (if (cs.takeWhile (· != '=')).length < cs.length then
          some (String.ofList (cs.drop ((cs.takeWhile (· != '=')).length + 1)))
        else none) rest := by
  rw [switch, h]
  rfl

theorem switch_name {name : String} (hname : '=' ∉ name.toList) :
    b.switch w ("--" ++ name) rest = b.long w name none rest := by
  have hword : ("--" ++ name).toList = '-' :: '-' :: name.toList := by
    rw [String.toList_append]
    rfl
  rw [switch_dashes hword, Text.takeWhile_bne_of_notMem hname, if_neg (Nat.lt_irrefl _),
    String.ofList_toList]

theorem switch_equals {name v : String} (hname : '=' ∉ name.toList) :
    b.switch w ("--" ++ name ++ "=" ++ v) rest = b.long w name (some v) rest := by
  have hword : ("--" ++ name ++ "=" ++ v).toList
      = '-' :: '-' :: (name.toList ++ '=' :: v.toList) := by
    simp only [String.toList_append, List.append_assoc]
    rfl
  have hlt : name.toList.length < (name.toList ++ '=' :: v.toList).length := by simp
  rw [switch_dashes hword, Text.takeWhile_bne_append hname, if_pos hlt, List.drop_length_add_append,
    List.drop_succ_cons, List.drop_zero, String.ofList_toList, String.ofList_toList]

/-- A word that is a switch begins with letters or with a name. -/
theorem exists_spelled {word : String} (h : looksLikeSwitch word = true) :
    (∃ c cs, c ≠ '-' ∧ word = String.ofList ('-' :: c :: cs))
      ∨ (∃ name, '=' ∉ name.toList ∧ word = "--" ++ name)
      ∨ ∃ name v, '=' ∉ name.toList ∧ word = "--" ++ name ++ "=" ++ v := by
  obtain ⟨c, cs, hword⟩ := looksLikeSwitch_iff.mp h
  by_cases hc : c = '-'
  · subst hc
    by_cases hmem : '=' ∈ cs
    · obtain ⟨front, back, rfl, hfront⟩ := List.eq_append_cons_of_mem hmem
      refine .inr (.inr ⟨String.ofList front, String.ofList back, ?_, ?_⟩)
      · rwa [String.toList_ofList]
      · rw [String.ext_iff, hword]
        simp
    · refine .inr (.inl ⟨String.ofList cs, ?_, ?_⟩)
      · rwa [String.toList_ofList]
      · rw [String.ext_iff, hword]
        simp
  · refine .inl ⟨c, cs, hc, ?_⟩
    rw [← hword, String.ofList_toList]

theorem Sound.long_eq (hb : b.Sound) (hs : s ∈ b.switches) (attached : Option String) :
    b.long w s.name attached rest
      = if s.accepts.isSome && attached.isNone then
          match rest with
          | next :: rest =>
            if looksLikeSwitch next then Except.error Detour.misuse
            else (w.add s (some next)).map ((·, rest))
          | [] => .error .misuse
        else (w.add s attached).map ((·, rest)) := by
  have hfound := hb.find?_name hs
  unfold long
  generalize b.switches.find? (·.name == s.name) = found at hfound ⊢
  obtain rfl := hfound
  rfl

/-- A name that is read is that of a switch, which is taken in with what stands behind an equals
sign or with the next word. -/
theorem add_of_long {name : String} {attached : Option String}
    (h : b.long w name attached rest = .ok (w', rest')) :
    ∃ s ∈ b.switches, s.name = name ∧ (w.add s attached = .ok w' ∧ rest = rest'
      ∨ attached = none ∧ ∃ v, rest = v :: rest' ∧ looksLikeSwitch v = false
        ∧ w.add s (some v) = .ok w') := by
  unfold long at h
  split at h
  · split at h <;> exact nomatch h
  · rename_i s hfind
    refine ⟨s, List.mem_of_find?_eq_some hfind, by simpa using List.find?_some hfind, ?_⟩
    split at h
    · rename_i hnext
      rw [Bool.and_eq_true, Option.isNone_iff_eq_none] at hnext
      exact .inr ⟨hnext.2, next_eq_ok_iff.mp h⟩
    · exact .inl (map_rest_eq_ok_iff.mp h)

theorem looksLikeSwitch_dashes (name : String) : looksLikeSwitch ("--" ++ name) = true :=
  looksLikeSwitch_iff.mpr ⟨'-', name.toList, by rw [String.toList_append]; rfl⟩

theorem dashes_ne {name : String} (h : name ≠ "") : "--" ++ name ≠ "--" := by
  intro he
  have hlength := congrArg String.length he
  rw [String.length_append] at hlength
  exact h (String.length_eq_zero_iff.mp (by simpa using hlength))

/-- A switch that is spelled is read. -/
theorem Sound.switch_of_spelling (hb : b.Sound) {front : List String} (rest : List String)
    (h : Spelling b front us) (hw : b.Admits (us.reverse ++ w.given)) :
    ∃ word words, front = word :: words ∧ looksLikeSwitch word = true ∧ word ≠ "--"
      ∧ b.switch w word (words ++ rest) = .ok (⟨us.reverse ++ w.given, w.plain⟩, rest) := by
  cases h with
  | flag hs hv =>
      refine ⟨_, _, rfl, looksLikeSwitch_dashes _, dashes_ne (hb.unempty _ hs), ?_⟩
      rw [switch_name (hb.unbroken _ hs), hb.long_eq hs]
      simp [Switch.takes_none_iff.mp hv, hb.add_eq_ok hs hv hw, Except.map]
  | @equals s v hs hv =>
      refine ⟨_, _, rfl, ?_, ?_, ?_⟩
      · rw [String.append_assoc, String.append_assoc]
        exact looksLikeSwitch_dashes _
      · rw [String.append_assoc, String.append_assoc]
        exact dashes_ne (by simp)
      · rw [switch_equals (hb.unbroken _ hs), hb.long_eq hs]
        simp [hb.add_eq_ok hs hv hw, Except.map]
  | apart hs hv hlook =>
      refine ⟨_, _, rfl, looksLikeSwitch_dashes _, dashes_ne (hb.unempty _ hs), ?_⟩
      rw [switch_name (hb.unbroken _ hs), hb.long_eq hs]
      simp [(accepts_isSome hv).2, hlook, hb.add_eq_ok hs hv hw, Except.map]
  | @letters c cs words us hletters =>
      have hc : c ≠ '-' := hb.head_ne hletters
      refine ⟨_, _, rfl, looksLikeSwitch_iff.mpr ⟨c, cs, String.toList_ofList⟩, ?_, ?_⟩
      · intro he
        have hchars := congrArg String.toList he
        rw [String.toList_ofList] at hchars
        exact hc (List.cons.inj (List.cons.inj hchars).2).1
      · rw [switch_letters hc]
        exact hb.short_of_letters hletters hw

/-- A word that is read as a switch spells it, with the next words if need be. -/
theorem Sound.spelling_of_switch (hb : b.Sound) (hw : b.Admits w.given) {word : String}
    (hlook : looksLikeSwitch word = true) (h : b.switch w word rest = .ok (w', rest')) :
    ∃ front us, word :: rest = front ++ rest' ∧ Spelling b front us
      ∧ b.Admits (us.reverse ++ w.given) ∧ w' = ⟨us.reverse ++ w.given, w.plain⟩ := by
  rcases exists_spelled hlook with ⟨c, cs, hc, rfl⟩ | ⟨name, hname, rfl⟩ | ⟨name, v, hname, rfl⟩
  · rw [switch_letters hc] at h
    obtain ⟨words, us, rfl, hletters, hus, rfl⟩ := hb.letters_of_short hw h
    exact ⟨_, us, rfl, .letters hletters, hus, rfl⟩
  · rw [switch_name hname] at h
    obtain ⟨s, hs, rfl, ⟨hadd, rfl⟩ | ⟨-, v, rfl, hlook, hadd⟩⟩ := add_of_long h
    · obtain ⟨hv, hus, rfl⟩ := (hb.add_eq_ok_iff hs hw).mp hadd
      exact ⟨_, [_], rfl, .flag hs hv, hus, rfl⟩
    · obtain ⟨hv, hus, rfl⟩ := (hb.add_eq_ok_iff hs hw).mp hadd
      exact ⟨_, [_], rfl, .apart hs hv hlook, hus, rfl⟩
  · rw [switch_equals hname] at h
    obtain ⟨s, hs, rfl, ⟨hadd, rfl⟩ | ⟨hnone, -⟩⟩ := add_of_long h
    · obtain ⟨hv, hus, rfl⟩ := (hb.add_eq_ok_iff hs hw).mp hadd
      exact ⟨_, [_], rfl, .equals hs hv, hus, rfl⟩
    · exact nomatch hnone

/-! ## Reading lines -/

variable {plain : List String}

/-- Words that are no switches are taken in as long as there are places for them. -/
theorem addPlain_eq_ok_iff (hplaces : w.plain.length ≤ b.places) :
    b.addPlain plain w = .ok w'
      ↔ (∀ word ∈ plain, word ≠ "") ∧ plain.length + w.plain.length ≤ b.places
        ∧ w' = ⟨w.given, plain.reverse ++ w.plain⟩ := by
  induction plain generalizing w with
  | nil => simp [addPlain, hplaces, eq_comm]
  | cons word plain ih =>
      rw [addPlain]
      by_cases hfits : w.plain.length < b.places ∧ word ≠ ""
      · rw [if_pos (by simpa using hfits), ih (w := ⟨w.given, word :: w.plain⟩) hfits.1]
        simp [hfits.2, Nat.add_assoc, Nat.add_comm 1]
      · rw [if_neg (by simpa using hfits)]
        refine ⟨(nomatch ·), fun ⟨hne, hlength, _⟩ => ?_⟩
        rw [List.length_cons] at hlength
        exact absurd ⟨by omega, hne word List.mem_cons_self⟩ hfits

theorem ne_dashes {word : String} (h : looksLikeSwitch word = false) : ¬(word == "--") = true := by
  intro hword
  obtain rfl : word = "--" := by simpa using hword
  have hlook : looksLikeSwitch "--" = true := looksLikeSwitch_dashes ""
  exact nomatch hlook.symm.trans h

/-- What a line gives is read. -/
theorem Sound.read_of_line (hb : b.Sound) (h : Line b words us plain rest) :
    ∀ {fuel : Nat} {w : Words}, words.length < fuel → b.Admits (us.reverse ++ w.given) →
      plain.length + w.plain.length ≤ b.places →
      b.read fuel w words = .ok (⟨us.reverse ++ w.given, plain.reverse ++ w.plain⟩, rest) := by
  induction h with
  | nil =>
      intro fuel w hfuel _ _
      obtain ⟨fuel, rfl⟩ := Nat.exists_eq_succ_of_ne_zero (Nat.ne_zero_of_lt hfuel)
      rfl
  | command hfront hlook =>
      intro fuel w hfuel _ _
      obtain ⟨fuel, rfl⟩ := Nat.exists_eq_succ_of_ne_zero (Nat.ne_zero_of_lt hfuel)
      rw [read, if_neg (ne_dashes hlook), if_neg (by simp [hlook]), if_pos hfront]
      rfl
  | @dashes plain hne =>
      intro fuel w hfuel _ hlength
      obtain ⟨fuel, rfl⟩ := Nat.exists_eq_succ_of_ne_zero (Nat.ne_zero_of_lt hfuel)
      have hplaces : w.plain.length ≤ b.places := Nat.le_trans (Nat.le_add_left _ _) hlength
      rw [read, if_pos BEq.rfl, (addPlain_eq_ok_iff hplaces).mpr ⟨hne, hlength, rfl⟩]
      rfl
  | @plain word words plain rest us hfront hlook hne _ ih =>
      intro fuel w hfuel hw hlength
      obtain ⟨fuel, rfl⟩ := Nat.exists_eq_succ_of_ne_zero (Nat.ne_zero_of_lt hfuel)
      rw [List.length_cons] at hlength
      have hplaces : w.plain.length ≤ b.places := by omega
      have hadd : b.addPlain [word] w = .ok ⟨w.given, word :: w.plain⟩ :=
        (addPlain_eq_ok_iff hplaces).mpr ⟨by simpa using hne, by simp; omega, rfl⟩
      rw [read, if_neg (ne_dashes hlook), if_neg (by simp [hlook]), if_neg (by simp [hfront]), hadd,
        List.reverse_cons, List.append_assoc]
      refine ih (w := ⟨w.given, word :: w.plain⟩) (Nat.lt_of_succ_lt_succ hfuel) hw ?_
      rw [List.length_cons]
      omega
  | @switch front words plain rest us us' hspelling _ ih =>
      intro fuel w hfuel hw hlength
      obtain ⟨fuel, rfl⟩ := Nat.exists_eq_succ_of_ne_zero (Nat.ne_zero_of_lt hfuel)
      rw [List.reverse_append, List.append_assoc] at hw ⊢
      obtain ⟨word, words', rfl, hlook, hne, hswitch⟩ :=
        hb.switch_of_spelling words hspelling (admits_of_append hw)
      rw [List.cons_append, read, if_neg (by simpa using hne), if_pos hlook, hswitch]
      exact ih (by simp at hfuel; omega) hw hlength

/-- What one step of reading can do with a word. -/
theorem read_cases {fuel : Nat} {word : String}
    (h : b.read (fuel + 1) w (word :: words) = .ok (w', rest)) :
    word = "--" ∧ rest = [] ∧ b.addPlain words w = .ok w'
      ∨ looksLikeSwitch word = true ∧ (∃ w₁ words₁, b.switch w word words = .ok (w₁, words₁)
        ∧ b.read fuel w₁ words₁ = .ok (w', rest))
      ∨ looksLikeSwitch word = false ∧ b.isFront = true ∧ w = w' ∧ word :: words = rest
      ∨ looksLikeSwitch word = false ∧ b.isFront = false ∧ ∃ w₁, b.addPlain [word] w = .ok w₁
        ∧ b.read fuel w₁ words = .ok (w', rest) := by
  rw [read] at h
  split at h
  · rename_i hword
    obtain ⟨hadd, hrest⟩ := map_rest_eq_ok_iff.mp h
    exact .inl ⟨by simpa using hword, hrest.symm, hadd⟩
  · split at h
    · rename_i hlook
      split at h
      · exact nomatch h
      · rename_i hswitch
        exact .inr (.inl ⟨hlook, _, _, hswitch, h⟩)
    · rename_i hlook
      have hlook : looksLikeSwitch word = false := by simpa using hlook
      split at h
      · rename_i hfront
        obtain ⟨hw, hrest⟩ := Prod.mk.inj (Except.ok.inj h)
        exact .inr (.inr (.inl ⟨hlook, hfront, hw, hrest⟩))
      · rename_i hfront
        split at h
        · exact nomatch h
        · rename_i hadd
          exact .inr (.inr (.inr ⟨hlook, by simpa using hfront, _, hadd, h⟩))

/-- Words that are read are a line. -/
theorem Sound.line_of_read (hb : b.Sound) {fuel : Nat} (hw : b.Admits w.given)
    (hplaces : w.plain.length ≤ b.places) (h : b.read fuel w words = .ok (w', rest)) :
    ∃ us plain, Line b words us plain rest ∧ b.Admits (us.reverse ++ w.given)
      ∧ plain.length + w.plain.length ≤ b.places
      ∧ w' = ⟨us.reverse ++ w.given, plain.reverse ++ w.plain⟩ := by
  have hnone : ([] : List String).length + w.plain.length ≤ b.places := by simpa using hplaces
  induction fuel generalizing w words with
  | zero => exact nomatch h
  | succ fuel ih =>
      cases words with
      | nil =>
          obtain ⟨rfl, rfl⟩ := Prod.mk.inj (Except.ok.inj h)
          exact ⟨[], [], .nil, hw, hnone, rfl⟩
      | cons word words =>
          rcases read_cases h with ⟨rfl, rfl, hadd⟩ | ⟨hlook, w₁, words₁, hswitch, hread⟩
            | ⟨hlook, hfront, rfl, rfl⟩ | ⟨hlook, hfront, w₁, hadd, hread⟩
          · obtain ⟨hne, hlength, rfl⟩ := (addPlain_eq_ok_iff hplaces).mp hadd
            exact ⟨[], _, .dashes hne, hw, hlength, rfl⟩
          · obtain ⟨front, us, hfront, hspelling, hus, rfl⟩ :=
              hb.spelling_of_switch hw hlook hswitch
            obtain ⟨us', plain, hline, hus', hlength, rfl⟩ :=
              ih (w := ⟨us.reverse ++ w.given, w.plain⟩) hus hplaces hread hnone
            refine ⟨us ++ us', plain, hfront ▸ .switch hspelling hline, ?_, hlength, ?_⟩
            · rwa [List.reverse_append, List.append_assoc]
            · rw [List.reverse_append, List.append_assoc]
          · exact ⟨[], [], .command hfront hlook, hw, hnone, rfl⟩
          · obtain ⟨hne, hlength, rfl⟩ := (addPlain_eq_ok_iff hplaces).mp hadd
            rw [List.length_singleton, Nat.add_comm] at hlength
            obtain ⟨us, plain, hline, hus, hlength', rfl⟩ :=
              ih (w := ⟨w.given, word :: w.plain⟩) hw hlength hread (by simpa using hlength)
            refine ⟨us, word :: plain, .plain hfront hlook (hne word List.mem_cons_self) hline, hus,
              ?_, ?_⟩
            · rw [List.length_cons] at hlength' ⊢
              omega
            · rw [List.reverse_cons, List.append_assoc]
              rfl

/-- **Reading is exact.** Words are read if they are a line with a place for each of its other
words, on which no switch stands twice that may stand only once; and what is read is what the line
gives. -/
theorem Sound.read_eq_ok_iff (hb : b.Sound) {fuel : Nat} (hfuel : words.length < fuel) :
    b.read fuel .none words = .ok (w, rest)
      ↔ ∃ us plain, Line b words us plain rest ∧ b.Admits us ∧ plain.length ≤ b.places
        ∧ w = ⟨us.reverse, plain.reverse⟩ := by
  have hnone : b.Admits Words.none.given := fun _ _ _ => Nat.zero_le 1
  constructor
  · intro h
    obtain ⟨us, plain, hline, hus, hplaces, rfl⟩ := hb.line_of_read hnone (Nat.zero_le _) h
    rw [Words.none, List.append_nil] at hus
    refine ⟨us, plain, hline, admits_reverse_iff.mp hus, hplaces, ?_⟩
    rw [Words.none, List.append_nil, List.append_nil]
  · rintro ⟨us, plain, hline, hus, hplaces, rfl⟩
    have hread := hb.read_of_line hline (w := .none) hfuel
      (by rw [Words.none, List.append_nil]; exact admits_reverse_iff.mpr hus) hplaces
    rwa [Words.none, List.append_nil, List.append_nil] at hread

end

end Switchboard

end Daybook.Command
