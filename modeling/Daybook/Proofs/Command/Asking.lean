import Daybook.Proofs.Command.Spelling
import Daybook.Proofs.Success
import Mathlib.Data.List.Perm.Basic

/-!
# What command lines ask for

A command line names a command and gives it switches (`Asks`). Which day is rendered, and how, is
told by the switches that are given (`RenderOptions`), whatever their order and however they are
spelled. A command line makes a request for rendering exactly if it gives the switches for it
(`ofWords_eq_render_iff`), and a request for checking exactly if it names a view and perhaps asks
for strictness (`ofWords_eq_check_iff`).
-/

namespace Daybook.Command

open Daybook.Calendar Switchboard

/-- A switch without a value, if it is given. -/
def flagGiven (name : String) (isGiven : Bool) : List Given :=
  if isGiven then [⟨name, none⟩] else []

/-- A switch with a value, if it is given one. -/
def valueGiven (name : String) (value : Option String) : List Given :=
  value.toList.map (⟨name, some ·⟩)

/-- Whether words name a command and give it switches, in any order, and other words. How often more
messages are asked for does not matter. -/
def Asks (words : List String) (name : String) (b : Switchboard) (given : List Given)
    (plain : List String) : Prop :=
  ∃ front rest us, programBoard.Line words front [] (name :: rest) ∧ b.Line rest us plain []
    ∧ (us.filter (·.name != "verbose")).Perm given

/-- What can be asked of the command that renders a day, as it is spelled. -/
structure RenderOptions where
  view : String
  events : String
  date : Option String
  now : Option String
  output : Option String
  strict : Bool
  noLinks : Bool

namespace RenderOptions

/-- The switches that ask for it. -/
def given (o : RenderOptions) : List Given :=
  [⟨"view", some o.view⟩, ⟨"events", some o.events⟩] ++ valueGiven "date" o.date
    ++ valueGiven "now" o.now ++ valueGiven "output" o.output ++ flagGiven "strict" o.strict
    ++ flagGiven "no-links" o.noLinks

/-- The request that it makes: strict only if that is given, and with links unless that is. -/
def request (o : RenderOptions) : RenderRequest where
  view := o.view
  events := o.events
  day := o.date.bind readDate?
  now := o.now.bind readInstant?
  output := o.output
  policy := ⟨o.strict, !o.noLinks⟩

/-- Whether a command line asks for rendering with these options. -/
def AskedBy (o : RenderOptions) (words : List String) : Prop :=
  Asks words "render" renderBoard o.given []

end RenderOptions

/-- Whether a command line asks for checking a view, strictly or not. -/
def AsksCheck (words : List String) (view : String) (strict : Bool) : Prop :=
  Asks words "check" checkBoard (flagGiven "strict" strict) [view]

/-! ## Boards -/

theorem programBoard_sound : programBoard.Sound := by
  constructor <;> simp [programBoard, verbose]

theorem checkBoard_sound : checkBoard.Sound := by
  constructor <;> simp [checkBoard, verbose, Switch.flag]

theorem renderBoard_sound : renderBoard.Sound := by
  constructor <;> simp [renderBoard, verbose, Switch.flag, Switch.option]

theorem feedUrlBoard_sound : feedUrlBoard.Sound := by
  constructor <;> simp [feedUrlBoard, verbose, Switch.option]

section

variable {b : Switchboard} {cs : List Char} {words plain rest : List String} {us : List Given}
  {u : Given}

/-- Whether a board has a switch that can be given so. -/
def Switchboard.Has (b : Switchboard) (u : Given) : Prop :=
  ∃ s ∈ b.switches, s.name = u.name ∧ s.Takes u.value

theorem has_of_letters (h : Letters b cs words us) : ∀ u ∈ us, b.Has u := by
  induction h with
  | nil => exact fun u hu => nomatch hu
  | flag hs _ hv _ ih => exact List.forall_mem_cons.mpr ⟨⟨_, hs, rfl, hv⟩, ih⟩
  | attached hs _ hv => exact List.forall_mem_singleton.mpr ⟨_, hs, rfl, hv⟩
  | equals hs _ hv => exact List.forall_mem_singleton.mpr ⟨_, hs, rfl, hv⟩
  | apart hs _ hv => exact List.forall_mem_singleton.mpr ⟨_, hs, rfl, hv⟩

theorem has_of_spelling (h : Spelling b words us) : ∀ u ∈ us, b.Has u := by
  cases h with
  | flag hs hv => exact List.forall_mem_singleton.mpr ⟨_, hs, rfl, hv⟩
  | equals hs hv => exact List.forall_mem_singleton.mpr ⟨_, hs, rfl, hv⟩
  | apart hs hv => exact List.forall_mem_singleton.mpr ⟨_, hs, rfl, hv⟩
  | letters hletters => exact has_of_letters hletters

/-- A line gives only switches of its board. -/
theorem has_of_line (h : Line b words us plain rest) : ∀ u ∈ us, b.Has u := by
  induction h with
  | nil => exact fun u hu => nomatch hu
  | command => exact fun u hu => nomatch hu
  | dashes => exact fun u hu => nomatch hu
  | plain _ _ _ _ ih => exact ih
  | switch hspelling _ ih => exact List.forall_mem_append.mpr ⟨has_of_spelling hspelling, ih⟩

/-- Only a board for the front leaves words to others. -/
theorem rest_eq_nil (hb : b.isFront = false) (h : Line b words us plain rest) : rest = [] := by
  induction h with
  | nil => rfl
  | command hfront => exact nomatch hb.symm.trans hfront
  | dashes => rfl
  | plain _ _ _ _ ih => exact ih
  | switch _ _ ih => exact ih

end

/-! ## Looking switches up -/

section

variable {given : List Given} {plain : List String} {name : String}

@[simp] theorem mem_flagGiven {isGiven : Bool} {u : Given} :
    u ∈ flagGiven name isGiven ↔ isGiven = true ∧ u = ⟨name, none⟩ := by
  cases isGiven <;> simp [flagGiven]

@[simp] theorem mem_valueGiven {value : Option String} {u : Given} :
    u ∈ valueGiven name value ↔ ∃ v, value = some v ∧ u = ⟨name, some v⟩ := by
  cases value <;> simp [valueGiven]

theorem has_eq {isGiven : Bool}
    (h : ∀ v, ⟨name, v⟩ ∈ given ↔ isGiven = true ∧ v = none) :
    Words.has ⟨given, plain⟩ name = isGiven := by
  rw [Bool.eq_iff_iff, Words.has, List.any_eq_true]
  constructor
  · rintro ⟨u, hu, hname⟩
    obtain rfl : u.name = name := by simpa using hname
    exact ((h u.value).mp hu).1
  · intro hgiven
    exact ⟨_, (h none).mpr ⟨hgiven, rfl⟩, BEq.rfl⟩

theorem value?_eq {value : Option String}
    (h : ∀ v, ⟨name, v⟩ ∈ given ↔ ∃ v', value = some v' ∧ v = some v') :
    Words.value? ⟨given, plain⟩ name = value := by
  rw [Words.value?]
  cases hfind : given.find? (·.name == name) with
  | none =>
      cases hvalue : value with
      | none => rfl
      | some v =>
          have hmem := (h (some v)).mpr ⟨v, hvalue, rfl⟩
          exact absurd BEq.rfl (List.find?_eq_none.mp hfind _ hmem)
  | some u =>
      obtain rfl : u.name = name := by simpa using List.find?_some hfind
      obtain ⟨v, rfl, hv⟩ := (h u.value).mp (List.mem_of_find?_eq_some hfind)
      exact hv

end

/-! ## Switches that are given once -/

/-- Whether only the switch for more messages may be given more than once. -/
def Switchboard.OnlyVerboseRepeats (b : Switchboard) : Prop :=
  ∀ s ∈ b.switches, s.repeats = true ↔ s.name = "verbose"

/-- What was given with a switch. -/
def Words.setting (w : Words) (s : Switch) : List Given :=
  if s.accepts.isNone then flagGiven s.name (w.has s.name) else valueGiven s.name (w.value? s.name)

section

variable {b : Switchboard} {us given : List Given} {plain : List String} {s : Switch}

theorem eq_of_countP_le_one {α : Type} {p : α → Bool} {as : List α} (h : as.countP p ≤ 1) {a a' : α}
    (ha : a ∈ as) (hp : p a = true) (ha' : a' ∈ as) (hp' : p a' = true) : a = a' := by
  have hmem : a ∈ as.filter p := List.mem_filter.mpr ⟨ha, hp⟩
  have hmem' : a' ∈ as.filter p := List.mem_filter.mpr ⟨ha', hp'⟩
  rw [List.countP_eq_length_filter] at h
  match hfilter : as.filter p with
  | [] => exact nomatch hfilter ▸ hmem
  | [_] =>
      rw [hfilter, List.mem_singleton] at hmem hmem'
      exact hmem.trans hmem'.symm
  | _ :: _ :: _ =>
      rw [hfilter, List.length_cons, List.length_cons] at h
      omega

theorem takes_of_mem (hb : b.Sound) (hhas : ∀ u ∈ us, b.Has u) (hs : s ∈ b.switches) {u : Given}
    (hu : u ∈ us) (hname : u.name = s.name) : s.Takes u.value := by
  obtain ⟨s', hs', hname', hv⟩ := hhas u hu
  obtain rfl := List.inj_on_of_nodup_map hb.names hs' hs (hname'.trans hname)
  exact hv

/-- What was given with a switch is what was given under its name. -/
theorem mem_setting_iff (hb : b.Sound) (hus : b.Admits us) (hhas : ∀ u ∈ us, b.Has u)
    (hs : s ∈ b.switches) (hr : s.repeats = false) {u : Given} :
    u ∈ Words.setting ⟨us.reverse, plain⟩ s ↔ u ∈ us ∧ u.name = s.name := by
  have htakes : ∀ {u}, u ∈ us → u.name = s.name → s.Takes u.value := takes_of_mem hb hhas hs
  cases haccepts : s.accepts with
  | none =>
      have hnone : ∀ {u}, u ∈ us → u.name = s.name → u = ⟨s.name, none⟩ := by
        rintro ⟨name, v⟩ hu rfl
        cases v with
        | none => rfl
        | some v =>
            obtain ⟨_, h, -⟩ := Switch.takes_some_iff.mp (htakes hu rfl)
            exact nomatch haccepts.symm.trans h
      rw [Words.setting, haccepts, Option.isNone_none, if_pos rfl, mem_flagGiven, Words.has,
        List.any_reverse, List.any_eq_true]
      constructor
      · rintro ⟨⟨u', hu', hname⟩, rfl⟩
        obtain rfl := hnone hu' (by simpa using hname)
        exact ⟨hu', rfl⟩
      · rintro ⟨hu, hname⟩
        exact ⟨⟨u, hu, by simpa using hname⟩, hnone hu hname⟩
  | some accepts =>
      rw [Words.setting, haccepts, Option.isNone_some, if_neg Bool.false_ne_true, mem_valueGiven,
        Words.value?]
      constructor
      · rintro ⟨v, hvalue, rfl⟩
        obtain ⟨⟨name, value⟩, hfind, rfl⟩ := Option.bind_eq_some_iff.mp hvalue
        obtain rfl : name = s.name := by simpa using List.find?_some hfind
        exact ⟨List.mem_reverse.mp (List.mem_of_find?_eq_some hfind), rfl⟩
      · rintro ⟨hu, hname⟩
        obtain ⟨v, hv⟩ : ∃ v, u.value = some v := by
          cases hv : u.value with
          | none =>
              have h := Switch.takes_none_iff.mp (hv ▸ htakes hu hname)
              exact nomatch haccepts.symm.trans h
          | some v => exact ⟨v, rfl⟩
        have hmatches : (u.name == s.name) = true := by simpa using hname
        obtain ⟨u', hfind⟩ : ∃ u', us.reverse.find? (·.name == s.name) = some u' :=
          Option.isSome_iff_exists.mp
            (List.find?_isSome.mpr ⟨u, List.mem_reverse.mpr hu, hmatches⟩)
        obtain rfl : u' = u :=
          eq_of_countP_le_one (hus s hs hr) (List.mem_reverse.mp (List.mem_of_find?_eq_some hfind))
            (by simpa using List.find?_some hfind) hu hmatches
        refine ⟨v, ?_, ?_⟩
        · rw [hfind]
          exact hv
        · rw [← hname, ← hv]

theorem name_of_mem_setting {w : Words} {u : Given} (hu : u ∈ w.setting s) : u.name = s.name := by
  rw [Words.setting] at hu
  split at hu
  · obtain ⟨-, rfl⟩ := mem_flagGiven.mp hu
    rfl
  · obtain ⟨_, -, rfl⟩ := mem_valueGiven.mp hu
    rfl

theorem nodup_setting {w : Words} : (w.setting s).Nodup := by
  rw [Words.setting]
  split
  · cases w.has s.name <;> simp [flagGiven]
  · cases w.value? s.name <;> simp [valueGiven]

/-- What was given, apart from the switch for more messages, is what was given with each of the
others. -/
theorem perm_settings (plain : List String) (hb : b.Sound) (hverbose : b.OnlyVerboseRepeats)
    (hus : b.Admits us) (hhas : ∀ u ∈ us, b.Has u) :
    (us.filter (·.name != "verbose")).Perm
      ((b.switches.filter (!·.repeats)).flatMap (Words.setting ⟨us.reverse, plain⟩)) := by
  have honce : ∀ u ∈ us, u.name ≠ "verbose" →
      ∃ s ∈ b.switches, s.repeats = false ∧ s.name = u.name := by
    intro u hu hname
    obtain ⟨s, hs, hsname, -⟩ := hhas u hu
    refine ⟨s, hs, ?_, hsname⟩
    rw [← Bool.not_eq_true, hverbose s hs, hsname]
    exact hname
  have hnames : b.switches.Pairwise (·.name ≠ ·.name) := List.pairwise_map.mp hb.names
  rw [List.perm_ext_iff_of_nodup]
  · intro u
    rw [List.mem_filter, bne_iff_ne, List.mem_flatMap]
    constructor
    · rintro ⟨hu, hname⟩
      obtain ⟨s, hs, hr, hsname⟩ := honce u hu hname
      exact ⟨s, List.mem_filter.mpr ⟨hs, by simpa using hr⟩,
        (mem_setting_iff hb hus hhas hs hr).mpr ⟨hu, hsname.symm⟩⟩
    · rintro ⟨s, hs, hu⟩
      obtain ⟨hs, hr⟩ := List.mem_filter.mp hs
      obtain ⟨hu, hname⟩ := (mem_setting_iff hb hus hhas hs (by simpa using hr)).mp hu
      refine ⟨hu, ?_⟩
      rw [hname, ne_eq, ← hverbose s hs]
      simpa using hr
  · refine List.nodup_iff_count_le_one.mpr fun u => ?_
    by_cases hu : u ∈ us.filter (·.name != "verbose")
    · obtain ⟨hu, hname⟩ := List.mem_filter.mp hu
      obtain ⟨s, hs, hr, hsname⟩ := honce u hu (by simpa using hname)
      refine Nat.le_trans List.filter_sublist.countP_le (Nat.le_trans ?_ (hus s hs hr))
      refine List.countP_mono_left fun u' _ hu' => ?_
      rw [hsname, beq_iff_eq.mp hu', beq_self_eq_true]
    · rw [List.count_eq_zero.mpr hu]
      exact Nat.zero_le 1
  · refine List.nodup_flatMap.mpr ⟨fun s _ => nodup_setting, ?_⟩
    refine (hnames.sublist List.filter_sublist).imp fun hne u hu hu' => hne ?_
    exact (name_of_mem_setting hu).symm.trans (name_of_mem_setting hu')

theorem mem_iff_of_perm (hperm : (us.filter (·.name != "verbose")).Perm given) {name : String}
    {v : Option String} (hname : name ≠ "verbose") :
    ⟨name, v⟩ ∈ us.reverse ↔ ⟨name, v⟩ ∈ given := by
  rw [← hperm.mem_iff, List.mem_filter, List.mem_reverse]
  simp [hname]

theorem admits_of_perm (hverbose : b.OnlyVerboseRepeats) (hgiven : (given.map (·.name)).Nodup)
    (hperm : (us.filter (·.name != "verbose")).Perm given) : b.Admits us := by
  intro s hs hr
  have hname : s.name ≠ "verbose" := by
    rw [ne_eq, ← hverbose s hs, hr]
    exact Bool.false_ne_true
  calc us.countP (·.name == s.name)
    _ = (us.filter (·.name != "verbose")).countP (·.name == s.name) := by
        rw [List.countP_filter]
        refine List.countP_congr fun u _ => ?_
        rw [Bool.and_eq_true, bne_iff_ne, beq_iff_eq]
        exact (and_iff_left_of_imp fun hu => hu ▸ hname).symm
    _ = given.countP (·.name == s.name) := hperm.countP_eq _
    _ = (given.map (·.name)).count s.name := by
        rw [List.count, List.countP_map]
        rfl
    _ ≤ 1 := List.nodup_iff_count_le_one.mp hgiven _

end

/-! ## Command lines -/

theorem checkBoard_onlyVerboseRepeats : checkBoard.OnlyVerboseRepeats := by
  simp [Switchboard.OnlyVerboseRepeats, checkBoard, verbose, Switch.flag]

theorem renderBoard_onlyVerboseRepeats : renderBoard.OnlyVerboseRepeats := by
  simp [Switchboard.OnlyVerboseRepeats, renderBoard, verbose, Switch.flag, Switch.option]

theorem form?_cases {name : String} {f : Form} (h : form? name = some f) :
    name = "check" ∧ f = ⟨checkBoard, checkRequest⟩
      ∨ name = "render" ∧ f = ⟨renderBoard, renderRequest⟩
      ∨ name = "feed-url" ∧ f = ⟨feedUrlBoard, feedUrlRequest⟩ := by
  unfold form? at h
  split at h
  · exact .inl ⟨rfl, (Option.some.inj h).symm⟩
  · exact .inr (.inl ⟨rfl, (Option.some.inj h).symm⟩)
  · exact .inr (.inr ⟨rfl, (Option.some.inj h).symm⟩)
  · exact nomatch h

/-- The boards behind a command can be read by, and leave no words to others. -/
theorem form?_sound {name : String} {f : Form} (h : form? name = some f) :
    f.board.Sound ∧ f.board.isFront = false := by
  obtain ⟨-, rfl⟩ | ⟨-, rfl⟩ | ⟨-, rfl⟩ := form?_cases h
  · exact ⟨checkBoard_sound, rfl⟩
  · exact ⟨renderBoard_sound, rfl⟩
  · exact ⟨feedUrlBoard_sound, rfl⟩

theorem checkRequest_eq_ok_iff {w : Words} {request : Request} :
    checkRequest w = .ok request
      ↔ ∃ view, w.plain = [view] ∧ request = .check view (w.has "strict") := by
  unfold checkRequest
  split
  · rename_i view hplain
    rw [hplain]
    constructor
    · intro h
      exact ⟨view, rfl, (Except.ok.inj h).symm⟩
    · rintro ⟨view', hview, rfl⟩
      rw [(List.cons.inj hview).1]
  · rename_i hplain
    exact ⟨(nomatch ·), fun ⟨view, hview, _⟩ => absurd hview (hplain view)⟩

theorem renderRequest_renders {w : Words} {request : Request} (h : renderRequest w = .ok request) :
    ∃ r, request = .render r := by
  unfold renderRequest at h
  split at h
  · exact ⟨_, (Except.ok.inj h).symm⟩
  · exact nomatch h

theorem programBoard_admits (us : List Given) : programBoard.Admits us := by
  simp [Admits, programBoard, verbose]

section

variable {words : List String}

/-- What a command makes of the words behind its name, unless it just tells something. -/
theorem Form.read_eq_ok_iff {f : Form} {name : String} (hf : form? name = some f)
    {request : Request} (hrequest : ∀ text, request ≠ .tell text) :
    f.read name words = .ok request ↔ ∃ us plain, f.board.Line words us plain []
      ∧ f.board.Admits us ∧ plain.length ≤ f.board.places
      ∧ f.request ⟨us.reverse, plain.reverse⟩ = .ok request := by
  obtain ⟨hb, hfront⟩ := form?_sound hf
  have hread : ∀ w rest, f.board.read (words.length + 1) .none words = .ok (w, rest) ↔ _ :=
    fun w rest => hb.read_eq_ok_iff (Nat.lt_succ_self words.length)
  rw [Form.read]
  cases hwords : f.board.read (words.length + 1) .none words with
  | ok read =>
      obtain ⟨w, rest⟩ := read
      constructor
      · intro h
        obtain ⟨us, plain, hline, hus, hplaces, rfl⟩ := (hread w rest).mp hwords
        obtain rfl := rest_eq_nil hfront hline
        exact ⟨us, plain, hline, hus, hplaces, h⟩
      · rintro ⟨us, plain, hline, hus, hplaces, h⟩
        have hsame := (hread _ _).mpr ⟨us, plain, hline, hus, hplaces, rfl⟩
        obtain ⟨rfl, -⟩ := Prod.mk.inj (Except.ok.inj (hwords.symm.trans hsame))
        exact h
  | error detour =>
      refine ⟨fun h => ?_, fun ⟨us, plain, hline, hus, hplaces, _⟩ => ?_⟩
      · cases detour with
        | help =>
            dsimp only at h
            split at h
            · exact absurd (Except.ok.inj h).symm (hrequest _)
            · exact nomatch h
        | version => exact nomatch h
        | misuse => exact nomatch h
      · exact nomatch hwords.symm.trans ((hread _ _).mpr ⟨us, plain, hline, hus, hplaces, rfl⟩)

/-- The front of a command line ends at the name of a command. -/
theorem exists_line_iff {name : String} {rest : List String} :
    (∃ front, programBoard.Line words front [] (name :: rest))
      ↔ ∃ w, programBoard.read (words.length + 1) .none words = .ok (w, name :: rest) := by
  have hread : ∀ w, programBoard.read (words.length + 1) .none words = .ok (w, name :: rest) ↔ _ :=
    fun w => programBoard_sound.read_eq_ok_iff (Nat.lt_succ_self words.length)
  constructor
  · rintro ⟨front, hline⟩
    exact ⟨_, (hread _).mpr ⟨front, [], hline, programBoard_admits front, Nat.zero_le _, rfl⟩⟩
  · rintro ⟨w, h⟩
    obtain ⟨front, plain, hline, -, hplaces, -⟩ := (hread w).mp h
    obtain rfl : plain = [] := List.length_eq_zero_iff.mp (Nat.le_zero.mp hplaces)
    exact ⟨front, hline⟩

theorem helpRequest_tells {request : Request} (h : helpRequest words = .ok request) :
    ∃ text, request = .tell text := by
  unfold helpRequest at h
  split at h
  · exact ⟨_, (Except.ok.inj h).symm⟩
  · split at h
    · exact ⟨_, (Except.ok.inj h).symm⟩
    · exact nomatch h
  · exact nomatch h

/-- What a command line asks for, unless it just wants something told. -/
theorem ofWords_eq_ok_iff {request : Request} (hrequest : ∀ text, request ≠ .tell text) :
    Request.ofWords words = .ok request
      ↔ ∃ front name rest f, programBoard.Line words front [] (name :: rest) ∧ form? name = some f
        ∧ f.read name rest = .ok request := by
  constructor
  · intro h
    unfold Request.ofWords at h
    split at h
    · exact absurd (Except.ok.inj h).symm (hrequest _)
    · exact absurd (Except.ok.inj h).symm (hrequest _)
    · exact nomatch h
    · rename_i w name rest hread
      obtain ⟨front, hline⟩ := exists_line_iff.mpr ⟨w, hread⟩
      split at h
      · rename_i f hf
        exact ⟨front, name, rest, f, hline, hf, h⟩
      · split at h
        · obtain ⟨text, rfl⟩ := helpRequest_tells h
          exact absurd rfl (hrequest text)
        · exact nomatch h
    · exact nomatch h
  · rintro ⟨front, name, rest, f, hline, hf, h⟩
    obtain ⟨w, hread⟩ := exists_line_iff.mp ⟨front, hline⟩
    rw [Request.ofWords, hread]
    dsimp only
    rw [hf]
    exact h

theorem names_flagGiven (name : String) (isGiven : Bool) :
    ((flagGiven name isGiven).map (·.name)).Sublist [name] := by
  cases isGiven <;> simp [flagGiven]

theorem names_valueGiven (name : String) (value : Option String) :
    ((valueGiven name value).map (·.name)).Sublist [name] := by
  cases value <;> simp [valueGiven]

/-- No switch is given twice. -/
theorem RenderOptions.names_nodup (o : RenderOptions) : (o.given.map (·.name)).Nodup := by
  have hsub : (o.given.map (·.name)).Sublist
      ([("view" : String), "events"] ++ ["date"] ++ ["now"] ++ ["output"] ++ ["strict"]
        ++ ["no-links"]) := by
    simp only [RenderOptions.given, List.map_append]
    refine .append (.append (.append (.append (.append (.refl _) ?_) ?_) ?_) ?_) ?_
    · exact names_valueGiven _ _
    · exact names_valueGiven _ _
    · exact names_valueGiven _ _
    · exact names_flagGiven _ _
    · exact names_flagGiven _ _
  exact List.Nodup.sublist hsub (by simp)

theorem settings_checkBoard (w : Words) :
    (checkBoard.switches.filter (!·.repeats)).flatMap w.setting
      = flagGiven "strict" (w.has "strict") := by
  simp [checkBoard, verbose, Switch.flag, Words.setting]

theorem settings_renderBoard (w : Words) {view events : String}
    (hview : w.value? "view" = some view) (hevents : w.value? "events" = some events) :
    (renderBoard.switches.filter (!·.repeats)).flatMap w.setting
      = RenderOptions.given ⟨view, events, w.value? "date", w.value? "now", w.value? "output",
          w.has "strict", w.has "no-links"⟩ := by
  simp [renderBoard, verbose, Switch.flag, Switch.option, Words.setting, RenderOptions.given,
    valueGiven, hview, hevents]

/-- The switches of a command for rendering make the request that they stand for. -/
theorem renderRequest_eq_ok_iff {us : List Given} (hhas : ∀ u ∈ us, renderBoard.Has u)
    (hus : renderBoard.Admits us) {r : RenderRequest} :
    renderRequest ⟨us.reverse, []⟩ = .ok (.render r)
      ↔ ∃ o : RenderOptions, (us.filter (·.name != "verbose")).Perm o.given ∧ o.request = r := by
  constructor
  · intro h
    have hperm := perm_settings [] renderBoard_sound renderBoard_onlyVerboseRepeats hus hhas
    rw [renderRequest] at h
    split at h
    · rename_i view events hview hevents
      rw [settings_renderBoard _ hview hevents] at hperm
      exact ⟨_, hperm, Request.render.inj (Except.ok.inj h)⟩
    · exact nomatch h
  · rintro ⟨o, hperm, rfl⟩
    have hvalue : ∀ name value, name ≠ "verbose" →
        (∀ v, ⟨name, v⟩ ∈ o.given ↔ ∃ v', value = some v' ∧ v = some v') →
          Words.value? ⟨us.reverse, []⟩ name = value :=
      fun name value hname h => value?_eq fun v => (mem_iff_of_perm hperm hname).trans (h v)
    have hflag : ∀ name isGiven, name ≠ "verbose" →
        (∀ v, ⟨name, v⟩ ∈ o.given ↔ isGiven = true ∧ v = none) →
          Words.has ⟨us.reverse, []⟩ name = isGiven :=
      fun name value hname h => has_eq fun v => (mem_iff_of_perm hperm hname).trans (h v)
    rw [renderRequest, hvalue "view" (some o.view), hvalue "events" (some o.events),
      hvalue "date" o.date, hvalue "now" o.now, hvalue "output" o.output, hflag "strict" o.strict,
      hflag "no-links" o.noLinks]
    · rfl
    all_goals simp [RenderOptions.given]

/-- **A command line asks for rendering by its switches.** -/
theorem ofWords_eq_render_iff {r : RenderRequest} :
    Request.ofWords words = .ok (.render r)
      ↔ ∃ o : RenderOptions, o.AskedBy words ∧ o.request = r := by
  rw [ofWords_eq_ok_iff (fun _ => Request.noConfusion)]
  constructor
  · rintro ⟨front, name, rest, f, hfront, hf, h⟩
    obtain ⟨us, plain, hline, hus, hplaces, hmade⟩ :=
      (Form.read_eq_ok_iff hf (fun _ => Request.noConfusion)).mp h
    obtain ⟨rfl, rfl⟩ | ⟨rfl, rfl⟩ | ⟨rfl, rfl⟩ := form?_cases hf
    · obtain ⟨_, -, hcheck⟩ := checkRequest_eq_ok_iff.mp hmade
      exact nomatch hcheck
    · obtain rfl : plain = [] := List.length_eq_zero_iff.mp (Nat.le_zero.mp hplaces)
      obtain ⟨o, hperm, ho⟩ := (renderRequest_eq_ok_iff (has_of_line hline) hus).mp hmade
      exact ⟨o, ⟨front, rest, us, hfront, hline, hperm⟩, ho⟩
    · exact nomatch Except.ok.inj hmade
  · rintro ⟨o, ⟨front, rest, us, hfront, hline, hperm⟩, rfl⟩
    have hus : renderBoard.Admits us :=
      admits_of_perm renderBoard_onlyVerboseRepeats o.names_nodup hperm
    refine ⟨front, "render", rest, _, hfront, rfl, ?_⟩
    refine (Form.read_eq_ok_iff rfl (fun _ => Request.noConfusion)).mpr
      ⟨us, [], hline, hus, Nat.zero_le _, ?_⟩
    exact (renderRequest_eq_ok_iff (has_of_line hline) hus).mpr ⟨o, hperm, rfl⟩

theorem RenderOptions.AskedBy.ofWords {o : RenderOptions} (h : o.AskedBy words) :
    Request.ofWords words = .ok (.render o.request) :=
  ofWords_eq_render_iff.mpr ⟨o, h, rfl⟩

/-- **A command line asks for checking by naming a view.** -/
theorem ofWords_eq_check_iff {view : String} {strict : Bool} :
    Request.ofWords words = .ok (.check view strict) ↔ AsksCheck words view strict := by
  rw [ofWords_eq_ok_iff (fun _ => Request.noConfusion)]
  constructor
  · rintro ⟨front, name, rest, f, hfront, hf, h⟩
    obtain ⟨us, plain, hline, hus, hplaces, hmade⟩ :=
      (Form.read_eq_ok_iff hf (fun _ => Request.noConfusion)).mp h
    obtain ⟨rfl, rfl⟩ | ⟨rfl, rfl⟩ | ⟨rfl, rfl⟩ := form?_cases hf
    · obtain ⟨view', hview, hcheck⟩ := checkRequest_eq_ok_iff.mp hmade
      obtain ⟨rfl, rfl⟩ := Request.check.inj hcheck
      obtain rfl : plain = [view] := List.reverse_eq_iff.mp hview
      have hperm := perm_settings [view].reverse checkBoard_sound
        checkBoard_onlyVerboseRepeats hus (has_of_line hline)
      rw [settings_checkBoard] at hperm
      exact ⟨front, rest, us, hfront, hline, hperm⟩
    · obtain ⟨_, hrender⟩ := renderRequest_renders hmade
      exact nomatch hrender
    · exact nomatch Except.ok.inj hmade
  · rintro ⟨front, rest, us, hfront, hline, hperm⟩
    have hnames : ((flagGiven "strict" strict).map (·.name)).Nodup :=
      (List.nodup_singleton "strict").sublist (names_flagGiven _ _)
    have hus : checkBoard.Admits us := admits_of_perm checkBoard_onlyVerboseRepeats hnames hperm
    have hstrict : Words.has ⟨us.reverse, [view]⟩ "strict" = strict :=
      has_eq fun v => (mem_iff_of_perm hperm (by simp)).trans (by simp)
    refine ⟨front, "check", rest, _, hfront, rfl, ?_⟩
    refine (Form.read_eq_ok_iff rfl (fun _ => Request.noConfusion)).mpr
      ⟨us, [view], hline, hus, Nat.le_refl 1, ?_⟩
    exact checkRequest_eq_ok_iff.mpr ⟨view, rfl, congrArg (Request.check view) hstrict.symm⟩

theorem RenderOptions.AskedBy.takes {o : RenderOptions} (h : o.AskedBy words) {s : Switch}
    (hs : s ∈ renderBoard.switches) {v : Option String} (hv : ⟨s.name, v⟩ ∈ o.given) :
    s.Takes v := by
  obtain ⟨front, rest, us, -, hline, hperm⟩ := h
  exact takes_of_mem renderBoard_sound (has_of_line hline) hs
    (List.mem_filter.mp (hperm.mem_iff.mpr hv)).1 rfl

/-- An instant that is given can be read. -/
theorem RenderOptions.AskedBy.exists_now {o : RenderOptions} (h : o.AskedBy words)
    (hnow : o.now.isSome) : ∃ now, o.request.now = some now := by
  obtain ⟨v, hv⟩ := Option.isSome_iff_exists.mp hnow
  have htakes : (Switch.option "now" (fun value => (readInstant? value).isSome)).Takes (some v) :=
    h.takes (by simp [renderBoard]) (by simp [RenderOptions.given, Switch.option, hv])
  obtain ⟨accepts, haccepts, hread⟩ := Switch.takes_some_iff.mp htakes
  obtain rfl := Option.some.inj haccepts
  obtain ⟨now, hnow⟩ := Option.isSome_iff_exists.mp hread
  exact ⟨now, Option.bind_eq_some_iff.mpr ⟨v, hv, hnow⟩⟩

/-- What a command line asks for can be told by reading it. -/
theorem asks_of_read {name : String} {b : Switchboard} (rest : List String) {given : List Given}
    {plain : List String} (hb : b.Sound)
    (hfront : (programBoard.read (words.length + 1) .none words).toOption.any
      (·.2 = name :: rest))
    (hread : (b.read (rest.length + 1) .none rest).toOption.any fun read =>
      (read.1.given.filter (·.name != "verbose")).Perm given ∧ read.1.plain = plain.reverse
        ∧ read.2 = []) :
    Asks words name b given plain := by
  obtain ⟨⟨w, _⟩, hfront, hrest⟩ := exists_ok_of_any hfront
  obtain rfl := of_decide_eq_true hrest
  obtain ⟨front, hfront⟩ := exists_line_iff.mpr ⟨w, hfront⟩
  obtain ⟨⟨w', rest'⟩, hread, hsame⟩ := exists_ok_of_any hread
  obtain ⟨hgiven, hplain, rfl⟩ := of_decide_eq_true hsame
  obtain ⟨us, plain', hline, -, -, rfl⟩ := (hb.read_eq_ok_iff (Nat.lt_succ_self _)).mp hread
  obtain rfl := List.reverse_injective hplain
  exact ⟨front, rest, us, hfront, hline, (us.reverse_perm.symm.filter _).trans hgiven⟩

end

end Daybook.Command
