import Daybook.Proofs.Json.Floats
import Daybook.Proofs.Json.Values
import Daybook.Proofs.Success
import Daybook.View.DefinitionText

/-!
# Views that survive being written

A view that was read, written and read again is the same view, if its floating-point numbers read
back (`parse_toText`). A number is written with the fewest digits that round to it, but read with
two roundings, one for the digits and one for the exponent; so a few come back as a neighbour, and
with them the view does not survive (`not_parse_toText`). Integers always read back, and so do
numbers of at most fifteen digits that are not too far from one (`parse_written_of_modest`). Texts,
names and nesting are never lost.
-/

namespace Daybook.View

open Daybook.Json Daybook.Json.Reader Daybook.Script

/-! ## Definitions that are read -/

/-- The number of a variable, if it is one. -/
def variableNumbers : Variable → List Number
  | .text _ => []
  | .number value => [value]

namespace Definition

/-- The numbers of a view: those of its variables and of its article. -/
def numbers (d : Definition) : List Number :=
  d.bindings.entries.flatMap (fun e => variableNumbers e.2)
    ++ d.article.flatMap Value.itemNumbers

/-- Whether a definition can be read from a text: its integers have 64 bits, and its article is not
nested too deeply. -/
structure Fits (d : Definition) : Prop where
  bindings : ∀ e ∈ d.bindings.entries, ∀ n ∈ variableNumbers e.2, n.InRange
  article : ∀ line ∈ d.article, ∀ v ∈ line, v.Fits 124

theorem gives_readVariable (allowed : Nat) :
    Gives (readVariable allowed) (fun v => ∀ n ∈ variableNumbers v, n.InRange) := by
  refine (gives_readValue allowed).bind fun v hv => ?_
  cases hv with
  | number h => 
      refine .done fun n hn => ?_
      obtain rfl := List.mem_singleton.mp hn
      exact h
  | string => exact .done fun _ hn => (nomatch hn)
  | null => exact .refuse
  | bool => exact .refuse
  | array => exact .refuse
  | object => exact .refuse

theorem gives_field : ∀ field ∈ record.fields, ∀ n, nestingLimit = n + 1 → ∀ d : Definition,
    d.Fits → Gives (field.read n d) Fits := by
  intro field hfield n hn d hd
  obtain rfl := Nat.succ.inj hn
  simp only [record, List.mem_cons, List.not_mem_nil, or_false] at hfield
  rcases hfield with rfl | rfl | rfl | rfl | rfl
  · exact .after fun _ => .done ⟨hd.bindings, hd.article⟩
  · exact (gives_readMap fun n _ => gives_readVariable n).bind fun m hm => .done ⟨hm, hd.article⟩
  · exact .after fun _ => .done ⟨hd.bindings, hd.article⟩
  · exact .after fun _ => .done ⟨hd.bindings, hd.article⟩
  · refine (gives_readList fun n hn => gives_readList fun m hm => ?_).bind
      fun article harticle => .done ⟨hd.bindings, harticle⟩
    obtain rfl : m = 124 := by omega
    exact gives_readValue 124

theorem fits_of_parse {limits : Limits} {text : String} {d : Definition}
    (h : parse limits text = .ok d) : d.Fits := by
  have hread : Gives (record.read .ok nestingLimit) Fits :=
    Record.gives_read ⟨fun _ h => (nomatch h), fun _ h => (nomatch h)⟩ gives_field
      fun d d' hd hfinish => Except.ok.inj hfinish ▸ hd
  unfold parse at h
  split at h
  · exact nomatch h
  · cases hall : readAll (record.read .ok nestingLimit) text.toList with
    | error fault =>
        rw [hall] at h
        exact nomatch h
    | ok d' =>
        rw [hall] at h
        obtain rfl := Except.ok.inj h
        exact hread.of_readAll hall

end Definition

/-! ## Parts that are read back -/

section

variable {α β : Type} {f : β → Value} {R : α → β → Prop} {n depth : Nat} {gap : List Char}
  {follow : List Char → Prop}

theorem reads_mapValue {value : Nat → Json.Reader α} {m : NameMap β} (hgap : Blank gap)
    (h : ∀ e ∈ m.entries,
      Reads (value n) (' ' :: ((f e.2).pretty (depth + 1)).toList) Ends (R · e.2)) :
    Reads (readMap value (n + 1)) (gap ++ ((mapValue f m).pretty depth).toList) follow
      (fun m' => List.Forall₂ (SameEntry R) m'.entries m.entries) := by
  unfold mapValue
  rw [Value.toList_pretty_object, List.map_map]
  exact reads_readMap (fun b => ((f b).pretty (depth + 1)).toList) R hgap
    (Value.blank_lineText depth) (Value.blank_closeText depth _) m.sorted h

theorem reads_arrayValue {item : Nat → Json.Reader α} {bs : List β} (hgap : Blank gap)
    (h : ∀ b ∈ bs, Reads (item n) ((f b).pretty (depth + 1)).toList Ends (R · b)
      ∧ Opens ((f b).pretty (depth + 1)).toList) :
    Reads (readList item (n + 1)) (gap ++ ((Value.array (bs.map f)).pretty depth).toList) follow
      (List.Forall₂ R · bs) := by
  rw [Value.toList_pretty_array, List.map_map]
  exact reads_readList hgap
    (reads_items (Value.blank_lineText depth) (Value.blank_closeText depth _)
      (fun b => ((f b).pretty (depth + 1)).toList) R bs h)

theorem reads_title (title : Option String) (hgap : Blank gap) :
    Reads (readOption readText)
      (gap ++ (Value.pretty depth (match title with
        | some title => .string title
        | none => .null)).toList) follow (· = title) := by
  cases title with
  | none =>
      rw [Value.toList_pretty_null]
      exact reads_readOption_none hgap
  | some title =>
      dsimp only
      rw [Value.pretty, toList_quote]
      have htext : Reads readText (quotedText title) follow (· = title) :=
        reads_readText title blank_nil
      refine (reads_readOption_some hgap (by decide) (by decide) htext).imp ?_ fun _ h => h
      rintro _ ⟨_, rfl, rfl⟩
      rfl

theorem opens_arrayValue {items : List Value} :
    Opens ((Value.array items).pretty depth).toList := by
  rw [Value.toList_pretty_array]
  exact ⟨_, _, rfl, by decide⟩

theorem reads_textValue (s : String) (hgap : Blank gap) :
    Reads readText (gap ++ ((Value.string s).pretty depth).toList) follow (· = s) := by
  rw [Value.pretty, toList_quote]
  exact reads_readText s hgap

/-- A list of replacements as a JSON value. -/
def pairsValue (pairs : List (String × String)) : Value :=
  .array (pairs.map fun pair => .array [.string pair.1, .string pair.2])

/-- A pattern literal and a template are read back from a list of the two. -/
theorem reads_replacement (pair : String × String) :
    Reads (readReplacement (n + 1))
      ((Value.array [.string pair.1, .string pair.2]).pretty depth).toList follow (· = pair) := by
  have htext : ∀ s : String, (Value.pretty (depth + 1) (.string s)).toList = quotedText s := by
    intro s
    rw [Value.pretty, toList_quote]
  have hpair : Reads (readReplacement (n + 1))
      ('[' :: (spreadParts (Value.lineText depth) true [quotedText pair.1, quotedText pair.2]
        ++ Value.closeText depth false ++ [']'])) follow (fun p => p.1 = pair.1 ∧ p.2 = pair.2) :=
    reads_readPair blank_nil (Value.blank_lineText depth) (Value.blank_closeText depth false)
      (reads_readText pair.1 blank_nil) (reads_readText pair.2 blank_nil)
      (opens_quotedText pair.1) (opens_quotedText pair.2)
  rw [Value.toList_pretty_array]
  simp only [List.map_cons, List.map_nil, htext]
  exact hpair.imp (fun p hp => Prod.ext hp.1 hp.2) fun _ h => h

theorem eq_of_same_string {v : Value} {s : String} (h : v.same (.string s) = true) :
    v = .string s := by
  cases v <;> simp_all [Value.same]

theorem exists_of_same_number {v : Value} {n : Number} (h : v.same (.number n) = true) :
    ∃ m, v = .number m ∧ (m == n) = true := by
  cases v <;> simp_all [Value.same]

/-- A variable is read back, if its number is. -/
theorem reads_variable {v : Variable} (hfits : ∀ n ∈ variableNumbers v, n.InRange)
    (hnumbers : ∀ n ∈ variableNumbers v, n.readsBack = true) (hgap : Blank gap) :
    Reads (readVariable n) (gap ++ ((variableValue v).pretty depth).toList) Ends
      (fun v' => (v' == v) = true) := by
  cases v with
  | text s =>
      have hvalue : Value.Fits n (.string s) := .string
      refine (reads_pretty hvalue (fun _ hm => ?_) hgap).thenGive fun v' hv' => ?_
      · simp [Value.numbers] at hm
      · obtain rfl := eq_of_same_string hv'
        exact ⟨.text s, rfl, beq_self_eq_true s⟩
  | number m =>
      have hm : m ∈ variableNumbers (.number m) := List.mem_cons_self
      have hvalue : Value.Fits n (.number m) := .number (hfits m hm)
      refine (reads_pretty hvalue (fun k hk => ?_) hgap).thenGive fun v' hv' => ?_
      · exact hnumbers k (by simpa [Value.numbers, variableNumbers] using hk)
      · obtain ⟨k, rfl, hk⟩ := exists_of_same_number hv'
        exact ⟨.number k, rfl, hk⟩

end

theorem beq_of_forall₂ {α : Type} [BEq α] {as bs : List α}
    (h : List.Forall₂ (fun a b => (a == b) = true) as bs) : (as == bs) = true := by
  induction h with
  | nil => rfl
  | cons hab _ ih => rw [List.cons_beq_cons, hab, ih]; rfl

theorem beq_of_sameEntries {α : Type} [BEq α] {m m' : NameMap α}
    (h : List.Forall₂ (SameEntry fun a b => (a == b) = true) m.entries m'.entries) :
    (m == m') = true := by
  refine beq_of_forall₂ (h.imp fun e e' he => ?_)
  show (e.1 == e'.1 && e.2 == e'.2) = true
  rw [he.1, he.2, beq_self_eq_true]
  rfl

/-! ## Definitions that are read back -/

namespace Definition

variable {d : Definition}

theorem reads_bindings (hfits : d.Fits) (hnumbers : ∀ n ∈ d.numbers, n.readsBack = true) :
    Reads (readMap readVariable 126)
      (' ' :: ((mapValue variableValue d.bindings).pretty 1).toList) Ends
      (fun m => (m == d.bindings) = true) := by
  have hvariables : ∀ e ∈ d.bindings.entries, Reads (readVariable 125)
      (' ' :: ((variableValue e.2).pretty 2).toList) Ends (fun v => (v == e.2) = true) := by
    intro e he
    refine reads_variable (hfits.bindings e he) (fun n hn => hnumbers n ?_) blank_space
    exact List.mem_append_left _ (List.mem_flatMap.mpr ⟨e, he, hn⟩)
  exact (reads_mapValue (R := fun v v' : Variable => (v == v') = true) blank_space hvariables).imp
    (fun m hm => beq_of_sameEntries hm) fun _ h => h

theorem reads_replacers (replacers : NameMap (List (String × String))) :
    Reads (readMap (readList readReplacement) 126)
      (' ' :: ((mapValue pairsValue replacers).pretty 1).toList) Ends
      (fun m => (m == replacers) = true) := by
  have hlists : ∀ e ∈ replacers.entries, Reads (readList readReplacement 125)
      (' ' :: ((pairsValue e.2).pretty 2).toList) Ends (fun pairs => (pairs == e.2) = true) := by
    intro e _
    refine (reads_arrayValue (R := Eq) blank_space fun pair _ =>
      ⟨reads_replacement pair, opens_arrayValue⟩).imp (fun pairs hpairs => ?_) fun _ h => h
    rw [List.forall₂_eq_eq_eq] at hpairs
    exact beq_iff_eq.mpr hpairs
  exact (reads_mapValue (f := pairsValue)
    (R := fun pairs pairs' : List (String × String) => (pairs == pairs') = true) blank_space
    hlists).imp (fun m hm => beq_of_sameEntries hm) fun _ h => h

theorem reads_shaders (shaders : NameMap String) :
    Reads (readMap (fun _ => readText) 126)
      (' ' :: ((mapValue .string shaders).pretty 1).toList) Ends
      (fun m => (m == shaders) = true) := by
  have htexts : ∀ e ∈ shaders.entries, Reads readText
      (' ' :: ((Value.string e.2).pretty 2).toList) Ends (fun s => (s == e.2) = true) :=
    fun e _ => (reads_textValue e.2 blank_space).imp (fun _ h => beq_iff_eq.mpr h) fun _ h => h
  exact (reads_mapValue (n := 125) (R := fun s s' : String => (s == s') = true) blank_space
    htexts).imp (fun m hm => beq_of_sameEntries hm) fun _ h => h

theorem reads_article (hfits : d.Fits) (hnumbers : ∀ n ∈ d.numbers, n.readsBack = true) :
    Reads (readList (readList readValue) 126)
      (' ' :: ((Value.array (d.article.map .array)).pretty 1).toList) Ends
      (fun article => (article == d.article) = true) := by
  have hlines : ∀ line ∈ d.article, Reads (readList readValue 125)
      ((Value.array line).pretty 2).toList Ends (fun line' => (line' == line) = true) := by
    intro line hline
    have hvalues : ∀ v ∈ line, Reads (readValue 124) (v.pretty 3).toList Ends
        (fun v' => v'.same v = true) ∧ Opens (v.pretty 3).toList := by
      intro v hv
      have hnumbers' : ∀ n ∈ v.numbers, n.readsBack = true := fun n hn => hnumbers n
        (List.mem_append_right _ (List.mem_flatMap.mpr
          ⟨line, hline, Value.mem_itemNumbers.mpr ⟨v, hv, hn⟩⟩))
      exact ⟨reads_pretty (hfits.article line hline v hv) hnumbers' blank_nil,
        Value.opens_pretty hnumbers'⟩
    rw [← List.map_id line]
    exact (reads_arrayValue (f := id) (R := fun v' v : Value => v'.same v = true) blank_nil
      hvalues).imp (fun line' hline' => by rw [List.map_id]; exact beq_of_forall₂ hline')
        fun _ h => h
  exact (reads_arrayValue (R := fun line' line : List Value => (line' == line) = true) blank_space
    fun line hline => ⟨hlines line hline, opens_arrayValue⟩).imp
      (fun article harticle => beq_of_forall₂ harticle) fun _ h => h

/-- The texts of the fields of a view, each behind its name. -/
def memberTexts (d : Definition) : List (String × List Char) :=
  [("title", behindName (Value.pretty 1 (match d.title with
      | some title => .string title
      | none => .null)).toList),
    ("variables", behindName ((mapValue variableValue d.bindings).pretty 1).toList),
    ("replacers", behindName ((mapValue pairsValue d.replacers).pretty 1).toList),
    ("shaders", behindName ((mapValue .string d.shaders).pretty 1).toList),
    ("article", behindName ((Value.array (d.article.map .array)).pretty 1).toList)]

theorem toList_toText (d : Definition) :
    d.toText.toList = '{' :: (spreadParts (Value.lineText 0) true (d.memberTexts.map memberText)
      ++ Value.closeText 0 false ++ ['}']) := by
  unfold toText toValue
  rw [Value.toList_pretty_object]
  rfl

theorem beq_of_parts {title : Option String} {bindings : NameMap Variable}
    {replacers : NameMap (List (String × String))} {shaders : NameMap String}
    {article : List (List Value)} (htitle : title = d.title)
    (hbindings : (bindings == d.bindings) = true) (hreplacers : (replacers == d.replacers) = true)
    (hshaders : (shaders == d.shaders) = true) (harticle : (article == d.article) = true) :
    ((⟨title, bindings, replacers, shaders, article⟩ : Definition) == d) = true := by
  show (_ && (_ && (_ && (_ && _)))) = true
  rw [htitle, hbindings, hreplacers, hshaders, harticle, beq_self_eq_true]
  rfl

/-- The fields of a view are read back one by one. -/
theorem readsMembers_memberTexts (hfits : d.Fits) (hnumbers : ∀ n ∈ d.numbers, n.readsBack = true) :
    ReadsMembers (record.member 126) (fun state => (state.2 == d) = true) (· = ([], blank))
      d.memberTexts := by
  -- the draft is known up to the parts that are only equal to those that were written
  refine .cons (M := (· = (["title"], ⟨d.title, .empty, .empty, .empty, []⟩))) ?title <|
    .cons (M := fun state => ∃ b, (b == d.bindings) = true
      ∧ state = (["variables", "title"], ⟨d.title, b, .empty, .empty, []⟩)) ?bindings <|
    .cons (M := fun state => ∃ b r, (b == d.bindings) = true ∧ (r == d.replacers) = true
      ∧ state = (["replacers", "variables", "title"], ⟨d.title, b, r, .empty, []⟩)) ?replacers <|
    .cons (M := fun state => ∃ b r s, (b == d.bindings) = true ∧ (r == d.replacers) = true
      ∧ (s == d.shaders) = true
      ∧ state = (["shaders", "replacers", "variables", "title"], ⟨d.title, b, r, s, []⟩))
      ?shaders <|
    .cons (M := fun state => (state.2 == d) = true) ?article (.nil fun _ h => h)
  case title =>
    rintro _ rfl
    refine reads_member rfl rfl ((reads_title d.title blank_space).thenGive ?_)
    rintro _ rfl
    exact ⟨_, rfl, rfl⟩
  case bindings =>
    rintro _ rfl
    refine reads_member rfl rfl ((reads_bindings hfits hnumbers).thenGive fun b hb => ?_)
    exact ⟨_, rfl, b, hb, rfl⟩
  case replacers =>
    rintro _ ⟨b, hb, rfl⟩
    refine reads_member rfl rfl ((reads_replacers d.replacers).thenGive fun r hr => ?_)
    exact ⟨_, rfl, b, r, hb, hr, rfl⟩
  case shaders =>
    rintro _ ⟨b, r, hb, hr, rfl⟩
    refine reads_member rfl rfl ((reads_shaders d.shaders).thenGive fun s hs => ?_)
    exact ⟨_, rfl, b, r, s, hb, hr, hs, rfl⟩
  case article =>
    rintro _ ⟨b, r, s, hb, hr, hs, rfl⟩
    refine reads_member rfl rfl ((reads_article hfits hnumbers).thenGive fun a ha => ?_)
    exact ⟨_, rfl, beq_of_parts rfl hb hr hs ha⟩

theorem reads_toText (hfits : d.Fits) (hnumbers : ∀ n ∈ d.numbers, n.readsBack = true) :
    Reads (record.read .ok nestingLimit) d.toText.toList (fun _ => True)
      (fun d' => (d' == d) = true) := by
  have hmembers := reads_members (Value.blank_lineText 0) (Value.blank_closeText 0 false)
    (readsMembers_memberTexts hfits hnumbers) rfl
  rw [toList_toText]
  refine .solid (by decide) (reads_inObject ?_)
  exact hmembers.thenGive fun state hstate => ⟨state.2, rfl, hstate⟩

theorem Fits.inRange (h : d.Fits) : ∀ n ∈ d.numbers, n.InRange := by
  intro n hn
  rcases List.mem_append.mp hn with hn | hn
  · obtain ⟨e, he, hn⟩ := List.mem_flatMap.mp hn
    exact h.bindings e he n hn
  · obtain ⟨line, hline, hn⟩ := List.mem_flatMap.mp hn
    obtain ⟨v, hv, hn⟩ := Value.mem_itemNumbers.mp hn
    exact (h.article line hline v hv).inRange n hn

theorem readsBack_of_mem (hfits : d.Fits)
    (hfloats : ∀ x, .float x ∈ d.numbers → (Number.float x).readsBack = true) :
    ∀ n ∈ d.numbers, n.readsBack = true := by
  intro n hn
  cases n with
  | float x => exact hfloats x hn
  | integer value => exact readsBack_integer (hfits.inRange _ hn)

/-- A view whose numbers all read back is read from its text, under any limit that this keeps to. -/
theorem parse_written {limits : Limits} (hfits : d.Fits)
    (hnumbers : ∀ n ∈ d.numbers, n.readsBack = true)
    (hsize : Text.size d.toText ≤ limits.maxViewBytes) :
    ∃ d', parse limits d.toText = .ok d' ∧ (d' == d) = true := by
  obtain ⟨d', hread, hsame⟩ := (reads_toText hfits hnumbers).readAll trivial
  refine ⟨d', ?_, hsame⟩
  unfold parse
  rw [if_neg (Nat.not_lt.mpr hsize), hread]
  rfl

/-- That is so of every view that is read whose numbers with a fraction or an exponent are rounded
from decimals of at most fifteen digits, from 0.00001 on and below 10 ^ 15. -/
theorem parse_written_of_modest {limits limits' : Limits} {text : String}
    (hparse : parse limits text = .ok d)
    (hfloats : ∀ x, .float x ∈ d.numbers →
      ∃ e : Number.Decimal, e.IsModest ∧ x.magnitude = e.magnitude)
    (hsize : Text.size d.toText ≤ limits'.maxViewBytes) :
    ∃ d', parse limits' d.toText = .ok d' ∧ (d' == d) = true := by
  have hfits := fits_of_parse hparse
  refine parse_written hfits (readsBack_of_mem hfits fun x hx => ?_) hsize
  obtain ⟨e, he, hmagnitude⟩ := hfloats x hx
  exact readsBack_float he hmagnitude

/-- **A view that is read survives being written**, under any limit that its text keeps to: what is
read of its text is equal to it. Of its numbers, those with a fraction or an exponent have to read
back. -/
theorem parse_toText {limits limits' : Limits} {text : String} (hparse : parse limits text = .ok d)
    (hfloats : ∀ x, .float x ∈ d.numbers → (Number.float x).readsBack = true)
    (hsize : Text.size d.toText ≤ limits'.maxViewBytes) :
    ∃ d', parse limits' d.toText = .ok d' ∧ (d' == d) = true := by
  have hfits := fits_of_parse hparse
  exact parse_written hfits (readsBack_of_mem hfits hfloats) hsize

/-- A view with something in every field. -/
private def weekText : String :=
  "\x7b\"title\": \"W\", \"variables\": \x7b\"a\": 7, \"b\": 0.5, \"c\": \"A 1\"\x7d, " ++
  "\"replacers\": \x7b\"r\": [[\"/x/\", \"y\"]]\x7d, \"shaders\": \x7b\"s\": \"/!/\"\x7d, " ++
  "\"article\": [[\"b\", \x7b\"p\": [null, true, -3]\x7d], []]\x7d"

theorem parse_toText_week : ∃ d limits', parse .standard weekText = .ok d
    ∧ (∀ x, .float x ∈ d.numbers → (Number.float x).readsBack = true)
    ∧ Text.size d.toText ≤ limits'.maxViewBytes
    ∧ ∃ d', parse limits' d.toText = .ok d' ∧ (d' == d) = true := by
  have hweek : ((parse .standard weekText).toOption.any
      fun d => d.numbers.all Number.readsBack) = true := by
    decide +kernel
  obtain ⟨d, hparse, hnumbers⟩ := exists_ok_of_any hweek
  have hfloats : ∀ x, .float x ∈ d.numbers → (Number.float x).readsBack = true :=
    fun x hx => List.all_eq_true.mp hnumbers _ hx
  have hlimits : ∀ n, ∃ limits : Limits, n ≤ limits.maxViewBytes :=
    fun n => ⟨⟨n, 0, 0, 0, 0, 0⟩, Nat.le_refl n⟩
  obtain ⟨limits', hsize⟩ := hlimits (Text.size d.toText)
  exact ⟨d, limits', hparse, hfloats, hsize, parse_toText hparse hfloats hsize⟩

/-- A view with a number that becomes another one whenever it is written and read. -/
private def ratioText : String :=
  "\x7b\"variables\": \x7b\"ratio\": 9.007618868999686\x7d\x7d"

theorem not_parse_toText : ∃ d d', parse .standard ratioText = .ok d
    ∧ parse .standard d.toText = .ok d' ∧ (d' == d) = false := by
  have hratio : ((parse .standard ratioText).toOption.any fun d =>
      (parse .standard d.toText).toOption.any fun d' => !(d' == d)) = true := by
    decide +kernel
  obtain ⟨d, hparse, h⟩ := exists_ok_of_any hratio
  obtain ⟨d', hparse', h⟩ := exists_ok_of_any h
  exact ⟨d, d', hparse, hparse', by simpa using h⟩

end Definition

end Daybook.View
