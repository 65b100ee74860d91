import Daybook.Proofs.Percent
import Daybook.Settings.Basic

/-!
# The address of the feed in the template

The URL from which a feed is fetched is the template with the encoded address of the feed in place
of its first `%s`. What is in front of that place and behind it stays as it is, a further `%s`
included (`fillTemplate_append`), and as the encoded address holds none of the marks that divide the
parts of a URL, wherever the URL is divided the address is inside one part (`parts_insert`). So no
address changes how many parts there are, and the address can be read back from the URL
(`feedUrl_keeps_address`).
-/

namespace Daybook.Settings

open Daybook.Text

variable {front back content : List Char}

/-! ## The place in a template -/

/-- What is replaced in a template. -/
def placeholder : List Char :=
  ['%', 's']

/-- What is in front of the first placeholder and what is behind it stay as they are. -/
theorem fillTemplate_append (h : ¬placeholder <:+: front) :
    fillTemplate content (front ++ (placeholder ++ back)) = front ++ (content ++ back) := by
  induction front with
  | nil => rfl
  | cons c front ih =>
      have hfront : ¬placeholder <:+: front :=
        fun hin => h (hin.trans (List.suffix_cons c front).isInfix)
      rw [List.cons_append, List.cons_append, fillTemplate, ih hfront]
      -- A placeholder does not begin with its own second character, so none is half in front.
      intro rest hc hrest
      subst hc
      cases front with
      | nil => exact absurd hrest (by simp [placeholder])
      | cons d front =>
          obtain rfl : d = 's' := (List.cons.inj hrest).1
          exact h (List.prefix_append placeholder front).isInfix

/-! ## Parts of a URL -/

/-- Of two texts put together, the last part of one and the first of the other are one part. -/
theorem parts_append {mark : Char} {x y : List Char} {parts parts' : List (List Char)}
    (hfront : front.splitOn mark = parts ++ [x]) (hback : back.splitOn mark = y :: parts') :
    (front ++ back).splitOn mark = parts ++ (x ++ y) :: parts' := by
  induction front generalizing parts x with
  | nil =>
      rw [List.splitOn_nil] at hfront
      obtain ⟨rfl, rfl⟩ : parts = [] ∧ x = [] := by
        simpa using (List.append_eq_singleton_iff.mp hfront.symm)
      exact hback
  | cons c front ih =>
      rw [List.splitOn_cons_eq_if_modifyHead] at hfront
      rw [List.cons_append, List.splitOn_cons_eq_if_modifyHead]
      split
      · rename_i hmark
        rw [if_pos hmark] at hfront
        cases parts with
        | nil => exact absurd (List.cons.inj hfront).2 (List.splitOn_ne_nil mark front)
        | cons part parts =>
            obtain ⟨rfl, hrest⟩ := List.cons.inj hfront
            rw [ih hrest, List.cons_append]
      · rename_i hmark
        rw [if_neg hmark] at hfront
        obtain ⟨part, parts', hparts⟩ := List.exists_cons_of_ne_nil (List.splitOn_ne_nil mark front)
        rw [hparts, List.modifyHead_cons] at hfront
        cases parts with
        | nil =>
            obtain ⟨rfl, rfl⟩ := List.cons.inj hfront
            have hlast : front.splitOn mark = [] ++ [part] := hparts
            rw [ih hlast]
            rfl
        | cons first parts =>
            obtain ⟨rfl, rfl⟩ := List.cons.inj hfront
            have hlast : front.splitOn mark = (part :: parts) ++ [x] := hparts
            rw [ih hlast]
            rfl

/-- A text that holds no mark lies inside one part wherever it is put. -/
theorem parts_insert {mark : Char} (hcontent : mark ∉ content) (front back : List Char) :
    ∃ parts x y parts', front.splitOn mark = parts ++ [x] ∧ back.splitOn mark = y :: parts'
      ∧ (front ++ (content ++ back)).splitOn mark = parts ++ (x ++ content ++ y) :: parts' := by
  obtain ⟨parts, x, hfront⟩ :=
    (List.eq_nil_or_concat (front.splitOn mark)).resolve_left (List.splitOn_ne_nil mark front)
  obtain ⟨y, parts', hback⟩ := List.exists_cons_of_ne_nil (List.splitOn_ne_nil mark back)
  have hwhole : content.splitOn mark = [] ++ [content] := List.splitOn_eq_singleton hcontent
  have hinner : (content ++ back).splitOn mark = (content ++ y) :: parts' :=
    parts_append hwhole hback
  rw [List.concat_eq_append] at hfront
  refine ⟨parts, x, y, parts', hfront, hback, ?_⟩
  rw [parts_append hfront hinner, List.append_assoc]

/-! ## The URL of the feed -/

theorem feedUrl?_eq {s : Settings} {address : String} (haddress : s.feedAddress = some address)
    (htemplate : s.fetchTemplate.toList = front ++ (placeholder ++ back))
    (hfirst : ¬placeholder <:+: front) :
    s.feedUrl? = some (String.ofList (front ++ ((Percent.encode address).toList ++ back))) := by
  rw [feedUrl?, haddress, Option.map_some, htemplate, fillTemplate_append hfirst]

/-- **The address of the feed survives the template.** Whatever the address is, the URL is the
template with one text in place of its first `%s`, and all else as it is. That text holds visible
characters of ASCII only and none that divides a URL; decoded, it gives the bytes of the address.
So another address gives another URL, and wherever a URL is divided, its parts are those of the
template, with the text inside one of them. -/
theorem feedUrl_keeps_address {s : Settings} {address : String} {front back : List Char}
    (haddress : s.feedAddress = some address)
    (htemplate : s.fetchTemplate.toList = front ++ (placeholder ++ back))
    (hfirst : ¬placeholder <:+: front) :
    s.feedUrl? = some (String.ofList (front ++ ((Percent.encode address).toList ++ back)))
      ∧ (∀ c ∈ (Percent.encode address).toList, Percent.IsPlain c)
      ∧ Percent.decode? (Percent.encode address).toList = some address.toByteArray.data.toList
      ∧ (∀ other, { s with feedAddress := some other }.feedUrl? = s.feedUrl? → other = address)
      ∧ ∀ mark ∈ ":/?#[]@!$&'()*+,;=".toList, ∃ parts x y parts',
          front.splitOn mark = parts ++ [x] ∧ back.splitOn mark = y :: parts'
            ∧ (front ++ ((Percent.encode address).toList ++ back)).splitOn mark
              = parts ++ (x ++ (Percent.encode address).toList ++ y) :: parts' := by
  have hurl := feedUrl?_eq haddress htemplate hfirst
  refine ⟨hurl, fun c => Percent.isPlain_of_mem_encode, ?_, fun other hother => ?_,
    fun mark hmark => parts_insert (fun hmem => ?_) front back⟩
  · rw [Percent.decode?_encode, utf8_toList]
  · rw [feedUrl?_eq (s := { s with feedAddress := some other }) rfl htemplate hfirst, hurl,
      Option.some.injEq, String.ofList_inj, List.append_cancel_left_eq,
      List.append_cancel_right_eq, String.toList_inj] at hother
    exact Percent.encode_injective hother
  · exact (Percent.isPlain_of_mem_encode hmem).undivided hmark

/-- Settings of which the address is encoded already and holds marks, and the template has its place
twice. -/
private def hostileFeed : Settings :=
  { standard with
    feedAddress := some "http://a.org/%2F?x=%s&y=é b"
    fetchTemplate := "p%?u=%s&v=%s" }

theorem feedUrl_keeps_address_hostile :
    hostileFeed.feedAddress = some "http://a.org/%2F?x=%s&y=é b"
      ∧ hostileFeed.fetchTemplate.toList = "p%?u=".toList ++ (placeholder ++ "&v=%s".toList)
      ∧ ¬placeholder <:+: "p%?u=".toList
      ∧ hostileFeed.feedUrl?
          = some "p%?u=http%3A%2F%2Fa.org%2F%252F%3Fx%3D%25s%26y%3D%C3%A9%20b&v=%s"
      ∧ Percent.decode? "http%3A%2F%2Fa.org%2F%252F%3Fx%3D%25s%26y%3D%C3%A9%20b".toList
          = some "http://a.org/%2F?x=%s&y=é b".toByteArray.data.toList
      ∧ (∀ other, { hostileFeed with feedAddress := some other }.feedUrl? = hostileFeed.feedUrl? →
          other = "http://a.org/%2F?x=%s&y=é b") := by
  have htemplate : hostileFeed.fetchTemplate.toList
      = "p%?u=".toList ++ (placeholder ++ "&v=%s".toList) := by decide +kernel
  have hfirst : ¬placeholder <:+: "p%?u=".toList := by decide +kernel
  have hencoded : Percent.encode "http://a.org/%2F?x=%s&y=é b"
      = "http%3A%2F%2Fa.org%2F%252F%3Fx%3D%25s%26y%3D%C3%A9%20b" := by decide +kernel
  obtain ⟨hurl, -, hdecode, hother, -⟩ := feedUrl_keeps_address rfl htemplate hfirst
  rw [hencoded] at hurl hdecode
  exact ⟨rfl, htemplate, hfirst, hurl.trans (by decide +kernel), hdecode, hother⟩

end Daybook.Settings
