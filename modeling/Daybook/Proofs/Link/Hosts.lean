import Daybook.Link.Host
import Daybook.Proofs.Text.Offsets

/-!
# Hosts of addresses

The host of an address is found in five cuts: at the first `://`, before the first mark that ends
the authority, behind the last `@`, and at the first `]` or `:`. For each cut there is a lemma that
says where it goes in a text put together from parts, and one that says what it leaves of any text.

From the former: in an address whose parts do not hold the marks that would end them, the host that
is shown is the one that was put there (`host?_url`), although other parts may hold the same marks.
From the latter: whatever text is taken for an address, the host that is shown is a piece of its
authority from where a host begins, and holds no mark that ends a part of an address
(`isShown_of_host?`).
-/

namespace Daybook.Link

open Daybook.Text

/-! ## Lowered letters -/

theorem isUpper_iff {c : Char} : c.isUpper = true ↔ 65 ≤ c.toNat ∧ c.toNat ≤ 90 := by
  delta Char.isUpper
  simp [UInt32.le_iff_toNat_le]

theorem isLower_iff {c : Char} : c.isLower = true ↔ 97 ≤ c.toNat ∧ c.toNat ≤ 122 := by
  delta Char.isLower
  simp [UInt32.le_iff_toNat_le]

theorem toLower_of_not_isUpper {c : Char} (h : c.isUpper = false) : c.toLower = c :=
  dif_neg (of_decide_eq_false h)

theorem toNat_toLower {c : Char} (h : c.isUpper = true) : c.toLower.toNat = c.toNat + 32 := by
  have hrange := isUpper_iff.mp h
  have hlower : c.toLower = ⟨c.val + ('a'.val - 'A'.val), _⟩ := dif_pos (of_decide_eq_true h)
  rw [hlower]
  show (c.val + ('a'.val - 'A'.val)).toNat = c.val.toNat + 32
  rw [UInt32.toNat_add, show ('a'.val - 'A'.val).toNat = 32 by rfl]
  refine Nat.mod_eq_of_lt ?_
  show c.toNat + 32 < 2 ^ 32
  omega

theorem isUpper_toLower (c : Char) : c.toLower.isUpper = false := by
  cases h : c.isUpper with
  | false => rw [toLower_of_not_isUpper h, h]
  | true =>
      have hrange := isUpper_iff.mp h
      rw [Bool.eq_false_iff, Ne, isUpper_iff, toNat_toLower h]
      omega

/-- Lowering turns no letter into a mark. -/
theorem toLower_eq_iff {c mark : Char} (hmark : mark.isAlpha = false) :
    c.toLower = mark ↔ c = mark := by
  cases h : c.isUpper with
  | false => rw [toLower_of_not_isUpper h]
  | true =>
      have hrange := isUpper_iff.mp h
      have hmark : (mark.isUpper || mark.isLower) = false := hmark
      rw [Bool.or_eq_false_iff, ← Bool.not_eq_true, ← Bool.not_eq_true, isUpper_iff,
        isLower_iff] at hmark
      constructor
      · rintro rfl
        rw [toNat_toLower h] at hmark
        omega
      · rintro rfl
        exact absurd hrange hmark.1

theorem mem_map_toLower_iff {mark : Char} (hmark : mark.isAlpha = false) {cs : List Char} :
    mark ∈ cs.map Char.toLower ↔ mark ∈ cs := by
  rw [List.mem_map]
  constructor
  · rintro ⟨c, hc, heq⟩
    rwa [(toLower_eq_iff hmark).mp heq] at hc
  · exact fun h => ⟨mark, h, (toLower_eq_iff hmark).mpr rfl⟩

/-! ## Addresses by their parts -/

/-- Whether a text holds none of the given marks. -/
def FreeOf (marks cs : List Char) : Prop :=
  ∀ mark ∈ marks, mark ∉ cs

instance (marks cs : List Char) : Decidable (FreeOf marks cs) :=
  List.decidableBAll _ marks

/-- The marks behind a scheme. -/
def schemeEnd : List Char :=
  [':', '/', '/']

/-- The marks that end an authority. -/
def ends : List Char :=
  ['/', '?', '#']

theorem isAlpha_of_mem_ends {mark : Char} (h : mark ∈ '@' :: ends) : mark.isAlpha = false := by
  simp only [ends, List.mem_cons, List.not_mem_nil, or_false] at h
  rcases h with rfl | rfl | rfl | rfl <;> rfl

/-- What may be the host of an address: a name, or anything in brackets. -/
inductive IsHost : List Char → Prop
  | name {cs : List Char} (ne_nil : cs ≠ []) (free : FreeOf ['/', '?', '#', '@', ':'] cs)
    (bare : cs.head? ≠ some '[') : IsHost cs
  | bracketed {inside : List Char} (free : FreeOf [']', '/', '?', '#', '@'] inside) :
    IsHost ('[' :: (inside ++ [']']))

/-- An address of the web by its parts, none of which holds a mark that ends it. User information
may hold `@` and `:`, what follows the authority may hold anything. -/
structure Address where
  secure : Bool
  user : Option (List Char)
  host : List Char
  port : Option (List Char)
  tail : List Char
  free_user : ∀ info, user = some info → FreeOf ends info
  isHost : IsHost host
  free_port : ∀ number, port = some number → FreeOf ('@' :: ends) number
  ends_tail : ∀ c, tail.head? = some c → c ∈ ends

namespace Address

/-- The scheme, without the marks behind it. -/
def scheme (a : Address) : List Char :=
  if a.secure then "https".toList else "http".toList

/-- The user information and the mark behind it, if there is any. -/
def userPart (a : Address) : List Char :=
  match a.user with
  | some info => info ++ ['@']
  | none => []

/-- The number and the mark in front of it, if there is any. -/
def portPart (a : Address) : List Char :=
  match a.port with
  | some number => ':' :: number
  | none => []

/-- The address written down. -/
def url (a : Address) : String :=
  String.ofList (a.scheme ++ schemeEnd ++ (a.userPart ++ (a.host ++ a.portPart) ++ a.tail))

end Address

/-! ## Cuts in an address -/

variable {cs front back : List Char}

theorem afterScheme?_append {scheme : List Char} (h : ':' ∉ scheme) (rest : List Char) :
    afterScheme? (scheme ++ schemeEnd ++ rest) = some rest := by
  induction scheme with
  | nil => rfl
  | cons c scheme ih =>
      rw [List.mem_cons, not_or] at h
      rw [List.cons_append, List.cons_append, afterScheme?, ih h.2]
      exact fun _ hc => absurd hc.symm h.1

theorem endsAuthority_iff {c : Char} : endsAuthority c = true ↔ c ∈ ends := by
  simp [endsAuthority, ends, or_assoc]

theorem authority_append (h : FreeOf ends front) (hback : ∀ c, back.head? = some c → c ∈ ends) :
    authority (front ++ back) = front := by
  have hfront : ∀ c ∈ front, (!endsAuthority c) = true := by
    intro c hc
    rw [Bool.not_eq_true', ← Bool.not_eq_true, endsAuthority_iff]
    exact fun hmark => h c hmark hc
  rw [authority, List.takeWhile_append_of_pos hfront]
  cases back with
  | nil => rw [List.takeWhile_nil, List.append_nil]
  | cons c back =>
      have hc : (!endsAuthority c) = false := by
        rw [Bool.not_eq_false', endsAuthority_iff]
        exact hback c rfl
      rw [List.takeWhile_cons_of_neg (by rw [hc]; decide), List.append_nil]

theorem dropUserInfo_of_notMem (h : '@' ∉ cs) : dropUserInfo cs = cs := by
  rw [← List.mem_reverse] at h
  rw [dropUserInfo, takeWhile_bne_of_notMem h, List.reverse_reverse]

theorem dropUserInfo_append (h : '@' ∉ back) (info : List Char) :
    dropUserInfo (info ++ '@' :: back) = back := by
  rw [← List.mem_reverse] at h
  rw [dropUserInfo, List.reverse_append, List.reverse_cons, List.append_assoc,
    List.singleton_append, takeWhile_bne_append h, List.reverse_reverse]

theorem takeBracketed_cons_of_ne {c : Char} (h : c ≠ ']') (cs : List Char) :
    takeBracketed (c :: cs) = c :: takeBracketed cs := by
  rw [takeBracketed]
  exact h

theorem takeBracketed_append (h : ']' ∉ front) (back : List Char) :
    takeBracketed (front ++ ']' :: back) = front ++ [']'] := by
  induction front with
  | nil => rfl
  | cons c front ih =>
      rw [List.mem_cons, not_or] at h
      rw [List.cons_append, takeBracketed_cons_of_ne (Ne.symm h.1), ih h.2, List.cons_append]

theorem dropNumber_of_ne (h : cs.head? ≠ some '[') : dropNumber cs = cs.takeWhile (· != ':') := by
  unfold dropNumber
  split
  · exact absurd rfl h
  · rfl

/-- Behind a host nothing but a number may follow, and that is dropped. -/
theorem dropNumber_append (h : IsHost front) (hback : ∀ c, back.head? = some c → c = ':') :
    dropNumber (front ++ back) = front := by
  cases h with
  | bracketed hfree =>
      rename_i inside
      have hclose : ']' ∉ '[' :: inside := by
        rw [List.mem_cons, not_or]
        exact ⟨by decide, hfree ']' List.mem_cons_self⟩
      show takeBracketed ('[' :: (inside ++ [']'] ++ back)) = '[' :: (inside ++ [']'])
      rw [List.append_assoc, List.singleton_append, ← List.cons_append,
        takeBracketed_append hclose, List.cons_append]
  | name hne hfree hbare =>
      have hcolon : ':' ∉ front := hfree ':' (by decide)
      have hhead : (front ++ back).head? ≠ some '[' := by
        obtain ⟨c, front, rfl⟩ := List.exists_cons_of_ne_nil hne
        exact hbare
      rw [dropNumber_of_ne hhead]
      cases back with
      | nil => rw [List.append_nil, takeWhile_bne_of_notMem hcolon]
      | cons c back =>
          obtain rfl := hback c rfl
          exact takeWhile_bne_append hcolon back

/-! ## Addresses and their hosts -/

theorem FreeOf.append {marks : List Char} (h : FreeOf marks front) (h' : FreeOf marks back) :
    FreeOf marks (front ++ back) :=
  fun mark hmark hmem => (List.mem_append.mp hmem).elim (h mark hmark) (h' mark hmark)

theorem FreeOf.mono {marks marks' : List Char} (h : FreeOf marks cs) (hsub : marks' ⊆ marks) :
    FreeOf marks' cs :=
  fun mark hmark => h mark (hsub hmark)

theorem FreeOf.lower {marks : List Char} (h : FreeOf marks cs)
    (hmarks : ∀ mark ∈ marks, mark.isAlpha = false) : FreeOf marks (cs.map Char.toLower) :=
  fun mark hmark hmem => h mark hmark ((mem_map_toLower_iff (hmarks mark hmark)).mp hmem)

theorem IsHost.ne_nil (h : IsHost cs) : cs ≠ [] := by
  cases h with
  | name hne => exact hne
  | bracketed => exact List.cons_ne_nil _ _

theorem IsHost.free (h : IsHost cs) : FreeOf ('@' :: ends) cs := by
  cases h with
  | name _ hfree => exact hfree.mono (by decide)
  | bracketed hfree =>
      have hopen : FreeOf ('@' :: ends) ['['] := by decide
      have hclose : FreeOf ('@' :: ends) [']'] := by decide
      exact hopen.append ((hfree.mono (by decide)).append hclose)

namespace Address

theorem free_portPart (a : Address) : FreeOf ('@' :: ends) a.portPart := by
  unfold portPart
  split
  · rename_i number hnumber
    have hcolon : FreeOf ('@' :: ends) [':'] := by decide
    exact hcolon.append (a.free_port number hnumber)
  · exact fun _ _ => List.not_mem_nil

theorem free_userPart (a : Address) : FreeOf ends a.userPart := by
  unfold userPart
  split
  · rename_i info hinfo
    have hat : FreeOf ends ['@'] := by decide
    exact (a.free_user info hinfo).append hat
  · exact fun _ _ => List.not_mem_nil

theorem head?_portPart (a : Address) : ∀ c, a.portPart.head? = some c → c = ':' := by
  unfold portPart
  split
  · exact fun c hc => (Option.some.inj hc).symm
  · exact fun c hc => nomatch hc

theorem dropUserInfo_userPart (a : Address) (h : '@' ∉ back) :
    dropUserInfo (a.userPart ++ back) = back := by
  unfold userPart
  split
  · rw [List.append_assoc, List.singleton_append, dropUserInfo_append h]
  · exact dropUserInfo_of_notMem h

/-- The host of an address is the one that was put there. -/
theorem host?_url (a : Address) :
    host? a.url = some (String.ofList (a.host.map Char.toLower)) := by
  have hscheme : ':' ∉ a.scheme := by
    unfold scheme
    split <;> decide
  have hbehind : FreeOf ('@' :: ends) (a.host ++ a.portPart) := a.isHost.free.append a.free_portPart
  have hinside : FreeOf ends (a.userPart ++ (a.host ++ a.portPart)) :=
    a.free_userPart.append (hbehind.mono (List.subset_cons_self _ _))
  have hhost : dropNumber (dropUserInfo (authority
      (a.userPart ++ (a.host ++ a.portPart) ++ a.tail))) = a.host := by
    rw [authority_append hinside a.ends_tail,
      dropUserInfo_userPart a (hbehind '@' List.mem_cons_self),
      dropNumber_append a.isHost a.head?_portPart]
  rw [host?, url, String.toList_ofList, hostChars?, afterScheme?_append hscheme]
  dsimp only
  rw [hhost, if_neg (by simpa using a.isHost.ne_nil)]
  rfl

end Address

/-! ## Cuts in any text -/

/-- Whether a text is an address with a given authority: that stands behind the first `://` and
stops where the text ends or a mark ends it. -/
structure HasAuthority (url scheme authority tail : List Char) : Prop where
  eq : url = scheme ++ schemeEnd ++ (authority ++ tail)
  first : ∀ before behind, url = before ++ schemeEnd ++ behind → scheme.length ≤ before.length
  free : FreeOf ends authority
  ends_tail : ∀ c, tail.head? = some c → c ∈ ends

/-- What a host looks like where it is shown, and where in the address it comes from: it is a piece
of the authority, but for case, and begins where that begins, if there is no `@` in it, or else
behind the last one. -/
structure IsShown (url host : List Char) : Prop where
  ne_nil : host ≠ []
  free : FreeOf ('@' :: ends) host
  lowered : ∀ c ∈ host, c.isUpper = false
  colon : ':' ∈ host → host.head? = some '['
  piece : ∃ scheme tail info raw number, HasAuthority url scheme (info ++ (raw ++ number)) tail
    ∧ '@' ∉ raw ++ number ∧ (info = [] ∨ info.getLast? = some '@')
    ∧ raw.map Char.toLower = host

theorem eq_append_of_afterScheme? {url rest : List Char} (h : afterScheme? url = some rest) :
    ∃ scheme, url = scheme ++ schemeEnd ++ rest
      ∧ ∀ before behind, url = before ++ schemeEnd ++ behind →
        scheme.length ≤ before.length := by
  fun_induction afterScheme? url with
  | case1 rest' =>
      obtain rfl := Option.some.inj h
      exact ⟨[], rfl, fun _ _ _ => Nat.zero_le _⟩
  | case2 c cs hno ih =>
      obtain ⟨scheme, rfl, hfirst⟩ := ih h
      refine ⟨c :: scheme, rfl, fun before behind heq => ?_⟩
      cases before with
      | nil =>
          obtain ⟨rfl, hbehind⟩ := List.cons.inj heq
          exact (hno behind rfl hbehind).elim
      | cons d before => exact Nat.succ_le_succ (hfirst before behind (List.cons.inj heq).2)
  | case3 => exact nomatch h

theorem hasAuthority_of_afterScheme? {url rest : List Char} (h : afterScheme? url = some rest) :
    ∃ scheme tail, HasAuthority url scheme (authority rest) tail := by
  obtain ⟨scheme, heq, hfirst⟩ := eq_append_of_afterScheme? h
  refine ⟨scheme, rest.dropWhile (fun c => !endsAuthority c), ?_, hfirst, ?_, ?_⟩
  · rw [authority, List.takeWhile_append_dropWhile, heq]
  · intro mark hmark hmem
    have hinside := List.mem_takeWhile_imp hmem
    rw [Bool.not_eq_true', ← Bool.not_eq_true, endsAuthority_iff] at hinside
    exact hinside hmark
  · intro c hc
    have hout := List.head?_dropWhile_not (fun c => !endsAuthority c) rest
    rw [hc] at hout
    exact endsAuthority_iff.mp ((Bool.not_eq_false' _).mp hout)

theorem dropUserInfo_cases (cs : List Char) :
    ∃ info, cs = info ++ dropUserInfo cs ∧ '@' ∉ dropUserInfo cs
      ∧ (info = [] ∨ info.getLast? = some '@') := by
  by_cases hmem : '@' ∈ cs
  · obtain ⟨back, front, heq, hback⟩ := List.eq_append_cons_of_mem (List.mem_reverse.mpr hmem)
    have heq : cs = front.reverse ++ '@' :: back.reverse := by
      rw [← List.reverse_reverse cs, heq, List.reverse_append, List.reverse_cons,
        List.append_assoc, List.singleton_append]
    rw [← List.mem_reverse] at hback
    rw [heq, dropUserInfo_append hback]
    refine ⟨front.reverse ++ ['@'], ?_, hback, .inr List.getLast?_concat⟩
    rw [List.append_assoc, List.singleton_append]
  · rw [dropUserInfo_of_notMem hmem]
    exact ⟨[], rfl, hmem, .inl rfl⟩

theorem takeBracketed_prefix (cs : List Char) : takeBracketed cs <+: cs := by
  fun_induction takeBracketed cs with
  | case1 => exact List.prefix_rfl
  | case2 cs => exact List.cons_prefix_cons.mpr ⟨rfl, List.nil_prefix⟩
  | case3 c cs _ ih => exact List.cons_prefix_cons.mpr ⟨rfl, ih⟩

theorem dropNumber_prefix (cs : List Char) : dropNumber cs <+: cs := by
  unfold dropNumber
  split
  · exact takeBracketed_prefix _
  · exact List.takeWhile_prefix _

/-- Only in brackets may a host hold a colon. -/
theorem head?_dropNumber_of_colon (h : ':' ∈ dropNumber cs) :
    (dropNumber cs).head? = some '[' := by
  by_cases hopen : cs.head? = some '['
  · obtain ⟨cs, rfl⟩ := List.head?_eq_some_iff.mp hopen
    show (takeBracketed ('[' :: cs)).head? = some '['
    rw [takeBracketed_cons_of_ne (by decide)]
    rfl
  · rw [dropNumber_of_ne hopen] at h
    exact absurd (List.mem_takeWhile_imp h) (by decide)

theorem isShown_of_host? {url host : String} (h : host? url = some host) :
    IsShown url.toList host.toList := by
  obtain ⟨chars, hchars, rfl⟩ := Option.map_eq_some_iff.mp h
  rw [String.toList_ofList]
  unfold hostChars? at hchars
  split at hchars
  · exact nomatch hchars
  · rename_i rest hrest
    dsimp only at hchars
    obtain ⟨scheme, tail, hauthority⟩ := hasAuthority_of_afterScheme? hrest
    obtain ⟨info, hinfo, hat, hlast⟩ := dropUserInfo_cases (authority rest)
    obtain ⟨number, hnumber⟩ := dropNumber_prefix (dropUserInfo (authority rest))
    have hcolon := @head?_dropNumber_of_colon (dropUserInfo (authority rest))
    -- How the cuts are made no longer matters, only what is known of them.
    generalize dropNumber (dropUserInfo (authority rest)) = raw at hchars hnumber hcolon
    rw [← hnumber] at hinfo hat
    rw [hinfo] at hauthority
    simp only [Option.ite_none_left_eq_some, Option.some.injEq] at hchars
    obtain ⟨hne, rfl⟩ := hchars
    have hraw : raw ⊆ info ++ (raw ++ number) := fun c hc =>
      List.mem_append_right _ (List.mem_append_left _ hc)
    have hfree : FreeOf ('@' :: ends) raw := List.forall_mem_cons.mpr
      ⟨fun hmem => hat (List.mem_append_left _ hmem),
        fun mark hmark hmem => hauthority.free mark hmark (hraw hmem)⟩
    refine ⟨by simpa using hne, hfree.lower fun _ => isAlpha_of_mem_ends, fun c hc => ?_,
      fun hmem => ?_, scheme, tail, info, raw, number, hauthority, hat, hlast, rfl⟩
    · obtain ⟨d, -, rfl⟩ := List.mem_map.mp hc
      exact isUpper_toLower d
    · rw [List.head?_map, hcolon ((mem_map_toLower_iff (by decide)).mp hmem)]
      rfl

/-- **The host that is shown is the host.** Of every address put together from its parts, the host
is shown, lowered, whatever the other parts are. And of every text of which a host is shown, that is
a piece of the authority, but for case, from where a host begins; it is not empty, holds none of the
marks that divide an address, no colon outside of brackets, and no capital letter. -/
theorem shown_host_is_host :
    (∀ a : Address, host? a.url = some (String.ofList (a.host.map Char.toLower)))
      ∧ ∀ url host : String, host? url = some host → IsShown url.toList host.toList :=
  ⟨Address.host?_url, fun _ _ => isShown_of_host?⟩

/-- An address in which the marks around the host stand elsewhere, too. -/
private def crowded : Address where
  secure := true
  user := some "a@b:c".toList
  host := '[' :: ("::F1".toList ++ [']'])
  port := some "80:8080".toList
  tail := "/x@y:z?[u]".toList
  free_user := by
    rintro info ⟨⟩
    decide
  isHost := .bracketed (by decide)
  free_port := by
    rintro number ⟨⟩
    decide
  ends_tail := by
    rintro c ⟨⟩
    decide

theorem shown_host_is_host_crowded :
    crowded.url = "https://a@b:c@[::F1]:80:8080/x@y:z?[u]"
      ∧ host? crowded.url = some "[::f1]"
      ∧ host? "see x://d@Uni.Example:?to=e@f" = some "uni.example"
      ∧ IsShown "see x://d@Uni.Example:?to=e@f".toList "uni.example".toList := by
  obtain ⟨hbuilt, hany⟩ := shown_host_is_host
  have hshown : host? "see x://d@Uni.Example:?to=e@f" = some "uni.example" := by decide +kernel
  exact ⟨by decide +kernel, hbuilt crowded, hshown, hany _ _ hshown⟩

end Daybook.Link
