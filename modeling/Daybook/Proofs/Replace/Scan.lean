import Daybook.Proofs.Replace.References

/-!
# Templates read by byte offsets

A template can be read without going through its characters: one looks for the next dollar sign,
and cuts the text in front of it, the reference behind it and what is left at byte offsets
(`scan?`). Any such cut fails at an offset that is no boundary. None of them ever does, whatever
characters stand in the template, and the parts are those of the template (`scan?_eq_partsFrom`).
-/

namespace Daybook.Replace

open Daybook.Text

/-- What stands behind a dollar sign, and how many bytes of it are used up. There is no part if the
dollar sign stands for itself; one that is doubled uses up the second. Fails where a name cannot be
cut out. -/
def scanReference? (g : Groups) (after : List Char) : Option (Option Part × Nat) :=
  match after with
  | '$' :: _ => some (none, 1)
  | '&' :: _ => some (some .whole, 1)
  | '\x60' :: _ => some (some .front, 1)
  | '\'' :: _ => some (some .back, 1)
  | '<' :: _ =>
    match if g.hasNames then offsetOf? '>' after else none with
    | some close =>
      (slice? after 1 close).map (fun name => (some (.named (String.ofList name)), close + 1))
    | none => some (none, 0)
  | _ =>
    match numbered? g after with
    | some (index, digits) => some (some (.group index), digits)
    | none => some (none, 0)

/-- The parts of the rest of a template, with the plain text just before. Fails where a cut does. -/
def scan? (g : Groups) (plain rest : List Char) : Option (List Part) :=
  match offsetOf? '$' rest with
  | none => some (withPlain (plain ++ rest).reverse [])
  | some dollar =>
    match slice? rest 0 dollar with
    | none => none
    | some before =>
      match _hafter : cutAt? rest (dollar + 1) with
      | none => none
      | some after =>
        match scanReference? g after.2 with
        | none => none
        | some (part, used) =>
          match _hrest : cutAt? after.2 used with
          | none => none
          | some left =>
            match part with
            | some part =>
              (scan? g [] left.2).map
                (fun parts => withPlain (plain ++ before).reverse (part :: parts))
            | none => scan? g (plain ++ before ++ ['$']) left.2
termination_by rest.length
decreasing_by
  all_goals exact Nat.lt_of_le_of_lt (length_of_cutAt? _hrest) (length_lt_of_cutAt? _hafter)

/-! ## The cuts succeed -/

/-- A name is cut out at the first closing bracket. -/
theorem scanReference?_bracket (g : Groups) (rest : List Char) :
    scanReference? g ('<' :: rest)
      = some (match bracketed? g rest with
        | some (name, size) => (some (.named name), byteLength (('<' :: rest).take size))
        | none => (none, 0)) := by
  rw [scanReference?]
  rcases bracketed?_cases g rest with ⟨hclose, hnone⟩ | ⟨name, tail, hname, rfl, heq⟩
  · have hoffset : offsetOf? '>' ('<' :: rest) = none :=
      offsetOf?_of_notMem (by rw [List.mem_cons, not_or]; exact ⟨by decide, hclose⟩)
    rw [hoffset, hnone, ite_self]
  · rw [heq]
    cases g.hasNames with
    | false => rfl
    | true =>
        have hclose : '>' ∉ '<' :: name := by
          rw [List.mem_cons, not_or]
          exact ⟨by decide, hname⟩
        have hoffset : offsetOf? '>' ('<' :: (name ++ '>' :: tail))
            = some (byteLength ('<' :: name)) := offsetOf?_append hclose tail
        have hslice : slice? ('<' :: (name ++ '>' :: tail)) 1 (byteLength ('<' :: name))
            = some name := slice?_append ['<'] name ('>' :: tail)
        have htake : ('<' :: (name ++ '>' :: tail)).take (name.length + 2)
            = '<' :: name ++ ['>'] := by
          rw [List.take_succ_cons, List.take_append, List.take_of_length_le (Nat.le_succ _),
            Nat.add_sub_cancel_left]
          rfl
        rw [if_pos rfl, hoffset, if_pos rfl]
        dsimp only
        rw [hslice, htake, byteLength_append]
        rfl

/-- What is cut out behind a dollar sign is the reference there. -/
theorem scanReference?_eq (g : Groups) {after : List Char} (h : after.head? ≠ some '$') :
    scanReference? g after
      = some (match reference? g after with
        | some (part, size) => (some part, byteLength (after.take size))
        | none => (none, 0)) := by
  fun_cases reference? g after with
  | case1 => rfl
  | case2 => rfl
  | case3 => rfl
  | case4 rest =>
      rw [scanReference?_bracket]
      cases bracketed? g rest <;> rfl
  | case5 _ hmark hfront hback hbracket =>
      unfold scanReference?
      split
      · exact absurd rfl h
      · exact absurd rfl (hmark _)
      · exact absurd rfl (hfront _)
      · exact absurd rfl (hback _)
      · exact absurd rfl (hbracket _)
      · cases hnumber : numbered? g after with
        | none => rfl
        | some reference =>
            have hsize := byteLength_of_numbered? hnumber
            show some (_, reference.2) = some (_, byteLength (after.take reference.2))
            rw [hsize]

/-- One step of the scan, from one dollar sign on. The cuts up to the reference succeed. -/
theorem scan?_step (g : Groups) (plain : List Char) {before after : List Char} (h : '$' ∉ before) :
    scan? g plain (before ++ '$' :: after)
      = match scanReference? g after with
        | none => none
        | some (part, used) =>
          match cutAt? after used with
          | none => none
          | some left =>
            match part with
            | some part =>
              (scan? g [] left.2).map
                (fun parts => withPlain (plain ++ before).reverse (part :: parts))
            | none => scan? g (plain ++ before ++ ['$']) left.2 := by
  have hslice : slice? (before ++ '$' :: after) 0 (byteLength before) = some before :=
    slice?_append [] before ('$' :: after)
  have hcut : cutAt? (before ++ '$' :: after) (byteLength before + 1)
      = some (before ++ ['$'], after) := by
    have hbehind := cutAt?_append (before ++ ['$']) after
    rwa [byteLength_append, List.append_assoc] at hbehind
  rw [scan?, offsetOf?_append h]
  dsimp only
  rw [hslice]
  dsimp only
  split
  · rename_i hnone
    exact nomatch hcut.symm.trans hnone
  · rename_i cut hsome
    obtain rfl := Option.some.inj (hcut.symm.trans hsome)
    dsimp only
    cases scanReference? g after with
    | none => rfl
    | some reference =>
        dsimp only
        split
        · rename_i hnone
          rw [hnone]
        · rename_i left hleft
          rw [hleft]

/-- **Every cut at a byte offset succeeds.** Reading a template by byte offsets, where a cut inside
a character would fail, gives the parts of the template. -/
theorem scan?_eq_partsFrom (g : Groups) (plain rest : List Char) :
    scan? g plain rest = some (partsFrom g plain.reverse rest) := by
  -- By induction on the length of the rest, as it is cut in pieces.
  induction hlength : rest.length using Nat.strong_induction_on generalizing plain rest with
  | _ length ih =>
  subst hlength
  by_cases hdollar : '$' ∈ rest
  · obtain ⟨before, after, rfl, hbefore⟩ := List.eq_append_cons_of_mem hdollar
    have hshorter : ∀ n, (after.drop n).length < (before ++ '$' :: after).length := by
      intro n
      rw [List.length_drop, List.length_append, List.length_cons]
      omega
    have hplain : (plain ++ before).reverse = before.reverse ++ plain.reverse :=
      List.reverse_append
    have hdollarPlain : (plain ++ before ++ ['$']).reverse
        = '$' :: (before.reverse ++ plain.reverse) := by
      rw [List.reverse_append, hplain]
      rfl
    rw [scan?_step g plain hbefore, partsFrom_append hbefore, partsFrom, if_pos rfl]
    by_cases hdouble : after.head? = some '$'
    · obtain ⟨tail, rfl⟩ := List.head?_eq_some_iff.mp hdouble
      have hcut : cutAt? ('$' :: tail) 1 = some (['$'], tail) := cutAt?_append ['$'] tail
      rw [if_pos hdouble, scanReference?]
      dsimp only
      rw [hcut]
      dsimp only
      rw [ih tail.length (hshorter 1) _ _ rfl, hdollarPlain]
      rfl
    · rw [if_neg hdouble, scanReference?_eq g hdouble]
      cases href : reference? g after with
      | none =>
          dsimp only
          rw [cutAt?]
          dsimp only
          rw [ih after.length (hshorter 0) _ _ rfl, hdollarPlain]
      | some reference =>
          obtain ⟨part, size⟩ := reference
          dsimp only
          rw [cutAt?_take]
          dsimp only
          rw [ih _ (hshorter size) _ _ rfl, hplain]
          rfl
  · rw [scan?, offsetOf?_of_notMem hdollar, partsFrom_of_notMem hdollar, List.reverse_append]

end Daybook.Replace
