/-
Addresses as text are read back.

The text of an address is made of numbers with marks between them. Numbers hold no marks, so the
reader finds them again; what a gap stands for is the number of octets that are missing.
* `octet?_toDigits`, `group?_toDigits`: single numbers of the two forms.
* `short?_shortText`, `long?_longText`: the two forms.
* `address?_addressText?`: the text of an address is an address with the same octets.
* `length_of_address?`: an address has four or sixteen octets, and so it has a text.
* `Host.ShownAs`: how a host is shown that may be an address.
-/
import LabTrust.Host
import LabTrust.Proofs.Except
import Mathlib.Data.List.TakeWhile
import Mathlib.Tactic.IntervalCases

namespace LabTrust

namespace Host

variable {n : ℕ} {c : Char} {s rest : List Char} {groups : List ℕ} {octets : Bytes}

/-! ### Numbers -/

/-- Only zero begins with a zero. -/
lemma eq_zero_of_head?_toDigits (h : (Nat.toDigits 10 n).head? = some '0') : n = 0 := by
  induction n using Nat.strong_induction_on with
  | _ n ih =>
      rw [Nat.toDigits_eq_if (by decide)] at h
      split at h
      · next hn => interval_cases n <;> first | rfl | simp [Nat.digitChar] at h
      · next hn =>
        rw [List.head?_append_of_ne_nil _ Nat.toDigits_ne_nil] at h
        have := ih (n / 10) (by omega) h
        omega

/-- A number that one octet holds is read back. -/
lemma octet?_toDigits (h : n < 256) : octet? (Nat.toDigits 10 n) = some (UInt8.ofNat n) := by
  have hvalue : (Nat.toDigits 10 n).foldl (fun n c => 10 * n + (c.toNat - 48)) 0 = n :=
    Nat.ofDigitChars_ten_toDigits
  have hdigits : (Nat.toDigits 10 n).all Char.isDigit = true :=
    List.all_eq_true.mpr fun c hc => Nat.isDigit_of_mem_toDigits (by decide) (by decide) hc
  have hlength : (Nat.toDigits 10 n).length ≤ 3 :=
    (Nat.length_toDigits_le_iff (by decide) (by decide)).mpr (by omega)
  have hzero : (Nat.toDigits 10 n).head? = some '0' → (Nat.toDigits 10 n).length = 1 := by
    intro hhead
    rw [eq_zero_of_head?_toDigits hhead]
    rfl
  rw [octet?]
  simp only [hvalue]
  rw [if_pos ⟨Nat.toDigits_ne_nil, hdigits, hlength, by omega, hzero⟩]

/-- Hex digits are no marks, and they have their value. -/
lemma digitChar_hex (h : n < 16) :
    Bytes.hexValue? n.digitChar = some n ∧ n.digitChar ≠ ':' ∧ n.digitChar ≠ '.' := by
  interval_cases n <;> decide

/-- Hex digits are read as their number. -/
lemma mapM_hexValue?_toDigits (n : ℕ) : ∃ digits,
    (Nat.toDigits 16 n).mapM Bytes.hexValue? = some digits ∧
      digits.foldl (fun n d => 16 * n + d) 0 = n := by
  induction n using Nat.strong_induction_on with
  | _ n ih =>
      rw [Nat.toDigits_eq_if (by decide)]
      split
      · next hn =>
        refine ⟨[n], ?_, by simp⟩
        rw [List.mapM_cons, (digitChar_hex hn).1]
        rfl
      · next hn =>
        obtain ⟨digits, hdigits, hvalue⟩ := ih (n / 16) (by omega)
        refine ⟨digits ++ [n % 16], ?_, ?_⟩
        · rw [List.mapM_append, hdigits, List.mapM_cons,
            (digitChar_hex (Nat.mod_lt n (by decide))).1]
          rfl
        · rw [List.foldl_append, hvalue]
          exact Nat.div_add_mod n 16

/-- Hex digits are no marks. -/
lemma ne_mark_of_mem_toDigits (h : c ∈ Nat.toDigits 16 n) : c ≠ ':' ∧ c ≠ '.' := by
  induction n using Nat.strong_induction_on with
  | _ n ih =>
      rw [Nat.toDigits_eq_if (by decide)] at h
      split at h
      · next hn =>
        obtain rfl := List.mem_singleton.mp h
        exact (digitChar_hex hn).2
      · next hn =>
        rcases List.mem_append.mp h with h | h
        · exact ih (n / 16) (by omega) h
        · obtain rfl := List.mem_singleton.mp h
          exact (digitChar_hex (Nat.mod_lt n (by decide))).2

/-- A number that two octets hold is read back. -/
lemma group?_toDigits (h : n < 65536) : group? (Nat.toDigits 16 n) = some (Bytes.ofNat 2 n) := by
  obtain ⟨digits, hdigits, hvalue⟩ := mapM_hexValue?_toDigits n
  have hlength : (Nat.toDigits 16 n).length ≤ 4 :=
    (Nat.length_toDigits_le_iff (by decide) (by decide)).mpr h
  rw [group?, hdigits]
  simp only [Option.bind_eq_bind, Option.bind_some, hvalue]
  rw [if_pos ⟨Nat.toDigits_ne_nil, hlength⟩]
  rfl

/-! ### Rows of numbers -/

/-- The characters between marks, and the marks. -/
lemma mem_intercalate {mark : Char} {parts : List (List Char)}
    (h : c ∈ [mark].intercalate parts) : c = mark ∨ ∃ part ∈ parts, c ∈ part := by
  induction parts with
  | nil => simp at h
  | cons part parts ih =>
      cases parts with
      | nil => exact Or.inr ⟨part, by simp, by simpa using h⟩
      | cons next parts =>
          rw [List.intercalate_cons_cons, List.append_assoc, List.mem_append] at h
          rcases h with h | h
          · exact Or.inr ⟨part, List.mem_cons_self, h⟩
          · rcases List.mem_cons.mp h with h | h
            · exact Or.inl h
            · rcases ih h with h | ⟨p, hp, hc⟩
              · exact Or.inl h
              · exact Or.inr ⟨p, List.mem_cons_of_mem _ hp, hc⟩

lemma toList_groupsText (groups : List ℕ) :
    (groupsText groups).toList = [':'].intercalate (groups.map (Nat.toDigits 16)) := by
  rw [groupsText, String.toList_intercalate, List.map_map]
  congr 1
  exact List.map_congr_left fun n _ => by simp [hexText]

lemma toList_shortText (octets : Bytes) :
    (shortText octets).toList =
      ['.'].intercalate (octets.map fun b => Nat.toDigits 10 b.toNat) := by
  rw [shortText, String.toList_intercalate, List.map_map]
  congr 1
  exact List.map_congr_left fun b _ => by simp [Nat.repr_eq_ofList_toDigits]

/-- The decimal form is read back. -/
lemma short?_shortText (h : octets.length = 4) :
    short? (shortText octets).toList = some octets := by
  have hne : octets.map (fun b => Nat.toDigits 10 b.toNat) ≠ [] := by
    rw [ne_eq, List.map_eq_nil_iff]
    rintro rfl
    simp at h
  have hmark : ∀ part ∈ octets.map (fun b => Nat.toDigits 10 b.toNat), '.' ∉ part := by
    intro part hpart hmem
    obtain ⟨b, -, rfl⟩ := List.mem_map.mp hpart
    exact absurd (Nat.isDigit_of_mem_toDigits (by decide) (by decide) hmem) (by decide)
  have hread : (octets.map fun b => Nat.toDigits 10 b.toNat).mapM octet? = some octets := by
    rw [Option.mapM_eq_some_iff, List.forall₂_map_left_iff, List.forall₂_same]
    intro b _
    rw [octet?_toDigits b.toNat_lt, UInt8.ofNat_toNat]
  rw [short?, toList_shortText]
  simp only [List.splitOn_intercalate '.' hmark hne]
  rw [if_pos (by rw [List.length_map, h]), hread]

/-- What holds a colon is not in the decimal form. -/
lemma short?_eq_none (h : ':' ∈ s) : short? s = none := by
  rw [Option.eq_none_iff_forall_ne_some]
  intro octets hoctets
  rw [short?] at hoctets
  split at hoctets
  · have hparts := Option.mapM_eq_some_iff.mp hoctets
    rw [← (List.intercalate_splitOn '.' : ['.'].intercalate (s.splitOn '.') = s)] at h
    rcases mem_intercalate h with h | ⟨part, hpart, hc⟩
    · exact absurd h (by decide)
    · obtain ⟨b, hb⟩ : ∃ b, octet? part = some b := by
        obtain ⟨i, hi, rfl⟩ := List.getElem_of_mem hpart
        exact ⟨_, hparts.get hi (hparts.length_eq ▸ hi)⟩
      rw [octet?] at hb
      split at hb
      · next hdigits =>
        exact absurd (List.all_eq_true.mp hdigits.2.1 ':' hc) (by decide)
      · exact absurd hb (by simp)
  · exact absurd hoctets (by simp)

/-- Groups are read back. -/
lemma groups?_toDigits (h : ∀ g ∈ groups, g < 65536) :
    groups? (groups.map (Nat.toDigits 16)) = some (groups.flatMap (Bytes.ofNat 2)) := by
  induction groups with
  | nil => rfl
  | cons g rest ih =>
      have hg := group?_toDigits (h g List.mem_cons_self)
      have hrest := ih fun g' hg' => h g' (List.mem_cons_of_mem g hg')
      cases rest with
      | nil => simp [groups?, hg]
      | cons next rest =>
          simp only [List.map_cons, groups?, hg, Option.bind_eq_bind, Option.bind_some] at hrest ⊢
          rw [hrest]
          rfl

/-- The text of groups is cut into them. -/
lemma splitOn_groupsText (h : groups ≠ []) :
    (groupsText groups).toList.splitOn ':' = groups.map (Nat.toDigits 16) := by
  rw [toList_groupsText]
  refine List.splitOn_intercalate ':' (fun part hpart hmem => ?_) (by simpa using h)
  obtain ⟨n, -, rfl⟩ := List.mem_map.mp hpart
  exact (ne_mark_of_mem_toDigits hmem).1 rfl

/-- The text of some groups is not empty. -/
lemma toList_groupsText_ne_nil (h : groups ≠ []) : (groupsText groups).toList ≠ [] := by
  intro hnil
  have hsplit := splitOn_groupsText h
  rw [hnil] at hsplit
  obtain ⟨g, rest, rfl⟩ := List.exists_cons_of_ne_nil h
  exact Nat.toDigits_ne_nil (List.cons.inj hsplit).1.symm

/-- One side of a gap is read back. -/
lemma side?_groupsText (h : ∀ g ∈ groups, g < 65536) :
    side? (groupsText groups).toList = some (groups.flatMap (Bytes.ofNat 2)) := by
  by_cases hne : groups = []
  · subst hne
    rfl
  · rw [side?, if_neg (toList_groupsText_ne_nil hne), splitOn_groupsText hne, groups?_toDigits h]

/-! ### Gaps -/

/-- One character further. -/
lemma splitGap?_cons (h : c = ':' → s.head? ≠ some ':') :
    splitGap? (c :: s) = (splitGap? s).map fun (before, after) => (c :: before, after) := by
  rw [splitGap?]
  rintro rest rfl rfl
  exact h rfl rfl

/-- The gap lies after a text without one, unless this text ends in half of it. -/
lemma splitGap?_append (hs : splitGap? s = none) (hlast : s.getLast? ≠ some ':')
    (rest : List Char) :
    splitGap? (s ++ rest) =
      (splitGap? rest).map fun (before, after) => (s ++ before, after) := by
  induction s with
  | nil => simp
  | cons c s ih =>
      have hstep : ∀ t : List Char, c = ':' → (s ++ t).head? ≠ some ':' := by
        rintro t rfl hhead
        cases s with
        | nil => simp at hlast
        | cons d s =>
            obtain rfl : d = ':' := by simpa using hhead
            simp [splitGap?] at hs
      have hnone : splitGap? s = none := by
        have h := splitGap?_cons (hstep [] ·)
        rw [List.append_nil, hs] at h
        simpa using h.symm
      have hlast' : s.getLast? ≠ some ':' := by
        cases s with
        | nil => simp
        | cons d s => simpa using hlast
      rw [List.cons_append, splitGap?_cons (hstep rest), ih hnone hlast', Option.map_map]
      rfl

/-- A text without colons has no gap. -/
lemma splitGap?_of_notMem (h : ':' ∉ s) : splitGap? s = none := by
  induction s with
  | nil => rfl
  | cons c s ih =>
      rw [List.mem_cons, not_or] at h
      rw [splitGap?_cons (fun hc => absurd hc.symm h.1), ih h.2]
      rfl

/-- Between groups stands one colon, and none at the end. -/
lemma splitGap?_groupsText (groups : List ℕ) :
    splitGap? (groupsText groups).toList = none ∧
      (groupsText groups).toList.getLast? ≠ some ':' := by
  have hlast : ∀ n, (Nat.toDigits 16 n).getLast? ≠ some ':' := fun n h =>
    (ne_mark_of_mem_toDigits (List.mem_of_getLast? h)).1 rfl
  have hgap : ∀ n, splitGap? (Nat.toDigits 16 n) = none := fun n =>
    splitGap?_of_notMem fun h => (ne_mark_of_mem_toDigits h).1 rfl
  rw [toList_groupsText]
  induction groups with
  | nil => exact ⟨rfl, by simp⟩
  | cons n rest ih =>
      cases rest with
      | nil => exact ⟨by simpa using hgap n, by simpa using hlast n⟩
      | cons next rest =>
          simp only [List.map_cons] at ih ⊢
          obtain ⟨hnone, hend⟩ := ih
          rw [List.intercalate_cons_cons, List.append_assoc]
          obtain ⟨c, text, htext⟩ : ∃ c text,
              [':'].intercalate (Nat.toDigits 16 next :: rest.map (Nat.toDigits 16)) =
                c :: text := by
            refine List.exists_cons_of_ne_nil fun hnil => ?_
            have hne := toList_groupsText_ne_nil (List.cons_ne_nil next rest)
            rw [toList_groupsText] at hne
            exact hne hnil
          have hc : c ≠ ':' := by
            rintro rfl
            have hhead : (Nat.toDigits 16 next).head? = some ':' := by
              have h := congrArg List.head? htext
              cases rest with
              | nil => simpa using h
              | cons last rest =>
                  rw [List.map_cons, List.intercalate_cons_cons, List.append_assoc,
                    List.head?_append_of_ne_nil _ Nat.toDigits_ne_nil] at h
                  exact h
            exact (ne_mark_of_mem_toDigits (List.mem_of_mem_head? hhead)).1 rfl
          rw [htext] at hnone hend ⊢
          refine ⟨?_, ?_⟩
          · rw [splitGap?_append (hgap n) (hlast n), List.singleton_append,
              splitGap?_cons (fun _ => by simpa using hc), hnone]
            rfl
          · rw [List.getLast?_append, List.singleton_append, List.getLast?_cons_cons]
            simpa using hend

/-- The zeros that a list begins with. -/
lemma replicate_zeros (groups : List ℕ) :
    groups = List.replicate (zeros groups) 0 ++ groups.dropWhile (· = 0) := by
  have hzeros : groups.takeWhile (· = 0) = List.replicate (zeros groups) 0 :=
    List.eq_replicate_of_mem fun g hg => by simpa using List.mem_takeWhile_imp hg
  rw [← hzeros, List.takeWhile_append_dropWhile]

/-- What is found is a run of zeros. -/
lemma longestGap_spec (groups : List ℕ) (at_ : ℕ) : ∃ before after,
    groups = before ++ List.replicate (longestGap at_ groups).2 0 ++ after ∧
      (longestGap at_ groups).1 = at_ + before.length := by
  induction groups generalizing at_ with
  | nil => exact ⟨[], [], rfl, rfl⟩
  | cons g rest ih =>
      rw [longestGap]
      split
      · exact ⟨[], _, replicate_zeros (g :: rest), rfl⟩
      · obtain ⟨before, after, hrest, hstart⟩ := ih (at_ + 1)
        refine ⟨g :: before, after, congrArg (g :: ·) hrest, ?_⟩
        rw [hstart, List.length_cons]
        omega

/-! ### Octets of groups -/

/-- Groups are read off octets two by two. -/
lemma flatMap_groupsOf : ∀ {n : ℕ} {octets : Bytes}, octets.length = 2 * n →
    (groupsOf octets).flatMap (Bytes.ofNat 2) = octets ∧ (groupsOf octets).length = n ∧
      ∀ g ∈ groupsOf octets, g < 65536
  | 0, octets, h => by
      obtain rfl := List.length_eq_zero_iff.mp h
      simp [groupsOf]
  | n + 1, a :: b :: rest, h => by
      obtain ⟨hoctets, hlength, hsmall⟩ :=
        @flatMap_groupsOf n rest (by simp only [List.length_cons] at h; omega)
      have ha := a.toNat_lt
      have hb := b.toNat_lt
      have hpair : Bytes.ofNat 2 (256 * a.toNat + b.toNat) = [a, b] := by
        simp only [Bytes.ofNat, List.nil_append, List.cons_append]
        rw [show (256 * a.toNat + b.toNat) / 256 % 256 = a.toNat by omega,
          show (256 * a.toNat + b.toNat) % 256 = b.toNat by omega, UInt8.ofNat_toNat,
          UInt8.ofNat_toNat]
      refine ⟨?_, by rw [groupsOf, List.length_cons, hlength], ?_⟩
      · rw [groupsOf, List.flatMap_cons, hpair, hoctets]
        rfl
      · rw [groupsOf]
        exact List.forall_mem_cons.mpr ⟨by omega, hsmall⟩
  | n + 1, [], h => by simp at h
  | n + 1, [a], h => by
      simp only [List.length_cons, List.length_nil] at h
      omega

lemma length_flatMap_ofNat (groups : List ℕ) :
    (groups.flatMap (Bytes.ofNat 2)).length = 2 * groups.length := by
  induction groups with
  | nil => rfl
  | cons g rest ih =>
      rw [List.flatMap_cons, List.length_append, Bytes.length_ofNat, ih, List.length_cons]
      omega

lemma flatMap_replicate_zero (n : ℕ) :
    (List.replicate n 0).flatMap (Bytes.ofNat 2) = List.replicate (2 * n) 0 := by
  induction n with
  | zero => rfl
  | succ n ih =>
      rw [List.replicate_succ, List.flatMap_cons, ih, show 2 * (n + 1) = 2 * n + 1 + 1 by omega,
        List.replicate_succ, List.replicate_succ]
      rfl

/-! ### Long forms -/

/-- Two texts with a gap between them, the first one without a point. -/
lemma long?_gap {before after : List Char} {head tail : Bytes} (hgap : splitGap? before = none)
    (hlast : before.getLast? ≠ some ':') (hpoint : '.' ∉ before) (hhead : side? before = some head)
    (htail : side? after = some tail) (hlength : head.length + tail.length ≤ 14) :
    long? (before ++ ':' :: ':' :: after) =
      some (head ++ List.replicate (16 - (head.length + tail.length)) 0 ++ tail) := by
  rw [long?, splitGap?_append hgap hlast]
  have hcontains : before.contains '.' = false := by simpa using hpoint
  simp only [splitGap?, Option.map_some, List.append_nil, hcontains, Bool.false_eq_true, if_false,
    hhead, htail, Option.bind_eq_bind, Option.bind_some, hlength, if_true]
  rfl

lemma notMem_groupsText (groups : List ℕ) : '.' ∉ (groupsText groups).toList := by
  rw [toList_groupsText]
  intro h
  rcases mem_intercalate h with h | ⟨part, hpart, hc⟩
  · exact absurd h (by decide)
  · obtain ⟨n, -, rfl⟩ := List.mem_map.mp hpart
    exact (ne_mark_of_mem_toDigits hc).2 rfl

/-- The long form is read back, whichever run of zeros is left out. -/
lemma long?_longText (hlength : groups.length = 8) (hsmall : ∀ g ∈ groups, g < 65536) :
    long? (longText groups).toList = some (groups.flatMap (Bytes.ofNat 2)) := by
  have hne : groups ≠ [] := by
    rintro rfl
    simp at hlength
  obtain ⟨before, after, hgroups, hstart⟩ := longestGap_spec groups 0
  rw [longText]
  rw [Nat.zero_add] at hstart
  generalize longestGap 0 groups = gap at hgroups hstart ⊢
  obtain ⟨start, length⟩ := gap
  dsimp only at hgroups hstart ⊢
  by_cases hshort : length < 2
  · rw [if_pos hshort, long?, (splitGap?_groupsText groups).1, splitOn_groupsText hne]
    simp only [groups?_toDigits hsmall, Option.bind_eq_bind, Option.bind_some,
      length_flatMap_ofNat, hlength]
    rfl
  · have htake : groups.take start = before := by
      rw [hgroups, hstart, List.append_assoc, List.take_left]
    have hdrop : groups.drop (start + length) = after := by
      rw [hgroups, hstart, List.drop_left' (by rw [List.length_append, List.length_replicate])]
    have hparts : before.length + length + after.length = 8 := by
      have h := congrArg List.length hgroups
      simp only [List.length_append, List.length_replicate] at h
      omega
    obtain ⟨hgap, hlast⟩ := splitGap?_groupsText before
    have hbefore : ∀ g ∈ before, g < 65536 := fun g hg =>
      hsmall g (hgroups ▸ List.mem_append_left _ (List.mem_append_left _ hg))
    have hafter : ∀ g ∈ after, g < 65536 := fun g hg =>
      hsmall g (hgroups ▸ List.mem_append_right _ hg)
    have htext : (groupsText before ++ "::" ++ groupsText after).toList =
        (groupsText before).toList ++ ':' :: ':' :: (groupsText after).toList := by
      simp only [String.toList_append, List.append_assoc]
      rfl
    rw [if_neg hshort, htake, hdrop, htext,
      long?_gap hgap hlast (notMem_groupsText before) (side?_groupsText hbefore)
        (side?_groupsText hafter) (by simp only [length_flatMap_ofNat]; omega)]
    simp only [length_flatMap_ofNat]
    rw [show 16 - (2 * before.length + 2 * after.length) = 2 * length by omega, hgroups,
      List.flatMap_append, List.flatMap_append, flatMap_replicate_zero]

/-- Every long form has a colon. -/
lemma colon_mem_longText (hlength : groups.length = 8) : ':' ∈ (longText groups).toList := by
  rw [longText]
  obtain ⟨start, length⟩ := longestGap 0 groups
  dsimp only
  split
  · have hsplit : (groupsText groups).toList.splitOn ':' = groups.map (Nat.toDigits 16) :=
      splitOn_groupsText (by rintro rfl; simp at hlength)
    by_contra hmem
    rw [List.splitOn_eq_singleton hmem] at hsplit
    have h := congrArg List.length hsplit
    rw [List.length_map, hlength] at h
    simp at h
  · simp [String.toList_append]

/-- What holds a point is not a group. -/
lemma group?_eq_none (h : '.' ∈ s) : group? s = none := by
  rw [Option.eq_none_iff_forall_ne_some]
  intro bs hbs
  obtain ⟨digits, hdigits, -⟩ := Option.bind_eq_some_iff.mp hbs
  have hall := Option.mapM_eq_some_iff.mp hdigits
  obtain ⟨i, hi, hpoint⟩ := List.getElem_of_mem h
  have hdigit := hall.get hi (hall.length_eq ▸ hi)
  rw [List.get_eq_getElem, hpoint] at hdigit
  exact absurd hdigit (by simp [Bytes.hexValue?])

/-- The decimal form may stand after a group. -/
lemma side?_mapped (h : octets.length = 4) :
    side? ("ffff:".toList ++ (shortText octets).toList) = some ([255, 255] ++ octets) := by
  have hpoint : '.' ∈ (shortText octets).toList := by
    rw [toList_shortText]
    match octets, h with
    | [a, b, c, d], _ => simp [List.intercalate_cons_cons]
  have hcolon : ':' ∉ (shortText octets).toList := fun hmem => by
    simpa [short?_eq_none hmem] using short?_shortText h
  have hrow : "ffff:".toList ++ (shortText octets).toList =
      [':'].intercalate ["ffff".toList, (shortText octets).toList] := by
    rw [List.intercalate_cons_cons, List.intercalate_singleton]
    rfl
  have hsplit : ("ffff:".toList ++ (shortText octets).toList).splitOn ':' =
      ["ffff".toList, (shortText octets).toList] := by
    rw [hrow]
    refine List.splitOn_intercalate ':' (fun l hl => ?_) (by simp)
    simp only [List.mem_cons, List.not_mem_nil, or_false] at hl
    rcases hl with rfl | rfl
    · decide
    · exact hcolon
  have hffff : group? "ffff".toList = some [255, 255] := by decide
  rw [side?, if_neg (by simp), hsplit]
  simp only [groups?, hffff, group?_eq_none hpoint, short?_shortText h, Option.none_or,
    Option.bind_eq_bind, Option.bind_some]
  rfl

/-- A short address among the long ones is read back. -/
lemma long?_mapped (h : octets.length = 4) :
    long? ("::ffff:" ++ shortText octets).toList =
      some (List.replicate 10 0 ++ [255, 255] ++ octets) := by
  have htext : ("::ffff:" ++ shortText octets).toList =
      [] ++ ':' :: ':' :: ("ffff:".toList ++ (shortText octets).toList) := by
    rw [String.toList_append]
    rfl
  rw [htext, long?_gap (by rfl) (by simp) (by simp) (by rfl) (side?_mapped h) (by simp [h])]
  simp [h]

/-! ### Addresses -/

/-- The text of an address is an address with the same octets. -/
lemma address?_addressText? {text : String} (h : addressText? octets = some text) :
    address? text.toList = some octets := by
  rw [addressText?] at h
  split at h
  · next hshort =>
    obtain rfl := Option.some.inj h
    rw [address?, short?_shortText hshort, Option.some_or]
  · split at h
    · next hlong =>
      split at h
      · next hmapped =>
        obtain rfl := Option.some.inj h
        have hlength : (octets.drop 12).length = 4 := by rw [List.length_drop, hlong]
        have hcolon : ':' ∈ ("::ffff:" ++ shortText (octets.drop 12)).toList := by
          simp [String.toList_append]
        rw [address?, short?_eq_none hcolon, Option.none_or, long?_mapped hlength, ← hmapped,
          List.take_append_drop]
      · obtain rfl := Option.some.inj h
        obtain ⟨hoctets, hlength, hsmall⟩ := @flatMap_groupsOf 8 octets hlong
        rw [address?, short?_eq_none (colon_mem_longText hlength), Option.none_or,
          long?_longText hlength hsmall, hoctets]
    · exact absurd h (by simp)

/-- An address has four or sixteen octets. -/
lemma length_of_address? (h : address? s = some octets) :
    octets.length = 4 ∨ octets.length = 16 := by
  rw [address?, Option.or_eq_some_iff] at h
  rcases h with h | ⟨-, h⟩
  · rw [short?] at h
    split at h
    · next hparts =>
      exact Or.inl ((Option.mapM_eq_some_iff.mp h).length_eq.symm.trans hparts)
    · exact absurd h (by simp)
  · refine Or.inr ?_
    rw [long?] at h
    split at h
    · obtain ⟨groups, -, h⟩ := Option.bind_eq_some_iff.mp h
      split at h
      · next hlength => exact Option.some.inj h ▸ hlength
      · exact absurd h (by simp)
    · split at h
      · exact absurd h (by simp)
      · obtain ⟨head, -, h⟩ := Option.bind_eq_some_iff.mp h
        obtain ⟨tail, -, h⟩ := Option.bind_eq_some_iff.mp h
        split at h
        · next hlength =>
          obtain rfl := Option.some.inj h
          simp only [List.length_append, List.length_replicate]
          omega
        · exact absurd h (by simp)

/-- Every address has a text. -/
lemma exists_addressText? (h : address? s = some octets) :
    ∃ text, addressText? octets = some text := by
  rw [addressText?]
  rcases length_of_address? h with h | h
  · exact ⟨_, if_pos h⟩
  · rw [if_neg (by omega), if_pos h]
    split
    · exact ⟨_, rfl⟩
    · exact ⟨_, rfl⟩

/-- How a host is shown: an address by the text of its octets, which is the same address, and any
other host as it is. -/
def ShownAs (host shown : String) : Prop :=
  match address? host.toList with
  | some octets => addressText? octets = some shown ∧ address? shown.toList = some octets
  | none => shown = host

end Host

end LabTrust
