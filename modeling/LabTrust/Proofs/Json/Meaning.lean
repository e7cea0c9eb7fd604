/-
What a text stands for when it is pasted between two quotes.

* `meaning?`: the text that is read.
* `IsPlain`: no quote, no backslash and no control character; `meaning?_of_plain` says that a plain
  text stands for itself.
* `Pastes`: a text that makes a string between two quotes, so that no quote of its own ends the
  string.
* `meaning?_append`: the meaning of two texts with a plain text between them.
-/
import LabTrust.Proofs.Json.Strings

namespace LabTrust.Json

variable {u : List Symbol} {ps : List Piece}

/-- The text that a text stands for between two quotes. -/
def meaning? (s : String) : Option String :=
  match pieces? (ofText s ++ [some '"']) with
  | some (ps, []) => (assemble? ps).map String.ofList
  | _ => none

lemma meaning?_of_inside {s : String} (h : Inside (ofText s) ps) :
    meaning? s = (assemble? ps).map String.ofList := by
  rw [meaning?, inside_iff.1 h]

/-- A text that can be pasted between two quotes as it is. -/
def IsPlain (s : String) : Prop :=
  ∀ c ∈ s.toList, c ≠ '"' ∧ c ≠ '\\' ∧ ¬ c.toNat < 32

-- The characters of the text are tried, not all characters.
instance (s : String) : Decidable (IsPlain s) :=
  @List.decidableBAll Char (fun c => c ≠ '"' ∧ c ≠ '\\' ∧ ¬ c.toNat < 32) inferInstance s.toList

lemma IsPlain.inside {s : String} (h : IsPlain s) : Inside (ofText s) (s.toList.map .char) := by
  have hchars : ∀ cs : List Char, (∀ c ∈ cs, c ≠ '"' ∧ c ≠ '\\' ∧ ¬ c.toNat < 32) →
      Inside (cs.map some) (cs.map .char) := by
    intro cs hcs
    induction cs with
    | nil => exact .nil
    | cons c cs ih =>
        obtain ⟨quote, slash, control⟩ := hcs c List.mem_cons_self
        exact .cons (.char quote slash control) (ih fun d hd => hcs d (List.mem_cons_of_mem _ hd))
  exact hchars _ h

/-- Without a backslash every character of a string stands for itself. -/
lemma Inside.plain_of_noSlash (h : Inside u ps) (hs : some '\\' ∉ u) {c : Char}
    (hc : some c ∈ u) : c ≠ '"' ∧ c ≠ '\\' ∧ ¬ c.toNat < 32 := by
  induction h with
  | nil => simp at hc
  | @cons x u p ps head _ ih =>
      rcases List.mem_append.1 hc with hc | hc
      · cases head with
        | stray => simp at hc
        | char quote slash control =>
            obtain rfl : c = _ := by simpa using hc
            exact ⟨quote, slash, control⟩
        | escape => simp at hs
        | code => simp at hs
      · exact ih (fun hm => hs (List.mem_append_right _ hm)) hc

lemma Inside.isPlain {s : String} (h : Inside (ofText s) ps) (hs : '\\' ∉ s.toList) :
    IsPlain s :=
  fun _ hc => h.plain_of_noSlash (by simpa [ofText] using hs) (by simpa [ofText] using hc)

theorem meaning?_of_plain {s : String} (h : IsPlain s) : meaning? s = some s := by
  rw [meaning?_of_inside h.inside, assemble?_chars, Option.map_some, String.ofList_toList]

/-- A text makes a string between two quotes. -/
def Pastes (s : String) : Prop := ∃ ps, Inside (ofText s) ps

lemma IsPlain.pastes {s : String} (h : IsPlain s) : Pastes s := ⟨_, h.inside⟩

lemma Pastes.append {s t : String} (hs : Pastes s) (ht : Pastes t) : Pastes (s ++ t) := by
  obtain ⟨ps, hs⟩ := hs
  obtain ⟨qs, ht⟩ := ht
  exact ⟨ps ++ qs, by rw [ofText_append]; exact hs.append ht⟩

lemma pastes_of_meaning? {s m : String} (h : meaning? s = some m) : Pastes s := by
  rw [meaning?] at h
  split at h
  · next ps hps => exact ⟨ps, inside_iff.2 hps⟩
  · cases h

/-- A text that begins with characters that stand for themselves. -/
lemma meaning?_plain_append {s t : String} (hs : IsPlain s) (ht : Pastes t) :
    meaning? (s ++ t) = (meaning? t).map (s ++ ·) := by
  obtain ⟨qs, hqs⟩ := ht
  have hin : Inside (ofText (s ++ t)) (s.toList.map .char ++ qs) := by
    rw [ofText_append]
    exact hs.inside.append hqs
  rw [meaning?_of_inside hin, meaning?_of_inside hqs, assemble?_chars_append, Option.map_map,
    Option.map_map]
  congr 1
  funext cs
  simp

/-- A plain text keeps the meanings before it and after it apart. -/
lemma meaning?_append {s t sep : String} (hs : Pastes s) (hsep : IsPlain sep) (hne : sep ≠ "")
    (ht : Pastes t) : meaning? (s ++ sep ++ t) =
      (meaning? s).bind fun a => (meaning? t).map fun b => a ++ sep ++ b := by
  obtain ⟨ps, hps⟩ := hs
  obtain ⟨qs, hqs⟩ := ht
  obtain ⟨c, cs, hcs⟩ := List.exists_cons_of_ne_nil (by simpa using hne : sep.toList ≠ [])
  have hin : Inside (ofText (s ++ sep ++ t)) (ps ++ .char c :: (cs.map .char ++ qs)) := by
    have hmid := hsep.inside
    rw [hcs, List.map_cons] at hmid
    rw [ofText_append, ofText_append]
    simpa using (hps.append hmid).append hqs
  rw [meaning?_of_inside hin, meaning?_of_inside hps, meaning?_of_inside hqs,
    assemble?_append_char, assemble?_chars_append]
  cases assemble? ps with
  | none => rfl
  | some a =>
      cases assemble? qs with
      | none => rfl
      | some b => simp [← String.toList_inj, hcs]

/-- A text that ends in characters that stand for themselves. -/
lemma meaning?_append_plain {s t : String} (hs : Pastes s) (ht : IsPlain t) (hne : t ≠ "") :
    meaning? (s ++ t) = (meaning? s).map (· ++ t) := by
  have hnil : IsPlain "" := by decide
  have h := meaning?_append hs ht hne hnil.pastes
  rw [meaning?_of_plain hnil, String.append_empty] at h
  rw [h]
  cases meaning? s <;> simp

end LabTrust.Json
