/-
Directories that paths lead to.

* `Path.IsSpelled`: the spelling of a path may be that of an entry.
* `Disk.reach`: the place of a path, if it leads to a directory.
* `Disk.makeChain_again`: a chain of directories that was stopped by something missing is stopped by
  it again; `Disk.makeChain_of_isDirectory`: one that was made is there.
-/
import LabTrust.Proofs.Disk.Changes

namespace LabTrust

/-- A path whose spelling may be that of an entry. -/
def Path.IsSpelled (p : Path) : Prop :=
  '\x00' ∉ p.chars ∧ p.chars ≠ [] ∧ (Bytes.ofChars p.chars).length < Disk.pathLimit

namespace Path

variable {p q : Path} {bound : ℕ}

/-- The paths above a path are spelled by the beginning of it. -/
lemma chars_of_mem_chain (h : q ∈ p.chain bound) : q.chars <+: p.chars ∧ q.chars ≠ [] := by
  induction bound generalizing p with
  | zero => simp [chain] at h
  | succ bound ih =>
      rw [chain] at h
      split at h
      · simp at h
      · next above habove =>
        obtain ⟨hlt, hspelling⟩ := chars_of_parent? habove
        rcases List.mem_cons.mp h with rfl | h
        · exact ⟨List.prefix_refl _, fun hnil => by simp [hnil] at hlt⟩
        · obtain ⟨habove', hne⟩ := ih h
          refine ⟨habove'.trans ?_, hne⟩
          rcases hspelling with ⟨-, s, hs⟩ | hlead | ⟨hnil, -⟩
          · exact ⟨_, hs.symm⟩
          · rw [hlead]
            exact List.take_prefix _ _
          · rw [hnil]
            exact List.nil_prefix

lemma IsSpelled.of_prefix (h : p.IsSpelled) (hq : q.chars <+: p.chars) (hne : q.chars ≠ []) :
    q.IsSpelled := by
  obtain ⟨t, ht⟩ := hq
  obtain ⟨hnul, -, hlength⟩ := h
  rw [← ht] at hnul hlength
  refine ⟨fun hmem => hnul (List.mem_append_left _ hmem), hne, ?_⟩
  rw [Bytes.ofChars, List.flatMap_append, List.length_append] at hlength
  exact Nat.lt_of_le_of_lt (Nat.le_add_right _ _) hlength

lemma IsSpelled.of_mem_chain (h : p.IsSpelled) (hq : q ∈ p.chain bound) : q.IsSpelled :=
  h.of_prefix (chars_of_mem_chain hq).1 (chars_of_mem_chain hq).2

end Path

namespace Disk

variable {d d' : Disk} {p : Path} {here l : Location} {xs ys : List (List Char)} {e : IoFailure}

/-! ### Directories at the end of paths -/

lemma follow_append_of_ok (h : d.follow here xs = .ok l) :
    d.follow here (xs ++ ys) = d.follow l ys := by
  induction xs generalizing here with
  | nil =>
      obtain rfl := Except.ok.inj h
      rfl
  | cons part rest ih =>
      rw [List.cons_append, follow]
      rw [follow] at h
      split at h
      · simp at h
      · simp at h
      · split at h
        · exact ih h
        · simp at h

lemma follow_append_of_error (h : d.follow here xs = .error e) :
    d.follow here (xs ++ ys) = .error e := by
  induction xs generalizing here with
  | nil => simp [follow] at h
  | cons part rest ih =>
      rw [List.cons_append, follow]
      rw [follow] at h
      split at h
      · exact h
      · exact h
      · split at h
        · exact ih h
        · exact h

lemma follow_ne_present (here : Location) (xs : List (List Char)) :
    d.follow here xs ≠ .error .present := by
  induction xs generalizing here with
  | nil => simp [follow]
  | cons part rest ih =>
      rw [follow]
      split
      · decide
      · decide
      · split
        · exact ih _
        · next e henter =>
          rw [enter] at henter
          split at henter
          · simp at henter
          · split at henter
            · simp at henter
            · split at henter
              · rw [← Except.error.inj henter]
                decide
              · simp at henter

/-- The place of a path, if it leads to a directory: then it can be followed one step further. -/
def reach (d : Disk) (p : Path) : Except IoFailure Location :=
  d.follow (p.start d.workdir) (p.steps ++ [['.']])

lemma enter_here (here : Location) : enter here ['.'] = .ok here := by
  rw [enter, if_pos rfl]

/-- The last step starts from a directory. -/
lemma follow_append_singleton {x : List Char} :
    d.follow here (xs ++ [x]) = (d.follow here (xs ++ [['.']])).bind (enter · x) := by
  cases h : d.follow here xs with
  | error e => rw [follow_append_of_error h, follow_append_of_error h, Except.bind]
  | ok l =>
      rw [follow_append_of_ok h, follow_append_of_ok h, follow, follow]
      cases d.entryAt l with
      | none => rfl
      | some entry =>
          cases entry with
          | file c => rfl
          | directory =>
              simp only [enter_here, follow]
              cases henter : enter l x <;> simp [Except.bind, henter]

/-- What is reached is a directory, at the place of the path. -/
lemma reach_eq_ok (h : d.reach p = .ok l) :
    d.follow (p.start d.workdir) p.steps = .ok l ∧ d.entryAt l = some .directory := by
  obtain ⟨m, hm, hdir, hl⟩ := follow_concat.mp h
  rw [enter_here, Except.ok.injEq] at hl
  exact ⟨hl ▸ hm, hl ▸ hdir⟩

lemma locate_of_isSpelled (h : p.IsSpelled) :
    d.locate p = d.follow (p.start d.workdir) p.steps := by
  obtain ⟨hnul, hnil, hlong⟩ := h
  rw [locate, if_neg (by simpa using hnul), if_neg (by simpa using hnil),
    if_neg (Nat.not_le.mpr hlong), Path.start]

/-- A path that is spelled wrongly is refused on every disk, for a reason of its own. -/
lemma locate_of_not_isSpelled (h : ¬ p.IsSpelled) (hnil : p.chars ≠ []) :
    ∃ e, e ≠ IoFailure.absent ∧ ∀ d : Disk, d.locate p = .error e := by
  by_cases hnul : '\x00' ∈ p.chars
  · exact ⟨.nulInPath, by decide, fun d => by rw [locate, if_pos (by simpa using hnul)]⟩
  · have hlong : pathLimit ≤ (Bytes.ofChars p.chars).length := by
      by_contra hlt
      exact h ⟨hnul, hnil, Nat.not_le.mp hlt⟩
    refine ⟨.nameTooLong, by decide, fun d => ?_⟩
    rw [locate, if_neg (by simpa using hnul), if_neg (by simpa using hnil), if_pos hlong]

/-! ### Making a directory again -/

lemma isDirectory_iff :
    d.isDirectory p = true ↔ ∃ l, d.locate p = .ok l ∧ d.entryAt l = some .directory := by
  have hlook : d.isDirectory p = true ↔ d.lookUp p = .ok .directory := by
    rw [isDirectory]
    split
    · next h => simp [h]
    · next h => simpa using h
  rw [hlook, lookUp_eq_ok_iff]
  simp

lemma makeDirectory_of_error (h : d.locate p = .error e) : d.makeDirectory p = .error e := by
  rw [makeDirectory, h]
  rfl

lemma isDirectory_of_error (h : d.locate p = .error e) : d.isDirectory p = false := by
  rw [← Bool.not_eq_true, isDirectory_iff, h]
  simp

lemma assureDirectory_of_error (h : d.locate p = .error e) :
    d.assureDirectory p = (.error e, d) := by
  simp [assureDirectory, makeDirectory_of_error h, isDirectory_of_error h]

lemma makeDirectory_of_isDirectory (h : d.isDirectory p = true) :
    d.makeDirectory p = .error .present := by
  obtain ⟨l, hl, hdir⟩ := isDirectory_iff.mp h
  simp [makeDirectory, hl, hdir, bind, Except.bind]

/-- A directory that is there is left alone. -/
lemma assureDirectory_of_isDirectory (h : d.isDirectory p = true) :
    d.assureDirectory p = (.ok (), d) := by
  simp [assureDirectory, makeDirectory_of_isDirectory h, h]

/-- A directory that was assured is there. -/
lemma isDirectory_of_assureDirectory (h : d.assureDirectory p = (.ok (), d')) :
    d'.isDirectory p = true := by
  rw [assureDirectory] at h
  split at h
  · next d₁ hmake =>
    obtain rfl := (Prod.mk.inj h).2
    obtain ⟨hl, hnone, hput⟩ := makeDirectory_eq_ok hmake
    have hgrows : Grows d d₁ := (changes_makeDirectory (D := fun _ => True)
      (F := fun _ => False) hmake trivial).grows
    refine isDirectory_iff.mpr ⟨_, hgrows.locate hl, ?_⟩
    have hdir : d.entryAt (p.place d.workdir) ≠ some .directory := by simp [hnone]
    rw [hput]
    exact entryAt_put_self d (ne_nil_of_entryAt_ne_directory hdir) _
  · split at h
    · next hdir =>
      obtain rfl := (Prod.mk.inj h).2
      exact hdir
    · simp at h

lemma assureDirectory_eq_error (h : d.assureDirectory p = (.error e, d')) :
    d' = d ∧ d.makeDirectory p = .error e ∧ d.isDirectory p = false := by
  rw [assureDirectory] at h
  split at h
  · simp at h
  · next e' hmake =>
    split at h
    · simp at h
    · next hdir =>
      obtain ⟨he, rfl⟩ := Prod.mk.inj h
      rw [Except.error.injEq] at he
      exact ⟨rfl, he ▸ hmake, by simpa using hdir⟩

/-! ### Making a chain again -/

variable {above chain : List Path}

lemma makeChain_cons_of_ne (h : d.makeDirectory p ≠ .error .absent) :
    d.makeChain (p :: above) = d.assureDirectory p := by
  rw [makeChain]
  split
  · next habsent => exact absurd habsent h
  · rfl

lemma isDirectory_of_makeChain (h : d.makeChain (p :: above) = (.ok (), d')) :
    d'.isDirectory p = true := by
  rw [makeChain] at h
  split at h
  · split at h
    · exact isDirectory_of_assureDirectory h
    · simp at h
  · exact isDirectory_of_assureDirectory h

lemma makeChain_of_isDirectory (h : d.isDirectory p = true) :
    d.makeChain (p :: above) = (.ok (), d) := by
  rw [makeChain, makeDirectory_of_isDirectory h]
  exact assureDirectory_of_isDirectory h

/-- What stopped a chain still stands in its way. -/
lemma exists_of_makeChain_error (h : d.makeChain chain = (.error e, d')) :
    ∃ q ∈ chain, d'.makeDirectory q = .error e ∧ d'.isDirectory q = false := by
  induction chain generalizing d with
  | nil => simp [makeChain] at h
  | cons p above ih =>
      have hassure : ∀ {d₁ : Disk}, d₁.assureDirectory p = (.error e, d') →
          ∃ q ∈ p :: above, d'.makeDirectory q = .error e ∧ d'.isDirectory q = false := by
        intro d₁ h₁
        obtain ⟨rfl, hmake, hdir⟩ := assureDirectory_eq_error h₁
        exact ⟨p, List.mem_cons_self, hmake, hdir⟩
      rw [makeChain] at h
      split at h
      · split at h
        · exact hassure h
        · next e' d₁ hchain =>
          obtain ⟨he, rfl⟩ := Prod.mk.inj h
          rw [Except.error.injEq] at he
          obtain ⟨q, hq, hstop⟩ := ih (he ▸ hchain)
          exact ⟨q, List.mem_cons_of_mem p hq, hstop⟩
      · exact hassure h

/-- Paths of which each begins with those after it. -/
def Nested (chain : List Path) : Prop :=
  chain.Pairwise fun p q => q.steps <+: p.steps ∧ q.isAbsolute = p.isAbsolute

lemma nested_chain {bound : ℕ} : Nested (p.chain bound) := by
  induction bound generalizing p with
  | zero => exact List.Pairwise.nil
  | succ bound ih =>
      rw [Path.chain]
      split
      · exact List.Pairwise.nil
      · next above habove =>
        refine List.pairwise_cons.mpr ⟨fun q hq => ?_, ih⟩
        obtain ⟨hsteps, habs⟩ := Path.steps_of_mem_chain hq
        obtain ⟨hsteps', habs'⟩ := Path.steps_of_parent? habove
        exact ⟨hsteps.trans hsteps', habs.trans habs'⟩

/-- Where a path is stopped, those that begin with it are stopped too. -/
lemma follow_of_prefix {q : Path} (hsteps : q.steps <+: p.steps)
    (habs : q.isAbsolute = p.isAbsolute)
    (h : d.follow (q.start d.workdir) q.steps = .error e) :
    d.follow (p.start d.workdir) p.steps = .error e := by
  obtain ⟨t, ht⟩ := hsteps
  have hstart : p.start d.workdir = q.start d.workdir := by rw [Path.start, Path.start, habs]
  rw [hstart, ← ht]
  exact follow_append_of_error h

lemma follow_of_makeDirectory (hp : p.IsSpelled) (h : d.makeDirectory p = .error e)
    (he : e ≠ .present) : d.follow (p.start d.workdir) p.steps = .error e := by
  rw [← locate_of_isSpelled hp]
  rw [makeDirectory] at h
  cases hl : d.locate p with
  | error e' =>
      rw [hl] at h
      exact congrArg _ (Except.error.inj h)
  | ok l =>
      rw [hl] at h
      simp only [bind, Except.bind] at h
      split at h
      · exact absurd (Except.error.inj h).symm he
      · simp at h

/-- A chain that was stopped by something missing is stopped by it again. -/
lemma makeChain_again (hnested : Nested chain) (hspelled : ∀ q ∈ chain, q.IsSpelled)
    (h : d.makeChain chain = (.error .absent, d')) :
    d'.makeChain chain = (.error .absent, d') := by
  induction chain generalizing d with
  | nil => simp [makeChain] at h
  | cons p above ih =>
      obtain ⟨hbegin, hnested⟩ := List.pairwise_cons.mp hnested
      rw [makeChain] at h
      split at h
      · split at h
        · -- all above is there, and the path itself is stopped
          next d₁ hchain =>
          obtain ⟨rfl, hmake, hdir⟩ := assureDirectory_eq_error h
          have hagain : d'.makeChain above = (.ok (), d') := by
            cases above with
            | nil => rfl
            | cons q rest => exact makeChain_of_isDirectory (isDirectory_of_makeChain hchain)
          rw [makeChain, hmake, hagain]
          exact h
        · -- what stopped a path above stops this one
          next e d₁ hchain =>
          obtain ⟨he, rfl⟩ := Prod.mk.inj h
          rw [Except.error.injEq] at he
          subst he
          obtain ⟨q, hq, hmake, -⟩ := exists_of_makeChain_error hchain
          have hq' := hspelled q (List.mem_cons_of_mem p hq)
          have hstop := follow_of_prefix (hbegin q hq).1 (hbegin q hq).2
            (follow_of_makeDirectory hq' hmake (by decide))
          have hmake' : d₁.makeDirectory p = .error .absent := by
            refine makeDirectory_of_error ?_
            rw [locate_of_isSpelled (hspelled p List.mem_cons_self)]
            exact hstop
          rw [makeChain, hmake',
            ih hnested (fun q hq => hspelled q (List.mem_cons_of_mem p hq)) hchain]
      · next hne =>
        obtain ⟨rfl, hmake, -⟩ := assureDirectory_eq_error h
        exact absurd hmake hne

end Disk

end LabTrust
