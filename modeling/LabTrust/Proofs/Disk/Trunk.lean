/-
Directories with a common one above them.

The nodes of a lab have their directories in one. Whoever makes the first of these makes the common
one too, with all that is missing above it; the others find it there, or the same obstacle.
* `Disk.trunk`: what is made above a name before the name itself, and whether that works.
* `Disk.makeDirectories_join`: a directory is made on its trunk.
* `Disk.trunk_trunk`: making the trunk once more changes nothing, and ends as before. There is one
  exception: a file in a place that was out of reach at first is met by name the first time, and
  stands in the way after that.
-/
import LabTrust.Proofs.Disk.Reach

namespace LabTrust.Disk

variable {d d' : Disk} {p : Path} {l : Location} {e : IoFailure}

/-! ### Trunks -/

/-- Makes the directories above a name in a directory, if one is missing; where they lead then. -/
def trunk (d : Disk) (p : Path) : Except IoFailure Location × Disk :=
  match d.reach p with
  | .error .absent =>
    match d.makeChain p.trimmed.ladder with
    | (.ok (), d') => (d'.reach p, d')
    | (.error e, d') => (.error e, d')
  | r => (r, d)

/-- Makes a directory of one name in another, unless it is there. -/
def sprout (d : Disk) (here : Location) (n : List Char) : Except IoFailure Unit × Disk :=
  match enter here n with
  | .error e => (.error e, d)
  | .ok l =>
    match d.entryAt l with
    | none => (.ok (), d.put l .directory)
    | some .directory => (.ok (), d)
    | some (.file _) => (.error .present, d)

lemma trunk_of_reach_ne_absent (h : d.reach p ≠ .error .absent) : d.trunk p = (d.reach p, d) := by
  rw [trunk]
  split
  · next habsent => exact absurd habsent h
  · rfl

lemma trunk_of_reach_absent (h : d.reach p = .error .absent) :
    d.trunk p = (match d.makeChain p.trimmed.ladder with
      | (.ok (), d') => (d'.reach p, d')
      | (.error e, d') => (.error e, d')) := by
  rw [trunk, h]

section Join

variable {n : List Char}

lemma locate_join (hn : Path.IsName n) (hp : (p.join ⟨n⟩).IsSpelled) :
    d.locate (p.join ⟨n⟩) = (d.reach p).bind (enter · n) := by
  rw [locate_of_isSpelled hp, Path.steps_join p hn, Path.start, Path.isAbsolute_join p hn]
  exact follow_append_singleton

lemma assureDirectory_join (hn : Path.IsName n) (hp : (p.join ⟨n⟩).IsSpelled) :
    d.assureDirectory (p.join ⟨n⟩) = (match d.reach p with
      | .ok here => d.sprout here n
      | .error e => (.error e, d)) := by
  have hlocate := @locate_join d p n hn hp
  cases hreach : d.reach p with
  | error e =>
      rw [hreach] at hlocate
      exact assureDirectory_of_error hlocate
  | ok here =>
      rw [hreach] at hlocate
      simp only [sprout]
      cases henter : enter here n with
      | error e => exact assureDirectory_of_error (hlocate.trans henter)
      | ok l =>
          have hl : d.locate (p.join ⟨n⟩) = .ok l := hlocate.trans henter
          cases hentry : d.entryAt l with
          | none => simp [assureDirectory, makeDirectory, hl, hentry, bind, Except.bind]
          | some entry =>
              have hpresent : d.makeDirectory (p.join ⟨n⟩) = .error .present := by
                simp [makeDirectory, hl, hentry, bind, Except.bind]
              cases entry with
              | directory =>
                  rw [assureDirectory_of_isDirectory (isDirectory_iff.mpr ⟨l, hl, hentry⟩)]
                  simp only [hentry]
              | file c =>
                  have hdir : d.isDirectory (p.join ⟨n⟩) = false := by
                    rw [← Bool.not_eq_true, isDirectory_iff, hl]
                    simp [hentry]
                  simp [assureDirectory, hpresent, hdir, hentry]

lemma makeDirectory_join_eq_absent_iff (hn : Path.IsName n) (hp : (p.join ⟨n⟩).IsSpelled) :
    d.makeDirectory (p.join ⟨n⟩) = .error .absent ↔ d.reach p = .error .absent := by
  have hlocate := @locate_join d p n hn hp
  cases hreach : d.reach p with
  | error e =>
      rw [hreach] at hlocate
      rw [makeDirectory_of_error hlocate]
      simp
  | ok here =>
      rw [hreach] at hlocate
      refine ⟨fun h => ?_, fun h => by simp at h⟩
      cases henter : enter here n with
      | error e =>
          rw [makeDirectory_of_error (hlocate.trans henter), Except.error.injEq] at h
          rw [enter, if_neg hn.ne_here, if_neg hn.ne_up] at henter
          split at henter
          · rw [← Except.error.inj henter] at h
            simp at h
          · simp at henter
      | ok l =>
          rw [makeDirectory, hlocate] at h
          simp only [Except.bind, bind, henter] at h
          split at h <;> simp at h

/-- A directory is made from its trunk up. -/
lemma makeDirectories_join_eq (hn : Path.IsName n) :
    d.makeDirectories (p.join ⟨n⟩) = d.makeChain (p.join ⟨n⟩ :: p.trimmed.ladder) := by
  rw [← Path.ladder_join p hn]
  rfl

/-- The paths of the trunk are spelled as well as it is. -/
lemma isSpelled_of_mem_ladder (hn : Path.IsName n) (hp : (p.join ⟨n⟩).IsSpelled) :
    ∀ q ∈ p.trimmed.ladder, q.IsSpelled := by
  intro q hq
  have hmem : q ∈ (p.join ⟨n⟩).ladder := Path.ladder_join p hn ▸ List.mem_cons_of_mem _ hq
  exact hp.of_mem_chain hmem

/-- A directory is made on its trunk. -/
lemma makeDirectories_join (hn : Path.IsName n) (hp : (p.join ⟨n⟩).IsSpelled) :
    d.makeDirectories (p.join ⟨n⟩) = (match d.trunk p with
      | (.ok here, d') => d'.sprout here n
      | (.error e, d') => (.error e, d')) := by
  rw [makeDirectories_join_eq hn, makeChain]
  by_cases habsent : d.reach p = .error .absent
  · rw [(makeDirectory_join_eq_absent_iff hn hp).mpr habsent, trunk_of_reach_absent habsent]
    rcases d.makeChain p.trimmed.ladder with ⟨_ | _, d'⟩
    · rfl
    · simp only [assureDirectory_join hn hp]
      cases d'.reach p <;> rfl
  · have hne := mt (makeDirectory_join_eq_absent_iff hn hp).mp habsent
    rw [trunk_of_reach_ne_absent habsent]
    split
    · next h => exact absurd h hne
    · rw [assureDirectory_join hn hp]
      cases d.reach p <;> rfl

/-- A directory whose path is spelled wrongly is refused on every disk. -/
lemma makeDirectories_join_of_not_isSpelled (hn : Path.IsName n) (hp : ¬ (p.join ⟨n⟩).IsSpelled) :
    ∃ e, ∀ d : Disk, d.makeDirectories (p.join ⟨n⟩) = (.error e, d) := by
  have hnil : (p.join ⟨n⟩).chars ≠ [] := by
    have hlt := (Path.chars_of_parent? (Path.parent?_join p hn)).1
    intro h
    simp [h] at hlt
  obtain ⟨e, he, hlocate⟩ := locate_of_not_isSpelled hp hnil
  refine ⟨e, fun d => ?_⟩
  rw [makeDirectories_join_eq hn, makeChain, makeDirectory_of_error (hlocate d)]
  split
  · next h => exact absurd (Except.error.inj h) he
  · exact assureDirectory_of_error (hlocate d)

end Join

/-! ### Making a trunk again -/

/-- Something else lies where a directory of the path has to be, and it was out of reach so far. -/
def Blocked (d : Disk) (p : Path) : Prop :=
  d.reach p = .error .absent ∧ (d.makeDirectories p.trimmed).1 = .error .present

/-- What stopped the chain above a name stops the way to it. -/
lemma reach_of_makeDirectory_error (hp : ∀ q ∈ p.trimmed.ladder, q.IsSpelled) {q : Path}
    (hq : q ∈ p.trimmed.ladder) (hmake : d.makeDirectory q = .error e)
    (hdir : d.isDirectory q = false) :
    d.reach p = .error (if e = .present then .notDirectory else e) := by
  obtain ⟨hsteps, habs⟩ := Path.steps_of_mem_chain hq
  have hbegin : q.steps <+: p.steps := hsteps.trans (Path.steps_trimmed p)
  have hstart : p.start d.workdir = q.start d.workdir := by
    rw [Path.start, Path.start, habs, Path.isAbsolute_trimmed]
  obtain ⟨t, ht⟩ := hbegin
  rw [reach, hstart, ← ht, List.append_assoc]
  split
  · next hpresent =>
    subst hpresent
    cases hl : d.locate q with
    | error e =>
        rw [makeDirectory_of_error hl, Except.error.injEq] at hmake
        subst hmake
        rw [locate_of_isSpelled (hp q hq)] at hl
        exact absurd hl (follow_ne_present _ _)
    | ok l =>
        have hfile : ∃ c, d.entryAt l = some (.file c) := by
          cases hentry : d.entryAt l with
          | none => simp [makeDirectory, hl, hentry, bind, Except.bind] at hmake
          | some entry =>
              cases entry with
              | file c => exact ⟨c, rfl⟩
              | directory =>
                  rw [isDirectory_iff.mpr ⟨l, hl, hentry⟩] at hdir
                  simp at hdir
        obtain ⟨c, hc⟩ := hfile
        rw [locate_of_isSpelled (hp q hq)] at hl
        rw [follow_append_of_ok hl]
        cases t <;> simp [follow, hc]
  · next hne => exact follow_append_of_error (follow_of_makeDirectory (hp q hq) hmake hne)

/-- Making a trunk again changes nothing, and ends as before unless it was blocked. -/
lemma trunk_trunk (hp : ∀ q ∈ p.trimmed.ladder, q.IsSpelled) :
    ∃ r, (d.trunk p).2.trunk p = (r, (d.trunk p).2) ∧ (r = (d.trunk p).1 ∨
      d.Blocked p ∧ (d.trunk p).1 = .error .present ∧ r = .error .notDirectory) := by
  by_cases habsent : d.reach p = .error .absent
  swap
  · rw [trunk_of_reach_ne_absent habsent]
    exact ⟨_, trunk_of_reach_ne_absent habsent, Or.inl rfl⟩
  rw [trunk_of_reach_absent habsent]
  rcases hchain : d.makeChain p.trimmed.ladder with ⟨e | _, d'⟩
  · -- the chain was stopped
    obtain ⟨q, hq, hmake, hdir⟩ := exists_of_makeChain_error hchain
    have hreach := reach_of_makeDirectory_error hp hq hmake hdir
    by_cases hpresent : e = .present
    · subst hpresent
      rw [if_pos rfl] at hreach
      refine ⟨.error .notDirectory, ?_, Or.inr ⟨⟨habsent, ?_⟩, rfl, rfl⟩⟩
      · rw [trunk_of_reach_ne_absent (by rw [hreach]; decide), hreach]
      · exact congrArg Prod.fst hchain
    · rw [if_neg hpresent] at hreach
      by_cases hmissing : e = .absent
      · subst hmissing
        have hsame : d'.makeChain p.trimmed.ladder = (.error .absent, d') :=
          makeChain_again nested_chain hp hchain
        refine ⟨.error .absent, ?_, Or.inl rfl⟩
        rw [trunk_of_reach_absent hreach, hsame]
      · refine ⟨.error e, ?_, Or.inl rfl⟩
        rw [trunk_of_reach_ne_absent (by simpa [hreach] using hmissing), hreach]
  · -- the chain was made
    refine ⟨d'.reach p, ?_, Or.inl rfl⟩
    by_cases hagain : d'.reach p = .error .absent
    · have hsame : d'.makeChain p.trimmed.ladder = (.ok (), d') := by
        cases hladder : p.trimmed.ladder with
        | nil => rfl
        | cons q above =>
            rw [hladder] at hchain
            exact makeChain_of_isDirectory (isDirectory_of_makeChain hchain)
      rw [trunk_of_reach_absent hagain, hsame]
    · exact trunk_of_reach_ne_absent hagain

end LabTrust.Disk
