/-
Disks that agree.

* `Disk.Agrees`: two disks hold the same at some places.
* `Disk.Agrees.trunk`: a trunk hangs on the places that its path passes, and on nothing else.
* `Disk.madeAlike`: a directory is made alike on two disks, if the one agrees with the other as it
  is before or after the trunk was made there.
-/
import LabTrust.Proofs.Disk.Trunk

namespace LabTrust.Disk

variable {d d' : Disk} {p : Path} {here l : Location} {xs : List (List Char)} {e : IoFailure}
  {chain : List Path}

/-! ### Disks that agree -/

variable {S : Location → Prop}

/-- Two disks with the same entries at some places. -/
structure Agrees (S : Location → Prop) (d d' : Disk) : Prop where
  workdir : d'.workdir = d.workdir
  entry : ∀ l, S l → d'.entryAt l = d.entryAt l

lemma Agrees.refl (S : Location → Prop) (d : Disk) : Agrees S d d := ⟨rfl, fun _ _ => rfl⟩

namespace Agrees

lemma symm (h : Agrees S d d') : Agrees S d' d :=
  ⟨h.workdir.symm, fun l hl => (h.entry l hl).symm⟩

lemma trans {d'' : Disk} (h : Agrees S d d') (h' : Agrees S d' d'') : Agrees S d d'' :=
  ⟨h'.workdir.trans h.workdir, fun l hl => (h'.entry l hl).trans (h.entry l hl)⟩

lemma put (h : Agrees S d d') (l : Location) (entry : Entry) :
    Agrees S (d.put l entry) (d'.put l entry) := by
  refine ⟨h.workdir, fun k hk => ?_⟩
  by_cases hkl : k = l
  · subst hkl
    by_cases hnil : k = []
    · simp [entryAt, hnil]
    · rw [entryAt_put_self d' hnil, entryAt_put_self d hnil]
  · rw [entryAt_put_of_ne d' hkl, entryAt_put_of_ne d hkl]
    exact h.entry k hk

/-- Following a path looks at the places that it passes, the last one excepted. -/
lemma follow_eq (hentry : ∀ parts, parts <+: xs → parts.length < xs.length →
    d'.entryAt (parts.foldl turn here) = d.entryAt (parts.foldl turn here)) :
    d'.follow here xs = d.follow here xs := by
  induction xs generalizing here with
  | nil => rw [follow, follow]
  | cons part rest ih =>
      have hhere := hentry [] List.nil_prefix (by simp)
      rw [List.foldl_nil] at hhere
      rw [follow, follow, hhere]
      cases d.entryAt here with
      | none => rfl
      | some entry =>
          cases entry with
          | file c => rfl
          | directory =>
              cases henter : enter here part with
              | error e => rfl
              | ok next =>
                  refine ih fun parts hparts hlength => ?_
                  have hnext := hentry (part :: parts) (List.cons_prefix_cons.mpr ⟨rfl, hparts⟩)
                    (by simpa using hlength)
                  rwa [List.foldl_cons, ← turn_of_enter henter] at hnext

/-- Only the places that a path passes decide whether it leads to a directory. -/
lemma reach_eq (h : Agrees (p.Passes d.workdir) d d') : d'.reach p = d.reach p := by
  rw [reach, reach, h.workdir]
  refine follow_eq fun parts hparts hlength => h.entry _ ⟨parts, ?_, rfl⟩
  rcases List.prefix_concat_iff.mp hparts with rfl | hparts
  · exact absurd hlength (Nat.lt_irrefl _)
  · exact hparts

variable {q : Path}

lemma locate_eq (h : Agrees (p.Passes d.workdir) d d') (hsteps : q.steps <+: p.steps)
    (habs : q.isAbsolute = p.isAbsolute) : d'.locate q = d.locate q := by
  have hfollow : d'.follow (q.start d'.workdir) q.steps = d.follow (q.start d.workdir) q.steps := by
    rw [h.workdir]
    refine follow_eq fun parts hparts _ => h.entry _ ⟨parts, hparts.trans hsteps, ?_⟩
    rw [Path.start, Path.start, habs]
  rw [locate, locate]
  exact congrArg _ (congrArg _ (congrArg _ hfollow))

/-- What is made for the beginning of a path is made alike. -/
lemma makeDirectory (h : Agrees (p.Passes d.workdir) d d') (hsteps : q.steps <+: p.steps)
    (habs : q.isAbsolute = p.isAbsolute) :
    (∃ e, d.makeDirectory q = .error e ∧ d'.makeDirectory q = .error e) ∨
      ∃ l, d.makeDirectory q = .ok (d.put l .directory) ∧
        d'.makeDirectory q = .ok (d'.put l .directory) := by
  have hlocate := h.locate_eq hsteps habs
  cases hl : d.locate q with
  | error e =>
      exact Or.inl ⟨e, makeDirectory_of_error hl, makeDirectory_of_error (hlocate.trans hl)⟩
  | ok l =>
      have hl' := hlocate.trans hl
      have hpasses : p.Passes d.workdir l := by
        refine ⟨q.steps, hsteps, ?_⟩
        rw [locate_eq_place hl, Path.place, Path.start, Path.start, habs]
      have hentry := h.entry l hpasses
      cases hentry' : d.entryAt l with
      | none =>
          rw [hentry'] at hentry
          exact Or.inr ⟨l, by simp [Disk.makeDirectory, hl, hentry', bind, Except.bind],
            by simp [Disk.makeDirectory, hl', hentry, bind, Except.bind]⟩
      | some entry =>
          rw [hentry'] at hentry
          exact Or.inl ⟨.present, by simp [Disk.makeDirectory, hl, hentry', bind, Except.bind],
            by simp [Disk.makeDirectory, hl', hentry, bind, Except.bind]⟩

lemma isDirectory_eq (h : Agrees (p.Passes d.workdir) d d') (hsteps : q.steps <+: p.steps)
    (habs : q.isAbsolute = p.isAbsolute) : d'.isDirectory q = d.isDirectory q := by
  have hlocate := h.locate_eq hsteps habs
  rw [Bool.eq_iff_iff, isDirectory_iff, isDirectory_iff, hlocate]
  refine exists_congr fun l => and_congr_right fun hl => ?_
  have hpasses : p.Passes d.workdir l := by
    refine ⟨q.steps, hsteps, ?_⟩
    rw [locate_eq_place hl, Path.place, Path.start, Path.start, habs]
  rw [h.entry l hpasses]

lemma assureDirectory (h : Agrees (p.Passes d.workdir) d d') (hsteps : q.steps <+: p.steps)
    (habs : q.isAbsolute = p.isAbsolute) :
    (d'.assureDirectory q).1 = (d.assureDirectory q).1 ∧
      Agrees (p.Passes d.workdir) (d.assureDirectory q).2 (d'.assureDirectory q).2 := by
  rcases h.makeDirectory hsteps habs with ⟨e, hmake, hmake'⟩ | ⟨l, hmake, hmake'⟩
  · have hdir := h.isDirectory_eq hsteps habs
    simp only [Disk.assureDirectory, hmake, hmake', hdir]
    split
    · exact ⟨rfl, h⟩
    · exact ⟨rfl, h⟩
  · simp only [Disk.assureDirectory, hmake, hmake']
    exact ⟨trivial, h.put l .directory⟩

lemma makeChain (h : Agrees (p.Passes d.workdir) d d')
    (hchain : ∀ q ∈ chain, q.steps <+: p.steps ∧ q.isAbsolute = p.isAbsolute) :
    (d'.makeChain chain).1 = (d.makeChain chain).1 ∧
      Agrees (p.Passes d.workdir) (d.makeChain chain).2 (d'.makeChain chain).2 := by
  induction chain with
  | nil => exact ⟨rfl, h⟩
  | cons q above ih =>
      obtain ⟨hsteps, habs⟩ := hchain q List.mem_cons_self
      obtain ⟨hresult, hdisk⟩ := ih fun q hq => hchain q (List.mem_cons_of_mem _ hq)
      have hmake : d'.makeDirectory q = .error .absent ↔ d.makeDirectory q = .error .absent := by
        rcases h.makeDirectory hsteps habs with ⟨e, hmake, hmake'⟩ | ⟨l, hmake, hmake'⟩ <;>
          simp [hmake, hmake']
      by_cases habsent : d.makeDirectory q = .error .absent
      swap
      · rw [makeChain_cons_of_ne habsent, makeChain_cons_of_ne (mt hmake.mp habsent)]
        exact h.assureDirectory hsteps habs
      rw [Disk.makeChain, Disk.makeChain, habsent, hmake.mpr habsent]
      have hworkdir : (d.makeChain above).2.workdir = d.workdir :=
        (changes_makeChain (D := fun _ => True) (F := fun _ => False) above
          fun _ _ => trivial).workdir
      rcases hfirst : d.makeChain above with ⟨r, d₁⟩
      rcases hsecond : d'.makeChain above with ⟨r', d₁'⟩
      rw [hfirst, hsecond] at hresult hdisk
      rw [hfirst] at hworkdir
      obtain rfl : r' = r := hresult
      cases r' with
      | error e => exact ⟨rfl, hdisk⟩
      | ok u =>
          rw [← hworkdir] at hdisk ⊢
          exact hdisk.assureDirectory hsteps habs

/-- A trunk hangs on the places that its path passes, and on nothing else. -/
lemma trunk (h : Agrees (p.Passes d.workdir) d d') :
    (d'.trunk p).1 = (d.trunk p).1 ∧
      Agrees (p.Passes d.workdir) (d.trunk p).2 (d'.trunk p).2 := by
  have hreach := h.reach_eq
  by_cases habsent : d.reach p = .error .absent
  swap
  · rw [trunk_of_reach_ne_absent habsent, trunk_of_reach_ne_absent (hreach ▸ habsent)]
    exact ⟨hreach, h⟩
  rw [trunk_of_reach_absent habsent, trunk_of_reach_absent (hreach.trans habsent)]
  have hworkdir : (d.makeChain p.trimmed.ladder).2.workdir = d.workdir :=
    (changes_makeChain (D := fun _ => True) (F := fun _ => False) _ fun _ _ => trivial).workdir
  have hladder : ∀ q ∈ p.trimmed.ladder, q.steps <+: p.steps ∧ q.isAbsolute = p.isAbsolute :=
    fun q hq => ⟨(Path.steps_of_mem_chain hq).1.trans (Path.steps_trimmed p),
      (Path.steps_of_mem_chain hq).2.trans (Path.isAbsolute_trimmed p)⟩
  obtain ⟨hresult, hdisk⟩ := h.makeChain hladder
  rcases hfirst : d.makeChain p.trimmed.ladder with ⟨r, d₁⟩
  rcases hsecond : d'.makeChain p.trimmed.ladder with ⟨r', d₁'⟩
  rw [hfirst, hsecond] at hresult hdisk
  rw [hfirst] at hworkdir
  obtain rfl : r' = r := hresult
  cases r' with
  | error e => exact ⟨rfl, hdisk⟩
  | ok u =>
      rw [← hworkdir] at hdisk ⊢
      exact ⟨hdisk.reach_eq, hdisk⟩

end Agrees

/-- A trunk makes directories at places that its path passes. -/
lemma changes_trunk (d : Disk) (p : Path) :
    Changes (p.Passes d.workdir) (fun _ => False) d (d.trunk p).2 := by
  by_cases habsent : d.reach p = .error .absent
  · have hchain : Changes (p.Passes d.workdir) (fun _ => False) d
        (d.makeChain p.trimmed.ladder).2 :=
      changes_makeChain _ fun _ hq => Path.passes_trimmed (Path.passes_of_mem_ladder hq)
    rw [trunk_of_reach_absent habsent]
    rcases hmade : d.makeChain p.trimmed.ladder with ⟨_ | _, d'⟩ <;> rwa [hmade] at hchain
  · rw [trunk_of_reach_ne_absent habsent]
    exact Changes.refl _ _ _

/-- It changes nothing else. -/
lemma entryAt_trunk (hl : ¬ p.Passes d.workdir l) : (d.trunk p).2.entryAt l = d.entryAt l :=
  ((changes_trunk d p).entry l).resolve_right (by simp [hl])

/-- A trunk that was made leads to a directory, over directories. -/
lemma reach_of_trunk {d' : Disk} (h : d.trunk p = (.ok l, d')) : d'.reach p = .ok l := by
  by_cases habsent : d.reach p = .error .absent
  · rw [trunk_of_reach_absent habsent] at h
    split at h
    · obtain ⟨hl, rfl⟩ := Prod.mk.inj h
      exact hl
    · simp at h
  · rw [trunk_of_reach_ne_absent habsent] at h
    obtain ⟨hl, rfl⟩ := Prod.mk.inj h
    exact hl

lemma entryAt_of_reach {k : Location} (h : d.reach p = .ok l) (hk : p.Passes d.workdir k) :
    d.entryAt k = some .directory := by
  obtain ⟨parts, ⟨t, ht⟩, rfl⟩ := hk
  rw [reach, ← ht, List.append_assoc] at h
  cases hm : d.follow (p.start d.workdir) parts with
  | error e =>
      rw [follow_append_of_error hm] at h
      simp at h
  | ok m =>
      rw [follow_append_of_ok hm] at h
      obtain rfl := follow_eq_foldl hm
      obtain ⟨x, xs, hx⟩ := List.exists_cons_of_ne_nil (show t ++ [['.']] ≠ [] by simp)
      rw [hx, follow] at h
      split at h
      · simp at h
      · simp at h
      · next hdir => exact hdir

lemma place_of_reach (h : d.reach p = .ok l) : l = p.place d.workdir :=
  follow_eq_foldl (reach_eq_ok h).1

namespace Agrees

/-- Two disks that agree with one before or after its trunk was made agree with it afterwards. -/
lemma trunk_again {d₀ : Disk} (hp : ∀ q ∈ p.trimmed.ladder, q.IsSpelled)
    (h : Agrees (p.Passes d₀.workdir) d₀ d ∨ Agrees (p.Passes d₀.workdir) (d₀.trunk p).2 d) :
    Agrees (p.Passes d₀.workdir) (d₀.trunk p).2 (d.trunk p).2 ∧
      ((d.trunk p).1 = (d₀.trunk p).1 ∨ d₀.Blocked p ∧ (d₀.trunk p).1 = .error .present ∧
        (d.trunk p).1 = .error .notDirectory) := by
  rcases h with h | h
  · exact ⟨h.trunk.2, Or.inl h.trunk.1⟩
  · have hworkdir : (d₀.trunk p).2.workdir = d₀.workdir := (changes_trunk d₀ p).workdir
    obtain ⟨r, htrunk, hr⟩ := trunk_trunk (d := d₀) hp
    rw [← hworkdir] at h ⊢
    obtain ⟨hresult, hagrees⟩ := h.trunk
    rw [htrunk] at hresult hagrees
    refine ⟨hagrees, ?_⟩
    rw [hresult]
    exact hr

/-- Writing looks at the places that a path passes. -/
lemma write {c : Bytes} (h : Agrees S d d') (hS : ∀ l, p.Passes d.workdir l → S l) :
    (∃ e, d.write p c = .error e ∧ d'.write p c = .error e) ∨
      d.entryAt (p.place d.workdir) ≠ some .directory ∧
        d.write p c = .ok (d.put (p.place d.workdir) (.file c)) ∧
        d'.write p c = .ok (d'.put (p.place d.workdir) (.file c)) := by
  have hpasses : Agrees (p.Passes d.workdir) d d' := ⟨h.workdir, fun l hl => h.entry l (hS l hl)⟩
  have hlocate := hpasses.locate_eq (List.prefix_refl _) rfl
  cases hl : d.locate p with
  | error e => exact Or.inl ⟨e, by rw [Disk.write, hl]; rfl, by rw [Disk.write, hlocate, hl]; rfl⟩
  | ok l =>
      obtain rfl := locate_eq_place hl
      have hentry := hpasses.entry _ (Path.passes_place p)
      simp only [Disk.write, hlocate, hl, bind, Except.bind, hentry]
      split
      · exact Or.inl ⟨_, rfl, rfl⟩
      · next hdir =>
        simp only [Bool.or_eq_true, beq_iff_eq, not_or] at hdir
        exact Or.inr ⟨hdir.2, rfl, rfl⟩

/-- An entry elsewhere is not seen. -/
lemma of_put (hl : ¬ S l) (entry : Entry) : Agrees S d (d.put l entry) := by
  refine ⟨rfl, fun k hk => entryAt_put_of_ne d ?_ entry⟩
  rintro rfl
  exact hl hk

end Agrees

/-! ### The same directory on two disks -/

/-- Making a directory goes alike on two disks. `r₀` and `r` are its results on the one and on the
other; `p` is the directory above. -/
structure MadeAlike (p : Path) (d₀ d : Disk) (r₀ r : Except IoFailure Unit × Disk) : Prop where
  answer : r.1 = r₀.1 ∨
    d₀.Blocked p ∧ r₀.1 = .error .present ∧ r.1 = .error .notDirectory
  trunk : (∃ e, r₀ = (.error e, d₀) ∧ r = (.error e, d)) ∨
    Agrees (p.Passes d₀.workdir) (d₀.trunk p).2 r₀.2 ∧
      Agrees (p.Passes d₀.workdir) (d₀.trunk p).2 r.2
  reached : r₀.1 = .ok () → ∃ here, (d₀.trunk p).1 = .ok here
  elsewhere : ∀ l, ¬ p.Passes d₀.workdir l → d.entryAt l = d₀.entryAt l →
    r.2.entryAt l = r₀.2.entryAt l

variable {n : List Char} {d₀ : Disk}

/-- Names sprout alike where the same lies at their place. -/
lemma sprout_cases (hn : Path.IsName n) (h : d'.entryAt (l ++ [n]) = d.entryAt (l ++ [n])) :
    (∃ e, d.sprout l n = (.error e, d) ∧ d'.sprout l n = (.error e, d')) ∨
      (d.sprout l n = (.ok (), d) ∧ d'.sprout l n = (.ok (), d')) ∨
      d.entryAt (l ++ [n]) = none ∧ d.sprout l n = (.ok (), d.put (l ++ [n]) .directory) ∧
        d'.sprout l n = (.ok (), d'.put (l ++ [n]) .directory) := by
  rw [sprout, sprout]
  cases henter : enter l n with
  | error e => exact Or.inl ⟨e, rfl, rfl⟩
  | ok k =>
      obtain ⟨-, rfl⟩ := (enter_of_isName hn).mp henter
      simp only [h]
      cases d.entryAt (l ++ [n]) with
      | none => exact Or.inr (Or.inr ⟨rfl, rfl, rfl⟩)
      | some entry =>
          cases entry with
          | directory => exact Or.inr (Or.inl ⟨rfl, rfl⟩)
          | file c => exact Or.inl ⟨_, rfl, rfl⟩

/-- Where two disks agree on the way to a directory, and the same lies at the place of a name in it,
the name sprouts alike, and nothing is made on the way. -/
lemma sprout_alike (hn : Path.IsName n) (hreach : d.reach p = .ok l)
    (hagrees : Agrees (p.Passes d.workdir) d d')
    (hentry : d'.entryAt (l ++ [n]) = d.entryAt (l ++ [n])) :
    (d'.sprout l n).1 = (d.sprout l n).1 ∧ Agrees (p.Passes d.workdir) d (d.sprout l n).2 ∧
      Agrees (p.Passes d.workdir) d (d'.sprout l n).2 ∧
        ∀ k, d'.entryAt k = d.entryAt k →
          (d'.sprout l n).2.entryAt k = (d.sprout l n).2.entryAt k := by
  rcases sprout_cases hn hentry with ⟨e, h, h'⟩ | ⟨h, h'⟩ | ⟨hnone, h, h'⟩
  · simp only [h, h']
    exact ⟨trivial, Agrees.refl _ _, hagrees, fun _ hk => hk⟩
  · simp only [h, h']
    exact ⟨trivial, Agrees.refl _ _, hagrees, fun _ hk => hk⟩
  · simp only [h, h']
    -- the way leads over directories only
    have hS : ¬ p.Passes d.workdir (l ++ [n]) := by
      intro hS
      rw [entryAt_of_reach hreach hS] at hnone
      simp at hnone
    refine ⟨trivial, Agrees.of_put hS _, hagrees.trans (Agrees.of_put hS _), fun k hk => ?_⟩
    by_cases heq : k = l ++ [n]
    · subst heq
      rw [entryAt_put_self _ (by simp), entryAt_put_self _ (by simp)]
    · rw [entryAt_put_of_ne _ heq, entryAt_put_of_ne _ heq]
      exact hk

/-- A directory is made alike on a disk that agrees with another one before or after its trunk was
made there, if the same lies at the place of the directory itself. -/
lemma madeAlike (hn : Path.IsName n)
    (h : Agrees (p.Passes d₀.workdir) d₀ d ∨ Agrees (p.Passes d₀.workdir) (d₀.trunk p).2 d)
    (hplace : ¬ p.Passes d₀.workdir (p.place d₀.workdir ++ [n]) →
      d.entryAt (p.place d₀.workdir ++ [n]) = d₀.entryAt (p.place d₀.workdir ++ [n])) :
    MadeAlike p d₀ d (d₀.makeDirectories (p.join ⟨n⟩)) (d.makeDirectories (p.join ⟨n⟩)) := by
  by_cases hspelled : (p.join ⟨n⟩).IsSpelled
  swap
  · obtain ⟨e, he⟩ := makeDirectories_join_of_not_isSpelled hn hspelled
    rw [he, he]
    exact ⟨Or.inl rfl, Or.inl ⟨e, rfl, rfl⟩, nofun, fun _ _ hl => hl⟩
  obtain ⟨hagrees, hresult⟩ := Agrees.trunk_again (isSpelled_of_mem_ladder hn hspelled) h
  have hworkdir : d.workdir = d₀.workdir := by
    rcases h with h | h
    · exact h.workdir
    · exact h.workdir.trans (changes_trunk d₀ p).workdir
  have helsewhere : ∀ l, ¬ p.Passes d₀.workdir l → d.entryAt l = d₀.entryAt l →
      (d.trunk p).2.entryAt l = (d₀.trunk p).2.entryAt l := by
    intro l hl heq
    rw [entryAt_trunk hl, entryAt_trunk (hworkdir.symm ▸ hl), heq]
  have hworkdir₀ : (d₀.trunk p).2.workdir = d₀.workdir := (changes_trunk d₀ p).workdir
  rw [makeDirectories_join hn hspelled, makeDirectories_join hn hspelled]
  rcases htrunk₀ : d₀.trunk p with ⟨a₀, d₁⟩
  rcases htrunk : d.trunk p with ⟨a, d₂⟩
  rw [htrunk₀] at hagrees hresult helsewhere hworkdir₀
  rw [htrunk] at hagrees hresult helsewhere
  have htrunks : Agrees (p.Passes d₀.workdir) (d₀.trunk p).2 d₁ := htrunk₀ ▸ Agrees.refl _ _
  cases a₀ with
  | error e =>
      rcases hresult with heq | ⟨hblocked, he, he'⟩
      · obtain rfl : a = .error e := heq
        exact ⟨Or.inl rfl, Or.inr ⟨htrunks, htrunks.trans hagrees⟩, nofun, helsewhere⟩
      · obtain rfl : e = .present := Except.error.inj he
        obtain rfl : a = .error .notDirectory := he'
        exact ⟨Or.inr ⟨hblocked, rfl, rfl⟩, Or.inr ⟨htrunks, htrunks.trans hagrees⟩, nofun,
          helsewhere⟩
  | ok here =>
      obtain rfl : a = .ok here := by
        rcases hresult with rfl | ⟨-, he, -⟩
        · rfl
        · simp at he
      have hreach := reach_of_trunk htrunk₀
      obtain rfl : here = p.place d₀.workdir := hworkdir₀ ▸ place_of_reach hreach
      have hentry : d₂.entryAt (p.place d₀.workdir ++ [n]) =
          d₁.entryAt (p.place d₀.workdir ++ [n]) := by
        by_cases hS : p.Passes d₀.workdir (p.place d₀.workdir ++ [n])
        · exact hagrees.entry _ hS
        · exact helsewhere _ hS (hplace hS)
      obtain ⟨hanswer, hfirst, hsecond, hrest⟩ :=
        sprout_alike hn hreach (hworkdir₀.symm ▸ hagrees) hentry
      rw [hworkdir₀] at hfirst hsecond
      exact ⟨Or.inl hanswer, Or.inr ⟨htrunks.trans hfirst, htrunks.trans hsecond⟩,
        fun _ => ⟨_, by rw [htrunk₀]⟩, fun l hl heq => hrest l (helsewhere l hl heq)⟩

end LabTrust.Disk
