/-
Look-ups in environments.

* `Environment.find?_eq_some_iff`: a variable has a value exactly if its entry is there.
* `Environment.eq_of_find?_eq`: two environments are the same if they give all variables the same
  values.
* `Environment.find?_overlay`: of two environments the upper one wins.
* `Environment.overlay_overlay`: what was put over an environment may be put over it again.
-/
import LabTrust.Node.Environment
import LabTrust.Proofs.Ordered

namespace LabTrust

namespace Environment

variable {env env' : Environment} {name value : String}

lemma find?_eq_some_iff : env.find? name = some value ↔ (name, value) ∈ env.items := by
  simp [find?, Ordered.find?_eq_some_iff]

lemma find?_eq_none_iff : env.find? name = none ↔ name ∉ env.names := by
  rw [find?, Option.map_eq_none_iff, Ordered.find?_eq_none_iff]

/-- Two environments that give all variables the same values are the same. -/
lemma eq_of_find?_eq (h : ∀ name, env.find? name = env'.find? name) : env = env' := by
  refine Environment.ext (congrArg Ordered.items (Ordered.eq_of_find?_eq fun name => ?_))
  refine Option.ext fun entry => ?_
  obtain ⟨n, v⟩ := entry
  rw [Ordered.find?_eq_some_iff, Ordered.find?_eq_some_iff, ← find?_eq_some_iff,
    ← find?_eq_some_iff, h]

/-- A variable that comes after all others is set at the end. -/
lemma items_set_of_lt (h : ∀ entry ∈ env.items, entry.1 < name) :
    (env.set name value).items = env.items ++ [(name, value)] :=
  Ordered.insert_of_lt h

/-! ### Putting environments over each other -/

lemma mem_names_overlay (env upper : Environment) :
    name ∈ (env.overlay upper).names ↔ name ∈ env.names ∨ name ∈ upper.names :=
  Ordered.mem_names_putAll

/-- Of two environments the upper one wins. -/
lemma find?_overlay (env upper : Environment) (name : String) :
    (env.overlay upper).find? name = (upper.find? name).or (env.find? name) := by
  rw [overlay, find?, Ordered.find?_putAll _ upper.inOrder, ← Ordered.find?, find?, find?]
  cases upper.toOrdered.find? name <;> rfl

/-- What was put over an environment may be put over it again. -/
lemma overlay_overlay (env upper : Environment) :
    env.overlay (env.overlay upper) = env.overlay upper :=
  congrArg Environment.mk (Ordered.putAll_putAll env.toOrdered upper.items)

/-! ### Documents -/

/-- Entries stand in a document in their order. -/
lemma lookup_map_text (entries : List (String × String)) (name : String) :
    (entries.map fun (name, value) => (name, Data.text value)).lookup name =
      (entries.find? (Prod.fst · == name)).map (Data.text ·.2) := by
  induction entries with
  | nil => rfl
  | cons entry rest ih =>
      rw [Ordered.find?_cons, List.map_cons, List.lookup_cons, ih]
      split
      · next hname => rw [if_pos (beq_iff_eq.mp hname)]; rfl
      · next hname => rw [if_neg (beq_eq_false_iff_ne.mp hname)]

/-- What a template sees under the name of a variable. -/
lemma lookup_toData (h : env.find? name = some value) :
    (env.items.map fun (name, value) => (name, Data.text value)).lookup name =
      some (.text value) := by
  obtain ⟨entry, hentry, rfl⟩ := Option.map_eq_some_iff.mp h
  rw [lookup_map_text, ← Ordered.find?, hentry]
  rfl

end Environment

end LabTrust
