/-
A lab makes the certificates of its nodes.

The root comes first, and then a call for each node that gets a certificate, on the world that the
calls before it have left. What such a call does does not hang on what happens after a failure; that
only says whether there is a next one.
* `World.course`: the effects of a program, its result, and the world that it leaves.
* `Lab.attempts`: the calls for nodes, one after the other, whether they work or not.
* `Report.Splits`: each call is reported once, as a node that got its certificate or as a failure.
* `Lab.provision_course`: all that happens, for both modes, in terms of these calls.
-/
import LabTrust.Lab
import LabTrust.Proofs.Program.Always

namespace LabTrust

variable {σ α β ε : Type} {authority : Authority σ} {lab : Lab} {w : World σ}

/-! ### Courses -/

/-- What a program does: its effects, each with the world it leaves, then its result, and the world
at the end. -/
structure Course (σ α : Type) where
  steps : List (Effect × World σ)
  result : α
  after : World σ

/-- The course with other effects before it. -/
def Course.behind (c : Course σ α) (steps : List (Effect × World σ)) : Course σ α :=
  { c with steps := steps ++ c.steps }

namespace World

/-- The course of a program on a world. -/
def course (authority : Authority σ) (p : Program α) (w : World σ) : Course σ α :=
  ⟨p.trail (handle authority) w, (run authority p w).1, (run authority p w).2⟩

lemma course_done (a : α) : course authority (.done a) w = ⟨[], a, w⟩ := rfl

/-- A sequence does what its first part does, and then what the second does from there. -/
lemma course_bind (p : Program α) (f : α → Program β) :
    course authority (p.bind f) w =
      (course authority (f (course authority p w).result) (course authority p w).after).behind
        (course authority p w).steps := by
  rw [course, Program.trail_bind, run, Program.run_bind]
  rfl

lemma course_map (p : Program α) (f : α → β) :
    course authority (p.bind fun a => .done (f a)) w =
      ⟨(course authority p w).steps, f (course authority p w).result,
        (course authority p w).after⟩ := by
  rw [course_bind, course_done, Course.behind, List.append_nil]

/-- A program that cannot fail gives its result. -/
lemma course_of (p : Program α) :
    course authority (Action.of p).run w =
      ⟨(course authority p w).steps, .ok (course authority p w).result,
        (course authority p w).after⟩ :=
  course_map p Except.ok

/-- A sequence of programs that may fail goes on from the result of its first part. -/
lemma course_bind_of_ok {a : ExceptT ε Program α} {f : α → ExceptT ε Program β} {x : α}
    (h : (course authority a.run w).result = .ok x) :
    course authority (a >>= f).run w =
      (course authority (f x).run (course authority a.run w).after).behind
        (course authority a.run w).steps := by
  have h' : (course authority (a : Program (Except ε α)) w).result = .ok x := h
  refine (course_bind _ _).trans ?_
  rw [h']
  rfl

/-- A failure of the first part ends a sequence. -/
lemma course_bind_of_error {a : ExceptT ε Program α} {f : α → ExceptT ε Program β} {e : ε}
    (h : (course authority a.run w).result = .error e) :
    course authority (a >>= f).run w =
      ⟨(course authority a.run w).steps, .error e, (course authority a.run w).after⟩ := by
  have h' : (course authority (a : Program (Except ε α)) w).result = .error e := h
  refine (course_bind _ _).trans ?_
  rw [h']
  exact congrArg (Course.mk · _ _) (List.append_nil _)

end World

/-! ### Calls for nodes -/

/-- A call for a node, and its course. -/
structure Attempt (σ : Type) where
  node : NodeInfo
  course : Course σ (Except Error Bundle)

namespace Attempt

/-- The node got its certificate. -/
def Succeeds (a : Attempt σ) : Prop := ∃ b, a.course.result = .ok b

/-- How the call is recorded. -/
def outcome (a : Attempt σ) : Outcome := ⟨a.node.shortName, a.course.result⟩

variable {a : Attempt σ} {b : Bundle} {e : Error}

lemma issued?_of_ok (h : a.course.result = .ok b) : a.outcome.issued? = some a.node.shortName := by
  rw [outcome, Outcome.issued?, h]

lemma failure?_of_ok (h : a.course.result = .ok b) : a.outcome.failure? = none := by
  rw [outcome, Outcome.failure?, h]

lemma issued?_of_error (h : a.course.result = .error e) : a.outcome.issued? = none := by
  rw [outcome, Outcome.issued?, h]

lemma failure?_of_error (h : a.course.result = .error e) :
    a.outcome.failure? = some ⟨a.node.shortName, e⟩ := by
  rw [outcome, Outcome.failure?, h]

/-- The effects of calls, one call after the other. -/
def steps (attempts : List (Attempt σ)) : List (Effect × World σ) :=
  attempts.flatMap fun a => a.course.steps

/-- The world that calls have left. -/
def after (w : World σ) (attempts : List (Attempt σ)) : World σ :=
  attempts.foldl (fun _ a => a.course.after) w

/-- Either all calls succeed, or one is the first that fails. -/
lemma succeed_or_first_fails (attempts : List (Attempt σ)) :
    (∀ a ∈ attempts, a.Succeeds) ∨ ∃ done a rest e, attempts = done ++ a :: rest ∧
      (∀ b ∈ done, b.Succeeds) ∧ a.course.result = .error e := by
  induction attempts with
  | nil => exact Or.inl fun a ha => absurd ha List.not_mem_nil
  | cons a attempts ih =>
      cases ha : a.course.result with
      | error e =>
          exact Or.inr ⟨[], a, attempts, e, rfl, fun b hb => absurd hb List.not_mem_nil, ha⟩
      | ok b =>
          rcases ih with hall | ⟨done, c, rest, e, rfl, hdone, hc⟩
          · exact Or.inl (List.forall_mem_cons.mpr ⟨⟨b, ha⟩, hall⟩)
          · exact Or.inr ⟨a :: done, c, rest, e, rfl, List.forall_mem_cons.mpr ⟨⟨b, ha⟩, hdone⟩, hc⟩

end Attempt

/-- The calls for nodes in order, each on the world that those before it left. -/
def Lab.attempts (authority : Authority σ) (lab : Lab) : List NodeInfo → World σ → List (Attempt σ)
  | [], _ => []
  | node :: rest, w =>
    let course := World.course authority (lab.issueTo node).run w
    ⟨node, course⟩ :: lab.attempts authority rest course.after

/-- Each call is reported once: as the name of its node if it succeeds, otherwise as a failure with
its error. Both lists keep the order of the calls. -/
inductive Report.Splits : List (Attempt σ) → List String → List NodeFailure → Prop where
  | nil : Splits [] [] []
  | issued {a : Attempt σ} {b : Bundle} {rest : List (Attempt σ)} {issued : List String}
      {failed : List NodeFailure} (ha : a.course.result = .ok b) (h : Splits rest issued failed) :
      Splits (a :: rest) (a.node.shortName :: issued) failed
  | failed {a : Attempt σ} {e : Error} {rest : List (Attempt σ)} {issued : List String}
      {failed : List NodeFailure} (ha : a.course.result = .error e)
      (h : Splits rest issued failed) :
      Splits (a :: rest) issued (⟨a.node.shortName, e⟩ :: failed)

namespace Report

/-- The report of recorded calls reports each once. -/
lemma splits_ofOutcomes (root : RootOutcome) (attempts : List (Attempt σ)) :
    Splits attempts (ofOutcomes root (attempts.map Attempt.outcome)).issued
      (ofOutcomes root (attempts.map Attempt.outcome)).failed := by
  induction attempts with
  | nil => exact .nil
  | cons a rest ih =>
      rw [List.map_cons, ofOutcomes]
      cases ha : a.course.result with
      | ok b =>
          rw [List.filterMap_cons_some (Attempt.issued?_of_ok ha),
            List.filterMap_cons_none (Attempt.failure?_of_ok ha)]
          exact .issued ha ih
      | error e =>
          rw [List.filterMap_cons_none (Attempt.issued?_of_error ha),
            List.filterMap_cons_some (Attempt.failure?_of_error ha)]
          exact .failed ha ih

/-- If all calls succeed, the report names all nodes and no failure. -/
lemma ofOutcomes_of_succeeds (root : RootOutcome) {attempts : List (Attempt σ)}
    (h : ∀ a ∈ attempts, a.Succeeds) :
    ofOutcomes root (attempts.map Attempt.outcome) =
      ⟨some root, attempts.map fun a => a.node.shortName, []⟩ := by
  induction attempts with
  | nil => rfl
  | cons a rest ih =>
      obtain ⟨b, hb⟩ := h a List.mem_cons_self
      have hrest := ih fun a ha => h a (List.mem_cons_of_mem _ ha)
      simp only [ofOutcomes, mk.injEq, true_and] at hrest
      rw [List.map_cons, ofOutcomes, List.filterMap_cons_some (Attempt.issued?_of_ok hb),
        List.filterMap_cons_none (Attempt.failure?_of_ok hb), hrest.1, hrest.2, List.map_cons]

end Report

namespace Lab

lemma node_attempts (nodes : List NodeInfo) :
    (lab.attempts authority nodes w).map Attempt.node = nodes := by
  induction nodes generalizing w with
  | nil => rfl
  | cons node rest ih => exact congrArg (node :: ·) ih

/-- Going on after failures makes all calls and records them. -/
lemma course_inOrder (nodes : List NodeInfo) :
    World.course authority (Program.inOrder (nodes.map lab.tryNode)) w =
      ⟨Attempt.steps (lab.attempts authority nodes w),
        (lab.attempts authority nodes w).map Attempt.outcome,
        Attempt.after w (lab.attempts authority nodes w)⟩ := by
  induction nodes generalizing w with
  | nil => rfl
  | cons node rest ih =>
      have hnode : World.course authority (lab.tryNode node) w =
          ⟨(World.course authority (lab.issueTo node).run w).steps,
            ⟨node.shortName, (World.course authority (lab.issueTo node).run w).result⟩,
            (World.course authority (lab.issueTo node).run w).after⟩ :=
        World.course_map _ _
      rw [List.map_cons, Program.inOrder, World.course_bind, World.course_map, hnode, ih]
      rfl

lemma issueInOrder_cons (node : NodeInfo) (rest : List NodeInfo) :
    lab.issueInOrder (node :: rest) =
      lab.issueTo node >>= fun _ => lab.issueInOrder rest >>= fun names =>
        pure (node.shortName :: names) := by
  rw [issueInOrder]
  exact bind_map_left _ _ _

/-- Without a failure, stopping at failures makes all calls, too. -/
lemma course_issueInOrder_of_succeeds {nodes : List NodeInfo}
    (h : ∀ a ∈ lab.attempts authority nodes w, a.Succeeds) :
    World.course authority (lab.issueInOrder nodes).run w =
      ⟨Attempt.steps (lab.attempts authority nodes w), .ok (nodes.map NodeInfo.shortName),
        Attempt.after w (lab.attempts authority nodes w)⟩ := by
  induction nodes generalizing w with
  | nil => rfl
  | cons node rest ih =>
      obtain ⟨b, hb⟩ := h _ List.mem_cons_self
      have hrest := ih fun a ha => h a (List.mem_cons_of_mem _ ha)
      rw [issueInOrder_cons, World.course_bind_of_ok hb,
        World.course_bind_of_ok (congrArg Course.result hrest), hrest]
      exact congrArg (Course.mk · _ _) (congrArg (_ ++ ·) (List.append_nil _))

/-- The first failure is the last call. -/
lemma course_issueInOrder_of_fails {nodes : List NodeInfo} {done rest : List (Attempt σ)}
    {a : Attempt σ} {e : Error} (h : lab.attempts authority nodes w = done ++ a :: rest)
    (hdone : ∀ b ∈ done, b.Succeeds) (ha : a.course.result = .error e) :
    World.course authority (lab.issueInOrder nodes).run w =
      ⟨Attempt.steps (done ++ [a]), .error e, a.course.after⟩ := by
  induction nodes generalizing w done with
  | nil => simp [attempts] at h
  | cons node others ih =>
      rw [issueInOrder_cons]
      cases done with
      | nil =>
          obtain ⟨rfl, -⟩ := List.cons.inj h
          rw [World.course_bind_of_error ha]
          exact congrArg (Course.mk · _ _) (List.append_nil _).symm
      | cons b done =>
          obtain ⟨rfl, hothers⟩ := List.cons.inj h
          obtain ⟨c, hc⟩ := hdone _ List.mem_cons_self
          have hrest := ih hothers fun b hb => hdone b (List.mem_cons_of_mem _ hb)
          rw [World.course_bind_of_ok hc, World.course_bind_of_error (congrArg Course.result hrest),
            hrest]
          rfl

/-! ### Provisioning -/

variable {nodes : List NodeInfo} {root : RootOutcome}

lemma course_provision_of_unneeded (mode : FailureMode)
    (h : ∀ node ∈ nodes, lab.policy.requires node.kind = false) :
    World.course authority (lab.provision nodes mode).run w = ⟨[], .ok {}, w⟩ := by
  have hnone : lab.policy.qualifying nodes = [] := List.filter_eq_nil_iff.mpr (by simpa using h)
  simp only [provision, hnone, List.isEmpty_nil, if_true]
  rfl

/-- Otherwise the root comes first. -/
lemma provision_of_needed (mode : FailureMode)
    (h : ∃ node ∈ nodes, lab.policy.requires node.kind = true) :
    lab.provision nodes mode = lab.ensureRoot lab.rootInput >>= fun root =>
      match mode with
      | .abort => lab.issueInOrder (lab.policy.qualifying nodes) >>= fun issued =>
          pure { root := some root, issued }
      | .proceed => Action.of (Program.inOrder ((lab.policy.qualifying nodes).map lab.tryNode)) >>=
          fun outcomes => pure (.ofOutcomes root outcomes) := by
  have hsome : (lab.policy.qualifying nodes).isEmpty = false := by
    obtain ⟨node, hnode, hkind⟩ := h
    exact List.isEmpty_eq_false_iff_exists_mem.mpr ⟨node, List.mem_filter.mpr ⟨hnode, hkind⟩⟩
  rw [provision]
  exact if_neg (ne_of_eq_of_ne hsome Bool.false_ne_true)

section needed

variable {attempts : List (Attempt σ)}

/-- Going on after failures, the lab makes all calls behind those for the root. -/
lemma course_provision_proceed (h : ∃ node ∈ nodes, lab.policy.requires node.kind = true)
    (hroot : (World.course authority (lab.ensureRoot lab.rootInput).run w).result = .ok root)
    (hattempts : lab.attempts authority (lab.policy.qualifying nodes)
      (World.course authority (lab.ensureRoot lab.rootInput).run w).after = attempts) :
    World.course authority (lab.provision nodes .proceed).run w =
      ⟨(World.course authority (lab.ensureRoot lab.rootInput).run w).steps ++
          Attempt.steps attempts,
        .ok (.ofOutcomes root (attempts.map Attempt.outcome)),
        Attempt.after (World.course authority (lab.ensureRoot lab.rootInput).run w).after
          attempts⟩ := by
  have hcalls := @World.course_of _ _ authority
    (World.course authority (lab.ensureRoot lab.rootInput).run w).after
    (Program.inOrder ((lab.policy.qualifying nodes).map lab.tryNode))
  rw [course_inOrder, hattempts] at hcalls
  rw [provision_of_needed .proceed h, World.course_bind_of_ok hroot,
    World.course_bind_of_ok (congrArg Course.result hcalls), hcalls]
  exact congrArg (Course.mk · _ _) (congrArg (_ ++ ·) (List.append_nil _))

/-- Stopping at failures, it makes all calls as well, if none of them fails. -/
lemma course_provision_abort_of_succeeds
    (h : ∃ node ∈ nodes, lab.policy.requires node.kind = true)
    (hroot : (World.course authority (lab.ensureRoot lab.rootInput).run w).result = .ok root)
    (hattempts : lab.attempts authority (lab.policy.qualifying nodes)
      (World.course authority (lab.ensureRoot lab.rootInput).run w).after = attempts)
    (hall : ∀ a ∈ attempts, a.Succeeds) :
    World.course authority (lab.provision nodes .abort).run w =
      ⟨(World.course authority (lab.ensureRoot lab.rootInput).run w).steps ++
          Attempt.steps attempts,
        .ok ⟨some root, (lab.policy.qualifying nodes).map NodeInfo.shortName, []⟩,
        Attempt.after (World.course authority (lab.ensureRoot lab.rootInput).run w).after
          attempts⟩ := by
  subst hattempts
  have hcalls := course_issueInOrder_of_succeeds hall
  rw [provision_of_needed .abort h, World.course_bind_of_ok hroot,
    World.course_bind_of_ok (congrArg Course.result hcalls), hcalls]
  exact congrArg (Course.mk · _ _) (congrArg (_ ++ ·) (List.append_nil _))

/-- Otherwise the first failure is the last call. -/
lemma course_provision_abort_of_fails
    (h : ∃ node ∈ nodes, lab.policy.requires node.kind = true)
    (hroot : (World.course authority (lab.ensureRoot lab.rootInput).run w).result = .ok root)
    {done rest : List (Attempt σ)} {a : Attempt σ} {e : Error}
    (hattempts : lab.attempts authority (lab.policy.qualifying nodes)
      (World.course authority (lab.ensureRoot lab.rootInput).run w).after = done ++ a :: rest)
    (hdone : ∀ b ∈ done, b.Succeeds) (ha : a.course.result = .error e) :
    World.course authority (lab.provision nodes .abort).run w =
      ⟨(World.course authority (lab.ensureRoot lab.rootInput).run w).steps ++
        Attempt.steps (done ++ [a]), .error e, a.course.after⟩ := by
  have hcalls := course_issueInOrder_of_fails hattempts hdone ha
  rw [provision_of_needed .abort h, World.course_bind_of_ok hroot,
    World.course_bind_of_error (congrArg Course.result hcalls), hcalls]
  rfl

end needed

/-- What a lab does for a list of nodes. If none of them needs a certificate, it does nothing.
Otherwise the root comes first, and its failure is the last step. After that each node whose kind
asks for it gets a call, in order. Going on after failures, the lab makes all calls and reports each
once; stopping at failures, it ends with the first one, and no step follows it. If none of the calls
fails, both modes do the same. -/
theorem provision_course (authority : Authority σ) (lab : Lab) (nodes : List NodeInfo)
    (w : World σ) :
    let provision mode := World.course authority (lab.provision nodes mode).run w
    let root := World.course authority (lab.ensureRoot lab.rootInput).run w
    let attempts := lab.attempts authority (lab.policy.qualifying nodes) root.after
    let all := root.steps ++ Attempt.steps attempts
    attempts.map Attempt.node = nodes.filter (fun node => lab.policy.requires node.kind) ∧
    ((∀ node ∈ nodes, lab.policy.requires node.kind = false) →
      ∀ mode, provision mode = ⟨[], .ok {}, w⟩) ∧
    ((∃ node ∈ nodes, lab.policy.requires node.kind = true) →
      (∀ e, root.result = .error e →
        ∀ mode, provision mode = ⟨root.steps, .error e, root.after⟩) ∧
      ∀ outcome, root.result = .ok outcome →
        (∃ issued failed, Report.Splits attempts issued failed ∧
          provision .proceed =
            ⟨all, .ok ⟨some outcome, issued, failed⟩, Attempt.after root.after attempts⟩) ∧
        (∀ e, (provision .abort).result = .error e ↔ ∃ done a rest, attempts = done ++ a :: rest ∧
          (∀ b ∈ done, b.Succeeds) ∧ a.course.result = .error e) ∧
        (∀ done a rest e, attempts = done ++ a :: rest → (∀ b ∈ done, b.Succeeds) →
          a.course.result = .error e →
            provision .abort =
              ⟨root.steps ++ Attempt.steps (done ++ [a]), .error e, a.course.after⟩) ∧
        ((∀ a ∈ attempts, a.Succeeds) → provision .abort = provision .proceed)) := by
  intro provision root attempts all
  refine ⟨node_attempts _, fun h mode => course_provision_of_unneeded mode h, fun h => ⟨?_, ?_⟩⟩
  · intro e he mode
    simp only [provision, provision_of_needed mode h]
    exact World.course_bind_of_error he
  · intro outcome hroot
    have hproceed := course_provision_proceed h hroot rfl
    refine ⟨⟨_, _, Report.splits_ofOutcomes outcome attempts, hproceed⟩,
      fun e => ⟨fun he => ?_, ?_⟩,
      fun done a rest e heq hdone ha => course_provision_abort_of_fails h hroot heq hdone ha,
      fun hall => ?_⟩
    · rcases Attempt.succeed_or_first_fails attempts with hall | ⟨done, a, rest, e', heq, hdone, ha⟩
      · simp [provision, course_provision_abort_of_succeeds h hroot rfl hall] at he
      · simp only [provision, course_provision_abort_of_fails h hroot heq hdone ha] at he
        obtain rfl := Except.error.inj he
        exact ⟨done, a, rest, heq, hdone, ha⟩
    · rintro ⟨done, a, rest, heq, hdone, ha⟩
      simp only [provision, course_provision_abort_of_fails h hroot heq hdone ha]
    · have hnames : attempts.map (fun a => a.node.shortName) =
          (lab.policy.qualifying nodes).map NodeInfo.shortName := by
        rw [← @node_attempts _ authority lab root.after (lab.policy.qualifying nodes), List.map_map]
        rfl
      rw [Report.ofOutcomes_of_succeeds outcome hall, hnames] at hproceed
      exact (course_provision_abort_of_succeeds h hroot rfl hall).trans hproceed.symm

end Lab

end LabTrust
