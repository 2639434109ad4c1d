import MessagingPlatform.Consumer.Handler

/-! The class of an error by the code that it carries itself and by the one that its driver error
carries. -/
namespace MessagingPlatform.Consumer

def CodeAmong (codes : List String) (code : Option String) : Prop := ∃ text ∈ codes, code = some text

instance (codes : List String) (code : Option String) : Decidable (CodeAmong codes code) :=
  inferInstanceAs (Decidable (∃ text ∈ codes, _))

def transientCodes : List String := transientPgCodes ++ transientNodeCodes

/-- A transient code counts on the error and on its driver error alike. -/
structure ClassifiedByCodes (error : Thrown) : Prop where
  validation : error.kind = .validation → classifyError error = .validation
  transient : error.kind = .error → ∀ text ∈ transientCodes,
    error.code = some text ∨ (error.driverCode = some text ∧ ¬ CodeAmong transientCodes error.code) →
      classifyError error = .transient
  permanent : error.kind ≠ .validation → ¬ CodeAmong transientCodes error.code →
    ¬ CodeAmong transientCodes error.driverCode → classifyError error = .permanent

structure NetworkCodeBuried (error : Thrown) : Prop where
  kind : error.kind = .error
  driver : CodeAmong transientNodeCodes error.driverCode
  own : ¬ CodeAmong transientCodes error.code

/-- A driver error around an error. It may have taken over the code of that error, or have a code
of its own that is not transient. -/
structure Wraps (wrapper error : Thrown) : Prop where
  kind : wrapper.kind = .error
  driver : wrapper.driverCode = error.code
  own : wrapper.code = error.code ∨ ¬ CodeAmong transientCodes wrapper.code

theorem any_iff_codeAmong {codes : List String} {code : Option String} :
    code.any (fun text => text ∈ codes) = true ↔ CodeAmong codes code := by
  unfold CodeAmong
  cases code with
  | none => simp
  | some text => simp

theorem codeAmong_transient {code : Option String} : CodeAmong transientCodes code ↔
    CodeAmong transientPgCodes code ∨ CodeAmong transientNodeCodes code := by
  unfold CodeAmong transientCodes
  simp only [List.mem_append,or_and_right,exists_or]

theorem classifyError_transient_iff {error : Thrown} (kind : error.kind = .error) :
    classifyError error = .transient ↔
      CodeAmong transientCodes error.code ∨ CodeAmong transientPgCodes error.driverCode := by
  unfold classifyError
  rw [kind,codeAmong_transient]
  simp only [any_iff_codeAmong]
  by_cases own : CodeAmong transientPgCodes error.code
  · simp [own]
  · by_cases driver : CodeAmong transientPgCodes error.driverCode
    · simp [own,driver]
    · simp [own,driver]

theorem classifyError_permanent {error : Thrown} (kind : error.kind ≠ .validation)
    (steady : classifyError error ≠ .transient) : classifyError error = .permanent := by
  unfold classifyError at steady ⊢
  cases found : error.kind with
  | validation => exact absurd found kind
  | other => rfl
  | error =>
    rw [found] at steady
    dsimp only at steady ⊢
    split
    next first => exact absurd (if_pos first) steady
    next first =>
      rw [if_neg first] at steady
      split
      next second => exact absurd (if_pos second) steady
      next second =>
        rw [if_neg second] at steady
        split
        next third => exact absurd (if_pos third) steady
        next third => rfl

theorem NetworkCodeBuried.not_transient {error : Thrown} (buried : NetworkCodeBuried error) :
    classifyError error ≠ .transient := by
  intro transient
  obtain ⟨kind,⟨text,member,carried⟩,own⟩ := buried
  rcases (classifyError_transient_iff kind).mp transient with among | ⟨other,present,carries⟩
  · exact own among
  · obtain rfl := Option.some.inj (carried.symm.trans carries)
    have disjoint : ∀ text ∈ transientNodeCodes, text ∉ transientPgCodes := by decide
    exact disjoint _ member present

theorem classifiedByCodes_iff {error : Thrown} : ClassifiedByCodes error ↔ ¬ NetworkCodeBuried error := by
  constructor
  · intro classified buried
    obtain ⟨text,member,carried⟩ := buried.driver
    exact buried.not_transient (classified.transient buried.kind text (List.mem_append_right _ member)
      (.inr ⟨carried,buried.own⟩))
  · intro unburied
    constructor
    · intro kind
      unfold classifyError
      rw [kind]
    · intro kind text member carried
      apply (classifyError_transient_iff kind).mpr
      rcases carried with own | ⟨driver,bare⟩
      · exact .inl ⟨text,member,own⟩
      · rcases List.mem_append.mp member with pg | node
        · exact .inr ⟨text,pg,driver⟩
        · exact absurd ⟨kind,⟨text,node,driver⟩,bare⟩ unburied
    · intro kind own driver
      apply classifyError_permanent kind
      intro transient
      have error : error.kind = .error := by
        cases found : error.kind with
        | error => rfl
        | validation => exact absurd found kind
        | other =>
          unfold classifyError at transient
          rw [found] at transient
          cases transient
      rcases (classifyError_transient_iff error).mp transient with among | among
      · exact own among
      · exact driver (codeAmong_transient.mpr (.inl among))

theorem Wraps.class_iff {wrapper error : Thrown} (wraps : Wraps wrapper error) (kind : error.kind = .error)
    (plain : error.driverCode = none) :
    classifyError wrapper = classifyError error ↔ ¬ NetworkCodeBuried wrapper := by
  have undriven : ¬ CodeAmong transientPgCodes error.driverCode := by
    rintro ⟨text,-,carried⟩
    rw [plain] at carried
    cases carried
  have inner := (classifyError_transient_iff kind).trans (or_iff_left undriven)
  have outer := classifyError_transient_iff wraps.kind
  rw [wraps.driver] at outer
  have valid : ∀ {thrown : Thrown}, thrown.kind = .error → thrown.kind ≠ .validation := by
    intro thrown same
    rw [same]
    decide
  -- a transient code of the wrapper is the one of the error that it wraps
  have owned : CodeAmong transientCodes wrapper.code → CodeAmong transientCodes error.code := by
    intro among
    rcases wraps.own with same | bare
    · rwa [same] at among
    · exact absurd among bare
  constructor
  · intro same buried
    have among : CodeAmong transientNodeCodes error.code := wraps.driver ▸ buried.driver
    exact buried.not_transient (same.trans (inner.mpr (codeAmong_transient.mpr (.inr among))))
  · intro unburied
    by_cases among : CodeAmong transientCodes error.code
    · refine Eq.trans ?_ (inner.mpr among).symm
      apply outer.mpr
      rcases codeAmong_transient.mp among with pg | node
      · exact .inr pg
      · by_cases own : CodeAmong transientCodes wrapper.code
        · exact .inl own
        · exact absurd ⟨wraps.kind,wraps.driver.symm ▸ node,own⟩ unburied
    · refine (classifyError_permanent (valid wraps.kind) ?_).trans
        (classifyError_permanent (valid kind) (mt inner.mp among)).symm
      intro transient
      rcases outer.mp transient with own | pg
      · exact among (owned own)
      · exact among (codeAmong_transient.mpr (.inl pg))

/-- An error gets the class that its codes call for unless a network code is buried in its driver
error, and a driver error gets the class of the pg or network error that it wraps unless it buries
such a code. -/
theorem classification_iff (error : Thrown) :
    (ClassifiedByCodes error ↔ ¬ NetworkCodeBuried error) ∧
    ∀ inner, inner.kind = .error → inner.driverCode = none → Wraps error inner →
      (classifyError error = classifyError inner ↔ ¬ NetworkCodeBuried error) :=
  ⟨classifiedByCodes_iff,fun _ kind plain wraps => wraps.class_iff kind plain⟩

def brokenConnectionError (code driverCode : Option String) : Thrown :=
  ⟨.error,"QueryFailedError","connection failure",code,driverCode⟩

theorem wrapped_pg_error_classified :
    classifyError (brokenConnectionError none (some "08006")) =
      classifyError (brokenConnectionError (some "08006") none) :=
  ((classification_iff (brokenConnectionError none (some "08006"))).2
    (brokenConnectionError (some "08006") none) rfl rfl ⟨rfl,rfl,.inr (by decide)⟩).mpr
    (fun buried => absurd buried.driver (by decide))

/-- A refused connection is transient, and permanent once a driver error is around it. -/
theorem wrapped_refusal_permanent : ¬ ∀ error, ClassifiedByCodes error := by
  intro classified
  have transient := (classified (brokenConnectionError none (some "ECONNREFUSED"))).transient rfl
    "ECONNREFUSED" (by decide) (.inr ⟨rfl,by decide⟩)
  exact absurd transient (by decide)

end MessagingPlatform.Consumer
