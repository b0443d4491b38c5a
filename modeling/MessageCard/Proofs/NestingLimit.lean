import Mathlib.Order.Lattice.Nat
import MessageCard.Proofs.ReportedValues
import MessageCard.Proofs.UnknownTags

/-! The limit of nesting.  It only cuts: a compilation that does not fail for its limit comes to the
same under every higher one.  So a document that compiles at all compiles under just those limits
that are not below the deepest array of entries that its walk meets.
-/

namespace MessageCard

open Json

/-- The cause is that a limit of nesting is exceeded. -/
def Cause.IsDepthExceeded (cause : Cause) : Prop :=
  ∃ limit, cause = .depthExceeded limit

-----------------------------------------------------------------------------------------
-- Two limits
-----------------------------------------------------------------------------------------

namespace Trace

variable {α β : Type}

/-- The trace fails because a limit of nesting is exceeded. -/
def EndsDeep (trace : Trace α) : Prop :=
  ∃ fatal, trace.outcome = .aborted fatal ∧ fatal.cause.IsDepthExceeded

theorem EndsDeep.andThen {trace : Trace α} (deep : trace.EndsDeep) (next : α → Trace β)
    : (trace.andThen next).EndsDeep := by
  obtain ⟨fatal, ended, exceeded⟩ := deep
  exact ⟨fatal, andThen_aborted next ended, exceeded⟩

/-- A sequence whose second part is cut for its depth is cut itself, or does not get there. -/
theorem andThen_deep_or_eq (trace : Trace α) {next other : α → Trace β}
    (second : ∀ result, (next result).EndsDeep ∨ next result = other result)
    : (trace.andThen next).EndsDeep ∨ trace.andThen next = trace.andThen other := by
  rcases trace with ⟨recorded, outcome⟩
  cases outcome with
  | dropped => exact Or.inr rfl
  | aborted fatal => exact Or.inr rfl
  | done result =>
      rcases second result with ⟨fatal, ended, exceeded⟩ | same
      · exact Or.inl ⟨fatal, ended, exceeded⟩
      · refine Or.inr ?_
        simp only [Trace.andThen, same]

/-- Being the same unless the first is cut for its depth survives every way of putting traces
together.
-/
theorem deep_relation
    : TraceRelation (fun _ narrow wide => narrow.EndsDeep ∨ narrow = wide) where
  done _ := Or.inr rfl
  andThen first second := by
    rcases first with deep | rfl
    · exact Or.inl (deep.andThen _)
    · exact andThen_deep_or_eq _ second
  optional related := by
    rcases related with ⟨fatal, ended, exceeded⟩ | rfl
    · exact Or.inl ⟨fatal, by simp only [Trace.optional, ended], exceeded⟩
    · exact Or.inr rfl

end Trace

/-- A level that is within the lower limit is within the higher one. -/
theorem Setting.deep_related (level : Level) (locale : Option String) {limit higher : Nat}
    (le : limit ≤ higher) (sourceId : Nat)
    : SettingRelation (fun _ narrow wide => narrow.EndsDeep ∨ narrow = wide)
        { options := { level, locale, maxDepth := limit }, sourceId }
        { options := { level, locale, maxDepth := higher }, sourceId } where
  locale := rfl
  fault _ _ := Or.inr rfl
  defer _ _ := Or.inr rfl
  unknown _ _ _ _ := Or.inr rfl
  atLevel path depth below other related := by
    rcases Nat.lt_or_ge limit depth with deep | within
    · rw [atLevel, if_pos deep]
      exact Or.inl ⟨_, rfl, limit, rfl⟩
    · have wider : depth ≤ higher := Nat.le_trans within le
      rw [atLevel_of_le within, atLevel_of_le wider]
      exact related

namespace Document

variable {document : Document} {level : Level} {locale : Option String}

/-- A run that does not fail for its limit is the same under a higher one. -/
theorem trace_deep_or_eq (document : Document) (level : Level) (locale : Option String)
    {limit higher : Nat} (le : limit ≤ higher)
    : (document.trace { level, locale, maxDepth := limit }).EndsDeep
      ∨ document.trace { level, locale, maxDepth := limit }
        = document.trace { level, locale, maxDepth := higher } :=
  (Card.ofDocument document).compile_related Trace.deep_relation
    (Setting.deep_related level locale le document.sourceId)

theorem compile_eq_of_le {limit higher : Nat} (le : limit ≤ higher)
    (shallow
      : ∀ fatal,
          document.compile { level, locale, maxDepth := limit } = .error fatal
          → ¬ fatal.cause.IsDepthExceeded)
    : document.compile { level, locale, maxDepth := higher }
      = document.compile { level, locale, maxDepth := limit } := by
  rcases document.trace_deep_or_eq level locale le with ⟨fatal, ended, exceeded⟩ | same
  · exact (shallow fatal (compile_error_iff_trace.mpr ended) exceeded).elim
  · exact congrArg Trace.compilation same.symm

-----------------------------------------------------------------------------------------
-- The report of an exceeded limit
-----------------------------------------------------------------------------------------

/-- The report of an exceeded limit carries the limit, and its path goes through so many columns.
It leads to the body if these are none, and otherwise to the elements of a column, which are an array
and not empty.
-/
theorem depthExceeded_located {limit payload : Nat} {fatal : Diagnostic}
    (failed : document.compile { level, locale, maxDepth := limit } = .error fatal)
    (exceeded : fatal.cause = .depthExceeded payload)
    : payload = limit
      ∧ ∃ path,
          fatal.path = some path
          ∧ path.columnSteps = limit
          ∧ ((limit = 0 ∧ path = Path.body)
            ∨ path.At .columnElements
              ∧ ∃ entries, document.value? path = some (.array entries) ∧ entries ≠ []) := by
  obtain ⟨path, found, place, located⟩ :=
    document.trace_located _ fatal (mem_reports_of_gives (Or.inl failed))
  obtain ⟨same, steps⟩ := located.depth payload exceeded
  have ofBody (isBody : place = .body) : limit = 0 ∧ path = Path.body := by
    have placed := located.placed
    rw [isBody] at placed
    cases placed
    exact ⟨steps.symm, rfl⟩
  refine ⟨same, path, found, steps, ?_⟩
  rcases located.value with ⟨isBody, _⟩ | ⟨value, leads, suits⟩
  · exact Or.inl (ofBody isBody)
  · rw [exceeded] at suits
    rcases suits with isBody | ⟨rfl, entries, rfl, filled⟩
    · exact Or.inl (ofBody isBody)
    · exact Or.inr ⟨located.placed, entries, leads, filled⟩

-----------------------------------------------------------------------------------------
-- The deepest array
-----------------------------------------------------------------------------------------

end Document

/-- Without an offence the arrays that the cut walk meets are within the limit, and nothing in them
offends.  By induction from the body inwards.
-/
theorem Walk.Meets.within_of_silent {document : Document} {limit level : Nat}
    {entries : List Json} (silent : ∀ place cause, ¬ document.Offends limit place cause)
    (met : Walk.cut.Meets document level entries)
    : level ≤ limit
      ∧ ∃ path, ∀ place cause, ¬ ListOffends limit path level entries place cause := by
  have within {path : Path} {level : Nat} {entries : List Json}
      (clean : ∀ place cause, ¬ ListOffends limit path level entries place cause)
      : level ≤ limit := by
    by_contra deeper
    exact clean _ _ (.depth (Nat.lt_of_not_le deeper))
  induction met with
  | body => exact ⟨within silent, Path.body, silent⟩
  | @column level entries fields columns position column inner outer member named listed reached
      shaped occupied ih =>
      obtain ⟨shallow, path, clean⟩ := ih
      obtain ⟨index, found⟩ := List.mem_iff_getElem?.mp member
      have below : ∀ place cause,
          ¬ ListOffends limit
              ((((path.item index).field "columns").item position).field "elements")
              (level + 1) inner place cause := by
        intro place cause offends
        refine clean place cause (.entry shallow found ?_)
        exact .columnSet named listed reached (.entries shaped occupied offends)
      exact ⟨within below, _, below⟩

namespace Document

variable {document : Document} {level : Level} {locale : Option String} {limit : Nat}

/-- A document that compiles has no offence.  At the strict level this is so because it compiles at
the lenient one, too.
-/
theorem silent_of_compiles {compilation : Compilation}
    (compiled : document.compile { level, locale, maxDepth := limit } = .ok compilation)
    (place : Path) (cause : Cause)
    : ¬ document.Offends limit place cause := by
  have below {level : Level} (lenient : level ≠ .error)
      (compiled : document.compile { level, locale, maxDepth := limit } = .ok compilation)
      : ¬ document.Offends limit place cause := by
    have ends := @trace_endsAtFirst document { level, locale, maxDepth := limit } lenient
    exact ends.sound (Trace.runs_of_done (compile_ok_iff_trace.mp compiled).1) place cause
  by_cases strict : level = .error
  · subst strict
    rw [compile_error_eq] at compiled
    split at compiled
    · exact below (by decide) compiled
    · cases compiled
  · exact below strict compiled

/-- A compilation that fails for its limit fails for an offence of the document, at the strict level
as at the others.
-/
theorem offends_of_depthExceeded {fatal : Diagnostic}
    (failed : document.compile { level, locale, maxDepth := limit } = .error fatal)
    (exceeded : fatal.cause.IsDepthExceeded)
    : ∃ place, fatal.path = some place ∧ document.Offends limit place fatal.cause := by
  have below {level : Level} (lenient : level ≠ .error)
      (failed : document.compile { level, locale, maxDepth := limit } = .error fatal)
      : ∃ place, fatal.path = some place ∧ document.Offends limit place fatal.cause := by
    have ends := @trace_endsAtFirst document { level, locale, maxDepth := limit } lenient
    obtain ⟨place, cause, first, rfl⟩ := ends.first fatal (compile_error_iff_trace.mp failed)
    exact ⟨place, rfl, first.offends⟩
  by_cases strict : level = .error
  · subst strict
    rw [compile_error_eq] at failed
    split at failed
    · exact below (by decide) failed
    · rename_i first found
      -- the first violation is a breach of a contract, and not an exceeded limit
      have violation := List.find?_some found
      cases failed
      obtain ⟨payload, same⟩ := exceeded
      simp only [Diagnostic.asFatal] at same
      simp [Diagnostic.isViolation, same] at violation
  · exact below strict failed

/-- A compilation that fails for its limit does so for an array that the cut walk meets. -/
theorem meets_of_depthExceeded {fatal : Diagnostic}
    (failed : document.compile { level, locale, maxDepth := limit } = .error fatal)
    (exceeded : fatal.cause.IsDepthExceeded)
    : ∃ deeper entries, Walk.cut.Meets document deeper entries ∧ limit < deeper := by
  obtain ⟨place, _, offends⟩ := offends_of_depthExceeded failed exceeded
  obtain ⟨payload, same⟩ := exceeded
  rw [same] at offends
  exact (offends.metCause .body).2

/-- The document compiles under the limit. -/
def CompilesUnder (document : Document) (level : Level) (locale : Option String) (limit : Nat)
    : Prop :=
  ∃ compilation, document.compile { level, locale, maxDepth := limit } = .ok compilation

/-- A document that compiles at all does so under the limits that every met array is within. -/
theorem compilesUnder_iff {other : Nat} (compiles : document.CompilesUnder level locale other)
    : document.CompilesUnder level locale limit
      ↔ ∀ depth entries, Walk.cut.Meets document depth entries → depth ≤ limit := by
  constructor
  · intro compiled depth entries met
    obtain ⟨compilation, compiled⟩ := compiled
    exact (met.within_of_silent (silent_of_compiles compiled)).1
  · intro within
    obtain ⟨compilation, compiled⟩ := compiles
    have shallow (fatal : Diagnostic)
        (failed : document.compile { level, locale, maxDepth := limit } = .error fatal)
        : ¬ fatal.cause.IsDepthExceeded := by
      intro exceeded
      obtain ⟨depth, entries, met, deeper⟩ := meets_of_depthExceeded failed exceeded
      exact Nat.not_le.mpr deeper (within depth entries met)
    rcases Nat.le_total limit other with le | ge
    · exact ⟨compilation, (compile_eq_of_le le shallow).symm.trans compiled⟩
    · refine ⟨compilation, (compile_eq_of_le ge fun fatal failed => ?_).trans compiled⟩
      cases failed.symm.trans compiled

/-- The levels of the arrays of entries that the cut walk meets. -/
def levels (document : Document) : Set Nat :=
  { depth | ∃ entries, Walk.cut.Meets document depth entries }

/-- A document that compiles at all has a deepest level, and compiles under the limits that are not
below it.
-/
theorem exists_deepest (compiles : ∃ limit, document.CompilesUnder level locale limit)
    : ∃ deepest,
        IsGreatest document.levels deepest
        ∧ 1 ≤ deepest
        ∧ ∀ limit, document.CompilesUnder level locale limit ↔ deepest ≤ limit := by
  obtain ⟨other, compiles⟩ := compiles
  have bounded : BddAbove document.levels := by
    refine ⟨other, fun depth met => ?_⟩
    obtain ⟨entries, met⟩ := met
    exact (compilesUnder_iff compiles).mp compiles depth entries met
  have outermost : 1 ∈ document.levels := ⟨document.entries, .body⟩
  have deepest : IsGreatest document.levels (sSup document.levels) :=
    ⟨Nat.sSup_mem ⟨1, outermost⟩ bounded, fun depth met => le_csSup bounded met⟩
  refine ⟨_, deepest, deepest.2 outermost, fun limit => ?_⟩
  rw [compilesUnder_iff compiles]
  constructor
  · intro within
    obtain ⟨entries, met⟩ := deepest.1
    exact within _ entries met
  · intro le depth entries met
    exact Nat.le_trans (deepest.2 ⟨entries, met⟩) le

/-- The limit of nesting only cuts.  Under a higher limit a compilation comes to what it comes to
unless it failed for its limit; then its report names the array that is one level deeper than the
limit, which is the body or the elements of a column.  So a document that compiles at all compiles
under the limits that are not below the deepest level that the cut walk meets.
-/
theorem compile_limit (document : Document) (level : Level) (locale : Option String)
    : (∀ limit higher,
        limit ≤ higher
        → (∀ fatal,
            document.compile { level, locale, maxDepth := limit } = .error fatal
            → ¬ fatal.cause.IsDepthExceeded)
        → document.compile { level, locale, maxDepth := higher }
          = document.compile { level, locale, maxDepth := limit })
      ∧ (∀ limit fatal payload,
          document.compile { level, locale, maxDepth := limit } = .error fatal
          → fatal.cause = .depthExceeded payload
          → payload = limit
            ∧ ∃ path,
                fatal.path = some path
                ∧ path.columnSteps = limit
                ∧ ((limit = 0 ∧ path = Path.body)
                  ∨ path.At .columnElements
                    ∧ ∃ entries,
                        document.value? path = some (.array entries) ∧ entries ≠ []))
      ∧ ((∃ limit, document.CompilesUnder level locale limit)
        → ∃ deepest,
            IsGreatest document.levels deepest
            ∧ 1 ≤ deepest
            ∧ ∀ limit, document.CompilesUnder level locale limit ↔ deepest ≤ limit) :=
  ⟨fun _ _ le shallow => compile_eq_of_le le shallow,
    fun _ _ _ failed exceeded => depthExceeded_located failed exceeded,
    exists_deepest⟩

/-- A set with an empty column and one with a rule, which is dropped for its third column; the set
in the fourth is not reached.
-/
def truncated : Document where
  config := none
  header := none
  elements := some (.array
    [.object
      [("columns", .array
          [.object [],
            .object [("elements", .array [.object [("tag", .string "hr")]])],
            .string "column",
            .object
              [("elements", .array
                [.object
                  [("columns", .array
                      [.object [("elements", .array [.object [("tag", .string "hr")]])]]),
                    ("tag", .string "column_set")]])]]),
        ("tag", .string "column_set")]])
  sourceId := 0

/-- The truncated set needs two levels, and no more.  Witness: evaluation of its compilation under
limits of one level and of two.
-/
theorem truncated_limit
    : truncated.compile { level := .off, locale := none, maxDepth := 3 }
        = truncated.compile { level := .off, locale := none, maxDepth := 2 }
      ∧ (∃ fatal path,
          truncated.compile { level := .off, locale := none, maxDepth := 1 } = .error fatal
          ∧ fatal.cause = .depthExceeded 1
          ∧ fatal.path = some path
          ∧ path.columnSteps = 1
          ∧ path.At .columnElements)
      ∧ ∀ limit, truncated.CompilesUnder .off none limit ↔ 2 ≤ limit := by
  obtain ⟨raised, report, deepest⟩ := truncated.compile_limit .off none
  have passes
      : truncated.compile { level := .off, locale := none, maxDepth := 2 }
        = .ok { tree := Node.card none [], warnings := [] } :=
    rfl
  have stops
      : truncated.compile { level := .off, locale := none, maxDepth := 1 }
        = .error (.fatal (.depthExceeded 1) ((Path.body.item 0).columnElements 1) 0) :=
    rfl
  refine ⟨?_, ?_, ?_⟩
  · refine raised 2 3 (by decide) fun fatal failed => ?_
    cases passes.symm.trans failed
  · obtain ⟨_, path, found, steps, below⟩ := report 1 _ 1 stops rfl
    rcases below with ⟨zero, _⟩ | ⟨placed, _⟩
    · cases zero
    · exact ⟨_, path, stops, rfl, found, steps, placed⟩
  · obtain ⟨depth, _, _, compiles⟩ := deepest ⟨2, _, passes⟩
    have upper : depth ≤ 2 := (compiles 2).mp ⟨_, passes⟩
    have lower : ¬ depth ≤ 1 := by
      intro shallow
      obtain ⟨compilation, compiled⟩ := (compiles 1).mpr shallow
      cases stops.symm.trans compiled
    obtain rfl : depth = 2 := by omega
    exact compiles

end Document

end MessageCard
