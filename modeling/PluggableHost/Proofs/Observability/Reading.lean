import PluggableHost.Proofs.Observability.Writing

namespace PluggableHost.Observability

/-!
# Reading metrics

The metric of the transitions into a state reads as the number of times that the
journal reports the state, the metric of a phase's failed hooks as the number of times
that it reports one, and the metrics of the published endpoints and of the open
listeners as the numbers that the journal told of last.
-/

namespace Metric

/-- No other metric is read under the name of the transitions into a state. -/
theorem name_eq_transition
    {state : Lifecycle.State}
    {metric : Metric}
    (same : metric.name = (transition state).name) :
    metric = transition state := by
  cases metric with
  | transition target =>
      cases target <;> cases state <;>
        first
          | rfl
          | exact absurd same (by decide)
  | registeredEndpoints count =>
      rw [show (registeredEndpoints count).name =
          (registeredEndpoints 0).name from rfl] at same
      cases state <;> exact absurd same (by decide)
  | hookFailure phase =>
      cases phase <;> cases state <;> exact absurd same (by decide)
  | openListeners count =>
      rw [show (openListeners count).name =
          (openListeners 0).name from rfl] at same
      cases state <;> exact absurd same (by decide)

/-- An update changes the reading under the name of its metric only. -/
theorem lookup_record
    (nameOf : Metric → String)
    (readings : List (String × Nat))
    (metric : Metric)
    (name : String) :
    (record nameOf readings metric).lookup name =
      if name = nameOf metric then
        some (metric.updated ((readings.lookup name).getD 0))
      else readings.lookup name := by
  induction readings with
  | nil =>
      by_cases same : name = nameOf metric
      · simp [record, same]
      · have other : (name == nameOf metric) = false :=
          beq_false_of_ne same
        simp [record, same, other, List.lookup_cons]
  | cons reading rest inductionHypothesis =>
      obtain ⟨known, value⟩ := reading
      by_cases here : known = nameOf metric
      · by_cases same : name = nameOf metric
        · simp [record, here, same]
        · have other : (name == nameOf metric) = false :=
            beq_false_of_ne same
          simp [record, here, same, other, List.lookup_cons]
      · by_cases first : name = known
        · simp [record, here, first]
        · have other : (name == known) = false :=
            beq_false_of_ne first
          simp [record, here, other, List.lookup_cons,
            inductionHypothesis]

/-- No other metric is read under the name of a phase's failed hooks. -/
theorem name_eq_hookFailure
    {phase : Phase}
    {metric : Metric}
    (same : metric.name = (hookFailure phase).name) :
    metric = hookFailure phase := by
  cases metric with
  | hookFailure other =>
      cases other <;> cases phase <;>
        first
          | rfl
          | exact absurd same (by decide)
  | transition target =>
      cases target <;> cases phase <;> exact absurd same (by decide)
  | registeredEndpoints count =>
      rw [show (registeredEndpoints count).name =
          (registeredEndpoints 0).name from rfl] at same
      cases phase <;> exact absurd same (by decide)
  | openListeners count =>
      rw [show (openListeners count).name =
          (openListeners 0).name from rfl] at same
      cases phase <;> exact absurd same (by decide)

/-- The metric is a counter, and no other is read under its name. -/
structure Counts
    (counter : Metric) : Prop where
  updated :
    ∀ reading,
      counter.updated reading = reading + 1
  own :
    ∀ metric : Metric,
      metric.name = counter.name → metric = counter

/-- The updates of a counter are counted under its name, and nothing else is. -/
theorem Counts.lookup_readings
    {counter : Metric}
    (counts : Counts counter)
    (metrics : List Metric) :
    ((readings metrics).lookup counter.name).getD 0 =
      metrics.count counter := by
  have counted (readings : List (String × Nat)) :
      ((metrics.foldl (record name) readings).lookup
          counter.name).getD 0 =
        (readings.lookup counter.name).getD 0 +
          metrics.count counter := by
    induction metrics generalizing readings with
    | nil =>
        rfl
    | cons metric rest inductionHypothesis =>
        rw [List.foldl_cons, inductionHypothesis, lookup_record]
        by_cases same : metric = counter
        · subst same
          simp [counts.updated]
          omega
        · have other : counter.name ≠ metric.name :=
            fun named => same (counts.own metric named.symm)
          simp [other, same]
  simpa [readings] using counted []

/-- The transitions into a state are counted. -/
theorem counts_transition
    (state : Lifecycle.State) :
    Counts (transition state) where
  updated := fun _ => rfl
  own := fun _ => name_eq_transition

/-- The failed hooks of a phase are counted. -/
theorem counts_hookFailure
    (phase : Phase) :
    Counts (hookFailure phase) where
  updated := fun _ => rfl
  own := fun _ => name_eq_hookFailure

/-- No other metric is read under the name of the published endpoints. -/
theorem exists_of_name_eq_registeredEndpoints
    {metric : Metric}
    (same : metric.name = (registeredEndpoints 0).name) :
    ∃ count, metric = registeredEndpoints count := by
  cases metric with
  | registeredEndpoints count =>
      exact ⟨count, rfl⟩
  | transition target =>
      cases target <;> exact absurd same (by decide)
  | hookFailure phase =>
      cases phase <;> exact absurd same (by decide)
  | openListeners count =>
      rw [show (openListeners count).name =
          (openListeners 0).name from rfl] at same
      exact absurd same (by decide)

end Metric

namespace Entry

/-- The number of published endpoints that was told. -/
def gauged? : Entry → Option Nat
  | metric (.registeredEndpoints count) => some count
  | _ => none

end Entry

/-- The numbers of published endpoints that a journal tells of, in their order. -/
def gauges (journal : List Entry) : List Nat :=
  journal.filterMap Entry.gauged?

@[simp] theorem gauges_append
    (earlier later : List Entry) :
    gauges (earlier ++ later) = gauges earlier ++ gauges later :=
  List.filterMap_append

/-- The reading of the transitions into a state counts the reports of it. -/
theorem reading_transition
    (journal : List Entry)
    (state : Lifecycle.State) :
    ((Metric.readings (journal.filterMap Entry.metric?)).lookup
        (Metric.transition state).name).getD 0 =
      (transitions journal).count state := by
  rw [(Metric.counts_transition state).lookup_readings]
  induction journal with
  | nil =>
      rfl
  | cons entry rest inductionHypothesis =>
      cases entry with
      | event value =>
          simpa [List.filterMap_cons, Entry.metric?, Entry.entered?]
            using inductionHypothesis
      | call value =>
          simpa [List.filterMap_cons, Entry.metric?]
            using inductionHypothesis
      | metric value =>
          cases value with
          | transition target =>
              by_cases same : target = state <;>
                simp [Entry.metric?, inductionHypothesis, same]
          | _ =>
              simpa [Entry.metric?, Entry.entered?]
                using inductionHypothesis

/-- What the counter of a phase's failed hooks reads after all that a journal tells of. -/
def hookFailures
    (phase : Phase)
    (journal : List Entry) : Nat :=
  ((Metric.readings (journal.filterMap Entry.metric?)).lookup
    (Metric.hookFailure phase).name).getD 0

/-- The reading of the failed hooks counts the reports of one. -/
theorem hookFailures_eq
    (phase : Phase)
    (journal : List Entry) :
    hookFailures phase journal =
      (journal.filterMap Entry.metric?).count (.hookFailure phase) :=
  (Metric.counts_hookFailure phase).lookup_readings _

@[simp] theorem hookFailures_append
    (phase : Phase)
    (earlier later : List Entry) :
    hookFailures phase (earlier ++ later) =
      hookFailures phase earlier + hookFailures phase later := by
  simp [hookFailures_eq, List.filterMap_append, List.count_append]

/-- The metric is a gauge, whose values are told by these entries of a journal. -/
structure Tells
    (gauge : Nat → Metric)
    (told? : Entry → Option Nat) : Prop where
  updated :
    ∀ count reading,
      (gauge count).updated reading = count
  shared :
    ∀ count,
      (gauge count).name = (gauge 0).name
  own :
    ∀ metric : Metric,
      metric.name = (gauge 0).name → ∃ count, metric = gauge count
  told :
    ∀ count,
      told? (.metric (gauge count)) = some count
  silent :
    ∀ entry,
      (∀ count, entry ≠ .metric (gauge count)) → told? entry = none

/-- The reading of a gauge is the value that was told last. -/
theorem Tells.reading
    {gauge : Nat → Metric}
    {told? : Entry → Option Nat}
    (tells : Tells gauge told?)
    (journal : List Entry) :
    ((Metric.readings (journal.filterMap Entry.metric?)).lookup
        (gauge 0).name).getD 0 =
      (journal.filterMap told?).getLastD 0 := by
  have last (readings : List (String × Nat)) :
      (((journal.filterMap Entry.metric?).foldl
          (Metric.record Metric.name) readings).lookup
            (gauge 0).name).getD 0 =
        (journal.filterMap told?).getLastD
          ((readings.lookup (gauge 0).name).getD 0) := by
    induction journal generalizing readings with
    | nil =>
        rfl
    | cons entry rest inductionHypothesis =>
        cases entry with
        | event value =>
            rw [List.filterMap_cons_none (tells.silent _ (by simp))]
            exact inductionHypothesis readings
        | call value =>
            rw [List.filterMap_cons_none (tells.silent _ (by simp))]
            exact inductionHypothesis readings
        | metric value =>
            refine (inductionHypothesis _).trans ?_
            rw [Metric.lookup_record]
            by_cases same : (gauge 0).name = value.name
            · obtain ⟨count, rfl⟩ := tells.own value same.symm
              rw [if_pos same, tells.updated, Option.getD_some,
                List.filterMap_cons_some (tells.told count),
                List.getLastD_cons]
            · have other : ∀ count, Entry.metric value ≠ .metric (gauge count) := by
                rintro count sameEntry
                obtain rfl := Entry.metric.inj sameEntry
                exact same (tells.shared count).symm
              rw [if_neg same, List.filterMap_cons_none (tells.silent _ other)]
  exact last []

/-- The number of published endpoints is a gauge. -/
theorem tells_registeredEndpoints :
    Tells Metric.registeredEndpoints Entry.gauged? where
  updated := fun _ _ => rfl
  shared := fun _ => rfl
  own := fun _ => Metric.exists_of_name_eq_registeredEndpoints
  told := fun _ => rfl
  silent := by
    intro entry other
    cases entry with
    | metric value =>
        cases value with
        | registeredEndpoints count =>
            exact absurd rfl (other count)
        | _ =>
            rfl
    | _ =>
        rfl

/-- The reading of the published endpoints is the number that was told last. -/
theorem reading_registeredEndpoints
    (journal : List Entry) :
    ((Metric.readings (journal.filterMap Entry.metric?)).lookup
        (Metric.registeredEndpoints 0).name).getD 0 =
      (gauges journal).getLastD 0 :=
  tells_registeredEndpoints.reading journal

/-! ## Open listeners -/

/-- No other metric is read under the name of the open listeners. -/
theorem Metric.exists_of_name_eq_openListeners
    {metric : Metric}
    (same : metric.name = (openListeners 0).name) :
    ∃ count, metric = openListeners count := by
  cases metric with
  | openListeners count =>
      exact ⟨count, rfl⟩
  | transition target =>
      cases target <;> exact absurd same (by decide)
  | hookFailure phase =>
      cases phase <;> exact absurd same (by decide)
  | registeredEndpoints count =>
      rw [show (registeredEndpoints count).name =
          (registeredEndpoints 0).name from rfl] at same
      exact absurd same (by decide)

/-- The number of open listeners that was told. -/
def Entry.listening? : Entry → Option Nat
  | metric (.openListeners count) => some count
  | _ => none

/-- The numbers of open listeners that a journal tells of, in their order. -/
def openings (journal : List Entry) : List Nat :=
  journal.filterMap Entry.listening?

@[simp] theorem openings_append
    (earlier later : List Entry) :
    openings (earlier ++ later) = openings earlier ++ openings later :=
  List.filterMap_append

/-- The number of open listeners is a gauge. -/
theorem tells_openListeners :
    Tells Metric.openListeners Entry.listening? where
  updated := fun _ _ => rfl
  shared := fun _ => rfl
  own := fun _ => Metric.exists_of_name_eq_openListeners
  told := fun _ => rfl
  silent := by
    intro entry other
    cases entry with
    | metric value =>
        cases value with
        | openListeners count =>
            exact absurd rfl (other count)
        | _ =>
            rfl
    | _ =>
        rfl

/-- What the gauge of the open listeners reads after all that a journal tells of. -/
def listenersOpen (journal : List Entry) : Nat :=
  ((Metric.readings (journal.filterMap Entry.metric?)).lookup
    (Metric.openListeners 0).name).getD 0

/-- The reading of the open listeners is the number that was told last. -/
theorem listenersOpen_eq
    (journal : List Entry) :
    listenersOpen journal = (openings journal).getLastD 0 :=
  tells_openListeners.reading journal

end PluggableHost.Observability
