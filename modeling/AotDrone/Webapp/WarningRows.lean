import AotDrone.Webapp.Coalescing

/-! The rows of the warnings panel (`Warnings.tsx`), from the envelopes on. -/

namespace AotDrone.Webapp
open AotDrone.Lib AotDrone.Json

structure GroupedWarning where
  kind : PyStr
  detail : PyStr
  severity : WarningSeverity
  count : ℕ
  lastReceivedAtMs : ℤ

namespace GroupedWarning

def first (warning : WarningEntry) : GroupedWarning where
  kind := warning.kind
  detail := warning.detail
  severity := warning.severity
  count := 1
  lastReceivedAtMs := warning.receivedAtMs

def again (existing : GroupedWarning) (warning : WarningEntry) : GroupedWarning :=
  let existing := { existing with count := existing.count + 1 }
  if existing.lastReceivedAtMs < warning.receivedAtMs then
    { existing with
      detail := warning.detail
      severity := warning.severity
      lastReceivedAtMs := warning.receivedAtMs }
  else existing

end GroupedWarning

/-- One turn of the loop. A `Map` keeps its keys in the order in which they came. -/
def groupWarning (byKind : List GroupedWarning) (warning : WarningEntry) : List GroupedWarning :=
  if byKind.any (·.kind = warning.kind) then
    byKind.map fun existing => if existing.kind = warning.kind then existing.again warning else existing
  else byKind ++ [.first warning]

def byKind (warnings : List WarningEntry) : List GroupedWarning := warnings.foldl groupWarning []

def groupedWarnings (warnings : List WarningEntry) : List GroupedWarning :=
  ((byKind warnings).mergeSort fun a b => decide (b.lastReceivedAtMs ≤ a.lastReceivedAtMs)).take 5

/-! ## Groups -/

/-- The row of a kind: how often it came, and the text of the first of those that came last. -/
structure RowOf (warnings : List WarningEntry) (row : GroupedWarning) : Prop where
  count : row.count = warnings.countP (·.kind = row.kind)
  source : ∃ before warning after, warnings = before ++ warning :: after ∧ warning.kind = row.kind ∧
    row.detail = warning.detail ∧ row.severity = warning.severity ∧ row.lastReceivedAtMs = warning.receivedAtMs ∧
      (∀ earlier ∈ before, earlier.kind = row.kind → earlier.receivedAtMs < row.lastReceivedAtMs) ∧
        ∀ later ∈ after, later.kind = row.kind → later.receivedAtMs ≤ row.lastReceivedAtMs

/-- One row for every kind. -/
structure Groups (warnings : List WarningEntry) (rows : List GroupedWarning) : Prop where
  distinct : (rows.map GroupedWarning.kind).Nodup
  complete : ∀ warning ∈ warnings, ∃ row ∈ rows, row.kind = warning.kind
  rowOf : ∀ row ∈ rows, RowOf warnings row

namespace GroupedWarning

@[simp] theorem again_kind (existing : GroupedWarning) (warning : WarningEntry) :
    (existing.again warning).kind = existing.kind := by
  unfold again
  dsimp only
  split <;> rfl

@[simp] theorem again_count (existing : GroupedWarning) (warning : WarningEntry) :
    (existing.again warning).count = existing.count + 1 := by
  unfold again
  dsimp only
  split <;> rfl

end GroupedWarning

theorem RowOf.other {warnings : List WarningEntry} {row : GroupedWarning} (rowOf : RowOf warnings row)
    {warning : WarningEntry} (differs : row.kind ≠ warning.kind) : RowOf (warnings ++ [warning]) row := by
  obtain ⟨count, before, newest, after, rfl, kind, detail, severity, last, earlier, later⟩ := rowOf
  constructor
  · rw [List.countP_append, count, List.countP_singleton, if_neg (by simpa using differs.symm), Nat.add_zero]
  · refine ⟨before, newest, after ++ [warning], ?_, kind, detail, severity, last, earlier, ?_⟩
    · rw [List.append_assoc, List.cons_append]
    · intro w member same
      cases List.mem_append.1 member with
      | inl old => exact later w old same
      | inr new =>
        rw [List.mem_singleton.1 new] at same
        exact absurd same.symm differs

theorem RowOf.again {warnings : List WarningEntry} {row : GroupedWarning} (rowOf : RowOf warnings row)
    {warning : WarningEntry} (same : row.kind = warning.kind) :
    RowOf (warnings ++ [warning]) (row.again warning) := by
  obtain ⟨count, before, newest, after, rfl, kind, detail, severity, last, earlier, later⟩ := rowOf
  constructor
  · rw [List.countP_append, GroupedWarning.again_count, GroupedWarning.again_kind, count, List.countP_singleton,
      if_pos (by simpa using same.symm)]
  · unfold GroupedWarning.again
    dsimp only
    split
    next newer =>
      refine ⟨before ++ newest :: after, warning, [], rfl, same.symm, rfl, rfl, rfl, ?_, List.forall_mem_nil _⟩
      intro w member own
      dsimp only at own ⊢
      rcases List.mem_append.1 member with old | rest
      · exact (earlier w old own).trans newer
      · rcases List.mem_cons.1 rest with rfl | old
        · exact last ▸ newer
        · exact (later w old own).trans_lt newer
    next older =>
      refine ⟨before, newest, after ++ [warning], ?_, kind, detail, severity, last, earlier, ?_⟩
      · rw [List.append_assoc, List.cons_append]
      · intro w member own
        cases List.mem_append.1 member with
        | inl old => exact later w old own
        | inr new =>
          rw [List.mem_singleton.1 new]
          exact not_lt.1 older

theorem RowOf.first {warnings : List WarningEntry} {warning : WarningEntry}
    (absent : ∀ w ∈ warnings, w.kind ≠ warning.kind) : RowOf (warnings ++ [warning]) (.first warning) := by
  constructor
  · have none : warnings.countP (·.kind = warning.kind) = 0 := by
      rw [List.countP_eq_zero]
      intro w member
      simpa using absent w member
    unfold GroupedWarning.first
    dsimp only
    rw [List.countP_append, none, List.countP_singleton, if_pos (by simp)]
  · refine ⟨warnings, warning, [], rfl, rfl, rfl, rfl, rfl, ?_, List.forall_mem_nil _⟩
    intro w member same
    exact absurd same (absent w member)

theorem Groups.groupWarning {warnings : List WarningEntry} {rows : List GroupedWarning} (groups : Groups warnings rows)
    (warning : WarningEntry) : Groups (warnings ++ [warning]) (groupWarning rows warning) := by
  unfold Webapp.groupWarning
  split
  next known =>
    obtain ⟨row, member, same⟩ := List.any_eq_true.1 known
    have kept : (rows.map fun existing => if existing.kind = warning.kind then existing.again warning else existing).map
        GroupedWarning.kind = rows.map GroupedWarning.kind := by
      rw [List.map_map]
      apply List.map_congr_left
      intro existing _
      rw [Function.comp_apply]
      split
      · exact existing.again_kind warning
      · rfl
    constructor
    · rw [kept]
      exact groups.distinct
    · intro w added
      have found : ∃ row ∈ rows, row.kind = w.kind := by
        cases List.mem_append.1 added with
        | inl old => exact groups.complete w old
        | inr new =>
          rw [List.mem_singleton.1 new]
          exact ⟨row, member, of_decide_eq_true same⟩
      obtain ⟨row, member, same⟩ := found
      have listed := List.mem_map_of_mem (f := GroupedWarning.kind) member
      rw [← kept] at listed
      obtain ⟨after, member, kind⟩ := List.mem_map.1 listed
      exact ⟨after, member, kind.trans same⟩
    · intro after member
      obtain ⟨row, old, rfl⟩ := List.mem_map.1 member
      split
      next same => exact (groups.rowOf row old).again same
      next differs => exact (groups.rowOf row old).other differs
  next unknown =>
    have differs (row : GroupedWarning) (member : row ∈ rows) : row.kind ≠ warning.kind := by
      intro same
      exact unknown (List.any_eq_true.2 ⟨row, member, decide_eq_true same⟩)
    constructor
    · rw [List.map_append, List.map_singleton, List.nodup_append]
      refine ⟨groups.distinct, List.nodup_singleton _, ?_⟩
      intro kind member other new
      obtain ⟨row, old, rfl⟩ := List.mem_map.1 member
      rw [List.mem_singleton.1 new]
      exact differs row old
    · intro w added
      cases List.mem_append.1 added with
      | inl old =>
        obtain ⟨row, member, same⟩ := groups.complete w old
        exact ⟨row, List.mem_append_left _ member, same⟩
      | inr new =>
        rw [List.mem_singleton.1 new]
        exact ⟨.first warning, List.mem_append_right _ List.mem_cons_self, rfl⟩
    · intro row member
      cases List.mem_append.1 member with
      | inl old => exact (groups.rowOf row old).other (differs row old)
      | inr new =>
        rw [List.mem_singleton.1 new]
        apply RowOf.first
        intro w old same
        obtain ⟨row, member, kind⟩ := groups.complete w old
        exact differs row member (kind.trans same)

theorem groups_byKind (warnings : List WarningEntry) : Groups warnings (byKind warnings) := by
  have all (warnings before : List WarningEntry) (rows : List GroupedWarning) (groups : Groups before rows) :
      Groups (before ++ warnings) (warnings.foldl groupWarning rows) := by
    induction warnings generalizing before rows with
    | nil => rwa [List.append_nil]
    | cons warning rest ih =>
      have next := ih _ _ (groups.groupWarning warning)
      rwa [List.append_assoc, List.singleton_append] at next
  exact all warnings [] [] ⟨List.nodup_nil, List.forall_mem_nil _, List.forall_mem_nil _⟩

/-! ## The panel -/

/-- At most five kinds, the latest first; a kind is left out only behind five that are as late. -/
structure Panel (warnings : List WarningEntry) (rows : List GroupedWarning) : Prop where
  atMost : rows.length ≤ 5
  distinct : (rows.map GroupedWarning.kind).Nodup
  latestFirst : rows.Pairwise fun upper lower => lower.lastReceivedAtMs ≤ upper.lastReceivedAtMs
  rowOf : ∀ row ∈ rows, RowOf warnings row
  rest : ∀ warning ∈ warnings, (∃ row ∈ rows, row.kind = warning.kind) ∨
    rows.length = 5 ∧ ∀ row ∈ rows, warning.receivedAtMs ≤ row.lastReceivedAtMs

/-- No warning of a row's kind is later than the row says. -/
theorem RowOf.latest {warnings : List WarningEntry} {row : GroupedWarning} (rowOf : RowOf warnings row) :
    ∀ warning ∈ warnings, warning.kind = row.kind → warning.receivedAtMs ≤ row.lastReceivedAtMs := by
  obtain ⟨-, before, newest, after, rfl, -, -, -, last, earlier, later⟩ := rowOf
  intro warning member same
  rcases List.mem_append.1 member with old | rest
  · exact (earlier warning old same).le
  · rcases List.mem_cons.1 rest with rfl | next
    · exact last.ge
    · exact later warning next same

theorem panel_groupedWarnings (warnings : List WarningEntry) : Panel warnings (groupedWarnings warnings) := by
  have groups := groups_byKind warnings
  unfold groupedWarnings
  generalize sorted : (byKind warnings).mergeSort (fun a b => decide (b.lastReceivedAtMs ≤ a.lastReceivedAtMs)) = rows
  have perm : rows.Perm (byKind warnings) := sorted ▸ List.mergeSort_perm _ _
  have order : rows.Pairwise fun upper lower => lower.lastReceivedAtMs ≤ upper.lastReceivedAtMs := by
    have pairwise := @List.pairwise_mergeSort GroupedWarning
      (fun a b => decide (b.lastReceivedAtMs ≤ a.lastReceivedAtMs))
      (fun a b c first second => by
        rw [decide_eq_true_eq] at first second ⊢
        exact second.trans first)
      (fun a b => by
        rw [Bool.or_eq_true, decide_eq_true_eq, decide_eq_true_eq]
        exact le_total _ _)
      (byKind warnings)
    rw [sorted] at pairwise
    exact pairwise.imp fun first => of_decide_eq_true first
  constructor
  · exact List.length_take_le 5 rows
  · exact ((perm.map GroupedWarning.kind).nodup_iff.2 groups.distinct).sublist ((List.take_sublist 5 rows).map _)
  · exact order.sublist (List.take_sublist 5 rows)
  · exact fun row member => groups.rowOf row (perm.mem_iff.1 (List.mem_of_mem_take member))
  · intro warning member
    obtain ⟨row, listed, same⟩ := groups.complete warning member
    have late := (groups.rowOf row listed).latest warning member same.symm
    rw [← perm.mem_iff, ← List.take_append_drop 5 rows, List.mem_append] at listed
    cases listed with
    | inl shown => exact .inl ⟨row, shown, same⟩
    | inr hidden =>
      right
      have more : 0 < (rows.drop 5).length := List.length_pos_of_mem hidden
      rw [List.length_drop] at more
      rw [← List.take_append_drop 5 rows, List.pairwise_append] at order
      refine ⟨?_, fun upper shown => late.trans (order.2.2 upper shown row hidden)⟩
      rw [List.length_take]
      omega

/-! ## From the envelopes -/

/-- The warnings that have come since the last clearing, newest first. -/
def warningsAfter (warnings : List WarningEntry) : DashboardEvent → List WarningEntry
  | .parsedEnvelope envelope receivedAtMs =>
    if envelope.event = .warning then (Dashboard.warningEntry envelope receivedAtMs).toList ++ warnings else warnings
  | .clearWarnings => []
  | _ => warnings

def warningsOf (events : List DashboardEvent) : List WarningEntry := events.foldl warningsAfter []

theorem reduceBatch_warnings (state : StreamState) (batch : PendingStreamBatch) :
    (state.reduceBatch batch).warnings = state.warnings := by
  unfold StreamState.reduceBatch
  cases batch.linkStatus <;> rfl

open Dashboard in
theorem step_warnings {dashboard : Dashboard} {warnings : List WarningEntry}
    (shown : dashboard.state.warnings = warnings.take maxWarningEvents) (event : DashboardEvent) :
    (dashboard.step event).state.warnings = (warningsAfter warnings event).take maxWarningEvents := by
  rw [step_state]
  cases handed : dashboard.handed event with
  | some batch =>
    cases event with
    | animationFrame id =>
      rw [Option.elim_some, reduceBatch_warnings]
      exact shown
    | _ => cases handed
  | none =>
    rw [Option.elim_none]
    cases event with
    | parsedEnvelope envelope receivedAtMs =>
      unfold actions warningsAfter
      dsimp only
      split
      · cases warningEntry envelope receivedAtMs with
        | none => exact shown
        | some warning =>
          change (warning :: dashboard.state.warnings).take maxWarningEvents = (warning :: warnings).take maxWarningEvents
          rw [shown]
          unfold maxWarningEvents
          rw [List.take_succ_cons, List.take_succ_cons, List.take_take]
          rfl
      · cases schemaMismatch envelope with
        | none => exact shown
        | some detail =>
          have plain : (dashboard.state.reducer (.schemaMismatchDetected detail)).warnings = dashboard.state.warnings := by
            unfold StreamState.reducer
            dsimp only
            split <;> rfl
          exact plain.trans shown
    | connectionChange connected => cases connected <;> exact shown
    | clearWarnings => rfl
    | _ => exact shown

/-- The panel shows the last 120 warnings since they were last cleared, a row for each of the five latest kinds. -/
theorem warning_rows (source : OverlaySource) (events : List DashboardEvent) :
    Panel ((warningsOf events).take maxWarningEvents)
      (groupedWarnings (Dashboard.run source events).state.warnings) := by
  have shown : (Dashboard.run source events).state.warnings = (warningsOf events).take maxWarningEvents :=
    @Run.simulates Dashboard (List WarningEntry) _ Dashboard.step
      (fun dashboard warnings => dashboard.state.warnings = warnings.take maxWarningEvents) warningsAfter
      (fun _ _ event shown => step_warnings shown event) _ _ events rfl
  rw [shown]
  exact panel_groupedWarnings _

end AotDrone.Webapp
