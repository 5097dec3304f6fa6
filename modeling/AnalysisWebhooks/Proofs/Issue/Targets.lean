import AnalysisWebhooks.Proofs.Issue.Lookup

namespace AnalysisWebhooks

namespace ChangeSet

variable {c : ChangeSet} {s : Store} {components : List ComponentRef}

theorem find?_rowsOf {keys : List String} {uuid : String} (asked : uuid ∈ keys) :
    (Store.rowsOf (·.uuid) keys s.components).find? (fun row => RawText.plain row.uuid = uuid) =
      s.components.find? fun row => RawText.plain row.uuid = uuid := by
  rw [← List.head?_filter, ← List.head?_filter, Store.filter_rowsOf_key _ asked (by simp)]

theorem component?_eq {keys : List String} (asked : c.missing = keys.map .plain) {i : IssueRef}
    (hi : i ∈ c.issues) :
    c.component? (Store.rowsOf (·.uuid) keys s.components) i.component = c.componentOf s i := by
  rw [component?, componentOf, lastWith_eq]
  cases told : (c.components.filter (·.uuid = i.component)).getLast? with
  | some component => rfl
  | none =>
    have untold : ∀ x ∈ c.components, x.uuid ≠ i.component := by
      simpa [List.getLast?_eq_none_iff] using told
    have hmissing : i.component ∈ c.missing := by
      refine List.mem_filter.2 ⟨List.mem_eraseDups.2 (List.mem_map_of_mem hi), ?_⟩
      simpa using untold
    rw [asked] at hmissing
    obtain ⟨uuid, huuid, same⟩ := List.mem_map.1 hmissing
    rw [← same, find?_rowsOf huuid]

theorem exists_branchComponents :
    (∃ components, c.branchComponents s = .ok components) ↔ Store.Binds c.missing := by
  rw [← Store.exists_bound]
  simp only [branchComponents, Store.componentsOf]
  cases Store.bound c.missing with
  | ok keys => exact iff_of_true ⟨_, rfl⟩ ⟨keys, rfl⟩
  | error failure => exact iff_of_false nofun nofun

theorem mem_branchComponents (h : c.branchComponents s = .ok components) {x : ComponentRef} :
    x ∈ components ↔ x ∈ c.touched s := by
  obtain ⟨stored, hstored, h⟩ := bind_eq_ok.1 h
  obtain ⟨keys, hkeys, hstored⟩ := bind_eq_ok.1 hstored
  cases hstored
  cases h
  have asked := (Store.bound_eq_ok.1 hkeys).2
  simp only [touched, List.mem_filter, List.mem_filterMap, componentUuids, List.mem_eraseDups,
    List.mem_map]
  constructor
  · rintro ⟨⟨uuid, ⟨i, hi, rfl⟩, hx⟩, hmain⟩
    exact ⟨⟨i, hi, component?_eq asked hi ▸ hx⟩, hmain⟩
  · rintro ⟨⟨i, hi, hx⟩, hmain⟩
    exact ⟨⟨i.component, ⟨i, hi, rfl⟩, (component?_eq asked hi).trans hx⟩, hmain⟩

theorem mem_roots (h : c.branchComponents s = .ok components) (uuid : RawText) :
    uuid ∈ components.map (·.root) ↔ uuid ∈ c.roots s := by
  simp only [roots, List.mem_map, mem_branchComponents h]

theorem mem_mainProjects (h : c.branchComponents s = .ok components) {project : RawText} :
    project ∈ (components.filterMap (·.mainProject)).eraseDups ↔ project ∈ c.mainProjects s := by
  simp only [mainProjects, List.mem_eraseDups, List.mem_filterMap, mem_branchComponents h]

end ChangeSet

theorem lookup_map_filter {α : Type} (f : String → α) (p : α → Bool) (keys : List String)
    (key : String) :
    ((keys.map fun k => (k, f k)).filter fun entry => p entry.2).lookup key =
      if keys.contains key && p (f key) then some (f key) else none := by
  induction keys with
  | nil => rfl
  | cons k rest ih =>
    rw [List.map_cons, List.filter_cons]
    by_cases hk : key = k
    · subst hk
      cases hp : p (f key) with
      | true => simp
      | false =>
        simp only [Bool.false_eq_true, if_false, ih, hp, Bool.and_false]
    · have other : (key == k) = false := beq_false_of_ne hk
      cases hp : p (f k) <;> simp [List.lookup_cons, other, ih, hk]

def IssueTarget.notice (configuration : Configuration) (t : IssueTarget) : Notice :=
  ⟨configuration, t.subject, t.outcome⟩

theorem Store.notice?_eq {s : Store} {row : BranchRow String} {b : BranchRow BranchKind}
    (h : row.read = .ok b) :
    s.notice? row =
      (s.targetOf b).map (IssueTarget.notice (s.configurationFor (some b.project))) := by
  have hb := (BranchRow.read_eq_ok.1 h).2
  have huuid : row.uuid = b.uuid := by rw [hb]
  have hproject : row.project = b.project := by rw [hb]
  have hkey : row.key = b.key := by rw [hb]
  rw [notice?, targetOf, huuid, hproject, hkey]
  cases s.lastComponent b.uuid with
  | none => rfl
  | some component =>
    cases s.lastSnapshot b.uuid with
    | none => rfl
    | some snapshot =>
      simp only [Option.bind_eq_bind, Option.bind_some]
      cases s.lastActivity snapshot.uuid with
      | none => rfl
      | some activity =>
        simp only [Option.bind_some]
        cases TaskStatus.names.lookup activity.status <;> rfl

theorem Store.branch_of_targetOf {s : Store} {b : BranchRow BranchKind} {t : IssueTarget}
    (h : s.targetOf b = some t) : t.branch = b := by
  simp only [targetOf, Option.bind_eq_bind, Option.bind_eq_some_iff, Option.pure_def,
    Option.some.injEq] at h
  obtain ⟨_, -, _, -, _, -, _, -, rfl⟩ := h
  rfl

theorem Store.configuration_of_notice? {s : Store} {row : BranchRow String} {n : Notice}
    (h : s.notice? row = some n) : n.configuration = s.configurationFor (some row.project) := by
  simp only [notice?, Option.bind_eq_bind, Option.bind_eq_some_iff, Option.pure_def,
    Option.some.injEq] at h
  obtain ⟨_, -, _, -, _, -, _, -, rfl⟩ := h
  rfl

theorem Store.snapshot_of_notice? {s : Store} {row : BranchRow String} {n : Notice}
    (h : s.notice? row = some n) :
    ∃ snapshot ∈ s.snapshots, n.subject.analysis = some (.plain snapshot.uuid) := by
  simp only [notice?, Option.bind_eq_bind, Option.bind_eq_some_iff, Option.pure_def,
    Option.some.injEq] at h
  obtain ⟨_, -, snapshot, last, _, -, _, -, rfl⟩ := h
  exact ⟨snapshot, List.mem_of_mem_filter (List.mem_of_getLast? last), rfl⟩

theorem Store.linkTexts_of_notice? {s : Store} {row : BranchRow String} {n : Notice}
    (h : s.notice? row = some n) :
    ∃ texts : List String, n.analysis.linkTexts = texts.map .plain := by
  simp only [notice?, Option.bind_eq_bind, Option.bind_eq_some_iff, Option.pure_def,
    Option.some.injEq] at h
  obtain ⟨component, -, _, -, _, -, _, -, rfl⟩ := h
  exact ⟨[component.key, row.key], rfl⟩

section Targets

variable {c : ChangeSet} {s : Store} {components : List ComponentRef}
  {configurations : List (String × Configuration)}

theorem exists_enabledConfigurations (h : c.branchComponents s = .ok components) :
    (∃ configurations, enabledConfigurations s components = .ok configurations) ↔
      ∀ project ∈ c.mainProjects s, project.isUnicode = true := by
  simp only [← ChangeSet.mem_mainProjects h]
  rw [← RawText.exists_mapM_encoded]
  unfold enabledConfigurations
  cases List.mapM RawText.encoded _ with
  | ok projects => exact iff_of_true ⟨_, rfl⟩ ⟨projects, rfl⟩
  | error failure => exact iff_of_false nofun nofun

theorem lookup_enabledConfigurations (h : c.branchComponents s = .ok components)
    (enabled : enabledConfigurations s components = .ok configurations) (project : String) :
    configurations.lookup project =
      if (c.mainProjects s).contains (.plain project) &&
        (s.configurationFor (some project)).isEnabled then
        some (s.configurationFor (some project)) else none := by
  obtain ⟨projects, hprojects, enabled⟩ := bind_eq_ok.1 enabled
  cases enabled
  have same : projects.contains project = (c.mainProjects s).contains (.plain project) := by
    rw [Bool.eq_iff_iff, List.contains_iff_mem, List.contains_iff_mem,
      ← ChangeSet.mem_mainProjects h, RawText.mapM_encoded_eq_ok.1 hprojects,
      List.mem_map_of_injective RawText.plain_injective]
  rw [lookup_map_filter (fun project => s.configurationFor (some project)) (·.isEnabled), same]

theorem targets_eq (h : c.branchComponents s = .ok components)
    (enabled : enabledConfigurations s components = .ok configurations)
    {rows : List (BranchRow String)} {branches : List (BranchRow BranchKind)}
    (read : List.Forall₂ (fun row b => BranchRow.read row = .ok b) rows branches) :
    ((IssueLookup.mk configurations
      (branches.map fun b => (b, s.targetOf b))).targets.map fun (configuration, t) =>
        t.notice configuration) =
      ((rows.filter fun row => (c.mainProjects s).contains (.plain row.project)).filterMap
        s.notice?).filter (·.configuration.isEnabled) := by
  unfold IssueLookup.targets
  induction read with
  | nil => rfl
  | @cons row b rows branches hread _ ih =>
    have hproject : row.project = b.project := by rw [(BranchRow.read_eq_ok.1 hread).2]
    rw [List.map_cons, List.filterMap_cons, List.filter_cons, hproject]
    dsimp only at ih ⊢
    cases ht : s.targetOf b with
    | none =>
      simp only [Option.bind_none]
      rw [ih]
      split
      · rw [List.filterMap_cons, Store.notice?_eq hread, ht]
        rfl
      · rfl
    | some t =>
      rw [Option.bind_some, Store.branch_of_targetOf ht, lookup_enabledConfigurations h enabled]
      cases hmain : (c.mainProjects s).contains (.plain b.project) with
      | false => simpa using ih
      | true =>
        have hnotice : s.notice? row = some (t.notice (s.configurationFor (some b.project))) := by
          rw [Store.notice?_eq hread, ht]
          rfl
        simp only [Bool.true_and, if_true]
        rw [List.filterMap_cons, hnotice]
        dsimp only
        rw [List.filter_cons]
        cases henabled : (s.configurationFor (some b.project)).isEnabled with
        | false => simpa [IssueTarget.notice, henabled] using ih
        | true => simpa [IssueTarget.notice, henabled] using ih

end Targets

end AnalysisWebhooks
