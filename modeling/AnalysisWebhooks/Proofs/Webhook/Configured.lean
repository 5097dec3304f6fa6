import AnalysisWebhooks.Proofs.Text.Items
import AnalysisWebhooks.Webhook.Configuration
import Mathlib.Data.List.Forall2
import Mathlib.Data.Option.Basic

namespace AnalysisWebhooks.Configuration

variable {c d : Configuration} {subject : Subject} {scope id key text : String}

def HasText (c : Configuration) (key text : String) : Prop :=
  text ≠ "" ∧ ∃ value, c.values.lookup key = some value ∧ Text.trim value = text

theorem get?_eq_some : c.get? key = some text ↔ c.HasText key text := by
  unfold get? HasText
  cases c.values.lookup key with
  | none => simp
  | some value =>
    dsimp only
    split
    · rename_i blank
      rw [String.isEmpty_iff] at blank
      simp [blank, eq_comm]
    · rename_i filled
      rw [String.isEmpty_iff] at filled
      constructor
      · rintro ⟨rfl⟩
        exact ⟨filled, value, rfl, rfl⟩
      · rintro ⟨-, _, ⟨rfl⟩, rfl⟩
        rfl

theorem get?_congr (same : ∀ text, d.HasText key text ↔ c.HasText key text) :
    d.get? key = c.get? key :=
  Option.ext fun text => by rw [get?_eq_some, get?_eq_some, same]

def countedIds (c : Configuration) (scope : String) : List String :=
  ((c.values.lookup scope).elim [] Text.trimmedPieces).take 10

theorem webhookKeys_eq (c : Configuration) (scope : String) :
    c.webhookKeys scope = (c.countedIds scope).map fun id => scope ++ "." ++ id := by
  rw [webhookKeys, items, countedIds, ← Text.commaItems_eq_trimmedPieces]
  cases c.values.lookup scope <;> rfl

def Complete (c : Configuration) (scope id : String) : Prop :=
  (∃ name, c.HasText (scope ++ "." ++ id ++ ".name") name) ∧
    ∃ url, c.HasText (scope ++ "." ++ id ++ ".url") url

structure Describes (c : Configuration) (subject : Subject) (scope id : String) (w : Webhook) :
    Prop where
  subject : w.subject = subject
  name : c.HasText (scope ++ "." ++ id ++ ".name") w.name
  url : c.HasText (scope ++ "." ++ id ++ ".url") w.url

theorem webhook?_eq_some {w : Webhook} :
    c.webhook? subject (scope ++ "." ++ id) = some w ↔ c.Describes subject scope id w := by
  unfold webhook?
  constructor
  · intro h
    split at h
    · rename_i name url hname hurl
      cases h
      exact ⟨rfl, get?_eq_some.1 hname, get?_eq_some.1 hurl⟩
    · cases h
  · rintro ⟨rfl, hname, hurl⟩
    rw [get?_eq_some.2 hname, get?_eq_some.2 hurl]

theorem isSome_webhook? :
    (c.webhook? subject (scope ++ "." ++ id)).isSome = true ↔ c.Complete scope id := by
  rw [Option.isSome_iff_exists]
  constructor
  · rintro ⟨w, h⟩
    have described := webhook?_eq_some.1 h
    exact ⟨⟨_, described.name⟩, _, described.url⟩
  · rintro ⟨⟨name, hname⟩, url, hurl⟩
    exact ⟨⟨subject, name, url⟩, webhook?_eq_some.2 ⟨rfl, hname, hurl⟩⟩

instance (c : Configuration) (scope id : String) : Decidable (c.Complete scope id) :=
  decidable_of_iff ((c.webhook? ⟨"", none, none⟩ (scope ++ "." ++ id)).isSome = true)
    isSome_webhook?

def Lists (c : Configuration) (subject : Subject) (scope : String) (webhooks : List Webhook) :
    Prop :=
  List.Forall₂ (c.Describes subject scope)
    ((c.countedIds scope).filter fun id => c.Complete scope id) webhooks

theorem lists_iff {webhooks : List Webhook} : c.Lists subject scope webhooks ↔
    webhooks = (c.webhookKeys scope).filterMap (c.webhook? subject) := by
  let entry (id : String) : Option Webhook := c.webhook? subject (scope ++ "." ++ id)
  have complete : (fun id => decide (c.Complete scope id)) = Option.isSome ∘ entry := by
    funext id
    rw [← Bool.decide_coe ((Option.isSome ∘ entry) id)]
    exact decide_eq_decide.2 isSome_webhook?.symm
  have described : c.Describes subject scope = fun id w => entry id = some w := by
    funext id w
    exact propext webhook?_eq_some.symm
  calc c.Lists subject scope webhooks
      ↔ ((c.countedIds scope).filter (Option.isSome ∘ entry)).map entry = webhooks.map some := by
        rw [Lists, complete, described, ← List.forall₂_eq_eq_eq, List.forall₂_map_left_iff,
          List.forall₂_map_right_iff]
    _ ↔ ((c.countedIds scope).filterMap entry).map some = webhooks.map some := by
        rw [← List.filter_map, List.map_filterMap_some_eq_filter_map_isSome]
    _ ↔ webhooks = (c.webhookKeys scope).filterMap (c.webhook? subject) := by
        rw [webhookKeys_eq, List.filterMap_map, eq_comm]
        exact (List.map_injective_iff.2 (Option.some_injective _)).eq_iff

theorem webhooks_eq_append (c : Configuration) (subject : Subject) : c.webhooks subject =
    (c.webhookKeys globalScope).filterMap (c.webhook? subject) ++
      (c.webhookKeys projectScope).filterMap (c.webhook? subject) :=
  List.filterMap_append

theorem Lists.length_le {webhooks : List Webhook} (h : c.Lists subject scope webhooks) :
    webhooks.length ≤ 10 :=
  calc webhooks.length = ((c.countedIds scope).filter fun id => c.Complete scope id).length :=
        (List.Forall₂.length_eq h).symm
    _ ≤ (c.countedIds scope).length := List.length_filter_le ..
    _ ≤ 10 := List.length_take_le ..

theorem webhooks_eq_nil (h : c.isEnabled = false) (subject : Subject) :
    c.webhooks subject = [] := by
  simp only [isEnabled, List.any_cons, List.any_nil, Bool.or_false, Bool.or_eq_false_iff,
    Bool.not_eq_false', List.isEmpty_iff] at h
  simp [webhooks, webhookKeys, h.1, h.2]

def SameEntries (c d : Configuration) : Prop :=
  ∀ scope ∈ [globalScope, projectScope], d.countedIds scope = c.countedIds scope ∧
    ∀ id ∈ c.countedIds scope, ∀ field ∈ [".name", ".url"], ∀ text,
      d.HasText (scope ++ "." ++ id ++ field) text ↔ c.HasText (scope ++ "." ++ id ++ field) text

def footprint (c : Configuration) : List String :=
  [globalScope, projectScope].flatMap fun scope => scope ::
    (c.countedIds scope).flatMap fun id => [".name", ".url"].map fun field =>
      scope ++ "." ++ id ++ field

theorem webhooks_congr (same : c.SameEntries d) (subject : Subject) :
    d.webhooks subject = c.webhooks subject := by
  have alike {scope : String} (h : scope ∈ [globalScope, projectScope]) :
      (d.webhookKeys scope).filterMap (d.webhook? subject) =
        (c.webhookKeys scope).filterMap (c.webhook? subject) := by
    obtain ⟨ids, entries⟩ := same scope h
    rw [webhookKeys_eq, webhookKeys_eq, ids, List.filterMap_map, List.filterMap_map]
    refine List.filterMap_congr fun id hid => ?_
    have name := get?_congr (entries id hid ".name" (by simp))
    have url := get?_congr (entries id hid ".url" (by simp))
    simp only [Function.comp_apply, webhook?, name, url]
  rw [webhooks_eq_append, webhooks_eq_append, alike (by simp), alike (by simp)]

theorem sameEntries_of_footprint
    (same : ∀ key ∈ c.footprint, d.values.lookup key = c.values.lookup key) : c.SameEntries d := by
  intro scope hscope
  have list : scope ∈ c.footprint :=
    List.mem_flatMap.2 ⟨scope, hscope, List.mem_cons_self⟩
  refine ⟨by rw [countedIds, countedIds, same scope list], fun id hid field hfield text => ?_⟩
  have entry : scope ++ "." ++ id ++ field ∈ c.footprint :=
    List.mem_flatMap.2 ⟨scope, hscope, List.mem_cons_of_mem _
      (List.mem_flatMap.2 ⟨id, hid, List.mem_map_of_mem hfield⟩)⟩
  rw [HasText, HasText, same _ entry]

theorem webhooks_of_first_ids (c : Configuration) (subject : Subject) :
    (∀ webhooks, webhooks = c.webhooks subject ↔ ∃ shared own, webhooks = shared ++ own ∧
      c.Lists subject globalScope shared ∧ c.Lists subject projectScope own) ∧
    (∀ scope webhooks, c.Lists subject scope webhooks → webhooks.length ≤ 10) ∧
    (c.webhooks subject).length ≤ 20 ∧
    (∀ d, c.SameEntries d → d.webhooks subject = c.webhooks subject) ∧
    (∀ d : Configuration, (∀ key ∈ c.footprint, d.values.lookup key = c.values.lookup key) →
      d.webhooks subject = c.webhooks subject) ∧
    (c.webhooks subject ≠ [] → c.isEnabled = true) := by
  have shared : c.Lists subject globalScope _ := lists_iff.2 rfl
  have own : c.Lists subject projectScope _ := lists_iff.2 rfl
  refine ⟨fun webhooks => ⟨?_, ?_⟩, fun scope webhooks => Lists.length_le, ?_,
    fun d same => webhooks_congr same subject,
    fun d same => webhooks_congr (sameEntries_of_footprint same) subject, fun present => ?_⟩
  · rintro rfl
    exact ⟨_, _, c.webhooks_eq_append subject, shared, own⟩
  · rintro ⟨first, second, rfl, hfirst, hsecond⟩
    rw [webhooks_eq_append, lists_iff.1 hfirst, lists_iff.1 hsecond]
  · rw [webhooks_eq_append, List.length_append]
    exact Nat.add_le_add shared.length_le own.length_le
  · by_contra disabled
    exact present (webhooks_eq_nil (Bool.eq_false_iff.2 disabled) subject)

def crowded (more : String) : Configuration where
  values := [("sonar.webhooks.global", "a, b,,a,x.y,e,f,g,h,i,j" ++ more),
    ("sonar.webhooks.global.a.name", " A "), ("sonar.webhooks.global.a.url", "http://a"),
    ("sonar.webhooks.global.b.name", " "), ("sonar.webhooks.global.b.url", "http://b"),
    ("sonar.webhooks.global.x.y.name", "XY"), ("sonar.webhooks.global.x.y.url", " http://xy"),
    ("sonar.webhooks.global.k.name", "K"), ("sonar.webhooks.global.k.url", "http://k")]

theorem webhooks_of_first_ids_crowded :
    let subject : Subject := ⟨"p", some "t", some "a"⟩
    let c := crowded ""
    let renamed : Configuration := ⟨("sonar.webhooks.global.k.name", " ") :: c.values⟩
    (crowded ", k").webhooks subject = c.webhooks subject ∧
      renamed.webhooks subject = c.webhooks subject ∧
      c.webhooks subject = [⟨subject, "A", "http://a"⟩, ⟨subject, "A", "http://a"⟩,
        ⟨subject, "XY", "http://xy"⟩] ∧
      c.Lists subject globalScope (c.webhooks subject) ∧ (c.webhooks subject).length ≤ 10 ∧
      c.isEnabled = true := by
  intro subject c renamed
  have found : c.webhooks subject = [⟨subject, "A", "http://a"⟩, ⟨subject, "A", "http://a"⟩,
      ⟨subject, "XY", "http://xy"⟩] := by decide +kernel
  have sameValues : ∀ scope ∈ [globalScope, projectScope],
      (crowded ", k").countedIds scope = c.countedIds scope ∧
        ∀ id ∈ c.countedIds scope, ∀ field ∈ [".name", ".url"],
          (crowded ", k").get? (scope ++ "." ++ id ++ field) =
            c.get? (scope ++ "." ++ id ++ field) := by decide +kernel
  have sameEntries : c.SameEntries (crowded ", k") := fun scope hscope =>
    ⟨(sameValues scope hscope).1, fun id hid field hfield text => by
      rw [← get?_eq_some, ← get?_eq_some, (sameValues scope hscope).2 id hid field hfield]⟩
  have sameFootprint : ∀ key ∈ c.footprint, renamed.values.lookup key = c.values.lookup key := by
    decide +kernel
  have present : c.webhooks subject ≠ [] := by
    rw [found]
    exact List.cons_ne_nil _ _
  obtain ⟨split, capped, -, entries, footprint, enabled⟩ := webhooks_of_first_ids c subject
  obtain ⟨shared, own, both, listed, alone⟩ := (split _).1 rfl
  have own_nil : own = [] := by
    have none : c.countedIds projectScope = [] := by decide +kernel
    rw [Lists, none] at alone
    exact List.forall₂_nil_left_iff.1 alone
  rw [own_nil, List.append_nil] at both
  rw [← both] at listed
  exact ⟨entries _ sameEntries, footprint _ sameFootprint, found, listed, capped _ _ listed,
    enabled present⟩

end AnalysisWebhooks.Configuration
