import AnalysisWebhooks.Proofs.Webhook.Decoding

namespace AnalysisWebhooks

open Calendar

theorem TaskStatus.name_injective : Function.Injective name := by
  intro s t
  cases s <;> cases t <;> decide

theorem BranchKind.name_injective : Function.Injective name := by
  intro k l
  cases k <;> cases l <;> decide

theorem GateStatus.name_injective : Function.Injective name := by
  intro s t
  cases s <;> cases t <;> decide

theorem Operator.name_injective : Function.Injective name := by
  intro o p
  cases o <;> cases p <;> decide

theorem Measure.eq_of_names {x y : Measure} (hname : x.statusName = y.statusName)
    (htext : x.text? = y.text?) : x = y := by
  cases x <;> cases y
  case noValue.noValue => rfl
  case value.value =>
    rw [GateStatus.name_injective hname, Option.some.inj htext]
  all_goals cases htext

section Found

variable {m : Json.Members} {key : String}

theorem text_of_get? {s t : RawText} (hs : Json.get? m key = some (.text s))
    (ht : Json.get? m key = some (.text t)) : s = t :=
  Json.text.inj (Option.some.inj (hs.symm.trans ht))

theorem name_of_get? {s t : String} (hs : Json.get? m key = some (.text s))
    (ht : Json.get? m key = some (.text t)) : s = t :=
  RawText.plain.inj (text_of_get? hs ht)

theorem flag_of_get? {b c : Bool} (hb : Json.get? m key = some (.bool b))
    (hc : Json.get? m key = some (.bool c)) : b = c :=
  Json.bool.inj (Option.some.inj (hb.symm.trans hc))

theorem texts_of_get? {s t : Option RawText} (hs : Json.get? m key = s.map .text)
    (ht : Json.get? m key = t.map .text) : s = t :=
  Option.map_injective (fun _ _ => Json.text.inj) (hs.symm.trans ht)

end Found

theorem Condition.Told.unique {c d : Condition} {m : Json.Members} (hc : c.Told m)
    (hd : d.Told m) : c = d := by
  have hmeasure : c.measure = d.measure :=
    Measure.eq_of_names (name_of_get? hc.status hd.status) (texts_of_get? hc.value hd.value)
  cases c
  cases d
  cases hmeasure
  cases text_of_get? hc.metric hd.metric
  cases Operator.name_injective (name_of_get? hc.operator hd.operator)
  cases flag_of_get? hc.onLeakPeriod hd.onLeakPeriod
  cases texts_of_get? hc.errorThreshold hd.errorThreshold
  cases texts_of_get? hc.warningThreshold hd.warningThreshold
  rfl

structure QualityGate.SameNews (g h : QualityGate) : Prop where
  name : g.name = h.name
  status : g.status = h.status
  conditions : g.conditions = h.conditions

theorem QualityGate.Told.unique {g h : QualityGate} {m : Json.Members} (hg : g.Told m)
    (hh : h.Told m) : g.SameNews h := by
  refine ⟨text_of_get? hg.name hh.name,
    GateStatus.name_injective (name_of_get? hg.status hh.status), ?_⟩
  obtain ⟨items, hitems, told⟩ := hg.conditions
  obtain ⟨items', hitems', told'⟩ := hh.conditions
  cases hitems.symm.trans hitems'
  refine List.left_unique_forall₂' (fun c j d hc hd => ?_) told told'
  obtain ⟨n, rfl, hc⟩ := hc
  obtain ⟨n', heq, hd⟩ := hd
  cases heq
  exact hc.unique hd

theorem Branch.Told.unique {b c : Branch} {server server' : Server} {key key' : RawText}
    {m : Json.Members} (hb : b.Told server key m) (hc : c.Told server' key' m) : b = c := by
  cases b
  cases c
  cases flag_of_get? hb.isMain hc.isMain
  cases texts_of_get? hb.name hc.name
  cases BranchKind.name_injective (name_of_get? hb.kind hc.kind)
  rfl

theorem rel_unique {α β γ : Type} {r : α → γ → Prop} {r' : β → γ → Prop} {s : α → β → Prop}
    (h : ∀ a b c, r a c → r' b c → s a b) {x : Option α} {y : Option β} {z : Option γ}
    (hx : Option.Rel r x z) (hy : Option.Rel r' y z) : Option.Rel s x y := by
  cases hx with
  | none =>
    cases hy
    exact .none
  | some hx =>
    cases hy with
    | some hy => exact .some (h _ _ _ hx hy)

theorem eq_of_rel {α : Type} {x y : Option α} (h : Option.Rel (· = ·) x y) : x = y := by
  cases h with
  | none => rfl
  | some h => rw [h]

namespace ProjectAnalysis

structure SameNews (a b : ProjectAnalysis) : Prop where
  task : a.task = b.task
  projectKey : a.project.key = b.project.key
  projectName : a.project.name = b.project.name
  branch : a.branch = b.branch
  analysedAt : a.analysis.map (·.date.publicText) = b.analysis.map (·.date.publicText)
  gate : Option.Rel QualityGate.SameNews a.gate b.gate
  properties : (a.properties.filter fun p =>
      (RawText.plain "sonar.analysis.").units <+: p.1.units) =
    b.properties.filter fun p => (RawText.plain "sonar.analysis.").units <+: p.1.units

theorem Told.unique {a b : ProjectAnalysis} {server server' : Server} {now now' : Moment}
    {m : Json.Members} (ha : a.Told server now m) (hb : b.Told server' now' m) :
    a.SameNews b := by
  obtain ⟨n, hn, hproject⟩ := ha.project
  obtain ⟨n', hn', hproject'⟩ := hb.project
  cases hn.symm.trans hn'
  constructor
  case task =>
    have hid := text_of_get? ha.taskId hb.taskId
    have hstatus := TaskStatus.name_injective (name_of_get? ha.status hb.status)
    exact (congrArg₂ Task.mk hid hstatus : Task.mk a.task.id a.task.status = _)
  case projectKey => exact text_of_get? hproject.key hproject'.key
  case projectName => exact text_of_get? hproject.name hproject'.name
  case branch =>
    refine eq_of_rel (rel_unique (fun b c j => ?_) ha.branch hb.branch)
    rintro ⟨n, rfl, hb⟩ ⟨n', heq, hc⟩
    cases heq
    exact hb.unique hc
  case analysedAt =>
    refine Option.map_injective RawText.plain_injective
      (texts_of_get? (ha.analysedAt.trans ?_) (hb.analysedAt.trans ?_)) <;>
      rw [Option.map_map, Option.map_map] <;> rfl
  case gate =>
    refine rel_unique (fun g h j => ?_) ha.gate hb.gate
    rintro ⟨n, rfl, hg⟩ ⟨n', heq, hh⟩
    cases heq
    exact hg.unique hh
  case properties =>
    have hlist := Json.object.inj (Option.some.inj (ha.properties.symm.trans hb.properties))
    refine List.map_injective_iff.2 (fun p q hpq => ?_) hlist
    obtain ⟨hkey, hvalue⟩ := Prod.mk.inj hpq
    exact Prod.ext hkey (Json.text.inj hvalue)

theorem chars_body (a : ProjectAnalysis) (server : Server) (now : Moment) :
    (a.payload server now).body.toList = (a.document server now).chars :=
  String.toList_ofList

theorem payload_decodes (a : ProjectAnalysis) (hkeys : (a.properties.map (·.1)).Nodup)
    (server : Server) (now : Moment) :
    (a.IsLinkable → a.createPayload server now = .ok (a.payload server now)) ∧
    (∀ c ∈ (a.payload server now).body.toList, 0x20 ≤ c.toNat ∧ c.toNat ≤ 0x7E) ∧
    (∃ m, Json.parse? (a.payload server now).body = some (.object m) ∧
      Json.ofText? (a.payload server now).body = some (.object m) ∧ a.Told server now m) ∧
    ∀ (b : ProjectAnalysis) (server' : Server) (now' : Moment),
      (b.properties.map (·.1)).Nodup →
      (b.payload server' now').body = (a.payload server now).body →
      server' = server ∧ b.SameNews a ∧
        ((b.analysis.map (·.date)).getD now').publicText =
          ((a.analysis.map (·.date)).getD now).publicText := by
  have hplain := plain_document hkeys server now
  have hparse := Json.parse?_write hplain
  obtain ⟨m, hm, told⟩ := a.told_document server now
  refine ⟨fun linkable => createPayload_eq_ok linkable server now, fun c hc =>
    hplain.printable c (a.chars_body server now ▸ hc),
    ⟨m, hparse.trans (congrArg some hm), (Json.ofText?_write hplain).trans (congrArg some hm),
      told⟩,
    fun b server' now' hkeys' hbody => ?_⟩
  have hparse' : Json.parse? (a.payload server now).body = some (b.document server' now') :=
    hbody ▸ Json.parse?_write (plain_document hkeys' server' now')
  obtain ⟨m', hm', told'⟩ := b.told_document server' now'
  have heq := hparse'.symm.trans hparse
  rw [hm, hm'] at heq
  cases heq
  refine ⟨?_, told'.unique told, name_of_get? told'.changedAt told.changedAt⟩
  exact congrArg Server.mk (name_of_get? told'.serverUrl told.serverUrl)

def dawn : Moment :=
  ⟨0, some 0, by decide⟩

def loud : ProjectAnalysis where
  task := ⟨"t\"1\\", .success⟩
  project := ⟨"p", "key\x7f", "na\nme"⟩
  branch := some ⟨false, some "b\u2028😀", .short⟩
  analysis := some ⟨"a", dawn⟩
  gate := some ⟨"g", "gate", .error,
    [⟨"m", .lessThan, .value .error "\x00", true, some "9", none, .inl rfl⟩,
      ⟨"m", .equals, .noValue, false, none, some "", .inr rfl⟩]⟩
  properties := [("sonar.analysis.x", "😀"), ("sonar.password", "s"), ("sonar.analysis.", "\t")]
  gated := fun _ => rfl

def louder : ProjectAnalysis :=
  { loud with properties := [("sonar.analysis.x", "😁"), ("sonar.analysis.", "\t")] }

theorem payload_decodes_loud :
    (loud.properties.map (·.1)).Nodup ∧ loud.IsLinkable ∧
    loud.createPayload ⟨"s"⟩ dawn = .ok (loud.payload ⟨"s"⟩ dawn) ∧
      (louder.properties.map (·.1)).Nodup ∧
    (∀ c ∈ (loud.payload ⟨"s"⟩ dawn).body.toList, 0x20 ≤ c.toNat ∧ c.toNat ≤ 0x7E) ∧
    (∃ m, Json.ofText? (loud.payload ⟨"s"⟩ dawn).body = some (.object m) ∧
      loud.Told ⟨"s"⟩ dawn m) ∧
    loud.SameNews loud ∧ (louder.payload ⟨"s"⟩ dawn).body ≠ (loud.payload ⟨"s"⟩ dawn).body := by
  have hkeys : (loud.properties.map (·.1)).Nodup := by decide
  have hkeys' : (louder.properties.map (·.1)).Nodup := by decide
  have linkable : loud.IsLinkable := by decide
  obtain ⟨created, printable, ⟨m, -, hread, told⟩, same⟩ := payload_decodes loud hkeys ⟨"s"⟩ dawn
  refine ⟨hkeys, linkable, created linkable, hkeys', printable, ⟨m, hread, told⟩,
    (same loud ⟨"s"⟩ dawn hkeys rfl).2.1,
    fun hbody => ?_⟩
  have hproperties := (same louder ⟨"s"⟩ dawn hkeys' hbody).2.1.properties
  exact absurd hproperties (by decide)

end ProjectAnalysis

end AnalysisWebhooks
